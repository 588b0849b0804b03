import Retrace.Tool.Amount

/-!
# The calendar

Times are counted in seconds since the beginning of 1970, in the zone of Greenwich.
-/

namespace Retrace.Tool.Calendar

open Unix Text

def isLeap (year : Nat) : Bool := year % 4 = 0 && (year % 100 ≠ 0 || year % 400 = 0)

def daysBefore (year : Nat) : Nat :=
  let leaps := fun y : Nat => y / 4 - y / 100 + y / 400
  (year - 1970) * 365 + (leaps (year - 1) - leaps 1969)

def monthDays (year month : Nat) : Nat :=
  match month with
  | 2 => if isLeap year then 29 else 28
  | 4 | 6 | 9 | 11 => 30
  | _ => 31

/-! ## Parts of a time -/

structure Date where
  year : Nat
  month : Nat
  day : Nat
  hour : Nat
  minute : Nat
  second : Nat
  weekday : Nat
  yearday : Nat

def monthOf (year : Nat) : Nat → Nat → Nat → Nat × Nat
  | 0, month, day => (month, day + 1)
  | fuel + 1, month, day =>
    let days := monthDays year month
    if day < days then (month, day + 1) else monthOf year fuel (month + 1) (day - days)

def yearOf (days : Nat) : Nat :=
  let guess := 1970 + days / 366
  let later := (List.range 40).map (guess + ·)
  ((later.filter fun year => daysBefore year ≤ days).getLast?).getD guess

def ofSeconds (seconds : Nat) : Date :=
  let days := seconds / 86400
  let rest := seconds % 86400
  let year := yearOf days
  let yearday := days - daysBefore year
  let (month, day) := monthOf year 12 1 yearday
  { year, month, day, hour := rest / 3600, minute := rest % 3600 / 60, second := rest % 60
    weekday := (days + 4) % 7, yearday }

def monthNames : List String :=
  ["January", "February", "March", "April", "May", "June", "July", "August", "September", "October",
    "November", "December"]

def dayNames : List String :=
  ["Sunday", "Monday", "Tuesday", "Wednesday", "Thursday", "Friday", "Saturday"]

def digits (width : Nat) (fill : Char) (n : Nat) : Bytes :=
  let text := decimal n
  List.replicate (width - text.length) fill ++ text

variable (date : Date)

def Date.monthName : Bytes := ((monthNames[date.month - 1]?).getD "").toList
def Date.dayName : Bytes := ((dayNames[date.weekday]?).getD "").toList

def Date.part (seconds nanos : Nat) (flag : Option Char) (letter : Char) : Bytes :=
  let number := fun (width : Nat) (fill : Char) (n : Nat) =>
    match flag with
    | some '-' => decimal n
    | some '_' => digits width ' ' n
    | some '0' => digits width '0' n
    | _ => digits width fill n
  let two := number 2 '0'
  let half := if date.hour % 12 = 0 then 12 else date.hour % 12
  let clock := digits 2 '0' date.hour ++ ':' :: digits 2 '0' date.minute
  let full := digits 4 '0' date.year ++ '-' :: digits 2 '0' date.month ++ '-' :: digits 2 '0' date.day
  let upper := fun text : Bytes => if flag = some '^' then text.map Char.toUpper else text
  match letter with
  | '%' => ['%']
  | 'a' => upper (date.dayName.take 3)
  | 'A' => upper date.dayName
  | 'b' | 'h' => upper (date.monthName.take 3)
  | 'B' => upper date.monthName
  | 'c' =>
    date.dayName.take 3 ++ ' ' :: date.monthName.take 3 ++ ' ' :: digits 2 ' ' date.day ++ ' ' :: clock ++
      ':' :: digits 2 '0' date.second ++ ' ' :: digits 4 '0' date.year
  | 'C' => two (date.year / 100)
  | 'd' => two date.day
  | 'D' | 'x' =>
    digits 2 '0' date.month ++ '/' :: digits 2 '0' date.day ++ '/' :: digits 2 '0' (date.year % 100)
  | 'e' => number 2 ' ' date.day
  | 'F' => full
  | 'H' => two date.hour
  | 'I' => two half
  | 'j' => number 3 '0' (date.yearday + 1)
  | 'k' => number 2 ' ' date.hour
  | 'l' => number 2 ' ' half
  | 'm' => two date.month
  | 'M' => two date.minute
  | 'n' => ['\n']
  | 'N' => digits 9 '0' nanos
  | 'p' => if date.hour < 12 then "AM".toList else "PM".toList
  | 'P' => if date.hour < 12 then "am".toList else "pm".toList
  | 'q' => decimal ((date.month + 2) / 3)
  | 'r' =>
    digits 2 '0' half ++ ':' :: digits 2 '0' date.minute ++ ':' :: digits 2 '0' date.second ++
      if date.hour < 12 then " AM".toList else " PM".toList
  | 'R' => clock
  | 's' => decimal seconds
  | 'S' => two date.second
  | 't' => ['\t']
  | 'T' | 'X' => clock ++ ':' :: digits 2 '0' date.second
  | 'u' => decimal (if date.weekday = 0 then 7 else date.weekday)
  | 'w' => decimal date.weekday
  | 'y' => two (date.year % 100)
  | 'Y' => number 4 '0' date.year
  | 'z' => "+0000".toList
  | 'Z' => "UTC".toList
  | _ => ['%', letter]

def Date.format (date : Date) (seconds nanos : Nat) : Bytes → Bytes
  | '%' :: flag :: letter :: rest =>
    if flag = '-' || flag = '_' || flag = '0' || flag = '^' then
      date.part seconds nanos (some flag) letter ++ date.format seconds nanos rest
    else date.part seconds nanos none flag ++ date.format seconds nanos (letter :: rest)
  | '%' :: letter :: rest => date.part seconds nanos none letter ++ date.format seconds nanos rest
  | c :: rest => c :: date.format seconds nanos rest
  | [] => []

def format (micros : Nat) (text : String) : Bytes :=
  let seconds := micros / 1000000
  (ofSeconds seconds).format seconds (micros % 1000000 * 1000) text.toList

end Retrace.Tool.Calendar
