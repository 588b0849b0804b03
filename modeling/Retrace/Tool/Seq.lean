import Retrace.Shell.Real
import Retrace.Tool.Options
import Retrace.Tool.Amount
import Retrace.Tool.Quoted

/-!
# Rows of numbers

Numbers from one to another by steps, as exact decimals.
-/

namespace Retrace.Tool.Seq

open Unix Text

structure Number where
  units : Int
  places : Nat
  width : Nat := 0

def read? (text : Bytes) : Option Number := do
  let trimmed := text.dropWhile fun c => c = ' ' || ('\t' ≤ c && c ≤ '\r')
  let (negative, rest) : Bool × Bytes := match trimmed with
    | '-' :: rest => (true, rest)
    | '+' :: rest => (false, rest)
    | rest => (false, rest)
  let signed := fun n : Nat => if negative then -(n : Int) else (n : Int)
  match rest with
  | '0' :: x :: digits =>
    if (x = 'x' || x = 'X') && !digits.isEmpty && digits.all fun c => c.isDigit ||
        ('a' ≤ c.toLower && c.toLower ≤ 'f') then
      let value := digits.foldl (fun n c =>
        n * 16 + if c.isDigit then c.toNat - 48 else c.toLower.toNat - 87) 0
      return { units := signed value, places := 0, width := text.length }
    else decimal negative rest
  | _ => decimal negative rest
where
  decimal (negative : Bool) (rest : Bytes) : Option Number := do
    let whole := rest.takeWhile Char.isDigit
    let after := rest.drop whole.length
    let (fraction, after) : Bytes × Bytes := match after with
      | '.' :: more => (more.takeWhile Char.isDigit, more.dropWhile Char.isDigit)
      | _ => ([], after)
    if whole.isEmpty && fraction.isEmpty then none
    let power : Int ← match after with
      | [] => some 0
      | e :: more => if e = 'e' || e = 'E' then integer? more else none
    let written := rest.length - after.length + if negative then 1 else 0
    let width := fun (behind : Nat) (power : Int) =>
      if power < 0 then written + power.natAbs
      else written + (power.toNat - behind) - if 0 < behind && behind ≤ power.toNat then 1 else 0
    let value := digitsValue (whole ++ fraction)
    let places : Int := fraction.length - power
    let value : Int := if negative then -(value : Int) else value
    if 0 ≤ places then
      return { units := value, places := places.toNat, width := width fraction.length power }
    else return { units := value * Nat.pow 10 (-places).toNat, places := 0
                  width := width fraction.length power }

def Number.scaled (number : Number) (places : Nat) : Int :=
  number.units * Nat.pow 10 (places - number.places)

def Number.widthAt (number : Number) (places : Nat) : Nat :=
  let width := number.width + places - number.places
  if 0 < number.places && places = 0 then width - 1
  else if number.places = 0 && 0 < places then width + 1
  else width

def text (places : Nat) (units : Int) : Bytes :=
  let digits := Shell.Real.withPoint (decimal units.natAbs) places false
  if units < 0 then '-' :: digits else digits

def zeroFilled (width : Nat) (text : Bytes) : Bytes :=
  match text with
  | '-' :: digits => '-' :: (List.replicate (width - digits.length - 1) '0' ++ digits)
  | digits => List.replicate (width - digits.length) '0' ++ digits

/-- A format: what stands before and behind its one number, its flags and widths, and how that
is written. -/
structure Format where
  before : Bytes
  flags : Bytes
  width : Nat
  places : Option Nat
  letter : Char
  behind : Bytes

inductive Flaw where
  | none
  | ends
  | unknown (letter : Char)
  | several

def Flaw.text (format : Bytes) : Flaw → Bytes
  | .none => "format " ++ Quoted.operand format ++ " has no % directive"
  | .ends => "format " ++ Quoted.operand format ++ " ends in %"
  | .unknown letter =>
    "format " ++ Quoted.operand format ++ " has unknown %" ++ letter ::
      " directive"
  | .several => "format " ++ Quoted.operand format ++ " has too many % directives"

def literal : Bytes → Bytes × Bytes
  | '%' :: '%' :: rest =>
    let (text, after) := literal rest
    ('%' :: text, after)
  | '%' :: rest => ([], '%' :: rest)
  | c :: rest =>
    let (text, after) := literal rest
    (c :: text, after)
  | [] => ([], [])

def readFormat (written : Bytes) : Except Flaw Format := do
  let (before, rest) := literal written
  match rest with
  | [] => throw .none
  | _ :: rest =>
    let flags := rest.takeWhile ("-+#0 '".toList.contains ·)
    let rest := rest.drop flags.length
    let width := rest.takeWhile Char.isDigit
    let rest := rest.drop width.length
    let (places, rest) : Option Nat × Bytes := match rest with
      | '.' :: more =>
        (some (digitsValue (more.takeWhile Char.isDigit)), more.dropWhile Char.isDigit)
      | _ => (none, rest)
    match rest with
    | [] => throw .ends
    | letter :: rest =>
      if !("efgaEFGA".toList.contains letter) then throw (.unknown letter)
      let (behind, more) := literal rest
      if !more.isEmpty then throw .several
      return { before, flags, width := digitsValue width, places, letter, behind }

def Format.write (format : Format) (places : Nat) (units : Int) : Bytes :=
  let number := Float.ofScientific units.natAbs true places
  let always := format.flags.contains '#'
  let digits := match Shell.Real.ofFloat number with
    | .finite parts =>
      match format.letter with
      | 'f' | 'F' => parts.fixed (format.places.getD 6) always
      | 'e' => parts.exponential (format.places.getD 6) false always
      | 'E' => parts.exponential (format.places.getD 6) true always
      | 'g' => parts.general (format.places.getD 6) false always
      | 'G' => parts.general (format.places.getD 6) true always
      | 'a' => parts.binary format.places false always
      | _ => parts.binary format.places true always
    | _ => "inf"
  let sign := if units < 0 then ['-'] else if format.flags.contains '+' then ['+']
    else if format.flags.contains ' ' then [' '] else []
  let missing := format.width - digits.length - sign.length
  let shown :=
    if format.flags.contains '-' then sign ++ digits ++ List.replicate missing ' '
    else if format.flags.contains '0' then sign ++ List.replicate missing '0' ++ digits
    else List.replicate missing ' ' ++ sign ++ digits
  format.before ++ shown ++ format.behind

def row (write : Int → Bytes) (gap : Bytes) (step last : Int) : Nat → Bool → Int → Work Unit
  | 0, _, _ => return
  | fuel + 1, first, value => do
    if if 0 < step then last < value else value < last then
      if !first then out ['\n']
      return
    else
      if !first then out gap
      out (write value)
      if (← get).broken.isSome then return
      row write gap step last fuel false (value + step)

def isNumber (word : Bytes) : Bool :=
  match word with
  | '-' :: c :: _ => c.isDigit || c = '.'
  | _ => false

def tool : Tool := make fun words => do
  let manual := { (Manual.make "f:s:w" [("format", "f"), ("separator", "s"),
    ("equal-width", "w")]).named with ordered := true }
  let numbers := words.dropWhile fun word => !isNumber word
  let before := words.take (words.length - numbers.length)
  let takesValue := fun word : Bytes => word = "-f" || word = "-s"
  let (options, operands) ←
    if numbers.isEmpty || before.getLast?.any takesValue then manual.options words
    else do
      let (options, operands) ← manual.options before
      pure (options, operands ++ numbers)
  if operands.isEmpty then misuse "missing operand" 1
  if let some extra := operands[3]? then misuse ("extra operand " ++ Quoted.operand extra) 1
  let read := fun word => do
    match read? word with
    | some number => pure number
    | none => misuse ("invalid floating point argument: " ++ Quoted.operand word) 1
  let values ← operands.mapM read
  let one : Number := { units := 1, places := 0, width := 1 }
  let (first, step, last) : Number × Number × Number := match values with
    | [last] => (one, one, last)
    | [first, last] => (first, one, last)
    | [first, step, last] => (first, step, last)
    | _ => (one, one, one)
  if step.units = 0 then
    misuse ("invalid Zero increment value: " ++ Quoted.operand (operands[1]?.getD [])) 1
  let gap := (options.reverse.lookup "s").getD ['\n']
  let shownPlaces := max first.places step.places
  let places := max shownPlaces last.places
  let start := first.scaled places
  let stop := last.scaled places
  let shown := fun units : Int =>
    text shownPlaces (if shownPlaces < places then units / (Nat.pow 10 (places - shownPlaces) : Nat) else units)
  let write : Int → Bytes ← match options.reverse.lookup "f" with
    | some written =>
      match readFormat written with
      | .ok format => pure fun units => format.write places units
      | .error flaw => abort (flaw.text written) 1
    | none =>
      if options.any (·.1 = "w") then
        let width := max (first.widthAt shownPlaces) (last.widthAt shownPlaces)
        pure fun units => zeroFilled width (shown units)
      else pure shown
  row write gap (step.scaled places) stop Program.manySteps true start

end Retrace.Tool.Seq
