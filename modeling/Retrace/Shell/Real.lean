import Retrace.Shell.Integer

/-!
# Real numbers in text

Reads a real number and writes it in a given number of places. A number is taken
apart into a mantissa and a power of two, so that every digit written is exact and
a tie goes to the even neighbour.
-/

namespace Retrace.Shell.Real

open Text

structure Parts where
  negative : Bool
  mantissa : Nat
  exponent : Int

inductive Value where
  | finite (parts : Parts)
  | infinite (negative : Bool)
  | undefined (negative : Bool)

/-- Takes a number apart by its bits: sign, 11 bits of exponent, 52 of mantissa. -/
def ofFloat (number : Float) : Value :=
  let bits := number.toBits.toNat
  let negative := bits / Nat.pow 2 63 = 1
  let exponent := bits / Nat.pow 2 52 % 2048
  let mantissa := bits % Nat.pow 2 52
  if exponent = 2047 then if mantissa = 0 then .infinite negative else .undefined negative
  else if exponent = 0 then .finite ⟨negative, mantissa, -1074⟩
  else .finite ⟨negative, mantissa + Nat.pow 2 52, (exponent : Int) - 1075⟩

def rounded (numerator denominator : Nat) : Nat :=
  let quotient := numerator / denominator
  let twice := 2 * (numerator % denominator)
  if denominator < twice || (twice = denominator && quotient % 2 = 1) then quotient + 1
  else quotient

variable (parts : Parts)

def Parts.scaled (power : Int) : Nat :=
  let up := parts.mantissa * Nat.pow 2 parts.exponent.toNat * Nat.pow 10 power.toNat
  let down := Nat.pow 2 (-parts.exponent).toNat * Nat.pow 10 (-power).toNat
  rounded up down

/-- The number of digits before the point, less one: the power of ten of the first digit. -/
def Parts.magnitude : Int :=
  if parts.mantissa = 0 then 0
  else
    let up := parts.mantissa * Nat.pow 2 parts.exponent.toNat
    let down := Nat.pow 2 (-parts.exponent).toNat
    if down ≤ up then ((decimal (up / down)).length : Int) - 1
    else
      let guess := (decimal (down / up)).length
      if down ≤ up * Nat.pow 10 (guess - 1) then 1 - (guess : Int) else -(guess : Int)

def withPoint (digits : List Char) (places : Nat) (always : Bool) : List Char :=
  let digits := List.replicate (places + 1 - digits.length) '0' ++ digits
  let whole := digits.take (digits.length - places)
  if places = 0 then if always then whole ++ ['.'] else whole
  else whole ++ '.' :: digits.drop whole.length

def Parts.fixed (places : Nat) (always : Bool) : List Char :=
  withPoint (decimal (parts.scaled places)) places always

def Parts.scientific (places : Nat) : List Char × Int :=
  let magnitude := parts.magnitude
  let digits := decimal (parts.scaled ((places : Int) - magnitude))
  if places + 1 < digits.length then (digits.dropLast, magnitude + 1)
  else (List.replicate (places + 1 - digits.length) '0' ++ digits, magnitude)

def exponentText (upper : Bool) (power : Int) : List Char :=
  let digits := decimal power.natAbs
  (if upper then 'E' else 'e') :: (if power < 0 then '-' else '+') ::
    (List.replicate (2 - digits.length) '0' ++ digits)

def Parts.exponential (places : Nat) (upper always : Bool) : List Char :=
  let (digits, power) := parts.scientific places
  withPoint digits places always ++ exponentText upper power

def stripped (text : List Char) : List Char :=
  if text.contains '.' then
    match text.reverse.dropWhile (· = '0') with
    | '.' :: rest => rest.reverse
    | rest => rest.reverse
  else text

def Parts.general (digits : Nat) (upper always : Bool) : List Char :=
  let digits := max 1 digits
  let (text, power) := parts.scientific (digits - 1)
  let strip := fun text : List Char => if always then text else stripped text
  if -4 ≤ power && power < digits then
    strip (parts.fixed ((digits : Int) - 1 - power).toNat always)
  else strip (withPoint text (digits - 1) always) ++ exponentText upper power

def Parts.binary (places : Option Nat) (upper always : Bool) : List Char :=
  let (mantissa, exponent) : Nat × Int :=
    if parts.mantissa = 0 then (0, 0)
    else if parts.mantissa < Nat.pow 2 52 then
      let shift := 53 - parts.mantissa.log2 - 1
      (parts.mantissa * Nat.pow 2 shift, -1022 - (shift : Int))
    else (parts.mantissa, parts.exponent + 52)
  let places' := places.getD 13
  let mantissa := if places' < 13 then rounded mantissa (Nat.pow 16 (13 - places')) else
    mantissa * Nat.pow 16 (places' - 13)
  let digits := withPoint (Nat.toDigits 16 mantissa) places' always
  let digits := if places.isNone && !always then stripped digits else digits
  let text := '0' :: 'x' :: digits ++ 'p' :: (if exponent < 0 then '-' else '+') ::
    decimal exponent.natAbs
  if upper then text.map Char.toUpper else text

structure Scan where
  value : Float
  rest : List Char
  found : Bool
  outOfRange : Bool := false

def scanDecimal (text : List Char) : Option (Float × List Char) :=
  let whole := text.takeWhile Char.isDigit
  let rest := text.dropWhile Char.isDigit
  let (fraction, rest) : List Char × List Char :=
    match rest with
    | '.' :: more =>
      if whole.isEmpty && (more.takeWhile Char.isDigit).isEmpty then ([], rest)
      else (more.takeWhile Char.isDigit, more.dropWhile Char.isDigit)
    | _ => ([], rest)
  if whole.isEmpty && fraction.isEmpty then none
  else
    let (power, rest) : Int × List Char :=
      match rest with
      | e :: more =>
        let (negative, digits) : Bool × List Char :=
          match more with
          | '-' :: digits => (true, digits)
          | '+' :: digits => (false, digits)
          | digits => (false, digits)
        let written := digits.takeWhile Char.isDigit
        if (e = 'e' || e = 'E') && !written.isEmpty then
          let power : Int := min 100000 (digitsValue written)
          (if negative then -power else power, digits.dropWhile Char.isDigit)
        else (0, rest)
      | [] => (0, rest)
    let power := power - (fraction.length : Int)
    some (Float.ofScientific (digitsValue (whole ++ fraction)) (power < 0) power.natAbs, rest)

def scanNamed (text : List Char) : Option (Float × List Char) :=
  let lower := text.map Char.toLower
  let named := fun (name : String) (value : Float) =>
    if name.toList.isPrefixOf lower then some (value, text.drop name.length) else none
  (named "infinity" (1.0 / 0.0)).or ((named "inf" (1.0 / 0.0)).or (named "nan" (0.0 / 0.0)))

def scan (text : List Char) : Scan :=
  let (negative, plain) : Bool × List Char :=
    match text.dropWhile Integer.isGap with
    | '-' :: rest => (true, rest)
    | '+' :: rest => (false, rest)
    | rest => (false, rest)
  let signed := fun value : Float => if negative then -value else value
  match plain with
  | '0' :: x :: d :: rest =>
    if (x = 'x' || x = 'X') && (Integer.digit? 16 d).isSome then
      let (value, rest) := Integer.digits 16 0 (d :: rest)
      { value := signed (Float.ofNat value), rest, found := true }
    else decimal signed plain
  | _ => decimal signed plain
where
  decimal (signed : Float → Float) (plain : List Char) : Scan :=
    match scanDecimal plain with
    | some (value, rest) =>
      { value := signed value, rest, found := true, outOfRange := value.isInf }
    | none =>
      match scanNamed plain with
      | some (value, rest) => { value := signed value, rest, found := true }
      | none => { value := 0.0, rest := text, found := false }

end Retrace.Shell.Real
