import Retrace.Text.Numeral

/-!
# Integers in text

How a shell reads an integer: blanks, a sign, a mark of the base, digits. Numbers
are words of 64 bits.
-/

namespace Retrace.Shell

namespace Integer

def isGap (c : Char) : Bool := c = ' ' || ('\t' ≤ c && c ≤ '\r')

def digit? (base : Nat) (c : Char) : Option Nat :=
  let value :=
    if c.isDigit then c.toNat - '0'.toNat
    else if c.isLower then c.toNat - 'a'.toNat + 10
    else if c.isUpper then c.toNat - 'A'.toNat + 10
    else base
  if value < base then some value else none

def digits (base total : Nat) : List Char → Nat × List Char
  | [] => (total, [])
  | c :: rest =>
    match digit? base c with
    | some value => digits base (base * total + value) rest
    | none => (total, c :: rest)

structure Scan where
  value : Int
  rest : List Char
  found : Bool

/-- The digits after a sign. Base zero stands for the base that the digits are marked with. -/
def unsigned (base : Nat) (text : List Char) : Nat × List Char :=
  match base, text with
  | 0, '0' :: x :: d :: rest =>
    if (x = 'x' || x = 'X') && (digit? 16 d).isSome then digits 16 0 (d :: rest)
    else digits 8 0 text
  | 0, '0' :: _ => digits 8 0 text
  | 0, _ => digits 10 0 text
  | _, _ => digits base 0 text

def scan (base : Nat) (text : List Char) : Scan :=
  let (negative, plain) : Bool × List Char :=
    match text.dropWhile isGap with
    | '-' :: rest => (true, rest)
    | '+' :: rest => (false, rest)
    | rest => (false, rest)
  if plain.head?.any fun c => (digit? (if base = 0 then 10 else base) c).isSome then
    let (value, rest) := unsigned base plain
    ⟨if negative then -(value : Int) else value, rest, true⟩
  else ⟨0, text, false⟩

def least : Int := Int64.minValue.toInt

def greatest : Int := Int64.maxValue.toInt

def fits (value : Int) : Bool := least ≤ value && value ≤ greatest

def clamped (value : Int) : Int64 := Int64.ofInt (max least (min greatest value))

/-- The integer that a text is, blanks around it apart. With base zero a text without
digits is zero. -/
def ofText? (base : Nat) (text : List Char) : Option Int64 :=
  let read := scan base text
  if fits read.value && (base = 0 || read.found) && read.rest.all isGap then
    some (Int64.ofInt read.value)
  else none

def count? (text : List Char) : Option Nat :=
  (ofText? 10 text).bind fun value =>
    let value := value.toInt
    if 0 ≤ value && value < 2147483648 then some value.toNat else none

def render (value : Int) : List Char :=
  if value < 0 then '-' :: Text.decimal value.natAbs else Text.decimal value.natAbs

end Integer

def illegalNumber (text : List Char) : List Char := "Illegal number: ".toList ++ text

end Retrace.Shell
