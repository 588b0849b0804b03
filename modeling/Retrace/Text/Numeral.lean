/-!
# Decimal numerals

Lines, columns and spans are 32-bit words written in decimal. `word?` reads a
run of digits and refuses what does not fit; `signedWord?` also takes one
leading plus sign.
-/

namespace Retrace.Text

def isDigit (c : Char) : Bool := '0' ≤ c && c ≤ '9'

def digitValue (c : Char) : Nat := c.toNat - 48

def digitsValue (digits : List Char) : Nat :=
  digits.foldl (fun total c => 10 * total + digitValue c) 0

def fitWord? (value : Nat) : Option UInt32 :=
  if value < UInt32.size then some (UInt32.ofNat value) else none

def word? (digits : List Char) : Option UInt32 :=
  if digits.isEmpty || !digits.all isDigit then none else fitWord? (digitsValue digits)

def signedWord? : List Char → Option UInt32
  | '+' :: digits => word? digits
  | digits => word? digits

def leadingWord? (text : List Char) : Option (UInt32 × List Char) :=
  (word? (text.takeWhile isDigit)).map fun value => (value, text.dropWhile isDigit)

def decimal (value : Nat) : List Char := Nat.toDigits 10 value

def showWord (value : UInt32) : List Char := decimal value.toNat

end Retrace.Text
