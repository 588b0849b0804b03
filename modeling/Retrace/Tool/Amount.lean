import Retrace.Tool.Basic

/-!
# Amounts

Numbers with a unit behind them: thousands by the letter of their power, decimal if
a `B` follows the letter.
-/

namespace Retrace.Tool

open Unix

def unitPower? : Char → Option Nat
  | 'k' | 'K' => some 1
  | 'm' | 'M' => some 2
  | 'g' | 'G' => some 3
  | 't' | 'T' => some 4
  | 'P' => some 5
  | 'E' => some 6
  | 'Z' => some 7
  | 'Y' => some 8
  | _ => none

def unit? : Bytes → Option Nat
  | [] => some 1
  | ['b'] => some 512
  | letter :: rest => do
    let power ← unitPower? letter
    match rest with
    | [] => some (Nat.pow 1024 power)
    | ['i', 'B'] => some (Nat.pow 1024 power)
    | ['B'] => some (Nat.pow 1000 power)
    | _ => none

def amount? (text : Bytes) : Option Nat := do
  let digits := text.takeWhile Char.isDigit
  let unit ← unit? (text.drop digits.length)
  if digits.isEmpty then none else some (Text.digitsValue digits * unit)

def natural? (text : Bytes) : Option Nat :=
  if text.isEmpty || !text.all Char.isDigit then none else some (Text.digitsValue text)

def integer? : Bytes → Option Int
  | '-' :: digits => (natural? digits).map fun n => -(n : Int)
  | '+' :: digits => (natural? digits).map fun n => (n : Int)
  | digits => (natural? digits).map fun n => (n : Int)

def padLeft (width : Nat) (text : Bytes) : Bytes :=
  List.replicate (width - text.length) ' ' ++ text

def padRight (width : Nat) (text : Bytes) : Bytes :=
  text ++ List.replicate (width - text.length) ' '

end Retrace.Tool
