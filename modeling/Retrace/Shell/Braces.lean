import Retrace.Shell.Integer
import Retrace.Shell.Syntax

/-!
# Braces

A word with braces stands for several words: one for each of the alternatives between
commas, or one for each member of a sequence. Only characters that are written outside
quotes count; everything else in the word is carried along as it is.
-/

namespace Retrace.Shell.Braces

/-- A character outside quotes, or any other piece of a word. -/
inductive Bead where
  | char (c : Char)
  | piece (held : Piece)

abbrev Row := List Bead

def Bead.isChar (c : Char) : Bead → Bool
  | .char d => c = d
  | .piece _ => false

def ofWord (word : Word) : Row :=
  word.flatMap fun
    | .text false chars => chars.map .char
    | .written _ => []
    | piece => [.piece piece]

def toWord (row : Row) : Word :=
  .ofReversed (row.reverse.map fun
    | .char c => .text false [c]
    | .piece held => held)

/-- Where braces close that were opened just before: behind a comma or two dots of their own. -/
def closing (place depth : Nat) (parted : Bool) : Row → Option Nat
  | [] => none
  | .piece _ :: rest => closing (place + 1) depth parted rest
  | .char c :: rest =>
    if c = '\x7d' && depth = 0 && parted then some place
    else if c = '\x7b' then closing (place + 1) (depth + 1) parted rest
    else if c = '\x7d' then closing (place + 1) (depth - 1) parted rest
    else
      let dots := c = '.' && rest.head?.any (Bead.isChar '.') &&
        !((rest.drop 1).head?.any (Bead.isChar '\x7d'))
      closing (place + 1) depth (parted || (depth = 0 && (c = ',' || dots))) rest

def opening (place : Nat) : Row → Option (Nat × Nat)
  | [] => none
  | bead :: rest =>
    let isEmpty := place = 0 && (rest.isEmpty || rest.head?.any (Bead.isChar '\x7d'))
    if bead.isChar '\x7b' && !isEmpty then
      match closing 0 0 false rest with
      | some size => some (place, size)
      | none => opening (place + 1) rest
    else opening (place + 1) rest

def alternatives (depth : Nat) : Row → List Row
  | [] => [[]]
  | bead :: rest =>
    let go := fun depth : Nat =>
      match alternatives depth rest with
      | first :: more => (bead :: first) :: more
      | [] => [[bead]]
    match bead with
    | .piece _ => go depth
    | .char c =>
      if c = ',' && depth = 0 then [] :: alternatives depth rest
      else go (if c = '\x7b' then depth + 1 else if c = '\x7d' then depth - 1 else depth)

/-! ## Sequences -/

inductive End where
  | number (value : Int) (width : Nat)
  | letter (c : Char)

def widthOf (text : Bytes) : Nat :=
  match text with
  | '0' :: _ :: _ => text.length
  | '-' :: '0' :: _ :: _ => text.length
  | _ => 0

def numberOf? (text : Bytes) : Option Int :=
  let digits := match text with
    | '-' :: rest => rest
    | '+' :: rest => rest
    | _ => text
  if digits.isEmpty || !digits.all Char.isDigit then none
  else (Integer.ofText? 10 text).map (·.toInt)

def end? (text : Bytes) : Option End :=
  match numberOf? text, text with
  | some value, _ => some (.number value (widthOf text))
  | none, [c] => if c.isAlpha then some (.letter c) else none
  | none, _ => none

def cutDots : Bytes → Bytes × Option Bytes
  | [] => ([], none)
  | '.' :: '.' :: rest => ([], some rest)
  | c :: rest =>
    let (first, after) := cutDots rest
    (c :: first, after)

def numbers (start stop : Int) (step : Nat) : List Int :=
  let step := max 1 step
  let count := (stop - start).natAbs / step + 1
  (List.range count).map fun n =>
    if start ≤ stop then start + (n * step : Nat) else start - (n * step : Nat)

def padded (width : Nat) (value : Int) : Bytes :=
  let digits := Nat.toDigits 10 value.natAbs
  let sign := if value < 0 then ['-'] else []
  sign ++ List.replicate (width - sign.length - digits.length) '0' ++ digits

def sequence? (text : Bytes) : Option (List Bytes) := do
  let (first, rest) := cutDots text
  let (second, last) := cutDots (← rest)
  let step ← match last with
    | none => some 1
    | some text => numberOf? text
  match ← end? first, ← end? second with
  | .number start a, .number stop b =>
    let width := if 0 < max a b then max (max a b) (max first.length second.length) else 0
    some ((numbers start stop step.natAbs).map (padded width))
  | .letter start, .letter stop =>
    some ((numbers start.toNat stop.toNat step.natAbs).map fun n => [Char.ofNat n.toNat])
  | _, _ => none

def chars? : Row → Option Bytes
  | [] => some []
  | .char c :: rest => (chars? rest).map (c :: ·)
  | .piece _ :: _ => none

def expandRow : Nat → Row → List Row
  | 0, row => [row]
  | fuel + 1, row =>
    match opening 0 row with
    | none => [row]
    | some (start, size) =>
      let inside := (row.drop (start + 1)).take size
      let after := row.drop (start + size + 2)
      let middle : Option (List Row) :=
        if inside.any (Bead.isChar ',') then
          some ((alternatives 0 inside).flatMap (expandRow fuel))
        else match (chars? inside).bind sequence? with
          | some members => some (members.map (·.map .char))
          | none =>
            if after.isEmpty then none
            else some [.char '\x7b' :: inside ++ [.char '\x7d']]
      match middle with
      | none => [row]
      | some middle =>
        let ends := if after.isEmpty then [[]] else expandRow fuel after
        middle.flatMap fun part => ends.map fun tail => row.take start ++ part ++ tail

def expand (word : Word) : List Word :=
  let row := ofWord word
  if row.any (Bead.isChar '\x7b') then (expandRow (row.length + 1) row).map toWord else [word]

end Retrace.Shell.Braces
