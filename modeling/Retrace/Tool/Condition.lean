import Retrace.Shell.Condition
import Retrace.Tool.Amount
import Retrace.Tool.Quoted

/-!
# Conditions as a program

Decides about texts, numbers and files. Up to four words are taken by their number;
more of them are joined by signs.
-/

namespace Retrace.Tool.Condition

open Unix

structure Scan where
  words : Array Bytes
  place : Nat := 0

abbrev Reading := StateT Scan Work

def invalid {α : Type} (text : Bytes) : Reading α := StateT.lift (abort text 2)

def wordAt (ahead : Nat) : Reading (Option Bytes) := do
  let scan ← get
  return scan.words[scan.place + ahead]?

def beyond {α : Type} : Reading α := do
  invalid ("missing argument after " ++ Quoted.operand ((← get).words.back?.getD []))

def advance (needed : Bool) : Reading Unit := do
  modify fun scan => { scan with place := scan.place + 1 }
  let scan ← get
  if needed && scan.words.size ≤ scan.place then beyond

def take : Reading Bytes := do
  match ← wordAt 0 with
  | some word =>
    advance false
    return word
  | none => beyond

def binaries : List String :=
  ["=", "==", "!=", "-nt", "-ot", "-ef", "-eq", "-ne", "-lt", "-le", "-gt", "-ge"]

def isBinary (word : Option Bytes) : Bool := word.any fun word => binaries.contains (String.ofList word)

def unaries : Bytes := "erwxNOGfdsScbpLhugktnz".toList

def isLetter : Option Bytes → Bool
  | some ['-', _] => true
  | _ => false

def number (text : Bytes) : Reading Int := do
  let isGap := fun c : Char => c = ' ' || ('\t' ≤ c && c ≤ '\r')
  let core := ((text.dropWhile isGap).reverse.dropWhile isGap).reverse
  match integer? core with
  | some value => return value
  | none => invalid ("invalid integer " ++ Quoted.operand text)

def unary : Reading Bool := do
  let operator ← take
  let letter := operator.getLastD ' '
  if !unaries.contains letter then
    invalid (Quoted.operand operator ++ ": unary operator expected")
  match ← wordAt 0 with
  | none => beyond
  | some argument =>
    advance false
    if letter = 't' then
      let _ ← number argument
      return false
    match Shell.Condition.unary (← StateT.lift look) operator argument with
    | .ok answer => return answer
    | .error _ => return false

/-- A value that numbers are compared by: a number, or the length of a text. -/
def amount (measured : Bool) : Reading Int := do
  if measured then
    advance true
    return ((← take).length : Nat)
  else number (← take)

def binary : Reading Bool := do
  let measuresFirst := (← wordAt 0) = some ['-', 'l'] && isBinary (← wordAt 2)
  let operator := (← wordAt (if measuresFirst then 2 else 1)).getD []
  let place := (← get).place + (if measuresFirst then 2 else 1)
  let measuresSecond := do
    let scan ← get
    return scan.words[place + 1]? = some ['-', 'l'] && (scan.words[place + 2]?).isSome
  let compare := fun (test : Int → Int → Bool) => do
    let first ← amount measuresFirst
    advance true
    let second ← amount (← measuresSecond)
    return test first second
  match String.ofList operator with
  | "-eq" => compare (· = ·)
  | "-ne" => compare (· ≠ ·)
  | "-lt" => compare (· < ·)
  | "-le" => compare (· ≤ ·)
  | "-gt" => compare (· > ·)
  | "-ge" => compare (· ≥ ·)
  | name =>
    let first ← take
    advance true
    let second ← take
    let view ← StateT.lift look
    match name with
    | "=" | "==" => return first = second
    | "!=" => return first ≠ second
    | "-nt" =>
      match Shell.Condition.changed? view first, Shell.Condition.changed? view second with
      | some one, some other => return other < one
      | some _, none => return true
      | _, _ => return false
    | "-ot" =>
      match Shell.Condition.changed? view first, Shell.Condition.changed? view second with
      | some one, some other => return one < other
      | none, some _ => return true
      | _, _ => return false
    | _ =>
      match Shell.Condition.binary view operator first second with
      | .ok answer => return answer
      | .error _ => return false

/-- How many words stand before a closing bracket, as far as that is looked for. -/
def insideCount (scan : Scan) : Nat :=
  let rest := (scan.words.extract scan.place scan.words.size).toList
  match (rest.drop 1).findIdx? (· = [')']) with
  | some i => if i + 1 ≤ 4 then i + 1 else rest.length
  | none => rest.length

/-- Takes signs that turn the answer around; tells whether it is. -/
def negations : Nat → Bool → Reading Bool
  | 0, negated => return negated
  | fuel + 1, negated => do
    if (← wordAt 0) = some ['!'] then
      advance true
      negations fuel !negated
    else return negated

def joinedBy (sign : Bytes) (join : Bool → Bool → Bool) (test : Reading Bool) :
    Nat → Bool → Reading Bool
  | 0, answer => return answer
  | fuel + 1, answer => do
    let answer := join answer (← test)
    if (← wordAt 0) = some sign then
      advance false
      joinedBy sign join test fuel answer
    else return answer

def decideWithin : Nat → Nat → Reading Bool
  | 0, _ => return false
  | depth + 1, count => do
    let size := (← get).words.size
    let term : Reading Bool := do
      let negated ← negations size false
      let value ← match ← wordAt 0 with
        | none => beyond
        | some ['('] => do
          advance true
          let value ← decideWithin depth (insideCount (← get))
          match ← wordAt 0 with
          | none => invalid "')' expected"
          | some [')'] =>
            advance false
            pure value
          | some word => invalid ("')' expected, found " ++ Quoted.operand word)
        | some word => do
          let left := size - (← get).place
          if 4 ≤ left && word = ['-', 'l'] && isBinary (← wordAt 2) then binary
          else if 3 ≤ left && isBinary (← wordAt 1) then binary
          else if isLetter (some word) then unary
          else
            advance false
            pure (!word.isEmpty)
      return value != negated
    let all : Reading Bool := joinedBy ['-', 'a'] (· && ·) term size true
    let any : Reading Bool := joinedBy ['-', 'o'] (· || ·) all size false
    let one : Reading Bool := do return !(← take).isEmpty
    let two : Reading Bool := do
      if (← wordAt 0) = some ['!'] then
        advance false
        return !(← one)
      else if isLetter (← wordAt 0) then unary
      else beyond
    let three : Reading Bool := do
      let first ← wordAt 0
      let second ← wordAt 1
      if isBinary second then binary
      else if first = some ['!'] then
        advance true
        return !(← two)
      else if first = some ['('] && (← wordAt 2) = some [')'] then
        advance false
        let value ← one
        advance false
        return value
      else if second = some ['-', 'a'] || second = some ['-', 'o'] then any
      else invalid (Quoted.operand (second.getD []) ++ ": binary operator expected")
    match count with
    | 1 => one
    | 2 => two
    | 3 => three
    | 4 =>
      if (← wordAt 0) = some ['!'] then
        advance true
        return !(← three)
      else if (← wordAt 0) = some ['('] && (← wordAt 3) = some [')'] then
        advance false
        let value ← two
        advance false
        return value
      else any
    | _ => any

def decideWords (words : List Bytes) : Work Unit := do
  if words.isEmpty then exit 1
  let (answer, scan) ← (decideWithin (words.length + 1) words.length).run { words := words.toArray }
  if let some extra := words[scan.place]? then
    abort ("extra argument " ++ Quoted.operand extra) 2
  if !answer then fail 1

def test : Tool := make decideWords

def bracket : Tool := make fun words => do
  if words.getLast? ≠ some [']'] then
    if words = [ofString "--help"] || words = [ofString "--version"] then exit 0
    abort (ofString "missing ']'") 2
  decideWords words.dropLast

end Retrace.Tool.Condition
