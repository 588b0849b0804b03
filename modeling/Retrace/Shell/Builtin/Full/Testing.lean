import Retrace.Shell.Builtin.Full.Basic
import Retrace.Shell.Decision

/-!
# Conditions as commands

How many words there are decides how they are read, up to four of them. More are
read as parts joined by signs.
-/

namespace Retrace.Shell.Builtin.Full

open Unix Step

abbrev Deciding := ExceptT Bytes Expand

def isUnary (word : Bytes) : Bool := Nested.unaryTests.contains (String.ofList word)

def isBinary (word : Bytes) : Bool :=
  Nested.binaryTests.contains (String.ofList word) && word ≠ ['=', '~']

def wrong {α : Type} (text : Bytes) : Deciding α := throw text

def decideBy (body : Expand α) : Deciding α := ExceptT.lift body

def unaryHolds (operator word : Bytes) : Deciding Bool :=
  decideBy (decideUnary (String.ofList operator) word)

def binaryHolds (left operator right : Bytes) : Deciding Bool := do
  let operator := if operator = ['=', '='] then ['='] else operator
  let view ← decideBy (Expand.of look)
  match compareFiles view operator left right with
  | .ok holds => return holds
  | .error (.illegalNumber text) => wrong (text ++ ": integer expression expected")
  | .error flaw => wrong flaw.message

def twoWords (first second : Bytes) : Deciding Bool := do
  if first = ['!'] then return second.isEmpty
  if isUnary first then unaryHolds first second
  else wrong (first ++ ": unary operator expected")

def threeWords (first second third : Bytes) : Deciding Bool := do
  if isBinary second then binaryHolds first second third
  else if second = ['-', 'a'] then return !first.isEmpty && !third.isEmpty
  else if second = ['-', 'o'] then return !first.isEmpty || !third.isEmpty
  else if first = ['!'] then return !(← twoWords second third)
  else if first = ['('] && third = [')'] then return !second.isEmpty
  else wrong (second ++ ": binary operator expected")

mutual

/-- Parts joined by signs, of fewer than `fuel` words, and the words that are left. -/
def eitherHolds : Nat → List Bytes → Deciding (Bool × List Bytes)
  | 0, words => return (false, words)
  | fuel + 1, words => do
    let (first, rest) ← bothHold fuel words
    match rest with
    | ['-', 'o'] :: rest =>
      let (second, rest) ← eitherHolds fuel rest
      return (first || second, rest)
    | _ => return (first, rest)

def bothHold : Nat → List Bytes → Deciding (Bool × List Bytes)
  | 0, words => return (false, words)
  | fuel + 1, words => do
    let (first, rest) ← partHolds fuel words
    match rest with
    | ['-', 'a'] :: rest =>
      let (second, rest) ← bothHold fuel rest
      return (first && second, rest)
    | _ => return (first, rest)

def partHolds : Nat → List Bytes → Deciding (Bool × List Bytes)
  | 0, words => return (false, words)
  | fuel + 1, words => do
    match words with
    | [] => wrong "argument expected"
    | ['!'] :: rest =>
      let (holds, rest) ← partHolds fuel rest
      return (!holds, rest)
    | ['('] :: rest =>
      let (holds, rest) ← eitherHolds fuel rest
      match rest with
      | [')'] :: rest => return (holds, rest)
      | [] => wrong "\x60)' expected"
      | word :: _ => wrong ("\x60)' expected, found " ++ word)
    | left :: operator :: right :: rest =>
      if isBinary operator then return (← binaryHolds left operator right, rest)
      else if isUnary left then return (← unaryHolds left operator, right :: rest)
      else return (!left.isEmpty, operator :: right :: rest)
    | [operator, word] =>
      if isUnary operator then return (← unaryHolds operator word, [])
      else return (!operator.isEmpty, [word])
    | [word] => return (!word.isEmpty, [])

end

def manyWords (words : List Bytes) : Deciding Bool := do
  let (holds, rest) ← eitherHolds (words.length * 4 + 4) words
  match rest with
  | [] => return holds
  | ('-' :: more) :: _ =>
    wrong ("syntax error: \x60" ++ '-' :: more ++ "' unexpected")
  | _ => wrong tooManyText
where
  tooManyText : Bytes := "too many arguments"

def wordsHold : List Bytes → Deciding Bool
  | [] => return false
  | [word] => return !word.isEmpty
  | [first, second] => twoWords first second
  | [first, second, third] => threeWords first second third
  | [first, second, third, fourth] => do
    if first = ['!'] then return !(← threeWords second third fourth)
    else if first = ['('] && fourth = [')'] then twoWords second third
    else manyWords [first, second, third, fourth]
  | words => manyWords words

def test : Builtin := fun words =>
  expanding do
    match ← (wordsHold words).run with
    | .ok holds => Expand.of (answer holds)
    | .error message =>
      Expand.of (complain message)
      Expand.of (finishWith 2)

def bracket : Builtin := fun words =>
  match words.getLast? with
  | some [']'] => test words.dropLast
  | _ => do
    complain "missing \x60]'"
    finishWith 2

end Retrace.Shell.Builtin.Full
