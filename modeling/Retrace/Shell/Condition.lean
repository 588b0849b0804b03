import Retrace.Shell.Integer
import Retrace.Unix.Status

/-!
# Conditions

What `test` decides about texts, numbers and files. A word is an operator or an
operand by what stands around it, so the words are read with what follows in view.
-/

namespace Retrace.Shell

open Unix

inductive Condition.Flaw where
  | argumentExpected (operator : Bytes)
  | unexpectedOperator (word : Bytes)
  | closingParenthesisExpected
  | illegalNumber (text : Bytes)
  deriving DecidableEq, Repr

namespace Condition

def Flaw.message : Flaw → Bytes
  | .argumentExpected operator => operator ++ ": argument expected"
  | .unexpectedOperator word =>
    (if word.isEmpty then [] else word ++ [':', ' ']) ++ "unexpected operator"
  | .closingParenthesisExpected => "closing paren expected"
  | .illegalNumber text => Shell.illegalNumber text

inductive Token where
  | finish
  | operand
  | unary (operator : Bytes)
  | binary (operator : Bytes)
  | not
  | and
  | or
  | opens
  | closes
  deriving DecidableEq, Repr

def unaryOperators : List String :=
  ["-r", "-w", "-x", "-e", "-f", "-d", "-c", "-b", "-p", "-u", "-g", "-k", "-s", "-t", "-z", "-n",
    "-h", "-O", "-G", "-L", "-S"]

def binaryOperators : List String :=
  ["=", "!=", "<", ">", "-eq", "-ne", "-ge", "-gt", "-le", "-lt", "-nt", "-ot", "-ef"]

def operator? (word : Bytes) : Option Token :=
  let text := String.ofList word
  if unaryOperators.contains text then some (.unary word)
  else if binaryOperators.contains text then some (.binary word)
  else match text with
    | "!" => some .not
    | "-a" => some .and
    | "-o" => some .or
    | "(" => some .opens
    | ")" => some .closes
    | _ => none

def isBinary (word : Bytes) : Bool := binaryOperators.contains (String.ofList word)

def token : List Bytes → Token
  | [] => .finish
  | word :: rest =>
    match operator? word with
    | some (.unary operator) =>
      match rest with
      | [] => .operand
      | [_] => .unary operator
      | second :: _ => if isBinary second then .operand else .unary operator
    | some .opens => if rest.isEmpty then .operand else .opens
    | some found => found
    | none => .operand

def number (text : Bytes) : Except Flaw Int :=
  match Integer.ofText? 10 text with
  | some value => .ok value.toInt
  | none => .error (.illegalNumber text)

def fileTest (letter : Char) (held : Inode) : Bool :=
  match letter, held.body with
  | 'f', .file _ => true
  | 'f', _ => false
  | 'd', .dir .. => true
  | 'd', _ => false
  | 'c', .device _ => true
  | 'c', _ => false
  | 'p', .pipe => true
  | 'p', _ => false
  | 'x', _ => held.isExecutable
  | 's', body => body.size ≠ 0
  | 'u', _ => held.mode &&& 2048 ≠ 0
  | 'g', _ => held.mode &&& 1024 ≠ 0
  | 'k', _ => held.mode &&& 512 ≠ 0
  | letter, _ => ['e', 'r', 'w', 'O', 'G'].contains letter

variable (view : View)

def isLink (path : Bytes) : Bool :=
  (descriptorPath? path).isSome || match view.body? path false with
    | some (.link _) => true
    | _ => false

def fileTestAt (letter : Char) (path : Bytes) : Bool :=
  if letter = 'h' || letter = 'L' then isLink view path
  else match view.status path true with
    | .ok (_, held) => fileTest letter held
    | .error _ => false

def changed? (path : Bytes) : Option Nat :=
  match view.status path true with
  | .ok (_, held) => some held.changed
  | .error _ => none

def unary (operator argument : Bytes) : Except Flaw Bool :=
  match operator with
  | ['-', 'n'] => .ok (!argument.isEmpty)
  | ['-', 'z'] => .ok argument.isEmpty
  | ['-', 't'] => (number argument).map fun _ => false
  | _ => .ok (fileTestAt view (operator.getLastD '-') argument)

def binary (operator a b : Bytes) : Except Flaw Bool :=
  let compare := fun test : Int → Int → Bool => do return test (← number a) (← number b)
  match String.ofList operator with
  | "=" => .ok (a = b)
  | "!=" => .ok (a ≠ b)
  | "<" => .ok (a < b)
  | ">" => .ok (b < a)
  | "-eq" => compare (· = ·)
  | "-ne" => compare (· ≠ ·)
  | "-lt" => compare (· < ·)
  | "-le" => compare (· ≤ ·)
  | "-gt" => compare (· > ·)
  | "-ge" => compare (· ≥ ·)
  | "-ef" =>
    .ok (match view.status a true, view.status b true with
      | .ok (one, _), .ok (other, _) => one = other
      | _, _ => false)
  | "-nt" =>
    .ok (match changed? view a, changed? view b with
      | some one, some other => other < one
      | _, _ => false)
  | "-ot" =>
    .ok (match changed? view a, changed? view b with
      | some one, some other => one < other
      | _, _ => false)
  | _ => .ok false

abbrev Part := Token → List Bytes → Except Flaw (Bool × List Bytes)

def primary (whole : Part) : Part
  | .finish, words => .ok (false, words)
  | .opens, words =>
    let inside := words.drop 1
    match token inside with
    | .closes => .ok (false, inside)
    | first => do
      let (answer, words) ← whole first inside
      let words := words.drop 1
      if token words = .closes then return (answer, words) else throw .closingParenthesisExpected
  | .unary operator, words =>
    match words with
    | _ :: argument :: rest => do return (← unary view operator argument, argument :: rest)
    | _ => .error (.argumentExpected operator)
  | _, words =>
    match token (words.drop 1), words with
    | .binary operator, a :: _ :: rest =>
      match rest with
      | b :: _ => do return (← binary view operator a b, rest)
      | [] => .error (.argumentExpected operator)
    | _, _ => .ok (!(words.headD []).isEmpty, words)

def negation (view : View) (whole : Part) : Nat → Part
  | 0, _, words => .ok (false, words)
  | fuel + 1, first, words =>
    if first ≠ .not then primary view whole first words
    else do
      let next := token (words.drop 1)
      let words := if next = .finish then words else words.drop 1
      let (answer, words) ← negation view whole fuel next words
      return (!answer, words)

def joinedBy (sign : Token) (join : Bool → Bool → Bool) (part : Part) : Nat → Part
  | 0, _, words => .ok (false, words)
  | fuel + 1, first, words => do
    let (answer, words) ← part first words
    if token (words.drop 1) = sign then
      let words := words.drop 2
      let (more, words) ← joinedBy sign join part fuel (token words) words
      return (join answer more, words)
    else return (answer, words)

/-- A condition of fewer than `fuel` words, nested at most `depth` deep. -/
def whole (view : View) (fuel : Nat) : Nat → Part
  | 0, _, words => .ok (false, words)
  | depth + 1, first, words =>
    let part := negation view (whole view fuel depth) fuel
    joinedBy .or (· || ·) (joinedBy .and (· && ·) part fuel) fuel first words

def decideFrom (first : Token) (words : List Bytes) : Except Flaw Bool := do
  let fuel := words.length + 2
  let (answer, rest) ← whole view fuel fuel first words
  match rest with
  | word :: _ :: _ => throw (.unexpectedOperator word)
  | _ => return answer

/-- Decides a condition. Three or four words are read by rules of their own: three as a
comparison if they can be, and either without its parentheses or its negations, all of which
count for one. -/
def holdsWithin (view : View) : Nat → Bool → List Bytes → Except Flaw Bool
  | 0, _, _ => .ok false
  | fuel + 1, negated, words =>
    let first := words.headD []
    let short := words.length = 3 || words.length = 4
    let answer := fun decided : Except Flaw Bool => decided.map (· != negated)
    if words.isEmpty then answer (.ok false)
    else if words.length = 3 && isBinary ((words.drop 1).headD []) then
      answer (decideFrom view .operand words)
    else if short && first = ['('] && words.getLast? = some [')'] then
      let inner := (words.drop 1).dropLast
      answer (decideFrom view (token inner) inner)
    else if short && first = ['!'] then holdsWithin view fuel true (words.drop 1)
    else answer (decideFrom view (token words) words)

def holds (words : List Bytes) : Except Flaw Bool :=
  holdsWithin view (words.length + 1) false words

end Condition
end Retrace.Shell
