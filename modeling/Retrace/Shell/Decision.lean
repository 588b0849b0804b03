import Retrace.Regex.Posix
import Retrace.Shell.Assignment
import Retrace.Shell.Condition

/-!
# Decisions

Conditions between double brackets. Their words are not cut into fields; the right side
of a comparison may be a pattern or a regular expression, and numbers are sums.
-/

namespace Retrace.Shell

open Unix Step
open Regex (Posix)

def isSetName (text : Bytes) : Expand Bool := do
  match spot? text with
  | none => return false
  | some (name, spot) =>
    let spot := match spot, (← get).isTable name with
      | .all each, true => .element [if each then '@' else '*']
      | spot, _ => spot
    match ← meaningOf name spot with
    | .one _ => return true
    | .many _ values => return !values.isEmpty
    | .nothing => return false

def expressionText : List Mark → Bytes
  | [] => []
  | (c, quoted) :: rest =>
    (if quoted && "\\.[]()*+?\x7b\x7d^$|".toList.contains c then ['\\', c] else [c]) ++
      expressionText rest

def groupsOf (found : Posix.Found) (text : Array Char) (count : Nat) : List Bytes :=
  (List.range (count + 1)).map fun number =>
    if number = 0 then (text.extract found.start found.stop).toList
    else (found.group? text number).getD []

def matchExpression (text : Bytes) (marks : List Mark) : Step (Option Bool) := do
  let session ← get
  match Posix.read { extended := true, lenient := true } (expressionText marks) with
  | .error _ => return none
  | .ok (expression, count) =>
    let expression := if session.switched "nocasematch" then expression.folded else expression
    let chars := text.toArray
    let found := expression.find? chars 0
    let values := (found.map fun found => groupsOf found chars count).getD []
    set (session.hold "BASH_REMATCH".toList
      { value := some [], elements := some (Elements.ofValues values) })
    return some found.isSome

def reckonSide (text : Bytes) : Expand (Option Int) := do
  match ← settling (Calculation.eval text) with
  | .ok value => return some value.toInt
  | .error (.told message) =>
    Expand.of (complain ("[[: " ++ message))
    return none
  | .error problem => refuseSum problem

def compareNumbers (operator : String) (a b : Int) : Bool :=
  match operator with
  | "-eq" => a = b
  | "-ne" => a ≠ b
  | "-lt" => a < b
  | "-le" => a ≤ b
  | "-gt" => a > b
  | _ => a ≥ b

/-- Decides by the times two files were changed at, or as every shell does. A file that is not
there is older than any other. -/
def compareFiles (view : View) (operator first second : Bytes) : Except Condition.Flaw Bool :=
  let newer := fun (a b : Bytes) =>
    match Condition.changed? view a, Condition.changed? view b with
    | some one, some other => decide (other < one)
    | some _, none => true
    | none, _ => false
  match String.ofList operator with
  | "-nt" => .ok (newer first second)
  | "-ot" => .ok (newer second first)
  | _ => Condition.binary view operator first second

def decideUnary (operator : String) (text : Bytes) : Expand Bool := do
  match operator with
  | "-n" => return !text.isEmpty
  | "-z" => return text.isEmpty
  | "-v" => isSetName text
  | "-R" => return ((← get).held? text).any (·.refers)
  | "-o" => return (← get).has (String.ofList text)
  | _ =>
    let operator := if operator = "-a" then "-e" else operator
    let view ← Expand.of look
    return match Condition.unary view operator.toList text with
      | .ok holds => holds
      | .error _ => false

def decideBinary (self : Self) (lead : Bytes) (operator : String) (left right : Word) :
    Expand (Option Bool) := do
  let first ← unfoldText self false left
  match operator with
  | "=~" =>
    let marks ← unfoldMarks self right
    traceExpression first (marks.map (·.1))
    Expand.of (matchExpression first marks)
  | "=" => fits first
  | "==" => fits first
  | "!=" => return (← fits first).map (!·)
  | _ =>
    let second ← unfoldText self false right
    Expand.of (traceText self (lead ++ shownSide first ++ ' ' :: operator.toList ++
      ' ' :: shownSide second ++ " ]]"))
    match operator with
    | "<" => return some (decide (first < second))
    | ">" => return some (decide (second < first))
    | "-nt" => fileSays first second
    | "-ot" => fileSays first second
    | "-ef" => fileSays first second
    | _ =>
      match ← reckonSide first with
      | none => return some false
      | some a =>
        match ← reckonSide second with
        | none => return some false
        | some b => return some (compareNumbers operator a b)
where
  shownSide (text : Bytes) : Bytes := if text.isEmpty then ['\'', '\''] else text
  traceExpression (first second : Bytes) : Expand Unit :=
    Expand.of (traceText self (lead ++ shownSide first ++ " =~ " ++
      shownSide second ++ " ]]"))
  fits (first : Bytes) : Expand (Option Bool) := do
    let marks ← unfoldMarks self right
    let shown := marks.flatMap fun (c, quoted) => if quoted then ['\\', c] else [c]
    Expand.of (traceText self (lead ++ shownSide first ++ ' ' :: operator.toList ++
      ' ' :: shownSide shown ++ " ]]"))
    return some (Glob.fitsFolding ((← get).switched "nocasematch") (Glob.readGroups marks) first)
  fileSays (first second : Bytes) : Expand (Option Bool) := do
    let view ← Expand.of look
    return some (match compareFiles view operator.toList first second with
      | .ok holds => holds
      | .error _ => false)

def decideTest (self : Self) : Test → Expand (Option Bool)
  | .unary operator word => decideOne "[[ " operator word
  | .binary operator left right =>
    decideBinary self "[[ " (String.ofList operator) left right
  | .not (.unary operator word) => do
    return (← decideOne "[[ ! " operator word).map (!·)
  | .not (.binary operator left right) => do
    return (← decideBinary self "[[ ! " (String.ofList operator) left right).map (!·)
  | .not body => do
    return (← decideTest self body).map (!·)
  | .both first second => do
    match ← decideTest self first with
    | some true => decideTest self second
    | decided => return decided
  | .either first second => do
    match ← decideTest self first with
    | some false => decideTest self second
    | decided => return decided
  | .group body => decideTest self body
where
  decideOne (lead operator : Bytes) (word : Word) : Expand (Option Bool) := do
    let text ← unfoldText self false word
    let shown := if text.isEmpty then ['\'', '\''] else text
    Expand.of (traceText self (lead ++ operator ++ ' ' :: shown ++ " ]]"))
    return some (← decideUnary (String.ofList operator) text)

end Retrace.Shell
