import Retrace.Shell.Session

/-!
# Shell arithmetic

Sums of integers and variables, with the usual order of the operators and with
assignments. Reading and reckoning go together: what stands before a flaw has
been reckoned when the flaw is met. A part that a choice leaves out is read only.
-/

namespace Retrace.Shell

open Unix

inductive Reckoning.Token where
  | finish
  | number (value : Int64)
  | name (chars : Bytes)
  | sign (text : String)
  | unknown
  deriving DecidableEq, Repr

inductive Reckoning.Problem where
  | expecting (what : String)
  | divisionByZero
  | other (message : Bytes)
  deriving DecidableEq, Repr

structure Reckoning where
  rest : Bytes
  last : Reckoning.Token := .finish
  session : Session

namespace Reckoning

abbrev Reckon := StateT Reckoning (Except Problem)

def signs : List String :=
  ["<<=", ">>=", "<<", ">>", "<=", ">=", "<", ">", "==", "=", "!=", "!", "||", "|=", "|", "&&",
    "&=", "&", "*=", "*", "/=", "/", "%=", "%", "+=", "+", "-=", "-", "^=", "^", "~", "?", ":",
    "(", ")"]

def looseness? : Token → Option (String × Nat)
  | .sign text =>
    let level := fun n : Nat => some (text, n)
    if ["*", "/", "%"].contains text then level 0
    else if ["+", "-"].contains text then level 1
    else if ["<<", ">>"].contains text then level 2
    else if ["<", "<=", ">", ">="].contains text then level 3
    else if ["==", "!="].contains text then level 4
    else if text = "&" then level 5
    else if text = "^" then level 6
    else if text = "|" then level 7
    else none
  | _ => none

def loosest : Nat := 8

def assigning? : Token → Option (Option String)
  | .sign "=" => some none
  | .sign text =>
    if ["*=", "/=", "%=", "+=", "-=", "<<=", ">>=", "&=", "^=", "|="].contains text then
      some (some (String.ofList text.toList.dropLast))
    else none
  | _ => none

def next : Reckon Token :=
  modifyGet fun sum =>
    match sum.rest.dropWhile fun c => c = ' ' || c = '\t' || c = '\n' with
    | [] => (.finish, { sum with rest := [] })
    | c :: rest =>
      let text := c :: rest
      if c.isDigit then
        let (value, after) := Integer.unsigned 0 text
        (.number (Integer.clamped value), { sum with rest := after })
      else if isNameStart c then
        (.name (text.takeWhile isNameChar), { sum with rest := text.dropWhile isNameChar })
      else match signs.find? fun sign => sign.toList.isPrefixOf text with
        | some sign => (.sign sign, { sum with rest := text.drop sign.length })
        | none => (.unknown, { sum with rest := text })

def follow (token : Token) : Reckon Unit := modify fun sum => { sum with last := token }

def followed : Reckon Token := return (← get).last

def expecting {α : Type} (what : String) : Reckon α := throw (.expecting what)

def truth (holds : Bool) : Int64 := if holds then 1 else 0

def apply (operator : String) (a b : Int64) : Reckon Int64 :=
  match operator with
  | "*" => return a * b
  | "/" => if b = 0 then throw .divisionByZero else return a / b
  | "%" => if b = 0 then throw .divisionByZero else return a % b
  | "+" => return a + b
  | "-" => return a - b
  | "<<" => return a <<< b
  | ">>" => return a >>> b
  | "<" => return truth (a < b)
  | "<=" => return truth (a ≤ b)
  | ">" => return truth (b < a)
  | ">=" => return truth (b ≤ a)
  | "==" => return truth (a = b)
  | "!=" => return truth (a ≠ b)
  | "&" => return a &&& b
  | "^" => return a ^^^ b
  | _ => return a ||| b

def lookup (name : Bytes) : Reckon Int64 := do
  let text := ((← get).session.value? name).getD []
  match Integer.ofText? 0 text with
  | some value => return value
  | none => throw (.other (illegalNumber text))

def assign (name : Bytes) (value : Int64) : Reckon Int64 := do
  match (← get).session.assign name (Integer.render value.toInt) with
  | .ok session =>
    modify fun sum => { sum with session }
    return value
  | .error message => throw (.other message)

abbrev Whole := Bool → Token → Reckon Int64

def primary (whole : Whole) (idle : Bool) : Nat → Token → Token → Reckon Int64
  | 0, _, _ => expecting "primary"
  | fuel + 1, token, after => do
    match token with
    | .number value =>
      follow after
      return value
    | .name chars =>
      follow after
      if idle then return 0 else lookup chars
    | .sign "(" =>
      let value ← whole idle after
      if (← followed) ≠ .sign ")" then expecting "')'"
      follow (← next)
      return value
    | .sign "+" => primary whole idle fuel after (← next)
    | .sign "-" => return -(← primary whole idle fuel after (← next))
    | .sign "!" => return truth ((← primary whole idle fuel after (← next)) = 0)
    | .sign "~" => return ~~~(← primary whole idle fuel after (← next))
    | _ => expecting "primary"

/-- Goes on from a first value with operators that bind tighter than `limit`. -/
def operations (whole : Whole) (idle : Bool) :
    Nat → Int64 → String → Nat → Nat → Reckon Int64
  | 0, first, _, _, _ => return first
  | fuel + 1, first, operator, level, limit => do
    let token ← next
    let second ← primary whole idle (fuel + 1) token (← next)
    let second ← match looseness? (← followed) with
      | some (tighter, above) =>
        if above < level then operations whole idle fuel second tighter above level
        else pure second
      | none => pure second
    let value ← if idle then pure second else apply operator first second
    match looseness? (← followed) with
    | some (following, beside) =>
      if beside < limit then operations whole idle fuel value following beside limit
      else return value
    | none => return value

def operation (whole : Whole) (idle : Bool) (fuel : Nat) (token after : Token) : Reckon Int64 := do
  let first ← primary whole idle fuel token after
  match looseness? (← followed) with
  | some (operator, level) => operations whole idle fuel first operator level loosest
  | none => return first

def conjunction (whole : Whole) (idle : Bool) : Nat → Token → Token → Reckon Int64
  | 0, _, _ => expecting "primary"
  | fuel + 1, token, after => do
    let first ← operation whole idle (fuel + 1) token after
    if (← followed) ≠ .sign "&&" then return first
    let token ← next
    let second ← conjunction whole (idle || first = 0) fuel token (← next)
    return truth (first ≠ 0 && second ≠ 0)

def disjunction (whole : Whole) (idle : Bool) : Nat → Token → Token → Reckon Int64
  | 0, _, _ => expecting "primary"
  | fuel + 1, token, after => do
    let first ← conjunction whole idle (fuel + 1) token after
    if (← followed) ≠ .sign "||" then return first
    let token ← next
    let second ← disjunction whole (idle || first ≠ 0) fuel token (← next)
    return truth (first ≠ 0 || second ≠ 0)

def choice (whole : Whole) (idle : Bool) : Nat → Token → Token → Reckon Int64
  | 0, _, _ => expecting "primary"
  | fuel + 1, token, after => do
    let first ← disjunction whole idle (fuel + 1) token after
    if (← followed) ≠ .sign "?" then return first
    let yes ← whole (idle || first = 0) (← next)
    if (← followed) ≠ .sign ":" then expecting "':'"
    let token ← next
    let no ← choice whole (idle || first ≠ 0) fuel token (← next)
    return if first ≠ 0 then yes else no

/-- A sum of fewer than `fuel` characters, nested at most `depth` deep. -/
def whole (fuel : Nat) : Nat → Whole
  | 0, _, _ => expecting "primary"
  | depth + 1, idle, token => do
    let after ← next
    match token, assigning? after with
    | .name chars, some operator =>
      let value ← whole fuel depth idle (← next)
      if idle then return value
      match operator with
      | none => assign chars value
      | some operator => assign chars (← apply operator (← lookup chars) value)
    | _, _ => choice (whole fuel depth) idle fuel token after

def Problem.message (text : Bytes) : Problem → Bytes
  | .expecting what => quoting ("expecting " ++ what)
  | .divisionByZero => quoting "division by zero"
  | .other message => message
where
  quoting (why : String) : Bytes :=
    ofString ("arithmetic expression: " ++ why ++ ": \"") ++ text ++ ['\x22']

def eval (text : Bytes) (session : Session) : Except Bytes (Int64 × Session) :=
  let fuel := text.length + 2
  let reckoned : Reckon Int64 := do
    let value ← whole fuel fuel false (← next)
    if (← followed) ≠ .finish then expecting "EOF"
    return value
  match reckoned.run { rest := text, session } with
  | .ok (value, sum) => .ok (value, sum.session)
  | .error problem => .error (problem.message text)

end Reckoning
end Retrace.Shell
