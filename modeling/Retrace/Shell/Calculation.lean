import Retrace.Shell.Lookup

/-!
# Calculation

The sums of the richer shell. A variable in a sum stands for the sum that its value is,
and may be an element of a row. There are powers, steps up and down, and numbers in any
base up to 64. What stands before a flaw has been reckoned when the flaw is met.
-/

namespace Retrace.Shell

open Unix

inductive Calculation.Problem where
  | told (message : Bytes)
  | unbound (name : Bytes)
  | locked (message : Bytes)
  | index (message : Bytes)
  deriving DecidableEq, Repr

structure Calculation.Target where
  name : Bytes
  index : Option Bytes := none
  deriving DecidableEq, Repr

inductive Calculation.Token where
  | finish
  | number (value : Int64)
  | name (target : Target)
  | sign (text : String)
  | step (down behind : Bool)
  deriving DecidableEq, Repr

structure Calculation where
  whole : Bytes
  rest : Bytes
  begun : Bytes
  (token before : Calculation.Token := .finish)
  value : Int64 := 0
  /-- How many choices leave the part out that is being read. -/
  idle : Nat := 0
  session : Session

namespace Calculation

abbrev Calc := ExceptT Problem (StateM Calculation)

abbrev Settling := ExceptT Problem (StateM Session)

abbrev Inner := Bytes → Settling Int64

def settling (body : Settling α) : Calc α := do
  let sum ← get
  let (found, session) := body.run sum.session
  set { sum with session }
  match found with
  | .ok value => return value
  | .error problem => throw problem

def isGap (c : Char) : Bool := c = ' ' || c = '\t' || c = '\n'

def fail {α : Type} (why : String) : Calc α := do
  let sum ← get
  throw (.told (sum.whole.dropWhile isGap ++ ofString (": " ++ why ++ " (error token is \"") ++
    sum.begun ++ ['\x22', ')']))

def signs : List String :=
  ["<<=", ">>=", "**", "<<", ">>", "<=", ">=", "==", "!=", "&&", "||", "+=", "-=", "*=", "/=", "%=",
    "&=", "^=", "|=", "<", ">", "=", "!", "+", "-", "*", "/", "%", "&", "^", "|", "~", "?", ":", ",",
    "(", ")"]

def assigning? : Token → Option (Option String)
  | .sign "=" => some none
  | .sign text =>
    if ["*=", "/=", "%=", "+=", "-=", "<<=", ">>=", "&=", "^=", "|="].contains text then
      some (some (String.ofList text.toList.dropLast))
    else none
  | _ => none

def digitOf (base : Nat) (c : Char) : Nat :=
  if c.isDigit then c.toNat - '0'.toNat
  else if c.isLower then c.toNat - 'a'.toNat + 10
  else if c.isUpper then c.toNat - 'A'.toNat + (if base ≤ 36 then 10 else 36)
  else if c = '@' then 62 else 63

/-- The value of digits in a base. A hash sign behind the first of them makes them the base. -/
def digitsIn (based : Bool) : Nat → Nat → Bytes → Calc Nat
  | _, total, [] => return total
  | base, total, c :: rest =>
    if c = '#' then do
      if based then fail "invalid number"
      if total < 2 || 64 < total then fail "invalid arithmetic base"
      if rest.isEmpty || rest.head? = some '#' then fail "invalid integer constant"
      digitsIn true total 0 rest
    else do
      let digit := digitOf base c
      if base ≤ digit then fail "value too great for base"
      digitsIn based base (base * total + digit) rest

/-- The value of a number as it is written. What is wrong with it is told without what follows
it in the sum. -/
def numberOf (text : Bytes) : Calc Int64 := do
  let sum ← get
  let upTo := sum.whole.length - sum.begun.length + text.length
  set { sum with whole := sum.whole.take upTo, begun := text }
  let value ← match text with
    | ['0'] => pure 0
    | '0' :: x :: rest =>
      if x = 'x' || x = 'X' then digitsIn true 16 0 rest else digitsIn true 8 0 (x :: rest)
    | _ => digitsIn false 10 0 text
  set sum
  return Int64.ofNat value

def bracketed : Nat → Bytes → Bytes → Option (Bytes × Bytes)
  | _, _, [] => none
  | depth, read, c :: rest =>
    if c = '[' then bracketed (depth + 1) (c :: read) rest
    else if c = ']' then
      match depth with
      | 0 => some (read.reverse, rest)
      | depth + 1 => bracketed depth (c :: read) rest
    else bracketed depth (c :: read) rest

variable (inner : Inner)

def indexValue (index : Bytes) : Settling Int64 :=
  tryCatch (inner index) fun
    | .told message => throw (.index message)
    | problem => throw problem

/-- The element that an index means, counted from the end if it is negative. None if it is in
front of the first one. A single value is a row to those who `store` something. -/
def keyFor (store : Bool) (name index : Bytes) : Settling (Option Key) := do
  if (← get).isTable name then return some (.name index)
  let place := (← indexValue inner index).toInt
  let session ← get
  let last : Int := match (session.named? name).bind (·.elements) with
    | some elements => elements.afterLast
    | none => if store && (session.textOf? name).isSome then 1 else 0
  let place := if 0 ≤ place then place else place + last
  return if 0 ≤ place then some (.place place.toNat) else none

def aside (text : Bytes) : Settling Unit :=
  modify fun session =>
    { session with asides := (text ++ ": bad array subscript") :: session.asides }

def textAt (target : Target) : Settling (Option Bytes) := do
  match target.index with
  | none =>
    let (text, session) := (← get).readText? target.name
    set session
    return text
  | some index =>
    match ← keyFor inner false target.name index with
    | none =>
      aside target.name
      return none
    | some key => return (((← get).named? target.name).map Session.elementsOf).bind (·.get? key)

def read (target : Target) : Calc Int64 := do
  if 0 < (← get).idle then return 0
  match ← settling (textAt inner target) with
  | none =>
    if (← get).session.has "nounset" then
      throw (.unbound (target.name ++ match target.index with
        | some index => '[' :: index ++ [']']
        | none => []))
    return 0
  | some text => settling (inner text)

def write (target : Target) (value : Int64) : Calc Unit := do
  if 0 < (← get).idle then return
  let stored (key : Option Key) : Settling Unit := do
    match (← get).storeAt target.name key (Integer.render value.toInt) with
    | .ok session => set session
    | .error message => throw (.locked message)
  settling do
    match target.index with
    | none => stored none
    | some index =>
      match ← keyFor inner true target.name index with
      | some key => stored (some key)
      | none => aside (target.name ++ '[' :: index ++ [']'])

def become (token : Token) : Calc Unit :=
  modify fun sum => { sum with token, before := sum.token }

def assignsNext (text : Bytes) : Bool :=
  match text.dropWhile isGap with
  | '=' :: '=' :: _ => false
  | '=' :: _ => true
  | _ => false

def stepsNext (text : Bytes) : Bool := (text.dropWhile isGap).head?.any isNameStart

def advance : Calc Unit := do
  modify fun sum => { sum with rest := sum.rest.dropWhile isGap }
  let sum ← get
  match sum.rest with
  | [] => become .finish
  | c :: more =>
    set { sum with begun := c :: more }
    let goTo (rest : Bytes) (token : Token) : Calc Unit := do
      modify fun sum => { sum with rest }
      become token
    if isNameStart c then
      let name := (c :: more).takeWhile isNameChar
      let after := (c :: more).drop name.length
      let (target, after) ← match after with
        | '[' :: inside =>
          match bracketed 0 [] inside with
          | some (index, after) => pure (({ name, index := some index } : Target), after)
          | none => fail "bad array subscript"
        | _ => pure ({ name }, after)
      modify fun sum => { sum with rest := after }
      let value ← if assignsNext after then pure 0 else read inner target
      modify fun sum => { sum with value }
      become (.name target)
    else if c.isDigit then
      let isPart := fun c : Char => c.isAlphanum || c = '#' || c = '@' || c = '_'
      let text := (c :: more).takeWhile isPart
      let value ← numberOf text
      modify fun sum => { sum with value }
      goTo ((c :: more).drop text.length) (.number value)
    else if (c = '+' || c = '-') && more.head? = some c then
      match sum.token with
      | .name _ => goTo (more.drop 1) (.step (c = '-') true)
      | _ =>
        if stepsNext (more.drop 1) then goTo (more.drop 1) (.step (c = '-') false)
        else goTo more (.sign (String.singleton c))
    else match signs.find? fun sign => sign.toList.isPrefixOf (c :: more) with
      | some sign => goTo ((c :: more).drop sign.length) (.sign sign)
      | none =>
        match sum.token with
        | .number _ => fail "syntax error: invalid arithmetic operator"
        | .name _ => fail "syntax error: invalid arithmetic operator"
        | _ => fail "syntax error: operand expected"

def current : Calc Token := return (← get).token

def isSign (text : String) : Calc Bool := return (← current) = .sign text

def truth (holds : Bool) : Int64 := if holds then 1 else 0

def power (base : Int64) : Nat → Int64
  | 0 => 1
  | n + 1 => if (n + 1) % 2 = 0 then power (base * base) ((n + 1) / 2) else base * power base n
termination_by n => n
decreasing_by all_goals omega

def apply (operator : String) (a b : Int64) (divisor : Bytes) : Calc Int64 := do
  let dividing (value : Int64 → Int64) : Calc Int64 := do
    if b = 0 then
      if 0 < (← get).idle then return value 1
      modify fun sum => { sum with begun := divisor.dropWhile isGap }
      fail "division by 0"
    return value b
  match operator with
  | "*" => return a * b
  | "/" => dividing fun b => if b = -1 then -a else a / b
  | "%" => dividing fun b => if b = -1 then 0 else a % b
  | "+" => return a + b
  | "-" => return a - b
  | "<<" => return a <<< b
  | ">>" => return a >>> b
  | "<" => return truth (a < b)
  | "<=" => return truth (a ≤ b)
  | ">" => return truth (b < a)
  | ">=" => return truth (b ≤ a)
  | "==" => return truth (a = b)
  | "!=" => return truth (a ≠ b)
  | "&" => return a &&& b
  | "^" => return a ^^^ b
  | "|" => return a ||| b
  | "&&" => return truth (a ≠ 0 && b ≠ 0)
  | _ => return truth (a ≠ 0 || b ≠ 0)

def operatorsAt : Nat → List String
  | 0 => ["*", "/", "%"]
  | 1 => ["+", "-"]
  | 2 => ["<<", ">>"]
  | 3 => ["<", "<=", ">", ">="]
  | 4 => ["==", "!="]
  | 5 => ["&"]
  | 6 => ["^"]
  | 7 => ["|"]
  | 8 => ["&&"]
  | _ => ["||"]

def leavingOut (left : Bool) (body : Calc α) : Calc α := do
  if left then modify fun sum => { sum with idle := sum.idle + 1 }
  let value ← body
  if left then modify fun sum => { sum with idle := sum.idle - 1 }
  return value

def primary (whole : Calc Int64) : Calc Int64 := do
  match ← current with
  | .step down false =>
    advance inner
    match ← current with
    | .name target =>
      let value := (← get).value + if down then -1 else 1
      write inner target value
      modify fun sum => { sum with token := .number value }
      advance inner
      return value
    | _ => fail "identifier expected after pre-increment or pre-decrement"
  | .sign "(" =>
    advance inner
    let value ← whole
    if !(← isSign ")") then fail "missing \x60)'"
    advance inner
    return value
  | .number value =>
    advance inner
    return value
  | .name target =>
    let value := (← get).value
    advance inner
    match ← current with
    | .step down true =>
      write inner target (value + if down then -1 else 1)
      modify fun sum => { sum with token := .number value }
      advance inner
      return value
    | _ => return value
  | _ => fail "syntax error: operand expected"

def unary (inner : Inner) (whole : Calc Int64) : Nat → Calc Int64
  | 0 => primary inner whole
  | fuel + 1 => do
    let behind (change : Int64 → Int64) : Calc Int64 := do
      advance inner
      let value := change (← unary inner whole fuel)
      modify fun sum => { sum with before := .number value }
      return value
    match ← current with
    | .sign "!" => behind fun value => truth (value = 0)
    | .sign "~" => behind fun value => ~~~value
    | .sign "-" => behind fun value => -value
    | .sign "+" => behind id
    | _ => primary inner whole

def powers (inner : Inner) (whole : Calc Int64) (size : Nat) : Nat → Calc Int64
  | 0 => unary inner whole size
  | fuel + 1 => do
    let base ← unary inner whole size
    if !(← isSign "**") then return base
    advance inner
    let exponent ← powers inner whole size fuel
    modify fun sum => { sum with before := .number exponent }
    if exponent < 0 then fail "exponent less than 0"
    return power base exponent.toInt.toNat

def row (inner : Inner) (operators : List String) (operand : Calc Int64) : Nat → Int64 → Calc Int64
  | 0, first => return first
  | fuel + 1, first => do
    match ← current with
    | .sign operator =>
      if !operators.contains operator then return first
      let divisor := (← get).rest
      let left := (operator = "&&" && first = 0) || (operator = "||" && first ≠ 0)
      let second ← leavingOut left do
        advance inner
        operand
      let value ← apply operator first second divisor
      modify fun sum => { sum with before := .sign operator }
      row inner operators operand fuel value
    | _ => return first

def binary (inner : Inner) (whole : Calc Int64) (size : Nat) : Nat → Calc Int64
  | 0 => do row inner (operatorsAt 0) (powers inner whole size size) size (← powers inner whole size size)
  | level + 1 => do
    row inner (operatorsAt (level + 1)) (binary inner whole size level) size
      (← binary inner whole size level)

def choice (inner : Inner) (whole : Calc Int64) (size : Nat) : Nat → Calc Int64
  | 0 => fail "expression expected"
  | fuel + 1 => do
    let condition ← binary inner whole size 9
    if !(← isSign "?") then return condition
    let yes ← leavingOut (condition = 0) do
      advance inner
      if (← isSign ":") || (← current) = .finish then fail "expression expected"
      whole
    if !(← isSign ":") then fail "\x60:' expected for conditional expression"
    let no ← leavingOut (condition ≠ 0) do
      advance inner
      if (← current) = .finish then fail "expression expected"
      choice inner whole size fuel
    modify fun sum => { sum with before := .finish }
    return if condition ≠ 0 then yes else no

def assignment (inner : Inner) (whole : Calc Int64) (size : Nat) : Nat → Calc Int64
  | 0 => fail "expression expected"
  | fuel + 1 => do
    let first ← choice inner whole size size
    let sum ← get
    match assigning? sum.token, sum.before with
    | none, _ => return first
    | some operator, .name target =>
      advance inner
      let second ← assignment inner whole size fuel
      let value ← match operator with
        | none => pure second
        | some operator => apply operator first second (← get).begun
      write inner target value
      return value
    | some _, _ => fail "attempted assignment to non-variable"

def list (inner : Inner) (size : Nat) : Nat → Calc Int64
  | 0 => fail "expression recursion level exceeded"
  | depth + 1 => do
    let whole := list inner size depth
    let first ← assignment inner whole size size
    more whole size first
where
  more (whole : Calc Int64) : Nat → Int64 → Calc Int64
    | 0, value => return value
    | fuel + 1, value => do
      if !(← isSign ",") then return value
      advance inner
      more whole fuel (← assignment inner whole size size)

def maxDepth : Nat := 1024

def evalWith : Inner := fun text => do
  if text.all isGap then return 0
  let size := text.length + 2
  let reckoned : Calc Int64 := do
    advance inner
    let value ← list inner size size
    if (← current) ≠ .finish then fail "syntax error in expression"
    return value
  let (found, sum) :=
    reckoned.run { whole := text, rest := text, begun := text, session := ← get }
  set sum.session
  match found with
  | .ok value => return value
  | .error problem => throw problem

def evalWithin : Nat → Inner
  | 0 => fun text => throw (.told (text ++
      ": expression recursion level exceeded (error token is \"" ++ text ++ ['\x22', ')']))
  | depth + 1 => evalWith (evalWithin depth)

def eval : Inner := evalWithin maxDepth

end Calculation
end Retrace.Shell
