import Retrace.Tool.Awk.Token
import Retrace.Tool.Awk.Tree

/-!
# Reading scripts

Expressions by how tightly their signs bind, then statements, then rules. Names are
either variables or tables, and functions may be used before they are defined.
-/

namespace Retrace.Tool.Awk

open Unix

structure Flaw where
  line : Nat
  message : Bytes

structure Scan where
  rest : List Lexeme
  kinds : List (Bytes × Bool) := []
  parameters : Option (List Bytes) := none
  loops : Nat := 0
  inRule : Bool := false
  calls : List Bytes := []
  /-- An output sign would end the expression that is being read. -/
  printing : Bool := false
  lastLine : Nat := 1

abbrev Reader := StateT Scan (Except Flaw)

namespace Reader

def peek : Reader Lexeme := do
  match (← get).rest with
  | lexeme :: _ => return lexeme
  | [] => return { token := .finish, line := (← get).lastLine }

def peekSecond : Reader Token := do
  match (← get).rest with
  | _ :: lexeme :: _ => return lexeme.token
  | _ => return .finish

def advance : Reader Unit :=
  modify fun scan => { scan with
    rest := scan.rest.drop 1
    lastLine := ((scan.rest.head?).map (·.line)).getD scan.lastLine }

def fault {α : Type} (line : Nat) (message : Bytes) : Reader α := throw ⟨line, message⟩

def unexpected {α : Type} : Reader α := do
  let lexeme ← peek
  match lexeme.token with
  | .flaw message => fault lexeme.line message
  | token => fault lexeme.line ("syntax error at or near " ++ token.shown lexeme.written)

def nextIs (text : String) : Reader Bool := do
  match (← peek).token with
  | .sign sign => return sign = text
  | .keyword word => return word = text
  | _ => return false

def expect (text : String) : Reader Unit := do
  if ← nextIs text then advance else unexpected

def accept (text : String) : Reader Bool := do
  if ← nextIs text then
    advance
    return true
  return false

def skipNewline : Reader Unit := do
  if let .newline := (← peek).token then advance

def use (name : Bytes) (table : Bool) (line : Nat) : Reader Unit := do
  let scan ← get
  if (scan.parameters.getD []).contains name then return
  match scan.kinds.lookup name with
  | none => set { scan with kinds := (name, table) :: scan.kinds }
  | some known =>
    if known ≠ table then
      fault line (ofString (if known then "illegal reference to array " else "illegal reference to variable ") ++ name)

def printingAs (printing : Bool) (reader : Reader α) : Reader α := do
  let before := (← get).printing
  modify fun scan => { scan with printing }
  let value ← reader
  modify fun scan => { scan with printing := before }
  return value

end Reader

open Reader

def Expr.isTarget : Expr → Bool
  | .variable _ => true
  | .element .. => true
  | .field _ => true
  | _ => false

def arity : String → Nat × Nat
  | "length" => (0, 1)
  | "substr" => (2, 3)
  | "index" => (2, 2)
  | "split" => (2, 3)
  | "sub" => (2, 3)
  | "gsub" => (2, 3)
  | "match" => (2, 2)
  | "sprintf" => (1, 255)
  | "atan2" => (2, 2)
  | "rand" => (0, 0)
  | "srand" => (0, 1)
  | "fflush" => (0, 1)
  | "systime" => (0, 0)
  | "strftime" => (0, 3)
  | _ => (1, 1)

/-! ## Expressions -/

def listUpTo (inner : Reader Expr) (closing : String) : Nat → List Expr → Reader (List Expr)
  | 0, read => return read.reverse
  | fuel + 1, read => do
    let item ← inner
    if ← accept "," then listUpTo inner closing fuel (item :: read)
    else
      expect closing
      return (item :: read).reverse

variable (inner : Reader Expr)

def argument : Reader Expr := do
  match (← get).rest with
  | ⟨.name name, _, _⟩ :: ⟨.sign sign, _, _⟩ :: _ =>
    if sign = "," || sign = ")" then
      advance
      return .variable name
    inner
  | _ => inner

def argumentsIn : Reader (List Expr) := do
  expect "("
  if ← accept ")" then return []
  printingAs false (listUpTo (argument inner) ")" 100000 [])

def target (inner number : Reader Expr) : Reader Expr := do
  let lexeme ← peek
  match lexeme.token with
  | .sign "$" =>
    advance
    return .field (← number)
  | .name name =>
    advance
    if ← accept "[" then
      use name true lexeme.line
      return .element name (← printingAs false (listUpTo inner "]" 100000 []))
    use name false lexeme.line
    return .variable name
  | _ => unexpected

def startsTarget : Reader Bool := do
  match (← peek).token with
  | .sign "$" => return true
  | .name _ => return true
  | _ => return false

def builtinCall (name : String) (line : Nat) : Reader Expr := do
  let bare := !(← nextIs "(")
  if bare && name ≠ "length" then unexpected
  let arguments : List Expr ← if bare then pure [] else argumentsIn inner
  let (least, most) := arity name
  if arguments.length < least || most < arguments.length then
    fault line (ofString ("wrong number of arguments in call to " ++ name))
  if name = "split" then
    if let some (Expr.variable table) := arguments[1]? then use table true line
  return .builtin name arguments

/-- Reads what signs stand between. `power` reads what may stand after a sign before it. -/
def primary (inner power : Reader Expr) (number : Reader Expr) : Reader Expr := do
  let lexeme ← peek
  match lexeme.token with
  | .number value =>
    advance
    return .number value
  | .text value =>
    advance
    return .text value
  | .regex source =>
    advance
    return .regex source
  | .sign "(" =>
    advance
    let items ← printingAs false (listUpTo inner ")" 100000 [])
    return .grouped items
  | .sign "!" =>
    advance
    return .not (← power)
  | .sign "-" =>
    advance
    return .negate (← power)
  | .sign "+" =>
    advance
    return .plus (← power)
  | .sign "++" =>
    advance
    return .count (← target inner number) true true
  | .sign "--" =>
    advance
    return .count (← target inner number) false true
  | .function name =>
    advance
    let arguments ← argumentsIn inner
    modify fun scan => { scan with calls := name :: scan.calls }
    return .call name arguments
  | .builtin name =>
    advance
    builtinCall inner name lexeme.line
  | .keyword "getline" =>
    advance
    let place ← if ← startsTarget then some <$> target inner number else pure none
    if ← accept "<" then return .readRecord false (some (← number)) place
    return .readRecord false none place
  | .sign "$" => counted (← target inner number)
  | .name _ => counted (← target inner number)
  | _ => unexpected
where
  counted (place : Expr) : Reader Expr := do
    if ← accept "++" then return .count place true false
    if ← accept "--" then return .count place false false
    return place

def piped (inner number : Reader Expr) : Nat → Expr → Reader Expr
  | 0, left => return left
  | fuel + 1, left => do
    if ← nextIs "|" then
      if let .keyword "getline" := ← peekSecond then
        advance
        advance
        let place ← if ← startsTarget then some <$> target inner number else pure none
        return ← piped inner number fuel (.readRecord true (some left) place)
    return left

/-- Reads the number of a field, or the name of a file: no sign may stand behind it. -/
def fieldNumber (inner : Reader Expr) : Nat → Reader Expr
  | 0 => unexpected
  | fuel + 1 => primary inner (fieldNumber inner fuel) (tight inner fuel)
where
  tight (inner : Reader Expr) : Nat → Reader Expr
    | 0 => unexpected
    | fuel + 1 => do
      let lexeme ← peek
      match lexeme.token with
      | .name name =>
        advance
        if ← accept "[" then
          use name true lexeme.line
          return .element name (← printingAs false (listUpTo inner "]" 100000 []))
        use name false lexeme.line
        return .variable name
      | _ => primary inner (tight inner fuel) (tight inner fuel)

def powers (inner : Reader Expr) : Nat → Reader Expr
  | 0 => unexpected
  | fuel + 1 => do
    let number := fieldNumber.tight inner 1000
    let left ← primary inner (powers inner fuel) number
    let left ← piped inner number 1000 left
    match left with
    | .not _ => return left
    | .negate _ => return left
    | .plus _ => return left
    | _ => if ← accept "^" then return .calculate .power left (← powers inner fuel) else return left

def leftward (operand : Reader Expr) (sign? : Reader (Option (Expr → Expr → Expr))) :
    Nat → Expr → Reader Expr
  | 0, left => return left
  | fuel + 1, left => do
    match ← sign? with
    | none => return left
    | some make => leftward operand sign? fuel (make left (← operand))

def oneOf (signs : List (String × (Expr → Expr → Expr))) : Reader (Option (Expr → Expr → Expr)) := do
  match (← peek).token with
  | .sign text =>
    match signs.lookup text with
    | some make =>
      advance
      return some make
    | none => return none
  | _ => return none

def products : Reader Expr := do
  let operand := powers inner 10000
  leftward operand (oneOf [("*", .calculate .multiply), ("/", .calculate .divide),
    ("%", .calculate .remainder)]) 100000 (← operand)

def sums : Reader Expr := do
  leftward (products inner) (oneOf [("+", .calculate .add), ("-", .calculate .subtract)]) 100000
    (← products inner)

def startsOperand : Reader Bool := do
  match (← peek).token with
  | .number _ => return true
  | .text _ => return true
  | .regex _ => return true
  | .name _ => return true
  | .function _ => return true
  | .builtin _ => return true
  | .sign text => return ["$", "(", "!", "++", "--"].contains text
  | _ => return false

/-- Several values in brackets mean something only before `in` and after words for output. -/
def isTuple : Expr → Bool
  | .grouped (_ :: _ :: _) => true
  | _ => false

def joins : Reader Expr := do
  let first ← sums inner
  if isTuple first && (← startsOperand) then unexpected
  leftward (sums inner) (do if ← startsOperand then return some (.calculate .join) else return none)
    100000 first

def relations : Reader Expr := do
  let printing := (← get).printing
  let signs := [("<", Expr.relate .less), ("<=", .relate .lessEqual), ("==", .relate .equal),
    ("!=", .relate .unequal), (">=", .relate .greaterEqual)] ++
    if printing then [] else [(">", Expr.relate .greater)]
  leftward (joins inner) (oneOf signs) 100000 (← joins inner)

def matchings : Reader Expr := do
  let unlike := fun (text pattern : Expr) => Expr.not (.fits text pattern)
  leftward (relations inner) (oneOf [("~", .fits), ("!~", unlike)]) 100000 (← relations inner)

def memberships (inner : Reader Expr) : Nat → Expr → Reader Expr
  | 0, left => return left
  | fuel + 1, left => do
    if ← nextIs "in" then
      advance
      let lexeme ← peek
      match lexeme.token with
      | .name name =>
        advance
        use name true lexeme.line
        let index := match left with
          | .grouped items => items
          | other => [other]
        memberships inner fuel (.member index name)
      | _ => unexpected
    else return left

def conjunctions : Reader Expr := do
  let operand := do memberships inner 1000 (← matchings inner)
  leftward operand (oneOf [("&&", .both)]) 100000 (← operand)

def disjunctions : Reader Expr := do
  leftward (conjunctions inner) (oneOf [("||", .either)]) 100000 (← conjunctions inner)

def assignments : List (String × Operator) :=
  [("+=", .add), ("-=", .subtract), ("*=", .multiply), ("/=", .divide), ("%=", .remainder), ("^=", .power)]

def exprWithin : Nat → Reader Expr
  | 0 => unexpected
  | fuel + 1 => do
    let inner := exprWithin fuel
    let left ← disjunctions inner
    if ← accept "?" then
      let first ← inner
      skipNewline
      expect ":"
      skipNewline
      return .choose left first (← inner)
    if left.isTarget then
      if ← accept "=" then return .assign left (← inner)
      match (← peek).token with
      | .sign text =>
        match assignments.lookup text with
        | some operator =>
          advance
          return .update operator left (← inner)
        | none => return left
      | _ => return left
    return left

def nesting : Nat := 2000

def expr : Reader Expr := do
  let read ← exprWithin nesting
  if isTuple read then unexpected
  return read

/-! ## Statements -/

def endStatement : Reader Unit := do
  match (← peek).token with
  | .newline => advance
  | .finish => return
  | _ =>
    if ← accept ";" then return
    if ← nextIs "\x7d" then return
    unexpected

def atEnd : Reader Bool := do
  match (← peek).token with
  | .newline => return true
  | .finish => return true
  | .sign text => return text = ";" || text = "\x7d"
  | _ => return false

def output (formatted : Bool) (line : Nat) : Reader Statement := do
  let isOver := do
    let ends ← atEnd
    match (← peek).token with
    | .sign text => return ends || [">", ">>", "|"].contains text
    | _ => return ends
  let items ← if ← isOver then pure [] else
    printingAs true (commaList (exprWithin nesting) 100000 [])
  let items := match items with
    | [.grouped items] => items
    | items => items
  if items.any isTuple then unexpected
  if formatted && items.isEmpty then fault line "no arguments in call to printf"
  let way ← match (← peek).token with
    | .sign ">" => pure (some Way.anew)
    | .sign ">>" => pure (some Way.behind)
    | .sign "|" => pure (some Way.into)
    | _ => pure none
  match way with
  | none => return .print items formatted none
  | some way =>
    advance
    let place ← printingAs true (joins (exprWithin nesting))
    return .print items formatted (some (way, place))
where
  commaList (inner : Reader Expr) : Nat → List Expr → Reader (List Expr)
    | 0, read => return read.reverse
    | fuel + 1, read => do
      let item ← inner
      if ← accept "," then commaList inner fuel (item :: read) else return (item :: read).reverse

def statementsUpTo (statement : Reader Statement) : Nat → List Statement → Reader (List Statement)
  | 0, read => return read.reverse
  | fuel + 1, read => do
    if ← accept "\x7d" then return read.reverse
    if let .newline := (← peek).token then
      advance
      return ← statementsUpTo statement fuel read
    statementsUpTo statement fuel ((← statement) :: read)

def looped (body : Reader Statement) : Reader Statement := do
  modify fun scan => { scan with loops := scan.loops + 1 }
  let read ← body
  modify fun scan => { scan with loops := scan.loops - 1 }
  return read

def simple : Reader Statement := do
  let lexeme ← peek
  match lexeme.token with
  | .keyword "print" =>
    advance
    output false lexeme.line
  | .keyword "printf" =>
    advance
    output true lexeme.line
  | .keyword "next" =>
    advance
    if !(← get).inRule then fault lexeme.line "improper use of next"
    return .next
  | .keyword "nextfile" =>
    advance
    if !(← get).inRule then fault lexeme.line "improper use of nextfile"
    return .nextFile
  | .keyword "break" =>
    advance
    if (← get).loops = 0 then fault lexeme.line "break statement outside of loop"
    return .leave
  | .keyword "continue" =>
    advance
    if (← get).loops = 0 then fault lexeme.line "continue statement outside of loop"
    return .again
  | .keyword "exit" =>
    advance
    if ← atEnd then return .exit none
    return .exit (some (← expr))
  | .keyword "return" =>
    advance
    if (← get).parameters.isNone then fault lexeme.line "return outside function body"
    if ← atEnd then return .give none
    return .give (some (← expr))
  | .keyword "delete" =>
    advance
    let lexeme ← peek
    match lexeme.token with
    | .name name =>
      advance
      use name true lexeme.line
      if ← accept "[" then return .delete name (some (← listUpTo (exprWithin nesting) "]" 100000 []))
      return .delete name none
    | _ => unexpected
  | _ => return .evaluate (← expr)

def counting (statement : Reader Statement) : Reader Statement := do
  expect "("
  let lexemes := (← get).rest
  match lexemes with
  | ⟨.name name, line, _⟩ :: ⟨.keyword "in", _, _⟩ :: ⟨.name table, _, _⟩ :: ⟨.sign ")", _, _⟩ :: _ =>
    advance
    advance
    advance
    advance
    use name false line
    use table true line
    skipNewline
    return .each name table (← looped statement)
  | _ =>
    let start ← if ← nextIs ";" then pure none else some <$> simple
    expect ";"
    let condition ← if ← nextIs ";" then pure none else some <$> expr
    expect ";"
    let after ← if ← nextIs ")" then pure none else some <$> expr
    expect ")"
    skipNewline
    let body ← if ← accept ";" then pure (.block []) else looped statement
    let loop := Statement.loop condition after body true
    match start with
    | none => return loop
    | some start => return .block [start, loop]

def statementWithin : Nat → Reader Statement
  | 0 => unexpected
  | fuel + 1 => do
    let statement := statementWithin fuel
    let lexeme ← peek
    match lexeme.token with
    | .sign "\x7b" =>
      advance
      return .block (← statementsUpTo statement 1000000 [])
    | .sign ";" =>
      advance
      return .block []
    | .keyword "if" =>
      advance
      expect "("
      let condition ← expr
      expect ")"
      skipNewline
      let first ← statement
      if ← accept "else" then return .when condition first (some (← statement))
      return .when condition first none
    | .keyword "while" =>
      advance
      expect "("
      let condition ← expr
      expect ")"
      if ← accept ";" then return .loop (some condition) none (.block []) true
      skipNewline
      return .loop (some condition) none (← looped statement) true
    | .keyword "do" =>
      advance
      let body ← looped statement
      expect "while"
      expect "("
      let condition ← expr
      expect ")"
      endStatement
      return .loop (some condition) none body false
    | .keyword "for" =>
      advance
      counting statement
    | _ =>
      let read ← simple
      endStatement
      return read

def statement : Reader Statement := statementWithin nesting

def block : Reader Statement := do
  expect "\x7b"
  return .block (← statementsUpTo statement 1000000 [])

/-! ## Rules -/

def parameterList (line : Nat) : Nat → List Bytes → Reader (List Bytes)
  | 0, read => return read.reverse
  | fuel + 1, read => do
    match (← peek).token with
    | .name name =>
      advance
      if read.contains name then fault line (name ++ " is duplicated in argument list")
      if ← accept "," then parameterList line fuel (name :: read)
      else
        expect ")"
        return (name :: read).reverse
    | _ => unexpected

def function : Reader Function := do
  let lexeme ← peek
  let name ← match lexeme.token with
    | .function name => pure name
    | .name name => pure name
    | _ => unexpected
  advance
  expect "("
  let parameters ← if ← accept ")" then pure [] else parameterList lexeme.line 1000 []
  skipNewline
  modify fun scan => { scan with parameters := some parameters }
  let body ← block
  modify fun scan => { scan with parameters := none }
  return { name, parameters, body }

def rules : Nat → Script → Reader Script
  | 0, script => return script
  | fuel + 1, script => do
    let lexeme ← peek
    match lexeme.token with
    | .finish => return script
    | .newline =>
      advance
      rules fuel script
    | .sign ";" =>
      advance
      rules fuel script
    | .keyword "BEGIN" =>
      advance
      let body ← block
      rules fuel { script with begins := script.begins ++ [body] }
    | .keyword "END" =>
      advance
      let body ← block
      rules fuel { script with ends := script.ends ++ [body] }
    | .keyword "function" =>
      advance
      let made ← function
      rules fuel { script with functions := script.functions ++ [made] }
    | _ =>
      modify fun scan => { scan with inRule := true }
      let pattern ← if ← nextIs "\x7b" then pure Pattern.always else do
        let first ← expr
        if ← accept "," then pure (.range first (← expr)) else pure (.one first)
      let body ← if ← nextIs "\x7b" then block else do
        match (← peek).token with
        | .newline => advance
        | .finish => pure ()
        | _ => if !(← accept ";") then unexpected
        pure (.print [] false none)
      modify fun scan => { scan with inRule := false }
      rules fuel { script with rules := script.rules ++ [{ pattern, body }] }

def script : Reader Script := do
  let read ← rules 100000 {}
  let scan ← get
  match scan.calls.reverse.find? fun name => !read.functions.any (·.name = name) with
  | some name =>
    fault (← peek).line ("function " ++ name ++ " never defined")
  | none => return read

def Script.ofText (text : Bytes) : Except Flaw Script :=
  (script.run' { rest := lexemes text })

end Retrace.Tool.Awk
