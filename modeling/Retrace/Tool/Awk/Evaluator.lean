import Retrace.Tool.Awk.Machine
import Retrace.Tool.Calendar

/-!
# Running scripts

What an expression comes to and what a statement does, given how the parts of them
are evaluated and run.
-/

namespace Retrace.Tool.Awk

open Unix Regex

inductive Flow where
  | goes
  | leaves
  | again
  | gives (value : Value)

structure Self where
  eval : Expr → Action Value
  run : Statement → Action Flow

/-! ## Numbers -/

def whatIsLeft (a b : Float) : Float :=
  match Shell.Real.ofFloat a, Shell.Real.ofFloat b with
  | .finite x, .finite y =>
    if y.mantissa = 0 then 0.0 / 0.0
    else
      let least := min x.exponent y.exponent
      let whole := fun (parts : Shell.Real.Parts) => parts.mantissa * Nat.pow 2 (parts.exponent - least).toNat
      let left := Float.scaleB (Float.ofNat (whole x % whole y)) least
      if x.negative then -left else left
  | .finite _, .infinite _ => a
  | _, _ => 0.0 / 0.0

def Operator.apply (operator : Operator) (a b : Float) : Float :=
  match operator with
  | .add => a + b
  | .subtract => a - b
  | .multiply => a * b
  | .divide => a / b
  | .remainder => whatIsLeft a b
  | .power => Float.pow a b
  | .join => 0.0

def combine (operator : Operator) (a b : Value) : Action Value := do
  match operator with
  | .join => return .text ((← asText a) ++ (← asText b))
  | operator => return .number (operator.apply a.toNumber b.toNumber)

/-! ## Texts -/

def replacement : Nat → Bytes → List (Option Bytes)
  | 0, _ => []
  | _, [] => []
  | fuel + 1, '&' :: rest => none :: replacement fuel rest
  | fuel + 1, '\\' :: rest =>
    let marks := ('\\' :: rest).takeWhile (· = '\\')
    let after := ('\\' :: rest).drop marks.length
    match after with
    | '&' :: more =>
      let kept := some (List.replicate (marks.length / 2) '\\')
      if marks.length % 2 = 1 then kept :: some ['&'] :: replacement fuel more
      else kept :: none :: replacement fuel more
    | _ => some marks :: replacement fuel after
  | fuel + 1, c :: rest =>
    let plain := (c :: rest).takeWhile fun c => c ≠ '&' && c ≠ '\\'
    some plain :: replacement fuel ((c :: rest).drop plain.length)

/-- A text with matches replaced, all of them or the first, and how many there were. `ended` is
where the last match ended that was not empty. -/
def replaced (pattern : Posix) (parts : List (Option Bytes)) (text : Array Char) (all : Bool) :
    Nat → Nat → Option Nat → Nat → List Bytes → Bytes × Nat
  | 0, _, _, count, written => (written.reverse.flatten, count)
  | fuel + 1, place, ended, count, written =>
    let finish := fun (count : Nat) (from' : Nat) (written : List Bytes) =>
      (((text.extract from' text.size).toList :: written).reverse.flatten, count)
    match findFrom pattern text place with
    | none => finish count place written
    | some (low, high) =>
      let before := (text.extract place low).toList
      let match' := (text.extract low high).toList
      let put := parts.flatMap fun part => part.getD match'
      if high = low then
        let next := (text.extract low (low + 1)).toList
        let (count, written) := if ended = some low then (count, before :: written)
          else (count + 1, put :: before :: written)
        if text.size ≤ low then (written.reverse.flatten, count)
        else if !all && count ≠ 0 then finish count low written
        else replaced pattern parts text all fuel (low + 1) none count (next :: written)
      else
        let written := put :: before :: written
        if all then replaced pattern parts text all fuel high (some high) (count + 1) written
        else finish (count + 1) high written

def part (text : Bytes) (start : Int) (length : Option Int) : Bytes :=
  let (start, length) : Int × Option Int :=
    if start < 1 then (1, length.map (· - start)) else (start, length)
  let rest := text.drop (start.toNat - 1)
  match length with
  | some length => rest.take length.toNat
  | none => rest

def indexOf (inner : Bytes) : Nat → Bytes → Nat
  | _, [] => 0
  | place, c :: rest => if inner.isPrefixOf (c :: rest) then place else indexOf inner (place + 1) rest

def runtimeFlaw {α : Type} (text : Bytes) : Action α := do
  let file ← textOf "FILENAME"
  let format := "%.6g"
  let fnr := numberText format (← numberOf "FNR")
  let nr := numberText format (← numberOf "NR")
  lift (interject ((← lift get).name ++ ": run time error: " ++ text ++ "\n\tFILENAME=\"" ++
    file ++ "\" FNR=" ++ fnr ++ " NR=" ++ nr ++ ['\n']))
  lift (exit 2)

/-- The text that a format makes of values. Where they do not suffice, what was made so far is
given to `short`. -/
def formatted (short : Bytes → Action Unit) : Nat → Bytes → List Value → List Bytes → Action Bytes
  | 0, _, _, written => return written.reverse.flatten
  | _, [], _, written => return written.reverse.flatten
  | fuel + 1, '%' :: '%' :: rest, values, written => formatted short fuel rest values (['%'] :: written)
  | fuel + 1, '%' :: rest, values, written => do
    let stars := starsIn rest
    let sizes := (values.take stars).map fun value => truncated value.toNumber
    let (spec, used) := Spec.read sizes rest
    let values := values.drop used
    match values with
    | [] =>
      short written.reverse.flatten
      return []
    | value :: values =>
      let directive := spec.directive
      let cut := fun (text : Bytes) => match directive.precision with
        | some size => text.take size
        | none => text
      let text ← match directive.kind with
        | 'd' | 'i' => pure (directive.signed (truncated value.toNumber))
        | 'o' | 'x' | 'X' | 'u' =>
          pure (directive.unsigned (truncated value.toNumber % (Nat.pow 2 64 : Nat)).toNat)
        | 'e' | 'E' | 'f' | 'F' | 'g' | 'G' => pure (directive.real value.toNumber)
        | 'c' =>
          match value with
          | .number x => pure (directive.pad [Char.ofNat ((truncated x) % 256).toNat])
          | value => do
            let text ← asText value
            pure (directive.pad (text.take 1))
        | 's' => do pure (directive.pad (cut (← asText value)))
        | _ => runtimeFlaw "bad conversion in format"
      formatted short fuel spec.rest values (text :: written)
  | fuel + 1, c :: rest, values, written =>
    let plain := (c :: rest).takeWhile (· ≠ '%')
    formatted short fuel ((c :: rest).drop plain.length) values (plain :: written)

def format (name : String) (values : List Value) (short : Bytes → Action Unit) : Action Bytes := do
  match values with
  | [] => return []
  | first :: values =>
    let text ← asText first
    let lacking := fun (made : Bytes) => do
      short made
      runtimeFlaw (ofString ("not enough arguments passed to " ++ name ++ "(\"") ++ text ++ "\")")
    formatted lacking (text.length + 1) text values []

/-! ## Input -/

def openNext : Nat → Action (Option Feed)
  | 0 => return none
  | fuel + 1 => do
    let machine ← get
    let count := (truncated (← numberOf "ARGC")).toNat
    if count ≤ machine.operand then
      if machine.hadInput then return none
      set { machine with hadInput := true }
      return some { fd := 0 }
    set { machine with operand := machine.operand + 1 }
    let table ← tableAt (← tableOf "ARGV")
    match table.get? (Text.decimal machine.operand) with
    | none => openNext fuel
    | some value =>
      let word ← asText value
      if word.isEmpty then openNext fuel
      else match setting? word with
        | some (name, value) =>
          setVariable name (.input (unescaped (value.length + 1) value))
          openNext fuel
        | none =>
          modify fun machine => { machine with hadInput := true }
          setGlobal "FILENAME" (.input word)
          setGlobal "FNR" (.number 0.0)
          match ← lift (openInput word) with
          | .ok fd => return some { fd }
          | .error cause =>
            lift (abort ("cannot open \"" ++ word ++ "\" (" ++ causeText cause ++ ")") 2)
where
  unescaped : Nat → Bytes → Bytes
    | 0, _ => []
    | _, [] => []
    | fuel + 1, '\\' :: c :: rest =>
      match c with
      | 'n' => '\n' :: unescaped fuel rest
      | 't' => '\t' :: unescaped fuel rest
      | '\\' => '\\' :: unescaped fuel rest
      | '"' => '"' :: unescaped fuel rest
      | _ => '\\' :: c :: unescaped fuel rest
    | fuel + 1, c :: rest => c :: unescaped fuel rest

/-- Ends the tool if an input could not be read. What is to be written comes out after that is
said. -/
def mindFlaw (feed : Feed) : Action Unit := do
  if let some cause := feed.flaw then
    let bench ← lift (get : Work Bench)
    lift (interject (bench.name ++ ofString (": read error (" ++ cause.text ++ ")\n")))
    lift (exit 2)

def nextRecord : Nat → Action (Option Bytes)
  | 0 => return none
  | fuel + 1 => do
    let machine ← get
    if machine.isOver then return none
    match machine.input with
    | none =>
      match ← openNext 100000 with
      | some feed =>
        modify fun machine => { machine with input := some feed }
        nextRecord fuel
      | none =>
        modify fun machine => { machine with isOver := true }
        return none
    | some feed =>
      let ending ← endingOf (← textOf "RS")
      let (record, feed) ← lift (ending.take feed)
      mindFlaw feed
      match record with
      | some record =>
        modify fun machine => { machine with input := some feed }
        setGlobal "NR" (.number ((← numberOf "NR") + 1.0))
        setGlobal "FNR" (.number ((← numberOf "FNR") + 1.0))
        return some record
      | none =>
        lift (closeInput feed.fd)
        modify fun machine => { machine with input := none }
        nextRecord fuel

def recordFrom (command : Bool) (name : Bytes) : Action (Float × Bytes) := do
  let machine ← get
  let source : Option Source ← match machine.sources.find? (·.name = name) with
    | some source => pure (some source)
    | none => do
      if command then
        flushAll
        match ← lift (startWriting machine.exec name) with
        | some (fd, child) => pure (some { name, feed := { fd }, child := some child })
        | none => pure none
      else
        let path := if name = "/dev/stdin" then ['-'] else name
        match ← lift (openInput path) with
        | .ok fd => do pure (some { name, feed := { fd := ← if fd = 0 then pure 0 else lift (hide fd) } })
        | .error _ => pure none
  match source with
  | none => return (-1.0, [])
  | some source =>
    let ending ← endingOf (← textOf "RS")
    let (record, feed) ← lift (ending.take source.feed)
    mindFlaw feed
    modify fun machine => { machine with
      sources := { source with feed } :: machine.sources.filter (·.name ≠ name) }
    match record with
    | some record => return (1.0, record)
    | none => return (0.0, [])

/-! ## Expressions -/

section
variable (self : Self)

def evalText (expr : Expr) : Action Bytes := do asText (← self.eval expr)

def evalNumber (expr : Expr) : Action Float := return (← self.eval expr).toNumber

def indexKey (index : List Expr) : Action (Bytes × Option Int) := do
  match index with
  | [single] => return Table.keyOf (← textOf "CONVFMT") (← self.eval single)
  | several =>
    let texts ← several.mapM (evalText self)
    let between ← textOf "SUBSEP"
    match texts with
    | [] => return ([], none)
    | first :: rest => return (first ++ rest.flatMap (between ++ ·), none)

inductive Place where
  | variable (name : Bytes)
  | element (table : Nat) (key : Bytes × Option Int)
  | field (number : Nat)

def fieldIndex (expr : Expr) : Action Nat := do
  let number := truncated (← evalNumber self expr)
  if number < 0 then runtimeFlaw ("negative field index $" ++ Table.integerText number)
  return number.toNat

def placeOf (target : Expr) : Action Place := do
  match target with
  | .element array index =>
    let key ← indexKey self index
    return .element (← tableOf array) key
  | .field number => return .field (← fieldIndex self number)
  | .variable name => return .variable name
  | _ => return .field 0

def Place.value (place : Place) : Action Value := do
  match place with
  | .variable name => valueOf name
  | .element number key =>
    let table := (← tableAt number).touch key true
    setTable number table
    return (table.get? key.1).getD .none
  | .field number => fieldOf number

def Place.assign (place : Place) (value : Value) : Action Unit := do
  match place with
  | .variable name => setVariable name value
  | .element number key => setTable number ((← tableAt number).set key value)
  | .field number => setField number value

def evalPattern (pattern : Expr) : Action Posix := do
  match pattern with
  | .regex source => patternOf source
  | other => patternOf (← evalText self other)

def fitsText (pattern : Posix) (text : Bytes) : Bool := (findFrom pattern text.toArray 0).isSome

def substitute (all : Bool) (pattern with' target : Expr) : Action Value := do
  let pattern ← evalPattern self pattern
  let parts ← evalText self with'
  let place ← placeOf self target
  let text ← asText (← place.value)
  let (result, count) := replaced pattern (replacement (parts.length + 1) parts) text.toArray all
    (text.length + 2) 0 none 0 []
  if count ≠ 0 then place.assign (.text result)
  return .number (Float.ofNat count)

def splitInto (text : Bytes) (array : Bytes) (separator : Separator) : Action Value := do
  let parts := separator.split false text
  let number ← tableOf array
  let table := parts.zipIdx.foldl (fun (table : Table) (part, i) =>
    table.set (Text.decimal (i + 1), some (i + 1 : Int)) (.input part)) {}
  setTable number table
  return .number (Float.ofNat parts.length)

def callBuiltin (name : String) (arguments : List Expr) : Action Value := do
  let real := fun (f : Float → Float) => do
    match arguments with
    | x :: _ => return Value.number (f (← evalNumber self x))
    | [] => return .none
  match name, arguments with
  | "length", [] => return .number (Float.ofNat (← asText (← fieldOf 0)).length)
  | "length", [.variable name] =>
    match ← slotOf name with
    | .table number => return .number (Float.ofNat (← tableAt number).size)
    | .pending number => return .number (Float.ofNat (← tableAt number).size)
    | _ => return .number (Float.ofNat (← asText (← valueOf name)).length)
  | "length", x :: _ => return .number (Float.ofNat (← evalText self x).length)
  | "substr", text :: start :: rest =>
    let text ← evalText self text
    let start := truncated (← evalNumber self start)
    let length ← match rest with
      | [] => pure none
      | length :: _ => do pure (some (truncated (← evalNumber self length)))
    return .text (part text start length)
  | "index", [text, inner] =>
    let text ← evalText self text
    let inner ← evalText self inner
    return .number (Float.ofNat (indexOf inner 1 text))
  | "split", text :: .variable array :: rest =>
    let text ← evalText self text
    let separator ← match rest with
      | [] => separatorOf (← textOf "FS")
      | .regex source :: _ => do pure (.pattern (← patternOf source))
      | separator :: _ => separatorOf (← evalText self separator)
    splitInto text array separator
  | "sub", [pattern, with'] => substitute self false pattern with' (.field (.number 0.0))
  | "sub", [pattern, with', target] => substitute self false pattern with' target
  | "gsub", [pattern, with'] => substitute self true pattern with' (.field (.number 0.0))
  | "gsub", [pattern, with', target] => substitute self true pattern with' target
  | "match", [text, pattern] =>
    let text ← evalText self text
    let pattern ← evalPattern self pattern
    let (start, length) : Float × Float := match findFrom pattern text.toArray 0 with
      | some (low, high) => (Float.ofNat (low + 1), Float.ofNat (high - low))
      | none => (0.0, -1.0)
    setGlobal "RSTART" (.number start)
    setGlobal "RLENGTH" (.number length)
    return .number start
  | "sprintf", arguments =>
    let values ← arguments.mapM self.eval
    return .text (← format "sprintf" values fun _ => return)
  | "sin", _ => real Float.sin
  | "cos", _ => real Float.cos
  | "exp", _ => real Float.exp
  | "log", _ => real Float.log
  | "sqrt", _ => real Float.sqrt
  | "int", _ => real fun x => if x < 0.0 then Float.ceil x else Float.floor x
  | "atan2", [y, x] => return .number (Float.atan2 (← evalNumber self y) (← evalNumber self x))
  | "rand", _ =>
    let machine ← get
    let next := (machine.random * 1103515245 + 12345) % 2147483648
    set { machine with random := next }
    return .number (Float.ofNat next / 2147483648.0)
  | "srand", arguments =>
    let seed ← match arguments with
      | x :: _ => evalNumber self x
      | [] => do pure (Float.ofNat ((← lift look).now / 1000000))
    let machine ← get
    set { machine with seed, random := (truncated seed).natAbs + 1 }
    return .number machine.seed
  | "tolower", [x] => return .text ((← evalText self x).map Char.toLower)
  | "toupper", [x] => return .text ((← evalText self x).map Char.toUpper)
  | "system", [x] => return .number (Float.ofNat (← runCommand (← evalText self x)))
  | "close", [x] => return .number (← closeName (← evalText self x))
  | "fflush", _ =>
    flushAll
    return .number 0.0
  | "systime", _ => return .number (Float.ofNat ((← lift look).now / 1000000))
  | "strftime", arguments =>
    let text ← match arguments with
      | [] => pure (ofString "%c")
      | x :: _ => evalText self x
    let seconds ← match arguments with
      | _ :: x :: _ => do pure (truncated (← evalNumber self x)).toNat
      | _ => do pure ((← lift look).now / 1000000)
    return .text (Calendar.format (seconds * 1000000) (String.ofList text))
  | _, _ => return .number (-1.0)

def argumentSlot (argument : Expr) : Action Slot := do
  match argument with
  | .variable name =>
    match ← slotOf name with
    | .table number => return .table number
    | .pending number => return .pending number
    | .unset =>
      if name = ['N', 'F'] then return .scalar (← valueOf name)
      let number ← newTable {}
      setSlot name (.pending number)
      return .pending number
    | .scalar value => return .scalar value
  | other => return .scalar (← self.eval other)

def callFunction (name : Bytes) (arguments : List Expr) : Action Value := do
  match (← get).functions.find? (·.name = name) with
  | none => return .none
  | some function =>
    let slots ← arguments.mapM (argumentSlot self)
    let before := (← get).locals
    let given := function.parameters.zipIdx.map fun (parameter, i) => (parameter, (slots[i]?).getD .unset)
    modify fun machine => { machine with locals := given }
    let flow ← self.run function.body
    modify fun machine => { machine with locals := before }
    match flow with
    | .gives value => return value
    | _ => return .none

def readInto (command : Bool) (source target : Option Expr) : Action Value := do
  let (found, record) ← match source with
    | none => do
      match ← nextRecord 1000000 with
      | some record => pure (1.0, record)
      | none => pure (0.0, [])
    | some source => do recordFrom command (← evalText self source)
  if found == 1.0 then
    match target with
    | none => setRecord record
    | some target => (← placeOf self target).assign (.input record)
  return .number found

def evalStep (expr : Expr) : Action Value := do
  match expr with
  | .number value => return .number value
  | .text value => return .text value
  | .regex source =>
    let pattern ← patternOf source
    return .ofBool (fitsText pattern (← asText (← fieldOf 0)))
  | .variable name => valueOf name
  | .element .. => (← placeOf self expr).value
  | .field number => fieldOf (← fieldIndex self number)
  | .assign target value =>
    let place ← placeOf self target
    let value ← self.eval value
    place.assign value
    return value
  | .update operator target value =>
    let place ← placeOf self target
    let value ← self.eval value
    let result ← combine operator (← place.value) value
    place.assign result
    return result
  | .count target up first =>
    let place ← placeOf self target
    let before := (← place.value).toNumber
    let after := if up then before + 1.0 else before - 1.0
    place.assign (.number after)
    return .number (if first then after else before)
  | .calculate operator left right =>
    let a ← self.eval left
    let b ← self.eval right
    combine operator a b
  | .relate relation left right =>
    let a ← self.eval left
    let b ← self.eval right
    return .ofBool (relation.relates (← textOf "CONVFMT") a b)
  | .fits text pattern =>
    let text ← evalText self text
    let pattern ← evalPattern self pattern
    return .ofBool (fitsText pattern text)
  | .not inner => return .ofBool (!(← self.eval inner).isTrue)
  | .negate inner => return .number (-(← evalNumber self inner))
  | .plus inner => return .number (← evalNumber self inner)
  | .both left right =>
    if (← self.eval left).isTrue then return .ofBool (← self.eval right).isTrue else return .ofBool false
  | .either left right =>
    if (← self.eval left).isTrue then return .ofBool true else return .ofBool (← self.eval right).isTrue
  | .choose condition first second =>
    if (← self.eval condition).isTrue then self.eval first else self.eval second
  | .member index array =>
    let key ← indexKey self index
    let number ← tableOf array
    let table := (← tableAt number).touch key false
    setTable number table
    return .ofBool (table.get? key.1).isSome
  | .call name arguments => callFunction self name arguments
  | .builtin name arguments => callBuiltin self name arguments
  | .readRecord command source target => readInto self command source target
  | .grouped [single] => self.eval single
  | .grouped items => return .text (← indexKey self items).1

/-! ## Statements -/

def runAll : List Statement → Action Flow
  | [] => return .goes
  | statement :: rest => do
    match ← self.run statement with
    | .goes => runAll rest
    | flow => return flow

def turns (condition after : Option Expr) (body : Statement) : Nat → Bool → Action Flow
  | 0, _ => return .goes
  | fuel + 1, tests => do
    let goesOn ← match condition with
      | some condition => if tests then pure (← self.eval condition).isTrue else pure true
      | none => pure true
    if !goesOn then return .goes
    match ← self.run body with
    | .leaves => return .goes
    | .gives value => return .gives value
    | _ =>
      if let some after := after then
        let _ ← self.eval after
      turns condition after body fuel true

def eachKey (name : Bytes) (body : Statement) : List Bytes → Action Flow
  | [] => return .goes
  | key :: rest => do
    setVariable name (.text key)
    match ← self.run body with
    | .leaves => return .goes
    | .gives value => return .gives value
    | _ => eachKey name body rest

def outputText (value : Value) : Action Bytes := do
  match value with
  | .number _ => return value.toText (← textOf "OFMT")
  | value => asText value

def runStep (statement : Statement) : Action Flow := do
  match statement with
  | .evaluate expr =>
    let _ ← self.eval expr
    return .goes
  | .print items false target =>
    let texts ← if items.isEmpty then do pure [← asText (← fieldOf 0)]
      else items.mapM fun item => do outputText (← self.eval item)
    let target ← targetOf target
    let between ← textOf "OFS"
    let line := match texts with
      | [] => []
      | first :: rest => first ++ rest.flatMap (between ++ ·)
    write target (line ++ (← textOf "ORS"))
    return .goes
  | .print items true target =>
    let values ← items.mapM self.eval
    let target ← targetOf target
    write target (← format "printf" values (write target))
    return .goes
  | .when condition first second =>
    if (← self.eval condition).isTrue then self.run first
    else match second with
      | some second => self.run second
      | none => return .goes
  | .loop condition after body testsFirst => turns self condition after body Program.manySteps testsFirst
  | .each name array body =>
    let number ← tableOf array
    let (keys, table) := (← tableAt number).keys
    setTable number table
    eachKey self name body keys
  | .block statements => runAll self statements
  | .delete array none =>
    setTable (← tableOf array) {}
    return .goes
  | .delete array (some index) =>
    let key ← indexKey self index
    let number ← tableOf array
    let table := (← tableAt number).touch key false
    setTable number (if (table.get? key.1).isSome then table.erase key.1 else table)
    return .goes
  | .next => throw .next
  | .nextFile => throw .nextFile
  | .exit status =>
    if let some status := status then
      let code := truncated (← evalNumber self status)
      modify fun machine => { machine with status := (code % 256).toNat }
    throw .exit
  | .give value =>
    match value with
    | some value => return .gives (← self.eval value)
    | none => return .gives .none
  | .leave => return .leaves
  | .again => return .again
where
  targetOf (target : Option (Way × Expr)) : Action (Option (Way × Bytes)) := do
    match target with
    | none => return none
    | some (way, expr) => return some (way, ← evalText self expr)

end

mutual

def eval : Nat → Expr → Action Value
  | 0, _ => lift (abort "function call nesting too deep" 2)
  | depth + 1, expr => evalStep ⟨eval depth, run depth⟩ expr

def run : Nat → Statement → Action Flow
  | 0, _ => return .goes
  | depth + 1, statement => runStep ⟨eval depth, run depth⟩ statement

end

def depth : Nat := 1000000

end Retrace.Tool.Awk
