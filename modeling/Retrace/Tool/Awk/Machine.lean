import Retrace.Tool.Awk.Value
import Retrace.Tool.Grep
import Retrace.Tool.Spawn

/-!
# What a script works on

Variables and tables, the record with its fields, and the files and commands that
are read from and written to.
-/

namespace Retrace.Tool.Awk

open Unix Regex

inductive Slot where
  | unset
  | scalar (value : Value)
  | table (number : Nat)
  | pending (number : Nat)

structure Sink where
  name : Bytes
  fd : Nat
  child : Option Nat := none
  held : List Bytes := []
  size : Nat := 0

structure Source where
  name : Bytes
  feed : Feed
  child : Option Nat := none

structure Machine where
  exec : Exec
  functions : List Function := []
  globals : Std.HashMap Bytes Slot := {}
  locals : List (Bytes × Slot) := []
  tables : Std.HashMap Nat Table := {}
  fresh : Nat := 0
  record : Bytes := []
  fields : Array Value := #[]
  isSplit : Bool := true
  isStale : Bool := false
  operand : Nat := 1
  input : Option Feed := none
  (hadInput isOver : Bool := false)
  sinks : List Sink := []
  sources : List Source := []
  ranges : List Nat := []
  status : Nat := 0
  seed : Float := 0.0
  random : Nat := 1
  patterns : Std.HashMap Bytes Posix := {}

inductive Jump where
  | next
  | nextFile
  | exit
  deriving DecidableEq

abbrev Action := ExceptT Jump (StateT Machine Work)

def lift (work : Work α) : Action α := ExceptT.lift (StateT.lift work)

/-! ## Variables -/

variable (name : Bytes)

def slotOf : Action Slot := do
  let machine ← get
  match machine.locals.lookup name with
  | some slot => return slot
  | none => return machine.globals.getD name .unset

def setSlot (slot : Slot) : Action Unit :=
  modify fun machine =>
    if machine.locals.any (·.1 = name) then
      { machine with locals := machine.locals.map fun (other, old) =>
          (other, if other = name then slot else old) }
    else { machine with globals := machine.globals.insert name slot }

def plainValue : Action Value := do
  match ← slotOf name with
  | .scalar value => return value
  | _ => return .none

def textOf (name : String) : Action Bytes := do
  match (← get).globals.getD name.toList .unset with
  | .scalar value => return value.toText "%.6g"
  | _ => return []

def numberOf (name : String) : Action Float := do
  match (← get).globals.getD name.toList .unset with
  | .scalar value => return value.toNumber
  | _ => return 0.0

def setGlobal (name : String) (value : Value) : Action Unit :=
  modify fun machine => { machine with globals := machine.globals.insert name.toList (.scalar value) }

def asText (value : Value) : Action Bytes := do
  match value with
  | .number _ => return value.toText (← textOf "CONVFMT")
  | value => return value.toText []

def newTable (table : Table) : Action Nat := do
  let machine ← get
  set { machine with tables := machine.tables.insert machine.fresh table, fresh := machine.fresh + 1 }
  return machine.fresh

def tableOf : Action Nat := do
  match ← slotOf name with
  | .table number => return number
  | .pending number =>
    setSlot name (.table number)
    return number
  | _ =>
    let number ← newTable {}
    setSlot name (.table number)
    return number

def tableAt (number : Nat) : Action Table := return (← get).tables.getD number {}

def setTable (number : Nat) (table : Table) : Action Unit :=
  modify fun machine => { machine with tables := machine.tables.insert number table }

/-! ## Expressions in texts -/

/-- What stands between square brackets, with escapes carried out, so that those that would end it
or stand for a range come first and last. -/
def bracketText (text : Bytes) : Bytes × Bytes :=
  let (negated, text) : Bool × Bytes := match text with
    | '^' :: rest => (true, rest)
    | rest => (false, rest)
  let (closing, text) : Bool × Bytes := match text with
    | ']' :: rest => (true, rest)
    | rest => (false, rest)
  let rec go (fuel : Nat) (closing hyphen : Bool) (read : Bytes) (text : Bytes) :
      Option (Bool × Bool × Bytes × Bytes) :=
    match fuel, text with
    | 0, _ => none
    | _, [] => none
    | _, ']' :: rest => some (closing, hyphen, read.reverse, rest)
    | fuel + 1, '[' :: ':' :: rest =>
      let name := rest.takeWhile (· ≠ ':')
      match rest.drop name.length with
      | ':' :: ']' :: after => go fuel closing hyphen (("[:" ++ name ++ ":]").reverse ++ read) after
      | _ => go fuel closing hyphen ('[' :: read) (':' :: rest)
    | fuel + 1, '\\' :: rest =>
      match rest with
      | ']' :: after => go fuel true hyphen read after
      | '-' :: after => go fuel closing true read after
      | c :: after =>
        if ['/', '^', '[', '.', '*', '+', '?', '(', ')', '|', '$', '\x7b', '\x7d'].contains c then
          go fuel closing hyphen (c :: read) after
        else match escapeMeaning (c :: after) with
          | some (meant, after) => go fuel closing hyphen (meant :: read) after
          | none => go fuel closing hyphen (c :: '\\' :: read) after
      | [] => none
    | fuel + 1, c :: rest => go fuel closing hyphen (c :: read) rest
  match go (text.length + 1) closing false [] text with
  | none => (['\\', '['], text)
  | some (closing, hyphen, body, rest) =>
    let body := (if closing then [']'] else []) ++ body ++ (if hyphen then ['-'] else [])
    ('[' :: (if negated then ['^'] else []) ++ body ++ [']'], rest)
where
  escapeMeaning : Bytes → Option (Char × Bytes)
    | 'n' :: rest => some ('\n', rest)
    | 't' :: rest => some ('\t', rest)
    | 'r' :: rest => some ('\r', rest)
    | 'f' :: rest => some ('\x0c', rest)
    | 'v' :: rest => some ('\x0b', rest)
    | '\\' :: rest => some ('\\', rest)
    | '"' :: rest => some ('"', rest)
    | _ => none

def plainPattern : Nat → Bytes → Bytes
  | 0, text => text
  | _, [] => []
  | fuel + 1, '[' :: rest =>
    let (bracket, rest) := bracketText rest
    bracket ++ plainPattern fuel rest
  | fuel + 1, '\\' :: c :: rest =>
    match c with
    | 'n' => '\n' :: plainPattern fuel rest
    | 't' => '\t' :: plainPattern fuel rest
    | 'r' => '\r' :: plainPattern fuel rest
    | 'f' => '\x0c' :: plainPattern fuel rest
    | 'v' => '\x0b' :: plainPattern fuel rest
    | _ =>
      if c.isAlphanum || c = '"' || c = '/' || c = '<' || c = '>' || c = '\'' || c = '\x60' then
        c :: plainPattern fuel rest
      else '\\' :: c :: plainPattern fuel rest
  | fuel + 1, c :: rest => c :: plainPattern fuel rest

def patternOf (source : Bytes) : Action Posix := do
  match (← get).patterns[source]? with
  | some pattern => return pattern
  | none =>
    match Posix.read { extended := true, lenient := true } (plainPattern (source.length + 1) source) with
    | .ok (pattern, _) =>
      modify fun machine => { machine with patterns := machine.patterns.insert source pattern }
      return pattern
    | .error flaw =>
      lift (abort ("line 1: regular expression compile failed (" ++ ofString flaw.text ++
        ")\n" ++ source) 2)

def findFrom (pattern : Posix) (text : Array Char) (start : Nat) : Option (Nat × Nat) :=
  Grep.first? {} [pattern] text start

/-! ## Fields -/

inductive Separator where
  | blanks
  | none
  | mark (c : Char)
  | pattern (expression : Posix)

def separatorOf (text : Bytes) : Action Separator := do
  match text with
  | [' '] => return .blanks
  | [] => return .none
  | [c] => return .mark c
  | _ => return .pattern (← patternOf text)

def splitAt (pattern : Posix) (text : Array Char) : Nat → Nat → Nat → List Bytes
  | 0, start, _ => [(text.extract start text.size).toList]
  | fuel + 1, start, place =>
    match findFrom pattern text place with
    | none => [(text.extract start text.size).toList]
    | some (low, high) =>
      if high = low then
        if text.size ≤ low then [(text.extract start text.size).toList]
        else splitAt pattern text fuel start (low + 1)
      else (text.extract start low).toList :: splitAt pattern text fuel high high

def Separator.split (separator : Separator) (lines : Bool) (text : Bytes) : List Bytes :=
  if text.isEmpty then []
  else match separator with
    | .blanks => (cutAt ' ' (text.map fun c => if c = '\t' || c = '\n' then ' ' else c)).filter (!·.isEmpty)
    | .none => text.map fun c => [c]
    | .mark c => if lines then (cutAt '\n' text).flatMap (cutAt c) else cutAt c text
    | .pattern expression =>
      let parts := if lines then cutAt '\n' text else [text]
      parts.flatMap fun part => splitAt expression part.toArray (part.length + 1) 0 0

def splitRecord : Action Unit := do
  let machine ← get
  if !machine.isSplit then
    let separator ← separatorOf (← textOf "FS")
    let lines := (← textOf "RS").isEmpty
    let fields := (separator.split lines machine.record).map Value.input
    modify fun machine => { machine with fields := fields.toArray, isSplit := true }

def joinRecord : Action Unit := do
  let machine ← get
  if machine.isStale then
    let between ← textOf "OFS"
    let format ← textOf "CONVFMT"
    let texts := machine.fields.toList.map (·.toText format)
    let record := match texts with
      | [] => []
      | first :: rest => first ++ rest.flatMap (between ++ ·)
    modify fun machine => { machine with record, isStale := false }

def setRecord (text : Bytes) : Action Unit :=
  modify fun machine => { machine with record := text, isSplit := false, isStale := false, fields := #[] }

def fieldOf (number : Nat) : Action Value := do
  if number = 0 then
    joinRecord
    return .input (← get).record
  splitRecord
  return ((← get).fields[number - 1]?).getD (.input [])

def resizeFields (count : Nat) : Action Unit := do
  splitRecord
  modify fun machine =>
    let fields := machine.fields.extract 0 count
    { machine with
      fields := fields ++ Array.replicate (count - fields.size) (.text [])
      isStale := true }

def setField (number : Nat) (value : Value) : Action Unit := do
  if number = 0 then setRecord (← asText value)
  else
    splitRecord
    if (← get).fields.size < number then resizeFields number
    modify fun machine => { machine with fields := machine.fields.setIfInBounds (number - 1) value, isStale := true }

def valueOf : Action Value := do
  if name = ['N', 'F'] then
    splitRecord
    return .number (Float.ofNat (← get).fields.size)
  plainValue name

def setVariable (value : Value) : Action Unit := do
  if name = ['N', 'F'] then resizeFields (truncated value.toNumber).toNat
  else setSlot name (.scalar value)

/-! ## Records -/

inductive Ending where
  | mark (c : Char)
  | blank
  | pattern (expression : Posix)

def endingOf (text : Bytes) : Action Ending := do
  match text with
  | [] => return .blank
  | [c] => return .mark c
  | _ => return .pattern (← patternOf text)

def upToBlank : Bytes → Bytes × Bytes
  | [] => ([], [])
  | '\n' :: '\n' :: rest => ([], rest.dropWhile (· = '\n'))
  | c :: rest =>
    let (record, after) := upToBlank rest
    (c :: record, after)

def Ending.take (ending : Ending) (feed : Feed) : Work (Option Bytes × Feed) := do
  match ending with
  | .mark c =>
    let (line, feed) ← feed.line c
    return (line.map (unended c), feed)
  | .blank =>
    let (text, feed) ← feed.all
    let text := text.dropWhile (· = '\n')
    if text.isEmpty then return (none, feed)
    let (record, rest) := upToBlank text
    let record := if rest.isEmpty then unended '\n' record else record
    return (some record, { feed with rest })
  | .pattern expression =>
    let (text, feed) ← feed.all
    if text.isEmpty then return (none, feed)
    let all := text.toArray
    match findFrom expression all 0 with
    | none => return (some text, { feed with rest := [] })
    | some (low, high) =>
      if high = low then return (some text, { feed with rest := [] })
      return (some (text.take low), { feed with rest := text.drop high })

def setting? (word : Bytes) : Option (Bytes × Bytes) :=
  let name := word.takeWhile isName
  match word.drop name.length, name with
  | '=' :: value, c :: _ => if c.isDigit then none else some (name, value)
  | _, _ => none
where
  isName (c : Char) : Bool := c.isAlphanum || c = '_'

/-! ## Output -/

def Sink.drain (sink : Sink) : Work Sink := do
  if sink.size ≠ 0 then perform (Program.say sink.fd sink.held.reverse.flatten)
  return { sink with held := [], size := 0 }

def flushSinks : Action Unit := do
  let sinks ← lift ((← get).sinks.mapM Sink.drain)
  modify fun machine => { machine with sinks }

def flushAll : Action Unit := do
  lift flush
  flushSinks

def commandWords (command : Bytes) : List Bytes :=
  ["/bin/sh", ['-', 'c'], command]

def hide (fd : Nat) : Work Nat := do
  match ← ask (.save fd 10) with
  | .ok kept =>
    close fd
    return kept
  | .error _ => return fd

def startWriting (exec : Exec) (command : Bytes) : Work (Option (Nat × Nat)) := do
  let (reading, writing) ← ask .pipe
  let env := (← get).env
  let ready : Program Unit := do
    let _ ← Program.ask (.copy writing 1)
    Program.close writing
    Program.close reading
  let started ← spawn exec (commandWords command) env ready
  close writing
  match started with
  | .ok child => return some (← hide reading, child)
  | .error _ =>
    close reading
    return none

def startReading (exec : Exec) (command : Bytes) : Work (Option (Nat × Nat)) := do
  let (reading, writing) ← ask .pipe
  let env := (← get).env
  let ready : Program Unit := do
    let _ ← Program.ask (.copy reading 0)
    Program.close reading
    Program.close writing
  let started ← spawn exec (commandWords command) env ready
  close reading
  match started with
  | .ok child => return some (← hide writing, child)
  | .error _ =>
    close writing
    return none

def waitStatus (child : Nat) : Work Nat := do
  match ← await child with
  | .exited code => return code
  | .killed signal => return 256 + signal

def runCommand (command : Bytes) : Action Nat := do
  flushAll
  let exec := (← get).exec
  lift do
    match ← spawn exec (commandWords command) (← get).env (return) with
    | .ok child => waitStatus child
    | .error _ => return 127

def sinkOf (way : Way) (name : Bytes) : Action Sink := do
  match (← get).sinks.find? (·.name = name) with
  | some sink => return sink
  | none =>
    let exec := (← get).exec
    let sink : Sink ← match way with
      | .into => do
        flushAll
        match ← lift (startReading exec name) with
        | some (fd, child) => pure { name, fd, child := some child }
        | none => pure { name, fd := 2 }
      | way => do
        match ← lift (ask (.openFile name (if way = .anew then .output else .append) 438)) with
        | .ok fd => pure { name, fd := ← lift (hide fd) }
        | .error cause =>
          lift (abort ("cannot open \"" ++ name ++ "\" for output (" ++ causeText cause ++
            ")") 2)
    modify fun machine => { machine with sinks := machine.sinks ++ [sink] }
    return sink

def write (target : Option (Way × Bytes)) (text : Bytes) : Action Unit := do
  match target with
  | none => lift (out text)
  | some (way, name) =>
    if way ≠ .into && (name = "/dev/stdout" || name = ['-']) then lift (out text)
    else if way ≠ .into && name = "/dev/stderr" then lift (interject text)
    else
      let sink ← sinkOf way name
      let sink := { sink with held := text :: sink.held, size := sink.size + text.length }
      let sink ← if 4096 ≤ sink.size then lift sink.drain else pure sink
      modify fun machine => { machine with sinks := machine.sinks.map fun other =>
        if other.name = name then sink else other }

def closeName : Action Float := do
  let machine ← get
  let closed : Option Float ← match machine.sinks.find? (·.name = name) with
    | some sink => do
      if sink.child.isSome then lift flush
      let status ← lift do
        let _ ← sink.drain
        close sink.fd
        match sink.child with
        | some child => waitStatus child
        | none => return 0
      pure (some (Float.ofNat status))
    | none => pure none
  let shut : Option Float ← match machine.sources.find? (·.name = name) with
    | some source => do
      let status ← lift do
        close source.feed.fd
        match source.child with
        | some child => waitStatus child
        | none => return 0
      pure (some (Float.ofNat status))
    | none => pure none
  modify fun machine => { machine with
    sinks := machine.sinks.filter (·.name ≠ name)
    sources := machine.sources.filter (·.name ≠ name) }
  return (closed.or shut).getD (-1.0)

def closeSinks : List Sink → Work Unit
  | [] => return
  | sink :: rest => do
    let _ ← sink.drain
    close sink.fd
    if let some child := sink.child then
      let _ ← await child
    closeSinks rest

end Retrace.Tool.Awk
