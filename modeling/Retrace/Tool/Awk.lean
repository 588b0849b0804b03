import Retrace.Tool.Awk.Evaluator
import Retrace.Tool.Awk.Reader
import Retrace.Tool.Digest
import Retrace.Tool.Paths

/-!
# Scripts over records

Runs a script over the records of files: first what is done before them, then the
rules for each, then what is done after them.
-/

namespace Retrace.Tool.Awk

open Unix

structure Request where
  separator : Option Bytes := none
  settings : List (Bytes × Bytes) := []
  files : List Bytes := []

def Request.read : Nat → Request → List Bytes → Except Bytes (Request × List Bytes)
  | 0, request, words => .ok (request, words)
  | _, request, [] => .ok (request, [])
  | fuel + 1, request, word :: rest =>
    let valued := fun (attached : Bytes) (use : Bytes → Except Bytes Request) =>
      match attached, rest with
      | [], value :: more => do Request.read fuel (← use value) more
      | [], [] => .error ("option lacks argument: " ++ word)
      | value, more => do Request.read fuel (← use value) more
    match word with
    | ['-', '-'] => .ok (request, rest)
    | '-' :: 'F' :: attached => valued attached fun value => .ok { request with separator := some value }
    | '-' :: 'f' :: attached => valued attached fun value => .ok { request with files := request.files ++ [value] }
    | '-' :: 'v' :: attached => valued attached fun value =>
        match setting? value with
        | some setting => .ok { request with settings := request.settings ++ [setting] }
        | none => .error ("improper assignment: -v " ++ value)
    | '-' :: 'W' :: attached => valued attached fun _ => .ok request
    | '-' :: '-' :: _ => .error ("not an option: " ++ word)
    | '-' :: _ :: _ => .error ("not an option: " ++ word)
    | _ => .ok (request, word :: rest)

def openingGlobals : List (String × Value) :=
  [("FS", .text [' ']), ("OFS", .text [' ']), ("ORS", .text ['\n']), ("RS", .text ['\n']),
    ("NR", .number 0.0), ("FNR", .number 0.0), ("SUBSEP", .text ['\x1c']), ("RSTART", .number 0.0),
    ("RLENGTH", .number (-1.0)), ("CONVFMT", .text "%.6g"), ("OFMT", .text "%.6g")]

def prepare (request : Request) (name : Bytes) (operands : List Bytes) (env : Environment) :
    Action Unit := do
  for (name, value) in openingGlobals do
    setGlobal name value
  let words := name :: operands
  let table := words.zipIdx.foldl (fun (table : Table) (word, i) =>
    table.set (Text.decimal i, some (i : Int)) (.input word)) {}
  setTable (← tableOf "ARGV") table
  setGlobal "ARGC" (.number (Float.ofNat words.length))
  let environment := env.foldl (fun (table : Table) (name, value) =>
    table.set (name, none) (.input value)) {}
  setTable (← tableOf "ENVIRON") environment
  if let some separator := request.separator then
    setGlobal "FS" (.text (unescaped (separator.length + 1) separator))
  for (name, value) in request.settings do
    setVariable name (.input (unescaped (value.length + 1) value))

def isMeant (rule : Rule) (number : Nat) : Action Bool := do
  match rule.pattern with
  | .always => return true
  | .one condition => return (← eval depth condition).isTrue
  | .range first last =>
    let open' := (← get).ranges.contains number
    if open' || (← eval depth first).isTrue then
      let ends := (← eval depth last).isTrue
      modify fun machine => { machine with
        ranges := (if ends then [] else [number]) ++ machine.ranges.filter (· ≠ number) }
      return true
    return false

def runRules : List (Rule × Nat) → Action Unit
  | [] => return
  | (rule, number) :: rest => do
    if ← isMeant rule number then
      let _ ← run depth rule.body
    runRules rest

def forRecord (work : Action Unit) : Action Unit :=
  tryCatch work fun jump => do
    modify fun machine => { machine with locals := [] }
    match jump with
    | .next => return
    | .nextFile =>
      if let some feed := (← get).input then lift (closeInput feed.fd)
      modify fun machine => { machine with input := none }
    | .exit => throw .exit

def eachRecord (rules : List (Rule × Nat)) : Nat → Action Unit
  | 0 => return
  | fuel + 1 => do
    match ← nextRecord 1000000 with
    | none => return
    | some record =>
      setRecord record
      forRecord (runRules rules)
      eachRecord rules fuel

def runBlocks : List Statement → Action Unit
  | [] => return
  | block :: rest => do
    let _ ← run depth block
    runBlocks rest

def Script.perform (script : Script) : Action Unit := do
  let first : Action Bool := do
    runBlocks script.begins
    if !script.rules.isEmpty || !script.ends.isEmpty then
      eachRecord script.rules.zipIdx Program.manySteps
    return true
  let untilExit := fun (work : Action Bool) => tryCatch work fun _ => do
    modify fun machine => { machine with locals := [] }
    return false
  let _ ← untilExit first
  let _ ← untilExit (do
    runBlocks script.ends
    return true)

/-- What could not be written is told of when that is noticed, and again in the end. -/
def closing : Closing :=
  { status := 2
    texts := fun cause early =>
      (if early then ["write failure (" ++ cause.text ++ ")"] else []) ++
        ["close failed on file \"/dev/stdout\" (" ++ cause.text ++ ")"] }

def tool (exec : Exec) : Tool := makeClosing closing fun words => do
  modify fun bench => { bench with name := Paths.base bench.name }
  match Request.read (words.length + 1) {} words with
  | .error message => abort message 2
  | .ok (request, operands) =>
    let (text, operands) : Bytes × List Bytes ← if request.files.isEmpty then
        match operands with
        | script :: operands => pure (script, operands)
        | [] => exit 0
      else do
        let texts ← request.files.mapM fun name => do
          match ← Digest.contentOf name with
          | .ok text => pure text
          | .error .isDirectory => abort "read error (Is a directory)" 2
          | .error cause =>
            abort ("cannot open \"" ++ name ++ "\" (" ++ causeText cause ++ ")") 2
        pure (joined '\n' texts, operands)
    match Script.ofText text with
    | .error flaw =>
      abort ("line " ++ Text.decimal flaw.line ++ ": " ++ flaw.message) 2
    | .ok script =>
      let bench ← get
      let whole : Action Unit := do
        prepare request bench.name operands bench.env
        script.perform
      let (_, machine) ← (whole.run).run { exec, functions := script.functions }
      closeSinks machine.sinks
      fail machine.status
      let view ← look
      if !(script.begins.isEmpty && script.rules.isEmpty && script.ends.isEmpty) then
        if (view.files.lookup 2).isNone then modify fun bench => { bench with status := 2 }
        if (view.files.lookup 1).isNone then
          flush
          modify fun bench => { bench with broken := some .badDescriptor }

end Retrace.Tool.Awk
