import Retrace.Host
import Retrace.LineMap

/-!
# Command-line arguments

Arguments are read from left to right and the first problem decides. An option's
value is checked when the next option or the end is reached, so an unknown
option behind a bad value is reported first. Conflicts and missing arguments are
looked for last, after the environment has filled in what was not given.
-/

namespace Retrace

inductive UsageError where
  | unknownArgument
  | invalidValue
  | tooManyValues
  | conflict
  | missingArgument
  /-- The help text was asked for. -/
  | help
  deriving DecidableEq, Repr

structure Arguments where
  /-- The generated sources; the first is the entry of the program. -/
  generated : List String := []
  /-- Arguments handed to the compiler. -/
  cxxArgs : List String := []
  output : Option String := none
  lineMaps : List String := []
  sources : List String := []
  compiler : Option String := none
  coreHeader : Option String := none
  debug : Bool := false
  verbose : Bool := false
  quiet : Bool := false
  dryRun : Bool := false
  policy : Option Policy := none
  deriving DecidableEq, Repr

structure Defaults where
  compiler : Option String := none
  coreHeader : Option String := none
  deriving DecidableEq, Repr

namespace Arguments

inductive Setting where
  | output
  | lineMap
  | source
  | compiler
  | coreHeader
  | remap
  deriving DecidableEq, Repr

inductive Toggle where
  | debug
  | verbose
  | quiet
  | dryRun
  | help
  deriving DecidableEq, Repr

inductive Named where
  | setting (setting : Setting)
  | toggle (toggle : Toggle)
  deriving DecidableEq, Repr

def long? (name : String) : Option Named :=
  [ ("output", .setting .output), ("line-map", .setting .lineMap), ("source", .setting .source),
    ("compiler", .setting .compiler), ("core-header", .setting .coreHeader),
    ("remap", .setting .remap), ("debug", .toggle .debug), ("verbose", .toggle .verbose),
    ("quiet", .toggle .quiet), ("dry-run", .toggle .dryRun), ("help", .toggle .help) ].lookup name

def short? (letter : Char) : Option Named :=
  [ ('o', .setting .output), ('m', .setting .lineMap), ('s', .setting .source),
    ('c', .setting .compiler), ('d', .toggle .debug), ('v', .toggle .verbose),
    ('q', .toggle .quiet), ('h', .toggle .help) ].lookup letter

inductive Pending where
  | setting (setting : Setting) (value : Option String)
  | generated (paths : List String)
  deriving DecidableEq, Repr

structure State where
  args : Arguments := {}
  pending : Option Pending := none
  deriving DecidableEq, Repr

def path (value : String) : Except UsageError String :=
  if value.isEmpty then .error .invalidValue else .ok value

def policy? (value : String) : Except UsageError Policy :=
  if value = "exact" then .ok .exact
  else if value = "nearest" then .ok .nearest
  else .error .invalidValue

def once (held : Option α) (value : Except UsageError α) : Except UsageError (Option α) :=
  if held.isSome then .error .conflict else value.map some

def set (args : Arguments) (setting : Setting) (value : String) : Except UsageError Arguments := do
  match setting with
  | .output => return { args with output := ← once args.output (path value) }
  | .lineMap => return { args with lineMaps := args.lineMaps ++ [← path value] }
  | .source => return { args with sources := args.sources ++ [← path value] }
  | .compiler => return { args with compiler := ← once args.compiler (.ok value) }
  | .coreHeader => return { args with coreHeader := ← once args.coreHeader (path value) }
  | .remap => return { args with policy := ← once args.policy (policy? value) }

def raise (held : Bool) : Except UsageError Bool := if held then .error .conflict else .ok true

def switch (args : Arguments) (toggle : Toggle) : Except UsageError Arguments := do
  match toggle with
  | .debug => return { args with debug := ← raise args.debug }
  | .verbose => return { args with verbose := ← raise args.verbose }
  | .quiet => return { args with quiet := ← raise args.quiet }
  | .dryRun => return { args with dryRun := ← raise args.dryRun }
  | .help => throw .help

namespace State

def settle (state : State) : Except UsageError State :=
  match state.pending with
  | none => .ok state
  | some (.setting _ none) => .error .invalidValue
  | some (.setting setting (some value)) => do
    return { args := ← state.args.set setting value }
  | some (.generated paths) => do
    let paths ← paths.mapM path
    return { args := { state.args with generated := state.args.generated ++ paths } }

def attached (state : State) (setting : Setting) (value : String) : Except UsageError State := do
  let state ← state.settle
  return { args := ← state.args.set setting value }

def await (state : State) (setting : Setting) : Except UsageError State := do
  return { ← state.settle with pending := some (.setting setting none) }

def toggled (state : State) (toggle : Toggle) : Except UsageError State := do
  let state ← state.settle
  return { args := ← state.args.switch toggle }

/-- An argument that is no option: the value waited for, or a generated source. -/
def plain (state : State) (argument : String) : Except UsageError State :=
  match state.pending with
  | some (.setting setting none) =>
    .ok { state with pending := some (.setting setting (some argument)) }
  | some (.generated paths) => .ok { state with pending := some (.generated (paths ++ [argument])) }
  | _ => do return { ← state.settle with pending := some (.generated [argument]) }

def long (state : State) (body : List Char) : Except UsageError State :=
  let (name, value) := match Text.cut '=' body with
    | some (name, value) => (name, some (String.ofList value))
    | none => (body, none)
  match long? (String.ofList name), value with
  | none, _ => .error .unknownArgument
  | some (.setting setting), some value => state.attached setting value
  | some (.setting setting), none => state.await setting
  | some (.toggle _), some _ => .error .tooManyValues
  | some (.toggle toggle), none => state.toggled toggle

/-- Letters behind one dash: switches, then perhaps an option with its value. -/
def letters (state : State) : List Char → Except UsageError State
  | [] => .ok state
  | letter :: rest =>
    match short? letter with
    | none => .error .unknownArgument
    | some (.toggle toggle) => do (← state.toggled toggle).letters rest
    | some (.setting setting) =>
      match rest with
      | [] => state.await setting
      | '=' :: value => state.attached setting (String.ofList value)
      | value => state.attached setting (String.ofList value)

def argument (state : State) (argument : String) : Except UsageError State :=
  match argument.toList with
  | '-' :: '-' :: body => state.long body
  | '-' :: letter :: rest => state.letters (letter :: rest)
  | _ => state.plain argument

end State

/-- Reads arguments up to a double dash; what follows it goes to the compiler. -/
def scan (state : State) : List String → Except UsageError Arguments
  | [] => do return (← state.settle).args
  | word :: rest =>
    if word = "--" then do return { (← state.settle).args with cxxArgs := rest }
    else do scan (← state.argument word) rest

def fill (args : Arguments) (defaults : Defaults) : Except UsageError Arguments := do
  let header ← match args.coreHeader, defaults.coreHeader with
    | none, some value => (path value).map some
    | held, _ => pure held
  return { args with
    compiler := args.compiler.or defaults.compiler
    coreHeader := header }

def validate (args : Arguments) : Except UsageError Arguments :=
  if args.quiet && args.verbose then .error .conflict
  else if args.generated.isEmpty then .error .missingArgument
  else .ok args

def parse (defaults : Defaults) (words : List String) : Except UsageError Arguments := do
  (← (← scan {} words).fill defaults).validate

end Arguments
end Retrace
