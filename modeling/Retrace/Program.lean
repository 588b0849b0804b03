import Retrace.Build.Compile
import Retrace.Config
import Retrace.Log.Filter
import Retrace.Text.Terminal

/-!
# The program

One run of the command line: arguments and environment to a configuration, its
units to jobs, the first job compiled with the others beside it, and what was
said on the way to the lines of the terminal.
-/

namespace Retrace.Program

structure Environment where
  defaults : Defaults := {}
  /-- What changes the log level of the switches. -/
  logSpec : Option String := none
  /-- Where the program itself is; empty if that is not known. -/
  program : String := ""
  deriving DecidableEq, Repr

def Environment.variables (environment : Environment) (tempDir : String) :
    List (String × String) :=
  ("TMPDIR", tempDir) :: [
    ("CXIR_CXX", environment.defaults.compiler),
    ("CXIR_CORE_HEADER", environment.defaults.coreHeader),
    ("RUST_LOG", environment.logSpec)].filterMap fun (name, value) => value.map (name, ·)

structure Outcome where
  code : Nat
  stdout : List String := []
  stderr : List String := []
  files : Files

def addUnits (build : Build σ) : List Order → Except Fault (List JobId) × Build σ
  | [] => (.ok [], build)
  | order :: rest =>
    match build.addUnit order with
    | (.error fault, build) => (.error fault, build)
    | (.ok id, build) =>
      match addUnits build rest with
      | (.ok ids, build) => (.ok (id :: ids), build)
      | (.error fault, build) => (.error fault, build)

def buildFirst (build : Build σ) (runner : Runner σ) (orders : List Order) :
    Except Fault Unit × Build σ :=
  match addUnits build orders with
  | (.error fault, build) => (.error fault, build)
  | (.ok [], build) => (.ok (), build)
  | (.ok (entry :: _), build) =>
    let (outcome, build) := build.compileJob runner entry
    ((outcome.bind Report.check).map fun _ => (), build.reset)

def verdict : Fault → String
  | .rejected errors => "build failed with " ++ toString errors ++ " error(s)"
  | fault => fault.message

/-- Runs a configuration; tells whether it succeeded. Jobs still held at the end go
after the verdict. -/
def runConfig (runner : Runner σ) (hand : σ) (config : Config) (installed : Option String)
    (work : Workspace) : Bool × Workspace :=
  match config.orders work.files runner.host with
  | .error fault => (false, work.say .error .program (verdict fault))
  | .ok orders =>
    let build : Build σ := {
      machine := { work, hand }
      options := config.options runner.host installed
      renderer := { colors := false } }
    match buildFirst build runner orders with
    | (.ok (), build) => (true, Job.discardAll build.roster.jobs build.machine.work)
    | (.error fault, build) =>
      let build := build.say .error .program (verdict fault)
      (false, Job.discardAll build.roster.jobs build.machine.work)

/-- What a terminal is sent for a line. A log record is sent without what a terminal would
take as an order, so an unclosed sequence in it takes its newline along. -/
def sent (filter : Filter) : Event → List Char
  | .record record =>
    if filter.admits record then Text.Terminal.plain (record.line.toList ++ ['\n']) else []
  | .shown text => text.toList ++ ['\n']

def terminalLines (filter : Filter) (warnings : List String) (events : List Event) :
    List String :=
  let sent := warnings.flatMap (fun text => text.toList ++ ['\n']) ++
    events.flatMap (sent filter)
  (Text.lines sent).map String.ofList

def usage : String :=
  "Usage: cxir-driver [OPTIONS] <GENERATED>... [-- <CXX_ARGS>...]"

def help : List String := [
  "Compile generated CX-IR sources with the host C++ toolchain",
  "",
  usage,
  "",
  "Arguments:",
  "  <GENERATED>...  Generated sources; the first one is the entry unit",
  "  [CXX_ARGS]...   Extra arguments for the compiler",
  "",
  "Options:",
  "  -o, --output <FILE>       Output binary",
  "  -m, --line-map <FILE>     JSON line map, one per generated source, in the same order",
  "  -s, --source <FILE>       Original source, one per generated source, in the same order",
  "  -c, --compiler <CXX>      C++ compiler to use instead of the host default",
  "      --core-header <FILE>  Core runtime header injected into every unit",
  "  -d, --debug               Build with debug information instead of optimizations",
  "  -v, --verbose             Enable verbose diagnostic output",
  "  -q, --quiet               Only report errors",
  "      --dry-run             Check syntax only, do not produce a binary",
  "      --remap <REMAP>       How generated lines without a line-map entry are resolved",
  "  -h, --help                Print help"]

def usageMessage : UsageError → String
  | .unknownArgument => "unexpected argument found"
  | .invalidValue => "invalid value for an argument"
  | .tooManyValues => "unexpected value for an argument found"
  | .conflict => "an argument cannot be used with another one"
  | .missingArgument => "the following required arguments were not provided: <GENERATED>..."
  | .help => "help"

/-- Runs a command line. A command line that cannot be read ends with 2, a build
that failed with 1. -/
def run (runner : Runner σ) (hand : σ) (environment : Environment) (words : List String)
    (work : Workspace) : Outcome :=
  match Arguments.parse environment.defaults words with
  | .error .help => { code := 0, stdout := help, files := work.files }
  | .error cause =>
    { code := 2, stderr := ["error: " ++ usageMessage cause, "", usage], files := work.files }
  | .ok args =>
    let (filter, warnings) :=
      Filter.ofSpec (Threshold.ofSwitches args.verbose args.quiet) (environment.logSpec.getD "")
    let (succeeded, work) :=
      match args.config with
      | .error mismatch => (false, work.say .error .program mismatch.message)
      | .ok config =>
        runConfig runner hand config (CoreHeader.installed? work.files environment.program) work
    { code := if succeeded then 0 else 1
      stderr := terminalLines filter warnings work.events
      files := work.files }

end Retrace.Program
