import Retrace.Build
import Retrace.Toolchain.VisualStudio

/-!
# Compiling

One compile is one invocation of a toolchain for the whole program. A toolchain
is chosen, the command assembled and run, and the findings in its output are
attributed, shown and kept. The primary job's source is removed at the end,
whichever way it went.
-/

namespace Retrace

structure Toolchain where
  family : Family
  compiler : String
  /-- The batch script to run first, for the native Windows compiler. -/
  script : Option String := none
  deriving DecidableEq, Repr

/-- The driver of POSIX hosts, and the one a Windows host falls back to. -/
def Toolchain.generic : String := "c++"

namespace Build

/-! ## Choosing a toolchain -/

def probe (compiler : String) : Command :=
  { program := compiler, args := ["--version"], merged := true }

def notFound (compiler : String) (code : Int) : Fault :=
  .toolchainNotFound (if compiler.isEmpty then "<unspecified>" else compiler)
    ("`" ++ compiler ++ " --version` exited with " ++ toString code)

def detect (build : Build σ) (runner : Runner σ) (compiler : String) :
    Except Fault Toolchain × Build σ :=
  match build.run runner (probe compiler) with
  | (.error fault, build) => (.error fault, build)
  | (.ok completion, build) =>
    if !completion.succeeded then (.error (notFound compiler completion.code), build)
    else
      let family := Family.ofBanner completion.output
      (.ok { family, compiler },
        build.debug ("detected " ++ family.name ++ " toolchain for " ++ compiler))

/-- The compiler asked for: the job's own, else that of the options; empty if neither. -/
def wanted (build : Build σ) (job : Job) : String :=
  if job.order.compiler.isEmpty then build.options.compiler.getD "" else job.order.compiler

/-! ## One invocation -/

def lowering (job : Job) : Lowering := ⟨job.generated, job.order.source, job.order.map⟩

/-- The primary job comes first, then the roster. -/
def scope (build : Build σ) (job : Job) : Scope := {
  coreHeader := build.options.coreHeader
  policy := build.options.policy
  units := lowering job :: build.roster.jobs.map lowering }

def assembly (build : Build σ) (job : Job) (toolchain : Toolchain) : Assembly := {
  family := toolchain.family
  compiler := toolchain.compiler
  coreHeader := build.options.coreHeader
  switches := job.order.switches
  dryRun := build.options.dryRun
  host := build.options.host
  output := job.order.output
  others := build.roster.jobs.map (·.generated)
  extraArgs := job.order.extraArgs
  source := job.generated
  script := toolchain.script }

def outputRecords (level : Level) (output : String) : List Record :=
  (Text.lines output.toList).map fun line => ⟨level, .output, String.ofList line⟩

def rawRecords (output : String) : List Record :=
  ⟨.error, .output, "unknown C++ compiler, raw output shown"⟩ ::
    ⟨.info, .output, "output ------------>"⟩ ::
    outputRecords .info output ++ [⟨.info, .output, "<------------ output"⟩]

def unexplainedRecords (completion : Completion) : List Record :=
  ⟨.error, .output, "compiler exited with " ++ toString completion.code ++
      " without reporting an error"⟩ ::
    outputRecords .error completion.output

def sayAll (build : Build σ) (records : List Record) : Build σ :=
  build.withWork (build.machine.work.sayAll records)

def finish (build : Build σ) (job : Job) (family : Family) (succeeded : Bool)
    (completion : Completion) : Report × Build σ :=
  let report : Report := {
    succeeded, family
    exitCode := completion.code
    errors := Diagnostic.errorCount build.diagnostics
    output := job.order.output
    rawOutput := completion.output }
  let build := if !succeeded then build
    else
      let build := build.say .info .build ("lowered " ++ job.order.source ++ " and compiled cxir")
      if build.options.dryRun then build.say .info .build "syntax check passed"
      else build.say .info .build ("compiled successfully to " ++ job.order.output)
  (report, build)

/-- Shows output as it is. The exit code alone decides. -/
def concludeRaw (build : Build σ) (job : Job) (family : Family) (completion : Completion) :
    Report × Build σ :=
  let build := (build.enter .report).sayAll (rawRecords completion.output)
  build.finish job family completion.succeeded completion

def report (build : Build σ) (diagnostics : List Diagnostic) : Build σ :=
  let (texts, renderer) := build.renderer.renderAll build.files diagnostics
  let build := build.withWork (build.machine.work.showAll texts)
  { build with renderer, diagnostics := build.diagnostics ++ diagnostics }

/-- Reads, attributes and reports the findings of an output. The exit code and all
diagnostics of the build decide together. -/
def conclude (build : Build σ) (job : Job) (family : Family) (style : LineStyle)
    (completion : Completion) : Report × Build σ :=
  let build := build.enter .parse
  let findings := style.parseOutput completion.output
  let build := build.debug (toString findings.length ++ " diagnostic(s) parsed")
  let build := build.enter .remap
  let scope := build.scope job
  let diagnostics := scope.diagnostics build.files findings
  let build := build.sayAll (scope.omissions build.files findings)
  let build := (build.enter .report).report diagnostics
  let succeeded := completion.succeeded && !build.hasErrored
  let build := if !completion.succeeded && !build.hasErrored then
      build.sayAll (unexplainedRecords completion)
    else build
  build.finish job family succeeded completion

def invoke (build : Build σ) (runner : Runner σ) (job : Job) (toolchain : Toolchain) :
    Except Fault Report × Build σ :=
  let build := build.enter .assemble
  match (build.assembly job toolchain).command with
  | .error fault => (.error fault, build)
  | .ok command =>
    let build := (build.enter .execute).debug ("compile command: " ++ command.render runner.host)
    match build.run runner command with
    | (.error fault, build) => (.error fault, build)
    | (.ok completion, build) =>
      let build := build.debug ("compiler output:\n" ++ completion.output)
      let (report, build) := match toolchain.family.lineStyle with
        | none => build.concludeRaw job toolchain.family completion
        | some style => build.conclude job toolchain.family style completion
      (.ok report, build)

/-! ## Object files of the native compiler -/

def objectPaths (job : Job) : List String :=
  match Path.fileName? job.generated with
  | none => []
  | some name =>
    let dirs := job.order.workingDir ::
      ((Path.parent? job.order.output).filter (!·.isEmpty)).toList
    dirs.map fun dir => Path.join dir (Path.withExtension name "obj")

def removeObject (work : Workspace) (path : String) : Workspace :=
  if !work.files.pathExists path then work
  else match work.files.remove path with
    | .ok files => { work with files }.say .info .build ("deleted object file " ++ path)
    | .error cause =>
      work.say .warn .build ("failed to delete object file " ++ path ++ ": " ++ cause.message)

def removeObjects (build : Build σ) (job : Job) : Build σ :=
  build.withWork ((objectPaths job).foldl removeObject build.machine.work)

/-! ## One compile -/

def compileWith (build : Build σ) (runner : Runner σ) (job : Job) (compiler : String) :
    Except Fault Report × Build σ :=
  match build.detect runner compiler with
  | (.error fault, build) => (.error fault, build)
  | (.ok toolchain, build) => build.invoke runner job toolchain

def compileGeneric (build : Build σ) (runner : Runner σ) (job : Job) :
    Except Fault Report × Build σ :=
  (build.enter .detect).compileWith runner job Toolchain.generic

/-- Looks for the native compiler first. Once it was found there is no falling back. -/
def compileWindows (build : Build σ) (runner : Runner σ) (job : Job) :
    Except Fault Report × Build σ :=
  let (found, machine) := VisualStudio.locate build.machine runner
  let build := { build with machine }
  match found with
  | .ok script =>
    let native : Toolchain := ⟨.msvc, VisualStudio.compiler, some script⟩
    let (report, build) := build.invoke runner job native
    (report, build.removeObjects job)
  | .error (.toolchainNotFound _ reason) =>
    let build := build.say .warn .build
      ("native toolchain unavailable (" ++ reason ++ "), falling back to " ++ Toolchain.generic)
    build.compileGeneric runner job
  | .error fault => (.error fault, build)

def attempt (build : Build σ) (runner : Runner σ) (job : Job) : Except Fault Report × Build σ :=
  let build := build.enter .detect
  let compiler := build.wanted job
  if !build.files.isFile build.options.coreHeader then
    (.error (.missingRuntime build.options.coreHeader), build)
  else if !compiler.isEmpty then build.compileWith runner job compiler
  else if build.options.host.isWindows then build.compileWindows runner job
  else build.compileGeneric runner job

def compile (build : Build σ) (runner : Runner σ) (job : Job) : Except Fault Report × Build σ :=
  let (outcome, build) := build.attempt runner job
  let build := match outcome with
    | .ok _ => build
    | .error fault => build.debug (build.stage.name ++ " failed: " ++ fault.message)
  let build := build.enter .cleanup
  (outcome, build.withWork (job.discard build.machine.work))

def compileJob (build : Build σ) (runner : Runner σ) (id : JobId) :
    Except Fault Report × Build σ :=
  match build.roster.take id with
  | none => (.error (.unknownJob id), build)
  | some (job, roster) => { build with roster }.compile runner job

end Build
end Retrace
