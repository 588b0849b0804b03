import Retrace.Command.Assembly
import Retrace.Diagnostic.Attribution
import Retrace.Diagnostic.Render
import Retrace.Execution
import Retrace.Roster

/-!
# Builds

The state of a build: its options, the roster of its jobs, the diagnostics so
far and the machine it runs on. The stages of a compile are logged as they are
entered, and a report says how it ended.
-/

namespace Retrace

structure Options where
  /-- None leaves the choice of a compiler to the host. -/
  compiler : Option String := none
  coreHeader : String
  /-- Checks the program without making a binary. -/
  dryRun : Bool := false
  policy : Policy := .exact
  host : Host := .posix
  deriving DecidableEq, Repr

inductive Stage where
  | detect
  | assemble
  | execute
  | parse
  | remap
  | report
  | cleanup
  deriving DecidableEq, Repr

def Stage.name : Stage → String
  | .detect => "detect"
  | .assemble => "assemble"
  | .execute => "execute"
  | .parse => "parse"
  | .remap => "remap"
  | .report => "report"
  | .cleanup => "cleanup"

structure Report where
  succeeded : Bool
  family : Family
  exitCode : Int
  errors : Nat
  output : String
  rawOutput : String
  deriving DecidableEq, Repr

def Report.check (report : Report) : Except Fault Report :=
  if report.succeeded then .ok report else .error (.rejected report.errors)

structure Build (σ : Type) where
  machine : Machine σ
  options : Options
  roster : Roster := {}
  diagnostics : List Diagnostic := []
  renderer : Renderer := {}
  /-- The stage reached last. -/
  stage : Stage := .detect

namespace Build

def files (build : Build σ) : Files := build.machine.work.files

def hasErrored (build : Build σ) : Bool := Diagnostic.anyError build.diagnostics

def say (build : Build σ) (level : Level) (topic : Topic) (message : String) : Build σ :=
  { build with machine := build.machine.say level topic message }

def debug (build : Build σ) (message : String) : Build σ := build.say .debug .build message

def enter (build : Build σ) (stage : Stage) : Build σ :=
  { build.debug ("phase: " ++ stage.name) with stage }

def withWork (build : Build σ) (work : Workspace) : Build σ :=
  { build with machine := { build.machine with work } }

def run (build : Build σ) (runner : Runner σ) (command : Command) :
    Except Fault Completion × Build σ :=
  let (outcome, machine) := build.machine.run runner command
  (outcome, { build with machine })

def addUnit (build : Build σ) (order : Order) : Except Fault JobId × Build σ :=
  let (made, roster, work) := build.roster.create order build.machine.work
  (made, { build with roster }.withWork work)

/-- Forgets the jobs and diagnostics; sources still on disk are removed. -/
def reset (build : Build σ) : Build σ :=
  let (roster, work) := build.roster.clear build.machine.work
  { build with roster, diagnostics := [] }.withWork work

end Build
end Retrace
