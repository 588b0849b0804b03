import Retrace.Command
import Retrace.Fault
import Retrace.Workspace

/-!
# Running commands

A runner starts commands, and may change files while it does. It keeps a state
of its own, so any behaviour of the outside world is a runner. Every call is
remembered with the files as they were when it was made.
-/

namespace Retrace

structure Completion where
  output : String
  code : Int
  deriving DecidableEq, Repr

def Completion.succeeded (completion : Completion) : Bool := completion.code = 0

/-- What came of starting a command: only a command that did not start is an error. -/
structure Reply where
  outcome : Except OsError Completion
  files : Files
  records : List Record := []

structure Runner (σ : Type) where
  host : Host
  start : Command → Files → σ → Reply × σ

structure Call where
  command : Command
  /-- The command as the runner's shell reads it. -/
  line : String
  /-- The files when the call was made. -/
  files : Files
  outcome : Except OsError Completion

structure Machine (σ : Type) where
  work : Workspace
  hand : σ
  calls : List Call := []

namespace Machine

def say (machine : Machine σ) (level : Level) (topic : Topic) (message : String) : Machine σ :=
  { machine with work := machine.work.say level topic message }

def run (machine : Machine σ) (runner : Runner σ) (command : Command) :
    Except Fault Completion × Machine σ :=
  let files := machine.work.files
  let (reply, hand) := runner.start command files machine.hand
  let line := command.render runner.host
  let work := { machine.work with files := reply.files }.sayAll reply.records
  let calls := machine.calls ++ [⟨command, line, files, reply.outcome⟩]
  (match reply.outcome with
    | .ok completion => .ok completion
    | .error cause => .error (.notStarted line cause),
    { work, hand, calls })

end Machine
end Retrace
