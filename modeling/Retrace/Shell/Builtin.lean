import Retrace.Shell.Builtin.Aliases
import Retrace.Shell.Builtin.Directory
import Retrace.Shell.Builtin.Parameters
import Retrace.Shell.Builtin.Processes
import Retrace.Shell.Condition
import Retrace.Shell.Printing

/-!
# The builtins by name

Those that need nothing but the session. The few that run other commands are found
where commands are run.
-/

/-! ## Builtins that write and decide -/

namespace Retrace.Shell.Builtin

open Unix Step

def echoing : Builtin := fun arguments => saying (echo arguments)

def complainAll : List Bytes → Step Unit
  | [] => return
  | text :: rest => do
    complain text
    complainAll rest

def printing : Builtin :=
  withLetters [] fun _ operands => do
    match operands with
    | [] => aborting "usage: printf format [arg ...]"
    | format :: arguments =>
      let printed := printf format arguments
      say printed.text
      complainAll printed.complaints.reverse
      match printed.flaw with
      | some message => aborting message
      | none => answer printed.complaints.isEmpty

def test : Builtin := fun words => do
  match Condition.holds (← look) words with
  | .ok holds => answer holds
  | .error flaw =>
    let flow ← aborting flaw.message
    setStatus 2
    return flow

def bracket : Builtin := fun words =>
  match words.getLast? with
  | some (']' :: _) => test words.dropLast
  | _ => do
    let flow ← aborting "missing ]"
    setStatus 2
    return flow

/-! ## All of them -/

def find? (name : Bytes) : Option Builtin :=
  match String.ofList name with
  | ":" => some fun _ => answer true
  | "true" => some fun _ => answer true
  | "false" => some fun _ => answer false
  | "echo" => some echoing
  | "printf" => some printing
  | "test" => some test
  | "[" => some bracket
  | "pwd" => some pwd
  | "cd" => some cd
  | "chdir" => some cd
  | "exit" => some exit
  | "return" => some leaveFunction
  | "break" => some (leaveLoops .leavesLoop)
  | "continue" => some (leaveLoops .nextRound)
  | "export" => some exporting
  | "readonly" => some protecting
  | "local" => some localize
  | "unset" => some unset
  | "set" => some setParams
  | "shift" => some shift
  | "getopts" => some getopts
  | "read" => some read
  | "kill" => some kill
  | "trap" => some trap
  | "wait" => some wait
  | "jobs" => some jobs
  | "fg" => some resume
  | "bg" => some resume
  | "umask" => some umask
  | "ulimit" => some ulimit
  | "times" => some times
  | "alias" => some aliasing
  | "unalias" => some unalias
  | _ => none

def takesSettings (name : Bytes) : Bool :=
  ["alias", "export", "local", "readonly"].contains (String.ofList name)

def isSpecialName (name : Bytes) : Bool := specialNames.contains (String.ofList name)

def isKnown (name : Bytes) : Bool :=
  (find? name).isSome ||
    [".", "command", "eval", "exec", "hash", "type"].contains (String.ofList name)

end Retrace.Shell.Builtin
