import Retrace.Shell.Builtin.Full.Names

/-!
# The builtins of the richer shell by name

Those that need nothing but the session. The few that run other commands are found
where commands are run.
-/

namespace Retrace.Shell.Builtin.Full

open Step

def declaring? (name : Bytes) : Option (List Argument → Step Flow) :=
  match String.ofList name with
  | "declare" => some declare
  | "typeset" => some declare
  | "local" => some localize
  | "export" => some exporting
  | "readonly" => some protecting
  | _ => none

def find? (name : Bytes) : Option Builtin :=
  match String.ofList name with
  | ":" => some fun _ => answer true
  | "true" => some fun _ => answer true
  | "false" => some fun _ => answer false
  | "echo" => some echo
  | "printf" => some printf
  | "test" => some test
  | "[" => some bracket
  | "pwd" => some pwd
  | "cd" => some cd
  | "dirs" => some dirs
  | "pushd" => some pushd
  | "popd" => some popd
  | "exit" => some exit
  | "logout" => some fun _ => failed (Unix.ofString "not login shell: use \x60exit'")
  | "return" => some leaveFunction
  | "break" => some (leaveLoops .leavesLoop)
  | "continue" => some (leaveLoops .nextRound)
  | "set" => some setParams
  | "shopt" => some shopt
  | "shift" => some shift
  | "getopts" => some getopts
  | "let" => some letting
  | "read" => some read
  | "mapfile" => some mapfile
  | "readarray" => some mapfile
  | "kill" => some kill
  | "trap" => some trap
  | "wait" => some wait
  | "jobs" => some jobs
  | "fg" => some noControl
  | "bg" => some noControl
  | "suspend" => some fun _ => failed (Unix.ofString "cannot suspend: no job control")
  | "disown" => some fun words => match words with
    | [] => failed (Unix.ofString "current: no such job")
    | _ => answer true
  | "umask" => some umask
  | "ulimit" => some ulimit
  | "times" => some times
  | "alias" => some aliasing
  | "unalias" => some unalias
  | "type" => some describing
  | "command" => some commandWord
  | "builtin" => some builtinWord
  | "hash" => some hashing
  | "caller" => some caller
  | name => if builtinNames.contains name then some fun _ => answer true else none

end Retrace.Shell.Builtin.Full
