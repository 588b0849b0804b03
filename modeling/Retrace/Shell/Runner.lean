import Retrace.Execution
import Retrace.Tool.Table
import Retrace.Unix.Kernel.Run

/-!
# The shell as a runner

Runs commands the way a host does: by handing the rendered line to its shell.
There is a shell for POSIX hosts only. The command has nothing to read. What it
wrote to each of its two outputs is read as text by itself.
-/

namespace Retrace.Shell

open Unix

def openingPath : Bytes :=
  "/usr/local/sbin:/usr/local/bin:/usr/sbin:/usr/bin:/sbin:/bin".toList

def openingEnvironment (given : List (String × String)) : Environment :=
  ("PATH".toList, openingPath) :: given.map fun (name, value) => (ofString name, ofString value)

def codeOf : Ending → Int
  | .exited code => code
  | .killed _ => -1

def runLine (line : String) (environment : Environment) (files : Files) : Completion × Files :=
  let words := ["sh".toList, "-c".toList, ofString line]
  let after := boot files (Program.process (shell .dash Tool.exec words environment))
  (⟨toText after.output ++ toText after.errors, codeOf after.ending⟩, after.files)

def start (host : Host) (environment : Environment) (command : Command) (files : Files) (_ : Unit) :
    Reply × Unit :=
  let line := command.render host
  let records : List Record := [⟨.debug, .execution, "exec: " ++ line⟩]
  if line.toList.contains '\x00' then ({ outcome := .error .nulInArgument, files, records }, ())
  else match host with
    | .windows => ({ outcome := .error .notFound, files, records }, ())
    | .posix =>
      let (completion, files) := runLine line environment files
      ({ outcome := .ok completion, files, records }, ())

def runner (host : Host) (given : List (String × String)) : Runner Unit :=
  ⟨host, start host (openingEnvironment given)⟩

end Retrace.Shell
