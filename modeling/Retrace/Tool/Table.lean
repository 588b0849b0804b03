import Retrace.Shell.Start
import Retrace.Tool.Awk
import Retrace.Tool.Batch
import Retrace.Tool.Cat
import Retrace.Tool.Compare
import Retrace.Tool.Condition
import Retrace.Tool.Count
import Retrace.Tool.Diff
import Retrace.Tool.Dump
import Retrace.Tool.Expression
import Retrace.Tool.Find
import Retrace.Tool.Head
import Retrace.Tool.Layout
import Retrace.Tool.Printing
import Retrace.Tool.Sed
import Retrace.Tool.Seq
import Retrace.Tool.Starting
import Retrace.Tool.Temporary
import Retrace.Tool.Translate

/-!
# The programs of the machine by name
-/

namespace Retrace.Tool

open Unix

def tools : List (String × Tool) :=
  [("[", Condition.bracket),
    ("arch", Answers.saying "x86_64"),
    ("basename", Paths.basename),
    ("cat", Cat.tool),
    ("chmod", Mode.chmod),
    ("cmp", Compare.tool),
    ("cp", Copying.cp),
    ("cut", Cut.tool),
    ("diff", Diff.tool),
    ("dirname", Paths.dirname),
    ("echo", Printing.echo),
    ("egrep", Grep.egrep),
    ("expand", Layout.expanding),
    ("expr", Expression.tool),
    ("false", fun _ _ => return .exited 1),
    ("fgrep", Grep.fgrep),
    ("fold", Layout.folding),
    ("grep", Grep.grep),
    ("head", head),
    ("ln", Copying.ln),
    ("ls", Listing.ls false),
    ("md5sum", Digest.tool ⟨"MD5", Digest.md5⟩),
    ("mkdir", Making.mkdir),
    ("mkfifo", Making.mkfifo),
    ("mktemp", Temporary.mktemp),
    ("mv", Copying.mv),
    ("nl", Layout.nl),
    ("od", Dump.tool),
    ("paste", Cut.paste),
    ("printenv", Answers.printenv),
    ("printf", Printing.printf),
    ("pwd", Paths.pwd),
    ("readlink", Paths.readlink),
    ("realpath", Paths.realpath),
    ("rev", Layout.rev),
    ("rgrep", Grep.rgrep),
    ("rm", Removal.rm),
    ("rmdir", Removal.rmdir),
    ("sed", Sed.tool),
    ("seq", Seq.tool),
    ("sha1sum", Digest.tool ⟨"SHA1", Digest.sha1⟩),
    ("sha256sum", Digest.tool ⟨"SHA256", Digest.sha256⟩),
    ("sleep", Answers.sleep),
    ("sort", Sort.tool),
    ("tac", Layout.tac),
    ("tail", tail),
    ("tee", Tee.tool),
    ("test", Condition.test),
    ("touch", Making.touch),
    ("tr", Translate.tool),
    ("true", fun _ _ => return .exited 0),
    ("uname", Answers.uname),
    ("uniq", Uniq.tool),
    ("unlink", Removal.unlink),
    ("vdir", Listing.ls true),
    ("wc", wc),
    ("which.debianutils", Starting.which),
    ("whoami", Answers.saying "root"),
    ("yes", Answers.yes)]

def starters (exec : Exec) : List (String × Tool) :=
  [("bash", Shell.shell .bash exec),
    ("dash", Shell.shell .dash exec),
    ("env", Starting.env exec),
    ("find", Find.tool exec),
    ("mawk", Awk.tool exec),
    ("timeout", Starting.timeout exec),
    ("xargs", Batch.tool exec)]

def find? (exec : Exec) (name : String) : Option Tool :=
  (((starters exec).lookup name).or (tools.lookup name)).or
    (if Files.standardPrograms.contains name then some Answers.silent else none)

/-- Starts programs that may start others in turn, so many of them one inside the other. -/
def execWithin : Nat → Exec
  | 0, _, _, _ => return .linkLoop
  | depth + 1, path, words, env => Exec.within (find? (execWithin depth)) 6 path words env

def exec : Exec := execWithin 1000000

end Retrace.Tool
