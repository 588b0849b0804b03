import Retrace.Tool.Basic

/-!
# Starting programs from tools
-/

namespace Retrace.Tool

open Unix

def fork (child : Program Ending) : Work Nat := do
  flush
  perform (Program.fork (Program.process child))

def awaitWithin (child : Nat) : Nat → Work Ending
  | 0 => return .exited 0
  | fuel + 1 => do
    match ← ask (.wait none false) with
    | .ok (some (number, ending)) => if number = child then return ending else awaitWithin child fuel
    | .ok none => awaitWithin child fuel
    | .error .interrupted => awaitWithin child fuel
    | .error _ => return .exited 127

def await (child : Nat) : Work Ending := awaitWithin child Program.manySteps

/-- Starts a program in a child, which gets ready for it first. What hinders it is told through a
pipe that the program does not keep. -/
def spawn (exec : Exec) (words : List Bytes) (env : Environment) (ready : Program Unit) :
    Work (Except Bytes Nat) := do
  let (reading, writing) ← ask .pipe
  let child ← fork do
    Program.close reading
    let kept ← Program.ask (.save writing 10)
    Program.close writing
    ready
    let cause ← Exec.named exec words env
    if let .ok kept := kept then Program.say kept (ofString cause.text)
    return .exited (if cause = .notFound then 127 else 126)
  close writing
  let (text, _) ← Feed.all { fd := reading }
  close reading
  if text.isEmpty then return .ok child
  let _ ← await child
  return .error text

/-- Lets a program take the place of this one. What hinders it is told after `what`. -/
def become {α : Type} (exec : Exec) (words : List Bytes) (env : Environment)
    (what : Bytes) : Work α := do
  flush
  let cause ← perform (Exec.named exec words env)
  abort (what ++ ": " ++ causeText cause) (if cause = .notFound then 127 else 126)

end Retrace.Tool
