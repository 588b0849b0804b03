import Retrace.Shell.Session

/-!
# Steps of a session

A step of a session is a program that changes the session. What a builtin has to
say is kept until it ends; messages go out at once.
-/

namespace Retrace.Shell

open Unix

abbrev Step := StateT Session Program

abbrev Eval := Statement → Bool → Step Flow

structure Self where
  eval : Eval
  exec : Exec

namespace Step

@[always_inline, inline] def ask (request : Request) : Step request.Answer :=
  StateT.lift (Program.ask request)

@[always_inline, inline] def run (program : Program α) : Step α := StateT.lift program

def look : Step View := ask .look

def close (fd : Nat) : Step Unit := run (Program.close fd)

def setStatus (status : Nat) : Step Unit := modify fun session => { session with status }

def setLine (line : Nat) : Step Unit :=
  modify fun session => { session with line := (line + session.lineShift).toNat }

def asLast (isLast : Bool) : Step Unit := modify fun session => { session with isLast }

def write (fd : Nat) (text : Bytes) : Step Unit := run (Program.say fd text)

def say (text : Bytes) : Step Unit :=
  modify fun session => { session with pending := text :: session.pending }

def flushing : Step (Except OsError Unit) := do
  let session ← get
  if session.pending.isEmpty then return .ok ()
  set { session with pending := [] }
  run (Program.write 1 session.pending.reverse.flatten)

def flush : Step Bool := do
  match ← flushing with
  | .ok () => return true
  | .error _ => return false

def complain (text : Bytes) : Step Unit := do
  write 2 ((← get).message text)

def failing (text : Bytes) (status : Nat) : Step Flow := do
  complain text
  setStatus status
  return .goes

def aborting (text : Bytes) : Step Flow := do
  complain text
  let _ ← flush
  setStatus (← get).failure
  return .fails

/-- Says why an expansion cannot be carried out. One shell gives up; the other one does so
only if a parameter is missing, and else leaves the line. -/
def refused (text : Bytes) : Step Flow := do
  let session ← get
  match session.dialect with
  | .dash => aborting text
  | .bash =>
    complain text
    let _ ← flush
    modify fun session => { session with missing := false, unsettled := false, locked := false }
    if session.missing then
      setStatus (if session.given.isSome && !session.isChild then 127 else 1)
      return .exits
    setStatus 1
    return .discards

def answer (success : Bool) : Step Flow := do
  setStatus (if success then 0 else 1)
  return .goes

def settle : Except Bytes Session → Step Flow
  | .ok session => do
    set session
    answer true
  | .error message => aborting message

end Step
end Retrace.Shell
