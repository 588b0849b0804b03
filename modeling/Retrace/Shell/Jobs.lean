import Retrace.Shell.Script

/-!
# Jobs

What a session starts, and how it learns of the end of what it has started.
-/

namespace Retrace.Shell

open Unix Step

def dropTraps : List (Nat × Bytes) → Step Unit
  | [] => return
  | (signal, action) :: rest => do
    if Signal.isReal signal && !action.isEmpty then ask (.setAction signal none)
    dropTraps rest

def asChild (self : Self) (body : Step Flow) : Step Ending := do
  let session ← get
  dropTraps session.traps
  let kept := session.traps.filter fun (signal, action) =>
    (signal ≠ 0 && action.isEmpty) || session.keepsTrap signal
  let process ← match session.dialect with
    | .dash => pure session.process
    | .bash => do pure (← look).process
  set { session with
    traps := kept, jobs := [], isLast := true, pending := [], isChild := true, isPiped := false
    process }
  let _ ← attend self (← body)
  leave self

def fork (child : Step Ending) : Step Nat := do
  let session ← get
  run (Program.fork (Program.process (child.run' session)))

def detach (isFirst : Bool) : Step Unit := do
  ask (.setAction 2 (some .ignore))
  ask (.setAction 3 (some .ignore))
  modify fun session => { session with deaf := 2 :: 3 :: session.deaf }
  if isFirst then
    close 0
    let _ ← ask (.openFile "/dev/null".toList .input 0)

def startMember (self : Self) (job : Nat) (background : Bool) (body : Step Flow) : Step Nat := do
  let isFirst := ((← get).job? job).all (·.members.isEmpty)
  let process ← fork <| asChild self do
    if background then detach isFirst
    body
  modify fun session =>
    session.updateJob job fun job => { job with members := job.members ++ [(process, none)] }
  if background then modify fun session => { session with lastJob := some process }
  return process

def newJob : Step Nat := modifyGet fun session => session.addJob

def newJobFor (text : Bytes) : Step Nat := do
  let number ← newJob
  modify fun session => session.updateJob number fun job => { job with text }
  return number

/-! ## Waiting -/

def report (ending : Ending) : Step Unit := do
  match ending with
  | .killed signal =>
    if !Signal.isQuiet signal then write 2 (ofString (Signal.description signal ++ "\n"))
  | .exited _ => return

/-- Notes how a process ended. If it belongs to the job that is waited for, that is told. -/
def noteEnding (awaited : Option Nat) (process : Nat) (ending : Ending) : Step Unit := do
  let session ← get
  match session.jobs.find? fun job => !job.isDone && job.holds process with
  | none => return
  | some job =>
    let noted := job.members.map fun member =>
      if member.1 = process then (process, some ending) else member
    set (session.updateJob job.number fun job => { job with members := noted })
    if awaited = some job.number && session.dialect = .dash then report ending

def reap (awaited : Option Nat) : Nat → Step Unit
  | 0 => return
  | fuel + 1 => do
    match ← ask (.wait (some 0) false) with
    | .ok (some (process, ending)) =>
      noteEnding awaited process ending
      reap awaited fuel
    | _ => return

def reapAll : Step Unit := do
  if (← get).jobs.any (!·.isDone) then reap none Program.manySteps

/-- Waits until a job is done. With `heeds` a signal ends the waiting early: the answer tells
whether the job is done. -/
def waitFor (number : Nat) (heeds : Bool) : Nat → Step Bool
  | 0 => return true
  | fuel + 1 => do
    if ((← get).job? number).all Job.isDone then
      reap (some number) Program.manySteps
      return true
    match ← ask (.wait none heeds) with
    | .ok (some (process, ending)) =>
      noteEnding (some number) process ending
      waitFor number heeds fuel
    | .error .interrupted => return false
    | _ => return true

def reportJob (job : Job) : Step Unit := do
  if job.text.isEmpty then return
  match job.members.getLast? with
  | some (process, some (.killed signal)) =>
    let text := ofString (Signal.description signal)
    let number := Text.decimal process
    if signal = 15 then write 2 (text ++ ['\n'])
    else if !Signal.isQuiet signal then
      let row := List.replicate (5 - number.length) ' ' ++ number ++ ' ' :: text ++
        List.replicate (24 - text.length) ' ' ++ job.text
      write 2 ({ (← get) with command := none }.message row)
  | _ => return

def finishJob (number : Nat) : Step Nat := do
  let _ ← waitFor number false Program.manySteps
  let session ← get
  let job := session.job? number
  match session.dialect with
  | .dash => set (session.dropJob number)
  | .bash =>
    if let some job := job then reportJob job
    set (session.dropJob number).retire
  return ((job.bind Job.ending?).getD (.exited 0)).status

end Retrace.Shell
