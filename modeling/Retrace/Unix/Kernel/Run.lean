import Retrace.Unix.Kernel.Files
import Retrace.Unix.Volume.Exchange

/-!
# Running a system

Serves requests, one task after the other, until the first task and all that hold
its outputs have ended, or until nothing can go on.
-/

namespace Retrace.Unix

namespace Kernel

def cost : Request → Nat
  | .spend time => time
  | .look => 0
  | .write .. => 3
  | .read .. => 2
  | .readUpTo .. => 2
  | .openFile .. => 4
  | .change _ => 4
  | .pipe => 3
  | .become => 100
  | _ => 1

/-- How long a process is busy with starting a child. -/
def forkTime : Nat := 150

def startTime : Nat := 300

variable (kernel : Kernel)

def endedChild? (number : Nat) (limit : Option Nat) : Option (Task × Ending) :=
  kernel.tasks.findSome? fun task =>
    match task.course with
    | .ended ending =>
      if task.parent = number && limit.all (task.time ≤ ·) then some (task, ending) else none
    | _ => none

def wait (task : Task) (limit : Option Nat) (heeds : Bool) :
    Served (Except OsError (Option (Nat × Ending))) :=
  let found := (kernel.endedChild? task.number (some task.time)).or
    (kernel.endedChild? task.number (limit.map (max task.time)))
  match found with
  | some (child, ending) =>
    let tasks := kernel.tasks.filter (·.number ≠ child.number)
    let task := { task with time := max task.time child.time }
    (.answers (.ok (some (child.number, ending))), { kernel with tasks }, task)
  | none =>
    if !kernel.tasks.any (·.parent = task.number) then (.answers (.error .noChild), kernel, task)
    else if heeds && !task.noticed.isEmpty then (.answers (.error .interrupted), kernel, task)
    else if limit.any (· ≤ task.time) then (.answers (.ok none), kernel, task)
    else (.stalls (.child limit), kernel, task)

def send (task : Task) (process signal : Nat) : Served (Except OsError Unit) :=
  if process = task.number then
    match strike { task with course := .ended (.exited 0) } task.time signal with
    | (_, true) => (.dies signal, kernel, task)
    | (struck, false) => (.answers (.ok ()), kernel, { task with noticed := struck.noticed })
  else if kernel.tasks.any (·.number = process) then
    (.answers (.ok ()), if signal = 0 then kernel else kernel.deliver task.number task.time process signal, task)
  else (.answers (.error .noProcess), kernel, task)

def serve (task : Task) : (request : Request) → Served request.Answer
  | .spend _ => (.answers (), kernel, task)
  | .look => (.answers (kernel.view task), kernel, task)
  | .change act =>
    match act (kernel.view task) with
    | .ok volume => (.answers (.ok ()), { kernel with volume }, task)
    | .error cause => (.answers (.error cause), kernel, task)
  | .enterDir cwd => (.answers (), kernel, { task with cwd })
  | .setMask mask => (.answers (), kernel, { task with mask })
  | .openFile path mode permission => kernel.openPath task path mode permission
  | .close fd => kernel.close task fd
  | .copy source target => kernel.copy task source target false
  | .save source least =>
    let target := task.free least
    match kernel.copy task source target true with
    | (.answers (.ok ()), kernel, task) => (.answers (.ok target), kernel, task)
    | (_, kernel, task) => (.answers (.error .badDescriptor), kernel, task)
  | .pipe => kernel.makePipe task
  | .read fd size => kernel.read task fd size none
  | .readUpTo fd size mark => kernel.read task fd size (some mark)
  | .write fd text => kernel.write task fd text
  | .seek fd offset => kernel.seek task fd offset
  | .truncate fd size => kernel.truncate task fd size
  | .become =>
    let (gone, kept) := task.slots.partition (·.2.passing)
    let actions := task.actions.filter (·.2 = .ignore)
    (.answers (), kernel.releaseAll task.time gone, { task with slots := kept, actions, noticed := [] })
  | .wait limit heeds => kernel.wait task limit heeds
  | .send process signal => kernel.send task process signal
  | .setAction signal action =>
    let others := task.actions.filter (·.1 ≠ signal)
    let actions := match action with
      | some action => if Signal.isCertain signal then others else (signal, action) :: others
      | none => others
    (.answers (), kernel, { task with actions })
  | .arrived => (.answers task.noticed.reverse, kernel, { task with noticed := [] })
  | .sleep time =>
    match task.waited with
    | some (.until _) => (.answers (), kernel, task)
    | _ => (.stalls (.until (task.time + time)), kernel, task)

def forkTask (task : Task) (child : Process) : Nat × Kernel × Task :=
  let number := kernel.nextProcess
  let kernel := task.slots.foldl (fun kernel (_, slot) => kernel.hold slot.file) kernel
  let task := task.spend forkTime
  let time := task.time + startTime
  let started := { task with number, parent := task.number, time, course := .runs child, noticed := [] }
  let kernel := { kernel with
    nextProcess := number + 1
    tasks := kernel.tasks ++ [started]
    horizon := min kernel.horizon time }
  (number, kernel, task)

def runTask : Nat → Kernel → Task → Kernel
  | 0, kernel, task => { kernel with tasks := kernel.tasks ++ [task] }
  | steps + 1, kernel, task =>
    if kernel.horizon < task.time || task.stopped then { kernel with tasks := kernel.tasks ++ [task] }
    else match task.course with
      | .runs (.ends ending) => kernel.conclude task.number task ending
      | .runs (.forks child next) =>
        let (number, kernel, task) := kernel.forkTask task child
        runTask steps kernel { task with course := .runs (next number) }
      | .runs (.asks request next) =>
        let task := task.spend (cost request)
        match kernel.serve task request with
        | (.answers value, kernel, task) =>
          runTask steps kernel { task with course := .runs (next value), waited := none }
        | (.stalls stall, kernel, task) =>
          { kernel with
            tasks := kernel.tasks ++ [{ task with course := .stalls (.asks request next) stall, waited := none }] }
        | (.dies signal, kernel, task) => kernel.conclude task.number task (.killed signal)
      | _ => { kernel with tasks := kernel.tasks ++ [task] }

def first? : Option (Task × Nat) :=
  let best := kernel.tasks.foldl (fun (best : Option (Task × Nat) × Nat) task =>
    match task.due? with
    | none => best
    | some due =>
      match best with
      | (none, later) => (some (task, due), later)
      | (some (held, least), later) =>
        if due < least then (some (task, due), min later least)
        else (some (held, least), min later due)) (none, never)
  best.1.map fun (task, due) =>
    let task := match task.course with
      | .runs _ => { task with time := due }
      | _ => task.resume due
    (task, best.2)

def isHeard : Bool :=
  kernel.files.fold (fun heard _ file =>
    heard || match file.target with
      | .output _ => file.writable
      | _ => false) false

def hasEnded (number : Nat) : Bool :=
  kernel.tasks.any fun task => task.number = number && task.isOver

def runUntil (number : Nat) : Nat → Kernel → Kernel
  | 0, kernel => kernel
  | steps + 1, kernel =>
    if kernel.hasEnded number && !kernel.isHeard then kernel
    else match kernel.first? with
      | none => kernel
      | some (task, horizon) =>
        let tasks := kernel.tasks.filter (·.number ≠ task.number)
        runUntil number steps (runTask Program.manySteps { kernel with tasks, horizon } task)

def output (id : Nat) : Bytes :=
  ((kernel.outputs.lookup id).getD []).reverse.flatten

def ending (kernel : Kernel) (number : Nat) : Ending :=
  (kernel.tasks.findSome? fun task =>
    match task.course with
    | .ended ending => if task.number = number then some ending else none
    | _ => none).getD (.exited 0)

end Kernel

/-- What is left when a process and all that it started have run: how it ended, what was written
to its two outputs, and the files. -/
structure Aftermath where
  ending : Ending
  output : Bytes
  errors : Bytes
  files : Files

def boot (files : Files) (process : Process) : Aftermath :=
  let volume := Volume.ofFiles files
  let cwd := volume.descend Volume.root (files.cwd.map ofBytes)
  let null := match volume.find Volume.root "/dev/null".toList true with
    | .ok inode => inode
    | .error _ => Volume.root
  let kernel : Kernel := { volume, nextProcess := Kernel.firstProcess + 1 }
  let (input, kernel) := kernel.newFile { target := .inode null, readable := true, writable := false }
  let (output, kernel) := kernel.newFile { target := .output 1, readable := false, writable := true }
  let (errors, kernel) := kernel.newFile { target := .output 2, readable := false, writable := true }
  let task : Task :=
    { number := Kernel.firstProcess, parent := Kernel.firstProcess - 1, time := bootTime
      course := .runs process, cwd
      slots := [(0, { file := input }), (1, { file := output }), (2, { file := errors })] }
  let kernel := Kernel.runUntil Kernel.firstProcess Program.manySteps { kernel with tasks := [task] }
  { ending := kernel.ending Kernel.firstProcess
    output := kernel.output 1
    errors := kernel.output 2
    files := { kernel.volume.toFiles files.cwd with room := files.room } }

end Retrace.Unix
