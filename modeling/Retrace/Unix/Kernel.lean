import Retrace.Unix.Process

/-!
# The system

What processes share: the volume, the open files, the pipes between them, and the
tasks, each of which is a process with its own clock. Tasks run side by side, so
the one whose clock is behind all others goes first.
-/

namespace Retrace.Unix

structure Pipe where
  data : ByteArray := .empty
  start : Nat := 0
  readers : Nat := 0
  (writers readOpenings writeOpenings : Nat := 0)

namespace Pipe

def capacity : Nat := 65536

def atomicSize : Nat := 4096

def size (pipe : Pipe) : Nat := pipe.data.size - pipe.start

def peek (pipe : Pipe) (count : Nat) : Bytes :=
  ofBytes (pipe.data.extract pipe.start (pipe.start + count)).toList

def drop (pipe : Pipe) (count : Nat) : Pipe :=
  if pipe.size ≤ count then { pipe with data := .empty, start := 0 }
  else { pipe with start := pipe.start + count }

def append (pipe : Pipe) (text : Bytes) : Pipe :=
  { pipe with data := text.foldl (fun data c => data.push (UInt8.ofNat c.toNat)) pipe.data }

end Pipe

inductive Stall where
  | input (pipe : Nat)
  | output (pipe : Nat)
  | opening (pipe seen : Nat)
  | child (limit : Option Nat)
  | until (time : Nat)
  deriving DecidableEq, Repr

/-- A descriptor: an open file, and whether it is closed when a program is started. -/
structure Slot where
  file : Nat
  passing : Bool := false

inductive Course where
  | runs (process : Process)
  | stalls (process : Process) (on : Stall)
  | ended (ending : Ending)

structure Task where
  number : Nat
  parent : Nat
  time : Nat
  course : Course
  slots : List (Nat × Slot)
  cwd : Nat
  mask : Nat := 18
  actions : List (Nat × Action) := []
  noticed : List Nat := []
  stopped : Bool := false
  waited : Option Stall := none

structure Kernel where
  volume : Volume
  files : Std.HashMap Nat OpenFile := {}
  pipes : Std.HashMap Nat Pipe := {}
  named : List (Nat × Nat) := []
  tasks : List Task := []
  outputs : List (Nat × List Bytes) := []
  fresh : Nat := 0
  nextProcess : Nat
  horizon : Nat := 0

namespace Task

variable (task : Task)

def due? : Option Nat :=
  if task.stopped then none
  else match task.course with
    | .runs _ => some task.time
    | .stalls _ (.until time) => some time
    | .stalls _ (.child (some limit)) => some (max task.time limit)
    | _ => none

def isOver : Bool :=
  match task.course with
  | .ended _ => true
  | _ => false

def spend (time : Nat) : Task := { task with time := task.time + time }

def resume (time : Nat) : Task :=
  match task.course with
  | .stalls process stall =>
    { task with course := .runs process, time := max task.time time, waited := some stall }
  | _ => task

def slot? (fd : Nat) : Option Slot := task.slots.lookup fd

def freeFrom (task : Task) : Nat → Nat → Nat
  | 0, fd => fd
  | tries + 1, fd => if (task.slot? fd).isSome then task.freeFrom tries (fd + 1) else fd

def free (least : Nat) : Nat := task.freeFrom (task.slots.length + 1) least

def bind (fd : Nat) (slot : Slot) : Task :=
  { task with slots := (fd, slot) :: task.slots.filter (·.1 ≠ fd) }

def unbind (fd : Nat) : Task := { task with slots := task.slots.filter (·.1 ≠ fd) }

end Task

namespace Kernel

/-- How long it takes a task to notice that it can go on. -/
def wakeTime : Nat := 20

/-- How long it takes until a task that a signal ends is gone. -/
def deathTime : Nat := 150

def never : Nat := 4000000000000000000

variable (kernel : Kernel)

def file? (task : Task) (fd : Nat) : Option (Nat × OpenFile) :=
  (task.slot? fd).bind fun slot => (kernel.files[slot.file]?).map (slot.file, ·)

def setFile (id : Nat) (file : OpenFile) : Kernel :=
  { kernel with files := kernel.files.insert id file }

def setPipe (id : Nat) (pipe : Pipe) : Kernel :=
  { kernel with pipes := kernel.pipes.insert id pipe }

def newFile (file : OpenFile) : Nat × Kernel :=
  (kernel.fresh, { kernel.setFile kernel.fresh file with fresh := kernel.fresh + 1 })

def newPipe (pipe : Pipe) : Nat × Kernel :=
  (kernel.fresh, { kernel.setPipe kernel.fresh pipe with fresh := kernel.fresh + 1 })

def wakeTasks (time : Nat) (pick : Task → Stall → Bool) : Kernel :=
  let isWoken := fun task : Task =>
    match task.course with
    | .stalls _ stall => pick task stall
    | _ => false
  if kernel.tasks.any isWoken then
    let time := time + wakeTime
    let tasks := kernel.tasks.map fun task => if isWoken task then task.resume time else task
    let horizon := (kernel.tasks.filter isWoken).foldl
      (fun least task => min least (max task.time time)) kernel.horizon
    { kernel with tasks, horizon }
  else kernel

def wake (time : Nat) (on : Stall → Bool) : Kernel :=
  kernel.wakeTasks time fun _ stall => on stall

def hold (id : Nat) : Kernel :=
  match kernel.files[id]? with
  | some file => kernel.setFile id { file with holders := file.holders + 1 }
  | none => kernel

/-- One descriptor less leads to an open file, which is closed with the last one. -/
def release (time id : Nat) : Kernel :=
  match kernel.files[id]? with
  | none => kernel
  | some file =>
    if 1 < file.holders then kernel.setFile id { file with holders := file.holders - 1 }
    else
      let kernel := { kernel with files := kernel.files.erase id }
      match file.target with
      | .pipe id =>
        let pipe := kernel.pipes.getD id {}
        let readers := if file.readable then pipe.readers - 1 else pipe.readers
        let writers := if file.writable then pipe.writers - 1 else pipe.writers
        let kernel := kernel.setPipe id { pipe with readers, writers }
        let kernel :=
          if file.writable && writers = 0 then kernel.wake time (· = .input id) else kernel
        if file.readable && readers = 0 then kernel.wake time (· = .output id) else kernel
      | _ => kernel

def releaseAll (time : Nat) (slots : List (Nat × Slot)) : Kernel :=
  slots.foldl (fun kernel (_, slot) => kernel.release time slot.file) kernel

def isDeadly (signal : Nat) : Bool :=
  !Signal.isHarmless signal && !([18, 19, 20, 21, 22].contains signal)

def strike (task : Task) (time signal : Nat) : Task × Bool :=
  let action := if Signal.isCertain signal then none else task.actions.lookup signal
  let task := if signal = 18 then { task with stopped := false } else task
  match action with
  | some .ignore => (task, false)
  | some .notice =>
    let task := { task with noticed := signal :: task.noticed }
    match task.course with
    | .stalls (.asks request next) _ =>
      match request.whenInterrupted with
      | some answer =>
        ({ task with course := .runs (next answer), time := max task.time time, waited := none }, false)
      | none => (task, false)
    | _ => (task, false)
  | none =>
    if [19, 20, 21, 22].contains signal then ({ task with stopped := true }, false)
    else (task, isDeadly signal)

def firstProcess : Nat := 4000

def tellParent (time parent : Nat) : Kernel :=
  let kernel := kernel.wakeTasks time fun task stall =>
    task.number = parent && match stall with
      | .child _ => true
      | _ => false
  let tasks := kernel.tasks.map fun task =>
    if task.number = parent && task.actions.lookup 17 = some .notice then
      { task with noticed := 17 :: task.noticed }
    else task
  { kernel with tasks }

/-- Ends a task that is not among the others: its descriptors are closed, its children are
nobody's, and its parent is told, unless that is the running task. What nobody waits for is
gone. -/
def conclude (running : Nat) (task : Task) (ending : Ending) : Kernel :=
  let kernel := kernel.releaseAll task.time task.slots
  let others := kernel.tasks.filter fun other => !(other.parent = task.number && other.isOver)
  let others := others.map fun other =>
    if other.parent = task.number then { other with parent := 1 } else other
  let ended := { task with course := .ended ending, slots := [] }
  let isAwaited := task.number = firstProcess || task.parent = running ||
    others.any fun other => other.number = task.parent && !other.isOver
  if isAwaited then
    ({ kernel with tasks := others ++ [ended] } : Kernel).tellParent task.time task.parent
  else { kernel with tasks := others }

def deliver (running time number signal : Nat) : Kernel :=
  match kernel.tasks.find? (·.number = number) with
  | none => kernel
  | some task =>
    if task.isOver then kernel
    else
      let (struck, dies) := strike task (time + wakeTime) signal
      if dies then
        let rest := { kernel with tasks := kernel.tasks.filter (·.number ≠ number) }
        rest.conclude running { struck with time := max struck.time (time + deathTime) } (.killed signal)
      else
        let tasks := kernel.tasks.map fun other => if other.number = number then struck else other
        { kernel with tasks, horizon := min kernel.horizon (struck.due?.getD never) }

def view (task : Task) : View :=
  { volume := kernel.volume
    cwd := task.cwd
    process := task.number
    parent := task.parent
    now := task.time
    mask := task.mask
    files := task.slots.filterMap fun (fd, slot) => (kernel.files[slot.file]?).map (fd, ·)
    actions := task.actions
    noticed := task.noticed }

end Kernel
end Retrace.Unix
