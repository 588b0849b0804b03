import Retrace.Text.Numeral
import Retrace.Unix.Volume.Change

/-!
# Processes

A process is what it asks of the system next and how it goes on with the answer,
or its end. A program is written in the order of its steps: it is a process that
still has to be told what follows it.
-/

/-!
## Signals

Numbers and names, and what is said about a program that one of them ended.
-/

namespace Retrace.Unix.Signal

def names : List (Option String) :=
  ["HUP", "INT", "QUIT", "ILL", "TRAP", "ABRT", "BUS", "FPE", "KILL", "USR1", "SEGV", "USR2", "PIPE",
    "ALRM", "TERM"].map some ++ [none] ++
  ["CHLD", "CONT", "STOP", "TSTP", "TTIN", "TTOU", "URG", "XCPU", "XFSZ", "VTALRM", "PROF", "WINCH",
    "IO", "PWR", "SYS"].map some ++ [none, none, some "RTMIN"] ++
  (List.range 15).map (fun n => some ("RTMIN+" ++ toString (n + 1))) ++
  (List.range 14).map (fun n => some ("RTMAX-" ++ toString (14 - n))) ++ [some "RTMAX"]

def interrupt : Nat := 2
def kill : Nat := 9
def pipe : Nat := 13
def terminate : Nat := 15

def largest : Nat := names.length

variable (signal : Nat)

def name : String :=
  if signal = 0 then "EXIT" else ((names[signal - 1]?).join).getD (toString signal)

/-- The signal that a number or a name in any case stands for. With `zero` the end of the
shell has a name too. -/
def ofText? (text : Bytes) (zero : Bool) : Option Nat :=
  if !text.isEmpty && text.all Char.isDigit then
    let number := Text.digitsValue text
    if number ≤ largest then some number else none
  else
    let plain := String.ofList (text.map Char.toUpper)
    if plain = "EXIT" then if zero then some 0 else none
    else (names.idxOf? (some plain)).map (· + 1)

def isHarmless : Bool := [0, 17, 18, 23, 28].contains signal

def isCertain : Bool := signal = 9 || signal = 19

def isReal : Bool := 0 < signal && signal ≤ largest

def isQuiet : Bool := signal = 2 || signal = 13

def description : String :=
  match signal with
  | 1 => "Hangup"
  | 2 => "Interrupt"
  | 3 => "Quit"
  | 4 => "Illegal instruction"
  | 5 => "Trace/breakpoint trap"
  | 6 => "Aborted"
  | 7 => "Bus error"
  | 8 => "Floating point exception"
  | 9 => "Killed"
  | 10 => "User defined signal 1"
  | 11 => "Segmentation fault"
  | 12 => "User defined signal 2"
  | 13 => "Broken pipe"
  | 14 => "Alarm clock"
  | 15 => "Terminated"
  | 16 => "Stack fault"
  | 17 => "Child exited"
  | 18 => "Continued"
  | 19 => "Stopped (signal)"
  | 20 => "Stopped"
  | 21 => "Stopped (tty input)"
  | 22 => "Stopped (tty output)"
  | 23 => "Urgent I/O condition"
  | 24 => "CPU time limit exceeded"
  | 25 => "File size limit exceeded"
  | 26 => "Virtual timer expired"
  | 27 => "Profiling timer expired"
  | 28 => "Window changed"
  | 29 => "I/O possible"
  | 30 => "Power failure"
  | 31 => "Bad system call"
  | n =>
    if 34 ≤ n && n ≤ 64 then "Real-time signal " ++ toString (n - 34)
    else "Unknown signal " ++ toString n

end Retrace.Unix.Signal

/-! ## What a process asks -/

namespace Retrace.Unix

inductive Ending where
  | exited (code : Nat)
  | killed (signal : Nat)
  deriving DecidableEq, Repr

def Ending.status : Ending → Nat
  | .exited code => code
  | .killed signal => 128 + signal

inductive Target where
  | inode (number : Nat)
  | pipe (id : Nat)
  | output (id : Nat)
  deriving DecidableEq, Repr

structure OpenFile where
  target : Target
  readable : Bool
  writable : Bool
  appends : Bool := false
  offset : Nat := 0
  holders : Nat := 1

structure OpenMode where
  (readable writable creates anew truncates appends : Bool := false)
  deriving DecidableEq, Repr

namespace OpenMode

def input : OpenMode := { readable := true }
def output : OpenMode := { writable := true, creates := true, truncates := true }
def append : OpenMode := { writable := true, creates := true, appends := true }
def update : OpenMode := { readable := true, writable := true, creates := true }
def fresh : OpenMode := { writable := true, creates := true, anew := true }

end OpenMode

inductive Action where
  | ignore
  | notice
  deriving DecidableEq, Repr

structure View where
  volume : Volume
  cwd : Nat
  process : Nat
  parent : Nat
  now : Nat
  mask : Nat
  files : List (Nat × OpenFile)
  actions : List (Nat × Action)
  noticed : List Nat

inductive Request where
  | spend (time : Nat)
  | look
  | change (act : View → Except OsError Volume)
  | enterDir (inode : Nat)
  | setMask (mask : Nat)
  | openFile (path : Bytes) (mode : OpenMode) (permission : Nat)
  | close (fd : Nat)
  | copy (source target : Nat)
  /-- Copies a descriptor to the lowest free one from a number on, closed when a program is
  started. -/
  | save (source least : Nat)
  | pipe
  | read (fd size : Nat)
  | readUpTo (fd size : Nat) (mark : Char)
  | write (fd : Nat) (text : Bytes)
  | seek (fd offset : Nat)
  | truncate (fd size : Nat)
  | become
  /-- Waits for a child to end, until a time if one is given, and until a signal is noticed if
  that is heeded. -/
  | wait (limit : Option Nat) (heeds : Bool)
  | send (process signal : Nat)
  | setAction (signal : Nat) (action : Option Action)
  | arrived
  | sleep (time : Nat)

@[reducible] def Request.Answer : Request → Type
  | .spend _ => Unit
  | .look => View
  | .change _ => Except OsError Unit
  | .enterDir _ => Unit
  | .setMask _ => Unit
  | .openFile .. => Except OsError Nat
  | .close _ => Bool
  | .copy .. => Except OsError Unit
  | .save .. => Except OsError Nat
  | .pipe => Nat × Nat
  | .read .. => Except OsError Bytes
  | .readUpTo .. => Except OsError Bytes
  | .write .. => Except OsError Nat
  | .seek .. => Except OsError Unit
  | .truncate .. => Except OsError Unit
  | .become => Unit
  | .wait .. => Except OsError (Option (Nat × Ending))
  | .send .. => Except OsError Unit
  | .setAction .. => Unit
  | .arrived => List Nat
  | .sleep _ => Unit

def Request.whenInterrupted : (request : Request) → Option request.Answer
  | .openFile .. => some (.error .interrupted)
  | .read .. => some (.error .interrupted)
  | .readUpTo .. => some (.error .interrupted)
  | .write .. => some (.error .interrupted)
  | .wait _ heeds => if heeds then some (.error .interrupted) else none
  | .sleep _ => some ()
  | _ => none

inductive Process where
  | ends (ending : Ending)
  | asks (request : Request) (next : request.Answer → Process)
  | forks (child : Process) (next : Nat → Process)

instance : Inhabited Process := ⟨.ends (.exited 0)⟩

def Program (α : Type) : Type := (α → Process) → Process

namespace Program

@[always_inline, inline] def pure (value : α) : Program α := fun next => next value

@[always_inline, inline] def bind (first : Program α) (second : α → Program β) : Program β :=
  fun next => first fun value => second value next

instance : Monad Program where
  pure := Program.pure
  bind := Program.bind

instance : LawfulMonad Program where
  map_const := rfl
  id_map _ := rfl
  seqLeft_eq _ _ := rfl
  seqRight_eq _ _ := rfl
  pure_seq _ _ := rfl
  bind_pure_comp _ _ := rfl
  bind_map _ _ := rfl
  pure_bind _ _ := rfl
  bind_assoc _ _ _ := rfl

@[always_inline, inline] def ask (request : Request) : Program request.Answer :=
  fun next => .asks request next

def fork (child : Process) : Program Nat := fun next => .forks child next

def finish (ending : Ending) : Program α := fun _ => .ends ending

def exit (code : Nat) : Program α := finish (.exited (code % 256))

def process (program : Program Ending) : Process := program .ends

def look : Program View := ask .look

def close (fd : Nat) : Program Unit := fun next => .asks (.close fd) fun _ => next ()

def writeAll (fd : Nat) : Nat → Bytes → Program (Except OsError Unit)
  | _, [] => return .ok ()
  | 0, _ => return .ok ()
  | steps + 1, text => do
    match ← ask (.write fd text) with
    | .ok size => writeAll fd steps (text.drop size)
    | .error .interrupted => writeAll fd steps text
    | .error cause => return .error cause

def write (fd : Nat) (text : Bytes) : Program (Except OsError Unit) :=
  writeAll fd (text.length + 1000) text

def say (fd : Nat) (text : Bytes) : Program Unit := do
  let _ ← write fd text

def blockSize : Nat := 131072

def readAllFrom (fd : Nat) : Nat → List Bytes → Program (Except OsError Bytes)
  | 0, read => return .ok read.reverse.flatten
  | blocks + 1, read => do
    match ← ask (.read fd blockSize) with
    | .ok [] => return .ok read.reverse.flatten
    | .ok text => readAllFrom fd blocks (text :: read)
    | .error .interrupted => readAllFrom fd blocks read
    | .error cause => return .error cause

def manySteps : Nat := 1000000000000

def readAll (fd : Nat) : Program (Except OsError Bytes) := readAllFrom fd manySteps []

end Program
end Retrace.Unix
