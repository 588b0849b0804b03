import Retrace.Unix.Exec

/-!
# Tools

What all programs of the machine share: an output that is written in blocks,
messages that name the program, and input that is read line by line.
-/

namespace Retrace.Tool

open Unix

/-- What a tool says, line by line, if its output could not be written, and the status that it
then has. -/
structure Closing where
  status : Nat := 1
  /-- By the cause, and whether writing failed before the work was done. -/
  texts : OsError → Bool → List String := fun cause _ => ["write error: " ++ cause.text]
  /-- What the input is called where it was read and cannot be closed. -/
  input : Option String := none

structure Bench where
  name : Bytes
  env : Environment
  pending : List Bytes := []
  (size status : Nat := 0)
  broken : Option OsError := none
  fed : Bool := false
  closing : Closing := {}

abbrev Work := StateT Bench Program

@[always_inline, inline] def ask (request : Request) : Work request.Answer :=
  StateT.lift (Program.ask request)

@[always_inline, inline] def perform (program : Program α) : Work α := StateT.lift program

def look : Work View := ask .look

def close (fd : Nat) : Work Unit := perform (Program.close fd)

def blockSize : Nat := 4096

def put (text : Bytes) : Work Unit := do
  if (← get).broken.isNone then
    if let .error cause ← perform (Program.write 1 text) then
      modify fun bench => { bench with broken := some cause }

def flush : Work Unit := do
  let bench ← get
  if bench.size ≠ 0 then
    set { bench with pending := [], size := 0 }
    put bench.pending.reverse.flatten

def out (text : Bytes) : Work Unit := do
  let bench ← get
  let size := bench.size + text.length
  if size ≤ blockSize then set { bench with pending := text :: bench.pending, size }
  else
    let whole := (text :: bench.pending).reverse.flatten
    let count := size / blockSize * blockSize
    set { bench with pending := [whole.drop count], size := size - count }
    put (whole.take count)

def fail (status : Nat) : Work Unit :=
  modify fun bench => { bench with status := max bench.status status }

def note (text : Bytes) : Work Unit := do
  flush
  perform (Program.say 2 text)

def warn (text : Bytes) : Work Unit := do
  note ((← get).name ++ [':', ' '] ++ text ++ ['\n'])

def complain (text : Bytes) (status : Nat) : Work Unit := do
  warn text
  fail status

def finish : Work Unit := do
  let early := (← get).broken.isSome
  flush
  let bench ← get
  if let some cause := bench.broken then
    (bench.closing.texts cause early).forM fun text => warn (ofString text)
    modify fun bench => { bench with status := bench.closing.status }
  if bench.fed && ((← look).files.lookup 0).isNone then
    if let some input := bench.closing.input then
      complain (ofString (input ++ ": " ++ OsError.badDescriptor.text)) 1

def exit {α : Type} (status : Nat) : Work α := do
  finish
  let bench ← get
  perform (Program.exit (if bench.broken.isSome then bench.status else status))

def abort {α : Type} (text : Bytes) (status : Nat) : Work α := do
  warn text
  exit status

def misuse {α : Type} (text : Bytes) (status : Nat) : Work α := do
  warn text
  note ("Try '" ++ (← get).name ++ " --help' for more information.\n")
  exit status

/-- Says what is wrong with the words of a tool, and under its name where more can be learned. -/
def misuseSigned {α : Type} (text : Bytes) (status : Nat) : Work α := do
  warn text
  warn ("Try '" ++ (← get).name ++ " --help' for more information.")
  exit status

def interject (text : Bytes) : Work Unit := perform (Program.say 2 text)

/-- A tool that does its work on its words, its name apart, and has its own way to say that its
output could not be written. -/
def makeClosing (closing : Closing) (work : List Bytes → Work Unit) : Tool :=
  fun words env => do
    let whole : Work Unit := do
      work (words.drop 1)
      finish
    let (_, bench) ← whole.run { name := words.headD [], env, closing }
    return .exited (bench.status % 256)

def make (work : List Bytes → Work Unit) : Tool := makeClosing {} work

def Closing.failing (status : Nat) : Closing := { status }

def Closing.naming (input : String) : Closing := { input := some input }

/-- The closing of a tool that knows no more in the end why its output could not be written,
unless there is none. -/
def Closing.forgetful : Closing :=
  { texts := fun cause _ =>
      [if cause = .badDescriptor then "write error: " ++ cause.text else "write error"] }

/-! ## Input -/

structure Feed where
  fd : Nat
  rest : Bytes := []
  exhausted : Bool := false
  flaw : Option OsError := none
  block : Nat := 4096

def Feed.more (feed : Feed) : Work Feed := do
  match ← ask (.read feed.fd feed.block) with
  | .ok [] => return { feed with exhausted := true }
  | .ok text => return { feed with rest := feed.rest ++ text }
  | .error .interrupted => return feed
  | .error cause => return { feed with exhausted := true, flaw := some cause }

def Feed.lineWithin (mark : Char) : Nat → Feed → Work (Option Bytes × Feed)
  | 0, feed => return (none, feed)
  | fuel + 1, feed => do
    match feed.rest.span (· ≠ mark) with
    | (line, _ :: rest) => return (some (line ++ [mark]), { feed with rest })
    | (line, []) =>
      if feed.exhausted then return (if line.isEmpty then none else some line, { feed with rest := [] })
      else Feed.lineWithin mark fuel (← feed.more)

def Feed.line (feed : Feed) (mark : Char) : Work (Option Bytes × Feed) :=
  feed.lineWithin mark Program.manySteps

def Feed.takeWithin (count : Nat) : Nat → Feed → Work (Bytes × Feed)
  | 0, feed => return ([], feed)
  | fuel + 1, feed => do
    if count ≤ feed.rest.length || feed.exhausted then
      return (feed.rest.take count, { feed with rest := feed.rest.drop count })
    else Feed.takeWithin count fuel (← feed.more)

def Feed.take (feed : Feed) (count : Nat) : Work (Bytes × Feed) :=
  feed.takeWithin count Program.manySteps

def Feed.allWithin : Nat → Feed → List Bytes → Work (Bytes × Feed)
  | 0, feed, read => return (read.reverse.flatten, feed)
  | fuel + 1, feed, read => do
    let read := feed.rest :: read
    let feed := { feed with rest := [] }
    if feed.exhausted then return (read.reverse.flatten, feed)
    else Feed.allWithin fuel (← feed.more) read

def Feed.all (feed : Feed) : Work (Bytes × Feed) := feed.allWithin Program.manySteps []

def Feed.giveBack (feed : Feed) : Work Unit := do
  if let some file := (← look).files.lookup feed.fd then
    if let .inode _ := file.target then
      let _ ← ask (.seek feed.fd (file.offset - feed.rest.length))

def openInput (path : Bytes) : Work (Except OsError Nat) := do
  if path = ['-'] then
    modify fun bench => { bench with fed := true }
    return .ok 0
  else ask (.openFile path .input 0)

def closeInput (fd : Nat) : Work Unit := if fd = 0 then return else close fd

def causeText (cause : OsError) : Bytes := ofString cause.text

def unended (mark : Char) (line : Bytes) : Bytes :=
  if line.getLast? = some mark then line.dropLast else line

/-- A text cut after each mark. The line that has begun and the lines before it are last first. -/
def linesFrom (mark : Char) : Bytes → List Bytes → Bytes → List Bytes
  | line, lines, [] => (if line.isEmpty then lines else line.reverse :: lines).reverse
  | line, lines, c :: rest =>
    if c = mark then linesFrom mark [] ((c :: line).reverse :: lines) rest
    else linesFrom mark (c :: line) lines rest

def linesOf (mark : Char) (text : Bytes) : List Bytes := linesFrom mark [] [] text

end Retrace.Tool
