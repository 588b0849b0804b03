import Retrace.Tool.Amount
import Retrace.Tool.Options
import Retrace.Tool.Quoted

/-!
# Copying input to output

Files one after the other, as they are or with their lines numbered and what cannot
be seen made visible.
-/

namespace Retrace.Tool.Cat

open Unix

structure Style where
  (numbers skipsBlank squeezes ends tabs visible : Bool := false)
  deriving DecidableEq

variable (style : Style)

def Style.isPlain : Bool := style = {}

def Style.set : String → Style
  | "A" => { style with visible := true, ends := true, tabs := true }
  | "b" => { style with numbers := true, skipsBlank := true }
  | "e" => { style with visible := true, ends := true }
  | "E" => { style with ends := true }
  | "n" => { style with numbers := true }
  | "s" => { style with squeezes := true }
  | "t" => { style with visible := true, tabs := true }
  | "T" => { style with tabs := true }
  | "v" => { style with visible := true }
  | _ => style

/-- Where the copy is: how many line ends have just been written, none if a line has begun. -/
structure Place where
  ends : Option Nat := some 0
  number : Nat := 0
  returned : Bool := false

def visible (c : Char) : Bytes :=
  let n := c.toNat
  let low := fun (n : Nat) =>
    if n < 32 then ['^', Char.ofNat (n + 64)] else if n = 127 then ['^', '?'] else [Char.ofNat n]
  if n < 128 then low n else 'M' :: '-' :: low (n - 128)

def shown (c : Char) : Bytes :=
  if c = '\t' then if style.tabs then ['^', 'I'] else [c]
  else if style.visible then visible c else [c]

def step (place : Place) (c : Char) : Place × Bytes :=
  let number := Text.decimal (place.number + 1)
  let number := padLeft 6 number ++ ['\t']
  if c = '\n' then
    match place.ends.map (· + 1) with
    | some count =>
      if 2 ≤ count && style.squeezes then ({ place with ends := some 2 }, [])
      else
        let numbered := style.numbers && !style.skipsBlank
        let place' := { place with
          ends := some (min 2 count), number := if numbered then place.number + 1 else place.number }
        (place', (if numbered then number else []) ++ (if style.ends then ['$', '\n'] else ['\n']))
    | none =>
      let returned := if place.returned then ['^', 'M'] else []
      ({ place with ends := some 0, returned := false },
        returned ++ if style.ends then ['$', '\n'] else ['\n'])
  else
    let before := if place.returned then ['\r'] else []
    let (place, numbered) :=
      if place.ends.isSome && style.numbers then ({ place with number := place.number + 1 }, number)
      else (place, [])
    let waits := c = '\r' && style.ends && !style.visible
    ({ place with ends := none, returned := waits },
      before ++ numbered ++ if waits then [] else shown style c)

def copied (place : Place) (text : Bytes) : Place × Bytes :=
  let (place, pieces) := text.foldl (fun (place, pieces) c =>
    let (place, piece) := step style place c
    (place, piece :: pieces)) (place, [])
  (place, pieces.reverse.flatten)

def copy (style : Style) (name : Bytes) (fd : Nat) : Nat → Place → Work Place
  | 0, place => return place
  | fuel + 1, place => do
    match ← ask (.read fd 131072) with
    | .ok [] => return place
    | .ok text =>
      let (place, text) := if style.isPlain then (place, text) else copied style place text
      put text
      if (← get).broken.isSome then return place
      copy style name fd fuel place
    | .error .interrupted => copy style name fd fuel place
    | .error cause =>
      complain (Quoted.nameIfNeeded name ++ ": " ++ causeText cause) 1
      return place

def isOwnOutput (view : View) (fd : Nat) : Bool :=
  match view.files.lookup fd, view.files.lookup 1 with
  | some input, some output =>
    match input.target, output.target with
    | .inode first, .inode second =>
      first = second && match (view.volume.get? first).map Inode.body with
        | some (.file content) => input.offset < content.size
        | _ => false
    | _, _ => false
  | _, _ => false

def each (style : Style) : Place → List Bytes → Work Unit
  | place, [] => if place.returned then put ['\r'] else return
  | place, name :: rest => do
    match ← openInput name with
    | .error cause =>
      complain (Quoted.nameIfNeeded name ++ ": " ++ causeText cause) 1
      each style place rest
    | .ok fd =>
      if isOwnOutput (← look) fd then
        complain (Quoted.nameIfNeeded name ++ ": input file is output file") 1
        closeInput fd
        each style place rest
      else
        let place ← copy style name fd Program.manySteps place
        closeInput fd
        each style place rest

def manual : Manual :=
  (Manual.make "benstuvAET" [("number-nonblank", "b"), ("number", "n"), ("squeeze-blank", "s"),
    ("show-nonprinting", "v"), ("show-ends", "E"), ("show-tabs", "T"), ("show-all", "A")]).named

def tool : Tool := makeClosing (.naming "closing standard input") fun words => do
  let (style, names) ← manual.heed words ({} : Style) fun style name _ => return style.set name
  let view ← look
  if (view.files.lookup 1).isNone then abort "standard output: Bad file descriptor" 1
  each style {} (if names.isEmpty then [['-']] else names)

end Retrace.Tool.Cat

/-!
## Copies of what passes through

What is read is written to the output and to files at once.
-/

namespace Retrace.Tool.Tee

open Unix

structure Sink where
  name : Bytes
  fd : Nat

def spread (text : Bytes) (sinks : List Sink) : Work (List Sink) :=
  sinks.filterM fun sink => do
    match ← perform (Program.write sink.fd text) with
    | .ok _ => return true
    | .error cause =>
      report sink.name cause
      return false

def pass : Nat → List Sink → Work Unit
  | 0, _ => return
  | fuel + 1, sinks => do
    if sinks.isEmpty then return
    match ← ask (.read 0 8192) with
    | .ok [] => return
    | .ok text => pass fuel (← spread text sinks)
    | .error .interrupted => pass fuel sinks
    | .error cause => complain ("read error: " ++ causeText cause) 1

def apart (fd : Nat) : Work Nat := do
  if 3 ≤ fd then return fd
  match ← ask (.save fd 3) with
  | .ok copy =>
    close fd
    return copy
  | .error _ => return fd

def openSinks (mode : OpenMode) : List Bytes → Work (List Sink)
  | [] => return []
  | name :: rest => do
    match ← ask (.openFile name mode 438) with
    | .ok fd =>
      let fd ← apart fd
      return ⟨name, fd⟩ :: (← openSinks mode rest)
    | .error cause =>
      report name cause
      openSinks mode rest

def tool : Tool := makeClosing (.naming "standard input") fun words => do
  modify fun bench => { bench with fed := true }
  let manual := (Manual.make "aip" [("append", "a"), ("ignore-interrupts", "i")]).named
    [("output-error", .maybe)]
  let (options, names) ← manual.options words
  let has := fun (name : String) => options.any (·.1 = name)
  if has "i" then ask (.setAction Signal.interrupt (some .ignore))
  if has "p" || has "output-error" then ask (.setAction Signal.pipe (some .ignore))
  let sinks ← openSinks (if has "a" then .append else .output) names
  pass Program.manySteps (⟨"standard output", 1⟩ :: sinks)

end Retrace.Tool.Tee
