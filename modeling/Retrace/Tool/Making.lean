import Retrace.Tool.Mode

/-!
# Making directories, pipes and files
-/

namespace Retrace.Tool.Making

open Unix

/-- The permissions that something new has: what the mask does not hide of all it could have. -/
def masked (view : View) (mode : Nat) : Nat := mode &&& (511 - view.mask % 512)

def makeDir (path : Bytes) (mode : Option Nat) : Work (Except OsError Unit) :=
  ask (.change fun view =>
    view.volume.makeDir view.now view.cwd path (mode.getD (masked view 511)))

def refusal (what : String) (path : Bytes) (cause : OsError) : Bytes :=
  ofString ("cannot create " ++ what ++ " ") ++ Quoted.name path ++ ": " ++ causeText cause

def paths (path : Bytes) : List Bytes :=
  let names := (cutAt '/' path).filter (!·.isEmpty)
  let start := if path.head? = some '/' then ['/'] else []
  (List.range names.length).map fun n => start ++ joined '/' (names.take (n + 1))

def modeOf (view : View) (text : Option Bytes) (full : Nat) : Work (Option Nat) := do
  match text with
  | none => return none
  | some text =>
    match Mode.read? text with
    | some change => return some (change.apply view.mask true full)
    | none => abort ("invalid mode " ++ Quoted.operand text) 1

def makeDirs (verbose : Bool) (mode : Option Nat) (path : Bytes) : Work Unit := do
  let steps := paths path
  for (step, n) in steps.zipIdx do
    let last := n + 1 = steps.length
    match ← makeDir step (if last then mode else none) with
    | .ok _ => if verbose then out ((← get).name ++ ": created directory " ++ Quoted.name step ++ ['\n'])
    | .error cause =>
      if !((← look).isDir step) then
        let cause := if cause = .alreadyThere && !last then .notDirectory else cause
        complain (refusal "directory" step cause) 1
        return

def mkdir : Tool := make fun words => do
  let manual := (Manual.make "m:pvZ" [("mode", "m"), ("parents", "p"), ("verbose", "v")]).named
    [("context", .maybe)]
  let (options, names) ← manual.options words
  if names.isEmpty then misuse "missing operand" 1
  let mode ← modeOf (← look) (options.reverse.lookup "m") 511
  let verbose := options.any (·.1 = "v")
  for name in names do
    if options.any (·.1 = "p") && !name.isEmpty then makeDirs verbose mode name
    else match ← makeDir name mode with
      | .ok _ => if verbose then out ((← get).name ++ ": created directory " ++ Quoted.name name ++ ['\n'])
      | .error cause => complain (refusal "directory" name cause) 1

def mkfifo : Tool := make fun words => do
  let manual := (Manual.make "m:Z" [("mode", "m")]).named
    [("context", .maybe)]
  let (options, names) ← manual.options words
  if names.isEmpty then misuse "missing operand" 1
  let mode ← modeOf (← look) (options.reverse.lookup "m") 438
  for name in names do
    let made ← ask (.change fun view =>
      view.volume.makeNode view.now view.cwd name .pipe (mode.getD (masked view 438)))
    if let .error cause := made then complain (refusal "fifo" name cause) 1

def touch : Tool := make fun words => do
  let manual := (Manual.make "acd:fhmr:t:" [("date", "d"), ("reference", "r"), ("no-create", "c"),
    ("no-dereference", "h")]).named [("time", .always)]
  let (options, names) ← manual.options words
  let view ← look
  let time : Option Nat ← match options.lookup "r" with
    | some name =>
      match view.status name true with
      | .ok (_, held) => pure (some held.changed)
      | .error cause =>
        abort ("failed to get attributes of " ++ Quoted.name name ++ ": " ++
          causeText cause) 1
    | none => pure none
  if names.isEmpty then misuse "missing file operand" 1
  let keeps := options.any (·.1 = "a") && !options.any (·.1 = "m")
  for name in names do
    let follow := !options.any (·.1 = "h")
    match (← look).status name follow with
    | .ok (inode, _) =>
      if !keeps then
        let _ ← ask (.change fun view => .ok (view.volume.setChanged inode (time.getD view.now)))
    | .error cause =>
      if options.any (·.1 = "c") && (cause = .notFound || cause = .notDirectory) then pure ()
      else match ← ask (.openFile name { writable := true, creates := true } 438) with
        | .ok fd =>
          close fd
          if let some time := time then
            let _ ← ask (.change fun view => match view.status name true with
              | .ok (inode, _) => .ok (view.volume.setChanged inode time)
              | .error cause => .error cause)
        | .error cause =>
          complain ("cannot touch " ++ Quoted.name name ++ ": " ++ causeText cause) 1

end Retrace.Tool.Making
