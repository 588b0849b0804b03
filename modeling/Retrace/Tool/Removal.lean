import Retrace.Tool.Making

/-!
# Removing files and directories
-/

namespace Retrace.Tool.Removal

open Unix

structure Style where
  (force recursive emptyDirs verbose asks : Bool := false)

def confirm (question : Bytes) : Work Bool := do
  note ((← get).name ++ ": " ++ question ++ "? ")
  let (line, feed) ← Feed.line { fd := 0, block := 1 } '\n'
  feed.giveBack
  return (line.bind (·.head?)).any fun c => c = 'y' || c = 'Y'

def kind (body : Body) : String :=
  match body with
  | .dir .. => "directory"
  | .file content => if content.size = 0 then "regular empty file" else "regular file"
  | .link _ => "symbolic link"
  | .pipe => "fifo"
  | .device _ => "character special file"

def cannot (path : Bytes) (cause : OsError) : Work Unit :=
  complain ("cannot remove " ++ Quoted.name path ++ ": " ++ causeText cause) 1

def unlinkPath (path : Bytes) : Work (Except OsError Unit) :=
  ask (.change fun view => view.volume.unlink view.now view.cwd path)

def removeDirPath (path : Bytes) : Work (Except OsError Unit) :=
  ask (.change fun view => view.volume.removeDir view.now view.cwd path)

def lastName (path : Bytes) : Bytes :=
  ((path.reverse.dropWhile (· = '/')).takeWhile (· ≠ '/')).reverse

def remove (style : Style) : Nat → Bool → Bytes → Work Bool
  | 0, _, _ => return false
  | depth + 1, top, path => do
    let view ← look
    match view.status path false with
    | .error cause =>
      if style.force && (cause = .notFound || cause = .notDirectory) then return true
      cannot path cause
      return false
    | .ok (inode, held) =>
      match held.body with
      | .dir .. =>
        let empty := (view.volume.entries inode).isEmpty
        if !style.recursive && !style.emptyDirs then
          cannot path .isDirectory
          return false
        else if !style.recursive && !empty then
          cannot path .notEmpty
          return false
        else if top && (lastName path = ['.'] || lastName path = ['.', '.']) then
          complain ("refusing to remove '.' or '..' directory: skipping " ++ Quoted.name path) 1
          return false
        else if top && inode = Volume.root then
          warn "it is dangerous to operate recursively on '/'"
          complain "use --no-preserve-root to override this failsafe" 1
          return false
        else
          if style.asks && !empty then
            if !(← confirm ("descend into directory " ++ Quoted.name path)) then return true
          let step := fun (all : Bool) (entry : Bytes × Nat) => do
            return (← remove style depth false (Exec.under path entry.1)) && all
          let all ← (view.volume.entries inode).foldlM step true
          if !all then return false
          if style.asks then
            if !(← confirm ("remove directory " ++ Quoted.name path)) then return true
          match ← removeDirPath path with
          | .ok _ =>
            if style.verbose then out ("removed directory " ++ Quoted.name path ++ ['\n'])
            return true
          | .error cause =>
            cannot path cause
            return false
      | body =>
        if style.asks then
          if !(← confirm (ofString ("remove " ++ kind body ++ " ") ++ Quoted.name path)) then return true
        match ← unlinkPath path with
        | .ok _ =>
          if style.verbose then out ("removed " ++ Quoted.name path ++ ['\n'])
          return true
        | .error cause =>
          cannot path cause
          return false

def rm : Tool := make fun words => do
  let manual := (Manual.make "dfirvIR" [("force", "f"), ("recursive", "r"), ("dir", "d"),
    ("verbose", "v")]).named [("interactive", .maybe), ("one-file-system", .never),
    ("preserve-root", .maybe), ("no-preserve-root", .never)]
  let (style, names) ← manual.heed words ({} : Style) fun style name _ =>
    match name with
    | "f" => return { style with force := true, asks := false }
    | "i" => return { style with asks := true, force := false }
    | "interactive" => return { style with asks := true, force := false }
    | "r" => return { style with recursive := true }
    | "R" => return { style with recursive := true }
    | "d" => return { style with emptyDirs := true }
    | "v" => return { style with verbose := true }
    | _ => return style
  if names.isEmpty && !style.force then misuse "missing operand" 1
  for name in names do
    let _ ← remove style 10000 true name

def rmdir : Tool := make fun words => do
  let manual := (Manual.make "pv" [("parents", "p"), ("verbose", "v")]).named
    [("ignore-fail-on-non-empty", .never)]
  let (options, names) ← manual.options words
  if names.isEmpty then misuse "missing operand" 1
  let lenient := options.any (·.1 = "ignore-fail-on-non-empty")
  for name in names do
    let steps := if options.any (·.1 = "p") then (Making.paths name).reverse else [name]
    let mut goesOn := true
    for (step, n) in steps.zipIdx do
      if goesOn then
        if options.any (·.1 = "v") then
          out ((← get).name ++ ": removing directory, " ++ Quoted.name step ++ ['\n'])
        if let .error cause ← removeDirPath step then
          goesOn := false
          if !(lenient && cause = .notEmpty) then
            let what := if n = 0 then "failed to remove " else "failed to remove directory "
            complain (ofString what ++ Quoted.name step ++ ": " ++ causeText cause) 1

def unlink : Tool := make fun words => do
  let manual := ({} : Manual).named
  let (_, names) ← manual.options words
  match names with
  | [] => misuse "missing operand" 1
  | [name] =>
    if let .error cause ← unlinkPath name then
      abort ("cannot unlink " ++ Quoted.name name ++ ": " ++ causeText cause) 1
  | _ :: extra :: _ => misuse ("extra operand " ++ Quoted.operand extra) 1

end Retrace.Tool.Removal
