import Retrace.Tool.Paths

/-!
# Files under new names

A template ends in marks that are filled so that the name is new.
-/

namespace Retrace.Tool.Temporary

open Unix

def letters : Bytes := "abcdefghijklmnopqrstuvwxyzABCDEFGHIJKLMNOPQRSTUVWXYZ0123456789".toList

def filling : Nat → Nat → Bytes
  | 0, _ => []
  | count + 1, seed => (letters[seed % 62]?).getD 'x' :: filling count (seed / 62 + seed % 62 * 91193)

def parts (template : Bytes) : Bytes × Nat × Bytes :=
  let backwards := template.reverse
  let behind := backwards.takeWhile (· ≠ 'X')
  let marks := (backwards.drop behind.length).takeWhile (· = 'X')
  ((backwards.drop (behind.length + marks.length)).reverse, marks.length, behind.reverse)

structure Style where
  (dir dry quiet : Bool := false)
  place : Option Bytes := none
  placed : Bool := false
  single : Bool := false
  suffix : Option Bytes := none

def Style.set (style : Style) (name : String) (value : Bytes) : Work Style :=
  match name with
  | "d" => return { style with dir := true }
  | "u" => return { style with dry := true }
  | "q" => return { style with quiet := true }
  | "t" => return { style with single := true, placed := true }
  | "p" => return { style with place := some value, placed := true }
  | "suffix" => return { style with suffix := some value }
  | _ => return style

def create (style : Style) (before behind : Bytes) (marks : Nat) :
    Nat → Nat → Work (Except OsError Bytes)
  | 0, _ => return .error .alreadyThere
  | tries + 1, seed => do
    let path := before ++ filling marks seed ++ behind
    let made ← if style.dry then
        pure (if (← look).pathExists path false then .error .alreadyThere else .ok ())
      else if style.dir then Making.makeDir path (some 448)
      else do
        match ← ask (.openFile path .fresh 384) with
        | .ok fd =>
          close fd
          pure (.ok ())
        | .error cause => pure (.error cause)
    match made with
    | .ok _ => return .ok path
    | .error .alreadyThere => create style before behind marks tries (seed * 7 + 104729)
    | .error cause => return .error cause

def mktemp : Tool := make fun words => do
  let manual := (Manual.make "dqup:t" [("directory", "d"), ("quiet", "q"), ("dry-run", "u")]).named
    [("suffix", .always)]
  let manual : Manual := { manual with names := manual.names ++ [("tmpdir", .maybe, "p")] }
  let (style, operands) ← manual.heed words ({} : Style) Style.set
  if 1 < operands.length then misuse "too many templates" 1
  let (template, placed) := match operands with
    | template :: _ => (template, style.placed)
    | [] => ("tmp.XXXXXXXXXX", true)
  let suffix := style.suffix.getD []
  let (before, marks, behind) := parts template
  if style.suffix.isSome && !behind.isEmpty then
    abort ("with --suffix, template " ++ Quoted.name template ++ " must end in X") 1
  if marks < 3 then abort ("too few X's in template " ++ Quoted.name template) 1
  let named := ((← get).env.lookup (ofString "TMPDIR")).filter fun (dir : Bytes) => !dir.isEmpty
  let standard := "/tmp"
  let place := match style.place with
    | some place => if place.isEmpty then named.getD standard else place
    | none => named.getD standard
  if style.single && template.contains '/' then
    abort ("invalid template, " ++ Quoted.name template ++ ", contains directory separator") 1
  if placed && !style.single && template.head? = some '/' then
    abort ("invalid template, " ++ Quoted.name template ++
      "; with --tmpdir, it may not be absolute") 1
  let before := if placed then Exec.under place before else before
  let view ← look
  match ← create style before (behind ++ suffix) marks 1000 (view.now + view.process * 7919) with
  | .ok path => out (path ++ ['\n'])
  | .error cause =>
    if !style.quiet then
      warn (ofString ("failed to create " ++ (if style.dir then "directory" else "file") ++ " via template ") ++
        Quoted.name (before ++ List.replicate marks 'X' ++ behind ++ suffix) ++ ": " ++ causeText cause)
    fail 1

end Retrace.Tool.Temporary
