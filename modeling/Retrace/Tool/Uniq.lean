import Retrace.Tool.Cut

/-!
# Neighbouring lines

Lines that are the same as the one before.
-/

namespace Retrace.Tool.Uniq

open Unix Text

structure Style where
  counts : Bool := false
  /-- Which lines are written: those that stand alone, those that do not, or all of the latter. -/
  singles : Bool := true
  repeats : Bool := true
  (every groups before between after : Bool := false)
  leads : Bool := false
  ignoresCase : Bool := false
  (fields chars : Nat := 0)
  width : Option Nat := none
  mark : Char := '\n'

def dropFields : Nat → Bytes → Bytes
  | 0, text => text
  | n + 1, text =>
    let isGap := fun c : Char => c = ' ' || c = '\t'
    dropFields n ((text.dropWhile isGap).dropWhile fun c => !isGap c)

def key (style : Style) (line : Bytes) : Bytes :=
  let text := (dropFields style.fields line).drop style.chars
  let text := match style.width with
    | some width => text.take width
    | none => text
  if style.ignoresCase then text.map Char.toUpper else text

def group (style : Style) (first : Bool) (lines : List Bytes) : Work Bool := do
  let count := lines.length
  if style.every then
    if count < 2 && !style.singles then return first
    if style.before || (style.between && !first) || (style.leads && first) then out [style.mark]
    for line in lines do
      out (line ++ [style.mark])
    if style.after then out [style.mark]
    return false
  else
    if if count = 1 then style.singles else style.repeats then
      let number := if style.counts then padLeft 7 (decimal count) ++ [' '] else []
      out (number ++ lines.headD [] ++ [style.mark])
    return first

/-- One line after the others: `held` are the lines of the group that has begun, last first. -/
def line (style : Style) (state : Bool × List Bytes) (written : Bytes) :
    Work (Bool × List Bytes) := do
  let (first, held) := state
  let text := unended style.mark written
  match held with
  | [] => return (first, [text])
  | last :: _ =>
    if key style last = key style text then
      return (first, text :: held)
    else
      let first ← group style first held.reverse
      return (first, [text])

def Style.set (style : Style) (name : String) (value : Bytes) : Work Style := do
  let number := fun (what : String) => do
    match natural? value with
    | some n => pure n
    | none => abort (value ++ ofString (": invalid number of " ++ what)) 1
  match name with
  | "c" => return { style with counts := true }
  | "d" => return { style with singles := false }
  | "u" => return { style with repeats := false }
  | "D" => return { style with every := true, singles := false }
  | "all-repeated" =>
    let value := if value.isEmpty then ofString "none" else value
    match ← choose "--all-repeated" [["none"], ["prepend"], ["separate"]] value with
    | "prepend" => return { style with every := true, singles := false, before := true }
    | "separate" => return { style with every := true, singles := false, between := true }
    | _ => return { style with every := true, singles := false }
  | "group" =>
    let value := if value.isEmpty then ofString "separate" else value
    let style := { style with every := true, groups := true }
    match ← choose "--group" [["prepend"], ["append"], ["separate"], ["both"]] value with
    | "prepend" => return { style with before := true }
    | "append" => return { style with after := true }
    | "both" => return { style with leads := true, after := true }
    | _ => return { style with between := true }
  | "i" => return { style with ignoresCase := true }
  | "f" => return { style with fields := ← number "fields to skip" }
  | "s" => return { style with chars := ← number "bytes to skip" }
  | "w" => return { style with width := some (← number "bytes to compare") }
  | "z" => return { style with mark := '\x00' }
  | _ => return style

def redirectOutput (name : Bytes) : Work Unit := do
  if name ≠ ['-'] then
    match ← ask (.openFile name .output 438) with
    | .error cause => abort (Quoted.nameIfNeeded name ++ ": " ++ causeText cause) 1
    | .ok fd =>
      let _ ← ask (.copy fd 1)
      close fd

def tool : Tool := make fun words => do
  let manual := (Manual.make "cdDif:s:uw:z" [("count", "c"), ("repeated", "d"),
    ("ignore-case", "i"), ("skip-fields", "f"), ("skip-chars", "s"), ("unique", "u"),
    ("check-chars", "w"), ("zero-terminated", "z")]).named
    [("all-repeated", .maybe), ("group", .maybe)]
  let (style, operands) ← manual.heed words ({} : Style) Style.set
  if let some extra := operands[2]? then misuse ("extra operand " ++ Quoted.operand extra) 1
  if style.groups && (style.counts || !style.singles || !style.repeats) then
    misuse "--group is mutually exclusive with -c/-d/-D/-u" 1
  if style.every && style.counts then
    misuse "printing all duplicated lines and repeat counts is meaningless" 1
  let name := operands.headD ['-']
  match ← openInput name with
  | .error cause => abort (Quoted.nameIfNeeded name ++ ": " ++ causeText cause) 1
  | .ok fd =>
    if let some output := operands[1]? then redirectOutput output
    let (state, feed) ← eachLine style.mark (line style) (true, []) { fd }
    if let some cause := feed.flaw then
      abort ("error reading " ++ Quoted.name name ++ ": " ++ causeText cause) 1
    if !state.2.isEmpty then
      let _ ← group style state.1 state.2.reverse

end Retrace.Tool.Uniq
