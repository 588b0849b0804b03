import Retrace.Text.Numeral
import Retrace.Tool.Diff.Script
import Retrace.Unix.Bytes

/-!
# Edit scripts in writing

The forms in which changes are written: as commands with the lines they are about,
or with lines around them.
-/

namespace Retrace.Tool.Diff

open Unix Text

structure Sides where
  first : Array Bytes
  second : Array Bytes

def markedLine (mark line : Bytes) : Bytes :=
  if line.getLast? = some '\n' then mark ++ line
  else mark ++ line ++ "\n\\ No newline at end of file\n"

def markedLines (mark : Bytes) (lines : Array Bytes) (start count : Nat) : Bytes :=
  (lines.extract start (start + count)).toList.flatMap (markedLine mark)

def rangeText (start count : Nat) : Bytes :=
  if 1 < count then decimal (start + 1) ++ ',' :: decimal (start + count)
  else decimal (start + count)

namespace Change

def letter (change : Change) : Char :=
  if change.deleted = 0 then 'a' else if change.inserted = 0 then 'd' else 'c'

def normal (sides : Sides) (mark : Bytes) (change : Change) : Bytes :=
  let deleted := markedLines ('<' :: mark) sides.first change.first change.deleted
  let inserted := markedLines ('>' :: mark) sides.second change.second change.inserted
  rangeText change.first change.deleted ++ change.letter :: rangeText change.second change.inserted ++
    '\n' :: deleted ++ (if change.letter = 'c' then ofString "---\n" else []) ++ inserted

end Change

/-! ## Changes with the lines around them -/

def hunks (context : Nat) : List Change → List (List Change)
  | [] => []
  | change :: rest =>
    match hunks context rest with
    | (next :: more) :: others =>
      if next.first - (change.first + change.deleted) ≤ 2 * context then
        (change :: next :: more) :: others
      else [change] :: (next :: more) :: others
    | others => [change] :: others

structure Extent where
  first : Nat
  firstCount : Nat
  second : Nat
  secondCount : Nat

def extent (sides : Sides) (context : Nat) (hunk : List Change) : Extent :=
  let start := hunk.headD ⟨0, 0, 0, 0⟩
  let stop := hunk.getLastD ⟨0, 0, 0, 0⟩
  let before := min context (min start.first start.second)
  let firstEnd := stop.first + stop.deleted
  let secondEnd := stop.second + stop.inserted
  let after := min context (min (sides.first.size - firstEnd) (sides.second.size - secondEnd))
  { first := start.first - before
    firstCount := firstEnd + after - (start.first - before)
    second := start.second - before
    secondCount := secondEnd + after - (start.second - before) }

/-- The lines of a hunk, those that are not changed once. `i` is the next line of the first file
and `stop` the one after the last. -/
def unifiedLines (sides : Sides) (stop : Nat) : Nat → List Change → Bytes
  | i, [] => markedLines [' '] sides.first i (stop - i)
  | i, change :: rest =>
    markedLines [' '] sides.first i (change.first - i) ++
      markedLines ['-'] sides.first change.first change.deleted ++
      markedLines ['+'] sides.second change.second change.inserted ++
      unifiedLines sides stop (change.first + change.deleted) rest

def unified (sides : Sides) (context : Nat) (hunk : List Change) : Bytes :=
  let shown := extent sides context hunk
  let range := fun (start count : Nat) =>
    if count = 1 then decimal (start + 1)
    else decimal (if count = 0 then start else start + 1) ++ ',' :: decimal count
  "@@ -" ++ range shown.first shown.firstCount ++ " +" ++
    range shown.second shown.secondCount ++ " @@\n" ++
    unifiedLines sides (shown.first + shown.firstCount) shown.first hunk

/-- The lines of one file in a hunk, given what is changed there: from where, how many lines, and
what stands before them. -/
def contextLines (lines : Array Bytes) (stop : Nat) :
    Nat → List (Nat × Nat × Bytes) → Bytes
  | i, [] => markedLines [' ', ' '] lines i (stop - i)
  | i, (start, count, mark) :: rest =>
    markedLines [' ', ' '] lines i (start - i) ++ markedLines mark lines start count ++
      contextLines lines stop (start + count) rest

def contextual (sides : Sides) (context : Nat) (hunk : List Change) : Bytes :=
  let shown := extent sides context hunk
  let mark := fun (change : Change) (alone : Char) => [if change.letter = 'c' then '!' else alone, ' ']
  let deletions := hunk.map fun change => (change.first, change.deleted, mark change '-')
  let insertions := hunk.map fun change => (change.second, change.inserted, mark change '+')
  "***************\n*** " ++ rangeText shown.first shown.firstCount ++ " ****\n" ++
    (if hunk.any (·.deleted ≠ 0) then
      contextLines sides.first (shown.first + shown.firstCount) shown.first deletions else []) ++
    "--- " ++ rangeText shown.second shown.secondCount ++ " ----\n" ++
    (if hunk.any (·.inserted ≠ 0) then
      contextLines sides.second (shown.second + shown.secondCount) shown.second insertions else [])

end Retrace.Tool.Diff
