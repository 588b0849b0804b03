import Retrace.Tool.Amount
import Retrace.Tool.Options
import Retrace.Tool.Quoted

/-!
# Counting lines, words and bytes
-/

namespace Retrace.Tool

open Unix

structure Tally where
  (lines words bytes : Nat := 0)
  longest : Nat := 0

namespace Tally

def isSpace (c : Char) : Bool := c = ' ' || ('\t' ≤ c && c ≤ '\r')

def ofText (text : Bytes) : Tally :=
  let step := fun (tally, inWord, column) (c : Char) =>
    let tally : Tally := { tally with
      lines := if c = '\n' then tally.lines + 1 else tally.lines
      words := if !inWord && !isSpace c then tally.words + 1 else tally.words
      bytes := tally.bytes + 1 }
    let column : Nat :=
      if c = '\n' || c = '\r' || c = '\x0c' then 0
      else if c = '\t' then column / 8 * 8 + 8
      else if ' ' ≤ c && c ≤ '~' then column + 1
      else column
    ({ tally with longest := max tally.longest column }, !isSpace c, column)
  (text.foldl step ({}, false, 0)).1

def add (first second : Tally) : Tally :=
  { lines := first.lines + second.lines
    words := first.words + second.words
    bytes := first.bytes + second.bytes
    longest := max first.longest second.longest }

/-- The counts that are asked for, in the order in which they are always written. -/
def shown (tally : Tally) (wanted : List String) : List Nat :=
  (if wanted.contains "l" then [tally.lines] else []) ++
  (if wanted.contains "w" then [tally.words] else []) ++
  (if wanted.contains "m" then [tally.bytes] else []) ++
  (if wanted.contains "c" then [tally.bytes] else []) ++
  (if wanted.contains "L" then [tally.longest] else [])

/-- How wide the counts are written: as wide as the size of all files, or seven where a size
cannot be known. -/
def width (view : View) (names : List Bytes) (wanted : Nat) : Nat :=
  let status := fun name : Bytes =>
    if name = ['-'] || name.isEmpty then
      (view.files.lookup 0).map fun file => (view.openStatus file).2.body
    else view.body? name true
  if names.length = 1 && wanted = 1 then 1
  else
    let bodies := names.filterMap status
    let sizes := bodies.map fun body => match body with
      | .file content => content.size
      | _ => 0
    let least := if bodies.all fun body => match body with
        | .file _ => true
        | _ => false
      then 1 else 7
    max least (Text.decimal (sizes.foldl (· + ·) 0)).length

def line (width : Nat) (counts : List Nat) (name : Bytes) : Bytes :=
  joined ' ' (counts.map fun n => padLeft width (Text.decimal n)) ++
    (if name.isEmpty then [] else ' ' :: name) ++ ['\n']

end Tally

def wc : Tool := makeClosing { Closing.forgetful with input := some "-" } fun words => do
  let manual := (Manual.make "clmLw" [("bytes", "c"), ("chars", "m"), ("lines", "l"),
    ("words", "w"), ("max-line-length", "L")]).named
    [("files0-from", .always), ("total", .always)]
  let (options, names) ← manual.options words
  let wanted := options.map (·.1) |>.filter (["l", "w", "m", "c", "L"].contains ·)
  let wanted := if wanted.isEmpty then ["l", "w", "c"] else wanted.eraseDups
  let files := if names.isEmpty then [[]] else names
  let totals := (((options.filter (·.1 = "total")).getLast?).map (·.2)).getD (ofString "auto")
  let totals := ofString (← choose "--total" [["auto"], ["always"], ["only"], ["never"]] totals)
  let alone := totals = ofString "only"
  let view ← look
  let width := if alone then 1 else Tally.width view files wanted.length
  let step := fun (total : Tally) (name : Bytes) => do
    let shown := Quoted.nameIfNeeded name
    match ← openInput (if name.isEmpty && names.isEmpty then ['-'] else name) with
    | .error cause =>
      complain ((if name.isEmpty then ofString "''" else shown) ++ ofString ": " ++ causeText cause) 1
      return total
    | .ok fd =>
      let (text, feed) ← Feed.all { fd, block := 16384 }
      let tally := Tally.ofText text
      if let some cause := feed.flaw then
        let shown := if fd = 0 then ofString "'standard input'" else shown
        complain (shown ++ ": " ++ causeText cause) 1
      closeInput fd
      if !alone then out (Tally.line width (tally.shown wanted) name)
      return total.add tally
  let total ← files.foldlM step {}
  if alone then out (Tally.line width (total.shown wanted) [])
  else if totals = "always" || (totals = "auto" && 1 < names.length) then
    out (Tally.line width (total.shown wanted) "total")

end Retrace.Tool
