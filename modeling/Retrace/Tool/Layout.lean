import Retrace.Tool.Cut
import Retrace.Tool.Grep

/-!
# The layout of lines

Folding long lines, tabs and blanks, numbers before lines, and lines or their
characters in the opposite order.
-/

namespace Retrace.Tool.Layout

open Unix

/-! ## Folding -/

def columnAfter (bytes : Bool) (column : Nat) (c : Char) : Nat :=
  if bytes then column + 1
  else if c = '\x08' then column - 1
  else if c = '\r' then 0
  else if c = '\t' then column + 8 - column % 8
  else column + 1

def columnOf (bytes : Bool) (text : Bytes) : Nat := text.foldl (columnAfter bytes) 0

/-- Folds a line. `held` is what has been read of the piece that is being filled, last first. -/
def fold (width : Nat) (bytes spaces : Bool) : Nat → Bytes → Bytes → Bytes
  | _, held, [] => held.reverse
  | 0, held, rest => held.reverse ++ rest
  | fuel + 1, held, c :: rest =>
    if c = '\n' then (c :: held).reverse ++ fold width bytes spaces fuel [] rest
    else if width < columnOf bytes (c :: held).reverse && !held.isEmpty then
      let tail := held.takeWhile fun c => c ≠ ' ' && c ≠ '\t'
      let piece := held.drop tail.length
      if spaces && !piece.isEmpty then
        piece.reverse ++ '\n' :: fold width bytes spaces fuel tail (c :: rest)
      else held.reverse ++ '\n' :: fold width bytes spaces fuel [] (c :: rest)
    else fold width bytes spaces fuel (c :: held) rest

/-- Letters of a manual for digits, with which a number can be written as an option. -/
def digitLetters : String := "0123456789"

def digitOptions (options : List (String × Bytes)) : Bytes :=
  options.flatMap fun (name, _) =>
    match name.toList with
    | [c] => if c.isDigit then [c] else []
    | _ => []

def folding : Tool := makeClosing (.naming "-") fun words => do
  let manual := (Manual.make ("bsw:" ++ digitLetters) [("bytes", "b"), ("spaces", "s"),
    ("width", "w")]).named
  let (options, names) ← manual.options words
  let written := match options.reverse.lookup "w" with
    | some value => value
    | none => digitOptions options
  let shown := "invalid number of columns: " ++ Quoted.operand written
  let width ← if written.isEmpty then pure 80 else match natural? written with
    | none => abort shown 1
    | some 0 => abort (shown ++ ": Numerical result out of range") 1
    | some n => pure n
  let has := fun name => options.any (·.1 = name)
  let take := fun (_ : Unit) (line : Bytes) =>
    out (fold width (has "b") (has "s") (3 * line.length + 3) [] line)
  eachInput (eachLine '\n' take) () (inputs names)

/-! ## Tabs -/

/-- Where tabs lead: to stops in a row, and behind the last of them to stops at one distance,
counted from a column. -/
structure Stops where
  stops : List Nat := []
  every : Nat := 8
  origin : Nat := 0

def Stops.after (stops : Stops) (column : Nat) : Option Nat :=
  match stops.stops.find? (column < ·) with
  | some stop => some stop
  | none =>
    if stops.every = 0 then none
    else some (stops.origin + ((column - stops.origin) / stops.every + 1) * stops.every)

def readStops (text : Bytes) : Work Stops := do
  let parts := (Cut.items text).filter (!·.isEmpty)
  let number := fun (part : Bytes) => do
    match natural? part with
    | some 0 => abort "tab size cannot be 0" 1
    | some n => pure n
    | none =>
      abort ("tab size contains invalid character(s): " ++
        Quoted.operand (part.dropWhile Char.isDigit)) 1
  let isMarked := fun part : Bytes => part.head? = some '/' || part.head? = some '+'
  if let some part := parts.dropLast.find? isMarked then
    abort (Quoted.operand (part.take 1) ++ " specifier only allowed with the last value") 1
  let (plain, marked) := parts.partition (!isMarked ·)
  let numbers ← plain.mapM number
  if (numbers.zip (numbers.drop 1)).any fun (a, b) => b ≤ a then
    abort "tab sizes must be ascending" 1
  match marked, numbers with
  | ('/' :: part) :: _, _ => return { stops := numbers, every := ← number part }
  | (_ :: part) :: _, _ =>
    return { stops := numbers, every := ← number part, origin := numbers.getLastD 0 }
  | _, [] => return {}
  | _, [n] => return { every := n }
  | _, _ => return { stops := numbers, every := 0 }

/-- Puts blanks in place of tabs; `leading` only before anything else. -/
def expand (stops : Stops) (leading : Bool) (line : Bytes) : Bytes :=
  let step := fun (taken, column, only) (c : Char) =>
    if c = '\t' && (only || !leading) then
      let next := (stops.after column).getD (column + 1)
      (List.replicate (next - column) ' ' :: taken, next, only)
    else if c = '\x08' then ([c] :: taken, column - 1, only && leading)
    else ([c] :: taken, column + 1, only && (c = ' ' || c = '\t'))
  (line.foldl step (([] : List Bytes), 0, true)).1.reverse.flatten

def stopsOf (options : List (String × Bytes)) : Work Stops :=
  match options.reverse.lookup "t" with
  | some value => readStops value
  | none =>
    let digits := digitOptions options
    if digits.isEmpty then return {} else readStops digits

def expanding : Tool := makeClosing (.naming "-") fun words => do
  let manual := (Manual.make ("it:" ++ digitLetters) [("tabs", "t"), ("initial", "i"), ("all", "a")]).named
    [("first-only", .never)]
  let (options, names) ← manual.options words
  let stops ← stopsOf options
  let take := fun (_ : Unit) line => out (expand stops (options.any (·.1 = "i")) line)
  eachInput (eachLine '\n' take) () (inputs names)

/-! ## The opposite order -/

def rev : Tool := make fun words => do
  let take := fun (_ : Unit) (line : Bytes) =>
    if line.getLast? = some '\n' then out (line.dropLast.reverse ++ ['\n']) else out line.reverse
  if words.isEmpty then
    let _ ← eachLine '\n' take () { fd := 0 }
  for name in words do
    match ← ask (.openFile name .input 0) with
    | .error cause =>
      complain ("cannot open " ++ name ++ ": " ++ causeText cause) 1
    | .ok fd =>
      let _ ← eachLine '\n' take () { fd }
      closeInput fd

def pieces (separator : Bytes) (before : Bool) : Nat → Bytes → Bytes → List Bytes
  | _, held, [] => if held.isEmpty then [] else [held.reverse]
  | 0, held, rest => [held.reverse ++ rest]
  | fuel + 1, held, c :: rest =>
    if separator.isPrefixOf (c :: rest) && !separator.isEmpty then
      let rest := (c :: rest).drop separator.length
      if before then
        (if held.isEmpty then [] else [held.reverse]) ++
          pieces separator before fuel separator.reverse rest
      else (held.reverse ++ separator) :: pieces separator before fuel [] rest
    else pieces separator before fuel (c :: held) rest

def tac : Tool := makeClosing (.naming "-") fun words => do
  let manual := (Manual.make "brs:" [("before", "b"), ("regex", "r"), ("separator", "s")]).named
  let (options, names) ← manual.options words
  let separator := match options.reverse.lookup "s" with
    | some [] => ['\x00']
    | some text => text
    | none => ['\n']
  for name in inputs names do
    match ← openInput name with
    | .error cause =>
      complain ("failed to open " ++ Quoted.name name ++ " for reading: " ++
        causeText cause) 1
    | .ok fd =>
      let (text, feed) ← Feed.all { fd, block := 8192 }
      match feed.flaw with
      | some .isDirectory =>
        complain (Quoted.nameIfNeeded name ++ ": read error: Invalid argument") 1
      | some cause =>
        let name := if name = ['-'] then ofString "standard input" else name
        complain (Quoted.nameIfNeeded name ++ ": read error: " ++ causeText cause) 1
      | none =>
        let lines := if separator = ['\n'] && !options.any (·.1 = "b") then linesOf '\n' text
          else pieces separator (options.any (·.1 = "b")) text.length [] text
        out lines.reverse.flatten
      closeInput fd

/-! ## Numbers -/

inductive Numbered where
  | all
  | filled
  | none
  | having (expression : Regex.Posix)

inductive Part where
  | header
  | body
  | footer

structure Numbering where
  header : Numbered := .none
  body : Numbered := .filled
  footer : Numbered := .none
  marks : Bytes := ['\\', ':']
  (step first : Int := 1)
  width : Nat := 6
  gap : Bytes := ['\t']
  left : Bool := false
  zeros : Bool := false
  /-- So many empty lines in a row count as one. -/
  joined : Nat := 1
  goesOn : Bool := false

structure Numbering.Place where
  part : Part := .body
  number : Int
  empty : Nat := 0

def Numbering.numeral (style : Numbering) (n : Int) : Bytes :=
  let digits := Text.decimal n.natAbs
  let sign := if n < 0 then ['-'] else []
  if style.left then padRight style.width (sign ++ digits)
  else if style.zeros then
    sign ++ List.replicate (style.width - digits.length - sign.length) '0' ++ digits
  else padLeft style.width (sign ++ digits)

def Numbering.part? (style : Numbering) (line : Bytes) : Option Part :=
  if style.marks.isEmpty then none
  else if line = style.marks ++ style.marks ++ style.marks then some .header
  else if line = style.marks ++ style.marks then some .body
  else if line = style.marks then some .footer
  else none

def Numbering.line (style : Numbering) (place : Numbering.Place) (written : Bytes) :
    Work Numbering.Place := do
  let text := unended '\n' written
  match style.part? text with
  | some part =>
    out ['\n']
    return { place with part, number := if style.goesOn then place.number else style.first }
  | none =>
    let numbered := match place.part with
      | .header => style.header
      | .body => style.body
      | .footer => style.footer
    let empty := if text.isEmpty then place.empty + 1 else 0
    let counts := match numbered with
      | .all => !text.isEmpty || style.joined ≤ empty
      | .filled => !text.isEmpty
      | .none => false
      | .having expression => (Grep.first? {} [expression] text.toArray 0).isSome
    if counts then
      out (style.numeral place.number ++ style.gap ++ text ++ ['\n'])
      return { place with number := place.number + style.step, empty := 0 }
    else
      out (List.replicate (style.width + style.gap.length) ' ' ++ text ++ ['\n'])
      return { place with empty := match numbered with | .all => empty | _ => 0 }

def Numbering.set (style : Numbering) (name : String) (value : Bytes) : Work Numbering := do
  let which := fun (part : String) => do
    match value with
    | ['a'] => pure Numbered.all
    | ['t'] => pure Numbered.filled
    | ['n'] => pure Numbered.none
    | 'p' :: pattern => do
      match Regex.Posix.read { lenient := true } pattern with
      | .ok (expression, _) => pure (Numbered.having expression)
      | .error flaw => abort (ofString flaw.text) 1
    | _ =>
      misuse (ofString ("invalid " ++ part ++ " numbering style: ") ++ Quoted.operand value) 1
  let whole := fun (text : String) (least : Nat) => do
    let shown := ofString (text ++ ": ") ++ Quoted.operand value
    match natural? value with
    | none => abort shown 1
    | some n =>
      if n < least then abort (shown ++ ": Numerical result out of range") 1
      pure n
  let signed := fun (text : String) => do
    match integer? value with
    | none => abort (ofString (text ++ ": ") ++ Quoted.operand value) 1
    | some n => pure n
  match name with
  | "b" => return { style with body := ← which "body" }
  | "h" => return { style with header := ← which "header" }
  | "f" => return { style with footer := ← which "footer" }
  | "d" =>
    return { style with marks := match value with | [c] => [c, ':'] | _ => value }
  | "i" => return { style with step := ← signed "invalid line number increment" }
  | "v" => return { style with first := ← signed "invalid starting line number" }
  | "l" => return { style with joined := ← whole "invalid line number of blank lines" 1 }
  | "w" => return { style with width := ← whole "invalid line number field width" 1 }
  | "s" => return { style with gap := value }
  | "p" => return { style with goesOn := true }
  | "n" =>
    match String.ofList value with
    | "ln" => return { style with left := true, zeros := false }
    | "rn" => return { style with left := false, zeros := false }
    | "rz" => return { style with left := false, zeros := true }
    | _ => misuse ("invalid line numbering format: " ++ Quoted.operand value) 1
  | _ => return style

def nl : Tool := makeClosing (.naming "-") fun words => do
  let manual := (Manual.make "b:d:f:h:i:l:n:ps:v:w:" [("body-numbering", "b"),
    ("section-delimiter", "d"), ("footer-numbering", "f"), ("header-numbering", "h"),
    ("line-increment", "i"), ("join-blank-lines", "l"), ("number-format", "n"), ("no-renumber", "p"),
    ("number-separator", "s"), ("starting-line-number", "v"), ("number-width", "w")]).named
  let (style, names) ← manual.heed words ({} : Numbering) Numbering.set
  let _ ← eachInput (eachLine '\n' style.line) { number := style.first } (inputs names)

end Retrace.Tool.Layout
