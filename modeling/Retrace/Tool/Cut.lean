import Retrace.Tool.Amount
import Retrace.Tool.Options
import Retrace.Tool.Quoted

/-!
# Columns of lines

Taking bytes or fields out of lines, and putting lines side by side.
-/

namespace Retrace.Tool.Cut

open Unix

abbrev Span := Nat × Option Nat

inductive Flaw where
  | zero
  | decreasing
  | endless
  | notNumber (text : Bytes)
  | tooLarge (text : Bytes)

def Flaw.text (fields : Bool) : Flaw → Bytes
  | .zero =>
    ofString (if fields then "fields are numbered from 1"
      else "byte/character positions are numbered from 1")
  | .decreasing => "invalid decreasing range"
  | .endless => "invalid range with no endpoint: -"
  | .notNumber text =>
    ofString (if fields then "invalid field value " else "invalid byte/character position ") ++
      Quoted.operand text
  | .tooLarge text =>
    ofString (if fields then "field number " else "byte/character offset ") ++ Quoted.operand text ++
      " is too large"

def greatest : Nat := 18446744073709551614

def number (text : Bytes) : Except Flaw Nat :=
  match natural? text with
  | none => .error (.notNumber (text.dropWhile Char.isDigit))
  | some 0 => .error .zero
  | some n => if greatest < n then .error (.tooLarge text) else .ok n

def item (text : Bytes) : Except Flaw Span := do
  let low := text.takeWhile (· ≠ '-')
  match text.drop low.length with
  | [] =>
    let n ← number low
    return (n, some n)
  | _ :: high =>
    if low.isEmpty && high.isEmpty then throw .endless
    let first ← if low.isEmpty then pure 1 else number low
    if high.isEmpty then return (first, none)
    let last ← number high
    if last < first then throw .decreasing
    return (first, some last)

def items (text : Bytes) : List Bytes :=
  cutAt ',' (text.map fun c => if c = ' ' || c = '\t' then ',' else c)

def spans (text : Bytes) : Except Flaw (List Span) := (items text).mapM item

def isIn (spans : List Span) (n : Nat) : Bool :=
  spans.any fun (low, high) => low ≤ n && high.all (n ≤ ·)

/-- Whether a number begins a span of its own, once spans that overlap are joined. -/
def isStart (spans : List Span) (n : Nat) : Bool :=
  spans.any (·.1 = n) && !spans.any fun (low, high) => low < n && high.all (n ≤ ·)

structure Style where
  list : Option Bytes := none
  fields : Bool := false
  mark : Option Char := none
  gap : Option Bytes := none
  only : Bool := false
  (inverted zero : Bool := false)

def bytes (style : Style) (spans : List Span) (line : Bytes) : Bytes :=
  let wanted := fun n => isIn spans n != style.inverted
  let starts := fun n =>
    if style.inverted then wanted n && !wanted (n - 1) else isStart spans n
  let step := fun (taken, n) c =>
    if wanted n then
      let gap := if starts n && !taken.isEmpty then style.gap.getD [] else []
      (c :: gap.reverse ++ taken, n + 1)
    else (taken, n + 1)
  (line.foldl step (([] : Bytes), 1)).1.reverse

def fields (style : Style) (spans : List Span) (line : Bytes) : Option Bytes :=
  let mark := style.mark.getD '\t'
  if !line.contains mark then if style.only then none else some line
  else
    let parts := (cutAt mark line).zipIdx 1
    let kept := parts.filter fun (_, n) => isIn spans n != style.inverted
    some ((style.gap.getD [mark]).intercalate (kept.map (·.1)))

def manual : Manual :=
  (Manual.make "b:c:d:f:nsz" [("bytes", "b"), ("characters", "c"), ("fields", "f"), ("delimiter", "d"),
    ("only-delimited", "s"), ("zero-terminated", "z")]).named
    [("output-delimiter", .always), ("complement", .never)]

def Style.set (style : Style) (name : String) (value : Bytes) : Work Style := do
  let listed := fun fields => do
    if style.list.isSome then misuse "only one list may be specified" 1
    return { style with list := some value, fields }
  match name with
  | "b" => listed false
  | "c" => listed false
  | "f" => listed true
  | "d" =>
    match value with
    | [] => return { style with mark := some '\x00' }
    | [c] => return { style with mark := some c }
    | _ => misuse "the delimiter must be a single character" 1
  | "output-delimiter" =>
    return { style with gap := some (if value.isEmpty then ['\x00'] else value) }
  | "complement" => return { style with inverted := true }
  | "s" => return { style with only := true }
  | "z" => return { style with zero := true }
  | _ => return style

def tool : Tool := makeClosing (.naming "-") fun words => do
  let (style, names) ← manual.heed words ({} : Style) Style.set
  match style.list with
  | none => misuse "you must specify a list of bytes, characters, or fields" 1
  | some list =>
    if !style.fields && style.mark.isSome then
      misuse "an input delimiter may be specified only when operating on fields" 1
    if !style.fields && style.only then
      misuse "suppressing non-delimited lines makes sense\n\tonly when operating on fields" 1
    match spans list with
    | .error flaw => misuse (flaw.text style.fields) 1
    | .ok spans =>
      let ending := if style.zero then '\x00' else '\n'
      let take := fun (_ : Unit) line => do
        let line := unended ending line
        let taken := if style.fields then fields style spans line else some (bytes style spans line)
        if let some taken := taken then out (taken ++ [ending])
      eachInput (eachLine ending take) () (inputs names)

/-! ## Side by side -/

/-- The marks between columns, where a backslash begins the name of one; an empty mark is no
mark at all. -/
def marks : Bytes → List Bytes
  | [] => []
  | '\\' :: '0' :: rest => [] :: marks rest
  | '\\' :: 'n' :: rest => ['\n'] :: marks rest
  | '\\' :: 't' :: rest => ['\t'] :: marks rest
  | '\\' :: 'b' :: rest => ['\x08'] :: marks rest
  | '\\' :: 'f' :: rest => ['\x0c'] :: marks rest
  | '\\' :: 'r' :: rest => ['\r'] :: marks rest
  | '\\' :: 'v' :: rest => ['\x0b'] :: marks rest
  | '\\' :: c :: rest => [c] :: marks rest
  | c :: rest => [c] :: marks rest

def markAt (marks : List Bytes) (n : Nat) : Bytes :=
  (marks[n % marks.length]?).getD []

def serial (marks : List Bytes) (ending : Char) (names : List Bytes) : Work Unit := do
  let joinLine := fun (n : Nat) line => do
    if n ≠ 0 then out (markAt marks (n - 1))
    out (unended ending line)
    return n + 1
  for name in names do
    match ← openInput name with
    | .error cause => report name cause
    | .ok fd =>
      let (_, feed) ← eachLine ending joinLine 0 { fd }
      out [ending]
      if let some cause := feed.flaw then report name cause
      closeInput fd

/-- The next line of an input, where inputs that are the same one are read in turn. -/
def takeLine (ending : Char) (fd : Nat) (feeds : List Feed) :
    Work (Option Bytes × List Feed) := do
  match feeds.find? (·.fd = fd) with
  | none => return (none, feeds)
  | some feed =>
    let (line, feed) ← feed.line ending
    return (line, feeds.map fun other => if other.fd = fd then feed else other)

def row (marks : List Bytes) (ending : Char) (fds : List Nat) (feeds : List Feed) :
    Work (Option Bytes × List Feed) := do
  let step := fun (lines, feeds) fd => do
    let (line, feeds) ← takeLine ending fd feeds
    return (line :: lines, feeds)
  let (lines, feeds) ← fds.foldlM step ([], feeds)
  let lines := lines.reverse
  if lines.all Option.isNone then return (none, feeds)
  let columns := lines.zipIdx.flatMap fun (line, n) =>
    unended ending (line.getD []) ++ if n + 1 = lines.length then [] else markAt marks n
  return (some (columns ++ [ending]), feeds)

def rows (marks : List Bytes) (ending : Char) (fds : List Nat) :
    Nat → List Feed → Work (List Feed)
  | 0, feeds => return feeds
  | fuel + 1, feeds => do
    let (line, feeds) ← row marks ending fds feeds
    match line with
    | none => return feeds
    | some line =>
      out line
      rows marks ending fds fuel feeds

def paste : Tool := makeClosing (.naming "-") fun words => do
  let manual := (Manual.make "d:sz" [("delimiters", "d"), ("serial", "s"),
    ("zero-terminated", "z")]).named
  let (options, names) ← manual.options words
  let list := match options.reverse.lookup "d" with
    | some [] => ['\\', '0']
    | some list => list
    | none => ['\t']
  if list.getLast? = some '\\' && (list.reverse.takeWhile (· = '\\')).length % 2 = 1 then
    abort ("delimiter list ends with an unescaped backslash: " ++ list) 1
  let ending := if options.any (·.1 = "z") then '\x00' else '\n'
  let names := inputs names
  if options.any (·.1 = "s") then serial (marks list) ending names
  else
    let start := fun (fds : List Nat) name => do
      match ← openInput name with
      | .ok fd => return fd :: fds
      | .error cause => abort (Quoted.nameIfNeeded name ++ ": " ++ causeText cause) 1
    let fds := (← names.foldlM start []).reverse
    let feeds ← rows (marks list) ending fds Program.manySteps (fds.eraseDups.map fun fd => { fd })
    for feed in feeds do
      if let some cause := feed.flaw then
        match (fds.zip names).lookup feed.fd with
        | some name => report name cause
        | none => return

end Retrace.Tool.Cut
