import Retrace.Regex.Posix
import Retrace.Shell.Pattern
import Retrace.Tool.Calendar
import Retrace.Tool.Diff.Printer
import Retrace.Tool.Paths

/-!
# Comparing line by line

Tells what lines have to change to make one file the same as another, or what files
in two directories differ.
-/

namespace Retrace.Tool.Diff

open Unix Regex Text

inductive Layout where
  | normal
  | context
  | unified
  deriving DecidableEq, Repr

structure Style where
  layout : Option Layout := none
  context : Option Nat := none
  (brief tellsSame recursive newFile text ignoresCase ignoresGaps ignoresBlanks ignoresTrailing
    ignoresEmpty ignoresReturn : Bool := false)
  ignored : Option Posix := none
  (labels excluded : List Bytes := [])
  follows : Bool := true
  tabbed : Bool := false
  given : List Bytes := []

variable (style : Style)

def Style.shown : Layout := style.layout.getD .normal

/-! ## Lines -/

def isGap (c : Char) : Bool := c = ' ' || ('\t' ≤ c && c ≤ '\r')

def squeezed : Bytes → Bytes
  | [] => []
  | c :: rest =>
    if isGap c then
      match squeezed rest with
      | ' ' :: more => ' ' :: more
      | more => ' ' :: more
    else c :: squeezed rest

def Style.key (line : Bytes) : Bytes :=
  let line := if style.ignoresReturn && line.drop (line.length - 2) = ['\r', '\n'] then
    line.take (line.length - 2) ++ ['\n'] else line
  let line := if style.ignoresCase then line.map Char.toLower else line
  if style.ignoresBlanks then line.filter fun c => !isGap c
  else if style.ignoresGaps then
    let line := squeezed line
    if line.getLast? = some ' ' then line.dropLast else line
  else if style.ignoresTrailing then (line.reverse.dropWhile isGap).reverse
  else line

def numbered (sides : Sides) : Array Nat × Array Nat :=
  let step := fun (known, numbers) line =>
    let key := style.key line
    match known[key]? with
    | some number => (known, numbers.push number)
    | none => (known.insert key known.size, numbers.push known.size)
  let (known, first) := sides.first.foldl step ((∅ : Std.HashMap Bytes Nat), (#[] : Array Nat))
  let (_, second) := sides.second.foldl step (known, #[])
  (first, second)

def Style.ignores (sides : Sides) (change : Change) : Bool :=
  (style.ignoresEmpty || style.ignored.isSome) &&
  ((sides.first.extract change.first (change.first + change.deleted)).toList ++
    (sides.second.extract change.second (change.second + change.inserted)).toList).all fun line =>
    let text := unended '\n' line
    (style.ignoresEmpty && (style.key text).isEmpty) ||
      style.ignored.any fun expression => (expression.find? text.toArray 0).isSome

/-! ## Two files -/

structure Side where
  name : Bytes
  inode : Nat
  content : Bytes
  changed : Nat

def heading (mark : String) (side : Side) (label : Option Bytes) : Bytes :=
  let time := Calendar.format side.changed
    (if style.shown = .context then "%a %b %e %H:%M:%S %Y" else "%Y-%m-%d %H:%M:%S.%N %z")
  ofString mark ++ ' ' :: (match label with
    | some label => label
    | none => side.name ++ '\t' :: time) ++ ['\n']

def quotedName (name : Bytes) : Bytes :=
  if name.any (fun c => c = ' ' || c = '"' || c = '\\') then
    '"' :: name.flatMap (fun c => if c = '"' || c = '\\' then ['\\', c] else [c]) ++ ['"']
  else name

def Style.write (first second : Side) (sides : Sides) (changes : List Change) :
    Bytes :=
  let context := style.context.getD 3
  let counting := fun (hunk : List Change) => !hunk.all (style.ignores sides)
  match style.shown with
  | .normal =>
    let mark := if style.tabbed then ['\t'] else [' ']
    (changes.filter fun change => !style.ignores sides change).flatMap (Change.normal sides mark)
  | .context =>
    heading style "***" first style.labels.head? ++ heading style "---" second style.labels[1]? ++
      ((hunks context changes).filter counting).flatMap (contextual sides context)
  | .unified =>
    heading style "---" first style.labels.head? ++ heading style "+++" second style.labels[1]? ++
      ((hunks context changes).filter counting).flatMap (unified sides context)

def isBinary (content : Bytes) : Bool := (content.take 4096).contains '\x00'

/-- Compares two files. `inside` tells that they are in directories that are compared. -/
def compareSides (inside : Bool) (first second : Side) : Work Nat := do
  let label := fun (side : Side) (n : Nat) => (style.labels[n]?).getD side.name
  let names := label first 0 ++ " and " ++ label second 1
  let same : Work Nat := do
    if style.tellsSame then out ("Files " ++ names ++ " are identical\n")
    return 0
  let brief := out ("Files " ++ names ++ " differ\n")
  if first.content = second.content then
    same
  else if !style.text && (isBinary first.content || isBinary second.content) then
    if style.brief then brief
    else out ("Binary files " ++ names ++ " differ\n")
    return 1
  else
    let sides : Sides := ⟨(linesOf '\n' first.content).toArray, (linesOf '\n' second.content).toArray⟩
    let (a, b) := numbered style sides
    let horizon := match style.shown with
      | .context => style.context.getD 3
      | .unified => style.context.getD 3
      | _ => 0
    let changes := Script.trimmed a b horizon
    let differs := changes.any fun change => !style.ignores sides change
    if style.brief then
      if differs then
        brief
        return 1
      else same
    else
      if inside && differs then
        out ("diff" ++ style.given.flatMap (fun word => ' ' :: quotedName word) ++
          ' ' :: quotedName first.name ++ ' ' :: quotedName second.name ++ ['\n'])
      if differs then
        out (style.write first second sides changes)
        return 1
      else same

def readSide (name : Bytes) : Work (Option Side) := do
  let view ← look
  let refuse := fun (cause : OsError) => do
    warn (name ++ ": " ++ causeText cause)
    return (none : Option Side)
  if name = ['-'] then
    let (content, feed) ← Feed.all { fd := 0 }
    match feed.flaw with
    | some cause => return ← refuse cause
    | none => return some { name, inode := 0, content, changed := view.now }
  match view.status name true with
  | .error .notFound =>
    if style.newFile then return some { name, inode := 0, content := [], changed := 0 }
    else refuse .notFound
  | .error cause => refuse cause
  | .ok (inode, held) =>
    match ← ask (.openFile name .input 0) with
    | .error cause => refuse cause
    | .ok fd =>
      let (content, feed) ← Feed.all { fd }
      close fd
      match feed.flaw with
      | some cause => refuse cause
      | none => return some { name, inode, content, changed := held.changed }

def compareFiles (inside : Bool) (first second : Bytes) : Work Nat := do
  let view ← look
  let inode := fun (name : Bytes) => (view.status name true).toOption.map (·.1)
  let isSame := (first = ['-'] && second = ['-']) || (inode first).isSome && inode first = inode second
  if isSame then
    if style.tellsSame then
      out ("Files " ++ first ++ " and " ++ second ++ " are identical\n")
    return 0
  let a ← readSide { style with newFile := style.newFile && view.pathExists second true } first
  let b ← readSide { style with newFile := style.newFile && view.pathExists first true } second
  match a, b with
  | some a, some b => compareSides style inside a b
  | _, _ => return 2

/-! ## Directories -/

def kindText (held : Inode) : String :=
  match held.body with
  | .dir .. => "directory"
  | .file content => if content.isEmpty then "regular empty file" else "regular file"
  | .link _ => "symbolic link"
  | .device _ => "character special file"
  | .pipe => "fifo"

def namesIn (view : View) (path : Bytes) : List Bytes :=
  match view.volume.find view.cwd path true with
  | .ok inode => ((view.volume.entries inode).map (·.1)).filter fun name =>
      !style.excluded.any fun pattern => Shell.Glob.fits (Shell.Glob.ofText pattern) name
  | .error _ => []

def compareEntry (directories : Bytes → Bytes → Work Nat)
    (first second name : Bytes) : Work Nat := do
  let view ← look
  let a := Exec.under first name
  let b := Exec.under second name
  let only := fun (directory : Bytes) => do
    out ("Only in " ++ directory ++ ": " ++ name ++ ['\n'])
    return 1
  let isDir := fun (held : Inode) => match held.body with
    | .dir .. => true
    | _ => false
  let follow := style.follows
  match (view.status a follow).toOption, (view.status b follow).toOption with
  | some (_, heldA), some (_, heldB) =>
    if isDir heldA && isDir heldB then
      if style.recursive then directories a b
      else
        out ("Common subdirectories: " ++ a ++ " and " ++ b ++ ['\n'])
        return 0
    else if isDir heldA || isDir heldB then
      out ("File " ++ a ++ ofString (" is a " ++ kindText heldA ++ " while file ") ++ b ++
        ofString (" is a " ++ kindText heldB ++ "\n"))
      return 1
    else compareFiles style true a b
  | some (_, held), none =>
    if style.newFile then
      if isDir held then (if style.recursive then directories a b else only first)
      else compareFiles style true a b
    else only first
  | none, some (_, held) =>
    if style.newFile then
      if isDir held then (if style.recursive then directories a b else only second)
      else compareFiles style true a b
    else only second
  | none, none => compareFiles style true a b

def compareDirs (style : Style) : Nat → Bytes → Bytes → Work Nat
  | 0, _, _ => return 0
  | depth + 1, first, second => do
    let view ← look
    let names := (namesIn style view first ++ namesIn style view second).eraseDups.mergeSort
      fun a b => !decide (b < a)
    names.foldlM (fun status name => do
      return max status (← compareEntry style (compareDirs style depth) first second name)) 0

/-! ## The tool -/

def Style.lay (layout : Layout) : Work Style := do
  if style.layout.any (· ≠ layout) then misuseSigned "conflicting output style options" 2
  return { style with layout := some layout }

def Style.around (text : Bytes) : Work Style := do
  match natural? text with
  | some n => return { style with context := some (max n (style.context.getD 0)) }
  | none => misuseSigned ("invalid context length '" ++ text ++ ['\'']) 2

def Style.set (name : String) (value : Bytes) : Work Style := do
  match name with
  | "a" => return { style with text := true }
  | "b" => return { style with ignoresGaps := true }
  | "B" => return { style with ignoresEmpty := true }
  | "c" => Style.lay { style with context := some (max 3 (style.context.getD 3)) } .context
  | "C" => (← style.around value).lay .context
  | "context" =>
    (← if value.isEmpty then pure style else style.around value).lay .context
  | "i" => return { style with ignoresCase := true }
  | "I" =>
    match Posix.read { lenient := true } value with
    | .ok (expression, _) => return { style with ignored := some expression }
    | .error flaw => abort (value ++ ofString (": " ++ flaw.text)) 2
  | "L" => return { style with labels := style.labels ++ [value] }
  | "normal" => style.lay .normal
  | "N" => return { style with newFile := true }
  | "p" => return { style with layout := some (style.layout.getD .context) }
  | "q" => return { style with brief := true }
  | "r" => return { style with recursive := true }
  | "s" => return { style with tellsSame := true }
  | "T" => return { style with tabbed := true }
  | "u" => style.lay .unified
  | "U" => (← style.around value).lay .unified
  | "unified" =>
    (← if value.isEmpty then pure style else style.around value).lay .unified
  | "w" => return { style with ignoresBlanks := true }
  | "x" => return { style with excluded := style.excluded ++ [value] }
  | "Z" => return { style with ignoresTrailing := true }
  | "strip-trailing-cr" => return { style with ignoresReturn := true }
  | "no-dereference" => return { style with follows := false }
  | _ =>
    match name.toList with
    | [c] =>
      if c.isDigit then
        let digits := (style.context.map decimal).getD [] ++ [c]
        return { style with context := some (digitsValue digits) }
      else return style
    | _ => return style

def manual : Manual :=
  { (Manual.make "0123456789abBcC:dD:eEfF:hHiI:lL:nNpPqrsS:tTuU:vwW:x:X:yZ" [("text", "a"),
    ("ignore-space-change", "b"), ("ignore-blank-lines", "B"), ("minimal", "d"), ("ifdef", "D"), ("ed", "e"),
    ("ignore-tab-expansion", "E"), ("forward-ed", "f"), ("show-function-line", "F"),
    ("speed-large-files", "H"), ("ignore-case", "i"), ("ignore-matching-lines", "I"), ("paginate", "l"),
    ("label", "L"), ("rcs", "n"), ("new-file", "N"), ("show-c-function", "p"),
    ("unidirectional-new-file", "P"), ("brief", "q"), ("recursive", "r"), ("report-identical-files", "s"),
    ("starting-file", "S"), ("expand-tabs", "t"), ("initial-tab", "T"), ("ignore-all-space", "w"),
    ("width", "W"), ("exclude", "x"), ("exclude-from", "X"), ("side-by-side", "y"),
    ("ignore-trailing-space", "Z"), ("version", "v")] 2).named
    [("context", .maybe), ("unified", .maybe), ("normal", .never), ("strip-trailing-cr", .never),
      ("suppress-common-lines", .never), ("left-column", .never), ("no-dereference", .never),
      ("color", .maybe), ("palette", .always), ("tabsize", .always), ("horizon-lines", .always),
      ("help", .never)] [] with signs := true }

def optionWords : List Bytes → List Bytes → List Bytes
  | words, [] => words
  | [], _ => []
  | word :: words, operand :: operands =>
    if word = operand then optionWords words operands else word :: optionWords words (operand :: operands)

def closing : Closing :=
  { status := 2, texts := fun cause _ => ["standard output: " ++ cause.text] }

def tool : Tool := makeClosing closing fun words => do
  let (style, operands) ← manual.heed words ({} : Style) Style.set
  let style := { style with given := (optionWords words.reverse operands.reverse).reverse }
  match operands with
  | [first, second] =>
    let view ← look
    let isDir := fun (name : Bytes) => name ≠ ['-'] && view.isDir name
    let missing := [first, second].filter fun name => name ≠ ['-'] && !view.pathExists name true
    let under := fun (directory name : Bytes) => Exec.under directory (Paths.base name)
    let status ←
      if (!style.newFile && !missing.isEmpty) || missing.length = 2 then do
        for name in missing do
          warn (name ++ ": " ++ causeText .notFound)
        pure 2
      else if isDir first && isDir second then compareDirs style 1000 first second
      else if isDir first || isDir second then
        if first = ['-'] || second = ['-'] then
          abort "cannot compare '-' to a directory" 2
        else if isDir first then compareFiles style false (under first second) second
        else compareFiles style false first (under second first)
      else compareFiles style false first second
    fail status
  | [] => misuseSigned ("missing operand after '" ++ (← get).name ++ ['\'']) 2
  | [only] => misuseSigned ("missing operand after '" ++ only ++ ['\'']) 2
  | _ :: _ :: extra :: _ => misuseSigned ("extra operand '" ++ extra ++ ['\'']) 2

end Retrace.Tool.Diff
