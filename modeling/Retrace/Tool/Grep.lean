import Retrace.Regex.Posix
import Retrace.Shell.Pattern
import Retrace.Tool.Amount
import Retrace.Tool.Options
import Retrace.Tool.Quoted

/-!
# Searching for lines

Lines that hold a match of one of some expressions, with what stands around them.
-/

namespace Retrace.Tool.Grep

open Unix Regex Text

inductive Kind where
  | basic
  | extended
  | fixed
  deriving DecidableEq

structure Style where
  kind : Option Kind := none
  patterns : List Bytes := []
  (hasPatterns ignoresCase inverted words lines counts : Bool := false)
  names : Option Bool := none
  (quiet silent only numbered offsets : Bool := false)
  named : Option Bool := none
  (most before after around : Option Nat := none)
  (recursive followsLinks skipsDirs asText : Bool := false)
  mark : Char := '\n'
  nameEnd : Bool := false
  (includes excludes excludedDirs : List Bytes := [])
  between : Option Bytes := some ['-', '-']

def usage : String :=
  "Usage: grep [OPTION]... PATTERNS [FILE]...\nTry 'grep --help' for more information.\n"

def manual : Manual :=
  { (Manual.make "0123456789A:B:C:EFGPHILTUVX:abcd:D:e:f:hiLlm:noqRrsuvwxyZz"
      [("basic-regexp", "G"), ("extended-regexp", "E"), ("fixed-strings", "F"), ("perl-regexp", "P"),
        ("after-context", "A"), ("before-context", "B"), ("context", "C"), ("byte-offset", "b"),
        ("count", "c"), ("directories", "d"), ("devices", "D"), ("regexp", "e"), ("file", "f"),
        ("files-with-matches", "l"), ("files-without-match", "L"), ("ignore-case", "i"),
        ("initial-tab", "T"), ("invert-match", "v"), ("line-number", "n"), ("line-regexp", "x"),
        ("max-count", "m"), ("no-filename", "h"), ("no-messages", "s"), ("null", "Z"),
        ("null-data", "z"), ("only-matching", "o"), ("quiet", "q"), ("silent", "q"), ("recursive", "r"),
        ("dereference-recursive", "R"), ("text", "a"), ("with-filename", "H"), ("word-regexp", "w")] 2).named
      [("include", .always), ("exclude", .always), ("exclude-dir", .always), ("exclude-from", .always),
        ("color", .maybe), ("colour", .maybe), ("label", .always), ("line-buffered", .never),
        ("binary-files", .always), ("group-separator", .always), ("no-group-separator", .never), ("no-ignore-case", .never)]
    with usage }

def number? (value : Bytes) (complaint : Bytes) : Work Nat := do
  match natural? value with
  | some n => return n
  | none => abort complaint 2

variable (style : Style)

def addPatterns (text : Bytes) : Style :=
  { style with patterns := style.patterns ++ cutAt '\n' text, hasPatterns := true }

def Style.setKind (kind : Kind) : Work Style := do
  if style.kind.any (· ≠ kind) then abort "conflicting matchers specified" 2
  return { style with kind := some kind }

def Style.set (name : String) (value : Bytes) : Work Style := do
  let length := number? value (value ++ ": invalid context length argument")
  match name with
  | "E" => style.setKind .extended
  | "P" => style.setKind .extended
  | "F" => style.setKind .fixed
  | "G" => style.setKind .basic
  | "e" => return addPatterns style value
  | "f" =>
    match ← openInput value with
    | .error cause => abort (value ++ ": " ++ causeText cause) 2
    | .ok fd =>
      let (text, _) ← Feed.all { fd }
      closeInput fd
      if text.isEmpty then return { style with hasPatterns := true }
      return addPatterns style (unended '\n' text)
  | "i" => return { style with ignoresCase := true }
  | "y" => return { style with ignoresCase := true }
  | "no-ignore-case" => return { style with ignoresCase := false }
  | "v" => return { style with inverted := true }
  | "w" => return { style with words := true }
  | "x" => return { style with lines := true }
  | "c" => return { style with counts := true }
  | "l" => return { style with names := some true }
  | "L" => return { style with names := some false }
  | "q" => return { style with quiet := true }
  | "s" => return { style with silent := true }
  | "o" => return { style with only := true }
  | "n" => return { style with numbered := true }
  | "b" => return { style with offsets := true }
  | "H" => return { style with named := some true }
  | "h" => return { style with named := some false }
  | "m" => return { style with most := some (← number? value "invalid max count") }
  | "A" => return { style with after := some (← length) }
  | "B" => return { style with before := some (← length) }
  | "C" => return { style with around := some (← length) }
  | "r" => return { style with recursive := true }
  | "R" => return { style with recursive := true, followsLinks := true }
  | "d" =>
    match String.ofList value with
    | "recurse" => return { style with recursive := true }
    | "skip" => return { style with skipsDirs := true }
    | _ => return style
  | "a" => return { style with asText := true }
  | "binary-files" => return { style with asText := value = "text" }
  | "z" => return { style with mark := '\x00' }
  | "Z" => return { style with nameEnd := true }
  | "include" => return { style with includes := value :: style.includes }
  | "exclude" => return { style with excludes := value :: style.excludes }
  | "group-separator" => return { style with between := some value }
  | "no-group-separator" => return { style with between := none }
  | "exclude-dir" => return { style with excludedDirs := value :: style.excludedDirs }
  | _ =>
    match name.toList with
    | [c] =>
      if c.isDigit then
        return { style with around := some (style.around.getD 0 * 10 + (c.toNat - 48)) }
      else return style
    | _ => return style

def Kind.signs : Posix.Dialect := { extended := true, lenient := true, guardsClasses := true }

/-- The repetitions of an extended pattern that repeat nothing; `start` where nothing has been
read but an anchor. -/
def idleSigns : Nat → Bool → Bytes → List String
  | 0, _, _ => []
  | fuel + 1, start, text =>
    let idle := fun (sign : String) (rest : Bytes) =>
      if start then sign :: idleSigns fuel start rest else idleSigns fuel start rest
    match Posix.sign Kind.signs true text with
    | .ok (some (found, rest)) =>
      match found with
      | .star => idle "*" rest
      | .plus => idle "+" rest
      | .query => idle "?" rest
      | .brace =>
        match Posix.bounds Kind.signs rest with
        | .ok (some (_, _, rest)) => idle "\x7b...\x7d" rest
        | _ => idleSigns fuel false rest
      | .opens => idleSigns fuel true rest
      | .bar => idleSigns fuel true rest
      | .look _ => idleSigns fuel start rest
      | _ => idleSigns fuel false rest
    | _ => []

def expression (pattern : Bytes) : Except Posix.Flaw Posix := do
  let plain : Posix ← match style.kind.getD .basic with
    | .fixed => pure (Posix.seqOf (pattern.map fun c => .one (.single c)))
    | .basic => do pure (← Posix.read { lenient := true, guardsClasses := true } pattern).1
    | .extended => do pure (← Posix.read Kind.signs pattern).1
  return if style.ignoresCase then plain.folded else plain

def isWordChar (c : Option Char) : Bool := c.any fun c => c.isAlphanum || c = '_'

/-- The longest match at a place that is a word or the line, if that is wanted. -/
def matchAt? (style : Style) (expression : Posix) (text : Array Char) (start : Nat) : Option Nat :=
  if !style.words && !style.lines then (expression.matchAt? text start).map (·.stop)
  else if style.lines && start ≠ 0 then none
  else
    let stops := ((Posix.lead text expression { place := start }).map (·.place)).mergeSort (· ≥ ·)
    stops.find? fun stop =>
      if style.lines then stop = text.size
      else !isWordChar (if start = 0 then none else text[start - 1]?) && !isWordChar text[stop]?

def find? (style : Style) (expressions : List Posix) (text : Array Char) :
    Nat → Nat → Option (Nat × Nat)
  | 0, _ => none
  | fuel + 1, start =>
    let stops := expressions.filterMap fun expression =>
      let possible := match expression.firsts with
        | some set => (text[start]?).any set.mem
        | none => true
      if possible then matchAt? style expression text start else none
    match stops with
    | [] => find? style expressions text fuel (start + 1)
    | stop :: more => some (start, more.foldl max stop)

def first? (expressions : List Posix) (text : Array Char) (start : Nat) :
    Option (Nat × Nat) :=
  find? style expressions text (text.size + 1 - start) start

def matches' (style : Style) (expressions : List Posix) (text : Array Char) :
    Nat → Nat → List (Nat × Nat)
  | 0, _ => []
  | fuel + 1, start =>
    match first? style expressions text start with
    | none => []
    | some (low, high) =>
      if high ≤ low then
        if text.size ≤ low then [] else matches' style expressions text fuel (low + 1)
      else (low, high) :: matches' style expressions text fuel high

structure Search where
  (number offset selected : Nat := 0)
  /-- Lines before the next one that have not been written, last first, each with its number and
  offset. -/
  held : List (Nat × Nat × Bytes) := []
  trailing : Nat := 0
  last : Option Nat := none
  (follows binary : Bool := false)

def show' (name : Option Bytes) (gap : Char) (number offset : Nat)
    (text : Bytes) : Work Unit := do
  let part := fun (text : Bytes) => text ++ [gap]
  let named := match name with
    | some name => if style.nameEnd then name ++ ['\x00'] else part name
    | none => []
  out (named ++ (if style.numbered then part (decimal number) else []) ++
    (if style.offsets then part (decimal offset) else []) ++ text ++ [style.mark])

def separate (search : Search) (number : Nat) : Work Unit := do
  let context := (style.before.or style.around).isSome || (style.after.or style.around).isSome
  let apart := match search.last with
    | some last => last + 1 < number
    | none => search.follows
  if context && apart then
    if let some text := style.between then out (text ++ ['\n'])

def Style.writes : Bool := !style.quiet && !style.counts && style.names.isNone

/-- Writes a selected line, the lines before it that are wanted, and notes how many after it are. -/
def select (expressions : List Posix) (name : Option Bytes) (search : Search)
    (line : Bytes) : Work Search := do
  let number := search.number
  if !style.writes then return { search with selected := search.selected + 1 }
  if search.binary && !style.asText then return { search with selected := search.selected + 1 }
  let start := match search.held.getLast? with
    | some (first, _) => first
    | none => number
  separate style search start
  if !style.only then
    for (number, offset, text) in search.held.reverse do
      show' style name '-' number offset text
  if style.only then
    if !style.inverted then
      let text := line.toArray
      for (low, high) in matches' style expressions text (text.size + 1) 0 do
        show' style name ':' number (search.offset + low) (text.extract low high).toList
  else show' style name ':' number search.offset line
  return { search with
    selected := search.selected + 1, held := [], last := some number
    trailing := (style.after.or style.around).getD 0 }

def lines (style : Style) (expressions : List Posix) (name : Option Bytes) :
    Nat → Search → Feed → Work (Search × Feed)
  | 0, search, feed => return (search, feed)
  | fuel + 1, search, feed => do
    let enough := style.most.any (· ≤ search.selected) ||
      ((style.quiet || style.names.isSome) && 0 < search.selected) ||
      (search.binary && !style.asText && style.writes && 0 < search.selected)
    if enough && (search.trailing = 0 || !style.writes) then return (search, feed)
    let (line, feed) ← feed.line style.mark
    match line with
    | none => return (search, feed)
    | some written =>
      let text := unended style.mark written
      let search := { search with
        number := search.number + 1
        binary := search.binary || (style.mark ≠ '\x00' && text.contains '\x00') }
      let found := !enough && ((first? style expressions text.toArray 0).isSome != style.inverted)
      let search ←
        if found then select style expressions name search text
        else if enough && (first? style expressions text.toArray 0).isSome != style.inverted then
          pure { search with trailing := 0 }
        else if 0 < search.trailing && style.writes then do
          if !style.only then show' style name '-' search.number search.offset text
          pure { search with trailing := search.trailing - 1, last := some search.number }
        else
          let kept := (style.before.or style.around).getD 0
          pure { search with held := ((search.number, search.offset, text) :: search.held).take kept }
      lines style expressions name fuel { search with offset := search.offset + written.length } feed

structure Outcome where
  (selected flawed wrote : Bool := false)

def blame (name : Bytes) (cause : OsError) (outcome : Outcome) : Work Outcome := do
  if !style.silent then warn (name ++ ": " ++ causeText cause)
  return { outcome with flawed := true }

def search (style : Style) (expressions : List Posix) (shown : Option Bytes)
    (name : Bytes) (fd : Nat) (outcome : Outcome) : Work Outcome := do
  let (search, feed) ←
    lines style expressions shown Program.manySteps { follows := outcome.wrote } { fd, block := 98304 }
  let outcome ← match feed.flaw with
    | some cause => blame style name cause outcome
    | none => pure outcome
  if style.most.isSome then feed.giveBack
  let any := 0 < search.selected
  let end' := if style.nameEnd then ['\x00'] else ['\n']
  if style.quiet then pure ()
  else if let some wanted := style.names then
    if any = wanted then out (name ++ end')
  else if style.counts then
    let named := match shown with
      | some name => name ++ if style.nameEnd then ['\x00'] else [':']
      | none => []
    out (named ++ decimal search.selected ++ ['\n'])
  else if any && search.binary && !style.asText then
    out ((← get).name ++ ": " ++ name ++ ": binary file matches\n")
  return { outcome with
    selected := outcome.selected || any, wrote := outcome.wrote || search.last.isSome }

def fitsAny (patterns : List Bytes) (name : Bytes) : Bool :=
  patterns.any fun pattern => Shell.Glob.fits (Shell.Glob.ofText pattern) name

def Style.admits (name : Bytes) : Bool :=
  (style.includes.isEmpty || fitsAny style.includes name) && !fitsAny style.excludes name

def searchPath (style : Style) (expressions : List Posix) (named : Bool) :
    Nat → Bool → Bytes → Outcome → Work Outcome
  | 0, _, _, outcome => return outcome
  | depth + 1, top, path, outcome => do
    if style.quiet && outcome.selected then return outcome
    let view ← look
    let isStandard := path = ['-'] && top
    let inode := match view.status path true with
      | .ok (inode, _) => inode
      | .error _ => 0
    let isDir := !isStandard && view.isDir path
    if isDir && style.skipsDirs then return outcome
    else if top && !isDir && !isStandard && view.pathExists path true && !style.admits path then
      return outcome
    else if isDir && style.recursive then
      let step := fun (outcome : Outcome) (entry : Bytes × Nat) => do
        let isLink := match (view.volume.get? entry.2).map Inode.body with
          | some (.link _) => true
          | _ => false
        let child := if path.isEmpty then entry.1 else Exec.under path entry.1
        let childDir := view.volume.isDir entry.2
        if isLink && !style.followsLinks then return outcome
        if childDir && fitsAny style.excludedDirs entry.1 then return outcome
        if !childDir && !style.admits entry.1 then return outcome
        searchPath style expressions named depth false child outcome
      (view.volume.entries inode).foldlM step outcome
    else
      let name := if isStandard then ofString "(standard input)" else path
      match ← openInput path with
      | .error cause => blame style name cause outcome
      | .ok fd =>
        let outcome ← search style expressions (if named then some name else none) name fd outcome
        closeInput fd
        return outcome

def searchHere (expressions : List Posix) (named : Bool) (outcome : Outcome) :
    Work Outcome := do
  let view ← look
  let step := fun (outcome : Outcome) (entry : Bytes × Nat) => do
    let isDir := view.volume.isDir entry.2
    let isLink := match (view.volume.get? entry.2).map Inode.body with
      | some (.link _) => true
      | _ => false
    if (isLink && !style.followsLinks) || (isDir && fitsAny style.excludedDirs entry.1) ||
        (!isDir && !style.admits entry.1) then return outcome
    searchPath style expressions named 1000 false entry.1 outcome
  (view.volume.entries view.cwd).foldlM step outcome

def tool (start : Style) : Tool := makeClosing (.failing 2) fun words => do
  let (style, operands) ← manual.heed words start Style.set
  let (style, names) ←
    if style.hasPatterns then pure (style, operands)
    else match operands with
      | pattern :: names => pure (addPatterns style pattern, names)
      | [] =>
        note (ofString usage)
        exit 2
  let expressions ← style.patterns.mapM fun pattern => do
    match expression style pattern with
    | .ok found => pure found
    | .error flaw => abort (ofString flaw.text) 2
  if style.kind = some .extended then
    for pattern in style.patterns do
      for sign in idleSigns (pattern.length + 1) true pattern do
        warn (ofString ("warning: " ++ sign ++ " at start of expression"))
  if style.most = some 0 && style.names ≠ some false then exit 1
  let several := 1 < names.length || (style.recursive && (names.isEmpty || names.length = 1))
  let named := style.named.getD several
  let outcome ←
    if names.isEmpty then
      if style.recursive then searchHere style expressions named {}
      else searchPath style expressions (style.named.getD false) 1 true ['-'] {}
    else
      let view ← look
      let named := if names.length = 1 && style.recursive && style.named.isNone then
        view.isDir (names.headD []) else named
      names.foldlM (fun outcome name => searchPath style expressions named 1000 true name outcome) {}
  let status := if outcome.flawed && !(style.quiet && outcome.selected) then 2
    else if outcome.selected then 0 else 1
  fail status

def grep : Tool := tool {}
def egrep : Tool := tool { kind := some .extended }
def fgrep : Tool := tool { kind := some .fixed }
def rgrep : Tool := tool { recursive := true }

end Retrace.Tool.Grep
