import Retrace.Regex.Posix
import Retrace.Unix.Bytes

/-!
# Scripts for editing lines

A script is a row of commands, each of which works on the lines that its addresses
select. Reading keeps count of the characters, because what is wrong with a script
is told by where it is.
-/

namespace Retrace.Tool.Sed

open Unix Regex

abbrev Pattern := Option Posix

inductive Address where
  | line (number : Nat)
  | step (first every : Nat)
  | last
  | pattern (pattern : Pattern)
  | plus (count : Nat)
  | multiple (number : Nat)

inductive Case where
  | upper
  | lower
  | asIs
  | upperNext
  | lowerNext
  deriving DecidableEq

inductive Part where
  | text (text : Bytes)
  | group (number : Nat)
  | cased (change : Case)

structure Substitution where
  pattern : Pattern
  parts : List Part
  everywhere : Bool := false
  number : Nat := 1
  prints : Bool := false
  output : Option Bytes := none

inductive Action where
  | opens (stop : Nat)
  | closes
  | label (name : Bytes)
  | showNumber
  | append (text : Bytes)
  | insert (text : Bytes)
  | change (text : Bytes)
  | branch (name : Bytes)
  | branchIf (name : Bytes)
  | branchUnless (name : Bytes)
  | delete
  | deleteFirst
  | showName
  | get
  | getMore
  | hold
  | holdMore
  | display (width : Option Nat)
  | next
  | nextMore
  | print
  | printFirst
  | quit (status : Nat)
  | quitSilently (status : Nat)
  | readFile (name : Bytes)
  | readLine (name : Bytes)
  | substitute (change : Substitution)
  | translate (table : List (Char × Char))
  | write (name : Bytes)
  | writeFirst (name : Bytes)
  | exchange
  | clear

structure Command where
  (first second : Option Address := none)
  negated : Bool := false
  action : Action

structure Dialect where
  extended : Bool := false

/-- What is wrong with a script, and how much of it had been read if that is told. -/
structure Fault where
  text : Bytes
  place : Option Nat

structure Block where
  command : Nat
  piece : Nat
  place : Nat

structure Scan where
  rest : Bytes
  (used piece : Nat := 0)
  commands : List Command := []
  blocks : List Block := []

abbrev Reader := StateT Scan (Except Fault)

def fault {α : Type} (text : String) : Reader α := do
  throw ⟨ofString text, some (← get).used⟩

def peek : Reader (Option Char) := return (← get).rest.head?

def take : Reader (Option Char) := do
  let scan ← get
  match scan.rest with
  | [] => return none
  | c :: rest =>
    set { scan with rest, used := scan.used + 1 }
    return some c

def drop (count : Nat) : Reader Unit :=
  modify fun scan =>
    { scan with rest := scan.rest.drop count, used := scan.used + min count scan.rest.length }

def takeWhile (test : Char → Bool) : Reader Bytes := do
  let text := (← get).rest.takeWhile test
  drop text.length
  return text

def isBlank (c : Char) : Bool := c = ' ' || c = '\t'
def isSpace (c : Char) : Bool := c = ' ' || ('\t' ≤ c && c ≤ '\r')

def number : Reader Nat := return Text.digitsValue (← takeWhile Char.isDigit)

/-! ## Escapes -/

def hexValue? (c : Char) : Option Nat :=
  if c.isDigit then some (c.toNat - 48)
  else if 'a' ≤ c && c ≤ 'f' then some (c.toNat - 87)
  else if 'A' ≤ c && c ≤ 'F' then some (c.toNat - 55)
  else none

/-- A number written with at most so many digits of a base, and how many there are. -/
def coded? (base most : Nat) (text : Bytes) : Option (Nat × Nat) :=
  let digits := (text.take most).map hexValue? |>.takeWhile (·.any (· < base)) |>.filterMap id
  if digits.isEmpty then none
  else some (digits.foldl (fun n digit => n * base + digit) 0 % 256, digits.length)

/-- The character that an escape stands for, apart from that of a line end, and how much of the
text behind the backslash it takes up. -/
def escape? (text : Bytes) : Option (Char × Nat) :=
  match text with
  | 'a' :: _ => some ('\x07', 1)
  | 'f' :: _ => some ('\x0c', 1)
  | 'r' :: _ => some ('\r', 1)
  | 't' :: _ => some ('\t', 1)
  | 'v' :: _ => some ('\x0b', 1)
  | 'c' :: c :: _ => some (Char.ofNat (c.toUpper.toNat ^^^ 64), 2)
  | 'd' :: rest => (coded? 10 3 rest).map fun (n, used) => (Char.ofNat n, used + 1)
  | 'o' :: rest => (coded? 8 3 rest).map fun (n, used) => (Char.ofNat n, used + 1)
  | 'x' :: rest => (coded? 16 2 rest).map fun (n, used) => (Char.ofNat n, used + 1)
  | _ => none

/-- Puts characters in place of their escapes in an expression. A character with a meaning of its
own keeps a backslash. -/
def plainFrom : Nat → Bytes → Bytes
  | _, [] => []
  | passed + 1, _ :: rest => plainFrom passed rest
  | 0, c :: rest =>
    if c = '\\' then
      match escape? rest with
      | some (meant, used) =>
        let isSpecial := "*.[]^$\\/+?()\x7b|\x7d".toList.contains meant
        (if isSpecial && used ≠ 1 then ['\\', meant] else [meant]) ++ plainFrom used rest
      | none =>
        match rest with
        | d :: _ => '\\' :: d :: plainFrom 1 rest
        | [] => ['\\']
    else c :: plainFrom 0 rest

/-! ## Text between marks -/

def bracketLength (text : Bytes) : Nat :=
  let start := match text with
    | '^' :: ']' :: _ => 2
    | '^' :: _ => 1
    | ']' :: _ => 1
    | _ => 0
  let rec go : Nat → Nat → Bytes → Nat
    | 0, used, _ => used
    | _ + 1, used, [] => used
    | fuel + 1, used, '[' :: mark :: rest =>
      if mark = ':' || mark = '.' || mark = '=' then
        match Posix.upTo mark ']' rest with
        | some (name, after) => go fuel (used + name.length + 4) after
        | none => go fuel (used + 1) (mark :: rest)
      else go fuel (used + 1) (mark :: rest)
    | fuel + 1, used, c :: rest => if c = ']' then used + 1 else go fuel (used + 1) rest
  go (text.length + 1) start (text.drop start)

/-- The text up to a mark, which a backslash takes the meaning from; none if there is no such
mark on the line. -/
def between (mark : Char) (isPattern : Bool) : Nat → Bytes → Reader (Option Bytes)
  | 0, _ => return none
  | fuel + 1, read => do
    let scan ← get
    match scan.rest with
    | [] => return none
    | c :: rest =>
      if c = mark then
        drop 1
        return some read.reverse
      else if c = '\n' && isPattern then return none
      else if c = '\\' then
        match rest with
        | [] =>
          drop 1
          return none
        | d :: _ =>
          drop 2
          if d = mark && !(mark = '&' && !isPattern) then
            between mark isPattern fuel (d :: read)
          else if d = 'n' && isPattern then between mark isPattern fuel ('\n' :: read)
          else if d = '\n' && !isPattern then between mark isPattern fuel ('\n' :: '\\' :: read)
          else between mark isPattern fuel (d :: '\\' :: read)
      else if c = '[' && isPattern then
        let length := 1 + bracketLength rest
        let inside := scan.rest.take length
        drop length
        between mark isPattern fuel ((lineEnds inside).reverse ++ read)
      else
        drop 1
        between mark isPattern fuel (c :: read)
where
  lineEnds : Bytes → Bytes
    | '\\' :: 'n' :: rest => '\n' :: lineEnds rest
    | c :: rest => c :: lineEnds rest
    | [] => []

def textUpTo (mark : Char) (isPattern : Bool) : Reader (Option Bytes) := do
  between mark isPattern ((← get).rest.length + 1) []

/-! ## Parts of commands -/

variable (dialect : Dialect)

def compile (text : Bytes) (ignoresCase multiLine : Bool) :
    Reader (Pattern × Nat) := do
  if text.isEmpty then
    if ignoresCase || multiLine then fault "cannot specify modifiers on empty regexp"
    return (none, 9)
  match Posix.read { extended := dialect.extended, guardsClasses := true } (plainFrom 0 text) with
  | .error .bareClass => throw ⟨ofString Posix.Flaw.bareClass.text, none⟩
  | .error flaw => fault flaw.text
  | .ok (found, groups) =>
    let found := if ignoresCase then found.folded else found
    return (some (if multiLine then found.multiLine else found), groups)

def addressLetters : Nat → Bool → Bool → Reader (Bool × Bool)
  | 0, ignoresCase, multiLine => return (ignoresCase, multiLine)
  | fuel + 1, ignoresCase, multiLine => do
    match ← peek with
    | some 'I' =>
      drop 1
      addressLetters fuel true multiLine
    | some 'M' =>
      drop 1
      addressLetters fuel ignoresCase true
    | _ => return (ignoresCase, multiLine)

def patternAddress (mark : Char) : Reader Address := do
  match ← textUpTo mark true with
  | none => fault "unterminated address regex"
  | some text =>
    let (ignoresCase, multiLine) ← addressLetters 10 false false
    let (found, _) ← compile dialect text ignoresCase multiLine
    return .pattern found

def address? (isSecond : Bool) : Reader (Option Address) := do
  match ← peek with
  | some '/' =>
    drop 1
    return some (← patternAddress dialect '/')
  | some '\\' =>
    drop 1
    match ← take with
    | some mark => return some (← patternAddress dialect mark)
    | none => fault "unexpected \x60,'"
  | some '$' =>
    drop 1
    return some .last
  | some '+' =>
    if isSecond then
      drop 1
      return some (.plus (← number))
    else return none
  | some '~' =>
    if isSecond then
      drop 1
      return some (.multiple (← number))
    else return none
  | some c =>
    if c.isDigit then
      let first ← number
      let _ ← takeWhile isBlank
      if (← peek) = some '~' then
        drop 1
        let _ ← takeWhile isBlank
        let every ← number
        return some (if every = 0 then .line first else .step first every)
      return some (.line first)
    else return none
  | none => return none

def endCommand : Reader Unit := do
  let _ ← takeWhile fun c => isSpace c && c ≠ '\n'
  match ← peek with
  | none => return
  | some '\x7d' => return
  | some '#' => return
  | some c =>
    drop 1
    if c ≠ '\n' && c ≠ ';' then fault "extra characters after command"

def fileName : Reader Bytes := do
  let _ ← takeWhile isBlank
  let name ← takeWhile (· ≠ '\n')
  if name.isEmpty then fault "missing filename in r/R/w/W commands"
  return name

def labelName : Reader Bytes := do
  let _ ← takeWhile isBlank
  takeWhile fun c => !isSpace c && c ≠ ';'

def textLines : Nat → Bytes → Reader Bytes
  | 0, read => return read.reverse
  | fuel + 1, read => do
    match ← take with
    | none => return ('\n' :: read).reverse
    | some '\n' => return ('\n' :: read).reverse
    | some '\\' =>
      let scan ← get
      match escape? scan.rest with
      | some (meant, used) =>
        if scan.rest.head? = some 'c' || scan.rest.head? = some 'd' || scan.rest.head? = some 'o' ||
            scan.rest.head? = some 'x' || used = 1 then
          drop used
          textLines fuel (meant :: read)
        else textLines fuel read
      | none =>
        match ← take with
        | none => return ('\n' :: read).reverse
        | some c => textLines fuel (c :: read)
    | some c => textLines fuel (c :: read)

/-- The text that a command writes: behind it, or on the lines after a backslash. -/
def writtenText : Reader Bytes := do
  let _ ← takeWhile isBlank
  let fuel := (← get).rest.length + 1
  match (← get).rest with
  | [] => fault "expected \\ after \x60a', \x60c' or \x60i'"
  | '\\' :: rest =>
    drop 1
    match rest.dropWhile isBlank with
    | '\n' :: _ =>
      let _ ← takeWhile isBlank
      drop 1
      textLines fuel []
    | [] => return []
    | _ =>
      let _ ← takeWhile isBlank
      textLines fuel []
  | _ => textLines fuel []

/-- The parts of a replacement. `held` is plain text, last first. -/
def replacement : Nat → Bytes → Bytes → List Part
  | 0, held, _ => [.text held.reverse]
  | _ + 1, held, [] => if held.isEmpty then [] else [.text held.reverse]
  | fuel + 1, held, c :: rest =>
    let flush : List Part := if held.isEmpty then [] else [.text held.reverse]
    if c = '&' then flush ++ .group 0 :: replacement fuel [] rest
    else if c = '\\' then
      match rest with
      | [] => flush
      | d :: after =>
        if d.isDigit then flush ++ .group (d.toNat - 48) :: replacement fuel [] after
        else match d with
          | 'n' => replacement fuel ('\n' :: held) after
          | 'U' => flush ++ .cased .upper :: replacement fuel [] after
          | 'L' => flush ++ .cased .lower :: replacement fuel [] after
          | 'E' => flush ++ .cased .asIs :: replacement fuel [] after
          | 'u' => flush ++ .cased .upperNext :: replacement fuel [] after
          | 'l' => flush ++ .cased .lowerNext :: replacement fuel [] after
          | _ =>
            match escape? rest with
            | some (meant, used) => replacement fuel (meant :: held) (rest.drop used)
            | none => replacement fuel (d :: held) after
    else replacement fuel (c :: held) rest

structure Letters where
  (everywhere prints : Bool := false)
  number : Option Nat := none
  (ignoresCase multiLine : Bool := false)
  output : Option Bytes := none

def substitutionLetters : Nat → Letters → Reader Letters
  | 0, letters => return letters
  | fuel + 1, letters => do
    match ← peek with
    | none => return letters
    | some c =>
      match c with
      | 'g' =>
        drop 1
        if letters.everywhere then fault "multiple \x60g' options to \x60s' command"
        substitutionLetters fuel { letters with everywhere := true }
      | 'p' =>
        drop 1
        if letters.prints then fault "multiple \x60p' options to \x60s' command"
        substitutionLetters fuel { letters with prints := true }
      | 'i' =>
        drop 1
        substitutionLetters fuel { letters with ignoresCase := true }
      | 'I' =>
        drop 1
        substitutionLetters fuel { letters with ignoresCase := true }
      | 'm' =>
        drop 1
        substitutionLetters fuel { letters with multiLine := true }
      | 'M' =>
        drop 1
        substitutionLetters fuel { letters with multiLine := true }
      | 'e' =>
        drop 1
        substitutionLetters fuel letters
      | 'w' =>
        drop 1
        return { letters with output := some (← fileName) }
      | '\x7d' => return letters
      | '#' => return letters
      | _ =>
        if c.isDigit then
          if letters.number.isSome then
            drop 1
            fault "multiple number options to \x60s' command"
          let n ← number
          if n = 0 then fault "number option to \x60s' command may not be zero"
          substitutionLetters fuel { letters with number := some n }
        else
          drop 1
          if c = '\n' || c = ';' then return letters
          else if c = '\r' then substitutionLetters fuel letters
          else if isBlank c then
            let _ ← takeWhile isBlank
            substitutionLetters fuel letters
          else fault "unknown option to \x60s'"

def substitution : Reader Action := do
  let unterminated {α : Type} : Reader α := fault "unterminated \x60s' command"
  match ← take with
  | none => unterminated
  | some mark =>
    if mark = '\n' || mark = '\\' then unterminated
    match ← textUpTo mark true with
    | none => unterminated
    | some pattern =>
      match ← textUpTo mark false with
      | none => unterminated
      | some written =>
        let letters ← substitutionLetters ((← get).rest.length + 1) {}
        let (found, groups) ← compile dialect pattern letters.ignoresCase letters.multiLine
        let parts := replacement (written.length + 1) [] written
        for part in parts do
          if let .group n := part then
            if groups < n then
              fault ("invalid reference \\" ++ toString n ++ " on \x60s' command's RHS")
        return .substitute
          { pattern := found, parts, everywhere := letters.everywhere
            number := letters.number.getD 1, prints := letters.prints, output := letters.output }

def translated (mark : Char) : Bytes → Option Bytes
  | '\\' :: c :: rest =>
    if c = '\\' then (translated mark rest).map ('\\' :: ·)
    else if c = 'n' then (translated mark rest).map ('\n' :: ·)
    else match escape? (c :: rest) with
      | some (meant, 1) => (translated mark rest).map (meant :: ·)
      | _ => (translated mark rest).map fun more => '\\' :: c :: more
  | c :: rest => (translated mark rest).map (c :: ·)
  | [] => some []

def translation : Reader Action := do
  let unterminated {α : Type} : Reader α := fault "unterminated \x60y' command"
  match ← take with
  | none => unterminated
  | some mark =>
    match ← textUpTo mark false with
    | none => unterminated
    | some first =>
      match ← textUpTo mark false with
      | none => unterminated
      | some second =>
        let one := (translated mark first).getD []
        let two := (translated mark second).getD []
        if one.length ≠ two.length then fault "strings for \x60y' command are different lengths"
        endCommand
        return .translate (one.zip two)

def optionalNumber : Reader (Option Nat) := do
  let _ ← takeWhile isBlank
  if (← peek).any Char.isDigit then return some (← number) else return none

/-! ## Commands -/

def action (letter : Char) (count : Nat) : Reader Action := do
  let plain := fun (found : Action) => do
    endCommand
    pure found
  match letter with
  | '=' => plain .showNumber
  | 'd' => plain .delete
  | 'D' => plain .deleteFirst
  | 'F' => plain .showName
  | 'g' => plain .get
  | 'G' => plain .getMore
  | 'h' => plain .hold
  | 'H' => plain .holdMore
  | 'n' => plain .next
  | 'N' => plain .nextMore
  | 'p' => plain .print
  | 'P' => plain .printFirst
  | 'x' => plain .exchange
  | 'z' => plain .clear
  | 'a' => return .append (← writtenText)
  | 'i' => return .insert (← writtenText)
  | 'c' => return .change (← writtenText)
  | ':' =>
    if count ≠ 0 then fault ": doesn't want any addresses"
    let name ← labelName
    if name.isEmpty then fault "\":\" lacks a label"
    return .label name
  | 'b' =>
    let name ← labelName
    endCommand
    return .branch name
  | 't' =>
    let name ← labelName
    endCommand
    return .branchIf name
  | 'T' =>
    let name ← labelName
    endCommand
    return .branchUnless name
  | 'r' => return .readFile (← fileName)
  | 'R' => return .readLine (← fileName)
  | 'w' => return .write (← fileName)
  | 'W' => return .writeFirst (← fileName)
  | 'q' =>
    if count = 2 then fault "command only uses one address"
    let status ← optionalNumber
    endCommand
    return .quit (status.getD 0)
  | 'Q' =>
    if count = 2 then fault "command only uses one address"
    let status ← optionalNumber
    endCommand
    return .quitSilently (status.getD 0)
  | 'l' =>
    let width ← optionalNumber
    endCommand
    return .display width
  | 's' => substitution dialect
  | 'y' => translation
  | 'v' =>
    let _ ← labelName
    endCommand
    return .label []
  | _ =>
    throw ⟨"unknown command: \x60" ++ letter :: ['\''], some (← get).used⟩

def add (command : Command) : Reader Unit :=
  modify fun scan => { scan with commands := command :: scan.commands }

def command (dialect : Dialect) : Reader Bool := do
  let _ ← takeWhile fun c => isSpace c || c = ';'
  if (← peek).isNone then return false
  if (← peek) = some '#' then
    let _ ← takeWhile (· ≠ '\n')
    return true
  let first ← address? dialect false
  let mut second := none
  if first.isSome then
    let _ ← takeWhile isBlank
    if (← peek) = some ',' then
      drop 1
      let _ ← takeWhile isBlank
      second ← address? dialect true
      if second.isNone then
        drop 1
        fault "unexpected \x60,'"
  match first, second with
  | some (.line 0), some (.pattern _) => pure ()
  | some (.line 0), _ => fault "invalid usage of line address 0"
  | _, _ => pure ()
  let count := (if first.isSome then 1 else 0) + (if second.isSome then 1 else 0)
  let _ ← takeWhile isBlank
  let mut negated := false
  if (← peek) = some '!' then
    drop 1
    negated := true
    let _ ← takeWhile isBlank
    if (← peek) = some '!' then
      drop 1
      fault "multiple \x60!'s"
  match ← take with
  | none => fault "missing command"
  | some '\x7b' =>
    let scan ← get
    set { scan with blocks := ⟨scan.commands.length, scan.piece, scan.used - 1⟩ :: scan.blocks }
    add { first, second, negated, action := .opens 0 }
  | some '\x7d' =>
    let scan ← get
    match scan.blocks with
    | [] => fault "unexpected \x60\x7d'"
    | opened :: blocks =>
      if count ≠ 0 then fault "\x60\x7d' doesn't want any addresses"
      let stop := scan.commands.length
      let place := scan.commands.length - 1 - opened.command
      let commands := scan.commands.zipIdx.map fun (command, n) =>
        if n = place then { command with action := .opens stop } else command
      set { scan with blocks, commands }
      endCommand
      add { action := .closes }
  | some '#' => fault "comments don't accept any addresses"
  | some letter =>
    if letter = '\n' || letter = ';' then fault "missing command"
    let found ← action dialect letter count
    add { first, second, negated, action := found }
  return true

def commands (dialect : Dialect) : Nat → Reader Unit
  | 0 => return
  | fuel + 1 => do
    if ← command dialect then commands dialect fuel

def readPiece (text : Bytes) (scan : Scan) : Except Fault Scan := do
  let (_, scan) ← (commands dialect (text.length + 1)).run { scan with rest := text, used := 0 }
  return scan

end Retrace.Tool.Sed
