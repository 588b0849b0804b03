import Retrace.Regex.Tree
import Retrace.Text.Blank
import Retrace.Text.Classes

/-!
# Reading regular expressions

From text to tree. The first flaw from the left is the one reported. Blanks and
comments are passed over where the expression asks for that.
-/

namespace Retrace.Regex

structure Scan where
  place : Nat := 0
  rest : List Char
  loose : Bool := false
  names : List (List Char × Span) := []
  deriving Repr

abbrev Reader := StateT Scan (Except Flaw)

namespace Reader

def fail {α : Type} (cause : Flaw.Cause) (span : Span) : Reader α :=
  fun _ => .error ⟨cause, span⟩

def place : Reader Nat := return (← get).place

def next : Reader (Option Char) := return (← get).rest.head?

def drop (n : Nat) : Reader Unit :=
  modify fun scan => { scan with place := scan.place + min n scan.rest.length, rest := scan.rest.drop n }

/-- How many characters blanks and comments take up; `comment` if one has begun. -/
def idle (comment : Bool) : List Char → Nat
  | [] => 0
  | c :: rest =>
    if comment then idle (c ≠ '\n') rest + 1
    else if Text.isBlank c then idle false rest + 1
    else if c = '#' then idle true rest + 1
    else 0

def skip : Reader Unit := do
  let scan ← get
  if scan.loose then drop (idle false scan.rest)

def bump : Reader Bool := do
  drop 1
  skip
  return (← next).isSome

def passes (text : List Char) : Reader Bool := do
  if text.isPrefixOf (← get).rest then
    drop text.length
    return true
  return false

def afterNext : Reader (Option Char) := do
  let scan ← get
  let rest := scan.rest.drop 1
  return (rest.drop (if scan.loose then idle false rest else 0)).head?

/-! ## Numbers -/

def hexValue? (c : Char) : Option Nat :=
  if '0' ≤ c && c ≤ '9' then some (c.toNat - '0'.toNat)
  else if 'a' ≤ c && c ≤ 'f' then some (c.toNat - 'a'.toNat + 10)
  else if 'A' ≤ c && c ≤ 'F' then some (c.toNat - 'A'.toNat + 10)
  else none

def hexChar? (digits : List Char) : Option Char :=
  let n := digits.foldl (fun n c => n * 16 + (hexValue? c).getD 0) 0
  if n.isValidChar then some (Char.ofNat n) else none

def digits : Nat → Reader (List Char)
  | 0 => return []
  | fuel + 1 => do
    match ← next with
    | some c =>
      if c.isDigit then
        let _ ← bump
        return c :: (← digits fuel)
      else return []
    | none => return []

def blanks : Nat → Reader Unit
  | 0 => return
  | fuel + 1 => do
    if (← next).any Text.isBlank then
      let _ ← bump
      blanks fuel

def decimal : Reader (Except Flaw Nat) := do
  let fuel := (← get).rest.length
  drop ((← get).rest.takeWhile Text.isBlank).length
  let start ← place
  let digits ← digits fuel
  let span : Span := ⟨start, ← place⟩
  blanks fuel
  let n := digits.foldl (fun n c => n * 10 + (c.toNat - '0'.toNat)) 0
  if digits.isEmpty then return .error ⟨.countEmpty, span⟩
  else if UInt32.size ≤ n then return .error ⟨.decimalInvalid, span⟩
  else return .ok n

/-! ## Escapes -/

def hexFixed (start count : Nat) : Nat → List Char → Reader Literal
  | 0, read => do
    let stop ← place
    match hexChar? read.reverse with
    | some c => return ⟨⟨start, stop⟩, c, count = 2⟩
    | none => fail .hexInvalid ⟨start, stop⟩
  | left + 1, read => do
    match ← next with
    | none => fail .escapeCut (.place (← place))
    | some c =>
      if (hexValue? c).isNone then fail .hexDigitInvalid (.char (← place))
      let _ ← bump
      hexFixed start count left (c :: read)

def hexBraced (brace : Nat) : Nat → List Char → Reader (List Char)
  | 0, read => return read
  | fuel + 1, read => do
    if !(← bump) then fail .escapeCut ⟨brace, ← place⟩
    match ← next with
    | some '\x7d' => return read
    | some c =>
      if (hexValue? c).isNone then fail .hexDigitInvalid (.char (← place))
      hexBraced brace fuel (c :: read)
    | none => fail .escapeCut ⟨brace, ← place⟩

/-- A character by its number: so many digits, or any number of them in braces. -/
def hex (count : Nat) : Reader Literal := do
  if !(← bump) then fail .escapeCut (.place (← place))
  if (← next) = some '\x7b' then
    let brace ← place
    let read ← hexBraced brace ((← get).rest.length + 1) []
    let stop ← place
    let _ ← bump
    if read.isEmpty then fail .hexEmpty ⟨brace, ← place⟩
    match hexChar? read.reverse with
    | some c => return ⟨⟨brace + 1, ← place⟩, c, false⟩
    | none => fail .hexInvalid ⟨brace + 1, stop⟩
  else hexFixed (← place) count count []

def propertyName : Nat → List Char → Reader (List Char)
  | 0, read => return read
  | fuel + 1, read => do
    if !(← bump) then fail .escapeCut (.place (← place))
    match ← next with
    | some '\x7d' => return read
    | some c => propertyName fuel (c :: read)
    | none => fail .escapeCut (.place (← place))

/-- Names compare without case, spaces, underscores, hyphens and what is not ASCII, and
without `is` in front. -/
def plainName (name : List Char) : String :=
  let bare := if (name.take 2).map Char.toLower = ['i', 's'] then name.drop 2 else name
  let kept := bare.filter fun c => c ≠ ' ' && c ≠ '_' && c ≠ '-' && c.toNat < 0x80
  String.ofList (kept.map Char.toLower)

def property (start : Nat) : Reader Primitive := do
  if !(← bump) then fail .escapeCut (.place (← place))
  match ← next with
  | some '\x7b' =>
    let name ← propertyName ((← get).rest.length + 1) []
    drop 1
    let general := !(name.any fun c => c = ':' || c = '=') &&
      ["cf", "sc", "lc"].contains (plainName name.reverse)
    return .property ⟨start, ← place⟩ general
  | some '\\' => fail .propertyInvalid (.char (← place))
  | _ =>
    let _ ← bump
    return .property ⟨start, ← place⟩ false

def isBoundaryLetter (c : Char) : Bool := c.isAlpha || c = '-'

def boundaryLetters : Nat → Reader (List Char)
  | 0 => return []
  | fuel + 1 => do
    match ← next with
    | some c =>
      if isBoundaryLetter c then
        let _ ← bump
        return c :: (← boundaryLetters fuel)
      else return []
    | none => return []

def boundary? (start : Nat) : Reader (Option Assertion) := do
  let before ← get
  let brace ← place
  if !(← bump) then fail .wordBoundaryCut ⟨start, ← place⟩
  let inside ← place
  if !(← next).any isBoundaryLetter then
    set before
    return none
  let letters ← boundaryLetters (← get).rest.length
  let stop ← place
  if (← next) ≠ some '\x7d' then fail .wordBoundaryUnclosed ⟨brace, stop⟩
  drop 1
  match String.ofList letters with
  | "start" => return some .wordStart
  | "end" => return some .wordEnd
  | "start-half" => return some .wordStartHalf
  | "end-half" => return some .wordEndHalf
  | _ => fail .wordBoundaryUnrecognized ⟨inside, stop⟩

/-- Characters that may always stand after a backslash for themselves. -/
def isEscapable (c : Char) : Bool :=
  c.toNat < 0x80 && !c.isAlphanum && c ≠ '<' && c ≠ '>'

def control? : Char → Option Char
  | 'a' => some '\x07'
  | 'f' => some '\x0c'
  | 't' => some '\t'
  | 'n' => some '\n'
  | 'r' => some '\r'
  | 'v' => some '\x0b'
  | _ => none

def perl? : Char → Option (Perl × Bool)
  | 'd' => some (.digit, false)
  | 'D' => some (.digit, true)
  | 's' => some (.space, false)
  | 'S' => some (.space, true)
  | 'w' => some (.word, false)
  | 'W' => some (.word, true)
  | _ => none

def assertion? : Char → Option Assertion
  | 'A' => some .textStart
  | 'z' => some .textEnd
  | 'b' => some .wordEdge
  | 'B' => some .noWordEdge
  | '<' => some .wordStart
  | '>' => some .wordEnd
  | _ => none

def hexCount? : Char → Option Nat
  | 'x' => some 2
  | 'u' => some 4
  | 'U' => some 8
  | _ => none

def escape : Reader Primitive := do
  let start ← place
  drop 1
  match ← next with
  | none => fail .escapeCut ⟨start, ← place⟩
  | some c =>
    let span : Span := ⟨start, start + 2⟩
    if c.isDigit then fail .backreference span
    else if let some count := hexCount? c then
      let literal ← hex count
      return .literal { literal with span := ⟨start, literal.span.stop⟩ }
    else if c = 'p' || c = 'P' then property start
    else
      drop 1
      if let some (perl, negated) := perl? c then return .perl span perl negated
      else if isEscapable c then return .literal ⟨span, c, false⟩
      else if let some control := control? c then return .literal ⟨span, control, false⟩
      else match assertion? c with
        | none => fail .escapeUnrecognized span
        | some assertion =>
          if c = 'b' && (← next) = some '\x7b' then
            match ← boundary? start with
            | some named => return .assertion ⟨start, ← place⟩ named
            | none => return .assertion span assertion
          else return .assertion span assertion

def primitive (c : Char) : Reader Primitive := do
  let span := Span.char (← place)
  match c with
  | '\\' => escape
  | '.' => drop 1; return .dot span
  | '^' => drop 1; return .assertion span .lineStart
  | '$' => drop 1; return .assertion span .lineEnd
  | _ => drop 1; return .literal ⟨span, c, false⟩

/-! ## Brackets -/

def named? (text : List Char) : Option (Charset × Bool × Nat) :=
  match text with
  | '[' :: ':' :: rest =>
    let (negated, rest) := match rest with
      | '^' :: rest => (true, rest)
      | _ => (false, rest)
    let name := rest.takeWhile (· ≠ ':')
    match rest.dropWhile (· ≠ ':') with
    | ':' :: ']' :: _ =>
      (Charset.ofName? (String.ofList name)).map fun set =>
        (set, negated, name.length + if negated then 5 else 4)
    | _ => none
  | _ => none

def classItem : Reader Primitive := do
  match ← next with
  | some '\\' => escape
  | some c => let span := Span.char (← place); drop 1; return .literal ⟨span, c, false⟩
  | none => fail .classUnclosed (.place (← place))

def classMember : Primitive → Reader Members
  | .literal literal => return .literal literal
  | .perl span perl negated => return .perl span perl negated
  | .property span general => return .property span general
  | other => fail .classEscapeInvalid other.span

def rangeEnd : Primitive → Reader Literal
  | .literal literal => return literal
  | other => fail .classRangeLiteral other.span

def classRange (opened : Span) : Reader Members := do
  let first ← classItem
  skip
  if (← next).isNone then fail .classUnclosed opened
  let after ← afterNext
  if (← next) ≠ some '-' || after = some ']' || after = some '-' then classMember first
  else
    if !(← bump) then fail .classUnclosed opened
    let second ← classItem
    let span : Span := ⟨first.span.start, second.span.stop⟩
    let low ← rangeEnd first
    let high ← rangeEnd second
    if high.char < low.char then fail .classRangeInvalid span
    return .range span low high

def leadingHyphens (start : Nat) : Nat → List Members → Reader (List Members)
  | 0, read => return read
  | fuel + 1, read => do
    if (← next) = some '-' then
      let literal : Literal := ⟨.char (← place), '-', false⟩
      if !(← bump) then fail .classUnclosed (.place start)
      leadingHyphens start fuel (.literal literal :: read)
    else return read

/-- What opens a bracket: its span so far, whether it is negated, and the members that
count only here, last first. -/
def openBracket : Reader (Span × Bool × List Members) := do
  let start ← place
  if !(← bump) then fail .classUnclosed ⟨start, ← place⟩
  let negated := (← next) = some '^'
  if negated then
    if !(← bump) then fail .classUnclosed ⟨start, ← place⟩
  let hyphens ← leadingHyphens start (← get).rest.length []
  if hyphens.isEmpty && (← next) = some ']' then
    let literal : Literal := ⟨.char (← place), ']', false⟩
    if !(← bump) then fail .classUnclosed ⟨start, ← place⟩
    return (⟨start, ← place⟩, negated, [.literal literal])
  return (⟨start, ← place⟩, negated, hyphens)

def setOp? (text : List Char) : Option SetOp :=
  match text with
  | '&' :: '&' :: _ => some .inter
  | '-' :: '-' :: _ => some .diff
  | '~' :: '~' :: _ => some .symmDiff
  | _ => none

def combine (left : Option (SetOp × Members)) (right : Members) : Members :=
  match left with
  | some (op, first) => .combined op first right
  | none => right

mutual
def bracket : Nat → Reader Members
  | 0 => do fail .classUnclosed (.place (← place))
  | fuel + 1 => do
    let (opened, negated, read) ← openBracket
    let inside ← bracketRest fuel opened none (← place) read
    return .bracket ⟨opened.start, ← place⟩ negated inside

/-- The rest of a bracket: `left` is what an operator waits with, `read` are the members
since, last first. -/
def bracketRest : Nat → Span → Option (SetOp × Members) → Nat → List Members → Reader Members
  | 0, opened, _, _, _ => fail .classUnclosed opened
  | fuel + 1, opened, left, start, read => do
    skip
    let scan ← get
    match scan.rest with
    | [] => fail .classUnclosed opened
    | ']' :: _ =>
      drop 1
      return combine left (.ofList start read.reverse)
    | '[' :: _ =>
      match named? scan.rest with
      | some (set, negated, length) =>
        drop length
        bracketRest fuel opened left start
          (.named ⟨scan.place, scan.place + length⟩ set negated :: read)
      | none =>
        let inner ← bracket fuel
        bracketRest fuel opened left start (inner :: read)
    | _ =>
      match setOp? scan.rest with
      | some op =>
        drop 2
        bracketRest fuel opened (some (op, combine left (.ofList start read.reverse))) (← place) []
      | none =>
        let member ← classRange opened
        bracketRest fuel opened left start (member :: read)
end

/-! ## Groups -/

def isNameChar (first : Bool) (c : Char) : Bool :=
  c = '_' || Text.isAlphabetic c ||
    (!first && (Text.isNumeric c || c = '.' || c = '[' || c = ']'))

def nameRest : Nat → List Char → Reader (List Char)
  | 0, read => return read
  | fuel + 1, read => do
    match ← next with
    | none => fail .nameCut (.place (← place))
    | some '>' => return read
    | some c =>
      if !isNameChar read.isEmpty c then fail .nameInvalid (.char (← place))
      drop 1
      nameRest fuel (c :: read)

def groupName : Reader Unit := do
  let start ← place
  let name := (← nameRest ((← get).rest.length + 1) []).reverse
  let span : Span := ⟨start, ← place⟩
  drop 1
  if name.isEmpty then fail .nameEmpty (.place start)
  match (← get).names.lookup name with
  | some first => fail (.nameDuplicate first) span
  | none => modify fun scan => { scan with names := (name, span) :: scan.names }

/-- Flags up to a colon or parenthesis: what was read is held with where it stood, and a
hyphen as `none`. -/
def flags : Nat → List (Option Flag × Span) → Reader (List (Option Flag × Span))
  | 0, read => return read
  | fuel + 1, read => do
    let span := Span.char (← place)
    let c ← next
    if c = some ':' || c = some ')' then
      match read with
      | (none, dangling) :: _ => fail .flagNegationDangling dangling
      | _ => return read
    let item : Option Flag ← match c with
      | some '-' => pure none
      | _ =>
        match c.bind Flag.ofLetter? with
        | some flag => pure (some flag)
        | none => fail .flagUnrecognized span
    match read.lookup item, item with
    | some first, none => fail (.flagNegationRepeated first) span
    | some first, some _ => fail (.flagDuplicate first) span
    | none, _ =>
      drop 1
      if (← next).isNone then fail .flagCut (.place (← place))
      flags fuel ((item, span) :: read)

def settingsOf (positive : Bool) : List (Option Flag × Span) → Settings
  | [] => []
  | (none, _) :: rest => settingsOf false rest
  | (some flag, _) :: rest => (flag, positive) :: settingsOf positive rest

inductive Opening where
  | settings (settings : Settings) (span : Span)
  | group (opened : Span) (captures : Bool) (settings : Settings)

def opening : Reader Opening := do
  let start ← place
  let opened := Span.char start
  let _ ← bump
  if (← passes ['?', '=']) || (← passes ['?', '!']) || (← passes ['?', '<', '=']) ||
      (← passes ['?', '<', '!']) then
    fail .lookAround ⟨start, ← place⟩
  let inside ← place
  if (← passes ['?', 'P', '<']) || (← passes ['?', '<']) then
    groupName
    return .group opened true []
  else if ← passes ['?'] then
    if (← next).isNone then fail .groupUnclosed opened
    let settings := settingsOf true (← flags ((← get).rest.length + 1) []).reverse
    let last ← next
    drop 1
    if last = some ')' then
      if settings.isEmpty then fail .repetitionMissing (.place inside)
      return .settings settings ⟨start, ← place⟩
    else return .group opened false settings
  else return .group opened true []

/-! ## Repetition -/

def repeatable (items : List Tree) : Reader (Tree × List Tree) := do
  match items with
  | last :: before =>
    if last.isRepeatable then return (last, before)
    else fail .repetitionMissing (.place (← place))
  | [] => fail .repetitionMissing (.place (← place))

def plainRepetition (items : List Tree) (least : Nat) (further : Option Nat) :
    Reader (List Tree) := do
  let (body, before) ← repeatable items
  drop 1
  let _ ← passes ['?']
  return .repeated ⟨body.span.start, ← place⟩ body least further :: before

def countedRepetition (items : List Tree) : Reader (List Tree) := do
  let start ← place
  let (body, before) ← repeatable items
  let unclosed {α : Type} : Reader α := do fail .countUnclosed ⟨start, ← place⟩
  if !(← bump) then unclosed
  let low ← decimal
  if (← next).isNone then unclosed
  let (least, most) : Nat × Option Nat ← if (← next) = some ',' then do
      if !(← bump) then unclosed
      let least ← low
      if (← next) = some '\x7d' then pure (least, none)
      else pure (least, some (← (← decimal : Except Flaw Nat)))
    else do
      let least ← low
      pure (least, some least)
  if (← next) ≠ some '\x7d' then unclosed
  let _ ← bump
  let _ ← passes ['?']
  let stop ← place
  if most.any (· < least) then fail .countInvalid ⟨start, stop⟩
  return .repeated ⟨body.span.start, stop⟩ body least (most.map (· - least)) :: before

/-! ## Whole expressions -/

def looseAfter (loose : Bool) (settings : Settings) : Bool :=
  (settings.lookup .loose).getD loose

/-- Alternatives up to a closing parenthesis or the end. `branches` and `items` are what has
been read, last first. -/
def alternatives : Nat → List Tree → List Tree → Reader Tree
  | 0, _, _ => return .empty (← place)
  | fuel + 1, branches, items => do
    skip
    let here ← place
    match ← next with
    | none | some ')' => return .ofBranches ((.ofItems here items.reverse) :: branches).reverse
    | some '|' =>
      drop 1
      alternatives fuel (.ofItems here items.reverse :: branches) []
    | some '(' =>
      match ← opening with
      | .settings settings span =>
        modify fun scan => { scan with loose := looseAfter scan.loose settings }
        alternatives fuel branches (.settings settings span :: items)
      | .group opened captures settings =>
        let loose := (← get).loose
        modify fun scan => { scan with loose := looseAfter loose settings }
        let body ← alternatives fuel [] []
        if (← next).isNone then fail .groupUnclosed opened
        modify fun scan => { scan with loose := loose }
        drop 1
        alternatives fuel branches (.group ⟨opened.start, ← place⟩ captures settings body :: items)
    | some '[' => alternatives fuel branches (.bracket (← bracket ((← get).rest.length + 1)) :: items)
    | some '?' => alternatives fuel branches (← plainRepetition items 0 (some 1))
    | some '*' => alternatives fuel branches (← plainRepetition items 0 none)
    | some '+' => alternatives fuel branches (← plainRepetition items 1 none)
    | some '\x7b' => alternatives fuel branches (← countedRepetition items)
    | some c => alternatives fuel branches (.primitive (← primitive c) :: items)

end Reader

def nestLimit : Nat := 250

def Tree.ofText (text : List Char) : Except Flaw Tree := do
  let (tree, scan) ← (Reader.alternatives (text.length + 1) [] []).run { rest := text }
  if !scan.rest.isEmpty then throw ⟨.groupUnopened, .char scan.place⟩
  match tree.tooDeep? nestLimit with
  | some span => throw ⟨.nestLimit nestLimit, span⟩
  | none => return tree

end Retrace.Regex
