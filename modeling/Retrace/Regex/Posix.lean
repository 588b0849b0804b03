import Retrace.Regex
import Retrace.Text.Numeral

/-!
# Expressions of line tools

The regular expressions that tools for lines take. In the basic kind, groups,
choices and most repetitions are written with a backslash; in the extended kind
the backslash takes their meaning away. `Posix.find?` gives the first match, and
the longest of those that start there, with what its groups matched.
-/

namespace Retrace.Regex

inductive Posix where
  | empty
  | one (set : Charset)
  | look (condition : Look)
  | seq (first second : Posix)
  | alt (first second : Posix)
  | repeated (body : Posix) (least : Nat) (most : Option Nat)
  | group (number : Nat) (body : Posix)
  | back (number : Nat)
  deriving Repr

namespace Posix

/-! ## Reading -/

structure Dialect where
  extended : Bool := false
  lenient : Bool := false
  /-- The name of a class is refused where it stands in one pair of brackets only. -/
  guardsClasses : Bool := false

inductive Flaw where
  | pattern
  | className
  | collation
  | backslash
  | backreference
  | bracket
  | opened
  | closed
  | brace
  | braceContent
  | range
  | size
  | preceding
  | bareClass
  deriving DecidableEq, Repr

def Flaw.text : Flaw → String
  | .pattern => "Invalid regular expression"
  | .className => "Invalid character class name"
  | .collation => "Invalid collation character"
  | .backslash => "Trailing backslash"
  | .backreference => "Invalid back reference"
  | .bracket => "Unmatched [, [^, [:, [., or [="
  | .opened => "Unmatched ( or \\("
  | .closed => "Unmatched ) or \\)"
  | .brace => "Unmatched \\\x7b"
  | .braceContent => "Invalid content of \\\x7b\\\x7d"
  | .range => "Invalid range end"
  | .size => "Regular expression too big"
  | .preceding => "Invalid preceding regular expression"
  | .bareClass => "character class syntax is [[:space:]], not [:space:]"

def upTo (first second : Char) : List Char → Option (List Char × List Char)
  | a :: b :: rest =>
    if a = first && b = second then some ([], rest)
    else (upTo first second (b :: rest)).map fun (before, after) => (a :: before, after)
  | _ => none

def bracketItem (text : List Char) : Except Flaw ((Char ⊕ Charset) × List Char) :=
  match text with
  | '[' :: mark :: rest =>
    if mark = ':' || mark = '.' || mark = '=' then
      match upTo mark ']' rest with
      | none => .error .bracket
      | some (name, after) =>
        if mark = ':' then
          match Charset.ofName? (String.ofList name) with
          | some set => .ok (.inr set, after)
          | none => .error .className
        else match name with
          | [c] => .ok (.inl c, after)
          | _ => .error .collation
    else .ok (.inl '[', mark :: rest)
  | c :: rest => .ok (.inl c, rest)
  | [] => .error .bracket

def bracketRest : Nat → Bool → List Char → Except Flaw (List Charset × List Char)
  | 0, _, _ => .error .bracket
  | fuel + 1, atStart, text =>
    match text with
    | [] => .error (if atStart then .pattern else .bracket)
    | c :: rest =>
      if c = ']' && !atStart then .ok ([], rest)
      else do
        let (item, rest) ← bracketItem text
        match item, rest with
        | .inl low, '-' :: next :: after =>
          if next = ']' then
            let (more, rest) ← bracketRest fuel false rest
            return (.single low :: more, rest)
          else
            match ← bracketItem (next :: after) with
            | (.inl high, rest) =>
              if high < low then throw .range
              let (more, rest) ← bracketRest fuel false rest
              return (.range low high :: more, rest)
            | (.inr _, _) => throw .range
        | .inl low, rest =>
          let (more, rest) ← bracketRest fuel false rest
          return (.single low :: more, rest)
        | .inr set, rest =>
          let (more, rest) ← bracketRest fuel false rest
          return (set :: more, rest)

def spellsClass (sets : List Charset) : Bool :=
  let letters := sets.filterMap fun set =>
    match set with
    | .range low high => if low = high then some low else none
    | _ => none
  letters.length = sets.length && letters.head? = some ':' && letters.getLast? = some ':' &&
    letters.any (· ≠ ':')

def bracket (dialect : Dialect) (text : List Char) : Except Flaw (Charset × List Char) := do
  let (negated, inside) : Bool × List Char := match text with
    | '^' :: rest => (true, rest)
    | _ => (false, text)
  let (sets, rest) ← bracketRest (text.length + 1) true inside
  if dialect.guardsClasses && spellsClass sets then throw .bareClass
  let set := Charset.unions sets
  return (if negated then .complement set else set, rest)

def wordSet : Charset := .union .alnum (.single '_')

inductive Sign where
  | one (set : Charset)
  | look (condition : Look)
  | opens
  | closes
  | bar
  | star
  | plus
  | query
  | brace
  | back (number : Nat)
  deriving DecidableEq

/-- The next sign, and what follows it. `caret` where a caret is an anchor in the basic kind. -/
def sign (dialect : Dialect) (caret : Bool) : List Char → Except Flaw (Option (Sign × List Char))
  | [] => .ok none
  | '\\' :: rest =>
    match rest with
    | [] => .error .backslash
    | c :: rest =>
      let space := (Charset.ofName? "space").getD .none
      let basic : Option Sign := if dialect.extended then none else match c with
        | '(' => some .opens
        | ')' => some .closes
        | '|' => some .bar
        | '+' => some .plus
        | '?' => some .query
        | '\x7b' => some .brace
        | _ => none
      let either : Option Sign := match c with
        | 'w' => some (.one wordSet)
        | 'W' => some (.one (.complement wordSet))
        | 's' => some (.one space)
        | 'S' => some (.one (.complement space))
        | 'b' => some (.look .wordEdge)
        | 'B' => some (.look .noWordEdge)
        | '<' => some (.look .wordStart)
        | '>' => some (.look .wordEnd)
        | '\x60' => some (.look .start)
        | '\'' => some (.look .finish)
        | _ => if '1' ≤ c && c ≤ '9' then some (.back (c.toNat - 48)) else none
      .ok (some ((basic.or either).getD (.one (.single c)), rest))
  | '[' :: rest => do
    let (set, rest) ← bracket dialect rest
    return some (.one set, rest)
  | c :: rest =>
    let plain : Sign := .one (.single c)
    let atEnd := match rest with
      | [] => true
      | ')' :: _ => dialect.extended
      | '|' :: _ => dialect.extended
      | '\\' :: d :: _ => !dialect.extended && (d = ')' || d = '|')
      | _ => false
    let found : Sign := match c with
      | '.' => .one .any
      | '*' => .star
      | '^' => if dialect.extended || caret then .look .start else plain
      | '$' => if dialect.extended || atEnd then .look .finish else plain
      | '(' => if dialect.extended then .opens else plain
      | ')' => if dialect.extended then .closes else plain
      | '|' => if dialect.extended then .bar else plain
      | '+' => if dialect.extended then .plus else plain
      | '?' => if dialect.extended then .query else plain
      | '\x7b' => if dialect.extended then .brace else plain
      | _ => plain
    .ok (some (found, rest))

def countLimit : Nat := 32767

/-- A count in braces whose opening has been read; none if it stands for itself. -/
def bounds (dialect : Dialect) (text : List Char) :
    Except Flaw (Option (Nat × Option Nat × List Char)) := do
  let close := if dialect.extended then ['\x7d'] else ['\\', '\x7d']
  let low := text.takeWhile Char.isDigit
  let rest := text.drop low.length
  let (high, rest) : Option (List Char) × List Char := match rest with
    | ',' :: more => (some (more.takeWhile Char.isDigit), more.dropWhile Char.isDigit)
    | _ => (none, rest)
  let plain := dialect.extended && dialect.lenient
  if (low.isEmpty && high.isNone) || !close.isPrefixOf rest then
    if plain then return none
    throw (if rest.isEmpty then .brace else .braceContent)
  let least := Text.digitsValue low
  let most := match high with
    | none => some least
    | some [] => none
    | some digits => some (Text.digitsValue digits)
  if most.any (· < least) then throw .braceContent
  if countLimit < most.getD least then throw .size
  return some (least, most, rest.drop close.length)

structure Scan where
  rest : List Char
  opened : Nat := 0
  closed : List Nat := []

abbrev Reader := StateT Scan (Except Flaw)

def seqOf : List Posix → Posix
  | [] => .empty
  | [only] => only
  | first :: rest => .seq first (seqOf rest)

def repetitions (dialect : Dialect) : Nat → Bool → Posix → Reader Posix
  | 0, _, part => return part
  | fuel + 1, again, part => do
    let scan ← get
    let strict := again && !dialect.extended && !dialect.lenient
    match sign dialect false scan.rest with
    | .ok (some (.star, rest)) =>
      if strict then throw .preceding
      set { scan with rest }
      repetitions dialect fuel true (.repeated part 0 none)
    | .ok (some (.plus, rest)) =>
      set { scan with rest }
      repetitions dialect fuel true (.repeated part 1 none)
    | .ok (some (.query, rest)) =>
      set { scan with rest }
      repetitions dialect fuel true (.repeated part 0 (some 1))
    | .ok (some (.brace, rest)) =>
      if strict then throw .preceding
      match ← (bounds dialect rest : Except Flaw _) with
      | none => return part
      | some (least, most, rest) =>
        set { scan with rest }
        repetitions dialect fuel true (.repeated part least most)
    | _ => return part

mutual
def choices (dialect : Dialect) : Nat → Bool → Reader Posix
  | 0, _ => return .empty
  | fuel + 1, inside => do
    let first ← parts dialect fuel inside true []
    let scan ← get
    match ← (sign dialect true scan.rest : Except Flaw _) with
    | some (.bar, rest) =>
      set { scan with rest }
      return .alt first (← choices dialect fuel inside)
    | _ => return first

/-- Parts one after the other; `read` are those read so far, last first, and `start` where
nothing has been read but an anchor. -/
def parts (dialect : Dialect) : Nat → Bool → Bool → List Posix → Reader Posix
  | 0, _, _, read => return seqOf read.reverse
  | fuel + 1, inside, start, read => do
    let scan ← get
    let done := seqOf read.reverse
    match ← (sign dialect (start && read.isEmpty) scan.rest : Except Flaw _) with
    | none => return done
    | some (found, rest) =>
      let take := fun (part : Posix) => do
        let part ← repetitions dialect scan.rest.length false part
        parts dialect fuel inside false (part :: read)
      let plain := fun (c : Char) => do
        set { scan with rest }
        take (.one (.single c))
      let operator := fun (c : Char) => do
        if !start then plain c
        else if !dialect.extended then plain c
        else if dialect.lenient then
          set { scan with rest }
          parts dialect fuel inside true read
        else throw .preceding
      match found with
      | .bar => return done
      | .closes =>
        if inside then return done
        else if dialect.extended && dialect.lenient then plain ')'
        else throw .closed
      | .opens =>
        let number := scan.opened + 1
        set { scan with rest, opened := number }
        let body ← choices dialect fuel true
        let scan ← get
        match ← (sign dialect false scan.rest : Except Flaw _) with
        | some (.closes, rest) =>
          set { scan with rest, closed := number :: scan.closed }
          take (.group number body)
        | _ => throw .opened
      | .one held =>
        set { scan with rest }
        take (.one held)
      | .look condition =>
        set { scan with rest }
        parts dialect fuel inside true (.look condition :: read)
      | .back number =>
        if !scan.closed.contains number then throw .backreference
        set { scan with rest }
        take (.back number)
      | .star => operator '*'
      | .plus => operator '+'
      | .query => operator '?'
      | .brace =>
        if start && !dialect.lenient then throw .preceding
        if start && dialect.extended then
          match ← (bounds dialect rest : Except Flaw _) with
          | some (_, _, rest) =>
            set { scan with rest }
            parts dialect fuel inside true read
          | none => plain '\x7b'
        else plain '\x7b'
end

def read (dialect : Dialect) (text : List Char) : Except Flaw (Posix × Nat) := do
  let (expression, scan) ← (choices dialect (2 * text.length + 2) false).run { rest := text }
  return (expression, scan.opened)

def folded : Posix → Posix
  | .one set => .one (.folded set)
  | .seq first second => .seq first.folded second.folded
  | .alt first second => .alt first.folded second.folded
  | .repeated body least most => .repeated body.folded least most
  | .group number body => .group number body.folded
  | expression => expression

def multiLine : Posix → Posix
  | .look .start => .look .lineStart
  | .look .finish => .look .lineEnd
  | .seq first second => .seq first.multiLine second.multiLine
  | .alt first second => .alt first.multiLine second.multiLine
  | .repeated body least most => .repeated body.multiLine least most
  | .group number body => .group number body.multiLine
  | expression => expression

/-! ## Matching -/

/-- Where a match has come to, and what groups matched: the last match of each first. -/
structure Reach where
  place : Nat
  groups : List (Nat × Nat × Nat) := []
  deriving DecidableEq

def gapAt (text : Array Char) (place : Nat) : Gap :=
  ⟨if place = 0 then none else text[place - 1]?, text[place]?⟩

def distinct (size : Nat) (reaches : List Reach) : List Reach :=
  match reaches with
  | [] => []
  | [only] => [only]
  | _ =>
    (reaches.foldl (fun (kept, marks) reach =>
      if marks[reach.place]?.getD true then (kept, marks)
      else (reach :: kept, marks.set! reach.place true))
      (([] : List Reach), Array.replicate (size + 1) false)).1.reverse

def runs (text : Array Char) (set : Charset) (reach : Reach) :
    Nat → Nat → List Reach → List Reach
  | 0, _, found => found
  | fuel + 1, place, found =>
    match text[place]? with
    | some c =>
      if set.mem c then runs text set reach fuel (place + 1) ({ reach with place := place + 1 } :: found)
      else found
    | none => found

/-- Repeats a step, the most often first, going through each place once. -/
def closure (step : Reach → List Reach) :
    Nat → Array Bool × List Reach → Reach → Array Bool × List Reach
  | 0, found, _ => found
  | fuel + 1, (seen, found), reach =>
    if seen[reach.place]?.getD true then (seen, found)
    else
      let nexts := (step reach).filter (·.place ≠ reach.place)
      let (seen, found) := nexts.foldl (closure step fuel) (seen.set! reach.place true, found)
      (seen, reach :: found)

def upToTimes (step : Reach → List Reach) : Nat → Reach → List Reach
  | 0, reach => [reach]
  | n + 1, reach =>
    ((step reach).filter (·.place ≠ reach.place)).flatMap (upToTimes step n) ++ [reach]

def exactly (size : Nat) (step : Reach → List Reach) : Nat → List Reach → List Reach
  | 0, reaches => reaches
  | n + 1, reaches => exactly size step n (distinct size (reaches.flatMap step))

def lead (text : Array Char) : Posix → Reach → List Reach
  | .empty, reach => [reach]
  | .one set, reach =>
    match text[reach.place]? with
    | some c => if set.mem c then [{ reach with place := reach.place + 1 }] else []
    | none => []
  | .look condition, reach => if condition.holds (gapAt text reach.place) then [reach] else []
  | .seq first second, reach =>
    distinct text.size ((lead text first reach).flatMap (lead text second))
  | .alt first second, reach => distinct text.size (lead text first reach ++ lead text second reach)
  | .repeated body least most, reach =>
    let started := exactly text.size (lead text body) least [reach]
    let more := fun reach =>
      match most, body with
      | none, .one set => runs text set reach (text.size + 1) reach.place [reach]
      | none, _ =>
        (closure (lead text body) (text.size + 2) (Array.replicate (text.size + 1) false, []) reach).2.reverse
      | some most, _ => distinct text.size (upToTimes (lead text body) (most - least) reach)
    distinct text.size (started.flatMap more)
  | .group number body, reach =>
    (lead text body reach).map fun after =>
      { after with groups := (number, reach.place, after.place) :: after.groups }
  | .back number, reach =>
    match reach.groups.lookup number with
    | none => []
    | some (start, stop) =>
      let length := stop - start
      if text.extract start stop = text.extract reach.place (reach.place + length) &&
          reach.place + length ≤ text.size then
        [{ reach with place := reach.place + length }]
      else []

def firsts : Posix → Option Charset
  | .one set => some set
  | .seq first second =>
    match first with
    | .look _ => firsts second
    | _ => firsts first
  | .alt first second => do return .union (← firsts first) (← firsts second)
  | .repeated body least _ => if least = 0 then none else firsts body
  | .group _ body => firsts body
  | _ => none

structure Found where
  start : Nat
  stop : Nat
  groups : List (Nat × Nat × Nat)

def matchAt? (expression : Posix) (text : Array Char) (start : Nat) : Option Found :=
  let longest := (lead text expression { place := start }).foldl (fun best reach =>
    match best with
    | none => some reach
    | some other => if other.place < reach.place then some reach else some other) (none : Option Reach)
  longest.map fun reach => ⟨start, reach.place, reach.groups⟩

def findFrom (expression : Posix) (text : Array Char) (firsts : Option Charset) :
    Nat → Nat → Option Found
  | 0, _ => none
  | fuel + 1, start =>
    let possible := match firsts with
      | some set => (text[start]?).any set.mem
      | none => true
    match if possible then expression.matchAt? text start else none with
    | some found => some found
    | none => findFrom expression text firsts fuel (start + 1)

def find? (expression : Posix) (text : Array Char) (start : Nat) : Option Found :=
  findFrom expression text expression.firsts (text.size + 1 - start) start

def Found.group? (found : Found) (text : Array Char) (number : Nat) : Option (List Char) :=
  if number = 0 then some (text.extract found.start found.stop).toList
  else (found.groups.lookup number).map fun (start, stop) => (text.extract start stop).toList

end Posix
end Retrace.Regex
