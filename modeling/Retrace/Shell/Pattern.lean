import Retrace.Unix.Status

/-!
# Shell patterns

A pattern is read from a row of characters, each plain or active. Active `*`, `?`
and `[` match more than themselves, and an active backslash makes the character
behind it plain. A pattern with active characters also stands for the paths it
matches. Where groups are known, parentheses behind some signs hold alternatives.
-/

namespace Retrace.Shell

open Unix

abbrev Mark := Char × Bool

inductive Member where
  | range (low high : Char)
  | kind (name : String)
  deriving DecidableEq, Repr

inductive Glob where
  | char (c : Char)
  | any
  | run
  | among (negated : Bool) (members : List Member)
  | ways (sign : Char) (choices : List (List Glob))
  deriving Repr

namespace Member

def kinds : List (String × (Char → Bool)) :=
  let isPrint := fun c : Char => ' ' ≤ c && c ≤ '~'
  [("alnum", Char.isAlphanum), ("alpha", Char.isAlpha), ("blank", fun c => c = ' ' || c = '\t'),
    ("cntrl", fun c => c < ' ' || c = '\x7f'), ("digit", Char.isDigit),
    ("graph", fun c => isPrint c && c ≠ ' '), ("lower", Char.isLower), ("print", isPrint),
    ("punct", fun c => isPrint c && c ≠ ' ' && !c.isAlphanum),
    ("space", fun c => c = ' ' || ('\t' ≤ c && c ≤ '\r')), ("upper", Char.isUpper),
    ("xdigit", fun c => c.isDigit || ('a' ≤ c && c ≤ 'f') || ('A' ≤ c && c ≤ 'F'))]

/-- The order of bytes in a range puts those above 127 first. -/
def key (c : Char) : Nat := (c.toNat + 128) % 256

def holds (c : Char) : Member → Bool
  | .range low high => key low ≤ key c && key c ≤ key high
  | .kind name => ((kinds.lookup name).map (· c)).getD false

def named? (marks : List Mark) : Option (Member × List Mark) :=
  kinds.findSome? fun (name, _) =>
    let written := ((':' :: name.toList) ++ [':', ']']).map (·, false)
    if written.isPrefixOf marks then some (.kind name, marks.drop written.length) else none

def first (c : Char) (plain : Bool) (rest : List Mark) : Member × List Mark :=
  match if !plain && c = '[' then named? rest else none with
  | some found => found
  | none =>
    let (low, rest) : Char × List Mark :=
      match !plain && c = '\\', rest with
      | true, (escaped, _) :: rest => (escaped, rest)
      | _, _ => (c, rest)
    match rest with
    | ('-', false) :: (high, quoted) :: after =>
      if high = ']' && !quoted then (.range low low, rest)
      else match high = '\\' && !quoted, after with
        | true, (escaped, _) :: after => (.range low escaped, after)
        | _, _ => (.range low high, after)
    | _ => (.range low low, rest)

/-- The members up to the closing bracket, which is not taken for one at the start. -/
def row : Nat → Bool → List Mark → Option (List Member × List Mark)
  | 0, _, _ => none
  | _ + 1, _, [] => none
  | fuel + 1, atStart, (c, plain) :: rest =>
    if c = ']' && !plain && !atStart then some ([], rest)
    else
      let (member, rest) := first c plain rest
      (row fuel false rest).map fun (members, after) => (member :: members, after)

end Member

namespace Glob

def holds (c : Char) : Glob → Bool
  | .char d => c = d
  | .any => true
  | .run => false
  | .among negated members => members.any (·.holds c) != negated
  | .ways .. => false

def bracket? (marks : List Mark) : Option (Glob × List Mark) :=
  let (negated, members) : Bool × List Mark :=
    match marks with
    | ('!', false) :: rest => (true, rest)
    | ('^', false) :: rest => (true, rest)
    | _ => (false, marks)
  (Member.row (marks.length + 1) true members).map fun (members, rest) =>
    (.among negated members, rest)

/-- The alternatives up to a closing parenthesis, and what follows. The running one and those
before it come last first. -/
def cutWays : Nat → List Mark → List (List Mark) → List Mark →
    Option (List (List Mark) × List Mark)
  | _, _, _, [] => none
  | depth, current, done, (c, plain) :: rest =>
    let keep := fun depth : Nat => cutWays depth ((c, plain) :: current) done rest
    if plain then keep depth
    else if c = '(' then keep (depth + 1)
    else if c = '|' && depth = 0 then cutWays depth [] (current.reverse :: done) rest
    else if c = ')' then
      match depth with
      | 0 => some ((current.reverse :: done).reverse, rest)
      | depth + 1 => keep depth
    else keep depth

def ways? (c : Char) : List Mark → Option (List (List Mark) × List Mark)
  | ('(', false) :: rest =>
    if ['?', '*', '+', '@', '!'].contains c then cutWays 0 [] [] rest else none
  | _ => none

def readWithin (groups : Bool) : Nat → List Mark → List Glob
  | 0, _ => []
  | _ + 1, [] => []
  | fuel + 1, (c, plain) :: rest =>
    if plain then .char c :: readWithin groups fuel rest
    else match if groups then ways? c rest else none with
      | some (choices, after) =>
        .ways c (choices.map (readWithin groups fuel)) :: readWithin groups fuel after
      | none =>
        if c = '*' then .run :: readWithin groups fuel rest
        else if c = '?' then .any :: readWithin groups fuel rest
        else if c = '\\' then
          match rest with
          | (escaped, _) :: rest => .char escaped :: readWithin groups fuel rest
          | [] => [.char c]
        else match if c = '[' then bracket? rest else none with
          | some (found, rest) => found :: readWithin groups fuel rest
          | none => .char c :: readWithin groups fuel rest

def read (marks : List Mark) : List Glob := readWithin false (marks.length + 1) marks

def readGroups (marks : List Mark) : List Glob := readWithin true (marks.length + 1) marks

def ofText (text : Bytes) : List Glob := read (text.map (·, false))

def isActive : Glob → Bool
  | .char _ => false
  | _ => true

def tails : Bytes → List Bytes
  | [] => [[]]
  | c :: rest => (c :: rest) :: tails rest

def merged (first second : List Bytes) : List Bytes :=
  let all := (first ++ second).mergeSort fun a b => b.length ≤ a.length
  all.foldr (fun text kept =>
    if kept.head?.any (·.length = text.length) then kept else text :: kept) []

def repeated (step : List Bytes → List Bytes) : Nat → List Bytes → List Bytes
  | 0, left => left
  | fuel + 1, left =>
    let next := merged left (step left)
    if next.length = left.length then left else repeated step fuel next

mutual

/-- What may be left of a text behind the parts of a pattern, longest first, given the
same of the parts before them. -/
def leftovers : List Glob → List Bytes → List Bytes
  | [], left => left
  | .run :: rest, left =>
    match left with
    | [] => []
    | longest :: _ => leftovers rest (tails longest)
  | .ways sign choices :: rest, left =>
    let size := (left.headD []).length + 1
    let once := leftoversAny choices left
    let after :=
      if sign = '@' then once
      else if sign = '?' then merged left once
      else if sign = '*' then repeated (fun left => leftoversAny choices left) size left
      else if sign = '+' then repeated (fun left => leftoversAny choices left) size once
      else left.foldl (fun found text =>
        let taken := leftoversAny choices [text]
        merged found ((tails text).filter fun tail => !taken.any (·.length = tail.length))) []
    leftovers rest after
  | part :: rest, left =>
    leftovers rest (left.filterMap fun
      | c :: after => if part.holds c then some after else none
      | [] => none)

def leftoversAny : List (List Glob) → List Bytes → List Bytes
  | [], _ => []
  | pattern :: rest, left => merged (leftovers pattern left) (leftoversAny rest left)

end

def fits (pattern : List Glob) (text : Bytes) : Bool :=
  (leftovers pattern [text]).getLast? = some []

def trimStart? (longest : Bool) (pattern : List Glob) (text : Bytes) : Option Bytes :=
  let left := leftovers pattern [text]
  if longest then left.getLast? else left.head?

mutual

def mirrored : List Glob → List Glob
  | [] => []
  | .ways sign choices :: rest => mirrored rest ++ [.ways sign (mirroredAll choices)]
  | part :: rest => mirrored rest ++ [part]

def mirroredAll : List (List Glob) → List (List Glob)
  | [] => []
  | pattern :: rest => mirrored pattern :: mirroredAll rest

end

def trimEnd? (longest : Bool) (pattern : List Glob) (text : Bytes) : Option Bytes :=
  (trimStart? longest (mirrored pattern) text.reverse).map List.reverse

def parts : List Mark → List (List Mark)
  | [] => [[]]
  | (c, plain) :: rest =>
    if c = '/' then [] :: parts rest
    else match parts rest with
      | first :: more => ((c, plain) :: first) :: more
      | [] => [[(c, plain)]]

mutual

def folded : List Glob → List Glob
  | [] => []
  | .char c :: rest => .char c.toLower :: folded rest
  | .ways sign choices :: rest => .ways sign (foldedAll choices) :: folded rest
  | .among negated members :: rest =>
    .among negated (members ++ members.map fun
      | .range low high => .range low.toLower high.toLower
      | member => member) :: folded rest
  | part :: rest => part :: folded rest

def foldedAll : List (List Glob) → List (List Glob)
  | [] => []
  | pattern :: rest => folded pattern :: foldedAll rest

end

def fitsFolding (folds : Bool) (pattern : List Glob) (text : Bytes) : Bool :=
  if folds then fits (folded pattern) (text.map Char.toLower) else fits pattern text

/-! ## Paths -/

structure Finding where
  (groups hidden : Bool := false)
  dots : Bool := true
  (folds deep : Bool := false)

def showsHidden : List Glob → Bool
  | .char '.' :: _ => true
  | .ways _ choices :: _ => choices.any fun
    | .char '.' :: _ => true
    | _ => false
  | _ => false

def namesIn (view : View) (path : Bytes) : List Bytes :=
  match view.volume.find view.cwd (if path.isEmpty then ['.'] else path) true with
  | .error _ => []
  | .ok inode => if view.volume.isDir inode then (view.volume.listing inode).map (·.1) else []

def finds (finding : Finding) (part : List Glob) (name : Bytes) : Bool :=
  let isDot := name = ['.'] || name = ['.', '.']
  (name.head? ≠ some '.' || showsHidden part || (finding.hidden && !isDot)) &&
    (finding.dots || !isDot) && fitsFolding finding.folds part name

def isDeep (finding : Finding) : List Glob → Bool
  | [.run, .run] => finding.deep
  | _ => false

def isOwnDir (view : View) (path : Bytes) : Bool :=
  match view.body? path false with
  | some (.dir ..) => true
  | _ => false

def allBelow (view : View) (finding : Finding) : Nat → Bytes → List Bytes
  | 0, _ => []
  | fuel + 1, base =>
    ((namesIn view base).filter fun name => name.head? ≠ some '.' || finding.hidden).flatMap
      fun name =>
        let path := base ++ name
        path :: if isOwnDir view path then allBelow view finding fuel (path ++ ['/']) else []

def maxDepth : Nat := 1000

def pathsAlong (view : View) (finding : Finding) : Bytes → List (List Glob) → List Bytes
  | base, [] => [base]
  | base, part :: more =>
    let step := fun name : Bytes =>
      let path := base ++ name
      if more.isEmpty then if view.pathExists path false then [path] else []
      else pathsAlong view finding (path ++ ['/']) more
    if isDeep finding part then
      let inside := allBelow view finding maxDepth base
      if more.isEmpty then (if base.isEmpty then [] else [base]) ++ inside
      else
        let dirs := inside.filter (isOwnDir view)
        pathsAlong view finding base more ++
          dirs.flatMap fun path => pathsAlong view finding (path ++ ['/']) more
    else if !part.any isActive then
      step (part.filterMap fun
        | .char c => some c
        | _ => none)
    else
      (['.'] :: ['.', '.'] :: namesIn view base).flatMap fun name =>
        if finds finding part name then step name else []

def matching (view : View) (finding : Finding) (field : List Mark) : List Bytes :=
  let pattern := (parts field).map fun part => readWithin finding.groups (part.length + 1) part
  if !pattern.any (·.any isActive) then []
  else (pathsAlong view finding [] pattern).eraseDups.mergeSort fun a b => !decide (b < a)

def isOpen (field : List Mark) : Bool :=
  field.any fun (c, plain) => !plain && (c = '*' || c = '?' || c = '[')

def paths (view : View) (field : List Mark) : List Bytes :=
  let text := field.map (·.1)
  if !isOpen field then [text]
  else match matching view {} field with
    | [] => [text]
    | found => found

end Glob
end Retrace.Shell
