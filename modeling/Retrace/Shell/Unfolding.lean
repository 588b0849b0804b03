import Retrace.Shell.Braces
import Retrace.Shell.Calculation
import Retrace.Shell.Expansion
import Retrace.Shell.Listing

/-!
# Unfolding

What the words of the richer shell stand for. A parameter may stand for a row of
values, of which rules make other rows; what comes out is cut into fields, which may be
patterns for paths.
-/

/-!
## Splitting

How the richer shell cuts an expanded word into fields. What came out of an expansion
outside quotes is cut at separators. Blanks among them make no empty fields; every other
separator ends a field, together with the blanks around it. The elements of a row stay
apart in any case.
-/

namespace Retrace.Shell

inductive Atom where
  | char (mark : Mark) (splits : Bool)
  /-- Quotes stood here, so that there is a field even if it is empty. -/
  | null
  | cut
  deriving DecidableEq, Repr

namespace Atom

def mark? : Atom → Option Mark
  | .char mark _ => some mark
  | _ => none

def marks (atoms : List Atom) : List Mark := atoms.filterMap mark?

def text (atoms : List Atom) : Bytes := (marks atoms).map (·.1)

def ofValue (quoted : Bool) (value : Bytes) : List Atom :=
  value.map fun c => .char (c, quoted) !quoted

def ofText (quoted : Bool) (text : Bytes) : List Atom :=
  text.map fun c => .char (c, quoted) false

def separates (separators : Bytes) : Atom → Bool
  | .char (c, _) splits => splits && separators.contains c
  | _ => false

def isGap (separators : Bytes) : Atom → Bool
  | .char (c, _) splits => splits && separators.contains c && (c = ' ' || c = '\t' || c = '\n')
  | _ => false

def afterSeparator (separators : Bytes) (isGapAt : Bool) (rest : List Atom) : List Atom :=
  let rest := rest.dropWhile (isGap separators)
  match rest with
  | next :: more =>
    if isGapAt && next.separates separators then more.dropWhile (isGap separators) else rest
  | [] => []

def cutAll (separators : Bytes) : Nat → List Atom → List (List Mark)
  | 0, _ => []
  | fuel + 1, atoms =>
    let field := atoms.takeWhile fun atom => !atom.separates separators
    match atoms.drop field.length with
    | [] => if field.isEmpty then [] else [marks field]
    | separator :: rest =>
      let isGapAt := separator.isGap separators
      let others := cutAll separators fuel (afterSeparator separators isGapAt rest)
      if field.isEmpty && isGapAt then others else marks field :: others

def elementFields (separators : Bytes) (atoms : List Atom) : List (List Mark) :=
  cutAll separators (atoms.length + 1) (atoms.dropWhile (isGap separators))

def elements : List Atom → List (List Atom)
  | [] => [[]]
  | atom :: rest =>
    match atom, elements rest with
    | .cut, found => [] :: found
    | _, first :: more => (atom :: first) :: more
    | _, [] => [[atom]]

def fields (separators : Bytes) (atoms : List Atom) : List (List Mark) :=
  (elements atoms).flatMap (elementFields separators)

end Atom
/-! ## Meanings -/

open Unix Step Text

inductive Meaning where
  | nothing
  | one (value : Bytes)
  | many (each : Bool) (values : List Bytes)

inductive Spot where
  | whole
  | all (each : Bool)
  | element (index : Bytes)

namespace Meaning

def map (change : Bytes → Bytes) : Meaning → Meaning
  | .nothing => .nothing
  | .one value => .one (change value)
  | .many each values => .many each (values.map change)

def stands (emptyToo : Bool) : Meaning → Bool
  | .nothing => false
  | .one value => !emptyToo || !value.isEmpty
  | .many _ [] => false
  | .many _ values => !emptyToo || !(joined ' ' values).isEmpty

def between (session : Session) (each : Bool) : Bytes :=
  if each then [' ']
  else match session.value? "IFS".toList with
    | none => [' ']
    | some separators => separators.take 1

def text (session : Session) : Meaning → Bytes
  | .nothing => []
  | .one value => value
  | .many each values => (between session each).intercalate values

def atoms (session : Session) (splits quoted : Bool) : Meaning → List Atom
  | .nothing => []
  | .one value => Atom.ofValue quoted value
  | .many each values =>
    if splits && quoted && each then
      [Atom.cut].intercalate (values.map fun value => .null :: Atom.ofValue true value)
    else if splits && !quoted then [Atom.cut].intercalate (values.map (Atom.ofValue false))
    else Atom.ofValue quoted ((between session each).intercalate values)

end Meaning

def Piece.isEach : Piece → Bool
  | .param _ ['@'] .plain _ => true
  | .reference _ _ name index (.substitute '+' _) _ =>
    name = ['@'] || match index with
      | .all each => each
      | _ => false
  | .reference _ _ _ _ (.substitute ..) _ => false
  | .reference _ _ _ _ .length _ => false
  | .reference _ _ _ (.all each) _ _ => each
  | .reference _ _ _ _ (.names each) _ => each
  | .reference _ _ name _ _ _ => name = ['@']
  | _ => false

variable (session : Session)

def Session.flags : Bytes :=
  fullOptions.filterMap (fun (name, letter) => if session.has name then letter else none) ++
    (if session.given.isSome then ['c'] else []) ++ if session.has "stdin" then ['s'] else []

def Session.special? (name : Bytes) : Option Meaning :=
  let one := fun value => some (.one value)
  match name with
  | ['@'] => some (.many true session.params)
  | ['*'] => some (.many false session.params)
  | ['#'] => one (decimal session.params.length)
  | ['?'] => one (decimal session.status)
  | ['$'] => one (decimal session.root)
  | ['!'] => some ((session.lastJob.map fun job => .one (decimal job)).getD .nothing)
  | ['-'] => one session.flags
  | _ =>
    if name.head?.any Char.isDigit then
      match digitsValue name with
      | 0 => one session.name
      | place + 1 => some ((session.params[place]?.map .one).getD .nothing)
    else none

def lacking {α : Type} (name : Bytes) : Expand α := do
  modify fun session => { session with missing := true }
  refuse (name ++ ": unbound variable")

def refuseLocked {α : Type} (message : Bytes) : Expand α := do
  modify fun session => { session with locked := true }
  refuse message

def refuseAll {α : Type} (message : Bytes) : Expand α := do
  modify fun session => { session with unwound := true }
  refuse message

def tellAsides : List Bytes → Expand Unit
  | [] => modify fun session => { session with asides := [] }
  | text :: rest => do
    Expand.of (complain text)
    tellAsides rest

def refuseSum {α : Type} : Calculation.Problem → Expand α
  | .unbound name => lacking name
  | .told message => do
    modify fun session => { session with unsettled := true }
    refuse message
  | .locked message => refuseLocked message
  | .index message => do
    modify fun session => { session with command := none }
    refuseAll message

def settling {α : Type} (body : Calculation.Settling α) : Expand (Except Calculation.Problem α) := do
  let (found, session) := body.run (← get)
  set session
  tellAsides session.asides.reverse
  return found

def settleSum {α : Type} (body : Calculation.Settling α) : Expand α := do
  match ← settling body with
  | .ok value => return value
  | .error problem => refuseSum problem

def reckon (text : Bytes) : Expand Int64 := settleSum (Calculation.eval text)

def reckonAbout (what text : Bytes) : Expand Int64 := do
  match ← settling (Calculation.eval text) with
  | .ok value => return value
  | .error (.told message) => refuseSum (.told (what ++ ':' :: ' ' :: message))
  | .error problem => refuseSum problem

def reckonHeld (text : Bytes) : Expand Int64 := do
  match ← settling (Calculation.eval text) with
  | .ok value => return value
  | .error (.told message) => refuseAll message
  | .error problem => refuseSum problem

def badIndex (name index : Bytes) : Bytes :=
  name ++ '[' :: index ++ "]: bad array subscript"

def keyOf (name index : Bytes) : Expand Key := do
  match ← settleSum (Calculation.keyFor Calculation.eval true name index) with
  | some key => return key
  | none => refuse (badIndex name index)

def keyToRead (name index : Bytes) : Expand (Option Key) := do
  let key ← settleSum (Calculation.keyFor Calculation.eval false name index)
  match key with
  | none => Expand.of (complain (name ++ ": bad array subscript"))
  | some (.name []) => Expand.of (complain (name ++ ": bad array subscript"))
  | some _ => pure ()
  return key

def meaningOf (name : Bytes) (spot : Spot) : Expand Meaning := do
  let session ← get
  match session.special? name, spot with
  | some meaning, _ => return meaning
  | none, .whole =>
    let (text, session) := session.readText? name
    set session
    return (text.map .one).getD .nothing
  | none, .all each =>
    return .many each (((session.named? name).map fun held =>
      (Session.elementsOf held).values).getD [])
  | none, .element index =>
    let key ← keyToRead name index
    let held := (← get).named? name
    return match key, held with
      | some key, some held =>
        (((Session.elementsOf held).get? key).map Meaning.one).getD .nothing
      | _, _ => .nothing

def spotName (name : Bytes) : Spot → Bytes
  | .element index => name ++ '[' :: index ++ [']']
  | _ => name

def neededMeaning (name : Bytes) (spot : Spot) : Expand Meaning := do
  let meaning ← meaningOf name spot
  match meaning with
  | .nothing => if (← get).has "nounset" then lacking (spotName name spot) else return meaning
  | _ => return meaning

def spot? (text : Bytes) : Option (Bytes × Spot) :=
  let name := text.takeWhile isNameChar
  match text.drop name.length with
  | [] =>
    if isName name || (!name.isEmpty && name.all Char.isDigit) then some (name, .whole) else none
  | '[' :: rest =>
    if !isName name || rest.getLast? ≠ some ']' then none
    else match rest.dropLast with
      | ['@'] => some (name, .all true)
      | ['*'] => some (name, .all false)
      | [] => none
      | index => some (name, .element index)
  | [c] => if name.isEmpty && isSpecial c then some ([c], .whole) else none
  | _ => none

def indirectly (name : Bytes) (index : Index) (spot : Spot) : Expand (Bytes × Spot) := do
  match ← meaningOf name spot with
  | .nothing =>
    if isName name && ((← get).named? name).isNone then
      refuse (name ++ index.shown ++ ": invalid indirect expansion")
    return ([], .whole)
  | meaning =>
    let text := meaning.text (← get)
    match spot? text with
    | some target => return target
    | none => refuse (text ++ ": invalid variable name")

/-! ## Rules -/

def Session.pattern (marks : List Mark) : List Glob :=
  if session.switched "extglob" then Glob.readGroups marks else Glob.read marks

def trimmedOnce (atEnd longest : Bool) (pattern : List Glob) (value : Bytes) : Bytes :=
  ((if atEnd then Glob.trimEnd? else Glob.trimStart?) longest pattern value).getD value

def fillMatch (signed : Bool) (found : Bytes) : List Mark → Bytes
  | [] => []
  | ('\\', false) :: (c, false) :: rest =>
    if signed && (c = '&' || c = '\\') then c :: fillMatch signed found rest
    else '\\' :: fillMatch signed found ((c, false) :: rest)
  | (c, quoted) :: rest =>
    (if signed && c = '&' && !quoted then found else [c]) ++ fillMatch signed found rest

def replaceFrom (all : Bool) (pattern : List Glob) (fill : Bytes → Bytes) :
    Nat → Bytes → Bytes
  | 0, text => text
  | _ + 1, [] => []
  | fuel + 1, c :: rest =>
    match Glob.trimStart? true pattern (c :: rest) with
    | none => c :: replaceFrom all pattern fill fuel rest
    | some left =>
      let found := (c :: rest).take (rest.length + 1 - left.length)
      let goOn := fun text => if all then replaceFrom all pattern fill fuel text else text
      if found.isEmpty then fill [] ++ c :: goOn rest else fill found ++ goOn left

def replaced (all : Bool) (pattern replacement : List Mark)
    (value : Bytes) : Bytes :=
  let fill := fun found => fillMatch (session.switched "patsub_replacement") found replacement
  match all, pattern with
  | false, ('#', false) :: rest =>
    match Glob.trimStart? true (session.pattern rest) value with
    | some left => fill (value.take (value.length - left.length)) ++ left
    | none => value
  | false, ('%', false) :: rest =>
    match Glob.trimEnd? true (session.pattern rest) value with
    | some left => left ++ fill (value.drop left.length)
    | none => value
  | _, [] => value
  | _, _ =>
    let pattern := session.pattern pattern
    if value.isEmpty then if Glob.fits pattern [] then fill [] else []
    else replaceFrom all pattern fill (value.length + 1) value

def recasedChar (mark c : Char) : Char :=
  match mark with
  | '^' => c.toUpper
  | ',' => c.toLower
  | _ => if c.isUpper then c.toLower else c.toUpper

def recased (mark : Char) (all : Bool) (pattern : List Glob) (value : Bytes) : Bytes :=
  let change := fun c : Char =>
    if pattern.isEmpty || Glob.fits pattern [c] then recasedChar mark c else c
  if all then value.map change
  else match value with
    | [] => []
    | c :: rest => change c :: rest

/-- Where a part of so much begins, counted from the end if the place is negative. -/
def partStart? (size : Nat) (start : Int) : Option Nat :=
  let start := if start < 0 then start + size else start
  if 0 ≤ start && start ≤ size then some start.toNat else none

def slicedText (start : Int) (count : Option (Int × Bytes)) (value : Bytes) :
    Expand Bytes := do
  match partStart? value.length start, count with
  | none, _ => return []
  | some start, none => return value.drop start
  | some start, some (count, written) =>
    let finish := if count < 0 then (value.length : Int) + count else (start : Int) + count
    if finish < start then refuse (written ++ ": substring expression < 0")
    return (value.drop start).take (finish - start).toNat

def slicedRow (name : Bytes) (each : Bool) (start : Int) (count : Option (Int × Bytes)) :
    Expand Meaning := do
  let session ← get
  let limited (values : List Bytes) : Expand Meaning := do
    match count with
    | some (count, written) =>
      if count < 0 then refuse (written ++ ": substring expression < 0")
      return .many each (values.take count.toNat)
    | none => return .many each values
  if name = ['@'] || name = ['*'] then
    let all := session.name :: session.params
    limited (((partStart? all.length start).map all.drop).getD [])
  else match (session.named? name).map Session.elementsOf with
    | none => return .many each []
    | some (.row []) => return .many each []
    | some (.row entries) =>
      match partStart? (Elements.row entries).afterLast start with
      | none => return .many each []
      | some start => limited ((entries.filter fun entry => start ≤ entry.1).map (·.2))
    | some (.table entries) =>
      match partStart? (entries.length + 1) start with
      | none => return .many each []
      | some start => limited ((Elements.table entries).values.drop (start - 1))

def remade (name : Bytes) (spot : Spot) (meaning : Meaning) : Meaning :=
  let held := (session.named? name).getD {}
  match spot, meaning with
  | _, .many _ [] => .nothing
  | .all _, _ => .one (declaration name held)
  | _, .many _ values =>
    .one ("set -- " ++ joined ' ' (values.map Quoting.reusable))
  | _, .one value =>
    let letters := held.letters
    let lead := if letters.isEmpty then [] else ofString "declare -" ++ letters ++ [' ']
    .one (lead ++ name ++ '=' :: Quoting.reusable value)
  | _, .nothing =>
    let letters := held.letters
    if letters.isEmpty then .nothing
    else .one ("declare -" ++ letters ++ ' ' :: name)

def pairsOf (name : Bytes) : List (Bytes × Bytes) :=
  ((session.named? name).map fun held => (Session.elementsOf held).entries).getD []

def transformed (name : Bytes) (spot : Spot) (letter : Char)
    (meaning : Meaning) : Option Meaning :=
  let isAll := match spot with
    | .all _ => true
    | _ => false
  match letter with
  | 'Q' => some (meaning.map Quoting.reusable)
  | 'U' => some (meaning.map (recased '^' true []))
  | 'u' => some (meaning.map (recased '^' false []))
  | 'L' => some (meaning.map (recased ',' true []))
  | 'E' => some (meaning.map quotedEscapes)
  | 'P' => some meaning
  | 'A' => some (remade session name spot meaning)
  | 'a' =>
    let letters := ((session.named? name).map Variable.letters).getD []
    match meaning with
    | .many each values => some (.many each (values.map fun _ => letters))
    | _ => some (.one letters)
  | 'K' =>
    if !isAll then some (meaning.map Quoting.reusable)
    else
      let rows := (pairsOf session name).map fun (key, value) =>
        key ++ ' ' :: Quoting.forListing value
      some (.one (joined ' ' rows ++ if session.isTable name then [' '] else []))
  | 'k' =>
    if !isAll then some (meaning.map Quoting.reusable)
    else some (.many true ((pairsOf session name).flatMap fun (key, value) => [key, value]))
  | _ => none

def namesLike (start : Bytes) : List Bytes :=
  ((session.vars.filter fun (name, held) => start.isPrefixOf name && held.value.isSome).map
    (·.1)).mergeSort fun a b => !decide (b < a)

def assignMissing (name : Bytes) (spot : Spot) (value : Bytes) : Expand Unit := do
  let session ← get
  if (session.special? name).isSome then
    refuse ('$' :: name ++ ": cannot assign in this way")
  let key ← match spot with
    | .element index => do pure (some (← keyOf name index))
    | _ => pure none
  let value ← if ((← get).named? name).any (·.integer) then do
      pure (Integer.render (← reckonHeld value).toInt)
    else pure value
  match (← get).storeAt name key value with
  | .ok session => set session
  | .error message => refuse message

/-! ## Scripts inside words -/

/-- The script that a word holds; one that only names a file stands for what is in it, which is
told too. -/
def readingScript : Statement → Bool × Statement
  | .simple line [] [] [.mk (.number 0) .input target] =>
    (true, .simple line [] [[.text false "command".toList], [.text false "cat".toList]]
      [.mk (.number 0) .input target])
  | body => (false, body)

def Statement.firstLine? : Statement → Option Nat
  | .simple line .. => some line
  | .negated body => body.firstLine?
  | .pipeline (part :: _) => part.firstLine?
  | .both first _ => first.firstLine?
  | .either first _ => first.firstLine?
  | .sequence first _ => first.firstLine?
  | .background line _ => some line
  | .subshell line .. => some line
  | .redirected line .. => some line
  | .choice condition _ _ => condition.firstLine?
  | .loop _ condition _ => condition.firstLine?
  | .each line .. => some line
  | .select line .. => some line
  | .group body => body.firstLine?
  | .test line _ => some line
  | .reckon line _ => some line
  | .count line .. => some line
  | _ => none

/-- Goes into a child for a script inside a word: it is not strict by itself, and its lines are
told from the line of the word. -/
def enterScript (body : Statement) : Step Unit :=
  modify fun session =>
    { (if session.switched "inherit_errexit" then session else session.turn "errexit" false) with
      subshells := session.subshells + 1
      depth := session.depth + 1
      around := none
      lineShift := (body.firstLine?.map fun first => (session.line : Int) - first).getD 0 }

def writtenBy (self : Self) (body : Statement) : Step Bytes := do
  let (isReading, body) := readingScript body
  let (input, output) ← ask .pipe
  let job ← newJob
  let _ ← startMember self job false do
    intoPipe input output
    enterScript body
    if isReading then modify fun session => session.turn "xtrace" false
    self.eval body false
  close output
  let text ← run (Program.readAll input)
  close input
  let inner ← finishJob job
  modify fun session => { session with inner, status := inner }
  let text := text.toOption.getD []
  if text.contains '\x00' then
    complain "warning: command substitution: ignored null byte in input"
  return ((text.filter (· ≠ '\x00')).reverse.dropWhile (· = '\n')).reverse

def channelDescriptor (view : View) : Nat :=
  let taken := view.files.map (·.1)
  ((List.range 53).find? fun n => !taken.contains (63 - n)).elim 63 (63 - ·)

def closeAll : List Nat → Step Unit
  | [] => return
  | fd :: rest => do
    close fd
    closeAll rest

/-- Runs a script beside the session at the other end of a pipe, and gives the path of this end.
The script reads what is written to the path, or writes what is read from it. -/
def openChannel (self : Self) (writes : Bool) (body : Statement) : Step Bytes := do
  let (input, output) ← ask .pipe
  let process ← fork <| asChild self do
    closeAll (← get).channels
    if writes then
      close output
      let _ ← ask (.copy input 0)
      if input ≠ 0 then close input
    else intoPipe input output
    enterScript body
    self.eval body false
  close (if writes then input else output)
  let mine := if writes then output else input
  let fd := channelDescriptor (← look)
  let _ ← ask (.copy mine fd)
  close mine
  modify fun session =>
    { session with channels := fd :: session.channels, lastJob := some process }
  return "/dev/fd/" ++ decimal fd

def closingChannels (body : Step α) : Step α := do
  let before := (← get).channels
  let result ← body
  let opened := (← get).channels
  closeAll (opened.take (opened.length - before.length))
  modify fun session => { session with channels := before }
  return result

/-! ## Tildes -/

def tildeHome? (name : Bytes) : Option Bytes :=
  match name with
  | [] => some ((session.value? "HOME".toList).getD "/root".toList)
  | ['+'] => some session.here
  | ['-'] => session.value? "OLDPWD".toList
  | _ => if name = "root".toList then some "/root".toList else none

def tildeText (session : Session) (setting isEnd : Bool) : Nat → Bool → Bytes → Word
  | 0, _, text => [.text false text]
  | _ + 1, _, [] => []
  | fuel + 1, starts, text =>
    let ends := fun c : Char => c = '/' || (setting && c = ':')
    let plain : Word :=
      let passed := if setting then text.takeWhile (· ≠ ':') else text
      let passed := text.take (passed.length + 1)
      .text false passed ::
        tildeText session setting isEnd fuel (setting && passed.getLast? = some ':')
          (text.drop passed.length)
    match starts, text with
    | true, '~' :: rest =>
      let name := rest.takeWhile fun c => !ends c
      let after := rest.drop name.length
      if after.isEmpty && !isEnd then plain
      else match tildeHome? session name with
        | some home =>
          .quotation [.text true home] :: tildeText session setting isEnd fuel false after
        | none => plain
    | _, _ => plain

def tildeAtoms (operand : Bool) : Word → List Atom
  | [] => []
  | .text false chars :: rest =>
    (if operand then Atom.ofValue false chars else Atom.ofText false chars) ++
      tildeAtoms operand rest
  | piece :: rest => Atom.ofText true (Word.chars [piece]) ++ tildeAtoms operand rest

/-! ## Pieces -/

mutual

/-- Unfolds one piece. `splits` tells whether the word will be cut into fields, and `operand`
whether the piece belongs to a parameter, so that even written text is open to cutting. -/
def unfoldPiece (self : Self) (splits operand : Bool) : Piece → Expand (List Atom)
  | .mark => return [.null]
  | .text quoted chars =>
    return if operand && !quoted then Atom.ofValue false chars else Atom.ofText quoted chars
  | .quotation body => do
    let atoms ← unfoldPieces self splits false body
    return if atoms.isEmpty && !body.any Piece.isEach then [.null] else atoms
  | .script quoted body => return Atom.ofValue quoted (← Expand.of (writtenBy self body))
  | .sum quoted body => do
    let value ← reckon (Atom.text (← unfoldPieces self false false body))
    return Atom.ofValue quoted (Integer.render value.toInt)
  | .param quoted name rule _ => do
    if rule = .bad then refuse (name ++ ": bad substitution")
    match ← meaningOf name .whole with
    | .nothing => if (← get).has "nounset" then lacking ('$' :: name) else return []
    | meaning => return meaning.atoms (← get) splits quoted
  | .reference quoted indirect name index rule operands => do
    let spot ← unfoldIndex self index
    let told := fun meaning : Meaning => do
      return meaning.atoms (← get) splits quoted
    let isRow := match spot with
      | .all _ => true
      | _ => false
    match rule with
    | .names each => told (.many each (namesLike (← get) name))
    | _ =>
      let isRef := (((← get).held? name).any (·.refers)) && !isRow
      if indirect && isRow && rule = .plain then
        let each := match spot with
          | .all each => each
          | _ => true
        told (.many each ((pairsOf (← get) name).map (·.1)))
      else if indirect && isRef && rule = .plain then
        told (.one ((← get).resolve name))
      else
      let what := (if indirect then ['!'] else []) ++ name ++ index.shown
      let (name, spot) ← if indirect then indirectly name index spot else pure (name, spot)
      match rule with
      | .plain => told (← neededMeaning name spot)
      | .length =>
        if let .element index := spot then
          if ((← get).named? name).isSome then
            match ← settleSum (Calculation.keyFor Calculation.eval false name index) with
            | some _ => pure ()
            | none => refuse (index ++ "]: bad array subscript")
          else
            if (← get).has "nounset" then lacking (spotName name spot)
            return ← told (.one ['0'])
        match spot, ← meaningOf name spot with
        | .all _, .many _ values =>
          if (← get).has "nounset" && ((← get).named? name).isNone then
            refuse (name ++ ": unbound variable")
          told (.one (decimal values.length))
        | _, .many _ values => told (.one (decimal values.length))
        | _, .one value => told (.one (decimal value.length))
        | _, .nothing =>
          if (← get).has "nounset" then lacking (spotName name spot)
          told (.one ['0'])
      | .trim atEnd longest =>
        let meaning ← neededMeaning name spot
        if (meaning.text (← get)).isEmpty then told meaning else
        let marks := Atom.marks (← unfoldLead self false false false operands)
        told (meaning.map (trimmedOnce atEnd longest ((← get).pattern marks)))
      | .substitute mark emptyToo =>
        let meaning ← meaningOf name spot
        let stands := meaning.stands emptyToo
        match mark with
        | '-' => if stands then told meaning else unfoldLead self splits true (!splits) operands
        | '+' =>
          if stands then
            let atoms ← unfoldLead self splits true (!splits) operands
            return if quoted && atoms.isEmpty then [.null] else atoms
          else return []
        | '=' =>
          if !stands then
            let text := Atom.text (← unfoldLead self false false false operands)
            assignMissing name spot text
          told (← meaningOf name spot)
        | _ =>
          if !stands then
            let text := Atom.text (← unfoldLead self false false false operands)
            modify fun session => { session with missing := true }
            let usual := if emptyToo then "parameter null or not set" else "parameter not set"
            let isBare := match operands with
              | [] => true
              | word :: _ => word.isEmpty
            refuse (spotName name spot ++ [':', ' '] ++ if isBare then ofString usual else text)
          told meaning
      | .slice =>
        match ← neededMeaning name spot with
        | .nothing => return []
        | meaning =>
          let start := Atom.text (← unfoldFirst self false false operands)
          let start := (← reckonAbout what start).toInt
          let count ← match operands with
            | [_, _] => do
              let text := Atom.text (← unfoldSecond self false false operands)
              pure (some ((← reckonAbout what text).toInt, text))
            | _ => pure none
          match meaning with
          | .many each _ => told (← slicedRow name each start count)
          | _ => told (.one (← slicedText start count (meaning.text (← get))))
      | .replace all =>
        let meaning ← neededMeaning name spot
        let pattern := Atom.marks (← unfoldLead self false false false operands)
        let replacement := Atom.marks (← unfoldNext self operands)
        told (meaning.map (replaced (← get) all pattern replacement))
      | .recase mark all =>
        let meaning ← neededMeaning name spot
        let marks := Atom.marks (← unfoldFirst self false false operands)
        told (meaning.map (recased mark all ((← get).pattern marks)))
      | .transform letter =>
        let meaning ← neededMeaning name spot
        match transformed (← get) name spot letter meaning, meaning with
        | some meaning, _ => told meaning
        | none, .nothing => return []
        | none, _ =>
          refuse ('$' :: '\x7b' :: spotName name spot ++ ['@', letter] ++
            "\x7d: bad substitution")
      | _ => return []
  | .channel writes body => return Atom.ofText true (← Expand.of (openChannel self writes body))
  | .setting held => unfoldSetting self held
  | .row elements => do
    return Atom.ofText false ['('] ++ (← unfoldAll self elements) ++ Atom.ofText false [')']
  | .given _ => return []
  | .written _ => return []

def unfoldPieces (self : Self) (splits operand : Bool) : List Piece → Expand (List Atom)
  | [] => return []
  | piece :: rest => do
    let first ← unfoldPiece self splits operand piece
    return first ++ (← unfoldPieces self splits operand rest)

/-- Pieces that may begin with a tilde; in a setting, colons may be followed by one. -/
def unfoldTilded (self : Self) (splits operand setting : Bool) : List Piece → Expand (List Atom)
  | [] => return []
  | .text false chars :: rest => do
    let text := tildeText (← get) setting rest.isEmpty (chars.length + 1) true chars
    return tildeAtoms operand text ++ (← unfoldPieces self splits operand rest)
  | piece :: rest => do
    let first ← unfoldPiece self splits operand piece
    return first ++ (← unfoldPieces self splits operand rest)

def unfoldFirst (self : Self) (splits operand : Bool) : List (List Piece) → Expand (List Atom)
  | [] => return []
  | word :: _ => unfoldPieces self splits operand word

def unfoldLead (self : Self) (splits operand setting : Bool) :
    List (List Piece) → Expand (List Atom)
  | [] => return []
  | word :: _ => unfoldTilded self splits operand setting word

def unfoldSecond (self : Self) (splits operand : Bool) : List (List Piece) → Expand (List Atom)
  | [] => return []
  | _ :: rest => unfoldFirst self splits operand rest

def unfoldNext (self : Self) : List (List Piece) → Expand (List Atom)
  | [] => return []
  | _ :: rest => unfoldLead self false false false rest

def unfoldAll (self : Self) : List (List Piece) → Expand (List Atom)
  | [] => return []
  | word :: rest => do
    let first ← unfoldPieces self false false word
    let others ← unfoldAll self rest
    return first ++ (if rest.isEmpty then [] else Atom.ofText false [' ']) ++ others

def unfoldSetting (self : Self) : Setting → Expand (List Atom)
  | .mk name index adds value => do
    let spot ← unfoldIndex self index
    let sign := if adds then ['+', '='] else ['=']
    let place := match spot with
      | .element index => '[' :: index ++ [']']
      | _ => []
    return Atom.ofText true (name ++ place ++ sign) ++ (← unfoldPieces self false false value)

def unfoldIndex (self : Self) : Index → Expand Spot
  | .none => return .whole
  | .all each => return .all each
  | .place _ body => return .element (Atom.text (← unfoldPieces self false false body))

end

/-! ## Words -/

def tildes (session : Session) (setting : Bool) : Bool → Word → Word
  | _, [] => []
  | starts, .written chars :: rest => .written chars :: tildes session setting starts rest
  | starts, .text false chars :: rest =>
    tildeText session setting rest.isEmpty (chars.length + 1) starts chars ++
      tildes session setting (setting && chars.getLast? = some ':') rest
  | _, piece :: rest => piece :: tildes session setting false rest

def wordTildes (session : Session) (word : Word) : Word :=
  match word with
  | .written chars :: rest => .written chars :: wordTildes session rest
  | .text false chars :: rest =>
    let name := chars.takeWhile (· ≠ '=')
    if isName name && name.length < chars.length then
      .text false (chars.take (name.length + 1)) ::
        tildes session true true (.text false (chars.drop (name.length + 1)) :: rest)
    else tildes session false true word
  | _ => word

def unfoldText (self : Self) (setting : Bool) (word : Word) : Expand Bytes := do
  return Atom.text (← unfoldPieces self false false (tildes (← get) setting true word))

def unfoldMarks (self : Self) (word : Word) : Expand (List Mark) := do
  return Atom.marks (← unfoldPieces self false false (tildes (← get) false true word))

def Session.finding (session : Session) : Glob.Finding :=
  { groups := session.switched "extglob"
    hidden := session.switched "dotglob"
    dots := !session.switched "globskipdots"
    folds := session.switched "nocaseglob"
    deep := session.switched "globstar" }

/-- The paths that fields match. A field that matches none stays what it is, goes, or is an
error. -/
def findPaths (fields : List (List Mark)) : Expand (List Bytes) := do
  let session ← get
  let finding := session.finding
  let isOpen := fun field : List Mark => Glob.isOpen field || finding.groups
  if session.has "noglob" || !fields.any isOpen then return fields.map fun field => field.map (·.1)
  let view ← Expand.of look
  let found ← fields.mapM fun field => do
    let text := field.map (·.1)
    if !isOpen field then return [text]
    match Glob.matching view finding field with
    | [] =>
      let isPattern := (session.pattern field).any Glob.isActive
      if !isPattern then return [text]
      else if session.switched "failglob" then refuse ("no match: " ++ text)
      else if session.switched "nullglob" then return []
      else return [text]
    | paths => return paths
  return found.flatten

def unfoldWord (self : Self) (word : Word) : Expand (List Bytes) := do
  let words := if (← get).has "braceexpand" then Braces.expand word else [word]
  let fields ← words.mapM fun word => do
    let atoms ← unfoldPieces self true false (wordTildes (← get) word)
    findPaths (Atom.fields (← get).separators atoms)
  return fields.flatten

end Retrace.Shell
