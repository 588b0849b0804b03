import Retrace.Shell.Words

/-!
# Assignments

How the richer shell sets variables: whole ones, single elements, and rows and tables at
once. A variable that holds numbers reckons what it is given.
-/

/-!
## Tracing

How the richer shell shows what it is about to run. Every row begins with a mark, whose
first character is there once more for every script that the running one is inside of.
-/

namespace Retrace.Shell

open Unix Step

def tracedValue (text : Bytes) : Bytes :=
  if Quoting.hasMeaning text then Quoting.singleQuoted text
  else if Quoting.needsEscapes text then Quoting.escaped text
  else text

def tracedWord (text : Bytes) : Bytes :=
  if text.isEmpty then ['\'', '\''] else tracedValue text

variable (self : Self)

def unfoldIn (context : Context) (text : Bytes) : Expand Bytes := do
  let fuel := text.length + 2
  let list := Nested.listWithin fuel fuel .optional
  match (Reader.full list fuel context []).run { rest := text, dialect := .bash } with
  | .ok (word, _) => return Atom.text (← unfoldPieces self false false word)
  | .error _ => return text

def unfoldGiven (text : Bytes) : Expand Bytes := unfoldIn self .here text

def unfoldElement (word : Bytes) : Expand Bytes := do
  match spot? word with
  | some (name, .element index) =>
    return name ++ '[' :: (← unfoldIn self (.index 0) (index ++ [']'])) ++ [']']
  | _ => return word

def traceLead : Step Bytes := do
  let session ← get
  let text := (session.value? "PS4".toList).getD []
  let found ← (unfoldGiven self text).run
  modify fun after => { after with status := session.status }
  match found.toOption.getD text with
  | [] => return []
  | c :: rest => return List.replicate (session.depth + 1) c ++ rest

def traceText (text : Bytes) : Step Unit := do
  let session ← get
  if session.has "xtrace" then
    set (session.turn "xtrace" false)
    let lead ← traceLead self
    modify fun session => session.turn "xtrace" true
    write 2 (lead ++ text ++ ['\n'])

def traceWords (words : List Bytes) : Step Unit :=
  traceText self (joined ' ' (words.map tracedWord))

/-! ## Assigning -/

structure Entry where
  index : Option Bytes := none
  shown : Bytes := []
  adds : Bool := false
  value : Bytes

inductive Given where
  | text (value : Bytes)
  | row (entries : List Entry)

structure Assignment where
  name : Bytes
  spot : Spot := .whole
  place : Bytes := []
  adds : Bool := false
  value : Given
  shown : Bytes

def entriesOf (self : Self) (isTable : Bool) : List Word → Expand (List Entry)
  | [] => return []
  | word :: rest => do
    let first ← match word with
      | [.written _, .setting (.mk _ index adds value)] => do
        let index := match ← unfoldIndex self index with
          | .element index => some index
          | .all each => some [if each then '@' else '*']
          | .whole => none
        let shown := Word.source word
        pure [{ index, shown, adds, value := ← unfoldText self true value : Entry }]
      | _ =>
        if isTable then do
          pure [{ shown := Word.source word, value := ← unfoldText self false word : Entry }]
        else do pure ((← unfoldWord self word).map fun value => { value : Entry })
    return first ++ (← entriesOf self isTable rest)

def Setting.row? : Setting → Option (Bytes × Bytes)
  | .mk name .none adds [.row elements] =>
    let sign := if adds then ['+', '='] else ['=']
    some (name, name ++ sign ++ '(' :: joined ' ' (elements.map Word.source) ++ [')'])
  | _ => none

def assignmentOf : Setting → Expand Assignment
  | .mk name index adds value => do
    let lead := fun (spot : Spot) =>
      let place := match spot with
        | .element index => '[' :: index ++ [']']
        | _ => []
      name ++ place ++ if adds then ['+', '='] else ['=']
    let place := match index with
      | .place written _ => written
      | _ => []
    match value with
    | [.row elements] =>
      let spot ← unfoldIndex self index
      let entries ← entriesOf self ((← get).isTable name) elements
      let shown := lead spot ++ '(' :: joined ' ' (elements.map Word.source) ++ [')']
      return { name, spot, place, adds, value := .row entries, shown }
    | _ =>
      let text ← unfoldText self true value
      let spot ← unfoldIndex self index
      return { name, spot, place, adds, value := .text text, shown := lead spot ++ tracedValue text }

def valueFor (held : Variable) (former : Option Bytes) (adds : Bool) (text : Bytes) :
    Expand Bytes := do
  if held.integer then
    let before ← if adds then reckonHeld (former.getD ['0']) else pure 0
    return Integer.render (before + (← reckonHeld text)).toInt
  return if adds then former.getD [] ++ text else text

def settleStore : Except Bytes Session → Expand Unit
  | .ok session => set session
  | .error message => refuseLocked message

def openVariable (name : Bytes) : Expand Variable := do
  match (← get).open? name with
  | .ok held => return held
  | .error message => refuseLocked message

def storeText (name : Bytes) (key : Option Key) (adds : Bool) (text : Bytes) :
    Expand Unit := do
  let name := (← get).resolve name
  let held ← openVariable name
  let former := match key with
    | none => held.text?
    | some key => (Session.elementsOf held).get? key
  let value ← valueFor held former adds text
  settleStore ((← get).storeAt name key value)

def putEntries (held : Variable) : Nat → List (Nat × Bytes) → List Entry →
    Expand (List (Nat × Bytes))
  | _, elements, [] => return elements
  | next, elements, entry :: rest => do
    let place ← match entry.index with
      | none => pure (some next)
      | some index => do
        let place := (← settleSum (Calculation.indexValue Calculation.eval index)).toInt
        let last := (Elements.row elements).afterLast
        let place := if place < 0 then place + last else place
        pure (if 0 ≤ place then some place.toNat else none)
    let isBare := entry.index.isSome && ['[', ']'].isPrefixOf entry.shown
    match if isBare then none else place with
    | none =>
      Expand.of (complain ('[' :: entry.index.getD [] ++ [']', '='] ++ entry.value ++
        ": bad array subscript"))
      putEntries held next elements rest
    | some place =>
      let value ← valueFor held (elements.lookup place) entry.adds entry.value
      putEntries held (place + 1) (Elements.putAt place (held.cased value) elements) rest

def pairEntries : List Entry → List Entry
  | [] => []
  | [key] => [{ key with index := some key.value, value := [] }]
  | key :: value :: rest =>
    { key with index := some key.value, value := value.value } :: pairEntries rest

def fillTable (name : Bytes) (held : Variable) : List (Bytes × Bytes) → List Entry →
    Expand (List (Bytes × Bytes))
  | elements, [] => return elements
  | elements, entry :: rest => do
    match entry.index with
    | none =>
      Expand.of (complain (name ++ ": " ++ entry.value ++
        ": must use subscript when assigning associative array"))
      fillTable name held elements rest
    | some [] =>
      Expand.of (complain (entry.shown ++ ": bad array subscript"))
      fillTable name held elements rest
    | some key =>
      let value ← valueFor held (elements.lookup key) entry.adds entry.value
      fillTable name held (Elements.putUnder key (held.cased value) elements) rest

def storeRow (name : Bytes) (adds : Bool) (entries : List Entry) : Expand Unit := do
  let name := (← get).resolve name
  let held ← openVariable name
  let elements ← match held.elements with
    | some (.table before) => do
      let entries := if entries.head?.any (·.index.isNone) then pairEntries entries else entries
      pure (Elements.table (← fillTable name held (if adds then before else []) entries))
    | _ => do
      let before := match Session.elementsOf held with
        | .row before => if adds then before else []
        | .table _ => []
      let next := (Elements.row before).afterLast
      pure (Elements.row (← putEntries held next before entries))
  modify fun session => session.hold name { held with elements := some elements, value := some [] }

def Assignment.make (assignment : Assignment) : Expand Unit := do
  match assignment.value, assignment.spot with
  | .row entries, .whole => storeRow assignment.name assignment.adds entries
  | .row _, spot =>
    refuse (spotName assignment.name spot ++ ": cannot assign list to array member")
  | .text text, .element index =>
    let name := (← get).resolve assignment.name
    let isBare := assignment.place.isEmpty || (index.isEmpty && (← get).isTable name)
    if isBare then refuse (badIndex assignment.name assignment.place)
    storeText name (some (← keyOf name index)) assignment.adds text
  | .text text, .whole => storeText assignment.name none assignment.adds text
  | .text _, .all each =>
    refuse (assignment.name ++ ['[', if each then '@' else '*', ']'] ++
      ": bad array subscript")

end Retrace.Shell
