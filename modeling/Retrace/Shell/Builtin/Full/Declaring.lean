import Retrace.Shell.Builtin.Full.Basic
import Retrace.Shell.Printed

/-!
# Declaring variables

Variables are made, marked and shown. Inside a function they are its own, unless that is
asked for otherwise, and what they were before is put back when it ends.
-/

namespace Retrace.Shell.Builtin.Full

open Unix Step

/-- A word of a builtin that declares: a text, or a variable with many elements. -/
inductive Argument where
  | text (chars : Bytes)
  | row (name : Bytes) (adds : Bool) (entries : List Entry)

def Argument.chars : Argument → Bytes
  | .text chars => chars
  | .row name _ _ => name

structure Declared where
  name : Bytes
  index : Option Bytes := none
  adds : Bool := false
  value : Option Given := none

def declared? (text : Bytes) : Option Declared :=
  let name := text.takeWhile isNameChar
  if !isName name then none
  else
    let rest := text.drop name.length
    let cut : Option (Option Bytes × Bytes) := match rest with
      | '[' :: inside =>
        (Calculation.bracketed 0 [] inside).map fun (index, after) => (some index, after)
      | _ => some (none, rest)
    match cut with
    | none => none
    | some (index, []) => some { name, index }
    | some (index, '=' :: value) => some { name, index, value := some (.text value) }
    | some (index, '+' :: '=' :: value) => some { name, index, adds := true, value := some (.text value) }
    | some _ => none

def Argument.declared? : Argument → Option Declared
  | .text chars => Full.declared? chars
  | .row name adds entries => some { name, adds, value := some (.row entries) }

structure Declaring where
  (on off : Bytes := [])
  isOwn : Bool := false

def cutMarks (known : Bytes) : List Argument → Except Bytes (Declaring × List Argument)
  | .text ['-', '-'] :: rest => .ok ({}, rest)
  | .text (sign :: c :: more) :: rest =>
    if sign ≠ '-' && sign ≠ '+' then .ok ({}, .text (sign :: c :: more) :: rest)
    else match (c :: more).find? (!known.contains ·) with
      | some letter => .error [sign, letter]
      | none => (cutMarks known rest).map fun (found, rest) =>
        if sign = '-' then ({ found with on := c :: more ++ found.on }, rest)
        else ({ found with off := c :: more ++ found.off }, rest)
  | words => .ok ({}, words)

def makeOwn (name : Bytes) : Expand Unit := do
  let session ← get
  let isOwn := (session.scopes.headD []).any (·.1 = name)
  if !isOwn then
    let before := session.held? name
    if before.any (·.readonly) then refuse (name ++ ": readonly variable")
    let session := session.saveInScope (name, before)
    set (session.put name { exported := before.any (·.exported) })

def withKind (declaring : Declaring) (name : Bytes) (held : Variable) :
    Except Bytes Variable :=
  if declaring.off.contains 'a' || declaring.off.contains 'A' then
    if held.elements.isSome then
      .error (name ++ ": cannot destroy array variables in this way")
    else .ok held
  else if declaring.on.contains 'A' then
    match held.elements, held.value with
    | some (.row _), _ => .error (name ++ ": cannot convert indexed to associative array")
    | some (.table _), _ => .ok held
    | none, some value => .ok { held with elements := some (.table [(['0'], value)]), value := some [] }
    | none, none => .ok { held with elements := some (.table []) }
  else if declaring.on.contains 'a' then
    match held.elements, held.value with
    | some (.table _), _ =>
      .error (name ++ ": cannot convert associative to indexed array")
    | some (.row _), _ => .ok held
    | none, some value => .ok { held with elements := some (.row [(0, value)]), value := some [] }
    | none, none => .ok { held with elements := some (.row []) }
  else .ok held

def withMarks (declaring : Declaring) (held : Variable) : Variable :=
  let mark := fun (letter : Char) (before : Bool) =>
    if declaring.on.contains letter then true
    else if declaring.off.contains letter then false
    else before
  { held with
    integer := mark 'i' held.integer
    lower := mark 'l' held.lower && !declaring.on.contains 'u'
    upper := mark 'u' held.upper && !declaring.on.contains 'l'
    exported := mark 'x' held.exported
    refers := mark 'n' held.refers
    traced := mark 't' held.traced }

def giveDeclared (name : Bytes) (word : Declared) : Expand Unit := do
  match word.value, word.index with
  | none, _ => return
  | some (.text text), none => storeText name none word.adds text
  | some (.text text), some index => storeText name (some (← keyOf name index)) word.adds text
  | some (.row entries), _ => storeRow name word.adds entries

def declareOne (declaring : Declaring) (word : Declared) : Expand Unit := do
  let refers := declaring.on.contains 'n' || declaring.off.contains 'n'
  let session ← get
  let name := if refers then word.name else session.resolve word.name
  if declaring.isOwn then makeOwn name
  let held := ((← get).held? name).getD {}
  if held.readonly && (declaring.off.contains 'r' || declaring.on.contains 'n') then
    refuse (name ++ ": readonly variable")
  match withKind declaring name held with
  | .error message => refuse message
  | .ok kept =>
    let marked := withMarks declaring kept
    modify fun session => session.put name marked
    if declaring.on.contains 'n' then
      match word.value with
      | some (.text target) =>
        if (spot? target).all fun (name, _) => !isName name then
          modify fun after => { after with vars := session.vars }
          refuse ('\x60' :: target ++ "': invalid variable name for name reference")
        if target = name && !declaring.isOwn then
          modify fun after => { after with vars := session.vars }
          refuse (name ++ ": nameref variable self references not allowed")
        modify fun session => session.put name { marked with value := some target, elements := none }
      | _ => return
    else
      if let (some (.row _), none) := (word.value, marked.elements) then
        modify fun session => session.put name { marked with elements := some (.row []) }
      giveDeclared name word
    if declaring.on.contains 'r' then
      modify fun session =>
        session.put name { ((session.held? name).getD {}) with readonly := true }

def declareOutside (declaring : Declaring) (word : Declared) : Expand Unit := do
  let session ← get
  let name := word.name
  let holders := session.scopes.filter fun scope => scope.any (·.1 = name)
  match holders.getLast? with
  | none => declareOne declaring word
  | some _ =>
    let inside := session.held? name
    let outside := (holders.getLast?.bind fun scope => scope.lookup name).join
    set (match outside with
      | some held => session.put name held
      | none => session.erase name)
    declareOne declaring word
    let changed := (← get).held? name
    let count := session.scopes.length
    let place := ((List.range count).reverse.find? fun n =>
      ((session.scopes[n]?).getD []).any (·.1 = name)).getD 0
    modify fun after =>
      let scopes := after.scopes.mapIdx fun n scope =>
        if n = place then scope.map fun entry => if entry.1 = name then (name, changed) else entry
        else scope
      let after := { after with scopes }
      match inside with
      | some held => after.put name held
      | none => after.erase name

def declareAll (declare : Declared → Expand Unit) (plainly : Bool) (success : Bool) :
    List Argument → Step Flow
  | [] => answer success
  | argument :: rest => do
    match argument.declared? with
    | none =>
      complain (notIdentifier argument.chars)
      declareAll declare plainly false rest
    | some word =>
      match ← (declare word).run with
      | .ok () => declareAll declare plainly success rest
      | .error message =>
        let session ← get
        let isRow := match word.value with
          | some (.row _) => true
          | _ => false
        if session.isGivenUp then refused message
        else if session.locked && isRow then
          set { session with command := none }
          refused message
        else
          let text := if plainly then { session with command := none }.message message
            else session.message message
          write 2 text
          set { session with locked := false }
          declareAll declare plainly false rest

def showDeclared (success : Bool) : List Bytes → Step Flow
  | [] => answer success
  | name :: rest => do
    let session ← get
    match (session.held? name).or (session.own? name) with
    | some held =>
      say (declaration name held ++ ['\n'])
      showDeclared success rest
    | none =>
      complain (name ++ ": not found")
      showDeclared false rest

def hasMarks (letters : Bytes) (held : Variable) : Bool :=
  letters.all fun letter => !("aAilnrtux".toList.contains letter) || held.letters.contains letter

def markedRows (session : Session) (letters : Bytes) : Bytes :=
  (session.chosen (hasMarks letters)).flatMap fun (name, held) => declaration name held ++ ['\n']

def settingRows (session : Session) : Bytes :=
  (session.chosen fun held => held.value.isSome).flatMap fun (name, held) =>
    settingRow name held ++ ['\n']

def functionNames (session : Session) : List Bytes :=
  (session.functions.map (·.1)).mergeSort fun a b => !decide (b < a)

def showFunctions (namesOnly : Bool) (names : List Bytes) : Step Flow := do
  let session ← get
  let known := (if names.isEmpty then functionNames session else names).filterMap fun name =>
    (session.functions.lookup name).map (name, ·)
  let row := fun ((name, held) : Bytes × Function) =>
    if !namesOnly then shownFunction name held.body ++ ['\n'] ++ mark names name held
    else if names.isEmpty then
      ofString (if held.exported then "declare -fx " else "declare -f ") ++ name ++ ['\n']
    else name ++ ['\n']
  say (known.flatMap row)
  answer (names.isEmpty || known.length = names.length)
where
  mark (names : List Bytes) (name : Bytes) (held : Function) : Bytes :=
    if held.exported && names.isEmpty then "declare -fx " ++ name ++ ['\n'] else []

def declareUsage (name : Bytes) : String :=
  match String.ofList name with
  | "local" => "local [option] name[=value] ..."
  | "typeset" =>
    "typeset [-aAfFgiIlnrtux] name[=value] ... or typeset -p [-aAfFilnrtux] [name ...]"
  | _ => "declare [-aAfFgiIlnrtux] [name[=value] ...] or declare -p [-aAfFilnrtux] [name ...]"

def declare : List Argument → Step Flow := fun words => do
  let session ← get
  match cutMarks "aAfFgiIlnprtux".toList words with
  | .error option => badOption option (declareUsage (session.command.getD []))
  | .ok (declaring, words) =>
    let names := words.map Argument.chars
    if declaring.on.contains 'f' || declaring.on.contains 'F' then
      showFunctions (declaring.on.contains 'F') names
    else if declaring.on.contains 'p' then
      if names.isEmpty then saying (markedRows session declaring.on) else showDeclared true names
    else if words.isEmpty then
      if declaring.on.isEmpty then saying (settingRows session)
      else saying (markedRows session declaring.on)
    else if declaring.on.contains 'g' then declareAll (declareOutside declaring) false true words
    else
      let isOwn := !session.scopes.isEmpty
      declareAll (declareOne { declaring with isOwn }) false true words

def localize : List Argument → Step Flow := fun words => do
  let session ← get
  if session.scopes.isEmpty then failed "can only be used in a function"
  else
    let saving := words.any fun
      | .text ['-'] => true
      | _ => false
    if saving then
      set { session with savedOptions := session.savedOptions.or (some session.options) }
    let words := words.filter fun
      | .text ['-'] => false
      | _ => true
    match cutMarks "aAiIlnprtux".toList words with
    | .error option => badOption option (declareUsage "local".toList)
    | .ok (declaring, words) =>
      declareAll (declareOne { declaring with isOwn := true }) false true words

def exportFunctions (on : Bool) (success : Bool) : List Bytes → Step Flow
  | [] => answer success
  | name :: rest => do
    let session ← get
    if (session.functions.lookup name).isSome then
      let functions := session.functions.map fun (entry : Bytes × Function) =>
        if entry.1 = name then (name, { entry.2 with exported := on }) else entry
      set { session with functions }
      exportFunctions on success rest
    else
      complain (name ++ ": not a function")
      exportFunctions on false rest

def exporting : List Argument → Step Flow := fun words => do
  let session ← get
  match cutMarks "fnp".toList words with
  | .error option => badOption option "export [-fn] [name[=value] ...] or export -p"
  | .ok (found, words) =>
    let on := !found.on.contains 'n'
    if found.on.contains 'f' then exportFunctions on true (words.map Argument.chars)
    else if words.isEmpty then saying (markedRows session ['x'])
    else
      let declaring : Declaring := if on then { on := ['x'] } else { off := ['x'] }
      let isIdle := fun (word : Declared) =>
        !on && word.value.isNone && (session.held? (session.resolve word.name)).isNone
      let declare := fun (word : Declared) =>
        if isIdle word then pure () else declareOne declaring word
      declareAll declare true true words

def protecting : List Argument → Step Flow := fun words => do
  let session ← get
  match cutMarks "aAfp".toList words with
  | .error option => badOption option "readonly [-aAf] [name[=value] ...] or readonly -p"
  | .ok (found, words) =>
    if words.isEmpty then saying (markedRows session ('r' :: found.on.filter (· ≠ 'p')))
    else declareAll (declareOne { on := 'r' :: found.on }) true true words

/-! ## Taking variables away -/

def unsetElement (name index : Bytes) : Expand Unit := do
  let session ← get
  let name := session.resolve name
  if session.isTable name then settleStore (session.eraseAt name (.name index))
  else if index = ['@'] || index = ['*'] then
    match session.held? name with
    | some held =>
      if held.elements.isSome then set (session.put name { held with elements := some (.row []) })
      else set (session.erase name)
    | none => return
  else match session.held? name with
    | none => return
    | some _ =>
      if index.isEmpty then return
      match ← settleSum (Calculation.keyFor Calculation.eval true name index) with
      | some key => settleStore ((← get).eraseAt name key)
      | none => refuse ('[' :: index ++ "]: bad array subscript")

def unsetOne (letters : Bytes) (word : Bytes) : Expand Unit := do
  let session ← get
  let functions := session.functions.filter (·.1 ≠ word)
  let without : Session := { session with functions }
  if letters.contains 'f' then set without
  else match spot? word with
    | some (name, .element index) => unsetElement name index
    | some (name, .all each) => unsetElement name [if each then '@' else '*']
    | _ =>
      let name := if letters.contains 'n' then word else session.resolve word
      match session.held? name with
      | some held =>
        if held.readonly then refuse (name ++ ": cannot unset: readonly variable")
        else set ((session.erase name).noticePath name)
      | none => if letters.contains 'v' then return else set without

def unsetAll (letters : Bytes) (success : Bool) : List Bytes → Step Flow
  | [] => answer success
  | word :: rest => do
    match ← (unsetOne letters word).run with
    | .ok () => unsetAll letters success rest
    | .error message =>
      if (← get).isGivenUp then refused message
      else
        complain message
        modify fun session => { session with locked := false }
        unsetAll letters false rest

def unset : Builtin :=
  withOptions "fnv" "unset [-f] [-v] [-n] [name ...]" fun options =>
    unsetAll (options.given.map (·.1)) true options.operands

end Retrace.Shell.Builtin.Full
