import Retrace.Shell.Builtin.Basic
import Retrace.Shell.Fields

/-!
# Builtins for variables, parameters, options and input
-/

namespace Retrace.Shell.Builtin

open Unix Step

/-! ## Leaving loops, functions and scripts -/

def withCount (arguments : List Bytes) (run : Option Nat → Step Flow) : Step Flow :=
  match arguments with
  | [] => run none
  | text :: _ =>
    match Integer.count? text with
    | some count => run (some count)
    | none => aborting (illegalNumber text)

def exit : Builtin := fun arguments =>
  withCount arguments fun status => do
    let session ← get
    setStatus (status.getD (session.held.getD session.status))
    return .exits

def leaveFunction : Builtin := fun arguments =>
  withCount arguments fun status => do
    setStatus (status.getD (← get).status)
    return .returns

def leaveLoops (flow : Nat → Flow) : Builtin := fun arguments =>
  withCount arguments fun count => do
    match count with
    | some 0 => aborting (illegalNumber (arguments.headD []))
    | _ =>
      match min (count.getD 1) (← get).loops with
      | 0 => answer true
      | depth + 1 =>
        setStatus 0
        return flow depth

/-! ## Variables -/

abbrev Marking := Variable → Variable

def markOne (marking : Marking) (session : Session) (argument : Bytes) :
    Except Bytes Session := do
  let (name, value) := cutSetting argument
  match value, session.held? name with
  | none, some held => return session.put name (marking held)
  | none, none => return session.put name (marking (← session.changeable name))
  | some value, _ =>
    let session ← session.assign name value
    return session.put name (marking ((session.held? name).getD {}))

def listed (session : Session) (lead : Bytes) (chosen : Variable → Bool) : Bytes :=
  let rows := session.vars.filter fun (_, held) => chosen held
  let rows := rows.mergeSort fun a b => !decide (b.1 < a.1)
  rows.flatMap fun (name, held) =>
    let value := match held.value with
      | some value => '=' :: quoted value
      | none => []
    lead ++ name ++ value ++ ['\n']

def marking (lead : String) (mark : Marking) (chosen : Variable → Bool) : Builtin :=
  withLetters ['p'] fun letters operands => do
    let session ← get
    if letters.contains 'p' || operands.isEmpty then
      saying (listed session (ofString lead ++ [' ']) chosen)
    else settle (operands.foldlM (markOne mark) session)

def exporting : Builtin :=
  marking "export" (fun held => { held with exported := true }) (·.exported)

def protecting : Builtin :=
  marking "readonly" (fun held => { held with readonly := true }) (·.readonly)

def shadow (session : Session) (argument : Bytes) : Except Bytes Session := do
  if argument = ['-'] then
    return { session with savedOptions := session.savedOptions.or (some session.options) }
  let (name, value) := cutSetting argument
  let before := (name, session.held? name)
  let session := session.saveInScope before
  match value with
  | some value => session.assign name value
  | none =>
    if isName name then return session else throw (name ++ ": bad variable name")

def localize : Builtin := fun arguments => do
  let session ← get
  if session.scopes.isEmpty then aborting "not in a function"
  else settle (arguments.foldlM shadow session)

def unset : Builtin :=
  withLetters ['v', 'f'] fun letters operands => do
    let session ← get
    if letters.getLast? = some 'f' then
      let functions := session.functions.filter fun (name, _) => !operands.contains name
      set { session with functions }
      answer true
    else settle (operands.foldlM Session.unassign session)

/-! ## Options of the shell -/

def optionsText (session : Session) (asCommands : Bool) : Bytes :=
  let row := fun ((name, _) : String × Option Char) =>
    let on := session.has name
    if asCommands then "set " ++ (if on then "-o " else "+o ") ++ name ++ "\n"
    else name ++ String.ofList (List.replicate (16 - name.length) ' ') ++
      (if on then "on" else "off") ++ "\n"
  let lead := if asCommands then "" else "Current option settings\n"
  ofString (lead ++ String.join (optionTable.map row))

/-- Turns the options that letters name. Some letters ask for the next word, which is a name; if
there is none, all options are shown. -/
def turnLetters (on : Bool) : Bytes → List Bytes → Session →
    Except Bytes (Session × List Bytes)
  | [], rest, session => .ok (session, rest)
  | 'o' :: letters, rest, session =>
    match rest with
    | [] =>
      let text := optionsText session !on
      turnLetters on letters [] { session with pending := text :: session.pending }
    | name :: rest =>
      let name := String.ofList name
      if optionTable.any (·.1 = name) then turnLetters on letters rest (session.turn name on)
      else .error (ofString ("Illegal option -o " ++ name))
  | letter :: letters, rest, session =>
    match optionOf? letter with
    | some option => turnLetters on letters rest (session.turn option on)
    | none => .error (illegalOption letter)

def turnAll : Nat → List Bytes → Session →
    Except Bytes (Session × Option (List Bytes))
  | 0, _, session => .ok (session, none)
  | _ + 1, [], session => .ok (session, none)
  | fuel + 1, word :: rest, session =>
    let operands := if rest.isEmpty then none else some rest
    match word with
    | ['-'] => .ok ((session.turn "xtrace" false).turn "verbose" false, operands)
    | ['-', '-'] => .ok (session, some rest)
    | '-' :: letters => do
      let (session, rest) ← turnLetters true letters rest session
      turnAll fuel rest session
    | '+' :: letters => do
      let (session, rest) ← turnLetters false letters rest session
      turnAll fuel rest session
    | _ => .ok (session, some (word :: rest))

def renewParams (session : Session) (params : List Bytes) : Session :=
  { session with params }.restartOptions 1

def setParams : Builtin := fun arguments => do
  let session ← get
  if arguments.isEmpty then saying (listed session [] (·.value.isSome))
  else match turnAll (arguments.length + 1) arguments session with
    | .ok (session, params) =>
      set (match params with
        | some params => renewParams session params
        | none => session)
      answer true
    | .error message => aborting message

def shift : Builtin := fun arguments =>
  withCount arguments fun count => do
    let count := count.getD 1
    let session ← get
    if session.params.length < count then aborting "can't shift that many"
    else
      set (renewParams session (session.params.drop count))
      answer true

/-! ## Options of scripts -/

inductive OptionFlaw where
  | unknown (letter : Char)
  | noArgument (letter : Char)

def OptionFlaw.message : OptionFlaw → Bytes
  | .unknown letter => "Illegal option -" ++ [letter]
  | .noArgument letter => "No arg for -" ++ letter :: " option"

structure OptionFound where
  letter : Char
  argument : Option Bytes := none
  isEnd : Bool := false
  complaint : Option OptionFlaw := none
  index : Nat
  offset : Option Nat := none

def optionKind? (letter : Char) : Bytes → Option Bool
  | [] => none
  | c :: ':' :: rest => if c = letter then some true else optionKind? letter rest
  | c :: rest => if c = letter then some false else optionKind? letter rest

def readLetter (spec : Bytes) (words : List Bytes) (index : Nat) (word text : Bytes) :
    OptionFound :=
  let silent := spec.head? = some ':'
  match text with
  | [] => { letter := '?', isEnd := true, index }
  | letter :: rest =>
    let offset := if rest.isEmpty then none else some (word.length - rest.length)
    match optionKind? letter spec with
    | none =>
      if silent then { letter := '?', argument := some [letter], index, offset }
      else { letter := '?', complaint := some (.unknown letter), index, offset }
    | some false => { letter, argument := some [], index, offset }
    | some true =>
      if !rest.isEmpty then { letter, argument := some rest, index }
      else match words[index - 1]? with
        | some argument => { letter, argument := some argument, index := index + 1 }
        | none =>
          if silent then { letter := ':', argument := some [letter], index }
          else { letter := '?', complaint := some (.noArgument letter), index }

def nextOption (spec : Bytes) (words : List Bytes) (index : Nat) (offset : Option Nat) :
    OptionFound :=
  let current := if index ≤ 1 then [] else (words[index - 2]?).getD []
  match (offset.map current.drop).getD [] with
  | c :: rest => readLetter spec words index current (c :: rest)
  | [] =>
    match words[index - 1]? with
    | some ['-', '-'] => { letter := '?', isEnd := true, index := index + 1 }
    | some ('-' :: c :: rest) => readLetter spec words (index + 1) ('-' :: c :: rest) (c :: rest)
    | _ => { letter := '?', isEnd := true, index }

def OptionFound.keep (found : OptionFound) (session : Session) : Session :=
  let session := match found.argument with
    | some argument => session.keep "OPTARG" argument
    | none => if found.isEnd then session else session.erase "OPTARG".toList
  session.keep "OPTIND" (Text.decimal found.index)

def getopts : Builtin :=
  withLetters [] fun _ operands => do
    match operands with
    | spec :: name :: rest =>
      let session ← get
      let words := if rest.isEmpty then session.params else rest
      let past := words.length + 1 < session.optionIndex
      let found := nextOption spec words (if past then 1 else session.optionIndex)
        (if past then none else session.optionOffset)
      if let some flaw := found.complaint then write 2 (flaw.message ++ ['\n'])
      let session := found.keep session
      match session.assign name [found.letter] with
      | .error message =>
        set session
        aborting message
      | .ok session =>
        set { session with optionIndex := found.index, optionOffset := found.offset }
        answer !found.isEnd
    | _ => aborting "Usage: getopts optstring var [arg...]"

/-! ## Input -/

def goesOn : Bytes → Bool
  | '\\' :: ['\n'] => true
  | '\\' :: _ :: rest => goesOn rest
  | _ :: rest => goesOn rest
  | [] => false

/-- Reads a line from the input and no further, with what is joined to it. The parts read come
last first. -/
def readLine (raw : Bool) : Nat → List Bytes → Step Bytes
  | 0, read => return read.reverse.flatten
  | fuel + 1, read => do
    match ← ask (.readUpTo 0 1024 '\n') with
    | .ok [] => return read.reverse.flatten
    | .ok text =>
      let read := text :: read
      let line := read.reverse.flatten
      if text.getLast? = some '\n' && (raw || !goesOn line) then return line
      else readLine raw fuel read
    | .error _ => return read.reverse.flatten

/-- A line as what may be split and what may not, and whether it has an end. In a line that is
not `raw` a backslash keeps the next character from splitting, or joins two lines. The characters
of the running segment come last first. -/
def lineSegments (raw : Bool) : List Mark → List Segment → Bytes → List Segment × Bool
  | run, done, [] => ((.splits false run.reverse :: done).reverse, false)
  | run, done, '\n' :: _ => ((.splits false run.reverse :: done).reverse, true)
  | run, done, '\\' :: c :: rest =>
    if raw then lineSegments raw (('\\', false) :: run) done (c :: rest)
    else
      let done := .splits false run.reverse :: done
      if c = '\n' then lineSegments raw [] done rest
      else lineSegments raw [] (.fixed [(c, true)] :: done) rest
  | run, done, c :: rest =>
    if c = '\x00' || (!raw && c = '\\') then lineSegments raw run done rest
    else lineSegments raw ((c, false) :: run) done rest

def assignFields (session : Session) :
    List Bytes → List Bytes → Except (Bytes × Session) Session
  | [], _ => .ok session
  | name :: names, fields =>
    match session.assign name (fields.headD []) with
    | .ok session => assignFields session names (fields.drop 1)
    | .error message => .error (message, session)

def readLetters : Bytes → List Bytes → Except Bytes (Bool × List Bytes)
  | [], rest => .ok (false, rest)
  | 'r' :: more, rest => (readLetters more rest).map fun (_, rest) => (true, rest)
  | ['p'], [] => .error "No arg for -p option"
  | ['p'], _ :: rest => .ok (false, rest)
  | 'p' :: _, rest => .ok (false, rest)
  | letter :: _, _ => .error (illegalOption letter)

def readOptions : Nat → List Bytes → Except Bytes (Bool × List Bytes)
  | 0, words => .ok (false, words)
  | _ + 1, ['-', '-'] :: rest => .ok (false, rest)
  | fuel + 1, ('-' :: c :: more) :: rest => do
    let (raw, rest) ← readLetters (c :: more) rest
    let (also, names) ← readOptions fuel rest
    return (raw || also, names)
  | _ + 1, names => .ok (false, names)

def read : Builtin := fun arguments => do
  match readOptions (arguments.length + 1) arguments with
  | .error message => aborting message
  | .ok (_, []) => aborting "arg count"
  | .ok (raw, names) =>
    let (segments, ended) := lineSegments raw [] [] (← readLine raw Program.manySteps [])
    let session ← get
    let separators := (session.value? "IFS".toList).getD [' ', '\t', '\n']
    let cut := fields separators (some names.length) segments
    match assignFields session names (cut.map fun field => field.map (·.1)) with
    | .ok session =>
      set session
      answer ended
    | .error (message, session) =>
      set session
      aborting message

end Retrace.Shell.Builtin
