import Retrace.Shell.Builtin
import Retrace.Shell.Search

/-!
# Simple commands

A simple command goes through five steps: its words are expanded and say what is
to be run, its redirections are opened, its settings are made, the command is
traced if that is asked for, and then it is run.
-/

namespace Retrace.Shell

open Unix Step

inductive Call.Kind where
  | nothing
  | builtin (run : Builtin)
  | function (body : Statement)
  | program

structure Call where
  kind : Call.Kind
  written : List Bytes
  words : List Bytes
  isSpecial : Bool := false
  ownSettings : Bool := true
  keepsRedirections : Bool := false

namespace Call

def takesSetting (fields : List Bytes) (word : Word) : Bool :=
  let called := fields.dropWhile fun field =>
    field = "command".toList || field = ['-', 'p'] || field = ['-', '-']
  called.head?.any Builtin.takesSettings && (Word.setting? word).isSome

/-- Expands the words of a command one after the other. The fields so far come last first. -/
def expandFrom (self : Self) (fields : List Bytes) : List Word → Expand (List Bytes)
  | [] => return fields.reverse
  | word :: rest => do
    if takesSetting fields.reverse word then
      expandFrom self ((← expandText self true word) :: fields) rest
    else expandFrom self ((← expandWord self word).reverse ++ fields) rest

/-! ## Builtins that run other commands -/

variable (self : Self)

def evaluate (tested : Bool) : Builtin := fun arguments =>
  runText self tested (joined ' ' arguments)

def scriptPath? (view : View) (session : Session) (name : Bytes) : Option Bytes :=
  if name.contains '/' then some name
  else (searchPath session).findSome? fun directory =>
    let path := Exec.under directory name
    if view.isFile path then some path else none

def moveUp (fd : Nat) : Step Nat := do
  match ← ask (.save fd 10) with
  | .ok copy =>
    close fd
    return copy
  | .error _ => return fd

def source : Builtin :=
  Builtin.withLetters [] fun _ operands => do
    match operands with
    | [] => answer true
    | name :: _ =>
      match scriptPath? (← look) (← get) name with
      | none => aborting (name ++ ": not found")
      | some path =>
        match ← ask (.openFile path .input 0) with
        | .error cause => aborting (cannotOpen .dash path cause)
        | .ok fd =>
          let fd ← moveUp fd
          modify fun session => { session with command := some path }
          let flow ← runInput self fd
          close fd
          return if flow = .returns then .goes else flow

def replace : Builtin :=
  Builtin.withLetters [] fun _ operands =>
    if operands.isEmpty then answer true else giveWay self operands

def describe (view : View) (session : Session) (sentence : Bool) (name : Bytes) :
    Option Bytes :=
  let say := fun (text : Bytes) (short : Bytes) =>
    some ((if sentence then name ++ text else short) ++ ['\n'])
  if keywords.contains (String.ofList name) then say " is a shell keyword" name
  else match session.aliases.find? (·.name = name) with
    | some entry =>
      if sentence then say (" is an alias for " ++ entry.text) name
      else some ("alias " ++ Builtin.aliasRow entry)
    | none =>
      if Builtin.isSpecialName name then say " is a special shell builtin" name
      else if (session.functions.lookup name).isSome then
        say " is a shell function" name
      else if Builtin.isKnown name then say " is a shell builtin" name
      else match session.found? name, programPath? view session name with
        | some entry, _ => say (" is a tracked alias for " ++ entry.path) entry.path
        | none, some path => say (" is " ++ path) path
        | none, none => none

def noteProgram (name : Bytes) : Step Unit := do
  let session ← get
  let hasMeaning := Builtin.isKnown name || (session.functions.lookup name).isSome
  if !hasMeaning && !name.contains '/' then
    if let .ok (_, session) := locate (← look) session name then set session

def describeAll (sentence : Bool) (status : Nat) : List Bytes → Step Flow
  | [] => do
    setStatus status
    return .goes
  | name :: rest => do
    match describe (← look) (← get) sentence name with
    | some text =>
      say text
      if ((← get).found? name).isNone then noteProgram name
      describeAll sentence status rest
    | none =>
      if sentence then say (name ++ ": not found\n")
      describeAll sentence 127 rest

def commandWord : Builtin :=
  Builtin.withLetters ['p', 'v', 'V'] fun letters operands =>
    match letters.getLast? with
    | some 'v' => describeAll false 0 (operands.take 1)
    | some 'V' => describeAll true 0 (operands.take 1)
    | _ => answer true

def foundRows (session : Session) : List Bytes :=
  (session.found.mergeSort fun a b => placeAmong 31 a.name ≤ placeAmong 31 b.name).map fun entry =>
    entry.path ++ (if entry.stale then ['*', '\n'] else ['\n'])

def refind (found : Bool) : List Bytes → Step Flow
  | [] => answer found
  | name :: rest => do
    modify fun session => session.forgetFound name
    noteProgram name
    let session ← get
    let isThere := Builtin.isKnown name || (session.functions.lookup name).isSome ||
      (programPath? (← look) session name).isSome
    if !isThere then Builtin.complainAll [name ++ ": not found"]
    refind (found && isThere) rest

def remember : Builtin :=
  Builtin.withLetters ['r'] fun letters operands => do
    if !letters.isEmpty then
      modify fun session => { session with found := [] }
      answer true
    else if operands.isEmpty then Builtin.saying (foundRows (← get)).flatten
    else refind true operands

def builtin? (tested : Bool) (name : Bytes) : Option Builtin :=
  match String.ofList name with
  | "eval" => some (evaluate self tested)
  | "." => some (source self)
  | "exec" => some (replace self)
  | "command" => some commandWord
  | "type" => some (describeAll true 0)
  | "hash" => some remember
  | _ => Builtin.find? name

/-! ## What is run -/

def called? : List Bytes → Option (List Bytes)
  | [] => none
  | ['-', '-'] :: rest => if rest.isEmpty then none else some rest
  | ('-' :: c :: more) :: rest => if (c :: more).all (· = 'p') then called? rest else none
  | words => some words

/-- Finds what words run. `plain` if functions are passed over, and with them the special
standing of builtins. -/
def resolve (self : Self) (tested : Bool) (session : Session) (written : List Bytes) :
    Nat → Bool → List Bytes → Call
  | 0, _, words => { kind := .program, written, words }
  | _ + 1, _, [] => { kind := .nothing, written, words := [], ownSettings := false }
  | fuel + 1, plain, name :: arguments =>
    let special := Builtin.isSpecialName name
    let called := if name = "command".toList then called? arguments else none
    let function := if plain || special then none else session.functions.lookup name
    match function, called with
    | some function, _ =>
      { kind := .function function.body, written, words := name :: arguments }
    | none, some words => resolve self tested session written fuel true words
    | none, none =>
      match if name.contains '/' then none else builtin? self tested name with
      | some run =>
        { kind := .builtin run, written, words := name :: arguments
          isSpecial := special && !plain
          ownSettings := !special || plain
          keepsRedirections := name = "exec".toList }
      | none => { kind := .program, written, words := name :: arguments }

def maxCalls : Nat := 1000

def isEnd (flow : Flow) : Bool := flow = .exits || flow = .fails

def enter (body : Statement) (arguments : List Bytes) (tested : Bool) :
    Step Flow := do
  let before ← get
  set { before with
    params := arguments, calls := before.calls + 1, loops := 0, scopes := [] :: before.scopes
    savedOptions := none
    optionIndex := 1, optionOffset := none }
  let flow ← self.eval body tested
  modify fun after =>
    let after := if isEnd flow then after else after.restoreVars (after.scopes.headD [])
    { after with
      params := before.params
      calls := before.calls
      loops := before.loops
      scopes := before.scopes
      options := after.savedOptions.getD after.options
      savedOptions := before.savedOptions
      optionIndex := before.optionIndex
      optionOffset := before.optionOffset }
  return if flow = .returns then .goes else flow

/-- Carries out a builtin under its name. What it could not write is told of, and an error
ends the session only if the builtin is special. -/
def carryOut (run : Builtin) (name : Bytes) (arguments : List Bytes) (isSpecial : Bool) :
    Step Flow := do
  let before ← get
  set { before with command := some name }
  let flow ← run arguments
  if !(← flush) && flow = .goes then
    complain (name ++ ": I/O error")
    setStatus ((← get).status ||| 1)
  modify fun session => { session with command := before.command }
  return if flow = .fails && !isSpecial then .goes else flow

def runProgram (words : List Bytes) : Step Flow := do
  let session ← get
  let name := words.headD []
  let found ← if name.contains '/' then pure (.ok (name, session))
    else do pure (locate (← look) session name)
  match found with
  | .error cause => failing (name ++ ofString (": " ++ reason "not found" cause)) 127
  | .ok (_, session) =>
    set session
    if session.isLast && !session.hasTraps then giveWay self words
    else
      let job ← newJob
      let _ ← startMember self job false (giveWay self words)
      setStatus (← finishJob job)
      return .goes

def run (self : Self) (tested : Bool) (call : Call) : Step Flow := do
  match call.kind, call.words with
  | .builtin run, name :: arguments =>
    asLast false
    let flow ← carryOut run name arguments call.isSpecial
    reapAll
    return flow
  | .function body, _ :: arguments =>
    asLast false
    if (← get).calls < maxCalls then enter self body arguments tested
    else aborting "Maximum function recursion depth (1000) reached"
  | .program, words => runProgram self words
  | _, _ =>
    setStatus (← get).inner
    return .goes

/-! ## Settings and traces -/

/-- Makes the settings of a command. What they were before is kept for those of its own,
the last one in front, and the texts are kept for the trace. -/
def makeSettings (self : Self) (own exports : Bool) :
    List Setting → Expand (Scope × List Bytes)
  | [] => return ([], [])
  | .mk name _ _ word :: rest => do
    let value ← expandText self true word
    let before := (← get).held? name
    match (← get).assign name value with
    | .error message => refuse message
    | .ok session =>
      let held := (session.held? name).getD {}
      let held := { held with exported := held.exported || own || exports }
      set (session.put name held)
      let (saved, texts) ← makeSettings self own exports rest
      return (saved ++ [(name, before)], (name ++ '=' :: value) :: texts)

def traceMark : Expand Bytes := do
  let text := ((← get).value? "PS4".toList).getD []
  let fuel := text.length + 2
  let list := Nested.listWithin fuel fuel .optional
  match (Reader.pieces list fuel .here []).run { rest := text } with
  | .ok (word, _) => return Segment.text (← expandPieces self false false word)
  | .error _ => return text

def trace (texts : List Bytes) : Step Unit := do
  let session ← get
  if session.has "xtrace" then
    set (session.turn "xtrace" false)
    let mark ← (traceMark self).run
    modify fun session => session.turn "xtrace" true
    write session.traceFd (mark.toOption.getD [] ++ joined ' ' texts ++ ['\n'])

def runSimple (settings : List Setting) (words : List Word)
    (redirects : List Redirect) (tested : Bool) : Step Flow := do
  modify fun session => { session with inner := 0 }
  let expanded : Expand (List Bytes × List Route) := do
    return (← expandFrom self [] words, ← routesOf self redirects)
  match ← expanded.run with
  | .error message => aborting message
  | .ok (fields, routes) =>
    let call := resolve self tested (← get) fields (fields.length + 1) false fields
    let (frame, opened) ← openRoutes true [] routes
    if !opened then
      restore frame
      setStatus (← get).failure
      return if call.isSpecial then .fails else .goes
    let exports := call.keepsRedirections && 1 < call.words.length
    modify fun session => { session with traceFd := ((frame.lookup 2).join).getD 2 }
    match ← (makeSettings self call.ownSettings exports settings).run with
    | .error message =>
      let flow ← aborting message
      restore frame
      return flow
    | .ok (saved, texts) =>
      trace self (texts ++ call.written)
      modify fun session => { session with traceFd := 2 }
      let flow ← call.run self tested
      if call.ownSettings && !isEnd flow then modify fun session => session.restoreVars saved
      if call.keepsRedirections then forget frame else restore frame
      return flow

end Call
end Retrace.Shell
