import Retrace.Shell.Builtin.Full
import Retrace.Shell.Call

/-!
# Commands of the richer shell

A simple command goes through these steps: its words are unfolded, its settings are
made for as long as it runs, it is traced if that is asked for, its redirections are
opened, and then it is run. A function comes before a builtin, and a builtin before a
program.
-/

namespace Retrace.Shell

open Unix Step
open Builtin.Full (Argument)

namespace Calling

def asksForTable (words : List Argument) : Bool :=
  words.any fun
    | .text ('-' :: letters) => letters.contains 'A'
    | _ => false

def argumentsOf (self : Self) (done : List Argument) : List Word → Expand (List Argument)
  | [] => return done.reverse
  | [.written _, .setting (.mk name _ adds [.row elements])] :: rest => do
    let isTable := (← get).isTable name || asksForTable done
    let entries ← entriesOf self isTable elements
    argumentsOf self (.row name adds entries :: done) rest
  | [.written _, .setting (.mk name index adds value)] :: rest => do
    let spot ← unfoldIndex self index
    let text ← unfoldText self true value
    let sign := if adds then ['+', '='] else ['=']
    argumentsOf self (.text (spotName name spot ++ sign ++ text) :: done) rest
  | word :: rest => do
    let fields ← unfoldWord self word
    argumentsOf self ((fields.map .text).reverse ++ done) rest

/-! ## The environment of a command -/

structure Passing where
  saved : Scope := []
  names : List Bytes := []

variable (self : Self)

def passedText : Word → Expand Bytes
  | [.row elements] => do
    let texts ← elements.mapM (unfoldText self false)
    return '(' :: joined ' ' texts ++ [')']
  | value => unfoldText self true value

/-- Makes settings for a command only, each in sight of those before it. One that cannot be
made is told of. -/
def makePassing (self : Self) : List Setting → Expand Passing
  | [] => return {}
  | setting :: rest => do
    let .mk name index adds value := setting
    match index with
    | .none =>
      let text ← passedText self value
      let sign := if adds then ['+', '='] else ['=']
      Expand.of (traceText self (name ++ sign ++ tracedValue text))
      let name := (← get).resolve name
      let before := (← get).held? name
      match (← get).open? name with
      | .error message =>
        Expand.of (complain message)
        makePassing self rest
      | .ok held =>
        let value ← if adds then valueFor held held.text? true text else pure text
        modify fun session => session.put name { value := some value, exported := true }
        let others ← makePassing self rest
        return { saved := others.saved ++ [(name, before)], names := name :: others.names }
    | .all each =>
      let place := if each then ['@'] else ['*']
      Expand.of (complain (Builtin.Full.notIdentifier (name ++ '[' :: place ++ [']'])))
      makePassing self rest
    | .place written _ =>
      Expand.of (complain (Builtin.Full.notIdentifier (name ++ '[' :: written ++ [']'])))
      makePassing self rest

/-- Runs something with settings of its own. Those that it declares for good stay. -/
def passing (made : Passing) (kept : List Bytes) (body : Step Flow) : Step Flow := do
  let before := (← get).passing
  modify fun session => { session with passing := made.names ++ before }
  let flow ← body
  modify fun session => { session with passing := before }
  if !Call.isEnd flow then
    modify fun session => session.restoreVars (made.saved.filter fun entry => !kept.contains entry.1)
  return flow

/-! ## Programs -/

def lowered (session : Session) : Session :=
  match (session.value? "SHLVL".toList).bind Builtin.Full.integer? with
  | some level => session.keep "SHLVL" (Integer.render (max 0 (level - 1)))
  | none => session

def refusalLine (view : View) (path : Bytes) (cause : OsError) : Bytes :=
  let why := match cause with
    | .badExecutable => "cannot execute binary file: Exec format error"
    | .notFound =>
      if view.pathExists path true then "cannot execute: required file not found" else cause.text
    | .denied => if view.isDir path then "Is a directory" else cause.text
    | _ => cause.text
  path ++ ofString (": " ++ why)

def looksLikeText (start : List Nat) : Bool :=
  start.take 4 ≠ [0x7F, 0x45, 0x4C, 0x46] && !(start.takeWhile (· ≠ 10)).contains 0

def handedFunctions (session : Session) : Environment :=
  (session.functions.filter fun (_, held) => held.exported).map fun (name, held) =>
    ("BASH_FUNC_" ++ name ++ ['%', '%'], exportedFunction held.body)

def withPath (path : Bytes) (env : Environment) : Environment :=
  if env.any (·.1 = ['_']) then
    env.map fun entry => if entry.1 = ['_'] then (entry.1, path) else entry
  else env ++ [(['_'], path)]

/-- Puts the program at a path in the place of the session, which shares its variables unless
it is `bare`. The answer is why it could not be. -/
def start (bare : Bool) (path : Bytes) (words : List Bytes)
    (session : Session) : Step OsError := do
  let env := if bare then [] else withPath path (session.environment ++ handedFunctions session)
  match ← run (self.exec path words env) with
  | .badExecutable =>
    match Exec.content (← look) path with
    | .ok content =>
      if looksLikeText ((content.extract 0 80).toList.map (·.toNat)) then
        let shell := "/bin/bash".toList
        run (self.exec shell (shell :: path :: words.drop 1) env)
      else return .badExecutable
    | .error cause => return cause
  | cause => return cause

def find (name : Bytes) : Step (Option Bytes) := do
  if name.contains '/' then return some name
  if name.isEmpty then return none
  let session ← get
  let view ← look
  match locate view session name with
  | .ok (path, session) =>
    set (session.noteHit name)
    return some path
  | .error _ =>
    let paths := (searchPath session).map fun directory => Exec.under directory name
    return paths.find? fun path => view.isFile path

def giveWayTo (path : Option Bytes) (lowers : Bool) (words : List Bytes) :
    Step Flow := do
  match path with
  | none =>
    complain (words.headD [] ++ ": command not found")
    setStatus 127
    return .exits
  | some path =>
    let session ← get
    let cause ← start self false path words (if lowers then lowered session else session)
    complain (refusalLine (← look) path cause)
    setStatus (refusalStatus cause)
    return .exits

def runProgram (words : List Bytes) : Step Flow := do
  let path ← find (words.headD [])
  let session ← get
  if session.isLast && !session.hasTraps then giveWayTo self path (!session.isPiped) words
  else
    let job ← newJobFor session.running
    let _ ← startMember self job false (giveWayTo self path false words)
    setStatus (← finishJob job)
    return .goes

def replace : Builtin :=
  Builtin.Full.withOptions "cla:" "exec [-cl] [-a name] [command [argument ...]] [redirection ...]"
    fun options => do
      match options.operands with
      | [] => answer true
      | name :: arguments =>
        let session ← get
        let title := (options.last? 'a').getD name
        let title := if options.has 'l' then '-' :: title else title
        let gone : Flow := if session.switched "execfail" then .goes else .exits
        let found ← find name
        match found with
        | none =>
          complain (name ++ ": not found")
          setStatus 127
          return gone
        | some path =>
          let path := if path.head? = some '/' then path
            else Exec.under session.here (if ['.', '/'].isPrefixOf path then path.drop 2 else path)
          let cause ← start self (options.has 'c') path (title :: arguments) (lowered (← get))
          let plain := refusalLine (← look) path cause
          write 2 ({ session with command := none }.message plain)
          if refusalStatus cause = 126 then
            let why := plain.drop (path.length + 2)
            complain (path ++ ": cannot execute: " ++ why)
          setStatus (refusalStatus cause)
          return gone

/-! ## Scripts run in passing -/

def evaluate (tested : Bool) : Builtin :=
  Builtin.Full.withOptions "" "eval [arg ...]" fun options => do
    let before ← get
    set { before with command := none, depth := before.depth + 1 }
    let flow ← runTextFrom self { tested, label := "eval: " } before.line (joined ' ' options.operands)
    modify fun session =>
      { session with command := before.command, depth := before.depth, line := before.line }
    return flow

def scriptPath (view : View) (session : Session) (name : Bytes) : Bytes :=
  if name.contains '/' then name
  else ((searchPath session).map fun directory => Exec.under directory name).find?
    (fun path => view.isFile path) |>.getD name

def returned (flow : Flow) : Step Flow := do
  match (← get).trap? Trap.return with
  | some (c :: action) =>
    if flow = .goes || flow = .returns then
      match ← runTrapFrom self (← get).line (c :: action) with
      | .goes => return flow
      | other => return other
    else return flow
  | _ => return flow

def source (self : Self) (tested : Bool) : Builtin := fun words => do
  let before ← get
  let name := String.ofList (before.command.getD [])
  let how := name ++ " filename [arguments]"
  Builtin.Full.withOptions "" how (fun options => do
    match options.operands with
    | [] =>
      complain "filename argument required"
      Builtin.Full.usage how
    | file :: arguments =>
      let view ← look
      let path := scriptPath view before file
      if view.isDir path then Builtin.Full.failed (path ++ ": is a directory")
      else match ← ask (.openFile path .input 0) with
        | .error cause =>
          write 2 ({ before with command := none }.message
            (file ++ ofString (": " ++ cause.text)))
          Builtin.Full.finishWith 1
        | .ok fd =>
          let text ← run (Program.readAll fd)
          close fd
          if !looksLikeText (((text.toOption.getD []).take 80).map Char.toNat) then
            complain (path ++ ": cannot execute binary file")
            return ← Builtin.Full.finishWith 126
          let frame : Frame := { name := "source".toList, source := path, line := before.line }
          set { before with
            command := none
            depth := before.depth + 1
            frames := frame :: before.frames
            params := if arguments.isEmpty then before.params else arguments }
          let flow ← runTextFrom self { tested } 1 (text.toOption.getD [])
          let flow ← returned self flow
          modify fun session =>
            { session with
              command := before.command, depth := before.depth, line := before.line
              frames := before.frames
              params := if arguments.isEmpty then session.params else before.params }
          return if flow = .returns then .goes else flow) words

/-! ## What is run -/

inductive Kind where
  | function (held : Function)
  | declares (run : List Argument → Step Flow)
  | builtin (run : Builtin)
  | program

def builtin? (tested : Bool) (name : Bytes) : Option Builtin :=
  match String.ofList name with
  | "eval" => some (evaluate self tested)
  | "." => some (source self tested)
  | "source" => some (source self tested)
  | "exec" => some (replace self)
  | "unset" => some fun words => Builtin.Full.expanding do
    let words ← words.mapM (unfoldElement self)
    Expand.of (Builtin.Full.unset words)
  | _ => Builtin.Full.find? name

def kindOf (tested : Bool) (session : Session) (plain : Bool) (name : Bytes) :
    Kind :=
  match if plain then none else session.functions.lookup name with
  | some held => .function held
  | none =>
    match Builtin.Full.declaring? name with
    | some run => .declares run
    | none => ((builtin? self tested name).map .builtin).getD .program

def called? : List Argument → Option (List Argument)
  | .text ['-', 'p'] :: rest => called? rest
  | .text ['-', '-'] :: word :: rest => some (word :: rest)
  | .text ('-' :: _ :: _) :: _ => none
  | [] => none
  | words => some words

/-- Takes the words away that only say how the command is looked for. The answer tells whether
functions are passed over. -/
def resolve (session : Session) : Nat → Bool → List Argument → Bool × List Argument
  | 0, plain, words => (plain, words)
  | fuel + 1, plain, words =>
    match words with
    | .text name :: rest =>
      if !plain && (session.functions.lookup name).isSome then (plain, words)
      else if name = "command".toList then
        match called? rest with
        | some called => resolve session fuel true called
        | none => (true, words)
      else if name = "builtin".toList then
        match rest with
        | .text inner :: _ =>
          if Builtin.Full.isBuiltin inner then resolve session fuel true rest else (true, words)
        | _ => (true, words)
      else (plain, words)
    | _ => (plain, words)

def carryOut (name : Bytes) (run : Step Flow) : Step Flow := do
  let before := (← get).command
  modify fun session => { session with command := some name }
  let flow ← run
  if let .error cause ← flushing then
    complain (ofString ("write error: " ++ cause.text))
    setStatus 1
  modify fun session => { session with command := before }
  return if flow = .fails then .goes else flow

def isHidden (session : Session) (signal : Nat) : Bool :=
  let isOwn := signal = Trap.failure || signal = Trap.command || signal = Trap.return
  isOwn && !session.keepsTrap signal

def enter (name : Bytes) (held : Function) (arguments : List Bytes)
    (tested : Bool) : Step Flow := do
  let before ← get
  let (hidden, kept) := before.traps.partition fun (signal, _) => isHidden before signal
  set { before with
    params := arguments
    calls := before.calls + 1
    loops := 0
    scopes := [] :: before.scopes
    frames := { name, source := held.source, line := before.line } :: before.frames
    around := some held.line
    lineShift := 0
    savedOptions := none
    traps := kept }
  let flow ← self.eval held.body tested
  let flow ← returned self flow
  if Call.isEnd flow then return flow
  modify fun after =>
    let after := after.restoreVars (after.scopes.headD [])
    let old := hidden.filter fun (signal, _) => (after.trap? signal).isNone
    { after with
      params := before.params
      calls := before.calls
      loops := before.loops
      scopes := before.scopes
      frames := before.frames
      line := before.line
      around := before.around
      lineShift := before.lineShift
      traps := old ++ after.traps
      options := after.savedOptions.getD after.options
      savedOptions := before.savedOptions }
  return if flow = .returns then .goes else flow

def run (self : Self) (tested plain : Bool) (words : List Argument) : Step Flow := do
  match words with
  | [] => return .goes
  | first :: arguments =>
    let name := first.chars
    let texts := arguments.map Argument.chars
    match kindOf self tested (← get) plain name with
    | .function held =>
      asLast false
      enter self name held texts tested
    | .declares declare =>
      asLast false
      carryOut name (declare arguments)
    | .builtin run =>
      asLast false
      let flow ← carryOut name (run texts)
      reapAll
      return flow
    | .program => runProgram self (name :: texts)

/-! ## Simple commands -/

def tracedEntry (entry : Entry) : Bytes :=
  let key := match entry.index with
    | some index => '[' :: Quoting.single index ++ [']', '=']
    | none => []
  key ++ Quoting.single entry.value

def traceArguments (words : List Argument) : Step Unit := do
  for word in words do
    if let .row name adds entries := word then
      let sign := if adds then ['+', '='] else ['=']
      traceText self (name ++ sign ++ '(' :: joined ' ' (entries.map tracedEntry) ++ [')'])
  traceWords self (words.map Argument.chars)
  let keeps := words.head?.any fun word =>
    ["export", "readonly"].contains (String.ofList word.chars)
  if keeps then
    for word in words.drop 1 do
      if let .text chars := word then
        if let (c :: name, some value) := Builtin.cutSetting chars then
          if isName (c :: name) then traceText self (c :: name ++ '=' :: tracedValue value)

def assignAll (self : Self) : List Setting → Expand Unit
  | [] => return
  | setting :: rest => do
    if let some (name, shown) := setting.row? then
      Expand.of (traceText self shown)
      let name := (← get).resolve name
      if ((← get).held? name).isNone then
        modify fun session => session.hold name { value := some [], elements := some (.row []) }
      (← assignmentOf self setting).make
    else
      let assignment ← assignmentOf self setting
      Expand.of (traceText self assignment.shown)
      assignment.make
    assignAll self rest

def redirected (stays : Bool) (routes : List Route) (body : Step Flow) : Step Flow := do
  if routes.isEmpty then body
  else
    let (frame, opened) ← openRoutes true [] routes
    if opened then
      let flow ← body
      if stays then forget frame else restore frame
      return flow
    else
      restore frame
      setStatus 1
      return .goes

def noteLast (word : Bytes) : Step Unit :=
  modify fun session => { session.erase ['_'] with lastWord := word }

def runBare (settings : List Setting) (redirects : List Redirect) : Step Flow := do
  match ← (assignAll self settings).run with
  | .error message => refused message
  | .ok () =>
    match ← (routesOf self redirects).run with
    | .error message => refused message
    | .ok routes =>
      noteLast []
      redirected false routes do
        setStatus (← get).inner
        return .goes

def declaredNames (words : List Argument) : List Bytes :=
  match words with
  | first :: rest =>
    if ["export", "readonly", "declare", "typeset"].contains (String.ofList first.chars) then
      rest.map fun word => word.chars.takeWhile isNameChar
    else []
  | [] => []

/-- The routes of a command, which do not see the settings that are made for it. Those of a
program are its own affair: what they change is lost, and what is wrong with them is its failure. -/
def routesBeside (made : Passing) (isProgram : Bool) (redirects : List Redirect) :
    Step (Except Flow (List Route)) := do
  if redirects.isEmpty then return .ok []
  let before ← get
  let passed := made.names.map fun name => (name, before.held? name)
  modify fun session => session.restoreVars made.saved
  match ← (routesOf self redirects).run with
  | .ok routes =>
    if isProgram then
      modify fun session => { session with vars := before.vars, seed := before.seed }
    else modify fun session => session.restoreVars passed
    return .ok routes
  | .error message =>
    let flow ← refused message
    if !isProgram then return .error flow
    modify fun session => { before with status := session.status }
    return .error .goes

def runSimple (settings : List Setting) (words : List Word)
    (redirects : List Redirect) (tested : Bool) : Step Flow := do
  modify fun session => { session with inner := 0 }
  match ← (argumentsOf self [] words).run with
  | .error message => refused message
  | .ok [] => runBare self settings redirects
  | .ok arguments =>
    match ← (makePassing self settings).run with
    | .error message => refused message
    | .ok made =>
      traceArguments self arguments
      let (plain, called) := resolve (← get) (arguments.length + 1) false arguments
      let name := (called.head?.map Argument.chars).getD []
      let isProgram := match kindOf self tested (← get) plain name with
        | .program => true
        | _ => false
      match ← routesBeside self made isProgram redirects with
      | .error flow => return flow
      | .ok routes =>
        let last := (arguments.getLast?.map Argument.chars).getD []
        let flow ← passing made (declaredNames called) <|
          redirected (name = "exec".toList) routes (run self tested plain called)
        noteLast last
        return flow

end Calling
end Retrace.Shell
