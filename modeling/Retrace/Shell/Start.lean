import Retrace.Shell.Evaluator

/-!
# The shell as a program

A shell is started with options, and with a script as one of its words, in a file,
or to be read from its input.
-/

namespace Retrace.Shell

open Unix Step

def maxNesting : Nat := 1000000

def ownVars (parent : Nat) : List (Bytes × Variable) :=
  let plain := fun (name value : String) => (name.toList, { value := some value.toList : Variable })
  [plain "IFS" " \t\n", plain "PS1" "# ", plain "PS2" "> ", plain "PS4" "+ ", plain "OPTIND" "1",
    ("PPID".toList, { value := some (Text.decimal parent) })]

def standardPath : Bytes := "/usr/local/sbin:/usr/local/bin:/usr/sbin:/usr/bin:/sbin:/bin".toList

def openingVars (env : Environment) (parent : Nat) : List (Bytes × Variable) :=
  let path := "PATH".toList
  let own := ownVars parent ++
    if env.any (·.1 = path) then [] else [(path, { value := some standardPath : Variable })]
  let given := env.filter fun (name, _) => isName name && !own.any (·.1 = name)
  own ++ given.map fun (name, value) => (name, { value := some value, exported := true })

def openingDirectory (view : View) (env : Environment) : Bytes :=
  match env.lookup "PWD".toList with
  | some path =>
    let isHere := match view.volume.find view.cwd path true with
      | .ok inode => inode = view.cwd
      | .error _ => false
    if path.head? = some '/' && isHere then path else view.here
  | none => view.here

def newSession (view : View) (name : Bytes) (env : Environment) : Session :=
  let here := openingDirectory view env
  let session : Session :=
    { name
      vars := openingVars env view.parent
      deaf := view.actions.filterMap fun (signal, action) =>
        if action = .ignore then some signal else none
      root := view.process
      here
      line := 0 }
  session.keepExported "PWD" here

/-- Reads the options of a shell: whether its first operand is a script, and its operands. -/
def shellOptions : Nat → List Bytes → Session →
    Except Bytes (Bool × List Bytes × Session)
  | 0, words, session => .ok (false, words, session)
  | _ + 1, ['-'] :: rest, session => .ok (false, rest, session)
  | _ + 1, ['-', '-'] :: rest, session => .ok (false, rest, session)
  | fuel + 1, (sign :: letters) :: rest, session =>
    if sign = '-' || sign = '+' then do
      let plain := letters.filter fun c => c ≠ 'c' && c ≠ 'l'
      let (session, rest) ← Builtin.turnLetters (sign = '-') plain rest session
      let (script, operands, session) ← shellOptions fuel rest session
      return (script || letters.contains 'c', operands, session)
    else .ok (false, (sign :: letters) :: rest, session)
  | _ + 1, words, session => .ok (false, words, session)

def beginScript (name : Bytes) (params : List Bytes) : Step Unit :=
  modify fun session => { session with name, params, line := 1 }

def runPlain (self : Self) (name : Bytes) (arguments : List Bytes) : Step Flow := do
  match shellOptions (arguments.length + 1) arguments (← get) with
  | .error message => aborting message
  | .ok (true, [], session) =>
    set session
    aborting "-c requires an argument"
  | .ok (true, script :: operands, session) =>
    set session
    beginScript (operands.headD name) (operands.drop 1)
    runText self false script
  | .ok (false, operands, session) =>
    set session
    match operands, session.has "stdin" with
    | path :: params, false =>
      match ← ask (.openFile path .input 0) with
      | .error cause => aborting (cannotOpen session.dialect path cause)
      | .ok fd =>
        let fd ← Call.moveUp fd
        beginScript path params
        runInput self fd
    | params, _ =>
      modify fun session => session.turn "stdin" true
      beginScript name params
      runInput self 0

/-! ## The richer shell -/

def openingSwitches : List String :=
  ["checkwinsize", "cmdhist", "complete_fullquote", "extquote", "force_fignore", "globasciiranges",
    "globskipdots", "hostcomplete", "interactive_comments", "patsub_replacement", "progcomp",
    "promptvars", "sourcepath"]

def versionPieces : List String := ["5", "2", "21", "1", "release", "x86_64-pc-linux-gnu"]

def versionText : String := "5.2.21(1)-release"

def fullVars (view : View) (env : Environment) (here : Bytes) : List (Bytes × Variable) :=
  let plain := fun (name value : String) => (name.toList, { value := some value.toList : Variable })
  let number := fun (name : String) (value : Nat) =>
    (name.toList, { value := some (Text.decimal value), integer := true, readonly := true : Variable })
  let unlessGiven := fun (name value : String) =>
    if env.any (·.1 = name.toList) then [] else [plain name value]
  let level := (env.lookup "SHLVL".toList).bind Builtin.Full.integer?
  let level := Integer.render (max 0 (level.getD 0) + 1)
  let former := match env.lookup "OLDPWD".toList with
    | some path => if view.isDir path then some path else none
    | none => none
  [plain "BASH" "/usr/bin/bash",
    ("BASH_VERSINFO".toList,
      { value := some [], readonly := true
        elements := some (Elements.ofValues (versionPieces.map String.toList)) }),
    plain "BASH_VERSION" versionText, number "EUID" 0, number "UID" 0,
    plain "HOSTTYPE" "x86_64", plain "IFS" " \t\n", plain "MACHTYPE" "x86_64-pc-linux-gnu",
    plain "OPTERR" "1", ("OPTIND".toList, { value := some ['1'], integer := true }),
    ("RANDOM".toList, { integer := true }), plain "SECONDS" "0",
    plain "EPOCHSECONDS" (toString (view.now / 1000000)),
    plain "OSTYPE" "linux-gnu", number "PPID" view.parent, plain "PS4" "+ ",
    ("PWD".toList, { value := some here, exported := true }),
    ("OLDPWD".toList, { value := former, exported := true }),
    ("SHLVL".toList, { value := some level, exported := true })] ++
    unlessGiven "PATH" "/usr/local/sbin:/usr/local/bin:/usr/sbin:/usr/bin:/sbin:/bin" ++
    unlessGiven "TERM" "dumb" ++ unlessGiven "SHELL" "/bin/bash"

def handedFunction? (name value : Bytes) : Option (Bytes × Function) :=
  let start := ofString "BASH_FUNC_"
  if !start.isPrefixOf name || !(ofString "() \x7b").isPrefixOf value then none
  else
    let name := ((name.drop start.length).reverse.drop 2).reverse
    let source : Source := { rest := name ++ ' ' :: value ++ ['\n'], dialect := .bash }
    match source.line? with
    | .ok (.define _ name body, _) =>
      some (name, { body, source := "environment".toList, exported := true })
    | _ => none

def newFullSession (view : View) (name : Bytes) (env : Environment) : Session :=
  let here := openingDirectory view env
  let own := fullVars view env here
  let given := env.filter fun (name, _) =>
    isName name && !own.any (·.1 = name)
  { name
    dialect := .bash
    vars := own ++ given.map fun (name, value) => (name, { value := some value, exported := true })
    functions := env.filterMap fun (name, value) => handedFunction? name value
    options := ["braceexpand", "hashall", "interactive-comments"]
    switches := openingSwitches
    deaf := view.actions.filterMap fun (signal, action) =>
      if action = .ignore then some signal else none
    root := view.process
    here
    lastWord := (env.lookup ['_']).getD []
    opened := view.now
    line := 0 }

structure Invocation where
  (script stdin : Bool := false)
  answer : Option Bytes := none
  operands : List Bytes := []

def invocationUsage : Bytes :=
  let longNames := ["debug", "debugger", "dump-po-strings", "dump-strings", "help", "init-file",
    "login", "noediting", "noprofile", "norc", "posix", "pretty-print", "rcfile", "restricted",
    "verbose", "version"]
  ofString ("Usage:\tbash [GNU long option] [option] ...\n" ++
    "\tbash [GNU long option] [option] script-file ...\nGNU long options:\n" ++
    String.join (longNames.map fun name => "\t--" ++ name ++ "\n") ++
    "Shell options:\n\t-ilrsD or -c command or -O shopt_option\t\t(invocation only)\n" ++
    "\t-abefhkmnptuvxBCEHPT or -o option\n")

/-- What is wrong with the words of a shell: the message, and whether it is told how they are
read. -/
structure BadInvocation where
  message : Bytes
  showsUsage : Bool

def readLetters (on : Bool) : Bytes → List Bytes → Invocation → Session →
    Except BadInvocation (List Bytes × Invocation × Session)
  | [], rest, found, session => .ok (rest, found, session)
  | letter :: letters, rest, found, session =>
    match letter, rest with
    | 'c', _ => readLetters on letters rest { found with script := true } session
    | 's', _ => readLetters on letters rest { found with stdin := true } session
    | 'o', name :: rest =>
      let text := String.ofList name
      if Builtin.Full.optionNames.contains text then
        readLetters on letters rest found (session.turn text on)
      else
        let place := "line 0: " ++ session.name ++ [':', ' ']
        .error ⟨place ++ name ++ ": invalid option name", false⟩
    | 'o', [] =>
      let rows := Builtin.Full.optionNames.flatMap (Builtin.Full.optionRow session !on)
      readLetters on letters [] { found with answer := some rows } session
    | 'O', name :: rest =>
      let text := String.ofList name
      if Builtin.Full.switchNames.contains text then
        let others := session.switches.filter (· ≠ text)
        readLetters on letters rest found
          { session with switches := if on then text :: others else others }
      else .error ⟨"line 0: " ++ name ++ ": invalid shell option name", false⟩
    | 'O', [] =>
      let rows := Builtin.Full.switchNames.flatMap (Builtin.Full.switchRow session !on)
      readLetters on letters [] { found with answer := some rows } session
    | _, _ =>
      if ['i', 'l', 'r', 'D'].contains letter then readLetters on letters rest found session
      else match Builtin.Full.letterOption? letter with
        | some name => readLetters on letters rest found (session.turn name on)
        | none =>
          let sign := if on then '-' else '+'
          .error ⟨[sign, letter] ++ ": invalid option", true⟩

def readLong (name : String) (rest : List Bytes) (found : Invocation) (session : Session) :
    Option (List Bytes × Invocation × Session) :=
  let plain := ["login", "noediting", "noprofile", "norc", "restricted", "debug", "debugger",
    "dump-strings", "dump-po-strings", "pretty-print"]
  if plain.contains name then some (rest, found, session)
  else match name with
    | "rcfile" => some (rest.drop 1, found, session)
    | "init-file" => some (rest.drop 1, found, session)
    | "posix" => some (rest, found, session.turn "posix" true)
    | "verbose" => some (rest, found, session.turn "verbose" true)
    | "help" =>
      let row := ofString ("GNU bash, version " ++ versionText ++ "-(x86_64-pc-linux-gnu)\n")
      some (rest, { found with answer := some (row ++ invocationUsage) }, session)
    | "version" =>
      let row := ofString ("GNU bash, version " ++ versionText ++ " (x86_64-pc-linux-gnu)\n")
      some (rest, { found with answer := some row }, session)
    | _ => none

def readInvocation : Nat → List Bytes → Invocation → Session →
    Except BadInvocation (Invocation × Session)
  | 0, words, found, session => .ok ({ found with operands := words }, session)
  | fuel + 1, words, found, session =>
    match words with
    | ['-'] :: rest => .ok ({ found with operands := rest }, session)
    | ['-', '-'] :: rest => .ok ({ found with operands := rest }, session)
    | ('-' :: '-' :: name) :: rest =>
      match readLong (String.ofList name) rest found session with
      | some (rest, found, session) => readInvocation fuel rest found session
      | none => .error ⟨'-' :: '-' :: name ++ ": invalid option", true⟩
    | (sign :: letter :: letters) :: rest =>
      if sign = '-' || sign = '+' then do
        let (rest, found, session) ← readLetters (sign = '-') (letter :: letters) rest found session
        readInvocation fuel rest found session
      else .ok ({ found with operands := words }, session)
    | _ => .ok ({ found with operands := words }, session)

def runFile (self : Self) (name path : Bytes) (params : List Bytes) : Step Flow := do
  if (← look).isDir path then
    write 2 (path ++ [':', ' '] ++ path ++ ": Is a directory\n")
    setStatus 126
    return .exits
  match ← ask (.openFile path .input 0) with
  | .error cause =>
    write 2 (name ++ [':', ' '] ++ path ++ ofString (": " ++ cause.text ++ "\n"))
    setStatus 127
    return .exits
  | .ok fd =>
    let fd ← Call.moveUp fd
    beginScript path params
    let bottom : Frame := { name := "main".toList, source := path, line := 0 }
    modify fun session => { session with frames := [bottom] }
    runInput self fd

def runFull (self : Self) (name : Bytes) (arguments : List Bytes) : Step Flow := do
  match readInvocation (arguments.length + 1) arguments {} (← get) with
  | .error wrong =>
    write 2 (name ++ [':', ' '] ++ wrong.message ++ ['\n'])
    if wrong.showsUsage then write 2 invocationUsage
    setStatus 2
    return .exits
  | .ok (found, session) =>
    set session
    match found.answer, found.script, found.operands with
    | some text, _, _ =>
      write 1 text
      return .exits
    | none, true, [] =>
      write 2 (name ++ ": -c: option requires an argument\n")
      setStatus 2
      return .exits
    | none, true, script :: operands =>
      modify fun session => { session with given := some script }
      beginScript (operands.headD name) (operands.drop 1)
      runTextFrom self { label := "-c: ", isLast := true } 1 script
    | none, false, path :: params =>
      if found.stdin then
        modify fun session => session.turn "stdin" true
        beginScript name (path :: params)
        runInput self 0
      else runFile self name path params
    | none, false, [] =>
      modify fun session => session.turn "stdin" true
      beginScript name []
      runInput self 0

/-! ## Both -/

def shell (dialect : Dialect) (exec : Exec) : Tool := fun words env => do
  let view ← Program.look
  let name := words.headD []
  let self : Self := ⟨eval exec maxNesting, exec⟩
  let started : Step Ending := do
    let _ ← attend self (← match dialect with
      | .dash => runPlain self name (words.drop 1)
      | .bash => runFull self name (words.drop 1))
    leave self
  started.run' (match dialect with
    | .dash => newSession view name env
    | .bash => newFullSession view name env)

end Retrace.Shell
