import Retrace.Shell.Builtin.Full.Directories
import Retrace.Shell.Builtin.Full.Signals
import Retrace.Shell.Builtin.Full.Testing
import Retrace.Shell.Builtin.Full.Choices
import Retrace.Shell.Builtin.Full.Reading
import Retrace.Shell.Builtin.Aliases
import Retrace.Shell.Search

/-!
# What names mean

A name may be an alias, a keyword, a function, a builtin or a program, in that order.
-/

namespace Retrace.Shell.Builtin.Full

open Unix Step Text

def builtinNames : List String :=
  [".", ":", "[", "alias", "bg", "bind", "break", "builtin", "caller", "cd", "command", "compgen",
    "complete", "compopt", "continue", "declare", "dirs", "disown", "echo", "enable", "eval",
    "exec", "exit", "export", "false", "fc", "fg", "getopts", "hash", "help", "history", "jobs",
    "kill", "let", "local", "logout", "mapfile", "popd", "printf", "pushd", "pwd", "read",
    "readarray", "readonly", "return", "set", "shift", "shopt", "source", "suspend", "test",
    "times", "trap", "true", "type", "typeset", "ulimit", "umask", "unalias", "unset", "wait"]

def isBuiltin (name : Bytes) : Bool := builtinNames.contains (String.ofList name)

def reservedNames : List String :=
  ["if", "then", "else", "elif", "fi", "case", "esac", "for", "select", "while", "until", "do",
    "done", "in", "function", "time", "\x7b", "\x7d", "!", "[[", "]]", "coproc"]

/-! ## Aliases -/

def aliasRow (entry : Alias) : Bytes :=
  "alias " ++ entry.name ++ '=' :: Quoting.single entry.text ++ ['\n']

def aliasEach (success : Bool) : List Bytes → Step Flow
  | [] => answer success
  | word :: rest => do
    match cutSetting word with
    | (c :: name, some text) =>
      modify fun session => setAlias session (c :: name) text
      aliasEach success rest
    | _ =>
      match (← get).aliases.find? (·.name = word) with
      | some entry =>
        say (aliasRow entry)
        aliasEach success rest
      | none =>
        complain (word ++ ": not found")
        aliasEach false rest

def aliasing : Builtin :=
  withOptions "p" "alias [-p] [name[=value] ... ]" fun options => do
    let sorted := (← get).aliases.mergeSort fun a b => !decide (b.name < a.name)
    if options.operands.isEmpty || options.has 'p' then say (sorted.flatMap aliasRow)
    aliasEach true options.operands

def dropAliases (success : Bool) : List Bytes → Step Flow
  | [] => answer success
  | word :: rest => do
    let session ← get
    if session.aliases.any (·.name = word) then
      set { session with aliases := session.aliases.filter (·.name ≠ word) }
      dropAliases success rest
    else
      complain (word ++ ": not found")
      dropAliases false rest

def unalias : Builtin :=
  let how := "unalias [-a] name [name ...]"
  withOptions "a" how fun options => do
    if options.has 'a' then
      modify fun session => { session with aliases := [] }
      answer true
    else if options.operands.isEmpty then usage how
    else dropAliases true options.operands

/-! ## Meanings -/

inductive NameKind where
  | alias (text : Bytes)
  | keyword
  | function
  | builtin
  | file (path : Bytes) (found : Bool)

def programsOf (view : View) (session : Session) (name : Bytes) : List Bytes :=
  let paths := if name.contains '/' then [name]
    else (searchPath session).map fun directory => Exec.under directory name
  paths.filter fun path => (refusal? view path).isNone

def meanings (view : View) (session : Session) (withFunctions : Bool) (name : Bytes) :
    List NameKind :=
  let aliases := if session.switched "expand_aliases" then
      (session.aliases.filter (·.name = name)).map fun entry => NameKind.alias entry.text
    else []
  let text := String.ofList name
  aliases ++
    (if reservedNames.contains text then [.keyword] else []) ++
    (if withFunctions && (session.functions.lookup name).isSome then [.function] else []) ++
    (if isBuiltin name then [.builtin] else []) ++
    (programsOf view session name).map (.file · false)

def meaning? (view : View) (session : Session) (withFunctions : Bool) (name : Bytes) :
    Option NameKind :=
  match meanings view session withFunctions name, session.found? name with
  | .file _ _ :: _, some entry => some (.file entry.path true)
  | [], some entry => some (.file entry.path true)
  | kinds, _ => kinds.head?

namespace NameKind

def word : NameKind → String
  | .alias _ => "alias"
  | .keyword => "keyword"
  | .function => "function"
  | .builtin => "builtin"
  | .file .. => "file"

def sentence (name : Bytes) : NameKind → Bytes
  | .alias text => name ++ " is aliased to \x60" ++ text ++ ['\'']
  | .keyword => name ++ " is a shell keyword"
  | .function => name ++ " is a function"
  | .builtin => name ++ " is a shell builtin"
  | .file path true => name ++ " is hashed (" ++ path ++ [')']
  | .file path false => name ++ " is " ++ path

def call (name : Bytes) : NameKind → Bytes
  | .alias text => "alias " ++ name ++ '=' :: Quoting.single text
  | .file path _ => path
  | _ => name

def path? : NameKind → Option Bytes
  | .file path _ => some path
  | _ => none

end NameKind

structure Telling where
  all : Bool := false
  functions : Bool := true
  row : Bytes → NameKind → Option Bytes
  complains : Bool := true

def tellEach (telling : Telling) (found : Bool → Bool → Bool) (success : Bool) :
    List Bytes → Step Flow
  | [] => answer success
  | name :: rest => do
    let view ← look
    let session ← get
    let kinds := if telling.all then meanings view session telling.functions name
      else (meaning? view session telling.functions name).toList
    say ((kinds.filterMap (telling.row name)).flatMap (· ++ ['\n']))
    if kinds.isEmpty && telling.complains then
      let _ ← flush
      complain (name ++ ": not found")
    tellEach telling found (found success !kinds.isEmpty) rest

def tellPaths (all : Bool) (success : Bool) : List Bytes → Step Flow
  | [] => answer success
  | name :: rest => do
    let paths := programsOf (← look) (← get) name
    let paths := if all then paths else paths.take 1
    say (paths.flatMap (· ++ ['\n']))
    tellPaths all (success && !paths.isEmpty) rest

def fullSentence (session : Session) (name : Bytes) (kind : NameKind) : Bytes :=
  match kind, session.functions.lookup name with
  | .function, some held => kind.sentence name ++ '\n' :: shownFunction name held.body
  | _, _ => kind.sentence name

def describing : Builtin :=
  withOptions "afptP" "type [-afptP] name [name ...]" fun options => do
    let session ← get
    let all := options.has 'a'
    let functions := !options.has 'f'
    if options.has 'P' then tellPaths all true options.operands
    else
      let row := fun (name : Bytes) (kind : NameKind) =>
        if options.has 't' then some (ofString kind.word)
        else if options.has 'p' then kind.path?
        else some (fullSentence session name kind)
      let complains := !options.has 't' && !options.has 'p'
      tellEach { all, functions, row, complains } (· && ·) true options.operands

def commandWord : Builtin :=
  withOptions "pvV" "command [-pVv] command [arg ...]" fun options => do
    let session ← get
    if options.has 'V' then
      tellEach { row := fun name kind => some (fullSentence session name kind) } (· || ·) false
        options.operands
    else if options.has 'v' then
      tellEach { row := fun name kind => some (kind.call name), complains := false } (· || ·) false
        options.operands
    else answer true

def builtinWord : Builtin :=
  withOptions "" "builtin [shell-builtin [arg ...]]" fun options =>
    match options.operands with
    | [] => answer true
    | name :: _ => failed (name ++ ": not a shell builtin")

/-! ## Programs found so far -/

def noteEach (success : Bool) : List Bytes → Step Flow
  | [] => answer success
  | name :: rest => do
    let session ← get
    let hasMeaning := name.contains '/' || isBuiltin name || (session.functions.lookup name).isSome
    if hasMeaning then noteEach success rest
    else match findProgram (← look) session name with
      | .ok path =>
        set ((session.forgetFound name).noteFound name path)
        noteEach success rest
      | .error _ =>
        complain (name ++ ": not found")
        noteEach false rest

def tellFound (many success : Bool) : List Bytes → Step Flow
  | [] => answer success
  | name :: rest => do
    match (← get).found? name with
    | some entry =>
      say ((if many then name ++ ['\t'] else []) ++ entry.path ++ ['\n'])
      modify fun session => session.noteHit name
      tellFound many success rest
    | none =>
      complain (name ++ ": not found")
      tellFound many false rest

def forgetEach (success : Bool) : List Bytes → Step Flow
  | [] => answer success
  | name :: rest => do
    let session ← get
    if (session.found? name).isSome then
      set (session.forgetFound name)
      forgetEach success rest
    else
      complain (name ++ ": not found")
      forgetEach false rest

def foundTable (session : Session) (asCommands : Bool) : Bytes :=
  let entries := inPlaces 256 (session.found.map fun entry => (entry.name, entry))
  let rows := entries.flatMap fun (name, entry) =>
    if asCommands then
      "builtin hash -p " ++ entry.path ++ ' ' :: name ++ ['\n']
    else
      let hits := decimal entry.hits
      List.replicate (4 - hits.length) ' ' ++ hits ++ '\t' :: entry.path ++ ['\n']
  if asCommands then rows else "hits\tcommand\n" ++ rows

def hashing : Builtin :=
  withOptions "lrp:dt" "hash [-lr] [-p pathname] [-dt] [name ...]" fun options => do
    let session ← get
    let names := options.operands
    if options.has 'r' then set { session with found := [] }
    match options.last? 'p' with
    | some path =>
      modify fun session => names.foldl (fun session name =>
        (session.forgetFound name).noteFound name path) session
      answer true
    | none =>
      if options.has 'd' then forgetEach true names
      else if options.has 't' then tellFound (1 < names.length) true names
      else if !names.isEmpty then noteEach true names
      else if options.has 'r' then answer true
      else if session.found.isEmpty then saying "hash: hash table empty\n"
      else saying (foundTable session (options.has 'l'))

/-! ## Callers -/

def caller : Builtin := fun words => do
  let frames := (← get).frames
  match words with
  | [] =>
    match frames with
    | frame :: rest =>
      let source := (rest.head?.map (·.source)).getD "NULL".toList
      saying (decimal frame.line ++ ' ' :: source ++ ['\n'])
    | [] => answer false
  | word :: _ =>
    match integer? word with
    | none =>
      complain (word ++ ": invalid number")
      usage "caller [expr]"
    | some place =>
      match frames[place.toNat]?, frames[place.toNat + 1]? with
      | some frame, some around =>
        saying (decimal frame.line ++ ' ' :: around.name ++ ' ' :: around.source ++ ['\n'])
      | _, _ => answer false

end Retrace.Shell.Builtin.Full
