import Retrace.Shell.Builtin.Full.Declaring

/-!
# Options of the session

Those with letters, which `set` turns, and the finer ones, which `shopt` turns.
-/

namespace Retrace.Shell.Builtin.Full

open Unix Step

def switchNames : List String :=
  ["autocd", "assoc_expand_once", "cdable_vars", "cdspell", "checkhash", "checkjobs",
    "checkwinsize", "cmdhist", "compat31", "compat32", "compat40", "compat41", "compat42",
    "compat43", "compat44", "complete_fullquote", "direxpand", "dirspell", "dotglob", "execfail",
    "expand_aliases", "extdebug", "extglob", "extquote", "failglob", "force_fignore",
    "globasciiranges", "globskipdots", "globstar", "gnu_errfmt", "histappend", "histreedit",
    "histverify", "hostcomplete", "huponexit", "inherit_errexit", "interactive_comments",
    "lastpipe", "lithist", "localvar_inherit", "localvar_unset", "login_shell", "mailwarn",
    "no_empty_cmd_completion", "nocaseglob", "nocasematch", "noexpand_translation", "nullglob",
    "patsub_replacement", "progcomp", "progcomp_alias", "promptvars", "restricted_shell",
    "shift_verbose", "sourcepath", "varredir_close", "xpg_echo"]

def optionNames : List String :=
  (fullOptions.map (·.1)).mergeSort fun a b => !decide (b < a)

def choiceRow (asCommand : Bool) (command : String) (name : String) (on : Bool) : Bytes :=
  if asCommand then ofString (command ++ " " ++ name ++ "\n")
  else ofString name ++ List.replicate (15 - name.length) ' ' ++
    ofString (if on then "\ton\n" else "\toff\n")

def optionRow (session : Session) (asCommand : Bool) (name : String) : Bytes :=
  let on := session.has name
  choiceRow asCommand (if on then "set -o" else "set +o") name on

def switchRow (session : Session) (asCommand : Bool) (name : String) : Bytes :=
  let on := session.switched name
  choiceRow asCommand (if on then "shopt -s" else "shopt -u") name on

def setUsage : String := "set [-abefhkmnptuvxBCEHPT] [-o option-name] [--] [-] [arg ...]"

def letterOption? (letter : Char) : Option String :=
  (fullOptions.find? (·.2 = some letter)).map (·.1)

/-- The first letter among options that turns none, with its sign. `named` where a name is
expected. -/
def unknownLetter? : Bool → List Bytes → Option Bytes
  | _, [] => none
  | true, _ :: rest => unknownLetter? false rest
  | false, word :: rest =>
    match word with
    | ['-', '-'] => none
    | sign :: c :: more =>
      if sign ≠ '-' && sign ≠ '+' then none
      else match (c :: more).find? fun letter => letter ≠ 'o' && (letterOption? letter).isNone with
        | some letter => some [sign, letter]
        | none => unknownLetter? ((c :: more).contains 'o') rest
    | _ => none

def turnEach (on : Bool) : Bytes → List Bytes → Step (Option (List Bytes))
  | [], rest => return some rest
  | 'o' :: letters, rest => do
    let session ← get
    match rest with
    | [] =>
      say (optionNames.flatMap (optionRow session !on))
      turnEach on letters []
    | name :: rest =>
      let text := String.ofList name
      if optionNames.contains text then
        set (session.turn text on)
        turnEach on letters rest
      else
        complain (name ++ ": invalid option name")
        return none
  | letter :: letters, rest => do
    if let some name := letterOption? letter then modify fun session => session.turn name on
    turnEach on letters rest

def turnWords : Nat → List Bytes → Step Flow
  | 0, _ => answer true
  | _ + 1, [] => answer true
  | fuel + 1, word :: rest => do
    let renew (params : List Bytes) : Step Flow := do
      modify fun session => { session with params }
      answer true
    match word with
    | ['-'] =>
      modify fun session => (session.turn "xtrace" false).turn "verbose" false
      if rest.isEmpty then answer true else renew rest
    | ['-', '-'] => renew rest
    | sign :: c :: more =>
      if sign = '-' || sign = '+' then
        match ← turnEach (sign = '-') (c :: more) rest with
        | some rest => turnWords fuel rest
        | none => finishWith 2
      else renew (word :: rest)
    | _ => renew (word :: rest)

def setParams : Builtin := fun words => do
  if words.isEmpty then saying (settingRows (← get))
  else match unknownLetter? false words with
    | some option => badOption option setUsage
    | none => turnWords (words.length + 1) words

def switchUsage : String := "shopt [-pqsu] [-o] [optname ...]"

def switchEach (options : Options) (success : Bool) : List Bytes → Step Flow
  | [] => answer success
  | word :: rest => do
    let session ← get
    let name := String.ofList word
    let plain := options.has 'o'
    let known := if plain then optionNames.contains name else switchNames.contains name
    if !known then
      complain (word ++ ofString (if plain then ": invalid option name"
        else ": invalid shell option name"))
      switchEach options false rest
    else if options.has 's' || options.has 'u' then
      let on := options.has 's'
      if plain then set (session.turn name on)
      else
        let others := session.switches.filter (· ≠ name)
        set { session with switches := if on then name :: others else others }
      switchEach options success rest
    else
      let on := if plain then session.has name else session.switched name
      if !options.has 'q' then
        let row := if plain then optionRow else switchRow
        say (row session (options.has 'p') name)
      switchEach options (success && on) rest

def shopt : Builtin :=
  withOptions "pqsuo" switchUsage fun options => do
    let session ← get
    if options.operands.isEmpty then
      let isShown := fun on : Bool =>
        if options.has 's' then on else if options.has 'u' then !on else true
      let text := if options.has 'o' then
          (optionNames.filter fun name => isShown (session.has name)).flatMap
            (optionRow session (options.has 'p'))
        else (switchNames.filter fun name => isShown (session.switched name)).flatMap
          (switchRow session (options.has 'p'))
      if options.has 'q' then answer true else saying text
    else switchEach options true options.operands

/-! ## Options of scripts -/

def getopts : Builtin := fun words => do
  match words with
  | spec :: name :: rest =>
    let session ← get
    let words := if rest.isEmpty then session.params else rest
    let past := words.length + 1 < session.optionIndex
    let found := nextOption spec words (if past then 1 else session.optionIndex)
      (if past then none else session.optionOffset)
    let isShown := (session.value? "OPTERR".toList) ≠ some ['0']
    if let some flaw := found.complaint then
      if isShown then
        let text := match flaw with
          | .unknown letter => ": illegal option -- " ++ [letter]
          | .noArgument letter => ": option requires an argument -- " ++ [letter]
        write 2 (session.name ++ text ++ ['\n'])
    let session := match found.argument with
      | some (c :: more) => session.keep "OPTARG" (c :: more)
      | _ => session.erase "OPTARG".toList
    let session := session.keep "OPTIND" (Text.decimal found.index)
    set { session with optionIndex := found.index, optionOffset := found.offset }
    if !isName name then failed (notIdentifier name)
    else attemptingOr 2 do
      storeText name none false [found.letter]
      modify fun session =>
        { session with optionIndex := found.index, optionOffset := found.offset }
      Expand.of (answer !found.isEnd)
  | _ => usage "getopts optstring name [arg ...]"

end Retrace.Shell.Builtin.Full
