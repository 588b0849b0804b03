import Retrace.Tool.Answers
import Retrace.Tool.Spawn

/-!
# Programs that start others

With other variables or for a limited time, and where programs are found.
-/

namespace Retrace.Tool.Starting

open Unix

/-! ## Variables -/

/-- The words in a text, where quotes keep blanks and a backslash keeps what follows it. `held` is
the word that has begun, last first, and `quote` the quote it is in. -/
def wordsOf : Option Bytes → Option Char → Bytes → List Bytes
  | held, _, [] => (held.map List.reverse).toList
  | held, quote, c :: rest =>
    let more := fun (quote : Option Char) => wordsOf (some (held.getD [])) quote rest
    let taken := fun (c : Char) => wordsOf (some (c :: held.getD [])) quote rest
    match quote with
    | some mark => if c = mark then more none else taken c
    | none =>
      if c = '\'' || c = '"' then more (some c)
      else if c = ' ' || c = '\t' || c = '\n' then
        match held with
        | some word => word.reverse :: wordsOf none none rest
        | none => wordsOf none none rest
      else taken c

structure EnvStyle where
  vars : Environment
  mark : Char := '\n'
  dir : Option Bytes := none

def plainText : Bytes → Bytes
  | '\\' :: 'n' :: rest => '\n' :: plainText rest
  | '\\' :: 't' :: rest => '\t' :: plainText rest
  | '\\' :: '_' :: rest => ' ' :: plainText rest
  | '\\' :: '\\' :: rest => '\\' :: plainText rest
  | c :: rest => c :: plainText rest
  | [] => []

def splitWords : List Bytes → List Bytes
  | ['-', 'S'] :: text :: rest => (wordsOf none none text).map plainText ++ rest
  | ('-' :: 'S' :: text) :: rest => (wordsOf none none text).map plainText ++ rest
  | ('-' :: c :: letters) :: rest => if c = 'i' then ('-' :: c :: letters) :: splitWords rest
    else ('-' :: c :: letters) :: rest
  | words => words

def env (exec : Exec) : Tool := makeClosing (.failing 125) fun words => do
  let manual :=
    { (Manual.make "0iu:vC:S:" [("null", "0"), ("ignore-environment", "i"), ("unset", "u"), ("debug", "v"),
      ("chdir", "C"), ("split-string", "S")] 125).named with
      ordered := true }
  let start : EnvStyle := { vars := (← get).env }
  let (style, operands) ← manual.heed (splitWords words) start fun style name value => do
    match name with
    | "0" => return { style with mark := '\x00' }
    | "i" => return { style with vars := [] }
    | "u" => return { style with vars := style.vars.filter (·.1 ≠ value) }
    | "C" => return { style with dir := some value }
    | _ => return style
  let (style, operands) : EnvStyle × List Bytes := match operands with
    | ['-'] :: rest => ({ style with vars := [] }, rest)
    | operands => (style, operands)
  let settings := operands.takeWhile (·.contains '=')
  let words := operands.drop settings.length
  let vars := settings.foldl (fun (vars : Environment) setting =>
    let name := setting.takeWhile (· ≠ '=')
    let value := setting.drop (name.length + 1)
    if vars.any (·.1 = name) then vars.map fun (other, old) => (other, if other = name then value else old)
    else vars ++ [(name, value)]) style.vars
  if words.isEmpty then
    for (name, value) in vars do
      out (name ++ '=' :: value ++ [style.mark])
  else
    if let some dir := style.dir then
      match (← look).volume.find (← look).cwd dir true with
      | .ok inode => ask (.enterDir inode)
      | .error cause =>
        abort ("cannot change directory to " ++ Quoted.name dir ++ ": " ++
          causeText cause) 125
    become exec words vars (Quoted.name (words.headD []))

/-! ## Time -/

structure TimeStyle where
  signal : Nat := Signal.terminate
  (keeps tells : Bool := false)
  kill : Option Nat := none

def awaitUntil (child limit : Nat) : Nat → Work (Option Ending)
  | 0 => return none
  | fuel + 1 => do
    match ← ask (.wait (some limit) false) with
    | .ok (some (number, ending)) =>
      if number = child then return some ending else awaitUntil child limit fuel
    | .ok none => return none
    | .error .interrupted => awaitUntil child limit fuel
    | .error _ => return some (.exited 127)

variable (exec : Exec)

def timeout : Tool := make fun words => do
  let manual :=
    { (Manual.make "k:s:v" [("kill-after", "k"), ("signal", "s"), ("verbose", "v")] 125).named
      [("preserve-status", .never), ("foreground", .never)] with
      ordered := true }
  let badInterval := fun (text : Bytes) =>
    (misuse ("invalid time interval " ++ Quoted.operand text) 125 : Work Nat)
  let intervalOf := fun (text : Bytes) => do
    match Answers.interval? text with
    | some time => pure time
    | none => badInterval text
  let (style, operands) ← manual.heed words ({} : TimeStyle) fun style name value => do
    match name with
    | "k" => return { style with kill := some (← intervalOf value) }
    | "s" =>
      let plain := if (ofString "SIG").isPrefixOf (value.map Char.toUpper) then value.drop 3 else value
      match Signal.ofText? plain false with
      | some signal => return { style with signal }
      | none => misuse (Quoted.operand value ++ ": invalid signal") 125
    | "v" => return { style with tells := true }
    | "preserve-status" => return { style with keeps := true }
    | _ => return style
  match operands with
  | limit :: command :: rest =>
    let time ← intervalOf limit
    let bench ← get
    match ← spawn exec (command :: rest) bench.env (return) with
    | .error text =>
      abort ("failed to run command " ++ Quoted.name command ++ ": " ++ text)
        (if text = causeText .notFound then 127 else 126)
    | .ok child =>
      let deadline := (← look).now + time
      let ended ← if time = 0 then do pure (some (← await child))
        else awaitUntil child deadline Program.manySteps
      let tell := fun (signal : Nat) => do
        if style.tells then
          warn ("sending signal " ++ ofString (Signal.name signal) ++ " to command " ++
            Quoted.name command)
      match ended with
      | some ending => fail ending.status
      | none =>
        tell style.signal
        let _ ← ask (.send child style.signal)
        let ended ← match style.kill with
          | none => do pure (some (← await child))
          | some more => awaitUntil child (deadline + more) Program.manySteps
        match ended with
        | some ending =>
          if style.signal = Signal.kill then perform (Program.finish (.killed Signal.kill))
          else fail (if style.keeps then ending.status else 124)
        | none =>
          tell Signal.kill
          let _ ← ask (.send child Signal.kill)
          let _ ← await child
          perform (Program.finish (.killed Signal.kill))
  | _ =>
    note ("Try '" ++ (← get).name ++ " --help' for more information.\n")
    exit 125

/-! ## Places -/

/-- Tells where programs are found. It is a script, which shows when its output cannot be
written. -/
def which : Tool := makeClosing { texts := fun _ _ => ["13: printf: printf: I/O error"] } fun words => do
  let (options, names) ← { letters := [('a', .never), ('s', .never)], ordered := true : Manual }.options words
  let all := options.any (·.1 = "a")
  let silent := options.any (·.1 = "s")
  let view ← look
  let dirs := Exec.searchPath (← get).env
  let isProgram := fun (path : Bytes) =>
    match view.status path true with
    | .ok (_, held) => view.isFile path && held.isExecutable
    | .error _ => false
  if names.isEmpty then fail 1
  for name in names do
    let found :=
      if name.contains '/' then [name].filter isProgram
      else (dirs.map fun directory =>
        Exec.under (if directory.isEmpty then ['.'] else directory) name).filter isProgram
    if found.isEmpty then fail 1
    if !silent then
      for path in (if all then found else found.take 1) do
        out (path ++ ['\n'])
  modify fun bench => { bench with name := "/usr/bin/which" }

end Retrace.Tool.Starting
