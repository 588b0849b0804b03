import Retrace.Shell.Builtin.Basic
import Retrace.Shell.Jobs

/-!
# Builtins for signals, jobs and limits
-/

namespace Retrace.Shell.Builtin

open Unix Step Text

/-! ## Signals -/

def killUsage : Bytes :=
  ofString ("Usage: kill [-s sigspec | -signum | -sigspec] [pid | job]... or\n" ++
    "kill -l [exitstatus]")

def jobOf (session : Session) (word : Bytes) : Except Bytes Job :=
  let demand := fun (job : Option Job) (missing : Bytes) =>
    match job with
    | some job => .ok job
    | none => .error missing
  let missing := "No such job: " ++ word
  match word with
  | '%' :: name =>
    if name.isEmpty || name = ['%'] || name = ['+'] then
      demand session.jobs.head? "No current job"
    else if name = ['-'] then demand session.jobs[1]? "No previous job"
    else if name.all Char.isDigit then demand (session.job? (digitsValue name)) missing
    else .error missing
  | _ => .error missing

/-- Sends a signal to every target. A job has no group of processes of its own. -/
def killAll (signal : Nat) (failed : Bool) : List Bytes → Step Flow
  | [] => answer !failed
  | target :: rest => do
    let session ← get
    let isJob := target.head? = some '%'
    let isGroup := target.head? = some '-'
    match if isJob then (jobOf session target).map fun _ => 0
      else match Integer.count? (if isGroup then target.drop 1 else target) with
        | some process => .ok process
        | none => .error (illegalNumber (if isGroup then target.drop 1 else target)) with
    | .error message => aborting message
    | .ok process =>
      let sent ← if isJob || isGroup then pure (.error .noProcess)
        else ask (.send process signal)
      match sent with
      | .ok () => killAll signal failed rest
      | .error cause =>
        complain (ofString (cause.text ++ "\n"))
        killAll signal true rest

def listSignals (operands : List Bytes) : Step Flow :=
  match operands with
  | [] =>
    let names := (List.range Signal.largest).map fun n => Signal.name (n + 1) ++ "\n"
    saying (ofString ("0\n" ++ String.join names))
  | text :: _ =>
    match Integer.count? text with
    | none => aborting (illegalNumber text)
    | some status =>
      let signal := if 128 < status then status - 128 else status
      if 0 < signal && signal ≤ Signal.largest then saying (ofString (Signal.name signal ++ "\n"))
      else aborting ("invalid signal number or exit status: " ++ text)

def killOptions : Nat → List Bytes →
    Except Bytes (Bool × Option Nat × List Bytes)
  | 0, words => .ok (false, none, words)
  | _ + 1, ['-', '-'] :: rest => .ok (false, none, rest)
  | fuel + 1, ('-' :: 'l' :: more) :: rest => do
    let rest := if more.isEmpty then rest else ('-' :: more) :: rest
    let (_, signal, rest) ← killOptions fuel rest
    return (true, signal, rest)
  | fuel + 1, ('-' :: 's' :: more) :: rest => do
    let (name, rest) ← match more, rest with
      | [], [] => throw (ofString "No arg for -s option")
      | [], name :: rest => pure (name, rest)
      | _, _ => pure (more, rest)
    match Signal.ofText? name false with
    | none => throw ("invalid signal number or name: " ++ name)
    | some signal =>
      let (lists, later, rest) ← killOptions fuel rest
      return (lists, later.or (some signal), rest)
  | _ + 1, ('-' :: letter :: _) :: _ => .error (illegalOption letter)
  | _ + 1, words => .ok (false, none, words)

def kill : Builtin := fun arguments =>
  let direct := match arguments with
    | ('-' :: name) :: rest => (Signal.ofText? name false).map (·, rest)
    | _ => none
  match arguments, direct with
  | [], _ => aborting killUsage
  | _, some (signal, targets) =>
    if targets.isEmpty then aborting killUsage else killAll signal false targets
  | _, none =>
    match killOptions (arguments.length * 2 + 1) arguments with
    | .error message => aborting message
    | .ok (lists, signal, operands) =>
      if lists && signal.isNone then listSignals operands
      else if lists || operands.isEmpty then aborting killUsage
      else killAll (signal.getD 15) false operands

def actionOf : Option Bytes → Option Action
  | none => none
  | some [] => some .ignore
  | some _ => some .notice

def setTraps (action : Option Bytes) : List Bytes → Step Flow
  | [] => answer true
  | name :: rest => do
    match Signal.ofText? name true with
    | none =>
      write 2 ("trap: " ++ name ++ ": bad trap\n")
      answer false
    | some signal =>
      let session ← get
      let others := session.traps.filter (·.1 ≠ signal)
      let traps := match action with
        | some text => (signal, text) :: others
        | none => others
      set { session with traps }
      if signal ≠ 0 && !session.deaf.contains signal then
        ask (.setAction signal (actionOf action))
      setTraps action rest

def trap : Builtin :=
  withLetters [] fun _ operands => do
    match operands with
    | [] =>
      let traps := (← get).traps.mergeSort fun a b => a.1 ≤ b.1
      let row := fun (signal, action) =>
        "trap -- " ++ quoted action ++ ofString (" " ++ Signal.name signal ++ "\n")
      saying (traps.flatMap row)
    | [name] => setTraps none [name]
    | action :: names =>
      if !action.isEmpty && action.all Char.isDigit then setTraps none operands
      else setTraps (if action = ['-'] then none else some action) names

/-! ## Jobs -/

def interruptedStatus : Step Nat := do
  return 128 + ((← look).noticed.headD 0)

def waitForAll : Nat → Step Flow
  | 0 => answer true
  | fuel + 1 => do
    if (← get).jobs.all Job.isDone then
      modify fun session => session.setJobs (session.jobs.map fun job => { job with waited := true })
      answer true
    else match ← ask (.wait none true) with
      | .ok (some (process, ending)) =>
        noteEnding none process ending
        waitForAll fuel
      | .error .interrupted =>
        setStatus (← interruptedStatus)
        return .goes
      | _ => answer true

def waitForWords (status : Nat) : List Bytes → Step Flow
  | [] => do
    setStatus status
    return .goes
  | word :: rest => do
    let session ← get
    let found : Except Bytes (Option Job) :=
      if word.head? = some '%' then (jobOf session word).map some
      else match Integer.count? word with
        | some process =>
          .ok (session.jobs.find? fun job => (job.members.getLast?.map (·.1)) = some process)
        | none => .error (illegalNumber word)
    match found with
    | .error message => aborting message
    | .ok none => waitForWords status rest
    | .ok (some job) =>
      if ← waitFor job.number true Program.manySteps then
        let ending := ((← get).job? job.number).bind Job.ending?
        modify fun session => session.updateJob job.number fun job => { job with waited := true }
        waitForWords ((ending.getD (.exited 0)).status) rest
      else
        setStatus (← interruptedStatus)
        return .goes

def wait : Builtin :=
  withLetters [] fun _ operands =>
    if operands.isEmpty then waitForAll Program.manySteps else waitForWords 127 operands

def stateText (job : Job) : String :=
  if !job.isDone then "Running"
  else match job.ending? with
    | some (.killed signal) => Signal.description signal
    | some (.exited (code + 1)) => "Done(" ++ toString (code + 1) ++ ")"
    | _ => "Done"

def jobRow (session : Session) (withProcesses : Bool) (job : Job) : Bytes :=
  let sign := if (session.jobs[0]?).any (·.number = job.number) then '+'
    else if (session.jobs[1]?).any (·.number = job.number) then '-' else ' '
  let lead := ['['] ++ decimal job.number ++ [']', ' ', sign, ' ']
  let processes := job.members.map fun (process, _) => decimal process ++ [' ']
  let first := lead ++ (if withProcesses then processes.headD [] else []) ++ ofString (stateText job)
  let filled := fun text : Bytes => text ++ List.replicate (max 1 (33 - text.length)) ' '
  let others := processes.drop 1
  if withProcesses then
    let rows := others.map fun process => filled (List.replicate lead.length ' ' ++ process)
    [' ', '|', '\n'].intercalate (filled first :: rows) ++ ['\n']
  else filled first ++ others.flatMap (fun _ => " | ") ++ ['\n']

def listJobs (letters : Bytes) : List Job → Step Flow
  | [] => answer true
  | job :: rest => do
    if letters.getLast? = some 'p' then
      say (decimal ((job.members.headD (0, none)).1) ++ ['\n'])
    else
      say (jobRow (← get) (letters.getLast? = some 'l') job)
      if job.isDone then modify fun session => session.dropJob job.number
    listJobs letters rest

def jobs : Builtin :=
  withLetters ['l', 'p'] fun letters operands => do
    reapAll
    let session ← get
    match operands.mapM (jobOf session) with
    | .error message => aborting message
    | .ok chosen => listJobs letters (if operands.isEmpty then session.jobs else chosen)

def resume : Builtin := fun arguments => do
  let word := arguments.headD ['%', '%']
  match jobOf (← get) word with
  | .error message => aborting message
  | .ok _ =>
    let name := if arguments.isEmpty then ofString "(null)" else word
    aborting ("job " ++ name ++ " not created under job control")

/-! ## Limits -/

def allowed (mask shift : Nat) : Bytes :=
  let bits := 7 - mask / shift % 8
  (if 4 ≤ bits then ['r'] else []) ++ (if 2 ≤ bits % 4 then ['w'] else []) ++
    if bits % 2 = 1 then ['x'] else []

def permission (letters : Bytes) : Nat :=
  (if letters.contains 'r' then 4 else 0) + (if letters.contains 'w' then 2 else 0) +
    if letters.contains 'x' then 1 else 0

def changeMask (mask : Nat) (clause : Bytes) : Option Nat :=
  let whom := clause.takeWhile fun c => ['u', 'g', 'o', 'a'].contains c
  match clause.drop whom.length with
  | how :: letters =>
    if !(['=', '+', '-'].contains how) || !letters.all fun c => ['r', 'w', 'x'].contains c then none
    else
      let all := whom.isEmpty || whom.contains 'a'
      let change := fun (letter : Char) (shift : Nat) =>
        let bits := mask / shift % 8
        let named := permission letters
        if !all && !whom.contains letter then bits * shift
        else if how = '=' then (7 - named) * shift
        else if how = '+' then (bits &&& (7 - named)) * shift
        else (bits ||| named) * shift
      some (change 'u' 64 + change 'g' 8 + change 'o' 1)
  | [] => none

def umask : Builtin :=
  withLetters ['S'] fun letters operands => do
    let mask := (← look).mask
    let change := fun mask : Nat => do
      ask (.setMask mask)
      answer true
    match operands with
    | [] =>
      let text :=
        if letters.contains 'S' then
          "u=" ++ allowed mask 64 ++ ",g=" ++ allowed mask 8 ++
            ",o=" ++ allowed mask 1
        else [mask / 512 % 8, mask / 64 % 8, mask / 8 % 8, mask % 8].flatMap decimal
      saying (text ++ ['\n'])
    | text :: _ =>
      if text.head?.any Char.isDigit then
        if text.all fun c => '0' ≤ c && c ≤ '7' then
          change (text.foldl (fun total c => 8 * total + digitValue c) 0 % 512)
        else aborting (illegalNumber text)
      else match (cutAt ',' text).foldlM changeMask mask with
        | some mask => change mask
        | none => aborting ("Illegal mode: " ++ text)

def ulimit : Builtin :=
  withLetters "HSatfdscmlpnvwr".toList fun _ operands =>
    match operands with
    | [] => saying "unlimited\n"
    | text :: _ =>
      if text = "unlimited".toList || (!text.isEmpty && text.all Char.isDigit) then answer true
      else aborting "bad number"

def times : Builtin := fun _ =>
  saying "0m0.000000s 0m0.000000s\n0m0.000000s 0m0.000000s\n"

end Retrace.Shell.Builtin
