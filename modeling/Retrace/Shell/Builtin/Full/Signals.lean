import Retrace.Shell.Builtin.Full.Leaving
import Retrace.Shell.Builtin.Processes

/-!
# Signals, traps and jobs
-/

namespace Retrace.Shell.Builtin.Full

open Unix Step Text

def signal? (word : Bytes) (traps : Bool) : Option Nat :=
  let upper := word.map Char.toUpper
  let plain := if "SIG".toList.isPrefixOf upper then upper.drop 3 else upper
  match traps, String.ofList plain with
  | true, "ERR" => some Trap.failure
  | true, "DEBUG" => some Trap.command
  | true, "RETURN" => some Trap.return
  | _, _ => Signal.ofText? plain traps

def trapName (signal : Nat) : String :=
  if signal = Trap.failure then "ERR"
  else if signal = Trap.command then "DEBUG"
  else if signal = Trap.return then "RETURN"
  else if signal = 0 then "EXIT"
  else "SIG" ++ Signal.name signal

def invalidSignal (word : Bytes) : Bytes := word ++ ": invalid signal specification"

def signalTable : Bytes :=
  let named := (List.range Signal.largest).filterMap fun n =>
    let name := Signal.name (n + 1)
    let name := if n + 1 = 16 then "STKFLT" else name
    if n + 1 = 32 || n + 1 = 33 then none else some (n + 1, name)
  let cells := named.map fun (number, name) =>
    let digits := decimal number
    List.replicate (2 - digits.length) ' ' ++ digits ++ ofString (") SIG" ++ name)
  (cells.mapIdx fun n cell => cell ++ if n % 5 = 4 then ['\n'] else ['\t']).flatten ++
    if cells.length % 5 = 0 then [] else ['\n']

def trapRow (entry : Nat × Bytes) : Bytes :=
  "trap -- " ++ Quoting.single entry.2 ++ ofString (" " ++ trapName entry.1 ++ "\n")

def showTraps (success : Bool) : List Bytes → Step Flow
  | [] => answer success
  | word :: rest => do
    match signal? word true with
    | none =>
      complain (invalidSignal word)
      showTraps false rest
    | some signal =>
      if let some action := (← get).trap? signal then say (trapRow (signal, action))
      showTraps success rest

def setTraps (action : Option Bytes) (success : Bool) : List Bytes → Step Flow
  | [] => answer success
  | word :: rest => do
    match signal? word true with
    | none =>
      complain (invalidSignal word)
      setTraps action false rest
    | some signal =>
      let session ← get
      let others := session.traps.filter (·.1 ≠ signal)
      let traps := match action with
        | some text => (signal, text) :: others
        | none => others
      set { session with traps }
      if Signal.isReal signal && !session.deaf.contains signal then
        ask (.setAction signal (actionOf action))
      setTraps action success rest

def trapUsage : String := "trap [-lp] [[arg] signal_spec ...]"

def trap : Builtin :=
  withOptions "lp" trapUsage fun options => do
    let all := (← get).traps.mergeSort fun a b => a.1 ≤ b.1
    if options.has 'l' then saying signalTable
    else if options.has 'p' && !options.operands.isEmpty then showTraps true options.operands
    else match options.operands with
      | [] => saying (all.flatMap trapRow)
      | [word] => if (signal? word true).isSome then setTraps none true [word] else usage trapUsage
      | action :: words =>
        let isNumber := !action.isEmpty && action.all Char.isDigit && (signal? action true).isSome
        if isNumber then setTraps none true (action :: words)
        else setTraps (if action = ['-'] then none else some action) true words

/-! ## Sending signals -/

def killUsage : String :=
  "kill [-s sigspec | -n signum | -sigspec] pid | jobspec ... or kill -l [sigspec]"

def jobOf? (session : Session) (word : Bytes) : Option Job :=
  match Builtin.jobOf session word with
  | .ok job => some job
  | .error _ => none

def sendAll (signal : Nat) : List Nat → Step (Option OsError)
  | [] => return none
  | process :: rest => do
    match ← ask (.send process signal) with
    | .ok () => sendAll signal rest
    | .error cause => return some cause

def killEach (signal : Nat) (success : Bool) : List Bytes → Step Flow
  | [] => answer success
  | word :: rest => do
    let session ← get
    match word with
    | '%' :: _ =>
      match jobOf? session word with
      | none =>
        complain (word ++ ": no such job")
        killEach signal false rest
      | some job =>
        let running := job.members.filterMap fun (process, ending) =>
          if ending.isNone then some process else none
        let _ ← sendAll signal running
        killEach signal success rest
    | _ =>
      match integer? word with
      | none =>
        complain (word ++ ": arguments must be process or job IDs")
        killEach signal false rest
      | some process =>
        match ← if process < 0 then pure (some OsError.noProcess)
          else sendAll signal [process.toNat] with
        | none => killEach signal success rest
        | some cause =>
          complain ('(' :: word ++ ofString (") - " ++ cause.text))
          killEach signal false rest

def nameSignals (success : Bool) : List Bytes → Step Flow
  | [] => answer success
  | word :: rest => do
    match integer? word with
    | some value =>
      let number := if 128 < value then value - 128 else value
      if 0 ≤ number && number ≤ Signal.largest then
        say (ofString (Signal.name number.toNat ++ "\n"))
        nameSignals success rest
      else
        complain (invalidSignal word)
        nameSignals false rest
    | none =>
      match signal? word false with
      | some signal =>
        say (decimal signal ++ ['\n'])
        nameSignals success rest
      | none =>
        complain (invalidSignal word)
        nameSignals false rest

def kill : Builtin := fun words => do
  let send (name : Bytes) (targets : List Bytes) : Step Flow :=
    match signal? name false with
    | none => failed (invalidSignal name)
    | some signal => if targets.isEmpty then usage killUsage else killEach signal true targets
  match words with
  | [] => usage killUsage
  | ['-', 'l'] :: names => if names.isEmpty then saying signalTable else nameSignals true names
  | ['-', 'L'] :: names => if names.isEmpty then saying signalTable else nameSignals true names
  | [['-', 's']] => failed "-s: option requires an argument"
  | [['-', 'n']] => failed "-n: option requires an argument"
  | ['-', 's'] :: name :: targets => send name targets
  | ['-', 'n'] :: name :: targets => send name targets
  | ['-', '-'] :: targets => send "TERM".toList targets
  | ('-' :: c :: name) :: targets => send (c :: name) targets
  | targets => send "TERM".toList targets

/-! ## Waiting -/

def waitNext : Nat → Step Nat
  | 0 => return 127
  | fuel + 1 => do
    let session ← get
    match session.jobs.reverse.find? fun job => job.isDone && !job.waited with
    | some job =>
      modify fun session => session.dropJob job.number
      return (job.ending?.getD (.exited 0)).status
    | none =>
      if session.jobs.all fun job => job.isDone then return 127
      match ← ask (.wait none true) with
      | .ok (some (process, ending)) =>
        noteEnding none process ending
        waitNext fuel
      | .error .interrupted => interruptedStatus
      | _ => return 127

def waitEach (status : Nat) : List Bytes → Step Flow
  | [] => finishWith status
  | word :: rest => do
    let session ← get
    let isJob := word.head? = some '%'
    let found : Option Job := if isJob then jobOf? session word
      else (integer? word).bind fun process => session.jobs.find? fun job =>
        job.members.any fun member => (member.1 : Int) = process
    match found with
    | some job =>
      if ← waitFor job.number true Program.manySteps then
        let ending := ((← get).job? job.number).bind Job.ending?
        modify fun session => session.retire
        waitEach ((ending.getD (.exited 0)).status) rest
      else finishWith (← interruptedStatus)
    | none =>
      if isJob then
        complain (word ++ ": no such job")
        waitEach 127 rest
      else match integer? word with
        | some process =>
          match session.ended.find? fun entry => (entry.1 : Int) = process with
          | some (_, ending) => waitEach ending.status rest
          | none =>
            complain ("pid " ++ word ++ " is not a child of this shell")
            waitEach 127 rest
        | none =>
          complain ('\x60' :: word ++ "': not a pid or valid job spec")
          waitEach 1 rest

def wait : Builtin :=
  withOptions "fnp:" "wait [-fn] [-p var] [id ...]" fun options => do
    reapAll
    if options.has 'n' then finishWith (← waitNext Program.manySteps)
    else if options.operands.isEmpty then
      let flow ← waitForAll Program.manySteps
      modify fun session => session.retire
      return flow
    else waitEach 127 options.operands

/-! ## Listing jobs -/

def jobState (job : Job) : String :=
  if !job.isDone then "Running"
  else match job.ending? with
    | some (.killed signal) => Signal.description signal
    | some (.exited (code + 1)) => "Exit " ++ toString (code + 1)
    | _ => "Done"

def jobRow (session : Session) (withProcess : Bool) (job : Job) : Bytes :=
  let isAt := fun place : Nat => (session.jobs[place]?).any (·.number = job.number)
  let sign := if isAt 0 then '+' else if isAt 1 then '-' else ' '
  let process := if withProcess then decimal ((job.members.headD (0, none)).1) else []
  let state := ofString (jobState job)
  '[' :: decimal job.number ++ [']', sign, ' '] ++ process ++ ' ' :: state ++
    List.replicate (24 - state.length) ' ' ++ job.text ++ (if job.isDone then [] else [' ', '&']) ++
    ['\n']

def showJobs (row : Job → Bytes) (success : Bool) : List Bytes → Step Flow
  | [] => answer success
  | word :: rest => do
    match jobOf? (← get) word with
    | some job =>
      say (row job)
      showJobs row success rest
    | none =>
      complain (word ++ ": no such job")
      showJobs row false rest

def jobs : Builtin :=
  withOptions "lnprs" "jobs [-lnprs] [jobspec ...] or jobs -x command [args]" fun options => do
    reapAll
    let session ← get
    let row := fun job : Job =>
      if options.has 'p' then decimal ((job.members.headD (0, none)).1) ++ ['\n']
      else jobRow session (options.has 'l') job
    if !options.operands.isEmpty then showJobs row true options.operands
    else
      let shown := session.jobs.filter fun job =>
        if options.has 's' || options.has 'n' then false else !options.has 'r' || !job.isDone
      say ((shown.mergeSort fun a b => a.number ≤ b.number).flatMap row)
      set { (← get).retire with pending := (← get).pending }
      answer true

def noControl : Builtin := fun _ => failed "no job control"

/-! ## Limits -/

def umask : Builtin :=
  withOptions "pS" "umask [-p] [-S] [mode]" fun options => do
    let mask := (← look).mask
    let change := fun mask : Nat => do
      ask (.setMask mask)
      answer true
    match options.operands with
    | [] =>
      let symbols := "u=" ++ allowed mask 64 ++ ",g=" ++ allowed mask 8 ++
        ",o=" ++ allowed mask 1
      let digits := [mask / 512 % 8, mask / 64 % 8, mask / 8 % 8, mask % 8].flatMap decimal
      let text := if options.has 'S' then (if options.has 'p' then ofString "umask -S " else []) ++ symbols
        else (if options.has 'p' then ofString "umask " else []) ++ digits
      saying (text ++ ['\n'])
    | text :: _ =>
      if text.head?.any Char.isDigit then
        if text.all fun c => '0' ≤ c && c ≤ '7' then
          change (text.foldl (fun total c => 8 * total + digitValue c) 0 % 512)
        else failed (text ++ ": octal number out of range")
      else match (cutAt ',' text).foldlM changeMask mask with
        | some mask => change mask
        | none =>
          let sign := (text.dropWhile fun c => ['u', 'g', 'o', 'a'].contains c).headD '\x00'
          failed ('\x60' :: sign :: "': invalid symbolic mode operator")

def ulimit : Builtin := fun words =>
  match words.filter fun word => word.head? ≠ some '-' with
  | [] =>
    let letters := (words.flatMap (·.drop 1)).filter fun c => c ≠ 'S' && c ≠ 'H'
    saying (ofString (if letters.contains 'c' then "0\n" else if letters.contains 'n' then "1024\n"
      else "unlimited\n"))
  | text :: _ =>
    if ["unlimited", "soft", "hard"].contains (String.ofList text) || text.all Char.isDigit then
      answer true
    else failed (text ++ ": invalid number")

def times : Builtin := fun _ =>
  saying "0m0.000s 0m0.000s\n0m0.000s 0m0.000s\n"

end Retrace.Shell.Builtin.Full
