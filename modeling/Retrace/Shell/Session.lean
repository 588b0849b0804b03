import Retrace.Shell.Row
import Retrace.Shell.Statement
import Retrace.Unix.Exec

/-!
# Sessions

A session is one running shell: its parameters, variables, functions and options,
and what it has started.
-/

namespace Retrace.Shell

open Unix

structure Variable where
  value : Option Bytes := none
  elements : Option Elements := none
  (exported readonly integer lower upper refers traced : Bool := false)
  deriving DecidableEq, Repr

namespace Variable

def text? (held : Variable) : Option Bytes :=
  match held.elements with
  | some elements => elements.first?
  | none => held.value

def cased (held : Variable) (value : Bytes) : Bytes :=
  if held.lower then value.map Char.toLower
  else if held.upper then value.map Char.toUpper
  else value

def withText (held : Variable) (value : Bytes) : Variable :=
  let value := held.cased value
  match held.elements with
  | some (.row entries) =>
    { held with elements := some (.row (Elements.putAt 0 value entries)), value := some [] }
  | some (.table entries) =>
    { held with elements := some (.table (Elements.putUnder ['0'] value entries)), value := some [] }
  | none => { held with value := some value }

end Variable

structure Function where
  body : Statement
  line : Nat := 1
  source : Bytes := []
  exported : Bool := false

structure Frame where
  name : Bytes
  source : Bytes
  line : Nat

abbrev Scope := List (Bytes × Option Variable)

structure Job where
  number : Nat
  members : List (Nat × Option Ending) := []
  waited : Bool := false
  text : Bytes := []

namespace Job

def isDone (job : Job) : Bool := job.members.all fun (_, ending) => ending.isSome

def ending? (job : Job) : Option Ending := (job.members.getLast?).bind (·.2)

def holds (job : Job) (process : Nat) : Bool := job.members.any (·.1 = process)

end Job

structure Found where
  name : Bytes
  path : Bytes
  stale : Bool := false
  hits : Nat := 0

def Found.aged (entry : Found) : Found := { entry with stale := true }

structure Session where
  name : Bytes
  dialect : Dialect := .dash
  params : List Bytes := []
  vars : List (Bytes × Variable) := []
  functions : List (Bytes × Function) := []
  found : List Found := []
  aliases : List Alias := []
  options : List String := []
  /-- What is run when a signal arrives; zero stands for the end of the session. -/
  traps : List (Nat × Bytes) := []
  deaf : List Nat := []
  jobs : List Job := []
  lastJob : Option Nat := none
  ended : List (Nat × Ending) := []
  /-- What to put back when the running functions end, the innermost one first. -/
  scopes : List Scope := []
  frames : List Frame := []
  status : Nat := 0
  inner : Nat := 0
  root : Nat
  here : Bytes
  line : Nat := 1
  (calls loops : Nat := 0)
  command : Option Bytes := none
  optionIndex : Nat := 1
  optionOffset : Option Nat := none
  savedOptions : Option (List String) := none
  isLast : Bool := false
  pending : List Bytes := []
  traceFd : Nat := 2
  /-- The status to end with when a trap asks for the end and names none. -/
  held : Option Nat := none
  (missing unsettled locked : Bool := false)
  /-- All scripts that are being run are given up, up to a line that is read from a file. -/
  unwound : Bool := false
  /-- What is to be said once a sum is reckoned, last first. -/
  asides : List Bytes := []
  switches : List String := []
  pipeStatus : List Nat := [0]
  subshells : Nat := 0
  /-- How many scripts inside words are being run, one inside the other. -/
  depth : Nat := 0
  lastWord : Bytes := []
  (passing stack : List Bytes := [])
  opened : Nat := 0
  channels : List Nat := []
  trapping : Bool := false
  given : Option Bytes := none
  (isChild isPiped : Bool := false)
  /-- The line that forms with others inside are told to be in, if it is not their own. -/
  around : Option Nat := none
  lineShift : Int := 0
  running : Bytes := []
  process : Nat := root
  seed : Nat := root

inductive Flow where
  | goes
  | exits
  /-- An error ends the session, unless a builtin that is not special met it. -/
  | fails
  /-- Goes on with the next line of the outermost script. -/
  | discards
  | leavesLoop (depth : Nat)
  | nextRound (depth : Nat)
  | returns
  deriving DecidableEq, Repr

def placeAmong (places : Nat) (name : Bytes) : Nat :=
  (((name.head?.map Char.toNat).getD 0) * 16 + (name.map Char.toNat).foldl (· + ·) 0) % 32768 % places

def tableKey (name : Bytes) : Nat := placeAmong 39 name

/-! The numbers of the traps that no signal springs: before a command, after a failure, and
after a function. -/

def Trap.command : Nat := 65
def Trap.failure : Nat := 66
def Trap.return : Nat := 67

namespace Session

variable (session : Session)

def has (option : String) : Bool := session.options.contains option

def held? (name : Bytes) : Option Variable := session.vars.lookup name

def value? (name : Bytes) : Option Bytes :=
  (session.held? name).bind (·.text?)

def switched (name : String) : Bool := session.switches.contains name

def put (name : Bytes) (held : Variable) : Session :=
  if session.vars.any (·.1 = name) then
    { session with vars := session.vars.map fun entry => if entry.1 = name then (name, held) else entry }
  else { session with vars := session.vars ++ [(name, held)] }

def erase (name : Bytes) : Session :=
  { session with vars := session.vars.filter (·.1 ≠ name) }

/-- The variables that started programs see, by their places in the table of names. Those for
the running command only have a small table of their own, and the last word comes last. -/
def environment : Environment :=
  let exported := session.vars.filterMap fun (name, held) =>
    if held.exported && held.elements.isNone then held.value.map (name, ·) else none
  match session.dialect with
  | .dash => exported.mergeSort fun a b => tableKey a.1 ≤ tableKey b.1
  | .bash =>
    let isPassing := fun entry : Bytes × Bytes => session.passing.contains entry.1
    let passing := session.passing.filterMap fun name => (exported.lookup name).map (name, ·)
    inPlaces 4 passing ++ inPlaces tablePlaces (exported.filter fun entry => !isPassing entry)

def trap? (signal : Nat) : Option Bytes := session.traps.lookup signal

def keepsTrap (signal : Nat) : Bool :=
  (signal = Trap.failure && session.has "errtrace") ||
    ((signal = Trap.command || signal = Trap.return) && session.has "functrace")

def hasTraps : Bool := session.traps.any fun (_, action) => !action.isEmpty

def messageName : Bytes :=
  match session.dialect, session.frames with
  | .bash, frame :: _ => if frame.source.isEmpty then session.name else frame.source
  | _, _ => session.name

def message (text : Bytes) : Bytes :=
  let command := match session.command with
    | some name => name ++ [':', ' ']
    | none => []
  let place := match session.dialect with
    | .dash => Text.decimal session.line
    | .bash => "line " ++ Text.decimal session.line
  session.messageName ++ [':', ' '] ++ place ++ [':', ' '] ++ command ++ text ++ ['\n']

def isGivenUp : Bool := session.missing || session.unsettled || session.unwound

def failure : Nat :=
  match session.dialect with
  | .dash => 2
  | .bash => if session.missing then 127 else 1

def changeable (name : Bytes) : Except Bytes Variable :=
  if !isName name then .error (name ++ ": bad variable name")
  else
    let held := (session.held? name).getD {}
    if held.readonly then
      .error (name ++ ofString (match session.dialect with
        | .dash => ": is read only"
        | .bash => ": readonly variable"))
    else .ok held

def restartOptions (index : Nat) : Session :=
  { session with optionIndex := max 1 index, optionOffset := none }

/-- Where programs were found says nothing any more once other directories are searched. -/
def noticePath (name : Bytes) : Session :=
  if name = "PATH".toList then { session with found := [] } else session

def found? (name : Bytes) : Option Found :=
  session.found.find? (·.name = name)

def noteFound (name path : Bytes) : Session :=
  if (session.found? name).isSome then
    { session with found := session.found.map fun entry =>
        if entry.name = name then { name, path } else entry }
  else { session with found := session.found ++ [{ name, path }] }

def noteHit (name : Bytes) : Session :=
  { session with found := session.found.map fun entry =>
      if entry.name = name then { entry with hits := entry.hits + 1 } else entry }

def forgetFound (name : Bytes) : Session :=
  { session with found := session.found.filter (·.name ≠ name) }

def assign (name value : Bytes) : Except Bytes Session := do
  let held ← session.changeable name
  let exported := held.exported || session.has "allexport"
  let session := (session.put name { held.withText value with exported }).noticePath name
  if name = "RANDOM".toList then
    return { session with seed := (Integer.count? value).getD 0 }
  if name = "OPTIND".toList then
    match Integer.count? value, session.dialect with
    | some index, _ => return session.restartOptions index
    | none, .dash => throw (illegalNumber value)
    | none, .bash => return session.restartOptions 1
  return session

def unassign (name : Bytes) : Except Bytes Session := do
  let _ ← session.changeable name
  return (session.erase name).noticePath name

def keep (name : String) (value : Bytes) : Session :=
  match session.assign name.toList value with
  | .ok session => session
  | .error _ => session

def keepExported (name : String) (value : Bytes) : Session :=
  let session := session.keep name value
  match session.held? name.toList with
  | some held => session.put name.toList { held with exported := true }
  | none => session

def restoreVars (saved : Scope) : Session :=
  saved.foldl (fun session (name, held) =>
    (match held with
    | some earlier => session.put name earlier
    | none => session.erase name).noticePath name) session

def saveInScope (before : Bytes × Option Variable) : Session :=
  match session.scopes with
  | [] => session
  | scope :: rest => { session with scopes := (before :: scope) :: rest }

def setJobs (jobs : List Job) : Session := { session with jobs }

def updateJob (number : Nat) (change : Job → Job) : Session :=
  session.setJobs (session.jobs.map fun job => if job.number = number then change job else job)

def dropJob (number : Nat) : Session :=
  session.setJobs (session.jobs.filter (·.number ≠ number))

def job? (number : Nat) : Option Job :=
  session.jobs.find? (·.number = number)

/-- The lowest number for a new job. A job that has been waited for makes room. -/
def freeNumber : Nat :=
  let isFree := fun number : Nat => (session.job? number).all fun job => job.waited && job.isDone
  ((List.range (session.jobs.length + 1)).find? fun place => isFree (place + 1)).getD 0 + 1

def retire : Session :=
  let (done, others) := session.jobs.partition Job.isDone
  let endings := done.flatMap fun job =>
    job.members.filterMap fun (process, ending) => ending.map (process, ·)
  { session with jobs := others, ended := endings ++ session.ended }

def addJob : Nat × Session :=
  let number := session.freeNumber
  let session := session.dropJob number
  (number, session.setJobs ({ number } :: session.jobs))

end Session
end Retrace.Shell
