import Retrace.Shell.Calling
import Retrace.Shell.Forms.Basic

/-!
# The forms of the richer shell

Conditions, sums and counting loops are statements too; the parts of a pipeline all leave
their statuses; and traps are sprung before commands and after failures.
-/

/-! ## Statements -/

namespace Retrace.Shell

open Unix Step Text

namespace Full

variable (self : Self)

def spring (trap : Nat) : Step Flow := do
  let session ← get
  match session.trapping, session.trap? trap with
  | false, some (c :: action) =>
    set { session with trapping := true }
    let flow ← runTrapFrom self session.line (c :: action)
    modify fun after => { after with trapping := false }
    return flow
  | _, _ => return .goes

def announce (text : Bytes) : Step Flow := do
  let session ← get
  if session.trapping then return .goes
  set { session with running := text }
  spring self Trap.command

def settleFailure (tested : Bool) (flow : Flow) : Step Flow := do
  if flow = .goes && !tested && (← get).status ≠ 0 then
    match ← spring self Trap.failure with
    | .goes => return if (← get).has "errexit" then .exits else .goes
    | other => return other
  else return flow

def notePipe : Step Unit :=
  modify fun session => { session with pipeStatus := [session.status] }

def decided (success : Bool) : Step Flow := do
  let flow ← answer success
  notePipe
  return flow

/-! ## Children -/

def countsItself : Statement → Bool
  | .subshell .. => true
  | _ => false

def isSimple : Statement → Bool
  | .simple .. => true
  | _ => false

def deeper : Step Unit :=
  modify fun session => { session with subshells := session.subshells + 1 }

/-- Starts the parts of a pipeline, each with the output of the one before it. With `leaves` the
output of the last one is left for the session to read. -/
def startPiped (self : Self) (tested background leaves : Bool) (job : Nat) (input : Option Nat) :
    List Statement → Step (Option Nat)
  | [] => return input
  | part :: rest => do
    let pipe ← if rest.isEmpty && !leaves then pure none else do pure (some (← ask .pipe))
    if let some line := part.firstLine? then setLine line
    if isSimple part then
      let _ ← announce self (part.shown {})
    let jobs := (← get).jobs.filter (·.number ≠ job)
    let _ ← startMember self job background do
      modify fun session =>
        { session with isPiped := true, jobs := if isSimple part then jobs else [] }
      if !isSimple part && !countsItself part then deeper
      if let some (reading, _) := pipe then close reading
      if let some input := input then
        if input ≠ 0 then
          let _ ← ask (.copy input 0)
          close input
      if let some (_, writing) := pipe then
        if 1 < writing then
          let _ ← ask (.copy writing 1)
          close writing
      self.eval part tested
    if let some input := input then close input
    if let some (_, writing) := pipe then close writing
    startPiped self tested background leaves job (pipe.map (·.1)) rest

def readingFrom (input : Option Nat) (body : Step Flow) : Step Flow := do
  match input with
  | none => body
  | some input =>
    let former ← saveDescriptor 0
    let _ ← ask (.copy input 0)
    close input
    let flow ← body
    restore [(0, former)]
    return flow

def runInChild (text : Bytes) (body : Step Flow) : Step Flow := do
  let session ← get
  if session.isLast && !session.hasTraps then body
  else
    let job ← newJobFor text
    let _ ← startMember self job false body
    setStatus (← finishJob job)
    return .goes

def pipelineStatus (session : Session) (statuses : List Nat) : Nat :=
  if session.has "pipefail" then (statuses.reverse.find? (· ≠ 0)).getD 0
  else statuses.getLast?.getD 0

def finishParts (number : Nat) : Step (List Nat) := do
  let _ ← waitFor number false Program.manySteps
  let session ← get
  match session.job? number with
  | none => return []
  | some job =>
    reportJob job
    set (session.dropJob number).retire
    return job.members.map fun (_, ending) => (ending.getD (.exited 0)).status

def runPipeline (tested : Bool) (parts : List Statement) : Step Flow := do
  let session ← get
  let job ← newJobFor (shownParts {} parts)
  let staysHere := session.switched "lastpipe"
  let started := if staysHere then parts.dropLast else parts
  let input ← startPiped self tested false staysHere job none started
  match if staysHere then parts.getLast? else none with
  | none =>
    let statuses ← finishParts job
    modify fun session =>
      { session with pipeStatus := statuses, status := pipelineStatus session statuses }
    return .goes
  | some last =>
    asLast false
    let flow ← readingFrom input (self.eval last true)
    let own := (← get).status
    let statuses := (← finishParts job) ++ [own]
    modify fun session =>
      { session with pipeStatus := statuses, status := pipelineStatus session statuses }
    return flow

def runBeside (body : Statement) : Step Flow := do
  let job ← newJobFor (body.shown {})
  match body with
  | .pipeline parts =>
    let _ ← startPiped self false true false job none parts
    answer true
  | _ =>
    let _ ← startMember self job true do
      if !countsItself body then deeper
      self.eval body false
    answer true

def redirecting (tested : Bool) (redirects : List Redirect) (body : Step Flow) :
    Step Flow := do
  match ← (routesOf self redirects).run with
  | .error message => refused message
  | .ok routes =>
    let (frame, opened) ← openRoutes true [] routes
    if opened then
      let flow ← body
      restore frame
      return flow
    else
      restore frame
      setStatus 1
      settleFailure self tested .goes

/-! ## Sums -/

/-- The value of a sum that a statement is made of, or of the `usual` one if nothing is written.
One without a value is told of. -/
def reckonHere (usual body : Word) : Step (Except Flow Int64) := do
  let reckoned : Expand Int64 := do
    let text := Atom.text (← unfoldPieces self false false body)
    let text := if text.isEmpty then Word.chars usual else text
    Expand.of (traceText self ("(( " ++ text ++ " ))"))
    reckon text
  match ← reckoned.run with
  | .ok value => return .ok value
  | .error message =>
    let session ← get
    if !session.unsettled && !session.locked then return .error (← refused message)
    set { session with unsettled := false, locked := false }
    complain ((if session.locked then [] else "((: ") ++ message)
    setStatus 1
    return .error .goes

def unwritten : Word := [.text false ['1']]

def reckonRound (line : Nat) (part : Word) : Step (Except Flow Int64) := do
  setLine line
  let written := if part.isEmpty then unwritten else part
  match ← announce self ("((" ++ Word.shown written ++ "))") with
  | .goes => reckonHere self unwritten part
  | flow => return .error flow

/-- Runs a loop that counts for a number of rounds; one that needs more is given up. The status
is that of the last round. -/
def runCount (self : Self) (line : Nat) (condition next : Word) (body : Statement) (tested : Bool) :
    Nat → Nat → Step Flow
  | 0, _ => do
    setStatus 2
    return .exits
  | rounds + 1, status => do
    match ← reckonRound self line condition with
    | .error flow => return flow
    | .ok 0 =>
      setStatus status
      return .goes
    | .ok _ =>
      match loopFlow (← self.eval body tested) with
      | some flow => return flow
      | none =>
        let status := (← get).status
        match ← reckonRound self line next with
        | .error flow => return flow
        | .ok _ => runCount self line condition next body tested rounds status

/-! ## Loops and choices -/

def giveRound (name value : Bytes) (body : Step Flow) : Step Flow := do
  match ← (storeText name none false value).run with
  | .ok () => body
  | .error message =>
    let session ← get
    if session.isGivenUp then refused message
    else
      set { session with locked := false }
      failing message 1

def runEach (self : Self) (line : Nat) (head name : Bytes) (body : Statement)
    (tested : Bool) : List Bytes → Step Flow
  | [] => return .goes
  | value :: rest => do
    setLine line
    match ← announce self head with
    | .goes =>
      traceText self head
      giveRound name value do
        match loopFlow (← self.eval body tested) with
        | none => runEach self line head name body tested rest
        | some flow => return flow
    | flow => return flow

def armsFrom (self : Self) (text : Bytes) :
    List (List Word × Statement × ArmEnd) → Expand (List (List Word × Statement × ArmEnd))
  | [] => return []
  | arm :: rest => do
    if ← arm.1.anyM (wordFits self text) then return arm :: rest
    else armsFrom self text rest

def runArms (self : Self) (text : Bytes) (tested : Bool) :
    Nat → Bool → List (List Word × Statement × ArmEnd) → Step Flow
  | 0, _, _ => return .goes
  | fuel + 1, falls, arms => do
    match ← (if falls then pure arms else armsFrom self text arms).run with
    | .error message => refused message
    | .ok [] => return .goes
    | .ok ((_, body, ending) :: rest) =>
      let flow ← if body.isNothing then answer true else self.eval body tested
      match flow, ending with
      | .goes, .fallsThrough => runArms self text tested fuel true rest
      | .goes, .looksOn => runArms self text tested fuel false rest
      | flow, _ => return flow

def currentSource (session : Session) : Bytes :=
  match session.frames.head?, session.given with
  | some frame, _ => frame.source
  | none, some _ => "environment".toList
  | none, none => "main".toList

def isFunctionName (name : Bytes) : Bool :=
  !name.isEmpty && !name.any fun c => ['$', '\'', '\x22', '\\', '\x60'].contains c

def timesText (plain : Bool) (elapsed : Nat) : Bytes :=
  let seconds := elapsed / 1000
  let pad := fun (width value : Nat) =>
    let digits := decimal value
    List.replicate (width - digits.length) '0' ++ digits
  if plain then
    "real " ++ decimal seconds ++ '.' :: pad 2 (elapsed % 1000 / 10) ++
      "\nuser 0.00\nsys 0.00\n"
  else
    "\nreal\t" ++ decimal (seconds / 60) ++ 'm' :: decimal (seconds % 60) ++
      '.' :: pad 3 (elapsed % 1000) ++ "s\nuser\t0m0.000s\nsys\t0m0.000s\n"

def within (body : Step Flow) : Step Flow := do
  let before := (← get).around
  modify fun session => { session with around := some session.line }
  let flow ← body
  modify fun session => { session with around := before }
  return flow

def hasOwnLine : Statement → Bool
  | .test .. => true
  | .reckon .. => true
  | _ => false

def stepOnce : Eval
  | .nothing, _ => return .goes
  | .simple line settings words redirects, tested => do
    setLine line
    match ← announce self (shownCommand settings words redirects) with
    | .goes =>
      let flow ← Calling.runSimple self settings words redirects tested
      notePipe
      return flow
    | flow => return flow
  | .negated body, _ => do
    asLast false
    if body.isNothing then setStatus 0
    match ← self.eval body true with
    | .goes => answer ((← get).status ≠ 0)
    | flow => return flow
  | .pipeline parts, tested => runPipeline self tested parts
  | .both first second, tested => following self first second true tested (· = 0)
  | .either first second, tested => following self first second true tested (· ≠ 0)
  | .sequence first second, tested => following self first second tested tested fun _ => true
  | .background line body, _ => do
    setLine line
    runBeside self body
  | .subshell line body redirects, tested => do
    setLine line
    let flow ← runInChild self (Statement.shown {} (.subshell line body redirects)) do
      deeper
      match ← (routesOf self redirects).run with
      | .error message => refused message
      | .ok routes => underRoutes routes (self.eval body tested)
    notePipe
    return flow
  | .redirected line body redirects, tested => do
    match (← get).around, hasOwnLine body with
    | some line, false => modify fun session => { session with line }
    | _, _ => setLine line
    asLast false
    redirecting self tested redirects (self.eval body tested)
  | .choice condition yes no, tested => do
    asLast false
    match ← self.eval condition true with
    | .goes =>
      if (← get).status = 0 then self.eval yes tested
      else if no.isNothing then answer true
      else self.eval no tested
    | flow => return flow
  | .loop untilTrue condition body, tested => do
    asLast false
    inLoop (runLoop self untilTrue condition body tested Program.manySteps 0)
  | .each line name words body, tested => do
    setLine line
    asLast false
    if !isName name then failing (Builtin.Full.notIdentifier name) 1
    else match ← (allFields self words).run with
      | .ok values =>
        if values.isEmpty then setStatus 0
        let head := "for " ++ name ++ " in " ++ joined ' ' (words.map Word.shown)
        within (inLoop (runEach self line head name body tested values))
      | .error message => refused message
  | .select line word arms, tested => do
    setLine line
    asLast false
    let head := "case " ++ Word.shown word ++ " in"
    match ← announce self head with
    | .goes =>
      traceText self head
      match ← (wordText self false word).run with
      | .error message => refused message
      | .ok text =>
        let status := (← get).inner
        setStatus (if arms.isEmpty then status else 0)
        within (runArms self text tested (arms.length + 1) false arms)
    | flow => return flow
  | .define line name body, _ => do
    setLine line
    if isFunctionName name then
      modify fun session =>
        let held : Function := { body, line := session.line, source := currentSource session }
        { session with functions := (name, held) :: session.functions.filter (·.1 ≠ name) }
      answer true
    else failing (Builtin.Full.notIdentifier name) 1
  | .group body, tested => do
    asLast false
    self.eval body tested
  | .test line body, _ => do
    setLine line
    match ← announce self ("[[ " ++ body.shown ++ " ]]") with
    | .goes =>
      match ← (decideTest self body).run with
      | .error message => refused message
      | .ok (some holds) => decided holds
      | .ok none =>
        setStatus 2
        notePipe
        return .goes
    | flow => return flow
  | .reckon line body, _ => do
    setLine line
    match ← announce self ("((" ++ Word.shown body ++ "))") with
    | .goes =>
      match ← reckonHere self [] body with
      | .ok value => decided (value ≠ 0)
      | .error flow =>
        notePipe
        return flow
    | flow => return flow
  | .count line start condition next body, tested => do
    setLine line
    asLast false
    match ← reckonRound self line start with
    | .error flow => return flow
    | .ok _ => inLoop (runCount self line condition next body tested Program.manySteps 0)
  | .timed plain body, tested => do
    asLast false
    let flow ← if body.isNothing then answer true else self.eval body tested
    write 2 (timesText plain 0)
    return flow

def isStrict : Statement → Bool
  | .simple .. => true
  | .pipeline _ => true
  | .subshell .. => true
  | .test .. => true
  | .reckon .. => true
  | _ => false

end Full
end Retrace.Shell
