import Retrace.Shell.Call

/-!
# What the forms of a script share

Children, pipelines, loops and lists of statements.
-/

namespace Retrace.Shell

open Unix Step

def settleStrict (tested : Bool) (flow : Flow) : Step Flow := do
  let session ← get
  if flow = .goes && !tested && session.status ≠ 0 && session.has "errexit" then return .exits
  return flow

variable (self : Self)

def runSubshell (body : Step Flow) : Step Flow := do
  let session ← get
  if session.isLast && !session.hasTraps then body
  else
    let job ← newJob
    let _ ← startMember self job false body
    setStatus (← finishJob job)
    return .goes

def underRoutes (routes : List Route) (body : Step Flow) : Step Flow := do
  let (_, opened) ← openRoutes false [] routes
  if opened then body
  else
    let _ ← flush
    setStatus (← get).failure
    return .fails

/-- Runs something under redirections and takes them back afterwards. One that cannot be
opened is a failure. -/
def redirecting (tested : Bool) (redirects : List Redirect) (body : Step Flow) :
    Step Flow := do
  match ← (routesOf self redirects).run with
  | .error message => aborting message
  | .ok routes =>
    let (frame, opened) ← openRoutes true [] routes
    if opened then
      let flow ← body
      restore frame
      return flow
    else
      restore frame
      setStatus (← get).failure
      settleStrict tested .goes

def Statement.plainName? : Statement → Option Bytes
  | .simple _ _ (word :: _) _ => (Word.plain? word).filter isName
  | _ => none

def startParts (self : Self) (tested background : Bool) (job : Nat) (input : Option Nat) :
    List Statement → Step Unit
  | [] => return
  | part :: rest => do
    if let some name := part.plainName? then Call.noteProgram name
    let pipe ← if rest.isEmpty then pure none else do pure (some (← ask .pipe))
    let _ ← startMember self job background do
      if let some (reading, _) := pipe then close reading
      if let some input := input then
        if input ≠ 0 then
          let _ ← ask (.copy input 0)
          close input
      if let some (_, writing) := pipe then
        if 1 < writing then
          let _ ← ask (.copy writing 1)
          close writing
      self.eval part tested
    if let some input := input then close input
    if let some (_, writing) := pipe then close writing
    startParts self tested background job (pipe.map (·.1)) rest

def runPipeline (tested : Bool) (parts : List Statement) : Step Flow := do
  let job ← newJob
  startParts self tested false job none parts
  setStatus (← finishJob job)
  return .goes

def runBeside (body : Statement) : Step Flow := do
  let start := fun (body : Step Flow) => do
    let job ← newJob
    let _ ← startMember self job true body
    answer true
  match body with
  | .pipeline parts =>
    let job ← newJob
    startParts self false true job none parts
    answer true
  | .redirected _ inner redirects =>
    match ← (routesOf self redirects).run with
    | .error message => aborting message
    | .ok routes => start (underRoutes routes (self.eval inner false))
  | _ => start (self.eval body false)

def loopFlow : Flow → Option Flow
  | .goes => none
  | .nextRound 0 => none
  | .nextRound (depth + 1) => some (.nextRound depth)
  | .leavesLoop 0 => some .goes
  | .leavesLoop (depth + 1) => some (.leavesLoop depth)
  | flow => some flow

def inLoop (body : Step Flow) : Step Flow := do
  let loops := (← get).loops
  modify fun session => { session with loops := loops + 1 }
  let flow ← body
  modify fun session => { session with loops }
  return flow

def runEach (self : Self) (name : Bytes) (body : Statement) (tested : Bool) :
    List Bytes → Step Flow
  | [] => return .goes
  | value :: rest => do
    match (← get).assign name value with
    | .error message => aborting message
    | .ok session =>
      set session
      match loopFlow (← self.eval body tested) with
      | none => runEach self name body tested rest
      | some flow => return flow

/-- Runs a loop for a number of rounds; one that needs more is given up. `status` is that of
the last round. -/
def runLoop (self : Self) (untilTrue : Bool) (condition body : Statement) (tested : Bool) :
    Nat → Nat → Step Flow
  | 0, _ => do
    setStatus 2
    return .exits
  | rounds + 1, status => do
    match ← self.eval condition true with
    | .goes =>
      if ((← get).status = 0) = untilTrue then
        setStatus status
        return .goes
      else match loopFlow (← self.eval body tested) with
        | none => runLoop self untilTrue condition body tested rounds (← get).status
        | some flow => return flow
    | .returns => return .returns
    | flow =>
      match loopFlow flow with
      | none => runLoop self untilTrue condition body tested rounds status
      | some .goes =>
        setStatus status
        return .goes
      | some flow => return flow

def chooseArm (self : Self) (text : Bytes) :
    List (Word × Statement) → Expand (Option Statement)
  | [] => return none
  | (pattern, body) :: rest => do
    if ← wordFits self text pattern then return some body
    else chooseArm self text rest

def following (first second : Statement) (firstTested tested : Bool)
    (wants : Nat → Bool) : Step Flow := do
  let isLast := (← get).isLast
  asLast false
  match ← self.eval first firstTested with
  | .goes =>
    if wants (← get).status then
      asLast isLast
      self.eval second tested
    else return .goes
  | flow => return flow

end Retrace.Shell
