import Retrace.Shell.Forms.Full

/-!
# Running statements

`stepOnce` runs the forms that all shells share given a way to run their parts,
`step` does so for every form, and `eval` ties the knot to a depth.
-/

namespace Retrace.Shell

open Unix Step

def stepOnce (self : Self) : Eval
  | .nothing, _ => return .goes
  | .simple line settings words redirects, tested => do
    setLine line
    Call.runSimple self settings words redirects tested
  | .negated body, _ => do
    asLast false
    match ← self.eval body true with
    | .goes => answer ((← get).status ≠ 0)
    | flow => return flow
  | .pipeline parts, tested => runPipeline self tested parts
  | .both first second, tested => following self first second true tested (· = 0)
  | .either first second, tested => following self first second true tested (· ≠ 0)
  | .sequence first second, tested => following self first second tested tested fun _ => true
  | .background line body, _ => do
    setLine line
    runBeside self body
  | .subshell line body redirects, tested => do
    setLine line
    match ← (routesOf self redirects).run with
    | .error message => aborting message
    | .ok routes => runSubshell self (underRoutes routes (self.eval body tested))
  | .redirected line body redirects, tested => do
    setLine line
    asLast false
    redirecting self tested redirects (self.eval body tested)
  | .choice condition yes no, tested => do
    let isLast := (← get).isLast
    asLast false
    match ← self.eval condition true with
    | .goes =>
      asLast isLast
      if (← get).status = 0 then self.eval yes tested
      else if no.isNothing then answer true
      else self.eval no tested
    | flow => return flow
  | .loop untilTrue condition body, tested => do
    asLast false
    inLoop (runLoop self untilTrue condition body tested Program.manySteps 0)
  | .each line name words body, tested => do
    setLine line
    match ← (allFields self words).run with
    | .ok values =>
      asLast false
      if values.isEmpty then setStatus 0
      inLoop (runEach self name body tested values)
    | .error message => aborting message
  | .select line word arms, tested => do
    setLine line
    let chosen : Expand (Option Statement) := do
      let text ← wordText self false word
      chooseArm self text (arms.flatMap fun (patterns, body, _) => patterns.map (·, body))
    match ← chosen.run with
    | .error message => aborting message
    | .ok (some body) => if body.isNothing then answer true else self.eval body tested
    | .ok none => answer true
  | .define _ name body, _ => do
    modify fun session =>
      { session.forgetFound name with
        functions := (name, { body }) :: session.functions.filter (·.1 ≠ name) }
    answer true
  | _, _ => return .goes

def Statement.isStrict : Statement → Bool
  | .simple .. => true
  | .pipeline _ => true
  | .subshell .. => true
  | _ => false

/-- How long a session is busy with a statement, apart from what it asks of the system. -/
def statementTime : Nat := 2

def step (self : Self) : Eval := fun statement tested => do
  let session ← get
  if session.has "noexec" then return .goes
  ask (.spend statementTime)
  match session.dialect with
  | .dash =>
    let flow ← attend self (← stepOnce self statement tested)
    if statement.isStrict then settleStrict tested flow else return flow
  | .bash =>
    let flow ← attend self (← closingChannels (Full.stepOnce self statement tested))
    if Full.isStrict statement then Full.settleFailure self tested flow else return flow

def eval (exec : Exec) : Nat → Eval
  | 0, _, _ => do
    setStatus 2
    return .exits
  | depth + 1, statement, tested => step ⟨eval exec depth, exec⟩ statement tested

end Retrace.Shell
