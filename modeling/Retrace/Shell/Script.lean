import Retrace.Shell.Step

/-!
# Scripts

A text is read and run line by line. Around it stands what interrupts it: signals
that have arrived, and the trap for its end.
-/

namespace Retrace.Shell

open Unix Step

def scriptBlock : Nat := 8191

def refill (fd : Nat) (source : Source) : Step Source := do
  match ← ask (.read fd scriptBlock) with
  | .ok [] => return { source with more := false }
  | .ok text => return { source with rest := source.rest ++ text.filter (· ≠ '\x00') }
  | .error .interrupted => return source
  | .error _ => return { source with more := false }

def Source.passed (source : Source) (left : Nat) : Bytes :=
  let count := source.rest.length - left
  let text := source.rest.take count
  if text.isEmpty || text.getLast? = some '\n' then text
  else
    let rest := source.rest.drop count
    let line := rest.takeWhile (· ≠ '\n')
    text ++ line ++ (rest.drop line.length).take 1

/-- Shows the lines of a script that were read, if that is asked for. The plain shell does so for
scripts that it reads from somewhere. -/
def showLines (supply : Option Nat) (source : Source) (left : Nat) : Step Unit := do
  let session ← get
  if session.has "verbose" then
    let text := source.passed left
    match session.dialect with
    | .dash => if supply.isSome then write 2 text
    | .bash =>
      let isOpen := text.getLast?.any (· ≠ '\n')
      write 2 (if isOpen then text ++ ['\n'] else text)

def tokenNear (line : Bytes) (place : Nat) : Bytes :=
  let isSign := fun c : Char => c = ';' || c = '|' || c = '&'
  let isGap := fun c : Char => c = ' ' || c = '\t'
  match (line.take (place + 1)).reverse.dropWhile isGap with
  | [] => []
  | c :: rest =>
    if isSign c then [c]
    else
      let isMore := fun c : Char => !isSign c && !isGap c
      let word := c :: rest.takeWhile isMore
      (word ++ (rest.dropWhile isMore).take 1 |>.filter (!isGap ·)).reverse

structure Reading where
  tested : Bool := false
  supply : Option Nat := none
  label : String := ""
  isLast : Bool := false

def flawLines (session : Session) (label : String) (source : Source) (flaw : Flaw) : Bytes :=
  let tell := fun (line : Nat) (text : Bytes) =>
    session.messageName ++ ofString (": " ++ label ++ "line ") ++ Text.decimal line ++ [':', ' '] ++
      text ++ ['\n']
  let passed := source.rest.take (source.rest.length - flaw.left)
  let lineEnd := passed.getLast? = some '\n'
  let shown := if lineEnd then passed.dropLast else passed
  let line := if lineEnd then flaw.line - 1 else flaw.line
  let written := (shown.reverse.takeWhile (· ≠ '\n')).reverse ++
    (source.rest.drop shown.length).takeWhile (· ≠ '\n')
  let near := fun (what : String) (token : Bytes) =>
    tell line (ofString ("syntax error near " ++ what ++ "\x60") ++ token ++ ['\'']) ++
      tell line ('\x60' :: written ++ ['\''])
  match flaw.cause with
  | .unmatched mark =>
    tell flaw.line ("unexpected EOF while looking for matching \x60" ++ [mark, '\''])
  | .unexpected "end of file" _ =>
    tell (line + 1) "syntax error: unexpected end of file"
  | .unexpected "newline" _ => near "unexpected token " "newline"
  | .badTest told =>
    let place := (shown.reverse.takeWhile (· ≠ '\n')).length
    told.flatMap (tell line) ++ near "" (tokenNear written place)
  | .openTest =>
    tell line "unexpected EOF while looking for \x60]]'" ++
      tell (line + 1) "syntax error: unexpected end of file"
  | .badCount text =>
    tell line "syntax error: arithmetic expression required" ++
      tell line ("syntax error: \x60((" ++ text ++ "))'")
  | _ =>
    let token := (source.rest.drop (source.rest.length - flaw.begun)).take (flaw.begun - flaw.left)
    near "unexpected token " token

def showNotices : List (Nat × Bytes) → Step Unit
  | [] => return
  | (line, text) :: rest => do
    write 2 ({ (← get) with line, command := none }.message text)
    showNotices rest

def reportFlaw (reading : Reading) (source : Source) (flaw : Flaw) : Step Flow := do
  let session ← get
  match session.dialect with
  | .dash =>
    setLine flaw.line
    aborting (ofString flaw.message)
  | .bash =>
    showNotices flaw.notices
    write 2 (flawLines session reading.label source flaw)
    if flaw.isInside then
      setStatus (if session.isChild then 1 else if session.given.isSome then 127 else 2)
      return .exits
    setStatus (if flaw.isInRow then 1 else 2)
    return if flaw.isInRow then .discards else .goes

def Statement.mayGiveWay : Statement → Bool
  | .simple _ _ _ redirects => redirects.isEmpty
  | .both _ second => second.mayGiveWay
  | .either _ second => second.mayGiveWay
  | .sequence _ second => second.mayGiveWay
  | _ => false

def Session.readies (session : Session) (source : Source) : Source :=
  let named := session.dialect = .dash || session.switched "expand_aliases"
  { source with
    dialect := session.dialect
    groups := session.switched "extglob"
    aliases := if named then session.aliases else []
    notices := [] }

def Source.lastLine (source after : Source) : Nat :=
  let passed := source.rest.length - after.rest.length
  if 0 < passed && source.rest[passed - 1]? = some '\n' then after.line - 1 else after.line

/-- Reads and runs what is left of a script, of which more may come from a descriptor. `ran`
tells whether any statement has run. -/
def runLines (self : Self) (reading : Reading) : Nat → Bool → Source → Step Flow
  | 0, _, _ => return .goes
  | fuel + 1, ran, source => do
    let source := (← get).readies source
    match source.line? with
    | .error flaw =>
      match reading.supply, flaw.cause with
      | some fd, .unfinished => runLines self reading fuel ran (← refill fd source)
      | _, _ =>
        showLines reading.supply source flaw.left
        match ← reportFlaw reading source flaw with
        | .discards =>
          let rest := source.rest.drop (source.rest.length - flaw.left)
          let rest := (rest.dropWhile (· ≠ '\n')).drop 1
          if rest.isEmpty then return .goes
          else runLines self reading fuel ran { source with rest, line := flaw.line + 1 }
        | flow => return flow
    | .ok (statement, after) =>
      showLines reading.supply source after.rest.length
      showNotices after.notices
      let ran := ran || !statement.isNothing
      asLast (reading.isLast && after.rest.isEmpty && statement.mayGiveWay)
      modify fun session => { session with around := some (source.lastLine after) }
      match ← if statement.isNothing then pure .goes else self.eval statement reading.tested with
      | .goes =>
        if after.atEnd then
          if !ran then setStatus 0
          return .goes
        else runLines self reading fuel ran after
      | .discards =>
        let session ← get
        if session.isChild then return .exits
        if session.unwound && reading.supply.isNone then return .discards
        set { session with unwound := false }
        if after.atEnd then return .goes
        else runLines self reading fuel true { after with line := (← get).line + 1 }
      | flow => return flow

variable (self : Self)

def runTextFrom (reading : Reading) (line : Nat) (text : Bytes) : Step Flow := do
  let before ← get
  modify fun session => { session with lineShift := 0 }
  let flow ← runLines self reading Program.manySteps false { rest := text, line }
  modify fun session => { session with lineShift := before.lineShift, around := before.around }
  return flow

def runText (tested : Bool) (text : Bytes) : Step Flow :=
  runTextFrom self { tested } 1 text

def runInput (fd : Nat) : Step Flow := do
  let shift := (← get).lineShift
  modify fun session => { session with lineShift := 0 }
  let flow ← runLines self { supply := some fd } Program.manySteps false { rest := [], more := true }
  modify fun session => { session with lineShift := shift }
  return flow

/-- Runs a trap whose lines are told from a line on. It may not change the status, unless it
ends the function around it. -/
def runTrapFrom (line : Nat) (action : Bytes) : Step Flow := do
  let before ← get
  set { before with held := before.held.or (some before.status), command := none }
  let flow ← runTextFrom self { label := "trap: " } line action
  modify fun session =>
    { session with held := before.held, command := before.command, line := before.line }
  if flow = .goes then setStatus before.status
  return flow

def runTrap (action : Bytes) : Step Flow := runTrapFrom self 1 action

def takeSignals (self : Self) : List Nat → Step Flow
  | [] => return .goes
  | signal :: rest => do
    match (← get).trap? signal with
    | some (c :: action) =>
      match ← runTrap self (c :: action) with
      | .goes => takeSignals self rest
      | flow => return flow
    | _ => takeSignals self rest

/-- Attends to the signals that have arrived, after a statement that ended well. Each is
attended to once, the lowest first. -/
def attend (flow : Flow) : Step Flow := do
  let awaits := (← get).traps.any fun (signal, action) => signal ≠ 0 && !action.isEmpty
  if flow ≠ .goes || !awaits then return flow
  match ← ask .arrived with
  | [] => return .goes
  | arrived => takeSignals self (arrived.eraseDups.mergeSort fun a b => a ≤ b)

def leave : Step Ending := do
  let session ← get
  match session.trap? 0 with
  | none => pure ()
  | some action =>
    set { session with traps := session.traps.filter (·.1 ≠ 0), held := some session.status }
    match ← runTextFrom self { label := "exit trap: " } 1 action with
    | .exits => pure ()
    | .fails => pure ()
    | _ => setStatus session.status
  let _ ← flush
  return .exited ((← get).status % 256)

end Retrace.Shell
