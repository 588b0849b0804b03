import Retrace.Shell.Words

/-!
# Redirection

Leads descriptors to files and to each other. What a descriptor led to before is
kept among the high descriptors when it is to be put back later.
-/

namespace Retrace.Shell

open Unix Step Text

structure Route where
  fd : Nat
  way : Way
  target : Bytes
  name : Option Bytes := none
  moves : Bool := false
  refusal : Option Bytes := none

/-- Finds the target of a redirection that all shells know. A copy has to name one descriptor. -/
def plainRoute (self : Self) (fd : Nat) (way : Way) (word : Word) : Expand Route := do
  let target ← expandText self false word
  let number := match target with
    | [c] => c.isDigit || c = '-'
    | _ => false
  if way = .copy && !number then refuse "Syntax error: Bad fd number"
  return { fd, way, target }

def bothOutputs (way : Way) (target : Bytes) : List Route :=
  [{ fd := 1, way, target }, { fd := 2, way := .copy, target := ['1'] }]

def routesTo (fd : Nat) (name : Option Bytes) (way : Way) (target : Bytes) : List Route :=
  match way with
  | .outputBoth => bothOutputs .output target
  | .appendBoth => bothOutputs .append target
  | .copy =>
    let digits := target.takeWhile Char.isDigit
    let rest := target.drop digits.length
    if target = ['-'] || (!digits.isEmpty && rest.isEmpty) then [{ fd, way, target, name }]
    else if !digits.isEmpty && rest = ['-'] then [{ fd, way, target := digits, name, moves := true }]
    else if fd = 1 && name.isNone then bothOutputs .output target
    else [{ fd, way, target, refusal := some (target ++ ": ambiguous redirect") }]
  | _ => [{ fd, way, target, name }]

def fullRoutes (self : Self) (fd : Nat) (name : Option Bytes) (way : Way) (word : Word) :
    Expand (List Route) := do
  match way with
  | .here => return [{ fd, way, target := Atom.text (← unfoldPieces self false false word), name }]
  | .text => return [{ fd, way := .here, target := (← unfoldText self false word) ++ ['\n'], name }]
  | _ =>
    match ← unfoldWord self word with
    | [target] => return routesTo fd name way target
    | _ =>
      let refusal := word.source ++ ": ambiguous redirect"
      return [{ fd, way, target := [], refusal := some refusal }]

def routeOf (self : Self) : Redirect → Expand (List Route)
  | .mk fd way word => do
    match (← get).dialect, fd with
    | .dash, .number fd => return [← plainRoute self fd way word]
    | .dash, .named _ => return []
    | .bash, .number fd => fullRoutes self fd none way word
    | .bash, .named name => fullRoutes self 1 (some name) way word

def routesOf (self : Self) (redirects : List Redirect) : Expand (List Route) := do
  return (← redirects.mapM (routeOf self)).flatten

def cannot (verb : String) (path : Bytes) (why : String) : Bytes :=
  ofString ("cannot " ++ verb ++ " ") ++ path ++ ofString (": " ++ why)

def reason (missing : String) : OsError → String
  | .notFound => missing
  | .notDirectory => missing
  | cause => cause.text

def cannotOpen (dialect : Dialect) (path : Bytes) (cause : OsError) : Bytes :=
  match dialect with
  | .dash => cannot "open" path (reason "No such file" cause)
  | .bash => path ++ ofString (": " ++ cause.text)

def cannotCreate (dialect : Dialect) (path : Bytes) (cause : OsError) : Bytes :=
  match dialect, cause with
  | .dash, cause => cannot "create" path (reason "Directory nonexistent" cause)
  | .bash, .alreadyThere => path ++ ": cannot overwrite existing file"
  | .bash, cause => path ++ ofString (": " ++ cause.text)

inductive Origin where
  | opened (fd : Nat)
  | copied (fd : Nat)
  | nothing
  | same

def newFileMode : Nat := 438

/-- The longest text that a pipe takes without anyone reading it. -/
def hereLimit : Nat := 4096

/-- Puts a text into a pipe. A long one needs someone to write it while it is read. -/
def openText (text : Bytes) : Step Nat := do
  let (input, output) ← ask .pipe
  if text.length ≤ hereLimit then write output text
  else
    let _ ← fork do
      close input
      dropTraps (← get).traps
      write output text
      return .exited 0
  close output
  return input

def openFresh (path : Bytes) : Step (Except OsError Nat) := do
  match (← look).body? path true with
  | none => ask (.openFile path .fresh newFileMode)
  | some (.file _) => return .error .alreadyThere
  | some _ => ask (.openFile path { writable := true } newFileMode)

def originOf (route : Route) : Step (Except Bytes Origin) := do
  let dialect := (← get).dialect
  if let some message := route.refusal then return .error message
  let opening := fun (mode : OpenMode) (refusal : Bytes → OsError → Bytes) => do
    match ← ask (.openFile route.target mode newFileMode) with
    | .ok fd => return .ok (.opened fd)
    | .error cause => return .error (refusal route.target cause)
  match route.way with
  | .input => opening .input (cannotOpen dialect)
  | .readWrite => opening .update (cannotCreate dialect)
  | .output =>
    if (← get).has "noclobber" then
      match ← openFresh route.target with
      | .ok fd => return .ok (.opened fd)
      | .error cause => return .error (cannotCreate dialect route.target cause)
    else opening .output (cannotCreate dialect)
  | .clobber => opening .output (cannotCreate dialect)
  | .append => opening .append (cannotCreate dialect)
  | .here => return .ok (.opened (← openText route.target))
  | .copy =>
    if route.target = ['-'] then return .ok .nothing
    let source := digitsValue route.target
    return .ok (if source = route.fd && route.name.isNone then .same else .copied source)
  | _ => return .ok .same

/-- What a descriptor led to before: nothing, or what a high descriptor leads to. -/
abbrev Former := Option Nat

abbrev Detour := List (Nat × Former)

def saveDescriptor (fd : Nat) : Step Former := do
  match ← ask (.save fd 10) with
  | .ok copy =>
    close fd
    return some copy
  | .error _ => return none

def lead (fd : Nat) : Origin → Step (Except Bytes Unit)
  | .opened source => do
    if source ≠ fd then
      let _ ← ask (.copy source fd)
      close source
    return .ok ()
  | .copied source => do
    match ← ask (.copy source fd) with
    | .ok () => return .ok ()
    | .error cause => return .error (decimal source ++ ofString (": " ++ cause.text))
  | .nothing => do
    close fd
    return .ok ()
  | .same => return .ok ()

def freeDescriptor (view : View) (least : Nat) : Nat :=
  let taken := view.files.map (·.1)
  ((List.range (taken.length + 1)).find? fun n => !taken.contains (least + n)).getD 0 + least

/-- Leads a descriptor that is chosen to an origin, and notes it in a variable. To close it, the
variable tells which one it is. -/
def leadChosen (name : Bytes) (origin : Origin) : Step (Except Bytes Unit) := do
  match origin with
  | .nothing =>
    let held := ((← get).value? name).getD []
    close (digitsValue (held.takeWhile Char.isDigit))
    return .ok ()
  | _ =>
    let fd := freeDescriptor (← look) 10
    match ← lead fd origin with
    | .error message => return .error message
    | .ok () =>
      match (← get).storeAt name none (decimal fd) with
      | .ok session =>
        set session
        return .ok ()
      | .error message => return .error message

/-- Opens redirections in order, up to the first that cannot be, which is told of. If they are
to be taken back later, what they replace is kept in the frame. -/
def openRoutes (forNow : Bool) (frame : Detour) : List Route → Step (Detour × Bool)
  | [] => return (frame, true)
  | route :: rest => do
    match ← originOf route with
    | .error message =>
      complain message
      return (frame, false)
    | .ok .same => openRoutes forNow frame rest
    | .ok origin =>
      let isPlaced : Bool := match origin with
        | .opened fd => fd = route.fd
        | _ => false
      let frame ←
        if !forNow || route.name.isSome || frame.any (·.1 = route.fd) then pure frame
        else if isPlaced then pure ((route.fd, none) :: frame)
        else do pure ((route.fd, ← saveDescriptor route.fd) :: frame)
      let led ← match route.name with
        | some name => leadChosen name origin
        | none => lead route.fd origin
      match led with
      | .ok () =>
        let frame ← if !route.moves then pure frame else do
          let source := digitsValue route.target
          let frame ← if !forNow || frame.any (·.1 = source) then pure frame
            else do pure ((source, ← saveDescriptor source) :: frame)
          close source
          pure frame
        openRoutes forNow frame rest
      | .error message =>
        complain message
        return (frame, false)

def restore : Detour → Step Unit
  | [] => return
  | (fd, none) :: rest => do
    close fd
    restore rest
  | (fd, some copy) :: rest => do
    let _ ← ask (.copy copy fd)
    close copy
    restore rest

def forget : Detour → Step Unit
  | [] => return
  | (_, none) :: rest => forget rest
  | (_, some copy) :: rest => do
    close copy
    forget rest

end Retrace.Shell
