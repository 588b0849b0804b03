import Retrace.Shell.Redirection

/-!
# Finding and starting programs

Where the program of a command word is, and how a session gives way to it.
-/

namespace Retrace.Shell

open Unix Step

def searchPath (session : Session) : List Bytes :=
  match session.value? "PATH".toList with
  | some text => cutAt ':' text
  | none => []

def refusal? (view : View) (path : Bytes) : Option OsError :=
  match Exec.content view path with
  | .ok _ => none
  | .error cause => some cause

def findAlong (view : View) (name : Bytes) (refusal : OsError) :
    List Bytes → Except OsError Bytes
  | [] => .error refusal
  | directory :: rest =>
    let path := Exec.under directory name
    match refusal? view path with
    | none => .ok path
    | some .notFound => findAlong view name refusal rest
    | some .notDirectory => findAlong view name refusal rest
    | some cause => findAlong view name cause rest

def findProgram (view : View) (session : Session) (name : Bytes) : Except OsError Bytes :=
  if name.isEmpty then .error .denied else findAlong view name .notFound (searchPath session)

def locate (view : View) (session : Session) (name : Bytes) :
    Except OsError (Bytes × Session) := do
  match session.found? name with
  | some ⟨_, path, false, _⟩ => return (path, session)
  | _ =>
    let path ← findProgram view session name
    return (path, session.noteFound name path)

def directoriesFor (session : Session) (name : Bytes) : List Bytes :=
  match session.found? name with
  | some ⟨_, path, false, _⟩ =>
    (searchPath session).dropWhile fun directory => Exec.under directory name ≠ path
  | _ => searchPath session

def programPath? (view : View) (session : Session) (name : Bytes) : Option Bytes :=
  if name.contains '/' then if view.pathExists name true then some name else none
  else (findProgram view session name).toOption

def refusalStatus : OsError → Nat
  | .notFound => 127
  | .notDirectory => 127
  | .nameTooLong => 127
  | .linkLoop => 127
  | _ => 126

def startAlong (self : Self) (words : List Bytes) (env : Environment) (refusal : OsError) :
    List Bytes → Program OsError
  | [] => return refusal
  | directory :: rest => do
    match ← Exec.script self.exec (Exec.under directory (words.headD [])) words env with
    | .notFound => startAlong self words env refusal rest
    | .notDirectory => startAlong self words env refusal rest
    | cause => startAlong self words env cause rest

def giveWay (self : Self) (words : List Bytes) : Step Flow := do
  let session ← get
  let name := words.headD []
  let env := session.environment
  let cause ← run <|
    if name.contains '/' then Exec.script self.exec name words env
    else startAlong self words env .notFound (directoriesFor session name)
  complain (name ++ ofString (": " ++ reason "not found" cause))
  setStatus (refusalStatus cause)
  return .exits

end Retrace.Shell
