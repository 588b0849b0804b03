import Retrace.Shell.Builtin.Basic

/-!
# The current directory

A directory that was entered through a link keeps the name it was entered by,
unless names without links are asked for.
-/

namespace Retrace.Shell.Builtin

open Unix Step

/-- Whether names without links are asked for: by the last of two letters that differ. -/
def isPhysical (letters : Bytes) : Bool := letters.getLast? = some 'P'

def pwd : Builtin :=
  withLetters ['L', 'P'] fun letters _ => do
    let path ← if isPhysical letters then do pure (← look).here else do pure (← get).here
    saying (path ++ ['\n'])

/-- Goes along the segments of a path, given those passed before, last first. -/
def alongSegments : List Bytes → List Bytes → List Bytes
  | passed, [] => passed
  | passed, segment :: rest =>
    if segment.isEmpty || segment = ['.'] then alongSegments passed rest
    else if segment = ['.', '.'] then alongSegments (passed.drop 1) rest
    else alongSegments (segment :: passed) rest

def resolved (here path : Bytes) : Bytes :=
  let start := if path.head? = some '/' then [] else alongSegments [] (cutAt '/' here)
  let twice := match if path.head? = some '/' then path else here with
    | '/' :: '/' :: '/' :: _ => false
    | '/' :: '/' :: _ => true
    | _ => false
  let lead := if twice then ['/', '/'] else ['/']
  lead ++ joined '/' (alongSegments start (cutAt '/' path)).reverse

def moved (here : Bytes) (session : Session) : Session :=
  let session := { session with found := session.found.map Found.aged }
  ({ session.keepExported "OLDPWD" session.here with here }).keepExported "PWD" here

def enter (physical : Bool) (path : Bytes) : Step Bool := do
  let session ← get
  let view ← look
  let path := if physical then path else resolved session.here path
  match view.volume.find view.cwd path true with
  | .ok inode =>
    if view.volume.isDir inode then
      ask (.enterDir inode)
      set (moved (if physical then view.volume.pathTo inode else path) session)
      return true
    else return false
  | .error _ => return false

def isAnchored (path : Bytes) : Bool :=
  let first := path.takeWhile (· ≠ '/')
  (path.head? = some '/') || first = ['.'] || first = ['.', '.']

def candidates (session : Session) (path : Bytes) : List (Bytes × Bool) :=
  match session.value? "CDPATH".toList with
  | none => []
  | some text =>
    if isAnchored path then []
    else (cutAt ':' text).map fun base => (Exec.under base path, !base.isEmpty)

def cd : Builtin :=
  withLetters ['L', 'P'] fun letters operands => do
    let session ← get
    let (path, tells) : Bytes × Bool :=
      match operands with
      | [] => ((session.value? "HOME".toList).getD [], false)
      | ['-'] :: _ => ((session.value? "OLDPWD".toList).getD [], true)
      | path :: _ => (path, false)
    let path := if path.isEmpty then ['.'] else path
    let view ← look
    let (place, told) : Bytes × Bool :=
      ((candidates session path).find? fun (place, _) => view.isDir place).getD (path, false)
    if ← enter (isPhysical letters) place then
      if tells || told then say ((← get).here ++ ['\n'])
      answer true
    else aborting ("can't cd to " ++ path)

end Retrace.Shell.Builtin
