import Retrace.Shell.Session

/-!
# Looking variables up

How the richer shell finds what a name stands for. A name may lead to another one, some
names are answered by the session itself, and a variable may be a row or a table of
which one element is meant.
-/

namespace Retrace.Shell

open Unix Text

namespace Session

def resolveWithin (session : Session) : Nat → Bytes → Bytes
  | 0, name => name
  | fuel + 1, name =>
    match session.held? name with
    | some held =>
      match held.refers, held.value with
      | true, some target => if isName target then session.resolveWithin fuel target else name
      | _, _ => name
    | none => name

variable (session : Session)

def resolve (name : Bytes) : Bytes := session.resolveWithin 8 name

def frameNames : List Bytes := session.frames.map (·.name)

def optionNames (names : List String) : Bytes :=
  joined ':' ((names.mergeSort fun a b => !decide (b < a)).map String.toList)

def own? (name : Bytes) : Option Variable :=
  let text := fun value : Bytes => some ({ value := some value } : Variable)
  let row := fun values : List Bytes =>
    some ({ value := some [], elements := some (Elements.ofValues values) } : Variable)
  match String.ofList name with
  | "LINENO" => text (decimal session.line)
  | "BASH_SUBSHELL" => text (decimal session.subshells)
  | "PIPESTATUS" => row (session.pipeStatus.map decimal)
  | "FUNCNAME" => if session.scopes.isEmpty then none else row session.frameNames
  | "BASH_SOURCE" => row (session.frames.map (·.source))
  | "BASH_LINENO" => row (session.frames.map fun frame => decimal frame.line)
  | "DIRSTACK" => row (session.here :: session.stack)
  | "_" => text session.lastWord
  | "SHELLOPTS" => text (optionNames session.options)
  | "BASHOPTS" => text (optionNames session.switches)
  | "BASHPID" => text (decimal session.process)
  | "BASH_COMMAND" => text session.running
  | "BASH_EXECUTION_STRING" => session.given.bind text
  | "GROUPS" => row [['0']]
  | _ => none

def named? (name : Bytes) : Option Variable :=
  let name := session.resolve name
  (session.held? name).or (session.own? name)

def textOf? (name : Bytes) : Option Bytes :=
  (session.named? name).bind (·.text?)

def seedAfter (seed : Nat) : Nat :=
  let seed := if seed = 0 then 123459876 else seed
  let low := 16807 * (seed % 127773)
  let high := 2836 * (seed / 127773)
  if high ≤ low then low - high else low + 2147483647 - high

def readText? (name : Bytes) : Option Bytes × Session :=
  if name = "RANDOM".toList && (session.held? name).isSome then
    let seed := seedAfter session.seed
    let number := ((seed / 65536) ^^^ (seed % 65536)) % 32768
    (some (decimal number), { session with seed })
  else (session.textOf? name, session)

def elementsOf (held : Variable) : Elements :=
  match held.elements, held.value with
  | some elements, _ => elements
  | none, some value => .row [(0, value)]
  | none, none => .row []

def isTable (name : Bytes) : Bool :=
  match (session.named? name).bind (·.elements) with
  | some (.table _) => true
  | _ => false

def open? (name : Bytes) : Except Bytes Variable :=
  let held := (session.held? name).getD {}
  if held.readonly then .error (name ++ ": readonly variable") else .ok held

def hold (name : Bytes) (held : Variable) : Session :=
  let exported := held.exported || session.has "allexport"
  (session.put name { held with exported }).noticePath name

def storeAt (name : Bytes) (key : Option Key) (value : Bytes) :
    Except Bytes Session := do
  let name := session.resolve name
  match key with
  | none => session.assign name value
  | some key =>
    let held ← session.open? name
    let elements := match held.elements, key with
      | some elements, _ => elements
      | none, .place _ => elementsOf held
      | none, .name _ => .table []
    let elements := elements.put key (held.cased value)
    return session.hold name { held with elements := some elements, value := some [] }

def eraseAt (name : Bytes) (key : Key) : Except Bytes Session := do
  let name := session.resolve name
  match session.held? name with
  | none => return session
  | some held =>
    if held.readonly then throw (name ++ ": cannot unset: readonly variable")
    match held.elements, key with
    | some elements, _ => return session.put name { held with elements := some (elements.erase key) }
    | none, .place 0 => return session.erase name
    | none, _ => throw (name ++ ": not an array variable")

end Session
end Retrace.Shell
