import Retrace.Shell.Builtin.Full.Basic

/-!
# Leaving loops, functions and the session
-/

namespace Retrace.Shell.Builtin.Full

open Unix Step

def tooMany : Bytes := "too many arguments"

def numberNeeded (text : Bytes) : Bytes := text ++ ": numeric argument required"

def plainOperands : List Bytes → List Bytes
  | ['-', '-'] :: rest => rest
  | words => words

def withStatus (words : List Bytes) (run : Nat → Step Flow) : Step Flow := do
  let session ← get
  match plainOperands words with
  | [] => run (session.held.getD session.status)
  | text :: rest =>
    match integer? text with
    | none =>
      complain (numberNeeded text)
      run 2
    | some value => if rest.isEmpty then run (value % 256).toNat else leaving tooMany 1

def exit : Builtin := fun words =>
  withStatus words fun status => do
    setStatus status
    return .exits

def mayReturn (session : Session) : Bool :=
  0 < session.calls || session.frames.any (·.name = "source".toList)

def leaveFunction : Builtin := fun words => do
  if mayReturn (← get) then
    withStatus words fun status => do
      setStatus status
      return .returns
  else
    complain "can only \x60return' from a function or sourced script"
    finishWith 2

def leaveLoops (flow : Nat → Flow) : Builtin := fun words => do
  let loops := (← get).loops
  if loops = 0 then
    complain "only meaningful in a \x60for', \x60while', or \x60until' loop"
    answer true
  else match plainOperands words with
    | [] =>
      setStatus 0
      return flow 0
    | text :: rest =>
      match integer? text with
      | none => leaving (numberNeeded text) 128
      | some count =>
        if !rest.isEmpty then leaving tooMany 1
        else if count ≤ 0 then
          complain (text ++ ": loop count out of range")
          setStatus 1
          return .leavesLoop (loops - 1)
        else
          setStatus 0
          return flow (min count.toNat loops - 1)

def shift : Builtin := fun words => do
  let session ← get
  let move := fun count : Nat =>
    if session.params.length < count then answer false
    else do
      set { session with params := session.params.drop count }
      answer true
  match plainOperands words with
  | [] => move 1
  | text :: rest =>
    match integer? text with
    | none => failed (numberNeeded text)
    | some count =>
      if !rest.isEmpty then leaving tooMany 1
      else if count < 0 then failed (text ++ ": shift count out of range")
      else move count.toNat

def reckonAll (value : Int64) : List Bytes → Expand Flow
  | [] => Expand.of (answer (value ≠ 0))
  | text :: rest => do
    reckonAll (← reckon text) rest

def letting : Builtin := fun words =>
  if words.isEmpty then failed "expression expected"
  else attempting (reckonAll 0 words)

end Retrace.Shell.Builtin.Full
