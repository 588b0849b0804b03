import Retrace.Execution

/-!
# Scripted runs

A runner that answers from a list instead of starting anything. A call is
answered by the first response whose text occurs in the command; without one it
is answered as a shell answers for a program it cannot find. Files never change.
-/

namespace Retrace.Script

structure Response where
  needle : String
  outcome : Except OsError Completion
  /-- Whether the response is used up by its first call. -/
  once : Bool

def matches? (line : List Char) (response : Response) : Bool :=
  Text.occurs response.needle.toList line

def notFound (command : Command) : Completion :=
  ⟨"sh: 1: " ++ command.program ++ ": not found\n", 127⟩

def refused : OsError := .other "scripted spawn failure"

def start (host : Host) (command : Command) (files : Files) (responses : List Response) :
    Reply × List Response :=
  let line := (command.render host).toList
  match responses.find? (matches? line) with
  | none => ({ outcome := .ok (notFound command), files }, responses)
  | some response =>
    ({ outcome := response.outcome, files },
      if response.once then responses.eraseP (matches? line) else responses)

def runner (host : Host) : Runner (List Response) := ⟨host, start host⟩

end Retrace.Script
