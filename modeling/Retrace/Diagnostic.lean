import Retrace.LineMap
import Retrace.Severity

/-!
# Diagnostics

A diagnostic is a finding told in terms of the user's program: whose file it is
about and what its position means there.
-/

namespace Retrace

inductive Subject where
  /-- A source of the user's. -/
  | user (path : String)
  /-- The runtime header put in front of every generated source. -/
  | core (path : String)
  /-- Any other file the toolchain named. -/
  | external (path : String)
  deriving DecidableEq, Repr

def Subject.describe : Subject → String
  | .core path => "[core-library] " ++ path
  | .user path | .external path => path

inductive Position where
  /-- A place in the user's program. -/
  | mapped (place : Place)
  /-- A place in a file the toolchain read itself. -/
  | native (place : Place)
  /-- A place in a generated source that no entry of its map leads back from. -/
  | other (place : Place)
  deriving DecidableEq, Repr

def Place.describe (place : Place) : String :=
  toString place.line.toNat ++ ":" ++ toString place.column.toNat

namespace Position

def place : Position → Place
  | .mapped place | .native place | .other place => place

def isMapped : Position → Bool
  | .mapped _ => true
  | _ => false

def describe : Position → String
  | .mapped place | .native place => place.describe
  | .other place => place.describe ++ " <other>"

end Position

structure Diagnostic where
  severity : Severity
  message : String
  code : Option String
  subject : Subject
  position : Position
  deriving DecidableEq, Repr

namespace Diagnostic

def isError (diagnostic : Diagnostic) : Bool := diagnostic.severity.isError

def errorCount (diagnostics : List Diagnostic) : Nat := diagnostics.countP isError

/-- One diagnostic of that kind fails the build, whatever the toolchain's exit code. -/
def anyError (diagnostics : List Diagnostic) : Bool := diagnostics.any isError

theorem anyError_iff (diagnostics : List Diagnostic) :
    anyError diagnostics = true ↔ 0 < errorCount diagnostics := by
  simp [anyError, errorCount, List.countP_pos_iff]

end Diagnostic
end Retrace
