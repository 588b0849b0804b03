/-!
# Severities

How serious a toolchain message is. Everything a toolchain does not call an
error, a warning or a note counts as fatal, so an unfamiliar word fails the
build instead of passing unseen.
-/

namespace Retrace

inductive Severity where
  | error
  | warning
  | note
  | fatal
  deriving DecidableEq, Repr

namespace Severity

/-- The severity a category word stands for; letter case and blanks count. -/
def ofCategory (word : String) : Severity :=
  if word = "error" then .error
  else if word = "warning" then .warning
  else if word = "note" then .note
  else .fatal

def isError : Severity → Bool
  | .error | .fatal => true
  | .warning | .note => false

def label : Severity → String
  | .error => "error"
  | .warning => "warning"
  | .note => "note"
  | .fatal => "fatal"

theorem isError_eq_false_iff (severity : Severity) :
    severity.isError = false ↔ severity = .warning ∨ severity = .note := by
  cases severity <;> simp [isError]

end Severity
end Retrace
