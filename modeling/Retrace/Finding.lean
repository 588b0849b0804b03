import Retrace.Severity

/-!
# Findings

A finding is one message as the toolchain printed it, in the coordinates of the
file the toolchain read.
-/

namespace Retrace

structure Finding where
  file : String
  line : UInt32
  /-- Zero when the toolchain printed none. -/
  column : UInt32
  severity : Severity
  /-- A vendor code such as C2143. -/
  code : Option String
  message : String
  deriving DecidableEq, Repr

end Retrace
