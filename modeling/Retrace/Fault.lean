import Retrace.OsError
import Retrace.Toolchain.Family

/-!
# Faults

What can end a build without a verdict. A rejected program is a fault only once
all of its diagnostics have been reported.
-/

namespace Retrace

structure JobId where
  index : Nat
  deriving DecidableEq, Repr

/-- Why a text is not a line map: it stops early, it is not JSON, or it is JSON of
another shape. -/
inductive MapError where
  | truncated
  | malformed
  | mismatched
  deriving DecidableEq, Repr

def MapError.message : MapError → String
  | .truncated => "the text ends early"
  | .malformed => "the text is not JSON"
  | .mismatched => "the JSON is not a line map"

inductive Fault where
  | toolchainNotFound (compiler reason : String)
  | missingRuntime (header : String)
  | notStarted (command : String) (cause : OsError)
  /-- `detail` names the full path where the cause alone does not. -/
  | io (path : String) (cause : OsError) (detail : String)
  | rejected (errors : Nat)
  | unsupportedFamily (family : Family)
  | unknownJob (id : JobId)
  | lineMap (path : String) (cause : MapError)
  deriving DecidableEq, Repr

def Fault.message : Fault → String
  | .toolchainNotFound compiler reason =>
    "no usable C++ toolchain found (" ++ compiler ++ "): " ++ reason
  | .missingRuntime header => "core runtime header not found: " ++ header
  | .notStarted command cause => "failed to spawn \x60" ++ command ++ "\x60: " ++ cause.message
  | .io path cause detail => "I/O error on " ++ path ++ ": " ++ cause.message ++ detail
  | .rejected errors => "compilation failed with " ++ toString errors ++ " error(s)"
  | .unsupportedFamily family =>
    "no flag spellings are known for the " ++ family.name ++ " toolchain family"
  | .unknownJob id =>
    "compile action ActionId(" ++ toString id.index ++ ") is not registered in this build"
  | .lineMap path cause => "invalid line map " ++ path ++ ": " ++ cause.message

end Retrace
