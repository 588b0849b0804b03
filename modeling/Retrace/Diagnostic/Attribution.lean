import Retrace.Diagnostic
import Retrace.Files
import Retrace.Finding
import Retrace.Log

/-!
# Attribution

Takes a finding back to the user's program. The runtime header is asked first,
then the units in order, then whether the file exists at all. Only warnings and
notes are ever left out: those of the runtime header, and those about files that
are not there.
-/

namespace Retrace

structure Lowering where
  generated : OsPath
  source : String
  map : LineMap

structure Scope where
  coreHeader : OsPath
  policy : Policy
  units : List Lowering

inductive Omission where
  | coreLibrary
  | missingFile
  deriving DecidableEq, Repr

def Omission.message (finding : Finding) : Omission → String
  | .coreLibrary => "suppressed core-library " ++ finding.severity.label ++ ": " ++ finding.message
  | .missingFile =>
    "dropped " ++ finding.severity.label ++ " in missing file " ++ finding.file ++ ": " ++
      finding.message

/-- Whether two paths name one file: their forward-slash forms agree as text, or both
lead to the same place. -/
def Files.samePath (files : Files) (a b : OsPath) : Bool :=
  Path.slashed a.text = Path.slashed b.text ||
    match files.canonical? a, files.canonical? b with
    | some a, some b => a = b
    | _, _ => false

namespace Scope

def unit? (scope : Scope) (files : Files) (file : String) : Option Lowering :=
  scope.units.find? fun unit => files.samePath file unit.generated

def reported (finding : Finding) : Place := ⟨finding.line, finding.column, 1⟩

def unitPosition (scope : Scope) (unit : Lowering) (finding : Finding) : Position :=
  match unit.map.lookup finding.line scope.policy with
  | some place => .mapped place
  | none => .other (reported finding)

def site (scope : Scope) (files : Files) (finding : Finding) :
    Except Omission (Subject × Position) :=
  if files.samePath finding.file scope.coreHeader then
    if finding.severity.isError then .ok (.core finding.file, .native (reported finding))
    else .error .coreLibrary
  else match scope.unit? files finding.file with
    | some unit => .ok (.user unit.source, scope.unitPosition unit finding)
    | none =>
      if files.pathExists finding.file then
        .ok (.external finding.file, .native (reported finding))
      else if finding.severity.isError then
        .ok (.external finding.file, .other (reported finding))
      else .error .missingFile

def diagnose (scope : Scope) (files : Files) (finding : Finding) : Except Omission Diagnostic :=
  (scope.site files finding).map fun (subject, position) =>
    { severity := finding.severity, message := finding.message, code := finding.code,
      subject, position }

def diagnostics (scope : Scope) (files : Files) (findings : List Finding) : List Diagnostic :=
  findings.filterMap fun finding => (scope.diagnose files finding).toOption

def omission? (scope : Scope) (files : Files) (finding : Finding) : Option Record :=
  match scope.diagnose files finding with
  | .ok _ => none
  | .error omission => some ⟨.debug, .attribution, omission.message finding⟩

def omissions (scope : Scope) (files : Files) (findings : List Finding) : List Record :=
  findings.filterMap (scope.omission? files)

end Scope
end Retrace
