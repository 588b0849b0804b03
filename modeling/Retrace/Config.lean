import Retrace.Arguments
import Retrace.Build
import Retrace.CoreHeader
import Retrace.LineMap.Decoder

/-!
# Configurations

What one build is made of: its units, each a generated source with the program
it came from and perhaps a line map, and the options they share. Line maps and
sources are given for every unit or for none.
-/

namespace Retrace

structure UnitFiles where
  generated : String
  source : String
  lineMap : Option String
  deriving DecidableEq, Repr

/-- Files given for some units only. -/
structure Mismatch where
  kind : String
  given : Nat
  units : Nat
  deriving DecidableEq, Repr

def Mismatch.message (mismatch : Mismatch) : String :=
  toString mismatch.given ++ " " ++ mismatch.kind ++ " file(s) given for " ++
    toString mismatch.units ++ " generated source(s)"

structure Config where
  /-- The entry of the program comes first. -/
  units : List UnitFiles
  output : Option String := none
  compiler : Option String := none
  coreHeader : Option String := none
  cxxArgs : List String := []
  switches : Switches := {}
  dryRun : Bool := false
  policy : Policy := .exact
  deriving DecidableEq, Repr

def perUnit (kind : String) (given : List String) (units : Nat) :
    Except Mismatch (List (Option String)) :=
  if given.isEmpty then .ok (List.replicate units none)
  else if given.length = units then .ok (given.map some)
  else .error ⟨kind, given.length, units⟩

def Arguments.config (args : Arguments) : Except Mismatch Config := do
  let count := args.generated.length
  let maps ← perUnit "line-map" args.lineMaps count
  let sources ← perUnit "source" args.sources count
  return {
    units := (args.generated.zip (maps.zip sources)).map fun (generated, lineMap, source) =>
      { generated, source := source.getD generated, lineMap }
    output := args.output
    compiler := args.compiler.filter fun name => !Text.allBlank name.toList
    coreHeader := args.coreHeader
    cxxArgs := args.cxxArgs
    switches := ⟨args.debug, args.verbose⟩
    dryRun := args.dryRun
    policy := args.policy.getD .exact }

namespace Config

def options (config : Config) (host : Host) (installed : Option String) : Options := {
  compiler := config.compiler
  coreHeader := (config.coreHeader.or installed).getD CoreHeader.name
  dryRun := config.dryRun
  policy := config.policy
  host }

def readSource (files : Files) (path : String) : Except Fault String :=
  match files.readText path with
  | .ok text => .ok text
  | .error cause => .error (.io path cause "")

def readMap (files : Files) (path : String) : Except Fault LineMap := do
  match LineMap.parse (← readSource files path) with
  | .ok map => return map
  | .error cause => throw (.lineMap path cause)

def order (config : Config) (files : Files) (output : String) (unit : UnitFiles) :
    Except Fault Order := do
  let text ← readSource files unit.generated
  let map ← match unit.lineMap with
    | some path => readMap files path
    | none => pure {}
  return { Order.plain files text unit.source with output, switches := config.switches, map }

/-- All units share one output: the one given, or the one named after the entry. -/
def binary (config : Config) (host : Host) : String :=
  config.output.getD (match config.units with
    | entry :: _ => host.defaultOutput entry.source
    | [] => "")

/-- The orders of all units in turn. Arguments for the compiler go with the entry. -/
def orders (config : Config) (files : Files) (host : Host) : Except Fault (List Order) := do
  match ← config.units.mapM (config.order files (config.binary host)) with
  | entry :: others => return { entry with extraArgs := config.cxxArgs } :: others
  | [] => return []

end Config
end Retrace
