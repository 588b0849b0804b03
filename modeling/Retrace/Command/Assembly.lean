import Retrace.Command
import Retrace.Toolchain.Flag

/-!
# The compile command

One command compiles the whole program. Its order is fixed: runtime header,
debug or optimisation, language, exceptions, the battery, the library path on
POSIX hosts, warnings, output or syntax check, the other sources, the extra
arguments and last the unit's own source.
-/

namespace Retrace

structure Assembly where
  family : Family
  compiler : String
  coreHeader : String
  switches : Switches := {}
  dryRun : Bool := false
  host : Host
  output : String
  /-- The generated sources of the other units, in roster order. -/
  others : List String := []
  extraArgs : List String := []
  source : String
  script : Option String := none
  deriving DecidableEq, Repr

namespace Assembly

inductive Item where
  | flag (flag : Flag)
  | path (path : String)
  | text (text : String)
  deriving DecidableEq, Repr

def Item.arguments (dialect : Family) : Item → Except Fault (List String)
  | .flag own => own.arguments dialect
  | .path given => .ok [Path.slashed given]
  | .text given => .ok [given]

def options (a : Assembly) : List Item :=
  [.flag .includeHeader, .path a.coreHeader,
    .flag (if a.switches.debug then .debugInfo else .optimizeMax),
    .flag .forceCxx, .flag .stdCxx23, .flag .exceptions] ++
  (if a.family.formatsFindings then Flag.battery.map .flag else []) ++
  (if a.host.isWindows then [] else [.flag .runtimeLibraryPath]) ++
  [.flag .warnAll] ++
  (if a.dryRun then [.flag .syntaxOnly] else [.flag .output, .path a.output])

def items (a : Assembly) : List Item :=
  a.options ++ a.others.map .path ++ a.extraArgs.map .text ++ [.path a.source]

/-- The command. Inside a batch script the shell that runs it folds nothing. -/
def command (a : Assembly) : Except Fault Command := do
  let args ← a.items.mapM (Item.arguments a.family.dialect)
  return {
    program := a.compiler
    args := args.flatten
    merged := a.script.isNone
    script := a.script }

end Assembly
end Retrace
