import Retrace.Path

/-!
# Hosts and switches

The machine a build runs on decides how commands are quoted and how executables
are called. The switches come from the front end.
-/

namespace Retrace

inductive Host where
  | posix
  | windows
  deriving DecidableEq, Repr

namespace Host

def isWindows : Host → Bool
  | .windows => true
  | .posix => false

/-- The parts of a target triple after the architecture name the system. -/
def ofTriple (triple : String) : Host :=
  let parts := Path.segments (triple.toList.map fun c => if c = '-' then '/' else c)
  if "windows".toList ∈ parts.drop 1 then .windows else .posix

def exeSuffix : Host → String
  | .posix => ""
  | .windows => ".exe"

/-- The name of the binary: the stem of the user's source, or `a` when it has none. -/
def defaultOutput (host : Host) (source : String) : String :=
  (Path.fileStem? source).getD "a" ++ host.exeSuffix

end Host

structure Switches where
  debug : Bool := false
  verbose : Bool := false
  deriving DecidableEq, Repr

namespace Switches

def bits (switches : Switches) : Nat := switches.debug.toNat + 2 * switches.verbose.toNat

def describe (switches : Switches) : String :=
  match switches.debug, switches.verbose with
  | false, false => "CompileFlags(0x0)"
  | true, false => "CompileFlags(DEBUG)"
  | false, true => "CompileFlags(VERBOSE)"
  | true, true => "CompileFlags(DEBUG | VERBOSE)"

end Switches
end Retrace
