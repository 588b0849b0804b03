import Retrace.Finding.Output

/-!
# Toolchain families

A family is recognised by what its version banner says, and decides which
spelling of each option it is given and how its findings are read.
-/

namespace Retrace

inductive Family where
  | gcc
  | clang
  | msvc
  | mingw
  | unknown
  deriving DecidableEq, Repr

namespace Family

def name : Family → String
  | .gcc => "gcc"
  | .clang => "clang"
  | .msvc => "msvc"
  | .mingw => "mingw"
  | .unknown => "unknown"

/-- The words that give a family away, in the order they are looked for. A MinGW
banner names GCC too, so its own word goes first. -/
def tokens : List (String × Family) := [
  ("clang", .clang), ("mingw", .mingw), ("gcc", .gcc), ("g++", .gcc),
  ("free software foundation", .gcc), ("msvc", .msvc), ("microsoft", .msvc)]

def ofBanner (banner : String) : Family :=
  let text := banner.toList.map Char.toLower
  match tokens.find? fun (word, _) => Text.occurs word.toList text with
  | some (_, family) => family
  | none => .unknown

/-- How the family prints its findings; none means its output is shown as it is. -/
def lineStyle : Family → Option LineStyle
  | .gcc | .clang | .mingw => some .gnu
  | .msvc => some .msvc
  | .unknown => none

/-- The family whose spellings are used: an unknown driver is addressed as GCC. -/
def dialect : Family → Family
  | .unknown => .gcc
  | known => known

def formatsFindings : Family → Bool
  | .unknown => false
  | _ => true

theorem dialect_ne_unknown (family : Family) : family.dialect ≠ .unknown := by
  cases family <;> simp [dialect]

end Family
end Retrace
