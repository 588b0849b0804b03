import Retrace.Fault

/-!
# Compiler options

Every option the driver passes, spelled for each family. An empty spelling means
that the family has no such option and none is passed.
-/

namespace Retrace

inductive Flag where
  | debugInfo
  | optimizeMax
  | forceCxx
  | stdCxx23
  | exceptions
  | includeHeader
  | warnAll
  | output
  | syntaxOnly
  | runtimeLibraryPath
  | noColor
  | noFixit
  | absolutePaths
  | noLineNumbers
  | noOptionNames
  | caretMaxLines
  | noElideType
  | linkTimeOptimization
  deriving DecidableEq, Repr

namespace Flag

def spellings : Flag → String × String × String × String
  | .debugInfo => ("-g -g3", "-g -g3", "/Zi", "-g -g3")
  | .optimizeMax => ("-O3", "-O3", "/O2", "-O3")
  | .forceCxx => ("-xc++", "-xc++", "/TP", "-xc++")
  | .stdCxx23 => ("-std=c++23", "-std=c++23", "/std:c++latest", "-std=c++23")
  | .exceptions => ("-fexceptions", "-fexceptions", "/EHsc", "-fexceptions")
  | .includeHeader => ("-include", "-include", "/FI", "-include")
  | .warnAll => ("-Wall", "-Wall", "/W4", "-Wall")
  | .output => ("-o", "-o", "/Fe:", "-o")
  | .syntaxOnly => ("-fsyntax-only", "-fsyntax-only", "/Zs", "-fsyntax-only")
  | .runtimeLibraryPath =>
    ("-Wl,-w,-rpath,/usr/local/lib", "-Wl,-w,-rpath,/usr/local/lib", "",
      "-Wl,-w,-rpath,/usr/local/lib")
  | .noColor =>
    ("-fdiagnostics-color=never", "-fno-color-diagnostics", "", "-fdiagnostics-color=never")
  | .noFixit =>
    ("-fno-diagnostics-show-caret", "-fno-diagnostics-fixit-info", "",
      "-fno-diagnostics-show-caret")
  | .absolutePaths => ("", "-fdiagnostics-absolute-paths", "/FC", "")
  | .noLineNumbers =>
    ("-fno-diagnostics-show-line-numbers", "-fno-diagnostics-show-line-numbers", "",
      "-fno-diagnostics-show-line-numbers")
  | .noOptionNames =>
    ("-fno-diagnostics-show-option", "-fno-diagnostics-show-option", "",
      "-fno-diagnostics-show-option")
  | .caretMaxLines => ("", "-fcaret-diagnostics-max-lines=0", "/diagnostics:classic", "")
  | .noElideType => ("-fno-elide-type", "-fno-elide-type", "", "-fno-elide-type")
  | .linkTimeOptimization => ("-flto", "-flto", "", "-flto")

def battery : List Flag := [
  .noColor, .noFixit, .absolutePaths, .noLineNumbers, .noOptionNames, .caretMaxLines,
  .noElideType, .linkTimeOptimization]

def spelling (flag : Flag) (family : Family) : Except Fault String :=
  let (gcc, clang, msvc, mingw) := flag.spellings
  match family with
  | .gcc => .ok gcc
  | .clang => .ok clang
  | .msvc => .ok msvc
  | .mingw => .ok mingw
  | .unknown => .error (.unsupportedFamily family)

def arguments (flag : Flag) (family : Family) : Except Fault (List String) :=
  (flag.spelling family).map fun spelling => (Text.words spelling.toList).map String.ofList

theorem spelling_ok (flag : Flag) {family : Family} (h : family ≠ .unknown) :
    ∃ text, flag.spelling family = .ok text := by
  cases family <;> first | exact ⟨_, rfl⟩ | exact absurd rfl h

end Flag
end Retrace
