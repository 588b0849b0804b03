import Retrace.Files

/-!
# The core runtime header

Where the header put in front of every generated source is looked for, relative
to the directory of the program itself.
-/

namespace Retrace.CoreHeader

def name : String := "core.hh"

def searchPaths (programDir : String) : List String := [
  Path.join programDir "core",
  ["..", "lib", "cxir", "core"].foldl Path.join programDir,
  ["..", "share", "cxir", "core"].foldl Path.join programDir]

/-- The first directory of the list that holds the file decides. -/
def find? (files : Files) (name : String) (dirs : List String) : Option String :=
  (dirs.map fun dir => Path.join dir name).find? files.isFile

def installed? (files : Files) (program : String) : Option String := do
  find? files name (searchPaths (← Path.parent? program))

end Retrace.CoreHeader
