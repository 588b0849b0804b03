import Retrace.Files

/-!
# Whole directories

Operations on everything below a directory: making one with its parents,
removing one with its contents, and listing one.
-/

namespace Retrace.Files

/-- The location a path names, whether or not anything on the way exists. -/
def resolve (files : Files) (path : String) : Location :=
  (segmentsOf path).foldl
    (fun here segment =>
      if isIdle segment then here
      else if isUpward segment then here.dropLast
      else here ++ [segment])
    (if Path.isAbsolute path then [] else files.cwd)

def makeDirs (files : Files) (done : Location) : List (List UInt8) → Files
  | [] => files
  | name :: rest =>
    let here := done ++ [name]
    let files := if (files.node? here).isSome then files else files.put here .dir
    files.makeDirs here rest

def makeDir (files : Files) (path : String) : Files := files.makeDirs [] (files.resolve path)

def placeNode (files : Files) (path : String) (node : Node) : Files :=
  let location := files.resolve path
  (files.makeDirs [] location.dropLast).put location node

def place (files : Files) (path : String) (bytes : List UInt8) (executable : Bool) : Files :=
  files.placeNode path (.file bytes executable)

def removeTree (files : Files) (path : String) : Files :=
  let location := files.resolve path
  { files with nodes := files.nodes.filter fun (other, _) => !location.isPrefixOf other }

def below (files : Files) (location : Location) : List (Location × Node) :=
  files.nodes.filterMap fun (other, node) =>
    if location.isPrefixOf other && location.length < other.length then
      some (other.drop location.length, node)
    else none

end Retrace.Files
