import Retrace.OsError
import Retrace.Path
import Retrace.Text.Utf8

/-!
# Files

A file system as a value: a current directory and the nodes below the root. Names
are bytes; a path that is text stands for its UTF-8 bytes. Paths are walked name by
name, every one but the last has to be a directory, and links are followed on the
way. No file has two names, and nobody is denied anything. `node?` is the view the
laws speak of.
-/

namespace Retrace

/-- A path as the system takes it: bytes that need not be text. -/
structure OsPath where
  bytes : List UInt8
  deriving DecidableEq, Repr

namespace OsPath

def ofText (path : String) : OsPath := ⟨Text.Utf8.encode path.toList⟩

instance : Coe String OsPath := ⟨ofText⟩

def text (path : OsPath) : String := String.ofList (Text.Utf8.decodeLossy path.bytes)

end OsPath

/-- The names from the root down. The root itself has none. -/
abbrev Location := List (List UInt8)

inductive Device where
  | null
  | zero
  | full
  | random
  | terminal
  deriving DecidableEq, Repr

inductive Node where
  | dir
  | file (bytes : List UInt8) (executable : Bool)
  /-- A symbolic link, with the path it leads to. -/
  | link (target : List UInt8)
  | device (kind : Device)
  /-- A pipe with a name. -/
  | pipe
  deriving DecidableEq, Repr

structure Files where
  cwd : Location := []
  nodes : List (Location × Node) := []
  /-- The most bytes that the disk takes for a file. -/
  room : Option Nat := none
  deriving DecidableEq, Repr

namespace Files

def node? (files : Files) (location : Location) : Option Node :=
  if location = [] then some .dir else (files.nodes.find? (·.1 = location)).map (·.2)

def put (files : Files) (location : Location) (node : Node) : Files :=
  { files with nodes := (location, node) :: files.nodes.filter (·.1 ≠ location) }

def erase (files : Files) (location : Location) : Files :=
  { files with nodes := files.nodes.filter (·.1 ≠ location) }

theorem node?_put {location : Location} (h : location ≠ []) (files : Files) (node : Node)
    (other : Location) :
    (files.put location node).node? other =
      if other = location then some node else files.node? other := by
  by_cases ho : other = location
  · subst ho; simp [node?, put, h]
  · by_cases hn : other = []
    · simp [node?, hn, Ne.symm h]
    · simp only [node?, put, hn, ho, if_false, List.find?_cons, Ne.symm ho, decide_false,
        List.find?_filter]
      congr 2
      funext a
      by_cases ha : a.1 = other <;> simp [ha, ho]

def nameLimit : Nat := 255

def pathLimit : Nat := 4095

def linkLimit : Nat := 40

def segments : List UInt8 → List (List UInt8)
  | [] => [[]]
  | byte :: rest =>
    if byte = 47 then [] :: segments rest
    else match segments rest with
      | [] => [[byte]]
      | first :: others => (byte :: first) :: others

def segmentsOf (path : String) : List (List UInt8) :=
  (Path.segments path.toList).map Text.Utf8.encode

def isIdle (segment : List UInt8) : Bool := segment.isEmpty || segment = [46]

def isUpward (segment : List UInt8) : Bool := segment = [46, 46]

/-- Walks segments from a location. What is walked through has to be a directory; where the
walk ends nothing need be. At a link `through` goes on, from the directory the link is in; the
last segment of all is let stand as a link unless links are to be followed to the end. -/
def walkWith (files : Files) (follow : Bool)
    (through : Location → List (List UInt8) → Except OsError Location) (here : Location) :
    List (List UInt8) → Except OsError Location
  | [] => .ok here
  | segment :: rest =>
    match files.node? here with
    | none => .error .notFound
    | some .dir =>
      if isIdle segment then files.walkWith follow through here rest
      else if isUpward segment then files.walkWith follow through here.dropLast rest
      else if nameLimit < segment.length then .error .nameTooLong
      else
        let next := here ++ [segment]
        match files.node? next with
        | some (.link target) =>
          if rest.isEmpty && !follow then .ok next
          else through (if target.head? = some 47 then [] else here) (segments target ++ rest)
        | _ => files.walkWith follow through next rest
    | some _ => .error .notDirectory

def walk (files : Files) (follow : Bool) :
    Nat → Location → List (List UInt8) → Except OsError Location
  | 0 => files.walkWith follow fun _ _ => .error .linkLoop
  | links + 1 => files.walkWith follow (files.walk follow links)

/-- The location a path leads to. A link that the path ends with is followed, or stands for
itself. Nothing looks inside but the laws of paths. -/
@[irreducible] def locateOs (files : Files) (path : OsPath) (follow : Bool) :
    Except OsError Location :=
  if path.bytes.isEmpty then .error .notFound
  else if path.bytes.contains 0 then .error .nulInName
  else if pathLimit < path.bytes.length then .error .nameTooLong
  else files.walk follow linkLimit (if path.bytes.head? = some 47 then [] else files.cwd)
    (segments path.bytes)

@[irreducible] def locate (files : Files) (path : String) (follow : Bool) :
    Except OsError Location :=
  files.locateOs path follow

def pathOf (location : Location) : String :=
  "/" ++ "/".intercalate (location.map fun name => String.ofList (Text.Utf8.decodeLossy name))

def cwdPath (files : Files) : String := pathOf files.cwd

def lookup (files : Files) (path : String) : Except OsError Node := do
  match files.node? (← files.locate path true) with
  | some node => return node
  | none => throw .notFound

def pathExists (files : Files) (path : String) : Bool := (files.lookup path).isOk

def isFile (files : Files) (path : String) : Bool :=
  match files.lookup path with
  | .ok (.file ..) => true
  | _ => false

def isDir (files : Files) (path : String) : Bool :=
  match files.lookup path with
  | .ok .dir => true
  | _ => false

def canonical? (files : Files) (path : OsPath) : Option Location :=
  match files.locateOs path true with
  | .ok location => if (files.node? location).isSome then some location else none
  | .error _ => none

def read (files : Files) (path : String) : Except OsError (List UInt8) := do
  match ← files.lookup path with
  | .file bytes _ => return bytes
  | .dir => throw .isDirectory
  | .device .terminal => throw .noDevice
  | _ => return []

def readText (files : Files) (path : String) : Except OsError String := do
  match Text.Utf8.decode? (← files.read path) with
  | some text => return String.ofList text
  | none => throw .notText

def fits (files : Files) (bytes : List UInt8) : Bool := files.room.all (bytes.length ≤ ·)

/-- Replaces the content of a file or makes a new one. A file that has no room for it is left
empty. -/
def write (files : Files) (path : String) (bytes : List UInt8) : Except OsError Unit × Files :=
  match files.locate path true with
  | .error cause => (.error cause, files)
  | .ok location =>
    let fill (executable : Bool) :=
      if files.fits bytes then (.ok (), files.put location (.file bytes executable))
      else (.error .full, files.put location (.file [] executable))
    match files.node? location with
    | some .dir => (.error .isDirectory, files)
    | some (.file _ executable) => fill executable
    | some (.device .full) => (if bytes.isEmpty then .ok () else .error .full, files)
    | some (.device .terminal) => (.error .noDevice, files)
    | some _ => (.ok (), files)
    | none => fill false

def writeText (files : Files) (path text : String) : Except OsError Unit × Files :=
  files.write path (Text.Utf8.encode text.toList)

/-- Makes an empty file where there is nothing; none if something is there. -/
def create (files : Files) (path : String) : Except OsError (Option Files) := do
  let location ← files.locate path false
  match files.node? location with
  | some _ => return none
  | none => return some (files.put location (.file [] false))

def remove (files : Files) (path : String) : Except OsError Files := do
  let location ← files.locate path false
  match files.node? location with
  | none => throw .notFound
  | some .dir => throw .isDirectory
  | some _ => return files.erase location

def discard (files : Files) (path : String) : Files :=
  match files.remove path with
  | .ok files => files
  | .error _ => files

end Files
end Retrace
