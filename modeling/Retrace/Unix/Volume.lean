import Retrace.Files
import Retrace.Unix.Bytes
import Std.Data.HashMap

/-!
# Volumes

The files of a running system. Every file, directory or link is an inode, and a
directory gives names to inodes, so that a file may have several names or, while
it is open, none. A path is walked name by name, through links, to a spot: a
directory, a name in it, and what is there.
-/

namespace Retrace.Unix

inductive Body where
  | dir (parent : Nat) (entries : List (Bytes × Nat))
  | file (content : ByteArray)
  | link (target : Bytes)
  | device (kind : Device)
  | pipe

def bootTime : Nat := 1763000000000000

structure Inode where
  body : Body
  mode : Nat
  changed : Nat := 0

structure Volume where
  inodes : Std.HashMap Nat Inode := {}
  fresh : Nat := 1

namespace Volume

def root : Nat := 0

def empty : Volume := { inodes := Std.HashMap.insert {} root ⟨.dir root [], 493, 0⟩ }

variable (volume : Volume)

def get? (inode : Nat) : Option Inode := volume.inodes[inode]?

def put (inode : Nat) (content : Inode) : Volume :=
  { volume with inodes := volume.inodes.insert inode content }

def make (content : Inode) : Nat × Volume :=
  (volume.fresh, { volume.put volume.fresh content with fresh := volume.fresh + 1 })

def entries (volume : Volume) (inode : Nat) : List (Bytes × Nat) :=
  match volume.get? inode with
  | some ⟨.dir _ entries, _, _⟩ => entries
  | _ => []

def parent (volume : Volume) (inode : Nat) : Nat :=
  match volume.get? inode with
  | some ⟨.dir parent _, _, _⟩ => parent
  | _ => root

def isDir (inode : Nat) : Bool :=
  match volume.get? inode with
  | some ⟨.dir .., _, _⟩ => true
  | _ => false

def enter (now dir : Nat) (name : Bytes) (inode : Nat) : Volume :=
  match volume.get? dir with
  | some ⟨.dir parent entries, mode, _⟩ =>
    volume.put dir ⟨.dir parent ((name, inode) :: entries.filter (·.1 ≠ name)), mode, now⟩
  | _ => volume

def leave (now dir : Nat) (name : Bytes) : Volume :=
  match volume.get? dir with
  | some ⟨.dir parent entries, mode, _⟩ =>
    volume.put dir ⟨.dir parent (entries.filter (·.1 ≠ name)), mode, now⟩
  | _ => volume

def add (now dir : Nat) (name : Bytes) (content : Inode) : Nat × Volume :=
  let (inode, volume) := volume.make content
  (inode, volume.enter now dir name inode)

def names (inode : Nat) : Nat :=
  volume.inodes.fold (fun count _ held =>
    match held.body with
    | .dir _ entries => count + entries.countP (·.2 = inode)
    | _ => count) 0

/-! ## Paths -/

/-- Where a path leads: a name in a directory, and what has that name. The name is empty if the
path ends with the directory itself. -/
structure Spot where
  dir : Nat
  name : Bytes
  inode : Option Nat
  slashed : Bool := false

/-- Walks segments from a directory. At a link `through` goes on, from the directory the link
is in; the last segment of all is let stand as a link unless links are to be followed. -/
def walkWith (volume : Volume) (follow : Bool)
    (through : Nat → List Bytes → Except OsError Spot) (here : Nat) :
    List Bytes → Except OsError Spot
  | [] => .ok { dir := here, name := [], inode := some here }
  | segment :: rest =>
    if segment.isEmpty || segment = ['.'] then volume.walkWith follow through here rest
    else if segment = ['.', '.'] then volume.walkWith follow through (volume.parent here) rest
    else if Files.nameLimit < segment.length then .error .nameTooLong
    else
      let slashed := !rest.isEmpty
      let ends := rest.all List.isEmpty
      match (volume.entries here).lookup segment with
      | none =>
        if ends then .ok { dir := here, name := segment, inode := none, slashed }
        else .error .notFound
      | some inode =>
        let spot : Spot := { dir := here, name := segment, inode := some inode, slashed }
        match (volume.get? inode).map Inode.body with
        | some (.link target) =>
          if rest.isEmpty && !follow then .ok spot
          else through (if target.head? = some '/' then root else here) (cutAt '/' target ++ rest)
        | some (.dir ..) => if ends then .ok spot else volume.walkWith follow through inode rest
        | _ => if rest.isEmpty then .ok spot else .error .notDirectory

def walk (volume : Volume) (follow : Bool) : Nat → Nat → List Bytes → Except OsError Spot
  | 0 => volume.walkWith follow fun _ _ => .error .linkLoop
  | links + 1 => volume.walkWith follow (volume.walk follow links)

def spot (cwd : Nat) (path : Bytes) (follow : Bool) : Except OsError Spot :=
  if path.isEmpty then .error .notFound
  else if Files.pathLimit < path.length then .error .nameTooLong
  else volume.walk follow Files.linkLimit (if path.head? = some '/' then root else cwd) (cutAt '/' path)

def find (cwd : Nat) (path : Bytes) (follow : Bool) : Except OsError Nat := do
  match (← volume.spot cwd path follow).inode with
  | some inode => return inode
  | none => throw .notFound

/-- The names from the root down to a directory, within so many steps. -/
def namesTo (volume : Volume) : Nat → Nat → List Bytes → List Bytes
  | 0, _, below => below
  | steps + 1, inode, below =>
    if inode = root then below
    else
      let parent := volume.parent inode
      match (volume.entries parent).find? (·.2 = inode) with
      | some (name, _) => volume.namesTo steps parent (name :: below)
      | none => below

def pathTo (dir : Nat) : Bytes :=
  '/' :: joined '/' (volume.namesTo volume.fresh dir [])

def listing (dir : Nat) : List (Bytes × Nat) :=
  (volume.entries dir).mergeSort fun a b => !decide (b.1 < a.1)

end Volume
end Retrace.Unix
