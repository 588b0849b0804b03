import Retrace.Unix.Volume

/-!
# Changes of a volume

What processes do to names: making and removing directories, files and links, and
moving what has a name. `now` is the time of the change.
-/

namespace Retrace.Unix.Volume

variable (volume : Volume)

def vacant (cwd : Nat) (path : Bytes) : Except OsError Spot := do
  let spot ← volume.spot cwd path false
  if spot.name.isEmpty || spot.inode.isSome then throw .alreadyThere
  return spot

def makeDir (now cwd : Nat) (path : Bytes) (mode : Nat) :
    Except OsError Volume := do
  let spot ← volume.vacant cwd path
  return (volume.add now spot.dir spot.name ⟨.dir spot.dir [], mode, now⟩).2

def makeNode (now cwd : Nat) (path : Bytes) (body : Body) (mode : Nat) :
    Except OsError Volume := do
  let spot ← volume.vacant cwd path
  if spot.slashed then throw .notFound
  return (volume.add now spot.dir spot.name ⟨body, mode, now⟩).2

def makeLink (now cwd : Nat) (target path : Bytes) : Except OsError Volume :=
  if target.isEmpty then .error .notFound else volume.makeNode now cwd path (.link target) 511

def addName (now cwd : Nat) (source path : Bytes) (follow : Bool) :
    Except OsError Volume := do
  let inode ← volume.find cwd source follow
  let spot ← volume.vacant cwd path
  if volume.isDir inode then throw .notPermitted
  if spot.slashed then throw .notFound
  return volume.enter now spot.dir spot.name inode

def unlink (now cwd : Nat) (path : Bytes) : Except OsError Volume := do
  let spot ← volume.spot cwd path false
  match spot.inode with
  | none => throw .notFound
  | some inode =>
    if volume.isDir inode then throw .isDirectory
    return volume.leave now spot.dir spot.name

def removeDir (now cwd : Nat) (path : Bytes) : Except OsError Volume := do
  let spot ← volume.spot cwd path false
  match spot.inode with
  | none => throw .notFound
  | some inode =>
    if !volume.isDir inode then throw .notDirectory
    if spot.name.isEmpty then
      throw (if inode = root then .busy else if path.getLast? = some '.' && !("..".toList.isSuffixOf path)
        then .invalid else .notEmpty)
    if !(volume.entries inode).isEmpty then throw .notEmpty
    return volume.leave now spot.dir spot.name

def isBelow (volume : Volume) (top : Nat) : Nat → Nat → Bool
  | 0, _ => false
  | steps + 1, inode => inode = top || (inode ≠ root && volume.isBelow top steps (volume.parent inode))

def rename (now cwd : Nat) (source target : Bytes) : Except OsError Volume := do
  let first ← volume.spot cwd source false
  let second ← volume.spot cwd target false
  match first.inode with
  | none => throw .notFound
  | some inode =>
    if first.name.isEmpty || second.name.isEmpty then throw .busy
    let moved := volume.isDir inode
    if !moved && (first.slashed || second.slashed) then throw .notDirectory
    if moved && volume.isBelow inode (volume.fresh + 1) second.dir then throw .invalid
    match second.inode with
    | some held =>
      if held = inode then return volume
      if volume.isDir held then
        if !moved then throw .isDirectory
        if !(volume.entries held).isEmpty then throw .notEmpty
      else if moved then throw .notDirectory
    | none => pure ()
    let volume := (volume.leave now first.dir first.name).enter now second.dir second.name inode
    match volume.get? inode with
    | some ⟨.dir _ entries, mode, changed⟩ =>
      return volume.put inode ⟨.dir second.dir entries, mode, changed⟩
    | _ => return volume

def setMode (inode mode : Nat) : Volume :=
  match volume.get? inode with
  | some held => volume.put inode { held with mode }
  | none => volume

def setChanged (inode changed : Nat) : Volume :=
  match volume.get? inode with
  | some held => volume.put inode { held with changed }
  | none => volume

def setContent (now inode : Nat) (content : ByteArray) : Volume :=
  match volume.get? inode with
  | some ⟨.file _, mode, _⟩ => volume.put inode ⟨.file content, mode, now⟩
  | _ => volume

end Retrace.Unix.Volume
