import Retrace.Unix.Volume

/-!
# Volumes and files

Takes the files that a command is given into a volume, and what it leaves behind
out of it again.
-/

namespace Retrace.Unix.Volume

def bodyOf (dir : Nat) : Node → Body
  | .dir => .dir dir []
  | .file bytes _ => .file ⟨bytes.toArray⟩
  | .link target => .link (ofBytes target)
  | .device kind => .device kind
  | .pipe => .pipe

def modeOf : Node → Nat
  | .dir => 493
  | .file _ executable => if executable then 493 else 420
  | .link _ => 511
  | .device _ => 438
  | .pipe => 420

def place (volume : Volume) (here : Nat) (node : Node) : List Bytes → Volume
  | [] => volume
  | [name] =>
    if ((volume.entries here).lookup name).isSome then volume
    else (volume.add bootTime here name ⟨bodyOf here node, modeOf node, bootTime⟩).2
  | name :: rest =>
    match (volume.entries here).lookup name with
    | some inode => volume.place inode node rest
    | none => volume

def ofFiles (files : Files) : Volume :=
  let nodes := files.nodes.mergeSort fun a b => a.1.length ≤ b.1.length
  nodes.foldl (fun volume (location, node) => volume.place root node (location.map ofBytes)) empty

def descend (volume : Volume) (here : Nat) : List Bytes → Nat
  | [] => here
  | name :: rest =>
    match (volume.entries here).lookup name with
    | some inode => volume.descend inode rest
    | none => here

def nodeOf (inode : Inode) : Node :=
  match inode.body with
  | .dir .. => .dir
  | .file content => .file content.toList (inode.mode &&& 73 ≠ 0)
  | .link target => .link (toBytes target)
  | .device kind => .device kind
  | .pipe => .pipe

def nodesBelow (volume : Volume) : Nat → Nat → Location → List (Location × Node)
  | 0, _, _ => []
  | levels + 1, dir, location =>
    (volume.entries dir).flatMap fun (name, inode) =>
      match volume.get? inode with
      | none => []
      | some held =>
        let here := location ++ [toBytes name]
        (here, nodeOf held) :: match held.body with
          | .dir .. => volume.nodesBelow levels inode here
          | _ => []

def toFiles (volume : Volume) (cwd : Location) : Files :=
  { cwd, nodes := volume.nodesBelow volume.fresh root [] }

end Retrace.Unix.Volume
