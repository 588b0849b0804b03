import Retrace.Unix.Process

/-!
# The status of files

What a process can find out about the file at a path without opening it.
-/

namespace Retrace.Unix

def descriptorPath? (path : Bytes) : Option Nat :=
  match String.ofList path with
  | "/dev/stdin" => some 0
  | "/dev/stdout" => some 1
  | "/dev/stderr" => some 2
  | _ =>
    ["/dev/fd/", "/proc/self/fd/"].findSome? fun lead =>
      let digits := path.drop lead.length
      if lead.toList.isPrefixOf path && !digits.isEmpty && digits.all Char.isDigit then
        some (Text.digitsValue digits)
      else none

namespace View

variable (view : View)

def openStatus (file : OpenFile) : Nat × Inode :=
  match file.target with
  | .inode inode => (inode, (view.volume.get? inode).getD ⟨.file .empty, 384, 0⟩)
  | .pipe id => (1000000 + id, ⟨.pipe, 384, 0⟩)
  | .output id => (2000000 + id, ⟨.pipe, 384, 0⟩)

def status (path : Bytes) (follow : Bool) : Except OsError (Nat × Inode) :=
  match if follow then descriptorPath? path else none with
  | some fd =>
    match view.files.lookup fd with
    | some file => .ok (view.openStatus file)
    | none => .error .notFound
  | none => do
    let inode ← view.volume.find view.cwd path follow
    match view.volume.get? inode with
    | some held => return (inode, held)
    | none => throw .notFound

def body? (path : Bytes) (follow : Bool) : Option Body :=
  match view.status path follow with
  | .ok (_, held) => some held.body
  | .error _ => none

def pathExists (path : Bytes) (follow : Bool) : Bool :=
  (view.body? path follow).isSome

def isDir (path : Bytes) : Bool :=
  match view.body? path true with
  | some (.dir ..) => true
  | _ => false

def isFile (path : Bytes) : Bool :=
  match view.body? path true with
  | some (.file _) => true
  | _ => false

def here : Bytes := view.volume.pathTo view.cwd

end View

namespace Body

def size : Body → Nat
  | .file content => content.size
  | .link target => target.length
  | .dir _ _ => 4096
  | _ => 0

end Body

namespace Inode

def isExecutable (inode : Inode) : Bool :=
  match inode.body with
  | .dir .. => true
  | _ => inode.mode &&& 73 ≠ 0

end Inode
end Retrace.Unix
