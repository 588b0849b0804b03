import Retrace.Unix.Kernel
import Retrace.Unix.Status

/-!
# Open files

Opening, reading and writing: what a request about descriptors comes to, or what
the task has to wait for.
-/

namespace Retrace.Unix

inductive Outcome (α : Type) where
  | answers (value : α)
  | stalls (on : Stall)
  | dies (signal : Nat)

namespace Kernel

abbrev Served (α : Type) := Outcome α × Kernel × Task

variable (kernel : Kernel)

def assign (task : Task) (file : OpenFile) : Served (Except OsError Nat) :=
  let (id, kernel) := kernel.newFile file
  let fd := task.free 0
  (.answers (.ok fd), kernel, task.bind fd { file := id })

def pipeOf (inode : Nat) : Nat × Kernel :=
  match kernel.named.lookup inode with
  | some id => (id, kernel)
  | none =>
    let (id, kernel) := kernel.newPipe {}
    (id, { kernel with named := (inode, id) :: kernel.named })

def openPipe (task : Task) (inode : Nat) (mode : OpenMode) :
    Served (Except OsError Nat) :=
  let (id, kernel) := kernel.pipeOf inode
  let pipe := kernel.pipes.getD id {}
  let file : OpenFile :=
    { target := .pipe id, readable := mode.readable, writable := mode.writable }
  let isOpening : Stall → Bool := fun
    | .opening held _ => held = id
    | _ => false
  let returning := match task.waited with
    | some (.opening _ seen) => some seen
    | _ => none
  match returning with
  | some seen =>
    let met := if mode.readable then pipe.writeOpenings else pipe.readOpenings
    if seen < met then kernel.assign task file else (.stalls (.opening id seen), kernel, task)
  | none =>
    let one := fun side : Bool => if side then 1 else 0
    let pipe := { pipe with
      readers := pipe.readers + one mode.readable
      writers := pipe.writers + one mode.writable
      readOpenings := pipe.readOpenings + one mode.readable
      writeOpenings := pipe.writeOpenings + one mode.writable }
    let kernel := (kernel.setPipe id pipe).wake task.time isOpening
    if mode.readable && mode.writable then kernel.assign task file
    else if mode.readable then
      if 0 < pipe.writers then kernel.assign task file
      else (.stalls (.opening id pipe.writeOpenings), kernel, task)
    else if 0 < pipe.readers then kernel.assign task file
    else (.stalls (.opening id pipe.readOpenings), kernel, task)

def openInode (task : Task) (inode : Nat) (mode : OpenMode) :
    Served (Except OsError Nat) :=
  let refuse := fun cause : OsError => (.answers (.error cause), kernel, task)
  let file : OpenFile :=
    { target := .inode inode, readable := mode.readable, writable := mode.writable
      appends := mode.appends }
  match (kernel.volume.get? inode).map Inode.body with
  | none => refuse .notFound
  | some (.dir ..) =>
    if mode.writable || mode.creates then refuse .isDirectory else kernel.assign task file
  | some (.file _) =>
    let volume :=
      if mode.truncates then kernel.volume.setContent task.time inode .empty else kernel.volume
    { kernel with volume }.assign task file
  | some (.link _) => refuse .linkLoop
  | some (.device .terminal) => refuse .noDevice
  | some (.device _) => kernel.assign task file
  | some .pipe => kernel.openPipe task inode mode

def openDescriptor (task : Task) (fd : Nat) (mode : OpenMode) :
    Served (Except OsError Nat) :=
  match kernel.file? task fd with
  | none => (.answers (.error .notFound), kernel, task)
  | some (_, held) =>
    match held.target with
    | .inode inode => kernel.openInode task inode mode
    | .output id =>
      kernel.assign task
        { target := .output id, readable := mode.readable, writable := mode.writable }
    | .pipe id =>
      let pipe := kernel.pipes.getD id {}
      let pipe := { pipe with
        readers := pipe.readers + if mode.readable then 1 else 0
        writers := pipe.writers + if mode.writable then 1 else 0 }
      (kernel.setPipe id pipe).assign task
        { target := .pipe id, readable := mode.readable, writable := mode.writable }

def openPath (task : Task) (path : Bytes) (mode : OpenMode)
    (permission : Nat) : Served (Except OsError Nat) :=
  let refuse := fun cause : OsError => (.answers (.error cause), kernel, task)
  match descriptorPath? path with
  | some fd => kernel.openDescriptor task fd mode
  | none =>
    match kernel.volume.spot task.cwd path (!mode.anew) with
    | .error cause => refuse cause
    | .ok spot =>
      if mode.creates && spot.slashed then refuse .isDirectory
      else match spot.inode with
        | some inode =>
          if mode.anew then refuse .alreadyThere else kernel.openInode task inode mode
        | none =>
          if !mode.creates then refuse .notFound
          else
            let bits := permission &&& (511 - task.mask)
            let (inode, volume) :=
              kernel.volume.add task.time spot.dir spot.name ⟨.file .empty, bits, task.time⟩
            { kernel with volume }.openInode task inode { mode with truncates := false }

def cutText (mark : Option Char) (text : Bytes) : Bytes :=
  match mark with
  | none => text
  | some mark =>
    let before := text.takeWhile (· ≠ mark)
    text.take (before.length + 1)

def noise (seed count : Nat) : Bytes :=
  (List.range count).map fun index => Char.ofNat ((seed + index) * 7919 / 13 % 256)

def read (task : Task) (fd size : Nat) (mark : Option Char) :
    Served (Except OsError Bytes) :=
  let answer := fun text : Bytes => (.answers (.ok text), kernel, task)
  match kernel.file? task fd with
  | none => (.answers (.error .badDescriptor), kernel, task)
  | some (id, file) =>
    if !file.readable then (.answers (.error .badDescriptor), kernel, task)
    else match file.target with
      | .output _ => answer []
      | .pipe pipe =>
        let held := kernel.pipes.getD pipe {}
        if held.size = 0 then
          if held.writers = 0 then answer [] else (.stalls (.input pipe), kernel, task)
        else
          let text := cutText mark (held.peek size)
          let kernel := kernel.setPipe pipe (held.drop text.length)
          (.answers (.ok text), kernel.wake task.time (· = .output pipe), task)
      | .inode inode =>
        match (kernel.volume.get? inode).map Inode.body with
        | some (.dir ..) => (.answers (.error .isDirectory), kernel, task)
        | some (.file content) =>
          let text := ofBytes (content.extract file.offset (file.offset + size)).toList
          let text := cutText mark text
          let file := { file with offset := file.offset + text.length }
          (.answers (.ok text), kernel.setFile id file, task)
        | some (.device .zero) => answer (List.replicate size '\x00')
        | some (.device .full) => answer (List.replicate size '\x00')
        | some (.device .random) => answer (noise task.time size)
        | _ => answer []

def overwrite (content : ByteArray) (offset : Nat) (text : Bytes) : ByteArray :=
  let push := fun (data : ByteArray) (text : Bytes) =>
    text.foldl (fun data c => data.push (UInt8.ofNat c.toNat)) data
  if content.size ≤ offset then
    push (push content (List.replicate (offset - content.size) '\x00')) text
  else
    push (content.extract 0 offset) text ++ content.extract (offset + text.length) content.size

def write (task : Task) (fd : Nat) (text : Bytes) :
    Served (Except OsError Nat) :=
  let refuse := fun cause : OsError => (.answers (.error cause), kernel, task)
  match kernel.file? task fd with
  | none => refuse .badDescriptor
  | some (id, file) =>
    if !file.writable then refuse .badDescriptor
    else match file.target with
      | .output output =>
        let held := (kernel.outputs.lookup output).getD []
        let outputs := (output, text :: held) :: kernel.outputs.filter (·.1 ≠ output)
        (.answers (.ok text.length), { kernel with outputs }, task)
      | .pipe pipe =>
        let held := kernel.pipes.getD pipe {}
        if held.readers = 0 then
          match task.actions.lookup 13 with
          | none => (.dies 13, kernel, task)
          | some .ignore => refuse .brokenPipe
          | some .notice =>
            (.answers (.error .brokenPipe), kernel, { task with noticed := 13 :: task.noticed })
        else
          let room := Pipe.capacity - held.size
          if room = 0 || (text.length ≤ Pipe.atomicSize && room < text.length) then
            (.stalls (.output pipe), kernel, task)
          else
            let part := text.take room
            let kernel := kernel.setPipe pipe (held.append part)
            (.answers (.ok part.length), kernel.wake task.time (· = .input pipe), task)
      | .inode inode =>
        match (kernel.volume.get? inode).map Inode.body with
        | some (.file content) =>
          let offset := if file.appends then content.size else file.offset
          let volume := kernel.volume.setContent task.time inode (overwrite content offset text)
          let file := { file with offset := offset + text.length }
          (.answers (.ok text.length), { kernel with volume }.setFile id file, task)
        | some (.device .full) => if text.isEmpty then (.answers (.ok 0), kernel, task) else refuse .full
        | _ => (.answers (.ok text.length), kernel, task)

def close (task : Task) (fd : Nat) : Served Bool :=
  match task.slot? fd with
  | none => (.answers false, kernel, task)
  | some slot => (.answers true, kernel.release task.time slot.file, task.unbind fd)

def copy (task : Task) (source target : Nat) (passing : Bool) :
    Served (Except OsError Unit) :=
  match task.slot? source with
  | none => (.answers (.error .badDescriptor), kernel, task)
  | some slot =>
    if source = target then (.answers (.ok ()), kernel, task)
    else
      let kernel := kernel.hold slot.file
      let kernel := match task.slot? target with
        | some held => kernel.release task.time held.file
        | none => kernel
      (.answers (.ok ()), kernel, task.bind target { file := slot.file, passing })

def makePipe (task : Task) : Served (Nat × Nat) :=
  let (pipe, kernel) := kernel.newPipe { readers := 1, writers := 1 }
  let (input, kernel) := kernel.newFile { target := .pipe pipe, readable := true, writable := false }
  let (output, kernel) := kernel.newFile { target := .pipe pipe, readable := false, writable := true }
  let first := task.free 0
  let task := task.bind first { file := input }
  let second := task.free 0
  (.answers (first, second), kernel, task.bind second { file := output })

def seek (task : Task) (fd offset : Nat) : Served (Except OsError Unit) :=
  match kernel.file? task fd with
  | none => (.answers (.error .badDescriptor), kernel, task)
  | some (id, file) =>
    match file.target with
    | .inode _ => (.answers (.ok ()), kernel.setFile id { file with offset }, task)
    | _ => (.answers (.error .noSeek), kernel, task)

def truncate (task : Task) (fd size : Nat) : Served (Except OsError Unit) :=
  match kernel.file? task fd with
  | none => (.answers (.error .badDescriptor), kernel, task)
  | some (_, file) =>
    match file.target with
    | .inode inode =>
      match (kernel.volume.get? inode).map Inode.body with
      | some (.file content) =>
        let content := if content.size ≤ size then overwrite content size []
          else content.extract 0 size
        let volume := kernel.volume.setContent task.time inode content
        (.answers (.ok ()), { kernel with volume }, task)
      | _ => (.answers (.error .invalid), kernel, task)
    | _ => (.answers (.error .invalid), kernel, task)

end Kernel
end Retrace.Unix
