import Retrace.Program
import Retrace.Shell.Runner

/-!
# Command line

Takes the current directory, the files that the arguments name and the header
beside the program into a workspace, runs the program there, and carries what it
changed back to disk.
-/

namespace Retrace.Main

/-- A script asks for its interpreter and can be started; nothing else can. -/
def isScript (bytes : List UInt8) : Bool := bytes.take 2 = [35, 33]

def takeFile (files : Files) (path : String) : IO Files := do
  let bytes := (← IO.FS.readBinFile path).toList
  return files.place path bytes (isScript bytes)

/-- Takes entries of a directory with all that is below them. -/
partial def takeEntries (files : Files) (entries : List IO.FS.DirEntry) : IO Files :=
  entries.foldlM (fun files entry => do
    let path := entry.path.toString
    if ← entry.path.isDir then
      takeEntries (files.makeDir path) (← entry.path.readDir).toList
    else takeFile files path) files

def takeNamed (files : Files) (path : String) : IO Files := do
  let place := (← IO.currentDir) / path
  if path.isEmpty || !(← place.pathExists) || (← place.isDir) then return files
  takeFile files place.toString

/-- Carries the difference between two states of the files to disk, as far as it is one of
directories and plain files. -/
def carry (before after : Files) : IO Unit := do
  for (location, node) in after.nodes.mergeSort fun a b => a.1.length ≤ b.1.length do
    if before.node? location ≠ some node then
      match node with
      | .dir => IO.FS.createDirAll (Files.pathOf location)
      | .file bytes _ => IO.FS.writeBinFile (Files.pathOf location) ⟨bytes.toArray⟩
      | _ => pure ()
  for (location, node) in before.nodes do
    if (after.node? location).isNone then
      match node with
      | .dir => IO.FS.removeDirAll (Files.pathOf location)
      | .file .. => IO.FS.removeFile (Files.pathOf location)
      | _ => pure ()

def run (words : List String) : IO UInt32 := do
  let cwd ← IO.currentDir
  let program := (← IO.appPath).toString
  let tempDir := (← IO.getEnv "TMPDIR").getD "/tmp"
  let files := { (Files.standard.makeDir cwd.toString).makeDir tempDir with
    cwd := Files.standard.resolve cwd.toString }
  let files ← takeEntries files (← cwd.readDir).toList
  let headers := (CoreHeader.searchPaths ((Path.parent? program).getD "")).map
    (Path.join · CoreHeader.name)
  let files ← (words ++ headers).foldlM takeNamed files
  let environment : Program.Environment := {
    defaults := ⟨← IO.getEnv "CXIR_CXX", ← IO.getEnv "CXIR_CORE_HEADER"⟩
    logSpec := ← IO.getEnv "RUST_LOG"
    program }
  let runner := Shell.runner .posix (environment.variables tempDir)
  let outcome := Program.run runner () environment words { files, tempDir }
  carry files outcome.files
  for line in outcome.stdout do IO.println line
  for line in outcome.stderr do IO.eprintln line
  return UInt32.ofNat outcome.code

end Retrace.Main

def main (words : List String) : IO UInt32 := Retrace.Main.run words
