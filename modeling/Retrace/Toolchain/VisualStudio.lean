import Retrace.Execution

/-!
# The native Windows toolchain

The compiler of Visual Studio works only inside the environment that a batch
script of its installation sets up. The installer's locator prints where that
installation is.
-/

namespace Retrace.VisualStudio

def compiler : String := "cl"

def locator : String :=
  "C:\\Program Files (x86)\\Microsoft Visual Studio\\Installer\\vswhere.exe"

def query : Command := {
  program := locator
  args := ["-latest", "-products", "*", "-requires",
    "Microsoft.VisualStudio.Component.VC.Tools.x86.x64", "-property", "installationPath"] }

def scriptPath (installation : String) : String :=
  ["VC", "Auxiliary", "Build", "vcvars64.bat"].foldl Path.join installation

def installation? (output : String) : Option String :=
  ((Text.lines output.toList).map Text.trim).find? (!·.isEmpty) |>.map String.ofList

def notFound (reason : String) : Fault := .toolchainNotFound compiler reason

def locate (machine : Machine σ) (runner : Runner σ) : Except Fault String × Machine σ :=
  match machine.run runner query with
  | (.error fault, machine) => (.error fault, machine)
  | (.ok completion, machine) =>
    if !completion.succeeded then
      (.error (notFound ("vswhere exited with " ++ toString completion.code)), machine)
    else match installation? completion.output with
      | none => (.error (notFound "no Visual Studio installation with the C++ toolset"), machine)
      | some path =>
        let machine := machine.say .debug .visualStudio ("visual studio installation: " ++ path)
        let files := machine.work.files
        (if !files.isDir path then
            .error (notFound ("installation path " ++ path ++ " does not exist"))
          else if files.pathExists (scriptPath path) then .ok (scriptPath path)
          else .error (notFound ("vcvars64.bat missing under " ++ path)),
          machine)

end Retrace.VisualStudio
