import Retrace.Files.Standard
import Retrace.Unix.Status

/-!
# Starting programs

A program takes the place of the process that starts it. What a file holds decides
what runs: a program of the machine, or a program that reads the file. Starting
gives an answer only if it fails.
-/

namespace Retrace.Unix

abbrev Environment := List (Bytes × Bytes)

abbrev Exec := Bytes → List Bytes → Environment → Program OsError

abbrev Tool := List Bytes → Environment → Program Ending

namespace Exec

def wordLimit : Nat := 131072

def totalLimit : Nat := 2097152

def isTooLong (words : List Bytes) (env : Environment) : Bool :=
  let sizes := words.map (·.length + 1) ++
    env.map fun (name, value) => name.length + value.length + 2
  sizes.any (wordLimit < ·) || totalLimit < (sizes.map (· + 8)).foldl (· + ·) 0

def interpreter (text : Bytes) : Option (Bytes × List Bytes) :=
  match text with
  | '#' :: '!' :: rest =>
    let isGap := fun c : Char => c = ' ' || c = '\t'
    let line := ((rest.take 254).takeWhile (· ≠ '\n')).dropWhile isGap
    let line := (line.reverse.dropWhile isGap).reverse
    let name := line.takeWhile fun c => !isGap c
    let argument := (line.dropWhile fun c => !isGap c).dropWhile isGap
    if name.isEmpty then none else some (name, if argument.isEmpty then [] else [argument])
  | _ => none

def content (view : View) (path : Bytes) : Except OsError ByteArray := do
  match ← view.status path true with
  | (_, held) =>
    match held.body with
    | .file content => if held.isExecutable then return content else throw .denied
    | _ => throw .denied

/-- Starts a file, through at most so many interpreters, given the programs of the machine. -/
def within (tool? : String → Option Tool) : Nat → Exec
  | 0, _, _, _ => return .linkLoop
  | hops + 1, path, words, env => do
    match content (← Program.look) path with
    | .error cause => return cause
    | .ok content =>
      if isTooLong words env then return .argumentsTooLong
      let start := (content.extract 0 256).toList
      match Files.programName? start with
      | some name =>
        match tool? (toText (ofBytes name)) with
        | some tool => do
          Program.ask .become
          Program.finish (← tool words env)
        | none => return .badExecutable
      | none =>
        match interpreter (ofBytes start) with
        | some (name, arguments) =>
          within tool? hops name (name :: arguments ++ path :: words.drop 1) env
        | none => return .badExecutable

def searchPath (env : Environment) : List Bytes :=
  match env.lookup "PATH".toList with
  | some text => cutAt ':' text
  | none => ["/bin".toList, "/usr/bin".toList]

def under (directory name : Bytes) : Bytes :=
  if directory.isEmpty then name
  else if directory.getLast? = some '/' then directory ++ name
  else directory ++ '/' :: name

/-- The shell that reads files which say nothing about what reads them. -/
def standardShell : Bytes := "/bin/sh".toList

def script (exec : Exec) (path : Bytes) (words : List Bytes) (env : Environment) :
    Program OsError := do
  match ← exec path words env with
  | .badExecutable => exec standardShell (standardShell :: path :: words.drop 1) env
  | cause => return cause

/-- Starts the first file of a name in some directories. `refusal` is why none could be so far. -/
def along (exec : Exec) (words : List Bytes) (env : Environment) (refusal : OsError) :
    List Bytes → Program OsError
  | [] => return refusal
  | directory :: rest => do
    match ← script exec (under directory (words.headD [])) words env with
    | .notFound => along exec words env refusal rest
    | .notDirectory => along exec words env refusal rest
    | .denied => along exec words env .denied rest
    | cause => return cause

def named (exec : Exec) (words : List Bytes) (env : Environment) : Program OsError :=
  let name := words.headD []
  if name.isEmpty then return .notFound
  else if name.contains '/' then script exec name words env
  else along exec words env .notFound (searchPath env)

end Exec
end Retrace.Unix
