import Retrace.Shell.Builtin.Basic

/-!
# Builtins for aliases
-/

namespace Retrace.Shell.Builtin

open Unix Step

def aliasRow (entry : Alias) : Bytes := entry.name ++ '=' :: quoted entry.text ++ ['\n']

def setAlias (session : Session) (name text : Bytes) : Session :=
  let renewed := session.aliases.map fun entry => if entry.name = name then ⟨name, text⟩ else entry
  { session with
    aliases := if session.aliases.any (·.name = name) then renewed else renewed ++ [⟨name, text⟩] }

def aliasAll (success : Bool) : List Bytes → Step Flow
  | [] => answer success
  | word :: rest => do
    let name := word.take 1 ++ (word.drop 1).takeWhile (· ≠ '=')
    match word.drop name.length with
    | _ :: text =>
      modify fun session => setAlias session name text
      aliasAll success rest
    | [] =>
      match (← get).aliases.find? (·.name = word) with
      | some entry =>
        say (aliasRow entry)
        aliasAll success rest
      | none =>
        write 2 ("alias: " ++ word ++ " not found\n")
        aliasAll false rest

def aliasing : Builtin := fun arguments => do
  if arguments.isEmpty then
    let sorted := (← get).aliases.mergeSort fun a b => tableKey a.name ≤ tableKey b.name
    saying (sorted.flatMap aliasRow)
  else aliasAll true arguments

def unalias : Builtin :=
  withLetters ['a'] fun letters operands => do
    let session ← get
    if letters.contains 'a' then
      set { session with aliases := [] }
      answer true
    else
      let unknown := operands.filter fun word => !session.aliases.any (·.name = word)
      let aliases := session.aliases.filter fun entry => !operands.contains entry.name
      set { session with aliases }
      let text := unknown.flatMap fun word => ofString "unalias: " ++ word ++ ofString " not found\n"
      write 2 text
      answer unknown.isEmpty

end Retrace.Shell.Builtin
