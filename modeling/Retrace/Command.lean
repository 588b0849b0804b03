import Retrace.Host
import Retrace.Text.Blank

/-!
# Command lines

A program, its arguments, whether its two outputs are folded into one, and the
batch script that has to run first. `render` writes it for the shell of a host.
-/

namespace Retrace

structure Command where
  program : String
  args : List String := []
  merged : Bool := false
  script : Option String := none
  deriving DecidableEq, Repr

namespace Command

def arg (command : Command) (text : String) : Command :=
  { command with args := command.args ++ [text] }

def withArgs (command : Command) (texts : List String) : Command :=
  { command with args := command.args ++ texts }

def path (command : Command) (path : String) : Command := command.arg (Path.slashed path)

def merge (command : Command) : Command := { command with merged := true }

def within (command : Command) (script : String) : Command := { command with script := some script }

def position? (command : Command) (text : String) : Option Nat := command.args.findIdx? (· == text)

def posixSafe (c : Char) : Bool := c.isAlphanum || c ∈ "-_./=:,+@%".toList

/-- A quote inside quotes closes them, stands escaped, and opens them again. -/
def posixEscape (c : Char) : List Char := if c = '\'' then ['\'', '\\', '\'', '\''] else [c]

def posixQuote (text : List Char) : List Char :=
  if !text.isEmpty && text.all posixSafe then text
  else '\'' :: text.flatMap posixEscape ++ ['\'']

def windowsUnsafe (c : Char) : Bool := Text.isBlank c || c ∈ "\"&|<>^()".toList

def windowsEscape (c : Char) : List Char := if c = '"' then ['\\', '"'] else [c]

def windowsQuote (text : List Char) : List Char :=
  if !text.isEmpty && !text.any windowsUnsafe then text
  else '"' :: text.flatMap windowsEscape ++ ['"']

def quote : Host → List Char → List Char
  | .posix => posixQuote
  | .windows => windowsQuote

def spaced : List (List Char) → List Char
  | [] => []
  | [last] => last
  | first :: others => first ++ ' ' :: spaced others

def line (command : Command) (host : Host) : List Char :=
  spaced ((command.program :: command.args).map fun word => quote host word.toList) ++
    if command.merged then " 2>&1".toList else []

def render (command : Command) (host : Host) : String :=
  let line := String.ofList (command.line host)
  match command.script with
  | none => line
  | some script => "cmd.exe /c \"call \"" ++ script ++ "\" >nul 2>&1 && " ++ line ++ "\""

end Command
end Retrace
