import Retrace.Shell.Options
import Retrace.Shell.Step

/-!
# Builtin commands

What all commands of the shell itself share. A builtin gets its words without its
name, which the session knows for its messages.
-/

namespace Retrace.Shell

open Unix Step

abbrev Builtin := List Bytes → Step Flow

namespace Builtin

def withLetters (known : Bytes) (run : Bytes → Builtin) : Builtin := fun arguments =>
  match cutLetters known arguments with
  | .ok (letters, operands) => run letters operands
  | .error letter => aborting (illegalOption letter)

def saying (text : Bytes) : Step Flow := do
  say text
  answer true

def quoted (text : Bytes) : Bytes :=
  '\'' :: body false text
where
  body (marks : Bool) : Bytes → Bytes
    | [] => [if marks then '\x22' else '\'']
    | '\'' :: rest =>
      if marks then '\'' :: body true rest else '\'' :: '\x22' :: '\'' :: body true rest
    | c :: rest =>
      if marks then '\x22' :: '\'' :: c :: body false rest else c :: body false rest

def cutSetting (argument : Bytes) : Bytes × Option Bytes :=
  match argument.dropWhile (· ≠ '=') with
  | _ :: value => (argument.takeWhile (· ≠ '='), some value)
  | [] => (argument, none)

end Builtin
end Retrace.Shell
