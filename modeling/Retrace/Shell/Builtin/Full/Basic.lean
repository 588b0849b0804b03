import Retrace.Shell.Assignment
import Retrace.Shell.Builtin.Parameters

/-!
# Builtins of the richer shell

What they share: how options are read, and how a wrong call is answered. None of them
ends the session by a mistake; some leave the line they are in.
-/

namespace Retrace.Shell.Builtin.Full

open Unix Step

def usage (text : String) : Step Flow := do
  let name := (← get).command.getD []
  write 2 (name ++ ofString (": usage: " ++ text ++ "\n"))
  setStatus 2
  return .goes

def badOption (option : Bytes) (text : String) : Step Flow := do
  complain (option ++ ": invalid option")
  usage text

def failed (text : Bytes) : Step Flow := failing text 1

def leaving (text : Bytes) (status : Nat) : Step Flow := do
  complain text
  let _ ← flush
  setStatus status
  return .discards

def finishWith (status : Nat) : Step Flow := do
  setStatus status
  return .goes

structure Options where
  given : List (Char × Bytes) := []
  operands : List Bytes := []

namespace Options

def has (options : Options) (letter : Char) : Bool := options.given.any (·.1 = letter)

def last? (options : Options) (letter : Char) : Option Bytes :=
  (options.given.filter (·.1 = letter)).getLast?.map (·.2)

end Options

def cutWord (spec : Bytes) : Bytes → List Bytes →
    Except OptionFlaw (List (Char × Bytes) × List Bytes)
  | [], rest => .ok ([], rest)
  | letter :: more, rest =>
    match optionKind? letter spec with
    | none => .error (.unknown letter)
    | some false => (cutWord spec more rest).map fun (given, rest) => ((letter, []) :: given, rest)
    | some true =>
      if !more.isEmpty then .ok ([(letter, more)], rest)
      else match rest with
        | argument :: rest => .ok ([(letter, argument)], rest)
        | [] => .error (.noArgument letter)

def cutOptions (spec : Bytes) : Nat → List Bytes → Except OptionFlaw Options
  | 0, words => .ok { operands := words }
  | _ + 1, ['-', '-'] :: rest => .ok { operands := rest }
  | fuel + 1, ('-' :: c :: more) :: rest => do
    let (given, rest) ← cutWord spec (c :: more) rest
    let options ← cutOptions spec fuel rest
    return { options with given := given ++ options.given }
  | _ + 1, words => .ok { operands := words }

def withOptions (spec how : String) (run : Options → Step Flow) : Builtin := fun words => do
  match cutOptions spec.toList (words.length + 1) words with
  | .ok options => run options
  | .error (.unknown letter) => badOption ['-', letter] how
  | .error (.noArgument letter) =>
    complain (['-', letter] ++ ": option requires an argument")
    usage how

def integer? (text : Bytes) : Option Int :=
  match Integer.ofText? 10 text with
  | some value => some value.toInt
  | none => none

def expanding (body : Expand Flow) : Step Flow := do
  match ← body.run with
  | .ok flow => return flow
  | .error message => refused message

/-- Carries out an expansion for a builtin, which fails if something is wrong. A variable that
may not be changed is told of in the name of the session, with a status of its own. -/
def attemptingOr (lockedStatus : Nat) (body : Expand Flow) : Step Flow := do
  match ← body.run with
  | .ok flow => return flow
  | .error message =>
    let session ← get
    if session.missing || session.unwound then refused message
    else
      set { session with unsettled := false, locked := false }
      if session.locked then
        write 2 ({ session with command := none }.message message)
        finishWith lockedStatus
      else failed message

def attempting (body : Expand Flow) : Step Flow := attemptingOr 1 body

def notIdentifier (text : Bytes) : Bytes :=
  '\x60' :: text ++ "': not a valid identifier"

end Retrace.Shell.Builtin.Full
