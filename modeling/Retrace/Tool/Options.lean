import Retrace.Tool.Basic

/-!
# Options of tools

The words of a tool are options and operands. An option is a letter after a hyphen,
or a name after two of them, which may be cut short as long as it is clear which
name is meant. Options may stand behind operands unless the first operand ends them.
-/

namespace Retrace.Tool

open Unix

inductive Valued where
  | never
  | always
  | maybe
  deriving DecidableEq, Repr

/-- The options of a tool: letters and names. A name leads to the letter it stands for, or to
itself. -/
structure Manual where
  letters : List (Char × Valued) := []
  names : List (String × Valued × String) := []
  ordered : Bool := false
  status : Nat := 1
  usage : String := ""
  signs : Bool := false

inductive Setting where
  | option (name : String) (value : Bytes)
  | flaw (text : Bytes)
  deriving Repr

namespace Manual

/-- The letters as they are written in a row: a colon behind one that takes a value, two behind
one that may. -/
def lettersOf : Bytes → List (Char × Valued)
  | c :: ':' :: ':' :: rest => (c, .maybe) :: lettersOf rest
  | c :: ':' :: rest => (c, .always) :: lettersOf rest
  | c :: rest => (c, .never) :: lettersOf rest
  | [] => []

/-- A manual of letters and names without a value of their own kind: a name takes a value as its
letter does. -/
def make (letters : String) (names : List (String × String) := []) (status : Nat := 1) : Manual :=
  let letters := lettersOf letters.toList
  { letters
    names := names.map fun (name, letter) =>
      let valued := match letter.toList with
        | [c] => (letters.lookup c).getD .never
        | _ => .never
      (name, valued, letter)
    status }

/-- A manual with names that stand for themselves, at the end those that nearly every tool has. -/
def named (manual : Manual) (names : List (String × Valued) := [])
    (common : List (String × Valued) := [("help", .never), ("version", .never)]) : Manual :=
  { manual with
    names := manual.names ++ (names ++ common).map fun (name, valued) => (name, valued, name) }

def readLetters (manual : Manual) (next : Option Bytes) : Bytes → List Setting × Nat
  | [] => ([], 0)
  | c :: rest =>
    let quoted := '\'' :: c :: ['\'']
    match if c = ':' then none else manual.letters.lookup c with
    | none => ([.flaw ("invalid option -- " ++ quoted)], 0)
    | some .never =>
      let (more, used) := manual.readLetters next rest
      (.option c.toString [] :: more, used)
    | some .maybe => ([.option c.toString rest], 0)
    | some .always =>
      if !rest.isEmpty then ([.option c.toString rest], 0)
      else match next with
        | some value => ([.option c.toString value], 1)
        | none => ([.flaw ("option requires an argument -- " ++ quoted)], 0)

/-- The option in the text after two hyphens, and how many words after it that uses up. -/
def readName (manual : Manual) (next : Option Bytes) (text : Bytes) : Setting × Nat :=
  let name := text.takeWhile (· ≠ '=')
  let value := match text.drop name.length with
    | _ :: value => some value
    | [] => none
  let shown := fun (name : Bytes) => "'--" ++ name ++ "'"
  let exactly := manual.names.filter fun (known, _) => known.toList = name
  let found := if exactly.isEmpty then
    manual.names.filter fun (known, _) => name.isPrefixOf known.toList else exactly
  match found with
  | [] => (.flaw ("unrecognized option " ++ shown name), 0)
  | (known, valued, meant) :: others =>
    if others.any fun (_, valued', meant') => valued' ≠ valued || meant' ≠ meant then
      let all := found.flatMap fun (known, _) => ' ' :: shown known.toList
      (.flaw ("option " ++ shown name ++ " is ambiguous; possibilities:" ++ all), 0)
    else match valued, value, next with
      | .never, some _, _ =>
        (.flaw ("option " ++ shown known.toList ++ " doesn't allow an argument"), 0)
      | .never, none, _ => (.option meant [], 0)
      | _, some value, _ => (.option meant value, 0)
      | .maybe, none, _ => (.option meant [], 0)
      | .always, none, some value => (.option meant value, 1)
      | .always, none, none =>
        (.flaw ("option " ++ shown known.toList ++ " requires an argument"), 0)

/-- The options and operands in words, in their order. What is left to be passed over has been
used up as a value. -/
def readFrom (manual : Manual) : Nat → List Bytes → List Setting × List Bytes
  | _, [] => ([], [])
  | passed + 1, _ :: rest => manual.readFrom passed rest
  | 0, word :: rest =>
    match word with
    | ['-', '-'] => ([], rest)
    | '-' :: '-' :: name =>
      let (setting, used) := manual.readName rest.head? name
      let (settings, operands) := manual.readFrom used rest
      (setting :: settings, operands)
    | '-' :: c :: letters =>
      let (found, used) := manual.readLetters rest.head? (c :: letters)
      let (settings, operands) := manual.readFrom used rest
      (found ++ settings, operands)
    | _ =>
      if manual.ordered then ([], word :: rest)
      else
        let (settings, operands) := manual.readFrom 0 rest
        (settings, word :: operands)

def read (manual : Manual) (words : List Bytes) : List Setting × List Bytes :=
  manual.readFrom 0 words

/-- Goes through the words of a tool: `take` heeds an option. What is wrong with one ends the
tool when it is reached. -/
def heed (manual : Manual) (words : List Bytes) (start : σ)
    (take : σ → String → Bytes → Work σ) : Work (σ × List Bytes) := do
  let (settings, operands) := manual.read words
  let settled ← settings.foldlM (fun settled setting =>
    match setting with
    | .option "help" _ => exit 0
    | .option "version" _ => exit 0
    | .option name value => take settled name value
    | .flaw text => do
      if manual.signs then misuseSigned text manual.status
      if manual.usage.isEmpty then misuse text manual.status
      warn text
      note (ofString manual.usage)
      exit manual.status) start
  return (settled, operands)

/-- Goes through the words of a tool whose options are only to be known: each with its value, in
their order. -/
def options (manual : Manual) (words : List Bytes) :
    Work (List (String × Bytes) × List Bytes) := do
  let (found, operands) ← manual.heed words [] fun found name value => return (name, value) :: found
  return (found.reverse, operands)

end Manual
end Retrace.Tool
