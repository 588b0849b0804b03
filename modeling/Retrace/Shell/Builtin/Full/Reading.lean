import Retrace.Shell.Builtin.Full.Writing

/-!
# Reading input

A line, or a part of one, is read and cut into fields for variables; or all lines become
the elements of a row.
-/

namespace Retrace.Shell.Builtin.Full

open Unix Step Text

structure Taking where
  fd : Nat := 0
  raw : Bool := false
  mark : Char := '\n'
  limit : Option Nat := none
  exact : Bool := false

structure Taken where
  atoms : List Atom := []
  ended : Bool := false
  refused : Option OsError := none

/-- Reads characters to the end of what is asked for. `hidden` behind a backslash. -/
def takeChars (taking : Taking) : Nat → Bool → List Atom → Step Taken
  | 0, _, atoms => return { atoms }
  | fuel + 1, hidden, atoms => do
    if !hidden && taking.limit.any (· ≤ atoms.length) then return { atoms, ended := true }
    match ← ask (.read taking.fd 1) with
    | .ok [c] =>
      if hidden then
        if c = '\n' then takeChars taking fuel false atoms
        else takeChars taking fuel false (.char (c, true) false :: atoms)
      else if c = taking.mark && !taking.exact then return { atoms, ended := true }
      else if c = '\\' && !taking.raw then takeChars taking fuel true atoms
      else if c = '\x00' then takeChars taking fuel false atoms
      else takeChars taking fuel false (.char (c, false) true :: atoms)
    | .ok _ => return { atoms }
    | .error .interrupted => takeChars taking fuel hidden atoms
    | .error cause => return { atoms, refused := some cause }

def firstField (separators : Bytes) (atoms : List Atom) : List Atom × List Atom :=
  let atoms := atoms.dropWhile (Atom.isGap separators)
  let field := atoms.takeWhile fun atom => !atom.separates separators
  match atoms.drop field.length with
  | [] => (field, [])
  | separator :: rest =>
    (field, Atom.afterSeparator separators (separator.isGap separators) rest)

/-- What a number of variables get of some atoms, the last one all that is left. -/
def fieldsFor (separators : Bytes) : Nat → List Atom → List Bytes
  | 0, _ => []
  | 1, atoms =>
    let atoms := atoms.dropWhile (Atom.isGap separators)
    let (field, rest) := firstField separators atoms
    if rest.isEmpty then [Atom.text field]
    else [Atom.text (atoms.reverse.dropWhile (Atom.isGap separators)).reverse]
  | count + 1, atoms =>
    let (field, rest) := firstField separators atoms
    Atom.text field :: fieldsFor separators count rest

def storeAll : List Bytes → List Bytes → Expand Unit
  | name :: names, text :: texts => do
    storeNamed name text
    storeAll names texts
  | _, _ => return

def readUsage : String :=
  "read [-ers] [-a array] [-d delim] [-i text] [-n nchars] [-N nchars] [-p prompt] [-t timeout] " ++
    "[-u fd] [name ...]"

def readInto (options : Options) (taking : Taking) : Step Flow := do
  let taken ← takeChars taking Program.manySteps false []
  let separators := (← get).separators
  let atoms := taken.atoms.reverse
  match taken.refused with
  | some cause => failed (ofString ("read error: " ++ toString taking.fd ++ ": " ++ cause.text))
  | none =>
    attempting do
      match options.last? 'a', options.operands with
      | some name, _ =>
        let values := (Atom.fields separators atoms).map fun field => field.map (·.1)
        storeRow name false (values.map fun value => { value })
      | none, [] => storeText "REPLY".toList none false (Atom.text atoms)
      | none, names =>
        let texts := if taking.exact then Atom.text atoms :: names.map fun _ => []
          else fieldsFor separators names.length atoms
        storeAll names texts
      Expand.of (answer taken.ended)

def read : Builtin :=
  withOptions "ersa:d:i:n:N:p:t:u:" readUsage fun options => do
    let isBad := fun name : Bytes => (spot? name).all fun (name, _) => !isName name
    match (options.operands ++ (options.last? 'a').toList).find? isBad with
    | some name => failed (notIdentifier name)
    | none =>
      let count := (options.last? 'N').or (options.last? 'n')
      let fd := ((options.last? 'u').map digitsValue).getD 0
      match count.bind integer?, count with
      | none, some text => failed (text ++ ": invalid number")
      | limit, _ =>
        if (options.last? 'u').isSome && ((← look).files.lookup fd).isNone then
          failed (decimal fd ++ ": invalid file descriptor: Bad file descriptor")
        else
          readInto options
            { fd
              raw := options.has 'r'
              mark := ((options.last? 'd').map fun text => text.headD '\x00').getD '\n'
              limit := limit.map Int.toNat
              exact := options.has 'N' }

/-! ## All lines -/

def takeLine (fd : Nat) (mark : Char) : Nat → List Bytes → Step (Option Bytes)
  | 0, read => return some read.reverse.flatten
  | fuel + 1, read => do
    match ← ask (.readUpTo fd 4096 mark) with
    | .ok [] => return if read.isEmpty then none else some read.reverse.flatten
    | .ok text =>
      if text.getLast? = some mark then return some (text :: read).reverse.flatten
      else takeLine fd mark fuel (text :: read)
    | .error .interrupted => takeLine fd mark fuel read
    | .error _ => return if read.isEmpty then none else some read.reverse.flatten

def takeLines (fd : Nat) (mark : Char) : Nat → List Bytes → Step (List Bytes)
  | 0, read => return read.reverse
  | count + 1, read => do
    match ← takeLine fd mark Program.manySteps [] with
    | some line => takeLines fd mark count (line :: read)
    | none => return read.reverse

def mapUsage (name : Bytes) : String :=
  String.ofList name ++
    " [-d delim] [-n count] [-O origin] [-s count] [-t] [-u fd] [-C callback] [-c quantum] [array]"

def mapfile : Builtin := fun words => do
  let run := fun options : Options => do
    let number := fun letter : Char => ((options.last? letter).bind integer?).map Int.toNat
    let mark := ((options.last? 'd').map fun text => text.headD '\x00').getD '\n'
    let name := options.operands.headD "MAPFILE".toList
    let fd := (number 'u').getD 0
    let count := (number 'n').getD 0
    if !isName name then failed (notIdentifier name)
    else
      let _ ← takeLines fd mark ((number 's').getD 0) []
      let lines ← takeLines fd mark (if count = 0 then Program.manySteps else count) []
      let trim := fun line : Bytes =>
        if options.has 't' && line.getLast? = some mark then line.dropLast else line
      let start := (number 'O').getD 0
      let entries := (lines.map trim).mapIdx fun n value =>
        ({ index := some (decimal (start + n)), value := value.filter (· ≠ '\x00') } : Entry)
      attempting do
        storeRow name (options.has 'O') entries
        Expand.of (answer true)
  withOptions "C:O:c:d:n:s:tu:" (mapUsage ((← get).command.getD [])) run words

end Retrace.Shell.Builtin.Full
