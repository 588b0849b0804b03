import Retrace.Tool.Basic

/-!
# Quoted text in messages

Names are quoted so that a shell reads them back, operands as in a program text.
-/

namespace Retrace.Tool

open Unix

namespace Quoted

def letter? : Char → Option Char
  | '\x07' => some 'a'
  | '\x08' => some 'b'
  | '\t' => some 't'
  | '\n' => some 'n'
  | '\x0b' => some 'v'
  | '\x0c' => some 'f'
  | '\r' => some 'r'
  | _ => none

def isPrintable (c : Char) : Bool := ' ' ≤ c && c ≤ '~'

def octal (n : Nat) : Bytes :=
  [n / 64 % 8, n / 8 % 8, n % 8].map Nat.digitChar

def escaped (c : Char) : Bytes :=
  '\\' :: match letter? c with
    | some letter => [letter]
    | none => octal c.toNat

def operand (text : Bytes) : Bytes :=
  '\'' :: text.flatMap (fun c =>
    if c = '\'' || c = '\\' then ['\\', c] else if isPrintable c then [c] else escaped c) ++ ['\'']

/-- Whether a shell takes a character for itself, given whether it stands first and alone. -/
def isPlain (first alone : Bool) (c : Char) : Bool :=
  c.isAlphanum || "%+,-./:]_@".toList.contains c || ((c = '\x7b' || c = '\x7d') && !alone) ||
    ((c = '#' || c = '~') && !first)

def isEither (first alone : Bool) (c : Char) : Bool :=
  c.isAlphanum || "%+,-./:]_ '".toList.contains c || ((c = '\x7b' || c = '\x7d') && alone) ||
    ((c = '#' || c = '~') && first)

/-- Between single quotes; `showing` while characters that cannot be shown are written. -/
def between : Bool → Bytes → Bytes
  | _, [] => ['\'']
  | showing, c :: rest =>
    if c = '\'' then ['\'', '\\', '\'', '\''] ++ between false rest
    else if isPrintable c then
      if showing then ['\'', '\'', c] ++ between false rest else c :: between false rest
    else if showing then escaped c ++ between true rest
    else ['\'', '$', '\''] ++ escaped c ++ between true rest

def name (text : Bytes) : Bytes :=
  let alone := text.length = 1
  let isEitherAt := fun (c, i) => isEither (i = 0) alone c
  if text.contains '\'' && text.zipIdx.all isEitherAt then '"' :: text ++ ['"']
  else '\'' :: between false text

/-- A name, between quotes only if a shell would not read it back else, or if a colon after it
would be taken for its own. -/
def nameIfNeeded (text : Bytes) : Bytes :=
  let alone := text.length = 1
  if !text.isEmpty && text.zipIdx.all (fun (c, i) => c ≠ ':' && isPlain (i = 0) alone c) then text
  else name text

end Quoted

def report (name : Bytes) (cause : OsError) : Work Unit :=
  complain (Quoted.nameIfNeeded name ++ ": " ++ causeText cause) 1

/-- The meaning that a value of an option has: its name, or a beginning that no other meaning
shares. Names of one meaning stand together, and the first of them stands for it. -/
def choose (option : String) (meanings : List (List String)) (value : Bytes) : Work String := do
  let having := fun test : String → Bool => meanings.filter (·.any test)
  match having (·.toList = value), having (value.isPrefixOf ·.toList) with
  | (name :: _) :: _, _ => return name
  | _, [name :: _] => return name
  | _, begun =>
    let kind := if begun.isEmpty then "invalid" else "ambiguous"
    warn (ofString (kind ++ " argument ") ++ Quoted.operand value ++ ofString (" for '" ++ option ++ "'"))
    note "Valid arguments are:\n"
    for names in meanings do
      note (ofString ("  - '" ++ "', '".intercalate names ++ "'\n"))
    note ("Try '" ++ (← get).name ++ " --help' for more information.\n")
    exit 1

/-- Goes through the lines of an input, each with the mark that ends it if one does. -/
def eachLineWithin (mark : Char) (work : σ → Bytes → Work σ) : Nat → σ → Feed → Work (σ × Feed)
  | 0, state, feed => return (state, feed)
  | fuel + 1, state, feed => do
    let (line, feed) ← feed.line mark
    match line with
    | none => return (state, feed)
    | some line => eachLineWithin mark work fuel (← work state line) feed

def eachLine (mark : Char) (work : σ → Bytes → Work σ) (state : σ) (feed : Feed) :
    Work (σ × Feed) :=
  eachLineWithin mark work Program.manySteps state feed

/-- Goes through inputs. One that cannot be opened or read is said to be so, and the next one is
gone on with. -/
def eachInput (work : σ → Feed → Work (σ × Feed)) : σ → List Bytes → Work σ
  | state, [] => return state
  | state, name :: rest => do
    match ← openInput name with
    | .error cause =>
      report name cause
      eachInput work state rest
    | .ok fd =>
      let (state, feed) ← work state { fd }
      if let some cause := feed.flaw then report name cause
      closeInput fd
      eachInput work state rest

def inputs (names : List Bytes) : List Bytes := if names.isEmpty then [['-']] else names

end Retrace.Tool
