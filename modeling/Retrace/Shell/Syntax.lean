import Retrace.Unix.Bytes

/-!
# Shell syntax

A script as data. A word is a row of pieces: plain or quoted text, a parameter,
the output of a script, the value of a sum. Every piece knows whether it stood
inside quotes, and the quotes themselves leave a mark, since an empty pair of
them still makes a word.
-/

namespace Retrace.Shell

open Unix

/-- The shells of a machine. One keeps to the forms that all shells share; the other knows
more of them, and words its messages differently. -/
inductive Dialect where
  | dash
  | bash
  deriving DecidableEq, Repr

inductive Rule where
  | plain
  | bad
  | length
  | substitute (mark : Char) (emptyToo : Bool)
  | trim (atEnd : Bool) (longest : Bool)
  | slice
  | replace (all : Bool)
  | recase (mark : Char) (all : Bool)
  | transform (letter : Char)
  | names (each : Bool)
  deriving DecidableEq, Repr

inductive Way where
  | input
  | output
  | clobber
  | append
  | readWrite
  | copy
  | here
  | text
  | outputBoth
  | appendBoth
  deriving DecidableEq, Repr

inductive Descriptor where
  | number (fd : Nat)
  | named (name : Bytes)
  deriving DecidableEq, Repr

inductive ArmEnd where
  | leaves
  | fallsThrough
  | looksOn
  deriving DecidableEq, Repr

mutual

inductive Piece where
  | mark
  | text (quoted : Bool) (chars : Bytes)
  | param (quoted : Bool) (name : Bytes) (rule : Rule) (operand : List Piece)
  | script (quoted : Bool) (body : Statement)
  | sum (quoted : Bool) (body : List Piece)
  | given (id : Nat)
  | quotation (body : List Piece)
  /-- A parameter in the richer form: one or all elements of a row, or the parameter that the
  value of another one names. -/
  | reference (quoted indirect : Bool) (name : Bytes) (index : Index) (rule : Rule)
      (operands : List (List Piece))
  | channel (writes : Bool) (body : Statement)
  | setting (held : Setting)
  | row (elements : List (List Piece))
  | written (chars : Bytes)

inductive Index where
  | none
  | all (each : Bool)
  | place (written : Bytes) (body : List Piece)

inductive Setting where
  | mk (name : Bytes) (index : Index) (adds : Bool) (value : List Piece)

inductive Redirect where
  | mk (fd : Descriptor) (way : Way) (target : List Piece)

inductive Test where
  | unary (operator : Bytes) (word : List Piece)
  | binary (operator : Bytes) (left right : List Piece)
  | not (body : Test)
  | both (first second : Test)
  | either (first second : Test)
  | group (body : Test)

inductive Statement where
  | nothing
  | simple (line : Nat) (settings : List Setting) (words : List (List Piece))
      (redirects : List Redirect)
  | negated (body : Statement)
  | pipeline (parts : List Statement)
  | both (first second : Statement)
  | either (first second : Statement)
  | sequence (first second : Statement)
  | background (line : Nat) (body : Statement)
  | subshell (line : Nat) (body : Statement) (redirects : List Redirect)
  | redirected (line : Nat) (body : Statement) (redirects : List Redirect)
  | choice (condition yes no : Statement)
  | loop (untilTrue : Bool) (condition body : Statement)
  | each (line : Nat) (name : Bytes) (words : List (List Piece)) (body : Statement)
  | select (line : Nat) (word : List Piece)
      (arms : List (List (List Piece) × Statement × ArmEnd))
  | define (line : Nat) (name : Bytes) (body : Statement)
  | group (body : Statement)
  | test (line : Nat) (body : Test)
  | reckon (line : Nat) (body : List Piece)
  | count (line : Nat) (start condition next : List Piece) (body : Statement)
  | timed (plain : Bool) (body : Statement)

end

instance : Inhabited Statement := ⟨.nothing⟩

/-! ## Texts given below a command -/

def Index.shown : Index → Bytes
  | .none => []
  | .all each => ['[', if each then '@' else '*', ']']
  | .place written _ => '[' :: written ++ [']']

mutual

def Piece.fill (texts : List (Nat × List Piece)) : Piece → List Piece
  | .mark => [.mark]
  | .text quoted chars => [.text quoted chars]
  | .param quoted name rule operand => [.param quoted name rule (fillPieces texts operand)]
  | .script quoted body => [.script quoted (body.fill texts)]
  | .sum quoted body => [.sum quoted (fillPieces texts body)]
  | .given id => (texts.lookup id).getD []
  | .quotation body => [.quotation (fillPieces texts body)]
  | .reference quoted indirect name index rule operands =>
    [.reference quoted indirect name (index.fill texts) rule (fillWords texts operands)]
  | .channel writes body => [.channel writes (body.fill texts)]
  | .setting held => [.setting (held.fill texts)]
  | .row elements => [.row (fillWords texts elements)]
  | .written chars => [.written chars]

def Index.fill (texts : List (Nat × List Piece)) : Index → Index
  | .none => .none
  | .all each => .all each
  | .place written body => .place written (fillPieces texts body)

def Setting.fill (texts : List (Nat × List Piece)) : Setting → Setting
  | .mk name index adds value => .mk name (index.fill texts) adds (fillPieces texts value)

def fillPieces (texts : List (Nat × List Piece)) : List Piece → List Piece
  | [] => []
  | piece :: rest => piece.fill texts ++ fillPieces texts rest

def fillWords (texts : List (Nat × List Piece)) : List (List Piece) → List (List Piece)
  | [] => []
  | word :: rest => fillPieces texts word :: fillWords texts rest

def fillRedirects (texts : List (Nat × List Piece)) : List Redirect → List Redirect
  | [] => []
  | .mk fd way target :: rest => .mk fd way (fillPieces texts target) :: fillRedirects texts rest

def fillSettings (texts : List (Nat × List Piece)) : List Setting → List Setting
  | [] => []
  | setting :: rest => setting.fill texts :: fillSettings texts rest

def fillArms (texts : List (Nat × List Piece)) :
    List (List (List Piece) × Statement × ArmEnd) → List (List (List Piece) × Statement × ArmEnd)
  | [] => []
  | (patterns, body, ended) :: rest =>
    (fillWords texts patterns, body.fill texts, ended) :: fillArms texts rest

def fillParts (texts : List (Nat × List Piece)) : List Statement → List Statement
  | [] => []
  | part :: rest => part.fill texts :: fillParts texts rest

def Test.fill (texts : List (Nat × List Piece)) : Test → Test
  | .unary operator word => .unary operator (fillPieces texts word)
  | .binary operator left right =>
    .binary operator (fillPieces texts left) (fillPieces texts right)
  | .not body => .not (body.fill texts)
  | .both first second => .both (first.fill texts) (second.fill texts)
  | .either first second => .either (first.fill texts) (second.fill texts)
  | .group body => .group (body.fill texts)

def Statement.fill (texts : List (Nat × List Piece)) : Statement → Statement
  | .nothing => .nothing
  | .simple line settings words redirects =>
    .simple line (fillSettings texts settings) (fillWords texts words) (fillRedirects texts redirects)
  | .negated body => .negated (body.fill texts)
  | .pipeline parts => .pipeline (fillParts texts parts)
  | .both first second => .both (first.fill texts) (second.fill texts)
  | .either first second => .either (first.fill texts) (second.fill texts)
  | .sequence first second => .sequence (first.fill texts) (second.fill texts)
  | .background line body => .background line (body.fill texts)
  | .subshell line body redirects =>
    .subshell line (body.fill texts) (fillRedirects texts redirects)
  | .redirected line body redirects =>
    .redirected line (body.fill texts) (fillRedirects texts redirects)
  | .choice condition yes no => .choice (condition.fill texts) (yes.fill texts) (no.fill texts)
  | .loop untilTrue condition body => .loop untilTrue (condition.fill texts) (body.fill texts)
  | .each line name words body => .each line name (fillWords texts words) (body.fill texts)
  | .select line word arms => .select line (fillPieces texts word) (fillArms texts arms)
  | .define line name body => .define line name (body.fill texts)
  | .group body => .group (body.fill texts)
  | .test line body => .test line (body.fill texts)
  | .reckon line body => .reckon line (fillPieces texts body)
  | .count line start condition next body =>
    .count line (fillPieces texts start) (fillPieces texts condition) (fillPieces texts next)
      (body.fill texts)
  | .timed plain body => .timed plain (body.fill texts)

end

abbrev Word := List Piece

def Statement.isNothing : Statement → Bool
  | .nothing => true
  | _ => false

def Statement.then (first second : Statement) : Statement :=
  if first.isNothing then second else if second.isNothing then first else .sequence first second

namespace Word

def plain? : Word → Option Bytes
  | [] => some []
  | .text false chars :: rest => (plain? rest).map (chars ++ ·)
  | .written _ :: rest => plain? rest
  | _ => none

def source : Word → Bytes
  | .written chars :: _ => chars
  | _ => []

def chars : Word → Bytes
  | [] => []
  | .text _ text :: rest => text ++ chars rest
  | .quotation body :: rest => chars body ++ chars rest
  | _ :: rest => chars rest

def withLineEnd (word : Word) : Word :=
  match word.getLast? with
  | none => word
  | some (.text _ chars) =>
    if chars.isEmpty || chars.getLast? = some '\n' then word else word ++ [.text true ['\n']]
  | some _ => word ++ [.text true ['\n']]

def isQuoted (word : Word) : Bool :=
  word.any fun
    | .mark => true
    | .text quoted _ => quoted
    | .quotation _ => true
    | _ => false

/-- Joins neighbouring texts. The pieces come last first, and so do the characters of `run`,
the text that is being joined. -/
def joinTexts (run : Option (Bool × Bytes)) : List Piece → Word → Word
  | [], joined =>
    match run with
    | some (quoted, text) => .text quoted text :: joined
    | none => joined
  | .text quoted text :: rest, joined =>
    match run with
    | some (held, after) =>
      if held = quoted then joinTexts (some (held, text ++ after)) rest joined
      else joinTexts (some (quoted, text)) rest (.text held after :: joined)
    | none => joinTexts (some (quoted, text)) rest joined
  | piece :: rest, joined =>
    match run with
    | some (quoted, text) => joinTexts none rest (piece :: .text quoted text :: joined)
    | none => joinTexts none rest (piece :: joined)

def ofReversed (pieces : List Piece) : Word := joinTexts none pieces []

end Word

def isNameStart (c : Char) : Bool := c.isAlpha || c = '_'

def isNameChar (c : Char) : Bool := c.isAlphanum || c = '_'

def isName : Bytes → Bool
  | [] => false
  | c :: rest => isNameStart c && rest.all isNameChar

def isSpecial (c : Char) : Bool := ['@', '*', '#', '?', '-', '$', '!'].contains c

def Word.setting? : Word → Option Setting
  | .text false text :: rest =>
    let name := text.takeWhile isNameChar
    match text.dropWhile isNameChar with
    | '=' :: value =>
      if isName name then
        some (.mk name .none false (if value.isEmpty then rest else .text false value :: rest))
      else none
    | _ => none
  | _ => none

end Retrace.Shell
