import Retrace.Shell.Arithmetic
import Retrace.Shell.Fields
import Retrace.Shell.Jobs
import Retrace.Shell.Options

/-!
# Expansion

What words stand for: parameters get their values, scripts and sums inside a word
are run, and the result is split into fields, which may be patterns for paths. The
first thing that is wrong ends an expansion with a message.
-/

namespace Retrace.Shell

open Unix Step Text

abbrev Expand := ExceptT Bytes Step

def refuse {α : Type} (message : Bytes) : Expand α := throw message

@[always_inline, inline] def Expand.of (step : Step α) : Expand α := ExceptT.lift step

def Session.separators (session : Session) : Bytes :=
  (session.value? "IFS".toList).getD [' ', '\t', '\n']

/-- What stands between two parameters: a cut where the word is split, or a character. -/
def betweenAll (session : Session) (each quoted splits : Bool) : Bytes :=
  if splits && quoted && each then [betweenParams]
  else match session.value? "IFS".toList with
    | none => [' ']
    | some separators => if splits && !quoted then [betweenParams] else separators.take 1

def Session.param? (session : Session) (name : Bytes) (quoted splits : Bool) :
    Option Bytes :=
  match name with
  | ['#'] => some (decimal session.params.length)
  | ['?'] => some (decimal session.status)
  | ['$'] => some (decimal session.root)
  | ['!'] => session.lastJob.map decimal
  | ['-'] => some session.letters
  | ['@'] => some ((betweenAll session true quoted splits).intercalate session.params)
  | ['*'] => some ((betweenAll session false quoted splits).intercalate session.params)
  | _ =>
    if name.head?.any Char.isDigit then
      match digitsValue name with
      | 0 => some session.name
      | place + 1 => session.params[place]?
    else session.value? name

def segment (quoted : Bool) (value : Bytes) : Segment :=
  if quoted then .fixed (value.map (·, true)) else .splits false (value.map (·, false))

def paramSegment (session : Session) (name : Bytes) (quoted : Bool) (value : Bytes) :
    Segment :=
  if quoted && name = ['@'] && !session.params.isEmpty then .splits true (value.map (·, true))
  else segment quoted value

def intoPipe (input output : Nat) : Step Unit := do
  close input
  if output ≠ 1 then
    let _ ← ask (.copy output 1)
    close output

def outputOf (self : Self) (body : Statement) : Step Bytes := do
  let (input, output) ← ask .pipe
  let job ← newJob
  let _ ← startMember self job false do
    intoPipe input output
    self.eval body false
  close output
  let text ← run (Program.readAll input)
  close input
  let inner ← finishJob job
  modify fun session => { session with inner }
  let text := (text.toOption.getD []).filter (· ≠ '\x00')
  return (text.reverse.dropWhile (· = '\n')).reverse

def stands (emptyToo : Bool) : Option Bytes → Bool
  | none => false
  | some value => !emptyToo || !value.isEmpty

def needed (name : Bytes) (quoted splits : Bool) : Expand (Option Bytes) := do
  let session ← get
  match session.param? name quoted splits with
  | some value => return some value
  | none =>
    if session.has "nounset" then
      set { session with missing := true }
      refuse (name ++ ": parameter not set")
    return none

/-- Takes a match off a value that may be a row of parameters. At the start only the first
of them is looked at, and with it goes the whole row if the longest match is all of it. At the
end a match in any of them takes what follows along. -/
def trimmed (atEnd longest : Bool) (pattern : List Glob) (value : Bytes) : Bytes :=
  let row := cutAt betweenParams value
  if atEnd then
    let places := if longest then List.range row.length else (List.range row.length).reverse
    let cut := places.findSome? fun place =>
      ((row[place]?).bind (Glob.trimEnd? longest pattern)).map (row.take place ++ [·])
    (cut.map (joined betweenParams)).getD value
  else match row with
    | [] => value
    | first :: rest =>
      match Glob.trimStart? longest pattern first with
      | none => value
      | some left =>
        if longest && left.isEmpty && !rest.isEmpty then []
        else joined betweenParams (left :: rest)

mutual

/-- Expands one piece. `splits` tells whether the word will be split, and `operand` whether
the piece belongs to a parameter, so that even written text is open to splitting. -/
def expandPiece (self : Self) (splits operand : Bool) : Piece → Expand (List Segment)
  | .mark => return [.quote]
  | .text quoted chars =>
    let marks := chars.map (·, quoted)
    return [if operand && !quoted then .splits false marks else .fixed marks]
  | .script quoted body => return [segment quoted (← Expand.of (outputOf self body))]
  | .given _ => return []
  | .sum quoted body => do
    let text := Segment.text (← expandPieces self false false body)
    match Reckoning.eval text (← get) with
    | .ok (value, session) =>
      set session
      return [segment quoted (Integer.render value.toInt)]
    | .error message => refuse message
  | .param quoted name rule body => do
    let value := (← get).param? name quoted splits
    let standing := do
      return [paramSegment (← get) name quoted
        (((← get).param? name quoted splits).getD [])]
    match rule with
    | .bad => refuse "Bad substitution"
    | .plain =>
      match ← needed name quoted splits with
      | some _ => standing
      | none => return []
    | .length =>
      match ← needed name quoted splits with
      | some value => return [segment quoted (decimal value.length)]
      | none => return [segment quoted ['0']]
    | .trim atEnd longest =>
      match ← needed name quoted splits with
      | some value =>
        let pattern := (← expandPieces self false false body).flatMap Segment.marks
        return [paramSegment (← get) name quoted
          (trimmed atEnd longest (Glob.read pattern) value)]
      | none => return []
    | .substitute '-' emptyToo =>
      if stands emptyToo value then standing else expandPieces self splits true body
    | .substitute '+' emptyToo =>
      if stands emptyToo value then expandPieces self splits true body else return []
    | .substitute '=' emptyToo =>
      if !stands emptyToo value then
        let text := Segment.text (← expandPieces self false false body)
        match (← get).assign name text with
        | .ok session => set session
        | .error message => refuse message
      standing
    | .substitute '?' emptyToo =>
      if !stands emptyToo value then
        let text := Segment.text (← expandPieces self false false body)
        let session ← get
        set { session with missing := true }
        let usual := if emptyToo then "parameter not set or null" else "parameter not set"
        refuse (name ++ [':', ' '] ++ if body.isEmpty then ofString usual else text)
      standing
    | .substitute _ _ => return (← standing) ++ (← expandPieces self splits true body)
    | _ => return []
  | _ => return []

def expandPieces (self : Self) (splits operand : Bool) : List Piece → Expand (List Segment)
  | [] => return []
  | .mark :: .param true ['@'] .plain [] :: .mark :: rest => do
    let session ← get
    let value := (session.param? ['@'] true splits).getD []
    return paramSegment session ['@'] true value :: (← expandPieces self splits operand rest)
  | .param quoted name (.substitute '\x7d' emptyToo) body :: _ =>
    expandPiece self splits operand (.param quoted name (.substitute '\x7d' emptyToo) body)
  | piece :: rest => do
    let first ← expandPiece self splits operand piece
    return first ++ (← expandPieces self splits operand rest)

end

def home? (session : Session) (name : Bytes) : Option Bytes :=
  if name.isEmpty then session.value? "HOME".toList
  else if name = "root".toList then some "/root".toList
  else none

def expandTilde (session : Session) (setting : Bool) (word : Word) : Word :=
  match word with
  | .text false ('~' :: text) :: rest =>
    let ends := fun c : Char => c = '/' || (setting && c = ':')
    let name := text.takeWhile fun c => !ends c
    let after := text.dropWhile fun c => !ends c
    if after.isEmpty && !rest.isEmpty then word
    else match home? session name with
      | some home => .mark :: .text true home :: .mark :: .text false after :: rest
      | none => word
  | _ => word

def expandText (self : Self) (setting : Bool) (word : Word) : Expand Bytes := do
  let word := expandTilde (← get) setting word
  return Segment.text (← expandPieces self false false word)

def expandPattern (self : Self) (word : Word) : Expand (List Glob) := do
  let word := expandTilde (← get) false word
  return Glob.read ((← expandPieces self false false word).flatMap Segment.marks)

def expandWord (self : Self) (word : Word) : Expand (List Bytes) := do
  let word := expandTilde (← get) false word
  let segments ← expandPieces self true false word
  let session ← get
  let cut := fields session.separators none segments
  if session.has "noglob" || !cut.any Glob.isOpen then return cut.map fun field => field.map (·.1)
  let view ← Expand.of look
  return cut.flatMap (Glob.paths view)

end Retrace.Shell
