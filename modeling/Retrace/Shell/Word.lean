import Retrace.Shell.Source

/-!
# Reading words

Quotes, parameters, sums and scripts inside a word. Reading a list of statements
inside a script is left to `list`, which gives back the token that ended it.
-/

namespace Retrace.Shell

inductive Context where
  | word
  | delimiter
  | operand
  | quotes (braces : Bool)
  /-- Inside double quotes, up to a closing brace; `below` in a text given below a command,
  `inner` between further quotes. -/
  | quotedOperand (below inner : Bool)
  /-- Up to two closing parentheses, with so many open ones before. -/
  | sum (depth : Nat)
  /-- A text given below a command, to its end. -/
  | here
  | pattern
  | slice (parentheses choices : Nat)
  | index (depth : Nat)
  | group
  | expression (depth : Nat)
  deriving DecidableEq, Repr

namespace Context

def quoted : Context → Bool
  | .word | .delimiter | .operand => false
  | .pattern | .slice .. | .index _ | .group | .expression _ => false
  | _ => true

def inBraces : Context → Bool
  | .operand => true
  | .quotes braces => braces
  | .quotedOperand .. => true
  | _ => false

def operandOf (context : Context) : Context :=
  match context with
  | .here => .quotedOperand true false
  | .quotedOperand below _ => .quotedOperand below false
  | _ => if context.quoted then .quotedOperand false false else .operand

def keepsBackslash (context : Context) (c : Char) : Bool :=
  context.quoted && c ≠ '\\' && c ≠ '\x60' && c ≠ '$' &&
    (c ≠ '\x22' || context = .here) && (c ≠ '\x7d' || !context.inBraces)

def missing? : Context → Option Flaw.Cause
  | .word | .delimiter | .here => none
  | .operand => some .openBraces
  | .quotes _ => some .openQuote
  | .quotedOperand below _ => some (if below then .openBraces else .openQuote)
  | .sum _ => some .openSum
  | _ => some .unclosed

end Context

def endsWord (c : Char) : Bool :=
  [' ', '\t', '\n', ';', '&', '|', '<', '>', '(', ')'].contains c

namespace Reader

def singleQuoted : Nat → Bytes → Reader Bytes
  | 0, read => return read.reverse
  | fuel + 1, read => do
    match ← ahead with
    | [] => fail .openQuote
    | c :: _ =>
      pass
      if c = '\'' then return read.reverse else singleQuoted fuel (c :: read)

def openBackquote {α : Type} : Reader α := do
  fail (match (← get).dialect with
    | .dash => .openBackquote
    | .bash => .unclosed)

/-- The text up to a backquote, which is passed, without the backslashes that only hide a
character from this reading. -/
def backquoted (quoted : Bool) : Nat → Bytes → Reader Bytes
  | 0, read => return read.reverse
  | fuel + 1, read => do
    match ← next with
    | none => openBackquote
    | some c =>
      pass
      if c = '\x60' then return read.reverse
      else if c = '\\' then
        match ← ahead with
        | [] => openBackquote
        | d :: _ =>
          pass
          let hidden := d = '\\' || d = '\x60' || d = '$' || (quoted && d = '\x22')
          backquoted quoted fuel (if hidden then d :: read else d :: c :: read)
      else backquoted quoted fuel (c :: read)

/-- Reads a script inside a word. The text from below that is being read does not end in it, and
a text from below that it asks for and does not hold is empty. -/
def inner (read : Reader Statement) : Reader Statement := do
  let outer ← get
  set { outer with reading := none, awaited := [], texts := [], held := none }
  let body ← read
  let source ← get
  let texts := source.texts
  set { source with
    reading := outer.reading, awaited := outer.awaited, texts := outer.texts, held := none }
  return if outer.fresh = source.fresh then body else body.fill texts

def parenthesized (list : Reader Statement) : Reader Statement :=
  inner do
    let body ← list
    let source ← get
    let ended := source.held.getD .endOfFile
    if !ended.isSign ")" then
      fail (match source.dialect, ended with
        | .bash, .endOfFile => .unclosed
        | _, _ => .unexpected ended.name (some "\")\""))
    return body

def backquotedScript (list : Reader Statement) (quoted : Bool) (fuel : Nat) : Reader Statement :=
  inner do
    let text ← backquoted quoted fuel []
    let source ← get
    let script : Source :=
      { rest := text, dialect := source.dialect, groups := source.groups, aliases := source.aliases
        fresh := source.fresh }
    match list.run script with
    | .ok (body, after) =>
      set { source with texts := after.texts, fresh := after.fresh }
      return body
    | .error flaw => throw { flaw with left := source.rest.length }

def substitution? (c : Char) (emptyToo : Bool) : Option Rule :=
  if c = '\x7d' then some (if emptyToo then .substitute '\x7d' true else .plain)
  else if ['-', '+', '?', '='].contains c then some (.substitute c emptyToo)
  else none

def rule : Reader Rule := do
  match ← next with
  | none => return .bad
  | some c =>
    skip
    if c = ':' then
      match ← next with
      | none => return .bad
      | some d =>
        skip
        return (substitution? d true).getD .bad
    else if c = '%' then return .trim true (← passes '%')
    else if c = '#' then return .trim false (← passes '#')
    else return (substitution? c false).getD .bad

def paramName (fuel : Nat) : Reader Bytes := do
  match ← next with
  | some c =>
    if isNameStart c then passWhile isNameChar fuel
    else if c.isDigit then passWhile Char.isDigit fuel
    else return []
  | none => return []

/-- The parameter after a hash sign inside braces: the sign asks for its length, or is a
parameter itself. -/
def afterHash (fuel : Nat) : Reader (Bytes × Rule) := do
  match ← next with
  | some c =>
    if isNameChar c then
      let name ← paramName fuel
      return (name, if (← next) = some '\x7d' then .length else .bad)
    else
      let before ← get
      pass
      if c ≠ '\x7d' && (← next) = some '\x7d' then
        return if isSpecial c then ([c], .length) else ([], .bad)
      else
        set before
        return (['#'], ← rule)
  | none => return (['#'], ← rule)

def braced (fuel : Nat) : Reader (Bytes × Rule) := do
  match ← next with
  | none => return ([], .bad)
  | some c =>
    if isNameChar c then
      let name ← paramName fuel
      return (name, ← rule)
    else if c = '\x7d' then return ([], .bad)
    else if c = '#' then
      pass
      afterHash fuel
    else if isSpecial c then
      pass
      return ([c], ← rule)
    else
      skip
      return ([], .bad)

/-- Reads pieces to the end of their context. The pieces read so far come last first. -/
def pieces (list : Reader Statement) : Nat → Context → List Piece → Reader Word
  | 0, _, read => return .ofReversed read
  | fuel + 1, context, read => do
    let quoted := context.quoted
    match ← next with
    | none =>
      match context.missing? with
      | some cause => fail cause
      | none => return .ofReversed read
    | some c =>
      if (context = .word || context = .delimiter) && endsWord c then return .ofReversed read
      let goOn (piece : Piece) : Reader Word := pieces list fuel context (piece :: read)
      pass
      match c with
      | '\\' =>
        match ← ahead with
        | [] => goOn (.text true ['\\'])
        | d :: _ =>
          pass
          if context.keepsBackslash d then
            pieces list fuel context (.text true [d] :: .text true ['\\'] :: read)
          else goOn (.text true [d])
      | '\'' =>
        if quoted then goOn (.text true [c])
        else
          let text ← singleQuoted fuel []
          pieces list fuel context (.mark :: .text true text :: .mark :: read)
      | '\x22' =>
        match context with
        | .quotes _ => return .ofReversed read
        | .quotedOperand below inner =>
          pieces list fuel (.quotedOperand below !inner) (.mark :: read)
        | _ =>
          if quoted then goOn (.text true [c])
          else
            let inside ← pieces list fuel (.quotes context.inBraces) []
            pieces list fuel context (.mark :: inside.reverse ++ .mark :: read)
      | '\x7d' =>
        match context with
        | .operand => return .ofReversed read
        | .quotedOperand _ false => return .ofReversed read
        | _ => goOn (.text quoted [c])
      | '(' =>
        match context with
        | .sum depth => pieces list fuel (.sum (depth + 1)) (.text true [c] :: read)
        | _ => goOn (.text quoted [c])
      | ')' =>
        match context with
        | .sum (depth + 1) => pieces list fuel (.sum depth) (.text true [c] :: read)
        | .sum 0 => if ← passes ')' then return .ofReversed read else goOn (.text true [c])
        | _ => goOn (.text quoted [c])
      | '\x60' =>
        if context = .delimiter then goOn (.text quoted [c])
        else goOn (.script quoted (← backquotedScript list quoted fuel))
      | '$' =>
        match ← next with
        | some d =>
          if context = .delimiter then goOn (.text quoted [c])
          else if d = '(' then
            pass
            if ← passes '(' then goOn (.sum quoted (← pieces list fuel (.sum 0) []))
            else goOn (.script quoted (← parenthesized list))
          else if d = '\x7b' then
            pass
            match ← braced fuel with
            | (name, .plain) => goOn (.param quoted name .plain [])
            | (name, .trim atEnd longest) =>
              let operand ← pieces list fuel .operand []
              goOn (.param quoted name (.trim atEnd longest) operand)
            | (name, rule) =>
              let operand ← pieces list fuel context.operandOf []
              goOn (.param quoted name rule operand)
          else if d.isDigit || isSpecial d then
            pass
            goOn (.param quoted [d] .plain [])
          else if isNameStart d then
            let name ← passWhile isNameChar fuel
            goOn (.param quoted name .plain [])
          else goOn (.text quoted [c])
        | none => goOn (.text quoted [c])
      | _ => goOn (.text quoted [c])

end Reader
end Retrace.Shell
