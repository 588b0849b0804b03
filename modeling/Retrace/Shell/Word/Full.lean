import Retrace.Shell.Escapes
import Retrace.Shell.Word

/-!
# Reading words in full

The words of the richer shell. Beyond what every shell reads there are quotes that
carry out escapes, parameters that are rows, parts and replacements of their values,
scripts at the other end of a pipe, and patterns with alternatives.
-/

namespace Retrace.Shell

def opensGroup (c : Char) : Bool := ['?', '*', '+', '@', '!'].contains c

namespace Context

def endsBefore (context : Context) : Bytes → Bool
  | [] => true
  | c :: rest =>
    match context with
    | .word => endsWord c && !((c = '<' || c = '>') && rest.head? = some '(')
    | .delimiter => endsWord c
    | .pattern => c = '/' || c = '\x7d'
    | .slice 0 0 => c = ':' || c = '\x7d'
    | .slice .. => c = '\x7d'
    | .expression 0 => endsWord c && c ≠ '|' && c ≠ '('
    | _ => false

def mayEnd : Context → Bool
  | .word | .delimiter | .here => true
  | .expression depth => depth = 0
  | _ => false

def counting (context : Context) (c : Char) : Context :=
  match context, c with
  | .sum depth, '(' => .sum (depth + 1)
  | .sum (depth + 1), ')' => .sum depth
  | .slice depth choices, '(' => .slice (depth + 1) choices
  | .slice (depth + 1) choices, ')' => .slice depth choices
  | .slice depth choices, '?' => .slice depth (choices + 1)
  | .slice depth (choices + 1), ':' => .slice depth choices
  | .index depth, '[' => .index (depth + 1)
  | .index (depth + 1), ']' => .index depth
  | .expression depth, '(' => .expression (depth + 1)
  | .expression (depth + 1), ')' => .expression depth
  | _, _ => context

end Context

namespace Reader

def escapedQuote : Nat → Bytes → Reader Bytes
  | 0, read => return read.reverse
  | fuel + 1, read => do
    match ← ahead with
    | [] => fail .unclosed
    | '\\' :: c :: _ =>
      pass
      pass
      escapedQuote fuel (c :: '\\' :: read)
    | c :: _ =>
      pass
      if c = '\'' then return read.reverse else escapedQuote fuel (c :: read)

abbrev Pieces := Context → Reader Word

def referenceName (fuel : Nat) : Reader Bytes := do
  match ← next with
  | some c =>
    if isNameStart c then passWhile isNameChar fuel
    else if c.isDigit then passWhile Char.isDigit fuel
    else if isSpecial c then
      pass
      return [c]
    else return []
  | none => return []

def referenceIndex (pieces : Pieces) (name : Bytes) : Reader Index := do
  if !isName name || (← next) ≠ some '[' then return .none
  pass
  match ← ahead with
  | '@' :: ']' :: _ =>
    pass
    pass
    return .all true
  | '*' :: ']' :: _ =>
    pass
    pass
    return .all false
  | _ =>
    let before ← get
    let body ← closedBy ']' (pieces (.index 0))
    return .place (← since before).dropLast body

structure Head where
  (indirect counts : Bool := false)
  name : Bytes
  index : Index := .none

def head (pieces : Pieces) (fuel : Nat) : Reader Head := do
  let named : Reader (Bytes × Index) := do
    let name ← referenceName fuel
    return (name, ← referenceIndex pieces name)
  match ← ahead with
  | '#' :: d :: more =>
    let special := ['-', '?', '#', '$', '!'].contains d && more.head? = some '\x7d'
    if isNameChar d || d = '@' || d = '*' || special then
      pass
      let (name, index) ← named
      return { counts := true, name, index }
    pass
    return { name := ['#'] }
  | '!' :: d :: _ =>
    if isNameChar d || ['#', '?', '@', '*'].contains d then
      pass
      let (name, index) ← named
      return { indirect := true, name, index }
    pass
    return { name := ['!'] }
  | _ =>
    let (name, index) ← named
    return { name, index }

def lastOperand (pieces : Pieces) (context : Context) : Reader (List Word) := do
  return [← pieces context]

def referenceRule (pieces : Pieces) (context : Context) (head : Head) :
    Reader (Option (Rule × List Word)) := do
  match ← next with
  | none => fail .unclosed
  | some c =>
    if c = '\x7d' then
      pass
      return some (if head.counts then .length else .plain, [])
    if head.counts then return none
    let text ← ahead
    if head.indirect && isName head.name && (c = '*' || c = '@') &&
        (text.drop 1).head? = some '\x7d' then
      pass
      pass
      return some (.names (c = '@'), [])
    pass
    let d ← next
    let substituting (mark : Char) (emptyToo : Bool) : Reader (Option (Rule × List Word)) := do
      return some (.substitute mark emptyToo, ← lastOperand pieces context.operandOf)
    if ['-', '=', '?', '+'].contains c then substituting c false
    else if c = ':' then
      match d with
      | none => fail .unclosed
      | some d =>
        if ['-', '=', '?', '+'].contains d then
          pass
          substituting d true
        else if d = '\x7d' then return none
        else
          let start ← pieces (.slice 0 0)
          if ← passes ':' then
            let size ← pieces (.slice 0 0)
            if ← passes '\x7d' then return some (.slice, [start, size]) else return none
          else
            pass
            return some (.slice, [start])
    else if c = '#' || c = '%' then
      let longest ← passes c
      return some (.trim (c = '%') longest, ← lastOperand pieces .operand)
    else if c = '/' then
      let all ← passes '/'
      let slash ← if all then passes '/' else pure false
      let pattern ← pieces .pattern
      let pattern := if slash then .text false ['/'] :: pattern else pattern
      if ← passes '/' then
        return some (.replace all, pattern :: (← lastOperand pieces .operand))
      else
        pass
        return some (.replace all, [pattern])
    else if c = '^' || c = ',' || c = '~' then
      let all ← passes c
      return some (.recase c all, ← lastOperand pieces .operand)
    else if c = '@' then
      match ← ahead with
      | letter :: '\x7d' :: _ =>
        pass
        pass
        return some (.transform letter, [])
      | _ => return none
    else return none

def reference (pieces : Pieces) (context : Context) (fuel : Nat) : Reader Piece := do
  let before ← get
  let head ← head pieces fuel
  let isBad := head.name.isEmpty || head.index.shown = ['[', ']']
  let rule ← if isBad then pure none else referenceRule pieces context head
  match rule with
  | some (rule, operands) =>
    return .reference context.quoted head.indirect head.name head.index rule operands
  | none =>
    set before
    let _ ← pieces .operand
    return .param context.quoted ('$' :: '\x7b' :: (← since before)) .bad []

/-- A sum between two pairs of parentheses, or else a script between one pair. The first
parenthesis has been passed. -/
def sumOrScript (list : Reader Statement) (pieces : Pieces) (quoted : Bool) : Reader Piece := do
  let before ← get
  let script : Reader Piece := inside (closedAtEnd ')' do
    return .script quoted (← parenthesized list))
  match ← ahead with
  | '(' :: _ =>
    match (do pass; pieces (.sum 0) : Reader Word).run before with
    | .ok (body, after) =>
      set after
      return .sum quoted body
    | .error flaw =>
      if flaw.cause = .unfinished then throw flaw
      else if flaw.cause = .unclosed then
        throw { flaw with cause := .unmatched ')', line := before.line }
      else inside (closedBy ')' do
        return .script quoted (← parenthesized list))
  | _ => script

def dollar (list : Reader Statement) (pieces : Pieces) (context : Context) (fuel : Nat) :
    Reader Piece := do
  let quoted := context.quoted
  let plain (name : Bytes) : Piece := .reference quoted false name .none .plain []
  match ← next with
  | none => return .text quoted ['$']
  | some d =>
    if d = '(' then
      pass
      sumOrScript list pieces quoted
    else if d = '\x7b' then
      pass
      closedBy '\x7d' (reference pieces context fuel)
    else if d = '[' then
      pass
      return .sum quoted (← closedBy ']' (pieces (.index 0)))
    else if d = '\'' && !quoted then
      pass
      return .quotation [.text true (quotedEscapes (← closedBy '\'' (escapedQuote fuel [])))]
    else if d = '\x22' && !quoted then
      pass
      return .quotation (← closedBy '\x22' (pieces (.quotes context.inBraces)))
    else if d.isDigit || isSpecial d then
      pass
      return .param quoted [d] .plain []
    else if isNameStart d then return plain (← passWhile isNameChar fuel)
    else return .text quoted ['$']

/-- Reads pieces to the end of their context. The pieces read so far come last first. -/
def full (list : Reader Statement) : Nat → Context → List Piece → Reader Word
  | 0, _, read => return .ofReversed read
  | fuel + 1, context, read => do
    unjoin
    match ← ahead with
    | [] => if context.mayEnd then return .ofReversed read else fail .unclosed
    | c :: after =>
      if context.endsBefore (c :: after) then return .ofReversed read
      let quoted := context.quoted
      let pieces : Pieces := fun context => full list fuel context []
      let goOn (piece : Piece) : Reader Word := full list fuel (context.counting c) (piece :: read)
      let whole : Reader Word := return .ofReversed read
      pass
      match c with
      | '\\' =>
        match ← ahead with
        | [] => goOn (.text true ['\\'])
        | d :: _ =>
          pass
          if context.keepsBackslash d then
            full list fuel context (.text true [d] :: .text true ['\\'] :: read)
          else goOn (.text true [d])
      | '\'' =>
        if quoted then goOn (.text true [c])
        else goOn (.quotation [.text true (← closedBy '\'' (quotedText fuel []))])
      | '\x22' =>
        match context with
        | .quotes _ => whole
        | .quotedOperand below inner =>
          full list fuel (.quotedOperand below !inner) (.mark :: read)
        | .sum _ => full list fuel context read
        | .here => goOn (.text true [c])
        | _ => goOn (.quotation (← closedBy '\x22' (pieces (.quotes context.inBraces))))
      | '\x60' =>
        if context = .delimiter then goOn (.text quoted [c])
        else goOn (.script quoted (← closedBy '\x60' (backquotedScript list quoted fuel)))
      | '$' =>
        if context = .delimiter then goOn (.text quoted [c])
        else goOn (← dollar list pieces context fuel)
      | '\x7d' =>
        match context with
        | .operand => whole
        | .quotedOperand _ false => whole
        | _ => goOn (.text quoted [c])
      | ']' =>
        match context with
        | .index 0 => whole
        | _ => goOn (.text quoted [c])
      | ')' =>
        match context with
        | .group => whole
        | .sum 0 => if ← passes ')' then whole else fail .noSum
        | _ => goOn (.text quoted [c])
      | '(' =>
        match context with
        | .group =>
          let inside ← closedBy ')' (pieces .group)
          full list fuel context (.text false [')'] :: inside.reverse ++ .text false [c] :: read)
        | _ => goOn (.text quoted [c])
      | _ =>
        let isWord := context = .word || context = .group
        if isWord && after.head? = some '(' && opensGroup c && (← get).groups then
          pass
          let inside ← closedBy ')' (pieces .group)
          full list fuel context (.text false [')'] :: inside.reverse ++ .text false [c, '('] :: read)
        else if context = .word && (c = '<' || c = '>') then
          pass
          goOn (.channel (c = '>') (← inside (closedAtEnd ')' (parenthesized list))))
        else goOn (.text quoted [c])
where
  quotedText : Nat → Bytes → Reader Bytes
    | 0, read => return read.reverse
    | fuel + 1, read => do
      match ← ahead with
      | [] => fail .unclosed
      | c :: _ =>
        pass
        if c = '\'' then return read.reverse else quotedText fuel (c :: read)

end Reader
end Retrace.Shell
