import Retrace.Regex
import Retrace.Regex.Machine
import Retrace.Regex.Reader

/-!
# What regular expressions mean

A tree becomes an expression under the flags in force, which a group keeps to
itself. Tables of Unicode letters, digits and case are not at hand, so classes and
case folding that need them are refused; without the `u` flag the English ones are
used, and then only sets within ASCII are allowed. `Regex.ofPattern` is the whole
way from text to expression.
-/

namespace Retrace.Regex

structure Mode where
  foldCase : Bool := false
  multiLine : Bool := false
  dotAll : Bool := false
  unicode : Bool := true
  carriageReturn : Bool := false
  deriving DecidableEq, Repr

namespace Mode

def set (mode : Mode) : Flag × Bool → Mode
  | (.foldCase, value) => { mode with foldCase := value }
  | (.multiLine, value) => { mode with multiLine := value }
  | (.dotAll, value) => { mode with dotAll := value }
  | (.unicode, value) => { mode with unicode := value }
  | (.carriageReturn, value) => { mode with carriageReturn := value }
  | (.swapGreed, _) => mode
  | (.loose, _) => mode

def apply (mode : Mode) (settings : Settings) : Mode := settings.foldl set mode

end Mode

def Perl.set : Perl → Charset
  | .digit => .digit
  | .space => .ofChars ['\t', '\n', '\x0b', '\x0c', '\r', ' ']
  | .word => .union .alnum (.single '_')

variable (mode : Mode)

def perlSet (span : Span) (perl : Perl) (negated : Bool) : Except Flaw Charset :=
  if mode.unicode then .error ⟨.perlClassUnknown, span⟩
  else if negated then .error ⟨.invalidUtf8, span⟩
  else .ok perl.set

def propertySet (span : Span) (general : Bool) : Except Flaw Charset :=
  if !mode.unicode then .error ⟨.unicodeNotAllowed, span⟩
  else if general then .error ⟨.propertyValueUnknown, span⟩
  else .error ⟨.propertyUnknown, span⟩

def Literal.check (literal : Literal) : Except Flaw Char :=
  if !mode.unicode && literal.byte && 0x80 ≤ literal.char.toNat then
    .error ⟨.invalidUtf8, literal.span⟩
  else .ok literal.char

def Literal.member (literal : Literal) : Except Flaw Char := do
  let c ← literal.check mode
  if !mode.unicode && 0x80 ≤ c.toNat then throw ⟨.unicodeNotAllowed, literal.span⟩
  return c

def finishSet (span : Span) (negated : Bool) (set : Charset) : Except Flaw Charset :=
  if mode.foldCase && mode.unicode && set ≠ .none then .error ⟨.caseUnavailable, span⟩
  else
    let set := if mode.foldCase then .folded set else set
    if !negated then .ok set
    else if mode.unicode then .ok (.complement set)
    else .error ⟨.invalidUtf8, span⟩

def foldSide (span : Span) (set : Charset) : Except Flaw Charset :=
  finishSet mode span false set

def Members.charset (mode : Mode) : Members → Except Flaw Charset
  | .nothing _ => .ok .none
  | .literal written => return .single (← written.member mode)
  | .range _ low high => return .range (← low.member mode) (← high.member mode)
  | .named span set negated => finishSet mode span negated set
  | .perl span kind negated => perlSet mode span kind negated
  | .property span general => propertySet mode span general
  | .both first second => return .union (← first.charset mode) (← second.charset mode)
  | .combined op first second => do
    let left ← first.charset mode
    let right ← second.charset mode
    let right ← foldSide mode second.span right
    let left ← foldSide mode first.span left
    match op with
    | .inter => return .inter left right
    | .diff => return left.diff right
    | .symmDiff => return left.symmDiff right
  | .bracket span negated inside => do
    let set ← inside.charset mode
    finishSet mode span negated set

structure Meaning where
  regex : Regex
  part : Part
  mode : Mode
  wantsWords : Bool := false

def Assertion.look : Assertion → Look
  | .lineStart =>
    if !mode.multiLine then .start
    else if mode.carriageReturn then .returnLineStart else .lineStart
  | .lineEnd =>
    if !mode.multiLine then .finish
    else if mode.carriageReturn then .returnLineEnd else .lineEnd
  | .textStart => .start
  | .textEnd => .finish
  | .wordEdge => .wordEdge
  | .noWordEdge => .noWordEdge
  | .wordStart => .wordStart
  | .wordEnd => .wordEnd
  | .wordStartHalf => .wordStartHalf
  | .wordEndHalf => .wordEndHalf

def Assertion.aboutWords : Assertion → Bool
  | .lineStart | .lineEnd | .textStart | .textEnd => false
  | _ => true

def Meaning.one (mode : Mode) (set : Charset) : Meaning :=
  ⟨.one set, .ofRanges set.ranges, mode, false⟩

def Primitive.meaning : Primitive → Except Flaw Meaning
  | .literal written => do
    let c ← written.check mode
    if mode.foldCase then
      if mode.unicode then throw ⟨.caseUnavailable, written.span⟩
      return .one mode (.folded (.single c))
    return .one mode (.single c)
  | .dot span => do
    if !mode.unicode then throw ⟨.invalidUtf8, span⟩
    let excluded := if mode.dotAll then [] else if mode.carriageReturn then ['\r', '\n'] else ['\n']
    return .one mode (.complement (.ofChars excluded))
  | .assertion _ asserted =>
    .ok ⟨.look (asserted.look mode), .look, mode, asserted.aboutWords && mode.unicode⟩
  | .perl span kind negated => return .one mode (← perlSet mode span kind negated)
  | .property span general => return .one mode (← propertySet mode span general)

mutual
def Tree.meaning (mode : Mode) : Tree → Except Flaw Meaning
  | .empty _ => .ok ⟨.empty, .empty, mode, false⟩
  | .settings chosen _ => .ok ⟨.empty, .empty, mode.apply chosen, false⟩
  | .primitive written => written.meaning mode
  | .bracket members => return .one mode (← members.charset mode)
  | .repeated _ body least further => do
    let inner ← body.meaning mode
    return { inner with
      regex := .repeated inner.regex least further
      part := inner.part.times least (further.map (least + ·)) }
  | .group span captures chosen body => do
    let inner ← body.meaning (mode.apply chosen)
    let part := if captures then .captured span.start inner.part else inner.part
    return { inner with part, mode }
  | .seq items => do
    let (all, mode) ← Tree.meanings mode items
    return ⟨seqs (all.map (·.regex)), .seqs (all.map (·.part)), mode, all.any (·.wantsWords)⟩
  | .alt branches => do
    let (all, mode) ← Tree.meanings mode branches
    return ⟨alts (all.map (·.regex)), .alts (all.map (·.part)), mode, all.any (·.wantsWords)⟩

def Tree.meanings (mode : Mode) : List Tree → Except Flaw (List Meaning × Mode)
  | [] => .ok ([], mode)
  | first :: rest => do
    let one ← first.meaning mode
    let (others, mode) ← Tree.meanings one.mode rest
    return (one :: others, mode)
end

inductive Refusal where
  | flaw (flaw : Flaw)
  | tooBig
  | noMachine
  deriving DecidableEq, Repr

def Refusal.message (text : List Char) : Refusal → String
  | .flaw found => found.report text
  | .tooBig => "Compiled regex exceeds size limit of " ++ toString Part.limit ++ " bytes."
  | .noMachine => "error building NFA"

def ofPattern (text : List Char) : Except Refusal Regex :=
  match (Tree.ofText text).bind (Tree.meaning {}) with
  | .error flaw => .error (.flaw flaw)
  | .ok meaning =>
    if meaning.part.isTooBig false then .error .tooBig
    else if meaning.wantsWords then .error .noMachine
    else if meaning.part.isTooBig true then .error .tooBig
    else .ok meaning.regex

end Retrace.Regex
