import Retrace.Regex.Charset
import Retrace.Regex.Flaw

/-!
# Regular expressions as they are written

What stands in an expression and where, before the flags in force give it a
meaning.
-/

namespace Retrace.Regex

inductive Flag where
  | foldCase
  | multiLine
  | dotAll
  | swapGreed
  | unicode
  | carriageReturn
  | loose
  deriving DecidableEq, Repr

def Flag.ofLetter? : Char → Option Flag
  | 'i' => some .foldCase
  | 'm' => some .multiLine
  | 's' => some .dotAll
  | 'U' => some .swapGreed
  | 'u' => some .unicode
  | 'R' => some .carriageReturn
  | 'x' => some .loose
  | _ => none

abbrev Settings := List (Flag × Bool)

inductive Assertion where
  | lineStart
  | lineEnd
  | textStart
  | textEnd
  | wordEdge
  | noWordEdge
  | wordStart
  | wordEnd
  | wordStartHalf
  | wordEndHalf
  deriving DecidableEq, Repr

inductive Perl where
  | digit
  | space
  | word
  deriving DecidableEq, Repr

structure Literal where
  span : Span
  char : Char
  byte : Bool
  deriving DecidableEq, Repr

inductive Primitive where
  | literal (literal : Literal)
  | dot (span : Span)
  | assertion (span : Span) (assertion : Assertion)
  | perl (span : Span) (perl : Perl) (negated : Bool)
  | property (span : Span) (general : Bool)
  deriving DecidableEq, Repr

def Primitive.span : Primitive → Span
  | .literal written => written.span
  | .dot span => span
  | .assertion span _ => span
  | .perl span _ _ => span
  | .property span _ => span

inductive SetOp where
  | inter
  | diff
  | symmDiff
  deriving DecidableEq, Repr

inductive Members where
  | nothing (place : Nat)
  | literal (literal : Literal)
  | range (span : Span) (low high : Literal)
  | named (span : Span) (set : Charset) (negated : Bool)
  | perl (span : Span) (perl : Perl) (negated : Bool)
  | property (span : Span) (general : Bool)
  | both (first second : Members)
  | combined (op : SetOp) (first second : Members)
  | bracket (span : Span) (negated : Bool) (inside : Members)
  deriving DecidableEq, Repr

def Members.span : Members → Span
  | .nothing place => .place place
  | .literal written => written.span
  | .range span _ _ => span
  | .named span _ _ => span
  | .perl span _ _ => span
  | .property span _ => span
  | .both first second => ⟨first.span.start, second.span.stop⟩
  | .combined _ first second => ⟨first.span.start, second.span.stop⟩
  | .bracket span _ _ => span

/-- The first part of a bracket, in the order written, that is nested deeper than allowed. A row
of members is one level, and so are an operator and a bracket; `inRow` in a row already
counted. -/
def Members.tooDeep? (inRow : Bool) : Nat → Members → Option Span
  | limit, .both first second =>
    if inRow then (first.tooDeep? true limit).or (second.tooDeep? false limit)
    else match limit with
      | 0 => some ⟨first.span.start, second.span.stop⟩
      | limit + 1 => (first.tooDeep? true limit).or (second.tooDeep? false limit)
  | 0, .combined _ first second => some ⟨first.span.start, second.span.stop⟩
  | limit + 1, .combined _ first second =>
    (first.tooDeep? false limit).or (second.tooDeep? false limit)
  | 0, .bracket span _ _ => some span
  | limit + 1, .bracket _ _ inside => inside.tooDeep? false limit
  | _, _ => none

def Members.ofList (place : Nat) : List Members → Members
  | [] => .nothing place
  | first :: rest => rest.foldl .both first

inductive Tree where
  | empty (place : Nat)
  | settings (settings : Settings) (span : Span)
  | primitive (primitive : Primitive)
  | bracket (members : Members)
  | repeated (span : Span) (body : Tree) (least : Nat) (further : Option Nat)
  | group (span : Span) (captures : Bool) (settings : Settings) (body : Tree)
  | seq (items : List Tree)
  | alt (branches : List Tree)
  deriving Repr

namespace Tree

def ofItems (place : Nat) : List Tree → Tree
  | [] => .empty place
  | [only] => only
  | items => .seq items

def ofBranches : List Tree → Tree
  | [only] => only
  | branches => .alt branches

def isRepeatable : Tree → Bool
  | .empty _ => false
  | .settings .. => false
  | _ => true

mutual
def span : Tree → Span
  | .empty place => .place place
  | .settings _ span => span
  | .primitive written => written.span
  | .bracket members => members.span
  | .repeated span .. => span
  | .group span .. => span
  | .seq items => spanOfAll items
  | .alt branches => spanOfAll branches

def spanOfAll : List Tree → Span
  | [] => .place 0
  | [only] => only.span
  | first :: rest => ⟨first.span.start, (spanOfAll rest).stop⟩
end

mutual
/-- The first part, in the order written, that is nested deeper than allowed. -/
def tooDeep? : Nat → Tree → Option Span
  | _, .empty _ => none
  | _, .settings .. => none
  | _, .primitive _ => none
  | limit, .bracket members => members.tooDeep? false limit
  | 0, tree => some tree.span
  | limit + 1, .repeated _ body _ _ => tooDeep? limit body
  | limit + 1, .group _ _ _ body => tooDeep? limit body
  | limit + 1, .seq items => anyTooDeep? limit items
  | limit + 1, .alt branches => anyTooDeep? limit branches

def anyTooDeep? : Nat → List Tree → Option Span
  | _, [] => none
  | limit, first :: rest => (tooDeep? limit first).or (anyTooDeep? limit rest)
end

end Tree
end Retrace.Regex
