import Retrace.Regex.Charset

/-!
# Regular expressions

A regular expression acts on sets of gaps of a text: from the gaps where it may
start it leads to the gaps where it may end. A text holds the expression
when, started everywhere, it ends somewhere. There are no captures, so greed
makes no difference.
-/

namespace Retrace

structure Gap where
  before : Option Char
  after : Option Char
  deriving DecidableEq, Repr

/-- Conditions on a gap. Words are of English letters, digits and underscores. -/
inductive Look where
  | start
  | finish
  | lineStart
  | lineEnd
  /-- Lines also end with a carriage return or with both. -/
  | returnLineStart
  | returnLineEnd
  | wordEdge
  | noWordEdge
  | wordStart
  | wordEnd
  | wordStartHalf
  | wordEndHalf
  deriving DecidableEq, Repr

namespace Look

def isWord (c : Option Char) : Bool := c.any fun c => c.isAlphanum || c = '_'

def holds (gap : Gap) : Look → Bool
  | .start => gap.before.isNone
  | .finish => gap.after.isNone
  | .lineStart => gap.before.isNone || gap.before = some '\n'
  | .lineEnd => gap.after.isNone || gap.after = some '\n'
  | .returnLineStart =>
    gap.before.isNone || gap.before = some '\n' ||
      (gap.before = some '\r' && gap.after ≠ some '\n')
  | .returnLineEnd =>
    gap.after.isNone || gap.after = some '\r' ||
      (gap.after = some '\n' && gap.before ≠ some '\r')
  | .wordEdge => isWord gap.before != isWord gap.after
  | .noWordEdge => isWord gap.before == isWord gap.after
  | .wordStart => !isWord gap.before && isWord gap.after
  | .wordEnd => isWord gap.before && !isWord gap.after
  | .wordStartHalf => !isWord gap.before
  | .wordEndHalf => !isWord gap.after

end Look

inductive Regex where
  | empty
  | one (set : Charset)
  | look (condition : Look)
  | seq (first second : Regex)
  | alt (first second : Regex)
  /-- At least so often, and at most so much oftener if that is bounded. -/
  | repeated (body : Regex) (least : Nat) (further : Option Nat)
  deriving DecidableEq, Repr

namespace Regex

def seqs : List Regex → Regex
  | [] => .empty
  | [only] => only
  | first :: rest => .seq first (seqs rest)

def alts : List Regex → Regex
  | [] => .empty
  | [only] => only
  | first :: rest => .alt first (alts rest)

def gapsAfter (before : Option Char) : List Char → List Gap
  | [] => [⟨before, none⟩]
  | c :: rest => ⟨before, some c⟩ :: gapsAfter (some c) rest

def gaps (text : List Char) : List Gap := gapsAfter none text

abbrev Marks := List Bool

def join (first second : Marks) : Marks := List.zipWith (· || ·) first second

def advance (set : Charset) (gaps : List Gap) (marks : Marks) : Marks :=
  false :: (List.zipWith (fun mark gap => mark && gap.after.any set.mem) marks gaps).dropLast

def iterate (step : Marks → Marks) : Nat → Marks → Marks
  | 0, marks => marks
  | n + 1, marks => if marks.any id then iterate step n (step marks) else marks

def spread (step : Marks → Marks) : Nat → Marks → Marks
  | 0, marks => marks
  | n + 1, marks =>
    let wider := join marks (step marks)
    if wider = marks then marks else spread step n wider

/-- Where the expression may end if it starts at a marked gap. A text of `n` gaps is
covered after `n` repetitions at most. -/
def reach (gaps : List Gap) : Regex → Marks → Marks
  | .empty, marks => marks
  | .one set, marks => advance set gaps marks
  | .look condition, marks =>
    List.zipWith (fun mark gap => mark && condition.holds gap) marks gaps
  | .seq first second, marks => reach gaps second (reach gaps first marks)
  | .alt first second, marks => join (reach gaps first marks) (reach gaps second marks)
  | .repeated body least further, marks =>
    let step := fun marks => reach gaps body marks
    spread step (further.elim gaps.length (min gaps.length)) (iterate step least marks)

def found (regex : Regex) (text : List Char) : Bool :=
  let gaps := gaps text
  (reach gaps regex (gaps.map fun _ => true)).any id

end Regex
end Retrace
