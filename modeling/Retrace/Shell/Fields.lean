import Retrace.Shell.Pattern

/-!
# Fields

An expanded word is a row of segments. What came out of an expansion is open to
splitting; what was written or quoted is fixed. Splitting cuts at separators:
blanks in a row are one cut, together with one other separator among them.
-/

namespace Retrace.Shell

inductive Segment where
  /-- Quotes stood here, so that there is a field even if it is empty. -/
  | quote
  | fixed (marks : List Mark)
  | splits (strict : Bool) (marks : List Mark)

namespace Segment

def marks : Segment → List Mark
  | .quote => []
  | .fixed marks => marks
  | .splits _ marks => marks

def text (segments : List Segment) : Bytes :=
  segments.flatMap fun segment => segment.marks.map (·.1)

end Segment

def betweenParams : Char := '\x00'

def isBlankSeparator (c : Char) : Bool := c = ' ' || c = '\t' || c = '\n' || c = betweenParams

structure Cutting where
  separators : Bytes
  limit : Option Nat := none
  fields : List (List Mark) := []
  /-- The characters of the running field, last first; quotes leave no character. -/
  current : List (Option Mark) := []
  (spaced strict wasStrict : Bool := false)
  /-- What follows the last separators of the last field, if nothing does so far. -/
  tail : Option (List (Option Mark)) := none

namespace Cutting

def field (marks : List (Option Mark)) : List Mark := (marks.filterMap id).reverse

variable (cutting : Cutting)

/-- Goes on after the last cut that was allowed: separators at the end may still go. -/
def passLast (mark : Mark) (separates blank : Bool) : Cutting :=
  let current := some mark :: cutting.current
  if blank then
    { cutting with current, tail := cutting.tail.or (some cutting.current) }
  else
    { cutting with
      current
      spaced := false
      tail := if separates && cutting.spaced then cutting.tail else none }

def cut : Cutting :=
  { cutting with fields := field cutting.current :: cutting.fields, current := [] }

def pass (mark : Mark) : Cutting :=
  let c := mark.1
  let separates :=
    c = betweenParams || (!cutting.strict && cutting.separators.contains c)
  let blank := separates && isBlankSeparator c
  if cutting.limit = some 0 then cutting.passLast mark separates blank
  else if cutting.spaced && blank then cutting
  else if cutting.spaced && separates then { cutting with spaced := false }
  else if separates then
    let spaced := if cutting.strict || cutting.wasStrict then cutting.spaced else blank
    if cutting.current.isEmpty && spaced then { cutting with spaced := false }
    else match cutting.limit with
      | some 1 =>
        { cutting with
          limit := some 0
          spaced
          tail := some cutting.current
          current := some mark :: cutting.current }
      | limit => { cutting.cut with spaced, limit := limit.map (· - 1) }
  else { cutting with spaced := false, current := some mark :: cutting.current }

def passSegment : Segment → Cutting
  | .quote => { cutting with current := none :: cutting.current }
  | .fixed marks => { cutting with current := marks.reverse.map some ++ cutting.current }
  | .splits strict marks =>
    marks.foldl pass { cutting with strict, wasStrict := cutting.strict, spaced := false }

def result : List (List Mark) :=
  let last := cutting.tail.getD cutting.current
  let fields :=
    if last.isEmpty && !cutting.strict then cutting.fields else field last :: cutting.fields
  fields.reverse

end Cutting

def fields (separators : Bytes) (limit : Option Nat) (segments : List Segment) :
    List (List Mark) :=
  (segments.foldl Cutting.passSegment { separators, limit }).result

end Retrace.Shell
