/-!
# Lines of a text

A newline ends a line, and one carriage return in front of it goes with it. The
text after the last newline is a line only if it is not empty, and keeps its
carriage return. `pieces` is the plain cut at newlines that the laws speak of.
-/

namespace Retrace.Text

/-- What stands between the newlines: one piece more than there are newlines. -/
def pieces : List Char → List (List Char)
  | [] => [[]]
  | c :: rest =>
    if c = '\n' then [] :: pieces rest
    else match pieces rest with
      | [] => [[c]]
      | first :: others => (c :: first) :: others

def dropReturn (line : List Char) : List Char :=
  if line.getLast? = some '\r' then line.dropLast else line

def endLines : List (List Char) → List (List Char)
  | [] => []
  | [last] => if last.isEmpty then [] else [last]
  | piece :: others => dropReturn piece :: endLines others

def lines (text : List Char) : List (List Char) := endLines (pieces text)

theorem pieces_ne_nil (text : List Char) : pieces text ≠ [] := by
  cases text with
  | nil => simp [pieces]
  | cons c rest =>
    by_cases h : c = '\n'
    · simp [pieces, h]
    · simp only [pieces, h, if_false]
      split <;> simp

theorem pieces_append_newline (first second : List Char) :
    pieces (first ++ '\n' :: second) = pieces first ++ pieces second := by
  induction first with
  | nil => simp [pieces]
  | cons c rest ih =>
    by_cases h : c = '\n'
    · subst h; simp [pieces, ih]
    · simp only [List.cons_append, pieces, h, if_false, ih]
      cases hp : pieces rest with
      | nil => exact absurd hp (pieces_ne_nil rest)
      | cons head tail => simp

end Retrace.Text
