import Retrace.Finding
import Retrace.Text.Blank
import Retrace.Text.Numeral
import Retrace.Text.Search

/-!
# Findings as the GNU-style drivers print them

One line is `path:line[:column]: category: message`. The path is rooted, and the
colon of a drive letter belongs to it. Lines without a category word, such as
the context of a template instantiation, are not findings.
-/

namespace Retrace.Finding.Gnu

open Text

/-- How many characters of a rooted path may hold a colon that ends nothing. -/
def rootLength : List Char → Option Nat
  | '/' :: _ => some 0
  | '\\' :: _ => some 0
  | drive :: ':' :: slash :: _ =>
    if drive.isAlpha && (slash = '/' || slash = '\\') then some 2 else none
  | _ => none

def categories : List String := ["error", "warning", "note", "fatal error"]

def category? (text : List Char) : Option Severity :=
  let word := String.ofList (trim text)
  if word ∈ categories then some (.ofCategory word) else none

def path? (text : List Char) : Option (List Char × List Char) := do
  let root ← rootLength text
  let (stem, rest) ← cut ':' (text.drop root)
  return (text.take root ++ stem, rest)

/-- The column, zero when there is none. A column that is printed ends with a colon. -/
def column? (text : List Char) : Option (UInt32 × List Char) :=
  match leadingWord? text with
  | some (column, ':' :: rest) => some (column, rest)
  | some _ => none
  | none => some (0, text)

def read? (text : List Char) : Option Finding := do
  let (file, rest) ← path? text
  let (line, ':' :: rest) ← leadingWord? rest | none
  let (column, rest) ← column? rest
  let (word, message) ← cut ':' rest
  let severity ← category? word
  return {
    file := String.ofList file
    line, column, severity
    code := none
    message := String.ofList (trim message) }

def parse (line : List Char) : Option Finding := read? (trimEnd line)

end Retrace.Finding.Gnu
