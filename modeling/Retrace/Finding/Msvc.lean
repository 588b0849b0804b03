import Retrace.Finding
import Retrace.Text.Blank
import Retrace.Text.Numeral
import Retrace.Text.Search

/-!
# Findings as the Microsoft compiler prints them

One line is `path(line[,column]): category[ Cdigits]: message`. A path may hold
parentheses of its own, so every closing parenthesis with a colon after it is
tried in turn until one closes coordinates.
-/

namespace Retrace.Finding.Msvc

open Text

def coordinates? (inner : List Char) : Option (UInt32 × UInt32) :=
  match cut ',' inner with
  | some (line, column) => do
    let line ← signedWord? (trim line)
    let column ← signedWord? (trim column)
    return (line, column)
  | none => (signedWord? (trim inner)).map (·, 0)

/-- The category and the vendor code, if the last word in front of the colon is one.
`before` is the text already passed, last character first. -/
def vendorCode? (before : List Char) : List Char → Option (List Char × List Char)
  | [] => none
  | c :: rest =>
    let digits := rest.takeWhile isDigit
    if c = 'C' && !digits.isEmpty && (before.isEmpty || before.head? = some ' ')
        && allBlank (rest.dropWhile isDigit) then
      some (before.reverse, 'C' :: digits)
    else vendorCode? (c :: before) rest

def verdict? (rest : List Char) : Option (Severity × Option String × String) := do
  let (head, message) ← cut ':' (trimStart rest)
  let (category, code) := match vendorCode? [] head with
    | some (category, code) => (category, some (String.ofList code))
    | none => (head, none)
  return (.ofCategory (String.ofList (trim category)), code, String.ofList (trim message))

def site? (before : List Char) : Option (List Char × UInt32 × UInt32) := do
  let (inner, path) ← cut '(' before
  let (line, column) ← coordinates? inner.reverse
  return (trim path.reverse, line, column)

def finding? (path : List Char) (line column : UInt32) (rest : List Char) : Option Finding :=
  if path.isEmpty then none
  else (verdict? rest).map fun (severity, code, message) =>
    { file := String.ofList path, line, column, severity, code, message }

/-- Tries each closing parenthesis in turn. The first one that closes coordinates
decides, whatever follows it. -/
def scan (before : List Char) : List Char → Option Finding
  | [] => none
  | c :: rest =>
    match c, rest with
    | ')', ':' :: after =>
      match site? before with
      | some (path, line, column) => finding? path line column after
      | none => scan (c :: before) rest
    | _, _ => scan (c :: before) rest

def parse (line : List Char) : Option Finding := scan [] (trim line)

end Retrace.Finding.Msvc
