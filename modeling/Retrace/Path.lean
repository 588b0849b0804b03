import Retrace.Text.Search

/-!
# Paths as text

A path is a text whose components are separated by slashes. Nothing here looks
at files: `join` and `parent?` keep the text as it was written, while the name
functions look past trailing slashes and dots.
-/

namespace Retrace.Path

def segments : List Char → List (List Char)
  | [] => [[]]
  | c :: rest =>
    if c = '/' then [] :: segments rest
    else match segments rest with
      | [] => [[c]]
      | first :: others => (c :: first) :: others

def unsegment : List (List Char) → List Char
  | [] => []
  | [last] => last
  | first :: others => first ++ '/' :: unsegment others

def isAbsolute (path : String) : Bool := path.toList.head? = some '/'

/-- An absolute `name` stands alone; otherwise one slash divides the two. -/
def join (base name : String) : String :=
  if isAbsolute name then name
  else if base.isEmpty || base.toList.getLast? = some '/' then base ++ name
  else base ++ "/" ++ name

def slashed (path : String) : String :=
  String.ofList (path.toList.map fun c => if c = '\\' then '/' else c)

def isIdle (segment : List Char) : Bool := segment.isEmpty || segment = ['.']

/-- A path taken apart: whether it is rooted, whether it begins with a dot of its
own, and the segments that follow. -/
structure Parts where
  rooted : Bool
  dotted : Bool
  body : List (List Char)
  deriving DecidableEq, Repr

def parts (path : String) : Parts :=
  match segments path.toList with
  | [] :: body@(_ :: _) => ⟨true, false, body⟩
  | ['.'] :: body => ⟨false, true, body⟩
  | body => ⟨false, false, body⟩

def dropIdleEnd (body : List (List Char)) : List (List Char) :=
  (body.reverse.dropWhile isIdle).reverse

def Parts.toText (parts : Parts) : String :=
  let body := unsegment parts.body
  String.ofList <|
    if parts.rooted then '/' :: body
    else if parts.dotted then if parts.body.isEmpty then ['.'] else '.' :: '/' :: body
    else body

def components (path : String) : Parts :=
  let parts := parts path
  { parts with body := parts.body.filter fun segment => !isIdle segment }

def fileName? (path : String) : Option String :=
  match (dropIdleEnd (parts path).body).getLast? with
  | some name => if name = ['.', '.'] then none else some (String.ofList name)
  | none => none

/-- The name up to its last dot; a dot in front hides the file and ends nothing. -/
def stem (name : List Char) : List Char :=
  let before := name.reverse.dropWhile (· ≠ '.') |>.drop 1
  if before.isEmpty then name else before.reverse

def fileStem? (path : String) : Option String :=
  (fileName? path).map fun name => String.ofList (stem name.toList)

/-- Everything in front of the last component; the root and the empty path have none. -/
def parent? (path : String) : Option String :=
  let parts := parts path
  match (dropIdleEnd parts.body).reverse with
  | _ :: front => some { parts with body := dropIdleEnd front.reverse }.toText
  | [] => if parts.dotted then some "" else none

def withExtension (name extension : String) : String :=
  match fileStem? name with
  | none => name
  | some stem =>
    if extension.isEmpty then stem else stem ++ "." ++ extension

end Retrace.Path
