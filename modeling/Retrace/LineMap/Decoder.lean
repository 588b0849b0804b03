import Retrace.LineMap
import Retrace.LineMap.Json

/-!
# Reading line maps

A line map is a JSON object. Its keys are 32-bit words written as JSON integers,
and each value is an object with `line`, `column` and perhaps `span`, or an
array of two or three words. Other fields are passed over, an absent span is 1,
and entries are inserted from left to right. The first problem met decides the
kind of error.
-/

namespace Retrace.LineMap

open Json Text

structure Fields where
  line : Option UInt32 := none
  column : Option UInt32 := none
  span : Option UInt32 := none

namespace Fields

def place (fields : Fields) : Except MapError Place :=
  match fields.line, fields.column with
  | some line, some column => .ok ⟨line, column, fields.span.getD 1⟩
  | _, _ => .error .mismatched

/-- Reads the value of a field, from its colon on. A known field may not come twice. -/
def read (fields : Fields) (name : List Char) (text : List Char) : Except MapError (Fields × List Char) := do
  if name = "line".toList then
    if fields.line.isSome then throw .mismatched
    let (value, rest) ← word (← colon text)
    return ({ fields with line := some value }, rest)
  else if name = "column".toList then
    if fields.column.isSome then throw .mismatched
    let (value, rest) ← word (← colon text)
    return ({ fields with column := some value }, rest)
  else if name = "span".toList then
    if fields.span.isSome then throw .mismatched
    let (value, rest) ← word (← colon text)
    return ({ fields with span := some value }, rest)
  else
    let rest ← skipValue (← colon text)
    return (fields, rest)

end Fields

/-- The text of the next key after its opening quote, or none at the closing brace. -/
def nextKey (first : Bool) (text : List Char) : Except MapError (Option (List Char) × List Char) :=
  match skipSpace text with
  | '\x7d' :: rest => .ok (none, rest)
  | '"' :: rest => if first then .ok (some rest, rest) else .error .malformed
  | ',' :: rest =>
    if first then .error .malformed
    else match skipSpace rest with
      | '"' :: rest => .ok (some rest, rest)
      | rest => .error (unexpected rest)
  | rest => .error (unexpected rest)

def fieldsLoop : Nat → Bool → Fields → List Char → Except MapError (Place × List Char)
  | 0, _, _, _ => .error .truncated
  | fuel + 1, first, fields, text => do
    match ← nextKey first text with
    | (none, rest) => return (← fields.place, rest)
    | (some body, _) =>
      let (name, rest) ← string true body
      let (fields, rest) ← fields.read name rest
      fieldsLoop fuel false fields rest

/-- The next word of an array, or none at the closing bracket, which stays. -/
def nextWord (first : Bool) (text : List Char) : Except MapError (Option UInt32 × List Char) :=
  match skipSpace text with
  | [] => .error .truncated
  | ']' :: rest => .ok (none, ']' :: rest)
  | c :: rest =>
    if first then (word (c :: rest)).map fun (value, rest) => (some value, rest)
    else if c = ',' then
      match skipSpace rest with
      | [] => .error .truncated
      | ']' :: _ => .error .malformed
      | rest => (word rest).map fun (value, rest) => (some value, rest)
    else .error .malformed

def arrayEnd (text : List Char) : Except MapError (List Char) :=
  match skipSpace text with
  | ']' :: rest => .ok rest
  | rest => .error (unexpected rest)

def arrayPlace (text : List Char) : Except MapError (Place × List Char) := do
  let (some line, rest) ← nextWord true text | throw .mismatched
  let (some column, rest) ← nextWord false rest | throw .mismatched
  let (span, rest) ← nextWord false rest
  return (⟨line, column, span.getD 1⟩, ← arrayEnd rest)

def place (text : List Char) : Except MapError (Place × List Char) :=
  match skipSpace text with
  | '[' :: rest => arrayPlace rest
  | '\x7b' :: rest => fieldsLoop (rest.length + 1) true {} rest
  | rest => .error (strayValue rest)

def key (text : List Char) : Except MapError (UInt32 × List Char) := do
  let (value, rest) ← match text with
    | '-' :: rest => unsigned false rest
    | c :: rest => if isDigit c then unsigned true (c :: rest) else throw .malformed
    | [] => throw .malformed
  match rest with
  | '"' :: rest => return (value, rest)
  | _ => throw .malformed

def entriesLoop : Nat → Bool → LineMap → List Char → Except MapError (LineMap × List Char)
  | 0, _, _, _ => .error .truncated
  | fuel + 1, first, map, text => do
    match ← nextKey first text with
    | (none, rest) => return (map, rest)
    | (some body, _) =>
      let (line, rest) ← key body
      let (held, rest) ← place (← colon rest)
      entriesLoop fuel false (map.insert line held) rest

def ofJson (text : List Char) : Except MapError LineMap :=
  match skipSpace text with
  | '\x7b' :: rest => do
    let (map, rest) ← entriesLoop (rest.length + 1) true empty rest
    if (skipSpace rest).isEmpty then return map else throw .malformed
  | rest => .error (strayValue rest)

def parse (text : String) : Except MapError LineMap := ofJson text.toList

end Retrace.LineMap
