import Retrace.Fault

/-!
# JSON pieces of a line map

Readers for the parts of a line-map text. Each takes the text from where it
stands and returns what it read with the rest, or the first problem it met. A
strict string must denote Unicode text; a skipped one may hold any escapes.
-/

namespace Retrace.LineMap.Json

open Text

def isSpace (c : Char) : Bool := c = ' ' || c = '\n' || c = '\t' || c = '\r'

def skipSpace (text : List Char) : List Char := text.dropWhile isSpace

def unexpected : List Char → MapError
  | [] => .truncated
  | _ :: _ => .malformed

/-! ## Strings -/

def hexValue? (c : Char) : Option Nat :=
  if isDigit c then some (digitValue c)
  else if 'a' ≤ c && c ≤ 'f' then some (c.toNat - 87)
  else if 'A' ≤ c && c ≤ 'F' then some (c.toNat - 55)
  else none

def byteLength (text : List Char) : Nat := text.foldl (fun total c => total + c.utf8Size) 0

/-- Four hexadecimal digits. Fewer than four bytes are too few whatever they say. -/
def hexCode : List Char → Except MapError (Nat × List Char)
  | a :: b :: c :: d :: rest =>
    match hexValue? a, hexValue? b, hexValue? c, hexValue? d with
    | some a, some b, some c, some d => .ok (((a * 16 + b) * 16 + c) * 16 + d, rest)
    | _, _, _, _ => .error .malformed
  | text => .error (if byteLength text < 4 then .truncated else .malformed)

def isHighSurrogate (code : Nat) : Bool := 0xD800 ≤ code && code ≤ 0xDBFF

def isLowSurrogate (code : Nat) : Bool := 0xDC00 ≤ code && code ≤ 0xDFFF

def lowHalf (high : Nat) : List Char → Except MapError (Char × List Char)
  | '\\' :: 'u' :: rest => do
    let (low, rest) ← hexCode rest
    if isLowSurrogate low then
      return (Char.ofNat (0x10000 + (high - 0xD800) * 0x400 + (low - 0xDC00)), rest)
    else throw .malformed
  | [] => .error .truncated
  | ['\\'] => .error .truncated
  | _ => .error .malformed

def unicodeEscape (strict : Bool) (text : List Char) : Except MapError (Char × List Char) := do
  let (code, rest) ← hexCode text
  if !strict then return (Char.ofNat code, rest)
  else if isLowSurrogate code then throw .malformed
  else if isHighSurrogate code then lowHalf code rest
  else return (Char.ofNat code, rest)

def escape (strict : Bool) : List Char → Except MapError (Char × List Char)
  | [] => .error .truncated
  | c :: rest =>
    if c = '"' || c = '\\' || c = '/' then .ok (c, rest)
    else if c = 'b' then .ok ('\x08', rest)
    else if c = 'f' then .ok ('\x0c', rest)
    else if c = 'n' then .ok ('\n', rest)
    else if c = 'r' then .ok ('\r', rest)
    else if c = 't' then .ok ('\t', rest)
    else if c = 'u' then unicodeEscape strict rest
    else .error .malformed

def stringLoop (strict : Bool) : Nat → List Char → Except MapError (List Char × List Char)
  | _, [] => .error .truncated
  | 0, _ :: _ => .error .truncated
  | fuel + 1, c :: rest =>
    if c = '"' then .ok ([], rest)
    else if c = '\\' then do
      let (d, rest) ← escape strict rest
      let (text, rest) ← stringLoop strict fuel rest
      return (d :: text, rest)
    else if c.toNat < 0x20 then .error .malformed
    else do
      let (text, rest) ← stringLoop strict fuel rest
      return (c :: text, rest)

/-- The rest of a string after its opening quote. Every character takes one step at most. -/
def string (strict : Bool) (text : List Char) : Except MapError (List Char × List Char) :=
  stringLoop strict text.length text

/-! ## Numbers

A number that is no 32-bit word is mismatched, except that one too large for a
double is malformed. A double holds 53 significant bits and numbers below
2^1024; ties round to even. -/

def bitLength (value : Nat) : Nat := if value = 0 then 0 else Nat.log2 value + 1

def round53 (value : Nat) : Nat :=
  let shift := bitLength value - 53
  let unit := Nat.pow 2 shift
  let quotient := value / unit
  let excess := 2 * (value % unit)
  if excess > unit || (excess = unit && quotient % 2 = 1) then (quotient + 1) * unit
  else quotient * unit

def inDoubleRange (significand : Nat) (exponent : Int) : Bool :=
  significand = 0 || exponent < 0 ||
    (exponent ≤ 308 &&
      round53 significand * round53 (Nat.pow 10 exponent.toNat) <
        Nat.pow 2 1024 - Nat.pow 2 970)

/-- Takes digits into a 64-bit significand while it holds them; the rest starts at
the first digit it does not hold, or behind the digits. -/
def absorb (significand : Nat) : List Char → Nat × List Char
  | [] => (significand, [])
  | c :: rest =>
    if isDigit c then
      let next := significand * 10 + digitValue c
      if next < UInt64.size then absorb next rest else (significand, c :: rest)
    else (significand, c :: rest)

def inexact (significand : Nat) (exponent : Int) : MapError :=
  if inDoubleRange significand exponent then .mismatched else .malformed

def exponentError (significand : Nat) (start : Int) (text : List Char) : MapError :=
  let (positive, text) := match text with
    | '+' :: rest => (true, rest)
    | '-' :: rest => (false, rest)
    | rest => (true, rest)
  match text with
  | [] => .truncated
  | c :: _ =>
    if !isDigit c then .malformed
    else
      let exponent := digitsValue (text.takeWhile isDigit)
      if exponent < Nat.pow 2 31 then
        inexact significand (if positive then start + exponent else start - exponent)
      else if significand ≠ 0 && positive then .malformed else .mismatched

def fractionError (significand : Nat) (exponent : Int) : List Char → MapError
  | 'e' :: rest => exponentError significand exponent rest
  | 'E' :: rest => exponentError significand exponent rest
  | _ => inexact significand exponent

def pointError (significand : Nat) (exponent : Int) (text : List Char) : MapError :=
  match text with
  | [] => .truncated
  | c :: _ =>
    if !isDigit c then .malformed
    else
      let (significand, rest) := absorb significand text
      let taken := text.length - rest.length
      fractionError significand (exponent - taken) (rest.dropWhile isDigit)

/-- What follows the integer digits, the first `dropped` of which did not fit. -/
def tailError (significand dropped : Nat) : List Char → MapError
  | '.' :: rest => pointError significand dropped rest
  | rest => fractionError significand dropped rest

def digits (positive : Bool) (text : List Char) : Except MapError (UInt32 × List Char) :=
  let (significand, rest) := absorb 0 text
  let overflow := rest.takeWhile isDigit
  let rest := rest.dropWhile isDigit
  if !overflow.isEmpty || rest.head? = some '.' || rest.head? = some 'e' || rest.head? = some 'E'
  then .error (tailError significand overflow.length rest)
  else match positive, fitWord? significand with
    | true, some value => .ok (value, rest)
    | _, _ => .error .mismatched

def unsigned (positive : Bool) : List Char → Except MapError (UInt32 × List Char)
  | [] => .error .truncated
  | c :: rest =>
    if !isDigit c then .error .malformed
    else if c = '0' && (rest.head?.map isDigit).getD false then .error .malformed
    else digits positive (c :: rest)

def literal (name : List Char) (text : List Char) : Except MapError (List Char) :=
  match name, text with
  | [], rest => .ok rest
  | _ :: _, [] => .error .truncated
  | n :: name, c :: rest => if n = c then literal name rest else .error .malformed

def strayValue : List Char → MapError
  | [] => .truncated
  | c :: rest =>
    let scalar := fun {α : Type} (read : Except MapError α) => match read with
      | .ok _ => MapError.mismatched
      | .error cause => cause
    if c = 'n' then scalar (literal "ull".toList rest)
    else if c = 't' then scalar (literal "rue".toList rest)
    else if c = 'f' then scalar (literal "alse".toList rest)
    else if c = '-' then scalar (unsigned false rest)
    else if isDigit c then scalar (unsigned true (c :: rest))
    else if c = '"' then scalar (string true rest)
    else if c = '[' || c = '\x7b' then .mismatched
    else .malformed

def word (text : List Char) : Except MapError (UInt32 × List Char) :=
  match skipSpace text with
  | [] => .error .truncated
  | c :: rest =>
    if c = '-' then unsigned false rest
    else if isDigit c then unsigned true (c :: rest)
    else .error (strayValue (c :: rest))

/-! ## Skipped values -/

def skipExponent (text : List Char) : Except MapError (List Char) :=
  let text := match text with
    | '+' :: rest => rest
    | '-' :: rest => rest
    | rest => rest
  if (text.head?.map isDigit).getD false then .ok (text.dropWhile isDigit) else .error .malformed

def skipFraction : List Char → Except MapError (List Char)
  | 'e' :: rest => skipExponent rest
  | 'E' :: rest => skipExponent rest
  | rest => .ok rest

def skipTail : List Char → Except MapError (List Char)
  | '.' :: rest =>
    if (rest.head?.map isDigit).getD false then skipFraction (rest.dropWhile isDigit)
    else .error .malformed
  | rest => skipFraction rest

def skipNumber : List Char → Except MapError (List Char)
  | [] => .error .malformed
  | c :: rest =>
    if !isDigit c then .error .malformed
    else if c = '0' then
      if (rest.head?.map isDigit).getD false then .error .malformed else skipTail rest
    else skipTail (rest.dropWhile isDigit)

def skipScalar (c : Char) (rest : List Char) : Except MapError (List Char) :=
  if c = 'n' then literal "ull".toList rest
  else if c = 't' then literal "rue".toList rest
  else if c = 'f' then literal "alse".toList rest
  else if c = '-' then skipNumber rest
  else if isDigit c then skipNumber (c :: rest)
  else if c = '"' then (string false rest).map (·.2)
  else .error .malformed

def colon (text : List Char) : Except MapError (List Char) :=
  match skipSpace text with
  | ':' :: rest => .ok rest
  | rest => .error (unexpected rest)

mutual

def skipValueLoop : Nat → List Char → Except MapError (List Char)
  | 0, _ => .error .truncated
  | fuel + 1, text =>
    match skipSpace text with
    | [] => .error .truncated
    | '[' :: rest =>
      match skipSpace rest with
      | ']' :: rest => .ok rest
      | rest => skipItemsLoop fuel rest
    | '\x7b' :: rest =>
      match skipSpace rest with
      | '\x7d' :: rest => .ok rest
      | rest => skipMembersLoop fuel rest
    | c :: rest => skipScalar c rest

def skipItemsLoop : Nat → List Char → Except MapError (List Char)
  | 0, _ => .error .truncated
  | fuel + 1, text => do
    let rest ← skipValueLoop fuel text
    match skipSpace rest with
    | ',' :: rest => skipItemsLoop fuel rest
    | ']' :: rest => return rest
    | rest => throw (unexpected rest)

def skipMembersLoop : Nat → List Char → Except MapError (List Char)
  | 0, _ => .error .truncated
  | fuel + 1, text =>
    match skipSpace text with
    | '"' :: rest => do
      let (_, rest) ← string false rest
      let rest ← colon rest
      let rest ← skipValueLoop fuel rest
      match skipSpace rest with
      | ',' :: rest => skipMembersLoop fuel rest
      | '\x7d' :: rest => return rest
      | rest => throw (unexpected rest)
    | rest => .error (unexpected rest)

end

/-- Passes over one value of any shape. A character starts two loops at most. -/
def skipValue (text : List Char) : Except MapError (List Char) :=
  skipValueLoop (2 * text.length + 2) text

end Retrace.LineMap.Json
