import Retrace.Shell.Printing
import Retrace.Tool.Awk.Tree
import Std.Data.HashMap

/-!
# Values and tables

A value is a number or a text; one that came from outside counts as a number where
it looks like one. Tables give values to texts, and are gone through by the places
that the texts have by their hash.
-/

namespace Retrace.Tool.Awk

open Unix Text

inductive Value where
  | none
  | number (value : Float)
  | text (value : Bytes)
  | input (value : Bytes)

def isSpace (c : Char) : Bool := c = ' ' || ('\t' ≤ c && c ≤ '\r')

def numberAt (text : Bytes) : Float :=
  let scan := Shell.Real.scan text
  let digits := (text.dropWhile isSpace).dropWhile fun c => c = '+' || c = '-'
  if scan.found && (digits.head?).any (fun c => c.isDigit || c = '.') then scan.value else 0.0

def looksNumeric (text : Bytes) : Bool :=
  let scan := Shell.Real.scan text
  let digits := (text.dropWhile isSpace).dropWhile fun c => c = '+' || c = '-'
  scan.found && scan.rest.all isSpace && (digits.head?).any fun c => c.isDigit || c = '.'

def integer? (value : Float) : Option Int :=
  match Shell.Real.ofFloat value with
  | .finite parts =>
    let up := parts.mantissa * Nat.pow 2 parts.exponent.toNat
    let down := Nat.pow 2 (-parts.exponent).toNat
    if 64 ≤ parts.exponent || up % down ≠ 0 then .none
    else
      let n := up / down
      if Nat.pow 2 64 < n then .none
      else some (if parts.negative then -(n : Int) else (n : Int))
  | _ => .none

def truncated (value : Float) : Int :=
  match Shell.Real.ofFloat value with
  | .finite parts =>
    let n := parts.mantissa * Nat.pow 2 parts.exponent.toNat / Nat.pow 2 (-parts.exponent).toNat
    let n := min n (Nat.pow 2 63 - 1)
    if parts.negative then -(n : Int) else (n : Int)
  | .infinite negative => if negative then Shell.Integer.least else Shell.Integer.greatest
  | .undefined _ => Shell.Integer.least

/-! ## Formats -/

/-- A directive of a format: what it is and what follows it. Stars have been given their numbers. -/
structure Spec where
  directive : Shell.Directive
  rest : Bytes

/-- Reads a directive after its percent sign. `sizes` are the numbers that stars stand for; how
many of them were used is told. -/
def Spec.read (sizes : List Int) (text : Bytes) : Spec × Nat :=
  let flags := text.takeWhile fun c => "-+ #0".toList.contains c
  let text := text.drop flags.length
  let size := fun (sizes : List Int) (text : Bytes) =>
    match text with
    | '*' :: rest => ((sizes.headD 0 : Int), true, rest)
    | _ =>
      let digits := text.takeWhile Char.isDigit
      ((digitsValue digits : Int), false, text.drop digits.length)
  let (width, starred, text) := size sizes text
  let sizes := if starred then sizes.drop 1 else sizes
  let (precision, second, text) : Option Nat × Bool × Bytes := match text with
    | '.' :: rest =>
      let (n, starred, rest) := size sizes rest
      (if n < 0 then none else some n.toNat, starred, rest)
    | _ => (none, false, text)
  let text := text.dropWhile fun c => c = 'l' || c = 'h' || c = 'L'
  let kind := text.headD '\x00'
  ({ directive := { flags, width := width.natAbs, left := flags.contains '-' || width < 0, precision, kind }
     rest := text.drop 1 }, (if starred then 1 else 0) + if second then 1 else 0)

def starsIn (text : Bytes) : Nat :=
  ((text.takeWhile fun c => "-+ #0*.123456789".toList.contains c).filter (· = '*')).length

def formatNumber (format : Bytes) (value : Float) : Bytes :=
  match format with
  | '%' :: rest =>
    let (spec, _) := Spec.read [] rest
    spec.directive.real value ++ spec.rest
  | _ => format

def numberText (format : Bytes) (value : Float) : Bytes :=
  match integer? value with
  | some n =>
    if (Nat.pow 2 64 : Nat) = n.toNat then decimal (Nat.pow 2 64 - 1)
    else if n < 0 then '-' :: decimal n.natAbs else decimal n.natAbs
  | none => formatNumber format value

namespace Value

def toNumber : Value → Float
  | .none => 0.0
  | .number value => value
  | .text value => numberAt value
  | .input value => numberAt value

def toText (format : Bytes) : Value → Bytes
  | .none => []
  | .number value => numberText format value
  | .text value => value
  | .input value => value

def asNumber? : Value → Option Float
  | .none => some 0.0
  | .number value => some value
  | .text _ => .none
  | .input value => if looksNumeric value then some (numberAt value) else .none

def isTrue : Value → Bool
  | .none => false
  | .number value => value != 0.0
  | .text value => !value.isEmpty
  | .input value => if looksNumeric value then numberAt value != 0.0 else !value.isEmpty

def ofBool (value : Bool) : Value := .number (if value then 1.0 else 0.0)

end Value

def Relation.holds (relation : Relation) (order : Ordering) : Bool :=
  match relation with
  | .less => order = .lt
  | .lessEqual => order ≠ .gt
  | .equal => order = .eq
  | .unequal => order ≠ .eq
  | .greater => order = .gt
  | .greaterEqual => order ≠ .lt

def Relation.holdsNumbers (relation : Relation) (a b : Float) : Bool :=
  match relation with
  | .less => a < b
  | .lessEqual => a <= b
  | .equal => a == b
  | .unequal => a != b
  | .greater => b < a
  | .greaterEqual => b <= a

def Relation.relates (relation : Relation) (format : Bytes) (a b : Value) : Bool :=
  match a.asNumber?, b.asNumber? with
  | some x, some y => relation.holdsNumbers x y
  | _, _ => relation.holds (compare (a.toText format) (b.toText format))

/-! ## Tables -/

def hash (text : Bytes) : Nat :=
  text.foldl (fun h c => Nat.xor h c.toNat * 16777619 % 4294967296) 2166136261

/-- A table: values by text, and the texts in the lists they are kept in, by hash and by number.
Those that are known by number only have no list by hash yet. -/
structure Table where
  cells : Std.HashMap Bytes Value := {}
  width : Nat := 64
  byHash : Std.HashMap Nat (List Bytes) := {}
  byNumber : Std.HashMap Nat (List Int) := {}
  hashed : Bool := false

namespace Table

def size (table : Table) : Nat := table.cells.size

variable (table : Table)

def hashPlace (key : Bytes) : Nat := hash key % table.width

def numberPlace (n : Int) : Nat := (n % (table.width : Int)).toNat

def integerText (n : Int) : Bytes := if n < 0 then '-' :: decimal n.natAbs else decimal n.natAbs

def rehash : Table :=
  if table.hashed then table
  else
    let numbers := (List.range table.width).flatMap fun i => table.byNumber.getD i []
    let lists := numbers.foldl (fun (lists : Std.HashMap Nat (List Bytes)) n =>
      let key := integerText n
      let place := table.hashPlace key
      lists.insert place (key :: lists.getD place [])) table.byHash
    { table with byHash := lists, hashed := true }

def grow : Table :=
  if table.cells.size ≤ table.width * 12 then table
  else
    let keys := (List.range table.width).flatMap fun i => table.byHash.getD i []
    let numbers := (List.range table.width).flatMap fun i => table.byNumber.getD i []
    let wide := { table with width := table.width * 2, byHash := {}, byNumber := {} }
    let byHash := keys.reverse.foldl (fun (lists : Std.HashMap Nat (List Bytes)) key =>
      let place := wide.hashPlace key
      lists.insert place (key :: lists.getD place [])) {}
    let byNumber := numbers.reverse.foldl (fun (lists : Std.HashMap Nat (List Int)) n =>
      let place := wide.numberPlace n
      lists.insert place (n :: lists.getD place [])) {}
    { wide with byHash, byNumber }

/-- Finds a text, which comes to the front of its list; a new one is entered if that is wanted. -/
def touchText (key : Bytes) (creates : Bool) : Table :=
  let table := table.rehash
  let place := table.hashPlace key
  let list := table.byHash.getD place []
  if table.cells.contains key then
    if list.head? = some key then table
    else { table with byHash := table.byHash.insert place (key :: list.erase key) }
  else if creates then
    grow { table with
      cells := table.cells.insert key .none
      byHash := table.byHash.insert place (key :: list) }
  else table

def touchNumber (n : Int) (creates : Bool) : Table :=
  let key := integerText n
  let place := table.numberPlace n
  let list := table.byNumber.getD place []
  if list.contains n then
    if list.head? = some n then table
    else { table with byNumber := table.byNumber.insert place (n :: list.erase n) }
  else if table.hashed then
    let table := table.touchText key creates
    if table.cells.contains key then
      let place := table.numberPlace n
      { table with byNumber := table.byNumber.insert place (n :: table.byNumber.getD place []) }
    else table
  else if creates then
    grow { table with
      cells := table.cells.insert key .none
      byNumber := table.byNumber.insert place (n :: list) }
  else table

def keyOf (format : Bytes) (value : Value) : Bytes × Option Int :=
  match value with
  | .number x => (numberText format x, integer? x)
  | value => (value.toText format, none)

def touch (key : Bytes × Option Int) (creates : Bool) : Table :=
  match key.2 with
  | some n => table.touchNumber n creates
  | none => table.touchText key.1 creates

def get? (key : Bytes) : Option Value := table.cells[key]?

def set (key : Bytes × Option Int) (value : Value) : Table :=
  let table := table.touch key true
  { table with cells := table.cells.insert key.1 value }

def erase (table : Table) (key : Bytes) : Table :=
  let place := table.hashPlace key
  let number? : Option Int := match Shell.Integer.scan 10 key with
    | scan => if integerText scan.value = key then some scan.value else none
  let byNumber := match number? with
    | some n =>
      let place := table.numberPlace n
      table.byNumber.insert place ((table.byNumber.getD place []).erase n)
    | none => table.byNumber
  { table with
    cells := table.cells.erase key
    byHash := table.byHash.insert place ((table.byHash.getD place []).erase key)
    byNumber }

def keys : List Bytes × Table :=
  let table := table.rehash
  ((List.range table.width).flatMap fun i => table.byHash.getD i [], table)

end Table
end Retrace.Tool.Awk
