import Retrace.Text.Numeral

/-!
# Rows and tables

A variable may hold many values: a row has them by number, a table by key. A row is
shown in the order of its numbers, a table in the order of the places its keys have in
it.
-/

namespace Retrace.Shell

/-- The elements of a row in ascending order, or those of a table in the order they came. -/
inductive Elements where
  | row (entries : List (Nat × List Char))
  | table (entries : List (List Char × List Char))
  deriving DecidableEq, Repr

/-- Mixes one byte into the number of a key. Bytes above 127 count as negative. -/
def mixKey (number : Nat) (c : Char) : Nat :=
  let byte := if c.toNat < 128 then c.toNat else 4294967040 + c.toNat % 256
  (number * 16777619 % 4294967296) ^^^ byte

def keyPlace (places : Nat) (key : List Char) : Nat := key.foldl mixKey 2166136261 % places

/-- Pairs in the order of the places of their keys; of two at one place the later one is first. -/
def inPlaces {α : Type} (places : Nat) (entries : List (List Char × α)) : List (List Char × α) :=
  (entries.reverse.map fun entry => (keyPlace places entry.1, entry)).mergeSort
    (fun a b => a.1 ≤ b.1) |>.map (·.2)

def tablePlaces : Nat := 1024

namespace Elements

def entries : Elements → List (List Char × List Char)
  | .row entries => entries.map fun (place, value) => (Text.decimal place, value)
  | .table entries => inPlaces tablePlaces entries

def values (elements : Elements) : List (List Char) := elements.entries.map (·.2)

def size : Elements → Nat
  | .row entries => entries.length
  | .table entries => entries.length

def first? : Elements → Option (List Char)
  | .row entries => entries.lookup 0
  | .table entries => entries.lookup ['0']

def afterLast : Elements → Nat
  | .row entries => (entries.getLast?.map (·.1 + 1)).getD 0
  | .table _ => 0

def putAt (place : Nat) (value : List Char) : List (Nat × List Char) → List (Nat × List Char)
  | [] => [(place, value)]
  | (other, held) :: rest =>
    if other < place then (other, held) :: putAt place value rest
    else if other = place then (place, value) :: rest
    else (place, value) :: (other, held) :: rest

def putUnder (key value : List Char) (entries : List (List Char × List Char)) :
    List (List Char × List Char) :=
  if entries.any (·.1 = key) then entries.map fun entry => if entry.1 = key then (key, value) else entry
  else entries ++ [(key, value)]

def ofValues (values : List (List Char)) : Elements :=
  .row ((List.range values.length).zip values)

end Elements

inductive Key where
  | place (number : Nat)
  | name (text : List Char)
  deriving DecidableEq, Repr

namespace Elements

def get? : Elements → Key → Option (List Char)
  | .row entries, .place number => entries.lookup number
  | .table entries, .name text => entries.lookup text
  | _, _ => none

def put : Elements → Key → List Char → Elements
  | .row entries, .place number, value => .row (putAt number value entries)
  | .table entries, .name text, value => .table (putUnder text value entries)
  | elements, _, _ => elements

def erase : Elements → Key → Elements
  | .row entries, .place number => .row (entries.filter (·.1 ≠ number))
  | .table entries, .name text => .table (entries.filter (·.1 ≠ text))
  | elements, _ => elements

end Elements
end Retrace.Shell
