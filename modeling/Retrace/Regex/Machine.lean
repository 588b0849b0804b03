import Retrace.Regex.Charset

/-!
# How big a machine for an expression is

An expression is run by a machine of states joined by steps on bytes. A second
machine runs it backwards, from the end of what it matches. `Part` is what the
machines are built from: neighbouring letters are one part, and a choice of single
characters is a set. Neither machine may take up more than `Part.limit` bytes.
-/

/-!
## Sets of characters as ranges of bytes

The members of a set in order, as ranges of character numbers that do not touch,
and those ranges as sequences of byte ranges: what the members are encoded as.
-/

namespace Retrace

abbrev Ranges := List (Nat × Nat)

namespace Ranges

def insert (low high : Nat) : Ranges → Ranges
  | [] => [(low, high)]
  | (first, last) :: rest =>
    if high + 1 < first then (low, high) :: (first, last) :: rest
    else if last + 1 < low then (first, last) :: insert low high rest
    else insert (min low first) (max high last) rest

def union (first second : Ranges) : Ranges :=
  first.foldl (fun ranges (low, high) => insert low high ranges) second

def top : Nat := 0x10FFFF

def complementFrom (start : Nat) : Ranges → Ranges
  | [] => if start ≤ top then [(start, top)] else []
  | (low, high) :: rest =>
    if start < low then (start, low - 1) :: complementFrom (high + 1) rest
    else complementFrom (high + 1) rest

def complement (ranges : Ranges) : Ranges := complementFrom 0 ranges

def inter (first second : Ranges) : Ranges :=
  complement (union (complement first) (complement second))

def folded (ranges : Ranges) : Ranges :=
  let raised := (inter ranges [(0x61, 0x7A)]).map fun (low, high) => (low - 32, high - 32)
  let lowered := (inter ranges [(0x41, 0x5A)]).map fun (low, high) => (low + 32, high + 32)
  union ranges (union raised lowered)

end Ranges

def Charset.ranges : Charset → Ranges
  | .none => []
  | .range low high => if low ≤ high then [(low.toNat, high.toNat)] else []
  | .complement set => set.ranges.complement
  | .union first second => first.ranges.union second.ranges
  | .inter first second => first.ranges.inter second.ranges
  | .folded set => set.ranges.folded

namespace Ranges

/-- Where the bytes of characters are cut: below each bound they are one byte fewer. -/
def lengthBounds : List Nat := [0x7F, 0x7FF, 0xFFFF]

/-- Where to cut a range so that each byte ranges on its own: the end of the first piece and the
start of the second. -/
def cut? (low high : Nat) : Option (Nat × Nat) :=
  if low < 0xE000 && 0xD7FF < high then some (0xD7FF, 0xE000)
  else if let some bound := lengthBounds.find? fun bound => low ≤ bound && bound < high then
    some (bound, bound + 1)
  else if high ≤ 0x7F then none
  else [64, 4096, 262144].findSome? fun unit =>
    let start := if low % unit ≠ 0 then (low / unit + 1) * unit else high / unit * unit
    if low / unit = high / unit || (low % unit = 0 && high % unit = unit - 1) then none
    else some (start - 1, start)

/-- The byte ranges that a range of characters is encoded as. It is cut to a depth that no
range exceeds. -/
def sequencesOf : Nat → Nat → Nat → List Ranges
  | 0, _, _ => []
  | depth + 1, low, high =>
    if high < low then []
    else match cut? low high with
      | some (stop, start) => sequencesOf depth low stop ++ sequencesOf depth start high
      | none =>
        let bytes := fun (n : Nat) => (Char.ofNat n).toString.toUTF8.toList.map UInt8.toNat
        [List.zip (bytes low) (bytes high)]

def sequences (ranges : Ranges) : List Ranges :=
  ranges.flatMap fun (low, high) => sequencesOf 40 low high

end Ranges
end Retrace

/-! ## Parts of a machine -/

namespace Retrace.Regex

inductive Part where
  | empty
  | text (bytes : List Nat)
  | set (ranges : Ranges)
  | look
  | repeated (body : Part) (least : Nat) (most : Option Nat)
  | captured (place : Nat) (body : Part)
  | seq (parts : List Part)
  | alt (parts : List Part)
  deriving Repr, BEq

namespace Part

def bytesOf (n : Nat) : List Nat := (Char.ofNat n).toString.toUTF8.toList.map UInt8.toNat

def ofRanges : Ranges → Part
  | [(low, high)] => if low = high then .text (bytesOf low) else .set [(low, high)]
  | ranges => .set ranges

/-- One part before others: text grows, and what is empty adds nothing. -/
def before : Part → List Part → List Part
  | .empty, rest => rest
  | .text first, .text second :: rest => .text (first ++ second) :: rest
  | part, rest => part :: rest

def items : Part → List Part
  | .seq parts => parts
  | part => [part]

def ofItems : List Part → Part
  | [] => .empty
  | [only] => only
  | parts => .seq parts

def seqs (parts : List Part) : Part :=
  ofItems ((parts.flatMap items).foldr before [])

def ranges? : Part → Option Ranges
  | .set ranges => some ranges
  | .text bytes =>
    match String.fromUTF8? (ByteArray.mk (bytes.map Nat.toUInt8).toArray) with
    | some decoded =>
      match decoded.toList with
      | [c] => some [(c.toNat, c.toNat)]
      | _ => none
    | none => none
  | _ => none

def sequence? : Part → Option (List Part)
  | .seq parts => some parts
  | _ => none

def commonItems : List Part → List Part → List Part
  | first :: rest, other :: others =>
    if first == other then first :: commonItems rest others else []
  | _, _ => []

def choices : Part → List Part
  | .alt parts => parts
  | part => [part]

/-- A choice of parts. Single characters make a set, and what sequences have in common at the
start is taken out, to a depth. -/
def altsTo : Nat → List Part → Part
  | 0, parts => .alt parts
  | depth + 1, parts =>
    match parts.flatMap choices with
    | [] => .set []
    | [only] => only
    | first :: rest =>
      let parts := first :: rest
      match parts.mapM ranges? with
      | some sets => ofRanges (sets.foldl Ranges.union [])
      | none =>
        match parts.mapM sequence? with
        | some (leader :: others) =>
          let common := others.foldl commonItems leader
          if common.isEmpty then .alt parts
          else
            let rests := (leader :: others).map fun items => seqs (items.drop common.length)
            seqs (common ++ [altsTo depth rests])
        | _ => .alt parts

def alts (parts : List Part) : Part := altsTo 100 parts

mutual
/-- The fewest bytes a part matches; none if it matches nothing. -/
def least : Part → Option Nat
  | .empty => some 0
  | .text bytes => some bytes.length
  | .set [] => none
  | .set ((low, _) :: _) => some (bytesOf low).length
  | .look => some 0
  | .repeated body least _ => if least = 0 then some 0 else body.least.map (· * least)
  | .captured _ body => body.least
  | .seq parts => leastOfAll parts
  | .alt parts => leastOfAny parts

def leastOfAll : List Part → Option Nat
  | [] => some 0
  | first :: rest => do return (← first.least) + (← leastOfAll rest)

def leastOfAny : List Part → Option Nat
  | [] => none
  | first :: rest => Option.merge min first.least (leastOfAny rest)
end

mutual
def isBare : Part → Bool
  | .empty => true
  | .look => true
  | .repeated body _ _ => body.isBare
  | .captured _ body => body.isBare
  | .seq parts => areBare parts
  | .alt parts => areBare parts
  | _ => false

def areBare : List Part → Bool
  | [] => true
  | first :: rest => first.isBare && areBare rest
end

def times (body : Part) (least : Nat) (most : Option Nat) : Part :=
  let (least, most) := if body.isBare then (min least 1, some ((most.getD 1).min 1)) else (least, most)
  if most = some 0 then .empty
  else if least = 1 && most = some 1 then body
  else .repeated body least most

/-! ## Sizes -/

def state : Nat := 32

def fork (ways : Nat) : Nat := state + 4 * ways

def stepping (ranges : Nat) : Nat := state + 8 * ranges

abbrev Node := List ((Nat × Nat) × Nat)

def grouped : List Ranges → List ((Nat × Nat) × List Ranges)
  | [] => []
  | [] :: rest => grouped rest
  | (first :: after) :: rest =>
    match grouped rest with
    | (other, afters) :: more =>
      if first = other then (other, (after :: afters)) :: more
      else (first, [after]) :: (other, afters) :: more
    | [] => [(first, [after])]

/-- Adds the states for sequences of byte ranges to those there are, last first; the number of
the first of them. The last state of all is number 0, and alike states are one. -/
def addNodes : Nat → List Ranges → List Node → Nat × List Node
  | 0, _, nodes => (0, nodes)
  | depth + 1, sequences, nodes =>
    if sequences.all List.isEmpty then (0, nodes)
    else
      let (node, nodes) := (grouped sequences).foldl (fun (node, nodes) (range, afters) =>
        let (next, nodes) := addNodes depth afters nodes
        ((range, next) :: node, nodes)) (([] : Node), nodes)
      match nodes.reverse.idxOf? node with
      | some index => (index + 1, nodes)
      | none => (nodes.length + 1, node :: nodes)

def beginnings (sequences : List Ranges) : List Ranges :=
  (sequences.flatMap fun whole => (List.range whole.length).map fun n => whole.take (n + 1)).eraseDups

def setSize (backward : Bool) (ranges : Ranges) : Nat :=
  if ranges.all fun (_, high) => high ≤ 0x7F then state + stepping ranges.length
  else
    let sequences := ranges.sequences
    if backward then
      fork sequences.length + state + state * (beginnings sequences).length
    else
      state + ((addNodes 5 sequences []).2.map fun node => stepping node.length).foldl (· + ·) 0

/-- What texts do from a place on: rows of steps on a byte, each with the texts after it. A text
that ends here begins a new row. -/
def rows : List (List (Nat × List (List Nat))) → List (List Nat) → List (List (Nat × List (List Nat)))
  | read, [] => read.reverse
  | read, [] :: rest =>
    if read.flatten.isEmpty && 1 < read.length then rows read rest else rows ([] :: read) rest
  | read, (byte :: after) :: rest =>
    let row := read.headD []
    let row :=
      if row.any (·.1 = byte) then
        row.map fun (other, afters) => (other, if other = byte then afters ++ [after] else afters)
      else row ++ [(byte, [after])]
    rows (row :: read.drop 1) rest

def textsSize : Nat → List (List Nat) → Nat
  | 0, _ => 0
  | depth + 1, texts =>
    if texts.all List.isEmpty then 0
    else
      let rows := rows [[]] texts
      let steps := rows.map fun row =>
        if row.isEmpty then 0 else if row.length = 1 then state else stepping row.length
      let ways := (rows.filter (!·.isEmpty)).length + (rows.length - 1)
      let nexts := rows.flatten.map fun (_, afters) => textsSize depth afters
      steps.foldl (· + ·) 0 + fork ways + nexts.foldl (· + ·) 0

def text? : Part → Option (List Nat)
  | .text bytes => some bytes
  | _ => none

mutual
def size (backward : Bool) : Part → Nat
  | .empty => state
  | .text bytes => state * bytes.length
  | .set ranges => setSize backward ranges
  | .look => state
  | .repeated body least most =>
    let one := body.size backward
    match most with
    | none =>
      if least = 0 then
        if body.least.any (0 < ·) then fork 2 + one else fork 2 + fork 2 + state + one
      else least * one + fork 2
    | some most =>
      if least = 0 && most = 1 then fork 2 + one + state
      else
        let start := if least = 0 then state else least * one
        if least = most then start else start + state + (most - least) * (fork 2 + one)
  | .captured _ body => (if backward then 0 else 2 * state) + body.size backward
  | .seq parts => sizes backward parts
  | .alt parts =>
    match parts.mapM text? with
    | some texts =>
      let texts := if backward then texts.map List.reverse else texts
      state + textsSize ((texts.map List.length).foldl max 0 + 1) texts
    | none => fork parts.length + state + sizes backward parts

def sizes (backward : Bool) : List Part → Nat
  | [] => 0
  | first :: rest => first.size backward + sizes backward rest
end

def limit : Nat := 10485760

/-- What every machine has besides: a way in from anywhere, and an end. -/
def rest (backward : Bool) : Nat :=
  (if backward then 0 else 2 * state) + fork 2 + state + state

def isTooBig (backward : Bool) (part : Part) : Bool :=
  limit < part.size backward + rest backward

end Part
end Retrace.Regex
