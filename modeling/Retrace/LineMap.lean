/-!
# Line maps

A line map takes lines of a generated source to places in the user's program.
Entries are kept in ascending order of the generated line, so two maps with the
same entries are equal. Lines without an entry are ordinary.
-/

namespace Retrace

structure Place where
  line : UInt32
  column : UInt32
  span : UInt32 := 1
  deriving DecidableEq, Repr

inductive Policy where
  | exact
  | nearest
  deriving DecidableEq, Repr

namespace LineMap

abbrev Entry := UInt32 × Place

/-- Puts an entry in its place; an entry of the same line gives way. -/
def insertEntry (line : UInt32) (place : Place) : List Entry → List Entry
  | [] => [(line, place)]
  | (other, held) :: rest =>
    if line < other then (line, place) :: (other, held) :: rest
    else if line = other then (line, place) :: rest
    else (other, held) :: insertEntry line place rest

def Ascending (entries : List Entry) : Prop := entries.Pairwise fun a b => a.1 < b.1

theorem mem_insertEntry {line : UInt32} {place : Place} {entries : List Entry} {entry : Entry}
    (h : entry ∈ insertEntry line place entries) : entry = (line, place) ∨ entry ∈ entries := by
  induction entries with
  | nil => simpa [insertEntry] using h
  | cons head rest ih =>
    obtain ⟨other, held⟩ := head
    simp only [insertEntry] at h
    split at h
    · simpa using h
    · split at h
      · rcases List.mem_cons.mp h with h | h
        · exact .inl h
        · exact .inr (List.mem_cons_of_mem _ h)
      · rcases List.mem_cons.mp h with h | h
        · exact .inr (h ▸ List.mem_cons_self)
        · exact (ih h).imp_right (List.mem_cons_of_mem _)

theorem ascending_insertEntry (line : UInt32) (place : Place) {entries : List Entry}
    (h : Ascending entries) : Ascending (insertEntry line place entries) := by
  induction entries with
  | nil => simp [insertEntry, Ascending]
  | cons head rest ih =>
    obtain ⟨other, held⟩ := head
    obtain ⟨hhead, hrest⟩ := List.pairwise_cons.mp h
    simp only [insertEntry]
    split
    · next hlt =>
      refine List.pairwise_cons.mpr ⟨fun entry he => ?_, h⟩
      rcases List.mem_cons.mp he with he | he
      · exact he ▸ hlt
      · exact UInt32.lt_trans hlt (hhead entry he)
    · next hnlt =>
      split
      · next heq => exact List.pairwise_cons.mpr ⟨fun entry he => heq ▸ hhead entry he, hrest⟩
      · next hne =>
        refine List.pairwise_cons.mpr ⟨fun entry he => ?_, ih hrest⟩
        rcases mem_insertEntry he with he | he
        · subst he
          exact UInt32.lt_of_le_of_ne (UInt32.not_lt.mp hnlt) (Ne.symm hne)
        · exact hhead entry he

end LineMap

structure LineMap where
  entries : List LineMap.Entry
  ascending : LineMap.Ascending entries

namespace LineMap

instance : DecidableEq LineMap := fun a b =>
  match decEq a.entries b.entries with
  | isTrue h => isTrue (by cases a; cases b; simpa using h)
  | isFalse h => isFalse fun he => h (congrArg _ he)

def empty : LineMap := ⟨[], List.Pairwise.nil⟩

instance : EmptyCollection LineMap := ⟨empty⟩
instance : Inhabited LineMap := ⟨empty⟩

def insert (map : LineMap) (line : UInt32) (place : Place) : LineMap :=
  ⟨insertEntry line place map.entries, ascending_insertEntry line place map.ascending⟩

/-- Inserts from left to right, so a later entry of the same line wins. -/
def ofList (entries : List Entry) : LineMap :=
  entries.foldl (fun map entry => map.insert entry.1 entry.2) empty

def size (map : LineMap) : Nat := map.entries.length

def isEmpty (map : LineMap) : Bool := map.entries.isEmpty

def get? (map : LineMap) (line : UInt32) : Option Place :=
  (map.entries.find? (·.1 == line)).map (·.2)

def below (map : LineMap) (line : UInt32) : List Entry := map.entries.takeWhile (·.1 < line)

def atOrAbove (map : LineMap) (line : UInt32) : List Entry := map.entries.dropWhile (·.1 < line)

/-- The entry closest to a line; of two equally close ones the later. -/
def nearestEntry? (map : LineMap) (line : UInt32) : Option Entry :=
  match (map.below line).getLast?, (map.atOrAbove line).head? with
  | some low, some high => if line - low.1 < high.1 - line then some low else some high
  | some low, none => some low
  | none, high => high

def nearest? (map : LineMap) (line : UInt32) : Option Place := (map.nearestEntry? line).map (·.2)

def lookup (map : LineMap) (line : UInt32) : Policy → Option Place
  | .exact => map.get? line
  | .nearest => map.nearest? line

@[ext] theorem ext {a b : LineMap} (h : a.entries = b.entries) : a = b := by
  cases a; cases b; simpa using h

@[simp] theorem entries_insert (map : LineMap) (line : UInt32) (place : Place) :
    (map.insert line place).entries = insertEntry line place map.entries := rfl

end LineMap
end Retrace
