import Mathlib.Data.List.TakeWhile
import Retrace.LineMap

/-!
# The nearest entry of a map

A line splits a map: all entries in front of the split are smaller and none behind
it is. So the last one in front and the first one behind are next to the line on
either side, and no other entry is closer than both. Which of the two is taken is
the only choice left, and a tie goes to the later one.
-/

namespace Retrace.LineMap

variable {map : LineMap} {line key other : UInt32} {entry low high : Entry} {place : Place}

theorem get?_eq_some_iff : map.get? key = some place ↔ (key, place) ∈ map.entries := by
  have hfirst (entries : List Entry) (h : Ascending entries) :
      (entries.find? (·.1 == key)).map (·.2) = some place ↔ (key, place) ∈ entries := by
    induction entries with
    | nil => simp
    | cons head rest ih =>
      obtain ⟨hhead, hrest⟩ := List.pairwise_cons.mp h
      by_cases hk : head.1 = key
      · -- no later entry has the same line
        have hnone : (key, place) ∉ rest := fun hm =>
          UInt32.lt_irrefl key (hk ▸ hhead (key, place) hm)
        simp [hk, hnone, Prod.ext_iff, eq_comm]
      · simp [hk, ih hrest, Prod.ext_iff, Ne.symm hk]
  exact hfirst map.entries map.ascending

theorem isSome_get?_iff : (map.get? key).isSome = true ↔ ∃ entry ∈ map.entries, entry.1 = key := by
  rw [Option.isSome_iff_exists]
  constructor
  · rintro ⟨place, h⟩
    exact ⟨_, get?_eq_some_iff.mp h, rfl⟩
  · rintro ⟨entry, hm, rfl⟩
    exact ⟨entry.2, get?_eq_some_iff.mpr hm⟩

/-! ## The split at a line -/

theorem mem_entries_iff (line : UInt32) :
    entry ∈ map.entries ↔ entry ∈ map.below line ∨ entry ∈ map.atOrAbove line := by
  rw [← List.mem_append, below, atOrAbove, List.takeWhile_append_dropWhile]

theorem lt_of_mem_below (h : entry ∈ map.below line) : entry.1 < line := by
  simpa using List.mem_takeWhile_imp h

theorem ascending_below (map : LineMap) (line : UInt32) : Ascending (map.below line) :=
  map.ascending.sublist (List.takeWhile_sublist _)

theorem ascending_atOrAbove (map : LineMap) (line : UInt32) : Ascending (map.atOrAbove line) :=
  map.ascending.sublist (List.dropWhile_sublist _)

theorem le_getLast_below (hl : (map.below line).getLast? = some low)
    (h : entry ∈ map.below line) : entry.1 ≤ low.1 := by
  obtain ⟨front, hfront⟩ := List.getLast?_eq_some_iff.mp hl
  have hasc := map.ascending_below line
  rw [hfront] at h hasc
  rcases List.mem_append.mp h with h | h
  · exact UInt32.le_of_lt ((List.pairwise_append.mp hasc).2.2 entry h low (by simp))
  · rw [List.mem_singleton.mp h]
    exact UInt32.le_refl _

theorem head_atOrAbove_le (hh : (map.atOrAbove line).head? = some high)
    (h : entry ∈ map.atOrAbove line) : high.1 ≤ entry.1 := by
  obtain ⟨back, hback⟩ := List.head?_eq_some_iff.mp hh
  have hasc := map.ascending_atOrAbove line
  rw [hback] at h hasc
  rcases List.mem_cons.mp h with rfl | h
  · exact UInt32.le_refl _
  · exact UInt32.le_of_lt ((List.pairwise_cons.mp hasc).1 entry h)

theorem le_head_atOrAbove (hh : (map.atOrAbove line).head? = some high) : line ≤ high.1 := by
  have hnot := List.head?_dropWhile_not (fun entry : Entry => decide (entry.1 < line)) map.entries
  rw [show (map.entries.dropWhile _).head? = some high from hh] at hnot
  exact UInt32.not_lt.mp (by simpa using hnot)

/-! ## The closest line -/

def distance (a b : UInt32) : Nat := ((a.toNat : Int) - b.toNat).natAbs

/-- A mapped line that no other is closer than, and the later one of two equally close. -/
structure Closest (map : LineMap) (line key : UInt32) : Prop where
  mapped : (map.get? key).isSome = true
  least : ∀ other, (map.get? other).isSome = true → distance key line ≤ distance other line
  later : ∀ other, (map.get? other).isSome = true → distance other line = distance key line →
    other ≤ key

theorem Closest.unique (h : map.Closest line key) (h' : map.Closest line other) : key = other := by
  have heq := Nat.le_antisymm (h.least other h'.mapped) (h'.least key h.mapped)
  exact UInt32.le_antisymm (h'.later key h.mapped heq) (h.later other h'.mapped heq.symm)

/-- A later line is never led to an earlier one. -/
theorem Closest.mono {line' key' : UInt32} (h : map.Closest line key)
    (h' : map.Closest line' key') (hle : line ≤ line') : key ≤ key' := by
  have hleast := h.least key' h'.mapped
  have hleast' := h'.least key h.mapped
  have hlater' := h'.later key h.mapped
  simp only [distance, UInt32.le_iff_toNat_le] at *
  omega

theorem closest_of_entries (hm : entry ∈ map.entries)
    (h : ∀ other ∈ map.entries, distance entry.1 line ≤ distance other.1 line ∧
      (distance other.1 line = distance entry.1 line → other.1 ≤ entry.1)) :
    map.Closest line entry.1 where
  mapped := isSome_get?_iff.mpr ⟨entry, hm, rfl⟩
  least key hk := by
    obtain ⟨other, ho, rfl⟩ := isSome_get?_iff.mp hk
    exact (h other ho).1
  later key hk := by
    obtain ⟨other, ho, rfl⟩ := isSome_get?_iff.mp hk
    exact (h other ho).2

theorem closest_below (hl : (map.below line).getLast? = some low)
    (hfar : ∀ other ∈ map.atOrAbove line,
      line.toNat - low.1.toNat < other.1.toNat - line.toNat) : map.Closest line low.1 := by
  have hm := List.mem_of_getLast? hl
  have hline := lt_of_mem_below hm
  refine closest_of_entries ((mem_entries_iff line).mpr (.inl hm)) fun other ho => ?_
  simp only [distance, UInt32.lt_iff_toNat_lt, UInt32.le_iff_toNat_le] at hline ⊢
  rcases (mem_entries_iff line).mp ho with ho | ho
  · have hle := UInt32.le_iff_toNat_le.mp (le_getLast_below hl ho)
    omega
  · have hlt := hfar other ho
    omega

theorem closest_atOrAbove (hh : (map.atOrAbove line).head? = some high)
    (hfar : ∀ other ∈ map.below line,
      high.1.toNat - line.toNat ≤ line.toNat - other.1.toNat) : map.Closest line high.1 := by
  have hline := le_head_atOrAbove hh
  refine closest_of_entries ((mem_entries_iff line).mpr (.inr (List.mem_of_head? hh)))
    fun other ho => ?_
  simp only [distance, UInt32.le_iff_toNat_le] at hline ⊢
  rcases (mem_entries_iff line).mp ho with ho | ho
  · have hlt := UInt32.lt_iff_toNat_lt.mp (lt_of_mem_below ho)
    have hle := hfar other ho
    omega
  · have hle := UInt32.le_iff_toNat_le.mp (head_atOrAbove_le hh ho)
    omega

/-- Neither difference wraps around. -/
theorem sub_lt_sub_iff (hl : (map.below line).getLast? = some low)
    (hh : (map.atOrAbove line).head? = some high) :
    line - low.1 < high.1 - line ↔
      line.toNat - low.1.toNat < high.1.toNat - line.toNat := by
  have hle := UInt32.le_of_lt (lt_of_mem_below (List.mem_of_getLast? hl))
  rw [UInt32.lt_iff_toNat_lt, UInt32.toNat_sub_of_le _ _ hle,
    UInt32.toNat_sub_of_le _ _ (le_head_atOrAbove hh)]

theorem nearestEntry?_closest (h : map.nearestEntry? line = some entry) :
    entry ∈ map.entries ∧ map.Closest line entry.1 := by
  rw [mem_entries_iff line]
  unfold nearestEntry? at h
  split at h
  · next low high hl hh =>
    split at h <;> cases h
    · next hlt =>
      rw [sub_lt_sub_iff hl hh] at hlt
      refine ⟨.inl (List.mem_of_getLast? hl), closest_below hl fun other ho => ?_⟩
      have hle := UInt32.le_iff_toNat_le.mp (head_atOrAbove_le hh ho)
      omega
    · next hlt =>
      rw [sub_lt_sub_iff hl hh] at hlt
      refine ⟨.inr (List.mem_of_head? hh), closest_atOrAbove hh fun other ho => ?_⟩
      have hle := UInt32.le_iff_toNat_le.mp (le_getLast_below hl ho)
      omega
  · next low hl hh =>
    cases h
    refine ⟨.inl (List.mem_of_getLast? hl), closest_below hl fun other ho => ?_⟩
    rw [List.head?_eq_none_iff.mp hh] at ho
    cases ho
  · next hl =>
    refine ⟨.inr (List.mem_of_head? h), closest_atOrAbove h fun other ho => ?_⟩
    rw [List.getLast?_eq_none_iff.mp hl] at ho
    cases ho

theorem nearestEntry?_eq_none_iff : map.nearestEntry? line = none ↔ map = ∅ := by
  constructor
  · intro h
    have hnone : map.below line = [] ∧ map.atOrAbove line = [] := by
      unfold nearestEntry? at h
      split at h
      · split at h <;> cases h
      · cases h
      · next hl => exact ⟨List.getLast?_eq_none_iff.mp hl, List.head?_eq_none_iff.mp h⟩
    refine ext (List.eq_nil_iff_forall_not_mem.mpr fun entry hm => ?_)
    simpa [hnone] using (mem_entries_iff line).mp hm
  · rintro rfl
    rfl

theorem nearest?_eq_none_iff : map.nearest? line = none ↔ map = ∅ := by
  rw [nearest?, Option.map_eq_none_iff, nearestEntry?_eq_none_iff]

theorem nearest?_eq_some_iff :
    map.nearest? line = some place ↔ ∃ key, map.Closest line key ∧ map.get? key = some place := by
  rw [nearest?, Option.map_eq_some_iff]
  constructor
  · rintro ⟨entry, h, rfl⟩
    obtain ⟨hm, hclosest⟩ := nearestEntry?_closest h
    exact ⟨entry.1, hclosest, get?_eq_some_iff.mpr hm⟩
  · rintro ⟨key, hclosest, hget⟩
    cases h : map.nearestEntry? line with
    | none =>
      rw [nearestEntry?_eq_none_iff.mp h] at hget
      cases hget
    | some entry =>
      obtain ⟨hm, hentry⟩ := nearestEntry?_closest h
      refine ⟨entry, rfl, ?_⟩
      rw [hclosest.unique hentry, get?_eq_some_iff.mpr hm] at hget
      exact Option.some.inj hget

theorem closest_self (h : (map.get? line).isSome = true) : map.Closest line line where
  mapped := h
  least other _ := by simp [distance]
  later other _ heq := by
    simp only [distance, UInt32.le_iff_toNat_le] at heq ⊢
    omega

theorem lookup_nearest_of_exact (h : map.lookup line .exact = some place) :
    map.lookup line .nearest = some place :=
  nearest?_eq_some_iff.mpr ⟨line, closest_self (Option.isSome_of_eq_some h), h⟩

/-- Only an empty map has no nearest line. Otherwise the place of the closest mapped line is found,
by differences that never wrap around; a mapped line leads to its own place, and a later line never
to an earlier one. -/
theorem nearest_exact (map : LineMap) (line : UInt32) :
    (map.nearest? line = none ↔ map = ∅) ∧
      (∀ place, map.nearest? line = some place ↔
        ∃ key, map.Closest line key ∧ map.get? key = some place) ∧
      (∀ low ∈ (map.below line).getLast?, low.1 ≤ line) ∧
      (∀ high ∈ (map.atOrAbove line).head?, line ≤ high.1) ∧
      (∀ place, map.lookup line .exact = some place → map.lookup line .nearest = some place) ∧
      ∀ line' entry entry', line ≤ line' → map.nearestEntry? line = some entry →
        map.nearestEntry? line' = some entry' → entry.1 ≤ entry'.1 :=
  ⟨nearest?_eq_none_iff, fun _ => nearest?_eq_some_iff,
    fun _ hl => UInt32.le_of_lt (lt_of_mem_below (List.mem_of_getLast? hl)),
    fun _ hh => le_head_atOrAbove hh, fun _ => lookup_nearest_of_exact,
    fun _ _ _ hle h h' => (nearestEntry?_closest h).2.mono (nearestEntry?_closest h').2 hle⟩

/-- Line 7 is as far from 5 as from 9. -/
example : (ofList [(5, ⟨12, 3, 4⟩), (9, ⟨20, 1, 6⟩)]).nearest? 7 = some ⟨20, 1, 6⟩ := by decide

end Retrace.LineMap
