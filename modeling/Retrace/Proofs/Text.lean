import Mathlib.Data.List.DropRight
import Mathlib.Data.List.TakeWhile
import Retrace.Text.Blank
import Retrace.Text.Numeral
import Retrace.Text.Search
import Retrace.Text.Utf8

/-!
# Laws of text

What the line grammars rely on: trimming stops at the first character that is
not blank, a cut is the only way to split at the first mark, and a run of digits
is read back from the character that ends it. What names of files rely on: a
text is read back from its bytes, so no two names have the same.
-/

namespace Retrace.Text

/-! ## Blanks -/

theorem trimEnd_eq_rdropWhile (text : List Char) : trimEnd text = text.rdropWhile isBlank := rfl

theorem trimEnd_append_cons {c : Char} (h : isBlank c = false) (before after : List Char) :
    trimEnd (before ++ c :: after) = before ++ c :: trimEnd after := by
  unfold trimEnd
  rw [List.reverse_append, List.reverse_cons, List.append_assoc, List.dropWhile_append]
  split
  · next he =>
    have hnil : after.reverse.dropWhile isBlank = [] := by simpa using he
    simp [hnil, h]
  · simp

theorem trimEnd_trimEnd (text : List Char) : trimEnd (trimEnd text) = trimEnd text := by
  simp only [trimEnd_eq_rdropWhile, List.rdropWhile_idempotent]

/-- A text is blank throughout, or has a first and a last character that is not. -/
theorem trimStart_cases (text : List Char) :
    (∀ c ∈ text, isBlank c = true) ∧ trimStart text = [] ∨
      ∃ before c after, text = before ++ c :: after ∧ (∀ b ∈ before, isBlank b = true) ∧
        isBlank c = false ∧ trimStart text = c :: after := by
  induction text with
  | nil => exact .inl ⟨by simp, rfl⟩
  | cons c rest ih =>
    cases hc : isBlank c with
    | false => exact .inr ⟨[], c, rest, rfl, by simp, hc, by simp [trimStart, hc]⟩
    | true =>
      have hstep : trimStart (c :: rest) = trimStart rest := by simp [trimStart, hc]
      rw [hstep]
      rcases ih with ⟨hall, hnil⟩ | ⟨before, d, after, rfl, hb, hd, hs⟩
      · exact .inl ⟨by simpa [hc] using hall, hnil⟩
      · exact .inr ⟨c :: before, d, after, rfl, by simpa [hc] using hb, hd, hs⟩

theorem trimStart_append_cons {before after : List Char} {c : Char}
    (hb : ∀ b ∈ before, isBlank b = true) (hc : isBlank c = false) :
    trimStart (before ++ c :: after) = c :: after := by
  simp [trimStart, List.dropWhile_append_of_pos hb, hc]

/-- It does not matter which end is trimmed first. -/
theorem trimStart_trimEnd (text : List Char) : trimStart (trimEnd text) = trim text := by
  unfold trim
  rcases trimStart_cases text with ⟨hall, hnil⟩ | ⟨before, c, after, rfl, hb, hc, hs⟩
  · have he : trimEnd text = [] := by
      rw [trimEnd_eq_rdropWhile, List.rdropWhile_eq_nil_iff]
      exact hall
    rw [he, hnil]
    rfl
  · rw [hs, trimEnd_append_cons hc, trimStart_append_cons hb hc]
    exact (trimEnd_append_cons hc [] after).symm

theorem trim_trimEnd (text : List Char) : trim (trimEnd text) = trim text := by
  rw [trim, trimStart_trimEnd, trim, trimEnd_trimEnd]

theorem trim_cons_blank {c : Char} (h : isBlank c = true) (text : List Char) :
    trim (c :: text) = trim text := by
  simp [trim, trimStart, h]

theorem head?_trim {c : Char} (h : isBlank c = false) (rest : List Char) :
    (trim (c :: rest)).head? = some c := by
  have hs : trim (c :: rest) = c :: trimEnd rest := by
    rw [trim, trimStart, List.dropWhile_cons_of_neg (by simp [h])]
    exact trimEnd_append_cons h [] rest
  simp [hs]

theorem mem_trim {c : Char} (hb : isBlank c = false) {text : List Char} (h : c ∈ text) :
    c ∈ trim text := by
  have hstart {text : List Char} (h : c ∈ text) : c ∈ trimStart text := by
    rw [← List.takeWhile_append_dropWhile (p := isBlank) (l := text), List.mem_append] at h
    rcases h with h | h
    · rw [List.mem_takeWhile_imp h] at hb
      cases hb
    · exact h
  exact List.mem_reverse.mpr (hstart (List.mem_reverse.mpr (hstart h)))

theorem trimStart_cons {c : Char} (hb : isBlank c = false) (rest : List Char) :
    trimStart (c :: rest) = c :: rest := by
  simp [trimStart, hb]

theorem trim_eq_self {text : List Char} (h : ∀ c ∈ text, isBlank c = false) : trim text = text := by
  have hstart {text : List Char} (h : ∀ c ∈ text, isBlank c = false) : trimStart text = text := by
    cases text with
    | nil => rfl
    | cons c rest => exact trimStart_cons (h c List.mem_cons_self) rest
  have hend : trimEnd text = text := by
    rw [trimEnd, ← trimStart, hstart fun c hc => h c (List.mem_reverse.mp hc), List.reverse_reverse]
  rw [trim, hstart h, hend]

theorem exists_cons_of_trim_eq {text : List Char} (h : trim text = text) (hne : text ≠ []) :
    ∃ c rest, text = c :: rest ∧ isBlank c = false := by
  rw [← trimStart_trimEnd] at h
  rcases trimStart_cases (trimEnd text) with ⟨-, hnil⟩ | ⟨-, c, after, -, -, hc, hs⟩
  · exact absurd (h.symm.trans hnil) hne
  · exact ⟨c, after, h.symm.trans hs, hc⟩

/-! ## Cuts -/

theorem cut_eq_some_iff {mark : Char} {text before after : List Char} :
    cut mark text = some (before, after) ↔ text = before ++ mark :: after ∧ mark ∉ before := by
  constructor
  · exact cut_eq_some
  · rintro ⟨rfl, h⟩
    exact cut_append h after

theorem cut_eq_none_iff {mark : Char} {text : List Char} :
    cut mark text = none ↔ mark ∉ text := by
  induction text with
  | nil => simp [cut]
  | cons c rest ih =>
    by_cases hc : c = mark
    · simp [cut, hc]
    · simp [cut, hc, ih, Ne.symm hc]

/-- Where a mark is no blank, trimming in front of a cut trims what the cut leaves in front. -/
theorem cut_trimStart {mark : Char} (hm : isBlank mark = false) (text : List Char) :
    cut mark (trimStart text) =
      (cut mark text).map fun (before, after) => (trimStart before, after) := by
  induction text with
  | nil => rfl
  | cons c rest ih =>
    cases hb : isBlank c with
    | true =>
      have hne : c ≠ mark := by
        rintro rfl
        rw [hb] at hm
        cases hm
      have hskip (text : List Char) : trimStart (c :: text) = trimStart text := by
        simp [trimStart, hb]
      rw [hskip, ih, cut, if_neg hne, Option.map_map]
      congr 1
      funext split
      exact congrArg (·, split.2) (hskip split.1).symm
    | false =>
      have hkeep (text : List Char) : trimStart (c :: text) = c :: text := by
        simp [trimStart, hb]
      rw [hkeep, cut]
      split
      · rfl
      · rw [Option.map_map]
        congr 1
        funext split
        exact congrArg (·, split.2) (hkeep split.1).symm

/-! ## Numerals -/

theorem isDigit_eq (c : Char) : isDigit c = c.isDigit := by
  simp only [isDigit, Char.isDigit]
  rfl

theorem isDigit_iff (c : Char) : isDigit c = true ↔ 48 ≤ c.toNat ∧ c.toNat ≤ 57 := by
  simp only [isDigit, Bool.and_eq_true, decide_eq_true_eq, Char.le_def, UInt32.le_iff_toNat_le]
  exact Iff.rfl

theorem isDigit_of_isBlank {c : Char} (h : isBlank c = true) : isDigit c = false := by
  rw [Bool.eq_false_iff, ne_eq, isDigit_iff]
  simp only [isBlank, Bool.or_eq_true, Bool.and_eq_true, decide_eq_true_eq, beq_iff_eq] at h
  omega

structure IsWord (digits : List Char) : Prop where
  nonempty : digits ≠ []
  each : ∀ c ∈ digits, isDigit c = true
  fits : digitsValue digits ≤ 4294967295

def wordOf (digits : List Char) : UInt32 := UInt32.ofNat (digitsValue digits)

theorem word?_eq_some_iff {digits : List Char} {value : UInt32} :
    word? digits = some value ↔ IsWord digits ∧ value = wordOf digits := by
  have hsize : UInt32.size = 4294967295 + 1 := rfl
  simp only [word?, fitWord?]
  split
  · next hbad =>
    refine ⟨fun h => (nomatch h), fun ⟨hw, _⟩ => ?_⟩
    have hall : digits.all isDigit = true := List.all_eq_true.mpr hw.each
    simp [hw.nonempty, hall] at hbad
  · next hgood =>
    simp only [Bool.or_eq_true, List.isEmpty_iff, Bool.not_eq_true', not_or, Bool.not_eq_false,
      List.all_eq_true] at hgood
    split
    · next hfit =>
      constructor
      · intro h
        exact ⟨⟨hgood.1, hgood.2, by omega⟩, (Option.some.inj h).symm⟩
      · rintro ⟨-, rfl⟩
        rfl
    · next hbig => exact ⟨fun h => (nomatch h), fun ⟨hw, _⟩ => absurd hw.fits (by omega)⟩

theorem IsWord.takeWhile_append {digits : List Char} (hw : IsWord digits) {c : Char}
    (hc : isDigit c = false) (rest : List Char) :
    (digits ++ c :: rest).takeWhile isDigit = digits := by
  rw [List.takeWhile_append_of_pos hw.each]
  simp [hc]

theorem IsWord.dropWhile_append {digits : List Char} (hw : IsWord digits) {c : Char}
    (hc : isDigit c = false) (rest : List Char) :
    (digits ++ c :: rest).dropWhile isDigit = c :: rest := by
  rw [List.dropWhile_append_of_pos hw.each]
  simp [hc]

/-- A word that `c` ends is read exactly where digits that make a word stand in front of it. -/
theorem leadingWord?_eq_some_cons_iff {text rest : List Char} {value : UInt32} {c : Char}
    (hc : isDigit c = false) :
    leadingWord? text = some (value, c :: rest) ↔
      ∃ digits, IsWord digits ∧ text = digits ++ c :: rest ∧ value = wordOf digits := by
  simp only [leadingWord?, Option.map_eq_some_iff, Prod.mk.injEq]
  constructor
  · rintro ⟨_, hword, rfl, hrest⟩
    obtain ⟨hw, rfl⟩ := word?_eq_some_iff.mp hword
    refine ⟨_, hw, ?_, rfl⟩
    rw [← hrest, List.takeWhile_append_dropWhile]
  · rintro ⟨digits, hw, rfl, rfl⟩
    refine ⟨_, ?_, rfl, hw.dropWhile_append hc rest⟩
    rw [hw.takeWhile_append hc]
    exact word?_eq_some_iff.mpr ⟨hw, rfl⟩

theorem leadingWord?_cons_of_not_digit {c : Char} (hc : isDigit c = false) (rest : List Char) :
    leadingWord? (c :: rest) = none := by
  simp [leadingWord?, hc, word?]

theorem isWord_showWord (value : UInt32) : IsWord (showWord value) where
  nonempty := Nat.toDigits_ne_nil
  each c hc := by
    rw [isDigit_eq]
    exact Nat.isDigit_of_mem_toDigits (by omega) (by omega) hc
  fits := by
    have hlt := value.toNat_lt
    have hval : digitsValue (showWord value) = value.toNat := Nat.ofDigitChars_ten_toDigits
    omega

theorem wordOf_showWord (value : UInt32) : wordOf (showWord value) = value := by
  have hval : digitsValue (showWord value) = value.toNat := Nat.ofDigitChars_ten_toDigits
  rw [wordOf, hval, UInt32.ofNat_toNat]

theorem decimal_leading_zero {value : Nat} {rest : List Char} (h : decimal value = '0' :: rest) :
    rest = [] := by
  unfold decimal at h
  induction value using Nat.strongRecOn generalizing rest with
  | ind value ih =>
    by_cases hsmall : value < 10
    · rw [Nat.toDigits_of_lt_base hsmall, List.cons.injEq] at h
      exact h.2.symm
    · rw [Nat.toDigits_of_base_le (by omega) (by omega)] at h
      obtain ⟨c, front, hfront⟩ := List.exists_cons_of_ne_nil
        (Nat.toDigits_ne_nil (n := value / 10) (b := 10))
      rw [hfront, List.cons_append, List.cons.injEq] at h
      obtain ⟨rfl, -⟩ := h
      -- what stands in front of the last digit would be a lone zero
      rw [ih (value / 10) (by omega) hfront] at hfront
      have hzero : value / 10 = 0 := by
        rw [← Nat.ofDigitChars_ten_toDigits (n := value / 10), hfront]
        rfl
      omega

/-! ## UTF-8 -/

namespace Utf8

theorem toNat_tailByte (bits : Nat) : (tailByte bits).toNat = 0x80 + bits % 64 := by
  rw [tailByte, UInt8.toNat_ofNat']
  omega

theorem toNat_ofNat_of_lt {value : Nat} (h : value < 256) : (UInt8.ofNat value).toNat = value := by
  rw [UInt8.toNat_ofNat']
  omega

theorem within_tailByte (bits : Nat) : within 0x80 0xBF (tailByte bits) = true := by
  simp only [within, toNat_tailByte, Bool.and_eq_true, decide_eq_true_eq]
  omega

theorem extend_tailByte (high bits : Nat) :
    extend high (tailByte bits) = high * 64 + bits % 64 := by
  have hb := toNat_tailByte bits
  unfold extend
  omega

theorem lead?_two {n : Nat} (hl : 0x80 ≤ n) (hu : n < 0x800) :
    lead? (UInt8.ofNat (0xC0 + n / 64)) = some ⟨n / 64, 0, 0x80, 0xBF⟩ := by
  have hb : (UInt8.ofNat (0xC0 + n / 64)).toNat = 0xC0 + n / 64 := toNat_ofNat_of_lt (by omega)
  unfold lead?
  dsimp only
  rw [hb, if_neg (by omega), if_pos (by omega), Nat.add_sub_cancel_left]

/-- The second byte of three is bounded so that nothing is longer than it need be and no
surrogate is a character. -/
theorem lead?_three {n : Nat} (hl : 0x800 ≤ n) (hu : n < 0x10000)
    (hs : n < 0xD800 ∨ 0xDFFF < n) :
    ∃ low high, lead? (UInt8.ofNat (0xE0 + n / 4096)) = some ⟨n / 4096, 1, low, high⟩ ∧
      within low high (tailByte (n / 64)) = true := by
  have hb : (UInt8.ofNat (0xE0 + n / 4096)).toNat = 0xE0 + n / 4096 := toNat_ofNat_of_lt (by omega)
  unfold lead? within
  simp only [hb, toNat_tailByte]
  rw [if_neg (by omega), if_neg (by omega)]
  split
  · exact ⟨_, _, by rw [show n / 4096 = 0 by omega], by simp; omega⟩
  · split
    · exact ⟨_, _, by rw [show n / 4096 = 0xD by omega], by simp; omega⟩
    · rw [if_pos (by omega)]
      exact ⟨_, _, by rw [Nat.add_sub_cancel_left], by simp; omega⟩

theorem lead?_four {n : Nat} (hl : 0x10000 ≤ n) (hu : n < 0x110000) :
    ∃ low high, lead? (UInt8.ofNat (0xF0 + n / 262144)) = some ⟨n / 262144, 2, low, high⟩ ∧
      within low high (tailByte (n / 4096)) = true := by
  have hb : (UInt8.ofNat (0xF0 + n / 262144)).toNat = 0xF0 + n / 262144 :=
    toNat_ofNat_of_lt (by omega)
  unfold lead? within
  simp only [hb, toNat_tailByte]
  rw [if_neg (by omega), if_neg (by omega), if_neg (by omega), if_neg (by omega), if_neg (by omega)]
  split
  · exact ⟨_, _, by rw [show n / 262144 = 0 by omega], by simp; omega⟩
  · split
    · exact ⟨_, _, by rw [Nat.add_sub_cancel_left], by simp; omega⟩
    · rw [if_pos (by omega)]
      exact ⟨_, _, by rw [show n / 262144 = 4 by omega], by simp; omega⟩

theorem scan_two {a b : UInt8} {bits low high : Nat} (ha : 0x80 ≤ a.toNat)
    (hl : lead? a = some ⟨bits, 0, low, high⟩) (hb : within low high b = true)
    (rest : List UInt8) :
    scan (a :: b :: rest) = some (Char.ofNat (extend bits b)) :: scan rest := by
  rw [scan.eq_def]
  simp [Nat.not_lt.mpr ha, hl, hb]

theorem scan_three {a b c : UInt8} {bits low high : Nat} (ha : 0x80 ≤ a.toNat)
    (hl : lead? a = some ⟨bits, 1, low, high⟩) (hb : within low high b = true)
    (hc : within 0x80 0xBF c = true) (rest : List UInt8) :
    scan (a :: b :: c :: rest) = some (Char.ofNat (extend (extend bits b) c)) :: scan rest := by
  rw [scan.eq_def]
  simp [Nat.not_lt.mpr ha, hl, hb, hc]

theorem scan_four {a b c d : UInt8} {bits low high : Nat} (ha : 0x80 ≤ a.toNat)
    (hl : lead? a = some ⟨bits, 2, low, high⟩) (hb : within low high b = true)
    (hc : within 0x80 0xBF c = true) (hd : within 0x80 0xBF d = true) (rest : List UInt8) :
    scan (a :: b :: c :: d :: rest) =
      some (Char.ofNat (extend (extend (extend bits b) c) d)) :: scan rest := by
  rw [scan.eq_def]
  simp [Nat.not_lt.mpr ha, hl, hb, hc, hd]

theorem scan_encodeChar (c : Char) (rest : List UInt8) :
    scan (encodeChar c ++ rest) = some c :: scan rest := by
  have hc : some c :: scan rest = some (Char.ofNat c.toNat) :: scan rest := by rw [c.ofNat_toNat]
  have hvalid : c.toNat < 0xD800 ∨ 0xDFFF < c.toNat ∧ c.toNat < 0x110000 := c.valid
  rw [hc, encodeChar]
  generalize c.toNat = n at hvalid
  split
  · next h1 =>
    have hb := toNat_ofNat_of_lt (show n < 256 by omega)
    rw [List.singleton_append, scan_ascii (by omega), hb]
  · next h1 =>
    split
    · next h2 =>
      have hb := toNat_ofNat_of_lt (show 0xC0 + n / 64 < 256 by omega)
      have hn : extend (n / 64) (tailByte n) = n := by
        simp only [extend_tailByte]
        omega
      rw [List.cons_append, List.singleton_append,
        scan_two (by omega) (lead?_two (by omega) h2) (within_tailByte _), hn]
    · next h2 =>
      split
      · next h3 =>
        obtain ⟨low, high, hlead, hw⟩ := lead?_three (by omega) h3 (by omega)
        have hb := toNat_ofNat_of_lt (show 0xE0 + n / 4096 < 256 by omega)
        have hn : extend (extend (n / 4096) (tailByte (n / 64))) (tailByte n) = n := by
          simp only [extend_tailByte]
          omega
        rw [List.cons_append, List.cons_append, List.singleton_append,
          scan_three (by omega) hlead hw (within_tailByte _), hn]
      · next h3 =>
        obtain ⟨low, high, hlead, hw⟩ := lead?_four (Nat.not_lt.mp h3) (by omega)
        have hb := toNat_ofNat_of_lt (show 0xF0 + n / 262144 < 256 by omega)
        have hn : extend (extend (extend (n / 262144) (tailByte (n / 4096))) (tailByte (n / 64)))
            (tailByte n) = n := by
          simp only [extend_tailByte]
          omega
        rw [List.cons_append, List.cons_append, List.cons_append, List.singleton_append,
          scan_four (by omega) hlead hw (within_tailByte _) (within_tailByte _), hn]

theorem encode_cons (c : Char) (rest : List Char) :
    encode (c :: rest) = encodeChar c ++ encode rest := List.flatMap_cons

theorem scan_encode (text : List Char) : scan (encode text) = text.map some := by
  induction text with
  | nil => rfl
  | cons c rest ih =>
    rw [encode_cons, scan_encodeChar, ih, List.map_cons]

theorem decode?_encode (text : List Char) : decode? (encode text) = some text := by
  rw [decode?, scan_encode]
  induction text with
  | nil => rfl
  | cons c rest ih => simp [ih]

theorem encode_inj {a b : List Char} (h : encode a = encode b) : a = b := by
  have hscan := congrArg scan h
  rw [scan_encode, scan_encode] at hscan
  exact (List.map_inj_right fun _ _ => Option.some.inj).mp hscan

theorem decodeLossy_encode (text : List Char) : decodeLossy (encode text) = text := by
  rw [decodeLossy, scan_encode, List.map_map]
  exact List.map_id text

theorem le_of_mem_encodeChar {c : Char} (hc : 0x80 ≤ c.toNat) {byte : UInt8}
    (h : byte ∈ encodeChar c) : 0x80 ≤ byte.toNat := by
  have hvalid : c.toNat < 0xD800 ∨ 0xDFFF < c.toNat ∧ c.toNat < 0x110000 := c.valid
  unfold encodeChar at h
  generalize c.toNat = n at hc hvalid h
  -- a leading byte is at least 0xC0 and a tail byte at least 0x80, and neither wraps around
  grind [toNat_tailByte, toNat_ofNat_of_lt]

theorem mem_encodeChar_iff {a c : Char} (ha : a.toNat < 0x80) :
    UInt8.ofNat a.toNat ∈ encodeChar c ↔ c = a := by
  have hbyte : (UInt8.ofNat a.toNat).toNat = a.toNat := toNat_ofNat_of_lt (by omega)
  constructor
  · intro h
    by_cases hc : c.toNat < 0x80
    · rw [encodeChar, if_pos hc, List.mem_singleton] at h
      have hnat := congrArg UInt8.toNat h
      rw [hbyte, toNat_ofNat_of_lt (by omega)] at hnat
      exact Char.toNat_inj.mp hnat.symm
    · have hle := le_of_mem_encodeChar (Nat.not_lt.mp hc) h
      omega
  · rintro rfl
    simp [encodeChar, ha]

theorem encode_eq_nil_iff {text : List Char} : encode text = [] ↔ text = [] :=
  ⟨fun h => encode_inj h, fun h => h ▸ rfl⟩

theorem zero_mem_encode_iff {text : List Char} : 0 ∈ encode text ↔ '\x00' ∈ text := by
  have hchar (c : Char) : 0 ∈ encodeChar c ↔ c = '\x00' :=
    mem_encodeChar_iff (show '\x00'.toNat < 0x80 by decide)
  simp [encode, hchar]

theorem slash_mem_encodeChar_iff {c : Char} : 47 ∈ encodeChar c ↔ c = '/' :=
  mem_encodeChar_iff (show '/'.toNat < 0x80 by decide)

theorem head?_encode_eq_slash_iff {text : List Char} :
    (encode text).head? = some 47 ↔ text.head? = some '/' := by
  cases text with
  | nil => simp
  | cons c rest =>
    have hne : encodeChar c ≠ [] := by
      unfold encodeChar
      grind
    rw [encode_cons, List.head?_append_of_ne_nil _ hne, List.head?_cons, Option.some.injEq]
    constructor
    · intro h
      exact slash_mem_encodeChar_iff.mp (List.mem_of_head? h)
    · rintro rfl
      rfl

end Utf8
end Retrace.Text
