import Mathlib.Data.List.Forall2
import Retrace.Proofs.Json

/-!
# The grammar of line maps

What a line map may look like, said without a reader: blanks between the tokens,
JSON values of any shape, places with their fields in any order, entries with a
numeral for a key. `IsMap` relates a text to its entries, from left to right.

Each reader has two lemmas. What it read was a part of the grammar, and a part of
the grammar is read to its end, provided that what follows does not go on with a
number.
-/

namespace Retrace.LineMap

open Json Text

/-! ## Tokens and blanks -/

namespace Grammar

structure Space where
  text : List Char
  blank : ∀ c ∈ text, c ∈ [' ', '\t', '\n', '\r']

structure Padded where
  before : Space
  inner : List Char
  after : Space

def Padded.text (part : Padded) : List Char :=
  part.before.text ++ (part.inner ++ part.after.text)

structure Member where
  before : Space
  label : List Char
  after : Space
  value : Padded

def Member.text (member : Member) : List Char :=
  member.before.text ++ '"' :: (member.label ++ '"' :: (member.after.text ++ ':' ::
    member.value.text))

def array (gap : Space) (items : List Padded) : List Char :=
  '[' :: (gap.text ++ ([','].intercalate (items.map Padded.text) ++ [']']))

def object (gap : Space) (members : List Member) : List Char :=
  '\x7b' :: (gap.text ++ ([','].intercalate (members.map Member.text) ++ ['\x7d']))

/-! ## Strings -/

def escapes : List (Char × Char) :=
  [('"', '"'), ('\\', '\\'), ('/', '/'), ('b', '\x08'), ('f', '\x0c'), ('n', '\n'), ('r', '\r'),
    ('t', '\t')]

structure Code where
  digits : List Char
  four : digits.length = 4
  each : ∀ c ∈ digits, (hexValue? c).isSome = true

def Code.value (code : Code) : Nat :=
  code.digits.foldl (fun total c => total * 16 + (hexValue? c).getD 0) 0

/-- A part of a string that stands for at most one character. -/
inductive Piece where
  | plain (c : Char) (h : isPlain c = true)
  | short (letter c : Char) (h : escapes.lookup letter = some c)
  | code (four : Code)

def Piece.text : Piece → List Char
  | .plain c _ => [c]
  | .short letter _ _ => ['\\', letter]
  | .code four => '\\' :: 'u' :: four.digits

def stringText (parts : List Piece) : List Char := parts.flatMap Piece.text

/-- The text that pieces denote. Surrogates denote a character in pairs and nothing alone. -/
inductive Denotes : List Piece → List Char → Prop
  | nil : Denotes [] []
  | plain {others : List Piece} {name : List Char} (c : Char) (h : isPlain c = true)
      (rest : Denotes others name) : Denotes (.plain c h :: others) (c :: name)
  | short {others : List Piece} {name : List Char} (letter c : Char)
      (h : escapes.lookup letter = some c) (rest : Denotes others name) : Denotes (.short letter c h :: others) (c :: name)
  | code {others : List Piece} {name : List Char} {four : Code}
      (hhigh : isHighSurrogate four.value = false) (hlow : isLowSurrogate four.value = false)
      (rest : Denotes others name) : Denotes (.code four :: others) (Char.ofNat four.value :: name)
  | pair {others : List Piece} {name : List Char} {high low : Code}
      (hhigh : isHighSurrogate high.value = true) (hlow : isLowSurrogate low.value = true)
      (rest : Denotes others name) :
    Denotes (.code high :: .code low :: others)
      (Char.ofNat (0x10000 + (high.value - 0xD800) * 0x400 + (low.value - 0xDC00)) :: name)

/-! ## Numbers and values -/

def Writes (numeral : List Char) (value : UInt32) : Prop :=
  IsNumeral numeral ∧ value = wordOf numeral

structure IsDigits (text : List Char) : Prop where
  nonempty : text ≠ []
  each : ∀ c ∈ text, isDigit c = true

inductive IsFraction : List Char → Prop
  | none : IsFraction []
  | some {decimals : List Char} (h : IsDigits decimals) : IsFraction ('.' :: decimals)

inductive IsExponent : List Char → Prop
  | none : IsExponent []
  | some {mark : Char} {sign power : List Char} (hm : mark = 'e' ∨ mark = 'E')
      (hs : sign ∈ [[], ['+'], ['-']]) (h : IsDigits power) : IsExponent (mark :: (sign ++ power))

inductive IsMagnitude : List Char → Prop
  | intro {whole fraction exponent : List Char} (h : IsDigits whole)
      (hz : ∀ rest, whole = '0' :: rest → rest = []) (hf : IsFraction fraction)
      (he : IsExponent exponent) : IsMagnitude (whole ++ (fraction ++ exponent))

inductive IsValue : List Char → Prop
  | literal {name : List Char} (h : name ∈ ["null".toList, "true".toList, "false".toList]) :
    IsValue name
  | positive {text : List Char} (h : IsMagnitude text) : IsValue text
  | negative {text : List Char} (h : IsMagnitude text) : IsValue ('-' :: text)
  | string (parts : List Piece) : IsValue ('"' :: (stringText parts ++ ['"']))
  | array (gap : Space) (items : List Padded) (h : ∀ item ∈ items, IsValue item.inner) :
    IsValue (Grammar.array gap items)
  | object (gap : Space) (members : List Member)
      (hl : ∀ member ∈ members, ∃ parts, member.label = stringText parts)
      (h : ∀ member ∈ members, IsValue member.value.inner) :
    IsValue (Grammar.object gap members)

/-! ## Places, entries, maps -/

structure Named where
  name : List Char
  member : Member
  parts : List Piece
  label : member.label = stringText parts
  denotes : Denotes parts name

def valuesOf (name : List Char) (fields : List Named) : List (List Char) :=
  (fields.filter (·.name = name)).map (·.member.value.inner)

/-- One line, one column and at most one span, which is 1 if it is absent; other fields hold any
values. -/
structure Fits (fields : List Named) (place : Place) : Prop where
  line : ∃ numeral, valuesOf "line".toList fields = [numeral] ∧ Writes numeral place.line
  column : ∃ numeral, valuesOf "column".toList fields = [numeral] ∧ Writes numeral place.column
  span : valuesOf "span".toList fields = [] ∧ place.span = 1 ∨
    ∃ numeral, valuesOf "span".toList fields = [numeral] ∧ Writes numeral place.span
  others : ∀ field ∈ fields,
    field.name ∉ ["line".toList, "column".toList, "span".toList] →
      IsValue field.member.value.inner

inductive IsPlace : List Char → Place → Prop
  | pair (gap : Space) {first second : Padded} {line column : UInt32}
      (hl : Writes first.inner line) (hc : Writes second.inner column) :
    IsPlace (array gap [first, second]) ⟨line, column, 1⟩
  | triple (gap : Space) {first second third : Padded} {line column span : UInt32}
      (hl : Writes first.inner line) (hc : Writes second.inner column)
      (hs : Writes third.inner span) :
    IsPlace (array gap [first, second, third]) ⟨line, column, span⟩
  | object (gap : Space) {fields : List Named} {place : Place} (h : Fits fields place) :
    IsPlace (Grammar.object gap (fields.map Named.member)) place

/-- The key of an entry is the numeral itself, without escapes or blanks. -/
structure IsEntry (member : Member) (entry : Entry) : Prop where
  key : Writes member.label entry.1
  value : IsPlace member.value.inner entry.2

inductive IsMap : List Char → List Entry → Prop
  | intro (before gap after : Space) {members : List Member} {entries : List Entry}
      (h : List.Forall₂ IsEntry members entries) :
    IsMap (before.text ++ (object gap members ++ after.text)) entries

end Grammar

open Grammar

/-! ## Gaps -/

theorem bind_ok {x : Except ε α} {f : α → Except ε β} {b : β} :
    x >>= f = .ok b ↔ ∃ a, x = .ok a ∧ f a = .ok b := by
  cases x <;> simp [bind, Except.bind]

theorem isSpace_iff (c : Char) : isSpace c = true ↔ c ∈ [' ', '\t', '\n', '\r'] := by
  simp [isSpace]
  tauto

theorem skipSpace_gap (gap : Space) (rest : List Char) :
    skipSpace (gap.text ++ rest) = skipSpace rest :=
  List.dropWhile_append_of_pos fun c hc => (isSpace_iff c).mpr (gap.blank c hc)

theorem exists_gap (text : List Char) : ∃ gap : Space, text = gap.text ++ skipSpace text :=
  ⟨⟨text.takeWhile isSpace, fun c hc => (isSpace_iff c).mp (List.mem_takeWhile_imp hc)⟩,
    List.takeWhile_append_dropWhile.symm⟩

theorem skipSpace_skipSpace (text : List Char) : skipSpace (skipSpace text) = skipSpace text :=
  List.dropWhile_idempotent isSpace text

/-- What stands behind a value: blanks, then something that goes on with no number. -/
theorem endsNumber_gap (gap : Space) {rest : List Char} (h : EndsNumber rest) :
    EndsNumber (gap.text ++ rest) := by
  obtain ⟨text, hblank⟩ := gap
  cases text with
  | nil => exact h
  | cons c others =>
    intro d hd
    obtain rfl : c = d := by simpa using hd
    have hc := hblank c List.mem_cons_self
    simp only [List.mem_cons, List.not_mem_nil, or_false] at hc
    rcases hc with rfl | rfl | rfl | rfl <;> decide

/-! ## Words -/

theorem absorb_sound (total : Nat) (text : List Char) :
    ∃ taken, text = taken ++ (absorb total text).2 ∧ (∀ c ∈ taken, isDigit c = true) ∧
      (absorb total text).1 = taken.foldl (fun total c => 10 * total + digitValue c) total := by
  induction text generalizing total with
  | nil => exact ⟨[], rfl, by simp, rfl⟩
  | cons c rest ih =>
    cases hc : isDigit c with
    | false => exact ⟨[], by simp [absorb, hc], by simp, by simp [absorb, hc]⟩
    | true =>
      by_cases hfit : total * 10 + digitValue c < UInt64.size
      · obtain ⟨taken, htext, hdigits, htotal⟩ := ih (total * 10 + digitValue c)
        refine ⟨c :: taken, ?_, ?_, ?_⟩
        · simpa [absorb, hc, hfit] using htext
        · simpa [hc] using hdigits
        · simp only [absorb, hc, hfit, if_true, htotal, List.foldl_cons, Nat.mul_comm]
      · exact ⟨[], by simp [absorb, hc, hfit], by simp, by simp [absorb, hc, hfit]⟩

theorem digits_sound {positive : Bool} {text rest : List Char} {value : UInt32}
    (h : Json.digits positive text = .ok (value, rest)) :
    positive = true ∧ ∃ numeral, text = numeral ++ rest ∧ (∀ c ∈ numeral, isDigit c = true) ∧
      digitsValue numeral ≤ 4294967295 ∧ value = wordOf numeral ∧ EndsNumber rest := by
  obtain ⟨taken, htext, hdigits, htotal⟩ := absorb_sound 0 text
  unfold Json.digits at h
  generalize absorb 0 text = absorbed at *
  obtain ⟨significand, left⟩ := absorbed
  dsimp only at h htext htotal
  split at h
  · cases h
  · next hplain =>
    simp only [Bool.or_eq_true, Bool.not_eq_true', decide_eq_true_eq, not_or,
      Bool.not_eq_false, List.isEmpty_iff] at hplain
    obtain ⟨⟨⟨hover, hpoint⟩, he⟩, hE⟩ := hplain
    have hleft : left.dropWhile isDigit = left := by
      rw [← List.takeWhile_append_dropWhile (p := isDigit) (l := left), hover, List.nil_append,
        List.dropWhile_idempotent]
    rw [hleft] at h hpoint he hE
    have hend : EndsNumber left := by
      intro c hc
      rw [hc] at hpoint he hE
      refine ⟨?_, fun heq => hpoint (heq ▸ rfl), fun heq => he (heq ▸ rfl),
        fun heq => hE (heq ▸ rfl)⟩
      cases left with
      | nil => cases hc
      | cons d others =>
        obtain rfl : d = c := by simpa using hc
        cases hdigit : isDigit d with
        | false => rfl
        | true => simp [hdigit] at hover
    split at h
    · next hword =>
      obtain ⟨rfl, rfl⟩ := Prod.mk.inj (Except.ok.inj h)
      rw [fitWord?, htotal] at hword
      split at hword
      · next hfit =>
        refine ⟨rfl, taken, htext, hdigits, ?_, (Option.some.inj hword).symm, hend⟩
        exact Nat.le_of_lt_succ hfit
      · cases hword
    · cases h

theorem unsigned_sound {positive : Bool} {text rest : List Char} {value : UInt32}
    (h : unsigned positive text = .ok (value, rest)) :
    positive = true ∧
      ∃ numeral, text = numeral ++ rest ∧ Writes numeral value ∧ EndsNumber rest := by
  cases text with
  | nil => cases h
  | cons c others =>
    rw [unsigned] at h
    split at h
    · cases h
    next hc =>
    split at h
    · cases h
    next hzero =>
    obtain ⟨hsign, numeral, htext, hdigits, hfits, rfl, hend⟩ := digits_sound h
    refine ⟨hsign, numeral, htext, ⟨⟨⟨?_, hdigits, hfits⟩, ?_⟩, rfl⟩, hend⟩
    · rintro rfl
      rw [List.nil_append] at htext
      simp [(hend c (htext ▸ rfl)).1] at hc
    · rintro more rfl
      rw [List.cons_append, List.cons.injEq] at htext
      obtain ⟨rfl, rfl⟩ := htext
      cases more with
      | nil => rfl
      | cons d more => simp [hdigits d (by simp)] at hzero

theorem word_sound {text rest : List Char} {value : UInt32} (h : word text = .ok (value, rest)) :
    ∃ (gap : Space) (numeral : List Char), text = gap.text ++ (numeral ++ rest) ∧
      Writes numeral value ∧ EndsNumber rest := by
  obtain ⟨gap, htext⟩ := exists_gap text
  unfold word at h
  split at h
  · cases h
  · next c others hs =>
    rw [hs] at htext
    split at h
    · cases (unsigned_sound h).1
    split at h
    · obtain ⟨-, numeral, hnumeral, hread⟩ := unsigned_sound h
      exact ⟨gap, numeral, by rw [htext, hnumeral], hread⟩
    · cases h

theorem word_complete (gap : Space) {numeral rest : List Char} {value : UInt32}
    (hw : Writes numeral value) (he : EndsNumber rest) :
    word (gap.text ++ (numeral ++ rest)) = .ok (value, rest) := by
  obtain ⟨hn, rfl⟩ := hw
  rw [← word_numeral hn he, word, word, skipSpace_gap]

theorem key_sound {text rest : List Char} {value : UInt32} (h : key text = .ok (value, rest)) :
    ∃ numeral, text = numeral ++ '"' :: rest ∧ Writes numeral value := by
  unfold key at h
  dsimp only at h
  split at h
  · obtain ⟨_, hread, -⟩ := bind_ok.mp h
    cases (unsigned_sound hread).1
  · split at h
    · obtain ⟨⟨read, left⟩, hread, hclose⟩ := bind_ok.mp h
      obtain ⟨-, numeral, htext, hw, -⟩ := unsigned_sound hread
      dsimp only at hclose
      split at hclose
      · cases hclose
        exact ⟨numeral, htext, hw⟩
      · cases hclose
    · cases h
  · cases h

theorem colon_sound {text rest : List Char} (h : colon text = .ok rest) :
    ∃ gap : Space, text = gap.text ++ ':' :: rest := by
  obtain ⟨gap, htext⟩ := exists_gap text
  unfold colon at h
  split at h
  · next hs =>
    cases h
    exact ⟨gap, hs ▸ htext⟩
  · cases h

theorem colon_complete (gap : Space) (rest : List Char) :
    colon (gap.text ++ ':' :: rest) = .ok rest := by
  rw [colon, skipSpace_gap]
  rfl

/-! ## Strings -/

theorem hexCode_sound {text rest : List Char} {value : Nat} (h : hexCode text = .ok (value, rest)) :
    ∃ four : Code, text = four.digits ++ rest ∧ value = four.value := by
  unfold hexCode at h
  split at h
  · next a b c d left =>
    split at h
    · next ha hb hc hd =>
      cases h
      exact ⟨⟨[a, b, c, d], rfl, by simp [ha, hb, hc, hd]⟩, rfl, by
        simp [Code.value, ha, hb, hc, hd]⟩
    · cases h
  · cases h

theorem hexCode_complete (four : Code) (rest : List Char) :
    hexCode (four.digits ++ rest) = .ok (four.value, rest) := by
  obtain ⟨digits, hfour, heach⟩ := four
  match digits, hfour with
  | [a, b, c, d], _ =>
    simp only [List.forall_mem_cons, Option.isSome_iff_exists] at heach
    obtain ⟨⟨_, ha⟩, ⟨_, hb⟩, ⟨_, hc⟩, ⟨_, hd⟩, -⟩ := heach
    simp [hexCode, Code.value, ha, hb, hc, hd]

/-- The pieces denote one character in front of whatever the others denote. -/
def Stands (parts : List Piece) (c : Char) : Prop :=
  ∀ others name, Denotes others name → Denotes (parts ++ others) (c :: name)

theorem unicodeEscape_sound {strict : Bool} {text rest : List Char} {c : Char}
    (h : unicodeEscape strict text = .ok (c, rest)) :
    ∃ parts, '\\' :: 'u' :: text = stringText parts ++ rest ∧
      (strict = true → Stands parts c) := by
  unfold unicodeEscape at h
  obtain ⟨⟨value, left⟩, hcode, h⟩ := bind_ok.mp h
  obtain ⟨four, rfl, rfl⟩ := hexCode_sound hcode
  dsimp only at h
  split at h
  · next hstrict =>
    cases h
    exact ⟨[.code four], by simp [stringText, Piece.text], by simp_all⟩
  split at h
  · cases h
  next hlow =>
  split at h
  · next hhigh =>
    unfold lowHalf at h
    split at h
    · next left =>
      obtain ⟨⟨value, left'⟩, hcode, h⟩ := bind_ok.mp h
      obtain ⟨low, rfl, rfl⟩ := hexCode_sound hcode
      dsimp only at h
      split at h
      · next hlow =>
        obtain ⟨rfl, rfl⟩ := Prod.mk.inj (Except.ok.inj h)
        exact ⟨[.code four, .code low], by simp [stringText, Piece.text],
          fun _ others name hrest => .pair hhigh hlow hrest⟩
      · cases h
    · cases h
    · cases h
    · cases h
  · next hhigh =>
    cases h
    exact ⟨[.code four], by simp [stringText, Piece.text],
      fun _ others name hrest => .code (by simpa using hhigh) (by simpa using hlow) hrest⟩

theorem escape_cons (strict : Bool) (letter : Char) (rest : List Char) :
    escape strict (letter :: rest) = match escapes.lookup letter with
      | some c => .ok (c, rest)
      | none => if letter = 'u' then unicodeEscape strict rest else .error .malformed := by
  simp only [escape, escapes, List.lookup_cons, List.lookup_nil]
  grind

theorem escape_sound {strict : Bool} {text rest : List Char} {c : Char}
    (h : escape strict text = .ok (c, rest)) :
    ∃ parts, '\\' :: text = stringText parts ++ rest ∧ (strict = true → Stands parts c) := by
  cases text with
  | nil => cases h
  | cons letter left =>
    rw [escape_cons] at h
    split at h
    · next hletter =>
      cases h
      exact ⟨[.short letter c hletter], rfl, fun _ _ _ hrest => .short letter c hletter hrest⟩
    · split at h
      · next hu => exact hu ▸ unicodeEscape_sound h
      · cases h

theorem stringText_cons (part : Piece) (others : List Piece) :
    stringText (part :: others) = part.text ++ stringText others := List.flatMap_cons

theorem stringText_append (parts others : List Piece) :
    stringText (parts ++ others) = stringText parts ++ stringText others := List.flatMap_append

theorem stringLoop_sound {strict : Bool} {fuel : Nat} {text name rest : List Char}
    (h : stringLoop strict fuel text = .ok (name, rest)) :
    ∃ parts, text = stringText parts ++ '"' :: rest ∧ (strict = true → Denotes parts name) := by
  induction fuel generalizing text name with
  | zero => cases text <;> cases h
  | succ fuel ih =>
    cases text with
    | nil => cases h
    | cons c left =>
      rw [stringLoop] at h
      split at h
      · next hquote =>
        cases h
        exact ⟨[], by rw [hquote]; rfl, fun _ => .nil⟩
      next hquote =>
      split at h
      · next hslash =>
        obtain ⟨⟨d, middle⟩, hescape, h⟩ := bind_ok.mp h
        obtain ⟨⟨others, last⟩, hloop, h⟩ := bind_ok.mp h
        cases h
        obtain ⟨parts, htext, hstands⟩ := escape_sound hescape
        obtain ⟨more, rfl, hmore⟩ := ih hloop
        refine ⟨parts ++ more, ?_, fun hs => hstands hs _ _ (hmore hs)⟩
        rw [hslash, htext, stringText_append, List.append_assoc]
      next hslash =>
      split at h
      · cases h
      next hcontrol =>
      obtain ⟨⟨others, last⟩, hloop, h⟩ := bind_ok.mp h
      cases h
      have hplain : isPlain c = true := by simp [isPlain, hquote, hslash, Nat.not_lt.mp hcontrol]
      obtain ⟨more, rfl, hmore⟩ := ih hloop
      exact ⟨.plain c hplain :: more, rfl, fun hs => .plain c hplain (hmore hs)⟩

theorem string_sound {strict : Bool} {text name rest : List Char}
    (h : string strict text = .ok (name, rest)) :
    ∃ parts, text = stringText parts ++ '"' :: rest ∧ (strict = true → Denotes parts name) :=
  stringLoop_sound h

theorem stringLoop_plain_cons {strict : Bool} {fuel : Nat} {c : Char} {text name rest : List Char}
    (hp : isPlain c = true) (h : stringLoop strict fuel text = .ok (name, rest)) :
    stringLoop strict (fuel + 1) (c :: text) = .ok (c :: name, rest) := by
  simp only [isPlain, Bool.and_eq_true, decide_eq_true_eq, Bool.not_eq_true',
    decide_eq_false_iff_not] at hp
  rw [stringLoop, if_neg hp.1.1, if_neg hp.1.2, if_neg hp.2, h]
  rfl

theorem stringLoop_escape_cons {strict : Bool} {fuel : Nat} {c : Char}
    {text left name rest : List Char} (he : escape strict text = .ok (c, left))
    (h : stringLoop strict fuel left = .ok (name, rest)) :
    stringLoop strict (fuel + 1) ('\\' :: text) = .ok (c :: name, rest) := by
  rw [stringLoop, if_neg (by decide), if_pos rfl, he]
  simp only [bind, Except.bind, h]
  rfl

theorem stringLoop_quote (strict : Bool) (fuel : Nat) (rest : List Char) :
    stringLoop strict (fuel + 1) ('"' :: rest) = .ok ([], rest) := by
  rw [stringLoop, if_pos rfl]

theorem escape_short (strict : Bool) {letter c : Char} (h : escapes.lookup letter = some c)
    (rest : List Char) : escape strict (letter :: rest) = .ok (c, rest) := by
  rw [escape_cons, h]

theorem escape_code (strict : Bool) (rest : List Char) :
    escape strict ('u' :: rest) = unicodeEscape strict rest := by
  rw [escape_cons]
  rfl

theorem unicodeEscape_false (four : Code) (rest : List Char) :
    unicodeEscape false (four.digits ++ rest) = .ok (Char.ofNat four.value, rest) := by
  rw [unicodeEscape, hexCode_complete]
  rfl

theorem unicodeEscape_true {four : Code} (hh : isHighSurrogate four.value = false)
    (hl : isLowSurrogate four.value = false) (rest : List Char) :
    unicodeEscape true (four.digits ++ rest) = .ok (Char.ofNat four.value, rest) := by
  rw [unicodeEscape, hexCode_complete]
  simp [bind, Except.bind, pure, Except.pure, hh, hl]

theorem unicodeEscape_pair {high low : Code} (hh : isHighSurrogate high.value = true)
    (hl : isLowSurrogate low.value = true) (rest : List Char) :
    unicodeEscape true (high.digits ++ '\\' :: 'u' :: (low.digits ++ rest)) =
      .ok (Char.ofNat (0x10000 + (high.value - 0xD800) * 0x400 + (low.value - 0xDC00)), rest) := by
  have hboth : isLowSurrogate high.value = false := by
    simp only [isHighSurrogate, isLowSurrogate, Bool.and_eq_true, decide_eq_true_eq,
      Bool.and_eq_false_iff, decide_eq_false_iff_not] at hh ⊢
    omega
  rw [unicodeEscape, hexCode_complete]
  simp [bind, Except.bind, pure, Except.pure, hh, hl, hboth, lowHalf, hexCode_complete]

/-- The fuel lasts, since a piece is one character long at least. -/
theorem length_tail_le {part : Piece} {text : List Char} {fuel : Nat}
    (hf : (part.text ++ text).length ≤ fuel) : ∃ left, fuel = left + 1 ∧ text.length ≤ left := by
  have hpart : 0 < part.text.length := by cases part <;> simp [Piece.text]
  rw [List.length_append] at hf
  exact ⟨fuel - 1, by omega, by omega⟩

theorem stringLoop_lenient {parts : List Piece} {rest : List Char} {fuel : Nat}
    (hf : (stringText parts ++ '"' :: rest).length ≤ fuel) :
    ∃ name, stringLoop false fuel (stringText parts ++ '"' :: rest) = .ok (name, rest) := by
  induction parts generalizing fuel with
  | nil =>
    obtain ⟨fuel, rfl⟩ := Nat.exists_eq_add_of_le' (Nat.le_trans (Nat.le_add_left 1 _) hf)
    exact ⟨[], stringLoop_quote false fuel rest⟩
  | cons part others ih =>
    rw [stringText_cons, List.append_assoc] at hf ⊢
    obtain ⟨fuel, rfl, hleft⟩ := length_tail_le hf
    obtain ⟨name, hname⟩ := ih hleft
    cases part with
    | plain c hp => exact ⟨_, stringLoop_plain_cons hp hname⟩
    | short letter c hl => exact ⟨_, stringLoop_escape_cons (escape_short false hl _) hname⟩
    | code four =>
      exact ⟨_, stringLoop_escape_cons ((escape_code false _).trans (unicodeEscape_false four _))
        hname⟩

theorem stringLoop_strict {parts : List Piece} {name rest : List Char} {fuel : Nat}
    (hd : Denotes parts name) (hf : (stringText parts ++ '"' :: rest).length ≤ fuel) :
    stringLoop true fuel (stringText parts ++ '"' :: rest) = .ok (name, rest) := by
  induction hd generalizing fuel with
  | nil =>
    obtain ⟨fuel, rfl⟩ := Nat.exists_eq_add_of_le' (Nat.le_trans (Nat.le_add_left 1 _) hf)
    exact stringLoop_quote true fuel rest
  | plain c hp _ ih =>
    rw [stringText_cons, List.append_assoc] at hf ⊢
    obtain ⟨fuel, rfl, hleft⟩ := length_tail_le hf
    exact stringLoop_plain_cons hp (ih hleft)
  | short letter c hl _ ih =>
    rw [stringText_cons, List.append_assoc] at hf ⊢
    obtain ⟨fuel, rfl, hleft⟩ := length_tail_le hf
    exact stringLoop_escape_cons (escape_short true hl _) (ih hleft)
  | code hhigh hlow _ ih =>
    rw [stringText_cons, List.append_assoc] at hf ⊢
    obtain ⟨fuel, rfl, hleft⟩ := length_tail_le hf
    exact stringLoop_escape_cons ((escape_code true _).trans (unicodeEscape_true hhigh hlow _))
      (ih hleft)
  | pair hhigh hlow _ ih =>
    -- the two codes are one step of the loop
    rw [stringText_cons, stringText_cons, List.append_assoc, List.append_assoc] at hf ⊢
    obtain ⟨fuel, rfl, hleft⟩ := length_tail_le hf
    obtain ⟨left, rfl, htail⟩ := length_tail_le hleft
    exact stringLoop_escape_cons ((escape_code true _).trans (unicodeEscape_pair hhigh hlow _))
      (ih (Nat.le_succ_of_le htail))

theorem string_lenient (parts : List Piece) (rest : List Char) :
    ∃ name, string false (stringText parts ++ '"' :: rest) = .ok (name, rest) :=
  stringLoop_lenient (Nat.le_refl _)

theorem string_strict {parts : List Piece} {name : List Char} (hd : Denotes parts name)
    (rest : List Char) : string true (stringText parts ++ '"' :: rest) = .ok (name, rest) :=
  stringLoop_strict hd (Nat.le_refl _)

/-! ## Skipped numbers -/

theorem exists_digits {text : List Char} (h : (text.head?.map isDigit).getD false = true) :
    ∃ run, text = run ++ text.dropWhile isDigit ∧ IsDigits run := by
  refine ⟨text.takeWhile isDigit, List.takeWhile_append_dropWhile.symm, ?_, ?_⟩
  · cases text with
    | nil => cases h
    | cons c rest =>
      have hc : isDigit c = true := h
      simp [hc]
  · exact fun c hc => List.mem_takeWhile_imp hc

theorem Grammar.IsDigits.head {run : List Char} (h : IsDigits run) (rest : List Char) :
    (((run ++ rest).head?.map isDigit).getD false) = true := by
  obtain ⟨c, others, rfl⟩ := List.exists_cons_of_ne_nil h.nonempty
  exact h.each c List.mem_cons_self

theorem dropWhile_digits {run rest : List Char} (hd : ∀ c ∈ run, isDigit c = true)
    (hr : ∀ c ∈ rest.head?, isDigit c = false) : (run ++ rest).dropWhile isDigit = rest := by
  rw [List.dropWhile_append_of_pos hd]
  cases rest with
  | nil => rfl
  | cons c others => simp [hr c rfl]

def afterSign : List Char → List Char
  | '+' :: rest => rest
  | '-' :: rest => rest
  | rest => rest

theorem exists_sign (text : List Char) :
    ∃ sign ∈ [[], ['+'], ['-']], text = sign ++ afterSign text := by
  unfold afterSign
  split
  · exact ⟨['+'], by simp, rfl⟩
  · exact ⟨['-'], by simp, rfl⟩
  · exact ⟨[], by simp, rfl⟩

theorem afterSign_append {sign power : List Char} (hs : sign ∈ [[], ['+'], ['-']])
    (h : IsDigits power) (rest : List Char) :
    afterSign (sign ++ (power ++ rest)) = power ++ rest := by
  obtain ⟨c, others, rfl⟩ := List.exists_cons_of_ne_nil h.nonempty
  have hc := h.each c List.mem_cons_self
  simp only [List.mem_cons, List.not_mem_nil, or_false] at hs
  rcases hs with rfl | rfl | rfl
  · unfold afterSign
    split
    · next heq => exact absurd (List.cons.inj heq).1 (ne_of_isDigit hc rfl)
    · next heq => exact absurd (List.cons.inj heq).1 (ne_of_isDigit hc rfl)
    · rfl
  · rfl
  · rfl

theorem skipExponent_eq (text : List Char) :
    skipExponent text = if ((afterSign text).head?.map isDigit).getD false then
      .ok ((afterSign text).dropWhile isDigit) else .error .malformed := rfl

theorem skipExponent_sound {text rest : List Char} (h : skipExponent text = .ok rest) :
    ∃ sign power, text = sign ++ (power ++ rest) ∧ sign ∈ [[], ['+'], ['-']] ∧ IsDigits power := by
  obtain ⟨sign, hsign, htext⟩ := exists_sign text
  rw [skipExponent_eq] at h
  split at h
  · next hdigit =>
    obtain ⟨power, hpower, hdigits⟩ := exists_digits hdigit
    cases h
    exact ⟨sign, power, by rw [← hpower, ← htext], hsign, hdigits⟩
  · cases h

theorem skipExponent_complete {sign power rest : List Char} (hs : sign ∈ [[], ['+'], ['-']])
    (h : IsDigits power) (he : EndsNumber rest) :
    skipExponent (sign ++ (power ++ rest)) = .ok rest := by
  rw [skipExponent_eq, afterSign_append hs h, if_pos (h.head rest),
    dropWhile_digits h.each fun c hc => (he c hc).1]

theorem skipFraction_sound {text rest : List Char} (h : skipFraction text = .ok rest) :
    ∃ exponent, text = exponent ++ rest ∧ IsExponent exponent := by
  unfold skipFraction at h
  split at h
  · obtain ⟨sign, power, rfl, hs, hp⟩ := skipExponent_sound h
    exact ⟨'e' :: (sign ++ power), by simp, .some (.inl rfl) hs hp⟩
  · obtain ⟨sign, power, rfl, hs, hp⟩ := skipExponent_sound h
    exact ⟨'E' :: (sign ++ power), by simp, .some (.inr rfl) hs hp⟩
  · cases h
    exact ⟨[], rfl, .none⟩

theorem skipFraction_complete {exponent rest : List Char} (h : IsExponent exponent)
    (he : EndsNumber rest) : skipFraction (exponent ++ rest) = .ok rest := by
  cases h with
  | none =>
    rw [List.nil_append]
    unfold skipFraction
    split
    · exact absurd rfl (he _ rfl).2.2.1
    · exact absurd rfl (he _ rfl).2.2.2
    · rfl
  | some hm hs hp =>
    rw [List.cons_append, List.append_assoc, ← skipExponent_complete hs hp he]
    rcases hm with rfl | rfl <;> rfl

theorem skipTail_sound {text rest : List Char} (h : skipTail text = .ok rest) :
    ∃ fraction exponent, text = fraction ++ (exponent ++ rest) ∧ IsFraction fraction ∧
      IsExponent exponent := by
  unfold skipTail at h
  split at h
  · split at h
    · next hdigit =>
      obtain ⟨decimals, hrun, hdigits⟩ := exists_digits hdigit
      obtain ⟨exponent, htext, hexponent⟩ := skipFraction_sound h
      exact ⟨'.' :: decimals, exponent, by rw [hrun, htext]; rfl, .some hdigits, hexponent⟩
    · cases h
  · obtain ⟨exponent, rfl, hexponent⟩ := skipFraction_sound h
    exact ⟨[], exponent, rfl, .none, hexponent⟩

theorem Grammar.IsExponent.noDigit {exponent rest : List Char} (h : IsExponent exponent)
    (he : EndsNumber rest) : ∀ c ∈ (exponent ++ rest).head?, isDigit c = false ∧ c ≠ '.' := by
  cases h with
  | none => exact fun c hc => ⟨(he c hc).1, (he c hc).2.1⟩
  | some hm hs hp =>
    rintro c ⟨⟩
    rcases hm with rfl | rfl <;> decide

theorem skipTail_complete {fraction exponent rest : List Char} (hf : IsFraction fraction)
    (hx : IsExponent exponent) (he : EndsNumber rest) :
    skipTail (fraction ++ (exponent ++ rest)) = .ok rest := by
  have hnext := hx.noDigit he
  have hread := skipFraction_complete hx he
  generalize exponent ++ rest = left at *
  cases hf with
  | none =>
    rw [List.nil_append]
    unfold skipTail
    split
    · exact absurd rfl (hnext _ rfl).2
    · exact hread
  | some hd =>
    rw [List.cons_append, skipTail, if_pos (hd.head left),
      dropWhile_digits hd.each fun c hc => (hnext c hc).1]
    exact hread

theorem skipNumber_sound {text rest : List Char} (h : skipNumber text = .ok rest) :
    ∃ number, text = number ++ rest ∧ IsMagnitude number := by
  cases text with
  | nil => cases h
  | cons c left =>
    rw [skipNumber] at h
    split at h
    · cases h
    next hc =>
    have hc : isDigit c = true := by simpa using hc
    split at h
    · next hzero =>
      split at h
      · cases h
      · obtain ⟨fraction, exponent, rfl, hf, hx⟩ := skipTail_sound h
        refine ⟨[c] ++ (fraction ++ exponent), by simp,
          .intro ⟨by simp, by simpa using hc⟩ ?_ hf hx⟩
        exact fun more heq => (List.cons.inj heq).2.symm
    · next hzero =>
      obtain ⟨fraction, exponent, htext, hf, hx⟩ := skipTail_sound h
      refine ⟨c :: left.takeWhile isDigit ++ (fraction ++ exponent), ?_,
        .intro ⟨by simp, ?_⟩ ?_ hf hx⟩
      · rw [List.append_assoc, List.append_assoc, ← htext, List.cons_append,
          List.takeWhile_append_dropWhile]
      · rw [List.forall_mem_cons]
        exact ⟨hc, fun d hd => List.mem_takeWhile_imp hd⟩
      · exact fun more heq => absurd (List.cons.inj heq).1 hzero

theorem skipNumber_complete {number rest : List Char} (h : IsMagnitude number)
    (he : EndsNumber rest) : skipNumber (number ++ rest) = .ok rest := by
  obtain @⟨whole, fraction, exponent, hw, hz, hf, hx⟩ := h
  have hread := skipTail_complete hf hx he
  have hnext : ∀ c ∈ (fraction ++ (exponent ++ rest)).head?, isDigit c = false := by
    cases hf with
    | none => exact fun c hc => (hx.noDigit he c hc).1
    | some _ => rintro c ⟨⟩; decide
  rw [List.append_assoc, List.append_assoc]
  generalize fraction ++ (exponent ++ rest) = left at *
  obtain ⟨c, others, rfl⟩ := List.exists_cons_of_ne_nil hw.nonempty
  obtain ⟨hc, hothers⟩ := List.forall_mem_cons.mp hw.each
  rw [List.cons_append, skipNumber, hc, if_neg (by simp)]
  split
  · next hzero =>
    obtain rfl := hz others (by rw [hzero])
    rw [List.nil_append, if_neg, hread]
    cases left with
    | nil => simp
    | cons d left => simpa using hnext d rfl
  · rw [dropWhile_digits hothers hnext, hread]

/-! ## Skipped values -/

theorem literal_eq_ok_iff {name text rest : List Char} :
    literal name text = .ok rest ↔ text = name ++ rest := by
  induction name generalizing text with
  | nil => simp [literal]
  | cons n name ih =>
    cases text with
    | nil => simp [literal]
    | cons c text =>
      rw [literal, List.cons_append, List.cons.injEq]
      split
      · next heq => simp [ih, heq]
      · next hne => simp [Ne.symm hne]

theorem skipScalar_sound {c : Char} {text rest : List Char} (h : skipScalar c text = .ok rest) :
    ∃ value, c :: text = value ++ rest ∧ IsValue value := by
  unfold skipScalar at h
  split at h
  · next hc =>
    rw [literal_eq_ok_iff] at h
    exact ⟨"null".toList, by rw [hc, h]; rfl, .literal (by simp)⟩
  split at h
  · next hc =>
    rw [literal_eq_ok_iff] at h
    exact ⟨"true".toList, by rw [hc, h]; rfl, .literal (by simp)⟩
  split at h
  · next hc =>
    rw [literal_eq_ok_iff] at h
    exact ⟨"false".toList, by rw [hc, h]; rfl, .literal (by simp)⟩
  split at h
  · next hc =>
    obtain ⟨number, rfl, hn⟩ := skipNumber_sound h
    exact ⟨'-' :: number, by rw [hc]; rfl, .negative hn⟩
  split at h
  · obtain ⟨number, htext, hn⟩ := skipNumber_sound h
    exact ⟨number, htext, .positive hn⟩
  split at h
  · next hc =>
    generalize hs : string false text = read at h
    cases read with
    | error cause => cases h
    | ok read =>
      cases h
      obtain ⟨parts, rfl, -⟩ := string_sound hs
      exact ⟨'"' :: (stringText parts ++ ['"']), by rw [hc]; simp, .string parts⟩
  · cases h

/-- Items as a loop meets them: what is in front of one tells whether it is the first. -/
def listed (first : Bool) : List (List Char) → List Char
  | [] => []
  | item :: others => separator first ++ (item ++ listed false others)

theorem intercalate_comma (items : List (List Char)) :
    [','].intercalate items = listed true items := by
  induction items with
  | nil => rfl
  | cons item others ih =>
    cases others with
    | nil => simp [listed, separator]
    | cons other others =>
      rw [List.intercalate_cons_cons, ih]
      simp [listed, separator]

theorem array_append (gap : Space) (items : List Padded) (rest : List Char) :
    Grammar.array gap items ++ rest =
      '[' :: (gap.text ++ (listed true (items.map Padded.text) ++ ']' :: rest)) := by
  simp [Grammar.array, intercalate_comma]

theorem object_append (gap : Space) (members : List Member) (rest : List Char) :
    Grammar.object gap members ++ rest =
      '\x7b' :: (gap.text ++ (listed true (members.map Member.text) ++ '\x7d' :: rest)) := by
  simp [Grammar.object, intercalate_comma]

theorem endsNumber_listed (items : List (List Char)) {c : Char} (hc : c = ']' ∨ c = '\x7d')
    (rest : List Char) : EndsNumber (listed false items ++ c :: rest) := by
  cases items with
  | nil => rcases hc with rfl | rfl <;> simp [listed, EndsNumber, isDigit]
  | cons item others => simp [listed, separator, EndsNumber, isDigit]

def ValuesSound (fuel : Nat) : Prop :=
  ∀ text rest, skipValueLoop fuel text = .ok rest →
    ∃ (gap : Space) (value : List Char), text = gap.text ++ (value ++ rest) ∧ IsValue value

def ItemsSound (fuel : Nat) : Prop :=
  ∀ text rest, skipItemsLoop fuel text = .ok rest →
    ∃ first others, text = listed true ((first :: others).map Padded.text) ++ ']' :: rest ∧
      ∀ item ∈ first :: others, IsValue item.inner

def MembersSound (fuel : Nat) : Prop :=
  ∀ text rest, skipMembersLoop fuel text = .ok rest →
    ∃ first others, text = listed true ((first :: others).map Member.text) ++ '\x7d' :: rest ∧
      ∀ member ∈ first :: others,
        (∃ parts, member.label = stringText parts) ∧ IsValue member.value.inner

theorem valuesSound_succ {fuel : Nat} (hi : ItemsSound fuel) (hm : MembersSound fuel) :
    ValuesSound (fuel + 1) := by
  intro text rest h
  obtain ⟨gap, htext⟩ := exists_gap text
  rw [skipValueLoop] at h
  split at h
  · cases h
  · next left hs =>
    obtain ⟨inside, hleft⟩ := exists_gap left
    refine ⟨gap, ?_⟩
    split at h
    · next hclose =>
      cases h
      exact ⟨_, by rw [htext, hs, hleft, hclose]; simp [Grammar.array], .array inside [] (by simp)⟩
    · obtain ⟨first, others, hitems, hvalues⟩ := hi _ _ h
      refine ⟨_, ?_, .array inside (first :: others) hvalues⟩
      rw [htext, hs, hleft, hitems, Grammar.array, intercalate_comma]
      simp
  · next left hs =>
    obtain ⟨inside, hleft⟩ := exists_gap left
    refine ⟨gap, ?_⟩
    split at h
    · next hclose =>
      cases h
      exact ⟨_, by rw [htext, hs, hleft, hclose]; simp [Grammar.object],
        .object inside [] (by simp) (by simp)⟩
    · obtain ⟨first, others, hmembers, hvalues⟩ := hm _ _ h
      refine ⟨_, ?_, .object inside (first :: others) (fun m hm => (hvalues m hm).1)
        fun m hm => (hvalues m hm).2⟩
      rw [htext, hs, hleft, hmembers, Grammar.object, intercalate_comma]
      simp
  · next c left _ _ hs =>
    obtain ⟨value, hvalue, hv⟩ := skipScalar_sound h
    exact ⟨gap, value, by rw [htext, hs, hvalue], hv⟩

theorem itemsSound_succ {fuel : Nat} (hv : ValuesSound fuel) (hi : ItemsSound fuel) :
    ItemsSound (fuel + 1) := by
  intro text rest h
  rw [skipItemsLoop] at h
  obtain ⟨left, hread, hend⟩ := bind_ok.mp h
  obtain ⟨before, value, rfl, hvalue⟩ := hv _ _ hread
  obtain ⟨after, hleft⟩ := exists_gap left
  split at hend
  · next middle hs =>
    obtain ⟨first, others, rfl, hvalues⟩ := hi _ _ hend
    refine ⟨⟨before, value, after⟩, first :: others, ?_, List.forall_mem_cons.mpr ⟨hvalue, hvalues⟩⟩
    rw [hleft, hs]
    simp [listed, separator, Padded.text]
  · next middle hs =>
    cases hend
    refine ⟨⟨before, value, after⟩, [], ?_, by simpa using hvalue⟩
    rw [hleft, hs]
    simp [listed, separator, Padded.text]
  · cases hend

theorem membersSound_succ {fuel : Nat} (hv : ValuesSound fuel) (hm : MembersSound fuel) :
    MembersSound (fuel + 1) := by
  intro text rest h
  obtain ⟨before, htext⟩ := exists_gap text
  rw [skipMembersLoop] at h
  split at h
  · next inside hquote =>
    obtain ⟨⟨name, behind⟩, hstring, hnext⟩ := bind_ok.mp h
    obtain ⟨start, hcolon, hnext⟩ := bind_ok.mp hnext
    obtain ⟨left, hread, hend⟩ := bind_ok.mp hnext
    obtain ⟨parts, rfl, -⟩ := string_sound hstring
    obtain ⟨after, rfl⟩ := colon_sound hcolon
    obtain ⟨front, value, rfl, hvalue⟩ := hv _ _ hread
    obtain ⟨back, hleft⟩ := exists_gap left
    rw [hquote] at htext
    split at hend
    · next middle hs =>
      obtain ⟨first, others, rfl, hvalues⟩ := hm _ _ hend
      refine ⟨⟨before, stringText parts, after, ⟨front, value, back⟩⟩, first :: others, ?_,
        List.forall_mem_cons.mpr ⟨⟨⟨parts, rfl⟩, hvalue⟩, hvalues⟩⟩
      rw [htext, hleft, hs]
      simp [listed, separator, Padded.text, Member.text]
    · next middle hs =>
      cases hend
      refine ⟨⟨before, stringText parts, after, ⟨front, value, back⟩⟩, [], ?_,
        List.forall_mem_singleton.mpr ⟨⟨parts, rfl⟩, hvalue⟩⟩
      rw [htext, hleft, hs]
      simp [listed, separator, Padded.text, Member.text]
    · cases hend
  · cases h

/-- The three loops read what the grammar allows, each as far as its fuel lasts. -/
theorem skipLoops_sound (fuel : Nat) : ValuesSound fuel ∧ ItemsSound fuel ∧ MembersSound fuel := by
  induction fuel with
  | zero =>
    refine ⟨?_, ?_, ?_⟩
    · intro text rest h
      rw [skipValueLoop] at h
      cases h
    · intro text rest h
      rw [skipItemsLoop] at h
      cases h
    · intro text rest h
      rw [skipMembersLoop] at h
      cases h
  | succ fuel ih =>
    obtain ⟨hv, hi, hm⟩ := ih
    exact ⟨valuesSound_succ hi hm, itemsSound_succ hv hi, membersSound_succ hv hm⟩

theorem skipValue_sound {text rest : List Char} (h : skipValue text = .ok rest) :
    ∃ (gap : Space) (value : List Char), text = gap.text ++ (value ++ rest) ∧ IsValue value :=
  (skipLoops_sound _).1 text rest h

/-- A value is passed over to its end. The loops on it need two steps for a character at most. -/
def Skipped (value : List Char) : Prop :=
  ∀ fuel (gap : Space) rest, 2 * (gap.text ++ (value ++ rest)).length + 1 ≤ fuel → EndsNumber rest →
    skipValueLoop fuel (gap.text ++ (value ++ rest)) = .ok rest

theorem Grammar.IsMagnitude.exists_cons {number : List Char} (h : IsMagnitude number) :
    ∃ c others, number = c :: others ∧ isDigit c = true := by
  obtain ⟨hw, -, -, -⟩ := h
  obtain ⟨c, others, rfl⟩ := List.exists_cons_of_ne_nil hw.nonempty
  exact ⟨c, _, rfl, hw.each c List.mem_cons_self⟩

theorem Grammar.IsValue.exists_cons {value : List Char} (h : IsValue value) :
    ∃ c others, value = c :: others ∧ isSpace c = false ∧ c ≠ ']' := by
  cases h with
  | literal hn =>
    simp only [List.mem_cons, List.not_mem_nil, or_false] at hn
    rcases hn with rfl | rfl | rfl
    · exact ⟨'n', _, rfl, by decide, by decide⟩
    · exact ⟨'t', _, rfl, by decide, by decide⟩
    · exact ⟨'f', _, rfl, by decide, by decide⟩
  | positive hm =>
    obtain ⟨c, others, rfl, hc⟩ := hm.exists_cons
    exact ⟨c, others, rfl, isSpace_of_isDigit hc, ne_of_isDigit hc rfl⟩
  | negative _ => exact ⟨_, _, rfl, by decide, by decide⟩
  | string _ => exact ⟨_, _, rfl, by decide, by decide⟩
  | array _ _ _ => exact ⟨_, _, rfl, by decide, by decide⟩
  | object _ _ _ _ => exact ⟨_, _, rfl, by decide, by decide⟩

theorem skipSpace_cons {c : Char} (h : isSpace c = false) (rest : List Char) :
    skipSpace (c :: rest) = c :: rest := by
  simp [skipSpace, h]

theorem skipValueLoop_scalar (fuel : Nat) (gap : Space) {c : Char} (hs : isSpace c = false)
    (ha : c ≠ '[') (ho : c ≠ '\x7b') (rest : List Char) :
    skipValueLoop (fuel + 1) (gap.text ++ c :: rest) = skipScalar c rest := by
  rw [skipValueLoop, skipSpace_gap, skipSpace_cons hs]
  split
  · next heq => cases heq
  · next heq => exact absurd (List.cons.inj heq).1 ha
  · next heq => exact absurd (List.cons.inj heq).1 ho
  · next heq =>
    obtain ⟨rfl, rfl⟩ := List.cons.inj heq
    rfl

/-- The loops skip blanks first, so it does not matter if someone did before. -/
theorem skipItemsLoop_skipSpace (fuel : Nat) (text : List Char) :
    skipItemsLoop fuel (skipSpace text) = skipItemsLoop fuel text := by
  cases fuel with
  | zero => rfl
  | succ fuel =>
    have hvalue : skipValueLoop fuel (skipSpace text) = skipValueLoop fuel text := by
      cases fuel with
      | zero => rfl
      | succ fuel => rw [skipValueLoop, skipValueLoop, skipSpace_skipSpace]
    rw [skipItemsLoop, skipItemsLoop, hvalue]

theorem skipMembersLoop_skipSpace (fuel : Nat) (text : List Char) :
    skipMembersLoop fuel (skipSpace text) = skipMembersLoop fuel text := by
  cases fuel with
  | zero => rfl
  | succ fuel => rw [skipMembersLoop, skipMembersLoop, skipSpace_skipSpace]

theorem listed_items (first : Padded) (others : List Padded) (rest : List Char) :
    listed true ((first :: others).map Padded.text) ++ ']' :: rest =
      first.before.text ++ (first.inner ++ (first.after.text ++
        (listed false (others.map Padded.text) ++ ']' :: rest))) := by
  simp [listed, separator, Padded.text]

theorem listed_members (first : Bool) (member : Member) (others : List Member)
    (rest : List Char) :
    listed first ((member :: others).map Member.text) ++ '\x7d' :: rest =
      separator first ++ (member.before.text ++ '"' :: (member.label ++ '"' ::
        (member.after.text ++ ':' :: (member.value.before.text ++ (member.value.inner ++
          (member.value.after.text ++
            (listed false (others.map Member.text) ++ '\x7d' :: rest))))))) := by
  simp [listed, Member.text, Padded.text]

theorem skipItemsLoop_item {first : Padded} {others : List Padded} {rest : List Char} {fuel : Nat}
    (h : Skipped first.inner)
    (hf : 2 * (listed true ((first :: others).map Padded.text) ++ ']' :: rest).length + 1 ≤ fuel) :
    skipItemsLoop (fuel + 1) (listed true ((first :: others).map Padded.text) ++ ']' :: rest) =
      match skipSpace (listed false (others.map Padded.text) ++ ']' :: rest) with
      | ',' :: rest => skipItemsLoop fuel rest
      | ']' :: rest => .ok rest
      | rest => .error (unexpected rest) := by
  rw [listed_items] at hf ⊢
  rw [skipItemsLoop, h fuel first.before _ hf
    (endsNumber_gap _ (endsNumber_listed _ (.inl rfl) _))]
  simp only [bind, Except.bind, skipSpace_gap]
  rfl

theorem skipItemsLoop_complete {first : Padded} {others : List Padded} {rest : List Char}
    {fuel : Nat} (h : ∀ item ∈ first :: others, Skipped item.inner)
    (hf : 2 * (listed true ((first :: others).map Padded.text) ++ ']' :: rest).length + 2 ≤ fuel) :
    skipItemsLoop fuel (listed true ((first :: others).map Padded.text) ++ ']' :: rest) =
      .ok rest := by
  induction others generalizing first fuel with
  | nil =>
    obtain ⟨fuel, rfl⟩ := Nat.exists_eq_add_of_le' (Nat.le_trans (Nat.le_add_left 1 _) hf)
    rw [skipItemsLoop_item (h first List.mem_cons_self) (Nat.le_of_succ_le_succ hf)]
    rfl
  | cons other others ih =>
    obtain ⟨fuel, rfl⟩ := Nat.exists_eq_add_of_le' (Nat.le_trans (Nat.le_add_left 1 _) hf)
    rw [skipItemsLoop_item (h first List.mem_cons_self) (Nat.le_of_succ_le_succ hf)]
    refine ih (fun item hm => h item (List.mem_cons_of_mem _ hm)) ?_
    simp only [List.map_cons, listed, separator, List.length_append, List.length_cons, if_true,
      Bool.false_eq_true, if_false, List.length_nil] at hf ⊢
    omega

theorem skipMembersLoop_member {first : Member} {others : List Member} {rest : List Char}
    {fuel : Nat} (hl : ∃ parts, first.label = stringText parts) (h : Skipped first.value.inner)
    (hf : 2 * (listed true ((first :: others).map Member.text) ++ '\x7d' :: rest).length + 1 ≤
      fuel) :
    skipMembersLoop (fuel + 1) (listed true ((first :: others).map Member.text) ++ '\x7d' :: rest) =
      match skipSpace (listed false (others.map Member.text) ++ '\x7d' :: rest) with
      | ',' :: rest => skipMembersLoop fuel rest
      | '\x7d' :: rest => .ok rest
      | rest => .error (unexpected rest) := by
  obtain ⟨parts, hparts⟩ := hl
  rw [listed_members, hparts] at hf ⊢
  generalize hleft : first.value.after.text ++ _ = left at hf ⊢
  have hend : EndsNumber left :=
    hleft ▸ endsNumber_gap _ (endsNumber_listed _ (.inr rfl) _)
  obtain ⟨name, hname⟩ := string_lenient parts (first.after.text ++ ':' ::
    (first.value.before.text ++ (first.value.inner ++ left)))
  rw [show separator true = [] from rfl, List.nil_append, skipMembersLoop, skipSpace_gap,
    skipSpace_cons (by decide)]
  simp only [bind, Except.bind, hname, colon_complete]
  have hvalue : 2 * (first.value.before.text ++ (first.value.inner ++ left)).length + 1 ≤ fuel := by
    simp only [List.length_append, List.length_cons] at hf ⊢
    omega
  rw [h fuel first.value.before left hvalue hend]
  simp only [← hleft, skipSpace_gap]
  rfl

theorem skipMembersLoop_complete {first : Member} {others : List Member} {rest : List Char}
    {fuel : Nat} (hl : ∀ member ∈ first :: others, ∃ parts, member.label = stringText parts)
    (h : ∀ member ∈ first :: others, Skipped member.value.inner)
    (hf : 2 * (listed true ((first :: others).map Member.text) ++ '\x7d' :: rest).length + 2 ≤
      fuel) :
    skipMembersLoop fuel (listed true ((first :: others).map Member.text) ++ '\x7d' :: rest) =
      .ok rest := by
  induction others generalizing first fuel with
  | nil =>
    obtain ⟨fuel, rfl⟩ := Nat.exists_eq_add_of_le' (Nat.le_trans (Nat.le_add_left 1 _) hf)
    rw [skipMembersLoop_member (hl first List.mem_cons_self) (h first List.mem_cons_self)
      (Nat.le_of_succ_le_succ hf)]
    rfl
  | cons other others ih =>
    obtain ⟨fuel, rfl⟩ := Nat.exists_eq_add_of_le' (Nat.le_trans (Nat.le_add_left 1 _) hf)
    rw [skipMembersLoop_member (hl first List.mem_cons_self) (h first List.mem_cons_self)
      (Nat.le_of_succ_le_succ hf)]
    refine ih (fun member hm => hl member (List.mem_cons_of_mem _ hm))
      (fun member hm => h member (List.mem_cons_of_mem _ hm)) ?_
    simp only [List.map_cons, listed, separator, List.length_append, List.length_cons, if_true,
      Bool.false_eq_true, if_false, List.length_nil] at hf ⊢
    omega

theorem skipped_literal {name : List Char}
    (h : name ∈ ["null".toList, "true".toList, "false".toList]) : Skipped name := by
  intro fuel gap rest hf _
  obtain ⟨fuel, rfl⟩ := Nat.exists_eq_add_of_le' (Nat.le_trans (Nat.le_add_left 1 _) hf)
  simp only [List.mem_cons, List.not_mem_nil, or_false] at h
  rcases h with rfl | rfl | rfl
  · exact (skipValueLoop_scalar fuel gap (by decide) (by decide) (by decide) _).trans
      (literal_eq_ok_iff.mpr rfl)
  · exact (skipValueLoop_scalar fuel gap (by decide) (by decide) (by decide) _).trans
      (literal_eq_ok_iff.mpr rfl)
  · exact (skipValueLoop_scalar fuel gap (by decide) (by decide) (by decide) _).trans
      (literal_eq_ok_iff.mpr rfl)

theorem skipped_positive {number : List Char} (h : IsMagnitude number) : Skipped number := by
  intro fuel gap rest hf hend
  obtain ⟨fuel, rfl⟩ := Nat.exists_eq_add_of_le' (Nat.le_trans (Nat.le_add_left 1 _) hf)
  rw [← skipNumber_complete h hend]
  obtain ⟨c, others, rfl, hc⟩ := h.exists_cons
  rw [List.cons_append, skipValueLoop_scalar fuel gap (isSpace_of_isDigit hc)
    (ne_of_isDigit hc rfl) (ne_of_isDigit hc rfl), skipScalar, if_neg (ne_of_isDigit hc rfl),
    if_neg (ne_of_isDigit hc rfl), if_neg (ne_of_isDigit hc rfl), if_neg (ne_of_isDigit hc rfl),
    if_pos hc]

theorem skipped_negative {number : List Char} (h : IsMagnitude number) :
    Skipped ('-' :: number) := by
  intro fuel gap rest hf hend
  obtain ⟨fuel, rfl⟩ := Nat.exists_eq_add_of_le' (Nat.le_trans (Nat.le_add_left 1 _) hf)
  rw [List.cons_append, skipValueLoop_scalar fuel gap (by decide) (by decide) (by decide)]
  exact skipNumber_complete h hend

theorem skipped_string (parts : List Piece) : Skipped ('"' :: (stringText parts ++ ['"'])) := by
  intro fuel gap rest hf _
  obtain ⟨fuel, rfl⟩ := Nat.exists_eq_add_of_le' (Nat.le_trans (Nat.le_add_left 1 _) hf)
  obtain ⟨name, hname⟩ := string_lenient parts rest
  rw [List.cons_append, List.append_assoc, List.singleton_append,
    skipValueLoop_scalar fuel gap (by decide) (by decide) (by decide), skipScalar]
  simp [hname, Except.map, isDigit]

theorem skipValueLoop_array (fuel : Nat) (gap inside : Space) {body : List Char}
    (h : ∀ rest, skipSpace body ≠ ']' :: rest) :
    skipValueLoop (fuel + 1) (gap.text ++ '[' :: (inside.text ++ body)) =
      skipItemsLoop fuel body := by
  rw [skipValueLoop, skipSpace_gap, skipSpace_cons (by decide), ← skipItemsLoop_skipSpace]
  simp only [skipSpace_gap]

theorem skipValueLoop_object (fuel : Nat) (gap inside : Space) {body : List Char}
    (h : ∀ rest, skipSpace body ≠ '\x7d' :: rest) :
    skipValueLoop (fuel + 1) (gap.text ++ '\x7b' :: (inside.text ++ body)) =
      skipMembersLoop fuel body := by
  rw [skipValueLoop, skipSpace_gap, skipSpace_cons (by decide), ← skipMembersLoop_skipSpace]
  simp only [skipSpace_gap]

theorem skipped_array (inside : Space) {items : List Padded}
    (hv : ∀ item ∈ items, IsValue item.inner) (h : ∀ item ∈ items, Skipped item.inner) :
    Skipped (Grammar.array inside items) := by
  intro fuel gap rest hf _
  obtain ⟨fuel, rfl⟩ := Nat.exists_eq_add_of_le' (Nat.le_trans (Nat.le_add_left 1 _) hf)
  rw [array_append] at hf ⊢
  cases items with
  | nil =>
    rw [skipValueLoop, skipSpace_gap, skipSpace_cons (by decide)]
    simp only [skipSpace_gap]
    rfl
  | cons first others =>
    obtain ⟨c, tail, hfirst, hspace, hclose⟩ := (hv first List.mem_cons_self).exists_cons
    rw [skipValueLoop_array]
    · refine skipItemsLoop_complete h ?_
      simp only [List.length_append, List.length_cons] at hf ⊢
      omega
    · rw [listed_items, skipSpace_gap, hfirst, List.cons_append, skipSpace_cons hspace]
      exact fun left heq => hclose (List.cons.inj heq).1

theorem skipped_object (inside : Space) {members : List Member}
    (hl : ∀ member ∈ members, ∃ parts, member.label = stringText parts)
    (h : ∀ member ∈ members, Skipped member.value.inner) :
    Skipped (Grammar.object inside members) := by
  intro fuel gap rest hf _
  obtain ⟨fuel, rfl⟩ := Nat.exists_eq_add_of_le' (Nat.le_trans (Nat.le_add_left 1 _) hf)
  rw [object_append] at hf ⊢
  cases members with
  | nil =>
    rw [skipValueLoop, skipSpace_gap, skipSpace_cons (by decide)]
    simp only [skipSpace_gap]
    rfl
  | cons first others =>
    rw [skipValueLoop_object]
    · refine skipMembersLoop_complete hl h ?_
      simp only [List.length_append, List.length_cons] at hf ⊢
      omega
    · rw [listed_members, show separator true = [] from rfl, List.nil_append, skipSpace_gap,
        skipSpace_cons (by decide)]
      exact fun left heq => absurd (List.cons.inj heq).1 (by decide)

theorem Grammar.IsValue.skipped {value : List Char} (h : IsValue value) : Skipped value := by
  induction h with
  | literal hn => exact skipped_literal hn
  | positive hm => exact skipped_positive hm
  | negative hm => exact skipped_negative hm
  | string parts => exact skipped_string parts
  | array inside items hv ih => exact skipped_array inside hv ih
  | object inside members hl _ ih => exact skipped_object inside hl ih

theorem skipValue_complete (gap : Space) {value rest : List Char} (h : IsValue value)
    (he : EndsNumber rest) : skipValue (gap.text ++ (value ++ rest)) = .ok rest :=
  h.skipped _ gap rest (Nat.le_succ _) he

end Retrace.LineMap
