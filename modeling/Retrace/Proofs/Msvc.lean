import Mathlib.Data.Option.Basic
import Retrace.Finding.Msvc
import Retrace.Proofs.Gnu

/-!
# The lines that are findings of the Microsoft compiler

A path may hold parentheses and a message may look like coordinates, so what a
line says depends on which parenthesis closes first with coordinates in front of
it and a colon behind it. `Closes` follows the scan to that place; a `Layout` is
a line taken apart there. The reader accepts exactly the lines that are the text
of a layout, and every notice the compiler can print is read back.
-/

namespace Retrace.Finding.Msvc

open Text

/-! ## Coordinates -/

inductive Literal : List Char → UInt32 → Prop
  | plain (hw : IsWord digits) : Literal digits (wordOf digits)
  | plus (hw : IsWord digits) : Literal ('+' :: digits) (wordOf digits)

theorem signedWord?_eq_some_iff {text : List Char} {value : UInt32} :
    signedWord? text = some value ↔ Literal text value := by
  constructor
  · intro h
    unfold signedWord? at h
    split at h
    · obtain ⟨hw, rfl⟩ := word?_eq_some_iff.mp h
      exact .plus hw
    · obtain ⟨hw, rfl⟩ := word?_eq_some_iff.mp h
      exact .plain hw
  · rintro (hw | hw)
    · unfold signedWord?
      split
      · exact absurd (hw.each '+' List.mem_cons_self) (by decide)
      · exact word?_eq_some_iff.mpr ⟨hw, rfl⟩
    · exact word?_eq_some_iff.mpr ⟨hw, rfl⟩

theorem Literal.comma_not_mem {text : List Char} {value : UInt32} (h : Literal text value) :
    ',' ∉ text := by
  intro hmem
  cases h with
  | plain hw => exact absurd (hw.each _ hmem) (by decide)
  | plus hw =>
    rcases List.mem_cons.mp hmem with hplus | hmem
    · cases hplus
    · exact absurd (hw.each _ hmem) (by decide)

/-- What stands between the parentheses: a line, or a line and a column with a comma between them.
An absent column is zero. -/
inductive Coordinates : List Char → UInt32 → UInt32 → Prop
  | line {inner : List Char} {line : UInt32} (hl : Literal (trim inner) line) :
    Coordinates inner line 0
  | both {line column : UInt32} (hl : Literal (trim before) line)
      (hc : Literal (trim after) column) :
    Coordinates (before ++ ',' :: after) line column

theorem coordinates?_eq_some_iff {inner : List Char} {line column : UInt32} :
    coordinates? inner = some (line, column) ↔ Coordinates inner line column := by
  have hcomma {text : List Char} {value : UInt32} (h : Literal (trim text) value) : ',' ∉ text :=
    fun hmem => h.comma_not_mem (mem_trim rfl hmem)
  constructor
  · intro h
    unfold coordinates? at h
    split at h
    · next hcut =>
      obtain ⟨rfl, -⟩ := cut_eq_some hcut
      simp only [Option.bind_eq_bind, Option.bind_eq_some_iff, Option.pure_def, Option.some.injEq,
        Prod.mk.injEq] at h
      obtain ⟨_, hl, _, hc, rfl, rfl⟩ := h
      exact .both (signedWord?_eq_some_iff.mp hl) (signedWord?_eq_some_iff.mp hc)
    · simp only [Option.map_eq_some_iff, Prod.mk.injEq] at h
      obtain ⟨_, hl, rfl, rfl⟩ := h
      exact .line (signedWord?_eq_some_iff.mp hl)
  · rintro (hl | ⟨hl, hc⟩)
    · rw [coordinates?, cut_eq_none_iff.mpr (hcomma hl)]
      simp [signedWord?_eq_some_iff.mpr hl]
    · rw [coordinates?, cut_append (hcomma hl)]
      simp [signedWord?_eq_some_iff.mpr hl, signedWord?_eq_some_iff.mpr hc]

/-- A text in front of a closing parenthesis ends with coordinates, behind the last parenthesis
that opens. -/
def Located (before path : List Char) (line column : UInt32) : Prop :=
  ∃ inner, before = path ++ '(' :: inner ∧ '(' ∉ inner ∧ Coordinates inner line column

theorem site?_reverse_eq_some_iff {before file : List Char} {line column : UInt32} :
    site? before.reverse = some (file, line, column) ↔
      ∃ path, Located before path line column ∧ file = trim path := by
  simp only [site?, Option.bind_eq_bind, Option.bind_eq_some_iff, Option.pure_def,
    Option.some.injEq, Prod.exists, cut_eq_some_iff, coordinates?_eq_some_iff, Prod.mk.injEq]
  constructor
  · rintro ⟨inner, path, ⟨hsplit, hinner⟩, _, _, hc, rfl, rfl, rfl⟩
    refine ⟨path.reverse, ⟨inner.reverse, ?_, by simpa using hinner, hc⟩, rfl⟩
    rw [← List.reverse_reverse before, hsplit]
    simp
  · rintro ⟨path, ⟨inner, rfl, hinner, hc⟩, rfl⟩
    exact ⟨inner.reverse, path.reverse, ⟨by simp, by simpa using hinner⟩, line, column,
      by simpa using hc, by simp, rfl, rfl⟩

theorem site?_reverse_eq_none_iff {before : List Char} :
    site? before.reverse = none ↔ ∀ path line column, ¬ Located before path line column := by
  constructor
  · intro h path line column hl
    rw [site?_reverse_eq_some_iff.mpr ⟨path, hl, rfl⟩] at h
    cases h
  · intro h
    cases hs : site? before.reverse with
    | none => rfl
    | some site =>
      obtain ⟨path, hl, -⟩ := site?_reverse_eq_some_iff.mp hs
      exact absurd hl (h _ _ _)

/-! ## The first closing parenthesis -/

/-- In a text of which `before` was passed already, `passed` ends with the first coordinates that a
parenthesis and a colon close. -/
structure Closes (before text passed after path : List Char) (line column : UInt32) : Prop where
  split : text = passed ++ ')' :: ':' :: after
  located : Located (before ++ passed) path line column
  first : ∀ early late, text = early ++ ')' :: ':' :: late → early.length < passed.length →
    ∀ path line column, ¬ Located (before ++ early) path line column

theorem closes_cons_iff {before rest passed after path : List Char} {c : Char}
    {line column : UInt32}
    (h : ∀ late, c :: rest = ')' :: ':' :: late → ∀ path line column,
      ¬ Located before path line column) :
    Closes before (c :: rest) passed after path line column ↔
      ∃ more, passed = c :: more ∧ Closes (before ++ [c]) rest more after path line column := by
  constructor
  · rintro ⟨hsplit, hl, hfirst⟩
    cases passed with
    | nil =>
      rw [List.append_nil] at hl
      exact absurd hl (h after hsplit _ _ _)
    | cons d more =>
      obtain ⟨rfl, rfl⟩ := List.cons.inj hsplit
      refine ⟨more, rfl, rfl, by simpa using hl, fun early late he hlen => ?_⟩
      have hearly := hfirst (c :: early) late (by rw [he]; rfl) (by simpa using hlen)
      simpa using hearly
  · rintro ⟨more, rfl, rfl, hl, hfirst⟩
    refine ⟨rfl, by simpa using hl, fun early late he hlen => ?_⟩
    cases early with
    | nil => simpa using h late he
    | cons d early =>
      obtain ⟨rfl, heq⟩ := List.cons.inj he
      simpa using hfirst early late heq (by simpa using hlen)

theorem scan_eq_some_iff (before : List Char) {text : List Char} {finding : Finding} :
    scan before.reverse text = some finding ↔ ∃ passed after path line column,
      Closes before text passed after path line column ∧
        finding? (trim path) line column after = some finding := by
  induction text generalizing before with
  | nil =>
    refine ⟨fun h => (nomatch h), ?_⟩
    rintro ⟨passed, _, _, _, _, ⟨hsplit, _, _⟩, _⟩
    simp at hsplit
  | cons c rest ih =>
    have hreverse : c :: before.reverse = (before ++ [c]).reverse := by simp
    have hpass (h : ∀ late, c :: rest = ')' :: ':' :: late → ∀ path line column,
        ¬ Located before path line column) :
        scan (c :: before.reverse) rest = some finding ↔ ∃ passed after path line column,
          Closes before (c :: rest) passed after path line column ∧
            finding? (trim path) line column after = some finding := by
      simp only [closes_cons_iff h, hreverse, ih]
      constructor
      · rintro ⟨more, after, path, line, column, hc, hf⟩
        exact ⟨_, after, path, line, column, ⟨more, rfl, hc⟩, hf⟩
      · rintro ⟨_, after, path, line, column, ⟨more, -, hc⟩, hf⟩
        exact ⟨more, after, path, line, column, hc, hf⟩
    unfold scan
    split
    · next after =>
      split
      · next file line column hsite =>
        obtain ⟨path, hl, rfl⟩ := site?_reverse_eq_some_iff.mp hsite
        constructor
        · intro hf
          exact ⟨[], after, path, line, column, ⟨rfl, by simpa using hl, by simp⟩, hf⟩
        · -- nothing closes earlier than the first character
          rintro ⟨passed, late, other, _, _, ⟨hsplit, hother, hfirst⟩, hf⟩
          cases passed with
          | cons d more => exact absurd hl (by simpa using hfirst [] after rfl (by simp) path _ _)
          | nil =>
            cases hsplit
            rw [List.append_nil] at hother
            rw [site?_reverse_eq_some_iff.mpr ⟨other, hother, rfl⟩] at hsite
            simp only [Option.some.injEq, Prod.mk.injEq] at hsite
            obtain ⟨hpath, rfl, rfl⟩ := hsite
            exact hpath ▸ hf
      · next hnone => exact hpass fun _ _ => site?_reverse_eq_none_iff.mp hnone
    · next hno =>
      refine hpass fun late he => ?_
      obtain ⟨rfl, rfl⟩ := List.cons.inj he
      exact absurd rfl (hno late rfl)

/-! ## Vendor codes -/

/-- A heading that ends with a vendor code: the code starts a word, and only blanks follow it. -/
structure Coded (head category digits : List Char) : Prop where
  nonempty : digits ≠ []
  each : ∀ c ∈ digits, isDigit c = true
  startsWord : category = [] ∨ category.getLast? = some ' '
  text : ∃ blanks, head = category ++ 'C' :: (digits ++ blanks) ∧ ∀ c ∈ blanks, isBlank c = true

theorem takeWhile_digits {digits blanks : List Char} (hd : ∀ c ∈ digits, isDigit c = true)
    (hb : ∀ c ∈ blanks, isBlank c = true) : (digits ++ blanks).takeWhile isDigit = digits ∧
      (digits ++ blanks).dropWhile isDigit = blanks := by
  rw [List.takeWhile_append_of_pos hd, List.dropWhile_append_of_pos hd]
  cases blanks with
  | nil => simp
  | cons c blanks => simp [isDigit_of_isBlank (hb c List.mem_cons_self)]

/-- The last letter C starts the code, so there is one code at most. -/
theorem Coded.unique {head category digits category' digits' : List Char}
    (h : Coded head category digits) (h' : Coded head category' digits') :
    category = category' ∧ digits = digits' := by
  obtain ⟨blanks, htext, hb⟩ := h.text
  obtain ⟨blanks', htext', hb'⟩ := h'.text
  have hlast {digits blanks : List Char} (hd : ∀ c ∈ digits, isDigit c = true)
      (hb : ∀ c ∈ blanks, isBlank c = true) : 'C' ∉ (digits ++ blanks).reverse := by
    rw [List.mem_reverse, List.mem_append]
    rintro (hmem | hmem)
    · exact absurd (hd _ hmem) (by decide)
    · exact absurd (hb _ hmem) (by decide)
  have hcut : cut 'C' head.reverse = some ((digits ++ blanks).reverse, category.reverse) := by
    rw [cut_eq_some_iff, htext]
    exact ⟨by simp, hlast h.each hb⟩
  have hcut' : cut 'C' head.reverse = some ((digits' ++ blanks').reverse, category'.reverse) := by
    rw [cut_eq_some_iff, htext']
    exact ⟨by simp, hlast h'.each hb'⟩
  rw [hcut, Option.some.injEq, Prod.mk.injEq, List.reverse_inj, List.reverse_inj] at hcut'
  refine ⟨hcut'.2, ?_⟩
  rw [← (takeWhile_digits h.each hb).1, hcut'.1, (takeWhile_digits h'.each hb').1]

theorem coded_iff {before rest digits : List Char} {c : Char} :
    Coded (before.reverse ++ c :: rest) before.reverse digits ↔
      (c = 'C' && !(rest.takeWhile isDigit).isEmpty && (before.isEmpty || before.head? = some ' ')
        && allBlank (rest.dropWhile isDigit)) = true ∧ digits = rest.takeWhile isDigit := by
  simp only [Bool.and_eq_true, Bool.or_eq_true, decide_eq_true_eq, Bool.not_eq_true',
    List.isEmpty_eq_false_iff, List.isEmpty_iff, allBlank, List.all_eq_true]
  constructor
  · rintro ⟨hne, hd, hstart, blanks, htext, hb⟩
    obtain ⟨rfl, rfl⟩ := List.cons.inj (List.append_cancel_left htext)
    rw [(takeWhile_digits hd hb).1, (takeWhile_digits hd hb).2]
    exact ⟨⟨⟨⟨rfl, hne⟩, by simpa using hstart⟩, hb⟩, rfl⟩
  · rintro ⟨⟨⟨⟨rfl, hne⟩, hstart⟩, hb⟩, rfl⟩
    refine ⟨hne, fun c hc => List.mem_takeWhile_imp hc, by simpa using hstart, _, ?_, hb⟩
    rw [List.takeWhile_append_dropWhile]

/-- The first code found is the only one. -/
theorem vendorCode?_eq_some_iff {before text category code : List Char} :
    vendorCode? before text = some (category, code) ↔
      ∃ digits, Coded (before.reverse ++ text) category digits ∧ before.length ≤ category.length ∧
        code = 'C' :: digits := by
  induction text generalizing before with
  | nil =>
    refine ⟨fun h => (nomatch h), ?_⟩
    rintro ⟨digits, hc, hlen, -⟩
    obtain ⟨blanks, htext, -⟩ := hc.text
    have hlength := congrArg List.length htext
    simp at hlength
    omega
  | cons c rest ih =>
    rw [vendorCode?]
    split
    · next htest =>
      have hcoded := coded_iff.mpr ⟨htest, rfl⟩
      constructor
      · intro h
        cases h
        exact ⟨_, hcoded, by simp, rfl⟩
      · rintro ⟨digits, hother, -, rfl⟩
        obtain ⟨rfl, rfl⟩ := hcoded.unique hother
        rfl
    · next htest =>
      have hwhole : (c :: before).reverse ++ rest = before.reverse ++ c :: rest := by simp
      rw [ih, hwhole]
      refine exists_congr fun digits => and_congr_right fun hc => and_congr_left fun _ => ?_
      rw [List.length_cons]
      refine ⟨Nat.le_of_succ_le, fun hlen => ?_⟩
      -- a code that starts here would have passed the test
      refine Nat.lt_of_le_of_ne hlen fun heq => htest ?_
      obtain ⟨blanks, htext, -⟩ := hc.text
      have hcategory : category = before.reverse :=
        (List.append_inj htext (by simp [heq])).1.symm
      exact (coded_iff.mp (hcategory ▸ hc)).1

inductive Heading (head : List Char) : List Char → Option (List Char) → Prop
  | coded (h : Coded head category digits) : Heading head category (some digits)
  | plain (h : ∀ category digits, ¬ Coded head category digits) : Heading head head none

def codeText (digits : List Char) : String := String.ofList ('C' :: digits)

theorem Heading.vendorCode?_eq {head category : List Char} {digits : Option (List Char)}
    (h : Heading head category digits) :
    vendorCode? [] head = digits.map fun digits => (category, 'C' :: digits) := by
  cases h with
  | coded h => exact vendorCode?_eq_some_iff.mpr ⟨_, h, Nat.zero_le _, rfl⟩
  | plain h =>
    cases hcode : vendorCode? [] head with
    | none => rfl
    | some found =>
      obtain ⟨digits, hcoded, -, -⟩ := vendorCode?_eq_some_iff.mp hcode
      exact absurd hcoded (h _ _)

theorem exists_heading (head : List Char) : ∃ category digits, Heading head category digits := by
  by_cases h : ∃ category digits, Coded head category digits
  · obtain ⟨category, digits, hcoded⟩ := h
    exact ⟨category, some digits, .coded hcoded⟩
  · exact ⟨head, none, .plain fun category digits hcoded => h ⟨category, digits, hcoded⟩⟩

theorem verdict?_append {head category : List Char} {digits : Option (List Char)}
    (hplain : ':' ∉ head) (hh : Heading (trimStart head) category digits) (said : List Char) :
    verdict? (head ++ ':' :: said) = some (.ofCategory (String.ofList (trim category)),
      digits.map codeText, String.ofList (trim said)) := by
  rw [verdict?, cut_trimStart rfl, cut_append hplain]
  simp only [Option.map_some, Option.bind_eq_bind, Option.bind_some, hh.vendorCode?_eq]
  cases hh with
  | coded h => rfl
  | plain h => rfl

theorem exists_heading_of_verdict? {rest : List Char} {verdict : Severity × Option String × String}
    (h : verdict? rest = some verdict) : ∃ head said, rest = head ++ ':' :: said ∧ ':' ∉ head := by
  cases hcut : cut ':' rest with
  | none => simp [verdict?, cut_trimStart, isBlank, hcut] at h
  | some split => exact ⟨split.1, split.2, cut_eq_some hcut⟩

/-! ## Whole lines -/

/-- A line taken apart at the first coordinates that a parenthesis and a colon close. -/
structure Layout where
  path : List Char
  inner : List Char
  line : UInt32
  column : UInt32
  head : List Char
  category : List Char
  digits : Option (List Char)
  message : List Char
  named : trim path ≠ []
  innermost : '(' ∉ inner
  coordinates : Coordinates inner line column
  headPlain : ':' ∉ head
  heading : Heading (trimStart head) category digits
  first : ∀ early late,
    path ++ '(' :: (inner ++ ')' :: ':' :: (head ++ ':' :: message)) = early ++ ')' :: ':' :: late →
    early.length < (path ++ '(' :: inner).length →
    ∀ path line column, ¬ Located early path line column

namespace Layout

def text (layout : Layout) : List Char :=
  layout.path ++ '(' :: (layout.inner ++ ')' :: ':' :: (layout.head ++ ':' :: layout.message))

def finding (layout : Layout) : Finding where
  file := String.ofList (trim layout.path)
  line := layout.line
  column := layout.column
  severity := .ofCategory (String.ofList (trim layout.category))
  code := layout.digits.map codeText
  message := String.ofList (trim layout.message)

end Layout

theorem Layout.scan_text (layout : Layout) : scan [] layout.text = some layout.finding := by
  refine (scan_eq_some_iff []).mpr ⟨layout.path ++ '(' :: layout.inner,
    layout.head ++ ':' :: layout.message, layout.path, layout.line, layout.column,
    ⟨by simp [text], ?_, ?_⟩, ?_⟩
  · exact ⟨layout.inner, rfl, layout.innermost, layout.coordinates⟩
  · exact layout.first
  · rw [finding?, verdict?_append layout.headPlain layout.heading]
    simp [layout.named, finding]

theorem exists_layout_of_scan {text : List Char} {finding : Finding}
    (h : scan [] text = some finding) :
    ∃ layout : Layout, text = layout.text ∧ finding = layout.finding := by
  obtain ⟨passed, after, path, line, column, ⟨hsplit, ⟨inner, hpassed, hinner, hc⟩, hfirst⟩, hf⟩ :=
    (scan_eq_some_iff []).mp h
  rw [finding?] at hf
  split at hf
  · cases hf
  · next hnamed =>
    obtain ⟨verdict, hv, rfl⟩ := Option.map_eq_some_iff.mp hf
    obtain ⟨head, said, rfl, hplain⟩ := exists_heading_of_verdict? hv
    obtain ⟨category, digits, hh⟩ := exists_heading (trimStart head)
    rw [verdict?_append hplain hh] at hv
    cases hv
    rw [List.nil_append] at hpassed
    rw [hpassed, List.append_assoc, List.cons_append] at hsplit
    have hnamed : trim path ≠ [] := by simpa using hnamed
    exact ⟨⟨path, inner, line, column, head, category, digits, said, hnamed, hinner, hc, hplain, hh,
      fun early late he hlen => hfirst early late (hsplit.trans he) (hpassed ▸ hlen)⟩, hsplit, rfl⟩

/-! ## Printing -/

open Gnu (word)

/-- What the compiler can print on one line. -/
structure Notice where
  path : List Char
  line : UInt32
  column : Option UInt32
  severity : Severity
  digits : Option (List Char)
  message : List Char
  named : path ≠ []
  pathTrimmed : trim path = path
  unclosed : ¬ [')', ':'] <:+: path
  code : ∀ code ∈ digits, code ≠ [] ∧ ∀ c ∈ code, isDigit c = true
  messageTrimmed : trim message = message

namespace Notice

def inner (notice : Notice) : List Char :=
  showWord notice.line ++ notice.column.elim [] (',' :: showWord ·)

def head (notice : Notice) : List Char :=
  (word notice.severity).toList ++ notice.digits.elim [] fun digits => ' ' :: 'C' :: digits

def text (notice : Notice) : List Char :=
  notice.path ++ '(' :: (notice.inner ++ ')' :: ':' :: (' ' :: notice.head ++
    ':' :: (' ' :: notice.message)))

def finding (notice : Notice) : Finding where
  file := String.ofList notice.path
  line := notice.line
  column := notice.column.getD 0
  severity := notice.severity
  code := notice.digits.map codeText
  message := String.ofList notice.message

end Notice

/-- A path that closes nothing in front of a colon leaves its coordinates the first to do so. -/
theorem length_le_of_unclosed {path inner rest early late : List Char}
    (hpath : ¬ [')', ':'] <:+: path) (hinner : ')' ∉ inner)
    (h : path ++ '(' :: (inner ++ ')' :: ':' :: rest) = early ++ ')' :: ':' :: late) :
    (path ++ '(' :: inner).length ≤ early.length := by
  rcases List.append_eq_append_iff.mp h with ⟨more, rfl, hmore⟩ | ⟨more, rfl, hmore⟩
  · -- the parenthesis closes behind the path
    cases more with
    | nil => cases hmore
    | cons c more =>
      obtain ⟨rfl, hrest⟩ := List.cons.inj hmore
      rcases List.append_eq_append_iff.mp hrest with ⟨last, rfl, -⟩ | ⟨last, rfl, hlast⟩
      · simp
      · cases last with
        | nil => simp
        | cons d last =>
          obtain ⟨rfl, -⟩ := List.cons.inj hlast
          simp at hinner
  · -- it closes inside the path, so the colon is there too or is the one that opens
    match more, hmore with
    | [], hmore => cases hmore
    | [c], hmore => cases hmore
    | c :: d :: more, hmore =>
      cases hmore
      exact absurd ⟨early, more, by simp⟩ hpath

theorem word_letters (severity : Severity) :
    ':' ∉ (word severity).toList ∧ 'C' ∉ (word severity).toList := by
  cases severity <;> decide

theorem trim_word_append (severity : Severity) :
    trim (word severity).toList = (word severity).toList ∧
      trim ((word severity).toList ++ [' ']) = (word severity).toList := by
  cases severity <;> decide

theorem ofCategory_word (severity : Severity) : Severity.ofCategory (word severity) = severity := by
  cases severity <;> decide

namespace Notice

def category (notice : Notice) : List Char :=
  (word notice.severity).toList ++ notice.digits.elim [] fun _ => [' ']

theorem heading (notice : Notice) : Heading notice.head notice.category notice.digits := by
  have hletter := (word_letters notice.severity).2
  unfold head category
  cases hd : notice.digits with
  | none =>
    refine .plain fun category digits hcoded => hletter ?_
    obtain ⟨blanks, htext, -⟩ := hcoded.text
    rw [Option.elim_none, List.append_nil] at htext
    simp [htext]
  | some digits =>
    obtain ⟨hne, heach⟩ := notice.code digits hd
    exact .coded ⟨hne, heach, .inr (by simp), [], by simp, by simp⟩

theorem literal_showWord (value : UInt32) : Literal (trim (showWord value)) value := by
  have hw := isWord_showWord value
  have hblank : ∀ c ∈ showWord value, isBlank c = false := by
    intro c hc
    cases hb : isBlank c with
    | false => rfl
    | true => rw [← hw.each c hc, isDigit_of_isBlank hb]
  rw [trim_eq_self hblank]
  simpa only [wordOf_showWord] using Literal.plain hw

theorem coordinates (notice : Notice) :
    Coordinates notice.inner notice.line (notice.column.getD 0) := by
  unfold inner
  cases notice.column with
  | none => simpa using Coordinates.line (literal_showWord notice.line)
  | some column => exact .both (literal_showWord notice.line) (literal_showWord column)

theorem mem_inner {notice : Notice} {c : Char} (h : c ∈ notice.inner) :
    isDigit c = true ∨ c = ',' := by
  unfold inner at h
  rcases List.mem_append.mp h with h | h
  · exact .inl ((isWord_showWord _).each c h)
  · cases hc : notice.column with
    | none => simp [hc] at h
    | some column =>
      rw [hc] at h
      rcases List.mem_cons.mp h with rfl | h
      · exact .inr rfl
      · exact .inl ((isWord_showWord _).each c h)

theorem not_mem_inner {notice : Notice} {c : Char} (hd : isDigit c = false) (hc : c ≠ ',') :
    c ∉ notice.inner := by
  intro h
  rcases mem_inner h with h | h
  · rw [h] at hd
    cases hd
  · exact hc h

theorem colon_not_mem_head (notice : Notice) : ':' ∉ notice.head := by
  unfold head
  rw [List.mem_append, not_or]
  refine ⟨(word_letters notice.severity).1, ?_⟩
  cases hd : notice.digits with
  | none => simp
  | some digits =>
    have hcolon : ':' ∉ digits := fun h => absurd ((notice.code digits hd).2 _ h) (by decide)
    simpa using hcolon

theorem trimStart_head (notice : Notice) : trimStart (' ' :: notice.head) = notice.head := by
  have hne : (word notice.severity).toList ≠ [] := by cases notice.severity <;> decide
  obtain ⟨c, rest, hc, hb⟩ := exists_cons_of_trim_eq (trim_word_append notice.severity).1 hne
  unfold head
  rw [hc, List.cons_append]
  have hspace : ∀ b ∈ [' '], isBlank b = true := List.forall_mem_singleton.mpr (by decide)
  exact trimStart_append_cons hspace hb

def layout (notice : Notice) (said : List Char) : Layout where
  path := notice.path
  inner := notice.inner
  line := notice.line
  column := notice.column.getD 0
  head := ' ' :: notice.head
  category := notice.category
  digits := notice.digits
  message := said
  named := notice.pathTrimmed.symm ▸ notice.named
  innermost := not_mem_inner rfl (by decide)
  coordinates := notice.coordinates
  headPlain := by simpa using notice.colon_not_mem_head
  heading := notice.trimStart_head.symm ▸ notice.heading
  first early late h hlen := by
    have hlong := length_le_of_unclosed notice.unclosed (not_mem_inner rfl (by decide)) h
    omega

theorem trim_text (notice : Notice) :
    trim notice.text = (notice.layout (trimEnd (' ' :: notice.message))).text := by
  obtain ⟨c, rest, hpath, hc⟩ := exists_cons_of_trim_eq notice.pathTrimmed notice.named
  have hstart : trimStart notice.text = notice.text := by
    unfold text
    rw [hpath]
    exact trimStart_cons hc _
  have hsplit : notice.text = (notice.path ++ '(' :: (notice.inner ++ ')' :: ':' ::
      (' ' :: notice.head))) ++ ':' :: (' ' :: notice.message) := by
    simp [text]
  rw [trim, hstart, hsplit, trimEnd_append_cons rfl]
  simp [Layout.text, layout]

theorem trim_category (notice : Notice) : trim notice.category = (word notice.severity).toList := by
  obtain ⟨hplain, hcoded⟩ := trim_word_append notice.severity
  unfold category
  cases notice.digits with
  | none => simpa using hplain
  | some digits => exact hcoded

theorem parse_text (notice : Notice) : parse notice.text = some notice.finding := by
  have hmessage : trim (trimEnd (' ' :: notice.message)) = notice.message := by
    rw [trim_trimEnd, trim_cons_blank rfl, notice.messageTrimmed]
  rw [parse, notice.trim_text, Layout.scan_text]
  simp [Layout.finding, layout, finding, hmessage, notice.pathTrimmed, notice.trim_category,
    ofCategory_word]

end Notice

/-- A line is a finding exactly when, trimmed, it is the text of a layout, and the finding is then
that of the layout. What is printed for a notice is read back, whatever its message holds. -/
theorem parse_iff_layout :
    (∀ line finding, parse line = some finding ↔
      ∃ layout : Layout, trim line = layout.text ∧ finding = layout.finding) ∧
    ∀ notice : Notice, parse notice.text = some notice.finding := by
  refine ⟨fun line finding => ⟨exists_layout_of_scan, ?_⟩, Notice.parse_text⟩
  rintro ⟨layout, hline, rfl⟩
  rw [parse, hline, layout.scan_text]

/-- A message that has coordinates of its own. -/
def Notice.sample : Notice where
  path := "C:\\a (x86)\\k.cxir".toList
  line := 10
  column := some 4
  severity := .fatal
  digits := some "1083".toList
  message := "No 'x.h'(3): note: y".toList
  named := by decide +kernel
  pathTrimmed := by decide +kernel
  unclosed := by decide +kernel
  code := by
    rintro _ ⟨⟩
    exact ⟨by decide, List.all_eq_true.mp (by decide)⟩
  messageTrimmed := by decide +kernel

theorem parse_iff_layout_sample :
    Notice.sample.text =
      "C:\\a (x86)\\k.cxir(10,4): fatal error C1083: No 'x.h'(3): note: y".toList ∧
    parse "C:\\a (x86)\\k.cxir(10,4): fatal error C1083: No 'x.h'(3): note: y".toList =
      some ⟨"C:\\a (x86)\\k.cxir", 10, 4, .fatal, some "C1083", "No 'x.h'(3): note: y"⟩ := by
  have htext : Notice.sample.text =
      "C:\\a (x86)\\k.cxir(10,4): fatal error C1083: No 'x.h'(3): note: y".toList := by
    decide +kernel
  have hfinding : Notice.sample.finding =
      ⟨"C:\\a (x86)\\k.cxir", 10, 4, .fatal, some "C1083", "No 'x.h'(3): note: y"⟩ := by
    decide +kernel
  refine ⟨htext, ?_⟩
  rw [← htext, ← hfinding]
  exact parse_iff_layout.2 Notice.sample

end Retrace.Finding.Msvc
