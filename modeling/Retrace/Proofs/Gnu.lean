import Mathlib.Data.Option.Basic
import Retrace.Finding.Gnu
import Retrace.Proofs.Text

/-!
# The lines that are findings of the GNU-style drivers

A `Layout` is a line taken apart: the stretches between the colons that matter,
each of the shape it has to have. The reader accepts exactly the lines that are
the text of a layout, a text has one layout at most, and every layout is read
back, whatever its message holds.
-/

namespace Retrace.Finding.Gnu

open Text

/-- A path from the root or from a drive. Only the colon of the drive stands in it. -/
inductive Rooted : List Char → Prop
  | slash (hs : slash = '/' ∨ slash = '\\') (hr : ':' ∉ rest) : Rooted (slash :: rest)
  | drive (hd : drive.isAlpha = true) (hs : slash = '/' ∨ slash = '\\') (hr : ':' ∉ rest) :
    Rooted (drive :: ':' :: slash :: rest)

def word : Severity → String
  | .error => "error"
  | .warning => "warning"
  | .note => "note"
  | .fatal => "fatal error"

@[ext] structure Layout where
  file : List Char
  line : List Char
  column : Option (List Char)
  category : List Char
  severity : Severity
  message : List Char
  rooted : Rooted file
  lineWord : IsWord line
  columnWord : ∀ digits ∈ column, IsWord digits
  categoryPlain : ':' ∉ category
  categoryWord : trim category = (word severity).toList

namespace Layout

def columnText (layout : Layout) : List Char :=
  match layout.column with
  | some digits => digits ++ [':']
  | none => []

def text (layout : Layout) : List Char :=
  layout.file ++ ':' :: (layout.line ++ ':' ::
    (layout.columnText ++ (layout.category ++ ':' :: layout.message)))

def finding (layout : Layout) : Finding where
  file := String.ofList layout.file
  line := wordOf layout.line
  column := layout.column.elim 0 wordOf
  severity := layout.severity
  code := none
  message := String.ofList (trim layout.message)

end Layout

/-! ## Paths -/

theorem rootLength_slash (hs : slash = '/' ∨ slash = '\\') (rest : List Char) :
    rootLength (slash :: rest) = some 0 := by
  rcases hs with rfl | rfl <;> rfl

theorem rootLength_drive (hd : drive.isAlpha = true) (hs : slash = '/' ∨ slash = '\\')
    (rest : List Char) : rootLength (drive :: ':' :: slash :: rest) = some 2 := by
  unfold rootLength
  split
  · next heq => cases heq; simp at hd
  · next heq => cases heq; simp at hd
  · next heq =>
    cases heq
    rcases hs with rfl | rfl <;> simp [hd]
  · next hne => exact absurd rfl (hne _ _ _)

theorem rootLength_cases (h : rootLength text = some root) :
    (∃ slash rest, (slash = '/' ∨ slash = '\\') ∧ text = slash :: rest ∧ root = 0) ∨
      ∃ drive slash rest, drive.isAlpha = true ∧ (slash = '/' ∨ slash = '\\') ∧
        text = drive :: ':' :: slash :: rest ∧ root = 2 := by
  unfold rootLength at h
  split at h
  · exact .inl ⟨_, _, .inl rfl, rfl, by simpa using h.symm⟩
  · exact .inl ⟨_, _, .inr rfl, rfl, by simpa using h.symm⟩
  · split at h
    · next hdrive =>
      simp only [Bool.and_eq_true, Bool.or_eq_true, decide_eq_true_eq] at hdrive
      exact .inr ⟨_, _, _, hdrive.1, hdrive.2, rfl, by simpa using h.symm⟩
    · cases h
  · cases h

theorem path?_eq_some_iff {text file rest : List Char} :
    path? text = some (file, rest) ↔ Rooted file ∧ text = file ++ ':' :: rest := by
  simp only [path?, Option.bind_eq_bind, Option.bind_eq_some_iff, Option.pure_def,
    Option.some.injEq, Prod.exists, cut_eq_some_iff, Prod.mk.injEq]
  constructor
  · rintro ⟨root, hroot, stem, _, ⟨hcut, hstem⟩, rfl, rfl⟩
    rcases rootLength_cases hroot with
      ⟨slash, tail, hs, rfl, rfl⟩ | ⟨drive, slash, tail, hd, hs, rfl, rfl⟩
    · -- the slash itself is no colon, so the cut leaves it in the path
      cases stem with
      | nil => rcases hs with rfl | rfl <;> simp at hcut
      | cons c stem =>
        simp only [List.drop_zero, List.cons_append, List.cons.injEq] at hcut
        obtain ⟨rfl, rfl⟩ := hcut
        exact ⟨.slash hs fun hmem => hstem (List.mem_cons_of_mem _ hmem), rfl⟩
    · cases stem with
      | nil => rcases hs with rfl | rfl <;> simp at hcut
      | cons c stem =>
        simp only [List.drop_succ_cons, List.drop_zero, List.cons_append, List.cons.injEq] at hcut
        obtain ⟨rfl, rfl⟩ := hcut
        exact ⟨.drive hd hs fun hmem => hstem (List.mem_cons_of_mem _ hmem), rfl⟩
  · rintro ⟨hfile, rfl⟩
    cases hfile with
    | slash hs hr =>
      refine ⟨0, rootLength_slash hs _, _, rest, ⟨rfl, ?_⟩, rfl, rfl⟩
      rcases hs with rfl | rfl <;> simpa using hr
    | drive hd hs hr =>
      refine ⟨2, rootLength_drive hd hs _, _ :: _, rest, ⟨rfl, ?_⟩, rfl, rfl⟩
      rcases hs with rfl | rfl <;> simpa using hr

/-! ## Categories -/

theorem category?_eq_some_iff {text : List Char} {severity : Severity} :
    category? text = some severity ↔ trim text = (word severity).toList := by
  have hback : ∀ s : Severity, word s ∈ categories ∧ Severity.ofCategory (word s) = s := by
    intro s
    cases s <;> decide
  simp only [category?]
  constructor
  · intro h
    split at h
    · next hmem =>
      have hword : String.ofList (trim text) = word severity := by
        rw [← Option.some.inj h]
        simp only [categories, List.mem_cons, List.not_mem_nil, or_false] at hmem
        rcases hmem with hw | hw | hw | hw <;> rw [hw] <;> decide
      rw [← hword, String.toList_ofList]
    · cases h
  · intro h
    obtain ⟨hmem, hsev⟩ := hback severity
    simp [h, hmem, hsev]

/-- A category does not begin with a digit, so it is never taken for a column. -/
theorem leadingWord?_category {category : List Char} {severity : Severity}
    (hw : trim category = (word severity).toList) (rest : List Char) :
    leadingWord? (category ++ ':' :: rest) = none := by
  cases category with
  | nil => cases severity <;> simp [word] at hw
  | cons c tail =>
    refine leadingWord?_cons_of_not_digit ?_ _
    cases hb : isBlank c with
    | true => exact isDigit_of_isBlank hb
    | false =>
      have hhead := head?_trim hb tail
      rw [hw] at hhead
      cases severity <;> simp only [word] at hhead <;> cases hhead <;> rfl

/-! ## Whole lines -/

theorem not_isDigit_colon : isDigit ':' = false := rfl

theorem not_isBlank_colon : isBlank ':' = false := rfl

theorem column?_cases {text rest : List Char} {column : UInt32}
    (h : column? text = some (column, rest)) :
    (∃ digits, IsWord digits ∧ text = digits ++ ':' :: rest ∧ column = wordOf digits) ∨
      text = rest ∧ column = 0 := by
  unfold column? at h
  split at h
  · next hword =>
    cases h
    exact .inl ((leadingWord?_eq_some_cons_iff not_isDigit_colon).mp hword)
  · cases h
  · cases h
    exact .inr ⟨rfl, rfl⟩

theorem Layout.column?_text (layout : Layout) :
    column? (layout.columnText ++ (layout.category ++ ':' :: layout.message)) =
      some (layout.column.elim 0 wordOf, layout.category ++ ':' :: layout.message) := by
  unfold column? columnText
  cases hc : layout.column with
  | none => simp [leadingWord?_category layout.categoryWord]
  | some digits =>
    have hword : leadingWord? (digits ++ ':' :: (layout.category ++ ':' :: layout.message)) =
        some (wordOf digits, ':' :: (layout.category ++ ':' :: layout.message)) :=
      (leadingWord?_eq_some_cons_iff not_isDigit_colon).mpr
        ⟨digits, layout.columnWord digits hc, rfl, rfl⟩
    simp [hword]

theorem Layout.read?_text (layout : Layout) : read? layout.text = some layout.finding := by
  have hpath (rest : List Char) :
      path? (layout.file ++ ':' :: rest) = some (layout.file, rest) :=
    path?_eq_some_iff.mpr ⟨layout.rooted, rfl⟩
  have hline (rest : List Char) :
      leadingWord? (layout.line ++ ':' :: rest) = some (wordOf layout.line, ':' :: rest) :=
    (leadingWord?_eq_some_cons_iff not_isDigit_colon).mpr ⟨layout.line, layout.lineWord, rfl, rfl⟩
  have hcut := cut_append layout.categoryPlain layout.message
  have hcategory := category?_eq_some_iff.mpr layout.categoryWord
  simp only [read?, text, hpath, hline, layout.column?_text, hcut, hcategory,
    Option.bind_eq_bind, Option.bind_some, finding]
  rfl

theorem exists_layout_of_read? {text : List Char} {finding : Finding}
    (h : read? text = some finding) :
    ∃ layout : Layout, text = layout.text ∧ finding = layout.finding := by
  simp only [read?, Option.bind_eq_bind, Option.bind_eq_some_iff, Prod.exists] at h
  obtain ⟨file, rest, hpath, line, rest, hline, h⟩ := h
  obtain ⟨hrooted, rfl⟩ := path?_eq_some_iff.mp hpath
  split at h
  · next heq =>
    cases heq
    obtain ⟨digits, hdigits, rfl, rfl⟩ :=
      (leadingWord?_eq_some_cons_iff not_isDigit_colon).mp hline
    simp only [Option.bind_eq_some_iff, Prod.exists, cut_eq_some_iff, category?_eq_some_iff] at h
    obtain ⟨column, rest, hcolumn, category, message, ⟨rfl, hplain⟩, severity, hword, h⟩ := h
    cases h
    rcases column?_cases hcolumn with ⟨digits, hcol, rfl, rfl⟩ | ⟨rfl, rfl⟩
    · exact ⟨⟨file, _, some digits, category, severity, message, hrooted, hdigits,
        by simpa using hcol, hplain, hword⟩, by simp [Layout.text, Layout.columnText], rfl⟩
    · exact ⟨⟨file, _, none, category, severity, message, hrooted, hdigits, by simp, hplain,
        hword⟩, by simp [Layout.text, Layout.columnText], rfl⟩
  · cases h

theorem read?_eq_some_iff {text : List Char} {finding : Finding} :
    read? text = some finding ↔
      ∃ layout : Layout, text = layout.text ∧ finding = layout.finding := by
  constructor
  · exact exists_layout_of_read?
  · rintro ⟨layout, rfl, rfl⟩
    exact layout.read?_text

/-- A column is told from a category by its first character. -/
theorem Layout.columnText_inj {a b : Layout}
    (h : a.columnText ++ (a.category ++ ':' :: a.message) =
      b.columnText ++ (b.category ++ ':' :: b.message)) :
    a.column = b.column ∧ a.category = b.category ∧ a.message = b.message := by
  have ha := a.column?_text
  rw [h, b.column?_text, Option.some.injEq, Prod.mk.injEq] at ha
  obtain ⟨-, hrest⟩ := ha
  have hcut : cut ':' (b.category ++ ':' :: b.message) = some (a.category, a.message) := by
    rw [hrest, cut_append a.categoryPlain]
  rw [cut_append b.categoryPlain, Option.some.injEq, Prod.mk.injEq] at hcut
  refine ⟨?_, hcut.1.symm, hcut.2.symm⟩
  rw [hrest] at h
  have hcolumn := List.append_cancel_right h
  unfold columnText at hcolumn
  cases hca : a.column <;> cases hcb : b.column <;> simp_all

theorem Layout.text_inj {a b : Layout} (h : a.text = b.text) : a = b := by
  unfold text at h
  have hpath := path?_eq_some_iff.mpr ⟨a.rooted, h.symm⟩
  rw [path?_eq_some_iff.mpr ⟨b.rooted, rfl⟩, Option.some.injEq, Prod.mk.injEq] at hpath
  obtain ⟨hfile, hrest⟩ := hpath
  have hline : a.line = b.line := by
    rw [← a.lineWord.takeWhile_append not_isDigit_colon, ← hrest,
      b.lineWord.takeWhile_append not_isDigit_colon]
  rw [hline, List.append_cancel_left_eq, List.cons.injEq] at hrest
  obtain ⟨hcolumn, hcategory, hmessage⟩ := columnText_inj hrest.2.symm
  have hseverity : a.severity = b.severity := by
    have ha := category?_eq_some_iff.mpr a.categoryWord
    rw [hcategory, category?_eq_some_iff.mpr b.categoryWord] at ha
    exact (Option.some.inj ha).symm
  exact Layout.ext hfile.symm hline hcolumn hcategory hseverity hmessage

theorem Layout.trimEnd_text (layout : Layout) :
    trimEnd layout.text = { layout with message := trimEnd layout.message : Layout }.text := by
  have happend : layout.text = (layout.file ++ ':' :: (layout.line ++ ':' ::
      (layout.columnText ++ layout.category))) ++ ':' :: layout.message := by
    simp [text]
  rw [happend, trimEnd_append_cons not_isBlank_colon]
  simp [text, columnText]

theorem Layout.parse_text (layout : Layout) : parse layout.text = some layout.finding := by
  rw [parse, layout.trimEnd_text, Layout.read?_text]
  simp [finding, trim_trimEnd]

/-! ## Printing -/

def print (withColumn : Bool) (finding : Finding) : List Char :=
  finding.file.toList ++ ':' :: (showWord finding.line ++ ':' ::
    ((if withColumn then showWord finding.column ++ [':'] else []) ++
      (' ' :: (word finding.severity).toList ++ ':' :: (' ' :: finding.message.toList))))

/-- The findings that a line can carry. -/
structure Printable (finding : Finding) : Prop where
  rooted : Rooted finding.file.toList
  code : finding.code = none
  trimmed : trim finding.message.toList = finding.message.toList

theorem trim_word (severity : Severity) :
    ':' ∉ ' ' :: (word severity).toList ∧
      trim (' ' :: (word severity).toList) = (word severity).toList := by
  cases severity <;> decide

def Printable.layout {finding : Finding} (hp : Printable finding) (withColumn : Bool) : Layout where
  file := finding.file.toList
  line := showWord finding.line
  column := if withColumn then some (showWord finding.column) else none
  category := ' ' :: (word finding.severity).toList
  severity := finding.severity
  message := ' ' :: finding.message.toList
  rooted := hp.rooted
  lineWord := isWord_showWord _
  columnWord := by
    cases withColumn
    · simp
    · simpa using isWord_showWord finding.column
  categoryPlain := (trim_word _).1
  categoryWord := (trim_word _).2

theorem Printable.parse_print {finding : Finding} (hp : Printable finding) {withColumn : Bool}
    (hc : withColumn = false → finding.column = 0) :
    parse (print withColumn finding) = some finding := by
  have htext : print withColumn finding = (hp.layout withColumn).text := by
    cases withColumn <;> simp [print, Layout.text, Layout.columnText, layout]
  have hmessage : trim (' ' :: finding.message.toList) = finding.message.toList := by
    rw [trim_cons_blank rfl, hp.trimmed]
  have hfinding : (hp.layout withColumn).finding = finding := by
    obtain ⟨file, line, column, severity, code, message⟩ := finding
    obtain rfl := hp.code
    cases withColumn with
    | false =>
      obtain rfl := hc rfl
      simp [Layout.finding, layout, wordOf_showWord, hmessage]
    | true => simp [Layout.finding, layout, wordOf_showWord, hmessage]
  rw [htext, Layout.parse_text, hfinding]

/-- A line is a finding exactly when, without the blanks at its end, it is the text of a layout,
and the finding is then that of the layout. No other layout has that text. Every layout is read
back from its text, and every finding a line can carry from what is printed for it. -/
theorem parse_exact :
    (∀ line finding, parse line = some finding ↔
      ∃ layout : Layout, trimEnd line = layout.text ∧ finding = layout.finding) ∧
    (∀ a b : Layout, a.text = b.text → a = b) ∧
    (∀ layout : Layout, parse layout.text = some layout.finding) ∧
    ∀ finding withColumn, Printable finding → (withColumn = false → finding.column = 0) →
      parse (print withColumn finding) = some finding :=
  ⟨fun _ _ => read?_eq_some_iff, fun _ _ => Layout.text_inj, Layout.parse_text,
    fun _ _ hp hc => hp.parse_print hc⟩

theorem parse_exact_colons :
    let finding : Finding := ⟨"C:/a b/x.cxir", 12, 3, .fatal, none, "error: 3:4: note"⟩
    Printable finding ∧ parse (print true finding) = some finding := by
  intro finding
  have hfile : finding.file.toList = 'C' :: ':' :: '/' :: "a b/x.cxir".toList := by decide
  have hp : Printable finding :=
    ⟨hfile ▸ .drive (by decide) (by decide) (by decide), rfl, by decide⟩
  exact ⟨hp, parse_exact.2.2.2 finding true hp (fun h => nomatch h)⟩

end Retrace.Finding.Gnu
