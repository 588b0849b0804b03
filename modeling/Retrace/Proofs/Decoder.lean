import Retrace.Proofs.Grammar

/-!
# The decoder accepts exactly its grammar

`parse_iff_grammar`: a text is read as a line map exactly if it is one by
`Grammar.IsMap`, and then the map is that of its entries, inserted from left to
right. Of the entries for one line the last is found.

The fields of a place come in any order, so the loop over them is followed step by
step: `Takes` says what one field does to those read before it, `Collects` what
all of them do, and `collects_iff` that only the values of each name matter.
-/

namespace Retrace.LineMap

open Json Text Grammar

/-! ## Keys of members -/

theorem nextKey_sound {first : Bool} {text rest : List Char} {next : Option (List Char)}
    (h : nextKey first text = .ok (next, rest)) :
    next = none ∧ (∃ gap : Space, text = gap.text ++ '\x7d' :: rest) ∨
      next = some rest ∧ ∃ gap before : Space,
        text = gap.text ++ (separator first ++ (before.text ++ '"' :: rest)) := by
  obtain ⟨gap, htext⟩ := exists_gap text
  unfold nextKey at h
  split at h
  · next hs =>
    cases h
    exact .inl ⟨rfl, gap, hs ▸ htext⟩
  · next hs =>
    split at h
    · next hfirst =>
      cases h
      refine .inr ⟨rfl, gap, ⟨[], by simp⟩, ?_⟩
      rw [htext, hs, hfirst]
      rfl
    · cases h
  · next left hs =>
    split at h
    · cases h
    next hfirst =>
    obtain ⟨before, hleft⟩ := exists_gap left
    split at h
    · next hquote =>
      cases h
      refine .inr ⟨rfl, gap, before, ?_⟩
      rw [htext, hs, hleft, hquote, separator, if_neg hfirst]
      rfl
    · cases h
  · cases h

theorem nextKey_member (first : Bool) (gap before : Space) (rest : List Char) :
    nextKey first (gap.text ++ (separator first ++ (before.text ++ '"' :: rest))) =
      .ok (some rest, rest) := by
  rw [nextKey, skipSpace_gap]
  cases first with
  | true =>
    rw [show separator true = [] from rfl, List.nil_append, skipSpace_gap,
      skipSpace_cons (by decide)]
    rfl
  | false =>
    rw [show separator false = [','] from rfl, List.singleton_append, skipSpace_cons (by decide)]
    simp only [skipSpace_gap, skipSpace_cons (show isSpace '"' = false by decide)]
    rfl

theorem nextKey_end (first : Bool) (gap : Space) (rest : List Char) :
    nextKey first (gap.text ++ '\x7d' :: rest) = .ok (none, rest) := by
  rw [nextKey, skipSpace_gap, skipSpace_cons (by decide)]
  rfl

/-! ## Fields of a place -/

theorem Field.name_inj {field other : Field} (h : field.name = other.name) : field = other := by
  cases field with
  | line =>
    cases other with
    | line => rfl
    | column => exact absurd h (by decide)
    | span => exact absurd h (by decide)
  | column =>
    cases other with
    | line => exact absurd h (by decide)
    | column => rfl
    | span => exact absurd h (by decide)
  | span =>
    cases other with
    | line => exact absurd h (by decide)
    | column => exact absurd h (by decide)
    | span => rfl

@[simp] theorem Field.get_set (field : Field) (fields : Fields) (value : UInt32) :
    field.get (field.set fields value) = some value := by
  cases field <;> rfl

theorem Field.get_set_of_ne {field other : Field} (h : other ≠ field) (fields : Fields)
    (value : UInt32) : other.get (field.set fields value) = other.get fields := by
  cases field <;> cases other <;> simp [Field.get, Field.set] at h ⊢

theorem Fields.ext_get {fields other : Fields}
    (h : ∀ field : Field, field.get fields = field.get other) : fields = other := by
  obtain ⟨line, column, span⟩ := fields
  obtain ⟨line', column', span'⟩ := other
  obtain rfl : line = line' := h .line
  obtain rfl : column = column' := h .column
  obtain rfl : span = span' := h .span
  rfl

theorem Fields.read_known (fields : Fields) (field : Field) (text : List Char) :
    fields.read field.name text =
      if (field.get fields).isSome then .error .mismatched
      else do
        let (value, rest) ← word (← colon text)
        return (field.set fields value, rest) := by
  cases field <;> rfl

theorem Fields.read_other (fields : Fields) {name : List Char}
    (h : ∀ field : Field, name ≠ field.name) (text : List Char) :
    fields.read name text = do
      let rest ← skipValue (← colon text)
      return (fields, rest) := by
  have hline : name ≠ "line".toList := h .line
  have hcolumn : name ≠ "column".toList := h .column
  have hspan : name ≠ "span".toList := h .span
  rw [Fields.read, if_neg hline, if_neg hcolumn, if_neg hspan]

inductive Takes (fields : Fields) (name value : List Char) : Fields → Prop
  | known (field : Field) (hn : name = field.name) (hfree : field.get fields = none) {word : UInt32}
      (hw : Writes value word) : Takes fields name value (field.set fields word)
  | other (hn : ∀ field : Field, name ≠ field.name) (hv : IsValue value) :
    Takes fields name value fields

theorem Fields.read_sound {fields fields' : Fields} {name text rest : List Char}
    (h : fields.read name text = .ok (fields', rest)) :
    ∃ (after front : Space) (value : List Char),
      text = after.text ++ ':' :: (front.text ++ (value ++ rest)) ∧
        Takes fields name value fields' := by
  by_cases hname : ∃ field : Field, name = field.name
  · obtain ⟨field, rfl⟩ := hname
    rw [Fields.read_known] at h
    split at h
    · cases h
    next hfree =>
    obtain ⟨start, hcolon, h⟩ := bind_ok.mp h
    obtain ⟨⟨value, left⟩, hword, h⟩ := bind_ok.mp h
    cases h
    obtain ⟨after, rfl⟩ := colon_sound hcolon
    obtain ⟨front, numeral, rfl, hw, -⟩ := word_sound hword
    exact ⟨after, front, numeral, rfl, .known field rfl (by simpa using hfree) hw⟩
  · have hother : ∀ field : Field, name ≠ field.name := fun field heq => hname ⟨field, heq⟩
    rw [Fields.read_other fields hother] at h
    obtain ⟨start, hcolon, h⟩ := bind_ok.mp h
    obtain ⟨left, hskip, h⟩ := bind_ok.mp h
    cases h
    obtain ⟨after, rfl⟩ := colon_sound hcolon
    obtain ⟨front, value, rfl, hv⟩ := skipValue_sound hskip
    exact ⟨after, front, value, rfl, .other hother hv⟩

theorem Takes.read {fields fields' : Fields} {name value rest : List Char}
    (h : Takes fields name value fields') (after front : Space) (he : EndsNumber rest) :
    fields.read name (after.text ++ ':' :: (front.text ++ (value ++ rest))) =
      .ok (fields', rest) := by
  cases h with
  | known field hn hfree hw =>
    rw [hn, Fields.read_known, hfree]
    simp only [colon_complete, bind, Except.bind, word_complete front hw he]
    rfl
  | other hn hv =>
    rw [Fields.read_other fields hn]
    simp only [colon_complete, bind, Except.bind, skipValue_complete front hv he]
    rfl

inductive Collects : Fields → List Named → Fields → Prop
  | nil (fields : Fields) : Collects fields [] fields
  | cons {fields fields' final : Fields} {field : Named} {others : List Named}
      (h : Takes fields field.name field.member.value.inner fields')
      (rest : Collects fields' others final) : Collects fields (field :: others) final

theorem fieldsLoop_sound {fuel : Nat} {first : Bool} {fields : Fields} {text rest : List Char}
    {held : Place} (h : fieldsLoop fuel first fields text = .ok (held, rest)) :
    ∃ (gap : Space) (named : List Named) (final : Fields),
      text = gap.text ++ (listed first ((named.map Named.member).map Member.text) ++
        '\x7d' :: rest) ∧ Collects fields named final ∧ final.place = .ok held := by
  induction fuel generalizing first fields text with
  | zero => cases h
  | succ fuel ih =>
    rw [fieldsLoop] at h
    obtain ⟨⟨next, left⟩, hkey, hnext⟩ := bind_ok.mp h
    rcases nextKey_sound hkey with ⟨rfl, gap, rfl⟩ | ⟨rfl, gap, before, rfl⟩
    · obtain ⟨place, hplace, hend⟩ := bind_ok.mp hnext
      cases hend
      exact ⟨gap, [], fields, rfl, .nil fields, hplace⟩
    · obtain ⟨⟨name, behind⟩, hstring, hnext⟩ := bind_ok.mp hnext
      obtain ⟨⟨fields', left⟩, hread, hloop⟩ := bind_ok.mp hnext
      obtain ⟨parts, rfl, hdenotes⟩ := string_sound hstring
      obtain ⟨after, front, value, rfl, htakes⟩ := Fields.read_sound hread
      obtain ⟨back, named, final, rfl, hcollects, hplace⟩ := ih hloop
      let member : Member := ⟨before, stringText parts, after, ⟨front, value, back⟩⟩
      refine ⟨gap, ⟨name, member, parts, rfl, hdenotes rfl⟩ :: named, final, ?_,
        .cons htakes hcollects, hplace⟩
      rw [List.map_cons, listed_members]

theorem Collects.fieldsLoop {fields final : Fields} {named : List Named} {held : Place}
    (h : Collects fields named final) (hp : final.place = .ok held) {fuel : Nat} {first : Bool}
    {gap : Space} {rest : List Char}
    (hf : (gap.text ++ (listed first ((named.map Named.member).map Member.text) ++
      '\x7d' :: rest)).length < fuel) :
    LineMap.fieldsLoop fuel first fields (gap.text ++
      (listed first ((named.map Named.member).map Member.text) ++ '\x7d' :: rest)) =
        .ok (held, rest) := by
  induction h generalizing fuel first gap with
  | nil fields =>
    obtain ⟨fuel, rfl⟩ := Nat.exists_eq_add_of_lt (Nat.zero_lt_of_lt hf)
    rw [Nat.zero_add, LineMap.fieldsLoop]
    simp only [List.map_nil, listed, List.nil_append, nextKey_end, bind, Except.bind, hp]
    rfl
  | @cons fields fields' final field others htakes _ ih =>
    obtain ⟨fuel, rfl⟩ := Nat.exists_eq_add_of_lt (Nat.zero_lt_of_lt hf)
    rw [List.map_cons, listed_members, field.label] at hf ⊢
    rw [Nat.zero_add, LineMap.fieldsLoop]
    generalize hleft : field.member.value.after.text ++ _ = left at hf ⊢
    have hend : EndsNumber left := hleft ▸ endsNumber_gap _ (endsNumber_listed _ (.inr rfl) _)
    simp only [nextKey_member, bind, Except.bind, string_strict field.denotes]
    simp only [htakes.read _ _ hend]
    subst hleft
    refine ih hp ?_
    simp only [List.length_append, List.length_cons] at hf ⊢
    omega

/-! ## Fields in any order -/

/-- The values of one name, read into what is held of it. -/
inductive Fills (held : Option UInt32) : List (List Char) → Option UInt32 → Prop
  | absent : Fills held [] held
  | read {numeral : List Char} {value : UInt32} (hfree : held = none) (hw : Writes numeral value) :
    Fills held [numeral] (some value)

theorem valuesOf_cons (name : List Char) (field : Named) (others : List Named) :
    valuesOf name (field :: others) =
      if field.name = name then field.member.value.inner :: valuesOf name others
      else valuesOf name others := by
  by_cases h : field.name = name <;> simp [valuesOf, h]

/-- Only the values of each name matter to what is read in the end. -/
structure Reads (fields : Fields) (named : List Named) (final : Fields) : Prop where
  known : ∀ field : Field, Fills (field.get fields) (valuesOf field.name named) (field.get final)
  others : ∀ member ∈ named, (∀ field : Field, member.name ≠ field.name) →
    IsValue member.member.value.inner

theorem Collects.reads {fields final : Fields} {named : List Named}
    (h : Collects fields named final) : Reads fields named final := by
  induction h with
  | nil fields => exact ⟨fun field => .absent, by simp⟩
  | @cons fields fields' final member others htakes _ ih =>
    generalize hvalue : member.member.value.inner = value at htakes
    cases htakes with
    | known field hn hfree hw =>
      -- the field is taken now, so no later member may have its name
      refine ⟨fun other => ?_, ?_⟩
      · have hother := ih.known other
        rw [valuesOf_cons]
        split
        · next heq =>
          obtain rfl : other = field := Field.name_inj (heq ▸ hn)
          rw [Field.get_set] at hother
          rw [hfree, hvalue]
          generalize valuesOf other.name others = values, other.get final = word at hother
          cases hother with
          | absent => exact .read rfl hw
          | read hheld => cases hheld
        · next hne =>
          rwa [Field.get_set_of_ne (fun heq : other = field => hne (heq ▸ hn))] at hother
      · intro named hmem hunknown
        rcases List.mem_cons.mp hmem with rfl | hmem
        · exact absurd hn (hunknown field)
        · exact ih.others named hmem hunknown
    | other hn hv =>
      refine ⟨fun field => ?_, ?_⟩
      · rw [valuesOf_cons, if_neg (hn field)]
        exact ih.known field
      · intro named hmem hunknown
        rcases List.mem_cons.mp hmem with rfl | hmem
        · exact hvalue ▸ hv
        · exact ih.others named hmem hunknown

theorem Reads.collects {fields final : Fields} {named : List Named}
    (h : Reads fields named final) : Collects fields named final := by
  induction named generalizing fields with
  | nil =>
    obtain rfl : fields = final := by
      refine Fields.ext_get fun field => ?_
      have hfield := h.known field
      generalize field.get final = word at hfield
      cases hfield
      rfl
    exact .nil fields
  | cons member others ih =>
    have hrest : ∀ named ∈ others, (∀ field : Field, named.name ≠ field.name) →
        IsValue named.member.value.inner :=
      fun named hmem => h.others named (List.mem_cons_of_mem _ hmem)
    by_cases hname : ∃ field : Field, member.name = field.name
    · obtain ⟨field, hname⟩ := hname
      have hfield := h.known field
      rw [valuesOf_cons, if_pos hname] at hfield
      generalize hvalues : valuesOf field.name others = values, hword : field.get final = word
        at hfield
      cases hfield with
      | @read _ word hfree hw =>
        refine .cons (.known field hname hfree hw) (ih ⟨fun other => ?_, hrest⟩)
        by_cases heq : other = field
        · subst heq
          rw [hvalues, hword, Field.get_set]
          exact .absent
        · have hother := h.known other
          rw [valuesOf_cons, if_neg fun hn => heq (Field.name_inj (hn.symm.trans hname))] at hother
          rwa [Field.get_set_of_ne heq]
    · have hunknown : ∀ field : Field, member.name ≠ field.name :=
        fun field heq => hname ⟨field, heq⟩
      refine .cons (.other hunknown (h.others member List.mem_cons_self hunknown))
        (ih ⟨fun field => ?_, hrest⟩)
      have hfield := h.known field
      rwa [valuesOf_cons, if_neg (hunknown field)] at hfield

theorem Fields.place_eq_ok {fields : Fields} {held : Place} :
    fields.place = .ok held ↔
      fields.line = some held.line ∧ fields.column = some held.column ∧
        fields.span.getD 1 = held.span := by
  obtain ⟨line, column, span⟩ := fields
  obtain ⟨line', column', span'⟩ := held
  cases line <;> cases column <;> simp [Fields.place]

theorem fills_none {values : List (List Char)} {value : UInt32} :
    Fills none values (some value) ↔ ∃ numeral, values = [numeral] ∧ Writes numeral value := by
  constructor
  · intro h
    cases h with
    | read _ hw => exact ⟨_, rfl, hw⟩
  · rintro ⟨numeral, rfl, hw⟩
    exact .read rfl hw

theorem fills_span {values : List (List Char)} {value : UInt32} :
    (∃ span : Option UInt32, Fills none values span ∧ span.getD 1 = value) ↔
      values = [] ∧ value = 1 ∨ ∃ numeral, values = [numeral] ∧ Writes numeral value := by
  constructor
  · rintro ⟨span, hfills, rfl⟩
    cases hfills with
    | absent => exact .inl ⟨rfl, rfl⟩
    | read _ hw => exact .inr ⟨_, rfl, hw⟩
  · rintro (⟨rfl, rfl⟩ | ⟨numeral, rfl, hw⟩)
    · exact ⟨none, .absent, rfl⟩
    · exact ⟨some value, .read rfl hw, rfl⟩

theorem unknown_iff {name : List Char} :
    (∀ field : Field, name ≠ field.name) ↔
      name ∉ ["line".toList, "column".toList, "span".toList] := by
  simp only [List.mem_cons, List.not_mem_nil, or_false, not_or]
  constructor
  · intro h
    exact ⟨h .line, h .column, h .span⟩
  · rintro ⟨hline, hcolumn, hspan⟩ field
    cases field with
    | line => exact hline
    | column => exact hcolumn
    | span => exact hspan

theorem Reads.fits {named : List Named} {final : Fields} {held : Place}
    (h : Reads {} named final) (hp : final.place = .ok held) : Fits named held := by
  obtain ⟨hline, hcolumn, hspan⟩ := Fields.place_eq_ok.mp hp
  refine ⟨fills_none.mp ?_, fills_none.mp ?_, fills_span.mp ⟨_, h.known .span, hspan⟩, ?_⟩
  · exact hline ▸ h.known .line
  · exact hcolumn ▸ h.known .column
  · intro field hmem hname
    exact h.others field hmem (unknown_iff.mpr hname)

theorem Grammar.Fits.reads {named : List Named} {held : Place} (h : Fits named held) :
    ∃ final : Fields, Reads {} named final ∧ final.place = .ok held := by
  obtain ⟨span, hfills, hspan⟩ := fills_span.mpr h.span
  refine ⟨⟨some held.line, some held.column, span⟩, ⟨fun field => ?_, ?_⟩, ?_⟩
  · cases field with
    | line => exact fills_none.mpr h.line
    | column => exact fills_none.mpr h.column
    | span => exact hfills
  · intro field hmem hname
    exact h.others field hmem (unknown_iff.mp hname)
  · exact Fields.place_eq_ok.mpr ⟨rfl, rfl, hspan⟩

theorem valuesOf_perm {name : List Char} {named extra named' : List Named}
    (hn : ∀ field ∈ extra, field.name ≠ name) (hp : (named ++ extra).Perm named') :
    (valuesOf name named').Perm (valuesOf name named) := by
  have hextra : extra.filter (·.name = name) = [] :=
    List.filter_eq_nil_iff.mpr fun field hmem => by simpa using hn field hmem
  have hvalues := (hp.filter (·.name = name)).map (·.member.value.inner)
  rw [List.filter_append, hextra, List.append_nil] at hvalues
  exact hvalues.symm

/-- Fields in another order, and fields of other names, leave a place as it is. -/
theorem Grammar.Fits.perm {named extra named' : List Named} {held : Place} (h : Fits named held)
    (hv : ∀ field ∈ extra, field.name ∉ ["line".toList, "column".toList, "span".toList] ∧
      IsValue field.member.value.inner)
    (hp : (named ++ extra).Perm named') : Fits named' held := by
  have hvalues (name : List Char) (hn : name ∈ ["line".toList, "column".toList, "span".toList]) :
      (valuesOf name named').Perm (valuesOf name named) :=
    valuesOf_perm (fun field hmem heq => (hv field hmem).1 (heq ▸ hn)) hp
  refine ⟨?_, ?_, ?_, ?_⟩
  · obtain ⟨numeral, hline, hw⟩ := h.line
    exact ⟨numeral, List.perm_singleton.mp (hline ▸ hvalues _ (by simp)), hw⟩
  · obtain ⟨numeral, hcolumn, hw⟩ := h.column
    exact ⟨numeral, List.perm_singleton.mp (hcolumn ▸ hvalues _ (by simp)), hw⟩
  · rcases h.span with ⟨habsent, hone⟩ | ⟨numeral, hspan, hw⟩
    · exact .inl ⟨List.perm_nil.mp (habsent ▸ hvalues _ (by simp)), hone⟩
    · exact .inr ⟨numeral, List.perm_singleton.mp (hspan ▸ hvalues _ (by simp)), hw⟩
  · intro field hmem hname
    rcases List.mem_append.mp (hp.mem_iff.mpr hmem) with hmem | hmem
    · exact h.others field hmem hname
    · exact (hv field hmem).2

/-! ## Places -/

theorem map_ok {x : Except ε α} {f : α → β} {b : β} :
    x.map f = .ok b ↔ ∃ a, x = .ok a ∧ f a = b := by
  cases x <;> simp [Except.map]

theorem word_skipSpace (text : List Char) : word (skipSpace text) = word text := by
  rw [word, word, skipSpace_skipSpace]

theorem nextWord_sound {first : Bool} {text rest : List Char} {next : Option UInt32}
    (h : nextWord first text = .ok (next, rest)) :
    next = none ∧ (∃ gap : Space, text = gap.text ++ rest) ∧ (∃ left, rest = ']' :: left) ∨
      ∃ value, next = some value ∧ ∃ (gap before : Space) (numeral : List Char),
        text = gap.text ++ (separator first ++ (before.text ++ (numeral ++ rest))) ∧
          Writes numeral value := by
  obtain ⟨gap, htext⟩ := exists_gap text
  unfold nextWord at h
  split at h
  · cases h
  · next left hs =>
    cases h
    exact .inl ⟨rfl, ⟨gap, hs ▸ htext⟩, left, rfl⟩
  · next c left _ hs =>
    split at h
    · next hfirst =>
      obtain ⟨⟨value, rest⟩, hword, heq⟩ := map_ok.mp h
      cases heq
      obtain ⟨before, numeral, hleft, hw, -⟩ := word_sound hword
      refine .inr ⟨value, rfl, gap, before, numeral, ?_, hw⟩
      rw [htext, hs, hleft, hfirst]
      rfl
    next hfirst =>
    split at h
    · next hc =>
      split at h
      · cases h
      · cases h
      · obtain ⟨⟨value, rest⟩, hword, heq⟩ := map_ok.mp h
        cases heq
        rw [word_skipSpace] at hword
        obtain ⟨before, numeral, hleft, hw, -⟩ := word_sound hword
        refine .inr ⟨value, rfl, gap, before, numeral, ?_, hw⟩
        rw [htext, hs, hc, hleft, separator, if_neg hfirst]
        rfl
    · cases h

theorem nextWord_word {numeral rest : List Char} {value : UInt32} (first : Bool)
    (gap before : Space) (hw : Writes numeral value) (he : EndsNumber rest) :
    nextWord first (gap.text ++ (separator first ++ (before.text ++ (numeral ++ rest)))) =
      .ok (some value, rest) := by
  have hword := word_complete ⟨[], by simp⟩ hw he
  obtain ⟨c, left, hc⟩ := List.exists_cons_of_ne_nil hw.1.nonempty
  have hdigit := hw.1.each c (hc ▸ List.mem_cons_self)
  have hspace := isSpace_of_isDigit hdigit
  have hclose : c ≠ ']' := ne_of_isDigit hdigit (by decide)
  rw [List.nil_append, hc, List.cons_append] at hword
  rw [nextWord, skipSpace_gap, hc, List.cons_append]
  cases first with
  | true =>
    rw [show separator true = [] from rfl, List.nil_append, skipSpace_gap, skipSpace_cons hspace]
    simp [hword, Except.map]
  | false =>
    rw [show separator false = [','] from rfl, List.singleton_append, skipSpace_cons (by decide)]
    simp [skipSpace_gap, skipSpace_cons hspace, hclose, hword, Except.map]

theorem nextWord_end (first : Bool) (gap : Space) (rest : List Char) :
    nextWord first (gap.text ++ ']' :: rest) = .ok (none, ']' :: rest) := by
  rw [nextWord, skipSpace_gap, skipSpace_cons (by decide)]
  rfl

theorem arrayEnd_sound {text rest : List Char} (h : arrayEnd text = .ok rest) :
    ∃ gap : Space, text = gap.text ++ ']' :: rest := by
  obtain ⟨gap, htext⟩ := exists_gap text
  unfold arrayEnd at h
  split at h
  · next hs =>
    cases h
    exact ⟨gap, hs ▸ htext⟩
  · cases h

theorem arrayEnd_complete (gap : Space) (rest : List Char) :
    arrayEnd (gap.text ++ ']' :: rest) = .ok rest := by
  rw [arrayEnd, skipSpace_gap, skipSpace_cons (by decide)]
  rfl

theorem arrayPlace_sound {text rest : List Char} {held : Place}
    (h : arrayPlace text = .ok (held, rest)) :
    ∃ inner, '[' :: text = inner ++ rest ∧ IsPlace inner held := by
  obtain ⟨⟨line, left⟩, hline, hrest⟩ := bind_ok.mp h
  rcases nextWord_sound hline with ⟨rfl, -⟩ | ⟨line, rfl, gap, before, first, rfl, hl⟩
  · cases hrest
  obtain ⟨⟨column, left⟩, hcolumn, hbehind⟩ := bind_ok.mp hrest
  rcases nextWord_sound hcolumn with ⟨rfl, -⟩ | ⟨column, rfl, after, before', second, rfl, hc⟩
  · cases hbehind
  obtain ⟨⟨span, left⟩, hspan, hlast⟩ := bind_ok.mp hbehind
  obtain ⟨left', hend, hplace⟩ := bind_ok.mp hlast
  obtain ⟨rfl, rfl⟩ := Prod.mk.inj (Except.ok.inj hplace)
  rcases nextWord_sound hspan with
    ⟨rfl, ⟨after', rfl⟩, left, rfl⟩ | ⟨span, rfl, after', before'', third, rfl, hs⟩
  · rw [show arrayEnd (']' :: left) = .ok left from rfl] at hend
    cases hend
    refine ⟨array gap [⟨before, first, after⟩, ⟨before', second, after'⟩], ?_, .pair gap hl hc⟩
    simp [array_append, listed, separator, Padded.text]
  · obtain ⟨close, rfl⟩ := arrayEnd_sound hend
    refine ⟨array gap [⟨before, first, after⟩, ⟨before', second, after'⟩, ⟨before'', third, close⟩],
      ?_, .triple gap hl hc hs⟩
    simp [array_append, listed, separator, Padded.text]

theorem nextWord_item (first : Bool) (gap : Space) {item : Padded} {value : UInt32}
    (hw : Writes item.inner value) (others : List Padded) (rest : List Char) :
    nextWord first (gap.text ++ (listed first ((item :: others).map Padded.text) ++ ']' :: rest)) =
      .ok (some value,
        item.after.text ++ (listed false (others.map Padded.text) ++ ']' :: rest)) := by
  have hend :=
    endsNumber_gap item.after (endsNumber_listed (others.map Padded.text) (.inl rfl) rest)
  rw [← nextWord_word first gap item.before hw hend]
  simp [listed, Padded.text]

theorem arrayPlace_pair (gap : Space) {first second : Padded} {line column : UInt32}
    (hl : Writes first.inner line) (hc : Writes second.inner column) (rest : List Char) :
    arrayPlace (gap.text ++ (listed true ([first, second].map Padded.text) ++ ']' :: rest)) =
      .ok (⟨line, column, 1⟩, rest) := by
  simp only [arrayPlace, bind, Except.bind, nextWord_item _ _ hl, nextWord_item _ _ hc,
    List.map_nil, listed, List.nil_append, nextWord_end]
  rfl

theorem arrayPlace_triple (gap : Space) {first second third : Padded} {line column span : UInt32}
    (hl : Writes first.inner line) (hc : Writes second.inner column) (hs : Writes third.inner span)
    (rest : List Char) :
    arrayPlace (gap.text ++ (listed true ([first, second, third].map Padded.text) ++ ']' :: rest)) =
      .ok (⟨line, column, span⟩, rest) := by
  simp only [arrayPlace, bind, Except.bind, nextWord_item _ _ hl, nextWord_item _ _ hc,
    nextWord_item _ _ hs, List.map_nil, listed, List.nil_append, arrayEnd_complete]
  rfl

theorem place_sound {text rest : List Char} {held : Place} (h : place text = .ok (held, rest)) :
    ∃ (gap : Space) (inner : List Char),
      text = gap.text ++ (inner ++ rest) ∧ IsPlace inner held := by
  obtain ⟨gap, htext⟩ := exists_gap text
  unfold place at h
  split at h
  · next left hs =>
    obtain ⟨inner, hleft, hp⟩ := arrayPlace_sound h
    exact ⟨gap, inner, by rw [htext, hs, hleft], hp⟩
  · next left hs =>
    obtain ⟨inside, named, final, rfl, hcollects, hplace⟩ := fieldsLoop_sound h
    refine ⟨gap, Grammar.object inside (named.map Named.member), ?_,
      .object inside (hcollects.reads.fits hplace)⟩
    rw [htext, hs, object_append]
  · cases h

theorem place_complete (gap : Space) {inner : List Char} {held : Place} (h : IsPlace inner held)
    (rest : List Char) : place (gap.text ++ (inner ++ rest)) = .ok (held, rest) := by
  rw [place, skipSpace_gap]
  cases h with
  | pair inside hl hc =>
    rw [array_append, skipSpace_cons (by decide)]
    exact arrayPlace_pair inside hl hc rest
  | triple inside hl hc hs =>
    rw [array_append, skipSpace_cons (by decide)]
    exact arrayPlace_triple inside hl hc hs rest
  | object inside hfits =>
    obtain ⟨final, hreads, hplace⟩ := hfits.reads
    rw [object_append, skipSpace_cons (by decide)]
    exact hreads.collects.fieldsLoop hplace (Nat.lt_succ_self _)

/-! ## Entries -/

theorem entriesLoop_sound {fuel : Nat} {first : Bool} {map map' : LineMap} {text rest : List Char}
    (h : entriesLoop fuel first map text = .ok (map', rest)) :
    ∃ (gap : Space) (members : List Member) (entries : List Entry),
      text = gap.text ++ (listed first (members.map Member.text) ++ '\x7d' :: rest) ∧
        List.Forall₂ IsEntry members entries ∧
        map' = entries.foldl (fun map entry => map.insert entry.1 entry.2) map := by
  induction fuel generalizing first map text with
  | zero => cases h
  | succ fuel ih =>
    rw [entriesLoop] at h
    obtain ⟨⟨next, left⟩, hnext, hrest⟩ := bind_ok.mp h
    rcases nextKey_sound hnext with ⟨rfl, gap, rfl⟩ | ⟨rfl, gap, before, rfl⟩
    · cases hrest
      exact ⟨gap, [], [], rfl, .nil, rfl⟩
    · obtain ⟨⟨line, behind⟩, hkey, hvalue⟩ := bind_ok.mp hrest
      obtain ⟨start, hcolon, hplace⟩ := bind_ok.mp hvalue
      obtain ⟨⟨held, left⟩, hheld, hloop⟩ := bind_ok.mp hplace
      obtain ⟨numeral, rfl, hw⟩ := key_sound hkey
      obtain ⟨after, rfl⟩ := colon_sound hcolon
      obtain ⟨front, inner, rfl, hp⟩ := place_sound hheld
      obtain ⟨back, members, entries, rfl, hentries, hmap⟩ := ih hloop
      let member : Member := ⟨before, numeral, after, ⟨front, inner, back⟩⟩
      refine ⟨gap, member :: members, (line, held) :: entries, ?_, .cons ⟨hw, hp⟩ hentries, hmap⟩
      rw [listed_members]

theorem entriesLoop_complete {members : List Member} {entries : List Entry}
    (h : List.Forall₂ IsEntry members entries) {fuel : Nat} {first : Bool} {map : LineMap}
    {gap : Space} {rest : List Char}
    (hf : (gap.text ++ (listed first (members.map Member.text) ++ '\x7d' :: rest)).length < fuel) :
    entriesLoop fuel first map
        (gap.text ++ (listed first (members.map Member.text) ++ '\x7d' :: rest)) =
      .ok (entries.foldl (fun map entry => map.insert entry.1 entry.2) map, rest) := by
  induction h generalizing fuel first map gap with
  | nil =>
    obtain ⟨fuel, rfl⟩ := Nat.exists_eq_add_of_lt (Nat.zero_lt_of_lt hf)
    rw [Nat.zero_add, entriesLoop]
    simp only [List.map_nil, listed, List.nil_append, nextKey_end, bind, Except.bind]
    rfl
  | @cons member entry members entries hentry _ ih =>
    obtain ⟨fuel, rfl⟩ := Nat.exists_eq_add_of_lt (Nat.zero_lt_of_lt hf)
    obtain ⟨⟨hn, hvalue⟩, hp⟩ := hentry
    rw [listed_members] at hf ⊢
    rw [Nat.zero_add, entriesLoop]
    simp only [nextKey_member, bind, Except.bind, key_numeral hn, colon_complete,
      place_complete _ hp, ← hvalue]
    refine ih ?_
    simp only [List.length_append, List.length_cons] at hf ⊢
    omega

theorem ofJson_iff {text : List Char} {map : LineMap} :
    ofJson text = .ok map ↔ ∃ entries, IsMap text entries ∧ map = ofList entries := by
  constructor
  · intro h
    obtain ⟨before, htext⟩ := exists_gap text
    unfold ofJson at h
    split at h
    · next left hs =>
      obtain ⟨⟨map', rest⟩, hloop, hend⟩ := bind_ok.mp h
      obtain ⟨gap, members, entries, rfl, hentries, rfl⟩ := entriesLoop_sound hloop
      obtain ⟨after, hrest⟩ := exists_gap rest
      dsimp only at hend
      split at hend
      · next hempty =>
        cases hend
        refine ⟨entries, ?_, rfl⟩
        rw [List.isEmpty_iff.mp hempty, List.append_nil] at hrest
        rw [htext, hs, hrest, ← object_append]
        exact .intro before gap after hentries
      · cases hend
    · cases h
  · rintro ⟨entries, ⟨before, gap, after, hentries⟩, rfl⟩
    have hend : skipSpace after.text = [] := by
      simpa [skipSpace] using skipSpace_gap after []
    rw [ofJson, skipSpace_gap, object_append, skipSpace_cons (by decide)]
    simp only [entriesLoop_complete hentries (Nat.lt_succ_self _), bind, Except.bind, hend]
    rfl

/-! ## What entries mean -/

theorem find?_insertEntry (line other : UInt32) (held : Place) (entries : List Entry) :
    (insertEntry line held entries).find? (·.1 == other) =
      if line = other then some (line, held) else entries.find? (·.1 == other) := by
  induction entries with
  | nil => by_cases h : line = other <;> simp [insertEntry, h]
  | cons head rest ih =>
    obtain ⟨first, place⟩ := head
    simp only [insertEntry]
    split
    · by_cases h : line = other <;> simp [h]
    · split
      · next heq =>
        subst heq
        by_cases h : line = other <;> simp [h]
      · next hne =>
        by_cases hfirst : first = other
        · simp [hfirst, hfirst ▸ hne]
        · simpa [hfirst] using ih

@[simp] theorem get?_insert (map : LineMap) (line other : UInt32) (held : Place) :
    (map.insert line held).get? other = if line = other then some held else map.get? other := by
  rw [get?, entries_insert, find?_insertEntry]
  split <;> rfl

theorem get?_ofList (entries : List Entry) (line : UInt32) :
    (ofList entries).get? line = (entries.reverse.find? (·.1 = line)).map (·.2) := by
  induction entries using List.reverseRecOn with
  | nil => rfl
  | append_singleton entries entry ih =>
    rw [ofList, List.foldl_append, List.foldl_cons, List.foldl_nil, get?_insert, ← ofList, ih]
    by_cases h : entry.1 = line <;> simp [h]

/-- A text is read exactly if it is a line map, as the map of its entries. The last entry for a
line is found; the order of a place's fields does not matter, nor do fields of other names. -/
theorem parse_iff_grammar (text : String) :
    (∀ map, parse text = .ok map ↔ ∃ entries, IsMap text.toList entries ∧ map = ofList entries) ∧
      (∀ entries line, (ofList entries).get? line =
        (entries.reverse.find? (·.1 = line)).map (·.2)) ∧
      ∀ (named extra named' : List Named) (held : Place), Fits named held →
        (∀ field ∈ extra, field.name ∉ ["line".toList, "column".toList, "span".toList] ∧
          IsValue field.member.value.inner) →
        (named ++ extra).Perm named' → Fits named' held :=
  ⟨fun _ => ofJson_iff, get?_ofList, fun _ _ _ _ h hv hp => h.perm hv hp⟩

end Retrace.LineMap
