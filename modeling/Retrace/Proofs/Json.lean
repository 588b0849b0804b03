import Retrace.LineMap.Decoder
import Retrace.LineMap.Printer
import Retrace.Proofs.Text

/-!
# Line maps are read back from their JSON

Each reader is followed through what the printer put in front of it: a numeral up
to the character that ends it, a place field by field, an entry for every step of
the loop. The entries arrive in ascending order, so inserting them one by one
makes the map that was printed.
-/

namespace Retrace.LineMap

open Json Text

/-! ## Numbers -/

namespace Json

structure IsNumeral (digits : List Char) : Prop extends IsWord digits where
  noLeadingZero : ∀ rest, digits = '0' :: rest → rest = []

theorem isNumeral_showWord (value : UInt32) : IsNumeral (showWord value) :=
  ⟨isWord_showWord value, fun _ => decimal_leading_zero⟩

def EndsNumber (rest : List Char) : Prop :=
  ∀ c ∈ rest.head?, isDigit c = false ∧ c ≠ '.' ∧ c ≠ 'e' ∧ c ≠ 'E'

theorem le_foldl_digits (digits : List Char) (total : Nat) :
    total ≤ digits.foldl (fun total c => 10 * total + digitValue c) total := by
  induction digits generalizing total with
  | nil => exact Nat.le_refl _
  | cons c digits ih =>
    have hnext := ih (10 * total + digitValue c)
    rw [List.foldl_cons]
    omega

/-- Digits are absorbed to the last one if the significand holds them all. -/
theorem absorb_append {digits rest : List Char} {total : Nat}
    (hd : ∀ c ∈ digits, isDigit c = true) (hr : ∀ c ∈ rest.head?, isDigit c = false)
    (hfit : digits.foldl (fun total c => 10 * total + digitValue c) total < UInt64.size) :
    absorb total (digits ++ rest) =
      (digits.foldl (fun total c => 10 * total + digitValue c) total, rest) := by
  induction digits generalizing total with
  | nil =>
    cases rest with
    | nil => rfl
    | cons c rest => simp [absorb, hr c rfl]
  | cons c digits ih =>
    rw [List.forall_mem_cons] at hd
    rw [List.foldl_cons] at hfit
    have hnext : total * 10 + digitValue c = 10 * total + digitValue c := by omega
    have hholds := Nat.lt_of_le_of_lt (le_foldl_digits digits _) hfit
    simp only [List.cons_append, absorb, hd.1, if_true, hnext, hholds, List.foldl_cons]
    exact ih hd.2 hfit

theorem digits_numeral {digits rest : List Char} (hn : IsWord digits) (he : EndsNumber rest) :
    Json.digits true (digits ++ rest) = .ok (wordOf digits, rest) := by
  have hfit := hn.fits
  have habsorb : absorb 0 (digits ++ rest) = (digitsValue digits, rest) :=
    absorb_append hn.each (fun c hc => (he c hc).1) (by
      rw [show UInt64.size = 18446744073709551616 from rfl]
      exact Nat.lt_of_le_of_lt hfit (by omega))
  have hword : fitWord? (digitsValue digits) = some (wordOf digits) := by
    rw [fitWord?, if_pos (show digitsValue digits < 4294967296 by omega)]
    rfl
  unfold Json.digits
  rw [habsorb]
  cases rest with
  | nil => simp [hword]
  | cons c rest =>
    obtain ⟨hdigit, hpoint, he, hE⟩ := he c rfl
    simp [hdigit, hpoint, he, hE, hword]

theorem unsigned_numeral {digits rest : List Char} (hn : IsNumeral digits) (he : EndsNumber rest) :
    unsigned true (digits ++ rest) = .ok (wordOf digits, rest) := by
  rw [← digits_numeral hn.toIsWord he]
  obtain ⟨c, others, rfl⟩ := List.exists_cons_of_ne_nil hn.nonempty
  have hc := hn.each c List.mem_cons_self
  have hzero : (c = '0' && ((others ++ rest).head?.map isDigit).getD false) = false := by
    rw [Bool.and_eq_false_iff, decide_eq_false_iff_not]
    by_cases hz : c = '0'
    · subst hz
      rw [hn.noLeadingZero others rfl]
      cases rest with
      | nil => exact .inr rfl
      | cons d rest => exact .inr (he d rfl).1
    · exact .inl hz
  rw [List.cons_append, unsigned, hc, hzero]
  rfl

theorem ne_of_isDigit {c d : Char} (h : isDigit c = true) (hd : isDigit d = false) : c ≠ d := by
  rintro rfl
  rw [h] at hd
  cases hd

theorem isSpace_of_isDigit {c : Char} (h : isDigit c = true) : isSpace c = false := by
  simp only [isSpace, Bool.or_eq_false_iff, decide_eq_false_iff_not]
  exact ⟨⟨⟨ne_of_isDigit h rfl, ne_of_isDigit h rfl⟩, ne_of_isDigit h rfl⟩, ne_of_isDigit h rfl⟩

theorem word_numeral {digits rest : List Char} (hn : IsNumeral digits) (he : EndsNumber rest) :
    word (digits ++ rest) = .ok (wordOf digits, rest) := by
  rw [← unsigned_numeral hn he]
  obtain ⟨c, others, rfl⟩ := List.exists_cons_of_ne_nil hn.nonempty
  have hc := hn.each c List.mem_cons_self
  have hminus : c ≠ '-' := ne_of_isDigit hc rfl
  simp [word, skipSpace, isSpace_of_isDigit hc, hminus, hc]

end Json

theorem key_numeral {digits : List Char} (hn : IsNumeral digits) (rest : List Char) :
    key (digits ++ '"' :: rest) = .ok (wordOf digits, rest) := by
  have hend : EndsNumber ('"' :: rest) := by simp [EndsNumber, isDigit]
  have hread := unsigned_numeral hn hend
  obtain ⟨c, others, rfl⟩ := List.exists_cons_of_ne_nil hn.nonempty
  have hc := hn.each c List.mem_cons_self
  have hminus : c ≠ '-' := ne_of_isDigit hc rfl
  rw [List.cons_append] at hread ⊢
  unfold key
  split
  · next heq => exact absurd (List.cons.inj heq).1 hminus
  · next heq =>
    obtain ⟨rfl, rfl⟩ := List.cons.inj heq
    simp only [hc, if_true, hread]
    rfl
  · next heq => cases heq

/-! ## Strings and separators -/

def isPlain (c : Char) : Bool := c ≠ '"' && c ≠ '\\' && !decide (c.toNat < 0x20)

theorem stringLoop_plain {name : List Char} (hp : ∀ c ∈ name, isPlain c = true) (strict : Bool)
    (fuel : Nat) (rest : List Char) :
    stringLoop strict (fuel + 1 + name.length) (name ++ '"' :: rest) = .ok (name, rest) := by
  induction name with
  | nil => simp [stringLoop]
  | cons c name ih =>
    rw [List.forall_mem_cons] at hp
    have hc := hp.1
    simp only [isPlain, Bool.and_eq_true, decide_eq_true_eq, Bool.not_eq_true',
      decide_eq_false_iff_not] at hc
    obtain ⟨⟨hquote, hslash⟩, hcontrol⟩ := hc
    rw [List.length_cons, ← Nat.add_assoc, List.cons_append, stringLoop, if_neg hquote,
      if_neg hslash, if_neg hcontrol, ih hp.2]
    rfl

theorem string_plain {name : List Char} (hp : ∀ c ∈ name, isPlain c = true) (strict : Bool)
    (rest : List Char) : string strict (name ++ '"' :: rest) = .ok (name, rest) := by
  have hlength : (name ++ '"' :: rest).length = rest.length + 1 + name.length := by
    simp only [List.length_append, List.length_cons]
    omega
  rw [string, hlength, stringLoop_plain hp]

theorem colon_cons (rest : List Char) : colon (':' :: rest) = .ok rest := rfl

def separator (first : Bool) : List Char := if first then [] else [',']

theorem nextKey_separator (first : Bool) (rest : List Char) :
    nextKey first (separator first ++ '"' :: rest) = .ok (some rest, rest) := by
  cases first <;> rfl

theorem nextKey_close (first : Bool) (rest : List Char) :
    nextKey first ('\x7d' :: rest) = .ok (none, rest) := by
  cases first <;> rfl

/-! ## Places -/

theorem fieldsLoop_field {name text rest : List Char} {fields fields' : Fields}
    (hp : ∀ c ∈ name, isPlain c = true) (hr : fields.read name text = .ok (fields', rest))
    (fuel : Nat) (first : Bool) :
    fieldsLoop (fuel + 1) first fields (separator first ++ '"' :: (name ++ '"' :: text)) =
      fieldsLoop fuel false fields' rest := by
  rw [fieldsLoop, nextKey_separator]
  simp only [bind, Except.bind, string_plain hp, hr]

theorem fieldsLoop_close {fields : Fields} {place : Place} (h : fields.place = .ok place)
    (fuel : Nat) (rest : List Char) :
    fieldsLoop (fuel + 1) false fields ('\x7d' :: rest) = .ok (place, rest) := by
  rw [fieldsLoop, nextKey_close]
  simp only [bind, Except.bind, h]
  rfl

theorem word_showWord (value : UInt32) {rest : List Char} (he : EndsNumber rest) :
    word (showWord value ++ rest) = .ok (value, rest) := by
  rw [word_numeral (isNumeral_showWord value) he, wordOf_showWord]

inductive Field where
  | line
  | column
  | span

namespace Field

def name : Field → List Char
  | .line => "line".toList
  | .column => "column".toList
  | .span => "span".toList

def get (fields : Fields) : Field → Option UInt32
  | .line => fields.line
  | .column => fields.column
  | .span => fields.span

def set (fields : Fields) (value : UInt32) : Field → Fields
  | .line => { fields with line := some value }
  | .column => { fields with column := some value }
  | .span => { fields with span := some value }

theorem isPlain_name (field : Field) : ∀ c ∈ field.name, isPlain c = true := by
  have hname : field.name.all isPlain = true := by cases field <;> decide
  exact List.all_eq_true.mp hname

end Field

theorem Fields.read_field {fields : Fields} {field : Field} (h : field.get fields = none)
    (value : UInt32) {rest : List Char} (he : EndsNumber rest) :
    fields.read field.name (':' :: (showWord value ++ rest)) =
      .ok (field.set fields value, rest) := by
  have hword := word_showWord value he
  cases field with
  | line =>
    simp only [Fields.read, show fields.line = none from h, colon_cons, hword, bind, Except.bind]
    rfl
  | column =>
    simp only [Fields.read, show fields.column = none from h, colon_cons, hword, bind, Except.bind]
    rfl
  | span =>
    simp only [Fields.read, show fields.span = none from h, colon_cons, hword, bind, Except.bind]
    rfl

theorem placeJson_append (held : Place) (rest : List Char) :
    held.toJson ++ rest = '\x7b' :: (separator true ++ '"' :: (Field.line.name ++ '"' ::
      (':' :: (showWord held.line ++ (separator false ++ '"' :: (Field.column.name ++ '"' ::
        (':' :: (showWord held.column ++ (separator false ++ '"' :: (Field.span.name ++ '"' ::
          (':' :: (showWord held.span ++ '\x7d' :: rest)))))))))))) := by
  have hline : "\x7b\"line\":".toList = '\x7b' :: '"' :: (Field.line.name ++ ['"', ':']) := by
    decide
  have hcolumn : ",\"column\":".toList = ',' :: '"' :: (Field.column.name ++ ['"', ':']) := by
    decide
  have hspan : ",\"span\":".toList = ',' :: '"' :: (Field.span.name ++ ['"', ':']) := by decide
  unfold Place.toJson
  rw [hline, hcolumn, hspan]
  generalize showWord held.line = line, showWord held.column = column, showWord held.span = span
  simp only [separator, if_true, Bool.false_eq_true, if_false, List.append_assoc, List.cons_append,
    List.nil_append]

/-- The fields of a place come in order, so each is read into what the ones before it left. -/
theorem place_toJson (held : Place) (rest : List Char) :
    place (held.toJson ++ rest) = .ok (held, rest) := by
  have hcomma (rest : List Char) : EndsNumber (separator false ++ rest) := by
    simp [separator, EndsNumber, isDigit]
  have hclose : EndsNumber ('\x7d' :: rest) := by simp [EndsNumber, isDigit]
  rw [placeJson_append]
  generalize hbody : separator true ++ _ = body
  obtain ⟨fuel, hfuel⟩ : ∃ fuel, body.length + 1 = fuel + 4 := by
    refine Nat.exists_eq_add_of_le' ?_
    rw [← hbody]
    simp only [List.length_append, List.length_cons]
    omega
  calc place ('\x7b' :: body) = fieldsLoop (body.length + 1) true {} body := rfl
    _ = .ok (held, rest) := by
      rw [hfuel, ← hbody,
        fieldsLoop_field Field.line.isPlain_name (Fields.read_field rfl _ (hcomma _)),
        fieldsLoop_field Field.column.isPlain_name (Fields.read_field rfl _ (hcomma _)),
        fieldsLoop_field Field.span.isPlain_name (Fields.read_field rfl _ hclose),
        fieldsLoop_close rfl]
      rfl

/-! ## Entries -/

theorem entriesLoop_entry (fuel : Nat) (first : Bool) (map : LineMap) (entry : Entry)
    (rest : List Char) :
    entriesLoop (fuel + 1) first map (separator first ++ (entryJson entry ++ rest)) =
      entriesLoop fuel false (map.insert entry.1 entry.2) rest := by
  have hentry : entryJson entry ++ rest =
      '"' :: (showWord entry.1 ++ '"' :: (':' :: (entry.2.toJson ++ rest))) := by
    simp [entryJson]
  rw [hentry, entriesLoop, nextKey_separator]
  simp only [bind, Except.bind, key_numeral (isNumeral_showWord entry.1), wordOf_showWord,
    colon_cons, place_toJson]

theorem entriesLoop_close (fuel : Nat) (first : Bool) (map : LineMap) (rest : List Char) :
    entriesLoop (fuel + 1) first map ('\x7d' :: rest) = .ok (map, rest) := by
  rw [entriesLoop, nextKey_close]
  rfl

theorem entriesJson_cons (entry : Entry) (others : List Entry) :
    entriesJson (entry :: others) =
      entryJson entry ++ others.flatMap fun other => ',' :: entryJson other := by
  induction others generalizing entry with
  | nil => simp [entriesJson]
  | cons other others ih =>
    rw [entriesJson, ih other, List.flatMap_cons, List.cons_append]
    exact List.cons_ne_nil _ _

theorem length_le_others (others : List Entry) :
    others.length ≤ (others.flatMap fun other => ',' :: entryJson other).length := by
  induction others with
  | nil => exact Nat.le_refl _
  | cons other others ih =>
    rw [List.flatMap_cons, List.length_append, List.length_cons, List.length_cons]
    omega

theorem entriesLoop_others {others : List Entry} {fuel : Nat} (hf : others.length < fuel)
    (map : LineMap) (rest : List Char) :
    entriesLoop fuel false map
        ((others.flatMap fun other => ',' :: entryJson other) ++ '\x7d' :: rest) =
      .ok (others.foldl (fun map entry => map.insert entry.1 entry.2) map, rest) := by
  induction others generalizing fuel map with
  | nil =>
    obtain ⟨fuel, rfl⟩ := Nat.exists_eq_add_of_le' hf
    exact entriesLoop_close fuel false map rest
  | cons other others ih =>
    obtain ⟨fuel, rfl⟩ := Nat.exists_eq_add_of_le' hf
    have hleft : others.length < fuel + others.length + 1 := by omega
    rw [List.flatMap_cons, List.append_assoc, List.foldl_cons, ← ih hleft]
    exact entriesLoop_entry (fuel + others.length + 1) false map other _

/-- A step of the loop takes a whole entry, so its fuel lasts. -/
theorem entriesLoop_entriesJson (entries : List Entry) (rest : List Char) :
    entriesLoop ((entriesJson entries ++ '\x7d' :: rest).length + 1) true empty
      (entriesJson entries ++ '\x7d' :: rest) = .ok (ofList entries, rest) := by
  cases entries with
  | nil => exact entriesLoop_close _ true empty rest
  | cons entry others =>
    have hlength := length_le_others others
    rw [entriesJson_cons, List.append_assoc]
    refine (entriesLoop_entry _ true empty entry _).trans ?_
    refine entriesLoop_others ?_ _ rest
    simp only [List.length_append, List.length_cons]
    omega

/-! ## Insertion in order -/

theorem insertEntry_behind {line : UInt32} {entries : List Entry} (place : Place)
    (h : ∀ entry ∈ entries, entry.1 < line) :
    insertEntry line place entries = entries ++ [(line, place)] := by
  induction entries with
  | nil => rfl
  | cons entry others ih =>
    obtain ⟨other, held⟩ := entry
    rw [List.forall_mem_cons] at h
    rw [insertEntry, if_neg (UInt32.lt_asymm h.1), if_neg (UInt32.ne_of_lt h.1).symm, ih h.2]
    rfl

theorem entries_foldl_insert {map : LineMap} {entries : List Entry}
    (h : Ascending (map.entries ++ entries)) :
    (entries.foldl (fun map entry => map.insert entry.1 entry.2) map).entries =
      map.entries ++ entries := by
  induction entries generalizing map with
  | nil => simp
  | cons entry others ih =>
    have hbehind : (map.insert entry.1 entry.2).entries = map.entries ++ [entry] :=
      insertEntry_behind entry.2 fun other hmem =>
        (List.pairwise_append.mp h).2.2 other hmem entry List.mem_cons_self
    have happend :
        map.entries ++ entry :: others = (map.insert entry.1 entry.2).entries ++ others := by
      rw [hbehind, List.append_assoc, List.singleton_append]
    rw [List.foldl_cons, ih (happend ▸ h), happend]

theorem ofList_entries (map : LineMap) : ofList map.entries = map := by
  have hfrom : Ascending (empty.entries ++ map.entries) := map.ascending
  exact LineMap.ext (entries_foldl_insert hfrom)

/-! ## Whole maps -/

theorem ofJson_toJson (map : LineMap) : ofJson map.toJson = .ok map := by
  have hloop := entriesLoop_entriesJson map.entries []
  rw [ofList_entries] at hloop
  have hopen : skipSpace map.toJson = '\x7b' :: (entriesJson map.entries ++ ['\x7d']) := rfl
  rw [ofJson, hopen]
  simp only [bind, Except.bind, hloop]
  rfl

def written (entry : Entry) : String :=
  "\"" ++ toString entry.1 ++ "\":\x7b\"line\":" ++ toString entry.2.line ++ ",\"column\":" ++
    toString entry.2.column ++ ",\"span\":" ++ toString entry.2.span ++ "\x7d"

theorem toList_toString (value : UInt32) : (toString value).toList = showWord value :=
  Nat.toList_repr

theorem toList_written (entry : Entry) : (written entry).toList = entryJson entry := by
  have hquote : "\"".toList = ['"'] := by decide
  have hopen : "\":\x7b\"line\":".toList = '"' :: ':' :: "\x7b\"line\":".toList := by decide
  have hclose : "\x7d".toList = ['\x7d'] := by decide
  unfold written entryJson Place.toJson
  rw [String.toList_append, String.toList_append, String.toList_append, String.toList_append,
    String.toList_append, String.toList_append, String.toList_append, String.toList_append,
    toList_toString, toList_toString, toList_toString, toList_toString, hquote, hopen, hclose]
  generalize showWord entry.1 = key, showWord entry.2.line = line,
    showWord entry.2.column = column, showWord entry.2.span = span
  simp only [List.append_assoc, List.cons_append, List.nil_append]

theorem entriesJson_eq_intercalate (entries : List Entry) :
    entriesJson entries = [','].intercalate (entries.map entryJson) := by
  induction entries with
  | nil => rfl
  | cons entry others ih =>
    cases others with
    | nil => simp [entriesJson]
    | cons other others =>
      rw [List.map_cons, List.map_cons, List.intercalate_cons_cons, ← List.map_cons, ← ih,
        entriesJson]
      · simp
      · exact List.cons_ne_nil _ _

theorem render_eq (map : LineMap) :
    map.render = "\x7b" ++ ",".intercalate (map.entries.map written) ++ "\x7d" := by
  have hentries : (map.entries.map written).map String.toList = map.entries.map entryJson := by
    rw [List.map_map]
    exact List.map_congr_left fun entry _ => toList_written entry
  rw [← String.toList_inj, render, String.toList_ofList, String.toList_append, String.toList_append,
    String.toList_intercalate, hentries, toJson, entriesJson_eq_intercalate]
  rfl

/-- Every line map is read back from its JSON text, so the texts of two maps are the same exactly if
the maps are. The text is one object with the entries in ascending order and no blanks. -/
theorem json_round_trip (map : LineMap) :
    parse map.render = .ok map ∧
    (∀ other : LineMap, map = other ↔ map.render = other.render) ∧
    Ascending map.entries ∧
    map.render = "\x7b" ++ ",".intercalate (map.entries.map written) ++ "\x7d" := by
  have hread (map : LineMap) : parse map.render = .ok map := by
    rw [parse, render, String.toList_ofList, ofJson_toJson]
  refine ⟨hread map, fun other => ⟨fun h => h ▸ rfl, fun h => ?_⟩, map.ascending, render_eq map⟩
  have hother := hread other
  rw [← h, hread map] at hother
  exact Except.ok.inj hother

end Retrace.LineMap
