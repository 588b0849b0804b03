import Retrace.Proofs.Decoder

/-!
# Line maps that were cut short

`parse_cut`: of a text that is a line map, a part from its start is the same map
if only blanks are missing, and otherwise no line map, and then not for its shape.

Every reader is followed on the whole text and on the part. `Cut` relates the two
outcomes: the reader stopped before the cut and did the same, or it met the cut.
At the cut it complains, but not about a mismatch. Only a number may be taken for
complete there, and then nothing is left to read, which the caller notices.
-/

namespace Retrace.LineMap

open Json Text

/-! ## Two runs of a reader -/

/-- The outcome at a cut. A loop that runs out of fuel there complains of an early end too, so two
runs may have any two amounts. -/
def Stops (Loose : β → Prop) : Except MapError β → Prop
  | .ok b => Loose b
  | .error cause => cause ≠ .mismatched

theorem Stops.truncated {Loose : β → Prop} : Stops Loose (.error .truncated) := nofun

theorem Stops.malformed {Loose : β → Prop} : Stops Loose (.error .malformed) := nofun

/-- The outcomes on a whole text and on its part. -/
def Cut (Same : β → β → Prop) (Loose : β → Prop) (whole part : Except MapError β) : Prop :=
  ∀ b, whole = .ok b → (∃ b', part = .ok b' ∧ Same b b') ∨ Stops Loose part

def Closed : β → Prop := fun _ => False

theorem Closed.elim {b : β} {goal : Prop} (h : Closed b) : goal := False.elim h

inductive AtEnd : α × List Char → Prop
  | intro (a : α) : AtEnd (a, [])

inductive Left (q : List Char) : List Char → List Char → Prop
  | intro (left : List Char) : Left q (left ++ q) left

inductive Read (q : List Char) : α × List Char → α × List Char → Prop
  | intro (a : α) (left : List Char) : Read q (a, left ++ q) (a, left)

namespace Cut

variable {Same : β → β → Prop} {Loose : β → Prop}

theorem same {b b' : β} (h : Same b b') : Cut Same Loose (.ok b) (.ok b') := by
  intro a ha
  cases ha
  exact .inl ⟨b', rfl, h⟩

theorem stops {whole part : Except MapError β} (h : Stops Loose part) : Cut Same Loose whole part :=
  fun _ _ => .inr h

theorem fails (cause : MapError) (part : Except MapError β) : Cut Same Loose (.error cause) part :=
  nofun

theorem loosen {whole part : Except MapError β} (h : Cut Same Closed whole part) :
    Cut Same Loose whole part := by
  intro b hb
  refine (h b hb).imp_right fun hs => ?_
  cases part with
  | ok b' => cases hs
  | error cause => exact hs

theorem bind {γ : Type} {Same' : γ → γ → Prop} {Loose' : γ → Prop} {whole part : Except MapError β}
    {f g : β → Except MapError γ} (h : Cut Same Loose whole part)
    (hs : ∀ b b', Same b b' → Cut Same' Loose' (f b) (g b'))
    (hl : ∀ b, Loose b → Stops Loose' (g b)) : Cut Same' Loose' (whole >>= f) (part >>= g) := by
  intro c hc
  obtain ⟨b, hb, hf⟩ := bind_ok.mp hc
  rcases h b hb with ⟨b', rfl, hsame⟩ | hstop
  · exact hs b b' hsame c hf
  · cases part with
    | ok b' => exact .inr (hl b' hstop)
    | error cause => exact .inr hstop

theorem map {γ : Type} {Same' : γ → γ → Prop} {Loose' : γ → Prop} {whole part : Except MapError β}
    {f : β → γ} (h : Cut Same Loose whole part) (hs : ∀ b b', Same b b' → Same' (f b) (f b'))
    (hl : ∀ b, Loose b → Loose' (f b)) : Cut Same' Loose' (whole.map f) (part.map f) := by
  intro c hc
  obtain ⟨b, hb, rfl⟩ := map_ok.mp hc
  rcases h b hb with ⟨b', rfl, hsame⟩ | hstop
  · exact .inl ⟨f b', rfl, hs b b' hsame⟩
  · cases part with
    | ok b' => exact .inr (hl b' hstop)
    | error cause => exact .inr hstop

end Cut

/-! ## Blanks and digits -/

/-- A run of characters reaches the cut, or both texts go on with the same character. -/
theorem dropWhile_cut (f : Char → Bool) (p q : List Char) :
    p.dropWhile f = [] ∨ ∃ c left, f c = false ∧ p.dropWhile f = c :: left ∧
      (p ++ q).dropWhile f = c :: (left ++ q) := by
  induction p with
  | nil => exact .inl rfl
  | cons c rest ih =>
    cases hc : f c with
    | true => simpa [hc] using ih
    | false => exact .inr ⟨c, rest, hc, by simp [hc], by simp [hc]⟩

/-- Readers that skip blanks first are cut at the end of a text or behind a character. -/
theorem Cut.skipSpace {Same : β → β → Prop} {Loose : β → Prop}
    {read read' : List Char → Except MapError β} (hread : ∀ text, read (skipSpace text) = read text)
    (hread' : ∀ text, read' (skipSpace text) = read' text) {q : List Char}
    (hend : Stops Loose (read' []))
    (hcons : ∀ c left, isSpace c = false →
      Cut Same Loose (read (c :: (left ++ q))) (read' (c :: left)))
    (p : List Char) : Cut Same Loose (read (p ++ q)) (read' p) := by
  rw [← hread (p ++ q), ← hread' p]
  rcases dropWhile_cut isSpace p q with hp | ⟨c, left, hc, hp, hpq⟩
  · rw [Json.skipSpace, Json.skipSpace, hp]
    exact .stops hend
  · rw [Json.skipSpace, Json.skipSpace, hp, hpq]
    exact hcons c left hc

theorem colon_skipSpace (text : List Char) : colon (skipSpace text) = colon text := by
  rw [colon, colon, skipSpace_skipSpace]

theorem colon_cut (p q : List Char) : Cut (Left q) Closed (colon (p ++ q)) (colon p) := by
  refine Cut.skipSpace colon_skipSpace colon_skipSpace .truncated (fun c left hc => ?_) p
  rw [colon, skipSpace_cons hc]
  split
  · next heq =>
    cases heq
    exact .same (.intro left)
  · exact .fails _ _

theorem literal_cut (name p q : List Char) :
    Cut (Left q) Closed (literal name (p ++ q)) (literal name p) := by
  induction name generalizing p with
  | nil =>
    rw [literal, literal]
    exact .same (.intro p)
  | cons n name ih =>
    cases p with
    | nil => exact .stops .truncated
    | cons c rest =>
      rw [List.cons_append, literal, literal]
      split
      · exact ih rest
      · exact .fails _ _

/-! ## Strings -/

theorem hexCode_cut (p q : List Char) : Cut (Read q) Closed (hexCode (p ++ q)) (hexCode p) := by
  by_cases h : ∃ a b c d rest, p = a :: b :: c :: d :: rest
  · obtain ⟨a, b, c, d, rest, rfl⟩ := h
    simp only [List.cons_append, hexCode]
    split
    · exact .same (.intro _ rest)
    · exact .fails _ _
  · refine .stops ?_
    unfold hexCode
    split
    · next a b c d rest => exact absurd ⟨a, b, c, d, rest, rfl⟩ h
    · split
      · exact .truncated
      · exact .malformed

theorem lowHalf_cut (high : Nat) (p q : List Char) :
    Cut (Read q) Closed (lowHalf high (p ++ q)) (lowHalf high p) := by
  by_cases h : ∃ c d rest, p = c :: d :: rest
  · obtain ⟨c, d, rest, rfl⟩ := h
    rw [List.cons_append, List.cons_append, lowHalf.eq_def]
    split
    · next heq =>
      cases heq
      refine (hexCode_cut rest q).bind ?_ (fun _ => Closed.elim)
      rintro _ _ ⟨low, left⟩
      dsimp only
      split
      · exact .same (.intro _ left)
      · exact .fails _ _
    · exact .fails _ _
    · exact .fails _ _
    · exact .fails _ _
  · refine .stops ?_
    unfold lowHalf
    split
    · next rest => exact absurd ⟨_, _, rest, rfl⟩ h
    · exact .truncated
    · exact .truncated
    · exact .malformed

theorem unicodeEscape_cut (strict : Bool) (p q : List Char) :
    Cut (Read q) Closed (unicodeEscape strict (p ++ q)) (unicodeEscape strict p) := by
  refine (hexCode_cut p q).bind ?_ (fun _ => Closed.elim)
  rintro _ _ ⟨code, left⟩
  dsimp only
  split
  · exact .same (.intro _ left)
  split
  · exact .fails _ _
  split
  · exact lowHalf_cut code left q
  · exact .same (.intro _ left)

theorem escape_cut (strict : Bool) (p q : List Char) :
    Cut (Read q) Closed (escape strict (p ++ q)) (escape strict p) := by
  cases p with
  | nil => exact .stops .truncated
  | cons c rest =>
    rw [List.cons_append, escape_cons, escape_cons]
    cases Grammar.escapes.lookup c with
    | some d => exact .same (.intro d rest)
    | none =>
      dsimp only
      split
      · exact unicodeEscape_cut strict rest q
      · exact .fails _ _

theorem stringLoop_nil (strict : Bool) (fuel : Nat) :
    stringLoop strict fuel [] = .error .truncated := by
  cases fuel <;> rfl

theorem Cut.cons {q : List Char} {whole part : Except MapError (List Char × List Char)}
    (h : Cut (Read q) Closed whole part) (d : Char) : Cut (Read q) Closed
      (do let (text, rest) ← whole; return (d :: text, rest))
      (do let (text, rest) ← part; return (d :: text, rest)) := by
  refine h.bind ?_ (fun _ => Closed.elim)
  rintro _ _ ⟨text, left⟩
  exact .same (.intro (d :: text) left)

theorem stringLoop_cut (strict : Bool) (fuel fuel' : Nat) (p q : List Char) :
    Cut (Read q) Closed (stringLoop strict fuel (p ++ q)) (stringLoop strict fuel' p) := by
  induction fuel generalizing fuel' p with
  | zero =>
    cases p with
    | nil =>
      rw [stringLoop_nil strict fuel']
      exact .stops .truncated
    | cons c rest => exact .fails _ _
  | succ fuel ih =>
    cases p with
    | nil =>
      rw [stringLoop_nil strict fuel']
      exact .stops .truncated
    | cons c rest =>
      cases fuel' with
      | zero => exact .stops .truncated
      | succ fuel' =>
        rw [List.cons_append, stringLoop, stringLoop]
        split
        · exact .same (.intro [] rest)
        split
        · refine (escape_cut strict rest q).bind ?_ (fun _ => Closed.elim)
          rintro _ _ ⟨d, left⟩
          exact (ih fuel' left).cons d
        split
        · exact .fails _ _
        · exact (ih fuel' rest).cons c

theorem string_cut (strict : Bool) (p q : List Char) :
    Cut (Read q) Closed (string strict (p ++ q)) (string strict p) :=
  stringLoop_cut strict _ _ p q

/-! ## Numbers -/

theorem Json.EndsNumber.of_append {left q : List Char} (h : EndsNumber (left ++ q)) :
    EndsNumber left := by
  intro c hc
  refine h c ?_
  cases left with
  | nil => cases hc
  | cons d rest => exact hc

theorem Json.IsNumeral.of_append {p more : List Char} (h : IsNumeral (p ++ more)) (hp : p ≠ []) :
    IsNumeral p := by
  refine ⟨⟨hp, fun c hc => h.each c (List.mem_append_left _ hc), ?_⟩, ?_⟩
  · refine Nat.le_trans ?_ h.fits
    rw [digitsValue, digitsValue, List.foldl_append]
    exact le_foldl_digits more _
  · rintro rest rfl
    exact (List.append_eq_nil_iff.mp (h.noLeadingZero (rest ++ more) rfl)).1

theorem unsigned_cut (positive : Bool) (p q : List Char) :
    Cut (Read q) AtEnd (unsigned positive (p ++ q)) (unsigned positive p) := by
  rintro ⟨value, left⟩ h
  obtain ⟨rfl, numeral, htext, ⟨hn, rfl⟩, hend⟩ := unsigned_sound h
  rcases List.append_eq_append_iff.mp htext with ⟨more, rfl, -⟩ | ⟨left', rfl, rfl⟩
  · -- the cut is inside the numeral
    refine .inr ?_
    by_cases hp : p = []
    · rw [hp]
      exact .truncated
    · rw [← List.append_nil p, unsigned_numeral (hn.of_append hp) (by simp [EndsNumber])]
      exact .intro _
  · rw [unsigned_numeral hn hend.of_append]
    exact .inl ⟨_, rfl, .intro _ left'⟩

theorem word_cut (p q : List Char) : Cut (Read q) AtEnd (word (p ++ q)) (word p) := by
  refine Cut.skipSpace word_skipSpace word_skipSpace .truncated (fun c left hc => ?_) p
  rw [word, word, skipSpace_cons hc, skipSpace_cons hc]
  dsimp only
  split
  · exact unsigned_cut false left q
  split
  · exact unsigned_cut true (c :: left) q
  · exact .fails _ _

/-- Digits that are passed over may reach the cut, if what follows them may be missing. -/
theorem digits_cut (read : List Char → Except MapError (List Char)) {q : List Char}
    (hend : Stops (· = []) (read [])) (hread : ∀ p, Cut (Left q) (· = []) (read (p ++ q)) (read p))
    (p : List Char) :
    Cut (Left q) (· = []) (read ((p ++ q).dropWhile isDigit)) (read (p.dropWhile isDigit)) := by
  rcases dropWhile_cut isDigit p q with hp | ⟨c, left, -, hp, hpq⟩
  · rw [hp]
    exact .stops hend
  · rw [hp, hpq]
    exact hread (c :: left)

theorem afterSign_cut (p q : List Char) : p = [] ∨ afterSign (p ++ q) = afterSign p ++ q := by
  cases p with
  | nil => exact .inl rfl
  | cons c rest =>
    refine .inr ?_
    by_cases hplus : c = '+'
    · subst hplus
      rfl
    by_cases hminus : c = '-'
    · subst hminus
      rfl
    have hsign (text : List Char) : afterSign (c :: text) = c :: text := by
      unfold afterSign
      split
      · next heq => exact absurd (List.cons.inj heq).1 hplus
      · next heq => exact absurd (List.cons.inj heq).1 hminus
      · rfl
    rw [List.cons_append, hsign, hsign, List.cons_append]

theorem skipExponent_cut (p q : List Char) :
    Cut (Left q) (· = []) (skipExponent (p ++ q)) (skipExponent p) := by
  rcases afterSign_cut p q with rfl | hsign
  · exact .stops .malformed
  rw [skipExponent_eq, skipExponent_eq, hsign]
  cases afterSign p with
  | nil => exact .stops .malformed
  | cons c rest =>
    rw [List.cons_append, List.head?_cons, List.head?_cons]
    split
    · exact digits_cut .ok rfl (fun p => .same (.intro p)) (c :: rest)
    · exact .fails _ _

theorem skipFraction_cons {c : Char} (he : c ≠ 'e') (hE : c ≠ 'E') (rest : List Char) :
    skipFraction (c :: rest) = .ok (c :: rest) := by
  unfold skipFraction
  split
  · next heq => exact absurd (List.cons.inj heq).1 he
  · next heq => exact absurd (List.cons.inj heq).1 hE
  · rfl

theorem skipFraction_cut (p q : List Char) :
    Cut (Left q) (· = []) (skipFraction (p ++ q)) (skipFraction p) := by
  cases p with
  | nil => exact .stops rfl
  | cons c rest =>
    by_cases he : c = 'e'
    · subst he
      exact skipExponent_cut rest q
    by_cases hE : c = 'E'
    · subst hE
      exact skipExponent_cut rest q
    rw [List.cons_append, skipFraction_cons he hE, skipFraction_cons he hE]
    exact .same (.intro (c :: rest))

theorem skipTail_cons {c : Char} (h : c ≠ '.') (rest : List Char) :
    skipTail (c :: rest) = skipFraction (c :: rest) := by
  unfold skipTail
  split
  · next heq => exact absurd (List.cons.inj heq).1 h
  · rfl

theorem skipTail_cut (p q : List Char) :
    Cut (Left q) (· = []) (skipTail (p ++ q)) (skipTail p) := by
  cases p with
  | nil => exact .stops rfl
  | cons c rest =>
    by_cases h : c = '.'
    · subst h
      rw [List.cons_append, skipTail, skipTail]
      cases rest with
      | nil => exact .stops .malformed
      | cons d rest =>
        rw [List.cons_append, List.head?_cons, List.head?_cons]
        split
        · exact digits_cut skipFraction rfl (fun p => skipFraction_cut p q) (d :: rest)
        · exact .fails _ _
    · rw [List.cons_append, skipTail_cons h, skipTail_cons h]
      exact skipFraction_cut (c :: rest) q

theorem skipNumber_cut (p q : List Char) :
    Cut (Left q) (· = []) (skipNumber (p ++ q)) (skipNumber p) := by
  cases p with
  | nil => exact .stops .malformed
  | cons c rest =>
    rw [List.cons_append, skipNumber, skipNumber]
    split
    · exact .fails _ _
    split
    · cases rest with
      | nil => exact .stops rfl
      | cons d rest =>
        rw [List.cons_append, List.head?_cons, List.head?_cons]
        split
        · exact .fails _ _
        · exact skipTail_cut (d :: rest) q
    · exact digits_cut skipTail rfl (fun p => skipTail_cut p q) rest

theorem skipScalar_cut (c : Char) (p q : List Char) :
    Cut (Left q) (· = []) (skipScalar c (p ++ q)) (skipScalar c p) := by
  unfold skipScalar
  split
  · exact (literal_cut _ p q).loosen
  split
  · exact (literal_cut _ p q).loosen
  split
  · exact (literal_cut _ p q).loosen
  split
  · exact skipNumber_cut p q
  split
  · exact skipNumber_cut (c :: p) q
  split
  · refine (string_cut false p q).map ?_ (fun _ => Closed.elim)
    rintro _ _ ⟨_, left⟩
    exact .intro left
  · exact .fails _ _

/-! ## Skipped values -/

def opened (close : Char) (items : List Char → Except MapError (List Char)) (text : List Char) :
    Except MapError (List Char) :=
  match skipSpace text with
  | [] => items []
  | c :: rest => if c = close then .ok rest else items (c :: rest)

def resumed (close : Char) (items : List Char → Except MapError (List Char)) (text : List Char) :
    Except MapError (List Char) :=
  match skipSpace text with
  | [] => .error .truncated
  | c :: rest =>
    if c = ',' then items rest else if c = close then .ok rest else .error .malformed

theorem skipValueLoop_bracket (fuel : Nat) (rest : List Char) :
    skipValueLoop (fuel + 1) ('[' :: rest) = opened ']' (skipItemsLoop fuel) rest := by
  rw [skipValueLoop, skipSpace_cons (by decide), opened]
  cases hs : skipSpace rest with
  | nil => simp [hs]
  | cons c left => by_cases hc : c = ']' <;> simp [hs, hc]

theorem skipValueLoop_brace (fuel : Nat) (rest : List Char) :
    skipValueLoop (fuel + 1) ('\x7b' :: rest) = opened '\x7d' (skipMembersLoop fuel) rest := by
  rw [skipValueLoop, skipSpace_cons (by decide), opened]
  cases hs : skipSpace rest with
  | nil => simp [hs]
  | cons c left => by_cases hc : c = '\x7d' <;> simp [hs, hc]

theorem skipItemsLoop_succ (fuel : Nat) (text : List Char) :
    skipItemsLoop (fuel + 1) text =
      skipValueLoop fuel text >>= resumed ']' (skipItemsLoop fuel) := by
  rw [skipItemsLoop]
  refine bind_congr fun rest => ?_
  rw [resumed]
  cases skipSpace rest with
  | nil => rfl
  | cons c left =>
    by_cases hcomma : c = ','
    · subst hcomma
      rfl
    by_cases hclose : c = ']'
    · subst hclose
      rfl
    · simp [hcomma, hclose, unexpected, throw, throwThe, MonadExceptOf.throw]

theorem skipMembersLoop_succ (fuel : Nat) (rest : List Char) :
    skipMembersLoop (fuel + 1) ('"' :: rest) =
      (do
        let (_, rest) ← string false rest
        let rest ← colon rest
        let rest ← skipValueLoop fuel rest
        resumed '\x7d' (skipMembersLoop fuel) rest) := by
  rw [skipMembersLoop, skipSpace_cons (by decide)]
  refine bind_congr fun _ => bind_congr fun _ => bind_congr fun rest => ?_
  rw [resumed]
  cases skipSpace rest with
  | nil => rfl
  | cons c left =>
    by_cases hcomma : c = ','
    · subst hcomma
      rfl
    by_cases hclose : c = '\x7d'
    · subst hclose
      rfl
    · simp [hcomma, hclose, unexpected, throw, throwThe, MonadExceptOf.throw]

theorem opened_cut {close : Char} {items items' : List Char → Except MapError (List Char)}
    {q : List Char} (hend : Stops Closed (items' []))
    (h : ∀ p, Cut (Left q) Closed (items (p ++ q)) (items' p)) (p : List Char) :
    Cut (Left q) Closed (opened close items (p ++ q)) (opened close items' p) := by
  have hspace (items : List Char → Except MapError (List Char)) (text : List Char) :
      opened close items (skipSpace text) = opened close items text := by
    rw [opened, opened, skipSpace_skipSpace]
  refine Cut.skipSpace (hspace items) (hspace items') hend (fun c left hc => ?_) p
  rw [opened, opened, skipSpace_cons hc, skipSpace_cons hc]
  dsimp only
  split
  · exact .same (.intro left)
  · exact h (c :: left)

theorem resumed_cut {close : Char} {items items' : List Char → Except MapError (List Char)}
    {q : List Char} (h : ∀ p, Cut (Left q) Closed (items (p ++ q)) (items' p)) (p : List Char) :
    Cut (Left q) Closed (resumed close items (p ++ q)) (resumed close items' p) := by
  have hspace (items : List Char → Except MapError (List Char)) (text : List Char) :
      resumed close items (skipSpace text) = resumed close items text := by
    rw [resumed, resumed, skipSpace_skipSpace]
  refine Cut.skipSpace (hspace items) (hspace items') .truncated (fun c left hc => ?_) p
  rw [resumed, resumed, skipSpace_cons hc, skipSpace_cons hc]
  dsimp only
  split
  · exact h left
  split
  · exact .same (.intro left)
  · exact .fails _ _

def ValuesCut (q : List Char) (fuel : Nat) : Prop :=
  ∀ fuel' p, Cut (Left q) (· = []) (skipValueLoop fuel (p ++ q)) (skipValueLoop fuel' p)

def ItemsCut (q : List Char) (fuel : Nat) : Prop :=
  ∀ fuel' p, Cut (Left q) Closed (skipItemsLoop fuel (p ++ q)) (skipItemsLoop fuel' p)

def MembersCut (q : List Char) (fuel : Nat) : Prop :=
  ∀ fuel' p, Cut (Left q) Closed (skipMembersLoop fuel (p ++ q)) (skipMembersLoop fuel' p)

theorem skipValueLoop_skipSpace (fuel : Nat) (text : List Char) :
    skipValueLoop (fuel + 1) (skipSpace text) = skipValueLoop (fuel + 1) text := by
  rw [skipValueLoop, skipValueLoop, skipSpace_skipSpace]

theorem skipItemsLoop_nil (fuel : Nat) : skipItemsLoop fuel [] = .error .truncated := by
  match fuel with
  | 0 => rfl
  | 1 => rfl
  | fuel + 2 => rfl

theorem skipMembersLoop_nil (fuel : Nat) : skipMembersLoop fuel [] = .error .truncated := by
  cases fuel <;> rfl

theorem valuesCut_succ {q : List Char} {fuel : Nat} (hi : ItemsCut q fuel)
    (hm : MembersCut q fuel) : ValuesCut q (fuel + 1) := by
  rintro (_ | fuel') p
  · exact .stops .truncated
  refine Cut.skipSpace (skipValueLoop_skipSpace fuel) (skipValueLoop_skipSpace fuel') .truncated
    (fun c left hc => ?_) p
  by_cases harray : c = '['
  · subst harray
    rw [skipValueLoop_bracket, skipValueLoop_bracket]
    refine (opened_cut ?_ (hi fuel') left).loosen
    rw [skipItemsLoop_nil]
    exact .truncated
  by_cases hobject : c = '\x7b'
  · subst hobject
    rw [skipValueLoop_brace, skipValueLoop_brace]
    refine (opened_cut ?_ (hm fuel') left).loosen
    rw [skipMembersLoop_nil]
    exact .truncated
  · have hscalar (fuel : Nat) (rest : List Char) :
        skipValueLoop (fuel + 1) (c :: rest) = skipScalar c rest :=
      skipValueLoop_scalar fuel ⟨[], by simp⟩ hc harray hobject rest
    rw [hscalar, hscalar]
    exact skipScalar_cut c left q

theorem itemsCut_succ {q : List Char} {fuel : Nat} (hv : ValuesCut q fuel) (hi : ItemsCut q fuel) :
    ItemsCut q (fuel + 1) := by
  rintro (_ | fuel') p
  · exact .stops .truncated
  rw [skipItemsLoop_succ, skipItemsLoop_succ]
  refine (hv fuel' p).bind ?_ ?_
  · rintro _ left ⟨⟩
    exact resumed_cut (hi fuel') left
  · rintro _ rfl
    exact .truncated

theorem membersCut_succ {q : List Char} {fuel : Nat} (hv : ValuesCut q fuel)
    (hm : MembersCut q fuel) : MembersCut q (fuel + 1) := by
  rintro (_ | fuel') p
  · exact .stops .truncated
  refine Cut.skipSpace (skipMembersLoop_skipSpace (fuel + 1))
    (skipMembersLoop_skipSpace (fuel' + 1)) .truncated
    (fun c left hc => ?_) p
  by_cases hquote : c = '"'
  · subst hquote
    rw [skipMembersLoop_succ, skipMembersLoop_succ]
    refine (string_cut false left q).bind ?_ (fun _ => Closed.elim)
    rintro _ _ ⟨_, left⟩
    refine (colon_cut left q).bind ?_ (fun _ => Closed.elim)
    rintro _ left ⟨⟩
    refine (hv fuel' left).bind ?_ ?_
    · rintro _ left ⟨⟩
      exact resumed_cut (hm fuel') left
    · rintro _ rfl
      exact .truncated
  · rw [skipMembersLoop, skipSpace_cons hc]
    split
    · next heq => exact absurd (List.cons.inj heq).1 hquote
    · exact .fails _ _

/-- The three loops call each other with less fuel, so they are followed together. -/
theorem skipLoops_cut (q : List Char) (fuel : Nat) :
    ValuesCut q fuel ∧ ItemsCut q fuel ∧ MembersCut q fuel := by
  induction fuel with
  | zero => exact ⟨fun _ _ => .fails _ _, fun _ _ => .fails _ _, fun _ _ => .fails _ _⟩
  | succ fuel ih =>
    obtain ⟨hv, hi, hm⟩ := ih
    exact ⟨valuesCut_succ hi hm, itemsCut_succ hv hi, membersCut_succ hv hm⟩

theorem skipValue_cut (p q : List Char) :
    Cut (Left q) (· = []) (skipValue (p ++ q)) (skipValue p) :=
  (skipLoops_cut q _).1 _ p

/-! ## Places -/

inductive Key (q : List Char) :
    Option (List Char) × List Char → Option (List Char) × List Char → Prop
  | close (left : List Char) : Key q (none, left ++ q) (none, left)
  | next (left : List Char) : Key q (some (left ++ q), left ++ q) (some left, left)

theorem nextKey_skipSpace (first : Bool) (text : List Char) :
    nextKey first (skipSpace text) = nextKey first text := by
  rw [nextKey, nextKey, skipSpace_skipSpace]

theorem nextKey_cut (first : Bool) (p q : List Char) :
    Cut (Key q) Closed (nextKey first (p ++ q)) (nextKey first p) := by
  refine Cut.skipSpace (nextKey_skipSpace first) (nextKey_skipSpace first) .truncated
    (fun c left hc => ?_) p
  rw [nextKey, nextKey, skipSpace_cons hc, skipSpace_cons hc]
  split
  · next heq =>
    cases heq
    exact .same (.close left)
  · next heq =>
    cases heq
    cases first with
    | true => exact .same (.next left)
    | false => exact .fails _ _
  · next heq =>
    cases heq
    cases first with
    | true => exact .fails _ _
    | false =>
      rcases dropWhile_cut isSpace left q with hend | ⟨d, left, -, hleft, hboth⟩
      · simp only [skipSpace, hend, Bool.false_eq_true, if_false]
        exact .stops .truncated
      · simp only [skipSpace, hleft, hboth, Bool.false_eq_true, if_false]
        split
        · next heq =>
          cases heq
          exact .same (.next left)
        · exact .fails _ _
  · exact .fails _ _

theorem Fields.read_cut (fields : Fields) (name p q : List Char) :
    Cut (Read q) AtEnd (fields.read name (p ++ q)) (fields.read name p) := by
  by_cases hname : ∃ field : Field, name = field.name
  · obtain ⟨field, rfl⟩ := hname
    rw [Fields.read_known, Fields.read_known]
    split
    · exact .fails _ _
    refine (colon_cut p q).bind ?_ (fun _ => Closed.elim)
    rintro _ left ⟨⟩
    refine (word_cut left q).bind ?_ ?_
    · rintro _ _ ⟨value, left⟩
      exact .same (.intro _ left)
    · rintro _ ⟨value⟩
      exact .intro _
  · have hother : ∀ field : Field, name ≠ field.name := fun field heq => hname ⟨field, heq⟩
    rw [Fields.read_other fields hother, Fields.read_other fields hother]
    refine (colon_cut p q).bind ?_ (fun _ => Closed.elim)
    rintro _ left ⟨⟩
    refine (skipValue_cut left q).bind ?_ ?_
    · rintro _ left ⟨⟩
      exact .same (.intro fields left)
    · rintro _ rfl
      exact .intro fields

theorem fieldsLoop_nil (fuel : Nat) (fields : Fields) :
    fieldsLoop fuel false fields [] = .error .truncated := by
  cases fuel <;> rfl

theorem fieldsLoop_cut (fuel fuel' : Nat) (first : Bool) (fields : Fields) (p q : List Char) :
    Cut (Read q) Closed (fieldsLoop fuel first fields (p ++ q))
      (fieldsLoop fuel' first fields p) := by
  induction fuel generalizing fuel' first fields p with
  | zero => exact .fails _ _
  | succ fuel ih =>
    cases fuel' with
    | zero => exact .stops .truncated
    | succ fuel' =>
      rw [fieldsLoop, fieldsLoop]
      refine (nextKey_cut first p q).bind ?_ (fun _ => Closed.elim)
      rintro _ _ (left | left)
      · dsimp only
        cases fields.place with
        | ok held => exact .same (.intro held left)
        | error cause => exact .fails _ _
      · refine (string_cut true left q).bind ?_ (fun _ => Closed.elim)
        rintro _ _ ⟨name, left⟩
        refine (Fields.read_cut fields name left q).bind ?_ ?_
        · rintro _ _ ⟨fields, left⟩
          exact ih fuel' false fields left
        · -- a number read to the end of the text: the closing brace is missing
          rintro _ ⟨fields⟩
          dsimp only
          rw [fieldsLoop_nil]
          exact .truncated

inductive WordAtEnd : Option UInt32 × List Char → Prop
  | intro (value : UInt32) : WordAtEnd (some value, [])

theorem nextWord_skipSpace (first : Bool) (text : List Char) :
    nextWord first (skipSpace text) = nextWord first text := by
  rw [nextWord, nextWord, skipSpace_skipSpace]

theorem someWord_cut (p q : List Char) : Cut (Read q) WordAtEnd
    ((word (p ++ q)).map fun (value, rest) => (some value, rest))
    ((word p).map fun (value, rest) => (some value, rest)) := by
  refine (word_cut p q).map ?_ ?_
  · rintro _ _ ⟨value, left⟩
    exact .intro (some value) left
  · rintro _ ⟨value⟩
    exact .intro value

def laterWord (text : List Char) : Except MapError (Option UInt32 × List Char) :=
  match skipSpace text with
  | [] => .error .truncated
  | c :: rest =>
    if c = ']' then .error .malformed
    else (word (c :: rest)).map fun (value, rest) => (some value, rest)

theorem nextWord_cons (first : Bool) {c : Char} (hs : isSpace c = false) (hc : c ≠ ']')
    (rest : List Char) :
    nextWord first (c :: rest) =
      if first then (word (c :: rest)).map fun (value, rest) => (some value, rest)
      else if c = ',' then laterWord rest else .error .malformed := by
  rw [nextWord, skipSpace_cons hs, laterWord]
  cases hrest : skipSpace rest with
  | nil => simp [hrest]
  | cons d left => by_cases hd : d = ']' <;> simp [hrest, hd]

theorem laterWord_skipSpace (text : List Char) : laterWord (skipSpace text) = laterWord text := by
  rw [laterWord, laterWord, skipSpace_skipSpace]

theorem laterWord_cut (p q : List Char) :
    Cut (Read q) WordAtEnd (laterWord (p ++ q)) (laterWord p) := by
  refine Cut.skipSpace laterWord_skipSpace laterWord_skipSpace .truncated (fun c left hc => ?_) p
  rw [laterWord, laterWord, skipSpace_cons hc, skipSpace_cons hc]
  dsimp only
  split
  · exact .fails _ _
  · exact someWord_cut (c :: left) q

theorem nextWord_cut (first : Bool) (p q : List Char) :
    Cut (Read q) WordAtEnd (nextWord first (p ++ q)) (nextWord first p) := by
  refine Cut.skipSpace (nextWord_skipSpace first) (nextWord_skipSpace first) .truncated
    (fun c left hc => ?_) p
  by_cases hclose : c = ']'
  · subst hclose
    rw [nextWord, nextWord, skipSpace_cons hc, skipSpace_cons hc]
    exact .same (.intro none (']' :: left))
  rw [nextWord_cons first hc hclose, nextWord_cons first hc hclose]
  split
  · exact someWord_cut (c :: left) q
  split
  · exact laterWord_cut left q
  · exact .fails _ _

theorem arrayEnd_skipSpace (text : List Char) : arrayEnd (skipSpace text) = arrayEnd text := by
  rw [arrayEnd, arrayEnd, skipSpace_skipSpace]

theorem arrayEnd_cut (p q : List Char) : Cut (Left q) Closed (arrayEnd (p ++ q)) (arrayEnd p) := by
  refine Cut.skipSpace arrayEnd_skipSpace arrayEnd_skipSpace .truncated (fun c left hc => ?_) p
  rw [arrayEnd, arrayEnd, skipSpace_cons hc, skipSpace_cons hc]
  split
  · next heq =>
    cases heq
    exact .same (.intro left)
  · exact .fails _ _

theorem arrayPlace_cut (p q : List Char) :
    Cut (Read q) Closed (arrayPlace (p ++ q)) (arrayPlace p) := by
  refine (nextWord_cut true p q).bind ?_ ?_
  · rintro _ _ ⟨_ | line, left⟩
    · exact .fails _ _
    refine (nextWord_cut false left q).bind ?_ ?_
    · rintro _ _ ⟨_ | column, left⟩
      · exact .fails _ _
      refine (nextWord_cut false left q).bind ?_ ?_
      · rintro _ _ ⟨span, left⟩
        refine (arrayEnd_cut left q).bind ?_ (fun _ => Closed.elim)
        rintro _ left ⟨⟩
        exact .same (.intro _ left)
      · rintro _ ⟨span⟩
        exact .truncated
    · rintro _ ⟨column⟩
      exact .truncated
  · rintro _ ⟨line⟩
    exact .truncated

theorem place_skipSpace (text : List Char) : place (skipSpace text) = place text := by
  rw [place, place, skipSpace_skipSpace]

theorem place_cut (p q : List Char) : Cut (Read q) Closed (place (p ++ q)) (place p) := by
  refine Cut.skipSpace place_skipSpace place_skipSpace .truncated (fun c left hc => ?_) p
  rw [place, place, skipSpace_cons hc, skipSpace_cons hc]
  split
  · next heq =>
    cases heq
    exact arrayPlace_cut left q
  · next heq =>
    cases heq
    exact fieldsLoop_cut _ _ true {} left q
  · exact .fails _ _

/-! ## Entries -/

def closeKey : UInt32 × List Char → Except MapError (UInt32 × List Char)
  | (value, '"' :: rest) => .ok (value, rest)
  | _ => .error .malformed

theorem closeKey_eq (value : UInt32) (rest : List Char) :
    (match rest with
      | '"' :: rest => return (value, rest)
      | _ => throw .malformed : Except MapError (UInt32 × List Char)) = closeKey (value, rest) := by
  rw [closeKey.eq_def]
  split
  · rfl
  · next hquote =>
    split
    · next rest heq => exact absurd (Prod.mk.inj heq).2 (hquote rest)
    · rfl

theorem key_minus (rest : List Char) : key ('-' :: rest) = unsigned false rest >>= closeKey :=
  bind_congr fun (value, rest) => closeKey_eq value rest

theorem key_cons {c : Char} (hc : c ≠ '-') (rest : List Char) :
    key (c :: rest) =
      if isDigit c then unsigned true (c :: rest) >>= closeKey else .error .malformed := by
  unfold key
  dsimp only
  split
  · next heq => exact absurd (List.cons.inj heq).1 hc
  · next heq =>
    cases heq
    split
    · exact bind_congr fun (value, rest) => closeKey_eq value rest
    · rfl
  · next heq => cases heq

theorem key_cut (p q : List Char) : Cut (Read q) Closed (key (p ++ q)) (key p) := by
  have hclose (b b' : UInt32 × List Char) (h : Read q b b') :
      Cut (Read q) Closed (closeKey b) (closeKey b') := by
    obtain ⟨value, left⟩ := h
    cases left with
    | nil => exact .stops .malformed
    | cons c left =>
      rw [List.cons_append, closeKey.eq_def]
      split
      · next heq =>
        cases heq
        exact .same (.intro value left)
      · exact .fails _ _
  have hend (b : UInt32 × List Char) (h : AtEnd b) : Stops Closed (closeKey b) := by
    obtain ⟨value⟩ := h
    exact .malformed
  cases p with
  | nil => exact .stops .malformed
  | cons c rest =>
    by_cases hminus : c = '-'
    · subst hminus
      rw [List.cons_append, key_minus, key_minus]
      exact (unsigned_cut false rest q).bind hclose hend
    rw [List.cons_append, key_cons hminus, key_cons hminus]
    split
    · exact (unsigned_cut true (c :: rest) q).bind hclose hend
    · exact .fails _ _

theorem entriesLoop_cut (fuel fuel' : Nat) (first : Bool) (map : LineMap) (p q : List Char) :
    Cut (Read q) Closed (entriesLoop fuel first map (p ++ q)) (entriesLoop fuel' first map p) := by
  induction fuel generalizing fuel' first map p with
  | zero => exact .fails _ _
  | succ fuel ih =>
    cases fuel' with
    | zero => exact .stops .truncated
    | succ fuel' =>
      rw [entriesLoop, entriesLoop]
      refine (nextKey_cut first p q).bind ?_ (fun _ => Closed.elim)
      rintro _ _ (left | left)
      · exact .same (.intro map left)
      · refine (key_cut left q).bind ?_ (fun _ => Closed.elim)
        rintro _ _ ⟨line, left⟩
        refine (colon_cut left q).bind ?_ (fun _ => Closed.elim)
        rintro _ left ⟨⟩
        refine (place_cut left q).bind ?_ (fun _ => Closed.elim)
        rintro _ _ ⟨held, left⟩
        exact ih fuel' false (map.insert line held) left

theorem ofJson_skipSpace (text : List Char) : ofJson (skipSpace text) = ofJson text := by
  rw [ofJson, ofJson, skipSpace_skipSpace]

theorem skipSpace_eq_nil {text : List Char} :
    skipSpace text = [] ↔ ∀ c ∈ text, c ∈ [' ', '\t', '\n', '\r'] := by
  rw [skipSpace, List.dropWhile_eq_nil_iff]
  exact forall₂_congr fun c _ => isSpace_iff c

/-- Only blanks are missing. -/
def Complete (q : List Char) (map map' : LineMap) : Prop :=
  map' = map ∧ ∀ c ∈ q, c ∈ [' ', '\t', '\n', '\r']

theorem ofJson_cut (p q : List Char) : Cut (Complete q) Closed (ofJson (p ++ q)) (ofJson p) := by
  refine Cut.skipSpace ofJson_skipSpace ofJson_skipSpace .truncated (fun c left hc => ?_) p
  rw [ofJson, ofJson, skipSpace_cons hc, skipSpace_cons hc]
  split
  · next heq =>
    cases heq
    refine (entriesLoop_cut _ _ true empty left q).bind ?_ (fun _ => Closed.elim)
    rintro _ _ ⟨map, left⟩
    dsimp only
    split
    · next hblank =>
      rw [List.isEmpty_iff, skipSpace_eq_nil, List.forall_mem_append] at hblank
      rw [skipSpace_eq_nil.mpr hblank.1]
      exact .same ⟨rfl, hblank.2⟩
    · exact .fails _ _
  · exact .fails _ _

/-- A part of a line map is the same map if only blanks are missing. Otherwise it stops early or is
malformed. -/
theorem parse_cut (part rest : String) (map : LineMap) (h : parse (part ++ rest) = .ok map) :
    (parse part = .ok map ∧ ∀ c ∈ rest.toList, c ∈ [' ', '\t', '\n', '\r']) ∨
      parse part = .error .truncated ∨ parse part = .error .malformed := by
  rw [parse, String.toList_append] at h
  rcases ofJson_cut _ _ map h with ⟨map', hpart, rfl, hblank⟩ | hstop
  · exact .inl ⟨hpart, hblank⟩
  · refine .inr ?_
    change Stops Closed (parse part) at hstop
    cases hpart : parse part with
    | ok map' =>
      rw [hpart] at hstop
      cases hstop
    | error cause =>
      rw [hpart] at hstop
      cases cause with
      | truncated => exact .inl rfl
      | malformed => exact .inr rfl
      | mismatched => exact absurd rfl hstop

/-- Cut inside a number, of which the rest is a number too. -/
theorem parse_cut_number :
    parse ("\x7b\"7\": [1, 2" ++ "5]\x7d\n") = .ok (ofList [(7, ⟨1, 25, 1⟩)]) ∧
      ((parse "\x7b\"7\": [1, 2" = .ok (ofList [(7, ⟨1, 25, 1⟩)]) ∧
          ∀ c ∈ "5]\x7d\n".toList, c ∈ [' ', '\t', '\n', '\r']) ∨
        parse "\x7b\"7\": [1, 2" = .error .truncated ∨
        parse "\x7b\"7\": [1, 2" = .error .malformed) :=
  ⟨rfl, parse_cut _ _ _ rfl⟩

end Retrace.LineMap
