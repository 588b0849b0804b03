import Retrace.Proofs.Files

/-!
# What changes and what a path needs

`Touched` bounds what happened to files by the places where it may have happened,
links and all. A path needs a place if it would not lead to the same once that
place is empty. A file stays what it is under a path that needs none of the places.
-/

namespace Retrace

namespace Files

variable {files files' middle : Files} {places : Location → Prop} {location here : Location}
  {path : String} {links : Nat} {segments : List (List UInt8)} {follow : Bool}

/-! ## Steps of a walk -/

theorem Leads.eq_of_ne_dir (h : Leads files follow links here segments location)
    (hd : files.node? here ≠ some .dir) : segments = [] ∧ location = here := by
  cases h with
  | done => exact ⟨rfl, rfl⟩
  | idle hx | up hx => exact absurd hx hd
  | down he | link he | jump he => exact absurd he.dir hd

theorem Leads.name_cases {segment : List UInt8} {rest : List (List UInt8)}
    (hi : isIdle segment = false) (hu : isUpward segment = false)
    (h : Leads files true links here (segment :: rest) location) :
    (∀ target, files.node? (here ++ [segment]) ≠ some (.link target)) ∧
      Leads files true links (here ++ [segment]) rest location ∨
    ∃ fewer target, links = fewer + 1 ∧ files.node? (here ++ [segment]) = some (.link target) ∧
      Leads files true fewer (if target.head? = some 47 then [] else here)
        (Files.segments target ++ rest) location := by
  cases h with
  | idle _ hi' => simp [hi] at hi'
  | up _ _ hu' => simp [hu] at hu'
  | down _ hl hw => exact .inl ⟨hl, hw⟩
  | link _ _ hf => cases hf
  | jump _ hl _ hw => exact .inr ⟨_, _, rfl, hl, hw⟩

/-! ## Changes in some places -/

/-- Nothing has changed but at some of the places, where a walk stops now. No directory was one. -/
structure Touched (places : Location → Prop) (files files' : Files) : Prop where
  cwd : files'.cwd = files.cwd
  nodes : ∀ location, files'.node? location = files.node? location ∨
    places location ∧ files.node? location ≠ some .dir ∧ Stops (files'.node? location)

namespace Touched

theorem refl : Touched places files files := ⟨rfl, fun _ => .inl rfl⟩

theorem trans (first : Touched places files middle) (second : Touched places middle files') :
    Touched places files files' := by
  refine ⟨second.cwd.trans first.cwd, fun location => ?_⟩
  rcases first.nodes location with hf | ⟨hp, hd, hs⟩ <;>
    rcases second.nodes location with hg | ⟨hp', hd', hs'⟩
  · exact .inl (hg.trans hf)
  · exact .inr ⟨hp', hf ▸ hd', hs'⟩
  · exact .inr ⟨hp, hd, hg ▸ hs⟩
  · exact .inr ⟨hp, hd, hs'⟩

theorem mono {more : Location → Prop} (h : Touched places files files')
    (hp : ∀ location, places location → more location) : Touched more files files' :=
  ⟨h.cwd, fun location => (h.nodes location).imp_right fun ⟨hl, hx⟩ => ⟨hp location hl, hx⟩⟩

theorem of_changedAt {place : Location} (h : ChangedAt place files files') :
    Touched (· = place) files files' := by
  refine ⟨h.cwd, fun location => ?_⟩
  by_cases hp : location = place
  · exact .inr ⟨hp, hp ▸ h.before.1, hp ▸ h.after⟩
  · exact .inl (h.nodes location hp)

theorem of_trimmed (h : Trimmed places files files') : Touched places files files' :=
  ⟨h.cwd, fun location => (h.nodes location).imp_right fun ⟨hp, hx, hd⟩ =>
    ⟨hp, hd, hx ▸ stops_none⟩⟩

variable (h : Touched places files files')
include h

theorem dir_iff : files'.node? here = some .dir ↔ files.node? here = some .dir := by
  rcases h.nodes here with hx | ⟨-, hd, hs⟩
  · rw [hx]
  · exact iff_of_false hs.1 hd

theorem link {target : List UInt8} (hl : files'.node? here = some (.link target)) :
    files.node? here = some (.link target) := by
  rcases h.nodes here with hx | ⟨-, -, hs⟩
  · rwa [← hx]
  · exact absurd hl (hs.2 target)

theorem leads (hw : Leads files' follow links here segments location)
    (hend : follow = true → ∀ target, files.node? location = some (.link target) →
      files'.node? location = some (.link target)) :
    Leads files follow links here segments location := by
  induction hw with
  | done => exact .done
  | idle hd hi _ ih => exact .idle (h.dir_iff.mp hd) hi (ih hend)
  | up hd hi hu _ ih => exact .up (h.dir_iff.mp hd) hi hu (ih hend)
  | @down links here segment rest location he hl hw ih =>
    have he : files.Enters here segment := { he with dir := h.dir_iff.mp he.dir }
    by_cases hx : ∃ target, files.node? (here ++ [segment]) = some (.link target)
    · -- a link that is gone ends the walk
      obtain ⟨target, hx⟩ := hx
      obtain ⟨rfl, rfl⟩ := hw.eq_of_ne_dir fun hd => by simpa [hx] using h.dir_iff.mp hd
      cases follow with
      | false => exact .link he hx rfl
      | true => exact absurd (hend rfl target hx) (hl target)
    · exact .down he (fun target hlink => hx ⟨target, hlink⟩) (ih hend)
  | link he hl hf => exact .link { he with dir := h.dir_iff.mp he.dir } (h.link hl) hf
  | jump he hl hf _ ih =>
    exact .jump { he with dir := h.dir_iff.mp he.dir } (h.link hl) hf (ih hend)

theorem locate (hl : files'.locate path follow = .ok location)
    (hend : follow = true → ∀ target, files.node? location = some (.link target) →
      files'.node? location = some (.link target)) : files.locate path follow = .ok location := by
  rw [locate_eq_ok_iff_leads] at hl ⊢
  rw [h.cwd] at hl
  exact ⟨hl.1, h.leads hl.2 hend⟩

end Touched

theorem Touched.erase (hd : files.node? location ≠ some .dir) :
    Touched (· = location) files (files.erase location) :=
  .of_trimmed (trimmed_erase hd)

theorem Touched.discard (h : Touched places files files')
    (hp : ∀ location, files.locate path false = .ok location → places location) :
    Touched places files (files'.discard path) := by
  refine h.trans ?_
  unfold Files.discard
  split
  · next hr =>
    obtain ⟨place, node, hl, hx, hd, rfl⟩ := remove_cases hr
    exact (Touched.erase (by simp [hx, hd])).mono fun _ heq => heq ▸ hp place (h.locate hl nofun)
  · exact .refl

theorem Touched.sweepAll {paths : List String} (h : Touched places files files')
    (hp : ∀ path ∈ paths, ∀ location, files.locate path false = .ok location → places location) :
    Touched places files (paths.foldl sweep files') := by
  induction paths generalizing files' with
  | nil => exact h
  | cons path rest ih =>
    obtain ⟨hfirst, hrest⟩ := List.forall_mem_cons.mp hp
    refine ih ?_ hrest
    unfold sweep
    split
    · exact h.discard hfirst
    · exact h

theorem write_cases (files : Files) (path : String) (bytes : List UInt8) :
    (files.write path bytes).2 = files ∨ ∃ place, files.locate path true = .ok place ∧
      ChangedAt place files (files.write path bytes).2 := by
  cases hl : files.locate path true with
  | error cause => exact .inl (by simp [write, hl])
  | ok place =>
    have hput (executable : Bool) (hx : files.node? place = none ∧ executable = false ∨
        ∃ old, files.node? place = some (.file old executable)) :
        ChangedAt place files (files.write path bytes).2 := by
      have hs : Stops (files.node? place) := by
        rcases hx with ⟨hx, -⟩ | ⟨old, hx⟩
        · exact hx ▸ stops_none
        · exact hx ▸ stops_file old executable
      rw [write_of_stop hl hx]
      split
      · exact .put hs bytes executable
      · exact .put hs [] executable
    cases hx : files.node? place with
    | none => exact .inr ⟨place, rfl, hput false (.inl ⟨hx, rfl⟩)⟩
    | some node =>
      cases node with
      | file old executable => exact .inr ⟨place, rfl, hput executable (.inr ⟨old, hx⟩)⟩
      | dir | link | pipe => exact .inl (by simp [write, hl, hx])
      | device kind => exact .inl (by cases kind <;> simp [write, hl, hx])

/-! ## What a path needs -/

/-- A path would not lead to the same any more if what another one leads to, or names, were gone. -/
def Meets (files : Files) (other path : String) : Prop :=
  ∃ follow, ∃ place ∈ (files.locate other follow).toOption, files.node? place ≠ some .dir ∧
    (files.erase place).lookup path ≠ files.lookup path

instance (files : Files) (other path : String) : Decidable (files.Meets other path) :=
  inferInstanceAs (Decidable (∃ follow, ∃ place ∈ (files.locate other follow).toOption, _ ∧ _))

/-- A walk that goes the same way whichever of the places is emptied meets none of them. -/
theorem Touched.leads_of_erase (h : Touched places files files')
    (hw : Leads files true links here segments location)
    (hend : ∀ target, files.node? location ≠ some (.link target))
    (hk : ∀ place, places place → files.node? place ≠ some .dir →
      Leads (files.erase place) true links here segments location) :
    Leads files' true links here segments location := by
  induction hw with
  | done => exact .done
  | idle hd hi _ ih =>
    refine .idle (h.dir_iff.mpr hd) hi (ih hend fun place hp hn => ?_)
    cases hk place hp hn with
    | idle _ _ hw => exact hw
    | up _ hi' => simp [hi] at hi'
    | down he | link he | jump he => simpa [hi] using he.named
  | up hd hi hu _ ih =>
    refine .up (h.dir_iff.mpr hd) hi hu (ih hend fun place hp hn => ?_)
    cases hk place hp hn with
    | idle _ hi' => simp [hi] at hi'
    | up _ _ _ hw => exact hw
    | down he | link he | jump he => simpa [hu] using he.forward
  | @down links here segment rest location he hl _ ih =>
    refine .down { he with dir := h.dir_iff.mpr he.dir } (fun target hx => hl target (h.link hx))
      (ih hend fun place hp hn => ?_)
    rcases (hk place hp hn).name_cases he.named he.forward with ⟨-, hw⟩ | ⟨_, target, -, hx, -⟩
    · exact hw
    · exact absurd ((Touched.erase hn).link hx) (hl target)
  | link _ _ hf => cases hf
  | @jump links here segment rest target location he hl hf _ ih =>
    -- the link is none of the places, or the walk would have ended there once it is gone
    have hstay (place : Location) (hp : places place) (hn : files.node? place ≠ some .dir) :
        place ≠ here ++ [segment] ∧ Leads (files.erase place) true links
          (if target.head? = some 47 then [] else here) (Files.segments target ++ rest) location := by
      have herase := node?_erase (ne_nil_of_node? hn) files (here ++ [segment])
      rcases (hk place hp hn).name_cases he.named he.forward with
        ⟨hx, hw⟩ | ⟨fewer, other, hfewer, hx, hw⟩
      · -- the link itself is gone, and the walk with it
        have hgone : (files.erase place).node? (here ++ [segment]) = none := by
          rw [herase] at hx ⊢
          split at hx
          · next heq => rw [if_pos heq]
          · exact absurd hl (hx target)
        obtain ⟨-, rfl⟩ := hw.eq_of_ne_dir (by simp [hgone])
        exact absurd hl (hend target)
      · obtain rfl : target = other := by simpa [hl] using (Touched.erase hn).link hx
        obtain rfl := Nat.succ.inj hfewer
        refine ⟨?_, hw⟩
        rintro rfl
        simp [herase] at hx
    have hx := (h.nodes (here ++ [segment])).resolve_right fun ⟨hp, hd, _⟩ => (hstay _ hp hd).1 rfl
    exact .jump { he with dir := h.dir_iff.mpr he.dir } (hx.trans hl) hf
      (ih hend fun place hp hn => (hstay place hp hn).2)

/-- A file that a path leads to stays what it is if the path needs none of the places. -/
theorem Touched.lookup (h : Touched places files files') {bytes : List UInt8} {executable : Bool}
    (hfile : files.lookup path = .ok (.file bytes executable))
    (hp : ∀ place, places place → files.node? place ≠ some .dir →
      (files.erase place).lookup path = files.lookup path) :
    files'.lookup path = .ok (.file bytes executable) := by
  obtain ⟨location, hl, hx⟩ := lookup_eq_ok_iff_locate.mp hfile
  have hend : ∀ target, files.node? location ≠ some (.link target) := by simp [hx]
  have hkeep (place : Location) (hplace : places place) (hn : files.node? place ≠ some .dir) :
      place ≠ location ∧ (files.erase place).locate path true = .ok location := by
    -- without the place the path still leads to a file, which was there before, so it is the same
    have hsame := hp place hplace hn
    rw [hfile] at hsame
    obtain ⟨other, hother, hnode⟩ := lookup_eq_ok_iff_locate.mp hsame
    rw [node?_erase (ne_nil_of_node? hn)] at hnode
    split at hnode
    · cases hnode
    · next hne =>
      have hback : files.locate path true = .ok other :=
        (Touched.erase hn).locate hother fun _ => by simp [hnode]
      obtain rfl := Except.ok.inj (hl.symm.trans hback)
      exact ⟨Ne.symm hne, hother⟩
  refine lookup_eq_ok_iff_locate.mpr ⟨location, ?_, ?_⟩
  · rw [locate_eq_ok_iff_leads] at hl ⊢
    rw [h.cwd]
    refine ⟨hl.1, h.leads_of_erase hl.2 hend fun place hplace hn => ?_⟩
    exact (locate_eq_ok_iff_leads.mp (hkeep place hplace hn).2).2
  · rcases h.nodes location with hs | ⟨hplace, hn, -⟩
    · rw [hs, hx]
    · exact absurd rfl (hkeep location hplace hn).1

end Files
end Retrace
