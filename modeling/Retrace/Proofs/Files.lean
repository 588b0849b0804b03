import Retrace.Files.Tree
import Retrace.Proofs.Text

/-!
# Where paths lead

`Leads` is what a walk through directories and links can do, step by step. A change
in one place from which no walk goes on moves no path, so making, writing and
removing a file changes what is at that place and nothing else. Where there are no
links at all, a path names the same location for as long as the current directory
stays, and files of different names are in different places.
-/

namespace Retrace

theorem Path.segments_ne_nil (text : List Char) : segments text ≠ [] := by
  fun_cases segments text <;> simp

namespace Files

/-! ## Paths that are text -/

theorem segments_append {bytes rest first : List UInt8} {others : List (List UInt8)}
    (h : 47 ∉ bytes) (hr : segments rest = first :: others) :
    segments (bytes ++ rest) = (bytes ++ first) :: others := by
  induction bytes with
  | nil => exact hr
  | cons byte bytes ih =>
    rw [List.mem_cons, not_or] at h
    rw [List.cons_append, segments, if_neg (Ne.symm h.1), ih h.2]
    rfl

/-- The bytes of a slash stand in no other character, so text and bytes are cut alike. -/
theorem segments_encode (text : List Char) :
    segments (Text.Utf8.encode text) = (Path.segments text).map Text.Utf8.encode := by
  induction text with
  | nil => rfl
  | cons c rest ih =>
    rw [Text.Utf8.encode_cons, Path.segments]
    split
    · next hc =>
      subst hc
      have hbyte : Text.Utf8.encodeChar '/' = [47] := by decide
      rw [hbyte, List.singleton_append, segments, if_pos rfl, ih]
      rfl
    · next hc =>
      have hslash : 47 ∉ Text.Utf8.encodeChar c := mt Text.Utf8.slash_mem_encodeChar_iff.mp hc
      cases hs : Path.segments rest with
      | nil => exact absurd hs (Path.segments_ne_nil rest)
      | cons first others =>
        rw [hs] at ih
        exact segments_append hslash ih

/-! ## Walks -/

structure Enters (files : Files) (here : Location) (segment : List UInt8) : Prop where
  dir : files.node? here = some .dir
  named : isIdle segment = false
  forward : isUpward segment = false
  short : segment.length ≤ nameLimit

/-- The ways a walk can go, through at most so many links. -/
inductive Leads (files : Files) (follow : Bool) :
    Nat → Location → List (List UInt8) → Location → Prop
  | done {links here} : Leads files follow links here [] here
  | idle {links here segment rest location} (hd : files.node? here = some .dir)
      (hi : isIdle segment = true) (h : Leads files follow links here rest location) :
    Leads files follow links here (segment :: rest) location
  | up {links here segment rest location} (hd : files.node? here = some .dir)
      (hi : isIdle segment = false) (hu : isUpward segment = true)
      (h : Leads files follow links here.dropLast rest location) :
    Leads files follow links here (segment :: rest) location
  | down {links here segment rest location} (he : files.Enters here segment)
      (hl : ∀ target, files.node? (here ++ [segment]) ≠ some (.link target))
      (h : Leads files follow links (here ++ [segment]) rest location) :
    Leads files follow links here (segment :: rest) location
  | link {links here segment target} (he : files.Enters here segment)
      (hl : files.node? (here ++ [segment]) = some (.link target)) (hf : follow = false) :
    Leads files follow links here [segment] (here ++ [segment])
  | jump {links here segment rest target location} (he : files.Enters here segment)
      (hl : files.node? (here ++ [segment]) = some (.link target))
      (hf : rest = [] → follow = true)
      (h : Leads files follow links (if target.head? = some 47 then [] else here)
        (segments target ++ rest) location) :
    Leads files follow (links + 1) here (segment :: rest) location

variable {files files' : Files} {location place here : Location} {path : String}
  {segments : List (List UInt8)} {links : Nat}

theorem node?_erase (h : location ≠ []) (files : Files) (other : Location) :
    (files.erase location).node? other = if other = location then none else files.node? other := by
  by_cases ho : other = location
  · subst ho
    simp [node?, erase, h]
  · by_cases hn : other = []
    · simp [node?, hn, Ne.symm h]
    · simp only [node?, erase, hn, ho, if_false, List.find?_filter]
      congr 2
      funext a
      by_cases ha : a.1 = other <;> simp [ha, ho]

theorem ne_nil_of_node? (h : files.node? location ≠ some .dir) : location ≠ [] := by
  rintro rfl
  exact h (by simp [node?])

theorem walk_eq_ok_of_leads {follow : Bool} (h : Leads files follow links here segments location) :
    files.walk follow links here segments = .ok location := by
  have hstep (links : Nat) : ∃ through, ∀ here segments,
      files.walk follow links here segments = files.walkWith follow through here segments := by
    cases links <;> exact ⟨_, fun _ _ => rfl⟩
  induction h with
  | @jump links here segment rest target location he hl hf _ ih =>
    -- only here does the walk go on from what it ends with
    rw [walk]
    grind [walkWith, Enters]
  | @done links | @idle links | @up links | @down links | @link links =>
    obtain ⟨through, hw⟩ := hstep links
    grind [walkWith, Enters]

theorem leads_of_walkWith {follow : Bool}
    {through : Location → List (List UInt8) → Except OsError Location}
    (ht : ∀ here segments, through here segments = .ok location →
      ∃ fewer, links = fewer + 1 ∧ Leads files follow fewer here segments location)
    (h : files.walkWith follow through here segments = .ok location) :
    Leads files follow links here segments location := by
  induction segments generalizing here with
  | nil =>
    cases h
    exact .done
  | cons segment rest ih => grind [walkWith, Leads, Enters]

theorem leads_iff {follow : Bool} : Leads files follow links here segments location ↔
    files.walk follow links here segments = .ok location := by
  refine ⟨walk_eq_ok_of_leads, fun h => ?_⟩
  induction links generalizing here segments with
  | zero =>
    refine leads_of_walkWith ?_ h
    exact fun _ _ hnone => nomatch hnone
  | succ links ih =>
    refine leads_of_walkWith ?_ h
    exact fun _ _ hnext => ⟨links, rfl, ih hnext⟩

theorem Leads.to_end (h : Leads files false links here segments location)
    (hl : ∀ target, files.node? location ≠ some (.link target)) :
    Leads files true links here segments location := by
  induction h with
  | done => exact .done
  | idle hd hi _ ih => exact .idle hd hi (ih hl)
  | up hd hi hu _ ih => exact .up hd hi hu (ih hl)
  | down he hn _ ih => exact .down he hn (ih hl)
  | link _ hx _ => exact absurd hx (hl _)
  | jump he hx _ _ ih => exact .jump he hx (fun _ => rfl) (ih hl)

theorem Leads.to_link (h : Leads files true links here segments location) :
    ∃ named, Leads files false links here segments named := by
  induction h with
  | done => exact ⟨_, .done⟩
  | idle hd hi _ ih => exact ih.imp fun _ => .idle hd hi
  | up hd hi hu _ ih => exact ih.imp fun _ => .up hd hi hu
  | down he hn _ ih => exact ih.imp fun _ => .down he hn
  | link _ _ hf => cases hf
  | @jump _ _ _ rest _ _ he hx _ _ ih =>
    cases rest with
    | nil => exact ⟨_, .link he hx rfl⟩
    | cons next rest => exact ih.imp fun _ => .jump he hx nofun

theorem locate_eq_ok_iff_leads {follow : Bool} : files.locate path follow = .ok location ↔
    (path.toList ≠ [] ∧ '\x00' ∉ path.toList ∧
      (Text.Utf8.encode path.toList).length ≤ pathLimit) ∧
    Leads files follow linkLimit (if Path.isAbsolute path then [] else files.cwd)
      (segmentsOf path) location := by
  rw [leads_iff, segmentsOf, ← segments_encode]
  unfold locate locateOs
  -- what is asked of the bytes is the same question about the text
  have hnul : (Text.Utf8.encode path.toList).contains 0 = path.toList.contains '\x00' := by
    rw [Bool.eq_iff_iff, List.contains_iff_mem, List.contains_iff_mem,
      Text.Utf8.zero_mem_encode_iff]
  simp only [OsPath.ofText, List.isEmpty_iff, Text.Utf8.encode_eq_nil_iff, hnul,
    Text.Utf8.head?_encode_eq_slash_iff, Path.isAbsolute, decide_eq_true_eq]
  split
  · next h => simp_all
  · next hne =>
    split
    · next h => simp_all
    · next hnul =>
      split
      · next h => simp; omega
      · next hlimit => simp_all

theorem locate_to_end (h : files.locate path false = .ok location)
    (hl : ∀ target, files.node? location ≠ some (.link target)) :
    files.locate path true = .ok location := by
  rw [locate_eq_ok_iff_leads] at h ⊢
  exact ⟨h.1, h.2.to_end hl⟩

theorem locate_to_link (h : files.locate path true = .ok location) :
    ∃ named, files.locate path false = .ok named := by
  simp only [locate_eq_ok_iff_leads] at h ⊢
  exact h.2.to_link.imp fun _ => .intro h.1

theorem lookup_eq_ok_iff_locate {node : Node} : files.lookup path = .ok node ↔
    ∃ location, files.locate path true = .ok location ∧ files.node? location = some node := by
  unfold lookup
  cases hl : files.locate path true with
  | error cause => simp [bind, Except.bind]
  | ok location =>
    cases hx : files.node? location <;>
      simp [bind, Except.bind, pure, Except.pure, hx, throw, throwThe, MonadExceptOf.throw]

/-! ## Changes in one place -/

def Stops (node : Option Node) : Prop := node ≠ some .dir ∧ ∀ target, node ≠ some (.link target)

theorem stops_none : Stops none := ⟨nofun, nofun⟩

theorem stops_file (bytes : List UInt8) (executable : Bool) :
    Stops (some (.file bytes executable)) := ⟨nofun, nofun⟩

theorem node?_put_self (h : Stops (files.node? place)) (node : Node) :
    (files.put place node).node? place = some node := by
  rw [node?_put (ne_nil_of_node? h.1), if_pos rfl]

/-- All is as it was but at one place, where no walk went on and none goes on. -/
structure ChangedAt (place : Location) (files files' : Files) : Prop where
  cwd : files'.cwd = files.cwd
  nodes : ∀ location ≠ place, files'.node? location = files.node? location
  before : Stops (files.node? place)
  after : Stops (files'.node? place)

namespace ChangedAt

theorem put (h : Stops (files.node? place)) (bytes : List UInt8) (executable : Bool) :
    ChangedAt place files (files.put place (.file bytes executable)) := by
  refine ⟨rfl, fun location hne => ?_, h, ?_⟩
  · rw [node?_put (ne_nil_of_node? h.1), if_neg hne]
  · rw [node?_put_self h]
    exact stops_file bytes executable

theorem erase (h : Stops (files.node? place)) : ChangedAt place files (files.erase place) := by
  have hplace := ne_nil_of_node? h.1
  refine ⟨rfl, fun location hne => ?_, h, ?_⟩
  · rw [node?_erase hplace, if_neg hne]
  · rw [node?_erase hplace, if_pos rfl]
    exact stops_none

variable (h : ChangedAt place files files')
include h

theorem symm : ChangedAt place files' files :=
  ⟨h.cwd.symm, fun location hne => (h.nodes location hne).symm, h.after, h.before⟩

theorem dir (hd : files.node? here = some .dir) : files'.node? here = some .dir := by
  rwa [h.nodes here fun heq => h.before.1 (heq ▸ hd)]

theorem link {target : List UInt8} (hl : files.node? here = some (.link target)) :
    files'.node? here = some (.link target) := by
  rwa [h.nodes here fun heq => h.before.2 target (heq ▸ hl)]

theorem leads {follow : Bool} (hw : Leads files follow links here segments location) :
    Leads files' follow links here segments location := by
  induction hw with
  | done => exact .done
  | idle hd hi _ ih => exact .idle (h.dir hd) hi ih
  | up hd hi hu _ ih => exact .up (h.dir hd) hi hu ih
  | down he hl _ ih =>
    exact .down { he with dir := h.dir he.dir } (fun target hx => hl target (h.symm.link hx)) ih
  | link he hl hf => exact .link { he with dir := h.dir he.dir } (h.link hl) hf
  | jump he hl hf _ ih => exact .jump { he with dir := h.dir he.dir } (h.link hl) hf ih

theorem locate {follow : Bool} (hl : files.locate path follow = .ok location) :
    files'.locate path follow = .ok location := by
  rw [locate_eq_ok_iff_leads] at hl ⊢
  rw [h.cwd]
  exact ⟨hl.1, h.leads hl.2⟩

theorem lookup_iff (hne : files.locate path true ≠ .ok place) {node : Node} :
    files'.lookup path = .ok node ↔ files.lookup path = .ok node := by
  rw [lookup_eq_ok_iff_locate, lookup_eq_ok_iff_locate]
  constructor
  · rintro ⟨location, hl, hx⟩
    have hl := h.symm.locate hl
    exact ⟨location, hl, (h.nodes location fun heq => hne (heq ▸ hl)) ▸ hx⟩
  · rintro ⟨location, hl, hx⟩
    exact ⟨location, h.locate hl, (h.nodes location fun heq => hne (heq ▸ hl)).trans hx⟩

end ChangedAt

/-- All but one place is as it was, by location and by path. -/
structure SameBut (place : Location) (files files' : Files) : Prop where
  nodes : ∀ location ≠ place, files'.node? location = files.node? location
  lookup : ∀ path, files.locate path true ≠ .ok place →
    ∀ node, files'.lookup path = .ok node ↔ files.lookup path = .ok node

theorem ChangedAt.sameBut (h : ChangedAt place files files') : SameBut place files files' :=
  ⟨h.nodes, fun _ hne _ => h.lookup_iff hne⟩

/-! ## Making files -/

theorem put_put (files : Files) (place : Location) (first second : Node) :
    (files.put place first).put place second = files.put place second := by
  simp [put, List.filter_filter]

theorem erase_put (files : Files) (place : Location) (node : Node) :
    (files.put place node).erase place = files.erase place := by
  simp [put, erase, List.filter_filter]

theorem erase_of_none (h : files.node? place = none) : files.erase place = files := by
  have hne : place ≠ [] := ne_nil_of_node? (h ▸ nofun : files.node? place ≠ some .dir)
  rw [node?, if_neg hne, Option.map_eq_none_iff, List.find?_eq_none] at h
  have hall : files.nodes.filter (·.1 ≠ place) = files.nodes :=
    List.filter_eq_self.mpr fun entry hmem => by simpa using h entry hmem
  simp only [erase, hall]

theorem create_eq_some_iff : files.create path = .ok (some files') ↔
    ∃ place, files.locate path false = .ok place ∧ files.node? place = none ∧
      files' = files.put place (.file [] false) := by
  unfold create
  cases files.locate path false with
  | error cause => simp [bind, Except.bind]
  | ok place =>
    cases hx : files.node? place <;>
      simp [bind, Except.bind, pure, Except.pure, hx, eq_comm]

theorem write_of_stop {executable : Bool} (hl : files.locate path true = .ok place)
    (hx : files.node? place = none ∧ executable = false ∨
      ∃ old, files.node? place = some (.file old executable)) :
    files.write path bytes = if files.fits bytes then
        (.ok (), files.put place (.file bytes executable))
      else (.error .full, files.put place (.file [] executable)) := by
  unfold write
  rcases hx with ⟨hx, rfl⟩ | ⟨old, hx⟩ <;> simp [hl, hx]

theorem discard_file {executable : Bool} (hl : files.locate path false = .ok place)
    (hx : files.node? place = some (.file bytes executable)) :
    files.discard path = files.erase place := by
  simp [discard, remove, hl, hx, bind, Except.bind, pure, Except.pure]

/-- What is written to a new file is there, or there is no room and the file can be removed as if it
had never been. -/
theorem write_created {made : Files} (h : files.create path = .ok (some made))
    (bytes : List UInt8) :
    ∃ place, files.locate path false = .ok place ∧ files.node? place = none ∧
      if files.fits bytes then
        made.write path bytes = (.ok (), files.put place (.file bytes false))
      else ∃ left, made.write path bytes = (.error .full, left) ∧ left.discard path = files := by
  obtain ⟨place, hl, hx, rfl⟩ := create_eq_some_iff.mp h
  have hstops : Stops (files.node? place) := hx ▸ stops_none
  have hchange := ChangedAt.put hstops [] false
  have hmade := node?_put_self hstops (.file [] false)
  have hl' := hchange.locate hl
  refine ⟨place, hl, hx, ?_⟩
  rw [write_of_stop (locate_to_end hl' (by simp [hmade])) (.inr ⟨[], hmade⟩), put_put, put_put]
  have hfits : (files.put place (.file [] false)).fits bytes = files.fits bytes := rfl
  split
  · next hroom => rw [hfits, if_pos hroom]
  · next hroom =>
    rw [hfits, if_neg hroom]
    refine ⟨_, rfl, ?_⟩
    rw [discard_file hl' hmade, erase_put, erase_of_none hx]

def Wrote (files : Files) (path : String) (content : List UInt8) (files' : Files) : Prop :=
  ∃ made, files.create path = .ok (some made) ∧ made.write path content = (.ok (), files')

theorem Wrote.eq_put {content : List UInt8} (h : files.Wrote path content files') :
    ∃ place, files.locate path false = .ok place ∧ files.node? place = none ∧
      files' = files.put place (.file content false) := by
  obtain ⟨made, hc, hw⟩ := h
  obtain ⟨place, hl, hx, hwrite⟩ := write_created hc content
  refine ⟨place, hl, hx, ?_⟩
  split at hwrite
  · rw [hwrite] at hw
    exact (Prod.mk.inj hw).2.symm
  · obtain ⟨left, hwrite, -⟩ := hwrite
    rw [hwrite] at hw
    cases hw

/-- Nothing but a file or a directory, if anything, is under a name. -/
def Plain (files : Files) (path : String) : Prop :=
  ∀ place, files.locate path false = .ok place → ∀ node, files.node? place = some node →
    node = .dir ∨ ∃ bytes executable, node = .file bytes executable

theorem put_text {text : String} {executable : Bool} (hs : Stops (files.node? place))
    (hl : files.locate path true = .ok place) :
    let files' := files.put place (.file (Text.Utf8.encode text.toList) executable)
    files'.readText path = .ok text ∧ files'.locate path true = .ok place ∧
      files.SameBut place files' := by
  intro files'
  have hchange : ChangedAt place files files' := .put hs _ executable
  have hend := hchange.locate hl
  have hx : files'.node? place = _ := node?_put_self hs _
  refine ⟨?_, hend, hchange.sameBut⟩
  simp [readText, read, lookup, hend, hx, bind, Except.bind, pure, Except.pure,
    Text.Utf8.decode?_encode]

theorem Plain.locate_eq (hp : files.Plain path) (h : files.locate path false = .ok place) :
    files.locate path true = .ok place :=
  locate_to_end h fun target hlink => by simpa using hp place h _ hlink

/-- What becomes of a plain name: all is written, or what was there is gone with all that was
written, or it is as before. -/
inductive Outcome (files : Files) (path : String) (bytes : List UInt8) :
    Except OsError Unit × Files → Prop
  | written {place : Location} {executable : Bool} (hl : files.locate path true = .ok place)
      (hs : Stops (files.node? place)) :
    Outcome files path bytes (.ok (), files.put place (.file bytes executable))
  | untouched {cause : OsError} {left : Files} (h : left.discard path = files) :
    Outcome files path bytes (.error cause, left)
  | gone {cause : OsError} {left : Files} {place : Location}
      (hl : files.locate path false = .ok place) (hs : Stops (files.node? place))
      (h : left.discard path = files.erase place) :
    Outcome files path bytes (.error cause, left)

theorem outcome_of_stop {executable : Bool} (hp : files.Plain path)
    (hl : files.locate path false = .ok place) (hs : Stops (files.node? place))
    (hx : files.node? place = none ∧ executable = false ∨
      ∃ old, files.node? place = some (.file old executable)) (bytes : List UInt8) :
    Outcome files path bytes (files.write path bytes) := by
  have hend := hp.locate_eq hl
  rw [write_of_stop hend hx]
  split
  · exact .written hend hs
  · have hleft := node?_put_self hs (.file [] executable)
    refine .gone hl hs ?_
    rw [discard_file ((ChangedAt.put hs [] executable).locate hl) hleft, erase_put]

theorem write_plain (hp : files.Plain path) (bytes : List UInt8) :
    Outcome files path bytes (files.write path bytes) := by
  cases hl : files.locate path false with
  | error cause =>
    have hdiscard : files.discard path = files := by simp [discard, remove, hl, bind, Except.bind]
    unfold write
    cases hend : files.locate path true with
    | error cause => exact .untouched hdiscard
    | ok place =>
      obtain ⟨named, hnamed⟩ := locate_to_link hend
      rw [hl] at hnamed
      cases hnamed
  | ok place =>
    cases hx : files.node? place with
    | none => exact outcome_of_stop hp hl (hx ▸ stops_none) (.inl ⟨hx, rfl⟩) bytes
    | some node =>
      rcases hp place hl node hx with rfl | ⟨old, executable, rfl⟩
      · have hdiscard : files.discard path = files := by
          simp [discard, remove, hl, hx, bind, Except.bind, throw, throwThe, MonadExceptOf.throw]
        simp only [write, hp.locate_eq hl, hx]
        exact .untouched hdiscard
      · exact outcome_of_stop hp hl (hx ▸ stops_file old executable) (.inr ⟨old, hx⟩) bytes

theorem node?_eq_none_of_erase {location : Location} (hs : Stops (files.node? place))
    (h : files.node? location = none) : (files.erase place).node? location = none := by
  rw [node?_erase (ne_nil_of_node? hs.1)]
  split
  · rfl
  · exact h

theorem lookup_of_erase {node : Node} (hs : Stops (files.node? place))
    (h : (files.erase place).lookup path = .ok node) : files.lookup path = .ok node := by
  obtain ⟨location, hl, hx⟩ := lookup_eq_ok_iff_locate.mp h
  rw [node?_erase (ne_nil_of_node? hs.1)] at hx
  split at hx
  · cases hx
  · exact lookup_eq_ok_iff_locate.mpr ⟨location, (ChangedAt.erase hs).symm.locate hl, hx⟩

/-! ## Files without links -/

def NoLinks (files : Files) : Prop := ∀ location target, files.node? location ≠ some (.link target)

def advance (here : Location) (segment : List UInt8) : Location :=
  if isIdle segment then here
  else if isUpward segment then here.dropLast
  else here ++ [segment]

def origin (files : Files) (path : String) : Location :=
  if Path.isAbsolute path then [] else files.cwd

theorem resolve_eq (files : Files) (path : String) :
    files.resolve path = (segmentsOf path).foldl advance (files.origin path) := rfl

theorem resolve_congr (h : files'.cwd = files.cwd) (path : String) :
    files'.resolve path = files.resolve path := by
  simp only [resolve, h]

def Walks (files : Files) : Location → List (List UInt8) → Prop
  | _, [] => True
  | here, segment :: rest =>
    files.node? here = some .dir ∧
      (isIdle segment = true ∨ isUpward segment = true ∨ segment.length ≤ nameLimit) ∧
      files.Walks (advance here segment) rest

theorem NoLinks.leads_iff (hn : files.NoLinks) {follow : Bool} :
    Leads files follow links here segments location ↔
      files.Walks here segments ∧ location = segments.foldl advance here := by
  induction segments generalizing here with
  | nil =>
    constructor
    · rintro ⟨⟩
      exact ⟨trivial, rfl⟩
    · rintro ⟨-, rfl⟩
      exact .done
  | cons segment rest ih =>
    rw [Walks, List.foldl_cons]
    constructor
    · intro h
      cases h with
      | idle hd hi h => simp_all [advance]
      | up hd hi hu h => simp_all [advance]
      | down he hl h => simp_all [advance, he.dir, he.named, he.forward, he.short]
      | link he hl hf => exact absurd hl (hn _ _)
      | jump he hl hf h => exact absurd hl (hn _ _)
    · rintro ⟨⟨hd, hs, hw⟩, rfl⟩
      have hrest := ih.mpr ⟨hw, rfl⟩
      cases hi : isIdle segment with
      | true => exact .idle hd hi (by simpa [advance, hi] using hrest)
      | false =>
        cases hu : isUpward segment with
        | true => exact .up hd hi hu (by simpa [advance, hi, hu] using hrest)
        | false =>
          refine .down ⟨hd, hi, hu, by simpa [hi, hu] using hs⟩ (hn _) ?_
          simpa [advance, hi, hu] using hrest

def Reachable (files : Files) (path : String) : Prop :=
  path.toList ≠ [] ∧ '\x00' ∉ path.toList ∧
    (Text.Utf8.encode path.toList).length ≤ pathLimit ∧
    files.Walks (files.origin path) (segmentsOf path)

theorem locate_eq_ok_iff (hn : files.NoLinks) {follow : Bool} :
    files.locate path follow = .ok location ↔
      files.Reachable path ∧ location = files.resolve path := by
  rw [locate_eq_ok_iff_leads, hn.leads_iff, resolve_eq]
  simp only [Reachable, origin, and_assoc]

theorem lookup_eq_ok_iff (hn : files.NoLinks) {node : Node} :
    files.lookup path = .ok node ↔
      files.Reachable path ∧ files.node? (files.resolve path) = some node := by
  simp only [lookup_eq_ok_iff_locate, locate_eq_ok_iff hn, and_assoc, exists_and_left,
    exists_eq_left]

theorem pathExists_eq_true_iff :
    files.pathExists path = true ↔ ∃ node, files.lookup path = .ok node := by
  unfold pathExists
  cases files.lookup path <;> simp [Except.isOk, Except.toBool]

structure SameDirs (files files' : Files) : Prop where
  cwd : files'.cwd = files.cwd
  dirs : ∀ location, files'.node? location = some .dir ↔ files.node? location = some .dir

theorem SameDirs.walks_iff (h : SameDirs files files') {here : Location}
    {segments : List (List UInt8)} : files'.Walks here segments ↔ files.Walks here segments := by
  induction segments generalizing here with
  | nil => rfl
  | cons segment rest ih => simp only [Walks, h.dirs, ih]

theorem SameDirs.reachable_iff (h : SameDirs files files') :
    files'.Reachable path ↔ files.Reachable path := by
  have horigin : files'.origin path = files.origin path := by simp only [origin, h.cwd]
  simp only [Reachable, horigin, h.walks_iff]

theorem SameDirs.lookup_iff (h : SameDirs files files') (hn : files.NoLinks) (hn' : files'.NoLinks)
    (hs : files'.node? (files.resolve path) = files.node? (files.resolve path)) {node : Node} :
    files'.lookup path = .ok node ↔ files.lookup path = .ok node := by
  rw [lookup_eq_ok_iff hn, lookup_eq_ok_iff hn', h.reachable_iff, resolve_congr h.cwd, hs]

theorem SameDirs.put (hd : files.node? location ≠ some .dir) (bytes : List UInt8)
    (executable : Bool) : SameDirs files (files.put location (.file bytes executable)) := by
  refine ⟨rfl, fun other => ?_⟩
  rw [node?_put (ne_nil_of_node? hd)]
  split
  · next ho => simp [ho, hd]
  · rfl

theorem NoLinks.put (hn : files.NoLinks) (h : location ≠ []) (bytes : List UInt8)
    (executable : Bool) : (files.put location (.file bytes executable)).NoLinks := by
  intro other target
  rw [node?_put h]
  split
  · simp
  · exact hn other target

theorem create_eq_some (hn : files.NoLinks) {bytes : List UInt8}
    (h : files.Wrote path bytes files') :
    files.Reachable path ∧ files.node? (files.resolve path) = none ∧
      files' = files.put (files.resolve path) (.file bytes false) := by
  obtain ⟨place, hl, hx, rfl⟩ := h.eq_put
  obtain ⟨hr, rfl⟩ := (locate_eq_ok_iff hn).mp hl
  exact ⟨hr, hx, rfl⟩

theorem NoLinks.plain (hn : files.NoLinks)
    (hx : files.node? (files.resolve path) = none ∨ files.node? (files.resolve path) = some .dir ∨
      ∃ old executable, files.node? (files.resolve path) = some (.file old executable)) :
    files.Plain path := by
  intro place hl node hnode
  obtain ⟨-, rfl⟩ := (locate_eq_ok_iff hn).mp hl
  rw [hnode] at hx
  simpa using hx

theorem write_eq_ok (hn : files.NoLinks) {bytes : List UInt8} (hp : files.Plain path)
    (h : files.write path bytes = (.ok (), files')) :
    files.Reachable path ∧ files.node? (files.resolve path) ≠ some .dir ∧
      ∃ executable, files' = files.put (files.resolve path) (.file bytes executable) := by
  have hout := write_plain hp bytes
  rw [h] at hout
  cases hout with
  | @written place executable hl hs =>
    obtain ⟨hr, rfl⟩ := (locate_eq_ok_iff hn).mp hl
    exact ⟨hr, hs.1, executable, rfl⟩

/-! ## Removing files -/

/-- Nothing has changed but that some of the places are empty now; no directory was. -/
structure Trimmed (places : Location → Prop) (files files' : Files) : Prop where
  cwd : files'.cwd = files.cwd
  nodes : ∀ location, files'.node? location = files.node? location ∨
    places location ∧ files'.node? location = none ∧ files.node? location ≠ some .dir

namespace Trimmed

variable {places : Location → Prop}

theorem refl : Trimmed places files files := ⟨rfl, fun _ => .inl rfl⟩

theorem trans (first : Trimmed places files middle) (second : Trimmed places middle files') :
    Trimmed places files files' := by
  refine ⟨second.cwd.trans first.cwd, fun location => ?_⟩
  rcases second.nodes location with hs | ⟨hp, hs, hd⟩
  · rw [hs]
    exact first.nodes location
  · rcases first.nodes location with hf | ⟨hp, hf, hd⟩
    · exact .inr ⟨hp, hs, hf ▸ hd⟩
    · exact .inr ⟨hp, hs, hd⟩

theorem mono {more : Location → Prop} (h : Trimmed places files files')
    (hp : ∀ location, places location → more location) : Trimmed more files files' :=
  ⟨h.cwd, fun location => (h.nodes location).imp_right fun ⟨hl, hx⟩ => ⟨hp location hl, hx⟩⟩

theorem sameDirs (h : Trimmed places files files') : SameDirs files files' := by
  refine ⟨h.cwd, fun location => ?_⟩
  rcases h.nodes location with hs | ⟨-, hs, hd⟩
  · rw [hs]
  · simp [hs, hd]

theorem noLinks (h : Trimmed places files files') (hn : files.NoLinks) : files'.NoLinks := by
  intro location target
  rcases h.nodes location with hs | ⟨-, hs, -⟩
  · rw [hs]
    exact hn location target
  · simp [hs]

theorem lookup_iff (h : Trimmed places files files') (hn : files.NoLinks)
    (hp : ¬ places (files.resolve path)) {node : Node} :
    files'.lookup path = .ok node ↔ files.lookup path = .ok node :=
  h.sameDirs.lookup_iff hn (h.noLinks hn) ((h.nodes _).resolve_right fun hx => hp hx.1)

theorem lookup_of_lookup (h : Trimmed places files files') (hn : files.NoLinks) {node : Node}
    (hl : files'.lookup path = .ok node) : files.lookup path = .ok node := by
  obtain ⟨hr, hx⟩ := (lookup_eq_ok_iff (h.noLinks hn)).mp hl
  rw [resolve_congr h.cwd] at hx
  rcases h.nodes (files.resolve path) with hs | ⟨-, hs, -⟩
  · exact (lookup_eq_ok_iff hn).mpr ⟨h.sameDirs.reachable_iff.mp hr, hs ▸ hx⟩
  · rw [hs] at hx
    cases hx

end Trimmed

theorem trimmed_erase (h : files.node? location ≠ some .dir) :
    Trimmed (· = location) files (files.erase location) := by
  refine ⟨rfl, fun other => ?_⟩
  rw [node?_erase (ne_nil_of_node? h)]
  split
  · next hl => exact .inr ⟨hl, rfl, hl ▸ h⟩
  · exact .inl rfl

theorem remove_cases (h : files.remove path = .ok files') :
    ∃ place node, files.locate path false = .ok place ∧ files.node? place = some node ∧
      node ≠ .dir ∧ files' = files.erase place := by
  unfold remove at h
  cases hl : files.locate path false with
  | error cause => rw [hl] at h; cases h
  | ok place =>
    simp only [hl, bind, Except.bind] at h
    cases hx : files.node? place with
    | none => rw [hx] at h; cases h
    | some node =>
      rw [hx] at h
      cases node with
      | dir => cases h
      | _ => cases h; exact ⟨place, _, rfl, hx, by simp, rfl⟩

theorem remove_eq_ok (hn : files.NoLinks) (h : files.remove path = .ok files') :
    ∃ node, files.node? (files.resolve path) = some node ∧ node ≠ .dir ∧
      files' = files.erase (files.resolve path) := by
  obtain ⟨place, node, hl, hrest⟩ := remove_cases h
  obtain ⟨-, rfl⟩ := (locate_eq_ok_iff hn).mp hl
  exact ⟨node, hrest⟩

theorem remove_of_file (hn : files.NoLinks) {bytes : List UInt8} {executable : Bool}
    (hl : files.lookup path = .ok (.file bytes executable)) :
    files.remove path = .ok (files.erase (files.resolve path)) := by
  obtain ⟨hr, hx⟩ := (lookup_eq_ok_iff hn).mp hl
  simp [remove, (locate_eq_ok_iff hn).mpr ⟨hr, rfl⟩, bind, Except.bind, hx, pure, Except.pure]

def sweep (files : Files) (path : String) : Files :=
  if files.pathExists path then files.discard path else files

theorem discard_trimmed (hn : files.NoLinks) (path : String) :
    Trimmed (· = files.resolve path) files (files.discard path) := by
  unfold discard
  split
  · next h =>
    obtain ⟨node, hx, hd, rfl⟩ := remove_eq_ok hn h
    exact trimmed_erase (by simp [hx, hd])
  · exact .refl

theorem write_eq_error (hn : files.NoLinks) {bytes : List UInt8} {cause : OsError}
    (hp : files.Plain path) (h : files.write path bytes = (.error cause, files')) :
    Trimmed (· = files.resolve path) files (files'.discard path) := by
  have hout := write_plain hp bytes
  rw [h] at hout
  cases hout with
  | untouched hd => exact hd ▸ .refl
  | gone hl hs hd =>
    obtain ⟨-, rfl⟩ := (locate_eq_ok_iff hn).mp hl
    exact hd ▸ trimmed_erase hs.1

theorem node?_discard (hn : files.NoLinks) {bytes : List UInt8} {executable : Bool}
    (hl : files.lookup path = .ok (.file bytes executable)) :
    (files.discard path).node? (files.resolve path) = none := by
  have hx := ((lookup_eq_ok_iff hn).mp hl).2
  have hdir : files.node? (files.resolve path) ≠ some .dir := by simp [hx]
  rw [discard, remove_of_file hn hl, node?_erase (ne_nil_of_node? hdir), if_pos rfl]

theorem sweep_trimmed (hn : files.NoLinks) (path : String) :
    Trimmed (· = files.resolve path) files (files.sweep path) := by
  unfold sweep
  split
  · exact discard_trimmed hn path
  · exact .refl

theorem sweepAll_trimmed (hn : files.NoLinks) (paths : List String) :
    Trimmed (fun location => ∃ path ∈ paths, location = files.resolve path) files
      (paths.foldl sweep files) := by
  induction paths generalizing files with
  | nil => exact .refl
  | cons path rest ih =>
    have hfirst := sweep_trimmed hn path
    refine Trimmed.trans (hfirst.mono ?_) ((ih (hfirst.noLinks hn)).mono ?_)
    · rintro location rfl
      exact ⟨path, List.mem_cons_self, rfl⟩
    · rintro location ⟨other, hmem, rfl⟩
      exact ⟨other, List.mem_cons_of_mem path hmem, resolve_congr hfirst.cwd other⟩

end Files

/-! ## Names in directories -/

namespace Path

structure IsName (name : String) : Prop where
  plain : '/' ∉ name.toList
  named : isIdle name.toList = false
  forward : name.toList ≠ ['.', '.']

theorem segments_append_slash (before after : List Char) :
    segments (before ++ '/' :: after) = segments before ++ segments after := by
  induction before with
  | nil => simp [segments]
  | cons c rest ih =>
    by_cases hc : c = '/'
    · simp [segments, hc, ih]
    · cases hs : segments rest with
      | nil => exact absurd hs (segments_ne_nil rest)
      | cons first others => simp [segments, hc, ih, hs]

theorem segments_of_plain {text : List Char} (h : '/' ∉ text) : segments text = [text] := by
  induction text with
  | nil => rfl
  | cons c rest ih =>
    have hc : c ≠ '/' := (List.ne_of_not_mem_cons h).symm
    simp [segments, hc, ih (List.not_mem_of_not_mem_cons h)]

variable {name : String}

theorem segments_join (hn : IsName name) (base : String) :
    ∃ front, segments (join base name).toList = front ++ [name.toList] := by
  have hlast := segments_of_plain hn.plain
  have hrel : isAbsolute name = false := by
    unfold isAbsolute
    cases h : name.toList with
    | nil => rfl
    | cons c rest =>
      have hc : c ≠ '/' := (List.ne_of_not_mem_cons (h ▸ hn.plain)).symm
      simpa using hc
  unfold join
  rw [if_neg (by simp [hrel])]
  split
  · next hend =>
    rw [Bool.or_eq_true] at hend
    rcases hend with hempty | hslash
    · have hb : base = "" := by simpa using hempty
      exact ⟨[], by simp [hb, hlast]⟩
    · obtain ⟨dir, hdir⟩ := List.getLast?_eq_some_iff.mp (of_decide_eq_true hslash)
      exact ⟨segments dir, by simp [String.toList_append, hdir, segments_append_slash, hlast]⟩
  · exact ⟨segments base.toList, by
      simp [String.toList_append, List.append_assoc, segments_append_slash, hlast]⟩

theorem fileName?_join (hn : IsName name) (base : String) :
    fileName? (join base name) = some name := by
  obtain ⟨front, hf⟩ := segments_join hn base
  have hbody : ∃ before, (parts (join base name)).body = before ++ [name.toList] := by
    unfold parts
    rw [hf]
    split
    · next body rest h =>
      -- a rooted path has something after its first slash
      cases front with
      | nil => simp at h
      | cons first others => exact ⟨others, ((List.cons.inj h).2).symm⟩
    · next body h =>
      cases front with
      | nil =>
        have hnamed := hn.named
        rw [(List.cons.inj h).1] at hnamed
        simp [isIdle] at hnamed
      | cons first others => exact ⟨others, ((List.cons.inj h).2).symm⟩
    · exact ⟨front, rfl⟩
  obtain ⟨before, hb⟩ := hbody
  have hkeep : dropIdleEnd (before ++ [name.toList]) = before ++ [name.toList] := by
    simp [dropIdleEnd, hn.named]
  simp [fileName?, hb, hkeep, hn.forward]

theorem fileName?_name (hn : IsName name) : fileName? name = some name := by
  have hjoin : join "" name = name := by
    unfold join
    split
    · rfl
    · simp
  rw [← hjoin, fileName?_join hn, hjoin]

theorem stem_append_dot {front extension : List Char} (hf : front ≠ []) (he : '.' ∉ extension) :
    stem (front ++ '.' :: extension) = front := by
  have hdrop : (front ++ '.' :: extension).reverse.dropWhile (· ≠ '.') = '.' :: front.reverse := by
    rw [List.reverse_append, List.reverse_cons, List.append_assoc, List.dropWhile_append_of_pos]
    · simp
    · intro c hc
      have hne : c ≠ '.' := fun h => he (h ▸ List.mem_reverse.mp hc)
      simpa using hne
  unfold stem
  rw [hdrop]
  simp [hf]

end Path

namespace Files

variable {name : String}

theorem resolve_join (files : Files) (hn : Path.IsName name) (base : String) :
    (files.resolve (Path.join base name)).getLast? = some (Text.Utf8.encode name.toList) := by
  obtain ⟨front, hf⟩ := Path.segments_join hn base
  have hidle : isIdle (Text.Utf8.encode name.toList) = false := by
    rw [← Bool.not_eq_true]
    intro h
    rcases (by simpa [isIdle] using h : Text.Utf8.encode name.toList = [] ∨
      Text.Utf8.encode name.toList = [46]) with h | h
    · have hnil : name.toList = [] := Text.Utf8.encode_inj h
      simpa [Path.isIdle, hnil] using hn.named
    · have hdot : name.toList = ['.'] := Text.Utf8.encode_inj h
      simpa [Path.isIdle, hdot] using hn.named
  have hup : isUpward (Text.Utf8.encode name.toList) = false := by
    have hne : Text.Utf8.encode name.toList ≠ [46, 46] :=
      fun h => hn.forward (Text.Utf8.encode_inj h)
    simpa [isUpward] using hne
  simp [resolve_eq, segmentsOf, hf, advance, hidle, hup]

end Files

end Retrace
