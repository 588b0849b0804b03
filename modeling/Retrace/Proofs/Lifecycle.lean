import Retrace.Proofs.Compile
import Retrace.Proofs.Creation

/-!
# The life of a generated source

From the moment a job is entered until it is given up, its source is on disk with
the text that was ordered, and no other job has it. `Tidy` is what every
operation of a build keeps: making a job puts one file in a place of its own,
giving one up empties that place, and all that happens in between is done to
other places.
-/

namespace Retrace

/-! ## Names of sources -/

namespace Job

structure IsStem (stem : String) : Prop where
  plain : '/' ∉ stem.toList
  nonempty : stem.toList ≠ []

def debugStem : Nat → String
  | 0 => "IR.temp.debug.verbose"
  | n + 1 => "IR.temp.debug.verbose." ++ toString (n + 1)

def tempStem (serial : Nat) : String := "__" ++ String.ofList (nameDigits 6 serial)

theorem debugName_eq (index : Nat) : debugName index = debugStem index ++ suffix := by
  cases index <;> rfl

theorem toList_debugStem_succ (n : Nat) :
    (debugStem (n + 1)).toList = (debugStem 0).toList ++ '.' :: Nat.toDigits 10 (n + 1) := by
  have hdot : "IR.temp.debug.verbose.".toList = (debugStem 0).toList ++ ['.'] := by decide
  have hname : debugStem (n + 1) = "IR.temp.debug.verbose." ++ toString (n + 1) := rfl
  rw [hname, String.toList_append, hdot, Nat.toString_eq_repr, Nat.toList_repr,
    List.append_assoc, List.singleton_append]

theorem isStem_debugStem (index : Nat) : IsStem (debugStem index) := by
  have hfront : '/' ∉ (debugStem 0).toList ∧ (debugStem 0).toList ≠ [] := by decide
  cases index with
  | zero => exact ⟨hfront.1, hfront.2⟩
  | succ n =>
    have hslash : '/' ∉ Nat.toDigits 10 (n + 1) := fun h =>
      absurd (Nat.isDigit_of_mem_toDigits (by omega) (by omega) h) (by decide)
    refine ⟨?_, ?_⟩
    · rw [toList_debugStem_succ]
      simp [hslash, hfront.1]
    · rw [toList_debugStem_succ]
      simp

theorem head?_debugStem (index : Nat) : (debugStem index).toList.head? = some 'I' := by
  have hfront : (debugStem 0).toList.head? = some 'I' := by decide
  cases index with
  | zero => exact hfront
  | succ n => rw [toList_debugStem_succ, List.head?_append, hfront, Option.some_or]

theorem debugStem_inj {a b : Nat} (h : debugStem a = debugStem b) : a = b := by
  have hlist := congrArg String.toList h
  cases a with
  | zero =>
    cases b with
    | zero => rfl
    | succ n =>
      rw [toList_debugStem_succ] at hlist
      exact absurd (List.append_cancel_left ((List.append_nil _).trans hlist)) (by simp)
  | succ m =>
    cases b with
    | zero =>
      rw [toList_debugStem_succ] at hlist
      exact absurd (List.append_cancel_left (hlist.trans (List.append_nil _).symm)) (by simp)
    | succ n =>
      rw [toList_debugStem_succ, toList_debugStem_succ] at hlist
      have hdigits := (List.cons.inj (List.append_cancel_left hlist)).2
      have hvalue := congrArg (Nat.ofDigitChars 10 · 0) hdigits
      simpa [Nat.ofDigitChars_ten_toDigits] using hvalue

theorem not_mem_nameDigits {c : Char} (hdigit : ∀ digit < 62, nameDigit digit ≠ c)
    (count value : Nat) : c ∉ nameDigits count value := by
  induction count generalizing value with
  | zero => simp [nameDigits]
  | succ count ih =>
    simpa [nameDigits, ih] using (hdigit (value % 62) (Nat.mod_lt _ (by omega))).symm

theorem toList_tempStem (serial : Nat) :
    (tempStem serial).toList = '_' :: '_' :: nameDigits 6 serial := by
  simp [tempStem, String.toList_append]

theorem isStem_tempStem (serial : Nat) : IsStem (tempStem serial) := by
  have hslash : ∀ digit < 62, nameDigit digit ≠ '/' := by decide
  exact ⟨by simp [toList_tempStem, not_mem_nameDigits hslash], by simp [toList_tempStem]⟩

theorem tempStem_ne_debugStem (serial index : Nat) : tempStem serial ≠ debugStem index := by
  intro h
  have hhead := head?_debugStem index
  rw [← h, toList_tempStem] at hhead
  simp at hhead

variable {stem : String}

theorem IsStem.isName (hs : IsStem stem) {ending : String} (he : '/' ∉ ending.toList)
    (hl : 2 ≤ ending.toList.length) : Path.IsName (stem ++ ending) := by
  have hlong : 2 < (stem ++ ending).toList.length := by
    have hpos := List.length_pos_iff.mpr hs.nonempty
    rw [String.toList_append, List.length_append]
    omega
  refine ⟨?_, ?_, ?_⟩
  · simp [String.toList_append, hs.plain, he]
  · rw [← Bool.not_eq_true]
    intro h
    rcases (by simpa [Path.isIdle, -String.toList_append] using h :
      (stem ++ ending).toList = [] ∨ (stem ++ ending).toList = ['.']) with h | h <;>
      simp [h] at hlong
  · intro h
    simp [h] at hlong

theorem IsStem.isName_source (hs : IsStem stem) : Path.IsName (stem ++ suffix) :=
  hs.isName (by decide) (by decide)

theorem IsStem.isName_object (hs : IsStem stem) : Path.IsName (stem ++ ".obj") :=
  hs.isName (by decide) (by decide)

theorem IsStem.withExtension_source (hs : IsStem stem) :
    Path.withExtension (stem ++ suffix) "obj" = stem ++ ".obj" := by
  have hlist : (stem ++ suffix).toList = stem.toList ++ '.' :: ['c', 'x', 'i', 'r'] := by
    rw [String.toList_append, suffix]
    rfl
  have hstem : Path.fileStem? (stem ++ suffix) = some stem := by
    rw [Path.fileStem?, Path.fileName?_name hs.isName_source, Option.map_some, hlist,
      Path.stem_append_dot hs.nonempty (by decide), String.ofList_toList]
  rw [Path.withExtension, hstem]
  simp [String.append_assoc]

end Job

/-! ## Files that sources can live in -/

/-- No links, and no device or pipe under the fixed name of a source. -/
structure Ordinary (files : Files) : Prop where
  noLinks : files.NoLinks
  plain : ∀ location index,
    location.getLast? = some (Text.Utf8.encode (Job.debugName index).toList) →
    files.node? location = none ∨ files.node? location = some .dir ∨
      ∃ old executable, files.node? location = some (.file old executable)

theorem Ordinary.put (ho : Ordinary files) {location : Location} (h : location ≠ [])
    (content : List UInt8) (executable : Bool) :
    Ordinary (files.put location (.file content executable)) := by
  refine ⟨ho.noLinks.put h _ _, fun other index hlast => ?_⟩
  rw [Files.node?_put h]
  split
  · exact .inr (.inr ⟨content, executable, rfl⟩)
  · exact ho.plain other index hlast

theorem Ordinary.trimmed (ho : Ordinary files) (h : Files.Trimmed places files files') :
    Ordinary files' := by
  refine ⟨h.noLinks ho.noLinks, fun other index hlast => ?_⟩
  rcases h.nodes other with hs | ⟨-, hs, -⟩
  · rw [hs]
    exact ho.plain other index hlast
  · exact .inl hs

theorem ordinary_of_nodes {files : Files}
    (h : ∀ entry ∈ files.nodes, ∃ content executable, entry.2 = .file content executable) :
    Ordinary files := by
  have hnode (location : Location) : files.node? location = none ∨
      files.node? location = some .dir ∨
        ∃ old executable, files.node? location = some (.file old executable) := by
    unfold Files.node?
    split
    · exact .inr (.inl rfl)
    · cases hf : files.nodes.find? (·.1 = location) with
      | none => exact .inl rfl
      | some entry =>
        obtain ⟨content, executable, he⟩ := h entry (List.mem_of_find?_eq_some hf)
        exact .inr (.inr ⟨content, executable, congrArg some he⟩)
  refine ⟨fun location target hlink => ?_, fun location _ _ => hnode location⟩
  rcases hnode location with hx | hx | ⟨_, _, hx⟩ <;> simp [hx] at hlink

/-- A process left the paths alone: each leads to what it led to, or still nowhere. -/
structure Spares (paths : List String) (files files' : Files) : Prop where
  cwd : files'.cwd = files.cwd
  ordinary : Ordinary files'
  lookup : ∀ path ∈ paths, ∀ node, files'.lookup path = .ok node ↔ files.lookup path = .ok node

/-! ## What a build keeps -/

def Job.Named (id : JobId) (job : Job) : Prop :=
  ∃ dir stem, job.generated = Path.join dir (stem ++ Job.suffix) ∧
    (stem = Job.debugStem id.index ∨ ∃ serial, stem = Job.tempStem serial)

theorem Job.Named.isStem {id : JobId} {job : Job} (h : job.Named id) :
    ∃ dir stem, job.generated = Path.join dir (stem ++ Job.suffix) ∧ Job.IsStem stem := by
  obtain ⟨dir, stem, hg, rfl | ⟨serial, rfl⟩⟩ := h
  · exact ⟨dir, _, hg, Job.isStem_debugStem _⟩
  · exact ⟨dir, _, hg, Job.isStem_tempStem _⟩

/-- No source has the fixed name of another number, in whatever directory. -/
theorem Job.Named.resolve_ne {id : JobId} {job : Job} {index : Nat} (h : job.Named id)
    (hne : id.index ≠ index) (files : Files) (dir : String) :
    files.resolve job.generated ≠ files.resolve (Path.join dir (Job.debugName index)) := by
  intro heq
  obtain ⟨place, stem, hg, hstem⟩ := h
  have hname : Path.IsName (stem ++ Job.suffix) := by
    rcases hstem with rfl | ⟨serial, rfl⟩
    · exact (Job.isStem_debugStem _).isName_source
    · exact (Job.isStem_tempStem _).isName_source
  have hlast := congrArg List.getLast? heq
  rw [hg, Job.debugName_eq, Files.resolve_join files hname,
    Files.resolve_join files (Job.isStem_debugStem _).isName_source] at hlast
  have htext := Text.Utf8.encode_inj (Option.some.inj hlast)
  rw [String.toList_append, String.toList_append] at htext
  have hsame : stem = Job.debugStem index :=
    String.toList_inj.mp (List.append_cancel_right htext)
  rcases hstem with rfl | ⟨serial, rfl⟩
  · exact hne (Job.debugStem_inj hsame)
  · exact Job.tempStem_ne_debugStem _ _ hsame

def OnDisk (files : Files) (job : Job) : Prop :=
  ∃ executable, files.lookup job.generated = .ok (.file (Job.bytes job.order) executable)

structure Held (files : Files) (id : JobId) (job : Job) : Prop where
  live : job.isLive = true
  onDisk : OnDisk files job
  named : job.Named id

theorem Held.of_lookup {files files' : Files} {id : JobId} {job : Job} (h : Held files id job)
    (hl : ∀ node, files'.lookup job.generated = .ok node ↔ files.lookup job.generated = .ok node) :
    Held files' id job := by
  obtain ⟨executable, hx⟩ := h.onDisk
  exact ⟨h.live, ⟨executable, (hl _).mpr hx⟩, h.named⟩

/-- A job was given up, and these others stayed. -/
structure Departure where
  job : Job
  stayed : List Job

def sources (gone : List Departure) (roster : Roster) : List String :=
  (gone.map (·.job) ++ roster.jobs).map (·.generated)

/-- What holds of a roster and the files at every point; `gone` are the departures so far. -/
structure Tidy (gone : List Departure) (roster : Roster) (files : Files) : Prop where
  ordinary : Ordinary files
  held : ∀ entry ∈ roster.entries, Held files entry.1 entry.2
  numbered : ∀ entry ∈ roster.entries, entry.1.index < roster.next
  apart : roster.entries.Pairwise fun a b =>
    files.resolve a.2.generated ≠ files.resolve b.2.generated
  emptied : ∀ left ∈ gone, (∀ node, files.lookup left.job.generated ≠ .ok node) ∨
    ∃ entry ∈ roster.entries, files.resolve entry.2.generated = files.resolve left.job.generated
  stayed : ∀ left ∈ gone, ∀ other ∈ left.stayed,
    files.resolve other.generated ≠ files.resolve left.job.generated

namespace Tidy

variable {gone : List Departure} {roster : Roster} {files files' : Files} {job : Job}

theorem onDisk (h : Tidy gone roster files) :
    ∀ job ∈ roster.jobs, job.isLive = true ∧ OnDisk files job := by
  intro job hmem
  obtain ⟨entry, hentry, rfl⟩ := List.mem_map.mp hmem
  exact ⟨(h.held entry hentry).live, (h.held entry hentry).onDisk⟩

theorem locate (h : Tidy gone roster files) (hmem : job ∈ roster.jobs) :
    files.locate job.generated true = .ok (files.resolve job.generated) := by
  obtain ⟨executable, hl⟩ := (h.onDisk job hmem).2
  have hn := h.ordinary.noLinks
  exact (Files.locate_eq_ok_iff hn).mpr ⟨((Files.lookup_eq_ok_iff hn).mp hl).1, rfl⟩

theorem spared (h : Tidy gone roster files)
    (hs : Spares (sources gone roster) files files') : Tidy gone roster files' := by
  have hresolve := fun path => Files.resolve_congr hs.cwd path
  refine ⟨hs.ordinary, fun entry hmem => ?_, h.numbered, ?_, fun left hmem => ?_, ?_⟩
  · refine (h.held entry hmem).of_lookup (hs.lookup _ (List.mem_map_of_mem ?_))
    exact List.mem_append_right _ (List.mem_map_of_mem hmem)
  · simpa only [hresolve] using h.apart
  · simp only [hresolve]
    refine (h.emptied left hmem).imp_left fun hnone node => ?_
    have hpath : left.job.generated ∈ sources gone roster :=
      List.mem_map_of_mem (List.mem_append_left _ (List.mem_map_of_mem hmem))
    rw [Ne, hs.lookup _ hpath]
    exact hnone node
  · simpa only [hresolve] using h.stayed

theorem trimmed (h : Tidy gone roster files) (ht : Files.Trimmed places files files')
    (hp : ∀ entry ∈ roster.entries, ¬ places (files.resolve entry.2.generated)) :
    Tidy gone roster files' := by
  have hn := h.ordinary.noLinks
  have hresolve := fun path => Files.resolve_congr ht.cwd path
  refine ⟨h.ordinary.trimmed ht, fun entry hmem => ?_, h.numbered, ?_, fun left hmem => ?_, ?_⟩
  · exact (h.held entry hmem).of_lookup fun node => ht.lookup_iff hn (hp entry hmem)
  · simpa only [hresolve] using h.apart
  · simp only [hresolve]
    exact (h.emptied left hmem).imp_left fun hnone node hl => hnone node (ht.lookup_of_lookup hn hl)
  · simpa only [hresolve] using h.stayed

theorem enter (h : Tidy gone roster files) (job : Job) (hlive : job.isLive = true) {id : JobId}
    {next : Nat} (hnamed : job.Named id) (hid : id.index < next) (hnext : roster.next ≤ next)
    (hr : files.Reachable job.generated)
    (hd : files.node? (files.resolve job.generated) ≠ some .dir)
    (hfree : ∀ entry ∈ roster.entries,
      files.resolve entry.2.generated ≠ files.resolve job.generated) (executable : Bool) :
    Tidy gone ⟨roster.entries ++ [(id, job)], next⟩
      (files.put (files.resolve job.generated) (.file (Job.bytes job.order) executable)) := by
  have hne := Files.ne_nil_of_node? hd
  have hn := h.ordinary.noLinks
  have hn' := hn.put hne (Job.bytes job.order) executable
  have hdirs := Files.SameDirs.put hd (Job.bytes job.order) executable
  have hother (path : String) (hp : files.resolve path ≠ files.resolve job.generated)
      (node : Node) :
      (files.put (files.resolve job.generated) (.file (Job.bytes job.order) executable)).lookup
        path = .ok node ↔ files.lookup path = .ok node :=
    hdirs.lookup_iff hn hn' (by rw [Files.node?_put hne, if_neg hp])
  refine ⟨h.ordinary.put hne _ _, fun entry hmem => ?_, fun entry hmem => ?_, ?_,
    fun left hmem => ?_, h.stayed⟩
  · rcases List.mem_append.mp hmem with hmem | hmem
    · exact (h.held entry hmem).of_lookup (hother _ (hfree entry hmem))
    · obtain rfl := List.mem_singleton.mp hmem
      refine ⟨hlive, ⟨executable, (Files.lookup_eq_ok_iff hn').mpr
        ⟨hdirs.reachable_iff.mpr hr, ?_⟩⟩, hnamed⟩
      rw [Files.resolve_congr hdirs.cwd, Files.node?_put hne, if_pos rfl]
  · rcases List.mem_append.mp hmem with hmem | hmem
    · exact Nat.lt_of_lt_of_le (h.numbered entry hmem) hnext
    · obtain rfl := List.mem_singleton.mp hmem
      exact hid
  · refine List.pairwise_append.mpr ⟨h.apart, List.pairwise_singleton _ _, ?_⟩
    intro a ha b hb
    obtain rfl := List.mem_singleton.mp hb
    exact hfree a ha
  · by_cases hp : files.resolve left.job.generated = files.resolve job.generated
    · exact .inr ⟨(id, job), by simp, hp.symm⟩
    · refine (h.emptied left hmem).imp
        (fun hnone node hl => hnone node ((hother _ hp node).mp hl)) ?_
      rintro ⟨entry, hmem, he⟩
      exact ⟨entry, List.mem_append_left _ hmem, he⟩

theorem leave (before : List (JobId × Job)) {after : List (JobId × Job)} {id : JobId} {next : Nat}
    (h : Tidy gone ⟨before ++ (id, job) :: after, next⟩ files) :
    Tidy (⟨job, (before ++ after).map (·.2)⟩ :: gone) ⟨before ++ after, next⟩
      (files.discard job.generated) := by
  have hn := h.ordinary.noLinks
  have ht := Files.discard_trimmed hn job.generated
  have hresolve := fun path => Files.resolve_congr ht.cwd path
  obtain ⟨executable, hx⟩ := (h.held (id, job) (by simp)).onDisk
  have hempty (path : String) (hp : files.resolve path = files.resolve job.generated)
      (node : Node) : (files.discard job.generated).lookup path ≠ .ok node := by
    intro hl
    have hnode := ((Files.lookup_eq_ok_iff (ht.noLinks hn)).mp hl).2
    rw [hresolve, hp, Files.node?_discard hn hx] at hnode
    cases hnode
  obtain ⟨hothers, hapart⟩ :=
    List.pairwise_cons.mp ((List.pairwise_middle fun hab => hab.symm).mp h.apart)
  have hsub : ∀ entry ∈ before ++ after, entry ∈ before ++ (id, job) :: after := by
    intro entry hmem
    simp only [List.mem_append, List.mem_cons] at hmem ⊢
    exact hmem.imp_right .inr
  refine ⟨h.ordinary.trimmed ht, fun entry hmem => ?_,
    fun entry hmem => h.numbered entry (hsub entry hmem), ?_, fun left hmem => ?_,
    fun left hmem other hother => ?_⟩
  · have hne := (hothers entry hmem).symm
    exact (h.held entry (hsub entry hmem)).of_lookup fun node => ht.lookup_iff hn hne
  · simpa only [hresolve] using hapart
  · rcases List.mem_cons.mp hmem with rfl | hmem
    · exact .inl (hempty _ rfl)
    · rcases h.emptied left hmem with hnone | ⟨entry, he, hp⟩
      · exact .inl fun node hl => hnone node (ht.lookup_of_lookup hn hl)
      · have hcases : entry = (id, job) ∨ entry ∈ before ++ after := by
          simp only [List.mem_append, List.mem_cons] at he ⊢
          rcases he with he | he | he
          · exact .inr (.inl he)
          · exact .inl he
          · exact .inr (.inr he)
        rcases hcases with rfl | he
        · exact .inl (hempty _ hp.symm)
        · exact .inr ⟨entry, he, by rw [hresolve, hresolve, hp]⟩
  · rw [hresolve, hresolve]
    rcases List.mem_cons.mp hmem with rfl | hmem
    · obtain ⟨entry, he, rfl⟩ := List.mem_map.mp hother
      exact (hothers entry he).symm
    · exact h.stayed left hmem other hother

theorem mono {fewer : List Departure} (h : Tidy gone roster files)
    (hsub : ∀ left ∈ fewer, ∃ old ∈ gone, old.job = left.job ∧ left.stayed ⊆ old.stayed) :
    Tidy fewer roster files := by
  refine ⟨h.ordinary, h.held, h.numbered, h.apart, fun left hmem => ?_,
    fun left hmem other hother => ?_⟩
  · obtain ⟨old, hold, hjob, -⟩ := hsub left hmem
    exact hjob ▸ h.emptied old hold
  · obtain ⟨old, hold, hjob, hstayed⟩ := hsub left hmem
    exact hjob ▸ h.stayed old hold other (hstayed hother)

/-! ## Places that no job has -/

theorem debugName_free (h : Tidy gone roster files) (dir : String) :
    ∀ entry ∈ roster.entries, files.resolve entry.2.generated ≠
      files.resolve (Path.join dir (Job.debugName roster.next)) := fun entry hmem =>
  (h.held entry hmem).named.resolve_ne (Nat.ne_of_lt (h.numbered entry hmem)) files dir

theorem object_free (h : Tidy gone roster files) {stem : String} (hs : Job.IsStem stem)
    (dir : String) : ∀ entry ∈ roster.entries, files.resolve entry.2.generated ≠
      files.resolve (Path.join dir (stem ++ ".obj")) := by
  intro entry hmem heq
  obtain ⟨place, own, hg, hown⟩ := (h.held entry hmem).named.isStem
  have hlast := congrArg List.getLast? heq
  rw [hg, Files.resolve_join files hown.isName_source,
    Files.resolve_join files hs.isName_object] at hlast
  have hend := congrArg List.getLast? (Text.Utf8.encode_inj (Option.some.inj hlast))
  have hsource : Job.suffix.toList = ['.', 'c', 'x', 'i'] ++ ['r'] := by decide
  have hobject : ".obj".toList = ['.', 'o', 'b'] ++ ['j'] := by decide
  rw [String.toList_append, String.toList_append, hsource, hobject, ← List.append_assoc,
    ← List.append_assoc, List.getLast?_concat, List.getLast?_concat] at hend
  exact absurd hend (by decide)

theorem vacant_free (h : Tidy gone roster files) {location : Location}
    (hx : files.node? location = none) :
    ∀ entry ∈ roster.entries, files.resolve entry.2.generated ≠ location := by
  rintro entry hmem rfl
  obtain ⟨executable, hl⟩ := (h.held entry hmem).onDisk
  rw [((Files.lookup_eq_ok_iff h.ordinary.noLinks).mp hl).2] at hx
  cases hx

/-! ## The operations -/

/-- An order is put on disk under the number of its job. A fixed name must not be in use. -/
theorem created {order : Order} {index next : Nat} {work : Workspace} {outcome : Except Fault Job}
    (h : Tidy gone roster work.files) (hid : index < next) (hnext : roster.next ≤ next)
    (hfree : Job.isInspectable order = true → ∀ entry ∈ roster.entries,
      work.files.resolve entry.2.generated ≠
        work.files.resolve (Path.join order.workingDir (Job.debugName index)))
    (hc : Job.Created order index work outcome files') :
    (∃ job, outcome = .ok job ∧ job.order = order ∧ job.Named ⟨index⟩ ∧
      Tidy gone ⟨roster.entries ++ [(⟨index⟩, job)], next⟩ files') ∨
      ∃ fault, outcome = .error fault ∧ Tidy gone roster files' := by
  have hn := h.ordinary.noLinks
  have hplain : work.files.Plain (Path.join order.workingDir (Job.debugName index)) := by
    refine hn.plain (h.ordinary.plain _ index ?_)
    rw [Job.debugName_eq]
    exact Files.resolve_join work.files (Job.isStem_debugStem index).isName_source order.workingDir
  cases hc with
  | @temporary _ path _ _ _ _ hp hc =>
    obtain ⟨hr, hx, rfl⟩ := Files.create_eq_some hn hc
    have hnamed : Job.Named ⟨index⟩ ⟨order, path, some .temporary⟩ :=
      ⟨_, Job.tempStem _, hp, .inr ⟨_, rfl⟩⟩
    have hdir : work.files.node? (work.files.resolve path) ≠ some .dir := by simp [hx]
    exact .inl ⟨_, rfl, rfl, hnamed,
      h.enter _ rfl hnamed hid hnext hr hdir (h.vacant_free hx) false⟩
  | @fixed path _ hi hp hw =>
    subst hp
    have hnamed : Job.Named ⟨index⟩
        ⟨order, Path.join order.workingDir (Job.debugName index), some .fixed⟩ :=
      ⟨order.workingDir, Job.debugStem index, by rw [← Job.debugName_eq], .inl rfl⟩
    obtain ⟨hr, hdir, executable, rfl⟩ := Files.write_eq_ok hn hplain hw
    exact .inl ⟨_, rfl, rfl, hnamed, h.enter _ rfl hnamed hid hnext hr hdir (hfree hi) executable⟩
  | refused => exact .inr ⟨_, rfl, h⟩
  | unwritten hi hp hw =>
    subst hp
    exact .inr ⟨_, rfl, h.trimmed (Files.write_eq_error hn hplain hw) (hfree hi)⟩

theorem discardAll {work : Workspace} (h : Tidy gone roster work.files) :
    Tidy (roster.jobs.map (⟨·, []⟩) ++ gone) {} (Job.discardAll roster.jobs work).files := by
  obtain ⟨entries, next⟩ := roster
  induction entries generalizing gone work with
  | nil => exact ⟨h.ordinary, by simp, by simp, .nil, h.emptied, h.stayed⟩
  | cons entry rest ih =>
    have hleft : Tidy (⟨entry.2, rest.map (·.2)⟩ :: gone) ⟨rest, next⟩
        (entry.2.discard work).files := by
      rw [Job.files_discard, if_pos (h.held entry (by simp)).live]
      exact leave [] h
    refine (ih hleft).mono fun left hmem => ?_
    rw [Roster.jobs, List.map_cons, List.map_cons, List.cons_append, List.mem_cons,
      List.mem_append] at hmem
    rcases hmem with rfl | hmem | hmem
    · exact ⟨⟨entry.2, rest.map (·.2)⟩, by simp, rfl, List.nil_subset _⟩
    · exact ⟨left, List.mem_append_left _ hmem, rfl, List.Subset.refl _⟩
    · exact ⟨left, by simp [hmem], rfl, List.Subset.refl _⟩

/-! ## What it says of the files -/

theorem jobs_apart (h : Tidy gone roster files) :
    roster.jobs.Pairwise fun a b => a.generated ≠ b.generated ∧
      files.locate a.generated true ≠ files.locate b.generated true := by
  have hapart : roster.jobs.Pairwise fun a b =>
      files.resolve a.generated ≠ files.resolve b.generated :=
    List.pairwise_map.mpr h.apart
  refine hapart.imp_of_mem fun {a b} ha hb hne => ?_
  refine ⟨fun heq => hne (congrArg _ heq), fun heq => hne ?_⟩
  rw [h.locate ha, h.locate hb] at heq
  exact Except.ok.inj heq

/-- What is found at the path of a job that left belongs to a job entered since. -/
theorem departed (h : Tidy gone roster files) {left : Departure} (hmem : left ∈ gone) :
    files.pathExists left.job.generated = false ∨
      ∃ owner ∈ roster.jobs, owner ∉ left.stayed ∧
        files.locate owner.generated true = files.locate left.job.generated true := by
  cases hexists : files.pathExists left.job.generated with
  | false => exact .inl rfl
  | true =>
    obtain ⟨node, hl⟩ := Files.pathExists_eq_true_iff.mp hexists
    have hn := h.ordinary.noLinks
    have hreach := ((Files.lookup_eq_ok_iff hn).mp hl).1
    rcases h.emptied left hmem with hnone | ⟨entry, he, hsame⟩
    · exact absurd hl (hnone node)
    · have howner : entry.2 ∈ roster.jobs := List.mem_map_of_mem he
      refine .inr ⟨entry.2, howner, fun hstayed => h.stayed left hmem _ hstayed hsame, ?_⟩
      rw [h.locate howner, hsame, (Files.locate_eq_ok_iff hn).mpr ⟨hreach, rfl⟩]

end Tidy

theorem Roster.take_cases {roster rest : Roster} {id : JobId} {job : Job}
    (h : roster.take id = some (job, rest)) :
    ∃ before after, roster.entries = before ++ (id, job) :: after ∧
      rest = ⟨before ++ after, roster.next⟩ := by
  unfold take get? at h
  simp only [Option.map_map, Option.map_eq_some_iff, Function.comp_apply, Prod.mk.injEq] at h
  obtain ⟨⟨found, own⟩, hfind, rfl, rfl⟩ := h
  obtain ⟨hid, before, after, he, hbefore⟩ := List.find?_eq_some_iff_append.mp hfind
  obtain rfl : found = id := by simpa using hid
  refine ⟨before, after, he, ?_⟩
  rw [erase, he, List.eraseP_append_right]
  · simp
  · intro entry hmem
    simpa using hbefore entry hmem

/-! ## Processes that leave sources alone -/

/-- Every command of a row, started on what the one before it left, does to the files what is
allowed. -/
def Harmless (allowed : Files → Files → Prop) (runner : Runner σ) :
    Files → σ → List Command → Prop
  | _, _, [] => True
  | files, hand, command :: rest =>
    let (reply, hand) := runner.start command files hand
    allowed files reply.files ∧ Harmless allowed runner reply.files hand rest

theorem harmless_of_idle {runner : Runner σ}
    (hi : ∀ command files hand, (runner.start command files hand).1.files = files)
    (ho : Ordinary files) (paths : List String) (hand : σ) (commands : List Command) :
    Harmless (Spares paths) runner files hand commands := by
  induction commands generalizing hand with
  | nil => trivial
  | cons command rest ih =>
    simp only [Harmless, hi]
    exact ⟨⟨rfl, ho, fun _ _ _ => Iff.rfl⟩, ih _⟩

theorem Ran.keeps {runner : Runner σ} {keep : Files → Prop} {allowed : Files → Files → Prop}
    (hkeep : ∀ files files', keep files → allowed files files' → keep files')
    (hran : Ran runner files hand trace files' hand')
    (hh : Harmless allowed runner files hand (trace.map (·.command))) (hk : keep files) :
    (∀ call ∈ trace, keep call.files) ∧ keep files' := by
  induction hran with
  | done => exact ⟨by simp, hk⟩
  | next hs _ ih =>
    simp only [List.map_cons, Harmless, hs] at hh
    obtain ⟨hrest, hend⟩ := ih hh.2 (hkeep _ _ hk hh.1)
    exact ⟨List.forall_mem_cons.mpr ⟨hk, hrest⟩, hend⟩

namespace Build

def callsSince (earlier build : Build σ) : List Call :=
  build.machine.calls.drop earlier.machine.calls.length

/-- The processes that compiling a job starts leave alone all sources there ever were. -/
def Undisturbed (gone : List Departure) (build : Build σ) (runner : Runner σ) (id : JobId) :
    Prop :=
  Harmless (Spares (sources gone build.roster)) runner build.files build.machine.hand
    ((build.callsSince (build.compileJob runner id).2).map (·.command))

theorem Ended.callsSince {runner : Runner σ} {build build' : Build σ} {files : Files}
    (h : Ended runner build job trace files added native build') :
    build.callsSince build' = trace := by
  rw [Build.callsSince, h.calls, List.drop_left]

theorem Compiled.ended {runner : Runner σ} {build build' : Build σ}
    {outcome : Except Fault Report} (h : Compiled runner build job trace outcome build') :
    ∃ files added native, Ended runner build job trace files added native build' ∧
      (native = true → ∃ call ∈ trace, call.command.script.isSome = true) := by
  have hscript {toolchain : Toolchain} {call : Call}
      (hc : (build.assembly job toolchain).command = .ok call.command) :
      call.command.script = toolchain.script := by
    rw [Assembly.command_eq] at hc
    rw [← Except.ok.inj hc]
    rfl
  cases h with
  | notSelected hs he => exact ⟨_, _, _, he, fun h => nomatch h⟩
  | notStarted hs hc hr he =>
    exact ⟨_, _, _, he, fun h => ⟨_, List.mem_concat_self, hscript hc ▸ h⟩⟩
  | finished hs hc hr he =>
    exact ⟨_, _, _, he, fun h => ⟨_, List.mem_concat_self, hscript hc ▸ h⟩⟩

theorem mem_objectPaths {dir stem path : String}
    (hg : job.generated = Path.join dir (stem ++ Job.suffix)) (hs : Job.IsStem stem) :
    path ∈ objectPaths job ↔ ∃ place, (place = job.order.workingDir ∨
      Path.parent? job.order.output = some place ∧ place ≠ "") ∧
      path = Path.join place (stem ++ ".obj") := by
  unfold objectPaths
  rw [hg, Path.fileName?_join hs.isName_source]
  simp only [hs.withExtension_source, List.mem_map, List.mem_cons, Option.mem_toList,
    Option.filter_eq_some_iff]
  refine exists_congr fun place =>
    and_congr (or_congr Iff.rfl (and_congr_right fun _ => ?_)) eq_comm
  simp

def TidiedPlaces (files : Files) (job : Job) (native : Bool) (location : Location) : Prop :=
  location = files.resolve job.generated ∨
    native = true ∧ ∃ path ∈ objectPaths job, location = files.resolve path

theorem swept_trimmed {files : Files} (hn : files.NoLinks) (job : Job) (native : Bool) :
    Files.Trimmed (fun location => native = true ∧ ∃ path ∈ objectPaths job,
      location = files.resolve path) files
      (if native then (objectPaths job).foldl Files.sweep files else files) := by
  cases native with
  | false => exact .refl
  | true => exact (Files.sweepAll_trimmed hn _).mono fun _ h => ⟨rfl, h⟩

theorem tidied_trimmed {files : Files} (hn : files.NoLinks) (job : Job) (native : Bool) :
    Files.Trimmed (TidiedPlaces files job native) files (tidied job native files) := by
  have hswept := swept_trimmed hn job native
  unfold tidied
  generalize (if native then (objectPaths job).foldl Files.sweep files else files) = swept at *
  refine Files.Trimmed.trans (hswept.mono fun _ h => .inr h) ?_
  dsimp only
  split
  · refine (Files.discard_trimmed (hswept.noLinks hn) _).mono ?_
    rintro location rfl
    exact .inl (Files.resolve_congr hswept.cwd _)
  · exact .refl

theorem tidy_tidied {files : Files} {before after : List (JobId × Job)} {id : JobId} {next : Nat}
    (h : Tidy gone ⟨before ++ (id, job) :: after, next⟩ files) (native : Bool) :
    Tidy (⟨job, (before ++ after).map (·.2)⟩ :: gone) ⟨before ++ after, next⟩
      (tidied job native files) := by
  have hheld := h.held (id, job) (by simp)
  obtain ⟨dir, stem, hg, hs⟩ := hheld.named.isStem
  have hswept := h.trimmed (swept_trimmed h.ordinary.noLinks job native) (by
    rintro entry hmem ⟨-, path, hpath, heq⟩
    obtain ⟨place, -, rfl⟩ := (mem_objectPaths hg hs).mp hpath
    exact h.object_free hs place entry hmem heq)
  dsimp only [tidied]
  rw [if_pos hheld.live]
  exact Tidy.leave before hswept

/-- What a compile from a tidy build does: every call finds all sources, and then the job is tidied
up after and nothing else. -/
structure CompiledTidily (gone : List Departure) (runner : Runner σ) (build : Build σ) (job : Job)
    (trace : List Call) (files : Files) (native : Bool) (build' : Build σ) : Prop where
  calls : build'.machine.calls = build.machine.calls ++ trace
  ran : Ran runner build.files build.machine.hand trace files build'.machine.hand
  script : native = true → ∃ call ∈ trace, call.command.script.isSome = true
  during : ∀ call ∈ trace, Tidy gone build.roster call.files
  trimmed : Files.Trimmed (TidiedPlaces files job native) files build'.files
  after : Tidy (⟨job, build'.roster.jobs⟩ :: gone) build'.roster build'.files

theorem compileJob_tidy {build : Build σ} {runner : Runner σ} {id : JobId} {rest : Roster}
    (h : Tidy gone build.roster build.files) (ht : build.roster.take id = some (job, rest))
    (hu : build.Undisturbed gone runner id) :
    (build.compileJob runner id).2.roster = rest ∧ ∃ trace files native,
      CompiledTidily gone runner build job trace files native (build.compileJob runner id).2 := by
  obtain ⟨before, after, he, rfl⟩ := Roster.take_cases ht
  have hjob : build.compileJob runner id =
      { build with roster := ⟨before ++ after, build.roster.next⟩ }.compile runner job := by
    rw [compileJob, ht]
  unfold Undisturbed at hu
  rw [hjob] at hu ⊢
  obtain ⟨trace, hc⟩ := compile_cases
    { build with roster := ⟨before ++ after, build.roster.next⟩ } runner job
  obtain ⟨files, added, native, hended, hnative⟩ := hc.ended
  rw [show build.callsSince _ = trace from hended.callsSince] at hu
  obtain ⟨hcalls, hfiles⟩ := hended.ran.keeps (fun _ _ hk hs => Tidy.spared hk hs) hu h
  refine ⟨hended.roster, trace, files, native, hended.calls, hended.ran, hnative, hcalls, ?_, ?_⟩
  · rw [hended.left]
    exact tidied_trimmed hfiles.ordinary.noLinks job native
  · have hroster : build.roster = ⟨before ++ (id, job) :: after, build.roster.next⟩ := by rw [← he]
    rw [hroster] at hfiles
    rw [hended.left, hended.roster]
    exact tidy_tidied hfiles native

/-! ## Whole runs -/

/-- The builds that any number of operations lead to, with the departures on the way. -/
inductive Reached (start : Build σ) : List Departure → Build σ → Prop
  | new : Reached start [] start
  | add (hr : Reached start gone build) (order : Order) :
    Reached start gone (build.addUnit order).2
  | compile (hr : Reached start gone build) (runner : Runner σ) (id : JobId)
      (hu : build.Undisturbed gone runner id) :
    Reached start ((build.roster.get? id).toList.map (⟨·, (build.roster.erase id).jobs⟩) ++ gone)
      (build.compileJob runner id).2
  | reset (hr : Reached start gone build) :
    Reached start (build.roster.jobs.map (⟨·, []⟩) ++ gone) build.reset

theorem addUnit_cases {build : Build σ} (h : Tidy gone build.roster build.files) (order : Order) :
    Tidy gone (build.addUnit order).2.roster (build.addUnit order).2.files ∧
      ∀ id, (build.addUnit order).1 = .ok id → ∃ job, job.order = order ∧
        (build.addUnit order).2.roster.entries = build.roster.entries ++ [(id, job)] := by
  have hc := Job.create_cases order build.roster.next build.machine.work
  unfold addUnit Roster.create
  generalize Job.create order build.roster.next build.machine.work = made at hc
  obtain ⟨outcome, work⟩ := made
  have hfree := h.debugName_free order.workingDir
  rcases h.created (Nat.lt_succ_self _) (Nat.le_succ _) (fun _ => hfree) hc with
    ⟨job, rfl, hj, -, htidy⟩ | ⟨fault, rfl, htidy⟩
  · refine ⟨htidy, fun id hid => ⟨job, hj, ?_⟩⟩
    cases hid
    rfl
  · exact ⟨htidy, fun id hid => nomatch hid⟩

theorem Reached.tidy {start build : Build σ} (hnew : start.roster = {})
    (ho : Ordinary start.files) (hr : Reached start gone build) :
    Tidy gone build.roster build.files := by
  induction hr with
  | new =>
    rw [hnew]
    exact ⟨ho, by simp, by simp, .nil, by simp, by simp⟩
  | add _ order ih => exact (addUnit_cases ih order).1
  | @compile gone build _ runner id hu ih =>
    cases ht : build.roster.take id with
    | none =>
      have hget : build.roster.get? id = none := by simpa [Roster.take] using ht
      have hstay : (build.compileJob runner id).2 = build := by rw [compileJob, ht]
      rw [hget, hstay]
      exact ih
    | some taken =>
      obtain ⟨job, rest⟩ := taken
      obtain ⟨hroster, _, _, _, hc⟩ := compileJob_tidy ih ht hu
      simp only [Roster.take, Option.map_eq_some_iff, Prod.mk.injEq] at ht
      obtain ⟨_, hget, rfl, rfl⟩ := ht
      rw [hget, ← hroster]
      exact hc.after
  | reset _ ih => exact Tidy.discardAll ih

/-- Over every run, the source of each job is there from the moment the job is entered, with the
text of its order and in a place of its own, and gone once the job has left, unless a job entered
since (it was not among those that stayed) has that place. All calls of a compile find all sources.
What a compile removes after its calls is its own source and, after the native compiler, the object
files of that name. -/
theorem sources_lifecycle {start build : Build σ} (hnew : start.roster = {})
    (ho : Ordinary start.files) (hr : Reached start gone build) :
    (∀ job ∈ build.roster.jobs, job.isLive = true ∧ OnDisk build.files job) ∧
    build.roster.jobs.Pairwise (fun a b => a.generated ≠ b.generated ∧
      build.files.locate a.generated true ≠ build.files.locate b.generated true) ∧
    (∀ left ∈ gone, build.files.pathExists left.job.generated = false ∨
      ∃ owner ∈ build.roster.jobs, owner ∉ left.stayed ∧
        build.files.locate owner.generated true = build.files.locate left.job.generated true) ∧
    (∀ order id, (build.addUnit order).1 = .ok id → ∃ job, job.order = order ∧
      (build.addUnit order).2.roster.entries = build.roster.entries ++ [(id, job)]) ∧
    ∀ runner id job, build.roster.get? id = some job → build.Undisturbed gone runner id →
      ∃ trace files,
        (build.compileJob runner id).2.machine.calls = build.machine.calls ++ trace ∧
        Ran runner build.files build.machine.hand trace files
          (build.compileJob runner id).2.machine.hand ∧
        (∀ call ∈ trace, ∀ unit ∈ build.roster.jobs, OnDisk call.files unit) ∧
        (∀ other ∈ (build.roster.erase id).jobs,
          OnDisk (build.compileJob runner id).2.files other) ∧
        ∃ stem, Path.fileName? job.generated = some (stem ++ ".cxir") ∧
          ∀ location, (build.compileJob runner id).2.files.node? location = files.node? location ∨
            (build.compileJob runner id).2.files.node? location = none ∧
              (location = files.resolve job.generated ∨
                (∃ call ∈ trace, call.command.script.isSome = true) ∧
                  ∃ dir, (dir = job.order.workingDir ∨
                    Path.parent? job.order.output = some dir ∧ dir ≠ "") ∧
                    location = files.resolve (Path.join dir (stem ++ ".obj"))) := by
  have h := hr.tidy hnew ho
  refine ⟨h.onDisk, h.jobs_apart, fun _ => h.departed, fun order => (addUnit_cases h order).2, ?_⟩
  intro runner id job hget hu
  have ht : build.roster.take id = some (job, build.roster.erase id) := by
    rw [Roster.take, hget, Option.map_some]
  obtain ⟨hroster, trace, files, native, hc⟩ := compileJob_tidy h ht hu
  obtain ⟨before, after, he, -⟩ := Roster.take_cases ht
  obtain ⟨dir, stem, hg, hs⟩ := (h.held (id, job) (by simp [he])).named.isStem
  refine ⟨trace, files, hc.calls, hc.ran, fun call hmem unit hunit => ?_, fun other hother => ?_,
    stem, ?_, fun location => (hc.trimmed.nodes location).imp_right ?_⟩
  · exact ((hc.during call hmem).onDisk unit hunit).2
  · exact (hc.after.onDisk other (hroster ▸ hother)).2
  · rw [hg]
    exact Path.fileName?_join hs.isName_source dir
  · rintro ⟨hplace | ⟨hnative, path, hpath, hplace⟩, hempty, -⟩
    · exact ⟨hempty, .inl hplace⟩
    · obtain ⟨place, hdir, rfl⟩ := (mem_objectPaths hg hs).mp hpath
      exact ⟨hempty, .inr ⟨hc.script hnative, place, hdir, hplace⟩⟩

end Build

namespace Sample

def order : Order := ⟨"int x;", "/a.cx", "/a", "/", "", [], ⟨true, true⟩, {}⟩

def added : Build Unit := (build.addUnit order).2

def compiled : Build Unit := (added.compileJob (runner output) ⟨0⟩).2

theorem ordinary_build : Ordinary build.files := by
  refine ordinary_of_nodes fun entry hmem => ?_
  obtain ⟨name, -, rfl⟩ := List.mem_map.mp hmem
  exact ⟨_, _, rfl⟩

end Sample

theorem Build.sources_lifecycle_debug_source :
    Sample.build.roster = {} ∧ Ordinary Sample.build.files ∧
      Sample.added.Undisturbed [] (Sample.runner Sample.output) ⟨0⟩ ∧
      ∃ job, Reached Sample.build [⟨job, []⟩] Sample.compiled ∧
        job.generated = "/IR.temp.debug.verbose.cxir" ∧
        Sample.compiled.files.pathExists job.generated = false := by
  have ho := Sample.ordinary_build
  have hadd : Reached Sample.build [] Sample.added := Reached.new.add Sample.order
  have hu : Sample.added.Undisturbed [] (Sample.runner Sample.output) ⟨0⟩ :=
    harmless_of_idle (fun _ _ _ => rfl) (hadd.tidy rfl ho).ordinary _ _ _
  have hname : (Sample.added.roster.get? ⟨0⟩).map (·.generated) =
      some "/IR.temp.debug.verbose.cxir" := by decide +kernel
  obtain ⟨job, hget, hgenerated⟩ := Option.map_eq_some_iff.mp hname
  have hdone : Reached Sample.build [⟨job, []⟩] Sample.compiled := by
    have hcompile := hadd.compile (Sample.runner Sample.output) ⟨0⟩ hu
    have hrest : (Sample.added.roster.erase ⟨0⟩).jobs.isEmpty = true := by decide +kernel
    rwa [hget, List.isEmpty_iff.mp hrest] at hcompile
  refine ⟨rfl, ho, hu, job, hdone, hgenerated, ?_⟩
  have hempty : Sample.compiled.roster.jobs.isEmpty = true := by decide +kernel
  obtain ⟨-, -, hgone, -⟩ := sources_lifecycle rfl ho hdone
  rcases hgone ⟨job, []⟩ List.mem_cons_self with h | ⟨owner, hmem, -⟩
  · exact h
  · rw [List.isEmpty_iff.mp hempty] at hmem
    cases hmem

namespace Sample

def firstName : Location := [Text.Utf8.encode (Job.debugName 0).toList]

/-- A device has the fixed name of the first job. -/
def haunted : Build Unit :=
  build.withWork { work with files := work.files.put firstName (.device .null) }

theorem noLinks_haunted : haunted.files.NoLinks := by
  have hfiles : haunted.files = work.files.put firstName (.device .null) := rfl
  intro location target h
  rw [hfiles, Files.node?_put (show firstName ≠ [] from List.cons_ne_nil _ _)] at h
  split at h
  · cases h
  · exact ordinary_build.noLinks _ _ h

end Sample

/-- What the files hold under a fixed name matters: a device swallows the source of a job, which is
entered all the same. -/
theorem Build.source_swallowed :
    Sample.haunted.roster = {} ∧ Sample.haunted.files.NoLinks ∧
      Reached Sample.haunted [] (Sample.haunted.addUnit Sample.order).2 ∧
      ∃ job ∈ (Sample.haunted.addUnit Sample.order).2.roster.jobs,
        ¬ OnDisk (Sample.haunted.addUnit Sample.order).2.files job := by
  have hswallowed : (Sample.haunted.addUnit Sample.order).2.roster.jobs.map
      (fun job => (Sample.haunted.addUnit Sample.order).2.files.lookup job.generated |>.toOption) =
      [some (.device .null)] := by decide +kernel
  obtain ⟨job, hjobs, hlookup⟩ := List.map_eq_singleton_iff.mp hswallowed
  refine ⟨rfl, Sample.noLinks_haunted, Reached.new.add _, job, by simp [hjobs], ?_⟩
  rintro ⟨executable, hfile⟩
  rw [hfile] at hlookup
  cases hlookup

end Retrace
