import Retrace.Proofs.Lifecycle

/-!
# Sources have one owner

Jobs are also made outside a roster, put into it, taken out and cleaned up in any
order. As long as no source is made under a fixed name that a live job has, every
live job is the only owner of its source. Nothing sees to that condition: fixed
names are told apart by a number that is always 0 for a job outside a roster.
-/

namespace Retrace

/-- All jobs there are: the live ones are tidy under some numbers, and even a dead one has the name
of a source. -/
structure Owned (jobs : List Job) (files : Files) : Prop where
  tidy : ∃ roster : Roster, roster.jobs.Perm (jobs.filter (·.isLive)) ∧ Tidy [] roster files
  named : ∀ job ∈ jobs, ∃ id, job.Named id

namespace Owned

variable {jobs jobs' : List Job} {files files' : Files} {job : Job}

theorem perm (h : Owned jobs files) (hp : jobs.Perm jobs') : Owned jobs' files := by
  obtain ⟨roster, hroster, ht⟩ := h.tidy
  exact ⟨⟨roster, hroster.trans (hp.filter _), ht⟩,
    fun job hmem => h.named job (hp.mem_iff.mpr hmem)⟩

/-- What is true of the place of every numbered job is true of the place of every live one. -/
theorem places {roster : Roster} (hp : roster.jobs.Perm (jobs.filter (·.isLive)))
    {place : Job → Prop} :
    (∀ entry ∈ roster.entries, place entry.2) ↔ ∀ job ∈ jobs, job.isLive = true → place job := by
  have hmem (job : Job) : job ∈ roster.jobs ↔ job ∈ jobs ∧ job.isLive = true := by
    rw [hp.mem_iff, List.mem_filter]
  constructor
  · intro h job hjob hlive
    obtain ⟨entry, hentry, rfl⟩ := List.mem_map.mp ((hmem job).mpr ⟨hjob, hlive⟩)
    exact h entry hentry
  · intro h entry hentry
    obtain ⟨hjob, hlive⟩ := (hmem entry.2).mp (List.mem_map_of_mem hentry)
    exact h entry.2 hjob hlive

theorem trimmed {lost : Location → Prop} (h : Owned jobs files)
    (ht : Files.Trimmed lost files files')
    (hp : ∀ job ∈ jobs, job.isLive = true → ¬lost (files.resolve job.generated)) :
    Owned jobs files' := by
  obtain ⟨roster, hroster, htidy⟩ := h.tidy
  exact ⟨⟨roster, hroster, htidy.trimmed ht ((Owned.places hroster).mpr hp)⟩, h.named⟩

theorem spared (h : Owned jobs files)
    (hs : Spares ((jobs.filter (·.isLive)).map (·.generated)) files files') :
    Owned jobs files' := by
  obtain ⟨roster, hroster, htidy⟩ := h.tidy
  refine ⟨⟨roster, hroster, htidy.spared ⟨hs.cwd, hs.ordinary, fun path hmem => ?_⟩⟩, h.named⟩
  exact hs.lookup path ((hroster.map _).mem_iff.mp (by simpa [sources] using hmem))

theorem created {order : Order} {index : Nat} {work : Workspace} {outcome : Except Fault Job}
    (h : Owned jobs work.files)
    (hfree : Job.isInspectable order = true → ∀ job ∈ jobs, job.isLive = true →
      work.files.resolve job.generated ≠
        work.files.resolve (Path.join order.workingDir (Job.debugName index)))
    (hc : Job.Created order index work outcome files') :
    Owned (outcome.toOption.toList ++ jobs) files' := by
  obtain ⟨roster, hroster, htidy⟩ := h.tidy
  -- any number above all others will do for the next one
  rcases htidy.created (Nat.lt_of_lt_of_le (Nat.lt_succ_self index) (Nat.le_max_right _ _))
    (Nat.le_max_left _ _) (fun hi => (Owned.places hroster).mpr (hfree hi)) hc with
    ⟨job, rfl, -, hnamed, hmade⟩ | ⟨fault, rfl, hleft⟩
  · have hlive := (hmade.held (⟨index⟩, job) (by simp)).live
    refine ⟨⟨_, ?_, hmade⟩, fun other hmem => ?_⟩
    · have hcons := (List.perm_append_singleton job roster.jobs).trans (hroster.cons job)
      simpa [Roster.jobs, Except.toOption, hlive] using hcons
    · rcases List.mem_cons.mp hmem with rfl | hmem
      · exact ⟨_, hnamed⟩
      · exact h.named other hmem
  · exact ⟨⟨roster, hroster, hleft⟩, h.named⟩

theorem release (h : Owned (job :: jobs) files) :
    Owned jobs (if job.isLive then files.discard job.generated else files) := by
  have hnamed : ∀ other ∈ jobs, ∃ id, other.Named id :=
    fun other hmem => h.named other (List.mem_cons_of_mem _ hmem)
  obtain ⟨⟨entries, next⟩, hroster, htidy⟩ := h.tidy
  cases hlive : job.isLive with
  | false => exact ⟨⟨_, by simpa [hlive] using hroster, htidy⟩, hnamed⟩
  | true =>
    rw [List.filter_cons_of_pos hlive] at hroster
    -- the numbered jobs are in another order: find the job there and cut it out
    obtain ⟨⟨id, own⟩, hmem, rfl⟩ := List.mem_map.mp (hroster.mem_iff.mpr List.mem_cons_self)
    obtain ⟨before, after, rfl⟩ := List.append_of_mem hmem
    have hrest := (List.perm_middle.map Prod.snd).symm.trans hroster
    have hleft : Tidy [] ⟨before ++ after, next⟩ (files.discard own.generated) :=
      (Tidy.leave before htidy).mono (by simp)
    exact ⟨⟨⟨before ++ after, next⟩, hrest.cons_inv, hleft⟩, hnamed⟩

theorem discardAll {work : Workspace} {gone : List Job} (h : Owned (gone ++ jobs) work.files) :
    Owned jobs (Job.discardAll gone work).files := by
  induction gone generalizing work with
  | nil => exact h
  | cons job gone ih =>
    refine ih ?_
    rw [Job.files_discard]
    exact h.release

theorem cleanup {work : Workspace} (h : Owned (job :: jobs) work.files) :
    Owned ((job.cleanup work).1 :: jobs) (job.cleanup work).2.files := by
  have hdead : (job.cleanup work).1.isLive = false ∧
      (job.cleanup work).1.generated = job.generated := by
    unfold Job.cleanup Job.isLive
    cases hc : job.custody with
    | none => simp [hc]
    | some custody => dsimp only; split <;> exact ⟨rfl, rfl⟩
  have hrest : Owned jobs (job.cleanup work).2.files := by
    rw [← Job.discard, Job.files_discard]
    exact h.release
  obtain ⟨roster, hroster, htidy⟩ := hrest.tidy
  refine ⟨⟨roster, by simpa [hdead.1] using hroster, htidy⟩,
    List.forall_mem_cons.mpr ⟨?_, hrest.named⟩⟩
  obtain ⟨id, dir, stem, hg, hstem⟩ := h.named job List.mem_cons_self
  exact ⟨id, dir, stem, hdead.2.trans hg, hstem⟩

/-- Object files have other names than sources, so sweeping them up takes no source. -/
theorem swept (h : Owned jobs files) {id : JobId} (hnamed : job.Named id) (native : Bool) :
    Owned jobs (if native then (Build.objectPaths job).foldl Files.sweep files else files) := by
  obtain ⟨roster, hroster, htidy⟩ := h.tidy
  obtain ⟨dir, stem, hg, hs⟩ := hnamed.isStem
  refine h.trimmed (Build.swept_trimmed htidy.ordinary.noLinks job native) ?_
  refine (Owned.places hroster).mp ?_
  rintro entry hmem ⟨-, path, hpath, heq⟩
  obtain ⟨place, -, rfl⟩ := (Build.mem_objectPaths hg hs).mp hpath
  exact htidy.object_free hs place entry hmem heq

end Owned

namespace Build

def Spared (build : Build σ) (runner : Runner σ) (job : Job) (jobs : List Job) : Prop :=
  Harmless (Spares ((jobs.filter (·.isLive)).map (·.generated))) runner build.files
    build.machine.hand ((build.callsSince (build.compile runner job).2).map (·.command))

theorem compile_owned {build : Build σ} {runner : Runner σ} {job : Job} {jobs : List Job}
    (h : Owned (job :: jobs) build.files) (hu : build.Spared runner job (job :: jobs)) :
    (build.compile runner job).2.roster = build.roster ∧
      Owned jobs (build.compile runner job).2.files := by
  obtain ⟨trace, hc⟩ := build.compile_cases runner job
  obtain ⟨files, added, native, hended, -⟩ := hc.ended
  rw [Spared, hended.callsSince] at hu
  obtain ⟨-, hfiles⟩ := hended.ran.keeps (fun _ _ hk hs => Owned.spared hk hs) hu h
  -- the job may be dead already, but objects are named after its source all the same
  obtain ⟨id, hnamed⟩ := h.named job List.mem_cons_self
  refine ⟨hended.roster, ?_⟩
  rw [hended.left]
  exact (hfiles.swept hnamed native).release

/-! ## Whole runs -/

def known (build : Build σ) (loose : List Job) : List Job := loose ++ build.roster.jobs

/-- If an order takes a fixed name, no live job has it. -/
def Free (build : Build σ) (loose : List Job) (order : Order) (index : Nat) : Prop :=
  Job.isInspectable order = true → ∀ job ∈ build.known loose, job.isLive = true →
    build.files.resolve job.generated ≠
      build.files.resolve (Path.join order.workingDir (Job.debugName index))

/-- The builds that any operations on rosters and jobs lead to, with the jobs held outside. -/
inductive Handled (start : Build σ) : Build σ → List Job → Prop
  | new : Handled start start []
  | detach (h : Handled start build loose) (order : Order) (hf : build.Free loose order 0) :
    Handled start (build.withWork (Job.create order 0 build.machine.work).2)
      ((Job.create order 0 build.machine.work).1.toOption.toList ++ loose)
  | add (h : Handled start build loose) (order : Order)
      (hf : build.Free loose order build.roster.next) : Handled start (build.addUnit order).2 loose
  | insert (before : List Job) {job : Job} (h : Handled start build (before ++ job :: after)) :
    Handled start { build with roster := (build.roster.insert job).2 } (before ++ after)
  | take {id : JobId} (h : Handled start build loose)
      (ht : build.roster.take id = some (job, rest)) :
    Handled start { build with roster := rest } (job :: loose)
  | cleanup (before : List Job) (h : Handled start build (before ++ job :: after)) :
    Handled start (build.withWork (job.cleanup build.machine.work).2)
      (before ++ (job.cleanup build.machine.work).1 :: after)
  | drop (before : List Job) (h : Handled start build (before ++ job :: after)) :
    Handled start (build.withWork (job.discard build.machine.work)) (before ++ after)
  | compile (before : List Job) (h : Handled start build (before ++ job :: after))
      (runner : Runner σ) (hu : build.Spared runner job (job :: build.known (before ++ after))) :
    Handled start (build.compile runner job).2 (before ++ after)
  | clear (h : Handled start build loose) : Handled start build.reset loose

variable {start build : Build σ} {loose : List Job}

theorem addUnit_owned {order : Order} (h : Owned (build.known loose) build.files)
    (hf : build.Free loose order build.roster.next) :
    Owned ((build.addUnit order).2.known loose) (build.addUnit order).2.files := by
  have hmade := h.created hf (Job.create_cases order build.roster.next build.machine.work)
  unfold addUnit Roster.create
  generalize Job.create order build.roster.next build.machine.work = made at hmade
  obtain ⟨fault | job, work⟩ := made
  · exact hmade
  · refine hmade.perm ?_
    simpa [Except.toOption, Roster.insert, Roster.jobs, withWork, known] using
      (List.perm_append_singleton job (loose ++ build.roster.jobs)).symm

theorem Handled.owned (hnew : start.roster = {}) (ho : Ordinary start.files)
    (h : Handled start build loose) : Owned (build.known loose) build.files := by
  -- every operation on a job held outside first brings that job to the front
  have hfront {before after others : List Job} {job : Job} :
      (before ++ job :: after ++ others).Perm (job :: (before ++ after ++ others)) := by
    rw [List.append_assoc, List.append_assoc]
    exact List.perm_middle
  induction h with
  | new =>
    rw [known, hnew]
    exact ⟨⟨{}, .refl _, ho, by simp, by simp, .nil, by simp, by simp⟩, by simp [Roster.jobs]⟩
  | @detach build loose _ order hf ih =>
    rw [known, List.append_assoc]
    exact ih.created hf (Job.create_cases order 0 build.machine.work)
  | add _ order hf ih => exact addUnit_owned ih hf
  | @insert build after before job _ ih =>
    refine ih.perm (hfront.trans ?_)
    simpa [known, Roster.insert, Roster.jobs] using
      (List.perm_append_singleton job (before ++ after ++ build.roster.jobs)).symm
  | @take build loose job rest id _ ht ih =>
    obtain ⟨front, back, he, rfl⟩ := Roster.take_cases ht
    refine ih.perm ?_
    simp only [known, Roster.jobs, he, List.map_append, List.map_cons]
    rw [← List.append_assoc, List.cons_append, ← List.append_assoc]
    exact List.perm_middle
  | cleanup before _ ih => exact (ih.perm hfront).cleanup.perm hfront.symm
  | @drop build job after before _ ih =>
    have hfiles := Job.files_discard job build.machine.work
    have hrest := (ih.perm hfront).release
    rwa [show (if job.isLive then build.files.discard job.generated else build.files) = _ from
      hfiles.symm] at hrest
  | @compile build job after before _ runner hu ih =>
    obtain ⟨hroster, hrest⟩ := compile_owned (ih.perm hfront) hu
    rw [known, hroster]
    exact hrest
  | @clear build loose _ ih =>
    have hnone : build.reset.known loose = loose := List.append_nil _
    rw [hnone]
    exact (ih.perm List.perm_append_comm).discardAll

/-- Over every run in which no fixed name is taken from a live job, the source of every live job is
on disk with the text of its order, and no two live jobs have one path or one place. The fixed name
of a number that no live job has is free. A new job has the place of a live one exactly if it takes
its fixed name; temporary names are never shared. -/
theorem sources_exclusive (hnew : start.roster = {}) (ho : Ordinary start.files)
    (hh : Handled start build loose) :
    (∀ job ∈ build.known loose, job.isLive = true → OnDisk build.files job) ∧
    ((build.known loose).filter (·.isLive)).Pairwise (fun a b => a.generated ≠ b.generated ∧
      build.files.locate a.generated true ≠ build.files.locate b.generated true) ∧
    (∀ order index, (∀ job ∈ build.known loose, job.isLive = true →
      ∃ id : JobId, id.index ≠ index ∧ job.Named id) → build.Free loose order index) ∧
    ∀ order index job, (Job.create order index build.machine.work).1 = .ok job →
      (build.Free loose order index ↔ ∀ other ∈ build.known loose, other.isLive = true →
        build.files.resolve other.generated ≠ build.files.resolve job.generated) := by
  have h := hh.owned hnew ho
  obtain ⟨roster, hroster, htidy⟩ := h.tidy
  refine ⟨?_, ?_, fun order index hnumber _ job hmem hlive => ?_, fun order index job hmade => ?_⟩
  · exact (Owned.places hroster).mp fun entry hmem => (htidy.held entry hmem).onDisk
  · refine (hroster.pairwise_iff ?_).mp htidy.jobs_apart
    exact fun hne => ⟨hne.1.symm, hne.2.symm⟩
  · obtain ⟨id, hne, hnamed⟩ := hnumber job hmem hlive
    exact hnamed.resolve_ne hne build.files order.workingDir
  · have hc := Job.create_cases order index build.machine.work
    rw [hmade] at hc
    generalize (Job.create order index build.machine.work).2.files = files' at hc
    cases hc with
    | temporary hi hd hp hc =>
      -- a temporary name is taken only where nothing is
      obtain ⟨-, hx, -⟩ := Files.create_eq_some htidy.ordinary.noLinks hc
      refine ⟨fun _ => ?_, fun _ hyes => by simp [hyes] at hi⟩
      exact (Owned.places hroster).mp fun entry hmem => htidy.vacant_free hx entry hmem
    | fixed hi hp hw =>
      subst hp
      exact ⟨fun hfree => hfree hi, fun hfree _ => hfree⟩

end Build

namespace Sample

def made : Except Fault Job × Workspace := Job.create order 0 work

def remade : Except Fault Job × Workspace := Job.create { order with text := "int y;" } 0 made.2

def detached : Job := made.1.toOption.get (by decide +kernel)

def redone : Job := remade.1.toOption.get (by decide +kernel)

def entered : Build Unit :=
  { build.withWork made.2 with roster := (build.roster.insert detached).2 }

end Sample

theorem Build.sources_exclusive_same_order :
    Sample.build.roster = {} ∧ Ordinary Sample.build.files ∧
      Handled Sample.build (Sample.entered.addUnit Sample.order).2 [] ∧
      (Sample.entered.addUnit Sample.order).2.roster.jobs.map (·.generated) =
        ["/IR.temp.debug.verbose.cxir", "/IR.temp.debug.verbose.1.cxir"] ∧
      ∀ job ∈ (Sample.entered.addUnit Sample.order).2.roster.jobs,
        OnDisk (Sample.entered.addUnit Sample.order).2.files job := by
  have hmade := (Handled.new : Handled Sample.build Sample.build []).detach Sample.order
    (fun _ _ hmem => nomatch hmem)
  rw [show (Job.create Sample.order 0 Sample.build.machine.work).1.toOption = some Sample.detached
    from (Option.some_get _).symm] at hmade
  have hfree : Sample.entered.Free [] Sample.order 1 := by
    unfold Free
    decide +kernel
  have hh := (hmade.insert []).add Sample.order hfree
  have hlive : ∀ job ∈ (Sample.entered.addUnit Sample.order).2.roster.jobs, job.isLive = true := by
    decide +kernel
  refine ⟨rfl, Sample.ordinary_build, hh, by decide +kernel, fun job hmem => ?_⟩
  exact (Build.sources_exclusive rfl Sample.ordinary_build hh).1 job hmem (hlive job hmem)

/-- Outside a roster every fixed name is that of number 0: a second job writes over the source of
the first, and takes it away when it is given up. -/
theorem Job.detached_sources_shared :
    Sample.made.1.toOption = some Sample.detached ∧
      Sample.remade.1.toOption = some Sample.redone ∧
      Sample.detached.isLive = true ∧ Sample.redone.isLive = true ∧
      Sample.redone.generated = Sample.detached.generated ∧
      Sample.detached.order.text = "int x;" ∧
      (Sample.remade.2.files.readText Sample.detached.generated).toOption = some "int y;" ∧
      (Sample.redone.discard Sample.remade.2).files.pathExists Sample.detached.generated = false := by
  refine ⟨(Option.some_get _).symm, (Option.some_get _).symm, ?_⟩
  decide +kernel

end Retrace
