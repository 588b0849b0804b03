import Retrace.Proofs.Lifecycle
import Retrace.Proofs.Verdict

/-!
# What a failed compile is blamed on

A compile can fail at any of up to three calls, or before the first. `Traced`
says of a list of calls how the compile that made them ended: at most the last
call went wrong, and that one is to blame. The kind of a fault can be told from
the calls, and a fault leaves the build as it was.
-/

namespace Retrace

theorem Call.result_eq_error_iff {call : Call} {fault : Fault} :
    call.result = .error fault ↔
      ∃ cause, call.outcome = .error cause ∧ fault = .notStarted call.line cause := by
  unfold result
  cases call.outcome with
  | ok completion => simp
  | error cause => simp [eq_comm]

theorem Assembly.command_ne_query (a : Assembly) : a.command ≠ .ok VisualStudio.query := by
  intro h
  rw [command_eq] at h
  have hargs : a.items.flatMap (Item.words a.family.dialect) = VisualStudio.query.args :=
    congrArg Command.args (Except.ok.inj h)
  rcases a.head?_args with hw | hw <;> rw [hargs] at hw <;> exact absurd hw (by decide)

namespace Build

variable {runner : Runner σ} {build build' : Build σ} {job : Job} {trace : List Call}

def lastAsked (build : Build σ) (job : Job) : String :=
  if build.wanted job = "" then Toolchain.generic else build.wanted job

/-- A call that does not end a compile: it started, and if it asked for a banner it got one. -/
def Passed (call : Call) : Prop :=
  ∃ completion, call.outcome = .ok completion ∧ (isProbe call = true → completion.code = 0)

/-- How the calls of a compile account for its outcome. -/
inductive Traced (build : Build σ) (job : Job) : List Call → Except Fault Report → Prop
  | noHeader (hh : build.files.isFile build.options.coreHeader = false) :
    Traced build job [] (.error (.missingRuntime build.options.coreHeader))
  | notStarted (before : List Call) (hh : build.files.isFile build.options.coreHeader = true)
      (hb : ∀ earlier ∈ before, Passed earlier) (ho : call.outcome = .error cause) :
    Traced build job (before ++ [call]) (.error (.notStarted call.line cause))
  | refused (before : List Call) (hh : build.files.isFile build.options.coreHeader = true)
      (hb : ∀ earlier ∈ before, Passed earlier)
      (hc : call.command = probe (build.lastAsked job))
      (ho : call.outcome = .ok completion) (hcode : completion.code ≠ 0) :
    Traced build job (before ++ [call])
      (.error (notFound (build.lastAsked job) completion.code))
  | finished {trace : List Call} {report : Report}
      (hh : build.files.isFile build.options.coreHeader = true)
      (hb : ∀ call ∈ trace, Passed call) : Traced build job trace (.ok report)

/-! ## From a compile to its calls -/

theorem Traced.of_probed (before : List Call) {call : Call} {fault : Fault}
    (hh : build.files.isFile build.options.coreHeader = true)
    (hb : ∀ earlier ∈ before, Passed earlier) (hc : call.command = probe (build.lastAsked job))
    (hp : probed (build.lastAsked job) call = .error fault) :
    Traced build job (before ++ [call]) (.error fault) := by
  unfold probed at hp
  split at hp
  · next hr =>
    cases hp
    obtain ⟨cause, ho, rfl⟩ := Call.result_eq_error_iff.mp hr
    exact .notStarted before hh hb ho
  · next completion hr =>
    split at hp
    · cases hp
    · next hcode =>
      cases hp
      exact .refused before hh hb hc (Call.outcome_of_result_ok hr)
        (by simpa [Completion.succeeded] using hcode)

theorem Selected.traced {fault : Fault} (h : Selected build job trace (.error fault)) :
    Traced build job trace (.error fault) := by
  generalize hchosen : (Except.error fault : Except Fault Toolchain) = chosen at h
  cases h with
  | noHeader hh =>
    cases hchosen
    exact .noHeader hh
  | asked hh hw hne hc =>
    subst hw
    have hlast : build.lastAsked job = build.wanted job := if_neg hne
    rw [← hlast] at hc hchosen
    exact Traced.of_probed [] hh (by simp) hc hchosen.symm
  | generic hh hw host hc =>
    have hlast : build.lastAsked job = Toolchain.generic := if_pos hw
    rw [← hlast] at hc hchosen
    exact Traced.of_probed [] hh (by simp) hc hchosen.symm
  | noLocator hh hw host hq hr =>
    cases hchosen
    obtain ⟨cause, ho, rfl⟩ := Call.result_eq_error_iff.mp hr
    exact Traced.notStarted [] hh (by simp) ho
  | native hh hw host hq hr hp => cases hchosen
  | fallback hh hw host hq hr hc =>
    have hlast : build.lastAsked job = Toolchain.generic := if_pos hw
    rw [← hlast] at hc hchosen
    -- the locator is no probe, so it passed whatever it exited with
    refine Traced.of_probed [_] hh ?_ hc hchosen.symm
    intro earlier hmem
    rw [List.mem_singleton.mp hmem]
    exact ⟨_, Call.outcome_of_result_ok hr, by simp [isProbe_query hq]⟩

theorem Smooth.passed {family : Family} (h : Smooth trace family) : ∀ call ∈ trace, Passed call := by
  intro call hmem
  obtain ⟨completion, ho⟩ := h.started call hmem
  exact ⟨completion, ho, fun hp => h.probed call hmem hp completion ho⟩

theorem Compiled.traced {outcome : Except Fault Report}
    (h : Compiled runner build job trace outcome build') : Traced build job trace outcome := by
  cases h with
  | notSelected hs he => exact hs.traced
  | notStarted hs hc hr he =>
    obtain ⟨hh, hsmooth⟩ := hs.of_ok
    obtain ⟨cause, ho, rfl⟩ := Call.result_eq_error_iff.mp hr
    exact .notStarted _ hh hsmooth.passed ho
  | finished hs hc hr he =>
    obtain ⟨hh, hsmooth⟩ := hs.of_ok
    refine .finished hh fun call hmem => ?_
    rcases List.mem_append.mp hmem with hmem | hmem
    · exact hsmooth.passed call hmem
    · rw [List.mem_singleton.mp hmem]
      -- the command that compiles is no probe, so it may exit with anything
      exact ⟨_, Call.outcome_of_result_ok hr, by simp [isProbe_assembly hc]⟩

/-! ## From the calls to the kind of fault -/

def Unstarted (call : Call) : Prop := ∃ cause, call.outcome = .error cause

def Refused (compiler : String) (call : Call) : Prop :=
  call.command = probe compiler ∧ ∃ completion, call.outcome = .ok completion ∧ completion.code ≠ 0

theorem Passed.not_unstarted {call : Call} (h : Passed call) : ¬Unstarted call := by
  rintro ⟨cause, ho⟩
  obtain ⟨completion, hok, -⟩ := h
  rw [ho] at hok
  cases hok

theorem Passed.not_refused {call : Call} (h : Passed call) (compiler : String) :
    ¬Refused compiler call := by
  rintro ⟨hc, completion, ho, hcode⟩
  obtain ⟨done, hok, hzero⟩ := h
  rw [ho] at hok
  obtain rfl := Except.ok.inj hok
  exact hcode (hzero (isProbe_of_command hc))

/-- Where all calls before it are no such calls, it is the last one or none. -/
theorem exists_mem_concat {p : Call → Prop} {before : List Call} (call : Call)
    (hb : ∀ earlier ∈ before, ¬p earlier) : (∃ other ∈ before ++ [call], p other) ↔ p call := by
  constructor
  · rintro ⟨other, hmem, hp⟩
    rcases List.mem_append.mp hmem with hmem | hmem
    · exact absurd hp (hb other hmem)
    · exact List.mem_singleton.mp hmem ▸ hp
  · exact fun hp => ⟨call, List.mem_concat_self, hp⟩

/-- The three kinds of faults and what each says of the calls; there is no fourth. -/
structure Classified (build : Build σ) (job : Job) (trace : List Call)
    (outcome : Except Fault Report) : Prop where
  missingRuntime : (∃ header, outcome = .error (.missingRuntime header)) ↔
    build.files.isFile build.options.coreHeader = false
  notStarted : (∃ line cause, outcome = .error (.notStarted line cause)) ↔
    ∃ call ∈ trace, Unstarted call
  toolchainNotFound : (∃ compiler reason, outcome = .error (.toolchainNotFound compiler reason)) ↔
    ∃ call ∈ trace, Refused (build.lastAsked job) call
  exhaustive : ∀ fault, outcome = .error fault →
    fault = .missingRuntime build.options.coreHeader ∨
      (∃ call ∈ trace, ∃ cause, call.outcome = .error cause ∧
        fault = .notStarted call.line cause) ∨
      ∃ call ∈ trace, ∃ completion, call.outcome = .ok completion ∧
        fault = notFound (build.lastAsked job) completion.code

theorem Traced.classified {outcome : Except Fault Report} (h : Traced build job trace outcome) :
    Classified build job trace outcome := by
  -- all calls before the last passed, so whether there is a bad one is decided by the last
  have hlast {before : List Call} (call : Call) (hb : ∀ earlier ∈ before, Passed earlier) :
      ((∃ other ∈ before ++ [call], Unstarted other) ↔ Unstarted call) ∧
        ((∃ other ∈ before ++ [call], Refused (build.lastAsked job) other) ↔
          Refused (build.lastAsked job) call) :=
    ⟨exists_mem_concat call fun earlier hmem => (hb earlier hmem).not_unstarted,
      exists_mem_concat call fun earlier hmem => (hb earlier hmem).not_refused _⟩
  cases h with
  | noHeader hh => exact ⟨by simp [hh], by simp, by simp, by simp⟩
  | @notStarted call cause before hh hb ho =>
    obtain ⟨hun, hre⟩ := hlast call hb
    refine ⟨by simp [hh], ?_, ?_, ?_⟩
    · exact ⟨fun _ => hun.mpr ⟨cause, ho⟩, fun _ => ⟨_, _, rfl⟩⟩
    · rw [hre]
      simp [Refused, ho]
    · rintro fault ⟨⟩
      exact .inr (.inl ⟨call, List.mem_concat_self, cause, ho, rfl⟩)
  | @refused call completion before hh hb hc ho hcode =>
    obtain ⟨hun, hre⟩ := hlast call hb
    refine ⟨by simp [hh, notFound], ?_, ?_, ?_⟩
    · rw [hun]
      simp [Unstarted, ho, notFound]
    · exact ⟨fun _ => hre.mpr ⟨hc, completion, ho, hcode⟩, fun _ => ⟨_, _, rfl⟩⟩
    · rintro fault ⟨⟩
      exact .inr (.inr ⟨call, List.mem_concat_self, completion, ho, rfl⟩)
  | finished hh hb =>
    refine ⟨by simp [hh], ?_, ?_, by simp⟩
    · simpa using fun call hmem => (hb call hmem).not_unstarted
    · simpa using fun call hmem => (hb call hmem).not_refused _

/-! ## What a compile leaves behind -/

theorem Selected.not_assembly {chosen : Except Fault Toolchain}
    (h : Selected build job trace chosen) :
    ∀ call ∈ trace, isProbe call = true ∨ call.command = VisualStudio.query := by
  cases h with
  | noHeader hh => simp
  | asked hh hw hne hc => simpa using .inl (isProbe_of_command hc)
  | generic hh hw host hc => simpa using .inl (isProbe_of_command hc)
  | noLocator hh hw host hq hr => simp [hq]
  | native hh hw host hq hr hp => simp [hq]
  | fallback hh hw host hq hr hc => simp [hq, isProbe_of_command hc]

/-- Once its command has run to the end a compile has a report, whatever the exit code. -/
theorem Compiled.reported {outcome : Except Fault Report}
    (h : Compiled runner build job trace outcome build') {call : Call} (hmem : call ∈ trace)
    {toolchain : Toolchain} (hc : (build.assembly job toolchain).command = .ok call.command)
    {completion : Completion} (ho : call.outcome = .ok completion) :
    ∃ report, outcome = .ok report ∧ report.exitCode = completion.code := by
  -- the calls that choose a toolchain are no compile commands
  have hchoice {trace : List Call} {chosen : Except Fault Toolchain}
      (hs : Selected build job trace chosen) : call ∉ trace := by
    intro hmem
    rcases hs.not_assembly call hmem with hp | hq
    · rw [isProbe_assembly hc] at hp
      cases hp
    · exact Assembly.command_ne_query _ (hq ▸ hc)
  cases h with
  | notSelected hs he => exact absurd hmem (hchoice hs)
  | notStarted hs _ hr he =>
    obtain rfl := List.mem_singleton.mp ((List.mem_append.mp hmem).resolve_left (hchoice hs))
    obtain ⟨cause, herr, -⟩ := Call.result_eq_error_iff.mp hr
    rw [ho] at herr
    cases herr
  | finished hs _ hr he =>
    obtain rfl := List.mem_singleton.mp ((List.mem_append.mp hmem).resolve_left (hchoice hs))
    rw [Call.outcome_of_result_ok hr] at ho
    exact ⟨_, rfl, congrArg Completion.code (Except.ok.inj ho)⟩

structure Intact (build build' : Build σ) : Prop where
  options : build'.options = build.options
  diagnostics : build'.diagnostics = build.diagnostics
  roster : build'.roster = build.roster

theorem Compiled.intact {fault : Fault}
    (h : Compiled runner build job trace (.error fault) build') : Intact build build' := by
  cases h with
  | notSelected hs he => exact ⟨he.options, by simpa using he.diagnostics, he.roster⟩
  | notStarted hs hc hr he => exact ⟨he.options, by simpa using he.diagnostics, he.roster⟩

theorem compileJob_unknown {id : JobId} (h : id ∉ build.roster.ids) :
    build.compileJob runner id = (.error (.unknownJob id), build) := by
  have hnone : build.roster.take id = none := by
    rw [Roster.take, Roster.get?, Option.map_eq_none_iff, Option.map_eq_none_iff,
      List.find?_eq_none]
    intro entry hmem
    have hid : entry.1 ∈ build.roster.ids := List.mem_map_of_mem hmem
    simpa using fun heq : entry.1 = id => h (heq ▸ hid)
  rw [compileJob, hnone]

theorem compileJob_known (runner : Runner σ) {id : JobId} (h : id ∈ build.roster.ids) :
    ∃ before job after, build.roster.entries = before ++ (id, job) :: after ∧
      (build.roster.ids.Nodup → id ∉ (before ++ after).map Prod.fst) ∧
      build.compileJob runner id =
        { build with roster := ⟨before ++ after, build.roster.next⟩ }.compile runner job := by
  obtain ⟨entry, hmem, hid⟩ := List.mem_map.mp h
  obtain ⟨⟨job, rest⟩, ht⟩ : ∃ taken, build.roster.take id = some taken := by
    rw [← Option.isSome_iff_exists, Roster.take, Option.isSome_map, Roster.get?, Option.isSome_map,
      List.find?_isSome]
    exact ⟨entry, hmem, by simpa using hid⟩
  -- the first entry of that number is taken; where numbers differ there is no second
  obtain ⟨before, after, he, rfl⟩ := Roster.take_cases ht
  refine ⟨before, job, after, he, fun hnodup => ?_, by rw [compileJob, ht]⟩
  rw [Roster.ids, he] at hnodup
  exact (List.nodup_cons.mp ((List.perm_middle.map Prod.fst).nodup_iff.mp hnodup)).1

/-- A compile fails in three ways, and its calls tell which; assembling a command is none of them,
nor is a compiler that exits with an error. A fault leaves options, diagnostics and jobs as they
were. Compiling a job of the roster takes it out, whatever comes of it, and a number that is not in
the roster changes nothing. -/
theorem compile_faults_exact (build : Build σ) (runner : Runner σ) :
    (∀ job, ∃ trace,
      (build.compile runner job).2.machine.calls = build.machine.calls ++ trace ∧
      Classified build job trace (build.compile runner job).1 ∧
      (∀ toolchain, ∃ command, (build.assembly job toolchain).command = .ok command ∧
        ∀ call ∈ trace, call.command = command → ∀ completion, call.outcome = .ok completion →
          ∃ report, (build.compile runner job).1 = .ok report ∧
            report.exitCode = completion.code) ∧
      ∀ fault, (build.compile runner job).1 = .error fault →
        Intact build (build.compile runner job).2) ∧
    (∀ id ∈ build.roster.ids, ∃ before job after,
      build.roster.entries = before ++ (id, job) :: after ∧
      (build.roster.ids.Nodup → id ∉ (before ++ after).map Prod.fst) ∧
      build.compileJob runner id =
        { build with roster := ⟨before ++ after, build.roster.next⟩ }.compile runner job ∧
      ∀ fault, (build.compileJob runner id).1 = .error fault →
        Intact { build with roster := ⟨before ++ after, build.roster.next⟩ }
          (build.compileJob runner id).2) ∧
    ∀ id ∉ build.roster.ids, build.compileJob runner id = (.error (.unknownJob id), build) := by
  have hintact (build : Build σ) (job : Job) (fault : Fault)
      (hf : (build.compile runner job).1 = .error fault) :
      Intact build (build.compile runner job).2 := by
    obtain ⟨trace, hc⟩ := build.compile_cases runner job
    rw [hf] at hc
    exact hc.intact
  refine ⟨fun job => ?_, fun id hid => ?_, fun id hid => compileJob_unknown hid⟩
  · obtain ⟨trace, hc⟩ := build.compile_cases runner job
    refine ⟨trace, hc.calls, hc.traced.classified, fun toolchain => ?_, hintact build job⟩
    have hcommand := (build.assembly job toolchain).command_eq
    exact ⟨_, hcommand, fun call hmem heq completion ho =>
      hc.reported hmem (heq ▸ hcommand) ho⟩
  · obtain ⟨before, job, after, he, hgone, hcompile⟩ := compileJob_known runner hid
    refine ⟨before, job, after, he, hgone, hcompile, fun fault hf => ?_⟩
    rw [hcompile] at hf ⊢
    exact hintact _ job fault hf

end Build
end Retrace
