import Retrace.Proofs.Nearest
import Retrace.Proofs.Verdict

/-!
# The policy only refines positions

Until an output is read, a build carries its policy along unused (`attempt_under`),
so compiles under different policies choose the same toolchain and start the same
commands. From then on all but the positions is decided by the findings and the
files alone. `Refines` says which positions the nearest lines may change.
-/

namespace Retrace

/-! ## One finding under every policy -/

namespace Scope

def under (scope : Scope) (policy : Policy) : Scope := { scope with policy }

@[simp] theorem coreHeader_under (scope : Scope) (policy : Policy) :
    (scope.under policy).coreHeader = scope.coreHeader := rfl

@[simp] theorem unit?_under (scope : Scope) (policy : Policy) :
    (scope.under policy).unit? = scope.unit? := rfl

def owner? (scope : Scope) (files : Files) (finding : Finding) : Option Lowering :=
  if files.samePath finding.file scope.coreHeader then none else scope.unit? files finding.file

end Scope

structure Retelling where
  finding : Finding
  told : Policy → Diagnostic

/-- What the nearest lines change: a position in a unit that no entry leads back from is mapped
exactly if the unit has a map at all, and nothing else is different. -/
structure Retelling.Refines (scope : Scope) (files : Files) (retelling : Retelling) : Prop where
  same : retelling.told .nearest =
    { retelling.told .exact with position := (retelling.told .nearest).position }
  mapped : ∀ unit place, scope.owner? files retelling.finding = some unit →
    (retelling.told .exact).position = .other place →
      ((retelling.told .nearest).position.isMapped = true ↔ unit.map ≠ ∅)
  moved : (retelling.told .nearest).position ≠ (retelling.told .exact).position →
    ∃ unit place, scope.owner? files retelling.finding = some unit ∧
      (retelling.told .exact).position = .other place ∧ unit.map ≠ ∅

namespace Scope

variable {scope : Scope} {files : Files} {finding : Finding} {unit : Lowering}

theorem diagnose_of_owner (h : scope.owner? files finding = some unit) (policy : Policy) :
    (scope.under policy).diagnose files finding =
      .ok ⟨finding.severity, finding.message, finding.code, .user unit.source,
        (scope.under policy).unitPosition unit finding⟩ := by
  unfold owner? at h
  split at h
  · cases h
  · next hcore =>
    rw [diagnose, site, coreHeader_under, unit?_under, if_neg hcore, h]
    rfl

theorem diagnose_of_no_owner (h : scope.owner? files finding = none) (policy : Policy) :
    (scope.under policy).diagnose files finding = scope.diagnose files finding := by
  rw [diagnose, diagnose, site, site, coreHeader_under, unit?_under]
  unfold owner? at h
  split at h
  · next hcore => rw [if_pos hcore, if_pos hcore]
  · next hcore => rw [if_neg hcore, if_neg hcore, h]

/-- The two positions in a unit differ only where the map has no entry for the line but has some
other. -/
theorem unitPosition_refines (scope : Scope) (unit : Lowering) (finding : Finding) :
    (∀ place, (scope.under .exact).unitPosition unit finding = .other place →
      (((scope.under .nearest).unitPosition unit finding).isMapped = true ↔ unit.map ≠ ∅)) ∧
    ((scope.under .nearest).unitPosition unit finding ≠
        (scope.under .exact).unitPosition unit finding →
      ∃ place, (scope.under .exact).unitPosition unit finding = .other place ∧ unit.map ≠ ∅) := by
  unfold unitPosition under
  cases he : unit.map.lookup finding.line .exact with
  | some place => simp [LineMap.lookup_nearest_of_exact he]
  | none =>
    cases hn : unit.map.lookup finding.line .nearest with
    | none => simp [Position.isMapped, LineMap.nearest?_eq_none_iff.mp hn]
    | some place =>
      have hmap : unit.map ≠ ∅ := by
        intro hempty
        rw [LineMap.lookup, LineMap.nearest?_eq_none_iff.mpr hempty] at hn
        cases hn
      simp [Position.isMapped, hmap]

def retelling? (scope : Scope) (files : Files) (finding : Finding) : Option Retelling := do
  let exact ← ((scope.under .exact).diagnose files finding).toOption
  let nearest ← ((scope.under .nearest).diagnose files finding).toOption
  return ⟨finding, fun | .exact => exact | .nearest => nearest⟩

/-- A finding is left out under every policy or under none. -/
theorem retelling?_spec (scope : Scope) (files : Files) (finding : Finding) :
    (∀ policy, ((scope.under policy).diagnose files finding).toOption =
      (scope.retelling? files finding).map (·.told policy)) ∧
    ∀ retelling, scope.retelling? files finding = some retelling →
      retelling.Refines scope files := by
  cases ho : scope.owner? files finding with
  | none =>
    simp only [retelling?, diagnose_of_no_owner ho]
    cases scope.diagnose files finding with
    | error omission => simp [Except.toOption]
    | ok diagnostic =>
      refine ⟨fun policy => by cases policy <;> rfl, ?_⟩
      rintro _ ⟨⟩
      exact ⟨rfl, by simp [ho], by simp⟩
  | some unit =>
    simp only [retelling?, diagnose_of_owner ho]
    refine ⟨fun policy => by cases policy <;> rfl, ?_⟩
    obtain ⟨hmapped, hmoved⟩ := scope.unitPosition_refines unit finding
    rintro _ ⟨⟩
    refine ⟨rfl, fun other place hother => ?_, fun hne => ?_⟩
    · obtain rfl : unit = other := Option.some.inj (ho.symm.trans hother)
      exact hmapped place
    · obtain ⟨place, hplace, hmap⟩ := hmoved hne
      exact ⟨unit, place, ho, hplace, hmap⟩

def retellings (scope : Scope) (files : Files) (findings : List Finding) : List Retelling :=
  findings.filterMap (scope.retelling? files)

theorem diagnostics_under (scope : Scope) (files : Files) (findings : List Finding)
    (policy : Policy) :
    (scope.under policy).diagnostics files findings =
      (scope.retellings files findings).map (·.told policy) := by
  rw [retellings, List.map_filterMap]
  exact congrArg (List.filterMap · findings)
    (funext fun finding => (scope.retelling?_spec files finding).1 policy)

theorem refines_of_mem_retellings {findings : List Finding} {retelling : Retelling}
    (h : retelling ∈ scope.retellings files findings) : retelling.Refines scope files := by
  obtain ⟨finding, -, hr⟩ := List.mem_filterMap.mp h
  exact (scope.retelling?_spec files finding).2 retelling hr

end Scope

/-! ## One compile under every policy -/

/-- A runner leaves no choice: the same commands from the same start go the same way. -/
theorem Ran.unique {runner : Runner σ} (h : Ran runner files hand trace after final)
    (h' : Ran runner files hand trace' after' final')
    (hc : trace.map Call.command = trace'.map Call.command) :
    trace = trace' ∧ after = after' ∧ final = final' := by
  induction h generalizing trace' with
  | done =>
    cases h' with
    | done => exact ⟨rfl, rfl, rfl⟩
    | next hs' rest' => cases hc
  | next hs rest ih =>
    cases h' with
    | done => cases hc
    | next hs' rest' =>
      obtain ⟨hcommand, hrest⟩ := List.cons.inj hc
      dsimp only at hcommand
      subst hcommand
      rw [hs] at hs'
      cases hs'
      obtain ⟨rfl, rfl, rfl⟩ := ih rest' hrest
      exact ⟨rfl, rfl, rfl⟩

namespace Build

def under (build : Build σ) (policy : Policy) : Build σ :=
  { build with options := { build.options with policy } }

theorem detect_under (build : Build σ) (runner : Runner σ) (compiler : String) (policy : Policy) :
    (build.under policy).detect runner compiler =
      ((build.detect runner compiler).1, (build.detect runner compiler).2.under policy) := by
  have hrun : (build.under policy).run runner (probe compiler) =
      ((build.run runner (probe compiler)).1,
        (build.run runner (probe compiler)).2.under policy) := rfl
  unfold detect
  rw [hrun]
  rcases build.run runner (probe compiler) with ⟨fault | completion, after⟩
  · rfl
  · dsimp only
    split <;> rfl

def resume (build : Build σ) (runner : Runner σ) (job : Job) (native : Bool) :
    Except Fault Toolchain → Except Fault Report × Build σ
  | .error fault => (.error fault, build)
  | .ok toolchain =>
    let (outcome, after) := build.invoke runner job toolchain
    (outcome, if native then after.removeObjects job else after)

/-- The policy plays no part in the choice of a toolchain. -/
def Resumes (attempt : Policy → Except Fault Report × Build σ) (runner : Runner σ) (job : Job) :
    Prop :=
  ∃ (native : Bool) (chosen : Except Fault Toolchain) (before : Build σ),
    ∀ policy, attempt policy = (before.under policy).resume runner job native chosen

theorem compileWith_under (build : Build σ) (runner : Runner σ) (job : Job) (compiler : String) :
    Resumes (fun policy => (build.under policy).compileWith runner job compiler) runner job := by
  refine ⟨false, (build.detect runner compiler).1, (build.detect runner compiler).2,
    fun policy => ?_⟩
  dsimp only
  rw [compileWith, detect_under]
  rcases build.detect runner compiler with ⟨fault | toolchain, after⟩ <;> rfl

theorem compileWindows_under (build : Build σ) (runner : Runner σ) (job : Job) :
    Resumes (fun policy => (build.under policy).compileWindows runner job) runner job := by
  generalize hl : VisualStudio.locate build.machine runner = located
  obtain ⟨found, machine⟩ := located
  have hlocate (policy : Policy) :
      VisualStudio.locate (build.under policy).machine runner = (found, machine) := hl
  unfold compileWindows
  simp only [hlocate]
  rcases found with fault | script
  · cases fault with
    | toolchainNotFound compiler reason =>
      exact compileWith_under (({ build with machine }.say .warn .build
        ("native toolchain unavailable (" ++ reason ++ "), falling back to " ++
          Toolchain.generic)).enter .detect) runner job Toolchain.generic
    | _ => exact ⟨false, .error _, { build with machine }, fun _ => rfl⟩
  · exact ⟨true, .ok ⟨.msvc, VisualStudio.compiler, some script⟩, { build with machine },
      fun _ => rfl⟩

theorem attempt_under (build : Build σ) (runner : Runner σ) (job : Job) :
    Resumes (fun policy => (build.under policy).attempt runner job) runner job := by
  have hattempt (policy : Policy) : (build.under policy).attempt runner job =
      if !build.files.isFile build.options.coreHeader then
        (.error (.missingRuntime build.options.coreHeader), (build.enter .detect).under policy)
      else if !(build.wanted job).isEmpty then
        ((build.enter .detect).under policy).compileWith runner job (build.wanted job)
      else if build.options.host.isWindows then
        ((build.enter .detect).under policy).compileWindows runner job
      else (((build.enter .detect).enter .detect).under policy).compileWith runner job
        Toolchain.generic := rfl
  simp only [hattempt]
  split
  · exact ⟨false, .error _, build.enter .detect, fun _ => rfl⟩
  · split
    · exact compileWith_under _ runner job _
    · split
      · exact compileWindows_under _ runner job
      · exact compileWith_under _ runner job _

/-- The same outcome, from runners that did the same and left the same files. -/
structure Abreast (a b : Except Fault Report × Build σ) : Prop where
  outcome : a.1 = b.1
  calls : a.2.machine.calls = b.2.machine.calls
  hand : a.2.machine.hand = b.2.machine.hand
  files : a.2.files = b.2.files

/-- A report counts the errors among the diagnostics and looks at nothing else there. -/
theorem reportOf_congr {diagnostics diagnostics' : List Diagnostic}
    (h : Diagnostic.errorCount diagnostics = Diagnostic.errorCount diagnostics') (job : Job)
    (family : Family) (completion : Completion) :
    reportOf diagnostics job family completion = reportOf diagnostics' job family completion := by
  have hany : Diagnostic.anyError diagnostics = Diagnostic.anyError diagnostics' := by
    rw [Bool.eq_iff_iff, Diagnostic.anyError_iff, Diagnostic.anyError_iff, h]
  simp only [reportOf, h, hany]

theorem errorCount_newDiagnostics (build : Build σ) (job : Job) (family : Family) (files : Files)
    (output : String) (policy : Policy) :
    Diagnostic.errorCount ((build.under policy).newDiagnostics job family files output) =
      Diagnostic.errorCount (build.newDiagnostics job family files output) := by
  unfold newDiagnostics
  cases family.lineStyle with
  | none => rfl
  | some style => rw [Scope.errorCount_diagnostics, Scope.errorCount_diagnostics]

theorem invoke_under (before : Build σ) (runner : Runner σ) (job : Job) (toolchain : Toolchain)
    (p q : Policy) :
    Abreast ((before.under p).invoke runner job toolchain)
      ((before.under q).invoke runner job toolchain) := by
  generalize hp : (before.under p).invoke runner job toolchain = first
  generalize hq : (before.under q).invoke runner job toolchain = second
  obtain ⟨outcome, after⟩ := first
  obtain ⟨outcome', after'⟩ := second
  obtain ⟨call, added, hc, hadv, hend⟩ := invoke_cases hp
  obtain ⟨call', added', hc', hadv', hend'⟩ := invoke_cases hq
  have hcommand : call.command = call'.command := Except.ok.inj (hc.symm.trans hc')
  obtain ⟨hcall, hfiles, hhand⟩ := hadv.ran.unique hadv'.ran (by simp [hcommand])
  obtain rfl : call = call' := List.singleton_inj.mp hcall
  refine ⟨?_, hadv.calls.trans hadv'.calls.symm, hhand, hfiles⟩
  rcases hend with ⟨fault, hr, rfl, -⟩ | ⟨completion, hr, rfl, rfl⟩ <;>
    rcases hend' with ⟨fault', hr', rfl, -⟩ | ⟨completion', hr', rfl, rfl⟩ <;>
    rw [hr] at hr' <;> cases hr'
  · rfl
  · refine congrArg Except.ok (reportOf_congr ?_ job toolchain.family completion)
    have hcount := before.errorCount_newDiagnostics job toolchain.family after.files
      completion.output
    rw [hadv.diagnostics, hadv'.diagnostics, ← hfiles]
    simp only [Diagnostic.errorCount, List.countP_append] at hcount ⊢
    rw [hcount, hcount]
    rfl

theorem Abreast.removeObjects {a b : Except Fault Report × Build σ} (h : Abreast a b)
    (job : Job) : Abreast (a.1, a.2.removeObjects job) (b.1, b.2.removeObjects job) :=
  ⟨h.outcome, h.calls, h.hand, by rw [files_removeObjects, files_removeObjects, h.files]⟩

theorem Abreast.dismissed {a b : Except Fault Report × Build σ} (h : Abreast a b) (job : Job) :
    Abreast (a.1, a.2.dismissed job a.1) (b.1, b.2.dismissed job b.1) := by
  have hwork := reworked_dismissed a.2 job a.1
  have hwork' := reworked_dismissed b.2 job b.1
  exact ⟨h.outcome, hwork.calls.trans (h.calls.trans hwork'.calls.symm),
    hwork.hand.trans (h.hand.trans hwork'.hand.symm),
    by rw [files_dismissed, files_dismissed, h.files]⟩

theorem compile_abreast (build : Build σ) (runner : Runner σ) (job : Job) (p q : Policy) :
    Abreast ((build.under p).compile runner job) ((build.under q).compile runner job) := by
  obtain ⟨native, chosen, before, hattempt⟩ := attempt_under build runner job
  have hresume : Abreast ((before.under p).resume runner job native chosen)
      ((before.under q).resume runner job native chosen) := by
    cases chosen with
    | error fault => exact ⟨rfl, rfl, rfl, rfl⟩
    | ok toolchain =>
      have h := before.invoke_under runner job toolchain p q
      cases native with
      | false => exact h
      | true => exact h.removeObjects job
  dsimp only at hattempt
  rw [compile_eq, compile_eq, hattempt, hattempt]
  exact hresume.dismissed job

/-- The findings in the output of a compile; without a report there are none. -/
def outputFindings : Except Fault Report → List Finding
  | .error _ => []
  | .ok report => report.family.lineStyle.elim [] (·.parseOutput report.rawOutput)

theorem newDiagnostics_eq (build : Build σ) (job : Job) (family : Family) (files : Files)
    (completion : Completion) (diagnostics : List Diagnostic) :
    build.newDiagnostics job family files completion.output = (build.scope job).diagnostics files
      (outputFindings (.ok (reportOf diagnostics job family completion))) := by
  simp only [newDiagnostics, outputFindings, reportOf]
  cases family.lineStyle <;> rfl

theorem compile_adds (build : Build σ) (runner : Runner σ) (job : Job) :
    ∃ trace files,
      (build.compile runner job).2.machine.calls = build.machine.calls ++ trace ∧
      Ran runner build.files build.machine.hand trace files
        (build.compile runner job).2.machine.hand ∧
      (build.compile runner job).2.diagnostics = build.diagnostics ++
        (build.scope job).diagnostics files (outputFindings (build.compile runner job).1) := by
  obtain ⟨trace, hcompiled⟩ := build.compile_cases runner job
  generalize (build.compile runner job).1 = outcome at hcompiled ⊢
  cases hcompiled with
  | notSelected hs he => exact ⟨_, _, he.calls, he.ran, he.diagnostics⟩
  | notStarted hs hc hr he => exact ⟨_, _, he.calls, he.ran, he.diagnostics⟩
  | finished hs hc hr he =>
    exact ⟨_, _, he.calls, he.ran,
      he.diagnostics.trans (congrArg _ (newDiagnostics_eq _ _ _ _ _ _))⟩

/-- Compiles that differ in the policy alone start the same commands, with the same replies, and
have the same outcome. The findings they show are the same, and of each the nearest lines change
what `Refines` says, whichever unit it is about. `files` are those that the last command left. -/
theorem policy_refines (build : Build σ) (runner : Runner σ) (job : Job) :
    let scope : Scope :=
      ⟨build.options.coreHeader, build.options.policy,
        lowering job :: build.roster.jobs.map lowering⟩
    ∃ outcome trace files final retellings,
      Ran runner build.files build.machine.hand trace files final ∧
      retellings = scope.retellings files (outputFindings outcome) ∧
      (∀ policy,
        ((build.under policy).compile runner job).1 = outcome ∧
        ((build.under policy).compile runner job).2.machine.calls = build.machine.calls ++ trace ∧
        ((build.under policy).compile runner job).2.diagnostics =
          build.diagnostics ++ retellings.map (·.told policy)) ∧
      ∀ retelling ∈ retellings, retelling.Refines scope files := by
  intro scope
  obtain ⟨trace, files, hcalls, hran, -⟩ := (build.under .exact).compile_adds runner job
  refine ⟨((build.under .exact).compile runner job).1, trace, files, _, _, hran, rfl,
    fun policy => ?_, fun _ => Scope.refines_of_mem_retellings⟩
  have habreast := build.compile_abreast runner job policy .exact
  obtain ⟨trace', files', hcalls', hran', hadded⟩ := (build.under policy).compile_adds runner job
  obtain rfl : trace' = trace :=
    List.append_cancel_left (hcalls'.symm.trans (habreast.calls.trans hcalls))
  obtain ⟨-, rfl, -⟩ := hran'.unique hran rfl
  rw [habreast.outcome] at hadded
  exact ⟨habreast.outcome, hcalls',
    hadded.trans (congrArg _ (scope.diagnostics_under files' _ policy))⟩

end Build
end Retrace
