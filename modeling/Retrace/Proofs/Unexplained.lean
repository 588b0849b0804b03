import Retrace.Proofs.Verdict

/-!
# Failures that no line explains

A toolchain may fail without a line that is read as an error, as linkers do. Then
`invoke_unexplained` says that the output is logged line by line, after a record
with the exit code, exactly if the build holds no error yet. The test is made on all
diagnostics of the build, so an error that an earlier compile left keeps a later
failure silent (`failure_after_error_silent`).
-/

namespace Retrace.Build

section

variable {runner : Runner σ} {build build' build₁ : Build σ} {job : Job} {spoken : List Record}

/-! ## What is logged on the way -/

/-- Nothing was logged above the debug level, except what the runner said. -/
def Murmured (spoken : List Record) (build build' : Build σ) : Prop :=
  ∃ events, build'.machine.work.events = build.machine.work.events ++ events ∧
    ∀ record, .record record ∈ events → record.level = .debug ∨ record ∈ spoken

namespace Murmured

theorem refl : Murmured spoken build build := ⟨[], (List.append_nil _).symm, by simp⟩

theorem append (h : Murmured spoken build build₁) {events : List Event}
    (he : build'.machine.work.events = build₁.machine.work.events ++ events)
    (hq : ∀ record, .record record ∈ events → record.level = .debug ∨ record ∈ spoken) :
    Murmured spoken build build' := by
  obtain ⟨before, hbefore, hbq⟩ := h
  refine ⟨before ++ events, by rw [he, hbefore, List.append_assoc], fun record hm => ?_⟩
  exact (List.mem_append.mp hm).elim (hbq record) (hq record)

theorem debug (h : Murmured spoken build build₁) (message : String) :
    Murmured spoken build (build₁.debug message) :=
  h.append rfl (by simp)

theorem enter (h : Murmured spoken build build₁) (stage : Stage) :
    Murmured spoken build (build₁.enter stage) :=
  h.append rfl (by simp)

theorem sayAll (h : Murmured spoken build build₁) {records : List Record}
    (hq : ∀ record ∈ records, record.level = .debug ∨ record ∈ spoken) :
    Murmured spoken build (build₁.sayAll records) :=
  h.append rfl (by simpa using hq)

theorem report (h : Murmured spoken build build₁) (diagnostics : List Diagnostic) :
    Murmured spoken build (build₁.report diagnostics) :=
  h.append rfl (by simp)

end Murmured

theorem level_omissions (scope : Scope) (files : Files) (findings : List Finding) :
    ∀ record ∈ scope.omissions files findings, record.level = .debug := by
  intro record hm
  obtain ⟨finding, -, hrecord⟩ := List.mem_filterMap.mp hm
  unfold Scope.omission? at hrecord
  split at hrecord
  · cases hrecord
  · cases hrecord
    rfl

theorem reported_murmured (h : Murmured spoken build build₁) (job : Job) (style : LineStyle)
    (completion : Completion) :
    Murmured spoken build (build₁.reported job style completion) := by
  refine ((Murmured.sayAll (((h.enter _).debug _).enter _) fun record hm => ?_).enter _).report _
  exact .inl (level_omissions _ _ _ record hm)

/-! ## The failure -/

theorem hasErrored_append {added : List Diagnostic}
    (h : build'.diagnostics = build.diagnostics ++ added) (ha : Diagnostic.errorCount added = 0) :
    build'.hasErrored = build.hasErrored := by
  have hnone : Diagnostic.anyError added = false := by
    rw [Bool.eq_false_iff, Ne, Diagnostic.anyError_iff, ha]
    exact Nat.lt_irrefl 0
  unfold Diagnostic.anyError at hnone
  rw [hasErrored, hasErrored, h, Diagnostic.anyError, List.any_append, hnone, Bool.or_false,
    Diagnostic.anyError]

theorem hasErrored_reported (runner : Runner σ) (build : Build σ) (job : Job) {style : LineStyle}
    {completion : Completion}
    (hq : ∀ line ∈ Text.lines completion.output.toList, style.isErrorLine line = false) :
    (build.reported job style completion).hasErrored = build.hasErrored := by
  refine hasErrored_append (build.reported_advance runner job style completion).diagnostics ?_
  rw [Scope.errorCount_diagnostics, LineStyle.countP_parseOutput, List.countP_eq_zero]
  intro line hm
  rw [hq line hm]
  exact Bool.false_ne_true

theorem conclude_failed (runner : Runner σ) (build : Build σ) (job : Job) (family : Family)
    {style : LineStyle} {completion : Completion} (hf : completion.succeeded = false)
    (hq : ∀ line ∈ Text.lines completion.output.toList, style.isErrorLine line = false) :
    (build.conclude job family style completion).2 =
      if build.hasErrored then build.reported job style completion
      else (build.reported job style completion).sayAll (unexplainedRecords completion) := by
  rw [conclude_eq, hasErrored_reported runner build job hq, hf]
  cases build.hasErrored <;> rfl

theorem run_ok {command : Command} {completion : Completion}
    (h : build.run runner command = (.ok completion, build')) :
    let reply := (runner.start command build.files build.machine.hand).1
    reply.outcome = .ok completion ∧ Murmured reply.records build build' ∧
      build'.diagnostics = build.diagnostics := by
  unfold run Machine.run at h
  dsimp only at h ⊢
  obtain ⟨houtcome, rfl⟩ := Prod.mk.inj h
  refine ⟨?_, Murmured.refl.append rfl fun record hm => ?_, rfl⟩
  · split at houtcome
    · next hr =>
      cases houtcome
      exact hr
    · cases houtcome
  · obtain ⟨said, hsaid, heq⟩ := List.mem_map.mp hm
    cases heq
    exact .inr hsaid

theorem invoke_ok {toolchain : Toolchain} {style : LineStyle} {report : Report}
    (hs : toolchain.family.lineStyle = some style)
    (h : build.invoke runner job toolchain = (.ok report, build')) :
    ∃ command ran,
      (build.assembly job toolchain).command = .ok command ∧
      (runner.start command build.files build.machine.hand).1.outcome =
        .ok ⟨report.rawOutput, report.exitCode⟩ ∧
      Murmured (runner.start command build.files build.machine.hand).1.records build ran ∧
      ran.diagnostics = build.diagnostics ∧
      build' = (ran.conclude job toolchain.family style ⟨report.rawOutput, report.exitCode⟩).2 := by
  obtain ⟨command, hcommand⟩ : ∃ command, (build.assembly job toolchain).command = .ok command :=
    ⟨_, (build.assembly job toolchain).command_eq⟩
  have hassembly : ((build.enter .assemble).assembly job toolchain).command = .ok command :=
    hcommand
  dsimp only [invoke] at h
  rw [hassembly] at h
  dsimp only at h
  split at h
  · cases h
  · next completion ran hr =>
    obtain ⟨houtcome, ⟨events, hevents, hq⟩, hdiag⟩ := run_ok hr
    rw [hs] at h
    cases h
    have hran :
        Murmured (runner.start command build.files build.machine.hand).1.records build ran :=
      (((Murmured.refl.enter .assemble).enter .execute).debug _).append hevents hq
    exact ⟨command, _, hcommand, houtcome, hran.debug _, hdiag, rfl⟩

/-- A failure without an error line is told of exactly if the build holds no error yet. Apart from
that the log only grows by what the runner says and by remarks of the debug level. -/
theorem invoke_unexplained (build build' : Build σ) (runner : Runner σ) (job : Job)
    (toolchain : Toolchain) (style : LineStyle) (report : Report)
    (hs : toolchain.family.lineStyle = some style)
    (h : build.invoke runner job toolchain = (.ok report, build'))
    (hf : report.exitCode ≠ 0)
    (hq : ∀ line ∈ Text.lines report.rawOutput.toList, style.isErrorLine line = false) :
    ∃ command events,
      (build.assembly job toolchain).command = .ok command ∧
      (runner.start command build.files build.machine.hand).1.outcome =
        .ok ⟨report.rawOutput, report.exitCode⟩ ∧
      (∀ record, .record record ∈ events → record.level = .debug ∨
        record ∈ (runner.start command build.files build.machine.hand).1.records) ∧
      build'.machine.work.events = build.machine.work.events ++ events ++
        if build.hasErrored then []
        else .record ⟨.error, .output, "compiler exited with " ++ toString report.exitCode ++
            " without reporting an error"⟩ ::
          (Text.lines report.rawOutput.toList).map fun line =>
            .record ⟨.error, .output, String.ofList line⟩ := by
  obtain ⟨command, ran, hcommand, hreply, hran, hdiag, rfl⟩ := invoke_ok hs h
  have hfailed : Completion.succeeded ⟨report.rawOutput, report.exitCode⟩ = false := by
    simpa [Completion.succeeded] using hf
  have herrored : ran.hasErrored = build.hasErrored := by rw [hasErrored, hdiag, hasErrored]
  obtain ⟨events, hevents, hmurmured⟩ :=
    reported_murmured hran job style ⟨report.rawOutput, report.exitCode⟩
  refine ⟨command, events, hcommand, hreply, hmurmured, ?_⟩
  rw [conclude_failed runner ran job toolchain.family hfailed hq, herrored, ← hevents]
  cases build.hasErrored with
  | true => exact (List.append_nil _).symm
  | false =>
    change _ ++ (unexplainedRecords _).map Event.record = _
    rw [unexplainedRecords, outputRecords, List.map_cons, List.map_map]
    rfl

end

/-! ## Two failures -/

namespace Failing

def runner : Runner (List String) where
  host := .posix
  start command files outputs :=
    if command.args = ["--version"] then (⟨.ok ⟨"gcc 13", 0⟩, files, []⟩, outputs)
    else (⟨.ok ⟨outputs.headD "", 1⟩, files, []⟩, outputs.tail)

def build (outputs : List String) : Build (List String) where
  machine := ⟨Sample.work, outputs, []⟩
  options := { coreHeader := "/core.hh" }

def linking : String := "ld: cannot find -lfoo\ncollect2: ld returned 1\n"

def erred : Build (List String) :=
  ((build ["/g.cxir:1:2: error: a\n", linking]).compile runner Sample.job).2

end Failing

theorem invoke_unexplained_linking :
    ∃ events, ((Failing.build [Failing.linking]).invoke Failing.runner Sample.job
        ⟨.gcc, "c++", none⟩).2.machine.work.events = events ++
      [.record ⟨.error, .output, "compiler exited with 1 without reporting an error"⟩,
        .record ⟨.error, .output, "ld: cannot find -lfoo"⟩,
        .record ⟨.error, .output, "collect2: ld returned 1"⟩] := by
  have h : (Failing.build [Failing.linking]).invoke Failing.runner Sample.job ⟨.gcc, "c++", none⟩ =
      (.ok ⟨false, .gcc, 1, 0, "/a", Failing.linking⟩, _) :=
    Prod.ext (eq_ok_of_toOption (by decide +kernel)) rfl
  obtain ⟨_, events, -, -, -, hevents⟩ :=
    invoke_unexplained _ _ _ _ _ .gnu _ rfl h (by decide) (by decide +kernel)
  exact ⟨_ ++ events, hevents⟩

/-- The same failure after a compile with an error: no record of that level. -/
theorem failure_after_error_silent :
    ∃ report, (Failing.erred.compile Failing.runner Sample.job).1 = .ok report ∧
      report.family.lineStyle = some .gnu ∧ report.exitCode ≠ 0 ∧
      (∀ line ∈ Text.lines report.rawOutput.toList, LineStyle.gnu.isErrorLine line = false) ∧
      ∀ record ∈ (Failing.erred.compile Failing.runner Sample.job).2.machine.work.records,
        record.level ≠ .error := by
  refine ⟨⟨false, .gcc, 1, 1, "/a", Failing.linking⟩, eq_ok_of_toOption (by decide +kernel), rfl,
    by decide, by decide +kernel, by decide +kernel⟩

end Retrace.Build
