import Mathlib.Algebra.GroupWithZero.Nat
import Retrace.Proofs.Policy
import Retrace.Proofs.Unexplained

/-!
# What a report counts

The number of errors in a report is read off all diagnostics of the build, and only a
reset forgets those. So a report counts what its own output holds and, on top of it,
what the compiles since the last reset left (`report_errors_since_reset`). Where one of
them had found an error, that is too many (`error_counted_again`).
-/

namespace Retrace.Build

def ownErrors (outcome : Except Fault Report) : Nat :=
  (outputFindings outcome).countP (·.severity.isError)

/-- The builds that a session leads to, with the errors in the output of each compile since the last
reset. All that is done between compiles leaves the diagnostics alone. -/
inductive Session (start : Build σ) : List Nat → Build σ → Prop
  | new : Session start [] start
  | compile (h : Session start found build) (runner : Runner σ) (job : Job) :
    Session start (found ++ [ownErrors (build.compile runner job).1]) (build.compile runner job).2
  | other (h : Session start found build) (hd : build'.diagnostics = build.diagnostics) :
    Session start found build'
  | reset (h : Session start found build) : Session start [] build.reset

theorem errorCount_compile (build : Build σ) (runner : Runner σ) (job : Job) :
    Diagnostic.errorCount (build.compile runner job).2.diagnostics =
      Diagnostic.errorCount build.diagnostics + ownErrors (build.compile runner job).1 := by
  obtain ⟨_, files, -, -, hadded⟩ := build.compile_adds runner job
  rw [hadded, Diagnostic.errorCount, List.countP_append]
  exact congrArg _ (Scope.errorCount_diagnostics _ _ _)

theorem Session.errorCount {start build : Build σ} (hnew : start.diagnostics = [])
    (h : Session start found build) : Diagnostic.errorCount build.diagnostics = found.sum := by
  induction h with
  | new => rw [hnew]; rfl
  | compile _ runner job ih => rw [errorCount_compile, ih, List.sum_append, List.sum_singleton]
  | other _ hd ih => rw [hd, ih]
  | reset _ _ => rfl

theorem errors_eq {build : Build σ} {runner : Runner σ} {job : Job} {report : Report}
    (h : (build.compile runner job).1 = .ok report) :
    report.errors = Diagnostic.errorCount (build.compile runner job).2.diagnostics := by
  obtain ⟨_, hcompiled⟩ := build.compile_cases runner job
  rw [h] at hcompiled
  generalize (build.compile runner job).2 = after at hcompiled
  cases hcompiled
  rfl

/-- Over every session that starts without diagnostics, a report counts the errors in its own output
and in the outputs of all compiles since the last reset, and fails with that number. So it counts
its own alone exactly if those had none. -/
theorem report_errors_since_reset {start build : Build σ} {found : List Nat}
    (hnew : start.diagnostics = []) (hs : Session start found build) (runner : Runner σ) (job : Job)
    (report : Report) (h : (build.compile runner job).1 = .ok report) :
    report.errors = found.sum + ownErrors (.ok report) ∧
    (report.errors = ownErrors (.ok report) ↔ ∀ errors ∈ found, errors = 0) ∧
    (report.family = .unknown → ownErrors (.ok report) = 0) ∧
    (∀ fault, report.check = .error fault → fault = .rejected report.errors) ∧
    ∃ added, (build.compile runner job).2.diagnostics = build.diagnostics ++ added ∧
      Diagnostic.errorCount added = ownErrors (.ok report) := by
  -- the count is taken after the compile has added its own errors to those of the session
  have hsum : report.errors = found.sum + ownErrors (.ok report) := by
    rw [errors_eq h, errorCount_compile, hs.errorCount hnew, h]
  refine ⟨hsum, ?_, fun hu => ?_, fun fault hf => ?_, ?_⟩
  · rw [hsum, Nat.add_eq_right, List.sum_eq_zero_iff_forall_eq_nat]
  · simp [ownErrors, outputFindings, hu, Family.lineStyle]
  · unfold Report.check at hf
    split at hf
    · cases hf
    · exact (Except.error.inj hf).symm
  · obtain ⟨_, files, -, -, hadded⟩ := build.compile_adds runner job
    exact ⟨_, hadded, by rw [Scope.errorCount_diagnostics, h]; rfl⟩

/-! ## Two errors, one each -/

namespace Failing

def line : String := "/g.cxir:1:2: error: a\n"

def once : Build (List String) := ((build [line, line]).compile runner Sample.job).2

def second : Report := ⟨false, .gcc, 1, 2, "/a", line⟩

theorem compile_once : (once.compile runner Sample.job).1 = .ok second :=
  eq_ok_of_toOption (by decide +kernel)

end Failing

theorem report_errors_since_reset_second :
    Session (Failing.build [Failing.line, Failing.line]) [1] Failing.once ∧
      (Failing.once.compile Failing.runner Sample.job).1 = .ok Failing.second ∧
      Failing.second.errors = [1].sum + ownErrors (.ok Failing.second) := by
  have hs : Session (Failing.build [Failing.line, Failing.line]) _ Failing.once :=
    Session.new.compile Failing.runner Sample.job
  have hfound : ownErrors ((Failing.build [Failing.line, Failing.line]).compile Failing.runner
      Sample.job).1 = 1 := by decide +kernel
  rw [hfound] at hs
  exact ⟨hs, Failing.compile_once,
    (report_errors_since_reset rfl hs _ _ _ Failing.compile_once).1⟩

/-- The second output has one error, and the report and its fault say two. -/
theorem error_counted_again :
    ∃ report, (Failing.once.compile Failing.runner Sample.job).1 = .ok report ∧
      ownErrors (.ok report) = 1 ∧ report.errors = 2 ∧ report.check = .error (.rejected 2) :=
  ⟨_, Failing.compile_once, by decide +kernel, rfl, rfl⟩

end Retrace.Build
