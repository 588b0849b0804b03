import Retrace.Program
import Retrace.Proofs.Compile
import Retrace.Proofs.Pairing

/-!
# No error is lost, and the verdict is exact

What the toolchain printed reaches the build: a finding is left out only as
`Scope.Drops` allows, and no error is. So the verdict of a compile can be told
from its calls alone, and the exit code of the program from the verdict.
-/

namespace Retrace

/-! ## Findings left out -/

namespace Scope

/-- The findings that are not shown: warnings and notes about the runtime header, or about a
file that is neither a unit's nor there at all. -/
def Drops (scope : Scope) (files : Files) (finding : Finding) : Prop :=
  (finding.severity = .warning ∨ finding.severity = .note) ∧
    (files.samePath finding.file scope.coreHeader = true ∨
      (∀ unit ∈ scope.units, files.samePath finding.file unit.generated = false) ∧
        files.pathExists finding.file = false)

variable {scope : Scope} {files : Files} {finding : Finding}

theorem unit?_eq_none_iff : scope.unit? files finding.file = none ↔
    ∀ unit ∈ scope.units, files.samePath finding.file unit.generated = false := by
  simp [unit?]

theorem diagnose_eq_error_iff :
    (scope.diagnose files finding).toOption = none ↔ scope.Drops files finding := by
  unfold diagnose site Drops
  rw [← Severity.isError_eq_false_iff, ← unit?_eq_none_iff]
  cases files.samePath finding.file scope.coreHeader with
  | true => cases finding.severity.isError <;> simp [Except.map, Except.toOption]
  | false =>
    cases scope.unit? files finding.file with
    | some unit => simp [Except.map, Except.toOption]
    | none =>
      cases files.pathExists finding.file <;> cases finding.severity.isError <;>
        simp [Except.map, Except.toOption]

theorem diagnose_eq_ok {diagnostic : Diagnostic}
    (h : scope.diagnose files finding = .ok diagnostic) :
    diagnostic.severity = finding.severity ∧ diagnostic.message = finding.message ∧
      diagnostic.code = finding.code := by
  unfold diagnose at h
  cases hs : scope.site files finding with
  | error omission => rw [hs] at h; cases h
  | ok place =>
    rw [hs] at h
    cases h
    exact ⟨rfl, rfl, rfl⟩

theorem errorCount_diagnostics (scope : Scope) (files : Files) (findings : List Finding) :
    Diagnostic.errorCount (scope.diagnostics files findings) =
      findings.countP (·.severity.isError) := by
  unfold Diagnostic.errorCount diagnostics
  rw [List.countP_filterMap]
  refine congrArg (List.countP · findings) (funext fun finding => ?_)
  cases hd : scope.diagnose files finding with
  | ok diagnostic => simp [Except.toOption, Diagnostic.isError, (diagnose_eq_ok hd).1]
  | error omission =>
    -- what is left out is a warning or a note
    have hdrop : scope.Drops files finding := diagnose_eq_error_iff.mp (by rw [hd]; rfl)
    rw [(Severity.isError_eq_false_iff _).mpr hdrop.1]
    rfl

end Scope

def LineStyle.isErrorLine (style : LineStyle) (line : List Char) : Bool :=
  (style.readLine line).any (·.severity.isError)

theorem LineStyle.countP_parseOutput (style : LineStyle) (output : String) :
    (style.parseOutput output).countP (·.severity.isError) =
      (Text.lines output.toList).countP style.isErrorLine := by
  unfold parseOutput read
  rw [List.countP_filterMap]
  congr 1
  funext line
  unfold isErrorLine
  cases style.readLine line <;> rfl

theorem Family.exists_lineStyle {family : Family} (h : family ≠ .unknown) :
    ∃ style, family.lineStyle = some style := by
  cases family <;> simp [lineStyle] at h ⊢

theorem eq_ok_of_toOption {x : Except ε α} (h : x.toOption = some a) : x = .ok a := by
  cases x with
  | error cause => cases h
  | ok b => exact congrArg _ (Option.some.inj h)

namespace Build

variable {runner : Runner σ} {build build' : Build σ} {job : Job} {trace : List Call}

theorem newDiagnostics_of_lineStyle {family : Family} {style : LineStyle}
    (hs : family.lineStyle = some style) (files : Files) (output : String) :
    build.newDiagnostics job family files output =
      (build.scope job).diagnostics files (style.parseOutput output) := by
  simp only [newDiagnostics, hs]

/-- What the toolchain found reaches the build in order, attributed to the job and to all others of
the roster. Only warnings and notes are left out, and what is kept says what the toolchain said.
`files` are those that the command left. -/
theorem compile_diagnostics {report : Report} {style : LineStyle}
    (h : (build.compile runner job).1 = .ok report) (hs : report.family.lineStyle = some style) :
    let scope : Scope :=
      ⟨build.options.coreHeader, build.options.policy,
        lowering job :: build.roster.jobs.map lowering⟩
    ∃ trace files,
      (build.compile runner job).2.machine.calls = build.machine.calls ++ trace ∧
      Ran runner build.files build.machine.hand trace files
        (build.compile runner job).2.machine.hand ∧
      (∃ call, trace.getLast? = some call ∧
        call.outcome = .ok ⟨report.rawOutput, report.exitCode⟩) ∧
      ∃ added,
        (build.compile runner job).2.diagnostics = build.diagnostics ++ added ∧
        added = (style.parseOutput report.rawOutput).filterMap
          (fun finding => (scope.diagnose files finding).toOption) ∧
        (∀ finding, (scope.diagnose files finding).toOption = none ↔
          scope.Drops files finding) ∧
        (∀ finding diagnostic, scope.diagnose files finding = .ok diagnostic →
          diagnostic.severity = finding.severity ∧ diagnostic.message = finding.message ∧
            diagnostic.code = finding.code) ∧
        Diagnostic.errorCount added =
          (Text.lines report.rawOutput.toList).countP style.isErrorLine := by
  intro scope
  obtain ⟨trace, hcompiled⟩ := build.compile_cases runner job
  rw [h] at hcompiled
  cases hcompiled with
  | finished hsel hc hr he =>
    have hnew := he.diagnostics
    dsimp only [reportOf] at hs ⊢
    rw [newDiagnostics_of_lineStyle hs] at hnew
    refine ⟨_, _, he.calls, he.ran, ⟨_, List.getLast?_concat, Call.outcome_of_result_ok hr⟩, _,
      hnew, rfl, fun _ => Scope.diagnose_eq_error_iff, fun _ _ => Scope.diagnose_eq_ok, ?_⟩
    rw [Scope.errorCount_diagnostics, LineStyle.countP_parseOutput]

theorem compile_diagnostics_one_error :
    ∃ report, (Sample.build.compile (Sample.runner Sample.output) Sample.job).1 = .ok report ∧
      report.family.lineStyle = some .gnu ∧
      Diagnostic.errorCount
        (Sample.build.compile (Sample.runner Sample.output) Sample.job).2.diagnostics = 1 := by
  have h : (Sample.build.compile (Sample.runner Sample.output) Sample.job).1 =
      .ok ⟨false, .gcc, 0, 1, "/a", Sample.output⟩ := eq_ok_of_toOption (by decide +kernel)
  obtain ⟨_, _, _, _, _, added, hadded, -, -, -, hcount⟩ := compile_diagnostics h rfl
  refine ⟨_, h, rfl, ?_⟩
  rw [hadded, show Sample.build.diagnostics ++ added = added from rfl, hcount]
  decide +kernel

/-! ## The verdict -/

def isProbe (call : Call) : Bool := call.command = probe call.command.program

/-- The family the calls of a compile tell: that of the banner. The native compiler is never
asked for one. -/
def detected (trace : List Call) : Family :=
  match trace.find? isProbe with
  | some call => call.outcome.toOption.elim .unknown fun completion => .ofBanner completion.output
  | none => .msvc

/-- No line of an output is an error of the family; an unknown family has no errors. -/
def Clean (family : Family) (output : String) : Prop :=
  family = .unknown ∨ ∃ style, family.lineStyle = some style ∧
    ∀ line ∈ Text.lines output.toList, style.isErrorLine line = false

/-- Nothing kept a compile from its end, told from what was there before it and from its calls. -/
structure Unhindered (build : Build σ) (trace : List Call) : Prop where
  header : build.files.isFile build.options.coreHeader = true
  started : ∀ call ∈ trace, ∃ completion, call.outcome = .ok completion
  probed : ∀ call ∈ trace, isProbe call = true →
    ∀ completion, call.outcome = .ok completion → completion.code = 0

/-- Nor was there an error at the end. -/
structure Flawless (build : Build σ) (job : Job) (trace : List Call) : Prop
    extends Unhindered build trace where
  compiled : ∃ call toolchain completion, trace.getLast? = some call ∧
    toolchain.family = detected trace ∧
    (build.assembly job toolchain).command = .ok call.command ∧
    call.outcome = .ok completion ∧ completion.code = 0 ∧
    Clean (detected trace) completion.output

theorem isProbe_of_command {call : Call} {compiler : String} (h : call.command = probe compiler) :
    isProbe call = true := by
  simp [isProbe, h, probe]

theorem isProbe_query {call : Call} (h : call.command = VisualStudio.query) :
    isProbe call = false := by
  unfold isProbe
  rw [h]
  decide

theorem isProbe_assembly {call : Call} {assembly : Assembly}
    (h : assembly.command = .ok call.command) : isProbe call = false := by
  rw [Assembly.command_eq] at h
  rw [isProbe, ← Except.ok.inj h]
  simp only [probe, decide_eq_false_iff_not, Command.mk.injEq, not_and]
  intro _ hargs
  exact absurd hargs assembly.args_ne_version

theorem probed_eq_ok {compiler : String} {call : Call} {toolchain : Toolchain}
    (h : probed compiler call = .ok toolchain) :
    ∃ completion, call.outcome = .ok completion ∧ completion.code = 0 ∧
      toolchain.family = .ofBanner completion.output := by
  unfold probed at h
  split at h
  · cases h
  · next completion hr =>
    split at h
    · next hcode =>
      cases h
      exact ⟨completion, Call.outcome_of_result_ok hr, by simpa [Completion.succeeded] using hcode,
        rfl⟩
    · cases h

theorem probed_eq_error {compiler : String} {call : Call} {fault : Fault}
    (h : probed compiler call = .error fault) :
    (∃ cause, call.outcome = .error cause) ∨
      ∃ completion, call.outcome = .ok completion ∧ completion.code ≠ 0 := by
  unfold probed at h
  split at h
  · next hr => exact .inl (Call.outcome_of_result_error hr)
  · next completion hr =>
    split at h
    · cases h
    · next hcode =>
      exact .inr ⟨completion, Call.outcome_of_result_ok hr,
        by simpa [Completion.succeeded] using hcode⟩

/-- The calls that chose a toolchain of a family all went well, and tell the family whatever is
called next. -/
structure Smooth (trace : List Call) (family : Family) : Prop where
  started : ∀ call ∈ trace, ∃ completion, call.outcome = .ok completion
  probed : ∀ call ∈ trace, isProbe call = true →
    ∀ completion, call.outcome = .ok completion → completion.code = 0
  family : ∀ last, isProbe last = false → detected (trace ++ [last]) = family

theorem Smooth.probe (before : List Call) {call : Call} {compiler : String} {toolchain : Toolchain}
    (hb : ∀ earlier ∈ before, isProbe earlier = false ∧
      ∃ completion, earlier.outcome = .ok completion)
    (hc : call.command = Build.probe compiler) (hp : Build.probed compiler call = .ok toolchain) :
    Smooth (before ++ [call]) toolchain.family := by
  obtain ⟨completion, ho, hcode, hfamily⟩ := probed_eq_ok hp
  have hnone : before.find? isProbe = none := by
    rw [List.find?_eq_none]
    intro earlier hmem
    simp [(hb earlier hmem).1]
  refine ⟨?_, ?_, ?_⟩
  · intro other hmem
    rcases List.mem_append.mp hmem with hmem | hmem
    · exact (hb other hmem).2
    · exact List.mem_singleton.mp hmem ▸ ⟨completion, ho⟩
  · intro other hmem hprobe done hdone
    rcases List.mem_append.mp hmem with hmem | hmem
    · rw [(hb other hmem).1] at hprobe
      cases hprobe
    · rw [List.mem_singleton.mp hmem, ho] at hdone
      exact Except.ok.inj hdone ▸ hcode
  · intro last _
    simp [detected, hnone, isProbe_of_command hc, ho, hfamily, Except.toOption]

theorem Smooth.native {locator : Call} {completion : Completion}
    (hq : locator.command = VisualStudio.query) (hr : locator.result = .ok completion) :
    Smooth [locator] .msvc := by
  refine ⟨?_, ?_, ?_⟩
  · intro call hmem
    exact List.mem_singleton.mp hmem ▸ ⟨completion, Call.outcome_of_result_ok hr⟩
  · intro call hmem hprobe
    rw [List.mem_singleton.mp hmem, isProbe_query hq] at hprobe
    cases hprobe
  · intro last hlast
    simp [detected, isProbe_query hq, hlast]

theorem Smooth.flawless {toolchain : Toolchain} {call : Call} {completion : Completion}
    (h : Smooth trace toolchain.family)
    (hh : build.files.isFile build.options.coreHeader = true)
    (hc : (build.assembly job toolchain).command = .ok call.command)
    (ho : call.outcome = .ok completion) (hcode : completion.code = 0)
    (hclean : Clean toolchain.family completion.output) :
    Flawless build job (trace ++ [call]) := by
  have hfamily := h.family call (isProbe_assembly hc)
  refine ⟨⟨hh, ?_, ?_⟩, call, toolchain, completion, List.getLast?_concat, hfamily.symm, hc, ho,
    hcode, hfamily ▸ hclean⟩
  · intro other hmem
    rcases List.mem_append.mp hmem with hmem | hmem
    · exact h.started other hmem
    · exact List.mem_singleton.mp hmem ▸ ⟨completion, ho⟩
  · intro other hmem hp
    rcases List.mem_append.mp hmem with hmem | hmem
    · exact h.probed other hmem hp
    · rw [List.mem_singleton.mp hmem, isProbe_assembly hc] at hp
      cases hp

theorem Selected.of_ok {toolchain : Toolchain} (h : Selected build job trace (.ok toolchain)) :
    build.files.isFile build.options.coreHeader = true ∧ Smooth trace toolchain.family := by
  generalize hchosen : (Except.ok toolchain : Except Fault Toolchain) = chosen at h
  cases h with
  | noHeader hh => cases hchosen
  | asked hh hw hne hc => exact ⟨hh, .probe [] (by simp) hc hchosen.symm⟩
  | generic hh hw host hc => exact ⟨hh, Smooth.probe [] (by simp) hc hchosen.symm⟩
  | noLocator hh hw host hq hr => cases hchosen
  | native hh hw host hq hr hp =>
    cases hchosen
    exact ⟨hh, .native hq hr⟩
  | fallback hh hw host hq hr hc =>
    refine ⟨hh, Smooth.probe [_] ?_ hc hchosen.symm⟩
    intro earlier hmem
    rw [List.mem_singleton.mp hmem]
    exact ⟨isProbe_query hq, _, Call.outcome_of_result_ok hr⟩

theorem Unhindered.not_unstarted (h : Unhindered build trace) {call : Call} (hmem : call ∈ trace)
    {cause : OsError} : call.outcome ≠ .error cause := by
  obtain ⟨completion, hok⟩ := h.started call hmem
  simp [hok]

/-- Without a toolchain the header was missing, or a call did not start or, asking for a banner,
failed. -/
theorem Selected.hindered {fault : Fault} (h : Selected build job trace (.error fault)) :
    ¬ Unhindered build trace := by
  intro hu
  generalize hchosen : (Except.error fault : Except Fault Toolchain) = chosen at h
  have hasked {compiler : String} {call : Call} (hmem : call ∈ trace)
      (hc : call.command = probe compiler) (hp : probed compiler call = .error fault) : False := by
    rcases probed_eq_error hp with ⟨cause, ho⟩ | ⟨completion, ho, hcode⟩
    · exact hu.not_unstarted hmem ho
    · exact hcode (hu.probed call hmem (isProbe_of_command hc) completion ho)
  cases h with
  | noHeader hh => exact Bool.false_ne_true (hh.symm.trans hu.header)
  | asked hh hw hne hc => exact hasked (by simp) hc hchosen.symm
  | generic hh hw host hc => exact hasked (by simp) hc hchosen.symm
  | noLocator hh hw host hq hr =>
    obtain ⟨cause, ho⟩ := Call.outcome_of_result_error hr
    exact hu.not_unstarted (by simp) ho
  | native hh hw host hq hr hp => cases hchosen
  | fallback hh hw host hq hr hc => exact hasked (by simp) hc hchosen.symm

/-- A compile that nothing kept from it has its command as the last call. -/
theorem Compiled.compiles {outcome : Except Fault Report}
    (h : Compiled runner build job trace outcome build') (hu : Unhindered build trace) :
    ∃ call toolchain, trace.getLast? = some call ∧ toolchain.family = detected trace ∧
      (build.assembly job toolchain).command = .ok call.command := by
  obtain ⟨choice, chosen, hs, herror, hok⟩ := h.choice
  cases chosen with
  | error fault =>
    -- then the calls that chose are all there are
    obtain ⟨-, rfl⟩ := herror fault rfl
    exact absurd hu hs.hindered
  | ok toolchain =>
    obtain ⟨call, hc, rfl⟩ := hok toolchain rfl
    exact ⟨call, toolchain, List.getLast?_concat,
      (hs.of_ok.2.family call (isProbe_assembly hc)).symm, hc⟩

/-- No error of an output is lost, so where none is found there was none. -/
theorem anyError_diagnostics (scope : Scope) (files : Files) (style : LineStyle) (output : String) :
    Diagnostic.anyError (scope.diagnostics files (style.parseOutput output)) = false ↔
      ∀ line ∈ Text.lines output.toList, style.isErrorLine line = false := by
  have hcount := Scope.errorCount_diagnostics scope files (style.parseOutput output)
  rw [LineStyle.countP_parseOutput] at hcount
  calc Diagnostic.anyError (scope.diagnostics files (style.parseOutput output)) = false
      ↔ Diagnostic.errorCount (scope.diagnostics files (style.parseOutput output)) = 0 := by
        simp [Diagnostic.anyError, Diagnostic.errorCount]
    _ ↔ ∀ line ∈ Text.lines output.toList, style.isErrorLine line = false := by
        rw [hcount]
        simp

theorem reportOf_succeeded (build : Build σ) (job : Job) (family : Family) (files : Files)
    (completion : Completion) :
    (reportOf (build.newDiagnostics job family files completion.output) job family
      completion).succeeded = true ↔ completion.code = 0 ∧ Clean family completion.output := by
  by_cases hu : family = .unknown
  · subst hu
    simp [reportOf, Family.lineStyle, Completion.succeeded, Clean]
  · obtain ⟨style, hs⟩ := Family.exists_lineStyle hu
    rw [newDiagnostics_of_lineStyle hs]
    simp [reportOf, hs, Completion.succeeded, Clean, hu, anyError_diagnostics]

theorem Compiled.calls {outcome : Except Fault Report}
    (h : Compiled runner build job trace outcome build') :
    build'.machine.calls = build.machine.calls ++ trace := by
  cases h with
  | notSelected hs he => exact he.calls
  | notStarted hs hc hr he => exact he.calls
  | finished hs hc hr he => exact he.calls

/-- A compile on a build without diagnostics succeeds exactly if it was flawless. -/
theorem Compiled.succeeded_iff {outcome : Except Fault Report}
    (hd : build.diagnostics = []) (h : Compiled runner build job trace outcome build') :
    (∃ report, outcome = .ok report ∧ report.succeeded = true) ↔ Flawless build job trace := by
  cases h with
  | notSelected hs he =>
    exact ⟨fun ⟨_, h, _⟩ => (nomatch h), fun hf => absurd hf.toUnhindered hs.hindered⟩
  | notStarted hs hc hr he =>
    obtain ⟨cause, ho⟩ := Call.outcome_of_result_error hr
    exact ⟨fun ⟨_, h, _⟩ => (nomatch h),
      fun hf => absurd ho (hf.not_unstarted List.mem_concat_self)⟩
  | @finished toolchain call completion trace files _ hs hc hr he =>
    obtain ⟨hh, hsmooth⟩ := hs.of_ok
    have ho := Call.outcome_of_result_ok hr
    have hverdict : (reportOf build'.diagnostics job toolchain.family completion).succeeded =
        true ↔ completion.code = 0 ∧ Clean toolchain.family completion.output := by
      rw [he.diagnostics, hd, List.nil_append]
      exact build.reportOf_succeeded job _ _ _
    constructor
    · rintro ⟨report, hreport, hsucc⟩
      obtain ⟨hcode, hclean⟩ := hverdict.mp (Except.ok.inj hreport ▸ hsucc)
      exact hsmooth.flawless hh hc ho hcode hclean
    · intro hf
      obtain ⟨last, _, done, hlast, -, -, hdone, hcode, hclean⟩ := hf.compiled
      -- the last call is the compile, and it ended only once
      rw [List.getLast?_concat] at hlast
      rw [← Option.some.inj hlast, ho] at hdone
      obtain rfl := Except.ok.inj hdone
      rw [hsmooth.family call (isProbe_assembly hc)] at hclean
      exact ⟨_, rfl, hverdict.mpr ⟨hcode, hclean⟩⟩

end Build

/-! ## The exit code -/

namespace Arguments

theorem generated_ne_nil {args : Arguments} {defaults : Defaults} {words : List String}
    (h : parse defaults words = .ok args) : args.generated ≠ [] := by
  unfold parse at h
  cases hscan : scan {} words with
  | error cause => rw [hscan] at h; cases h
  | ok scanned =>
    cases hfill : scanned.fill defaults with
    | error cause =>
      rw [hscan] at h
      simp only [bind, Except.bind, hfill] at h
      cases h
    | ok filled =>
      rw [hscan] at h
      simp only [bind, Except.bind, hfill, validate] at h
      split at h
      · cases h
      · split at h
        · cases h
        · next hne =>
          cases h
          simpa using hne

end Arguments

namespace Program

/-- Jobs made of orders one after another, all of whose sources could be created. -/
inductive Added : Build σ → List Order → List JobId → Build σ → Prop
  | nil : Added build [] [] build
  | cons {id : JobId} (hadd : build.addUnit order = (.ok id, middle))
      (rest : Added middle orders ids build') :
    Added build (order :: orders) (id :: ids) build'

theorem addUnits_eq_ok_iff {build build' : Build σ} {orders : List Order} {ids : List JobId} :
    addUnits build orders = (.ok ids, build') ↔ Added build orders ids build' := by
  constructor
  · intro h
    fun_induction addUnits build orders generalizing ids build' with
    | case1 build => cases h; exact .nil
    | case2 => cases h
    | case3 build order rest id middle hadd ids' after hrest ih =>
      cases h
      exact .cons hadd (ih hrest)
    | case4 => cases h
  · intro h
    induction h with
    | nil => rfl
    | cons hadd _ ih => simp [addUnits, hadd, ih]

theorem Added.diagnostics {build build' : Build σ} (h : Added build orders ids build') :
    build'.diagnostics = build.diagnostics := by
  induction h with
  | nil => rfl
  | cons hadd _ ih =>
    rw [ih]
    exact congrArg (·.2.diagnostics) hadd.symm

def Succeeds (build : Build σ) (runner : Runner σ) (id : JobId) : Prop :=
  ∃ report, (build.compileJob runner id).1 = .ok report ∧ report.succeeded = true

theorem check_eq_ok_iff {outcome : Except Fault Report} :
    (outcome.bind Report.check).map (fun _ => ()) = .ok () ↔
      ∃ report, outcome = .ok report ∧ report.succeeded = true := by
  cases outcome with
  | error fault => simp [Except.bind, Except.map]
  | ok report => cases hs : report.succeeded <;> simp [Except.bind, Except.map, Report.check, hs]

theorem buildFirst_eq_ok_iff {build : Build σ} {runner : Runner σ} {orders : List Order}
    (hne : orders ≠ []) : (buildFirst build runner orders).1 = .ok () ↔
      ∃ id ids build', Added build orders (id :: ids) build' ∧ Succeeds build' runner id := by
  simp only [← addUnits_eq_ok_iff, Succeeds]
  unfold buildFirst
  split
  · next h => simp [h]
  · next build' h =>
    -- every order is a job by now
    cases addUnits_eq_ok_iff.mp h
    exact absurd rfl hne
  · next id ids build' h =>
    simp only [check_eq_ok_iff]
    constructor
    · intro hs
      exact ⟨id, ids, build', h, hs⟩
    · rintro ⟨_, _, _, h', hs⟩
      rw [h] at h'
      cases h'
      exact hs

def opened (runner : Runner σ) (hand : σ) (config : Config) (installed : Option String)
    (work : Workspace) : Build σ where
  machine := { work, hand }
  options := config.options runner.host installed
  renderer := { colors := false }

theorem runConfig_fst (runner : Runner σ) (hand : σ) (config : Config) (installed : Option String)
    (work : Workspace) : (runConfig runner hand config installed work).1 = true ↔
      ∃ orders, config.orders work.files runner.host = .ok orders ∧
        (buildFirst (opened runner hand config installed work) runner orders).1 = .ok () := by
  unfold runConfig
  cases config.orders work.files runner.host with
  | error fault => simp
  | ok orders =>
    simp only [Except.ok.injEq, exists_eq_left', opened]
    split
    · next h => simp [h]
    · next h => simp [h]

theorem run_code (runner : Runner σ) (hand : σ) {environment : Environment} {words : List String}
    {args : Arguments} (work : Workspace)
    (hp : Arguments.parse environment.defaults words = .ok args) :
    let well := ∃ config, args.config = .ok config ∧ (runConfig runner hand config
      (CoreHeader.installed? work.files environment.program) work).1 = true
    (run runner hand environment words work).code = 0 ∧ well ∨
      (run runner hand environment words work).code = 1 ∧ ¬ well := by
  unfold run
  rw [hp]
  cases hc : args.config with
  | error mismatch => simp [hc]
  | ok config =>
    cases hr : (runConfig runner hand config
      (CoreHeader.installed? work.files environment.program) work).1 <;> simp [hc, hr]

end Program

/-- The verdict on a build and the exit code of the program are exact. A compile that nothing keeps
from it does start its command. -/
theorem verdict_exact (runner : Runner σ) :
    (∀ (build : Build σ) (job : Job), build.diagnostics = [] →
      ∃ trace, (build.compile runner job).2.machine.calls = build.machine.calls ++ trace ∧
        ((∃ report, (build.compile runner job).1 = .ok report ∧ report.succeeded = true) ↔
          build.Flawless job trace) ∧
        (build.Unhindered trace → ∃ call toolchain, trace.getLast? = some call ∧
          toolchain.family = Build.detected trace ∧
          (build.assembly job toolchain).command = .ok call.command)) ∧
    ∀ (hand : σ) (environment : Program.Environment) (words : List String) (work : Workspace)
      (args : Arguments), Arguments.parse environment.defaults words = .ok args →
      let code := (Program.run runner hand environment words work).code
      let installed := CoreHeader.installed? work.files environment.program
      (code = 0 ∨ code = 1) ∧
      (code = 0 ↔ ∃ config, args.config = .ok config ∧
        (∀ unit ∈ config.units, Config.Loads work.files unit) ∧
        ∃ orders id ids build, config.orders work.files runner.host = .ok orders ∧
          Program.Added (Program.opened runner hand config installed work) orders (id :: ids)
            build ∧ build.diagnostics = [] ∧ Program.Succeeds build runner id) := by
  refine ⟨?_, ?_⟩
  · intro build job hd
    obtain ⟨trace, h⟩ := build.compile_cases runner job
    exact ⟨trace, h.calls, h.succeeded_iff hd, h.compiles⟩
  · intro hand environment words work args hp code installed
    have hwell : (∃ config, args.config = .ok config ∧
        (Program.runConfig runner hand config installed work).1 = true) ↔
        ∃ config, args.config = .ok config ∧
          (∀ unit ∈ config.units, Config.Loads work.files unit) ∧
          ∃ orders id ids build, config.orders work.files runner.host = .ok orders ∧
            Program.Added (Program.opened runner hand config installed work) orders (id :: ids)
              build ∧ build.diagnostics = [] ∧ Program.Succeeds build runner id := by
      refine exists_congr fun config => and_congr_right fun hconfig => ?_
      have hunits := Arguments.units_ne_nil hconfig (Arguments.generated_ne_nil hp)
      rw [Program.runConfig_fst]
      constructor
      · rintro ⟨orders, ho, hb⟩
        obtain ⟨id, ids, build, hadd, hs⟩ :=
          (Program.buildFirst_eq_ok_iff (Config.orders_ne_nil ho hunits)).mp hb
        exact ⟨Config.exists_orders_iff.mp ⟨orders, ho⟩, orders, id, ids, build, ho, hadd,
          hadd.diagnostics, hs⟩
      · rintro ⟨-, orders, id, ids, build, ho, hadd, -, hs⟩
        exact ⟨orders, ho, (Program.buildFirst_eq_ok_iff (Config.orders_ne_nil ho hunits)).mpr
          ⟨id, ids, build, hadd, hs⟩⟩
    rw [← hwell]
    rcases Program.run_code runner hand work hp with ⟨hcode, hok⟩ | ⟨hcode, hno⟩
    · exact ⟨.inl hcode, fun _ => hok, fun _ => hcode⟩
    · exact ⟨.inr hcode, fun hzero => absurd (hzero.symm.trans hcode) Nat.zero_ne_one,
        fun hok => absurd hok hno⟩

theorem verdict_exact_samples :
    (∃ trace, (Sample.build.compile (Sample.runner "") Sample.job).2.machine.calls = [] ++ trace ∧
      Sample.build.Flawless Sample.job trace) ∧
    Arguments.parse {} ["g.cxir"] = .ok { generated := ["g.cxir"] } ∧
    (Program.run (Sample.runner "") () {} ["g.cxir"] Sample.work).code = 0 ∧
    (∃ build id, Program.Succeeds build (Sample.runner "") id) ∧
    Arguments.parse {} ["gone.cxir"] = .ok { generated := ["gone.cxir"] } ∧
    (Program.run (Sample.runner "") () {} ["gone.cxir"] Sample.work).code = 1 := by
  have hmade : Arguments.parse {} ["g.cxir"] = .ok { generated := ["g.cxir"] } :=
    eq_ok_of_toOption (by decide +kernel)
  have hgone : Arguments.parse {} ["gone.cxir"] = .ok { generated := ["gone.cxir"] } :=
    eq_ok_of_toOption (by decide +kernel)
  have hreport : (Sample.build.compile (Sample.runner "") Sample.job).1 =
      .ok ⟨true, .gcc, 0, 0, "/a", ""⟩ := eq_ok_of_toOption (by decide +kernel)
  have hzero : (Program.run (Sample.runner "") () {} ["g.cxir"] Sample.work).code = 0 := by
    decide +kernel
  obtain ⟨hverdict, hrun⟩ := verdict_exact (Sample.runner "")
  obtain ⟨trace, hcalls, hiff, -⟩ := hverdict Sample.build Sample.job rfl
  obtain ⟨config, -, -, orders, id, ids, build, -, -, -, hs⟩ :=
    (hrun () {} ["g.cxir"] Sample.work _ hmade).2.mp hzero
  refine ⟨⟨trace, hcalls, hiff.mp ⟨_, hreport, rfl⟩⟩, hmade, hzero, ⟨build, id, hs⟩, hgone, ?_⟩
  obtain ⟨hgood | hbad, hiff⟩ := hrun () {} ["gone.cxir"] Sample.work _ hgone
  · obtain ⟨config, hc, hloads, -⟩ := hiff.mp hgood
    cases hc
    obtain ⟨⟨text, ht⟩, -⟩ := hloads ⟨"gone.cxir", "gone.cxir", none⟩ (by decide)
    have hnone : (Config.readSource Sample.work.files "gone.cxir").toOption = none := by
      decide +kernel
    rw [ht] at hnone
    cases hnone
  · exact hbad

end Retrace
