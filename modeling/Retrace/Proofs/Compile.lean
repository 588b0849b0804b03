import Retrace.Build.Compile
import Retrace.Proofs.Files

/-!
# What one compile does

Every compile is a choice of a toolchain, at most one compile command, and the
tidying up behind it. `Compiled` says once which calls are made for which
reason, how the outcome follows from them, and what becomes of the build; the
claims about compiles are read off it without opening `compile` again.
-/

namespace Retrace

/-! ## Calls in a row -/

/-- Commands started one after another, each on the files that the one before it left. -/
inductive Ran (runner : Runner σ) : Files → σ → List Call → Files → σ → Prop
  | done : Ran runner files hand [] files hand
  | next (hs : runner.start command files hand = (reply, middle))
      (rest : Ran runner reply.files middle trace after final) :
      Ran runner files hand
        (⟨command, command.render runner.host, files, reply.outcome⟩ :: trace) after final

theorem Ran.append (first : Ran runner files hand trace middle hand₁)
    (second : Ran runner middle hand₁ trace₁ after hand₂) :
    Ran runner files hand (trace ++ trace₁) after hand₂ := by
  induction first with
  | done => exact second
  | next hs _ ih => exact .next hs (ih second)

def Call.result (call : Call) : Except Fault Completion :=
  match call.outcome with
  | .ok completion => .ok completion
  | .error cause => .error (.notStarted call.line cause)

theorem Call.outcome_of_result_ok {call : Call} (h : call.result = .ok completion) :
    call.outcome = .ok completion := by
  unfold result at h
  split at h
  · next ho => rw [ho, Except.ok.inj h]
  · cases h

theorem Call.outcome_of_result_error {call : Call} (h : call.result = .error fault) :
    ∃ cause, call.outcome = .error cause := by
  unfold result at h
  split at h
  · cases h
  · next cause ho => exact ⟨cause, ho⟩

/-! ## The compile command -/

def Flag.words (flag : Flag) (dialect : Family) : List String :=
  (flag.arguments dialect).toOption.getD []

theorem Flag.arguments_eq (flag : Flag) {dialect : Family} (h : dialect ≠ .unknown) :
    flag.arguments dialect = .ok (flag.words dialect) := by
  obtain ⟨text, ht⟩ := flag.spelling_ok h
  simp [words, arguments, ht, Except.map, Except.toOption]

namespace Assembly

def Item.words (dialect : Family) : Item → List String
  | .flag own => own.words dialect
  | .path given => [Path.slashed given]
  | .text given => [given]

theorem Item.arguments_eq {dialect : Family} (h : dialect ≠ .unknown) (item : Item) :
    item.arguments dialect = .ok (item.words dialect) := by
  cases item with
  | flag own => exact own.arguments_eq h
  | path given => rfl
  | text given => rfl

theorem mapM_arguments {dialect : Family} (h : dialect ≠ .unknown) (items : List Item) :
    items.mapM (Item.arguments dialect) = .ok (items.map (Item.words dialect)) := by
  induction items with
  | nil => rfl
  | cons item rest ih =>
    rw [List.mapM_cons, Item.arguments_eq h, ih]
    rfl

theorem command_eq (a : Assembly) :
    a.command = .ok {
      program := a.compiler
      args := a.items.flatMap (Item.words a.family.dialect)
      merged := a.script.isNone
      script := a.script } := by
  rw [command, mapM_arguments a.family.dialect_ne_unknown]
  rfl

theorem head?_args (a : Assembly) :
    (a.items.flatMap (Item.words a.family.dialect)).head? = some "-include" ∨
      (a.items.flatMap (Item.words a.family.dialect)).head? = some "/FI" := by
  have hfirst : ∀ family, Flag.includeHeader.words (Family.dialect family) = ["-include"] ∨
      Flag.includeHeader.words (Family.dialect family) = ["/FI"] := by
    intro family
    cases family <;> decide
  simp only [items, options, List.cons_append, List.flatMap_cons, Item.words]
  rcases hfirst a.family with hw | hw <;> simp [hw]

theorem args_ne_version (a : Assembly) :
    a.items.flatMap (Item.words a.family.dialect) ≠ ["--version"] := by
  intro h
  rcases a.head?_args with hw | hw <;> simp [h] at hw

end Assembly

/-! ## Tidying up -/

theorem Job.files_discard (job : Job) (work : Workspace) :
    (job.discard work).files =
      if job.isLive then work.files.discard job.generated else work.files := by
  unfold discard cleanup isLive Files.discard
  cases job.custody with
  | none => rfl
  | some custody =>
    dsimp only
    split
    · next hr => simp [hr]
    · next hr => simp [hr]
    · next hr => simp [hr]

namespace Build

variable {runner : Runner σ} {build build' build₁ build₂ : Build σ} {job : Job}
  {trace trace₁ : List Call} {added added₁ : List Diagnostic}

@[simp] theorem files_enter (stage : Stage) : (build.enter stage).files = build.files := rfl

@[simp] theorem options_enter (stage : Stage) : (build.enter stage).options = build.options := rfl

@[simp] theorem wanted_enter (stage : Stage) : (build.enter stage).wanted job = build.wanted job :=
  rfl

/-- From one build to another by calls and reports alone: what the calls did to the files apart,
only the log, the stage and the renderer may differ. -/
structure Advance (runner : Runner σ) (build : Build σ) (trace : List Call)
    (added : List Diagnostic) (build' : Build σ) : Prop where
  calls : build'.machine.calls = build.machine.calls ++ trace
  ran : Ran runner build.files build.machine.hand trace build'.files build'.machine.hand
  options : build'.options = build.options
  roster : build'.roster = build.roster
  diagnostics : build'.diagnostics = build.diagnostics ++ added

namespace Advance

theorem refl : Advance runner build [] [] build :=
  ⟨(List.append_nil _).symm, .done, rfl, rfl, (List.append_nil _).symm⟩

theorem trans (first : Advance runner build trace added build₁)
    (second : Advance runner build₁ trace₁ added₁ build₂) :
    Advance runner build (trace ++ trace₁) (added ++ added₁) build₂ where
  calls := by rw [second.calls, first.calls, List.append_assoc]
  ran := first.ran.append second.ran
  options := second.options.trans first.options
  roster := second.roster.trans first.roster
  diagnostics := by rw [second.diagnostics, first.diagnostics, List.append_assoc]

theorem say (h : Advance runner build trace added build₁) (level : Level) (topic : Topic)
    (message : String) : Advance runner build trace added (build₁.say level topic message) :=
  ⟨h.calls, h.ran, h.options, h.roster, h.diagnostics⟩

theorem debug (h : Advance runner build trace added build₁) (message : String) :
    Advance runner build trace added (build₁.debug message) := h.say _ _ _

theorem enter (h : Advance runner build trace added build₁) (stage : Stage) :
    Advance runner build trace added (build₁.enter stage) :=
  ⟨h.calls, h.ran, h.options, h.roster, h.diagnostics⟩

theorem sayAll (h : Advance runner build trace added build₁) (records : List Record) :
    Advance runner build trace added (build₁.sayAll records) :=
  ⟨h.calls, h.ran, h.options, h.roster, h.diagnostics⟩

theorem report (diagnostics : List Diagnostic) :
    Advance runner build [] diagnostics (build.report diagnostics) :=
  ⟨(List.append_nil _).symm, .done, rfl, rfl, rfl⟩

end Advance

theorem run_cases {command : Command} {outcome : Except Fault Completion}
    (h : build.run runner command = (outcome, build')) :
    ∃ call : Call, call.command = command ∧ Advance runner build [call] [] build' ∧
      outcome = call.result := by
  unfold run Machine.run at h
  cases h
  exact ⟨⟨command, _, _, _⟩, rfl,
    ⟨rfl, .next rfl .done, rfl, rfl, (List.append_nil _).symm⟩, rfl⟩

/-! ## The choice of a toolchain -/

def probed (compiler : String) (call : Call) : Except Fault Toolchain :=
  match call.result with
  | .error fault => .error fault
  | .ok completion =>
    if completion.succeeded then .ok { family := .ofBanner completion.output, compiler }
    else .error (notFound compiler completion.code)

theorem detect_cases {compiler : String} {outcome : Except Fault Toolchain}
    (h : build.detect runner compiler = (outcome, build')) :
    ∃ call : Call, call.command = probe compiler ∧ Advance runner build [call] [] build' ∧
      outcome = probed compiler call := by
  unfold detect at h
  split at h
  · next hr =>
    obtain ⟨call, hc, hadv, hres⟩ := run_cases hr
    cases h
    exact ⟨call, hc, hadv, by simp [probed, ← hres]⟩
  · next hr =>
    obtain ⟨call, hc, hadv, hres⟩ := run_cases hr
    split at h
    · next hcode =>
      cases h
      rw [Bool.not_eq_true'] at hcode
      exact ⟨call, hc, hadv, by simp [probed, ← hres, hcode]⟩
    · next hcode =>
      cases h
      rw [Bool.not_eq_true', Bool.not_eq_false] at hcode
      exact ⟨call, hc, hadv.debug _, by simp [probed, ← hres, hcode]⟩

theorem locate_cases {machine : Machine σ} {found : Except Fault String}
    (h : VisualStudio.locate build.machine runner = (found, machine)) :
    ∃ call : Call, call.command = VisualStudio.query ∧
      Advance runner build [call] [] { build with machine } ∧
      ((∃ fault, call.result = .error fault ∧ found = .error fault) ∨
        ∃ completion, call.result = .ok completion ∧
          ((∃ path, VisualStudio.installation? completion.output = some path ∧
              found = .ok (VisualStudio.scriptPath path)) ∨
            ∃ compiler reason, found = .error (.toolchainNotFound compiler reason))) := by
  have hrun (outcome : Except Fault Completion) (machine : Machine σ)
      (hr : build.machine.run runner VisualStudio.query = (outcome, machine)) :
      build.run runner VisualStudio.query = (outcome, { build with machine }) := by
    simp [run, hr]
  unfold VisualStudio.locate at h
  split at h
  · next hr =>
    obtain ⟨call, hc, hadv, hres⟩ := run_cases (hrun _ _ hr)
    cases h
    exact ⟨call, hc, hadv, .inl ⟨_, hres.symm, rfl⟩⟩
  · next hr =>
    obtain ⟨call, hc, hadv, hres⟩ := run_cases (hrun _ _ hr)
    split at h
    · cases h
      exact ⟨call, hc, hadv, .inr ⟨_, hres.symm, .inr ⟨_, _, rfl⟩⟩⟩
    · split at h
      · cases h
        exact ⟨call, hc, hadv, .inr ⟨_, hres.symm, .inr ⟨_, _, rfl⟩⟩⟩
      · next path hp =>
        cases h
        refine ⟨call, hc, hadv.say _ _ _, .inr ⟨_, hres.symm, ?_⟩⟩
        split
        · exact .inr ⟨_, _, rfl⟩
        · split
          · exact .inl ⟨path, hp, rfl⟩
          · exact .inr ⟨_, _, rfl⟩

/-- The calls made to choose a toolchain, and what was chosen. -/
inductive Selected (build : Build σ) (job : Job) : List Call → Except Fault Toolchain → Prop
  | noHeader (hh : build.files.isFile build.options.coreHeader = false) :
    Selected build job [] (.error (.missingRuntime build.options.coreHeader))
  | asked (hh : build.files.isFile build.options.coreHeader = true)
      (hw : build.wanted job = compiler) (hne : compiler ≠ "")
      (hc : call.command = probe compiler) :
    Selected build job [call] (probed compiler call)
  | generic (hh : build.files.isFile build.options.coreHeader = true)
      (hw : build.wanted job = "") (host : build.options.host = .posix)
      (hc : call.command = probe Toolchain.generic) :
    Selected build job [call] (probed Toolchain.generic call)
  | noLocator (hh : build.files.isFile build.options.coreHeader = true)
      (hw : build.wanted job = "") (host : build.options.host = .windows)
      (hq : locator.command = VisualStudio.query) (hr : locator.result = .error fault) :
    Selected build job [locator] (.error fault)
  | native {path : String} (hh : build.files.isFile build.options.coreHeader = true)
      (hw : build.wanted job = "") (host : build.options.host = .windows)
      (hq : locator.command = VisualStudio.query) (hr : locator.result = .ok completion)
      (hp : VisualStudio.installation? completion.output = some path) :
    Selected build job [locator]
      (.ok ⟨.msvc, VisualStudio.compiler, some (VisualStudio.scriptPath path)⟩)
  | fallback (hh : build.files.isFile build.options.coreHeader = true)
      (hw : build.wanted job = "") (host : build.options.host = .windows)
      (hq : locator.command = VisualStudio.query) (hr : locator.result = .ok completion)
      (hc : call.command = probe Toolchain.generic) :
    Selected build job [locator, call] (probed Toolchain.generic call)

/-- How a compile goes on from a choice: it ends with the fault, or invokes the toolchain and,
if it was the native one, looks for object files. -/
def Resumed (build : Build σ) (runner : Runner σ) (job : Job) :
    Except Fault Toolchain → Except Fault Report → Build σ → Prop
  | .error fault, outcome, build' => outcome = .error fault ∧ build' = build
  | .ok toolchain, outcome, build' =>
    ∃ after, build.invoke runner job toolchain = (outcome, after) ∧
      build' = if toolchain.script.isSome then after.removeObjects job else after

theorem compileWith_cases {compiler : String} {outcome : Except Fault Report}
    (h : build.compileWith runner job compiler = (outcome, build')) :
    ∃ call build₁, call.command = probe compiler ∧ Advance runner build [call] [] build₁ ∧
      Resumed build₁ runner job (probed compiler call) outcome build' := by
  unfold compileWith at h
  split at h
  · next hd =>
    obtain ⟨call, hc, hadv, hres⟩ := detect_cases hd
    cases h
    exact ⟨call, _, hc, hadv, by rw [← hres]; exact ⟨rfl, rfl⟩⟩
  · next toolchain build₁ hd =>
    obtain ⟨call, hc, hadv, hres⟩ := detect_cases hd
    refine ⟨call, _, hc, hadv, ?_⟩
    -- a toolchain that was asked for its banner is never inside a script
    have hscript : toolchain.script = none := by
      unfold probed at hres
      split at hres
      · cases hres
      · split at hres <;> cases hres
        rfl
    rw [← hres]
    exact ⟨build', h, by simp [hscript]⟩

theorem compileWindows_cases {outcome : Except Fault Report} {stage : Stage}
    (hh : build.files.isFile build.options.coreHeader = true) (hw : build.wanted job = "")
    (host : build.options.host = .windows)
    (h : (build.enter stage).compileWindows runner job = (outcome, build')) :
    ∃ trace chosen build₁, Selected build job trace chosen ∧ Advance runner build trace [] build₁ ∧
      Resumed build₁ runner job chosen outcome build' := by
  have hstart : Advance runner build [] [] (build.enter stage) := Advance.refl.enter _
  unfold compileWindows at h
  generalize hl : VisualStudio.locate (build.enter stage).machine runner = located at h
  obtain ⟨found, machine⟩ := located
  obtain ⟨locator, hq, hadv, hfound⟩ := locate_cases hl
  have hadv := hstart.trans hadv
  rcases hfound with ⟨fault, hr, rfl⟩ | ⟨completion, hr, ⟨path, hp, rfl⟩ | ⟨compiler, reason, rfl⟩⟩
  · refine ⟨[locator], _, _, .noLocator hh hw host hq hr, hadv, ?_⟩
    unfold Call.result at hr
    split at hr
    · cases hr
    · cases hr
      cases h
      exact ⟨rfl, rfl⟩
  · refine ⟨[locator], _, _, .native hh hw host hq hr hp, hadv, ?_⟩
    cases h
    exact ⟨_, rfl, rfl⟩
  · obtain ⟨call, build₁, hc, hprobe, hgo⟩ := compileWith_cases h
    exact ⟨[locator, call], _, build₁, .fallback hh hw host hq hr hc,
      ((hadv.say _ _ _).enter _).trans hprobe, hgo⟩

theorem attempt_cases {outcome : Except Fault Report}
    (h : build.attempt runner job = (outcome, build')) :
    ∃ trace chosen build₁, Selected build job trace chosen ∧ Advance runner build trace [] build₁ ∧
      Resumed build₁ runner job chosen outcome build' := by
  have hstart : Advance runner build [] [] (build.enter .detect) := Advance.refl.enter _
  dsimp only [attempt] at h
  split at h
  · next hh =>
    cases h
    exact ⟨[], _, _, .noHeader (by simpa using hh), hstart, rfl, rfl⟩
  · next hh =>
    have hh : build.files.isFile build.options.coreHeader = true := by simpa using hh
    split at h
    · next hne =>
      obtain ⟨call, build₁, hc, hadv, hgo⟩ := compileWith_cases h
      refine ⟨[call], _, build₁, .asked hh rfl ?_ hc, hstart.trans hadv, hgo⟩
      simpa using hne
    · next hempty =>
      have hw : build.wanted job = "" := by simpa using hempty
      split at h
      · next hwin =>
        have host : build.options.host = .windows := by
          cases hhost : build.options.host
          · simp [hhost, Host.isWindows] at hwin
          · rfl
        exact compileWindows_cases hh hw host h
      · next hposix =>
        have host : build.options.host = .posix := by
          cases hhost : build.options.host
          · rfl
          · simp [hhost, Host.isWindows] at hposix
        obtain ⟨call, build₁, hc, hadv, hgo⟩ := compileWith_cases h
        exact ⟨[call], _, build₁, .generic hh hw host hc, (hstart.enter _).trans hadv, hgo⟩

/-! ## One invocation -/

def newDiagnostics (build : Build σ) (job : Job) (family : Family) (files : Files)
    (output : String) : List Diagnostic :=
  match family.lineStyle with
  | none => []
  | some style => (build.scope job).diagnostics files (style.parseOutput output)

/-- The report on a command that ran to its end; `diagnostics` are all of the build. -/
def reportOf (diagnostics : List Diagnostic) (job : Job) (family : Family)
    (completion : Completion) : Report where
  succeeded := completion.succeeded &&
    (family.lineStyle.isNone || !Diagnostic.anyError diagnostics)
  family := family
  exitCode := completion.code
  errors := Diagnostic.errorCount diagnostics
  output := job.order.output
  rawOutput := completion.output

theorem finish_cases (runner : Runner σ) {family : Family} {succeeded : Bool}
    {completion : Completion} {report : Report}
    (h : build.finish job family succeeded completion = (report, build')) :
    Advance runner build [] [] build' ∧
      report = {
        succeeded := succeeded
        family := family
        exitCode := completion.code
        errors := Diagnostic.errorCount build.diagnostics
        output := job.order.output
        rawOutput := completion.output } := by
  unfold finish at h
  cases h
  refine ⟨?_, rfl⟩
  split
  · exact .refl
  · dsimp only
    split
    · exact (Advance.refl.say _ _ _).say _ _ _
    · exact (Advance.refl.say _ _ _).say _ _ _

theorem concludeRaw_cases (runner : Runner σ) {family : Family} {completion : Completion}
    {report : Report} (hs : family.lineStyle = none)
    (h : build.concludeRaw job family completion = (report, build')) :
    Advance runner build [] (build.newDiagnostics job family build.files completion.output) build' ∧
      report = reportOf build'.diagnostics job family completion := by
  unfold concludeRaw at h
  obtain ⟨hadv, rfl⟩ := finish_cases runner h
  have hadv := ((Advance.refl.enter .report).sayAll (rawRecords completion.output)).trans hadv
  refine ⟨by simpa [newDiagnostics, hs] using hadv, ?_⟩
  have hdiag : build'.diagnostics = build.diagnostics := by simpa using hadv.diagnostics
  simp only [reportOf, hs, hdiag, Option.isNone_none, Bool.true_or, Bool.and_true]
  rfl

theorem Advance.scope_eq (h : Advance runner build trace added build₁) (job : Job) :
    build₁.scope job = build.scope job := by
  simp only [scope, h.options, h.roster]

theorem Advance.newDiagnostics_eq (h : Advance runner build trace added build₁) (job : Job)
    (family : Family) (files : Files) (output : String) :
    build₁.newDiagnostics job family files output =
      build.newDiagnostics job family files output := by
  simp only [newDiagnostics, h.scope_eq]

theorem Advance.files_eq (h : Advance runner build [] added build₁) :
    build₁.files = build.files := by
  generalize hf : build₁.files = files, hh : build₁.machine.hand = hand at *
  have hran := h.ran
  rw [hf, hh] at hran
  cases hran
  rfl

def reported (build : Build σ) (job : Job) (style : LineStyle) (completion : Completion) :
    Build σ :=
  let findings := style.parseOutput completion.output
  let build := (build.enter .parse).debug (toString findings.length ++ " diagnostic(s) parsed")
  let build := build.enter .remap
  let spoken := build.sayAll ((build.scope job).omissions build.files findings)
  (spoken.enter .report).report ((build.scope job).diagnostics build.files findings)

theorem conclude_eq (build : Build σ) (job : Job) (family : Family) (style : LineStyle)
    (completion : Completion) :
    build.conclude job family style completion =
      (if !completion.succeeded && !(build.reported job style completion).hasErrored then
          (build.reported job style completion).sayAll (unexplainedRecords completion)
        else build.reported job style completion).finish job family
        (completion.succeeded && !(build.reported job style completion).hasErrored) completion :=
  rfl

theorem reported_advance (runner : Runner σ) (build : Build σ) (job : Job) (style : LineStyle)
    (completion : Completion) :
    Advance runner build []
      ((build.scope job).diagnostics build.files (style.parseOutput completion.output))
      (build.reported job style completion) := by
  have hread : Advance runner build [] [] (((build.enter .parse).debug
      (toString (style.parseOutput completion.output).length ++ " diagnostic(s) parsed")).enter
        .remap) :=
    ((Advance.refl.enter _).debug _).enter _
  unfold reported
  dsimp only
  rw [hread.scope_eq, hread.files_eq]
  exact ((hread.sayAll _).enter .report).trans (Advance.report _)

theorem conclude_cases (runner : Runner σ) {family : Family} {style : LineStyle}
    {completion : Completion} {report : Report} (hs : family.lineStyle = some style)
    (h : build.conclude job family style completion = (report, build')) :
    Advance runner build [] (build.newDiagnostics job family build.files completion.output) build' ∧
      report = reportOf build'.diagnostics job family completion := by
  have hadv := build.reported_advance runner job style completion
  rw [conclude_eq] at h
  generalize build.reported job style completion = seen at h hadv
  have hspoken : Advance runner seen [] []
      (if !completion.succeeded && !seen.hasErrored then seen.sayAll (unexplainedRecords completion)
        else seen) := by
    split
    · exact Advance.refl.sayAll _
    · exact .refl
  obtain ⟨hend, rfl⟩ := finish_cases runner h
  have hquiet := hspoken.trans hend
  have hdiag : build'.diagnostics = seen.diagnostics := by simpa using hquiet.diagnostics
  refine ⟨by simpa [newDiagnostics, hs] using hadv.trans hquiet, ?_⟩
  have hmid := hspoken.diagnostics
  simp only [reportOf, hs, hdiag, hmid, Option.isNone_some, Bool.false_or, List.append_nil]
  rfl

/-- A toolchain that was invoked ran its one command. It did not start, or the report and the new
diagnostics follow from how it ended and the files it left. -/
theorem invoke_cases {toolchain : Toolchain} {outcome : Except Fault Report}
    (h : build.invoke runner job toolchain = (outcome, build')) :
    ∃ call added, (build.assembly job toolchain).command = .ok call.command ∧
      Advance runner build [call] added build' ∧
      ((∃ fault, call.result = .error fault ∧ outcome = .error fault ∧ added = []) ∨
        ∃ completion, call.result = .ok completion ∧
          outcome = .ok (reportOf build'.diagnostics job toolchain.family completion) ∧
          added = build.newDiagnostics job toolchain.family build'.files completion.output) := by
  dsimp only [invoke] at h
  have hassembly : ((build.enter .assemble).assembly job toolchain).command =
      (build.assembly job toolchain).command := rfl
  obtain ⟨command, hcommand⟩ : ∃ command, (build.assembly job toolchain).command = .ok command :=
    ⟨_, (build.assembly job toolchain).command_eq⟩
  rw [hassembly, hcommand] at h
  dsimp only at h
  have hstart : Advance runner build [] [] (((build.enter .assemble).enter .execute).debug
      ("compile command: " ++ command.render runner.host)) :=
    ((Advance.refl.enter _).enter _).debug _
  split at h
  · next hr =>
    obtain ⟨call, rfl, hadv, hres⟩ := run_cases hr
    cases h
    exact ⟨call, [], hcommand, hstart.trans hadv, .inl ⟨_, hres.symm, rfl, rfl⟩⟩
  · next completion ran hr =>
    obtain ⟨call, rfl, hadv, hres⟩ := run_cases hr
    have hadv := (hstart.trans hadv).debug ("compiler output:\n" ++ completion.output)
    have hconclude : ∃ report, outcome = .ok report ∧
        Advance runner (ran.debug ("compiler output:\n" ++ completion.output)) []
          (build.newDiagnostics job toolchain.family build'.files completion.output) build' ∧
        report = reportOf build'.diagnostics job toolchain.family completion := by
      split at h
      · next hs =>
        generalize hreport : concludeRaw _ job toolchain.family completion = ended at h
        cases h
        have hend := concludeRaw_cases runner hs hreport
        rw [hadv.newDiagnostics_eq, ← hend.1.files_eq] at hend
        exact ⟨_, rfl, hend⟩
      · next style hs =>
        generalize hreport : conclude _ job toolchain.family style completion = ended at h
        cases h
        have hend := conclude_cases runner hs hreport
        rw [hadv.newDiagnostics_eq, ← hend.1.files_eq] at hend
        exact ⟨_, rfl, hend⟩
    obtain ⟨report, rfl, hend, rfl⟩ := hconclude
    exact ⟨call, _, hcommand, hadv.trans hend, .inr ⟨completion, hres.symm, rfl, rfl⟩⟩

/-! ## One compile -/

def tidied (job : Job) (native : Bool) (files : Files) : Files :=
  let files := if native then (objectPaths job).foldl Files.sweep files else files
  if job.isLive then files.discard job.generated else files

theorem files_removeObject (work : Workspace) (path : String) :
    (removeObject work path).files = work.files.sweep path := by
  unfold removeObject Files.sweep Files.discard
  cases work.files.pathExists path with
  | false => rfl
  | true =>
    simp only [Bool.not_true, Bool.false_eq_true, if_false, if_true]
    cases work.files.remove path <;> rfl

theorem files_removeObjects (build : Build σ) (job : Job) :
    (build.removeObjects job).files = (objectPaths job).foldl Files.sweep build.files := by
  have hfold (paths : List String) (work : Workspace) :
      (paths.foldl removeObject work).files = paths.foldl Files.sweep work.files := by
    induction paths generalizing work with
    | nil => rfl
    | cons path rest ih => rw [List.foldl_cons, List.foldl_cons, ih, files_removeObject]
  exact hfold _ _

/-- What a compile that made the calls of a trace and found `added` leaves behind. `files` are
those that the last call left. -/
structure Ended (runner : Runner σ) (build : Build σ) (job : Job) (trace : List Call)
    (files : Files) (added : List Diagnostic) (native : Bool) (build' : Build σ) : Prop where
  calls : build'.machine.calls = build.machine.calls ++ trace
  ran : Ran runner build.files build.machine.hand trace files build'.machine.hand
  left : build'.files = tidied job native files
  options : build'.options = build.options
  roster : build'.roster = build.roster
  diagnostics : build'.diagnostics = build.diagnostics ++ added

/-- The calls of a compile, its outcome and what it leaves behind. -/
inductive Compiled (runner : Runner σ) (build : Build σ) (job : Job) :
    List Call → Except Fault Report → Build σ → Prop
  | notSelected {trace : List Call} {files : Files} {build' : Build σ}
      (hs : Selected build job trace (.error fault))
      (he : Ended runner build job trace files [] false build') :
    Compiled runner build job trace (.error fault) build'
  | notStarted {trace : List Call} {files : Files} {build' : Build σ}
      (hs : Selected build job trace (.ok toolchain))
      (hc : (build.assembly job toolchain).command = .ok call.command)
      (hr : call.result = .error fault)
      (he : Ended runner build job (trace ++ [call]) files [] toolchain.script.isSome build') :
    Compiled runner build job (trace ++ [call]) (.error fault) build'
  | finished {trace : List Call} {files : Files} {build' : Build σ}
      (hs : Selected build job trace (.ok toolchain))
      (hc : (build.assembly job toolchain).command = .ok call.command)
      (hr : call.result = .ok completion)
      (he : Ended runner build job (trace ++ [call]) files
        (build.newDiagnostics job toolchain.family files completion.output)
        toolchain.script.isSome build') :
    Compiled runner build job (trace ++ [call])
      (.ok (reportOf build'.diagnostics job toolchain.family completion)) build'

/-- The command that compiles is the last call, and is made exactly if a toolchain was chosen. -/
theorem Compiled.choice {runner : Runner σ} {build build' : Build σ} {job : Job}
    {trace : List Call} {outcome : Except Fault Report}
    (h : Compiled runner build job trace outcome build') :
    ∃ choice chosen, Selected build job choice chosen ∧
      (∀ fault, chosen = .error fault → outcome = .error fault ∧ trace = choice) ∧
      ∀ toolchain, chosen = .ok toolchain → ∃ call,
        (build.assembly job toolchain).command = .ok call.command ∧ trace = choice ++ [call] := by
  cases h with
  | notSelected hs he => exact ⟨_, _, hs, by rintro _ ⟨⟩; exact ⟨rfl, rfl⟩, by rintro _ ⟨⟩⟩
  | notStarted hs hc hr he => exact ⟨_, _, hs, by rintro _ ⟨⟩, by rintro _ ⟨⟩; exact ⟨_, hc, rfl⟩⟩
  | finished hs hc hr he => exact ⟨_, _, hs, by rintro _ ⟨⟩, by rintro _ ⟨⟩; exact ⟨_, hc, rfl⟩⟩

def dismissed (build : Build σ) (job : Job) (outcome : Except Fault Report) : Build σ :=
  let build := match outcome with
    | .ok _ => build
    | .error fault => build.debug (build.stage.name ++ " failed: " ++ fault.message)
  let build := build.enter .cleanup
  build.withWork (job.discard build.machine.work)

theorem compile_eq (build : Build σ) (runner : Runner σ) (job : Job) :
    build.compile runner job = ((build.attempt runner job).1,
      (build.attempt runner job).2.dismissed job (build.attempt runner job).1) := by
  unfold compile dismissed
  rfl

theorem files_dismissed (build : Build σ) (job : Job) (outcome : Except Fault Report) :
    (build.dismissed job outcome).files =
      if job.isLive then build.files.discard job.generated else build.files := by
  cases outcome <;> exact job.files_discard _

structure Reworked (build build' : Build σ) : Prop where
  calls : build'.machine.calls = build.machine.calls
  hand : build'.machine.hand = build.machine.hand
  options : build'.options = build.options
  roster : build'.roster = build.roster
  diagnostics : build'.diagnostics = build.diagnostics

theorem Reworked.withWork (build : Build σ) (work : Workspace) :
    Reworked build (build.withWork work) := ⟨rfl, rfl, rfl, rfl, rfl⟩

theorem Reworked.enter (build : Build σ) (stage : Stage) : Reworked build (build.enter stage) :=
  ⟨rfl, rfl, rfl, rfl, rfl⟩

theorem Reworked.trans (first : Reworked build build₁) (second : Reworked build₁ build₂) :
    Reworked build build₂ :=
  ⟨second.calls.trans first.calls, second.hand.trans first.hand,
    second.options.trans first.options, second.roster.trans first.roster,
    second.diagnostics.trans first.diagnostics⟩

theorem reworked_dismissed (build : Build σ) (job : Job) (outcome : Except Fault Report) :
    Reworked build (build.dismissed job outcome) := by
  refine Reworked.trans ?_ (.withWork _ _)
  refine Reworked.trans ?_ (.enter _ _)
  cases outcome <;> exact ⟨rfl, rfl, rfl, rfl, rfl⟩

theorem Advance.ended (hadv : Advance runner build trace added build₁) (job : Job) (native : Bool)
    (outcome : Except Fault Report) :
    Ended runner build job trace build₁.files added native
      ((if native then build₁.removeObjects job else build₁).dismissed job outcome) := by
  have hobjects : Reworked build₁ (if native then build₁.removeObjects job else build₁) := by
    cases native
    · exact ⟨rfl, rfl, rfl, rfl, rfl⟩
    · exact .withWork _ _
  have hwork := hobjects.trans (reworked_dismissed _ job outcome)
  refine ⟨hwork.calls.trans hadv.calls, hwork.hand ▸ hadv.ran, ?_,
    hwork.options.trans hadv.options, hwork.roster.trans hadv.roster,
    hwork.diagnostics.trans hadv.diagnostics⟩
  rw [files_dismissed]
  cases native with
  | false => rfl
  | true => rw [if_pos rfl, files_removeObjects]; rfl

theorem compile_cases (build : Build σ) (runner : Runner σ) (job : Job) :
    ∃ trace, Compiled runner build job trace (build.compile runner job).1
      (build.compile runner job).2 := by
  rw [compile_eq]
  generalize ha : build.attempt runner job = attempted
  obtain ⟨outcome, after⟩ := attempted
  obtain ⟨trace, chosen, build₁, hs, hadv, hgo⟩ := attempt_cases ha
  cases chosen with
  | error fault =>
    obtain ⟨rfl, rfl⟩ := hgo
    exact ⟨trace, .notSelected hs (hadv.ended job false (.error fault))⟩
  | ok toolchain =>
    obtain ⟨invoked, hi, rfl⟩ := hgo
    obtain ⟨call, added, hc, hcall, hend⟩ := invoke_cases hi
    have hassembly : build₁.assembly job toolchain = build.assembly job toolchain := by
      simp only [assembly, hadv.options, hadv.roster]
    rw [hassembly] at hc
    have hended := (hadv.trans hcall).ended job toolchain.script.isSome outcome
    refine ⟨trace ++ [call], ?_⟩
    rcases hend with ⟨fault, hr, rfl, rfl⟩ | ⟨completion, hr, rfl, hadded⟩
    · exact .notStarted hs hc hr hended
    · obtain rfl := hadded.trans (hadv.newDiagnostics_eq job toolchain.family _ _)
      have hfinished := Compiled.finished hs hc hr hended
      rw [hended.diagnostics, ← (hadv.trans hcall).diagnostics] at hfinished
      exact hfinished

end Build

/-! ## A machine small enough to compute with -/

namespace Sample

def runner (output : String) : Runner Unit where
  host := .posix
  start command files _ :=
    (⟨.ok ⟨if command.args = ["--version"] then "gcc 13" else output, 0⟩, files, []⟩, ())

def work : Workspace where
  files := { nodes := ["core.hh", "g.cxir"].map fun name =>
    ([Text.Utf8.encode name.toList], .file [] false) }
  tempDir := "/"

def build : Build Unit where
  machine := ⟨work, (), []⟩
  options := { coreHeader := "/core.hh" }

def job : Job := ⟨⟨"", "/a.cx", "/a", "/", "", [], {}, {}⟩, "/g.cxir", some .temporary⟩

def output : String :=
  "/core.hh:1: warning: quiet\n/g.cxir:1:2: error: a: 7: b\n/away.hh:3: note: c\nIn file d\n"

end Sample

end Retrace
