import Mathlib.Logic.ExistsUnique
import Retrace.Proofs.Compile

/-!
# The protocol of one compile

From outside a compile is a list of acts: the stages it enters and the commands
it has started, each with the reply it got. `Attempted` says which acts the
protocol allows, reply by reply: any allowed list enters the stages in order
(`Attempted.inOrder`), and against a given runner there is only one
(`Attempted.unique`).

`Went` says that a build performed acts and nothing else: its calls are those of
the acts, and its log announces their stages and no other, whatever the runner
itself may say. Every function of a compile goes through acts that its part of
the protocol allows, and so does the whole.
-/

namespace Retrace

/-! ## Acts -/

inductive Act where
  | enter (stage : Stage)
  | call (command : Command) (reply : Reply)

def Act.stages (acts : List Act) : List Stage :=
  acts.filterMap fun
    | .enter stage => some stage
    | .call _ _ => none

@[simp] theorem Act.stages_enter (stage : Stage) (acts : List Act) :
    stages (.enter stage :: acts) = stage :: stages acts := rfl

@[simp] theorem Act.stages_call (command : Command) (reply : Reply) (acts : List Act) :
    stages (.call command reply :: acts) = stages acts := rfl

@[simp] theorem Act.stages_map_enter (entered : List Stage) :
    stages (entered.map .enter) = entered := by
  induction entered with
  | nil => rfl
  | cons stage rest ih => rw [List.map_cons, stages_enter, ih]

/-- A runner gave the replies of the acts, each command started on the files that the one before
it left; `calls` are what a machine remembers of them. -/
inductive Performed (runner : Runner σ) :
    Files → σ → List Act → List Call → Files → σ → Prop
  | done : Performed runner files hand [] [] files hand
  | enter (rest : Performed runner files hand acts calls after final) :
    Performed runner files hand (.enter stage :: acts) calls after final
  | call (hs : runner.start command files hand = (reply, middle))
      (rest : Performed runner reply.files middle acts calls after final) :
    Performed runner files hand (.call command reply :: acts)
      (⟨command, command.render runner.host, files, reply.outcome⟩ :: calls) after final

theorem Performed.append {runner : Runner σ}
    (first : Performed runner files hand acts calls middle hand₁)
    (second : Performed runner middle hand₁ acts₁ calls₁ after hand₂) :
    Performed runner files hand (acts ++ acts₁) (calls ++ calls₁) after hand₂ := by
  induction first with
  | done => exact second
  | enter _ ih => exact .enter (ih second)
  | call hs _ ih => exact .call hs (ih second)

def Possible (runner : Runner σ) (files : Files) (hand : σ) (acts : List Act) : Prop :=
  ∃ calls after final, Performed runner files hand acts calls after final

namespace Possible

variable {runner : Runner σ} {files : Files} {hand : σ} {acts acts₁ : List Act}

theorem of_append (h : Possible runner files hand (acts ++ acts₁)) :
    Possible runner files hand acts := by
  obtain ⟨calls, after, final, h⟩ := h
  induction acts generalizing files hand calls with
  | nil => exact ⟨_, _, _, .done⟩
  | cons act rest ih =>
    cases h with
    | enter h =>
      obtain ⟨_, _, _, h⟩ := ih _ h
      exact ⟨_, _, _, .enter h⟩
    | call hs h =>
      obtain ⟨_, _, _, h⟩ := ih _ h
      exact ⟨_, _, _, .call hs h⟩

theorem of_enter {stage : Stage} (h : Possible runner files hand (.enter stage :: acts)) :
    Possible runner files hand acts := by
  obtain ⟨_, _, _, h⟩ := h
  cases h with
  | enter h => exact ⟨_, _, _, h⟩

theorem of_call {command : Command} {reply : Reply}
    (h : Possible runner files hand (.call command reply :: acts)) :
    reply = (runner.start command files hand).1 ∧
      Possible runner reply.files (runner.start command files hand).2 acts := by
  obtain ⟨_, _, _, h⟩ := h
  cases h with
  | call hs h =>
    rw [hs]
    exact ⟨rfl, _, _, _, h⟩

end Possible

namespace Build

/-! ## The protocol -/

/-- The stages after a compile command: none if it did not start, and without a grammar for its
output only the last. -/
def aftermath (family : Family) : Except OsError Completion → List Stage
  | .error _ => []
  | .ok _ => if family = .unknown then [.report] else [.parse, .remap, .report]

inductive Invoked (plan : Toolchain → Assembly) (toolchain : Toolchain) : List Act → Prop
  | intro {command : Command} (reply : Reply) (hc : (plan toolchain).command = .ok command)
      (hp : command.program = toolchain.compiler) (hs : command.script = toolchain.script) :
    Invoked plan toolchain
      (.enter .assemble :: .enter .execute :: .call command reply ::
        (aftermath toolchain.family reply.outcome).map .enter)

/-- A compiler is asked for its banner, and invoked if and only if it started and exited with 0. -/
inductive Probed (plan : Toolchain → Assembly) (compiler : String) : List Act → Prop
  | refused {reply : Reply} (hr : ∀ output, reply.outcome ≠ .ok ⟨output, 0⟩) :
    Probed plan compiler [.call (probe compiler) reply]
  | answered {reply : Reply} {output : String} (hr : reply.outcome = .ok ⟨output, 0⟩)
      (rest : Invoked plan ⟨.ofBanner output, compiler, none⟩ acts) :
    Probed plan compiler (.call (probe compiler) reply :: acts)

def Names (output path : String) : Prop :=
  ∃ before line after, Text.lines output.toList = before ++ line :: after ∧
    (∀ blank ∈ before, Text.trim blank = []) ∧ Text.trim line ≠ [] ∧
    path = String.ofList (Text.trim line)

/-- The locator's reply leads to a script: it exited with 0 and named a directory that has one. -/
def Locates (reply : Reply) (script : String) : Prop :=
  ∃ output path, reply.outcome = .ok ⟨output, 0⟩ ∧ Names output path ∧
    reply.files.isDir path = true ∧ script = VisualStudio.scriptPath path ∧
    reply.files.pathExists script = true

/-- On Windows the native toolchain is looked for. Once it was found there is no falling back, and
without a locator there is neither. -/
inductive Searched (plan : Toolchain → Assembly) : List Act → Prop
  | noLocator {reply : Reply} {cause : OsError} (hr : reply.outcome = .error cause) :
    Searched plan [.call VisualStudio.query reply]
  | native {reply : Reply} {script : String} (hl : Locates reply script)
      (rest : Invoked plan ⟨.msvc, "cl", some script⟩ acts) :
    Searched plan (.call VisualStudio.query reply :: acts)
  | fallback {reply : Reply} {completion : Completion} (hr : reply.outcome = .ok completion)
      (hl : ∀ script, ¬Locates reply script) (rest : Probed plan "c++" acts) :
    Searched plan (.call VisualStudio.query reply :: .enter .detect :: acts)

def asked? (build : Build σ) (job : Job) : Option String :=
  (job.order.compiler :: build.options.compiler.toList).find? (· ≠ "")

inductive Attempted (build : Build σ) (job : Job) : List Act → Prop
  | noHeader (hh : build.files.isFile build.options.coreHeader = false) :
    Attempted build job [.enter .detect]
  | asked {compiler : String} (hh : build.files.isFile build.options.coreHeader = true)
      (ha : build.asked? job = some compiler) (rest : Probed (build.assembly job) compiler acts) :
    Attempted build job (.enter .detect :: acts)
  | posix (hh : build.files.isFile build.options.coreHeader = true)
      (ha : build.asked? job = none) (host : build.options.host = .posix)
      (rest : Probed (build.assembly job) "c++" acts) :
    Attempted build job (.enter .detect :: .enter .detect :: acts)
  | windows (hh : build.files.isFile build.options.coreHeader = true)
      (ha : build.asked? job = none) (host : build.options.host = .windows)
      (rest : Searched (build.assembly job) acts) :
    Attempted build job (.enter .detect :: acts)

/-! ## The order of the stages -/

def invocation (family : Family) : List Stage :=
  .assemble :: .execute :: if family = .unknown then [.report] else [.parse, .remap, .report]

/-- Stages entered before the cleanup: detection, perhaps once more for the generic driver, then
an invocation; it may end at any point. -/
def InOrder (entered : List Stage) : Prop :=
  ∃ family, entered <+: .detect :: invocation family ∨
    entered <+: .detect :: .detect :: invocation family

section
variable {plan : Toolchain → Assembly} {acts : List Act}

theorem Invoked.stages_prefix {toolchain : Toolchain} (h : Invoked plan toolchain acts) :
    Act.stages acts <+: invocation toolchain.family := by
  obtain ⟨reply, -, -, -⟩ := h
  simp only [Act.stages_enter, Act.stages_call, Act.stages_map_enter, invocation]
  cases reply.outcome with
  | error cause => simp [aftermath]
  | ok completion => exact List.prefix_rfl

theorem Probed.stages_prefix {compiler : String} (h : Probed plan compiler acts) :
    ∃ family, Act.stages acts <+: invocation family := by
  cases h with
  | refused => exact ⟨.unknown, List.nil_prefix⟩
  | answered _ hi => exact ⟨_, hi.stages_prefix⟩

theorem Attempted.inOrder {build : Build σ} {job : Job} (h : Attempted build job acts) :
    InOrder (Act.stages acts) := by
  have hcons {stage : Stage} {front back : List Stage} (h : front <+: back) :
      stage :: front <+: stage :: back := (List.prefix_cons_inj stage).mpr h
  cases h with
  | noHeader => exact ⟨.unknown, .inl (hcons List.nil_prefix)⟩
  | asked _ _ hi =>
    obtain ⟨family, hi⟩ := hi.stages_prefix
    exact ⟨family, .inl (hcons hi)⟩
  | posix _ _ _ hi =>
    obtain ⟨family, hi⟩ := hi.stages_prefix
    exact ⟨family, .inr (hcons (hcons hi))⟩
  | windows _ _ _ hs =>
    cases hs with
    | noLocator => exact ⟨.unknown, .inl (hcons List.nil_prefix)⟩
    | native _ hi => exact ⟨_, .inl (hcons hi.stages_prefix)⟩
    | fallback _ _ hi =>
      obtain ⟨family, hi⟩ := hi.stages_prefix
      exact ⟨family, .inr (hcons (hcons hi))⟩

end

/-! ## The protocol leaves no choice -/

theorem installation?_eq_some_iff {output path : String} :
    VisualStudio.installation? output = some path ↔ Names output path := by
  unfold VisualStudio.installation? Names
  constructor
  · intro h
    obtain ⟨named, hf, rfl⟩ := Option.map_eq_some_iff.mp h
    obtain ⟨hne, before, after, hl, hb⟩ := List.find?_eq_some_iff_append.mp hf
    obtain ⟨front, back, hlines, rfl, hback⟩ := List.map_eq_append_iff.mp hl
    obtain ⟨line, rest, rfl, rfl, -⟩ := List.map_eq_cons_iff.mp hback
    refine ⟨front, line, rest, hlines, ?_, by simpa using hne, rfl⟩
    intro blank hm
    simpa using hb _ (List.mem_map_of_mem hm)
  · rintro ⟨before, line, after, hlines, hb, hne, rfl⟩
    refine Option.map_eq_some_iff.mpr ⟨Text.trim line, ?_, rfl⟩
    refine List.find?_eq_some_iff_append.mpr ⟨by simpa using hne, before.map Text.trim,
      after.map Text.trim, by simp [hlines], ?_⟩
    intro trimmed hm
    obtain ⟨blank, hblank, rfl⟩ := List.mem_map.mp hm
    simp [hb blank hblank]

variable {plan : Toolchain → Assembly} {runner : Runner σ} {files : Files} {hand : σ}
  {acts acts₁ : List Act}

theorem Invoked.unique {toolchain : Toolchain} (h : Invoked plan toolchain acts)
    (h₁ : Invoked plan toolchain acts₁) (hp : Possible runner files hand acts)
    (hp₁ : Possible runner files hand acts₁) : acts = acts₁ := by
  obtain ⟨reply, hc, -, -⟩ := h
  obtain ⟨reply₁, hc₁, -, -⟩ := h₁
  obtain rfl := Except.ok.inj (hc.symm.trans hc₁)
  rw [hp.of_enter.of_enter.of_call.1, hp₁.of_enter.of_enter.of_call.1]

theorem Probed.unique {compiler : String} (h : Probed plan compiler acts)
    (h₁ : Probed plan compiler acts₁) (hp : Possible runner files hand acts)
    (hp₁ : Possible runner files hand acts₁) : acts = acts₁ := by
  cases h with
  | refused hr =>
    obtain ⟨rfl, -⟩ := hp.of_call
    cases h₁ with
    | refused hr₁ => rw [hp₁.of_call.1]
    | answered hr₁ _ => exact absurd (hp₁.of_call.1 ▸ hr₁) (hr _)
  | answered hr hi =>
    obtain ⟨rfl, hp⟩ := hp.of_call
    cases h₁ with
    | refused hr₁ => exact absurd hr (hp₁.of_call.1 ▸ hr₁ _)
    | answered hr₁ hi₁ =>
      obtain ⟨rfl, hp₁⟩ := hp₁.of_call
      cases hr.symm.trans hr₁
      rw [hi.unique hi₁ hp hp₁]

theorem Locates.unique {reply : Reply} {script script₁ : String} (h : Locates reply script)
    (h₁ : Locates reply script₁) : script = script₁ := by
  obtain ⟨output, path, ho, hn, -, rfl, -⟩ := h
  obtain ⟨output₁, path₁, ho₁, hn₁, -, rfl, -⟩ := h₁
  cases ho.symm.trans ho₁
  have hpath := (installation?_eq_some_iff.mpr hn).symm.trans (installation?_eq_some_iff.mpr hn₁)
  rw [Option.some.inj hpath]

theorem Locates.started {reply : Reply} {script : String} (h : Locates reply script)
    (cause : OsError) : reply.outcome ≠ .error cause := by
  obtain ⟨_, _, ho, -⟩ := h
  simp [ho]

theorem Searched.unique (h : Searched plan acts) (h₁ : Searched plan acts₁)
    (hp : Possible runner files hand acts) (hp₁ : Possible runner files hand acts₁) :
    acts = acts₁ := by
  obtain ⟨reply, rest, rfl⟩ : ∃ reply rest, acts = .call VisualStudio.query reply :: rest := by
    cases h <;> exact ⟨_, _, rfl⟩
  obtain ⟨reply₁, rest₁, rfl⟩ : ∃ reply rest, acts₁ = .call VisualStudio.query reply :: rest := by
    cases h₁ <;> exact ⟨_, _, rfl⟩
  obtain ⟨hr, hp⟩ := hp.of_call
  obtain ⟨hr₁, hp₁⟩ := hp₁.of_call
  obtain rfl := hr.trans hr₁.symm
  cases h with
  | noLocator hno =>
    cases h₁ with
    | noLocator => rfl
    | native hl => exact absurd hno (hl.started _)
    | fallback hok => cases hno.symm.trans hok
  | native hl hi =>
    cases h₁ with
    | noLocator hno => exact absurd hno (hl.started _)
    | native hl₁ hi₁ =>
      obtain rfl := hl.unique hl₁
      rw [hi.unique hi₁ hp hp₁]
    | fallback _ hl₁ => exact absurd hl (hl₁ _)
  | fallback hok hl hi =>
    cases h₁ with
    | noLocator hno => cases hno.symm.trans hok
    | native hl₁ => exact absurd hl₁ (hl _)
    | fallback _ _ hi₁ => rw [hi.unique hi₁ hp.of_enter hp₁.of_enter]

/-- The header, the compilers asked for and the host keep the ways of an attempt apart. -/
theorem Attempted.unique {build : Build σ} {job : Job} (h : Attempted build job acts)
    (h₁ : Attempted build job acts₁) (hp : Possible runner files hand acts)
    (hp₁ : Possible runner files hand acts₁) : acts = acts₁ := by
  cases h with
  | noHeader hh =>
    cases h₁ with
    | noHeader => rfl
    | _ => simp_all
  | asked hh ha hi =>
    cases h₁ with
    | asked hh₁ ha₁ hi₁ =>
      cases ha.symm.trans ha₁
      rw [hi.unique hi₁ hp.of_enter hp₁.of_enter]
    | _ => simp_all
  | posix hh ha host hi =>
    cases h₁ with
    | posix _ _ _ hi₁ => rw [hi.unique hi₁ hp.of_enter.of_enter hp₁.of_enter.of_enter]
    | _ => simp_all
  | windows hh ha host hi =>
    cases h₁ with
    | windows _ _ _ hi₁ => rw [hi.unique hi₁ hp.of_enter hp₁.of_enter]
    | _ => simp_all

end Build

/-! ## Announcements -/

def Stage.announcement (stage : Stage) : Event :=
  .record ⟨.debug, .build, "phase: " ++ stage.name⟩

namespace Event

def Quiet (event : Event) : Prop := ∀ stage : Stage, event ≠ stage.announcement

theorem quiet_shown (text : String) : Quiet (.shown text) := by
  intro stage h
  cases h

theorem quiet_of_source {record : Record} (h : record.level ≠ .debug ∨ record.topic ≠ .build) :
    Quiet (.record record) := by
  intro stage heq
  cases heq
  simp at h

theorem quiet_of_topic {records : List Record} {topic : Topic}
    (h : ∀ record ∈ records, record.topic = topic) (ht : topic ≠ .build) :
    ∀ record ∈ records, Quiet (.record record) :=
  fun record hm => quiet_of_source (.inr (h record hm ▸ ht))

/-- The second letter already tells an announcement from every other message of a build. -/
theorem quiet_of_second {opening : String} {c : Char} (h : opening.toList[1]? = some c)
    (hc : c ≠ 'h') (rest : String) : Quiet (.record ⟨.debug, .build, opening ++ rest⟩) := by
  intro stage heq
  have hmessage : opening ++ rest = "phase: " ++ stage.name :=
    congrArg Record.message (Event.record.inj heq)
  have hsecond := congrArg (fun text : String => text.toList[1]?) hmessage
  have hlt : 1 < opening.toList.length := (List.getElem?_eq_some_iff.mp h).1
  have hphase : ("phase: ".toList ++ stage.name.toList)[1]? = some 'h' := rfl
  simp only [String.toList_append, hphase, List.getElem?_append_left hlt, h] at hsecond
  exact hc (Option.some.inj hsecond)

theorem quiet_count (n : Nat) :
    Quiet (.record ⟨.debug, .build, toString n ++ " diagnostic(s) parsed"⟩) := by
  intro stage heq
  have hmessage : toString n ++ " diagnostic(s) parsed" = "phase: " ++ stage.name :=
    congrArg Record.message (Event.record.inj heq)
  -- no name of a stage ends in the last letter of the count
  have hlast := congrArg (fun text : String => text.toList.getLast?) hmessage
  have hd : " diagnostic(s) parsed".toList.getLast? = some 'd' := rfl
  simp only [String.toList_append, List.getLast?_append, hd, Option.some_or] at hlast
  cases stage <;> exact absurd hlast (by decide)

end Event

def Workspace.Remarked (work work' : Workspace) : Prop :=
  ∃ events, work'.events = work.events ++ events ∧ ∀ event ∈ events, event.Quiet

theorem Workspace.Remarked.refl {work : Workspace} : work.Remarked work :=
  ⟨[], (List.append_nil _).symm, by simp⟩

/-! ## Builds that perform acts -/

/-- How a log shows acts: the announcements of their stages, what the runner said during their
calls, and between them any remarks that announce no stage. -/
inductive Logged : List Act → List Event → Prop
  | done : Logged [] []
  | remark (hq : Event.Quiet event) (rest : Logged acts events) : Logged acts (event :: events)
  | enter (rest : Logged acts events) :
    Logged (.enter stage :: acts) (Stage.announcement stage :: events)
  | call (rest : Logged acts events) :
    Logged (.call command reply :: acts) (reply.records.map .record ++ events)

theorem Logged.append (first : Logged acts events) (second : Logged acts₁ events₁) :
    Logged (acts ++ acts₁) (events ++ events₁) := by
  induction first with
  | done => exact second
  | remark hq _ ih => exact .remark hq ih
  | enter _ ih => exact .enter ih
  | call _ ih =>
    rw [List.append_assoc]
    exact .call ih

theorem Logged.remarks (h : ∀ event ∈ events, Event.Quiet event) : Logged [] events := by
  induction events with
  | nil => exact .done
  | cons event rest ih =>
    exact .remark (h event List.mem_cons_self) (ih fun _ hm => h _ (List.mem_cons_of_mem _ hm))

namespace Build

/-- A build came from another by the given acts. `files` are those that the last call left. -/
structure Went (runner : Runner σ) (build : Build σ) (acts : List Act) (files : Files)
    (build' : Build σ) : Prop where
  performed : ∃ calls, build'.machine.calls = build.machine.calls ++ calls ∧
    Performed runner build.files build.machine.hand acts calls files build'.machine.hand
  logged : ∃ events, build'.machine.work.events = build.machine.work.events ++ events ∧
    Logged acts events
  options : build'.options = build.options
  roster : build'.roster = build.roster

variable {runner : Runner σ} {build build' build₁ build₂ : Build σ} {job : Job}
  {acts acts₁ : List Act} {files : Files}

namespace Went

theorem trans (first : Went runner build acts build₁.files build₁)
    (second : Went runner build₁ acts₁ files build₂) :
    Went runner build (acts ++ acts₁) files build₂ := by
  obtain ⟨calls, hcalls, hran⟩ := first.performed
  obtain ⟨calls₁, hcalls₁, hran₁⟩ := second.performed
  obtain ⟨events, hevents, hlog⟩ := first.logged
  obtain ⟨events₁, hevents₁, hlog₁⟩ := second.logged
  exact {
    performed := ⟨calls ++ calls₁, by rw [hcalls₁, hcalls, List.append_assoc], hran.append hran₁⟩
    logged := ⟨events ++ events₁, by rw [hevents₁, hevents, List.append_assoc], hlog.append hlog₁⟩
    options := second.options.trans first.options
    roster := second.roster.trans first.roster }

theorem refl : Went runner build [] build.files build :=
  ⟨⟨[], (List.append_nil _).symm, .done⟩, ⟨[], (List.append_nil _).symm, .done⟩, rfl, rfl⟩

/-- Remarks are no acts, and neither is what else is done to the workspace along with them. -/
theorem remark (h : Went runner build acts files build₁) {work : Workspace}
    (hw : build₁.machine.work.Remarked work) :
    Went runner build acts files (build₁.withWork work) := by
  obtain ⟨events, he, hlog⟩ := h.logged
  obtain ⟨said, hs, hq⟩ := hw
  refine ⟨h.performed, ⟨events ++ said, ?_, ?_⟩, h.options, h.roster⟩
  · rw [← List.append_assoc, ← he]
    exact hs
  · rw [← List.append_nil acts]
    exact hlog.append (.remarks hq)

theorem say (h : Went runner build acts files build₁) {level : Level} {topic : Topic}
    {message : String} (hq : Event.Quiet (.record ⟨level, topic, message⟩)) :
    Went runner build acts files (build₁.say level topic message) :=
  h.remark ⟨_, rfl, by simpa using hq⟩

theorem sayAll (h : Went runner build acts files build₁) {records : List Record}
    (hq : ∀ record ∈ records, Event.Quiet (.record record)) :
    Went runner build acts files (build₁.sayAll records) :=
  h.remark ⟨_, rfl, by simpa using hq⟩

theorem report (h : Went runner build acts files build₁) (diagnostics : List Diagnostic) :
    Went runner build acts files (build₁.report diagnostics) := by
  have hshown (texts : List String) :
      build₁.machine.work.Remarked (build₁.machine.work.showAll texts) :=
    ⟨_, rfl, by simpa using fun text _ => Event.quiet_shown text⟩
  have hwork := h.remark (hshown (build₁.renderer.renderAll build₁.files diagnostics).1)
  exact ⟨hwork.performed, hwork.logged, hwork.options, hwork.roster⟩

theorem enter (h : Went runner build acts files build₁) (stage : Stage) :
    Went runner build (acts ++ [.enter stage]) files (build₁.enter stage) := by
  obtain ⟨calls, hcalls, hran⟩ := h.performed
  obtain ⟨events, he, hlog⟩ := h.logged
  exact {
    performed := ⟨calls, hcalls, List.append_nil calls ▸ hran.append (.enter .done)⟩
    logged := ⟨events ++ [stage.announcement], by rw [← List.append_assoc, ← he]; rfl,
      hlog.append (.enter .done)⟩
    options := h.options
    roster := h.roster }

theorem assembly_eq (h : Went runner build acts files build₁) (job : Job) :
    build₁.assembly job = build.assembly job := by
  funext toolchain
  simp only [assembly, h.options, h.roster]

end Went

inductive Replied (reply : Reply) : Except Fault Completion → Prop
  | notStarted {cause : OsError} {line : String} (hr : reply.outcome = .error cause) :
    Replied reply (.error (.notStarted line cause))
  | ended {completion : Completion} (hr : reply.outcome = .ok completion) :
    Replied reply (.ok completion)

theorem run_went {command : Command} {outcome : Except Fault Completion}
    (h : build.run runner command = (outcome, build')) :
    ∃ reply, Went runner build [.call command reply] build'.files build' ∧
      build'.files = reply.files ∧ Replied reply outcome := by
  unfold run Machine.run at h
  cases h
  refine ⟨(runner.start command build.files build.machine.hand).1, ?_, rfl, ?_⟩
  · exact ⟨⟨_, rfl, .call rfl .done⟩, ⟨_, by rw [List.append_nil]; rfl, .call .done⟩, rfl, rfl⟩
  · dsimp only [Build.files]
    split
    · next completion hr => exact .ended hr
    · next cause hr => exact .notStarted hr

/-! ## Every compile follows the protocol -/

theorem Went.finish (hwent : Went runner build acts files build₁) {family : Family}
    {succeeded : Bool} {completion : Completion} {report : Report}
    (h : build₁.finish job family succeeded completion = (report, build')) :
    Went runner build acts files build' := by
  have hinfo (message : String) : Event.Quiet (.record ⟨.info, .build, message⟩) :=
    Event.quiet_of_source (.inl (by simp))
  unfold Build.finish at h
  cases h
  split
  · exact hwent
  · dsimp only
    split
    · exact (hwent.say (hinfo _)).say (hinfo _)
    · exact (hwent.say (hinfo _)).say (hinfo _)

theorem concludeRaw_went (runner : Runner σ) {family : Family} {completion : Completion}
    {report : Report} (h : build.concludeRaw job family completion = (report, build')) :
    Went runner build [.enter .report] build.files build' := by
  have htopic : ∀ record ∈ rawRecords completion.output, record.topic = .output := by
    simp [rawRecords, outputRecords, or_imp, forall_and]
  exact ((Went.refl.enter .report).sayAll (Event.quiet_of_topic htopic (by decide))).finish h

theorem topic_omissions (scope : Scope) (files : Files) (findings : List Finding) :
    ∀ record ∈ scope.omissions files findings, record.topic = .attribution := by
  intro record hm
  obtain ⟨finding, -, ho⟩ := List.mem_filterMap.mp hm
  unfold Scope.omission? at ho
  split at ho <;> cases ho
  rfl

theorem reported_went (runner : Runner σ) (build : Build σ) (job : Job) (style : LineStyle)
    (completion : Completion) :
    Went runner build [.enter .parse, .enter .remap, .enter .report] build.files
      (build.reported job style completion) :=
  ((((Went.refl.enter .parse).say (Event.quiet_count _)).enter .remap).sayAll
    (Event.quiet_of_topic (topic_omissions _ _ _) (by decide))).enter .report |>.report _

theorem conclude_went (runner : Runner σ) {family : Family} {style : LineStyle}
    {completion : Completion} {report : Report}
    (h : build.conclude job family style completion = (report, build')) :
    Went runner build [.enter .parse, .enter .remap, .enter .report] build.files build' := by
  have htopic : ∀ record ∈ unexplainedRecords completion, record.topic = .output := by
    simp [unexplainedRecords, outputRecords]
  have hreported := build.reported_went runner job style completion
  rw [conclude_eq] at h
  split at h
  · exact (hreported.sayAll (Event.quiet_of_topic htopic (by decide))).finish h
  · exact hreported.finish h

theorem aftermath_of_lineStyle (family : Family) (completion : Completion) :
    aftermath family (.ok completion) =
      if family.lineStyle.isNone then [.report] else [.parse, .remap, .report] := by
  cases family <;> rfl

theorem invoke_went {toolchain : Toolchain} {outcome : Except Fault Report}
    (h : build.invoke runner job toolchain = (outcome, build')) :
    ∃ acts files, Invoked (build.assembly job) toolchain acts ∧
      Went runner build acts files build' := by
  have hcommand := (build.assembly job toolchain).command_eq
  generalize hc : (⟨_, _, _, _⟩ : Command) = command at hcommand
  have hinvoked (reply : Reply) := Invoked.intro reply hcommand (hc ▸ rfl) (hc ▸ rfl)
  have hassembly : ((build.enter .assemble).assembly job toolchain).command = .ok command :=
    hcommand
  dsimp only [invoke] at h
  rw [hassembly] at h
  dsimp only at h
  have hstart : Went runner build [.enter .assemble, .enter .execute] build.files
      (((build.enter .assemble).enter .execute).debug
        ("compile command: " ++ command.render runner.host)) :=
    ((Went.refl.enter .assemble).enter .execute).say (Event.quiet_of_second rfl (by decide) _)
  split at h
  · next hr =>
    obtain ⟨reply, hcall, -, hreplied⟩ := run_went hr
    cases hreplied with
    | notStarted hno =>
      cases h
      refine ⟨_, build'.files, hinvoked reply, ?_⟩
      rw [hno]
      exact hstart.trans hcall
  · next completion ran hr =>
    obtain ⟨reply, hcall, -, hreplied⟩ := run_went hr
    cases hreplied with
    | ended hok =>
      have hran : Went runner build [.enter .assemble, .enter .execute, .call command reply]
          ran.files (ran.debug ("compiler output:\n" ++ completion.output)) :=
        (hstart.trans hcall).say (Event.quiet_of_second rfl (by decide) _)
      refine ⟨_, ran.files, hinvoked reply, ?_⟩
      rw [hok, aftermath_of_lineStyle]
      split at h
      · next hs =>
        generalize hend : concludeRaw _ job toolchain.family completion = ended at h
        cases h
        rw [hs]
        exact hran.trans (concludeRaw_went runner hend)
      · next style hs =>
        generalize hend : conclude _ job toolchain.family style completion = ended at h
        cases h
        rw [hs]
        exact hran.trans (conclude_went runner hend)

theorem succeeded_iff {completion : Completion} :
    completion.succeeded = true ↔ ∃ output, completion = ⟨output, 0⟩ := by
  obtain ⟨output, code⟩ := completion
  simp [Completion.succeeded]

inductive Recognised (compiler : String) (reply : Reply) : Except Fault Toolchain → Prop
  | refused {fault : Fault} (hr : ∀ output, reply.outcome ≠ .ok ⟨output, 0⟩) :
    Recognised compiler reply (.error fault)
  | answered {output : String} (hr : reply.outcome = .ok ⟨output, 0⟩) :
    Recognised compiler reply (.ok ⟨.ofBanner output, compiler, none⟩)

theorem detect_went {compiler : String} {outcome : Except Fault Toolchain}
    (h : build.detect runner compiler = (outcome, build')) :
    ∃ reply, Went runner build [.call (probe compiler) reply] build'.files build' ∧
      Recognised compiler reply outcome := by
  unfold detect at h
  split at h
  · next hr =>
    obtain ⟨reply, hcall, -, hreplied⟩ := run_went hr
    cases hreplied with
    | notStarted hno =>
      cases h
      exact ⟨reply, hcall, .refused (by simp [hno])⟩
  · next completion ran hr =>
    obtain ⟨reply, hcall, -, hreplied⟩ := run_went hr
    cases hreplied with
    | ended hok =>
      split at h
      · next hcode =>
        cases h
        refine ⟨reply, hcall, .refused fun output ho => ?_⟩
        cases hok.symm.trans ho
        simp [Completion.succeeded] at hcode
      · next hcode =>
        cases h
        obtain ⟨output, rfl⟩ := succeeded_iff.mp (by simpa using hcode)
        refine ⟨reply, hcall.say ?_, .answered hok⟩
        rw [String.append_assoc, String.append_assoc]
        exact Event.quiet_of_second rfl (by decide) _

theorem compileWith_went {compiler : String} {outcome : Except Fault Report}
    (h : build.compileWith runner job compiler = (outcome, build')) :
    ∃ acts files, Probed (build.assembly job) compiler acts ∧
      Went runner build acts files build' := by
  unfold compileWith at h
  split at h
  · next hd =>
    obtain ⟨reply, hcall, hrecognised⟩ := detect_went hd
    cases hrecognised with
    | refused hr =>
      cases h
      exact ⟨_, _, .refused hr, hcall⟩
  · next hd =>
    obtain ⟨reply, hcall, hrecognised⟩ := detect_went hd
    cases hrecognised with
    | answered hr =>
      obtain ⟨acts, files, hi, hwent⟩ := invoke_went h
      exact ⟨_, files, .answered hr (hcall.assembly_eq job ▸ hi), hcall.trans hwent⟩

inductive Found (reply : Reply) : Except Fault String → Prop
  | noLocator {cause : OsError} {line : String} (hr : reply.outcome = .error cause) :
    Found reply (.error (.notStarted line cause))
  | script {script : String} (hl : Locates reply script) : Found reply (.ok script)
  | nothing {completion : Completion} {reason : String} (hr : reply.outcome = .ok completion)
      (hl : ∀ script, ¬Locates reply script) :
    Found reply (.error (VisualStudio.notFound reason))

theorem locates_iff {reply : Reply} {output : String} (hr : reply.outcome = .ok ⟨output, 0⟩)
    (script : String) : Locates reply script ↔ ∃ path,
      VisualStudio.installation? output = some path ∧ reply.files.isDir path = true ∧
      script = VisualStudio.scriptPath path ∧ reply.files.pathExists script = true := by
  simp [Locates, hr, installation?_eq_some_iff]

theorem found_path {reply : Reply} {output path noDir noScript : String}
    (hr : reply.outcome = .ok ⟨output, 0⟩) (hp : VisualStudio.installation? output = some path) :
    Found reply (if !reply.files.isDir path then .error (VisualStudio.notFound noDir)
      else if reply.files.pathExists (VisualStudio.scriptPath path) then
        .ok (VisualStudio.scriptPath path)
      else .error (VisualStudio.notFound noScript)) := by
  have hlocates := locates_iff hr
  simp only [hp, Option.some.injEq, exists_eq_left'] at hlocates
  split
  · next hdir =>
    refine .nothing hr fun script hl => ?_
    obtain ⟨hd, -⟩ := (hlocates script).mp hl
    simp [hd] at hdir
  · next hdir =>
    split
    · next hscript => exact .script ((hlocates _).mpr ⟨by simpa using hdir, rfl, hscript⟩)
    · next hscript =>
      refine .nothing hr fun script hl => ?_
      obtain ⟨-, rfl, hs⟩ := (hlocates script).mp hl
      exact hscript hs

theorem locate_went {machine : Machine σ} {found : Except Fault String}
    (h : VisualStudio.locate build.machine runner = (found, machine)) :
    ∃ reply, Went runner build [.call VisualStudio.query reply] machine.work.files
        { build with machine } ∧ Found reply found := by
  have hrun (outcome : Except Fault Completion) (machine : Machine σ)
      (hr : build.machine.run runner VisualStudio.query = (outcome, machine)) :
      build.run runner VisualStudio.query = (outcome, { build with machine }) := by
    simp [run, hr]
  unfold VisualStudio.locate at h
  split at h
  · next hr =>
    obtain ⟨reply, hcall, -, hreplied⟩ := run_went (hrun _ _ hr)
    cases hreplied with
    | notStarted hno =>
      cases h
      exact ⟨reply, hcall, .noLocator hno⟩
  · next completion ran hr =>
    obtain ⟨reply, hcall, hfiles, hreplied⟩ := run_went (hrun _ _ hr)
    cases hreplied with
    | ended hok =>
      split at h
      · next hcode =>
        cases h
        refine ⟨reply, hcall, .nothing hok ?_⟩
        rintro script ⟨output, path, ho, -⟩
        cases hok.symm.trans ho
        simp [Completion.succeeded] at hcode
      · next hcode =>
        obtain ⟨output, rfl⟩ := succeeded_iff.mp (by simpa using hcode)
        split at h
        · next hnone =>
          cases h
          exact ⟨reply, hcall, .nothing hok (by simp [locates_iff hok, hnone])⟩
        · next path hpath =>
          cases h
          refine ⟨reply, hcall.say (Event.quiet_of_source (.inr (by simp))), ?_⟩
          have hfiles : (ran.say .debug .visualStudio
              ("visual studio installation: " ++ path)).work.files = reply.files := hfiles
          rw [hfiles]
          exact found_path hok hpath

theorem remarked_removeObject (work : Workspace) (path : String) :
    work.Remarked (removeObject work path) := by
  unfold removeObject
  split
  · exact .refl
  · split
    · exact ⟨_, rfl, by simpa using Event.quiet_of_source (.inl (by simp))⟩
    · exact ⟨_, rfl, by simpa using Event.quiet_of_source (.inl (by simp))⟩

theorem remarked_discard (job : Job) (work : Workspace) : work.Remarked (job.discard work) := by
  unfold Job.discard Job.cleanup
  split
  · exact .refl
  · dsimp only
    split
    · exact ⟨_, rfl, by simpa using Event.quiet_of_source (.inr (by simp))⟩
    · exact .refl
    · exact ⟨_, rfl, by simpa using Event.quiet_of_source (.inr (by simp))⟩

theorem Went.removeObjects (h : Went runner build acts files build₁) (job : Job) :
    Went runner build acts files (build₁.removeObjects job) := by
  have hfold (paths : List String) (build₁ : Build σ) (h : Went runner build acts files build₁) :
      Went runner build acts files
        (build₁.withWork (paths.foldl removeObject build₁.machine.work)) := by
    induction paths generalizing build₁ with
    | nil => exact h
    | cons path rest ih => exact ih _ (h.remark (remarked_removeObject _ path))
  exact hfold _ _ h

theorem compileWindows_went {outcome : Except Fault Report}
    (h : build.compileWindows runner job = (outcome, build')) :
    ∃ acts files, Searched (build.assembly job) acts ∧ Went runner build acts files build' := by
  unfold compileWindows at h
  generalize hl : VisualStudio.locate build.machine runner = located at h
  obtain ⟨found, machine⟩ := located
  obtain ⟨reply, hcall, hfound⟩ := locate_went hl
  cases hfound with
  | noLocator hr =>
    cases h
    exact ⟨_, _, .noLocator hr, hcall⟩
  | @script script hs =>
    dsimp only at h
    generalize hi : invoke { build with machine } runner job
      ⟨.msvc, VisualStudio.compiler, some script⟩ = invoked at h
    obtain ⟨report, after⟩ := invoked
    obtain ⟨acts, files, hi, hwent⟩ := invoke_went hi
    cases h
    exact ⟨_, files, .native hs (hcall.assembly_eq job ▸ hi), (hcall.trans hwent).removeObjects job⟩
  | nothing hr hno =>
    have hwarn (message : String) : Event.Quiet (.record ⟨.warn, .build, message⟩) :=
      Event.quiet_of_source (.inl (by simp))
    have hwarned (message : String) := (hcall.say (hwarn message)).enter .detect
    obtain ⟨acts, files, hp, hwent⟩ := compileWith_went h
    exact ⟨_, files, .fallback hr hno ((hwarned _).assembly_eq job ▸ hp), (hwarned _).trans hwent⟩

theorem asked?_eq (build : Build σ) (job : Job) :
    build.asked? job = if build.wanted job = "" then none else some (build.wanted job) := by
  unfold asked? wanted
  by_cases hown : job.order.compiler = ""
  · cases ho : build.options.compiler with
    | none => simp [hown]
    | some compiler =>
      by_cases hc : compiler = "" <;> simp [hown, hc]
  · simp [hown]

theorem attempt_went {outcome : Except Fault Report}
    (h : build.attempt runner job = (outcome, build')) :
    ∃ acts files, Attempted build job acts ∧ Went runner build acts files build' := by
  have hstart : Went runner build [.enter .detect] build.files (build.enter .detect) :=
    Went.refl.enter .detect
  have hasked := build.asked?_eq job
  dsimp only [attempt] at h
  split at h
  · next hh =>
    cases h
    exact ⟨_, _, .noHeader (by simpa using hh), hstart⟩
  next hh =>
  have hh : build.files.isFile build.options.coreHeader = true := by simpa using hh
  split at h
  · next hne =>
    obtain ⟨acts, files, hp, hwent⟩ := compileWith_went h
    have hne : build.wanted job ≠ "" := by simpa using hne
    exact ⟨_, files, .asked hh (hasked.trans (if_neg hne)) (hstart.assembly_eq job ▸ hp),
      hstart.trans hwent⟩
  next hempty =>
  have hnone : build.asked? job = none := hasked.trans (if_pos (by simpa using hempty))
  cases host : build.options.host with
  | windows =>
    rw [if_pos (by simp [host, Host.isWindows])] at h
    obtain ⟨acts, files, hs, hwent⟩ := compileWindows_went h
    exact ⟨_, files, .windows hh hnone host (hstart.assembly_eq job ▸ hs), hstart.trans hwent⟩
  | posix =>
    rw [if_neg (by simp [host, Host.isWindows])] at h
    have hagain := hstart.enter .detect
    obtain ⟨acts, files, hp, hwent⟩ := compileWith_went h
    exact ⟨_, files, .posix hh hnone host (hagain.assembly_eq job ▸ hp), hagain.trans hwent⟩

theorem compile_went (build : Build σ) (runner : Runner σ) (job : Job) :
    ∃ acts files, Attempted build job acts ∧
      Went runner build (acts ++ [.enter .cleanup]) files (build.compile runner job).2 := by
  rw [compile_eq]
  generalize ha : build.attempt runner job = attempted
  obtain ⟨outcome, after⟩ := attempted
  obtain ⟨acts, files, htried, hwent⟩ := attempt_went ha
  refine ⟨acts, files, htried, ?_⟩
  have hfailed (stage : Stage) (message : String) :
      Event.Quiet (.record ⟨.debug, .build, stage.name ++ " failed: " ++ message⟩) := by
    rw [String.append_assoc]
    cases stage <;> exact Event.quiet_of_second rfl (by decide) _
  cases outcome with
  | ok report => exact (hwent.enter .cleanup).remark (remarked_discard job _)
  | error fault => exact ((hwent.say (hfailed _ _)).enter .cleanup).remark (remarked_discard job _)

/-- Every compile performs acts that the protocol allows, in which the stages come in order, then
cleans up. Nothing else is run, and no other acts would do. -/
theorem compile_follows_protocol (build : Build σ) (runner : Runner σ) (job : Job) :
    (build.compile runner job).2.stage = .cleanup ∧
      ∃! acts, Attempted build job acts ∧ InOrder (Act.stages acts) ∧
        ∃ files, Went runner build (acts ++ [.enter .cleanup]) files
          (build.compile runner job).2 := by
  have hpossible {acts : List Act} {files : Files} {build' : Build σ}
      (h : Went runner build (acts ++ [.enter .cleanup]) files build') :
      Possible runner build.files build.machine.hand acts := by
    obtain ⟨calls, -, hran⟩ := h.performed
    exact Possible.of_append ⟨calls, _, _, hran⟩
  obtain ⟨acts, files, hallowed, hwent⟩ := compile_went build runner job
  refine ⟨rfl, acts, ⟨hallowed, hallowed.inOrder, files, hwent⟩, ?_⟩
  rintro other ⟨hother, -, files₁, hwent₁⟩
  exact hother.unique hallowed (hpossible hwent₁) (hpossible hwent)

end Build
end Retrace
