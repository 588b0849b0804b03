import Retrace.Proofs.Faults
import Retrace.Proofs.Footprint

/-!
# Files that a run leaves alone

The program chooses some paths itself and does not look at what is there: the output
when none is named, the sources of a debug-verbose build, and the object file that
the native compiler leaves. Nothing else changes but where there was nothing, so a
file that meets none of these paths is after every run what it was.
-/

namespace Retrace

/-! ## Compilers that write one file -/

namespace Command

/-- The word after the first flag that names an output. A word after the flag that names a header
is a path, whatever it looks like. -/
def outputIn : (isPath : Bool) → List String → Option String
  | _, [] => none
  | true, _ :: rest => outputIn false rest
  | false, word :: rest =>
    if word ∈ ["-o", "/Fe:"] then rest.head? else outputIn (word ∈ ["-include", "/FI"]) rest

def output? (command : Command) : Option String := outputIn false command.args

def IsPlain (word : String) : Prop := word ∉ ["-o", "/Fe:"] ∧ word ∉ ["-include", "/FI"]

theorem outputIn_append {words : List String} (h : ∀ word ∈ words, IsPlain word)
    (rest : List String) : outputIn false (words ++ rest) = outputIn false rest := by
  induction words with
  | nil => rfl
  | cons word words ih =>
    obtain ⟨⟨ho, hh⟩, hwords⟩ := List.forall_mem_cons.mp h
    rw [List.cons_append, outputIn, if_neg ho, decide_eq_false hh, ih hwords]

end Command

namespace Assembly

theorem isPlain_words {flag : Flag} (ho : flag ≠ .output) (hh : flag ≠ .includeHeader)
    (dialect : Family) : ∀ word ∈ flag.words dialect, Command.IsPlain word := by
  unfold Command.IsPlain
  cases flag with
  | output => exact absurd rfl ho
  | includeHeader => exact absurd rfl hh
  | _ => cases dialect <;> decide +kernel

def settings (a : Assembly) : List Flag :=
  [if a.switches.debug then .debugInfo else .optimizeMax, .forceCxx, .stdCxx23, .exceptions] ++
    (if a.family.formatsFindings then Flag.battery else []) ++
    (if a.host.isWindows then [] else [.runtimeLibraryPath]) ++ [.warnAll]

theorem options_eq {a : Assembly} (hd : a.dryRun = false) :
    a.options = [.flag .includeHeader, .path a.coreHeader] ++ a.settings.map .flag ++
      [.flag .output, .path a.output] := by
  unfold options settings
  cases a.switches.debug <;> cases a.family.formatsFindings <;> cases a.host.isWindows <;>
    simp [hd]

theorem isPlain_settings (a : Assembly) (dialect : Family) :
    ∀ word ∈ a.settings.flatMap (Flag.words · dialect), Command.IsPlain word := by
  have hplain : ∀ flag ∈ a.settings, flag ≠ .output ∧ flag ≠ .includeHeader := by
    unfold settings
    cases a.switches.debug <;> cases a.family.formatsFindings <;> cases a.host.isWindows <;> decide
  intro word hmem
  obtain ⟨flag, hflag, hword⟩ := List.mem_flatMap.mp hmem
  exact isPlain_words (hplain flag hflag).1 (hplain flag hflag).2 dialect word hword

theorem output?_command {a : Assembly} {command : Command} (hc : a.command = .ok command)
    (hd : a.dryRun = false) : command.output? = some (Path.slashed a.output) := by
  have hheader (rest : List String) :
      Command.outputIn false (Flag.words .includeHeader a.family.dialect ++
        Path.slashed a.coreHeader :: rest) = Command.outputIn false rest := by
    cases a.family <;> rfl
  have houtput (rest : List String) :
      Command.outputIn false (Flag.words .output a.family.dialect ++
        Path.slashed a.output :: rest) = some (Path.slashed a.output) := by
    cases a.family <;> rfl
  rw [command_eq] at hc
  rw [← Except.ok.inj hc, Command.output?, items, options_eq hd]
  simp only [List.append_assoc, List.flatMap_append, List.flatMap_cons, List.flatMap_nil,
    List.flatMap_map, Item.words, List.append_nil, List.cons_append,
    List.nil_append]
  rw [hheader, Command.outputIn_append (a.isPlain_settings _), houtput]

end Assembly

/-- Processes that change nothing but where the output of their command leads. They may write or
remove what is there, or the link that leads there. -/
def Confined (runner : Runner σ) : Prop :=
  ∀ command files hand, Files.Touched
    (fun place => ∃ path follow, command.output? = some path ∧ files.locate path follow = .ok place)
    files (runner.start command files hand).1.files

/-- If only the last command of a row has an output, only that is written. -/
theorem Ran.touched {runner : Runner σ} {path : String} (hc : Confined runner)
    (hran : Ran runner files hand trace files' hand')
    (hfirst : ∀ call ∈ trace.dropLast, call.command.output? = none)
    (hlast : ∀ call ∈ trace.getLast?, ∀ output, call.command.output? = some output →
      output = path) :
    Files.Touched (fun place => ∃ follow, files.locate path follow = .ok place) files files' := by
  induction hran with
  | done => exact .refl
  | @next command files hand reply middle trace after final hs rest ih =>
    have hcall := hc command files hand
    rw [hs] at hcall
    cases trace with
    | nil =>
      cases rest
      refine hcall.mono ?_
      rintro place ⟨output, follow, ho, hl⟩
      exact ⟨follow, hlast _ rfl output ho ▸ hl⟩
    | cons second trace =>
      rw [List.dropLast_cons_cons, List.forall_mem_cons] at hfirst
      -- a command without an output changes no node at all
      have hidle : Files.Touched (fun _ => False) files reply.files := by
        refine hcall.mono ?_
        rintro place ⟨output, follow, ho, -⟩
        rw [hfirst.1] at ho
        cases ho
      have hrest := ih hfirst.2 (by simpa using hlast)
      refine (hidle.mono fun _ => False.elim).trans (hrest.mono ?_)
      rintro place ⟨follow, hl⟩
      have hnode := (hidle.nodes place).resolve_right fun hx => hx.1
      exact ⟨follow, hidle.locate hl fun _ _ hx => hnode.trans hx⟩

/-! ## The program's own paths -/

namespace Arguments

def Stems (args : Arguments) (index : Nat) (stem : String) : Prop :=
  if args.debug && args.verbose then stem = Job.debugStem index
  else ∃ serial, stem = Job.tempStem serial

/-- The paths that the program chooses, and writes or removes without a look at what is there: the
output named after the entry, the sources of a debug-verbose build, and on Windows the object file
of the entry. -/
inductive Chooses (args : Arguments) (files : Files) (host : Host) : String → Prop
  | output : Chooses args files host (Path.slashed (host.defaultOutput args.entry))
  | source {index : Nat} (hd : args.debug = true) (hv : args.verbose = true)
      (hi : index < args.generated.length) :
    Chooses args files host (Path.join files.cwdPath (Job.debugName index))
  | object {dir stem : String} (hw : host = .windows)
      (hd : dir = files.cwdPath ∨
        Path.parent? (host.defaultOutput args.entry) = some dir ∧ dir ≠ "")
      (hs : args.Stems 0 stem) :
    Chooses args files host (Path.join dir (stem ++ ".obj"))

def Reach (args : Arguments) (files : Files) (host : Host) (place : Location) : Prop :=
  files.node? place = none ∨
    ∃ path follow, args.Chooses files host path ∧ files.locate path follow = .ok place

structure Stands (args : Arguments) (files : Files) (host : Host) (id : JobId) (job : Job) :
    Prop where
  output : job.order.output = host.defaultOutput args.entry
  workingDir : job.order.workingDir = files.cwdPath
  named : ∃ dir stem, job.generated = Path.join dir (stem ++ Job.suffix) ∧ args.Stems id.index stem
  source : ∀ place, files.locate job.generated false = .ok place → args.Reach files host place

/-- Only places within reach have changed since the start, and paths lead where they led. -/
structure Within (args : Arguments) (start : Files) (host : Host) (files : Files) : Prop where
  touched : start.Touched (args.Reach start host) files
  ways : ∀ path follow place, files.locate path follow = .ok place →
    start.locate path follow = .ok place

variable {args : Arguments} {start files files' : Files} {host : Host} {place : Location}

theorem Stems.isStem {index : Nat} {stem : String} (h : args.Stems index stem) :
    Job.IsStem stem := by
  unfold Stems at h
  split at h
  · exact h ▸ Job.isStem_debugStem index
  · obtain ⟨serial, rfl⟩ := h
    exact Job.isStem_tempStem serial

theorem Within.reach_of_none (h : args.Within start host files) (hx : files.node? place = none) :
    args.Reach start host place := by
  rcases h.touched.nodes place with hs | ⟨hp, -, -⟩
  · exact .inl (hs ▸ hx)
  · exact hp

theorem Within.changedAt (h : args.Within start host files) (hp : args.Reach start host place)
    (hc : Files.ChangedAt place files files') : args.Within start host files' where
  touched := h.touched.trans ((Files.Touched.of_changedAt hc).mono fun _ heq => heq ▸ hp)
  ways := fun path follow place hl => h.ways path follow place (hc.symm.locate hl)

theorem Within.write (h : args.Within start host files) {path : String}
    (hp : args.Chooses start host path) (bytes : List UInt8) :
    args.Within start host (files.write path bytes).2 := by
  rcases files.write_cases path bytes with hsame | ⟨place, hl, hc⟩
  · rwa [hsame]
  · exact h.changedAt (.inr ⟨path, true, hp, h.ways path true place hl⟩) hc

theorem Within.created {work : Workspace} {order : Order} {i index : Nat}
    (h : args.Within start host work.files) (hout : args.output = none)
    (hy : args.Yields start host i order) (hi : index < args.generated.length)
    {outcome : Except Fault Job} (hc : Job.Created order index work outcome files') :
    (∃ fault, outcome = .error fault) ∧ start.Touched (args.Reach start host) files' ∨
      ∃ job, outcome = .ok job ∧ args.Stands start host ⟨index⟩ job ∧
        args.Within start host files' := by
  have houtput : order.output = host.defaultOutput args.entry := by
    rw [hy.output, hout, Option.getD_none]
  have hstems (inspected : Bool) (hi' : Job.isInspectable order = inspected) :
      (args.debug && args.verbose) = inspected := by
    rw [← hi', Job.isInspectable, hy.switches]
  have hchosen (hi' : Job.isInspectable order = true) :
      args.Chooses start host (Path.join order.workingDir (Job.debugName index)) := by
    obtain ⟨hd, hv⟩ := Bool.and_eq_true_iff.mp (hstems true hi')
    rw [hy.workingDir]
    exact .source hd hv hi
  cases hc with
  | @temporary dir path serial _ hi' hd hp hw =>
    -- a temporary source is only made where there is nothing by now
    obtain ⟨place, hl, hx, rfl⟩ := hw.eq_put
    have hreach := h.reach_of_none hx
    refine .inr ⟨_, rfl, ⟨houtput, hy.workingDir, ⟨_, Job.tempStem serial, hp, ?_⟩, ?_⟩,
      h.changedAt hreach (.put (hx ▸ Files.stops_none) _ _)⟩
    · rw [Stems, hstems false hi']
      exact ⟨serial, rfl⟩
    · intro other hother
      exact Except.ok.inj ((h.ways _ _ _ hl).symm.trans hother) ▸ hreach
  | @fixed path _ hi' hp hw =>
    subst hp
    have hwrite := h.write (hchosen hi') (Job.bytes order)
    rw [hw] at hwrite
    refine .inr ⟨_, rfl, ⟨houtput, hy.workingDir,
      ⟨order.workingDir, Job.debugStem index, by rw [Job.debugName_eq], ?_⟩,
      fun place hl => .inr ⟨_, false, hchosen hi', hl⟩⟩, hwrite⟩
    rw [Stems, hstems true hi']
    rfl
  | refused => exact .inl ⟨⟨_, rfl⟩, h.touched⟩
  | @unwritten path _ _ left hi' hp hw =>
    subst hp
    have hwrite := h.write (hchosen hi') (Job.bytes order)
    rw [hw] at hwrite
    -- what the write left under the fixed name is removed again
    refine .inl ⟨⟨_, rfl⟩, hwrite.touched.discard fun place hl => ?_⟩
    exact .inr ⟨_, false, hchosen hi', hl⟩

end Arguments

/-! ## From the first job to the last -/

namespace Build

/-- What a run of the program keeps to its end. -/
structure Kept (args : Arguments) (start : Files) (host : Host) (build : Build σ) : Prop where
  touched : start.Touched (args.Reach start host) build.files
  jobs : ∀ entry ∈ build.roster.entries, args.Stands start host entry.1 entry.2

/-- What it keeps until the compiler is started. -/
structure Staged (args : Arguments) (start : Files) (host : Host) (build : Build σ) : Prop where
  within : args.Within start host build.files
  jobs : ∀ entry ∈ build.roster.entries, args.Stands start host entry.1 entry.2
  onHost : build.options.host = host
  makes : build.options.dryRun = false

variable {args : Arguments} {start : Files} {host : Host} {build : Build σ}

theorem Staged.kept (h : Staged args start host build) : Kept args start host build :=
  ⟨h.within.touched, h.jobs⟩

theorem Kept.discardAll (h : Kept args start host build) :
    start.Touched (args.Reach start host)
      (Job.discardAll build.roster.jobs build.machine.work).files := by
  have hall : ∀ job ∈ build.roster.jobs, ∀ place,
      start.locate job.generated false = .ok place → args.Reach start host place := by
    intro job hmem
    obtain ⟨entry, hentry, rfl⟩ := List.mem_map.mp hmem
    exact (h.jobs entry hentry).source
  have ht := h.touched
  unfold files at ht
  generalize build.roster.jobs = jobs, build.machine.work = work at hall ht
  induction jobs generalizing work with
  | nil => exact ht
  | cons job jobs ih =>
    obtain ⟨hfirst, hrest⟩ := List.forall_mem_cons.mp hall
    refine ih _ hrest ?_
    rw [Job.files_discard]
    split
    · exact ht.discard hfirst
    · exact ht

theorem Staged.addUnit (h : Staged args start host build) {order : Order} {i : Nat}
    (hout : args.output = none) (hy : args.Yields start host i order)
    (hi : build.roster.next < args.generated.length) :
    (∃ fault, (build.addUnit order).1 = .error fault) ∧
      Kept args start host (build.addUnit order).2 ∨
    (build.addUnit order).1 = .ok ⟨build.roster.next⟩ ∧
      (build.addUnit order).2.roster.next = build.roster.next + 1 ∧
      Staged args start host (build.addUnit order).2 := by
  have hc := Job.create_cases order build.roster.next build.machine.work
  unfold Build.addUnit Roster.create
  generalize Job.create order build.roster.next build.machine.work = made at hc
  obtain ⟨outcome, work⟩ := made
  rcases h.within.created hout hy hi hc with ⟨⟨fault, rfl⟩, ht⟩ | ⟨job, rfl, hjob, hwithin⟩
  · exact .inl ⟨⟨fault, rfl⟩, ht, h.jobs⟩
  · refine .inr ⟨rfl, rfl, hwithin, fun entry hmem => ?_, h.onHost, h.makes⟩
    rcases List.mem_append.mp hmem with hmem | hmem
    · exact h.jobs entry hmem
    · obtain rfl := List.mem_singleton.mp hmem
      exact hjob

theorem Selected.onWindows {job : Job} {trace : List Call} {toolchain : Toolchain}
    (h : Selected build job trace (.ok toolchain)) (hs : toolchain.script.isSome = true) :
    build.options.host = .windows := by
  have hprobed {compiler : String} {call : Call} (hp : probed compiler call = .ok toolchain) :
      toolchain.script = none := by
    unfold probed at hp
    split at hp
    · cases hp
    · split at hp <;> cases hp
      rfl
  generalize hc : Except.ok toolchain = chosen at h
  cases h with
  | asked | generic | fallback => simp [hprobed hc.symm] at hs
  | noHeader | noLocator => cases hc
  | native _ _ host => exact host

theorem Compiled.outputs {runner : Runner σ} {build' : Build σ} {job : Job} {trace : List Call}
    {outcome : Except Fault Report} (h : Compiled runner build job trace outcome build')
    (hd : build.options.dryRun = false) :
    (∀ call ∈ trace.dropLast, call.command.output? = none) ∧
      ∀ call ∈ trace.getLast?, ∀ output, call.command.output? = some output →
        output = Path.slashed job.order.output := by
  have hchoice {choice : List Call} {chosen : Except Fault Toolchain}
      (hs : Selected build job choice chosen) :
      ∀ call ∈ choice, call.command.output? = none := by
    intro call hmem
    rcases hs.not_assembly call hmem with hp | hq
    · rw [of_decide_eq_true hp]
      rfl
    · rw [hq]
      decide
  have hcompile {toolchain : Toolchain} {call : Call}
      (hc : (build.assembly job toolchain).command = .ok call.command) (output : String)
      (ho : call.command.output? = some output) : output = Path.slashed job.order.output := by
    have hown := Assembly.output?_command hc hd
    exact Option.some.inj (ho.symm.trans hown)
  cases h with
  | notSelected hs he =>
    refine ⟨fun call hmem => hchoice hs call (List.dropLast_subset _ hmem), ?_⟩
    intro call hmem output ho
    rw [hchoice hs call (List.mem_of_getLast? hmem)] at ho
    cases ho
  | notStarted hs hc | finished hs hc =>
    rw [List.dropLast_concat, List.getLast?_concat]
    refine ⟨hchoice hs, ?_⟩
    rintro call ⟨⟩
    exact hcompile hc

theorem Compiled.ended_onWindows {runner : Runner σ} {build' : Build σ} {job : Job}
    {trace : List Call} {outcome : Except Fault Report}
    (h : Compiled runner build job trace outcome build') :
    ∃ files added native, Ended runner build job trace files added native build' ∧
      (native = true → build.options.host = .windows) := by
  cases h with
  | notSelected hs he => exact ⟨_, _, _, he, nofun⟩
  | notStarted hs hc hr he | finished hs hc hr he => exact ⟨_, _, _, he, hs.onWindows⟩

/-- The compile of the first job writes the output and removes what belongs to the job. -/
theorem Staged.compileJob {runner : Runner σ} (h : Staged args start host build)
    (hc : Confined runner) : Kept args start host (build.compileJob runner ⟨0⟩).2 := by
  unfold Build.compileJob
  cases ht : build.roster.take ⟨0⟩ with
  | none => exact h.kept
  | some taken =>
    obtain ⟨job, rest⟩ := taken
    obtain ⟨before, after, he, rfl⟩ := Roster.take_cases ht
    have hjob := h.jobs (⟨0⟩, job) (by simp [he])
    obtain ⟨dir, stem, hg, hs⟩ := hjob.named
    obtain ⟨trace, hcompiled⟩ := compile_cases
      { build with roster := ⟨before ++ after, build.roster.next⟩ } runner job
    obtain ⟨hfirst, hlast⟩ := hcompiled.outputs h.makes
    obtain ⟨files, added, native, hended, hwindows⟩ := hcompiled.ended_onWindows
    -- the compiler writes the output, then the objects go, and the source goes last
    have hran : start.Touched (args.Reach start host) files := by
      refine h.within.touched.trans ((hended.ran.touched hc hfirst hlast).mono ?_)
      rintro place ⟨follow, hl⟩
      exact .inr ⟨_, follow, hjob.output ▸ .output, h.within.ways _ _ _ hl⟩
    refine ⟨?_, fun entry hmem => h.jobs entry ?_⟩
    · rw [hended.left]
      unfold tidied
      have hswept : start.Touched (args.Reach start host)
          (if native then (objectPaths job).foldl Files.sweep files else files) := by
        split
        · next hnative =>
          refine hran.sweepAll fun path hpath place hl => ?_
          obtain ⟨place, hdir, rfl⟩ := (mem_objectPaths hg hs.isStem).mp hpath
          rw [hjob.workingDir, hjob.output] at hdir
          exact .inr ⟨_, false, .object (h.onHost ▸ hwindows hnative) hdir hs, hl⟩
        · exact hran
      dsimp only
      split
      · exact hswept.discard hjob.source
      · exact hswept
    · rw [hended.roster] at hmem
      rw [he]
      exact List.mem_append.mpr ((List.mem_append.mp hmem).imp_right (List.mem_cons_of_mem _))

end Build

namespace Program

variable {args : Arguments} {start : Files} {host : Host} {build : Build σ}

theorem addUnits_kept {orders : List Order} (hout : args.output = none)
    (h : build.Staged args start host)
    (hy : ∀ order ∈ orders, ∃ i, args.Yields start host i order)
    (hi : build.roster.next + orders.length ≤ args.generated.length) :
    (addUnits build orders).2.Kept args start host ∧ ∀ ids, (addUnits build orders).1 = .ok ids →
      (addUnits build orders).2.Staged args start host ∧
        ∀ id ∈ ids.head?, id = ⟨build.roster.next⟩ := by
  induction orders generalizing build with
  | nil => exact ⟨h.kept, fun ids hids => ⟨h, by cases hids; simp⟩⟩
  | cons order rest ih =>
    obtain ⟨⟨i, hfirst⟩, hrest⟩ := List.forall_mem_cons.mp hy
    rw [List.length_cons] at hi
    have hadd := h.addUnit hout hfirst (by omega)
    unfold addUnits
    generalize build.addUnit order = added at hadd
    obtain ⟨outcome, middle⟩ := added
    rcases hadd with ⟨⟨fault, rfl⟩, hk⟩ | ⟨rfl, hnext, hs⟩
    · exact ⟨hk, fun ids hids => by cases hids⟩
    · have hmore := ih hs hrest (by omega)
      dsimp only at hmore ⊢
      generalize addUnits middle rest = more at hmore
      obtain ⟨outcome, after⟩ := more
      cases outcome with
      | error fault => exact ⟨hmore.1, fun ids hids => by cases hids⟩
      | ok ids => exact ⟨hmore.1, fun _ hids => ⟨(hmore.2 ids rfl).1, by cases hids; simp⟩⟩

theorem buildFirst_kept {runner : Runner σ} {orders : List Order} (hc : Confined runner)
    (hout : args.output = none) (h : build.Staged args start host) (hnew : build.roster = {})
    (hy : ∀ order ∈ orders, ∃ i, args.Yields start host i order)
    (hi : orders.length ≤ args.generated.length) :
    (buildFirst build runner orders).2.Kept args start host := by
  have hadd := addUnits_kept hout h hy (by rw [hnew]; simpa using hi)
  unfold buildFirst
  generalize addUnits build orders = added at hadd
  obtain ⟨outcome, build'⟩ := added
  match outcome with
  | .error fault => exact hadd.1
  | .ok [] => exact hadd.1
  | .ok (entry :: _) =>
    obtain ⟨hs, hentry⟩ := hadd.2 _ rfl
    obtain rfl : entry = ⟨0⟩ := by rw [hentry entry rfl, hnew]
    have hkept := (hs.compileJob hc).discardAll
    exact ⟨hkept, nofun⟩

theorem runConfig_touched {runner : Runner σ} {config : Config} (hc : Confined runner)
    (hconfig : args.config = .ok config) (hout : args.output = none) (hmake : args.dryRun = false)
    (hand : σ) (installed : Option String) (work : Workspace) :
    work.files.Touched (args.Reach work.files runner.host)
      (runConfig runner hand config installed work).2.files := by
  unfold runConfig
  cases horders : config.orders work.files runner.host with
  | error fault => exact .refl
  | ok orders =>
    obtain ⟨-, hunits, -, -, -, hdry⟩ := Arguments.config_eq_ok hconfig
    have hstart : (opened runner hand config installed work).Staged args work.files runner.host :=
      ⟨⟨.refl, fun _ _ _ hl => hl⟩, nofun, rfl, hdry.trans hmake⟩
    have hlength : orders.length ≤ args.generated.length := by
      rw [(Config.orders_eq_ok horders).1, hunits]
      simp [Arguments.units]
    have hkept := buildFirst_kept hc hout hstart rfl (fun order hmem => by
      obtain ⟨i, hi⟩ := List.mem_iff_getElem?.mp hmem
      exact ⟨i, Arguments.yields_of_orders hconfig horders hi⟩) hlength
    unfold opened at hkept
    dsimp only
    generalize buildFirst _ runner orders = ended at hkept
    obtain ⟨outcome, build'⟩ := ended
    cases outcome with
    | ok => exact hkept.discardAll
    | error fault =>
      have hsaid : (build'.say .error .program (verdict fault)).Kept args work.files runner.host :=
        ⟨hkept.touched, hkept.jobs⟩
      exact hsaid.discardAll

/-- A run that is to make an output but names none changes nothing but where the paths that it
chooses lead, and makes files only where there is nothing. So a file that none of these paths meets,
an input or any other, is after the run what it was. -/
theorem run_keeps_files {runner : Runner σ} (hc : Confined runner) (hand : σ)
    {environment : Environment} {words : List String}
    (hargs : Arguments.parse environment.defaults words = .ok args) (hout : args.output = none)
    (hmake : args.dryRun = false) (work : Workspace) :
    let files' := (run runner hand environment words work).files
    work.files.Touched (args.Reach work.files runner.host) files' ∧
    ∀ path bytes executable, work.files.lookup path = .ok (.file bytes executable) →
      (∀ chosen, args.Chooses work.files runner.host chosen → ¬ work.files.Meets chosen path) →
      files'.lookup path = .ok (.file bytes executable) := by
  intro files'
  have htouched : work.files.Touched (args.Reach work.files runner.host) files' := by
    simp only [files', run, hargs]
    cases hconfig : args.config with
    | error mismatch => exact .refl
    | ok config => exact runConfig_touched hc hconfig hout hmake hand _ work
  refine ⟨htouched, fun path bytes executable hfile hapart => ?_⟩
  refine htouched.lookup hfile fun place hreach hdir => ?_
  rcases hreach with hnone | ⟨chosen, follow, hchosen, hl⟩
  · rw [Files.erase_of_none hnone]
  · exact Classical.byContradiction fun hne =>
      hapart chosen hchosen ⟨follow, place, by rw [hl]; rfl, hdir, hne⟩

end Program

/-! ## Runs -/

namespace Sample

def writing : Runner Unit where
  host := .posix
  start command files _ :=
    (⟨.ok ⟨"gcc 13", 0⟩, match command.output? with
      | some path => (files.write path [127]).2
      | none => files, []⟩, ())

theorem confined_writing : Confined writing := by
  intro command files hand
  cases ho : command.output? with
  | none => simpa [writing, ho] using .refl
  | some path =>
    simp only [writing, ho]
    rcases files.write_cases path [127] with hsame | ⟨place, hl, hc⟩
    · rw [hsame]
      exact .refl
    · refine (Files.Touched.of_changedAt hc).mono ?_
      rintro _ rfl
      exact ⟨path, true, rfl, hl⟩

def inputs : Workspace where
  files := { nodes := ["core.hh", "g.cxir", "prog", "IR.temp.debug.verbose.cxir"].map fun name =>
    ([Text.Utf8.encode name.toList], .file [10] false) }
  tempDir := "/"

end Sample

theorem Program.run_keeps_files_debug_source :
    Confined Sample.writing ∧
      Arguments.parse {} ["-dv", "g.cxir"] =
        .ok { generated := ["g.cxir"], debug := true, verbose := true } ∧
      Sample.inputs.files.lookup "g.cxir" = .ok (.file [10] false) ∧
      (run Sample.writing () {} ["-dv", "g.cxir"] Sample.inputs).files.lookup "g.cxir" =
        .ok (.file [10] false) := by
  have hargs : Arguments.parse {} ["-dv", "g.cxir"] =
      .ok { generated := ["g.cxir"], debug := true, verbose := true } :=
    eq_ok_of_toOption (by decide +kernel)
  have hfile : Sample.inputs.files.lookup "g.cxir" = .ok (.file [10] false) :=
    eq_ok_of_toOption (by decide +kernel)
  refine ⟨Sample.confined_writing, hargs, hfile,
    (run_keeps_files Sample.confined_writing () hargs rfl rfl Sample.inputs).2 _ _ _ hfile ?_⟩
  rintro chosen (_ | @⟨index, -, -, hi⟩ | ⟨hw⟩)
  · decide +kernel
  · obtain rfl : index = 0 := Nat.lt_one_iff.mp hi
    decide +kernel
  · cases hw

/-- A source under the fixed name is removed, and one whose name is its own stem is replaced by the
binary. -/
theorem Program.input_taken_for_own :
    let debug := run Sample.writing () {} ["-dv", "IR.temp.debug.verbose.cxir"] Sample.inputs
    let plain := run Sample.writing () {} ["prog"] Sample.inputs
    Confined Sample.writing ∧
      (∀ name ∈ ["prog", "IR.temp.debug.verbose.cxir"],
        Sample.inputs.files.read name = .ok [10]) ∧
      (debug.code = 0 ∧ debug.files.pathExists "IR.temp.debug.verbose.cxir" = false) ∧
      plain.code = 0 ∧ plain.files.read "prog" = .ok [127] := by
  refine ⟨Sample.confined_writing, ?_, ?_, ?_⟩ <;> decide +kernel

end Retrace
