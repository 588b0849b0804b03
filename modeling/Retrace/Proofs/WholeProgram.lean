import Retrace.Proofs.Faults
import Retrace.Proofs.Roster

/-!
# One command for the whole program

Whatever happened to a roster before, its jobs stand in the order in which they
were made, each once. The command that compiles one of them names the sources of
all the others in that order, and takes nothing else from them.
-/

namespace Retrace

/-! ## The arguments -/

namespace Assembly

/-- All that stands in front of the sources. An output is named only where one is made. -/
def preamble (family : Family) (switches : Switches) (dryRun : Bool) (host : Host)
    (coreHeader : String) (output : Option String) : List String :=
  { family, compiler := "", coreHeader, switches, dryRun, host, output := output.getD "",
    source := "" : Assembly }.options.flatMap (Item.words family.dialect)

theorem words_options (a : Assembly) :
    a.options.flatMap (Item.words a.family.dialect) =
      preamble a.family a.switches a.dryRun a.host a.coreHeader
        (if a.dryRun then none else some a.output) := by
  unfold preamble options
  -- a dry run does not read the output, so any will do
  cases a.dryRun <;> rfl

theorem words_items (a : Assembly) :
    a.items.flatMap (Item.words a.family.dialect) =
      preamble a.family a.switches a.dryRun a.host a.coreHeader
        (if a.dryRun then none else some a.output) ++
      a.others.map Path.slashed ++ a.extraArgs ++ [Path.slashed a.source] := by
  simp only [items, List.flatMap_append, words_options, List.flatMap_map, Item.words,
    List.flatMap_singleton', List.flatMap_cons, List.flatMap_nil, List.append_nil]
  rw [← List.map_eq_flatMap]

end Assembly

namespace Build

/-! ## Whole runs -/

/-- The builds that operations on a roster lead to. A job that is taken out may be kept or dropped,
so the workspace after that is any. -/
inductive Visited (start : Build σ) : Build σ → Prop
  | new : Visited start start
  | add (hv : Visited start build) (order : Order) : Visited start (build.addUnit order).2
  | take (hv : Visited start build) (id : JobId) (work : Workspace) :
    Visited start ({ build with roster := build.roster.erase id }.withWork work)
  | compile (hv : Visited start build) (runner : Runner σ) (id : JobId) :
    Visited start (build.compileJob runner id).2
  | reset (hv : Visited start build) : Visited start build.reset

variable {build : Build σ}

theorem addUnit_roster (build : Build σ) (order : Order) :
    (∃ fault, (build.addUnit order).1 = .error fault ∧
      (build.addUnit order).2.roster = build.roster) ∨
    ∃ job, (build.addUnit order).1 = .ok ⟨build.roster.next⟩ ∧
      (build.addUnit order).2.roster = (build.roster.insert job).2 := by
  unfold addUnit Roster.create
  rcases Job.create order build.roster.next build.machine.work with ⟨_ | job, work⟩
  · exact .inl ⟨_, rfl, rfl⟩
  · exact .inr ⟨job, rfl, rfl⟩

theorem compileJob_roster (build : Build σ) (runner : Runner σ) (id : JobId) :
    (build.compileJob runner id).2.roster = build.roster ∨
      (build.compileJob runner id).2.roster = build.roster.erase id := by
  unfold compileJob Roster.take
  cases build.roster.get? id with
  | none => exact .inl rfl
  | some job =>
    obtain ⟨trace, hc⟩ := compile_cases { build with roster := build.roster.erase id } runner job
    obtain ⟨_, _, _, hended, -⟩ := hc.ended
    exact .inr hended.roster

theorem Visited.ascending {start : Build σ} (hnew : start.roster = {}) (hv : Visited start build) :
    build.roster.Ascending := by
  have hempty : Roster.Ascending {} := ⟨.nil, by simp [Roster.ids]⟩
  induction hv with
  | new => exact hnew ▸ hempty
  | @add build _ order ih =>
    rcases build.addUnit_roster order with ⟨_, -, hr⟩ | ⟨job, -, hr⟩
    · exact hr ▸ ih
    · exact hr ▸ ih.insert job
  | take _ id work ih => exact ih.erase id
  | @compile build _ runner id ih =>
    rcases build.compileJob_roster runner id with hr | hr
    · exact hr ▸ ih
    · exact hr ▸ ih.erase id
  | reset _ ih => exact hempty

/-! ## The command -/

def programCommand (build : Build σ) (id : JobId) (job : Job) (toolchain : Toolchain) : Command where
  program := toolchain.compiler
  args :=
    Assembly.preamble toolchain.family job.order.switches build.options.dryRun build.options.host
      build.options.coreHeader (if build.options.dryRun then none else some job.order.output) ++
    (build.roster.entries.filter (·.1 ≠ id)).map (fun other => Path.slashed other.2.generated) ++
    job.order.extraArgs ++ [Path.slashed job.generated]
  merged := toolchain.script.isNone
  script := toolchain.script

theorem assembly_command (h : build.roster.Ascending) (id : JobId) (job : Job)
    (toolchain : Toolchain) :
    ({ build with roster := build.roster.erase id }.assembly job toolchain).command =
      .ok (build.programCommand id job toolchain) := by
  rw [Assembly.command_eq, Assembly.words_items]
  simp only [assembly, Roster.jobs, h.entries_erase, List.map_map]
  rfl

/-- After any operations on the roster, the jobs stand in the order they were made in, each once.
A job of the roster is compiled by one command, which can be made whatever the toolchain. It is the
last call, with the toolchain that the calls before it chose; if they chose none it is not made. From
the other jobs the command takes their sources alone. -/
theorem whole_program_command {start : Build σ} (hnew : start.roster = {})
    (hv : Visited start build) {id : JobId} {job : Job}
    (hget : build.roster.get? id = some job) :
    build.roster.ids.Pairwise (fun a b => a.index < b.index) ∧
    (∀ order new, (build.addUnit order).1 = .ok new →
      ∃ made, (build.addUnit order).2.roster.entries = build.roster.entries ++ [(new, made)] ∧
        ∀ old ∈ build.roster.ids, old.index < new.index) ∧
    (∀ toolchain,
      ({ build with roster := build.roster.erase id }.assembly job toolchain).command =
        .ok (build.programCommand id job toolchain) ∧
      ∀ roster, roster.jobs.map (·.generated) = (build.roster.erase id).jobs.map (·.generated) →
        ({ build with roster }.assembly job toolchain).command =
          .ok (build.programCommand id job toolchain)) ∧
    ∀ runner, ∃ choice chosen trace,
      (build.compileJob runner id).2.machine.calls = build.machine.calls ++ trace ∧
      Selected { build with roster := build.roster.erase id } job choice chosen ∧
      (∀ call ∈ choice, (∃ compiler, call.command = probe compiler) ∨
        call.command = VisualStudio.query) ∧
      (∀ fault, chosen = .error fault →
        (build.compileJob runner id).1 = .error fault ∧ trace = choice) ∧
      ∀ toolchain, chosen = .ok toolchain →
        ∃ call, call.command = build.programCommand id job toolchain ∧ trace = choice ++ [call] := by
  have h := hv.ascending hnew
  have hcommand := assembly_command h id job
  refine ⟨h.ordered, fun order new hadd => ?_,
    fun toolchain => ⟨hcommand toolchain, fun roster hsame => ?_⟩, fun runner => ?_⟩
  · rcases build.addUnit_roster order with ⟨_, herr, -⟩ | ⟨made, hok, hr⟩
    · rw [hadd] at herr
      cases herr
    · obtain rfl := Except.ok.inj (hadd.symm.trans hok)
      exact ⟨made, by rw [hr]; rfl, h.below⟩
  · rw [← hcommand toolchain]
    simp only [assembly, hsame]
  · have hjob : build.compileJob runner id =
        { build with roster := build.roster.erase id }.compile runner job := by
      simp only [compileJob, Roster.take, hget, Option.map_some]
    obtain ⟨trace, hc⟩ := compile_cases { build with roster := build.roster.erase id } runner job
    obtain ⟨choice, chosen, hs, herror, hok⟩ := hc.choice
    rw [hjob]
    refine ⟨choice, chosen, trace, hc.calls, hs, fun call hmem => ?_, herror,
      fun toolchain hchosen => ?_⟩
    · exact (hs.not_assembly call hmem).imp_left fun hp => ⟨_, of_decide_eq_true hp⟩
    · obtain ⟨call, hm, htrace⟩ := hok toolchain hchosen
      exact ⟨call, Except.ok.inj (hm.symm.trans (hcommand toolchain)), htrace⟩

end Build

def Sample.pair : Build Unit :=
  (Sample.added.addUnit { Sample.order with extraArgs := ["-lm"] }).2

theorem Build.whole_program_command_second_unit :
    Sample.build.roster = {} ∧ Visited Sample.build Sample.pair ∧
      ∃ job, Sample.pair.roster.get? ⟨1⟩ = some job ∧
        (∃ command,
          ({ Sample.pair with roster := Sample.pair.roster.erase ⟨1⟩ }.assembly job
            ⟨.gcc, "g++", none⟩).command = .ok command ∧ command.merged = true ∧
          command.args.drop 15 = ["-o", "/a", "/IR.temp.debug.verbose.cxir", "-lm",
            "/IR.temp.debug.verbose.1.cxir"]) ∧
        ∃ toolchain call, call.command = Sample.pair.programCommand ⟨1⟩ job toolchain ∧
          (Sample.pair.compileJob (Sample.runner Sample.output) ⟨1⟩).2.machine.calls.getLast? =
            some call := by
  have hv : Visited Sample.build Sample.pair := (Visited.new.add Sample.order).add _
  have hargs : (Sample.pair.roster.get? ⟨1⟩).map (fun job =>
      (Sample.pair.programCommand ⟨1⟩ job ⟨.gcc, "g++", none⟩).args.drop 15) =
      some ["-o", "/a", "/IR.temp.debug.verbose.cxir", "-lm", "/IR.temp.debug.verbose.1.cxir"] := by
    decide +kernel
  obtain ⟨job, hget, hargs⟩ := Option.map_eq_some_iff.mp hargs
  have hended : (Sample.pair.compileJob (Sample.runner Sample.output) ⟨1⟩).1.isOk = true := by
    decide +kernel
  obtain ⟨-, -, hmade, hcalled⟩ := whole_program_command rfl hv hget
  refine ⟨rfl, hv, job, hget, ⟨_, (hmade _).1, rfl, hargs⟩, ?_⟩
  obtain ⟨choice, chosen, trace, hcalls, -, -, herror, hok⟩ := hcalled (Sample.runner Sample.output)
  cases chosen with
  | error fault =>
    rw [(herror fault rfl).1] at hended
    cases hended
  | ok toolchain =>
    obtain ⟨call, hcommand, rfl⟩ := hok toolchain rfl
    refine ⟨toolchain, call, hcommand, ?_⟩
    rw [hcalls, ← List.append_assoc, List.getLast?_concat]

end Retrace
