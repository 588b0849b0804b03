import Retrace.Proofs.Attribution
import Retrace.Proofs.Gnu
import Retrace.Proofs.Lifecycle
import Retrace.Proofs.Verdict

/-!
# Findings in the driver's own sources

Where a source is written, how its path is spelled in the command and how a path
is cut out of a line are decided in three places. They agree on every source in
a directory without a colon, and there a finding is always told to the user; a
colon in the directory ends the path too early.
-/

namespace Retrace

namespace Path

theorem slashed_slashed (path : String) : slashed (slashed path) = slashed path := by
  have hno : '\\' ∉ (slashed path).toList := by
    simp only [slashed, String.toList_ofList, List.mem_map, not_exists, not_and]
    intro c _
    split
    · decide
    · assumption
  exact slashed_eq_self hno

theorem colon_mem_slashed {path : String} : ':' ∈ (slashed path).toList ↔ ':' ∈ path.toList := by
  simp only [slashed, String.toList_ofList, List.mem_map]
  constructor
  · rintro ⟨c, hmem, hc⟩
    split at hc
    · cases hc
    · exact hc ▸ hmem
  · exact fun hmem => ⟨':', hmem, rfl⟩

theorem exists_slash_cons {path : String} (h : isAbsolute path = true) :
    ∃ rest, (slashed path).toList = '/' :: rest := by
  obtain ⟨rest, hrest⟩ := List.head?_eq_some_iff.mp (of_decide_eq_true h)
  exact ⟨_, by rw [slashed, String.toList_ofList, hrest, List.map_cons]; rfl⟩

theorem toList_join {base name : String} (hb : isAbsolute base = true)
    (hn : isAbsolute name = false) :
    ∃ gap, ':' ∉ gap ∧ (join base name).toList = base.toList ++ gap ++ name.toList := by
  have hne : base.isEmpty = false := by
    rw [Bool.eq_false_iff]
    intro he
    rw [String.isEmpty_iff.mp he] at hb
    cases hb
  rw [join, hn, hne]
  simp only [Bool.false_or, Bool.false_eq_true, if_false]
  split
  · exact ⟨[], by simp, by simp⟩
  · exact ⟨['/'], by decide, by simp [String.toList_append]⟩

end Path

namespace Job

/-! ## Where a source is made -/

theorem colon_not_mem_name {stem : String} {index : Nat}
    (h : stem = debugStem index ∨ ∃ serial, stem = tempStem serial) :
    ':' ∉ (stem ++ suffix).toList := by
  have hsuffix : ':' ∉ suffix.toList := by decide
  have hfront : ':' ∉ (debugStem 0).toList := by decide
  rw [String.toList_append, List.mem_append, not_or]
  refine ⟨?_, hsuffix⟩
  rcases h with rfl | ⟨serial, rfl⟩
  · cases index with
    | zero => exact hfront
    | succ n =>
      have hcolon : ':' ∉ Nat.toDigits 10 (n + 1) := fun hmem =>
        absurd (Nat.isDigit_of_mem_toDigits (by omega) (by omega) hmem) (by decide)
      simp [toList_debugStem_succ, hfront, hcolon]
  · have hdigit : ∀ digit < 62, nameDigit digit ≠ ':' := by decide
    simp [toList_tempStem, not_mem_nameDigits hdigit]

theorem create_path {order : Order} {index : Nat} {work : Workspace} {job : Job}
    (ht : Path.isAbsolute work.tempDir = true) (hw : Path.isAbsolute order.workingDir = true)
    (h : (create order index work).1 = .ok job) :
    ∃ dir stem, (dir = work.tempDir ∨ dir = order.workingDir) ∧
      job.generated = Path.join dir (stem ++ suffix) ∧
      (stem = debugStem index ∨ ∃ serial, stem = tempStem serial) := by
  have hc := create_cases order index work
  rw [h] at hc
  generalize (create order index work).2.files = files' at hc
  cases hc with
  | @temporary dir path serial _ hi hd hp hc =>
    have hdir : dir = work.tempDir ∨ dir = order.workingDir := hd.imp_right And.left
    have habs : Path.isAbsolute dir = true := by rcases hdir with rfl | rfl <;> assumption
    rw [baseOf, if_pos habs] at hp
    exact ⟨dir, _, hdir, hp, .inr ⟨serial, rfl⟩⟩
  | fixed hi hp hw =>
    rw [debugName_eq] at hp
    exact ⟨_, _, .inr rfl, hp, .inl rfl⟩

/-- How the path of a source is spelled: from the root, and with the colons of its directory. -/
theorem create_spelling {order : Order} {index : Nat} {work : Workspace} {job : Job}
    (ht : Path.isAbsolute work.tempDir = true) (hw : Path.isAbsolute order.workingDir = true)
    (h : (create order index work).1 = .ok job) :
    (∃ rest, (Path.slashed job.generated).toList = '/' :: rest) ∧
      ∃ dir, (dir = work.tempDir ∨ dir = order.workingDir) ∧
        (':' ∈ job.generated.toList ↔ ':' ∈ dir.toList) := by
  obtain ⟨dir, stem, hdir, hpath, hstem⟩ := create_path ht hw h
  have habs : Path.isAbsolute dir = true := by rcases hdir with rfl | rfl <;> assumption
  have hname : Path.isAbsolute (stem ++ suffix) = false := by
    have hs : IsStem stem := by
      rcases hstem with rfl | ⟨serial, rfl⟩
      · exact isStem_debugStem _
      · exact isStem_tempStem _
    rw [Bool.eq_false_iff]
    intro hslash
    exact hs.isName_source.plain (List.mem_of_head? (of_decide_eq_true hslash))
  -- the name and what joins it to the directory have no colons of their own
  obtain ⟨gap, hgap, hlist⟩ := Path.toList_join habs hname
  rw [← hpath] at hlist
  refine ⟨Path.exists_slash_cons ?_, dir, hdir, ?_⟩
  · obtain ⟨rest, hrest⟩ := List.head?_eq_some_iff.mp (of_decide_eq_true habs)
    simp [Path.isAbsolute, hlist, hrest]
  · rw [hlist]
    simp [hgap, colon_not_mem_name hstem, -String.toList_append]

end Job

/-! ## What becomes of a finding -/

/-- A unit that no unit in front of it, nor the runtime header, is the same as. -/
structure Scope.Leads (scope : Scope) (files : Files) (unit : Lowering) : Prop where
  core : files.samePath (Path.slashed unit.generated.text) scope.coreHeader = false
  first : ∃ before after, scope.units = before ++ unit :: after ∧
    ∀ other ∈ before, files.samePath (Path.slashed unit.generated.text) other.generated = false

theorem Scope.Leads.diagnose {scope : Scope} {files : Files} {unit : Lowering} {finding : Finding}
    (h : scope.Leads files unit) (hf : finding.file = Path.slashed unit.generated.text) :
    scope.diagnose files finding = .ok (told scope.policy unit finding) := by
  obtain ⟨before, after, hunits, hbefore⟩ := h.first
  have hown : files.samePath finding.file unit.generated = true := by
    simp [Files.samePath, hf, Path.slashed_slashed]
  have hunit : scope.unit? files finding.file = some unit := by
    have hnone : before.find? (fun unit => files.samePath finding.file unit.generated) = none :=
      List.find?_eq_none.mpr fun other hmem => by simp [hf, hbefore other hmem]
    -- the units in front do not have the path, and the unit itself has it in its own spelling
    rw [unit?, hunits, List.find?_append, hnone, Option.none_or]
    exact List.find?_cons_of_pos hown
  rw [Scope.diagnose, site, hf, h.core, ← hf, hunit]
  rfl

namespace Finding.Gnu

/-- A printed path is cut out of its line again exactly if no colon stands in it. -/
theorem parse_print_file (finding : Finding) {rest : List Char}
    (hfile : finding.file.toList = '/' :: rest) (hcode : finding.code = none)
    (htrim : Text.trim finding.message.toList = finding.message.toList) :
    (':' ∉ finding.file.toList → parse (print true finding) = some finding) ∧
      (':' ∈ finding.file.toList →
        ∀ read, parse (print true finding) = some read → read.file ≠ finding.file) := by
  constructor
  · intro hcolon
    have hrooted : Rooted finding.file.toList := by
      rw [hfile] at hcolon ⊢
      exact .slash (.inl rfl) fun hmem => hcolon (List.mem_cons_of_mem _ hmem)
    exact Printable.parse_print ⟨hrooted, hcode, htrim⟩ fun h => nomatch h
  · rintro hcolon read hread hsame
    -- a path that was read has no colon behind its root
    obtain ⟨layout, -, rfl⟩ := read?_eq_some_iff.mp hread
    have hlayout : layout.file = '/' :: rest := by
      rw [← hfile, ← hsame, Layout.finding, String.toList_ofList]
    have hrooted := layout.rooted
    rw [hfile] at hcolon
    rw [hlayout] at hrooted
    cases hrooted with
    | slash hs hr => exact hr (by simpa using hcolon)
    | drive hd hs hr => simp at hd

end Finding.Gnu

namespace Job

theorem text_lowering (job : Job) : (Build.lowering job).generated.text = job.generated :=
  OsPath.text_ofText job.generated

/-- Whatever is printed about the source of a job, under the path that the command names, is told to
the user as it was printed, through the map of that job, if there is no colon in the path. Under a
path with a colon nothing is found that has this path. The colons are those of the directory. -/
theorem findings_return {order : Order} {index : Nat} {work : Workspace} {job : Job}
    {scope : Scope} {files : Files} (ht : Path.isAbsolute work.tempDir = true)
    (hw : Path.isAbsolute order.workingDir = true) (hmade : (create order index work).1 = .ok job)
    (hscope : scope.Leads files (Build.lowering job)) (line column : UInt32) (severity : Severity)
    {message : String} (hm : Text.trim message.toList = message.toList) :
    let finding : Finding := ⟨Path.slashed job.generated, line, column, severity, none, message⟩
    (∃ dir, (dir = work.tempDir ∨ dir = order.workingDir) ∧
      (':' ∈ job.generated.toList ↔ ':' ∈ dir.toList)) ∧
    (':' ∉ job.generated.toList →
      LineStyle.gnu.readLine (Finding.Gnu.print true finding) = some finding ∧
        scope.diagnose files finding =
          .ok (Scope.told scope.policy (Build.lowering job) finding)) ∧
    (':' ∈ job.generated.toList → ∀ read,
      LineStyle.gnu.readLine (Finding.Gnu.print true finding) = some read →
        read.file ≠ Path.slashed job.generated) := by
  intro finding
  obtain ⟨⟨rest, hfile⟩, hcolons⟩ := create_spelling ht hw hmade
  obtain ⟨hread, hlost⟩ := Finding.Gnu.parse_print_file finding hfile rfl hm
  have hown : finding.file = Path.slashed (Build.lowering job).generated.text := by
    rw [text_lowering]
  refine ⟨hcolons, fun hmem => ⟨hread ?_, hscope.diagnose hown⟩, fun hmem => hlost ?_⟩
  · exact fun hslashed => hmem (Path.colon_mem_slashed.mp hslashed)
  · exact Path.colon_mem_slashed.mpr hmem

theorem findings_return_debug_source :
    ∃ job, (create Sample.order 0 Sample.work).1 = .ok job ∧
      (Sample.build.scope job).Leads Sample.work.files (Build.lowering job) ∧
      let note : Finding := ⟨"/IR.temp.debug.verbose.cxir", 7, 2, .note, none, "a: b"⟩
      LineStyle.gnu.readLine "/IR.temp.debug.verbose.cxir:7:2: note: a: b".toList = some note ∧
        (Sample.build.scope job).diagnose Sample.work.files note =
          .ok (Scope.told .exact (Build.lowering job) note) := by
  have hmade : (create Sample.order 0 Sample.work).1.toOption.map (·.generated) =
      some "/IR.temp.debug.verbose.cxir" := by decide +kernel
  obtain ⟨job, hjob, hgenerated⟩ := Option.map_eq_some_iff.mp hmade
  have hpath : Path.slashed job.generated = "/IR.temp.debug.verbose.cxir" := by
    rw [hgenerated]
    decide
  have hcore : Sample.work.files.samePath "/IR.temp.debug.verbose.cxir" "/core.hh" = false := by
    decide +kernel
  have hleads : (Sample.build.scope job).Leads Sample.work.files (Build.lowering job) :=
    ⟨by rw [text_lowering, hpath]; exact hcore, [], _, rfl, by simp⟩
  have hjob := eq_ok_of_toOption hjob
  have hm : Text.trim "a: b".toList = "a: b".toList := by decide
  have h := (findings_return rfl rfl hjob hleads 7 2 .note hm).2.1 (by rw [hgenerated]; decide)
  rw [hpath] at h
  exact ⟨job, hjob, hleads, h⟩

theorem finding_lost_behind_colon :
    let work : Workspace := ⟨{ nodes := [([Text.Utf8.encode "a:b".toList], .dir)] }, "/", 0, []⟩
    ((create { Sample.order with workingDir := "/a:b" } 0 work).1.toOption.map fun job =>
        (Path.slashed job.generated, LineStyle.gnu.readLine (Finding.Gnu.print true
          ⟨Path.slashed job.generated, 5, 3, .error, none, "broken"⟩))) =
      some ("/a:b/IR.temp.debug.verbose.cxir", none) := by
  decide +kernel

end Job
end Retrace
