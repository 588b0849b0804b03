import Retrace.Roster

/-!
# A roster is a log with deletions

Numbers are given out in ascending order, each once until the roster is cleared.
What a roster holds is the log of what was entered since then, in that order, less
what was taken out. `History` is any run of operations with what each of them
answered, and `ledger` is what the run amounts to; the two are compared once, and
all that the roster answers follows from it.
-/

namespace Retrace.Roster

/-! ## The order of a roster -/

structure Ascending (roster : Roster) : Prop where
  ordered : roster.ids.Pairwise fun a b => a.index < b.index
  below : ∀ id ∈ roster.ids, id.index < roster.next

section

variable {ids : List JobId} (h : ids.Pairwise fun a b => a.index < b.index)
include h

theorem nodup_of_ascending : ids.Nodup :=
  h.imp fun hlt heq => Nat.ne_of_lt hlt (congrArg JobId.index heq)

theorem ascending_concat {next : Nat} (hb : ∀ id ∈ ids, id.index < next) :
    (ids ++ [(⟨next⟩ : JobId)]).Pairwise fun a b => a.index < b.index := by
  refine List.pairwise_append.mpr ⟨h, List.pairwise_singleton _ _, fun a ha b hmem => ?_⟩
  obtain rfl := List.mem_singleton.mp hmem
  exact hb a ha

end

namespace Ascending

variable {roster : Roster} {id : JobId} {job : Job}

theorem insert (h : roster.Ascending) (job : Job) : (roster.insert job).2.Ascending := by
  have hids : (roster.insert job).2.ids = roster.ids ++ [⟨roster.next⟩] := by
    simp [ids, Roster.insert]
  refine ⟨?_, fun other hmem => ?_⟩
  · rw [hids]
    exact ascending_concat h.ordered h.below
  · rw [hids] at hmem
    rcases List.mem_append.mp hmem with hmem | hmem
    · exact Nat.lt_succ_of_lt (h.below other hmem)
    · obtain rfl := List.mem_singleton.mp hmem
      exact Nat.lt_succ_self _

theorem erase (h : roster.Ascending) (id : JobId) : (roster.erase id).Ascending := by
  have hsub : (roster.erase id).ids.Sublist roster.ids := List.eraseP_sublist.map _
  exact ⟨h.ordered.sublist hsub, fun other hmem => h.below other (hsub.subset hmem)⟩

theorem entries_erase (h : roster.Ascending) (id : JobId) :
    (roster.erase id).entries = roster.entries.filter (·.1 ≠ id) := by
  have hnodup : (roster.entries.map Prod.fst).Pairwise fun a b => a ≠ b :=
    nodup_of_ascending h.ordered
  unfold Roster.erase
  generalize roster.entries = entries at hnodup
  induction entries with
  | nil => rfl
  | cons entry entries ih =>
    obtain ⟨hfirst, hrest⟩ := List.pairwise_cons.mp hnodup
    by_cases hid : entry.1 = id
    -- erasing stops here and filtering goes on, but nothing behind has this number
    · have hothers : entries.filter (·.1 ≠ id) = entries := by
        refine List.filter_eq_self.mpr fun other hmem => ?_
        have hne := hfirst other.1 (List.mem_map_of_mem hmem)
        simpa [hid] using hne.symm
      simpa [hid] using hothers.symm
    · simpa [hid] using ih hrest

theorem get?_eq_some_iff (h : roster.Ascending) :
    roster.get? id = some job ↔ (id, job) ∈ roster.entries := by
  have hnodup : (roster.entries.map Prod.fst).Pairwise fun a b => a ≠ b :=
    nodup_of_ascending h.ordered
  unfold get?
  generalize roster.entries = entries at hnodup
  induction entries with
  | nil => simp
  | cons entry entries ih =>
    obtain ⟨hfirst, hrest⟩ := List.pairwise_cons.mp hnodup
    by_cases hid : entry.1 = id
    · have hothers : (id, job) ∉ entries := fun hmem =>
        hfirst id (List.mem_map_of_mem (f := Prod.fst) hmem) hid
      simp [hid, hothers, Prod.ext_iff, eq_comm]
    · have hne : (id, job) ≠ entry := fun heq => hid (congrArg Prod.fst heq).symm
      simpa [hid, hne] using ih hrest

end Ascending

/-! ## Whole runs -/

inductive Act where
  | entered (id : JobId) (job : Job)
  | refused (fault : Fault)
  | took (id : JobId) (answer : Option Job)
  | cleared

/-- All that was done since a roster was new, and the roster now. Files may be anything whenever
they are looked at. -/
inductive History : List Act → Roster → Prop
  | new : History [] {}
  | create {past roster roster' job order work work'} {id : JobId} (h : History past roster)
      (hmade : (Job.create order roster.next work).1 = .ok job)
      (hc : roster.create order work = (.ok id, roster', work')) :
    History (past ++ [.entered id job]) roster'
  | refuse {past roster roster' fault order work work'} (h : History past roster)
      (hc : roster.create order work = (.error fault, roster', work')) :
    History (past ++ [.refused fault]) roster'
  | insert {past roster} (h : History past roster) (job : Job) :
    History (past ++ [.entered (roster.insert job).1 job]) (roster.insert job).2
  | take {past roster roster' job} {id : JobId} (h : History past roster)
      (ht : roster.take id = some (job, roster')) :
    History (past ++ [.took id (some job)]) roster'
  | miss {past roster} {id : JobId} (h : History past roster) (ht : roster.take id = none) :
    History (past ++ [.took id none]) roster
  | clear {past roster} (h : History past roster) (work : Workspace) :
    History (past ++ [.cleared]) (roster.clear work).1

/-- What was entered since the last clear, and which of it was taken out. -/
structure Ledger where
  entered : List (JobId × Job) := []
  taken : List JobId := []

def Ledger.after (ledger : Ledger) : Act → Ledger
  | .entered id job => { ledger with entered := ledger.entered ++ [(id, job)] }
  | .took id (some _) => { ledger with taken := ledger.taken ++ [id] }
  | .took _ none | .refused _ => ledger
  | .cleared => {}

def ledger (past : List Act) : Ledger := past.foldl Ledger.after {}

variable {roster roster' : Roster} {id : JobId} {job : Job} {past : List Act} {order : Order}
  {work work' : Workspace} {fault : Fault}

theorem ledger_append (past : List Act) (act : Act) :
    ledger (past ++ [act]) = (ledger past).after act := by
  simp [ledger]

theorem create_eq_ok (h : roster.create order work = (.ok id, roster', work')) :
    ∃ job, Job.create order roster.next work = (.ok job, work') ∧
      roster.insert job = (id, roster') := by
  unfold create at h
  rcases hmade : Job.create order roster.next work with ⟨_ | job, _⟩ <;> rw [hmade] at h <;> cases h
  exact ⟨job, rfl, rfl⟩

theorem create_eq_error (h : roster.create order work = (.error fault, roster', work')) :
    Job.create order roster.next work = (.error fault, work') ∧ roster' = roster := by
  unfold create at h
  rcases hmade : Job.create order roster.next work with ⟨_ | job, _⟩ <;> rw [hmade] at h <;> cases h
  exact ⟨rfl, rfl⟩

theorem take_eq_some (h : roster.take id = some (job, roster')) :
    roster.get? id = some job ∧ roster' = roster.erase id := by
  obtain ⟨found, hget, heq⟩ := Option.map_eq_some_iff.mp h
  cases heq
  exact ⟨hget, rfl⟩

/-- A roster holds what a ledger says it should. -/
structure Follows (roster : Roster) (ledger : Ledger) : Prop where
  entries : roster.entries = ledger.entered.filter (·.1 ∉ ledger.taken)
  ordered : (ledger.entered.map (·.1)).Pairwise fun a b => a.index < b.index
  below : ∀ id ∈ ledger.entered.map (·.1) ++ ledger.taken, id.index < roster.next

namespace Follows

variable {ledger : Ledger}

theorem ascending (h : roster.Follows ledger) : roster.Ascending := by
  have hsub : roster.ids.Sublist (ledger.entered.map (·.1)) := by
    rw [ids, h.entries]
    exact List.filter_sublist.map _
  exact ⟨h.ordered.sublist hsub,
    fun id hmem => h.below id (List.mem_append_left _ (hsub.subset hmem))⟩

theorem insert (h : roster.Follows ledger) (job : Job) :
    (roster.insert job).2.Follows (ledger.after (.entered ⟨roster.next⟩ job)) := by
  have hnew : (⟨roster.next⟩ : JobId) ∉ ledger.taken := fun hmem =>
    Nat.lt_irrefl _ (h.below _ (List.mem_append_right _ hmem))
  refine ⟨?_, ?_, fun id hmem => ?_⟩
  · show roster.entries ++ [(⟨roster.next⟩, job)] =
      (ledger.entered ++ [((⟨roster.next⟩ : JobId), job)]).filter (·.1 ∉ ledger.taken)
    rw [h.entries, List.filter_append, List.filter_cons_of_pos (by simpa using hnew),
      List.filter_nil]
  · simp only [Ledger.after, List.map_append]
    exact ascending_concat h.ordered fun id hmem => h.below id (List.mem_append_left _ hmem)
  · have hcases : id ∈ ledger.entered.map (·.1) ++ ledger.taken ∨ id = ⟨roster.next⟩ := by
      grind [Ledger.after]
    rcases hcases with hold | rfl
    · exact Nat.lt_succ_of_lt (h.below id hold)
    · exact Nat.lt_succ_self _

theorem take (h : roster.Follows ledger) (hget : roster.get? id = some job) :
    (roster.erase id).Follows (ledger.after (.took id (some job))) := by
  have hmem := h.ascending.get?_eq_some_iff.mp hget
  refine ⟨?_, h.ordered, fun other hother => ?_⟩
  · rw [h.ascending.entries_erase, h.entries, List.filter_filter]
    refine List.filter_congr fun entry _ => ?_
    simp [Ledger.after, and_comm]
  · rcases List.mem_append.mp hother with hold | hnew
    · exact h.below other (List.mem_append_left _ hold)
    · rcases List.mem_append.mp hnew with hold | hnew
      · exact h.below other (List.mem_append_right _ hold)
      · obtain rfl := List.mem_singleton.mp hnew
        exact h.ascending.below other (List.mem_map_of_mem hmem)

end Follows

theorem History.follows (h : History past roster) : roster.Follows (ledger past) := by
  induction h with
  | new => exact ⟨rfl, .nil, by simp [ledger]⟩
  | create _ hmade hc ih =>
    obtain ⟨made, hjob, hinsert⟩ := create_eq_ok hc
    rw [hjob] at hmade
    cases hmade
    cases hinsert
    exact ledger_append .. ▸ ih.insert _
  | refuse _ hc ih => exact ledger_append .. ▸ (create_eq_error hc).2 ▸ ih
  | insert _ job ih => exact ledger_append .. ▸ ih.insert job
  | take _ ht ih =>
    obtain ⟨hget, rfl⟩ := take_eq_some ht
    exact ledger_append .. ▸ ih.take hget
  | miss _ _ ih => exact ledger_append .. ▸ ih
  | clear _ _ _ => exact ledger_append .. ▸ ⟨rfl, .nil, by simp [Ledger.after]⟩

/-- After any run, the roster holds what was entered since the last clear and not taken out, in the
order of entry and under ascending numbers of which none was given out twice. A number leads to the
job it was given out for, and taking it out changes nothing else. -/
theorem refines_log (h : History past roster) :
    (roster.ids.Pairwise fun a b => a.index < b.index) ∧
    (∀ id ∈ roster.ids, id.index < roster.next) ∧
    ((ledger past).entered.map (·.1)).Nodup ∧
    roster.entries = (ledger past).entered.filter (·.1 ∉ (ledger past).taken) ∧
    (∀ id job, roster.get? id = some job ↔
      (id, job) ∈ (ledger past).entered ∧ id ∉ (ledger past).taken) ∧
    (∀ id, (roster.take id).map (·.1) = roster.get? id ∧
      ∀ job rest, roster.take id = some (job, rest) →
        rest.entries = roster.entries.filter (·.1 ≠ id) ∧ rest.next = roster.next) ∧
    roster.size = roster.ids.length := by
  have hf := h.follows
  have ha := hf.ascending
  refine ⟨ha.ordered, ha.below, nodup_of_ascending hf.ordered, hf.entries, fun id job => ?_,
    fun id => ⟨?_, fun job rest ht => ?_⟩, by simp [size, ids]⟩
  · rw [ha.get?_eq_some_iff, hf.entries, List.mem_filter, decide_eq_true_iff]
  · simp [take, Function.comp_def]
  · obtain ⟨-, rfl⟩ := take_eq_some ht
    exact ⟨ha.entries_erase id, rfl⟩

/-- A number that was taken out is not given out again. -/
theorem refines_log_after_take :
    ∃ past roster, History past roster ∧ roster.ids = [⟨1⟩, ⟨2⟩] ∧ (ledger past).taken = [⟨0⟩] ∧
      ((ledger past).entered.map (·.1)).Nodup ∧
      roster.get? ⟨0⟩ = none := by
  let job : Job := ⟨⟨"int x;", "a", "b", "/", "", [], {}, {}⟩, "c", none⟩
  have htake : ((Roster.insert {} job).2.insert job).2.take ⟨0⟩ = some (job, _) := rfl
  have h := (((History.new.insert job).insert job).take htake).insert job
  obtain ⟨-, -, hnodup, -, hget, -⟩ := refines_log h
  refine ⟨_, _, h, rfl, rfl, hnodup, Option.eq_none_iff_forall_ne_some.mpr fun other hsome => ?_⟩
  exact ((hget ⟨0⟩ other).mp hsome).2 (List.mem_singleton.mpr rfl)

end Retrace.Roster
