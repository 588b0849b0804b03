import Retrace.Roster
import Retrace.Proofs.Files

/-!
# Making a source

`Created` is all that can become of the files when an order is put on disk. From it:
a job is entered with its source in a place of its own, or the roster is as it was
and no file has come of it.
-/

namespace Retrace

namespace Job

def bytes (order : Order) : List UInt8 := Text.Utf8.encode order.text.toList

def baseOf (files : Files) (dir : String) : String :=
  if Path.isAbsolute dir then dir else Path.join files.cwdPath dir

def Refuses (files : Files) (dir : String) : Prop :=
  ∃ serial cause, files.create (Path.join (baseOf files dir) (tempName serial)) = .error cause

def Taken (files : Files) (dir : String) (serial : Nat) : Prop :=
  files.create (Path.join (baseOf files dir) (tempName serial)) = .ok none

/-- The names that are tried first are not taken. -/
structure Fresh (order : Order) (work : Workspace) : Prop where
  first : ¬Taken work.files work.tempDir work.serial
  second : ¬Taken work.files order.workingDir (work.serial + 1)

theorem createIn_cases (dir : String) (attempts : Nat) (work : Workspace) :
    (∃ serial work', createIn (baseOf work.files dir) attempts work =
        (.ok (Path.join (baseOf work.files dir) (tempName serial)), work') ∧
      work.files.create (Path.join (baseOf work.files dir) (tempName serial)) =
        .ok (some work'.files)) ∨
    ∃ cause path serial, createIn (baseOf work.files dir) attempts work =
        (.error (cause, path), { work with serial }) ∧
      (0 < attempts → ¬Taken work.files dir work.serial →
        serial = work.serial + 1 ∧ Refuses work.files dir) := by
  induction attempts generalizing work with
  | zero => exact .inr ⟨_, _, work.serial, by rw [createIn], nofun⟩
  | succ attempts ih =>
    rw [createIn]
    cases hc : work.files.create (Path.join (baseOf work.files dir) (tempName work.serial)) with
    | error cause => exact .inr ⟨_, _, _, rfl, fun _ _ => ⟨rfl, _, _, hc⟩⟩
    | ok made =>
      cases made with
      | some files => exact .inl ⟨_, _, rfl, hc⟩
      | none =>
        -- the search goes on with the next name, which freshness rules out
        refine (ih { work with serial := work.serial + 1 }).imp_right ?_
        rintro ⟨cause, path, serial, he, -⟩
        exact ⟨cause, path, serial, he, fun _ hfree => absurd hc hfree⟩

/-- What becomes of the files when an order is put on disk. -/
inductive Created (order : Order) (index : Nat) (work : Workspace) :
    Except Fault Job → Files → Prop
  | temporary {dir path : String} {serial : Nat} {files' : Files}
      (hi : isInspectable order = false)
      (hd : dir = work.tempDir ∨
        dir = order.workingDir ∧ (Fresh order work → Refuses work.files work.tempDir))
      (hp : path = Path.join (baseOf work.files dir) (tempName serial))
      (hc : work.files.Wrote path (bytes order) files') :
    Created order index work (.ok ⟨order, path, some .temporary⟩) files'
  | fixed {path : String} {files' : Files} (hi : isInspectable order = true)
      (hp : path = Path.join order.workingDir (debugName index))
      (hw : work.files.write path (bytes order) = (.ok (), files')) :
    Created order index work (.ok ⟨order, path, some .fixed⟩) files'
  | refused {path detail : String} {cause : OsError} (hi : isInspectable order = false)
      (hr : Fresh order work → Refuses work.files work.tempDir ∧
          Refuses work.files order.workingDir ∨
        work.files.fits (bytes order) = false) :
    Created order index work (.error (.io path cause detail)) work.files
  | unwritten {path detail : String} {cause : OsError} {left : Files}
      (hi : isInspectable order = true)
      (hp : path = Path.join order.workingDir (debugName index))
      (hw : work.files.write path (bytes order) = (.error cause, left)) :
    Created order index work (.error (.io path cause detail)) (left.discard path)

theorem writeSource_created {files : Files} {path detail : String} {work : Workspace}
    (order : Order) (h : files.create path = .ok (some work.files)) :
    (∃ files', writeSource path order.text detail work = (.ok path, { work with files := files' }) ∧
      files.Wrote path (bytes order) files') ∨
    files.fits (bytes order) = false ∧ ∃ cause, writeSource path order.text detail work =
      (.error (.io path cause detail), { work with files }) := by
  obtain ⟨place, -, -, hw⟩ := Files.write_created h (bytes order)
  unfold writeSource Files.writeText
  split at hw
  · rw [← bytes, hw]
    exact .inl ⟨_, rfl, _, h, hw⟩
  · next hroom =>
    obtain ⟨left, hw, rfl⟩ := hw
    rw [← bytes, hw]
    exact .inr ⟨by simpa using hroom, _, rfl⟩

theorem createTemporary_cases (order : Order) (work : Workspace) :
    (∃ dir serial path work', createTemporary order.text [work.tempDir, order.workingDir] work =
        (.ok path, work') ∧
      (dir = work.tempDir ∨
        dir = order.workingDir ∧ (Fresh order work → Refuses work.files work.tempDir)) ∧
      path = Path.join (baseOf work.files dir) (tempName serial) ∧
      work.files.Wrote path (bytes order) work'.files) ∨
    ∃ path cause detail work', createTemporary order.text [work.tempDir, order.workingDir] work =
        (.error (.io path cause detail), work') ∧ work'.files = work.files ∧
      (Fresh order work → Refuses work.files work.tempDir ∧ Refuses work.files order.workingDir ∨
        work.files.fits (bytes order) = false) := by
  rw [createTemporary, ← baseOf]
  rcases createIn_cases work.tempDir maxAttempts work with
    ⟨serial, work', he, hc⟩ | ⟨cause, path, serial, he, hfirst⟩
  · rw [he]
    rcases writeSource_created order hc with ⟨files', hw, hwrote⟩ | ⟨hroom, cause, hw⟩
    · exact .inl ⟨_, serial, _, _, hw, .inl rfl, rfl, hwrote⟩
    · exact .inr ⟨_, _, _, _, hw, rfl, fun _ => .inr hroom⟩
  · rw [he]
    dsimp only [List.isEmpty_cons, Bool.false_eq_true, if_false]
    -- what is said between the directories leaves the files and the names alone
    generalize hnext : Workspace.say { work with serial } _ _ _ = next
    have hfiles : next.files = work.files := by rw [← hnext]; rfl
    have hserial : next.serial = serial := by rw [← hnext]; rfl
    have hpos : 0 < maxAttempts := by decide
    have hcases := createIn_cases order.workingDir maxAttempts next
    rw [hfiles, hserial] at hcases
    rw [createTemporary, ← baseOf, hfiles]
    rcases hcases with ⟨serial', work', he, hc⟩ | ⟨cause, path, serial', he, hsecond⟩
    · rw [he]
      rcases writeSource_created order hc with ⟨files', hw, hwrote⟩ | ⟨hroom, cause, hw⟩
      · exact .inl ⟨_, serial', _, _, hw, .inr ⟨rfl, fun hf => (hfirst hpos hf.first).2⟩,
          rfl, hwrote⟩
      · exact .inr ⟨_, _, _, _, hw, rfl, fun _ => .inr hroom⟩
    · rw [he]
      refine .inr ⟨_, _, _, _, rfl, rfl, fun hf => .inl ?_⟩
      obtain ⟨rfl, hrefuses⟩ := hfirst hpos hf.first
      exact ⟨hrefuses, (hsecond hpos hf.second).2⟩

theorem create_cases (order : Order) (index : Nat) (work : Workspace) :
    Created order index work (create order index work).1 (create order index work).2.files := by
  unfold create
  by_cases hi : isInspectable order = true
  · rw [if_pos hi, writeSource, Files.writeText]
    rcases hw : work.files.write (Path.join order.workingDir (debugName index))
      (Text.Utf8.encode order.text.toList) with ⟨cause | ok, left⟩
    · exact .unwritten hi rfl hw
    · dsimp only
      rw [if_pos hi]
      split <;> exact .fixed hi rfl hw
  · rw [if_neg hi]
    rcases createTemporary_cases order work with
      ⟨dir, serial, path, work', he, hd, hp, hc⟩ | ⟨path, cause, detail, work', he, hf, hr⟩
    · rw [he]
      dsimp only
      rw [if_neg hi]
      split <;> exact .temporary (Bool.eq_false_iff.mpr hi) hd hp hc
    · rw [he]
      dsimp only
      rw [hf]
      exact .refused (Bool.eq_false_iff.mpr hi) hr

end Job

/-! ## All or nothing -/

namespace Roster

def debugPath (roster : Roster) (order : Order) : String :=
  Path.join order.workingDir (Job.debugName roster.next)

/-- Where the source of the next job may be: under the fixed name if it is to be looked at, else in
the temporary directory, or in the working directory if the other one refuses a file. -/
def Places (roster : Roster) (order : Order) (work : Workspace) (path : String) : Prop :=
  if Job.isInspectable order then path = roster.debugPath order
  else ∃ dir serial, path = Path.join (Job.baseOf work.files dir) (Job.tempName serial) ∧
    (dir = work.tempDir ∨ dir = order.workingDir ∧ Job.Refuses work.files work.tempDir)

/-- A job is entered under the next number, its source holds the text that was ordered, and nothing
else has changed. Or all is as it was, but that what was under the fixed name may be gone; a
temporary source fails only if both directories refuse a file or there is no room. A link or a
device under the fixed name would take the text elsewhere. -/
theorem create_all_or_nothing (roster : Roster) (order : Order) (work : Workspace)
    (hf : Job.Fresh order work)
    (hp : Job.isInspectable order = true → work.files.Plain (roster.debugPath order)) :
    (∃ job place work', roster.create order work =
        (.ok ⟨roster.next⟩, ⟨roster.entries ++ [(⟨roster.next⟩, job)], roster.next + 1⟩, work') ∧
      job.order = order ∧ job.isLive = true ∧
      work'.files.readText job.generated = .ok order.text ∧
      roster.Places order work job.generated ∧
      work'.files.locate job.generated true = .ok place ∧
      work.files.SameBut place work'.files) ∨
    ∃ path cause detail work', roster.create order work =
        (.error (.io path cause detail), roster, work') ∧
      (∀ location, work.files.node? location = none → work'.files.node? location = none) ∧
      (∀ path node, work'.files.lookup path = .ok node → work.files.lookup path = .ok node) ∧
      if Job.isInspectable order then
        work'.files = work.files ∨ ∃ place,
          work.files.locate (roster.debugPath order) false = .ok place ∧
          work.files.SameBut place work'.files
      else work'.files = work.files ∧
        (Job.Refuses work.files work.tempDir ∧ Job.Refuses work.files order.workingDir ∨
          work.files.fits (Job.bytes order) = false) := by
  have hc := Job.create_cases order roster.next work
  unfold create
  generalize Job.create order roster.next work = made at hc
  obtain ⟨outcome, work'⟩ := made
  dsimp only at hc
  generalize hfiles : work'.files = files' at hc
  cases hc with
  | temporary hi hd hpath hwrote =>
    obtain ⟨place, hl, hx, rfl⟩ := hwrote.eq_put
    have hs : Files.Stops (work.files.node? place) := hx ▸ Files.stops_none
    obtain ⟨htext, hend, hsame⟩ := Files.put_text hs (Files.locate_to_end hl (by simp [hx]))
    refine .inl ⟨_, place, work', rfl, rfl, rfl, hfiles ▸ htext, ?_, hfiles ▸ hend,
      hfiles ▸ hsame⟩
    rw [Places, if_neg (by simp [hi])]
    exact ⟨_, _, hpath, hd.imp_right fun h => ⟨h.1, h.2 hf⟩⟩
  | fixed hi hpath hw =>
    -- the fixed name may have held a file, which is written over in its place
    subst hpath
    have hout := Files.write_plain (hp hi) (Job.bytes order)
    rw [debugPath, hw] at hout
    cases hout with
    | @written place executable hend hs =>
      obtain ⟨htext, hend, hsame⟩ := Files.put_text hs hend
      refine .inl ⟨_, place, work', rfl, rfl, rfl, hfiles ▸ htext, ?_, hfiles ▸ hend,
        hfiles ▸ hsame⟩
      rw [Places, if_pos hi]
      rfl
  | refused hi hr =>
    refine .inr ⟨_, _, _, work', rfl, ?_⟩
    rw [hfiles, if_neg (by simp [hi])]
    exact ⟨fun _ h => h, fun _ _ h => h, rfl, hr hf⟩
  | unwritten hi hpath hw =>
    subst hpath
    have hout := Files.write_plain (hp hi) (Job.bytes order)
    rw [debugPath, hw] at hout
    refine .inr ⟨_, _, _, work', rfl, ?_⟩
    rw [hfiles, if_pos hi]
    cases hout with
    | untouched h =>
      rw [h]
      exact ⟨fun _ h => h, fun _ _ h => h, .inl rfl⟩
    | gone hl hs h =>
      rw [h]
      exact ⟨fun _ => Files.node?_eq_none_of_erase hs, fun _ _ => Files.lookup_of_erase hs,
        .inr ⟨_, hl, (Files.ChangedAt.erase hs).sameBut⟩⟩

namespace Trial

def roster : Roster := ⟨[], 3⟩

/-- A source that is to be looked at has the fixed name. -/
def order (inspected : Bool) : Order :=
  ⟨"int x;", "/a.cx", "/a", "/", "", [], ⟨inspected, inspected⟩, {}⟩

def name (text : String) : List UInt8 := Text.Utf8.encode text.toList

/-- There is no temporary directory, and something has the fixed name. -/
def work (node : Node) (room : Option Nat) : Workspace where
  files := {
    nodes := [([name "keep"], .file (name "old") false),
      ([name "IR.temp.debug.verbose.3.cxir"], node)]
    room }
  tempDir := "/none"

def stale : Workspace := work (.file (name "old") false) none

theorem fresh (inspected : Bool) : Job.Fresh (order inspected) stale := by
  cases inspected <;>
    exact ⟨fun h => absurd (congrArg Except.toOption h) (by decide +kernel),
      fun h => absurd (congrArg Except.toOption h) (by decide +kernel)⟩

theorem plain : stale.files.Plain (roster.debugPath (order true)) := by
  have hplace : (stale.files.locate (roster.debugPath (order true)) false).toOption =
      some [name "IR.temp.debug.verbose.3.cxir"] := by decide +kernel
  intro place hl node hx
  rw [hl] at hplace
  obtain rfl := Option.some.inj hplace
  have hnode : stale.files.node? [name "IR.temp.debug.verbose.3.cxir"] =
      some (.file (name "old") false) := by decide +kernel
  exact .inr ⟨_, _, Option.some.inj (hx.symm.trans hnode)⟩

/-- The job gets its source where it should be. -/
def Made (inspected : Bool) : Prop :=
  ∃ job work',
    roster.create (order inspected) stale = (.ok ⟨3⟩, ⟨[(⟨3⟩, job)], 4⟩, work') ∧
    work'.files.readText job.generated = .ok "int x;" ∧
    roster.Places (order inspected) stale job.generated

end Trial

open Trial

/-- A temporary source falls back to the working directory, and one that is to be looked at is
written over the file that has its name. -/
theorem create_all_or_nothing_both_names :
    Job.Fresh (order false) stale ∧ Job.isInspectable (order false) = false ∧ Made false ∧
    Job.Fresh (order true) stale ∧ Job.isInspectable (order true) = true ∧
      stale.files.Plain (roster.debugPath (order true)) ∧ Made true := by
  have hmade (inspected : Bool) (hp : Job.isInspectable (order inspected) = true →
      stale.files.Plain (roster.debugPath (order inspected))) : Made inspected := by
    have hok : (roster.create (order inspected) stale).1.toOption = some ⟨3⟩ := by
      cases inspected <;> decide +kernel
    rcases create_all_or_nothing roster _ stale (fresh inspected) hp with
      ⟨job, place, work', he, -, -, htext, hplaces, -⟩ | ⟨path, cause, detail, work', he, -⟩
    · exact ⟨job, work', he, htext, hplaces⟩
    · rw [he] at hok
      cases hok
  exact ⟨fresh false, rfl, hmade false (fun h => nomatch h), fresh true, rfl, plain,
    hmade true fun _ => plain⟩

/-- What is under the fixed name matters. A link takes the text to another file. On a full disk the
link is taken away again, and the empty file that it led to stays. A device keeps no text. -/
theorem create_reaches_elsewhere :
    (let made := roster.create (order true) (work (.link (name "keep")) none)
     made.1.toOption = some ⟨3⟩ ∧
      ((work (.link (name "keep")) none).files.readText "/keep").toOption = some "old" ∧
      (made.2.2.files.readText "/keep").toOption = some "int x;") ∧
    (let made := roster.create (order true) (work (.link (name "new")) (some 0))
     made.1.toOption = none ∧
      (work (.link (name "new")) (some 0)).files.pathExists "/new" = false ∧
      made.2.2.files.pathExists "/new" = true) ∧
    (let made := roster.create (order true) (work (.device .null) none)
     made.1.toOption = some ⟨3⟩ ∧
      made.2.1.jobs.map (·.generated) = ["/IR.temp.debug.verbose.3.cxir"] ∧
      (made.2.2.files.readText "/IR.temp.debug.verbose.3.cxir").toOption = some "") := by
  decide +kernel

end Roster

end Retrace
