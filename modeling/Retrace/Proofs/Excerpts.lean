import Retrace.Diagnostic.Render

/-!
# Excerpts come from one snapshot

A renderer reads a source when it is first asked for and never again. So what the
files became in between does not show: `find_after` says what a renderer remembers
after any requests, and `answer_snapshot` what it writes for the next.
-/

namespace Retrace.Renderer

structure Request where
  showSource : Bool
  colors : Bool
  files : Files
  diagnostic : Diagnostic

namespace Request

def asked? (request : Request) : Option (String × Place) :=
  match request.showSource, request.diagnostic.subject, request.diagnostic.position with
  | true, .user path, .mapped place => some (path, place)
  | _, _, _ => none

def reading? (request : Request) (key : Path.Parts) : Option (Option String) :=
  request.asked?.bind fun (path, _) =>
    if Path.components path = key then some (request.files.readText path).toOption else none

theorem asked?_eq_some_iff {request : Request} {path : String} {place : Place} :
    request.asked? = some (path, place) ↔ request.showSource = true ∧
      request.diagnostic.subject = .user path ∧ request.diagnostic.position = .mapped place := by
  unfold asked?
  cases request.showSource <;> cases request.diagnostic.subject <;>
    cases request.diagnostic.position <;> simp

end Request

def turned (renderer : Renderer) (request : Request) : Renderer :=
  { renderer with showSource := request.showSource, colors := request.colors }

def answer (renderer : Renderer) (request : Request) : String × Renderer :=
  (renderer.turned request).render request.files request.diagnostic

def after (renderer : Renderer) (past : List Request) : Renderer :=
  past.foldl (fun renderer request => (renderer.answer request).2) renderer

/-- What the first request for a source read; none if it could not be read as text. -/
def snapshot? (history : List Request) (path : String) : Option String :=
  (history.findSome? (·.reading? (Path.components path))).join

/-! ## What is remembered -/

def remembered (content : Option String) : Option (List (List Char)) :=
  content.map fun text => Text.lines text.toList

theorem source_eq (renderer : Renderer) (files : Files) (path : String) :
    renderer.source files path =
      match renderer.sources.find? (·.1 = Path.components path) with
      | some (_, lines) => (lines, renderer)
      | none => (remembered (files.readText path).toOption, { renderer with sources :=
          (Path.components path, remembered (files.readText path).toOption) ::
            renderer.sources }) := by
  unfold source remembered
  cases files.readText path <;> rfl

variable {request : Request}

theorem answer_of_none (h : request.asked? = none) (renderer : Renderer) :
    renderer.answer request =
      ((renderer.turned request).header request.diagnostic, renderer.turned request) := by
  unfold answer render
  split
  · next hs hu hp => simp [Request.asked?_eq_some_iff.mpr ⟨hs, hu, hp⟩] at h
  · rfl

theorem answer_of_some {path : String} {place : Place} (h : request.asked? = some (path, place))
    (renderer : Renderer) :
    renderer.answer request =
      let (lines, read) := (renderer.turned request).source request.files path
      ((renderer.turned request).header request.diagnostic ++
        (lines.bind (lineAt · place.line)).elim "" (excerpt request.diagnostic · place), read) := by
  obtain ⟨hs, hu, hp⟩ := Request.asked?_eq_some_iff.mp h
  have hswitch : (renderer.turned request).showSource = true := hs
  simp only [answer, render, hswitch, hu, hp]
  cases hl : ((renderer.turned request).source request.files path).1.bind (lineAt · place.line) with
  | none => simp
  | some line => simp

theorem find_answer (renderer : Renderer) (request : Request) (key : Path.Parts) :
    (renderer.answer request).2.sources.find? (·.1 = key) =
      (renderer.sources.find? (·.1 = key)).or
        ((request.reading? key).map fun content => (key, remembered content)) := by
  cases h : request.asked? with
  | none => simp [answer_of_none h, Request.reading?, h, turned]
  | some asked =>
    obtain ⟨path, place⟩ := asked
    have hsources : (renderer.turned request).sources = renderer.sources := rfl
    rw [answer_of_some h, source_eq, hsources, Request.reading?, h]
    by_cases hkey : Path.components path = key
    · subst hkey
      cases hfind : renderer.sources.find? (·.1 = Path.components path) with
      | none => simp
      | some known => simp [hfind, hsources]
    · cases hfind : renderer.sources.find? (·.1 = Path.components path) with
      | none => simp [hkey]
      | some known => simp [hkey, hsources]

/-- A source is remembered as the first request for it found it, whatever became of it since. -/
theorem find_after (renderer : Renderer) (past : List Request) (key : Path.Parts) :
    (renderer.after past).sources.find? (·.1 = key) =
      (renderer.sources.find? (·.1 = key)).or
        ((past.findSome? (·.reading? key)).map fun content => (key, remembered content)) := by
  induction past generalizing renderer with
  | nil => simp [after]
  | cons request rest ih =>
    have hstep := ih (renderer.answer request).2
    -- what is remembered already wins over the request, and that over all later ones
    rw [find_answer, Option.or_assoc] at hstep
    rw [List.findSome?_cons]
    refine hstep.trans (congrArg _ ?_)
    cases request.reading? key <;> rfl

theorem source_after (renderer : Renderer) (hnew : renderer.sources = []) (past : List Request)
    {now : Request} {path : String} {place : Place} (h : now.asked? = some (path, place)) :
    (((renderer.after past).turned now).source now.files path).1 =
      remembered (snapshot? (past ++ [now]) path) := by
  have hreading : now.reading? (Path.components path) = some (now.files.readText path).toOption := by
    simp [Request.reading?, h]
  have hfind : ((renderer.after past).turned now).sources.find? (·.1 = Path.components path) = _ :=
    find_after renderer past (Path.components path)
  rw [source_eq, hfind, hnew, snapshot?, List.findSome?_append, List.findSome?_singleton, hreading]
  cases past.findSome? (·.reading? (Path.components path)) <;> rfl

/-! ## What is written -/

/-- The last request shows a line: it asks for a source that was text when it was first asked for
and had a line of that number. -/
def Shows (past : List Request) (now : Request) (place : Place) (line : List Char) : Prop :=
  now.showSource = true ∧ now.diagnostic.position = .mapped place ∧
    ∃ path text, now.diagnostic.subject = .user path ∧
      snapshot? (past ++ [now]) path = some text ∧ 0 < place.line.toNat ∧
      (Text.lines text.toList)[place.line.toNat - 1]? = some line

theorem lineAt_eq_some_iff {lines : List (List Char)} {number : UInt32} {line : List Char} :
    lineAt lines number = some line ↔ 0 < number.toNat ∧ lines[number.toNat - 1]? = some line := by
  have hzero : number = 0 ↔ number.toNat = 0 := UInt32.toNat_inj.symm
  unfold lineAt
  split
  · next h => simp [hzero.mp h]
  · next h => simp [Nat.pos_of_ne_zero (mt hzero.mpr h)]

theorem shows_iff {past : List Request} {now : Request} {path : String} {place : Place}
    (h : now.asked? = some (path, place)) {at' : Place} {line : List Char} :
    Shows past now at' line ↔ at' = place ∧
      (remembered (snapshot? (past ++ [now]) path)).bind (lineAt · place.line) = some line := by
  obtain ⟨hs, hu, hp⟩ := Request.asked?_eq_some_iff.mp h
  simp only [Shows, hs, hu, hp, remembered, true_and, Position.mapped.injEq, Subject.user.injEq,
    Option.bind_map, Option.bind_eq_some_iff, Function.comp_apply, lineAt_eq_some_iff]
  constructor
  · rintro ⟨rfl, _, text, rfl, hrest⟩
    exact ⟨rfl, text, hrest⟩
  · rintro ⟨rfl, text, hrest⟩
    exact ⟨rfl, path, text, rfl, hrest⟩

theorem toList_excerpt (diagnostic : Diagnostic) (line : List Char) (place : Place) :
    let gutter := (indent diagnostic).toList ++ "  |".toList
    (excerpt diagnostic line place).toList =
      '\n' :: gutter ++ '\n' :: gutter ++ ' ' :: line ++ '\n' :: gutter ++
        ' ' :: List.replicate (max place.column.toNat 1 - 1) ' ' ++
        '^' :: List.replicate (max place.span.toNat 1 - 1) '~' := by
  have hmax (n : Nat) : max n 1 - 1 = n - 1 := by omega
  simp [excerpt, marker, hmax, String.toList_append]

/-- Whatever was asked of a new renderer before and whatever became of the files since, the text for
a diagnostic begins with what is written without excerpts. More follows exactly if a line of the
snapshot is to be shown: that line, and under it the caret and the tildes. -/
theorem answer_snapshot (renderer : Renderer) (past : List Request) (now : Request) :
    let text := (({ renderer with sources := [] }.after past).answer now).1
    let plain := (({ showSource := false, colors := now.colors } : Renderer).render now.files
      now.diagnostic).1
    let gutter := (if now.diagnostic.severity = .note then "  " else "").toList ++ "  |".toList
    plain.toList <+: text.toList ∧
    (text ≠ plain ↔ ∃ place line, Shows past now place line) ∧
    ∀ place line, Shows past now place line → text.toList = plain.toList ++
      '\n' :: gutter ++ '\n' :: gutter ++ ' ' :: line ++ '\n' :: gutter ++
        ' ' :: List.replicate (max place.column.toNat 1 - 1) ' ' ++
        '^' :: List.replicate (max place.span.toNat 1 - 1) '~' := by
  intro text plain gutter
  have hplain : ((({ renderer with sources := [] } : Renderer).after past).turned now).header
      now.diagnostic = plain := rfl
  cases h : now.asked? with
  | none =>
    have hquiet : ¬∃ place line, Shows past now place line := by
      rintro ⟨place, line, hs, hp, path, -, hu, -⟩
      simp [Request.asked?_eq_some_iff.mpr ⟨hs, hu, hp⟩] at h
    have htext : text = plain := by simp only [text, answer_of_none h, hplain]
    refine ⟨by simp [htext], by simpa [htext] using hquiet, fun place line hshows => ?_⟩
    exact absurd ⟨place, line, hshows⟩ hquiet
  | some asked =>
    obtain ⟨path, place⟩ := asked
    have htext : text = plain ++ ((remembered (snapshot? (past ++ [now]) path)).bind
        (lineAt · place.line)).elim "" (excerpt now.diagnostic · place) := by
      simp only [text, answer_of_some h, hplain, source_after { renderer with sources := [] } rfl past h]
    simp only [shows_iff h]
    cases hline : (remembered (snapshot? (past ++ [now]) path)).bind (lineAt · place.line) with
    | none => simp [htext, hline]
    | some line =>
      have hfull : text.toList = plain.toList ++ (excerpt now.diagnostic line place).toList := by
        simp [htext, hline]
      rw [toList_excerpt] at hfull
      refine ⟨⟨_, hfull.symm⟩, ?_, ?_⟩
      · refine ⟨fun _ => ⟨place, line, rfl, rfl⟩, fun _ hsame => ?_⟩
        simp [hsame] at hfull
      · rintro _ _ ⟨rfl, hsome⟩
        obtain rfl := Option.some.inj hsome
        rw [hfull]
        simp [gutter, indent]

def Request.sample (content : String) : Request :=
  ⟨true, false, { nodes := [([[109]], .file (Text.Utf8.encode content.toList) false)] },
    ⟨.note, "unused", none, .user "/m", .mapped ⟨2, 0, 3⟩⟩⟩

theorem answer_snapshot_emptied :
    Shows [.sample "a\nb x\n"] (.sample "") ⟨2, 0, 3⟩ "b x".toList ∧
      ((({} : Renderer).after [.sample "a\nb x\n"]).answer (.sample "")).1 =
        "  note: unused at /m:2:0\n    |\n    | b x\n    | ^~~" := by
  have hshows : Shows [.sample "a\nb x\n"] (.sample "") ⟨2, 0, 3⟩ "b x".toList :=
    ⟨rfl, rfl, "/m", "a\nb x\n", rfl, by decide +kernel, by decide, by decide +kernel⟩
  refine ⟨hshows, String.toList_inj.mp ?_⟩
  exact ((answer_snapshot {} _ _).2.2 _ _ hshows).trans (by decide +kernel)

end Retrace.Renderer
