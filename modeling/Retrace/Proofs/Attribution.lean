import Mathlib.Data.List.Pairwise
import Retrace.Diagnostic.Attribution
import Retrace.Proofs.Text

/-!
# Attribution does not depend on the order of the units

The first unit that a finding's file is the same as is taken, and being the same
is no equivalence: a backslash counts as a slash in the spelling of a path but not
on the way to its file, and bytes that are no text are all spelled alike. Between
legible paths it is one (`samePath_iff`), so among units that are apart a file
belongs to one at most, and `diagnose_unordered` follows.
-/

namespace Retrace

theorem Path.slashed_eq_self {path : String} (h : '\\' ∉ path.toList) : slashed path = path := by
  have hmap : path.toList.map (fun c => if c = '\\' then '/' else c) = path.toList.map id :=
    List.map_congr_left fun c hc => if_neg fun heq : c = '\\' => h (heq ▸ hc)
  rw [slashed, hmap, List.map_id, String.ofList_toList]

namespace OsPath

@[simp] theorem text_ofText (path : String) : (path : OsPath).text = path := by
  rw [text, ofText, Text.Utf8.decodeLossy_encode, String.ofList_toList]

/-- A path that is text, and has no backslash. -/
def Legible (path : OsPath) : Prop := ∃ text : String, '\\' ∉ text.toList ∧ path = text

/-- Different paths are spelled differently if they are legible. -/
theorem Legible.slashed_inj {a b : OsPath} (ha : a.Legible) (hb : b.Legible) :
    Path.slashed a.text = Path.slashed b.text ↔ a = b := by
  obtain ⟨first, hfirst, rfl⟩ := ha
  obtain ⟨second, hsecond, rfl⟩ := hb
  rw [text_ofText, text_ofText, Path.slashed_eq_self hfirst, Path.slashed_eq_self hsecond]
  refine ⟨congrArg ofText, fun h => ?_⟩
  rw [← text_ofText first, h, text_ofText]

end OsPath

namespace Files

variable {files : Files} {a b c : OsPath}

def Alike (files : Files) (a b : OsPath) : Prop :=
  a = b ∨ ∃ location, files.canonical? a = some location ∧ files.canonical? b = some location

theorem samePath_iff (ha : a.Legible) (hb : b.Legible) :
    files.samePath a b = true ↔ files.Alike a b := by
  rw [samePath, Bool.or_eq_true, decide_eq_true_eq, ha.slashed_inj hb, Alike]
  cases files.canonical? a with
  | none => simp
  | some location =>
    cases files.canonical? b with
    | none => simp
    | some other =>
      simp only [decide_eq_true_eq, Option.some.injEq]
      refine or_congr_right ⟨fun heq => ⟨location, rfl, heq.symm⟩, ?_⟩
      rintro ⟨_, rfl, rfl⟩
      rfl

theorem Alike.symm (h : files.Alike a b) : files.Alike b a := by
  rcases h with rfl | ⟨location, ha, hb⟩
  · exact .inl rfl
  · exact .inr ⟨location, hb, ha⟩

theorem Alike.trans (h : files.Alike a b) (h' : files.Alike b c) : files.Alike a c := by
  rcases h with rfl | ⟨location, ha, hb⟩
  · exact h'
  rcases h' with rfl | ⟨other, hb', hc⟩
  · exact .inr ⟨location, ha, hb⟩
  · obtain rfl : location = other := Option.some.inj (hb.symm.trans hb')
    exact .inr ⟨location, ha, hc⟩

def Apart (files : Files) (a b : OsPath) : Prop := ¬files.Alike a b

theorem pairwise_apart_iff {paths : List OsPath} (hl : ∀ path ∈ paths, path.Legible) :
    paths.Pairwise (fun a b => files.samePath a b = false) ↔ paths.Pairwise files.Apart := by
  have hpair {a b : OsPath} (ha : a ∈ paths) (hb : b ∈ paths) :
      files.samePath a b = false ↔ files.Apart a b := by
    rw [Bool.eq_false_iff, Ne, samePath_iff (hl a ha) (hl b hb), Apart]
  exact ⟨fun h => h.imp_of_mem fun ha hb => (hpair ha hb).mp,
    fun h => h.imp_of_mem fun ha hb => (hpair ha hb).mpr⟩

end Files

namespace Scope

def sources (scope : Scope) : List OsPath := scope.units.map Lowering.generated

/-- The units are apart from each other and from the runtime header, and all paths in sight are
legible. -/
structure Distinct (scope : Scope) (files : Files) (file : String) : Prop where
  legible : ∀ path ∈ (file : OsPath) :: scope.coreHeader :: scope.sources, path.Legible
  core : ∀ path ∈ scope.sources, files.samePath path scope.coreHeader = false
  units : scope.sources.Pairwise fun a b => files.samePath a b = false

namespace Distinct

variable {scope : Scope} {files : Files} {file : String} {a b unit : Lowering}

theorem legible_file (h : scope.Distinct files file) : (file : OsPath).Legible :=
  h.legible _ (by simp)

theorem legible_core (h : scope.Distinct files file) : scope.coreHeader.Legible :=
  h.legible _ (by simp)

theorem legible_sources (h : scope.Distinct files file) : ∀ path ∈ scope.sources, path.Legible :=
  fun path hp => h.legible path (by simp [hp])

theorem alike (h : scope.Distinct files file) (hu : unit ∈ scope.units)
    (hf : files.samePath file unit.generated = true) : files.Alike file unit.generated :=
  (Files.samePath_iff h.legible_file (h.legible_sources _ (List.mem_map_of_mem hu))).mp hf

theorem unique (h : scope.Distinct files file) (ha : a ∈ scope.units) (hb : b ∈ scope.units)
    (hfa : files.samePath file a.generated = true) (hfb : files.samePath file b.generated = true) :
    a = b := by
  have happart : scope.units.Pairwise fun a b => files.Apart a.generated b.generated :=
    List.pairwise_map.mp ((Files.pairwise_apart_iff h.legible_sources).mp h.units)
  have : Std.Symm fun a b : Lowering => files.Apart a.generated b.generated :=
    ⟨fun _ _ hn hs => hn hs.symm⟩
  by_contra hne
  -- through the file in question the two units would be alike
  exact happart.forall ha hb hne ((h.alike ha hfa).symm.trans (h.alike hb hfb))

theorem not_core (h : scope.Distinct files file) (hu : unit ∈ scope.units)
    (hf : files.samePath file unit.generated = true) :
    files.samePath file scope.coreHeader = false := by
  have hsource : unit.generated ∈ scope.sources := List.mem_map_of_mem hu
  rw [Bool.eq_false_iff, Ne, Files.samePath_iff h.legible_file h.legible_core]
  intro hsame
  have hcore := (Files.samePath_iff (h.legible_sources _ hsource) h.legible_core).mpr
    ((h.alike hu hf).symm.trans hsame)
  exact Bool.false_ne_true ((h.core _ hsource).symm.trans hcore)

theorem unit?_eq_some_iff (h : scope.Distinct files file) :
    scope.unit? files file = some unit ↔
      unit ∈ scope.units ∧ files.samePath file unit.generated = true := by
  rw [unit?]
  constructor
  · intro hfind
    exact ⟨List.mem_of_find?_eq_some hfind, by simpa using List.find?_some hfind⟩
  · rintro ⟨hu, hf⟩
    cases hfind : scope.units.find? fun unit => files.samePath file unit.generated with
    | none => exact absurd hf (List.find?_eq_none.mp hfind unit hu)
    | some other =>
      have hother : files.samePath file other.generated = true := by
        simpa using List.find?_some hfind
      rw [h.unique hu (List.mem_of_find?_eq_some hfind) hf hother]

theorem of_sources (h : scope.Distinct files file) {units : List Lowering}
    (hp : scope.sources.Perm (units.map Lowering.generated)) :
    Distinct { scope with units } files file where
  legible path hmem := h.legible path (((hp.cons _).cons _).mem_iff.mpr hmem)
  core path hmem := h.core path (hp.mem_iff.mpr hmem)
  units := by
    have hlegible : ∀ path ∈ units.map Lowering.generated, path.Legible :=
      fun path hmem => h.legible_sources path (hp.mem_iff.mpr hmem)
    have happart := (Files.pairwise_apart_iff h.legible_sources).mp h.units
    exact (Files.pairwise_apart_iff hlegible).mpr (hp.pairwise happart fun hn hs => hn hs.symm)

end Distinct

variable {scope : Scope} {files : Files} {finding : Finding}

def told (policy : Policy) (unit : Lowering) (finding : Finding) : Diagnostic where
  severity := finding.severity
  message := finding.message
  code := finding.code
  subject := .user unit.source
  position := match unit.map.lookup finding.line policy with
    | some place => .mapped place
    | none => .other ⟨finding.line, finding.column, 1⟩

theorem diagnose_unit (h : scope.Distinct files finding.file) {unit : Lowering}
    (hu : unit ∈ scope.units) (hf : files.samePath finding.file unit.generated = true) :
    scope.diagnose files finding = .ok (told scope.policy unit finding) := by
  rw [diagnose, site, h.not_core hu hf, h.unit?_eq_some_iff.mpr ⟨hu, hf⟩]
  rfl

theorem diagnose_perm (h : scope.Distinct files finding.file) {units : List Lowering}
    (hp : scope.units.Perm units) :
    diagnose { scope with units } files finding = scope.diagnose files finding := by
  have h' : Distinct { scope with units } files finding.file := h.of_sources (hp.map _)
  have hunit : unit? { scope with units } files finding.file = scope.unit? files finding.file := by
    refine Option.ext fun unit => ?_
    rw [h'.unit?_eq_some_iff, h.unit?_eq_some_iff, hp.mem_iff]
  rw [diagnose, diagnose, site, site, hunit]
  rfl

/-- Among units that are apart, a finding about one is told through its map alone, and no order of
the units changes what is made of any finding. -/
theorem diagnose_unordered (scope : Scope) (files : Files) (finding : Finding)
    (h : scope.Distinct files finding.file) :
    (∀ unit ∈ scope.units, files.samePath finding.file unit.generated = true →
      scope.diagnose files finding = .ok (told scope.policy unit finding) ∧
        ∀ units, unit ∈ units → units.map Lowering.generated = scope.sources →
          diagnose { scope with units } files finding = scope.diagnose files finding) ∧
      ∀ units, scope.units.Perm units →
        diagnose { scope with units } files finding = scope.diagnose files finding := by
  refine ⟨fun unit hu hf => ⟨diagnose_unit h hu hf, fun units hmem hsources => ?_⟩,
    fun units hp => diagnose_perm h hp⟩
  have h' : Distinct { scope with units } files finding.file := h.of_sources (hsources ▸ .refl _)
  rw [diagnose_unit h hu hf]
  exact diagnose_unit h' hmem hf

namespace Pair

def lowerings : Scope where
  coreHeader := "/core.hh"
  policy := .nearest
  units := [⟨"/a.cxir", "/a.cx", .ofList [(4, ⟨1, 1, 1⟩)]⟩,
    ⟨"/b.cxir", "/b.cx", .ofList [(5, ⟨2, 7, 3⟩)]⟩]

def tree : Files :=
  { nodes := ["a.cxir", "b.cxir"].map fun name => ([Text.Utf8.encode name.toList], .file [] false) }

def note : Finding := ⟨"/./b.cxir", 4, 9, .note, none, "here"⟩

theorem distinct : lowerings.Distinct tree note.file := by
  have hlegible {text : String} (h : '\\' ∉ text.toList) : (text : OsPath).Legible := ⟨_, h, rfl⟩
  refine ⟨?_, by decide +kernel, by decide +kernel⟩
  simp only [lowerings, note, sources, List.map_cons, List.map_nil, List.forall_mem_cons]
  exact ⟨hlegible (by decide), hlegible (by decide), hlegible (by decide), hlegible (by decide),
    List.forall_mem_nil _⟩

end Pair

open Pair

theorem diagnose_unordered_second_unit :
    lowerings.Distinct tree note.file ∧
      lowerings.diagnose tree note =
        .ok ⟨.note, "here", none, .user "/b.cx", .mapped ⟨2, 7, 3⟩⟩ ∧
      diagnose { lowerings with units := lowerings.units.reverse } tree note =
        lowerings.diagnose tree note := by
  have h := diagnose_unordered lowerings tree note distinct
  exact ⟨distinct, (h.1 _ (List.mem_of_getLast? rfl) (by decide +kernel)).1,
    h.2 _ (List.reverse_perm _).symm⟩

namespace Garbled

def bytes (text : String) : List UInt8 := Text.Utf8.encode text.toList

/-- The first source is in a directory whose name is no text. -/
def lowerings : Scope where
  coreHeader := "/core.hh"
  policy := .exact
  units := [⟨⟨bytes "/d/" ++ [0xFF] ++ bytes "/x.cxir"⟩, "/a.cx", {}⟩, ⟨"/e/x.cxir", "/b.cx", {}⟩]

/-- The directory of the second source is that of the replacement character, through a link. -/
def tree : Files where
  nodes := [
    ([bytes "d"], .dir),
    ([bytes "d", [0xFF]], .dir),
    ([bytes "d", [0xFF], bytes "x.cxir"], .file [] false),
    ([bytes "d", bytes "\uFFFD"], .dir),
    ([bytes "d", bytes "\uFFFD", bytes "x.cxir"], .file [] false),
    ([bytes "e"], .link (bytes "/d/\uFFFD"))]

def note : Finding := ⟨"/d/\uFFFD/x.cxir", 4, 9, .note, none, "here"⟩

end Garbled

/-- Where a path is no text, its spelling with a replacement may be the path of another unit. The
units are apart, no path has a backslash, and the first one in the list gets the finding. -/
theorem diagnose_first_of_garbled :
    (∀ path ∈ (Garbled.note.file : OsPath) :: Garbled.lowerings.coreHeader ::
      Garbled.lowerings.sources, 92 ∉ path.bytes) ∧
    (∀ path ∈ Garbled.lowerings.sources,
      Garbled.tree.samePath path Garbled.lowerings.coreHeader = false) ∧
    Garbled.lowerings.sources.Pairwise (fun a b => Garbled.tree.samePath a b = false) ∧
    (Garbled.lowerings.diagnose Garbled.tree Garbled.note).toOption =
      some ⟨.note, "here", none, .user "/a.cx", .other ⟨4, 9, 1⟩⟩ ∧
    (diagnose { Garbled.lowerings with units := Garbled.lowerings.units.reverse } Garbled.tree
        Garbled.note).toOption =
      some ⟨.note, "here", none, .user "/b.cx", .other ⟨4, 9, 1⟩⟩ := by
  exact ⟨by decide +kernel, by decide +kernel, by decide +kernel, by decide +kernel,
    by decide +kernel⟩

end Scope
end Retrace
