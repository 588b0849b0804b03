import Retrace.Config

/-!
# Every unit keeps its own files

A command line names the generated sources of a program, and for all of them or
for none a line map and a source. Whatever is made of the `i`-th one is made of the
`i`-th of these files: the unit, and later the order. When one of the files cannot
be used, the first of them in the order of the units is to blame.
-/

namespace Retrace

/-! ## Units -/

/-- There is something for every unit or nothing at all. -/
def Complete (given : List String) (units : Nat) : Prop :=
  given.length = 0 ∨ given.length = units

theorem perUnit_eq_ok_iff {kind : String} {given : List String} {units : Nat}
    {column : List (Option String)} :
    perUnit kind given units = .ok column ↔
      Complete given units ∧ column = (List.range units).map (given[·]?) := by
  unfold perUnit Complete
  rw [List.length_eq_zero_iff]
  by_cases hnone : given = []
  · simp [hnone, eq_comm, List.map_const']
  · rw [if_neg (by simpa using hnone)]
    by_cases hall : given.length = units
    · have hcolumn : given.map some = (List.range units).map (given[·]?) :=
        List.ext_getElem (by simp [hall]) (by simp)
      rw [if_pos hall, hcolumn, Except.ok.injEq]
      exact ⟨fun heq => ⟨.inr hall, heq.symm⟩, fun h => h.2.symm⟩
    · simp [hnone, hall]

namespace Arguments

def units (args : Arguments) : List UnitFiles :=
  args.generated.mapIdx fun i generated =>
    { generated, source := args.sources[i]?.getD generated, lineMap := args.lineMaps[i]? }

variable {args : Arguments} {config : Config}

theorem config_eq_ok (h : args.config = .ok config) :
    (Complete args.lineMaps args.generated.length ∧ Complete args.sources args.generated.length) ∧
      config.units = args.units ∧ config.output = args.output ∧ config.cxxArgs = args.cxxArgs ∧
      config.switches = ⟨args.debug, args.verbose⟩ ∧ config.dryRun = args.dryRun := by
  unfold Arguments.config at h
  cases hmaps : perUnit "line-map" args.lineMaps args.generated.length with
  | error mismatch => simp only [hmaps, bind, Except.bind] at h; cases h
  | ok maps =>
    cases hsources : perUnit "source" args.sources args.generated.length with
    | error mismatch => simp only [hmaps, hsources, bind, Except.bind] at h; cases h
    | ok sources =>
      simp only [hmaps, hsources, bind, Except.bind, pure, Except.pure] at h
      cases h
      obtain ⟨hfull, rfl⟩ := perUnit_eq_ok_iff.mp hmaps
      obtain ⟨hfull', rfl⟩ := perUnit_eq_ok_iff.mp hsources
      exact ⟨⟨hfull, hfull'⟩, List.ext_getElem (by simp [units]) (by simp [units]),
        rfl, rfl, rfl, rfl⟩

theorem exists_config_iff : (∃ config, args.config = .ok config) ↔
    Complete args.lineMaps args.generated.length ∧
      Complete args.sources args.generated.length := by
  refine ⟨fun ⟨config, h⟩ => (config_eq_ok h).1, fun ⟨hmaps, hsources⟩ => ?_⟩
  simp only [Arguments.config, perUnit_eq_ok_iff.mpr ⟨hmaps, rfl⟩,
    perUnit_eq_ok_iff.mpr ⟨hsources, rfl⟩]
  exact ⟨_, rfl⟩

end Arguments

/-! ## Orders -/

section

variable {f : α → Except ε β} {xs : List α} {ys : List β} {e : ε}

theorem mapM_eq_ok_iff : xs.mapM f = .ok ys ↔ xs.map f = ys.map .ok := by
  induction xs generalizing ys with
  | nil => cases ys <;> simp [pure, Except.pure]
  | cons x rest ih =>
    rw [List.mapM_cons, List.map_cons]
    cases ys with
    | nil => cases f x <;> cases rest.mapM f <;> simp [bind, Except.bind, pure, Except.pure]
    | cons y others =>
      rw [List.map_cons, List.cons.injEq, ← ih]
      cases f x <;> cases rest.mapM f <;> simp [bind, Except.bind, pure, Except.pure]

theorem exists_mapM_ok_iff : (∃ ys, xs.mapM f = .ok ys) ↔ ∀ x ∈ xs, ∃ y, f x = .ok y := by
  induction xs with
  | nil => simp [pure, Except.pure]
  | cons x rest ih =>
    rw [List.forall_mem_cons, ← ih, List.mapM_cons]
    cases f x <;> cases rest.mapM f <;> simp [bind, Except.bind, pure, Except.pure]

theorem eq_none_of_ok {result : Except ε β} {fault? : Option ε}
    (h : ∀ e, result = .error e ↔ fault? = some e) {value : β} (hr : result = .ok value) :
    fault? = none :=
  Option.eq_none_iff_forall_ne_some.mpr fun e hsome => nomatch hr.symm.trans ((h e).mpr hsome)

/-- The first failure is the one that counts. -/
theorem mapM_eq_error_iff {parts : α → List γ} {fault? : γ → Option ε}
    (h : ∀ x e, f x = .error e ↔ (parts x).findSome? fault? = some e) :
    xs.mapM f = .error e ↔ (xs.flatMap parts).findSome? fault? = some e := by
  induction xs with
  | nil => simp [pure, Except.pure]
  | cons x rest ih =>
    rw [List.mapM_cons, List.flatMap_cons, List.findSome?_append]
    cases hx : f x with
    | error cause => simp [(h x cause).mp hx, bind, Except.bind]
    | ok y =>
      rw [eq_none_of_ok (h x) hx, Option.none_or, ← ih]
      cases rest.mapM f <;> simp [bind, Except.bind, pure, Except.pure]

end

namespace Config

/-- The generated source of a unit can be read, and so can its line map if it has one. -/
def Loads (files : Files) (unit : UnitFiles) : Prop :=
  (∃ text, readSource files unit.generated = .ok text) ∧
    ∀ path, unit.lineMap = some path → ∃ map, readMap files path = .ok map

variable {config : Config} {files : Files} {host : Host} {output : String} {unit : UnitFiles}

theorem order_eq_ok_iff {order : Order} : config.order files output unit = .ok order ↔
    ∃ text map, readSource files unit.generated = .ok text ∧
      unit.lineMap.elim (pure {}) (readMap files) = .ok map ∧
      order =
        { Order.plain files text unit.source with output, switches := config.switches, map } := by
  unfold Config.order
  cases readSource files unit.generated with
  | error fault => simp [bind, Except.bind]
  | ok text =>
    cases unit.lineMap with
    | none => simp [bind, Except.bind, pure, Except.pure, eq_comm]
    | some path =>
      cases hm : readMap files path <;> simp [bind, Except.bind, pure, Except.pure, hm, eq_comm]

theorem exists_order_iff :
    (∃ order, config.order files output unit = .ok order) ↔ Loads files unit := by
  simp only [order_eq_ok_iff, Loads]
  constructor
  · rintro ⟨order, text, map, htext, hmap, -⟩
    exact ⟨⟨text, htext⟩, fun path hpath => ⟨map, by rwa [hpath] at hmap⟩⟩
  · rintro ⟨⟨text, htext⟩, hmap⟩
    cases hpath : unit.lineMap with
    | none => exact ⟨_, text, {}, htext, rfl, rfl⟩
    | some path =>
      obtain ⟨map, hread⟩ := hmap path hpath
      exact ⟨_, text, map, htext, hread, rfl⟩

def adorned (config : Config) : List Order → List Order
  | entry :: others => { entry with extraArgs := config.cxxArgs } :: others
  | [] => []

theorem orders_eq : config.orders files host =
    (config.units.mapM (config.order files (config.binary host))).map config.adorned := by
  unfold orders
  cases config.units.mapM (config.order files (config.binary host)) with
  | error fault => rfl
  | ok plain => cases plain <;> rfl

theorem exists_orders_iff : (∃ orders, config.orders files host = .ok orders) ↔
    ∀ unit ∈ config.units, Loads files unit := by
  rw [orders_eq]
  calc (∃ orders, (config.units.mapM (config.order files (config.binary host))).map
        config.adorned = .ok orders)
      ↔ ∃ plain, config.units.mapM (config.order files (config.binary host)) = .ok plain := by
        cases config.units.mapM (config.order files (config.binary host)) <;> simp [Except.map]
    _ ↔ ∀ unit ∈ config.units, ∃ order,
          config.order files (config.binary host) unit = .ok order := exists_mapM_ok_iff
    _ ↔ ∀ unit ∈ config.units, Loads files unit := by simp only [exists_order_iff]

theorem orders_eq_ok {orders : List Order} (h : config.orders files host = .ok orders) :
    orders.length = config.units.length ∧
      ∀ i order, orders[i]? = some order → ∃ unit plain, config.units[i]? = some unit ∧
        config.order files (config.binary host) unit = .ok plain ∧
        order = if i = 0 then { plain with extraArgs := config.cxxArgs } else plain := by
  rw [orders_eq] at h
  cases hm : config.units.mapM (config.order files (config.binary host)) with
  | error fault => rw [hm] at h; cases h
  | ok plain =>
    rw [hm] at h
    cases h
    have hmap := mapM_eq_ok_iff.mp hm
    have hadorned (i : Nat) : (config.adorned plain)[i]? = plain[i]?.map fun order =>
        if i = 0 then { order with extraArgs := config.cxxArgs } else order := by
      cases plain <;> cases i <;> simp [adorned]
    refine ⟨?_, fun i order hi => ?_⟩
    · have hlength := congrArg List.length hmap
      rw [List.length_map, List.length_map] at hlength
      rw [hlength]
      cases plain <;> rfl
    · rw [hadorned, Option.map_eq_some_iff] at hi
      obtain ⟨own, hown, rfl⟩ := hi
      have hplace := congrArg (·[i]?) hmap
      simp only [List.getElem?_map, hown, Option.map_some, Option.map_eq_some_iff] at hplace
      obtain ⟨unit, hunit, hread⟩ := hplace
      exact ⟨unit, own, hunit, hread, rfl⟩

theorem orders_ne_nil {orders : List Order} (h : config.orders files host = .ok orders)
    (hne : config.units ≠ []) : orders ≠ [] := by
  rwa [ne_eq, ← List.length_eq_zero_iff, (orders_eq_ok h).1, List.length_eq_zero_iff]

end Config

/-! ## What is to blame -/

inductive Input where
  | source (path : String)
  | lineMap (path : String)

def Input.fault? (files : Files) : Input → Option Fault
  | .source path =>
    match files.readText path with
    | .ok _ => none
    | .error cause => some (.io path cause "")
  | .lineMap path =>
    match files.readText path with
    | .error cause => some (.io path cause "")
    | .ok text =>
      match LineMap.parse text with
      | .ok _ => none
      | .error cause => some (.lineMap path cause)

def UnitFiles.inputs (unit : UnitFiles) : List Input :=
  .source unit.generated :: (unit.lineMap.map .lineMap).toList

namespace Config

variable {config : Config} {files : Files} {host : Host} {fault : Fault}

theorem readSource_eq_ok_iff {path text : String} :
    readSource files path = .ok text ↔ files.readText path = .ok text := by
  unfold readSource
  cases files.readText path <;> simp

theorem readMap_eq_ok_iff {path : String} {map : LineMap} :
    readMap files path = .ok map ↔
      ∃ text, files.readText path = .ok text ∧ LineMap.parse text = .ok map := by
  unfold readMap readSource
  cases files.readText path with
  | error cause => simp [bind, Except.bind]
  | ok text => cases hp : LineMap.parse text <;> simp [bind, Except.bind, pure, Except.pure, hp]

theorem readSource_eq_error_iff {path : String} :
    readSource files path = .error fault ↔ Input.fault? files (.source path) = some fault := by
  cases h : files.readText path <;> simp [readSource, Input.fault?, h]

theorem readMap_eq_error_iff {path : String} :
    readMap files path = .error fault ↔ Input.fault? files (.lineMap path) = some fault := by
  cases h : files.readText path with
  | error cause => simp [readMap, readSource, Input.fault?, h, bind, Except.bind]
  | ok text =>
    cases hp : LineMap.parse text <;>
      simp [readMap, readSource, Input.fault?, h, hp, bind, Except.bind, pure, Except.pure, throw,
        throwThe, MonadExceptOf.throw]

theorem order_eq_error_iff {output : String} (unit : UnitFiles) (fault : Fault) :
    config.order files output unit = .error fault ↔
      unit.inputs.findSome? (·.fault? files) = some fault := by
  unfold Config.order UnitFiles.inputs
  rw [List.findSome?_cons]
  cases hs : readSource files unit.generated with
  | error cause => simp [readSource_eq_error_iff.mp hs, bind, Except.bind]
  | ok text =>
    rw [eq_none_of_ok (fun _ => readSource_eq_error_iff) hs]
    cases unit.lineMap with
    | none => simp [bind, Except.bind, pure, Except.pure]
    | some path =>
      cases hm : readMap files path with
      | error cause => simp [readMap_eq_error_iff.mp hm, bind, Except.bind, hm]
      | ok map =>
        simp [eq_none_of_ok (fun _ => readMap_eq_error_iff) hm, bind, Except.bind, pure,
          Except.pure, hm]

theorem orders_eq_error_iff : config.orders files host = .error fault ↔
    (config.units.flatMap UnitFiles.inputs).findSome? (·.fault? files) = some fault := by
  rw [orders_eq, ← mapM_eq_error_iff order_eq_error_iff]
  cases config.units.mapM (config.order files (config.binary host)) <;> simp [Except.map]

end Config

/-! ## From the command line to the orders -/

namespace Arguments

def inputs (args : Arguments) : List Input :=
  args.generated.zipIdx.flatMap fun (path, i) =>
    .source path :: (args.lineMaps[i]?.map .lineMap).toList

def entry (args : Arguments) : String := args.sources.head?.getD (args.generated.headD "")

/-- The order in the `i`-th place is made of the `i`-th files and of what all units share. -/
structure Yields (args : Arguments) (files : Files) (host : Host) (i : Nat) (order : Order) :
    Prop where
  text : ∃ path, args.generated[i]? = some path ∧ files.readText path = .ok order.text ∧
    order.source = args.sources[i]?.getD path
  map : match args.lineMaps[i]? with
    | none => order.map = {}
    | some path => ∃ text, files.readText path = .ok text ∧ LineMap.parse text = .ok order.map
  output : order.output = args.output.getD (host.defaultOutput args.entry)
  switches : order.switches = ⟨args.debug, args.verbose⟩
  extraArgs : order.extraArgs = if i = 0 then args.cxxArgs else []
  workingDir : order.workingDir = files.cwdPath
  compiler : order.compiler = ""

variable {args : Arguments} {config : Config} {files : Files} {host : Host}

theorem inputs_eq : args.units.flatMap UnitFiles.inputs = args.inputs := by
  rw [units, List.mapIdx_eq_zipIdx_map, List.flatMap_map]
  rfl

theorem forall_units_loads_iff (h : Complete args.lineMaps args.generated.length) :
    (∀ unit ∈ args.units, Config.Loads files unit) ↔
      (∀ path ∈ args.generated, ∃ text, files.readText path = .ok text) ∧
        ∀ path ∈ args.lineMaps, ∃ text map, files.readText path = .ok text ∧
          LineMap.parse text = .ok map := by
  simp only [Config.Loads, Config.readSource_eq_ok_iff, Config.readMap_eq_ok_iff, units,
    List.mem_mapIdx]
  constructor
  · intro hload
    refine ⟨fun path hpath => ?_, fun path hpath => ?_⟩
    · obtain ⟨i, hi, rfl⟩ := List.getElem_of_mem hpath
      exact (hload _ ⟨i, hi, rfl⟩).1
    · obtain ⟨i, hi⟩ := List.mem_iff_getElem?.mp hpath
      have hlt : i < args.generated.length := by
        have := (List.getElem?_eq_some_iff.mp hi).1
        unfold Complete at h
        omega
      obtain ⟨map, text, htext, hmap⟩ := (hload _ ⟨i, hlt, rfl⟩).2 path hi
      exact ⟨text, map, htext, hmap⟩
  · rintro ⟨hsources, hmaps⟩ _ ⟨i, hi, rfl⟩
    refine ⟨hsources _ (List.getElem_mem hi), fun path hpath => ?_⟩
    obtain ⟨text, map, htext, hmap⟩ := hmaps path (List.mem_of_getElem? hpath)
    exact ⟨map, text, htext, hmap⟩

theorem binary_eq (h : args.config = .ok config) (hne : args.generated ≠ []) :
    config.binary host = args.output.getD (host.defaultOutput args.entry) := by
  obtain ⟨-, hunits, houtput, -⟩ := config_eq_ok h
  rw [Config.binary, hunits, houtput, units, entry]
  cases hg : args.generated with
  | nil => exact absurd hg hne
  | cons path others => simp [List.mapIdx_cons, List.head?_eq_getElem?]

theorem yields_of_orders (h : args.config = .ok config) {orders : List Order}
    (ho : config.orders files host = .ok orders) {i : Nat} {order : Order}
    (hi : orders[i]? = some order) : args.Yields files host i order := by
  obtain ⟨-, hunits, -, hargs, hswitches, -⟩ := config_eq_ok h
  obtain ⟨unit, plain, hunit, hplain, rfl⟩ := (Config.orders_eq_ok ho).2 i order hi
  rw [hunits, units, List.getElem?_mapIdx, Option.map_eq_some_iff] at hunit
  obtain ⟨path, hpath, rfl⟩ := hunit
  obtain ⟨text, map, htext, hmap, rfl⟩ := Config.order_eq_ok_iff.mp hplain
  have hne : args.generated ≠ [] := fun hnil => by simp [hnil] at hpath
  rw [Config.readSource_eq_ok_iff] at htext
  rw [binary_eq h hne, hargs, hswitches]
  have hread : match args.lineMaps[i]? with
      | none => map = {}
      | some path => ∃ text, files.readText path = .ok text ∧ LineMap.parse text = .ok map := by
    cases hm : args.lineMaps[i]? with
    | none =>
      rw [hm] at hmap
      exact (Except.ok.inj hmap).symm
    | some path =>
      rw [hm] at hmap
      exact Config.readMap_eq_ok_iff.mp hmap
  by_cases hfirst : i = 0
  · simp only [if_pos hfirst]
    exact ⟨⟨path, hpath, htext, rfl⟩, hread, rfl, rfl, (if_pos hfirst).symm, rfl, rfl⟩
  · simp only [if_neg hfirst]
    exact ⟨⟨path, hpath, htext, rfl⟩, hread, rfl, rfl, (if_neg hfirst).symm, rfl, rfl⟩

theorem units_ne_nil (h : args.config = .ok config) (hne : args.generated ≠ []) :
    config.units ≠ [] := by
  rw [(config_eq_ok h).2.1]
  simpa [units] using hne

/-- A command line makes units exactly if line maps and sources are complete. Each unit has its own
files, and its order is made of them; only the entry's carries the arguments for the compiler. The
orders fail exactly if a file cannot be used, with the fault of the first one. -/
theorem units_paired (args : Arguments) :
    ((∃ config, args.config = .ok config) ↔
      (args.lineMaps.length = 0 ∨ args.lineMaps.length = args.generated.length) ∧
        (args.sources.length = 0 ∨ args.sources.length = args.generated.length)) ∧
    ∀ config, args.config = .ok config →
      config.units.length = args.generated.length ∧
      (∀ (i : Nat) (generated : String), args.generated[i]? = some generated →
        config.units[i]? = some
          { generated, source := args.sources[i]?.getD generated, lineMap := args.lineMaps[i]? }) ∧
      ∀ files host,
        ((∃ orders, config.orders files host = .ok orders) ↔
          (∀ path ∈ args.generated, ∃ text, files.readText path = .ok text) ∧
            ∀ path ∈ args.lineMaps, ∃ text map, files.readText path = .ok text ∧
              LineMap.parse text = .ok map) ∧
        (∀ orders, config.orders files host = .ok orders →
          orders.length = args.generated.length ∧
            ∀ i order, orders[i]? = some order → args.Yields files host i order) ∧
        ∀ fault, config.orders files host = .error fault ↔
          args.inputs.findSome? (·.fault? files) = some fault := by
  refine ⟨exists_config_iff, fun config h => ?_⟩
  obtain ⟨⟨hmaps, -⟩, hunits, -⟩ := config_eq_ok h
  have hlength : config.units.length = args.generated.length := by simp [hunits, units]
  refine ⟨hlength, fun i generated hi => by simp [hunits, units, hi], fun files host =>
    ⟨?_, fun orders ho => ⟨?_, fun i order hi => yields_of_orders h ho hi⟩, fun fault => ?_⟩⟩
  · rw [Config.exists_orders_iff, hunits, forall_units_loads_iff hmaps]
  · rw [(Config.orders_eq_ok ho).1, hlength]
  · rw [Config.orders_eq_error_iff, hunits, inputs_eq]

/-- The second source is to blame although its line map cannot be read either. -/
theorem units_paired_second_missing :
    let args : Arguments := { generated := ["/a", "/b"], lineMaps := ["/m", "/n"] }
    let files : Files :=
      { nodes := [([[97]], .file [120] false), ([[109]], .file [123, 125] false)] }
    ∃ config, args.config = .ok config ∧
      config.units = [⟨"/a", "/a", some "/m"⟩, ⟨"/b", "/b", some "/n"⟩] ∧
      config.orders files .posix = .error (.io "/b" .notFound "") := by
  intro args files
  obtain ⟨hconfig, hpaired⟩ := units_paired args
  obtain ⟨config, h⟩ := hconfig.mpr ⟨.inr rfl, .inl rfl⟩
  obtain ⟨hlength, hunits, horders⟩ := hpaired config h
  have hfirst : args.inputs.findSome? (·.fault? files) = some (.io "/b" .notFound "") := by
    decide +kernel
  refine ⟨config, h, List.ext_getElem? fun i => ?_, ((horders files .posix).2.2 _).mpr hfirst⟩
  match i with
  | 0 => exact hunits 0 _ rfl
  | 1 => exact hunits 1 _ rfl
  | i + 2 => simp [hlength, args]

end Arguments
end Retrace
