import CpeCloud.Telemetry.Points

/-!
# What an entry reports (`app/services/influx.py`)

The fields of a point, said without the builder: what the models of `app/routers/telemetry.py` make
sure of, and which of it is reported.

* `Reports`, `reported`: what an entry of a kind reports, as a relation and as a list.
* **`buildOneInterfacePoint_reported`**, **`buildSystemPoint_validated`**: the builders make points
  of exactly that.
-/

namespace CpeCloud

open PyVal (Dict Python get)
open Schema (schemaAt validate)

/-! ## What validated fields hold -/

section Validated

variable {P : Pydantic} {v x : PyVal}

theorem validate_textWhere {p : Text → Bool} (h : validate (textWhere p) v = some x) :
    ∃ t, v = .str t ∧ x = .str t ∧ p t = true := by
  cases v with
  | str t =>
    have h : (if p t = true then some (PyVal.str t) else none) = some x := h
    split at h
    · rename_i ht
      exact ⟨t, rfl, (Option.some.inj h).symm, ht⟩
    · cases h
  | _ => cases h

theorem validate_textOf {m n : Nat} (h : validate (textOf (m + 1) n) v = some x) :
    ∃ t, t ≠ [] ∧ x = .str t := by
  obtain ⟨t, -, hx, hlength⟩ := validate_textWhere h
  refine ⟨t, ?_, hx⟩
  rintro rfl
  cases hlength

theorem length_of_validate_textOf {m n : Nat} {t : Text}
    (h : validate (textOf m n) v = some (.str t)) : t.length ≤ n := by
  obtain ⟨t', -, ht, hlength⟩ := validate_textWhere h
  obtain rfl := PyVal.str.inj ht
  exact of_decide_eq_true (Bool.and_eq_true_iff.mp hlength).2

/-- A text that is there, and what bounds its length. -/
def IsTextUpTo (n : Nat) (x : PyVal) : Prop := ∃ t, t ≠ [] ∧ t.length ≤ n ∧ x = .str t

theorem validate_textUpTo {m n : Nat} (h : validate (textOf (m + 1) n) v = some x) :
    IsTextUpTo n x := by
  obtain ⟨t, ht, rfl⟩ := validate_textOf h
  exact ⟨t, ht, length_of_validate_textOf h, rfl⟩

theorem validate_intFrom {ge : Int} {le : Option Int} (h : validate (intFrom P ge le) v = some x) :
    ∃ n : Int, x = .int n ∧ ge ≤ n ∧ ∀ m ∈ le, n ≤ m := by
  simp only [intFrom, validate] at h
  split at h
  · split at h
    · rename_i n _ hn
      exact ⟨n, (Option.some.inj h).symm, hn⟩
    · cases h
  · cases h

theorem validate_floatIn {ge le : Int} (h : validate (floatIn P ge le) v = some x) :
    ∃ q, x = .float (.finite q) := by
  simp only [floatIn, validate] at h
  split at h
  · split at h
    · rename_i q _ _
      exact ⟨q, (Option.some.inj h).symm⟩
    · cases h
  · cases h

theorem validate_flag (h : validate (flag P) v = some x) : ∃ b, x = .bool b := by
  obtain ⟨b, -, rfl⟩ := Option.map_eq_some_iff.mp (show (P.bool v).map PyVal.bool = some x from h)
  exact ⟨b, rfl⟩

/-- A declared field is `None`, or as its schema makes it. -/
theorem get_validated {fields : Fields} {dump : Dict} {key : Text} {schema : Schema}
    (T : PyVal → Prop) (h : validate (.model fields) v = some (.dict dump))
    (hs : schemaAt fields key = some schema)
    (hT : ∀ {v x}, validate schema v = some x → T x) :
    get dump key = .null ∨ T (get dump key) := by
  obtain ⟨d, dump', rfl, hdump, hget⟩ := Schema.get_of_validate h
  obtain rfl := PyVal.dict.inj hdump
  rcases hget key schema hs with ⟨-, -, hnull⟩ | hv
  · exact Or.inl hnull
  · exact Or.inr (hT hv)

end Validated

/-! ## What an entry reports -/

/-- The counters. -/
def counterNames : List String := ["rx_bytes", "tx_bytes", "rx_packets", "tx_packets"]

/-- The link state of a kind. -/
def Kind.linkName : Kind → String
  | .ethernet => "running"
  | .wireless | .wifi => "disabled"

/-- The integers of a kind that are no counters. -/
def Kind.intNames : Kind → List String
  | .wireless => ["frequency"]
  | .ethernet | .wifi => []

/-- The metadata of a kind. -/
def Kind.textNames : Kind → List String
  | .ethernet => []
  | .wireless => ["ssid", "band", "channel_width", "tx_power", "mode"]
  | .wifi => ["ssid", "channel", "configuration"]

/-- An entry reports a field. -/
inductive Reports (kind : Kind) (entry : Dict) : String → PyVal → Prop
  | counter {name : String} {n : Int} (hname : name ∈ counterNames)
      (h : get entry name.toList = .int n) : Reports kind entry name (.int n)
  | running {b : Bool} (hkind : kind = .ethernet) (h : get entry "running".toList = .bool b) :
      Reports kind entry "running" (.bool b)
  | disabled {b : Bool} (hkind : kind ≠ .ethernet) (h : get entry "disabled".toList = .bool b) :
      Reports kind entry "disabled" (.bool b)
  | frequency {n : Int} (hkind : kind = .wireless) (h : get entry "frequency".toList = .int n) :
      Reports kind entry "frequency" (.int n)
  | metadata {name : String} {t : Text} (hname : name ∈ kind.textNames)
      (h : get entry name.toList = .str t) (ht : t ≠ []) : Reports kind entry name (.str t)

/-- A value that is not `None`, with its name. -/
def nonNull (d : Dict) (name : String) : Option (String × PyVal) :=
  match get d name.toList with
  | .null => none
  | v => some (name, v)

/-- A non-empty `str`, with its name. -/
def nonEmpty (d : Dict) (name : String) : Option (String × PyVal) :=
  match get d name.toList with
  | .str (c :: cs) => some (name, .str (c :: cs))
  | _ => none

/-- The fields an entry reports, in the order of the builder. -/
def reported (kind : Kind) (entry : Dict) : List (String × PyVal) :=
  (counterNames ++ kind.linkName :: kind.intNames).filterMap (nonNull entry) ++
    kind.textNames.filterMap (nonEmpty entry)

theorem nonNull_eq_some {d : Dict} {name name' : String} {v : PyVal} :
    nonNull d name = some (name', v) ↔ name = name' ∧ get d name.toList = v ∧ v ≠ .null := by
  unfold nonNull
  split
  · rename_i h
    simp only [h, reduceCtorEq, false_iff, not_and, not_not]
    rintro - rfl
    rfl
  · rename_i h
    simp only [Option.some.injEq, Prod.mk.injEq]
    refine and_congr_right fun _ => ⟨fun hv => ⟨hv, ?_⟩, And.left⟩
    rintro rfl
    exact h hv

theorem nonEmpty_eq_some {d : Dict} {name name' : String} {v : PyVal} :
    nonEmpty d name = some (name', v) ↔
      name = name' ∧ ∃ t, t ≠ [] ∧ get d name.toList = .str t ∧ v = .str t := by
  unfold nonEmpty
  split
  · rename_i c cs h
    simp only [Option.some.injEq, Prod.mk.injEq]
    refine and_congr_right fun _ => ⟨?_, ?_⟩
    · rintro rfl
      exact ⟨c :: cs, by simp, h, rfl⟩
    · rintro ⟨t, -, ht, rfl⟩
      rw [← ht, h]
  · rename_i h
    simp only [reduceCtorEq, false_iff, not_and, not_exists]
    rintro - t ht hget -
    cases t with
    | nil => exact ht rfl
    | cons c cs => exact h c cs hget

/-- What the model of a kind makes sure of. -/
structure Checked (kind : Kind) (entry : Dict) : Prop where
  name : ∃ t, t ≠ [] ∧ get entry "name".toList = .str t
  counter : ∀ name ∈ counterNames, get entry name.toList = .null ∨
    ∃ n : Int, 0 ≤ n ∧ get entry name.toList = .int n
  link : get entry kind.linkName.toList = .null ∨ ∃ b, get entry kind.linkName.toList = .bool b
  int : ∀ name ∈ kind.intNames, get entry name.toList = .null ∨
    ∃ n : Int, (0 ≤ n ∧ n ≤ 8000) ∧ get entry name.toList = .int n

theorem Kind.name_schema (P : Pydantic) (kind : Kind) :
    schemaAt (kind.model P) "name".toList = some (textOf 1 32) ∧
      Schema.requiredAt (kind.model P) "name".toList = true := by
  cases kind <;> exact ⟨rfl, rfl⟩

theorem Kind.counter_schema (P : Pydantic) (kind : Kind) :
    ∀ name ∈ counterNames, schemaAt (kind.model P) name.toList = some (intFrom P 0 none) := by
  simp only [counterNames, List.forall_mem_cons]
  cases kind <;> exact ⟨rfl, rfl, rfl, rfl, List.forall_mem_nil _⟩

theorem Kind.link_schema (P : Pydantic) (kind : Kind) :
    schemaAt (kind.model P) kind.linkName.toList = some (flag P) := by
  cases kind <;> rfl

theorem Kind.int_schema (P : Pydantic) (kind : Kind) :
    ∀ name ∈ kind.intNames, schemaAt (kind.model P) name.toList =
      some (intFrom P 0 (some 8000)) := by
  cases kind with
  | wireless => exact List.forall_mem_singleton.mpr rfl
  | ethernet => exact List.forall_mem_nil _
  | wifi => exact List.forall_mem_nil _

theorem checked_of_validate {P : Pydantic} {kind : Kind} {v : PyVal} {entry : Dict}
    (h : validate (.model (kind.model P)) v = some (.dict entry)) : Checked kind entry where
  name := by
    obtain ⟨hs, hrequired⟩ := kind.name_schema P
    obtain ⟨d, entry', rfl, hentry, hget⟩ := Schema.get_of_validate h
    obtain rfl := PyVal.dict.inj hentry
    rcases hget _ _ hs with ⟨hno, -⟩ | hv
    · rw [hrequired] at hno
      cases hno
    · exact validate_textOf hv
  counter name hname := get_validated (fun x => ∃ n : Int, 0 ≤ n ∧ x = .int n) h
    (kind.counter_schema P name hname) fun hv => by
      obtain ⟨n, hx, hn, -⟩ := validate_intFrom hv
      exact ⟨n, hn, hx⟩
  link := get_validated (fun x => ∃ b, x = .bool b) h (kind.link_schema P) validate_flag
  int name hname := get_validated (fun x => ∃ n : Int, (0 ≤ n ∧ n ≤ 8000) ∧ x = .int n) h
    (kind.int_schema P name hname) fun hv => by
      obtain ⟨n, hx, hn, hle⟩ := validate_intFrom hv
      exact ⟨n, ⟨hn, hle 8000 rfl⟩, hx⟩

/-- A list of values under their names holds a value under a name of the list. -/
theorem mem_filterMap_named {f : String → Option (String × PyVal)} {T : String → PyVal → Prop}
    (hf : ∀ {name name' v}, f name = some (name', v) ↔ name = name' ∧ T name v)
    {names : List String} {name : String} {v : PyVal} :
    (name, v) ∈ names.filterMap f ↔ name ∈ names ∧ T name v := by
  simp only [List.mem_filterMap, hf]
  constructor
  · rintro ⟨name', hmem, rfl, h⟩
    exact ⟨hmem, h⟩
  · rintro ⟨hmem, h⟩
    exact ⟨name, hmem, rfl, h⟩

theorem mem_filterMap_nonNull {d : Dict} {names : List String} {name : String} {v : PyVal} :
    (name, v) ∈ names.filterMap (nonNull d) ↔ name ∈ names ∧ get d name.toList = v ∧ v ≠ .null :=
  mem_filterMap_named nonNull_eq_some

theorem mem_filterMap_nonEmpty {d : Dict} {names : List String} {name : String} {v : PyVal} :
    (name, v) ∈ names.filterMap (nonEmpty d) ↔
      name ∈ names ∧ ∃ t, t ≠ [] ∧ get d name.toList = .str t ∧ v = .str t :=
  mem_filterMap_named nonEmpty_eq_some

/-- **The list holds what the entry reports**, and nothing else. -/
theorem Checked.mem_reported {kind : Kind} {entry : Dict} (hc : Checked kind entry) {name : String}
    {v : PyVal} : (name, v) ∈ reported kind entry ↔ Reports kind entry name v := by
  simp only [reported, List.mem_append, mem_filterMap_nonNull, mem_filterMap_nonEmpty,
    List.mem_cons]
  constructor
  · rintro (⟨hname | rfl | hname, rfl, hv⟩ | ⟨hname, t, ht, hget, rfl⟩)
    · obtain ⟨n, -, hn⟩ := (hc.counter name hname).resolve_left hv
      rw [hn]
      exact .counter hname hn
    · obtain ⟨b, hb⟩ := hc.link.resolve_left hv
      rw [hb]
      cases kind with
      | ethernet => exact .running rfl hb
      | wireless => exact .disabled (by simp) hb
      | wifi => exact .disabled (by simp) hb
    · obtain ⟨n, -, hn⟩ := (hc.int name hname).resolve_left hv
      rw [hn]
      cases kind with
      | wireless =>
        obtain rfl := List.mem_singleton.mp hname
        exact .frequency rfl hn
      | ethernet => cases hname
      | wifi => cases hname
    · exact .metadata hname hget ht
  · rintro (⟨hname, h⟩ | ⟨rfl, h⟩ | ⟨hkind, h⟩ | ⟨rfl, h⟩ | ⟨hname, h, ht⟩)
    · exact Or.inl ⟨Or.inl hname, h, by simp⟩
    · exact Or.inl ⟨Or.inr (Or.inl rfl), h, by simp⟩
    · cases kind with
      | ethernet => exact absurd rfl hkind
      | wireless => exact Or.inl ⟨Or.inr (Or.inl rfl), h, by simp⟩
      | wifi => exact Or.inl ⟨Or.inr (Or.inl rfl), h, by simp⟩
    · exact Or.inl ⟨Or.inr (Or.inr (List.mem_singleton.mpr rfl)), h, by simp⟩
    · exact Or.inr ⟨hname, _, ht, h, rfl⟩

theorem keys_filterMap {f : String → Option (String × PyVal)}
    (hf : ∀ {name name' v}, f name = some (name', v) → name = name') (names : List String) :
    ((names.filterMap f).map Prod.fst).Sublist names := by
  induction names with
  | nil => exact .slnil
  | cons name names ih =>
    rw [List.filterMap_cons]
    cases h : f name with
    | none => exact ih.cons name
    | some m =>
      rw [hf h, List.map_cons]
      exact ih.cons_cons m.1

/-- A field is reported once. -/
theorem nodup_reported (kind : Kind) (entry : Dict) :
    ((reported kind entry).map Prod.fst).Nodup := by
  have hnames : (counterNames ++ kind.linkName :: kind.intNames ++ kind.textNames).Nodup := by
    cases kind <;> decide
  refine hnames.sublist ?_
  rw [reported, List.map_append]
  exact (keys_filterMap (fun h => (nonNull_eq_some.mp h).1) _).append
    (keys_filterMap (fun h => (nonEmpty_eq_some.mp h).1) _)

/-! ## The builders -/

/-- A point, and whether it has a field. -/
def marked (p : Point) : Point × Bool := (p, !p.fields.isEmpty)

/-- `point.field(…)` for each of the fields. -/
def Point.withFields (p : Point) (fields : List (String × PyVal)) : Point :=
  { p with fields := p.fields ++ fields }

theorem marked_field (p : Point) (name : String) (v : PyVal) :
    (p.field name v, true) = marked (p.field name v) := by
  simp [marked, Point.field]

theorem Point.withFields_nil (p : Point) : p.withFields [] = p := by
  simp [withFields]

theorem Point.field_withFields (p : Point) (name : String) (v : PyVal)
    (fields : List (String × PyVal)) :
    (p.field name v).withFields fields = p.withFields ((name, v) :: fields) := by
  simp [withFields, field]

theorem intField_null {entry : Dict} {name : String} (h : get entry name.toList = .null)
    (p : Point) : intField entry (marked p) name = .ok (marked p) := by
  rw [intField, h]

theorem intField_int {entry : Dict} {name : String} {n : Int} (h : get entry name.toList = .int n)
    (p : Point) : intField entry (marked p) name = .ok (marked (p.field name (.int n))) := by
  rw [intField, h, ← marked_field]
  rfl

theorem foldlM_intField_validated {entry : Dict} {names : List String}
    (h : ∀ name ∈ names, get entry name.toList = .null ∨ ∃ n, get entry name.toList = .int n)
    (p : Point) : names.foldlM (intField entry) (marked p) =
      .ok (marked (p.withFields (names.filterMap (nonNull entry)))) := by
  induction names generalizing p with
  | nil =>
    rw [List.filterMap_nil, p.withFields_nil]
    rfl
  | cons name names ih =>
    have hrest := fun name hname => h name (List.mem_cons_of_mem _ hname)
    rw [List.foldlM_cons]
    rcases h name List.mem_cons_self with hnull | ⟨n, hn⟩
    · rw [intField_null hnull, List.filterMap_cons_none (by rw [nonNull, hnull])]
      exact ih hrest p
    · rw [intField_int hn, List.filterMap_cons_some (by rw [nonNull, hn]), ← p.field_withFields]
      exact ih hrest (p.field name (.int n))

theorem flagField_validated {entry : Dict} {name : String}
    (h : get entry name.toList = .null ∨ ∃ b, get entry name.toList = .bool b) (p : Point) :
    flagField entry (marked p) name =
      marked (p.withFields ([name].filterMap (nonNull entry))) := by
  rcases h with hnull | ⟨b, hb⟩
  · rw [flagField, hnull, List.filterMap_cons_none (by rw [nonNull, hnull]), List.filterMap_nil,
      p.withFields_nil]
  · rw [flagField, hb, List.filterMap_cons_some (by rw [nonNull, hb]), List.filterMap_nil,
      ← p.field_withFields, Point.withFields_nil, ← marked_field]
    rfl

theorem foldl_textField_validated (entry : Dict) (names : List String) (p : Point) :
    names.foldl (textField entry) (marked p) =
      marked (p.withFields (names.filterMap (nonEmpty entry))) := by
  induction names generalizing p with
  | nil =>
    rw [List.filterMap_nil, p.withFields_nil]
    rfl
  | cons name names ih =>
    rw [List.foldl_cons, textField]
    split
    · rename_i c cs h
      rw [List.filterMap_cons_some (by rw [nonEmpty, h]), ← p.field_withFields, ← ih,
        ← marked_field]
      rfl
    · rename_i h
      rw [List.filterMap_cons_none, ih]
      unfold nonEmpty
      split
      · rename_i c cs hc
        exact absurd hc (h c cs)
      · rfl

/-- The point of an entry with these fields. -/
def interfacePoint (router : Router) (kind : Kind) (name : Text)
    (fields : List (String × PyVal)) : Point where
  measurement := "interface"
  tags := [("router_id", decimal router.id), ("interface_name", name), ("kind", kind.str)]
  fields := fields
  time := none

/-- The point of an entry that reports something. -/
def interfaceRecord (router : Router) (ts : Timestamp) (kind : Kind) (entry : Dict) : Option Point :=
  match get entry "name".toList, reported kind entry with
  | .str name, m :: fields => some ((interfacePoint router kind name (m :: fields)).at ts)
  | _, _ => none

/-- The builder, with the names each kind reads. -/
theorem buildOneInterfacePoint_named (router : Router) (kind : Kind) {entry : Dict} {c : Char}
    {cs : Text} (hname : get entry "name".toList = .str (c :: cs)) (ts : Timestamp) :
    buildOneInterfacePoint router kind entry ts = (do
      let p ← counterNames.foldlM (intField entry) (marked (interfacePoint router kind (c :: cs) []))
      let p ← kind.intNames.foldlM (intField entry) (flagField entry p kind.linkName)
      let p := kind.textNames.foldl (textField entry) p
      .ok (if p.2 then some (p.1.at ts) else none)) := by
  unfold buildOneInterfacePoint
  rw [hname]
  cases kind <;> rfl

theorem withFields_reported (p : Point) (kind : Kind) (entry : Dict) :
    (((p.withFields (counterNames.filterMap (nonNull entry))).withFields
      ([kind.linkName].filterMap (nonNull entry))).withFields
      (kind.intNames.filterMap (nonNull entry))).withFields
      (kind.textNames.filterMap (nonEmpty entry)) = p.withFields (reported kind entry) := by
  have hcons : (kind.linkName :: kind.intNames).filterMap (nonNull entry) =
      [kind.linkName].filterMap (nonNull entry) ++ kind.intNames.filterMap (nonNull entry) := by
    rw [← List.filterMap_append, List.singleton_append]
  simp only [Point.withFields, reported, List.filterMap_append, hcons, List.append_assoc]

/-- **The builder makes a point of what the entry reports.** -/
theorem buildOneInterfacePoint_reported {kind : Kind} {entry : Dict} (hc : Checked kind entry)
    (router : Router) (ts : Timestamp) :
    buildOneInterfacePoint router kind entry ts = .ok (interfaceRecord router ts kind entry) := by
  obtain ⟨t, ht, hname⟩ := hc.name
  obtain ⟨c, cs, rfl⟩ := List.exists_cons_of_ne_nil ht
  have hcounters := foldlM_intField_validated fun name h =>
    (hc.counter name h).imp_right fun ⟨n, _, hn⟩ => ⟨n, hn⟩
  have hints := foldlM_intField_validated fun name h =>
    (hc.int name h).imp_right fun ⟨n, _, hn⟩ => ⟨n, hn⟩
  have hlink := flagField_validated hc.link
  rw [buildOneInterfacePoint_named router kind hname]
  simp only [hcounters, hlink, hints, bind, Except.bind, foldl_textField_validated,
    withFields_reported]
  rw [interfaceRecord, hname]
  cases reported kind entry with
  | nil => rfl
  | cons m fields => rfl

/-! ## The `system` point -/

/-- The integers of the `system` point, next to the uptime. -/
def systemIntNames : List String := ["cpu_load_pct", "free_memory_bytes", "total_memory_bytes"]

/-- The floats of the `system` point. -/
def systemFloatNames : List String := ["temperature_c", "voltage_v"]

/-- The `system` point: the uptime, and what else is not `None`. -/
def systemRecord (router : Router) (ts : Timestamp) (uptimeSec : Nat) (system : Option Dict) :
    Point where
  measurement := "system"
  tags := [("router_id", decimal router.id), ("model", orUnknown router.model),
    ("wifi_stack", orUnknown (router.wifiStack.map WifiStack.str))]
  fields := ("uptime_sec", .int uptimeSec) ::
    (systemIntNames ++ systemFloatNames).filterMap (nonNull (system.getD []))
  time := some ts

theorem foldlM_convertField_validated {convert : PyVal → Except PyVal.Error PyVal} {d : Dict}
    {names : List String} (h : ∀ name ∈ names, get d name.toList = .null ∨
      convert (get d name.toList) = .ok (get d name.toList)) (p : Point) :
    names.foldlM (convertField convert d) p =
      .ok (p.withFields (names.filterMap (nonNull d))) := by
  induction names generalizing p with
  | nil =>
    rw [List.filterMap_nil, p.withFields_nil]
    rfl
  | cons name names ih =>
    have ih := ih fun name hname => h name (List.mem_cons_of_mem _ hname)
    have hname := h name List.mem_cons_self
    rw [List.foldlM_cons, convertField]
    split
    · rename_i hnull
      rw [List.filterMap_cons_none (by rw [nonNull, hnull])]
      exact ih p
    · rename_i hnull
      rw [hname.resolve_left hnull, List.filterMap_cons_some (nonNull_eq_some.mpr ⟨rfl, rfl, hnull⟩),
        ← p.field_withFields]
      exact ih _

/-- What the model of the `system` block makes sure of. -/
structure SystemChecked (system : Dict) : Prop where
  cpu : get system "cpu_load_pct".toList = .null ∨
    ∃ n : Int, (0 ≤ n ∧ n ≤ 100) ∧ get system "cpu_load_pct".toList = .int n
  memory : ∀ name ∈ ["free_memory_bytes", "total_memory_bytes"], get system name.toList = .null ∨
    ∃ n : Int, 0 ≤ n ∧ get system name.toList = .int n
  float : ∀ name ∈ systemFloatNames, get system name.toList = .null ∨
    ∃ q, get system name.toList = .float (.finite q)
  uptime : get system "uptime".toList = .null ∨ IsTextUpTo 32 (get system "uptime".toList)

theorem systemChecked_of_validate {P : Pydantic} {v : PyVal} {system : Dict}
    (h : validate (.model (telemetrySystem P)) v = some (.dict system)) : SystemChecked system where
  cpu := get_validated (fun x => ∃ n : Int, (0 ≤ n ∧ n ≤ 100) ∧ x = .int n) h
    (show schemaAt (telemetrySystem P) _ = some (intFrom P 0 (some 100)) from rfl) fun hv => by
      obtain ⟨n, hx, hn, hle⟩ := validate_intFrom hv
      exact ⟨n, ⟨hn, hle 100 rfl⟩, hx⟩
  memory name hname := by
    have hs : schemaAt (telemetrySystem P) name.toList = some (intFrom P 0 none) := by
      rcases List.mem_cons.mp hname with rfl | hname
      · rfl
      · obtain rfl := List.mem_singleton.mp hname
        rfl
    refine get_validated (fun x => ∃ n : Int, 0 ≤ n ∧ x = .int n) h hs fun hv => ?_
    obtain ⟨n, hx, hn, -⟩ := validate_intFrom hv
    exact ⟨n, hn, hx⟩
  float name hname := by
    rcases List.mem_cons.mp hname with rfl | hname
    · exact get_validated (fun x => ∃ q, x = .float (.finite q)) h
        (show schemaAt (telemetrySystem P) _ = some (floatIn P (-20) 120) from rfl) validate_floatIn
    · obtain rfl := List.mem_singleton.mp hname
      exact get_validated (fun x => ∃ q, x = .float (.finite q)) h
        (show schemaAt (telemetrySystem P) _ = some (floatIn P 0 60) from rfl) validate_floatIn
  uptime := get_validated (IsTextUpTo 32) h
    (show schemaAt (telemetrySystem P) _ = some (textOf 1 32) from rfl) validate_textUpTo

theorem SystemChecked.int {system : Dict} (hc : SystemChecked system) :
    ∀ name ∈ systemIntNames, get system name.toList = .null ∨
      ∃ n : Int, 0 ≤ n ∧ get system name.toList = .int n := by
  intro name hname
  rcases List.mem_cons.mp hname with rfl | hname
  · exact hc.cpu.imp_right fun ⟨n, hn, h⟩ => ⟨n, hn.1, h⟩
  · exact hc.memory name hname

/-- **The builder makes a point of what the `system` block holds.** -/
theorem buildSystemPoint_validated (py : Python) (router : Router) (ts : Timestamp)
    (uptimeSec : Nat) {system : Option Dict} (hc : ∀ d ∈ system, SystemChecked d) :
    buildSystemPoint py router uptimeSec system ts =
      .ok (systemRecord router ts uptimeSec system) := by
  cases system with
  | none => rfl
  | some d =>
    have hd := hc d rfl
    have hints : ∀ name ∈ systemIntNames, get d name.toList = .null ∨
        toInt (get d name.toList) = .ok (get d name.toList) := fun name hname =>
      (hd.int name hname).imp_right fun ⟨n, _, hn⟩ => by rw [hn]; rfl
    have hfloats : ∀ name ∈ systemFloatNames, get d name.toList = .null ∨
        toFloat py (get d name.toList) = .ok (get d name.toList) := fun name hname =>
      (hd.float name hname).imp_right fun ⟨q, hq⟩ => by rw [hq]; rfl
    have hi := foldlM_convertField_validated hints
    have hf := foldlM_convertField_validated hfloats
    simp only [systemIntNames, systemFloatNames] at hi hf
    rw [buildSystemPoint_some]
    simp only [hi, hf, bind, Except.bind]
    rw [systemRecord, List.filterMap_append]
    simp only [Point.withFields, Point.at, List.cons_append]
    rfl

end CpeCloud
