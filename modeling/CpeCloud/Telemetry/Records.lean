import CpeCloud.Telemetry.Reported
import CpeCloud.Telemetry.Unknown
import CpeCloud.Telemetry.Uptime

/-!
# The records of a heartbeat (`app/services/influx.py`)

What `write_telemetry` writes for a payload that `TelemetryHeartbeat` accepts, said without the
builders: the `system` point, then for each array the points of the entries that report something.

* `Emits`: one point for each such entry, in order.
* **`heartbeat_records`**: nothing is lost, duplicated or reordered, no two records are of one
  series, and a field has one type.
-/

namespace CpeCloud

open PyVal (Dict Python get)
open Schema (schemaAt validate)

/-! ## The arrays -/

/-- The key of a kind's array. -/
def Kind.arrayName : Kind → String
  | .ethernet => "ethernet"
  | .wireless => "wireless_interfaces"
  | .wifi => "wifi_interfaces"

/-- The items of a list. -/
def itemsOf : PyVal → List PyVal
  | .list items => items
  | _ => []

/-- The `dict`s of a list. -/
def dictsOf (array : PyVal) : List Dict :=
  (itemsOf array).filterMap fun
    | .dict d => some d
    | _ => none

/-- The entries of a payload, in the order of the three loops. -/
def entriesOf (payload : Dict) : List (Kind × Dict) :=
  [Kind.ethernet, .wireless, .wifi].flatMap fun kind =>
    (dictsOf (get payload kind.arrayName.toList)).map (kind, ·)

/-- The point carries what the entry reports. -/
structure IsRecord (router : Router) (ts : Timestamp) (kind : Kind) (entry : Dict) (p : Point) :
    Prop where
  measurement : p.measurement = "interface"
  tags : ∃ name, get entry "name".toList = .str name ∧
    p.tags = [("router_id", decimal router.id), ("interface_name", name), ("kind", kind.str)]
  fields : ∀ name v, (name, v) ∈ p.fields ↔ Reports kind entry name v
  once : (p.fields.map Prod.fst).Nodup
  time : p.time = some ts

/-- One point for each entry that reports something, in order. -/
inductive Emits (router : Router) (ts : Timestamp) : List (Kind × Dict) → List Point → Prop
  | nil : Emits router ts [] []
  | skip {kind : Kind} {entry : Dict} {es : List (Kind × Dict)} {ps : List Point}
      (h : ∀ name v, ¬ Reports kind entry name v) (rest : Emits router ts es ps) :
      Emits router ts ((kind, entry) :: es) ps
  | emit {kind : Kind} {entry : Dict} {es : List (Kind × Dict)} {p : Point} {ps : List Point}
      (hp : IsRecord router ts kind entry p) (hfields : p.fields ≠ [])
      (rest : Emits router ts es ps) : Emits router ts ((kind, entry) :: es) (p :: ps)

theorem interfaceRecord_cases {kind : Kind} {entry : Dict} (hc : Checked kind entry)
    (router : Router) (ts : Timestamp) :
    (interfaceRecord router ts kind entry = none ∧ ∀ name v, ¬ Reports kind entry name v) ∨
      ∃ p, interfaceRecord router ts kind entry = some p ∧ IsRecord router ts kind entry p ∧
        p.fields ≠ [] := by
  obtain ⟨t, -, hname⟩ := hc.name
  have hmem := fun name v => @Checked.mem_reported kind entry hc name v
  have honce := nodup_reported kind entry
  rw [interfaceRecord, hname]
  cases hreported : reported kind entry with
  | nil =>
    refine Or.inl ⟨rfl, fun name v h => ?_⟩
    have := (hmem name v).mpr h
    simp [hreported] at this
  | cons m fields =>
    rw [hreported] at hmem honce
    exact Or.inr ⟨_, rfl, ⟨rfl, ⟨t, hname, rfl⟩, hmem, honce, rfl⟩, List.cons_ne_nil _ _⟩

theorem emits_filterMap {router : Router} {ts : Timestamp} {es : List (Kind × Dict)}
    (h : ∀ m ∈ es, Checked m.1 m.2) :
    Emits router ts es (es.filterMap fun m => interfaceRecord router ts m.1 m.2) := by
  induction es with
  | nil => exact .nil
  | cons m es ih =>
    have ih := ih fun m hm => h m (List.mem_cons_of_mem _ hm)
    rw [List.filterMap_cons]
    rcases interfaceRecord_cases (h m List.mem_cons_self) router ts with
      ⟨hnone, hno⟩ | ⟨p, hp, hrecord, hfields⟩
    · rw [hnone]
      exact .skip hno ih
    · rw [hp]
      exact .emit hrecord hfields ih

theorem dictsOf_dicts (entries : List Dict) : dictsOf (.list (entries.map .dict)) = entries := by
  rw [dictsOf, itemsOf, List.filterMap_map]
  exact List.filterMap_some

theorem foldlM_appendPoint {kind : Kind} {entries : List Dict}
    (h : ∀ entry ∈ entries, Checked kind entry) (router : Router) (ts : Timestamp)
    (points : List Point) :
    (entries.map PyVal.dict).foldlM (appendPoint router kind ts) points =
      .ok (points ++ entries.filterMap (interfaceRecord router ts kind)) := by
  induction entries generalizing points with
  | nil => rw [List.filterMap_nil, List.append_nil]; rfl
  | cons entry entries ih =>
    have hstep : appendPoint router kind ts points (.dict entry) =
        .ok (points ++ (interfaceRecord router ts kind entry).toList) := by
      rw [appendPoint, buildOneInterfacePoint_reported (h entry List.mem_cons_self)]
      rfl
    rw [List.map_cons, List.foldlM_cons, hstep]
    refine (ih (fun entry he => h entry (List.mem_cons_of_mem _ he)) _).trans ?_
    cases hr : interfaceRecord router ts kind entry with
    | none => simp [List.filterMap_cons_none hr]
    | some p => simp [List.filterMap_cons_some hr]

/-- The dump of an array has the dumps of the entries, in order. -/
theorem dumped_entries {P : Pydantic} {kind : Kind} {items xs : List PyVal}
    (h : List.Forall₂ (fun v x => validate (.model (kind.model P)) v = some x) items xs) :
    ∃ entries : List Dict, xs = entries.map .dict ∧ (∀ entry ∈ entries, Checked kind entry) ∧
      List.Forall₂ (fun v entry => validate (.model (kind.model P)) v = some (.dict entry)) items
        entries := by
  induction h with
  | nil => exact ⟨[], rfl, List.forall_mem_nil _, .nil⟩
  | cons hv hitems ih =>
    obtain ⟨entries, rfl, hchecked, hentries⟩ := ih
    obtain ⟨d, entry, rfl, rfl, -⟩ := Schema.get_of_validate hv
    exact ⟨entry :: entries, rfl, List.forall_mem_cons.mpr ⟨checked_of_validate hv, hchecked⟩,
      .cons hv hentries⟩

/-- The array of a kind, validated: what its entries are, and what is built of them. -/
theorem array_validated {P : Pydantic} {kind : Kind} {v x : PyVal}
    (h : (v = .null ∧ x = .null) ∨ validate (.list (.model (kind.model P))) v = some x) :
    List.Forall₂ (fun v entry => validate (.model (kind.model P)) v = some (.dict entry))
        (itemsOf v) (dictsOf x) ∧
      (∀ entry ∈ dictsOf x, Checked kind entry) ∧
      ∀ router ts, buildArrayPoints router kind x ts =
        .ok ((dictsOf x).filterMap (interfaceRecord router ts kind)) := by
  rcases h with ⟨rfl, rfl⟩ | h
  · exact ⟨.nil, List.forall_mem_nil _, fun _ _ => rfl⟩
  obtain ⟨items, xs, rfl, rfl, hitems⟩ := Schema.forall₂_of_validate h
  obtain ⟨entries, rfl, hchecked, hentries⟩ := dumped_entries hitems
  rw [dictsOf_dicts]
  exact ⟨hentries, hchecked, fun router ts => foldlM_appendPoint hchecked router ts []⟩

/-! ## Series and types -/

/-- Two points with one measurement and one set of tags. -/
def SameSeries (p q : Point) : Prop := p.measurement = q.measurement ∧ ∀ t, t ∈ p.tags ↔ t ∈ q.tags

/-- The names are distinct within each array. -/
def NamesDistinct (payload : Dict) : Prop :=
  ∀ kind : Kind, ((dictsOf (get payload kind.arrayName.toList)).map
    (get · "name".toList)).Nodup

/-- The type of a field's value. -/
inductive FieldType where
  | integer
  | float
  | boolean
  | string
  deriving Repr, DecidableEq

/-- The type Influx gives a value. -/
def typeOfValue : PyVal → Option FieldType
  | .int _ => some .integer
  | .float _ => some .float
  | .bool _ => some .boolean
  | .str _ => some .string
  | _ => none

/-- The type of a field of a measurement. -/
def typeOfField (measurement name : String) : FieldType :=
  if measurement = "system" then
    if name ∈ systemFloatNames then .float else .integer
  else if name ∈ ["running", "disabled"] then .boolean
  else if name = "frequency" ∨ name ∈ counterNames then .integer
  else .string

theorem Reports.typed {kind : Kind} {entry : Dict} {name : String} {v : PyVal}
    (h : Reports kind entry name v) : typeOfValue v = some (typeOfField "interface" name) := by
  have hcounters : ∀ name ∈ counterNames, typeOfField "interface" name = .integer := by decide
  have htexts : ∀ name ∈ kind.textNames, typeOfField "interface" name = .string := by
    cases kind <;> decide
  cases h with
  | counter hname => rw [hcounters _ hname]; rfl
  | running => rfl
  | disabled => rfl
  | frequency => rfl
  | metadata hname => rw [htexts _ hname]; rfl

theorem systemRecord_typed (router : Router) (ts : Timestamp) (uptimeSec : Nat)
    {system : Option Dict} (hc : ∀ d ∈ system, SystemChecked d) :
    ∀ m ∈ (systemRecord router ts uptimeSec system).fields,
      typeOfValue m.2 = some (typeOfField "system" m.1) := by
  rintro ⟨name, v⟩ hm
  rcases List.mem_cons.mp hm with hm | hm
  · obtain ⟨rfl, rfl⟩ := Prod.mk.inj hm
    rfl
  obtain ⟨hname, rfl, hv⟩ := mem_filterMap_nonNull.mp hm
  cases system with
  | none => exact absurd rfl hv
  | some d =>
    have hd := hc d rfl
    have hints : ∀ name ∈ systemIntNames, typeOfField "system" name = .integer := by decide
    have hfloats : ∀ name ∈ systemFloatNames, typeOfField "system" name = .float := by decide
    rcases List.mem_append.mp hname with hname | hname
    · obtain ⟨n, -, hn⟩ := (hd.int name hname).resolve_left hv
      rw [hints name hname, Option.getD_some, hn]
      rfl
    · obtain ⟨q, hq⟩ := (hd.float name hname).resolve_left hv
      rw [hfloats name hname, Option.getD_some, hq]
      rfl

variable {router : Router} {ts : Timestamp}

/-- A point comes from one of the entries. -/
theorem Emits.source {es : List (Kind × Dict)} {ps : List Point} (h : Emits router ts es ps) :
    ∀ p ∈ ps, p.fields ≠ [] ∧ ∃ m ∈ es, IsRecord router ts m.1 m.2 p := by
  induction h with
  | nil => exact List.forall_mem_nil _
  | skip hno rest ih =>
    intro p hp
    obtain ⟨hfields, m, hm, hrecord⟩ := ih p hp
    exact ⟨hfields, m, List.mem_cons_of_mem _ hm, hrecord⟩
  | emit hrecord hfields rest ih =>
    intro p hp
    rcases List.mem_cons.mp hp with rfl | hp
    · exact ⟨hfields, _, List.mem_cons_self, hrecord⟩
    · obtain ⟨hfields, m, hm, hrecord⟩ := ih p hp
      exact ⟨hfields, m, List.mem_cons_of_mem _ hm, hrecord⟩

theorem Kind.str_injective : Function.Injective Kind.str := by
  intro kind kind' h
  cases kind <;> cases kind' <;> first | rfl | exact absurd h (by decide)

/-- Points of one series come from entries of one kind and one name. -/
theorem IsRecord.same_source {kind kind' : Kind} {entry entry' : Dict} {p q : Point}
    (hp : IsRecord router ts kind entry p) (hq : IsRecord router ts kind' entry' q)
    (h : SameSeries p q) :
    kind = kind' ∧ get entry "name".toList = get entry' "name".toList := by
  obtain ⟨name, hname, hptags⟩ := hp.tags
  obtain ⟨name', hname', hqtags⟩ := hq.tags
  have htags := h.2
  rw [hptags, hqtags] at htags
  have hsame : name = name' := by
    simpa using (htags ("interface_name", name)).mp (by simp)
  have hkind : kind.str = kind'.str := by
    simpa using (htags ("kind", kind.str)).mp (by simp)
  exact ⟨Kind.str_injective hkind, by rw [hname, hname', hsame]⟩

/-- Entries of different kinds or names give points of different series. -/
theorem Emits.pairwise {es : List (Kind × Dict)} {ps : List Point} (h : Emits router ts es ps)
    (hes : es.Pairwise fun m m' =>
      ¬ (m.1 = m'.1 ∧ get m.2 "name".toList = get m'.2 "name".toList)) :
    ps.Pairwise fun p q => ¬ SameSeries p q := by
  induction h with
  | nil => exact .nil
  | skip hno rest ih => exact ih hes.of_cons
  | emit hrecord hfields rest ih =>
    obtain ⟨hhead, htail⟩ := List.pairwise_cons.mp hes
    refine .cons (fun q hq hsame => ?_) (ih htail)
    obtain ⟨-, m, hm, hsource⟩ := rest.source q hq
    exact hhead m hm (hrecord.same_source hsource hsame)

theorem entriesOf_pairwise {payload : Dict} (h : NamesDistinct payload) :
    (entriesOf payload).Pairwise fun m m' =>
      ¬ (m.1 = m'.1 ∧ get m.2 "name".toList = get m'.2 "name".toList) := by
  rw [entriesOf, List.pairwise_flatMap]
  refine ⟨fun kind _ => ?_, ?_⟩
  · rw [List.pairwise_map]
    exact (List.pairwise_map.mp (h kind)).imp fun hne hsame => hne hsame.2
  · have hkinds : [Kind.ethernet, .wireless, .wifi].Pairwise (· ≠ ·) := by decide
    refine hkinds.imp fun hne m hm m' hm' hsame => hne ?_
    obtain ⟨_, _, rfl⟩ := List.mem_map.mp hm
    obtain ⟨_, _, rfl⟩ := List.mem_map.mp hm'
    exact hsame.1

/-! ## The records -/

/-- What a validated payload guarantees, next to its document `d`. -/
structure HeartbeatChecked (P : Pydantic) (d dump : Dict) : Prop where
  system : ∀ system ∈ systemOf dump, SystemChecked system
  uptime : get dump "uptime".toList = .null ∨ IsTextUpTo 32 (get dump "uptime".toList)
  /-- The entries of the dump are those of the document, in order. -/
  entries : ∀ kind : Kind, List.Forall₂
    (fun v entry => validate (.model (kind.model P)) v = some (.dict entry))
    (itemsOf (get d kind.arrayName.toList)) (dictsOf (get dump kind.arrayName.toList))
  checked : ∀ m ∈ entriesOf dump, Checked m.1 m.2
  arrays : ∀ (kind : Kind) (router : Router) (ts : Timestamp),
    buildArrayPoints router kind (get dump kind.arrayName.toList) ts =
      .ok ((dictsOf (get dump kind.arrayName.toList)).filterMap (interfaceRecord router ts kind))

theorem mem_entriesOf {payload : Dict} {kind : Kind} {entry : Dict} :
    (kind, entry) ∈ entriesOf payload ↔ entry ∈ dictsOf (get payload kind.arrayName.toList) := by
  have hkind : kind ∈ [Kind.ethernet, .wireless, .wifi] := by cases kind <;> decide
  simp only [entriesOf, List.mem_flatMap, List.mem_map, Prod.mk.injEq]
  constructor
  · rintro ⟨_, _, _, hentry, rfl, rfl⟩
    exact hentry
  · intro hentry
    exact ⟨kind, hkind, entry, hentry, rfl, rfl⟩

theorem heartbeatChecked_of_validate {P : Pydantic} {doc : PyVal} {dump : Dict}
    (h : validate (.model (telemetryHeartbeat P)) doc = some (.dict dump)) :
    ∃ d, doc = .dict d ∧ HeartbeatChecked P d dump := by
  obtain ⟨d, dump', rfl, hdump, hget⟩ := Schema.get_of_validate h
  obtain rfl := PyVal.dict.inj hdump
  have harray (kind : Kind) := array_validated ((hget kind.arrayName.toList
    (.list (.model (kind.model P))) (by cases kind <;> rfl)).imp_left And.right)
  refine ⟨d, rfl, fun system hsystem => ?_, ?_, fun kind => (harray kind).1,
    fun m hm => (harray m.1).2.1 m.2 (mem_entriesOf.mp hm), fun kind => (harray kind).2.2⟩
  · have hs := hget "system".toList (.model (telemetrySystem P)) rfl
    unfold systemOf at hsystem
    split at hsystem
    · rename_i d' hd'
      obtain rfl := Option.some.inj hsystem
      rw [hd'] at hs
      rcases hs with ⟨-, -, hnull⟩ | hs
      · cases hnull
      · exact systemChecked_of_validate hs
    · cases hsystem
  · exact get_validated (IsTextUpTo 32) h
      (show schemaAt (telemetryHeartbeat P) _ = some (textOf 1 32) from rfl) validate_textUpTo

/-- `x or default`, for a validated text. -/
theorem textOr_validated (py : Python) {v : PyVal} {t : Text} (ht : t ≠ []) (hv : v = .str t)
    (other : Text) : (if v.truthy then py.str v else other) = t := by
  rw [hv, if_pos (by simpa [PyVal.truthy] using ht), py.str_str]

/-- The writer takes the `system` block's uptime, or the payload's own. -/
theorem extractUptimeString_eq (py : Python) (dump : Dict) : extractUptimeString py dump =
    match systemOf dump with
    | some system =>
      if (get system "uptime".toList).truthy then py.str (get system "uptime".toList)
      else if (get dump "uptime".toList).truthy then py.str (get dump "uptime".toList) else []
    | none =>
      if (get dump "uptime".toList).truthy then py.str (get dump "uptime".toList) else [] := by
  unfold extractUptimeString systemOf
  cases get dump "system".toList <;> rfl

/-- `x or default` keeps a bound of both. -/
theorem length_textOr_le (py : Python) {v : PyVal} {n : Nat} (hv : v = .null ∨ IsTextUpTo n v)
    {other : Text} (hother : other.length ≤ n) :
    (if v.truthy then py.str v else other).length ≤ n := by
  rcases hv with rfl | ⟨t, ht, hle, hv⟩
  · exact hother
  · rwa [textOr_validated py ht hv]

theorem HeartbeatChecked.length_extractUptimeString_le {P : Pydantic} {d dump : Dict}
    (hc : HeartbeatChecked P d dump) (py : Python) : (extractUptimeString py dump).length ≤ 32 := by
  have hempty : ([] : Text).length ≤ 32 := Nat.zero_le 32
  have hflat := length_textOr_le py hc.uptime hempty
  rw [extractUptimeString_eq]
  split
  · rename_i system hsystem
    exact length_textOr_le py (hc.system system hsystem).uptime hflat
  · exact hflat

/-- The uptime of a validated payload parses. -/
theorem HeartbeatChecked.parseUptime {P : Pydantic} {d dump : Dict}
    (hc : HeartbeatChecked P d dump) (py : Python) : parseUptime (extractUptimeString py dump) =
      .ok (uptimeSeconds (extractUptimeString py dump) : Int) :=
  parseUptime_eq_uptimeSeconds ((hc.length_extractUptimeString_le py).trans (by decide))

theorem HeartbeatChecked.buildRecords {P : Pydantic} {d dump : Dict}
    (hc : HeartbeatChecked P d dump) (py : Python) (router : Router) (ts : Timestamp) :
    buildRecords py router dump ts =
      .ok (systemRecord router ts (uptimeSeconds (extractUptimeString py dump)) (systemOf dump) ::
        (entriesOf dump).filterMap fun m => interfaceRecord router ts m.1 m.2) := by
  have hinterfaces : buildInterfacePoints router dump ts =
      .ok ((entriesOf dump).filterMap fun m => interfaceRecord router ts m.1 m.2) := by
    have he := hc.arrays .ethernet router ts
    have hwl := hc.arrays .wireless router ts
    have hw := hc.arrays .wifi router ts
    simp only [Kind.arrayName] at he hwl hw
    simp only [buildInterfacePoints, he, hwl, hw, bind, Except.bind]
    simp [entriesOf, Kind.arrayName, List.filterMap_map]
  simp only [CpeCloud.buildRecords, hc.parseUptime py, hinterfaces, bind, Except.bind,
    buildSystemPoint_validated py router ts _ hc.system]

/-- What a heartbeat writes. -/
structure HeartbeatRecords (py : Python) (router : Router) (ts : Timestamp) (dump : Dict)
    (records : List Point) : Prop where
  /-- The `system` point, then one point for each entry that reports something. -/
  shape : ∃ ps, records = systemRecord router ts (uptimeSeconds (extractUptimeString py dump))
      (systemOf dump) :: ps ∧ Emits router ts (entriesOf dump) ps
  nonempty : ∀ p ∈ records, p.fields ≠ []
  series : NamesDistinct dump → records.Pairwise fun p q => ¬ SameSeries p q
  typed : ∀ p ∈ records, ∀ m ∈ p.fields, typeOfValue m.2 = some (typeOfField p.measurement m.1)

theorem HeartbeatChecked.records {P : Pydantic} {d dump : Dict} (hc : HeartbeatChecked P d dump)
    (py : Python) (router : Router) (ts : Timestamp) :
    HeartbeatRecords py router ts dump
      (systemRecord router ts (uptimeSeconds (extractUptimeString py dump)) (systemOf dump) ::
        (entriesOf dump).filterMap fun m => interfaceRecord router ts m.1 m.2) := by
  have hemits := @emits_filterMap router ts (entriesOf dump) hc.checked
  refine ⟨⟨_, rfl, hemits⟩, List.forall_mem_cons.mpr ⟨List.cons_ne_nil _ _, fun p hp => ?_⟩,
    fun hnames => .cons (fun q hq hsame => ?_) (hemits.pairwise (entriesOf_pairwise hnames)),
    List.forall_mem_cons.mpr ⟨systemRecord_typed router ts _ hc.system, fun p hp => ?_⟩⟩
  · exact (hemits.source p hp).1
  · obtain ⟨-, m, -, hsource⟩ := hemits.source q hq
    have hmeasurement := hsame.1
    rw [hsource.measurement] at hmeasurement
    exact absurd hmeasurement (show "system" ≠ "interface" by decide)
  · obtain ⟨-, m, -, hsource⟩ := hemits.source p hp
    rintro ⟨name, v⟩ hm
    rw [hsource.measurement]
    exact ((hsource.fields name v).mp hm).typed

/-- **Heartbeat points lose, duplicate and reorder nothing.** -/
theorem heartbeat_records (P : Pydantic) (py : Python) {doc : PyVal} {dump : Dict}
    (h : validate (.model (telemetryHeartbeat P)) doc = some (.dict dump)) :
    (∃ d, doc = .dict d ∧ ∀ kind : Kind, List.Forall₂
      (fun v entry => validate (.model (kind.model P)) v = some (.dict entry))
      (itemsOf (get d kind.arrayName.toList)) (dictsOf (get dump kind.arrayName.toList))) ∧
    ∀ router ts, ∃ records, buildRecords py router dump ts = .ok records ∧
      HeartbeatRecords py router ts dump records := by
  obtain ⟨d, rfl, hc⟩ := heartbeatChecked_of_validate h
  exact ⟨⟨d, rfl, hc.entries⟩, fun router ts =>
    ⟨_, hc.buildRecords py router ts, hc.records py router ts⟩⟩

theorem heartbeat_records_small : ∃ dump,
    validate (.model (telemetryHeartbeat smallPydantic)) (smallDoc []) = some (.dict dump) ∧
    (∃ d, smallDoc [] = .dict d ∧ ∀ kind : Kind, List.Forall₂
      (fun v entry => validate (.model (kind.model smallPydantic)) v = some (.dict entry))
      (itemsOf (get d kind.arrayName.toList)) (dictsOf (get dump kind.arrayName.toList))) ∧
    ∀ router ts, ∃ records, buildRecords smallPython router dump ts = .ok records ∧
      HeartbeatRecords smallPython router ts dump records :=
  ⟨_, rfl, heartbeat_records smallPydantic smallPython rfl⟩

end CpeCloud
