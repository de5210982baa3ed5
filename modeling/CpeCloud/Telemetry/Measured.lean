import CpeCloud.Telemetry.Lookups
import CpeCloud.Telemetry.Records

/-!
# What a router measures is what is written

From the lookups of the telemetry script to the records of `write_telemetry`: the payload, its
document, the models and the point builders, all in one. `Device.points` says what they come to
without any of them.

* `decodeHeartbeat`: the body of a heartbeat, parsed and validated.
* `Dumped.field` .. `Dumped.counters`: what the dump of a record holds.
* `accepted_measured`: if the payload of a device is accepted, its points are written.
* **`measurements_arrive`**: it is accepted, unless a lookup that it cannot do without fails.
-/

namespace CpeCloud

open Json (natLiteral intLiteral loads value)
open PyVal (Dict Python get)
open Schema (schemaAt requiredAt validate fieldValue)

/-- The body of a heartbeat, parsed, validated and dumped. -/
def decodeHeartbeat (P : Pydantic) (py : Python) (body : Text) : Option Dict :=
  (loads body).bind fun j =>
    match validate (.model (telemetryHeartbeat P)) (value py j) with
    | some (.dict dump) => some dump
    | _ => none

theorem decodeHeartbeat_eq_some {P : Pydantic} {py : Python} {body : Text} {dump : Dict} :
    decodeHeartbeat P py body = some dump ↔ ∃ j, loads body = some j ∧
      validate (.model (telemetryHeartbeat P)) (value py j) = some (.dict dump) := by
  refine Option.bind_eq_some_iff.trans (exists_congr fun j => and_congr_right fun _ => ?_)
  split
  · rename_i dump' hdump
    simp [hdump]
  · rename_i hno
    exact iff_of_false nofun (hno dump)

/-- A body that is accepted is decoded. -/
theorem exists_decodeHeartbeat {P : Pydantic} {py : Python} {body : Text}
    (h : HeartbeatAccepted P py body) : ∃ dump, decodeHeartbeat P py body = some dump := by
  obtain ⟨j, hj, haccepts⟩ := h
  obtain ⟨x, hx⟩ := Option.isSome_iff_exists.mp haccepts
  obtain ⟨d, dump, -, rfl, -⟩ := Schema.get_of_validate hx
  exact ⟨dump, decodeHeartbeat_eq_some.mpr ⟨j, hj, hx⟩⟩

/-! ## The points of a device -/

/-- The fields that have a value. -/
def measured (fields : List (String × Option PyVal)) : List (String × PyVal) :=
  fields.filterMap fun f => f.2.map fun v => (f.1, v)

/-- A text, unless the lookup fails or it is empty. -/
def textValue (o : Option Text) : Option PyVal :=
  if looked o = [] then none else some (.str (looked o))

/-- A counter. -/
def countValue (n : UInt64) : Option PyVal := some (.int n.toNat)

/-- What `:tonum` gives, if it is a number. -/
def Tonum.number : Tonum → Option PyVal
  | .num n => some (.int n.toInt)
  | _ => none

/-- What a sensor reads, as the double next to it. -/
def sensorValue (py : Python) (o : Option Reading) : Option PyVal :=
  o.map fun r => .float (py.round (Json.rational r.1))

/-- What is counted on an interface. -/
def InterfaceCounters.fields (c : InterfaceCounters) : List (String × Option PyVal) :=
  [("rx_bytes", countValue c.rxByte), ("tx_bytes", countValue c.txByte),
    ("rx_packets", countValue c.rxPacket), ("tx_packets", countValue c.txPacket)]

section Points

variable (py : Python) (tonum : Text → Tonum) (router : Router) (ts : Timestamp)

/-- The point of an ethernet interface. -/
def EthernetPort.point (e : EthernetPort) : Point :=
  (interfacePoint router .ethernet e.name (measured
    (e.counters.fields ++ [("running", some (.bool e.running))]))).at ts

/-- The point of a classic radio. -/
def WirelessRadio.point (w : WirelessRadio) : Point :=
  (interfacePoint router .wireless w.name (measured (w.counters.fields ++
    [("disabled", some (.bool (w.disabled.getD true))),
      ("frequency", (tonum (looked w.frequency)).number),
      ("ssid", textValue w.ssid), ("band", textValue w.band),
      ("channel_width", textValue w.channelWidth), ("tx_power", textValue w.txPower),
      ("mode", textValue w.mode)]))).at ts

/-- The point of a wave2 radio. -/
def WifiRadio.point (w : WifiRadio) : Point :=
  (interfacePoint router .wifi w.name (measured (w.counters.fields ++
    [("disabled", some (.bool (w.disabled.getD true))), ("ssid", textValue w.ssid),
      ("channel", textValue w.channel), ("configuration", textValue w.configuration)]))).at ts

/-- The points of the radios. -/
def Radios.points : Radios → List Point
  | .wireless radios => radios.map (WirelessRadio.point tonum router ts)
  | .wifi radios => radios.map (WifiRadio.point router ts)

/-- The `system` point. -/
def Device.systemPoint (d : Device) : Point where
  measurement := "system"
  tags := [("router_id", decimal router.id), ("model", orUnknown router.model),
    ("wifi_stack", orUnknown (router.wifiStack.map WifiStack.str))]
  fields := measured [("uptime_sec", some (.int (uptimeSeconds d.uptime))),
    ("cpu_load_pct", countValue d.cpuLoad), ("free_memory_bytes", countValue d.freeMem),
    ("total_memory_bytes", countValue d.totalMem),
    ("temperature_c", sensorValue py d.temperature), ("voltage_v", sensorValue py d.voltage)]
  time := some ts

/-- The points of a device: its own, and one for each of its interfaces, in order. -/
def Device.points (d : Device) : List Point :=
  d.systemPoint py router ts :: d.ethernet.map (EthernetPort.point router ts) ++
    d.radios.points tonum router ts

end Points

/-! ## What the dump of a record holds -/

/-- Integers up to there are doubles. -/
def Reading.Small (r : Reading) : Prop := ReadingIn (-2 ^ 53) (2 ^ 53) r

theorem Reading.float_eq {P : Pydantic} {py : Python} {r : Reading} (h : r.Small) {q : ℚ}
    (hq : P.float (value py (.num r.1)) = some (.finite q)) :
    py.round (Json.rational r.1) = .finite q := by
  rcases Json.numberOf_cases py r.2 with ⟨n, hn, hrational⟩ | hround
  · have hn' : value py (.num r.1) = .int n := hn
    have hsmall : n.natAbs ≤ 2 ^ 53 := by
      rw [Reading.Small, ReadingIn, ← hrational] at h
      have hlow : -2 ^ 53 ≤ n := by exact_mod_cast h.1
      have hhigh : n ≤ 2 ^ 53 := by exact_mod_cast h.2
      omega
    rw [hn', P.float_int n hsmall] at hq
    obtain ⟨x, hx, hle, hge⟩ := py.round_mem hsmall hsmall le_rfl le_rfl
    obtain rfl := Flt.finite.inj (Option.some.inj hq)
    rw [← hrational, hx, le_antisymm hge hle]
  · have hround' : value py (.num r.1) = .float (py.round (Json.rational r.1)) := hround
    rw [hround', P.float_float] at hq
    exact Option.some.inj hq

/-- The members of a record, as values. -/
def valuesOf (py : Python) (fields : List (String × Option Json)) : Dict :=
  (present fields).map fun m => (m.1, value py m.2)

section Values

variable {py : Python} {fields : List (String × Option Json)} {key : String}

theorem lookup_absent (h : key ∉ fields.map Prod.fst) :
    (valuesOf py fields).lookup key.toList = none := by
  refine List.lookup_eq_none_iff.mpr fun p hp => ?_
  obtain ⟨m, hm, rfl⟩ := List.mem_map.mp hp
  have hm1 : m.1 ∈ (present fields).map Prod.fst := List.mem_map_of_mem hm
  obtain ⟨f, hf, -, hkey⟩ := mem_keys_present.mp hm1
  refine bne_iff_ne.mpr fun heq => h ?_
  rw [String.toList_inj.mp (heq.trans hkey.symm)]
  exact List.mem_map_of_mem hf

theorem lookup_valuesOf (hd : (fields.map Prod.fst).Nodup) {o : Option Json}
    (hf : (key, o) ∈ fields) : (valuesOf py fields).lookup key.toList = o.map (value py) := by
  induction fields with
  | nil => cases hf
  | cons f fields ih =>
    obtain ⟨name, o'⟩ := f
    obtain ⟨hname, hnodup⟩ := List.nodup_cons.mp hd
    rcases List.mem_cons.mp hf with heq | hmem
    · obtain ⟨rfl, rfl⟩ := Prod.mk.inj heq
      cases o with
      | none => exact @lookup_absent py fields key hname
      | some j => exact List.lookup_cons_self
    · have hne : key ≠ name := by
        rintro rfl
        exact hname (List.mem_map.mpr ⟨_, hmem, rfl⟩)
      cases o' with
      | none => exact ih hnodup hmem
      | some j =>
        have hbeq : (key.toList == name.toList) = false :=
          beq_false_of_ne fun h => hne (String.toList_inj.mp h)
        refine List.lookup_cons.trans ?_
        rw [hbeq]
        exact ih hnodup hmem

end Values

/-- The dump of a record. -/
structure Dumped (P : Pydantic) (py : Python) (schema : Fields)
    (fields : List (String × Option Json)) (dump : Dict) : Prop where
  valid : validate (.model schema) (value py (record fields)) = some (.dict dump)
  nodup : (fields.map Prod.fst).Nodup

/-- The dump holds this value, or `None`. -/
def Holds (dump : Dict) (f : String × Option PyVal) : Prop :=
  get dump f.1.toList = f.2.getD .null ∧ f.2 ≠ some .null

section Dumped

variable {P : Pydantic} {py : Python} {schema : Fields} {fields : List (String × Option Json)}
  {dump : Dict} {key : String} (h : Dumped P py schema fields dump)
include h

theorem Dumped.field {s : Schema} (hs : schemaAt schema key.toList = some s) :
    fieldValue (requiredAt schema key.toList) (validate s)
      ((valuesOf py fields).lookup key.toList) = some (get dump key.toList) := by
  have hvalid := h.valid
  rw [record, Json.value_obj] at hvalid
  exact Schema.fieldValue_of_validate hvalid hs

theorem Dumped.validated {s : Schema} {j : Json} (hs : schemaAt schema key.toList = some s)
    (hf : (key, some j) ∈ fields) (hj : j ≠ .null) :
    validate s (value py j) = some (get dump key.toList) := by
  have hfield := h.field hs
  rwa [lookup_valuesOf h.nodup hf, Option.map_some,
    Schema.fieldValue_some (value_ne_null hj)] at hfield

theorem Dumped.missing {s : Schema} (hs : schemaAt schema key.toList = some s)
    (hf : (key, none) ∈ fields) : Holds dump (key, none) := by
  have hfield := h.field hs
  rw [lookup_valuesOf h.nodup hf] at hfield
  exact ⟨Schema.fieldValue_none hfield, by simp⟩

theorem Dumped.text {p : Text → Bool} {t : Text}
    (hs : schemaAt schema key.toList = some (textWhere p)) (hf : (key, some (.str t)) ∈ fields) :
    get dump key.toList = .str t ∧ p t = true := by
  obtain ⟨t', ht', hx, hp⟩ := validate_textWhere (h.validated hs hf (by simp))
  obtain rfl := PyVal.str.inj ht'
  exact ⟨hx, hp⟩

/-! ### The fields of a device -/

theorem Dumped.lookedUp {m n : Nat} {o : Option Text}
    (hs : schemaAt schema key.toList = some (textOf m n))
    (hf : (key, nonempty (looked o)) ∈ fields) : Holds dump (key, textValue o) := by
  unfold nonempty at hf
  unfold textValue
  split at hf
  · rename_i hlength
    rw [if_neg (List.ne_nil_of_length_pos hlength)]
    exact ⟨(h.text hs hf).1, by simp⟩
  · rename_i hlength
    rw [if_pos (List.length_eq_zero_iff.mp (by omega))]
    exact h.missing hs hf

theorem Dumped.flag {b : Bool} (hs : schemaAt schema key.toList = some (CpeCloud.flag P))
    (hf : (key, some (.bool b)) ∈ fields) : Holds dump (key, some (.bool b)) := by
  have hvalid := h.validated hs hf (by simp)
  rw [CpeCloud.flag, validate, show value py (.bool b) = .bool b from rfl, P.bool_bool] at hvalid
  exact ⟨(Option.some.inj hvalid).symm, by simp⟩

theorem Dumped.integer {ge : Int} {le : Option Int} {j : Json} {n : Int}
    (hs : schemaAt schema key.toList = some (intFrom P ge le)) (hf : (key, some j) ∈ fields)
    (hj : value py j = .int n) : Holds dump (key, some (.int n)) := by
  have hvalid := h.validated hs hf (by rintro rfl; cases hj)
  rw [intFrom, validate, hj, P.int_int] at hvalid
  simp only at hvalid
  split at hvalid
  · exact ⟨(Option.some.inj hvalid).symm, by simp⟩
  · cases hvalid

theorem Dumped.count {ge : Int} {le : Option Int} {n : UInt64}
    (hs : schemaAt schema key.toList = some (intFrom P ge le))
    (hf : (key, some (CpeCloud.count n)) ∈ fields) : Holds dump (key, countValue n) :=
  h.integer hs hf (value_count n)

theorem Dumped.frequency {ge : Int} {le : Option Int} {frequency : Tonum}
    (hs : schemaAt schema key.toList = some (intFrom P ge le))
    (hf : (key, frequencyValue frequency) ∈ fields) : Holds dump (key, frequency.number) := by
  cases frequency with
  | num n => exact h.integer hs hf (Json.numberOf_intLiteral py n.toInt)
  | error => exact h.missing hs hf
  | nothing => exact h.missing hs hf

/-- A number is stored as the double next to it. -/
theorem Dumped.sensor {ge le : Int} {o : Option Reading}
    (hs : schemaAt schema key.toList = some (floatIn P ge le)) (hsmall : ∀ r ∈ o, r.Small)
    (hf : (key, readingValue o) ∈ fields) : Holds dump (key, sensorValue py o) := by
  cases o with
  | none => exact h.missing hs hf
  | some r =>
    have hvalid := h.validated hs hf (by simp)
    simp only [floatIn, validate] at hvalid
    split at hvalid
    · rename_i q hq
      have hround := Reading.float_eq (hsmall r rfl) hq
      split at hvalid
      · refine ⟨(Option.some.inj hvalid).symm.trans ?_, by simp [sensorValue]⟩
        rw [← hround]
        rfl
      · cases hvalid
    · cases hvalid

/-- The counters of an interface. -/
theorem Dumped.counters {c : InterfaceCounters}
    (hs : ∀ name ∈ counterNames, schemaAt schema name.toList = some (intFrom P 0 none))
    (hf : ∀ f ∈ counterValues c, f ∈ fields) : ∀ f ∈ c.fields, Holds dump f := by
  simp only [counterNames, List.forall_mem_cons] at hs
  simp only [counterValues, List.forall_mem_cons] at hf
  simp only [InterfaceCounters.fields, List.forall_mem_cons]
  obtain ⟨hrxb, htxb, hrxp, htxp, -⟩ := hs
  obtain ⟨hfrxb, hftxb, hfrxp, hftxp, -⟩ := hf
  exact ⟨h.count hrxb hfrxb, h.count htxb hftxb, h.count hrxp hfrxp, h.count htxp hftxp,
    List.forall_mem_nil _⟩

end Dumped

/-! ## What is reported -/

theorem measured_append (fields fields' : List (String × Option PyVal)) :
    measured (fields ++ fields') = measured fields ++ measured fields' :=
  List.filterMap_append

theorem filterMap_nonNull {dump : Dict} {fields : List (String × Option PyVal)}
    (h : ∀ f ∈ fields, Holds dump f) :
    (fields.map Prod.fst).filterMap (nonNull dump) = measured fields := by
  rw [List.filterMap_map, measured]
  refine List.filterMap_congr fun f hf => ?_
  obtain ⟨hget, hnull⟩ := h f hf
  obtain ⟨name, o⟩ := f
  cases o with
  | none =>
    show nonNull dump name = none
    rw [nonNull, hget]
    rfl
  | some v =>
    have hv : v ≠ .null := fun heq => hnull (congrArg some heq)
    exact nonNull_eq_some.mpr ⟨rfl, hget, hv⟩

theorem filterMap_nonEmpty {dump : Dict} {fields : List (String × Option Text)}
    (h : ∀ f ∈ fields, Holds dump (f.1, textValue f.2)) :
    (fields.map Prod.fst).filterMap (nonEmpty dump) =
      measured (fields.map fun f => (f.1, textValue f.2)) := by
  rw [List.filterMap_map, measured, List.filterMap_map]
  refine List.filterMap_congr fun f hf => ?_
  obtain ⟨hget, -⟩ := h f hf
  obtain ⟨name, o⟩ := f
  show nonEmpty dump name = (textValue o).map fun v => (name, v)
  simp only [textValue] at hget ⊢
  split at hget
  · rename_i hnil
    rw [if_pos hnil, nonEmpty, hget]
    rfl
  · rename_i hne
    rw [if_neg hne]
    exact nonEmpty_eq_some.mpr ⟨rfl, _, hne, hget, rfl⟩

/-! ## The records -/

section Entries

variable {P : Pydantic} {py : Python} {tonum : Text → Tonum} {entry : Dict}

section Interfaces

variable (router : Router) (ts : Timestamp)

/-- What an entry holds is reported. -/
theorem interfaceRecord_of (kind : Kind) {name : Text} {c : InterfaceCounters} {link : Bool}
    {ints : List (String × Option PyVal)} {texts : List (String × Option Text)}
    (hname : get entry "name".toList = .str name) (hcounters : ∀ f ∈ c.fields, Holds entry f)
    (hlink : Holds entry (kind.linkName, some (.bool link))) (hints : ∀ f ∈ ints, Holds entry f)
    (htexts : ∀ f ∈ texts, Holds entry (f.1, textValue f.2))
    (hintNames : ints.map Prod.fst = kind.intNames)
    (htextNames : texts.map Prod.fst = kind.textNames) :
    interfaceRecord router ts kind entry = some ((interfacePoint router kind name (measured
      (c.fields ++ (kind.linkName, some (.bool link)) :: ints ++
        texts.map fun f => (f.1, textValue f.2)))).at ts) := by
  have hnumbers := @filterMap_nonNull entry
    (c.fields ++ (kind.linkName, some (.bool link)) :: ints)
    (List.forall_mem_append.mpr ⟨hcounters, List.forall_mem_cons.mpr ⟨hlink, hints⟩⟩)
  have hnames : (c.fields ++ (kind.linkName, some (PyVal.bool link)) :: ints).map Prod.fst =
      counterNames ++ kind.linkName :: kind.intNames := by
    rw [← hintNames, List.map_append]
    rfl
  have hreported : reported kind entry = measured (c.fields ++
      (kind.linkName, some (.bool link)) :: ints ++ texts.map fun f => (f.1, textValue f.2)) := by
    rw [reported, ← hnames, hnumbers, ← htextNames, filterMap_nonEmpty htexts]
    exact (measured_append _ _).symm
  rw [interfaceRecord, hname, hreported]
  rfl

theorem EthernetPort.record {e : EthernetPort}
    (h : validate (.model (Kind.ethernet.model P)) (value py (ethernetDocument e)) =
      some (.dict entry)) :
    interfaceRecord router ts .ethernet entry = some (e.point router ts) := by
  have hnodup : ethernetKeys.Nodup := by decide
  have hd : Dumped P py (telemetryEthernet P) _ entry := ⟨h, hnodup⟩
  have hname : get entry "name".toList = .str e.name :=
    (hd.text rfl (List.mem_of_getElem? (i := 0) rfl)).1
  have hlink : Holds entry ("running", some (.bool e.running)) :=
    hd.flag rfl (List.mem_of_getElem? (i := 1) rfl)
  have hcounters := hd.counters (Kind.ethernet.counter_schema P)
    fun f hf => List.mem_append_right _ hf
  exact interfaceRecord_of router ts .ethernet hname hcounters hlink (List.forall_mem_nil _)
    (List.forall_mem_nil _) rfl rfl

theorem WirelessRadio.record {w : WirelessRadio}
    (h : validate (.model (Kind.wireless.model P)) (value py (wirelessDocument tonum w)) =
      some (.dict entry)) :
    interfaceRecord router ts .wireless entry = some (w.point tonum router ts) := by
  have hnodup : wirelessKeys.Nodup := by decide
  have hd : Dumped P py (telemetryWirelessIf P) _ entry := ⟨h, hnodup⟩
  have hname : get entry "name".toList = .str w.name :=
    (hd.text rfl (List.mem_of_getElem? (i := 0) rfl)).1
  have hlink : Holds entry ("disabled", some (.bool (w.disabled.getD true))) :=
    hd.flag rfl (List.mem_of_getElem? (i := 1) rfl)
  have hcounters := hd.counters (Kind.wireless.counter_schema P)
    fun f hf => List.mem_append_left _ (List.mem_append_right _ hf)
  have hfrequency : Holds entry ("frequency", (tonum (looked w.frequency)).number) :=
    hd.frequency rfl (List.mem_of_getElem? (i := 8) rfl)
  have htexts : ∀ f ∈ [("ssid", w.ssid), ("band", w.band), ("channel_width", w.channelWidth),
      ("tx_power", w.txPower), ("mode", w.mode)], Holds entry (f.1, textValue f.2) := by
    simp only [List.forall_mem_cons]
    exact ⟨hd.lookedUp rfl (List.mem_of_getElem? (i := 6) rfl),
      hd.lookedUp rfl (List.mem_of_getElem? (i := 7) rfl),
      hd.lookedUp rfl (List.mem_of_getElem? (i := 9) rfl),
      hd.lookedUp rfl (List.mem_of_getElem? (i := 10) rfl),
      hd.lookedUp rfl (List.mem_of_getElem? (i := 11) rfl), List.forall_mem_nil _⟩
  exact interfaceRecord_of router ts .wireless hname hcounters hlink
    (List.forall_mem_singleton.mpr hfrequency) htexts rfl rfl

theorem WifiRadio.record {w : WifiRadio}
    (h : validate (.model (Kind.wifi.model P)) (value py (wifiDocument w)) = some (.dict entry)) :
    interfaceRecord router ts .wifi entry = some (w.point router ts) := by
  have hnodup : wifiKeys.Nodup := by decide
  have hd : Dumped P py (telemetryWifiIf P) _ entry := ⟨h, hnodup⟩
  have hname : get entry "name".toList = .str w.name :=
    (hd.text rfl (List.mem_of_getElem? (i := 0) rfl)).1
  have hlink : Holds entry ("disabled", some (.bool (w.disabled.getD true))) :=
    hd.flag rfl (List.mem_of_getElem? (i := 1) rfl)
  have hcounters := hd.counters (Kind.wifi.counter_schema P)
    fun f hf => List.mem_append_left _ (List.mem_append_right _ hf)
  have htexts : ∀ f ∈ [("ssid", w.ssid), ("channel", w.channel),
      ("configuration", w.configuration)], Holds entry (f.1, textValue f.2) := by
    simp only [List.forall_mem_cons]
    exact ⟨hd.lookedUp rfl (List.mem_of_getElem? (i := 6) rfl),
      hd.lookedUp rfl (List.mem_of_getElem? (i := 7) rfl),
      hd.lookedUp rfl (List.mem_of_getElem? (i := 8) rfl), List.forall_mem_nil _⟩
  exact interfaceRecord_of router ts .wifi hname hcounters hlink (List.forall_mem_nil _) htexts rfl
    rfl

section Arrays

variable {fields : List (String × Option Json)} {kind : Kind} {entries : List Dict}
  (h : List.Forall₂ (fun v entry => validate (.model (kind.model P)) v = some (.dict entry))
    (itemsOf (get (valuesOf py fields) kind.arrayName.toList)) entries)
include h

/-- The entries of an array give the points of what they were made of. -/
theorem filterMap_array {α : Type} {doc : α → Json} {point : α → Point} {xs : List α}
    (hpoint : ∀ x entry, validate (.model (kind.model P)) (value py (doc x)) =
      some (.dict entry) → interfaceRecord router ts kind entry = some (point x))
    (hd : (fields.map Prod.fst).Nodup)
    (hf : (kind.arrayName, some (.arr (xs.map doc))) ∈ fields) :
    entries.filterMap (interfaceRecord router ts kind) = xs.map point := by
  rw [PyVal.get, lookup_valuesOf hd hf, Option.map_some, Option.getD_some, Json.value_arr, itemsOf,
    List.map_map, List.forall₂_map_left_iff] at h
  clear hf
  induction h with
  | nil => rfl
  | cons hx hxs ih => rw [List.filterMap_cons_some (hpoint _ _ hx), ih, List.map_cons]

theorem filterMap_absent (hf : kind.arrayName ∉ fields.map Prod.fst) :
    entries.filterMap (interfaceRecord router ts kind) = [] := by
  rw [PyVal.get, lookup_absent hf] at h
  cases h
  rfl

end Arrays

end Interfaces

end Entries

/-! ### The heartbeat -/

section Heartbeat

variable {P : Pydantic} {py : Python} {tonum : Text → Tonum} {d : Device} {dump : Dict}

/-- The readings of the sensors are small. -/
structure Device.Small (d : Device) : Prop where
  temperature : ∀ r ∈ d.temperature, r.Small
  voltage : ∀ r ∈ d.voltage, r.Small

/-- What the `system` block holds. -/
theorem Device.system_holds (hsmall : d.Small) {system : Dict}
    (h : validate (.model (telemetrySystem P)) (value py (systemDocument d)) =
      some (.dict system)) :
    (get system "uptime".toList = .str d.uptime ∧ d.uptime ≠ []) ∧
      (systemIntNames ++ systemFloatNames).filterMap (nonNull system) =
        measured [("cpu_load_pct", countValue d.cpuLoad),
          ("free_memory_bytes", countValue d.freeMem),
          ("total_memory_bytes", countValue d.totalMem),
          ("temperature_c", sensorValue py d.temperature),
          ("voltage_v", sensorValue py d.voltage)] := by
  have hnodup : systemKeys.Nodup := by decide
  have hd : Dumped P py (telemetrySystem P) _ system := ⟨h, hnodup⟩
  obtain ⟨huptime, hlength⟩ : get system "uptime".toList = .str d.uptime ∧ _ :=
    hd.text rfl (List.mem_of_getElem? (i := 0) rfl)
  have hfields : ∀ f ∈ [("cpu_load_pct", countValue d.cpuLoad),
      ("free_memory_bytes", countValue d.freeMem), ("total_memory_bytes", countValue d.totalMem),
      ("temperature_c", sensorValue py d.temperature),
      ("voltage_v", sensorValue py d.voltage)], Holds system f := by
    simp only [List.forall_mem_cons]
    exact ⟨hd.count rfl (List.mem_of_getElem? (i := 1) rfl),
      hd.count rfl (List.mem_of_getElem? (i := 2) rfl),
      hd.count rfl (List.mem_of_getElem? (i := 3) rfl),
      hd.sensor rfl hsmall.temperature (List.mem_of_getElem? (i := 4) rfl),
      hd.sensor rfl hsmall.voltage (List.mem_of_getElem? (i := 5) rfl), List.forall_mem_nil _⟩
  refine ⟨⟨huptime, ?_⟩, filterMap_nonNull hfields⟩
  rintro hnil
  rw [hnil] at hlength
  cases hlength

theorem document_eq (tonum : Text → Tonum) (d : Device) : ∃ fields,
    document tonum d = record fields ∧ fields.map Prod.fst = documentKeys d.radios ∧
      ("system", some (systemDocument d)) ∈ fields ∧
      ("ethernet", some (.arr (d.ethernet.map ethernetDocument))) ∈ fields ∧
      (d.radios.key, some (.arr (d.radios.documents tonum))) ∈ fields :=
  ⟨_, rfl, rfl, List.mem_of_getElem? (i := 7) rfl, List.mem_of_getElem? (i := 8) rfl,
    List.mem_of_getElem? (i := 9) rfl⟩

section Document

variable {fields : List (String × Option Json)} (router : Router) (ts : Timestamp)

/-- The `system` point of a dump is that of the device. -/
theorem systemRecord_document (hsmall : d.Small)
    (hd : Dumped P py (telemetryHeartbeat P) fields dump)
    (hf : ("system", some (systemDocument d)) ∈ fields) :
    systemRecord router ts (uptimeSeconds (extractUptimeString py dump)) (systemOf dump) =
      d.systemPoint py router ts := by
  have hvalid : validate (.model (telemetrySystem P)) (value py (systemDocument d)) =
      some (get dump "system".toList) := hd.validated rfl hf nofun
  obtain ⟨-, system, -, hget, -⟩ := Schema.get_of_validate hvalid
  rw [hget] at hvalid
  have hsystemOf : systemOf dump = some system := by rw [systemOf, hget]
  obtain ⟨⟨huptime, hne⟩, hfields⟩ := Device.system_holds hsmall hvalid
  have hseconds : extractUptimeString py dump = d.uptime := by
    rw [extractUptimeString_eq, hsystemOf]
    exact textOr_validated py hne huptime _
  rw [hseconds, hsystemOf, systemRecord, Option.getD_some, hfields]
  rfl

/-- The points of the radios are those of what was measured: one of the two arrays is there. -/
theorem radios_document (hnodup : (fields.map Prod.fst).Nodup)
    (hkeys : fields.map Prod.fst = documentKeys d.radios)
    (hf : (d.radios.key, some (.arr (d.radios.documents tonum))) ∈ fields)
    {wireless wifi : List Dict}
    (hwireless : List.Forall₂
      (fun v entry => validate (.model (Kind.wireless.model P)) v = some (.dict entry))
      (itemsOf (get (valuesOf py fields) Kind.wireless.arrayName.toList)) wireless)
    (hwifi : List.Forall₂
      (fun v entry => validate (.model (Kind.wifi.model P)) v = some (.dict entry))
      (itemsOf (get (valuesOf py fields) Kind.wifi.arrayName.toList)) wifi) :
    wireless.filterMap (interfaceRecord router ts .wireless) ++
      wifi.filterMap (interfaceRecord router ts .wifi) = d.radios.points tonum router ts := by
  cases hr : d.radios with
  | wireless radios =>
    rw [hr] at hf hkeys
    have habsent : Kind.wifi.arrayName ∉ fields.map Prod.fst := by
      rw [hkeys, documentKeys, Radios.key]
      decide
    rw [filterMap_array router ts hwireless (fun w entry => WirelessRadio.record router ts) hnodup
      hf, filterMap_absent router ts hwifi habsent, List.append_nil]
    rfl
  | wifi radios =>
    rw [hr] at hf hkeys
    have habsent : Kind.wireless.arrayName ∉ fields.map Prod.fst := by
      rw [hkeys, documentKeys, Radios.key]
      decide
    rw [filterMap_absent router ts hwireless habsent, filterMap_array router ts hwifi
      (fun w entry => WifiRadio.record router ts) hnodup hf]
    rfl

/-- **What is said of a device is what is written of it.** -/
theorem buildRecords_document (hsmall : d.Small)
    (h : validate (.model (telemetryHeartbeat P)) (value py (document tonum d)) =
      some (.dict dump)) :
    buildRecords py router dump ts = .ok (d.points py tonum router ts) := by
  obtain ⟨fields, hdocument, hkeys, hsystem, hethernet, hradios⟩ := document_eq tonum d
  have hnodup : (fields.map Prod.fst).Nodup := hkeys ▸ .of_map _ (documentKeys_nodup d.radios)
  rw [hdocument] at h
  obtain ⟨doc, hdoc, hc⟩ := heartbeatChecked_of_validate h
  rw [record, Json.value_obj] at hdoc
  obtain rfl := PyVal.dict.inj hdoc
  have hpoint := systemRecord_document router ts hsmall ⟨h, hnodup⟩ hsystem
  have hports := filterMap_array router ts (hc.entries .ethernet)
    (fun e entry => EthernetPort.record router ts) hnodup hethernet
  have harrays := radios_document router ts hnodup hkeys hradios (hc.entries .wireless)
    (hc.entries .wifi)
  rw [hc.buildRecords py router ts, hpoint]
  simp only [entriesOf, List.flatMap_cons, List.flatMap_nil, List.append_nil,
    List.filterMap_append, List.filterMap_map, Function.comp_def, hports, harrays]
  rfl

end Document

/-- If the payload of a device is accepted, its points are those of the device. -/
theorem accepted_measured (hplain : ∀ t ∈ d.texts, t.all Json.isPlain = true) (hsmall : d.Small)
    (h : decodeHeartbeat P py (payload tonum d) = some dump) (router : Router) (ts : Timestamp) :
    buildRecords py router dump ts = .ok (d.points py tonum router ts) := by
  obtain ⟨j, hj, hvalid⟩ := decodeHeartbeat_eq_some.mp h
  by_cases hn : Numbered tonum d
  · rw [(numbered_reads_back hn).mpr hplain] at hj
    obtain rfl := Option.some.inj hj
    exact buildRecords_document router ts hsmall hvalid
  · rw [not_loads hn] at hj
    cases hj

end Heartbeat

theorem ReadingIn.small {ge le : Int} {r : Reading} (h : ReadingIn ge le r)
    (hge : -2 ^ 53 ≤ ge) (hle : le ≤ 2 ^ 53) : r.Small :=
  ⟨le_trans (by exact_mod_cast hge) h.1, le_trans h.2 (by exact_mod_cast hle)⟩

theorem Device.InSchema.small {d : Device} (h : d.InSchema) : d.Small where
  temperature r hr := (h.temperature r hr).small (by decide) (by decide)
  voltage r hr := (h.voltage r hr).small (by decide) (by decide)

/-- **A router's measurements arrive.** If the lookups of the serial number, the board and the MAC
address succeed and all frequencies get through, its heartbeat is taken, and its points are those
of the device, with every value that was read in its field. -/
theorem measurements_arrive (P : Pydantic) (py : Python) (tonum : Text → Tonum) {d : Device}
    (h : d.InSchema) (hserial : d.serial.isSome = true) (hboard : d.board.isSome = true)
    (hmac : d.mac.isSome = true) (husable : ∀ t ∈ d.radios.frequencies, (tonum t).Usable) :
    ∃ dump, decodeHeartbeat P py (payload tonum d) = some dump ∧
      ∀ router ts, buildRecords py router dump ts = .ok (d.points py tonum router ts) := by
  have hnumbered : Numbered tonum d := fun t ht => ((Tonum.usable_iff _).mp (husable t ht)).1
  have hfrequencies : ∀ t ∈ d.radios.frequencies, FrequencyIn (tonum t) :=
    fun t ht => ((Tonum.usable_iff _).mp (husable t ht)).2
  have haccepted : HeartbeatAccepted P py (payload tonum d) :=
    (accepted_iff_document h hnumbered).mpr
      ((accepts_document h).mpr ⟨hserial, hboard, hmac, hfrequencies⟩)
  obtain ⟨dump, hdump⟩ := exists_decodeHeartbeat haccepted
  exact ⟨dump, hdump, accepted_measured h.plain h.small hdump⟩

theorem measurements_arrive_small : ∃ dump, decodeHeartbeat smallPydantic smallPython
      (payload digitsTonum (smallDevice "Smith-5G")) = some dump ∧
    ∀ router ts, buildRecords smallPython router dump ts =
      .ok ((smallDevice "Smith-5G").points smallPython digitsTonum router ts) := by
  have husable : (digitsTonum "2437".toList).Usable := by
    rw [digitsTonum_small]
    exact show 0 ≤ Int64.toInt 2437 ∧ Int64.toInt 2437 ≤ 8000 by decide
  exact measurements_arrive smallPydantic smallPython digitsTonum smallDevice_inSchema rfl rfl rfl
    (List.forall_mem_singleton.mpr husable)

end CpeCloud
