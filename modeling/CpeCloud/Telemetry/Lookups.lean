import CpeCloud.Telemetry.RoundTrip
import CpeCloud.Telemetry.Unknown

/-!
# Failed lookups

The guards around the lookups of the script let it go on with an initial value. Where that is the
empty text of a field that is always written, the model of the field does not take it.

* **`heartbeat_accepted_iff`**: a payload of plain values in their ranges is accepted if and only
  if the lookups of the serial number, the board and the MAC address succeed and `:tonum` fails or
  gives a number in range for the frequency of every radio.
* `noSerial_not_accepted`: without a serial number, a heartbeat is refused.
-/

namespace CpeCloud

open Json (natLiteral intLiteral Regular loads value)
open PyVal (Python)
open Schema (Accepts schemaAt)

/-- The body of a heartbeat passes validation, which otherwise is a 422. -/
def HeartbeatAccepted (P : Pydantic) (py : Python) (body : Text) : Prop :=
  ∃ j, loads body = some j ∧ Accepts (.model (telemetryHeartbeat P)) (value py j)

/-! ## Ranges -/

/-- The length is in the range of a field. -/
def LengthIn (minLength maxLength : Nat) (t : Text) : Prop :=
  minLength ≤ t.length ∧ t.length ≤ maxLength

instance (minLength maxLength : Nat) (t : Text) : Decidable (LengthIn minLength maxLength t) :=
  inferInstanceAs (Decidable (_ ∧ _))

/-- The reading is in the range of a field. -/
def ReadingIn (ge le : Int) (reading : Reading) : Prop :=
  (ge : ℚ) ≤ Json.rational reading.1 ∧ Json.rational reading.1 ≤ le

instance (ge le : Int) (reading : Reading) : Decidable (ReadingIn ge le reading) :=
  inferInstanceAs (Decidable (_ ∧ _))

/-- What is read of a classic radio is in range. -/
structure WirelessRadio.InSchema (w : WirelessRadio) : Prop where
  name : LengthIn 1 32 w.name
  ssid : ∀ t ∈ w.ssid, LengthIn 0 64 t
  band : ∀ t ∈ w.band, LengthIn 0 32 t
  channelWidth : ∀ t ∈ w.channelWidth, LengthIn 0 32 t
  txPower : ∀ t ∈ w.txPower, LengthIn 0 16 t
  mode : ∀ t ∈ w.mode, LengthIn 0 32 t

/-- What is read of a wave2 radio is in range. -/
structure WifiRadio.InSchema (w : WifiRadio) : Prop where
  name : LengthIn 1 32 w.name
  ssid : ∀ t ∈ w.ssid, LengthIn 0 64 t
  channel : ∀ t ∈ w.channel, LengthIn 0 32 t
  configuration : ∀ t ∈ w.configuration, LengthIn 0 64 t

/-- What is read of all radios is in range. -/
def Radios.InSchema : Radios → Prop
  | .wireless radios => ∀ w ∈ radios, w.InSchema
  | .wifi radios => ∀ w ∈ radios, w.InSchema

/-- What is read is plain and in range. The frequencies are left aside. -/
structure Device.InSchema (d : Device) : Prop where
  plain : ∀ t ∈ d.texts, t.all Json.isPlain = true
  identity : LengthIn 1 128 d.identity
  serial : ∀ t ∈ d.serial, LengthIn 4 64 t
  board : ∀ t ∈ d.board, LengthIn 1 64 t
  mac : ∀ t ∈ d.mac, isMac t = true
  rosVer : LengthIn 1 32 d.rosVer
  uptime : LengthIn 1 32 d.uptime
  cpuLoad : d.cpuLoad.toNat ≤ 100
  temperature : ∀ r ∈ d.temperature, ReadingIn (-20) 120 r
  voltage : ∀ r ∈ d.voltage, ReadingIn 0 60 r
  ethernet : ∀ e ∈ d.ethernet, LengthIn 1 32 e.name
  radios : d.radios.InSchema

/-- A number is in the range of a frequency. -/
def FrequencyIn : Tonum → Prop
  | .num n => 0 ≤ n.toInt ∧ n.toInt ≤ 8000
  | _ => True

/-! ## Values -/

section

variable {P : Pydantic} {py : Python}

theorem accepts_textWhere {p : Text → Bool} {t : Text} :
    Accepts (textWhere p) (.str t) ↔ p t = true := by
  simp only [Accepts, textWhere, Schema.validate]
  split <;> simp_all

theorem accepts_text {minLength maxLength : Nat} {t : Text} :
    Accepts (textOf minLength maxLength) (.str t) ↔ LengthIn minLength maxLength t := by
  rw [textOf, accepts_textWhere, Bool.and_eq_true, decide_eq_true_iff, decide_eq_true_iff]
  rfl

theorem accepts_int {ge : Int} {le : Option Int} {n : Int} :
    Accepts (intFrom P ge le) (.int n) ↔ ge ≤ n ∧ ∀ m ∈ le, n ≤ m := by
  simp only [Accepts, intFrom, Schema.validate, P.int_int]
  split <;> simp_all

theorem accepts_flag (b : Bool) : Accepts (flag P) (.bool b) := by
  simp only [Accepts, flag, Schema.validate, P.bool_bool]
  rfl

theorem accepts_finite {ge le : Int} {v : PyVal} {q : ℚ} (hv : P.float v = some (.finite q))
    (hq : (ge : ℚ) ≤ q ∧ q ≤ le) : Accepts (floatIn P ge le) v := by
  simp only [Accepts, floatIn, Schema.validate, hv, if_pos hq]
  rfl

/-- A reading in range is accepted, also where it is rounded. -/
theorem accepts_reading {ge le : Int} (hge : ge.natAbs ≤ 2 ^ 53) (hle : le.natAbs ≤ 2 ^ 53)
    {reading : Reading} (h : ReadingIn ge le reading) :
    Accepts (floatIn P ge le) (value py (.num reading.1)) := by
  rcases Json.numberOf_cases py reading.2 with ⟨n, hn, hq⟩ | hround
  · have hrange := h
    rw [ReadingIn, ← hq] at hrange
    have hsmall : n.natAbs ≤ 2 ^ 53 := by
      have hlow : ge ≤ n := by exact_mod_cast hrange.1
      have hhigh : n ≤ le := by exact_mod_cast hrange.2
      omega
    exact accepts_finite ((congrArg P.float hn).trans (P.float_int n hsmall)) hrange
  · obtain ⟨x, hx, hrange⟩ := py.round_mem hge hle h.1 h.2
    rw [hx] at hround
    exact accepts_finite ((congrArg P.float hround).trans (P.float_float _)) hrange

theorem value_ne_null {j : Json} (h : j ≠ .null) : value py j ≠ .null := by
  cases j with
  | null => exact absurd rfl h
  | num literal =>
    intro heq
    simp only [value, Json.fold, Json.valueFold, Json.numberOf] at heq
    repeat' split at heq
    all_goals cases heq
  | _ =>
    intro heq
    cases heq

/-! ## Records -/

/-- The schema of a field accepts its value. -/
def Fits (py : Python) (fields : Fields) (key : String) (j : Json) : Prop :=
  ∀ schema ∈ schemaAt fields key.toList, Accepts schema (value py j)

theorem fits_iff {fields : Fields} {key : String} {j : Json} {schema : Schema}
    (h : schemaAt fields key.toList = some schema) :
    Fits py fields key j ↔ Accepts schema (value py j) := by
  rw [Fits, h]
  exact ⟨fun hs => hs schema rfl, fun hs _ heq => Option.some.inj heq ▸ hs⟩

theorem mem_keys_present {key : Text} {fields : List (String × Option Json)} :
    key ∈ (present fields).map Prod.fst ↔ ∃ f ∈ fields, f.2.isSome = true ∧ f.1.toList = key := by
  simp only [present, List.mem_map, List.mem_filterMap, Option.map_eq_some_iff,
    Option.isSome_iff_exists]
  constructor
  · rintro ⟨_, ⟨f, hf, j, hj, rfl⟩, rfl⟩
    exact ⟨f, hf, ⟨j, hj⟩, rfl⟩
  · rintro ⟨f, hf, ⟨j, hj⟩, rfl⟩
    exact ⟨_, ⟨f, hf, j, hj, rfl⟩, rfl⟩

/-- **A model accepts a record whose fields fit**, and that has what is required. -/
theorem accepts_record {fields : List (String × Option Json)} {schema : Fields}
    (hschema : Schema.distinctFields schema = true) (keys : List String)
    (hkeys : fields.map Prod.fst = keys) (hd : (keys.map String.toList).Nodup)
    (hnull : ∀ f ∈ fields, OnValue (fun j => j ≠ .null) f.2) :
    Accepts (.model schema) (value py (record fields)) ↔
      (∀ f ∈ fields, OnValue (Fits py schema f.1) f.2) ∧
        ∀ key ∈ Schema.requiredNames schema, ∃ f ∈ fields, f.2.isSome = true ∧
          f.1.toList = key := by
  have hfst : ((present fields).map fun m => (m.1, value py m.2)).map Prod.fst =
      (present fields).map Prod.fst := by
    rw [List.map_map]
    rfl
  have hnodup : ((present fields).map Prod.fst).Nodup := by
    rw [← hkeys, List.map_map] at hd
    exact List.Nodup.sublist (keys_present fields) hd
  have hvalues : ∀ m ∈ (present fields).map fun m => (m.1, value py m.2), m.2 ≠ .null :=
    List.forall_mem_map.mpr fun m hm => value_ne_null
      (@forall_present (fun _ j => j ≠ .null) fields |>.mpr hnull m hm)
  have hfits := @forall_present
    (fun key j => ∀ s ∈ schemaAt schema key, Accepts s (value py j)) fields
  rw [record, Json.value_obj, Schema.accepts_model hschema (hfst ▸ hnodup) hvalues,
    List.forall_mem_map, hfst, hfits]
  exact and_congr Iff.rfl (forall₂_congr fun key _ => mem_keys_present)

/-! ### Fields -/

theorem fits_text {fields : Fields} {key : String} {minLength maxLength : Nat} {t : Text}
    (h : schemaAt fields key.toList = some (textOf minLength maxLength)) :
    Fits py fields key (.str t) ↔ LengthIn minLength maxLength t :=
  (fits_iff h).trans accepts_text

theorem fits_bool {fields : Fields} {key : String} {b : Bool}
    (h : schemaAt fields key.toList = some (flag P)) : Fits py fields key (.bool b) :=
  (fits_iff h).mpr (accepts_flag b)

theorem value_count (n : UInt64) : value py (count n) = .int n.toNat :=
  Json.numberOf_natLiteral py n.toNat

theorem fits_count {fields : Fields} {key : String} {le : Option Int} {n : UInt64}
    (h : schemaAt fields key.toList = some (intFrom P 0 le)) (hle : ∀ m ∈ le, n.toNat ≤ m) :
    Fits py fields key (count n) := by
  rw [fits_iff h, value_count]
  exact accepts_int.mpr ⟨Int.natCast_nonneg _, hle⟩

theorem length_looked {o : Option Text} {n : Nat} (h : ∀ t ∈ o, LengthIn 0 n t) :
    LengthIn 0 n (looked o) := by
  cases o with
  | none => exact ⟨Nat.le_refl 0, Nat.zero_le n⟩
  | some t => exact h t rfl

theorem fits_nonempty {fields : Fields} {key : String} {n : Nat} {o : Option Text}
    (h : schemaAt fields key.toList = some (textOf 0 n)) (ho : ∀ t ∈ o, LengthIn 0 n t) :
    OnValue (Fits py fields key) (nonempty (looked o)) :=
  onValue_nonempty ((fits_text h).mpr (length_looked ho))

theorem fits_reading {fields : Fields} {key : String} {ge le : Int} {reading : Option Reading}
    (h : schemaAt fields key.toList = some (floatIn P ge le)) (hge : ge.natAbs ≤ 2 ^ 53)
    (hle : le.natAbs ≤ 2 ^ 53) (hr : ∀ r ∈ reading, ReadingIn ge le r) :
    OnValue (Fits py fields key) (readingValue reading) :=
  onValue_reading fun r hmem => (fits_iff h).mpr (accepts_reading hge hle (hr r hmem))

theorem fits_frequency {fields : Fields} {key : String} {frequency : Tonum}
    (h : schemaAt fields key.toList = some (intFrom P 0 (some 8000))) :
    OnValue (Fits py fields key) (frequencyValue frequency) ↔ FrequencyIn frequency := by
  cases frequency with
  | num n =>
    have hvalue : value py (.num (intLiteral n.toInt)) = .int n.toInt :=
      Json.numberOf_intLiteral py n.toInt
    rw [frequencyValue, onValue_some, fits_iff h, hvalue, accepts_int]
    simp [FrequencyIn]
  | _ => exact iff_of_true onValue_none trivial

/-- The counters fit in any model that has them. -/
theorem fits_counters {fields : Fields} {c : InterfaceCounters}
    (hrxb : schemaAt fields "rx_bytes".toList = some (intFrom P 0 none))
    (htxb : schemaAt fields "tx_bytes".toList = some (intFrom P 0 none))
    (hrxp : schemaAt fields "rx_packets".toList = some (intFrom P 0 none))
    (htxp : schemaAt fields "tx_packets".toList = some (intFrom P 0 none)) :
    ∀ f ∈ counterValues c, OnValue (Fits py fields f.1) f.2 := by
  have hnone (n : UInt64) : ∀ m ∈ (none : Option Int), (n.toNat : Int) ≤ m :=
    fun m hm => absurd hm (Option.not_mem_none m)
  simp only [counterValues, List.forall_mem_cons, onValue_some]
  exact ⟨fits_count hrxb (hnone _), fits_count htxb (hnone _), fits_count hrxp (hnone _),
    fits_count htxp (hnone _), List.forall_mem_nil _⟩

/-! ### No field is `null` -/

theorem notNull_nonempty (value : Text) : OnValue (fun j => j ≠ .null) (nonempty value) :=
  onValue_nonempty fun heq => nomatch heq

theorem notNull_frequency (frequency : Tonum) :
    OnValue (fun j => j ≠ .null) (frequencyValue frequency) :=
  onValue_frequency fun _ heq => nomatch heq

theorem notNull_reading (reading : Option Reading) :
    OnValue (fun j => j ≠ .null) (readingValue reading) :=
  onValue_reading fun _ _ heq => nomatch heq

theorem notNull_counters (c : InterfaceCounters) :
    ∀ f ∈ counterValues c, OnValue (fun j => j ≠ .null) f.2 := by
  simp [counterValues, onValue_some, count]

/-! ## The models -/

/-- The required field of the interfaces. -/
theorem has_name {j : Json} {fields : List (String × Option Json)} :
    ∀ key ∈ ["name".toList], ∃ f ∈ ("name", some j) :: fields,
      f.2.isSome = true ∧ f.1.toList = key := by
  intro key hkey
  obtain rfl := List.mem_singleton.mp hkey
  exact ⟨_, List.mem_cons_self, rfl, rfl⟩

theorem accepts_ethernet {e : EthernetPort} (h : LengthIn 1 32 e.name) :
    Accepts (.model (telemetryEthernet P)) (value py (ethernetDocument e)) := by
  refine (accepts_record rfl ethernetKeys rfl (by decide) ?_).mpr ⟨?_, has_name⟩
  · simp only [List.forall_mem_append, List.forall_mem_cons, onValue_some]
    exact ⟨⟨nofun, nofun, nofun⟩, notNull_counters e.counters⟩
  · simp only [List.forall_mem_append, List.forall_mem_cons, onValue_some]
    exact ⟨⟨(fits_text rfl).mpr h, fits_bool (P := P) rfl, nofun⟩,
      fits_counters (P := P) rfl rfl rfl rfl⟩

theorem accepts_wireless {tonum : Text → Tonum} {w : WirelessRadio} (h : w.InSchema) :
    Accepts (.model (telemetryWirelessIf P)) (value py (wirelessDocument tonum w)) ↔
      FrequencyIn (tonum (looked w.frequency)) := by
  refine (accepts_record rfl wirelessKeys rfl (by decide) ?_).trans ?_
  · simp only [List.forall_mem_append, List.forall_mem_cons, onValue_some]
    exact ⟨⟨⟨nofun, nofun, nofun⟩, notNull_counters w.counters⟩, notNull_nonempty _,
      notNull_nonempty _, notNull_frequency _, notNull_nonempty _, notNull_nonempty _,
      notNull_nonempty _, nofun⟩
  · simp only [List.forall_mem_append, List.forall_mem_cons, onValue_some]
    constructor
    · rintro ⟨⟨-, -, -, hfrequency, -⟩, -⟩
      exact (fits_frequency rfl).mp hfrequency
    · intro hfrequency
      exact ⟨⟨⟨⟨(fits_text rfl).mpr h.name, fits_bool (P := P) rfl, nofun⟩,
        fits_counters (P := P) rfl rfl rfl rfl⟩, fits_nonempty rfl h.ssid, fits_nonempty rfl h.band,
        (fits_frequency rfl).mpr hfrequency, fits_nonempty rfl h.channelWidth,
        fits_nonempty rfl h.txPower, fits_nonempty rfl h.mode, nofun⟩, has_name⟩

theorem accepts_wifi {w : WifiRadio} (h : w.InSchema) :
    Accepts (.model (telemetryWifiIf P)) (value py (wifiDocument w)) := by
  refine (accepts_record rfl wifiKeys rfl (by decide) ?_).mpr ⟨?_, has_name⟩
  · simp only [List.forall_mem_append, List.forall_mem_cons, onValue_some]
    exact ⟨⟨⟨nofun, nofun, nofun⟩, notNull_counters w.counters⟩, notNull_nonempty _,
      notNull_nonempty _, notNull_nonempty _, nofun⟩
  · simp only [List.forall_mem_append, List.forall_mem_cons, onValue_some]
    exact ⟨⟨⟨(fits_text rfl).mpr h.name, fits_bool (P := P) rfl, nofun⟩,
      fits_counters (P := P) rfl rfl rfl rfl⟩, fits_nonempty rfl h.ssid,
      fits_nonempty rfl h.channel, fits_nonempty rfl h.configuration, nofun⟩

theorem accepts_system {d : Device} (h : d.InSchema) :
    Accepts (.model (telemetrySystem P)) (value py (systemDocument d)) := by
  have hcpu : ∀ m ∈ some (100 : Int), (d.cpuLoad.toNat : Int) ≤ m := by
    rintro _ ⟨⟩
    exact_mod_cast h.cpuLoad
  refine (accepts_record rfl systemKeys rfl (by decide) ?_).mpr ⟨?_, nofun⟩
  · simp only [List.forall_mem_cons, onValue_some]
    exact ⟨nofun, nofun, nofun, nofun, notNull_reading _, notNull_reading _, nofun⟩
  · simp only [List.forall_mem_cons, onValue_some]
    exact ⟨(fits_text rfl).mpr h.uptime, fits_count (P := P) rfl hcpu,
      fits_count (P := P) rfl nofun, fits_count (P := P) rfl nofun,
      fits_reading (P := P) rfl (by decide) (by decide) h.temperature,
      fits_reading (P := P) rfl (by decide) (by decide) h.voltage, nofun⟩

theorem accepts_radios {tonum : Text → Tonum} {radios : Radios} (h : radios.InSchema) :
    Fits py (telemetryHeartbeat P) radios.key (.arr (radios.documents tonum)) ↔
      ∀ t ∈ radios.frequencies, FrequencyIn (tonum t) := by
  cases radios with
  | wireless radios =>
    rw [Radios.key, fits_iff (show _ = some (.list (.model (telemetryWirelessIf P))) from rfl),
      Json.value_arr, Schema.accepts_list, Radios.documents, List.map_map, List.forall_mem_map,
      Radios.frequencies, List.forall_mem_map]
    exact forall₂_congr fun w hw => accepts_wireless (h w hw)
  | wifi radios =>
    rw [Radios.key, fits_iff (show _ = some (.list (.model (telemetryWifiIf P))) from rfl),
      Json.value_arr, Schema.accepts_list, Radios.documents, List.map_map, List.forall_mem_map]
    exact iff_of_true (fun w hw => accepts_wifi (h w hw)) (List.forall_mem_nil _)

theorem fits_ports {ports : List EthernetPort} (h : ∀ e ∈ ports, LengthIn 1 32 e.name) :
    Fits py (telemetryHeartbeat P) "ethernet" (.arr (ports.map ethernetDocument)) := by
  rw [fits_iff (show _ = some (.list (.model (telemetryEthernet P))) from rfl), Json.value_arr,
    Schema.accepts_list, List.map_map, List.forall_mem_map]
  exact fun e he => accepts_ethernet (h e he)

theorem fits_stackName (radios : Radios) :
    Fits py (telemetryHeartbeat P) "wifi_stack" (.str radios.stackName.toList) := by
  refine (fits_iff rfl).mpr (accepts_textWhere.mpr ?_)
  rw [Bool.or_eq_true, decide_eq_true_iff, decide_eq_true_iff]
  cases radios with
  | wireless radios => exact Or.inl rfl
  | wifi radios => exact Or.inr rfl

theorem fits_version : Fits py (telemetryHeartbeat P) "schema_version" (.num ['1']) := by
  have hone : value py (.num ['1']) = .int 1 := Json.numberOf_natLiteral py 1
  rw [fits_iff (show _ = some (intFrom P 1 (some 100)) from rfl), hone]
  exact accepts_int.mpr ⟨by decide, by rintro _ ⟨⟩; decide⟩

/-- The required fields of a heartbeat. -/
theorem has_identity {fields : List (String × Option Json)} {identity stack : Json}
    (hidentity : ("identity", some identity) ∈ fields)
    (hstack : ("wifi_stack", some stack) ∈ fields) :
    ∀ key ∈ Schema.requiredNames (telemetryHeartbeat P),
      ∃ f ∈ fields, f.2.isSome = true ∧ f.1.toList = key :=
  List.forall_mem_cons.mpr
    ⟨⟨_, hidentity, rfl, rfl⟩, List.forall_mem_singleton.mpr ⟨_, hstack, rfl, rfl⟩⟩

/-- What is looked up has a property of what is read, if the empty text does not have it. -/
theorem looked_iff {Q : Text → Prop} {o : Option Text} (hempty : ¬Q []) (h : ∀ t ∈ o, Q t) :
    Q (looked o) ↔ o.isSome = true := by
  cases o with
  | none => exact iff_of_false hempty nofun
  | some t => exact iff_of_true (h t rfl) rfl

/-- **What is said of a device is accepted** if and only if the three lookups succeed and no
frequency is out of range. -/
theorem accepts_document {tonum : Text → Tonum} {d : Device} (h : d.InSchema) :
    Accepts (.model (telemetryHeartbeat P)) (value py (document tonum d)) ↔
      d.serial.isSome = true ∧ d.board.isSome = true ∧ d.mac.isSome = true ∧
        ∀ t ∈ d.radios.frequencies, FrequencyIn (tonum t) := by
  have hserial : Fits py (telemetryHeartbeat P) "serial" (.str (looked d.serial)) ↔
      d.serial.isSome = true :=
    (fits_text rfl).trans (looked_iff (by decide) h.serial)
  have hmac : Fits py (telemetryHeartbeat P) "mac" (.str (looked d.mac)) ↔ d.mac.isSome = true :=
    (fits_iff rfl).trans (accepts_textWhere.trans
      (looked_iff (Q := fun t => isMac t = true) (by decide) h.mac))
  have hboard : Fits py (telemetryHeartbeat P) "board" (.str (looked d.board)) ↔
      d.board.isSome = true :=
    (fits_text rfl).trans (looked_iff (by decide) h.board)
  refine (accepts_record rfl (documentKeys d.radios) rfl (documentKeys_nodup d.radios) ?_).trans ?_
  · simp only [List.forall_mem_cons, onValue_some]
    exact ⟨nofun, nofun, nofun, nofun, nofun, nofun, nofun, nofun, nofun, nofun, nofun⟩
  · simp only [List.forall_mem_cons, onValue_some, hserial, hmac, hboard, accepts_radios h.radios]
    constructor
    · rintro ⟨⟨-, -, hs, hm, hb, -, -, -, -, hr, -⟩, -⟩
      exact ⟨hs, hb, hm, hr⟩
    · rintro ⟨hs, hb, hm, hr⟩
      exact ⟨⟨fits_version, (fits_text rfl).mpr h.identity, hs, hm, hb,
        (fits_text rfl).mpr h.rosVer, fits_stackName d.radios,
        (fits_iff rfl).mpr (accepts_system h), fits_ports h.ethernet, hr, nofun⟩,
        has_identity (List.mem_of_getElem? (i := 1) rfl) (List.mem_of_getElem? (i := 6) rfl)⟩

end

/-! ## Heartbeats -/

/-- What `:tonum` does with a frequency gets through: no field, or a number in range. -/
def Tonum.Usable : Tonum → Prop
  | .error => True
  | .nothing => False
  | .num n => 0 ≤ n.toInt ∧ n.toInt ≤ 8000

theorem Tonum.usable_iff (frequency : Tonum) :
    frequency.Usable ↔ frequency ≠ .nothing ∧ FrequencyIn frequency := by
  cases frequency with
  | error => exact iff_of_true trivial ⟨nofun, trivial⟩
  | nothing => exact iff_of_false nofun fun h => h.1 rfl
  | num n => exact (and_iff_right nofun).symm

/-- A payload is accepted if and only if the document it says is accepted. -/
theorem accepted_iff_document {P : Pydantic} {py : Python} {tonum : Text → Tonum} {d : Device}
    (h : d.InSchema) (hn : Numbered tonum d) : HeartbeatAccepted P py (payload tonum d) ↔
      Accepts (.model (telemetryHeartbeat P)) (value py (document tonum d)) := by
  have hloads := (numbered_reads_back hn).mpr h.plain
  rw [HeartbeatAccepted, hloads]
  constructor
  · rintro ⟨j, hj, haccepts⟩
    rwa [Option.some.inj hj]
  · exact fun haccepts => ⟨_, rfl, haccepts⟩

/-- **A heartbeat is accepted** if and only if the three lookups succeed and all frequencies get
through. -/
theorem heartbeat_accepted_iff (P : Pydantic) (py : Python) (tonum : Text → Tonum) {d : Device}
    (h : d.InSchema) : HeartbeatAccepted P py (payload tonum d) ↔
      d.serial.isSome = true ∧ d.board.isSome = true ∧ d.mac.isSome = true ∧
        ∀ t ∈ d.radios.frequencies, (tonum t).Usable := by
  by_cases hn : Numbered tonum d
  · rw [accepted_iff_document h hn, accepts_document h]
    refine and_congr Iff.rfl (and_congr Iff.rfl (and_congr Iff.rfl (forall₂_congr fun t ht => ?_)))
    rw [Tonum.usable_iff]
    exact (and_iff_right (hn t ht)).symm
  · refine iff_of_false ?_ fun hall => hn fun t ht => ((Tonum.usable_iff _).mp (hall.2.2.2 t ht)).1
    rintro ⟨j, hj, -⟩
    rw [not_loads hn] at hj
    cases hj

/-! ## A device without a serial number -/

/-- The lookup of the serial number fails. -/
def Device.withoutSerial (d : Device) : Device := { d with serial := none }

/-- What is read besides stays in range. -/
theorem Device.InSchema.withoutSerial {d : Device} (h : d.InSchema) : d.withoutSerial.InSchema :=
  { h with
    plain := by
      have hplain := h.plain
      simp only [Device.texts, List.forall_mem_append, List.forall_mem_cons] at hplain ⊢
      exact ⟨⟨⟨hplain.1.1.1, rfl, hplain.1.1.2.2⟩, hplain.1.2⟩, hplain.2⟩
    serial := nofun }

theorem smallDevice_inSchema : (smallDevice "Smith-5G").InSchema where
  plain := by decide +kernel
  identity := by decide
  serial := by rintro _ ⟨⟩; decide
  board := by rintro _ ⟨⟩; decide
  mac := by rintro _ ⟨⟩; decide
  rosVer := by decide
  uptime := by decide
  cpuLoad := by decide
  temperature := by rintro _ ⟨⟩; decide +kernel
  voltage := by rintro _ ⟨⟩; decide +kernel
  ethernet := List.forall_mem_singleton.mpr (by decide)
  radios := List.forall_mem_singleton.mpr {
    name := by decide
    ssid := by rintro _ ⟨⟩; decide
    band := by rintro _ ⟨⟩; decide
    channelWidth := by rintro _ ⟨⟩; decide
    txPower := by rintro _ ⟨⟩; decide
    mode := by rintro _ ⟨⟩; decide }

theorem digitsTonum_small : digitsTonum "2437".toList = .num 2437 := by decide +kernel

theorem heartbeat_accepted_small :
    HeartbeatAccepted smallPydantic smallPython (payload digitsTonum (smallDevice "Smith-5G")) := by
  have husable : (digitsTonum "2437".toList).Usable := by
    rw [digitsTonum_small]
    exact show 0 ≤ Int64.toInt 2437 ∧ Int64.toInt 2437 ≤ 8000 by decide
  exact (heartbeat_accepted_iff smallPydantic smallPython digitsTonum smallDevice_inSchema).mpr
    ⟨rfl, rfl, rfl, List.forall_mem_singleton.mpr husable⟩

theorem noSerial_not_accepted : (smallDevice "Smith-5G").withoutSerial.InSchema ∧
    ¬HeartbeatAccepted smallPydantic smallPython
      (payload digitsTonum (smallDevice "Smith-5G").withoutSerial) := by
  have hschema := smallDevice_inSchema.withoutSerial
  have hvalue : digitsTonum "2437".toList ≠ .nothing := by
    rw [digitsTonum_small]
    exact nofun
  have hnumbered : Numbered digitsTonum (smallDevice "Smith-5G").withoutSerial :=
    List.forall_mem_singleton.mpr hvalue
  refine ⟨hschema, fun haccepted => ?_⟩
  rw [accepted_iff_document hschema hnumbered, accepts_document hschema] at haccepted
  exact nomatch haccepted.1

end CpeCloud
