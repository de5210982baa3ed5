import CpeCloud.Telemetry.Script

/-!
# The payload, read back

`document` is what a payload is meant to say: the values that were looked up under their names, the
interfaces in order, and no field for an empty text or a frequency that is no number. The script
writes it without escapes.

* `payload_eq`: the payload is the text of that document, unless `:tonum` gives no value for the
  frequency of a radio.
* **`payload_reads_back_iff`**: it is read back as that document if and only if every text in it is
  plain, too.
* `quotedSsid_not_read`: a quote in the name of a network makes the payload unreadable.
-/

namespace CpeCloud

open Json (quoted member natLiteral intLiteral verbatim IsPlain Regular loads)

/-! ## Records -/

/-- The fields that are there. -/
def present (fields : List (String × Option Json)) : List (Text × Json) :=
  fields.filterMap fun f => f.2.map fun j => (f.1.toList, j)

/-- The object with these fields. -/
def record (fields : List (String × Option Json)) : Json := .obj (present fields)

/-- A property of the value, if there is one. -/
def OnValue (P : Json → Prop) (value : Option Json) : Prop := ∀ j ∈ value, P j

theorem onValue_some {P : Json → Prop} {j : Json} : OnValue P (some j) ↔ P j :=
  ⟨fun h => h j rfl, fun h _ hj => Option.some.inj hj ▸ h⟩

theorem onValue_none {P : Json → Prop} : OnValue P none := fun _ hj => nomatch hj

theorem forall_present {P : Text → Json → Prop} {fields : List (String × Option Json)} :
    (∀ m ∈ present fields, P m.1 m.2) ↔ ∀ f ∈ fields, OnValue (P f.1.toList) f.2 := by
  simp only [present, List.mem_filterMap, Option.map_eq_some_iff, OnValue]
  constructor
  · exact fun h f hf j hj => h _ ⟨f, hf, j, hj, rfl⟩
  · rintro h _ ⟨f, hf, j, hj, rfl⟩
    exact h f hf j hj

theorem keys_present (fields : List (String × Option Json)) :
    ((present fields).map Prod.fst).Sublist (fields.map fun f => f.1.toList) := by
  induction fields with
  | nil => exact List.Sublist.refl _
  | cons f fields ih =>
    obtain ⟨key, o⟩ := f
    cases o with
    | none => exact ih.cons _
    | some j => exact ih.cons_cons _

theorem regular_record {fields : List (String × Option Json)} (keys : List String)
    (hkeys : fields.map Prod.fst = keys) (hd : (keys.map String.toList).Nodup)
    (h : ∀ f ∈ fields, OnValue Regular f.2) : Regular (record fields) := by
  refine Json.regular_obj.mpr ⟨List.Nodup.sublist (keys_present fields) ?_, fun m hm => ?_⟩
  · rwa [← hkeys, List.map_map] at hd
  · exact forall_present (P := fun _ j => Regular j).mpr h m hm

theorem isPlain_record {fields : List (String × Option Json)} (keys : List String)
    (hkeys : fields.map Prod.fst = keys)
    (h : ∀ key ∈ keys, key.toList.all Json.isPlain = true) :
    IsPlain (record fields) ↔ ∀ f ∈ fields, OnValue IsPlain f.2 := by
  subst hkeys
  have hplain := List.forall_mem_map.mp h
  have hall := @forall_present (fun key j => key.all Json.isPlain = true ∧ IsPlain j) fields
  rw [record, Json.isPlain_obj, hall]
  exact forall₂_congr fun f hf => forall₂_congr fun j _ => and_iff_right (hplain f hf)

/-- The members behind the first one. -/
def more (members : List (Text × Json)) : Text :=
  (members.map fun m => member m.1 (verbatim m.2)).flatMap fun t => ',' :: t

theorem verbatim_record (key : String) (value : Json) (fields : List (String × Option Json)) :
    verbatim (record ((key, some value) :: fields)) =
      '{' :: field key (verbatim value) ++ more (present fields) ++ ['\x7d'] := by
  have hpresent : present ((key, some value) :: fields) =
    (key.toList, value) :: present fields := rfl
  rw [record, hpresent, Json.verbatim_obj, List.map_cons, Json.joined, more, field]
  rfl

theorem more_some (key : String) (value : Json) (fields : List (String × Option Json)) :
    more (present ((key, some value) :: fields)) =
      ',' :: field key (verbatim value) ++ more (present fields) := rfl

/-! ## The document -/

/-- A text that may be empty. -/
def nonempty (value : Text) : Option Json := if 0 < value.length then some (.str value) else none

/-- A frequency that may be no number. -/
def frequencyValue : Tonum → Option Json
  | .num n => some (.num (intLiteral n.toInt))
  | _ => none

/-- A sensor that may be missing. -/
def readingValue (reading : Option Reading) : Option Json := reading.map fun r => .num r.1

theorem onValue_nonempty {P : Json → Prop} {value : Text} (h : P (.str value)) :
    OnValue P (nonempty value) := by
  unfold nonempty
  split
  · exact onValue_some.mpr h
  · exact onValue_none

theorem onValue_frequency {P : Json → Prop} {frequency : Tonum}
    (h : ∀ n : Int64, P (.num (intLiteral n.toInt))) : OnValue P (frequencyValue frequency) := by
  cases frequency with
  | num n => exact onValue_some.mpr (h n)
  | _ => exact onValue_none

theorem onValue_reading {P : Json → Prop} {reading : Option Reading}
    (h : ∀ r ∈ reading, P (.num r.1)) : OnValue P (readingValue reading) := by
  cases reading with
  | none => exact onValue_none
  | some r => exact onValue_some.mpr (h r rfl)

/-- A counter. -/
def count (value : UInt64) : Json := .num (natLiteral value.toNat)

/-- The counters of an interface. -/
def counterValues (c : InterfaceCounters) : List (String × Option Json) :=
  [("rx_bytes", some (count c.rxByte)), ("tx_bytes", some (count c.txByte)),
    ("rx_packets", some (count c.rxPacket)), ("tx_packets", some (count c.txPacket))]

/-- An ethernet interface. -/
def ethernetDocument (e : EthernetPort) : Json :=
  record ([("name", some (.str e.name)), ("running", some (.bool e.running))] ++
    counterValues e.counters)

/-- A classic radio. -/
def wirelessDocument (tonum : Text → Tonum) (w : WirelessRadio) : Json :=
  record ([("name", some (.str w.name)), ("disabled", some (.bool (w.disabled.getD true)))] ++
    counterValues w.counters ++
    [("ssid", nonempty (looked w.ssid)), ("band", nonempty (looked w.band)),
      ("frequency", frequencyValue (tonum (looked w.frequency))),
      ("channel_width", nonempty (looked w.channelWidth)),
      ("tx_power", nonempty (looked w.txPower)), ("mode", nonempty (looked w.mode))])

/-- A wave2 radio. -/
def wifiDocument (w : WifiRadio) : Json :=
  record ([("name", some (.str w.name)), ("disabled", some (.bool (w.disabled.getD true)))] ++
    counterValues w.counters ++
    [("ssid", nonempty (looked w.ssid)), ("channel", nonempty (looked w.channel)),
      ("configuration", nonempty (looked w.configuration))])

/-- The system metrics. -/
def systemDocument (d : Device) : Json :=
  record [("uptime", some (.str d.uptime)), ("cpu_load_pct", some (count d.cpuLoad)),
    ("free_memory_bytes", some (count d.freeMem)), ("total_memory_bytes", some (count d.totalMem)),
    ("temperature_c", readingValue d.temperature), ("voltage_v", readingValue d.voltage)]

/-- The name of the array of the radios. -/
def Radios.key : Radios → String
  | .wireless _ => "wireless_interfaces"
  | .wifi _ => "wifi_interfaces"

theorem Radios.key_cases (radios : Radios) :
    radios.key = "wireless_interfaces" ∨ radios.key = "wifi_interfaces" := by
  cases radios with
  | wireless radios => exact Or.inl rfl
  | wifi radios => exact Or.inr rfl

/-- The radios. -/
def Radios.documents (tonum : Text → Tonum) : Radios → List Json
  | .wireless radios => radios.map (wirelessDocument tonum)
  | .wifi radios => radios.map wifiDocument

/-- What the payload says. -/
def document (tonum : Text → Tonum) (d : Device) : Json :=
  record [("schema_version", some (.num ['1'])), ("identity", some (.str d.identity)),
    ("serial", some (.str (looked d.serial))), ("mac", some (.str (looked d.mac))),
    ("board", some (.str (looked d.board))), ("ros_version", some (.str d.rosVer)),
    ("wifi_stack", some (.str d.radios.stackName.toList)), ("system", some (systemDocument d)),
    ("ethernet", some (.arr (d.ethernet.map ethernetDocument))),
    (d.radios.key, some (.arr (d.radios.documents tonum)))]

/-- The names of the counters. -/
def counterKeys : List String := ["rx_bytes", "tx_bytes", "rx_packets", "tx_packets"]

/-- The names of the fields of each record. -/
def ethernetKeys : List String := ["name", "running"] ++ counterKeys

def wirelessKeys : List String :=
  ["name", "disabled"] ++ counterKeys ++
    ["ssid", "band", "frequency", "channel_width", "tx_power", "mode"]

def wifiKeys : List String :=
  ["name", "disabled"] ++ counterKeys ++ ["ssid", "channel", "configuration"]

def systemKeys : List String :=
  ["uptime", "cpu_load_pct", "free_memory_bytes", "total_memory_bytes", "temperature_c",
    "voltage_v"]

def documentKeys (radios : Radios) : List String :=
  ["schema_version", "identity", "serial", "mac", "board", "ros_version", "wifi_stack", "system",
    "ethernet", radios.key]

theorem documentKeys_nodup (radios : Radios) :
    ((documentKeys radios).map String.toList).Nodup := by
  rcases radios.key_cases with h | h <;> rw [documentKeys, h] <;> decide

/-! ## The conditions -/

/-- The texts of a legacy radio that are quoted. -/
def WirelessRadio.texts (w : WirelessRadio) : List Text :=
  [w.name, looked w.ssid, looked w.band, looked w.channelWidth, looked w.txPower, looked w.mode]

/-- The texts of a wave2 radio that are quoted. -/
def WifiRadio.texts (w : WifiRadio) : List Text :=
  [w.name, looked w.ssid, looked w.channel, looked w.configuration]

/-- The texts of all radios. -/
def Radios.texts : Radios → List Text
  | .wireless radios => radios.flatMap WirelessRadio.texts
  | .wifi radios => radios.flatMap WifiRadio.texts

/-- The texts of a device that are quoted. -/
def Device.texts (d : Device) : List Text :=
  [d.identity, looked d.serial, looked d.mac, looked d.board, d.rosVer, d.uptime] ++
    d.ethernet.map EthernetPort.name ++ d.radios.texts

/-- The frequencies of the radios, as texts. -/
def Radios.frequencies : Radios → List Text
  | .wireless radios => radios.map fun w => looked w.frequency
  | .wifi _ => []

/-- `:tonum` fails or gives a number for the frequency of every radio. -/
def Numbered (tonum : Text → Tonum) (d : Device) : Prop :=
  ∀ t ∈ d.radios.frequencies, tonum t ≠ .nothing

/-! ## The payload is the text of the document -/

theorem more_nonempty (key : String) (value : Text) (fields : List (String × Option Json)) :
    more (present ((key, nonempty value) :: fields)) =
      putText key value ++ more (present fields) := by
  unfold nonempty putText
  split
  · rfl
  · rfl

theorem more_reading (key : String) (reading : Option Reading)
    (fields : List (String × Option Json)) :
    more (present ((key, readingValue reading) :: fields)) =
      putReading key reading ++ more (present fields) := by
  cases reading with
  | none => rfl
  | some reading => rfl

theorem more_frequency {frequency : Tonum} (h : frequency ≠ .nothing)
    (fields : List (String × Option Json)) :
    more (present (("frequency", frequencyValue frequency) :: fields)) =
      putFrequency frequency ++ more (present fields) := by
  cases frequency with
  | error => rfl
  | nothing => exact absurd rfl h
  | num n => exact more_some "frequency" (.num (intLiteral n.toInt)) fields

theorem more_nil : more (present []) = [] := rfl

theorem field_quoted (key : String) (value : Text) :
    field key (verbatim (.str value)) = quotedField key value := rfl

theorem field_count (key : String) (value : UInt64) :
    field key (verbatim (count value)) = countField key value := rfl

theorem field_bool (key : String) (value : Bool) :
    field key (verbatim (.bool value)) = boolField key value := rfl

theorem more_counters (c : InterfaceCounters) (fields : List (String × Option Json)) :
    more (present (counterValues c ++ fields)) =
      ',' :: counterFields c ++ more (present fields) := by
  simp only [counterValues, List.cons_append, List.nil_append, more_some, field_count,
    counterFields, List.append_assoc]

theorem verbatim_ethernet (e : EthernetPort) :
    verbatim (ethernetDocument e) = ethernetEntry e := by
  have hcounters := more_counters e.counters []
  rw [List.append_nil] at hcounters
  simp only [ethernetDocument, List.cons_append, List.nil_append, verbatim_record, more_some,
    hcounters, more_nil, field_quoted, field_bool, ethernetEntry, List.append_assoc]

theorem verbatim_wireless {tonum : Text → Tonum} {w : WirelessRadio}
    (h : tonum (looked w.frequency) ≠ .nothing) :
    verbatim (wirelessDocument tonum w) = wirelessEntry tonum w := by
  simp only [wirelessDocument, List.cons_append, List.nil_append, List.append_assoc,
    verbatim_record, more_some, more_counters, more_nonempty, more_frequency h, more_nil,
    field_quoted, field_bool, wirelessEntry]

theorem verbatim_wifi (w : WifiRadio) : verbatim (wifiDocument w) = wifiEntry w := by
  simp only [wifiDocument, List.cons_append, List.nil_append, List.append_assoc, verbatim_record,
    more_some, more_counters, more_nonempty, more_nil, field_quoted, field_bool, wifiEntry]

theorem verbatim_system (d : Device) : verbatim (systemDocument d) = systemFields d := by
  simp only [systemDocument, verbatim_record, more_some, more_reading, more_nil, field_quoted,
    field_count, systemFields, List.append_assoc, List.cons_append, List.nil_append]

/-- An array whose entries a loop writes. -/
theorem foreach_array {α : Type} {entry : α → Text} {doc : α → Json} (payload : Text) (key : String)
    {xs : List α} (h : ∀ x ∈ xs, verbatim (doc x) = entry x) :
    foreach entry (payload ++ ',' :: field key ['[']) xs ++ [']'] =
      payload ++ ',' :: field key (verbatim (.arr (xs.map doc))) := by
  have htexts : xs.map entry = (xs.map doc).map verbatim := by
    rw [List.map_map]
    exact List.map_congr_left fun x hx => (h x hx).symm
  rw [foreach_eq, Json.verbatim_arr, htexts, field, field, member, member]
  simp

theorem putRadios_eq {tonum : Text → Tonum} (payload : Text) {radios : Radios}
    (h : ∀ t ∈ radios.frequencies, tonum t ≠ .nothing) :
    putRadios tonum payload radios ++ [']'] =
      payload ++ ',' :: field radios.key (verbatim (.arr (radios.documents tonum))) := by
  cases radios with
  | wireless radios =>
    exact foreach_array payload "wireless_interfaces" fun w hw =>
      verbatim_wireless (h _ (List.mem_map_of_mem hw))
  | wifi radios => exact foreach_array payload "wifi_interfaces" fun w _ => verbatim_wifi w

/-- **The payload is the text of the document.** -/
theorem payload_eq {tonum : Text → Tonum} {d : Device} (h : Numbered tonum d) :
    payload tonum d = verbatim (document tonum d) := by
  have hports (start : Text) : foreach ethernetEntry (start ++ ',' :: field "ethernet" ['['])
      d.ethernet ++ [']'] =
        start ++ ',' :: field "ethernet" (verbatim (.arr (d.ethernet.map ethernetDocument))) :=
    foreach_array start "ethernet" fun e _ => verbatim_ethernet e
  have hversion : field "schema_version" (verbatim (.num ['1'])) = field "schema_version" ['1'] :=
    rfl
  rw [payload, hports, List.append_cons _ ']' ['\x7d'], putRadios_eq _ h]
  simp only [document, verbatim_record, more_some, more_nil, field_quoted, hversion,
    verbatim_system, identityFields, List.append_assoc, List.cons_append, List.nil_append]

/-! ## The document is regular -/

theorem regular_str (t : Text) : Regular (.str t) := trivial

theorem regular_bool (b : Bool) : Regular (.bool b) := trivial

theorem regular_count (value : UInt64) : Regular (count value) := Json.isNumber_natLiteral _

theorem regular_nonempty (value : Text) : OnValue Regular (nonempty value) :=
  onValue_nonempty trivial

theorem regular_reading (reading : Option Reading) : OnValue Regular (readingValue reading) :=
  onValue_reading fun r _ => r.2

theorem regular_frequency (frequency : Tonum) : OnValue Regular (frequencyValue frequency) :=
  onValue_frequency fun _ => Json.isNumber_intLiteral _

theorem regular_ethernet (e : EthernetPort) : Regular (ethernetDocument e) := by
  refine regular_record ethernetKeys rfl (by decide) ?_
  simp [counterValues, onValue_some, regular_str, regular_bool, regular_count]

theorem regular_wireless (tonum : Text → Tonum) (w : WirelessRadio) :
    Regular (wirelessDocument tonum w) := by
  refine regular_record wirelessKeys rfl (by decide) ?_
  simp [counterValues, onValue_some, regular_str, regular_bool, regular_count, regular_nonempty,
    regular_frequency]

theorem regular_wifi (w : WifiRadio) : Regular (wifiDocument w) := by
  refine regular_record wifiKeys rfl (by decide) ?_
  simp [counterValues, onValue_some, regular_str, regular_bool, regular_count, regular_nonempty]

theorem regular_system (d : Device) : Regular (systemDocument d) := by
  refine regular_record systemKeys rfl (by decide) ?_
  simp [onValue_some, regular_str, regular_count, regular_reading]

theorem regular_radios (tonum : Text → Tonum) (radios : Radios) :
    Regular (.arr (radios.documents tonum)) := by
  rw [Json.regular_arr]
  cases radios with
  | wireless radios => exact List.forall_mem_map.mpr fun w _ => regular_wireless tonum w
  | wifi radios => exact List.forall_mem_map.mpr fun w _ => regular_wifi w

theorem regular_document (tonum : Text → Tonum) (d : Device) : Regular (document tonum d) := by
  have hports : Regular (.arr (d.ethernet.map ethernetDocument)) :=
    Json.regular_arr.mpr (List.forall_mem_map.mpr fun e _ => regular_ethernet e)
  have hversion : Regular (.num ['1']) := show Json.isNumber ['1'] = true by decide
  refine regular_record (documentKeys d.radios) rfl (documentKeys_nodup d.radios) ?_
  simp [onValue_some, regular_str, hversion, regular_system, hports, regular_radios]

/-! ## Its texts -/

theorem isPlain_str {t : Text} : IsPlain (.str t) ↔ t.all Json.isPlain = true :=
  List.forall_mem_singleton

theorem isPlain_nonempty {value : Text} :
    OnValue IsPlain (nonempty value) ↔ value.all Json.isPlain = true := by
  cases value with
  | nil => exact iff_of_true onValue_none rfl
  | cons c value => exact onValue_some.trans isPlain_str

theorem isPlain_bool (b : Bool) : IsPlain (.bool b) := fun _ ht => nomatch ht

theorem isPlain_num (literal : Text) : IsPlain (.num literal) := fun _ ht => nomatch ht

theorem isPlain_count (value : UInt64) : IsPlain (count value) := isPlain_num _

theorem isPlain_reading (reading : Option Reading) : OnValue IsPlain (readingValue reading) :=
  onValue_reading fun _ _ => isPlain_num _

theorem isPlain_frequency (frequency : Tonum) : OnValue IsPlain (frequencyValue frequency) :=
  onValue_frequency fun _ => isPlain_num _

theorem isPlain_ethernet (e : EthernetPort) :
    IsPlain (ethernetDocument e) ↔ e.name.all Json.isPlain = true := by
  rw [ethernetDocument, isPlain_record ethernetKeys rfl (by decide)]
  simp [counterValues, onValue_some, isPlain_str, isPlain_bool, isPlain_count]

theorem isPlain_wireless (tonum : Text → Tonum) (w : WirelessRadio) :
    IsPlain (wirelessDocument tonum w) ↔ ∀ t ∈ w.texts, t.all Json.isPlain = true := by
  rw [wirelessDocument, isPlain_record wirelessKeys rfl (by decide)]
  simp [counterValues, onValue_some, isPlain_str, isPlain_bool, isPlain_count, isPlain_nonempty,
    isPlain_frequency, WirelessRadio.texts]

theorem isPlain_wifi (w : WifiRadio) :
    IsPlain (wifiDocument w) ↔ ∀ t ∈ w.texts, t.all Json.isPlain = true := by
  rw [wifiDocument, isPlain_record wifiKeys rfl (by decide)]
  simp [counterValues, onValue_some, isPlain_str, isPlain_bool, isPlain_count, isPlain_nonempty,
    WifiRadio.texts]

theorem isPlain_system (d : Device) :
    IsPlain (systemDocument d) ↔ d.uptime.all Json.isPlain = true := by
  rw [systemDocument, isPlain_record systemKeys rfl (by decide)]
  simp [onValue_some, isPlain_str, isPlain_count, isPlain_reading]

theorem isPlain_radios (tonum : Text → Tonum) (radios : Radios) :
    IsPlain (.arr (radios.documents tonum)) ↔ ∀ t ∈ radios.texts, t.all Json.isPlain = true := by
  rw [Json.isPlain_arr]
  cases radios with
  | wireless radios =>
    simp only [Radios.documents, Radios.texts, List.forall_mem_map, List.forall_mem_flatMap,
      isPlain_wireless]
  | wifi radios =>
    simp only [Radios.documents, Radios.texts, List.forall_mem_map, List.forall_mem_flatMap,
      isPlain_wifi]

theorem isPlain_document (tonum : Text → Tonum) (d : Device) :
    IsPlain (document tonum d) ↔ ∀ t ∈ d.texts, t.all Json.isPlain = true := by
  have hkeys : ∀ key ∈ documentKeys d.radios, key.toList.all Json.isPlain = true := by
    rcases d.radios.key_cases with h | h <;> rw [documentKeys, h] <;> decide
  have hports : IsPlain (.arr (d.ethernet.map ethernetDocument)) ↔
      ∀ e ∈ d.ethernet, e.name.all Json.isPlain = true := by
    simp only [Json.isPlain_arr, List.forall_mem_map, isPlain_ethernet]
  have hstack : d.radios.stackName.toList.all Json.isPlain = true := by
    cases d.radios with
    | wireless radios => exact show "wireless".toList.all Json.isPlain = true by decide
    | wifi radios => exact show "wifi".toList.all Json.isPlain = true by decide
  rw [document, isPlain_record (documentKeys d.radios) rfl hkeys]
  simp only [List.forall_mem_cons, onValue_some, isPlain_str, isPlain_num, isPlain_system, hports,
    hstack, isPlain_radios, Device.texts, List.forall_mem_append, List.forall_mem_map, true_and]
  simp [and_assoc]

/-! ## A frequency without a value -/

/-- Where the next field or the end of the entry begins. -/
def EndsField (t : Text) : Prop := ∃ c u, t = c :: u ∧ (c = ',' ∨ c = '\x7d')

theorem endsField_putText {key : String} {value t : Text} (h : EndsField t) :
    EndsField (putText key value ++ t) := by
  unfold putText
  split
  · exact ⟨_, _, rfl, Or.inl rfl⟩
  · exact h

/-- Where `:tonum` gives nothing, a value is missing in the entry of the radio. -/
theorem gap_wirelessEntry {tonum : Text → Tonum} {w : WirelessRadio}
    (h : tonum (looked w.frequency) = .nothing) : ∃ c, (c = ',' ∨ c = '\x7d') ∧
      Json.gap "frequency".toList c <:+: wirelessEntry tonum w := by
  have hend : EndsField (putText "channel_width" (looked w.channelWidth) ++
      (putText "tx_power" (looked w.txPower) ++ (putText "mode" (looked w.mode) ++ ['\x7d']))) :=
    endsField_putText (endsField_putText (endsField_putText ⟨_, _, rfl, Or.inr rfl⟩))
  obtain ⟨c, u, hcu, hc⟩ := hend
  refine ⟨c, hc, '\x7b' :: quotedField "name" w.name ++ ',' ::
    boolField "disabled" (w.disabled.getD true) ++ ',' :: counterFields w.counters ++
    putText "ssid" (looked w.ssid) ++ putText "band" (looked w.band), u, ?_⟩
  have hgap : Json.gap "frequency".toList c ++ u = putFrequency .nothing ++ c :: u := by
    simp [Json.gap, putFrequency, field, member]
  rw [List.append_assoc, hgap, ← hcu, wirelessEntry, h]
  simp only [List.append_assoc, List.cons_append]

theorem infix_joined {t : Text} {ts : List Text} (h : t ∈ ts) : t <:+: Json.joined ts := by
  obtain ⟨s, u, rfl⟩ := List.append_of_mem h
  cases s with
  | nil => exact List.infix_append_left
  | cons t' s =>
    refine ⟨t' ++ s.flatMap (fun u => ',' :: u) ++ [','], u.flatMap fun u => ',' :: u, ?_⟩
    simp [Json.joined]

/-- **Without a value for a frequency, the payload is no document.** -/
theorem not_loads {tonum : Text → Tonum} {d : Device} (h : ¬Numbered tonum d) :
    loads (payload tonum d) = none := by
  simp only [Numbered, not_forall, not_not] at h
  obtain ⟨t, ht, hnothing⟩ := h
  obtain ⟨radios, hradios⟩ : ∃ radios, d.radios = .wireless radios := by
    cases hr : d.radios with
    | wireless radios => exact ⟨radios, rfl⟩
    | wifi radios =>
      rw [hr] at ht
      cases ht
  rw [hradios] at ht
  obtain ⟨w, hw, rfl⟩ := List.mem_map.mp ht
  obtain ⟨c, hc, hgap⟩ := gap_wirelessEntry hnothing
  have hentry := hgap.trans (infix_joined (List.mem_map_of_mem hw))
  have hpayload : Json.gap "frequency".toList c <:+: payload tonum d := by
    rw [payload, hradios, putRadios, foreach_eq]
    exact (hentry.trans List.infix_append_right).trans List.infix_append_left
  exact Json.loads_gap (by decide) (by decide) (by decide) (by decide) hc hpayload

/-! ## Reading back -/

/-- With a value for every frequency, what is plain is read back. -/
theorem numbered_reads_back {tonum : Text → Tonum} {d : Device} (h : Numbered tonum d) :
    loads (payload tonum d) = some (document tonum d) ↔
      ∀ t ∈ d.texts, t.all Json.isPlain = true := by
  rw [payload_eq h, ← isPlain_document tonum d]
  exact ⟨Json.plain_of_loads, Json.loads_verbatim (regular_document tonum d)⟩

/-- **The payload is read back** if and only if its texts are plain and `:tonum` does not leave a
frequency without a value. -/
theorem payload_reads_back_iff (tonum : Text → Tonum) (d : Device) :
    loads (payload tonum d) = some (document tonum d) ↔
      (∀ t ∈ d.texts, t.all Json.isPlain = true) ∧ Numbered tonum d := by
  by_cases h : Numbered tonum d
  · rw [numbered_reads_back h, and_iff_left h]
  · rw [not_loads h]
    exact iff_of_false (fun heq => nomatch heq) fun hboth => h hboth.2

/-! ## A quote in the name of a network -/

/-- `:tonum`, for digits and for other texts. -/
def digitsTonum (t : Text) : Tonum :=
  if Json.isDigits t then .num (Int64.ofNat (Json.digitsValue t)) else .nothing

/-- A device with one classic radio. -/
def smallDevice (ssid : String) : Device where
  identity := "hAP ac2 - Lab".toList
  serial := some "HC_TEL_001".toList
  board := some "RB952Ui-5ac2nD".toList
  mac := some "02:00:00:00:00:01".toList
  rosVer := "7.14.2".toList
  uptime := "2h15m".toList
  cpuLoad := 12
  freeMem := 9437184
  totalMem := 67108864
  temperature := some ⟨"47.5".toList, by decide⟩
  voltage := some ⟨"24.1".toList, by decide⟩
  ethernet := [⟨"ether1".toList, true, ⟨1024, 2048, 8, 16⟩⟩]
  radios := .wireless [{
    name := "wlan1".toList
    ssid := some ssid.toList
    band := some "2ghz-b/g/n".toList
    frequency := some "2437".toList
    channelWidth := some "20mhz".toList
    txPower := some "17".toList
    mode := some "ap-bridge".toList
    disabled := some false
    counters := ⟨512, 256, 4, 2⟩ }]

theorem quotedSsid_not_read :
    loads (payload digitsTonum (smallDevice "Smith \"5G\"")) = none :=
  Option.isNone_iff_eq_none.mp (by decide +kernel)

end CpeCloud
