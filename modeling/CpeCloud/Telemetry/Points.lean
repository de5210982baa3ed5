import CpeCloud.Lib.Pattern
import CpeCloud.Models
import CpeCloud.Telemetry.Payload

/-!
# The points of a heartbeat (`app/services/influx.py`)

The `try` block of `write_telemetry` up to the write: the uptime, the `system` point and one
`interface` point for each entry, from the dumped payload. A `Point` is the calls made on it, in
order.

* **`buildRecords_agree`**: payloads that agree on the declared fields give the same points.
-/

namespace CpeCloud

open PyVal (Dict Python get)

/-! ## Uptime -/

/-- `\d`. -/
def isDecimal (c : Char) : Bool := (Numeral.digitValue c).isSome

/-- `(?:(?P<u>\d+)u)?`. -/
def unitRe (unit : Char) : Pattern Char :=
  .opt (.seq (.group unit (.plus isDecimal)) (.plain (.lit [unit])))

/-- `_UPTIME_RE`. -/
def uptimeRe : Pattern Char :=
  .seq (unitRe 'w') (.seq (unitRe 'd') (.seq (unitRe 'h') (.seq (unitRe 'm') (.seq (unitRe 's')
    (.plain .eos)))))

/-- `_UPTIME_UNIT_SEC`, in the order of `_UPTIME_RE`. -/
def uptimeUnits : List (Char × Nat) :=
  [('w', 604800), ('d', 86400), ('h', 3600), ('m', 60), ('s', 1)]

/-- `total += int(v) * seconds` for a unit whose group took part. -/
def addUnit (groups : List (Char × Text)) (total : Int) (u : Char × Nat) :
    Except PyVal.Error Int :=
  match groups.lookup u.1 with
  | some v => (PyVal.intOf (.str v)).map fun n => total + n * u.2
  | none => .ok total

/-- `_parse_uptime`. -/
def parseUptime (s : Text) : Except PyVal.Error Int :=
  if s = [] then .ok 0
  else match uptimeRe.firstMatch (Text.strip s) with
  | some groups =>
    if groups.any (fun g => !g.2.isEmpty) then uptimeUnits.foldlM (addUnit groups) 0 else .ok 0
  | none => .ok 0

/-- `_extract_uptime_string`. -/
def extractUptimeString (py : Python) (payload : Dict) : Text :=
  let flat := get payload "uptime".toList
  let fallThrough := if flat.truthy then py.str flat else []
  match get payload "system".toList with
  | .dict system =>
    let nested := get system "uptime".toList
    if nested.truthy then py.str nested else fallThrough
  | _ => fallThrough

/-! ## Points -/

/-- A `Point`. -/
structure Point where
  measurement : String
  tags : List (String × Text)
  fields : List (String × PyVal)
  time : Option Timestamp

/-- `point.field(name, value)`. -/
def Point.field (p : Point) (name : String) (value : PyVal) : Point :=
  { p with fields := p.fields ++ [(name, value)] }

/-- `point.time(ts)`. -/
def Point.at (p : Point) (ts : Timestamp) : Point := { p with time := some ts }

/-- `str(n)`. -/
def decimal (n : Nat) : Text := Nat.toDigits 10 n

/-- The value of `ck_routers_wifi_stack`. -/
def WifiStack.str : WifiStack → Text
  | .wireless => "wireless".toList
  | .wifi => "wifi".toList

/-- `x or "unknown"`. -/
def orUnknown : Option Text → Text
  | none | some [] => "unknown".toList
  | some t => t

/-- `point.field(name, convert(val))` if the value is there. -/
def convertField (convert : PyVal → Except PyVal.Error PyVal) (system : Dict) (p : Point)
    (name : String) : Except PyVal.Error Point :=
  match get system name.toList with
  | .null => .ok p
  | val => (convert val).map (p.field name)

/-- `int(val)`. -/
def toInt (val : PyVal) : Except PyVal.Error PyVal := (PyVal.intOf val).map .int

/-- `float(val)`. -/
def toFloat (py : Python) (val : PyVal) : Except PyVal.Error PyVal :=
  (PyVal.floatOf py val).map .float

/-- `_build_system_point`. -/
def buildSystemPoint (py : Python) (router : Router) (uptimeSec : Int) (system : Option Dict)
    (ts : Timestamp) : Except PyVal.Error Point := do
  let point : Point := {
    measurement := "system"
    tags := [("router_id", decimal router.id), ("model", orUnknown router.model),
      ("wifi_stack", orUnknown (router.wifiStack.map WifiStack.str))]
    fields := [("uptime_sec", .int uptimeSec)]
    time := none }
  match system with
  | none | some [] => .ok (point.at ts)
  | some system =>
    let point ← ["cpu_load_pct", "free_memory_bytes", "total_memory_bytes"].foldlM
      (convertField toInt system) point
    let point ← ["temperature_c", "voltage_v"].foldlM (convertField (toFloat py) system) point
    .ok (point.at ts)

/-- The kinds of interfaces. -/
inductive Kind where
  | ethernet
  | wireless
  | wifi
  deriving Repr, DecidableEq

/-- The tag's value. -/
def Kind.str : Kind → Text
  | .ethernet => "ethernet".toList
  | .wireless => "wireless".toList
  | .wifi => "wifi".toList

/-- An integer field, dropped where the value does not convert. An `OverflowError` is not caught.
-/
def intField (entry : Dict) (p : Point × Bool) (name : String) : Except PyVal.Error (Point × Bool) :=
  match get entry name.toList with
  | .null => .ok p
  | val =>
    match toInt val with
    | .ok n => .ok (p.1.field name n, true)
    | .error .overflowError => .error .overflowError
    | .error _ => .ok p

/-- A field with a non-empty `str`. -/
def textField (entry : Dict) (p : Point × Bool) (name : String) : Point × Bool :=
  match get entry name.toList with
  | .str (c :: cs) => (p.1.field name (.str (c :: cs)), true)
  | _ => p

/-- A field with a `bool`. -/
def flagField (entry : Dict) (p : Point × Bool) (name : String) : Point × Bool :=
  match get entry name.toList with
  | .bool b => (p.1.field name (.bool b), true)
  | _ => p

/-- `_build_one_interface_point`. -/
def buildOneInterfacePoint (router : Router) (kind : Kind) (entry : Dict) (ts : Timestamp) :
    Except PyVal.Error (Option Point) := do
  match get entry "name".toList with
  | .str (c :: cs) =>
    let point : Point := {
      measurement := "interface"
      tags := [("router_id", decimal router.id), ("interface_name", c :: cs), ("kind", kind.str)]
      fields := []
      time := none }
    let p ← ["rx_bytes", "tx_bytes", "rx_packets", "tx_packets"].foldlM (intField entry)
      (point, false)
    let p := flagField entry p (if kind = .ethernet then "running" else "disabled")
    let p ← if kind = .wireless then ["frequency"].foldlM (intField entry) p else .ok p
    let p := match kind with
      | .ethernet => p
      | .wireless =>
        ["ssid", "band", "channel_width", "tx_power", "mode"].foldl (textField entry) p
      | .wifi => ["ssid", "channel", "configuration"].foldl (textField entry) p
    .ok (if p.2 then some (p.1.at ts) else none)
  | _ => .ok none

/-- The body of the loops over the entries. -/
def appendPoint (router : Router) (kind : Kind) (ts : Timestamp) (points : List Point)
    (entry : PyVal) : Except PyVal.Error (List Point) :=
  match entry with
  | .dict entry => do
    let p ← buildOneInterfacePoint router kind entry ts
    .ok (points ++ p.toList)
  | _ => .ok points

/-- The points of one of the arrays. -/
def buildArrayPoints (router : Router) (kind : Kind) (array : PyVal) (ts : Timestamp) :
    Except PyVal.Error (List Point) :=
  match array with
  | .list entries => entries.foldlM (appendPoint router kind ts) []
  | _ => .ok []

/-- `_build_interface_points`. -/
def buildInterfacePoints (router : Router) (payload : Dict) (ts : Timestamp) :
    Except PyVal.Error (List Point) := do
  let ethernet ← buildArrayPoints router .ethernet (get payload "ethernet".toList) ts
  let wireless ← buildArrayPoints router .wireless (get payload "wireless_interfaces".toList) ts
  let wifi ← buildArrayPoints router .wifi (get payload "wifi_interfaces".toList) ts
  .ok (ethernet ++ wireless ++ wifi)

/-- `payload.get("system")`, if it is a `dict`. -/
def systemOf (payload : Dict) : Option Dict :=
  match get payload "system".toList with
  | .dict system => some system
  | _ => none

/-- The `records` of `write_telemetry`. -/
def buildRecords (py : Python) (router : Router) (payload : Dict) (ts : Timestamp) :
    Except PyVal.Error (List Point) := do
  let uptimeSec ← parseUptime (extractUptimeString py payload)
  let systemPoint ← buildSystemPoint py router uptimeSec (systemOf payload) ts
  let interfacePoints ← buildInterfacePoints router payload ts
  .ok (systemPoint :: interfacePoints)

/-! ## What the builders read -/

/-- The model of the entries of a kind. -/
def Kind.model (P : Pydantic) : Kind → Fields
  | .ethernet => telemetryEthernet P
  | .wireless => telemetryWirelessIf P
  | .wifi => telemetryWifiIf P

section Agree

open Schema (AgreeFields Agree isScalarAt schemaAt)

/-- A fold over names depends on what is read under them. -/
theorem foldlM_names {α : Type} {f g : α → String → Except PyVal.Error α} {names : List String}
    (h : ∀ p, ∀ name ∈ names, f p name = g p name) (p : α) :
    names.foldlM f p = names.foldlM g p := by
  induction names generalizing p with
  | nil => rfl
  | cons name names ih =>
    rw [List.foldlM_cons, List.foldlM_cons, h p name List.mem_cons_self]
    congr 1
    funext q
    exact ih (fun q n hn => h q n (List.mem_cons_of_mem _ hn)) q

variable {fields : Fields} {d d' : Dict}

/-- Names of scalar fields are read alike. -/
theorem get_names (h : AgreeFields fields d d') {names : List String}
    (hnames : names.all (fun name => isScalarAt fields name.toList) = true) :
    ∀ name ∈ names, get d name.toList = get d' name.toList :=
  fun name hname => AgreeFields.get_eq h (List.all_eq_true.mp hnames name hname)

theorem foldlM_convertField (h : AgreeFields fields d d')
    (convert : PyVal → Except PyVal.Error PyVal) {names : List String}
    (hnames : names.all (fun name => isScalarAt fields name.toList) = true) (p : Point) :
    names.foldlM (convertField convert d) p = names.foldlM (convertField convert d') p := by
  refine foldlM_names (fun p name hname => ?_) p
  rw [convertField, get_names h hnames name hname, convertField]

theorem foldlM_intField (h : AgreeFields fields d d') {names : List String}
    (hnames : names.all (fun name => isScalarAt fields name.toList) = true) (p : Point × Bool) :
    names.foldlM (intField d) p = names.foldlM (intField d') p := by
  refine foldlM_names (fun p name hname => ?_) p
  rw [intField, get_names h hnames name hname, intField]

theorem foldl_textField (h : AgreeFields fields d d') {names : List String}
    (hnames : names.all (fun name => isScalarAt fields name.toList) = true) (p : Point × Bool) :
    names.foldl (textField d) p = names.foldl (textField d') p := by
  refine List.foldl_ext _ _ _ fun p name hname => ?_
  rw [textField, get_names h hnames name hname, textField]

theorem flagField_eq (h : AgreeFields fields d d') {name : String}
    (hname : isScalarAt fields name.toList = true) (p : Point × Bool) :
    flagField d p name = flagField d' p name := by
  rw [flagField, AgreeFields.get_eq h hname, flagField]

/-- **Every value the builder of an interface point reads was validated** by the model of its
kind. -/
theorem buildOneInterfacePoint_agree {P : Pydantic} (router : Router) (kind : Kind)
    (h : AgreeFields (kind.model P) d d') (ts : Timestamp) :
    buildOneInterfacePoint router kind d ts = buildOneInterfacePoint router kind d' ts := by
  have hname : get d "name".toList = get d' "name".toList :=
    AgreeFields.get_eq h (by cases kind <;> rfl)
  have hcounters : ["rx_bytes", "tx_bytes", "rx_packets", "tx_packets"].all
      (fun name => isScalarAt (kind.model P) name.toList) = true := by cases kind <;> rfl
  unfold buildOneInterfacePoint
  rw [hname]
  simp only [foldlM_intField h hcounters]
  cases kind with
  | ethernet =>
    have hflag := flagField_eq h (show isScalarAt _ "running".toList = true from rfl)
    simp only [reduceCtorEq, if_true, if_false, hflag]
  | wireless =>
    have hflag := flagField_eq h (show isScalarAt _ "disabled".toList = true from rfl)
    have hfrequency := foldlM_intField h (show ["frequency"].all (fun name =>
      isScalarAt (telemetryWirelessIf P) name.toList) = true from rfl)
    have htext := foldl_textField h (show
      ["ssid", "band", "channel_width", "tx_power", "mode"].all (fun name =>
        isScalarAt (telemetryWirelessIf P) name.toList) = true from rfl)
    simp only [reduceCtorEq, if_true, if_false, hflag, hfrequency, htext]
  | wifi =>
    have hflag := flagField_eq h (show isScalarAt _ "disabled".toList = true from rfl)
    have htext := foldl_textField h (show ["ssid", "channel", "configuration"].all (fun name =>
      isScalarAt (telemetryWifiIf P) name.toList) = true from rfl)
    simp only [reduceCtorEq, if_false, hflag, htext]

theorem buildArrayPoints_agree {P : Pydantic} (router : Router) (kind : Kind) {v v' : PyVal}
    (h : (v = .null ∧ v' = .null) ∨ Agree (.list (.model (kind.model P))) v v') (ts : Timestamp) :
    buildArrayPoints router kind v ts = buildArrayPoints router kind v' ts := by
  rcases h with ⟨rfl, rfl⟩ | ⟨items, items', rfl, rfl, hitems⟩
  · rfl
  have hfold (points : List Point) : items.foldlM (appendPoint router kind ts) points =
      items'.foldlM (appendPoint router kind ts) points := by
    induction hitems generalizing points with
    | nil => rfl
    | cons hentry hitems ih =>
      obtain ⟨d, d', rfl, rfl, hd⟩ := hentry
      have hhead : appendPoint router kind ts points (.dict d) =
          appendPoint router kind ts points (.dict d') := by
        simp only [appendPoint, buildOneInterfacePoint_agree router kind hd ts]
      simp only [List.foldlM_cons, hhead, ih]
  exact hfold []

/-- An empty `system` adds what one without the fields that are read adds. -/
theorem buildSystemPoint_some (py : Python) (router : Router) (uptimeSec : Int) (system : Dict)
    (ts : Timestamp) : buildSystemPoint py router uptimeSec (some system) ts = (do
      let point ← ["cpu_load_pct", "free_memory_bytes", "total_memory_bytes"].foldlM
        (convertField toInt system) {
          measurement := "system"
          tags := [("router_id", decimal router.id), ("model", orUnknown router.model),
            ("wifi_stack", orUnknown (router.wifiStack.map WifiStack.str))]
          fields := [("uptime_sec", .int uptimeSec)]
          time := none }
      let point ← ["temperature_c", "voltage_v"].foldlM (convertField (toFloat py) system) point
      .ok (point.at ts)) := by
  cases system with
  | nil => rfl
  | cons m system => rfl

theorem buildSystemPoint_agree (py : Python) {P : Pydantic} (router : Router) (uptimeSec : Int)
    (h : AgreeFields (telemetrySystem P) d d') (ts : Timestamp) :
    buildSystemPoint py router uptimeSec (some d) ts =
      buildSystemPoint py router uptimeSec (some d') ts := by
  have hints := foldlM_convertField h toInt (show
    ["cpu_load_pct", "free_memory_bytes", "total_memory_bytes"].all (fun name =>
      isScalarAt (telemetrySystem P) name.toList) = true from rfl)
  have hfloats := foldlM_convertField h (toFloat py) (show
    ["temperature_c", "voltage_v"].all (fun name =>
      isScalarAt (telemetrySystem P) name.toList) = true from rfl)
  rw [buildSystemPoint_some, buildSystemPoint_some]
  simp only [hints, hfloats]

/-- The uptime of a payload. -/
theorem extractUptimeString_agree (py : Python) {P : Pydantic}
    (h : AgreeFields (telemetryHeartbeat P) d d') :
    extractUptimeString py d = extractUptimeString py d' := by
  have hflat : get d "uptime".toList = get d' "uptime".toList := AgreeFields.get_eq h rfl
  have hsystem := AgreeFields.get h (show schemaAt (telemetryHeartbeat P) "system".toList =
    some (.model (telemetrySystem P)) from rfl)
  unfold extractUptimeString
  rw [hflat]
  rcases hsystem with ⟨hd, hd'⟩ | ⟨system, system', hd, hd', hsystem⟩
  · rw [hd, hd']
  · have hnested : get system "uptime".toList = get system' "uptime".toList :=
      AgreeFields.get_eq hsystem rfl
    rw [hd, hd']
    simp only [hnested]

/-- The `system` point of a payload. -/
theorem systemPoint_agree (py : Python) {P : Pydantic} (router : Router) (uptimeSec : Int)
    (h : AgreeFields (telemetryHeartbeat P) d d') (ts : Timestamp) :
    buildSystemPoint py router uptimeSec (systemOf d) ts =
      buildSystemPoint py router uptimeSec (systemOf d') ts := by
  have hsystem := AgreeFields.get h (show schemaAt (telemetryHeartbeat P) "system".toList =
    some (.model (telemetrySystem P)) from rfl)
  unfold systemOf
  rcases hsystem with ⟨hd, hd'⟩ | ⟨system, system', hd, hd', hsystem⟩
  · rw [hd, hd']
  · rw [hd, hd']
    exact buildSystemPoint_agree py router uptimeSec hsystem ts

/-- **Payloads that agree on the declared fields give the same points.** -/
theorem buildRecords_agree (py : Python) {P : Pydantic} (router : Router)
    (h : AgreeFields (telemetryHeartbeat P) d d') (ts : Timestamp) :
    buildRecords py router d ts = buildRecords py router d' ts := by
  have hethernet := buildArrayPoints_agree router .ethernet (AgreeFields.get h
    (show schemaAt (telemetryHeartbeat P) "ethernet".toList =
      some (.list (.model (Kind.ethernet.model P))) from rfl)) ts
  have hwireless := buildArrayPoints_agree router .wireless (AgreeFields.get h
    (show schemaAt (telemetryHeartbeat P) "wireless_interfaces".toList =
      some (.list (.model (Kind.wireless.model P))) from rfl)) ts
  have hwifi := buildArrayPoints_agree router .wifi (AgreeFields.get h
    (show schemaAt (telemetryHeartbeat P) "wifi_interfaces".toList =
      some (.list (.model (Kind.wifi.model P))) from rfl)) ts
  unfold buildRecords buildInterfacePoints
  simp only [extractUptimeString_agree py h, systemPoint_agree py router _ h ts, hethernet, hwireless,
    hwifi]

end Agree

end CpeCloud
