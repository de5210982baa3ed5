import CpeCloud.Lib.Decode

/-!
# The telemetry script (`telemetry-wireless.rsc.j2`, `telemetry-wifi.rsc.j2`)

The script that a router runs puts its payload together piece by piece. A `Device` is what the
lookups of a run give; one inside `:do { … } on-error={}` is an `Option`, `none` where it fails.
Interpolation inserts values as they are. What `[:tonum …]` makes of a text is a parameter
(`Tonum`).

* `payload`: the text that is posted.
-/

namespace CpeCloud

open Json (quoted member natLiteral intLiteral)

/-! ## The device -/

/-- The value of a sensor, a number. -/
abbrev Reading := {literal : Text // Json.isNumber literal = true}

/-- What `/interface get` counts. -/
structure InterfaceCounters where
  rxByte : UInt64
  txByte : UInt64
  rxPacket : UInt64
  txPacket : UInt64

/-- An entry of `/interface ethernet`. -/
structure EthernetPort where
  name : Text
  running : Bool
  counters : InterfaceCounters

/-- An entry of `/interface wireless`. -/
structure WirelessRadio where
  name : Text
  ssid : Option Text
  band : Option Text
  frequency : Option Text
  channelWidth : Option Text
  txPower : Option Text
  mode : Option Text
  disabled : Option Bool
  counters : InterfaceCounters

/-- An entry of `/interface wifi`. -/
structure WifiRadio where
  name : Text
  disabled : Option Bool
  ssid : Option Text
  channel : Option Text
  configuration : Option Text
  counters : InterfaceCounters

/-- The radios of the stack that the script is made for. -/
inductive Radios where
  | wireless (radios : List WirelessRadio)
  | wifi (radios : List WifiRadio)

/-- What the lookups of a run give. -/
structure Device where
  identity : Text
  serial : Option Text
  board : Option Text
  mac : Option Text
  rosVer : Text
  uptime : Text
  cpuLoad : UInt64
  freeMem : UInt64
  totalMem : UInt64
  /-- `none` where there is no such probe or its lookup fails. -/
  temperature : Option Reading
  voltage : Option Reading
  ethernet : List EthernetPort
  radios : Radios

/-- What `[:tonum …]` does. -/
inductive Tonum where
  | error
  /-- No value, which is interpolated as nothing. -/
  | nothing
  | num (n : Int64)
  deriving DecidableEq

/-! ## Pieces -/

/-- `:local value ""`, then `:do { :set value … } on-error={}`. -/
def looked (value : Option Text) : Text := value.getD []

/-- `"key":$value`. -/
def field (key : String) (value : Text) : Text := member key.toList value

/-- `"key":"$value"`. -/
def quotedField (key : String) (value : Text) : Text := field key (quoted value)

/-- `"key":$value`, for a counter. -/
def countField (key : String) (value : UInt64) : Text := field key (natLiteral value.toNat)

/-- `"key":$value`, for a truth value. -/
def boolField (key : String) (value : Bool) : Text :=
  field key (if value then "true".toList else "false".toList)

/-- `:if ([:len $value] > 0) do={ … ",\"key\":\"$value\"" }`. -/
def putText (key : String) (value : Text) : Text :=
  if 0 < value.length then ',' :: quotedField key value else []

/-- `:if ($hasValue) do={ … ",\"key\":$value" }`. -/
def putReading (key : String) : Option Reading → Text
  | some reading => ',' :: field key reading.1
  | none => []

/-- `:if ($wfreqOk) do={ … ",\"frequency\":$wfreqNum" }`. -/
def putFrequency : Tonum → Text
  | .error => []
  | .nothing => ',' :: field "frequency" []
  | .num n => ',' :: field "frequency" (intLiteral n.toInt)

/-- The counters of an interface. -/
def counterFields (c : InterfaceCounters) : Text :=
  countField "rx_bytes" c.rxByte ++ ',' :: countField "tx_bytes" c.txByte ++
    ',' :: countField "rx_packets" c.rxPacket ++ ',' :: countField "tx_packets" c.txPacket

/-! ## Loops -/

/-- One pass of a loop: a comma behind the entry before, then the entry. -/
def putEntry {α : Type} (entry : α → Text) (state : Text × Bool) (x : α) : Text × Bool :=
  ((if state.2 then state.1 else state.1 ++ [',']) ++ entry x, false)

/-- `:set first true`, then `:foreach`. -/
def foreach {α : Type} (entry : α → Text) (payload : Text) (xs : List α) : Text :=
  (xs.foldl (putEntry entry) (payload, true)).1

/-- The entry of an ethernet interface. -/
def ethernetEntry (e : EthernetPort) : Text :=
  '{' :: quotedField "name" e.name ++ ',' :: boolField "running" e.running ++
    ',' :: counterFields e.counters ++ ['}']

/-- The entry of a classic radio. -/
def wirelessEntry (tonum : Text → Tonum) (w : WirelessRadio) : Text :=
  '{' :: quotedField "name" w.name ++ ',' :: boolField "disabled" (w.disabled.getD true) ++
    ',' :: counterFields w.counters ++ putText "ssid" (looked w.ssid) ++
    putText "band" (looked w.band) ++ putFrequency (tonum (looked w.frequency)) ++
    putText "channel_width" (looked w.channelWidth) ++ putText "tx_power" (looked w.txPower) ++
    putText "mode" (looked w.mode) ++ ['}']

/-- The entry of a wave2 radio. -/
def wifiEntry (w : WifiRadio) : Text :=
  '{' :: quotedField "name" w.name ++ ',' :: boolField "disabled" (w.disabled.getD true) ++
    ',' :: counterFields w.counters ++ putText "ssid" (looked w.ssid) ++
    putText "channel" (looked w.channel) ++ putText "configuration" (looked w.configuration) ++
    ['}']

example : wifiEntry ⟨"wifi1".toList, none, some "AX".toList, some [], none, ⟨1, 20, 3, 4⟩⟩ =
    "\x7b\"name\":\"wifi1\",\"disabled\":true,\"rx_bytes\":1,\"tx_bytes\":20,".toList ++
      "\"rx_packets\":3,\"tx_packets\":4,\"ssid\":\"AX\"\x7d".toList := by
  decide +kernel

/-! ## The payload -/

/-- `wifi_stack`. -/
def Radios.stackName : Radios → String
  | .wireless _ => "wireless"
  | .wifi _ => "wifi"

/-- The fields of the device itself. -/
def identityFields (d : Device) : Text :=
  field "schema_version" ['1'] ++ ',' :: quotedField "identity" d.identity ++
    ',' :: quotedField "serial" (looked d.serial) ++ ',' :: quotedField "mac" (looked d.mac) ++
    ',' :: quotedField "board" (looked d.board) ++ ',' :: quotedField "ros_version" d.rosVer ++
    ',' :: quotedField "wifi_stack" d.radios.stackName.toList

/-- The object with the system metrics. -/
def systemFields (d : Device) : Text :=
  '{' :: quotedField "uptime" d.uptime ++ ',' :: countField "cpu_load_pct" d.cpuLoad ++
    ',' :: countField "free_memory_bytes" d.freeMem ++
    ',' :: countField "total_memory_bytes" d.totalMem ++
    putReading "temperature_c" d.temperature ++ putReading "voltage_v" d.voltage ++ ['}']

/-- The array of the radios. -/
def putRadios (tonum : Text → Tonum) (payload : Text) : Radios → Text
  | .wireless radios =>
    foreach (wirelessEntry tonum) (payload ++ ',' :: field "wireless_interfaces" ['[']) radios
  | .wifi radios => foreach wifiEntry (payload ++ ',' :: field "wifi_interfaces" ['[']) radios

/-- The payload. -/
def payload (tonum : Text → Tonum) (d : Device) : Text :=
  let start := '{' :: identityFields d ++ ',' :: field "system" (systemFields d)
  let ports := foreach ethernetEntry (start ++ ',' :: field "ethernet" ['[']) d.ethernet ++ [']']
  putRadios tonum ports d.radios ++ [']', '}']

/-! ## Loops write lists -/

theorem foldl_putEntry {α : Type} (entry : α → Text) (xs : List α) (payload : Text) :
    (xs.foldl (putEntry entry) (payload, false)).1 =
      payload ++ (xs.map entry).flatMap fun t => ',' :: t := by
  induction xs generalizing payload with
  | nil => simp
  | cons x xs ih =>
    rw [List.foldl_cons, show putEntry entry (payload, false) x =
      (payload ++ [','] ++ entry x, false) from rfl, ih]
    simp

/-- A loop puts its entries behind the payload, with commas between them. -/
theorem foreach_eq {α : Type} (entry : α → Text) (payload : Text) (xs : List α) :
    foreach entry payload xs = payload ++ Json.joined (xs.map entry) := by
  cases xs with
  | nil => simp [foreach, Json.joined]
  | cons x xs =>
    rw [foreach, List.foldl_cons, show putEntry entry (payload, true) x =
      (payload ++ entry x, false) from rfl, foldl_putEntry, List.map_cons, Json.joined,
      List.append_assoc]

end CpeCloud
