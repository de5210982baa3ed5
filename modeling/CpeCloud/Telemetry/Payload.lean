import CpeCloud.Lib.Schema

/-!
# The telemetry payload (`app/routers/telemetry.py`)

`TelemetryHeartbeat` and its nested models, field by field, with the constraints of each. All of
them allow extra fields. The coercions of the validator's lax mode are a parameter (`Pydantic`).

* `telemetryHeartbeat_distinct`: no model declares a field twice.
-/

namespace CpeCloud

/-- The lax mode of the validator. -/
structure Pydantic where
  int : PyVal → Option Int
  float : PyVal → Option Flt
  bool : PyVal → Option Bool
  /-- A value of the type itself is taken as it is. -/
  int_int : ∀ n, int (.int n) = some n
  float_float : ∀ f, float (.float f) = some f
  bool_bool : ∀ b, bool (.bool b) = some b
  /-- A small integer is taken for the same `float`. -/
  float_int : ∀ n : Int, n.natAbs ≤ 2 ^ 53 → float (.int n) = some (.finite n)

/-! ## Constraints -/

/-- A `str` that satisfies a constraint. -/
def textWhere (p : Text → Bool) : Schema :=
  .scalar fun
    | .str t => if p t then some (.str t) else none
    | _ => none

/-- `Field(min_length=…, max_length=…)`. -/
def textOf (minLength maxLength : Nat) : Schema :=
  textWhere fun t => minLength ≤ t.length && t.length ≤ maxLength

/-- An `int` with `ge`, and `le` if there is one. -/
def intFrom (P : Pydantic) (ge : Int) (le : Option Int) : Schema :=
  .scalar fun v =>
    match P.int v with
    | some n => if ge ≤ n ∧ ∀ m ∈ le, n ≤ m then some (.int n) else none
    | none => none

/-- A `float` with `ge` and `le`. -/
def floatIn (P : Pydantic) (ge le : Int) : Schema :=
  .scalar fun v =>
    match P.float v with
    | some (.finite q) => if (ge : ℚ) ≤ q ∧ q ≤ le then some (.float (.finite q)) else none
    | _ => none

/-- A `bool`. -/
def flag (P : Pydantic) : Schema := .scalar fun v => (P.bool v).map .bool

/-- `[0-9A-Fa-f]`. -/
def isHex (c : Char) : Bool :=
  ('0' ≤ c && c ≤ '9') || ('A' ≤ c && c ≤ 'F') || ('a' ≤ c && c ≤ 'f')

/-- `(:[0-9A-Fa-f]{2}){n}$`. -/
def isHexPairs : Nat → Text → Bool
  | 0, t => t = []
  | n + 1, ':' :: a :: b :: t => isHex a && isHex b && isHexPairs n t
  | _ + 1, _ => false

/-- `^[0-9A-Fa-f]{2}(:[0-9A-Fa-f]{2}){5}$`. -/
def isMac : Text → Bool
  | a :: b :: t => isHex a && isHex b && isHexPairs 5 t
  | _ => false

/-! ## The models -/

/-- A field without a default. -/
def required (name : String) (schema : Schema) (rest : Fields) : Fields :=
  .cons name.toList true schema rest

/-- A field `… | None = None`. -/
def optional (name : String) (schema : Schema) (rest : Fields) : Fields :=
  .cons name.toList false schema rest

/-- The counters that the interface models end with. -/
def counters (P : Pydantic) : Fields :=
  optional "rx_bytes" (intFrom P 0 none) <|
  optional "tx_bytes" (intFrom P 0 none) <|
  optional "rx_packets" (intFrom P 0 none) <|
  optional "tx_packets" (intFrom P 0 none) .nil

/-- `TelemetrySystem`. -/
def telemetrySystem (P : Pydantic) : Fields :=
  optional "uptime" (textOf 1 32) <|
  optional "cpu_load_pct" (intFrom P 0 (some 100)) <|
  optional "free_memory_bytes" (intFrom P 0 none) <|
  optional "total_memory_bytes" (intFrom P 0 none) <|
  optional "temperature_c" (floatIn P (-20) 120) <|
  optional "voltage_v" (floatIn P 0 60) .nil

/-- `TelemetryEthernet`. -/
def telemetryEthernet (P : Pydantic) : Fields :=
  required "name" (textOf 1 32) <|
  optional "running" (flag P) <|
  counters P

/-- `TelemetryWirelessIf`. -/
def telemetryWirelessIf (P : Pydantic) : Fields :=
  required "name" (textOf 1 32) <|
  optional "ssid" (textOf 0 64) <|
  optional "band" (textOf 0 32) <|
  optional "frequency" (intFrom P 0 (some 8000)) <|
  optional "channel_width" (textOf 0 32) <|
  optional "tx_power" (textOf 0 16) <|
  optional "disabled" (flag P) <|
  optional "mode" (textOf 0 32) <|
  counters P

/-- `TelemetryWifiIf`. -/
def telemetryWifiIf (P : Pydantic) : Fields :=
  required "name" (textOf 1 32) <|
  optional "ssid" (textOf 0 64) <|
  optional "channel" (textOf 0 32) <|
  optional "disabled" (flag P) <|
  optional "configuration" (textOf 0 64) <|
  counters P

/-- `TelemetryHeartbeat`. -/
def telemetryHeartbeat (P : Pydantic) : Fields :=
  optional "schema_version" (intFrom P 1 (some 100)) <|
  required "identity" (textOf 1 128) <|
  required "wifi_stack" (textWhere fun t => t = "wireless".toList || t = "wifi".toList) <|
  optional "serial" (textOf 4 64) <|
  optional "mac" (textWhere isMac) <|
  optional "board" (textOf 1 64) <|
  optional "ros_version" (textOf 1 32) <|
  optional "uptime" (textOf 1 32) <|
  optional "system" (.model (telemetrySystem P)) <|
  optional "ethernet" (.list (.model (telemetryEthernet P))) <|
  optional "wireless_interfaces" (.list (.model (telemetryWirelessIf P))) <|
  optional "wifi_interfaces" (.list (.model (telemetryWifiIf P))) .nil

theorem telemetryHeartbeat_distinct (P : Pydantic) :
    (Schema.model (telemetryHeartbeat P)).distinct = true := by
  rfl

end CpeCloud
