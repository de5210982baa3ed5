import CpeCloud.Telemetry.Influx
import CpeCloud.Telemetry.Points

/-!
# Unknown telemetry fields

`extra="allow"` lets values into the dump that no model has validated. The point builders do not
look at them: what a builder reads of an entry is declared by the model of the entry's kind.

* **`unknown_fields_inert`**: with undeclared keys added at any level, an accepted payload is
  still accepted and gives the same points, and the writer tries the same write.
-/

namespace CpeCloud

open PyVal (Dict Python)

universe v

/-- The name of an exception. -/
def errorName : PyVal.Error → Text
  | .typeError => "TypeError".toList
  | .valueError => "ValueError".toList
  | .overflowError => "OverflowError".toList

/-- An Influx side with the point builders, at the time `ts`. -/
def withBuilders {Client : Type v} (py : Python) (ts : Timestamp)
    (I : InfluxSide Dict Client Point) : InfluxSide Dict Client Point :=
  { I with buildPoints := fun router payload =>
      match buildRecords py router payload ts with
      | .ok records => .ok records
      | .error e => .error (errorName e) }

/-- The writer sees of a payload what the builders make of it. -/
theorem writeTelemetry_records {Client : Type v} {py : Python} {ts : Timestamp} {router : Router}
    {d d' : Dict} (h : buildRecords py router d' ts = buildRecords py router d ts)
    (I : InfluxSide Dict Client Point) (singleton : Option Client) :
    writeTelemetry (withBuilders py ts I) singleton router d' =
      writeTelemetry (withBuilders py ts I) singleton router d := by
  unfold writeTelemetry
  simp only [withBuilders, h]

/-- **Unknown telemetry fields are inert.** -/
theorem unknown_fields_inert {Client : Type v} (P : Pydantic) (py : Python) {doc doc' x : PyVal}
    (hadds : Schema.Adds (.model (telemetryHeartbeat P)) doc doc')
    (hx : Schema.validate (.model (telemetryHeartbeat P)) doc = some x) :
    ∃ dump dump', x = .dict dump ∧
      Schema.validate (.model (telemetryHeartbeat P)) doc' = some (.dict dump') ∧
      ∀ router ts, buildRecords py router dump' ts = buildRecords py router dump ts ∧
        ∀ (I : InfluxSide Dict Client Point) singleton,
          writeTelemetry (withBuilders py ts I) singleton router dump' =
            writeTelemetry (withBuilders py ts I) singleton router dump := by
  obtain ⟨x', hx', dump, dump', rfl, rfl, hagree⟩ :=
    Schema.validate_adds (telemetryHeartbeat_distinct P) hadds hx
  refine ⟨dump, dump', rfl, hx', fun router ts => ?_⟩
  have hrecords := (buildRecords_agree py router hagree ts).symm
  exact ⟨hrecords, fun I singleton => writeTelemetry_records hrecords I singleton⟩

/-! ## A small payload -/

/-- The coercions of the values used here. -/
def smallPydantic : Pydantic where
  int
    | .int n => some n
    | _ => none
  float
    | .float f => some f
    | .int n => if n.natAbs ≤ 2 ^ 53 then some (.finite n) else none
    | _ => none
  bool
    | .bool b => some b
    | _ => none
  int_int _ := rfl
  float_float _ := rfl
  bool_bool _ := rfl
  float_int _ h := if_pos h

/-- Numbers that are doubles. -/
def smallPython : Python where
  round q := .finite q
  floatOfText _ := none
  str
    | .str t => t
    | _ => []
  str_str _ := rfl
  round_mem _ _ ha hb := ⟨_, rfl, ha, hb⟩

/-- A heartbeat with an entry that has what `entry` adds. -/
def smallDoc (entry : Dict) : PyVal :=
  .dict [("identity".toList, .str "hAP ac2 - Lab, Bench".toList),
    ("wifi_stack".toList, .str "wireless".toList),
    ("ethernet".toList, .list [.dict (("name".toList, .str "ether1".toList) :: entry ++
      [("rx_bytes".toList, .int 1024)])])]

theorem adds_smallDoc : Schema.Adds (.model (telemetryHeartbeat smallPydantic)) (smallDoc [])
    (smallDoc [("ssid".toList, .str "not a radio".toList)]) := by
  have hnames := telemetryHeartbeat_distinct smallPydantic
  refine ⟨_, _, rfl, rfl, .keep _ ?_ (.keep _ ?_ (.keep _ ?_ .nil))⟩
  · exact Schema.addsAt_of_adds (show Schema.Adds (textOf 1 128) _ _ from rfl) hnames rfl
  · exact Schema.addsAt_of_adds (show Schema.Adds (textWhere _) _ _ from rfl) hnames rfl
  · have hentries : Schema.Adds (.list (.model (telemetryEthernet smallPydantic)))
        (.list [.dict [("name".toList, .str "ether1".toList), ("rx_bytes".toList, .int 1024)]])
        (.list [.dict [("name".toList, .str "ether1".toList),
          ("ssid".toList, .str "not a radio".toList), ("rx_bytes".toList, .int 1024)]]) := by
      refine ⟨_, _, rfl, rfl, .cons ⟨_, _, rfl, rfl, .keep _ ?_ (.add _ _ rfl (.keep _ ?_ .nil))⟩
        .nil⟩
      · exact Schema.addsAt_of_adds (show Schema.Adds (textOf 1 32) _ _ from rfl) rfl rfl
      · exact Schema.addsAt_of_adds
          (show Schema.Adds (intFrom smallPydantic 0 none) _ _ from rfl) rfl rfl
    exact Schema.addsAt_of_adds hentries hnames rfl

theorem unknown_fields_inert_small : ∃ x dump dump', x = PyVal.dict dump ∧
    Schema.validate (.model (telemetryHeartbeat smallPydantic))
      (smallDoc [("ssid".toList, .str "not a radio".toList)]) = some (.dict dump') ∧
    ∀ router ts, buildRecords smallPython router dump' ts =
        buildRecords smallPython router dump ts ∧
      ∀ (I : InfluxSide Dict Unit Point) singleton,
        writeTelemetry (withBuilders smallPython ts I) singleton router dump' =
          writeTelemetry (withBuilders smallPython ts I) singleton router dump :=
  ⟨_, unknown_fields_inert smallPydantic smallPython adds_smallDoc rfl⟩

end CpeCloud
