import CpeCloud.AutoEnroll.Request
import CpeCloud.Telemetry.Points
import CpeCloud.Telemetry.RoundTrip

/-!
# The body of an enrollment (`factory-installer.rsc.j2`, `app/routers/auto_enroll.py`)

A router puts the JSON document together piece by piece, with its values as they are. The service
reads it back, takes the fields of `AutoEnrollRequest` and validates them.

* **`decode_payload`**: plain values arrive as they are. With any other value, the request is
  refused or says something else.
-/

namespace CpeCloud

open Json (IsPlain Regular loads quoted verbatim)

/-- The values of an enrollment. -/
structure EnrollFields where
  serial : Text
  mac : Text
  model : Text
  identity : Text
  rosVersion : Text
  wifiStack : Text
  routerPublicKey : Text
  deriving DecidableEq

/-- A required field of type `str`. -/
def stringField (members : List (Text × Json)) (name : String) : Option Text :=
  match members.lookup name.toList with
  | some (.str t) => some t
  | _ => none

namespace EnrollFields

/-- `cpe-cloud-enroll`: `:local payload "{"`, and what is put behind it. -/
def payload (f : EnrollFields) : Text :=
  '{' :: quotedField "serial" f.serial ++
    ',' :: quotedField "mac" f.mac ++
    ',' :: quotedField "model" f.model ++
    ',' :: quotedField "identity" f.identity ++
    ',' :: quotedField "ros_version" f.rosVersion ++
    ',' :: quotedField "wifi_stack" f.wifiStack ++
    ',' :: quotedField "router_public_key" f.routerPublicKey ++ ['\x7d']

/-- The fields of a document. Extra ones are ignored. -/
def ofJson : Json → Option EnrollFields
  | .obj members => do
    let serial ← stringField members "serial"
    let mac ← stringField members "mac"
    let model ← stringField members "model"
    let identity ← stringField members "identity"
    let rosVersion ← stringField members "ros_version"
    let wifiStack ← stringField members "wifi_stack"
    let routerPublicKey ← stringField members "router_public_key"
    some ⟨serial, mac, model, identity, rosVersion, wifiStack, routerPublicKey⟩
  | _ => none

/-- Their validation. -/
def validate (f : EnrollFields) : Option AutoEnrollRequest :=
  AutoEnrollRequest.validate f.serial f.mac f.model f.identity f.rosVersion f.wifiStack
    f.routerPublicKey

/-- The values, in the order of the document. -/
def texts (f : EnrollFields) : List Text :=
  [f.serial, f.mac, f.model, f.identity, f.rosVersion, f.wifiStack, f.routerPublicKey]

/-- No value has a quote, a backslash or a control character. -/
def Plain (f : EnrollFields) : Prop := ∀ t ∈ f.texts, t.all Json.isPlain = true

end EnrollFields

/-- The request that a body is read as. One that is read as none is answered 422. -/
def AutoEnrollRequest.decode (body : Text) : Option AutoEnrollRequest :=
  ((loads body).bind EnrollFields.ofJson).bind EnrollFields.validate

/-- The values of a request. -/
def AutoEnrollRequest.fields (p : AutoEnrollRequest) : EnrollFields :=
  ⟨p.serial, p.mac, p.model, p.identity, p.rosVersion, p.wifiStack.str, p.routerPublicKey⟩

/-! ## The document -/

namespace EnrollFields

/-- The names of the fields. -/
def names : List String :=
  ["serial", "mac", "model", "identity", "ros_version", "wifi_stack", "router_public_key"]

/-- The values under their names. -/
def members (f : EnrollFields) : List (String × Option Json) := [
  ("serial", some (.str f.serial)),
  ("mac", some (.str f.mac)),
  ("model", some (.str f.model)),
  ("identity", some (.str f.identity)),
  ("ros_version", some (.str f.rosVersion)),
  ("wifi_stack", some (.str f.wifiStack)),
  ("router_public_key", some (.str f.routerPublicKey))]

variable {f : EnrollFields}

theorem names_nodup : (names.map String.toList).Nodup := by decide

/-- The payload is the text of the document. -/
theorem payload_eq (f : EnrollFields) : f.payload = verbatim (record f.members) := by
  simp only [payload, members, verbatim_record, more_some, more_nil, field_quoted,
    List.append_assoc, List.cons_append, List.nil_append]

theorem regular_members (f : EnrollFields) : Regular (record f.members) :=
  regular_record names rfl names_nodup (by simp [members, onValue_some, regular_str])

theorem isPlain_members : IsPlain (record f.members) ↔ f.Plain := by
  rw [isPlain_record names rfl (by decide)]
  simp only [members, List.forall_mem_cons, onValue_some, isPlain_str, Plain, texts]
  simp

theorem ofJson_members (f : EnrollFields) : ofJson (record f.members) = some f := by
  simp [ofJson, record, present, members, stringField, List.lookup_cons]

theorem stringField_some {members : List (Text × Json)} {name : String} {t : Text}
    (h : stringField members name = some t) : members.lookup name.toList = some (.str t) := by
  unfold stringField at h
  split at h
  · rename_i u hu
    rw [hu, Option.some.inj h]
  · cases h

/-- A document with these fields has these members, among any others. -/
theorem lookup_of_ofJson {ms : List (Text × Json)} (h : ofJson (.obj ms) = some f) :
    ∀ m ∈ present f.members, ms.lookup m.1 = some m.2 := by
  simp only [ofJson, bind, Option.bind_eq_some_iff, Option.some.injEq] at h
  obtain ⟨serial, hserial, mac, hmac, model, hmodel, identity, hidentity, rosVersion, hversion,
    wifiStack, hstack, key, hkey, rfl⟩ := h
  refine (forall_present (P := fun name j => ms.lookup name = some j)).mpr ?_
  simp only [members, List.forall_mem_cons, onValue_some, List.not_mem_nil, false_imp_iff,
    implies_true, and_true]
  exact ⟨stringField_some hserial, stringField_some hmac, stringField_some hmodel,
    stringField_some hidentity, stringField_some hversion, stringField_some hstack,
    stringField_some hkey⟩

/-- **Plain values are read back.** -/
theorem loads_payload (h : f.Plain) : (loads f.payload).bind ofJson = some f := by
  have hread := Json.loads_verbatim (regular_members f) (isPlain_members.mpr h)
  rw [payload_eq, hread]
  exact ofJson_members f

/-- **Only plain values are read back.** -/
theorem plain_of_loads_payload (h : (loads f.payload).bind ofJson = some f) : f.Plain := by
  obtain ⟨j, hread, hj⟩ := Option.bind_eq_some_iff.mp h
  cases j with
  | obj ms =>
    have hkeys : ((present f.members).map Prod.fst).Nodup :=
      (keys_present f.members).nodup names_nodup
    rw [payload_eq] at hread
    exact isPlain_members.mp (Json.plain_of_lookups hkeys hread (lookup_of_ofJson hj))
  | _ => cases hj

/-- A request has the values that it was validated from. -/
theorem fields_validate {p : AutoEnrollRequest} (h : f.validate = some p) : p.fields = f := by
  unfold validate AutoEnrollRequest.validate at h
  split at h
  · cases h
  · rename_i stack hstack
    split at h
    · obtain rfl := Option.some.inj h
      have hname : stack.str = f.wifiStack := by
        unfold WifiStack.parse at hstack
        split at hstack
        · rename_i hw
          obtain rfl := Option.some.inj hstack
          exact hw.symm
        · split at hstack
          · rename_i hw
            obtain rfl := Option.some.inj hstack
            exact hw.symm
          · cases hstack
      simp only [AutoEnrollRequest.fields, hname]
    · cases h

theorem decode_of_plain (h : f.Plain) : AutoEnrollRequest.decode f.payload = f.validate := by
  rw [AutoEnrollRequest.decode, loads_payload h]
  rfl

/-- **Plain values arrive as they are**, and with any other value the request is refused or says
something else. -/
theorem decode_payload (f : EnrollFields) :
    (f.Plain → AutoEnrollRequest.decode f.payload = f.validate) ∧
      (¬ f.Plain → ∀ p, AutoEnrollRequest.decode f.payload = some p → p.fields ≠ f) := by
  refine ⟨decode_of_plain, fun hplain p hp hfields => ?_⟩
  obtain ⟨g, hg, hvalid⟩ := Option.bind_eq_some_iff.mp hp
  obtain rfl : g = f := (fields_validate hvalid).symm.trans hfields
  exact hplain (plain_of_loads_payload hg)

/-- A name with quotes in it enrolls another serial. -/
example : (AutoEnrollRequest.decode (payload { unitA.fields with
    identity := "hAP\",\"serial\":\"HC99999999".toList })).map AutoEnrollRequest.serial =
      some "HC99999999".toList := by
  decide +kernel

end EnrollFields

end CpeCloud
