import CpeCloud.Lib.Base64
import CpeCloud.Lib.Numeral
import CpeCloud.Lib.Regex
import CpeCloud.Models
import CpeCloud.Settings

/-!
# The enrollment payload (`app/routers/auto_enroll.py`)

`AutoEnrollRequest` is a payload that passed validation: its length limits and the public-key
check are fields, so the handler cannot be given one that did not. `fits` says that Postgres can
store its values, which validation does not ensure.

`initialStatusFor` is the auto-approve rule. `active_identity` says what it lets through: no
newline in the identity, except one at its very end.
-/

namespace CpeCloud

/-- Why `_validate_wg_pubkey` raises `ValueError`. -/
inductive PubkeyError where
  | invalidBase64
  | decodedLength (n : Nat)
  | nonCanonical
  deriving Repr, DecidableEq

/-- `AutoEnrollRequest._validate_wg_pubkey`: decode, check the length, re-encode and compare. -/
def validateWgPubkey (v : Text) : Except PubkeyError Text :=
  match Base64.decode v with
  | none => .error .invalidBase64
  | some decoded =>
    if decoded.length ≠ 32 then .error (.decodedLength decoded.length)
    else if Base64.encode decoded ≠ v then .error .nonCanonical
    else .ok v

/-- `AutoEnrollRequest`, validated. -/
structure AutoEnrollRequest where
  serial : Text
  mac : Text
  model : Text
  identity : Text
  rosVersion : Text
  wifiStack : WifiStack
  routerPublicKey : Text
  serial_len : 4 ≤ serial.length ∧ serial.length ≤ 64
  mac_len : mac.length = 17
  model_len : 1 ≤ model.length ∧ model.length ≤ 64
  identity_len : 1 ≤ identity.length ∧ identity.length ≤ 128
  rosVersion_len : 1 ≤ rosVersion.length ∧ rosVersion.length ≤ 32
  key_len : routerPublicKey.length = 44
  key_valid : validateWgPubkey routerPublicKey = .ok routerPublicKey
  deriving DecidableEq

/-- `^(wireless|wifi)$`. -/
def WifiStack.parse (t : Text) : Option WifiStack :=
  if t = "wireless".toList then some .wireless
  else if t = "wifi".toList then some .wifi
  else none

/-- The validation of a request body's fields. -/
def AutoEnrollRequest.validate (serial mac model identity rosVersion wifiStack
    routerPublicKey : Text) : Option AutoEnrollRequest :=
  match WifiStack.parse wifiStack with
  | none => none
  | some stack =>
    if h : (4 ≤ serial.length ∧ serial.length ≤ 64) ∧ mac.length = 17 ∧
        (1 ≤ model.length ∧ model.length ≤ 64) ∧ (1 ≤ identity.length ∧ identity.length ≤ 128) ∧
        (1 ≤ rosVersion.length ∧ rosVersion.length ≤ 32) ∧ routerPublicKey.length = 44 ∧
        validateWgPubkey routerPublicKey = .ok routerPublicKey then
      some ⟨serial, mac, model, identity, rosVersion, stack, routerPublicKey, h.1, h.2.1, h.2.2.1,
        h.2.2.2.1, h.2.2.2.2.1, h.2.2.2.2.2.1, h.2.2.2.2.2.2⟩
    else none

/-- A key that validates is an encoding. -/
theorem validateWgPubkey_ok {v w : Text} (h : validateWgPubkey v = .ok w) :
    ∃ decoded, decoded.length = 32 ∧ Base64.encode decoded = v := by
  unfold validateWgPubkey at h
  cases hd : Base64.decode v with
  | none => simp [hd] at h
  | some decoded =>
    simp only [hd] at h
    split at h
    · simp at h
    · rename_i hlen
      split at h
      · simp at h
      · rename_i henc
        exact ⟨decoded, not_not.mp hlen, not_not.mp henc⟩

theorem AutoEnrollRequest.mem_key (p : AutoEnrollRequest) {c : Char}
    (h : c ∈ p.routerPublicKey) : c ∈ Base64.alphabet ∨ c = '=' := by
  obtain ⟨decoded, -, he⟩ := validateWgPubkey_ok p.key_valid
  rw [← he] at h
  exact Base64.mem_encode h

/-! ## Row values -/

/-- `_parse_ros_major`: `int` of what precedes the first dot. -/
def parseRosMajor (version : Text) : Option Int :=
  Numeral.parseInt (version.takeWhile (· != '.'))

/-- `_IDENTITY_AUTO_APPROVE`: `^hAP .+ - .+, .+$`. -/
def identityAutoApprove : Regex :=
  .seq (.lit "hAP ".toList) <| .seq (.plus Regex.dot) <| .seq (.lit " - ".toList) <|
    .seq (.plus Regex.dot) <| .seq (.lit ", ".toList) <| .seq (.plus Regex.dot) .eos

/-- `_initial_status_for`. -/
def initialStatusFor (identity : Text) : RouterStatus :=
  if identityAutoApprove.isMatch identity then .active else .pending

/-- `SMALLINT`. -/
def fitsSmallInt (n : Int) : Prop := -32768 ≤ n ∧ n ≤ 32767

instance (n : Int) : Decidable (fitsSmallInt n) := by
  unfold fitsSmallInt
  infer_instance

/-- Every value the handler assigns to a column lies in the column's domain. -/
def AutoEnrollRequest.fits (B : Backend) (p : AutoEnrollRequest) : Prop :=
  (B.macaddr p.mac).isSome = true ∧ (∀ n ∈ parseRosMajor p.rosVersion, fitsSmallInt n) ∧
    storable p.serial ∧ storable p.identity ∧ storable p.model ∧ storable p.rosVersion

instance (B : Backend) (p : AutoEnrollRequest) : Decidable (p.fits B) := by
  unfold AutoEnrollRequest.fits
  infer_instance

/-! ## Auto-approval -/

/-- **What auto-approval lets through**: the naming convention, on one line, before at most one
newline. -/
theorem active_identity {identity : Text} (h : initialStatusFor identity = .active) :
    ∃ l e : Text, identity = l ++ e ∧ '\n' ∉ l ∧ (e = [] ∨ e = ['\n']) := by
  unfold initialStatusFor at h
  split at h
  · rename_i hm
    obtain ⟨t, ht⟩ := Regex.isMatch_iff.mp hm
    simp only [identityAutoApprove, Regex.mem_seq, Regex.mem_lit, Regex.mem_plus,
      Regex.mem_eos] at ht
    obtain ⟨_, rfl, _, ⟨a, -, ha, rfl⟩, _, rfl, _, ⟨b, -, hb, rfl⟩, _, rfl, e, ⟨c, -, hc, rfl⟩,
      -, he⟩ := ht
    have dot_ne {w : Text} (hw : ∀ c ∈ w, Regex.dot c = true) : '\n' ∉ w := fun hm => by
      simpa [Regex.dot] using hw _ hm
    refine ⟨"hAP ".toList ++ a ++ " - ".toList ++ b ++ ", ".toList ++ c, e, by simp, ?_, he⟩
    simp [dot_ne ha, dot_ne hb, dot_ne hc]
  · simp at h

/-! ## Three units -/

/-- A unit whose name auto-approves. -/
def unitA : AutoEnrollRequest :=
  (AutoEnrollRequest.validate "HC12345678".toList "e4:8d:8c:aa:bb:01".toList
    "RB952Ui-5ac2nD".toList "hAP ac2 - Lab, Bench".toList "7.14.2".toList "wireless".toList
    "BAAAAAAAAAAAAAAAAAAAAAAAAAAAAAAAAAAAAAAAAAA=".toList).get (by decide)

/-- A unit under its factory name. -/
def unitB : AutoEnrollRequest :=
  (AutoEnrollRequest.validate "HC87654321".toList "e4:8d:8c:aa:bb:02".toList
    "RB952Ui-5ac2nD".toList "MikroTik".toList "7.14.2".toList "wireless".toList
    "CAAAAAAAAAAAAAAAAAAAAAAAAAAAAAAAAAAAAAAAAAA=".toList).get (by decide)

/-- Another one under that name. -/
def unitC : AutoEnrollRequest :=
  (AutoEnrollRequest.validate "HC87654399".toList "e4:8d:8c:aa:bb:03".toList
    "RB952Ui-5ac2nD".toList "MikroTik".toList "7.14.2".toList "wireless".toList
    "DAAAAAAAAAAAAAAAAAAAAAAAAAAAAAAAAAAAAAAAAAA=".toList).get (by decide)

end CpeCloud
