import CpeCloud.Lib.IPv4

/-!
# Settings and the libraries underneath (`app/config.py`)

A `Deployment` is one running service: its `Settings`, which `get_settings` reads once, and the
two functions it takes from elsewhere, Postgres's `MACADDR` type and `hashlib.sha256`.
-/

namespace CpeCloud

/-- Postgres stores a text without NUL characters. -/
def storable (t : Text) : Prop := Char.ofNat 0 ∉ t

instance (t : Text) : Decidable (storable t) := by
  unfold storable
  infer_instance

/-- A text that cannot hold a NUL: a path, a socket's address, the message of an error. -/
abbrev Stored := { t : Text // storable t }

/-- `Settings`, as far as the endpoints read it. The overlay network and the server address are
kept parsed (`overlay_network`, `IPv4Address(wg_server_ip)`), the CIDR also as the text the
provisioning script shows. -/
structure Settings where
  provisioningSecretCurrent : Text
  provisioningSecretPrevious : Text
  serverFqdn : Text
  enrollmentUrl : Text
  wgOverlayCidr : Text
  overlayNetwork : IPv4.Network
  wgServerIp : IPv4.Address
  wgServerPublicKey : Text
  wgConfigPath : Stored

/-- What the service takes from Postgres and from `hashlib`. -/
structure Backend where
  /-- A `MACADDR` literal as Postgres shows it after reading it, `none` if it is not one. -/
  macaddr : Text → Option Text
  /-- What Postgres shows, it reads back unchanged. -/
  macaddr_canonical : ∀ {t m : Text}, macaddr t = some m → macaddr m = some m
  /-- `hashlib.sha256(raw.encode("utf-8")).hexdigest()`. -/
  sha256Hex : Text → Text

/-- A running service. -/
structure Deployment extends Settings, Backend

/-! ## A small deployment -/

/-- Six pairs of lower-case hexadecimal digits between colons, Postgres's output form. -/
def isMacOutput : Text → Bool
  | [a, b] => hex a && hex b
  | a :: b :: ':' :: rest => hex a && hex b && isMacOutput rest
  | _ => false
where
  hex (c : Char) : Bool := c ∈ "0123456789abcdef".toList

/-- `MACADDR` on its output form, the one of its input forms used here. -/
def smallMacaddr (t : Text) : Option Text :=
  if t.length = 17 ∧ isMacOutput t then some t else none

/-- The digests of the secret and the tokens used here. -/
def smallSha256Hex (t : Text) : Text :=
  if t = "winter-is-over-2026".toList then
    "e60ff6f7d2971826e334d148ea37c45a67d7cde3965d717ff8ee07bf50a11aca".toList
  else if t = "tok-A-first-enrollment".toList then
    "bf9476b333ff43d95ec98598773a9b7bc6fd6e251a7086e40e6f60a609b5730c".toList
  else if t = "tok-B-second-enrollment".toList then
    "b0e995ffe074d441ce70c263edb70884692f8c105c13c13b279ee72eb4d302b3".toList
  else if t = "tok-C-another-router".toList then
    "8f171913c0b70495499f4349e95a783f74b07f92a655b5a2dc11d130674f46ef".toList
  else t

/-- A deployment with six host addresses. -/
def smallDeployment : Deployment where
  provisioningSecretCurrent := "winter-is-over-2026".toList
  provisioningSecretPrevious := []
  serverFqdn := "cpe.example.net".toList
  enrollmentUrl := "https://cpe.example.net/api/v1/auto-enroll".toList
  wgOverlayCidr := "10.100.0.0/29".toList
  overlayNetwork := ⟨0x0a640000, 29, by decide, by decide, by decide⟩
  wgServerIp := Fin.ofNat (2 ^ 32) 0x0a640001
  wgServerPublicKey := "AAAAAAAAAAAAAAAAAAAAAAAAAAAAAAAAAAAAAAAAAAA=".toList
  wgConfigPath := ⟨"/etc/wireguard/wg0.conf".toList, by decide⟩
  macaddr := smallMacaddr
  macaddr_canonical := by
    intro t m h
    unfold smallMacaddr at h
    split at h
    · rename_i ht
      obtain rfl := Option.some.inj h
      exact if_pos ht
    · simp at h
  sha256Hex := smallSha256Hex

end CpeCloud
