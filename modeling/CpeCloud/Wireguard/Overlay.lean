import CpeCloud.Models
import CpeCloud.Settings

/-!
# Overlay addresses (`app/services/wireguard.py`)

`allocateOverlayIp` picks the lowest host address of the overlay network that no router holds and
that is not the server's. It returns one iff one is free.
-/

namespace CpeCloud

/-- The `used` set of `allocate_overlay_ip`. -/
def usedAddresses (S : Settings) (routers : List Router) : List IPv4.Address :=
  routers.filterMap Router.wgOverlayIp ++ [S.wgServerIp]

/-- The message of the `RuntimeError` when no address is left. -/
def exhaustedMessage (n : IPv4.Network) : Text :=
  "Overlay network ".toList ++ n.str ++ " is exhausted - all ".toList ++
    (toString ((n.numAddresses : Int) - 2)).toList ++
    " host IPs in use. Expand WG_OVERLAY_CIDR.".toList

/-- `allocate_overlay_ip`, on the rows its SELECT sees. -/
def allocateOverlayIp (S : Settings) (routers : List Router) : Except Exc IPv4.Address :=
  match S.overlayNetwork.hosts.find? fun c => c ∉ usedAddresses S routers with
  | some c => .ok c
  | none => .error (.runtimeError (exhaustedMessage S.overlayNetwork))

/-- A host address no router holds and that is not the server's. -/
def Free (S : Settings) (routers : List Router) (a : IPv4.Address) : Prop :=
  a ∈ S.overlayNetwork.hosts ∧ a ≠ S.wgServerIp ∧ ∀ r ∈ routers, r.wgOverlayIp ≠ some a

theorem not_mem_usedAddresses {S : Settings} {routers : List Router} {a : IPv4.Address} :
    a ∉ usedAddresses S routers ↔ a ≠ S.wgServerIp ∧ ∀ r ∈ routers, r.wgOverlayIp ≠ some a := by
  simp only [usedAddresses, List.mem_append, List.mem_filterMap, List.mem_singleton, not_or,
    not_exists, not_and]
  exact and_comm

theorem allocateOverlayIp_ok {S : Settings} {routers : List Router} {a : IPv4.Address}
    (h : allocateOverlayIp S routers = .ok a) : Free S routers a := by
  unfold allocateOverlayIp at h
  split at h
  · rename_i c hc
    obtain rfl := Except.ok.inj h
    have hu := List.find?_some hc
    simp only [decide_eq_true_eq] at hu
    exact ⟨List.mem_of_find?_eq_some hc, not_mem_usedAddresses.mp hu⟩
  · simp at h

/-- **The allocator fails iff no address is free.** -/
theorem allocateOverlayIp_error {S : Settings} {routers : List Router} :
    (∃ e, allocateOverlayIp S routers = .error e) ↔ ¬ ∃ a, Free S routers a := by
  unfold allocateOverlayIp
  constructor
  · rintro ⟨e, h⟩ ⟨a, ha, hfree⟩
    split at h
    · simp at h
    · rename_i hnone
      rw [List.find?_eq_none] at hnone
      exact hnone a ha (by simpa using not_mem_usedAddresses.mpr hfree)
  · intro h
    split
    · rename_i c hc
      have hu := List.find?_some hc
      simp only [decide_eq_true_eq] at hu
      exact absurd ⟨c, List.mem_of_find?_eq_some hc, not_mem_usedAddresses.mp hu⟩ h
    · exact ⟨_, rfl⟩

end CpeCloud
