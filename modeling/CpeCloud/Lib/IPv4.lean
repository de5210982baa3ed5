import CpeCloud.Lib.Text
import Mathlib.Algebra.Order.Ring.Nat
import Mathlib.Data.Fin.Basic

/-!
# IPv4 addresses and networks

Python's `ipaddress` for version 4: an address is a number below `2 ^ 32`, a network is an
aligned block of them, and `hosts` enumerates the usable ones in increasing order
(`hosts_sorted`).
-/

namespace IPv4

/-- `ipaddress.IPv4Address`. -/
abbrev Address := Fin (2 ^ 32)

instance instNeZeroAddresses : NeZero (2 ^ 32) := ⟨by decide⟩

/-- The four octets of an address, most significant first. -/
def octets (a : Address) : List Nat :=
  [a.val / 2 ^ 24, a.val / 2 ^ 16 % 256, a.val / 2 ^ 8 % 256, a.val % 256]

/-- `str(address)`: dotted decimal. -/
def dotted (a : Address) : Text :=
  List.intercalate ['.'] ((octets a).map (Nat.toDigits 10))

/-- `ipaddress.IPv4Network`: a block of `2 ^ (32 - prefixlen)` addresses without host bits. -/
structure Network where
  network : Nat
  prefixlen : Nat
  prefixlen_le : prefixlen ≤ 32
  aligned : 2 ^ (32 - prefixlen) ∣ network
  fits : network < 2 ^ 32
  deriving DecidableEq

/-- `network.num_addresses`. -/
def Network.numAddresses (n : Network) : Nat := 2 ^ (32 - n.prefixlen)

/-- `network.hosts()`: a `/32` is its one address, a `/31` both of its addresses, and any other
network all but its first and its last. -/
def Network.hosts (n : Network) : List Address :=
  if n.prefixlen = 32 then [Fin.ofNat (2 ^ 32) n.network]
  else if n.prefixlen = 31 then
    [Fin.ofNat (2 ^ 32) n.network, Fin.ofNat (2 ^ 32) (n.network + 1)]
  else (List.range' (n.network + 1) (n.numAddresses - 2)).map (Fin.ofNat (2 ^ 32))

/-- A network ends at or before the last address. -/
theorem Network.fits_block (n : Network) : n.network + n.numAddresses ≤ 2 ^ 32 := by
  have hdvd : n.numAddresses ∣ 2 ^ 32 := Nat.pow_dvd_pow 2 (Nat.sub_le _ _)
  obtain ⟨a, ha⟩ := n.aligned
  obtain ⟨b, hb⟩ := hdvd
  have hfits := n.fits
  rw [ha, ← Network.numAddresses, hb] at hfits
  rw [ha, ← Network.numAddresses, hb, ← Nat.mul_succ]
  exact Nat.mul_le_mul_left _ (Nat.lt_of_mul_lt_mul_left hfits)

/-- The host addresses come in increasing order. -/
theorem Network.hosts_sorted (n : Network) : n.hosts.Pairwise (· < ·) := by
  have hblock := n.fits_block
  have hlt {a b : Nat} (hab : a < b) (hb : b < 2 ^ 32) :
      Fin.ofNat (2 ^ 32) a < Fin.ofNat (2 ^ 32) b := by
    show a % 2 ^ 32 < b % 2 ^ 32
    rwa [Nat.mod_eq_of_lt (hab.trans hb), Nat.mod_eq_of_lt hb]
  unfold Network.hosts
  split
  · exact List.pairwise_singleton _ _
  split
  · rename_i h31
    rw [Network.numAddresses, h31] at hblock
    exact List.pairwise_pair.mpr (hlt (Nat.lt_succ_self _) (by omega))
  · rw [List.pairwise_map]
    refine List.Pairwise.imp_of_mem (fun {a b} _ hb hab => hlt hab ?_) List.pairwise_lt_range'
    obtain ⟨i, hi, rfl⟩ := List.mem_range'.mp hb
    omega

/-- `str(network)`. -/
def Network.str (n : Network) : Text :=
  dotted (Fin.ofNat (2 ^ 32) n.network) ++ '/' :: Nat.toDigits 10 n.prefixlen

/-- A character of a joined text is in the separator or in one of the pieces. -/
theorem mem_intercalate {sep : Text} {c : Char} : ∀ {ls : List Text},
    c ∈ List.intercalate sep ls → c ∈ sep ∨ ∃ l ∈ ls, c ∈ l
  | [], h => by simp [List.intercalate] at h
  | [l], h => by
    simp only [List.intercalate, List.intersperse, List.flatten_cons, List.flatten_nil,
      List.append_nil] at h
    exact Or.inr ⟨l, List.mem_cons_self, h⟩
  | l :: l' :: ls, h => by
    simp only [List.intercalate, List.intersperse, List.flatten_cons, List.mem_append] at h
    rcases h with h | h | h
    · exact Or.inr ⟨l, List.mem_cons_self, h⟩
    · exact Or.inl h
    · have h' : c ∈ List.intercalate sep (l' :: ls) := by simpa [List.intercalate] using h
      rcases mem_intercalate h' with h | ⟨m, hm, h⟩
      · exact Or.inl h
      · exact Or.inr ⟨m, List.mem_cons_of_mem l hm, h⟩

/-- A dotted address has digits and dots only. -/
theorem mem_dotted {a : Address} {c : Char} (h : c ∈ dotted a) : c.isDigit = true ∨ c = '.' := by
  rcases mem_intercalate h with h | ⟨l, hl, h⟩
  · exact Or.inr (List.mem_singleton.mp h)
  · obtain ⟨n, -, rfl⟩ := List.mem_map.mp hl
    exact Or.inl (Nat.isDigit_of_mem_toDigits (by decide) (by decide) h)

example : dotted (Fin.ofNat (2 ^ 32) 0x0a640002) = "10.100.0.2".toList := by decide

end IPv4
