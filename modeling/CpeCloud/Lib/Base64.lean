import CpeCloud.Lib.Text
import Mathlib.Data.List.GetD

/-!
# Base64 (RFC 4648)

`encode` and the strict decoder `decode` over the standard alphabet. The decoder takes whole
quanta of four characters, padding only in the last one, and no character outside the alphabet;
like the RFC's, it does not look at the bits the padding drops, so it accepts texts `encode` does
not produce.

* `mem_encode`: every character of an encoding is in the alphabet or is the padding character.
* **`decode_encode`**: decoding undoes encoding.
* **`exists_encode_iff`**: which texts are the encodings of `3 * k + 2` bytes.
-/

namespace Base64

/-- The standard alphabet, value 0 first. -/
def alphabet : List Char :=
  "ABCDEFGHIJKLMNOPQRSTUVWXYZabcdefghijklmnopqrstuvwxyz0123456789+/".toList

/-- The character of a six-bit value. -/
def symbol (n : Nat) : Char := alphabet.getD n 'A'

/-- The six-bit value of a character, `none` outside the alphabet. -/
def value (c : Char) : Option Nat := alphabet.findIdx? (· == c)

/-- `base64.b64encode`. -/
def encode : List UInt8 → Text
  | [] => []
  | [a] => [symbol (a.toNat / 4), symbol (a.toNat % 4 * 16), '=', '=']
  | [a, b] =>
    [symbol (a.toNat / 4), symbol (a.toNat % 4 * 16 + b.toNat / 16),
      symbol (b.toNat % 16 * 4), '=']
  | a :: b :: c :: rest =>
    symbol (a.toNat / 4) :: symbol (a.toNat % 4 * 16 + b.toNat / 16) ::
      symbol (b.toNat % 16 * 4 + c.toNat / 64) :: symbol (c.toNat % 64) :: encode rest

/-- `base64.b64decode(·, validate=True)`, `none` where it raises. -/
def decode : Text → Option (List UInt8)
  | [] => some []
  | [w, x, '=', '='] => do
    let a ← value w
    let b ← value x
    some [UInt8.ofNat (a * 4 + b / 16)]
  | [w, x, y, '='] => do
    let a ← value w
    let b ← value x
    let c ← value y
    some [UInt8.ofNat (a * 4 + b / 16), UInt8.ofNat (b % 16 * 16 + c / 4)]
  | w :: x :: y :: z :: rest => do
    let a ← value w
    let b ← value x
    let c ← value y
    let d ← value z
    let bytes ← decode rest
    some (UInt8.ofNat (a * 4 + b / 16) :: UInt8.ofNat (b % 16 * 16 + c / 4) ::
      UInt8.ofNat (c % 4 * 64 + d) :: bytes)
  | _ => none

theorem symbol_mem (n : Nat) : symbol n ∈ alphabet := by
  unfold symbol
  by_cases h : n < alphabet.length
  · rw [List.getD_eq_getElem _ _ h]
    exact List.getElem_mem h
  · rw [List.getD_eq_default _ _ (Nat.le_of_not_lt h)]
    decide

/-- **Encodings stay in the alphabet**, the padding apart. -/
theorem mem_encode : ∀ {bytes : List UInt8} {c : Char},
    c ∈ encode bytes → c ∈ alphabet ∨ c = '='
  | [], c, h => by simp [encode] at h
  | [a], c, h => by
    simp only [encode, List.mem_cons, List.not_mem_nil, or_false] at h
    rcases h with rfl | rfl | rfl | rfl
    · exact Or.inl (symbol_mem _)
    · exact Or.inl (symbol_mem _)
    · exact Or.inr rfl
    · exact Or.inr rfl
  | [a, b], c, h => by
    simp only [encode, List.mem_cons, List.not_mem_nil, or_false] at h
    rcases h with rfl | rfl | rfl | rfl
    · exact Or.inl (symbol_mem _)
    · exact Or.inl (symbol_mem _)
    · exact Or.inl (symbol_mem _)
    · exact Or.inr rfl
  | a :: b :: d :: rest, c, h => by
    simp only [encode, List.mem_cons] at h
    rcases h with rfl | rfl | rfl | rfl | h
    · exact Or.inl (symbol_mem _)
    · exact Or.inl (symbol_mem _)
    · exact Or.inl (symbol_mem _)
    · exact Or.inl (symbol_mem _)
    · exact mem_encode h

/-! ## Symbols and their values -/

theorem value_symbol {n : Nat} (h : n < 64) : value (symbol n) = some n := by
  have hall : ∀ m : Fin 64, value (symbol m.1) = some m.1 := by decide +kernel
  exact hall ⟨n, h⟩

theorem value_eq_some {c : Char} {n : Nat} (h : value c = some n) : n < 64 ∧ symbol n = c := by
  obtain ⟨hn, hc, -⟩ := List.findIdx?_eq_some_iff_getElem.mp h
  refine ⟨hn, ?_⟩
  rw [symbol, List.getD_eq_getElem _ _ hn]
  exact beq_iff_eq.mp hc

theorem mem_alphabet_iff {c : Char} : c ∈ alphabet ↔ ∃ n, value c = some n := by
  constructor
  · intro h
    refine Option.isSome_iff_exists.mp ?_
    rw [value, List.findIdx?_isSome]
    exact List.any_eq_true.mpr ⟨c, h, beq_self_eq_true c⟩
  · rintro ⟨n, hn⟩
    rw [← (value_eq_some hn).2]
    exact symbol_mem n

theorem value_ne_pad {c : Char} {n : Nat} (h : value c = some n) : c ≠ '=' := by
  rintro rfl
  exact absurd (mem_alphabet_iff.mpr ⟨n, h⟩) (by decide)

/-! ## Quanta -/

section Quanta

variable {w x y z : Char} {a b c d : Nat}

theorem decode_pad_two (hw : value w = some a) (hx : value x = some b) :
    decode [w, x, '=', '='] = some [UInt8.ofNat (a * 4 + b / 16)] := by
  rw [decode.eq_2, hw, hx]
  rfl

theorem decode_pad_one (hw : value w = some a) (hx : value x = some b) (hy : value y = some c) :
    decode [w, x, y, '='] =
      some [UInt8.ofNat (a * 4 + b / 16), UInt8.ofNat (b % 16 * 16 + c / 4)] := by
  rw [decode.eq_3 _ _ _ fun h => value_ne_pad hy h, hw, hx, hy]
  rfl

theorem decode_quantum (hw : value w = some a) (hx : value x = some b) (hy : value y = some c)
    (hz : value z = some d) (rest : Text) :
    decode (w :: x :: y :: z :: rest) = (decode rest).map fun bytes =>
      UInt8.ofNat (a * 4 + b / 16) :: UInt8.ofNat (b % 16 * 16 + c / 4) ::
        UInt8.ofNat (c % 4 * 64 + d) :: bytes := by
  rw [decode.eq_4 _ _ _ _ _ (fun h => absurd h (value_ne_pad hy))
    (fun h => absurd h (value_ne_pad hz)), hw, hx, hy, hz]
  cases decode rest <;> rfl

end Quanta

/-! ## Round trip -/

/-- **Decoding undoes encoding.** -/
theorem decode_encode : ∀ bytes : List UInt8, decode (encode bytes) = some bytes
  | [] => rfl
  | [a] => by
    have ha := a.toNat_lt
    have hbyte : a.toNat / 4 * 4 + a.toNat % 4 * 16 / 16 = a.toNat := by omega
    rw [encode, decode_pad_two (value_symbol (by omega)) (value_symbol (by omega)), hbyte,
      UInt8.ofNat_toNat]
  | [a, b] => by
    have ha := a.toNat_lt
    have hb := b.toNat_lt
    have hfirst : a.toNat / 4 * 4 + (a.toNat % 4 * 16 + b.toNat / 16) / 16 = a.toNat := by omega
    have hsecond : (a.toNat % 4 * 16 + b.toNat / 16) % 16 * 16 + b.toNat % 16 * 4 / 4 =
        b.toNat := by omega
    rw [encode, decode_pad_one (value_symbol (by omega)) (value_symbol (by omega))
      (value_symbol (by omega)), hfirst, hsecond, UInt8.ofNat_toNat, UInt8.ofNat_toNat]
  | a :: b :: c :: rest => by
    have ha := a.toNat_lt
    have hb := b.toNat_lt
    have hc := c.toNat_lt
    have hfirst : a.toNat / 4 * 4 + (a.toNat % 4 * 16 + b.toNat / 16) / 16 = a.toNat := by omega
    have hsecond : (a.toNat % 4 * 16 + b.toNat / 16) % 16 * 16 +
        (b.toNat % 16 * 4 + c.toNat / 64) / 4 = b.toNat := by omega
    have hthird : (b.toNat % 16 * 4 + c.toNat / 64) % 4 * 64 + c.toNat % 64 = c.toNat := by omega
    rw [encode, decode_quantum (value_symbol (by omega)) (value_symbol (by omega))
      (value_symbol (by omega)) (value_symbol (by omega)), decode_encode rest, hfirst, hsecond,
      hthird, UInt8.ofNat_toNat, UInt8.ofNat_toNat, UInt8.ofNat_toNat, Option.map_some]

theorem encode_injective {a b : List UInt8} (h : encode a = encode b) : a = b := by
  have hb := decode_encode b
  rw [← h, decode_encode] at hb
  exact Option.some.inj hb

/-! ## Texts that are encodings -/

section Quanta

variable {w x y z : Char} {a b c d : Nat}

theorem encode_pad_one (hw : value w = some a) (hx : value x = some b) (hy : value y = some c)
    (hzero : 4 ∣ c) :
    encode [UInt8.ofNat (a * 4 + b / 16), UInt8.ofNat (b % 16 * 16 + c / 4)] = [w, x, y, '='] := by
  obtain ⟨ha, rfl⟩ := value_eq_some hw
  obtain ⟨hb, rfl⟩ := value_eq_some hx
  obtain ⟨hc, rfl⟩ := value_eq_some hy
  have hfirst : (a * 4 + b / 16) / 4 = a := by omega
  have hsecond : (a * 4 + b / 16) % 4 * 16 + (b % 16 * 16 + c / 4) / 16 = b := by omega
  have hthird : (b % 16 * 16 + c / 4) % 16 * 4 = c := by omega
  rw [encode, UInt8.toNat_ofNat_of_lt' (show _ < 256 by omega),
    UInt8.toNat_ofNat_of_lt' (show _ < 256 by omega), hfirst, hsecond, hthird]

theorem encode_quantum (hw : value w = some a) (hx : value x = some b) (hy : value y = some c)
    (hz : value z = some d) (bytes : List UInt8) :
    encode (UInt8.ofNat (a * 4 + b / 16) :: UInt8.ofNat (b % 16 * 16 + c / 4) ::
      UInt8.ofNat (c % 4 * 64 + d) :: bytes) = w :: x :: y :: z :: encode bytes := by
  obtain ⟨ha, rfl⟩ := value_eq_some hw
  obtain ⟨hb, rfl⟩ := value_eq_some hx
  obtain ⟨hc, rfl⟩ := value_eq_some hy
  obtain ⟨hd, rfl⟩ := value_eq_some hz
  have hfirst : (a * 4 + b / 16) / 4 = a := by omega
  have hsecond : (a * 4 + b / 16) % 4 * 16 + (b % 16 * 16 + c / 4) / 16 = b := by omega
  have hthird : (b % 16 * 16 + c / 4) % 16 * 4 + (c % 4 * 64 + d) / 64 = c := by omega
  have hfourth : (c % 4 * 64 + d) % 64 = d := by omega
  rw [encode, UInt8.toNat_ofNat_of_lt' (show _ < 256 by omega),
    UInt8.toNat_ofNat_of_lt' (show _ < 256 by omega),
    UInt8.toNat_ofNat_of_lt' (show _ < 256 by omega), hfirst, hsecond, hthird, hfourth]

end Quanta

theorem encode_shape : ∀ (k : Nat) {bytes : List UInt8}, bytes.length = 3 * k + 2 →
    ∃ s c n, encode bytes = s ++ [c, '='] ∧ s.length = 4 * k + 2 ∧ (∀ d ∈ s, d ∈ alphabet) ∧
      value c = some n ∧ 4 ∣ n
  | 0, [a, b], _ => by
    have hb := b.toNat_lt
    exact ⟨[_, _], _, b.toNat % 16 * 4, rfl, rfl, by simp [symbol_mem], value_symbol (by omega),
      Nat.dvd_mul_left 4 _⟩
  | k + 1, a :: b :: c :: bytes, h => by
    have hk : bytes.length = 3 * k + 2 := by
      simp only [List.length_cons] at h
      omega
    obtain ⟨s, e, n, hs, hlen, hmem, he, hn⟩ := encode_shape k hk
    refine ⟨_ :: _ :: _ :: _ :: s, e, n, by rw [encode, hs]; rfl, ?_, ?_, he, hn⟩
    · simp only [List.length_cons]
      omega
    · simp only [List.forall_mem_cons, symbol_mem, true_and]
      exact hmem

theorem exists_encode : ∀ (k : Nat) {s : Text} {c : Char} {n : Nat}, s.length = 4 * k + 2 →
    (∀ d ∈ s, d ∈ alphabet) → value c = some n → 4 ∣ n →
      ∃ bytes : List UInt8, bytes.length = 3 * k + 2 ∧ encode bytes = s ++ [c, '=']
  | 0, [w, x], c, n, _, hmem, hc, hn => by
    simp only [List.forall_mem_cons, mem_alphabet_iff] at hmem
    obtain ⟨⟨a, ha⟩, ⟨b, hb⟩, -⟩ := hmem
    exact ⟨[_, _], rfl, encode_pad_one ha hb hc hn⟩
  | k + 1, w :: x :: y :: z :: s, c, n, hlen, hmem, hc, hn => by
    simp only [List.forall_mem_cons, mem_alphabet_iff] at hmem
    obtain ⟨⟨a, ha⟩, ⟨b, hb⟩, ⟨d, hd⟩, ⟨e, he⟩, hmem⟩ := hmem
    obtain ⟨bytes, hbytes, henc⟩ := exists_encode k (s := s) (by
      simp only [List.length_cons] at hlen
      omega) (fun d hd => mem_alphabet_iff.mpr (hmem d hd)) hc hn
    refine ⟨_ :: _ :: _ :: bytes, ?_, (encode_quantum ha hb hd he bytes).trans (by rw [henc]; rfl)⟩
    simp only [List.length_cons]
    omega

/-- **The encodings of `3 * k + 2` bytes**: symbols, the last of which has two zero bits, and one
padding character. -/
theorem exists_encode_iff (k : Nat) {v : Text} :
    (∃ bytes : List UInt8, bytes.length = 3 * k + 2 ∧ encode bytes = v) ↔
      ∃ s c n, v = s ++ [c, '='] ∧ s.length = 4 * k + 2 ∧ (∀ d ∈ s, d ∈ alphabet) ∧
        value c = some n ∧ 4 ∣ n := by
  constructor
  · rintro ⟨bytes, hlen, rfl⟩
    exact encode_shape k hlen
  · rintro ⟨s, c, n, rfl, hlen, hmem, hc, hn⟩
    exact exists_encode k hlen hmem hc hn

end Base64
