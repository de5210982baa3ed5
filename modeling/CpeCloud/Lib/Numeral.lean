import CpeCloud.Lib.Text

/-!
# Decimal numerals, in Python's sense

`digitValue` knows every Unicode decimal digit (category `Nd`, Unicode 14), as `\d` and `int` do.
`parseInt` is `int(s)` for a `str`: surrounding whitespace, one optional sign, then digits with
single underscores between them. How many digits Python reads at most is `maxStrDigits`, which the
parsers here do not know of.

* `Digits`, `Literal`: what a numeral is, and the number it shows.
* **`parseNat_eq_some_iff`**, **`parseInt_eq_some_iff`**: the parsers read exactly these.
-/

namespace Numeral

/-- The code point of the digit zero of every decimal script. -/
def zeros : List Nat :=
  [0x30, 0x660, 0x6f0, 0x7c0, 0x966, 0x9e6, 0xa66, 0xae6, 0xb66, 0xbe6, 0xc66, 0xce6, 0xd66,
    0xde6, 0xe50, 0xed0, 0xf20, 0x1040, 0x1090, 0x17e0, 0x1810, 0x1946, 0x19d0, 0x1a80, 0x1a90,
    0x1b50, 0x1bb0, 0x1c40, 0x1c50, 0xa620, 0xa8d0, 0xa900, 0xa9d0, 0xa9f0, 0xaa50, 0xabf0,
    0xff10, 0x104a0, 0x10d30, 0x11066, 0x110f0, 0x11136, 0x111d0, 0x112f0, 0x11450, 0x114d0,
    0x11650, 0x116c0, 0x11730, 0x118e0, 0x11950, 0x11c50, 0x11d50, 0x11da0, 0x16a60, 0x16ac0,
    0x16b50, 0x1d7ce, 0x1d7d8, 0x1d7e2, 0x1d7ec, 0x1d7f6, 0x1e140, 0x1e2f0, 0x1e950, 0x1fbf0]

/-- The value of a decimal digit. -/
def digitValue (c : Char) : Option Nat :=
  (zeros.find? fun z => z ≤ c.toNat && c.toNat < z + 10).map (c.toNat - ·)

/-- The whitespace `int` strips: `str.isspace` without the four ASCII separators. -/
def isIntSpace (c : Char) : Bool :=
  Text.isSpace c && !(28 ≤ c.toNat && c.toNat ≤ 31)

/-- The digits behind the first one, with single underscores between them. -/
def digitsFrom (acc : Nat) : Text → Option Nat
  | [] => some acc
  | '_' :: c :: s => (digitValue c).bind fun d => digitsFrom (acc * 10 + d) s
  | c :: s => (digitValue c).bind fun d => digitsFrom (acc * 10 + d) s

/-- An unsigned numeral. -/
def parseNat : Text → Option Nat
  | [] => none
  | c :: s => (digitValue c).bind fun d => digitsFrom d s

/-- `int(s)`, `none` where it raises `ValueError`. -/
def parseInt (s : Text) : Option Int :=
  match (s.dropWhile isIntSpace).rdropWhile isIntSpace with
  | '+' :: t => (parseNat t).map Int.ofNat
  | '-' :: t => (parseNat t).map fun n => -Int.ofNat n
  | t => (parseNat t).map Int.ofNat

example : [parseInt " 7 ".toList, parseInt "1_0".toList, parseInt "-7".toList, parseInt "7rc".toList,
    parseInt "_1".toList, parseInt "".toList] = [some 7, some 10, some (-7), none, none, none] := by
  decide

/-- The digits of a text. -/
def digitCount (s : Text) : Nat := s.countP fun c => (digitValue c).isSome

/-- `sys.get_int_max_str_digits()`, as Python sets it: `int` reads no more digits of a text. -/
def maxStrDigits : Nat := 4300

/-! ## What is a numeral -/

/-- Digits with single underscores between them, and the number they show. -/
inductive Digits : Text → Nat → Prop
  | digit {c : Char} {d : Nat} (h : digitValue c = some d) : Digits [c] d
  | next {s : Text} {c : Char} {n d : Nat} (hs : Digits s n) (h : digitValue c = some d) :
      Digits (s ++ [c]) (n * 10 + d)
  | underscore {s : Text} {c : Char} {n d : Nat} (hs : Digits s n) (h : digitValue c = some d) :
      Digits (s ++ ['_', c]) (n * 10 + d)

/-- Surrounding whitespace, one optional sign, and digits. -/
inductive Literal : Text → Int → Prop
  | plain {l t r : Text} {n : Nat} (hl : ∀ c ∈ l, isIntSpace c = true)
      (hr : ∀ c ∈ r, isIntSpace c = true) (ht : Digits t n) : Literal (l ++ t ++ r) n
  | plus {l t r : Text} {n : Nat} (hl : ∀ c ∈ l, isIntSpace c = true)
      (hr : ∀ c ∈ r, isIntSpace c = true) (ht : Digits t n) : Literal (l ++ '+' :: t ++ r) n
  | minus {l t r : Text} {n : Nat} (hl : ∀ c ∈ l, isIntSpace c = true)
      (hr : ∀ c ∈ r, isIntSpace c = true) (ht : Digits t n) : Literal (l ++ '-' :: t ++ r) (-n)

theorem digitValue_underscore : digitValue '_' = none := by decide

/-- No digit is whitespace, or a sign. -/
theorem not_special_of_digit {c : Char} {d : Nat} (h : digitValue c = some d) :
    Text.isSpace c = false ∧ c ≠ '+' ∧ c ≠ '-' := by
  have hall : ∀ z ∈ zeros, ∀ k < 10, Text.isSpace (Char.ofNat (z + k)) = false ∧
      Char.ofNat (z + k) ≠ '+' ∧ Char.ofNat (z + k) ≠ '-' := by decide +kernel
  obtain ⟨z, hz, -⟩ := Option.map_eq_some_iff.mp h
  have hrange := List.find?_some hz
  simp only [Bool.and_eq_true, decide_eq_true_eq] at hrange
  have hc := hall z (List.mem_of_find?_eq_some hz) (c.toNat - z) (by omega)
  rwa [Nat.add_sub_cancel' hrange.1, Char.ofNat_toNat] at hc

theorem digitsFrom_append {s : Text} {acc : Nat} (hs : Digits s acc) {t : Text} {n : Nat}
    (h : digitsFrom acc t = some n) : Digits (s ++ t) n := by
  induction acc, t using digitsFrom.induct generalizing s with
  | case1 acc =>
    obtain rfl := Option.some.inj h
    rwa [List.append_nil]
  | case2 acc c t ih =>
    rw [digitsFrom] at h
    obtain ⟨d, hd, h⟩ := Option.bind_eq_some_iff.mp h
    rw [show s ++ '_' :: c :: t = (s ++ ['_', c]) ++ t by simp]
    exact ih d (.underscore hs hd) h
  | case3 acc c t hno ih =>
    rw [digitsFrom.eq_3 _ _ _ hno] at h
    obtain ⟨d, hd, h⟩ := Option.bind_eq_some_iff.mp h
    rw [show s ++ c :: t = (s ++ [c]) ++ t by simp]
    exact ih d (.next hs hd) h

/-- What reads to its end is read on behind it. -/
theorem digitsFrom_split {acc m : Nat} {t : Text} (h : digitsFrom acc t = some m) (u : Text) :
    digitsFrom acc (t ++ u) = digitsFrom m u := by
  induction acc, t using digitsFrom.induct with
  | case1 acc =>
    obtain rfl := Option.some.inj h
    rfl
  | case2 acc c t ih =>
    rw [digitsFrom] at h
    obtain ⟨d, hd, h⟩ := Option.bind_eq_some_iff.mp h
    rw [List.cons_append, List.cons_append, digitsFrom, hd]
    exact ih d h
  | case3 acc c t hno ih =>
    rw [digitsFrom.eq_3 _ _ _ hno] at h
    obtain ⟨d, hd, h⟩ := Option.bind_eq_some_iff.mp h
    have hc : c ≠ '_' := by
      rintro rfl
      rw [digitValue_underscore] at hd
      cases hd
    rw [List.cons_append, digitsFrom.eq_3 _ _ _ fun _ _ he => absurd he hc, hd]
    exact ih d h

theorem parseNat_split {s : Text} {n : Nat} (h : parseNat s = some n) (u : Text) :
    parseNat (s ++ u) = digitsFrom n u := by
  cases s with
  | nil => cases h
  | cons c s =>
    obtain ⟨d, hd, h⟩ := Option.bind_eq_some_iff.mp h
    rw [List.cons_append, parseNat, hd]
    exact digitsFrom_split h u

/-- **`parseNat` reads the digits, and nothing else.** -/
theorem parseNat_eq_some_iff {s : Text} {n : Nat} : parseNat s = some n ↔ Digits s n := by
  constructor
  · intro h
    cases s with
    | nil => cases h
    | cons c s =>
      obtain ⟨d, hd, h⟩ := Option.bind_eq_some_iff.mp h
      exact digitsFrom_append (.digit hd) h
  · intro h
    induction h with
    | digit h => rw [parseNat, h]; rfl
    | @next s c n d hs h ih =>
      have hc : c ≠ '_' := by
        rintro rfl
        rw [digitValue_underscore] at h
        cases h
      rw [parseNat_split ih, digitsFrom.eq_3 _ _ _ fun _ _ he => absurd he hc, h]
      rfl
    | underscore hs h ih =>
      rw [parseNat_split ih, digitsFrom, h]
      rfl

/-! ## The numeral of a number -/

theorem digitValue_digitChar {d : Nat} (h : d < 10) : digitValue d.digitChar = some d := by
  have hall : ∀ d < 10, digitValue (Nat.digitChar d) = some d := by decide
  exact hall d h

/-- Decimal digits, and the number they are of. -/
theorem digits_toDigits (n : Nat) : Digits (Nat.toDigits 10 n) n ∧
    ∀ c ∈ Nat.toDigits 10 n, ∃ d, digitValue c = some d := by
  induction n using Nat.strong_induction_on with
  | _ n ih =>
    by_cases hlt : n < 10
    · rw [Nat.toDigits_of_lt_base hlt]
      exact ⟨.digit (digitValue_digitChar hlt),
        List.forall_mem_singleton.mpr ⟨n, digitValue_digitChar hlt⟩⟩
    · have hlast := digitValue_digitChar (Nat.mod_lt n (show 0 < 10 by decide))
      obtain ⟨hdigits, hall⟩ := ih (n / 10) (by omega)
      rw [Nat.toDigits_of_base_le (by decide) (by omega)]
      refine ⟨?_, fun c hc => ?_⟩
      · have hnext := Digits.next hdigits hlast
        rwa [Nat.div_add_mod'] at hnext
      · rcases List.mem_append.mp hc with hc | hc
        · exact hall c hc
        · rw [List.mem_singleton.mp hc]
          exact ⟨_, hlast⟩

/-! ## Whitespace around it -/

theorem Digits.head {s : Text} {n : Nat} (h : Digits s n) :
    ∃ c t d, s = c :: t ∧ digitValue c = some d := by
  induction h with
  | digit h => exact ⟨_, _, _, rfl, h⟩
  | next hs h ih =>
    obtain ⟨c, t, d, rfl, hc⟩ := ih
    exact ⟨c, _, d, rfl, hc⟩
  | underscore hs h ih =>
    obtain ⟨c, t, d, rfl, hc⟩ := ih
    exact ⟨c, _, d, rfl, hc⟩

theorem Digits.ne_nil {s : Text} {n : Nat} (h : Digits s n) : s ≠ [] := by
  obtain ⟨c, t, d, rfl, -⟩ := h.head
  exact List.cons_ne_nil c t

theorem Digits.last {s : Text} {n : Nat} (h : Digits s n) :
    ∃ t c d, s = t ++ [c] ∧ digitValue c = some d := by
  cases h with
  | digit h => exact ⟨[], _, _, rfl, h⟩
  | next hs h => exact ⟨_, _, _, rfl, h⟩
  | @underscore s c n d hs h => exact ⟨s ++ ['_'], c, d, by simp, h⟩

theorem isIntSpace_of_digit {c : Char} {d : Nat} (h : digitValue c = some d) :
    isIntSpace c = false := by
  rw [isIntSpace, (not_special_of_digit h).1, Bool.false_and]

/-- The whitespace around a text that neither begins nor ends with whitespace goes. -/
theorem strip_around {l m r : Text} {a z : Char} (hl : ∀ c ∈ l, isIntSpace c = true)
    (hr : ∀ c ∈ r, isIntSpace c = true) (ha : isIntSpace a = false) (hz : isIntSpace z = false)
    (hhead : ∃ t, m = a :: t) (hlast : ∃ t, m = t ++ [z]) :
    ((l ++ m ++ r).dropWhile isIntSpace).rdropWhile isIntSpace = m := by
  have hdrop : (l ++ m ++ r).dropWhile isIntSpace = m ++ r := by
    obtain ⟨t, rfl⟩ := hhead
    rw [List.append_assoc, List.dropWhile_append_of_pos hl, List.cons_append,
      List.dropWhile_cons_of_neg (by simp [ha])]
  obtain ⟨t, rfl⟩ := hlast
  rw [hdrop, Text.rdropWhile_append_of_all _ hr, List.rdropWhile_concat_neg _ _ _ (by simp [hz])]

/-- The whitespace around a sign and digits goes. -/
theorem strip_signed {l r t : Text} {n : Nat} (hl : ∀ c ∈ l, isIntSpace c = true)
    (hr : ∀ c ∈ r, isIntSpace c = true) (ht : Digits t n) {sign : Char}
    (hsign : isIntSpace sign = false) :
    ((l ++ sign :: t ++ r).dropWhile isIntSpace).rdropWhile isIntSpace = sign :: t := by
  obtain ⟨t', z, d, hz, hdz⟩ := ht.last
  exact strip_around hl hr hsign (isIntSpace_of_digit hdz) ⟨t, rfl⟩
    ⟨sign :: t', by rw [hz, List.cons_append]⟩

/-- **`int(s)` reads the literals, and nothing else.** -/
theorem parseInt_eq_some_iff {s : Text} {n : Int} : parseInt s = some n ↔ Literal s n := by
  constructor
  · intro h
    obtain ⟨l, r, hl, hr, hs⟩ := Text.exists_around isIntSpace s
    rw [hs]
    unfold parseInt at h
    generalize (s.dropWhile isIntSpace).rdropWhile isIntSpace = m at h
    split at h
    · obtain ⟨k, hk, rfl⟩ := Option.map_eq_some_iff.mp h
      exact .plus hl hr (parseNat_eq_some_iff.mp hk)
    · obtain ⟨k, hk, rfl⟩ := Option.map_eq_some_iff.mp h
      exact .minus hl hr (parseNat_eq_some_iff.mp hk)
    · obtain ⟨k, hk, rfl⟩ := Option.map_eq_some_iff.mp h
      exact .plain hl hr (parseNat_eq_some_iff.mp hk)
  · intro h
    cases h with
    | plain hl hr ht =>
      obtain ⟨a, t, d, rfl, ha⟩ := ht.head
      obtain ⟨t', z, d', hz, hdz⟩ := ht.last
      obtain ⟨-, hplus, hminus⟩ := not_special_of_digit ha
      rw [parseInt, strip_around hl hr (isIntSpace_of_digit ha) (isIntSpace_of_digit hdz) ⟨t, rfl⟩
        ⟨t', hz⟩]
      split
      · rename_i he
        exact absurd (List.cons.inj he).1 hplus
      · rename_i he
        exact absurd (List.cons.inj he).1 hminus
      · rw [parseNat_eq_some_iff.mpr ht]
        rfl
    | plus hl hr ht =>
      rw [parseInt, strip_signed hl hr ht (by decide)]
      simp only [parseNat_eq_some_iff.mpr ht, Option.map_some, Int.ofNat_eq_natCast]
    | minus hl hr ht =>
      rw [parseInt, strip_signed hl hr ht (by decide)]
      simp only [parseNat_eq_some_iff.mpr ht, Option.map_some, Int.ofNat_eq_natCast]

end Numeral
