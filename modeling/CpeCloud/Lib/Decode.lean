import CpeCloud.Lib.PyValue
import CpeCloud.Lib.Verbatim
import Mathlib.Algebra.Field.Rat

/-!
# The values of a document

`value` is what `json.loads` makes of a document. A literal without fraction and exponent is an
`int`, any other number the `float` next to it (`numberOf`).

* `numberOf_intLiteral`: an integer is read back.
* `numberOf_cases`: any literal stands for its number, or for what that is rounded to.
-/

namespace Json

open PyVal (Python)

/-! ## Numbers -/

/-- The value of digits. -/
def digitsValue (t : Text) : Nat := Nat.ofDigitChars 10 t 0

/-- The sign of a literal or an exponent. -/
def signOf (t : Text) : Int := if t.head? = some '-' then -1 else 1

/-- The number that a literal stands for. -/
def rational (literal : Text) : ℚ :=
  match parts (unsigned literal) with
  | (integer, fraction, exponent) =>
    let fraction := fraction.getD []
    let exponent := exponent.getD ['0']
    let shift := signOf exponent * digitsValue (exponentDigits exponent) - fraction.length
    signOf literal * digitsValue (integer ++ fraction) * 10 ^ shift.toNat / 10 ^ (-shift).toNat

example : rational "-2.50e+3".toList = -2500 := by decide +kernel

/-- The value of a literal. -/
def numberOf (py : Python) (literal : Text) : PyVal :=
  if literal = "NaN".toList then .float .nan
  else if literal = "Infinity".toList then .float .inf
  else if literal = "-Infinity".toList then .float .negInf
  else
    match parts (unsigned literal) with
    | (integer, none, none) => .int (signOf literal * digitsValue integer)
    | _ => .float (py.round (rational literal))

/-- The values of the nodes. -/
def valueFold (py : Python) : Fold PyVal where
  null := .null
  bool b := .bool b
  num literal := numberOf py literal
  str t := .str t
  arr items := .list items
  obj members := .dict members

/-- The value of a document. -/
def value (py : Python) (j : Json) : PyVal := fold (valueFold py) j

theorem value_arr (py : Python) (items : List Json) :
    value py (.arr items) = .list (items.map (value py)) :=
  fold_arr _ items

theorem value_obj (py : Python) (members : List (Text × Json)) :
    value py (.obj members) = .dict (members.map fun m => (m.1, value py m.2)) :=
  fold_obj _ members

theorem numberOf_number (py : Python) {literal : Text} (h : isNumber literal = true) :
    numberOf py literal =
      match parts (unsigned literal) with
      | (integer, none, none) => .int (signOf literal * digitsValue integer)
      | _ => .float (py.round (rational literal)) := by
  rw [numberOf, if_neg (ne_of_isNumber h (by decide)), if_neg (ne_of_isNumber h (by decide)),
    if_neg (ne_of_isNumber h (by decide))]

theorem rational_of_int {literal integer : Text}
    (h : parts (unsigned literal) = (integer, none, none)) :
    rational literal = (signOf literal * digitsValue integer : Int) := by
  have hshift : signOf ['0'] * digitsValue (exponentDigits ['0']) - (0 : Nat) = 0 := by decide
  rw [rational, h]
  simp only [Option.getD_none, List.append_nil, List.length_nil, hshift]
  simp

theorem numberOf_cases (py : Python) {literal : Text} (h : isNumber literal = true) :
    (∃ n : Int, numberOf py literal = .int n ∧ n = rational literal) ∨
      numberOf py literal = .float (py.round (rational literal)) := by
  rw [numberOf_number py h]
  split
  · rename_i integer hparts
    exact Or.inl ⟨_, rfl, (rational_of_int hparts).symm⟩
  · exact Or.inr rfl

/-! ## Integers -/

/-- The decimal literal of a natural number. -/
def natLiteral (n : Nat) : Text := Nat.toDigits 10 n

/-- The decimal literal of an integer. -/
def intLiteral : Int → Text
  | .ofNat n => natLiteral n
  | .negSucc n => '-' :: natLiteral (n + 1)

theorem isDigit_natLiteral {n : Nat} {c : Char} (h : c ∈ natLiteral n) : c.isDigit = true :=
  Nat.isDigit_of_mem_toDigits (by decide) (by decide) h

/-- Only the literal of zero starts with a zero. -/
theorem head_natLiteral (n : Nat) :
    (natLiteral n).length = 1 ∨ (natLiteral n).head? ≠ some '0' := by
  have hhead : ∀ n, 0 < n → (natLiteral n).head? ≠ some '0' := by
    intro n
    induction n using Nat.strong_induction_on with
    | _ n ih =>
      intro hn
      by_cases hlt : n < 10
      · rw [natLiteral, Nat.toDigits_of_lt_base hlt]
        simp only [List.head?_cons, ne_eq, Option.some.injEq, Nat.digitChar_eq_zero]
        omega
      · rw [natLiteral, Nat.toDigits_of_base_le (by decide) (by omega),
          List.head?_append_of_ne_nil _ Nat.toDigits_ne_nil]
        exact ih (n / 10) (by omega) (by omega)
  cases n with
  | zero => exact Or.inl rfl
  | succ n => exact Or.inr (hhead (n + 1) (by omega))

theorem splitAtFirst_none {p : Char → Bool} {t : Text} (h : ∀ c ∈ t, p c = false) :
    splitAtFirst p t = (t, none) := by
  have htake : (t.takeWhile fun c => !p c) = t :=
    List.takeWhile_eq_self_iff.mpr fun c hc => by simp [h c hc]
  have hdrop : (t.dropWhile fun c => !p c) = [] :=
    List.dropWhile_eq_nil_iff.mpr fun c hc => by simp [h c hc]
  rw [splitAtFirst, htake, hdrop]

theorem parts_natLiteral (n : Nat) : parts (natLiteral n) = (natLiteral n, none, none) := by
  have hne : ∀ c ∈ natLiteral n, ∀ d : Char, d.isDigit = false → c ≠ d := by
    rintro c hc d hd rfl
    rw [isDigit_natLiteral hc] at hd
    cases hd
  rw [parts, splitAtFirst_none fun c hc => by simp [hne c hc 'e' rfl, hne c hc 'E' rfl]]
  simp only
  rw [splitAtFirst_none fun c hc => by simp [hne c hc '.' rfl]]

theorem unsigned_natLiteral (n : Nat) : unsigned (natLiteral n) = natLiteral n := by
  unfold unsigned
  split
  · rename_i t ht
    have hminus : '-' ∈ natLiteral n := by rw [ht]; exact List.mem_cons_self
    exact absurd (isDigit_natLiteral hminus) (by decide)
  · rfl

theorem isNumber_of_unsigned {t : Text} {n : Nat} (h : unsigned t = natLiteral n) :
    isNumber t = true := by
  have hdigits : isDigits (natLiteral n) = true := by
    simp only [isDigits, Bool.and_eq_true, List.all_eq_true]
    exact ⟨decide_eq_true Nat.toDigits_ne_nil, fun c hc => isDigit_natLiteral hc⟩
  have hhead := head_natLiteral n
  simp only [isNumber, h, parts_natLiteral, hdigits, Option.all_none, Bool.and_true, Bool.true_and,
    Bool.or_eq_true, decide_eq_true_eq]
  exact hhead

theorem digitsValue_natLiteral (n : Nat) : digitsValue (natLiteral n) = n :=
  Nat.ofDigitChars_ten_toDigits

theorem signOf_natLiteral (n : Nat) : signOf (natLiteral n) = 1 := by
  refine if_neg fun h => ?_
  exact absurd (isDigit_natLiteral (List.mem_of_head? h)) (by decide)

theorem isNumber_natLiteral (n : Nat) : isNumber (natLiteral n) = true :=
  isNumber_of_unsigned (unsigned_natLiteral n)

theorem isNumber_intLiteral : ∀ n : Int, isNumber (intLiteral n) = true
  | .ofNat n => isNumber_natLiteral n
  | .negSucc _ => isNumber_of_unsigned rfl

theorem numberOf_natLiteral (py : Python) (n : Nat) : numberOf py (natLiteral n) = .int n := by
  rw [numberOf_number py (isNumber_natLiteral n), unsigned_natLiteral, parts_natLiteral]
  simp only [signOf_natLiteral, digitsValue_natLiteral]
  rw [Int.one_mul]

/-- **An integer is read back.** -/
theorem numberOf_intLiteral (py : Python) : ∀ n : Int, numberOf py (intLiteral n) = .int n
  | .ofNat n => numberOf_natLiteral py n
  | .negSucc n => by
    have hunsigned : unsigned (intLiteral (.negSucc n)) = natLiteral (n + 1) := rfl
    rw [numberOf_number py (isNumber_of_unsigned hunsigned), hunsigned, parts_natLiteral]
    have hsign : signOf (intLiteral (.negSucc n)) = -1 := rfl
    simp only [hsign, digitsValue_natLiteral]
    rw [Int.negSucc_eq, Int.neg_one_mul, Nat.cast_succ]

end Json
