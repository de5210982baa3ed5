import Mathlib.Algebra.Order.Field.Basic
import Mathlib.Data.List.Count
import Mathlib.Data.Nat.Cast.Order.Ring
import Mathlib.Tactic.Linarith
import Mathlib.Tactic.Ring

/-!
# The level of a leaky bucket

A bucket holds `cap` tokens and is refilled at `rate`; each admitted call takes one token out.
`level cap rate h t` is what is in it at time `t`, after the calls admitted at the times `h`, the
latest first.

* `level_refill`: looking at the bucket between two calls changes nothing.
* **`le_level_iff`**: the level in closed form. It is at least `x` iff every window that begins
  with an admitted call leaves room for `x` more.
-/

namespace LeakyBucket

variable {K : Type*} [Field K] [LinearOrder K] [IsStrictOrderedRing K]

/-- The tokens there are at time `t`. -/
def level (cap rate : K) : List K → K → K
  | [], _ => cap
  | s :: h, t => min cap (level cap rate h s - 1 + (t - s) * rate)

variable {cap rate : K}

theorem level_refill (hrate : 0 ≤ rate) {h : List K} {t t' : K} (ht : t ≤ t') :
    min cap (level cap rate h t + (t' - t) * rate) = level cap rate h t' := by
  have hgain : 0 ≤ (t' - t) * rate := mul_nonneg (sub_nonneg.mpr ht) hrate
  cases h with
  | nil => exact min_eq_left (le_add_of_nonneg_right hgain)
  | cons s h =>
    have hsum : level cap rate h s - 1 + (t - s) * rate + (t' - t) * rate =
        level cap rate h s - 1 + (t' - s) * rate := by ring
    rw [level, ← min_add_add_right, ← min_assoc, min_eq_left (le_add_of_nonneg_right hgain), hsum,
      level]

/-- **The level in closed form.** -/
theorem le_level_iff {h : List K} (hs : h.Pairwise (· ≥ ·)) {x t : K} :
    x ≤ level cap rate h t ↔
      x ≤ cap ∧ ∀ s ∈ h, x + (h.countP fun u => s ≤ u) ≤ cap + (t - s) * rate := by
  induction h generalizing x t with
  | nil => simp [level]
  | cons s h ih =>
    obtain ⟨hle, hs⟩ := List.pairwise_cons.mp hs
    have hshift : x ≤ level cap rate h s - 1 + (t - s) * rate ↔
        x + 1 - (t - s) * rate ≤ level cap rate h s := by
      constructor <;> intro hx <;> linarith
    have hcount (u : K) (hu : u ≤ s) : ((s :: h).countP fun v => u ≤ v) =
        (h.countP fun v => u ≤ v) + 1 := by
      rw [List.countP_cons_of_pos (by simpa using hu)]
    rw [level, le_min_iff, hshift, ih hs, List.forall_mem_cons, hcount s le_rfl]
    refine and_congr_right fun _ => ?_
    push_cast
    constructor
    · rintro ⟨hcap, hall⟩
      refine ⟨?_, fun u hu => ?_⟩
      · rcases Nat.eq_zero_or_pos (h.countP fun v => s ≤ v) with h0 | hpos
        · rw [h0, Nat.cast_zero]
          linarith
        · -- An earlier call at the same time: its own window says it.
          obtain ⟨u, hu, hsu⟩ := List.countP_pos_iff.mp hpos
          obtain rfl : u = s := le_antisymm (hle u hu) (by simpa using hsu)
          have := hall u hu
          linarith
      · rw [hcount u (hle u hu)]
        have := hall u hu
        push_cast
        linarith
    · rintro ⟨hself, hall⟩
      refine ⟨?_, fun u hu => ?_⟩
      · have : (0 : K) ≤ (h.countP fun v => s ≤ v : Nat) := Nat.cast_nonneg _
        linarith
      · have := hall u hu
        rw [hcount u (hle u hu)] at this
        push_cast at this
        linarith

end LeakyBucket
