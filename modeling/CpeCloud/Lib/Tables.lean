import Mathlib.Data.List.Basic
import Mathlib.Logic.Function.Basic

/-!
# Programs of deletions and appends

Tables are a list of records for each index. An edit deletes the records of one table that satisfy
a predicate, or appends a record to one. A program is a list of edits, run in order; it `Covers`
another one when its deletions select whatever the other one's deletions do, and whatever the other
one leaves behind.

* `run_eq`: a run leaves the records that no deletion selects, in their order, and behind them the
  appends that no later deletion selects.
* **`run_run`**: a program absorbs one that it covers.
* `unselected_run`: it does not select more or less behind that program than before it.
* `Edit.Spares.filter_apply`: the records that an edit spares.
-/

universe u v

/-- A list of records for each index. -/
abbrev Tables (ι : Type u) (α : Type v) := ι → List α

namespace Tables

/-- An edit of one table. -/
inductive Edit (ι : Type u) (α : Type v) where
  | delete (i : ι) (p : α → Bool)
  | append (i : ι) (a : α)

variable {ι : Type u} {α : Type v} [DecidableEq ι]

/-- What an edit does. -/
def Edit.apply : Edit ι α → Tables ι α → Tables ι α
  | .delete i p, κ => Function.update κ i ((κ i).filter fun a => !p a)
  | .append i a, κ => Function.update κ i (κ i ++ [a])

/-- What a program does. -/
def run (es : List (Edit ι α)) (κ : Tables ι α) : Tables ι α := es.foldl (fun κ e => e.apply κ) κ

/-- The edit deletes the record, where it is in table `i`. -/
def Edit.selects : Edit ι α → ι → α → Bool
  | .delete j p, i, a => decide (j = i) && p a
  | .append _ _, _, _ => false

/-- Some edit of the program deletes the record, where it is in table `i`. -/
def selects (es : List (Edit ι α)) (i : ι) (a : α) : Bool := es.any fun e => e.selects i a

/-- The records that the program does not select. -/
def unselected (es : List (Edit ι α)) (κ : Tables ι α) : Tables ι α :=
  fun i => (κ i).filter fun a => !selects es i a

/-- The appends that no later deletion selects. -/
def left : List (Edit ι α) → Tables ι α
  | [], _ => []
  | .delete _ _ :: es, i => left es i
  | .append j a :: es, i => if j = i ∧ selects es i a = false then a :: left es i else left es i

/-- `fs` deletes what `es` deletes and what `es` leaves. -/
structure Covers (fs es : List (Edit ι α)) : Prop where
  selects : ∀ i a, selects es i a = true → selects fs i a = true
  left : ∀ i, ∀ a ∈ left es i, Tables.selects fs i a = true

theorem run_cons (e : Edit ι α) (es : List (Edit ι α)) (κ : Tables ι α) :
    run (e :: es) κ = run es (e.apply κ) := rfl

theorem selects_cons (e : Edit ι α) (es : List (Edit ι α)) (i : ι) (a : α) :
    selects (e :: es) i a = (e.selects i a || selects es i a) := rfl

/-- A deletion at the head selects along with the rest. -/
theorem unselected_delete (j : ι) (p : α → Bool) (es : List (Edit ι α)) (κ : Tables ι α) :
    unselected es ((Edit.delete j p).apply κ) = unselected (.delete j p :: es) κ := by
  funext i
  by_cases hj : i = j
  · subst hj
    simp [unselected, Edit.apply, selects_cons, Edit.selects, List.filter_filter, Bool.and_comm]
  · simp [unselected, Edit.apply, selects_cons, Edit.selects, hj, Ne.symm hj]

/-- **What a run leaves**: the start without the selected records, then the appends. -/
theorem run_eq (es : List (Edit ι α)) (κ : Tables ι α) (i : ι) :
    run es κ i = unselected es κ i ++ left es i := by
  induction es generalizing κ with
  | nil => simp [run, unselected, selects, left]
  | cons e es ih =>
    rw [run_cons, ih]
    cases e with
    | delete j p => rw [unselected_delete, left]
    | append j a =>
      by_cases hj : i = j
      · subst hj
        cases ha : selects es i a <;>
          simp [unselected, Edit.apply, selects_cons, Edit.selects, left, ha]
      · simp [unselected, Edit.apply, selects_cons, Edit.selects, left, hj, Ne.symm hj]

/-- A run depends on the unselected records only. -/
theorem run_congr {es : List (Edit ι α)} {κ κ' : Tables ι α}
    (h : unselected es κ = unselected es κ') : run es κ = run es κ' := by
  funext i
  rw [run_eq, run_eq, h]

section Covers

variable {es fs : List (Edit ι α)} (h : Covers fs es)
include h

/-- What `fs` does not select is the same behind a program that it covers. -/
theorem unselected_run (κ : Tables ι α) : unselected fs (run es κ) = unselected fs κ := by
  funext i
  have hleft : (left es i).filter (fun a => !selects fs i a) = [] := by
    rw [List.filter_eq_nil_iff]
    intro a ha
    simp [h.left i a ha]
  have hkept : ∀ a, (!selects fs i a && !selects es i a) = !selects fs i a := by
    intro a
    cases hs : selects es i a with
    | true => simp [h.selects i a hs]
    | false => simp
  simp only [unselected, run_eq es κ i, List.filter_append, hleft, List.append_nil,
    List.filter_filter, hkept]

/-- **A program absorbs one that it covers.** -/
theorem run_run (κ : Tables ι α) : run fs (run es κ) = run fs κ :=
  run_congr (unselected_run h κ)

end Covers

/-! ## What an edit spares -/

/-- The edit neither deletes nor appends a record with `p` in table `i`. -/
def Edit.Spares (i : ι) (p : α → Bool) : Edit ι α → Prop
  | .delete j q => j = i → ∀ a, p a = true → q a = false
  | .append j a => j = i → p a = false

/-- The records that are spared stay as they are. -/
theorem Edit.Spares.filter_apply {i : ι} {p : α → Bool} {e : Edit ι α} (h : e.Spares i p)
    (κ : Tables ι α) : (e.apply κ i).filter p = (κ i).filter p := by
  cases e with
  | delete j q =>
    by_cases hj : i = j
    · subst hj
      simp only [Edit.apply, Function.update_self, List.filter_filter]
      refine List.filter_congr fun a _ => ?_
      cases ha : p a with
      | true => simp [h rfl a ha]
      | false => simp
    · simp [Edit.apply, hj]
  | append j a =>
    by_cases hj : i = j
    · subst hj
      have ha : p a = false := h rfl
      simp [Edit.apply, ha]
    · simp [Edit.apply, hj]

end Tables
