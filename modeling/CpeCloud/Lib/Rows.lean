import Mathlib.Data.List.Forall2
import Mathlib.Data.List.Nodup

/-!
# Tables of keyed rows

A table is a list of rows, each with a key. `amend` is `UPDATE … WHERE key = k`. A table is
`Consistent` when no key repeats and no two rows with different keys clash, for any `clash`
relation (the unique constraints of the table, taken together).

`Consistent.insert` and `Consistent.amend` are the two writes a database admits: a row under a
fresh key, and a new version of a row, each clashing with none of the others.
-/

namespace Rows

universe u v

variable {ρ : Type u} {κ : Type v} {key : ρ → κ}

/-- The lookup of a row's key finds it. -/
theorem find_key [DecidableEq κ] {rows : List ρ} (hn : (rows.map key).Nodup) {a : ρ}
    (ha : a ∈ rows) : rows.find? (fun b => key b = key a) = some a := by
  cases hf : rows.find? fun b => key b = key a with
  | none =>
    rw [List.find?_eq_none] at hf
    exact absurd (by simp) (hf a ha)
  | some b =>
    have hk : key b = key a := by simpa using List.find?_some hf
    rw [List.inj_on_of_nodup_map hn (List.mem_of_find?_eq_some hf) ha hk]

theorem nodup_insert {rows : List ρ} (hn : (rows.map key).Nodup) {r : ρ}
    (hr : key r ∉ rows.map key) : ((rows ++ [r]).map key).Nodup := by
  rw [List.map_append, List.nodup_append]
  refine ⟨hn, by simp, fun a ha b hb hab => hr ?_⟩
  obtain rfl : b = key r := by simpa using hb
  exact hab ▸ ha

section Amend

variable [DecidableEq κ]

/-- `UPDATE … WHERE key = k`. -/
def amend (key : ρ → κ) (k : κ) (f : ρ → ρ) (rows : List ρ) : List ρ :=
  rows.map fun r => if key r = k then f r else r

variable {k : κ} {f : ρ → ρ} {rows : List ρ}

theorem amend_keys (hf : ∀ r, key r = k → key (f r) = k) :
    (amend key k f rows).map key = rows.map key := by
  rw [amend, List.map_map]
  refine List.map_congr_left fun r _ => ?_
  simp only [Function.comp]
  split
  · rename_i h
    rw [hf r h, h]
  · rfl

/-- Where a key names one row, its new version may be written as a literal. -/
theorem amend_literal (hn : (rows.map key).Nodup) {a : ρ} (ha : a ∈ rows) :
    amend key (key a) (fun _ => f a) rows = amend key (key a) f rows := by
  refine List.map_congr_left fun b hb => ?_
  by_cases hk : key b = key a
  · rw [List.inj_on_of_nodup_map hn hb ha hk]
  · rw [if_neg hk, if_neg hk]

/-- Rows under another key are not touched. -/
theorem mem_amend_of_ne (hf : ∀ r, key r = k → key (f r) = k) {r : ρ} (hr : key r ≠ k) :
    r ∈ amend key k f rows ↔ r ∈ rows := by
  simp only [amend, List.mem_map]
  constructor
  · rintro ⟨a, ha, rfl⟩
    split at hr
    · rename_i h
      exact absurd (hf a h) hr
    · rename_i h
      rw [if_neg h]
      exact ha
  · intro h
    exact ⟨r, h, if_neg hr⟩

theorem mem_amend_self {r : ρ} (hr : r ∈ rows) (hk : key r = k) : f r ∈ amend key k f rows :=
  List.mem_map.mpr ⟨r, hr, if_pos hk⟩

/-- The row under the amended key is the new version of the one that was there. -/
theorem mem_amend_of_eq {r : ρ} (h : r ∈ amend key k f rows) (hk : key r = k) :
    ∃ a ∈ rows, key a = k ∧ r = f a := by
  obtain ⟨a, ha, rfl⟩ := List.mem_map.mp h
  by_cases hak : key a = k
  · exact ⟨a, ha, hak, if_pos hak⟩
  · rw [if_neg hak] at hk
    exact absurd hk hak

/-- Two tables that correspond row by row still do after both are amended, if each pair of rows
does. -/
theorem forall₂_amend {ρ' κ' : Type*} [DecidableEq κ'] {key' : ρ' → κ'} {k' : κ'} {g : ρ' → ρ'}
    {R : ρ → ρ' → Prop} {rows : List ρ} {rows' : List ρ'} (h : List.Forall₂ R rows rows')
    (hR : ∀ a ∈ rows, ∀ b ∈ rows', R a b →
      R (if key a = k then f a else a) (if key' b = k' then g b else b)) :
    List.Forall₂ R (amend key k f rows) (amend key' k' g rows') := by
  induction h with
  | nil => exact .nil
  | cons hab h ih =>
    refine .cons (hR _ List.mem_cons_self _ List.mem_cons_self hab) (ih fun a ha b hb => ?_)
    exact hR a (List.mem_cons_of_mem _ ha) b (List.mem_cons_of_mem _ hb)

end Amend

/-! ## Correspondence -/

theorem exists_left_of_forall₂ {ρ' : Type*} {R : ρ → ρ' → Prop} {rows : List ρ} {rows' : List ρ'}
    (h : List.Forall₂ R rows rows') {b : ρ'} (hb : b ∈ rows') : ∃ a ∈ rows, R a b := by
  induction h with
  | nil => exact absurd hb List.not_mem_nil
  | cons hab h ih =>
    rcases List.mem_cons.mp hb with rfl | hb
    · exact ⟨_, List.mem_cons_self, hab⟩
    · obtain ⟨a, ha, hR⟩ := ih hb
      exact ⟨a, List.mem_cons_of_mem _ ha, hR⟩

theorem exists_right_of_forall₂ {ρ' : Type*} {R : ρ → ρ' → Prop} {rows : List ρ} {rows' : List ρ'}
    (h : List.Forall₂ R rows rows') {a : ρ} (ha : a ∈ rows) : ∃ b ∈ rows', R a b := by
  induction h with
  | nil => exact absurd ha List.not_mem_nil
  | cons hab h ih =>
    rcases List.mem_cons.mp ha with rfl | ha
    · exact ⟨_, List.mem_cons_self, hab⟩
    · obtain ⟨b, hb, hR⟩ := ih ha
      exact ⟨b, List.mem_cons_of_mem _ hb, hR⟩

/-! ## Consistency -/

/-- Keys do not repeat, and no two rows clash. -/
structure Consistent (key : ρ → κ) (clash : ρ → ρ → Prop) (rows : List ρ) : Prop where
  nodup : (rows.map key).Nodup
  apart : ∀ a ∈ rows, ∀ b ∈ rows, key a ≠ key b → ¬ clash a b

variable {clash : ρ → ρ → Prop} {rows : List ρ}

theorem consistent_nil : Consistent key clash [] :=
  ⟨List.nodup_nil, fun _ ha => absurd ha List.not_mem_nil⟩

/-- A row under a fresh key that clashes with none of the others may be inserted. -/
theorem Consistent.insert (h : Consistent key clash rows) (hsymm : ∀ a b, clash a b → clash b a)
    {r : ρ} (hr : key r ∉ rows.map key) (hc : ∀ a ∈ rows, ¬ clash a r) :
    Consistent key clash (rows ++ [r]) := by
  refine ⟨nodup_insert h.nodup hr, fun a ha b hb hab => ?_⟩
  rw [List.mem_append, List.mem_singleton] at ha hb
  rcases ha with ha | rfl <;> rcases hb with hb | rfl
  · exact h.apart a ha b hb hab
  · exact hc a ha
  · exact fun hcl => hc b hb (hsymm _ _ hcl)
  · exact absurd rfl hab

/-- A row may be replaced by a new version that clashes with none of the others. -/
theorem Consistent.amend [DecidableEq κ] (h : Consistent key clash rows)
    (hsymm : ∀ a b, clash a b → clash b a) {k : κ} {f : ρ → ρ} (hf : ∀ r, key r = k → key (f r) = k)
    (hc : ∀ r ∈ rows, key r = k → ∀ a ∈ rows, key a ≠ k → ¬ clash a (f r)) :
    Consistent key clash (Rows.amend key k f rows) := by
  refine ⟨by rw [amend_keys hf]; exact h.nodup, fun a ha b hb hab => ?_⟩
  obtain ⟨a, ha', rfl⟩ := List.mem_map.mp ha
  obtain ⟨b, hb', rfl⟩ := List.mem_map.mp hb
  by_cases hak : key a = k <;> by_cases hbk : key b = k <;>
    simp only [hak, hbk, if_true, if_false] at hab ⊢
  · exact absurd (by rw [hf a hak, hf b hbk]) hab
  · exact fun hcl => hc a ha' hak b hb' hbk (hsymm _ _ hcl)
  · exact hc b hb' hbk a ha' hak
  · exact h.apart a ha' b hb' hab

end Rows
