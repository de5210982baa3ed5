import CpeCloud.Lib.Regex

/-!
# Patterns with groups

Python's `re`, for a `Regex` with named groups and greedy `(?:…)?` around it. `runs p s` lists the
matches of `p` at the start of `s` in the order backtracking tries them, each with the groups that
took part and with what is left; `re.match` is the first.

`mem_plain`, `mem_group`, `mem_opt` and `mem_seq` say which matches there are.
-/

/-- A pattern with groups named in `γ`. -/
inductive Pattern (γ : Type) where
  | plain (r : Regex)
  /-- `(?P<g>r)`. -/
  | group (g : γ) (r : Regex)
  /-- `(?:p)?`, greedy. -/
  | opt (p : Pattern γ)
  | seq (p q : Pattern γ)

namespace Pattern

variable {γ : Type}

/-- The matches at the start of the text: the groups, and what is left. -/
def runs : Pattern γ → Text → List (List (γ × Text) × Text)
  | plain r, s => (r.rests s).map fun t => ([], t)
  | group g r, s => (r.rests s).map fun t => ([(g, s.take (s.length - t.length))], t)
  | opt p, s => runs p s ++ [([], s)]
  | seq p q, s => (runs p s).flatMap fun m => (runs q m.2).map fun n => (m.1 ++ n.1, n.2)

/-- `re.match`: the groups that took part. -/
def firstMatch (p : Pattern γ) (s : Text) : Option (List (γ × Text)) :=
  (runs p s).head?.map Prod.fst

variable {p q : Pattern γ} {r : Regex} {g : γ} {s t : Text} {gs : List (γ × Text)}

theorem mem_plain : (gs, t) ∈ runs (plain r) s ↔ gs = [] ∧ t ∈ r.rests s := by
  simp only [runs, List.mem_map, Prod.mk.injEq]
  constructor
  · rintro ⟨t, ht, rfl, rfl⟩
    exact ⟨rfl, ht⟩
  · rintro ⟨rfl, ht⟩
    exact ⟨t, ht, rfl, rfl⟩

/-- A group holds what its pattern reads. -/
theorem mem_group :
    (gs, t) ∈ runs (group g r) s ↔ ∃ w, s = w ++ t ∧ t ∈ r.rests s ∧ gs = [(g, w)] := by
  simp only [runs, List.mem_map, Prod.mk.injEq]
  constructor
  · rintro ⟨t, ht, rfl, rfl⟩
    obtain ⟨w, rfl⟩ := Regex.suffix_of_mem_rests ht
    refine ⟨w, rfl, ht, ?_⟩
    rw [List.length_append, Nat.add_sub_cancel, List.take_left]
  · rintro ⟨w, rfl, ht, rfl⟩
    refine ⟨t, ht, ?_, rfl⟩
    rw [List.length_append, Nat.add_sub_cancel, List.take_left]

theorem mem_opt :
    (gs, t) ∈ runs (opt p) s ↔ (gs, t) ∈ runs p s ∨ gs = [] ∧ t = s := by
  simp only [runs, List.mem_append, List.mem_singleton, Prod.mk.injEq]

theorem mem_seq : (gs, t) ∈ runs (seq p q) s ↔
    ∃ gs₁ u gs₂, (gs₁, u) ∈ runs p s ∧ (gs₂, t) ∈ runs q u ∧ gs = gs₁ ++ gs₂ := by
  simp only [runs, List.mem_flatMap, List.mem_map, Prod.mk.injEq]
  constructor
  · rintro ⟨⟨gs₁, u⟩, hm, ⟨gs₂, t⟩, hn, rfl, rfl⟩
    exact ⟨gs₁, u, gs₂, hm, hn, rfl⟩
  · rintro ⟨gs₁, u, gs₂, hm, hn, rfl⟩
    exact ⟨(gs₁, u), hm, (gs₂, t), hn, rfl, rfl⟩

theorem firstMatch_eq_none_iff : firstMatch p s = none ↔ ∀ gs t, (gs, t) ∉ runs p s := by
  rw [firstMatch, Option.map_eq_none_iff, List.head?_eq_none_iff, List.eq_nil_iff_forall_not_mem]
  exact Prod.forall

theorem exists_of_firstMatch (h : firstMatch p s = some gs) : ∃ t, (gs, t) ∈ runs p s := by
  obtain ⟨⟨gs, t⟩, hm, rfl⟩ := Option.map_eq_some_iff.mp h
  exact ⟨t, List.mem_of_head? hm⟩

end Pattern
