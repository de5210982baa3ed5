import Mathlib.Data.List.Induction

/-!
# Runs of a partial step function

`exec step s as` takes the actions `as` in order from `s`; it is `none` when one of them is not
enabled where it is taken. `Meets step C s as` says that `C` holds of every action of the run, in
the state it is taken from.

* `exec_induction`: what every step preserves, every run preserves.
* `meets_induction`: the same for the steps that meet a condition.
* `exec_history`: what relates the actions taken to the state, step by step.
* `meets_simulation`: a run and its specification, step by step.
* `meets_or`: a run that starts in `P` either meets `C` throughout and ends in `P`, or takes one
  step that does not and ends in `Q`, when that step leads from `P` into `Q` and `Q` is closed.
  It settles "the outcome is good iff every step met the condition" with two step lemmas.

`Act` is the alphabet of parties that run or are cut off; `Turn as i n k` says that action `k` of
`as` is the one by which party `i` goes on for the `n`-th time, counted from 0.
-/

namespace Run

universe u v

variable {σ : Type u} {α : Type v} {step : σ → α → Option σ}

/-- Take the actions of a list in order. -/
def exec (step : σ → α → Option σ) : σ → List α → Option σ
  | s, [] => some s
  | s, a :: as => (step s a).bind fun s' => exec step s' as

/-- Every action of the run meets `C` in the state it is taken from. -/
def Meets (step : σ → α → Option σ) (C : σ → α → Prop) : σ → List α → Prop
  | _, [] => True
  | s, a :: as => C s a ∧ ∀ s', step s a = some s' → Meets step C s' as

instance decidableMeets {C : σ → α → Prop} [∀ s a, Decidable (C s a)] :
    ∀ (s : σ) (as : List α), Decidable (Meets step C s as)
  | _, [] => isTrue trivial
  | s, a :: as =>
    match h : step s a with
    | none => decidable_of_iff (C s a) ⟨fun hC => ⟨hC, fun s' hs => by simp [h] at hs⟩, And.left⟩
    | some t =>
      have := decidableMeets (C := C) t as
      decidable_of_iff (C s a ∧ Meets step C t as)
        ⟨fun hC => ⟨hC.1, fun u hu => Option.some.inj (h.symm.trans hu) ▸ hC.2⟩,
          fun hC => ⟨hC.1, hC.2 t h⟩⟩

@[simp] theorem exec_nil (s : σ) : exec step s [] = some s := rfl

theorem exec_cons_iff {s s' : σ} {a : α} {as : List α} :
    exec step s (a :: as) = some s' ↔ ∃ t, step s a = some t ∧ exec step t as = some s' := by
  simp [exec, Option.bind_eq_some_iff]

theorem exec_append_iff {s' : σ} {bs : List α} : ∀ (as : List α) (s : σ),
    exec step s (as ++ bs) = some s' ↔ ∃ t, exec step s as = some t ∧ exec step t bs = some s'
  | [], s => by simp
  | a :: as, s => by
    rw [List.cons_append, exec_cons_iff]
    constructor
    · rintro ⟨u, hu, h⟩
      obtain ⟨t, ht, hb⟩ := (exec_append_iff as u).mp h
      exact ⟨t, exec_cons_iff.mpr ⟨u, hu, ht⟩, hb⟩
    · rintro ⟨t, ht, hb⟩
      obtain ⟨u, hu, h⟩ := exec_cons_iff.mp ht
      exact ⟨u, hu, (exec_append_iff as u).mpr ⟨t, h, hb⟩⟩

/-- **What every step preserves, every run preserves.** -/
theorem exec_induction {P : σ → Prop}
    (hstep : ∀ {s a s'}, P s → step s a = some s' → P s') :
    ∀ {as : List α} {s s' : σ}, P s → exec step s as = some s' → P s'
  | [], s, s', h, he => by
    obtain rfl := Option.some.inj he
    exact h
  | a :: as, s, s', h, he => by
    obtain ⟨t, ht, he⟩ := exec_cons_iff.mp he
    exact exec_induction hstep (hstep h ht) he

/-- What the steps meeting `C` preserve, the runs meeting `C` preserve. -/
theorem meets_induction {P : σ → Prop} {C : σ → α → Prop}
    (hstep : ∀ {s a s'}, P s → C s a → step s a = some s' → P s') :
    ∀ {as : List α} {s s' : σ}, P s → Meets step C s as → exec step s as = some s' → P s'
  | [], s, s', h, _, he => by
    obtain rfl := Option.some.inj he
    exact h
  | a :: as, s, s', h, hm, he => by
    obtain ⟨t, ht, he⟩ := exec_cons_iff.mp he
    exact meets_induction hstep (hstep h hm.1 ht) (hm.2 t ht) he

/-- What relates the actions taken to the state reached. -/
theorem exec_history {P : List α → σ → Prop}
    (hstep : ∀ {l s a s'}, P l s → step s a = some s' → P (l ++ [a]) s') :
    ∀ {as l : List α} {s s' : σ}, P l s → exec step s as = some s' → P (l ++ as) s'
  | [], l, s, s', h, he => by
    obtain rfl := Option.some.inj he
    rwa [List.append_nil]
  | a :: as, l, s, s', h, he => by
    obtain ⟨t, ht, he⟩ := exec_cons_iff.mp he
    rw [← List.singleton_append, ← List.append_assoc]
    exact exec_history hstep (hstep h ht) he

/-- **A run is followed by its specification**: what relates the two before a step relates them
after it. -/
theorem meets_simulation {τ : Type*} {abs : τ → α → τ} {P : σ → τ → Prop} {C : σ → α → Prop}
    (hstep : ∀ {s t a s'}, P s t → C s a → step s a = some s' → P s' (abs t a)) :
    ∀ {as : List α} {s s' : σ} {t : τ}, P s t → Meets step C s as → exec step s as = some s' →
      P s' (as.foldl abs t)
  | [], s, s', t, h, _, he => by
    obtain rfl := Option.some.inj he
    exact h
  | a :: as, s, s', t, h, hm, he => by
    obtain ⟨u, hu, he⟩ := exec_cons_iff.mp he
    rw [List.foldl_cons]
    exact meets_simulation hstep (hstep h hm.1 hu) (hm.2 u hu) he

/-- **The dichotomy of a run.** -/
theorem meets_or {P Q : σ → Prop} {C : σ → α → Prop}
    (good : ∀ {s a s'}, P s → C s a → step s a = some s' → P s')
    (bad : ∀ {s a s'}, P s → ¬ C s a → step s a = some s' → Q s')
    (stay : ∀ {s a s'}, Q s → step s a = some s' → Q s') :
    ∀ {as : List α} {s s' : σ}, P s → exec step s as = some s' →
      (Meets step C s as ∧ P s') ∨ (¬ Meets step C s as ∧ Q s')
  | [], s, s', h, he => by
    obtain rfl := Option.some.inj he
    exact Or.inl ⟨trivial, h⟩
  | a :: as, s, s', h, he => by
    obtain ⟨t, ht, he⟩ := exec_cons_iff.mp he
    by_cases hC : C s a
    · rcases meets_or good bad stay (good h hC ht) he with ⟨hm, hp⟩ | ⟨hm, hq⟩
      · refine Or.inl ⟨⟨hC, fun u hu => ?_⟩, hp⟩
        obtain rfl := Option.some.inj (ht.symm.trans hu)
        exact hm
      · exact Or.inr ⟨fun h => hm (h.2 t ht), hq⟩
    · exact Or.inr ⟨fun h => hC h.1, exec_induction stay (bad h hC ht) he⟩

/-! ## Parties -/

/-- Who moves: a party goes on, or is cut off. -/
inductive Act (ι : Type u) where
  | run (i : ι)
  | fail (i : ι)
  deriving DecidableEq

/-- The party that moves. -/
def Act.who {ι : Type u} : Act ι → ι
  | .run i => i
  | .fail i => i

section Turns

variable {ι : Type u} [DecidableEq ι] {as : List (Act ι)} {i : ι} {n k : Nat}

/-- By action `k`, party `i` goes on for the `n`-th time. -/
def Turn (as : List (Act ι)) (i : ι) (n k : Nat) : Prop :=
  as[k]? = some (.run i) ∧ (as.take k).count (.run i) = n

instance : Decidable (Turn as i n k) := inferInstanceAs (Decidable (_ ∧ _))

theorem Turn.lt_length (h : Turn as i n k) : k < as.length :=
  (List.getElem?_eq_some_iff.mp h.1).1

/-- One more action is one more turn, if anything. -/
theorem turn_append_iff {a : Act ι} :
    Turn (as ++ [a]) i n k ↔
      Turn as i n k ∨ k = as.length ∧ a = .run i ∧ as.count (.run i) = n := by
  unfold Turn
  rcases Nat.lt_trichotomy k as.length with hk | rfl | hk
  · rw [List.getElem?_append_left hk, List.take_append_of_le_length (Nat.le_of_lt hk)]
    exact ⟨Or.inl, fun h => h.resolve_right fun h => absurd h.1 (Nat.ne_of_lt hk)⟩
  · simp
  · rw [List.getElem?_eq_none (by simp; omega), List.getElem?_eq_none (Nat.le_of_lt hk)]
    simp [Nat.ne_of_gt hk]

theorem Turn.append {a : Act ι} (h : Turn as i n k) : Turn (as ++ [a]) i n k :=
  turn_append_iff.mpr (Or.inl h)

theorem Turn.of_append {a : Act ι} (h : Turn (as ++ [a]) i n k) (hk : k < as.length) :
    Turn as i n k :=
  (turn_append_iff.mp h).resolve_right fun h => absurd h.1 (Nat.ne_of_lt hk)

/-- A party has had a turn iff it has gone on more often than that. -/
theorem exists_turn_iff : (∃ k, Turn as i n k) ↔ n < as.count (.run i) := by
  induction as using List.reverseRecOn with
  | nil => simp [Turn]
  | append_singleton as a ih =>
    simp only [turn_append_iff, exists_or, ih, exists_eq_left, List.count_append]
    by_cases ha : a = .run i
    · subst ha
      simp
      omega
    · simp [ha]

end Turns

end Run
