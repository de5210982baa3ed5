import Mathlib.Data.List.Basic

/-!
# Programs that can be cut off

A `Prog` runs commands on a state. It ends with a value, early, or with an error, and it may be cut
off behind any of its commands: a run is the list of the states behind its commands, next to how it
ends. Its last state is the last one of the list, or the first one of the run.

* `Spec P p C Q`: from a state with `P`, whatever state `p` is cut off in has `C`, and it ends in
  `Q`. There is a rule for each way to put programs together.
* `Restores I C p`: from a state with `I` it ends in one, and on the way it has `C`.
* **`Keeps.cut`**: what every command keeps, a run that is cut off keeps.
* `Attains P p R`: from a state with `P` the program comes to its end, with a value and a state that
  `R` says.
-/

universe u v

/-- How a program ends. -/
inductive Ending (α : Type v) where
  | done (a : α)
  /-- Early, by `return`. -/
  | returned
  | failed

/-- A program: from a state, the states behind its commands, and how it ends. -/
def Prog (σ : Type u) (α : Type v) := σ → List σ × Ending α

namespace Prog

variable {σ : Type u} {α β : Type v}

/-- The states behind the commands. -/
def passed (p : Prog σ α) (s : σ) : List σ := (p s).1

/-- The state it ends in. -/
def final (p : Prog σ α) (s : σ) : σ := (p.passed s).getLastD s

/-- The state behind `n` commands, where the power fails. -/
def cut (p : Prog σ α) (n : Nat) (s : σ) : σ := ((p.passed s).take n).getLastD s

/-! ## Programs -/

/-- A value. -/
protected def pure (a : α) : Prog σ α := fun _ => ([], .done a)

/-- A run that goes on behind the states `ts`. -/
def goOn (p : Prog σ α) (ts : List σ) (s : σ) : List σ × Ending α :=
  match p (ts.getLastD s) with
  | (us, e) => (ts ++ us, e)

/-- One program behind another one. -/
protected def bind (p : Prog σ α) (f : α → Prog σ β) : Prog σ β := fun s =>
  match p s with
  | (ts, .done a) => (f a).goOn ts s
  | (ts, .returned) => (ts, .returned)
  | (ts, .failed) => (ts, .failed)

instance : Monad (Prog σ) where
  pure := Prog.pure
  bind := Prog.bind

/-- A value, or an error. -/
def ofOption : Option α → Ending α
  | some a => .done a
  | none => .failed

@[simp] theorem ofOption_eq_done {o : Option α} {a : α} : ofOption o = .done a ↔ o = some a := by
  cases o <;> simp [ofOption]

/-- A command changes the state, and gives a value or fails. -/
def command (f : σ → σ × Option α) : Prog σ α := fun s => ([(f s).1], ofOption (f s).2)

/-- A lookup changes nothing. -/
def query (f : σ → Option α) : Prog σ α := fun s => ([], ofOption (f s))

/-- An error. -/
def fail : Prog σ α := fun _ => ([], .failed)

/-- `return`, if the condition holds. -/
def exitIf (b : Bool) : Prog σ PUnit.{v + 1} := fun _ => ([], if b then .returned else .done ⟨⟩)

/-- `do { p } on-error={ handler }`. -/
def onError (p handler : Prog σ α) : Prog σ α := fun s =>
  match p s with
  | (ts, .failed) => handler.goOn ts s
  | r => r

/-- `do { p } on-error={}`. -/
def attempt (p : Prog σ PUnit.{v + 1}) : Prog σ PUnit.{v + 1} := onError p (pure ⟨⟩)

/-- A program run from another one: `return` ends the inner one only. -/
def call (p : Prog σ PUnit.{v + 1}) : Prog σ PUnit.{v + 1} := fun s =>
  match p s with
  | (ts, .failed) => (ts, .failed)
  | (ts, _) => (ts, .done ⟨⟩)

/-- `Q`, or `R` behind an error. -/
def caught (R : σ → Prop) (Q : Ending α → σ → Prop) : Ending α → σ → Prop
  | .done a, s => Q (.done a) s
  | .returned, s => Q .returned s
  | .failed, s => R s

/-- `Q` as it is seen from outside a program that is run. -/
def outside (Q : Ending PUnit.{v + 1} → σ → Prop) : Ending PUnit.{v + 1} → σ → Prop
  | .done a, s => Q (.done a) s
  | .returned, s => Q (.done ⟨⟩) s
  | .failed, s => Q .failed s

/-! ## Specifications -/

/-- Of a run from `s`, the states behind the commands have `C`, and it ends in `Q`. -/
def Holds (C : σ → Prop) (Q : Ending α → σ → Prop) (s : σ) (r : List σ × Ending α) : Prop :=
  (∀ t ∈ r.1, C t) ∧ Q r.2 (r.1.getLastD s)

/-- From a state with `P`, the states behind the commands have `C`, and the run ends in `Q`. -/
def Spec (P : σ → Prop) (p : Prog σ α) (C : σ → Prop) (Q : Ending α → σ → Prop) : Prop :=
  ∀ s, P s → Holds C Q s (p s)

theorem final_append (s : σ) (ts us : List σ) :
    (ts ++ us).getLastD s = us.getLastD (ts.getLastD s) := by
  cases us with
  | nil => simp
  | cons u us => simp [List.getLastD_eq_getLast?, List.getLast?_append]

theorem Holds.goOn {C : σ → Prop} {P : σ → Prop} {Q : Ending α → σ → Prop} {p : Prog σ α}
    (h : Spec P p C Q) {ts : List σ} {s : σ} (hts : ∀ t ∈ ts, C t) (hs : P (ts.getLastD s)) :
    Holds C Q s (p.goOn ts s) := by
  obtain ⟨hcut, hend⟩ := h _ hs
  refine ⟨fun t ht => ?_, ?_⟩
  · rcases List.mem_append.mp ht with ht | ht
    · exact hts t ht
    · exact hcut t ht
  · show Q _ ((ts ++ _).getLastD s)
    rw [final_append]
    exact hend

namespace Spec

variable {P P' C C' : σ → Prop} {p q : Prog σ α} {Q Q' : Ending α → σ → Prop}

theorem weaken (h : Spec P p C Q) (hP : ∀ s, P' s → P s) (hC : ∀ s, C s → C' s)
    (hQ : ∀ e s, Q e s → Q' e s) : Spec P' p C' Q' := by
  intro s hs
  obtain ⟨hcut, hend⟩ := h s (hP s hs)
  exact ⟨fun t ht => hC t (hcut t ht), hQ _ _ hend⟩

/-- What `P` says of something else than the state may be used. -/
theorem given {φ : Prop} (hφ : ∀ s, P s → φ) (h : φ → Spec P p C Q) : Spec P p C Q :=
  fun s hs => h (hφ s hs) s hs

theorem of_exists {ι : Type*} {R : ι → σ → Prop} (h : ∀ i, Spec (R i) p C Q) :
    Spec (fun s => ∃ i, R i s) p C Q := by
  rintro s ⟨i, hs⟩
  exact h i s hs

theorem pure {a : α} (h : ∀ s, P s → Q (.done a) s) : Spec P (Pure.pure a : Prog σ α) C Q :=
  fun s hs => ⟨(fun _ ht => nomatch ht), h s hs⟩

theorem query {f : σ → Option α} (hsome : ∀ s a, P s → f s = some a → Q (.done a) s)
    (hnone : ∀ s, P s → f s = none → Q .failed s) : Spec P (Prog.query f) C Q := by
  refine fun s hs => ⟨(fun _ ht => nomatch ht), ?_⟩
  show Q (ofOption (f s)) s
  cases hf : f s with
  | some a => exact hsome s a hs hf
  | none => exact hnone s hs hf

theorem command {f : σ → σ × Option α}
    (h : ∀ s, P s → C (f s).1 ∧ Q (ofOption (f s).2) (f s).1) : Spec P (Prog.command f) C Q := by
  intro s hs
  refine ⟨fun t ht => ?_, (h s hs).2⟩
  obtain rfl := List.mem_singleton.mp ht
  exact (h s hs).1

theorem exitIf {b : Bool} {Q : Ending PUnit.{v + 1} → σ → Prop}
    (htrue : b = true → ∀ s, P s → Q .returned s)
    (hfalse : b = false → ∀ s, P s → Q (.done ⟨⟩) s) : Spec P (Prog.exitIf b) C Q := by
  refine fun s hs => ⟨(fun _ ht => nomatch ht), ?_⟩
  cases b with
  | true => exact htrue rfl s hs
  | false => exact hfalse rfl s hs

/-- **One program behind another one.** -/
theorem bind {p : Prog σ α} {f : α → Prog σ β} {R : Ending α → σ → Prop}
    {Q : Ending β → σ → Prop} (hp : Spec P p C R) (hf : ∀ a, Spec (R (.done a)) (f a) C Q)
    (hreturned : ∀ s, R .returned s → Q .returned s) (hfailed : ∀ s, R .failed s → Q .failed s) :
    Spec P (p >>= f) C Q := by
  intro s hs
  have hrun := hp s hs
  show Holds C Q s (Prog.bind p f s)
  unfold Prog.bind
  generalize p s = r at hrun ⊢
  obtain ⟨ts, e⟩ := r
  cases e with
  | done a => exact Holds.goOn (hf a) hrun.1 hrun.2
  | returned => exact ⟨hrun.1, hreturned _ hrun.2⟩
  | failed => exact ⟨hrun.1, hfailed _ hrun.2⟩

/-- A program behind one that comes to its end. -/
theorem andThen {p : Prog σ PUnit.{v + 1}} {q : Prog σ β} {R : σ → Prop} {Q : Ending β → σ → Prop}
    (hp : Spec P p C fun e s => e = .done ⟨⟩ ∧ R s) (hq : Spec R q C Q) :
    Spec P (p >>= fun _ => q) C Q := by
  refine bind hp (fun _ => hq.weaken (fun s hs => hs.2) (fun _ hs => hs) fun _ _ hs => hs) ?_ ?_
  · exact fun s hs => nomatch hs.1
  · exact fun s hs => nomatch hs.1

/-- A program behind a lookup. -/
theorem query_bind {f : σ → Option α} {q : α → Prog σ β} {Q : Ending β → σ → Prop}
    (hsome : ∀ a, Spec (fun s => P s ∧ f s = some a) (q a) C Q)
    (hnone : ∀ s, P s → f s = none → Q .failed s) : Spec P (Prog.query f >>= q) C Q := by
  refine bind (R := fun e s => P s ∧ e = ofOption (f s)) (query ?_ ?_) (fun a => ?_) ?_ ?_
  · exact fun s a hs ha => ⟨hs, by rw [ha]; rfl⟩
  · exact fun s hs hn => ⟨hs, by rw [hn]; rfl⟩
  · exact (hsome a).weaken (fun s hs => ⟨hs.1, ofOption_eq_done.mp hs.2.symm⟩) (fun _ hs => hs)
      fun _ _ hs => hs
  · rintro s ⟨-, he⟩
    cases hf : f s <;> rw [hf] at he <;> cases he
  · rintro s ⟨hs, he⟩
    cases hf : f s with
    | none => exact hnone s hs hf
    | some a => rw [hf] at he; cases he

/-- A program behind an early end. -/
theorem exitIf_bind {b : Bool} {q : Prog σ β} {Q : Ending β → σ → Prop}
    (htrue : b = true → ∀ s, P s → Q .returned s) (hfalse : b = false → Spec P q C Q) :
    Spec P (Prog.exitIf b >>= fun _ => q) C Q := by
  cases b with
  | true => exact fun s hs => ⟨(fun _ ht => nomatch ht), htrue rfl s hs⟩
  | false =>
    refine bind (R := fun e s => P s ∧ e = .done ⟨⟩) (exitIf (fun h => nomatch h) ?_) (fun a => ?_)
      ?_ ?_
    · exact fun _ s hs => ⟨hs, rfl⟩
    · exact (hfalse rfl).weaken (fun s hs => hs.1) (fun _ hs => hs) (fun _ _ hs => hs)
    · exact fun s hs => nomatch hs.2
    · exact fun s hs => nomatch hs.2

theorem onError {handler : Prog σ α} {R : σ → Prop}
    (hp : Spec P p C (caught R Q)) (hh : Spec R handler C Q) : Spec P (Prog.onError p handler) C Q := by
  intro s hs
  have hrun := hp s hs
  show Holds C Q s (Prog.onError p handler s)
  unfold Prog.onError
  generalize p s = r at hrun ⊢
  obtain ⟨ts, e⟩ := r
  cases e with
  | failed => exact Holds.goOn hh hrun.1 hrun.2
  | _ => exact hrun

/-- With an empty handler an error is as good as an end. -/
theorem attempt {p : Prog σ PUnit.{v + 1}} {Q : Ending PUnit.{v + 1} → σ → Prop}
    (hp : Spec P p C (caught (Q (.done ⟨⟩)) Q)) : Spec P (Prog.attempt p) C Q :=
  onError hp (pure fun _ hs => hs)

theorem call {p : Prog σ PUnit.{v + 1}} {Q : Ending PUnit.{v + 1} → σ → Prop}
    (hp : Spec P p C (outside Q)) : Spec P (Prog.call p) C Q := by
  intro s hs
  have hrun := hp s hs
  show Holds C Q s (Prog.call p s)
  unfold Prog.call
  generalize p s = r at hrun ⊢
  obtain ⟨ts, e⟩ := r
  cases e with
  | _ => exact hrun

end Spec

/-- A cut-off run ends where it starts, or behind one of its commands. -/
theorem cut_eq_or_mem (p : Prog σ α) (n : Nat) (s : σ) : p.cut n s = s ∨ p.cut n s ∈ p.passed s := by
  unfold cut
  rcases List.eq_nil_or_concat' ((p.passed s).take n) with h | ⟨ts, t, h⟩
  · exact Or.inl (by rw [h]; rfl)
  · right
    have hlast : ((p.passed s).take n).getLastD s = t := by simp [h]
    rw [hlast]
    exact List.mem_of_mem_take (h ▸ List.mem_append_right _ List.mem_cons_self)

theorem Spec.cut {P C : σ → Prop} {p : Prog σ α} {Q : Ending α → σ → Prop} (h : Spec P p C Q)
    {s : σ} (hs : P s) (hC : C s) (n : Nat) : C (p.cut n s) := by
  rcases p.cut_eq_or_mem n s with heq | hmem
  · rwa [heq]
  · exact (h s hs).1 _ hmem

/-! ## Invariants -/

/-- From a state with `I` the program ends in one, and each state on the way has `C`. -/
def Restores (I C : σ → Prop) (p : Prog σ α) : Prop := Spec I p C fun _ => I

namespace Restores

variable {I C : σ → Prop} {p q : Prog σ α}

theorem pure (a : α) : Restores I C (Pure.pure a : Prog σ α) := Spec.pure fun _ hs => hs

theorem query (f : σ → Option α) : Restores I C (Prog.query f) :=
  Spec.query (fun _ _ hs _ => hs) fun _ hs _ => hs

theorem exitIf (b : Bool) : Restores I C (Prog.exitIf.{u, v} b) :=
  Spec.exitIf (fun _ _ hs => hs) fun _ _ hs => hs

theorem command {f : σ → σ × Option α} (hC : ∀ s, I s → C s) (h : ∀ s, I s → I (f s).1) :
    Restores I C (Prog.command f) :=
  Spec.command fun s hs => ⟨hC _ (h s hs), h s hs⟩

theorem bind {p : Prog σ α} {f : α → Prog σ β} (hp : Restores I C p)
    (hf : ∀ a, Restores I C (f a)) : Restores I C (p >>= f) :=
  Spec.bind hp hf (fun _ hs => hs) fun _ hs => hs

theorem onError {handler : Prog σ α} (hp : Restores I C p) (hh : Restores I C handler) :
    Restores I C (Prog.onError p handler) := by
  refine Spec.onError (hp.weaken (fun _ hs => hs) (fun _ hs => hs) fun e s hs => ?_) hh
  cases e with
  | _ => exact hs

theorem attempt {p : Prog σ PUnit.{v + 1}} (hp : Restores I C p) : Restores I C (Prog.attempt p) :=
  onError hp (pure _)

theorem call {p : Prog σ PUnit.{v + 1}} (hp : Restores I C p) : Restores I C (Prog.call p) := by
  refine Spec.call (hp.weaken (fun _ hs => hs) (fun _ hs => hs) fun e s hs => ?_)
  cases e with
  | _ => exact hs

theorem final (h : Restores I C p) {s : σ} (hs : I s) : I (p.final s) := (h s hs).2

end Restores

/-- Every command of the program keeps `I`. -/
def Keeps (I : σ → Prop) (p : Prog σ α) : Prop := ∀ s, I s → ∀ t ∈ p.passed s, I t

namespace Keeps

variable {I : σ → Prop} {p q : Prog σ α}

theorem final (h : Keeps I p) {s : σ} (hs : I s) : I (p.final s) := by
  unfold Prog.final
  rcases List.eq_nil_or_concat' (p.passed s) with hp | ⟨ts, t, hp⟩
  · rwa [hp]
  · have hlast : (p.passed s).getLastD s = t := by simp [hp]
    rw [hlast]
    exact h s hs t (hp ▸ List.mem_append_right _ List.mem_cons_self)

/-- **What every command keeps, a run that is cut off keeps.** -/
theorem cut (h : Keeps I p) {s : σ} (hs : I s) (n : Nat) : I (p.cut n s) := by
  rcases p.cut_eq_or_mem n s with heq | hmem
  · rwa [heq]
  · exact h s hs _ hmem

theorem spec (h : Keeps I p) : Spec I p I fun _ => I := fun s hs => ⟨h s hs, h.final hs⟩

theorem of_spec {Q : Ending α → σ → Prop} (h : Spec I p I Q) : Keeps I p := fun s hs => (h s hs).1

/-- What every command keeps is restored. -/
theorem restores {C : σ → Prop} (h : Keeps I p) (hC : ∀ s, I s → C s) : Restores I C p :=
  h.spec.weaken (fun _ hs => hs) hC fun _ _ hs => hs

theorem and {J : σ → Prop} (h : Keeps I p) (hJ : Keeps J p) : Keeps (fun s => I s ∧ J s) p :=
  fun s hs t ht => ⟨h s hs.1 t ht, hJ s hs.2 t ht⟩

theorem pure (a : α) : Keeps I (Pure.pure a : Prog σ α) := of_spec (Restores.pure a)

theorem query (f : σ → Option α) : Keeps I (Prog.query f) := of_spec (Restores.query f)

theorem exitIf (b : Bool) : Keeps I (Prog.exitIf.{u, v} b) := of_spec (Restores.exitIf b)

theorem command {f : σ → σ × Option α} (h : ∀ s, I s → I (f s).1) : Keeps I (Prog.command f) :=
  of_spec (Restores.command (fun _ hs => hs) h)

theorem bind {p : Prog σ α} {f : α → Prog σ β} (hp : Keeps I p) (hf : ∀ a, Keeps I (f a)) :
    Keeps I (p >>= f) :=
  of_spec (Restores.bind hp.spec fun a => (hf a).spec)

theorem onError {handler : Prog σ α} (hp : Keeps I p) (hh : Keeps I handler) :
    Keeps I (Prog.onError p handler) :=
  of_spec (Restores.onError hp.spec hh.spec)

theorem attempt {p : Prog σ PUnit.{v + 1}} (hp : Keeps I p) : Keeps I (Prog.attempt p) :=
  onError hp (pure _)

theorem call {p : Prog σ PUnit.{v + 1}} (hp : Keeps I p) : Keeps I (Prog.call p) :=
  of_spec (Restores.call hp.spec)

end Keeps

/-! ## Runs to the end -/

/-- From a state with `P` the program comes to its end, with a value and in a state that `R`
says. -/
def Attains (P : σ → Prop) (p : Prog σ α) (R : α → σ → Prop) : Prop :=
  Spec P p (fun _ => True) fun e s => ∃ a, e = .done a ∧ R a s

namespace Attains

variable {P P' : σ → Prop} {p : Prog σ α} {R R' : α → σ → Prop}

theorem weaken (h : Attains P p R) (hP : ∀ s, P' s → P s) (hR : ∀ a s, R a s → R' a s) :
    Attains P' p R' :=
  Spec.weaken h hP (fun _ hs => hs) fun _ _ hs => hs.imp fun a ha => ⟨ha.1, hR a _ ha.2⟩

/-- The state and the value. -/
theorem final (h : Attains P p R) {s : σ} (hs : P s) : ∃ a, R a (p.final s) := by
  obtain ⟨a, -, ha⟩ := (h s hs).2
  exact ⟨a, ha⟩

theorem pure {a : α} (h : ∀ s, P s → R a s) : Attains P (Pure.pure a : Prog σ α) R :=
  Spec.pure fun s hs => ⟨a, rfl, h s hs⟩

theorem query {f : σ → Option α} (h : ∀ s, P s → ∃ a, f s = some a ∧ R a s) :
    Attains P (Prog.query f) R := by
  refine Spec.query (fun s a hs ha => ?_) fun s hs hn => ?_
  · obtain ⟨b, hb, hR⟩ := h s hs
    obtain rfl := Option.some.inj (ha.symm.trans hb)
    exact ⟨a, rfl, hR⟩
  · obtain ⟨b, hb, -⟩ := h s hs
    rw [hn] at hb
    cases hb

theorem command {f : σ → σ × Option α} (h : ∀ s, P s → ∃ a, (f s).2 = some a ∧ R a (f s).1) :
    Attains P (Prog.command f) R := by
  refine Spec.command fun s hs => ⟨trivial, ?_⟩
  obtain ⟨a, ha, hR⟩ := h s hs
  exact ⟨a, by rw [ha]; rfl, hR⟩

theorem bind {p : Prog σ α} {f : α → Prog σ β} {R : α → σ → Prop} {S : β → σ → Prop}
    (hp : Attains P p R) (hf : ∀ a, Attains (R a) (f a) S) : Attains P (p >>= f) S := by
  refine Spec.bind hp (fun a => ?_) ?_ ?_
  · refine (hf a).weaken (fun s hs => ?_) fun _ _ hs => hs
    obtain ⟨b, hb, hs⟩ := hs
    obtain rfl := Ending.done.inj hb
    exact hs
  · exact fun s ⟨a, ha, _⟩ => nomatch ha
  · exact fun s ⟨a, ha, _⟩ => nomatch ha

theorem exitIf_bind {b : Bool} {q : Prog σ β} {S : β → σ → Prop} (hb : b = false)
    (hq : Attains P q S) : Attains P (Prog.exitIf b >>= fun _ => q) S :=
  Spec.exitIf_bind (fun h => absurd h (by simp [hb])) fun _ => hq

/-- The handler is not needed. -/
theorem onError {handler : Prog σ α} (hp : Attains P p R) : Attains P (Prog.onError p handler) R := by
  refine Spec.onError (R := fun _ => False) (Spec.weaken hp (fun _ hs => hs) (fun _ hs => hs)
    fun e s hs => ?_) fun _ hs => hs.elim
  obtain ⟨a, rfl, hR⟩ := hs
  exact ⟨a, rfl, hR⟩

theorem attempt {p : Prog σ PUnit.{v + 1}} {R : PUnit.{v + 1} → σ → Prop} (hp : Attains P p R) :
    Attains P (Prog.attempt p) R :=
  onError hp

theorem call {p : Prog σ PUnit.{v + 1}} {R : PUnit.{v + 1} → σ → Prop} (hp : Attains P p R) :
    Attains P (Prog.call p) R := by
  refine Spec.call (Spec.weaken hp (fun _ hs => hs) (fun _ hs => hs) fun e s hs => ?_)
  obtain ⟨a, rfl, hR⟩ := hs
  exact ⟨a, rfl, hR⟩

end Attains

end Prog
