import CpeCloud.Concurrent.Enroll

/-!
# `wg0.conf` behind enrollments at the same time

A sync writes the peers it has selected, however old they are by then. So the file a set of
requests leaves is right iff no outdated selection is written after the last up-to-date one.

* `readInterfaceBlock_run`: the interface block survives every interleaving.
* **`conf_agrees_iff`**: once all requests have their 200, `wg0.conf` and the kernel have the active
  peers iff at each file replace the selection is up to date, or another request will still write
  one that is.
-/

namespace CpeCloud

open Run (Act)

/-- The selection a request is about to write. -/
def Task.writes : Task → Option (List PeerRow)
  | .replaceConf peers _ => some peers
  | _ => none

/-- The request has yet to select the peers, or holds a selection that is up to date. -/
def Task.Fresh (current : List PeerRow) : Task → Prop
  | .readBlock peers | .replaceConf peers _ => managedText peers = managedText current
  | .runHelper | .commitAudit | .answered | .failed => False
  | _ => True

instance (current : List PeerRow) : ∀ t, Decidable (Task.Fresh current t)
  | .readBlock peers | .replaceConf peers _ =>
    inferInstanceAs (Decidable (managedText peers = managedText current))
  | .runHelper | .commitAudit | .answered | .failed => inferInstanceAs (Decidable False)
  | .lookup | .allocate | .insert _ | .commitNew _ | .flush _ | .selectTokens _ _
  | .commitReenroll _ _ _ | .selectPeers => inferInstanceAs (Decidable True)

/-- Two files over one block are the same iff their managed texts are. -/
theorem renderConfig_inj {block : Text} {peers peers' : List PeerRow} :
    renderConfig block peers = renderConfig block peers' ↔
      managedText peers = managedText peers' := by
  rw [renderConfig_eq, renderConfig_eq, List.append_cancel_left_eq]
  simp

variable {ι : Type}

/-- The peers that are active now. -/
def Sys.peers (s : Sys ι) : List PeerRow := fetchActivePeers s.db.routers

variable [DecidableEq ι]

/-! ## The block -/

/-- The block of the file, and every copy of it, is `block`. -/
structure KeepsBlock (block : Text) (s : Sys ι) : Prop where
  conf : readInterfaceBlock s.conf = block
  copies : ∀ i peers b, s.task i = .replaceConf peers b → b = block

theorem KeepsBlock.goOn {block : Text} {s s' : Sys ι} (h : KeepsBlock block s)
    (hconf : s'.conf = s.conf) {i : ι}
    {t : Task} (htask : s'.task = Function.update s.task i t)
    (ht : ∀ peers b, t = .replaceConf peers b → b = block) : KeepsBlock block s' := by
  refine ⟨by rw [hconf, h.conf], ?_⟩
  rw [htask]
  exact (Function.forall_update_iff s.task fun _ t => ∀ peers b, t = .replaceConf peers b →
    b = block).mpr ⟨ht, fun j _ => h.copies j⟩

variable [Fintype ι]

/-- A selection that is written is up to date, or another request is fresh. -/
def Covered (s : Sys ι) : Act ι → Prop
  | .run i => ∀ peers ∈ (s.task i).writes, managedText peers = managedText s.peers ∨
      ∃ j, j ≠ i ∧ (s.task j).Fresh s.peers
  | .fail _ => True

instance (s : Sys ι) : ∀ a, Decidable (Covered s a)
  | .run i => inferInstanceAs (Decidable (∀ peers ∈ (s.task i).writes,
      managedText peers = managedText s.peers ∨ ∃ j, j ≠ i ∧ (s.task j).Fresh s.peers))
  | .fail _ => inferInstanceAs (Decidable True)

variable {D : Deployment} {reqs : ι → Submission}

theorem keepsBlock_step {raw : Text} {s s' : Sys ι} {a : Act ι}
    (h : KeepsBlock (readInterfaceBlock raw) s) (hs : step D reqs s a = some s') :
    KeepsBlock (readInterfaceBlock raw) s' := by
  cases step_effect hs with
  | blockRead i peers ht =>
    refine h.goOn (t := .replaceConf peers _) rfl rfl fun peers' b hb => ?_
    obtain ⟨-, rfl⟩ := Task.replaceConf.inj hb
    exact h.conf
  | replaced i peers b ht =>
    obtain rfl := h.copies i peers b ht
    exact ⟨readInterfaceBlock_render raw peers, (Function.forall_update_iff s.task fun _ t =>
      ∀ peers b, t = .replaceConf peers b → b = _).mpr ⟨by simp, fun j _ => h.copies j⟩⟩
  | _ => exact h.goOn rfl rfl (by simp)

/-- **The interface block survives every interleaving.** -/
theorem readInterfaceBlock_run {db : Db} {conf : Text} {as : List (Act ι)} {s : Sys ι}
    (hs : Run.exec (step D reqs) (Sys.start db conf) as = some s) :
    readInterfaceBlock s.conf = readInterfaceBlock conf := by
  have hstart : KeepsBlock (readInterfaceBlock conf) (Sys.start db conf : Sys ι) :=
    ⟨rfl, by simp [Sys.start]⟩
  exact (Run.exec_induction (fun h hs => keepsBlock_step h hs) hstart hs).conf

/-! ## The two outcomes -/

/-- Somebody has failed, the file is up to date, or a request will still write it. -/
structure UpToDate (block : Text) (s : Sys ι) : Prop extends KeepsBlock block s where
  fresh : (∃ j, s.task j = .failed) ∨ s.conf = renderConfig block s.peers ∨
    ∃ j, (s.task j).Fresh s.peers

/-- Somebody has failed, or the file is outdated and nobody will write it again. -/
structure OutOfDate (block : Text) (s : Sys ι) : Prop extends KeepsBlock block s where
  stale : (∃ j, s.task j = .failed) ∨
    s.conf ≠ renderConfig block s.peers ∧ ∀ j, ¬ (s.task j).Fresh s.peers

theorem failed_step {s s' : Sys ι} {a : Act ι} (h : ∃ j, s.task j = .failed)
    (hs : step D reqs s a = some s') : ∃ j, s'.task j = .failed := by
  obtain ⟨j, hj⟩ := h
  exact ⟨j, (step_of_done hs (by rw [hj]; rfl)).trans hj⟩

variable {raw : Text}

/-- A step that does not write an outdated selection last. -/
theorem upToDate_step {s s' : Sys ι} {a : Act ι} (h : UpToDate (readInterfaceBlock raw) s)
    (hcover : Covered s a) (hs : step D reqs s a = some s') :
    UpToDate (readInterfaceBlock raw) s' := by
  refine ⟨keepsBlock_step h.toKeepsBlock hs, ?_⟩
  rcases h.fresh with hfail | hfresh
  · exact Or.inl (failed_step hfail hs)
  -- The request that moves is fresh.
  have mover {t : Task} {s₁ : Sys ι} {i : ι} (ht : t.Fresh s₁.peers) :
      ∃ j, ((s₁.setTask i t).task j).Fresh (s₁.setTask i t).peers :=
    ⟨i, by rw [Sys.setTask_self]; exact ht⟩
  -- It is not, and was not; the peers are the same.
  have other {t : Task} {s₁ : Sys ι} {i : ι} (hpeers : s₁.peers = s.peers)
      (htask : s₁.task = s.task) (hi : ¬ (s.task i).Fresh s.peers)
      (hj : ∃ j, (s.task j).Fresh s.peers) :
      ∃ j, ((s₁.setTask i t).task j).Fresh (s₁.setTask i t).peers := by
    obtain ⟨j, hj⟩ := hj
    have hji : j ≠ i := fun he => hi (he ▸ hj)
    refine ⟨j, ?_⟩
    rw [Sys.setTask_of_ne _ hji, htask]
    exact hpeers ▸ hj
  cases step_effect hs with
  | failed i hd => exact Or.inl ⟨i, Sys.setTask_self _ _ _⟩
  | died i seq hseq hd => exact Or.inl ⟨i, Sys.setTask_self _ _ _⟩
  | foundNone i ht hq => exact Or.inr (Or.inr (mover trivial))
  | found i existing ht hq => exact Or.inr (Or.inr (mover trivial))
  | allocated i ip ht hip => exact Or.inr (Or.inr (mover trivial))
  | inserted i ip row ht => exact Or.inr (Or.inr (mover trivial))
  | committedNew i row ht => exact Or.inr (Or.inr (mover trivial))
  | unchanged i existing ht heq => exact Or.inr (Or.inr (mover trivial))
  | updated i existing current row ht => exact Or.inr (Or.inr (mover trivial))
  | selectedTokens i id row ht => exact Or.inr (Or.inr (mover trivial))
  | committedReenroll i id row old ht => exact Or.inr (Or.inr (mover trivial))
  | selectedPeers i ht => exact Or.inr (Or.inr (mover rfl))
  | blockRead i peers ht =>
    refine Or.inr (hfresh.imp id fun hj => ?_)
    by_cases hi : (s.task i).Fresh s.peers
    · rw [ht] at hi
      exact mover hi
    · exact other rfl rfl hi hj
  | replaced i peers b ht =>
    obtain rfl := h.copies i peers b ht
    rcases hcover peers (by rw [ht]; rfl) with heq | ⟨j, hji, hj⟩
    · exact Or.inr (Or.inl (renderConfig_inj.mpr heq))
    · refine Or.inr (Or.inr ⟨j, ?_⟩)
      rw [Sys.setTask_of_ne _ hji]
      exact hj
  | helperRan i ht =>
    exact Or.inr (hfresh.imp id fun hj => other rfl rfl (by rw [ht]; exact id) hj)
  | audited i ht =>
    exact Or.inr (hfresh.imp id fun hj => other rfl rfl (by rw [ht]; exact id) hj)

/-- A replace that is not covered leaves an outdated file. -/
theorem outOfDate_of_uncovered {s s' : Sys ι} {a : Act ι}
    (h : UpToDate (readInterfaceBlock raw) s) (hcover : ¬ Covered s a)
    (hs : step D reqs s a = some s') : OutOfDate (readInterfaceBlock raw) s' := by
  refine ⟨keepsBlock_step h.toKeepsBlock hs, Or.inr ?_⟩
  cases a with
  | fail i => exact absurd trivial hcover
  | run i =>
    simp only [Covered, not_forall, not_or, not_exists, not_and] at hcover
    obtain ⟨peers, hwrites, hstale, hnone⟩ := hcover
    cases step_effect hs with
    | replaced i peers' b ht =>
      rw [ht] at hwrites
      obtain rfl := Option.some.inj hwrites
      obtain rfl := h.copies i peers' b ht
      refine ⟨fun heq => hstale (renderConfig_inj.mp heq), fun j => ?_⟩
      by_cases hji : j = i
      · subst hji
        rw [Sys.setTask_self]
        exact id
      · rw [Sys.setTask_of_ne _ hji]
        exact hnone j hji
    | died i seq hseq hd =>
      rcases hd with ⟨ht, -⟩ | ⟨ht, -⟩ | ⟨ip, ht, -⟩ | ⟨existing, ht, -⟩ <;>
        (rw [ht] at hwrites; cases hwrites)
    | _ => simp_all [Task.writes]

/-- An outdated file stays outdated. -/
theorem outOfDate_step {s s' : Sys ι} {a : Act ι} (h : OutOfDate (readInterfaceBlock raw) s)
    (hs : step D reqs s a = some s') : OutOfDate (readInterfaceBlock raw) s' := by
  refine ⟨keepsBlock_step h.toKeepsBlock hs, ?_⟩
  rcases h.stale with hfail | ⟨hconf, hnone⟩
  · exact Or.inl (failed_step hfail hs)
  -- The request that moves is not fresh, before or after, and the peers are the same.
  have stale {t : Task} {s₁ : Sys ι} {i : ι} (hpeers : s₁.peers = s.peers)
      (htask : s₁.task = s.task) (ht : ¬ t.Fresh s.peers) :
      ∀ j, ¬ ((s₁.setTask i t).task j).Fresh (s₁.setTask i t).peers := by
    have hpeers' : (s₁.setTask i t).peers = s.peers := hpeers
    rw [hpeers']
    refine (Function.forall_update_iff s₁.task fun _ t => ¬ t.Fresh s.peers).mpr ⟨ht, fun j _ => ?_⟩
    rw [htask]
    exact hnone j
  cases step_effect hs with
  | failed i hd => exact Or.inl ⟨i, Sys.setTask_self _ _ _⟩
  | died i seq hseq hd => exact Or.inl ⟨i, Sys.setTask_self _ _ _⟩
  | blockRead i peers ht =>
    have hi := hnone i
    rw [ht] at hi
    exact Or.inr ⟨hconf, stale rfl rfl hi⟩
  | replaced i peers b ht =>
    obtain rfl := h.copies i peers b ht
    have hi := hnone i
    rw [ht] at hi
    exact Or.inr ⟨fun heq => hi (renderConfig_inj.mp heq), stale rfl rfl id⟩
  | helperRan i ht => exact Or.inr ⟨hconf, stale rfl rfl id⟩
  | audited i ht => exact Or.inr ⟨hconf, stale rfl rfl id⟩
  | foundNone i ht => exact absurd (by rw [ht]; trivial) (hnone i)
  | found i existing ht => exact absurd (by rw [ht]; trivial) (hnone i)
  | allocated i ip ht => exact absurd (by rw [ht]; trivial) (hnone i)
  | inserted i ip row ht => exact absurd (by rw [ht]; trivial) (hnone i)
  | committedNew i row ht => exact absurd (by rw [ht]; trivial) (hnone i)
  | unchanged i existing ht => exact absurd (by rw [ht]; trivial) (hnone i)
  | updated i existing current row ht => exact absurd (by rw [ht]; trivial) (hnone i)
  | selectedTokens i id row ht => exact absurd (by rw [ht]; trivial) (hnone i)
  | committedReenroll i id row old ht => exact absurd (by rw [ht]; trivial) (hnone i)
  | selectedPeers i ht => exact absurd (by rw [ht]; trivial) (hnone i)

/-! ## The kernel -/

/-- The helper is still to run. -/
def Task.reloads : Task → Bool
  | .commitAudit | .answered | .failed => false
  | _ => true

/-- Somebody has failed, the kernel has the file, or a request will still load it. -/
def Reloaded (s : Sys ι) : Prop :=
  (∃ j, s.task j = .failed) ∨ s.loaded = some s.conf ∨ ∃ j, (s.task j).reloads = true

theorem reloaded_step {s s' : Sys ι} {a : Act ι} (h : Reloaded s)
    (hs : step D reqs s a = some s') : Reloaded s' := by
  rcases h with hfail | h
  · exact Or.inl (failed_step hfail hs)
  cases step_effect hs with
  | failed i hd => exact Or.inl ⟨i, Sys.setTask_self _ _ _⟩
  | died i seq hseq hd => exact Or.inl ⟨i, Sys.setTask_self _ _ _⟩
  | helperRan i ht => exact Or.inr (Or.inl rfl)
  | audited i ht =>
    refine Or.inr (h.imp id ?_)
    rintro ⟨j, hj⟩
    have hji : j ≠ i := by
      rintro rfl
      simp [ht, Task.reloads] at hj
    exact ⟨j, by rw [Sys.setTask_of_ne _ hji]; exact hj⟩
  | _ => exact Or.inr (Or.inr ⟨_, by rw [Sys.setTask_self]; rfl⟩)

/-! ## The result -/

/-- The file and the kernel have the active peers behind the interface block. -/
def Agrees (block : Text) (s : Sys ι) : Prop :=
  s.conf = renderConfig block (fetchActivePeers s.db.routers) ∧ s.loaded = some s.conf

/-- **Once every request has its 200, `wg0.conf` and the kernel have the active peers iff no
outdated selection was written last.** -/
theorem conf_agrees_iff [Nonempty ι] {db : Db} {as : List (Act ι)} {s : Sys ι}
    (hs : Run.exec (step D reqs) (Sys.start db raw) as = some s)
    (hans : ∀ i, s.task i = .answered) : Agrees (readInterfaceBlock raw) s ↔
      Run.Meets (step D reqs) Covered (Sys.start db raw) as := by
  obtain ⟨i⟩ := ‹Nonempty ι›
  have hfail : ¬ ∃ j, s.task j = .failed := by
    rintro ⟨j, hj⟩
    simp [hans] at hj
  have hstart : UpToDate (readInterfaceBlock raw) (Sys.start db raw : Sys ι) :=
    ⟨⟨rfl, by simp [Sys.start]⟩, Or.inr (Or.inr ⟨i, trivial⟩)⟩
  have hloaded : Reloaded s :=
    Run.exec_induction (fun h hs => reloaded_step h hs) (Or.inr (Or.inr ⟨i, rfl⟩)) hs
  have hkernel : s.loaded = some s.conf := by
    refine (hloaded.resolve_left hfail).resolve_right ?_
    rintro ⟨j, hj⟩
    simp [hans, Task.reloads] at hj
  rcases Run.meets_or (P := UpToDate (readInterfaceBlock raw))
      (Q := OutOfDate (readInterfaceBlock raw)) (C := Covered)
      (fun h hC hs => upToDate_step h hC hs) (fun h hC hs => outOfDate_of_uncovered h hC hs)
      (fun h hs => outOfDate_step h hs) hstart hs with ⟨hmeets, hgood⟩ | ⟨hmeets, hbad⟩
  · refine ⟨fun _ => hmeets, fun _ => ⟨?_, hkernel⟩⟩
    refine (hgood.fresh.resolve_left hfail).resolve_right ?_
    rintro ⟨j, hj⟩
    rw [hans] at hj
    exact hj
  · exact ⟨fun h => absurd h.1 (hbad.stale.resolve_left hfail).1, fun h => absurd h hmeets⟩

/-- The file before any enrollment. -/
def bareConf : Text := "[Interface]\nListenPort = 51820\n".toList

/-- Unit A enrolls between unit B's SELECT of the peers and its file replace. -/
def crossedSync : List (Act Bool) :=
  List.replicate 6 (.run true) ++ List.replicate 9 (.run false) ++ List.replicate 3 (.run true)

/-- Unit A has its 200, is active, and is missing. -/
theorem crossed_not_agrees : ¬ ∀ (D : Deployment) (reqs : Bool → Submission) (db : Db) (raw : Text)
    (as : List (Act Bool)) (s : Sys Bool), db.WF D.toBackend →
      Run.exec (step D reqs) (Sys.start db raw) as = some s →
        (∀ i, s.task i = .answered) → Agrees (readInterfaceBlock raw) s := by
  intro h
  have hrun : (Run.exec (step smallDeployment newPair) (Sys.start smallWorld.db bareConf)
      crossedSync).any (fun s => (∀ i, s.task i = .answered) ∧
        s.conf ≠ renderConfig (readInterfaceBlock bareConf) (fetchActivePeers s.db.routers)) =
          true := by
    decide +kernel
  obtain ⟨s, hs, hend⟩ := (Option.any_eq_true ..).mp hrun
  simp only [decide_eq_true_eq] at hend
  exact hend.2 (h smallDeployment newPair smallWorld.db bareConf crossedSync s (Db.wf_empty _ _ _ _)
    hs hend.1).1

/-- One after the other. -/
def orderedSync : List (Act Bool) :=
  List.replicate 9 (.run false) ++ List.replicate 9 (.run true)

theorem exec_orderedSync : (Run.exec (step smallDeployment newPair)
    (Sys.start smallWorld.db bareConf) orderedSync).isSome = true := by
  decide +kernel

theorem conf_agrees_iff_ordered : Agrees (readInterfaceBlock bareConf)
    ((Run.exec (step smallDeployment newPair) (Sys.start smallWorld.db bareConf) orderedSync).get
      exec_orderedSync) :=
  (conf_agrees_iff (Option.some_get exec_orderedSync).symm (by decide +kernel)).mpr
    (by decide +kernel)

end CpeCloud
