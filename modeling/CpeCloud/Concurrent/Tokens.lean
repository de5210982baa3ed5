import CpeCloud.AutoEnroll.Rotation
import CpeCloud.Concurrent.Safety

/-!
# One live token per router, whatever the interleaving

Nothing locks the tokens of a router. But the autoflush puts the UPDATE of its row in front of the
SELECT of its tokens, and an UPDATE waits for the transaction that holds the row: from its SELECT to
its commit, a re-enrollment is the only one that changes the router's tokens.

* **`one_live_token`**: in every committed state, a router that was enrolled since the start, or
  had one live token then, has exactly one.
-/

namespace CpeCloud

open Run (Act)

/-! ## Counting live tokens -/

theorem liveTokens_eq (db : Db) (id : Nat) :
    db.liveTokens id = (db.tokensOf id).filter fun t => t.revokedAt = none := by
  simp only [Db.liveTokens, Db.tokensOf, List.filter_filter]
  exact List.filter_congr fun t _ => by rw [Bool.decide_and, Bool.and_comm]

theorem liveTokens_congr {db db' : Db} {id : Nat} (h : db'.tokensOf id = db.tokensOf id) :
    db'.liveTokens id = db.liveTokens id := by
  rw [liveTokens_eq, liveTokens_eq, h]

theorem length_liveTokens (db : Db) (id : Nat) :
    (db.liveTokens id).length =
      ((db.tokensOf id).map RouterToken.shape).countP fun s => s.2.2 = false := by
  rw [liveTokens_eq, List.countP_map, List.countP_eq_length_filter]
  congr 1
  refine List.filter_congr fun t _ => ?_
  cases h : t.revokedAt <;> simp [RouterToken.shape, h]

theorem liveTokens_commitReenroll_self {B : Backend} {c : Submission} {db : Db} {id : Nat}
    (row : Option Router) :
    ((db.commitReenroll B c id row ((db.liveTokens id).map RouterToken.id)).liveTokens id).length =
      1 := by
  rw [length_liveTokens, tokensOf_commitReenroll_self]
  simp [List.countP_append, List.countP_eq_zero, tokenShape]

theorem liveTokens_commitNew_self {B : Backend} {c : Submission} {db : Db} (h : db.WF B)
    {row : Router} (hid : row.id ∉ db.routers.map Router.id) :
    ((db.commitNew B c row).liveTokens row.id).length = 1 := by
  rw [length_liveTokens, tokensOf_commitNew_self h hid]
  rfl

/-! ## The invariant -/

/-- A request that has read the tokens of a router has written its row, and read those that are
live. -/
def Task.Current (db : Db) : Task → Prop
  | .selectTokens _ row => row ≠ none
  | .commitReenroll id row old => row ≠ none ∧ old = (db.liveTokens id).map RouterToken.id
  | _ => True

variable {ι : Type}

/-- The routers in `M` have one live token each. -/
structure OneLive (B : Backend) (M : Nat → Prop) (s : Sys ι) : Prop where
  safe : Safe B s
  current : ∀ i, (s.task i).Current s.db
  live : ∀ r ∈ s.db.routers, M r.id → (s.db.liveTokens r.id).length = 1

variable [DecidableEq ι] {D : Deployment} {reqs : ι → Submission} {M : Nat → Prop}

/-- The `enrolled_at` a request assigns is not the one it loaded. -/
def ClockMoved (reqs : ι → Submission) (s : Sys ι) : Act ι → Prop
  | .run i => ∀ loaded ∈ (s.task i).loaded, loaded.enrolledAt ≠ some (reqs i).enrolledAt
  | .fail _ => True

instance (reqs : ι → Submission) (s : Sys ι) : ∀ a, Decidable (ClockMoved reqs s a)
  | .run i => inferInstanceAs
      (Decidable (∀ loaded ∈ (s.task i).loaded, loaded.enrolledAt ≠ some (reqs i).enrolledAt))
  | .fail _ => inferInstanceAs (Decidable True)

/-- A step that commits nothing. -/
theorem OneLive.goOn {s s' : Sys ι} (h : OneLive D.toBackend M s) (hsafe : Safe D.toBackend s')
    (hrows : s'.db.routers = s.db.routers) (htokens : s'.db.routerTokens = s.db.routerTokens)
    {i : ι} {t : Task} (ht : t.Current s.db) (htask : s'.task = Function.update s.task i t) :
    OneLive D.toBackend M s' := by
  have hlive : s'.db.liveTokens = s.db.liveTokens := by
    funext id
    simp only [Db.liveTokens, htokens]
  have hcurrent : ∀ t : Task, t.Current s.db → t.Current s'.db := by
    intro t ht
    cases t <;> simp_all [Task.Current]
  refine ⟨hsafe, ?_, ?_⟩
  · rw [htask]
    exact (Function.forall_update_iff s.task fun _ t => t.Current s'.db).mpr
      ⟨hcurrent t ht, fun j _ => hcurrent _ (h.current j)⟩
  · rw [hrows, hlive]
    exact h.live

/-- What another request has read stays current. -/
theorem Task.Current.frame {db db' : Db} {t : Task} (h : t.Current db)
    (hlive : ∀ id row old, t = .commitReenroll id row old → db'.liveTokens id = db.liveTokens id) :
    t.Current db' := by
  cases t with
  | commitReenroll id row old => exact ⟨h.1, (hlive id row old rfl).symm ▸ h.2⟩
  | selectTokens id row => exact h
  | _ => trivial

variable [Fintype ι]

/-- **Every step keeps it.** -/
theorem oneLive_step {s s' : Sys ι} {a : Act ι} (h : OneLive D.toBackend M s)
    (hclock : ClockMoved reqs s a) (hs : step D reqs s a = some s') :
    OneLive D.toBackend M s' := by
  have hsafe := safe_step h.safe hs
  cases step_effect hs with
  | failed i hd => exact h.goOn (t := .failed) hsafe rfl rfl trivial rfl
  | died i seq hseq hd => exact h.goOn (t := .failed) hsafe rfl rfl trivial rfl
  | foundNone i ht hq => exact h.goOn (t := .allocate) hsafe rfl rfl trivial rfl
  | found i existing ht hq => exact h.goOn (t := .flush existing) hsafe rfl rfl trivial rfl
  | allocated i ip ht hip => exact h.goOn (t := .insert ip) hsafe rfl rfl trivial rfl
  | inserted i ip row ht hrow hfits hfree hok =>
    exact h.goOn (t := .commitNew row) hsafe rfl rfl trivial rfl
  | unchanged i existing ht heq => 
    exact absurd (by rw [← heq]; rfl) (hclock existing (by rw [ht]; rfl))
  | updated i existing current row ht hne hcur hrow hfits hfree hok =>
    exact h.goOn (t := .selectTokens existing.id (some row)) hsafe rfl rfl (by simp [Task.Current])
      rfl
  | selectedTokens i id row ht =>
    have hcurrent := h.current i
    rw [ht] at hcurrent
    exact h.goOn (t := .commitReenroll id row ((s.db.liveTokens id).map RouterToken.id)) hsafe
      rfl rfl ⟨hcurrent, rfl⟩ rfl
  | selectedPeers i ht => exact h.goOn (t := .readBlock _) hsafe rfl rfl trivial rfl
  | blockRead i peers ht => exact h.goOn (t := .replaceConf peers _) hsafe rfl rfl trivial rfl
  | replaced i peers block ht => exact h.goOn (t := .runHelper) hsafe rfl rfl trivial rfl
  | helperRan i ht => exact h.goOn (t := .commitAudit) hsafe rfl rfl trivial rfl
  | audited i ht => exact h.goOn (t := .answered) hsafe rfl rfl trivial rfl
  | committedNew i row ht =>
    have hsound := h.safe.sound i
    rw [ht] at hsound
    have hframe (id : Nat) (hid : id ≠ row.id) :
        (s.db.commitNew D.toBackend (reqs i) row).liveTokens id = s.db.liveTokens id :=
      liveTokens_congr (tokensOf_commitNew_of_ne hid)
    refine ⟨hsafe, ?_, ?_⟩
    · refine (Function.forall_update_iff s.task fun _ t => t.Current _).mpr
        ⟨trivial, fun j _ => (h.current j).frame fun id row' old hj => hframe id ?_⟩
      -- What the other one re-enrolls is in the table, the new row is not.
      have hother := h.safe.sound j
      rw [hj] at hother
      exact fun he => hsound.1 (he ▸ hother.1)
    · intro r hr hM
      rcases mem_commitNew.mp hr with hr | rfl
      · have hne : r.id ≠ row.id := fun he => hsound.1 (he ▸ List.mem_map_of_mem hr)
        simp only [Sys.setTask_db, hframe r.id hne]
        exact h.live r hr hM
      · exact liveTokens_commitNew_self h.safe.wf hsound.1
  | committedReenroll i id row old ht =>
    have hcurrent := h.current i
    have hsound := h.safe.sound i
    rw [ht] at hcurrent hsound
    obtain ⟨hsome, rfl⟩ := hcurrent
    obtain ⟨row, rfl⟩ := Option.ne_none_iff_exists'.mp hsome
    obtain ⟨hid, hrow⟩ := hsound
    have hframe (id' : Nat) (hne : id' ≠ id) : (s.db.commitReenroll D.toBackend (reqs i) id
        (some row) ((s.db.liveTokens id).map RouterToken.id)).liveTokens id' =
          s.db.liveTokens id' :=
      liveTokens_congr (tokensOf_commitReenroll_of_ne h.safe.wf hne (some row))
    refine ⟨hsafe, ?_, ?_⟩
    · refine (Function.forall_update_iff s.task fun _ t => t.Current _).mpr
        ⟨trivial, fun j hj => (h.current j).frame fun id' row' old hj' => hframe id' ?_⟩
      -- The other one holds the row it re-enrolls, so it is another row.
      have hother := h.current j
      have hothers := h.safe.sound j
      rw [hj'] at hother hothers
      obtain ⟨row', rfl⟩ := Option.ne_none_iff_exists'.mp hother.1
      have hapart := (h.safe.apart i j (Ne.symm hj) row (by rw [ht]; rfl) row' (by rw [hj']; rfl)).1
      rw [(hrow row rfl).1, (hothers.2 row' rfl).1] at hapart
      exact hapart.symm
    · intro r hr hM
      by_cases hne : r.id = id
      · simp only [Sys.setTask_db, hne]
        exact liveTokens_commitReenroll_self (some row)
      · rcases (mem_commitReenroll hid (hrow row rfl).1).mp hr with ⟨hr, -⟩ | rfl
        · simp only [Sys.setTask_db, hframe r.id hne]
          exact h.live r hr hM
        · exact absurd (hrow r rfl).1 hne

/-- **In every committed state of every interleaving, whoever fails, a router that was enrolled
since the start, or had one live token then, has exactly one.** -/
theorem one_live_token {db : Db} (hwf : db.WF D.toBackend) {conf : Text} {as : List (Act ι)}
    {s : Sys ι} (hs : Run.exec (step D reqs) (Sys.start db conf) as = some s)
    (hclock : Run.Meets (step D reqs) (ClockMoved reqs) (Sys.start db conf) as) :
    ∀ r ∈ s.db.routers, (r.id ∈ db.routers.map Router.id → (db.liveTokens r.id).length = 1) →
      (s.db.liveTokens r.id).length = 1 := by
  have hstart : OneLive D.toBackend
      (fun id => id ∈ db.routers.map Router.id → (db.liveTokens id).length = 1)
      (Sys.start db conf : Sys ι) :=
    ⟨safe_start hwf conf, fun _ => trivial, fun r hr hM => hM (List.mem_map_of_mem hr)⟩
  exact (Run.meets_induction (fun h hC hs => oneLive_step h hC hs) hstart hclock hs).live

/-- Two re-enrollments of unit A. -/
def againPair (second : Bool) : Submission :=
  if second then { againCall.toSubmission with
    enrolledAt := 61000000
    minted := "tok-C-another-router".toList }
  else againCall.toSubmission

/-- Both have loaded the row when the first one writes it. -/
def againRun : List (Act Bool) :=
  [.run false, .run true, .run false, .run false, .run false, .run true, .run true, .run true]

theorem exec_againRun : (Run.exec (step smallDeployment againPair)
    (Sys.start enrolledWorld.db []) againRun).isSome = true := by
  decide +kernel

theorem one_live_token_again : (((Run.exec (step smallDeployment againPair)
    (Sys.start enrolledWorld.db []) againRun).get exec_againRun).db.liveTokens 1).length = 1 := by
  have hstart : ∀ id ∈ enrolledWorld.db.routers.map Router.id,
      (enrolledWorld.db.liveTokens id).length = 1 := by
    decide +kernel
  have hrow : ∃ r ∈ ((Run.exec (step smallDeployment againPair) (Sys.start enrolledWorld.db [])
      againRun).get exec_againRun).db.routers, r.id = 1 := by
    decide +kernel
  obtain ⟨r, hr, hid⟩ := hrow
  have hlive := one_live_token wf_enrolledWorld (Option.some_get exec_againRun).symm
    (by decide +kernel) r hr (hstart r.id)
  rw [hid] at hlive
  exact hlive

end CpeCloud
