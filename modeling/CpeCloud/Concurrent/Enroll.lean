import CpeCloud.AutoEnroll.Handler
import CpeCloud.Lib.Run
import Mathlib.Algebra.Order.BigOperators.Group.Finset
import Mathlib.Data.Fintype.Basic
import Mathlib.Logic.Function.Basic

/-!
# Enrollments at the same time

Any number of requests that `auto_enroll` has let through its checks, interleaved statement by
statement. A `Task` says which statement a request executes next, with what it has read and what it
has written but not committed. `step` takes one request one statement on, or lets it die and its
transaction be rolled back.

The database is Postgres at READ COMMITTED: a statement sees what is committed when it starts. A
write waits for another transaction that holds the row or a value it needs (`Sys.Blocked`), and
raises if a committed row has the value (`Db.Rejects`). An UPDATE writes the columns whose value
changed in the session, onto the row as it is committed by then. Ids are drawn for good.

* **`step_effect`**: what a step can do.
* **`not_stuck`**, `length_run_le`: as long as a request is not done, one of them can go on, and
  every run ends.

The audit log is left out, and so is the wait of a token's INSERT for a writer of its router, which
only takes interleavings away.
-/

namespace CpeCloud

open Run (Act)

/-- What a request does next. -/
inductive Task where
  /-- The SELECT by serial. -/
  | lookup
  /-- The SELECT of `allocate_overlay_ip`. -/
  | allocate
  /-- The INSERT of the flush. -/
  | insert (ip : IPv4.Address)
  /-- The first commit, with the new row. -/
  | commitNew (row : Router)
  /-- The autoflush of the assignments to the row it loaded. -/
  | flush (loaded : Router)
  /-- The SELECT of the live tokens; `row` is the new version of the row, if it was updated. -/
  | selectTokens (id : Nat) (row : Option Router)
  /-- The first commit, with the tokens to revoke. -/
  | commitReenroll (id : Nat) (row : Option Router) (old : List Nat)
  /-- The SELECT of `_fetch_active_peers`. -/
  | selectPeers
  /-- `_read_interface_block`. -/
  | readBlock (peers : List PeerRow)
  /-- `_write_atomic`. -/
  | replaceConf (peers : List PeerRow) (block : Text)
  /-- `_run_sync_helper`. -/
  | runHelper
  /-- The second commit. -/
  | commitAudit
  /-- The 200 is out. -/
  | answered
  /-- It ended in an exception or a 500. -/
  | failed
  deriving DecidableEq

/-- Nothing more to do. -/
def Task.done (t : Task) : Bool := t = .answered ∨ t = .failed

/-- The version of a row that is written and not committed. -/
def Task.pending : Task → Option Router
  | .commitNew row => some row
  | .selectTokens _ row => row
  | .commitReenroll _ row _ => row
  | _ => none

/-- The row a request has loaded and not yet written. -/
def Task.loaded : Task → Option Router
  | .flush loaded => some loaded
  | _ => none

/-- Behind the first commit, and not cut off since. -/
def Task.committed : Task → Bool
  | .selectPeers | .readBlock _ | .replaceConf _ _ | .runHelper | .commitAudit | .answered => true
  | _ => false

/-- The committed tables, `wg0.conf` and what the helper last loaded, the requests, and which of
them have committed, in this order. -/
structure Sys (ι : Type) where
  db : Db
  conf : Text
  loaded : Option Text
  task : ι → Task
  commits : List ι

variable {ι : Type} [DecidableEq ι]

/-- Request `i` goes on with `t`. -/
def Sys.setTask (s : Sys ι) (i : ι) (t : Task) : Sys ι :=
  { s with task := Function.update s.task i t }

@[simp] theorem Sys.setTask_self (s : Sys ι) (i : ι) (t : Task) : (s.setTask i t).task i = t :=
  Function.update_self ..

theorem Sys.setTask_of_ne (s : Sys ι) {i j : ι} (h : j ≠ i) (t : Task) :
    (s.setTask i t).task j = s.task j := Function.update_of_ne h ..

@[simp] theorem Sys.setTask_setTask (s : Sys ι) (i : ι) (t t' : Task) :
    (s.setTask i t).setTask i t' = s.setTask i t' := by
  simp [Sys.setTask]

@[simp] theorem Sys.setTask_db (s : Sys ι) (i : ι) (t : Task) : (s.setTask i t).db = s.db := rfl

@[simp] theorem Sys.setTask_conf (s : Sys ι) (i : ι) (t : Task) :
    (s.setTask i t).conf = s.conf := rfl

@[simp] theorem Sys.setTask_loaded (s : Sys ι) (i : ι) (t : Task) :
    (s.setTask i t).loaded = s.loaded := rfl

@[simp] theorem Sys.setTask_commits (s : Sys ι) (i : ι) (t : Task) :
    (s.setTask i t).commits = s.commits := rfl

/-! ## Waiting -/

variable [Fintype ι]

/-- A write of `r` waits for the transaction that wrote `r'`: it holds the row, it has a value of
`r`, or it is about to give one up. -/
def Db.Waits (db : Db) (r' r : Router) : Prop :=
  r'.id = r.id ∨ r'.clash r ∨ ∃ c ∈ db.routers, c.id = r'.id ∧ c.clash r

instance (db : Db) (r' r : Router) : Decidable (db.Waits r' r) := by
  unfold Db.Waits
  infer_instance

/-- A committed row has a value of `r`. -/
def Db.Rejects (db : Db) (r : Router) : Prop := ∃ c ∈ db.routers, c.id ≠ r.id ∧ c.clash r

instance (db : Db) (r : Router) : Decidable (db.Rejects r) := by
  unfold Db.Rejects
  infer_instance

/-- The write of `r` by request `i` has to wait. -/
def Sys.Blocked (s : Sys ι) (i : ι) (r : Router) : Prop :=
  ∃ j, j ≠ i ∧ (s.task j).pending.any (fun r' => s.db.Waits r' r) = true

instance (s : Sys ι) (i : ι) (r : Router) : Decidable (s.Blocked i r) := by
  unfold Sys.Blocked
  infer_instance

/-! ## Steps -/

/-- The next statement of request `i`; `none` if it has to wait or is done. -/
def Sys.run (D : Deployment) (s : Sys ι) (i : ι) (c : Submission) : Option (Sys ι) :=
  match s.task i with
  | .lookup =>
    if ¬ storable c.payload.serial then some (s.setTask i .failed)
    else
      match s.db.routerBySerial c.payload.serial with
      | none => some (s.setTask i .allocate)
      | some existing => some (s.setTask i (.flush existing))
  | .allocate =>
    match allocateOverlayIp D.toSettings s.db.routers with
    | .error _ => some (s.setTask i .failed)
    | .ok ip => some (s.setTask i (.insert ip))
  | .insert ip =>
    let row := (newRouter c.payload ip c.enrolledAt s.db.routersSeq).canonical D.toBackend
    let s' := { s with db := { s.db with routersSeq := s.db.routersSeq + 1 } }
    if ¬ c.payload.fits D.toBackend then some (s.setTask i .failed)
    else if s.Blocked i row then none
    else if s.db.Rejects row then some (s'.setTask i .failed)
    else some (s'.setTask i (.commitNew row))
  | .commitNew row =>
    some ({ s with
      db := s.db.commitNew D.toBackend c row
      commits := s.commits ++ [i] }.setTask i .selectPeers)
  | .flush loaded =>
    -- Nothing changed in the session, so nothing is sent.
    if loaded.assign c.payload c.enrolledAt = loaded then
      some (s.setTask i (.selectTokens loaded.id none))
    else if ¬ c.payload.fits D.toBackend then some (s.setTask i .failed)
    else
      match s.db.routerById loaded.id with
      | none => some (s.setTask i .failed)
      | some current =>
        let row := loaded.update D.toBackend c.payload c.enrolledAt current
        if s.Blocked i row then none
        else if s.db.Rejects row then some (s.setTask i .failed)
        else some (s.setTask i (.selectTokens loaded.id (some row)))
  | .selectTokens id row =>
    some (s.setTask i (.commitReenroll id row ((s.db.liveTokens id).map RouterToken.id)))
  | .commitReenroll id row old =>
    some ({ s with
      db := s.db.commitReenroll D.toBackend c id row old
      commits := s.commits ++ [i] }.setTask i .selectPeers)
  | .selectPeers => some (s.setTask i (.readBlock (fetchActivePeers s.db.routers)))
  | .readBlock peers => some (s.setTask i (.replaceConf peers (readInterfaceBlock s.conf)))
  | .replaceConf peers block =>
    some ({ s with conf := renderConfig block peers }.setTask i .runHelper)
  | .runHelper => some ({ s with loaded := some s.conf }.setTask i .commitAudit)
  | .commitAudit => some (s.setTask i .answered)
  | .answered => none
  | .failed => none

/-- One step. A request that fails has what it did not commit rolled back. -/
def step (D : Deployment) (reqs : ι → Submission) (s : Sys ι) : Act ι → Option (Sys ι)
  | .run i => s.run D i (reqs i)
  | .fail i => if (s.task i).done then none else some (s.setTask i .failed)

/-- One step, where nobody is cut off. -/
def move (D : Deployment) (reqs : ι → Submission) (s : Sys ι) (i : ι) : Option (Sys ι) :=
  step D reqs s (.run i)

/-- All requests are in. -/
def Sys.start (db : Db) (conf : Text) : Sys ι := ⟨db, conf, none, fun _ => .lookup, []⟩

/-! ## What a step does -/

/-- The next statement of request `i` raises. -/
def Sys.Dies (D : Deployment) (s : Sys ι) (i : ι) (c : Submission) : Prop :=
  (s.task i = .lookup ∧ ¬ storable c.payload.serial) ∨
  (s.task i = .allocate ∧ ∃ e, allocateOverlayIp D.toSettings s.db.routers = .error e) ∨
  (∃ ip, s.task i = .insert ip ∧ (¬ c.payload.fits D.toBackend ∨
    s.db.Rejects ((newRouter c.payload ip c.enrolledAt s.db.routersSeq).canonical D.toBackend))) ∨
  (∃ loaded, s.task i = .flush loaded ∧ (¬ c.payload.fits D.toBackend ∨
    s.db.routerById loaded.id = none ∨ ∃ current, s.db.routerById loaded.id = some current ∧
      s.db.Rejects (loaded.update D.toBackend c.payload c.enrolledAt current)))

/-- What a step can do. -/
inductive Effect (D : Deployment) (reqs : ι → Submission) (s : Sys ι) : Act ι → Sys ι → Prop where
  /-- The request is cut off. -/
  | failed (i : ι) (h : (s.task i).done = false) : Effect D reqs s (.fail i) (s.setTask i .failed)
  /-- Its statement raises. -/
  | died (i : ι) (seq : Nat) (hseq : s.db.routersSeq ≤ seq) (h : s.Dies D i (reqs i)) :
      Effect D reqs s (.run i)
        ({ s with db := { s.db with routersSeq := seq } }.setTask i .failed)
  | foundNone (i : ι) (h : s.task i = .lookup)
      (hq : s.db.routerBySerial (reqs i).payload.serial = none) :
      Effect D reqs s (.run i) (s.setTask i .allocate)
  | found (i : ι) (existing : Router) (h : s.task i = .lookup)
      (hq : s.db.routerBySerial (reqs i).payload.serial = some existing) :
      Effect D reqs s (.run i) (s.setTask i (.flush existing))
  | allocated (i : ι) (ip : IPv4.Address) (h : s.task i = .allocate)
      (hip : allocateOverlayIp D.toSettings s.db.routers = .ok ip) :
      Effect D reqs s (.run i) (s.setTask i (.insert ip))
  | inserted (i : ι) (ip : IPv4.Address) (row : Router) (h : s.task i = .insert ip)
      (hrow : row = (newRouter (reqs i).payload ip (reqs i).enrolledAt
        s.db.routersSeq).canonical D.toBackend)
      (hfits : (reqs i).payload.fits D.toBackend) (hfree : ¬ s.Blocked i row)
      (hok : ¬ s.db.Rejects row) :
      Effect D reqs s (.run i)
        ({ s with db := { s.db with routersSeq := s.db.routersSeq + 1 } }.setTask i
          (.commitNew row))
  | committedNew (i : ι) (row : Router) (h : s.task i = .commitNew row) :
      Effect D reqs s (.run i) ({ s with
        db := s.db.commitNew D.toBackend (reqs i) row
        commits := s.commits ++ [i] }.setTask i .selectPeers)
  | unchanged (i : ι) (existing : Router) (h : s.task i = .flush existing)
      (heq : existing.assign (reqs i).payload (reqs i).enrolledAt = existing) :
      Effect D reqs s (.run i) (s.setTask i (.selectTokens existing.id none))
  | updated (i : ι) (existing current row : Router) (h : s.task i = .flush existing)
      (hne : existing.assign (reqs i).payload (reqs i).enrolledAt ≠ existing)
      (hcur : s.db.routerById existing.id = some current)
      (hrow : row = existing.update D.toBackend (reqs i).payload (reqs i).enrolledAt current)
      (hfits : (reqs i).payload.fits D.toBackend) (hfree : ¬ s.Blocked i row)
      (hok : ¬ s.db.Rejects row) :
      Effect D reqs s (.run i) (s.setTask i (.selectTokens existing.id (some row)))
  | selectedTokens (i : ι) (id : Nat) (row : Option Router) (h : s.task i = .selectTokens id row) :
      Effect D reqs s (.run i)
        (s.setTask i (.commitReenroll id row ((s.db.liveTokens id).map RouterToken.id)))
  | committedReenroll (i : ι) (id : Nat) (row : Option Router) (old : List Nat)
      (h : s.task i = .commitReenroll id row old) :
      Effect D reqs s (.run i) ({ s with
        db := s.db.commitReenroll D.toBackend (reqs i) id row old
        commits := s.commits ++ [i] }.setTask i .selectPeers)
  | selectedPeers (i : ι) (h : s.task i = .selectPeers) :
      Effect D reqs s (.run i) (s.setTask i (.readBlock (fetchActivePeers s.db.routers)))
  | blockRead (i : ι) (peers : List PeerRow) (h : s.task i = .readBlock peers) :
      Effect D reqs s (.run i) (s.setTask i (.replaceConf peers (readInterfaceBlock s.conf)))
  | replaced (i : ι) (peers : List PeerRow) (block : Text) (h : s.task i = .replaceConf peers block) :
      Effect D reqs s (.run i)
        ({ s with conf := renderConfig block peers }.setTask i .runHelper)
  | helperRan (i : ι) (h : s.task i = .runHelper) :
      Effect D reqs s (.run i) ({ s with loaded := some s.conf }.setTask i .commitAudit)
  | audited (i : ι) (h : s.task i = .commitAudit) :
      Effect D reqs s (.run i) (s.setTask i .answered)

/-- **What a step can do**, once and for all. -/
theorem step_effect {D : Deployment} {reqs : ι → Submission} {s s' : Sys ι} {a : Act ι}
    (hs : step D reqs s a = some s') : Effect D reqs s a s' := by
  cases a with
  | fail i =>
    simp only [step] at hs
    split at hs
    · cases hs
    · rename_i h
      obtain rfl := Option.some.inj hs
      exact .failed i (by simpa using h)
  | run i =>
    simp only [step, Sys.run] at hs
    have died (h : s.Dies D i (reqs i)) : Effect D reqs s (.run i) (s.setTask i .failed) :=
      .died i s.db.routersSeq le_rfl h
    cases ht : s.task i with
    | lookup =>
      simp only [ht] at hs
      split at hs
      · rename_i hserial
        obtain rfl := Option.some.inj hs
        exact died (Or.inl ⟨ht, hserial⟩)
      split at hs
      · rename_i hq
        obtain rfl := Option.some.inj hs
        exact .foundNone i ht hq
      · rename_i existing hq
        obtain rfl := Option.some.inj hs
        exact .found i existing ht hq
    | allocate =>
      simp only [ht] at hs
      split at hs
      · rename_i e hip
        obtain rfl := Option.some.inj hs
        exact died (Or.inr (Or.inl ⟨ht, e, hip⟩))
      · rename_i ip hip
        obtain rfl := Option.some.inj hs
        exact .allocated i ip ht hip
    | insert ip =>
      simp only [ht] at hs
      split at hs
      · rename_i hfits
        obtain rfl := Option.some.inj hs
        exact died (Or.inr (Or.inr (Or.inl ⟨ip, ht, Or.inl hfits⟩)))
      rename_i hfits
      split at hs
      · cases hs
      rename_i hfree
      split at hs
      · rename_i hrej
        obtain rfl := Option.some.inj hs
        exact .died i _ (Nat.le_succ _) (Or.inr (Or.inr (Or.inl ⟨ip, ht, Or.inr hrej⟩)))
      · rename_i hok
        obtain rfl := Option.some.inj hs
        exact .inserted i ip _ ht rfl (not_not.mp hfits) hfree hok
    | commitNew row =>
      simp only [ht] at hs
      obtain rfl := Option.some.inj hs
      exact .committedNew i row ht
    | flush existing =>
      simp only [ht] at hs
      split at hs
      · rename_i heq
        obtain rfl := Option.some.inj hs
        exact .unchanged i existing ht heq
      rename_i hne
      split at hs
      · rename_i hfits
        obtain rfl := Option.some.inj hs
        exact died (Or.inr (Or.inr (Or.inr ⟨existing, ht, Or.inl hfits⟩)))
      rename_i hfits
      split at hs
      · rename_i hcur
        obtain rfl := Option.some.inj hs
        exact died (Or.inr (Or.inr (Or.inr ⟨existing, ht, Or.inr (Or.inl hcur)⟩)))
      rename_i current hcur
      split at hs
      · cases hs
      rename_i hfree
      split at hs
      · rename_i hrej
        obtain rfl := Option.some.inj hs
        exact died (Or.inr (Or.inr (Or.inr ⟨existing, ht, Or.inr (Or.inr ⟨current, hcur, hrej⟩)⟩)))
      · rename_i hok
        obtain rfl := Option.some.inj hs
        exact .updated i existing current _ ht hne hcur rfl (not_not.mp hfits) hfree hok
    | selectTokens id row =>
      simp only [ht] at hs
      obtain rfl := Option.some.inj hs
      exact .selectedTokens i id row ht
    | commitReenroll id row old =>
      simp only [ht] at hs
      obtain rfl := Option.some.inj hs
      exact .committedReenroll i id row old ht
    | selectPeers =>
      simp only [ht] at hs
      obtain rfl := Option.some.inj hs
      exact .selectedPeers i ht
    | readBlock peers =>
      simp only [ht] at hs
      obtain rfl := Option.some.inj hs
      exact .blockRead i peers ht
    | replaceConf peers block =>
      simp only [ht] at hs
      obtain rfl := Option.some.inj hs
      exact .replaced i peers block ht
    | runHelper =>
      simp only [ht] at hs
      obtain rfl := Option.some.inj hs
      exact .helperRan i ht
    | commitAudit =>
      simp only [ht] at hs
      obtain rfl := Option.some.inj hs
      exact .audited i ht
    | answered =>
      simp only [ht] at hs
      cases hs
    | failed =>
      simp only [ht] at hs
      cases hs

/-- A step moves one request. -/
theorem step_other {D : Deployment} {reqs : ι → Submission} {s s' : Sys ι} {a : Act ι} {j : ι}
    (hs : step D reqs s a = some s') (hj : j ≠ a.who) : s'.task j = s.task j := by
  cases step_effect hs <;> exact Sys.setTask_of_ne _ hj _

/-- A request that is done does not move. -/
theorem not_done_of_step {D : Deployment} {reqs : ι → Submission} {s s' : Sys ι} {a : Act ι}
    (hs : step D reqs s a = some s') : (s.task a.who).done = false := by
  cases h : (s.task a.who).done with
  | false => rfl
  | true =>
    cases a with
    | fail i =>
      simp only [Act.who] at h
      simp [step, h] at hs
    | run i =>
      have hdone : s.task i = .answered ∨ s.task i = .failed := of_decide_eq_true h
      rcases hdone with hi | hi <;> simp [step, Sys.run, hi] at hs

theorem step_of_done {D : Deployment} {reqs : ι → Submission} {s s' : Sys ι} {a : Act ι} {j : ι}
    (hs : step D reqs s a = some s') (h : (s.task j).done = true) : s'.task j = s.task j := by
  refine step_other hs ?_
  rintro rfl
  rw [not_done_of_step hs] at h
  cases h

/-! ## Progress -/

/-- A request that has written something can go on. -/
theorem run_of_pending {D : Deployment} {reqs : ι → Submission} {s : Sys ι} {j : ι} {r : Router}
    (h : (s.task j).pending = some r) : (step D reqs s (.run j)).isSome = true := by
  cases ht : s.task j <;> simp_all [step, Sys.run, Task.pending]

/-- A request that cannot go on is done or waits. -/
theorem blocked_of_none {D : Deployment} {reqs : ι → Submission} {s : Sys ι} {i : ι}
    (h : (s.task i).done = false) (hs : step D reqs s (.run i) = none) : ∃ r, s.Blocked i r := by
  simp only [step, Sys.run] at hs
  cases ht : s.task i with
  | insert ip =>
    simp only [ht] at hs
    split at hs
    · cases hs
    split at hs
    · rename_i hb
      exact ⟨_, hb⟩
    · split at hs <;> cases hs
  | flush existing =>
    simp only [ht] at hs
    split at hs
    · cases hs
    split at hs
    · cases hs
    split at hs
    · cases hs
    split at hs
    · rename_i hb
      exact ⟨_, hb⟩
    · split at hs <;> cases hs
  | lookup =>
    simp only [ht] at hs
    split at hs
    · cases hs
    · split at hs <;> cases hs
  | allocate =>
    simp only [ht] at hs
    split at hs <;> cases hs
  | answered => simp [ht, Task.done] at h
  | failed => simp [ht, Task.done] at h
  | _ => simp [ht] at hs

/-- **No deadlock**: as long as a request is not done, one of them can go on. -/
theorem not_stuck (D : Deployment) (reqs : ι → Submission) (s : Sys ι) {i : ι}
    (h : (s.task i).done = false) : ∃ j, (step D reqs s (.run j)).isSome = true := by
  cases hs : step D reqs s (.run i) with
  | some s' => exact ⟨i, by rw [hs]; rfl⟩
  | none =>
    obtain ⟨r, j, -, hj⟩ := blocked_of_none h hs
    obtain ⟨r', hr', -⟩ := (Option.any_eq_true ..).mp hj
    exact ⟨j, run_of_pending hr'⟩

/-- The statements a request has left, at most. -/
def Task.rank : Task → Nat
  | .lookup => 9
  | .allocate | .flush _ => 8
  | .insert _ | .selectTokens _ _ => 7
  | .commitNew _ | .commitReenroll _ _ _ => 6
  | .selectPeers => 5
  | .readBlock _ => 4
  | .replaceConf _ _ => 3
  | .runHelper => 2
  | .commitAudit => 1
  | .answered | .failed => 0

/-- The statements left over all. -/
def Sys.rank (s : Sys ι) : Nat := ∑ i, (s.task i).rank

theorem rank_setTask {s : Sys ι} {i : ι} {t : Task} (h : t.rank < (s.task i).rank) :
    (s.setTask i t).rank < s.rank := by
  refine Finset.sum_lt_sum (fun j _ => ?_) ⟨i, Finset.mem_univ i, by simpa using h⟩
  by_cases hj : j = i
  · subst hj
    simpa using h.le
  · rw [s.setTask_of_ne hj]

theorem rank_step {D : Deployment} {reqs : ι → Submission} {s s' : Sys ι} {a : Act ι}
    (hs : step D reqs s a = some s') : s'.rank < s.rank := by
  have rank_pos {t : Task} (h : t.done = false) : 0 < t.rank := by
    cases t <;> simp_all [Task.rank, Task.done]
  cases step_effect hs with
  | failed i h => exact rank_setTask (rank_pos h)
  | died i seq hseq h =>
    refine rank_setTask (s := { s with db := { s.db with routersSeq := seq } }) (rank_pos ?_)
    rcases h with ⟨ht, -⟩ | ⟨ht, -⟩ | ⟨ip, ht, -⟩ | ⟨existing, ht, -⟩ <;> rw [ht] <;> rfl
  | foundNone i h => exact rank_setTask (by simp [h, Task.rank])
  | found i existing h => exact rank_setTask (by simp [h, Task.rank])
  | allocated i ip h => exact rank_setTask (by simp [h, Task.rank])
  | inserted i ip row h => exact rank_setTask (t := .commitNew row) (by simp [h, Task.rank])
  | committedNew i row h => exact rank_setTask (t := .selectPeers) (by simp [h, Task.rank])
  | unchanged i existing h => exact rank_setTask (by simp [h, Task.rank])
  | updated i existing current row h => exact rank_setTask (by simp [h, Task.rank])
  | selectedTokens i id row h => exact rank_setTask (by simp [h, Task.rank])
  | committedReenroll i id row old h =>
    exact rank_setTask (t := .selectPeers) (by simp [h, Task.rank])
  | selectedPeers i h => exact rank_setTask (by simp [h, Task.rank])
  | blockRead i peers h => exact rank_setTask (by simp [h, Task.rank])
  | replaced i peers block h => exact rank_setTask (t := .runHelper) (by simp [h, Task.rank])
  | helperRan i h => exact rank_setTask (t := .commitAudit) (by simp [h, Task.rank])
  | audited i h => exact rank_setTask (by simp [h, Task.rank])

/-- **Every run ends**: it takes no more steps than there are statements left. -/
theorem length_run_le {D : Deployment} {reqs : ι → Submission} :
    ∀ {as : List (Act ι)} {s s' : Sys ι}, Run.exec (step D reqs) s as = some s' →
      as.length + s'.rank ≤ s.rank
  | [], s, s', h => by
    obtain rfl := Option.some.inj h
    simp
  | a :: as, s, s', h => by
    obtain ⟨t, ht, h⟩ := Run.exec_cons_iff.mp h
    have hlt := rank_step ht
    have hle := length_run_le h
    simp only [List.length_cons]
    omega

/-! ## Two requests -/

/-- The first enrollments of units A and B. -/
def newPair (second : Bool) : Submission :=
  if second then (smallCall unitB "tok-B-second-enrollment" 0).toSubmission
  else (smallCall unitA "tok-A-first-enrollment" 0).toSubmission

end CpeCloud
