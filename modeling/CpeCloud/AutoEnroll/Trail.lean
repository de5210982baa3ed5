import CpeCloud.AutoEnroll.Failure
import CpeCloud.Lib.Run

/-!
# The audit trail of the enrollments

The row of a new router is committed before the sync, and the `auto_enroll_new` row after it. When
the sync fails in between, the retry finds the serial known and is recorded as a re-enrollment, so
that nothing ever records the creation.

* `creations_autoEnroll`: when a request adds a row to the trail.
* **`created_recorded_iff`**: every router created in a run is recorded once iff no request that
  creates one has its sync fail.
-/

namespace CpeCloud

/-- The rows of the audit log that record the creation of a router. -/
def Db.creations (db : Db) (id : Nat) : List AuditLog :=
  db.auditLog.filter fun a => a.action = .autoEnrollNew ∧ a.routerId = some id

/-- The request's transaction inserts a router. -/
structure Creates (D : Deployment) (w : World) (c : EnrollCall) : Prop where
  admissible : Admissible D w c
  fresh : ∀ r ∈ w.db.routers, r.serialNumber ≠ c.payload.serial

/-! ## What a request adds to the trail -/

theorem creations_of_auditLog {db db' : Db} (h : db'.auditLog = db.auditLog) (id : Nat) :
    db'.creations id = db.creations id := by
  rw [Db.creations, h]
  rfl

theorem creations_audit {db db' : Db} {action : AuditAction} {status : AuditStatus}
    {routerId : Option Nat} {params : List (String × Param)}
    (h : db.audit action status routerId params = .ok db') (id : Nat) :
    (db'.creations id).length = (db.creations id).length +
      if action = .autoEnrollNew ∧ routerId = some id then 1 else 0 := by
  unfold Db.audit at h
  split at h
  · obtain rfl := Except.ok.inj h
    simp only [Db.creations, List.filter_append, List.length_append, List.filter_cons,
      List.filter_nil, decide_eq_true_eq]
    split <;> rfl
  · cases h

/-- An audit row under another action records no creation. -/
theorem creations_audited (w : World) {action : AuditAction} (ha : action ≠ .autoEnrollNew)
    (status : AuditStatus) (routerId : Option Nat) (params : List (String × Param))
    (answer : Outcome) (id : Nat) :
    ((audited w action status routerId params answer).2.db.creations id).length =
      (w.db.creations id).length := by
  unfold audited
  split
  · rfl
  · rename_i db hdb
    rw [creations_audit hdb, if_neg fun h => ha h.1, Nat.add_zero]

theorem creations_reportSyncFailure (w : World) (routerId : Nat) (e : SyncError) (id : Nat) :
    ((reportSyncFailure w routerId e).2.db.creations id).length = (w.db.creations id).length := by
  cases e with
  | databaseError m => rfl
  | runtimeError m => exact creations_audited w (by decide) _ _ _ _ id
  | osError m => exact creations_audited w (by decide) _ _ _ _ id

theorem enrollRow_auditLog (D : Deployment) (c : Submission) (db : Db) :
    (enrollRow D c db).2.auditLog = db.auditLog := by
  have heff := enrollRow_effect D c db
  generalize enrollRow D c db = res at heff
  cases heff <;> rfl

/-- Behind its checks, a request is recorded when its sync goes through. -/
theorem creations_enroll {D : Deployment} {w : World} {c : EnrollCall} (slot : SecretSlot)
    (serverPubkey : Text) {enrolled : Enrolled} {db : Db}
    (hrow : enrollRow D c.toSubmission w.db = (.ok enrolled, db)) (id : Nat) :
    ((SyncReady c.faults w.host ∧ enrolled.reenroll = false ∧ id = enrolled.row.id) →
      ((enroll D w c slot serverPubkey).2.db.creations id).length =
        (w.db.creations id).length + 1) ∧
    (¬ (SyncReady c.faults w.host ∧ enrolled.reenroll = false ∧ id = enrolled.row.id) →
      ((enroll D w c slot serverPubkey).2.db.creations id).length =
        (w.db.creations id).length) := by
  have heff := enrollRow_effect D c.toSubmission w.db
  rw [hrow] at heff
  have haudit := audit_success heff rfl
  have hlog : db.creations id = w.db.creations id := by
    have h := enrollRow_auditLog D c.toSubmission w.db
    rw [hrow] at h
    exact creations_of_auditLog h id
  have hready := syncFromDb_ok_iff D.toSettings c.faults db.routers w.host
  unfold enroll
  rw [hrow]
  simp only
  cases hsync : syncFromDb D.toSettings c.faults db.routers w.host with
  | mk res host =>
    rw [hsync] at hready
    cases res with
    | error e =>
      have hnot : ¬ SyncReady c.faults w.host := fun h => by
        obtain ⟨n, hn⟩ := hready.mpr h
        cases hn
      refine ⟨fun h => absurd h.1 hnot, fun _ => ?_⟩
      exact (creations_reportSyncFailure _ _ e id).trans (congrArg List.length hlog)
    | ok n =>
      have hready : SyncReady c.faults w.host := hready.mp ⟨n, rfl⟩
      obtain ⟨db', hdb'⟩ := haudit db
        (if enrolled.reenroll then .autoEnrollReenroll else .autoEnrollNew) slot n
      have hcount := creations_audit hdb' id
      simp only [audited, hdb', hready, true_and]
      rw [hcount, hlog]
      cases enrolled.reenroll <;> simp [eq_comm]

/-- A request that is not authorized is not recorded as a creation. -/
theorem creations_of_not_authorized {D : Deployment} {w : World} {c : EnrollCall}
    (h : ¬ Authorized D w c) (id : Nat) :
    ((autoEnroll D w c).2.db.creations id).length = (w.db.creations id).length := by
  unfold autoEnroll
  cases hl : limitRates w.buckets c with
  | mk admitted bs =>
    cases admitted with
    | false => rfl
    | true =>
      simp only
      cases hs : c.secret with
      | none => exact creations_audited { w with buckets := bs } (by decide) _ _ _ _ id
      | some raw =>
        cases raw with
        | nil => exact creations_audited { w with buckets := bs } (by decide) _ _ _ _ id
        | cons a as =>
          simp only
          cases hv : verifyProvisioningSecret D (a :: as) with
          | none => exact creations_audited { w with buckets := bs } (by decide) _ _ _ _ id
          | some slot => exact absurd ⟨by rw [hl], a :: as, slot, hs, by simp, hv⟩ h

/-- **When a request adds to the trail**: it creates a router and its sync goes through. -/
theorem creations_autoEnroll {D : Deployment} {w : World} (hwf : w.db.WF D.toBackend)
    (c : EnrollCall) (id : Nat) :
    ((SyncReady c.faults w.host ∧ Creates D w c ∧ id = w.db.routersSeq) →
      ((autoEnroll D w c).2.db.creations id).length = (w.db.creations id).length + 1) ∧
    (¬ (SyncReady c.faults w.host ∧ Creates D w c ∧ id = w.db.routersSeq) →
      ((autoEnroll D w c).2.db.creations id).length = (w.db.creations id).length) := by
  by_cases hauth : Authorized D w c
  swap
  · exact ⟨fun h => absurd h.2.1.admissible.authorized hauth,
      fun _ => creations_of_not_authorized hauth id⟩
  obtain ⟨slot, hrun⟩ := autoEnroll_of_authorized hauth
  rw [hrun]
  split
  · rename_i hkey
    exact ⟨fun h => absurd hkey h.2.1.admissible.key, fun _ => rfl⟩
  rename_i hkey
  have hiff := enrollRow_ok_iff (c := c.toSubmission) hwf
  have heff := enrollRow_effect D c.toSubmission w.db
  cases hrow : enrollRow D c.toSubmission w.db with
  | mk res db =>
    rw [hrow] at hiff heff
    cases heff with
    | failed e =>
      have hnot : ¬ Creates D w c := fun h => by
        obtain ⟨x, hx⟩ := hiff.mpr h.admissible.enrollable
        cases hx
      refine ⟨fun h => absurd h.2.1 hnot, fun _ => ?_⟩
      have hrow' : enrollRow D c.toSubmission (w.limited c).db = _ := hrow
      simp only [enroll, hrow']
      rfl
    | inserted ip hnew =>
      have hcreates : Creates D w c :=
        ⟨⟨hauth, hkey, hiff.mp ⟨_, rfl⟩⟩, Db.routerBySerial_none.mp hnew⟩
      have h := creations_enroll (w := w.limited c) slot D.wgServerPublicKey hrow id
      simp only [true_and] at h
      simp only [hcreates, true_and]
      exact h
    | reenrolled existing hold =>
      have hnot : ¬ Creates D w c := fun h =>
        h.fresh existing (Db.routerBySerial_some hold).1 (Db.routerBySerial_some hold).2
      refine ⟨fun h => absurd h.2.1 hnot, fun _ => ?_⟩
      exact (creations_enroll (w := w.limited c) slot D.wgServerPublicKey hrow id).2 (by simp)

/-- The routers there are behind a request. -/
theorem ids_autoEnroll {D : Deployment} {w : World} (hwf : w.db.WF D.toBackend) (c : EnrollCall) :
    (Creates D w c → (autoEnroll D w c).2.db.routers.map Router.id =
      w.db.routers.map Router.id ++ [w.db.routersSeq]) ∧
    (¬ Creates D w c → (autoEnroll D w c).2.db.routers.map Router.id =
      w.db.routers.map Router.id) ∧
    w.db.routersSeq ≤ (autoEnroll D w c).2.db.routersSeq := by
  have hserved := autoEnroll_served hwf c
  generalize autoEnroll D w c = res at hserved
  cases hserved with
  | refused o w' why ho hdb hhost =>
    exact ⟨fun h => absurd h.admissible why, fun _ => by rw [hdb.routers], hdb.routersSeq⟩
  | committed o w' enrolled db hadm hrow ho hdb hhost =>
    have heff := enrollRow_effect D c.toSubmission w.db
    rw [hrow] at heff
    simp only [hdb.routers, hdb.routersSeq]
    cases heff with
    | inserted ip hnew =>
      have hcreates : Creates D w c := ⟨hadm, Db.routerBySerial_none.mp hnew⟩
      refine ⟨fun _ => ?_, fun h => absurd hcreates h, Nat.le_succ _⟩
      rw [Db.inserted, List.map_append]
      rfl
    | reenrolled existing hold =>
      have hnot : ¬ Creates D w c := fun h =>
        h.fresh existing (Db.routerBySerial_some hold).1 (Db.routerBySerial_some hold).2
      exact ⟨fun h => absurd h hnot, fun _ => Rows.amend_keys fun _ h => h, le_rfl⟩

/-! ## Runs -/

/-- What the trail of a run needs: ids that are still to be drawn name nothing. -/
structure Undrawn (D : Deployment) (old : List Nat) (w : World) : Prop where
  wf : w.db.WF D.toBackend
  old : ∀ id ∈ old, id < w.db.routersSeq
  fresh : ∀ id, w.db.routersSeq ≤ id → (w.db.creations id).length = 0

theorem Undrawn.step {D : Deployment} {old : List Nat} {w : World} (h : Undrawn D old w)
    (c : EnrollCall) : Undrawn D old (autoEnroll D w c).2 := by
  obtain ⟨hnew, hsame, hseq⟩ := ids_autoEnroll h.wf c
  have hwf := wf_autoEnroll c h.wf
  refine ⟨hwf, fun id hid => (h.old id hid).trans_le hseq, fun id hid => ?_⟩
  have hle := hseq.trans hid
  have hnot : ¬ (SyncReady c.faults w.host ∧ Creates D w c ∧ id = w.db.routersSeq) := by
    rintro ⟨-, hcreates, rfl⟩
    -- the id drawn is a row's by now
    have hmem : w.db.routersSeq ∈ (autoEnroll D w c).2.db.routers.map Router.id := by
      rw [hnew hcreates]
      simp
    obtain ⟨r, hr, hrid⟩ := List.mem_map.mp hmem
    have := hwf.routersSeq r hr
    omega
  rw [(creations_autoEnroll h.wf c id).2 hnot, h.fresh id hle]

/-- Every router that is not an old one has its creation recorded, once. -/
def AllRecorded (old : List Nat) (w : World) : Prop :=
  ∀ r ∈ w.db.routers, r.id ∉ old → (w.db.creations r.id).length = 1

/-- Some router that is not an old one has no creation recorded. -/
def SomeUnrecorded (old : List Nat) (w : World) : Prop :=
  ∃ r ∈ w.db.routers, r.id ∉ old ∧ (w.db.creations r.id).length = 0

theorem mem_ids {w : World} {id : Nat} :
    id ∈ w.db.routers.map Router.id ↔ ∃ r ∈ w.db.routers, r.id = id := List.mem_map

/-- A router's record does not change. -/
theorem creations_kept {D : Deployment} {w : World} (hwf : w.db.WF D.toBackend) (c : EnrollCall)
    {r : Router} (hr : r ∈ w.db.routers) :
    ((autoEnroll D w c).2.db.creations r.id).length = (w.db.creations r.id).length := by
  refine (creations_autoEnroll hwf c r.id).2 ?_
  rintro ⟨-, -, hid⟩
  have := hwf.routersSeq r hr
  omega

/-- A request that creates nothing, or whose sync goes through, keeps every creation recorded. -/
theorem AllRecorded.step {D : Deployment} {old : List Nat} {w : World} (hu : Undrawn D old w)
    (h : AllRecorded old w) {c : EnrollCall} (hC : Creates D w c → SyncReady c.faults w.host) :
    AllRecorded old (autoEnroll D w c).2 := by
  intro r hr hold
  obtain ⟨hnew, hsame, -⟩ := ids_autoEnroll hu.wf c
  have kept (hmem : r.id ∈ w.db.routers.map Router.id) :
      ((autoEnroll D w c).2.db.creations r.id).length = 1 := by
    obtain ⟨r', hr', hid⟩ := mem_ids.mp hmem
    rw [← hid, creations_kept hu.wf c hr', h r' hr' (hid ▸ hold)]
  have hmem : r.id ∈ (autoEnroll D w c).2.db.routers.map Router.id := List.mem_map_of_mem hr
  by_cases hcreates : Creates D w c
  · rw [hnew hcreates, List.mem_append, List.mem_singleton] at hmem
    rcases hmem with hmem | hid
    · exact kept hmem
    · rw [(creations_autoEnroll hu.wf c r.id).1 ⟨hC hcreates, hcreates, hid⟩, hid,
        hu.fresh _ le_rfl]
  · rw [hsame hcreates] at hmem
    exact kept hmem

/-- A request that creates a router and whose sync fails leaves it off the trail. -/
theorem SomeUnrecorded.start {D : Deployment} {old : List Nat} {w : World} (hu : Undrawn D old w)
    {c : EnrollCall} (hC : ¬ (Creates D w c → SyncReady c.faults w.host)) :
    SomeUnrecorded old (autoEnroll D w c).2 := by
  obtain ⟨hcreates, hfails⟩ := Classical.not_imp.mp hC
  have hmem : w.db.routersSeq ∈ (autoEnroll D w c).2.db.routers.map Router.id := by
    rw [(ids_autoEnroll hu.wf c).1 hcreates]
    simp
  obtain ⟨r, hr, hid⟩ := mem_ids.mp hmem
  refine ⟨r, hr, fun hold => ?_, ?_⟩
  · have := hu.old _ hold
    omega
  · rw [hid, (creations_autoEnroll hu.wf c _).2 fun h => hfails h.1, hu.fresh _ le_rfl]

/-- No later request puts it there. -/
theorem SomeUnrecorded.step {D : Deployment} {old : List Nat} {w : World} (hu : Undrawn D old w)
    (h : SomeUnrecorded old w) (c : EnrollCall) : SomeUnrecorded old (autoEnroll D w c).2 := by
  obtain ⟨r, hr, hold, hcount⟩ := h
  have hmem : r.id ∈ (autoEnroll D w c).2.db.routers.map Router.id := by
    obtain ⟨hnew, hsame, -⟩ := ids_autoEnroll hu.wf c
    have hmem : r.id ∈ w.db.routers.map Router.id := List.mem_map_of_mem hr
    by_cases hcreates : Creates D w c
    · rw [hnew hcreates]
      exact List.mem_append_left _ hmem
    · rwa [hsame hcreates]
  obtain ⟨r', hr', hid⟩ := mem_ids.mp hmem
  refine ⟨r', hr', hid ▸ hold, ?_⟩
  rw [hid, creations_kept hu.wf c hr, hcount]

/-- **When every enrollment that created a router is on the audit trail.** -/
theorem created_recorded_iff {D : Deployment} {w w' : World} {cs : List EnrollCall}
    (hwf : w.db.WF D.toBackend)
    (howners : ∀ a ∈ w.db.auditLog, ∀ id, a.routerId = some id → id ∈ w.db.routers.map Router.id)
    (hrun : Run.exec (enrollStep D) w cs = some w') :
    AllRecorded (w.db.routers.map Router.id) w' ↔
      Run.Meets (enrollStep D) (fun w c => Creates D w c → SyncReady c.faults w.host) w cs := by
  have hold : ∀ id ∈ w.db.routers.map Router.id, id < w.db.routersSeq := by
    intro id hid
    obtain ⟨r, hr, rfl⟩ := mem_ids.mp hid
    exact hwf.routersSeq r hr
  have hfresh : ∀ id, w.db.routersSeq ≤ id → (w.db.creations id).length = 0 := by
    intro id hid
    rw [List.length_eq_zero_iff, Db.creations, List.filter_eq_nil_iff]
    intro a ha hrec
    have := hold id (howners a ha id (of_decide_eq_true hrec).2)
    omega
  have hall : AllRecorded (w.db.routers.map Router.id) w :=
    fun r hr hnot => absurd (List.mem_map_of_mem hr) hnot
  have hdich := Run.meets_or
    (P := fun x => Undrawn D (w.db.routers.map Router.id) x ∧
      AllRecorded (w.db.routers.map Router.id) x)
    (Q := fun x => Undrawn D (w.db.routers.map Router.id) x ∧
      SomeUnrecorded (w.db.routers.map Router.id) x)
    (C := fun w c => Creates D w c → SyncReady c.faults w.host)
    (fun h hC hs => by
      obtain rfl := Option.some.inj hs
      exact ⟨h.1.step _, h.2.step h.1 hC⟩)
    (fun h hC hs => by
      obtain rfl := Option.some.inj hs
      exact ⟨h.1.step _, .start h.1 hC⟩)
    (fun h hs => by
      obtain rfl := Option.some.inj hs
      exact ⟨h.1.step _, h.2.step h.1 _⟩)
    ⟨⟨hwf, hold, hfresh⟩, hall⟩ hrun
  rcases hdich with ⟨hm, -, hrec⟩ | ⟨hm, -, r, hr, hnot, hcount⟩
  · exact iff_of_true hrec hm
  · refine iff_of_false (fun h => ?_) hm
    have := h r hr hnot
    omega

/-- The first enrollment of unit A, with a sync helper that fails. -/
def brokenCall : EnrollCall :=
  { smallCall unitA "tok-A-first-enrollment" 0 with faults := helperFails }

/-- The world with unit A enrolled by a request whose sync failed, and by its retry. -/
def retriedWorld : World :=
  (autoEnroll smallDeployment (autoEnroll smallDeployment smallWorld brokenCall).2 againCall).2

/-- The retry is answered with the script and recorded as a re-enrollment. -/
theorem retried_not_recorded : ¬ ∀ (D : Deployment) (w w' : World) (cs : List EnrollCall),
    w.db.WF D.toBackend →
    (∀ a ∈ w.db.auditLog, ∀ id, a.routerId = some id → id ∈ w.db.routers.map Router.id) →
    Run.exec (enrollStep D) w cs = some w' → AllRecorded (w.db.routers.map Router.id) w' := by
  intro h
  have hrec := h smallDeployment smallWorld retriedWorld [brokenCall, againCall]
    (Db.wf_empty _ _ _ _) (by simp [smallWorld, Db.empty]) rfl
  have hbad : ∃ r ∈ retriedWorld.db.routers, (retriedWorld.db.creations r.id).length = 0 := by
    decide +kernel
  obtain ⟨r, hr, hcount⟩ := hbad
  have := hrec r hr (by simp [smallWorld, Db.empty])
  omega

theorem created_recorded_iff_retried :
    AllRecorded (smallWorld.db.routers.map Router.id) retriedWorld ↔
      Run.Meets (enrollStep smallDeployment)
        (fun w c => Creates smallDeployment w c → SyncReady c.faults w.host)
        smallWorld [brokenCall, againCall] :=
  created_recorded_iff (Db.wf_empty _ _ _ _) (by simp [smallWorld, Db.empty]) rfl

end CpeCloud
