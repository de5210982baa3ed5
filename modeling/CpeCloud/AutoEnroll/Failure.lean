import CpeCloud.AutoEnroll.Handler

/-!
# Enrollments that fail

* **`failed_leavesNoTrace_iff`**: a request that is not answered with 200 leaves the inventory as it
  was unless its transaction could commit and its sync could not go through. Then the row, the
  revocations and the new token stay.
* **`handled_iff`**: an authorized request with storable values gets an RSC answer iff the server
  has no key, or the payload is enrollable and the SELECT of the sync goes through.
-/

namespace CpeCloud

/-! ## Without a trace -/

/-- `routers` and `router_tokens` are as they were. -/
def LeavesNoTrace (w w' : World) : Prop :=
  w'.db.routers = w.db.routers ∧ w'.db.routerTokens = w.db.routerTokens

instance (w w' : World) : Decidable (LeavesNoTrace w w') := by
  unfold LeavesNoTrace
  infer_instance

/-- The sync can go through: the file is there, and no call fails but `chown` for lack of
privileges. -/
def SyncReady (φ : Faults) (h : Host) : Prop := h.conf ≠ none ∧ φ.Harmless

/-- A transaction that commits adds a token. -/
theorem enrollRow_adds_token {D : Deployment} {c : Submission} {db db' : Db} {enrolled : Enrolled}
    (h : enrollRow D c db = (.ok enrolled, db')) :
    db'.routerTokens.length = db.routerTokens.length + 1 := by
  have heff := enrollRow_effect D c db
  rw [h] at heff
  cases heff with
  | inserted ip => simp [Db.inserted]
  | reenrolled existing => simp [Db.reenrolled, revokeTokens]

/-- **When a failed enrollment leaves no trace.** -/
theorem failed_leavesNoTrace_iff (D : Deployment) (w : World) (c : EnrollCall)
    (hwf : w.db.WF D.toBackend) :
    ((autoEnroll D w c).1.statusCode ≠ some 200 → LeavesNoTrace w (autoEnroll D w c).2) ↔
      ¬ Admissible D w c ∨ SyncReady c.faults w.host := by
  have hserved := autoEnroll_served hwf c
  generalize autoEnroll D w c = res at hserved
  cases hserved with
  | refused o w' why ho hdb hhost =>
    exact iff_of_true (fun _ => ⟨hdb.routers, hdb.routerTokens⟩) (Or.inl why)
  | committed o w' enrolled db hadm hrow ho hdb hhost =>
    have htrace : ¬ LeavesNoTrace w w' := fun h => by
      have hlen := enrollRow_adds_token hrow
      rw [← hdb.routerTokens, h.2] at hlen
      omega
    have hready : SyncReady c.faults w.host ↔ o.statusCode = some 200 :=
      (ho.trans (syncFromDb_ok_iff _ _ _ _)).symm
    simp only [hadm, not_true, false_or, hready, htrace]
    exact ⟨fun h => by_contra h, fun h hne => hne h⟩

/-- The sync helper fails, as it does when `wg syncconf` refuses the file. -/
def helperFails : Faults
  | .helper => some ⟨false, "wg sync helper failed (rc=1): stderr=''".toList, by decide⟩
  | _ => none

/-- The second enrollment of unit A, with a sync helper that fails. -/
def resentCall : EnrollCall :=
  { smallCall unitA "tok-B-second-enrollment" 60 with faults := helperFails }

/-- Unit A is sent again, and its answer is a 500: the token it had is revoked, and the one it was
not given is live. -/
theorem resent_leaves_trace : ¬ ∀ (D : Deployment) (w : World) (c : EnrollCall),
    w.db.WF D.toBackend → (autoEnroll D w c).1.statusCode ≠ some 200 →
      LeavesNoTrace w (autoEnroll D w c).2 := by
  intro h
  have hbad : (autoEnroll smallDeployment enrolledWorld resentCall).1.statusCode ≠ some 200 ∧
      ¬ LeavesNoTrace enrolledWorld (autoEnroll smallDeployment enrolledWorld resentCall).2 := by
    decide +kernel
  exact hbad.2 (h _ _ _ wf_enrolledWorld hbad.1)

theorem failed_leavesNoTrace_iff_resent :
    ((autoEnroll smallDeployment enrolledWorld resentCall).1.statusCode ≠ some 200 →
      LeavesNoTrace enrolledWorld (autoEnroll smallDeployment enrolledWorld resentCall).2) ↔
      ¬ Admissible smallDeployment enrolledWorld resentCall ∨
        SyncReady resentCall.faults enrolledWorld.host :=
  failed_leavesNoTrace_iff _ _ _ wf_enrolledWorld

/-! ## A readable answer -/

/-- An answer the router can import: an RSC script as plain text. -/
def Outcome.Handled (o : Outcome) : Prop :=
  ∃ r, o = .response r ∧ r.mediaType = "text/plain; charset=utf-8" ∧
    ((∃ ctx, r.body = .provision ctx) ∨ ∃ message, r.body = .text (rscError message))

theorem rejection_handled (message : String) (n : Nat) : (rejection message n).Handled :=
  ⟨_, rfl, rfl, Or.inr ⟨_, rfl⟩⟩

theorem provision_handled (D : Deployment) (c : EnrollCall) (row : Router) (key : Text) :
    (provision D c row key).Handled := ⟨_, rfl, rfl, Or.inl ⟨_, rfl⟩⟩

theorem raised_not_handled (e : Exc) : ¬ (Outcome.raised e).Handled := by
  rintro ⟨r, h, -⟩
  cases h

theorem audited_handled {w : World} {action : AuditAction} {status : AuditStatus}
    {routerId : Option Nat} {params : List (String × Param)} {answer : Outcome}
    (hp : params.all (fun p => p.2.storable) = true) (ha : answer.Handled) :
    (audited w action status routerId params answer).1.Handled := by
  rw [audited, Db.audit, if_pos hp]
  exact ha

/-- A failed sync is reported unless it was the SELECT that failed. -/
theorem reportSyncFailure_handled_iff (w : World) (routerId : Nat) (e : SyncError) :
    (reportSyncFailure w routerId e).1.Handled ↔ ¬ ∃ m, e = .databaseError m := by
  have hstorable : ([("error", .text e.str.1)] : List (String × Param)).all
      (fun p => p.2.storable) = true := by
    simp [Param.storable, e.str.2]
  cases e with
  | databaseError m => exact iff_of_false (raised_not_handled _) (fun h => h ⟨m, rfl⟩)
  | runtimeError m =>
    exact iff_of_true (audited_handled hstorable (rejection_handled _ _)) (by simp)
  | osError m => exact iff_of_true (audited_handled hstorable (rejection_handled _ _)) (by simp)

/-- Behind the checks, a request is answered iff its transaction commits and the SELECT of its sync
goes through. -/
theorem enroll_handled_iff (D : Deployment) (w : World) (c : EnrollCall) (slot : SecretSlot)
    (serverPubkey : Text) : (enroll D w c slot serverPubkey).1.Handled ↔
      (∃ e, (enrollRow D c.toSubmission w.db).1 = .ok e) ∧ c.faults .select = none := by
  have heff := enrollRow_effect D c.toSubmission w.db
  unfold enroll
  cases hrow : enrollRow D c.toSubmission w.db with
  | mk res db =>
    rw [hrow] at heff
    cases res with
    | error e => exact iff_of_false (raised_not_handled e) (by simp)
    | ok enrolled =>
      have hselect := syncFromDb_databaseError_iff D.toSettings c.faults db.routers w.host
      simp only [Except.ok.injEq, exists_eq', true_and]
      cases hsync : syncFromDb D.toSettings c.faults db.routers w.host with
      | mk res host =>
        rw [hsync] at hselect
        cases res with
        | error e =>
          simp only [Except.error.injEq] at hselect
          simp only [reportSyncFailure_handled_iff, hselect, ne_eq, not_not]
        | ok n =>
          have hnone : c.faults .select = none := by
            by_contra hne
            obtain ⟨m, hm⟩ := hselect.mpr hne
            cases hm
          obtain ⟨db', hdb'⟩ := audit_success heff rfl db
            (if enrolled.reenroll then .autoEnrollReenroll else .autoEnrollNew) slot n
          simp only [audited, hdb', hnone, iff_true]
          exact provision_handled _ _ _ _

/-- **When an authorized request is answered.** -/
theorem handled_iff (D : Deployment) (w : World) (c : EnrollCall) (hwf : w.db.WF D.toBackend)
    (hauth : Authorized D w c) (hfits : c.payload.fits D.toBackend) :
    (autoEnroll D w c).1.Handled ↔ D.wgServerPublicKey = [] ∨
      ((∀ r ∈ w.db.routers, r.serialNumber ≠ c.payload.serial →
          ¬ c.payload.Collides D.toBackend r) ∧
        ((∃ r ∈ w.db.routers, r.serialNumber = c.payload.serial) ∨
          ∃ a, Free D.toSettings w.db.routers a) ∧
        c.faults .select = none) := by
  obtain ⟨slot, h⟩ := autoEnroll_of_authorized hauth
  rw [h]
  split
  · rename_i hkey
    exact iff_of_true (rejection_handled _ _) (Or.inl hkey)
  · rename_i hkey
    rw [enroll_handled_iff, or_iff_right hkey]
    have hrow : (∃ e, (enrollRow D c.toSubmission (w.limited c).db).1 = .ok e) ↔
        Enrollable D w.db.routers c.payload := enrollRow_ok_iff hwf
    rw [hrow]
    constructor
    · rintro ⟨⟨-, hapart, haddr⟩, hsel⟩
      exact ⟨hapart, haddr, hsel⟩
    · rintro ⟨hapart, haddr, hsel⟩
      exact ⟨⟨hfits, hapart, haddr⟩, hsel⟩

/-- The world with unit B enrolled. -/
def namesakeWorld : World :=
  (autoEnroll smallDeployment smallWorld (smallCall unitB "tok-A-first-enrollment" 0)).2

/-- Unit C, whose name unit B has. -/
def namesakeCall : EnrollCall := smallCall unitC "tok-B-second-enrollment" 60

theorem wf_namesakeWorld : namesakeWorld.db.WF smallDeployment.toBackend :=
  wf_autoEnroll _ (Db.wf_empty _ _ _ _)

theorem authorized_namesakeCall : Authorized smallDeployment namesakeWorld namesakeCall :=
  ⟨by decide +kernel, "winter-is-over-2026".toList, .current, rfl, by decide, by decide +kernel⟩

theorem fits_namesakeCall : namesakeCall.payload.fits smallDeployment.toBackend := by
  decide +kernel

/-- Two units still named `MikroTik`: the second one's request ends in an `IntegrityError`. -/
theorem namesake_not_handled : ¬ ∀ (D : Deployment) (w : World) (c : EnrollCall),
    w.db.WF D.toBackend → Authorized D w c → c.payload.fits D.toBackend →
      (autoEnroll D w c).1.Handled := by
  intro h
  have hraised : (autoEnroll smallDeployment namesakeWorld namesakeCall).1 =
      .raised .integrityError := by
    decide +kernel
  have hhandled := h _ _ _ wf_namesakeWorld authorized_namesakeCall fits_namesakeCall
  rw [hraised] at hhandled
  exact raised_not_handled _ hhandled

theorem handled_iff_namesake :
    (autoEnroll smallDeployment namesakeWorld namesakeCall).1.Handled ↔
      smallDeployment.wgServerPublicKey = [] ∨
        ((∀ r ∈ namesakeWorld.db.routers, r.serialNumber ≠ namesakeCall.payload.serial →
            ¬ namesakeCall.payload.Collides smallDeployment.toBackend r) ∧
          ((∃ r ∈ namesakeWorld.db.routers, r.serialNumber = namesakeCall.payload.serial) ∨
            ∃ a, Free smallDeployment.toSettings namesakeWorld.db.routers a) ∧
          namesakeCall.faults .select = none) :=
  handled_iff _ _ _ wf_namesakeWorld authorized_namesakeCall fits_namesakeCall

end CpeCloud
