import CpeCloud.AutoEnroll.Handler
import CpeCloud.Lib.Run

/-!
# Overlay addresses are handed out densely

The allocator takes the lowest free address, rows are never deleted and no re-enrollment changes an
address, so the rows of a table that began empty hold the lowest addresses there are, in the order
they were inserted.

* `allocateOverlayIp_dense`: on such a table the allocator hands out the next address.
* **`overlay_dense`**: after every run the rows hold the lowest addresses, and a first enrollment
  lacks an address iff all of them are taken.
-/

namespace CpeCloud

/-- The addresses there are for routers, lowest first. -/
def assignable (S : Settings) : List IPv4.Address :=
  S.overlayNetwork.hosts.filter fun a => a ≠ S.wgServerIp

theorem assignable_sorted (S : Settings) : (assignable S).Pairwise (· < ·) :=
  S.overlayNetwork.hosts_sorted.sublist List.filter_sublist

/-- The rows hold the lowest addresses, in order. -/
def Dense (S : Settings) (routers : List Router) : Prop :=
  routers.map Router.wgOverlayIp = ((assignable S).take routers.length).map some

/-- The first of a list's elements that is not among its first `n` is the next one. -/
theorem find_not_mem_take {α : Type} [DecidableEq α] : ∀ {l : List α}, l.Nodup → ∀ n : Nat,
    l.find? (fun a => a ∉ l.take n) = l[n]?
  | [], _, n => by simp
  | a :: l, hl, 0 => by simp
  | a :: l, hl, n + 1 => by
    obtain ⟨ha, hl⟩ := List.nodup_cons.mp hl
    have hsame : l.find? (fun b => b ∉ (a :: l).take (n + 1)) = l.find? fun b => b ∉ l.take n := by
      rw [← List.head?_filter, ← List.head?_filter]
      congr 1
      refine List.filter_congr fun b hb => ?_
      have hne : b ≠ a := fun h => ha (h ▸ hb)
      simp [hne]
    rw [List.find?_cons_of_neg (by simp), hsame, find_not_mem_take hl n]
    rfl

/-- On a dense table the allocator hands out the next address. -/
theorem allocateOverlayIp_dense {S : Settings} {routers : List Router} (h : Dense S routers) :
    allocateOverlayIp S routers = match (assignable S)[routers.length]? with
      | some a => .ok a
      | none => .error (.runtimeError (exhaustedMessage S.overlayNetwork)) := by
  have hused : routers.filterMap Router.wgOverlayIp = (assignable S).take routers.length := by
    have := congrArg (List.filterMap id) h
    simpa [List.filterMap_map] using this
  have hsearch : (S.overlayNetwork.hosts.find? fun c => c ∉ usedAddresses S routers) =
      (assignable S)[routers.length]? := by
    rw [← find_not_mem_take (assignable_sorted S).nodup, assignable, List.find?_filter]
    congr 1
    funext c
    rw [← assignable, usedAddresses, hused]
    simp [and_comm]
  cases hnext : (assignable S)[routers.length]? with
  | none => simp only [allocateOverlayIp, hsearch, hnext]
  | some a => simp only [allocateOverlayIp, hsearch, hnext]

theorem mem_assignable {S : Settings} {a : IPv4.Address} :
    a ∈ assignable S ↔ a ∈ S.overlayNetwork.hosts ∧ a ≠ S.wgServerIp := by
  simp [assignable]

/-- A dense table has as many rows as there are addresses iff every address is taken. -/
theorem Dense.taken_iff {S : Settings} {routers : List Router} (h : Dense S routers) :
    (assignable S)[routers.length]? = none ↔
      ∀ a ∈ S.overlayNetwork.hosts, a ≠ S.wgServerIp → ∃ r ∈ routers, r.wgOverlayIp = some a := by
  have hheld (a : IPv4.Address) :
      (∃ r ∈ routers, r.wgOverlayIp = some a) ↔ a ∈ (assignable S).take routers.length := by
    rw [← List.mem_map, h, List.mem_map]
    simp
  simp only [hheld, ← and_imp, ← mem_assignable]
  rw [List.getElem?_eq_none_iff]
  constructor
  · intro hlen a ha
    rwa [List.take_of_length_le hlen]
  · intro hall
    have hlen := (List.subperm_of_subset (assignable_sorted S).nodup hall).length_le
    rw [List.length_take] at hlen
    omega

/-! ## What a request does to it -/

/-- A re-enrollment changes no address. -/
theorem addresses_reenrolled (D : Deployment) (c : Submission) (db : Db) (existing : Router) :
    (db.reenrolled D c existing).routers.map Router.wgOverlayIp =
      db.routers.map Router.wgOverlayIp := by
  simp only [Db.reenrolled, Rows.amend, List.map_map]
  refine List.map_congr_left fun r _ => ?_
  simp only [Function.comp]
  split <;> rfl

theorem Dense.enrollRow {D : Deployment} {db : Db} (h : Dense D.toSettings db.routers)
    (c : Submission) : Dense D.toSettings (enrollRow D c db).2.routers := by
  have heff := enrollRow_effect D c db
  generalize CpeCloud.enrollRow D c db = res at heff
  cases heff with
  | failed => exact h
  | inserted ip hnew hip =>
    rw [allocateOverlayIp_dense h] at hip
    split at hip
    · rename_i a ha
      obtain rfl := Except.ok.inj hip
      simp only [Dense, Db.inserted, List.map_append, List.length_append, List.length_singleton]
      rw [h, List.take_add_one, ha, List.map_append]
      rfl
    · cases hip
  | reenrolled existing hold =>
    have hlen : (db.reenrolled D c existing).routers.length = db.routers.length := by
      simp [Db.reenrolled, Rows.amend]
    rw [Dense, addresses_reenrolled, hlen]
    exact h

theorem Dense.autoEnroll {D : Deployment} {w : World} (hwf : w.db.WF D.toBackend)
    (h : Dense D.toSettings w.db.routers) (c : EnrollCall) :
    Dense D.toSettings (autoEnroll D w c).2.db.routers := by
  have hserved := autoEnroll_served hwf c
  generalize CpeCloud.autoEnroll D w c = res at hserved
  cases hserved with
  | refused o w' why ho hdb hhost =>
    rw [hdb.routers]
    exact h
  | committed o w' enrolled db hadm hrow ho hdb hhost =>
    have hdense := h.enrollRow c.toSubmission
    rw [hrow] at hdense
    rw [hdb.routers]
    exact hdense

/-- A request for a known serial changes no address. -/
theorem addresses_autoEnroll {D : Deployment} {w : World} (hwf : w.db.WF D.toBackend)
    {c : EnrollCall} (hknown : ∃ r ∈ w.db.routers, r.serialNumber = c.payload.serial) :
    (autoEnroll D w c).2.db.routers.map Router.wgOverlayIp =
      w.db.routers.map Router.wgOverlayIp := by
  have hserved := autoEnroll_served hwf c
  generalize autoEnroll D w c = res at hserved
  cases hserved with
  | refused o w' why ho hdb hhost => rw [hdb.routers]
  | committed o w' enrolled db hadm hrow ho hdb hhost =>
    have heff := enrollRow_effect D c.toSubmission w.db
    rw [hrow] at heff
    rw [hdb.routers]
    cases heff with
    | inserted ip hnew =>
      obtain ⟨r, hr, hs⟩ := hknown
      exact absurd hs (Db.routerBySerial_none.mp hnew r hr)
    | reenrolled existing hold => exact addresses_reenrolled D c.toSubmission w.db existing

/-! ## Exhaustion -/

theorem Db.audit_error {db : Db} {action : AuditAction} {status : AuditStatus}
    {routerId : Option Nat} {params : List (String × Param)} {e : Exc}
    (h : db.audit action status routerId params = .error e) : e = .dataError := by
  unfold Db.audit at h
  split at h
  · cases h
  · exact (Except.error.inj h).symm

theorem audited_not_runtimeError (w : World) (action : AuditAction) (status : AuditStatus)
    (routerId : Option Nat) (params : List (String × Param)) (r : Response) (m : Text) :
    (audited w action status routerId params (.response r)).1 ≠ .raised (.runtimeError m) := by
  unfold audited
  split
  · rename_i e he
    rw [Db.audit_error he]
    simp
  · simp

/-- Behind a commit, no `RuntimeError` leaves the handler. -/
theorem enroll_not_runtimeError {D : Deployment} {w : World} {c : EnrollCall} {slot : SecretSlot}
    {serverPubkey : Text} {enrolled : Enrolled} {db : Db}
    (hrow : CpeCloud.enrollRow D c.toSubmission w.db = (.ok enrolled, db)) (m : Text) :
    (enroll D w c slot serverPubkey).1 ≠ .raised (.runtimeError m) := by
  unfold enroll
  rw [hrow]
  simp only
  cases syncFromDb D.toSettings c.faults db.routers w.host with
  | mk res host =>
    cases res with
    | ok n => exact audited_not_runtimeError _ _ _ _ _ _ m
    | error e =>
      cases e with
      | databaseError => simp [reportSyncFailure]
      | runtimeError => exact audited_not_runtimeError _ _ _ _ _ _ m
      | osError => exact audited_not_runtimeError _ _ _ _ _ _ m

/-- The request is a first enrollment that nothing but the lack of an address can stop. -/
structure Pristine (D : Deployment) (w : World) (c : EnrollCall) : Prop where
  authorized : Authorized D w c
  key : D.wgServerPublicKey ≠ []
  fits : c.payload.fits D.toBackend
  fresh : ∀ r ∈ w.db.routers, r.serialNumber ≠ c.payload.serial
  apart : ∀ r ∈ w.db.routers, ¬ c.payload.Collides D.toBackend r

/-- The overlay is exhausted, for a first enrollment, iff every address is taken. -/
theorem exhausted_iff {D : Deployment} {w : World} (hwf : w.db.WF D.toBackend)
    (hdense : Dense D.toSettings w.db.routers) {c : EnrollCall} (h : Pristine D w c) :
    (autoEnroll D w c).1 = .raised (.runtimeError (exhaustedMessage D.overlayNetwork)) ↔
      ∀ a ∈ D.overlayNetwork.hosts, a ≠ D.wgServerIp →
        ∃ r ∈ w.db.routers, r.wgOverlayIp = some a := by
  obtain ⟨slot, hrun⟩ := autoEnroll_of_authorized h.authorized
  have hnew : w.db.routerBySerial c.payload.serial = none := Db.routerBySerial_none.mpr h.fresh
  have halloc := allocateOverlayIp_dense hdense
  rw [hrun, if_neg h.key, ← hdense.taken_iff]
  constructor
  · intro hexhausted
    by_contra hfree
    obtain ⟨a, ha⟩ := Option.ne_none_iff_exists'.mp hfree
    rw [ha] at halloc
    have henr : Enrollable D w.db.routers c.payload :=
      ⟨h.fits, fun r hr _ => h.apart r hr, Or.inr ⟨a, allocateOverlayIp_ok halloc⟩⟩
    obtain ⟨enrolled, hok⟩ := (enrollRow_ok_iff (c := c.toSubmission) hwf).mpr henr
    exact enroll_not_runtimeError (w := w.limited c) (Prod.ext hok rfl) _ hexhausted
  · intro hnone
    rw [hnone] at halloc
    have hrow : CpeCloud.enrollRow D c.toSubmission (w.limited c).db =
        (.error (.runtimeError (exhaustedMessage D.overlayNetwork)), w.db) := by
      have hstore : storable c.payload.serial := h.fits.2.2.1
      show CpeCloud.enrollRow D c.toSubmission w.db = _
      rw [CpeCloud.enrollRow, if_neg (not_not.mpr hstore)]
      simp only [hnew, enrollNew, halloc]
    simp only [enroll, hrow]

/-! ## Runs -/

/-- **Addresses are handed out densely and never leak.** -/
theorem overlay_dense {D : Deployment} {w w' : World} {cs : List EnrollCall}
    (hwf : w.db.WF D.toBackend) (hempty : w.db.routers = [])
    (hrun : Run.exec (enrollStep D) w cs = some w') :
    w'.db.routers.map Router.wgOverlayIp =
        ((assignable D.toSettings).take w'.db.routers.length).map some ∧
      (assignable D.toSettings).Pairwise (· < ·) ∧
      (∀ c : EnrollCall, (∃ r ∈ w'.db.routers, r.serialNumber = c.payload.serial) →
        (autoEnroll D w' c).2.db.routers.map Router.wgOverlayIp =
          w'.db.routers.map Router.wgOverlayIp) ∧
      ∀ c : EnrollCall, Pristine D w' c →
        ((autoEnroll D w' c).1 = .raised (.runtimeError (exhaustedMessage D.overlayNetwork)) ↔
          ∀ a ∈ D.overlayNetwork.hosts, a ≠ D.wgServerIp →
            ∃ r ∈ w'.db.routers, r.wgOverlayIp = some a) := by
  have hstart : Dense D.toSettings w.db.routers := by
    rw [hempty]
    rfl
  obtain ⟨hwf', hdense⟩ := Run.exec_induction
    (P := fun w => w.db.WF D.toBackend ∧ Dense D.toSettings w.db.routers)
    (fun h hs => by
      obtain rfl := Option.some.inj hs
      exact ⟨wf_autoEnroll _ h.1, h.2.autoEnroll h.1 _⟩) ⟨hwf, hstart⟩ hrun
  exact ⟨hdense, assignable_sorted _, fun c hc => addresses_autoEnroll hwf' hc,
    fun c hc => exhausted_iff hwf' hdense hc⟩

/-- Unit A enrolls twice, then unit B. -/
def smallCalls : List EnrollCall :=
  [smallCall unitA "tok-A-first-enrollment" 0, againCall, smallCall unitB "tok-C-another-router" 120]

theorem overlay_dense_small : ∃ w' : World,
    w'.db.routers.map Router.wgOverlayIp =
        ((assignable smallDeployment.toSettings).take w'.db.routers.length).map some ∧
      (assignable smallDeployment.toSettings).Pairwise (· < ·) ∧
      (∀ c : EnrollCall, (∃ r ∈ w'.db.routers, r.serialNumber = c.payload.serial) →
        (autoEnroll smallDeployment w' c).2.db.routers.map Router.wgOverlayIp =
          w'.db.routers.map Router.wgOverlayIp) ∧
      ∀ c : EnrollCall, Pristine smallDeployment w' c →
        ((autoEnroll smallDeployment w' c).1 =
            .raised (.runtimeError (exhaustedMessage smallDeployment.overlayNetwork)) ↔
          ∀ a ∈ smallDeployment.overlayNetwork.hosts, a ≠ smallDeployment.wgServerIp →
            ∃ r ∈ w'.db.routers, r.wgOverlayIp = some a) :=
  ⟨_, overlay_dense (Db.wf_empty _ _ _ _) rfl
    (show Run.exec (enrollStep smallDeployment) smallWorld smallCalls = some _ from rfl)⟩

end CpeCloud
