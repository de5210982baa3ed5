import CpeCloud.AutoEnroll.Enrollable
import CpeCloud.RateLimit

/-!
# `auto_enroll` (`app/routers/auto_enroll.py`)

The endpoint, run to its end by one request with nothing else going on. A `World` is what it acts
on. `enroll` is the part behind the checks: the transaction, the sync and the audit row.
`autoEnroll` puts the checks in front.

* **`autoEnroll_served`**: a request either leaves the inventory alone, or its transaction commits
  and its answer tells whether the sync went through.
* `wf_autoEnroll`: it keeps what Postgres enforces.
-/

namespace CpeCloud

/-- What the service acts on: the committed tables, the rate limiter of the process, the host. -/
structure World where
  db : Db
  buckets : Buckets
  host : Host

/-- A POST to `/auto-enroll`, with what else is read while it runs and the calls of its sync that
fail. -/
structure EnrollCall extends Submission where
  /-- `request.client.host`, or `unknown`. -/
  sourceIp : Stored
  /-- The `X-Provisioning-Secret` header. -/
  secret : Option Text
  /-- `time.monotonic()` at the rate limit by address, and at the one by serial. -/
  ipClock : ℚ
  serialClock : ℚ
  /-- `datetime.now` when the answer is rendered. -/
  generatedAt : Timestamp
  faults : Faults

/-! ## Answers -/

/-- The variables `provision.rsc.j2` is rendered with. -/
structure ProvisionContext where
  router : Router
  telemetryToken : Text
  serverPublicKey : Text
  serverEndpoint : Text
  serverPort : Nat
  overlayCidr : Text
  wgServerIp : IPv4.Address
  telemetryUrl : Text
  generatedAt : Timestamp
  deriving DecidableEq

/-- An RSC script: a given text, or the rendered provisioning template. -/
inductive Script where
  | text (t : Text)
  | provision (ctx : ProvisionContext)
  deriving DecidableEq

/-- A response. -/
structure Response where
  statusCode : Nat
  mediaType : String
  body : Script
  deriving DecidableEq

/-- How a request ends: with a response, or with an exception that leaves the handler. -/
inductive Outcome where
  | response (r : Response)
  | raised (e : Exc)
  deriving DecidableEq

/-- `_rsc_error`. -/
def rscError (message : Text) : Text :=
  ":log error \"cpe-cloud enrollment rejected: ".toList ++
    (message.map fun c => if c = '\x22' then '\x27' else c) ++ "\"\n".toList

/-- `_rsc_response`. -/
def rscResponse (body : Script) (statusCode : Nat) : Response :=
  ⟨statusCode, "text/plain; charset=utf-8", body⟩

/-- An error answer. -/
def rejection (message : String) (statusCode : Nat) : Outcome :=
  .response (rscResponse (.text (rscError message.toList)) statusCode)

/-! ## Helpers -/

/-- The slots a provisioning secret can match. -/
inductive SecretSlot where
  | current
  | previous
  deriving Repr, DecidableEq

/-- The slot's name. -/
def SecretSlot.str : SecretSlot → String
  | .current => "current"
  | .previous => "previous"

/-- `_verify_provisioning_secret`. -/
def verifyProvisioningSecret (D : Deployment) (raw : Text) : Option SecretSlot :=
  let expected (secret : Text) : Option Text :=
    if secret ≠ [] then some (hashToken D.toBackend secret) else none
  let verify (h : Option Text) : Bool := h.any fun h => verifyToken D.toBackend raw h
  let matched : Option SecretSlot :=
    if verify (expected D.provisioningSecretCurrent) then some .current else none
  if verify (expected D.provisioningSecretPrevious) then
    if matched = none then some .previous else matched
  else matched

/-- `get_server_public_key`, without the text of its error, which nothing shows. -/
def getServerPublicKey (S : Settings) : Option Text :=
  if S.wgServerPublicKey = [] then none else some S.wgServerPublicKey

/-- A parameter that `JSONB` takes. -/
def Param.storable : Param → Bool
  | .text t => CpeCloud.storable t
  | _ => true

/-- `_audit` and the `commit` behind it. -/
def Db.audit (db : Db) (action : AuditAction) (status : AuditStatus) (routerId : Option Nat)
    (params : List (String × Param)) : Except Exc Db :=
  if params.all fun p => p.2.storable then
    .ok { db with
      auditLog := db.auditLog ++ [⟨db.auditLogSeq, routerId, "auto-enroll", action, params, status⟩]
      auditLogSeq := db.auditLogSeq + 1 }
  else .error .dataError

/-! ## The endpoint -/

/-- The answer to an enrolled router. -/
def provision (D : Deployment) (c : EnrollCall) (row : Router) (serverPubkey : Text) : Outcome :=
  .response <| rscResponse (.provision {
    router := row
    telemetryToken := c.minted
    serverPublicKey := serverPubkey
    serverEndpoint := D.serverFqdn
    serverPort := 51820
    overlayCidr := D.wgOverlayCidr
    wgServerIp := D.wgServerIp
    telemetryUrl := "https://".toList ++ D.serverFqdn ++ "/api/v1/telemetry".toList
    generatedAt := c.generatedAt }) 200

/-- The parameters of the audit row of a success. -/
def successParams (c : EnrollCall) (enrolled : Enrolled) (slot : SecretSlot) (peersSynced : Nat) :
    List (String × Param) :=
  [("source_ip", .text c.sourceIp.1), ("serial", .text c.payload.serial),
    ("identity", .text c.payload.identity), ("status", .status enrolled.row.status),
    ("matched_secret_slot", .text slot.str.toList), ("wg_peers_synced", .nat peersSynced),
    ("reenroll", .flag enrolled.reenroll)]

/-- An audit row and the answer behind it. -/
def audited (w : World) (action : AuditAction) (status : AuditStatus) (routerId : Option Nat)
    (params : List (String × Param)) (answer : Outcome) : Outcome × World :=
  match w.db.audit action status routerId params with
  | .error e => (.raised e, w)
  | .ok db => (answer, { w with db := db })

/-- The answer to a sync that failed. -/
def reportSyncFailure (w : World) (routerId : Nat) : SyncError → Outcome × World
  -- The SELECT left its transaction failed: the audit row cannot be written in it.
  | .databaseError _ => (.raised .failedTransaction, w)
  | e => audited w .wgSyncFailed .failed (some routerId) [("error", .text e.str.1)]
      (rejection "server could not update overlay, retry in a few minutes" 500)

/-- `auto_enroll` behind its checks. -/
def enroll (D : Deployment) (w : World) (c : EnrollCall) (slot : SecretSlot)
    (serverPubkey : Text) : Outcome × World :=
  match enrollRow D c.toSubmission w.db with
  | (.error e, db) => (.raised e, { w with db := db })
  | (.ok enrolled, db) =>
    match syncFromDb D.toSettings c.faults db.routers w.host with
    | (.error e, host) => reportSyncFailure { w with db := db, host := host } enrolled.row.id e
    | (.ok peersSynced, host) =>
      audited { w with db := db, host := host }
        (if enrolled.reenroll then .autoEnrollReenroll else .autoEnrollNew) .success
        (some enrolled.row.id) (successParams c enrolled slot peersSynced)
        (provision D c enrolled.row serverPubkey)

/-- The two rate limits. -/
def limitRates (bs : Buckets) (c : EnrollCall) : Bool × Buckets :=
  let ip := checkRateLimit bs "auto-enroll-ip".toList c.sourceIp.1 c.ipClock
  let serial := checkRateLimit ip.2 "auto-enroll-serial".toList c.payload.serial c.serialClock
  (ip.1 && serial.1, serial.2)

/-- `auto_enroll`. -/
def autoEnroll (D : Deployment) (w : World) (c : EnrollCall) : Outcome × World :=
  match limitRates w.buckets c with
  | (false, bs) =>
    (rejection "rate limit exceeded, try again later" 429, { w with buckets := bs })
  | (true, bs) =>
    let w := { w with buckets := bs }
    let sent := [("source_ip", Param.text c.sourceIp.1), ("serial", .text c.payload.serial)]
    match c.secret with
    | none | some [] =>
      audited w .rejectMissingSecret .failed none sent
        (rejection "missing provisioning secret header" 401)
    | some raw =>
      match verifyProvisioningSecret D raw with
      | none =>
        audited w .rejectBadSecret .failed none
          (sent ++ [("identity", .text c.payload.identity)])
          (rejection "invalid provisioning secret" 401)
      | some slot =>
        match getServerPublicKey D.toSettings with
        | none => (rejection "server misconfiguration, contact admin" 500, w)
        | some serverPubkey => enroll D w c slot serverPubkey

/-! ## What a request does -/

/-- The status of a response. -/
def Outcome.statusCode : Outcome → Option Nat
  | .response r => some r.statusCode
  | .raised _ => none

@[simp] theorem rejection_statusCode (message : String) (n : Nat) :
    (rejection message n).statusCode = some n := rfl

/-- The request is within its rate limits and presents a valid secret. -/
structure Authorized (D : Deployment) (w : World) (c : EnrollCall) : Prop where
  admitted : (limitRates w.buckets c).1 = true
  secret : ∃ raw slot, c.secret = some raw ∧ raw ≠ [] ∧ verifyProvisioningSecret D raw = some slot

/-- Nothing keeps the request's transaction from committing. -/
structure Admissible (D : Deployment) (w : World) (c : EnrollCall) : Prop where
  authorized : Authorized D w c
  key : D.wgServerPublicKey ≠ []
  enrollable : Enrollable D w.db.routers c.payload

/-- The inventory of `db'` is that of `db`, drawn ids apart. -/
structure Db.SameInventory (db db' : Db) : Prop where
  routers : db'.routers = db.routers
  routerTokens : db'.routerTokens = db.routerTokens
  routersSeq : db.routersSeq ≤ db'.routersSeq
  routerTokensSeq : db'.routerTokensSeq = db.routerTokensSeq

/-- `db'` is `db` but for the audit log. -/
structure Db.SameTables (db db' : Db) : Prop where
  routers : db'.routers = db.routers
  routerTokens : db'.routerTokens = db.routerTokens
  routersSeq : db'.routersSeq = db.routersSeq
  routerTokensSeq : db'.routerTokensSeq = db.routerTokensSeq

theorem Db.SameTables.refl (db : Db) : db.SameTables db := ⟨rfl, rfl, rfl, rfl⟩

theorem Db.SameTables.sameInventory {db db' : Db} (h : db.SameTables db') : db.SameInventory db' :=
  ⟨h.routers, h.routerTokens, h.routersSeq.ge, h.routerTokensSeq⟩

theorem Db.WF.of_sameInventory {B : Backend} {db db' : Db} (h : db.WF B)
    (hs : db.SameInventory db') : db'.WF B where
  routers := hs.routers ▸ h.routers
  macs := hs.routers ▸ h.macs
  routersSeq := by
    rw [hs.routers]
    exact fun r hr => (h.routersSeq r hr).trans_le hs.routersSeq
  tokens := hs.routerTokens ▸ h.tokens
  tokensSeq := by
    rw [hs.routerTokens, hs.routerTokensSeq]
    exact h.tokensSeq
  owners := by
    rw [hs.routerTokens, hs.routers]
    exact h.owners

theorem Db.audit_sameTables {db db' : Db} {action : AuditAction} {status : AuditStatus}
    {routerId : Option Nat} {params : List (String × Param)}
    (h : db.audit action status routerId params = .ok db') : db.SameTables db' := by
  unfold Db.audit at h
  split at h
  · obtain rfl := Except.ok.inj h
    exact ⟨rfl, rfl, rfl, rfl⟩
  · simp at h

/-- What a request can do. -/
inductive Served (D : Deployment) (w : World) (c : EnrollCall) : Outcome × World → Prop where
  /-- It is refused, or its transaction is rolled back. -/
  | refused (o : Outcome) (w' : World) (why : ¬ Admissible D w c)
      (ho : o.statusCode ≠ some 200) (hdb : w.db.SameInventory w'.db) (hhost : w'.host = w.host) :
      Served D w c (o, w')
  /-- Its transaction commits. -/
  | committed (o : Outcome) (w' : World) (enrolled : Enrolled) (db : Db)
      (hadm : Admissible D w c) (hrow : enrollRow D c.toSubmission w.db = (.ok enrolled, db))
      (ho : o.statusCode = some 200 ↔
        ∃ n, (syncFromDb D.toSettings c.faults db.routers w.host).1 = .ok n)
      (hdb : db.SameTables w'.db)
      (hhost : w'.host = (syncFromDb D.toSettings c.faults db.routers w.host).2) :
      Served D w c (o, w')

/-- An audit row changes the audit log only. -/
theorem audited_spec (w : World) (action : AuditAction) (status : AuditStatus)
    (routerId : Option Nat) (params : List (String × Param)) {answer : Outcome}
    (ho : answer.statusCode ≠ some 200) :
    (audited w action status routerId params answer).1.statusCode ≠ some 200 ∧
      w.db.SameTables (audited w action status routerId params answer).2.db ∧
      (audited w action status routerId params answer).2.host = w.host := by
  unfold audited
  split
  · exact ⟨by simp [Outcome.statusCode], .refl _, rfl⟩
  · rename_i db hdb
    exact ⟨ho, Db.audit_sameTables hdb, rfl⟩

theorem reportSyncFailure_spec (w : World) (routerId : Nat) (e : SyncError) :
    (reportSyncFailure w routerId e).1.statusCode ≠ some 200 ∧
      w.db.SameTables (reportSyncFailure w routerId e).2.db ∧
      (reportSyncFailure w routerId e).2.host = w.host := by
  cases e with
  | databaseError m => exact ⟨by simp [reportSyncFailure, Outcome.statusCode], .refl _, rfl⟩
  | runtimeError m => exact audited_spec _ _ _ _ _ (by simp)
  | osError m => exact audited_spec _ _ _ _ _ (by simp)

/-- The parameters of a success can be stored. -/
theorem audit_success {D : Deployment} {c : EnrollCall} {db : Db} {res : Except Exc Enrolled × Db}
    (heff : EnrollEffect D c.toSubmission db res) {enrolled : Enrolled} (hok : res.1 = .ok enrolled)
    (db' : Db) (action : AuditAction) (slot : SecretSlot) (n : Nat) :
    ∃ db'', db'.audit action .success (some enrolled.row.id) (successParams c enrolled slot n) =
      .ok db'' := by
  have hfits : c.payload.fits D.toBackend := by
    cases heff with
    | failed => simp at hok
    | inserted _ _ _ hfits => exact hfits
    | reenrolled _ _ hfits => exact hfits
  obtain ⟨-, -, hserial, hidentity, -, -⟩ := hfits
  have hslot : storable slot.str.toList := by cases slot <;> decide
  have hall : (successParams c enrolled slot n).all (fun p => p.2.storable) = true := by
    simp [successParams, Param.storable, c.sourceIp.2, hserial, hidentity, hslot]
  exact ⟨_, if_pos hall⟩

/-- Behind its checks, a request does what its transaction and its sync do. -/
theorem enroll_spec {D : Deployment} {w : World} {c : EnrollCall} (slot : SecretSlot)
    (serverPubkey : Text) {enrolled : Enrolled} {db : Db}
    (hrow : enrollRow D c.toSubmission w.db = (.ok enrolled, db)) :
    ((enroll D w c slot serverPubkey).1.statusCode = some 200 ↔
        ∃ n, (syncFromDb D.toSettings c.faults db.routers w.host).1 = .ok n) ∧
      db.SameTables (enroll D w c slot serverPubkey).2.db ∧
      (enroll D w c slot serverPubkey).2.host =
        (syncFromDb D.toSettings c.faults db.routers w.host).2 := by
  have heff := enrollRow_effect D c.toSubmission w.db
  rw [hrow] at heff
  have haudit := audit_success heff rfl
  unfold enroll
  rw [hrow]
  simp only
  cases syncFromDb D.toSettings c.faults db.routers w.host with
  | mk res host =>
    cases res with
    | error e =>
      have h := reportSyncFailure_spec { w with db := db, host := host } enrolled.row.id e
      exact ⟨by simp [h.1], h.2⟩
    | ok n =>
      obtain ⟨db', hdb'⟩ := haudit db
        (if enrolled.reenroll then .autoEnrollReenroll else .autoEnrollNew) slot n
      simp only [audited, hdb']
      exact ⟨by simp [Outcome.statusCode, provision, rscResponse],
        Db.audit_sameTables hdb', trivial⟩

theorem enroll_served {D : Deployment} {w w' : World} {c : EnrollCall}
    (hwf : w.db.WF D.toBackend) (hdb : w'.db = w.db) (hhost : w'.host = w.host)
    (hauth : Authorized D w c) (hkey : D.wgServerPublicKey ≠ []) (slot : SecretSlot)
    (serverPubkey : Text) : Served D w c (enroll D w' c slot serverPubkey) := by
  have hiff := enrollRow_ok_iff (c := c.toSubmission) hwf
  rw [← hdb] at hiff
  cases hrow : enrollRow D c.toSubmission w'.db with
  | mk res db =>
    rw [hrow] at hiff
    cases res with
    | error e =>
      have hnot : ¬ Admissible D w c := fun h => by
        obtain ⟨x, hx⟩ := hiff.mpr (hdb ▸ h.enrollable)
        cases hx
      have hres : enroll D w' c slot serverPubkey = (.raised e, { w' with db := db }) := by
        simp only [enroll, hrow]
      rw [hres]
      refine .refused _ _ hnot (by simp [Outcome.statusCode]) ?_ hhost
      have heff := enrollRow_effect D c.toSubmission w'.db
      rw [hrow] at heff
      rw [← hdb]
      cases heff with
      | failed e seq hseq => exact ⟨rfl, rfl, hseq, rfl⟩
    | ok enrolled =>
      have henr : Enrollable D w.db.routers c.payload := hdb ▸ hiff.mp ⟨enrolled, rfl⟩
      obtain ⟨ho, hinv, hh⟩ := enroll_spec slot serverPubkey hrow
      rw [hhost] at ho hh
      exact .committed _ _ enrolled db ⟨hauth, hkey, henr⟩ (hdb ▸ hrow) ho hinv hh

/-- The world behind the rate limits. -/
def World.limited (w : World) (c : EnrollCall) : World :=
  { w with buckets := (limitRates w.buckets c).2 }

/-- An authorized request gets behind the checks, unless the server has no key. -/
theorem autoEnroll_of_authorized {D : Deployment} {w : World} {c : EnrollCall}
    (h : Authorized D w c) : ∃ slot, autoEnroll D w c =
      if D.wgServerPublicKey = [] then
        (rejection "server misconfiguration, contact admin" 500, w.limited c)
      else enroll D (w.limited c) c slot D.wgServerPublicKey := by
  obtain ⟨hlim, raw, slot, hs, hne, hslot⟩ := h
  obtain ⟨a, as, rfl⟩ := List.exists_cons_of_ne_nil hne
  refine ⟨slot, ?_⟩
  unfold autoEnroll World.limited
  cases hl : limitRates w.buckets c with
  | mk admitted bs =>
    obtain rfl : admitted = true := by simpa [hl] using hlim
    simp only [hs, hslot, getServerPublicKey]
    by_cases hkey : D.wgServerPublicKey = [] <;> simp [hkey]

/-- Any other request is refused. -/
theorem autoEnroll_of_not_authorized {D : Deployment} {w : World} {c : EnrollCall}
    (h : ¬ Authorized D w c) : (autoEnroll D w c).1.statusCode ≠ some 200 ∧
      w.db.SameTables (autoEnroll D w c).2.db ∧ (autoEnroll D w c).2.host = w.host := by
  unfold autoEnroll
  cases hl : limitRates w.buckets c with
  | mk admitted bs =>
    cases admitted with
    | false => exact ⟨by simp, .refl _, rfl⟩
    | true =>
      simp only
      cases hs : c.secret with
      | none => exact audited_spec { w with buckets := bs } _ _ _ _ (by simp)
      | some raw =>
        cases raw with
        | nil => exact audited_spec { w with buckets := bs } _ _ _ _ (by simp)
        | cons a as =>
          simp only
          cases hv : verifyProvisioningSecret D (a :: as) with
          | none => exact audited_spec { w with buckets := bs } _ _ _ _ (by simp)
          | some slot => exact absurd ⟨by rw [hl], a :: as, slot, hs, by simp, hv⟩ h

/-- **What a request does**: it leaves the inventory alone, or its transaction commits, and then
its answer tells whether the sync went through. -/
theorem autoEnroll_served {D : Deployment} {w : World} (hwf : w.db.WF D.toBackend)
    (c : EnrollCall) : Served D w c (autoEnroll D w c) := by
  by_cases hauth : Authorized D w c
  · obtain ⟨slot, h⟩ := autoEnroll_of_authorized hauth
    rw [h]
    split
    · rename_i hkey
      exact .refused _ _ (fun h => h.key hkey) (by simp) ⟨rfl, rfl, le_rfl, rfl⟩ rfl
    · rename_i hkey
      exact @enroll_served D w (w.limited c) c hwf rfl rfl hauth hkey slot _
  · obtain ⟨ho, hdb, hhost⟩ := autoEnroll_of_not_authorized hauth
    exact .refused _ _ (fun h => hauth h.authorized) ho hdb.sameInventory hhost

/-- A request keeps what Postgres enforces. -/
theorem wf_autoEnroll {D : Deployment} (c : EnrollCall) {w : World} (h : w.db.WF D.toBackend) :
    (autoEnroll D w c).2.db.WF D.toBackend := by
  have hserved := autoEnroll_served h c
  generalize autoEnroll D w c = res at hserved
  cases hserved with
  | refused o w' why ho hdb hhost => exact h.of_sameInventory hdb
  | committed o w' enrolled db hadm hrow ho hdb hhost =>
    have hwf := wf_enrollRow c.toSubmission h
    rw [hrow] at hwf
    exact hwf.of_sameInventory hdb.sameInventory

/-- The step of a sequential run of requests. -/
def enrollStep (D : Deployment) (w : World) (c : EnrollCall) : Option World :=
  some (autoEnroll D w c).2

/-! ## A small host -/

/-- No router yet, and a `wg0.conf` with the server's interface. -/
def smallWorld : World where
  db := Db.empty 1 1 1
  buckets := fun _ => none
  host := ⟨some ⟨"[Interface]\nListenPort = 51820\n".toList, 0o600⟩, none, none⟩

theorem storable_smallIp : storable "192.0.2.7".toList := by decide

/-- A request with the provisioning secret, at the second `now`. -/
def smallCall (p : AutoEnrollRequest) (minted : String) (now : Nat) : EnrollCall where
  payload := p
  enrolledAt := now * 1000000
  revokedAt := now * 1000000
  minted := minted.toList
  sourceIp := ⟨"192.0.2.7".toList, storable_smallIp⟩
  secret := some "winter-is-over-2026".toList
  ipClock := now
  serialClock := now
  generatedAt := now * 1000000
  faults := fun _ => none

/-- The world with unit A enrolled. -/
def enrolledWorld : World :=
  (autoEnroll smallDeployment smallWorld (smallCall unitA "tok-A-first-enrollment" 0)).2

theorem wf_enrolledWorld : enrolledWorld.db.WF smallDeployment.toBackend :=
  wf_autoEnroll _ (Db.wf_empty _ _ _ _)

/-- The re-enrollment of unit A. -/
def againCall : EnrollCall := smallCall unitA "tok-B-second-enrollment" 60

theorem admissible_firstCall : Admissible smallDeployment smallWorld
    (smallCall unitA "tok-A-first-enrollment" 0) where
  authorized :=
    ⟨by decide +kernel, "winter-is-over-2026".toList, .current, rfl, by decide, by decide +kernel⟩
  key := by decide
  enrollable := by
    have hfree : Free smallDeployment.toSettings smallWorld.db.routers
        (Fin.ofNat (2 ^ 32) 0x0a640002) := by
      unfold Free
      decide +kernel
    exact ⟨by decide +kernel, by decide +kernel, Or.inr ⟨_, hfree⟩⟩

theorem admissible_againCall : Admissible smallDeployment enrolledWorld againCall where
  authorized :=
    ⟨by decide +kernel, "winter-is-over-2026".toList, .current, rfl, by decide, by decide +kernel⟩
  key := by decide
  enrollable := ⟨by decide +kernel, by decide +kernel, Or.inl (by decide +kernel)⟩

end CpeCloud
