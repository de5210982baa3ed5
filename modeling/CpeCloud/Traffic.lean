import CpeCloud.Factory.Installer
import CpeCloud.Service

/-!
# Traffic without credentials

Requests to the three endpoints that strangers can reach, in any order. One that presents no
provisioning secret, no live fetch token and no live telemetry token can add to the audit log and
use up rate limits; nothing else.

* `logsOnly_handle`: one such request.
* **`unauthenticated_logsOnly`**: every run of them.
-/

namespace CpeCloud

universe u

variable {π : Type u}

/-- A request to one of the endpoints. -/
inductive Request (π : Type u) where
  | enroll (c : EnrollCall)
  | fetch (c : FetchCall)
  | push (c : PushCall π)

/-- The world, and the calls of `write_telemetry` so far. -/
structure Traffic (π : Type u) where
  world : World
  writes : List (Router × π)

/-- The step of a sequential run of requests. -/
def handle (D : Deployment) (writeTelemetry : Router → π → Except Text Unit) (s : Traffic π) :
    Request π → Option (Traffic π)
  | .enroll c => some { s with world := (autoEnroll D s.world c).2 }
  | .fetch c => some { s with world := (factoryInstaller D s.world c).2 }
  | .push c =>
    let p := pushTelemetry D writeTelemetry s.world c
    some ⟨p.world, s.writes ++ p.written.toList⟩

/-! ## Credentials -/

/-- The credential that a request presents: a header, a query parameter, a bearer token without
surrounding whitespace. -/
def Request.presented : Request π → Option Text
  | .enroll c => c.secret
  | .fetch c => some c.t
  | .push c => (extractBearer c.authorization).toOption

/-- The provisioning secrets that are configured. -/
def Settings.secrets (S : Settings) : List Text :=
  [S.provisioningSecretCurrent, S.provisioningSecretPrevious].filter fun secret => secret ≠ []

/-- The raw tokens behind the rows, which only their holders know. -/
structure RawTokens where
  admin : AdminFetchToken → Text
  router : RouterToken → Text

/-- Each row holds the hash of its raw token. -/
structure RawTokens.Minted (raws : RawTokens) (B : Backend) (db : Db) : Prop where
  admin : ∀ row ∈ db.adminFetchTokens, row.tokenHash = hashToken B (raws.admin row)
  router : ∀ token ∈ db.routerTokens, token.tokenHash = hashToken B (raws.router token)

/-- The credentials that a request's endpoint takes. -/
def accepted (D : Deployment) (raws : RawTokens) (db : Db) : Request π → List Text
  | .enroll _ => D.secrets
  | .fetch c =>
    (db.adminFetchTokens.filter fun row => row.revokedAt = none ∧ c.now < row.expiresAt).map
      raws.admin
  | .push _ => (db.routerTokens.filter fun token => token.revokedAt = none).map raws.router

/-- The request presents none of them. -/
def Unauthenticated (D : Deployment) (raws : RawTokens) (s : Traffic π) (req : Request π) : Prop :=
  ∀ raw ∈ req.presented, raw ∉ accepted D raws s.world.db req

instance (D : Deployment) (raws : RawTokens) (s : Traffic π) (req : Request π) :
    Decidable (Unauthenticated D raws s req) :=
  inferInstanceAs (Decidable (∀ raw ∈ req.presented, raw ∉ accepted D raws s.world.db req))

/-- The strings that are hashed and compared in a run. -/
def involved (D : Deployment) (raws : RawTokens) (db : Db) (reqs : List (Request π)) : List Text :=
  D.secrets ++ db.adminFetchTokens.map raws.admin ++ db.routerTokens.map raws.router ++
    reqs.filterMap Request.presented

/-- SHA-256 is injective on the strings of a list. -/
def InjectiveOn (B : Backend) (ts : List Text) : Prop :=
  ∀ a ∈ ts, ∀ b ∈ ts, hashToken B a = hashToken B b → a = b

instance (B : Backend) (ts : List Text) : Decidable (InjectiveOn B ts) :=
  inferInstanceAs (Decidable (∀ a ∈ ts, ∀ b ∈ ts, hashToken B a = hashToken B b → a = b))

/-! ## What changes -/

/-- Only the audit log has grown, and the rate limiter has taken note. -/
structure LogsOnly (s s' : Traffic π) : Prop where
  world : ∃ rows seq bs, s'.world = { s.world with
    db := { s.world.db with auditLog := s.world.db.auditLog ++ rows, auditLogSeq := seq }
    buckets := bs }
  writes : s'.writes = s.writes

theorem LogsOnly.refl (s : Traffic π) : LogsOnly s s :=
  ⟨⟨[], s.world.db.auditLogSeq, s.world.buckets, by simp⟩, rfl⟩

theorem LogsOnly.trans {s s' s'' : Traffic π} (h : LogsOnly s s') (h' : LogsOnly s' s'') :
    LogsOnly s s'' := by
  obtain ⟨rows, seq, bs, hw⟩ := h.world
  obtain ⟨rows', seq', bs', hw'⟩ := h'.world
  refine ⟨⟨rows ++ rows', seq', bs', ?_⟩, h'.writes.trans h.writes⟩
  rw [hw', hw]
  simp only [List.append_assoc]

/-- Nothing that tells who is who has changed. -/
theorem LogsOnly.db {s s' : Traffic π} (h : LogsOnly s s') :
    s'.world.db.routers = s.world.db.routers ∧
      s'.world.db.routerTokens = s.world.db.routerTokens ∧
      s'.world.db.adminFetchTokens = s.world.db.adminFetchTokens ∧ s'.world.host = s.world.host := by
  obtain ⟨rows, seq, bs, hw⟩ := h.world
  rw [hw]
  exact ⟨rfl, rfl, rfl, rfl⟩

/-! ## One request -/

theorem logsOnly_buckets (s : Traffic π) (bs : Buckets) :
    LogsOnly s { s with world := { s.world with buckets := bs } } :=
  ⟨⟨[], s.world.db.auditLogSeq, bs, by simp⟩, rfl⟩

theorem logsOnly_audited (s : Traffic π) (bs : Buckets) (action : AuditAction) (status : AuditStatus)
    (routerId : Option Nat) (params : List (String × Param)) (answer : Outcome) :
    LogsOnly s { s with world := (audited { s.world with buckets := bs } action status routerId
      params answer).2 } := by
  unfold audited
  split
  · exact logsOnly_buckets s bs
  · rename_i db hdb
    unfold Db.audit at hdb
    split at hdb
    · obtain rfl := Except.ok.inj hdb
      exact ⟨⟨_, _, bs, rfl⟩, rfl⟩
    · cases hdb

/-- A hash that is not one of the configured secrets' matches neither slot. -/
theorem verifyProvisioningSecret_none {D : Deployment} {raw : Text}
    (h : ∀ secret ∈ D.secrets, hashToken D.toBackend raw ≠ hashToken D.toBackend secret) :
    verifyProvisioningSecret D raw = none := by
  have hcurrent : D.provisioningSecretCurrent ≠ [] →
      hashToken D.toBackend raw ≠ hashToken D.toBackend D.provisioningSecretCurrent :=
    fun hne => h _ (by simp [Settings.secrets, hne])
  have hprevious : D.provisioningSecretPrevious ≠ [] →
      hashToken D.toBackend raw ≠ hashToken D.toBackend D.provisioningSecretPrevious :=
    fun hne => h _ (by simp [Settings.secrets, hne])
  unfold verifyProvisioningSecret
  by_cases hc : D.provisioningSecretCurrent = [] <;> by_cases hp : D.provisioningSecretPrevious = []
    <;> simp_all [verifyToken]

/-- An enrollment that presents no configured secret gets no further than the audit log. -/
theorem logsOnly_autoEnroll {D : Deployment} {s : Traffic π} {c : EnrollCall}
    (h : ∀ raw, c.secret = some raw → ∀ secret ∈ D.secrets,
      hashToken D.toBackend raw ≠ hashToken D.toBackend secret) :
    LogsOnly s { s with world := (autoEnroll D s.world c).2 } := by
  unfold autoEnroll
  cases limitRates s.world.buckets c with
  | mk admitted bs =>
    cases admitted with
    | false => exact logsOnly_buckets s bs
    | true =>
      simp only
      cases hs : c.secret with
      | none => exact logsOnly_audited s bs _ _ _ _ _
      | some raw =>
        cases raw with
        | nil => exact logsOnly_audited s bs _ _ _ _ _
        | cons a as =>
          simp only [verifyProvisioningSecret_none (h _ hs)]
          exact logsOnly_audited s bs _ _ _ _ _

/-- A download that presents no live token gets no further than the rate limit. -/
theorem logsOnly_factoryInstaller {D : Deployment} {s : Traffic π} {c : FetchCall}
    (h : ∀ row ∈ s.world.db.adminFetchTokens, row.revokedAt = none → c.now < row.expiresAt →
      row.tokenHash ≠ hashToken D.toBackend c.t) :
    LogsOnly s { s with world := (factoryInstaller D s.world c).2 } := by
  have heff := factoryInstaller_effect D s.world c
  generalize factoryInstaller D s.world c = res at heff
  cases heff with
  | refused res bs => exact logsOnly_buckets s bs
  | served row bs hfind =>
    obtain ⟨hrow, hlive, hfresh, hhash⟩ := findValidAdminToken_some hfind
    exact absurd hhash (h row hrow hlive hfresh)

/-- A heartbeat that presents no live token gets no further than the rate limits. -/
theorem logsOnly_pushTelemetry {D : Deployment} {writeTelemetry : Router → π → Except Text Unit}
    {s : Traffic π} {c : PushCall π}
    (h : ∀ raw, extractBearer c.authorization = .ok raw → ∀ token ∈ s.world.db.routerTokens,
      token.revokedAt = none → token.tokenHash ≠ hashToken D.toBackend raw) :
    LogsOnly s ⟨(pushTelemetry D writeTelemetry s.world c).world,
      s.writes ++ (pushTelemetry D writeTelemetry s.world c).written.toList⟩ := by
  have hno {raw : Text} {id : Nat} (hraw : extractBearer c.authorization = .ok raw) :
      ¬ Resolves D s.world raw id := by
    rintro ⟨token, hfind, -⟩
    obtain ⟨htoken, hlive, hhash⟩ := findValidRouterToken_some hfind
    exact h raw hraw token htoken hlive hhash
  have heff := pushTelemetry_effect D writeTelemetry s.world c
  generalize pushTelemetry D writeTelemetry s.world c = p at heff
  have quiet (bs : Buckets) : LogsOnly s ⟨{ s.world with buckets := bs }, s.writes ++ []⟩ := by
    rw [List.append_nil]
    exact logsOnly_buckets s bs
  cases heff with
  | malformed answer => exact quiet s.world.buckets
  | limited bs => exact quiet bs
  | unknown raw bs => exact quiet bs
  | gated raw router bs hraw hrouter hres => exact absurd hres (hno hraw)
  | seen raw router bs hraw hrouter hres => exact absurd hres (hno hraw)

theorem InjectiveOn.subset {B : Backend} {ts ts' : List Text} (h : InjectiveOn B ts)
    (hsub : ts' ⊆ ts) : InjectiveOn B ts' :=
  fun a ha b hb => h a (hsub ha) b (hsub hb)

/-- **A request without a credential** only leaves its trace in the log. -/
theorem logsOnly_handle {D : Deployment} {writeTelemetry : Router → π → Except Text Unit}
    {raws : RawTokens} {s s' : Traffic π} {req : Request π}
    (hminted : raws.Minted D.toBackend s.world.db)
    (hinj : InjectiveOn D.toBackend (involved D raws s.world.db [req]))
    (hreq : Unauthenticated D raws s req) (hs : handle D writeTelemetry s req = some s') :
    LogsOnly s s' := by
  -- what the endpoint takes has another hash than what it is shown
  have apart {raw x : Text} (hraw : req.presented = some raw)
      (hx : x ∈ accepted D raws s.world.db req) (hmem : x ∈ involved D raws s.world.db [req]) :
      hashToken D.toBackend raw ≠ hashToken D.toBackend x := by
    intro heq
    have hshown : raw ∈ involved D raws s.world.db [req] := by simp [involved, hraw]
    exact hreq raw hraw (hinj raw hshown x hmem heq ▸ hx)
  cases req with
  | enroll c =>
    obtain rfl := Option.some.inj hs
    refine logsOnly_autoEnroll fun raw hraw secret hsecret => apart hraw hsecret ?_
    simp [involved, hsecret]
  | fetch c =>
    obtain rfl := Option.some.inj hs
    refine logsOnly_factoryInstaller fun row hrow hlive hfresh hhash => ?_
    have hmem : raws.admin row ∈ s.world.db.adminFetchTokens.map raws.admin :=
      List.mem_map_of_mem hrow
    refine apart rfl (List.mem_map_of_mem (List.mem_filter.mpr ⟨hrow, ?_⟩)) ?_
      (hhash.symm.trans (hminted.admin row hrow))
    · simp [hlive, hfresh]
    · simp only [involved, List.mem_append, hmem, true_or, or_true]
  | push c =>
    obtain rfl := Option.some.inj hs
    refine logsOnly_pushTelemetry fun raw hraw token htoken hlive hhash => ?_
    have hpresented : (Request.push c).presented = some raw := by
      rw [Request.presented, hraw]
      rfl
    have hmem : raws.router token ∈ s.world.db.routerTokens.map raws.router :=
      List.mem_map_of_mem htoken
    refine apart hpresented (List.mem_map_of_mem (List.mem_filter.mpr ⟨htoken, ?_⟩)) ?_
      (hhash.symm.trans (hminted.router token htoken))
    · simp [hlive]
    · simp only [involved, List.mem_append, hmem, true_or, or_true]

/-! ## Runs -/

/-- Requests that only log bring no new strings into a run. -/
theorem involved_subset {D : Deployment} {raws : RawTokens} {s s' : Traffic π} (h : LogsOnly s s')
    {reqs reqs' : List (Request π)} (hsub : reqs' ⊆ reqs) :
    involved D raws s'.world.db reqs' ⊆ involved D raws s.world.db reqs := by
  obtain ⟨-, htokens, hadmin, -⟩ := h.db
  rw [involved, involved, hadmin, htokens]
  refine List.append_subset.mpr ⟨List.subset_append_left _ _, fun a ha => ?_⟩
  obtain ⟨req, hreq, ha⟩ := List.mem_filterMap.mp ha
  exact List.mem_append_right _ (List.mem_filterMap.mpr ⟨req, hsub hreq, ha⟩)

theorem logsOnly_run {D : Deployment} {writeTelemetry : Router → π → Except Text Unit}
    {raws : RawTokens} : ∀ {reqs : List (Request π)} {s s' : Traffic π},
      raws.Minted D.toBackend s.world.db →
      InjectiveOn D.toBackend (involved D raws s.world.db reqs) →
      Run.Meets (handle D writeTelemetry) (Unauthenticated D raws) s reqs →
      Run.exec (handle D writeTelemetry) s reqs = some s' → LogsOnly s s'
  | [], s, s', _, _, _, hrun => by
    obtain rfl := Option.some.inj hrun
    exact .refl s
  | req :: reqs, s, s', hminted, hinj, hmeets, hrun => by
    obtain ⟨t, ht, hrun⟩ := Run.exec_cons_iff.mp hrun
    have hfirst : LogsOnly s t :=
      logsOnly_handle hminted (hinj.subset (involved_subset (.refl s) (by simp))) hmeets.1 ht
    obtain ⟨-, htokens, hadmin, -⟩ := hfirst.db
    have hminted' : raws.Minted D.toBackend t.world.db :=
      ⟨hadmin ▸ hminted.admin, htokens ▸ hminted.router⟩
    have hinj' := hinj.subset (involved_subset hfirst (List.subset_cons_self req reqs))
    exact hfirst.trans (logsOnly_run hminted' hinj' (hmeets.2 t ht) hrun)

/-- **Unauthenticated traffic changes nothing that matters.** -/
theorem unauthenticated_logsOnly {D : Deployment} {writeTelemetry : Router → π → Except Text Unit}
    {raws : RawTokens} {reqs : List (Request π)} {s s' : Traffic π}
    (hminted : raws.Minted D.toBackend s.world.db)
    (hinj : InjectiveOn D.toBackend (involved D raws s.world.db reqs))
    (hreqs : Run.Meets (handle D writeTelemetry) (Unauthenticated D raws) s reqs)
    (hrun : Run.exec (handle D writeTelemetry) s reqs = some s') :
    s'.world.db.routers = s.world.db.routers ∧
      s'.world.db.routerTokens = s.world.db.routerTokens ∧
      s'.world.db.adminFetchTokens = s.world.db.adminFetchTokens ∧
      s'.world.host = s.world.host ∧ s'.writes = s.writes ∧ LogsOnly s s' := by
  have honly := logsOnly_run hminted hinj hreqs hrun
  obtain ⟨hrouters, htokens, hadmin, hhost⟩ := honly.db
  exact ⟨hrouters, htokens, hadmin, hhost, honly.writes, honly⟩

/-- A token for the prep bench. -/
def shelfToken : AdminFetchToken where
  id := 1
  label := "shelf batch".toList
  tokenHash := hashToken smallDeployment.toBackend "tok-C-another-router".toList
  tokenPrefix := prefixOf "tok-C-another-router".toList
  issuedBy := none
  expiresAt := 3600000000
  revokedAt := none
  useCount := 0
  lastUsedAt := none
  createdAt := 0

/-- Unit A is enrolled, and a fetch token is out. -/
def shelfTraffic : Traffic Unit where
  world := { enrolledWorld with
    db := { enrolledWorld.db with adminFetchTokens := [shelfToken] } }
  writes := []

/-- The raw tokens there. -/
def shelfRaws : RawTokens where
  admin := fun _ => "tok-C-another-router".toList
  router := fun _ => "tok-A-first-enrollment".toList

theorem storable_strangerHeader : storable "Bearer tok-B-second-enrollment".toList := by decide

/-- A stranger tries a token of no one at every door. -/
def strangerRequests : List (Request Unit) :=
  [.enroll { againCall with secret := some "tok-B-second-enrollment".toList },
    .fetch {
      sourceIp := ⟨"192.0.2.7".toList, storable_smallIp⟩
      t := "tok-B-second-enrollment".toList
      t_len := by decide
      clock := 70
      now := 70000000
      usedAt := 70000000
      generatedAt := 70000000 },
    .push (smallPush ⟨_, storable_strangerHeader⟩ 80)]

theorem unauthenticated_logsOnly_stranger : ∃ s' : Traffic Unit,
    s'.world.db.routers = shelfTraffic.world.db.routers ∧
      s'.world.db.routerTokens = shelfTraffic.world.db.routerTokens ∧
      s'.world.db.adminFetchTokens = shelfTraffic.world.db.adminFetchTokens ∧
      s'.world.host = shelfTraffic.world.host ∧ s'.writes = shelfTraffic.writes ∧
      LogsOnly shelfTraffic s' :=
  ⟨_, @unauthenticated_logsOnly Unit smallDeployment (fun _ _ => .ok ()) shelfRaws strangerRequests
    shelfTraffic _ ⟨by decide +kernel, by decide +kernel⟩ (by decide +kernel) (by decide +kernel)
    rfl⟩

end CpeCloud
