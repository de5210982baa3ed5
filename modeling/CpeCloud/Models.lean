import CpeCloud.Lib.IPv4
import CpeCloud.Lib.Rows
import CpeCloud.Settings

/-!
# The tables (`app/models/`)

The rows the service reads and writes, and the database `Db` they live in: each table in insertion
order, next to the sequence that numbers it. `Router.clash` is the five `UNIQUE` constraints of
`routers` taken together, and `Db.WF` what Postgres enforces on every committed state.

Left out: the columns nothing here reads (`created_at`, `updated_at`, `audit_log.result`,
`audit_log.completed_at`), and the tables no endpoint touches.
-/

namespace CpeCloud

/-- A `datetime` in UTC, as microseconds since the epoch. -/
abbrev Timestamp := Nat

/-- `ck_routers_wifi_stack`. -/
inductive WifiStack where
  | wireless
  | wifi
  deriving Repr, DecidableEq

/-- `ck_routers_status`. -/
inductive RouterStatus where
  | active
  | pending
  | decommissioned
  | quarantined
  deriving Repr, DecidableEq

/-- `routers`: one row per physical router. -/
structure Router where
  id : Nat
  identity : Text
  serialNumber : Text
  /-- `MACADDR`, in Postgres's output form. -/
  macAddress : Text
  model : Option Text
  rosVersion : Option Text
  rosMajor : Option Int
  wifiStack : Option WifiStack
  uispClientId : Option Text
  uispServiceId : Option Text
  uispSiteId : Option Text
  linkedAirmaxId : Option Text
  wgPublicKey : Option Text
  wgOverlayIp : Option IPv4.Address
  enrolledAt : Option Timestamp
  lastSeenAt : Option Timestamp
  status : RouterStatus
  notes : Option Text
  deriving DecidableEq

/-- `router_tokens`: a router's telemetry bearer token, hashed. -/
structure RouterToken where
  id : Nat
  routerId : Nat
  tokenHash : Text
  tokenPrefix : Text
  revokedAt : Option Timestamp
  deriving DecidableEq

/-- The `action` strings `auto_enroll` writes. -/
inductive AuditAction where
  | rejectMissingSecret
  | rejectBadSecret
  | wgSyncFailed
  | autoEnrollNew
  | autoEnrollReenroll
  deriving Repr, DecidableEq

/-- `audit_log.status`, as far as it is written. -/
inductive AuditStatus where
  | success
  | failed
  deriving Repr, DecidableEq

/-- A value in `audit_log.params`. -/
inductive Param where
  | text (t : Text)
  | nat (n : Nat)
  | flag (b : Bool)
  | status (s : RouterStatus)
  deriving DecidableEq

/-- `audit_log`. -/
structure AuditLog where
  id : Nat
  routerId : Option Nat
  actor : String
  action : AuditAction
  params : List (String × Param)
  status : AuditStatus
  deriving DecidableEq

/-- `admin_fetch_tokens`: authorizes installer downloads. -/
structure AdminFetchToken where
  id : Nat
  label : Text
  tokenHash : Text
  tokenPrefix : Text
  issuedBy : Option Text
  expiresAt : Timestamp
  revokedAt : Option Timestamp
  useCount : Nat
  lastUsedAt : Option Timestamp
  createdAt : Timestamp
  deriving DecidableEq

/-- A committed database: the tables in insertion order, and the next value of each sequence. -/
structure Db where
  routers : List Router
  routerTokens : List RouterToken
  auditLog : List AuditLog
  adminFetchTokens : List AdminFetchToken
  routersSeq : Nat
  routerTokensSeq : Nat
  auditLogSeq : Nat
  deriving DecidableEq

/-- What a statement or the allocator raises. -/
inductive Exc where
  /-- `IntegrityError`: a unique constraint. -/
  | integrityError
  /-- `DataError`: a value outside its column's domain. -/
  | dataError
  /-- `InFailedSqlTransaction`: a statement behind one that failed, in the same transaction. -/
  | failedTransaction
  | runtimeError (message : Text)
  deriving DecidableEq

/-! ## Constraints -/

/-- The unique constraints of `routers`: identity, serial number, MAC address, public key and
overlay IP. A NULL equals nothing. -/
def Router.clash (r r' : Router) : Prop :=
  r.identity = r'.identity ∨ r.serialNumber = r'.serialNumber ∨ r.macAddress = r'.macAddress ∨
    (r.wgPublicKey ≠ none ∧ r.wgPublicKey = r'.wgPublicKey) ∨
    (r.wgOverlayIp ≠ none ∧ r.wgOverlayIp = r'.wgOverlayIp)

instance (r r' : Router) : Decidable (r.clash r') := by
  unfold Router.clash
  infer_instance

theorem Router.clash_symm {r r' : Router} (h : r.clash r') : r'.clash r := by
  rcases h with h | h | h | ⟨hn, h⟩ | ⟨hn, h⟩
  · exact Or.inl h.symm
  · exact Or.inr (Or.inl h.symm)
  · exact Or.inr (Or.inr (Or.inl h.symm))
  · exact Or.inr (Or.inr (Or.inr (Or.inl ⟨h ▸ hn, h.symm⟩)))
  · exact Or.inr (Or.inr (Or.inr (Or.inr ⟨h ▸ hn, h.symm⟩)))

/-- What Postgres enforces on a committed state: keys below their sequence, unique columns, MAC
addresses in output form, and tokens that belong to a router. -/
structure Db.WF (db : Db) (B : Backend) : Prop where
  routers : Rows.Consistent Router.id Router.clash db.routers
  macs : ∀ r ∈ db.routers, B.macaddr r.macAddress = some r.macAddress
  routersSeq : ∀ r ∈ db.routers, r.id < db.routersSeq
  tokens : (db.routerTokens.map RouterToken.id).Nodup
  tokensSeq : ∀ t ∈ db.routerTokens, t.id < db.routerTokensSeq
  owners : ∀ t ∈ db.routerTokens, t.routerId ∈ db.routers.map Router.id

/-- Ids may be drawn and not used. -/
theorem Db.WF.drawn {db : Db} {B : Backend} (h : db.WF B) {seq : Nat} (hseq : db.routersSeq ≤ seq) :
    ({ db with routersSeq := seq } : Db).WF B :=
  ⟨h.routers, h.macs, fun r hr => (h.routersSeq r hr).trans_le hseq, h.tokens, h.tokensSeq,
    h.owners⟩

/-- The database after the initial migration, with its sequences where they stand. -/
def Db.empty (routersSeq routerTokensSeq auditLogSeq : Nat) : Db :=
  ⟨[], [], [], [], routersSeq, routerTokensSeq, auditLogSeq⟩

theorem Db.wf_empty (B : Backend) (a b c : Nat) : (Db.empty a b c).WF B :=
  ⟨Rows.consistent_nil, by simp [Db.empty], by simp [Db.empty], by simp [Db.empty],
    by simp [Db.empty], by simp [Db.empty]⟩

/-! ## Queries -/

/-- `select(Router).where(Router.serial_number == serial)`. -/
def Db.routerBySerial (db : Db) (serial : Text) : Option Router :=
  db.routers.find? fun r => r.serialNumber = serial

/-- `session.get(Router, id)`. -/
def Db.routerById (db : Db) (id : Nat) : Option Router :=
  db.routers.find? fun r => r.id = id

/-- The unrevoked tokens of a router. -/
def Db.liveTokens (db : Db) (routerId : Nat) : List RouterToken :=
  db.routerTokens.filter fun t => t.routerId = routerId ∧ t.revokedAt = none

theorem Db.routerBySerial_some {db : Db} {serial : Text} {r : Router}
    (h : db.routerBySerial serial = some r) : r ∈ db.routers ∧ r.serialNumber = serial :=
  ⟨List.mem_of_find?_eq_some h, by simpa using List.find?_some h⟩

theorem Db.routerBySerial_none {db : Db} {serial : Text} :
    db.routerBySerial serial = none ↔ ∀ r ∈ db.routers, r.serialNumber ≠ serial := by
  simp [Db.routerBySerial]

theorem Db.routerById_some {db : Db} {id : Nat} {r : Router} (h : db.routerById id = some r) :
    r ∈ db.routers ∧ r.id = id :=
  ⟨List.mem_of_find?_eq_some h, by simpa using List.find?_some h⟩

theorem Db.mem_liveTokens {db : Db} {id : Nat} {t : RouterToken} :
    t ∈ db.liveTokens id ↔ t ∈ db.routerTokens ∧ t.routerId = id ∧ t.revokedAt = none := by
  simp [Db.liveTokens]

/-- A serial names one row. -/
theorem Db.WF.eq_of_serial {db : Db} {B : Backend} (h : db.WF B) {r r' : Router} (hr : r ∈ db.routers)
    (hr' : r' ∈ db.routers) (hs : r.serialNumber = r'.serialNumber) : r = r' := by
  by_cases hid : r.id = r'.id
  · exact List.inj_on_of_nodup_map h.routers.nodup hr hr' hid
  · exact absurd (Or.inr (Or.inl hs)) (h.routers.apart r hr r' hr' hid)

/-- An id names one row. -/
theorem Db.WF.eq_of_id {db : Db} {B : Backend} (h : db.WF B) {r r' : Router} (hr : r ∈ db.routers)
    (hr' : r' ∈ db.routers) (hid : r.id = r'.id) : r = r' :=
  List.inj_on_of_nodup_map h.routers.nodup hr hr' hid

/-- Routers of two serials do not share an address. -/
theorem Db.WF.address_ne {db : Db} {B : Backend} (h : db.WF B) {r r' : Router} (hr : r ∈ db.routers)
    (hr' : r' ∈ db.routers) (hs : r.serialNumber ≠ r'.serialNumber) {a : IPv4.Address}
    (ha : r.wgOverlayIp = some a) : r'.wgOverlayIp ≠ some a := by
  intro ha'
  have hid : r.id ≠ r'.id := fun hid => hs (by rw [h.eq_of_id hr hr' hid])
  exact h.routers.apart r hr r' hr' hid
    (Or.inr (Or.inr (Or.inr (Or.inr ⟨by simp [ha], ha.trans ha'.symm⟩))))

theorem Db.WF.routerById_eq {db : Db} {B : Backend} (h : db.WF B) {r : Router} (hr : r ∈ db.routers) :
    db.routerById r.id = some r :=
  Rows.find_key h.routers.nodup hr

theorem Db.WF.routerBySerial_eq {db : Db} {B : Backend} (h : db.WF B) {r : Router} (hr : r ∈ db.routers) :
    db.routerBySerial r.serialNumber = some r := by
  cases hf : db.routerBySerial r.serialNumber with
  | none => exact absurd rfl (Db.routerBySerial_none.mp hf r hr)
  | some r' =>
    obtain ⟨hm, hs⟩ := Db.routerBySerial_some hf
    rw [h.eq_of_serial hm hr hs]

end CpeCloud
