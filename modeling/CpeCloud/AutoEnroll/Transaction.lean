import CpeCloud.AutoEnroll.Request
import CpeCloud.Tokens
import CpeCloud.Wireguard.Overlay
import CpeCloud.Wireguard.Sync

/-!
# The enrollment transaction (`app/routers/auto_enroll.py`)

`enrollRow` is what a request does from the lookup of its serial to the first commit: the INSERT of
a new router, or the UPDATE of the known one and the revocation of its tokens, and the new token.
A raise rolls back to the tables as they were, sequences apart.

* **`enrollRow_effect`**: what the transaction can do.
* `mem_inserted`, `mem_reenrolled`: the rows there are afterwards.
-/

namespace CpeCloud

/-- What the transaction of a request works with: its payload, `datetime.now` at the two places it
is read, and `mint_telemetry_token()`. -/
structure Submission where
  payload : AutoEnrollRequest
  enrolledAt : Timestamp
  revokedAt : Timestamp
  minted : Text
  deriving DecidableEq

/-! ## The router row -/

/-- The row a first enrollment adds to the session. -/
def newRouter (p : AutoEnrollRequest) (ip : IPv4.Address) (now : Timestamp) (id : Nat) : Router where
  id := id
  identity := p.identity
  serialNumber := p.serial
  macAddress := p.mac
  model := some p.model
  rosVersion := some p.rosVersion
  rosMajor := parseRosMajor p.rosVersion
  wifiStack := some p.wifiStack
  uispClientId := none
  uispServiceId := none
  uispSiteId := none
  linkedAirmaxId := none
  wgPublicKey := some p.routerPublicKey
  wgOverlayIp := some ip
  enrolledAt := some now
  lastSeenAt := none
  status := initialStatusFor p.identity
  notes := none

/-- What a re-enrollment assigns to the row it loaded. -/
def Router.assign (loaded : Router) (p : AutoEnrollRequest) (now : Timestamp) : Router :=
  { loaded with
    identity := p.identity
    macAddress := p.mac
    model := some p.model
    rosVersion := some p.rosVersion
    rosMajor := parseRosMajor p.rosVersion
    wifiStack := some p.wifiStack
    wgPublicKey := some p.routerPublicKey
    enrolledAt := some now }

/-- A MAC address as Postgres keeps it. -/
def Router.canonical (B : Backend) (r : Router) : Router :=
  { r with macAddress := (B.macaddr r.macAddress).getD r.macAddress }

/-- The value an UPDATE leaves in a column: one that was assigned what it was loaded with is not
written. -/
def written {α : Type} [DecidableEq α] (loaded assigned current : α) : α :=
  if assigned = loaded then current else assigned

/-- The ORM's UPDATE of the row `current`, for a session that loaded `loaded` and assigned a
payload. -/
def Router.update (B : Backend) (p : AutoEnrollRequest) (now : Timestamp)
    (loaded current : Router) : Router :=
  let assigned := loaded.assign p now
  { current with
    identity := written loaded.identity assigned.identity current.identity
    macAddress :=
      if assigned.macAddress = loaded.macAddress then current.macAddress
      else (assigned.canonical B).macAddress
    model := written loaded.model assigned.model current.model
    rosVersion := written loaded.rosVersion assigned.rosVersion current.rosVersion
    rosMajor := written loaded.rosMajor assigned.rosMajor current.rosMajor
    wifiStack := written loaded.wifiStack assigned.wifiStack current.wifiStack
    wgPublicKey := written loaded.wgPublicKey assigned.wgPublicKey current.wgPublicKey
    enrolledAt := written loaded.enrolledAt assigned.enrolledAt current.enrolledAt }

/-- `tok.revoked_at = now`. -/
def RouterToken.revoke (now : Timestamp) (t : RouterToken) : RouterToken :=
  { t with revokedAt := some now }

/-- The revocation of the tokens `old`, by id. -/
def revokeTokens (old : List Nat) (now : Timestamp) (tokens : List RouterToken) :
    List RouterToken :=
  tokens.map fun t => if t.id ∈ old then t.revoke now else t

/-- The row of a minted token. -/
def newToken (B : Backend) (raw : Text) (routerId id : Nat) : RouterToken :=
  ⟨id, routerId, hashToken B raw, prefixOf raw, none⟩

/-! ## The transaction -/

/-- What the first commit leaves in the session: `router_row` and `is_reenroll`. -/
structure Enrolled where
  row : Router
  reenroll : Bool

/-- The tables after the commit of a first enrollment. -/
def Db.commitNew (B : Backend) (db : Db) (c : Submission) (row : Router) : Db :=
  { db with
    routers := db.routers ++ [row]
    routerTokens := db.routerTokens ++ [newToken B c.minted row.id db.routerTokensSeq]
    routerTokensSeq := db.routerTokensSeq + 1 }

/-- The tables after the commit of a re-enrollment. -/
def Db.commitReenroll (B : Backend) (db : Db) (c : Submission) (id : Nat) (row : Option Router)
    (old : List Nat) : Db :=
  { db with
    routers :=
      match row with
      | none => db.routers
      | some row => Rows.amend Router.id id (fun _ => row) db.routers
    routerTokens := revokeTokens old c.revokedAt db.routerTokens ++
      [newToken B c.minted id db.routerTokensSeq]
    routerTokensSeq := db.routerTokensSeq + 1 }

/-- The tables after the first enrollment of a serial. -/
def Db.inserted (D : Deployment) (c : Submission) (db : Db) (ip : IPv4.Address) : Db :=
  let row := newRouter c.payload ip c.enrolledAt db.routersSeq
  { db with
    routers := db.routers ++ [row.canonical D.toBackend]
    routersSeq := db.routersSeq + 1
    routerTokens := db.routerTokens ++ [newToken D.toBackend c.minted row.id db.routerTokensSeq]
    routerTokensSeq := db.routerTokensSeq + 1 }

/-- The tables after the re-enrollment of `existing`. -/
def Db.reenrolled (D : Deployment) (c : Submission) (db : Db) (existing : Router) : Db :=
  let oldTokens := (db.liveTokens existing.id).map RouterToken.id
  { db with
    routers := Rows.amend Router.id existing.id
      (existing.update D.toBackend c.payload c.enrolledAt) db.routers
    routerTokens := revokeTokens oldTokens c.revokedAt db.routerTokens ++
      [newToken D.toBackend c.minted existing.id db.routerTokensSeq]
    routerTokensSeq := db.routerTokensSeq + 1 }

/-- The branch of a new serial. -/
def enrollNew (D : Deployment) (c : Submission) (db : Db) : Except Exc Enrolled × Db :=
  match allocateOverlayIp D.toSettings db.routers with
  | .error e => (.error e, db)
  | .ok ip =>
    let row := newRouter c.payload ip c.enrolledAt db.routersSeq
    if ¬ c.payload.fits D.toBackend then (.error .dataError, db)
    else if ∃ r ∈ db.routers, r.clash (row.canonical D.toBackend) then
      -- The id is drawn before the constraints are checked, and stays drawn.
      (.error .integrityError, { db with routersSeq := db.routersSeq + 1 })
    else (.ok ⟨row, false⟩, db.inserted D c ip)

/-- The branch of a known serial. -/
def enrollExisting (D : Deployment) (c : Submission) (db : Db) (existing : Router) :
    Except Exc Enrolled × Db :=
  if ¬ c.payload.fits D.toBackend then (.error .dataError, db)
  else if ∃ r ∈ db.routers, r.id ≠ existing.id ∧
      r.clash (existing.update D.toBackend c.payload c.enrolledAt existing) then
    (.error .integrityError, db)
  else (.ok ⟨existing.assign c.payload c.enrolledAt, true⟩, db.reenrolled D c existing)

/-- From the lookup of the serial to the first commit. -/
def enrollRow (D : Deployment) (c : Submission) (db : Db) : Except Exc Enrolled × Db :=
  if ¬ storable c.payload.serial then (.error .dataError, db)
  else
    match db.routerBySerial c.payload.serial with
    | none => enrollNew D c db
    | some existing => enrollExisting D c db existing

/-- What the transaction can do. -/
inductive EnrollEffect (D : Deployment) (c : Submission) (db : Db) :
    Except Exc Enrolled × Db → Prop where
  /-- It is rolled back. -/
  | failed (e : Exc) (seq : Nat) (hseq : db.routersSeq ≤ seq) :
      EnrollEffect D c db (.error e, { db with routersSeq := seq })
  /-- It inserts a row. -/
  | inserted (ip : IPv4.Address) (hnew : db.routerBySerial c.payload.serial = none)
      (hip : allocateOverlayIp D.toSettings db.routers = .ok ip)
      (hfits : c.payload.fits D.toBackend)
      (hapart : ∀ r ∈ db.routers, ¬ r.clash
        ((newRouter c.payload ip c.enrolledAt db.routersSeq).canonical D.toBackend)) :
      EnrollEffect D c db
        (.ok ⟨newRouter c.payload ip c.enrolledAt db.routersSeq, false⟩, db.inserted D c ip)
  /-- It updates a row. -/
  | reenrolled (existing : Router) (hold : db.routerBySerial c.payload.serial = some existing)
      (hfits : c.payload.fits D.toBackend)
      (hapart : ∀ r ∈ db.routers, r.id ≠ existing.id → ¬ r.clash
        (existing.update D.toBackend c.payload c.enrolledAt existing)) :
      EnrollEffect D c db
        (.ok ⟨existing.assign c.payload c.enrolledAt, true⟩, db.reenrolled D c existing)

/-- **What the transaction can do**, once and for all. -/
theorem enrollRow_effect (D : Deployment) (c : Submission) (db : Db) :
    EnrollEffect D c db (enrollRow D c db) := by
  have rolledBack (e : Exc) : EnrollEffect D c db (.error e, db) := .failed e db.routersSeq le_rfl
  unfold enrollRow
  split
  · exact rolledBack _
  split
  · rename_i hnew
    unfold enrollNew
    split
    · exact rolledBack _
    rename_i ip hip
    simp only
    split
    · exact rolledBack _
    rename_i hfits
    split
    · exact .failed _ _ (Nat.le_succ _)
    · rename_i hapart
      exact .inserted ip hnew hip (not_not.mp hfits) fun r hr hc => hapart ⟨r, hr, hc⟩
  · rename_i existing hold
    unfold enrollExisting
    split
    · exact rolledBack _
    rename_i hfits
    split
    · exact rolledBack _
    · rename_i hapart
      exact .reenrolled existing hold (not_not.mp hfits) fun r hr hid hc =>
        hapart ⟨r, hr, hid, hc⟩

/-! ## The updated row -/

@[simp] theorem written_self {α : Type} [DecidableEq α] (a b : α) : written a b a = b := by
  unfold written
  split
  · rename_i h
    exact h.symm
  · rfl

@[simp] theorem Router.update_id (B : Backend) (p : AutoEnrollRequest) (now : Timestamp)
    (loaded r : Router) : (loaded.update B p now r).id = r.id := rfl

/-- Updating the row that was loaded assigns the payload. -/
theorem Router.update_self {B : Backend} {r : Router} (h : B.macaddr r.macAddress = some r.macAddress)
    (p : AutoEnrollRequest) (now : Timestamp) :
    r.update B p now r = (r.assign p now).canonical B := by
  by_cases he : p.mac = r.macAddress
  · simp [Router.update, Router.assign, Router.canonical, he, h]
  · simp [Router.update, Router.assign, Router.canonical, he]

/-! ## The rows behind a commit -/

theorem mem_commitNew {B : Backend} {db : Db} {c : Submission} {row r : Router} :
    r ∈ (db.commitNew B c row).routers ↔ r ∈ db.routers ∨ r = row := by
  simp [Db.commitNew]

/-- The new version of a row serves its own key. -/
theorem mem_commitReenroll {B : Backend} {db : Db} {c : Submission} {id : Nat} {row : Router}
    (hid : id ∈ db.routers.map Router.id) (hrow : row.id = id) {old : List Nat} {r : Router} :
    r ∈ (db.commitReenroll B c id (some row) old).routers ↔
      (r ∈ db.routers ∧ r.id ≠ id) ∨ r = row := by
  simp only [Db.commitReenroll]
  by_cases hr : r.id = id
  · simp only [hr, ne_eq, not_true, and_false, false_or]
    constructor
    · intro hm
      obtain ⟨a, -, -, rfl⟩ := Rows.mem_amend_of_eq hm hr
      rfl
    · rintro rfl
      obtain ⟨a, ha, hak⟩ := List.mem_map.mp hid
      exact Rows.mem_amend_self ha hak
  · rw [Rows.mem_amend_of_ne (fun _ _ => hrow) hr]
    simp only [hr, ne_eq, not_false_iff, and_true]
    refine ⟨Or.inl, ?_⟩
    rintro (hm | rfl)
    · exact hm
    · exact absurd hrow hr

theorem inserted_eq (D : Deployment) (c : Submission) (db : Db) (ip : IPv4.Address) :
    db.inserted D c ip = { db with routersSeq := db.routersSeq + 1 }.commitNew D.toBackend c
      ((newRouter c.payload ip c.enrolledAt db.routersSeq).canonical D.toBackend) := rfl

theorem reenrolled_eq {D : Deployment} {c : Submission} {db : Db} {B : Backend} (h : db.WF B)
    {existing : Router} (hex : existing ∈ db.routers) :
    db.reenrolled D c existing = db.commitReenroll D.toBackend c existing.id
      (some (existing.update D.toBackend c.payload c.enrolledAt existing))
      ((db.liveTokens existing.id).map RouterToken.id) := by
  have hrows := Rows.amend_literal (f := existing.update D.toBackend c.payload c.enrolledAt)
    h.routers.nodup hex
  simp only [Db.reenrolled, Db.commitReenroll, hrows]

theorem mem_inserted {D : Deployment} {c : Submission} {db : Db} {ip : IPv4.Address} {r : Router} :
    r ∈ (db.inserted D c ip).routers ↔ r ∈ db.routers ∨
      r = (newRouter c.payload ip c.enrolledAt db.routersSeq).canonical D.toBackend := by
  rw [inserted_eq, mem_commitNew]

theorem mem_reenrolled {D : Deployment} {c : Submission} {db : Db} {B : Backend} (h : db.WF B)
    {existing : Router} (hex : existing ∈ db.routers) {r : Router} :
    r ∈ (db.reenrolled D c existing).routers ↔ (r ∈ db.routers ∧ r.id ≠ existing.id) ∨
      r = existing.update D.toBackend c.payload c.enrolledAt existing := by
  rw [reenrolled_eq h hex,
    mem_commitReenroll (List.mem_map_of_mem hex) (Router.update_id _ _ _ existing existing)]

/-! ## Tokens -/

theorem revokeTokens_ids (old : List Nat) (now : Timestamp) (tokens : List RouterToken) :
    (revokeTokens old now tokens).map RouterToken.id = tokens.map RouterToken.id := by
  rw [revokeTokens, List.map_map]
  refine List.map_congr_left fun t _ => ?_
  simp only [Function.comp]
  split <;> rfl

theorem revokeTokens_owners (old : List Nat) (now : Timestamp) (tokens : List RouterToken) :
    (revokeTokens old now tokens).map RouterToken.routerId = tokens.map RouterToken.routerId := by
  rw [revokeTokens, List.map_map]
  refine List.map_congr_left fun t _ => ?_
  simp only [Function.comp]
  split <;> rfl

end CpeCloud
