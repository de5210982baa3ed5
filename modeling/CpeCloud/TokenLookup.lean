import CpeCloud.AdminTokens
import CpeCloud.Traffic

/-!
# Token lookups against scans

The tables of tokens as every writer leaves them: the commands that issue and revoke admin tokens,
and the requests. A row keeps the prefix of the token behind its hash, so that a lookup that
narrows by the prefix misses nothing.

* `Stamped`: what the tables have to do with the tokens minted so far; every step keeps it
  (`stamped_step`).
* **`lookups_scan_iff`**: in every state of a run, both lookups find what a scan for the hash finds,
  iff Postgres takes the prefix.
-/

namespace CpeCloud

universe u

variable {π : Type u}

/-! ## Writers -/

/-- What can happen to the tables. -/
inductive TokenOp (π : Type u) where
  | issue (c : IssueCall)
  | revoke (ident : Text) (now : Timestamp)
  | request (req : Request π)

/-- The token that is minted for it, if one is. -/
def TokenOp.minted : TokenOp π → List Text
  | .issue c => [c.minted.1]
  | .revoke _ _ => []
  | .request (.enroll c) => [c.minted]
  | .request (.fetch _) => []
  | .request (.push _) => []

/-- The step. A command that raises is not committed. -/
def tokenStep (D : Deployment) (writeTelemetry : Router → π → Except Text Unit) (s : Traffic π) :
    TokenOp π → Option (Traffic π)
  | .issue c =>
    match issueAdminFetchToken D.toBackend s.world.db.adminFetchTokens c with
    | .error _ => some s
    | .ok rows => some { s with
        world := { s.world with db := { s.world.db with adminFetchTokens := rows } } }
  | .revoke ident now =>
    match revokeAdminFetchToken s.world.db.adminFetchTokens ident now with
    | .error _ => some s
    | .ok (_, rows) => some { s with
        world := { s.world with db := { s.world.db with adminFetchTokens := rows } } }
  | .request req => handle D writeTelemetry s req

/-! ## Stamps -/

/-- The hash and the prefix of a token. -/
def stamp (B : Backend) (m : Text) : Text × Text := (hashToken B m, prefixOf m)

/-- What a row of an admin token keeps of its token. -/
def AdminFetchToken.stamp (t : AdminFetchToken) : Text × Text := (t.tokenHash, t.tokenPrefix)

/-- What a row of a router's token keeps of its token. -/
def RouterToken.stamp (t : RouterToken) : Text × Text := (t.tokenHash, t.tokenPrefix)

/-- The rows of both tables are stamped by tokens among the minted ones, each by its own. -/
structure Stamped (B : Backend) (minted : List Text) (db : Db) : Prop where
  admin : (db.adminFetchTokens.map AdminFetchToken.stamp).Sublist (minted.map (stamp B))
  router : (db.routerTokens.map RouterToken.stamp).Sublist (minted.map (stamp B))

theorem Stamped.mono {B : Backend} {minted : List Text} {db db' : Db} (h : Stamped B minted db)
    (hadmin : db'.adminFetchTokens.map AdminFetchToken.stamp =
      db.adminFetchTokens.map AdminFetchToken.stamp)
    (hrouter : db'.routerTokens.map RouterToken.stamp = db.routerTokens.map RouterToken.stamp)
    (ms : List Text) : Stamped B (minted ++ ms) db' := by
  have hsub : (minted.map (stamp B)).Sublist ((minted ++ ms).map (stamp B)) :=
    (List.sublist_append_left minted ms).map _
  exact ⟨hadmin ▸ h.admin.trans hsub, hrouter ▸ h.router.trans hsub⟩

/-! ## Enrollment -/

/-- The transaction leaves the admin tokens alone; it leaves the routers' tokens alone, or revokes
some and adds one. -/
theorem enrollRow_stamps (D : Deployment) (c : Submission) (db : Db) :
    (enrollRow D c db).2.adminFetchTokens = db.adminFetchTokens ∧
      ((enrollRow D c db).2.routerTokens.map RouterToken.stamp =
          db.routerTokens.map RouterToken.stamp ∨
        (enrollRow D c db).2.routerTokens.map RouterToken.stamp =
          db.routerTokens.map RouterToken.stamp ++ [stamp D.toBackend c.minted]) := by
  have hrevoked (old : List Nat) (now : Timestamp) (tokens : List RouterToken) :
      (revokeTokens old now tokens).map RouterToken.stamp = tokens.map RouterToken.stamp := by
    rw [revokeTokens, List.map_map]
    refine List.map_congr_left fun t _ => ?_
    simp only [Function.comp]
    split <;> rfl
  have heff := enrollRow_effect D c db
  generalize enrollRow D c db = res at heff
  cases heff with
  | failed => exact ⟨rfl, Or.inl rfl⟩
  | inserted ip =>
    refine ⟨rfl, Or.inr ?_⟩
    simp only [Db.inserted, List.map_append]
    rfl
  | reenrolled existing =>
    refine ⟨rfl, Or.inr ?_⟩
    simp only [Db.reenrolled, List.map_append, hrevoked]
    rfl

/-- The two databases have the same tokens. -/
structure Db.SameTokens (db db' : Db) : Prop where
  admin : db'.adminFetchTokens = db.adminFetchTokens
  router : db'.routerTokens = db.routerTokens

theorem audited_sameTokens {db : Db} {w : World} (hw : w.db = db) (action : AuditAction)
    (status : AuditStatus) (routerId : Option Nat) (params : List (String × Param))
    (answer : Outcome) :
    db.SameTokens (audited w action status routerId params answer).2.db := by
  subst hw
  unfold audited
  split
  · exact ⟨rfl, rfl⟩
  · rename_i db hdb
    unfold Db.audit at hdb
    split at hdb
    · obtain rfl := Except.ok.inj hdb
      exact ⟨rfl, rfl⟩
    · cases hdb

theorem reportSyncFailure_sameTokens {db : Db} {w : World} (hw : w.db = db) (routerId : Nat)
    (e : SyncError) : db.SameTokens (reportSyncFailure w routerId e).2.db := by
  subst hw
  cases e with
  | databaseError m => exact ⟨rfl, rfl⟩
  | runtimeError m => exact audited_sameTokens rfl _ _ _ _ _
  | osError m => exact audited_sameTokens rfl _ _ _ _ _

/-- Behind the checks, nothing but the transaction writes tokens. -/
theorem enroll_sameTokens (D : Deployment) {db : Db} {w : World} (hw : w.db = db) (c : EnrollCall)
    (slot : SecretSlot) (serverPubkey : Text) :
    (enrollRow D c.toSubmission db).2.SameTokens (enroll D w c slot serverPubkey).2.db := by
  subst hw
  unfold enroll
  cases hrow : enrollRow D c.toSubmission w.db with
  | mk res db =>
    cases res with
    | error e => exact ⟨rfl, rfl⟩
    | ok enrolled =>
      simp only
      cases syncFromDb D.toSettings c.faults db.routers w.host with
      | mk res host =>
        cases res with
        | ok n => exact audited_sameTokens (by rfl) _ _ _ _ _
        | error e => exact reportSyncFailure_sameTokens (by rfl) _ _

/-- A request writes the tokens of its transaction, or none. -/
theorem autoEnroll_tokens (D : Deployment) (w : World) (c : EnrollCall) :
    w.db.SameTokens (autoEnroll D w c).2.db ∨
      (enrollRow D c.toSubmission w.db).2.SameTokens (autoEnroll D w c).2.db := by
  unfold autoEnroll
  split
  · exact Or.inl ⟨rfl, rfl⟩
  simp only
  split
  · exact Or.inl (audited_sameTokens (by rfl) _ _ _ _ _)
  · exact Or.inl (audited_sameTokens (by rfl) _ _ _ _ _)
  split
  · exact Or.inl (audited_sameTokens (by rfl) _ _ _ _ _)
  split
  · exact Or.inl ⟨rfl, rfl⟩
  · exact Or.inr (enroll_sameTokens D (by rfl) c _ _)

/-! ## Steps -/

theorem stamped_issue {D : Deployment} {minted : List Text} {db : Db}
    (h : Stamped D.toBackend minted db) {c : IssueCall} {rows : List AdminFetchToken}
    (hrows : issueAdminFetchToken D.toBackend db.adminFetchTokens c = .ok rows) :
    Stamped D.toBackend (minted ++ [c.minted.1]) { db with adminFetchTokens := rows } := by
  obtain ⟨-, -, -, rfl⟩ := issueAdminFetchToken_ok hrows
  refine ⟨?_, h.router.trans ((List.sublist_append_left _ _).map _)⟩
  rw [List.map_append, List.map_append]
  exact h.admin.append (List.Sublist.refl _)

theorem stamped_revoke {B : Backend} {minted : List Text} {db : Db} (h : Stamped B minted db)
    {ident : Text} {now : Timestamp} {n : Nat} {rows : List AdminFetchToken}
    (hrows : revokeAdminFetchToken db.adminFetchTokens ident now = .ok (n, rows)) :
    Stamped B minted { db with adminFetchTokens := rows } := by
  unfold revokeAdminFetchToken at hrows
  split at hrows
  · cases hrows
  obtain ⟨-, rfl⟩ := Prod.mk.inj (Except.ok.inj hrows)
  refine ⟨?_, h.router⟩
  rw [List.map_map, List.map_congr_left (g := AdminFetchToken.stamp)]
  · exact h.admin
  · intro t _
    simp only [Function.comp]
    split <;> rfl

theorem stamped_enroll {D : Deployment} {minted : List Text} {w : World}
    (h : Stamped D.toBackend minted w.db) (c : EnrollCall) :
    Stamped D.toBackend (minted ++ [c.minted]) (autoEnroll D w c).2.db := by
  rcases autoEnroll_tokens D w c with hsame | hsame
  · exact h.mono (by rw [hsame.admin]) (by rw [hsame.router]) _
  · obtain ⟨hadmin, hrouter | hrouter⟩ := enrollRow_stamps D c.toSubmission w.db
    · exact h.mono (by rw [hsame.admin, hadmin]) (by rw [hsame.router, hrouter]) _
    · refine ⟨?_, ?_⟩
      · rw [hsame.admin, hadmin]
        exact h.admin.trans ((List.sublist_append_left _ _).map _)
      · rw [hsame.router, hrouter, List.map_append]
        exact h.router.append (List.Sublist.refl _)

/-- A download mints nothing. -/
theorem stamped_fetch {D : Deployment} {minted : List Text} {w : World}
    (h : Stamped D.toBackend minted w.db) (c : FetchCall) :
    Stamped D.toBackend minted (factoryInstaller D w c).2.db := by
  have heff := factoryInstaller_effect D w c
  generalize factoryInstaller D w c = res at heff
  cases heff with
  | refused => exact h
  | served row =>
    refine ⟨?_, h.router⟩
    simp only [Rows.amend]
    rw [List.map_map, List.map_congr_left (g := AdminFetchToken.stamp)]
    · exact h.admin
    · intro t _
      simp only [Function.comp]
      split <;> rfl

theorem stamped_push {D : Deployment} {writeTelemetry : Router → π → Except Text Unit}
    {minted : List Text} {w : World} (h : Stamped D.toBackend minted w.db) (c : PushCall π) :
    Stamped D.toBackend minted (pushTelemetry D writeTelemetry w c).world.db := by
  have hseen := pushTelemetry_db D writeTelemetry w c
  generalize (pushTelemetry D writeTelemetry w c).world.db = db at hseen
  cases hseen with
  | same => exact h
  | seen => exact ⟨h.admin, h.router⟩

/-- **Every step keeps the stamps**, of the tokens minted so far. -/
theorem stamped_step {D : Deployment} {writeTelemetry : Router → π → Except Text Unit}
    {minted : List Text} {s s' : Traffic π} {op : TokenOp π}
    (h : Stamped D.toBackend minted s.world.db) (hs : tokenStep D writeTelemetry s op = some s') :
    Stamped D.toBackend (minted ++ op.minted) s'.world.db := by
  cases op with
  | issue c =>
    simp only [tokenStep] at hs
    split at hs
    · obtain rfl := Option.some.inj hs
      exact h.mono rfl rfl _
    · rename_i rows hrows
      obtain rfl := Option.some.inj hs
      exact stamped_issue h hrows
  | revoke ident now =>
    rw [TokenOp.minted, List.append_nil]
    simp only [tokenStep] at hs
    split at hs
    · obtain rfl := Option.some.inj hs
      exact h
    · rename_i rows hrows
      obtain rfl := Option.some.inj hs
      exact stamped_revoke h hrows
  | request req =>
    cases req with
    | enroll c =>
      obtain rfl := Option.some.inj hs
      exact stamped_enroll h c
    | fetch c =>
      rw [TokenOp.minted, List.append_nil]
      obtain rfl := Option.some.inj hs
      exact stamped_fetch h c
    | push c =>
      rw [TokenOp.minted, List.append_nil]
      obtain rfl := Option.some.inj hs
      exact stamped_push h c

/-- What a run has minted stamps its tables. -/
theorem stamped_run {D : Deployment} {writeTelemetry : Router → π → Except Text Unit} :
    ∀ {ops : List (TokenOp π)} {minted : List Text} {s s' : Traffic π},
      Stamped D.toBackend minted s.world.db →
      Run.exec (tokenStep D writeTelemetry) s ops = some s' →
      Stamped D.toBackend (minted ++ ops.flatMap TokenOp.minted) s'.world.db
  | [], minted, s, s', h, hrun => by
    obtain rfl := Option.some.inj hrun
    rw [List.flatMap_nil, List.append_nil]
    exact h
  | op :: ops, minted, s, s', h, hrun => by
    obtain ⟨t, ht, hrun⟩ := Run.exec_cons_iff.mp hrun
    rw [List.flatMap_cons, ← List.append_assoc]
    exact stamped_run (stamped_step h ht) hrun

/-! ## Lookups -/

/-- Only the token behind a row has the row's hash. -/
theorem prefix_of_hash {B : Backend} {minted : List Text} {raw : Text} {stamps : List (Text × Text)}
    (h : stamps.Sublist (minted.map (stamp B))) (hinj : InjectiveOn B (raw :: minted))
    {s : Text × Text} (hs : s ∈ stamps) (hhash : s.1 = hashToken B raw) :
    raw ∈ minted ∧ s.2 = prefixOf raw := by
  obtain ⟨m, hm, rfl⟩ := List.mem_map.mp (h.subset hs)
  obtain rfl : m = raw := hinj m (List.mem_cons_of_mem _ hm) raw List.mem_cons_self hhash
  exact ⟨hm, rfl⟩

/-- No two rows have one hash. -/
theorem eq_of_hash {ρ : Type} {B : Backend} {minted : List Text} {key : ρ → Text × Text}
    {rows : List ρ} (h : (rows.map key).Sublist (minted.map (stamp B))) (hnodup : minted.Nodup)
    (hinj : InjectiveOn B minted) {a b : ρ} (ha : a ∈ rows) (hb : b ∈ rows)
    (hhash : (key a).1 = (key b).1) : a = b := by
  have hkeys : (rows.map key).Nodup := by
    refine h.nodup (hnodup.map_on ?_)
    intro x hx y hy hxy
    exact hinj x hx y hy (Prod.ext_iff.mp hxy).1
  refine List.inj_on_of_nodup_map hkeys ha hb ?_
  obtain ⟨x, hx, hxa⟩ := List.mem_map.mp (h.subset (List.mem_map_of_mem ha))
  obtain ⟨y, hy, hyb⟩ := List.mem_map.mp (h.subset (List.mem_map_of_mem hb))
  rw [← hxa, ← hyb] at hhash ⊢
  rw [hinj x hx y hy hhash]

/-- The rows with the hash of a token are one row at most, and it keeps the token's prefix. -/
structure Indexed {ρ : Type} (B : Backend) (key : ρ → Text × Text) (raw : Text) (rows : List ρ) :
    Prop where
  narrows : ∀ t ∈ rows, (key t).1 = hashToken B raw →
    (key t).2 = prefixOf raw ∧ prefixLen ≤ raw.length
  unique : ∀ a ∈ rows, ∀ b ∈ rows, (key a).1 = hashToken B raw → (key b).1 = hashToken B raw → a = b

theorem indexed_of_stamped {ρ : Type} {B : Backend} {minted : List Text} {raw : Text}
    {key : ρ → Text × Text} {rows rows' : List ρ}
    (h : (rows.map key).Sublist (minted.map (stamp B))) (hnodup : minted.Nodup)
    (hlen : ∀ m ∈ minted, prefixLen ≤ m.length) (hinj : InjectiveOn B (raw :: minted))
    (hperm : rows'.Perm rows) : Indexed B key raw rows' where
  narrows := by
    intro t ht hhash
    obtain ⟨hm, hstart⟩ := prefix_of_hash h hinj (List.mem_map_of_mem (hperm.mem_iff.mp ht)) hhash
    exact ⟨hstart, hlen raw hm⟩
  unique := by
    intro a ha b hb hhash hhash'
    exact eq_of_hash h hnodup (hinj.subset (List.subset_cons_self raw minted))
      (hperm.mem_iff.mp ha) (hperm.mem_iff.mp hb) (hhash.trans hhash'.symm)

theorem findValidAdminToken_iff {B : Backend} {rows : List AdminFetchToken} {raw : Text}
    (h : Indexed B AdminFetchToken.stamp raw rows) (hstore : storable (prefixOf raw))
    (now : Timestamp) (row : AdminFetchToken) :
    findValidAdminToken B rows now raw = .ok (some row) ↔ row ∈ rows ∧ row.revokedAt = none ∧
      row.expiresAt > now ∧ row.tokenHash = hashToken B raw := by
  constructor
  · exact findValidAdminToken_some
  · rintro ⟨hrow, hlive, hfresh, hhash⟩
    obtain ⟨t, ht⟩ :=
      findValidAdminToken_found hstore hrow (h.narrows row hrow hhash).1 hlive hfresh hhash
    obtain ⟨hmem, -, -, hhash'⟩ := findValidAdminToken_some ht
    rw [ht, h.unique t hmem row hrow hhash' hhash]

theorem findValidRouterToken_iff {B : Backend} {rows : List RouterToken} {raw : Text}
    (h : Indexed B RouterToken.stamp raw rows)
    (hstore : raw.length < prefixLen ∨ storable (prefixOf raw)) (row : RouterToken) :
    findValidRouterToken B rows raw = .ok (some row) ↔ row ∈ rows ∧ row.revokedAt = none ∧
      row.tokenHash = hashToken B raw := by
  constructor
  · exact findValidRouterToken_some
  · rintro ⟨hrow, hlive, hhash⟩
    obtain ⟨hstart, hlen⟩ := h.narrows row hrow hhash
    have hstore := hstore.resolve_left (Nat.not_lt.mpr hlen)
    obtain ⟨t, ht⟩ := findValidRouterToken_found hlen hstore hrow hstart hlive hhash
    obtain ⟨hmem, -, hhash'⟩ := findValidRouterToken_some ht
    rw [ht, h.unique t hmem row hrow hhash' hhash]

/-- The lookup of an admin token finds the live row with its hash, or nothing if there is none. -/
def AdminScan (B : Backend) (rows : List AdminFetchToken) (now : Timestamp) (raw : Text) : Prop :=
  ∃ found, findValidAdminToken B rows now raw = .ok found ∧ ∀ row, found = some row ↔
    row ∈ rows ∧ row.revokedAt = none ∧ row.expiresAt > now ∧ row.tokenHash = hashToken B raw

/-- The lookup of a router's token finds the live row with its hash, or nothing if there is
none. -/
def RouterScan (B : Backend) (rows : List RouterToken) (raw : Text) : Prop :=
  ∃ found, findValidRouterToken B rows raw = .ok found ∧ ∀ row, found = some row ↔
    row ∈ rows ∧ row.revokedAt = none ∧ row.tokenHash = hashToken B raw

theorem adminScan_iff {B : Backend} {rows : List AdminFetchToken} {raw : Text}
    (h : Indexed B AdminFetchToken.stamp raw rows) (now : Timestamp) :
    AdminScan B rows now raw ↔ storable (prefixOf raw) := by
  constructor
  · rintro ⟨found, hfound, -⟩
    by_contra hnul
    rw [findValidAdminToken, if_pos hnul] at hfound
    cases hfound
  · intro hstore
    obtain ⟨found, hfound⟩ := findValidAdminToken_ok hstore B rows now
    refine ⟨found, hfound, fun row => ?_⟩
    rw [← findValidAdminToken_iff h hstore now row, hfound, Except.ok.injEq]

theorem routerScan_iff {B : Backend} {rows : List RouterToken} {raw : Text}
    (h : Indexed B RouterToken.stamp raw rows) :
    RouterScan B rows raw ↔ raw.length < prefixLen ∨ storable (prefixOf raw) := by
  constructor
  · rintro ⟨found, hfound, -⟩
    by_contra hboth
    rw [not_or] at hboth
    rw [findValidRouterToken, if_neg hboth.1, if_pos hboth.2] at hfound
    cases hfound
  · intro hstore
    have hfound : ∃ found, findValidRouterToken B rows raw = .ok found := by
      rcases hstore with hshort | hstore
      · exact ⟨none, if_pos hshort⟩
      · exact findValidRouterToken_ok hstore B rows
    obtain ⟨found, hfound⟩ := hfound
    refine ⟨found, hfound, fun row => ?_⟩
    rw [← findValidRouterToken_iff h hstore row, hfound, Except.ok.injEq]

/-- **When the lookups are scans**: in every state of a run from empty tables, in whatever order
the rows come, they find the live row with the hash of what they are shown, or nothing if there is
none, iff Postgres takes its prefix; a router's token that is too short is not sent there. -/
theorem lookups_scan_iff {D : Deployment} {writeTelemetry : Router → π → Except Text Unit}
    {ops : List (TokenOp π)} {s s' : Traffic π} {raw : Text}
    (hadmin : s.world.db.adminFetchTokens = []) (hrouter : s.world.db.routerTokens = [])
    (hrun : Run.exec (tokenStep D writeTelemetry) s ops = some s')
    (hnodup : (ops.flatMap TokenOp.minted).Nodup)
    (hlen : ∀ m ∈ ops.flatMap TokenOp.minted, prefixLen ≤ m.length)
    (hinj : InjectiveOn D.toBackend (raw :: ops.flatMap TokenOp.minted)) :
    (∀ rows, rows.Perm s'.world.db.adminFetchTokens → ∀ now,
      (AdminScan D.toBackend rows now raw ↔ storable (prefixOf raw))) ∧
    ∀ rows, rows.Perm s'.world.db.routerTokens →
      (RouterScan D.toBackend rows raw ↔ raw.length < prefixLen ∨ storable (prefixOf raw)) := by
  have hstart : Stamped D.toBackend [] s.world.db := by
    constructor
    · rw [hadmin]
      exact List.Sublist.refl _
    · rw [hrouter]
      exact List.Sublist.refl _
  have hstamped := stamped_run hstart hrun
  rw [List.nil_append] at hstamped
  constructor
  · intro rows hperm
    exact adminScan_iff (indexed_of_stamped hstamped.admin hnodup hlen hinj hperm)
  · intro rows hperm
    exact routerScan_iff (indexed_of_stamped hstamped.router hnodup hlen hinj hperm)

/-- A bench token is issued, unit A enrolls twice, and the bench token is revoked. -/
def benchOps : List (TokenOp Unit) :=
  [.issue benchCall, .request (.enroll (smallCall unitA "tok-A-first-enrollment" 0)),
    .request (.enroll againCall), .revoke "bench-2".toList 90000000]

theorem lookups_scan_iff_bench : ∃ s' : Traffic Unit,
    (∀ rows, rows.Perm s'.world.db.adminFetchTokens → ∀ now,
      (AdminScan smallDeployment.toBackend rows now "tok-B-second-enrollment".toList ↔
        storable (prefixOf "tok-B-second-enrollment".toList))) ∧
    ∀ rows, rows.Perm s'.world.db.routerTokens →
      (RouterScan smallDeployment.toBackend rows "tok-B-second-enrollment".toList ↔
        "tok-B-second-enrollment".toList.length < prefixLen ∨
          storable (prefixOf "tok-B-second-enrollment".toList)) :=
  ⟨_, @lookups_scan_iff Unit smallDeployment (fun _ _ => .ok ()) benchOps ⟨smallWorld, []⟩ _ _ rfl
    rfl rfl (by decide +kernel) (by decide +kernel) (by decide +kernel)⟩

/-- A `t` that starts with `%00`. -/
def nulRaw : Text := List.replicate 16 (Char.ofNat 0)

/-- Its lookup raises, among no tokens at all. -/
theorem nul_not_scanned : ¬ ∀ (D : Deployment) (writeTelemetry : Router → Unit → Except Text Unit)
    (ops : List (TokenOp Unit)) (s s' : Traffic Unit) (raw : Text),
      s.world.db.adminFetchTokens = [] → s.world.db.routerTokens = [] →
        Run.exec (tokenStep D writeTelemetry) s ops = some s' →
          (ops.flatMap TokenOp.minted).Nodup →
            (∀ m ∈ ops.flatMap TokenOp.minted, prefixLen ≤ m.length) →
              InjectiveOn D.toBackend (raw :: ops.flatMap TokenOp.minted) →
                ∀ now, AdminScan D.toBackend s'.world.db.adminFetchTokens now raw := by
  intro h
  obtain ⟨found, hfound, -⟩ := h smallDeployment (fun _ _ => .ok ()) [] ⟨smallWorld, []⟩
    ⟨smallWorld, []⟩ nulRaw rfl rfl rfl List.nodup_nil (fun _ hm => absurd hm List.not_mem_nil)
    (by decide +kernel) 0
  rw [findValidAdminToken, if_pos (by decide)] at hfound
  cases hfound

end CpeCloud
