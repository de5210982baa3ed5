import CpeCloud.Tokens
import Mathlib.Data.List.Sort

/-!
# Admin fetch tokens (`app/services/tokens.py`)

What the `fetch-tokens` commands do to the table: `issueAdminFetchToken`,
`revokeAdminFetchToken`, `listAdminFetchTokens`. A label is stored without its surrounding
whitespace and compared as it is given, and a revocation does not look at the expiry.

* **`revokedForGood_iff`**: when revoking the label a token was issued with ends the token.
* **`revokesActive_iff`**: when a revocation acts on the tokens that a listing shows as active.
-/

namespace CpeCloud

/-! ## Issuing -/

/-- The alphabet of `secrets.token_urlsafe`. -/
def isUrlSafe (c : Char) : Bool :=
  c ∈ "ABCDEFGHIJKLMNOPQRSTUVWXYZabcdefghijklmnopqrstuvwxyz0123456789-_".toList

/-- What `mint_token` returns: 32 bytes in that alphabet. -/
abbrev MintedToken := { raw : Text // raw.length = 43 ∧ ∀ c ∈ raw, isUrlSafe c = true }

/-- A call of `issue_admin_fetch_token`, with what else is read while it runs: `mint_token()`, the
clock, and what Postgres puts into `id` and `created_at`. -/
structure IssueCall where
  label : Text
  ttlHours : Int
  issuedBy : Option Text
  minted : MintedToken
  now : Timestamp
  id : Nat
  createdAt : Timestamp

/-- What a call raises. -/
inductive TokenError where
  | valueError (message : String)
  | overflowError
  | database (e : Exc)
  deriving DecidableEq

/-- `datetime.max`. -/
def maxTimestamp : Timestamp := 253402300799999999

/-- `datetime.now(timezone.utc) + timedelta(hours=ttl_hours)`. -/
def IssueCall.expiresAt (c : IssueCall) : Timestamp := c.now + c.ttlHours.toNat * 3600000000

/-- The row that is added. -/
def IssueCall.row (B : Backend) (c : IssueCall) : AdminFetchToken where
  id := c.id
  label := Text.strip c.label
  tokenHash := hashToken B c.minted.1
  tokenPrefix := prefixOf c.minted.1
  issuedBy := c.issuedBy
  expiresAt := c.expiresAt
  revokedAt := none
  useCount := 0
  lastUsedAt := none
  createdAt := c.createdAt

/-- `issue_admin_fetch_token`: the table behind it. -/
def issueAdminFetchToken (B : Backend) (rows : List AdminFetchToken) (c : IssueCall) :
    Except TokenError (List AdminFetchToken) :=
  if c.ttlHours ≤ 0 then .error (.valueError "ttl_hours must be positive")
  else if c.label = [] ∨ Text.strip c.label = [] then .error (.valueError "label is required")
  else if maxTimestamp < c.expiresAt then .error .overflowError
  else if ¬ storable (c.row B).label ∨ ¬ (∀ t ∈ c.issuedBy, storable t) then
    .error (.database .dataError)
  else if ∃ t ∈ rows, t.id = c.id ∨ t.tokenHash = (c.row B).tokenHash then
    .error (.database .integrityError)
  else .ok (rows ++ [c.row B])

/-! ## Revoking -/

/-- The `WHERE` of `revoke_admin_fetch_token`. -/
def AdminFetchToken.revocable (ident : Text) (t : AdminFetchToken) : Prop :=
  t.revokedAt = none ∧ (t.label = ident ∨ t.tokenPrefix = ident)

instance (ident : Text) (t : AdminFetchToken) : Decidable (t.revocable ident) := by
  unfold AdminFetchToken.revocable
  infer_instance

/-- `row.revoked_at = now`. -/
def AdminFetchToken.revoke (now : Timestamp) (t : AdminFetchToken) : AdminFetchToken :=
  { t with revokedAt := some now }

/-- `revoke_admin_fetch_token`: the number of rows, and the table behind it. -/
def revokeAdminFetchToken (rows : List AdminFetchToken) (ident : Text) (now : Timestamp) :
    Except TokenError (Nat × List AdminFetchToken) :=
  -- The identifier is sent to Postgres.
  if ¬ storable ident then .error (.database .dataError)
  else
    .ok ((rows.filter fun t => t.revocable ident).length,
      rows.map fun t => if t.revocable ident then t.revoke now else t)

/-! ## Listing -/

/-- `FetchTokenSummary`. -/
structure FetchTokenSummary where
  id : Nat
  label : Text
  tokenPrefix : Text
  issuedBy : Option Text
  expiresAt : Timestamp
  revokedAt : Option Timestamp
  useCount : Nat
  lastUsedAt : Option Timestamp
  deriving DecidableEq

/-- `FetchTokenSummary.active`. -/
def FetchTokenSummary.active (s : FetchTokenSummary) (now : Timestamp) : Bool :=
  s.revokedAt = none && now < s.expiresAt

/-- The summary of a row. -/
def AdminFetchToken.summary (t : AdminFetchToken) : FetchTokenSummary :=
  ⟨t.id, t.label, t.tokenPrefix, t.issuedBy, t.expiresAt, t.revokedAt, t.useCount, t.lastUsedAt⟩

/-- `ORDER BY created_at DESC`. -/
def AdminFetchToken.newerLE (t t' : AdminFetchToken) : Prop := t'.createdAt ≤ t.createdAt

instance : DecidableRel AdminFetchToken.newerLE := fun t t' =>
  inferInstanceAs (Decidable (t'.createdAt ≤ t.createdAt))

/-- `list_admin_fetch_tokens`. -/
def listAdminFetchTokens (rows : List AdminFetchToken) (includeInactive : Bool) (now : Timestamp) :
    List FetchTokenSummary :=
  (rows.insertionSort AdminFetchToken.newerLE).filterMap fun t =>
    let active := t.revokedAt = none && now < t.expiresAt
    if !active && !includeInactive then none else some t.summary

/-- What the listing shows: the summaries of the active rows. -/
theorem mem_listAdminFetchTokens {rows : List AdminFetchToken} {now : Timestamp}
    {s : FetchTokenSummary} :
    s ∈ listAdminFetchTokens rows false now ↔
      ∃ t ∈ rows, t.revokedAt = none ∧ now < t.expiresAt ∧ t.summary = s := by
  simp only [listAdminFetchTokens, List.mem_filterMap, List.mem_insertionSort]
  constructor
  · rintro ⟨t, ht, h⟩
    split at h
    · cases h
    · rename_i hactive
      have hactive : t.revokedAt = none ∧ now < t.expiresAt := by simpa using hactive
      exact ⟨t, ht, hactive.1, hactive.2, Option.some.inj h⟩
  · rintro ⟨t, ht, hlive, hfresh, rfl⟩
    exact ⟨t, ht, by simp [hlive, hfresh]⟩

/-- The listing shows the row as active. -/
def ShownActive (rows : List AdminFetchToken) (now : Timestamp) (t : AdminFetchToken) : Prop :=
  t.summary ∈ listAdminFetchTokens rows false now

instance (rows : List AdminFetchToken) (now : Timestamp) (t : AdminFetchToken) :
    Decidable (ShownActive rows now t) :=
  inferInstanceAs (Decidable (t.summary ∈ listAdminFetchTokens rows false now))

theorem shownActive_iff {rows : List AdminFetchToken} {now : Timestamp} {t : AdminFetchToken}
    (ht : t ∈ rows) : ShownActive rows now t ↔ t.revokedAt = none ∧ now < t.expiresAt := by
  rw [ShownActive, mem_listAdminFetchTokens]
  constructor
  · rintro ⟨t', -, hlive, hfresh, heq⟩
    simp only [AdminFetchToken.summary, FetchTokenSummary.mk.injEq] at heq
    obtain ⟨-, -, -, -, hexpires, hrevoked, -⟩ := heq
    rw [← hexpires, ← hrevoked]
    exact ⟨hlive, hfresh⟩
  · rintro ⟨hlive, hfresh⟩
    exact ⟨t, ht, hlive, hfresh, rfl⟩

/-! ## A revocation and the listing -/

/-- The revocation acts on the rows under the identifier that the listing shows as active, and no
such row is shown behind it. -/
def RevokesActive (rows : List AdminFetchToken) (ident : Text) (now : Timestamp) : Prop :=
  ∃ n rows', revokeAdminFetchToken rows ident now = .ok (n, rows') ∧
    n = (rows.filter fun t =>
      ShownActive rows now t ∧ (t.label = ident ∨ t.tokenPrefix = ident)).length ∧
    rows' = rows.map (fun t =>
      if ShownActive rows now t ∧ (t.label = ident ∨ t.tokenPrefix = ident) then t.revoke now
      else t) ∧
    ∀ s ∈ listAdminFetchTokens rows' false now, s.label ≠ ident ∧ s.tokenPrefix ≠ ident

theorem revoke_ne {now : Timestamp} {t : AdminFetchToken} (h : t.revokedAt = none) :
    t.revoke now ≠ t := by
  intro he
  have hrevoked : (t.revoke now).revokedAt = t.revokedAt := by rw [he]
  rw [h] at hrevoked
  cases hrevoked

/-- No row that is left is both live and under the identifier. -/
theorem not_revocable_revoked {rows : List AdminFetchToken} {ident : Text} {now : Timestamp}
    {t : AdminFetchToken} (h : t ∈ rows.map fun t => if t.revocable ident then t.revoke now else t) :
    ¬ t.revocable ident := by
  obtain ⟨a, -, rfl⟩ := List.mem_map.mp h
  split
  · rintro ⟨hlive, -⟩
    cases hlive
  · assumption

/-- **A revocation acts on the active tokens** unless it finds one that has expired: it takes no
notice of the expiry. -/
theorem revokesActive_iff (rows : List AdminFetchToken) (ident : Text) (now : Timestamp) :
    RevokesActive rows ident now ↔ storable ident ∧ ∀ t ∈ rows, t.revokedAt = none →
      t.expiresAt ≤ now → t.label ≠ ident ∧ t.tokenPrefix ≠ ident := by
  constructor
  · rintro ⟨n, rows', hrevoke, -, hrows, -⟩
    unfold revokeAdminFetchToken at hrevoke
    split at hrevoke
    · cases hrevoke
    rename_i hident
    refine ⟨not_not.mp hident, fun t ht hlive hexpired => ?_⟩
    obtain ⟨-, rfl⟩ := Prod.mk.inj (Except.ok.inj hrevoke)
    by_contra hmatch
    rw [← not_or, not_not] at hmatch
    -- the row is revoked, and the listing does not show it
    have hrow := List.map_inj_left.mp hrows t ht
    rw [if_pos ⟨hlive, hmatch⟩, if_neg fun h => absurd ((shownActive_iff ht).mp h.1).2
      (Nat.not_lt.mpr hexpired)] at hrow
    exact revoke_ne hlive hrow
  · rintro ⟨hident, hexpired⟩
    have hsame : ∀ t ∈ rows, t.revocable ident ↔
        ShownActive rows now t ∧ (t.label = ident ∨ t.tokenPrefix = ident) := by
      intro t ht
      rw [shownActive_iff ht, AdminFetchToken.revocable]
      constructor
      · rintro ⟨hlive, hmatch⟩
        refine ⟨⟨hlive, Nat.lt_of_not_le fun hle => ?_⟩, hmatch⟩
        obtain ⟨hlabel, hstart⟩ := hexpired t ht hlive hle
        exact hmatch.elim hlabel hstart
      · rintro ⟨⟨hlive, -⟩, hmatch⟩
        exact ⟨hlive, hmatch⟩
    refine ⟨_, _, if_neg (not_not.mpr hident), ?_, ?_, ?_⟩
    · refine congrArg List.length (List.filter_congr fun t ht => ?_)
      rw [decide_eq_decide]
      exact hsame t ht
    · exact List.map_congr_left fun t ht => by simp only [hsame t ht]
    · intro s hs
      obtain ⟨t, ht, hlive, -, rfl⟩ := mem_listAdminFetchTokens.mp hs
      rw [← not_or]
      exact fun hmatch => not_revocable_revoked ht ⟨hlive, hmatch⟩

/-- A token that has run out, and was not revoked. -/
def expiredToken : AdminFetchToken where
  id := 1
  label := "bench-2".toList
  tokenHash := "5f4dcc3b".toList
  tokenPrefix := "AbCd1234".toList
  issuedBy := none
  expiresAt := 3600000000
  revokedAt := none
  useCount := 0
  lastUsedAt := none
  createdAt := 0

/-- A token that has expired is revoked, and counted. -/
theorem expired_not_active : ¬ ∀ rows ident now, RevokesActive rows ident now := by
  intro h
  obtain ⟨n, rows', hrevoke, hn, -⟩ := h [expiredToken] "bench-2".toList 7200000000
  have hone : revokeAdminFetchToken [expiredToken] "bench-2".toList 7200000000 =
      .ok (1, [expiredToken.revoke 7200000000]) := by decide
  rw [hone] at hrevoke
  obtain ⟨rfl, rfl⟩ := Prod.mk.inj (Except.ok.inj hrevoke)
  exact absurd hn (by decide)

/-! ## Issuing and revoking -/

/-- From the revocation on, the token is not found any more. -/
def RevokedForGood (B : Backend) (rows : List AdminFetchToken) (c : IssueCall)
    (revokedAt : Timestamp) : Prop :=
  ∃ n rows', revokeAdminFetchToken rows c.label revokedAt = .ok (n, rows') ∧
    ∀ now, revokedAt ≤ now → findValidAdminToken B rows' now c.minted.1 = .ok none

/-- What an accepted call has been checked for, and the table behind it. -/
theorem issueAdminFetchToken_ok {B : Backend} {rows rows' : List AdminFetchToken} {c : IssueCall}
    (h : issueAdminFetchToken B rows c = .ok rows') : 0 < c.ttlHours ∧ storable c.label ∧
      (∀ t ∈ rows, t.id ≠ c.id ∧ t.tokenHash ≠ hashToken B c.minted.1) ∧
        rows' = rows ++ [c.row B] := by
  unfold issueAdminFetchToken at h
  split at h
  · cases h
  rename_i httl
  split at h
  · cases h
  split at h
  · cases h
  split at h
  · cases h
  rename_i hstore
  split at h
  · cases h
  rename_i hfresh
  obtain rfl := Except.ok.inj h
  rw [not_or, not_not] at hstore
  refine ⟨Int.not_le.mp httl, fun hnul => hstore.1 (Text.mem_strip (by decide) hnul),
    fun t ht => ⟨fun hid => hfresh ⟨t, ht, Or.inl hid⟩,
      fun hhash => hfresh ⟨t, ht, Or.inr hhash⟩⟩, rfl⟩

/-- A row is found when it is live and carries the prefix and the hash. -/
theorem findValidAdminToken_found {B : Backend} {rows : List AdminFetchToken} {now : Timestamp}
    {raw : Text} (hstore : storable (prefixOf raw)) {t : AdminFetchToken} (ht : t ∈ rows)
    (hstart : t.tokenPrefix = prefixOf raw) (hlive : t.revokedAt = none) (hfresh : now < t.expiresAt)
    (hhash : t.tokenHash = hashToken B raw) :
    ∃ found, findValidAdminToken B rows now raw = .ok (some found) := by
  have hmem : t ∈ rows.filter fun t =>
      t.tokenPrefix = prefixOf raw ∧ t.revokedAt = none ∧ t.expiresAt > now :=
    List.mem_filter.mpr ⟨ht, by simp [hstart, hlive, hfresh]⟩
  obtain ⟨found, hfound⟩ := Option.isSome_iff_exists.mp
    (List.find?_isSome (p := fun t => t.tokenHash = hashToken B raw).mpr
      ⟨t, hmem, by simp [hhash]⟩)
  exact ⟨found, by rw [findValidAdminToken, if_neg (not_not.mpr hstore), hfound]⟩

/-- Minted tokens have no whitespace. -/
theorem isSpace_of_urlSafe {c : Char} (h : isUrlSafe c = true) : Text.isSpace c = false := by
  have hall : ("ABCDEFGHIJKLMNOPQRSTUVWXYZabcdefghijklmnopqrstuvwxyz0123456789-_".toList.all
      fun c => !Text.isSpace c) = true := by decide
  simpa using List.all_eq_true.mp hall c (by simpa [isUrlSafe] using h)

/-- Minted tokens have no NUL. -/
theorem storable_of_urlSafe {t : Text} (h : ∀ c ∈ t, isUrlSafe c = true) : storable t :=
  fun hnul => absurd (h _ hnul) (by decide)

/-- A label that is the prefix of a token is stored as it is. -/
theorem strip_prefixOf (m : MintedToken) : Text.strip (prefixOf m.1) = prefixOf m.1 :=
  Text.strip_eq_self fun c hc => isSpace_of_urlSafe (m.2.2 c (List.mem_of_mem_take hc))

/-- The label a token is issued under finds its row, exactly if it is stored as it is. -/
theorem row_revocable_iff (B : Backend) (c : IssueCall) :
    (c.row B).revocable c.label ↔ Text.strip c.label = c.label := by
  constructor
  · rintro ⟨-, hlabel | hlabel⟩
    · exact hlabel
    · have hself := strip_prefixOf c.minted
      rwa [show prefixOf c.minted.1 = c.label from hlabel] at hself
  · exact fun hself => ⟨rfl, Or.inl hself⟩

/-- **Revoking by label ends the token** that was issued under it, exactly if the label has no
whitespace around it; or the token has run out by then. -/
theorem revokedForGood_iff {B : Backend} {rows rows' : List AdminFetchToken} {c : IssueCall}
    (h : issueAdminFetchToken B rows c = .ok rows') (revokedAt : Timestamp) :
    RevokedForGood B rows' c revokedAt ↔
      Text.strip c.label = c.label ∨ c.expiresAt ≤ revokedAt := by
  obtain ⟨-, hlabel, hfresh, rfl⟩ := issueAdminFetchToken_ok h
  have hrevoke : revokeAdminFetchToken (rows ++ [c.row B]) c.label revokedAt = .ok
      (((rows ++ [c.row B]).filter fun t => t.revocable c.label).length,
        (rows ++ [c.row B]).map fun t =>
          if t.revocable c.label then t.revoke revokedAt else t) :=
    if_neg (not_not.mpr hlabel)
  have hstore := storable_prefixOf (storable_of_urlSafe c.minted.2.2)
  constructor
  · rintro ⟨n, rows', heq, hnone⟩
    rw [hrevoke] at heq
    obtain ⟨-, rfl⟩ := Prod.mk.inj (Except.ok.inj heq)
    by_contra hlive
    rw [not_or, Nat.not_le] at hlive
    obtain ⟨hspace, hlate⟩ := hlive
    have hkept : ¬ (c.row B).revocable c.label := fun h => hspace ((row_revocable_iff B c).mp h)
    have hmem : c.row B ∈ (rows ++ [c.row B]).map fun t =>
        if t.revocable c.label then t.revoke revokedAt else t :=
      List.mem_map.mpr ⟨c.row B, List.mem_append_right _ (List.mem_singleton_self _), if_neg hkept⟩
    have hstart : (c.row B).tokenPrefix = prefixOf c.minted.1 := rfl
    obtain ⟨found, hfound⟩ := findValidAdminToken_found (B := B) hstore hmem hstart rfl hlate rfl
    rw [hnone revokedAt le_rfl] at hfound
    cases hfound
  · intro hends
    refine ⟨_, _, hrevoke, fun now hnow => ?_⟩
    obtain ⟨found, hfind⟩ := findValidAdminToken_ok hstore B
      ((rows ++ [c.row B]).map fun t => if t.revocable c.label then t.revoke revokedAt else t) now
    rw [hfind]
    cases found with
    | none => rfl
    | some t =>
      obtain ⟨ht, hlive, hfresh', hhash⟩ := findValidAdminToken_some hfind
      obtain ⟨a, ha, rfl⟩ := List.mem_map.mp ht
      split at hlive
      · cases hlive
      rename_i hkept
      rw [if_neg hkept] at hfresh' hhash
      rcases List.mem_append.mp ha with ha | ha
      · exact absurd hhash (hfresh a ha).2
      obtain rfl := List.mem_singleton.mp ha
      rcases hends with hself | hexpired
      · exact absurd ((row_revocable_iff B c).mpr hself) hkept
      · have hpast : (c.row B).expiresAt ≤ now := hexpired.trans hnow
        exact absurd hfresh' (Nat.not_lt.mpr hpast)

/-- A token for the bench, issued under a label with a space behind it. -/
def benchCall : IssueCall where
  label := "bench-2 ".toList
  ttlHours := 24
  issuedBy := none
  minted := ⟨"q3Zb1vJtXy0sWmKc9aR7eLdUoPfGhN2iT5uV8-_AbCd".toList, by decide,
    List.all_eq_true.mp (by decide)⟩
  now := 0
  id := 1
  createdAt := 0

theorem issue_benchCall : issueAdminFetchToken smallDeployment.toBackend [] benchCall =
    .ok [benchCall.row smallDeployment.toBackend] := by
  decide

/-- An hour later, revoking the label has not ended the token. -/
theorem spaced_not_revoked : ¬ ∀ B rows rows' c revokedAt,
    issueAdminFetchToken B rows c = .ok rows' → c.now ≤ revokedAt →
      RevokedForGood B rows' c revokedAt := by
  intro h
  obtain ⟨n, rows', hrevoke, hnone⟩ := h _ _ _ _ 3600000000 issue_benchCall (by decide)
  have hkept : revokeAdminFetchToken [benchCall.row smallDeployment.toBackend] benchCall.label
      3600000000 = .ok (0, [benchCall.row smallDeployment.toBackend]) := by
    decide
  rw [hkept] at hrevoke
  obtain ⟨-, rfl⟩ := Prod.mk.inj (Except.ok.inj hrevoke)
  exact absurd (hnone 3600000000 le_rfl) (by decide)

theorem revokedForGood_bench :
    RevokedForGood smallDeployment.toBackend [benchCall.row smallDeployment.toBackend] benchCall
        3600000000 ↔
      Text.strip benchCall.label = benchCall.label ∨ benchCall.expiresAt ≤ 3600000000 :=
  revokedForGood_iff issue_benchCall 3600000000

end CpeCloud
