import CpeCloud.Models
import CpeCloud.Settings

/-!
# Token primitives and lookups (`app/services/tokens.py`)

Only the hash of a token and its first eight characters are stored. A lookup narrows the rows by
that prefix and compares hashes; a NUL in the prefix makes the SELECT raise. Minted tokens are
supplied from outside, as `secrets` does.
-/

namespace CpeCloud

/-- `PREFIX_LEN`. -/
def prefixLen : Nat := 8

/-- `prefix_of`. -/
def prefixOf (raw : Text) : Text := raw.take prefixLen

/-- `hash_token`. -/
def hashToken (B : Backend) (raw : Text) : Text := B.sha256Hex raw

/-- `verify_token`. -/
def verifyToken (B : Backend) (raw expectedHash : Text) : Bool := hashToken B raw = expectedHash

/-- `find_valid_admin_token`, at the time `now`. The prefix is sent to Postgres. -/
def findValidAdminToken (B : Backend) (rows : List AdminFetchToken) (now : Timestamp)
    (raw : Text) : Except Exc (Option AdminFetchToken) :=
  if ¬ storable (prefixOf raw) then .error .dataError
  else
    .ok <| (rows.filter fun t =>
      t.tokenPrefix = prefixOf raw ∧ t.revokedAt = none ∧ t.expiresAt > now).find? fun t =>
        t.tokenHash = hashToken B raw

/-- `find_valid_router_token`. -/
def findValidRouterToken (B : Backend) (rows : List RouterToken) (raw : Text) :
    Except Exc (Option RouterToken) :=
  if raw.length < prefixLen then .ok none
  else if ¬ storable (prefixOf raw) then .error .dataError
  else
    .ok <| (rows.filter fun t => t.tokenPrefix = prefixOf raw ∧ t.revokedAt = none).find? fun t =>
      t.tokenHash = hashToken B raw

theorem storable_prefixOf {raw : Text} (h : storable raw) : storable (prefixOf raw) :=
  fun hnul => h (List.mem_of_mem_take hnul)

theorem findValidRouterToken_some {B : Backend} {rows : List RouterToken} {raw : Text}
    {t : RouterToken} (h : findValidRouterToken B rows raw = .ok (some t)) :
    t ∈ rows ∧ t.revokedAt = none ∧ t.tokenHash = hashToken B raw := by
  unfold findValidRouterToken at h
  split at h
  · cases h
  split at h
  · cases h
  · have hfind := Except.ok.inj h
    have hm := List.mem_filter.mp (List.mem_of_find?_eq_some hfind)
    have hh := List.find?_some hfind
    simp only [decide_eq_true_eq] at hm hh
    exact ⟨hm.1, hm.2.2, hh⟩

/-- The lookup of a token whose prefix Postgres takes does not raise. -/
theorem findValidAdminToken_ok {raw : Text} (h : storable (prefixOf raw)) (B : Backend)
    (rows : List AdminFetchToken) (now : Timestamp) :
    ∃ found, findValidAdminToken B rows now raw = .ok found :=
  ⟨_, if_neg (not_not.mpr h)⟩

/-- The lookup of a token whose prefix Postgres takes does not raise. -/
theorem findValidRouterToken_ok {raw : Text} (h : storable (prefixOf raw)) (B : Backend)
    (rows : List RouterToken) : ∃ found, findValidRouterToken B rows raw = .ok found := by
  rw [findValidRouterToken, if_neg (not_not.mpr h)]
  split
  · exact ⟨none, rfl⟩
  · exact ⟨_, rfl⟩

/-- A row is found when one unrevoked row carries the prefix and the hash of a long enough
token. -/
theorem findValidRouterToken_found {B : Backend} {rows : List RouterToken} {raw : Text}
    (hlen : prefixLen ≤ raw.length) (hstore : storable (prefixOf raw)) {t : RouterToken}
    (ht : t ∈ rows) (hp : t.tokenPrefix = prefixOf raw) (hr : t.revokedAt = none)
    (hh : t.tokenHash = hashToken B raw) :
    ∃ found, findValidRouterToken B rows raw = .ok (some found) := by
  have hmem : t ∈ rows.filter fun t => t.tokenPrefix = prefixOf raw ∧ t.revokedAt = none :=
    List.mem_filter.mpr ⟨ht, by simp [hp, hr]⟩
  obtain ⟨found, hfound⟩ := Option.isSome_iff_exists.mp
    (List.find?_isSome (p := fun t => t.tokenHash = hashToken B raw).mpr ⟨t, hmem, by simp [hh]⟩)
  refine ⟨found, ?_⟩
  rw [findValidRouterToken, if_neg (Nat.not_lt.mpr hlen), if_neg (not_not.mpr hstore), hfound]

theorem findValidAdminToken_some {B : Backend} {rows : List AdminFetchToken} {now : Timestamp}
    {raw : Text} {t : AdminFetchToken} (h : findValidAdminToken B rows now raw = .ok (some t)) :
    t ∈ rows ∧ t.revokedAt = none ∧ t.expiresAt > now ∧ t.tokenHash = hashToken B raw := by
  unfold findValidAdminToken at h
  split at h
  · cases h
  · have hfind := Except.ok.inj h
    have hm := List.mem_filter.mp (List.mem_of_find?_eq_some hfind)
    have hh := List.find?_some hfind
    simp only [decide_eq_true_eq] at hm hh
    exact ⟨hm.1, hm.2.2.1, hm.2.2.2, hh⟩

end CpeCloud
