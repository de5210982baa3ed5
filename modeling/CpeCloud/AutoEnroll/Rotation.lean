import CpeCloud.AutoEnroll.Enrollable

/-!
# Token rotation

What an enrollment does to the tokens of each router: its own are revoked and one is added, those
of the others stay. `rotation ms` is what a router has that was enrolled with the tokens `ms`, in
this order: all but the last revoked.

* **`tokensOf_inserted_self`**, **`tokensOf_reenrolled_self`**: the tokens of the router that is
  enrolled, behind a transaction that commits.
-/

namespace CpeCloud

/-- The tokens of a router. -/
def Db.tokensOf (db : Db) (routerId : Nat) : List RouterToken :=
  db.routerTokens.filter fun t => t.routerId = routerId

/-- What a token's row says: its hash, its prefix, and whether it is revoked. -/
def RouterToken.shape (t : RouterToken) : Text × Text × Bool :=
  (t.tokenHash, t.tokenPrefix, t.revokedAt.isSome)

/-- The row of the raw token `m`. -/
def tokenShape (B : Backend) (revoked : Bool) (m : Text) : Text × Text × Bool :=
  (hashToken B m, prefixOf m, revoked)

/-- The rows of tokens minted one after the other. -/
def rotation (B : Backend) (ms : List Text) : List (Text × Text × Bool) :=
  ms.dropLast.map (tokenShape B true) ++ ms.getLast?.toList.map (tokenShape B false)

@[simp] theorem rotation_nil (B : Backend) : rotation B [] = [] := rfl

@[simp] theorem rotation_concat (B : Backend) (ms : List Text) (m : Text) :
    rotation B (ms ++ [m]) = ms.map (tokenShape B true) ++ [tokenShape B false m] := by
  simp [rotation]

/-- The rows of a rotation once all of them are revoked. -/
theorem rotation_revoked (B : Backend) (ms : List Text) :
    (rotation B ms).map (fun s => (s.1, s.2.1, true)) = ms.map (tokenShape B true) := by
  rcases List.eq_nil_or_concat' ms with rfl | ⟨ms, m, rfl⟩
  · rfl
  · rw [rotation_concat]
    simp [tokenShape]

/-! ## One transaction -/

/-- A token of another router is not among those a re-enrollment revokes. -/
theorem not_mem_old {B : Backend} {db : Db} (h : db.WF B) {t : RouterToken}
    (ht : t ∈ db.routerTokens) {id : Nat} (hid : t.routerId ≠ id) :
    t.id ∉ (db.liveTokens id).map RouterToken.id := by
  intro hm
  obtain ⟨a, ha, hai⟩ := List.mem_map.mp hm
  obtain ⟨hmem, hown, -⟩ := Db.mem_liveTokens.mp ha
  obtain rfl := List.inj_on_of_nodup_map h.tokens hmem ht hai
  exact hid hown

theorem revokeTokens_filter (old : List Nat) (now : Timestamp) (tokens : List RouterToken)
    (id : Nat) : (revokeTokens old now tokens).filter (fun t => t.routerId = id) =
      revokeTokens old now (tokens.filter fun t => t.routerId = id) := by
  have hcomp : (fun t : RouterToken => decide (t.routerId = id)) ∘
      (fun t => if t.id ∈ old then t.revoke now else t) = fun t => decide (t.routerId = id) := by
    funext t
    simp only [Function.comp]
    split <;> rfl
  rw [revokeTokens, List.filter_map, hcomp, revokeTokens]

section Commits

variable {B B' : Backend} {c : Submission} {db : Db}

/-- The tokens of the other routers stay. -/
theorem tokensOf_commitReenroll_of_ne (h : db.WF B') {id id' : Nat} (hid : id' ≠ id)
    (row : Option Router) : (db.commitReenroll B c id row
      ((db.liveTokens id).map RouterToken.id)).tokensOf id' = db.tokensOf id' := by
  have hkeep : revokeTokens ((db.liveTokens id).map RouterToken.id) c.revokedAt
      (db.tokensOf id') = db.tokensOf id' := by
    refine (List.map_congr_left fun t ht => ?_).trans (List.map_id _)
    obtain ⟨hmem, hown⟩ := List.mem_filter.mp ht
    have hne : t.routerId ≠ id := fun he => hid ((of_decide_eq_true hown).symm.trans he)
    exact if_neg (not_mem_old h hmem hne)
  have hnew : ¬ id = id' := fun he => hid he.symm
  simp only [Db.tokensOf, Db.commitReenroll, List.filter_append, revokeTokens_filter] at hkeep ⊢
  simp [hkeep, newToken, hnew]

/-- The router's own are all revoked, and one is added. -/
theorem tokensOf_commitReenroll_self {id : Nat} (row : Option Router) :
    ((db.commitReenroll B c id row ((db.liveTokens id).map RouterToken.id)).tokensOf id).map
      RouterToken.shape = ((db.tokensOf id).map RouterToken.shape).map
        (fun s => (s.1, s.2.1, true)) ++ [tokenShape B false c.minted] := by
  have hrevoked : (revokeTokens ((db.liveTokens id).map RouterToken.id) c.revokedAt
      (db.tokensOf id)).map RouterToken.shape =
        ((db.tokensOf id).map RouterToken.shape).map fun s => (s.1, s.2.1, true) := by
    rw [revokeTokens, List.map_map, List.map_map]
    refine List.map_congr_left fun t ht => ?_
    obtain ⟨hmem, hown⟩ := List.mem_filter.mp ht
    simp only [Function.comp]
    split
    · rfl
    · rename_i hold
      -- A token of the router that is not live is revoked already.
      have hne : t.revokedAt ≠ none := fun hl => hold
        (List.mem_map_of_mem (Db.mem_liveTokens.mpr ⟨hmem, of_decide_eq_true hown, hl⟩))
      simp [RouterToken.shape, Option.isSome_iff_ne_none, hne]
  simp only [Db.tokensOf, Db.commitReenroll, List.filter_append, revokeTokens_filter,
    List.map_append] at hrevoked ⊢
  rw [hrevoked]
  simp [newToken, RouterToken.shape, tokenShape]

theorem tokensOf_commitNew_of_ne {row : Router} {id : Nat} (hid : id ≠ row.id) :
    (db.commitNew B c row).tokensOf id = db.tokensOf id := by
  have hne : ¬ row.id = id := fun h => hid h.symm
  simp [Db.tokensOf, Db.commitNew, newToken, hne]

/-- A new router has the one token it was given. -/
theorem tokensOf_commitNew_self (h : db.WF B') {row : Router}
    (hid : row.id ∉ db.routers.map Router.id) : ((db.commitNew B c row).tokensOf row.id).map
      RouterToken.shape = [tokenShape B false c.minted] := by
  have hnone : db.routerTokens.filter (fun t => t.routerId = row.id) = [] := by
    refine List.filter_eq_nil_iff.mpr fun t ht hown => hid ?_
    rw [← of_decide_eq_true hown]
    exact h.owners t ht
  simp [Db.tokensOf, Db.commitNew, newToken, hnone, RouterToken.shape, tokenShape]

end Commits

section Requests

variable {D : Deployment} {c : Submission} {db : Db}

theorem tokensOf_reenrolled_of_ne {B : Backend} (h : db.WF B) {existing : Router} {id : Nat}
    (hid : id ≠ existing.id) : (db.reenrolled D c existing).tokensOf id = db.tokensOf id :=
  tokensOf_commitReenroll_of_ne (B := D.toBackend) h hid none

theorem tokensOf_reenrolled_self {existing : Router} :
    ((db.reenrolled D c existing).tokensOf existing.id).map RouterToken.shape =
      ((db.tokensOf existing.id).map RouterToken.shape).map (fun s => (s.1, s.2.1, true)) ++
        [tokenShape D.toBackend false c.minted] :=
  tokensOf_commitReenroll_self none

theorem tokensOf_inserted_of_ne {ip : IPv4.Address} {id : Nat} (hid : id ≠ db.routersSeq) :
    (db.inserted D c ip).tokensOf id = db.tokensOf id :=
  tokensOf_commitNew_of_ne hid

theorem tokensOf_inserted_self {B : Backend} (h : db.WF B) {ip : IPv4.Address} :
    ((db.inserted D c ip).tokensOf db.routersSeq).map RouterToken.shape =
      [tokenShape D.toBackend false c.minted] := by
  refine tokensOf_commitNew_self (h.drawn (Nat.le_succ _)) fun hm => ?_
  obtain ⟨r, hr, hid⟩ := List.mem_map.mp hm
  exact absurd (h.routersSeq r hr) (hid ▸ lt_irrefl _)

end Requests

end CpeCloud
