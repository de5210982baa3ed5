import CpeCloud.AutoEnroll.Handler

/-!
# `push_telemetry` (`app/routers/telemetry.py`)

A heartbeat authenticates with a bearer token, passes two rate limits and the state gate, and
moves its router's `last_seen_at`. What it does with the payload is up to the Influx writer, whose
exceptions it swallows; the payload's type and the writer are parameters here.

* `extractBearer_bearer`: the token of `Bearer t` is `t` without surrounding whitespace.
* **`pushTelemetry_effect`**: what a heartbeat can do.
-/

namespace CpeCloud

open Text

universe u

/-- A POST to `/telemetry`. -/
structure PushCall (π : Type u) where
  payload : π
  /-- The `Authorization` header. -/
  authorization : Option Stored
  sourceIp : Text
  /-- `time.monotonic()` at the rate limit by address, and at the one by router. -/
  ipClock : ℚ
  routerClock : ℚ
  /-- `datetime.now` at the liveness update. -/
  now : Timestamp

/-- An answer: a status, and the detail of an `HTTPException`. -/
structure HttpAnswer where
  statusCode : Nat
  detail : Text
  deriving DecidableEq

/-- The value of `ck_routers_status`. -/
def RouterStatus.str : RouterStatus → String
  | .active => "active"
  | .pending => "pending"
  | .decommissioned => "decommissioned"
  | .quarantined => "quarantined"

/-- `s.split(None, 1)`. -/
def splitOnce (s : Text) : List Text :=
  let s := lstrip s
  let word := s.takeWhile fun c => !isSpace c
  let rest := lstrip (s.dropWhile fun c => !isSpace c)
  if s = [] then [] else if rest = [] then [word] else [word, rest]

/-- The answer to a header that is no bearer token. -/
def malformedHeader : HttpAnswer :=
  ⟨401, "malformed Authorization header, expected 'Bearer <token>'".toList⟩

/-- The token among the parts of a header. -/
def bearerOf : List Text → Except HttpAnswer Text
  | [scheme, token] =>
    if scheme.map Char.toLower ≠ "bearer".toList ∨ strip token = [] then .error malformedHeader
    else .ok (strip token)
  | _ => .error malformedHeader

/-- `_extract_bearer`. -/
def extractBearer : Option Stored → Except HttpAnswer Text
  | none | some ⟨[], _⟩ => .error ⟨401, "missing Authorization header".toList⟩
  | some header => bearerOf (splitOnce header.1)

/-- The statuses the state gate turns away. -/
def RouterStatus.gated (s : RouterStatus) : Bool := s = .decommissioned ∨ s = .quarantined

/-- `router_row.last_seen_at = datetime.now(timezone.utc)`. -/
def Router.seen (now : Timestamp) (r : Router) : Router := { r with lastSeenAt := some now }

/-- What a heartbeat ends with. -/
structure Pushed (π : Type u) where
  answer : HttpAnswer
  world : World
  /-- The call of `write_telemetry`, if there was one. -/
  written : Option (Router × π)

variable {π : Type u}

/-- `push_telemetry`, with `write_telemetry` as a parameter. -/
def pushTelemetry (D : Deployment) (writeTelemetry : Router → π → Except Text Unit) (w : World)
    (c : PushCall π) : Pushed π :=
  match extractBearer c.authorization with
  | .error answer => ⟨answer, w, none⟩
  | .ok raw =>
    let ip := checkRateLimit w.buckets "telemetry-ip".toList c.sourceIp c.ipClock
    let w := { w with buckets := ip.2 }
    if ip.1 = false then ⟨⟨429, "rate limit exceeded".toList⟩, w, none⟩
    else
      match findValidRouterToken D.toBackend w.db.routerTokens raw with
      | .error _ => ⟨⟨500, "Internal Server Error".toList⟩, w, none⟩
      | .ok none => ⟨⟨401, "invalid or revoked telemetry token".toList⟩, w, none⟩
      | .ok (some token) =>
        let limit := checkRateLimit w.buckets "telemetry-router".toList
          (Nat.toDigits 10 token.routerId) c.routerClock
        let w := { w with buckets := limit.2 }
        if limit.1 = false then ⟨⟨429, "rate limit exceeded".toList⟩, w, none⟩
        else
          match w.db.routerById token.routerId with
          | none => ⟨⟨401, "invalid or revoked telemetry token".toList⟩, w, none⟩
          | some router =>
            if router.status.gated then
              ⟨⟨403, "router is ".toList ++ router.status.str.toList⟩, w, none⟩
            else
              let db := { w.db with
                routers := Rows.amend Router.id router.id (Router.seen c.now) w.db.routers }
              let written := some (router.seen c.now, c.payload)
              match writeTelemetry (router.seen c.now) c.payload with
              | .ok () => ⟨⟨204, []⟩, { w with db := db }, written⟩
              -- Logged, and still a 204.
              | .error _ => ⟨⟨204, []⟩, { w with db := db }, written⟩

/-! ## The header -/

theorem lstrip_lstrip (s : Text) : lstrip (lstrip s) = lstrip s :=
  List.dropWhile_idempotent _ s

theorem lstrip_eq_nil {s : Text} (h : strip s = []) : lstrip s = [] := by
  have hall : ∀ c ∈ lstrip s, isSpace c = true := List.rdropWhile_eq_nil_iff.mp h
  rw [← lstrip_lstrip]
  exact List.dropWhile_eq_nil_iff.mpr hall

theorem splitOnce_bearer (t : Text) : splitOnce ("Bearer ".toList ++ t) =
    if lstrip t = [] then ["Bearer".toList] else ["Bearer".toList, lstrip t] := by
  simp [splitOnce, lstrip, isSpace]

/-- **The token of `Bearer t`** is `t` without surrounding whitespace, if that leaves anything. -/
theorem extractBearer_bearer {t : Text} (h : storable ("Bearer ".toList ++ t)) :
    extractBearer (some ⟨_, h⟩) =
      if strip t = [] then .error malformedHeader else .ok (strip t) := by
  have hscheme : "Bearer".toList.map Char.toLower = "bearer".toList := by decide
  have hstrip : strip (lstrip t) = strip t := by rw [strip, lstrip_lstrip, strip]
  show bearerOf (splitOnce ("Bearer ".toList ++ t)) = _
  rw [splitOnce_bearer]
  by_cases ht : strip t = []
  · rw [if_pos (lstrip_eq_nil ht), if_pos ht]
    rfl
  · have hl : lstrip t ≠ [] := fun h => ht (by rw [strip, h]; rfl)
    simp only [if_neg hl, bearerOf, hstrip, hscheme, ne_eq, not_true, false_or]

theorem subset_of_mem_splitOnce {s t : Text} (ht : t ∈ splitOnce s) : t ⊆ s := by
  have hword : (lstrip s).takeWhile (fun c => !isSpace c) ⊆ s :=
    List.Subset.trans (List.takeWhile_subset _) (lstrip_subset s)
  have hrest : lstrip ((lstrip s).dropWhile fun c => !isSpace c) ⊆ s :=
    List.Subset.trans (lstrip_subset _)
      (List.Subset.trans (List.dropWhile_sublist _).subset (lstrip_subset s))
  simp only [splitOnce] at ht
  split at ht
  · exact absurd ht List.not_mem_nil
  split at ht
  · obtain rfl := List.mem_singleton.mp ht
    exact hword
  · rcases List.mem_cons.mp ht with rfl | ht
    · exact hword
    · obtain rfl := List.mem_singleton.mp ht
      exact hrest

/-- A header holds no NUL, and neither does its token. -/
theorem storable_of_extractBearer {header : Option Stored} {raw : Text}
    (h : extractBearer header = .ok raw) : storable raw := by
  cases header with
  | none => cases h
  | some header =>
    obtain ⟨text, hstore⟩ := header
    have hbearer : bearerOf (splitOnce text) = .ok raw := by
      cases text with
      | nil => cases h
      | cons a as => exact h
    generalize hparts : splitOnce text = parts at hbearer
    unfold bearerOf at hbearer
    split at hbearer
    · rename_i scheme token
      split at hbearer
      · cases hbearer
      · obtain rfl := Except.ok.inj hbearer
        have hmem : token ∈ splitOnce text := by
          rw [hparts]
          exact List.mem_cons_of_mem _ List.mem_cons_self
        exact fun hnul => hstore (subset_of_mem_splitOnce hmem (strip_subset token hnul))
    · cases hbearer

/-! ## What a heartbeat does -/

/-- The token authenticates the router with this id. -/
def Resolves (D : Deployment) (w : World) (raw : Text) (id : Nat) : Prop :=
  ∃ token, findValidRouterToken D.toBackend w.db.routerTokens raw = .ok (some token) ∧
    token.routerId = id ∧ ∃ r ∈ w.db.routers, r.id = id

/-- What a heartbeat can do. -/
inductive PushEffect (D : Deployment) (w : World) (c : PushCall π) : Pushed π → Prop where
  /-- Its header has no token. -/
  | malformed (answer : HttpAnswer) (hraw : extractBearer c.authorization = .error answer) :
      PushEffect D w c ⟨answer, w, none⟩
  /-- It is rate limited. -/
  | limited (bs : Buckets) :
      PushEffect D w c ⟨⟨429, "rate limit exceeded".toList⟩, { w with buckets := bs }, none⟩
  /-- Its token authenticates nobody. -/
  | unknown (raw : Text) (bs : Buckets) (hraw : extractBearer c.authorization = .ok raw)
      (hno : ∀ id, ¬ Resolves D w raw id) :
      PushEffect D w c
        ⟨⟨401, "invalid or revoked telemetry token".toList⟩, { w with buckets := bs }, none⟩
  /-- Its router is turned away. -/
  | gated (raw : Text) (router : Router) (bs : Buckets)
      (hraw : extractBearer c.authorization = .ok raw) (hrouter : router ∈ w.db.routers)
      (hres : Resolves D w raw router.id) (hgate : router.status.gated = true) :
      PushEffect D w c
        ⟨⟨403, "router is ".toList ++ router.status.str.toList⟩, { w with buckets := bs }, none⟩
  /-- It moves its router's `last_seen_at`. -/
  | seen (raw : Text) (router : Router) (bs : Buckets)
      (hraw : extractBearer c.authorization = .ok raw) (hrouter : router ∈ w.db.routers)
      (hres : Resolves D w raw router.id) (hgate : router.status.gated = false) :
      PushEffect D w c ⟨⟨204, []⟩, { w with
        buckets := bs
        db := { w.db with
          routers := Rows.amend Router.id router.id (Router.seen c.now) w.db.routers } },
        some (router.seen c.now, c.payload)⟩

/-- **What a heartbeat can do**, whatever the writer. -/
theorem pushTelemetry_effect (D : Deployment) (writeTelemetry : Router → π → Except Text Unit)
    (w : World) (c : PushCall π) : PushEffect D w c (pushTelemetry D writeTelemetry w c) := by
  unfold pushTelemetry
  cases hraw : extractBearer c.authorization with
  | error answer => exact .malformed answer hraw
  | ok raw =>
    simp only
    split
    · exact .limited _
    obtain ⟨found, hfind⟩ := findValidRouterToken_ok
      (storable_prefixOf (storable_of_extractBearer hraw)) D.toBackend w.db.routerTokens
    simp only [hfind]
    cases found with
    | none =>
      refine .unknown raw _ hraw fun id hid => ?_
      obtain ⟨token, h, -⟩ := hid
      rw [hfind] at h
      cases h
    | some token =>
      simp only
      split
      · exact .limited _
      cases hid : w.db.routerById token.routerId with
      | none =>
        refine .unknown raw _ hraw fun id hres => ?_
        obtain ⟨token', h, hid', r, hr, hrid⟩ := hres
        obtain rfl := Option.some.inj (Except.ok.inj (hfind.symm.trans h))
        rw [Db.routerById, List.find?_eq_none] at hid
        exact hid r hr (by simp [hrid, hid'])
      | some router =>
        obtain ⟨hrouter, hrid⟩ := Db.routerById_some hid
        have hres : Resolves D w raw router.id := ⟨token, hfind, hrid.symm, router, hrouter, rfl⟩
        simp only
        split
        · rename_i hgate
          exact .gated raw router _ hraw hrouter hres hgate
        · rename_i hgate
          have hgate : router.status.gated = false := by simpa using hgate
          split
          · exact .seen raw router _ hraw hrouter hres hgate
          · exact .seen raw router _ hraw hrouter hres hgate

/-- A heartbeat at the second `now`. -/
def smallPush (authorization : Stored) (now : Nat) : PushCall Unit :=
  ⟨(), some authorization, "192.0.2.7".toList, now, now, now * 1000000⟩

end CpeCloud
