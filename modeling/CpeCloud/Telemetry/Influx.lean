import CpeCloud.Telemetry.Push

/-!
# The Influx writer (`app/services/influx.py`) and liveness

`get_client` fills a singleton, outside the `try` of `write_telemetry`; what comes behind it is
caught inside. What the Influx client does, and how a payload becomes points, is up to an
`InfluxSide`, which may fail at each of its calls.

* `pushHeartbeat_pushed`: with either of two Influx sides, a heartbeat does the same.
* **`influx_liveness`**: what a heartbeat does to the world does not depend on the Influx side.
  `last_seen_at` moves with a 204 only, and so does a write.
-/

namespace CpeCloud

universe u v v' x x'

/-- What `write_telemetry` calls: the settings' token, `InfluxDBClientAsync(…)`, the point
builders, `client.write_api()` and `write_api.write(…)`. Each call may raise. -/
structure InfluxSide (π : Type u) (Client : Type v) (Point : Type x) where
  influxToken : Text
  construct : Except Text Client
  buildPoints : Router → π → Except Text (List Point)
  writeApi : Client → Except Text Unit
  write : Client → List Point → Except Text Unit

/-- How a call of `write_telemetry` ends: with what it raises, with the singleton client behind it,
and with the records it has tried to write. -/
structure WriteRun (Client : Type v) (Point : Type x) where
  result : Except Text Unit
  client : Option Client
  attempts : List (List Point)

variable {π : Type u} {Client : Type v} {Point : Type x}

/-- `get_client`, with the singleton it finds and the one it leaves. -/
def getClient (I : InfluxSide π Client Point) :
    Option Client → Except Text (Option Client) × Option Client
  | some client => (.ok (some client), some client)
  | none =>
    if I.influxToken = [] then (.ok none, none)
    else
      match I.construct with
      | .error e => (.error e, none)
      | .ok client => (.ok (some client), some client)

/-- `write_telemetry`. -/
def writeTelemetry (I : InfluxSide π Client Point) (singleton : Option Client) (router : Router)
    (payload : π) : WriteRun Client Point :=
  match getClient I singleton with
  -- Not inside the `try`: it goes to the caller.
  | (.error e, singleton) => ⟨.error e, singleton, []⟩
  | (.ok none, singleton) => ⟨.ok (), singleton, []⟩
  | (.ok (some client), singleton) =>
    match I.buildPoints router payload with
    | .error _ => ⟨.ok (), singleton, []⟩
    | .ok records =>
      match I.writeApi client with
      | .error _ => ⟨.ok (), singleton, []⟩
      | .ok () =>
        match I.write client records with
        | .error _ => ⟨.ok (), singleton, [records]⟩
        | .ok () => ⟨.ok (), singleton, [records]⟩

/-- What a heartbeat ends with, on both sides. -/
structure Heartbeat (π : Type u) (Client : Type v) (Point : Type x) where
  pushed : Pushed π
  client : Option Client
  attempts : List (List Point)

/-- `push_telemetry`, with its Influx writer. -/
def pushHeartbeat (D : Deployment) (I : InfluxSide π Client Point) (singleton : Option Client)
    (w : World) (c : PushCall π) : Heartbeat π Client Point :=
  let run := writeTelemetry I singleton
  let pushed := pushTelemetry D (fun router payload => (run router payload).result) w c
  match pushed.written with
  | none => ⟨pushed, singleton, []⟩
  | some (router, payload) =>
    ⟨pushed, (run router payload).client, (run router payload).attempts⟩

/-- The router that the header's token speaks for. -/
def presentedRouter (D : Deployment) (w : World) (authorization : Option Stored) : Option Nat :=
  match extractBearer authorization with
  | .error _ => none
  | .ok raw =>
    match findValidRouterToken D.toBackend w.db.routerTokens raw with
    | .error _ => none
    | .ok token => token.map RouterToken.routerId

/-! ## One call -/

/-- A call writes at most once. -/
theorem writeTelemetry_attempts (I : InfluxSide π Client Point) (singleton : Option Client)
    (router : Router) (payload : π) :
    (writeTelemetry I singleton router payload).attempts.length ≤ 1 := by
  unfold writeTelemetry
  split
  · exact Nat.zero_le 1
  · exact Nat.zero_le 1
  · split
    · exact Nat.zero_le 1
    · split
      · exact Nat.zero_le 1
      · split <;> exact le_rfl

/-- Whether the writer raises makes no difference to the endpoint. -/
theorem pushTelemetry_writer (D : Deployment) (write write' : Router → π → Except Text Unit)
    (w : World) (c : PushCall π) : pushTelemetry D write w c = pushTelemetry D write' w c := by
  unfold pushTelemetry
  cases extractBearer c.authorization with
  | error answer => rfl
  | ok raw =>
    simp only
    split
    · rfl
    split
    · rfl
    · rfl
    · rename_i token _
      split
      · rfl
      cases w.db.routerById token.routerId with
      | none => rfl
      | some router =>
        simp only
        split
        · rfl
        -- the call is the last step, and both of its branches answer alike
        cases write (router.seen c.now) c.payload <;>
          cases write' (router.seen c.now) c.payload <;> rfl

theorem pushHeartbeat_pushed (D : Deployment) (I : InfluxSide π Client Point)
    (singleton : Option Client) (w : World) (c : PushCall π) :
    (pushHeartbeat D I singleton w c).pushed = pushTelemetry D (fun _ _ => .ok ()) w c := by
  rw [← pushTelemetry_writer D (fun r p => (writeTelemetry I singleton r p).result)]
  unfold pushHeartbeat
  simp only
  split <;> rfl

theorem pushHeartbeat_attempts (D : Deployment) (I : InfluxSide π Client Point)
    (singleton : Option Client) (w : World) (c : PushCall π) :
    (pushHeartbeat D I singleton w c).attempts.length ≤ 1 ∧
      ((pushHeartbeat D I singleton w c).pushed.written = none →
        (pushHeartbeat D I singleton w c).attempts = []) := by
  unfold pushHeartbeat
  simp only
  split
  · exact ⟨Nat.zero_le 1, fun _ => rfl⟩
  · rename_i router payload hwritten
    refine ⟨writeTelemetry_attempts I singleton router payload, fun hnone => ?_⟩
    rw [hwritten] at hnone
    cases hnone

/-! ## Liveness -/

theorem extractBearer_error {authorization : Option Stored} {answer : HttpAnswer}
    (h : extractBearer authorization = .error answer) : answer.statusCode = 401 := by
  unfold extractBearer at h
  split at h
  · obtain rfl := Except.error.inj h
    rfl
  · obtain rfl := Except.error.inj h
    rfl
  · unfold bearerOf at h
    split at h
    · split at h
      · obtain rfl := Except.error.inj h
        rfl
      · cases h
    · obtain rfl := Except.error.inj h
      rfl

theorem presentedRouter_of_resolves {D : Deployment} {w : World} {authorization : Option Stored}
    {raw : Text} {id : Nat} (hraw : extractBearer authorization = .ok raw)
    (hres : Resolves D w raw id) : presentedRouter D w authorization = some id := by
  obtain ⟨token, hfind, hid, -⟩ := hres
  rw [presentedRouter, hraw]
  simp only [hfind, Option.map_some, hid]

/-- What a heartbeat does to liveness. -/
structure Lively (D : Deployment) (w : World) (c : PushCall π) (p : Pushed π) : Prop where
  /-- With a 204 the router of the token was seen now, and nothing else changes. -/
  db : p.world.db = { w.db with
    routers := w.db.routers.map fun r =>
      if p.answer.statusCode = 204 ∧ presentedRouter D w c.authorization = some r.id then
        r.seen c.now
      else r }
  /-- That router is there. -/
  own : p.answer.statusCode = 204 →
    ∃ r ∈ w.db.routers, presentedRouter D w c.authorization = some r.id
  /-- `write_telemetry` is called with a 204 only. -/
  written : p.written ≠ none → p.answer.statusCode = 204

theorem lively_of_refused {D : Deployment} {w : World} {c : PushCall π} {p : Pushed π}
    (hdb : p.world.db = w.db) (hno : p.answer.statusCode ≠ 204) (hwritten : p.written = none) :
    Lively D w c p where
  db := by simp [hdb, hno]
  own := fun h => absurd h hno
  written := fun h => absurd hwritten h

theorem pushTelemetry_lively (D : Deployment) (write : Router → π → Except Text Unit) (w : World)
    (c : PushCall π) : Lively D w c (pushTelemetry D write w c) := by
  have heff := pushTelemetry_effect D write w c
  generalize pushTelemetry D write w c = p at heff
  cases heff with
  | malformed answer hraw =>
    exact lively_of_refused rfl (by simp [extractBearer_error hraw]) rfl
  | limited bs => exact lively_of_refused rfl (by simp) rfl
  | unknown raw bs => exact lively_of_refused rfl (by simp) rfl
  | gated raw router bs => exact lively_of_refused rfl (by simp) rfl
  | seen raw router bs hraw hrouter hres hgate =>
    have hown := presentedRouter_of_resolves hraw hres
    refine ⟨?_, fun _ => ⟨router, hrouter, hown⟩, fun _ => rfl⟩
    simp only [hown, Rows.amend, true_and, Option.some.injEq, eq_comm]

/-- The `last_seen_at` column. -/
def Db.lastSeen (db : Db) : List (Option Timestamp) := db.routers.map Router.lastSeenAt

/-- At a clock reading that no row holds, the column changes with a 204 and with nothing else. -/
theorem Lively.lastSeen_iff {D : Deployment} {w : World} {c : PushCall π} {p : Pushed π}
    (h : Lively D w c p) (hnow : ∀ r ∈ w.db.routers, r.lastSeenAt ≠ some c.now) :
    p.world.db.lastSeen ≠ w.db.lastSeen ↔ p.answer.statusCode = 204 := by
  rw [Db.lastSeen, Db.lastSeen, h.db]
  simp only [List.map_map]
  constructor
  · intro hne
    by_contra hno
    refine hne (List.map_congr_left fun r _ => ?_)
    simp [hno]
  · intro hok heq
    obtain ⟨r, hr, hown⟩ := h.own hok
    have hrow := List.map_inj_left.mp heq r hr
    simp only [Function.comp, hok, hown, true_and, if_true] at hrow
    exact hnow r hr hrow.symm

/-- **Influx can never affect liveness.** -/
theorem influx_liveness {Client' : Type v'} {Point' : Type x'} (D : Deployment)
    (I : InfluxSide π Client Point) (I' : InfluxSide π Client' Point')
    (singleton : Option Client) (singleton' : Option Client') (w : World) (c : PushCall π) :
    (pushHeartbeat D I singleton w c).pushed.answer =
        (pushHeartbeat D I' singleton' w c).pushed.answer ∧
      (pushHeartbeat D I singleton w c).pushed.world =
        (pushHeartbeat D I' singleton' w c).pushed.world ∧
      Lively D w c (pushHeartbeat D I singleton w c).pushed ∧
      ((∀ r ∈ w.db.routers, r.lastSeenAt ≠ some c.now) →
        ((pushHeartbeat D I singleton w c).pushed.world.db.lastSeen ≠ w.db.lastSeen ↔
          (pushHeartbeat D I singleton w c).pushed.answer.statusCode = 204)) ∧
      (pushHeartbeat D I singleton w c).attempts.length ≤ 1 ∧
      ((pushHeartbeat D I singleton w c).attempts ≠ [] →
        (pushHeartbeat D I singleton w c).pushed.answer.statusCode = 204) := by
  have hlively : Lively D w c (pushHeartbeat D I singleton w c).pushed := by
    rw [pushHeartbeat_pushed]
    exact pushTelemetry_lively D _ w c
  obtain ⟨hone, hnone⟩ := pushHeartbeat_attempts D I singleton w c
  have hsame : (pushHeartbeat D I singleton w c).pushed =
      (pushHeartbeat D I' singleton' w c).pushed := by
    rw [pushHeartbeat_pushed, pushHeartbeat_pushed]
  refine ⟨congrArg _ hsame, congrArg _ hsame, hlively, hlively.lastSeen_iff, hone, fun h => ?_⟩
  exact hlively.written fun hwritten => h (hnone hwritten)

end CpeCloud
