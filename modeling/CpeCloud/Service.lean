import CpeCloud.Lib.Run
import CpeCloud.Telemetry.Push

/-!
# Sequential runs of the service

The two endpoints the routers talk to, taken one request at a time. `serve` is the step, a run is a
list of events, and what Postgres enforces holds in every state of one (`wf_run`).
-/

namespace CpeCloud

universe u

variable {π : Type u}

/-- A request from a router. -/
inductive Event (π : Type u) where
  | enroll (c : EnrollCall)
  | push (c : PushCall π)

/-- The state behind a request. -/
def serve (D : Deployment) (writeTelemetry : Router → π → Except Text Unit) (w : World) :
    Event π → Option World
  | .enroll c => some (autoEnroll D w c).2
  | .push c => some (pushTelemetry D writeTelemetry w c).world

/-! ## What a heartbeat leaves alone -/

/-- `db'` is `db` up to the time one router was last seen. -/
inductive Db.SeenStep (db : Db) : Db → Prop where
  | same : Db.SeenStep db db
  | seen (router : Router) (hrouter : router ∈ db.routers) (now : Timestamp) :
      Db.SeenStep db
        { db with routers := Rows.amend Router.id router.id (Router.seen now) db.routers }

theorem pushTelemetry_db (D : Deployment) (writeTelemetry : Router → π → Except Text Unit)
    (w : World) (c : PushCall π) :
    w.db.SeenStep (pushTelemetry D writeTelemetry w c).world.db := by
  have heff := pushTelemetry_effect D writeTelemetry w c
  generalize pushTelemetry D writeTelemetry w c = res at heff
  cases heff with
  | malformed => exact .same
  | limited => exact .same
  | unknown => exact .same
  | gated => exact .same
  | seen raw router bs hraw hrouter => exact .seen router hrouter c.now

/-- A row after a heartbeat is a row before it, but for the time it was last seen. -/
theorem mem_amend_seen {rows : List Router} {id : Nat} {now : Timestamp} {r : Router}
    (h : r ∈ Rows.amend Router.id id (Router.seen now) rows) :
    ∃ a ∈ rows, ∃ seen, r = { a with lastSeenAt := seen } := by
  obtain ⟨a, ha, rfl⟩ := List.mem_map.mp h
  refine ⟨a, ha, ?_⟩
  split
  · exact ⟨some now, rfl⟩
  · exact ⟨a.lastSeenAt, rfl⟩

theorem Db.WF.seenStep {B : Backend} {db db' : Db} (h : db.WF B) (hs : db.SeenStep db') :
    db'.WF B := by
  cases hs with
  | same => exact h
  | seen router hrouter now =>
    have hkeys : (Rows.amend Router.id router.id (Router.seen now) db.routers).map Router.id =
        db.routers.map Router.id := Rows.amend_keys fun _ hr => hr
    constructor
    · refine h.routers.amend (fun _ _ => Router.clash_symm) (fun _ hr => hr) ?_
      intro r hr hid a ha hak
      exact h.routers.apart a ha r hr (hid ▸ hak)
    · intro r hr
      obtain ⟨a, ha, seen, rfl⟩ := mem_amend_seen hr
      exact h.macs a ha
    · intro r hr
      obtain ⟨a, ha, seen, rfl⟩ := mem_amend_seen hr
      exact h.routersSeq a ha
    · exact h.tokens
    · exact h.tokensSeq
    · intro t ht
      rw [hkeys]
      exact h.owners t ht

/-! ## Runs -/

theorem wf_serve {D : Deployment} {writeTelemetry : Router → π → Except Text Unit} {w w' : World}
    {e : Event π} (h : w.db.WF D.toBackend) (hs : serve D writeTelemetry w e = some w') :
    w'.db.WF D.toBackend := by
  cases e with
  | enroll c =>
    obtain rfl := Option.some.inj hs
    exact wf_autoEnroll c h
  | push c =>
    obtain rfl := Option.some.inj hs
    exact h.seenStep (pushTelemetry_db D writeTelemetry w c)

/-- What Postgres enforces holds throughout a run. -/
theorem wf_run {D : Deployment} {writeTelemetry : Router → π → Except Text Unit} {w w' : World}
    {es : List (Event π)} (h : w.db.WF D.toBackend)
    (hrun : Run.exec (serve D writeTelemetry) w es = some w') : w'.db.WF D.toBackend :=
  Run.exec_induction (P := fun w => w.db.WF D.toBackend) (fun h hs => wf_serve h hs) h hrun

end CpeCloud
