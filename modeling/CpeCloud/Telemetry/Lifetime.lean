import CpeCloud.AutoEnroll.Rotation
import CpeCloud.Service

/-!
# Whom a telemetry token speaks for

A `Ledger` notes, for each serial, the tokens minted by its committed enrollments. `Rotated` says
that the token table is that ledger: of a router's tokens all are revoked but the last.

* **`resolves_iff`**: a token authenticates a router iff it is the last one in the ledger of the
  router's serial.
* **`token_speaks_for_router`**: in every state of a run a token authenticates the router of which it
  is the last one in the ledger, and the answer to a heartbeat follows.
-/

namespace CpeCloud

open Text

universe u

variable {π : Type u}

/-! ## The ledger -/

/-- The tokens minted for each serial, in the order of their commits. -/
abbrev Ledger := Text → List Text

open Classical in
/-- The ledger behind an event. -/
noncomputable def Ledger.record (D : Deployment) (w : World) (m : Ledger) : Event π → Ledger
  | .enroll c =>
    if Admissible D w c then
      Function.update m c.payload.serial (m c.payload.serial ++ [c.minted])
    else m
  | .push _ => m

/-- A step of the service, with the ledger kept next to it. -/
noncomputable def serveNoted (D : Deployment) (writeTelemetry : Router → π → Except Text Unit)
    (s : World × Ledger) (e : Event π) : Option (World × Ledger) :=
  (serve D writeTelemetry s.1 e).map fun w => (w, Ledger.record D s.1 s.2 e)

/-- The token table is the ledger. -/
structure Rotated (B : Backend) (db : Db) (m : Ledger) : Prop where
  tokens : ∀ r ∈ db.routers, (db.tokensOf r.id).map RouterToken.shape =
    rotation B (m r.serialNumber)
  fresh : ∀ serial, (∀ r ∈ db.routers, r.serialNumber ≠ serial) → m serial = []

/-! ## Runs keep it -/

section Steps

variable {D : Deployment} {db : Db} {m : Ledger}

theorem Rotated.inserted (h : Rotated D.toBackend db m) (hwf : db.WF D.toBackend) {c : Submission}
    {ip : IPv4.Address} (hnew : db.routerBySerial c.payload.serial = none) :
    Rotated D.toBackend (db.inserted D c ip)
      (Function.update m c.payload.serial (m c.payload.serial ++ [c.minted])) := by
  have hserial := Db.routerBySerial_none.mp hnew
  constructor
  · intro r hr
    rcases mem_inserted.mp hr with hr | rfl
    · rw [tokensOf_inserted_of_ne (hwf.routersSeq r hr).ne, Function.update_of_ne (hserial r hr)]
      exact h.tokens r hr
    · show ((db.inserted D c ip).tokensOf db.routersSeq).map RouterToken.shape =
        rotation D.toBackend (Function.update m c.payload.serial _ c.payload.serial)
      rw [Function.update_self, h.fresh _ hserial, tokensOf_inserted_self hwf, List.nil_append]
      rfl
  · intro serial hs
    have hne : serial ≠ c.payload.serial := fun he =>
      hs _ (mem_inserted.mpr (Or.inr rfl)) he.symm
    rw [Function.update_of_ne hne]
    exact h.fresh serial fun r hr => hs r (mem_inserted.mpr (Or.inl hr))

theorem Rotated.reenrolled (h : Rotated D.toBackend db m) (hwf : db.WF D.toBackend)
    {c : Submission} {existing : Router}
    (hold : db.routerBySerial c.payload.serial = some existing) :
    Rotated D.toBackend (db.reenrolled D c existing)
      (Function.update m c.payload.serial (m c.payload.serial ++ [c.minted])) := by
  obtain ⟨hex, hserial⟩ := Db.routerBySerial_some hold
  constructor
  · intro r hr
    rcases (mem_reenrolled hwf hex).mp hr with ⟨hr, hid⟩ | rfl
    · have hs : r.serialNumber ≠ c.payload.serial := fun hs =>
        hid (by rw [hwf.eq_of_serial hr hex (hs.trans hserial.symm)])
      rw [tokensOf_reenrolled_of_ne hwf hid, Function.update_of_ne hs]
      exact h.tokens r hr
    · show ((db.reenrolled D c existing).tokensOf existing.id).map RouterToken.shape =
        rotation D.toBackend (Function.update m c.payload.serial _ existing.serialNumber)
      rw [hserial, Function.update_self, tokensOf_reenrolled_self, h.tokens existing hex, hserial,
        rotation_revoked, rotation_concat]
  · intro serial hs
    have hne : serial ≠ c.payload.serial := fun he =>
      hs _ ((mem_reenrolled hwf hex).mpr (Or.inr rfl)) (hserial.trans he.symm)
    rw [Function.update_of_ne hne]
    refine h.fresh serial fun r hr he => ?_
    by_cases hid : r.id = existing.id
    · exact hne (by rw [← he, hwf.eq_of_id hr hex hid, hserial])
    · exact hs r ((mem_reenrolled hwf hex).mpr (Or.inl ⟨hr, hid⟩)) he

theorem Rotated.of_same {B : Backend} {db db' : Db} (h : Rotated B db m)
    (hr : db'.routers = db.routers) (ht : db'.routerTokens = db.routerTokens) :
    Rotated B db' m := by
  constructor
  · rw [hr]
    intro r hm
    rw [Db.tokensOf, ht]
    exact h.tokens r hm
  · rw [hr]
    exact h.fresh

theorem Rotated.seenStep {B : Backend} (h : Rotated B db m) {db' : Db} (hs : db.SeenStep db') :
    Rotated B db' m := by
  cases hs with
  | same => exact h
  | seen router hrouter now =>
    constructor
    · intro r hr
      obtain ⟨a, ha, seen, rfl⟩ := mem_amend_seen hr
      exact h.tokens a ha
    · intro serial hserial
      refine h.fresh serial fun r hr hs => ?_
      have hm : (if r.id = router.id then r.seen now else r) ∈
          Rows.amend Router.id router.id (Router.seen now) db.routers :=
        List.mem_map_of_mem hr
      refine hserial _ hm ?_
      split <;> exact hs

theorem rotated_serveNoted {writeTelemetry : Router → π → Except Text Unit} {s s' : World × Ledger}
    {e : Event π} (hwf : s.1.db.WF D.toBackend) (h : Rotated D.toBackend s.1.db s.2)
    (hs : serveNoted D writeTelemetry s e = some s') : Rotated D.toBackend s'.1.db s'.2 := by
  cases e with
  | push c =>
    obtain rfl := Option.some.inj hs
    exact h.seenStep (pushTelemetry_db D writeTelemetry s.1 c)
  | enroll c =>
    obtain rfl := Option.some.inj hs
    have hserved := autoEnroll_served hwf c
    simp only [Ledger.record]
    generalize autoEnroll D s.1 c = res at hserved
    cases hserved with
    | refused o w' why ho hdb hhost =>
      rw [if_neg why]
      exact h.of_same hdb.routers hdb.routerTokens
    | committed o w' enrolled db hadm hrow ho hdb hhost =>
      have heff := enrollRow_effect D c.toSubmission s.1.db
      rw [hrow] at heff
      rw [if_pos hadm]
      have hdb' : Rotated D.toBackend db
          (Function.update s.2 c.payload.serial (s.2 c.payload.serial ++ [c.minted])) := by
        cases heff with
        | inserted ip hnew => exact h.inserted hwf hnew
        | reenrolled existing hold => exact h.reenrolled hwf hold
      exact hdb'.of_same hdb.routers hdb.routerTokens

/-- Every run keeps the table and the ledger together. -/
theorem rotated_run {writeTelemetry : Router → π → Except Text Unit} {s s' : World × Ledger}
    {es : List (Event π)} (hwf : s.1.db.WF D.toBackend) (h : Rotated D.toBackend s.1.db s.2)
    (hrun : Run.exec (serveNoted D writeTelemetry) s es = some s') :
    s'.1.db.WF D.toBackend ∧ Rotated D.toBackend s'.1.db s'.2 :=
  Run.exec_induction (P := fun s => s.1.db.WF D.toBackend ∧ Rotated D.toBackend s.1.db s.2)
    (fun {s e s'} h hs => by
      refine ⟨?_, rotated_serveNoted h.1 h.2 hs⟩
      obtain ⟨w, hw, rfl⟩ := Option.map_eq_some_iff.mp hs
      exact wf_serve h.1 hw) ⟨hwf, h⟩ hrun

end Steps

/-! ## Tokens -/

/-- The tokens can be told apart: minted ones are distinct and longer than a prefix, and the hash
does not confuse them with each other or with `raw`. -/
structure Distinguishable (B : Backend) (m : Ledger) (raw : Text) : Prop where
  nodup : ∀ serial, (m serial).Nodup
  apart : ∀ serial serial', serial ≠ serial' → ∀ x ∈ m serial, x ∉ m serial'
  long : ∀ serial, ∀ x ∈ m serial, prefixLen < x.length
  injective : ∀ x y, (x = raw ∨ ∃ serial, x ∈ m serial) → (y = raw ∨ ∃ serial, y ∈ m serial) →
    hashToken B x = hashToken B y → x = y

/-- What is not revoked in a rotation is its last row. -/
theorem live_mem_rotation {B : Backend} {ms : List Text} {s : Text × Text × Bool}
    (h : s ∈ rotation B ms) (hlive : s.2.2 = false) :
    ∃ x, ms.getLast? = some x ∧ s = tokenShape B false x := by
  rcases List.mem_append.mp h with h | h
  · obtain ⟨x, -, rfl⟩ := List.mem_map.mp h
    cases hlive
  · obtain ⟨x, hx, rfl⟩ := List.mem_map.mp h
    exact ⟨x, Option.mem_toList.mp hx, rfl⟩

section Tokens

variable {D : Deployment} {w : World} {m : Ledger} {raw : Text}

/-- A live token of a router that hashes like `raw` is the last one minted for its serial, and it
is `raw`. -/
theorem last_of_live (h : Rotated D.toBackend w.db m) (hd : Distinguishable D.toBackend m raw)
    {r : Router} (hr : r ∈ w.db.routers) {token : RouterToken} (ht : token ∈ w.db.routerTokens)
    (hown : token.routerId = r.id) (hlive : token.revokedAt = none)
    (hhash : token.tokenHash = hashToken D.toBackend raw) :
    (m r.serialNumber).getLast? = some raw := by
  have hmem : token.shape ∈ rotation D.toBackend (m r.serialNumber) := by
    rw [← h.tokens r hr]
    exact List.mem_map_of_mem (List.mem_filter.mpr ⟨ht, by simp [hown]⟩)
  obtain ⟨x, hx, hshape⟩ := live_mem_rotation hmem (by simp [RouterToken.shape, hlive])
  have hxm : x ∈ m r.serialNumber := List.mem_of_getLast? hx
  have heq : hashToken D.toBackend x = hashToken D.toBackend raw := by
    rw [← hhash]
    exact (congrArg Prod.fst hshape).symm
  rw [hx, hd.injective x raw (Or.inr ⟨_, hxm⟩) (Or.inl rfl) heq]

/-- **A token authenticates a router iff it is the last one minted for its serial.** -/
theorem resolves_iff (hwf : w.db.WF D.toBackend) (h : Rotated D.toBackend w.db m)
    (hd : Distinguishable D.toBackend m raw) (hstore : storable raw) {r : Router}
    (hr : r ∈ w.db.routers) : Resolves D w raw r.id ↔ (m r.serialNumber).getLast? = some raw := by
  constructor
  · rintro ⟨token, hfind, hown, -⟩
    obtain ⟨ht, hlive, hhash⟩ := findValidRouterToken_some hfind
    exact last_of_live h hd hr ht hown hlive hhash
  · intro hlast
    have hmem : raw ∈ m r.serialNumber := List.mem_of_getLast? hlast
    have hshape : tokenShape D.toBackend false raw ∈
        (w.db.tokensOf r.id).map RouterToken.shape := by
      rw [h.tokens r hr]
      refine List.mem_append_right _ (List.mem_map_of_mem ?_)
      exact Option.mem_toList.mpr hlast
    obtain ⟨row, hrow, hrs⟩ := List.mem_map.mp hshape
    simp only [RouterToken.shape, tokenShape, Prod.mk.injEq, Option.isSome_eq_false_iff,
      Option.isNone_iff_eq_none] at hrs
    obtain ⟨token, hfind⟩ := findValidRouterToken_found (hd.long _ raw hmem).le
      (storable_prefixOf hstore) (List.mem_filter.mp hrow).1 hrs.2.1 hrs.2.2 hrs.1
    refine ⟨token, hfind, ?_, r, hr, rfl⟩
    -- Another router with a live token of this hash would have minted it too.
    obtain ⟨ht, hlive, hhash⟩ := findValidRouterToken_some hfind
    obtain ⟨r', hr', hid⟩ := List.mem_map.mp (hwf.owners token ht)
    have hlast' := last_of_live h hd hr' ht hid.symm hlive hhash
    have hserial : r'.serialNumber = r.serialNumber := by
      by_contra hne
      exact hd.apart _ _ hne raw (List.mem_of_getLast? hlast') hmem
    rw [← hid, hwf.eq_of_serial hr' hr hserial]

/-- A token that was superseded is the last one of no serial. -/
theorem not_last_of_superseded (hd : Distinguishable D.toBackend m raw) {serial : Text}
    (hraw : raw ∈ (m serial).dropLast) (serial' : Text) : (m serial').getLast? ≠ some raw := by
  intro hlast
  have hmem : raw ∈ m serial := List.dropLast_subset _ hraw
  have hserial : serial' = serial := by
    by_contra hne
    exact hd.apart _ _ hne raw (List.mem_of_getLast? hlast) hmem
  subst hserial
  have hsplit := List.dropLast_append_getLast? raw hlast
  have hnodup := hd.nodup serial'
  rw [← hsplit, List.nodup_append] at hnodup
  exact hnodup.2.2 raw hraw raw List.mem_cons_self rfl

end Tokens

/-! ## Heartbeats -/

theorem Resolves.unique {D : Deployment} {w : World} {raw : Text} {a b : Nat}
    (ha : Resolves D w raw a) (hb : Resolves D w raw b) : a = b := by
  obtain ⟨token, hfind, rfl, -⟩ := ha
  obtain ⟨token', hfind', rfl, -⟩ := hb
  rw [Option.some.inj (Except.ok.inj (hfind.symm.trans hfind'))]

theorem not_resolves_nil (D : Deployment) (w : World) (id : Nat) : ¬ Resolves D w [] id := by
  rintro ⟨token, hfind, -⟩
  rw [findValidRouterToken, if_pos (by decide)] at hfind
  cases hfind

/-- The answer to a heartbeat that is not rate limited: it depends on whom the token
authenticates. -/
structure Answered (D : Deployment) (w : World) (c : PushCall π) (raw : Text) (p : Pushed π) :
    Prop where
  seen : ∀ r ∈ w.db.routers, Resolves D w raw r.id → r.status.gated = false →
    p.answer.statusCode = 204 ∧ p.world.db = { w.db with
      routers := Rows.amend Router.id r.id (Router.seen c.now) w.db.routers }
  gated : ∀ r ∈ w.db.routers, Resolves D w raw r.id → r.status.gated = true →
    p.answer.statusCode = 403 ∧ p.world.db = w.db
  unknown : (∀ r ∈ w.db.routers, ¬ Resolves D w raw r.id) →
    p.answer.statusCode = 401 ∧ p.world.db = w.db

theorem pushTelemetry_answered {D : Deployment} {writeTelemetry : Router → π → Except Text Unit}
    {w : World} (hwf : w.db.WF D.toBackend) {c : PushCall π} {t : Text}
    (hheader : c.authorization.map Subtype.val = some ("Bearer ".toList ++ t))
    (hlimit : (pushTelemetry D writeTelemetry w c).answer.statusCode ≠ 429) :
    Answered D w c (strip t) (pushTelemetry D writeTelemetry w c) := by
  obtain ⟨⟨header, hstore⟩, hauth, rfl⟩ := Option.map_eq_some_iff.mp hheader
  have hbearer := extractBearer_bearer hstore
  rw [← hauth] at hbearer
  have hok {raw : Text} (hraw : extractBearer c.authorization = .ok raw) : raw = strip t := by
    rw [hbearer] at hraw
    split at hraw
    · cases hraw
    · exact (Except.ok.inj hraw).symm
  have heff := pushTelemetry_effect D writeTelemetry w c
  generalize pushTelemetry D writeTelemetry w c = res at heff hlimit
  cases heff with
  | malformed answer hraw =>
    rw [hbearer] at hraw
    split at hraw
    · rename_i hblank
      obtain rfl := Except.error.inj hraw
      rw [hblank]
      exact ⟨fun r _ hres => absurd hres (not_resolves_nil _ _ _),
        fun r _ hres => absurd hres (not_resolves_nil _ _ _), fun _ => ⟨rfl, rfl⟩⟩
    · cases hraw
  | limited bs => exact absurd rfl hlimit
  | unknown raw bs hraw hno =>
    obtain rfl := hok hraw
    exact ⟨fun r _ hres => absurd hres (hno _), fun r _ hres => absurd hres (hno _),
      fun _ => ⟨rfl, rfl⟩⟩
  | gated raw router bs hraw hrouter hres hgate =>
    obtain rfl := hok hraw
    have hsame {r : Router} (hr : r ∈ w.db.routers) (h : Resolves D w (strip t) r.id) :
        r = router := hwf.eq_of_id hr hrouter (h.unique hres)
    constructor
    · intro r hr h hg
      rw [hsame hr h, hgate] at hg
      cases hg
    · exact fun r hr h _ => ⟨rfl, rfl⟩
    · exact fun h => absurd hres (h router hrouter)
  | seen raw router bs hraw hrouter hres hgate =>
    obtain rfl := hok hraw
    have hsame {r : Router} (hr : r ∈ w.db.routers) (h : Resolves D w (strip t) r.id) :
        r = router := hwf.eq_of_id hr hrouter (h.unique hres)
    constructor
    · intro r hr h _
      rw [hsame hr h]
      exact ⟨rfl, rfl⟩
    · intro r hr h hg
      rw [hsame hr h, hgate] at hg
      cases hg
    · exact fun h => absurd hres (h router hrouter)

/-- **A telemetry token speaks for its router, until the next enrollment.** -/
theorem token_speaks_for_router {D : Deployment} {writeTelemetry : Router → π → Except Text Unit}
    {w w' : World} {m : Ledger} {es : List (Event π)} (hwf : w.db.WF D.toBackend)
    (htokens : w.db.routerTokens = [])
    (hrun : Run.exec (serveNoted D writeTelemetry) (w, fun _ => []) es = some (w', m))
    {c : PushCall π} {t : Text} (hheader : c.authorization.map Subtype.val = some ("Bearer ".toList ++ t))
    (hd : Distinguishable D.toBackend m (strip t))
    (hlimit : (pushTelemetry D writeTelemetry w' c).answer.statusCode ≠ 429) :
    (∀ r ∈ w'.db.routers,
      Resolves D w' (strip t) r.id ↔ (m r.serialNumber).getLast? = some (strip t)) ∧
    (∀ r ∈ w'.db.routers, (m r.serialNumber).getLast? = some (strip t) →
      (r.status.gated = false → (pushTelemetry D writeTelemetry w' c).answer.statusCode = 204 ∧
        (pushTelemetry D writeTelemetry w' c).world.db = { w'.db with
          routers := Rows.amend Router.id r.id (Router.seen c.now) w'.db.routers }) ∧
      (r.status.gated = true → (pushTelemetry D writeTelemetry w' c).answer.statusCode = 403 ∧
        (pushTelemetry D writeTelemetry w' c).world.db = w'.db)) ∧
    ((∀ r ∈ w'.db.routers, (m r.serialNumber).getLast? ≠ some (strip t)) →
      (pushTelemetry D writeTelemetry w' c).answer.statusCode = 401 ∧
        (pushTelemetry D writeTelemetry w' c).world.db = w'.db) ∧
    (∀ serial, strip t ∈ (m serial).dropLast →
      (pushTelemetry D writeTelemetry w' c).answer.statusCode = 401) := by
  have hstart : Rotated D.toBackend w.db (fun _ => []) :=
    ⟨fun r _ => by simp [Db.tokensOf, htokens], fun _ _ => rfl⟩
  obtain ⟨hwf', hrot⟩ := rotated_run hwf hstart hrun
  have hstore : storable (strip t) := by
    obtain ⟨⟨header, hstore⟩, -, rfl⟩ := Option.map_eq_some_iff.mp hheader
    exact fun hnul => hstore (List.mem_append_right _ (strip_subset t hnul))
  have hres {r : Router} (hr : r ∈ w'.db.routers) := resolves_iff hwf' hrot hd hstore hr
  have hans := pushTelemetry_answered hwf' hheader hlimit
  have hunknown (h : ∀ r ∈ w'.db.routers, (m r.serialNumber).getLast? ≠ some (strip t)) :=
    hans.unknown fun r hr hr' => h r hr ((hres hr).mp hr')
  refine ⟨fun r hr => hres hr, fun r hr hlast => ?_, hunknown, fun serial hraw => ?_⟩
  · have hr' := (hres hr).mpr hlast
    exact ⟨hans.seen r hr hr', hans.gated r hr hr'⟩
  · exact (hunknown fun r _ => not_last_of_superseded hd hraw r.serialNumber).1

/-- The world with unit A enrolled twice. -/
def twiceWorld : World := (autoEnroll smallDeployment enrolledWorld againCall).2

/-- The tokens minted on the way there. -/
def twiceLedger : Ledger := fun serial =>
  if serial = unitA.serial then
    ["tok-A-first-enrollment".toList, "tok-B-second-enrollment".toList]
  else []

theorem exec_twiceWorld : Run.exec (serveNoted smallDeployment fun _ (_ : Unit) => .ok ())
    (smallWorld, fun _ => []) [.enroll (smallCall unitA "tok-A-first-enrollment" 0),
      .enroll againCall] = some (twiceWorld, twiceLedger) := by
  have hledger : Ledger.record smallDeployment enrolledWorld (Ledger.record smallDeployment
      smallWorld (fun _ => []) (Event.enroll (smallCall unitA "tok-A-first-enrollment" 0) :
        Event Unit)) (Event.enroll againCall : Event Unit) = twiceLedger := by
    funext serial
    simp only [Ledger.record, if_pos admissible_firstCall, if_pos admissible_againCall]
    by_cases hs : serial = unitA.serial
    · subst hs
      rfl
    · have h1 : serial ≠ againCall.payload.serial := hs
      have h2 : serial ≠ (smallCall unitA "tok-A-first-enrollment" 0).payload.serial := hs
      rw [Function.update_of_ne h1, Function.update_of_ne h2, twiceLedger, if_neg hs]
  rw [← hledger]
  rfl

theorem mem_twiceLedger {serial x : Text} : x ∈ twiceLedger serial ↔ serial = unitA.serial ∧
    (x = "tok-A-first-enrollment".toList ∨ x = "tok-B-second-enrollment".toList) := by
  unfold twiceLedger
  split <;> simp [*]

theorem distinguishable_twiceLedger : Distinguishable smallDeployment.toBackend twiceLedger
    "tok-B-second-enrollment".toList where
  nodup := by
    intro serial
    unfold twiceLedger
    split <;> decide
  apart := by
    intro serial serial' hne x hx hx'
    exact hne ((mem_twiceLedger.mp hx).1.trans (mem_twiceLedger.mp hx').1.symm)
  long := by
    intro serial x hx
    rcases (mem_twiceLedger.mp hx).2 with rfl | rfl <;> decide
  injective := by
    have hcases {x : Text} (hx : x = "tok-B-second-enrollment".toList ∨
        ∃ serial, x ∈ twiceLedger serial) :
        x = "tok-A-first-enrollment".toList ∨ x = "tok-B-second-enrollment".toList := by
      rcases hx with rfl | ⟨serial, hx⟩
      · exact Or.inr rfl
      · exact (mem_twiceLedger.mp hx).2
    intro x y hx hy
    rcases hcases hx with rfl | rfl <;> rcases hcases hy with rfl | rfl <;> decide

theorem token_speaks_for_router_twice :
    Resolves smallDeployment twiceWorld "tok-B-second-enrollment".toList 1 := by
  have hrow : ∃ r ∈ twiceWorld.db.routers, r.id = 1 ∧ r.serialNumber = unitA.serial := by
    decide +kernel
  obtain ⟨r, hr, hid, hserial⟩ := hrow
  have hlast : (twiceLedger r.serialNumber).getLast? = some "tok-B-second-enrollment".toList := by
    rw [hserial]
    decide
  rw [← hid]
  exact ((token_speaks_for_router (t := "tok-B-second-enrollment".toList)
    (c := smallPush ⟨"Bearer tok-B-second-enrollment".toList, by decide⟩ 90)
    (Db.wf_empty _ _ _ _) rfl exec_twiceWorld rfl distinguishable_twiceLedger
    (by decide +kernel)).1 r hr).mpr hlast

end CpeCloud
