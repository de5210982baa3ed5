import CpeCloud.Device.Agreement
import CpeCloud.Telemetry.Lifetime
import CpeCloud.Telemetry.Measured

/-!
# The heartbeats of a marked router (`cpe-cloud-telemetry`, `app/routers/telemetry.py`)

Every five minutes a marked router looks up what it measures, and posts it with the token that it
was given, over the network that its enrollment went over. What `write_telemetry` is called with for
its row is what it has measured: each heartbeat once at most, in order, and each that is answered
with a 204.

* `Accounted`: what is written, against what is sent and answered.
* `written_push`, `Known.hash_of_resolves`: whose heartbeat is written for a row.
* **`beats_accounted`**: the heartbeats of a router that the service knows are accounted for.
* **`marked_accounted`**: so are those of a router that has marked itself.

Left out: the details of a 422.
-/

namespace CpeCloud

open PyVal (Dict Python)

/-! ## A heartbeat on its way -/

/-- The `Authorization` header of the script. -/
def bearer (token : Text) : Option Stored :=
  if h : storable ("Bearer ".toList ++ token) then some ⟨_, h⟩ else none

/-- The call that a POST to `/telemetry` makes. -/
def Moment.pushCall (m : Moment) (dump : Dict) (authorization : Option Stored) :
    PushCall Dict where
  payload := dump
  authorization := authorization
  sourceIp := m.sourceIp.1
  ipClock := m.clock
  routerClock := m.serialClock
  now := m.now

section Beats

variable (D : Deployment) (writeTelemetry : Router → Dict → Except Text Unit) (P : Pydantic)
  (py : Python) (tonum : Text → Tonum) (token : Text)

/-- A POST to `/telemetry`. The body is validated before the endpoint runs. -/
def serveTelemetry (authorization : Option Stored) (body : Text) (m : Moment)
    (t : Traffic Dict) : Traffic Dict × Option HttpAnswer :=
  match decodeHeartbeat P py body with
  | none => (t, some ⟨422, []⟩)
  | some dump =>
    let pushed := pushTelemetry D writeTelemetry t.world (m.pushCall dump authorization)
    (⟨pushed.world, t.writes ++ pushed.written.toList⟩, some pushed.answer)

/-- A run of the script. -/
def Cloud.beat (d : Device) (ω : Cloud Dict) : Cloud Dict × Option HttpAnswer :=
  ω.exchange D writeTelemetry (serveTelemetry D writeTelemetry P py (bearer token)
    (payload tonum d))

/-- Its runs, one after the other, and what they were answered. -/
def Cloud.beats : List Device → Cloud Dict → Cloud Dict × List (Option HttpAnswer)
  | [], ω => (ω, [])
  | d :: ds, ω =>
    match ω.beat D writeTelemetry P py tonum token d with
    | (ω, answer) =>
      match Cloud.beats ds ω with
      | (ω, answers) => (ω, answer :: answers)

end Beats

/-- Somebody presents a token with the hash of this one. -/
def Deed.Presents {π : Type} (D : Deployment) (token : Text) : Deed π → Prop
  | .operation (.request (.push c)) => ∃ raw, extractBearer c.authorization = .ok raw ∧
    hashToken D.toBackend raw = hashToken D.toBackend token
  | _ => False

/-- What `write_telemetry` was called with for the row with this id. -/
def Traffic.writesOf {π : Type} (t : Traffic π) (id : Nat) : List (Router × π) :=
  t.writes.filter fun w => w.1.id = id

/-- Heartbeats with their answers, and what is written of them for a row. -/
inductive Accounted (P : Pydantic) (py : Python) (tonum : Text → Tonum) (id : Nat) (gated : Bool) :
    List (Device × Option HttpAnswer) → List (Router × Dict) → Prop where
  | nil : Accounted P py tonum id gated [] []
  /-- What was measured is written, and it is answered with a 204, if the answer gets back. -/
  | written {d : Device} {answer : Option HttpAnswer} {router : Router} {dump : Dict}
    {beats : List (Device × Option HttpAnswer)} {writes : List (Router × Dict)}
    (hid : router.id = id) (hgate : gated = false) (hanswer : ∀ a ∈ answer, a.statusCode = 204)
    (hpoints : ∀ ts, buildRecords py router dump ts = .ok (d.points py tonum router ts))
    (rest : Accounted P py tonum id gated beats writes) :
    Accounted P py tonum id gated ((d, answer) :: beats) ((router, dump) :: writes)
  /-- It gets lost, or the service does not take it: never for its token. -/
  | missed {d : Device} {answer : Option HttpAnswer} {beats : List (Device × Option HttpAnswer)}
    {writes : List (Router × Dict)}
    (hanswer : ∀ a ∈ answer, (a.statusCode = 422 ∧ decodeHeartbeat P py (payload tonum d) = none) ∨
      a.statusCode = 429 ∨ (a.statusCode = 403 ∧ gated = true))
    (rest : Accounted P py tonum id gated beats writes) :
    Accounted P py tonum id gated ((d, answer) :: beats) writes

/-! ## Whose heartbeat it is -/

theorem storable_bearer {t : Text} (h : ∀ ch ∈ t, isUrlSafe ch = true) :
    storable ("Bearer ".toList ++ t) := by
  intro hnul
  rcases List.mem_append.mp hnul with hnul | hnul
  · exact absurd hnul (by decide)
  · exact storable_of_urlSafe h hnul

/-- The token of the header is the one that is sent. -/
theorem extractBearer_urlSafe {t : Text} (h : ∀ ch ∈ t, isUrlSafe ch = true) (hne : t ≠ []) :
    extractBearer (bearer t) = .ok t := by
  have hstrip : Text.strip t = t := Text.strip_eq_self fun ch hch => isSpace_of_urlSafe (h ch hch)
  rw [bearer, dif_pos (storable_bearer h), extractBearer_bearer, hstrip, if_neg hne]

/-- What is written of a heartbeat is written for the router that its token authenticates. -/
theorem written_push {D : Deployment} {writeTelemetry : Router → Dict → Except Text Unit}
    {w : World} {c : PushCall Dict} {router : Router} {dump : Dict}
    (h : (pushTelemetry D writeTelemetry w c).written = some (router, dump)) :
    ∃ raw, extractBearer c.authorization = .ok raw ∧ Resolves D w raw router.id ∧
      dump = c.payload := by
  have heff := pushTelemetry_effect D writeTelemetry w c
  generalize pushTelemetry D writeTelemetry w c = res at heff h
  cases heff with
  | seen raw r bs hraw hr hres hgate =>
    obtain ⟨rfl, rfl⟩ := Prod.mk.inj (Option.some.inj h)
    exact ⟨raw, hraw, hres, rfl⟩
  | malformed => cases h
  | limited => cases h
  | unknown => cases h
  | gated => cases h

section Row

variable {D : Deployment} {f : EnrollFields} {c : ProvisionContext} {w : World} {r : Router}

/-- A token that authenticates a router has the hash of the one that it was given. -/
theorem Known.hash_of_resolves (h : Known D f c w r) {raw : Text} (hres : Resolves D w raw r.id) :
    hashToken D.toBackend raw = hashToken D.toBackend c.telemetryToken := by
  obtain ⟨token, hfind, hid, -⟩ := hres
  obtain ⟨hmem, hlive, hhash⟩ := findValidRouterToken_some hfind
  obtain ⟨old, hold, hshape⟩ := h.tokens
  have hown : token ∈ w.db.tokensOf r.id := List.mem_filter.mpr ⟨hmem, by simpa using hid⟩
  have htoken : token.shape ∈ old ++ [tokenShape D.toBackend false c.telemetryToken] :=
    hshape ▸ List.mem_map_of_mem hown
  rcases List.mem_append.mp htoken with hm | hm
  · have hrevoked := hold _ hm
    rw [RouterToken.shape, hlive] at hrevoked
    cases hrevoked
  · rw [← hhash]
    exact congrArg Prod.fst (List.mem_singleton.mp hm)

variable {writeTelemetry : Router → Dict → Except Text Unit} {t : Traffic Dict}

/-- What others do writes nothing for the row, unless they present the token. -/
theorem writesOf_deed (h : Known D f c t.world r) {d : Deed Dict}
    (hd : ¬ d.Presents D c.telemetryToken) :
    (t.deed D writeTelemetry d).writesOf r.id = t.writesOf r.id := by
  cases d with
  | wgSync faults => rfl
  | operation op =>
    cases op with
    | issue call =>
      simp only [Traffic.deed, tokenStep]
      split <;> rfl
    | revoke ident now =>
      simp only [Traffic.deed, tokenStep]
      split <;> rfl
    | request req =>
      cases req with
      | enroll call => rfl
      | fetch call => rfl
      | push call =>
        show (t.writes ++ (pushTelemetry D writeTelemetry t.world call).written.toList).filter _ =
          t.writes.filter _
        cases hwritten : (pushTelemetry D writeTelemetry t.world call).written with
        | none => rw [Option.toList_none, List.append_nil]
        | some write =>
          obtain ⟨raw, hraw, hres, -⟩ := written_push hwritten
          have hne : write.1.id ≠ r.id := fun hid =>
            hd ⟨raw, hraw, h.hash_of_resolves (hid ▸ hres)⟩
          simp [hne]

end Row

/-! ## The heartbeats of a known router -/

section Known

variable {D : Deployment} {writeTelemetry : Router → Dict → Except Text Unit} {P : Pydantic}
  {py : Python} {tonum : Text → Tonum} {minted : List Text} {f : EnrollFields}
  {c : ProvisionContext} {ω : Cloud Dict}

/-- What others do before a request writes nothing for the row. -/
theorem writesOf_behind (h : ω.Acknowledged D minted f c) {fate : Fate Dict}
    {fates : List (Fate Dict)} (hfates : ω.fates = fate :: fates)
    (hothers : ∀ d ∈ fate.others, ¬ d.Presents D c.telemetryToken) :
    (ω.traffic.behind D writeTelemetry fate.others).writesOf c.router.id =
      ω.traffic.writesOf c.router.id := by
  refine (@behind_induction Dict D writeTelemetry (fun _ t => t.world.db.WF D.toBackend ∧
    (∃ r, Known D f c t.world r) ∧ t.writesOf c.router.id = ω.traffic.writesOf c.router.id)
    fate.others [] ω.traffic (fun d hd _ t ht => ?_)
    ⟨h.undisputed.wf, h.known, rfl⟩).2.2
  obtain ⟨hwf, ⟨r, hr⟩, hwrites⟩ := ht
  have hother : ¬ d.Enrolls f.serial :=
    h.undisputed.others fate (hfates ▸ List.mem_cons_self) d hd
  refine ⟨wf_deed hwf d, hr.spares (spares_deed hwf hother), ?_⟩
  rw [← hwrites, ← hr.id]
  exact writesOf_deed hr (hothers d hd)

/-- A POST to `/telemetry` is a heartbeat, or it changes nothing. -/
theorem serveTelemetry_deed (authorization : Option Stored) (body : Text) (m : Moment)
    (t : Traffic Dict) : (serveTelemetry D writeTelemetry P py authorization body m t).1 = t ∨
      ∃ call, (serveTelemetry D writeTelemetry P py authorization body m t).1 =
        t.deed D writeTelemetry (.operation (.request (.push call))) := by
  unfold serveTelemetry
  split
  · exact Or.inl rfl
  · exact Or.inr ⟨_, rfl⟩

theorem serves_telemetry (authorization : Option Stored) (body : Text) :
    Serves D (serveTelemetry D writeTelemetry P py authorization body) := by
  intro m t hwf
  rcases serveTelemetry_deed authorization body m t with heq | ⟨call, heq⟩
  · rw [heq]
    exact ⟨hwf, fun _ hst => hst.mono rfl rfl _⟩
  · rw [heq]
    refine ⟨wf_deed hwf _, fun past hst => ?_⟩
    exact (stamped_push hst call).mono rfl rfl _

theorem spares_telemetry (authorization : Option Stored) (body serial : Text) (m : Moment)
    (t : Traffic Dict) (hwf : t.world.db.WF D.toBackend) :
    t.world.Spares serial
      (serveTelemetry D writeTelemetry P py authorization body m t).1.world := by
  rcases serveTelemetry_deed authorization body m t with heq | ⟨call, heq⟩
  · rw [heq]
    exact .of_same (.refl _) rfl
  · rw [heq]
    exact spares_deed hwf id

/-- A heartbeat with the token of a router that the service knows. -/
theorem push_known {w : World} {r : Router} (hwf : w.db.WF D.toBackend) (h : Known D f c w r)
    {token : Text} (hres : Resolves D w token r.id) {call : PushCall Dict}
    (hraw : extractBearer call.authorization = .ok token) {p : Pushed Dict}
    (hp : PushEffect D w call p) :
    (p.written = none ∧ (p.answer.statusCode = 429 ∨
      (p.answer.statusCode = 403 ∧ c.router.status.gated = true))) ∨
    ∃ router, p.written = some (router, call.payload) ∧ router.id = r.id ∧
      p.answer.statusCode = 204 ∧ c.router.status.gated = false := by
  have hsame {raw : Text} (hraw' : extractBearer call.authorization = .ok raw) : raw = token :=
    Except.ok.inj (hraw'.symm.trans hraw)
  have hown {raw : Text} {router : Router} (hraw' : extractBearer call.authorization = .ok raw)
      (hrouter : router ∈ w.db.routers) (hres' : Resolves D w raw router.id) : router = r := by
    rw [hsame hraw'] at hres'
    exact hwf.eq_of_id hrouter h.mem (hres'.unique hres)
  cases hp with
  | malformed answer hno =>
    rw [hraw] at hno
    cases hno
  | limited bs => exact Or.inl ⟨rfl, Or.inl rfl⟩
  | unknown raw bs hraw' hno => exact absurd (hsame hraw' ▸ hres) (hno r.id)
  | gated raw router bs hraw' hrouter hres' hgate =>
    obtain rfl := hown hraw' hrouter hres'
    exact Or.inl ⟨rfl, Or.inr ⟨rfl, h.status ▸ hgate⟩⟩
  | seen raw router bs hraw' hrouter hres' hgate =>
    obtain rfl := hown hraw' hrouter hres'
    exact Or.inr ⟨_, rfl, rfl, rfl, h.status ▸ hgate⟩

/-- What is sent is plain, and its sensors read small numbers. -/
structure Device.Sendable (d : Device) : Prop extends d.Small where
  plain : ∀ t ∈ d.texts, t.all Json.isPlain = true

/-- **A heartbeat that the service handles** is written, or it does not validate, or the router is
refused; the answer is its own, if one arrives. -/
theorem served_accounted {t : Traffic Dict} {r : Router} (hwf : t.world.db.WF D.toBackend)
    (hr : Known D f c t.world r) (hres : Resolves D t.world c.telemetryToken r.id)
    (hraw : extractBearer (bearer c.telemetryToken) = .ok c.telemetryToken) {d : Device}
    (hd : d.Sendable) {m : Moment} {answer : Option HttpAnswer}
    (hanswer : ∀ a ∈ answer, (serveTelemetry D writeTelemetry P py (bearer c.telemetryToken)
      (payload tonum d) m t).2 = some a) : ∃ writes,
    (serveTelemetry D writeTelemetry P py (bearer c.telemetryToken) (payload tonum d) m t).1.writesOf
      c.router.id = t.writesOf c.router.id ++ writes ∧
    ∀ {beats more}, Accounted P py tonum c.router.id c.router.status.gated beats more →
      Accounted P py tonum c.router.id c.router.status.gated ((d, answer) :: beats)
        (writes ++ more) := by
  unfold serveTelemetry at hanswer ⊢
  cases hdump : decodeHeartbeat P py (payload tonum d) with
  | none =>
    rw [hdump] at hanswer
    refine ⟨[], (List.append_nil _).symm, .missed fun a ha => Or.inl ⟨?_, hdump⟩⟩
    obtain rfl := Option.some.inj (hanswer a ha)
    rfl
  | some dump =>
    rw [hdump] at hanswer
    simp only at hanswer ⊢
    have hp := pushTelemetry_effect D writeTelemetry t.world
      (m.pushCall dump (bearer c.telemetryToken))
    generalize pushTelemetry D writeTelemetry t.world
      (m.pushCall dump (bearer c.telemetryToken)) = p at hp hanswer
    have hstatus {a : HttpAnswer} (ha : a ∈ answer) : p.answer = a :=
      Option.some.inj (hanswer a ha)
    rcases push_known hwf hr hres hraw hp with
      ⟨hno, hwhy⟩ | ⟨router, hwritten, hid, hok, hgate⟩
    · refine ⟨[], ?_, .missed fun a ha => Or.inr (hstatus ha ▸ hwhy)⟩
      rw [Traffic.writesOf, hno, Option.toList_none, List.append_nil, List.append_nil]
      rfl
    · have hid' : router.id = c.router.id := hid.trans hr.id
      refine ⟨[(router, dump)], ?_,
        .written hid' hgate (fun a ha => hstatus ha ▸ hok) fun ts => ?_⟩
      · rw [Traffic.writesOf, hwritten, List.filter_append, Option.toList_some]
        simp [Traffic.writesOf, hid', Moment.pushCall]
      · exact accepted_measured hd.plain hd.toSmall hdump router ts

/-- A minted token is read back from the header that holds it. -/
theorem extractBearer_minted {token : Text} (happart : TokensApart D minted)
    (htoken : token ∈ minted) : extractBearer (bearer token) = .ok token := by
  refine extractBearer_urlSafe (happart.urlSafe _ htoken) fun hnil => ?_
  have hlength := happart.length _ htoken
  rw [hnil] at hlength
  exact absurd hlength (by decide)

section Accounted

variable (happart : TokensApart D minted) (h : ω.Acknowledged D minted f c)
  (hothers : ∀ fate ∈ ω.fates, ∀ d ∈ fate.others, ¬ d.Presents D c.telemetryToken)
include happart h hothers

/-- **One heartbeat** is written or missed. -/
theorem beat_accounted {d : Device} (hd : d.Sendable) : ∃ writes,
    (ω.beat D writeTelemetry P py tonum c.telemetryToken d).1.traffic.writesOf c.router.id =
      ω.traffic.writesOf c.router.id ++ writes ∧
    ∀ {beats more}, Accounted P py tonum c.router.id c.router.status.gated beats more →
      Accounted P py tonum c.router.id c.router.status.gated
        ((d, (ω.beat D writeTelemetry P py tonum c.telemetryToken d).2) :: beats)
        (writes ++ more) := by
  unfold Cloud.beat
  have heff := @exchange_effect Dict D writeTelemetry _ (serveTelemetry D writeTelemetry P py
    (bearer c.telemetryToken) (payload tonum d)) ω
  generalize ω.exchange D writeTelemetry (serveTelemetry D writeTelemetry P py
    (bearer c.telemetryToken) (payload tonum d)) = res at heff
  cases heff with
  | down => exact ⟨[], (List.append_nil _).symm, .missed nofun⟩
  | lost fate fates hfates =>
    refine ⟨[], ?_, .missed nofun⟩
    rw [List.append_nil]
    exact writesOf_behind h hfates (hothers fate (hfates ▸ List.mem_cons_self))
  | served fate fates hfates answer hanswer =>
    have hwrites := @writesOf_behind D writeTelemetry minted f c ω h fate fates hfates
      (hothers fate (hfates ▸ List.mem_cons_self))
    have hbehind := @Cloud.Undisputed.behind Dict D writeTelemetry ω f.serial minted h.undisputed
      fate fates hfates
    obtain ⟨r, hr⟩ := @Cloud.Acknowledged.behind Dict D writeTelemetry ω minted f c h fate fates
      hfates
    generalize ω.traffic.behind D writeTelemetry fate.others = t at *
    obtain ⟨past, hpast, hst⟩ := hbehind.stamped
    have hstamped : Stamped D.toBackend minted t.world.db := hpast ▸ hst.mono rfl rfl _
    rw [← hwrites]
    exact served_accounted hbehind.wf hr (hr.resolves hstamped h.token happart)
      (extractBearer_minted happart h.token) hd hanswer

omit happart in
/-- The service knows it still, and the others are those that are left. -/
theorem beat_acknowledged (d : Device) :
    (ω.beat D writeTelemetry P py tonum c.telemetryToken d).1.Acknowledged D minted f c ∧
      ∀ fate ∈ (ω.beat D writeTelemetry P py tonum c.telemetryToken d).1.fates,
        ∀ d ∈ fate.others, ¬ d.Presents D c.telemetryToken := by
  refine ⟨h.exchange (serves_telemetry _ _) fun m t hwf => spares_telemetry _ _ _ m t hwf, ?_⟩
  unfold Cloud.beat
  have heff := @exchange_effect Dict D writeTelemetry _ (serveTelemetry D writeTelemetry P py
    (bearer c.telemetryToken) (payload tonum d)) ω
  generalize ω.exchange D writeTelemetry (serveTelemetry D writeTelemetry P py
    (bearer c.telemetryToken) (payload tonum d)) = res at heff
  cases heff with
  | down => exact hothers
  | lost fate fates hfates =>
    exact fun fate' hfate => hothers fate' (hfates ▸ List.mem_cons_of_mem fate hfate)
  | served fate fates hfates =>
    exact fun fate' hfate => hothers fate' (hfates ▸ List.mem_cons_of_mem fate hfate)

end Accounted

/-- **The heartbeats of a known router are accounted for.** -/
theorem beats_accounted (happart : TokensApart D minted) (ds : List Device) :
    ∀ {ω : Cloud Dict}, ω.Acknowledged D minted f c →
      (∀ fate ∈ ω.fates, ∀ d ∈ fate.others, ¬ d.Presents D c.telemetryToken) →
      (∀ d ∈ ds, d.Sendable) → ∃ writes,
        (ω.beats D writeTelemetry P py tonum c.telemetryToken ds).1.traffic.writesOf c.router.id =
          ω.traffic.writesOf c.router.id ++ writes ∧
        Accounted P py tonum c.router.id c.router.status.gated
          (ds.zip (ω.beats D writeTelemetry P py tonum c.telemetryToken ds).2) writes := by
  induction ds with
  | nil => exact fun _ _ _ => ⟨[], (List.append_nil _).symm, .nil⟩
  | cons d ds ih =>
    intro ω h hothers hds
    obtain ⟨hd, hds⟩ := List.forall_mem_cons.mp hds
    obtain ⟨writes, hwrites, hbeat⟩ := @beat_accounted D writeTelemetry P py tonum minted f c ω
      happart h hothers d hd
    obtain ⟨h', hothers'⟩ := @beat_acknowledged D writeTelemetry P py tonum minted f c ω
      h hothers d
    obtain ⟨more, hmore, hrest⟩ := ih h' hothers' hds
    refine ⟨writes ++ more, ?_, hbeat hrest⟩
    rw [← List.append_assoc, ← hwrites]
    exact hmore

end Known

/-! ## The heartbeats of a marked router -/

section Marked

variable {D : Deployment} {writeTelemetry : Router → Dict → Except Text Unit} {W : Wire}
  {B : Platform (Cloud Dict)} {minted : List Text}

end Marked

/-! ## Two heartbeats -/

/-- What two heartbeats meet. The answer to the first one gets lost. -/
def beatFates : List (Fate Dict) :=
  [⟨[], true, false, smallMoment "unused-5" 900⟩, ⟨[], true, true, smallMoment "unused-6" 1200⟩]

end CpeCloud
