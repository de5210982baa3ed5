import CpeCloud.Device.Known
import CpeCloud.Device.Provisioned

/-!
# A router and the service (`cpe-cloud-enroll`, `app/routers/auto_enroll.py`)

The network of a router is the service, reached over an uplink. What the requests of a router meet
is written down beforehand, one `Fate` for each: what others do at the service before it, whether it
gets there, whether its answer gets back, and what the service reads meanwhile. So a run of the
router covers every order of its requests with those of others.

* `Undisputed`: nobody else enrolls the serial of the router.
* `Acknowledged`: the service knows the router, and nobody else enrolls its serial.
* **`acknowledged_answer`**: the service knows a router that it has answered, and what comes behind
  the answer leaves it so (`Acknowledged.exchange`).
-/

namespace CpeCloud

variable {π : Type}

/-! ## The network -/

/-- What the service reads while it handles a request. -/
structure Moment where
  sourceIp : Stored
  /-- `time.monotonic()` at a rate limit, and at the second one of an enrollment. -/
  clock : ℚ
  serialClock : ℚ
  /-- `datetime.now` in a lookup, at the use of a token, and when an answer is rendered. -/
  now : Timestamp
  usedAt : Timestamp
  generatedAt : Timestamp
  enrolledAt : Timestamp
  revokedAt : Timestamp
  minted : Text
  faults : Faults

/-- What a request meets. -/
structure Fate (π : Type) where
  /-- What others do before it. -/
  others : List (Deed π)
  /-- It gets to the service. -/
  arrives : Bool
  /-- The answer gets back. -/
  answered : Bool
  moment : Moment

/-- The service, and what the next requests of the router meet. Behind them the network is down. -/
structure Cloud (π : Type) where
  traffic : Traffic π
  fates : List (Fate π)

/-- The tokens that are minted for others, and for the request. -/
def Fate.minted (fate : Fate π) : List Text :=
  fate.others.flatMap Deed.minted ++ [fate.moment.minted]

/-- How values of the scripts get onto the wire and off it again. -/
structure Wire where
  /-- The `t` of a query string. -/
  query : Text → Text
  query_word : ∀ t, t.all isWord = true → query t = t
  /-- The `X-Provisioning-Secret` header, behind the other one in `http-header-field`. -/
  header : Text → Option Text
  header_word : ∀ t, t.all isWord = true → header t = some t

section Network

variable (D : Deployment) (writeTelemetry : Router → π → Except Text Unit) (W : Wire)

/-- The service behind what others do. -/
def Traffic.behind (t : Traffic π) (deeds : List (Deed π)) : Traffic π :=
  deeds.foldl (Traffic.deed D writeTelemetry) t

/-- A request of the router. -/
def Cloud.exchange {α : Type} (serve : Moment → Traffic π → Traffic π × Option α) (ω : Cloud π) :
    Cloud π × Option α :=
  match ω.fates with
  | [] => (ω, none)
  | fate :: fates =>
    let t := ω.traffic.behind D writeTelemetry fate.others
    if fate.arrives then
      match serve fate.moment t with
      | (t', answer) => (⟨t', fates⟩, if fate.answered then answer else none)
    else (⟨t, fates⟩, none)

/-- The token in the URL of an installer. -/
def downloadToken (url : Text) : Option Text :=
  (url.dropPrefix? ("https://".toList ++ D.serverFqdn ++
    "/factory/self-enroll.rsc?t=".toList)).map fun rest => W.query rest

/-- A GET of an installer. -/
def serveInstaller (url : Text) (m : Moment) (t : Traffic π) :
    Traffic π × Option InstallerContext :=
  match downloadToken D W url with
  | none => (t, none)
  | some token =>
    if h : 16 ≤ token.length ∧ token.length ≤ 128 then
      match factoryInstaller D t.world
        ⟨m.sourceIp, token, h, m.clock, m.now, m.usedAt, m.generatedAt⟩ with
      | (.ok ⟨.rendered ctx, _, _⟩, w) => ({ t with world := w }, some ctx)
      | (_, w) => ({ t with world := w }, none)
    else (t, none)

/-- The call that a POST makes. -/
def Moment.enrollCall (m : Moment) (p : AutoEnrollRequest) (secret : Option Text) : EnrollCall where
  payload := p
  enrolledAt := m.enrolledAt
  revokedAt := m.revokedAt
  minted := m.minted
  sourceIp := m.sourceIp
  secret := secret
  ipClock := m.clock
  serialClock := m.serialClock
  generatedAt := m.generatedAt
  faults := m.faults

/-- A POST to `/auto-enroll`. -/
def serveEnroll (url secret body : Text) (m : Moment) (t : Traffic π) :
    Traffic π × Option ProvisionContext :=
  if url = D.enrollmentUrl then
    match AutoEnrollRequest.decode body with
    | none => (t, none)
    | some p =>
      match autoEnroll D t.world (m.enrollCall p (W.header secret)) with
      | (outcome, w) => ({ t with world := w }, outcome.script)
  else (t, none)

/-- The service over an uplink. -/
def cloudUplink : Uplink (Cloud π) where
  resolve _ ω :=
    match ω.exchange D writeTelemetry fun _ t => (t, some ()) with
    | (ω, answer) => (ω, answer.isSome)
  get url ω := ω.exchange D writeTelemetry (serveInstaller D W url)
  post url secret body ω := ω.exchange D writeTelemetry (serveEnroll D W url secret body)

end Network

/-! ## What a request of the router does -/

section Requests

variable {D : Deployment} {writeTelemetry : Router → π → Except Text Unit} {W : Wire} {α : Type}
  {serve : Moment → Traffic π → Traffic π × Option α} {ω : Cloud π}

/-- What a request can do. -/
inductive Exchanged (D : Deployment) (writeTelemetry : Router → π → Except Text Unit)
    (serve : Moment → Traffic π → Traffic π × Option α) (ω : Cloud π) :
    Cloud π × Option α → Prop where
  | down : Exchanged D writeTelemetry serve ω (ω, none)
  /-- It gets lost on its way. -/
  | lost (fate : Fate π) (fates : List (Fate π)) (hfates : ω.fates = fate :: fates) :
    Exchanged D writeTelemetry serve ω
      (⟨ω.traffic.behind D writeTelemetry fate.others, fates⟩, none)
  /-- The service handles it. -/
  | served (fate : Fate π) (fates : List (Fate π)) (hfates : ω.fates = fate :: fates)
    (answer : Option α)
    (hanswer : ∀ a ∈ answer,
      (serve fate.moment (ω.traffic.behind D writeTelemetry fate.others)).2 = some a) :
    Exchanged D writeTelemetry serve ω
      (⟨(serve fate.moment (ω.traffic.behind D writeTelemetry fate.others)).1, fates⟩, answer)

theorem exchange_effect :
    Exchanged D writeTelemetry serve ω (ω.exchange D writeTelemetry serve) := by
  unfold Cloud.exchange
  split
  · exact .down
  · rename_i fate fates hfates
    simp only
    split
    · refine .served fate fates hfates _ fun a ha => ?_
      split at ha
      · exact ha
      · cases ha
    · exact .lost fate fates hfates

/-- What holds of the service and of the tokens minted so far, behind what others do. -/
theorem behind_induction {P : List Text → Traffic π → Prop} :
    ∀ {deeds : List (Deed π)} {minted : List Text} {t : Traffic π},
      (∀ d ∈ deeds, ∀ minted t, P minted t →
        P (minted ++ d.minted) (t.deed D writeTelemetry d)) → P minted t →
      P (minted ++ deeds.flatMap Deed.minted) (t.behind D writeTelemetry deeds)
  | [], minted, t, _, ht => by
    rw [List.flatMap_nil, List.append_nil]
    exact ht
  | d :: deeds, minted, t, hd, ht => by
    rw [List.flatMap_cons, ← List.append_assoc]
    exact behind_induction (fun d' hd' => hd d' (List.mem_cons_of_mem d hd'))
      (hd d List.mem_cons_self minted t ht)

/-! ### Nobody else enrolls the serial -/

/-- Postgres's constraints hold, none of the others enrolls this serial, and the tables are stamped
by tokens of a list that goes on with those that are minted later. -/
structure Cloud.Undisputed (D : Deployment) (serial : Text) (minted : List Text) (ω : Cloud π) :
    Prop where
  wf : ω.traffic.world.db.WF D.toBackend
  others : ∀ fate ∈ ω.fates, ∀ d ∈ fate.others, ¬ d.Enrolls serial
  stamped : ∃ past, past ++ ω.fates.flatMap Fate.minted = minted ∧
    Stamped D.toBackend past ω.traffic.world.db

/-- When a request arrives at the moment `m`, Postgres's constraints hold, none of the others behind
it enrolls this serial, and the tables are stamped by tokens of a list that goes on with the token
of the request and those of later ones. -/
structure Traffic.Undisputed (D : Deployment) (serial : Text) (minted : List Text) (m : Moment)
    (fates : List (Fate π)) (t : Traffic π) : Prop where
  wf : t.world.db.WF D.toBackend
  others : ∀ fate ∈ fates, ∀ d ∈ fate.others, ¬ d.Enrolls serial
  stamped : ∃ past, past ++ m.minted :: fates.flatMap Fate.minted = minted ∧
    Stamped D.toBackend past t.world.db

section Undisputed

variable {serial : Text} {minted : List Text}

theorem Cloud.Undisputed.behind (h : ω.Undisputed D serial minted) {fate : Fate π}
    {fates : List (Fate π)} (hfates : ω.fates = fate :: fates) :
    (ω.traffic.behind D writeTelemetry fate.others).Undisputed D serial minted fate.moment
      fates := by
  obtain ⟨past, hpast, hstamped⟩ := h.stamped
  have hbehind := @behind_induction π D writeTelemetry
    (fun minted t => t.world.db.WF D.toBackend ∧ Stamped D.toBackend minted t.world.db)
    fate.others past ω.traffic (fun d _ minted t ht => ⟨wf_deed ht.1 d, stamped_deed ht.2 d⟩)
    ⟨h.wf, hstamped⟩
  refine ⟨hbehind.1, fun f hf => h.others f (hfates ▸ List.mem_cons_of_mem fate hf),
    past ++ fate.others.flatMap Deed.minted, ?_, hbehind.2⟩
  rw [← hpast, hfates, List.flatMap_cons, Fate.minted]
  simp

/-- The request mints its token, or it does not. -/
theorem Traffic.Undisputed.left {m : Moment} {fates : List (Fate π)} {t t' : Traffic π}
    (h : t.Undisputed D serial minted m fates) (hwf : t'.world.db.WF D.toBackend)
    (hstamped : ∀ past, Stamped D.toBackend past t.world.db →
      Stamped D.toBackend (past ++ [m.minted]) t'.world.db) :
    Cloud.Undisputed D serial minted ⟨t', fates⟩ := by
  obtain ⟨past, hpast, hst⟩ := h.stamped
  refine ⟨hwf, h.others, past ++ [m.minted], ?_, hstamped past hst⟩
  rw [← hpast]
  simp

theorem Traffic.Undisputed.same {m : Moment} {fates : List (Fate π)} {t : Traffic π}
    (h : t.Undisputed D serial minted m fates) : Cloud.Undisputed D serial minted ⟨t, fates⟩ :=
  h.left h.wf fun _ hst => hst.mono rfl rfl _

/-- What the service does with a request keeps the constraints and the stamps. -/
def Serves (D : Deployment) (serve : Moment → Traffic π → Traffic π × Option α) : Prop :=
  ∀ m t, t.world.db.WF D.toBackend → (serve m t).1.world.db.WF D.toBackend ∧
    ∀ past, Stamped D.toBackend past t.world.db →
      Stamped D.toBackend (past ++ [m.minted]) (serve m t).1.world.db

theorem Cloud.Undisputed.exchange (h : ω.Undisputed D serial minted) (hserve : Serves D serve) :
    (ω.exchange D writeTelemetry serve).1.Undisputed D serial minted := by
  have heff := @exchange_effect π D writeTelemetry α serve ω
  generalize ω.exchange D writeTelemetry serve = res at heff
  cases heff with
  | down => exact h
  | lost fate fates hfates => exact (h.behind hfates).same
  | served fate fates hfates =>
    have hbehind := @Cloud.Undisputed.behind π D writeTelemetry ω serial minted h fate fates hfates
    obtain ⟨hwf, hstamped⟩ := hserve fate.moment _ hbehind.wf
    exact hbehind.left hwf hstamped

end Undisputed

/-! ### The service knows the router -/

/-- The service knows the router that posted `f` and was answered `c`. -/
structure Cloud.Acknowledged (D : Deployment) (minted : List Text) (f : EnrollFields)
    (c : ProvisionContext) (ω : Cloud π) : Prop where
  undisputed : ω.Undisputed D f.serial minted
  token : c.telemetryToken ∈ minted
  known : ∃ r, Known D f c ω.traffic.world r

section Acknowledged

variable {minted : List Text} {f : EnrollFields} {c : ProvisionContext}

theorem Cloud.Acknowledged.behind (h : ω.Acknowledged D minted f c) {fate : Fate π}
    {fates : List (Fate π)} (hfates : ω.fates = fate :: fates) :
    ∃ r, Known D f c (ω.traffic.behind D writeTelemetry fate.others).world r := by
  refine (@behind_induction π D writeTelemetry
    (fun _ t => t.world.db.WF D.toBackend ∧ ∃ r, Known D f c t.world r)
    fate.others [] ω.traffic (fun d hd _ t ht => ?_) ⟨h.undisputed.wf, h.known⟩).2
  obtain ⟨hwf, r, hr⟩ := ht
  have hother : ¬ d.Enrolls f.serial :=
    h.undisputed.others fate (hfates ▸ List.mem_cons_self) d hd
  exact ⟨wf_deed hwf d, hr.spares (spares_deed hwf hother)⟩

/-- A request that does not enroll the router spares it. -/
theorem Cloud.Acknowledged.exchange (h : ω.Acknowledged D minted f c) (hserve : Serves D serve)
    (hspares : ∀ m (t : Traffic π), t.world.db.WF D.toBackend →
      t.world.Spares f.serial (serve m t).1.world) :
    (ω.exchange D writeTelemetry serve).1.Acknowledged D minted f c := by
  refine ⟨h.undisputed.exchange hserve, h.token, ?_⟩
  have heff := @exchange_effect π D writeTelemetry α serve ω
  generalize ω.exchange D writeTelemetry serve = res at heff
  cases heff with
  | down => exact h.known
  | lost fate fates hfates => exact h.behind hfates
  | served fate fates hfates =>
    obtain ⟨r, hr⟩ := @Cloud.Acknowledged.behind π D writeTelemetry ω minted f c h fate fates hfates
    have hbehind := @Cloud.Undisputed.behind π D writeTelemetry ω f.serial minted h.undisputed fate
      fates hfates
    exact hr.spares (hspares fate.moment _ hbehind.wf)

end Acknowledged

/-! ### The requests -/

theorem serveInstaller_world (url : Text) (m : Moment) (t : Traffic π) :
    (serveInstaller D W url m t).1.world = t.world ∨
      ∃ c, (serveInstaller D W url m t).1.world = (factoryInstaller D t.world c).2 := by
  unfold serveInstaller
  split
  · exact Or.inl rfl
  rename_i token htoken
  split
  · rename_i hlen
    refine Or.inr
      ⟨⟨m.sourceIp, token, hlen, m.clock, m.now, m.usedAt, m.generatedAt⟩, ?_⟩
    split
    · rename_i hres
      exact (congrArg Prod.snd hres).symm
    · rename_i hres
      exact (congrArg Prod.snd hres).symm
  · exact Or.inl rfl

theorem serveEnroll_world (url secret body : Text) (m : Moment) (t : Traffic π) :
    (serveEnroll D W url secret body m t).1.world = t.world ∨
      ∃ p, (serveEnroll D W url secret body m t).1.world =
        (autoEnroll D t.world (m.enrollCall p (W.header secret))).2 := by
  unfold serveEnroll
  split
  · split
    · exact Or.inl rfl
    · exact Or.inr ⟨_, rfl⟩
  · exact Or.inl rfl

theorem serveInstaller_same (url : Text) (m : Moment) (t : Traffic π) :
    t.world.db.SameTables (serveInstaller D W url m t).1.world.db ∧
      (serveInstaller D W url m t).1.world.host = t.world.host := by
  rcases serveInstaller_world (D := D) (W := W) url m t with hw | ⟨c, hw⟩
  · rw [hw]
    exact ⟨.refl _, rfl⟩
  · rw [hw]
    exact factoryInstaller_same D t.world c

theorem serves_resolve : Serves D fun _ (t : Traffic π) => (t, some ()) :=
  fun _ _ hwf => ⟨hwf, fun _ hst => hst.mono rfl rfl _⟩

theorem serves_installer (url : Text) : Serves D (serveInstaller (π := π) D W url) := by
  intro m t hwf
  refine ⟨hwf.of_sameInventory (serveInstaller_same url m t).1.sameInventory, fun past hst => ?_⟩
  rcases serveInstaller_world (D := D) (W := W) url m t with hw | ⟨c, hw⟩
  · rw [hw]
    exact hst.mono rfl rfl _
  · rw [hw]
    exact (stamped_fetch hst c).mono rfl rfl _

theorem serves_enroll (url secret body : Text) :
    Serves D (serveEnroll (π := π) D W url secret body) := by
  intro m t hwf
  rcases serveEnroll_world (D := D) (W := W) url secret body m t with hw | ⟨p, hw⟩
  · rw [hw]
    exact ⟨hwf, fun _ hst => hst.mono rfl rfl _⟩
  · rw [hw]
    exact ⟨wf_autoEnroll _ hwf, fun _ hst => stamped_enroll hst (m.enrollCall p (W.header secret))⟩

/-- A POST that is answered. -/
theorem serveEnroll_answer {url secret body : Text} {m : Moment} {t : Traffic π}
    {c : ProvisionContext} (h : (serveEnroll D W url secret body m t).2 = some c) :
    ∃ p, AutoEnrollRequest.decode body = some p ∧
      (autoEnroll D t.world (m.enrollCall p (W.header secret))).1.script = some c ∧
      (serveEnroll D W url secret body m t).1.world =
        (autoEnroll D t.world (m.enrollCall p (W.header secret))).2 := by
  unfold serveEnroll at h ⊢
  split at h
  · rename_i hurl
    rw [if_pos hurl]
    cases hp : AutoEnrollRequest.decode body with
    | none =>
      rw [hp] at h
      cases h
    | some p =>
      rw [hp] at h
      exact ⟨p, rfl, h, rfl⟩
  · cases h

theorem ne_newline_of_plain {t : Text} (h : t.all Json.isPlain = true) : '\n' ∉ t := fun hm => by
  have := List.all_eq_true.mp h _ hm
  revert this
  decide

/-- Plain values are answered with a plain name. -/
theorem quiet_answer {url secret : Text} {f : EnrollFields} (hplain : f.Plain) {m : Moment}
    {t : Traffic π} {c : ProvisionContext}
    (h : (serveEnroll D W url secret f.payload m t).2 = some c) : c.Quiet := by
  obtain ⟨p, hp, hscript, -⟩ := serveEnroll_answer h
  rw [EnrollFields.decode_of_plain hplain] at hp
  obtain rfl : p.fields = f := EnrollFields.fields_validate hp
  have hname : p.fields.identity ∈ p.fields.texts := by simp [EnrollFields.texts]
  exact quiet_of_not_mem (identity_answer hscript ▸ ne_newline_of_plain (hplain _ hname))

/-- **A router with plain values is known when it is answered.** -/
theorem acknowledged_answer {minted : List Text} {url secret : Text} {f : EnrollFields}
    {c : ProvisionContext} (hplain : f.Plain) (h : ω.Undisputed D f.serial minted)
    (hc : (ω.exchange D writeTelemetry (serveEnroll D W url secret f.payload)).2 = some c) :
    c.Quiet ∧ (ω.exchange D writeTelemetry
      (serveEnroll D W url secret f.payload)).1.Acknowledged D minted f c := by
  have hundisputed := @Cloud.Undisputed.exchange π D writeTelemetry _
    (serveEnroll D W url secret f.payload) ω f.serial minted h (serves_enroll url secret f.payload)
  have heff := @exchange_effect π D writeTelemetry _ (serveEnroll D W url secret f.payload) ω
  generalize ω.exchange D writeTelemetry (serveEnroll D W url secret f.payload) = res
    at heff hc hundisputed
  cases heff with
  | down => cases hc
  | lost => cases hc
  | served fate fates hfates answer hanswer =>
    have hbehind :=
      @Cloud.Undisputed.behind π D writeTelemetry ω f.serial minted h fate fates hfates
    obtain ⟨p, hp, hscript, hworld⟩ := serveEnroll_answer (hanswer c hc)
    rw [EnrollFields.decode_of_plain hplain] at hp
    obtain rfl : p.fields = f := EnrollFields.fields_validate hp
    obtain ⟨htoken, r, hr⟩ := known_answer hbehind.wf hscript
    refine ⟨quiet_answer hplain (hanswer c hc), hundisputed, ?_, r, ?_⟩
    · obtain ⟨past, hpast, -⟩ := hbehind.stamped
      have hm : fate.moment.minted ∈ minted := by
        rw [← hpast]
        exact List.mem_append_right _ List.mem_cons_self
      exact htoken ▸ hm
    · show Known D p.fields c (serveEnroll D W url secret p.fields.payload _ _).1.world r
      rw [hworld]
      exact hr

end Requests

end CpeCloud
