import CpeCloud.Device.Agreement
import CpeCloud.Device.Progress

/-!
# When the service lets a router through (`app/routers/factory.py`, `app/routers/auto_enroll.py`)

What a router needs of the network to mark itself, said of the service: the installer is given to
its fetch token, and its values are enrolled with the secret of that installer.

* `quiet_cloud`, `worded_cloud`: the service is such a network as the scripts are proved for.
* `enrolls_cloud`, `installs_cloud`: when it answers the requests of the two scripts.
* **`flashed_enrolled`**: a flashed router is enrolled at the first tick at which it does.
-/

namespace CpeCloud

variable {π : Type}

/-! ## The service as a network -/

/-- The values of the installers. -/
def Settings.enrollValues (S : Settings) : EnrollValues :=
  ⟨S.provisioningSecretCurrent, S.enrollmentUrl, S.serverFqdn⟩

section Network

variable {D : Deployment} {writeTelemetry : Router → π → Except Text Unit} {W : Wire}
  {α : Type} {serve : Moment → Traffic π → Traffic π × Option α} {ω : Cloud π}

/-- An answer is one that the service has given. -/
theorem exchange_answer {a : α} (h : (ω.exchange D writeTelemetry serve).2 = some a) :
    ∃ m t, (serve m t).2 = some a := by
  have heff := @exchange_effect π D writeTelemetry α serve ω
  generalize ω.exchange D writeTelemetry serve = res at heff h
  cases heff with
  | down => cases h
  | lost => cases h
  | served fate fates hfates answer hanswer => exact ⟨_, _, hanswer a h⟩

/-- An installer has the current secret, and there is one. -/
theorem factoryInstaller_rendered {w w' : World} {c : FetchCall} {ctx : InstallerContext}
    {statusCode : Nat} {mediaType : String}
    (h : factoryInstaller D w c = (.ok ⟨.rendered ctx, statusCode, mediaType⟩, w')) :
    ctx.values = D.enrollValues ∧ D.provisioningSecretCurrent ≠ [] := by
  unfold factoryInstaller at h
  split at h
  · cases h
  simp only at h
  split at h
  · cases h
  · cases h
  split at h
  · cases h
  · rename_i hsecret
    obtain ⟨hres, -⟩ := Prod.mk.inj h
    cases hres
    exact ⟨rfl, hsecret⟩

theorem serveInstaller_answer {url : Text} {m : Moment} {t : Traffic π} {ctx : InstallerContext}
    (h : (serveInstaller D W url m t).2 = some ctx) :
    ctx.values = D.enrollValues ∧ D.provisioningSecretCurrent ≠ [] := by
  unfold serveInstaller at h
  split at h
  · cases h
  split at h
  · split at h
    · rename_i hres
      obtain rfl := Option.some.inj h
      exact factoryInstaller_rendered hres
    · cases h
  · cases h

variable {B : Platform (Cloud π)}

/-- What the service offers. -/
theorem offers_cloud (huplink : B.uplink = cloudUplink D writeTelemetry W)
    {ctx : InstallerContext} (h : B.Offers ctx) :
    ctx.values = D.enrollValues ∧ D.provisioningSecretCurrent ≠ [] := by
  obtain ⟨url, ω, hctx⟩ := h
  rw [huplink] at hctx
  obtain ⟨m, t, hanswer⟩ := exchange_answer hctx
  exact serveInstaller_answer hanswer

/-- Its installers can be read where its settings are words. -/
theorem worded_cloud (huplink : B.uplink = cloudUplink D writeTelemetry W)
    (hD : (Program.enroll D.enrollValues).Plain) : B.Worded := by
  intro ctx hctx
  rw [(offers_cloud huplink hctx).1]
  exact hD

/-- **The service answers plain values with plain names.** -/
theorem quiet_cloud (huplink : B.uplink = cloudUplink D writeTelemetry W)
    (hplain : B.hardware.Plain) : B.Quiet where
  hardware := hplain
  answer := by
    intro url secret f ω c hf hc
    rw [huplink] at hc
    obtain ⟨m, t, hanswer⟩ := exchange_answer hc
    exact quiet_answer hf hanswer

end Network

/-! ## Requests that get through -/

/-- The request gets to the service, and its answer back. -/
structure Fate.Through (fate : Fate π) : Prop where
  arrives : fate.arrives = true
  answered : fate.answered = true

instance (fate : Fate π) : Decidable fate.Through :=
  decidable_of_iff (fate.arrives = true ∧ fate.answered = true)
    ⟨fun h => ⟨h.1, h.2⟩, fun h => ⟨h.arrives, h.answered⟩⟩

/-- A download with the values of this script is served now. -/
structure World.Offers (D : Deployment) (v : FirstBootValues) (m : Moment) (w : World) :
    Prop where
  fqdn : v.serverFqdn = D.serverFqdn
  length : 16 ≤ v.fetchToken.length ∧ v.fetchToken.length ≤ 128
  secret : D.provisioningSecretCurrent ≠ []
  admitted : (checkRateLimit w.buckets "fetch".toList m.sourceIp.1 m.clock).1 = true
  valid : ∃ row, findValidAdminToken D.toBackend w.db.adminFetchTokens m.now v.fetchToken =
    .ok (some row)

/-- A request with these values and a valid secret is enrolled now. -/
structure World.Admits (D : Deployment) (p : AutoEnrollRequest) (m : Moment) (w : World) :
    Prop where
  key : D.wgServerPublicKey ≠ []
  admitted : ∀ secret, (limitRates w.buckets (m.enrollCall p secret)).1 = true
  enrollable : Enrollable D w.db.routers p
  conf : w.host.conf ≠ none
  harmless : m.faults.Harmless

section Through

variable (D : Deployment) (writeTelemetry : Router → π → Except Text Unit)

/-- The next two requests get through, and when the second one does, the service enrolls these
values. -/
def Cloud.Enrolls (p : AutoEnrollRequest) (ω : Cloud π) : Prop :=
  ∃ fate₁ fate₂ fates, ω.fates = fate₁ :: fate₂ :: fates ∧ fate₁.Through ∧ fate₂.Through ∧
    ((ω.traffic.behind D writeTelemetry fate₁.others).behind D writeTelemetry
      fate₂.others).world.Admits D p fate₂.moment

/-- The next two requests get through, when the second one does, the service offers an installer,
and behind them it enrolls these values. -/
def Cloud.Installs (W : Wire) (v : FirstBootValues) (p : AutoEnrollRequest) (ω : Cloud π) : Prop :=
  ∃ fate₁ fate₂ fates, ω.fates = fate₁ :: fate₂ :: fates ∧ fate₁.Through ∧ fate₂.Through ∧
    ((ω.traffic.behind D writeTelemetry fate₁.others).behind D writeTelemetry
      fate₂.others).world.Offers D v fate₂.moment ∧
    Cloud.Enrolls D writeTelemetry p
      ⟨(serveInstaller D W v.url fate₂.moment ((ω.traffic.behind D writeTelemetry
        fate₁.others).behind D writeTelemetry fate₂.others)).1, fates⟩

end Through

section Answers

variable {D : Deployment} {writeTelemetry : Router → π → Except Text Unit} {W : Wire}
  {ω : Cloud π}

theorem exchange_through {α : Type} {serve : Moment → Traffic π → Traffic π × Option α}
    {fate : Fate π} {fates : List (Fate π)} (hfates : ω.fates = fate :: fates)
    (h : fate.Through) : ω.exchange D writeTelemetry serve =
      (⟨(serve fate.moment (ω.traffic.behind D writeTelemetry fate.others)).1, fates⟩,
        (serve fate.moment (ω.traffic.behind D writeTelemetry fate.others)).2) := by
  unfold Cloud.exchange
  rw [hfates]
  simp only [h.arrives, h.answered, if_true]

theorem resolve_through {fate : Fate π} {fates : List (Fate π)}
    (hfates : ω.fates = fate :: fates) (h : fate.Through) (fqdn : Text) :
    (cloudUplink D writeTelemetry W).resolve fqdn ω =
      (⟨ω.traffic.behind D writeTelemetry fate.others, fates⟩, true) := by
  simp only [cloudUplink, exchange_through hfates h, Option.isSome_some]

theorem get_through {fate : Fate π} {fates : List (Fate π)} (hfates : ω.fates = fate :: fates)
    (h : fate.Through) (url : Text) : (cloudUplink D writeTelemetry W).get url ω =
      (⟨(serveInstaller D W url fate.moment
          (ω.traffic.behind D writeTelemetry fate.others)).1, fates⟩,
        (serveInstaller D W url fate.moment
          (ω.traffic.behind D writeTelemetry fate.others)).2) :=
  @exchange_through π D writeTelemetry ω _ (serveInstaller D W url) fate fates hfates h

theorem post_through {fate : Fate π} {fates : List (Fate π)} (hfates : ω.fates = fate :: fates)
    (h : fate.Through) (url secret body : Text) :
    (cloudUplink D writeTelemetry W).post url secret body ω =
      (⟨(serveEnroll D W url secret body fate.moment
          (ω.traffic.behind D writeTelemetry fate.others)).1, fates⟩,
        (serveEnroll D W url secret body fate.moment
          (ω.traffic.behind D writeTelemetry fate.others)).2) :=
  @exchange_through π D writeTelemetry ω _ (serveEnroll D W url secret body) fate fates hfates h

/-! ### A POST -/

/-- The current secret is a valid one. -/
theorem verify_current (hsecret : D.provisioningSecretCurrent ≠ []) :
    ∃ slot, verifyProvisioningSecret D D.provisioningSecretCurrent = some slot := by
  have hverify : verifyToken D.toBackend D.provisioningSecretCurrent
      (hashToken D.toBackend D.provisioningSecretCurrent) = true := by simp [verifyToken]
  refine ⟨.current, ?_⟩
  unfold verifyProvisioningSecret
  simp [hsecret, hverify]

theorem World.Admits.admissible {w : World} {p : AutoEnrollRequest} {m : Moment}
    (h : w.Admits D p m) (hsecret : D.provisioningSecretCurrent ≠ []) :
    Admissible D w (m.enrollCall p (some D.provisioningSecretCurrent)) := by
  obtain ⟨slot, hslot⟩ := verify_current hsecret
  exact ⟨⟨h.admitted _, _, slot, rfl, hsecret, hslot⟩, h.key, h.enrollable⟩

/-- **A request that is admissible is answered with a script**, if its sync goes through. -/
theorem autoEnroll_answers {w : World} {c : EnrollCall} (hwf : w.db.WF D.toBackend)
    (hadm : Admissible D w c) (hconf : w.host.conf ≠ none) (hharmless : c.faults.Harmless) :
    (autoEnroll D w c).1.script.isSome = true := by
  obtain ⟨slot, hauto⟩ := autoEnroll_of_authorized hadm.authorized
  obtain ⟨enrolled, henrolled⟩ := (enrollRow_ok_iff (c := c.toSubmission) hwf).mpr hadm.enrollable
  obtain ⟨file, hfile⟩ := Option.ne_none_iff_exists'.mp hconf
  have heff := enrollRow_effect D c.toSubmission w.db
  cases hrow : enrollRow D c.toSubmission w.db with
  | mk res db =>
    rw [hrow] at henrolled heff
    obtain rfl : res = .ok enrolled := henrolled
    have hsync := syncFromDb_harmless D.toSettings hharmless db.routers hfile
    obtain ⟨db', hdb'⟩ := audit_success heff rfl db
      (if enrolled.reenroll then .autoEnrollReenroll else .autoEnrollNew) slot
      (fetchActivePeers db.routers).length
    rw [hauto, if_neg hadm.key]
    simp only [enroll, World.limited, hrow, hsync, audited, hdb']
    rfl

/-- **The service answers `cpe-cloud-enroll`.** -/
theorem enrolls_cloud {serial : Text} {minted : List Text} (hω : ω.Undisputed D serial minted)
    (hD : (Program.enroll D.enrollValues).Plain) (hsecret : D.provisioningSecretCurrent ≠ [])
    {f : EnrollFields} {p : AutoEnrollRequest} (hf : f.Plain) (hp : f.validate = some p)
    (h : ω.Enrolls D writeTelemetry p) :
    (cloudUplink D writeTelemetry W).Enrolls D.enrollValues f ω := by
  obtain ⟨fate₁, fate₂, fates, hfates, hthrough₁, hthrough₂, hadmits⟩ := h
  have hresolve := @resolve_through π D writeTelemetry W ω _ _ hfates hthrough₁ D.serverFqdn
  have hbehind₁ : (ω.traffic.behind D writeTelemetry fate₁.others).Undisputed D serial minted
      fate₁.moment (fate₂ :: fates) := hω.behind hfates
  have hbehind₂ : ((ω.traffic.behind D writeTelemetry fate₁.others).behind D writeTelemetry
      fate₂.others).Undisputed D serial minted fate₂.moment fates := hbehind₁.same.behind rfl
  have hheader : W.header D.provisioningSecretCurrent = some D.provisioningSecretCurrent :=
    W.header_word _ (hD _ List.mem_cons_self)
  have hanswer := autoEnroll_answers hbehind₂.wf (hadmits.admissible hsecret) hadmits.conf
    hadmits.harmless
  constructor
  · show ((cloudUplink D writeTelemetry W).resolve D.serverFqdn ω).2 = true
    rw [hresolve]
  · show (((cloudUplink D writeTelemetry W).post D.enrollmentUrl D.provisioningSecretCurrent
      f.payload ((cloudUplink D writeTelemetry W).resolve D.serverFqdn ω).1).2).isSome = true
    rw [hresolve, post_through rfl hthrough₂, serveEnroll, if_pos rfl,
      EnrollFields.decode_of_plain hf, hp]
    simp only [hheader]
    exact hanswer

/-! ### A download -/

theorem downloadToken_url {v : FirstBootValues} (hfqdn : v.serverFqdn = D.serverFqdn)
    (hword : v.fetchToken.all isWord = true) : downloadToken D W v.url = some v.fetchToken := by
  unfold downloadToken FirstBootValues.url
  rw [hfqdn, List.dropPrefix?_append_of_beq _ (beq_self_eq_true _)]
  exact congrArg some (W.query_word _ hword)

/-- **The service offers an installer.** -/
theorem serveInstaller_offers {v : FirstBootValues} {m : Moment} {t : Traffic π}
    (hword : v.fetchToken.all isWord = true) (h : t.world.Offers D v m) :
    ∃ ctx, (serveInstaller D W v.url m t).2 = some ctx ∧ ctx.values = D.enrollValues := by
  obtain ⟨row, hrow⟩ := h.valid
  cases hlimit : checkRateLimit t.world.buckets "fetch".toList m.sourceIp.1 m.clock with
  | mk admitted bs =>
    have hadmitted := h.admitted
    rw [hlimit] at hadmitted
    obtain rfl : admitted = true := hadmitted
    unfold serveInstaller
    rw [downloadToken_url h.fqdn hword]
    simp only [dif_pos h.length, factoryInstaller, hlimit, hrow, if_neg h.secret, installer]
    exact ⟨_, rfl, rfl⟩

/-- **The service answers `cpe-cloud-first-boot`.** -/
theorem installs_cloud {serial : Text} {minted : List Text} (hω : ω.Undisputed D serial minted)
    (hD : (Program.enroll D.enrollValues).Plain) {v : FirstBootValues}
    (hword : v.fetchToken.all isWord = true) {f : EnrollFields} {p : AutoEnrollRequest}
    (hf : f.Plain) (hp : f.validate = some p) (h : ω.Installs D writeTelemetry W v p) :
    (cloudUplink D writeTelemetry W).Installs v f ω := by
  obtain ⟨fate₁, fate₂, fates, hfates, hthrough₁, hthrough₂, hoffers, henrolls⟩ := h
  have hresolve := @resolve_through π D writeTelemetry W ω _ _ hfates hthrough₁ v.serverFqdn
  obtain ⟨ctx, hctx, hvalues⟩ := @serveInstaller_offers π D W v fate₂.moment _ hword hoffers
  have hget := @get_through π D writeTelemetry W
    ⟨ω.traffic.behind D writeTelemetry fate₁.others, fate₂ :: fates⟩ fate₂ fates rfl hthrough₂ v.url
  have hbehind : (ω.traffic.behind D writeTelemetry fate₁.others).Undisputed D serial minted
      fate₁.moment (fate₂ :: fates) := hω.behind hfates
  have hω' : Cloud.Undisputed D serial minted ((cloudUplink D writeTelemetry W).get v.url
      ⟨ω.traffic.behind D writeTelemetry fate₁.others, fate₂ :: fates⟩).1 :=
    hbehind.same.exchange (serves_installer v.url)
  rw [hget] at hω'
  constructor
  · rw [hresolve]
  · rw [hresolve, hget]
    refine ⟨ctx, hctx, ?_⟩
    rw [hvalues]
    exact enrolls_cloud hω' hD hoffers.secret hf hp henrolls

end Answers

/-! ## A flashed router -/

section Flashed

variable {D : Deployment} {writeTelemetry : Router → π → Except Text Unit} {W : Wire}
  {B : Platform (Cloud π)} {s : Site (Cloud π)} {f : EnrollFields} {p : AutoEnrollRequest}

/-- The service lets the router in at its next tick: it enrolls what the router posts, behind the
installer if the router has none. -/
structure Platform.LetsIn (B : Platform (Cloud π)) (D : Deployment)
    (writeTelemetry : Router → π → Except Text Unit) (W : Wire) (s : Site (Cloud π))
    (f : EnrollFields) (p : AutoEnrollRequest) : Prop where
  posted : B.hardware.posted s.cpe = some f
  valid : f.validate = some p
  enrolls : ¬ s.cpe.config.Vacant → s.net.Enrolls D writeTelemetry p
  installs : s.cpe.config.Vacant → ∀ v ∈ B.firmware.firstBootAt s.cpe.config,
    s.net.Installs D writeTelemetry W v p

theorem enrollAt_vacant {F : Firmware} {κ : Config} (h : κ.Vacant) : F.enrollAt κ = none := by
  have hnamed : κ.named .systemScript enrollName = [] := h
  simp [Firmware.enrollAt, Firmware.scriptAt, hnamed]

/-- The network is clear for the router then. -/
theorem Platform.LetsIn.clear (h : B.LetsIn D writeTelemetry W s f p)
    (huplink : B.uplink = cloudUplink D writeTelemetry W) (hplain : B.hardware.Plain)
    (hD : (Program.enroll D.enrollValues).Plain) {serial : Text} {minted : List Text}
    (hnet : s.net.Undisputed D serial minted) (harmed : s.Plainly (Config.Armed B)) :
    B.Clear s := by
  obtain ⟨harmed, hown⟩ := harmed
  have hf : f.Plain := Hardware.posted_plain hplain hown h.posted
  constructor
  · intro v hv
    rcases harmed with ⟨ctx, hoffer, hentries⟩ | ⟨-, hvacant⟩
    · have hoccupied : ¬ s.cpe.config.Vacant := by simp [Config.Vacant, hentries]
      obtain ⟨hvalues, hsecret⟩ := offers_cloud huplink hoffer
      have hat := enrollAt_entries (worded_cloud huplink hD ctx hoffer)
        (congrArg Prod.fst hentries)
      obtain rfl : ctx.values = v := Option.some.inj (hat.symm.trans hv)
      refine ⟨f, h.posted, ?_⟩
      rw [huplink, hvalues]
      exact enrolls_cloud hnet hD hsecret hf h.valid (h.enrolls hoccupied)
    · rw [enrollAt_vacant hvacant] at hv
      cases hv
  · intro hvacant v hv
    rcases harmed with ⟨ctx, -, hentries⟩ | ⟨⟨v', hentries⟩, -⟩
    · rw [Config.Vacant, hentries] at hvacant
      cases hvacant
    · have hat := firstBootAt_entries (congrArg Prod.fst hentries)
      obtain rfl : v'.values = v := Option.some.inj (hat.symm.trans hv)
      have hword : v'.fetchToken.all isWord = true := v'.words _ (by simp [Program.texts])
      refine ⟨f, h.posted, ?_⟩
      rw [huplink]
      exact installs_cloud hnet hD hword hf h.valid (h.installs hvacant _ hv)

/-- Nothing that happens to a router comes between it and the service. -/
theorem undisputed_run (huplink : B.uplink = cloudUplink D writeTelemetry W)
    (hplain : B.hardware.Plain) {minted : List Text} {s' : Site (Cloud π)} {es : List Happening}
    (h : s.Unmarked (Cloud.Undisputed D (B.hardware.serial.getD []) minted))
    (hrun : Run.exec B.step s es = some s') :
    s'.net.Undisputed D (B.hardware.serial.getD []) minted := by
  have henrolled {f c} (he : B.Enrolled (Cloud.Acknowledged D minted) f c s') :
      s'.net.Undisputed D (B.hardware.serial.getD []) minted :=
    (he.sends.plain hplain).2 ▸ he.answered.undisputed
  rcases complete_or_lacking (answers_cloud huplink hplain minted) h hrun with
    ⟨-, hs | ⟨f, c, hs, -⟩⟩ | ⟨-, ⟨f, c, hs⟩, -⟩
  · exact hs.net
  · exact henrolled hs
  · exact henrolled hs

end Flashed

/-! ## Behind a lost answer -/

/-- What unit A posts behind the flash. -/
def unitAShelved : AutoEnrollRequest :=
  { unitA with
    identity := "hAP RB952Ui-5ac2nD - Shelf, HC12345678".toList
    identity_len := by decide }

theorem length_lostSite : (@lostSite Unit []).net.fates.length = 2 := by decide +kernel

/-- What its next two requests meet. -/
def lostFate (i : Fin 2) : Fate Unit :=
  (@lostSite Unit []).net.fates.get (i.cast length_lostSite.symm)

theorem fates_lostSite : (@lostSite Unit []).net.fates = [lostFate 0, lostFate 1] := by
  refine List.ext_get length_lostSite fun i hi hi' => ?_
  match i, hi' with
  | 0, _ => rfl
  | 1, _ => rfl

/-- The service when the second one gets through. -/
def lostWorld : World :=
  (((@lostSite Unit []).net.traffic.behind smallDeployment (fun _ _ => .ok ())
    (lostFate 0).others).behind smallDeployment (fun _ _ => .ok ()) (lostFate 1).others).world

theorem letsIn_lostSite : (@cloudPlatform Unit).LetsIn smallDeployment (fun _ _ => .ok ()) smallWire
    (lostSite []) unitAShelved.fields unitAShelved := by
  -- In one, for the kernel to run the flash once.
  have hflash : ¬ (@lostSite Unit []).cpe.config.Vacant ∧ (lostFate 0).Through ∧
      (lostFate 1).Through ∧
      (@cloudPlatform Unit).hardware.posted (@lostSite Unit []).cpe = some unitAShelved.fields ∧
      (limitRates lostWorld.buckets ((lostFate 1).moment.enrollCall unitAShelved none)).1 = true ∧
      (∀ r ∈ lostWorld.db.routers, r.serialNumber ≠ unitAShelved.serial →
        ¬ unitAShelved.Collides smallDeployment.toBackend r) ∧
      (∃ r ∈ lostWorld.db.routers, r.serialNumber = unitAShelved.serial) ∧
      lostWorld.host.conf ≠ none ∧ (lostFate 1).moment.faults.Harmless := by
    decide +kernel
  obtain ⟨hoccupied, hthrough₀, hthrough₁, hposted, hadmitted, hapart, hrow, hconf, hharmless⟩ :=
    hflash
  have hadmits : lostWorld.Admits smallDeployment unitAShelved (lostFate 1).moment :=
    ⟨by decide, fun _ => hadmitted, ⟨by decide, hapart, Or.inl hrow⟩, hconf, hharmless⟩
  exact ⟨hposted, by decide, fun _ => ⟨_, _, _, fates_lostSite, hthrough₀, hthrough₁, hadmits⟩,
    fun hvacant => absurd hvacant hoccupied⟩

end CpeCloud
