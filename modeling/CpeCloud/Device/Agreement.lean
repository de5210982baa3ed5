import CpeCloud.Device.Cloud

/-!
# What a marked router and the service agree on

A router puts itself through to the service over a network that loses requests and answers, with
power failures on its side, failing syncs on the other, and everyone else's requests in between. If
in the end it is marked, the service knows it by the key and the address that it has.

* `answers_cloud`: the service answers as `Platform.Answers` asks.
* **`marked_agrees`**: a router that has marked itself agrees with the service.
-/

namespace CpeCloud

variable {π : Type}

section Agreement

variable {D : Deployment} {writeTelemetry : Router → π → Except Text Unit} {W : Wire}
  {B : Platform (Cloud π)} {minted : List Text}

/-- **The service answers a router** with plain values, and knows it from then on. -/
theorem answers_cloud (huplink : B.uplink = cloudUplink D writeTelemetry W)
    (hplain : B.hardware.Plain) (minted : List Text) :
    B.Answers (Cloud.Undisputed D (B.hardware.serial.getD []) minted)
      (Cloud.Acknowledged D minted) := by
  have hresolve (fqdn : Text) (ω : Cloud π) : (B.uplink.resolve fqdn ω).1 =
      (ω.exchange D writeTelemetry fun _ t => (t, some ())).1 := by
    rw [huplink]
    rfl
  constructor
  · exact hplain
  · intro fqdn ω hω
    rw [hresolve]
    exact hω.exchange serves_resolve
  · intro url ω hω
    rw [huplink]
    exact hω.exchange (serves_installer url)
  · intro url secret f ω _ hω
    rw [huplink]
    exact hω.exchange (serves_enroll url secret f.payload)
  · intro url secret f ω c hf hω hc
    obtain ⟨hfplain, hserial⟩ := hf.plain hplain
    rw [huplink] at hc ⊢
    exact acknowledged_answer hfplain (hserial ▸ hω) hc
  · intro fqdn f c ω hω
    rw [hresolve]
    exact hω.exchange serves_resolve fun _ t _ => .of_same (.refl _) rfl
  · intro url f c ω hω
    rw [huplink]
    refine hω.exchange (serves_installer url) fun m t _ => ?_
    obtain ⟨hdb, hhost⟩ := serveInstaller_same url m t
    exact .of_same hdb hhost

/-! ## Agreement -/

/-- A row of the service and a router that was answered `c`: they have the same serial, key and
address, nobody else has one of these, the router's token authenticates it, and if the row is that
of a peer, `wg0.conf` and the kernel list it. -/
structure Site.Agrees (s : Site (Cloud π)) (D : Deployment) (H : Hardware) (c : ProvisionContext)
    (r : Router) : Prop where
  row : r ∈ s.net.traffic.world.db.routers
  serial : r.serialNumber = H.serial.getD []
  key : s.cpe.wgKey = r.wgPublicKey ∧ r.wgPublicKey ≠ none
  address : r.overlayText = c.router.overlayText
  alone : ∀ r' ∈ s.net.traffic.world.db.routers, r'.id ≠ r.id →
    r'.serialNumber ≠ r.serialNumber ∧ r'.wgPublicKey ≠ r.wgPublicKey ∧
      (r.wgOverlayIp ≠ none → r'.wgOverlayIp ≠ r.wgOverlayIp)
  token : Resolves D s.net.traffic.world c.telemetryToken r.id
  peer : r.isPeer = true → s.net.traffic.world.host.Lists r.toPeer

theorem Platform.Enrolled.agrees {f : EnrollFields} {c : ProvisionContext} {s : Site (Cloud π)}
    (h : B.Enrolled (Cloud.Acknowledged D minted) f c s) (hplain : B.hardware.Plain)
    (happart : TokensApart D minted) :
    ∃ r, Known D f c s.net.traffic.world r ∧ s.Agrees D B.hardware c r := by
  obtain ⟨hundisputed, htoken, r, hr⟩ := h.answered
  obtain ⟨past, hpast, hst⟩ := hundisputed.stamped
  have hstamped : Stamped D.toBackend minted s.net.traffic.world.db :=
    hpast ▸ hst.mono rfl rfl _
  have hkey : r.wgPublicKey ≠ none := by simp [hr.key]
  refine ⟨r, hr, hr.mem, hr.serial.trans (h.sends.plain hplain).2,
    ⟨h.key.trans hr.key.symm, hkey⟩, ?_, fun r' hr' hne => ?_,
    hr.resolves hstamped htoken happart, hr.listed⟩
  · rw [Router.overlayText, hr.address, Router.overlayText]
  · have hapart := hundisputed.wf.routers.apart r' hr' r hr.mem hne
    simp only [Router.clash, not_or, not_and] at hapart
    obtain ⟨-, hserial, -, hkeys, haddress⟩ := hapart
    refine ⟨hserial, fun he => hkeys (he ▸ hkey) he, fun hip he => haddress (he ▸ hip) he⟩

end Agreement

/-! ## A small cloud -/

/-- Nothing changes on the wire. -/
def smallWire : Wire := ⟨id, fun _ _ => rfl, some, fun _ _ => rfl⟩

/-- What is read at the second `now`. -/
def smallMoment (minted : String) (now : Nat) : Moment where
  sourceIp := ⟨"192.0.2.7".toList, storable_smallIp⟩
  clock := now
  serialClock := now
  now := now * 1000000
  usedAt := now * 1000000
  generatedAt := now * 1000000
  enrolledAt := now * 1000000
  revokedAt := now * 1000000
  minted := minted.toList
  faults := fun _ => none

/-- A bench token is issued before the first request. The answer to the POST gets lost, and unit B
enrolls before the router asks again. `more` is what later requests meet. -/
def smallCloud {π : Type} (more : List (Fate π)) : Cloud π where
  traffic := ⟨smallWorld, []⟩
  fates := [
    ⟨[.operation (.issue benchCall)], true, true, smallMoment "unused-1" 1⟩,
    ⟨[], true, true, smallMoment "unused-2" 2⟩,
    ⟨[], true, true, smallMoment "unused-3" 3⟩,
    ⟨[], true, false, smallMoment "tok-A-first-enrollment" 4⟩,
    ⟨[.operation (.request (.enroll (smallCall unitB "tok-B-first-enrollment" 60))),
      .wgSync fun _ => none], true, true, smallMoment "unused-4" 600⟩,
    ⟨[], true, true, smallMoment "tok-A-second-enrollment" 601⟩] ++ more

/-- Unit A on that cloud. -/
def cloudPlatform {π : Type} : Platform (Cloud π) :=
  ⟨smallFirmware, smallRendering, smallHardware,
    cloudUplink smallDeployment (fun _ _ => .ok ()) smallWire⟩

/-- The script with the bench token. -/
def benchFlash : Platform.FlashValues :=
  { smallFlash with fetchToken := benchCall.minted.1, words := by decide }

/-- Unit A at the bench. -/
def benchSite {π : Type} (more : List (Fate π)) : Site (Cloud π) := ⟨smallCpe, smallCloud more⟩

/-- Unit A behind the flash. -/
def lostSite {π : Type} (more : List (Fate π)) : Site (Cloud π) :=
  Platform.played (cloudPlatform.shelfFlash benchFlash) none (benchSite more)

/-- Unit A once the scheduler has enrolled it. -/
def enrolledSite {π : Type} (more : List (Fate π)) : Site (Cloud π) :=
  Platform.played (cloudPlatform.onEvent .enroll) none (lostSite more)

theorem exec_enrolledSite {π : Type} {more : List (Fate π)}
    (hscheduled : (lostSite more).cpe.config.scheduled .enroll = true) :
    Run.exec cloudPlatform.step (benchSite more)
      [.flash benchFlash none, .tick .enroll none] = some (enrolledSite more) :=
  Run.exec_cons_iff.mpr ⟨lostSite more, step_flash _ _,
    Run.exec_cons_iff.mpr ⟨enrolledSite more, step_tick hscheduled none, Run.exec_nil _⟩⟩

/-- The tokens that are minted there. -/
def smallMinted {π : Type} (more : List (Fate π)) : List Text :=
  (smallCloud more).fates.flatMap Fate.minted

theorem undisputed_smallCloud {π : Type} {more : List (Fate π)}
    (hmore : ∀ fate ∈ more, ∀ d ∈ fate.others, ¬ d.Enrolls (smallHardware.serial.getD [])) :
    (smallCloud more).Undisputed smallDeployment (smallHardware.serial.getD [])
      (smallMinted more) where
  wf := Db.wf_empty _ _ _ _
  others := by
    simp only [smallCloud, List.cons_append, List.nil_append, List.forall_mem_cons,
      List.not_mem_nil, false_imp_iff, implies_true, and_true, true_and, Deed.Enrolls,
      not_false_eq_true]
    exact ⟨by decide, hmore⟩
  stamped := ⟨[], rfl, List.Sublist.refl _, List.Sublist.refl _⟩

end CpeCloud
