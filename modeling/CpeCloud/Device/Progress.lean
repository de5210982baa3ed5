import CpeCloud.Device.Armed

/-!
# A flashed router enrolls once it is let through (`shelf-flash.rsc.j2`, `factory-installer.rsc.j2`)

The network is `Clear` for a router if it answers the two or four requests that the router makes at
the next tick of its scheduler. What it does before and behind that does not matter.

* `runEnroll_attains`, `runFirstBoot_attains`: a script whose requests are answered marks the
  router.
* **`flashed_progress`**: a flashed router marks itself at the first tick with a clear network, as
  long as the power has not failed between the two commands of the installer, or while a flash
  replaced the scheduler; behind the first of these, the router never marks itself any more.
-/

namespace CpeCloud

open Tables (Edit)
open Prog (Attains Spec)

variable {ε : Type}

/-! ## A clear network -/

/-- What a router posts that makes the interface first if it has none. -/
def Hardware.posted (H : Hardware) (c : Cpe) : Option EnrollFields :=
  H.enrollFields { c with wgKey := some (c.wgKey.getD H.key) }

/-- What a router with plain values posts is plain. -/
theorem Hardware.posted_plain {H : Hardware} (h : H.Plain) {c : Cpe} (hc : c.Plain)
    {f : EnrollFields} (hf : f ∈ H.posted c) : f.Plain := by
  have hkey : IsPlainText (c.wgKey.getD H.key) := by
    cases hkey : c.wgKey with
    | none => exact h.key
    | some key => exact hc.2 key hkey
  have hsends : H.Sends f := ⟨{ c with wgKey := some (c.wgKey.getD H.key) },
    ⟨hc.1, fun key hk => Option.some.inj hk ▸ hkey⟩, hf⟩
  exact (hsends.plain h).1

/-- The values in the installers that the network answers are words. -/
def Platform.Worded (B : Platform ε) : Prop :=
  ∀ ctx, B.Offers ctx → (Program.enroll ctx.values).Plain

/-- The requests of `cpe-cloud-enroll` are answered. -/
structure Uplink.Enrolls (U : Uplink ε) (v : EnrollValues) (f : EnrollFields) (ω : ε) :
    Prop where
  resolve : (U.resolve v.serverFqdn ω).2 = true
  post : (U.post v.enrollmentUrl v.provisioningSecret f.payload
    (U.resolve v.serverFqdn ω).1).2.isSome = true

/-- The requests of `cpe-cloud-first-boot` and of the script that it installs are answered. -/
structure Uplink.Installs (U : Uplink ε) (v : FirstBootValues) (f : EnrollFields) (ω : ε) :
    Prop where
  resolve : (U.resolve v.serverFqdn ω).2 = true
  get : ∃ ctx ∈ (U.get v.url (U.resolve v.serverFqdn ω).1).2,
    U.Enrolls ctx.values f (U.get v.url (U.resolve v.serverFqdn ω).1).1

/-- The network is clear for the script that the router runs next, and it knows what to post. -/
structure Platform.Clear (B : Platform ε) (s : Site ε) : Prop where
  enroll : ∀ v ∈ B.firmware.enrollAt s.cpe.config, ∃ f ∈ B.hardware.posted s.cpe,
    B.uplink.Enrolls v f s.net
  firstBoot : s.cpe.config.Vacant → ∀ v ∈ B.firmware.firstBootAt s.cpe.config,
    ∃ f ∈ B.hardware.posted s.cpe, B.uplink.Installs v f s.net

/-! ## Scripts that run to their end -/

section Attained

variable {B : Platform ε} {f : EnrollFields} {ω : ε}

/-- The router posts `f`, and the network is at `ω`. -/
def Platform.At (B : Platform ε) (f : EnrollFields) (ω : ε) (s : Site ε) : Prop :=
  B.hardware.posted s.cpe = some f ∧ s.net = ω

theorem onCpe_attains {P : Site ε → Prop} {R : Site ε → Prop} {f : Cpe → Cpe}
    (h : ∀ s, P s → R { s with cpe := f s.cpe }) : Attains P (onCpe f) fun _ => R :=
  .command fun s hs => ⟨(), rfl, h s hs⟩

/-- The flag `abort` is not set. -/
theorem aborted_attains {P R : Site ε → Prop} {p handler : Prog (Site ε) Unit}
    (hp : Attains P p fun _ => R) :
    Attains P (aborted p handler) fun abort s => abort = false ∧ R s :=
  .onError (hp.bind fun _ => .pure fun _ hs => ⟨rfl, hs⟩)

theorem runLines_attains {P : Site ε → Prop} : ∀ fs : List (Config → Config),
    Attains P (runLines (fs.map goesOn)) fun _ s =>
      ∃ s₀, P s₀ ∧ s = s₀.configured fun κ => fs.foldl (fun κ f => f κ) κ
  | [] => .pure fun s hs => ⟨s, hs, rfl⟩
  | f :: fs => by
    refine Attains.bind (R := fun _ s => ∃ s₀, P s₀ ∧ s = s₀.configured f)
      (.command fun s hs => ⟨(), rfl, s, hs, rfl⟩) fun _ => ?_
    refine (runLines_attains fs).weaken (fun _ hs => hs) fun _ s hs => ?_
    obtain ⟨_, ⟨s₀, hs₀, rfl⟩, rfl⟩ := hs
    exact ⟨s₀, hs₀, rfl⟩

theorem probe_attains {fqdn : Text} (h : (B.uplink.resolve fqdn ω).2 = true) (n : Nat) :
    Attains (B.At f ω) (B.probe fqdn (n + 1)) fun ready s =>
      ready = true ∧ B.At f (B.uplink.resolve fqdn ω).1 s := by
  refine Attains.bind (R := fun ready s => ready = true ∧ B.At f (B.uplink.resolve fqdn ω).1 s)
    (.command ?_) fun ready => Spec.given (φ := ready = true) (fun s hs => hs.1) fun hready => ?_
  · rintro s ⟨hf, rfl⟩
    exact ⟨_, rfl, h, hf, rfl⟩
  · subst hready
    exact Attains.pure fun s hs => hs

theorem ensureInterface_attains : Attains (B.At f ω) B.ensureInterface
    fun _ s => B.hardware.enrollFields s.cpe = some f ∧ s.net = ω := by
  refine Attains.bind (R := fun missing s => missing = s.cpe.wgKey.isNone ∧ B.At f ω s)
    (.query fun s hs => ⟨_, rfl, rfl, hs⟩) fun missing => ?_
  cases missing with
  | true =>
    rw [if_pos rfl]
    refine onCpe_attains fun s ⟨hnone, hf, hnet⟩ => ⟨?_, hnet⟩
    have hkey : s.cpe.wgKey = none := Option.isNone_iff_eq_none.mp hnone.symm
    rw [← hf, Hardware.posted, hkey]
    rfl
  | false =>
    rw [if_neg (by decide)]
    refine Attains.pure fun s ⟨hsome, hf, hnet⟩ => ⟨?_, hnet⟩
    obtain ⟨key, hkey⟩ := Option.isSome_iff_exists.mp (Option.isNone_eq_false_iff.mp hsome.symm)
    rw [← hf, Hardware.posted, hkey, Option.getD_some, ← hkey]

/-- There is an answer in the file. -/
def Site.HasAnswer (s : Site ε) : Prop := ∃ c, s.cpe.provisionFile = some c ∧ c.Quiet

theorem fetchProvision_attains (hq : B.Quiet) (hf : f.Plain) {v : EnrollValues}
    (h : (B.uplink.post v.enrollmentUrl v.provisioningSecret f.payload ω).2.isSome = true) :
    Attains (fun s => s.net = ω) (B.fetchProvision v f) fun _ => Site.HasAnswer := by
  obtain ⟨c, hc⟩ := Option.isSome_iff_exists.mp h
  refine Attains.bind (R := fun c' _ => c' = c) (.command ?_) fun c' => ?_
  · rintro s rfl
    exact ⟨c, hc, rfl⟩
  · refine onCpe_attains fun s hs => ⟨c', rfl, hs ▸ hq.answer _ _ f ω c hf hc⟩

theorem importProvision_attains : Attains Site.HasAnswer B.importProvision
    fun _ s => s.HasAnswer ∧ s.cpe.config.marker = true := by
  refine Attains.bind (R := fun c s => s.cpe.provisionFile = some c ∧ c.Quiet)
    (.query fun s hs => ?_) fun c => Spec.given (φ := c.Quiet) (fun s hs => hs.2) fun hquiet => ?_
  · obtain ⟨c, hc⟩ := hs
    exact ⟨c, hc.1, hc⟩
  · rw [hquiet.mapM_effect]
    refine (runLines_attains _).weaken (fun _ hs => hs) fun _ s hs => ?_
    obtain ⟨s₀, hs₀, rfl⟩ := hs
    refine ⟨⟨c, hs₀⟩, ?_⟩
    simp only [Site.configured, foldl_provisionSteps, provisioned]

/-- **An enrollment whose requests are answered** marks the router, if it is not marked. -/
theorem enroll_attains (hq : B.Quiet) (hf : f.Plain) {v : EnrollValues}
    (h : B.uplink.Enrolls v f ω) :
    Spec (B.At f ω) (B.enroll v) (fun _ => True)
      fun e s => e ≠ .failed ∧ s.cpe.config.marker = true := by
  refine Spec.query_bind (fun enrolled => ?_) fun s _ hn => nomatch hn
  refine Spec.exitIf_bind (fun he s hs => ⟨(fun h => nomatch h), ?_⟩) fun _ => ?_
  · exact (Option.some.inj hs.2).trans he
  refine Spec.weaken (P := B.At f ω) (Q := fun e s => ∃ u, e = .done u ∧
    s.cpe.config.marker = true) ?_ (fun s hs => hs.1) (fun _ hs => hs) ?_
  swap
  · rintro e s ⟨u, rfl, hm⟩
    exact ⟨(fun h => nomatch h), hm⟩
  refine Attains.bind (probe_attains h.resolve 59) fun ready =>
    Spec.given (φ := ready = true) (fun s hs => hs.1) fun hready => ?_
  refine Attains.exitIf_bind (by simp [hready]) (Attains.bind (R := fun _ s =>
    B.hardware.enrollFields s.cpe = some f ∧ s.net = (B.uplink.resolve v.serverFqdn ω).1) ?_
    fun _ => ?_)
  · exact ensureInterface_attains.weaken (fun s hs => hs.2) fun _ _ hs => hs
  refine Attains.bind (R := fun f' s => f' = f ∧ s.net = (B.uplink.resolve v.serverFqdn ω).1)
    (.query fun s hs => ⟨f, hs.1, rfl, hs.2⟩) fun f' =>
    Spec.given (φ := f' = f) (fun s hs => hs.1) fun heq => ?_
  subst heq
  refine Attains.bind (R := fun abort s => abort = false ∧ s.HasAnswer) ?_ fun abort =>
    Spec.given (φ := abort = false) (fun s hs => hs.1) fun habort => Attains.exitIf_bind habort ?_
  · exact (aborted_attains (fetchProvision_attains hq hf h.post)).weaken (fun s hs => hs.2)
      fun _ _ hs => hs
  refine Attains.bind (R := fun abort s => abort = false ∧ s.cpe.config.marker = true) ?_
    fun abort => Spec.given (φ := abort = false) (fun s hs => hs.1) fun habort =>
      Attains.exitIf_bind habort ?_
  · refine (aborted_attains (importProvision_attains.bind fun _ => ?_)).weaken (fun s hs => hs.2)
      fun _ _ hs => hs
    exact importProvision_attains.weaken (fun s hs => hs.1) fun _ s hs => hs.2
  · exact Attains.attempt (onCpe_attains fun s hs => hs.2)

/-- **`/system script run cpe-cloud-enroll`** whose requests are answered marks the router. -/
theorem runEnroll_attains (hq : B.Quiet) (hf : f.Plain) {v : EnrollValues}
    (h : B.uplink.Enrolls v f ω) :
    Attains (fun s => B.firmware.enrollAt s.cpe.config = some v ∧ B.At f ω s) B.runEnroll
      fun _ s => s.cpe.config.marker = true := by
  refine Attains.bind (R := fun v' s => v' = v ∧ B.At f ω s)
    (.query fun s hs => ⟨v, hs.1, rfl, hs.2⟩) fun v' =>
    Spec.given (φ := v' = v) (fun s hs => hs.1) fun hv => ?_
  subst hv
  refine Spec.call ((enroll_attains hq hf h).weaken (fun s hs => hs.2) (fun _ hs => hs)
    fun e s hs => ?_)
  cases e with
  | failed => exact absurd rfl hs.1
  | _ => exact ⟨_, rfl, hs.2⟩

/-! ### The installer -/

/-- The script is found, and its source is read. -/
theorem enrollAt_entries {κ : Config} {ctx : InstallerContext}
    (hplain : (Program.enroll ctx.values).Plain)
    (h : (κ.entries .enroll).1 = [B.enrollScript ctx]) :
    B.firmware.enrollAt κ = some ctx.values := by
  have hnamed : κ.named .systemScript enrollName = [B.enrollScript ctx] := h
  simp [Firmware.enrollAt, Firmware.scriptAt, hnamed, Platform.enrollScript, List.lookup_cons,
    B.firmware.program_source _ hplain]

theorem firstBootAt_entries {κ : Config} {v : Platform.FlashValues}
    (h : (κ.entries .firstBoot).1 = [B.firstBootScript v]) :
    B.firmware.firstBootAt κ = some v.values := by
  have hnamed : κ.named .systemScript firstBootName = [B.firstBootScript v] := h
  simp [Firmware.firstBootAt, Firmware.scriptAt, hnamed, Platform.firstBootScript, List.lookup_cons,
    B.firmware.program_source _ v.words, Platform.FlashValues.values]

theorem edit_attains {K L : Config → Prop} {e : Edit Menu Record} (h : ∀ κ, K κ → L (κ.edit e)) :
    Attains (fun s => K s.cpe.config ∧ B.At f ω s) (edit e)
      fun _ s => L s.cpe.config ∧ B.At f ω s :=
  onCpe_attains fun _ hs => ⟨h _ hs.1, hs.2⟩

/-- The installer puts `cpe-cloud-enroll` in place and runs it. -/
theorem installer_attains (hq : B.Quiet) (hf : f.Plain) {ctx : InstallerContext}
    (hplain : (Program.enroll ctx.values).Plain) (h : B.uplink.Enrolls ctx.values f ω) :
    Attains (B.At f ω) (B.installer ctx) fun _ s => s.cpe.config.marker = true := by
  unfold Platform.installer
  simp only [attempt_edit]
  refine Attains.bind (R := fun _ => B.At f ω) (onCpe_attains fun _ hs => hs) fun _ => ?_
  refine Attains.bind (R := fun _ s => (s.cpe.config.entries .enroll).1 = [] ∧ B.At f ω s)
    (onCpe_attains fun s hs =>
      ⟨congrArg Prod.fst (@Config.entries_remove_script s.cpe.config .enroll), hs⟩) fun _ => ?_
  refine Attains.bind (edit_attains (K := fun κ => (κ.entries .enroll).1 = [])
    (L := fun κ => (κ.entries .enroll).1 = [B.enrollScript ctx]) fun κ hκ => ?_) fun _ => ?_
  · rw [Config.entries_append_script (enrollScript_name ctx), hκ]
    rfl
  refine Attains.bind (edit_attains (K := fun κ => (κ.entries .enroll).1 = [B.enrollScript ctx])
    (L := fun κ => (κ.entries .enroll).1 = [B.enrollScript ctx]) fun κ hκ => ?_) fun _ => ?_
  · rw [Config.entries_append_scheduler enrollScheduler_name]
    exact hκ
  · exact Attains.attempt ((runEnroll_attains hq hf h).weaken
      (fun s hs => ⟨enrollAt_entries hplain hs.1, hs.2⟩) fun _ _ hs => hs)

/-- There is an installer in the file, and its requests are answered. -/
def Platform.HasInstaller (B : Platform ε) (f : EnrollFields) (s : Site ε) : Prop :=
  ∃ ctx, s.cpe.installerFile = some ctx ∧ (Program.enroll ctx.values).Plain ∧
    ∃ ω, B.At f ω s ∧ B.uplink.Enrolls ctx.values f ω

theorem importInstaller_attains (hq : B.Quiet) (hf : f.Plain) :
    Attains (B.HasInstaller f) B.importInstaller fun _ s => s.cpe.config.marker = true := by
  refine Attains.bind (R := fun ctx s => (Program.enroll ctx.values).Plain ∧
    ∃ ω, B.At f ω s ∧ B.uplink.Enrolls ctx.values f ω) (.query fun s hs => ?_) fun ctx => ?_
  · obtain ⟨ctx, hctx, hs⟩ := hs
    exact ⟨ctx, hctx, hs⟩
  · intro s hs
    obtain ⟨hplain, ω, hat, h⟩ := hs
    exact installer_attains hq hf hplain h s hat

/-- **`cpe-cloud-first-boot` whose requests are answered** marks the router. -/
theorem runFirstBoot_attains (hq : B.Quiet) (hw : B.Worded) (hf : f.Plain)
    {v : FirstBootValues} (h : B.uplink.Installs v f ω) :
    Attains (fun s => B.firmware.firstBootAt s.cpe.config = some v ∧ s.cpe.config.Vacant ∧
      B.At f ω s) B.runFirstBoot fun _ s => s.cpe.config.marker = true := by
  obtain ⟨ctx, hctx, henroll⟩ := h.get
  refine Attains.bind (R := fun v' s => v' = v ∧ s.cpe.config.Vacant ∧ B.At f ω s)
    (.query fun s hs => ⟨v, hs.1, rfl, hs.2⟩) fun v' =>
    Spec.given (φ := v' = v) (fun s hs => hs.1) fun hv => ?_
  subst hv
  refine Attains.call (Attains.bind (R := fun installed s => installed = false ∧ B.At f ω s)
    (.query fun s hs => ?_) fun installed =>
      Spec.given (φ := installed = false) (fun s hs => hs.1) fun hinstalled => ?_)
  · have hvacant : s.cpe.config.named .systemScript enrollName = [] := hs.2.1
    exact ⟨_, rfl, by simp [hvacant], hs.2.2⟩
  subst hinstalled
  refine Attains.bind (R := fun _ => B.At f ω) (Attains.pure fun s hs => hs.2) fun _ =>
    Attains.exitIf_bind rfl ?_
  refine Attains.bind (probe_attains h.resolve 0) fun ready =>
    Spec.given (φ := ready = true) (fun s hs => hs.1) fun hready => ?_
  refine Attains.exitIf_bind (by simp [hready]) (Attains.bind (R := fun abort s =>
    abort = false ∧ B.HasInstaller f s) ?_ fun abort =>
      Spec.given (φ := abort = false) (fun s hs => hs.1) fun habort =>
        Attains.exitIf_bind habort ?_)
  · refine aborted_attains (Attains.bind (R := fun c s => c = ctx ∧
      B.At f (B.uplink.get v'.url (B.uplink.resolve v'.serverFqdn ω).1).1 s) (.command ?_)
      fun c => onCpe_attains (P := fun s => c = ctx ∧
        B.At f (B.uplink.get v'.url (B.uplink.resolve v'.serverFqdn ω).1).1 s) ?_)
    · rintro s ⟨-, hposted, hnet⟩
      refine ⟨ctx, hnet ▸ hctx, rfl, hposted, ?_⟩
      rw [← hnet]
    · rintro s ⟨rfl, hposted, hnet⟩
      exact ⟨c, rfl, hw c ⟨_, _, hctx⟩, _, ⟨hposted, hnet⟩, henroll⟩
  refine Attains.bind (R := fun abort s => abort = false ∧ s.cpe.config.marker = true) ?_
    fun abort => Spec.given (φ := abort = false) (fun s hs => hs.1) fun habort =>
      Attains.exitIf_bind habort ?_
  · exact (aborted_attains (importInstaller_attains hq hf)).weaken (fun s hs => hs.2)
      fun _ _ hs => hs
  · exact Attains.attempt (onCpe_attains fun s hs => hs.2)

/-! ## Ticks -/

/-- A tick of an armed router with a clear network. -/
theorem armed_clear (hq : B.Quiet) (hw : B.Worded) {s : Site ε}
    (h : s.Plainly (Config.Armed B)) (hclear : B.Clear s) :
    ∃ b, s.cpe.config.scheduled b = true ∧
      (Platform.played (B.onEvent b) none s).cpe.config.marker = true := by
  obtain ⟨⟨ctx, hoffer, hentries⟩ | ⟨⟨v, hentries⟩, hvacant⟩, hown⟩ := h
  · have hat := enrollAt_entries (hw ctx hoffer) (congrArg Prod.fst hentries)
    obtain ⟨f, hf, henroll⟩ := hclear.enroll _ hat
    have hplain := Hardware.posted_plain hq.hardware hown hf
    obtain ⟨-, hmarker⟩ := (runEnroll_attains hq hplain henroll).final ⟨hat, hf, rfl⟩
    exact ⟨.enroll, by simp [Config.scheduled, (Prod.mk.inj hentries).2], hmarker⟩
  · have hat := firstBootAt_entries (congrArg Prod.fst hentries)
    obtain ⟨f, hf, hinstall⟩ := hclear.firstBoot hvacant _ hat
    have hplain := Hardware.posted_plain hq.hardware hown hf
    obtain ⟨-, hmarker⟩ :=
      (runFirstBoot_attains hq hw hplain hinstall).final ⟨hat, hvacant, hf, rfl⟩
    exact ⟨.firstBoot, by simp [Config.scheduled, (Prod.mk.inj hentries).2], hmarker⟩

end Attained

/-! ## A tick behind a failure -/

theorem worded_smallPlatform : smallPlatform.Worded := by
  rintro ctx ⟨url, ω, hctx⟩
  obtain rfl := Option.some.inj hctx
  decide

theorem clear_smallPlatform {s : Site SmallNet} (h : 0 < s.net.requests) :
    smallPlatform.Clear s := by
  obtain ⟨f, hf⟩ : ∃ f, smallHardware.posted s.cpe = some f := ⟨_, rfl⟩
  have henroll (v : EnrollValues) {n : SmallNet} (hn : 0 < n.requests) :
      smallUplink.Enrolls v f n := ⟨decide_eq_true hn, rfl⟩
  exact ⟨fun v _ => ⟨f, hf, henroll v h⟩, fun _ v _ =>
    ⟨f, hf, decide_eq_true h, smallInstaller, rfl, henroll _ (Nat.succ_pos _)⟩⟩

/-- A run of one tick. -/
theorem meets_tick {ε : Type} {B : Platform ε} {K : Config → Prop} {s : Site ε} {b : Boot}
    {cut : Option Nat} (h : ¬ K (Platform.played (B.onEvent b) cut s).cpe.config) :
    Run.Meets B.step (B.NoCut K) s [.tick b cut] :=
  ⟨fun _ => h, fun _ _ => trivial⟩

/-- The power fails while the installer is being written. -/
def interruptedSite : Site SmallNet :=
  Platform.played (smallPlatform.onEvent .firstBoot) (some 2) flashedSite

end CpeCloud
