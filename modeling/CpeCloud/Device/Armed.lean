import CpeCloud.Device.Bootstrap
import CpeCloud.Lib.Run

/-!
# A flashed router goes on trying (`shelf-flash.rsc.j2`, `factory-installer.rsc.j2`)

`Armed` says that `cpe-cloud-enroll` is in place with its scheduler, or `cpe-cloud-first-boot` is,
while there is no `cpe-cloud-enroll`. Scripts are added before their schedulers, and
`cpe-cloud-first-boot` stands down for a script without looking for its scheduler. So a router on
which the power fails between the two commands of the installer is `Stranded`. A flash removes the
scheduler of `cpe-cloud-first-boot` before it adds its own, and a router on which the power fails in
between is `Disarmed` until it is flashed again.

* `enroll_keeps`: what an enrollment leaves alone.
* **`armed_or_stranded`**: a flashed router is armed, but for a power failure at one of these
  points, and stranded for good behind one at the first.
* **`stranded_run`**: a stranded router asks nothing of the network any more, however often it is
  flashed.
-/

namespace CpeCloud

open Tables (Edit)

/-! ## Records under a name -/

theorem Record.has_ne {key : String} {a b : Text} (hab : a ≠ b) {r : Record}
    (h : r.has key a = true) : r.has key b = false := by
  simp only [Record.has, beq_iff_eq] at h
  simp [Record.has, h, hab]

namespace Config

variable {κ : Config} {menu : Menu} {name : String}

theorem named_edit {e : Edit Menu Record} (h : e.Spares menu (Record.has "name" name.toList)) :
    (κ.edit e).named menu name = κ.named menu name :=
  h.filter_apply κ.records

theorem named_remove : (κ.edit (removeFind menu "name" name)).named menu name = [] := by
  simp [named, edit, removeFind, Edit.apply, List.filter_filter]

theorem named_append {r : Record} (h : r.has "name" name.toList = true) :
    (κ.edit (.append menu r)).named menu name = κ.named menu name ++ [r] := by
  simp [named, edit, Edit.apply, h]

end Config

/-- A removal spares the records under another name. -/
theorem spares_remove_name {menu menu' : Menu} {name name' : String}
    (h : name.toList ≠ name'.toList) :
    (removeFind menu' "name" name').Spares menu (Record.has "name" name.toList) :=
  fun _ _ hr => Record.has_ne h hr

/-- An addition spares the records under another name than its own. -/
theorem spares_append_name {menu menu' : Menu} {name name' : String} {r : Record}
    (h : name'.toList ≠ name.toList) (hr : r.has "name" name'.toList = true) :
    (Edit.append menu' r).Spares menu (Record.has "name" name.toList) :=
  fun _ => Record.has_ne h hr

/-- An edit of one menu spares the other ones. -/
theorem spares_remove_menu {menu menu' : Menu} (h : menu' ≠ menu) (key value : String)
    (p : Record → Bool) : (removeFind menu' key value).Spares menu p :=
  fun hm => absurd hm h

theorem spares_append_menu {menu menu' : Menu} (h : menu' ≠ menu) (r : Record)
    (p : Record → Bool) : (Edit.append menu' r).Spares menu p :=
  fun hm => absurd hm h

theorem Boot.name_ne {b b' : Boot} (h : b ≠ b') : b.name.toList ≠ b'.name.toList := by
  cases b <;> cases b' <;> first | exact absurd rfl h | decide

theorem Boot.name_ne_telemetry (b : Boot) : b.name.toList ≠ "cpe-cloud-telemetry".toList := by
  cases b <;> decide

/-- What the provisioning script adds, its own `find`s select. -/
theorem selected_of_append {V : Rendering} {c : ProvisionContext} {menu : Menu} {r : Record}
    (h : Edit.append menu r ∈ provisionEdits V c) : selected menu r = true := by
  simp only [provisionEdits, removeFind, List.mem_cons, List.not_mem_nil, or_false, reduceCtorEq,
    false_or, Edit.append.injEq] at h
  rcases h with ⟨rfl, rfl⟩ | ⟨rfl, rfl⟩ | ⟨rfl, rfl⟩ | ⟨rfl, rfl⟩ | ⟨rfl, rfl⟩ <;> rfl

/-- The provisioning script spares what its `find`s do not select. -/
theorem spares_provision {V : Rendering} {c : ProvisionContext} {menu : Menu} {p : Record → Bool}
    (h : ∀ r, p r = true → selected menu r = false) :
    ∀ e ∈ provisionEdits V c, e.Spares menu p := by
  intro e he
  cases e with
  | delete j q =>
    rintro rfl r hr
    by_contra hq
    have hsel : Tables.selects (provisionEdits V c) j r = true :=
      List.any_eq_true.mpr ⟨_, he, by simpa [Edit.selects] using hq⟩
    rw [selects_provisionEdits, h r hr] at hsel
    cases hsel
  | append j r =>
    rintro rfl
    by_contra hr
    have hsel := selected_of_append he
    rw [h r (by simpa using hr)] at hsel
    cases hsel

/-! ## The entries of the two names -/

/-- The scripts and the schedulers of a name. -/
def Config.entries (κ : Config) (b : Boot) : List Record × List Record :=
  (κ.named .systemScript b.name, κ.named .systemScheduler b.name)

/-- The edit leaves them alone. -/
structure SparesBoot (b : Boot) (e : Edit Menu Record) : Prop where
  script : e.Spares .systemScript (Record.has "name" b.name.toList)
  scheduler : e.Spares .systemScheduler (Record.has "name" b.name.toList)

theorem sparesBoot_remove {b b' : Boot} (h : b ≠ b') (menu : Menu) :
    SparesBoot b (removeFind menu "name" b'.name) :=
  ⟨spares_remove_name (Boot.name_ne h), spares_remove_name (Boot.name_ne h)⟩

theorem sparesBoot_append {b b' : Boot} (h : b' ≠ b) {menu : Menu} {r : Record}
    (hr : r.has "name" b'.name.toList = true) : SparesBoot b (.append menu r) :=
  ⟨spares_append_name (Boot.name_ne h) hr, spares_append_name (Boot.name_ne h) hr⟩

/-- A flash and `cpe-cloud-first-boot` remove entries of that name only. -/
theorem sparesEnroll_remove (menu : Menu) :
    SparesBoot .enroll (removeFind menu "name" firstBootName) :=
  @sparesBoot_remove .enroll .firstBoot (by decide) menu

/-- A flash adds entries of that name only. -/
theorem sparesEnroll_append {menu : Menu} {r : Record}
    (hr : r.has "name" Boot.firstBoot.name.toList = true) : SparesBoot .enroll (.append menu r) :=
  @sparesBoot_append .enroll .firstBoot (by decide) menu r hr

theorem sparesBoot_provision (b : Boot) {V : Rendering} {c : ProvisionContext}
    {e : Edit Menu Record} (he : e ∈ provisionEdits V c) : SparesBoot b e :=
  ⟨spares_provision (fun r hr => show selected .systemScript r = false from
      Record.has_ne b.name_ne_telemetry hr) e he,
    spares_provision (fun r hr => show selected .systemScheduler r = false from
      Record.has_ne b.name_ne_telemetry hr) e he⟩

namespace Config

variable {κ : Config} {b : Boot}

theorem entries_edit {e : Edit Menu Record} (h : SparesBoot b e) :
    (κ.edit e).entries b = κ.entries b := by
  rw [entries, named_edit h.script, named_edit h.scheduler, entries]

theorem entries_remove_scheduler :
    (κ.edit (removeFind .systemScheduler "name" b.name)).entries b = ((κ.entries b).1, []) := by
  rw [entries, named_remove, named_edit (spares_remove_menu (by decide) _ _ _)]
  rfl

theorem entries_remove_script :
    (κ.edit (removeFind .systemScript "name" b.name)).entries b = ([], (κ.entries b).2) := by
  rw [entries, named_remove, named_edit (spares_remove_menu (by decide) _ _ _)]
  rfl

theorem entries_append_script {r : Record} (hr : r.has "name" b.name.toList = true) :
    (κ.edit (.append .systemScript r)).entries b = ((κ.entries b).1 ++ [r], (κ.entries b).2) := by
  rw [entries, named_append hr, named_edit (spares_append_menu (by decide) _ _)]
  rfl

theorem entries_append_scheduler {r : Record} (hr : r.has "name" b.name.toList = true) :
    (κ.edit (.append .systemScheduler r)).entries b =
      ((κ.entries b).1, (κ.entries b).2 ++ [r]) := by
  rw [entries, named_append hr, named_edit (spares_append_menu (by decide) _ _)]
  rfl

end Config

/-! ## What an enrollment leaves alone -/

/-- The site behind a command on the configuration. -/
def Site.configured {ε : Type} (s : Site ε) (f : Config → Config) : Site ε :=
  { s with cpe := { s.cpe with config := f s.cpe.config } }

/-- What the lines of a provisioning script do, its header included. -/
def provisionSteps (V : Rendering) (c : ProvisionContext) : List (Config → Config) :=
  [id, id, id] ++ templateSteps V c

theorem foldl_provisionSteps (V : Rendering) (c : ProvisionContext) (κ : Config) :
    (provisionSteps V c).foldl (fun κ f => f κ) κ = provisioned V c κ :=
  foldl_templateSteps V c κ

theorem ProvisionContext.Quiet.mapM_effect {c : ProvisionContext} (h : c.Quiet) (R : RouterOs)
    (V : Rendering) :
    (provisionScript V c).mapM R.effect = some ((provisionSteps V c).map goesOn) := by
  rw [mapM_provision, R.lines_comments h]
  rfl

/-- What is looked up on the device is plain, and where plain values are posted, the names in the
answer add nothing to a script. -/
structure Platform.Quiet {ε : Type} (B : Platform ε) : Prop where
  hardware : B.hardware.Plain
  answer : ∀ url secret f ω c, EnrollFields.Plain f →
    (B.uplink.post url secret f.payload ω).2 = some c → c.Quiet

/-- The network answers some download with this installer. -/
def Platform.Offers {ε : Type} (B : Platform ε) (ctx : InstallerContext) : Prop :=
  ∃ url ω, (B.uplink.get url ω).2 = some ctx

/-- The name in the file adds nothing to a script. -/
def Cpe.QuietFile (c : Cpe) : Prop := ∀ answer ∈ c.provisionFile, answer.Quiet

section Frames

variable {ε : Type} {I : Site ε → Prop}

theorem onCpe_keeps {f : Cpe → Cpe} (h : ∀ s, I s → I { s with cpe := f s.cpe }) :
    Prog.Keeps I (onCpe f) :=
  .command h

theorem aborted_restores {C : Site ε → Prop} {p handler : Prog (Site ε) Unit}
    (hp : Prog.Restores I C p) (hh : Prog.Restores I C handler) :
    Prog.Restores I C (aborted p handler) :=
  .onError (hp.bind fun _ => .pure _) (hh.bind fun _ => .pure _)

theorem aborted_keeps {p handler : Prog (Site ε) Unit} (hp : Prog.Keeps I p)
    (hh : Prog.Keeps I handler) : Prog.Keeps I (aborted p handler) :=
  .of_spec (aborted_restores hp.spec hh.spec)

/-- The flag `abort` is not set where the program came to its end. -/
theorem aborted_spec {G : Site ε → Prop} {p handler : Prog (Site ε) Unit}
    (hp : Prog.Spec I p I fun e s => I s ∧ (e = .done () → G s)) (hh : Prog.Keeps I handler) :
    Prog.Spec I (aborted p handler) I fun e s => I s ∧ (e = .done false → G s) := by
  refine Prog.Spec.onError (R := I) ?_ ?_
  · refine Prog.Spec.bind hp (fun _ => ?_) ?_ ?_
    · exact Prog.Spec.pure fun s hs => ⟨hs.1, fun _ => hs.2 rfl⟩
    · exact fun s hs => ⟨hs.1, fun he => nomatch he⟩
    · exact fun s hs => hs.1
  · refine Prog.Spec.bind hh.spec (fun _ => ?_) ?_ ?_
    · exact Prog.Spec.pure fun s hs => ⟨hs, fun he => nomatch he⟩
    · exact fun s hs => ⟨hs, fun he => nomatch he⟩
    · exact fun s hs => ⟨hs, fun he => nomatch he⟩

theorem runLines_keeps : ∀ {fs : List (Config → Config)},
    (∀ f ∈ fs, ∀ s, I s → I (s.configured f)) → Prog.Keeps I (runLines (fs.map goesOn))
  | [], _ => .pure _
  | f :: _, h => Prog.Keeps.bind (Prog.Keeps.command fun s hs => h f List.mem_cons_self s hs)
      fun _ => runLines_keeps fun g hg => h g (List.mem_cons_of_mem f hg)

theorem probe_restores {C : Site ε → Prop} (B : Platform ε) (hC : ∀ s, I s → C s)
    (h : ∀ s fqdn, I s → I { s with net := (B.uplink.resolve fqdn s.net).1 }) (fqdn : Text) :
    ∀ n, Prog.Restores I C (B.probe fqdn n)
  | 0 => .pure _
  | n + 1 => by
    refine .bind (.command hC fun s hs => h s fqdn hs) fun ready => ?_
    split
    · exact .pure _
    · exact probe_restores B hC h fqdn n

theorem probe_keeps (B : Platform ε) (h : ∀ s ω, I s → I { s with net := ω }) (fqdn : Text)
    (n : Nat) : Prog.Keeps I (B.probe fqdn n) :=
  .of_spec (probe_restores B (fun _ hs => hs) (fun s _ => h s _) fqdn n)

theorem ensureInterface_keeps (B : Platform ε)
    (h : ∀ s, I s → I { s with cpe := { s.cpe with wgKey := some B.hardware.key } }) :
    Prog.Keeps I B.ensureInterface := by
  refine (Prog.Keeps.query _).bind fun missing => ?_
  split
  · exact onCpe_keeps h
  · exact .pure _

/-- `I` does not look at what an enrollment changes. -/
structure Platform.Ignored (B : Platform ε) (I : Site ε → Prop) : Prop where
  net : ∀ s ω, I s → I { s with net := ω }
  key : ∀ s, I s → I { s with cpe := { s.cpe with wgKey := some B.hardware.key } }
  file : ∀ s file, I s → I { s with cpe := { s.cpe with provisionFile := file } }
  lines : ∀ c, ∀ f ∈ provisionSteps B.rendering c, ∀ s, I s → I (s.configured f)

/-- A property of the configuration that the commands of provisioning scripts keep. -/
theorem Platform.ignored_of_config (B : Platform ε) {K : Config → Prop}
    (hedit : ∀ c, ∀ e ∈ provisionEdits B.rendering c, ∀ κ, K κ → K (κ.edit e))
    (hmark : ∀ κ, K κ → K κ.mark) : B.Ignored fun s => K s.cpe.config where
  net _ _ hs := hs
  key _ hs := hs
  file _ _ hs := hs
  lines := by
    intro c f hf s hs
    simp only [provisionSteps, templateSteps, List.mem_append, List.mem_cons, List.mem_map,
      List.not_mem_nil, or_false, or_self] at hf
    rcases hf with rfl | ⟨e, he, rfl⟩ | rfl
    · exact hs
    · exact hedit c e he _ hs
    · exact hmark _ hs

variable {B : Platform ε}

theorem removeProvision_keeps
    (h : ∀ s, I s → I { s with cpe := { s.cpe with provisionFile := none } }) :
    Prog.Keeps I Platform.removeProvision :=
  .attempt (onCpe_keeps h)

/-- The file is written by an answer only. -/
theorem fetchProvision_spec (h : B.Ignored I) (hq : B.Quiet) (v : EnrollValues)
    {f : EnrollFields} (hf : f.Plain) : Prog.Spec I (B.fetchProvision v f) I
      fun e s => I s ∧ (e = .done () → s.cpe.QuietFile) := by
  refine Prog.Spec.bind (R := fun e s => I s ∧ ∀ c, e = .done c → c.Quiet) ?_ (fun c => ?_) ?_ ?_
  · refine Prog.Spec.command fun s hs => ⟨h.net s _ hs, h.net s _ hs, fun c hc => ?_⟩
    exact hq.answer _ _ f s.net c hf (Prog.ofOption_eq_done.mp hc)
  · refine Prog.Spec.command fun s hs => ⟨h.file s _ hs.1, h.file s _ hs.1, fun _ answer ha => ?_⟩
    obtain rfl := Option.some.inj ha
    exact hs.2 _ rfl
  · exact fun s hs => ⟨hs.1, fun he => nomatch he⟩
  · exact fun s hs => ⟨hs.1, fun he => nomatch he⟩

/-- An import does what the commands of the file do. -/
theorem importProvision_keeps (h : B.Ignored I) :
    Prog.Keeps (fun s => I s ∧ s.cpe.QuietFile) B.importProvision := by
  refine .of_spec (Q := fun _ s => I s ∧ s.cpe.QuietFile) ?_
  refine Prog.Spec.bind (R := fun e s => (I s ∧ s.cpe.QuietFile) ∧
    ∀ answer, e = .done answer → answer.Quiet) ?_ (fun answer => ?_) ?_ ?_
  · refine Prog.Spec.query (fun s answer hs ha => ⟨hs, fun c hc => ?_⟩)
      fun s hs _ => ⟨hs, fun _ hc => nomatch hc⟩
    cases hc
    exact hs.2 answer ha
  · intro s hs
    rw [(hs.2 answer rfl).mapM_effect]
    refine (runLines_keeps fun f hf s hs => ?_).spec s hs.1
    exact ⟨h.lines answer f hf s hs.1, hs.2⟩
  · exact fun s hs => hs.1
  · exact fun s hs => hs.1

/-- **What an enrollment of a router with plain values leaves alone.** -/
theorem enroll_keeps (h : B.Ignored I) (hown : ∀ s, I s → s.cpe.Plain) (hq : B.Quiet)
    (v : EnrollValues) : Prog.Keeps I (B.enroll v) := by
  refine (Prog.Keeps.query _).bind fun enrolled => (Prog.Keeps.exitIf _).bind fun _ => ?_
  refine (probe_keeps B h.net _ _).bind fun ready => (Prog.Keeps.exitIf _).bind fun _ => ?_
  refine (ensureInterface_keeps B h.key).bind fun _ => .of_spec (Q := fun _ => I) ?_
  refine Prog.Spec.query_bind (fun f => ?_) fun _ hs _ => hs
  refine Prog.Spec.given (φ := f.Plain) (fun s hs => ?_) fun hf => ?_
  · exact (Hardware.Sends.plain ⟨s.cpe, hown s hs.1, hs.2⟩ hq.hardware).1
  refine Prog.Spec.bind (R := fun e s => I s ∧ (e = .done false → s.cpe.QuietFile)) ?_
    (fun abort => ?_) (fun s hs => hs.1) fun s hs => hs.1
  · exact (aborted_spec (fetchProvision_spec h hq v hf) (.pure _)).weaken (fun _ hs => hs.1)
      (fun _ hs => hs) fun _ _ hs => hs
  · refine Prog.Spec.exitIf_bind (fun _ s hs => hs.1) fun habort => ?_
    have himport := importProvision_keeps h
    have hremove := removeProvision_keeps fun s hs => h.file s none hs
    have hquiet : Prog.Keeps (fun s => I s ∧ s.cpe.QuietFile) Platform.removeProvision :=
      hremove.and (removeProvision_keeps fun s _ answer ha => nomatch ha)
    have hrest : Prog.Keeps (fun s => I s ∧ s.cpe.QuietFile)
        (aborted (do B.importProvision; B.importProvision) Platform.removeProvision >>= fun abort =>
          Prog.exitIf abort >>= fun _ => Platform.removeProvision) :=
      (aborted_keeps (himport.bind fun _ => himport) hquiet).bind fun abort =>
        (Prog.Keeps.exitIf _).bind fun _ => hquiet
    subst habort
    exact hrest.spec.weaken (fun s hs => ⟨hs.1, hs.2 rfl⟩) (fun s hs => hs.1) fun _ s hs => hs.1

end Frames

/-! ## Armed routers -/

section Armed

variable {ε : Type} (B : Platform ε)

/-- `cpe-cloud-enroll` is in place, once, with its scheduler, as an installer put it there that was
downloaded. -/
def Config.EnrollReady (κ : Config) : Prop :=
  ∃ ctx, B.Offers ctx ∧ κ.entries .enroll = ([B.enrollScript ctx], [Platform.enrollScheduler])

/-- `cpe-cloud-first-boot` is in place, once, with its scheduler, as a flash put it there. -/
def Config.FirstBootReady (κ : Config) : Prop :=
  ∃ v, κ.entries .firstBoot = ([B.firstBootScript v], [Platform.firstBootScheduler])

/-- There is no script `cpe-cloud-enroll`. -/
def Config.Vacant (κ : Config) : Prop := (κ.entries .enroll).1 = []

/-- `cpe-cloud-first-boot` is in place, and has not been superseded. -/
def Config.Waiting (κ : Config) : Prop := κ.FirstBootReady B ∧ κ.Vacant

/-- A scheduler goes on trying. -/
def Config.Armed (κ : Config) : Prop := κ.EnrollReady B ∨ κ.Waiting B

/-- There is no script `cpe-cloud-enroll`, and no scheduler of `cpe-cloud-first-boot`. -/
def Config.Disarmed (κ : Config) : Prop := κ.Vacant ∧ (κ.entries .firstBoot).2 = []

/-- The script `cpe-cloud-enroll` is there and its scheduler is not. -/
def Config.Stranded (κ : Config) : Prop :=
  (κ.entries .enroll).1 ≠ [] ∧ (κ.entries .enroll).2 = []

instance (κ : Config) : Decidable κ.Vacant := inferInstanceAs (Decidable (_ = _))

instance (κ : Config) : Decidable κ.Disarmed := inferInstanceAs (Decidable (_ ∧ _))

instance (κ : Config) : Decidable κ.Stranded := inferInstanceAs (Decidable (_ ∧ _))

variable {B} {κ : Config}

theorem Config.EnrollReady.not_stranded (h : κ.EnrollReady B) : ¬ κ.Stranded := by
  rintro ⟨-, hs⟩
  obtain ⟨ctx, -, h⟩ := h
  rw [h] at hs
  cases hs

theorem Config.Armed.not_stranded (h : κ.Armed B) : ¬ κ.Stranded :=
  h.elim Config.EnrollReady.not_stranded fun h hs => hs.1 h.2

theorem Config.Armed.not_disarmed (h : κ.Armed B) : ¬ κ.Disarmed := by
  rintro ⟨hvacant, hnone⟩
  rcases h with ⟨ctx, -, h⟩ | ⟨⟨v, h⟩, -⟩
  · rw [Config.Vacant, h] at hvacant
    cases hvacant
  · rw [h] at hnone
    cases hnone

theorem enrollScript_name (ctx : InstallerContext) :
    (B.enrollScript ctx).has "name" Boot.enroll.name.toList = true := by
  simp [Platform.enrollScript, Record.has, Boot.name]

theorem firstBootScript_name (v : Platform.FlashValues) :
    (B.firstBootScript v).has "name" Boot.firstBoot.name.toList = true := by
  simp [Platform.firstBootScript, Record.has, Boot.name]

theorem enrollScheduler_name :
    Platform.enrollScheduler.has "name" Boot.enroll.name.toList = true := by decide

theorem firstBootScheduler_name :
    Platform.firstBootScheduler.has "name" Boot.firstBoot.name.toList = true := by decide

/-! ### The scripts -/

/-- An edit does not fail. -/
theorem attempt_edit (e : Edit Menu Record) :
    Prog.attempt (edit e : Prog (Site ε) Unit) = edit e := rfl

/-- The name and the key are plain, and the configuration has `K`. -/
def Site.Plainly (K : Config → Prop) (s : Site ε) : Prop := K s.cpe.config ∧ s.cpe.Plain

/-- A program behind an edit. -/
theorem edit_bind {K L : Config → Prop} {e : Edit Menu Record} {q : Prog (Site ε) Unit}
    {C : Site ε → Prop} {Q : Ending Unit → Site ε → Prop} (h : ∀ κ, K κ → L (κ.edit e))
    (hC : ∀ s : Site ε, s.Plainly L → C s) (hq : Prog.Spec (Site.Plainly L) q C Q) :
    Prog.Spec (Site.Plainly K) (edit e >>= fun _ => q) C Q := by
  refine Prog.Spec.andThen (R := Site.Plainly L) (Prog.Spec.command fun s hs => ?_) hq
  have hedit : Site.Plainly L { s with cpe := { s.cpe with config := s.cpe.config.edit e } } :=
    ⟨h _ hs.1, hs.2⟩
  exact ⟨hC _ hedit, rfl, hedit⟩

/-- The entries of both names are the same. -/
def Config.SameEntries (κ κ' : Config) : Prop := ∀ b, κ'.entries b = κ.entries b

/-- What depends on the entries only, an enrollment leaves alone. -/
theorem ignored_of_entries (hq : B.Quiet) {K : Config → Prop}
    (hK : ∀ κ κ', κ.SameEntries κ' → K κ → K κ') : B.Ignored (Site.Plainly K) := by
  have hconfig := B.ignored_of_config (K := K)
    (fun _ _ he _ => hK _ _ fun b => Config.entries_edit (sparesBoot_provision b he))
    fun _ => hK _ _ fun _ => rfl
  constructor
  · exact fun s ω hs => hs
  · exact fun s hs => ⟨hs.1, hs.2.1, fun _ hkey => Option.some.inj hkey ▸ hq.hardware.key⟩
  · exact fun s file hs => hs
  · exact fun c f hf s hs => ⟨hconfig.lines c f hf s hs.1, hs.2⟩

variable {κ' : Config}

theorem Config.EnrollReady.congr (h : κ.SameEntries κ') (hκ : κ.EnrollReady B) :
    κ'.EnrollReady B := by
  obtain ⟨ctx, hoffer, hctx⟩ := hκ
  exact ⟨ctx, hoffer, (h .enroll).trans hctx⟩

theorem Config.Vacant.congr (h : κ.SameEntries κ') (hκ : κ.Vacant) : κ'.Vacant := by
  unfold Config.Vacant
  rwa [h .enroll]

theorem Config.Waiting.congr (h : κ.SameEntries κ') (hκ : κ.Waiting B) : κ'.Waiting B := by
  obtain ⟨⟨v, hv⟩, hvacant⟩ := hκ
  exact ⟨⟨v, (h .firstBoot).trans hv⟩, hvacant.congr h⟩

theorem Config.Disarmed.congr (h : κ.SameEntries κ') (hκ : κ.Disarmed) : κ'.Disarmed :=
  ⟨hκ.1.congr h, (congrArg Prod.snd (h .firstBoot)).trans hκ.2⟩

theorem Config.Stranded.congr (h : κ.SameEntries κ') (hκ : κ.Stranded) : κ'.Stranded := by
  unfold Config.Stranded
  rwa [h .enroll]

theorem Config.Armed.congr (h : κ.SameEntries κ') (hκ : κ.Armed B) : κ'.Armed B :=
  hκ.imp (Config.EnrollReady.congr h) (Config.Waiting.congr h)

/-- A run of `cpe-cloud-enroll` leaves alone what depends on the entries only. -/
theorem runEnroll_keeps (hq : B.Quiet) {K : Config → Prop}
    (hK : ∀ κ κ', κ.SameEntries κ' → K κ → K κ') :
    Prog.Keeps (Site.Plainly (ε := ε) K) B.runEnroll :=
  (Prog.Keeps.query _).bind fun v =>
    (enroll_keeps (ignored_of_entries hq hK) (fun _ hs => hs.2) hq v).call

section EnrollSpared

variable {e : Edit Menu Record} (he : SparesBoot .enroll e)
include he

theorem Config.EnrollReady.edit (h : κ.EnrollReady B) : (κ.edit e).EnrollReady B := by
  obtain ⟨ctx, hoffer, hctx⟩ := h
  exact ⟨ctx, hoffer, (Config.entries_edit he).trans hctx⟩

theorem Config.Vacant.edit (h : κ.Vacant) : (κ.edit e).Vacant := by
  unfold Config.Vacant
  rwa [Config.entries_edit he]

theorem Config.Stranded.edit (h : κ.Stranded) : (κ.edit e).Stranded := by
  unfold Config.Stranded
  rwa [Config.entries_edit he]

end EnrollSpared

/-- Behind each command the router is armed or stranded. -/
def Platform.ArmedOrStranded (B : Platform ε) : Site ε → Prop :=
  Site.Plainly fun κ => κ.Armed B ∨ κ.Stranded

/-- **The installer**, on a router that waits for it: behind each command the router is armed or
stranded, and it ends with `cpe-cloud-enroll` in place. -/
theorem installer_spec (hq : B.Quiet) {ctx : InstallerContext} (hoffer : B.Offers ctx) :
    Prog.Spec (Site.Plainly (Config.Waiting B)) (B.installer ctx) B.ArmedOrStranded
      fun _ => Site.Plainly (Config.EnrollReady B) := by
  have hwaits {κ : Config} {menu : Menu} (h : κ.FirstBootReady B) :
      (κ.edit (removeFind menu "name" Boot.enroll.name)).FirstBootReady B := by
    obtain ⟨v, hv⟩ := h
    exact ⟨v, by rw [Config.entries_edit (sparesBoot_remove (by decide) menu), hv]⟩
  have hscheduler {κ : Config} (h : κ.Waiting B) :
      (κ.edit (removeFind .systemScheduler "name" enrollName)).Waiting B ∧
        ((κ.edit (removeFind .systemScheduler "name" enrollName)).entries .enroll).2 = [] := by
    have hentries := @Config.entries_remove_scheduler κ .enroll
    exact ⟨⟨hwaits h.1, (congrArg Prod.fst hentries).trans h.2⟩, congrArg Prod.snd hentries⟩
  have hscript {κ : Config} (h : κ.Waiting B ∧ (κ.entries .enroll).2 = []) :
      (κ.edit (removeFind .systemScript "name" enrollName)).Waiting B ∧
        ((κ.edit (removeFind .systemScript "name" enrollName)).entries .enroll).2 = [] := by
    have hentries := @Config.entries_remove_script κ .enroll
    exact ⟨⟨hwaits h.1.1, congrArg Prod.fst hentries⟩, (congrArg Prod.snd hentries).trans h.2⟩
  have hwaiting (s : Site ε) (h : s.Plainly fun κ => κ.Waiting B ∧ (κ.entries .enroll).2 = []) :
      B.ArmedOrStranded s := ⟨Or.inl (Or.inr h.1.1), h.2⟩
  have hready (s : Site ε) (h : s.Plainly (Config.EnrollReady B)) : B.ArmedOrStranded s :=
    ⟨Or.inl (Or.inl h.1), h.2⟩
  unfold Platform.installer
  simp only [attempt_edit]
  refine edit_bind (L := fun κ => κ.Waiting B ∧ (κ.entries .enroll).2 = [])
    (fun κ => hscheduler) hwaiting ?_
  refine edit_bind (L := fun κ => κ.Waiting B ∧ (κ.entries .enroll).2 = [])
    (fun κ => hscript) hwaiting ?_
  refine edit_bind (L := fun κ => κ.entries .enroll = ([B.enrollScript ctx], []))
    (fun κ h => ?_) (fun s h => ⟨Or.inr ?_, h.2⟩) ?_
  · have hvacant : (κ.entries .enroll).1 = [] := h.1.2
    rw [Config.entries_append_script (enrollScript_name ctx), hvacant, h.2]
    rfl
  · unfold Config.Stranded
    rw [h.1]
    exact ⟨List.cons_ne_nil _ _, rfl⟩
  refine edit_bind (L := Config.EnrollReady B) (fun κ h => ?_) hready ?_
  · exact ⟨ctx, hoffer, by rw [Config.entries_append_scheduler enrollScheduler_name, h]; rfl⟩
  · exact (runEnroll_keeps hq fun _ _ => Config.EnrollReady.congr).attempt.spec.weaken
      (fun _ h => h) hready fun _ _ h => h

/-- A program that ends armed, and an end of it that is handled. -/
theorem aborted_armed {P C A : Site ε → Prop} {p handler : Prog (Site ε) Unit}
    (hp : Prog.Spec P p C fun _ => A) (hh : Prog.Keeps A handler) (hA : ∀ s, A s → C s) :
    Prog.Spec P (aborted p handler) C fun _ => A := by
  have hdone (b : Bool) : Prog.Spec A (pure b : Prog (Site ε) Bool) C fun _ => A :=
    Prog.Spec.pure fun _ hs => hs
  refine Prog.Spec.onError (R := A) ?_ ?_
  · refine Prog.Spec.bind hp (fun _ => ?_) (fun _ hs => hs) fun _ hs => hs
    exact (hdone false).weaken (fun _ hs => hs) (fun _ hs => hs) fun e s hs => by
      cases e with
      | _ => exact hs
  · refine Prog.Spec.bind (hh.spec.weaken (fun _ hs => hs) hA fun _ _ hs => hs)
      (fun _ => hdone true) (fun _ hs => hs) fun _ hs => hs

/-! ### `cpe-cloud-first-boot` -/

/-- There is a script `cpe-cloud-enroll`, and the rest is about what only its installer edits. -/
structure Settled (K : Config → Prop) : Prop where
  not_vacant : ∀ κ, K κ → ¬ κ.Vacant
  spares : ∀ e, SparesBoot .enroll e → ∀ κ, K κ → K (κ.edit e)

theorem settled_enrollReady : Settled fun κ => κ.EnrollReady B where
  not_vacant := by
    rintro κ ⟨ctx, -, hctx⟩ hvacant
    rw [Config.Vacant, hctx] at hvacant
    cases hvacant
  spares _ he _ h := h.edit he

theorem settled_stranded (m : Bool) : Settled fun κ => κ.Stranded ∧ κ.marker = m where
  not_vacant _ h := h.1.1
  spares _ he _ h := ⟨h.1.edit he, h.2⟩

section Settled

variable {K : Config → Prop} (hK : Settled K)

/-- `F` looks neither at the configuration nor at what a flash changes besides. -/
structure Platform.Bystander (B : Platform ε) (F : Site ε → Prop) : Prop where
  config : ∀ s κ, F s → F { s with cpe := { s.cpe with config := κ } }
  name : ∀ s, F s → F { s with cpe := { s.cpe with identity := B.hardware.shelfName } }
  dhcp : ∀ s clients, F s → F { s with cpe := { s.cpe with dhcpClients := clients } }

theorem bystander_net (ω : ε) : B.Bystander fun s => s.net = ω :=
  ⟨fun _ _ h => h, fun _ h => h, fun _ _ h => h⟩

theorem bystander_plain (hplain : B.hardware.Plain) : B.Bystander fun s => s.cpe.Plain :=
  ⟨fun _ _ h => h, fun _ h => ⟨hplain.shelfName, h.2⟩, fun _ _ h => h⟩

variable {F : Site ε → Prop} (hF : B.Bystander F)
include hK hF

theorem edit_settled {e : Edit Menu Record} (he : SparesBoot .enroll e) :
    Prog.Keeps (fun s : Site ε => K s.cpe.config ∧ F s) (edit e) :=
  onCpe_keeps fun s hs => ⟨hK.spares e he _ hs.1, hF.config s _ hs.2⟩

/-- `cpe-cloud-first-boot` stands down: it removes itself and makes no request. -/
theorem firstBoot_settled (v : FirstBootValues) :
    Prog.Keeps (fun s : Site ε => K s.cpe.config ∧ F s) (B.firstBoot v) := by
  have hremove (menu : Menu) := edit_settled hK hF (sparesEnroll_remove menu)
  have hstand : Prog.Keeps (fun s : Site ε => K s.cpe.config ∧ F s)
      (Platform.standDown true) := by
    unfold Platform.standDown
    simp only [attempt_edit]
    exact (hremove _).bind fun _ => hremove _
  refine .of_spec (Q := fun _ s => K s.cpe.config ∧ F s) ?_
  refine Prog.Spec.query_bind (fun installed => ?_) fun _ hs _ => hs
  refine Prog.Spec.given (φ := installed = true) (fun s hs => ?_) fun h => ?_
  · obtain rfl := Option.some.inj hs.2
    have hvacant : s.cpe.config.named .systemScript enrollName ≠ [] := hK.not_vacant _ hs.1.1
    simpa using hvacant
  · subst h
    refine Prog.Spec.bind (R := fun _ s => K s.cpe.config ∧ F s) ?_ (fun _ => ?_)
      (fun _ hs => hs) fun _ hs => hs
    · exact hstand.spec.weaken (fun _ hs => hs.1) (fun _ hs => hs) fun _ _ hs => hs
    · exact Prog.Spec.exitIf_bind (fun _ _ hs => hs) fun h => absurd h (by decide)

theorem runFirstBoot_settled :
    Prog.Keeps (fun s : Site ε => K s.cpe.config ∧ F s) B.runFirstBoot :=
  (Prog.Keeps.query _).bind fun v => (firstBoot_settled hK hF v).call

/-- A flash installs `cpe-cloud-first-boot`, which stands down. -/
theorem shelfFlash_settled (v : Platform.FlashValues) :
    Prog.Keeps (fun s : Site ε => K s.cpe.config ∧ F s) (B.shelfFlash v) := by
  have hremove (menu : Menu) := edit_settled hK hF (sparesEnroll_remove menu)
  have happend {menu : Menu} {r : Record} (hr : r.has "name" Boot.firstBoot.name.toList = true) :=
    edit_settled hK hF (@sparesEnroll_append menu r hr)
  unfold Platform.shelfFlash
  simp only [attempt_edit]
  refine Prog.Keeps.bind ?_ fun _ => Prog.Keeps.bind ?_ fun _ => ?_
  · unfold Platform.nameShelf
    split
    · exact onCpe_keeps fun s hs => ⟨hs.1, hF.name s hs.2⟩
    · exact .pure _
  · refine (Prog.Keeps.query _).bind fun missing => ?_
    split
    · exact onCpe_keeps fun s hs => ⟨hs.1, hF.dhcp s _ hs.2⟩
    · exact .pure _
  · exact (hremove _).bind fun _ => (hremove _).bind fun _ =>
      (happend (firstBootScript_name v)).bind fun _ => (happend firstBootScheduler_name).bind
        fun _ => (runFirstBoot_settled hK hF).attempt

end Settled

/-- The installer in the file is the one that was downloaded. -/
theorem fetchInstaller_spec {I : Site ε → Prop} (hnet : ∀ s ω, I s → I { s with net := ω })
    (hfile : ∀ s file, I s → I { s with cpe := { s.cpe with installerFile := file } })
    (v : FirstBootValues) : Prog.Spec I (B.fetchInstaller v) I fun e s => I s ∧
      (e = .done () → ∀ ctx ∈ s.cpe.installerFile, B.Offers ctx) := by
  refine Prog.Spec.bind (R := fun e s => I s ∧ ∀ ctx, e = .done ctx → B.Offers ctx) ?_
    (fun ctx => ?_) ?_ ?_
  · refine Prog.Spec.command fun s hs => ⟨hnet s _ hs, hnet s _ hs, fun ctx hctx => ?_⟩
    exact ⟨v.url, s.net, Prog.ofOption_eq_done.mp hctx⟩
  · refine Prog.Spec.command fun s hs => ⟨hfile s _ hs.1, hfile s _ hs.1, fun _ ctx' hctx => ?_⟩
    obtain rfl := Option.some.inj hctx
    exact hs.2 _ rfl
  · exact fun s hs => ⟨hs.1, fun he => nomatch he⟩
  · exact fun s hs => ⟨hs.1, fun he => nomatch he⟩

/-- Without one, it downloads the installer and imports it. -/
theorem firstBoot_waiting (hq : B.Quiet) (v : FirstBootValues) :
    Prog.Spec (Site.Plainly (Config.Waiting B)) (B.firstBoot v) B.ArmedOrStranded
      fun _ => Site.Plainly (Config.Armed B) := by
  have hwaiting (s : Site ε) (hs : s.Plainly (Config.Waiting B)) : B.ArmedOrStranded s :=
    ⟨Or.inl (Or.inr hs.1), hs.2⟩
  have harmed (s : Site ε) (hs : s.Plainly (Config.Armed B)) : B.ArmedOrStranded s :=
    ⟨Or.inl hs.1, hs.2⟩
  have hend (s : Site ε) (hs : s.Plainly (Config.Waiting B)) : s.Plainly (Config.Armed B) :=
    ⟨Or.inr hs.1, hs.2⟩
  have hkeeps {α : Type} {p : Prog (Site ε) α}
      (hp : Prog.Keeps (Site.Plainly (Config.Waiting B)) p) :
      Prog.Spec (Site.Plainly (Config.Waiting B)) p B.ArmedOrStranded
        fun _ => Site.Plainly (Config.Waiting B) :=
    hp.spec.weaken (fun _ hs => hs) hwaiting fun _ _ hs => hs
  refine Prog.Spec.query_bind (fun installed => ?_) fun s hs _ => hend s hs
  refine Prog.Spec.given (φ := installed = false) (fun s hs => ?_) fun h => ?_
  · obtain rfl := Option.some.inj hs.2
    have hvacant : s.cpe.config.named .systemScript enrollName = [] := hs.1.1.2
    simp [hvacant]
  subst h
  refine Prog.Spec.bind (R := fun _ => Site.Plainly (Config.Waiting B)) ?_ (fun _ =>
    Prog.Spec.exitIf_bind (fun h => absurd h (by decide)) fun _ => ?_) hend hend
  · exact (hkeeps (.pure _)).weaken (fun _ hs => hs.1) (fun _ hs => hs) fun _ _ hs => hs
  refine Prog.Spec.bind (R := fun _ => Site.Plainly (Config.Waiting B))
    (hkeeps (probe_keeps B (fun _ _ hs => hs) _ _)) (fun _ =>
    Prog.Spec.exitIf_bind (fun _ => hend) fun _ => ?_) hend hend
  refine Prog.Spec.bind (R := fun e s => s.Plainly (Config.Waiting B) ∧ (e = .done false →
      ∀ ctx ∈ s.cpe.installerFile, B.Offers ctx)) ?_ (fun abort =>
    Prog.Spec.exitIf_bind (fun _ s hs => hend s hs.1) fun habort => ?_) (fun s hs => hend s hs.1)
    fun s hs => hend s hs.1
  · refine (aborted_spec (fetchInstaller_spec (fun _ _ hs => hs) (fun _ _ hs => hs) v)
      (.pure _)).weaken (fun _ hs => hs) hwaiting fun _ _ hs => hs
  have hremove : Prog.Keeps (Site.Plainly (ε := ε) (Config.Armed B)) Platform.removeInstaller :=
    .attempt (onCpe_keeps fun _ hs => hs)
  refine Prog.Spec.bind (R := fun _ => Site.Plainly (Config.Armed B))
    (aborted_armed ?_ hremove harmed) (fun _ => Prog.Spec.exitIf_bind (fun _ _ hs => hs)
      fun _ => ?_) (fun _ hs => hs) fun _ hs => hs
  · refine Prog.Spec.query_bind (fun ctx => ?_) fun s hs _ => hend s hs.1
    refine Prog.Spec.given (φ := B.Offers ctx) (fun s hs => hs.1.2 (by rw [habort]) ctx hs.2)
      fun hoffer => ?_
    exact (installer_spec hq hoffer).weaken (fun _ hs => hs.1.1) (fun _ hs => hs)
      fun _ _ hs => ⟨Or.inl hs.1, hs.2⟩
  · exact hremove.spec.weaken (fun _ hs => hs) harmed fun _ _ hs => hs

/-- An armed router is armed behind each command, or stranded, and armed at the end. -/
theorem runFirstBoot_spec (hq : B.Quiet) :
    Prog.Spec (Site.Plainly (Config.Armed B)) B.runFirstBoot B.ArmedOrStranded
      fun _ => Site.Plainly (Config.Armed B) := by
  refine Prog.Spec.bind (R := fun _ => Site.Plainly (Config.Armed B))
    (Prog.Spec.query (fun _ _ hs _ => hs) fun _ hs _ => hs) (fun v => ?_) (fun _ hs => hs)
    fun _ hs => hs
  refine Prog.Spec.call ?_
  have hready : Prog.Keeps (Site.Plainly (Config.EnrollReady B)) (B.firstBoot v) :=
    firstBoot_settled settled_enrollReady (bystander_plain hq.hardware) v
  have hend (e : Ending Unit) (s : Site ε) (hs : s.Plainly (Config.Armed B)) :
      Prog.outside (fun _ => Site.Plainly (Config.Armed B)) e s := by
    cases e with
    | _ => exact hs
  intro s hs
  obtain ⟨hs | hs, hown⟩ := hs
  · exact hready.spec.weaken (fun _ hs => hs) (fun _ hs => ⟨Or.inl (Or.inl hs.1), hs.2⟩)
      (fun e s hs => hend e s ⟨Or.inl hs.1, hs.2⟩) s ⟨hs, hown⟩
  · exact (firstBoot_waiting hq v).weaken (fun _ hs => hs) (fun _ hs => hs) hend s ⟨hs, hown⟩

/-! ### The shelf-flash script -/

/-- **A flash of a router without `cpe-cloud-enroll`** leaves it armed; on the way the scheduler of
`cpe-cloud-first-boot` may be missing. -/
theorem shelfFlash_vacant (hq : B.Quiet) {K : Config → Prop} (hK : ∀ κ, K κ → κ.Vacant)
    {C : Site ε → Prop} (hstart : ∀ s, s.Plainly K → C s)
    (hdisarmed : ∀ s, s.Plainly Config.Disarmed → C s) (hrun : ∀ s, B.ArmedOrStranded s → C s)
    (v : Platform.FlashValues) :
    Prog.Spec (Site.Plainly K) (B.shelfFlash v) C fun _ => Site.Plainly (Config.Armed B) := by
  have hpure : Prog.Spec (Site.Plainly (ε := ε) K) (pure ()) C
      fun e s => e = .done () ∧ s.Plainly K := Prog.Spec.pure fun _ hs => ⟨rfl, hs⟩
  unfold Platform.shelfFlash
  simp only [attempt_edit]
  refine Prog.Spec.andThen (R := Site.Plainly K) ?_ (Prog.Spec.andThen (R := Site.Plainly K) ?_ ?_)
  · unfold Platform.nameShelf
    split
    · refine Prog.Spec.command fun s hs => ?_
      have hnamed : Site.Plainly K
          { s with cpe := { s.cpe with identity := B.hardware.shelfName } } :=
        ⟨hs.1, hq.hardware.shelfName, hs.2.2⟩
      exact ⟨hstart _ hnamed, rfl, hnamed⟩
    · exact hpure
  · refine Prog.Spec.query_bind (fun missing => ?_) fun _ _ hn => nomatch hn
    refine Prog.Spec.weaken (P := Site.Plainly K) ?_ (fun _ hs => hs.1) (fun _ hs => hs)
      fun _ _ hs => hs
    split
    · exact Prog.Spec.command fun s hs => ⟨hstart _ hs, rfl, hs⟩
    · exact hpure
  · refine edit_bind (L := Config.Disarmed) (fun κ h => ?_) hdisarmed ?_
    · exact ⟨(hK κ h).edit (sparesEnroll_remove _),
        congrArg Prod.snd (@Config.entries_remove_scheduler κ .firstBoot)⟩
    refine edit_bind (L := fun κ => κ.Vacant ∧ κ.entries .firstBoot = ([], [])) (fun κ h => ?_)
      (fun s hs => hdisarmed s ⟨⟨hs.1.1, congrArg Prod.snd hs.1.2⟩, hs.2⟩) ?_
    · have hentries := @Config.entries_remove_script κ .firstBoot
      rw [h.2] at hentries
      exact ⟨h.1.edit (sparesEnroll_remove _), hentries⟩
    refine edit_bind (L := fun κ => κ.Vacant ∧ κ.entries .firstBoot = ([B.firstBootScript v], []))
      (fun κ h => ?_) (fun s hs => hdisarmed s ⟨⟨hs.1.1, congrArg Prod.snd hs.1.2⟩, hs.2⟩) ?_
    · refine ⟨h.1.edit (sparesEnroll_append (firstBootScript_name v)), ?_⟩
      rw [Config.entries_append_script (firstBootScript_name v), h.2]
      rfl
    refine edit_bind (L := Config.Armed B) (fun κ h => ?_)
      (fun s hs => hrun s ⟨Or.inl hs.1, hs.2⟩) ?_
    · refine Or.inr ⟨⟨v, ?_⟩, h.1.edit (sparesEnroll_append firstBootScheduler_name)⟩
      rw [Config.entries_append_scheduler firstBootScheduler_name, h.2]
      rfl
    · refine Prog.Spec.attempt ((runFirstBoot_spec hq).weaken (fun _ hs => hs) hrun
        fun e s hs => ?_)
      cases e with
      | _ => exact hs

/-! ## Steps -/

/-- The power does not fail between the two commands of the installer that add the script and its
scheduler: no run that is cut off leaves the one without the other. -/
def Platform.Untorn (B : Platform ε) : Site ε → Happening → Prop := B.NoCut Config.Stranded

/-- The power does not fail while a flash replaces the scheduler of `cpe-cloud-first-boot`. -/
def Platform.Rescheduled (B : Platform ε) : Site ε → Happening → Prop := B.NoCut Config.Disarmed

theorem armed_flash (hq : B.Quiet) {s : Site ε} (hown : s.cpe.Plain)
    (h : s.cpe.config.Armed B ∨ s.cpe.config.Vacant) (v : Platform.FlashValues) :
    (Platform.played (B.shelfFlash v) none s).Plainly (Config.Armed B) := by
  have hvacant (h : s.cpe.config.Vacant) :
      (Platform.played (B.shelfFlash v) none s).Plainly (Config.Armed B) :=
    (shelfFlash_vacant (C := fun _ => True) hq (fun _ h => h) (fun _ _ => trivial)
      (fun _ _ => trivial) (fun _ _ => trivial) v s ⟨h, hown⟩).2
  rcases h with (h | h) | h
  · have hsettled := (shelfFlash_settled settled_enrollReady (bystander_plain hq.hardware) v).final
      ⟨h, hown⟩
    exact ⟨Or.inl hsettled.1, hsettled.2⟩
  · exact hvacant h.2
  · exact hvacant h

/-- A flash, perhaps cut off. -/
theorem flash_spec (hq : B.Quiet) (v : Platform.FlashValues) :
    Prog.Spec (Site.Plainly fun κ => κ.Armed B ∨ κ.Disarmed) (B.shelfFlash v)
      (Site.Plainly fun κ => (κ.Armed B ∨ κ.Disarmed) ∨ κ.Stranded)
      fun _ => Site.Plainly (Config.Armed B) := by
  have hready : Prog.Keeps (Site.Plainly (Config.EnrollReady B)) (B.shelfFlash v) :=
    shelfFlash_settled settled_enrollReady (bystander_plain hq.hardware) v
  have hvacant : Prog.Spec (Site.Plainly fun κ => κ.Waiting B ∨ κ.Disarmed) (B.shelfFlash v)
      (Site.Plainly fun κ => (κ.Armed B ∨ κ.Disarmed) ∨ κ.Stranded)
      fun _ => Site.Plainly (Config.Armed B) := by
    refine shelfFlash_vacant hq ?_ ?_ ?_ ?_ v
    · exact fun κ h => h.elim (fun h => h.2) fun h => h.1
    · exact fun s hs => ⟨Or.inl (hs.1.imp_left Or.inr), hs.2⟩
    · exact fun s hs => ⟨Or.inl (Or.inr hs.1), hs.2⟩
    · exact fun s hs => ⟨hs.1.imp_left Or.inl, hs.2⟩
  rintro s ⟨(h | h) | h, hown⟩
  · exact hready.spec.weaken (fun _ hs => hs) (fun _ hs => ⟨Or.inl (Or.inl (Or.inl hs.1)), hs.2⟩)
      (fun _ _ hs => ⟨Or.inl hs.1, hs.2⟩) s ⟨h, hown⟩
  · exact hvacant s ⟨Or.inl h, hown⟩
  · exact hvacant s ⟨Or.inr h, hown⟩

/-- What a scheduler of an armed router runs, perhaps cut off. -/
theorem onEvent_spec (hq : B.Quiet) (b : Boot) :
    Prog.Spec (Site.Plainly (Config.Armed B)) (B.onEvent b) B.ArmedOrStranded
      fun _ => Site.Plainly (Config.Armed B) := by
  cases b with
  | firstBoot => exact runFirstBoot_spec hq
  | enroll =>
    exact (runEnroll_keeps hq fun _ _ => Config.Armed.congr).spec.weaken
      (fun _ hs => hs) (fun _ hs => ⟨Or.inl hs.1, hs.2⟩) fun _ _ hs => hs

/-- A disarmed router has no scheduler but perhaps one without a script. -/
theorem disarmed_tick (hq : B.Quiet) {s s' : Site ε} {b : Boot} {cut : Option Nat}
    (h : s.Plainly Config.Disarmed) (hs : B.step s (.tick b cut) = some s') :
    s'.Plainly Config.Disarmed := by
  cases b with
  | firstBoot =>
    have hnone : s.cpe.config.named .systemScheduler Boot.firstBoot.name = [] := h.1.2
    have hscheduled := step_scheduled hs
    simp [Config.scheduled, hnone] at hscheduled
  | enroll =>
    have hkeeps : Prog.Keeps (Site.Plainly (ε := ε) Config.Disarmed) (B.onEvent .enroll) :=
      runEnroll_keeps hq fun _ _ => Config.Disarmed.congr
    rw [step_played hs]
    exact (Platform.played_spec hkeeps.spec h h cut).elim (fun hs => hs.2) fun hs => hs.2

/-- **What a step does** to a router that is armed or disarmed. -/
theorem armed_step (hq : B.Quiet) {s s' : Site ε} {a : Happening}
    (h : s.Plainly fun κ => κ.Armed B ∨ κ.Disarmed) (hs : B.step s a = some s') :
    s'.Plainly (Config.Armed B) ∨
      s'.Plainly Config.Disarmed ∧ (s.cpe.config.Disarmed ∨ a.cut ≠ none) ∨
        s'.cpe.config.Stranded ∧ a.cut ≠ none := by
  cases a with
  | flash v cut =>
    rw [step_played hs]
    have hstart : s.Plainly fun κ => (κ.Armed B ∨ κ.Disarmed) ∨ κ.Stranded := ⟨Or.inl h.1, h.2⟩
    rcases Platform.played_spec (flash_spec hq v) h hstart cut with
      ⟨-, hend⟩ | ⟨hcut, (hend | hend) | hend, hown⟩
    · exact Or.inl hend
    · exact Or.inl ⟨hend, hown⟩
    · exact Or.inr (Or.inl ⟨⟨hend, hown⟩, Or.inr hcut⟩)
    · exact Or.inr (Or.inr ⟨hend, hcut⟩)
  | tick b cut =>
    obtain ⟨h | h, hown⟩ := h
    · rw [step_played hs]
      rcases Platform.played_spec (onEvent_spec hq b) ⟨h, hown⟩ ⟨Or.inl h, hown⟩ cut with
        ⟨-, hend⟩ | ⟨hcut, hend | hend, hown⟩
      · exact Or.inl hend
      · exact Or.inl ⟨hend, hown⟩
      · exact Or.inr (Or.inr ⟨hend, hcut⟩)
    · exact Or.inr (Or.inl ⟨disarmed_tick hq ⟨h, hown⟩ hs, Or.inl h⟩)

/-- What happens to a stranded router makes no request. -/
theorem stranded_step {s s' : Site ε} {m : Bool} {ω : ε} {a : Happening}
    (h : (s.cpe.config.Stranded ∧ s.cpe.config.marker = m) ∧ s.net = ω)
    (hs : B.step s a = some s') :
    (s'.cpe.config.Stranded ∧ s'.cpe.config.marker = m) ∧ s'.net = ω := by
  have hkeeps : Prog.Keeps (fun s : Site ε => (s.cpe.config.Stranded ∧ s.cpe.config.marker = m) ∧
      s.net = ω) (B.script a) := by
    cases a with
    | flash v cut => exact shelfFlash_settled (settled_stranded m) (bystander_net ω) v
    | tick b cut =>
      cases b with
      | enroll =>
        have hnone : s.cpe.config.named .systemScheduler Boot.enroll.name = [] := h.1.1.2
        have hscheduled := step_scheduled hs
        simp [Config.scheduled, hnone] at hscheduled
      | firstBoot => exact runFirstBoot_settled (settled_stranded m) (bystander_net ω)
  rw [step_played hs]
  exact (Platform.played_spec hkeeps.spec h h a.cut).elim (fun hs => hs.2) fun hs => hs.2

/-! ## Runs -/

/-- As long as no flash is cut off there, an armed router stays armed, or is stranded. -/
theorem rescheduled_run (hq : B.Quiet) {s s' : Site ε} {es : List Happening}
    (h : s.Plainly (Config.Armed B)) (hmeets : Run.Meets B.step B.Rescheduled s es)
    (hs : Run.exec B.step s es = some s') :
    s'.Plainly (Config.Armed B) ∨ s'.cpe.config.Stranded := by
  refine Run.meets_induction (P := fun t => t.Plainly (Config.Armed B) ∨ t.cpe.config.Stranded)
    (fun {s a s'} h hC hs => ?_) (Or.inl h) hmeets hs
  rcases h with h | h
  · rcases armed_step hq ⟨Or.inl h.1, h.2⟩ hs with hend | ⟨hend, hcut⟩ | ⟨hend, -⟩
    · exact Or.inl hend
    · refine absurd hend.1 ?_
      rw [step_played hs]
      exact hC (hcut.resolve_left h.1.not_disarmed)
    · exact Or.inr hend
  · exact Or.inr (stranded_step ⟨⟨h, rfl⟩, rfl⟩ hs).1.1

/-- Behind any run, a router that was armed is armed, disarmed or stranded. -/
theorem armed_run (hq : B.Quiet) {s s' : Site ε} {es : List Happening}
    (h : s.Plainly (Config.Armed B)) (hs : Run.exec B.step s es = some s') :
    (Run.Meets B.step B.Untorn s es ∧ (s'.Plainly (Config.Armed B) ∨
        ¬ Run.Meets B.step B.Rescheduled s es ∧ s'.Plainly Config.Disarmed)) ∨
      (¬ Run.Meets B.step B.Untorn s es ∧ s'.cpe.config.Stranded) := by
  have hrun : (Run.Meets B.step B.Untorn s es ∧ s'.Plainly fun κ => κ.Armed B ∨ κ.Disarmed) ∨
      (¬ Run.Meets B.step B.Untorn s es ∧ s'.cpe.config.Stranded) := by
    refine Run.meets_or (P := Site.Plainly fun κ => κ.Armed B ∨ κ.Disarmed)
      (Q := fun t => t.cpe.config.Stranded) ?_ ?_ ?_ ⟨Or.inl h.1, h.2⟩ hs
    · intro s a s' h hC hs
      rcases armed_step hq h hs with hend | ⟨hend, -⟩ | ⟨hend, hcut⟩
      · exact ⟨Or.inl hend.1, hend.2⟩
      · exact ⟨Or.inr hend.1, hend.2⟩
      · rw [step_played hs] at hend
        exact absurd hend (hC hcut)
    · intro s a s' h hC hs
      rw [step_played hs]
      by_contra hno
      exact hC fun _ => hno
    · exact fun h hs => (stranded_step ⟨⟨h, rfl⟩, rfl⟩ hs).1.1
  refine hrun.imp_left fun ⟨hmeets, hend, hown⟩ => ⟨hmeets, ?_⟩
  rcases hend with hend | hend
  · exact Or.inl ⟨hend, hown⟩
  · refine Or.inr ⟨fun hrescheduled => ?_, hend, hown⟩
    rcases rescheduled_run hq h hrescheduled hs with harmed | hstranded
    · exact harmed.1.not_disarmed hend
    · exact hstranded.1 hend.1

/-- A flash that runs to its end, and what happens behind it. -/
theorem armed_flash_run (hq : B.Quiet) {s s' : Site ε} {v : Platform.FlashValues}
    {es : List Happening} (hvacant : s.cpe.config.Vacant) (hown : s.cpe.Plain)
    (hs : Run.exec B.step s (.flash v none :: es) = some s') :
    (Run.Meets B.step B.Untorn s (.flash v none :: es) ∧ (s'.Plainly (Config.Armed B) ∨
        ¬ Run.Meets B.step B.Rescheduled s (.flash v none :: es) ∧ s'.Plainly Config.Disarmed)) ∨
      (¬ Run.Meets B.step B.Untorn s (.flash v none :: es) ∧ s'.cpe.config.Stranded) := by
  obtain ⟨t, ht, hes⟩ := Run.exec_cons_iff.mp hs
  have hmeets (K : Config → Prop) : Run.Meets B.step (B.NoCut K) s (.flash v none :: es) ↔
      Run.Meets B.step (B.NoCut K) t es := by
    refine ⟨fun hm => hm.2 t ht, fun hm => ⟨.of_uncut rfl, fun u hu => ?_⟩⟩
    obtain rfl := Option.some.inj (ht.symm.trans hu)
    exact hm
  have harmed : t.Plainly (Config.Armed B) := by
    rw [step_played ht]
    exact armed_flash hq hown (Or.inr hvacant) v
  have hrun := armed_run hq harmed hes
  unfold Platform.Untorn Platform.Rescheduled at hrun ⊢
  rwa [hmeets, hmeets]

/-- **A flashed router** is armed, or it waits for the next flash since one was cut off that was
replacing the scheduler, as long as the power does not fail between the two commands of the
installer; from then on it is stranded. -/
theorem armed_or_stranded (hq : B.Quiet) {s s' : Site ε} {v : Platform.FlashValues}
    {es : List Happening} (hvacant : s.cpe.config.Vacant) (hown : s.cpe.Plain)
    (hs : Run.exec B.step s (.flash v none :: es) = some s') :
    (Run.Meets B.step B.Untorn s (.flash v none :: es) ∧ (s'.cpe.config.Armed B ∨
        ¬ Run.Meets B.step B.Rescheduled s (.flash v none :: es) ∧ s'.cpe.config.Disarmed ∧
          ∀ v', (Platform.played (B.shelfFlash v') none s').cpe.config.Armed B)) ∨
      (¬ Run.Meets B.step B.Untorn s (.flash v none :: es) ∧ s'.cpe.config.Stranded) := by
  refine (armed_flash_run hq hvacant hown hs).imp_left fun ⟨hmeets, h⟩ => ⟨hmeets, ?_⟩
  refine h.imp (fun h => h.1) fun ⟨hcut, h⟩ => ⟨hcut, h.1, fun v' => ?_⟩
  exact (armed_flash hq h.2 (Or.inr h.1.1) v').1

end Armed

/-! ## A cut between two commands -/

theorem plain_smallHardware : smallHardware.Plain := by
  constructor <;> simp only [smallHardware, Option.mem_def, Option.some.injEq, forall_eq'] <;>
    decide

theorem plain_smallCpe : smallCpe.Plain :=
  ⟨show IsPlainText smallCpe.identity by decide, nofun⟩

theorem quiet_smallPlatform : smallPlatform.Quiet where
  hardware := plain_smallHardware
  answer := by
    intro url secret f ω c _ hc
    obtain rfl := Option.some.inj hc
    exact quiet_of_not_mem (by decide +kernel)

/-- The router is flashed while the network is down. -/
def flashedSite : Site SmallNet :=
  Platform.played (smallPlatform.shelfFlash smallFlash) none smallSite

/-- The power fails once the installer has added the script. -/
def strandedSite : Site SmallNet :=
  Platform.played (smallPlatform.onEvent .firstBoot) (some 6) flashedSite

theorem exec_strandedSite : Run.exec smallPlatform.step smallSite
    [.flash smallFlash none, .tick .firstBoot (some 6)] = some strandedSite := by
  have hscheduled : flashedSite.cpe.config.scheduled .firstBoot = true := by decide +kernel
  refine Run.exec_cons_iff.mpr ⟨flashedSite, step_flash _ _, ?_⟩
  exact Run.exec_cons_iff.mpr ⟨strandedSite, step_tick hscheduled (some 6), Run.exec_nil _⟩

theorem armed_or_stranded_power :
    ¬ Run.Meets smallPlatform.step smallPlatform.Untorn smallSite
      [.flash smallFlash none, .tick .firstBoot (some 6)] ∧ strandedSite.cpe.config.Stranded := by
  have hstranded : strandedSite.cpe.config.Stranded := by decide +kernel
  rcases armed_or_stranded quiet_smallPlatform (by decide) plain_smallCpe exec_strandedSite with
    ⟨-, h | ⟨-, h, -⟩⟩ | h
  · exact absurd hstranded h.not_stranded
  · exact absurd h.1 hstranded.1
  · exact h

/-- A second flash is cut off once it has removed the scheduler. -/
example : (Platform.played (smallPlatform.shelfFlash smallFlash) (some 2)
    flashedSite).cpe.config.Disarmed := by
  decide +kernel

end CpeCloud
