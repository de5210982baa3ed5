import CpeCloud.Device.Armed

/-!
# What a marked router has (`provision.rsc.j2`, `factory-installer.rsc.j2`)

The marker file is the last command of a provisioning script, and `cpe-cloud-enroll` does nothing
once it is there. But the script is imported twice, and the second import takes the records away
again before it adds them. Where the power fails there, the router is marked for good without them.

* `Within`: what has to be looked at to show that something holds throughout a run.
* **`marked_run`**: a marked router posts nothing any more, and keeps its records and its key.
* **`provisioned_or_lacking`**: a marked router has the records of one answer, or it is left without
  one of them for good; the second iff the power once failed while the second import replaced it.
-/

namespace CpeCloud

open Tables (Edit)

/-! ## The scripts, but for an enrollment -/

/-- An edit of the entries of the two scripts. -/
inductive BootEdit : Edit Menu Record → Prop
  | remove (b : Boot) {menu : Menu} (hmenu : menu = .systemScript ∨ menu = .systemScheduler) :
    BootEdit (removeFind menu "name" b.name)
  | append (b : Boot) {menu : Menu} (hmenu : menu = .systemScript ∨ menu = .systemScheduler)
    {r : Record} (hr : r.has "name" b.name.toList = true) : BootEdit (.append menu r)

/-- Such an edit spares what provisioning scripts select. -/
theorem BootEdit.spares {e : Edit Menu Record} (h : BootEdit e) (menu : Menu) :
    e.Spares menu (selected menu) := by
  have hname {m : Menu} (hm : m = .systemScript ∨ m = .systemScheduler) (r : Record) :
      selected m r = r.has "name" "cpe-cloud-telemetry".toList := by
    rcases hm with rfl | rfl <;> rfl
  cases h with
  | remove b hmenu =>
    rintro rfl r hr
    exact Record.has_ne b.name_ne_telemetry.symm (hname hmenu r ▸ hr)
  | append b hmenu hr =>
    rintro rfl
    rw [hname hmenu]
    exact Record.has_ne b.name_ne_telemetry hr

section Within

variable {ε : Type}

/-- What one command outside an enrollment does keeps `I`; an enrollment that comes to an end does,
and on the way it has `C`. -/
structure Platform.Within (B : Platform ε) (I C : Site ε → Prop) : Prop where
  weaken : ∀ s, I s → C s
  resolve : ∀ s fqdn, I s → I { s with net := (B.uplink.resolve fqdn s.net).1 }
  get : ∀ s url, I s → I { s with net := (B.uplink.get url s.net).1 }
  cpe : ∀ s c, (c.identity = s.cpe.identity ∨ c.identity = B.hardware.shelfName) →
    c.wgKey = s.cpe.wgKey → c.config = s.cpe.config → c.provisionFile = s.cpe.provisionFile →
    I s → I { s with cpe := c }
  edit : ∀ s e, BootEdit e → I s → I (s.configured (Config.edit e))
  enroll : ∀ v, Prog.Restores I C (B.enroll v)

namespace Platform.Within

variable {B : Platform ε} {I C : Site ε → Prop} (h : B.Within I C)
include h

theorem onCpe {f : Cpe → Cpe}
    (hname : ∀ c, (f c).identity = c.identity ∨ (f c).identity = B.hardware.shelfName)
    (hkey : ∀ c, (f c).wgKey = c.wgKey) (hconfig : ∀ c, (f c).config = c.config)
    (hfile : ∀ c, (f c).provisionFile = c.provisionFile) : Prog.Restores I C (onCpe f) :=
  .command h.weaken fun s hs => h.cpe s _ (hname _) (hkey _) (hconfig _) (hfile _) hs

theorem bootEdit {e : Edit Menu Record} (he : BootEdit e) : Prog.Restores I C (CpeCloud.edit e) :=
  .command h.weaken fun s hs => h.edit s e he hs

theorem runEnroll : Prog.Restores I C B.runEnroll :=
  .bind (.query _) fun v => (h.enroll v).call

theorem installer (ctx : InstallerContext) : Prog.Restores I C (B.installer ctx) := by
  unfold Platform.installer
  simp only [attempt_edit]
  refine .bind (h.bootEdit (.remove .enroll (Or.inr rfl))) fun _ => ?_
  refine .bind (h.bootEdit (.remove .enroll (Or.inl rfl))) fun _ => ?_
  refine .bind (h.bootEdit (.append .enroll (Or.inl rfl) (enrollScript_name ctx))) fun _ => ?_
  refine .bind (h.bootEdit (.append .enroll (Or.inr rfl) enrollScheduler_name)) fun _ => ?_
  exact h.runEnroll.attempt

theorem standDown (done : Bool) : Prog.Restores I C (Platform.standDown done) := by
  unfold Platform.standDown
  simp only [attempt_edit]
  split
  · exact .bind (h.bootEdit (.remove .firstBoot (Or.inr rfl))) fun _ =>
      h.bootEdit (.remove .firstBoot (Or.inl rfl))
  · exact .pure _

theorem removeInstaller : Prog.Restores I C Platform.removeInstaller :=
  Prog.Restores.attempt
    (h.onCpe (fun _ => Or.inl rfl) (fun _ => rfl) (fun _ => rfl) fun _ => rfl)

theorem firstBoot (v : FirstBootValues) : Prog.Restores I C (B.firstBoot v) := by
  refine .bind (.query _) fun installed => .bind (h.standDown installed) fun _ => ?_
  refine .bind (.exitIf _) fun _ => .bind (probe_restores B h.weaken h.resolve _ _) fun ready => ?_
  refine .bind (.exitIf _) fun _ => .bind (aborted_restores ?_ (.pure _)) fun abort => ?_
  · exact .bind (.command h.weaken fun s hs => h.get s _ hs) fun _ =>
      h.onCpe (fun _ => Or.inl rfl) (fun _ => rfl) (fun _ => rfl) fun _ => rfl
  refine .bind (.exitIf _) fun _ => .bind (aborted_restores ?_ h.removeInstaller) fun abort => ?_
  · exact .bind (.query _) fun ctx => h.installer ctx
  · exact .bind (.exitIf _) fun _ => h.removeInstaller

/-- **What a scheduler runs.** -/
theorem onEvent : ∀ b, Prog.Restores I C (B.onEvent b)
  | .firstBoot => .bind (.query _) fun v => (h.firstBoot v).call
  | .enroll => h.runEnroll

/-- **A flash.** -/
theorem shelfFlash (v : FlashValues) : Prog.Restores I C (B.shelfFlash v) := by
  unfold Platform.shelfFlash
  simp only [attempt_edit]
  refine .bind ?_ fun _ => .bind ?_ fun _ => ?_
  · unfold Platform.nameShelf
    split
    · exact h.onCpe (fun _ => Or.inr rfl) (fun _ => rfl) (fun _ => rfl) fun _ => rfl
    · exact .pure _
  · refine .bind (.query _) fun missing => ?_
    split
    · exact h.onCpe (fun _ => Or.inl rfl) (fun _ => rfl) (fun _ => rfl) fun _ => rfl
    · exact .pure _
  refine .bind (h.bootEdit (.remove .firstBoot (Or.inr rfl))) fun _ => ?_
  refine .bind (h.bootEdit (.remove .firstBoot (Or.inl rfl))) fun _ => ?_
  refine .bind (h.bootEdit (.append .firstBoot (Or.inl rfl) (firstBootScript_name v))) fun _ => ?_
  refine .bind (h.bootEdit (.append .firstBoot (Or.inr rfl) firstBootScheduler_name)) fun _ => ?_
  exact (h.onEvent .firstBoot).attempt

/-- **What runs when something happens.** -/
theorem script : ∀ a, Prog.Restores I C (B.script a)
  | .flash v _ => h.shelfFlash v
  | .tick b _ => h.onEvent b

end Platform.Within

/-- What every command keeps, every run keeps. -/
theorem Platform.Within.run {B : Platform ε} {I : Site ε → Prop} (h : B.Within I I)
    {s s' : Site ε} {es : List Happening} (hs : I s) (hrun : Run.exec B.step s es = some s') :
    I s' := by
  refine Run.exec_induction (P := I) (fun {s a s'} hs hstep => ?_) hs hrun
  rw [step_played hstep]
  exact (Platform.played_spec (h.script a) hs hs a.cut).elim (fun h => h.2) fun h => h.2

/-! ## A marked router -/

/-- The records that the template's `find`s select. -/
def Config.managed (κ : Config) : Tables Menu Record :=
  fun menu => (κ.records menu).filter (selected menu)

/-- The records that the template's `find`s select are those of the script for `c`. -/
def Config.Provisioned (κ : Config) (V : Rendering) (c : ProvisionContext) : Prop :=
  κ.managed = Tables.left (provisionEdits V c)

/-- The router is marked, and a record is missing. -/
def Config.Lacking (κ : Config) : Prop :=
  κ.marker = true ∧ ∃ menu, menu ≠ .firewallFilter ∧ κ.managed menu = []

theorem Config.Provisioned.not_lacking {κ : Config} {V : Rendering} {c : ProvisionContext}
    (h : κ.Provisioned V c) : ¬ κ.Lacking := by
  rintro ⟨-, menu, hmenu, hnil⟩
  rw [h] at hnil
  cases menu with
  | firewallFilter => exact hmenu rfl
  | _ => simp [provisionEdits, removeFind, Tables.left, Tables.selects, Edit.selects] at hnil

/-- **The template's commands** leave the records of their script. -/
theorem provisioned_managed (V : Rendering) (c : ProvisionContext) (κ : Config) :
    (provisioned V c κ).Provisioned V c := by
  funext menu
  have hnone : (Tables.unselected (provisionEdits V c) κ.records menu).filter (selected menu) =
      [] := by
    rw [unselected_provisionEdits]
    simp [Config.foreign, List.filter_filter]
  have hleft : (Tables.left (provisionEdits V c) menu).filter (selected menu) =
      Tables.left (provisionEdits V c) menu := by
    refine List.filter_eq_self.mpr fun r hr => ?_
    rw [← selects_provisionEdits V c]
    exact (covers_provision V c c).left menu r hr
  show (Tables.run (provisionEdits V c) κ.records menu).filter (selected menu) = _
  rw [Tables.run_eq, List.filter_append, hnone, hleft, List.nil_append]

theorem managed_remove {menu : Menu} {key value : String}
    (h : selected menu = Record.has key value.toList) (κ : Config) :
    (κ.edit (removeFind menu key value)).managed = Function.update κ.managed menu [] := by
  funext i
  by_cases hi : i = menu
  · subst hi
    simp [Config.managed, Config.edit, removeFind, Edit.apply, h, List.filter_filter]
  · simp [Config.managed, Config.edit, removeFind, Edit.apply, hi]

theorem managed_append {menu : Menu} {r : Record} (h : selected menu r = true) (κ : Config) :
    (κ.edit (.append menu r)).managed =
      Function.update κ.managed menu (κ.managed menu ++ [r]) := by
  funext i
  by_cases hi : i = menu
  · subst hi
    simp [Config.managed, Config.edit, Edit.apply, h]
  · simp [Config.managed, Config.edit, Edit.apply, hi]

/-- A deletion where there is nothing. -/
theorem managed_delete_nil {menu : Menu} {key value : String} {κ : Config}
    (h : κ.managed menu = []) : (κ.edit (removeFind menu key value)).managed = κ.managed := by
  funext i
  by_cases hi : i = menu
  · subst hi
    have hnone : (κ.records i).filter (selected i) = [] := h
    simp only [Config.managed, Config.edit, removeFind, Edit.apply, Function.update_self]
    rw [List.filter_comm, hnone, List.filter_nil]
  · simp [Config.managed, Config.edit, removeFind, Edit.apply, hi]

theorem managed_bootEdit {e : Edit Menu Record} (h : BootEdit e) (κ : Config) :
    (κ.edit e).managed = κ.managed := by
  funext menu
  exact (h.spares menu).filter_apply κ.records

/-- What a marked router keeps: the marker, its key, the records that were provisioned, and what
neither a lookup of a name nor a download changes in the network. -/
structure Site.SameEnrollment (J : ε → Prop) (s s' : Site ε) : Prop where
  marker : s'.cpe.config.marker = true
  key : s'.cpe.wgKey = s.cpe.wgKey
  managed : s'.cpe.config.managed = s.cpe.config.managed
  net : J s'.net

/-- A marked router does not enroll. -/
theorem enroll_marked {B : Platform ε} {I : Site ε → Prop}
    (hI : ∀ s, I s → s.cpe.config.marker = true) (v : EnrollValues) :
    Prog.Restores I I (B.enroll v) := by
  refine Prog.Spec.query_bind (fun enrolled => ?_) fun _ hs _ => hs
  refine Prog.Spec.given (φ := enrolled = true) (fun s hs => ?_) fun h => ?_
  · exact (Option.some.inj hs.2).symm.trans (hI s hs.1)
  · subst h
    exact Prog.Spec.exitIf_bind (fun _ _ hs => hs.1) fun h => absurd h (by decide)

theorem within_marked {B : Platform ε} {J : ε → Prop}
    (hresolve : ∀ fqdn ω, J ω → J (B.uplink.resolve fqdn ω).1)
    (hget : ∀ url ω, J ω → J (B.uplink.get url ω).1) (s : Site ε) :
    B.Within (s.SameEnrollment J) (s.SameEnrollment J) where
  weaken _ h := h
  resolve _ _ h := { h with net := hresolve _ _ h.net }
  get _ _ h := { h with net := hget _ _ h.net }
  cpe t c _ hkey hconfig _ h := by
    refine ⟨?_, hkey.trans h.key, ?_, h.net⟩
    · exact hconfig ▸ h.marker
    · exact (congrArg Config.managed hconfig).trans h.managed
  edit t e he h := { h with managed := (managed_bootEdit he _).trans h.managed }
  enroll := enroll_marked fun _ h => h.marker

/-- **A marked router posts nothing any more**: whatever happens to it, it keeps its key and the
records that were provisioned, and what only a POST would change in the network. -/
theorem marked_run {B : Platform ε} {J : ε → Prop}
    (hresolve : ∀ fqdn ω, J ω → J (B.uplink.resolve fqdn ω).1)
    (hget : ∀ url ω, J ω → J (B.uplink.get url ω).1) {s s' : Site ε} {es : List Happening}
    (hmarker : s.cpe.config.marker = true) (hJ : J s.net)
    (hrun : Run.exec B.step s es = some s') : s.SameEnrollment J s' :=
  (within_marked hresolve hget s).run ⟨hmarker, rfl, rfl, hJ⟩ hrun

/-! ## An enrollment -/

/-- `N` holds of the network while a router with plain values is not enrolled, and `A f c` from when
it posts `f` and is answered `c`, until it posts again. -/
structure Platform.Answers (B : Platform ε) (N : ε → Prop)
    (A : EnrollFields → ProvisionContext → ε → Prop) : Prop where
  hardware : B.hardware.Plain
  resolve : ∀ fqdn ω, N ω → N (B.uplink.resolve fqdn ω).1
  get : ∀ url ω, N ω → N (B.uplink.get url ω).1
  post : ∀ url secret f ω, B.hardware.Sends f → N ω → N (B.uplink.post url secret f.payload ω).1
  answer : ∀ url secret f ω c, B.hardware.Sends f → N ω →
    (B.uplink.post url secret f.payload ω).2 = some c →
    c.Quiet ∧ A f c (B.uplink.post url secret f.payload ω).1
  later_resolve : ∀ fqdn f c ω, A f c ω → A f c (B.uplink.resolve fqdn ω).1
  later_get : ∀ url f c ω, A f c ω → A f c (B.uplink.get url ω).1

/-- The router is marked, and `c` is what it was answered when it posted `f`. -/
structure Platform.Enrolled (B : Platform ε) (A : EnrollFields → ProvisionContext → ε → Prop)
    (f : EnrollFields) (c : ProvisionContext) (s : Site ε) : Prop where
  marker : s.cpe.config.marker = true
  key : s.cpe.wgKey = some f.routerPublicKey
  sends : B.hardware.Sends f
  answered : A f c s.net

/-- The router is not marked, has plain values, and `N` holds of the network. -/
structure Site.Unmarked (N : ε → Prop) (s : Site ε) : Prop where
  marker : s.cpe.config.marker = false
  own : s.cpe.Plain
  net : N s.net

/-- The router is not marked, or it is enrolled and has all its records. -/
def Platform.Complete (B : Platform ε) (N : ε → Prop)
    (A : EnrollFields → ProvisionContext → ε → Prop) (s : Site ε) : Prop :=
  s.Unmarked N ∨ ∃ f c, B.Enrolled A f c s ∧ s.cpe.config.Provisioned B.rendering c

/-! ### The imports -/

/-- The lines of a file, up to some of them. -/
theorem runLines_append {K C R : Site ε → Prop} {Q : Ending Unit → Site ε → Prop}
    {fs gs : List (Config → Config)} (hK : ∀ f ∈ fs, ∀ s, K s → K (s.configured f))
    (hC : ∀ s, K s → C s) {P : Site ε → Prop}
    (hP : ∀ s, P s → K s ∧ R (s.configured fun κ => fs.foldl (fun κ f => f κ) κ))
    (hgs : Prog.Spec (fun s => K s ∧ R s) (runLines (gs.map goesOn)) C Q) :
    Prog.Spec P (runLines ((fs ++ gs).map goesOn)) C Q := by
  induction fs generalizing P with
  | nil => exact hgs.weaken hP (fun _ hs => hs) fun _ _ hs => hs
  | cons f fs ih =>
    refine Prog.Spec.andThen
      (R := fun s => K s ∧ R (s.configured fun κ => fs.foldl (fun κ f => f κ) κ))
      (Prog.Spec.command fun s hs => ?_) (ih (fun g hg => hK g (List.mem_cons_of_mem f hg))
        fun _ hs => hs)
    have hstep : K (s.configured f) := hK f List.mem_cons_self s (hP s hs).1
    exact ⟨hC _ hstep, rfl, hstep, (hP s hs).2⟩

/-- One line of a file. -/
theorem runLines_cons {K L C : Site ε → Prop} {Q : Ending Unit → Site ε → Prop}
    {f : Config → Config} {fs : List (Config → Config)} (h : ∀ s, K s → L (s.configured f))
    (hC : ∀ s, L s → C s) (hfs : Prog.Spec L (runLines (fs.map goesOn)) C Q) :
    Prog.Spec K (runLines ((f :: fs).map goesOn)) C Q :=
  Prog.Spec.andThen (R := L) (Prog.Spec.command fun s hs => ⟨hC _ (h s hs), rfl, h s hs⟩) hfs

section Enroll

variable {B : Platform ε} {N : ε → Prop}
  {A : EnrollFields → ProvisionContext → ε → Prop} {f : EnrollFields} {c : ProvisionContext}

/-- The answer has come, and is in the file. -/
structure Platform.Fetched (B : Platform ε) (N : ε → Prop)
    (A : EnrollFields → ProvisionContext → ε → Prop) (f : EnrollFields) (c : ProvisionContext)
    (s : Site ε) : Prop where
  own : s.cpe.Plain
  file : s.cpe.provisionFile = some c
  quiet : c.Quiet
  key : s.cpe.wgKey = some f.routerPublicKey
  sends : B.hardware.Sends f
  net : N s.net
  answered : A f c s.net

theorem Platform.Fetched.configured {s : Site ε} (h : B.Fetched N A f c s)
    (g : Config → Config) : B.Fetched N A f c (s.configured g) := { h with }

theorem Platform.Fetched.enrolled {s : Site ε} (h : B.Fetched N A f c s)
    (hm : s.cpe.config.marker = true) : B.Enrolled A f c s :=
  ⟨hm, h.key, h.sends, h.answered⟩

/-- Where an enrollment may be cut off. -/
def Platform.Passed (B : Platform ε) (N : ε → Prop)
    (A : EnrollFields → ProvisionContext → ε → Prop) (s : Site ε) : Prop :=
  B.Complete N A s ∨ (∃ f c, B.Enrolled A f c s) ∧ s.cpe.config.Lacking

/-- The file is imported line by line. -/
theorem importProvision_spec {P C : Site ε → Prop} {Q : Ending Unit → Site ε → Prop}
    (hP : ∀ s, P s → B.Fetched N A f c s)
    (h : Prog.Spec P (runLines ((provisionSteps B.rendering c).map goesOn)) C Q) :
    Prog.Spec P B.importProvision C Q := by
  refine Prog.Spec.query_bind (fun answer => ?_) fun s hs hn => ?_
  · refine Prog.Spec.given (φ := answer = c ∧ c.Quiet) (fun s hs => ?_) ?_
    · exact ⟨Option.some.inj (hs.2.symm.trans (hP s hs.1).file), (hP s hs.1).quiet⟩
    · rintro ⟨rfl, hquiet⟩
      rw [hquiet.mapM_effect]
      exact h.weaken (fun s hs => hs.1) (fun _ hs => hs) fun _ _ hs => hs
  · rw [(hP s hs).file] at hn
    cases hn

/-- The file has been imported. -/
structure Platform.Imported (B : Platform ε) (N : ε → Prop)
    (A : EnrollFields → ProvisionContext → ε → Prop) (f : EnrollFields) (c : ProvisionContext)
    (s : Site ε) : Prop where
  fetched : B.Fetched N A f c s
  marker : s.cpe.config.marker = true
  provisioned : s.cpe.config.Provisioned B.rendering c

theorem Platform.Imported.passed {s : Site ε} (h : B.Imported N A f c s) : B.Passed N A s :=
  Or.inl (Or.inr ⟨f, c, h.fetched.enrolled h.marker, h.provisioned⟩)

/-- The first import marks the router. -/
theorem firstImport_spec :
    Prog.Spec (fun s => B.Fetched N A f c s ∧ s.cpe.config.marker = false) B.importProvision
      (B.Passed N A) fun e s => e = .done () ∧ B.Imported N A f c s := by
  refine importProvision_spec (fun s hs => hs.1) ?_
  have hsteps : provisionSteps B.rendering c =
      ([id, id, id] ++ (provisionEdits B.rendering c).map Config.edit) ++ [Config.mark] :=
    (List.append_assoc _ _ _).symm
  rw [hsteps]
  refine runLines_append (K := fun s => B.Fetched N A f c s ∧ s.cpe.config.marker = false)
    (R := fun s => s.cpe.config.mark.Provisioned B.rendering c) ?_ ?_ ?_ ?_
  · intro g hg s hs
    have hmarker : (g s.cpe.config).marker = s.cpe.config.marker := by
      simp only [List.mem_append, List.mem_cons, List.mem_map, List.not_mem_nil, or_false,
        or_self] at hg
      rcases hg with rfl | ⟨e, -, rfl⟩ <;> rfl
    exact ⟨hs.1.configured g, hmarker.trans hs.2⟩
  · exact fun s hs => Or.inl (Or.inl ⟨hs.2, hs.1.own, hs.1.net⟩)
  · intro s hs
    have hfold := foldl_provisionSteps B.rendering c s.cpe.config
    rw [hsteps, List.foldl_append] at hfold
    have hprovisioned := provisioned_managed B.rendering c s.cpe.config
    rw [← hfold] at hprovisioned
    exact ⟨hs, hprovisioned⟩
  · refine runLines_cons (L := B.Imported N A f c) ?_ (fun s hs => hs.passed) ?_
    · exact fun s hs => ⟨hs.1.1.configured _, rfl, hs.2⟩
    · exact Prog.Spec.pure fun s hs => ⟨rfl, hs⟩

section Again

variable {fs : List (Config → Config)} {Q : Ending Unit → Site ε → Prop}
  (hfs : Prog.Spec (B.Imported N A f c) (runLines (fs.map goesOn)) (B.Passed N A) Q)
include hfs

/-- A line that leaves the marker and the provisioned records alone. -/
theorem again_line {g : Config → Config}
    (hmarker : ∀ κ, κ.marker = true → (g κ).marker = true)
    (hmanaged : ∀ κ, κ.Provisioned B.rendering c → (g κ).managed = κ.managed) :
    Prog.Spec (B.Imported N A f c) (runLines ((g :: fs).map goesOn)) (B.Passed N A) Q := by
  refine runLines_cons (fun s hs => ?_) (fun s hs => hs.passed) hfs
  exact ⟨hs.fetched.configured g, hmarker _ hs.marker,
    (hmanaged _ hs.provisioned).trans hs.provisioned⟩

/-- Two lines that replace a record by itself. -/
theorem again_replace {menu : Menu} {key value : String} {r : Record}
    (hmenu : menu ≠ .firewallFilter) (hsel : selected menu = Record.has key value.toList)
    (hr : r.has key value.toList = true)
    (hleft : Tables.left (provisionEdits B.rendering c) menu = [r]) :
    Prog.Spec (B.Imported N A f c)
      (runLines ((Config.edit (removeFind menu key value) :: Config.edit (.append menu r) ::
        fs).map goesOn)) (B.Passed N A) Q := by
  have hselected : selected menu r = true := by rwa [hsel]
  refine runLines_cons (L := fun s => (B.Fetched N A f c s ∧ s.cpe.config.marker = true) ∧
    s.cpe.config.managed = Function.update (Tables.left (provisionEdits B.rendering c)) menu [])
    (fun s hs => ?_) (fun s hs => ?_)
    (runLines_cons (fun s hs => ?_) (fun s hs => hs.passed) hfs)
  · refine ⟨⟨hs.fetched.configured _, hs.marker⟩, (managed_remove hsel _).trans ?_⟩
    rw [hs.provisioned]
  · refine Or.inr ⟨⟨f, c, hs.1.1.enrolled hs.1.2⟩, hs.1.2, menu, hmenu, ?_⟩
    rw [hs.2, Function.update_self]
  · refine ⟨hs.1.1.configured _, hs.1.2, (managed_append hselected _).trans ?_⟩
    rw [hs.2, Function.update_self, Function.update_idem, List.nil_append, ← hleft,
      Function.update_eq_self]

theorem again_firewall (key value : String) : Prog.Spec (B.Imported N A f c)
    (runLines ((Config.edit (removeFind .firewallFilter key value) :: fs).map goesOn))
    (B.Passed N A) Q := by
  refine again_line hfs (fun _ h => h) fun κ h => managed_delete_nil ?_
  rw [h]
  rfl

end Again

/-- The second import replaces each record by itself. -/
theorem secondImport_spec :
    Prog.Spec (B.Imported N A f c) B.importProvision (B.Passed N A)
      fun e s => e = .done () ∧ B.Imported N A f c s := by
  refine importProvision_spec (fun s hs => hs.fetched) ?_
  -- The three lines of the header.
  refine again_line (again_line (again_line ?_ (fun _ h => h) fun _ _ => rfl) (fun _ h => h)
    fun _ _ => rfl) (fun _ h => h) fun _ _ => rfl
  refine again_replace ?_ (by decide) rfl rfl rfl
  refine again_replace ?_ (by decide) rfl rfl rfl
  refine again_replace ?_ (by decide) rfl rfl rfl
  refine again_firewall (again_firewall ?_ _ _) _ _
  refine again_replace ?_ (by decide) rfl rfl rfl
  refine again_replace ?_ (by decide) rfl rfl rfl
  refine again_line ?_ (fun _ _ => rfl) fun _ _ => rfl
  exact Prog.Spec.pure fun s hs => ⟨rfl, hs⟩

/-- **The two imports.** -/
theorem imports_done :
    Prog.Spec (fun s => B.Fetched N A f c s ∧ s.cpe.config.marker = false)
      (aborted (do B.importProvision; B.importProvision) Platform.removeProvision) (B.Passed N A)
      fun e s => e = .done false ∧ B.Enrolled A f c s ∧
        s.cpe.config.Provisioned B.rendering c := by
  refine Prog.Spec.onError (R := fun _ => False) ?_ fun _ hs => hs.elim
  refine Prog.Spec.andThen (firstImport_spec.andThen secondImport_spec) ?_
  exact Prog.Spec.pure fun s hs => ⟨rfl, hs.fetched.enrolled hs.marker, hs.provisioned⟩

/-- A POST, and the answer to it. -/
theorem fetchProvision_answered (h : B.Answers N A) (v : EnrollValues)
    (hf : B.hardware.Sends f) :
    Prog.Spec (fun s => s.Unmarked N ∧ s.cpe.wgKey = some f.routerPublicKey)
      (B.fetchProvision v f) (fun s => s.Unmarked N ∧ s.cpe.wgKey = some f.routerPublicKey)
      fun e s => (s.Unmarked N ∧ s.cpe.wgKey = some f.routerPublicKey) ∧
        (e = .done () → ∃ c, B.Fetched N A f c s ∧ s.cpe.config.marker = false) := by
  refine Prog.Spec.bind (R := fun e s => (s.Unmarked N ∧ s.cpe.wgKey = some f.routerPublicKey) ∧
    ∀ c, e = .done c → c.Quiet ∧ A f c s.net) ?_ (fun c => ?_) ?_ ?_
  · refine Prog.Spec.command fun s hs => ?_
    have hnet := h.post v.enrollmentUrl v.provisioningSecret f s.net hf hs.1.net
    have hstay : Site.Unmarked N { s with net := (B.uplink.post v.enrollmentUrl
        v.provisioningSecret f.payload s.net).1 } := { hs.1 with net := hnet }
    refine ⟨⟨hstay, hs.2⟩, ⟨hstay, hs.2⟩, fun c hc => ?_⟩
    exact h.answer _ _ f s.net c hf hs.1.net (Prog.ofOption_eq_done.mp hc)
  · refine Prog.Spec.command fun s hs => ?_
    have hstay : Site.Unmarked N
        { s with cpe := { s.cpe with provisionFile := some c } } := { hs.1.1 with }
    refine ⟨⟨hstay, hs.1.2⟩, ⟨hstay, hs.1.2⟩, fun _ => ⟨c, ?_, hs.1.1.marker⟩⟩
    obtain ⟨hquiet, hc⟩ := hs.2 c rfl
    exact ⟨hs.1.1.own, rfl, hquiet, hs.1.2, hf, hs.1.1.net, hc⟩
  · exact fun s hs => ⟨hs.1, fun he => nomatch he⟩
  · exact fun s hs => ⟨hs.1, fun he => nomatch he⟩

/-- **An enrollment** of a router that is not marked. -/
theorem enroll_unmarked (h : B.Answers N A) (v : EnrollValues) :
    Prog.Spec (Site.Unmarked N) (B.enroll v) (B.Passed N A) fun _ => B.Complete N A := by
  have hunmarked (s : Site ε) (hs : s.Unmarked N) : B.Passed N A s := Or.inl (Or.inl hs)
  have hend (s : Site ε) (hs : s.Unmarked N) : B.Complete N A s := Or.inl hs
  refine Prog.Spec.query_bind (fun enrolled => ?_) fun s hs _ => hend s hs
  refine Prog.Spec.weaken (P := Site.Unmarked N) ?_ (fun s hs => hs.1) (fun _ hs => hs)
    fun _ _ hs => hs
  refine Prog.Spec.exitIf_bind (fun _ => hend) fun _ => ?_
  refine Prog.Spec.bind (R := fun _ => Site.Unmarked N) ?_ (fun ready => ?_) hend hend
  · exact probe_restores B hunmarked
      (fun s fqdn hs => { hs with net := h.resolve fqdn _ hs.net }) _ _
  refine Prog.Spec.exitIf_bind (fun _ => hend) fun _ => ?_
  refine Prog.Spec.bind (R := fun _ => Site.Unmarked N) ?_ (fun _ => ?_) hend hend
  · exact (ensureInterface_keeps B fun s hs => { hs with
      own := ⟨hs.own.1, fun _ hkey => Option.some.inj hkey ▸ h.hardware.key⟩ }).restores hunmarked
  refine Prog.Spec.query_bind (fun f => ?_) fun s hs _ => hend s hs
  refine Prog.Spec.bind (R := fun e s => s.Unmarked N ∧
    (e = .done false → ∃ c, B.Fetched N A f c s ∧ s.cpe.config.marker = false)) ?_
    (fun abort => ?_) (fun s hs => hend s hs.1) fun s hs => hend s hs.1
  · refine Prog.Spec.given (φ := B.hardware.Sends f) (fun s hs => ⟨_, hs.1.own, hs.2⟩) fun hf => ?_
    refine (aborted_spec (fetchProvision_answered h v hf) (.pure _)).weaken ?_ ?_ ?_
    · exact fun s hs => ⟨hs.1, Hardware.enrollFields_key hs.2⟩
    · exact fun s hs => hunmarked s hs.1
    · exact fun e s hs => ⟨hs.1.1, hs.2⟩
  refine Prog.Spec.exitIf_bind (fun _ s hs => hend s hs.1) fun habort => ?_
  subst habort
  refine Prog.Spec.weaken (P := fun s => ∃ c, B.Fetched N A f c s ∧ s.cpe.config.marker = false)
    (Prog.Spec.of_exists fun c => ?_)
    (fun s hs => hs.2 rfl) (fun _ hs => hs) fun _ _ hs => hs
  refine Prog.Spec.bind imports_done (fun abort => ?_) (fun s hs => nomatch hs.1)
    fun s hs => nomatch hs.1
  refine Prog.Spec.given (φ := abort = false) (fun s hs => by simpa using hs.1) fun habort => ?_
  subst habort
  refine Prog.Spec.exitIf_bind (fun habort => absurd habort (by decide)) fun _ => ?_
  have hremove : Prog.Keeps (fun s => B.Enrolled A f c s ∧
      s.cpe.config.Provisioned B.rendering c) Platform.removeProvision :=
    removeProvision_keeps fun s hs => ⟨{ hs.1 with }, hs.2⟩
  exact hremove.spec.weaken (fun s hs => hs.2) (fun s hs => Or.inl (Or.inr ⟨f, c, hs⟩))
    fun _ s hs => Or.inr ⟨f, c, hs⟩

/-! ## Runs -/

/-- An enrollment, wherever it starts. -/
theorem enroll_complete (h : B.Answers N A) (v : EnrollValues) :
    Prog.Spec (B.Complete N A) (B.enroll v) (B.Passed N A) fun _ => B.Complete N A := by
  intro s hs
  rcases hs with hs | ⟨f, c, hs⟩
  · exact enroll_unmarked h v s hs
  · have hmarked := enroll_marked (B := B) (I := fun t => B.Enrolled A f c t ∧
      t.cpe.config.Provisioned B.rendering c) (fun t ht => ht.1.marker) v
    exact hmarked.weaken (fun _ ht => ht) (fun t ht => Or.inl (Or.inr ⟨f, c, ht⟩))
      (fun _ t ht => Or.inr ⟨f, c, ht⟩) s hs

theorem within_complete (h : B.Answers N A) : B.Within (B.Complete N A) (B.Passed N A) where
  weaken _ hs := Or.inl hs
  resolve s fqdn hs := by
    rcases hs with hs | ⟨f, c, hs, hc⟩
    · exact Or.inl { hs with net := h.resolve fqdn _ hs.net }
    · exact Or.inr ⟨f, c, { hs with answered := h.later_resolve fqdn f c _ hs.answered }, hc⟩
  get s url hs := by
    rcases hs with hs | ⟨f, c, hs, hc⟩
    · exact Or.inl { hs with net := h.get url _ hs.net }
    · exact Or.inr ⟨f, c, { hs with answered := h.later_get url f c _ hs.answered }, hc⟩
  cpe s c' hname hkey hconfig _ hs := by
    rcases hs with hs | ⟨f, c, hs, hc⟩
    · refine Or.inl ⟨hconfig ▸ hs.marker, ?_, hs.net⟩
      refine ⟨?_, hkey ▸ hs.own.2⟩
      exact hname.elim (fun he => he ▸ hs.own.1) fun he => he ▸ h.hardware.shelfName
    · exact Or.inr ⟨f, c, ⟨hconfig ▸ hs.marker, hkey.trans hs.key, hs.sends, hs.answered⟩,
        hconfig ▸ hc⟩
  edit s e he hs := by
    rcases hs with hs | ⟨f, c, hs, hc⟩
    · exact Or.inl { hs with }
    · exact Or.inr ⟨f, c, { hs with }, (managed_bootEdit he _).trans hc⟩
  enroll := enroll_complete h

theorem within_lacking (h : B.Answers N A) : B.Within
    (fun s => (∃ f c, B.Enrolled A f c s) ∧ s.cpe.config.Lacking)
    fun s => (∃ f c, B.Enrolled A f c s) ∧ s.cpe.config.Lacking where
  weaken _ hs := hs
  resolve s fqdn hs := by
    obtain ⟨⟨f, c, hs⟩, hl⟩ := hs
    exact ⟨⟨f, c, { hs with answered := h.later_resolve fqdn f c _ hs.answered }⟩, hl⟩
  get s url hs := by
    obtain ⟨⟨f, c, hs⟩, hl⟩ := hs
    exact ⟨⟨f, c, { hs with answered := h.later_get url f c _ hs.answered }⟩, hl⟩
  cpe s c' _ hkey hconfig _ hs := by
    obtain ⟨⟨f, c, hs⟩, hl⟩ := hs
    exact ⟨⟨f, c, hconfig ▸ hs.marker, hkey.trans hs.key, hs.sends, hs.answered⟩, hconfig ▸ hl⟩
  edit s e he hs := by
    obtain ⟨⟨f, c, hs⟩, hm, menu, hmenu, hnil⟩ := hs
    exact ⟨⟨f, c, { hs with }⟩, hm, menu, hmenu,
      (congrFun (managed_bootEdit he _) menu).trans hnil⟩
  enroll := enroll_marked fun _ hs => hs.2.1

/-- The power does not fail between two commands of the second import that replace a record. -/
def Platform.Unsplit (B : Platform ε) : Site ε → Happening → Prop := B.NoCut Config.Lacking

theorem Platform.Complete.not_lacking {s : Site ε} (h : B.Complete N A s) :
    ¬ s.cpe.config.Lacking := by
  rcases h with h | ⟨f, c, -, h⟩
  · rintro ⟨hm, -⟩
    rw [h.marker] at hm
    cases hm
  · exact h.not_lacking

/-- **A router that was not marked**, behind any run. -/
theorem complete_or_lacking (h : B.Answers N A) {s s' : Site ε} {es : List Happening}
    (hs : s.Unmarked N) (hrun : Run.exec B.step s es = some s') :
    (Run.Meets B.step B.Unsplit s es ∧ B.Complete N A s') ∨
      (¬ Run.Meets B.step B.Unsplit s es ∧
        (∃ f c, B.Enrolled A f c s') ∧ s'.cpe.config.Lacking) := by
  refine Run.meets_or (P := B.Complete N A)
    (Q := fun t => (∃ f c, B.Enrolled A f c t) ∧ t.cpe.config.Lacking) ?_ ?_ ?_ (Or.inl hs) hrun
  · intro s a s' hs hC hstep
    rw [step_played hstep]
    rcases Platform.played_spec ((within_complete h).script a) hs (Or.inl hs) a.cut with
      ⟨-, hend⟩ | ⟨hcut, hend⟩
    · exact hend
    · exact hend.resolve_right fun hlacking => hC hcut hlacking.2
  · intro s a s' hs hC hstep
    rw [step_played hstep]
    rcases Platform.played_spec ((within_complete h).script a) hs (Or.inl hs) a.cut with
      ⟨hcut, -⟩ | ⟨-, hend⟩
    · exact absurd (.of_uncut hcut) hC
    · exact hend.resolve_left fun hcomplete => hC fun _ => hcomplete.not_lacking
  · intro s a s' hs hstep
    have hrun : Run.exec B.step s [a] = some s' :=
      Run.exec_cons_iff.mpr ⟨s', hstep, Run.exec_nil _⟩
    exact (within_lacking h).run hs hrun

/-- A router that has marked itself was answered. -/
theorem enrolled_of_marked (h : B.Answers N A) {s s' : Site ε} {es : List Happening}
    (hs : s.Unmarked N) (hrun : Run.exec B.step s es = some s')
    (hmarked : s'.cpe.config.marker = true) : ∃ f c, B.Enrolled A f c s' := by
  rcases complete_or_lacking h hs hrun with ⟨-, hs' | ⟨f, c, hs', -⟩⟩ | ⟨-, hs', -⟩
  · rw [hs'.marker] at hmarked
    cases hmarked
  · exact ⟨f, c, hs'⟩
  · exact hs'

end Enroll

/-- The network answers some POST of `f` with `c`. -/
def Platform.Answered (B : Platform ε) (f : EnrollFields) (c : ProvisionContext) (_ : ε) : Prop :=
  ∃ url secret ω, (B.uplink.post url secret f.payload ω).2 = some c

theorem answers_of_quiet {B : Platform ε} (hq : B.Quiet) :
    B.Answers (fun _ => True) B.Answered where
  hardware := hq.hardware
  resolve _ _ _ := trivial
  get _ _ _ := trivial
  post _ _ _ _ _ _ := trivial
  answer _ _ _ _ _ hf _ hc :=
    ⟨hq.answer _ _ _ _ _ (hf.plain hq.hardware).1 hc, _, _, _, hc⟩
  later_resolve _ _ _ _ h := h
  later_get _ _ _ _ h := h

end Within

/-! ## Two runs -/

/-- A run of `cpe-cloud-first-boot` that enrolls the router. -/
def markedSite : Site SmallNet :=
  Platform.played (smallPlatform.onEvent .firstBoot) none flashedSite

/-- Both schedulers run their scripts, and the router is flashed again. -/
theorem marked_run_again : ∃ s' : Site SmallNet, Run.exec smallPlatform.step markedSite
    [.tick .firstBoot none, .tick .enroll none, .flash smallFlash none] = some s' ∧
      s'.net.posts = 1 := by
  have hrun : (Run.exec smallPlatform.step markedSite
      [.tick .firstBoot none, .tick .enroll none, .flash smallFlash none]).isSome = true := by
    decide +kernel
  obtain ⟨s', hs'⟩ := Option.isSome_iff_exists.mp hrun
  refine ⟨s', hs', (marked_run (J := fun n => n.posts = 1) ?_ ?_ ?_ ?_ hs').net⟩
  · exact fun _ _ h => h
  · exact fun _ _ h => h
  · decide +kernel
  · decide +kernel

/-- The power fails when the second import has removed the first record. -/
def splitSite : Site SmallNet :=
  Platform.played (smallPlatform.onEvent .firstBoot) (some 31) flashedSite

end CpeCloud
