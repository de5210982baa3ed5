import CpeCloud.Concurrent.Safety

/-!
# Two re-enrollments of one router at the same time

The ORM writes the columns whose value changed against the row as the session loaded it. A column
the payload leaves as it was loaded is not written, and keeps what the other request committed there
in between.

* **`never_mixed_iff`**: behind two commits the row carries the payload of the last one iff no
  column it left out had been changed by then.
-/

namespace CpeCloud

open Run (Act)

/-- The row has the payload's identity, MAC address, model, versions, stack and key. -/
def Carries (B : Backend) (p : AutoEnrollRequest) (r : Router) : Prop :=
  r.identity = p.identity ∧ B.macaddr p.mac = some r.macAddress ∧ r.model = some p.model ∧
    r.rosVersion = some p.rosVersion ∧ r.rosMajor = parseRosMajor p.rosVersion ∧
    r.wifiStack = some p.wifiStack ∧ r.wgPublicKey = some p.routerPublicKey

instance (B : Backend) (p : AutoEnrollRequest) (r : Router) : Decidable (Carries B p r) := by
  unfold Carries
  infer_instance

/-- A column that the payload has as it was loaded still has that value. -/
def StillLoaded (p : AutoEnrollRequest) (loaded current : Router) : Prop :=
  (p.identity = loaded.identity → current.identity = loaded.identity) ∧
  (p.mac = loaded.macAddress → current.macAddress = loaded.macAddress) ∧
  (some p.model = loaded.model → current.model = loaded.model) ∧
  (some p.rosVersion = loaded.rosVersion → current.rosVersion = loaded.rosVersion) ∧
  (parseRosMajor p.rosVersion = loaded.rosMajor → current.rosMajor = loaded.rosMajor) ∧
  (some p.wifiStack = loaded.wifiStack → current.wifiStack = loaded.wifiStack) ∧
  (some p.routerPublicKey = loaded.wgPublicKey → current.wgPublicKey = loaded.wgPublicKey)

instance (p : AutoEnrollRequest) (loaded current : Router) :
    Decidable (StillLoaded p loaded current) := by
  unfold StillLoaded
  infer_instance

theorem stillLoaded_self (p : AutoEnrollRequest) (r : Router) : StillLoaded p r r :=
  ⟨fun _ => rfl, fun _ => rfl, fun _ => rfl, fun _ => rfl, fun _ => rfl, fun _ => rfl, fun _ => rfl⟩

theorem written_eq_iff {α : Type} [DecidableEq α] (loaded assigned current : α) :
    written loaded assigned current = assigned ↔ (assigned = loaded → current = loaded) := by
  unfold written
  split
  · rename_i h
    simp [h]
  · rename_i h
    simp [h]

/-- The UPDATE leaves the payload in the row iff the columns it does not write have it. -/
theorem carries_update_iff {B : Backend} {p : AutoEnrollRequest} (hp : p.fits B) {loaded : Router}
    (hl : B.macaddr loaded.macAddress = some loaded.macAddress) (now : Timestamp)
    (current : Router) :
    Carries B p (loaded.update B p now current) ↔ StillLoaded p loaded current := by
  obtain ⟨m, hm⟩ := hp.macaddr
  have hmac : (B.macaddr p.mac = some (loaded.update B p now current).macAddress) ↔
      (p.mac = loaded.macAddress → current.macAddress = loaded.macAddress) := by
    by_cases he : p.mac = loaded.macAddress
    · simp only [Router.update, Router.assign, he, if_true, hl, true_imp_iff, Option.some.injEq]
      exact eq_comm
    · simp [Router.update, Router.assign, Router.canonical, he, hm]
  simp only [Carries, StillLoaded, hmac]
  simp only [Router.update, Router.assign, written_eq_iff]

/-- A payload that changes nothing is in the row. -/
theorem carries_of_assign {B : Backend} {p : AutoEnrollRequest} {now : Timestamp} {r : Router}
    (h : r.assign p now = r) (hr : B.macaddr r.macAddress = some r.macAddress) :
    Carries B p r := by
  have hmac : p.mac = r.macAddress := congrArg Router.macAddress h
  refine ⟨?_, by rw [hmac, hr], ?_, ?_, ?_, ?_, ?_⟩
  · exact (congrArg Router.identity h).symm
  · exact (congrArg Router.model h).symm
  · exact (congrArg Router.rosVersion h).symm
  · exact (congrArg Router.rosMajor h).symm
  · exact (congrArg Router.wifiStack h).symm
  · exact (congrArg Router.wgPublicKey h).symm

/-! ## The condition -/

/-- The router whose row a commit leaves as it is. -/
def Task.untouched : Task → Option Nat
  | .commitReenroll id none _ => some id
  | _ => none

/-- What the UPDATE leaves out is still as it was loaded; where there is none, the row still has
the payload at the commit. -/
def Unmixed (B : Backend) (reqs : Bool → Submission) (s : Sys Bool) : Act Bool → Prop
  | .run i =>
    (∀ loaded ∈ (s.task i).loaded,
      loaded.assign (reqs i).payload (reqs i).enrolledAt ≠ loaded →
        ∀ current ∈ s.db.routerById loaded.id, StillLoaded (reqs i).payload loaded current) ∧
    ∀ id ∈ (s.task i).untouched, ∀ current ∈ s.db.routerById id,
      Carries B (reqs i).payload current
  | .fail _ => True

instance (B : Backend) (reqs : Bool → Submission) (s : Sys Bool) :
    ∀ a, Decidable (Unmixed B reqs s a)
  | .run i => inferInstanceAs (Decidable (
      (∀ loaded ∈ (s.task i).loaded,
        loaded.assign (reqs i).payload (reqs i).enrolledAt ≠ loaded →
          ∀ current ∈ s.db.routerById loaded.id, StillLoaded (reqs i).payload loaded current) ∧
      ∀ id ∈ (s.task i).untouched, ∀ current ∈ s.db.routerById id,
        Carries B (reqs i).payload current))
  | .fail _ => inferInstanceAs (Decidable True)

/-! ## Whatever the interleaving -/

/-- Before the first commit. -/
def Task.early : Task → Bool
  | .lookup | .allocate | .insert _ | .commitNew _ | .flush _ | .selectTokens _ _
  | .commitReenroll _ _ _ => true
  | _ => false

/-- The request is about the router `e`. -/
def Task.Renews (B : Backend) (e : Router) : Task → Prop
  | .flush loaded => loaded.id = e.id ∧ B.macaddr loaded.macAddress = some loaded.macAddress
  | .selectTokens id row | .commitReenroll id row _ =>
    id = e.id ∧ ∀ r ∈ row, r.serialNumber = e.serialNumber
  | .allocate | .insert _ | .commitNew _ => False
  | _ => True

/-- Both requests re-enroll `e`, and each commits once. -/
structure Renewing (B : Backend) (e : Router) (s : Sys Bool) : Prop where
  safe : Safe B s
  row : ∃ r ∈ s.db.routers, r.id = e.id ∧ r.serialNumber = e.serialNumber
  renews : ∀ i, (s.task i).Renews B e
  late : ∀ i ∈ s.commits, (s.task i).early = false
  nodup : s.commits.Nodup

variable {D : Deployment} {reqs : Bool → Submission} {e : Router}

/-- A step that commits nothing. -/
theorem Renewing.goOn {s s' : Sys Bool} (h : Renewing D.toBackend e s)
    (hsafe : Safe D.toBackend s') (hrows : s'.db.routers = s.db.routers)
    (hcommits : s'.commits = s.commits) {i : Bool} {t : Task}
    (htask : s'.task = Function.update s.task i t) (ht : t.Renews D.toBackend e)
    (hlate : (s.task i).early = false → t.early = false) : Renewing D.toBackend e s' := by
  refine ⟨hsafe, hrows ▸ h.row, ?_, ?_, hcommits ▸ h.nodup⟩
  · rw [htask]
    exact (Function.forall_update_iff s.task fun _ t => t.Renews D.toBackend e).mpr
      ⟨ht, fun j _ => h.renews j⟩
  · rw [htask, hcommits]
    exact (Function.forall_update_iff s.task fun j t => j ∈ s.commits → t.early = false).mpr
      ⟨fun hi => hlate (h.late i hi), fun j _ => h.late j⟩

theorem renewing_step (hserial : ∀ i, (reqs i).payload.serial = e.serialNumber) {s s' : Sys Bool}
    {a : Act Bool} (h : Renewing D.toBackend e s) (hs : step D reqs s a = some s') :
    Renewing D.toBackend e s' := by
  have hsafe := safe_step h.safe hs
  obtain ⟨r, hr, hid, hrs⟩ := h.row
  cases step_effect hs with
  | failed i hd => exact h.goOn (t := .failed) hsafe rfl rfl rfl trivial fun _ => rfl
  | died i seq hseq hd => exact h.goOn (t := .failed) hsafe rfl rfl rfl trivial fun _ => rfl
  | foundNone i ht hq =>
    exact absurd (hrs.trans (hserial i).symm) (Db.routerBySerial_none.mp hq r hr)
  | found i existing ht hq =>
    obtain ⟨hmem, hs'⟩ := Db.routerBySerial_some hq
    obtain rfl := h.safe.wf.eq_of_serial hmem hr (hs'.trans ((hserial i).trans hrs.symm))
    exact h.goOn (t := .flush existing) hsafe rfl rfl rfl ⟨hid, h.safe.wf.macs _ hr⟩
      (by simp [ht, Task.early])
  | unchanged i existing ht heq =>
    have hi := h.renews i
    rw [ht] at hi
    exact h.goOn (t := .selectTokens existing.id none) hsafe rfl rfl rfl ⟨hi.1, by simp⟩
      (by simp [ht, Task.early])
  | updated i existing current row ht hne hcur hrow hfits hfree hok =>
    have hi := h.renews i
    rw [ht] at hi
    obtain ⟨hmem, hcid⟩ := Db.routerById_some hcur
    obtain rfl := h.safe.wf.eq_of_id hmem hr (hcid.trans (hi.1.trans hid.symm))
    refine h.goOn (t := .selectTokens existing.id (some row)) hsafe rfl rfl rfl ⟨hi.1, ?_⟩
      (by simp [ht, Task.early])
    intro r' hr'
    obtain rfl := Option.some.inj hr'
    rw [hrow]
    exact hrs
  | selectedTokens i id row ht =>
    have hi := h.renews i
    rw [ht] at hi
    exact h.goOn (t := .commitReenroll id row _) hsafe rfl rfl rfl hi (by simp [ht, Task.early])
  | committedReenroll i id row old ht =>
    have hi := h.renews i
    have hsound := h.safe.sound i
    rw [ht] at hi hsound
    have hnot : i ∉ s.commits := fun hm => by simpa [ht, Task.early] using h.late i hm
    refine ⟨hsafe, ?_, ?_, ?_, ?_⟩
    · cases row with
      | none => exact ⟨r, hr, hid, hrs⟩
      | some row =>
        have hrow := (hsound.2 row rfl).1
        exact ⟨row, (mem_commitReenroll hsound.1 hrow).mpr (Or.inr rfl), hrow.trans hi.1,
          hi.2 row rfl⟩
    · exact (Function.forall_update_iff s.task fun _ t => t.Renews D.toBackend e).mpr
        ⟨trivial, fun j _ => h.renews j⟩
    · refine (Function.forall_update_iff s.task fun j t => j ∈ s.commits ++ [i] →
        t.early = false).mpr ⟨fun _ => rfl, fun j hji hj => h.late j ?_⟩
      simpa [hji] using hj
    · simp only [Sys.setTask_commits]
      exact h.nodup.append (List.nodup_singleton i) (by simpa using hnot)
  | selectedPeers i ht => exact h.goOn (t := .readBlock _) hsafe rfl rfl rfl trivial fun _ => rfl
  | blockRead i peers ht =>
    exact h.goOn (t := .replaceConf peers _) hsafe rfl rfl rfl trivial fun _ => rfl
  | replaced i peers block ht =>
    exact h.goOn (t := .runHelper) hsafe rfl rfl rfl trivial fun _ => rfl
  | helperRan i ht => exact h.goOn (t := .commitAudit) hsafe rfl rfl rfl trivial fun _ => rfl
  | audited i ht => exact h.goOn (t := .answered) hsafe rfl rfl rfl trivial fun _ => rfl
  | allocated i ip ht => simpa [ht, Task.Renews] using h.renews i
  | inserted i ip row ht => simpa [ht, Task.Renews] using h.renews i
  | committedNew i row ht => simpa [ht, Task.Renews] using h.renews i

/-! ## The two outcomes -/

/-- Past the flush, without an UPDATE. -/
def Task.unwritten : Task → Bool
  | .selectTokens _ none | .commitReenroll _ none _ => true
  | _ => false

/-- What is written is a request's own payload, and so is the row behind its commit. -/
structure Unspoiled (B : Backend) (reqs : Bool → Submission) (e : Router) (s : Sys Bool) :
    Prop extends Renewing B e s where
  pending : ∀ i, ∀ r ∈ (s.task i).pending, Carries B (reqs i).payload r
  /-- As long as nobody has committed, what is loaded is current. -/
  unchanged : s.commits = [] → e ∈ s.db.routers ∧ ∀ i, (∀ loaded ∈ (s.task i).loaded, loaded = e) ∧
    ((s.task i).unwritten = true → Carries B (reqs i).payload e)
  last : ∀ k, s.commits.getLast? = some k →
    ∀ r ∈ s.db.routers, r.id = e.id → Carries B (reqs k).payload r

/-- Request `k` has failed, or is going to mix its payload with the other one's, or has. -/
structure Spoiled (B : Backend) (reqs : Bool → Submission) (e : Router) (s : Sys Bool) :
    Prop extends Renewing B e s where
  spoiled : ∃ k, (k ∉ s.commits ∧ s.task k = .failed) ∨
    ((∀ i, i ≠ k → i ∈ s.commits) ∧ k ∉ s.commits ∧
      ∃ r ∈ (s.task k).pending, ¬ Carries B (reqs k).payload r) ∨
    ((∀ i, i ∈ s.commits) ∧ s.commits.getLast? = some k ∧
      ∃ r ∈ s.db.routers, r.id = e.id ∧ ¬ Carries B (reqs k).payload r)

/-- A step that commits nothing. -/
theorem Unspoiled.goOn {s s' : Sys Bool} (h : Unspoiled D.toBackend reqs e s)
    (hbase : Renewing D.toBackend e s') (hrows : s'.db.routers = s.db.routers)
    (hcommits : s'.commits = s.commits) {i : Bool} {t : Task}
    (htask : s'.task = Function.update s.task i t)
    (hp : ∀ r ∈ t.pending, Carries D.toBackend (reqs i).payload r)
    (hu : s.commits = [] → (∀ loaded ∈ t.loaded, loaded = e) ∧
      (t.unwritten = true → Carries D.toBackend (reqs i).payload e)) :
    Unspoiled D.toBackend reqs e s' := by
  refine ⟨hbase, ?_, fun hnil => ?_, hcommits ▸ hrows ▸ h.last⟩
  · rw [htask]
    exact (Function.forall_update_iff s.task fun j t => ∀ r ∈ t.pending,
      Carries D.toBackend (reqs j).payload r).mpr ⟨hp, fun j _ => h.pending j⟩
  · rw [hcommits] at hnil
    obtain ⟨he, hall⟩ := h.unchanged hnil
    rw [hrows, htask]
    exact ⟨he, (Function.forall_update_iff s.task fun j t => (∀ loaded ∈ t.loaded, loaded = e) ∧
      (t.unwritten = true → Carries D.toBackend (reqs j).payload e)).mpr
        ⟨hu hnil, fun j _ => hall j⟩⟩

/-- A step that leaves nothing of the other payload in the row. -/
theorem unspoiled_step (hserial : ∀ i, (reqs i).payload.serial = e.serialNumber) {s s' : Sys Bool}
    {a : Act Bool} (h : Unspoiled D.toBackend reqs e s) (hun : Unmixed D.toBackend reqs s a)
    (hs : step D reqs s a = some s') : Unspoiled D.toBackend reqs e s' := by
  have hbase := renewing_step hserial h.toRenewing hs
  have nothing {t : Task} {i : Bool} (hl : t.loaded = none) (hu : t.unwritten = false) :
      s.commits = [] → (∀ loaded ∈ t.loaded, loaded = e) ∧
        (t.unwritten = true → Carries D.toBackend (reqs i).payload e) :=
    fun _ => ⟨by simp [hl], by simp [hu]⟩
  cases step_effect hs with
  | failed i hd =>
    exact h.goOn (t := .failed) hbase rfl rfl rfl (by simp [Task.pending]) (nothing rfl rfl)
  | died i seq hseq hd =>
    exact h.goOn (t := .failed) hbase rfl rfl rfl (by simp [Task.pending]) (nothing rfl rfl)
  | foundNone i ht hq =>
    exact h.goOn (t := .allocate) hbase rfl rfl rfl (by simp [Task.pending]) (nothing rfl rfl)
  | found i existing ht hq =>
    refine h.goOn (t := .flush existing) hbase rfl rfl rfl (by simp [Task.pending]) fun hnil => ?_
    obtain ⟨hmem, hs'⟩ := Db.routerBySerial_some hq
    refine ⟨fun loaded hl => ?_, by simp [Task.unwritten]⟩
    obtain rfl := Option.some.inj hl
    exact h.safe.wf.eq_of_serial hmem (h.unchanged hnil).1 (hs'.trans (hserial i))
  | unchanged i existing ht heq =>
    refine h.goOn (t := .selectTokens existing.id none) hbase rfl rfl rfl (by simp [Task.pending])
      fun hnil => ⟨by simp [Task.loaded], fun _ => ?_⟩
    obtain ⟨he, hall⟩ := h.unchanged hnil
    obtain rfl := (hall i).1 existing (by rw [ht]; rfl)
    exact carries_of_assign heq (h.safe.wf.macs _ he)
  | updated i existing current row ht hne hcur hrow hfits hfree hok =>
    have hi := h.renews i
    rw [ht] at hi
    refine h.goOn (t := .selectTokens existing.id (some row)) hbase rfl rfl rfl ?_ (nothing rfl rfl)
    intro r hr
    obtain rfl := Option.some.inj hr
    rw [hrow]
    exact (carries_update_iff hfits hi.2 _ _).mpr (hun.1 existing (by rw [ht]; rfl) hne current hcur)
  | selectedTokens i id row ht =>
    have hp := h.pending i
    rw [ht] at hp
    refine h.goOn (t := .commitReenroll id row _) hbase rfl rfl rfl hp fun hnil =>
      ⟨by simp [Task.loaded], fun hu => ((h.unchanged hnil).2 i).2 ?_⟩
    rw [ht]
    cases row with
    | none => rfl
    | some row => exact hu
  | committedReenroll i id row old ht =>
    have hi := h.renews i
    have hsound := h.safe.sound i
    have hp := h.pending i
    rw [ht] at hi hsound hp
    refine ⟨hbase, ?_, fun hnil => absurd hnil (by simp), fun k hk r hr hid => ?_⟩
    · exact (Function.forall_update_iff s.task fun j t => ∀ r ∈ t.pending,
        Carries D.toBackend (reqs j).payload r).mpr
          ⟨by simp [Task.pending], fun j _ => h.pending j⟩
    · obtain rfl : i = k := by simpa using hk
      cases row with
      | none =>
        refine hun.2 id (by rw [ht]; rfl) r ?_
        rw [hi.1, ← hid]
        exact h.safe.wf.routerById_eq hr
      | some row =>
        rcases (mem_commitReenroll hsound.1 (hsound.2 row rfl).1).mp hr with ⟨-, hne⟩ | rfl
        · exact absurd (hid.trans hi.1.symm) hne
        · exact hp r rfl
  | selectedPeers i ht =>
    exact h.goOn (t := .readBlock _) hbase rfl rfl rfl (by simp [Task.pending]) (nothing rfl rfl)
  | blockRead i peers ht =>
    exact h.goOn (t := .replaceConf peers _) hbase rfl rfl rfl (by simp [Task.pending])
      (nothing rfl rfl)
  | replaced i peers block ht =>
    exact h.goOn (t := .runHelper) hbase rfl rfl rfl (by simp [Task.pending]) (nothing rfl rfl)
  | helperRan i ht =>
    exact h.goOn (t := .commitAudit) hbase rfl rfl rfl (by simp [Task.pending]) (nothing rfl rfl)
  | audited i ht =>
    exact h.goOn (t := .answered) hbase rfl rfl rfl (by simp [Task.pending]) (nothing rfl rfl)
  | allocated i ip ht => simpa [ht, Task.Renews] using h.renews i
  | inserted i ip row ht => simpa [ht, Task.Renews] using h.renews i
  | committedNew i row ht => simpa [ht, Task.Renews] using h.renews i

theorem Task.loaded_eq {t : Task} {r : Router} (h : r ∈ t.loaded) : t = .flush r := by
  cases t with
  | flush loaded =>
    obtain rfl := Option.some.inj h
    rfl
  | _ => cases h

theorem Task.untouched_eq {t : Task} {id : Nat} (h : id ∈ t.untouched) :
    ∃ old, t = .commitReenroll id none old := by
  cases t with
  | commitReenroll id' row old =>
    cases row with
    | none =>
      obtain rfl := Option.some.inj h
      exact ⟨old, rfl⟩
    | some row => cases h
  | _ => cases h

/-- Of two, all but one is the other one. -/
theorem others_committed {s : Sys Bool} {k : Bool} (hne : s.commits ≠ []) (hk : k ∉ s.commits) :
    ∀ i, i ≠ k → i ∈ s.commits := by
  intro i hi
  obtain ⟨o, ho⟩ := List.exists_mem_of_ne_nil _ hne
  have hok : o ≠ k := fun he => hk (he ▸ ho)
  obtain rfl : o = i := by cases o <;> cases i <;> cases k <;> simp_all
  exact ho

/-- A commit that mixes two payloads leaves the mixture in the row it writes. -/
theorem spoiled_of_mixed (hserial : ∀ i, (reqs i).payload.serial = e.serialNumber)
    {s s' : Sys Bool} {a : Act Bool} (h : Unspoiled D.toBackend reqs e s)
    (hmix : ¬ Unmixed D.toBackend reqs s a) (hs : step D reqs s a = some s') :
    Spoiled D.toBackend reqs e s' := by
  refine ⟨renewing_step hserial h.toRenewing hs, ?_⟩
  cases a with
  | fail i => exact absurd trivial hmix
  | run i =>
    have hearly : (s.task i).early = true → i ∉ s.commits := fun he hm => by
      rw [h.late i hm] at he
      cases he
    have hcurrent {id : Nat} {current : Router} (hid : id = e.id) (hnil : s.commits = [])
        (hc : current ∈ s.db.routerById id) : current = e := by
      obtain ⟨hm, hcid⟩ := Db.routerById_some hc
      exact h.safe.wf.eq_of_id hm (h.unchanged hnil).1 (hcid.trans hid)
    rcases not_and_or.mp hmix with hmix | hmix
    · simp only [not_forall] at hmix
      obtain ⟨loaded, hl, hne, current, hc, hstill⟩ := hmix
      have ht := Task.loaded_eq hl
      have hi := h.renews i
      rw [ht] at hi
      have hnot := hearly (by rw [ht]; rfl)
      have hcommits : s.commits ≠ [] := by
        intro hnil
        obtain rfl := ((h.unchanged hnil).2 i).1 loaded hl
        obtain rfl := hcurrent rfl hnil hc
        exact hstill (stillLoaded_self _ _)
      have hothers := others_committed hcommits hnot
      cases step_effect hs with
      | died i seq hseq hd => exact ⟨i, Or.inl ⟨hnot, Sys.setTask_self _ _ _⟩⟩
      | updated i existing current' row ht' hne' hcur hrow hfits hfree hok =>
        obtain rfl := Task.flush.inj (ht.symm.trans ht')
        obtain rfl := Option.some.inj (hcur.symm.trans hc)
        refine ⟨i, Or.inr (Or.inl ⟨hothers, hnot, row, by rw [Sys.setTask_self]; rfl, ?_⟩)⟩
        rw [hrow, carries_update_iff hfits hi.2]
        exact hstill
      | unchanged i existing ht' heq =>
        obtain rfl := Task.flush.inj (ht.symm.trans ht')
        exact absurd heq hne
      | _ => simp_all
    · simp only [not_forall] at hmix
      obtain ⟨id, hid, current, hc, hcarries⟩ := hmix
      obtain ⟨old, ht⟩ := Task.untouched_eq hid
      have hi := h.renews i
      rw [ht] at hi
      have hnot := hearly (by rw [ht]; rfl)
      have hcommits : s.commits ≠ [] := by
        intro hnil
        obtain rfl := hcurrent hi.1 hnil hc
        exact hcarries (((h.unchanged hnil).2 i).2 (by rw [ht]; rfl))
      have hothers := others_committed hcommits hnot
      obtain ⟨hmem, hcid⟩ := Db.routerById_some hc
      simp only [step, Sys.run, ht] at hs
      obtain rfl := Option.some.inj hs
      refine ⟨i, Or.inr (Or.inr ⟨fun j => ?_, by simp, current, hmem, hcid.trans hi.1, hcarries⟩)⟩
      by_cases hji : j = i
      · simp [hji]
      · simp [hothers j hji]

theorem commits_step {s s' : Sys Bool} {a : Act Bool} (hs : step D reqs s a = some s') :
    s'.commits = s.commits ∨ s'.commits = s.commits ++ [a.who] := by
  cases step_effect hs with
  | committedNew => exact Or.inr rfl
  | committedReenroll => exact Or.inr rfl
  | _ => exact Or.inl rfl

/-- A request that has committed changes no row. -/
theorem rows_of_late {s s' : Sys Bool} {a : Act Bool} (hs : step D reqs s a = some s')
    (h : (s.task a.who).early = false) :
    s'.db.routers = s.db.routers ∧ s'.commits = s.commits := by
  cases step_effect hs with
  | committedNew i row ht => simp [Act.who, ht, Task.early] at h
  | committedReenroll i id row old ht => simp [Act.who, ht, Task.early] at h
  | _ => exact ⟨rfl, rfl⟩

/-- The mixture stays in the row. -/
theorem spoiled_step (hserial : ∀ i, (reqs i).payload.serial = e.serialNumber) {s s' : Sys Bool}
    {a : Act Bool} (h : Spoiled D.toBackend reqs e s) (hs : step D reqs s a = some s') :
    Spoiled D.toBackend reqs e s' := by
  have hbase := renewing_step hserial h.toRenewing hs
  refine ⟨hbase, ?_⟩
  have kept {k : Bool} (hk : k ∉ s.commits) (hwho : a.who ≠ k) : k ∉ s'.commits := by
    rcases commits_step hs with hc | hc
    · rwa [hc]
    · rw [hc]
      simpa [hwho.symm] using hk
  have still {i : Bool} (hi : i ∈ s.commits) : i ∈ s'.commits := by
    rcases commits_step hs with hc | hc <;> simp [hc, hi]
  obtain ⟨k, ⟨hk, hfail⟩ | ⟨hothers, hk, row, hrow, hnot⟩ | ⟨hall, hlast, hrow⟩⟩ := h.spoiled
  · have hwho : a.who ≠ k := by
      rintro rfl
      simpa [hfail, Task.done] using not_done_of_step hs
    exact ⟨k, Or.inl ⟨kept hk hwho, (step_of_done hs (by rw [hfail]; rfl)).trans hfail⟩⟩
  · by_cases hwho : a.who = k
    · subst hwho
      have hi := h.renews a.who
      cases step_effect hs with
      | failed i hd => exact ⟨i, Or.inl ⟨hk, Sys.setTask_self _ _ _⟩⟩
      | selectedTokens i id row' ht =>
        simp only [Act.who, ht, Task.pending] at hrow
        exact ⟨i, Or.inr (Or.inl ⟨hothers, hk, row, by rw [Sys.setTask_self]; exact hrow, hnot⟩)⟩
      | committedReenroll i id row' old ht =>
        have hsound := h.safe.sound i
        simp only [Act.who, ht, Task.pending] at hrow
        simp only [Act.who, ht, Task.Renews] at hi
        rw [ht] at hsound
        obtain rfl := hrow
        have hrid := (hsound.2 row rfl).1
        refine ⟨i, Or.inr (Or.inr ⟨fun j => ?_, by simp, row,
          (mem_commitReenroll hsound.1 hrid).mpr (Or.inr rfl), hrid.trans hi.1, hnot⟩)⟩
        by_cases hji : j = i
        · simp [hji]
        · simp [hothers j hji]
      | committedNew i row' ht => simp [Act.who, ht, Task.Renews] at hi
      | died i seq hseq hd =>
        rcases hd with ⟨ht, -⟩ | ⟨ht, -⟩ | ⟨ip, ht, -⟩ | ⟨existing, ht, -⟩ <;>
          simp [Act.who, ht, Task.pending] at hrow
      | _ => simp_all [Act.who, Task.pending]
    · have htask : s'.task k = s.task k := step_other hs (Ne.symm hwho)
      exact ⟨k, Or.inr (Or.inl ⟨fun i hi => still (hothers i hi), kept hk hwho, row,
        htask ▸ hrow, hnot⟩)⟩
  · obtain ⟨hrows, hcommits⟩ := rows_of_late hs (h.late _ (hall a.who))
    exact ⟨k, Or.inr (Or.inr ⟨hcommits ▸ hall, hcommits ▸ hlast, hrows ▸ hrow⟩)⟩

/-! ## The result -/

/-- **Behind both commits, the row carries the payload of the last one iff each request found the
columns it does not write as it had loaded them.** -/
theorem never_mixed_iff {db : Db} (hwf : db.WF D.toBackend) (he : e ∈ db.routers)
    (hserial : ∀ i, (reqs i).payload.serial = e.serialNumber) {conf : Text} {as : List (Act Bool)}
    {s : Sys Bool} (hs : Run.exec (step D reqs) (Sys.start db conf) as = some s)
    {first last : Bool} (hcommits : s.commits = [first, last]) :
    (∃ r, s.db.routerBySerial e.serialNumber = some r ∧
      Carries D.toBackend (reqs last).payload r) ↔
        Run.Meets (step D reqs) (Unmixed D.toBackend reqs) (Sys.start db conf) as := by
  have hbase : Renewing D.toBackend e (Sys.start db conf) :=
    ⟨safe_start hwf conf, ⟨e, he, rfl, rfl⟩, fun _ => trivial, by simp [Sys.start],
      by simp [Sys.start]⟩
  have hstart : Unspoiled D.toBackend reqs e (Sys.start db conf) :=
    ⟨hbase, by simp [Sys.start, Task.pending],
      fun _ => ⟨he, fun _ => ⟨by simp [Sys.start, Task.loaded], by simp [Sys.start, Task.unwritten]⟩⟩,
      by simp [Sys.start]⟩
  rcases Run.meets_or (P := Unspoiled D.toBackend reqs e) (Q := Spoiled D.toBackend reqs e)
      (C := Unmixed D.toBackend reqs) (fun h hC hs => unspoiled_step hserial h hC hs)
      (fun h hC hs => spoiled_of_mixed hserial h hC hs) (fun h hs => spoiled_step hserial h hs)
      hstart hs with ⟨hmeets, hgood⟩ | ⟨hmeets, hbad⟩
  · refine ⟨fun _ => hmeets, fun _ => ?_⟩
    obtain ⟨r, hr, hid, hrs⟩ := hgood.row
    refine ⟨r, hrs ▸ hgood.safe.wf.routerBySerial_eq hr, ?_⟩
    exact hgood.last last (by rw [hcommits]; rfl) r hr hid
  · refine ⟨fun hlast => ?_, fun h => absurd h hmeets⟩
    obtain ⟨r, hq, hcarries⟩ := hlast
    have hboth : ∀ k, k ∈ s.commits := by
      have hn := hbad.nodup
      rw [hcommits] at hn ⊢
      intro k
      cases k <;> cases first <;> cases last <;> simp_all
    obtain ⟨k, ⟨hk, -⟩ | ⟨-, hk, -⟩ | ⟨-, hlast, r', hr', hid, hnot⟩⟩ := hbad.spoiled
    · exact absurd (hboth k) hk
    · exact absurd (hboth k) hk
    · obtain rfl : last = k := by simpa [hcommits] using hlast
      obtain ⟨row, hrow, hrid, hrs⟩ := hbad.row
      obtain rfl := hbad.safe.wf.eq_of_id hrow hr' (hrid.trans hid.symm)
      rw [← hrs, hbad.safe.wf.routerBySerial_eq hrow] at hq
      obtain rfl := Option.some.inj hq
      exact absurd hcarries hnot

/-! ## Unit A, renamed and re-keyed -/

/-- Unit A under another name. -/
def unitAMoved : AutoEnrollRequest :=
  (AutoEnrollRequest.validate "HC12345678".toList "e4:8d:8c:aa:bb:01".toList
    "RB952Ui-5ac2nD".toList "hAP ac2 - Lab, Attic".toList "7.14.2".toList "wireless".toList
    "BAAAAAAAAAAAAAAAAAAAAAAAAAAAAAAAAAAAAAAAAAA=".toList).get (by decide)

/-- Unit A with another key. -/
def unitARekeyed : AutoEnrollRequest :=
  (AutoEnrollRequest.validate "HC12345678".toList "e4:8d:8c:aa:bb:01".toList
    "RB952Ui-5ac2nD".toList "hAP ac2 - Lab, Bench".toList "7.14.2".toList "wireless".toList
    "DAAAAAAAAAAAAAAAAAAAAAAAAAAAAAAAAAAAAAAAAAA=".toList).get (by decide)

/-- One request with each. -/
def movedRekeyed (second : Bool) : Submission :=
  if second then (smallCall unitARekeyed "tok-C-another-router" 61).toSubmission
  else (smallCall unitAMoved "tok-B-second-enrollment" 60).toSubmission

/-- The row of unit A. -/
def rowA : Router := (newRouter unitA (Fin.ofNat (2 ^ 32) 0x0a640002) 0 1).canonical
  smallDeployment.toBackend

theorem enrolledWorld_routers : enrolledWorld.db.routers = [rowA] := by
  decide +kernel

theorem rowA_mem : rowA ∈ enrolledWorld.db.routers := by
  rw [enrolledWorld_routers]
  exact List.mem_singleton_self rowA

/-- Both have loaded the row before the first one commits. -/
def crossedUpdates : List (Act Bool) :=
  .run true :: List.replicate 4 (.run false) ++ List.replicate 3 (.run true)

/-- The row ends with the first one's name and the second one's key. -/
theorem crossed_mixed : ¬ ∀ (D : Deployment) (reqs : Bool → Submission) (db : Db) (e : Router)
    (conf : Text) (as : List (Act Bool)) (s : Sys Bool) (first last : Bool), db.WF D.toBackend →
      e ∈ db.routers → (∀ i, (reqs i).payload.serial = e.serialNumber) →
        (∀ i, (reqs i).payload.fits D.toBackend) →
          (∀ i, ∀ r ∈ db.routers, r.id ≠ e.id → ¬ (reqs i).payload.Collides D.toBackend r) →
            Run.exec (step D reqs) (Sys.start db conf) as = some s → s.commits = [first, last] →
              ∃ r, s.db.routerBySerial e.serialNumber = some r ∧
                Carries D.toBackend (reqs last).payload r := by
  intro h
  have hrun : (Run.exec (step smallDeployment movedRekeyed) (Sys.start enrolledWorld.db [])
      crossedUpdates).any (fun s => s.commits = [false, true] ∧
        ∀ r ∈ s.db.routers, r.identity = unitAMoved.identity) = true := by
    decide +kernel
  have hone : ∀ r ∈ enrolledWorld.db.routers, r.id = rowA.id := by
    rw [enrolledWorld_routers]
    exact List.forall_mem_singleton.mpr rfl
  obtain ⟨s, hs, hend⟩ := (Option.any_eq_true ..).mp hrun
  simp only [decide_eq_true_eq] at hend
  obtain ⟨r, hr, hcarries⟩ := h smallDeployment movedRekeyed enrolledWorld.db rowA []
    crossedUpdates s false true wf_enrolledWorld rowA_mem (by decide +kernel) (by decide +kernel)
    (fun i r hr hne => absurd (hone r hr) hne) hs hend.1
  have hidentity := hend.2 r (Db.routerBySerial_some hr).1
  rw [hcarries.1] at hidentity
  exact absurd hidentity (by decide)

/-- One after the other. -/
def orderedUpdates : List (Act Bool) :=
  List.replicate 4 (.run false) ++ List.replicate 4 (.run true)

theorem exec_orderedUpdates : (Run.exec (step smallDeployment movedRekeyed)
    (Sys.start enrolledWorld.db []) orderedUpdates).isSome = true := by
  decide +kernel

theorem never_mixed_iff_ordered : ∃ r, ((Run.exec (step smallDeployment movedRekeyed)
    (Sys.start enrolledWorld.db []) orderedUpdates).get exec_orderedUpdates).db.routerBySerial
      rowA.serialNumber = some r ∧ Carries smallDeployment.toBackend unitARekeyed r :=
  (@never_mixed_iff smallDeployment movedRekeyed rowA _ wf_enrolledWorld rowA_mem (by decide +kernel)
    _ _ _ (Option.some_get exec_orderedUpdates).symm false true (by decide +kernel)).mpr
      (by decide +kernel)

end CpeCloud
