import CpeCloud.AutoEnroll.Enrollable
import CpeCloud.Concurrent.Enroll

/-!
# What every interleaving keeps

`Safe` is the invariant the results on concurrent enrollments rest on: Postgres admits the
committed tables, the task of each request makes sense on them, and no two requests hold rows that
could not both be committed.

* **`safe_step`**, `safe_run`: it is kept, whoever moves and whoever fails.
* **`run_alone`**: a request that nobody interferes with does what `enrollRow` and `sync_from_db`
  do.
-/

namespace CpeCloud

open Run (Act)

variable {ι : Type}

/-- What a request knows of the tables: a new row's id is not taken, a known row is there, and
what is written can be committed. -/
def Task.Sound (B : Backend) (db : Db) : Task → Prop
  | .commitNew row => row.id ∉ db.routers.map Router.id ∧ db.Takes B row
  | .flush loaded => loaded.id ∈ db.routers.map Router.id
  | .selectTokens id row | .commitReenroll id row _ =>
    id ∈ db.routers.map Router.id ∧ ∀ r ∈ row, r.id = id ∧ db.Takes B r
  | _ => True

/-- The invariant. -/
structure Safe (B : Backend) (s : Sys ι) : Prop where
  wf : s.db.WF B
  sound : ∀ i, (s.task i).Sound B s.db
  apart : ∀ i j, i ≠ j → ∀ r ∈ (s.task i).pending, ∀ r' ∈ (s.task j).pending,
    r.id ≠ r'.id ∧ ¬ r.clash r'

theorem safe_start {B : Backend} {db : Db} (h : db.WF B) (conf : Text) :
    Safe B (Sys.start db conf : Sys ι) :=
  ⟨h, fun _ => trivial, by simp [Sys.start, Task.pending]⟩

/-- A written row is one Postgres takes. -/
theorem Task.Sound.takes {B : Backend} {db : Db} {t : Task} (h : t.Sound B db) :
    ∀ r ∈ t.pending, db.Takes B r := by
  intro r hr
  cases t with
  | commitNew row =>
    obtain rfl := Option.some.inj hr
    exact h.2
  | selectTokens id row => exact (h.2 r hr).2
  | commitReenroll id row old => exact (h.2 r hr).2
  | _ => cases hr

/-- A task still makes sense on tables with more rows, if what it wrote still does. -/
theorem Task.Sound.mono {B : Backend} {db db' : Db} {t : Task} (h : t.Sound B db)
    (hids : ∀ id ∈ db.routers.map Router.id, id ∈ db'.routers.map Router.id)
    (hp : ∀ r ∈ t.pending, db'.Takes B r)
    (hnew : ∀ row, t = .commitNew row → row.id ∉ db'.routers.map Router.id) : t.Sound B db' := by
  cases t with
  | commitNew row => exact ⟨hnew row rfl, hp row rfl⟩
  | flush loaded => exact hids _ h
  | selectTokens id row => exact ⟨hids _ h.1, fun r hr => ⟨(h.2 r hr).1, hp r hr⟩⟩
  | commitReenroll id row old => exact ⟨hids _ h.1, fun r hr => ⟨(h.2 r hr).1, hp r hr⟩⟩
  | _ => trivial

/-! ## One step -/

/-- Ids may be drawn. -/
theorem Safe.drawn {B : Backend} {s : Sys ι} (h : Safe B s) {seq : Nat}
    (hseq : s.db.routersSeq ≤ seq) :
    Safe B { s with db := { s.db with routersSeq := seq } } where
  wf := h.wf.drawn hseq
  sound := by
    intro i
    refine (h.sound i).mono (fun _ hid => hid) (fun r hr => ?_) fun row hrow => ?_
    · have ht := (h.sound i).takes r hr
      exact ⟨ht.seq.trans_le hseq, ht.mac, ht.apart⟩
    · have ht := h.sound i
      rw [hrow] at ht
      exact ht.1
  apart := h.apart

/-- A row that does not have to wait is apart from what the others hold. -/
theorem apart_of_not_blocked {s : Sys ι} {i : ι} {r : Router} (h : ¬ s.Blocked i r) :
    ∀ j, j ≠ i → ∀ r' ∈ (s.task j).pending, r.id ≠ r'.id ∧ ¬ r.clash r' := by
  intro j hj r' hr'
  have hw : ¬ s.db.Waits r' r := fun hw => h ⟨j, hj, (Option.any_eq_true ..).mpr ⟨r', hr', by
    simpa using hw⟩⟩
  simp only [Db.Waits, not_or] at hw
  exact ⟨fun he => hw.1 he.symm, fun hc => hw.2.1 (Router.clash_symm hc)⟩

variable [DecidableEq ι]

/-- Request `i` goes on, without a commit. -/
theorem Safe.setTask {B : Backend} {s : Sys ι} (h : Safe B s) {i : ι} {t : Task}
    (ht : t.Sound B s.db)
    (hp : ∀ r ∈ t.pending, ∀ j, j ≠ i → ∀ r' ∈ (s.task j).pending, r.id ≠ r'.id ∧ ¬ r.clash r') :
    Safe B (s.setTask i t) where
  wf := h.wf
  sound := (Function.forall_update_iff s.task fun _ t => t.Sound B s.db).mpr
    ⟨ht, fun j _ => h.sound j⟩
  apart := by
    intro j k hjk r hr r' hr'
    by_cases hj : j = i
    · subst hj
      rw [s.setTask_self] at hr
      rw [s.setTask_of_ne hjk.symm] at hr'
      exact hp r hr k hjk.symm r' hr'
    · rw [s.setTask_of_ne hj] at hr
      by_cases hk : k = i
      · subst hk
        rw [s.setTask_self] at hr'
        obtain ⟨hid, hclash⟩ := hp r' hr' j hj r hr
        exact ⟨hid.symm, fun hc => hclash (Router.clash_symm hc)⟩
      · rw [s.setTask_of_ne hk] at hr'
        exact h.apart j k hjk r hr r' hr'

/-- Request `i` goes on, and has written no more than before. -/
theorem Safe.goOn {B : Backend} {s : Sys ι} (h : Safe B s) {i : ι} {t : Task}
    (ht : t.Sound B s.db) (hp : ∀ r ∈ t.pending, r ∈ (s.task i).pending) :
    Safe B (s.setTask i t) :=
  h.setTask ht fun r hr j hj r' hr' => h.apart i j hj.symm r (hp r hr) r' hr'

/-- A commit of request `i` leaves the others where they are. -/
theorem Safe.commit {B : Backend} {s : Sys ι} (h : Safe B s) {i : ι} {db' : Db} {commits : List ι}
    (hwf : db'.WF B) (hseq : db'.routersSeq = s.db.routersSeq)
    (hids : ∀ id ∈ s.db.routers.map Router.id, id ∈ db'.routers.map Router.id)
    (hrows : ∀ a ∈ db'.routers, a ∈ s.db.routers ∨ a ∈ (s.task i).pending)
    (hnew : ∀ id ∈ db'.routers.map Router.id, id ∈ s.db.routers.map Router.id ∨
      ∃ r ∈ (s.task i).pending, r.id = id) :
    Safe B ({ s with db := db', commits := commits }.setTask i .selectPeers) where
  wf := hwf
  sound := by
    refine (Function.forall_update_iff s.task fun _ t => t.Sound B db').mpr ⟨trivial, fun j hj => ?_⟩
    refine (h.sound j).mono hids (fun r hr => ?_) fun row hrow hm => ?_
    · have ht := (h.sound j).takes r hr
      refine ⟨hseq ▸ ht.seq, ht.mac, fun a ha hne => ?_⟩
      rcases hrows a ha with ha | ha
      · exact ht.apart a ha hne
      · exact (h.apart i j (Ne.symm hj) a ha r hr).2
    · have ht := h.sound j
      rw [hrow] at ht
      rcases hnew _ hm with hm | ⟨r, hr, hid⟩
      · exact ht.1 hm
      · exact (h.apart i j (Ne.symm hj) r hr row (by rw [hrow]; rfl)).1 hid
  apart := by
    have hsub : ∀ j, ∀ r ∈ (({ s with db := db', commits := commits }.setTask i
        .selectPeers).task j).pending, r ∈ (s.task j).pending := by
      intro j r hr
      by_cases hj : j = i
      · subst hj
        rw [Sys.setTask_self] at hr
        cases hr
      · rw [Sys.setTask_of_ne _ hj] at hr
        exact hr
    exact fun j k hjk r hr r' hr' => h.apart j k hjk r (hsub j r hr) r' (hsub k r' hr')

variable [Fintype ι] {D : Deployment} {reqs : ι → Submission}

/-- **Every step keeps it.** -/
theorem safe_step {s s' : Sys ι} {a : Act ι} (h : Safe D.toBackend s)
    (hs : step D reqs s a = some s') : Safe D.toBackend s' := by
  cases step_effect hs with
  | failed i hd => exact h.goOn trivial (by simp [Task.pending])
  | died i seq hseq hd => exact (h.drawn hseq).goOn trivial (by simp [Task.pending])
  | foundNone i ht hq => exact h.goOn trivial (by simp [Task.pending])
  | found i existing ht hq =>
    exact h.goOn (List.mem_map_of_mem (Db.routerBySerial_some hq).1) (by simp [Task.pending])
  | allocated i ip ht hip => exact h.goOn trivial (by simp [Task.pending])
  | inserted i ip row ht hrow hfits hfree hok =>
    refine (h.drawn (Nat.le_succ _)).setTask ⟨fun hm => ?_, ?_⟩ ?_
    · obtain ⟨a, ha, hid⟩ := List.mem_map.mp hm
      have hlt := h.wf.routersSeq a ha
      rw [hid, hrow] at hlt
      exact absurd hlt (lt_irrefl _)
    · refine ⟨hrow ▸ Nat.lt_succ_self _, hrow ▸ canonical_mac hfits rfl, fun a ha hne hc => ?_⟩
      exact hok ⟨a, ha, hne, hc⟩
    · intro r hr
      obtain rfl := Option.some.inj hr
      exact apart_of_not_blocked hfree
  | committedNew i row ht =>
    have hsound := h.sound i
    rw [ht] at hsound
    refine h.commit (wf_commitNew h.wf _ hsound.1 hsound.2) rfl ?_ ?_ ?_
    · intro id hid
      simp only [Db.commitNew, List.map_append, List.mem_append]
      exact Or.inl hid
    · intro a ha
      refine (mem_commitNew.mp ha).imp id fun he => ?_
      rw [ht, he]
      rfl
    · intro id hid
      simp only [Db.commitNew, List.map_append, List.mem_append, List.map_cons, List.map_nil,
        List.mem_singleton] at hid
      exact hid.imp (fun hm => hm) fun he => ⟨row, by rw [ht]; rfl, he.symm⟩
  | unchanged i existing ht heq =>
    have hsound := h.sound i
    rw [ht] at hsound
    exact h.goOn ⟨hsound, by simp⟩ (by simp [Task.pending])
  | updated i existing current row ht hne hcur hrow hfits hfree hok =>
    have hsound := h.sound i
    rw [ht] at hsound
    obtain ⟨hmem, hid⟩ := Db.routerById_some hcur
    refine h.setTask ⟨hsound, ?_⟩ ?_
    · intro r hr
      obtain rfl := Option.some.inj hr
      have hrid : row.id = current.id := by rw [hrow, Router.update_id]
      refine ⟨hrid.trans hid, hrid ▸ h.wf.routersSeq current hmem, ?_, fun a ha hne hc => ?_⟩
      · obtain ⟨m, hm⟩ := hfits.macaddr
        rw [hrow]
        simp only [Router.update]
        split
        · exact h.wf.macs current hmem
        · exact canonical_mac hfits rfl
      · exact hok ⟨a, ha, hne, hc⟩
    · intro r hr
      obtain rfl := Option.some.inj hr
      exact apart_of_not_blocked hfree
  | selectedTokens i id row ht =>
    have hsound := h.sound i
    rw [ht] at hsound
    exact h.goOn hsound (by simp [ht, Task.pending])
  | committedReenroll i id row old ht =>
    have hsound := h.sound i
    rw [ht] at hsound
    obtain ⟨hid, hrow⟩ := hsound
    have hids := @commitReenroll_ids D.toBackend s.db (reqs i) id row
      (fun r hr => (hrow r hr).1) old
    refine h.commit (wf_commitReenroll h.wf _ hid hrow old) rfl ?_ ?_ ?_
    · exact fun id' hid' => hids.symm ▸ hid'
    · intro a ha
      cases row with
      | none => exact Or.inl ha
      | some r =>
        refine ((mem_commitReenroll hid (hrow r rfl).1).mp ha).imp And.left fun he => ?_
        rw [ht, he]
        rfl
    · exact fun id' hid' => Or.inl (hids ▸ hid')
  | selectedPeers i ht => exact h.goOn trivial (by simp [Task.pending])
  | blockRead i peers ht => exact h.goOn trivial (by simp [Task.pending])
  | replaced i peers block ht =>
    exact Safe.goOn (s := { s with conf := renderConfig block peers }) (t := .runHelper)
      ⟨h.wf, h.sound, h.apart⟩ trivial (by simp [Task.pending])
  | helperRan i ht =>
    exact Safe.goOn (s := { s with loaded := some s.conf }) (t := .commitAudit)
      ⟨h.wf, h.sound, h.apart⟩ trivial (by simp [Task.pending])
  | audited i ht => exact h.goOn trivial (by simp [Task.pending])

/-- **Every run keeps it**: in particular, Postgres admits every committed state. -/
theorem safe_run {as : List (Act ι)} {s s' : Sys ι} (h : Safe D.toBackend s)
    (hs : Run.exec (step D reqs) s as = some s') : Safe D.toBackend s' :=
  Run.exec_induction (fun h hs => safe_step h hs) h hs

/-! ## One request alone -/

/-- The sync of a request nobody interferes with. -/
theorem exec_sync {s : Sys ι} {i : ι} (h : s.task i = .selectPeers) :
    ∃ s', Run.exec (step D reqs) s (List.replicate 5 (.run i)) = some s' ∧
      s'.task i = .answered ∧ s'.db = s.db ∧
      s'.conf = renderConfig (readInterfaceBlock s.conf) (fetchActivePeers s.db.routers) ∧
      s'.loaded = some s'.conf := by
  refine ⟨_, by simp [List.replicate, Run.exec, step, Sys.run, h]; rfl, ?_⟩
  simp

/-- **A request alone** does what `enrollRow` does and leaves the file a sync writes. -/
theorem run_alone {db db' : Db} (hwf : db.WF D.toBackend) (conf : Text) {i : ι} {e : Enrolled}
    (h : enrollRow D (reqs i) db = (.ok e, db')) :
    ∃ s', Run.exec (step D reqs) (Sys.start db conf) (List.replicate 9 (.run i)) = some s' ∧
      s'.task i = .answered ∧ s'.db = db' ∧
      s'.conf = renderConfig (readInterfaceBlock conf) (fetchActivePeers db'.routers) ∧
      s'.loaded = some s'.conf := by
  suffices hcommit : ∃ s, Run.exec (step D reqs) (Sys.start db conf) (List.replicate 4 (.run i)) =
      some s ∧ s.task i = .selectPeers ∧ s.db = db' ∧ s.conf = conf by
    obtain ⟨s, hs, ht, hdb, hconf⟩ := hcommit
    obtain ⟨s', hs', ht', hdb', hconf', hloaded⟩ := @exec_sync _ _ _ D reqs _ _ ht
    refine ⟨s', ?_, ht', hdb'.trans hdb, ?_, hloaded⟩
    · rw [show 9 = 4 + 5 from rfl, List.replicate_add, Run.exec_append_iff]
      exact ⟨s, hs, hs'⟩
    · rw [hconf', hconf, hdb]
  have heff := enrollRow_effect D (reqs i) db
  rw [h] at heff
  set s₀ : Sys ι := Sys.start db conf with hs₀
  have hdb : s₀.db = db := rfl
  -- The others have not begun, so no write waits.
  have hfree : ∀ (t : Task) (r : Router), ¬ (s₀.setTask i t).Blocked i r := by
    rintro t r ⟨j, hj, hp⟩
    rw [s₀.setTask_of_ne hj] at hp
    exact absurd hp (by simp [hs₀, Sys.start, Task.pending])
  cases heff with
  | inserted ip hnew hip hfits hapart =>
    set row := (newRouter (reqs i).payload ip (reqs i).enrolledAt db.routersSeq).canonical
      D.toBackend with hrow
    have hrej : ¬ db.Rejects row := by
      rintro ⟨a, ha, -, hc⟩
      exact hapart a ha hc
    have hlookup : step D reqs s₀ (.run i) = some (s₀.setTask i .allocate) := by
      simp [step, Sys.run, hs₀, Sys.start, hfits.2.2.1, hnew]
    have hallocate : step D reqs (s₀.setTask i .allocate) (.run i) =
        some (s₀.setTask i (.insert ip)) := by
      simp [step, Sys.run, hs₀, Sys.start, hip]
    have hinsert : step D reqs (s₀.setTask i (.insert ip)) (.run i) =
        some ({ s₀ with db := { db with routersSeq := db.routersSeq + 1 } }.setTask i
          (.commitNew row)) := by
      simp only [step, Sys.run, Sys.setTask_self, Sys.setTask_db, hdb, ← hrow]
      rw [if_neg (not_not.mpr hfits), if_neg (hfree _ _), if_neg hrej]
      simp [Sys.setTask]
    have hcommit : step D reqs ({ s₀ with db := { db with routersSeq := db.routersSeq + 1 } }.setTask
        i (.commitNew row)) (.run i) =
          some ({ s₀ with db := db.inserted D (reqs i) ip, commits := [i] }.setTask i
            .selectPeers) := by
      simp [step, Sys.run, Sys.setTask, hs₀, Sys.start, inserted_eq, hrow]
    refine ⟨{ s₀ with db := db.inserted D (reqs i) ip, commits := [i] }.setTask i .selectPeers, ?_,
      Sys.setTask_self _ _ _, rfl, rfl⟩
    simp only [List.replicate, Run.exec, hlookup, hallocate, hinsert, hcommit, Option.bind_some]
  | reenrolled existing hold hfits hapart =>
    obtain ⟨hex, -⟩ := Db.routerBySerial_some hold
    have hcur := hwf.routerById_eq hex
    have hlookup : step D reqs s₀ (.run i) = some (s₀.setTask i (.flush existing)) := by
      simp [step, Sys.run, hs₀, Sys.start, hfits.2.2.1, hold]
    have hselect (row : Option Router) :
        step D reqs (s₀.setTask i (.selectTokens existing.id row)) (.run i) =
          some (s₀.setTask i (.commitReenroll existing.id row
            ((db.liveTokens existing.id).map RouterToken.id))) := by
      simp [step, Sys.run, hdb]
    have hcommit (row : Option Router) (old : List Nat) :
        step D reqs (s₀.setTask i (.commitReenroll existing.id row old)) (.run i) =
          some ({ s₀ with
            db := db.commitReenroll D.toBackend (reqs i) existing.id row old
            commits := [i] }.setTask i .selectPeers) := by
      simp [step, Sys.run, Sys.setTask, hs₀, Sys.start]
    suffices hflush : ∃ row, step D reqs (s₀.setTask i (.flush existing)) (.run i) =
        some (s₀.setTask i (.selectTokens existing.id row)) ∧
          db.commitReenroll D.toBackend (reqs i) existing.id row
            ((db.liveTokens existing.id).map RouterToken.id) = db.reenrolled D (reqs i) existing by
      obtain ⟨row, hrow, hdb'⟩ := hflush
      refine ⟨{ s₀ with
        db := db.commitReenroll D.toBackend (reqs i) existing.id row
          ((db.liveTokens existing.id).map RouterToken.id)
        commits := [i] }.setTask i .selectPeers, ?_, Sys.setTask_self _ _ _, hdb', rfl⟩
      simp only [List.replicate, Run.exec, hlookup, hrow, hselect, hcommit, Option.bind_some]
    by_cases heq : existing.assign (reqs i).payload (reqs i).enrolledAt = existing
    · -- Nothing changed: no UPDATE, and the one `Db.reenrolled` makes leaves the rows as they are.
      have hupdate : existing.update D.toBackend (reqs i).payload (reqs i).enrolledAt existing =
          existing := by
        rw [Router.update_self (hwf.macs existing hex), heq]
        simp [Router.canonical, hwf.macs existing hex]
      refine ⟨none, by simp [step, Sys.run, heq], ?_⟩
      have hrows : Rows.amend Router.id existing.id (fun _ => existing) db.routers = db.routers := by
        refine (List.map_congr_left fun r hr => ?_).trans (List.map_id _)
        split
        · rename_i hid
          exact hwf.eq_of_id hex hr hid.symm
        · rfl
      rw [reenrolled_eq hwf hex, hupdate]
      simp only [Db.commitReenroll, hrows]
    · refine ⟨some (existing.update D.toBackend (reqs i).payload (reqs i).enrolledAt existing), ?_,
        (reenrolled_eq hwf hex).symm⟩
      have hrej : ¬ db.Rejects
          (existing.update D.toBackend (reqs i).payload (reqs i).enrolledAt existing) := by
        rintro ⟨a, ha, hid, hc⟩
        exact hapart a ha hid hc
      simp only [step, Sys.run, Sys.setTask_self, Sys.setTask_db, hdb, hcur]
      rw [if_neg heq, if_neg (not_not.mpr hfits), if_neg (hfree _ _), if_neg hrej]
      simp

end CpeCloud
