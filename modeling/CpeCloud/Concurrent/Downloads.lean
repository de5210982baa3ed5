import CpeCloud.Factory.Installer
import CpeCloud.Lib.Run
import Mathlib.Data.Fintype.Card
import Mathlib.Data.Fintype.Prod

/-!
# Installer downloads at the same time (`app/routers/factory.py`)

`factory_installer`, interleaved statement by statement: the rate limit, the token lookup, the
UPDATE of the token's row and the commit. `use_count` is read by the lookup, incremented in the
session and written back as a literal, so of two downloads that cross one is not counted.

* **`downloads_counted_iff`**: `use_count` has grown by the number of 200s iff no download commits
  between another one's lookup and its commit.
* `exec_alone`: run alone, a download does what `factoryInstaller` says.
-/

namespace CpeCloud

open Run (Act Turn)

/-- What a download does next. -/
inductive FetchTask where
  /-- `check_fetch_rate_limit`. -/
  | limit
  /-- `find_valid_admin_token`, and the check of the secret behind it. -/
  | lookup
  /-- The UPDATE of the commit's flush. -/
  | update (loaded : AdminFetchToken)
  /-- The commit. -/
  | commit (row : AdminFetchToken)
  /-- The response is out. -/
  | answered (r : FetchResponse)
  /-- It ended in an exception. -/
  | failed
  deriving DecidableEq

/-- How often a download that is not done has gone on. -/
def FetchTask.turns : FetchTask → Option Nat
  | .limit => some 0
  | .lookup => some 1
  | .update _ => some 2
  | .commit _ => some 3
  | _ => none

/-- The row that is written and not committed. -/
def FetchTask.pending : FetchTask → Option AdminFetchToken
  | .commit row => some row
  | _ => none

/-- Answered with a 200. -/
def FetchTask.served : FetchTask → Bool
  | .answered r => r.statusCode = 200
  | _ => false

/-- Nothing more to do. -/
def FetchTask.done : FetchTask → Bool
  | .answered _ | .failed => true
  | _ => false

/-- The tokens, the rate limiter, and the downloads. -/
structure FetchSys (ι : Type) where
  rows : List AdminFetchToken
  buckets : Buckets
  task : ι → FetchTask

variable {ι : Type} [DecidableEq ι]

/-- Download `i` goes on with `t`. -/
def FetchSys.setTask (s : FetchSys ι) (i : ι) (t : FetchTask) : FetchSys ι :=
  { s with task := Function.update s.task i t }

variable [Fintype ι]

/-- The next statement of download `i`; `none` if it has to wait or is done. -/
def FetchSys.run (D : Deployment) (s : FetchSys ι) (i : ι) (c : FetchCall) : Option (FetchSys ι) :=
  match s.task i with
  | .limit =>
    match checkRateLimit s.buckets "fetch".toList c.sourceIp.1 c.clock with
    | (false, bs) =>
      some ({ s with buckets := bs }.setTask i (.answered (fetchRejection "rate limit exceeded" 429)))
    | (true, bs) => some ({ s with buckets := bs }.setTask i .lookup)
  | .lookup =>
    match findValidAdminToken D.toBackend s.rows c.now c.t with
    | .error _ => some (s.setTask i .failed)
    | .ok none =>
      some (s.setTask i (.answered (fetchRejection "fetch token expired or invalid" 401)))
    | .ok (some row) =>
      if D.provisioningSecretCurrent = [] then
        some (s.setTask i
          (.answered (fetchRejection "server has no active provisioning secret" 500)))
      else some (s.setTask i (.update row))
  | .update loaded =>
    if ∃ j, j ≠ i ∧ (s.task j).pending.any (fun r => r.id = loaded.id) = true then none
    else
      match s.rows.find? fun r => r.id = loaded.id with
      | none => some (s.setTask i .failed)
      | some current => some (s.setTask i (.commit (loaded.used c.usedAt current)))
  | .commit row =>
    some ({ s with rows := Rows.amend AdminFetchToken.id row.id (fun _ => row) s.rows }.setTask i
      (.answered (installer D.toSettings c row)))
  | .answered _ => none
  | .failed => none

/-- One step. A download that is cut off has what it did not commit rolled back. -/
def fetchStep (D : Deployment) (reqs : ι → FetchCall) (s : FetchSys ι) :
    Act ι → Option (FetchSys ι)
  | .run i => s.run D i (reqs i)
  | .fail i => if (s.task i).done then none else some (s.setTask i .failed)

/-- All downloads are in. -/
def FetchSys.start (rows : List AdminFetchToken) (buckets : Buckets) : FetchSys ι :=
  ⟨rows, buckets, fun _ => .limit⟩

/-! ## What a step does -/

/-- What a step can do. -/
inductive FetchEffect (D : Deployment) (reqs : ι → FetchCall) (s : FetchSys ι) :
    Act ι → FetchSys ι → Prop where
  /-- It passes the rate limit. -/
  | admitted (i : ι) (bs : Buckets) (h : s.task i = .limit) :
      FetchEffect D reqs s (.run i) ({ s with buckets := bs }.setTask i .lookup)
  /-- It ends without a 200. -/
  | ended (a : Act ι) (bs : Buckets) (t : FetchTask) (hdone : (s.task a.who).done = false)
      (hrun : ∀ i, a = .run i → (s.task i).pending = none) (ht : t.done = true)
      (hserved : t.served = false) :
      FetchEffect D reqs s a ({ s with buckets := bs }.setTask a.who t)
  | found (i : ι) (row : AdminFetchToken) (h : s.task i = .lookup)
      (hq : findValidAdminToken D.toBackend s.rows (reqs i).now (reqs i).t = .ok (some row)) :
      FetchEffect D reqs s (.run i) (s.setTask i (.update row))
  | updated (i : ι) (loaded current : AdminFetchToken) (h : s.task i = .update loaded)
      (hcur : s.rows.find? (fun r => r.id = loaded.id) = some current) :
      FetchEffect D reqs s (.run i)
        (s.setTask i (.commit (loaded.used (reqs i).usedAt current)))
  | committed (i : ι) (row : AdminFetchToken) (h : s.task i = .commit row) :
      FetchEffect D reqs s (.run i)
        ({ s with rows := Rows.amend AdminFetchToken.id row.id (fun _ => row) s.rows }.setTask i
          (.answered (installer D.toSettings (reqs i) row)))

/-- **What a step can do**, once and for all. -/
theorem fetchStep_effect {D : Deployment} {reqs : ι → FetchCall} {s s' : FetchSys ι} {a : Act ι}
    (hs : fetchStep D reqs s a = some s') : FetchEffect D reqs s a s' := by
  cases a with
  | fail i =>
    simp only [fetchStep] at hs
    split at hs
    · cases hs
    · rename_i h
      obtain rfl := Option.some.inj hs
      exact .ended (.fail i) s.buckets .failed (Bool.not_eq_true _ ▸ h) (by simp) rfl rfl
  | run i =>
    have ended {t : FetchTask} (bs : Buckets) (hdone : (s.task i).done = false)
        (hpending : (s.task i).pending = none) (ht : t.done = true) (hserved : t.served = false) :
        FetchEffect D reqs s (.run i) ({ s with buckets := bs }.setTask i t) :=
      .ended (.run i) bs t hdone (fun j hj => Act.run.inj hj ▸ hpending) ht hserved
    simp only [fetchStep, FetchSys.run] at hs
    cases ht : s.task i with
    | limit =>
      simp only [ht] at hs
      split at hs
      · obtain rfl := Option.some.inj hs
        exact ended _ (by rw [ht]; rfl) (by rw [ht]; rfl) rfl rfl
      · obtain rfl := Option.some.inj hs
        exact .admitted i _ ht
    | lookup =>
      simp only [ht] at hs
      split at hs
      · obtain rfl := Option.some.inj hs
        exact ended s.buckets (by rw [ht]; rfl) (by rw [ht]; rfl) rfl rfl
      · obtain rfl := Option.some.inj hs
        exact ended s.buckets (by rw [ht]; rfl) (by rw [ht]; rfl) rfl rfl
      rename_i row hq
      split at hs
      · obtain rfl := Option.some.inj hs
        exact ended s.buckets (by rw [ht]; rfl) (by rw [ht]; rfl) rfl rfl
      · obtain rfl := Option.some.inj hs
        exact .found i row ht hq
    | update loaded =>
      simp only [ht] at hs
      split at hs
      · cases hs
      split at hs
      · obtain rfl := Option.some.inj hs
        exact ended s.buckets (by rw [ht]; rfl) (by rw [ht]; rfl) rfl rfl
      · rename_i current hcur
        obtain rfl := Option.some.inj hs
        exact .updated i loaded current ht hcur
    | commit row =>
      simp only [ht] at hs
      obtain rfl := Option.some.inj hs
      exact .committed i row ht
    | answered r =>
      simp only [ht] at hs
      cases hs
    | failed =>
      simp only [ht] at hs
      cases hs

theorem setTask_unit (s : FetchSys Unit) (t : FetchTask) :
    s.setTask () t = { s with task := fun _ => t } := by
  unfold FetchSys.setTask
  congr 1

/-- **Run alone**, a download does what `factoryInstaller` says. -/
theorem exec_alone (D : Deployment) (w : World) (c : FetchCall)
    (hids : (w.db.adminFetchTokens.map AdminFetchToken.id).Nodup) :
    ∃ n, Run.exec (fetchStep D fun _ : Unit => c)
      (FetchSys.start w.db.adminFetchTokens w.buckets) (List.replicate n (.run ())) = some {
        rows := (factoryInstaller D w c).2.db.adminFetchTokens
        buckets := (factoryInstaller D w c).2.buckets
        task := fun _ =>
          match (factoryInstaller D w c).1 with
          | .ok r => .answered r
          | .error _ => .failed } := by
  have step {s t u : FetchSys Unit} {n : Nat} (hs : s.run D () c = some t)
      (hrun : Run.exec (fetchStep D fun _ => c) t (List.replicate n (.run ())) = some u) :
      Run.exec (fetchStep D fun _ => c) s (List.replicate (n + 1) (.run ())) = some u :=
    Run.exec_cons_iff.mpr ⟨t, hs, hrun⟩
  unfold factoryInstaller
  cases hlim : checkRateLimit w.buckets "fetch".toList c.sourceIp.1 c.clock with
  | mk admitted bs =>
    cases admitted with
    | false =>
      refine ⟨1, step ?_ (Run.exec_nil _)⟩
      simp only [FetchSys.run, FetchSys.start, hlim, setTask_unit]
    | true =>
      have hlimit : (FetchSys.start w.db.adminFetchTokens w.buckets : FetchSys Unit).run D () c =
          some ⟨w.db.adminFetchTokens, bs, fun _ => .lookup⟩ := by
        simp only [FetchSys.run, FetchSys.start, hlim, setTask_unit]
      simp only
      split
      · rename_i e hfind
        refine ⟨2, step hlimit (step ?_ (Run.exec_nil _))⟩
        simp only [FetchSys.run, hfind, setTask_unit]
      · rename_i hfind
        refine ⟨2, step hlimit (step ?_ (Run.exec_nil _))⟩
        simp only [FetchSys.run, hfind, setTask_unit]
      rename_i row hfind
      split
      · rename_i hsecret
        refine ⟨2, step hlimit (step ?_ (Run.exec_nil _))⟩
        simp only [FetchSys.run, hfind, if_pos hsecret, setTask_unit]
      rename_i hsecret
      have hrow := (findValidAdminToken_some hfind).1
      -- the UPDATE finds the row the lookup found, and its literal is the new version of that row
      have hcur := Rows.find_key hids hrow
      have hamend := Rows.amend_literal (f := row.used c.usedAt) hids hrow
      have hlookup : (⟨w.db.adminFetchTokens, bs, fun _ => .lookup⟩ : FetchSys Unit).run D () c =
          some ⟨w.db.adminFetchTokens, bs, fun _ => .update row⟩ := by
        simp only [FetchSys.run, hfind, if_neg hsecret, setTask_unit]
      have hupdate : (⟨w.db.adminFetchTokens, bs, fun _ => .update row⟩ : FetchSys Unit).run D () c =
          some ⟨w.db.adminFetchTokens, bs, fun _ => .commit (row.used c.usedAt row)⟩ := by
        have hfree : ¬ ∃ j : Unit, j ≠ () ∧ (FetchTask.update row).pending.any (fun r =>
            r.id = row.id) = true := by simp
        simp only [FetchSys.run, if_neg hfree, hcur, setTask_unit]
      refine ⟨4, step hlimit (step hlookup (step hupdate (step ?_ (Run.exec_nil _))))⟩
      simp only [FetchSys.run, setTask_unit]
      rw [← hamend]
      rfl

/-! ## Counting -/

/-- The number of 200s. -/
def FetchSys.served (s : FetchSys ι) : Nat :=
  (Finset.univ.filter fun i => (s.task i).served = true).card

theorem served_setTask_of_not (s : FetchSys ι) {i : ι} {t : FetchTask}
    (hi : (s.task i).served = false) (ht : t.served = false) :
    (s.setTask i t).served = s.served := by
  unfold FetchSys.served
  congr 1
  refine Finset.filter_congr fun j _ => ?_
  by_cases hj : j = i
  · subst hj
    simp [FetchSys.setTask, hi, ht]
  · simp [FetchSys.setTask, Function.update_of_ne hj]

theorem served_setTask (s : FetchSys ι) {i : ι} {t : FetchTask}
    (hi : (s.task i).served = false) (ht : t.served = true) :
    (s.setTask i t).served = s.served + 1 := by
  have hset : (Finset.univ.filter fun j => ((s.setTask i t).task j).served = true) =
      insert i (Finset.univ.filter fun j => (s.task j).served = true) := by
    ext j
    rw [Finset.mem_filter, Finset.mem_insert, Finset.mem_filter]
    by_cases hj : j = i
    · subst hj
      simp [FetchSys.setTask, ht]
    · simp [FetchSys.setTask, hj]
  rw [FetchSys.served, hset, Finset.card_insert_of_notMem (by simp [hi])]
  rfl

/-- The committed `use_count` of a token. -/
def FetchSys.useCount (s : FetchSys ι) (id : Nat) : Option Nat :=
  (s.rows.find? fun r => r.id = id).map AdminFetchToken.useCount

/-! ## The schedule -/

section Schedule

variable {as : List (Act ι)} {a : Act ι} {i : ι}

/-- In step `k`, download `i` looks its token up. -/
abbrev LooksUp (as : List (Act ι)) (i : ι) (k : Nat) : Prop := Turn as i 1 k

/-- In step `k`, download `i` commits. -/
abbrev Commits (as : List (Act ι)) (i : ι) (k : Nat) : Prop := Turn as i 3 k

/-- No download commits between another one's lookup and its commit. -/
def NoneOvertaken (as : List (Act ι)) : Prop :=
  ∀ i j p k q, j ≠ i → LooksUp as i p → p < k → Commits as j k → k < q → ¬ Commits as i q

/-- Another download has committed since the lookup of download `i`. -/
def Overtaken (as : List (Act ι)) (i : ι) : Prop :=
  ∃ j p k, j ≠ i ∧ LooksUp as i p ∧ p < k ∧ Commits as j k

omit [Fintype ι] in
theorem overtaken_append_iff : Overtaken (as ++ [a]) i ↔ Overtaken as i ∨
    ∃ j, j ≠ i ∧ a = .run j ∧ as.count (.run j) = 3 ∧ 1 < as.count (.run i) := by
  constructor
  · rintro ⟨j, p, k, hji, hp, hpk, hk⟩
    rcases Run.turn_append_iff.mp hk with hk | ⟨rfl, ha, hcount⟩
    · exact Or.inl ⟨j, p, k, hji, hp.of_append (hpk.trans hk.lt_length), hpk, hk⟩
    · exact Or.inr ⟨j, hji, ha, hcount, Run.exists_turn_iff.mp ⟨p, hp.of_append hpk⟩⟩
  · rintro (⟨j, p, k, hji, hp, hpk, hk⟩ | ⟨j, hji, ha, hcount, hi⟩)
    · exact ⟨j, p, k, hji, hp.append, hpk, hk.append⟩
    · obtain ⟨p, hp⟩ := Run.exists_turn_iff.mpr hi
      exact ⟨j, p, as.length, hji, hp.append, hp.lt_length,
        Run.turn_append_iff.mpr (Or.inr ⟨rfl, ha, hcount⟩)⟩

omit [Fintype ι] in
/-- A step that is no commit overtakes nobody. -/
theorem overtaken_append_of_ne (h : ∀ j, a = .run j → as.count (.run j) ≠ 3) :
    Overtaken (as ++ [a]) i ↔ Overtaken as i := by
  rw [overtaken_append_iff]
  refine or_iff_left ?_
  rintro ⟨j, -, ha, hcount, -⟩
  exact h j ha hcount

omit [Fintype ι] in
/-- Before its lookup nothing overtakes a download. -/
theorem not_overtaken (h : as.count (.run i) ≤ 1) : ¬ Overtaken as i := by
  rintro ⟨j, p, k, -, hp, -⟩
  exact absurd (Run.exists_turn_iff.mp ⟨p, hp⟩) (Nat.not_lt.mpr h)

omit [Fintype ι] in
/-- The last step is the one at fault when it is the commit of a download that was overtaken. -/
theorem noneOvertaken_append_iff : NoneOvertaken (as ++ [a]) ↔
    NoneOvertaken as ∧ ∀ i, a = .run i → as.count (.run i) = 3 → ¬ Overtaken as i := by
  constructor
  · refine fun h => ⟨fun i j p k q hji hp hpk hk hkq hq =>
      h i j p k q hji hp.append hpk hk.append hkq hq.append, ?_⟩
    rintro i ha hcount ⟨j, p, k, hji, hp, hpk, hk⟩
    exact h i j p k as.length hji hp.append hpk hk.append hk.lt_length
      (Run.turn_append_iff.mpr (Or.inr ⟨rfl, ha, hcount⟩))
  · rintro ⟨h, hlast⟩ i j p k q hji hp hpk hk hkq hq
    rcases Run.turn_append_iff.mp hq with hq | ⟨rfl, ha, hcount⟩
    · have hk' := hk.of_append (hkq.trans hq.lt_length)
      exact h i j p k q hji (hp.of_append (hpk.trans hk'.lt_length)) hpk hk' hkq hq
    · have hk' := hk.of_append hkq
      exact hlast i ha hcount ⟨j, p, k, hji, hp.of_append (hpk.trans hkq), hpk, hk'⟩

set_option synthInstance.maxSize 256 in
instance (as : List (Act ι)) : Decidable (NoneOvertaken as) :=
  decidable_of_iff (∀ i j, ∀ p < as.length, ∀ k < as.length, ∀ q < as.length,
      ¬ (j ≠ i ∧ LooksUp as i p ∧ p < k ∧ Commits as j k ∧ k < q ∧ Commits as i q))
    ⟨fun h i j p k q hji hp hpk hk hkq hq =>
      h i j p hp.lt_length k hk.lt_length q hq.lt_length ⟨hji, hp, hpk, hk, hkq, hq⟩,
      fun h i j p _ k _ q _ ⟨hji, hp, hpk, hk, hkq, hq⟩ => h i j p k q hji hp hpk hk hkq hq⟩

/-- The steps taken say where each download stands. -/
def Tracked (as : List (Act ι)) (task : ι → FetchTask) : Prop :=
  ∀ i, ∀ n ∈ (task i).turns, as.count (.run i) = n

omit [Fintype ι] in
theorem Tracked.append {task : ι → FetchTask} (h : Tracked as task) {t : FetchTask}
    (ht : ∀ n ∈ t.turns, (as ++ [a]).count (.run a.who) = n) :
    Tracked (as ++ [a]) (Function.update task a.who t) := by
  refine (Function.forall_update_iff task fun i t =>
    ∀ n ∈ t.turns, (as ++ [a]).count (.run i) = n).mpr ⟨ht, fun j hj n hn => ?_⟩
  have ha : a ≠ .run j := by
    rintro rfl
    exact hj rfl
  rw [List.count_append, List.count_singleton, h j n hn]
  simp [ha]

omit [Fintype ι] in
/-- A download that goes on has had one more turn. -/
theorem Tracked.run {task : ι → FetchTask} (h : Tracked as task) {n : Nat}
    (hi : (task i).turns = some n) {t : FetchTask} (ht : t.turns = some (n + 1)) :
    Tracked (as ++ [.run i]) (Function.update task i t) := by
  refine h.append fun m hm => ?_
  obtain rfl := Option.some.inj (ht.symm.trans hm)
  rw [Act.who, List.count_append, List.count_singleton_self, h i n hi]

end Schedule

variable {D : Deployment} {reqs : ι → FetchCall}

theorem tracked_step {as : List (Act ι)} {s s' : FetchSys ι} {a : Act ι}
    (h : Tracked as s.task) (hs : fetchStep D reqs s a = some s') :
    Tracked (as ++ [a]) s'.task := by
  have ended {t : FetchTask} (ht : t.done = true) : t.turns = none := by
    cases t <;> first | rfl | cases ht
  cases fetchStep_effect hs with
  | admitted i bs ht => exact h.run (by rw [ht]; rfl) rfl
  | ended a bs t hdone hrun ht =>
    refine h.append fun n hn => ?_
    rw [ended ht] at hn
    cases hn
  | found i row ht => exact h.run (by rw [ht]; rfl) rfl
  | updated i loaded current ht => exact h.run (by rw [ht]; rfl) rfl
  | committed i row ht =>
    refine h.append fun n hn => ?_
    cases hn

/-! ## The invariant -/

/-- What a download has loaded of the token counts at most `m`, what it has written one more. -/
def FetchTask.Within (tok : AdminFetchToken) (m : Nat) : FetchTask → Prop
  | .update r => r.id = tok.id ∧ r.tokenHash = tok.tokenHash ∧ r.useCount ≤ m
  | .commit r => r.id = tok.id ∧ r.tokenHash = tok.tokenHash ∧ r.useCount ≤ m + 1
  | _ => True

theorem FetchTask.Within.mono {tok : AdminFetchToken} {m m' : Nat} (hm : m ≤ m') {t : FetchTask}
    (h : t.Within tok m) : t.Within tok m' := by
  cases t with
  | update r => exact ⟨h.1, h.2.1, h.2.2.trans hm⟩
  | commit r => exact ⟨h.1, h.2.1, h.2.2.trans (Nat.succ_le_succ hm)⟩
  | _ => trivial

/-- Ids and hashes are unique, and all downloads hold of the token counts at most `m`. -/
structure Presented (tok : AdminFetchToken) (m : Nat) (s : FetchSys ι) : Prop where
  rows : Rows.Consistent AdminFetchToken.id (fun a b => a.tokenHash = b.tokenHash) s.rows
  row : ∃ r ∈ s.rows, r.id = tok.id ∧ r.tokenHash = tok.tokenHash ∧ r.useCount ≤ m
  within : ∀ i, (s.task i).Within tok m

variable {tok : AdminFetchToken} {m : Nat}

omit [DecidableEq ι] [Fintype ι] in
/-- The row of an id. -/
theorem Presented.find {s : FetchSys ι} (h : Presented tok m s) {r : AdminFetchToken}
    (hr : r ∈ s.rows) : s.rows.find? (fun a => a.id = r.id) = some r :=
  Rows.find_key h.rows.nodup hr

omit [Fintype ι] in
/-- A step that commits nothing. -/
theorem Presented.goOn {s : FetchSys ι} (h : Presented tok m s) (bs : Buckets) {i : ι}
    {t : FetchTask} (ht : t.Within tok m) :
    Presented tok m ({ s with buckets := bs }.setTask i t) :=
  ⟨h.rows, h.row, (Function.forall_update_iff s.task fun _ t => t.Within tok m).mpr
    ⟨ht, fun j _ => h.within j⟩⟩

omit [Fintype ι] in
/-- The commit of what a download wrote. -/
theorem Presented.commit {s : FetchSys ι} (h : Presented tok m s) {i : ι} {row : AdminFetchToken}
    (ht : s.task i = .commit row) {m' : Nat} (hm : m ≤ m') (hrow : row.useCount ≤ m')
    (r : FetchResponse) : Presented tok m' ({ s with
      rows := Rows.amend AdminFetchToken.id row.id (fun _ => row) s.rows }.setTask i
        (.answered r)) := by
  have hi := h.within i
  rw [ht] at hi
  obtain ⟨cur, hcur, hid, hhash, -⟩ := h.row
  refine ⟨h.rows.amend (fun _ _ => Eq.symm) (fun _ _ => rfl) fun b hb hbk a ha hne => ?_,
    ⟨row, Rows.mem_amend_self hcur (hid.trans hi.1.symm), hi.1, hi.2.1, hrow⟩,
    (Function.forall_update_iff s.task fun _ t => t.Within tok m').mpr
      ⟨trivial, fun j _ => (h.within j).mono hm⟩⟩
  rw [hi.2.1, ← hhash]
  exact h.rows.apart a ha cur hcur (by rw [hid, ← hi.1]; exact hne)

omit [DecidableEq ι] [Fintype ι] in
/-- The row a lookup finds is the token's: it carries its hash. -/
theorem Presented.found {s : FetchSys ι} (h : Presented tok m s) {c : FetchCall}
    (hc : hashToken D.toBackend c.t = tok.tokenHash) {row : AdminFetchToken}
    (hq : findValidAdminToken D.toBackend s.rows c.now c.t = .ok (some row)) :
    row ∈ s.rows ∧ row.id = tok.id ∧ row.tokenHash = tok.tokenHash ∧ row.useCount ≤ m := by
  obtain ⟨hmem, -, -, hhash⟩ := findValidAdminToken_some hq
  obtain ⟨cur, hcur, hid, hhash', hle⟩ := h.row
  have hrow : row = cur := by
    by_contra hne
    have hids : row.id ≠ cur.id :=
      fun hids => hne (List.inj_on_of_nodup_map h.rows.nodup hmem hcur hids)
    exact h.rows.apart row hmem cur hcur hids (hhash.trans (hc.trans hhash'.symm))
  exact hrow ▸ ⟨hcur, hid, hhash', hle⟩

omit [Fintype ι] in
/-- A commit stores the value that was written. -/
theorem Presented.useCount_commit {s : FetchSys ι} (h : Presented tok m s) {i : ι}
    {row : AdminFetchToken} (ht : s.task i = .commit row) (r : FetchResponse) :
    ({ s with rows := Rows.amend AdminFetchToken.id row.id (fun _ => row) s.rows }.setTask i
      (.answered r)).useCount tok.id = some row.useCount := by
  have hi := h.within i
  rw [ht] at hi
  obtain ⟨cur, hcur, hid, -⟩ := h.row
  have hmem : row ∈ Rows.amend AdminFetchToken.id row.id (fun _ => row) s.rows :=
    Rows.mem_amend_self hcur (hid.trans hi.1.symm)
  have hfind := (h.commit ht (Nat.le_add_right m row.useCount) (Nat.le_add_left row.useCount m)
    r).find hmem
  rw [FetchSys.useCount, ← hi.1, hfind]
  rfl

/-- **What a step does to the count**: nothing, or it commits the value it wrote with a 200. -/
theorem presented_step (hreqs : ∀ i, hashToken D.toBackend (reqs i).t = tok.tokenHash)
    {s s' : FetchSys ι} {a : Act ι} (h : Presented tok m s)
    (hs : fetchStep D reqs s a = some s') :
    ((∀ i, a = .run i → (s.task i).pending = none) ∧ Presented tok m s' ∧
      s'.useCount = s.useCount ∧ s'.served = s.served) ∨
    ∃ i row, a = .run i ∧ s.task i = .commit row ∧ s'.served = s.served + 1 ∧
      s'.useCount tok.id = some row.useCount ∧
        ∀ m', m ≤ m' → row.useCount ≤ m' → Presented tok m' s' := by
  have waiting {i : ι} {t : FetchTask} (ht : s.task i = t) (hpending : t.pending = none) :
      ∀ j, Act.run i = .run j → (s.task j).pending = none := by
    intro j hj
    obtain rfl := Act.run.inj hj
    rw [ht, hpending]
  cases fetchStep_effect hs with
  | admitted i bs ht =>
    exact Or.inl ⟨waiting ht rfl, h.goOn bs trivial, rfl,
      served_setTask_of_not { s with buckets := bs } (by rw [ht]; rfl) rfl⟩
  | ended a bs t hdone hrun ht hserved =>
    have hi : (s.task a.who).served = false := by
      cases hta : s.task a.who <;> simp_all [FetchTask.done, FetchTask.served]
    refine Or.inl ⟨hrun, h.goOn bs ?_, rfl,
      served_setTask_of_not { s with buckets := bs } hi hserved⟩
    cases t with
    | update r => cases ht
    | commit r => cases ht
    | _ => trivial
  | found i row ht hq =>
    exact Or.inl ⟨waiting ht rfl, h.goOn s.buckets (h.found (hreqs i) hq).2, rfl,
      served_setTask_of_not s (by rw [ht]; rfl) rfl⟩
  | updated i loaded current ht hcur =>
    have hi := h.within i
    rw [ht] at hi
    refine Or.inl ⟨waiting ht rfl, h.goOn s.buckets ?_, rfl,
      served_setTask_of_not s (by rw [ht]; rfl) rfl⟩
    obtain ⟨cur, hmem, hid, hhash, -⟩ := h.row
    rw [hi.1, ← hid, h.find hmem] at hcur
    obtain rfl := Option.some.inj hcur
    exact ⟨hid, hhash, Nat.succ_le_succ hi.2.2⟩
  | committed i row ht =>
    refine Or.inr ⟨i, row, rfl, ht, ?_, h.useCount_commit ht _, fun m' hm hrow =>
      h.commit ht hm hrow (installer D.toSettings (reqs i) row)⟩
    exact served_setTask { s with
      rows := Rows.amend AdminFetchToken.id row.id (fun _ => row) s.rows } (by rw [ht]; rfl) rfl

/-! ## What a download has loaded -/

/-- What a download has loaded counts `n`, and what it has written one more, unless it was
overtaken. -/
def FetchTask.Loaded (n : Nat) (overtaken : Prop) : FetchTask → Prop
  | .update r => r.useCount = n ↔ ¬ overtaken
  | .commit r => r.useCount = n + 1 ↔ ¬ overtaken
  | _ => True

theorem FetchTask.loaded_of_done {n : Nat} {overtaken : Prop} {t : FetchTask}
    (h : t.done = true) : t.Loaded n overtaken := by
  cases t with
  | update r => cases h
  | commit r => cases h
  | _ => trivial

/-- Every 200 has been counted, and who was not overtaken has loaded that count. -/
structure AllCounted (tok : AdminFetchToken) (as : List (Act ι)) (s : FetchSys ι) : Prop where
  presented : Presented tok (tok.useCount + s.served) s
  count : s.useCount tok.id = some (tok.useCount + s.served)
  loaded : ∀ i, (s.task i).Loaded (tok.useCount + s.served) (Overtaken as i)

/-- A 200 is missing, and none of what is held makes up for it. -/
def Miscounted (tok : AdminFetchToken) (s : FetchSys ι) : Prop :=
  ∃ m, m < tok.useCount + s.served ∧ Presented tok m s

/-- The token's row, as it is committed. -/
theorem AllCounted.useCount_eq {as : List (Act ι)} {s : FetchSys ι} (h : AllCounted tok as s)
    {row : AdminFetchToken} (hrow : row ∈ s.rows) (hid : row.id = tok.id) :
    row.useCount = tok.useCount + s.served := by
  have hcount := h.count
  rw [FetchSys.useCount, ← hid, h.presented.find hrow] at hcount
  exact Option.some.inj hcount

/-- A step behind which the count is the same: of what is loaded, it changes one download's. -/
theorem AllCounted.loaded_update {as : List (Act ι)} {s : FetchSys ι} (h : AllCounted tok as s)
    {a : Act ι} (ha : ∀ j, a = .run j → as.count (.run j) ≠ 3) {i : ι} {t : FetchTask}
    (ht : t.Loaded (tok.useCount + s.served) (Overtaken as i)) (j : ι) :
    (Function.update s.task i t j).Loaded (tok.useCount + s.served) (Overtaken (as ++ [a]) j) := by
  rw [propext (overtaken_append_of_ne ha)]
  exact (Function.forall_update_iff s.task fun j t =>
    t.Loaded (tok.useCount + s.served) (Overtaken as j)).mpr ⟨ht, fun j _ => h.loaded j⟩ j

/-- A step that commits nothing. -/
theorem loaded_step (hreqs : ∀ i, hashToken D.toBackend (reqs i).t = tok.tokenHash)
    {as : List (Act ι)} {s s' : FetchSys ι} {a : Act ι} (h : AllCounted tok as s)
    (ha : ∀ j, a = .run j → as.count (.run j) ≠ 3)
    (hpending : ∀ i, a = .run i → (s.task i).pending = none) (htrack : Tracked as s.task)
    (hs : fetchStep D reqs s a = some s') (i : ι) :
    (s'.task i).Loaded (tok.useCount + s.served) (Overtaken (as ++ [a]) i) := by
  cases fetchStep_effect hs with
  | admitted j bs ht => exact h.loaded_update ha (t := .lookup) trivial i
  | ended a bs t hdone hrun ht => exact h.loaded_update ha (FetchTask.loaded_of_done ht) i
  | found j row ht hq =>
    obtain ⟨hmem, hid, -⟩ := h.presented.found (hreqs j) hq
    have hcount : as.count (.run j) = 1 := htrack j 1 (by rw [ht]; rfl)
    have hloaded : (FetchTask.update row).Loaded (tok.useCount + s.served) (Overtaken as j) :=
      iff_of_true (h.useCount_eq hmem hid) (not_overtaken hcount.le)
    exact h.loaded_update ha hloaded i
  | updated j loaded current ht =>
    have hj := h.loaded j
    rw [ht] at hj
    have hloaded : (FetchTask.commit (loaded.used (reqs j).usedAt current)).Loaded
        (tok.useCount + s.served) (Overtaken as j) := Nat.succ_inj.trans hj
    exact h.loaded_update ha hloaded i
  | committed j row ht =>
    have hnone := hpending j rfl
    rw [ht] at hnone
    cases hnone

/-- Behind a commit, what the others have loaded is out of date, and they were overtaken. -/
theorem loaded_commit {as : List (Act ι)} {s s' : FetchSys ι} {i : ι} {row : AdminFetchToken}
    (h : AllCounted tok as s) (htrack : Tracked as s.task) (ht : s.task i = .commit row)
    (hs : fetchStep D reqs s (.run i) = some s') (j : ι) :
    (s'.task j).Loaded (tok.useCount + s.served + 1) (Overtaken (as ++ [.run i]) j) := by
  have hcount : as.count (.run i) = 3 := htrack i 3 (by rw [ht]; rfl)
  simp only [fetchStep, FetchSys.run, ht] at hs
  obtain rfl := Option.some.inj hs
  by_cases hji : j = i
  · subst hji
    simp [FetchSys.setTask, FetchTask.Loaded]
  simp only [FetchSys.setTask, Function.update_of_ne hji]
  have overtaken (hj : 1 < as.count (.run j)) : Overtaken (as ++ [.run i]) j :=
    overtaken_append_iff.mpr (Or.inr ⟨i, Ne.symm hji, rfl, hcount, hj⟩)
  have hwithin := h.presented.within j
  cases hj : s.task j with
  | update r =>
    rw [hj] at hwithin
    have htwo := htrack j 2 (by rw [hj]; rfl)
    have hle := hwithin.2.2
    exact iff_of_false (by omega) (not_not.mpr (overtaken (by omega)))
  | commit r =>
    rw [hj] at hwithin
    have hthree := htrack j 3 (by rw [hj]; rfl)
    have hle := hwithin.2.2
    exact iff_of_false (by omega) (not_not.mpr (overtaken (by omega)))
  | _ => trivial

/-! ## The result -/

omit [Fintype ι] in
/-- The fourth turn of a download is its commit. -/
theorem Tracked.commits [Fintype ι] {as : List (Act ι)} {s s' : FetchSys ι} {i : ι}
    (h : Tracked as s.task) (hcount : as.count (.run i) = 3)
    (hs : fetchStep D reqs s (.run i) = some s') : ∃ row, s.task i = .commit row := by
  have hturns {n : Nat} (hn : (s.task i).turns = some n) : n = 3 := (h i n hn).symm.trans hcount
  cases ht : s.task i with
  | commit row => exact ⟨row, rfl⟩
  | limit => exact absurd (hturns (by rw [ht]; rfl)) (by decide)
  | lookup => exact absurd (hturns (by rw [ht]; rfl)) (by decide)
  | update r => exact absurd (hturns (by rw [ht]; rfl)) (by decide)
  | answered r => simp [fetchStep, FetchSys.run, ht] at hs
  | failed => simp [fetchStep, FetchSys.run, ht] at hs

/-- A step that is not the commit of a download that was overtaken. -/
theorem allCounted_step (hreqs : ∀ i, hashToken D.toBackend (reqs i).t = tok.tokenHash)
    {as : List (Act ι)} {s s' : FetchSys ι} {a : Act ι} (h : AllCounted tok as s)
    (htrack : Tracked as s.task)
    (hfresh : ∀ i, a = .run i → as.count (.run i) = 3 → ¬ Overtaken as i)
    (hs : fetchStep D reqs s a = some s') : AllCounted tok (as ++ [a]) s' := by
  rcases presented_step hreqs h.presented hs with
    ⟨hpending, hp, hc, hserved⟩ | ⟨i, row, rfl, ht, hserved, hc, hp⟩
  · refine ⟨hserved ▸ hp, by rw [hc, hserved]; exact h.count, ?_⟩
    rw [hserved]
    refine loaded_step hreqs h (fun j hj hcount => ?_) hpending htrack hs
    subst hj
    obtain ⟨row, ht⟩ := htrack.commits hcount hs
    have hnone := hpending j rfl
    rw [ht] at hnone
    cases hnone
  · have hcount : as.count (.run i) = 3 := htrack i 3 (by rw [ht]; rfl)
    have hi := h.loaded i
    rw [ht] at hi
    have hrow : row.useCount = tok.useCount + s.served + 1 := hi.mpr (hfresh i rfl hcount)
    refine ⟨hp _ (by omega) (by omega), ?_, ?_⟩
    · rw [hc, hrow, hserved, Nat.add_assoc]
    · rw [hserved, ← Nat.add_assoc]
      exact loaded_commit h htrack ht hs

/-- The commit of a download that was overtaken. -/
theorem miscounted_of_overtaken (hreqs : ∀ i, hashToken D.toBackend (reqs i).t = tok.tokenHash)
    {as : List (Act ι)} {s s' : FetchSys ι} {i : ι} (h : AllCounted tok as s)
    (htrack : Tracked as s.task) (hcount : as.count (.run i) = 3) (hover : Overtaken as i)
    (hs : fetchStep D reqs s (.run i) = some s') : Miscounted tok s' := by
  obtain ⟨row, ht⟩ := htrack.commits hcount hs
  rcases presented_step hreqs h.presented hs with
    ⟨hpending, -⟩ | ⟨j, row', hj, ht', hserved, -, hp⟩
  · have hnone := hpending i rfl
    rw [ht] at hnone
    cases hnone
  · obtain rfl := Act.run.inj hj
    obtain rfl := FetchTask.commit.inj (ht.symm.trans ht')
    have hloaded := h.loaded i
    have hwithin := h.presented.within i
    rw [ht] at hloaded hwithin
    have hne : row.useCount ≠ tok.useCount + s.served + 1 := fun heq => hloaded.mp heq hover
    have hle := hwithin.2.2
    exact ⟨tok.useCount + s.served, by omega, hp _ le_rfl (by omega)⟩

/-- A 200 that is missing stays missing. -/
theorem miscounted_step (hreqs : ∀ i, hashToken D.toBackend (reqs i).t = tok.tokenHash)
    {s s' : FetchSys ι} {a : Act ι} (h : Miscounted tok s)
    (hs : fetchStep D reqs s a = some s') : Miscounted tok s' := by
  obtain ⟨m, hm, h⟩ := h
  rcases presented_step hreqs h hs with ⟨-, hp, -, hserved⟩ | ⟨i, row, rfl, ht, hserved, -, hp⟩
  · exact ⟨m, by omega, hp⟩
  · have hi := h.within i
    rw [ht] at hi
    exact ⟨m + 1, by omega, hp _ (Nat.le_succ m) hi.2.2⟩

omit [DecidableEq ι] in
theorem Miscounted.useCount_ne {s : FetchSys ι} (h : Miscounted tok s) :
    s.useCount tok.id ≠ some (tok.useCount + s.served) := by
  obtain ⟨m, hm, h⟩ := h
  obtain ⟨r, hr, hid, -, hle⟩ := h.row
  intro hcount
  rw [FetchSys.useCount, ← hid, h.find hr, Option.map_some] at hcount
  have := Option.some.inj hcount
  omega

theorem allCounted_start {rows : List AdminFetchToken}
    (hrows : Rows.Consistent AdminFetchToken.id (fun a b => a.tokenHash = b.tokenHash) rows)
    (htok : tok ∈ rows) (buckets : Buckets) :
    AllCounted tok [] (FetchSys.start rows buckets : FetchSys ι) := by
  have hnone : (FetchSys.start rows buckets : FetchSys ι).served = 0 := by
    simp [FetchSys.served, FetchSys.start, FetchTask.served]
  have h : Presented tok tok.useCount (FetchSys.start rows buckets : FetchSys ι) :=
    ⟨hrows, ⟨tok, htok, rfl, rfl, le_rfl⟩, fun _ => trivial⟩
  refine ⟨by rw [hnone]; exact h, ?_, fun _ => trivial⟩
  rw [FetchSys.useCount, h.find htok, hnone]
  rfl

/-- **`use_count` has grown by the number of 200s iff no download commits between another one's
lookup and its commit.** -/
theorem downloads_counted_iff {rows : List AdminFetchToken}
    (hrows : Rows.Consistent AdminFetchToken.id (fun a b => a.tokenHash = b.tokenHash) rows)
    (htok : tok ∈ rows) (hreqs : ∀ i, hashToken D.toBackend (reqs i).t = tok.tokenHash)
    {buckets : Buckets} {as : List (Act ι)} {s : FetchSys ι}
    (hs : Run.exec (fetchStep D reqs) (FetchSys.start rows buckets) as = some s) :
    s.useCount tok.id = some (tok.useCount + s.served) ↔ NoneOvertaken as := by
  have hrun : Tracked as s.task ∧
      ((NoneOvertaken as ∧ AllCounted tok as s) ∨ (¬ NoneOvertaken as ∧ Miscounted tok s)) := by
    refine Run.exec_history (P := fun as s => Tracked as s.task ∧
      ((NoneOvertaken as ∧ AllCounted tok as s) ∨ (¬ NoneOvertaken as ∧ Miscounted tok s)))
      ?_ (l := []) ⟨?_, Or.inl ⟨?_, allCounted_start hrows htok buckets⟩⟩ hs
    · rintro bs t a t' ⟨htrack, hor⟩ ht
      refine ⟨tracked_step htrack ht, ?_⟩
      rw [noneOvertaken_append_iff]
      rcases hor with ⟨hnone, h⟩ | ⟨hover, h⟩
      · by_cases hfresh : ∀ i, a = .run i → bs.count (.run i) = 3 → ¬ Overtaken bs i
        · exact Or.inl ⟨⟨hnone, hfresh⟩, allCounted_step hreqs h htrack hfresh ht⟩
        · refine Or.inr ⟨fun hboth => hfresh hboth.2, ?_⟩
          push Not at hfresh
          obtain ⟨i, rfl, hcount, hover⟩ := hfresh
          exact miscounted_of_overtaken hreqs h htrack hcount hover ht
      · exact Or.inr ⟨fun hboth => hover hboth.1, miscounted_step hreqs h ht⟩
    · intro i n hn
      obtain rfl := Option.some.inj hn
      rfl
    · intro i j p k q hji hp
      exact absurd hp.lt_length (Nat.not_lt_zero p)
  rcases hrun.2 with ⟨hnone, h⟩ | ⟨hover, h⟩
  · exact iff_of_true h.count hnone
  · exact iff_of_false h.useCount_ne hover

/-! ## Two downloads -/

/-- A token minted for an hour. -/
def benchToken : AdminFetchToken where
  id := 1
  label := "test-bench".toList
  tokenHash := hashToken smallDeployment.toBackend "tok-A-first-enrollment".toList
  tokenPrefix := prefixOf "tok-A-first-enrollment".toList
  issuedBy := some "pytest".toList
  expiresAt := 3600000000
  revokedAt := none
  useCount := 0
  lastUsedAt := none
  createdAt := 0

/-- Two routers of a shelf batch. -/
def batch (second : Bool) : FetchCall where
  sourceIp := ⟨"192.0.2.7".toList, storable_smallIp⟩
  t := "tok-A-first-enrollment".toList
  t_len := by decide
  clock := if second then 1 else 0
  now := if second then 1000000 else 0
  usedAt := if second then 1000000 else 0
  generatedAt := if second then 1000000 else 0

theorem consistent_benchToken : Rows.Consistent AdminFetchToken.id
    (fun a b => a.tokenHash = b.tokenHash) [benchToken] :=
  ⟨List.nodup_singleton _, fun a ha b hb hne => by
    rw [List.mem_singleton] at ha hb
    exact absurd (by rw [ha, hb]) hne⟩

/-- Both look the token up before the first one commits. -/
def crossedDownloads : List (Act Bool) :=
  List.replicate 2 (.run false) ++ List.replicate 2 (.run true) ++
    List.replicate 2 (.run false) ++ List.replicate 2 (.run true)

/-- Two 200s, counted once. -/
theorem crossed_not_counted : ¬ ∀ (D : Deployment) (reqs : Bool → FetchCall)
    (rows : List AdminFetchToken) (tok : AdminFetchToken) (buckets : Buckets)
    (as : List (Act Bool)) (s : FetchSys Bool),
      Rows.Consistent AdminFetchToken.id (fun a b => a.tokenHash = b.tokenHash) rows → tok ∈ rows →
        (∀ i, hashToken D.toBackend (reqs i).t = tok.tokenHash) →
          Run.exec (fetchStep D reqs) (FetchSys.start rows buckets) as = some s →
            s.useCount tok.id = some (tok.useCount + s.served) := by
  intro h
  have hrun : (Run.exec (fetchStep smallDeployment batch)
      (FetchSys.start [benchToken] fun _ => none) crossedDownloads).any
        (fun s => s.served = 2 ∧ s.useCount 1 = some 1) = true := by
    decide +kernel
  obtain ⟨s, hs, hend⟩ := (Option.any_eq_true ..).mp hrun
  simp only [decide_eq_true_eq] at hend
  have hcount := h smallDeployment batch [benchToken] benchToken (fun _ => none) crossedDownloads s
    consistent_benchToken (List.mem_singleton.mpr rfl) (fun _ => rfl) hs
  rw [show benchToken.id = 1 from rfl, hend.2, hend.1] at hcount
  exact absurd hcount (by decide)

/-- One after the other. -/
def orderedDownloads : List (Act Bool) :=
  List.replicate 4 (.run false) ++ List.replicate 4 (.run true)

theorem exec_orderedDownloads : (Run.exec (fetchStep smallDeployment batch)
    (FetchSys.start [benchToken] fun _ => none) orderedDownloads).isSome = true := by
  decide +kernel

theorem downloads_counted_iff_ordered :
    ((Run.exec (fetchStep smallDeployment batch) (FetchSys.start [benchToken] fun _ => none)
      orderedDownloads).get exec_orderedDownloads).useCount benchToken.id =
        some (benchToken.useCount + ((Run.exec (fetchStep smallDeployment batch)
          (FetchSys.start [benchToken] fun _ => none) orderedDownloads).get
            exec_orderedDownloads).served) :=
  (downloads_counted_iff consistent_benchToken (List.mem_singleton.mpr rfl) (fun _ => rfl)
    (Option.some_get exec_orderedDownloads).symm).mpr (by decide +kernel)

end CpeCloud
