import CpeCloud.Concurrent.Safety

/-!
# Two first enrollments at the same time

`allocate_overlay_ip` reads the addresses in use and takes the lowest free one; nothing holds it
until the new row is committed. A request that allocates while the other one is between its own
SELECT and its commit gets the same address, and the later INSERT raises.

* **`both_enrolled_iff`**: two newcomers with nothing in common both get a 200 and an address of
  their own iff their values can be stored and neither allocates in that window of the other.
-/

namespace CpeCloud

/-- No router has the payload's serial, identity, MAC address or key. -/
def Newcomer (B : Backend) (routers : List Router) (p : AutoEnrollRequest) : Prop :=
  ∀ r ∈ routers, r.serialNumber ≠ p.serial ∧ ¬ p.Collides B r

/-- Two payloads without a common serial, identity, MAC address or key. -/
structure AutoEnrollRequest.Apart (B : Backend) (p q : AutoEnrollRequest) : Prop where
  serial : p.serial ≠ q.serial
  identity : p.identity ≠ q.identity
  mac : ∀ m, B.macaddr p.mac = some m → B.macaddr q.mac ≠ some m
  key : p.routerPublicKey ≠ q.routerPublicKey

/-- The address a request has picked and not yet committed. -/
def Task.address : Task → Option IPv4.Address
  | .insert ip => some ip
  | .commitNew row => row.wgOverlayIp
  | _ => none

/-- In the branch of a known serial, up to its commit. -/
def Task.reenrolling : Task → Bool
  | .flush _ | .selectTokens _ _ | .commitReenroll _ _ _ => true
  | _ => false

/-- The row a first enrollment commits. -/
def IsRow (B : Backend) (c : Submission) (r : Router) : Prop :=
  ∃ ip id, r = (newRouter c.payload ip c.enrolledAt id).canonical B

theorem IsRow.serial {B : Backend} {c : Submission} {r : Router} (h : IsRow B c r) :
    r.serialNumber = c.payload.serial := by
  obtain ⟨ip, id, rfl⟩ := h
  rfl

theorem IsRow.address {B : Backend} {c : Submission} {r : Router} (h : IsRow B c r) :
    ∃ ip, r.wgOverlayIp = some ip := by
  obtain ⟨ip, id, rfl⟩ := h
  exact ⟨ip, rfl⟩

/-- A payload does not collide with the row of one it has nothing in common with. -/
theorem not_collides_of_apart {B : Backend} {c : Submission} {p : AutoEnrollRequest}
    (h : p.Apart B c.payload) (hfits : c.payload.fits B) {r : Router} (hr : IsRow B c r) :
    ¬ p.Collides B r := by
  obtain ⟨ip, id, rfl⟩ := hr
  obtain ⟨m, hm⟩ := hfits.macaddr
  rintro (hc | hc | hc)
  · exact h.identity hc.symm
  · simp only [Router.canonical, newRouter, hm, Option.getD_some] at hc
    exact h.mac m hc hm
  · exact h.key (Option.some.inj hc).symm

variable {D : Deployment} {reqs : Bool → Submission} {routers : List Router}

/-! ## Whatever the interleaving -/

/-- Both requests take the branch of a new serial; the rows added are theirs. -/
structure FirstTimers (D : Deployment) (reqs : Bool → Submission) (routers : List Router)
    (s : Sys Bool) : Prop where
  safe : Safe D.toBackend s
  fresh : ∀ b, (s.task b).reenrolling = false
  written : ∀ b row, s.task b = .commitNew row →
    (reqs b).payload.fits D.toBackend ∧ IsRow D.toBackend (reqs b) row
  enrolled : ∀ b, (s.task b).committed = true →
    (reqs b).payload.fits D.toBackend ∧ ∃ r ∈ s.db.routers, IsRow D.toBackend (reqs b) r
  rows : ∀ r ∈ s.db.routers, r ∈ routers ∨
    ∃ b, (s.task b).committed = true ∧ IsRow D.toBackend (reqs b) r

/-- The payloads of two requests that may go together. -/
structure Unrelated (B : Backend) (reqs : Bool → Submission) (routers : List Router) : Prop where
  new : ∀ b, Newcomer B routers (reqs b).payload
  apart : ∀ b b', b ≠ b' → (reqs b).payload.Apart B (reqs b').payload

/-- A request that has not committed has no row. -/
theorem FirstTimers.serial_ne {s : Sys Bool} (h : FirstTimers D reqs routers s)
    (hu : Unrelated D.toBackend reqs routers) {b : Bool} (hb : (s.task b).committed = false) :
    ∀ r ∈ s.db.routers, r.serialNumber ≠ (reqs b).payload.serial := by
  intro r hr
  rcases h.rows r hr with hr | ⟨b', hb', hrow⟩
  · exact (hu.new b r hr).1
  · have hne : b' ≠ b := by
      rintro rfl
      simp [hb] at hb'
    rw [hrow.serial]
    exact (hu.apart b' b hne).serial

/-- A request that has not committed collides with no row. -/
theorem FirstTimers.not_collides {s : Sys Bool} (h : FirstTimers D reqs routers s)
    (hu : Unrelated D.toBackend reqs routers) {b : Bool} (hb : (s.task b).committed = false) :
    ∀ r ∈ s.db.routers, ¬ (reqs b).payload.Collides D.toBackend r := by
  intro r hr
  rcases h.rows r hr with hr | ⟨b', hb', hrow⟩
  · exact (hu.new b r hr).2
  · have hne : b ≠ b' := by
      rintro rfl
      simp [hb] at hb'
    exact not_collides_of_apart (hu.apart b b' hne) (h.enrolled b' hb').1 hrow

/-- A step that commits nothing. -/
theorem FirstTimers.goOn {s s' : Sys Bool} (h : FirstTimers D reqs routers s)
    (hsafe : Safe D.toBackend s') (hrows : s'.db.routers = s.db.routers) {i : Bool} {t : Task}
    (htask : s'.task = Function.update s.task i t) (hc : t.committed = (s.task i).committed)
    (hr : t.reenrolling = false) (hw : ∀ row, t = .commitNew row →
      (reqs i).payload.fits D.toBackend ∧ IsRow D.toBackend (reqs i) row) :
    FirstTimers D reqs routers s' := by
  have hself : s'.task i = t := by rw [htask, Function.update_self]
  have hother (b : Bool) (hb : b ≠ i) : s'.task b = s.task b := by
    rw [htask, Function.update_of_ne hb]
  have hcommitted (b : Bool) : (s'.task b).committed = (s.task b).committed := by
    by_cases hb : b = i
    · rw [hb, hself, hc]
    · rw [hother b hb]
  refine ⟨hsafe, fun b => ?_, fun b row hrow => ?_, ?_, ?_⟩
  · by_cases hb : b = i
    · rw [hb, hself, hr]
    · rw [hother b hb]
      exact h.fresh b
  · by_cases hb : b = i
    · subst hb
      exact hw row (hself.symm.trans hrow)
    · exact h.written b row ((hother b hb).symm.trans hrow)
  · simp only [hcommitted, hrows]
    exact h.enrolled
  · simp only [hcommitted, hrows]
    exact h.rows

/-- The commit of a new row. -/
theorem FirstTimers.commit {s s' : Sys Bool} (h : FirstTimers D reqs routers s)
    (hsafe : Safe D.toBackend s') {i : Bool} {row : Router} (ht : s.task i = .commitNew row)
    (hrows : s'.db.routers = s.db.routers ++ [row])
    (htask : s'.task = Function.update s.task i .selectPeers) :
    FirstTimers D reqs routers s' := by
  have hself : s'.task i = .selectPeers := by rw [htask, Function.update_self]
  have hother (b : Bool) (hb : b ≠ i) : s'.task b = s.task b := by
    rw [htask, Function.update_of_ne hb]
  obtain ⟨hfits, hrow⟩ := h.written i row ht
  refine ⟨hsafe, fun b => ?_, fun b row' hrow' => ?_, fun b hb => ?_, fun r hr => ?_⟩
  · by_cases hb : b = i
    · rw [hb, hself]
      rfl
    · rw [hother b hb]
      exact h.fresh b
  · by_cases hb : b = i
    · rw [hb, hself] at hrow'
      cases hrow'
    · exact h.written b row' ((hother b hb).symm.trans hrow')
  · rw [hrows]
    by_cases hbi : b = i
    · subst hbi
      exact ⟨hfits, row, by simp, hrow⟩
    · rw [hother b hbi] at hb
      obtain ⟨hfits', r, hr, hr'⟩ := h.enrolled b hb
      exact ⟨hfits', r, by simp [hr], hr'⟩
  · rw [hrows, List.mem_append, List.mem_singleton] at hr
    rcases hr with hr | rfl
    · refine (h.rows r hr).imp id ?_
      rintro ⟨b, hb, hr'⟩
      refine ⟨b, ?_, hr'⟩
      by_cases hbi : b = i
      · rw [hbi, hself]
        rfl
      · rw [hother b hbi, hb]
    · exact Or.inr ⟨i, by rw [hself]; rfl, hrow⟩

/-- **Every move keeps it.** -/
theorem firstTimers_step (hu : Unrelated D.toBackend reqs routers) {s s' : Sys Bool} {i : Bool}
    (h : FirstTimers D reqs routers s) (hs : move D reqs s i = some s') :
    FirstTimers D reqs routers s' := by
  have hsafe := safe_step h.safe hs
  cases step_effect hs with
  | died i seq hseq hd =>
    refine h.goOn (t := .failed) hsafe rfl rfl ?_ rfl (by simp)
    rcases hd with ⟨ht, -⟩ | ⟨ht, -⟩ | ⟨ip, ht, -⟩ | ⟨existing, ht, -⟩ <;> rw [ht] <;> rfl
  | foundNone i ht hq => exact h.goOn (t := .allocate) hsafe rfl rfl (by rw [ht]; rfl) rfl (by simp)
  | found i existing ht hq =>
    obtain ⟨hmem, hserial⟩ := Db.routerBySerial_some hq
    exact absurd hserial (h.serial_ne hu (by rw [ht]; rfl) existing hmem)
  | allocated i ip ht hip =>
    exact h.goOn (t := .insert ip) hsafe rfl rfl (by rw [ht]; rfl) rfl (by simp)
  | inserted i ip row ht hrow hfits hfree hok =>
    refine h.goOn (t := .commitNew row) hsafe rfl rfl (by rw [ht]; rfl) rfl fun row' hrow' => ?_
    obtain rfl := Task.commitNew.inj hrow'
    exact ⟨hfits, ip, s.db.routersSeq, hrow⟩
  | unchanged i existing ht heq => simpa [ht, Task.reenrolling] using h.fresh i
  | updated i existing current row ht => simpa [ht, Task.reenrolling] using h.fresh i
  | selectedTokens i id row ht => simpa [ht, Task.reenrolling] using h.fresh i
  | committedReenroll i id row old ht => simpa [ht, Task.reenrolling] using h.fresh i
  | committedNew i row ht =>
    exact h.commit hsafe ht rfl rfl
  | selectedPeers i ht =>
    exact h.goOn (t := .readBlock _) hsafe rfl rfl (by rw [ht]; rfl) rfl (by simp)
  | blockRead i peers ht =>
    exact h.goOn (t := .replaceConf peers _) hsafe rfl rfl (by rw [ht]; rfl) rfl (by simp)
  | replaced i peers block ht =>
    exact h.goOn (t := .runHelper) hsafe rfl rfl (by rw [ht]; rfl) rfl (by simp)
  | helperRan i ht =>
    exact h.goOn (t := .commitAudit) hsafe rfl rfl (by rw [ht]; rfl) rfl (by simp)
  | audited i ht => exact h.goOn (t := .answered) hsafe rfl rfl (by rw [ht]; rfl) rfl (by simp)

/-! ## The two outcomes -/

/-- The request is not allocating while the other one holds an address. -/
def Uncrossed (s : Sys Bool) (b : Bool) : Prop :=
  s.task b = .allocate → (s.task !b).address = none

instance (s : Sys Bool) (b : Bool) : Decidable (Uncrossed s b) :=
  inferInstanceAs (Decidable (s.task b = .allocate → (s.task !b).address = none))

/-- Nobody has failed, and an address that is held is still the next one. -/
structure Uncontended (D : Deployment) (reqs : Bool → Submission) (routers : List Router)
    (s : Sys Bool) : Prop extends FirstTimers D reqs routers s where
  going : ∀ b, s.task b ≠ .failed
  next : ∀ b ip, (s.task b).address = some ip →
    allocateOverlayIp D.toSettings s.db.routers = .ok ip
  one : ∀ b ip, (s.task b).address = some ip → (s.task !b).address = none

/-- The request holds or has committed the address `ip`. -/
def Takes (c : Submission) (db : Db) (ip : IPv4.Address) (t : Task) : Prop :=
  t.address = some ip ∨ t.committed = true ∧
    ∃ r ∈ db.routers, r.serialNumber = c.payload.serial ∧ r.wgOverlayIp = some ip

/-- Somebody has failed, or both requests took one address. -/
structure Contended (D : Deployment) (reqs : Bool → Submission) (routers : List Router)
    (s : Sys Bool) : Prop extends FirstTimers D reqs routers s where
  lost : (∃ b, s.task b = .failed) ∨ ∃ ip, ∀ b, Takes (reqs b) s.db ip (s.task b)

/-- There is an address for a request that has not committed. -/
theorem FirstTimers.free {s : Sys Bool} (h : FirstTimers D reqs routers s)
    {a a' : IPv4.Address} (haa : a ≠ a') (ha : Free D.toSettings routers a)
    (ha' : Free D.toSettings routers a') {b : Bool} (hb : (s.task b).committed = false) :
    ∃ a, Free D.toSettings s.db.routers a := by
  by_contra hnone
  -- Then both are used, by rows of the other request, which has one row.
  have hused {x : IPv4.Address} (hx : Free D.toSettings routers x) :
      ∃ r ∈ s.db.routers, r.wgOverlayIp = some x ∧
        r.serialNumber = (reqs !b).payload.serial := by
    by_contra hx'
    refine hnone ⟨x, hx.1, hx.2.1, fun r hr hip => ?_⟩
    rcases h.rows r hr with hold | ⟨b', hb', hrow⟩
    · exact hx.2.2 r hold hip
    · have hne : b' = !b := by
        cases b <;> cases b' <;> simp_all
      exact hx' ⟨r, hr, hip, hne ▸ hrow.serial⟩
  obtain ⟨r, hr, hip, hserial⟩ := hused ha
  obtain ⟨r', hr', hip', hserial'⟩ := hused ha'
  obtain rfl := h.safe.wf.eq_of_serial hr hr' (hserial.trans hserial'.symm)
  exact haa (Option.some.inj (hip.symm.trans hip'))

/-- A step that commits nothing. -/
theorem Uncontended.goOn {s s' : Sys Bool} (h : Uncontended D reqs routers s)
    (hbase : FirstTimers D reqs routers s') (hrows : s'.db.routers = s.db.routers) {i : Bool}
    {t : Task} (htask : s'.task = Function.update s.task i t) (hgoing : t ≠ .failed)
    (haddress : ∀ ip, t.address = some ip →
      allocateOverlayIp D.toSettings s.db.routers = .ok ip ∧ (s.task !i).address = none) :
    Uncontended D reqs routers s' := by
  have hself : s'.task i = t := by rw [htask, Function.update_self]
  have hother (b : Bool) (hb : b ≠ i) : s'.task b = s.task b := by
    rw [htask, Function.update_of_ne hb]
  have hnot (b : Bool) (hb : b ≠ i) : (!b) = i := by
    cases b <;> cases i <;> simp_all
  refine ⟨hbase, fun b => ?_, fun b ip hip => ?_, fun b ip hip => ?_⟩
  · by_cases hb : b = i
    · rw [hb, hself]
      exact hgoing
    · rw [hother b hb]
      exact h.going b
  · rw [hrows]
    by_cases hb : b = i
    · rw [hb, hself] at hip
      exact (haddress ip hip).1
    · rw [hother b hb] at hip
      exact h.next b ip hip
  · by_cases hb : b = i
    · rw [hb, hself] at hip
      rw [hb, hother (!i) (by simp)]
      exact (haddress ip hip).2
    · rw [hother b hb] at hip
      rw [hnot b hb, hself]
      by_contra hne
      obtain ⟨ip', hip'⟩ := Option.ne_none_iff_exists'.mp hne
      have hnone := (haddress ip' hip').2
      rw [← hnot b hb, Bool.not_not, hip] at hnone
      cases hnone

/-- A request that does not cross the other one goes on. -/
theorem uncontended_step (hu : Unrelated D.toBackend reqs routers)
    (hfits : ∀ b, (reqs b).payload.fits D.toBackend) {a a' : IPv4.Address} (haa : a ≠ a')
    (ha : Free D.toSettings routers a) (ha' : Free D.toSettings routers a') {s s' : Sys Bool}
    {i : Bool} (h : Uncontended D reqs routers s) (hun : Uncrossed s i)
    (hs : move D reqs s i = some s') : Uncontended D reqs routers s' := by
  have hbase := firstTimers_step hu h.toFirstTimers hs
  cases step_effect hs with
  | died i seq hseq hd =>
    exfalso
    rcases hd with ⟨ht, hd⟩ | ⟨ht, hd⟩ | ⟨ip, ht, hd⟩ | ⟨existing, ht, -⟩
    · exact hd (hfits i).2.2.1
    · exact allocateOverlayIp_error.mp hd (h.free haa ha ha' (by rw [ht]; rfl))
    · obtain ⟨r, hr, -, hclash⟩ := hd.resolve_left (not_not.mpr (hfits i))
      have hc : (s.task i).committed = false := by rw [ht]; rfl
      have hip := (allocateOverlayIp_ok (h.next i ip (by rw [ht]; rfl))).2.2 r hr
      exact h.not_collides hu hc r hr
        ((clash_newRouter_iff (hfits i) (h.serial_ne hu hc r hr) hip).mp hclash)
    · simpa [ht, Task.reenrolling] using h.fresh i
  | foundNone i ht hq =>
    exact h.goOn (t := .allocate) hbase rfl rfl (by simp) (by simp [Task.address])
  | found i existing ht hq =>
    exact h.goOn (t := .flush existing) hbase rfl rfl (by simp) (by simp [Task.address])
  | allocated i ip ht hip =>
    refine h.goOn (t := .insert ip) hbase rfl rfl (by simp) fun ip' hip' => ?_
    obtain rfl := Option.some.inj hip'
    exact ⟨hip, hun ht⟩
  | inserted i ip row ht hrow hfit hfree hok =>
    refine h.goOn (t := .commitNew row) hbase rfl rfl (by simp) fun ip' hip' => ?_
    have hip : (s.task i).address = some ip' := by
      rw [ht, ← hip', hrow]
      rfl
    exact ⟨h.next i ip' hip, h.one i ip' hip⟩
  | unchanged i existing ht heq => simpa [ht, Task.reenrolling] using h.fresh i
  | updated i existing current row ht => simpa [ht, Task.reenrolling] using h.fresh i
  | selectedTokens i id row ht => simpa [ht, Task.reenrolling] using h.fresh i
  | committedReenroll i id row old ht => simpa [ht, Task.reenrolling] using h.fresh i
  | committedNew i row ht =>
    obtain ⟨ip, hip⟩ := (h.written i row ht).2.address
    have hnone := h.one i ip (by rw [ht]; exact hip)
    -- The other one holds no address, and this one does not any more.
    have haddress : ∀ b, (({ s with
        db := s.db.commitNew D.toBackend (reqs i) row
        commits := s.commits ++ [i] }.setTask i .selectPeers).task b).address = none := by
      intro b
      by_cases hb : b = i
      · subst hb
        rw [Sys.setTask_self]
        rfl
      · obtain rfl : b = !i := by cases b <;> cases i <;> simp_all
        rw [Sys.setTask_of_ne _ hb]
        exact hnone
    refine ⟨hbase, fun b => ?_, fun b ip hip => ?_, fun b ip hip => ?_⟩
    · by_cases hb : b = i
      · subst hb
        rw [Sys.setTask_self]
        simp
      · rw [Sys.setTask_of_ne _ hb]
        exact h.going b
    · rw [haddress] at hip
      cases hip
    · exact haddress _
  | selectedPeers i ht =>
    exact h.goOn (t := .readBlock _) hbase rfl rfl (by simp) (by simp [Task.address])
  | blockRead i peers ht =>
    exact h.goOn (t := .replaceConf peers _) hbase rfl rfl (by simp) (by simp [Task.address])
  | replaced i peers block ht =>
    exact h.goOn (t := .runHelper) hbase rfl rfl (by simp) (by simp [Task.address])
  | helperRan i ht =>
    exact h.goOn (t := .commitAudit) hbase rfl rfl (by simp) (by simp [Task.address])
  | audited i ht =>
    exact h.goOn (t := .answered) hbase rfl rfl (by simp) (by simp [Task.address])

/-- A request that allocates while the other one holds an address gets the same one. -/
theorem contended_of_crossed (hu : Unrelated D.toBackend reqs routers) {s s' : Sys Bool} {i : Bool}
    (h : Uncontended D reqs routers s) (hcross : ¬ Uncrossed s i)
    (hs : move D reqs s i = some s') : Contended D reqs routers s' := by
  have hbase := firstTimers_step hu h.toFirstTimers hs
  simp only [Uncrossed, Classical.not_imp] at hcross
  obtain ⟨ht, hother⟩ := hcross
  obtain ⟨ip', hip'⟩ := Option.ne_none_iff_exists'.mp hother
  refine ⟨hbase, ?_⟩
  simp only [move, step, Sys.run, ht, h.next (!i) ip' hip'] at hs
  obtain rfl := Option.some.inj hs
  refine Or.inr ⟨ip', fun b => Or.inl ?_⟩
  by_cases hb : b = i
  · rw [hb, Sys.setTask_self]
    rfl
  · obtain rfl : b = !i := by cases b <;> cases i <;> simp_all
    rw [Sys.setTask_of_ne _ hb]
    exact hip'

theorem Takes.mono {c : Submission} {db db' : Db} {ip : IPv4.Address} {t : Task}
    (h : Takes c db ip t) (hrows : ∀ r ∈ db.routers, r ∈ db'.routers) : Takes c db' ip t :=
  h.imp id fun ⟨hc, r, hr, hs, hip⟩ => ⟨hc, r, hrows r hr, hs, hip⟩

/-- From there, both never succeed. -/
theorem contended_step (hu : Unrelated D.toBackend reqs routers) {s s' : Sys Bool} {i : Bool}
    (h : Contended D reqs routers s) (hs : move D reqs s i = some s') :
    Contended D reqs routers s' := by
  have hbase := firstTimers_step hu h.toFirstTimers hs
  refine ⟨hbase, ?_⟩
  rcases h.lost with ⟨b, hb⟩ | ⟨ip, hip⟩
  · exact Or.inl ⟨b, (step_of_done hs (by rw [hb]; rfl)).trans hb⟩
  suffices hmoved : (s'.task i = .failed ∨ Takes (reqs i) s'.db ip (s'.task i)) ∧
      ∀ r ∈ s.db.routers, r ∈ s'.db.routers by
    obtain ⟨hfail | hself, hrows⟩ := hmoved
    · exact Or.inl ⟨i, hfail⟩
    · refine Or.inr ⟨ip, fun b => ?_⟩
      by_cases hb : b = i
      · rw [hb]
        exact hself
      · rw [step_other hs hb]
        exact (hip b).mono hrows
  have hi := hip i
  have keeps {t : Task} (ht : (s.task i).committed = true) (hc : t.committed = true) :
      Takes (reqs i) s.db ip t := by
    refine Or.inr ⟨hc, ?_⟩
    rcases hi with hi | hi
    · cases hti : s.task i <;> simp_all [Task.address, Task.committed]
    · exact hi.2
  cases step_effect hs with
  | died i seq hseq hd => exact ⟨Or.inl (Sys.setTask_self _ _ _), fun r hr => hr⟩
  | foundNone i ht hq => simp [Takes, ht, Task.address, Task.committed] at hi
  | found i existing ht hq => simp [Takes, ht, Task.address, Task.committed] at hi
  | allocated i ip' ht hip' => simp [Takes, ht, Task.address, Task.committed] at hi
  | inserted i ip' row ht hrow hfits hfree hok =>
    refine ⟨Or.inr (Or.inl ?_), fun r hr => hr⟩
    simp only [Takes, ht, Task.address, Task.committed] at hi
    rw [Sys.setTask_self, hrow]
    exact hi.resolve_right (by simp)
  | unchanged i existing ht heq => simpa [ht, Task.reenrolling] using h.fresh i
  | updated i existing current row ht => simpa [ht, Task.reenrolling] using h.fresh i
  | selectedTokens i id row ht => simpa [ht, Task.reenrolling] using h.fresh i
  | committedReenroll i id row old ht => simpa [ht, Task.reenrolling] using h.fresh i
  | committedNew i row ht =>
    refine ⟨Or.inr (Or.inr ⟨by rw [Sys.setTask_self]; rfl, row, mem_commitNew.mpr (Or.inr rfl),
      (h.written i row ht).2.serial, ?_⟩), fun r hr => mem_commitNew.mpr (Or.inl hr)⟩
    simp only [Takes, ht, Task.address, Task.committed] at hi
    exact hi.resolve_right (by simp)
  | selectedPeers i ht =>
    rw [Sys.setTask_self]
    exact ⟨Or.inr (keeps (by rw [ht]; rfl) rfl), fun r hr => hr⟩
  | blockRead i peers ht =>
    rw [Sys.setTask_self]
    exact ⟨Or.inr (keeps (by rw [ht]; rfl) rfl), fun r hr => hr⟩
  | replaced i peers block ht =>
    rw [Sys.setTask_self]
    exact ⟨Or.inr (keeps (by rw [ht]; rfl) rfl), fun r hr => hr⟩
  | helperRan i ht =>
    rw [Sys.setTask_self]
    exact ⟨Or.inr (keeps (by rw [ht]; rfl) rfl), fun r hr => hr⟩
  | audited i ht =>
    rw [Sys.setTask_self]
    exact ⟨Or.inr (keeps (by rw [ht]; rfl) rfl), fun r hr => hr⟩

/-! ## The result -/

/-- Both requests got their 200, and their routers have an address each. -/
structure BothEnrolled (reqs : Bool → Submission) (s : Sys Bool) : Prop where
  answered : ∀ b, s.task b = .answered
  addresses : ∃ r ∈ s.db.routers, ∃ r' ∈ s.db.routers, ∃ a a',
    r.serialNumber = (reqs false).payload.serial ∧ r'.serialNumber = (reqs true).payload.serial ∧
      r.wgOverlayIp = some a ∧ r'.wgOverlayIp = some a' ∧ a ≠ a'

theorem firstTimers_start {db : Db} (hwf : db.WF D.toBackend) (conf : Text) :
    FirstTimers D reqs db.routers (Sys.start db conf) :=
  ⟨safe_start hwf conf, fun _ => rfl, by simp [Sys.start], by simp [Sys.start, Task.committed],
    fun _ hr => Or.inl hr⟩

/-- Where both are answered, there are two rows with two addresses. -/
theorem FirstTimers.both_enrolled {s : Sys Bool} (h : FirstTimers D reqs routers s)
    (hu : Unrelated D.toBackend reqs routers) (hans : ∀ b, s.task b = .answered) :
    BothEnrolled reqs s := by
  obtain ⟨-, r, hr, hrow⟩ := h.enrolled false (by rw [hans]; rfl)
  obtain ⟨-, r', hr', hrow'⟩ := h.enrolled true (by rw [hans]; rfl)
  obtain ⟨a, ha⟩ := hrow.address
  obtain ⟨a', ha'⟩ := hrow'.address
  refine ⟨hans, r, hr, r', hr', a, a', hrow.serial, hrow'.serial, ha, ha', ?_⟩
  rintro rfl
  refine h.safe.wf.address_ne hr hr' ?_ ha ha'
  rw [hrow.serial, hrow'.serial]
  exact (hu.apart false true (by decide)).serial

/-- **Two newcomers both get their 200 and an address of their own iff their values can be stored
and neither allocates while the other one holds an address.** -/
theorem both_enrolled_iff {db : Db} (hwf : db.WF D.toBackend)
    (hu : Unrelated D.toBackend reqs db.routers) {a a' : IPv4.Address} (haa : a ≠ a')
    (ha : Free D.toSettings db.routers a) (ha' : Free D.toSettings db.routers a') {conf : Text}
    {moves : List Bool} {s : Sys Bool}
    (hs : Run.exec (move D reqs) (Sys.start db conf) moves = some s)
    (hdone : ∀ b, (s.task b).done = true) :
    BothEnrolled reqs s ↔ (∀ b, (reqs b).payload.fits D.toBackend) ∧
      Run.Meets (move D reqs) Uncrossed (Sys.start db conf) moves := by
  have hstart : FirstTimers D reqs db.routers (Sys.start db conf) := firstTimers_start hwf conf
  have hbase : FirstTimers D reqs db.routers s :=
    Run.exec_induction (fun h hs => firstTimers_step hu h hs) hstart hs
  have hdichotomy (hfits : ∀ b, (reqs b).payload.fits D.toBackend) :=
    Run.meets_or (P := Uncontended D reqs db.routers) (Q := Contended D reqs db.routers)
      (C := Uncrossed) (fun h hC hs => uncontended_step hu hfits haa ha ha' h hC hs)
      (fun h hC hs => contended_of_crossed hu h hC hs) (fun h hs => contended_step hu h hs)
      ⟨hstart, by simp [Sys.start], by simp [Sys.start, Task.address],
        by simp [Sys.start, Task.address]⟩ hs
  constructor
  · intro h
    have hfits (b : Bool) : (reqs b).payload.fits D.toBackend :=
      (hbase.enrolled b (by rw [h.answered]; rfl)).1
    refine ⟨hfits, ?_⟩
    rcases hdichotomy hfits with ⟨hmeets, -⟩ | ⟨-, hlost⟩
    · exact hmeets
    exfalso
    rcases hlost.lost with ⟨b, hb⟩ | ⟨ip, hip⟩
    · exact absurd ((h.answered b).symm.trans hb) (by simp)
    · -- Two rows of different routers with one address.
      have hrow (b : Bool) : ∃ r ∈ s.db.routers, r.serialNumber = (reqs b).payload.serial ∧
          r.wgOverlayIp = some ip := by
        have hb := hip b
        simp only [Takes, h.answered b, Task.address, Task.committed, true_and] at hb
        exact hb.resolve_left (by simp)
      obtain ⟨r, hr, hserial, hrip⟩ := hrow false
      obtain ⟨r', hr', hserial', hrip'⟩ := hrow true
      refine hbase.safe.wf.address_ne hr hr' ?_ hrip hrip'
      rw [hserial, hserial']
      exact (hu.apart false true (by decide)).serial
  · rintro ⟨hfits, hmeets⟩
    rcases hdichotomy hfits with ⟨-, hgood⟩ | ⟨hnot, -⟩
    · refine hbase.both_enrolled hu fun b => ?_
      have hb := hdone b
      simp only [Task.done, decide_eq_true_eq] at hb
      exact hb.resolve_right (hgood.going b)
    · exact absurd hmeets hnot

/-! ## Units A and B -/

theorem unrelated_newPair : Unrelated smallDeployment.toBackend newPair [] where
  new := fun _ _ hr => absurd hr List.not_mem_nil
  apart := by
    intro b b' hne
    cases b <;> cases b' <;> first
      | exact absurd rfl hne
      | refine ⟨by decide, by decide, fun m hm hm' => ?_, by decide⟩
        rw [← hm'] at hm
        revert hm
        decide

/-- An address of the small overlay network. -/
theorem free_small (n : Nat) (h : n = 0x0a640002 ∨ n = 0x0a640003) :
    Free smallDeployment.toSettings [] (Fin.ofNat (2 ^ 32) n) := by
  unfold Free
  rcases h with rfl | rfl <;> decide +kernel

/-- Unit B allocates before unit A has committed. -/
def crossedMoves : List Bool :=
  [false, true, false, true, false, false, true, false, false, false, false, false]

/-- Unit B's request ends in an `IntegrityError`. -/
theorem crossed_not_both : ¬ ∀ (D : Deployment) (reqs : Bool → Submission) (db : Db) (conf : Text)
    (moves : List Bool) (s : Sys Bool), db.WF D.toBackend → Unrelated D.toBackend reqs db.routers →
      (∃ a a', a ≠ a' ∧ Free D.toSettings db.routers a ∧ Free D.toSettings db.routers a') →
        Run.exec (move D reqs) (Sys.start db conf) moves = some s →
          (∀ b, (s.task b).done = true) → BothEnrolled reqs s := by
  intro h
  have hrun : (Run.exec (move smallDeployment newPair) (Sys.start smallWorld.db []) crossedMoves).any
      (fun s => s.task false = .answered ∧ s.task true = .failed) = true := by
    decide +kernel
  obtain ⟨s, hs, htasks⟩ := (Option.any_eq_true ..).mp hrun
  simp only [decide_eq_true_eq] at htasks
  have hboth := h smallDeployment newPair smallWorld.db [] crossedMoves s (Db.wf_empty _ _ _ _)
    unrelated_newPair ⟨_, _, by decide, free_small 0x0a640002 (Or.inl rfl),
      free_small 0x0a640003 (Or.inr rfl)⟩ hs fun b => by cases b <;> simp [htasks, Task.done]
  exact absurd ((hboth.answered true).symm.trans htasks.2) (by simp)

/-- One after the other. -/
def orderedMoves : List Bool := List.replicate 9 false ++ List.replicate 9 true

theorem exec_orderedMoves : (Run.exec (move smallDeployment newPair) (Sys.start smallWorld.db [])
    orderedMoves).isSome = true := by
  decide +kernel

theorem both_enrolled_iff_ordered : BothEnrolled newPair
    ((Run.exec (move smallDeployment newPair) (Sys.start smallWorld.db []) orderedMoves).get
      exec_orderedMoves) :=
  (both_enrolled_iff (Db.wf_empty _ _ _ _) unrelated_newPair (by decide)
    (free_small 0x0a640002 (Or.inl rfl)) (free_small 0x0a640003 (Or.inr rfl))
    (Option.some_get exec_orderedMoves).symm (by decide +kernel)).mpr
      ⟨by decide +kernel, by decide +kernel⟩

end CpeCloud
