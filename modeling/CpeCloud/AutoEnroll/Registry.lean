import CpeCloud.AutoEnroll.Rotation
import CpeCloud.Service

/-!
# The registry an enrollment keeps

What the tables are for: a registry of serials. A serial's first request fixes its id, its overlay
address and its status, its last one says what it is and which token speaks for it, and every
token before that is revoked.

* **`enrollment_refines_registry`**: in a run of accepted enrollments and any heartbeats, the tables
  are those of the registry, row by row and token by token; and a request touches its own serial
  only, and there neither the status nor what it does not ask for.
-/

namespace CpeCloud

universe u

variable {π : Type u}

/-! ## The registry -/

/-- What is known of a serial. -/
structure Entry where
  serial : Text
  id : Nat
  overlayIp : IPv4.Address
  first : Submission
  last : Submission
  /-- The tokens minted before the last one. -/
  superseded : List Text

/-- The serials, in the order they came in. -/
structure Registry where
  entries : List Entry
  nextId : Nat

/-- The lowest address nobody holds. -/
def Registry.lowest (S : Settings) (R : Registry) : Option IPv4.Address :=
  S.overlayNetwork.hosts.find? fun a => a ≠ S.wgServerIp ∧ ∀ e ∈ R.entries, e.overlayIp ≠ a

/-- A later request of a serial. -/
def Entry.renew (c : Submission) (e : Entry) : Entry :=
  { e with last := c, superseded := e.superseded ++ [e.last.minted] }

@[simp] theorem Entry.renew_serial (c : Submission) (e : Entry) :
    (e.renew c).serial = e.serial := rfl

/-- The registry takes a request. -/
def Registry.enroll (S : Settings) (R : Registry) (c : Submission) : Registry :=
  if ∃ e ∈ R.entries, e.serial = c.payload.serial then
    { R with entries := Rows.amend Entry.serial c.payload.serial (Entry.renew c) R.entries }
  else
    match R.lowest S with
    | none => R
    | some ip =>
      { entries := R.entries ++ [⟨c.payload.serial, R.nextId, ip, c, c, []⟩]
        nextId := R.nextId + 1 }

/-- The registry behind an event; heartbeats are not for it. -/
def Registry.serve (S : Settings) (R : Registry) : Event π → Registry
  | .enroll c => R.enroll S c.toSubmission
  | .push _ => R

/-! ## Its tables -/

/-- The row of an entry, last seen at `seen`. -/
def Entry.row (B : Backend) (e : Entry) (seen : Option Timestamp) : Router where
  id := e.id
  identity := e.last.payload.identity
  serialNumber := e.serial
  macAddress := (B.macaddr e.last.payload.mac).getD e.last.payload.mac
  model := some e.last.payload.model
  rosVersion := some e.last.payload.rosVersion
  rosMajor := parseRosMajor e.last.payload.rosVersion
  wifiStack := some e.last.payload.wifiStack
  uispClientId := none
  uispServiceId := none
  uispSiteId := none
  linkedAirmaxId := none
  wgPublicKey := some e.last.payload.routerPublicKey
  wgOverlayIp := some e.overlayIp
  enrolledAt := some e.last.enrolledAt
  lastSeenAt := seen
  status := initialStatusFor e.first.payload.identity
  notes := none

/-- The tables are those of the registry. -/
structure Represents (B : Backend) (db : Db) (R : Registry) : Prop where
  rows : List.Forall₂ (fun r e => r = e.row B r.lastSeenAt) db.routers R.entries
  tokens : ∀ e ∈ R.entries, (db.tokensOf e.id).map RouterToken.shape =
    e.superseded.map (tokenShape B true) ++ [tokenShape B false e.last.minted]
  owned : ∀ t ∈ db.routerTokens, ∃ e ∈ R.entries, t.routerId = e.id
  nextId : R.nextId = db.routersSeq

/-- What a request for `serial` leaves alone. -/
structure Frame (serial : Text) (db db' : Db) : Prop where
  /-- The rows of other serials. -/
  rows : ∀ r : Router, r.serialNumber ≠ serial → (r ∈ db'.routers ↔ r ∈ db.routers)
  /-- Their tokens. -/
  tokens : ∀ r ∈ db.routers, r.serialNumber ≠ serial → db'.tokensOf r.id = db.tokensOf r.id
  /-- Of any row, what no request asks for. -/
  kept : ∀ r ∈ db.routers, ∃ r' ∈ db'.routers, r'.id = r.id ∧ r'.serialNumber = r.serialNumber ∧
    r'.status = r.status ∧ r'.notes = r.notes ∧ r'.uispClientId = r.uispClientId ∧
    r'.uispServiceId = r.uispServiceId ∧ r'.uispSiteId = r.uispSiteId ∧
    r'.linkedAirmaxId = r.linkedAirmaxId ∧ r'.wgOverlayIp = r.wgOverlayIp ∧
    r'.lastSeenAt = r.lastSeenAt

/-! ## The frame -/

theorem Frame.refl (serial : Text) {db db' : Db} (hr : db'.routers = db.routers)
    (ht : db'.routerTokens = db.routerTokens) : Frame serial db db' := by
  refine ⟨fun r _ => by rw [hr], fun r _ _ => by rw [Db.tokensOf, ht, Db.tokensOf], fun r hm => ?_⟩
  exact ⟨r, hr ▸ hm, rfl, rfl, rfl, rfl, rfl, rfl, rfl, rfl, rfl, rfl⟩

/-- **A transaction touches its own serial only.** -/
theorem frame_enrollRow {D : Deployment} (c : Submission) {db : Db} (h : db.WF D.toBackend) :
    Frame c.payload.serial db (enrollRow D c db).2 := by
  have heff := enrollRow_effect D c db
  generalize enrollRow D c db = res at heff
  cases heff with
  | failed => exact .refl _ rfl rfl
  | inserted ip hnew =>
    constructor
    · intro r hs
      rw [mem_inserted, or_iff_left]
      rintro rfl
      exact hs rfl
    · intro r hr _
      exact tokensOf_inserted_of_ne (h.routersSeq r hr).ne
    · intro r hr
      exact ⟨r, mem_inserted.mpr (Or.inl hr), rfl, rfl, rfl, rfl, rfl, rfl, rfl, rfl, rfl, rfl⟩
  | reenrolled existing hold =>
    obtain ⟨hex, hserial⟩ := Db.routerBySerial_some hold
    have hne {r : Router} (hr : r ∈ db.routers) (hs : r.serialNumber ≠ c.payload.serial) :
        r.id ≠ existing.id := fun hid => hs (h.eq_of_id hr hex hid ▸ hserial)
    constructor
    · intro r hs
      rw [mem_reenrolled h hex]
      constructor
      · rintro (⟨hr, -⟩ | rfl)
        · exact hr
        · exact absurd hserial hs
      · exact fun hr => Or.inl ⟨hr, hne hr hs⟩
    · exact fun r hr hs => tokensOf_reenrolled_of_ne h (hne hr hs)
    · intro r hr
      by_cases hid : r.id = existing.id
      · obtain rfl := h.eq_of_id hr hex hid
        exact ⟨_, (mem_reenrolled h hex).mpr (Or.inr rfl), rfl, rfl, rfl, rfl, rfl, rfl, rfl, rfl,
          rfl, rfl⟩
      · exact ⟨r, (mem_reenrolled h hex).mpr (Or.inl ⟨hr, hid⟩), rfl, rfl, rfl, rfl, rfl, rfl, rfl,
          rfl, rfl, rfl⟩

/-- A request leaves the other routers and their tokens alone. -/
theorem frame_autoEnroll {D : Deployment} {w : World} (hwf : w.db.WF D.toBackend)
    (c : EnrollCall) : Frame c.payload.serial w.db (autoEnroll D w c).2.db := by
  have hserved := autoEnroll_served hwf c
  generalize autoEnroll D w c = res at hserved
  cases hserved with
  | refused o w' why ho hdb hhost => exact .refl _ hdb.routers hdb.routerTokens
  | committed o w' enrolled db hadm hrow ho hdb hhost =>
    have hframe := frame_enrollRow c.toSubmission hwf
    rw [hrow] at hframe
    have htok (id : Nat) : w'.db.tokensOf id = db.tokensOf id := by
      rw [Db.tokensOf, hdb.routerTokens, Db.tokensOf]
    constructor
    · rw [hdb.routers]
      exact hframe.rows
    · intro r hr hs
      rw [htok]
      exact hframe.tokens r hr hs
    · rw [hdb.routers]
      exact hframe.kept

/-! ## The simulation -/

section Simulation

variable {D : Deployment} {db : Db} {R : Registry}

theorem Represents.known_iff (h : Represents D.toBackend db R) (serial : Text) :
    (∃ e ∈ R.entries, e.serial = serial) ↔ ∃ r ∈ db.routers, r.serialNumber = serial := by
  constructor
  · rintro ⟨e, he, rfl⟩
    obtain ⟨r, hr, hre⟩ := Rows.exists_left_of_forall₂ h.rows he
    exact ⟨r, hr, by rw [hre]; rfl⟩
  · rintro ⟨r, hr, rfl⟩
    obtain ⟨e, he, hre⟩ := Rows.exists_right_of_forall₂ h.rows hr
    exact ⟨e, he, by rw [hre]; rfl⟩

/-- The registry and the allocator pick the same address. -/
theorem Represents.lowest_eq (h : Represents D.toBackend db R) {ip : IPv4.Address}
    (hip : allocateOverlayIp D.toSettings db.routers = .ok ip) :
    R.lowest D.toSettings = some ip := by
  have hused (a : IPv4.Address) : (a ≠ D.wgServerIp ∧ ∀ e ∈ R.entries, e.overlayIp ≠ a) ↔
      a ∉ usedAddresses D.toSettings db.routers := by
    rw [not_mem_usedAddresses]
    refine and_congr_right fun _ => ⟨fun hfree r hr hra => ?_, fun hfree e he hea => ?_⟩
    · obtain ⟨e, he, hre⟩ := Rows.exists_right_of_forall₂ h.rows hr
      rw [hre] at hra
      exact hfree e he (Option.some.inj hra)
    · obtain ⟨r, hr, hre⟩ := Rows.exists_left_of_forall₂ h.rows he
      refine hfree r hr ?_
      rw [hre, ← hea]
      rfl
  unfold allocateOverlayIp at hip
  split at hip
  · rename_i c hc
    obtain rfl := Except.ok.inj hip
    rw [Registry.lowest]
    simp only [hused]
    exact hc
  · simp at hip

/-- A first enrollment. -/
theorem Represents.inserted (h : Represents D.toBackend db R) (hwf : db.WF D.toBackend)
    {c : Submission} {ip : IPv4.Address} (hnew : db.routerBySerial c.payload.serial = none)
    (hip : allocateOverlayIp D.toSettings db.routers = .ok ip) :
    Represents D.toBackend (db.inserted D c ip) (R.enroll D.toSettings c) := by
  have hunknown : ¬ ∃ e ∈ R.entries, e.serial = c.payload.serial := by
    rw [h.known_iff]
    rintro ⟨r, hr, hs⟩
    exact Db.routerBySerial_none.mp hnew r hr hs
  have hR : R.enroll D.toSettings c = ⟨R.entries ++ [⟨c.payload.serial, R.nextId, ip, c, c, []⟩],
      R.nextId + 1⟩ := by
    simp only [Registry.enroll, if_neg hunknown, h.lowest_eq hip]
  rw [hR]
  constructor
  · refine List.rel_append h.rows (.cons ?_ .nil)
    rw [h.nextId]
    rfl
  · intro e he
    rcases List.mem_append.mp he with he | he
    · obtain ⟨r, hr, hre⟩ := Rows.exists_left_of_forall₂ h.rows he
      have hid : e.id = r.id := by rw [hre]; rfl
      have hlt := hwf.routersSeq r hr
      rw [tokensOf_inserted_of_ne (by omega)]
      exact h.tokens e he
    · obtain rfl := List.mem_singleton.mp he
      rw [h.nextId, tokensOf_inserted_self hwf]
      rfl
  · intro t ht
    rcases List.mem_append.mp ht with ht | ht
    · obtain ⟨e, he, hid⟩ := h.owned t ht
      exact ⟨e, List.mem_append_left _ he, hid⟩
    · obtain rfl := List.mem_singleton.mp ht
      exact ⟨_, List.mem_append_right _ List.mem_cons_self, h.nextId.symm⟩
  · exact congrArg (· + 1) h.nextId

/-- A re-enrollment. -/
theorem Represents.reenrolled (h : Represents D.toBackend db R) (hwf : db.WF D.toBackend)
    {c : Submission} {existing : Router}
    (hold : db.routerBySerial c.payload.serial = some existing) :
    Represents D.toBackend (db.reenrolled D c existing) (R.enroll D.toSettings c) := by
  obtain ⟨hex, hserial⟩ := Db.routerBySerial_some hold
  have hR : R.enroll D.toSettings c =
      { R with entries := Rows.amend Entry.serial c.payload.serial (Entry.renew c) R.entries } :=
    if_pos ((h.known_iff _).mpr ⟨existing, hex, hserial⟩)
  -- A row and its entry are amended together.
  have hsame {r : Router} {e : Entry} (hr : r ∈ db.routers) (hre : r = e.row D.toBackend r.lastSeenAt) :
      r.id = existing.id ↔ e.serial = c.payload.serial := by
    have hs : r.serialNumber = e.serial := by rw [hre]; rfl
    rw [← hs, ← hserial]
    exact ⟨fun hid => by rw [hwf.eq_of_id hr hex hid], fun hs => by rw [hwf.eq_of_serial hr hex hs]⟩
  rw [hR]
  constructor
  · refine Rows.forall₂_amend h.rows fun r hr e he hre => ?_
    by_cases hid : r.id = existing.id
    · obtain rfl := hwf.eq_of_id hr hex hid
      rw [if_pos rfl, if_pos ((hsame hr hre).mp rfl), Router.update_self (hwf.macs r hr), hre]
      rfl
    · rw [if_neg hid, if_neg fun hs => hid ((hsame hr hre).mpr hs)]
      exact hre
  · intro e' he'
    obtain ⟨e, he, rfl⟩ := List.mem_map.mp he'
    obtain ⟨r, hr, hre⟩ := Rows.exists_left_of_forall₂ h.rows he
    have hid : e.id = r.id := by rw [hre]; rfl
    have htok := h.tokens e he
    by_cases hs : e.serial = c.payload.serial
    · have hex' : e.id = existing.id := hid.trans ((hsame hr hre).mpr hs)
      rw [if_pos hs]
      show ((db.reenrolled D c existing).tokensOf e.id).map RouterToken.shape = _
      rw [hex'] at htok ⊢
      rw [tokensOf_reenrolled_self, htok]
      simp [Entry.renew, tokenShape, Function.comp_def]
    · rw [if_neg hs]
      have hne : e.id ≠ existing.id := fun he => hs ((hsame hr hre).mp (hid ▸ he))
      rw [tokensOf_reenrolled_of_ne hwf hne]
      exact htok
  · have hwf' : ∀ t ∈ (db.reenrolled D c existing).routerTokens, ∃ e ∈ R.entries,
        t.routerId = e.id := by
      intro t ht
      rcases List.mem_append.mp ht with ht | ht
      · have hm : t.routerId ∈ db.routerTokens.map RouterToken.routerId := by
          rw [← revokeTokens_owners]
          exact List.mem_map_of_mem ht
        obtain ⟨a, ha, hid⟩ := List.mem_map.mp hm
        exact hid ▸ h.owned a ha
      · obtain rfl := List.mem_singleton.mp ht
        obtain ⟨e, he, hre⟩ := Rows.exists_right_of_forall₂ h.rows hex
        exact ⟨e, he, by rw [hre]; rfl⟩
    intro t ht
    obtain ⟨e, he, hid⟩ := hwf' t ht
    by_cases hs : e.serial = c.payload.serial
    · exact ⟨e.renew c, Rows.mem_amend_self he hs, hid⟩
    · have hkey : ∀ e' : Entry, e'.serial = c.payload.serial →
          (e'.renew c).serial = c.payload.serial := fun e' h => (e'.renew_serial c).trans h
      exact ⟨e, (Rows.mem_amend_of_ne hkey hs).mpr he, hid⟩
  · exact h.nextId

/-- A heartbeat. -/
theorem Represents.seenStep (h : Represents D.toBackend db R) {db' : Db} (hs : db.SeenStep db') :
    Represents D.toBackend db' R := by
  cases hs with
  | same => exact h
  | seen router hrouter now =>
    refine ⟨?_, h.tokens, h.owned, h.nextId⟩
    refine List.forall₂_map_left_iff.mpr (h.rows.imp fun r e hre => ?_)
    split
    · rw [hre]
      rfl
    · exact hre

end Simulation

/-- The enrollments of the run are accepted. Whether their syncs go through does not matter here. -/
def Accepted (D : Deployment) (w : World) : Event π → Prop
  | .enroll c => Admissible D w c
  | .push _ => True

theorem represents_serve {D : Deployment} {writeTelemetry : Router → π → Except Text Unit}
    {w w' : World} {R : Registry} {e : Event π} (hwf : w.db.WF D.toBackend)
    (h : Represents D.toBackend w.db R) (hacc : Accepted D w e)
    (hs : CpeCloud.serve D writeTelemetry w e = some w') :
    Represents D.toBackend w'.db (R.serve D.toSettings e) := by
  cases e with
  | push c =>
    obtain rfl := Option.some.inj hs
    exact h.seenStep (pushTelemetry_db D writeTelemetry w c)
  | enroll c =>
    obtain rfl := Option.some.inj hs
    have hserved := autoEnroll_served hwf c
    generalize autoEnroll D w c = res at hserved
    cases hserved with
    | refused o w' why => exact absurd hacc why
    | committed o w' enrolled db hadm hrow ho hdb hhost =>
      have heff := enrollRow_effect D c.toSubmission w.db
      rw [hrow] at heff
      have hdb' : Represents D.toBackend db (R.enroll D.toSettings c.toSubmission) := by
        cases heff with
        | inserted ip hnew hip => exact h.inserted hwf hnew hip
        | reenrolled existing hold => exact h.reenrolled hwf hold
      constructor
      · rw [hdb.routers]
        exact hdb'.rows
      · intro e he
        rw [Db.tokensOf, hdb.routerTokens]
        exact hdb'.tokens e he
      · rw [hdb.routerTokens]
        exact hdb'.owned
      · rw [hdb.routersSeq]
        exact hdb'.nextId

/-- **Sequential enrollment refines the registry.** -/
theorem enrollment_refines_registry {D : Deployment}
    {writeTelemetry : Router → π → Except Text Unit} {w w' : World} {es : List (Event π)}
    (hwf : w.db.WF D.toBackend) (hrouters : w.db.routers = []) (htokens : w.db.routerTokens = [])
    (hacc : Run.Meets (serve D writeTelemetry) (Accepted D) w es)
    (hrun : Run.exec (serve D writeTelemetry) w es = some w') :
    Represents D.toBackend w'.db
        (es.foldl (Registry.serve D.toSettings) ⟨[], w.db.routersSeq⟩) ∧
      ∀ c : EnrollCall, Frame c.payload.serial w'.db (autoEnroll D w' c).2.db := by
  have hstart : Represents D.toBackend w.db ⟨[], w.db.routersSeq⟩ :=
    ⟨by rw [hrouters]; exact .nil, by simp, by simp [htokens], rfl⟩
  have hrep := Run.meets_simulation
    (P := fun w R => w.db.WF D.toBackend ∧ Represents D.toBackend w.db R)
    (fun h hacc hs => ⟨wf_serve h.1 hs, represents_serve h.1 h.2 hacc hs⟩) ⟨hwf, hstart⟩ hacc hrun
  exact ⟨hrep.2, fun c => frame_autoEnroll hrep.1 c⟩

/-- Unit A enrolls twice and sends a heartbeat. -/
def smallEvents : List (Event Unit) :=
  [.enroll (smallCall unitA "tok-A-first-enrollment" 0), .enroll againCall,
    .push (smallPush ⟨"Bearer tok-B-second-enrollment".toList, by decide⟩ 90)]

theorem enrollment_refines_registry_small : ∃ w' : World,
    Represents smallDeployment.toBackend w'.db
        (smallEvents.foldl (Registry.serve smallDeployment.toSettings)
          ⟨[], smallWorld.db.routersSeq⟩) ∧
      ∀ c : EnrollCall, Frame c.payload.serial w'.db (autoEnroll smallDeployment w' c).2.db :=
  ⟨_, @enrollment_refines_registry Unit smallDeployment (fun _ _ => .ok ()) smallWorld _ smallEvents
    (Db.wf_empty _ _ _ _) rfl rfl ⟨admissible_firstCall, fun w hw => by
      obtain rfl := Option.some.inj hw
      exact ⟨admissible_againCall, fun _ _ => ⟨trivial, fun _ _ => trivial⟩⟩⟩ rfl⟩

end CpeCloud
