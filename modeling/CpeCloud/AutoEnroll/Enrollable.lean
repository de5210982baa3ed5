import CpeCloud.AutoEnroll.Transaction

/-!
# When an enrollment commits

`Enrollable` says it of the payload and the tables, without running anything: the values can be
stored, no router of another serial has one of those that must be unique, and there is an address.

* **`enrollRow_ok_iff`**: the transaction commits iff the payload is enrollable.
* **`wf_enrollRow`**: it keeps what Postgres enforces.
-/

namespace CpeCloud

/-- The payload shares a unique value with `r`. -/
def AutoEnrollRequest.Collides (B : Backend) (p : AutoEnrollRequest) (r : Router) : Prop :=
  r.identity = p.identity ∨ B.macaddr p.mac = some r.macAddress ∨
    r.wgPublicKey = some p.routerPublicKey

instance (B : Backend) (p : AutoEnrollRequest) (r : Router) : Decidable (p.Collides B r) := by
  unfold AutoEnrollRequest.Collides
  infer_instance

/-- The payload can be enrolled: its values can be stored, no router of another serial has one of
them that must be unique, and there is an address for it. -/
structure Enrollable (D : Deployment) (routers : List Router) (p : AutoEnrollRequest) : Prop where
  fits : p.fits D.toBackend
  apart : ∀ r ∈ routers, r.serialNumber ≠ p.serial → ¬ p.Collides D.toBackend r
  address : (∃ r ∈ routers, r.serialNumber = p.serial) ∨ ∃ a, Free D.toSettings routers a

theorem AutoEnrollRequest.fits.macaddr {B : Backend} {p : AutoEnrollRequest} (h : p.fits B) :
    ∃ m, B.macaddr p.mac = some m :=
  Option.isSome_iff_exists.mp h.1

/-- A new row clashes with a row of another serial iff the payload collides with it, unless they
share an address. -/
theorem clash_newRouter_iff {B : Backend} {p : AutoEnrollRequest} (h : p.fits B)
    {ip : IPv4.Address} {now : Timestamp} {id : Nat} {r : Router} (hs : r.serialNumber ≠ p.serial)
    (hip : r.wgOverlayIp ≠ some ip) :
    r.clash ((newRouter p ip now id).canonical B) ↔ p.Collides B r := by
  obtain ⟨m, hm⟩ := h.macaddr
  simp only [Router.clash, Router.canonical, newRouter, AutoEnrollRequest.Collides, hm,
    Option.getD_some, Option.some.injEq, hs, hip, and_false, or_false, false_or]
  constructor
  · rintro (h | h | ⟨-, h⟩)
    · exact Or.inl h
    · exact Or.inr (Or.inl h.symm)
    · exact Or.inr (Or.inr h)
  · rintro (h | h | h)
    · exact Or.inl h
    · exact Or.inr (Or.inl h.symm)
    · exact Or.inr (Or.inr ⟨by simp [h], h⟩)

/-- A row collides with the new version of another one where the payload does, since that version
keeps its serial and its address. -/
theorem clash_assign_iff {B : Backend} {p : AutoEnrollRequest} (h : p.fits B) {now : Timestamp}
    {existing r : Router} (hclash : ¬ r.clash existing) :
    r.clash ((existing.assign p now).canonical B) ↔ p.Collides B r := by
  obtain ⟨m, hm⟩ := h.macaddr
  simp only [Router.clash, not_or] at hclash
  obtain ⟨-, hs, -, -, hip⟩ := hclash
  simp only [Router.clash, Router.canonical, Router.assign, AutoEnrollRequest.Collides, hm,
    Option.getD_some, Option.some.injEq, hs, hip, or_false, false_or]
  constructor
  · rintro (h | h | ⟨-, h⟩)
    · exact Or.inl h
    · exact Or.inr (Or.inl h.symm)
    · exact Or.inr (Or.inr h)
  · rintro (h | h | h)
    · exact Or.inl h
    · exact Or.inr (Or.inl h.symm)
    · exact Or.inr (Or.inr ⟨by simp [h], h⟩)

/-- **The transaction commits iff the payload is enrollable.** -/
theorem enrollRow_ok_iff {D : Deployment} {c : Submission} {db : Db} (hwf : db.WF D.toBackend) :
    (∃ e, (enrollRow D c db).1 = .ok e) ↔ Enrollable D db.routers c.payload := by
  constructor
  · rintro ⟨e, he⟩
    have heff := enrollRow_effect D c db
    revert he
    generalize enrollRow D c db = res at heff
    intro he
    cases heff with
    | failed => simp at he
    | inserted ip hnew hip hfits hapart =>
      have hfree := allocateOverlayIp_ok hip
      refine ⟨hfits, fun r hr hs => ?_, Or.inr ⟨ip, hfree⟩⟩
      rw [← clash_newRouter_iff hfits hs (hfree.2.2 r hr)]
      exact hapart r hr
    | reenrolled existing hold hfits hapart =>
      obtain ⟨hex, hserial⟩ := Db.routerBySerial_some hold
      refine ⟨hfits, fun r hr hs => ?_, Or.inl ⟨existing, hex, hserial⟩⟩
      have hid : r.id ≠ existing.id := fun h => hs (hwf.eq_of_id hr hex h ▸ hserial)
      rw [← clash_assign_iff hfits (hwf.routers.apart r hr existing hex hid),
        ← Router.update_self (hwf.macs existing hex)]
      exact hapart r hr hid
  · intro h
    have hstore : storable c.payload.serial := h.fits.2.2.1
    unfold enrollRow
    rw [if_neg (not_not.mpr hstore)]
    cases hq : db.routerBySerial c.payload.serial with
    | none =>
      have hserial := Db.routerBySerial_none.mp hq
      have hfree : ∃ a, Free D.toSettings db.routers a := by
        refine h.address.resolve_left ?_
        rintro ⟨r, hr, hs⟩
        exact hserial r hr hs
      cases hip : allocateOverlayIp D.toSettings db.routers with
      | error e => exact absurd hfree (allocateOverlayIp_error.mp ⟨e, hip⟩)
      | ok ip =>
        have hapart : ¬ ∃ r ∈ db.routers, r.clash
            ((newRouter c.payload ip c.enrolledAt db.routersSeq).canonical D.toBackend) := by
          rintro ⟨r, hr, hc⟩
          have hs := hserial r hr
          exact h.apart r hr hs ((clash_newRouter_iff h.fits hs
            ((allocateOverlayIp_ok hip).2.2 r hr)).mp hc)
        exact ⟨⟨newRouter c.payload ip c.enrolledAt db.routersSeq, false⟩, by
          simp only [enrollNew, hip, if_neg (not_not.mpr h.fits), if_neg hapart]⟩
    | some existing =>
      obtain ⟨hex, hserial⟩ := Db.routerBySerial_some hq
      have hapart : ¬ ∃ r ∈ db.routers, r.id ≠ existing.id ∧ r.clash
          (existing.update D.toBackend c.payload c.enrolledAt existing) := by
        rintro ⟨r, hr, hid, hc⟩
        rw [Router.update_self (hwf.macs existing hex),
          clash_assign_iff h.fits (hwf.routers.apart r hr existing hex hid)] at hc
        have hs : r.serialNumber ≠ c.payload.serial := fun hs =>
          hid (by rw [hwf.eq_of_serial hr hex (hs.trans hserial.symm)])
        exact h.apart r hr hs hc
      exact ⟨⟨existing.assign c.payload c.enrolledAt, true⟩, by
        simp only [enrollExisting, if_neg (not_not.mpr h.fits), if_neg hapart]⟩

/-! ## What Postgres enforces -/

theorem canonical_mac {B : Backend} {p : AutoEnrollRequest} (h : p.fits B) {r : Router}
    (hr : r.macAddress = p.mac) :
    B.macaddr (r.canonical B).macAddress = some (r.canonical B).macAddress := by
  obtain ⟨m, hm⟩ := h.macaddr
  simp only [Router.canonical, hr, hm, Option.getD_some]
  exact B.macaddr_canonical hm

/-- The ids of the tokens after one is added. -/
theorem nodup_add_token {tokens : List RouterToken} {seq : Nat}
    (hn : (tokens.map RouterToken.id).Nodup) (hseq : ∀ t ∈ tokens, t.id < seq) {t : RouterToken}
    (ht : t.id = seq) : ((tokens ++ [t]).map RouterToken.id).Nodup := by
  refine Rows.nodup_insert hn fun hm => ?_
  obtain ⟨a, ha, hid⟩ := List.mem_map.mp hm
  exact absurd (hseq a ha) (by omega)

/-- Postgres takes `r`, as a new row or as the new version of the one with its id. -/
structure Db.Takes (db : Db) (B : Backend) (r : Router) : Prop where
  seq : r.id < db.routersSeq
  mac : B.macaddr r.macAddress = some r.macAddress
  apart : ∀ a ∈ db.routers, a.id ≠ r.id → ¬ a.clash r

theorem wf_commitNew {B : Backend} {db : Db} (h : db.WF B) (c : Submission) {row : Router}
    (hid : row.id ∉ db.routers.map Router.id) (hrow : db.Takes B row) :
    (db.commitNew B c row).WF B where
  routers := by
    refine h.routers.insert (fun _ _ => Router.clash_symm) hid fun a ha => hrow.apart a ha ?_
    rintro he
    exact hid (List.mem_map.mpr ⟨a, ha, he⟩)
  macs := by
    intro r hr
    rcases mem_commitNew.mp hr with hr | rfl
    · exact h.macs r hr
    · exact hrow.mac
  routersSeq := by
    intro r hr
    rcases mem_commitNew.mp hr with hr | rfl
    · exact h.routersSeq r hr
    · exact hrow.seq
  tokens := nodup_add_token h.tokens h.tokensSeq rfl
  tokensSeq := by
    intro t ht
    rcases List.mem_append.mp ht with ht | ht
    · exact Nat.lt_succ_of_lt (h.tokensSeq t ht)
    · obtain rfl := List.mem_singleton.mp ht
      exact Nat.lt_succ_self _
  owners := by
    intro t ht
    simp only [Db.commitNew, List.map_append, List.mem_append]
    rcases List.mem_append.mp ht with ht | ht
    · exact Or.inl (h.owners t ht)
    · obtain rfl := List.mem_singleton.mp ht
      exact Or.inr (by simp [newToken])

/-- The ids behind a re-enrollment are those before it. -/
theorem commitReenroll_ids {B : Backend} {db : Db} {c : Submission} {id : Nat}
    {row : Option Router} (hrow : ∀ r ∈ row, r.id = id) (old : List Nat) :
    (db.commitReenroll B c id row old).routers.map Router.id = db.routers.map Router.id := by
  cases row with
  | none => rfl
  | some r => exact Rows.amend_keys fun _ _ => hrow r rfl

theorem wf_commitReenroll {B : Backend} {db : Db} (h : db.WF B) (c : Submission) {id : Nat}
    (hid : id ∈ db.routers.map Router.id) {row : Option Router}
    (hrow : ∀ r ∈ row, r.id = id ∧ db.Takes B r) (old : List Nat) :
    (db.commitReenroll B c id row old).WF B where
  routers := by
    cases row with
    | none => exact h.routers
    | some r =>
      obtain ⟨hr, ht⟩ := hrow r rfl
      refine h.routers.amend (fun _ _ => Router.clash_symm) (fun _ _ => hr) ?_
      exact fun _ _ _ a ha hne => ht.apart a ha (hr ▸ hne)
  macs := by
    intro a ha
    cases row with
    | none => exact h.macs a ha
    | some r =>
      obtain ⟨hr, ht⟩ := hrow r rfl
      rcases (mem_commitReenroll hid hr).mp ha with ⟨ha, -⟩ | rfl
      · exact h.macs a ha
      · exact ht.mac
  routersSeq := by
    intro a ha
    cases row with
    | none => exact h.routersSeq a ha
    | some r =>
      obtain ⟨hr, ht⟩ := hrow r rfl
      rcases (mem_commitReenroll hid hr).mp ha with ⟨ha, -⟩ | rfl
      · exact h.routersSeq a ha
      · exact ht.seq
  tokens := by
    refine nodup_add_token ?_ ?_ rfl
    · rw [revokeTokens_ids]
      exact h.tokens
    · intro t ht
      have hm : t.id ∈ db.routerTokens.map RouterToken.id := by
        rw [← revokeTokens_ids]
        exact List.mem_map_of_mem ht
      obtain ⟨a, ha, hai⟩ := List.mem_map.mp hm
      exact hai ▸ h.tokensSeq a ha
  tokensSeq := by
    intro t ht
    rcases List.mem_append.mp ht with ht | ht
    · have hm : t.id ∈ db.routerTokens.map RouterToken.id := by
        rw [← revokeTokens_ids]
        exact List.mem_map_of_mem ht
      obtain ⟨a, ha, hai⟩ := List.mem_map.mp hm
      exact Nat.lt_succ_of_lt (hai ▸ h.tokensSeq a ha)
    · obtain rfl := List.mem_singleton.mp ht
      exact Nat.lt_succ_self _
  owners := by
    intro t ht
    rw [commitReenroll_ids fun r hr => (hrow r hr).1]
    rcases List.mem_append.mp ht with ht | ht
    · have hm : t.routerId ∈ db.routerTokens.map RouterToken.routerId := by
        rw [← revokeTokens_owners]
        exact List.mem_map_of_mem ht
      obtain ⟨a, ha, hai⟩ := List.mem_map.mp hm
      exact hai ▸ h.owners a ha
    · obtain rfl := List.mem_singleton.mp ht
      exact hid

theorem wf_inserted {D : Deployment} {c : Submission} {db : Db} (h : db.WF D.toBackend)
    {ip : IPv4.Address} (hfits : c.payload.fits D.toBackend)
    (hapart : ∀ r ∈ db.routers, ¬ r.clash
      ((newRouter c.payload ip c.enrolledAt db.routersSeq).canonical D.toBackend)) :
    (db.inserted D c ip).WF D.toBackend := by
  rw [inserted_eq]
  refine wf_commitNew (h.drawn (Nat.le_succ _)) c (fun hm => ?_)
    ⟨Nat.lt_succ_self _, canonical_mac hfits rfl, fun a ha _ => hapart a ha⟩
  obtain ⟨r, hr, hid⟩ := List.mem_map.mp hm
  exact absurd (h.routersSeq r hr) (by simp [hid, Router.canonical, newRouter])

theorem wf_reenrolled {D : Deployment} {c : Submission} {db : Db} (h : db.WF D.toBackend)
    {existing : Router} (hex : existing ∈ db.routers) (hfits : c.payload.fits D.toBackend)
    (hapart : ∀ r ∈ db.routers, r.id ≠ existing.id → ¬ r.clash
      (existing.update D.toBackend c.payload c.enrolledAt existing)) :
    (db.reenrolled D c existing).WF D.toBackend := by
  rw [reenrolled_eq h hex]
  refine wf_commitReenroll h c (List.mem_map_of_mem hex) ?_ _
  intro r hr
  obtain rfl := Option.some.inj hr
  refine ⟨rfl, h.routersSeq existing hex, ?_, hapart⟩
  rw [Router.update_self (h.macs existing hex)]
  exact canonical_mac hfits rfl

/-- **The transaction keeps what Postgres enforces.** -/
theorem wf_enrollRow {D : Deployment} (c : Submission) {db : Db} (h : db.WF D.toBackend) :
    (enrollRow D c db).2.WF D.toBackend := by
  have heff := enrollRow_effect D c db
  generalize enrollRow D c db = res at heff
  cases heff with
  | failed e seq hseq => exact h.drawn hseq
  | inserted ip hnew hip hfits hapart => exact wf_inserted h hfits hapart
  | reenrolled existing hold hfits hapart =>
    exact wf_reenrolled h (Db.routerBySerial_some hold).1 hfits hapart

end CpeCloud
