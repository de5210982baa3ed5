import CpeCloud.AutoEnroll.Import
import CpeCloud.AutoEnroll.Registry
import CpeCloud.Device.Body
import CpeCloud.TokenLookup

/-!
# What the service knows of a router (`app/routers/auto_enroll.py`, `app/services/wireguard.py`)

A router that was answered is `Known`: there is a row with its serial and its key, the token that it
was given is the only live one of its tokens, and if the row is that of a peer, `wg0.conf` and the
kernel list it.

* `known_answer`: a router is known when it is answered.
* **`Known.spares`**: it stays known, whatever others do, as long as nobody enrolls its serial.
* `Known.resolves`: a heartbeat with the token is its own.
-/

namespace CpeCloud

variable {π : Type}

/-! ## The peer on the host -/

/-- The text lists the peer below its marker. -/
def ListsPeer (text : Text) (p : PeerRow) : Prop :=
  ∃ peers, p ∈ peers ∧ managedPart text = some (managedText peers)

/-- `wg0.conf` and what the kernel was told list the peer. -/
structure Host.Lists (h : Host) (p : PeerRow) : Prop where
  conf : ∃ file ∈ h.conf, ListsPeer file.content p
  loaded : ∃ text ∈ h.loaded, ListsPeer text p

section Sync

variable {S : Settings} {φ : Faults} {routers : List Router} {h : Host} {p : PeerRow}

theorem listsPeer_render (raw : Text) {peers : List PeerRow} (hp : p ∈ peers) :
    ListsPeer (renderConfig (readInterfaceBlock raw) peers) p :=
  ⟨peers, hp, managedPart_render raw peers⟩

/-- **A sync keeps a peer** that it selects, wherever it fails. -/
theorem Host.Lists.sync (hl : h.Lists p) (hp : p ∈ fetchActivePeers routers) :
    (syncFromDb S φ routers h).2.Lists p := by
  have hwrite (raw : Text) : (writeAtomic φ h
      (renderConfig (readInterfaceBlock raw) (fetchActivePeers routers))).2.Lists p := by
    unfold writeAtomic
    split
    · exact hl
    split
    · exact hl
    split
    · exact ⟨hl.conf, hl.loaded⟩
    · exact ⟨⟨_, rfl, listsPeer_render raw hp⟩, hl.loaded⟩
  unfold syncFromDb
  split
  · exact hl
  simp only
  split
  · exact hl
  rename_i file hfile
  split
  · exact hl
  have hwrite := hwrite file.content
  generalize writeAtomic φ h _ = res at hwrite
  obtain ⟨res, host⟩ := res
  cases res with
  | error e => exact hwrite
  | ok u =>
    obtain ⟨conf, hconf, hlists⟩ := hwrite.conf
    simp only [runSyncHelper]
    cases φ.call .runtimeError .helper with
    | error e => exact hwrite
    | ok v =>
      refine ⟨⟨conf, hconf, hlists⟩, conf.content, ?_, hlists⟩
      rw [Option.mem_def.mp hconf]
      rfl

/-- A sync that succeeds lists every peer that it selects. -/
theorem Host.Lists.of_sync {n : Nat} {h' : Host}
    (hs : syncFromDb S φ routers h = (.ok n, h')) (hp : p ∈ fetchActivePeers routers) :
    h'.Lists p := by
  obtain ⟨hconf, hφ⟩ := (syncFromDb_ok_iff S φ routers h).mp ⟨n, congrArg Prod.fst hs⟩
  obtain ⟨file, hfile⟩ := Option.ne_none_iff_exists'.mp hconf
  rw [syncFromDb_harmless S hφ routers hfile] at hs
  obtain ⟨-, rfl⟩ := Prod.mk.inj hs
  have hlists := @listsPeer_render p file.content _ hp
  exact ⟨⟨_, rfl, hlists⟩, ⟨_, rfl, hlists⟩⟩

end Sync

/-! ## The row -/

/-- The row of the router that posted `f` and was answered `c`: of its tokens the one that it was
given is live, and no other one. -/
structure Recorded (D : Deployment) (f : EnrollFields) (c : ProvisionContext) (db : Db)
    (r : Router) : Prop where
  mem : r ∈ db.routers
  id : r.id = c.router.id
  serial : r.serialNumber = f.serial
  key : r.wgPublicKey = some f.routerPublicKey
  address : r.wgOverlayIp = c.router.wgOverlayIp
  status : r.status = c.router.status
  tokens : ∃ old : List (Text × Text × Bool), (∀ t ∈ old, t.2.2 = true) ∧
    (db.tokensOf r.id).map RouterToken.shape =
      old ++ [tokenShape D.toBackend false c.telemetryToken]

/-- The row, and the peer on the host. -/
structure Known (D : Deployment) (f : EnrollFields) (c : ProvisionContext) (w : World)
    (r : Router) : Prop extends Recorded D f c w.db r where
  listed : r.isPeer = true → w.host.Lists r.toPeer

/-! ## The answer -/

/-- What is answered with an audit row. -/
theorem audited_script {w : World} {action : AuditAction} {status : AuditStatus}
    {routerId : Option Nat} {params : List (String × Param)} {answer : Outcome}
    {ctx : ProvisionContext}
    (h : (audited w action status routerId params answer).1.script = some ctx) :
    answer.script = some ctx ∧
      w.db.SameTables (audited w action status routerId params answer).2.db ∧
      (audited w action status routerId params answer).2.host = w.host := by
  unfold audited at h ⊢
  cases hdb : w.db.audit action status routerId params with
  | error e =>
    rw [hdb] at h
    cases h
  | ok db =>
    rw [hdb] at h
    exact ⟨h, Db.audit_sameTables hdb, rfl⟩

/-- A script is answered for the row that was committed, behind a sync that went through. -/
structure AnsweredFor (D : Deployment) (w : World) (c : EnrollCall) (ctx : ProvisionContext)
    (w' : World) (enrolled : Enrolled) (db : Db) : Prop where
  row : enrollRow D c.toSubmission w.db = (.ok enrolled, db)
  router : ctx.router = enrolled.row
  token : ctx.telemetryToken = c.minted
  tables : db.SameTables w'.db
  synced : ∃ n, syncFromDb D.toSettings c.faults db.routers w.host = (.ok n, w'.host)

theorem enroll_script {D : Deployment} {w : World} {c : EnrollCall} {slot : SecretSlot}
    {serverPubkey : Text} {ctx : ProvisionContext}
    (h : (enroll D w c slot serverPubkey).1.script = some ctx) :
    ∃ enrolled db, AnsweredFor D w c ctx (enroll D w c slot serverPubkey).2 enrolled db := by
  unfold enroll at h ⊢
  cases hrow : enrollRow D c.toSubmission w.db with
  | mk res db =>
    rw [hrow] at h
    cases res with
    | error e => cases h
    | ok enrolled =>
      simp only at h ⊢
      cases hsync : syncFromDb D.toSettings c.faults db.routers w.host with
      | mk sync host =>
        rw [hsync] at h
        cases sync with
        | error e =>
          exfalso
          cases e with
          | databaseError m => cases h
          | _ => cases (audited_script h).1
        | ok peersSynced =>
          obtain ⟨hscript, hdb, hhost⟩ := audited_script h
          obtain rfl := Option.some.inj hscript
          refine ⟨enrolled, db, hrow, rfl, rfl, hdb, peersSynced, ?_⟩
          rw [hsync]
          exact congrArg _ hhost.symm

theorem autoEnroll_script {D : Deployment} {w : World} {c : EnrollCall} {ctx : ProvisionContext}
    (h : (autoEnroll D w c).1.script = some ctx) :
    ∃ enrolled db, AnsweredFor D w c ctx (autoEnroll D w c).2 enrolled db := by
  unfold autoEnroll at h ⊢
  cases hl : limitRates w.buckets c with
  | mk admitted bs =>
    rw [hl] at h
    cases admitted with
    | false => cases h
    | true =>
      simp only at h ⊢
      cases hs : c.secret with
      | none =>
        rw [hs] at h
        cases (audited_script h).1
      | some raw =>
        rw [hs] at h
        cases raw with
        | nil => cases (audited_script h).1
        | cons a as =>
          simp only at h ⊢
          cases hv : verifyProvisioningSecret D (a :: as) with
          | none =>
            rw [hv] at h
            cases (audited_script h).1
          | some slot =>
            rw [hv] at h
            simp only [getServerPublicKey] at h ⊢
            by_cases hkey : D.wgServerPublicKey = []
            · rw [if_pos hkey] at h
              cases h
            · rw [if_neg hkey] at h ⊢
              obtain ⟨enrolled, db, hans⟩ := enroll_script h
              exact ⟨enrolled, db, ⟨hans.row, hans.router, hans.token, hans.tables, hans.synced⟩⟩

section Answer

variable {D : Deployment} {w : World} {c : EnrollCall} {ctx : ProvisionContext}

/-- The name in the answer. -/
theorem identity_answer (h : (autoEnroll D w c).1.script = some ctx) :
    ctx.router.identity = c.payload.identity := by
  obtain ⟨enrolled, db, hans⟩ := autoEnroll_script h
  have heff := enrollRow_effect D c.toSubmission w.db
  rw [hans.row] at heff
  rw [hans.router]
  cases heff with
  | inserted ip hnew => rfl
  | reenrolled existing hold => rfl

/-- The row behind the answer. -/
theorem recorded_answer (hwf : w.db.WF D.toBackend)
    (h : (autoEnroll D w c).1.script = some ctx) :
    ∃ r, Recorded D c.payload.fields ctx (autoEnroll D w c).2.db r := by
  obtain ⟨enrolled, db, hans⟩ := autoEnroll_script h
  have heff := enrollRow_effect D c.toSubmission w.db
  rw [hans.row] at heff
  have hrouter := hans.router
  have htok (id : Nat) : (autoEnroll D w c).2.db.tokensOf id = db.tokensOf id := by
    rw [Db.tokensOf, hans.tables.routerTokens, Db.tokensOf]
  cases heff with
  | inserted ip hnew =>
    refine ⟨(newRouter c.payload ip c.enrolledAt w.db.routersSeq).canonical D.toBackend, ?_, ?_,
      rfl, rfl, ?_, ?_, [], by simp, ?_⟩
    · rw [hans.tables.routers]
      exact mem_inserted.mpr (Or.inr rfl)
    · rw [hrouter]
      rfl
    · rw [hrouter]
      rfl
    · rw [hrouter]
      rfl
    · rw [htok, hans.token]
      exact tokensOf_inserted_self hwf
  | reenrolled existing hold =>
    obtain ⟨hex, hserial⟩ := Db.routerBySerial_some hold
    refine ⟨existing.update D.toBackend c.payload c.enrolledAt existing, ?_, ?_, hserial, ?_, ?_,
      ?_, ((w.db.tokensOf existing.id).map RouterToken.shape).map fun t => (t.1, t.2.1, true), ?_,
      ?_⟩
    · rw [hans.tables.routers]
      exact (mem_reenrolled hwf hex).mpr (Or.inr rfl)
    · rw [hrouter]
      rfl
    · exact written_self _ _
    · rw [hrouter]
      rfl
    · rw [hrouter]
      rfl
    · simp
    · rw [htok, hans.token]
      exact tokensOf_reenrolled_self

/-- **A router that is answered is known.** -/
theorem known_answer (hwf : w.db.WF D.toBackend) (h : (autoEnroll D w c).1.script = some ctx) :
    ctx.telemetryToken = c.minted ∧
      ∃ r, Known D c.payload.fields ctx (autoEnroll D w c).2 r := by
  obtain ⟨r, hr⟩ := recorded_answer hwf h
  obtain ⟨enrolled, db, hans⟩ := autoEnroll_script h
  obtain ⟨n, hsync⟩ := hans.synced
  refine ⟨hans.token, r, hr, fun hpeer => ?_⟩
  refine Host.Lists.of_sync hsync (mem_fetchActivePeers.mpr ⟨r, ?_, hpeer, rfl⟩)
  exact hans.tables.routers ▸ hr.mem

end Answer

/-! ## What others do -/

/-- What can be done at the service: an operation on its tables, or `wg sync`. -/
inductive Deed (π : Type) where
  | operation (op : TokenOp π)
  | wgSync (faults : Faults)

/-- The token that is minted for it, if one is. -/
def Deed.minted : Deed π → List Text
  | .operation op => op.minted
  | .wgSync _ => []

/-- The deed is an enrollment of this serial. -/
def Deed.Enrolls (serial : Text) : Deed π → Prop
  | .operation (.request (.enroll c)) => c.payload.serial = serial
  | _ => False

/-- The service behind it. -/
def Traffic.deed (D : Deployment) (writeTelemetry : Router → π → Except Text Unit)
    (t : Traffic π) : Deed π → Traffic π
  | .operation op => (tokenStep D writeTelemetry t op).getD t
  | .wgSync faults =>
    { t with world := { t.world with
        host := (syncFromDb D.toSettings faults t.world.db.routers t.world.host).2 } }

/-- What a deed can do to the routers. -/
inductive DeedEffect (D : Deployment) (w : World) (d : Deed π) (w' : World) : Prop where
  | enrolled (c : EnrollCall) (hd : d = .operation (.request (.enroll c)))
    (hw : w' = (autoEnroll D w c).2)
  | seen (hdb : w.db.SeenStep w'.db) (hhost : w'.host = w.host)
  | same (hdb : w.db.SameTables w'.db) (hhost : w'.host = w.host)
  | synced (faults : Faults) (hdb : w'.db = w.db)
    (hhost : w'.host = (syncFromDb D.toSettings faults w.db.routers w.host).2)

/-- What a heartbeat does to the host. -/
theorem pushTelemetry_host (D : Deployment) (writeTelemetry : Router → π → Except Text Unit)
    (w : World) (c : PushCall π) :
    (pushTelemetry D writeTelemetry w c).world.host = w.host := by
  have heff := pushTelemetry_effect D writeTelemetry w c
  generalize pushTelemetry D writeTelemetry w c = res at heff
  cases heff with
  | _ => rfl

/-- A download changes neither the routers nor the host. -/
theorem factoryInstaller_same (D : Deployment) (w : World) (c : FetchCall) :
    w.db.SameTables (factoryInstaller D w c).2.db ∧ (factoryInstaller D w c).2.host = w.host := by
  have heff := factoryInstaller_effect D w c
  generalize factoryInstaller D w c = res at heff
  cases heff with
  | _ => exact ⟨⟨rfl, rfl, rfl, rfl⟩, rfl⟩

section Deeds

variable {D : Deployment} {writeTelemetry : Router → π → Except Text Unit} {t : Traffic π}

theorem deed_effect (d : Deed π) :
    DeedEffect D t.world d (t.deed D writeTelemetry d).world := by
  cases d with
  | wgSync faults => exact .synced faults rfl rfl
  | operation op =>
    cases op with
    | issue c =>
      simp only [Traffic.deed, tokenStep]
      split
      · exact .same (.refl _) rfl
      · exact .same ⟨rfl, rfl, rfl, rfl⟩ rfl
    | revoke ident now =>
      simp only [Traffic.deed, tokenStep]
      split
      · exact .same (.refl _) rfl
      · exact .same ⟨rfl, rfl, rfl, rfl⟩ rfl
    | request req =>
      cases req with
      | enroll c => exact .enrolled c rfl rfl
      | fetch c =>
        obtain ⟨hdb, hhost⟩ := factoryInstaller_same D t.world c
        exact .same hdb hhost
      | push c =>
        exact .seen (pushTelemetry_db D writeTelemetry t.world c)
          (pushTelemetry_host D writeTelemetry t.world c)

/-- Postgres's constraints hold behind it. -/
theorem wf_deed (hwf : t.world.db.WF D.toBackend) (d : Deed π) :
    (t.deed D writeTelemetry d).world.db.WF D.toBackend := by
  have heff := @deed_effect π D writeTelemetry t d
  generalize (t.deed D writeTelemetry d).world = w' at heff
  cases heff with
  | enrolled c hd hw => exact hw ▸ wf_autoEnroll c hwf
  | seen hdb => exact hwf.seenStep hdb
  | same hdb => exact hwf.of_sameInventory hdb.sameInventory
  | synced faults hdb => exact hdb ▸ hwf

/-- The tables are stamped by the tokens minted so far. -/
theorem stamped_deed {minted : List Text} (h : Stamped D.toBackend minted t.world.db)
    (d : Deed π) :
    Stamped D.toBackend (minted ++ d.minted) (t.deed D writeTelemetry d).world.db := by
  cases d with
  | wgSync faults =>
    rw [Deed.minted, List.append_nil]
    exact h
  | operation op =>
    simp only [Traffic.deed, Deed.minted]
    cases hs : tokenStep D writeTelemetry t op with
    | none => exact h.mono rfl rfl _
    | some t' => exact stamped_step h hs

end Deeds

/-! ### The row of another serial -/

/-- The row of a serial stays, but for the time it was last seen, and so do its tokens. The host
goes on listing the peers that are still there. -/
structure World.Spares (serial : Text) (w w' : World) : Prop where
  rows : ∀ r ∈ w.db.routers, r.serialNumber = serial →
    ∃ seen, { r with lastSeenAt := seen } ∈ w'.db.routers
  tokens : ∀ r ∈ w.db.routers, r.serialNumber = serial → w'.db.tokensOf r.id = w.db.tokensOf r.id
  listed : ∀ p ∈ fetchActivePeers w'.db.routers, w.host.Lists p → w'.host.Lists p

theorem World.Spares.of_same {serial : Text} {w w' : World} (hdb : w.db.SameTables w'.db)
    (hhost : w'.host = w.host) : w.Spares serial w' where
  rows r hr _ := ⟨r.lastSeenAt, hdb.routers ▸ hr⟩
  tokens r _ _ := by rw [Db.tokensOf, hdb.routerTokens, Db.tokensOf]
  listed _ _ hp := hhost ▸ hp

/-- An enrollment syncs the peers that are there behind it, or leaves the host alone. -/
theorem autoEnroll_host {D : Deployment} {w : World} (hwf : w.db.WF D.toBackend)
    (c : EnrollCall) : (autoEnroll D w c).2.host = w.host ∨ (autoEnroll D w c).2.host =
      (syncFromDb D.toSettings c.faults (autoEnroll D w c).2.db.routers w.host).2 := by
  have hserved := autoEnroll_served hwf c
  generalize autoEnroll D w c = res at hserved
  cases hserved with
  | refused o w' why ho hdb hhost => exact Or.inl hhost
  | committed o w' enrolled db hadm hrow ho hdb hhost =>
    exact Or.inr (hhost.trans (by rw [hdb.routers]))

/-- **What others do** spares a serial that they do not enroll. -/
theorem spares_deed {D : Deployment} {writeTelemetry : Router → π → Except Text Unit}
    {t : Traffic π} (hwf : t.world.db.WF D.toBackend) {serial : Text} {d : Deed π}
    (hd : ¬ d.Enrolls serial) : t.world.Spares serial (t.deed D writeTelemetry d).world := by
  have heff := @deed_effect π D writeTelemetry t d
  generalize (t.deed D writeTelemetry d).world = w' at heff
  cases heff with
  | enrolled c hcall hw =>
    subst hcall
    subst hw
    have hframe := frame_autoEnroll hwf c
    have hne {r : Router} (hr : r.serialNumber = serial) :
        r.serialNumber ≠ c.payload.serial := fun he => hd (he.symm.trans hr)
    refine ⟨fun r hr hserial => ⟨r.lastSeenAt, (hframe.rows r (hne hserial)).mpr hr⟩,
      fun r hr hserial => hframe.tokens r hr (hne hserial), fun p hp hlists => ?_⟩
    rcases autoEnroll_host hwf c with hhost | hhost
    · exact hhost ▸ hlists
    · exact hhost ▸ hlists.sync hp
  | seen hdb hhost =>
    cases w' with
    | mk db buckets host =>
      refine ⟨fun r hr _ => ?_, fun r _ _ => ?_, fun p _ hp => hhost ▸ hp⟩
      · cases hdb with
        | same => exact ⟨r.lastSeenAt, hr⟩
        | seen router hrouter now =>
          have hm : (if r.id = router.id then r.seen now else r) ∈
              Rows.amend Router.id router.id (Router.seen now) t.world.db.routers :=
            List.mem_map_of_mem hr
          split at hm
          · exact ⟨some now, hm⟩
          · exact ⟨r.lastSeenAt, hm⟩
      · cases hdb with
        | _ => rfl
  | same hdb hhost => exact .of_same hdb hhost
  | synced faults hdb hhost =>
    refine ⟨fun r hr _ => ⟨r.lastSeenAt, hdb ▸ hr⟩, fun r _ _ => by rw [hdb],
      fun p hp hlists => ?_⟩
    rw [hdb] at hp
    exact hhost ▸ hlists.sync hp

/-- **A router that is known stays so.** -/
theorem Known.spares {D : Deployment} {f : EnrollFields} {c : ProvisionContext} {w w' : World}
    {r : Router} (h : Known D f c w r) (hs : w.Spares f.serial w') : ∃ r', Known D f c w' r' := by
  obtain ⟨seen, hmem⟩ := hs.rows r h.mem h.serial
  refine ⟨_, ⟨hmem, h.id, h.serial, h.key, h.address, h.status, ?_⟩, fun hpeer => ?_⟩
  · rw [hs.tokens r h.mem h.serial]
    exact h.tokens
  · exact hs.listed _ (mem_fetchActivePeers.mpr ⟨_, hmem, hpeer, rfl⟩) (h.listed hpeer)

/-! ## The token -/

/-- The tokens that are minted are told apart, and their characters are those of
`token_urlsafe`. -/
structure TokensApart (D : Deployment) (minted : List Text) : Prop where
  nodup : minted.Nodup
  length : ∀ m ∈ minted, prefixLen ≤ m.length
  urlSafe : ∀ m ∈ minted, ∀ ch ∈ m, isUrlSafe ch = true
  injective : InjectiveOn D.toBackend minted

theorem TokensApart.of_all {D : Deployment} {minted : List Text} (hnodup : minted.Nodup)
    (hall : minted.all (fun m => decide (prefixLen ≤ m.length) && m.all isUrlSafe) = true)
    (hinjective : InjectiveOn D.toBackend minted) : TokensApart D minted := by
  simp only [List.all_eq_true, Bool.and_eq_true, decide_eq_true_eq] at hall
  exact ⟨hnodup, fun m hm => (hall m hm).1, fun m hm => (hall m hm).2, hinjective⟩

/-- **The token that it was given authenticates the router**, among tokens that are told apart. -/
theorem Known.resolves {D : Deployment} {f : EnrollFields} {c : ProvisionContext} {w : World}
    {r : Router} (h : Known D f c w r) {minted : List Text}
    (hstamped : Stamped D.toBackend minted w.db) (htoken : c.telemetryToken ∈ minted)
    (happart : TokensApart D minted) : Resolves D w c.telemetryToken r.id := by
  obtain ⟨old, -, hshape⟩ := h.tokens
  have hlast : tokenShape D.toBackend false c.telemetryToken ∈
      (w.db.tokensOf r.id).map RouterToken.shape := by
    rw [hshape]
    exact List.mem_append_right _ List.mem_cons_self
  obtain ⟨token, htok, hts⟩ := List.mem_map.mp hlast
  obtain ⟨hmem, hown⟩ := List.mem_filter.mp htok
  simp only [RouterToken.shape, tokenShape, Prod.mk.injEq, Option.isSome_eq_false_iff,
    Option.isNone_iff_eq_none] at hts
  obtain ⟨hhash, -, hlive⟩ := hts
  have hinj' : InjectiveOn D.toBackend (c.telemetryToken :: minted) :=
    happart.injective.subset (List.cons_subset.mpr ⟨htoken, fun _ hm => hm⟩)
  have hindexed := indexed_of_stamped hstamped.router happart.nodup happart.length hinj'
    (List.Perm.refl _)
  have hstore := storable_prefixOf (storable_of_urlSafe (happart.urlSafe _ htoken))
  exact ⟨token, (findValidRouterToken_iff hindexed (Or.inr hstore) token).mpr ⟨hmem, hlive, hhash⟩,
    by simpa using hown, r, h.mem, rfl⟩

end CpeCloud
