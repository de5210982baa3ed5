import CpeCloud.AutoEnroll.Handler
import CpeCloud.Lib.Run
import CpeCloud.Wireguard.Reader

/-!
# What enrollment data can put into `wg0.conf`

A first enrollment makes a router active only under a name that reads as one comment line. A
re-enrollment keeps the status and takes any name, and a name of several lines puts all but its
first into the file as they are.

* **`managed_part_faithful`**: in a run in which no active router is re-enrolled under a name that
  spills a line, every 200 leaves a managed part that reads back as one section per active router.
-/

namespace CpeCloud

/-- The section a router should have. -/
def Router.section (r : Router) : List (Text × Text) := r.toPeer.entries

/-- The managed part of `wg0.conf`, as `wg` reads it, is one section per active router. -/
def Faithful (w : World) : Prop :=
  ∃ file text sections, w.host.conf = some file ∧ managedPart file.content = some text ∧
    readPeers text = some sections ∧
    sections.Perm ((w.db.routers.filter fun r => r.status = .active).map Router.section)

/-- The request re-enrolls no active router under a name that spills a line. -/
def KeepsNamesInert (D : Deployment) (w : World) (c : EnrollCall) : Prop :=
  Admissible D w c → ∀ r ∈ w.db.routers, r.serialNumber = c.payload.serial → r.status = .active →
    Inert c.payload.identity

/-- A row that renders as its section. -/
structure Router.Clean (r : Router) : Prop where
  key : ∃ k, r.wgPublicKey = some k ∧ Plain k
  address : ∃ a, r.wgOverlayIp = some a
  name : r.status = .active → Inert r.identity

/-! ## What a payload contributes -/

/-- A name that auto-approves is one comment line. -/
theorem inert_of_active {identity : Text} (h : initialStatusFor identity = .active) :
    Inert identity := by
  obtain ⟨l, e, rfl, hl, rfl | rfl⟩ := active_identity h
  · rw [List.append_nil]
    intro m hm
    rw [Text.lines_eq_singleton hl] at hm
    simp at hm
  · intro m hm
    rw [Text.lines_append, Text.lines_eq_singleton hl] at hm
    simp only [Text.lines, List.singleton_append, List.tail_cons, List.mem_singleton] at hm
    rw [hm]
    rfl

theorem plain_key (p : AutoEnrollRequest) : Plain p.routerPublicKey := by
  intro c hc
  have hall : Base64.alphabet.all (fun c => c != '#' && !isWgSpace c) = true := by decide
  rcases p.mem_key hc with h | rfl
  · simpa using List.all_eq_true.mp hall c h
  · decide

theorem plain_dotted (a : IPv4.Address) : Plain (IPv4.dotted a) := by
  intro c hc
  rcases IPv4.mem_dotted hc with h | rfl
  · have hval : 48 ≤ c.toNat ∧ c.toNat ≤ 57 := by
      simpa [Char.isDigit, UInt32.le_iff_toNat_le] using h
    constructor
    · rintro rfl
      simp at hval
    · have hne : c ≠ ' ' := by
        rintro rfl
        simp at hval
      simp only [isWgSpace, Bool.or_eq_false_iff, beq_eq_false_iff_ne, ne_eq, hne, not_false_iff,
        Bool.and_eq_false_imp, decide_eq_true_eq, decide_eq_false_iff_not, true_and]
      omega
  · decide

theorem clean_newRouter (B : Backend) (p : AutoEnrollRequest) (ip : IPv4.Address) (now : Timestamp)
    (id : Nat) : ((newRouter p ip now id).canonical B).Clean :=
  ⟨⟨_, rfl, plain_key p⟩, ⟨ip, rfl⟩, inert_of_active⟩

theorem clean_assign {r : Router} (h : r.Clean) (B : Backend) (p : AutoEnrollRequest)
    (now : Timestamp) (hname : r.status = .active → Inert p.identity) :
    ((r.assign p now).canonical B).Clean :=
  ⟨⟨_, rfl, plain_key p⟩, h.address, hname⟩

/-! ## Runs -/

/-- The rows keep rendering as their sections. -/
theorem clean_enrollRow {D : Deployment} {c : Submission} {db : Db} (hwf : db.WF D.toBackend)
    (hclean : ∀ r ∈ db.routers, r.Clean)
    (hname : ∀ r ∈ db.routers, r.serialNumber = c.payload.serial → r.status = .active →
      Inert c.payload.identity) : ∀ r ∈ (enrollRow D c db).2.routers, r.Clean := by
  have heff := enrollRow_effect D c db
  generalize enrollRow D c db = res at heff
  cases heff with
  | failed => exact hclean
  | inserted ip =>
    intro r hr
    rcases mem_inserted.mp hr with hr | rfl
    · exact hclean r hr
    · exact clean_newRouter _ _ _ _ _
  | reenrolled existing hold =>
    obtain ⟨hex, hserial⟩ := Db.routerBySerial_some hold
    intro r hr
    rcases (mem_reenrolled hwf hex).mp hr with ⟨hr, -⟩ | rfl
    · exact hclean r hr
    · rw [Router.update_self (hwf.macs existing hex)]
      exact clean_assign (hclean existing hex) _ _ _ (hname existing hex hserial)

/-- What the runs keep. -/
structure CleanDb (B : Backend) (db : Db) : Prop where
  wf : db.WF B
  clean : ∀ r ∈ db.routers, r.Clean

theorem cleanDb_autoEnroll {D : Deployment} {w : World} {c : EnrollCall}
    (h : CleanDb D.toBackend w.db) (hc : KeepsNamesInert D w c) :
    CleanDb D.toBackend (autoEnroll D w c).2.db := by
  have hserved := autoEnroll_served h.wf c
  refine ⟨wf_autoEnroll c h.wf, ?_⟩
  generalize autoEnroll D w c = res at hserved
  cases hserved with
  | refused o w' why ho hdb hhost =>
    rw [hdb.routers]
    exact h.clean
  | committed o w' enrolled db hadm hrow ho hdb hhost =>
    have hclean := clean_enrollRow h.wf h.clean (hc hadm)
    rw [hrow] at hclean
    rw [hdb.routers]
    exact hclean

/-- In a clean table the active routers are the peers. -/
theorem filter_isPeer {routers : List Router} (h : ∀ r ∈ routers, r.Clean) :
    routers.filter Router.isPeer = routers.filter fun r => r.status = .active := by
  refine List.filter_congr fun r hr => ?_
  obtain ⟨k, hk, -⟩ := (h r hr).key
  obtain ⟨a, ha⟩ := (h r hr).address
  simp [Router.isPeer, hk, ha]

theorem printable_toPeer {r : Router} (h : r.Clean) : r.toPeer.Printable := by
  obtain ⟨k, hk, hplain⟩ := h.key
  obtain ⟨a, ha⟩ := h.address
  constructor
  · simpa [Router.toPeer, hk] using hplain
  · simpa [Router.toPeer, ha] using plain_dotted a

/-- A file synced from a clean table reads back. -/
theorem readPeers_synced {routers : List Router} (h : ∀ r ∈ routers, r.Clean) :
    ∃ sections, readPeers (managedText (fetchActivePeers routers)) = some sections ∧
      sections.Perm ((routers.filter fun r => r.status = .active).map Router.section) := by
  have hprint : ∀ p ∈ fetchActivePeers routers, p.Printable := by
    intro p hp
    obtain ⟨r, hr, -, rfl⟩ := mem_fetchActivePeers.mp hp
    exact printable_toPeer (h r hr)
  have hinert : ∀ p ∈ fetchActivePeers routers, Inert p.identity := by
    intro p hp
    obtain ⟨r, hr, hpeer, rfl⟩ := mem_fetchActivePeers.mp hp
    simp only [Router.isPeer, decide_eq_true_eq] at hpeer
    exact (h r hr).name hpeer.1
  refine ⟨_, (readPeers_managedText_iff hprint).mpr hinert, ?_⟩
  rw [fetchActivePeers, List.map_map, ← filter_isPeer h]
  exact (List.perm_insertionSort _ _).map _

/-- A 200 over a clean table leaves a file that reads back. -/
theorem faithful_of_ok {D : Deployment} {w : World} {c : EnrollCall} (hwf : w.db.WF D.toBackend)
    (hclean : ∀ r ∈ (autoEnroll D w c).2.db.routers, r.Clean)
    (hok : (autoEnroll D w c).1.statusCode = some 200) : Faithful (autoEnroll D w c).2 := by
  have hserved := autoEnroll_served hwf c
  generalize autoEnroll D w c = res at hserved hclean hok
  cases hserved with
  | refused o w' why ho hdb hhost => exact absurd hok ho
  | committed o w' enrolled db hadm hrow ho hdb hhost =>
    obtain ⟨hconf, hφ⟩ := (syncFromDb_ok_iff _ _ _ _).mp (ho.mp hok)
    obtain ⟨file, hfile⟩ := Option.ne_none_iff_exists'.mp hconf
    rw [syncFromDb_harmless D.toSettings hφ db.routers hfile] at hhost
    simp only at hclean
    rw [hdb.routers] at hclean
    obtain ⟨sections, hread, hperm⟩ := readPeers_synced hclean
    have hconf' : w'.host.conf = some ⟨renderConfig (readInterfaceBlock file.content)
        (fetchActivePeers db.routers), file.mode % 0o10000⟩ := by
      rw [hhost, Host.synced]
    refine ⟨_, managedText (fetchActivePeers db.routers), sections, hconf',
      managedPart_render file.content _, hread, ?_⟩
    rw [hdb.routers]
    exact hperm

/-- **No injection unless an active router is renamed**: in a run from an empty table in which every
request keeps names inert, a 200 leaves a managed part that reads back as one section per active
router. -/
theorem managed_part_faithful {D : Deployment} {w w' : World} {cs : List EnrollCall}
    {c : EnrollCall} (hwf : w.db.WF D.toBackend) (hempty : w.db.routers = [])
    (hrun : Run.exec (enrollStep D) w cs = some w')
    (hkeep : Run.Meets (enrollStep D) (KeepsNamesInert D) w cs) (hlast : KeepsNamesInert D w' c)
    (hok : (autoEnroll D w' c).1.statusCode = some 200) : Faithful (autoEnroll D w' c).2 := by
  have hstart : CleanDb D.toBackend w.db := ⟨hwf, by simp [hempty]⟩
  have hinv : CleanDb D.toBackend w'.db :=
    Run.meets_induction (P := fun w => CleanDb D.toBackend w.db) (fun h hc he => by
      obtain rfl := Option.some.inj he
      exact cleanDb_autoEnroll h hc) hstart hkeep hrun
  exact faithful_of_ok hinv.wf (cleanDb_autoEnroll hinv hlast).clean hok

/-- Unit A, renamed: its second line starts a peer of its own. -/
def unitARenamed : AutoEnrollRequest :=
  { unitA with
    identity := ("hAP ac2 - Lab, Bench\n[Peer]\nPublicKey = ".toList ++
      "EAAAAAAAAAAAAAAAAAAAAAAAAAAAAAAAAAAAAAAAAAA=\nAllowedIPs = 0.0.0.0/0".toList)
    identity_len := by decide }

/-- The re-enrollment of unit A under that name. -/
def renameCall : EnrollCall := smallCall unitARenamed "tok-B-second-enrollment" 60

theorem exec_enrolledWorld : Run.exec (enrollStep smallDeployment) smallWorld
    [smallCall unitA "tok-A-first-enrollment" 0] = some enrolledWorld := rfl

/-- Enrolled and then renamed, unit A has put a second peer into the file. -/
theorem renamed_not_faithful : ¬ ∀ (D : Deployment) (w w' : World) (cs : List EnrollCall)
    (c : EnrollCall), w.db.WF D.toBackend → w.db.routers = [] →
      Run.exec (enrollStep D) w cs = some w' → (autoEnroll D w' c).1.statusCode = some 200 →
        Faithful (autoEnroll D w' c).2 := by
  intro h
  have hsections : (autoEnroll smallDeployment enrolledWorld renameCall).1.statusCode = some 200 ∧
      ((autoEnroll smallDeployment enrolledWorld renameCall).2.host.conf.bind fun file =>
        (managedPart file.content).bind readPeers).map List.length = some 2 ∧
      ((autoEnroll smallDeployment enrolledWorld renameCall).2.db.routers.filter fun r =>
        r.status = .active).length = 1 := by
    decide +kernel
  obtain ⟨hok, htwo, hone⟩ := hsections
  obtain ⟨file, text, sections, hfile, htext, hread, hperm⟩ :=
    h _ _ _ _ _ (Db.wf_empty _ _ _ _) rfl exec_enrolledWorld hok
  have hcount := hperm.length_eq
  rw [List.length_map, hone] at hcount
  rw [hfile, Option.bind_some, htext, Option.bind_some, hread, Option.map_some, hcount] at htwo
  simp at htwo

theorem managed_part_faithful_again :
    Faithful (autoEnroll smallDeployment enrolledWorld againCall).2 :=
  managed_part_faithful (Db.wf_empty _ _ _ _) rfl exec_enrolledWorld
    ⟨fun _ _ hr => absurd hr List.not_mem_nil, fun _ _ => trivial⟩
    (fun _ _ _ _ _ => inert_of_active (by decide)) (by decide +kernel)

end CpeCloud
