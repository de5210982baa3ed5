import CpeCloud.Models
import CpeCloud.Settings
import CpeCloud.Wireguard.Conf
import Mathlib.Data.List.Sort

/-!
# `sync_from_db` (`app/services/wireguard.py`)

The host holds `wg0.conf`, the temporary file of an atomic write while there is one, and the
text the sync helper last loaded into the kernel. `Faults` says which of the calls fail. A sync
succeeds iff the file is there and no call fails, a refused `chown` apart (`syncFromDb_ok_iff`);
it then leaves the rendering of the active peers in the file and in the kernel.
-/

namespace CpeCloud

open Text

/-- A file: its characters and its permission bits. -/
structure File where
  content : Text
  mode : Nat
  deriving DecidableEq

/-- The machine the service runs on, as far as a sync touches it. -/
structure Host where
  /-- `settings.wg_config_path`. -/
  conf : Option File
  /-- The `.wg0.*.tmp` file next to it. -/
  temp : Option File
  /-- The text `wg syncconf` was last run on. -/
  loaded : Option Text
  deriving DecidableEq

/-- The calls of a sync that can fail. -/
inductive SyncCall where
  | select
  | read
  | stat
  | mkstemp
  | write
  | chmod
  | chown
  | replace
  | helper
  deriving Repr, DecidableEq

/-- The exception of a call that fails: is it a `PermissionError`, and what does `str` make of
it. -/
structure Fault where
  permission : Bool
  message : Stored
  deriving DecidableEq

/-- What a sync raises, with its `str`. -/
inductive SyncError where
  | databaseError (message : Stored)
  | runtimeError (message : Stored)
  | osError (message : Stored)
  deriving DecidableEq

/-- `str(exc)`. -/
def SyncError.str : SyncError → Stored
  | .databaseError m => m
  | .runtimeError m => m
  | .osError m => m

/-- The calls that fail, and how. -/
abbrev Faults := SyncCall → Option Fault

/-- A call that raises `mk` of its message if it fails. -/
def Faults.call (φ : Faults) (mk : Stored → SyncError) (c : SyncCall) : Except SyncError Unit :=
  match φ c with
  | none => .ok ()
  | some f => .error (mk f.message)

/-- `os.chown`, with `PermissionError` caught. -/
def Faults.chown (φ : Faults) : Except SyncError Unit :=
  match φ .chown with
  | none => .ok ()
  | some f => if f.permission then .ok () else .error (.osError f.message)

/-! ## Peers -/

/-- The `WHERE` of `_fetch_active_peers`. -/
def Router.isPeer (r : Router) : Bool :=
  r.status = .active ∧ r.wgPublicKey ≠ none ∧ r.wgOverlayIp ≠ none

/-- The row `_fetch_active_peers` makes of a router it selects. -/
def Router.toPeer (r : Router) : PeerRow :=
  ⟨r.identity, r.wgPublicKey.getD [], (r.wgOverlayIp.map IPv4.dotted).getD []⟩

/-- `ORDER BY wg_overlay_ip`. -/
def Router.overlayLE (r r' : Router) : Prop := r.wgOverlayIp.getD 0 ≤ r'.wgOverlayIp.getD 0

instance : DecidableRel Router.overlayLE := fun r r' =>
  inferInstanceAs (Decidable (r.wgOverlayIp.getD 0 ≤ r'.wgOverlayIp.getD 0))

/-- The routers `_fetch_active_peers` selects, in its order. -/
def activeRouters (routers : List Router) : List Router :=
  (routers.filter Router.isPeer).insertionSort Router.overlayLE

/-- `_fetch_active_peers`. -/
def fetchActivePeers (routers : List Router) : List PeerRow :=
  (activeRouters routers).map Router.toPeer

theorem mem_activeRouters {routers : List Router} {r : Router} :
    r ∈ activeRouters routers ↔ r ∈ routers ∧ r.isPeer = true := by
  rw [activeRouters, List.mem_insertionSort, List.mem_filter]

theorem mem_fetchActivePeers {routers : List Router} {p : PeerRow} :
    p ∈ fetchActivePeers routers ↔ ∃ r ∈ routers, r.isPeer = true ∧ r.toPeer = p := by
  simp only [fetchActivePeers, List.mem_map, mem_activeRouters, and_assoc]

/-! ## The file -/

/-- What `_write_atomic` does to its temporary file, up to the rename. -/
def fillTemp (φ : Faults) : Except SyncError Unit := do
  φ.call .osError .write
  φ.call .osError .chmod
  φ.chown
  φ.call .osError .replace

/-- `_write_atomic`: temporary file, mode, owner, rename; a failure behind `mkstemp` removes the
temporary file and is raised again. -/
def writeAtomic (φ : Faults) (h : Host) (content : Text) : Except SyncError Unit × Host :=
  match h.conf with
  | none => (.error (.osError ⟨"No such file or directory".toList, by decide⟩), h)
  | some old =>
    match (do φ.call .osError .stat; φ.call .osError .mkstemp) with
    | .error e => (.error e, h)
    | .ok () =>
      match fillTemp φ with
      | .error e => (.error e, { h with temp := none })
      | .ok () => (.ok (), { h with conf := some ⟨content, old.mode % 0o10000⟩, temp := none })

/-- `_run_sync_helper`: `wg syncconf` on the file as it stands. -/
def runSyncHelper (φ : Faults) (h : Host) : Except SyncError Unit × Host :=
  match φ.call .runtimeError .helper with
  | .error e => (.error e, h)
  | .ok () => (.ok (), { h with loaded := h.conf.map File.content })

/-- The message of the `RuntimeError` when `wg0.conf` is missing. -/
def missingConfMessage (S : Settings) : Stored :=
  ⟨"Missing ".toList ++ S.wgConfigPath.1 ++
    " - did the wg-quick bootstrap (INSTALL.md section 5) run?".toList, by
    have h1 : storable "Missing ".toList := by decide
    have h2 : storable " - did the wg-quick bootstrap (INSTALL.md section 5) run?".toList := by
      decide
    unfold storable at h1 h2 ⊢
    simp only [List.mem_append, not_or]
    exact ⟨⟨h1, S.wgConfigPath.2⟩, h2⟩⟩

/-- `sync_from_db`; returns `peers_synced`. -/
def syncFromDb (S : Settings) (φ : Faults) (routers : List Router) (h : Host) :
    Except SyncError Nat × Host :=
  match φ.call .databaseError .select with
  | .error e => (.error e, h)
  | .ok () =>
    let peers := fetchActivePeers routers
    match h.conf with
    | none => (.error (.runtimeError (missingConfMessage S)), h)
    | some file =>
      match φ.call .osError .read with
      | .error e => (.error e, h)
      | .ok () =>
        let rendered := renderConfig (readInterfaceBlock file.content) peers
        match writeAtomic φ h rendered with
        | (.error e, h) => (.error e, h)
        | (.ok (), h) =>
          match runSyncHelper φ h with
          | (.error e, h) => (.error e, h)
          | (.ok (), h) => (.ok peers.length, h)

/-- No call fails, a refused `chown` apart. -/
def Faults.Harmless (φ : Faults) : Prop :=
  φ .select = none ∧ φ .read = none ∧ φ .stat = none ∧ φ .mkstemp = none ∧ φ .write = none ∧
    φ .chmod = none ∧ (∀ f ∈ φ .chown, f.permission = true) ∧ φ .replace = none ∧ φ .helper = none

instance (φ : Faults) : Decidable φ.Harmless := by
  unfold Faults.Harmless
  infer_instance

/-- No step up to the rename fails, a refused `chown` apart. -/
def Faults.Replaces (φ : Faults) : Prop :=
  φ .select = none ∧ φ .read = none ∧ φ .stat = none ∧ φ .mkstemp = none ∧ φ .write = none ∧
    φ .chmod = none ∧ (∀ f ∈ φ .chown, f.permission = true) ∧ φ .replace = none

instance (φ : Faults) : Decidable φ.Replaces := by
  unfold Faults.Replaces
  infer_instance

theorem Faults.harmless_iff {φ : Faults} : φ.Harmless ↔ φ.Replaces ∧ φ .helper = none := by
  simp only [Faults.Harmless, Faults.Replaces, and_assoc]

/-- The host after a successful sync over the file `file`. -/
def Host.synced (h : Host) (file : File) (routers : List Router) : Host :=
  let text := renderConfig (readInterfaceBlock file.content) (fetchActivePeers routers)
  { h with conf := some ⟨text, file.mode % 0o10000⟩, temp := none, loaded := some text }

theorem Faults.call_ok_iff {φ : Faults} {mk : Stored → SyncError} {c : SyncCall} :
    φ.call mk c = .ok () ↔ φ c = none := by
  unfold Faults.call
  cases φ c <;> simp

theorem Faults.chown_ok_iff {φ : Faults} :
    φ.chown = .ok () ↔ ∀ f ∈ φ .chown, f.permission = true := by
  unfold Faults.chown
  cases φ .chown with
  | none => simp
  | some f => cases hf : f.permission <;> simp [hf]

theorem bind_ok_iff {x y : Except SyncError Unit} :
    (x >>= fun _ => y) = .ok () ↔ x = .ok () ∧ y = .ok () := by
  cases x with
  | error e => simp [bind, Except.bind]
  | ok u => simp [bind, Except.bind]

theorem fillTemp_ok_iff {φ : Faults} :
    fillTemp φ = .ok () ↔ φ .write = none ∧ φ .chmod = none ∧
      (∀ f ∈ φ .chown, f.permission = true) ∧ φ .replace = none := by
  simp only [fillTemp, bind_ok_iff, Faults.call_ok_iff, Faults.chown_ok_iff]

theorem writeAtomic_ok_iff {φ : Faults} {h : Host} {content : Text} :
    (writeAtomic φ h content).1 = .ok () ↔ h.conf ≠ none ∧ φ .stat = none ∧ φ .mkstemp = none ∧
      fillTemp φ = .ok () := by
  unfold writeAtomic
  cases h.conf with
  | none => simp
  | some old =>
    cases hs : φ .stat with
    | some f => simp [Faults.call, hs, bind, Except.bind]
    | none =>
      cases hm : φ .mkstemp with
      | some f => simp [Faults.call, hs, hm, bind, Except.bind]
      | none => cases fillTemp φ <;> simp [Faults.call, hs, hm, bind, Except.bind]

/-- The write goes through exactly where the file is there and its own steps do not fail. -/
theorem Faults.replaces_iff {φ : Faults} {h : Host} {old : File} (hc : h.conf = some old)
    (content : Text) :
    φ.Replaces ↔ φ .select = none ∧ φ .read = none ∧ (writeAtomic φ h content).1 = .ok () := by
  rw [writeAtomic_ok_iff, fillTemp_ok_iff]
  simp [Faults.Replaces, hc]

theorem syncFromDb_harmless (S : Settings) {φ : Faults} (hφ : φ.Harmless)
    (routers : List Router) {h : Host} {file : File} (hf : h.conf = some file) :
    syncFromDb S φ routers h = (.ok (fetchActivePeers routers).length, h.synced file routers) := by
  obtain ⟨h1, h2, h3, h4, h5, h6, h7, h8, h9⟩ := hφ
  have hstat : (do φ.call .osError .stat; φ.call .osError .mkstemp) = .ok () :=
    bind_ok_iff.mpr ⟨Faults.call_ok_iff.mpr h3, Faults.call_ok_iff.mpr h4⟩
  have hfill : fillTemp φ = .ok () := fillTemp_ok_iff.mpr ⟨h5, h6, h7, h8⟩
  simp [syncFromDb, writeAtomic, runSyncHelper, Host.synced, Faults.call_ok_iff.mpr h1,
    Faults.call_ok_iff.mpr h2, Faults.call_ok_iff.mpr h9, hf, hstat, hfill]

/-! ## How it fails -/

theorem Faults.call_error {φ : Faults} {mk : Stored → SyncError} {c : SyncCall} {e : SyncError}
    (h : φ.call mk c = .error e) : ∃ m, e = mk m := by
  unfold Faults.call at h
  split at h
  · simp at h
  · exact ⟨_, (Except.error.inj h).symm⟩

theorem Faults.chown_error {φ : Faults} {e : SyncError} (h : φ.chown = .error e) :
    ∃ m, e = .osError m := by
  unfold Faults.chown at h
  split at h
  · simp at h
  · split at h
    · simp at h
    · exact ⟨_, (Except.error.inj h).symm⟩

theorem bind_error {x y : Except SyncError Unit} {e : SyncError}
    (h : (x >>= fun _ => y) = .error e) : x = .error e ∨ y = .error e := by
  cases x with
  | error e' => exact Or.inl h
  | ok u => exact Or.inr h

theorem fillTemp_error {φ : Faults} {e : SyncError} (h : fillTemp φ = .error e) :
    ∃ m, e = .osError m := by
  unfold fillTemp at h
  rcases bind_error h with h | h
  · exact Faults.call_error h
  rcases bind_error h with h | h
  · exact Faults.call_error h
  rcases bind_error h with h | h
  · exact Faults.chown_error h
  · exact Faults.call_error h

theorem writeAtomic_error {φ : Faults} {h : Host} {content : Text} {e : SyncError}
    (he : (writeAtomic φ h content).1 = .error e) : ∃ m, e = .osError m := by
  unfold writeAtomic at he
  split at he
  · exact ⟨_, (Except.error.inj he).symm⟩
  split at he
  · rename_i hstat
    obtain rfl := Except.error.inj he
    rcases bind_error hstat with h | h <;> exact Faults.call_error h
  split at he
  · rename_i hfill
    obtain rfl := Except.error.inj he
    exact fillTemp_error hfill
  · simp at he

/-- The database's error comes from the SELECT, and from nothing else. -/
theorem syncFromDb_databaseError_iff (S : Settings) (φ : Faults) (routers : List Router)
    (h : Host) :
    (∃ m, (syncFromDb S φ routers h).1 = .error (.databaseError m)) ↔ φ .select ≠ none := by
  unfold syncFromDb
  cases hs : φ .select with
  | some f => simp [Faults.call, hs]
  | none =>
    have hselect : φ.call .databaseError .select = .ok () := Faults.call_ok_iff.mpr hs
    simp only [hselect, ne_eq, not_true, iff_false, not_exists]
    intro m hm
    split at hm
    · simp at hm
    split at hm
    · rename_i hread
      obtain rfl := Except.error.inj hm
      obtain ⟨m', hm'⟩ := Faults.call_error hread
      cases hm'
    split at hm
    · rename_i host hw
      obtain rfl := Except.error.inj hm
      obtain ⟨m', hm'⟩ := writeAtomic_error (congrArg Prod.fst hw)
      cases hm'
    split at hm
    · rename_i hrun
      obtain rfl := Except.error.inj hm
      unfold runSyncHelper at hrun
      split at hrun
      · rename_i hhelper
        obtain ⟨m', hm'⟩ := Faults.call_error hhelper
        simp only [Prod.mk.injEq, Except.error.injEq] at hrun
        rw [hm'] at hrun
        cases hrun.1
      · simp at hrun
    · simp at hm

/-- **When a sync succeeds.** -/
theorem syncFromDb_ok_iff (S : Settings) (φ : Faults) (routers : List Router) (h : Host) :
    (∃ n, (syncFromDb S φ routers h).1 = .ok n) ↔ h.conf ≠ none ∧ φ.Harmless := by
  constructor
  · rintro ⟨n, hn⟩
    unfold syncFromDb at hn
    split at hn
    · simp at hn
    rename_i hselect
    split at hn
    · simp at hn
    rename_i file hf
    split at hn
    · simp at hn
    rename_i hread
    simp only [writeAtomic, hf] at hn
    cases hstat : (do φ.call .osError .stat; φ.call .osError .mkstemp) with
    | error e => simp [hstat] at hn
    | ok u =>
      cases hfill : fillTemp φ with
      | error e => simp [hstat, hfill] at hn
      | ok v =>
        simp only [hstat, hfill, runSyncHelper] at hn
        cases hhelper : φ.call .runtimeError .helper with
        | error e => simp [hhelper] at hn
        | ok w =>
          obtain ⟨hs, hm⟩ := bind_ok_iff.mp hstat
          obtain ⟨hw, hch, hco, hr⟩ := fillTemp_ok_iff.mp hfill
          exact ⟨by simp [hf], Faults.call_ok_iff.mp hselect, Faults.call_ok_iff.mp hread,
            Faults.call_ok_iff.mp hs, Faults.call_ok_iff.mp hm, hw, hch, hco, hr,
            Faults.call_ok_iff.mp hhelper⟩
  · rintro ⟨hc, hφ⟩
    obtain ⟨file, hf⟩ := Option.ne_none_iff_exists'.mp hc
    exact ⟨_, by rw [syncFromDb_harmless S hφ routers hf]⟩

end CpeCloud
