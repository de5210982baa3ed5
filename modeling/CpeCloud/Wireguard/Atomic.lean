import CpeCloud.Wireguard.Sync
import Mathlib

/-!
# `sync_from_db`, call by call (`app/services/wireguard.py`)

`syncFromDb` of `Wireguard/Sync.lean` says what a sync does as a whole. Here it is a program over
the directory of `wg0.conf`, with one operation for each call of the source, any of which may
fail, and the two `try` blocks of `_write_atomic` as they stand.

* `syncFromDb_spec`: what the program does, as a triple over the triples of its calls.
* **`syncFromDb_allOrNothing`**: the file is kept or replaced as a whole, no temporary file
  remains, and nothing that fails stays silent, a refused `chown` apart.
* **`syncFromDb_refines`**: the program refines `CpeCloud.syncFromDb`.

Out of scope: a `replace` that is not atomic, and an `unlink` that fails.
-/

namespace CpeCloud.Atomic

open Text Std.Do

set_option mvcgen.warning false

/-! ## The directory of `wg0.conf` -/

/-- What a sync finds on disk, and what the kernel was told. -/
structure Disk where
  /-- `settings.wg_config_path`. -/
  conf : Option File
  /-- The `.wg0.*.tmp` files next to it, by name. -/
  temps : List (Nat × File)
  /-- The text `wg syncconf` was last run on. -/
  loaded : Option Text
  deriving DecidableEq

namespace Disk

/-- The disk with one temporary file more. -/
def holding (d : Disk) (n : Nat) (file : File) : Disk :=
  { d with temps := (n, file) :: d.temps }

/-- The disk with the temporary file `n` changed. -/
def onTemp (d : Disk) (n : Nat) (change : File → File) : Disk :=
  { d with temps := d.temps.map fun t => if t.1 = n then (n, change t.2) else t }

/-- The disk without the temporary file `n`. -/
def unlinked (d : Disk) (n : Nat) : Disk :=
  { d with temps := d.temps.filter fun t => t.1 ≠ n }

/-- The disk with the temporary file `n` in the place of `wg0.conf`. -/
def renamed (d : Disk) (n : Nat) : Disk :=
  { d.unlinked n with conf := d.temps.lookup n }

/-- No temporary file is called `n`. -/
def Fresh (d : Disk) (n : Nat) : Prop := n ∉ d.temps.map Prod.fst

variable {d : Disk} {n : Nat}

theorem Fresh.ne (hn : d.Fresh n) {t : Nat × File} (ht : t ∈ d.temps) : t.1 ≠ n :=
  fun h => hn (h ▸ List.mem_map_of_mem ht)

theorem onTemp_holding (hn : d.Fresh n) (file : File) (change : File → File) :
    (d.holding n file).onTemp n change = d.holding n (change file) := by
  have hrest : d.temps.map (fun t => if t.1 = n then (n, change t.2) else t) = d.temps :=
    (List.map_congr_left fun t ht => if_neg (hn.ne ht)).trans (List.map_id _)
  simp [onTemp, holding, hrest]

theorem onTemp_self {change : File → File} (h : ∀ file, change file = file) :
    d.onTemp n change = d := by
  have hsame : (fun t : Nat × File => if t.1 = n then (n, change t.2) else t) = id := by
    funext t
    by_cases ht : t.1 = n
    · simp [h, ← ht]
    · simp [ht]
  simp [onTemp, hsame]

theorem unlinked_holding (hn : d.Fresh n) (file : File) : (d.holding n file).unlinked n = d := by
  have hrest : d.temps.filter (fun t => t.1 ≠ n) = d.temps :=
    List.filter_eq_self.mpr fun t ht => decide_eq_true (hn.ne ht)
  cases d
  simpa [unlinked, holding] using hrest

theorem renamed_holding (hn : d.Fresh n) (file : File) :
    (d.holding n file).renamed n = { d with conf := some file } := by
  rw [renamed, unlinked_holding hn]
  simp [holding]

end Disk

/-- An exception on its way up: what it is, and whether `except PermissionError` catches it. -/
structure Raised where
  error : SyncError
  permission : Bool
  deriving DecidableEq

/-- The operating system under a sync. -/
structure System where
  /-- The calls that fail. -/
  faults : Faults
  /-- The name `mkstemp` picks beside the names in use. -/
  name : List Nat → Nat
  name_fresh : ∀ used, name used ∉ used
  /-- What a write that fails has written. -/
  torn : Text → Text
  /-- What `chown` makes of a mode: the set-user-ID and set-group-ID bits may go. -/
  chowned : Nat → Nat
  chowned_rwx : ∀ mode, chowned mode % 0o1000 = mode % 0o1000

/-- A piece of the service: it works on the disk and may raise. -/
abbrev Prog := ExceptT Raised (StateM Disk)

variable (Y : System)

/-- A call that raises if it fails. -/
def System.call (mk : Stored → SyncError) (c : SyncCall) : Prog Unit :=
  match Y.faults c with
  | none => pure ()
  | some f => throw ⟨mk f.message, f.permission⟩

/-! ## `_write_atomic` -/

theorem storable_noSuchFile : storable "No such file or directory".toList := by decide

/-- `path.stat().st_mode`. -/
def stat : Prog Nat := do
  match (← get).conf with
  | none => throw ⟨.osError ⟨"No such file or directory".toList, storable_noSuchFile⟩, false⟩
  | some file =>
    Y.call .osError .stat
    pure file.mode

/-- `tempfile.mkstemp`. -/
def mkstemp : Prog Nat := do
  Y.call .osError .mkstemp
  let n := Y.name ((← get).temps.map Prod.fst)
  modify fun d => d.holding n ⟨[], 0o600⟩
  pure n

/-- `tf.write`, and the close that flushes it. -/
def write (n : Nat) (content : Text) : Prog Unit :=
  match Y.faults .write with
  | none => modify fun d => d.onTemp n fun file => { file with content := content }
  | some f => do
    modify fun d => d.onTemp n fun file => { file with content := Y.torn content }
    throw ⟨.osError f.message, f.permission⟩

/-- `os.chmod`. -/
def chmod (n mode : Nat) : Prog Unit := do
  Y.call .osError .chmod
  modify fun d => d.onTemp n fun file => { file with mode := mode }

/-- `os.chown`. -/
def chown (n : Nat) : Prog Unit := do
  Y.call .osError .chown
  modify fun d => d.onTemp n fun file => { file with mode := Y.chowned file.mode }

/-- `os.replace`. -/
def replace (n : Nat) : Prog Unit := do
  Y.call .osError .replace
  modify fun d => d.renamed n

/-- `tmp_path.unlink(missing_ok=True)`. -/
def unlink (n : Nat) : Prog Unit := modify fun d => d.unlinked n

/-- The inner `try` of `_write_atomic`. -/
def chownIfAllowed (n : Nat) : Prog Unit := do
  try
    chown Y n
  catch e =>
    -- `except PermissionError`
    if e.permission then pure () else throw e

/-- The block of the outer `try` of `_write_atomic`. -/
def fillTemp (tmp : Nat) (content : Text) (mode : Nat) : Prog Unit := do
  write Y tmp content
  chmod Y tmp (mode % 0o10000)
  chownIfAllowed Y tmp
  replace Y tmp

/-- `_write_atomic`. -/
def writeAtomic (content : Text) : Prog Unit := do
  let mode ← stat Y
  let tmp ← mkstemp Y
  try
    fillTemp Y tmp content mode
  catch e =>
    -- `except BaseException`
    unlink tmp
    throw e

/-! ## `sync_from_db` -/

/-- `_fetch_active_peers`, whose `SELECT` may fail. -/
def selectPeers (routers : List Router) : Prog (List PeerRow) := do
  Y.call .databaseError .select
  pure (fetchActivePeers routers)

/-- `_read_interface_block`. -/
def readBlock (S : Settings) : Prog Text := do
  match (← get).conf with
  | none => throw ⟨.runtimeError (missingConfMessage S), false⟩
  | some file =>
    Y.call .osError .read
    pure (readInterfaceBlock file.content)

/-- `_run_sync_helper`. -/
def runSyncHelper : Prog Unit := do
  Y.call .runtimeError .helper
  modify fun d => { d with loaded := d.conf.map File.content }

/-- `sync_from_db`; returns `peers_synced`. -/
def syncFromDb (S : Settings) (routers : List Router) : Prog Nat := do
  let peers ← selectPeers Y routers
  let block ← readBlock Y S
  writeAtomic Y (renderConfig block peers)
  runSyncHelper Y
  pure peers.length

/-! ## What each call does -/

variable {Y}

/-- The mode behind a `chown`, which may be refused. -/
def System.keptMode (Y : System) (mode : Nat) : Nat :=
  match Y.faults .chown with
  | none => Y.chowned mode
  | some _ => mode

theorem System.keptMode_rwx (mode : Nat) : Y.keptMode mode % 0o1000 = mode % 0o1000 := by
  unfold keptMode
  split
  · exact Y.chowned_rwx mode
  · rfl

/-- The disk as `Wireguard/Sync.lean` has it, between two syncs. -/
def Disk.host (d : Disk) : Host := ⟨d.conf, none, d.loaded⟩

@[spec] theorem call_spec (mk : Stored → SyncError) (c : SyncCall) (d₀ : Disk) :
    ⦃fun d => ⌜d = d₀⌝⦄ Y.call mk c
    ⦃post⟨fun _ d => ⌜Y.faults c = none ∧ d = d₀⌝,
      fun e d => ⌜(∃ f, Y.faults c = some f ∧ e = ⟨mk f.message, f.permission⟩) ∧ d = d₀⌝⟩⦄ := by
  mvcgen [System.call] with simp_all

@[spec] theorem write_spec (n : Nat) (content : Text) (d₀ : Disk) :
    ⦃fun d => ⌜d = d₀⌝⦄ write Y n content
    ⦃post⟨fun _ d => ⌜Y.faults .write = none ∧
        d = d₀.onTemp n fun file => { file with content := content }⌝,
      fun e d => ⌜(∃ f, Y.faults .write = some f ∧ e = ⟨.osError f.message, f.permission⟩) ∧
        d = d₀.onTemp n fun file => { file with content := Y.torn content }⌝⟩⦄ := by
  mvcgen [write] with simp_all +zetaDelta

@[spec] theorem chownIfAllowed_spec (n : Nat) (d₀ : Disk) :
    ⦃fun d => ⌜d = d₀⌝⦄ chownIfAllowed Y n
    ⦃post⟨fun _ d => ⌜Y.faults.chown = .ok () ∧
        d = d₀.onTemp n fun file => { file with mode := Y.keptMode file.mode }⌝,
      fun e d => ⌜Y.faults.chown = .error e.error ∧ d = d₀⌝⟩⦄ := by
  mvcgen [chownIfAllowed, chown]
  case vc1 => simp_all +zetaDelta [Faults.chown, System.keptMode]
  case vc2 hs e hp s h =>
    -- a refused `chown` leaves the mode `chmod` set
    obtain ⟨⟨f, hf, rfl⟩, rfl⟩ := h
    have hkept : ∀ mode, Y.keptMode mode = mode := fun mode => by rw [System.keptMode, hf]
    refine ⟨by simp_all [Faults.chown], ?_⟩
    rw [Disk.onTemp_self fun file => by rw [hkept], hs]
  case vc3 hs e hp s h =>
    obtain ⟨⟨f, hf, rfl⟩, rfl⟩ := h
    exact ⟨by simp_all [Faults.chown], hs⟩

@[spec] theorem fillTemp_spec {n : Nat} {d₀ : Disk} (hn : d₀.Fresh n) (file : File)
    (content : Text) (mode : Nat) :
    ⦃fun d => ⌜d = d₀.holding n file⌝⦄ fillTemp Y n content mode
    ⦃post⟨fun _ d => ⌜CpeCloud.fillTemp Y.faults = .ok () ∧
        d = { d₀ with conf := some ⟨content, Y.keptMode (mode % 0o10000)⟩ }⌝,
      fun e d => ⌜CpeCloud.fillTemp Y.faults = .error e.error ∧
        ∃ file, d = d₀.holding n file⌝⟩⦄ := by
  mvcgen [fillTemp, chmod, replace] with
    simp_all +zetaDelta [Disk.onTemp_holding hn, Disk.renamed_holding hn, CpeCloud.fillTemp,
      Faults.call, bind, Except.bind]

/-- The write: all of it, or nothing at all. -/
@[spec] theorem writeAtomic_spec (content : Text) (d₀ : Disk) :
    ⦃fun d => ⌜d = d₀⌝⦄ writeAtomic Y content
    ⦃post⟨fun _ d => ⌜∃ old, d₀.conf = some old ∧
        CpeCloud.writeAtomic Y.faults d₀.host content =
          (.ok (), { d₀.host with conf := some ⟨content, old.mode % 0o10000⟩ }) ∧
        d = { d₀ with conf := some ⟨content, Y.keptMode (old.mode % 0o10000)⟩ }⌝,
      fun e d => ⌜CpeCloud.writeAtomic Y.faults d₀.host content = (.error e.error, d₀.host) ∧
        d = d₀⌝⟩⦄ := by
  mvcgen [writeAtomic, stat, mkstemp, unlink]
  case vc2.hn => exact Y.name_fresh _
  case vc4 hs _ _ _ _ hstat _ d₁ hm _ _ _ _ h _ =>
    obtain ⟨hfill, file, rfl⟩ := h
    have hgone := Disk.unlinked_holding (d := d₁) (Y.name_fresh _) file
    simp_all +zetaDelta [CpeCloud.writeAtomic, Faults.call, bind, Except.bind, Disk.host]
  all_goals
    simp_all +zetaDelta [CpeCloud.writeAtomic, Faults.call, bind, Except.bind, Disk.host]

/-! ## All or nothing -/

/-- The file a sync puts in the place of `old`. -/
def System.newConf (Y : System) (routers : List Router) (old : File) : File :=
  ⟨renderConfig (readInterfaceBlock old.content) (fetchActivePeers routers),
    Y.keptMode (old.mode % 0o10000)⟩

/-- A sync that raises, as `CpeCloud.syncFromDb` does: the file is the old one or, where only the
helper failed, the new one. -/
def Failed (Y : System) (S : Settings) (routers : List Router) (before : Disk) (e : Raised)
    (after : Disk) : Prop :=
  (before.conf = none ∨ ¬ Y.faults.Replaces) ∧ after = before ∧
      CpeCloud.syncFromDb S Y.faults routers before.host = (.error e.error, before.host) ∨
    Y.faults.Replaces ∧ Y.faults .helper ≠ none ∧ ∃ old, before.conf = some old ∧
      after = { before with conf := some (Y.newConf routers old) } ∧
      CpeCloud.syncFromDb S Y.faults routers before.host = (.error e.error, { before.host with
        conf := some ⟨(Y.newConf routers old).content, old.mode % 0o10000⟩ })

/-- A sync that returns. -/
def Synced (Y : System) (routers : List Router) (before : Disk) (n : Nat) (after : Disk) : Prop :=
  n = (fetchActivePeers routers).length ∧ Y.faults.Harmless ∧ ∃ old, before.conf = some old ∧
    after = { before with
      conf := some (Y.newConf routers old)
      loaded := some (Y.newConf routers old).content }

theorem syncFromDb_spec (S : Settings) (routers : List Router) (d₀ : Disk) :
    ⦃fun d => ⌜d = d₀⌝⦄ syncFromDb Y S routers
    ⦃post⟨fun n d => ⌜Synced Y routers d₀ n d⌝, fun e d => ⌜Failed Y S routers d₀ e d⌝⟩⦄ := by
  mvcgen [syncFromDb, selectPeers, readBlock, runSyncHelper]
  case vc1 => simp_all [Failed, CpeCloud.syncFromDb, Faults.call, Disk.host]
  case vc2 hs _ d₁ h₁ file hf _ d₂ h₂ _ d₃ h₃ _ d₄ h₄ _ =>
    obtain ⟨hselect, rfl⟩ := h₁
    obtain ⟨hread, rfl⟩ := h₂
    obtain rfl := hs
    obtain ⟨old, hold, hwrite, rfl⟩ := h₃
    obtain ⟨hhelper, rfl⟩ := h₄
    obtain rfl := Option.some.inj (hf.symm.trans hold)
    have hconf : d₂.host.conf = some file := hf
    have hr : Y.faults.Replaces := (Faults.replaces_iff hconf _).mpr
      ⟨hselect, hread, congrArg Prod.fst hwrite⟩
    exact ⟨rfl, Faults.harmless_iff.mpr ⟨hr, hhelper⟩, file, hf, rfl⟩
  case vc3 hs _ d₁ h₁ file hf _ d₂ h₂ _ d₃ h₃ e d₄ =>
    -- the helper fails
    rintro ⟨f, hhelper, rfl⟩ rfl
    obtain ⟨hselect, rfl⟩ := h₁
    obtain ⟨hread, rfl⟩ := h₂
    obtain rfl := hs
    obtain ⟨old, hold, hwrite, rfl⟩ := h₃
    obtain rfl := Option.some.inj (hf.symm.trans hold)
    have hconf : d₂.host.conf = some file := hf
    have hr : Y.faults.Replaces := (Faults.replaces_iff hconf _).mpr
      ⟨hselect, hread, congrArg Prod.fst hwrite⟩
    refine Or.inr ⟨hr, by simp [hhelper], file, hf, rfl, ?_⟩
    simp [CpeCloud.syncFromDb, CpeCloud.runSyncHelper, Faults.call, hselect, hread, hhelper,
      hwrite, hconf, System.newConf]
  case vc4 hs _ d₁ h₁ file hf _ d₂ h₂ e d₃ =>
    -- the write fails
    rintro hwrite rfl
    obtain ⟨hselect, rfl⟩ := h₁
    obtain ⟨hread, rfl⟩ := h₂
    obtain rfl := hs
    have hconf : d₃.host.conf = some file := hf
    refine Or.inl ⟨Or.inr fun hr => ?_, rfl, ?_⟩
    · obtain ⟨-, -, hok⟩ := (Faults.replaces_iff hconf
        (renderConfig (readInterfaceBlock file.content) (fetchActivePeers routers))).mp hr
      rw [hwrite] at hok
      cases hok
    · simp [CpeCloud.syncFromDb, Faults.call, hselect, hread, hwrite, hconf]
  case vc5 hs _ d₁ h₁ file hf e d₂ =>
    -- the read fails
    rintro ⟨f, hread, rfl⟩ rfl
    obtain ⟨hselect, rfl⟩ := h₁
    obtain rfl := hs
    have hconf : d₂.host.conf = some file := hf
    refine Or.inl ⟨Or.inr fun hr => ?_, rfl, ?_⟩
    · exact Option.some_ne_none f (hread.symm.trans hr.2.1)
    · simp [CpeCloud.syncFromDb, Faults.call, hselect, hread, hconf]
  case vc6 hs e d₁ =>
    -- the `SELECT` fails
    rintro ⟨f, hselect, rfl⟩ rfl
    obtain rfl := hs
    refine Or.inl ⟨Or.inr fun hr => ?_, rfl, ?_⟩
    · exact Option.some_ne_none f (hselect.symm.trans hr.1)
    · simp [CpeCloud.syncFromDb, Faults.call, hselect]

/-- A triple holds of the run. -/
theorem run_of_triple {α : Type} {x : Prog α} {Q : α → Disk → Prop} {E : Raised → Disk → Prop}
    {d₀ : Disk}
    (h : ⦃fun d => ⌜d = d₀⌝⦄ x ⦃post⟨fun a d => ⌜Q a d⌝, fun e d => ⌜E e d⌝⟩⦄) :
    (∃ a d, x.run.run d₀ = (.ok a, d) ∧ Q a d) ∨ ∃ e d, x.run.run d₀ = (.error e, d) ∧ E e d := by
  have hd := h d₀ rfl
  simp only [wp, PredTrans.apply_pushExcept, PredTrans.apply_pushArg] at hd
  rcases hx : x.run.run d₀ with ⟨e | a, d⟩
  · rw [hx] at hd
    exact Or.inr ⟨e, d, rfl, hd⟩
  · rw [hx] at hd
    exact Or.inl ⟨a, d, rfl, hd⟩

/-- What `sync_from_db` makes of the disk `before`, whatever fails. -/
structure AllOrNothing (Y : System) (routers : List Router) (before : Disk)
    (result : Except Raised Nat) (after : Disk) : Prop where
  /-- No temporary file remains. -/
  temps : after.temps = before.temps
  kept : before.conf = none ∨ ¬ Y.faults.Replaces → after.conf = before.conf
  replaced : ∀ old, before.conf = some old → Y.faults.Replaces → ∃ new, after.conf = some new ∧
    new.content = renderConfig (readInterfaceBlock old.content) (fetchActivePeers routers) ∧
    new.mode % 0o1000 = old.mode % 0o1000
  raises : (∃ e, result = .error e) ↔ before.conf = none ∨ ¬ Y.faults.Harmless

theorem System.newConf_rwx (routers : List Router) (old : File) :
    (Y.newConf routers old).mode % 0o1000 = old.mode % 0o1000 := by
  rw [newConf, keptMode_rwx, Nat.mod_mod_of_dvd _ (by decide)]

/-- The file of a sync that got past the rename. -/
theorem allOrNothing_replaced {routers : List Router} {before after : Disk} {old : File}
    {result : Except Raised Nat} (hr : Y.faults.Replaces) (hold : before.conf = some old)
    (htemps : after.temps = before.temps) (hconf : after.conf = some (Y.newConf routers old))
    (hraises : (∃ e, result = .error e) ↔ Y.faults .helper ≠ none) :
    AllOrNothing Y routers before result after where
  temps := htemps
  kept := by simp [hold, hr]
  replaced old' h _ := by
    obtain rfl := Option.some.inj (hold.symm.trans h)
    exact ⟨_, hconf, rfl, System.newConf_rwx routers old⟩
  raises := by simp [hraises, hold, Faults.harmless_iff, hr]

/-- **A sync replaces `wg0.conf` as a whole or not at all.** -/
theorem syncFromDb_allOrNothing (Y : System) (S : Settings) (routers : List Router) (d : Disk) :
    AllOrNothing Y routers d ((syncFromDb Y S routers).run.run d).1
      ((syncFromDb Y S routers).run.run d).2 := by
  rcases run_of_triple (syncFromDb_spec S routers d) with
    ⟨n, d', hrun, -, hφ, old, hold, rfl⟩ |
    ⟨e, d', hrun, ⟨hno, rfl, -⟩ | ⟨hr, hhelper, old, hold, rfl, -⟩⟩
  · obtain ⟨hr, hhelper⟩ := Faults.harmless_iff.mp hφ
    rw [hrun]
    exact allOrNothing_replaced hr hold rfl rfl (by simp [hhelper])
  · rw [hrun]
    refine ⟨rfl, fun _ => rfl, fun old hold hr => ?_, ?_⟩
    · simp [hold, hr] at hno
    · rw [Faults.harmless_iff]
      simp only [Except.error.injEq, exists_eq', true_iff]
      tauto
  · rw [hrun]
    exact allOrNothing_replaced hr hold rfl rfl (by simp [hhelper])

/-- A system that keeps every mode, and what of a text a failing write had written. -/
def System.plain (φ : Faults) : System where
  faults := φ
  name used := used.sum + 1
  name_fresh used h := by
    have := List.le_sum_of_mem h
    omega
  torn content := content
  chowned mode := mode
  chowned_rwx _ := rfl

/-- A `PermissionError` of the rename is no `PermissionError` of `chown`. -/
example :
    let φ : Faults := fun c => if c = .replace then some ⟨true, ⟨[], by decide⟩⟩ else none
    let d : Disk := ⟨some ⟨['a'], 0o640⟩, [(1, ⟨['b'], 0o600⟩)], none⟩
    (writeAtomic (System.plain φ) ['c']).run.run d =
      (.error ⟨.osError ⟨[], by decide⟩, true⟩, d) := rfl

/-! ## The model of `Wireguard/Sync.lean` -/

/-- A file without the bits `chown` may take away. -/
def rwx (file : File) : File := { file with mode := file.mode % 0o1000 }

/-- **The program refines `CpeCloud.syncFromDb`**: same result, same texts, same permissions. -/
theorem syncFromDb_refines (Y : System) (S : Settings) (routers : List Router) (d : Disk) :
    let (result, after) := (syncFromDb Y S routers).run.run d
    let (result', host) := CpeCloud.syncFromDb S Y.faults routers d.host
    result.mapError Raised.error = result' ∧ after.conf.map rwx = host.conf.map rwx ∧
      after.loaded = host.loaded ∧ host.temp = none := by
  rcases run_of_triple (syncFromDb_spec S routers d) with
    ⟨n, d', hrun, rfl, hφ, old, hold, rfl⟩ |
    ⟨e, d', hrun, ⟨hno, rfl, hcoarse⟩ | ⟨hr, hhelper, old, hold, rfl, hcoarse⟩⟩
  · have hrwx := System.newConf_rwx (Y := Y) routers old
    rw [hrun, syncFromDb_harmless S hφ routers (h := d.host) hold]
    refine ⟨rfl, ?_, rfl, rfl⟩
    simpa [Host.synced, rwx, System.newConf] using hrwx
  · rw [hrun, hcoarse]
    exact ⟨rfl, rfl, rfl, rfl⟩
  · have hrwx := System.newConf_rwx (Y := Y) routers old
    rw [hrun, hcoarse]
    refine ⟨rfl, ?_, rfl, rfl⟩
    simp [rwx, hrwx]

end CpeCloud.Atomic
