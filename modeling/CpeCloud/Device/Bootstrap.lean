import CpeCloud.AutoEnroll.Import
import CpeCloud.Device.Body
import CpeCloud.Factory.Installer
import CpeCloud.Lib.Prog

/-!
# The scripts on a router (`shelf-flash.rsc.j2`, `factory-installer.rsc.j2`)

At the bench a router is flashed with a script that installs `cpe-cloud-first-boot` and a scheduler
that runs it. That one downloads an installer, which installs `cpe-cloud-enroll` and its scheduler,
and stands down once they are there. `cpe-cloud-enroll` posts the router's values, imports the
answer, and does nothing any more once the marker file is there.

The scripts are programs on a `Site`: the router's configuration and files, and the network behind
its uplink, of any type. A `Platform` says what RouterOS, the device and the network do. A script,
the one of a flash included, runs to its end, or the power fails behind one of its commands; two
scripts never run at once.

Left out: delays and log lines, and the properties of the interface `wg-cpe-cloud` but its key.
-/

namespace CpeCloud

open Tables (Edit)

/-! ## Programs -/

/-- The values in the source of `cpe-cloud-first-boot`. -/
structure FirstBootValues where
  serverFqdn : Text
  fetchToken : Text
  deriving DecidableEq

/-- Where the installer is downloaded. -/
def FirstBootValues.url (v : FirstBootValues) : Text :=
  "https://".toList ++ v.serverFqdn ++ "/factory/self-enroll.rsc?t=".toList ++ v.fetchToken

/-- The values in the source of `cpe-cloud-enroll`. -/
structure EnrollValues where
  provisioningSecret : Text
  enrollmentUrl : Text
  serverFqdn : Text
  deriving DecidableEq

/-- The values in the source that an installer adds. -/
def InstallerContext.values (ctx : InstallerContext) : EnrollValues :=
  ⟨ctx.provisioningSecret, ctx.enrollmentUrl, ctx.serverFqdn⟩

/-- A source that one of the two templates rendered. -/
inductive Program where
  | firstBoot (v : FirstBootValues)
  | enroll (v : EnrollValues)
  deriving DecidableEq

/-- A character that means nothing to RouterOS. -/
def isWord (c : Char) : Bool := c.isAlphanum || c ∈ "-._~:/".toList

/-- The values of a program. -/
def Program.texts : Program → List Text
  | .firstBoot v => [v.serverFqdn, v.fetchToken]
  | .enroll v => [v.provisioningSecret, v.enrollmentUrl, v.serverFqdn]

/-- The values are words. -/
def Program.Plain (p : Program) : Prop := ∀ t ∈ p.texts, t.all isWord = true

instance (p : Program) : Decidable p.Plain := by
  unfold Program.Plain
  infer_instance

/-- RouterOS, with what it makes of the sources of scripts. -/
structure Firmware extends RouterOs where
  /-- The block between the braces of `source`, rendered. -/
  source : Program → Text
  /-- What a source is read as, if it is one of the two. -/
  program : Text → Option Program
  program_source : ∀ p : Program, p.Plain → program (source p) = some p

/-! ## The router -/

/-- What is looked up on the device; a lookup that fails is `none`. -/
structure Hardware where
  /-- `/system routerboard get serial-number`. -/
  serial : Option Text
  model : Option Text
  /-- The MAC address of `ether1`. -/
  mac : Option Text
  rosVersion : Text
  /-- There is a menu `/interface wifi`. -/
  wifi : Bool
  /-- The public key of the pair that is made for `wg-cpe-cloud`. -/
  key : Text

/-- What the scripts change on a router. -/
structure Cpe where
  identity : Text
  /-- The interfaces with a DHCP client. -/
  dhcpClients : List Text
  /-- The public key of `wg-cpe-cloud`, if there is such an interface. -/
  wgKey : Option Text
  config : Config
  /-- `cpe-cloud-installer.rsc`. -/
  installerFile : Option InstallerContext
  /-- `cpe-cloud-provision.rsc`. -/
  provisionFile : Option ProvisionContext

/-- What the network does, and what it is behind that. -/
structure Uplink (ε : Type) where
  /-- `:resolve`. -/
  resolve : Text → ε → ε × Bool
  /-- `/tool fetch url=…`: what is downloaded, if the answer is a 200. -/
  get : Text → ε → ε × Option InstallerContext
  /-- `/tool fetch http-method=post`, with a secret and a body. -/
  post : Text → Text → Text → ε → ε × Option ProvisionContext

/-- A router and its network. -/
structure Site (ε : Type) where
  cpe : Cpe
  net : ε

/-- What the scripts run on. -/
structure Platform (ε : Type) where
  firmware : Firmware
  rendering : Rendering
  hardware : Hardware
  uplink : Uplink ε

/-! ## Commands -/

/-- The records of a menu under a name. -/
def Config.named (κ : Config) (menu : Menu) (name : String) : List Record :=
  (κ.records menu).filter (Record.has "name" name.toList)

section Commands

variable {ε : Type}

/-- A command on the router. -/
def onCpe (f : Cpe → Cpe) : Prog (Site ε) Unit :=
  .command fun s => ({ s with cpe := f s.cpe }, some ())

/-- A command on its configuration. -/
def edit (e : Edit Menu Record) : Prog (Site ε) Unit :=
  onCpe fun c => { c with config := c.config.edit e }

/-- A request. -/
def request {α : Type} (f : ε → ε × Option α) : Prog (Site ε) α :=
  .command fun s => ({ s with net := (f s.net).1 }, (f s.net).2)

/-- `:do { … } on-error={ …; :set abort true }`: the flag `abort`. -/
def aborted (p handler : Prog (Site ε) Unit) : Prog (Site ε) Bool :=
  .onError (do p; pure false) (do handler; pure true)

/-- The lines of a file, one after the other, up to one that fails. -/
def runLines : List ScriptEffect → Prog (Site ε) Unit
  | [] => pure ()
  | f :: fs => do
    .command fun s => ({ s with cpe := { s.cpe with config := (f s.cpe.config).1 } },
      if (f s.cpe.config).2 then some () else none)
    runLines fs

/-- A file that does not parse is not run. -/
def importLines : Option (List ScriptEffect) → Prog (Site ε) Unit
  | none => .fail
  | some fs => runLines fs

end Commands

/-! ## `cpe-cloud-enroll` -/

def enrollName : String := "cpe-cloud-enroll"

def firstBootName : String := "cpe-cloud-first-boot"

/-- The program in the script of this name. -/
def Firmware.scriptAt (F : Firmware) (name : String) (κ : Config) : Option Program :=
  ((κ.named .systemScript name).head?.bind (List.lookup "source")).bind F.program

/-- `/system script run cpe-cloud-enroll` finds the script. -/
def Firmware.enrollAt (F : Firmware) (κ : Config) : Option EnrollValues :=
  match F.scriptAt enrollName κ with
  | some (.enroll v) => some v
  | _ => none

/-- `/system script run cpe-cloud-first-boot` finds the script. -/
def Firmware.firstBootAt (F : Firmware) (κ : Config) : Option FirstBootValues :=
  match F.scriptAt firstBootName κ with
  | some (.firstBoot v) => some v
  | _ => none

/-- The values a router enrolls with. A lookup that is not guarded fails the script. -/
def Hardware.enrollFields (H : Hardware) (c : Cpe) : Option EnrollFields := do
  let routerPublicKey ← c.wgKey
  let mac ← H.mac
  some {
    serial := H.serial.getD []
    mac := mac
    model := H.model.getD []
    identity := c.identity
    rosVersion := H.rosVersion
    wifiStack := if H.wifi then "wifi".toList else "wireless".toList
    routerPublicKey := routerPublicKey }

/-- `hAP <model> - Shelf, <serial>`. -/
def Hardware.shelfName (H : Hardware) : Text :=
  "hAP ".toList ++ H.model.getD [] ++ " - Shelf, ".toList ++ H.serial.getD []

namespace Platform

variable {ε : Type} (B : Platform ε)

/-- `:resolve`, up to so many times. -/
def probe (fqdn : Text) : Nat → Prog (Site ε) Bool
  | 0 => pure false
  | n + 1 => do
    let ready ← request fun ω => ((B.uplink.resolve fqdn ω).1, some (B.uplink.resolve fqdn ω).2)
    if ready then pure true else probe fqdn n

/-- The interface `wg-cpe-cloud` is added if it is missing. -/
def ensureInterface : Prog (Site ε) Unit := do
  let missing ← .query fun s => some s.cpe.wgKey.isNone
  if missing then onCpe fun c => { c with wgKey := some B.hardware.key } else pure ()

/-- The answer to the enrollment, written to a file. -/
def fetchProvision (v : EnrollValues) (f : EnrollFields) : Prog (Site ε) Unit := do
  let answer ← request (B.uplink.post v.enrollmentUrl v.provisioningSecret f.payload)
  onCpe fun c => { c with provisionFile := some answer }

/-- `/import cpe-cloud-provision.rsc`. -/
def importProvision : Prog (Site ε) Unit := do
  let answer ← .query fun s => s.cpe.provisionFile
  importLines ((provisionScript B.rendering answer).mapM B.firmware.effect)

/-- `:do { /file remove cpe-cloud-provision.rsc } on-error={}`. -/
def removeProvision : Prog (Site ε) Unit :=
  .attempt (onCpe fun c => { c with provisionFile := none })

/-- The source of `cpe-cloud-enroll`. -/
def enroll (v : EnrollValues) : Prog (Site ε) Unit := do
  let enrolled ← .query fun s => some s.cpe.config.marker
  .exitIf enrolled
  let ready ← B.probe v.serverFqdn 60
  .exitIf !ready
  B.ensureInterface
  let f ← .query fun s => B.hardware.enrollFields s.cpe
  let abort ← aborted (B.fetchProvision v f) (pure ())
  .exitIf abort
  -- The two imports are the template's.
  let abort ← aborted (do B.importProvision; B.importProvision) removeProvision
  .exitIf abort
  removeProvision

/-- `/system script run cpe-cloud-enroll`. -/
def runEnroll : Prog (Site ε) Unit := do
  let v ← .query fun s => B.firmware.enrollAt s.cpe.config
  .call (B.enroll v)

/-! ## The installer -/

/-- The record of the script. -/
def enrollScript (ctx : InstallerContext) : Record := [
  ("name", enrollName.toList),
  ("policy", "read,write,policy,test,password,sensitive,romon".toList),
  ("comment", "CPE Cloud self-enrollment (installed ".toList ++
    B.rendering.isoformat ctx.generatedAt ++ ")".toList),
  ("source", B.firmware.source (.enroll ctx.values))]

/-- The record of its scheduler. -/
def enrollScheduler : Record := [
  ("name", enrollName.toList),
  ("start-time", "startup".toList),
  ("interval", "10m".toList),
  ("on-event", "/system script run cpe-cloud-enroll".toList),
  ("policy", "read,write,policy,test,password,sensitive,romon".toList),
  ("comment", "CPE Cloud self-enrollment retry loop".toList)]

/-- `factory-installer.rsc.j2`. -/
def installer (ctx : InstallerContext) : Prog (Site ε) Unit := do
  .attempt (edit (removeFind .systemScheduler "name" enrollName))
  .attempt (edit (removeFind .systemScript "name" enrollName))
  edit (.append .systemScript (B.enrollScript ctx))
  edit (.append .systemScheduler enrollScheduler)
  .attempt B.runEnroll

/-! ## `cpe-cloud-first-boot` -/

/-- The installer, written to a file. -/
def fetchInstaller (v : FirstBootValues) : Prog (Site ε) Unit := do
  let answer ← request (B.uplink.get v.url)
  onCpe fun c => { c with installerFile := some answer }

/-- `/import cpe-cloud-installer.rsc`. -/
def importInstaller : Prog (Site ε) Unit := do
  let answer ← .query fun s => s.cpe.installerFile
  B.installer answer

/-- `:do { /file remove cpe-cloud-installer.rsc } on-error={}`. -/
def removeInstaller : Prog (Site ε) Unit :=
  .attempt (onCpe fun c => { c with installerFile := none })

/-- `cpe-cloud-first-boot` is removed, if its task is done. -/
def standDown (done : Bool) : Prog (Site ε) Unit :=
  if done then do
    .attempt (edit (removeFind .systemScheduler "name" firstBootName))
    .attempt (edit (removeFind .systemScript "name" firstBootName))
  else pure ()

/-- The source of `cpe-cloud-first-boot`. -/
def firstBoot (v : FirstBootValues) : Prog (Site ε) Unit := do
  let installed ← .query fun s => some !(s.cpe.config.named .systemScript enrollName).isEmpty
  standDown installed
  .exitIf installed
  let ready ← B.probe v.serverFqdn 1
  .exitIf !ready
  let abort ← aborted (B.fetchInstaller v) (pure ())
  .exitIf abort
  let abort ← aborted B.importInstaller removeInstaller
  .exitIf abort
  removeInstaller

/-- `/system script run cpe-cloud-first-boot`. -/
def runFirstBoot : Prog (Site ε) Unit := do
  let v ← .query fun s => B.firmware.firstBootAt s.cpe.config
  .call (B.firstBoot v)

/-! ## The shelf-flash script -/

/-- What the shelf-flash script is rendered with, comments apart. Values that are not words are out
of scope. -/
structure FlashValues where
  serverFqdn : Text
  fetchToken : Text
  uplinkInterface : Text
  generatedAt : Text
  words : (Program.firstBoot ⟨serverFqdn, fetchToken⟩).Plain

/-- The values of the script that a flash installs. -/
def FlashValues.values (v : FlashValues) : FirstBootValues := ⟨v.serverFqdn, v.fetchToken⟩

/-- The record of the script. -/
def firstBootScript (v : FlashValues) : Record := [
  ("name", firstBootName.toList),
  ("policy", "read,write,policy,test,password,sensitive,romon".toList),
  ("comment", "CPE Cloud shelf-flash bootstrap (installed ".toList ++ v.generatedAt ++
    ")".toList),
  ("source", B.firmware.source (.firstBoot v.values))]

/-- The record of its scheduler. -/
def firstBootScheduler : Record := [
  ("name", firstBootName.toList),
  ("start-time", "startup".toList),
  ("interval", "5m".toList),
  ("on-event", "/system script run cpe-cloud-first-boot".toList),
  ("policy", "read,write,policy,test,password,sensitive,romon".toList),
  ("comment", "CPE Cloud first-boot retry loop".toList)]

/-- The name of a router on the shelf, where its model and serial can be looked up. -/
def nameShelf : Prog (Site ε) Unit :=
  if 0 < (B.hardware.model.getD []).length ∧ 0 < (B.hardware.serial.getD []).length then
    onCpe fun c => { c with identity := B.hardware.shelfName }
  else pure ()

/-- A DHCP client on the uplink, if it has none. -/
def ensureDhcpClient (interface : Text) : Prog (Site ε) Unit := do
  let missing ← .query fun s => some !(s.cpe.dhcpClients.contains interface)
  if missing then onCpe fun c => { c with dhcpClients := c.dhcpClients ++ [interface] }
  else pure ()

/-- `shelf-flash.rsc.j2`. -/
def shelfFlash (v : FlashValues) : Prog (Site ε) Unit := do
  B.nameShelf
  ensureDhcpClient v.uplinkInterface
  .attempt (edit (removeFind .systemScheduler "name" firstBootName))
  .attempt (edit (removeFind .systemScript "name" firstBootName))
  edit (.append .systemScript (B.firstBootScript v))
  edit (.append .systemScheduler firstBootScheduler)
  .attempt B.runFirstBoot

end Platform

/-! ## What happens to a router -/

/-- The two schedulers. -/
inductive Boot where
  | firstBoot
  | enroll
  deriving Repr, DecidableEq

/-- The name of a scheduler and of the script that it runs. -/
def Boot.name : Boot → String
  | .firstBoot => firstBootName
  | .enroll => enrollName

/-- There is such a scheduler. -/
def Config.scheduled (κ : Config) (b : Boot) : Bool :=
  !(κ.named .systemScheduler b.name).isEmpty

/-- What happens to a router: it is flashed, or a scheduler runs its script. Either runs to its end,
or the power fails behind so many commands. -/
inductive Happening where
  | flash (v : Platform.FlashValues) (cut : Option Nat)
  | tick (b : Boot) (cut : Option Nat)

/-- Where the power fails, if it does. -/
def Happening.cut : Happening → Option Nat
  | .flash _ cut => cut
  | .tick _ cut => cut

namespace Platform

variable {ε : Type} (B : Platform ε)

/-- The script that a scheduler runs. -/
def onEvent : Boot → Prog (Site ε) Unit
  | .firstBoot => B.runFirstBoot
  | .enroll => B.runEnroll

/-- The script that runs when something happens. -/
def script : Happening → Prog (Site ε) Unit
  | .flash v _ => B.shelfFlash v
  | .tick b _ => B.onEvent b

/-- A program, perhaps cut off. -/
def played (p : Prog (Site ε) Unit) (cut : Option Nat) (s : Site ε) : Site ε :=
  cut.elim (p.final s) fun n => p.cut n s

/-- The state behind a happening. -/
def step (s : Site ε) : Happening → Option (Site ε)
  | .flash v cut => some (played (B.shelfFlash v) cut s)
  | .tick b cut =>
    if s.cpe.config.scheduled b then some (played (B.onEvent b) cut s) else none

/-- No cut leaves a configuration with `K`. -/
def NoCut (K : Config → Prop) (s : Site ε) (a : Happening) : Prop :=
  a.cut ≠ none → ¬ K (played (B.script a) a.cut s).cpe.config

end Platform

section Steps

variable {ε : Type} {B : Platform ε} {s s' : Site ε} {a : Happening}

theorem step_flash (v : Platform.FlashValues) (cut : Option Nat) :
    B.step s (.flash v cut) = some (Platform.played (B.shelfFlash v) cut s) := rfl

theorem step_tick {b : Boot} (h : s.cpe.config.scheduled b = true) (cut : Option Nat) :
    B.step s (.tick b cut) = some (Platform.played (B.onEvent b) cut s) := if_pos h

/-- What a step does. -/
theorem step_played (h : B.step s a = some s') : s' = Platform.played (B.script a) a.cut s := by
  cases a with
  | flash v cut => exact (Option.some.inj h).symm
  | tick b cut => exact (Option.some.inj (Option.ite_none_right_eq_some.mp h).2).symm

/-- The scheduler of a tick is there. -/
theorem step_scheduled {b : Boot} {cut : Option Nat} (h : B.step s (.tick b cut) = some s') :
    s.cpe.config.scheduled b = true :=
  (Option.ite_none_right_eq_some.mp h).1

/-- What a program may be cut off in, and what it ends in. -/
theorem Platform.played_spec {P C R : Site ε → Prop} {p : Prog (Site ε) Unit}
    (h : Prog.Spec P p C fun _ => R) (hs : P s) (hC : C s) (cut : Option Nat) :
    (cut = none ∧ R (Platform.played p cut s)) ∨ (cut ≠ none ∧ C (Platform.played p cut s)) := by
  cases cut with
  | none => exact Or.inl ⟨rfl, (h s hs).2⟩
  | some n => exact Or.inr ⟨Option.some_ne_none n, h.cut hs hC n⟩

theorem Platform.NoCut.of_uncut {K : Config → Prop} (h : a.cut = none) : B.NoCut K s a :=
  fun hcut => absurd h hcut

end Steps

/-! ## Plain values -/

/-- Text without a quote, a backslash or a control character. -/
def IsPlainText (t : Text) : Prop := t.all Json.isPlain = true

instance : DecidablePred IsPlainText :=
  fun t => inferInstanceAs (Decidable (t.all Json.isPlain = true))

/-- What is looked up on the device is plain. -/
structure Hardware.Plain (H : Hardware) : Prop where
  serial : ∀ t ∈ H.serial, IsPlainText t
  model : ∀ t ∈ H.model, IsPlainText t
  mac : ∀ t ∈ H.mac, IsPlainText t
  rosVersion : IsPlainText H.rosVersion
  key : IsPlainText H.key

/-- The name of the router and the key of its interface are plain. -/
def Cpe.Plain (c : Cpe) : Prop := IsPlainText c.identity ∧ ∀ key ∈ c.wgKey, IsPlainText key

namespace Hardware

variable {H : Hardware} {c : Cpe} {f : EnrollFields}

/-- The values that such a router with this hardware posts. -/
def Sends (H : Hardware) (f : EnrollFields) : Prop :=
  ∃ c : Cpe, c.Plain ∧ H.enrollFields c = some f

theorem enrollFields_key (h : H.enrollFields c = some f) : c.wgKey = some f.routerPublicKey := by
  simp only [enrollFields, bind, Option.bind_eq_some_iff, Option.some.injEq] at h
  obtain ⟨key, hkey, mac, -, rfl⟩ := h
  exact hkey

theorem plain_getD {o : Option Text} (h : ∀ t ∈ o, IsPlainText t) : IsPlainText (o.getD []) := by
  cases o with
  | none => rfl
  | some t => exact h t rfl

/-- The name on the shelf is plain. -/
theorem Plain.shelfName (h : H.Plain) : IsPlainText H.shelfName := by
  have hall {a b : Text} (ha : IsPlainText a) (hb : IsPlainText b) : IsPlainText (a ++ b) := by
    unfold IsPlainText at ha hb ⊢
    rw [List.all_append, ha, hb]
    rfl
  have htag : IsPlainText "hAP ".toList ∧ IsPlainText " - Shelf, ".toList := by decide
  exact hall (hall (hall htag.1 (plain_getD h.model)) htag.2) (plain_getD h.serial)

/-- What is posted is plain, and has the serial of the device. -/
theorem Sends.plain (hf : H.Sends f) (h : H.Plain) : f.Plain ∧ f.serial = H.serial.getD [] := by
  obtain ⟨c, hc, hf⟩ := hf
  simp only [enrollFields, bind, Option.bind_eq_some_iff, Option.some.injEq] at hf
  obtain ⟨key, hkey, mac, hmac, rfl⟩ := hf
  have hstack : IsPlainText (if H.wifi then "wifi".toList else "wireless".toList) := by
    split <;> decide
  refine ⟨fun t ht => ?_, rfl⟩
  simp only [EnrollFields.texts, List.mem_cons, List.not_mem_nil, or_false] at ht
  rcases ht with rfl | rfl | rfl | rfl | rfl | rfl | rfl
  · exact plain_getD h.serial
  · exact h.mac _ hmac
  · exact plain_getD h.model
  · exact hc.1
  · exact h.rosVersion
  · exact hstack
  · exact hc.2 _ hkey

end Hardware

/-! ## A small router -/

/-- The name of the script and its values, each on a line. -/
def Program.lines (p : Program) : List Text :=
  match p with
  | .firstBoot _ => firstBootName.toList :: p.texts
  | .enroll _ => enrollName.toList :: p.texts

/-- Lines that say a program. -/
def Program.ofLines : List Text → Option Program
  | [name, fqdn, token, _] =>
    if name = firstBootName.toList then some (.firstBoot ⟨fqdn, token⟩) else none
  | [name, secret, url, fqdn, _] =>
    if name = enrollName.toList then some (.enroll ⟨secret, url, fqdn⟩) else none
  | _ => none

theorem Program.Plain.lines {p : Program} (h : p.Plain) : ∀ l ∈ p.lines, '\n' ∉ l := by
  have hword {t : Text} (ht : t ∈ p.texts) : '\n' ∉ t := fun hm => by
    have := List.all_eq_true.mp (h t ht) _ hm
    revert this
    decide
  cases p with
  | _ =>
    intro l hl
    rcases List.mem_cons.mp hl with rfl | hl
    · decide
    · exact hword hl

/-- A RouterOS on which the sources are these lines. -/
def smallFirmware : Firmware where
  toRouterOs := smallRouterOs
  source p := Text.unlines p.lines
  program t := Program.ofLines (Text.lines t)
  program_source p h := by
    rw [Text.lines_unlines h.lines]
    cases p <;> rfl

/-- Unit A, with a key for its interface. -/
def smallHardware : Hardware where
  serial := some unitA.serial
  model := some unitA.model
  mac := some unitA.mac
  rosVersion := unitA.rosVersion
  wifi := false
  key := unitA.routerPublicKey

/-- As it comes from the factory. -/
def smallCpe : Cpe where
  identity := "MikroTik".toList
  dhcpClients := []
  wgKey := none
  config := bareConfig
  installerFile := none
  provisionFile := none

/-- The installer that is downloaded. -/
def smallInstaller : InstallerContext where
  provisioningSecret := smallDeployment.provisioningSecretCurrent
  enrollmentUrl := smallDeployment.enrollmentUrl
  serverFqdn := smallDeployment.serverFqdn
  generatedAt := 0
  tokenLabel := "bench-2".toList

/-- What unit A is answered. -/
def smallProvision : ProvisionContext :=
  (autoEnroll smallDeployment smallWorld
    (smallCall unitA "tok-A-first-enrollment" 0)).1.script.get (by decide +kernel)

/-- How many requests there have been, and how many of them were POSTs. -/
structure SmallNet where
  requests : Nat
  posts : Nat
  deriving DecidableEq

/-- A network that is not up at the first request, and that answers the next ones. -/
def smallUplink : Uplink SmallNet where
  resolve _ n := ({ n with requests := n.requests + 1 }, decide (0 < n.requests))
  get _ n := ({ n with requests := n.requests + 1 }, some smallInstaller)
  post _ _ _ n := (⟨n.requests + 1, n.posts + 1⟩, some smallProvision)

def smallPlatform : Platform SmallNet :=
  ⟨smallFirmware, smallRendering, smallHardware, smallUplink⟩

/-- Unit A before anything has happened. -/
def smallSite : Site SmallNet := ⟨smallCpe, ⟨0, 0⟩⟩

/-- The script it is flashed with. -/
def smallFlash : Platform.FlashValues :=
  ⟨smallDeployment.serverFqdn, "bench-token-of-the-shelf".toList, "ether1".toList,
    "2026-05-04T10:20:30+00:00".toList, by decide⟩

end CpeCloud
