import CpeCloud.AutoEnroll.Injection
import CpeCloud.Lib.Tables
import CpeCloud.Telemetry.Points
import CpeCloud.Telemetry.Push

/-!
# The provisioning script on a router (`provision.rsc.j2`)

The answer to an enrollment is a script that the router imports, twice. Menu by menu it removes the
records that a `find` selects and adds its own, and at the end it writes a marker file. Its header
is comment lines, and the router's name stands in one of them as it is.

What the template's commands do is said here (`provisionEdits`). What RouterOS makes of the lines
that a name adds to the script is a parameter (`RouterOs`).

* `importScript_provision`: what an import does.
* `covers_provision`: a script deletes whatever another one leaves.
* **`provision_absorbs_iff`**: among routers with names from a set, later imports absorb earlier
  ones and leave all other records alone iff the lines that these names spill are `Harmless`.
* `provision_absorbs`: names of one line, and names with blank lines and comments behind the first.

Out of scope: names whose lines leave a quote or a brace open, values from the settings that are
not single words, and the telemetry scripts, whose texts are parameters (`Rendering`).
-/

namespace CpeCloud

open Text
open Tables (Edit)

/-! ## The configuration -/

/-- The menus the script works in. -/
inductive Menu where
  | ipAddress
  | ipRoute
  | wireguardPeers
  | firewallFilter
  | systemScript
  | systemScheduler
  deriving Repr, DecidableEq

/-- The properties of a record, as `add` sets them. -/
abbrev Record := List (String × Text)

/-- The record is found by `key=value`. -/
def Record.has (key : String) (value : Text) (r : Record) : Bool := r.lookup key == some value

/-- A router's configuration. -/
structure Config where
  records : Tables Menu Record
  /-- There is a file `cpe-cloud-enrolled.flag`. -/
  marker : Bool

/-! ## The template -/

/-- A statement of a script. -/
inductive Stmt where
  /-- A comment, as rendered: its text may go on over further lines. -/
  | comment (text : Text)
  | edit (e : Edit Menu Record)
  /-- `/file print file=cpe-cloud-enrolled.flag`. -/
  | mark

/-- What the template writes of a value that is given apart. -/
structure Rendering where
  /-- `datetime.isoformat(timespec="seconds")`. -/
  isoformat : Timestamp → Text
  isoformat_line : ∀ t, '\n' ∉ isoformat t
  /-- `telemetry-wifi.rsc.j2`, rendered. -/
  telemetryWifi : ProvisionContext → Text
  /-- `telemetry-wireless.rsc.j2`, rendered. -/
  telemetryWireless : ProvisionContext → Text

/-- `{{ router.wg_overlay_ip }}`. -/
def Router.overlayText (r : Router) : Text := r.wgOverlayIp.elim "None".toList IPv4.dotted

/-- `:do { menu remove [find key=value] } on-error={}`. -/
def removeFind (menu : Menu) (key : String) (value : String) : Edit Menu Record :=
  .delete menu (Record.has key value.toList)

section Template

variable (V : Rendering) (c : ProvisionContext)

/-- The source of the telemetry script. -/
def telemetrySource : Text :=
  "\n".toList ++ (if c.router.wifiStack = some .wifi then V.telemetryWifi c
    else V.telemetryWireless c) ++ "\n    ".toList

/-- What the script removes and adds, in the template's order. -/
def provisionEdits : List (Edit Menu Record) := [
  removeFind .ipAddress "interface" "wg-cpe-cloud",
  .append .ipAddress [
    ("address", c.router.overlayText ++ "/32".toList),
    ("interface", "wg-cpe-cloud".toList),
    ("comment", "cpe-cloud overlay".toList)],
  removeFind .ipRoute "comment" "cpe-cloud-overlay",
  .append .ipRoute [
    ("dst-address", c.overlayCidr),
    ("gateway", "wg-cpe-cloud".toList),
    ("comment", "cpe-cloud-overlay".toList)],
  removeFind .wireguardPeers "interface" "wg-cpe-cloud",
  .append .wireguardPeers [
    ("interface", "wg-cpe-cloud".toList),
    ("public-key", c.serverPublicKey),
    ("endpoint-address", c.serverEndpoint),
    ("endpoint-port", decimal c.serverPort),
    ("allowed-address", c.overlayCidr),
    ("persistent-keepalive", "25s".toList),
    ("comment", "cpe-cloud server".toList)],
  -- Filters of earlier versions of the template, which are only removed.
  removeFind .firewallFilter "comment" "cpe-cloud-wg-accept",
  removeFind .firewallFilter "comment" "cpe-cloud-wg-drop-other",
  removeFind .systemScript "name" "cpe-cloud-telemetry",
  .append .systemScript [
    ("name", "cpe-cloud-telemetry".toList),
    ("policy", "read,test,policy".toList),
    ("comment", "CPE Cloud telemetry push (installed ".toList ++ V.isoformat c.generatedAt ++
      ")".toList),
    ("source", telemetrySource V c)],
  removeFind .systemScheduler "name" "cpe-cloud-telemetry",
  .append .systemScheduler [
    ("name", "cpe-cloud-telemetry".toList),
    ("interval", "5m".toList),
    ("start-time", "startup".toList),
    ("on-event", "/system script run cpe-cloud-telemetry".toList),
    ("policy", "read,test,policy".toList),
    ("comment", "CPE Cloud telemetry push".toList)]]

/-- `provision.rsc.j2`, but for comments without a value, `:delay` and `:log`. -/
def provisionScript : List Stmt := [
  .comment ("# Generated: ".toList ++ V.isoformat c.generatedAt),
  .comment ("# router_id: ".toList ++ decimal c.router.id ++ "   identity: ".toList ++
    c.router.identity),
  .comment ("# overlay:   ".toList ++ c.router.overlayText ++ "/32   status: ".toList ++
    c.router.status.str.toList)] ++ (provisionEdits V c).map .edit ++ [.mark]

end Template

/-! ## RouterOS -/

/-- The line is blank or a comment. -/
def isComment (l : Text) : Bool :=
  match l.dropWhile (· = ' ') with
  | [] => true
  | c :: _ => c = '#'

/-- What commands do to a configuration, and whether the import goes on behind them. -/
abbrev ScriptEffect := Config → Config × Bool

/-- Commands that do not stop it. -/
def goesOn (f : Config → Config) : ScriptEffect := fun κ => (f κ, true)

/-- RouterOS on lines of a script that are not the template's. -/
structure RouterOs where
  /-- What the lines do, up to a command that fails; `none` where they do not parse. -/
  lines : List Text → Option ScriptEffect
  lines_nil : lines [] = some (goesOn id)
  lines_comment : ∀ l ls, isComment l = true → lines (l :: ls) = lines ls

/-- What an edit does to a configuration. -/
def Config.edit (e : Edit Menu Record) (κ : Config) : Config :=
  { κ with records := e.apply κ.records }

/-- `/file print file=cpe-cloud-enrolled.flag`. -/
def Config.mark (κ : Config) : Config := { κ with marker := true }

/-- One after the other, up to one that fails. -/
def runEffects : List ScriptEffect → ScriptEffect
  | [], κ => (κ, true)
  | f :: fs, κ => if (f κ).2 then runEffects fs (f κ).1 else f κ

namespace RouterOs

variable (R : RouterOs)

/-- What a statement does. -/
def effect : Stmt → Option ScriptEffect
  | .comment text => R.lines (Text.lines text)
  | .edit e => some (goesOn (Config.edit e))
  | .mark => some (goesOn Config.mark)

/-- `/import`: a script that does not parse is not run, and the import fails. -/
def importScript (script : List Stmt) : ScriptEffect :=
  match script.mapM R.effect with
  | none => fun κ => (κ, false)
  | some fs => runEffects fs

/-- `cpe-cloud-enroll`: the response is imported twice, unless the first import fails. -/
def importResponse (script : List Stmt) : ScriptEffect :=
  runEffects [R.importScript script, R.importScript script]

end RouterOs

/-! ## What an import does -/

/-- The lines that the router's name adds to the script. -/
def ProvisionContext.spilled (c : ProvisionContext) : List Text := (lines c.router.identity).tail

/-- The configuration behind the template's commands. -/
def provisioned (V : Rendering) (c : ProvisionContext) (κ : Config) : Config :=
  ⟨Tables.run (provisionEdits V c) κ.records, true⟩

/-- Commands none of which fails. -/
theorem runEffects_goesOn (fs : List (Config → Config)) (κ : Config) :
    runEffects (fs.map goesOn) κ = (fs.foldl (fun κ f => f κ) κ, true) := by
  induction fs generalizing κ with
  | nil => rfl
  | cons f fs ih => exact ih (f κ)

theorem foldl_edit (es : List (Edit Menu Record)) (κ : Config) :
    (es.map Config.edit).foldl (fun κ f => f κ) κ =
      { κ with records := Tables.run es κ.records } := by
  induction es generalizing κ with
  | nil => rfl
  | cons e es ih =>
    rw [List.map_cons, List.foldl_cons, ih]
    rfl

theorem mapM_edit (R : RouterOs) (es : List (Edit Menu Record)) :
    (es.map Stmt.edit).mapM R.effect = some (es.map fun e => goesOn (Config.edit e)) := by
  induction es with
  | nil => rfl
  | cons e es ih => simp [List.mapM_cons, ih, RouterOs.effect]

/-- A header line without a newline in its value is a comment. -/
theorem effect_header (R : RouterOs) {t : Text} (hnl : '\n' ∉ t) :
    R.effect (.comment ('#' :: t)) = some (goesOn id) := by
  have hline : '\n' ∉ '#' :: t := by simpa using hnl
  rw [RouterOs.effect, lines_eq_singleton hline, R.lines_comment _ _ (by rfl), R.lines_nil]

/-- A header line of which the last value may have several lines. -/
theorem effect_header_append (R : RouterOs) {t : Text} (hnl : '\n' ∉ t) (s : Text) :
    R.effect (.comment ('#' :: t ++ s)) = R.lines (lines s).tail := by
  have hline : '\n' ∉ '#' :: t := by simpa using hnl
  obtain ⟨l, hl⟩ := exists_lines_append s hline
  rw [RouterOs.effect, hl, R.lines_comment _ _ (by rfl)]

theorem not_mem_decimal (n : Nat) : '\n' ∉ decimal n := fun h => by
  have hdigit := Nat.isDigit_of_mem_toDigits (by decide) (by decide) h
  simp at hdigit

theorem not_mem_overlayText (r : Router) : '\n' ∉ r.overlayText := by
  unfold Router.overlayText
  cases r.wgOverlayIp with
  | none => decide
  | some a =>
    intro h
    rcases IPv4.mem_dotted h with hdigit | hdot
    · simp at hdigit
    · simp at hdot

theorem not_mem_status (s : RouterStatus) : '\n' ∉ s.str.toList := by
  cases s <;> decide

/-- What the template's commands do, one after the other. -/
def templateSteps (V : Rendering) (c : ProvisionContext) : List (Config → Config) :=
  (provisionEdits V c).map Config.edit ++ [Config.mark]

theorem foldl_templateSteps (V : Rendering) (c : ProvisionContext) (κ : Config) :
    (templateSteps V c).foldl (fun κ f => f κ) κ = provisioned V c κ := by
  rw [templateSteps, List.foldl_append, foldl_edit]
  rfl

/-- The script parses if the lines do that the name adds. -/
theorem mapM_provision (R : RouterOs) (V : Rendering) (c : ProvisionContext) :
    (provisionScript V c).mapM R.effect = (R.lines c.spilled).map fun f =>
      [goesOn id, f, goesOn id] ++ (templateSteps V c).map goesOn := by
  have hgenerated : R.effect (.comment ("# Generated: ".toList ++ V.isoformat c.generatedAt)) =
      some (goesOn id) := by
    refine effect_header R (t := " Generated: ".toList ++ V.isoformat c.generatedAt) ?_
    simp [V.isoformat_line]
  have hidentity : R.effect (.comment ("# router_id: ".toList ++ decimal c.router.id ++
      "   identity: ".toList ++ c.router.identity)) = R.lines c.spilled := by
    refine effect_header_append R
      (t := " router_id: ".toList ++ decimal c.router.id ++ "   identity: ".toList) ?_ _
    simp [not_mem_decimal]
  have hoverlay : R.effect (.comment ("# overlay:   ".toList ++ c.router.overlayText ++
      "/32   status: ".toList ++ c.router.status.str.toList)) = some (goesOn id) := by
    refine effect_header R (t := " overlay:   ".toList ++ c.router.overlayText ++
      "/32   status: ".toList ++ c.router.status.str.toList) ?_
    simp [not_mem_overlayText, not_mem_status]
  unfold provisionScript
  simp only [List.mapM_append, List.mapM_cons, List.mapM_nil, hgenerated, hidentity, hoverlay,
    mapM_edit]
  cases R.lines c.spilled with
  | none => rfl
  | some f => simp [templateSteps, RouterOs.effect, Function.comp_def]

/-- **An import** runs the lines that the name adds, and if these do not fail, the template's
commands behind them. -/
theorem importScript_provision {R : RouterOs} {c : ProvisionContext} {f : ScriptEffect}
    (hf : R.lines c.spilled = some f) (V : Rendering) (κ : Config) :
    R.importScript (provisionScript V c) κ =
      if (f κ).2 then (provisioned V c (f κ).1, true) else f κ := by
  have hsteps (κ : Config) : runEffects (goesOn id :: (templateSteps V c).map goesOn) κ =
      (provisioned V c κ, true) := by
    rw [← List.map_cons, runEffects_goesOn, List.foldl_cons, foldl_templateSteps]
    rfl
  rw [RouterOs.importScript, mapM_provision, hf]
  have hfirst (fs : List ScriptEffect) : runEffects (goesOn id :: fs) κ = runEffects fs κ := rfl
  simp only [Option.map_some, List.cons_append, List.nil_append]
  rw [hfirst, runEffects, hsteps]

/-- A script that does not parse leaves everything as it is. -/
theorem importScript_of_none {R : RouterOs} {c : ProvisionContext}
    (hf : R.lines c.spilled = none) (V : Rendering) (κ : Config) :
    R.importScript (provisionScript V c) κ = (κ, false) := by
  rw [RouterOs.importScript, mapM_provision, hf]
  rfl

/-! ## What the script selects -/

/-- The records that the template's `find`s select. -/
def selected : Menu → Record → Bool
  | .ipAddress, r => r.has "interface" "wg-cpe-cloud".toList
  | .ipRoute, r => r.has "comment" "cpe-cloud-overlay".toList
  | .wireguardPeers, r => r.has "interface" "wg-cpe-cloud".toList
  | .firewallFilter, r =>
    r.has "comment" "cpe-cloud-wg-accept".toList || r.has "comment" "cpe-cloud-wg-drop-other".toList
  | .systemScript, r => r.has "name" "cpe-cloud-telemetry".toList
  | .systemScheduler, r => r.has "name" "cpe-cloud-telemetry".toList

/-- The records that no `find` selects. -/
def Config.foreign (κ : Config) : Tables Menu Record :=
  fun menu => (κ.records menu).filter fun r => !selected menu r

/-- No rendered value is part of a `find`. -/
theorem selects_provisionEdits (V : Rendering) (c : ProvisionContext) :
    Tables.selects (provisionEdits V c) = selected := by
  funext menu r
  cases menu <;> simp [Tables.selects, provisionEdits, removeFind, Edit.selects, selected]

theorem unselected_provisionEdits (V : Rendering) (c : ProvisionContext) (κ : Config) :
    Tables.unselected (provisionEdits V c) κ.records = κ.foreign := by
  unfold Tables.unselected Config.foreign
  rw [selects_provisionEdits]

/-- **A script deletes whatever another one leaves**, in each menu. -/
theorem covers_provision (V : Rendering) (c₁ c₂ : ProvisionContext) :
    Tables.Covers (provisionEdits V c₂) (provisionEdits V c₁) where
  selects menu r h := by rwa [selects_provisionEdits] at h ⊢
  left menu r hr := by
    rw [selects_provisionEdits]
    cases menu with
    | firewallFilter => simp [provisionEdits, removeFind, Tables.left] at hr
    | _ =>
      simp [provisionEdits, removeFind, Tables.left, Tables.selects, Edit.selects] at hr
      subst hr
      rfl

theorem foreign_provisioned (V : Rendering) (c : ProvisionContext) (κ : Config) :
    (provisioned V c κ).foreign = κ.foreign := by
  rw [← unselected_provisionEdits V c, ← unselected_provisionEdits V c]
  exact Tables.unselected_run (covers_provision V c c) κ.records

/-- What a script leaves depends on the other records only. -/
theorem provisioned_congr (V : Rendering) (c : ProvisionContext) {κ κ' : Config}
    (h : κ.foreign = κ'.foreign) : provisioned V c κ = provisioned V c κ' := by
  rw [← unselected_provisionEdits V c, ← unselected_provisionEdits V c] at h
  rw [provisioned, provisioned, Tables.run_congr h]

/-! ## Absorption -/

/-- The import of the script for `c₂` absorbs that of the script for `c₁` before it, the import of
either response does what one import does, and the records that no `find` selects stay as they
are. -/
structure Absorbs (R : RouterOs) (V : Rendering) (c₁ c₂ : ProvisionContext) : Prop where
  absorb : ∀ κ, (R.importScript (provisionScript V c₂)
    (R.importScript (provisionScript V c₁) κ).1).1 = (R.importScript (provisionScript V c₂) κ).1
  again : ∀ c ∈ [c₁, c₂], ∀ κ, (R.importResponse (provisionScript V c) κ).1 =
    (R.importScript (provisionScript V c) κ).1
  untouched : ∀ c ∈ [c₁, c₂], ∀ κ,
    (R.importScript (provisionScript V c) κ).1.foreign = κ.foreign

/-- The lines that the name adds parse, leave the records alone that no `find` selects, and do not
go by the ones that a `find` selects: with the same other records, they fail in both cases, with
the same outcome, or in neither. -/
def Harmless (R : RouterOs) (c : ProvisionContext) : Prop :=
  ∃ f, R.lines c.spilled = some f ∧ (∀ κ, (f κ).1.foreign = κ.foreign) ∧
    ∀ κ κ', κ.foreign = κ'.foreign →
      (f κ).2 = (f κ').2 ∧ ((f κ).2 = false → (f κ).1 = (f κ').1)

/-- The name is one of these, or has one line. -/
def Named (names : Set Text) (c : ProvisionContext) : Prop :=
  c.router.identity ∈ names ∨ '\n' ∉ c.router.identity

section Absorption

variable {R : RouterOs} {V : Rendering} {c : ProvisionContext}

/-- An import leaves the other records as the spilled lines leave them. -/
theorem foreign_importScript {f : ScriptEffect} (hf : R.lines c.spilled = some f) (κ : Config) :
    (R.importScript (provisionScript V c) κ).1.foreign = (f κ).1.foreign := by
  rw [importScript_provision hf]
  split
  · exact foreign_provisioned V c _
  · rfl

theorem Harmless.untouched (h : Harmless R c) (κ : Config) :
    (R.importScript (provisionScript V c) κ).1.foreign = κ.foreign := by
  obtain ⟨f, hf, hforeign, -⟩ := h
  rw [foreign_importScript hf, hforeign]

/-- The import of such a script depends on the other records only. -/
theorem Harmless.congr (h : Harmless R c) {κ κ' : Config} (hκ : κ.foreign = κ'.foreign) :
    R.importScript (provisionScript V c) κ = R.importScript (provisionScript V c) κ' := by
  obtain ⟨f, hf, hforeign, hsame⟩ := h
  obtain ⟨hgo, hstop⟩ := hsame κ κ' hκ
  rw [importScript_provision hf, importScript_provision hf, ← hgo]
  split
  · rw [provisioned_congr V c (((hforeign κ).trans hκ).trans (hforeign κ').symm)]
  · rename_i hfalse
    exact Prod.ext (hstop (by simpa using hfalse)) hgo

theorem Harmless.again (h : Harmless R c) (κ : Config) :
    (R.importResponse (provisionScript V c) κ).1 =
      (R.importScript (provisionScript V c) κ).1 := by
  have hcongr := h.congr (V := V) (h.untouched (V := V) κ)
  simp only [RouterOs.importResponse, runEffects]
  split
  · rw [hcongr]
    split <;> rfl
  · rfl

/-- Harmless scripts absorb each other. -/
theorem absorbs_of_harmless {c₁ c₂ : ProvisionContext} (h₁ : Harmless R c₁)
    (h₂ : Harmless R c₂) : Absorbs R V c₁ c₂ where
  absorb κ := by rw [h₂.congr (h₁.untouched κ)]
  again := by
    simp only [List.forall_mem_cons, List.not_mem_nil, false_imp_iff, implies_true, and_true]
    exact ⟨h₁.again, h₂.again⟩
  untouched := by
    simp only [List.forall_mem_cons, List.not_mem_nil, false_imp_iff, implies_true, and_true]
    exact ⟨h₁.untouched, h₂.untouched⟩

/-! ## Names -/

theorem RouterOs.lines_comments (R : RouterOs) {ls : List Text}
    (h : ∀ l ∈ ls, isComment l = true) : R.lines ls = some (goesOn id) := by
  induction ls with
  | nil => exact R.lines_nil
  | cons l ls ih =>
    rw [R.lines_comment _ _ (h l List.mem_cons_self)]
    exact ih fun m hm => h m (List.mem_cons_of_mem l hm)

/-- The name has one line, or blank lines and comments behind its first. -/
def ProvisionContext.Quiet (c : ProvisionContext) : Prop := ∀ l ∈ c.spilled, isComment l = true

theorem quiet_of_not_mem (h : '\n' ∉ c.router.identity) : c.Quiet := by
  intro l hl
  rw [ProvisionContext.spilled, lines_eq_singleton h] at hl
  exact absurd hl List.not_mem_nil

/-- Such a name adds nothing to the script. -/
theorem ProvisionContext.Quiet.importScript (h : c.Quiet) (κ : Config) :
    R.importScript (provisionScript V c) κ = (provisioned V c κ, true) :=
  importScript_provision (R.lines_comments h) V κ

theorem ProvisionContext.Quiet.harmless (h : c.Quiet) : Harmless R c :=
  ⟨goesOn id, R.lines_comments h, fun _ => rfl, fun _ _ _ => ⟨rfl, fun _ => by contradiction⟩⟩

/-- **With such names** a later import absorbs an earlier one, on any router. -/
theorem provision_absorbs {c₁ c₂ : ProvisionContext} (h₁ : c₁.Quiet) (h₂ : c₂.Quiet) :
    Absorbs R V c₁ c₂ :=
  absorbs_of_harmless h₁.harmless h₂.harmless

/-! ## What absorption needs -/

/-- The same router, under another name and with another overlay. -/
def ProvisionContext.renamed (c : ProvisionContext) (name cidr : Text) : ProvisionContext :=
  { c with router := { c.router with identity := name }, overlayCidr := cidr }

/-- Scripts for two overlays leave two routes. -/
theorem provisioned_ne {c₁ c₂ : ProvisionContext} (h : c₁.overlayCidr ≠ c₂.overlayCidr)
    {κ κ' : Config} (hκ : κ.foreign = κ'.foreign) : provisioned V c₁ κ ≠ provisioned V c₂ κ' := by
  intro heq
  have hroute := congrFun (congrArg Config.records heq) .ipRoute
  simp only [provisioned, Tables.run_eq, unselected_provisionEdits, hκ] at hroute
  have hleft := List.append_cancel_left hroute
  simp [provisionEdits, removeFind, Tables.left, Tables.selects, Edit.selects] at hleft
  exact h hleft

/-- The same router under a name of one line. The import of its script, made earlier, takes the
managed records away. -/
def ProvisionContext.oneLine (c : ProvisionContext) : ProvisionContext :=
  c.renamed "CPE".toList c.overlayCidr

theorem not_mem_oneLine : '\n' ∉ c.oneLine.router.identity := show '\n' ∉ "CPE".toList by decide

theorem importScript_oneLine (κ : Config) :
    R.importScript (provisionScript V c.oneLine) κ = (provisioned V c.oneLine κ, true) :=
  (quiet_of_not_mem not_mem_oneLine).importScript κ

section Absorbing

variable (h : ∀ c₁ c₂, '\n' ∉ c₁.router.identity → c₂.router.identity = c.router.identity →
  Absorbs R V c₁ c₂)
include h

/-- What the scripts for a name leave depends on the other records only, if they absorb those of
routers with names of one line. -/
theorem importScript_congr (cidr : Text) {κ κ' : Config} (hκ : κ.foreign = κ'.foreign) :
    (R.importScript (provisionScript V (c.renamed c.router.identity cidr)) κ).1 =
      (R.importScript (provisionScript V (c.renamed c.router.identity cidr)) κ').1 := by
  have hold := (h c.oneLine (c.renamed c.router.identity cidr) not_mem_oneLine rfl).absorb
  rw [← hold κ, ← hold κ', importScript_oneLine, importScript_oneLine, provisioned_congr V c.oneLine hκ]

/-- Whether the lines of the name go on depends on the other records only: a script that stops at
them would have to leave what one that goes on leaves, for every overlay. -/
theorem goesOn_congr {f : ScriptEffect} (hf : R.lines c.spilled = some f) {κ κ' : Config}
    (hκ : κ.foreign = κ'.foreign) (hon : (f κ).2 = true) : (f κ').2 = true := by
  by_contra hoff
  have hleaves (cidr : Text) :
      provisioned V (c.renamed c.router.identity cidr) (f κ).1 = (f κ').1 := by
    have hsame := importScript_congr h cidr hκ
    rwa [importScript_provision (c := c.renamed c.router.identity cidr) hf,
      importScript_provision (c := c.renamed c.router.identity cidr) hf, if_pos hon,
      if_neg hoff] at hsame
  refine provisioned_ne (V := V) ?_ rfl
    ((hleaves "10.100.0.0/16".toList).trans (hleaves "10.101.0.0/16".toList).symm)
  show "10.100.0.0/16".toList ≠ "10.101.0.0/16".toList
  decide

/-- A script that absorbs those of routers with names of one line, for every overlay, is
harmless. -/
theorem harmless_of_absorbs : Harmless R c := by
  cases hf : R.lines c.spilled with
  | none =>
    -- It does nothing, and the earlier one leaves the marker.
    have hold := (h c.oneLine c not_mem_oneLine rfl).absorb ⟨fun _ => [], false⟩
    rw [importScript_of_none hf, importScript_of_none hf, importScript_oneLine] at hold
    exact absurd (congrArg Config.marker hold) (by simp [provisioned])
  | some f =>
    have hforeign (κ : Config) : (f κ).1.foreign = κ.foreign := by
      rw [← foreign_importScript (V := V) hf]
      exact (h c.oneLine c not_mem_oneLine rfl).untouched c (by simp) κ
    refine ⟨f, hf, hforeign, fun κ κ' hκ => ?_⟩
    have hgo : (f κ).2 = (f κ').2 :=
      Bool.eq_iff_iff.mpr ⟨goesOn_congr h hf hκ, goesOn_congr h hf hκ.symm⟩
    refine ⟨hgo, fun hoff => ?_⟩
    have hsame := importScript_congr h c.overlayCidr hκ
    rwa [importScript_provision (c := c.renamed c.router.identity c.overlayCidr) hf,
      importScript_provision (c := c.renamed c.router.identity c.overlayCidr) hf,
      if_neg (by simp [hoff]), if_neg (by simp [← hgo, hoff])] at hsame

end Absorbing

end Absorption

/-! ## A small router -/

/-- `/ip firewall filter add key=value …`. -/
def readFilterAdd (l : Text) : Option Record :=
  if "/ip firewall filter add ".toList.isPrefixOf l then
    some (((l.drop "/ip firewall filter add ".length).splitOn ' ').map fun word =>
      (String.ofList (word.takeWhile (· ≠ '=')), (word.dropWhile (· ≠ '=')).tail))
  else none

/-- A RouterOS that knows no command but this one. -/
def smallRouterOs : RouterOs where
  lines ls := ((ls.filter fun l => !isComment l).mapM readFilterAdd).map fun filters =>
    goesOn fun κ =>
      { κ with records := Tables.run (filters.map (.append .firewallFilter)) κ.records }
  lines_nil := rfl
  lines_comment l ls h := by simp [h]

def smallRendering : Rendering where
  isoformat _ := "2026-05-04T10:20:30+00:00".toList
  isoformat_line _ := by decide
  telemetryWifi _ := []
  telemetryWireless _ := []

/-- A configuration without a record. -/
def bareConfig : Config := ⟨fun _ => [], false⟩

/-- Unit B under a name of two lines. -/
def unitBSpilling : AutoEnrollRequest :=
  { unitB with
    identity := "CPE\n/ip firewall filter add chain=input action=accept".toList
    identity_len := by decide }

/-- The script of an answer. -/
def Outcome.script : Outcome → Option ProvisionContext
  | .response ⟨_, _, .provision c⟩ => some c
  | _ => none

/-- What unit B is answered. -/
def spillingContext : ProvisionContext :=
  (autoEnroll smallDeployment smallWorld
    (smallCall unitBSpilling "tok-B-second-enrollment" 0)).1.script.get (by decide +kernel)

end CpeCloud
