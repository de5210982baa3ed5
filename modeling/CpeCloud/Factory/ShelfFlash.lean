import CpeCloud.Lib.Sed

/-!
# The shelf-flash script (`scripts/render-shelf-flash.sh`)

The script renders `app/templates/rsc/shelf-flash.rsc.j2` with six substitutions of `sed`, made one
after another on every line, where the template language replaces all placeholders at once and reads
no value again. "Replacement strings are plain text, no backref metachars in play" is not checked.

* `Invocation.render`, `jinja`: the script, and the template language.
* **`agrees_iff`**: they print the same exactly where no value has a character that `sed` reads, and
  none has a later placeholder whose substitution changes it.
-/

namespace CpeCloud.ShelfFlash

open Template (Line bindings later lex substitute substituteAll)
open Text (unlines)

/-! ## The template -/

/-- The placeholders. -/
inductive Slot where
  | fetchToken
  | tokenLabel
  | uplinkInterface
  | serverFqdn
  | generatedAt
  | tokenExpiresAt
  deriving Repr, DecidableEq

/-- The variable of a placeholder. -/
def Slot.name : Slot → String
  | .fetchToken => "fetch_token"
  | .tokenLabel => "token_label"
  | .uplinkInterface => "uplink_interface"
  | .serverFqdn => "server_fqdn"
  | .generatedAt => "generated_at"
  | .tokenExpiresAt => "token_expires_at"

/-- A placeholder in the template. -/
def Slot.marker (i : Slot) : Text := "\x7b\x7b ".toList ++ i.name.toList ++ " \x7d\x7d".toList

/-- `shelf-flash.rsc.j2`. -/
def shelfFlash : List String := [
    "# -----------------------------------------------------------------------------",
    "# CPE Cloud shelf-flash script",
    "#",
    "# Flash this onto each router at bench-prep time. It embeds a long-lived",
    "# fetch token and installs a first-boot scheduler that retries enrollment",
    "# every 5 min until it succeeds, then removes itself.",
    "#",
    "# Rendered at \x7b\x7b generated_at \x7d\x7d for fetch-token \"\x7b\x7b token_label \x7d\x7d\".",
    "# Token expires: \x7b\x7b token_expires_at \x7d\x7d.",
    "#",
    "# Safe to re-run: every step is idempotent. If the router has already been",
    "# enrolled (cpe-cloud-enroll script present), the first-boot scheduler removes",
    "# itself on its next tick instead of fighting the running enroll loop.",
    "# -----------------------------------------------------------------------------",
    "",
    "# --- Identity: hAP <model> - Shelf, <serial> --------------------------------",
    "# Unique per device (serial is guaranteed unique by Mikrotik) and matches the",
    "# server's seeded auto-approve regex `^hAP .+ - .+, .+$`. The tech can rename",
    "# via WinBox after install if they want a friendlier customer-facing name.",
    ":local shelfModel \"\"",
    ":do \x7b :set shelfModel [/system routerboard get model] \x7d on-error=\x7b\x7d",
    ":local shelfSerial \"\"",
    ":do \x7b :set shelfSerial [/system routerboard get serial-number] \x7d on-error=\x7b\x7d",
    ":if ([:len $shelfModel] > 0 && [:len $shelfSerial] > 0) do=\x7b",
    "    /system identity set name=(\"hAP \" . $shelfModel . \" - Shelf, \" . $shelfSerial)",
    "\x7d",
    "",
    "# --- DHCP client on uplink (only if none exists) ----------------------------",
    "# Keep existing config if someone already set a static uplink during flash.",
    ":if ([:len [/ip dhcp-client find interface=\x7b\x7b uplink_interface \x7d\x7d]] = 0) do=\x7b",
    "    /ip dhcp-client add interface=\x7b\x7b uplink_interface \x7d\x7d disabled=no",
    "\x7d",
    "",
    "# --- Remove previous version, if any (idempotent re-flash) ------------------",
    ":do \x7b /system scheduler remove [find name=cpe-cloud-first-boot] \x7d on-error=\x7b\x7d",
    ":do \x7b /system script    remove [find name=cpe-cloud-first-boot] \x7d on-error=\x7b\x7d",
    "",
    "# --- First-boot enrollment script -------------------------------------------",
    "/system script add name=cpe-cloud-first-boot \\",
    "    policy=read,write,policy,test,password,sensitive,romon \\",
    "    comment=\"CPE Cloud shelf-flash bootstrap (installed \x7b\x7b generated_at \x7d\x7d)\" \\",
    "    source=\x7b",
    "        # If the factory-installer has already been imported (enrollment in",
    "        # progress or done), its cpe-cloud-enroll script takes over — we're",
    "        # obsolete, clean ourselves up.",
    "        :if ([:len [/system script find name=cpe-cloud-enroll]] > 0) do=\x7b",
    "            :do \x7b /system scheduler remove [find name=cpe-cloud-first-boot] \x7d on-error=\x7b\x7d",
    "            :do \x7b /system script    remove [find name=cpe-cloud-first-boot] \x7d on-error=\x7b\x7d",
    "            :return",
    "        \x7d",
    "",
    "        # Probe DNS / uplink before attempting fetch. :resolve throws on",
    "        # no-network so we swallow via on-error and bail quietly.",
    "        :local ready false",
    "        :do \x7b :resolve \x7b\x7b server_fqdn \x7d\x7d; :set ready true \x7d on-error=\x7b\x7d",
    "        :if ($ready = false) do=\x7b",
    "            :log info \"cpe-cloud shelf-flash: uplink not ready, will retry in 5m\"",
    "            :return",
    "        \x7d",
    "",
    "        # Fetch the per-session factory-installer, signed by the embedded token.",
    "        # NOTE: `dst-path` alone — combining `output=file` with `keep-result=yes`",
    "        # is rejected by RouterOS 7 with \"please use 'output' option\".",
    "        # NOTE: `:return` inside `on-error=\x7b\x7d` fails with \"missing value(s) of",
    "        # argument(s) value\" on RouterOS 7; use an abort flag instead.",
    "        :local abort false",
    "        :do \x7b",
    "            /tool fetch url=\"https://\x7b\x7b server_fqdn \x7d\x7d/factory/self-enroll.rsc?t=\x7b\x7b fetch_token \x7d\x7d\" \\",
    "                dst-path=cpe-cloud-installer.rsc \\",
    "                mode=https",
    "        \x7d on-error=\x7b",
    "            :log warning \"cpe-cloud shelf-flash: fetch failed, will retry in 5m\"",
    "            :set abort true",
    "        \x7d",
    "        :if ($abort) do=\x7b :return \x7d",
    "",
    "        :do \x7b",
    "            /import cpe-cloud-installer.rsc",
    "        \x7d on-error=\x7b",
    "            :log error \"cpe-cloud shelf-flash: /import of installer failed\"",
    "            :do \x7b /file remove cpe-cloud-installer.rsc \x7d on-error=\x7b\x7d",
    "            :set abort true",
    "        \x7d",
    "        :if ($abort) do=\x7b :return \x7d",
    "",
    "        :do \x7b /file remove cpe-cloud-installer.rsc \x7d on-error=\x7b\x7d",
    "        :log info \"cpe-cloud shelf-flash: installer imported; handoff to cpe-cloud-enroll\"",
    "    \x7d",
    "",
    "# --- Scheduler: run at boot + every 5 min until self-removal ----------------",
    "/system scheduler add name=cpe-cloud-first-boot \\",
    "    start-time=startup \\",
    "    interval=5m \\",
    "    on-event=\"/system script run cpe-cloud-first-boot\" \\",
    "    policy=read,write,policy,test,password,sensitive,romon \\",
    "    comment=\"CPE Cloud first-boot retry loop\"",
    "",
    "# --- Kick off once now (harmless if no uplink yet — script exits early) -----",
    ":do \x7b /system script run cpe-cloud-first-boot \x7d on-error=\x7b\x7d",
    "",
    "# --- End of shelf-flash script ----------------------------------------------"]

/-- Its lines. -/
def template : List Text := shelfFlash.map String.toList

/-- The placeholders, in the order of the script's substitutions. -/
def substitutions : List Slot :=
  [.fetchToken, .tokenLabel, .uplinkInterface, .serverFqdn, .generatedAt, .tokenExpiresAt]

/-- What the template language makes of the template. -/
def jinja (values : Slot → Text) : Text :=
  substitute (bindings Slot.marker values substitutions) (unlines template)

/-! ## The script -/

/-- A character of a date of `date -u +'%Y-%m-%dT%H:%M:%SZ'`. -/
def isDateChar (c : Char) : Bool := c.isDigit || c = '-' || c = ':' || c = 'T' || c = 'Z'

/-- What the script is called with: its arguments, empty where there are fewer, and what it finds. -/
structure Invocation where
  token : Text
  label : Text
  uplinkIf : Text
  tokenExpiresAt : Text
  /-- `SERVER_FQDN` of the deployed `.env`, empty where there is no such file to read. One without the
  line ends the script, under `set -euo pipefail`, and is left out. -/
  serverFqdn : Text
  generatedAt : Text
  /-- `${1:?…}`. -/
  token_ne : token ≠ []
  singleLine : ∀ t ∈ [token, label, uplinkIf, tokenExpiresAt, serverFqdn], '\n' ∉ t
  date : generatedAt.all isDateChar = true

/-- `${x:-default}`. -/
def orDefault (x : Text) (default : String) : Text := if x = [] then default.toList else x

/-- The variables of the script. -/
def Invocation.values (inv : Invocation) : Slot → Text
  | .fetchToken => inv.token
  | .tokenLabel => orDefault inv.label "shelf-flash batch"
  | .uplinkInterface => orDefault inv.uplinkIf "ether1"
  | .serverFqdn => orDefault inv.serverFqdn "mcc.bradfordbroadband.com"
  | .generatedAt => inv.generatedAt
  | .tokenExpiresAt => orDefault inv.tokenExpiresAt "see fetch-tokens list"

/-- `-e "s|{{ … }}|${…}|g"` for each placeholder. -/
def Invocation.scripts (inv : Invocation) : List Text :=
  substitutions.map fun i => Sed.script i.marker (inv.values i)

/-- What the script prints. -/
def Invocation.render (inv : Invocation) (sed : Sed) : Option Text :=
  (sed.run inv.scripts template).map unlines

/-! ## What the template is made of -/

/-- A line with its placeholders. -/
def lexed (l : Text) : Line Slot := lex Slot.marker substitutions l

/-- Where a placeholder starts. -/
def opener : Text := ['\x7b', '\x7b']

/-- Lines without a newline, and without a placeholder in their texts or across them. -/
def isNeat (ls : List Text) : Bool :=
  ls.all fun l => !l.contains '\n' && (lexed l).free opener &&
    substitutions.all fun i => (lexed l).clear i.marker

/-- The placeholders of the lines that have some. -/
def placement (ls : List Text) : List (List Slot) :=
  (ls.map fun l => (lexed l).slots).filter fun slots => !slots.isEmpty

theorem exists_spelled : ∃ ls, Text.Spelled shelfFlash ls ∧ isNeat ls = true ∧
    placement ls = [[.generatedAt, .tokenLabel], [.tokenExpiresAt], [.uplinkInterface],
      [.uplinkInterface], [.generatedAt], [.serverFqdn], [.serverFqdn, .fetchToken]] := by
  constructor
  constructor
  · repeat (first | exact .nil | (apply Text.Spelled.cons; exact rfl))
  · decide +kernel

theorem isNeat_template : isNeat template = true := by
  obtain ⟨ls, hls, hneat, -⟩ := exists_spelled
  rwa [template, hls.eq]

theorem placement_template : placement template =
    [[.generatedAt, .tokenLabel], [.tokenExpiresAt], [.uplinkInterface], [.uplinkInterface],
      [.generatedAt], [.serverFqdn], [.serverFqdn, .fetchToken]] := by
  obtain ⟨ls, hls, -, hplacement⟩ := exists_spelled
  rwa [template, hls.eq]

theorem mem_substitutions (i : Slot) : i ∈ substitutions := by cases i <;> decide

theorem distinct_marker : Template.Distinct Slot.marker := by
  have hinfix : ∀ i ∈ substitutions, ∀ j ∈ substitutions, i.marker <:+: j.marker → i = j := by
    decide +kernel
  exact ⟨fun i => by cases i <;> exact List.cons_ne_nil _ _,
    fun i j => hinfix i (mem_substitutions i) j (mem_substitutions j)⟩

theorem opener_isPrefix (i : Slot) : opener <+: i.marker := by cases i <;> decide

/-- No placeholder has a character of its own for `sed`. -/
theorem marker_literal (i : Slot) :
    '\n' ∉ i.marker ∧ '\\' ∉ i.marker ∧ '&' ∉ i.marker ∧
      ∀ c ∈ i.marker, c ≠ '|' ∧ Sed.isSpecial c = false := by
  have hall : ∀ i ∈ substitutions, ('\n' ∉ i.marker ∧ '\\' ∉ i.marker ∧ '&' ∉ i.marker) ∧
      i.marker.all (fun c => c != '|' && !Sed.isSpecial c) = true := by decide +kernel
  obtain ⟨⟨hnl, hslash, hamp⟩, hspecial⟩ := hall i (mem_substitutions i)
  refine ⟨hnl, hslash, hamp, fun c hc => ?_⟩
  simpa using List.all_eq_true.mp hspecial c hc

theorem not_mem_of_mem_template {l : Text} (hl : l ∈ template) : '\n' ∉ l := by
  have hneat := List.all_eq_true.mp isNeat_template l hl
  simp only [Bool.and_eq_true, Bool.not_eq_true', List.contains_eq_mem, decide_eq_false_iff_not]
    at hneat
  exact hneat.1.1

theorem neat_of_mem_template {l : Text} (hl : l ∈ template) :
    (lexed l).Neat opener (substitutions.map Slot.marker) := by
  have hneat := List.all_eq_true.mp isNeat_template l hl
  simp only [Bool.and_eq_true, List.all_eq_true] at hneat
  exact ⟨hneat.1.2, List.forall_mem_map.mpr fun i hi => ⟨opener_isPrefix i, hneat.2 i hi⟩⟩

/-- Lines that are filled alike have the same in every placeholder. -/
theorem eq_of_fill_template {w v : Slot → Text}
    (h : ∀ l ∈ template, (lexed l).fill w = (lexed l).fill v) (i : Slot) : w i = v i := by
  have hshown : ∀ {i : Slot} (front back : List Slot),
      front ++ i :: back ∈ placement template →
        (∀ j ∈ front, w j = v j) → (∀ j ∈ back, w j = v j) → w i = v i := by
    intro i front back hmem hfront hback
    obtain ⟨l, hl, hslots⟩ := List.mem_map.mp (List.mem_of_mem_filter hmem)
    exact Template.eq_of_fill_eq hslots (h l hl) hfront hback
  rw [placement_template] at hshown
  have hno : ∀ j ∈ ([] : List Slot), w j = v j := List.forall_mem_nil _
  have hgenerated : w .generatedAt = v .generatedAt := hshown [] [] (by decide) hno hno
  have hserver : w .serverFqdn = v .serverFqdn := hshown [] [] (by decide) hno hno
  cases i with
  | generatedAt => exact hgenerated
  | serverFqdn => exact hserver
  | tokenExpiresAt => exact hshown [] [] (by decide) hno hno
  | uplinkInterface => exact hshown [] [] (by decide) hno hno
  | tokenLabel =>
    exact hshown [.generatedAt] [] (by decide) (List.forall_mem_singleton.mpr hgenerated) hno
  | fetchToken =>
    exact hshown [.serverFqdn] [] (by decide) (List.forall_mem_singleton.mpr hserver) hno

/-! ## The two renderings -/

/-- What a value becomes under the substitutions behind its own. -/
def settled (read : Slot → Text) (i : Slot) : Text :=
  substituteAll Slot.marker read (later substitutions i) (read i)

theorem fill_lexed (l : Text) : (lexed l).fill Slot.marker = l :=
  Template.lex_fill distinct_marker.1 _ l

/-- One after another, the substitutions fill every line with what the values settle to. -/
theorem substituteAll_template (read : Slot → Text) {l : Text} (hl : l ∈ template) :
    substituteAll Slot.marker read substitutions l = (lexed l).fill (settled read) := by
  have hfill := @Template.substituteAll_fill _ _ read _ _ _ (neat_of_mem_template hl) Slot.marker
  rw [fill_lexed] at hfill
  rw [hfill]
  congr 1
  funext i
  exact Template.substituteAll_marker distinct_marker (mem_substitutions i)

/-- All at once, they fill it with the values. -/
theorem substitute_template (values : Slot → Text) {l : Text} (hl : l ∈ template) :
    substitute (bindings Slot.marker values substitutions) l = (lexed l).fill values := by
  have hneat : (lexed l).Neat opener ((bindings Slot.marker values substitutions).map Prod.fst) := by
    rw [bindings, List.map_map]
    exact neat_of_mem_template hl
  have hfill := Template.substitute_fill hneat Slot.marker
  rw [fill_lexed] at hfill
  rw [hfill]
  congr 1
  funext i
  exact Template.substitute_bindings distinct_marker (mem_substitutions i)

/-- The template language fills every line with the values. -/
theorem jinja_eq (values : Slot → Text) :
    jinja values = unlines (template.map fun l => (lexed l).fill values) := by
  have hmarkers : ∀ m ∈ bindings Slot.marker values substitutions, m.1 ≠ [] ∧ '\n' ∉ m.1 :=
    List.forall_mem_map.mpr fun i _ => ⟨distinct_marker.1 i, (marker_literal i).1⟩
  rw [jinja, Template.substitute_unlines hmarkers]
  exact congrArg unlines (List.map_congr_left fun l hl => substitute_template values hl)

section Render

variable {inv : Invocation} {read : Slot → Text}

/-- **Where `sed` reads every value, it fills every line** with what the values settle to. -/
theorem Invocation.render_of_read
    (h : ∀ i, Sed.Replacement i.marker (inv.values i) (read i)) (sed : Sed) :
    inv.render sed = some (unlines (template.map fun l => (lexed l).fill (settled read))) := by
  have hscripts : inv.scripts.map Sed.readCommand =
      (bindings Slot.marker read substitutions).map some := by
    rw [scripts, bindings, List.map_map, List.map_map]
    exact List.map_congr_left fun i _ => (Sed.readCommand_script (distinct_marker.1 i)
      (marker_literal i).2.2.2).mpr ⟨read i, rfl, h i⟩
  rw [render, sed.run_commands hscripts, Option.map_some]
  refine congrArg (fun ls => some (unlines ls)) (List.map_congr_left fun l hl => ?_)
  rw [Sed.applyAll_bindings, substituteAll_template read hl]

theorem Invocation.not_mem_values (inv : Invocation) (i : Slot) : '\n' ∉ inv.values i := by
  have hdefault : ∀ {x : Text} {default : String}, '\n' ∉ x → '\n' ∉ default.toList →
      '\n' ∉ orDefault x default := by
    intro x default hx hd
    unfold orDefault
    split
    · exact hd
    · exact hx
  have hline := inv.singleLine
  simp only [List.forall_mem_cons] at hline
  obtain ⟨htoken, hlabel, huplink, hexpires, hserver, -⟩ := hline
  cases i with
  | fetchToken => exact htoken
  | tokenLabel => exact hdefault hlabel (by decide)
  | uplinkInterface => exact hdefault huplink (by decide)
  | serverFqdn => exact hdefault hserver (by decide)
  | generatedAt => exact fun h => absurd (List.all_eq_true.mp inv.date _ h) (by decide)
  | tokenExpiresAt => exact hdefault hexpires (by decide)

/-- **If the script prints what the template language does, every value settles to itself.** -/
theorem Invocation.settled_of_render
    (h : ∀ i, Sed.Replacement i.marker (inv.values i) (read i)) {sed : Sed}
    (hrender : inv.render sed = some (jinja inv.values)) (i : Slot) :
    settled read i = inv.values i := by
  rw [inv.render_of_read h, jinja_eq, Option.some.injEq] at hrender
  have hread : ∀ j, '\n' ∉ read j := fun j =>
    (h j).not_mem_newline (marker_literal j).1
  have hsettled : ∀ l ∈ template, '\n' ∉ (lexed l).fill (settled read) := by
    intro l hl
    rw [← substituteAll_template read hl, ← List.count_eq_zero, Template.count_substituteAll]
    · exact List.count_eq_zero.mpr (not_mem_of_mem_template hl)
    · exact fun j _ => ⟨distinct_marker.1 j, (marker_literal j).1, hread j⟩
  have hvalues : ∀ l ∈ template, '\n' ∉ (lexed l).fill inv.values := by
    intro l hl
    rw [← substitute_template inv.values hl]
    refine Template.not_mem_substitute (List.forall_mem_map.mpr fun j _ => ?_)
      (not_mem_of_mem_template hl)
    exact ⟨distinct_marker.1 j, (marker_literal j).1, inv.not_mem_values j⟩
  have hlines := Text.unlines_injOn (List.forall_mem_map.mpr hsettled)
    (List.forall_mem_map.mpr hvalues) hrender
  exact eq_of_fill_template (List.map_inj_left.mp hlines) i

end Render

/-! ## Agreement -/

/-- Whatever `sed` it is, the script prints what the template language makes of the values. -/
def Invocation.Agrees (inv : Invocation) : Prop :=
  ∀ sed : Sed, inv.render sed = some (jinja inv.values)

/-- The values are plain, and the substitutions behind a value leave it as it is. -/
structure Invocation.Inert (inv : Invocation) : Prop where
  plain : ∀ i, Sed.IsPlain (inv.values i)
  settled : ∀ i, settled inv.values i = inv.values i

/-- A value without placeholders is left as it is. -/
theorem settled_eq_self {values : Slot → Text} {i : Slot}
    (h : ∀ j, ¬ Slot.marker j <:+: values i) : settled values i = values i :=
  Template.substituteAll_eq_self fun j _ => h j

theorem Invocation.exists_read {inv : Invocation} {out : Text}
    (h : inv.render Sed.strict = some out) :
    ∃ read : Slot → Text, ∀ i, Sed.Replacement i.marker (inv.values i) (read i) := by
  obtain ⟨ls, hls, -⟩ := Option.map_eq_some_iff.mp h
  obtain ⟨cmds, hcmds, -⟩ := Option.map_eq_some_iff.mp hls
  have hscripts := Sed.commands_eq_some.mp hcmds
  have hread : ∀ i, ∃ r, Sed.Replacement i.marker (inv.values i) r := by
    intro i
    have hmem : Sed.readCommand (Sed.script i.marker (inv.values i)) ∈ cmds.map some := by
      rw [← hscripts]
      exact List.mem_map_of_mem (List.mem_map_of_mem (mem_substitutions i))
    obtain ⟨c, -, hc⟩ := List.mem_map.mp hmem
    obtain ⟨r, -, hr⟩ := (Sed.readCommand_script (distinct_marker.1 i)
      (marker_literal i).2.2.2).mp hc.symm
    exact ⟨r, hr⟩
  exact ⟨fun i => (hread i).choose, fun i => (hread i).choose_spec⟩

theorem Invocation.Agrees.inert {inv : Invocation} (h : inv.Agrees) : inv.Inert := by
  obtain ⟨read, hread⟩ := inv.exists_read (h Sed.strict)
  have hsettled : ∀ i, ShelfFlash.settled read i = inv.values i :=
    inv.settled_of_render hread (h Sed.strict)
  have hmarker : ∀ j, Slot.marker j ≠ [] ∧ '\\' ∉ Slot.marker j ∧ '&' ∉ Slot.marker j :=
    fun j => ⟨distinct_marker.1 j, (marker_literal j).2.1, (marker_literal j).2.2.1⟩
  have hplain : ∀ i ∈ substitutions, Sed.IsPlain (inv.values i) :=
    Sed.plain_of_settled hmarker (by decide) (fun j _ => hread j) fun j _ => hsettled j
  have hsame : read = inv.values :=
    funext fun i => (hread i).eq_of_plain (hplain i (mem_substitutions i))
  subst hsame
  exact ⟨fun i => hplain i (mem_substitutions i), hsettled⟩

theorem Invocation.Inert.agrees {inv : Invocation} (h : inv.Inert) : inv.Agrees := by
  have hread : ∀ i, Sed.Replacement i.marker (inv.values i) (inv.values i) := fun i =>
    .of_plain (h.plain i) (inv.not_mem_values i)
  intro sed
  rw [inv.render_of_read hread, jinja_eq, show ShelfFlash.settled inv.values = inv.values from
    funext h.settled]

/-- **The script agrees with the template language** exactly on inert values. -/
theorem agrees_iff (inv : Invocation) : inv.Agrees ↔ inv.Inert :=
  ⟨Invocation.Agrees.inert, Invocation.Inert.agrees⟩

/-- Plain values are inert if no placeholder starts in them. -/
theorem Invocation.inert_of_plain {inv : Invocation} (hplain : ∀ i, Sed.IsPlain (inv.values i))
    (h : ∀ i, ¬ opener <:+: inv.values i) : inv.Inert :=
  ⟨hplain, fun i => settled_eq_self fun j hj => h i ((opener_isPrefix j).isInfix.trans hj)⟩

/-- The call of the script's own usage is inert. -/
example : Invocation.Inert {
    token := "q-Zr_81".toList
    label := "shelf-flash batch 2026".toList
    uplinkIf := "ether1".toList
    tokenExpiresAt := "2036-04-24T00:00:00Z".toList
    serverFqdn := []
    generatedAt := "2026-04-24T00:00:00Z".toList
    token_ne := by decide
    singleLine := by decide
    date := by decide } := by
  refine Invocation.inert_of_plain (fun i => ?_) fun i => ?_
  · cases i <;> decide
  · cases i <;> decide

/-- A batch with a label of two names. -/
def smith : Invocation where
  token := "q-Zr_81".toList
  label := "Smith & Sons".toList
  uplinkIf := []
  tokenExpiresAt := []
  serverFqdn := []
  generatedAt := "2026-04-24T00:00:00Z".toList
  token_ne := by decide
  singleLine := by decide
  date := by decide

/-- What `sed` reads of its values. -/
def smithRead (i : Slot) : Text :=
  if i = .tokenLabel then "Smith \x7b\x7b token_label \x7d\x7d Sons".toList else smith.values i

theorem smith_disagrees :
    ∃ out, (∀ sed : Sed, smith.render sed = some out) ∧ out ≠ jinja smith.values := by
  have hread : ∀ i ∈ substitutions, Sed.Replacement i.marker (smith.values i) (smithRead i) := by
    decide +kernel
  have hlabel : settled smithRead .tokenLabel ≠ smith.values .tokenLabel := by decide +kernel
  have hrender := smith.render_of_read fun i => hread i (mem_substitutions i)
  refine ⟨_, hrender, fun hout => hlabel ?_⟩
  exact smith.settled_of_render (fun i => hread i (mem_substitutions i))
    ((hrender Sed.strict).trans (congrArg some hout)) .tokenLabel

end CpeCloud.ShelfFlash
