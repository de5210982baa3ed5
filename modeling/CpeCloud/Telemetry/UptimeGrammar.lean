import CpeCloud.Telemetry.Reported
import CpeCloud.Telemetry.Uptime

/-!
# The language of uptimes (`_parse_uptime` in `app/services/influx.py`)

`int` reads no more digits than `sys.get_int_max_str_digits()`, so that the parser raises on a longer
number. The models of `app/routers/telemetry.py` admit no text that long.

* `IsUptime`: one or more of the units, in order, each behind its number.
* `parseUptime_grammar`: what the parser does with every text.
* **`parseUptime_grammar_iff`**: it accepts its grammar but for numbers that `int` does not read.
* `longNumber_raises`: one of these.
-/

namespace CpeCloud

open Schema (schemaAt validate)

/-- One or more of the units, in order, each behind its number; whitespace around them. -/
def IsUptime (s : Text) (groups : List (Char × Text)) (seconds : Nat) : Prop :=
  groups ≠ [] ∧ Grouped uptimeUnits (Text.strip s) groups seconds

/-- `int` reads the numbers. -/
def NumbersFit (groups : List (Char × Text)) : Prop :=
  ∀ g ∈ groups, g.2.length ≤ Numeral.maxStrDigits

/-- The text of these units. -/
def formatUptime (number : Char → Nat) (us : List (Char × Nat)) : Text :=
  us.flatMap fun u => decimal (number u.1) ++ [u.1]

/-- What these units add up to. -/
def secondsOf (number : Char → Nat) (us : List (Char × Nat)) : Nat :=
  (us.map fun u => number u.1 * u.2).sum

theorem isDecimal_of_mem_decimal {n : Nat} : ∀ c ∈ decimal n, isDecimal c = true :=
  fun c hc => isDecimal_iff.mpr ((Numeral.digits_toDigits n).2 c hc)

/-- Some of the units, in order, read as what they were formatted from. -/
theorem grouped_formatUptime (number : Char → Nat) {us us' : List (Char × Nat)}
    (h : us.Sublist us') : Grouped us' (formatUptime number us)
      (us.map fun u => (u.1, decimal (number u.1))) (secondsOf number us) := by
  induction h with
  | slnil => exact .nil
  | cons u h ih => exact .skip ih
  | @cons_cons us us' u h ih =>
    have hformat : formatUptime number (u :: us) =
        decimal (number u.1) ++ u.1 :: formatUptime number us := by
      rw [formatUptime, List.flatMap_cons, List.append_assoc, List.singleton_append, formatUptime]
    rw [hformat, secondsOf, List.map_cons, List.map_cons, List.sum_cons]
    exact .group isDecimal_of_mem_decimal (Numeral.digits_toDigits _).1 ih

theorem strip_formatUptime (number : Char → Nat) {us : List (Char × Nat)}
    (h : us.Sublist uptimeUnits) : Text.strip (formatUptime number us) = formatUptime number us := by
  refine Text.strip_eq_self fun c hc => ?_
  obtain ⟨u, hu, hc⟩ := List.mem_flatMap.mp hc
  rcases List.mem_append.mp hc with hc | hc
  · obtain ⟨d, hd⟩ := (Numeral.digits_toDigits _).2 c hc
    exact (Numeral.not_special_of_digit hd).1
  · have hunits : ∀ u ∈ uptimeUnits, Text.isSpace u.1 = false := by decide
    rw [List.mem_singleton.mp hc]
    exact hunits u (h.subset hu)

theorem parseUptime_formatUptime (number : Char → Nat) {us : List (Char × Nat)}
    (h : us.Sublist uptimeUnits)
    (hfit : ∀ u ∈ us, (decimal (number u.1)).length ≤ Numeral.maxStrDigits) :
    parseUptime (formatUptime number us) = .ok (secondsOf number us : Int) := by
  have hgrouped := grouped_formatUptime number h
  rw [← strip_formatUptime number h] at hgrouped
  rw [parseUptime_of_grouped hgrouped, if_pos]
  exact List.forall_mem_map.mpr hfit

/-- The texts the models of a heartbeat take for an uptime have at most 32 characters. -/
theorem length_of_admitted {P : Pydantic} {schema : Schema} {v : PyVal} {s : Text}
    (hs : schemaAt (telemetrySystem P) "uptime".toList = some schema ∨
      schemaAt (telemetryHeartbeat P) "uptime".toList = some schema)
    (h : validate schema v = some (.str s)) : s.length ≤ 32 := by
  have hschema : schema = textOf 1 32 := by
    rcases hs with hs | hs <;> exact (Option.some.inj hs).symm
  rw [hschema] at h
  exact length_of_validate_textOf h

/-- **What the parser does**: the value of every uptime, but for numbers `int` does not read, the 0
of every other text, and the round trip through `formatUptime`. -/
theorem parseUptime_grammar (s : Text) :
    (∀ groups n, IsUptime s groups n → NumbersFit groups → parseUptime s = .ok (n : Int)) ∧
    (∀ groups n, IsUptime s groups n → ¬ NumbersFit groups →
      parseUptime s = .error .valueError) ∧
    ((∀ groups n, ¬ IsUptime s groups n) → parseUptime s = .ok 0) ∧
    (∀ P schema v, schemaAt (telemetrySystem P) "uptime".toList = some schema ∨
      schemaAt (telemetryHeartbeat P) "uptime".toList = some schema →
        validate schema v = some (.str s) → ∃ n, parseUptime s = .ok n) ∧
    ∀ (number : Char → Nat) (us : List (Char × Nat)), us.Sublist uptimeUnits →
      (∀ u ∈ us, (decimal (number u.1)).length ≤ Numeral.maxStrDigits) →
        s = formatUptime number us → parseUptime s = .ok (secondsOf number us : Int) := by
  refine ⟨fun groups n h hfit => ?_, fun groups n h hfit => ?_, fun hno => ?_,
    fun P schema v hs h => ?_, fun number us hus hfit hs => ?_⟩
  · rw [parseUptime_of_grouped h.2]
    exact if_pos hfit
  · rw [parseUptime_of_grouped h.2]
    exact if_neg hfit
  · by_cases hreads : ∃ groups n, Grouped uptimeUnits (Text.strip s) groups n
    · obtain ⟨groups, n, h⟩ := hreads
      have hempty : groups = [] := by_contra fun hne => hno groups n ⟨hne, h⟩
      subst hempty
      rw [parseUptime_of_grouped h, if_pos (List.forall_mem_nil _), h.eq_zero]
      rfl
    · exact parseUptime_of_not fun groups n h => hreads ⟨groups, n, h⟩
  · have hlength := (length_of_admitted hs h).trans (show 32 ≤ Numeral.maxStrDigits by decide)
    exact ⟨_, parseUptime_eq_uptimeSeconds hlength⟩
  · rw [hs]
    exact parseUptime_formatUptime number hus hfit

/-- The parser accepts its grammar: it gives an uptime its value, and every other text 0. It does not
raise where the schema admits the text, and what was formatted is read back. -/
structure ParsesGrammar (s : Text) : Prop where
  value : ∀ groups n, IsUptime s groups n → parseUptime s = .ok (n : Int)
  other : (∀ groups n, ¬ IsUptime s groups n) → parseUptime s = .ok 0
  admitted : ∀ P schema v, schemaAt (telemetrySystem P) "uptime".toList = some schema ∨
    schemaAt (telemetryHeartbeat P) "uptime".toList = some schema →
      validate schema v = some (.str s) → ∃ n, parseUptime s = .ok n
  formatted : ∀ (number : Char → Nat) (us : List (Char × Nat)), us.Sublist uptimeUnits →
    s = formatUptime number us → parseUptime s = .ok (secondsOf number us : Int)

/-- **The parser accepts its grammar iff `int` reads the numbers.** -/
theorem parseUptime_grammar_iff (s : Text) :
    ParsesGrammar s ↔ ∀ groups n, IsUptime s groups n → NumbersFit groups := by
  obtain ⟨hvalue, hlong, hother, hadmitted, hformatted⟩ := parseUptime_grammar s
  constructor
  · intro h groups n hs
    by_contra hfit
    have hraises := hlong groups n hs hfit
    rw [h.value groups n hs] at hraises
    cases hraises
  · intro hfit
    refine ⟨fun groups n hs => hvalue groups n hs (hfit groups n hs), hother, hadmitted,
      fun number us hus hs => hformatted number us hus (fun u hu => ?_) hs⟩
    have hgrouped := grouped_formatUptime number hus
    rw [← strip_formatUptime number hus, ← hs] at hgrouped
    have hne : us.map (fun u => (u.1, decimal (number u.1))) ≠ [] := by
      rw [Ne, List.map_eq_nil_iff]
      exact List.ne_nil_of_mem hu
    exact hfit _ _ ⟨hne, hgrouped⟩ _ (List.mem_map_of_mem hu)

/-- A number of seconds with one digit more than `int` reads. -/
def longNumber : Text := List.replicate (Numeral.maxStrDigits + 1) '1'

theorem longNumber_raises : ∃ n, IsUptime (longNumber ++ ['s']) [('s', longNumber)] n ∧
    parseUptime (longNumber ++ ['s']) = .error .valueError := by
  have hall : ∀ c ∈ longNumber, c = '1' := fun c hc => List.eq_of_mem_replicate hc
  have hdigits : ∀ c ∈ longNumber, isDecimal c = true := fun c hc => by
    rw [hall c hc]
    rfl
  have hlength : longNumber.length = Numeral.maxStrDigits + 1 := List.length_replicate
  have hne : longNumber ≠ [] := List.ne_nil_of_length_eq_add_one hlength
  obtain ⟨n, hn⟩ := exists_digits hne hdigits
  have hstrip : Text.strip (longNumber ++ ['s']) = longNumber ++ ['s'] := by
    refine Text.strip_eq_self fun c hc => ?_
    rcases List.mem_append.mp hc with hc | hc
    · rw [hall c hc]
      decide
    · rw [List.mem_singleton.mp hc]
      decide
  have hgrouped : Grouped uptimeUnits (Text.strip (longNumber ++ ['s'])) [('s', longNumber)]
      (n * 1 + 0) := by
    rw [hstrip]
    exact .skip (.skip (.skip (.skip (.group hdigits hn .nil))))
  have hraises : parseUptime (longNumber ++ ['s']) = .error .valueError := by
    rw [parseUptime_of_grouped hgrouped, if_neg]
    rw [List.forall_mem_singleton, hlength]
    omega
  exact ⟨_, ⟨List.cons_ne_nil _ _, hgrouped⟩, hraises⟩

/-- On that number the parser raises, and its grammar has a value for it. -/
theorem longNumber_not_parsed : ¬ ParsesGrammar (longNumber ++ ['s']) := by
  intro h
  obtain ⟨n, hs, hraises⟩ := longNumber_raises
  rw [h.value _ n hs] at hraises
  cases hraises

end CpeCloud
