import CpeCloud.Telemetry.Points

/-!
# Uptime (`_parse_uptime` in `app/services/influx.py`)

* `Units`: groups of digits, each in front of its unit, in the order of the units; `Grouped` names
  the groups.
* **`takeUnits_iff`**: greedy groups read a text exactly as `Units` does.
* **`mem_runs_uptimeRe`**: so does `_UPTIME_RE`, with the groups of `Grouped`.
* `parseUptime_of_grouped`, `parseUptime_of_not`: what the parser makes of a text.
-/

namespace CpeCloud

/-- Groups for some of the units, in their order, and their weighted sum. -/
inductive Units : List (Char × Nat) → Text → Nat → Prop
  | nil : Units [] [] 0
  | skip {u : Char × Nat} {us : List (Char × Nat)} {s : Text} {n : Nat} (h : Units us s n) :
      Units (u :: us) s n
  | group {u : Char × Nat} {us : List (Char × Nat)} {digits s : Text} {k n : Nat}
      (hdigits : ∀ c ∈ digits, isDecimal c = true) (hk : Numeral.Digits digits k)
      (h : Units us s n) : Units (u :: us) (digits ++ u.1 :: s) (k * u.2 + n)

/-- What `_UPTIME_RE` reads of a text, surrounding whitespace aside. -/
def UptimeReads (s : Text) (n : Nat) : Prop := Units uptimeUnits (Text.strip s) n

/-! ## One group -/

/-- `(?:(?P<u>\d+)u)?` at the start of a text: the group, and what is left. -/
def takeUnit (unit : Char) (s : Text) : Option Text × Text :=
  match s.dropWhile isDecimal with
  | c :: rest => if c = unit ∧ s.takeWhile isDecimal ≠ [] then (some (s.takeWhile isDecimal), rest)
    else (none, s)
  | [] => (none, s)

/-- The seconds of the groups, and what they leave of the text. -/
def takeUnits (s : Text) : Nat × Text :=
  uptimeUnits.foldl (fun acc u =>
    match takeUnit u.1 acc.2 with
    | (some digits, rest) => (acc.1 + ((Numeral.parseNat digits).getD 0) * u.2, rest)
    | (none, rest) => (acc.1, rest)) (0, s)

/-- The seconds of an uptime, and 0 for every other text. -/
def uptimeSeconds (s : Text) : Nat :=
  match takeUnits (Text.strip s) with
  | (total, []) => total
  | (_, _ :: _) => 0

/-- What one group makes of the seconds so far, and of the text. -/
def takeGroup (acc : Nat × Text) (u : Char × Nat) : Nat × Text :=
  match takeUnit u.1 acc.2 with
  | (some digits, rest) => (acc.1 + ((Numeral.parseNat digits).getD 0) * u.2, rest)
  | (none, rest) => (acc.1, rest)

theorem takeUnits_eq (s : Text) : takeUnits s = uptimeUnits.foldl takeGroup (0, s) := rfl

theorem isDecimal_iff {c : Char} : isDecimal c = true ↔ ∃ d, Numeral.digitValue c = some d :=
  Option.isSome_iff_exists

/-- A run of decimal digits is a numeral. -/
theorem exists_digits {s : Text} (hne : s ≠ []) (h : ∀ c ∈ s, isDecimal c = true) :
    ∃ k, Numeral.Digits s k := by
  induction s using List.reverseRecOn with
  | nil => exact absurd rfl hne
  | append_singleton s c ih =>
    obtain ⟨d, hd⟩ := isDecimal_iff.mp (h c (by simp))
    rcases List.eq_nil_or_concat s with rfl | ⟨t, b, rfl⟩
    · exact ⟨d, .digit hd⟩
    · obtain ⟨k, hk⟩ := ih (by simp) fun c hc => h c (List.mem_append_left _ hc)
      exact ⟨_, .next hk hd⟩

section Digits

variable {u : Char} {digits : Text}

/-- A unit ends its digits. -/
theorem dropWhile_digits (hu : isDecimal u = false) (hdigits : ∀ c ∈ digits, isDecimal c = true)
    (s : Text) : (digits ++ u :: s).dropWhile isDecimal = u :: s := by
  rw [List.dropWhile_append_of_pos hdigits, List.dropWhile_cons_of_neg (by simp [hu])]

theorem takeWhile_digits (hu : isDecimal u = false) (hdigits : ∀ c ∈ digits, isDecimal c = true)
    (s : Text) : (digits ++ u :: s).takeWhile isDecimal = digits := by
  rw [List.takeWhile_append_of_pos hdigits, List.takeWhile_cons_of_neg (by simp [hu]),
    List.append_nil]

end Digits

/-- The group of a unit in front of a text. -/
theorem takeGroup_group {u : Char × Nat} (hu : isDecimal u.1 = false) {digits s : Text} {k : Nat}
    (hdigits : ∀ c ∈ digits, isDecimal c = true) (hk : Numeral.Digits digits k) (acc : Nat) :
    takeGroup (acc, digits ++ u.1 :: s) u = (acc + k * u.2, s) := by
  have hdrop := dropWhile_digits hu hdigits s
  have htake := takeWhile_digits hu hdigits s
  simp [takeGroup, takeUnit, hdrop, htake, hk.ne_nil, Numeral.parseNat_eq_some_iff.mpr hk]

/-- What a group leaves is what it found, or the text behind the unit. -/
theorem takeGroup_cases (acc : Nat) (s : Text) (u : Char × Nat) :
    takeGroup (acc, s) u = (acc, s) ∨ ∃ digits rest k, s = digits ++ u.1 :: rest ∧
      (∀ c ∈ digits, isDecimal c = true) ∧ Numeral.Digits digits k ∧
        takeGroup (acc, s) u = (acc + k * u.2, rest) := by
  unfold takeGroup takeUnit
  cases hdrop : s.dropWhile isDecimal with
  | nil => exact Or.inl rfl
  | cons c rest =>
    by_cases hc : c = u.1 ∧ s.takeWhile isDecimal ≠ []
    · have hall : ∀ c ∈ s.takeWhile isDecimal, isDecimal c = true :=
        fun c hc => List.mem_takeWhile_imp hc
      obtain ⟨k, hk⟩ := exists_digits hc.2 hall
      refine Or.inr ⟨s.takeWhile isDecimal, rest, k, ?_, hall, hk, ?_⟩
      · rw [← hc.1, ← hdrop, List.takeWhile_append_dropWhile]
      · simp [hc, Numeral.parseNat_eq_some_iff.mpr hk]
    · exact Or.inl (by simp only [if_neg hc])

/-! ## All groups -/

/-- The first character that is no digit is one of the units. -/
theorem Units.head {us : List (Char × Nat)} {s : Text} {n : Nat} (h : Units us s n)
    (hus : ∀ u ∈ us, isDecimal u.1 = false) {c : Char} {rest : Text}
    (hdrop : s.dropWhile isDecimal = c :: rest) : c ∈ us.map Prod.fst := by
  induction h with
  | nil => cases hdrop
  | skip h ih =>
    exact List.mem_cons_of_mem _ (ih (fun u hu => hus u (List.mem_cons_of_mem _ hu)) hdrop)
  | @group u us digits s k n hdigits hk h ih =>
    rw [dropWhile_digits (hus u List.mem_cons_self) hdigits] at hdrop
    rw [← (List.cons.inj hdrop).1]
    exact List.mem_cons_self

/-- Greedy groups find what `Units` reads, as no two units share a letter. -/
theorem foldl_takeGroup_of_units {us : List (Char × Nat)} (hnodup : (us.map Prod.fst).Nodup)
    (hus : ∀ u ∈ us, isDecimal u.1 = false) {s : Text} {n : Nat} (h : Units us s n) (acc : Nat) :
    us.foldl takeGroup (acc, s) = (acc + n, []) := by
  induction h generalizing acc with
  | nil => rfl
  | @skip u us s n h ih =>
    rw [List.map_cons, List.nodup_cons] at hnodup
    have hrest := fun v hv => hus v (List.mem_cons_of_mem u hv)
    have hsame : takeGroup (acc, s) u = (acc, s) := by
      refine (takeGroup_cases acc s u).resolve_right ?_
      rintro ⟨digits, rest, k, rfl, hdigits, -, -⟩
      have hdrop := dropWhile_digits (hus u List.mem_cons_self) hdigits rest
      exact hnodup.1 (h.head hrest hdrop)
    rw [List.foldl_cons, hsame]
    exact ih hnodup.2 hrest acc
  | @group u us digits s k n hdigits hk h ih =>
    rw [List.map_cons, List.nodup_cons] at hnodup
    rw [List.foldl_cons, takeGroup_group (hus u List.mem_cons_self) hdigits hk,
      ih hnodup.2 fun v hv => hus v (List.mem_cons_of_mem u hv), Nat.add_assoc]

theorem units_of_foldl_takeGroup {us : List (Char × Nat)} {s : Text} {acc total : Nat}
    (h : us.foldl takeGroup (acc, s) = (total, [])) : ∃ n, total = acc + n ∧ Units us s n := by
  induction us generalizing acc s with
  | nil =>
    obtain ⟨rfl, rfl⟩ := Prod.mk.inj h
    exact ⟨0, rfl, .nil⟩
  | cons u us ih =>
    rw [List.foldl_cons] at h
    rcases takeGroup_cases acc s u with hsame | ⟨digits, rest, k, rfl, hdigits, hk, hgroup⟩
    · rw [hsame] at h
      obtain ⟨n, hn, hunits⟩ := ih h
      exact ⟨n, hn, .skip hunits⟩
    · rw [hgroup] at h
      obtain ⟨n, hn, hunits⟩ := ih h
      exact ⟨k * u.2 + n, by omega, .group hdigits hk hunits⟩

/-- **Greedy groups read a text exactly as `Units` does.** -/
theorem takeUnits_iff {s : Text} {n : Nat} : takeUnits s = (n, []) ↔ Units uptimeUnits s n := by
  rw [takeUnits_eq]
  constructor
  · intro h
    obtain ⟨m, hm, hunits⟩ := units_of_foldl_takeGroup h
    rwa [hm, Nat.zero_add]
  · intro h
    rw [foldl_takeGroup_of_units (by decide) (by decide) h, Nat.zero_add]

theorem uptimeSeconds_of_reads {s : Text} {n : Nat} (h : UptimeReads s n) :
    uptimeSeconds s = n := by
  rw [uptimeSeconds, takeUnits_iff.mpr h]

theorem uptimeSeconds_of_not {s : Text} (h : ∀ n, ¬ UptimeReads s n) : uptimeSeconds s = 0 := by
  unfold uptimeSeconds
  split
  · rename_i total htotal
    exact absurd (takeUnits_iff.mp htotal) (h total)
  · rfl

/-! ## The groups of the expression -/

/-- `Units`, with the groups: the units that are there, each with its digits. -/
inductive Grouped : List (Char × Nat) → Text → List (Char × Text) → Nat → Prop
  | nil : Grouped [] [] [] 0
  | skip {u : Char × Nat} {us : List (Char × Nat)} {s : Text} {gs : List (Char × Text)} {n : Nat}
      (h : Grouped us s gs n) : Grouped (u :: us) s gs n
  | group {u : Char × Nat} {us : List (Char × Nat)} {digits s : Text} {gs : List (Char × Text)}
      {k n : Nat} (hdigits : ∀ c ∈ digits, isDecimal c = true) (hk : Numeral.Digits digits k)
      (h : Grouped us s gs n) :
      Grouped (u :: us) (digits ++ u.1 :: s) ((u.1, digits) :: gs) (k * u.2 + n)

section Grouped

variable {us : List (Char × Nat)} {s : Text} {gs : List (Char × Text)} {n : Nat}

theorem Grouped.units (h : Grouped us s gs n) : Units us s n := by
  induction h with
  | nil => exact .nil
  | skip h ih => exact .skip ih
  | group hdigits hk h ih => exact .group hdigits hk ih

theorem Units.grouped (h : Units us s n) : ∃ gs, Grouped us s gs n := by
  induction h with
  | nil => exact ⟨_, .nil⟩
  | skip h ih =>
    obtain ⟨gs, h⟩ := ih
    exact ⟨gs, .skip h⟩
  | group hdigits hk h ih =>
    obtain ⟨gs, h⟩ := ih
    exact ⟨_, .group hdigits hk h⟩

/-- The digits of a group are all there are in front of its unit. -/
theorem digits_unique {u : Char} (hu : isDecimal u = false) {digits digits' s s' : Text}
    (hdigits : ∀ c ∈ digits, isDecimal c = true) (hdigits' : ∀ c ∈ digits', isDecimal c = true)
    (h : digits ++ u :: s = digits' ++ u :: s') : digits = digits' ∧ s = s' := by
  have hsame : digits = digits' := by
    rw [← takeWhile_digits hu hdigits s, h, takeWhile_digits hu hdigits']
  subst hsame
  exact ⟨rfl, (List.cons.inj (List.append_cancel_left h)).2⟩

/-- **A text reads in one way.** -/
theorem Grouped.unique (hnodup : (us.map Prod.fst).Nodup) (hus : ∀ u ∈ us, isDecimal u.1 = false)
    (h : Grouped us s gs n) {gs' : List (Char × Text)} {n' : Nat} (h' : Grouped us s gs' n') :
    gs = gs' ∧ n = n' := by
  induction us generalizing s gs n gs' n' with
  | nil =>
    cases h
    cases h'
    exact ⟨rfl, rfl⟩
  | cons u us ih =>
    rw [List.map_cons, List.nodup_cons] at hnodup
    obtain ⟨hu, hrest⟩ := List.forall_mem_cons.mp hus
    -- the first unit of a text that reads is the one behind its first digits
    have hfirst : ∀ {digits t : Text} {gs : List (Char × Text)} {n : Nat},
        (∀ c ∈ digits, isDecimal c = true) → ¬ Grouped us (digits ++ u.1 :: t) gs n := by
      intro digits t gs n hdigits h
      exact hnodup.1 (h.units.head hrest (dropWhile_digits hu hdigits t))
    generalize hs : s = s' at h'
    cases h with
    | skip h =>
      cases h' with
      | skip h' =>
        subst hs
        exact ih hnodup.2 hrest h h'
      | group hdigits' hk' h' =>
        subst hs
        exact absurd h (hfirst hdigits')
    | group hdigits hk h =>
      cases h' with
      | skip h' =>
        subst hs
        exact absurd h' (hfirst hdigits)
      | group hdigits' hk' h' =>
        obtain ⟨rfl, rfl⟩ := digits_unique hu hdigits hdigits' hs
        obtain ⟨rfl, rfl⟩ := ih hnodup.2 hrest h h'
        have hvalue := Numeral.parseNat_eq_some_iff.mpr hk
        rw [Numeral.parseNat_eq_some_iff.mpr hk', Option.some.injEq] at hvalue
        subst hvalue
        exact ⟨rfl, rfl⟩

/-- One group of the expression. -/
theorem mem_runs_unitRe {u : Char} {t : Text} : (gs, t) ∈ (unitRe u).runs s ↔
    gs = [] ∧ t = s ∨ ∃ digits, digits ≠ [] ∧ (∀ c ∈ digits, isDecimal c = true) ∧
      s = digits ++ u :: t ∧ gs = [(u, digits)] := by
  rw [unitRe, Pattern.mem_opt, or_comm]
  refine or_congr_right ?_
  simp only [Pattern.mem_seq, Pattern.mem_group, Pattern.mem_plain, Regex.mem_plus, Regex.mem_lit]
  constructor
  · rintro ⟨_, _, _, ⟨w, hs, ⟨w', hne, hw', hs'⟩, rfl⟩, ⟨rfl, rfl⟩, rfl⟩
    obtain rfl := List.append_cancel_right (hs.symm.trans hs')
    exact ⟨w, hne, hw', hs, rfl⟩
  · rintro ⟨w, hne, hw, rfl, rfl⟩
    exact ⟨_, u :: t, [], ⟨w, rfl, ⟨w, hne, hw, rfl⟩, rfl⟩, ⟨rfl, rfl⟩, rfl⟩

/-- The expression for some of the units. -/
def unitsRe (us : List (Char × Nat)) : Pattern Char :=
  us.foldr (fun u p => .seq (unitRe u.1) p) (.plain .eos)

theorem uptimeRe_eq : uptimeRe = unitsRe uptimeUnits := rfl

theorem mem_runs_unitsRe_cons {u : Char × Nat} {t : Text} : (gs, t) ∈ (unitsRe (u :: us)).runs s ↔
    (gs, t) ∈ (unitsRe us).runs s ∨ ∃ digits rest gs', digits ≠ [] ∧
      (∀ c ∈ digits, isDecimal c = true) ∧ s = digits ++ u.1 :: rest ∧
        (gs', t) ∈ (unitsRe us).runs rest ∧ gs = (u.1, digits) :: gs' := by
  rw [show unitsRe (u :: us) = .seq (unitRe u.1) (unitsRe us) from rfl]
  simp only [Pattern.mem_seq, mem_runs_unitRe]
  constructor
  · rintro ⟨_, _, gs', ⟨rfl, rfl⟩ | ⟨digits, hne, hdigits, hs, rfl⟩, hrest, rfl⟩
    · exact Or.inl hrest
    · exact Or.inr ⟨digits, _, gs', hne, hdigits, hs, hrest, rfl⟩
  · rintro (h | ⟨digits, rest, gs', hne, hdigits, hs, hrest, rfl⟩)
    · exact ⟨[], s, gs, Or.inl ⟨rfl, rfl⟩, h, rfl⟩
    · exact ⟨_, rest, gs', Or.inr ⟨digits, hne, hdigits, hs, rfl⟩, hrest, rfl⟩

/-- **The expression reads what `Grouped` reads**, of a text that ends in no newline. -/
theorem mem_runs_unitsRe (hs : ¬ ['\n'] <:+ s) {t : Text} :
    (gs, t) ∈ (unitsRe us).runs s ↔ t = [] ∧ ∃ n, Grouped us s gs n := by
  induction us generalizing s gs with
  | nil =>
    rw [show unitsRe [] = .plain .eos from rfl, Pattern.mem_plain, Regex.mem_eos]
    constructor
    · rintro ⟨rfl, rfl, rfl | rfl⟩
      · exact ⟨rfl, 0, .nil⟩
      · exact absurd List.suffix_rfl hs
    · rintro ⟨rfl, n, h⟩
      cases h
      exact ⟨rfl, rfl, Or.inl rfl⟩
  | cons u us ih =>
    rw [mem_runs_unitsRe_cons, ih hs]
    constructor
    · rintro (⟨rfl, n, h⟩ | ⟨digits, rest, gs', hne, hdigits, rfl, hrest, rfl⟩)
      · exact ⟨rfl, n, .skip h⟩
      · have hs' : ¬ ['\n'] <:+ rest := fun h =>
          hs (h.trans ((List.suffix_cons u.1 rest).trans (List.suffix_append digits _)))
        obtain ⟨rfl, n, h⟩ := (ih hs').mp hrest
        obtain ⟨k, hk⟩ := exists_digits hne hdigits
        exact ⟨rfl, _, .group hdigits hk h⟩
    · rintro ⟨rfl, n, h⟩
      cases h with
      | skip h => exact Or.inl ⟨rfl, n, h⟩
      | @group _ _ digits rest gs' k n hdigits hk h =>
        have hs' : ¬ ['\n'] <:+ rest := fun h =>
          hs (h.trans ((List.suffix_cons u.1 rest).trans (List.suffix_append digits _)))
        exact Or.inr ⟨digits, rest, gs', hk.ne_nil, hdigits, rfl, (ih hs').mpr ⟨rfl, n, h⟩, rfl⟩

/-- `_UPTIME_RE`, on a stripped text. -/
theorem mem_runs_uptimeRe {t : Text} : (gs, t) ∈ uptimeRe.runs (Text.strip s) ↔
    t = [] ∧ ∃ n, Grouped uptimeUnits (Text.strip s) gs n := by
  rw [uptimeRe_eq]
  refine mem_runs_unitsRe fun h => ?_
  have hspace := Text.not_isSpace_of_suffix_strip h
  exact absurd hspace (by decide)

theorem firstMatch_of_grouped (h : Grouped uptimeUnits (Text.strip s) gs n) :
    uptimeRe.firstMatch (Text.strip s) = some gs := by
  cases hmatch : uptimeRe.firstMatch (Text.strip s) with
  | none =>
    have hno := Pattern.firstMatch_eq_none_iff.mp hmatch gs []
    exact absurd (mem_runs_uptimeRe.mpr ⟨rfl, n, h⟩) hno
  | some gs' =>
    obtain ⟨t, ht⟩ := Pattern.exists_of_firstMatch hmatch
    obtain ⟨-, n', h'⟩ := mem_runs_uptimeRe.mp ht
    rw [(h.unique (by decide) (by decide) h').1]

theorem firstMatch_of_not (h : ∀ gs n, ¬ Grouped uptimeUnits (Text.strip s) gs n) :
    uptimeRe.firstMatch (Text.strip s) = none := by
  refine Pattern.firstMatch_eq_none_iff.mpr fun gs t ht => ?_
  obtain ⟨-, n, hn⟩ := mem_runs_uptimeRe.mp ht
  exact h gs n hn

/-! ## The sum -/

theorem Grouped.lookup_eq_none (h : Grouped us s gs n) {u : Char} (hu : u ∉ us.map Prod.fst) :
    gs.lookup u = none := by
  induction h with
  | nil => rfl
  | skip h ih =>
    rw [List.map_cons, List.mem_cons, not_or] at hu
    exact ih hu.2
  | @group v us digits s gs k n hdigits hk h ih =>
    rw [List.map_cons, List.mem_cons, not_or] at hu
    rw [List.lookup_cons, beq_eq_false_iff_ne.mpr hu.1]
    exact ih hu.2

/-- `int(v)` of a group. -/
theorem intOf_digits {digits : Text} {k : Nat} (hdigits : ∀ c ∈ digits, isDecimal c = true)
    (hk : Numeral.Digits digits k) : PyVal.intOf (.str digits) =
      if digits.length ≤ Numeral.maxStrDigits then .ok (k : Int) else .error .valueError := by
  have hparse : Numeral.parseInt digits = some (k : Int) :=
    Numeral.parseInt_eq_some_iff.mpr (by
      simpa using Numeral.Literal.plain (List.forall_mem_nil _) (List.forall_mem_nil _) hk)
  have hcount : Numeral.digitCount digits = digits.length := List.countP_eq_length.mpr hdigits
  simp only [PyVal.intOf, hparse, hcount]

/-- The loop adds up the groups, up to the first that `int` does not read. -/
theorem Grouped.foldlM_addUnit (h : Grouped us s gs n) (hnodup : (us.map Prod.fst).Nodup)
    {groups : List (Char × Text)} (hgroups : ∀ u ∈ us, groups.lookup u.1 = gs.lookup u.1)
    (acc : Int) : us.foldlM (addUnit groups) acc =
      if ∀ g ∈ gs, g.2.length ≤ Numeral.maxStrDigits then .ok (acc + n)
      else .error .valueError := by
  induction h generalizing acc with
  | nil => simp [pure, Except.pure]
  | @skip u us s gs n h ih =>
    rw [List.map_cons, List.nodup_cons] at hnodup
    obtain ⟨hu, hrest⟩ := List.forall_mem_cons.mp hgroups
    rw [List.foldlM_cons, addUnit, hu, h.lookup_eq_none hnodup.1]
    exact ih hnodup.2 hrest acc
  | @group u us digits s gs k n hdigits hk h ih =>
    rw [List.map_cons, List.nodup_cons] at hnodup
    obtain ⟨hu, hrest⟩ := List.forall_mem_cons.mp hgroups
    have hsame : ∀ v ∈ us, groups.lookup v.1 = gs.lookup v.1 := by
      intro v hv
      have hne : v.1 ≠ u.1 := fun he => hnodup.1 (he ▸ List.mem_map_of_mem hv)
      rw [hrest v hv, List.lookup_cons, beq_eq_false_iff_ne.mpr hne]
    rw [List.foldlM_cons, addUnit, hu, List.lookup_cons_self]
    simp only [intOf_digits hdigits hk, List.forall_mem_cons]
    by_cases hlength : digits.length ≤ Numeral.maxStrDigits
    · rw [if_pos hlength]
      refine (ih hnodup.2 hsame _).trans ?_
      simp only [hlength, true_and, Nat.cast_add, Nat.cast_mul, add_assoc]
    · rw [if_neg hlength, if_neg fun hall => hlength hall.1]
      rfl

theorem Grouped.any_eq_true (h : Grouped us s gs n) (hne : gs ≠ []) :
    gs.any (fun g => !g.2.isEmpty) = true := by
  induction h with
  | nil => exact absurd rfl hne
  | skip h ih => exact ih hne
  | group hdigits hk h =>
    obtain ⟨c, t, d, rfl, -⟩ := hk.head
    rfl

theorem Grouped.eq_zero (h : Grouped us s [] n) : n = 0 := by
  generalize hgs : [] = gs at h
  induction h with
  | nil => rfl
  | skip h ih => exact ih hgs
  | group => cases hgs

end Grouped

/-! ## The parser -/

/-- **An uptime parses to its seconds**, unless one of its numbers is too long for `int`. -/
theorem parseUptime_of_grouped {s : Text} {gs : List (Char × Text)} {n : Nat}
    (h : Grouped uptimeUnits (Text.strip s) gs n) : parseUptime s =
      if ∀ g ∈ gs, g.2.length ≤ Numeral.maxStrDigits then .ok (n : Int)
      else .error .valueError := by
  rcases eq_or_ne gs [] with rfl | hne
  · rw [h.eq_zero, if_pos (List.forall_mem_nil _), parseUptime]
    split
    · rfl
    · rw [firstMatch_of_grouped h]
      rfl
  · have hs : s ≠ [] := by
      rintro rfl
      exact hne (h.unique (by decide) (by decide) (.skip (.skip (.skip (.skip (.skip .nil)))))).1
    rw [parseUptime, if_neg hs, firstMatch_of_grouped h]
    simp only [h.any_eq_true hne, if_true]
    refine (h.foldlM_addUnit (by decide) (fun _ _ => rfl) 0).trans ?_
    rw [zero_add]

theorem parseUptime_of_not {s : Text} (h : ∀ gs n, ¬ Grouped uptimeUnits (Text.strip s) gs n) :
    parseUptime s = .ok 0 := by
  rw [parseUptime, firstMatch_of_not h, ite_self]

theorem Grouped.length_le {us : List (Char × Nat)} {s : Text} {gs : List (Char × Text)} {n : Nat}
    (h : Grouped us s gs n) : ∀ g ∈ gs, g.2.length ≤ s.length := by
  induction h with
  | nil => exact List.forall_mem_nil _
  | skip h ih => exact ih
  | group hdigits hk h ih =>
    refine List.forall_mem_cons.mpr ⟨by simp, fun g hg => (ih g hg).trans ?_⟩
    rw [List.length_append, List.length_cons]
    omega

/-- A text that is not too long itself parses. -/
theorem parseUptime_eq_uptimeSeconds {s : Text} (h : s.length ≤ Numeral.maxStrDigits) :
    parseUptime s = .ok (uptimeSeconds s : Int) := by
  by_cases hreads : ∃ n, UptimeReads s n
  · obtain ⟨n, hn⟩ := hreads
    obtain ⟨gs, hgs⟩ := Units.grouped hn
    have hstrip : (Text.strip s).length ≤ s.length :=
      ((List.rdropWhile_prefix _ _).length_le).trans (List.dropWhile_suffix _).length_le
    have hfits : ∀ g ∈ gs, g.2.length ≤ Numeral.maxStrDigits := fun g hg =>
      (hgs.length_le g hg).trans (hstrip.trans h)
    rw [parseUptime_of_grouped hgs, if_pos hfits, uptimeSeconds_of_reads hn]
  · rw [uptimeSeconds_of_not (not_exists.mp hreads),
      parseUptime_of_not fun gs n hn => hreads ⟨n, hn.units⟩]
    rfl

end CpeCloud
