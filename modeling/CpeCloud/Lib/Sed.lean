import CpeCloud.Lib.Template

/-!
# Substitutions of `sed`

Scripts `s|pattern|replacement|g` with a literal pattern. In the replacement an `&` is the match, and
a backslash makes a backslash, an `&` or the delimiter behind it literal. What an implementation
makes of any other script, and whether it takes it, is left to it (`Sed`).

* **`readReplacement_iff`**: what is read of a replacement.
* `Replacement.plain_of_count`: a replacement that keeps its backslashes has none.
-/

open Template (Subst substitute substituteAll bindings later later_cons_self later_cons_of_ne count_substituteAll)

namespace Sed

/-- Characters of a basic regular expression that are not literal everywhere. -/
def isSpecial (c : Char) : Bool := ['.', '[', ']', '*', '^', '$', '\\', '\n'].contains c

/-- A literal pattern up to the delimiter, and what is behind it. -/
def readPattern : Text → Option (Text × Text)
  | [] => none
  | c :: s =>
    if c = '|' then some ([], s)
    else if isSpecial c then none
    else (readPattern s).map fun r => (c :: r.1, r.2)

/-- What a backslash makes literal. -/
def isEscapable (c : Char) : Bool := c = '\\' || c = '&' || c = '|'

/-- The replacement of the match `m` up to the delimiter, and what is behind it; `escaped` behind a
backslash. -/
def readReplacement (m : Text) (escaped : Bool) : Text → Option (Text × Text)
  | [] => none
  | c :: s =>
    if escaped then
      if isEscapable c then (readReplacement m false s).map fun r => (c :: r.1, r.2) else none
    else if c = '|' then some ([], s)
    else if c = '&' then (readReplacement m false s).map fun r => (m ++ r.1, r.2)
    else if c = '\\' then readReplacement m true s
    else if c = '\n' then none
    else (readReplacement m false s).map fun r => (c :: r.1, r.2)

/-- `s|pattern|replacement|g`. -/
def readCommand : Text → Option (Text × Text)
  | 's' :: '|' :: s => do
    let (pattern, s) ← readPattern s
    let (replacement, flags) ← readReplacement pattern false s
    if pattern ≠ [] ∧ flags = ['g'] then some (pattern, replacement) else none
  | _ => none

/-- The script of a pattern and a replacement. -/
def script (pattern replacement : Text) : Text :=
  's' :: '|' :: (pattern ++ '|' :: (replacement ++ ['|', 'g']))

/-! ## What is read -/

/-- Nothing has a meaning in a replacement but these. -/
def IsPlain (v : Text) : Prop := ∀ c ∈ v, c ≠ '&' ∧ c ≠ '\\' ∧ c ≠ '|'

instance (v : Text) : Decidable (IsPlain v) := List.decidableBAll _ v

/-- A replacement, and what it stands for at the match `m`. -/
inductive Replacement (m : Text) : Text → Text → Prop
  | nil : Replacement m [] []
  | char {c : Char} {u r : Text} (hc : c ≠ '&' ∧ c ≠ '\\' ∧ c ≠ '|') (hnl : c ≠ '\n')
      (h : Replacement m u r) : Replacement m (c :: u) (c :: r)
  | matched {u r : Text} (h : Replacement m u r) : Replacement m ('&' :: u) (m ++ r)
  | escaped {c : Char} {u r : Text} (hc : isEscapable c = true) (h : Replacement m u r) :
      Replacement m ('\\' :: c :: u) (c :: r)

variable {m u r s rest : Text}

theorem readReplacement_of (h : Replacement m u r) :
    readReplacement m false (u ++ '|' :: rest) = some (r, rest) := by
  induction h with
  | nil => simp [readReplacement]
  | char hc hnl h ih => simp [readReplacement, hc, hnl, ih]
  | matched h ih => simp [readReplacement, ih]
  | escaped hc h ih => simp [readReplacement, hc, ih]

theorem exists_of_map {o : Option (Text × Text)} {f : Text → Text}
    (h : (o.map fun r => (f r.1, r.2)) = some (r, rest)) :
    ∃ r', o = some (r', rest) ∧ r = f r' := by
  obtain ⟨⟨r', rest'⟩, ho, he⟩ := Option.map_eq_some_iff.mp h
  obtain ⟨rfl, rfl⟩ := Prod.mk.inj he
  exact ⟨r', ho, rfl⟩

theorem exists_of_readReplacement {escaped : Bool}
    (h : readReplacement m escaped s = some (r, rest)) :
    ∃ u, s = u ++ '|' :: rest ∧ Replacement m ((if escaped then ['\\'] else []) ++ u) r := by
  induction s generalizing escaped r with
  | nil => cases h
  | cons c s ih =>
    rw [readReplacement] at h
    split_ifs at h with hescaped hc hbar hamp hslash hnl
    · obtain ⟨r, hr, rfl⟩ := exists_of_map h
      obtain ⟨u, rfl, hu⟩ := ih hr
      exact ⟨c :: u, rfl, by simpa [hescaped] using Replacement.escaped hc hu⟩
    · obtain ⟨rfl, rfl⟩ := Prod.mk.inj (Option.some.inj h)
      exact ⟨[], by rw [hbar]; rfl, by simpa [hescaped] using Replacement.nil⟩
    · obtain ⟨r, hr, rfl⟩ := exists_of_map h
      obtain ⟨u, rfl, hu⟩ := ih hr
      exact ⟨c :: u, rfl, by simpa [hescaped, hamp] using Replacement.matched hu⟩
    · obtain ⟨u, rfl, hu⟩ := ih h
      exact ⟨c :: u, rfl, by simpa [hescaped, hslash] using hu⟩
    · obtain ⟨r, hr, rfl⟩ := exists_of_map h
      obtain ⟨u, rfl, hu⟩ := ih hr
      exact ⟨c :: u, rfl, by simpa [hescaped] using Replacement.char ⟨hamp, hslash, hbar⟩ hnl hu⟩

/-- **What is read of a replacement.** -/
theorem readReplacement_iff : readReplacement m false s = some (r, rest) ↔
    ∃ u, s = u ++ '|' :: rest ∧ Replacement m u r := by
  refine ⟨exists_of_readReplacement, ?_⟩
  rintro ⟨u, rfl, h⟩
  exact readReplacement_of h

theorem replacement_iff : Replacement m u r ↔ readReplacement m false (u ++ ['|']) = some (r, []) := by
  refine ⟨readReplacement_of, fun h => ?_⟩
  obtain ⟨u', hu', hr⟩ := readReplacement_iff.mp h
  obtain rfl := List.append_cancel_right hu'
  exact hr

instance (m u r : Text) : Decidable (Replacement m u r) := decidable_of_iff' _ replacement_iff

theorem readPattern_append (hm : ∀ c ∈ m, c ≠ '|' ∧ isSpecial c = false) (s : Text) :
    readPattern (m ++ '|' :: s) = some (m, s) := by
  induction m with
  | nil => rfl
  | cons c m ih =>
    obtain ⟨⟨hbar, hspecial⟩, hm⟩ := List.forall_mem_cons.mp hm
    rw [List.cons_append, readPattern, if_neg hbar, hspecial, ih hm]
    rfl

theorem readCommand_script (hne : m ≠ []) (hm : ∀ c ∈ m, c ≠ '|' ∧ isSpecial c = false)
    {c : Text × Text} : readCommand (script m u) = some c ↔ ∃ r, c = (m, r) ∧ Replacement m u r := by
  simp only [script, readCommand, readPattern_append hm, Option.bind_eq_bind, Option.bind_some,
    Option.bind_eq_some_iff]
  constructor
  · rintro ⟨⟨r, flags⟩, hread, h⟩
    obtain ⟨⟨-, hflags⟩, hc⟩ := Option.ite_none_right_eq_some.mp h
    subst hflags
    obtain ⟨u', hu', hr⟩ := readReplacement_iff.mp hread
    obtain rfl := List.append_cancel_right hu'
    exact ⟨r, (Option.some.inj hc).symm, hr⟩
  · rintro ⟨r, rfl, hr⟩
    exact ⟨(r, ['g']), readReplacement_of hr, if_pos ⟨hne, rfl⟩⟩

/-! ## Plain replacements -/

theorem Replacement.of_plain (h : IsPlain u) (hnl : '\n' ∉ u) : Replacement m u u := by
  induction u with
  | nil => exact .nil
  | cons c u ih =>
    obtain ⟨hc, hu⟩ := List.forall_mem_cons.mp h
    rw [List.mem_cons, not_or] at hnl
    exact .char hc (Ne.symm hnl.1) (ih hu hnl.2)

theorem Replacement.eq_of_plain (hr : Replacement m u r) (h : IsPlain u) : r = u := by
  induction hr with
  | nil => rfl
  | char hc hnl hr ih => rw [ih (List.forall_mem_cons.mp h).2]
  | matched hr ih => exact absurd rfl (h _ List.mem_cons_self).1
  | escaped hc hr ih => exact absurd rfl (h _ List.mem_cons_self).2.1

theorem Replacement.not_mem_newline (hm : '\n' ∉ m) (h : Replacement m u r) : '\n' ∉ r := by
  induction h with
  | nil => exact List.not_mem_nil
  | char hc hnl h ih => simpa [Ne.symm hnl] using ih
  | matched h ih => simpa [hm] using ih
  | escaped hc h ih =>
    rw [List.mem_cons, not_or]
    refine ⟨?_, ih⟩
    rintro rfl
    exact absurd hc (by decide)

/-- Reading loses a backslash at every escape. -/
theorem Replacement.count_le (hm : '\\' ∉ m) (h : Replacement m u r) :
    r.count '\\' ≤ u.count '\\' := by
  induction h with
  | nil => exact le_rfl
  | char hc hnl h ih => rwa [List.count_cons_of_ne hc.2.1, List.count_cons_of_ne hc.2.1]
  | matched h ih =>
    rwa [List.count_append, List.count_eq_zero.mpr hm, Nat.zero_add, List.count_cons_of_ne (by decide)]
  | escaped hc h ih =>
    simp only [List.count_cons, beq_self_eq_true, if_true]
    omega

/-- Reading loses every `&` but those behind a backslash. -/
theorem Replacement.count_amp_le (hm : '&' ∉ m) (h : Replacement m u r) :
    r.count '&' ≤ u.count '&' := by
  induction h with
  | nil => exact le_rfl
  | char hc hnl h ih => rwa [List.count_cons_of_ne hc.1, List.count_cons_of_ne hc.1]
  | matched h ih =>
    rw [List.count_append, List.count_eq_zero.mpr hm, Nat.zero_add, List.count_cons]
    omega
  | escaped hc h ih =>
    simp only [List.count_cons]
    omega

/-- **A replacement that keeps its backslashes and its `&`s is plain.** -/
theorem Replacement.plain_of_count (hm : '\\' ∉ m ∧ '&' ∉ m) (h : Replacement m u r)
    (hslash : r.count '\\' = u.count '\\') (hamp : r.count '&' = u.count '&') : IsPlain u := by
  induction h with
  | nil => exact List.forall_mem_nil _
  | char hc hnl h ih =>
    rw [List.count_cons_of_ne hc.2.1, List.count_cons_of_ne hc.2.1] at hslash
    rw [List.count_cons_of_ne hc.1, List.count_cons_of_ne hc.1] at hamp
    exact List.forall_mem_cons.mpr ⟨hc, ih hslash hamp⟩
  | @matched u r h ih =>
    -- the match has no `&`, so that one is lost
    have hle := h.count_amp_le hm.2
    simp [List.count_eq_zero.mpr hm.2] at hamp
    omega
  | @escaped c u r hc h ih =>
    have hle := h.count_le hm.1
    simp only [List.count_cons, beq_self_eq_true, if_true] at hslash
    omega

/-- **Substitutions that give every value back are of plain replacements**: the last one keeps its
backslashes and its `&`s, and so do those in front of it, as plain values bring in none. -/
theorem plain_of_settled {σ : Type} [DecidableEq σ] {marker value read : σ → Text}
    (hmarker : ∀ i, marker i ≠ [] ∧ '\\' ∉ marker i ∧ '&' ∉ marker i) {slots : List σ}
    (hnodup : slots.Nodup) (hread : ∀ i ∈ slots, Replacement (marker i) (value i) (read i))
    (hsettled : ∀ i ∈ slots, substituteAll marker read (later slots i) (read i) = value i) :
    ∀ i ∈ slots, IsPlain (value i) := by
  induction slots with
  | nil => exact List.forall_mem_nil _
  | cons i slots ih =>
    rw [List.nodup_cons] at hnodup
    obtain ⟨hi, hslots⟩ := List.forall_mem_cons.mp hread
    have hrest : ∀ j ∈ slots, IsPlain (value j) := by
      refine ih hnodup.2 hslots fun j hj => ?_
      have hne : i ≠ j := by
        rintro rfl
        exact hnodup.1 hj
      have hsettledj := hsettled j (List.mem_cons_of_mem i hj)
      rwa [later_cons_of_ne hne] at hsettledj
    have hfirst := hsettled i List.mem_cons_self
    rw [later_cons_self] at hfirst
    have hcount : ∀ c, c = '\\' ∨ c = '&' → (read i).count c = (value i).count c := by
      intro c hc
      rw [← hfirst]
      refine (count_substituteAll (fun j hj => ⟨(hmarker j).1, ?_, ?_⟩) _).symm
      · rcases hc with rfl | rfl
        · exact (hmarker j).2.1
        · exact (hmarker j).2.2
      · rw [(hslots j hj).eq_of_plain (hrest j hj)]
        intro hmem
        rcases hc with rfl | rfl
        · exact (hrest j hj _ hmem).2.1 rfl
        · exact (hrest j hj _ hmem).1 rfl
    exact List.forall_mem_cons.mpr
      ⟨hi.plain_of_count (hmarker i).2 (hcount _ (Or.inl rfl)) (hcount _ (Or.inr rfl)), hrest⟩

/-- The substitutions on a line, one after another. -/
def applyAll (cmds : Subst) (l : Text) : Text := cmds.foldl (fun s c => substitute [c] s) l

theorem applyAll_bindings {σ : Type} (marker value : σ → Text) (slots : List σ) (l : Text) :
    applyAll (bindings marker value slots) l = substituteAll marker value slots l := by
  rw [applyAll, bindings, List.foldl_map, substituteAll]

end Sed

/-- A `sed`: what it prints for its scripts and the lines of a file, unless it fails. -/
structure Sed where
  run : List Text → List Text → Option (List Text)
  /-- The scripts that are read run on every line. -/
  run_commands : ∀ {scripts : List Text} {cmds : Subst},
    scripts.map Sed.readCommand = cmds.map some →
      ∀ file, run scripts file = some (file.map (Sed.applyAll cmds))

namespace Sed

/-- The commands of scripts that are all read. -/
def commands (scripts : List Text) : Option Subst := scripts.mapM readCommand

theorem commands_eq_some {scripts : List Text} {cmds : Subst} :
    commands scripts = some cmds ↔ scripts.map readCommand = cmds.map some := by
  induction scripts generalizing cmds with
  | nil => cases cmds <;> simp [commands]
  | cons e scripts ih =>
    have hcons : commands (e :: scripts) =
        (readCommand e).bind fun c => (commands scripts).map fun cmds => c :: cmds := by
      simp only [commands, List.mapM_cons, Option.bind_eq_bind, Option.pure_def,
        Option.map_eq_bind, Function.comp_def]
    rw [hcons, List.map_cons]
    cases readCommand e with
    | none => cases cmds <;> simp
    | some c =>
      rw [Option.bind_some, Option.map_eq_some_iff]
      constructor
      · rintro ⟨cmds, h, rfl⟩
        rw [ih.mp h, List.map_cons]
      · intro h
        cases cmds with
        | nil => cases h
        | cons d cmds =>
          obtain ⟨hd, htail⟩ := List.cons.inj h
          exact ⟨cmds, ih.mpr htail, by rw [Option.some.inj hd]⟩

/-- A `sed` that fails where anything else is asked of it. -/
def strict : Sed where
  run scripts file := (commands scripts).map fun cmds => file.map (applyAll cmds)
  run_commands h file := by rw [commands_eq_some.mpr h, Option.map_some]

end Sed
