import CpeCloud.Lib.Text
import Mathlib.Data.List.Find

/-!
# Substitution, and templates

`substitute subs s` replaces the markers of `subs` by their values, all at once: from left to right,
the first that stands at a place, and no value is read again. A template's `Line` is text with slots
in it, and `Line.Neat` says that no text of it can be part of a marker.

* `substitute_append`: two texts no marker reaches across are substituted on their own.
* **`substitute_fill`**: of a neat line, only what stands in its slots is substituted.
* **`substituteAll_marker`**: of substitutions made one after another, a slot sees its own and the
  later ones.
-/

namespace Template

/-- Markers with their values. -/
abbrev Subst := List (Text × Text)

/-- `substitute`, behind `skip` characters of a marker. -/
def substituteFrom (subs : Subst) : Nat → Text → Text
  | _, [] => []
  | skip + 1, _ :: s => substituteFrom subs skip s
  | 0, c :: s =>
    match subs.find? fun m => m.1.isPrefixOf (c :: s) with
    | some m => m.2 ++ substituteFrom subs (m.1.length - 1) s
    | none => c :: substituteFrom subs 0 s

/-- The text with the markers replaced. -/
def substitute (subs : Subst) (s : Text) : Text := substituteFrom subs 0 s

variable {subs : Subst}

theorem substituteFrom_drop (skip : Nat) (s : Text) :
    substituteFrom subs skip s = substitute subs (s.drop skip) := by
  induction s generalizing skip with
  | nil => simp [substitute, substituteFrom]
  | cons c s ih =>
    cases skip with
    | zero => rfl
    | succ skip => exact ih skip

theorem substitute_nil : substitute subs [] = [] := rfl

theorem isPrefix_of_find {s : Text} {m : Text × Text}
    (h : (subs.find? fun m => m.1.isPrefixOf s) = some m) : m.1 <+: s := by
  have hm := List.find?_some h
  exact List.isPrefixOf_iff_prefix.mp hm

/-- Without a marker at its start, a text keeps its first character. -/
theorem substitute_cons_of_none {c : Char} {s : Text} (h : ∀ m ∈ subs, ¬ m.1 <+: c :: s) :
    substitute subs (c :: s) = c :: substitute subs s := by
  have hnone : (subs.find? fun m => m.1.isPrefixOf (c :: s)) = none :=
    List.find?_eq_none.mpr fun m hm hp => h m hm (List.isPrefixOf_iff_prefix.mp hp)
  simp only [substitute, substituteFrom, hnone]

/-- The first marker that stands at the start is replaced. -/
theorem substitute_of_find {s : Text} {m : Text × Text} (hne : m.1 ≠ [])
    (h : (subs.find? fun m => m.1.isPrefixOf s) = some m) :
    substitute subs s = m.2 ++ substitute subs (s.drop m.1.length) := by
  have hstart := isPrefix_of_find h
  cases s with
  | nil => exact absurd (List.prefix_nil.mp hstart) hne
  | cons c s =>
    obtain ⟨d, t, hm⟩ := List.exists_cons_of_ne_nil hne
    have hlength : m.1.length = t.length + 1 := by rw [hm, List.length_cons]
    rw [substitute, substituteFrom, h]
    simp only [substituteFrom_drop, hlength, List.drop_succ_cons, Nat.add_sub_cancel]

/-- A text without markers stays as it is. -/
theorem substitute_eq_self {s : Text} (h : ∀ m ∈ subs, ¬ m.1 <:+: s) : substitute subs s = s := by
  induction s with
  | nil => rfl
  | cons c s ih =>
    rw [substitute_cons_of_none fun m hm hp => h m hm hp.isInfix,
      ih fun m hm hi => h m hm (hi.trans (List.suffix_cons c s).isInfix)]

/-! ## Texts side by side -/

/-- The marker cannot begin in `a` and end in `b`. -/
def Apart (marker a b : Text) : Prop :=
  ∀ p s, marker = p ++ s → p ≠ [] → s ≠ [] → p <:+ a → ¬ s <+: b

theorem Apart.of_suffix {marker a a' b : Text} (h : Apart marker a b) (ha : a' <:+ a) :
    Apart marker a' b :=
  fun p s hm hp hs hsuffix => h p s hm hp hs (hsuffix.trans ha)

theorem Apart.prefix_append_iff {marker a b : Text} (h : Apart marker a b) (ha : a ≠ []) :
    marker <+: a ++ b ↔ marker <+: a := by
  refine ⟨fun hm => ?_, fun hm => hm.trans (List.prefix_append a b)⟩
  rcases List.prefix_or_prefix_of_prefix hm (List.prefix_append a b) with hma | ⟨s, rfl⟩
  · exact hma
  · rcases eq_or_ne s [] with rfl | hs
    · rw [List.append_nil]
    · have hsb := (List.prefix_append_right_inj a).mp hm
      exact absurd hsb (h a s rfl ha hs List.suffix_rfl)

theorem substituteFrom_append {a b : Text} (h : ∀ m ∈ subs, Apart m.1 a b) {skip : Nat}
    (hskip : skip ≤ a.length) :
    substituteFrom subs skip (a ++ b) = substituteFrom subs skip a ++ substitute subs b := by
  induction a generalizing skip with
  | nil =>
    obtain rfl := Nat.le_zero.mp hskip
    rfl
  | cons c a ih =>
    have htail := fun m hm => (h m hm).of_suffix (List.suffix_cons c a)
    cases skip with
    | succ skip => exact ih htail (Nat.le_of_succ_le_succ hskip)
    | zero =>
      have hfind : (subs.find? fun m => m.1.isPrefixOf (c :: (a ++ b))) =
          subs.find? fun m => m.1.isPrefixOf (c :: a) := by
        refine List.find?_congr fun m hm => ?_
        rw [Bool.eq_iff_iff, List.isPrefixOf_iff_prefix, List.isPrefixOf_iff_prefix]
        exact (h m hm).prefix_append_iff (List.cons_ne_nil c a)
      rw [List.cons_append, substituteFrom, substituteFrom, hfind]
      cases hm : subs.find? fun m => m.1.isPrefixOf (c :: a) with
      | none => simp only [ih htail (Nat.zero_le _), List.cons_append]
      | some m =>
        have hle := (isPrefix_of_find hm).length_le
        rw [List.length_cons] at hle
        have hskip : m.1.length - 1 ≤ a.length := by omega
        simp only [ih htail hskip, List.append_assoc]

/-- **Two texts no marker reaches across** are substituted on their own. -/
theorem substitute_append {a b : Text} (h : ∀ m ∈ subs, Apart m.1 a b) :
    substitute subs (a ++ b) = substitute subs a ++ substitute subs b :=
  substituteFrom_append h (Nat.zero_le _)

/-- A character that neither markers nor values have keeps its number. -/
theorem count_substitute {c : Char} (h : ∀ m ∈ subs, m.1 ≠ [] ∧ c ∉ m.1 ∧ c ∉ m.2) (s : Text) :
    (substitute subs s).count c = s.count c := by
  induction hn : s.length using Nat.strong_induction_on generalizing s with
  | _ n ih =>
    subst hn
    cases hfind : subs.find? fun m => m.1.isPrefixOf s with
    | some m =>
      obtain ⟨hne, hmarker, hvalue⟩ := h m (List.mem_of_find?_eq_some hfind)
      obtain ⟨t, rfl⟩ := isPrefix_of_find hfind
      have hlt : t.length < (m.1 ++ t).length := by
        rw [List.length_append]
        have hpos := List.length_pos_iff.mpr hne
        omega
      rw [substitute_of_find hne hfind, List.drop_left, List.count_append, List.count_append,
        ih _ hlt t rfl, List.count_eq_zero.mpr hmarker, List.count_eq_zero.mpr hvalue]
    | none =>
      cases s with
      | nil => rfl
      | cons d s =>
        have hno : ∀ m ∈ subs, ¬ m.1 <+: d :: s := fun m hm hp =>
          List.find?_eq_none.mp hfind m hm (List.isPrefixOf_iff_prefix.mpr hp)
        rw [substitute_cons_of_none hno, List.count_cons, List.count_cons,
          ih _ (Nat.lt_succ_self _) s rfl]

theorem not_mem_substitute {c : Char} (h : ∀ m ∈ subs, m.1 ≠ [] ∧ c ∉ m.1 ∧ c ∉ m.2) {s : Text}
    (hs : c ∉ s) : c ∉ substitute subs s := by
  rw [← List.count_eq_zero, count_substitute h s]
  exact List.count_eq_zero.mpr hs

/-- Markers of one line are replaced line by line. -/
theorem substitute_unlines (h : ∀ m ∈ subs, m.1 ≠ [] ∧ '\n' ∉ m.1) (ls : List Text) :
    substitute subs (Text.unlines ls) = Text.unlines (ls.map (substitute subs)) := by
  induction ls with
  | nil => rfl
  | cons l ls ih =>
    have hapart : ∀ m ∈ subs, Apart m.1 l ('\n' :: Text.unlines ls) := by
      rintro m hm p s hmarker - hs - hstart
      obtain ⟨c, s, rfl⟩ := List.exists_cons_of_ne_nil hs
      obtain ⟨rfl, -⟩ := List.cons_prefix_cons.mp hstart
      exact (h m hm).2 (by rw [hmarker]; simp)
    have hnewline : ∀ m ∈ subs, ¬ m.1 <+: '\n' :: Text.unlines ls := by
      intro m hm hstart
      obtain ⟨c, s, hmarker⟩ := List.exists_cons_of_ne_nil (h m hm).1
      rw [hmarker, List.cons_prefix_cons] at hstart
      exact (h m hm).2 (by rw [hmarker, hstart.1]; exact List.mem_cons_self)
    rw [Text.unlines_cons, substitute_append hapart, substitute_cons_of_none hnewline, ih,
      List.map_cons, Text.unlines_cons]

/-! ## Lines of a template -/

section Line

variable {σ : Type} {marker value : σ → Text}

/-- A line: a text, and the slots with the text behind each. -/
structure Line (σ : Type) where
  head : Text
  rest : List (σ × Text)

/-- `lex`, behind `skip` characters of a marker. -/
def lexFrom (marker : σ → Text) (slots : List σ) : Nat → Text → Line σ
  | _, [] => ⟨[], []⟩
  | skip + 1, _ :: s => lexFrom marker slots skip s
  | 0, c :: s =>
    match slots.find? fun i => (marker i).isPrefixOf (c :: s) with
    | some i =>
      let l := lexFrom marker slots ((marker i).length - 1) s
      ⟨[], (i, l.head) :: l.rest⟩
    | none =>
      let l := lexFrom marker slots 0 s
      ⟨c :: l.head, l.rest⟩

/-- A line with its markers found, from left to right. -/
def lex (marker : σ → Text) (slots : List σ) (s : Text) : Line σ := lexFrom marker slots 0 s

/-- The slots with these in them. -/
def fillRest (w : σ → Text) (rest : List (σ × Text)) : Text := rest.flatMap fun x => w x.1 ++ x.2

/-- The line with these in its slots. -/
def Line.fill (w : σ → Text) (l : Line σ) : Text := l.head ++ fillRest w l.rest

theorem lexFrom_fill (hne : ∀ i, marker i ≠ []) (slots : List σ) {skip : Nat} (s : Text) :
    (lexFrom marker slots skip s).fill marker = s.drop skip := by
  induction s generalizing skip with
  | nil => simp [lexFrom, Line.fill, fillRest]
  | cons c s ih =>
    cases skip with
    | succ skip => exact ih
    | zero =>
      rw [lexFrom, List.drop_zero]
      cases hfind : slots.find? fun i => (marker i).isPrefixOf (c :: s) with
      | none =>
        have hrest := @ih 0
        rw [List.drop_zero] at hrest
        exact congrArg (c :: ·) hrest
      | some i =>
        have hmarker := List.find?_some hfind
        obtain ⟨t, ht⟩ := List.isPrefixOf_iff_prefix.mp hmarker
        obtain ⟨d, m, hm⟩ := List.exists_cons_of_ne_nil (hne i)
        rw [hm, List.cons_append] at ht
        obtain ⟨rfl, rfl⟩ := List.cons.inj ht
        have hrest := @ih ((marker i).length - 1)
        rw [hm, List.length_cons, Nat.add_sub_cancel, List.drop_left] at hrest
        simp only [Line.fill, fillRest, List.nil_append, List.flatMap_cons, hm, List.cons_append,
          List.length_cons, Nat.add_sub_cancel, List.append_assoc] at hrest ⊢
        rw [hrest]

theorem lex_fill (hne : ∀ i, marker i ≠ []) (slots : List σ) (s : Text) :
    (lex marker slots s).fill marker = s := lexFrom_fill hne slots s

/-- The slots of a line. -/
def Line.slots (l : Line σ) : List σ := l.rest.map Prod.fst

theorem fillRest_congr {rest : List (σ × Text)} {w v : σ → Text}
    (h : ∀ i ∈ rest.map Prod.fst, w i = v i) : fillRest w rest = fillRest v rest :=
  List.flatMap_congr fun x hx => by rw [h x.1 (List.mem_map_of_mem hx)]

/-- What a line shows in a slot, if it shows the same in all others. -/
theorem eq_of_fill_eq {l : Line σ} {front back : List σ} {i : σ}
    (hl : l.slots = front ++ i :: back) {w v : σ → Text} (h : l.fill w = l.fill v)
    (hfront : ∀ j ∈ front, w j = v j) (hback : ∀ j ∈ back, w j = v j) : w i = v i := by
  obtain ⟨before, rest, hrest, rfl, hmap⟩ := List.map_eq_append_iff.mp hl
  obtain ⟨⟨j, t⟩, after, rfl, rfl, rfl⟩ := List.map_eq_cons_iff.mp hmap
  have hsplit : ∀ u : σ → Text, l.fill u =
      (l.head ++ fillRest u before) ++ (u j ++ (t ++ fillRest u after)) := by
    intro u
    simp only [Line.fill, fillRest, hrest, List.flatMap_append, List.flatMap_cons,
      List.append_assoc]
  rw [hsplit, hsplit, fillRest_congr hfront, fillRest_congr hback] at h
  exact List.append_cancel_right (List.append_cancel_left h)

/-- The two parts of a marker, for every place inside it. -/
def cuts (m : Text) : List (Text × Text) :=
  ((List.range m.length).drop 1).map fun k => (m.take k, m.drop k)

/-- The marker can begin in `a` and end behind it. -/
def opens (m a : Text) : Bool := (cuts m).any fun c => c.1.isSuffixOf a

/-- The marker can begin in front of `b` and end in it or behind it. -/
def closes (m b : Text) : Bool := (cuts m).any fun c => c.2.isPrefixOf b || b.isPrefixOf c.2

/-- The text is in no text of the line. -/
def Line.free (o : Text) (l : Line σ) : Bool :=
  decide (¬ o <:+: l.head) && l.rest.all fun x => decide (¬ o <:+: x.2)

/-- The marker reaches into none of the texts behind the slots. -/
def clearRest (m : Text) : List (σ × Text) → Bool
  | [] => true
  | (_, t) :: rest => !closes m t && (rest.isEmpty || !opens m t) && clearRest m rest

/-- The marker reaches from no slot into a text of the line. -/
def Line.clear (m : Text) (l : Line σ) : Bool :=
  (l.rest.isEmpty || !opens m l.head) && clearRest m l.rest

theorem mem_cuts {p s : Text} (hp : p ≠ []) (hs : s ≠ []) : (p, s) ∈ cuts (p ++ s) := by
  have hpos := List.length_pos_iff.mpr hp
  have hpos' := List.length_pos_iff.mpr hs
  refine List.mem_map.mpr ⟨p.length, ?_, by rw [List.take_left, List.drop_left]⟩
  rw [List.mem_drop_iff_getElem]
  refine ⟨p.length - 1, by simp; omega, ?_⟩
  rw [List.getElem_range]
  omega

theorem apart_of_not_opens {m a : Text} (h : opens m a = false) (b : Text) : Apart m a b := by
  rintro p s rfl hp hs hsuffix -
  have hcut := List.any_eq_false.mp h _ (mem_cuts hp hs)
  exact hcut (List.isSuffixOf_iff_suffix.mpr hsuffix)

theorem apart_of_not_closes {m b : Text} (h : closes m b = false) (a c : Text) :
    Apart m a (b ++ c) := by
  rintro p s rfl hp hs - hstart
  have hcut := List.any_eq_false.mp h _ (mem_cuts hp hs)
  rw [Bool.or_eq_true, List.isPrefixOf_iff_prefix, List.isPrefixOf_iff_prefix] at hcut
  exact hcut (List.prefix_or_prefix_of_prefix hstart (List.prefix_append b c))

theorem apart_nil (m a : Text) : Apart m a [] :=
  fun _ _ _ _ hs _ hstart => hs (List.prefix_nil.mp hstart)

/-- In front of the slots, if there are any. -/
theorem apart_fillRest {m a : Text} {rest : List (σ × Text)}
    (h : (rest.isEmpty || !opens m a) = true) (w : σ → Text) : Apart m a (fillRest w rest) := by
  cases rest with
  | nil => exact apart_nil m a
  | cons x rest => exact apart_of_not_opens (by simpa using h) _

theorem substitute_fillRest {rest : List (σ × Text)}
    (hfree : ∀ m ∈ subs, ∀ x ∈ rest, ¬ m.1 <:+: x.2)
    (h : ∀ m ∈ subs, clearRest m.1 rest = true) (w : σ → Text) :
    substitute subs (fillRest w rest) = fillRest (fun i => substitute subs (w i)) rest := by
  induction rest with
  | nil => rfl
  | cons x rest ih =>
    obtain ⟨i, t⟩ := x
    simp only [clearRest, Bool.and_eq_true, Bool.not_eq_true'] at h
    have hslot : ∀ m ∈ subs, Apart m.1 (w i) (t ++ fillRest w rest) :=
      fun m hm => apart_of_not_closes (h m hm).1.1 _ _
    have htext : ∀ m ∈ subs, Apart m.1 t (fillRest w rest) :=
      fun m hm => apart_fillRest (h m hm).1.2 w
    have hself : substitute subs t = t :=
      substitute_eq_self fun m hm => hfree m hm _ List.mem_cons_self
    have hrest := ih (fun m hm x hx => hfree m hm x (List.mem_cons_of_mem _ hx)) fun m hm => (h m hm).2
    rw [fillRest, List.flatMap_cons, ← fillRest, List.append_assoc, substitute_append hslot,
      substitute_append htext, hself, hrest, fillRest, fillRest, List.flatMap_cons,
      List.append_assoc]

/-- Markers that all begin with a text that a line is free of, and that reach nowhere into it. -/
def Line.Neat (o : Text) (ms : List Text) (l : Line σ) : Prop :=
  l.free o = true ∧ ∀ m ∈ ms, o <+: m ∧ l.clear m = true

/-- **Of a neat line, only what stands in its slots is substituted.** -/
theorem substitute_fill {o : Text} {l : Line σ} (h : l.Neat o (subs.map Prod.fst)) (w : σ → Text) :
    substitute subs (l.fill w) = l.fill fun i => substitute subs (w i) := by
  obtain ⟨hfree, hms⟩ := h
  rw [List.forall_mem_map] at hms
  simp only [Line.free, Bool.and_eq_true, List.all_eq_true, decide_eq_true_eq] at hfree
  simp only [Line.clear, Bool.and_eq_true] at hms
  have hno : ∀ m ∈ subs, ∀ t, ¬ o <:+: t → ¬ m.1 <:+: t :=
    fun m hm t ht hinfix => ht ((hms m hm).1.isInfix.trans hinfix)
  have hhead : ∀ m ∈ subs, Apart m.1 l.head (fillRest w l.rest) :=
    fun m hm => apart_fillRest (hms m hm).2.1 w
  rw [Line.fill, substitute_append hhead,
    substitute_eq_self fun m hm => hno m hm _ hfree.1,
    substitute_fillRest (fun m hm x hx => hno m hm _ (hfree.2 x hx)) fun m hm => (hms m hm).2.2]
  rfl

/-- The markers of the slots with their values. -/
def bindings (marker value : σ → Text) (slots : List σ) : Subst :=
  slots.map fun i => (marker i, value i)

/-- The slots one after another. -/
def substituteAll (marker value : σ → Text) (slots : List σ) (s : Text) : Text :=
  slots.foldl (fun s i => substitute [(marker i, value i)] s) s

theorem substituteAll_fill {o : Text} {slots : List σ} {l : Line σ}
    (h : l.Neat o (slots.map marker)) (w : σ → Text) :
    substituteAll marker value slots (l.fill w) =
      l.fill fun i => substituteAll marker value slots (w i) := by
  induction slots generalizing w with
  | nil => rfl
  | cons i slots ih =>
    obtain ⟨hfree, hms⟩ := h
    obtain ⟨hi, hslots⟩ := List.forall_mem_cons.mp hms
    have hfirst : l.Neat o ([(marker i, value i)].map Prod.fst) :=
      ⟨hfree, List.forall_mem_singleton.mpr hi⟩
    rw [substituteAll, List.foldl_cons, substitute_fill hfirst]
    exact ih ⟨hfree, hslots⟩ _

theorem substituteAll_eq_self {slots : List σ} {s : Text} (h : ∀ i ∈ slots, ¬ marker i <:+: s) :
    substituteAll marker value slots s = s := by
  induction slots with
  | nil => rfl
  | cons i slots ih =>
    obtain ⟨hi, hslots⟩ := List.forall_mem_cons.mp h
    rw [substituteAll, List.foldl_cons, substitute_eq_self (List.forall_mem_singleton.mpr hi)]
    exact ih hslots

theorem count_substituteAll {c : Char} {slots : List σ}
    (h : ∀ i ∈ slots, marker i ≠ [] ∧ c ∉ marker i ∧ c ∉ value i) (s : Text) :
    (substituteAll marker value slots s).count c = s.count c := by
  induction slots generalizing s with
  | nil => rfl
  | cons i slots ih =>
    obtain ⟨hi, hslots⟩ := List.forall_mem_cons.mp h
    rw [substituteAll, List.foldl_cons]
    exact (ih hslots _).trans (count_substitute (List.forall_mem_singleton.mpr hi) s)

/-- No marker is part of another. -/
def Distinct (marker : σ → Text) : Prop :=
  (∀ i, marker i ≠ []) ∧ ∀ i j, marker i <:+: marker j → i = j

theorem substitute_marker (hm : Distinct marker) (i : σ) :
    substitute [(marker i, value i)] (marker i) = value i := by
  have hfind : ([(marker i, value i)].find? fun m => m.1.isPrefixOf (marker i)) =
      some (marker i, value i) :=
    List.find?_cons_of_pos (List.isPrefixOf_iff_prefix.mpr List.prefix_rfl)
  rw [substitute_of_find (hm.1 i) hfind, List.drop_length, substitute_nil, List.append_nil]

/-- All at once, a slot's marker becomes its value. -/
theorem substitute_bindings (hm : Distinct marker) {slots : List σ} {i : σ} (hi : i ∈ slots) :
    substitute (bindings marker value slots) (marker i) = value i := by
  have hfind : ((bindings marker value slots).find? fun m => m.1.isPrefixOf (marker i)) =
      some (marker i, value i) := by
    induction slots with
    | nil => cases hi
    | cons j slots ih =>
      rw [bindings, List.map_cons]
      by_cases hj : marker j <+: marker i
      · obtain rfl := hm.2 j i hj.isInfix
        exact List.find?_cons_of_pos (List.isPrefixOf_iff_prefix.mpr hj)
      · have hne : i ≠ j := by
          rintro rfl
          exact hj List.prefix_rfl
        have hno : (marker j).isPrefixOf (marker i) = false :=
          Bool.eq_false_iff.mpr fun h => hj (List.isPrefixOf_iff_prefix.mp h)
        simp only [List.find?_cons, hno]
        exact ih ((List.mem_cons.mp hi).resolve_left hne)
  rw [substitute_of_find (hm.1 i) hfind, List.drop_length, substitute_nil, List.append_nil]

variable [DecidableEq σ]

/-- The slots behind a slot. -/
def later (slots : List σ) (i : σ) : List σ := (slots.dropWhile fun j => j ≠ i).tail

theorem later_cons_self (i : σ) (slots : List σ) : later (i :: slots) i = slots := by
  rw [later, List.dropWhile_cons_of_neg (by simp), List.tail_cons]

theorem later_cons_of_ne {i j : σ} (h : i ≠ j) (slots : List σ) :
    later (i :: slots) j = later slots j := by
  rw [later, List.dropWhile_cons_of_pos (by simpa using h), later]

/-- **One after another, a slot's marker becomes its value** as the later ones leave it. -/
theorem substituteAll_marker (hm : Distinct marker) {slots : List σ} {i : σ} (hi : i ∈ slots) :
    substituteAll marker value slots (marker i) =
      substituteAll marker value (later slots i) (value i) := by
  induction slots with
  | nil => cases hi
  | cons j slots ih =>
    by_cases hj : j = i
    · subst hj
      rw [substituteAll, List.foldl_cons, substitute_marker hm, later_cons_self]
      rfl
    · have hself : substitute [(marker j, value j)] (marker i) = marker i :=
        substitute_eq_self (List.forall_mem_singleton.mpr fun h => hj (hm.2 j i h))
      rw [substituteAll, List.foldl_cons, hself, later_cons_of_ne hj]
      exact ih ((List.mem_cons.mp hi).resolve_left (Ne.symm hj))

end Line

end Template
