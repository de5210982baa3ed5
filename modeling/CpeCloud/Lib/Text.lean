import Mathlib.Data.List.Basic
import Mathlib.Data.List.DropRight
import Mathlib.Data.List.Infix

/-!
# Python strings as character lists

A `str` is the list of its code points. The operations are the ones of Python's `str`, for any
text:

* `isSpace`, `strip`, `lstrip`, `rstrip`: whitespace in Python's sense (`str.isspace`).
* `find`: the offset of the first occurrence of a needle.
* `lines`, `unlines`: the pieces between newline characters (`s.split("\n")`), and lines that all end
  in one.
* `Spelled`: the characters of string literals.
* `normalize`: the universal-newline translation of a file read in text mode.

`find_append_line` is the fact a line-based format rests on: a needle without a newline that does
not occur in a block is not found across the end of the block's last line.
-/

/-- A Python `str`: its code points. -/
abbrev Text := List Char

namespace Text

/-! ## Whitespace -/

/-- `str.isspace` on one character. -/
def isSpace (c : Char) : Bool :=
  let n := c.toNat
  (9 ≤ n && n ≤ 13) || (28 ≤ n && n ≤ 32) || n == 0x85 || n == 0xa0 || n == 0x1680 ||
    (0x2000 ≤ n && n ≤ 0x200a) || n == 0x2028 || n == 0x2029 || n == 0x202f || n == 0x205f ||
    n == 0x3000

/-- `s.lstrip()`. -/
def lstrip (s : Text) : Text := s.dropWhile isSpace

/-- `s.rstrip()`. -/
def rstrip (s : Text) : Text := s.rdropWhile isSpace

/-- `s.strip()`. -/
def strip (s : Text) : Text := rstrip (lstrip s)

theorem rstrip_append_space (s : Text) {c : Char} (h : isSpace c = true) :
    rstrip (s ++ [c]) = rstrip s :=
  List.rdropWhile_concat_pos _ _ _ h

theorem rstrip_append_nonspace (s : Text) {c : Char} (h : isSpace c = false) :
    rstrip (s ++ [c]) = s ++ [c] :=
  List.rdropWhile_concat_neg _ _ _ (by simp [h])

theorem rstrip_rstrip (s : Text) : rstrip (rstrip s) = rstrip s :=
  List.rdropWhile_idempotent _ _

theorem rstrip_isPrefix (s : Text) : rstrip s <+: s := List.rdropWhile_prefix _ _

theorem rdropWhile_append_of_all {p : Char → Bool} (s : Text) {r : Text}
    (hr : ∀ c ∈ r, p c = true) : (s ++ r).rdropWhile p = s.rdropWhile p := by
  induction r using List.reverseRecOn with
  | nil => rw [List.append_nil]
  | append_singleton r d ih =>
    rw [← List.append_assoc, List.rdropWhile_concat_pos _ _ _ (hr d (by simp))]
    exact ih fun c hc => hr c (List.mem_append_left _ hc)

theorem rstrip_append_spaces (s : Text) {w : Text} (h : ∀ c ∈ w, isSpace c = true) :
    rstrip (s ++ w) = rstrip s :=
  rdropWhile_append_of_all s h

/-- What ends in a character that is no whitespace is not cut into. -/
theorem isPrefix_rstrip (s : Text) {c : Char} (h : isSpace c = false) (t : Text) :
    s ++ [c] <+: rstrip (s ++ [c] ++ t) := by
  induction t using List.reverseRecOn with
  | nil => rw [List.append_nil, rstrip_append_nonspace _ h]
  | append_singleton t d ih =>
    rw [← List.append_assoc]
    by_cases hd : isSpace d = true
    · rw [rstrip_append_space _ hd]
      exact ih
    · rw [rstrip_append_nonspace _ (by simpa using hd), List.append_assoc]
      exact List.prefix_append _ _

/-- A text is its core between the characters that are dropped on its two sides. -/
theorem exists_around (p : Char → Bool) (s : Text) : ∃ l r, (∀ c ∈ l, p c = true) ∧
    (∀ c ∈ r, p c = true) ∧ s = l ++ (s.dropWhile p).rdropWhile p ++ r := by
  refine ⟨s.takeWhile p, (s.dropWhile p).rtakeWhile p, fun c hc => List.mem_takeWhile_imp hc,
    fun c hc => List.mem_rtakeWhile_imp hc, ?_⟩
  rw [List.append_assoc, List.rdropWhile_append_rtakeWhile, List.takeWhile_append_dropWhile]

/-- A text is what `strip` leaves between whitespace on its left and the rest. -/
theorem exists_append_strip (s : Text) :
    ∃ w t, s = w ++ strip s ++ t ∧ ∀ c ∈ w, isSpace c = true := by
  obtain ⟨l, r, hl, -, hs⟩ := exists_around isSpace s
  exact ⟨l, r, hs, hl⟩

theorem lstrip_subset (s : Text) : lstrip s ⊆ s := (List.dropWhile_sublist _).subset

theorem strip_subset (s : Text) : strip s ⊆ s :=
  fun _ hc => lstrip_subset s ((rstrip_isPrefix (lstrip s)).subset hc)

/-- What is not whitespace survives stripping. -/
theorem mem_strip {s : Text} {c : Char} (hc : isSpace c = false) (h : c ∈ s) : c ∈ strip s := by
  obtain ⟨l, r, hl, hr, hs⟩ := exists_around isSpace s
  rw [hs, List.mem_append, List.mem_append] at h
  rcases h with (h | h) | h
  · rw [hl c h] at hc
    cases hc
  · exact h
  · rw [hr c h] at hc
    cases hc

/-- Nothing that is stripped ends in whitespace. -/
theorem not_isSpace_of_suffix_strip {s : Text} {c : Char} (h : [c] <:+ strip s) :
    isSpace c = false := by
  obtain ⟨t, ht⟩ := h
  have hne : (lstrip s).rdropWhile isSpace ≠ [] := by
    rw [← rstrip, ← strip, ← ht]
    exact List.append_ne_nil_of_right_ne_nil _ (List.cons_ne_nil _ _)
  have hlast := List.rdropWhile_last_not isSpace (lstrip s) hne
  have hc : ((lstrip s).rdropWhile isSpace).getLast hne = c := by
    rw [List.getLast_congr hne (by simp) (show (lstrip s).rdropWhile isSpace = t ++ [c] from ht.symm),
      List.getLast_concat]
  rwa [hc, Bool.not_eq_true] at hlast

/-- A text without whitespace is not changed. -/
theorem strip_eq_self {s : Text} (h : ∀ c ∈ s, isSpace c = false) : strip s = s := by
  have hdrop : lstrip s = s := by
    cases s with
    | nil => rfl
    | cons c s => exact List.dropWhile_cons_of_neg (by simp [h c List.mem_cons_self])
  rw [strip, hdrop, rstrip]
  rcases List.eq_nil_or_concat' s with rfl | ⟨s, c, rfl⟩
  · rfl
  · exact List.rdropWhile_concat_neg _ _ _ (by simp [h c (by simp)])

/-! ## Searching -/

/-- `hay.find(needle)`, `none` for Python's `-1`. -/
def find (needle : Text) : Text → Option Nat
  | [] => if needle = [] then some 0 else none
  | c :: hay =>
    if needle.isPrefixOf (c :: hay) then some 0 else (find needle hay).map (· + 1)

theorem find_eq_none {needle : Text} : ∀ {hay : Text}, find needle hay = none → ¬ needle <:+: hay
  | [], h => by
    intro hi
    have : needle = [] := List.infix_nil.mp hi
    simp [find, this] at h
  | c :: hay, h => by
    simp only [find] at h
    split at h
    · simp at h
    · rename_i hp
      intro hi
      rcases List.infix_cons_iff.mp hi with hpre | hin
      · exact hp (List.isPrefixOf_iff_prefix.mpr hpre)
      · exact find_eq_none (by simpa using h) hin

theorem isInfix_of_find {needle : Text} :
    ∀ {hay : Text} {i : Nat}, find needle hay = some i → needle <:+: hay
  | [], i, h => by
    simp only [find] at h
    split at h
    · rename_i hn
      exact hn ▸ List.infix_refl _
    · cases h
  | c :: hay, i, h => by
    simp only [find] at h
    split at h
    · rename_i hp
      exact (List.isPrefixOf_iff_prefix.mp hp).isInfix
    · obtain ⟨j, hj, -⟩ := Option.map_eq_some_iff.mp h
      exact List.infix_cons (isInfix_of_find hj)

/-- No occurrence of the needle ends at or before the offset found. -/
theorem find_take {needle : Text} (hn : needle ≠ []) :
    ∀ {hay : Text} {k : Nat}, find needle hay = some k → ∀ j ≤ k, ¬ needle <:+: hay.take j
  | [], k, h, _, _ => by simp [find, hn] at h
  | c :: hay, k, h, j, hj => by
    intro hi
    cases j with
    | zero =>
      simp only [List.take_zero] at hi
      exact hn (List.infix_nil.mp hi)
    | succ j =>
      simp only [find] at h
      split at h
      · obtain rfl := Option.some.inj h
        omega
      · rename_i hp
        obtain ⟨k', hk', rfl⟩ := Option.map_eq_some_iff.mp h
        rw [List.take_succ_cons] at hi
        rcases List.infix_cons_iff.mp hi with hpre | hin
        · refine hp (List.isPrefixOf_iff_prefix.mpr (hpre.trans ?_))
          exact (List.cons_prefix_cons.mpr ⟨rfl, List.take_prefix j hay⟩)
        · exact find_take hn hk' j (by omega) hin

theorem find_isPrefix {needle : Text} (hay : Text) : find needle (needle ++ hay) = some 0 := by
  cases hs : needle ++ hay with
  | nil => simp [find, (List.append_eq_nil_iff.mp hs).1]
  | cons c t =>
    have : needle.isPrefixOf (c :: t) = true :=
      List.isPrefixOf_iff_prefix.mpr (hs ▸ List.prefix_append needle hay)
    simp [find, this]

/-- What is found is found no later than an occurrence. -/
theorem exists_find_le (needle y : Text) :
    ∀ x : Text, ∃ i ≤ x.length, find needle (x ++ needle ++ y) = some i
  | [] => ⟨0, le_rfl, find_isPrefix y⟩
  | c :: x => by
    obtain ⟨i, hi, h⟩ := exists_find_le needle y x
    simp only [List.cons_append, find]
    split
    · exact ⟨0, Nat.zero_le _, rfl⟩
    · exact ⟨i + 1, Nat.succ_le_succ hi, by rw [h, Option.map_some]⟩

/-- A prefix of `a ++ x :: b` that avoids `x` is a prefix of `a`. -/
theorem prefix_of_prefix_append {needle a b : Text} {x : Char} (hx : x ∉ needle)
    (h : needle <+: a ++ x :: b) : needle <+: a := by
  induction a generalizing needle with
  | nil =>
    cases needle with
    | nil => exact List.nil_prefix
    | cons c t =>
      have : c = x := (List.cons_prefix_cons.mp h).1
      exact absurd (this ▸ List.mem_cons_self) hx
  | cons c a ih =>
    cases needle with
    | nil => exact List.nil_prefix
    | cons d t =>
      obtain ⟨hd, ht⟩ := List.cons_prefix_cons.mp h
      exact List.cons_prefix_cons.mpr ⟨hd, ih (fun hm => hx (List.mem_cons_of_mem d hm)) ht⟩

/-- A needle without a newline that does not occur in `a` is not found across the newline that
ends `a`: the search goes on behind it. -/
theorem find_append_line {needle : Text} (hnl : '\n' ∉ needle) (hn : needle ≠ []) (b : Text) :
    ∀ {a : Text}, ¬ needle <:+: a →
      find needle (a ++ '\n' :: b) = (find needle b).map (· + (a.length + 1))
  | [], _ => by
    have : ¬ needle.isPrefixOf ('\n' :: b) = true := by
      intro hp
      have := prefix_of_prefix_append (a := []) hnl (List.isPrefixOf_iff_prefix.mp hp)
      exact hn (List.prefix_nil.mp this)
    simp [find, this]
  | c :: a, hno => by
    have hp : ¬ needle.isPrefixOf (c :: (a ++ '\n' :: b)) = true := by
      intro hp
      have := prefix_of_prefix_append (a := c :: a) hnl (List.isPrefixOf_iff_prefix.mp hp)
      exact hno this.isInfix
    have ih := find_append_line hnl hn b (a := a) fun h => hno (List.infix_cons h)
    simp only [List.cons_append, find, if_neg hp, ih, Option.map_map]
    congr 1

/-! ## Lines -/

/-- `s.split("\n")`. -/
def lines : Text → List Text
  | [] => [[]]
  | c :: s =>
    if c = '\n' then [] :: lines s
    else match lines s with
      | [] => [[c]]
      | l :: ls => (c :: l) :: ls

theorem lines_ne_nil (s : Text) : lines s ≠ [] := by
  cases s with
  | nil => simp [lines]
  | cons c s =>
    simp only [lines]
    split
    · simp
    · split <;> simp

theorem lines_append (b : Text) : ∀ a : Text, lines (a ++ '\n' :: b) = lines a ++ lines b
  | [] => by simp [lines]
  | c :: a => by
    simp only [List.cons_append, lines, lines_append b a]
    split
    · rfl
    · cases h : lines a with
      | nil => exact absurd h (lines_ne_nil a)
      | cons l ls => rfl

theorem lines_eq_singleton : ∀ {s : Text}, '\n' ∉ s → lines s = [s]
  | [], _ => rfl
  | c :: s, h => by
    have hc : c ≠ '\n' := fun e => h (e ▸ List.mem_cons_self)
    have ih := lines_eq_singleton fun hm => h (List.mem_cons_of_mem c hm)
    simp [lines, hc, ih]

/-- What stands in front of a text on its first line is on that line. -/
theorem exists_lines_append (s : Text) : ∀ {a : Text}, '\n' ∉ a →
    ∃ l, lines (a ++ s) = (a ++ l) :: (lines s).tail
  | [], _ => by
    obtain ⟨l, ls, hl⟩ := List.exists_cons_of_ne_nil (lines_ne_nil s)
    exact ⟨l, by simp [hl]⟩
  | c :: a, h => by
    have hc : c ≠ '\n' := fun e => h (e ▸ List.mem_cons_self)
    obtain ⟨l, hl⟩ := exists_lines_append s fun hm => h (List.mem_cons_of_mem c hm)
    exact ⟨l, by simp only [List.cons_append, lines, if_neg hc, hl]⟩

/-- The text of lines that all end in a newline. -/
def unlines (ls : List Text) : Text := ls.flatMap fun l => l ++ ['\n']

theorem unlines_cons (l : Text) (ls : List Text) : unlines (l :: ls) = l ++ '\n' :: unlines ls := by
  rw [unlines, List.flatMap_cons, List.append_assoc, List.singleton_append, unlines]

theorem lines_unlines {ls : List Text} (h : ∀ l ∈ ls, '\n' ∉ l) :
    lines (unlines ls) = ls ++ [[]] := by
  induction ls with
  | nil => rfl
  | cons l ls ih =>
    obtain ⟨hl, hls⟩ := List.forall_mem_cons.mp h
    rw [unlines_cons, lines_append, lines_eq_singleton hl, ih hls, List.singleton_append,
      List.cons_append]

/-- The lines of a text are its own. -/
theorem unlines_injOn {ls ls' : List Text} (h : ∀ l ∈ ls, '\n' ∉ l) (h' : ∀ l ∈ ls', '\n' ∉ l)
    (he : unlines ls = unlines ls') : ls = ls' := by
  have hlines := congrArg lines he
  rw [lines_unlines h, lines_unlines h'] at hlines
  exact List.append_cancel_right hlines

/-! ## Literals -/

/-- String literals and their characters. To compare a literal is faster than to decode it. -/
inductive Spelled : List String → List Text → Prop
  | nil : Spelled [] []
  | cons {s : String} {l : Text} {ss : List String} {ls : List Text} (hs : s = String.ofList l)
      (h : Spelled ss ls) : Spelled (s :: ss) (l :: ls)

theorem Spelled.eq {ss : List String} {ls : List Text} (h : Spelled ss ls) :
    ss.map String.toList = ls := by
  induction h with
  | nil => rfl
  | cons hs h ih => rw [List.map_cons, hs, String.toList_ofList, ih]

/-! ## Universal newlines -/

/-- What a text-mode read makes of the file's characters: `\r\n` and `\r` become `\n`. -/
def normalize : Text → Text
  | [] => []
  | '\r' :: '\n' :: s => '\n' :: normalize s
  | '\r' :: s => '\n' :: normalize s
  | c :: s => c :: normalize s

theorem normalize_cons {c : Char} (h : c ≠ '\r') (s : Text) :
    normalize (c :: s) = c :: normalize s := by
  rw [normalize]
  · exact fun _ hc _ => h hc
  · exact h

theorem normalize_append {a : Text} (b : Text) (h : '\r' ∉ a) :
    normalize (a ++ b) = a ++ normalize b := by
  induction a with
  | nil => rfl
  | cons c a ih =>
    have hc : c ≠ '\r' := fun e => h (e ▸ List.mem_cons_self)
    rw [List.cons_append, normalize_cons hc, ih fun hm => h (List.mem_cons_of_mem c hm)]
    rfl

theorem not_mem_normalize : ∀ s : Text, '\r' ∉ normalize s
  | [] => by simp [normalize]
  | c :: s => by
    by_cases hc : c = '\r'
    · subst hc
      cases s with
      | nil => simp [normalize]
      | cons d s =>
        by_cases hd : d = '\n'
        · subst hd
          have := not_mem_normalize s
          simpa [normalize] using this
        · have := not_mem_normalize (d :: s)
          simpa [normalize, hd] using this
    · have := not_mem_normalize s
      rw [normalize_cons hc]
      simpa [Ne.symm hc] using this

end Text
