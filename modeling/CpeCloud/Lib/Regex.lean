import CpeCloud.Lib.Text

/-!
# A backtracking regex matcher

Python's `re`, for patterns made of literals, greedy repeats of a character class and the end
anchor, in sequence. `rests r s` lists what is left of `s` after each way `r` can match at its
start, in the order backtracking tries them; `re.match` succeeds iff there is one.

`mem_lit`, `mem_plus`, `mem_eos` and `mem_seq` say which ways there are.
-/

/-- A pattern. -/
inductive Regex where
  | lit (w : Text)
  /-- `[…]+`, greedy. -/
  | plus (p : Char → Bool)
  /-- `$`: the end, or before a newline that ends the string. -/
  | eos
  | seq (r r' : Regex)

namespace Regex

/-- `.`: any character but the newline. -/
def dot (c : Char) : Bool := c != '\n'

/-- What a greedy `p+` leaves, the longest match first. -/
def plusRests (p : Char → Bool) : Text → List Text
  | [] => []
  | c :: s => if p c then plusRests p s ++ [s] else []

/-- What is left after each match at the start of the text. -/
def rests : Regex → Text → List Text
  | lit w, s => if w.isPrefixOf s then [s.drop w.length] else []
  | plus p, s => plusRests p s
  | eos, s => if s = [] ∨ s = ['\n'] then [s] else []
  | seq r r', s => (rests r s).flatMap (rests r')

/-- `re.match`, as a truth value. -/
def isMatch (r : Regex) (s : Text) : Bool := !(rests r s).isEmpty

theorem isMatch_iff {r : Regex} {s : Text} : isMatch r s = true ↔ ∃ t, t ∈ rests r s := by
  simp only [isMatch, Bool.not_eq_true', List.isEmpty_eq_false_iff, ne_eq]
  exact List.ne_nil_iff_exists_cons.trans
    ⟨fun ⟨t, ts, h⟩ => ⟨t, h ▸ List.mem_cons_self⟩, fun ⟨_, h⟩ =>
      List.ne_nil_iff_exists_cons.mp (List.ne_nil_of_mem h)⟩

theorem mem_lit {w s t : Text} : t ∈ rests (lit w) s ↔ s = w ++ t := by
  simp only [rests]
  constructor
  · intro h
    split at h
    · rename_i hp
      obtain rfl := List.mem_singleton.mp h
      obtain ⟨u, rfl⟩ := List.isPrefixOf_iff_prefix.mp hp
      rw [List.drop_left]
    · exact absurd h List.not_mem_nil
  · rintro rfl
    rw [if_pos (List.isPrefixOf_iff_prefix.mpr (List.prefix_append w t)), List.drop_left]
    exact List.mem_singleton_self t

theorem mem_plus {p : Char → Bool} : ∀ {s t : Text},
    t ∈ rests (plus p) s ↔ ∃ w, w ≠ [] ∧ (∀ c ∈ w, p c = true) ∧ s = w ++ t
  | [], t => by
    simp only [rests, plusRests, List.not_mem_nil, false_iff, not_exists]
    rintro w ⟨hw, -, h⟩
    exact hw (List.append_eq_nil_iff.mp h.symm).1
  | c :: s, t => by
    have ih := @mem_plus p s t
    simp only [rests] at ih
    simp only [rests, plusRests]
    constructor
    · intro h
      split at h
      · rename_i hc
        rcases List.mem_append.mp h with h | h
        · obtain ⟨w, hw, hp, rfl⟩ := ih.mp h
          exact ⟨c :: w, by simp, by simpa [hc] using hp, rfl⟩
        · obtain rfl := List.mem_singleton.mp h
          exact ⟨[c], by simp, by simpa using hc, rfl⟩
      · exact absurd h List.not_mem_nil
    · rintro ⟨w, hw, hp, h⟩
      obtain ⟨d, w, rfl⟩ := List.exists_cons_of_ne_nil hw
      simp only [List.cons_append, List.cons.injEq] at h
      obtain ⟨rfl, rfl⟩ := h
      rw [if_pos (hp c List.mem_cons_self), List.mem_append, List.mem_singleton]
      rcases eq_or_ne w [] with rfl | hw'
      · exact Or.inr rfl
      · exact Or.inl (ih.mpr ⟨w, hw', fun d hd => hp d (List.mem_cons_of_mem c hd), rfl⟩)

theorem mem_eos {s t : Text} : t ∈ rests eos s ↔ t = s ∧ (s = [] ∨ s = ['\n']) := by
  simp only [rests]
  split
  · rename_i h
    simp [h]
  · rename_i h
    simp [h]

theorem mem_seq {r r' : Regex} {s t : Text} :
    t ∈ rests (seq r r') s ↔ ∃ u, u ∈ rests r s ∧ t ∈ rests r' u := by
  simp [rests]

/-- What is left is the end of the text. -/
theorem suffix_of_mem_rests {r : Regex} {s t : Text} (h : t ∈ rests r s) : t <:+ s := by
  induction r generalizing s t with
  | lit w =>
    rw [mem_lit.mp h]
    exact List.suffix_append w t
  | plus p =>
    obtain ⟨w, -, -, rfl⟩ := mem_plus.mp h
    exact List.suffix_append w t
  | eos => rw [(mem_eos.mp h).1]
  | seq r r' ih ih' =>
    obtain ⟨u, hu, ht⟩ := mem_seq.mp h
    exact (ih' ht).trans (ih hu)

end Regex
