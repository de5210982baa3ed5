import CpeCloud.Lib.LeakyBucket
import CpeCloud.RateLimit

/-!
# The law of the rate limiter

What the token buckets of `RateLimit.lean` come to over a run of calls. The calls come at
non-decreasing readings of the clock; `admitted` lists those that were allowed.

* **`admitted_iff_window`**: a call is allowed iff every window that begins with an allowed call on
  its pair has room for it: ten calls, and one more for every six seconds.
* `admitted_own`: the calls that were denied, and those on other pairs, might as well not have been
  made.
* `admitted_eq_of_untouched`: it does not matter whether a bucket is there from the start.
-/

namespace CpeCloud

/-- A call of `check_rate_limit`, at the clock reading `now`. -/
structure RateCall where
  scope : Text
  key : Text
  now : ℚ
  deriving DecidableEq

/-- The pair the call is on. -/
def RateCall.pair (c : RateCall) : Text × Text := (c.scope, c.key)

/-- The buckets after a call. -/
def RateCall.buckets (bs : Buckets) (c : RateCall) : Buckets :=
  (checkRateLimit bs c.scope c.key c.now).2

/-- The call is allowed after the calls `cs`. -/
def allowedAfter (bs : Buckets) (cs : List RateCall) (c : RateCall) : Bool :=
  (checkRateLimit (cs.foldl RateCall.buckets bs) c.scope c.key c.now).1

/-- The calls that are allowed, in order. -/
def admitted : Buckets → List RateCall → List RateCall
  | _, [] => []
  | bs, c :: cs =>
    let r := checkRateLimit bs c.scope c.key c.now
    if r.1 then c :: admitted r.2 cs else admitted r.2 cs

/-- The times of the calls on a pair. -/
def timesOn (pair : Text × Text) (cs : List RateCall) : List ℚ :=
  (cs.filter fun c => c.pair = pair).map RateCall.now

/-- No call was made yet: a bucket is not there, or full since before the first reading. -/
def Untouched (bs : Buckets) (cs : List RateCall) : Prop :=
  ∀ pair b, bs pair = some b → ∃ t, b = TokenBucket.new 10 (10 / 60) t ∧ ∀ c ∈ cs, t ≤ c.now

/-- There is room for a call at `now` in every window that begins with one of the times. -/
def Room (times : List ℚ) (now : ℚ) : Prop :=
  ∀ s ∈ times, ((times.countP fun u => s ≤ u ∧ u ≤ now : Nat) : ℚ) + 1 ≤ 10 + (now - s) / 6

theorem admitted_snoc (bs : Buckets) (cs : List RateCall) (c : RateCall) :
    admitted bs (cs ++ [c]) = admitted bs cs ++ if allowedAfter bs cs c then [c] else [] := by
  induction cs generalizing bs with
  | nil =>
    simp only [List.nil_append, admitted, allowedAfter, List.foldl_nil]
    rfl
  | cons d cs ih =>
    simp only [List.cons_append, admitted, ih]
    split <;> rfl

theorem admitted_sublist (bs : Buckets) (cs : List RateCall) : (admitted bs cs).Sublist cs := by
  induction cs generalizing bs with
  | nil => exact List.Sublist.refl _
  | cons c cs ih =>
    simp only [admitted]
    split
    · exact (ih _).cons_cons c
    · exact (ih _).cons c

@[simp] theorem timesOn_append (pair : Text × Text) (cs ds : List RateCall) :
    timesOn pair (cs ++ ds) = timesOn pair cs ++ timesOn pair ds := by
  simp [timesOn]

/-! ## One bucket -/

/-- The bucket has had calls allowed at the times `h`, the latest first, and was last looked at no
later than at `now`. -/
structure TokenBucket.Follows (b : TokenBucket) (h : List ℚ) (now : ℚ) : Prop where
  capacity : b.capacity = 10
  rate : b.rate = 10 / 60
  seen : b.lastRefill ≤ now
  level : ∀ t, b.lastRefill ≤ t → (b.refill t).tokens = LeakyBucket.level 10 (10 / 60) h t

theorem TokenBucket.follows_new {t now : ℚ} (h : t ≤ now) :
    (TokenBucket.new 10 (10 / 60) t).Follows [] now := by
  refine ⟨rfl, rfl, h, fun u hu => ?_⟩
  have hgain : (0 : ℚ) ≤ (u - t) * (10 / 60) :=
    mul_nonneg (sub_nonneg.mpr hu) (by norm_num)
  exact min_eq_left (le_add_of_nonneg_right hgain)

/-- A call takes a token out if there is one, and leaves the level as it was otherwise. -/
theorem TokenBucket.Follows.tryConsume {b : TokenBucket} {h : List ℚ} {now t : ℚ}
    (hb : b.Follows h now) (ht : now ≤ t) :
    ((b.tryConsume t 1).1 = true ↔ 1 ≤ LeakyBucket.level 10 (10 / 60) h t) ∧
      (b.tryConsume t 1).2.Follows (if (b.tryConsume t 1).1 then t :: h else h) t := by
  have htok := hb.level t (hb.seen.trans ht)
  unfold TokenBucket.tryConsume
  simp only [htok, ge_iff_le]
  split
  · rename_i hone
    refine ⟨by simpa using hone, hb.capacity, hb.rate, le_rfl, fun u hu => ?_⟩
    simp only [TokenBucket.refill, hb.capacity, hb.rate, LeakyBucket.level, if_true]
  · rename_i hone
    refine ⟨by simpa using hone, hb.capacity, hb.rate, le_rfl, fun u hu => ?_⟩
    have hu : t ≤ u := hu
    have hrefill : min 10 (LeakyBucket.level 10 (10 / 60) h t + (u - t) * (10 / 60)) =
        LeakyBucket.level 10 (10 / 60) h u := LeakyBucket.level_refill (by norm_num) hu
    simp only [TokenBucket.refill, hb.capacity, hb.rate, Bool.false_eq_true, if_false]
    simp only [TokenBucket.refill, hb.capacity, hb.rate] at htok
    rw [htok, hrefill]

theorem TokenBucket.Follows.mono {b : TokenBucket} {h : List ℚ} {now t : ℚ} (hb : b.Follows h now)
    (ht : now ≤ t) : b.Follows h t :=
  ⟨hb.capacity, hb.rate, hb.seen.trans ht, hb.level⟩

/-! ## A run of calls -/

/-- Every bucket follows the calls allowed on its pair. -/
def Buckets.Follow (bs : Buckets) (calls : List RateCall) (now : ℚ) : Prop :=
  ∀ pair t, now ≤ t → (bs.get pair t).Follows (timesOn pair calls).reverse t

theorem Buckets.Follow.mono {bs : Buckets} {calls : List RateCall} {now t : ℚ}
    (h : bs.Follow calls now) (ht : now ≤ t) : bs.Follow calls t :=
  fun pair u hu => h pair u (ht.trans hu)

theorem follow_untouched {bs : Buckets} {c : RateCall} (h : Untouched bs [c]) :
    bs.Follow [] c.now := by
  intro pair t ht
  cases hb : bs pair with
  | none =>
    simp only [Buckets.get, hb, Option.getD_none]
    exact TokenBucket.follows_new le_rfl
  | some b =>
    obtain ⟨u, rfl, hu⟩ := h pair b hb
    simp only [Buckets.get, hb, Option.getD_some]
    exact TokenBucket.follows_new ((hu c List.mem_cons_self).trans ht)

/-- One call. -/
theorem Buckets.Follow.call {bs : Buckets} {calls : List RateCall} {now : ℚ}
    (h : bs.Follow calls now) {c : RateCall} (hc : now ≤ c.now) :
    (c.buckets bs).Follow (calls ++ if allowedAfter bs [] c then [c] else []) c.now := by
  intro pair t ht
  by_cases hp : pair = c.pair
  · subst hp
    have hstep := ((h c.pair c.now hc).tryConsume le_rfl).2.mono ht
    have hget : (c.buckets bs).get c.pair t = ((bs.get c.pair c.now).tryConsume c.now 1).2 := by
      simp [RateCall.buckets, checkRateLimit, Buckets.get, RateCall.pair]
    have hallowed : allowedAfter bs [] c = ((bs.get c.pair c.now).tryConsume c.now 1).1 := rfl
    rw [hget, hallowed]
    split at hstep
    · rename_i hok
      rw [if_pos hok, timesOn_append, List.reverse_append]
      simpa [timesOn] using hstep
    · rename_i hok
      rw [if_neg hok, List.append_nil]
      exact hstep
  · have hget : (c.buckets bs).get pair t = bs.get pair t := by
      have hne : pair ≠ (c.scope, c.key) := hp
      simp [RateCall.buckets, checkRateLimit, Buckets.get, Function.update_of_ne hne]
    have htimes : timesOn pair (if allowedAfter bs [] c then [c] else []) = [] := by
      split
      · simp [timesOn, Ne.symm hp]
      · rfl
    rw [hget, timesOn_append, htimes, List.append_nil]
    exact h pair t (hc.trans ht)

section Sorted

variable {bs : Buckets} {cs : List RateCall} {c : RateCall}

theorem Untouched.sublist {ds : List RateCall} (h : Untouched bs cs) (hd : ds.Sublist cs) :
    Untouched bs ds := by
  intro pair b hb
  obtain ⟨t, rfl, ht⟩ := h pair b hb
  exact ⟨t, rfl, fun d hm => ht d (hd.subset hm)⟩

/-- Before each call of a run, every bucket follows the calls that were allowed. -/
theorem follow_run (hu : Untouched bs (cs ++ [c]))
    (hs : (cs ++ [c]).Pairwise fun a b => a.now ≤ b.now) :
    (cs.foldl RateCall.buckets bs).Follow (admitted bs cs) c.now := by
  induction cs using List.reverseRecOn generalizing c with
  | nil => exact follow_untouched hu
  | append_singleton cs d ih =>
    have hlast : d.now ≤ c.now := by
      rw [List.pairwise_append] at hs
      exact hs.2.2 d (by simp) c (by simp)
    have hprev := ih (hu.sublist (List.sublist_append_left _ _)) (List.pairwise_append.mp hs).1
    rw [List.foldl_append, List.foldl_cons, List.foldl_nil, admitted_snoc]
    exact (hprev.call le_rfl).mono hlast

theorem timesOn_sorted (hs : (cs ++ [c]).Pairwise fun a b => a.now ≤ b.now)
    (pair : Text × Text) :
    (timesOn pair (admitted bs cs)).Pairwise (· ≤ ·) ∧
      ∀ u ∈ timesOn pair (admitted bs cs), u ≤ c.now := by
  have hsub : ((admitted bs cs).filter fun c => c.pair = pair).Sublist cs :=
    List.filter_sublist.trans (admitted_sublist bs cs)
  rw [List.pairwise_append] at hs
  refine ⟨List.pairwise_map.mpr (hs.1.sublist hsub), fun u hu => ?_⟩
  obtain ⟨d, hd, rfl⟩ := List.mem_map.mp hu
  exact hs.2.2 d (hsub.subset hd) c (by simp)

/-- **The law of the rate limiter.** -/
theorem allowedAfter_iff (hu : Untouched bs (cs ++ [c]))
    (hs : (cs ++ [c]).Pairwise fun a b => a.now ≤ b.now) :
    allowedAfter bs cs c = true ↔ Room (timesOn c.pair (admitted bs cs)) c.now := by
  obtain ⟨hsorted, hle⟩ : (timesOn c.pair (admitted bs cs)).Pairwise (· ≤ ·) ∧
      ∀ u ∈ timesOn c.pair (admitted bs cs), u ≤ c.now := timesOn_sorted hs c.pair
  have hlevel := (((follow_run hu hs) c.pair c.now le_rfl).tryConsume le_rfl).1
  have hcount (s : ℚ) : ((timesOn c.pair (admitted bs cs)).countP fun u => s ≤ u ∧ u ≤ c.now) =
      (timesOn c.pair (admitted bs cs)).reverse.countP fun u => s ≤ u := by
    rw [List.countP_reverse]
    refine List.countP_congr fun u hu => ?_
    simp [hle u hu]
  rw [show allowedAfter bs cs c = _ from rfl]
  refine hlevel.trans ?_
  rw [LeakyBucket.le_level_iff (List.pairwise_reverse.mpr hsorted), Room]
  simp only [List.mem_reverse, hcount]
  constructor
  · rintro ⟨-, h⟩ s hs
    have := h s hs
    linarith
  · refine fun h => ⟨by norm_num, fun s hs => ?_⟩
    have := h s hs
    linarith

end Sorted

/-! ## What does not matter -/

/-- It does not matter whether the buckets are there from the start. -/
theorem admitted_eq_of_untouched {bs bs' : Buckets} {cs : List RateCall} (hu : Untouched bs cs)
    (hu' : Untouched bs' cs) (hs : cs.Pairwise fun a b => a.now ≤ b.now) :
    admitted bs cs = admitted bs' cs := by
  induction cs using List.reverseRecOn with
  | nil => rfl
  | append_singleton cs c ih =>
    have hprev := ih (hu.sublist (List.sublist_append_left _ _))
      (hu'.sublist (List.sublist_append_left _ _)) (List.pairwise_append.mp hs).1
    have hsame : allowedAfter bs cs c = allowedAfter bs' cs c := by
      rw [Bool.eq_iff_iff, allowedAfter_iff hu hs, allowedAfter_iff hu' hs, hprev]
    rw [admitted_snoc, admitted_snoc, hprev, hsame]

/-- The calls that were allowed on a pair are allowed when they are all there is. -/
theorem admitted_own {bs : Buckets} {cs : List RateCall} (hu : Untouched bs cs)
    (hs : cs.Pairwise fun a b => a.now ≤ b.now) (pair : Text × Text) :
    admitted bs ((admitted bs cs).filter fun c => c.pair = pair) =
      (admitted bs cs).filter fun c => c.pair = pair := by
  induction cs using List.reverseRecOn with
  | nil => rfl
  | append_singleton cs c ih =>
    have hprev := ih (hu.sublist (List.sublist_append_left _ _)) (List.pairwise_append.mp hs).1
    rw [admitted_snoc, List.filter_append]
    by_cases hc : allowedAfter bs cs c = true ∧ c.pair = pair
    · obtain ⟨hok, rfl⟩ := hc
      have hsub : (((admitted bs cs).filter fun d => d.pair = c.pair) ++ [c]).Sublist (cs ++ [c]) :=
        (List.filter_sublist.trans (admitted_sublist bs cs)).append (List.Sublist.refl _)
      have hagain : allowedAfter bs ((admitted bs cs).filter fun d => d.pair = c.pair) c = true := by
        rw [allowedAfter_iff (hu.sublist hsub) (hs.sublist hsub), hprev]
        have := (allowedAfter_iff hu hs).mp hok
        simpa [timesOn, List.filter_filter] using this
      rw [if_pos hok, List.filter_cons_of_pos (by simp), List.filter_nil, admitted_snoc, hprev,
        if_pos hagain]
    · have hnil : (if allowedAfter bs cs c = true then [c] else []).filter
          (fun d => decide (d.pair = pair)) = [] := by
        split
        · rename_i hok
          simpa using fun hp => hc ⟨hok, hp⟩
        · rfl
      rw [hnil, List.append_nil]
      exact hprev

/-- **The rate limiter is a window law per pair**, from buckets that are made at their first call:
of a sequence of calls, one is allowed iff every window that begins with an allowed call on its
pair has room for it. The denied calls and the calls on other pairs may be left out, and the
buckets may be there from the start. -/
theorem admitted_iff_window {calls pre post : List RateCall} {c : RateCall}
    (hs : calls.Pairwise fun a b => a.now ≤ b.now) (hc : calls = pre ++ c :: post) :
    (allowedAfter (fun _ => none) pre c = true ↔
        Room (timesOn c.pair (admitted (fun _ => none) pre)) c.now) ∧
      allowedAfter (fun _ => none) pre c = allowedAfter (fun _ => none)
        ((admitted (fun _ => none) pre).filter fun d => d.pair = c.pair) c ∧
      ∀ bs, Untouched bs calls →
        allowedAfter bs pre c = allowedAfter (fun _ => none) pre c := by
  have hnone (ds : List RateCall) : Untouched (fun _ => none) ds := by
    intro pair b hb
    cases hb
  have hsub : (pre ++ [c]).Sublist calls := by
    rw [hc]
    exact (List.Sublist.refl pre).append (List.singleton_sublist.mpr List.mem_cons_self)
  have hpre : pre.Sublist (pre ++ [c]) := List.sublist_append_left _ _
  have hs := hs.sublist hsub
  have hlaw := allowedAfter_iff (hnone _) hs
  refine ⟨hlaw, ?_, fun bs hu => ?_⟩
  · have hown : (((admitted (fun _ => none) pre).filter fun d => d.pair = c.pair) ++ [c]).Sublist
        (pre ++ [c]) :=
      (List.filter_sublist.trans (admitted_sublist _ pre)).append (List.Sublist.refl _)
    rw [Bool.eq_iff_iff, hlaw, allowedAfter_iff (hnone _) (hs.sublist hown),
      admitted_own (hnone _) (hs.sublist hpre)]
    simp [timesOn, List.filter_filter]
  · have hu := hu.sublist hsub
    rw [Bool.eq_iff_iff, hlaw, allowedAfter_iff hu hs,
      admitted_eq_of_untouched (hu.sublist hpre) (hnone _) (hs.sublist hpre)]

/-- A download from the lab, in the first second. -/
def labFetch : RateCall := ⟨"fetch".toList, "192.0.2.7".toList, 0⟩

theorem admitted_iff_window_lab :
    (allowedAfter (fun _ => none) (List.replicate 10 labFetch) labFetch = true ↔
        Room (timesOn labFetch.pair (admitted (fun _ => none) (List.replicate 10 labFetch)))
          labFetch.now) ∧
      allowedAfter (fun _ => none) (List.replicate 10 labFetch) labFetch =
        allowedAfter (fun _ => none) ((admitted (fun _ => none)
          (List.replicate 10 labFetch)).filter fun d => d.pair = labFetch.pair) labFetch ∧
      ∀ bs, Untouched bs (List.replicate 11 labFetch) →
        allowedAfter bs (List.replicate 10 labFetch) labFetch =
          allowedAfter (fun _ => none) (List.replicate 10 labFetch) labFetch :=
  admitted_iff_window (by decide +kernel)
    (show List.replicate 11 labFetch = List.replicate 10 labFetch ++ labFetch :: [] from rfl)

example : allowedAfter (fun _ => none) (List.replicate 9 labFetch) labFetch = true ∧
    allowedAfter (fun _ => none) (List.replicate 10 labFetch) labFetch = false := by
  decide +kernel

end CpeCloud
