import CpeCloud.Telemetry.Reported

/-!
# Bad counters (`_build_one_interface_point` in `app/services/influx.py`)

The builder gives whatever an entry has in its counters, and in the `frequency` of a wireless one,
to `int`, and drops a field whose conversion raises `TypeError` or `ValueError`: "skip rather than
crash the whole write". An infinity raises `OverflowError`, which nothing catches.

* `emitted`: the fields of an entry of any values, those that `int` cannot convert left out.
* `buildOneInterfacePoint_emitted`, `buildOneInterfacePoint_infinite`: what the builder does.
* **`spoilsOnlyItself_iff`**: a bad field spoils only itself exactly where no field is infinite.
-/

namespace CpeCloud

open PyVal (Dict get intOf)

/-! ## What `int` makes of a value -/

/-- An infinite `float`. -/
def IsInfinite (v : PyVal) : Prop := v = .float .inf ∨ v = .float .negInf

theorem intOf_eq_overflow_iff {v : PyVal} : intOf v = .error .overflowError ↔ IsInfinite v := by
  cases v with
  | float f => cases f <;> simp [intOf, IsInfinite]
  | str t =>
    simp only [intOf, IsInfinite, reduceCtorEq, or_self, iff_false]
    split
    · split <;> simp
    · simp
  | _ => simp [intOf, IsInfinite]

/-- The field of a value that converts. -/
def converted (entry : Dict) (name : String) : Option (String × PyVal) :=
  match intOf (get entry name.toList) with
  | .ok n => some (name, .int n)
  | .error _ => none

theorem converted_eq_some {entry : Dict} {name : String} {n : Int}
    (h : intOf (get entry name.toList) = .ok n) : converted entry name = some (name, .int n) := by
  rw [converted, h]

theorem converted_eq_none {entry : Dict} {name : String} {e : PyVal.Error}
    (h : intOf (get entry name.toList) = .error e) : converted entry name = none := by
  rw [converted, h]

/-- What is no infinity converts, or is dropped. -/
theorem intField_marked {entry : Dict} {name : String}
    (h : ¬ IsInfinite (get entry name.toList)) (p : Point) :
    intField entry (marked p) name = .ok (marked (p.withFields (converted entry name).toList)) := by
  unfold intField
  split
  · rename_i hnull
    rw [converted_eq_none (by rw [hnull]; rfl), Option.toList_none, p.withFields_nil]
  · unfold toInt
    cases hv : intOf (get entry name.toList) with
    | ok n =>
      rw [converted_eq_some hv, Option.toList_some, ← p.field_withFields, Point.withFields_nil,
        ← marked_field]
      rfl
    | error e =>
      rw [converted_eq_none hv, Option.toList_none, p.withFields_nil]
      cases e with
      | overflowError => exact absurd (intOf_eq_overflow_iff.mp hv) h
      | typeError => rfl
      | valueError => rfl

theorem intField_infinite {entry : Dict} {name : String} (h : IsInfinite (get entry name.toList))
    (p : Point × Bool) : intField entry p name = .error .overflowError := by
  rcases h with h | h <;> rw [intField, h] <;> rfl

/-! ## The loops -/

theorem foldlM_intField_emitted {entry : Dict} {names : List String}
    (h : ∀ name ∈ names, ¬ IsInfinite (get entry name.toList)) (p : Point) :
    names.foldlM (intField entry) (marked p) =
      .ok (marked (p.withFields (names.filterMap (converted entry)))) := by
  induction names generalizing p with
  | nil =>
    rw [List.filterMap_nil, p.withFields_nil]
    rfl
  | cons name names ih =>
    rw [List.foldlM_cons, intField_marked (h name List.mem_cons_self)]
    refine (ih (fun n hn => h n (List.mem_cons_of_mem _ hn)) _).trans ?_
    rw [List.filterMap_cons]
    cases converted entry name <;> simp [Point.withFields]

/-- The first infinity ends a loop. -/
theorem foldlM_intField_infinite {entry : Dict} {names : List String}
    (h : ∃ name ∈ names, IsInfinite (get entry name.toList)) (p : Point) :
    names.foldlM (intField entry) (marked p) = .error .overflowError := by
  induction names generalizing p with
  | nil =>
    obtain ⟨name, hname, -⟩ := h
    cases hname
  | cons name names ih =>
    rw [List.foldlM_cons]
    by_cases hname : IsInfinite (get entry name.toList)
    · rw [intField_infinite hname]
      rfl
    · have hrest := (List.exists_mem_cons_iff ..).mp h |>.resolve_left hname
      rw [intField_marked hname]
      exact ih hrest _

/-- The link state of an entry. -/
def linkState (entry : Dict) (name : String) : List (String × PyVal) :=
  match get entry name.toList with
  | .bool b => [(name, .bool b)]
  | _ => []

theorem flagField_marked (entry : Dict) (name : String) (p : Point) :
    flagField entry (marked p) name = marked (p.withFields (linkState entry name)) := by
  rw [flagField, linkState]
  cases get entry name.toList with
  | bool b =>
    rw [← p.field_withFields, Point.withFields_nil, ← marked_field]
    rfl
  | _ => exact congrArg marked p.withFields_nil.symm

/-- The fields of an entry, in the order of the builder. -/
def emitted (kind : Kind) (entry : Dict) : List (String × PyVal) :=
  counterNames.filterMap (converted entry) ++ linkState entry kind.linkName ++
    kind.intNames.filterMap (converted entry) ++ kind.textNames.filterMap (nonEmpty entry)

/-- The point with these fields, if there are any. -/
def emittedPoint (router : Router) (ts : Timestamp) (kind : Kind) (name : Text) :
    List (String × PyVal) → Option Point
  | [] => none
  | fields => some ((interfacePoint router kind name fields).at ts)

section Builder

variable (router : Router) (kind : Kind) {entry : Dict} {c : Char} {cs : Text} (ts : Timestamp)

/-- **Without infinities the builder emits every field that converts.** -/
theorem buildOneInterfacePoint_emitted (hname : get entry "name".toList = .str (c :: cs))
    (h : ∀ name ∈ counterNames ++ kind.intNames, ¬ IsInfinite (get entry name.toList)) :
    buildOneInterfacePoint router kind entry ts =
      .ok (emittedPoint router ts kind (c :: cs) (emitted kind entry)) := by
  have hcounters := foldlM_intField_emitted fun name hmem => h name (List.mem_append_left _ hmem)
  have hints := foldlM_intField_emitted fun name hmem => h name (List.mem_append_right _ hmem)
  have hfields (p : Point) : (((p.withFields (counterNames.filterMap (converted entry))).withFields
      (linkState entry kind.linkName)).withFields
      (kind.intNames.filterMap (converted entry))).withFields
      (kind.textNames.filterMap (nonEmpty entry)) = p.withFields (emitted kind entry) := by
    simp only [Point.withFields, emitted, List.append_assoc]
  rw [buildOneInterfacePoint_named router kind hname]
  simp only [hcounters, flagField_marked, hints, bind, Except.bind, foldl_textField_validated,
    hfields]
  cases emitted kind entry with
  | nil => rfl
  | cons m fields => rfl

/-- An infinity in a counter, or in a wireless frequency, is not caught. -/
theorem buildOneInterfacePoint_infinite (hname : get entry "name".toList = .str (c :: cs))
    (h : ∃ name ∈ counterNames ++ kind.intNames, IsInfinite (get entry name.toList)) :
    buildOneInterfacePoint router kind entry ts = .error .overflowError := by
  rw [buildOneInterfacePoint_named router kind hname]
  by_cases hcounter : ∃ name ∈ counterNames, IsInfinite (get entry name.toList)
  · rw [foldlM_intField_infinite hcounter]
    rfl
  · have hcounters := foldlM_intField_emitted
      fun name hmem hinf => hcounter ⟨name, hmem, hinf⟩
    have hints : ∃ name ∈ kind.intNames, IsInfinite (get entry name.toList) := by
      obtain ⟨name, hmem, hinf⟩ := h
      exact ⟨name, (List.mem_append.mp hmem).resolve_left fun hc => hcounter ⟨name, hc, hinf⟩, hinf⟩
    simp only [hcounters, flagField_marked, foldlM_intField_infinite hints, bind, Except.bind]

end Builder

/-! ## The entry without its bad fields -/

/-- The keys of the fields that go through `int`. -/
def intKeys : List Text := (counterNames ++ ["frequency"]).map String.toList

/-- What is under the key is for `int`, which cannot convert it. -/
def isBad (entry : Dict) (key : Text) : Bool :=
  intKeys.contains key && !(intOf (get entry key)).isOk

theorem isBad_iff {entry : Dict} {key : Text} :
    isBad entry key = true ↔ key ∈ intKeys ∧ ∃ e, intOf (get entry key) = .error e := by
  rw [isBad, Bool.and_eq_true, List.contains_iff_mem]
  refine and_congr_right fun _ => ?_
  cases intOf (get entry key) <;> simp [Except.isOk, Except.toBool]

/-- The entry with exactly the fields removed that `int` cannot convert. -/
def withoutBad (entry : Dict) : Dict := entry.filter fun m => !isBad entry m.1

/-- Removing keys removes their values. -/
theorem get_filter_key (keep : Text → Bool) (d : Dict) (key : Text) :
    get (d.filter fun m => keep m.1) key = if keep key then get d key else .null := by
  induction d with
  | nil => exact (ite_self _).symm
  | cons m d ih =>
    obtain ⟨k, v⟩ := m
    by_cases hkey : key = k
    · subst hkey
      cases hkeep : keep key with
      | true => simp [PyVal.get, hkeep]
      | false => simpa [hkeep] using ih
    · have hne : (key == k) = false := beq_eq_false_iff_ne.mpr hkey
      cases hkeep : keep k with
      | true => simpa [PyVal.get, hkeep, List.lookup_cons, hne] using ih
      | false => simpa [PyVal.get, hkeep, List.lookup_cons, hne] using ih

theorem get_withoutBad (entry : Dict) (key : Text) :
    get (withoutBad entry) key = if isBad entry key then .null else get entry key := by
  rw [withoutBad, get_filter_key fun k => !isBad entry k]
  cases isBad entry key <;> rfl

/-- Everything else of the entry is read as before. -/
theorem get_withoutBad_of_not {entry : Dict} {name : String} (h : name.toList ∉ intKeys) :
    get (withoutBad entry) name.toList = get entry name.toList := by
  rw [get_withoutBad, if_neg fun hbad => h (isBad_iff.mp hbad).1]

theorem converted_withoutBad (entry : Dict) (name : String) :
    converted (withoutBad entry) name = converted entry name := by
  by_cases hbad : isBad entry name.toList = true
  · obtain ⟨-, e, he⟩ := isBad_iff.mp hbad
    rw [converted_eq_none he]
    exact converted_eq_none (by rw [get_withoutBad, if_pos hbad]; rfl)
  · rw [converted, get_withoutBad, if_neg hbad, converted]

theorem not_isInfinite_withoutBad {entry : Dict} {name : String} (h : name.toList ∈ intKeys) :
    ¬ IsInfinite (get (withoutBad entry) name.toList) := by
  rw [get_withoutBad]
  split
  · simp [IsInfinite]
  · rename_i hbad
    exact fun hinf => hbad (isBad_iff.mpr ⟨h, _, intOf_eq_overflow_iff.mpr hinf⟩)

theorem mem_intKeys {kind : Kind} {name : String} (h : name ∈ counterNames ++ kind.intNames) :
    name.toList ∈ intKeys := by
  refine List.mem_map_of_mem (List.mem_append.mpr ((List.mem_append.mp h).imp_right fun h => ?_))
  cases kind with
  | wireless => exact h
  | ethernet => cases h
  | wifi => cases h

theorem emitted_withoutBad (kind : Kind) (entry : Dict) :
    emitted kind (withoutBad entry) = emitted kind entry := by
  have hconverted : converted (withoutBad entry) = converted entry :=
    funext (converted_withoutBad entry)
  have hlink : linkState (withoutBad entry) kind.linkName = linkState entry kind.linkName := by
    unfold linkState
    rw [get_withoutBad_of_not (by cases kind <;> decide)]
  have htext : ∀ name ∈ kind.textNames, nonEmpty (withoutBad entry) name = nonEmpty entry name := by
    intro name hname
    have hkey : ∀ name ∈ kind.textNames, name.toList ∉ intKeys := by cases kind <;> decide
    unfold nonEmpty
    rw [get_withoutBad_of_not (hkey name hname)]
  simp only [emitted, hconverted, hlink, List.filterMap_congr htext]

/-! ## A bad field spoils only itself -/

/-- The builder does not raise, makes the point it makes without the bad fields, and emits every
field that converts. -/
def SpoilsOnlyItself (router : Router) (kind : Kind) (entry : Dict) (ts : Timestamp) : Prop :=
  ∃ point, buildOneInterfacePoint router kind entry ts = .ok point ∧
    buildOneInterfacePoint router kind (withoutBad entry) ts = .ok point ∧
    ∀ name ∈ counterNames ++ kind.intNames, ∀ n, intOf (get entry name.toList) = .ok n →
      ∃ p, point = some p ∧ (name, .int n) ∈ p.fields

theorem mem_emittedPoint {router : Router} {ts : Timestamp} {kind : Kind} {t : Text}
    {fields : List (String × PyVal)} {m : String × PyVal} (h : m ∈ fields) :
    ∃ p, emittedPoint router ts kind t fields = some p ∧ m ∈ p.fields := by
  cases fields with
  | nil => cases h
  | cons m' fields => exact ⟨_, rfl, h⟩

theorem mem_emitted {kind : Kind} {entry : Dict} {name : String} {n : Int}
    (hname : name ∈ counterNames ++ kind.intNames) (h : intOf (get entry name.toList) = .ok n) :
    (name, PyVal.int n) ∈ emitted kind entry := by
  have hv := converted_eq_some h
  simp only [emitted, List.mem_append, List.mem_filterMap]
  rcases List.mem_append.mp hname with hname | hname
  · exact Or.inl (Or.inl (Or.inl ⟨name, hname, hv⟩))
  · exact Or.inl (Or.inr ⟨name, hname, hv⟩)

/-- **A bad field spoils only itself** exactly where no field for `int` is infinite. -/
theorem spoilsOnlyItself_iff (router : Router) (kind : Kind) {entry : Dict} {t : Text} (ht : t ≠ [])
    (hname : get entry "name".toList = .str t) (ts : Timestamp) :
    SpoilsOnlyItself router kind entry ts ↔
      ∀ name ∈ counterNames ++ kind.intNames, ¬ IsInfinite (get entry name.toList) := by
  obtain ⟨c, cs, rfl⟩ := List.exists_cons_of_ne_nil ht
  constructor
  · rintro ⟨point, hpoint, -⟩ name hmem hinf
    rw [buildOneInterfacePoint_infinite router kind ts hname ⟨name, hmem, hinf⟩] at hpoint
    cases hpoint
  · intro h
    have hname' : get (withoutBad entry) "name".toList = .str (c :: cs) :=
      (get_withoutBad_of_not (by decide)).trans hname
    have hbuilt := buildOneInterfacePoint_emitted router kind ts hname' fun name hmem =>
      not_isInfinite_withoutBad (mem_intKeys hmem)
    rw [emitted_withoutBad] at hbuilt
    exact ⟨_, buildOneInterfacePoint_emitted router kind ts hname h, hbuilt,
      fun name hmem n hn => mem_emittedPoint (mem_emitted hmem hn)⟩

/-- A counter that is no number, next to one that is. -/
def garbledEntry : Dict :=
  [("name".toList, .str "ether1".toList), ("running".toList, .bool true),
    ("rx_bytes".toList, .str "garbage".toList), ("tx_bytes".toList, .int 1234)]

theorem spoilsOnlyItself_garbled : get garbledEntry "name".toList = .str "ether1".toList ∧
    ∀ router ts, SpoilsOnlyItself router .ethernet garbledEntry ts := by
  refine ⟨rfl, fun router ts =>
    (spoilsOnlyItself_iff router .ethernet (by decide) rfl ts).mpr fun name hname => ?_⟩
  simp only [counterNames, Kind.intNames, List.append_nil, List.mem_cons, List.not_mem_nil,
    or_false] at hname
  rcases hname with rfl | rfl | rfl | rfl <;> rintro (h | h) <;> cases h

/-- An infinite counter, as `json` decodes `Infinity`, next to one that converts. -/
def infiniteEntry : Dict :=
  [("name".toList, .str "ether1".toList), ("rx_bytes".toList, .float .inf),
    ("tx_bytes".toList, .int 1234)]

theorem infiniteEntry_raises : get infiniteEntry "name".toList = .str "ether1".toList ∧
    ∀ router ts, buildOneInterfacePoint router .ethernet infiniteEntry ts = .error .overflowError ∧
      ¬ SpoilsOnlyItself router .ethernet infiniteEntry ts := by
  refine ⟨rfl, fun router ts => ⟨rfl, ?_⟩⟩
  rintro ⟨point, hpoint, -⟩
  cases hpoint

end CpeCloud
