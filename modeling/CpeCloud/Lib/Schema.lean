import CpeCloud.Lib.PyValue
import Mathlib.Data.List.Forall2

/-!
# Models that allow extra fields

A `Schema` is what a validator of nested models checks: scalars, lists, and models with
`extra="allow"`, whose fields are either required or `… | None = None`. `validate` is the
validation and the dump of what it accepts: the declared fields in order, a missing one as `None`,
then the extra ones as they came.

* `Adds`: the ways to add undeclared keys to a document, at every level.
* `Agree`: two documents agree on what a schema declares.
* **`validate_agree`**: validation keeps agreement.
* **`validate_adds`**: with undeclared keys added, an accepted document is still accepted, and the
  two dumps agree.
-/

open PyVal (Dict)

mutual

/-- A schema. -/
inductive Schema where
  /-- The value after coercion, `none` if it is rejected. -/
  | scalar (check : PyVal → Option PyVal)
  | list (schema : Schema)
  | model (fields : Fields)

/-- The fields of a model. One that is not required may be missing or `None`. -/
inductive Fields where
  | nil
  | cons (name : Text) (required : Bool) (schema : Schema) (rest : Fields)

end

/-- A key is a declared field. -/
def Fields.declares : Fields → Text → Bool
  | .nil, _ => false
  | .cons name _ _ rest, key => key = name || rest.declares key

namespace Schema

/-- The value of a field, from what is found under its name. -/
def fieldValue (required : Bool) (check : PyVal → Option PyVal) : Option PyVal → Option PyVal
  | none => if required then none else some .null
  | some .null => if required then check .null else some .null
  | some v => check v

mutual

/-- Validate, and dump what is accepted. -/
def validate : Schema → PyVal → Option PyVal
  | .scalar check, v => check v
  | .list schema, v =>
    match v with
    | .list items => (items.mapM (validate schema)).map .list
    | _ => none
  | .model fields, v =>
    match v with
    | .dict d =>
      (validateFields fields d).map fun dump =>
        .dict (dump ++ d.filter fun m => !fields.declares m.1)
    | _ => none

/-- The dump of the declared fields. -/
def validateFields : Fields → Dict → Option Dict
  | .nil, _ => some []
  | .cons name required schema rest, d =>
    (fieldValue required (validate schema) (d.lookup name)).bind fun x =>
      (validateFields rest d).map ((name, x) :: ·)

end

/-! ## Names -/

mutual

/-- No model declares a field twice. -/
def distinct : Schema → Bool
  | .scalar _ => true
  | .list schema => schema.distinct
  | .model fields => distinctFields fields

/-- No field is declared twice, among these and in their schemas. -/
def distinctFields : Fields → Bool
  | .nil => true
  | .cons name _ schema rest => !rest.declares name && schema.distinct && distinctFields rest

end

/-- The schema of a declared field. -/
def schemaAt : Fields → Text → Option Schema
  | .nil, _ => none
  | .cons name _ schema rest, key => if key = name then some schema else schemaAt rest key

/-! ## Adding undeclared keys -/

/-- Keys that are not declared are added to a `dict`, and the values of the others are related. -/
inductive AddsKeys (declared : Text → Bool) (R : Text → PyVal → PyVal → Prop) : Dict → Dict → Prop
  | nil : AddsKeys declared R [] []
  | keep (key : Text) {v v' : PyVal} {d d' : Dict} (hv : R key v v') (h : AddsKeys declared R d d') :
      AddsKeys declared R ((key, v) :: d) ((key, v') :: d')
  | add (key : Text) (v : PyVal) {d d' : Dict} (hkey : declared key = false)
      (h : AddsKeys declared R d d') : AddsKeys declared R d ((key, v) :: d')

mutual

/-- The second document is the first one with undeclared keys added. The values of those that
were there may be others, too. -/
def Adds : Schema → PyVal → PyVal → Prop
  | .scalar _, v, v' => v = v'
  | .list schema, v, v' =>
    ∃ items items', v = .list items ∧ v' = .list items' ∧ List.Forall₂ (Adds schema) items items'
  | .model fields, v, v' =>
    ∃ d d', v = .dict d ∧ v' = .dict d' ∧ AddsKeys fields.declares (AddsAt fields) d d'

/-- The second value of a key that is declared is the first one with undeclared keys added. -/
def AddsAt : Fields → Text → PyVal → PyVal → Prop
  | .nil, _, _, _ => True
  | .cons name _ schema rest, key, v, v' =>
    (key = name → (v = .null ∧ v' = .null) ∨ Adds schema v v') ∧ AddsAt rest key v v'

end

/-- Any value may stand under a key that is not declared. -/
theorem addsAt_of_not_declared {key : Text} {v v' : PyVal} : ∀ {fields : Fields},
    fields.declares key = false → AddsAt fields key v v'
  | .nil, _ => trivial
  | .cons name _ _ rest, h => by
    rw [Fields.declares, Bool.or_eq_false_iff, decide_eq_false_iff_not] at h
    exact ⟨fun hname => absurd hname h.1, addsAt_of_not_declared h.2⟩

/-- Where the names are distinct, the value of a key grows as its field's schema says. -/
theorem addsAt_of_adds {key : Text} {schema : Schema} {v v' : PyVal} (h : Adds schema v v') :
    ∀ {fields : Fields}, distinctFields fields = true → schemaAt fields key = some schema →
      AddsAt fields key v v'
  | .nil, _, _ => trivial
  | .cons name _ s rest, hd, hs => by
    simp only [distinctFields, Bool.and_eq_true, Bool.not_eq_true'] at hd
    rw [schemaAt] at hs
    split at hs
    · rename_i hkey
      obtain rfl := Option.some.inj hs
      exact ⟨fun _ => Or.inr h, addsAt_of_not_declared (hkey ▸ hd.1.1)⟩
    · rename_i hkey
      exact ⟨fun hname => absurd hname hkey, addsAt_of_adds h hd.2 hs⟩

/-! ## Agreement -/

mutual

/-- The two documents agree on what is declared. -/
def Agree : Schema → PyVal → PyVal → Prop
  | .scalar _, v, v' => v = v'
  | .list schema, v, v' =>
    ∃ items items', v = .list items ∧ v' = .list items' ∧ List.Forall₂ (Agree schema) items items'
  | .model fields, v, v' =>
    ∃ d d', v = .dict d ∧ v' = .dict d' ∧ AgreeFields fields d d'

/-- The two `dict`s agree on the declared fields. -/
def AgreeFields : Fields → Dict → Dict → Prop
  | .nil, _, _ => True
  | .cons name _ schema rest, d, d' =>
    Option.Rel (fun v v' => (v = .null ∧ v' = .null) ∨ Agree schema v v') (d.lookup name)
      (d'.lookup name) ∧ AgreeFields rest d d'

end

/-- A declared key is in both, with related values, or in neither. -/
theorem AddsKeys.lookup {declared : Text → Bool} {R : Text → PyVal → PyVal → Prop} {d d' : Dict}
    (h : AddsKeys declared R d d') {key : Text} (hkey : declared key = true) :
    Option.Rel (R key) (d.lookup key) (d'.lookup key) := by
  induction h with
  | nil => exact .none
  | keep k hv h ih =>
    by_cases hk : key = k
    · subst hk
      simp only [List.lookup_cons_self]
      exact .some hv
    · have hne : (key == k) = false := by simpa using hk
      simp only [List.lookup_cons, hne]
      exact ih
  | add k v hundeclared h ih =>
    have hne : (key == k) = false := by
      rw [beq_eq_false_iff_ne]
      rintro rfl
      rw [hkey] at hundeclared
      cases hundeclared
    simp only [List.lookup_cons, hne]
    exact ih

mutual

/-- A document with undeclared keys added agrees with what it was. -/
theorem Adds.agree : ∀ (schema : Schema) {v v' : PyVal}, Adds schema v v' → Agree schema v v'
  | .scalar _, _, _, h => h
  | .list schema, _, _, h => by
    obtain ⟨items, items', hv, hv', hitems⟩ := h
    exact ⟨items, items', hv, hv', hitems.imp fun _ _ => Adds.agree schema⟩
  | .model fields, _, _, h => by
    obtain ⟨d, d', hv, hv', hkeys⟩ := h
    exact ⟨d, d', hv, hv', AddsKeys.agreeFields fields fun _ hkey => hkeys.lookup hkey⟩

theorem AddsKeys.agreeFields : ∀ (fields : Fields) {d d' : Dict},
    (∀ key, fields.declares key = true →
      Option.Rel (AddsAt fields key) (d.lookup key) (d'.lookup key)) → AgreeFields fields d d'
  | .nil, _, _, _ => trivial
  | .cons name _ schema rest, d, d', h => by
    refine ⟨?_, AddsKeys.agreeFields rest fun key hkey => ?_⟩
    · have hname := h name (by simp [Fields.declares])
      generalize d.lookup name = o at hname
      generalize d'.lookup name = o' at hname
      cases hname with
      | none => exact .none
      | some hv => exact .some ((hv.1 rfl).imp_right (Adds.agree schema))
    · have hrest := h key (by simp [Fields.declares, hkey])
      generalize d.lookup key = o at hrest
      generalize d'.lookup key = o' at hrest
      cases hrest with
      | none => exact .none
      | some hv => exact .some hv.2

end

/-! ## Validation keeps agreement -/

/-- An entry under a key that is not declared does not matter. -/
theorem agreeFields_cons {name : Text} {x x' : PyVal} {d d' : Dict} : ∀ {fields : Fields},
    fields.declares name = false → AgreeFields fields d d' →
      AgreeFields fields ((name, x) :: d) ((name, x') :: d')
  | .nil, _, _ => trivial
  | .cons key _ schema rest, hname, h => by
    rw [Fields.declares, Bool.or_eq_false_iff] at hname
    have hne : (key == name) = false := by
      rw [beq_eq_false_iff_ne]
      rintro rfl
      simp at hname
    refine ⟨?_, agreeFields_cons hname.2 h.2⟩
    simp only [List.lookup_cons, hne]
    exact h.1

/-- A check that keeps a relation keeps it along a list. -/
theorem mapM_forall₂ {R S : PyVal → PyVal → Prop} {check : PyVal → Option PyVal}
    (hcheck : ∀ v v' x, R v v' → check v = some x → ∃ x', check v' = some x' ∧ S x x') :
    ∀ {items items' xs : List PyVal}, List.Forall₂ R items items' → items.mapM check = some xs →
      ∃ xs', items'.mapM check = some xs' ∧ List.Forall₂ S xs xs'
  | _, _, xs, .nil, h => by
    obtain rfl : [] = xs := by simpa using h
    exact ⟨[], by simp, .nil⟩
  | _, _, xs, .cons hv hitems, h => by
    simp only [List.mapM_cons, Option.bind_eq_bind, Option.pure_def,
      Option.bind_eq_some_iff, Option.some.injEq] at h
    obtain ⟨x, hx, ys, hys, rfl⟩ := h
    obtain ⟨x', hx', hS⟩ := hcheck _ _ _ hv hx
    obtain ⟨ys', hys', hrest⟩ := mapM_forall₂ hcheck hitems hys
    exact ⟨x' :: ys', by simp [hx', hys'], .cons hS hrest⟩

theorem fieldValue_some {required : Bool} {check : PyVal → Option PyVal} {v : PyVal}
    (hv : v ≠ .null) : fieldValue required check (some v) = check v := by
  cases v with
  | null => exact absurd rfl hv
  | _ => rfl

theorem null_iff_of_agree {schema : Schema} {v v' : PyVal} (h : Agree schema v v') :
    v = .null ↔ v' = .null := by
  cases schema with
  | scalar check => rw [show v = v' from h]
  | list schema =>
    obtain ⟨items, items', rfl, rfl, -⟩ := h
    simp
  | model fields =>
    obtain ⟨d, d', rfl, rfl, -⟩ := h
    simp

/-- What `None` is coerced to agrees with itself. -/
theorem agree_of_validate_null {schema : Schema} {x : PyVal}
    (h : validate schema .null = some x) : Agree schema x x := by
  cases schema with
  | scalar check => exact rfl
  | list schema => cases h
  | model fields => cases h

/-- Validation of a field keeps agreement if its check does. -/
theorem fieldValue_agree {required : Bool} {schema : Schema} {o o' : Option PyVal} {x : PyVal}
    (hcheck : ∀ v v' x, Agree schema v v' → validate schema v = some x →
      ∃ x', validate schema v' = some x' ∧ Agree schema x x')
    (h : Option.Rel (fun v v' => (v = .null ∧ v' = .null) ∨ Agree schema v v') o o')
    (hx : fieldValue required (validate schema) o = some x) :
    ∃ x', fieldValue required (validate schema) o' = some x' ∧
      ((x = .null ∧ x' = .null) ∨ Agree schema x x') := by
  cases h with
  | none =>
    cases required with
    | true => cases hx
    | false =>
      obtain rfl := Option.some.inj hx
      exact ⟨.null, rfl, Or.inl ⟨rfl, rfl⟩⟩
  | @some v v' hv =>
    have hnull : v = .null ↔ v' = .null := by
      rcases hv with ⟨rfl, rfl⟩ | hv
      · exact Iff.rfl
      · exact null_iff_of_agree hv
    by_cases hvn : v = .null
    · obtain rfl := hnull.mp hvn
      subst hvn
      cases required with
      | true => exact ⟨x, hx, Or.inr (agree_of_validate_null hx)⟩
      | false =>
        obtain rfl := Option.some.inj hx
        exact ⟨.null, rfl, Or.inl ⟨rfl, rfl⟩⟩
    · have hv := hv.resolve_left fun h => hvn h.1
      rw [fieldValue_some hvn] at hx
      obtain ⟨x', hx', hxx⟩ := hcheck v v' x hv hx
      exact ⟨x', by rw [fieldValue_some fun h => hvn (hnull.mpr h), hx'], Or.inr hxx⟩

mutual

/-- **Validation keeps agreement.** -/
theorem validate_agree : ∀ (schema : Schema), schema.distinct = true → ∀ {v v' x : PyVal},
    Agree schema v v' → validate schema v = some x →
      ∃ x', validate schema v' = some x' ∧ Agree schema x x'
  | .scalar check, _, v, v', x, h, hx => by
    obtain rfl : v = v' := h
    exact ⟨x, hx, rfl⟩
  | .list schema, hd, v, v', x, h, hx => by
    obtain ⟨items, items', rfl, rfl, hitems⟩ := h
    simp only [validate, Option.map_eq_some_iff] at hx ⊢
    obtain ⟨xs, hxs, rfl⟩ := hx
    obtain ⟨xs', hxs', hrel⟩ :=
      mapM_forall₂ (fun _ _ _ hv hc => validate_agree schema hd hv hc) hitems hxs
    exact ⟨_, ⟨xs', hxs', rfl⟩, xs, xs', rfl, rfl, hrel⟩
  | .model fields, hd, v, v', x, h, hx => by
    obtain ⟨d, d', rfl, rfl, hfields⟩ := h
    simp only [validate, Option.map_eq_some_iff] at hx ⊢
    obtain ⟨dump, hdump, rfl⟩ := hx
    obtain ⟨dump', hdump', hrel⟩ := validateFields_agree fields hd hfields hdump
    exact ⟨_, ⟨dump', hdump', rfl⟩, _, _, rfl, rfl, hrel _ _⟩

theorem validateFields_agree : ∀ (fields : Fields), distinctFields fields = true →
    ∀ {d d' dump : Dict}, AgreeFields fields d d' → validateFields fields d = some dump →
      ∃ dump', validateFields fields d' = some dump' ∧
        ∀ e e', AgreeFields fields (dump ++ e) (dump' ++ e')
  | .nil, _, d, d', dump, _, h => ⟨[], rfl, fun _ _ => trivial⟩
  | .cons name required schema rest, hd, d, d', dump, ⟨hrel, hrest⟩, h => by
    simp only [distinctFields, Bool.and_eq_true, Bool.not_eq_true'] at hd
    obtain ⟨⟨hname, hschema⟩, hdrest⟩ := hd
    simp only [validateFields, Option.bind_eq_some_iff, Option.map_eq_some_iff] at h ⊢
    obtain ⟨x, hx, ds, hds, rfl⟩ := h
    obtain ⟨ds', hds', hagree⟩ := validateFields_agree rest hdrest hrest hds
    obtain ⟨x', hx', hxx⟩ := fieldValue_agree
      (fun _ _ _ hv hc => validate_agree schema hschema hv hc) hrel hx
    refine ⟨_, ⟨x', hx', ds', hds', rfl⟩, fun e e' => ⟨?_, agreeFields_cons hname (hagree e e')⟩⟩
    simp only [List.cons_append, List.lookup_cons_self]
    exact .some hxx

end

/-- **Undeclared keys are inert.** -/
theorem validate_adds {schema : Schema} (hd : schema.distinct = true) {v v' x : PyVal}
    (h : Adds schema v v') (hx : validate schema v = some x) :
    ∃ x', validate schema v' = some x' ∧ Agree schema x x' :=
  validate_agree schema hd (Adds.agree schema h) hx

/-! ## Reading what was validated -/

/-- A declared field is a scalar. -/
def isScalarAt (fields : Fields) (key : Text) : Bool :=
  match schemaAt fields key with
  | some (.scalar _) => true
  | _ => false

/-- What is read under a declared name agrees. -/
theorem AgreeFields.get {key : Text} {schema : Schema} {d d' : Dict} : ∀ {fields : Fields},
    AgreeFields fields d d' → schemaAt fields key = some schema →
      (PyVal.get d key = .null ∧ PyVal.get d' key = .null) ∨
        Agree schema (PyVal.get d key) (PyVal.get d' key)
  | .nil, _, hs => by cases hs
  | .cons name _ _ rest, h, hs => by
    rw [schemaAt] at hs
    split at hs
    · rename_i hkey
      obtain rfl := hkey
      obtain rfl := Option.some.inj hs
      have hrel := h.1
      unfold PyVal.get
      generalize d.lookup key = o at hrel
      generalize d'.lookup key = o' at hrel
      cases hrel with
      | none => exact Or.inl ⟨rfl, rfl⟩
      | some hv => exact hv
    · exact AgreeFields.get h.2 hs

/-- What is read under the name of a scalar is the same. -/
theorem AgreeFields.get_eq {fields : Fields} {d d' : Dict} (h : AgreeFields fields d d')
    {key : Text} (hkey : isScalarAt fields key = true) : PyVal.get d key = PyVal.get d' key := by
  unfold isScalarAt at hkey
  split at hkey
  · rename_i check hs
    rcases AgreeFields.get h hs with ⟨hd, hd'⟩ | heq
    · rw [hd, hd']
    · exact heq
  · cases hkey

/-! ## What a dump holds -/

/-- A declared field must be there. -/
def requiredAt : Fields → Text → Bool
  | .nil, _ => false
  | .cons name required _ rest, key => if key = name then required else requiredAt rest key

theorem fieldValue_eq_some {required : Bool} {check : PyVal → Option PyVal} {o : Option PyVal}
    {x : PyVal} (h : fieldValue required check o = some x) :
    (required = false ∧ o.getD .null = .null ∧ x = .null) ∨ check (o.getD .null) = some x := by
  cases o with
  | none =>
    cases required with
    | true => cases h
    | false => exact Or.inl ⟨rfl, rfl, (Option.some.inj h).symm⟩
  | some v =>
    by_cases hv : v = .null
    · subst hv
      cases required with
      | true => exact Or.inr h
      | false => exact Or.inl ⟨rfl, rfl, (Option.some.inj h).symm⟩
    · rw [fieldValue_some hv] at h
      exact Or.inr h

/-- A declared field is dumped as it was validated, whatever comes behind the declared ones. -/
theorem lookup_validateFields {key : Text} {schema : Schema} {d : Dict} (e : Dict) :
    ∀ {fields : Fields} {dump : Dict}, validateFields fields d = some dump →
      schemaAt fields key = some schema → ∃ x, (dump ++ e).lookup key = some x ∧
        fieldValue (requiredAt fields key) (validate schema) (d.lookup key) = some x
  | .nil, _, _, hs => by cases hs
  | .cons name _ _ rest, dump, h, hs => by
    simp only [validateFields, Option.bind_eq_some_iff, Option.map_eq_some_iff] at h
    obtain ⟨x, hx, ds, hds, rfl⟩ := h
    rw [schemaAt] at hs
    rw [requiredAt, List.cons_append]
    split at hs
    · rename_i hkey
      obtain rfl := hkey
      obtain rfl := Option.some.inj hs
      exact ⟨x, List.lookup_cons_self, by rwa [if_pos rfl]⟩
    · rename_i hkey
      have hne : (key == name) = false := by simpa using hkey
      rw [if_neg hkey, List.lookup_cons, hne]
      exact lookup_validateFields e hds hs

/-- **What is read of the dump of a model** is what the field's schema made of what is read of the
document, or `None` for `None`. -/
theorem get_of_validate {fields : Fields} {v x : PyVal} (h : validate (.model fields) v = some x) :
    ∃ d dump, v = .dict d ∧ x = .dict dump ∧ ∀ key schema, schemaAt fields key = some schema →
      (requiredAt fields key = false ∧ PyVal.get d key = .null ∧ PyVal.get dump key = .null) ∨
        validate schema (PyVal.get d key) = some (PyVal.get dump key) := by
  cases v with
  | dict d =>
    obtain ⟨dump, hdump, rfl⟩ := Option.map_eq_some_iff.mp h
    refine ⟨d, _, rfl, rfl, fun key schema hs => ?_⟩
    obtain ⟨x, hx, hvalue⟩ := lookup_validateFields
      (d.filter fun m => !fields.declares m.1) hdump hs
    have hget : PyVal.get (dump ++ d.filter fun m => !fields.declares m.1) key = x := by
      rw [PyVal.get, hx, Option.getD_some]
    rw [hget]
    exact fieldValue_eq_some hvalue
  | _ => cases h

/-- The dump of a declared field, from what is found under its name in the document. -/
theorem fieldValue_of_validate {fields : Fields} {d dump : Dict}
    (h : validate (.model fields) (.dict d) = some (.dict dump)) {key : Text} {schema : Schema}
    (hs : schemaAt fields key = some schema) :
    fieldValue (requiredAt fields key) (validate schema) (d.lookup key) =
      some (PyVal.get dump key) := by
  obtain ⟨declared, hdeclared, hdump⟩ := Option.map_eq_some_iff.mp h
  obtain rfl := PyVal.dict.inj hdump
  obtain ⟨x, hx, hvalue⟩ := lookup_validateFields
    (d.filter fun m => !fields.declares m.1) hdeclared hs
  rwa [PyVal.get, hx, Option.getD_some]

theorem fieldValue_none {required : Bool} {check : PyVal → Option PyVal} {x : PyVal}
    (h : fieldValue required check none = some x) : x = .null := by
  cases required with
  | true => cases h
  | false => exact (Option.some.inj h).symm

/-- The dump of a list has one item for each item, in order. -/
theorem forall₂_of_validate {schema : Schema} {v x : PyVal}
    (h : validate (.list schema) v = some x) : ∃ items xs, v = .list items ∧ x = .list xs ∧
      List.Forall₂ (fun v x => validate schema v = some x) items xs := by
  cases v with
  | list items =>
    obtain ⟨xs, hxs, rfl⟩ := Option.map_eq_some_iff.mp h
    refine ⟨items, xs, rfl, rfl, ?_⟩
    clear h
    induction items generalizing xs with
    | nil =>
      obtain rfl : [] = xs := by simpa using hxs
      exact .nil
    | cons v items ih =>
      simp only [List.mapM_cons, Option.bind_eq_bind, Option.pure_def, Option.bind_eq_some_iff,
        Option.some.injEq] at hxs
      obtain ⟨y, hy, ys, hys, rfl⟩ := hxs
      exact .cons hy (ih ys hys)
  | _ => cases h

/-! ## What is accepted -/

/-- The schema accepts a value. -/
def Accepts (schema : Schema) (v : PyVal) : Prop := (validate schema v).isSome = true

theorem accepts_list {schema : Schema} {items : List PyVal} :
    Accepts (.list schema) (.list items) ↔ ∀ v ∈ items, Accepts schema v := by
  simp only [Accepts, validate, Option.isSome_map]
  induction items with
  | nil => simp
  | cons v items ih =>
    rw [List.mapM_cons, List.forall_mem_cons, ← ih]
    cases validate schema v with
    | none => simp
    | some x => cases items.mapM (validate schema) <;> simp

/-- The names of the fields that are required. -/
def requiredNames : Fields → List Text
  | .nil => []
  | .cons name required _ rest =>
    if required then name :: requiredNames rest else requiredNames rest

theorem schemaAt_eq_none {key : Text} : ∀ {fields : Fields}, fields.declares key = false →
    schemaAt fields key = none
  | .nil, _ => rfl
  | .cons name _ _ rest, h => by
    rw [Fields.declares, Bool.or_eq_false_iff, decide_eq_false_iff_not] at h
    rw [schemaAt, if_neg h.1, schemaAt_eq_none h.2]

/-- Without `None`, a field is accepted if its value is, or if it may be missing. -/
theorem fieldValue_isSome {required : Bool} {schema : Schema} {o : Option PyVal}
    (hnull : o ≠ some .null) : (fieldValue required (validate schema) o).isSome = true ↔
      (∀ v ∈ o, Accepts schema v) ∧ (required = true → o.isSome = true) := by
  cases o with
  | none => cases required <;> simp [fieldValue]
  | some v =>
    rw [fieldValue_some fun hv => hnull (congrArg some hv)]
    simp [Accepts]

theorem validateFields_isSome {d : Dict} (hnull : ∀ key, d.lookup key ≠ some .null) :
    ∀ {fields : Fields}, distinctFields fields = true →
      ((validateFields fields d).isSome = true ↔
        (∀ key, ∀ v ∈ d.lookup key, ∀ schema ∈ schemaAt fields key, Accepts schema v) ∧
          ∀ key ∈ requiredNames fields, (d.lookup key).isSome = true)
  | .nil, _ => by simp [validateFields, schemaAt, requiredNames]
  | .cons name required schema rest, hd => by
    simp only [distinctFields, Bool.and_eq_true, Bool.not_eq_true'] at hd
    have hrest := validateFields_isSome hnull hd.2
    have hhead := @fieldValue_isSome required schema (d.lookup name) (hnull name)
    have hsplit : (validateFields (.cons name required schema rest) d).isSome = true ↔
        (fieldValue required (validate schema) (d.lookup name)).isSome = true ∧
          (validateFields rest d).isSome = true := by
      rw [validateFields]
      cases fieldValue required (validate schema) (d.lookup name) <;> simp
    rw [hsplit, hhead, hrest]
    constructor
    · rintro ⟨⟨hname, hpresent⟩, hvalues, hrequired⟩
      refine ⟨fun key v hv s hs => ?_, fun key hkey => ?_⟩
      · rw [schemaAt] at hs
        split at hs
        · rename_i heq
          cases hs
          exact hname v (heq ▸ hv)
        · exact hvalues key v hv s hs
      · rw [requiredNames] at hkey
        split at hkey
        · rename_i hreq
          rcases List.mem_cons.mp hkey with rfl | hmem
          · exact hpresent hreq
          · exact hrequired key hmem
        · exact hrequired key hkey
    · rintro ⟨hvalues, hrequired⟩
      refine ⟨⟨fun v hv => hvalues name v hv schema (if_pos rfl), fun hreq => ?_⟩,
        fun key v hv s hs => hvalues key v hv s ?_, fun key hkey => hrequired key ?_⟩
      · exact hrequired name (by simp [requiredNames, hreq])
      · have hne : key ≠ name := by
          rintro rfl
          rw [schemaAt_eq_none hd.1.1] at hs
          cases hs
        rw [schemaAt, if_neg hne]
        exact hs
      · rw [requiredNames]
        split
        · exact List.mem_cons_of_mem _ hkey
        · exact hkey

/-- Where no key occurs twice, an entry is found under its key. -/
theorem lookup_of_mem {key : Text} {v : PyVal} : ∀ {d : Dict}, (d.map Prod.fst).Nodup →
    (d.lookup key = some v ↔ (key, v) ∈ d)
  | [], _ => by simp
  | (k, x) :: d, hd => by
    rw [List.map_cons, List.nodup_cons] at hd
    have ih := @lookup_of_mem key v d hd.2
    by_cases hk : key = k
    · subst hk
      have hnot : (key, v) ∉ d := fun hmem => hd.1 (List.mem_map.mpr ⟨_, hmem, rfl⟩)
      simp [hnot, eq_comm]
    · have hne : (key == k) = false := by simpa using hk
      simp [List.lookup_cons, hne, ih, hk]

/-- **A model accepts a `dict` whose entries it accepts**, and that has what is required. -/
theorem accepts_model {fields : Fields} {d : Dict} (hd : distinctFields fields = true)
    (hkeys : (d.map Prod.fst).Nodup) (hnull : ∀ m ∈ d, m.2 ≠ .null) :
    Accepts (.model fields) (.dict d) ↔
      (∀ m ∈ d, ∀ schema ∈ schemaAt fields m.1, Accepts schema m.2) ∧
        ∀ key ∈ requiredNames fields, key ∈ d.map Prod.fst := by
  have hlookup : ∀ key, d.lookup key ≠ some .null := fun key hkey =>
    hnull _ ((lookup_of_mem hkeys).mp hkey) rfl
  simp only [Accepts, validate, Option.isSome_map]
  rw [validateFields_isSome hlookup hd]
  refine and_congr ⟨fun h m hm => ?_, fun h key v hv => ?_⟩ (forall₂_congr fun key _ => ?_)
  · exact h m.1 m.2 ((lookup_of_mem hkeys).mpr hm)
  · exact h (key, v) ((lookup_of_mem hkeys).mp hv)
  · simp only [List.lookup_isSome_iff, List.mem_map, beq_iff_eq]
    exact exists_congr fun m => and_congr_right fun _ => eq_comm

end Schema
