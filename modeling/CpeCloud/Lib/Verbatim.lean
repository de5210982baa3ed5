import CpeCloud.Lib.Json
import Mathlib.Data.List.Nodup
import Mathlib.Data.List.Perm.Subperm

/-!
# JSON written without escapes

`verbatim` is the text of a document in which strings stand between quotes as they are. What a
traversal makes of a document is a `Fold`; `Json.ind` is the induction over documents.

* **`loads_verbatim`**: what is written verbatim is read back, if all strings are plain.
* **`plain_of_loads`**: and only then. A document that was read has cost at least one character for
  each character of its strings, and two for one that is not plain (`cost_le_of_loads`).
* `plain_of_lookups`: the same for an object that is read back with further members.
-/

namespace Json

universe u

/-! ## Documents as trees -/

/-- What a traversal makes of each kind of node. -/
structure Fold (α : Type u) where
  null : α
  bool : Bool → α
  num : Text → α
  str : Text → α
  arr : List α → α
  obj : List (Text × α) → α

variable {α : Type u}

mutual

/-- A traversal from the leaves. -/
def fold (F : Fold α) : Json → α
  | .null => F.null
  | .bool b => F.bool b
  | .num literal => F.num literal
  | .str t => F.str t
  | .arr items => F.arr (foldItems F items)
  | .obj members => F.obj (foldMembers F members)

/-- The items of an array. -/
def foldItems (F : Fold α) : List Json → List α
  | [] => []
  | item :: items => fold F item :: foldItems F items

/-- The members of an object. -/
def foldMembers (F : Fold α) : List (Text × Json) → List (Text × α)
  | [] => []
  | (key, value) :: members => (key, fold F value) :: foldMembers F members

end

theorem fold_arr (F : Fold α) (items : List Json) :
    fold F (.arr items) = F.arr (items.map (fold F)) := by
  rw [fold]
  congr 1
  induction items with
  | nil => rfl
  | cons item items ih => rw [foldItems, ih, List.map_cons]

theorem fold_obj (F : Fold α) (members : List (Text × Json)) :
    fold F (.obj members) = F.obj (members.map fun m => (m.1, fold F m.2)) := by
  rw [fold]
  congr 1
  induction members with
  | nil => rfl
  | cons m members ih => rw [foldMembers, ih, List.map_cons]

/-- Induction over documents. -/
theorem ind {P : Json → Prop} (null : P .null) (bool : ∀ b, P (.bool b))
    (num : ∀ literal, P (.num literal)) (str : ∀ t, P (.str t))
    (arr : ∀ items : List Json, (∀ j ∈ items, P j) → P (.arr items))
    (obj : ∀ members : List (Text × Json), (∀ m ∈ members, P m.2) → P (.obj members)) :
    ∀ j, P j :=
  @Json.rec P (fun items => ∀ j ∈ items, P j) (fun members => ∀ m ∈ members, P m.2)
    (fun m => P m.2) null bool num str arr obj
    (fun _ hj => nomatch hj)
    (fun _ _ hitem hitems => List.forall_mem_cons.mpr ⟨hitem, hitems⟩)
    (fun _ hm => nomatch hm)
    (fun _ _ hm hmembers => List.forall_mem_cons.mpr ⟨hm, hmembers⟩)
    (fun _ _ hvalue => hvalue)

/-! ## Writing -/

/-- The pieces with commas between them. -/
def joined : List Text → Text
  | [] => []
  | t :: ts => t ++ ts.flatMap fun u => ',' :: u

/-- A member of an object. -/
def member (key value : Text) : Text := quoted key ++ ':' :: value

/-- The texts of the nodes, without escapes. -/
def textFold : Fold Text where
  null := "null".toList
  bool b := if b then "true".toList else "false".toList
  num literal := literal
  str t := quoted t
  arr items := '[' :: joined items ++ [']']
  obj members := '{' :: joined (members.map fun m => member m.1 m.2) ++ ['}']

/-- The text of a document. -/
def verbatim (j : Json) : Text := fold textFold j

/-- The strings of the nodes. -/
def stringFold : Fold (List Text) where
  null := []
  bool _ := []
  num _ := []
  str t := [t]
  arr items := items.flatten
  obj members := members.flatMap fun m => m.1 :: m.2

/-- The strings of a document, keys included. -/
def strings (j : Json) : List Text := fold stringFold j

/-- Whether the nodes are regular. -/
def regularFold : Fold Prop where
  null := True
  bool _ := True
  num literal := isNumber literal = true
  str _ := True
  arr items := ∀ p ∈ items, p
  obj members := (members.map Prod.fst).Nodup ∧ ∀ m ∈ members, m.2

/-- The literals are numbers, and no object has a key twice. -/
def Regular (j : Json) : Prop := fold regularFold j

/-- All strings of a document are plain. -/
def IsPlain (j : Json) : Prop := ∀ t ∈ strings j, t.all isPlain = true

theorem verbatim_arr (items : List Json) :
    verbatim (.arr items) = '[' :: joined (items.map verbatim) ++ [']'] :=
  fold_arr _ items

theorem verbatim_obj (members : List (Text × Json)) : verbatim (.obj members) =
    '{' :: joined (members.map fun m => member m.1 (verbatim m.2)) ++ ['}'] := by
  simp only [verbatim, fold_obj, textFold, List.map_map, Function.comp_def]

theorem strings_arr (items : List Json) : strings (.arr items) = items.flatMap strings :=
  fold_arr _ items

theorem strings_obj (members : List (Text × Json)) :
    strings (.obj members) = members.flatMap fun m => m.1 :: strings m.2 := by
  simp only [strings, fold_obj, stringFold, List.flatMap_map]

theorem regular_arr {items : List Json} : Regular (.arr items) ↔ ∀ j ∈ items, Regular j := by
  simp only [Regular, fold_arr, regularFold, List.forall_mem_map]

theorem regular_obj {members : List (Text × Json)} : Regular (.obj members) ↔
    (members.map Prod.fst).Nodup ∧ ∀ m ∈ members, Regular m.2 := by
  simp only [Regular, fold_obj, regularFold, List.forall_mem_map, List.map_map, Function.comp_def]

theorem isPlain_arr {items : List Json} : IsPlain (.arr items) ↔ ∀ j ∈ items, IsPlain j := by
  simp only [IsPlain, strings_arr, List.forall_mem_flatMap]

theorem isPlain_obj {members : List (Text × Json)} : IsPlain (.obj members) ↔
    ∀ m ∈ members, m.1.all isPlain = true ∧ IsPlain m.2 := by
  simp only [IsPlain, strings_obj, List.forall_mem_flatMap, List.forall_mem_cons]

/-! ## What is written is read back -/

theorem literalOf_number {t : Text} (h : isNumber t = true) : literalOf t = some (.num t) := by
  rw [literalOf, if_neg (ne_of_isNumber h (by decide)), if_neg (ne_of_isNumber h (by decide)),
    if_neg (ne_of_isNumber h (by decide)), if_pos (by simp [h])]

theorem setKey_fresh {key : Text} {value : Json} : ∀ {done : List (Text × Json)},
    key ∉ done.map Prod.fst → setKey done key value = done ++ [(key, value)]
  | [], _ => rfl
  | m :: done, h => by
    rw [List.map_cons, List.mem_cons, not_or] at h
    rw [setKey, if_neg (Ne.symm h.1), setKey_fresh h.2, List.cons_append]

/-- Behind a value stands a comma or a bracket. -/
theorem delimits_rest (ts : List Text) {c : Char} (hc : isBare c = false) :
    Delimits (ts.flatMap (fun t => ',' :: t) ++ [c]) := by
  cases ts with
  | nil =>
    rintro _ ⟨⟩
    exact hc
  | cons t ts =>
    rintro _ ⟨⟩
    rfl

theorem step_value {p : Parser} (hp : p.phase.takesValue = true) (j : Json) :
    p.step (.value j) = deliver j p.stack := by
  rw [Parser.step, if_pos hp]

theorem step_str {p : Parser} (hp : p.phase.takesValue = true) (t : Text) :
    p.step (.str t) = deliver (.str t) p.stack := by
  obtain ⟨phase, stack⟩ := p
  cases phase <;> first | rfl | cases hp

/-- The text of a document takes the parser behind the document. -/
def ReadsAs (j : Json) : Prop :=
  ∀ {p q : Parser}, p.phase.takesValue = true → deliver j p.stack = some q → Reads p (verbatim j) q

theorem reads_items (stack : List Frame) {q : Parser} : ∀ (items done : List Json),
    (∀ j ∈ items, ReadsAs j) → deliver (.arr (done ++ items)) stack = some q →
      Reads ⟨.next, .items done :: stack⟩
        ((items.map verbatim).flatMap (fun t => ',' :: t) ++ [']']) q
  | [], done, _, hq => by
    rw [List.append_nil] at hq
    exact Reads.cons (k := .rbracket) rfl hq (Reads.nil q)
  | item :: items, done, h, hq => by
    obtain ⟨hitem, hitems⟩ := List.forall_mem_cons.mp h
    rw [List.append_cons] at hq
    have hrest := reads_items stack items (done ++ [item]) hitems hq
    have hvalue : Reads ⟨.value, .items done :: stack⟩ (verbatim item)
        ⟨.next, .items (done ++ [item]) :: stack⟩ := hitem rfl rfl
    have hboth := hvalue.append hrest (delimits_rest _ rfl)
    rw [List.map_cons, List.flatMap_cons, List.cons_append, List.cons_append, List.append_assoc]
    exact Reads.cons (k := .comma) rfl rfl hboth

/-- A member, behind a brace or a comma. -/
theorem reads_member {key : Text} {value : Json} (hkey : key.all isPlain = true)
    (hvalue : ReadsAs value) {phase : Phase} (hphase : phase = .key ∨ phase = .firstKey)
    (done : List (Text × Json)) (stack : List Frame) :
    Reads ⟨phase, .members done :: stack⟩ (member key (verbatim value))
      ⟨.next, .members (setKey done key value) :: stack⟩ := by
  have hquoted : Reads ⟨phase, .members done :: stack⟩ (quoted key)
      ⟨.colon, .awaiting done key :: stack⟩ := by
    refine Reads.string hkey ?_
    rcases hphase with rfl | rfl <;> rfl
  have hread : Reads ⟨.value, .awaiting done key :: stack⟩ (verbatim value)
      ⟨.next, .members (setKey done key value) :: stack⟩ := hvalue rfl rfl
  refine hquoted.append (Reads.cons (k := .colon) rfl rfl hread) ?_
  rintro _ ⟨⟩
  rfl

theorem reads_members (stack : List Frame) {q : Parser} : ∀ (members done : List (Text × Json)),
    (∀ m ∈ members, m.1.all isPlain = true ∧ ReadsAs m.2) →
      ((done ++ members).map Prod.fst).Nodup → deliver (.obj (done ++ members)) stack = some q →
        Reads ⟨.next, .members done :: stack⟩
          ((members.map fun m => member m.1 (verbatim m.2)).flatMap (fun t => ',' :: t) ++ ['\x7d'])
          q
  | [], done, _, _, hq => by
    rw [List.append_nil] at hq
    exact Reads.cons (k := .rbrace) rfl hq (Reads.nil q)
  | (key, value) :: members, done, h, hd, hq => by
    obtain ⟨⟨hkey, hvalue⟩, hmembers⟩ := List.forall_mem_cons.mp h
    have hfresh : key ∉ done.map Prod.fst := by
      rw [List.map_append, List.nodup_append] at hd
      exact fun hmem => hd.2.2 key hmem key List.mem_cons_self rfl
    have hm := reads_member hkey hvalue (Or.inl rfl) done stack
    rw [setKey_fresh hfresh] at hm
    rw [List.append_cons] at hd hq
    have hrest := reads_members stack members (done ++ [(key, value)]) hmembers hd hq
    have hboth := hm.append hrest (delimits_rest _ rfl)
    rw [List.map_cons, List.flatMap_cons, List.cons_append, List.cons_append, List.append_assoc]
    exact Reads.cons (k := .comma) rfl rfl hboth

theorem reads_verbatim {j : Json} (hr : Regular j) (hp : IsPlain j) : ReadsAs j := by
  induction j using ind with
  | null => exact fun ht hq => Reads.word rfl rfl ((step_value ht _).trans hq)
  | bool b =>
    cases b <;> exact fun ht hq => Reads.word rfl rfl ((step_value ht _).trans hq)
  | num literal =>
    exact fun ht hq =>
      Reads.word (literalOf_number hr) (isBare_of_isNumber hr) ((step_value ht _).trans hq)
  | str t =>
    exact fun ht hq => Reads.string (hp t List.mem_cons_self) ((step_str ht _).trans hq)
  | arr items ih =>
    rw [regular_arr] at hr
    rw [isPlain_arr] at hp
    intro p q ht hq
    rw [verbatim_arr, List.cons_append]
    have hopen : p.step .lbracket = some ⟨.first, .items [] :: p.stack⟩ := if_pos ht
    refine Reads.cons (k := .lbracket) rfl hopen ?_
    cases items with
    | nil => exact Reads.cons (k := .rbracket) rfl hq (Reads.nil q)
    | cons item items =>
      have hreads : ∀ j ∈ item :: items, ReadsAs j := fun j hj => ih j hj (hr j hj) (hp j hj)
      obtain ⟨hitem, hitems⟩ := List.forall_mem_cons.mp hreads
      have hvalue : Reads ⟨.first, .items [] :: p.stack⟩ (verbatim item)
          ⟨.next, .items [item] :: p.stack⟩ := hitem rfl rfl
      rw [List.map_cons, joined, List.append_assoc]
      exact hvalue.append (reads_items p.stack items [item] hitems hq) (delimits_rest _ rfl)
  | obj members ih =>
    rw [regular_obj] at hr
    rw [isPlain_obj] at hp
    intro p q ht hq
    rw [verbatim_obj, List.cons_append]
    have hopen : p.step .lbrace = some ⟨.firstKey, .members [] :: p.stack⟩ := if_pos ht
    refine Reads.cons (k := .lbrace) rfl hopen ?_
    cases members with
    | nil => exact Reads.cons (k := .rbrace) rfl hq (Reads.nil q)
    | cons m members =>
      have hreads : ∀ m' ∈ m :: members, m'.1.all isPlain = true ∧ ReadsAs m'.2 :=
        fun m' hm => ⟨(hp m' hm).1, ih m' hm (hr.2 m' hm) (hp m' hm).2⟩
      obtain ⟨⟨hkey, hvalue⟩, hmembers⟩ := List.forall_mem_cons.mp hreads
      have hm := reads_member hkey hvalue (Or.inr rfl) [] p.stack
      rw [List.map_cons, joined, List.append_assoc]
      exact hm.append (reads_members p.stack members [m] hmembers hr.1 hq) (delimits_rest _ rfl)

/-- **What is written is read back**, if it is plain. -/
theorem loads_verbatim {j : Json} (hr : Regular j) (hp : IsPlain j) : loads (verbatim j) = some j :=
  Reads.loads (reads_verbatim hr hp rfl rfl)

/-! ## What was read has been paid for -/

/-- The characters that are not plain. -/
def specials (t : Text) : Nat := t.countP fun c => !isPlain c

/-- What a text has cost in a document: two characters for each that is not plain. -/
def textCost (t : Text) : Nat := t.length + specials t

/-- What values have cost, each with a comma. -/
def spread (costs : List Nat) : Nat := (costs.map (· + 1)).sum

/-- What an array or object has cost without its closing bracket. -/
def listCost (costs : List Nat) : Nat := max 1 (spread costs)

/-- What the nodes have cost. -/
def costFold : Fold Nat where
  null := 4
  bool b := if b then 4 else 5
  num literal := literal.length
  str t := textCost t + 2
  arr items := listCost items + 1
  obj members := listCost (members.map fun m => textCost m.1 + 3 + m.2) + 1

/-- The characters that a document has cost, at least. -/
def cost (j : Json) : Nat := fold costFold j

/-- What a member has cost. -/
def memberCost (m : Text × Json) : Nat := textCost m.1 + 3 + cost m.2

theorem cost_arr (items : List Json) : cost (.arr items) = listCost (items.map cost) + 1 :=
  fold_arr _ items

theorem cost_obj (members : List (Text × Json)) :
    cost (.obj members) = listCost (members.map memberCost) + 1 := by
  rw [cost, fold_obj]
  simp only [costFold, List.map_map]
  rfl

theorem spread_append (costs : List Nat) (n : Nat) :
    spread (costs ++ [n]) = spread costs + n + 1 := by
  simp [spread, Nat.add_assoc]

theorem listCost_append (costs : List Nat) (n : Nat) :
    listCost (costs ++ [n]) = spread costs + n + 1 := by
  rw [listCost, spread_append]
  omega

theorem listCost_le (costs : List Nat) : listCost costs ≤ spread costs + 1 := by
  rw [listCost]
  omega

theorem spread_setKey (key : Text) (value : Json) : ∀ done : List (Text × Json),
    spread ((setKey done key value).map memberCost) ≤
      spread (done.map memberCost) + memberCost (key, value) + 1
  | [] => by simp [setKey, spread]
  | m :: done => by
    rw [setKey]
    split
    · simp [spread]
      omega
    · have ih := spread_setKey key value done
      simp only [spread, List.map_cons, List.sum_cons] at ih ⊢
      omega

theorem textCost_append (t : Text) (c : Char) : textCost (t ++ [c]) ≤ textCost t + 2 := by
  simp only [textCost, specials, List.length_append, List.length_singleton, List.countP_append]
  have := List.countP_le_length (p := fun c => !isPlain c) (l := [c])
  simp only [List.length_singleton] at this
  omega

theorem textCost_append_plain (t : Text) {c : Char} (h : isPlain c = true) :
    textCost (t ++ [c]) = textCost t + 1 := by
  simp [textCost, specials, h]
  omega

theorem cost_literalOf {t : Text} {j : Json} (h : literalOf t = some j) : cost j = t.length := by
  unfold literalOf at h
  split at h
  · rename_i ht
    cases h
    rw [ht]
    rfl
  · split at h
    · rename_i ht
      cases h
      rw [ht]
      rfl
    · split at h
      · rename_i ht
        cases h
        rw [ht]
        rfl
      · split at h
        · cases h
          rfl
        · cases h

/-! ### Tokens -/

/-- What a token has cost. -/
def Token.cost : Token → Nat
  | .str t => textCost t + 2
  | .value j => j.cost
  | _ => 1

/-- What the token that has begun has cost. -/
def Lex.cost : Lex → Nat
  | .idle => 0
  | .bare run => run.length
  | .string acc _ => 1 + textCost acc
  | .escape acc _ => 2 + textCost acc
  | .unicode acc _ _ => 2 + textCost acc

theorem idleStep_cost {c : Char} {l : Lex} {tokens : List Token}
    (h : idleStep c = some (l, tokens)) : l.cost + (tokens.map Token.cost).sum ≤ 1 := by
  unfold idleStep at h
  split at h
  · cases h
    decide
  · split at h
    · cases h
      simp [Lex.cost]
    · split at h <;> cases h <;> decide

theorem codeUnit_cost {acc : Text} {high : Option Nat} {n : Nat} {l : Lex}
    (h : codeUnit acc high n = some l) : l.cost ≤ textCost acc + 3 := by
  unfold codeUnit at h
  split at h
  · rename_i first
    rw [Option.ite_none_right_eq_some] at h
    cases h.2
    have := textCost_append acc (Char.ofNat (0x10000 + (first - 0xd800) * 0x400 + (n - 0xdc00)))
    simp only [Lex.cost]
    omega
  · split at h
    · cases h
      simp only [Lex.cost]
      omega
    · split at h <;> cases h
      have := textCost_append acc (Char.ofNat n)
      simp only [Lex.cost]
      omega

/-- A character pays for what it adds. -/
theorem Lex.step_cost {l l' : Lex} {c : Char} {tokens : List Token}
    (h : l.step c = some (l', tokens)) :
    l'.cost + (tokens.map Token.cost).sum ≤ l.cost + 1 := by
  cases l with
  | idle => exact (idleStep_cost h).trans (by simp [Lex.cost])
  | bare run =>
    simp only [Lex.step] at h
    split at h
    · cases h
      simp [Lex.cost]
    · split at h
      · rename_i j l'' tokens' hj hidle
        cases h
        have hpaid := idleStep_cost hidle
        simp only [List.map_cons, List.sum_cons, Token.cost, cost_literalOf hj, Lex.cost] at hpaid ⊢
        omega
      · cases h
  | string acc high =>
    simp only [Lex.step] at h
    split at h
    · cases h
      simp only [Lex.cost, List.map_nil, List.sum_nil]
      omega
    · split at h
      · cases h
      · split at h
        · cases h
          simp only [Lex.cost, Token.cost, List.map_cons, List.map_nil, List.sum_cons, List.sum_nil]
          omega
        · split at h
          · rename_i hplain
            cases h
            simp only [Lex.cost, List.map_nil, List.sum_nil, textCost_append_plain acc hplain]
            omega
          · cases h
  | escape acc high =>
    simp only [Lex.step] at h
    split at h
    · cases h
      simp [Lex.cost]
    · split at h
      · cases h
      · obtain ⟨d, -, hd⟩ := Option.map_eq_some_iff.mp h
        cases hd
        have := textCost_append acc d
        simp only [Lex.cost, List.map_nil, List.sum_nil]
        omega
  | unicode acc high digits =>
    simp only [Lex.step] at h
    split at h
    · cases h
    · split at h
      · cases h
        simp [Lex.cost]
      · obtain ⟨l'', hl, heq⟩ := Option.map_eq_some_iff.mp h
        cases heq
        have := codeUnit_cost hl
        simp only [List.map_nil, List.sum_nil, show Lex.cost (.unicode acc high digits) =
          2 + textCost acc from rfl]
        omega

/-! ### Structure -/

/-- What an open array or object has cost, with a comma if there is something in it. -/
def Frame.cost : Frame → Nat
  | .items done => spread (done.map Json.cost) + 1
  | .members done => spread (done.map memberCost) + 1
  | .awaiting done key => spread (done.map memberCost) + 1 + textCost key + 3

/-- Without that comma. -/
def Frame.closed : Frame → Nat
  | .items done => listCost (done.map Json.cost)
  | .members done => listCost (done.map memberCost)
  | .awaiting _ _ => 0

/-- What the open arrays and objects have cost. -/
def stackCost (stack : List Frame) : Nat := (stack.map Frame.cost).sum

/-- What the parser has seen has cost. -/
def Parser.cost : Parser → Nat
  | ⟨.done j, _⟩ => j.cost
  | ⟨.next, frame :: stack⟩ => frame.closed + stackCost stack
  | ⟨.colon, stack⟩ => stackCost stack - 1
  | ⟨_, stack⟩ => stackCost stack

@[simp] theorem stackCost_cons (frame : Frame) (stack : List Frame) :
    stackCost (frame :: stack) = frame.cost + stackCost stack := by
  simp [stackCost]

theorem Parser.cost_of_takesValue {p : Parser} (h : p.phase.takesValue = true) :
    p.cost = stackCost p.stack := by
  obtain ⟨phase, stack⟩ := p
  cases phase <;> first | rfl | cases h

/-- A value pays for what it adds. -/
theorem deliver_cost {j : Json} {stack : List Frame} {q : Parser}
    (h : deliver j stack = some q) : q.cost ≤ stackCost stack + j.cost := by
  unfold deliver at h
  split at h
  · cases h
    simp [Parser.cost]
  · cases h
    simp only [Parser.cost, Frame.closed, Frame.cost, stackCost_cons, List.map_append,
      List.map_singleton, listCost_append]
    omega
  · rename_i done key stack
    cases h
    have hset := spread_setKey key j done
    simp only [Parser.cost, Frame.closed, Frame.cost, stackCost_cons, listCost,
      memberCost] at hset ⊢
    omega
  · cases h

/-- A token pays for what it adds. -/
theorem Parser.step_cost {p q : Parser} {token : Token} (h : p.step token = some q) :
    q.cost ≤ p.cost + token.cost := by
  cases token with
  | value j =>
    simp only [Parser.step, Option.ite_none_right_eq_some] at h
    rw [Parser.cost_of_takesValue h.1]
    exact deliver_cost h.2
  | lbracket =>
    simp only [Parser.step, Option.ite_none_right_eq_some] at h
    obtain ⟨hp, heq⟩ := h
    cases heq
    rw [Parser.cost_of_takesValue hp]
    simp [Parser.cost, Frame.cost, Token.cost, spread]
    omega
  | lbrace =>
    simp only [Parser.step, Option.ite_none_right_eq_some] at h
    obtain ⟨hp, heq⟩ := h
    cases heq
    rw [Parser.cost_of_takesValue hp]
    simp [Parser.cost, Frame.cost, Token.cost, spread]
    omega
  | str t =>
    obtain ⟨phase, stack⟩ := p
    cases phase with
    | value => exact deliver_cost h
    | first => exact deliver_cost h
    | key =>
      rcases stack with _ | ⟨_ | done | _, stack⟩ <;> cases h
      simp only [Parser.cost, stackCost_cons, Frame.cost, Token.cost]
      omega
    | firstKey =>
      rcases stack with _ | ⟨_ | done | _, stack⟩ <;> cases h
      simp only [Parser.cost, stackCost_cons, Frame.cost, Token.cost]
      omega
    | _ => cases h
  | colon =>
    obtain ⟨phase, stack⟩ := p
    cases phase <;> cases h
    simp only [Parser.cost, Token.cost]
    omega
  | comma =>
    obtain ⟨phase, stack⟩ := p
    cases phase <;> try cases h
    rcases stack with _ | ⟨done | done | _, stack⟩ <;> cases h
    all_goals
      simp only [Parser.cost, stackCost_cons, Frame.cost, Frame.closed, Token.cost, listCost]
      omega
  | rbracket =>
    obtain ⟨phase, stack⟩ := p
    cases phase <;> try cases h
    · rcases stack with _ | ⟨done | done | _, stack⟩ <;> try cases h
      have hpaid := deliver_cost h
      have := listCost_le (done.map Json.cost)
      simp only [Parser.cost, stackCost_cons, Frame.cost, Token.cost, cost_arr] at hpaid ⊢
      omega
    · rcases stack with _ | ⟨done | done | _, stack⟩ <;> try cases h
      have hpaid := deliver_cost h
      simp only [Parser.cost, Frame.closed, Token.cost, cost_arr] at hpaid ⊢
      omega
  | rbrace =>
    obtain ⟨phase, stack⟩ := p
    cases phase <;> try cases h
    · rcases stack with _ | ⟨done | done | _, stack⟩ <;> try cases h
      have hpaid := deliver_cost h
      have := listCost_le (done.map memberCost)
      simp only [Parser.cost, stackCost_cons, Frame.cost, Token.cost, cost_obj] at hpaid ⊢
      omega
    · rcases stack with _ | ⟨done | done | _, stack⟩ <;> try cases h
      have hpaid := deliver_cost h
      simp only [Parser.cost, Frame.closed, Token.cost, cost_obj] at hpaid ⊢
      omega

theorem foldlM_cost {p q : Parser} {tokens : List Token}
    (h : tokens.foldlM Parser.step p = some q) : q.cost ≤ p.cost + (tokens.map Token.cost).sum := by
  induction tokens generalizing p with
  | nil =>
    obtain rfl : p = q := by simpa using h
    exact Nat.le_refl _
  | cons token tokens ih =>
    rw [List.foldlM_cons] at h
    obtain ⟨p', hp, hrest⟩ := Option.bind_eq_some_iff.mp h
    have hfirst := Parser.step_cost hp
    have htail := ih hrest
    rw [List.map_cons, List.sum_cons]
    omega

/-! ### Texts -/

/-- What the reader has seen has cost. -/
def Reader.cost (r : Reader) : Nat := r.lex.cost + r.parser.cost

theorem Reader.step_cost {r r' : Reader} {c : Char} (h : r.step c = some r') :
    r'.cost ≤ r.cost + 1 := by
  unfold Reader.step at h
  split at h
  · rename_i l tokens hlex
    obtain ⟨p, hp, rfl⟩ := Option.map_eq_some_iff.mp h
    have hlexer := Lex.step_cost hlex
    have hparser := foldlM_cost hp
    simp only [Reader.cost]
    omega
  · cases h

/-- A text pays for what it adds. -/
theorem Reader.run_cost {r r' : Reader} {t : Text} (h : r.run t = some r') :
    r'.cost ≤ r.cost + t.length := by
  induction t generalizing r with
  | nil =>
    obtain rfl : r = r' := by simpa [Reader.run] using h
    exact Nat.le_refl _
  | cons c t ih =>
    rw [Reader.run_cons] at h
    obtain ⟨r'', hstep, hrest⟩ := Option.bind_eq_some_iff.mp h
    have hfirst := Reader.step_cost hstep
    have htail := ih hrest
    rw [List.length_cons]
    omega

theorem Reader.flush_cost {r r' : Reader} (h : r.flush = some r') : r'.cost ≤ r.cost := by
  obtain ⟨lex, p⟩ := r
  cases lex with
  | bare run =>
    simp only [Reader.flush] at h
    split at h
    · rename_i j hj
      obtain ⟨q, hq, rfl⟩ := Option.map_eq_some_iff.mp h
      have hpaid := Parser.step_cost hq
      simp only [Reader.cost, Lex.cost, Token.cost, cost_literalOf hj] at hpaid ⊢
      omega
    · cases h
  | _ =>
    cases h
    exact Nat.le_refl _

/-- **A document that was read has been paid for.** -/
theorem cost_le_of_loads {t : Text} {j : Json} (h : loads t = some j) : cost j ≤ t.length := by
  unfold loads at h
  split at h
  · rename_i r hr
    obtain ⟨r', hrun, hflush⟩ := Option.bind_eq_some_iff.mp hr
    have hread := Reader.run_cost hrun
    have hend := Reader.flush_cost hflush
    obtain ⟨lex, phase, stack⟩ := r
    have hstart : Reader.start.cost = 0 := rfl
    have hresult : cost j ≤ Reader.cost ⟨lex, phase, stack⟩ := by
      cases lex <;> try cases h
      cases phase <;> cases h
      simp [Reader.cost, Parser.cost]
    omega
  · cases h

theorem length_joined (ts : List Text) :
    (joined ts).length + 1 = listCost (ts.map List.length) := by
  cases ts with
  | nil => rfl
  | cons t ts =>
    have hrest : (ts.flatMap fun u => ',' :: u).length = spread (ts.map List.length) := by
      simp [spread, List.length_flatMap, Function.comp_def]
    rw [joined, List.length_append, hrest, List.map_cons, listCost]
    simp only [spread, List.map_cons, List.sum_cons]
    omega

/-- Costs that grow in their parts. -/
theorem listCost_add {β : Type} (f g : β → Nat) (xs : List β) :
    listCost (xs.map fun x => f x + g x) = listCost (xs.map f) + (xs.map g).sum := by
  have hspread : ∀ xs : List β,
      spread (xs.map fun x => f x + g x) = spread (xs.map f) + (xs.map g).sum := by
    intro xs
    induction xs with
    | nil => rfl
    | cons x xs ih =>
      simp only [spread, List.map_cons, List.sum_cons] at ih ⊢
      omega
  cases xs with
  | nil => rfl
  | cons x xs =>
    rw [listCost, hspread, listCost]
    simp only [spread, List.map_cons, List.sum_cons]
    omega

/-- The characters of the strings of a document that are not plain. -/
def extra (j : Json) : Nat := ((strings j).map specials).sum

theorem sum_flatMap {β : Type} (f : β → List Text) (xs : List β) :
    ((xs.flatMap f).map specials).sum = (xs.map fun x => ((f x).map specials).sum).sum := by
  induction xs with
  | nil => rfl
  | cons x xs ih =>
    rw [List.flatMap_cons, List.map_append, List.sum_append, ih, List.map_cons, List.sum_cons]

/-- Where all strings are plain, a document has cost what it takes to write it. -/
theorem cost_eq (j : Json) : cost j = (verbatim j).length + extra j := by
  induction j using ind with
  | null => rfl
  | bool b => cases b <;> rfl
  | num literal => rfl
  | str t =>
    have hextra : extra (.str t) = specials t := Nat.add_zero _
    have hlength : (verbatim (.str t)).length = t.length + 2 := by
      simp [verbatim, fold, textFold, quoted]
    have hcost : cost (.str t) = textCost t + 2 := rfl
    rw [hcost, hlength, hextra, textCost]
    omega
  | arr items ih =>
    have hcosts : items.map cost = items.map fun j => (verbatim j).length + extra j :=
      List.map_congr_left ih
    have hextra : extra (.arr items) = (items.map extra).sum := by
      rw [extra, strings_arr, sum_flatMap]
      rfl
    have hjoined := length_joined (items.map verbatim)
    rw [List.map_map] at hjoined
    rw [cost_arr, hcosts, listCost_add, hextra, verbatim_arr]
    simp only [List.length_append, List.length_cons, List.length_nil,
      Function.comp_def] at hjoined ⊢
    omega
  | obj members ih =>
    have hcosts : members.map memberCost = members.map fun m =>
        (member m.1 (verbatim m.2)).length + (specials m.1 + extra m.2) := by
      refine List.map_congr_left fun m hm => ?_
      simp only [memberCost, ih m hm, textCost, member, quoted, List.length_append,
        List.length_cons, List.length_nil]
      omega
    have hextra : extra (.obj members) =
        (members.map fun m => specials m.1 + extra m.2).sum := by
      rw [extra, strings_obj, sum_flatMap]
      simp [extra]
    have hjoined := length_joined (members.map fun m => member m.1 (verbatim m.2))
    rw [List.map_map] at hjoined
    rw [cost_obj, hcosts, listCost_add, hextra, verbatim_obj]
    simp only [List.length_append, List.length_cons, List.length_nil,
      Function.comp_def] at hjoined ⊢
    omega

/-- A document that costs no more than it takes to write it is plain. -/
theorem isPlain_of_cost_le {j : Json} (h : cost j ≤ (verbatim j).length) : IsPlain j := by
  have hzero : extra j = 0 := by
    rw [cost_eq] at h
    omega
  intro t ht
  have hspecials : specials t = 0 :=
    List.sum_eq_zero_iff_forall_eq_nat.mp hzero _ (List.mem_map_of_mem ht)
  rw [List.all_eq_true]
  intro c hc
  simpa using List.countP_eq_zero.mp hspecials c hc

/-- **Only what is plain is read back.** -/
theorem plain_of_loads {j : Json} (h : loads (verbatim j) = some j) : IsPlain j :=
  isPlain_of_cost_le (cost_le_of_loads h)

theorem spread_sublist {costs costs' : List Nat} (h : costs.Sublist costs') :
    spread costs ≤ spread costs' := by
  induction h with
  | slnil => exact Nat.le_refl _
  | cons cost h ih =>
    simp only [spread, List.map_cons, List.sum_cons] at ih ⊢
    omega
  | cons_cons cost h ih =>
    simp only [spread, List.map_cons, List.sum_cons] at ih ⊢
    omega

/-- Members cost no more than all those they are among. -/
theorem spread_subperm {members ms : List (Text × Json)} (h : members.Subperm ms) :
    spread (members.map memberCost) ≤ spread (ms.map memberCost) := by
  obtain ⟨l, hperm, hsub⟩ := h
  have heq : spread (l.map memberCost) = spread (members.map memberCost) :=
    ((hperm.map memberCost).map (· + 1)).sum_nat
  rw [← heq]
  exact spread_sublist (hsub.map memberCost)

/-- **An object of which the members are read back**, among any others, is plain. -/
theorem plain_of_lookups {members ms : List (Text × Json)} (hkeys : (members.map Prod.fst).Nodup)
    (h : loads (verbatim (.obj members)) = some (.obj ms))
    (hms : ∀ m ∈ members, ms.lookup m.1 = some m.2) : IsPlain (.obj members) := by
  have hsub : members.Subperm ms := by
    refine List.subperm_of_subset (List.Nodup.of_map _ hkeys) fun m hm => ?_
    obtain ⟨before, behind, hsplit, -⟩ := List.lookup_eq_some_iff.mp (hms m hm)
    rw [hsplit]
    exact List.mem_append_right _ List.mem_cons_self
  have hspread := spread_subperm hsub
  have hcost : cost (.obj members) ≤ cost (.obj ms) := by
    rw [cost_obj, cost_obj, listCost, listCost]
    omega
  exact isPlain_of_cost_le (hcost.trans (cost_le_of_loads h))

end Json
