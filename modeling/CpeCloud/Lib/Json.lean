import CpeCloud.Lib.PyValue

/-!
# JSON, as Python reads it

`loads` is `json.loads`: the JSON grammar with `NaN` and `Infinity`, objects as `dict`s in which the
last of equal keys wins, and strings in strict mode, without raw control characters. It is a machine
that takes the text one character at a time: `Lex` cuts it into tokens, `Parser` keeps the open
arrays and objects on a stack. A surrogate escape without its other half is refused, since no
character stands for it.

* `Reads`: a text takes the parser from one state to another, from between tokens to between
  tokens. `Reads.cons` and `Reads.append` put such texts together.
* `loads_gap`: a text in which the value of a key is missing is no document.
-/

/-- A document. A number is its literal. -/
inductive Json where
  | null
  | bool (b : Bool)
  | num (literal : Text)
  | str (t : Text)
  | arr (items : List Json)
  | obj (members : List (Text × Json))

namespace Json

/-! ## Literals -/

/-- What is left behind a minus sign. -/
def unsigned : Text → Text
  | '-' :: t => t
  | t => t

/-- `[0-9]+`. -/
def isDigits (t : Text) : Bool := t ≠ [] && t.all Char.isDigit

/-- A text up to a character, and what is behind it if it occurs. -/
def splitAtFirst (p : Char → Bool) (t : Text) : Text × Option Text :=
  (t.takeWhile fun c => !p c, match t.dropWhile fun c => !p c with
    | [] => none
    | _ :: rest => some rest)

/-- The integer part, the fraction and the exponent of an unsigned literal. -/
def parts (t : Text) : Text × Option Text × Option Text :=
  let (mantissa, exponent) := splitAtFirst (fun c => c = 'e' || c = 'E') t
  let (integer, fraction) := splitAtFirst (fun c => c = '.') mantissa
  (integer, fraction, exponent)

/-- The digits of an exponent. -/
def exponentDigits : Text → Text
  | '+' :: t => t
  | t => unsigned t

/-- `-?(0|[1-9][0-9]*)(\.[0-9]+)?([eE][-+]?[0-9]+)?`. -/
def isNumber (t : Text) : Bool :=
  match parts (unsigned t) with
  | (integer, fraction, exponent) =>
    isDigits integer && (integer.length = 1 || integer.head? ≠ some '0') &&
      fraction.all isDigits && exponent.all fun e => isDigits (exponentDigits e)

/-- The value that a word stands for. -/
def literalOf (t : Text) : Option Json :=
  if t = "null".toList then some .null
  else if t = "true".toList then some (.bool true)
  else if t = "false".toList then some (.bool false)
  else if isNumber t || t ∈ ["NaN".toList, "Infinity".toList, "-Infinity".toList] then
    some (.num t)
  else none

/-! ## Tokens -/

/-- A token. -/
inductive Token where
  | lbrace
  | rbrace
  | lbracket
  | rbracket
  | colon
  | comma
  | str (t : Text)
  | value (j : Json)

/-- Where in a token the text stands. -/
inductive Lex where
  | idle
  /-- In a number or a keyword. -/
  | bare (run : Text)
  /-- In a string, perhaps behind the first half of a surrogate pair. -/
  | string (acc : Text) (high : Option Nat)
  /-- Behind a backslash. -/
  | escape (acc : Text) (high : Option Nat)
  /-- In the digits of a `\uXXXX`. -/
  | unicode (acc : Text) (high : Option Nat) (digits : Text)

/-- Whitespace between tokens. -/
def isWhite (c : Char) : Bool := c = ' ' || c = '\t' || c = '\n' || c = '\r'

/-- A character of numbers and keywords. -/
def isBare (c : Char) : Bool := c.isAlphanum || c = '+' || c = '-' || c = '.'

/-- A character a string may hold as it is. -/
def isPlain (c : Char) : Bool := c ≠ '\x22' && c ≠ '\\' && 0x20 ≤ c.toNat

/-- The character behind a backslash. -/
def escaped : Char → Option Char
  | '\x22' => some '\x22'
  | '\\' => some '\\'
  | '/' => some '/'
  | 'b' => some '\x08'
  | 'f' => some '\x0c'
  | 'n' => some '\n'
  | 'r' => some '\r'
  | 't' => some '\t'
  | _ => none

/-- The value of a hexadecimal digit. -/
def hexValue (c : Char) : Option Nat :=
  if '0' ≤ c ∧ c ≤ '9' then some (c.toNat - '0'.toNat)
  else if 'a' ≤ c ∧ c ≤ 'f' then some (c.toNat - 'a'.toNat + 10)
  else if 'A' ≤ c ∧ c ≤ 'F' then some (c.toNat - 'A'.toNat + 10)
  else none

/-- A string behind the code unit `n`. -/
def codeUnit (acc : Text) (high : Option Nat) (n : Nat) : Option Lex :=
  match high with
  | some h =>
    if 0xdc00 ≤ n ∧ n ≤ 0xdfff then
      some (.string (acc ++ [Char.ofNat (0x10000 + (h - 0xd800) * 0x400 + (n - 0xdc00))]) none)
    else none
  | none =>
    if 0xd800 ≤ n ∧ n ≤ 0xdbff then some (.string acc (some n))
    else if 0xdc00 ≤ n ∧ n ≤ 0xdfff then none
    else some (.string (acc ++ [Char.ofNat n]) none)

/-- A character between tokens. -/
def idleStep (c : Char) : Option (Lex × List Token) :=
  if isWhite c then some (.idle, [])
  else if isBare c then some (.bare [c], [])
  else
    match c with
    | '\x22' => some (.string [] none, [])
    | '{' => some (.idle, [.lbrace])
    | '}' => some (.idle, [.rbrace])
    | '[' => some (.idle, [.lbracket])
    | ']' => some (.idle, [.rbracket])
    | ':' => some (.idle, [.colon])
    | ',' => some (.idle, [.comma])
    | _ => none

/-- One character, and the tokens that end there. -/
def Lex.step : Lex → Char → Option (Lex × List Token)
  | .idle, c => idleStep c
  | .bare run, c =>
    if isBare c then some (.bare (run ++ [c]), [])
    else
      match literalOf run, idleStep c with
      | some j, some (l, tokens) => some (l, .value j :: tokens)
      | _, _ => none
  | .string acc high, c =>
    if c = '\\' then some (.escape acc high, [])
    else if high.isSome then none
    else if c = '\x22' then some (.idle, [.str acc])
    else if isPlain c then some (.string (acc ++ [c]) none, [])
    else none
  | .escape acc high, c =>
    if c = 'u' then some (.unicode acc high [], [])
    else if high.isSome then none
    else (escaped c).map fun d => (.string (acc ++ [d]) none, [])
  | .unicode acc high digits, c =>
    if (hexValue c).isNone then none
    else if digits.length < 3 then some (.unicode acc high (digits ++ [c]), [])
    else
      let n := (digits ++ [c]).foldl (fun n d => n * 16 + (hexValue d).getD 0) 0
      (codeUnit acc high n).map fun l => (l, [])

/-! ## Numbers are bare -/

theorem ne_of_isNumber {t word : Text} (h : isNumber t = true) (hword : isNumber word = false) :
    t ≠ word := by
  rintro rfl
  rw [hword] at h
  cases h

theorem all_of_splitAtFirst {p q : Char → Bool} (hp : ∀ c, p c = true → q c = true) {t : Text}
    (h : (splitAtFirst p t).1.all q = true)
    (hrest : ∀ rest ∈ (splitAtFirst p t).2, rest.all q = true) : t.all q = true := by
  unfold splitAtFirst at h hrest
  rw [← List.takeWhile_append_dropWhile (p := fun c => !p c) (l := t), List.all_append, h,
    Bool.true_and]
  cases hd : t.dropWhile fun c => !p c with
  | nil => rfl
  | cons c rest =>
    have hne : t.dropWhile (fun c => !p c) ≠ [] := by simp [hd]
    have hc := List.head_dropWhile_not (fun c => !p c) hne
    simp only [hd, List.head_cons, Bool.not_eq_false'] at hc
    rw [hd] at hrest
    rw [List.all_cons, hp c hc, hrest rest rfl, Bool.true_and]

theorem isBare_of_isDigits {t : Text} (h : isDigits t = true) : t.all isBare = true := by
  simp only [isDigits, Bool.and_eq_true, List.all_eq_true] at h ⊢
  intro c hc
  simp [isBare, Char.isAlphanum, h.2 c hc]

theorem isBare_of_exponentDigits {t : Text} (h : isDigits (exponentDigits t) = true) :
    t.all isBare = true := by
  unfold exponentDigits unsigned at h
  split at h
  · simpa [show isBare '+' = true from rfl] using isBare_of_isDigits h
  · split at h
    · simpa [show isBare '-' = true from rfl] using isBare_of_isDigits h
    · exact isBare_of_isDigits h

theorem isBare_of_unsigned {t : Text} (h : (unsigned t).all isBare = true) :
    t.all isBare = true := by
  unfold unsigned at h
  split at h
  · simpa [show isBare '-' = true from rfl] using h
  · exact h

theorem isBare_of_isNumber {t : Text} (h : isNumber t = true) : t.all isBare = true := by
  simp only [isNumber, parts, Bool.and_eq_true] at h
  obtain ⟨⟨⟨hinteger, -⟩, hfraction⟩, hexponent⟩ := h
  refine isBare_of_unsigned (all_of_splitAtFirst ?_ (all_of_splitAtFirst ?_
    (isBare_of_isDigits hinteger) fun f hf => ?_) fun e he => ?_)
  · intro c hc
    simp only [Bool.or_eq_true, decide_eq_true_eq] at hc
    rcases hc with rfl | rfl <;> rfl
  · rintro c hc
    obtain rfl := of_decide_eq_true hc
    rfl
  · exact isBare_of_isDigits ((Option.all_eq_true _ _).mp hfraction f hf)
  · exact isBare_of_exponentDigits ((Option.all_eq_true _ _).mp hexponent e he)

/-! ## Structure -/

/-- `d[key] = value`. -/
def setKey : List (Text × Json) → Text → Json → List (Text × Json)
  | [], key, value => [(key, value)]
  | m :: ms, key, value => if m.1 = key then (key, value) :: ms else m :: setKey ms key value

/-- An array or object that is not closed yet. -/
inductive Frame where
  | items (done : List Json)
  | members (done : List (Text × Json))
  /-- An object, behind a key. -/
  | awaiting (done : List (Text × Json)) (key : Text)

/-- What comes next. -/
inductive Phase where
  | value
  /-- A value, or the end of an array without one. -/
  | first
  | key
  /-- A key, or the end of an object without one. -/
  | firstKey
  | colon
  /-- A comma, or the end of the innermost array or object. -/
  | next
  /-- Nothing: the document is complete. -/
  | done (j : Json)

/-- The state of the parser. -/
structure Parser where
  phase : Phase
  stack : List Frame

/-- A value is complete. -/
def deliver (j : Json) : List Frame → Option Parser
  | [] => some ⟨.done j, []⟩
  | .items done :: stack => some ⟨.next, .items (done ++ [j]) :: stack⟩
  | .awaiting done key :: stack => some ⟨.next, .members (setKey done key j) :: stack⟩
  | .members _ :: _ => none

/-- A value may come next. -/
def Phase.takesValue : Phase → Bool
  | .value | .first => true
  | _ => false

/-- One token. -/
def Parser.step (p : Parser) : Token → Option Parser
  | .value j => if p.phase.takesValue then deliver j p.stack else none
  | .lbracket => if p.phase.takesValue then some ⟨.first, .items [] :: p.stack⟩ else none
  | .lbrace => if p.phase.takesValue then some ⟨.firstKey, .members [] :: p.stack⟩ else none
  | .str t =>
    match p.phase, p.stack with
    | .value, stack | .first, stack => deliver (.str t) stack
    | .key, .members done :: stack | .firstKey, .members done :: stack =>
      some ⟨.colon, .awaiting done t :: stack⟩
    | _, _ => none
  | .colon =>
    match p.phase with
    | .colon => some ⟨.value, p.stack⟩
    | _ => none
  | .comma =>
    match p.phase, p.stack with
    | .next, .items done :: stack => some ⟨.value, .items done :: stack⟩
    | .next, .members done :: stack => some ⟨.key, .members done :: stack⟩
    | _, _ => none
  | .rbracket =>
    match p.phase, p.stack with
    | .first, .items done :: stack | .next, .items done :: stack => deliver (.arr done) stack
    | _, _ => none
  | .rbrace =>
    match p.phase, p.stack with
    | .firstKey, .members done :: stack | .next, .members done :: stack => deliver (.obj done) stack
    | _, _ => none

/-! ## Reading -/

/-- The reader. -/
structure Reader where
  lex : Lex
  parser : Parser

/-- One character. -/
def Reader.step (r : Reader) (c : Char) : Option Reader :=
  match r.lex.step c with
  | some (l, tokens) => (tokens.foldlM Parser.step r.parser).map fun p => ⟨l, p⟩
  | none => none

/-- A text, from left to right. -/
def Reader.run (r : Reader) (t : Text) : Option Reader := t.foldlM Reader.step r

/-- The end of a number or a keyword. -/
def Reader.flush (r : Reader) : Option Reader :=
  match r.lex with
  | .bare run =>
    match literalOf run with
    | some j => (r.parser.step (.value j)).map fun p => ⟨.idle, p⟩
    | none => none
  | _ => some r

/-- The document that was read. -/
def Reader.result (r : Reader) : Option Json :=
  match r.lex, r.parser.phase with
  | .idle, .done j => some j
  | _, _ => none

/-- At the start of a text. -/
def Reader.start : Reader := ⟨.idle, .value, []⟩

/-- `json.loads`, `none` where it raises `JSONDecodeError`. -/
def loads (t : Text) : Option Json :=
  match (Reader.start.run t).bind Reader.flush with
  | some r => r.result
  | none => none

example : loads " \x7b\"a\": [1, -2.50e+3, null], \"b\": \"\\u00e9\\\"\", \"a\": true\x7d ".toList
    matches some (.obj [(['a'], .bool true), (['b'], .str ['é', '\x22'])]) := by decide

/-! ## Reading in pieces -/

theorem Reader.run_append (r : Reader) (s t : Text) :
    r.run (s ++ t) = (r.run s).bind fun r => r.run t :=
  List.foldlM_append

theorem Reader.run_cons (r : Reader) (c : Char) (t : Text) :
    r.run (c :: t) = (r.step c).bind fun r => r.run t :=
  List.foldlM_cons

/-- A character behind which no token ends. -/
theorem step_inside {l l' : Lex} {c : Char} (h : l.step c = some (l', [])) (p : Parser) :
    Reader.step ⟨l, p⟩ c = some ⟨l', p⟩ := by
  simp [Reader.step, h]

/-- A character behind which a token ends. -/
theorem step_token {l : Lex} {c : Char} {k : Token} (h : l.step c = some (.idle, [k]))
    (p : Parser) : Reader.step ⟨l, p⟩ c = (p.step k).map fun q => ⟨.idle, q⟩ := by
  simp only [Reader.step, h, List.foldlM_cons, List.foldlM_nil]
  cases p.step k <;> rfl

theorem isBare_not_white {c : Char} (h : isBare c = true) : isWhite c = false := by
  rw [Bool.eq_false_iff]
  intro hw
  simp only [isWhite, Bool.or_eq_true, decide_eq_true_eq] at hw
  rcases hw with ((rfl | rfl) | rfl) | rfl <;> exact absurd h (by decide)

theorem idleStep_bare {c : Char} (h : isBare c = true) : idleStep c = some (.bare [c], []) := by
  simp [idleStep, isBare_not_white h, h]

/-- A run of bare characters grows. -/
theorem run_bare (p : Parser) {t : Text} (h : t.all isBare = true) : ∀ run : Text,
    Reader.run ⟨.bare run, p⟩ t = some ⟨.bare (run ++ t), p⟩ := by
  induction t with
  | nil => simp [Reader.run]
  | cons c t ih =>
    intro run
    simp only [List.all_cons, Bool.and_eq_true] at h
    have hlex : Lex.step (.bare run) c = some (.bare (run ++ [c]), []) := by
      simp [Lex.step, h.1]
    rw [Reader.run_cons, step_inside hlex, Option.bind_some, ih h.2]
    simp

theorem run_word (p : Parser) {t : Text} (ht : t ≠ []) (h : t.all isBare = true) :
    Reader.run ⟨.idle, p⟩ t = some ⟨.bare t, p⟩ := by
  cases t with
  | nil => exact absurd rfl ht
  | cons c t =>
    simp only [List.all_cons, Bool.and_eq_true] at h
    rw [Reader.run_cons, step_inside (l := .idle) (idleStep_bare h.1), Option.bind_some,
      run_bare p h.2]
    rfl

/-- A string grows by plain characters. -/
theorem run_plain (p : Parser) {t : Text} (h : t.all isPlain = true) : ∀ acc : Text,
    Reader.run ⟨.string acc none, p⟩ t = some ⟨.string (acc ++ t) none, p⟩ := by
  induction t with
  | nil => simp [Reader.run]
  | cons c t ih =>
    intro acc
    simp only [List.all_cons, Bool.and_eq_true] at h
    have hlex : Lex.step (.string acc none) c = some (.string (acc ++ [c]) none, []) := by
      have hc := h.1
      simp only [isPlain, Bool.and_eq_true, decide_eq_true_eq] at hc
      simp [Lex.step, isPlain, hc]
    rw [Reader.run_cons, step_inside hlex, Option.bind_some, ih h.2]
    simp

/-- A text between quotes. -/
def quoted (t : Text) : Text := '\x22' :: t ++ ['\x22']

theorem run_quoted (p : Parser) {t : Text} (h : t.all isPlain = true) :
    Reader.run ⟨.idle, p⟩ (quoted t) = (p.step (.str t)).map fun q => ⟨.idle, q⟩ := by
  have hopen := step_inside (show Lex.step .idle '\x22' = some (.string [] none, []) from rfl) p
  have hclose := step_token (l := .string t none) (c := '\x22') (k := .str t) rfl p
  rw [quoted, Reader.run_append, Reader.run_cons, hopen, Option.bind_some, run_plain p h,
    Option.bind_some, Reader.run_cons, List.nil_append, hclose]
  cases p.step (.str t) <;> rfl

/-- A number or a keyword ends where a character comes that is not bare. -/
theorem step_bare (run : Text) (p : Parser) {c : Char} (hc : isBare c = false) :
    Reader.step ⟨.bare run, p⟩ c = (Reader.flush ⟨.bare run, p⟩).bind fun r => r.step c := by
  simp only [Reader.step, Lex.step, hc, Bool.false_eq_true, if_false, Reader.flush]
  cases literalOf run with
  | none => rfl
  | some j =>
    cases hidle : idleStep c with
    | none => cases hp : p.step (.value j) <;> simp [hidle, hp]
    | some out => cases hp : p.step (.value j) <;> simp [hidle, hp, List.foldlM_cons]

theorem flush_bare {run : Text} {p : Parser} {r : Reader}
    (h : Reader.flush ⟨.bare run, p⟩ = some r) : r.lex = .idle := by
  simp only [Reader.flush] at h
  split at h
  · obtain ⟨q, -, rfl⟩ := Option.map_eq_some_iff.mp h
    rfl
  · cases h

theorem step_of_flush {r : Reader} {p : Parser} (h : r.flush = some ⟨.idle, p⟩) {c : Char}
    (hc : isBare c = false) : r.step c = Reader.step ⟨.idle, p⟩ c := by
  obtain ⟨lex, q⟩ := r
  cases lex with
  | bare run => rw [step_bare run q hc, h, Option.bind_some]
  | idle => rw [show (⟨.idle, q⟩ : Reader) = ⟨.idle, p⟩ from Option.some.inj h]
  | _ => cases h

/-- The text takes the parser from `p` to `q`. -/
def Reads (p : Parser) (t : Text) (q : Parser) : Prop :=
  ∃ r, Reader.run ⟨.idle, p⟩ t = some r ∧ r.flush = some ⟨.idle, q⟩

/-- The text is empty or starts behind a number or a keyword. -/
def Delimits (t : Text) : Prop := ∀ c ∈ t.head?, isBare c = false

namespace Reads

theorem nil (p : Parser) : Reads p [] p := ⟨⟨.idle, p⟩, rfl, rfl⟩

theorem append {p q q' : Parser} {s t : Text} (hs : Reads p s q) (ht : Reads q t q')
    (h : Delimits t) : Reads p (s ++ t) q' := by
  obtain ⟨r, hr, hflush⟩ := hs
  cases t with
  | nil =>
    obtain ⟨r', hr', hflush'⟩ := ht
    obtain rfl : ⟨.idle, q⟩ = r' := by simpa [Reader.run] using hr'
    obtain rfl : q = q' := by simpa [Reader.flush] using hflush'
    exact ⟨r, by rwa [List.append_nil], hflush⟩
  | cons c t =>
    obtain ⟨r', hr', hflush'⟩ := ht
    refine ⟨r', ?_, hflush'⟩
    rw [Reader.run_append, hr, Option.bind_some]
    simp only [Reader.run, List.foldlM_cons] at hr' ⊢
    rw [step_of_flush hflush (h c rfl)]
    exact hr'

/-- A character that is a token, then a text. -/
theorem cons {c : Char} {k : Token} {p q q' : Parser} {t : Text}
    (hc : idleStep c = some (.idle, [k])) (hp : p.step k = some q) (ht : Reads q t q') :
    Reads p (c :: t) q' := by
  obtain ⟨r, hr, hflush⟩ := ht
  refine ⟨r, ?_, hflush⟩
  rw [Reader.run_cons, step_token (l := .idle) hc, hp]
  exact hr

/-- A number or a keyword. -/
theorem word {t : Text} {j : Json} (hj : literalOf t = some j) (h : t.all isBare = true)
    {p q : Parser} (hp : p.step (.value j) = some q) : Reads p t q := by
  have ht : t ≠ [] := by
    rintro rfl
    have hnone : literalOf [] = none := by decide
    rw [hnone] at hj
    cases hj
  exact ⟨⟨.bare t, p⟩, run_word p ht h, by simp [Reader.flush, hj, hp]⟩

/-- A plain string. -/
theorem string {t : Text} (h : t.all isPlain = true) {p q : Parser}
    (hp : p.step (.str t) = some q) : Reads p (quoted t) q :=
  ⟨⟨.idle, q⟩, by rw [run_quoted p h, hp]; rfl, rfl⟩

/-- A whole document. -/
theorem loads {t : Text} {j : Json} (h : Reads ⟨.value, []⟩ t ⟨.done j, []⟩) :
    loads t = some j := by
  obtain ⟨r, hr, hflush⟩ := h
  simp only [Json.loads, Reader.start, hr, Option.bind_some, hflush]
  rfl

end Reads

/-! ## A missing value -/

/-- Behind a comma, a key without a value does not go on. -/
theorem step_comma_key {p q : Parser} (hp : p.step .comma = some q) {t : Text} {c : Token}
    (hc : c = .comma ∨ c = .rbrace) : [.str t, .colon, c].foldlM Parser.step q = none := by
  obtain ⟨phase, stack⟩ := p
  simp only [Parser.step] at hp
  split at hp
  · cases hp
    rfl
  · cases hp
    rcases hc with rfl | rfl <;> rfl
  · cases hp

/-- A comma, a key and a colon, and then no value. -/
def gap (key : Text) (c : Char) : Text := ',' :: quoted key ++ [':', c]

/-- Between tokens, the parser is in no state to take that. -/
theorem run_gap_idle (p : Parser) {key : Text} (hplain : key.all isPlain = true) {c : Char}
    (hc : c = ',' ∨ c = '\x7d') : Reader.run ⟨.idle, p⟩ (gap key c) = none := by
  have htoken : ∃ token, idleStep c = some (.idle, [token]) ∧
      (token = .comma ∨ token = .rbrace) := by
    rcases hc with rfl | rfl
    · exact ⟨.comma, rfl, Or.inl rfl⟩
    · exact ⟨.rbrace, rfl, Or.inr rfl⟩
  obtain ⟨token, hidle, htoken⟩ := htoken
  have hcomma := step_token (l := .idle) (c := ',') (k := .comma) rfl p
  rw [gap, Reader.run_append, Reader.run_cons, hcomma]
  cases hp : p.step .comma with
  | none => rfl
  | some q =>
    have hkey := step_comma_key hp htoken (t := key)
    rw [Option.map_some, Option.bind_some, run_quoted q hplain]
    cases hstr : q.step (.str key) with
    | none => rfl
    | some q =>
      have hcolon := step_token (l := .idle) (c := ':') (k := .colon) rfl q
      rw [Option.map_some, Option.bind_some, Reader.run_cons, hcolon]
      cases hcol : q.step .colon with
      | none => rfl
      | some q =>
        have hnone : q.step token = none := by
          simpa [List.foldlM_cons, hstr, hcol] using hkey
        rw [Option.map_some, Option.bind_some, Reader.run_cons, step_token (l := .idle) hidle,
          hnone]
        rfl

/-- **No state goes on behind a key whose value is missing**: inside a string, the string would end
at the key's first quote, and the key would be a word that is no value. -/
theorem run_gap (r : Reader) {key : Text} (hplain : key.all isPlain = true)
    (hbare : key.all isBare = true) (hne : key ≠ []) (hword : literalOf key = none) {c : Char}
    (hc : c = ',' ∨ c = '\x7d') : r.run (gap key c) = none := by
  obtain ⟨lex, p⟩ := r
  cases lex with
  | idle => exact run_gap_idle p hplain hc
  | bare run =>
    have hstep := step_bare run p (c := ',') rfl
    cases hflush : Reader.flush ⟨.bare run, p⟩ with
    | none =>
      rw [hflush] at hstep
      rw [gap, List.cons_append, Reader.run_cons, hstep]
      rfl
    | some r =>
      obtain ⟨_, q⟩ := r
      obtain rfl := flush_bare hflush
      rw [← run_gap_idle q hplain hc, gap, List.cons_append, Reader.run_cons, Reader.run_cons,
        step_of_flush hflush rfl]
  | string acc high =>
    cases high with
    | some h => rfl
    | none =>
      have hcomma : Lex.step (.string acc none) ',' = some (.string (acc ++ [',']) none, []) := rfl
      have hclose : Lex.step (.string (acc ++ [',']) none) '\x22' =
        some (.idle, [.str (acc ++ [','])]) := rfl
      have htext : gap key c = ',' :: '\x22' :: (key ++ ('\x22' :: [':', c])) := by
        simp [gap, quoted]
      rw [htext, Reader.run_cons, step_inside hcomma, Option.bind_some, Reader.run_cons,
        step_token hclose]
      cases hp : p.step (.str (acc ++ [','])) with
      | none => rfl
      | some q =>
        -- the text of the key stands outside of the string now
        have hword : Reader.flush ⟨.bare key, q⟩ = none := by simp [Reader.flush, hword]
        rw [Option.map_some, Option.bind_some, Reader.run_append, run_word q hne hbare,
          Option.bind_some, Reader.run_cons, step_bare key q rfl, hword]
        rfl
  | escape acc high => cases high <;> rfl
  | unicode acc high digits => rfl

/-- A text with such a place is no document. -/
theorem loads_gap {t key : Text} (hplain : key.all isPlain = true) (hbare : key.all isBare = true)
    (hne : key ≠ []) (hword : literalOf key = none) {c : Char} (hc : c = ',' ∨ c = '\x7d')
    (h : gap key c <:+: t) : loads t = none := by
  obtain ⟨s, u, rfl⟩ := h
  have hrun : Reader.start.run (s ++ gap key c ++ u) = none := by
    rw [Reader.run_append, Reader.run_append]
    cases hs : Reader.start.run s with
    | none => rfl
    | some r =>
      rw [Option.bind_some, run_gap r hplain hbare hne hword hc]
      rfl
  rw [loads, hrun]
  rfl

end Json
