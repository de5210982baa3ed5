import CpeCloud.Lib.Numeral
import Mathlib.Algebra.Field.Rat

/-!
# Python values

What `json.loads` makes of a document: `None`, `bool`, `int`, `float`, `str`, `list`, `dict`. A
`dict` is the list of its items in insertion order. What a `float` operation rounds to, and what
`str` shows of a value that is no `str`, are parameters (`Python`).

* `intOf`, `floatOf`: `int(x)` and `float(x)`, with what they raise.
* `get`: `d.get(key)`.
-/

/-- A `float`. -/
inductive Flt where
  | finite (q : ℚ)
  | inf
  | negInf
  | nan
  deriving DecidableEq

/-- A value. -/
inductive PyVal where
  /-- `None`. -/
  | null
  | bool (b : Bool)
  | int (n : Int)
  | float (f : Flt)
  | str (t : Text)
  | list (items : List PyVal)
  | dict (members : List (Text × PyVal))

namespace PyVal

/-- A `dict`. -/
abbrev Dict := List (Text × PyVal)

/-- `d.get(key)`, which shows a missing key as `None`. -/
def get (d : Dict) (key : Text) : PyVal := (d.lookup key).getD .null

/-- `bool(x)`. -/
def truthy : PyVal → Bool
  | .null => false
  | .bool b => b
  | .int n => n ≠ 0
  | .float f => f ≠ .finite 0
  | .str t => t ≠ []
  | .list items => !items.isEmpty
  | .dict members => !members.isEmpty

/-- What a conversion raises. -/
inductive Error where
  | typeError
  | valueError
  | overflowError
  deriving Repr, DecidableEq

/-- What is not spelled out of Python. -/
structure Python where
  /-- The double next to a number. -/
  round : ℚ → Flt
  /-- `float(s)`, `none` where it raises `ValueError`. -/
  floatOfText : Text → Option Flt
  /-- `str(x)`. -/
  str : PyVal → Text
  str_str : ∀ t, str (.str t) = t
  /-- Rounding keeps the order, and small integers are doubles. -/
  round_mem : ∀ {q : ℚ} {a b : Int}, a.natAbs ≤ 2 ^ 53 → b.natAbs ≤ 2 ^ 53 → (a : ℚ) ≤ q →
    q ≤ b → ∃ x : ℚ, round q = .finite x ∧ (a : ℚ) ≤ x ∧ x ≤ b

/-- `int(x)`. More digits than Python reads are a `ValueError`, as no digits are. -/
def intOf : PyVal → Except Error Int
  | .int n => .ok n
  | .bool b => .ok (if b then 1 else 0)
  | .float (.finite q) => .ok (q.num.tdiv q.den)
  | .float .nan => .error .valueError
  | .float _ => .error .overflowError
  | .str t =>
    match Numeral.parseInt t with
    | some n =>
      if Numeral.digitCount t ≤ Numeral.maxStrDigits then .ok n else .error .valueError
    | none => .error .valueError
  | _ => .error .typeError

/-- `float(n)` for an `int`. -/
def floatOfInt (py : Python) (n : Int) : Except Error Flt :=
  match py.round n with
  | .finite q => .ok (.finite q)
  | _ => .error .overflowError

/-- `float(x)`. -/
def floatOf (py : Python) : PyVal → Except Error Flt
  | .float f => .ok f
  | .int n => floatOfInt py n
  | .bool b => floatOfInt py (if b then 1 else 0)
  | .str t =>
    match py.floatOfText t with
    | some f => .ok f
    | none => .error .valueError
  | _ => .error .typeError

end PyVal
