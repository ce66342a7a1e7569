import Mathlib.Data.Rat.Floor
import Mathlib.Tactic.Linarith

/-!
# Python values seen by the load-test scripts

The two scripts read the wallet service's answers as parsed JSON and apply a
handful of Python operations to them: subscripting a dict, `dict.get`,
slicing, `float(...)` and `!=`.  Each operation is total here and returns
`Except Exc`, the Python exception it raises being the error.

A Python `float` is read exactly: finite values are rationals, and the three
IEEE specials are kept because `json.loads` accepts `Infinity` and `NaN`.
Float arithmetic is exact, except for the one product whose rounding the scripts
can observe: `int(time.time() * 1000)` rounds `t * 1000` to a double before
truncating it (`roundDouble`).
-/

namespace WalletLoadTest.Python

inductive PyFloat where
  | num (q : ℚ)
  | inf
  | negInf
  | nan
  deriving DecidableEq, Repr

namespace PyFloat

/-- Python's `<` on floats; every comparison with `nan` is false. -/
def lt : PyFloat → PyFloat → Bool
  | .num a, .num b => decide (a < b)
  | .negInf, .num _ | .negInf, .inf | .num _, .inf => true
  | _, _ => false

/-- Python's `==` on floats. -/
def eq : PyFloat → PyFloat → Bool
  | .num a, .num b => decide (a = b)
  | .inf, .inf | .negInf, .negInf => true
  | _, _ => false

/-- Product `x * c` with a rational constant `c`. -/
def scale (c : ℚ) : PyFloat → PyFloat
  | .num q => .num (q * c)
  | .inf => if 0 < c then .inf else if c < 0 then .negInf else .nan
  | .negInf => if 0 < c then .negInf else if c < 0 then .inf else .nan
  | .nan => .nan

end PyFloat

/-- The builtin `min(a, b)`: the second argument only when it is strictly smaller. -/
def pyMin (a b : PyFloat) : PyFloat := if b.lt a then b else a

/-- A value produced by `json.loads`.  An object lists its members in the order
of the text; as in the dict Python builds, a later duplicate key wins.  A string
holds Unicode scalar values: `json.loads` also turns `"\\ud800"` into a `str` holding a
lone surrogate, which `print` cannot encode; answers with such strings are outside
the model, which drops the scripts' prints. -/
inductive Json where
  | null
  | bool (b : Bool)
  | int (n : Int)
  | float (x : PyFloat)
  | str (s : String)
  | arr (items : List Json)
  | obj (fields : List (String × Json))
  deriving Repr

/-- The Python exceptions the scripts can meet; every one is an `Exception`. -/
inductive Exc where
  | keyError (key : String)
  | typeError
  | attributeError
  | indexError
  | valueError
  | overflowError
  | zeroDivisionError
  | httpError (status : Nat)
  | requestException
  | jsonDecodeError
  | dictSlice
  deriving DecidableEq, Repr

/-- The smallest magnitude an `int` rounds to infinity from, so `float(n)` overflows. -/
def floatMax : Nat := 2 ^ 1024 - 2 ^ 970

namespace Json

def field? (fields : List (String × Json)) (key : String) : Option Json :=
  fields.reverse.lookup key

/-- Subscript `v[key]` with a string key. -/
def getItem (key : String) : Json → Except Exc Json
  | .obj fields => match field? fields key with
    | some v => .ok v
    | none => .error (.keyError key)
  | _ => .error .typeError

theorem getItem_error {key : String} {v : Json} {e : Exc} (h : v.getItem key = .error e) :
    e = .keyError key ∨ e = .typeError := by
  unfold getItem at h
  split at h
  · split at h
    · cases h
    · cases h; exact .inl rfl
  · cases h; exact .inr rfl

/-- Method call `v.get(key, default)`: only a dict has the method. -/
def get : Json → String → Json → Except Exc Json
  | .obj fields, key, default => .ok ((field? fields key).getD default)
  | _, _, _ => .error .attributeError

/-- Slice `v[:n]`.  A dict looks the slice up as a key: `dictSlice` stands for the
`TypeError` (unhashable `slice`) this raises before Python 3.12 and the
`KeyError(slice(None, n, None))` it raises from 3.12 on. -/
def sliceTo (n : Nat) : Json → Except Exc Json
  | .str s => .ok (.str (s.take n))
  | .arr xs => .ok (.arr (xs.take n))
  | .obj _ => .error .dictSlice
  | _ => .error .typeError

theorem sliceTo_error {v : Json} {n : Nat} {e : Exc} (h : v.sliceTo n = .error e) :
    e = .typeError ∨ e = .dictSlice := by
  cases v <;> cases h
  exacts [.inl rfl, .inl rfl, .inl rfl, .inl rfl, .inr rfl]

def Sliceable : Json → Prop
  | .str _ | .arr _ => True
  | _ => False

theorem not_sliceable_of_sliceTo_eq_error {v : Json} {n : Nat} {e : Exc}
    (h : v.sliceTo n = .error e) : ¬ v.Sliceable := by
  cases v <;> simp_all [sliceTo, Sliceable]

/-- Builtin `float(v)`.  The conversion of a string is Python's own numeric parser, which
the model leaves as the parameter `parseFloat`. -/
def toFloat (parseFloat : String → Except Exc PyFloat) : Json → Except Exc PyFloat
  | .bool b => .ok (.num (if b then 1 else 0))
  | .int n => if floatMax ≤ n.natAbs then .error .overflowError else .ok (.num n)
  | .float x => .ok x
  | .str s => parseFloat s
  | _ => .error .typeError

/-- The numeric tower `bool ⊂ int ⊂ float` that `==` compares across. -/
def numeric? : Json → Option PyFloat
  | .bool b => some (.num (if b then 1 else 0))
  | .int n => some (.num n)
  | .float x => some x
  | _ => none

mutual
/-- Python's `==` on parsed JSON.  Objects are compared member by member in
order, where Python's dict comparison ignores the order of the keys. -/
def pyEq : Json → Json → Bool
  | .null, .null => true
  | .str a, .str b => a == b
  | .arr xs, .arr ys => pyEqList xs ys
  | .obj fs, .obj gs => pyEqFields fs gs
  | a, b => match a.numeric?, b.numeric? with
    | some x, some y => x.eq y
    | _, _ => false

def pyEqList : List Json → List Json → Bool
  | [], [] => true
  | x :: xs, y :: ys => pyEq x y && pyEqList xs ys
  | _, _ => false

def pyEqFields : List (String × Json) → List (String × Json) → Bool
  | [], [] => true
  | (k, x) :: xs, (l, y) :: ys => k == l && pyEq x y && pyEqFields xs ys
  | _, _ => false
end

mutual
/-- No `NaN` and no infinity anywhere in `v`: what `json.dumps(v, allow_nan=False)`
serialises. -/
def finite : Json → Bool
  | .float (.num _) => true
  | .float _ => false
  | .arr items => finiteList items
  | .obj fields => finiteFields fields
  | _ => true

def finiteList : List Json → Bool
  | [] => true
  | v :: vs => finite v && finiteList vs

def finiteFields : List (String × Json) → Bool
  | [] => true
  | (_, v) :: fs => finite v && finiteFields fs
end

end Json

/-- Python's `int(x)` on a float: truncation toward zero. -/
def pyInt (q : ℚ) : Int := if 0 ≤ q then ⌊q⌋ else ⌈q⌉

/-- Round half to even, to an integer. -/
def roundHalfEven (q : ℚ) : Int :=
  if q - ⌊q⌋ < 1 / 2 then ⌊q⌋
  else if 1 / 2 < q - ⌊q⌋ then ⌊q⌋ + 1
  else if ⌊q⌋ % 2 = 0 then ⌊q⌋ else ⌊q⌋ + 1

def log2Upto : Nat → Nat → Nat
  | 0, _ => 0
  | fuel + 1, n => if n < 2 then 0 else log2Upto fuel (n / 2) + 1

theorem log2Upto_eq_log2 : ∀ {fuel n : Nat}, n ≤ fuel → log2Upto fuel n = n.log2
  | 0, n, h => by rw [Nat.le_zero.1 h, Nat.log2_zero]; rfl
  | fuel + 1, n, h => by
    rw [log2Upto, Nat.log2.eq_1]
    split
    · rw [if_neg (by omega)]
    · rw [if_pos (by omega), log2Upto_eq_log2 (by omega)]

def twoPow (e : Int) : ℚ :=
  if 0 ≤ e then (((2 ^ e.toNat : ℕ) : ℤ) : ℚ) else (((2 ^ (-e).toNat : ℕ) : ℤ) : ℚ)⁻¹

def binaryExponent (q : ℚ) : Int :=
  let e : Int := (log2Upto q.num.natAbs q.num.natAbs : Int) - log2Upto q.den q.den
  if twoPow e * q.den ≤ q.num.natAbs then e else e - 1

/-- The double nearest to `q`, ties to even: the result of a float operation whose
exact value is `q`.  A normal result keeps 53 significant bits, a subnormal one its
multiple of `2 ^ -1074`.  Overflow is left out: `time.time()` is the system clock's
64-bit nanosecond count over `10 ^ 9`, below `2 ^ 34`, so `time.time() * 1000` stays
far below the largest double. -/
def roundDouble (q : ℚ) : ℚ :=
  let ulp := twoPow (max (binaryExponent q) (-1022) - 52)
  (roundHalfEven (q / ulp) : ℚ) * ulp

/-- Builtin `round(x, 2)`, read over the rationals. -/
def round2 (x : ℚ) : ℚ := (roundHalfEven (x * 100) : ℚ) / 100

theorem floor_le_roundHalfEven (q : ℚ) : ⌊q⌋ ≤ roundHalfEven q := by
  unfold roundHalfEven
  split_ifs <;> omega

theorem roundHalfEven_le (q : ℚ) : (roundHalfEven q : ℚ) ≤ q + 1 / 2 := by
  have hlo := Int.floor_le q
  unfold roundHalfEven
  split_ifs <;> push_cast <;> linarith

def Cents (q : ℚ) : Prop := ∃ n : ℤ, q = n / 100

theorem round2_cents (x : ℚ) : Cents (round2 x) := ⟨_, rfl⟩

theorem round2_le (x : ℚ) : round2 x ≤ x + 1 / 200 := by
  have h := roundHalfEven_le (x * 100)
  rw [round2, div_le_iff₀ (by norm_num)]
  linarith

theorem le_round2 {n : ℤ} {x : ℚ} (h : (n : ℚ) / 100 ≤ x) : (n : ℚ) / 100 ≤ round2 x := by
  have hn : (n : ℚ) ≤ x * 100 := (div_le_iff₀ (by norm_num)).1 h
  have hr : n ≤ roundHalfEven (x * 100) := (Int.le_floor.2 hn).trans (floor_le_roundHalfEven _)
  exact div_le_div_of_nonneg_right (by exact_mod_cast hr) (by norm_num)

theorem roundHalfEven_le_of_le {n : ℤ} {q : ℚ} (h : q ≤ n) : roundHalfEven q ≤ n := by
  have hfl : ⌊q⌋ ≤ n := Int.floor_le_iff.2 (by linarith)
  have hlt : 0 < q - ⌊q⌋ → ⌊q⌋ < n := fun hpos => by
    exact_mod_cast (show (⌊q⌋ : ℚ) < n by linarith)
  unfold roundHalfEven
  split_ifs with h₁ h₂
  · exact hfl
  · have := hlt (by linarith)
    omega
  · exact hfl
  · have := hlt (by linarith)
    omega

theorem round2_le_of_le {n : ℤ} {x : ℚ} (h : x ≤ (n : ℚ) / 100) : round2 x ≤ (n : ℚ) / 100 := by
  have hn : x * 100 ≤ n := (le_div_iff₀ (by norm_num)).1 h
  exact div_le_div_of_nonneg_right (by exact_mod_cast roundHalfEven_le_of_le hn) (by norm_num)

end WalletLoadTest.Python
