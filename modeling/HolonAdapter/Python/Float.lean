import Mathlib.Tactic.NormNum

/-!
# Python/Float — the `float` values `json` reads and writes

    "0.10000000000000000000001" ──float()──▸ 0.1 ──repr()──▸ "0.1"
    "1e400"                      ──float()──▸ inf ──json.dump──▸ "Infinity"

A CPython `float` is an IEEE 754 binary64.  Reading a decimal (`float()`, and so `json.load` on a
number with a fraction or an exponent) and dividing two integers (`timedelta.total_seconds()`)
give the binary64 nearest to the exact value, ties to even (`ofRat`); writing one (`repr`, which
`json.dump` uses) gives the shortest decimal that reads back as it (`shortest`).

* `ofRat_of_overflow` — a value from `2^1024 - 2^970` on reads as an infinity;
* `ofRat_zero` — zero keeps its sign.
-/

namespace HolonAdapter

/-- A value of CPython's `float`: a finite `(-1)^neg · m · 2^e`, an infinity, or NaN.  The finite
values built here are canonical — `m < 2^53`, `-1074 ≤ e ≤ 971`, and `2^52 ≤ m` unless
`e = -1074` (a subnormal or a zero) — so two of them are equal exactly when their values are, zeros
apart. -/
inductive Float64 where
  | finite (neg : Bool) (m : ℕ) (e : ℤ)
  | inf (neg : Bool)
  | nan
  deriving DecidableEq, Repr

namespace Float64

/-- `num / den < 2^k`. -/
def ltPow2 (num den : ℕ) (k : ℤ) : Bool :=
  if 0 ≤ k then num < den * 2 ^ k.toNat else num * 2 ^ (-k).toNat < den

/-- `num / den` divided by `2^t`, as a numerator and a denominator. -/
def scaled (num den : ℕ) (t : ℤ) : ℕ × ℕ :=
  if 0 ≤ t then (num, den * 2 ^ t.toNat) else (num * 2 ^ (-t).toNat, den)

/-- `a / b` rounded to the nearest integer, ties to even. -/
def roundHalfEven (a b : ℕ) : ℕ :=
  if b < 2 * (a % b) ∨ (2 * (a % b) = b ∧ a / b % 2 = 1) then a / b + 1 else a / b

/-- **The binary64 nearest to `(-1)^neg · num / den`**, ties to even — what CPython's correctly
rounding `strtod` and its true division of integers return.  From `2^1024 - 2^970`, the midpoint
between the largest finite value and `2^1024`, the value overflows to an infinity; below the
subnormals it rounds to a zero of its sign.  The exponent `e = ⌊log₂ (num / den)⌋` is the
difference of the bit lengths, less one when that overshoots; the significand is the value over
`2^t`, `t = max (e - 52) (-1074)`, rounded, and a carry to `2^53` moves up one binade. -/
def ofRat (neg : Bool) (num den : ℕ) : Float64 :=
  if num = 0 then finite neg 0 (-1074)
  else if (2 ^ 1024 - 2 ^ 970) * den ≤ num then inf neg
  else
    let k : ℤ := (num.log2 : ℤ) - den.log2
    let e := if ltPow2 num den k then k - 1 else k
    let t := max (e - 52) (-1074)
    let m := roundHalfEven (scaled num den t).1 (scaled num den t).2
    if m = 2 ^ 53 then finite neg (2 ^ 52) (t + 1) else finite neg m t

/-- `float(s)` of a decimal `(-1)^neg · m · 10^e`. -/
def ofDecimal (neg : Bool) (m : ℕ) (e : ℤ) : Float64 :=
  if 0 ≤ e then ofRat neg (m * 10 ^ e.toNat) 1 else ofRat neg m (10 ^ (-e).toNat)

/-- **An overflowing value reads as an infinity.** -/
theorem ofRat_of_overflow {neg : Bool} {num den : ℕ} (h : (2 ^ 1024 - 2 ^ 970) * den ≤ num)
    (hn : num ≠ 0) : ofRat neg num den = inf neg := by
  rw [ofRat, if_neg hn, if_pos h]

/-- A zero keeps its sign: `-0.0` is not `0.0`. -/
theorem ofRat_zero (neg : Bool) (den : ℕ) : ofRat neg 0 den = finite neg 0 (-1074) := by
  rw [ofRat, if_pos rfl]

/-! ## `repr` -/

/-- The number of decimal digits of `n`. -/
def numDigits (n : ℕ) : ℕ := (Nat.toDigits 10 n).length

/-- The exact decimal `A · 10^B` of `m · 2^t`. -/
def exactDecimal (m : ℕ) (t : ℤ) : ℕ × ℤ :=
  if 0 ≤ t then (m * 2 ^ t.toNat, 0) else (m * 5 ^ (-t).toNat, t)

/-- Of two decimals `lo · 10^E` and `(lo + 1) · 10^E` around `A · 10^B`, the one nearer, the even
one on a tie. -/
def nearer (A lo d : ℕ) : ℕ :=
  if A - lo * 10 ^ d < (lo + 1) * 10 ^ d - A then lo
  else if (lo + 1) * 10 ^ d - A < A - lo * 10 ^ d then lo + 1
  else if lo % 2 = 0 then lo else lo + 1

/-- The search of `shortest`, from `n` significant digits on, with `fuel` more tries: the two
`n`-digit decimals around the exact value `A · 10^B` (of `L` digits) are `lo · 10^E` and
`(lo + 1) · 10^E`, `E = B + (L - n)`. -/
def shortestFrom (x : Float64) (neg : Bool) (A : ℕ) (B : ℤ) (L : ℕ) : ℕ → ℕ → ℕ × ℤ
  | 0, _ => (A, B)
  | fuel + 1, n =>
    if L ≤ n then (A, B)
    else
      let lo := A / 10 ^ (L - n)
      let E := B + (L - n : ℕ)
      match ofDecimal neg lo E == x, ofDecimal neg (lo + 1) E == x with
      | true, true => (nearer A lo (L - n), E)
      | true, false => (lo, E)
      | false, true => (lo + 1, E)
      | false, false => shortestFrom x neg A B L fuel (n + 1)

/-- **The digits `repr` prints for a finite nonzero `float`** (`_Py_dg_dtoa` in mode 0): the fewest
significant digits that read back as it, the nearest such decimal, and the even one on a tie.  It is
`(d, E)` for the decimal `d · 10^E`; seventeen digits always suffice. -/
def shortest (neg : Bool) (m : ℕ) (t : ℤ) : ℕ × ℤ :=
  shortestFrom (finite neg m t) neg (exactDecimal m t).1 (exactDecimal m t).2
    (numDigits (exactDecimal m t).1) 17 1

end Float64

end HolonAdapter
