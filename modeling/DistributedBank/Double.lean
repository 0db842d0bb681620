/-
# DistributedBank.Double — the C++ `double`, as IEEE-754 binary64 bit patterns

The bank keeps balances as `double`, and the codec moves a `double` by `memcpy` into a
`uint64_t` and back, so a `Double` is that bit pattern.  The operations the server applies
to balances are modelled as an x86-64 build executes them (SSE2, round to nearest with ties
to even, no excess precision):

* the comparisons `a < b` and `a > 0.0`: false when an operand is NaN, otherwise the order
  of the values, with `-0.0 = +0.0`;
* `a + b` and `a - b`: the exact result rounded to nearest, ties to even, overflowing to an
  infinity; `inf - inf` is the default NaN, and a NaN operand comes back quieted;
* `std::to_string(double)`, which is `printf("%f")`: the value rounded to six decimals.

A finite double's value is an integer number of units of `2 ^ -1074` (`mag`, `value`); the
order key of an infinity (`key`) lies beyond every finite value.
-/
import DistributedBank.Wire.Bytes

namespace DistributedBank

set_option autoImplicit false

/-- A C++ `double`: its binary64 bit pattern. -/
structure Double where
  bits : UInt64
  deriving DecidableEq, Repr

namespace Double

/-- The sign bit. -/
def sign (x : Double) : Bool := decide (2 ^ 63 ≤ x.bits.toNat)

/-- The biased exponent, bits 52 to 62. -/
def bexp (x : Double) : Nat := x.bits.toNat / 2 ^ 52 % 2 ^ 11

/-- The fraction, bits 0 to 51. -/
def frac (x : Double) : Nat := x.bits.toNat % 2 ^ 52

def isNaN (x : Double) : Bool := x.bexp == 2047 && x.frac != 0

def isInf (x : Double) : Bool := x.bexp == 2047 && x.frac == 0

/-- The magnitude of a finite double, in units of `2 ^ -1074`. -/
def mag (x : Double) : Nat :=
  if x.bexp = 0 then x.frac else (2 ^ 52 + x.frac) * 2 ^ (x.bexp - 1)

/-- The value of a finite double, in units of `2 ^ -1074`. -/
def value (x : Double) : Int := if x.sign then -(x.mag : Int) else x.mag

/-- The order of the non-NaN doubles: the value, with the infinities at `± 2 ^ 2100`. -/
def key (x : Double) : Int :=
  if x.isInf then (if x.sign then -2 ^ 2100 else 2 ^ 2100) else x.value

/-- `a < b` (`comisd`): false when either operand is NaN. -/
def lt (a b : Double) : Bool := !a.isNaN && !b.isNaN && decide (a.key < b.key)

/-- `a <= b`: false when either operand is NaN. -/
def le (a b : Double) : Bool := !a.isNaN && !b.isNaN && decide (a.key ≤ b.key)

instance : LT Double := ⟨fun a b => lt a b = true⟩

instance (a b : Double) : Decidable (a < b) := inferInstanceAs (Decidable (lt a b = true))

/-- `0.0`. -/
def zero : Double := ⟨0⟩

/-- The double with sign `s`, biased exponent `e` and fraction `f`. -/
def make (s : Bool) (e f : Nat) : Double :=
  ⟨UInt64.ofNat ((if s then 2 ^ 63 else 0) + e * 2 ^ 52 + f)⟩

/-- The infinity of sign `s`. -/
def inf (s : Bool) : Double := make s 2047 0

/-- The quiet NaN an invalid SSE operation returns (the "real indefinite"). -/
def defaultNaN : Double := ⟨0xFFF8000000000000⟩

/-- A NaN operand with its quiet bit set, as SSE passes it through. -/
def quiet (x : Double) : Double := ⟨x.bits ||| 0x0008000000000000⟩

/-- `-x`: the sign bit flipped. -/
def neg (x : Double) : Double := ⟨x.bits ^^^ 0x8000000000000000⟩

/-- The exponent and fraction nearest a positive magnitude `n` (units of `2 ^ -1074`),
ties to even; `none` when the result overflows. -/
def roundMag (n : Nat) : Option (Nat × Nat) :=
  if n < 2 ^ 53 then some (n / 2 ^ 52, n % 2 ^ 52)
  else
    let q := n.log2 - 52
    let m := n / 2 ^ q
    let r := n % 2 ^ q
    let m := if 2 ^ q < 2 * r ∨ (2 * r = 2 ^ q ∧ m % 2 = 1) then m + 1 else m
    let (m, q) := if m = 2 ^ 53 then (2 ^ 52, q + 1) else (m, q)
    if 2046 ≤ q then none else some (q + 1, m - 2 ^ 52)

/-- The double nearest an exact value `v` (units of `2 ^ -1074`); an exact zero takes the
sign `negZero`. -/
def round (v : Int) (negZero : Bool) : Double :=
  if v = 0 then make negZero 0 0
  else match roundMag v.natAbs with
    | some (e, f) => make (decide (v < 0)) e f
    | none => inf (decide (v < 0))

/-- `a + b` as `addsd` computes it. -/
def add (a b : Double) : Double :=
  if a.isNaN then a.quiet
  else if b.isNaN then b.quiet
  else if a.isInf then (if b.isInf && a.sign != b.sign then defaultNaN else a)
  else if b.isInf then b
  else round (a.value + b.value) (a.sign && b.sign)

/-- `a - b` as `subsd` computes it. -/
def sub (a b : Double) : Double :=
  if a.isNaN then a.quiet else if b.isNaN then b.quiet else add a b.neg

instance : Add Double := ⟨add⟩

instance : Sub Double := ⟨sub⟩

/-- `std::to_string(double)`, that is `printf("%f")`: the value rounded to six decimals,
ties to even; the infinities and NaNs print as `inf` and `nan` after their sign. -/
def toString (x : Double) : Bytes :=
  let sgn := if x.sign then ascii "-" else []
  if x.isNaN then sgn ++ ascii "nan"
  else if x.isInf then sgn ++ ascii "inf"
  else
    let q := x.mag * 10 ^ 6 / 2 ^ 1074
    let r := x.mag * 10 ^ 6 % 2 ^ 1074
    let n := if 2 ^ 1074 < 2 * r ∨ (2 * r = 2 ^ 1074 ∧ q % 2 = 1) then q + 1 else q
    let fracDigits := decimal (n % 10 ^ 6)
    sgn ++ decimal (n / 10 ^ 6) ++ ascii "." ++
      List.replicate (6 - fracDigits.length) (48 : UInt8) ++ fracDigits

set_option exponentiation.threshold 1100 in
example : toString ⟨0xBFF8000000000000⟩ = ascii "-1.500000" := by decide

set_option exponentiation.threshold 2100 in
example : (⟨0xBFF0000000000000⟩ : Double) < zero := by decide

end Double

end DistributedBank
