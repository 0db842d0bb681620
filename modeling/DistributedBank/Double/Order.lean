/-
# DistributedBank.Double.Order — rounding never crosses a double

The server changes a balance only by `+` and `-` of `double`s, and `round` is where they
lose information.  It never moves a result past a representable double: a finite double at
or below the exact value is at or below the rounded one, and one at or above it stays at
or above (`value_le_key_round`).  The argument is the grid of the doubles.  For an exact
magnitude `n ≥ 2^53`, `roundMag` truncates to the unit `2^q` with `2^52 ≤ n / 2^q < 2^53`,
and in that binade every finite magnitude is a multiple of `2^q` (`magOf_grid`), so no
double lies strictly between the two candidates `⌊n / 2^q⌋ · 2^q` and the next multiple
(`le_of_lt_magOf`); below `2^53` rounding is exact.  Overflow to an infinity happens only
above every finite magnitude (`roundMag_none`).

The consequences the bank needs: adding an amount that passed the `amount > 0.0` test never
lowers a balance, whatever the balance is (`add_not_lt`); and a balance not below `0.0`
stays so under a credit (`add_not_lt_zero`) and under a debit that passed the funds check
`balance < amount` (`sub_not_lt_zero`).
-/
import DistributedBank.Double

namespace DistributedBank

namespace Double

set_option autoImplicit false

/-- The magnitude of biased exponent `e` and fraction `f`, in units of `2 ^ -1074`: the
body of `mag`. -/
def magOf (e f : Nat) : Nat := if e = 0 then f else (2 ^ 52 + f) * 2 ^ (e - 1)

theorem magOf_zero (f : Nat) : magOf 0 f = f := if_pos rfl

theorem mag_eq_magOf (x : Double) : x.mag = magOf x.bexp x.frac := rfl

/-! ## The grid -/

/-- At or above `2^52` units of `2^q`, a magnitude is a multiple of `2^q`. -/
theorem magOf_grid {e f q : Nat} (hf : f < 2 ^ 52) (h : 2 ^ 52 * 2 ^ q ≤ magOf e f) :
    2 ^ q ∣ magOf e f := by
  rcases Nat.eq_zero_or_pos e with rfl | he
  · have : 2 ^ 52 ≤ 2 ^ 52 * 2 ^ q := Nat.le_mul_of_pos_right _ (Nat.two_pow_pos q)
    rw [magOf, if_pos rfl] at h; omega
  rw [magOf, if_neg (by omega)] at h ⊢
  apply Dvd.dvd.mul_left (Nat.pow_dvd_pow 2 _)
  by_contra hq
  have h1 : (2 ^ 52 + f) * 2 ^ (e - 1) < 2 ^ 52 * 2 ^ q := calc
    (2 ^ 52 + f) * 2 ^ (e - 1) < 2 ^ 52 * 2 * 2 ^ (e - 1) :=
      Nat.mul_lt_mul_of_pos_right (by omega) (Nat.two_pow_pos _)
    _ = 2 ^ 52 * 2 ^ (e - 1 + 1) := by rw [Nat.pow_succ 2 (e - 1)]; ring
    _ ≤ 2 ^ 52 * 2 ^ q := Nat.mul_le_mul_left _ (Nat.pow_le_pow_right (by decide) (by omega))
  omega

/-- No double lies strictly between two neighbouring multiples of a unit `2 ^ q` at or
above `2 ^ 52` units. -/
theorem le_of_lt_magOf {m q e f : Nat} (hm : 2 ^ 52 ≤ m) (hf : f < 2 ^ 52)
    (h : m * 2 ^ q < magOf e f) : (m + 1) * 2 ^ q ≤ magOf e f := by
  obtain ⟨k, hk⟩ := magOf_grid hf (le_trans (Nat.mul_le_mul_right _ hm) h.le)
  rw [hk, Nat.mul_comm] at h ⊢
  exact Nat.mul_le_mul_left _ (Nat.lt_of_mul_lt_mul_left h)

/-- Rounding picks a grid point next to `n`: below it, or the next one up when `n` is
off the grid. -/
theorem magOf_sandwich {n m q r m₁ e f : Nat} (hm : 2 ^ 52 ≤ m) (hn : n = m * 2 ^ q + r)
    (hr : r < 2 ^ q) (hm₁ : m₁ = m ∨ m₁ = m + 1 ∧ 0 < r) (hf : f < 2 ^ 52) :
    (magOf e f ≤ n → magOf e f ≤ m₁ * 2 ^ q) ∧ (n ≤ magOf e f → m₁ * 2 ^ q ≤ magOf e f) := by
  have hsucc : (m + 1) * 2 ^ q = m * 2 ^ q + 2 ^ q := Nat.succ_mul m (2 ^ q)
  rcases hm₁ with rfl | ⟨rfl, hr0⟩
  · refine ⟨fun h => Nat.not_lt.1 fun hlt => ?_, fun h => by omega⟩
    have := le_of_lt_magOf hm hf hlt
    omega
  · exact ⟨fun h => by omega, fun h => le_of_lt_magOf hm hf (by omega)⟩

set_option exponentiation.threshold 2100 in
/-- Every finite magnitude lies below `2^52 · 2^2046`, where an infinity's encoding would
sit. -/
theorem magOf_lt {e f : Nat} (he : e ≤ 2046) (hf : f < 2 ^ 52) : magOf e f < 2 ^ 52 * 2 ^ 2046 := by
  rcases Nat.eq_zero_or_pos e with rfl | hpos
  · rw [magOf, if_pos rfl]
    exact Nat.lt_of_lt_of_le hf (Nat.le_mul_of_pos_right _ (Nat.two_pow_pos 2046))
  rw [magOf, if_neg (by omega)]
  calc (2 ^ 52 + f) * 2 ^ (e - 1) < 2 ^ 52 * 2 * 2 ^ 2045 :=
      Nat.mul_lt_mul_of_lt_of_le (by omega) (Nat.pow_le_pow_right (by decide) (by omega))
        (Nat.two_pow_pos _)
    _ = 2 ^ 52 * 2 ^ 2046 := by rw [Nat.mul_assoc, ← Nat.pow_succ']

/-! ## Rounding a magnitude -/

/-- Below `2^53` the exponent and fraction `roundMag` takes rebuild the magnitude exactly. -/
theorem magOf_div_mod {n : Nat} (h : n < 2 ^ 53) : magOf (n / 2 ^ 52) (n % 2 ^ 52) = n := by
  rcases (show n / 2 ^ 52 = 0 ∨ n / 2 ^ 52 = 1 by omega) with h | h <;>
    rw [h] <;> simp [magOf] <;> omega

/-- From `2^53` on, the unit `2^(log2 n - 52)` puts `n` between `2^52` and `2^53` units. -/
theorem div_log2_bounds {n : Nat} (h : 2 ^ 53 ≤ n) :
    2 ^ 52 ≤ n / 2 ^ (n.log2 - 52) ∧ n / 2 ^ (n.log2 - 52) < 2 ^ 53 := by
  have hn0 : n ≠ 0 := by omega
  have hlog : 53 ≤ n.log2 := (Nat.le_log2 hn0).2 (by omega)
  have hpos := Nat.two_pow_pos (n.log2 - 52)
  constructor
  · refine (Nat.le_div_iff_mul_le hpos).2 (le_trans (le_of_eq ?_) (Nat.log2_self_le hn0))
    rw [← Nat.pow_add]; congr 1; omega
  · refine (Nat.div_lt_iff_lt_mul hpos).2 (Nat.lt_of_lt_of_le Nat.lt_log2_self (le_of_eq ?_))
    rw [← Nat.pow_add]; congr 1; omega

/-- Ties-to-even moves up by one unit only when something was cut off. -/
theorem roundUp_cases (q r m : Nat) :
    (if 2 ^ q < 2 * r ∨ 2 * r = 2 ^ q ∧ m % 2 = 1 then m + 1 else m) = m ∨
      (if 2 ^ q < 2 * r ∨ 2 * r = 2 ^ q ∧ m % 2 = 1 then m + 1 else m) = m + 1 ∧ 0 < r := by
  split_ifs with hc
  · exact .inr ⟨rfl, by have := Nat.two_pow_pos q; omega⟩
  · exact .inl rfl

/-- A carry out of the binade moves to the next unit, keeping the product and a
mantissa in `[2^52, 2^53)`. -/
theorem renormalize_carry (m₁ q : Nat) (hlo : 2 ^ 52 ≤ m₁) (hhi : m₁ ≤ 2 ^ 53) :
    ∃ m' q', (if m₁ = 2 ^ 53 then (2 ^ 52, q + 1) else (m₁, q)) = (m', q') ∧
      m' * 2 ^ q' = m₁ * 2 ^ q ∧ 2 ^ 52 ≤ m' ∧ m' < 2 ^ 53 := by
  by_cases h53 : m₁ = 2 ^ 53
  · exact ⟨_, _, if_pos h53, by rw [h53, Nat.pow_succ]; ring, by decide, by decide⟩
  · exact ⟨_, _, if_neg h53, rfl, hlo, by omega⟩

set_option exponentiation.threshold 2100 in
/-- `roundMag n` rounds to a magnitude `R` with no double strictly between `n` and `R`;
it answers `none` only when `R` is beyond the finite range. -/
theorem roundMag_spec (n : Nat) :
    ∃ R, (∀ e f, f < 2 ^ 52 → (magOf e f ≤ n → magOf e f ≤ R) ∧ (n ≤ magOf e f → R ≤ magOf e f)) ∧
      (∀ e f, roundMag n = some (e, f) → e ≤ 2046 ∧ f < 2 ^ 52 ∧ magOf e f = R) ∧
      (roundMag n = none → 2 ^ 52 * 2 ^ 2046 ≤ R) := by
  by_cases hsmall : n < 2 ^ 53
  · refine ⟨n, fun e f _ => ⟨id, id⟩, fun e f h => ?_, fun h => ?_⟩ <;>
      simp only [roundMag, if_pos hsmall, Option.some.injEq, Prod.mk.injEq, reduceCtorEq] at h
    obtain ⟨rfl, rfl⟩ := h
    exact ⟨by omega, Nat.mod_lt _ (by decide), magOf_div_mod hsmall⟩
  have hbin := div_log2_bounds (Nat.le_of_not_lt hsmall)
  simp only [roundMag, if_neg hsmall]
  generalize n.log2 - 52 = q at *
  have hdm : n = n / 2 ^ q * 2 ^ q + n % 2 ^ q := by rw [Nat.mul_comm, Nat.div_add_mod]
  have hr := Nat.mod_lt n (Nat.two_pow_pos q)
  generalize n / 2 ^ q = m at *
  generalize n % 2 ^ q = r at *
  have hm₁ := roundUp_cases q r m
  generalize (if 2 ^ q < 2 * r ∨ 2 * r = 2 ^ q ∧ m % 2 = 1 then m + 1 else m) = m₁ at *
  refine ⟨m₁ * 2 ^ q, fun e f hf => magOf_sandwich hbin.1 hdm hr hm₁ hf, ?_⟩
  obtain ⟨m', q', hpair, hprod, hm'lo, hm'hi⟩ := renormalize_carry m₁ q (by omega) (by omega)
  rw [hpair]
  dsimp only
  split_ifs with hov
  · refine ⟨fun _ _ h => (nomatch h), fun _ => ?_⟩
    rw [← hprod]
    exact Nat.mul_le_mul hm'lo (Nat.pow_le_pow_right Nat.two_pos hov)
  · refine ⟨fun e f h => ?_, fun h => nomatch h⟩
    simp only [Option.some.injEq, Prod.mk.injEq] at h
    obtain ⟨rfl, rfl⟩ := h
    refine ⟨by omega, by omega, ?_⟩
    rw [magOf, if_neg (by omega), Nat.add_sub_cancel, Nat.add_sub_cancel' hm'lo, hprod]

theorem roundMag_some {n e f : Nat} (h : roundMag n = some (e, f)) :
    e ≤ 2046 ∧ f < 2 ^ 52 ∧ ∀ e' f', f' < 2 ^ 52 →
      (magOf e' f' ≤ n → magOf e' f' ≤ magOf e f) ∧ (n ≤ magOf e' f' → magOf e f ≤ magOf e' f') := by
  obtain ⟨R, hR, hs, -⟩ := roundMag_spec n
  obtain ⟨he, hf, rfl⟩ := hs e f h
  exact ⟨he, hf, hR⟩

theorem roundMag_none {n : Nat} (h : roundMag n = none) {e f : Nat} (he : e ≤ 2046)
    (hf : f < 2 ^ 52) : magOf e f < n := by
  obtain ⟨R, hR, -, hn⟩ := roundMag_spec n
  exact Nat.not_le.1 fun hle => Nat.lt_irrefl _
    (Nat.lt_of_lt_of_le (magOf_lt he hf) (le_trans (hn h) ((hR e f hf).2 hle)))

/-! ## Encodings -/

theorem bexp_lt (x : Double) : x.bexp < 2048 := Nat.mod_lt _ (by decide)

theorem frac_lt (x : Double) : x.frac < 2 ^ 52 := Nat.mod_lt _ (by decide)

/-- A double that is neither a NaN nor an infinity has a finite exponent. -/
theorem bexp_le {x : Double} (hn : x.isNaN = false) (hi : x.isInf = false) : x.bexp ≤ 2046 := by
  have := x.bexp_lt
  simp only [isNaN, isInf, Bool.and_eq_false_iff, beq_eq_false_iff_ne, bne_eq_false_iff_eq] at hn hi
  omega

theorem toNat_make (s : Bool) (e f : Nat) (he : e < 2048) (hf : f < 2 ^ 52) :
    (make s e f).bits.toNat = (if s then 2 ^ 63 else 0) + e * 2 ^ 52 + f :=
  UInt64.toNat_ofNat_of_lt (by simp only [UInt64.size]; split <;> omega)

theorem fields_make (s : Bool) (e f : Nat) (he : e < 2048) (hf : f < 2 ^ 52) :
    (make s e f).sign = s ∧ (make s e f).bexp = e ∧ (make s e f).frac = f := by
  simp only [sign, bexp, frac, toNat_make s e f he hf]
  cases s <;> simp only [if_true, if_false, Bool.false_eq_true] <;> refine ⟨?_, ?_, ?_⟩ <;>
    (try simp only [decide_eq_true_eq, decide_eq_false_iff_not]) <;> omega

/-! ## The order key -/

theorem key_make (s : Bool) {e f : Nat} (he : e ≤ 2046) (hf : f < 2 ^ 52) :
    (make s e f).key = if s then -(magOf e f : Int) else magOf e f := by
  obtain ⟨hs, hb, hfr⟩ := fields_make s e f (by omega) hf
  have hi : (make s e f).isInf = false := by
    simp only [isInf, hb, Bool.and_eq_false_iff, beq_eq_false_iff_ne]; omega
  simp only [key, hi, value, hs, mag_eq_magOf, hb, hfr, Bool.false_eq_true, if_false]

theorem key_inf (s : Bool) : (inf s).key = if s then -2 ^ 2100 else 2 ^ 2100 := by
  obtain ⟨hs, hb, hfr⟩ := fields_make s 2047 0 (by decide) (by decide)
  simp only [key, inf, isInf, hs, hb, hfr, beq_self_eq_true, Bool.and_self, if_true]

theorem key_of_isInf_eq_false {x : Double} (hi : x.isInf = false) : x.key = x.value := by
  simp only [key, hi, Bool.false_eq_true, if_false]

/-- Rounding an exact value at or above a finite double gives a double at or above it. -/
theorem value_le_key_round {a : Double} (hn : a.isNaN = false) (hi : a.isInf = false) {v : Int}
    (h : a.value ≤ v) (z : Bool) : a.value ≤ (round v z).key := by
  have hfin := bexp_le hn hi
  have hmag : a.mag < 2 ^ 52 * 2 ^ 2046 := magOf_lt hfin a.frac_lt
  unfold round
  split_ifs with hv0
  · rw [key_make z (by decide) (by decide)]
    rw [magOf_zero]; split <;> omega
  rcases hr : roundMag v.natAbs with _ | ⟨e, f⟩
  · rw [key_inf]
    by_cases hv : v < 0
    · have hlt := roundMag_none hr hfin a.frac_lt
      rw [← mag_eq_magOf] at hlt
      unfold value at h; split at h <;> omega
    · simp only [hv, decide_False, Bool.false_eq_true, if_false]
      unfold value; split <;> omega
  · obtain ⟨he, hf, hround⟩ := roundMag_some hr
    obtain ⟨hup, hdown⟩ := hround a.bexp a.frac a.frac_lt
    rw [← mag_eq_magOf] at hup hdown
    rw [key_make _ he hf]
    unfold value at h ⊢
    by_cases hv : v < 0 <;> simp only [hv, decide_True, decide_False, if_true, if_false,
      Bool.false_eq_true] <;> split at h <;> simp only [*, if_true, if_false] <;> omega

/-! ## Adding a positive double -/

theorem lt_self (x : Double) : lt x x = false := by simp [lt]

theorem zero_key : zero.key = 0 := by decide

/-- `a + b` with `b > 0` is a NaN or at or above `a`. -/
theorem key_le_add {a b : Double} (hb : lt zero b = true) (ha : a.isNaN = false) :
    (a + b).isNaN = true ∨ a.key ≤ (a + b).key := by
  simp only [lt, Bool.and_eq_true, Bool.not_eq_true', decide_eq_true_eq, zero_key] at hb
  obtain ⟨⟨-, hbn⟩, hbk⟩ := hb
  show (add a b).isNaN = true ∨ a.key ≤ (add a b).key
  unfold add
  rw [if_neg (by simp [ha]), if_neg (by simp [hbn])]
  by_cases hai : a.isInf = true
  · rw [if_pos hai]; split
    · exact .inl (by decide)
    · exact .inr le_rfl
  rw [Bool.not_eq_true] at hai
  rw [if_neg (by simp [hai]), key_of_isInf_eq_false hai]
  right
  by_cases hbi : b.isInf = true
  · have hmag : a.mag < 2 ^ 52 * 2 ^ 2046 := magOf_lt (bexp_le ha hai) a.frac_lt
    simp only [key, hbi, if_true] at hbk ⊢
    unfold value; split at hbk <;> split <;> omega
  rw [Bool.not_eq_true] at hbi
  rw [if_neg (by simp [hbi])]
  rw [key_of_isInf_eq_false hbi] at hbk
  exact value_le_key_round ha hai (by omega) _

/-- Adding a positive amount never lowers a balance: `a + b < a` is false whenever
`b > 0.0`, for every `a`, the infinities and NaNs included. -/
theorem add_not_lt (a b : Double) (hb : lt zero b = true) : lt (a + b) a = false := by
  cases ha : a.isNaN
  · rcases key_le_add hb ha with h | h
    · simp only [lt, h, Bool.not_true, Bool.false_and]
    · simp only [lt, Bool.and_eq_false_iff, decide_eq_false_iff_not]
      exact .inr (Int.not_lt.2 h)
  · simp only [lt, ha, Bool.not_true, Bool.and_false, Bool.false_and]

/-! ## The infinity -/

theorem fields_inf (s : Bool) : (inf s).isNaN = false ∧ (inf s).isInf = true ∧ (inf s).sign = s := by
  cases s <;> decide

theorem neg_inf : (inf false).neg = inf true := rfl

theorem lt_zero_inf : lt zero (inf false) = true := by
  have hz : zero.isNaN = false := by decide
  simp only [lt, hz, (fields_inf false).1, zero_key, key_inf, Bool.not_false, Bool.true_and,
    Bool.false_eq_true, if_false, decide_eq_true_eq]
  positivity

/-- `inf - inf` is invalid: the default NaN. -/
theorem inf_sub_inf : inf false - inf false = defaultNaN := by
  show sub (inf false) (inf false) = defaultNaN
  obtain ⟨hn₀, hi₀, hs₀⟩ := fields_inf false
  obtain ⟨hn₁, hi₁, hs₁⟩ := fields_inf true
  simp only [sub, add, neg_inf, hn₀, hn₁, hi₀, hi₁, hs₀, hs₁, Bool.false_eq_true, if_false, if_true,
    Bool.and_self, bne_self_eq_false, Bool.and_true]
  rfl

/-! ## Negation and subtraction

`neg` flips bit 63 and keeps the other 63 bits (`toNat_neg`), so `-x` has the exponent and
fraction of `x` and the other sign (`fields_neg`); `quiet` sets bit 51, inside the fraction,
so a NaN stays a NaN (`isNaN_quiet`).  With these, WITHDRAW's `balance - amount` after its
funds check and DEPOSIT's `balance + amount` both keep a balance that is not below zero. -/

theorem toNat_xor_sign (u : UInt64) : (u ^^^ 0x8000000000000000).toNat = u.toNat ^^^ 2 ^ 63 := by
  show (u.toBitVec ^^^ (0x8000000000000000 : UInt64).toBitVec).toNat = _
  rw [BitVec.toNat_xor]; rfl

/-- Setting bit 63 of a number below `2 ^ 63` flips that bit alone. -/
theorem testBit_two_pow_63_add {y : Nat} (hy : y < 2 ^ 63) (i : Nat) :
    Nat.testBit (2 ^ 63 + y) i = (Nat.testBit y i ^^ decide (63 = i)) := by
  rcases Nat.lt_trichotomy i 63 with h | rfl | h
  · rw [Nat.testBit_two_pow_add_gt h, decide_eq_false (by omega), Bool.xor_false]
  · rw [Nat.testBit_two_pow_add_eq, Nat.testBit_lt_two_pow hy]; rfl
  · have h64 : 2 ^ 64 ≤ 2 ^ i := Nat.pow_le_pow_right (by decide) h
    rw [Nat.testBit_lt_two_pow (by omega), Nat.testBit_lt_two_pow (by omega),
      decide_eq_false (by omega)]; rfl

theorem toNat_neg (x : Double) :
    x.neg.bits.toNat = if x.sign then x.bits.toNat - 2 ^ 63 else x.bits.toNat + 2 ^ 63 := by
  have hlt := x.bits.toNat_lt_size
  simp only [UInt64.size] at hlt
  rw [neg, toNat_xor_sign]
  apply Nat.eq_of_testBit_eq; intro i
  rw [Nat.testBit_xor, Nat.testBit_two_pow]
  unfold sign
  split_ifs with hs
  · rw [decide_eq_true_eq] at hs
    conv_lhs => rw [show x.bits.toNat = 2 ^ 63 + (x.bits.toNat - 2 ^ 63) by omega]
    rw [testBit_two_pow_63_add (by omega), Bool.xor_assoc, Bool.xor_self, Bool.xor_false]
  · rw [decide_eq_true_eq] at hs
    rw [Nat.add_comm, testBit_two_pow_63_add (by omega)]

/-- Adding `2 ^ 63`, bit 63, leaves the exponent and fraction fields. -/
theorem bexp_frac_add_two_pow_63 (u : Nat) :
    (u + 2 ^ 63) / 2 ^ 52 % 2 ^ 11 = u / 2 ^ 52 % 2 ^ 11 ∧ (u + 2 ^ 63) % 2 ^ 52 = u % 2 ^ 52 := by
  have h : 2 ^ 63 = 2 ^ 11 * 2 ^ 52 := by norm_num
  rw [h, Nat.add_mul_div_right _ _ (by positivity), Nat.add_mul_mod_self_right, Nat.add_mod_right]
  exact ⟨rfl, rfl⟩

theorem fields_neg (x : Double) : x.neg.sign = !x.sign ∧ x.neg.bexp = x.bexp ∧ x.neg.frac = x.frac := by
  have hlt := x.bits.toNat_lt_size
  simp only [UInt64.size] at hlt
  have h := toNat_neg x
  unfold sign at h
  simp only [sign, bexp, frac]
  by_cases hs : 2 ^ 63 ≤ x.bits.toNat
  · obtain ⟨hb, hf⟩ := bexp_frac_add_two_pow_63 (x.bits.toNat - 2 ^ 63)
    rw [Nat.sub_add_cancel hs] at hb hf
    rw [if_pos (decide_eq_true hs)] at h
    rw [h, hb, hf, decide_eq_true hs, decide_eq_false (by omega)]
    exact ⟨rfl, rfl, rfl⟩
  · obtain ⟨hb, hf⟩ := bexp_frac_add_two_pow_63 x.bits.toNat
    rw [if_neg (by simpa using hs)] at h
    rw [h, hb, hf, decide_eq_false hs, decide_eq_true (by omega)]
    exact ⟨rfl, rfl, rfl⟩

theorem toNat_or_quiet (u : UInt64) : (u ||| 0x0008000000000000).toNat = u.toNat ||| 2 ^ 51 := by
  show (u.toBitVec ||| (0x0008000000000000 : UInt64).toBitVec).toNat = _
  rw [BitVec.toNat_or]; rfl

theorem isNaN_quiet {x : Double} (h : x.isNaN = true) : x.quiet.isNaN = true := by
  have hb : x.quiet.bexp = x.bexp := by
    unfold bexp; rw [quiet, toNat_or_quiet]
    apply Nat.eq_of_testBit_eq; intro i
    rw [Nat.testBit_mod_two_pow, Nat.testBit_mod_two_pow, ← Nat.shiftRight_eq_div_pow,
      ← Nat.shiftRight_eq_div_pow, Nat.testBit_shiftRight, Nat.testBit_shiftRight, Nat.testBit_or,
      Nat.testBit_two_pow, decide_eq_false (show ¬51 = 52 + i by omega), Bool.or_false]
  have hf : x.quiet.frac ≠ 0 := by
    unfold frac; rw [quiet, toNat_or_quiet]
    intro h0
    have h51 := congrArg (Nat.testBit · 51) h0
    simp only [Nat.testBit_mod_two_pow, Nat.testBit_or, Nat.testBit_two_pow, Nat.zero_testBit] at h51
    simp at h51
  simp only [isNaN, Bool.and_eq_true, beq_iff_eq, bne_iff_ne, ne_eq] at h ⊢
  exact ⟨hb ▸ h.1, hf⟩

theorem isNaN_neg (x : Double) : x.neg.isNaN = x.isNaN := by
  obtain ⟨-, hb, hf⟩ := fields_neg x; simp only [isNaN, hb, hf]

theorem isInf_neg (x : Double) : x.neg.isInf = x.isInf := by
  obtain ⟨-, hb, hf⟩ := fields_neg x; simp only [isInf, hb, hf]

theorem value_neg (x : Double) : x.neg.value = -x.value := by
  obtain ⟨hs, hb, hf⟩ := fields_neg x
  unfold value; rw [hs, mag_eq_magOf, mag_eq_magOf, hb, hf]
  cases x.sign
  · rfl
  · exact (neg_neg _).symm

theorem zero_value : zero.value = 0 := by decide

/-- `x < 0.0` is false exactly when `x` is a NaN or its key is at least zero. -/
theorem lt_zero_eq_false {x : Double} : lt x zero = false ↔ x.isNaN = true ∨ 0 ≤ x.key := by
  have hz : zero.isNaN = false := by decide
  cases h : x.isNaN <;> simp [lt, h, hz, zero_key]

/-- A double that is not a NaN and fails `x <= 0.0` is above `0.0`. -/
theorem zero_lt_of_le_zero_eq_false {x : Double} (hn : x.isNaN = false) (h : le x zero = false) :
    lt zero x = true := by
  have hz : zero.isNaN = false := by decide
  simp only [le, hn, hz, Bool.not_false, Bool.true_and, decide_eq_false_iff_not, not_le] at h
  simp [lt, hn, hz, h]

/-- A balance not below zero stays so when an amount above zero is added. -/
theorem add_not_lt_zero {a b : Double} (ha : lt a zero = false) (hb : lt zero b = true) :
    lt (a + b) zero = false := by
  rw [lt_zero_eq_false] at ha ⊢
  cases hn : a.isNaN
  · rcases key_le_add hb hn with h | h
    · exact .inl h
    · exact .inr (le_trans (ha.resolve_left (by simp [hn])) h)
  · left; show (add a b).isNaN = true; rw [add, if_pos hn]; exact isNaN_quiet hn

/-- `a - b` after the funds check, `a < b` false with `b > 0.0`, is a NaN or not below zero. -/
theorem sub_not_lt_zero {a b : Double} (ha : lt a b = false) (hb : lt zero b = true) :
    lt (a - b) zero = false := by
  simp only [lt, Bool.and_eq_true, Bool.not_eq_true', decide_eq_true_eq, zero_key] at hb
  obtain ⟨⟨-, hbn⟩, hbk⟩ := hb
  rw [lt_zero_eq_false]
  show (sub a b).isNaN = true ∨ 0 ≤ (sub a b).key
  cases han : a.isNaN
  swap
  · left; rw [sub, if_pos han]; exact isNaN_quiet han
  have hab : b.key ≤ a.key := by simpa [lt, han, hbn] using ha
  rw [sub, if_neg (by simp [han]), if_neg (by simp [hbn]), add, if_neg (by simp [han]),
    if_neg (by simp [isNaN_neg, hbn])]
  by_cases hai : a.isInf = true
  · rw [if_pos hai]; split
    · exact .inl (by decide)
    · exact .inr (by omega)
  rw [Bool.not_eq_true] at hai
  rw [if_neg (by simp [hai]), isInf_neg]
  rw [key_of_isInf_eq_false hai] at hab
  by_cases hbi : b.isInf = true
  · have hv : a.value < 2 ^ 2100 := by
      have hmag : a.mag < 2 ^ 52 * 2 ^ 2046 := magOf_lt (bexp_le han hai) a.frac_lt
      unfold value; split <;> omega
    cases hs : b.sign <;> simp only [key, hbi, hs, if_true, if_false, Bool.false_eq_true] at hbk hab <;>
      omega
  rw [Bool.not_eq_true] at hbi
  rw [if_neg (by simp [hbi]), value_neg]
  rw [key_of_isInf_eq_false hbi] at hab hbk
  right
  have h := value_le_key_round (a := zero) (by decide) (by decide) (v := a.value + -b.value)
    (by rw [zero_value]; omega) (a.sign && b.neg.sign)
  rwa [zero_value] at h

/-! ## The length of `std::to_string` -/

/-- `printf("%f")` of a non-negative integer `n` of millionths, after a sign of at most one
byte: at most 317 bytes while the integer part stays below `10 ^ 309`. -/
theorem length_fixed_le {sgn : Bytes} (hs : sgn.length ≤ 1) {n : Nat} (hn : n / 10 ^ 6 < 10 ^ 309) :
    (sgn ++ decimal (n / 10 ^ 6) ++ ascii "." ++
      List.replicate (6 - (decimal (n % 10 ^ 6)).length) (48 : UInt8) ++
        decimal (n % 10 ^ 6)).length ≤ 317 := by
  have hint := length_decimal_le (by decide) hn
  have hfrac := length_decimal_le (by decide) (Nat.mod_lt n (by decide : 0 < 10 ^ 6))
  have hdot : (ascii ".").length = 1 := rfl
  simp only [List.length_append, List.length_replicate, hdot]
  omega

set_option exponentiation.threshold 2100 in
/-- A finite double's magnitude lies below `2 ^ 1024`, in units of `2 ^ -1074`. -/
theorem mag_lt {x : Double} (hn : x.isNaN = false) (hi : x.isInf = false) :
    x.mag < 2 ^ 1024 * 2 ^ 1074 := by
  rw [mag_eq_magOf, show (2 : Nat) ^ 1024 * 2 ^ 1074 = 2 ^ 52 * 2 ^ 2046 by
    rw [← Nat.pow_add, ← Nat.pow_add]]
  exact magOf_lt (bexp_le hn hi) x.frac_lt

set_option exponentiation.threshold 1100 in
/-- `std::to_string` of a double has at most 317 bytes: a sign, the 309 digits of the largest
finite integer part, the point and six decimals. -/
theorem length_toString_le (x : Double) : x.toString.length ≤ 317 := by
  have hsgn : (if x.sign then ascii "-" else []).length ≤ 1 := by split <;> decide
  unfold toString
  dsimp only
  generalize (if x.sign then ascii "-" else []) = sgn at hsgn ⊢
  have h3 : ∀ s : String, s.length = 3 → (sgn ++ ascii s).length ≤ 317 := fun s hs => by
    rw [List.length_append, ascii, List.length_map]
    have : s.toList.length = 3 := hs
    omega
  by_cases hn : x.isNaN = true
  · rw [if_pos hn]; exact h3 _ rfl
  by_cases hi : x.isInf = true
  · rw [if_neg hn, if_pos hi]; exact h3 _ rfl
  rw [if_neg hn, if_neg hi]
  simp only [Bool.not_eq_true] at hn hi
  apply length_fixed_le hsgn
  have hq : x.mag * 10 ^ 6 / 2 ^ 1074 < 2 ^ 1024 * 10 ^ 6 := by
    have hm := mag_lt hn hi
    have hB : 0 < (2 : Nat) ^ 1074 := Nat.two_pow_pos _
    generalize (2 : Nat) ^ 1024 = A at hm ⊢
    generalize (2 : Nat) ^ 1074 = B at hm hB ⊢
    rw [Nat.div_lt_iff_lt_mul hB, Nat.mul_right_comm]
    exact Nat.mul_lt_mul_of_pos_right hm (by decide)
  generalize x.mag * 10 ^ 6 / 2 ^ 1074 = q at hq ⊢
  have hr : ∀ n, n ≤ q + 1 → n / 10 ^ 6 < 10 ^ 309 := fun n hn' =>
    calc n / 10 ^ 6 ≤ 2 ^ 1024 := Nat.div_le_of_le_mul (by rw [Nat.mul_comm]; exact hn'.trans hq)
      _ < 10 ^ 309 := by norm_num
  split
  · exact hr _ (le_refl _)
  · exact hr _ (Nat.le_succ _)

end Double

end DistributedBank
