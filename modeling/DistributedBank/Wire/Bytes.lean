/-
# DistributedBank.Wire.Bytes — byte buffers and the big-endian helpers

`protocol.cpp` writes every integer field through `putBE16`/`putBE32`/`putBE64` and reads
it back through `getBE16`/`getBE32`/`getBE64`: a bounds check on the cursor, then a
fixed-width big-endian read.  The three widths are one definition here, `putBE`/`getBE`
at widths 2, 4 and 8, and the round trip is proved once:

* `beValue_putBE`: the bytes `putBE k v` read back as `v % 256 ^ k`;
* `putBE_beValue`: `k` bytes read and written again are the same bytes;
* `getBE_append`: a reader placed at the start of a written word returns it and moves the
  cursor past it, whatever stands before or after.

A buffer (`std::vector<uint8_t>` and the bytes of a `std::string` alike) is a `Bytes`; a
cursor `size_t off` is a natural number, the 64-bit build, where no cursor sum the code
forms comes near `2 ^ 64`.
-/
import Mathlib.Data.List.GetD
import Mathlib.Data.Nat.Digits

namespace DistributedBank

set_option autoImplicit false

/-- A byte buffer: `std::vector<uint8_t>`, and the bytes of a `std::string`. -/
abbrev Bytes := List UInt8

/-- The bytes of an ASCII string literal. -/
def ascii (s : String) : Bytes := s.toList.map fun c => c.toNat.toUInt8

/-- `std::to_string` of a non-negative integer: its decimal digits. -/
def decimal (n : Nat) : Bytes := ascii (Nat.repr n)

/-! ## Big-endian words -/

/-- The `k` bytes of `v` (mod `256 ^ k`), most significant first. -/
def putBE : Nat → Nat → Bytes
  | 0, _ => []
  | k + 1, v => putBE k (v / 256) ++ [UInt8.ofNat v]

/-- The number whose big-endian bytes are `bs`: the `out = (out << 8) | b[off + i]` loop. -/
def beValue (bs : Bytes) : Nat := bs.foldl (fun acc b => acc * 256 + b.toNat) 0

/-- `putBE16`: the two bytes of a `uint16_t`. -/
def putBE16 (v : UInt16) : Bytes := putBE 2 v.toNat

/-- `putBE32`: the four bytes of a `uint32_t`. -/
def putBE32 (v : UInt32) : Bytes := putBE 4 v.toNat

/-- `putBE64`: the eight bytes of a `uint64_t`. -/
def putBE64 (v : UInt64) : Bytes := putBE 8 v.toNat

/-- The `k` bytes of `b` from `off` on (fewer at the end of the buffer). -/
def window (b : Bytes) (off k : Nat) : Bytes := (b.drop off).take k

/-- What a reader `bool get…(b, size_t& off, T& out)` leaves behind: its result, the
cursor, and the out-parameter. -/
structure Read (α : Type) where
  ok : Bool
  off : Nat
  out : α
  deriving DecidableEq, Repr

/-- The `k`-byte big-endian reader: when `off + k > b.size()` it fails and touches neither
`off` nor `out`; otherwise it reads `k` bytes, converts them with `conv` and advances. -/
def getBE {α : Type} (k : Nat) (conv : Nat → α) (b : Bytes) (off : Nat) (out : α) : Read α :=
  if off + k > b.length then ⟨false, off, out⟩
  else ⟨true, off + k, conv (beValue (window b off k))⟩

/-- `getBE16`. -/
def getBE16 (b : Bytes) (off : Nat) (out : UInt16) : Read UInt16 := getBE 2 UInt16.ofNat b off out

/-- `getBE32`. -/
def getBE32 (b : Bytes) (off : Nat) (out : UInt32) : Read UInt32 := getBE 4 UInt32.ofNat b off out

/-- `getBE64`. -/
def getBE64 (b : Bytes) (off : Nat) (out : UInt64) : Read UInt64 := getBE 8 UInt64.ofNat b off out

/-! ## Round trips -/

@[simp] theorem UInt8.toNat_ofNat' (n : Nat) : (UInt8.ofNat n).toNat = n % 256 := by
  simp [UInt8.toNat, UInt8.ofNat]

@[simp] theorem UInt8.ofNat_toNat' (b : UInt8) : UInt8.ofNat b.toNat = b :=
  UInt8.toNat.inj (by simpa using Nat.mod_eq_of_lt b.toNat_lt_size)

@[simp] theorem length_putBE (k v : Nat) : (putBE k v).length = k := by
  induction k generalizing v with
  | zero => rfl
  | succ k ih => simp [putBE, ih]

@[simp] theorem beValue_nil : beValue [] = 0 := rfl

theorem beValue_append_single (bs : Bytes) (b : UInt8) :
    beValue (bs ++ [b]) = beValue bs * 256 + b.toNat := by
  simp [beValue, List.foldl_append]

theorem beValue_lt (bs : Bytes) : beValue bs < 256 ^ bs.length := by
  induction bs using List.reverseRecOn with
  | nil => decide
  | append_singleton bs b ih =>
      rw [beValue_append_single, List.length_append, List.length_singleton, Nat.pow_succ]
      have := b.toNat_lt_size
      simp only [UInt8.size] at this
      omega

theorem beValue_putBE (k v : Nat) : beValue (putBE k v) = v % 256 ^ k := by
  induction k generalizing v with
  | zero => simp [putBE, Nat.mod_one]
  | succ k ih =>
      rw [putBE, beValue_append_single, ih, UInt8.toNat_ofNat', Nat.pow_succ,
        Nat.mul_comm (256 ^ k) 256, Nat.mod_mul]
      omega

theorem putBE_beValue (bs : Bytes) : putBE bs.length (beValue bs) = bs := by
  induction bs using List.reverseRecOn with
  | nil => rfl
  | append_singleton bs b ih =>
      have hb := b.toNat_lt_size
      simp only [UInt8.size] at hb
      have hdiv : (beValue bs * 256 + b.toNat) / 256 = beValue bs := by omega
      have hmod : UInt8.ofNat (beValue bs * 256 + b.toNat) = b :=
        UInt8.toNat.inj (by simp; omega)
      simp only [List.length_append, List.length_singleton, putBE, beValue_append_single, hdiv, ih,
        hmod]

/-- `putBE k` looks at `v` modulo `256 ^ k` only. -/
theorem putBE_mod (k v : Nat) : putBE k (v % 256 ^ k) = putBE k v := by
  induction k generalizing v with
  | zero => rfl
  | succ k ih =>
      have hdiv : v % 256 ^ (k + 1) / 256 = v / 256 % 256 ^ k := by
        rw [Nat.pow_succ, Nat.mul_comm, Nat.mod_mul_right_div_self]
      have hlow : UInt8.ofNat (v % 256 ^ (k + 1)) = UInt8.ofNat v := by
        apply UInt8.toNat.inj
        simp only [UInt8.toNat_ofNat']
        rw [Nat.pow_succ, Nat.mod_mul_left_mod]
      rw [putBE, putBE, hdiv, ih, hlow]

/-- A `k`-byte reader at the start of a written word returns it and steps over it. -/
theorem getBE_append {α : Type} (k : Nat) (conv : Nat → α) (pre post : Bytes) (v : Nat)
    (out : α) :
    getBE k conv (pre ++ putBE k v ++ post) pre.length out =
      ⟨true, pre.length + k, conv (v % 256 ^ k)⟩ := by
  have hdrop : (pre ++ putBE k v ++ post).drop pre.length = putBE k v ++ post := by
    rw [List.append_assoc, List.drop_left]
  simp [getBE, window, hdrop, List.take_left' (length_putBE k v), beValue_putBE]

theorem getBE_of_le {α : Type} {k : Nat} {conv : Nat → α} {b : Bytes} {off : Nat} (out : α)
    (h : off + k ≤ b.length) :
    getBE k conv b off out = ⟨true, off + k, conv (beValue (window b off k))⟩ := by
  simp only [getBE, gt_iff_lt, ite_eq_right_iff]; omega

theorem getBE_of_lt {α : Type} {k : Nat} {conv : Nat → α} {b : Bytes} {off : Nat} (out : α)
    (h : b.length < off + k) : getBE k conv b off out = ⟨false, off, out⟩ := by
  simp only [getBE, gt_iff_lt, h, if_true]

theorem length_window {b : Bytes} {off k : Nat} (h : off + k ≤ b.length) :
    (window b off k).length = k := by
  simp [window]; omega

theorem window_append_window (b : Bytes) {off k off' : Nat} (j : Nat) (h : off + k = off') :
    window b off k ++ window b off' j = window b off (k + j) := by
  subst h; simp only [window, List.take_add, List.drop_drop, Nat.add_comm k off]

theorem window_take (b : Bytes) {n off k : Nat} (h : off + k ≤ n) :
    window (b.take n) off k = window b off k := by
  rw [window, window, List.drop_take, List.take_take, Nat.min_eq_left (by omega)]

theorem window_append_of_length_le (a b : Bytes) {off : Nat} (k : Nat) (h : a.length ≤ off) :
    window (a ++ b) off k = window b (off - a.length) k := by
  rw [window, window, List.drop_append_eq_append_drop, List.drop_eq_nil_of_le h, List.nil_append]

theorem window_cons_succ (x : UInt8) (b : Bytes) (off k : Nat) :
    window (x :: b) (off + 1) k = window b off k := rfl

theorem window_append_length (a b : Bytes) {k : Nat} (h : a.length = k) :
    window (a ++ b) 0 k = a := by
  rw [window, List.drop_zero, List.take_left' h]

/-- Reading `k` in-bounds bytes and writing them back gives the same bytes. -/
theorem putBE_window {b : Bytes} {off k : Nat} (h : off + k ≤ b.length) :
    putBE k (beValue (window b off k)) = window b off k := by
  have := putBE_beValue (window b off k)
  rwa [length_window h] at this

theorem getBE_ok_iff {α : Type} (k : Nat) (conv : Nat → α) (b : Bytes) (off : Nat) (out : α) :
    (getBE k conv b off out).ok = true ↔ off + k ≤ b.length := by
  unfold getBE; split <;> simp <;> omega

/-- A failed big-endian read leaves the cursor and the out-parameter as they were. -/
theorem getBE_fail {α : Type} {k : Nat} {conv : Nat → α} {b : Bytes} {off : Nat} {out : α}
    (h : (getBE k conv b off out).ok = false) : getBE k conv b off out = ⟨false, off, out⟩ := by
  unfold getBE at h ⊢; split <;> simp_all

/-! ## Decimal renderings

`std::to_string` writes a number's decimal digits with no sign, padding or leading zero, so
its bytes are digit bytes only and the number can be read back from them. -/

/-- The number a string of digit bytes spells, most significant digit first. -/
def ofDecimal (bs : Bytes) : Nat := bs.foldl (fun acc b => acc * 10 + (b.toNat - 48)) 0

theorem ofDecimal_append_single (bs : Bytes) (b : UInt8) :
    ofDecimal (bs ++ [b]) = ofDecimal bs * 10 + (b.toNat - 48) := by
  simp [ofDecimal, List.foldl_append]

/-- The byte of a digit character. -/
theorem toNat_digitChar (d : Nat) (h : d < 10) : (Nat.digitChar d).toNat.toUInt8.toNat = 48 + d := by
  interval_cases d <;> rfl

theorem toDigitsCore_append (b f n : Nat) (ds : List Char) :
    Nat.toDigitsCore b f n ds = Nat.toDigitsCore b f n [] ++ ds := by
  induction f generalizing n ds with
  | zero => rfl
  | succ f ih =>
    simp only [Nat.toDigitsCore]
    split
    · rfl
    · rw [ih _ (_ :: ds), ih _ [_], List.append_assoc, List.singleton_append]

theorem decimal_eq (n : Nat) :
    decimal n = (Nat.toDigitsCore 10 (n + 1) n []).map fun c => c.toNat.toUInt8 := rfl

/-- With fuel above `n`, the digits `toDigitsCore` writes read back as `n`, and each is a
digit character. -/
theorem toDigitsCore_spec (f n : Nat) (h : n < f) :
    ofDecimal ((Nat.toDigitsCore 10 f n []).map fun c => c.toNat.toUInt8) = n ∧
      ∀ c ∈ Nat.toDigitsCore 10 f n [], ∃ d < 10, c = Nat.digitChar d := by
  induction f generalizing n with
  | zero => omega
  | succ f ih =>
    have hd : n % 10 < 10 := Nat.mod_lt _ (by decide)
    simp only [Nat.toDigitsCore]
    split
    · refine ⟨?_, fun c hc => ⟨n % 10, hd, List.mem_singleton.1 hc⟩⟩
      rw [List.map_singleton, ← List.nil_append [_], ofDecimal_append_single, toNat_digitChar _ hd]
      simp only [ofDecimal, List.foldl_nil]; omega
    · obtain ⟨hval, hmem⟩ := ih (n / 10) (by omega)
      rw [toDigitsCore_append, List.map_append, List.map_singleton, ofDecimal_append_single, hval,
        toNat_digitChar _ hd]
      refine ⟨by omega, fun c hc => ?_⟩
      rcases List.mem_append.1 hc with hc | hc
      · exact hmem c hc
      · exact ⟨n % 10, hd, List.mem_singleton.1 hc⟩

theorem ofDecimal_decimal (n : Nat) : ofDecimal (decimal n) = n :=
  (toDigitsCore_spec (n + 1) n (Nat.lt_succ_self n)).1

theorem decimal_injective : Function.Injective decimal := fun m n h => by
  rw [← ofDecimal_decimal m, h, ofDecimal_decimal]

theorem length_decimal_le {n e : Nat} (he : 0 < e) (h : n < 10 ^ e) : (decimal n).length ≤ e := by
  rw [decimal, ascii, List.length_map]
  exact Nat.repr_length n e he h

/-- Every byte of a decimal rendering is a digit, `'0'` to `'9'`. -/
theorem mem_decimal {n : Nat} {x : UInt8} (h : x ∈ decimal n) : 48 ≤ x.toNat ∧ x.toNat ≤ 57 := by
  rw [decimal_eq, List.mem_map] at h
  obtain ⟨c, hc, rfl⟩ := h
  obtain ⟨d, hd, rfl⟩ := (toDigitsCore_spec (n + 1) n (Nat.lt_succ_self n)).2 c hc
  rw [toNat_digitChar d hd]; omega

end DistributedBank
