/-
# DistributedBank.Wire.Fields — the typed body fields of `protocol.cpp`

The writers `putU16` … `putPassword16` append one field to a buffer; the readers
`getU16` … `getPassword16` read one field at a cursor, in the shape of their C++ signature
`bool get…(b, size_t& off, T& out)`: each returns a `Read` holding the result, the cursor
and the out-parameter as the function leaves them.  `getI32` and `getDouble` go through a
local `uint32_t`/`uint64_t`; `getString` reads a `u16` length and then checks the body,
so a failure of that second check leaves the cursor past the length.

`int32_t` is `Int32`, an integer carrying its range; a conversion between `uint32_t` and
`int32_t` is two's complement, as is the signed overflow of `nextAccNo_++`, which the
compilers the code targets wrap although C++ leaves it undefined.

`Read.get?` forgets a failed reader's leftovers: the server's parsers chain readers into
fresh locals and discard them on the first failure, so they are `Option` chains of `get?`.

The results:

* `readers_fail_clean`: six readers return `false` only with `off` and `out` untouched;
  `getString_fail`: the seventh keeps `out` but leaves the cursor past a length prefix it
  has read;
* `fields_round_trip`: a list of typed fields within the writers' bounds, written after any
  prefix, reads back field by field from the prefix's end, whatever follows.
-/
import DistributedBank.Double

namespace DistributedBank

set_option autoImplicit false

/-- A C++ `int32_t`. -/
structure Int32 where
  val : Int
  lo : -2 ^ 31 ≤ val
  hi : val < 2 ^ 31
  deriving DecidableEq, Repr

namespace Int32

/-- The `int32_t` congruent to `x` modulo `2 ^ 32` (two's complement). -/
def wrap (x : Int) : Int32 :=
  ⟨Int.bmod x (2 ^ 32), by have := Int.le_bmod (x := x) (m := 2 ^ 32) (by decide); omega,
    by have := Int.bmod_lt (x := x) (m := 2 ^ 32) (by decide); omega⟩

instance (n : Nat) : OfNat Int32 n := ⟨wrap n⟩

/-- `int32_t(u)` for a `uint32_t u`. -/
def ofUInt32 (u : UInt32) : Int32 := wrap u.toNat

/-- `uint32_t(v)` for an `int32_t v`. -/
def toUInt32 (v : Int32) : UInt32 := UInt32.ofNat (v.val % 2 ^ 32).toNat

theorem wrap_val (i : Int32) : wrap i.val = i := by
  obtain ⟨v, lo, hi⟩ := i
  simp only [wrap, mk.injEq]
  rw [Int.bmod_def]; split <;> omega

theorem toNat_toUInt32 (i : Int32) : (i.toUInt32.toNat : Int) = i.val % 2 ^ 32 := by
  have h0 : 0 ≤ i.val % 2 ^ 32 := Int.emod_nonneg _ (by decide)
  have h1 : i.val % 2 ^ 32 < 2 ^ 32 := Int.emod_lt_of_pos _ (by decide)
  rw [toUInt32, UInt32.toNat_ofNat_of_lt (by simp only [UInt32.size]; omega),
    Int.toNat_of_nonneg h0]

theorem val_wrap (x : Int) : (wrap x).val = Int.bmod x (2 ^ 32) := rfl

theorem val_wrap_of_lt {x : Int} (h0 : -2 ^ 31 ≤ x) (h1 : x < 2 ^ 31) : (wrap x).val = x := by
  rw [val_wrap, Int.bmod_def]; split <;> omega

/-- Two's complement only sees the residue modulo `2 ^ 32`. -/
theorem wrap_eq_of_emod {x y : Int} (h : x % 2 ^ 32 = y % 2 ^ 32) : wrap x = wrap y := by
  have h' : x % ((2 ^ 32 : Nat) : Int) = y % ((2 ^ 32 : Nat) : Int) := by exact_mod_cast h
  simp only [wrap, Int.bmod_def, h']

theorem val_wrap_emod (x : Int) : (wrap x).val % 2 ^ 32 = x % 2 ^ 32 := Int.bmod_emod

theorem wrap_val_add (x d : Int) : wrap ((wrap x).val + d) = wrap (x + d) := by
  apply wrap_eq_of_emod
  rw [Int.add_emod, val_wrap_emod, ← Int.add_emod]

theorem ofUInt32_toUInt32 (i : Int32) : ofUInt32 i.toUInt32 = i := by
  obtain ⟨v, lo, hi⟩ := i
  simp only [ofUInt32, wrap, toNat_toUInt32, mk.injEq]
  rw [Int.bmod_def]; split <;> omega

end Int32

/-! ## Writers -/

/-- `putU16`. -/
def putU16 (b : Bytes) (v : UInt16) : Bytes := b ++ putBE16 v

/-- `putU32`. -/
def putU32 (b : Bytes) (v : UInt32) : Bytes := b ++ putBE32 v

/-- `putU64`. -/
def putU64 (b : Bytes) (v : UInt64) : Bytes := b ++ putBE64 v

/-- `putI32`: the `uint32_t` of the same bits. -/
def putI32 (b : Bytes) (v : Int32) : Bytes := putU32 b v.toUInt32

/-- `putDouble`: the `double`'s eight bytes, `memcpy`d into a `uint64_t`. -/
def putDouble (b : Bytes) (v : Double) : Bytes := putU64 b v.bits

/-- `putString`: a `u16` length then the bytes; a string over 65 535 bytes writes nothing. -/
def putString (b : Bytes) (s : Bytes) : Bytes :=
  if s.length > 65535 then b else putU16 b (UInt16.ofNat s.length) ++ s

/-- `putPassword16`: the first sixteen bytes, zero-padded to sixteen. -/
def putPassword16 (b : Bytes) (s : Bytes) : Bytes :=
  b ++ (s.take 16 ++ List.replicate (16 - (s.take 16).length) 0)

theorem putU16_eq_append (b : Bytes) (v : UInt16) : putU16 b v = b ++ putU16 [] v := rfl

theorem putI32_eq_append (b : Bytes) (v : Int32) : putI32 b v = b ++ putI32 [] v := rfl

theorem putDouble_eq_append (b : Bytes) (v : Double) : putDouble b v = b ++ putDouble [] v := by
  rw [putDouble, putDouble, putU64, putU64, List.nil_append]

theorem putPassword16_eq_append (b s : Bytes) : putPassword16 b s = b ++ putPassword16 [] s := rfl

theorem putString_eq_append (b s : Bytes) : putString b s = b ++ putString [] s := by
  unfold putString putU16; split <;> simp

/-! ## Readers -/

/-- `getU16`. -/
def getU16 (b : Bytes) (off : Nat) (out : UInt16) : Read UInt16 := getBE16 b off out

/-- `getU32`. -/
def getU32 (b : Bytes) (off : Nat) (out : UInt32) : Read UInt32 := getBE32 b off out

/-- `getU64`. -/
def getU64 (b : Bytes) (off : Nat) (out : UInt64) : Read UInt64 := getBE64 b off out

/-- `getI32`: a `uint32_t` read into a local, then converted. -/
def getI32 (b : Bytes) (off : Nat) (out : Int32) : Read Int32 :=
  let u := getU32 b off 0
  if !u.ok then ⟨false, u.off, out⟩ else ⟨true, u.off, Int32.ofUInt32 u.out⟩

/-- `getDouble`: a `uint64_t` read into a local, then `memcpy`d. -/
def getDouble (b : Bytes) (off : Nat) (out : Double) : Read Double :=
  let bits := getU64 b off 0
  if !bits.ok then ⟨false, bits.off, out⟩ else ⟨true, bits.off, ⟨bits.out⟩⟩

/-- `getString`: a `u16` length, then that many bytes if they are there. -/
def getString (b : Bytes) (off : Nat) (out : Bytes) : Read Bytes :=
  let len := getU16 b off 0
  if !len.ok then ⟨false, len.off, out⟩
  else if len.off + len.out.toNat > b.length then ⟨false, len.off, out⟩
  else ⟨true, len.off + len.out.toNat, (b.drop len.off).take len.out.toNat⟩

/-- The `while (n > 0 && p[n - 1] == 0) n--` loop: the bytes without their trailing zeros. -/
def trimZeros (p : Bytes) : Bytes := (p.reverse.dropWhile (· == 0)).reverse

/-- `getPassword16`: sixteen bytes, trailing zeros stripped. -/
def getPassword16 (b : Bytes) (off : Nat) (out : Bytes) : Read Bytes :=
  if off + 16 > b.length then ⟨false, off, out⟩
  else ⟨true, off + 16, trimZeros ((b.drop off).take 16)⟩

/-- A reader's value and cursor when it succeeds. -/
def Read.get? {α : Type} (r : Read α) : Option (α × Nat) := if r.ok then some (r.out, r.off) else none

/-! ## Fixed-width round trips -/

@[simp] theorem UInt16.ofNat_toNat_mod (v : UInt16) : UInt16.ofNat (v.toNat % 65536) = v := by
  apply UInt16.toNat.inj
  have := v.toNat_lt_size
  simp only [UInt16.toNat, UInt16.ofNat, UInt16.size] at this ⊢
  simp [Nat.mod_eq_of_lt this]

@[simp] theorem UInt32.ofNat_toNat_mod (v : UInt32) : UInt32.ofNat (v.toNat % 4294967296) = v := by
  apply UInt32.toNat.inj
  have := v.toNat_lt_size
  simp only [UInt32.toNat, UInt32.ofNat, UInt32.size] at this ⊢
  simp [Nat.mod_eq_of_lt this]

@[simp] theorem UInt64.ofNat_toNat_mod (v : UInt64) : UInt64.ofNat (v.toNat % 18446744073709551616) = v := by
  apply UInt64.toNat.inj
  have := v.toNat_lt_size
  simp only [UInt64.toNat, UInt64.ofNat, UInt64.size] at this ⊢
  simp [Nat.mod_eq_of_lt this]

theorem putBE16_ofNat (n : Nat) : putBE16 (UInt16.ofNat n) = putBE 2 n := by
  rw [putBE16, ← putBE_mod 2 n]; congr 1

theorem putBE32_ofNat (n : Nat) : putBE32 (UInt32.ofNat n) = putBE 4 n := by
  rw [putBE32, ← putBE_mod 4 n]; congr 1

theorem putBE64_ofNat (n : Nat) : putBE64 (UInt64.ofNat n) = putBE 8 n := by
  rw [putBE64, ← putBE_mod 8 n]; congr 1

theorem getU16_append (pre post : Bytes) (v out : UInt16) :
    getU16 (pre ++ putBE16 v ++ post) pre.length out = ⟨true, pre.length + 2, v⟩ := by
  rw [getU16, getBE16, putBE16, getBE_append]
  simp

theorem getU32_append (pre post : Bytes) (v out : UInt32) :
    getU32 (pre ++ putBE32 v ++ post) pre.length out = ⟨true, pre.length + 4, v⟩ := by
  rw [getU32, getBE32, putBE32, getBE_append]
  simp

theorem getU64_append (pre post : Bytes) (v out : UInt64) :
    getU64 (pre ++ putBE64 v ++ post) pre.length out = ⟨true, pre.length + 8, v⟩ := by
  rw [getU64, getBE64, putBE64, getBE_append]
  simp

/-! ## Failed reads -/

/-- A read that returns `false` leaves the cursor at `off` and the out-parameter at `out`. -/
def Read.Clean {α : Type} (r : Read α) (off : Nat) (out : α) : Prop :=
  r.ok = false → r.off = off ∧ r.out = out

theorem getBE_clean {α : Type} (k : Nat) (conv : Nat → α) (b : Bytes) (off : Nat) (out : α) :
    (getBE k conv b off out).Clean off out := fun h => by rw [getBE_fail h]; exact ⟨rfl, rfl⟩

/-- The six readers other than `getString` fail without a write: each returns `false` only
with the cursor and the out-parameter as they were. -/
theorem readers_fail_clean (b : Bytes) (off : Nat) :
    (∀ out, (getU16 b off out).Clean off out) ∧ (∀ out, (getU32 b off out).Clean off out) ∧
      (∀ out, (getU64 b off out).Clean off out) ∧ (∀ out, (getI32 b off out).Clean off out) ∧
      (∀ out, (getDouble b off out).Clean off out) ∧
      (∀ out, (getPassword16 b off out).Clean off out) := by
  refine ⟨getBE_clean _ _ b off, getBE_clean _ _ b off, getBE_clean _ _ b off, fun out => ?_,
    fun out => ?_, fun out => ?_⟩ <;>
  · dsimp only [getI32, getDouble, getPassword16, getU32, getU64, getBE32, getBE64, getBE]
    split <;> simp [Read.Clean]

/-- `getString` keeps `out` when it fails, but once its length prefix is read the cursor
stays past the prefix: the second bounds check returns `false` with `off` moved by two. -/
theorem getString_fail (b : Bytes) (off : Nat) (out : Bytes)
    (h : (getString b off out).ok = false) :
    (getString b off out).out = out ∧
      (getString b off out).off = if off + 2 ≤ b.length then off + 2 else off := by
  unfold getString at h ⊢
  by_cases hl : off + 2 ≤ b.length
  · rw [getU16, getBE16, getBE_of_le _ hl] at h ⊢
    simp only [Bool.not_true, if_false, if_true, hl] at h ⊢
    generalize (UInt16.ofNat (beValue (window b off 2))).toNat = n at h ⊢
    by_cases h2 : b.length < off + 2 + n <;> simp [h2] at h ⊢
  · rw [getU16, getBE16, getBE_of_lt _ (by omega)] at h ⊢
    simp [hl]

/-- A string prefix that announces five bytes and stands at the end of the buffer. -/
theorem getString_fail_moves_cursor : getString [0, 5] 0 [7] = ⟨false, 2, [7]⟩ := by decide

/-! ## Field lists

A request or reply body is a list of typed fields written one after the other and read back
in the same order.  `putFields` appends a list with the writers; `getFields` reads a list of
kinds with the matching readers, threading the cursor and stopping at the first failure. -/

/-- The seven kinds of body field. -/
inductive FieldKind
  | u16 | u32 | u64 | i32 | double | string | password16
  deriving DecidableEq, Repr

/-- A body field and its value. -/
inductive Field
  | u16 (v : UInt16)
  | u32 (v : UInt32)
  | u64 (v : UInt64)
  | i32 (v : Int32)
  | double (v : Double)
  | string (s : Bytes)
  | password16 (s : Bytes)
  deriving DecidableEq, Repr

namespace Field

/-- The kind of a field. -/
def kind : Field → FieldKind
  | u16 _ => .u16
  | u32 _ => .u32
  | u64 _ => .u64
  | i32 _ => .i32
  | double _ => .double
  | string _ => .string
  | password16 _ => .password16

/-- Append a field with the writer of its kind. -/
def put (b : Bytes) : Field → Bytes
  | u16 v => putU16 b v
  | u32 v => putU32 b v
  | u64 v => putU64 b v
  | i32 v => putI32 b v
  | double v => putDouble b v
  | string s => putString b s
  | password16 s => putPassword16 b s

/-- What the writers need to write a field whole: a string of at most 65 535 bytes, and a
password of at most 16 bytes whose last byte is not zero (the reader strips trailing zeros). -/
def Fits : Field → Prop
  | string s => s.length ≤ 65535
  | password16 s => s.length ≤ 16 ∧ s.getLast? ≠ some 0
  | _ => True

instance : DecidablePred Fits := fun f =>
  match f with
  | string s => inferInstanceAs (Decidable (s.length ≤ 65535))
  | password16 s => inferInstanceAs (Decidable (s.length ≤ 16 ∧ s.getLast? ≠ some 0))
  | u16 _ | u32 _ | u64 _ | i32 _ | double _ => isTrue trivial

end Field

/-- Read one field of kind `k` at `off` with the matching reader. -/
def readField (b : Bytes) (off : Nat) : FieldKind → Option (Field × Nat)
  | .u16 => (getU16 b off 0).get?.map (Prod.map .u16 id)
  | .u32 => (getU32 b off 0).get?.map (Prod.map .u32 id)
  | .u64 => (getU64 b off 0).get?.map (Prod.map .u64 id)
  | .i32 => (getI32 b off 0).get?.map (Prod.map .i32 id)
  | .double => (getDouble b off Double.zero).get?.map (Prod.map .double id)
  | .string => (getString b off []).get?.map (Prod.map .string id)
  | .password16 => (getPassword16 b off []).get?.map (Prod.map .password16 id)

/-- Append the fields in order. -/
def putFields (b : Bytes) (fs : List Field) : Bytes := fs.foldl Field.put b

/-- Read fields of the kinds `ks` in order from `off`: the fields and the final cursor, or
`none` at the first failed read. -/
def getFields (b : Bytes) : List FieldKind → Nat → Option (List Field × Nat)
  | [], off => some ([], off)
  | k :: ks, off => (readField b off k).bind fun (f, off) =>
      (getFields b ks off).map fun (fs, off) => (f :: fs, off)

/-- Every writer appends to the buffer it is given. -/
theorem Field.put_eq_append (f : Field) (b : Bytes) : f.put b = b ++ f.put [] := by
  cases f with
  | string s => exact putString_eq_append b s
  | _ => simp [put, putU16, putU32, putU64, putI32, putDouble, putPassword16]

theorem putFields_eq_append (fs : List Field) (b : Bytes) : putFields b fs = b ++ putFields [] fs := by
  induction fs generalizing b with
  | nil => simp [putFields]
  | cons f fs ih =>
    simp only [putFields, List.foldl_cons] at ih ⊢
    rw [ih, ih (f.put []), f.put_eq_append, List.append_assoc]

/-- Zero padding after a password is stripped with its own trailing zeros. -/
theorem trimZeros_append_replicate_zero (s : Bytes) (n : Nat) :
    trimZeros (s ++ List.replicate n 0) = trimZeros s := by
  have hpad : ∀ l : Bytes, (List.replicate n 0 ++ l).dropWhile (· == 0) = l.dropWhile (· == 0) := by
    intro l; induction n with
    | zero => rfl
    | succ n ih => simp [List.replicate_succ, ih]
  rw [trimZeros, trimZeros, List.reverse_append, List.reverse_replicate, hpad]

/-- A password whose last byte is not zero has nothing to strip. -/
theorem trimZeros_of_getLast {s : Bytes} (h : s.getLast? ≠ some 0) : trimZeros s = s := by
  have hkeep : s.reverse.dropWhile (· == 0) = s.reverse := by
    rw [← List.head?_reverse] at h
    cases hs : s.reverse with
    | nil => rfl
    | cons a l =>
      rw [hs, List.head?_cons, ne_eq, Option.some.injEq] at h
      simp [List.dropWhile_cons, h]
  rw [trimZeros, hkeep, List.reverse_reverse]

/-- Dropping the zero padding after a password whose last byte is not zero gives it back. -/
theorem trimZeros_append_replicate (s : Bytes) (n : Nat) (h : s.getLast? ≠ some 0) :
    trimZeros (s ++ List.replicate n 0) = s := by
  rw [trimZeros_append_replicate_zero, trimZeros_of_getLast h]

theorem getPassword16_append (pre p post : Bytes) (hp : p.length = 16) (out : Bytes) :
    getPassword16 (pre ++ p ++ post) pre.length out = ⟨true, pre.length + 16, trimZeros p⟩ := by
  have hdrop : (pre ++ p ++ post).drop pre.length = p ++ post := by
    rw [List.append_assoc, List.drop_left]
  simp [getPassword16, hdrop, List.take_left' hp, hp]

/-- One field, written after any prefix and read back at the prefix's end, whatever follows. -/
theorem readField_put (f : Field) (hf : f.Fits) (pre post : Bytes) :
    readField (f.put pre ++ post) pre.length f.kind = some (f, (f.put pre).length) := by
  cases f with
  | u16 v => rw [Field.put, putU16, Field.kind, readField, getU16_append]; simp [Read.get?, putBE16]
  | u32 v => rw [Field.put, putU32, Field.kind, readField, getU32_append]; simp [Read.get?, putBE32]
  | u64 v => rw [Field.put, putU64, Field.kind, readField, getU64_append]; simp [Read.get?, putBE64]
  | i32 v =>
    rw [Field.put, putI32, putU32, Field.kind, readField, getI32, getU32_append]
    simp [Read.get?, putBE32, Int32.ofUInt32_toUInt32]
  | double v =>
    rw [Field.put, putDouble, putU64, Field.kind, readField, getDouble, getU64_append]
    simp [Read.get?, putBE64]
  | string s =>
    have hs : ¬s.length > 65535 := Nat.not_lt.2 hf
    have hlen : (UInt16.ofNat s.length).toNat = s.length :=
      UInt16.toNat_ofNat_of_lt (by simp only [UInt16.size]; omega)
    have hbuf : Field.put pre (.string s) ++ post =
        pre ++ putBE16 (UInt16.ofNat s.length) ++ (s ++ post) := by
      simp only [Field.put, putString, putU16, hs, if_false, List.append_assoc]
    rw [hbuf, Field.kind, readField, getString, getU16_append]
    simp [Read.get?, Field.put, putString, putU16, hs, hlen, putBE16, Nat.add_assoc]
  | password16 s =>
    obtain ⟨hs, hlast⟩ := hf
    have hpad : (s ++ List.replicate (16 - s.length) 0).length = 16 := by simp; omega
    rw [Field.put, putPassword16, List.take_of_length_le hs, Field.kind, readField,
      getPassword16_append _ _ _ hpad, trimZeros_append_replicate s _ hlast]
    simp [Read.get?, hpad]

/-- Typed fields written after any prefix, each a string of at most 65 535 bytes or a password
of at most 16 bytes with no trailing zero byte where it is one, keep the prefix and read back
from its end in the same order: every read succeeds, returns its field, and the cursor ends
at the end of the encoding, whatever bytes follow. -/
theorem fields_round_trip (fs : List Field) (hfit : ∀ f ∈ fs, f.Fits) (pre post : Bytes) :
    pre <+: putFields pre fs ∧
      getFields (putFields pre fs ++ post) (fs.map Field.kind) pre.length =
        some (fs, (putFields pre fs).length) := by
  refine ⟨⟨_, (putFields_eq_append fs pre).symm⟩, ?_⟩
  induction fs generalizing pre with
  | nil => rfl
  | cons f fs ih =>
    have hmid : putFields (f.put pre) fs ++ post = f.put pre ++ (putFields [] fs ++ post) := by
      rw [putFields_eq_append, List.append_assoc]
    have hhead := readField_put f (hfit f (.head _)) pre (putFields [] fs ++ post)
    have htail := ih (fun g hg => hfit g (.tail _ hg)) (f.put pre)
    show getFields (putFields (f.put pre) fs ++ post) (f.kind :: fs.map Field.kind) pre.length =
      some (f :: fs, (putFields (f.put pre) fs).length)
    rw [getFields, hmid, hhead, Option.some_bind, ← hmid]
    dsimp only
    rw [htail]
    rfl

/-- An OPEN request body: name, password, currency, and the initial balance `1.0`. -/
theorem fields_round_trip_open_body :
    let fs := [Field.string [97, 98], .password16 [112, 119], .u16 1, .double ⟨0x3FF0000000000000⟩]
    (∀ f ∈ fs, f.Fits) ∧ [] <+: putFields [] fs ∧
      getFields (putFields [] fs ++ [0]) (fs.map Field.kind) 0 = some (fs, (putFields [] fs).length) :=
  ⟨by decide, fields_round_trip _ (by decide) [] [0]⟩


/-! ## Reading at a cursor

A reader looks only at the bytes from its cursor on.  Each lemma below reads a field at a
cursor where `b.drop off` starts with the field's encoding, and gives the cursor after it,
where the rest starts. -/

theorem drop_zero_append_nil (b : Bytes) : b.drop 0 = b ++ [] := by simp

theorem drop_add_of_drop {b x post : Bytes} {off : Nat} (h : b.drop off = x ++ post) :
    b.drop (off + x.length) = post := by
  rw [← List.drop_drop, h, List.drop_left]

theorem getBE_of_drop {α : Type} {k : Nat} {conv : Nat → α} {b x post : Bytes} {off : Nat}
    (h : b.drop off = x ++ post) (hx : x.length = k) (hk : 0 < k) (out : α) :
    getBE k conv b off out = ⟨true, off + k, conv (beValue x)⟩ := by
  have hlen : off + k ≤ b.length := by
    have := congrArg List.length h
    simp only [List.length_drop, List.length_append] at this
    omega
  rw [getBE_of_le out hlen, window, h, List.take_left' hx]

/-- The `k`-byte word `putBE k v` at the cursor reads back through `getBE`. -/
theorem getBE_get?_of_drop {α : Type} {k : Nat} {conv : Nat → α} {b post : Bytes} {off v : Nat}
    (h : b.drop off = putBE k v ++ post) (hk : 0 < k) (out : α) :
    (getBE k conv b off out).get? = some (conv (v % 256 ^ k), off + k) ∧ b.drop (off + k) = post := by
  have hd := drop_add_of_drop h
  rw [length_putBE] at hd
  rw [getBE_of_drop h (length_putBE k v) hk, beValue_putBE]
  exact ⟨rfl, hd⟩

theorem getU16_get?_of_drop {b post : Bytes} {off : Nat} {v : UInt16}
    (h : b.drop off = putU16 [] v ++ post) (out : UInt16) :
    ∃ off', (getU16 b off out).get? = some (v, off') ∧ b.drop off' = post := by
  obtain ⟨hr, hd⟩ := @getBE_get?_of_drop _ _ UInt16.ofNat _ _ _ _ h (by decide) out
  exact ⟨_, by simp only [getU16, getBE16, hr, Nat.reducePow, UInt16.ofNat_toNat_mod], hd⟩

theorem getU32_get?_of_drop {b post : Bytes} {off : Nat} {v : UInt32}
    (h : b.drop off = putU32 [] v ++ post) (out : UInt32) :
    ∃ off', (getU32 b off out).get? = some (v, off') ∧ b.drop off' = post := by
  obtain ⟨hr, hd⟩ := @getBE_get?_of_drop _ _ UInt32.ofNat _ _ _ _ h (by decide) out
  exact ⟨_, by simp only [getU32, getBE32, hr, Nat.reducePow, UInt32.ofNat_toNat_mod], hd⟩

theorem getU64_get?_of_drop {b post : Bytes} {off : Nat} {v : UInt64}
    (h : b.drop off = putU64 [] v ++ post) (out : UInt64) :
    ∃ off', (getU64 b off out).get? = some (v, off') ∧ b.drop off' = post := by
  obtain ⟨hr, hd⟩ := @getBE_get?_of_drop _ _ UInt64.ofNat _ _ _ _ h (by decide) out
  exact ⟨_, by simp only [getU64, getBE64, hr, Nat.reducePow, UInt64.ofNat_toNat_mod], hd⟩

theorem getI32_get?_of_drop {b post : Bytes} {off : Nat} {v : Int32}
    (h : b.drop off = putI32 [] v ++ post) (out : Int32) :
    ∃ off', (getI32 b off out).get? = some (v, off') ∧ b.drop off' = post := by
  simp only [putI32, putU32, List.nil_append, putBE32] at h
  have hu : getU32 b off 0 = ⟨true, off + 4, v.toUInt32⟩ := by
    rw [getU32, getBE32, getBE_of_drop h (length_putBE 4 _) (by decide), beValue_putBE]; simp
  have hd := drop_add_of_drop h
  rw [length_putBE] at hd
  exact ⟨off + 4, by simp [getI32, hu, Read.get?, Int32.ofUInt32_toUInt32], hd⟩

theorem getDouble_get?_of_drop {b post : Bytes} {off : Nat} {v : Double}
    (h : b.drop off = putDouble [] v ++ post) (out : Double) :
    ∃ off', (getDouble b off out).get? = some (v, off') ∧ b.drop off' = post := by
  simp only [putDouble, putU64, List.nil_append, putBE64] at h
  have hu : getU64 b off 0 = ⟨true, off + 8, v.bits⟩ := by
    rw [getU64, getBE64, getBE_of_drop h (length_putBE 8 _) (by decide), beValue_putBE]; simp
  have hd := drop_add_of_drop h
  rw [length_putBE] at hd
  exact ⟨off + 8, by simp [getDouble, hu, Read.get?], hd⟩

theorem getString_get?_of_drop {b s post : Bytes} {off : Nat} (hs : s.length ≤ 65535)
    (h : b.drop off = putString [] s ++ post) (out : Bytes) :
    ∃ off', (getString b off out).get? = some (s, off') ∧ b.drop off' = post := by
  have hput : putString [] s = putBE16 (UInt16.ofNat s.length) ++ s := by
    simp [putString, putU16, Nat.not_lt.2 hs]
  have hlen : (UInt16.ofNat s.length).toNat = s.length :=
    UInt16.toNat_ofNat_of_lt (by simp only [UInt16.size]; omega)
  rw [hput, List.append_assoc] at h
  have hl : getU16 b off 0 = ⟨true, off + 2, UInt16.ofNat s.length⟩ := by
    rw [getU16, getBE16, getBE_of_drop h (length_putBE 2 _) (by decide), putBE16, beValue_putBE]
    simp
  have hrest := drop_add_of_drop h
  simp only [putBE16, length_putBE] at hrest
  have htotal : b.length ≥ off + 2 + s.length := by
    have := congrArg List.length h
    simp only [List.length_drop, List.length_append, putBE16, length_putBE] at this
    omega
  have hbody : (b.drop (off + 2)).take s.length = s := by rw [hrest, List.take_left]
  refine ⟨off + 2 + s.length, ?_, ?_⟩
  · simp [getString, hl, hlen, Read.get?, Nat.not_lt.2 htotal, hbody]
  · rw [← List.drop_drop, hrest, List.drop_left]

theorem getPassword16_get?_of_drop {b p post : Bytes} {off : Nat}
    (h : b.drop off = putPassword16 [] p ++ post) (out : Bytes) :
    ∃ off', (getPassword16 b off out).get? = some (trimZeros (p.take 16), off') ∧ b.drop off' = post := by
  have hpad : (putPassword16 [] p).length = 16 := by simp [putPassword16]
  have hlen : off + 16 ≤ b.length := by
    have := congrArg List.length h
    simp only [List.length_drop, List.length_append, hpad] at this
    omega
  have hd := drop_add_of_drop h
  rw [hpad] at hd
  refine ⟨off + 16, ?_, hd⟩
  have htrim : trimZeros (putPassword16 [] p) = trimZeros (p.take 16) := by
    rw [putPassword16, List.nil_append, trimZeros_append_replicate_zero]
  simp [getPassword16, Read.get?, Nat.not_lt.2 hlen, h, List.take_left' hpad, htrim]

/-- A string `getString` reads from `b` is no longer than `b`. -/
theorem length_le_of_getString {b : Bytes} {off : Nat} {out s : Bytes} {off' : Nat}
    (h : (getString b off out).get? = some (s, off')) : s.length ≤ b.length := by
  simp only [Read.get?] at h
  split_ifs at h with hok
  obtain ⟨rfl, -⟩ := Prod.mk.inj (Option.some.inj h)
  simp only [getString] at hok ⊢
  split_ifs at hok ⊢
  exact (List.length_take_le' _ _).trans (by simp)

/-! ## Where a successful read leaves the cursor -/

/-- A big-endian read that succeeds advances the cursor by its width, inside the buffer. -/
theorem getBE_get?_eq_some {α : Type} {k : Nat} {conv : Nat → α} {b : Bytes} {off off' : Nat}
    {out v : α} (h : (getBE k conv b off out).get? = some (v, off')) :
    off' = off + k ∧ off' ≤ b.length := by
  by_cases hk : off + k ≤ b.length
  · rw [getBE_of_le out hk] at h
    simp only [Read.get?, if_true, Option.some.injEq, Prod.mk.injEq] at h
    exact ⟨h.2.symm, h.2 ▸ hk⟩
  · rw [getBE_of_lt out (by omega)] at h
    cases h

theorem getDouble_get?_eq_some {b : Bytes} {off off' : Nat} {out v : Double}
    (h : (getDouble b off out).get? = some (v, off')) : off' = off + 8 ∧ off' ≤ b.length := by
  by_cases hk : off + 8 ≤ b.length
  · have hu : getU64 b off 0 = ⟨true, off + 8, _⟩ := getBE_of_le (0 : UInt64) hk
    simp only [getDouble, hu, Bool.not_true, Bool.false_eq_true, if_false, Read.get?, if_true,
      Option.some.injEq, Prod.mk.injEq] at h
    exact ⟨h.2.symm, h.2 ▸ hk⟩
  · have hu : getU64 b off 0 = ⟨false, off, 0⟩ := getBE_of_lt (0 : UInt64) (Nat.lt_of_not_le hk)
    simp [getDouble, hu, Read.get?] at h

theorem getString_get?_eq_some {b : Bytes} {off off' : Nat} {out s : Bytes}
    (h : (getString b off out).get? = some (s, off')) :
    off' = off + 2 + s.length ∧ off' ≤ b.length := by
  by_cases hk : off + 2 ≤ b.length
  · have hu : getU16 b off 0 = ⟨true, off + 2, _⟩ := getBE_of_le (0 : UInt16) hk
    simp only [getString, hu, Bool.not_true, Bool.false_eq_true, if_false] at h
    split_ifs at h with hn
    · simp [Read.get?] at h
    · simp only [Read.get?, if_true, Option.some.injEq, Prod.mk.injEq] at h
      obtain ⟨rfl, rfl⟩ := h
      rw [List.length_take, List.length_drop]
      omega
  · have hu : getU16 b off 0 = ⟨false, off, 0⟩ := getBE_of_lt (0 : UInt16) (Nat.lt_of_not_le hk)
    simp [getString, hu, Read.get?] at h

theorem getPassword16_get?_eq_some {b : Bytes} {off off' : Nat} {out p : Bytes}
    (h : (getPassword16 b off out).get? = some (p, off')) : off' = off + 16 ∧ off' ≤ b.length := by
  by_cases hk : off + 16 ≤ b.length
  · simp only [getPassword16, gt_iff_lt, Nat.not_lt.2 hk, if_false, Read.get?, if_true,
      Option.some.injEq, Prod.mk.injEq] at h
    exact ⟨h.2.symm, h.2 ▸ hk⟩
  · simp [getPassword16, Nat.lt_of_not_le hk, Read.get?] at h

end DistributedBank
