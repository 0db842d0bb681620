/-
# DistributedBank.Wire.Message — the 24-byte header, `encode` and `decode`

`encode` writes the eight header fields big-endian and then the body.  `decode` is the
C++ function with its out-parameter: it writes `out.h.magic`, checks it, writes the
version and type bytes, and so on, returning at the first failure with whatever it has
written so far; only a complete success assigns the body.

`headerOf raw` is the header that the first 24 bytes of `raw` spell, and

* `decode_ok_iff`: `decode` succeeds exactly on buffers of at least 24 bytes that carry the
  magic number and at least `bodyLen` body bytes;
* `decode_of_ok`: on success it leaves `headerOf raw` and the declared body, whatever the
  out-parameter held before;
* `encode_eq`, `headerOf_headerBytes`: the first 24 bytes of `encode m` spell `m.h`, so
  `decode (encode m)` returns `m` when the magic and `bodyLen` are right;
* `headerBytes_headerOf`: re-encoding what `decode` accepted gives back the bytes it read;
* `decodeSized_eq_decode`: with a `size_t` of 33 bits or more `decode` is the function above,
  while `decode_wraps_on_32_bit`: on a 32-bit build its body check wraps and it accepts a
  header whose declared body lies far past the buffer.
-/
import DistributedBank.Wire.Fields

namespace DistributedBank

set_option autoImplicit false

/-! ## Protocol constants -/

/-- `MAGIC`, the bytes "BANK". -/
def MAGIC : UInt32 := 0x42414E4B

/-- `VERSION`. -/
def VERSION : UInt8 := 1

/-- `FLAG_AT_MOST_ONCE`. -/
def FLAG_AT_MOST_ONCE : UInt16 := 0x0001

/-- `HEADER_SIZE`. -/
def HEADER_SIZE : Nat := 24

/-- `enum class MsgType : uint8_t`. -/
inductive MsgType
  | Request
  | Reply
  | Callback
  deriving DecidableEq, Repr

/-- The enumerator's `uint8_t`. -/
def MsgType.val : MsgType → UInt8
  | .Request => 1
  | .Reply => 2
  | .Callback => 3

/-- `enum class OpCode : uint16_t`. -/
inductive OpCode
  | OPEN
  | CLOSE
  | DEPOSIT
  | WITHDRAW
  | MONITOR_REGISTER
  | QUERY_BALANCE
  | TRANSFER
  | CALLBACK_UPDATE
  deriving DecidableEq, Repr

/-- The enumerator's `uint16_t`. -/
def OpCode.val : OpCode → UInt16
  | .OPEN => 1
  | .CLOSE => 2
  | .DEPOSIT => 3
  | .WITHDRAW => 4
  | .MONITOR_REGISTER => 5
  | .QUERY_BALANCE => 6
  | .TRANSFER => 7
  | .CALLBACK_UPDATE => 100

/-- `enum class Status : uint16_t`. -/
inductive Status
  | OK
  | ERR_BAD_REQUEST
  | ERR_AUTH
  | ERR_NOT_FOUND
  | ERR_CURRENCY
  | ERR_INSUFFICIENT_FUNDS
  | ERR_PASSWORD_FORMAT
  deriving DecidableEq, Repr

/-- The enumerator's `uint16_t`. -/
def Status.val : Status → UInt16
  | .OK => 0
  | .ERR_BAD_REQUEST => 1
  | .ERR_AUTH => 2
  | .ERR_NOT_FOUND => 3
  | .ERR_CURRENCY => 4
  | .ERR_INSUFFICIENT_FUNDS => 5
  | .ERR_PASSWORD_FORMAT => 6

/-! ## Messages -/

/-- `struct Header`; a `Header h{}` is all zeros, the `Inhabited` default. -/
structure Header where
  magic : UInt32
  version : UInt8
  msgType : UInt8
  opCode : UInt16
  flags : UInt16
  status : UInt16
  requestId : UInt64
  bodyLen : UInt32
  deriving DecidableEq, Repr, Inhabited

/-- `struct Message`. -/
structure Message where
  h : Header
  body : Bytes
  deriving DecidableEq, Repr, Inhabited

/-- `encode`. -/
def encode (m : Message) : Bytes :=
  let out := putU32 [] m.h.magic
  let out := out ++ [m.h.version]
  let out := out ++ [m.h.msgType]
  let out := putU16 out m.h.opCode
  let out := putU16 out m.h.flags
  let out := putU16 out m.h.status
  let out := putU64 out m.h.requestId
  let out := putU32 out m.h.bodyLen
  out ++ m.body

/-- `decode`, writing into the out-parameter field by field and returning at the first
failure. -/
def decode (raw : Bytes) (out : Message) : Bool × Message :=
  match getU32 raw 0 out.h.magic with
  | ⟨false, _, v⟩ => (false, { out with h.magic := v })
  | ⟨true, off, v⟩ =>
  let out := { out with h.magic := v }
  if out.h.magic != MAGIC then (false, out) else
  if off + 2 > raw.length then (false, out) else
  let out := { out with h.version := raw.getD off 0, h.msgType := raw.getD (off + 1) 0 }
  match getU16 raw (off + 2) out.h.opCode with
  | ⟨false, _, v⟩ => (false, { out with h.opCode := v })
  | ⟨true, off, v⟩ =>
  let out := { out with h.opCode := v }
  match getU16 raw off out.h.flags with
  | ⟨false, _, v⟩ => (false, { out with h.flags := v })
  | ⟨true, off, v⟩ =>
  let out := { out with h.flags := v }
  match getU16 raw off out.h.status with
  | ⟨false, _, v⟩ => (false, { out with h.status := v })
  | ⟨true, off, v⟩ =>
  let out := { out with h.status := v }
  match getU64 raw off out.h.requestId with
  | ⟨false, _, v⟩ => (false, { out with h.requestId := v })
  | ⟨true, off, v⟩ =>
  let out := { out with h.requestId := v }
  match getU32 raw off out.h.bodyLen with
  | ⟨false, _, v⟩ => (false, { out with h.bodyLen := v })
  | ⟨true, off, v⟩ =>
  let out := { out with h.bodyLen := v }
  if off + out.h.bodyLen.toNat > raw.length then (false, out) else
  (true, { out with body := (raw.drop off).take out.h.bodyLen.toNat })

/-! ## What `decode` accepts -/

/-- The header the first 24 bytes of `raw` spell. -/
def headerOf (raw : Bytes) : Header where
  magic := UInt32.ofNat (beValue (window raw 0 4))
  version := raw.getD 4 0
  msgType := raw.getD 5 0
  opCode := UInt16.ofNat (beValue (window raw 6 2))
  flags := UInt16.ofNat (beValue (window raw 8 2))
  status := UInt16.ofNat (beValue (window raw 10 2))
  requestId := UInt64.ofNat (beValue (window raw 12 8))
  bodyLen := UInt32.ofNat (beValue (window raw 20 4))

/-- The buffers `decode` accepts: a whole header, the magic number, the declared body. -/
def Accepts (raw : Bytes) : Prop :=
  24 ≤ raw.length ∧ (headerOf raw).magic = MAGIC ∧ 24 + (headerOf raw).bodyLen.toNat ≤ raw.length

instance : DecidablePred Accepts := fun _ => inferInstanceAs (Decidable (_ ∧ _))

/-- The message `decode` leaves on a buffer it accepts. -/
def decoded (raw : Bytes) : Message := ⟨headerOf raw, window raw 24 (headerOf raw).bodyLen.toNat⟩

/-- A buffer shorter than the header fails at one of the header reads. -/
theorem decode_short {raw : Bytes} (h : raw.length < 24) (out : Message) :
    (decode raw out).1 = false := by
  have : raw.length < 4 ∨ (4 ≤ raw.length ∧ raw.length < 6) ∨ (6 ≤ raw.length ∧ raw.length < 8) ∨
      (8 ≤ raw.length ∧ raw.length < 10) ∨ (10 ≤ raw.length ∧ raw.length < 12) ∨
      (12 ≤ raw.length ∧ raw.length < 20) ∨ 20 ≤ raw.length := by
    omega
  rcases this with h | h | h | h | h | h | h <;>
    simp (disch := omega) only [decode, getU32, getU16, getU64, getBE32, getBE16, getBE64,
      getBE_of_le, getBE_of_lt, if_pos, if_neg] <;> split_ifs <;> rfl

/-- On a whole header every read succeeds; what is left is the magic and body checks. -/
theorem decode_long {raw : Bytes} (h : 24 ≤ raw.length) (out : Message) :
    decode raw out =
      if (headerOf raw).magic ≠ MAGIC then (false, { out with h.magic := (headerOf raw).magic })
      else if 24 + (headerOf raw).bodyLen.toNat > raw.length then (false, { out with h := headerOf raw })
      else (true, decoded raw) := by
  simp (disch := omega) only [decode, getU32, getU16, getU64, getBE32, getBE16, getBE64,
    getBE_of_le, decoded, headerOf, window, if_pos, if_neg]
  split_ifs <;> simp_all

theorem decode_eq_true_iff (raw : Bytes) (out m : Message) :
    decode raw out = (true, m) ↔ Accepts raw ∧ m = decoded raw := by
  by_cases h24 : 24 ≤ raw.length
  · rw [decode_long h24]
    split_ifs with hm hb
    · simp [Accepts, hm]
    · simp [Accepts]; omega
    · simp only [Prod.mk.injEq, true_and]
      exact ⟨fun e => ⟨⟨h24, not_not.mp hm, by omega⟩, e.symm⟩, fun h => h.2.symm⟩
  · have := decode_short (show raw.length < 24 by omega) out
    exact ⟨fun h => by simp [h] at this, fun h => absurd h.1.1 h24⟩

theorem decode_ok_iff (raw : Bytes) (out : Message) : (decode raw out).1 = true ↔ Accepts raw :=
  ⟨fun h => ((decode_eq_true_iff raw out _).1 (Prod.ext h rfl)).1,
    fun h => by rw [(decode_eq_true_iff raw out (decoded raw)).2 ⟨h, rfl⟩]⟩

/-- A successful `decode` overwrites every field: what it leaves depends on `raw` alone. -/
theorem decode_of_ok {raw : Bytes} {out : Message} (h : (decode raw out).1 = true) :
    (decode raw out).2 = decoded raw :=
  ((decode_eq_true_iff raw out _).1 (Prod.ext h rfl)).2

theorem headerOf_take (raw : Bytes) {n : Nat} (h : 24 ≤ n) : headerOf (raw.take n) = headerOf raw := by
  simp only [headerOf, window_take raw (show 0 + 4 ≤ n by omega),
    window_take raw (show 6 + 2 ≤ n by omega), window_take raw (show 8 + 2 ≤ n by omega),
    window_take raw (show 10 + 2 ≤ n by omega), window_take raw (show 12 + 8 ≤ n by omega),
    window_take raw (show 20 + 4 ≤ n by omega), List.getD_eq_getElem?_getD,
    List.getElem?_take_of_lt (show 4 < n by omega), List.getElem?_take_of_lt (show 5 < n by omega)]

/-- `decode` reads no further than the declared body: a prefix of a buffer that it accepts
decodes as the whole buffer does. -/
theorem decoded_take {raw : Bytes} {n : Nat} (h : Accepts (raw.take n)) :
    Accepts raw ∧ decoded (raw.take n) = decoded raw := by
  obtain ⟨h24, hmagic, hbody⟩ := h
  have hn : (raw.take n).length ≤ n := List.length_take_le _ _
  have hr : (raw.take n).length ≤ raw.length := List.length_take_le' _ _
  rw [headerOf_take raw (by omega)] at hmagic hbody
  refine ⟨⟨by omega, hmagic, by omega⟩, ?_⟩
  rw [decoded, decoded, headerOf_take raw (by omega), window_take raw (by omega)]

/-! ## Round trip -/

/-- The 24 bytes `encode` writes before the body. -/
def headerBytes (h : Header) : Bytes :=
  putBE32 h.magic ++ [h.version, h.msgType] ++ putBE16 h.opCode ++ putBE16 h.flags ++
    putBE16 h.status ++ putBE64 h.requestId ++ putBE32 h.bodyLen

theorem encode_eq (m : Message) : encode m = headerBytes m.h ++ m.body := by
  simp [encode, headerBytes, putU32, putU16, putU64]

@[simp] theorem length_headerBytes (h : Header) : (headerBytes h).length = 24 := by
  simp [headerBytes, putBE16, putBE32, putBE64]

theorem length_encode (m : Message) : (encode m).length = 24 + m.body.length := by
  simp [encode_eq]

theorem headerOf_headerBytes (h : Header) (rest : Bytes) : headerOf (headerBytes h ++ rest) = h := by
  simp (disch := simp [length_putBE]) only [headerOf, headerBytes, List.append_assoc,
    List.nil_append, List.cons_append, List.singleton_append, putBE16, putBE32, putBE64,
    window_append_of_length_le, window_append_length, window_cons_succ, List.getD_append_right,
    List.getD_cons_zero, List.getD_cons_succ, length_putBE, Nat.reduceSub, beValue_putBE,
    Nat.reducePow, UInt16.ofNat_toNat_mod, UInt32.ofNat_toNat_mod, UInt64.ofNat_toNat_mod]

theorem headerBytes_headerOf {raw : Bytes} (h : 24 ≤ raw.length) :
    headerBytes (headerOf raw) = raw.take 24 := by
  have h45 : [raw.getD 4 0, raw.getD 5 0] = window raw 4 2 := by
    rw [window, List.drop_eq_getElem_cons (by omega : 4 < raw.length),
      List.drop_eq_getElem_cons (by omega : 4 + 1 < raw.length)]
    simp only [List.take, List.getD_eq_getElem _ _ (by omega : 4 < raw.length),
      List.getD_eq_getElem _ _ (by omega : 5 < raw.length)]
  simp only [headerBytes, headerOf, putBE16_ofNat, putBE32_ofNat, putBE64_ofNat, h45]
  simp (disch := omega) only [putBE_window, window_append_window]
  simp [window]

/-- A message with the magic number and a true `bodyLen` decodes from its encoding. -/
theorem decode_encode (m out : Message) (hmagic : m.h.magic = MAGIC)
    (hlen : m.h.bodyLen.toNat = m.body.length) : decode (encode m) out = (true, m) := by
  have hhead : headerOf (encode m) = m.h := by rw [encode_eq, headerOf_headerBytes]
  rw [decode_eq_true_iff, Accepts, decoded, hhead, length_encode, hmagic, hlen]
  refine ⟨⟨by omega, rfl, le_refl _⟩, ?_⟩
  simp [encode_eq, window, List.drop_left']

/-- Message round trip: a message with the magic number and a true `bodyLen` decodes from
its encoding, which is 24 bytes longer than its body; and what `decode` accepts re-encodes
to the bytes it read. -/
theorem decode_encode_round_trip :
    (∀ m out : Message, m.h.magic = MAGIC → m.h.bodyLen.toNat = m.body.length →
      decode (encode m) out = (true, m) ∧ (encode m).length = 24 + m.body.length) ∧
    (∀ (raw : Bytes) (out m : Message), decode raw out = (true, m) →
      encode m = raw.take (24 + m.h.bodyLen.toNat)) := by
  refine ⟨fun m out hmagic hlen => ⟨decode_encode m out hmagic hlen, length_encode m⟩,
    fun raw out m hdec => ?_⟩
  obtain ⟨⟨h24, -, -⟩, rfl⟩ := (decode_eq_true_iff raw out m).1 hdec
  rw [encode_eq, decoded, headerBytes_headerOf h24, window, ← List.take_add]

/-- The round trip at a `MONITOR_REGISTER` request with a two-byte body. -/
theorem decode_encode_monitor_request :
    decode (encode ⟨⟨MAGIC, 1, 1, 5, 1, 0, 7, 2⟩, [0, 10]⟩) default =
      (true, ⟨⟨MAGIC, 1, 1, 5, 1, 0, 7, 2⟩, [0, 10]⟩) :=
  (decode_encode_round_trip.1 ⟨⟨MAGIC, 1, 1, 5, 1, 0, 7, 2⟩, [0, 10]⟩ default rfl (by decide)).1

/-! ## `decode` on a `w`-bit `size_t`

`decode` above computes its cursor sums exactly, as a 64-bit build does: none of them comes
near `2 ^ 64`.  On a build whose `size_t` has `w` bits each sum is taken modulo `2 ^ w`.  The
header reads stop at cursor 24, so only the body check `off + out.h.bodyLen > raw.size()`
and the end `raw.begin() + off + out.h.bodyLen` of the `assign` range can wrap. -/

/-- `decode` on a build whose `size_t` has `w` bits (`w ≥ 5`, so that the header cursors do
not wrap).  The body is the `assign` of the indices from `off` up to the wrapped end.  A range
whose end lies before its start is undefined behaviour in C++; libstdc++ and MSVC throw
`std::length_error` from `assign` on it, and the server loop has no `try`/`catch`, so the
process ends there.  The empty list only stands in for that undefined behaviour: what the
model says after it is not what the program does. -/
def decodeSized (w : Nat) (raw : Bytes) (out : Message) : Bool × Message :=
  match getU32 raw 0 out.h.magic with
  | ⟨false, _, v⟩ => (false, { out with h.magic := v })
  | ⟨true, off, v⟩ =>
  let out := { out with h.magic := v }
  if out.h.magic != MAGIC then (false, out) else
  if off + 2 > raw.length then (false, out) else
  let out := { out with h.version := raw.getD off 0, h.msgType := raw.getD (off + 1) 0 }
  match getU16 raw (off + 2) out.h.opCode with
  | ⟨false, _, v⟩ => (false, { out with h.opCode := v })
  | ⟨true, off, v⟩ =>
  let out := { out with h.opCode := v }
  match getU16 raw off out.h.flags with
  | ⟨false, _, v⟩ => (false, { out with h.flags := v })
  | ⟨true, off, v⟩ =>
  let out := { out with h.flags := v }
  match getU16 raw off out.h.status with
  | ⟨false, _, v⟩ => (false, { out with h.status := v })
  | ⟨true, off, v⟩ =>
  let out := { out with h.status := v }
  match getU64 raw off out.h.requestId with
  | ⟨false, _, v⟩ => (false, { out with h.requestId := v })
  | ⟨true, off, v⟩ =>
  let out := { out with h.requestId := v }
  match getU32 raw off out.h.bodyLen with
  | ⟨false, _, v⟩ => (false, { out with h.bodyLen := v })
  | ⟨true, off, v⟩ =>
  let out := { out with h.bodyLen := v }
  let last := (off + out.h.bodyLen.toNat) % 2 ^ w
  if last > raw.length then (false, out) else
  (true, { out with body := (raw.drop off).take (last - off) })

/-- Below a whole header, `decodeSized` fails at the same read as `decode`. -/
theorem decodeSized_short {raw : Bytes} (h : raw.length < 24) (w : Nat) (out : Message) :
    decodeSized w raw out = decode raw out := by
  have : raw.length < 4 ∨ (4 ≤ raw.length ∧ raw.length < 6) ∨ (6 ≤ raw.length ∧ raw.length < 8) ∨
      (8 ≤ raw.length ∧ raw.length < 10) ∨ (10 ≤ raw.length ∧ raw.length < 12) ∨
      (12 ≤ raw.length ∧ raw.length < 20) ∨ 20 ≤ raw.length := by
    omega
  rcases this with h | h | h | h | h | h | h <;>
    simp (disch := omega) only [decodeSized, decode, getU32, getU16, getU64, getBE32, getBE16,
      getBE64, getBE_of_le, getBE_of_lt, if_pos, if_neg]

/-- On a whole header, `decodeSized` is `decode` with the body check and the end of the body
taken modulo `2 ^ w`. -/
theorem decodeSized_long {raw : Bytes} (h : 24 ≤ raw.length) (w : Nat) (out : Message) :
    decodeSized w raw out =
      if (headerOf raw).magic ≠ MAGIC then (false, { out with h.magic := (headerOf raw).magic })
      else if (24 + (headerOf raw).bodyLen.toNat) % 2 ^ w > raw.length then
        (false, { out with h := headerOf raw })
      else (true, ⟨headerOf raw, window raw 24 ((24 + (headerOf raw).bodyLen.toNat) % 2 ^ w - 24)⟩) := by
  simp (disch := omega) only [decodeSized, getU32, getU16, getU64, getBE32, getBE16, getBE64,
    getBE_of_le, headerOf, window, if_pos, if_neg]
  split_ifs <;> simp_all

/-- With 33 bits or more no body check wraps, and `decodeSized` is `decode`. -/
theorem decodeSized_eq_decode {w : Nat} (hw : 33 ≤ w) (raw : Bytes) (out : Message) :
    decodeSized w raw out = decode raw out := by
  by_cases h24 : 24 ≤ raw.length
  · have hlen := (headerOf raw).bodyLen.toNat_lt_size
    have hpow : 2 ^ 33 ≤ 2 ^ w := Nat.pow_le_pow_right (by decide) hw
    simp only [UInt32.size] at hlen
    rw [decodeSized_long h24, decode_long h24, Nat.mod_eq_of_lt (by omega), Nat.add_sub_cancel_left]
    rfl
  · exact decodeSized_short (by omega) w out

/-- A bare header that declares `bodyLen = 2 ^ 32 - 24`. -/
def wrappingHeader : Header := ⟨MAGIC, 1, 1, 5, 0, 0, 1, 0xFFFFFFE8⟩

/-- On a 32-bit build the body check of a bare 24-byte header that declares
`bodyLen = 2 ^ 32 - 24` computes `24 + bodyLen = 0`: `decode` succeeds although the declared
body ends `2 ^ 32 - 24` bytes past the buffer, and the end of its `assign` range wraps to
index 0, before the range's start at 24.  The empty body stands in for that reversed range,
on which libstdc++ and MSVC throw `std::length_error` and end the server. -/
theorem decode_wraps_on_32_bit :
    decodeSized 32 (headerBytes wrappingHeader) default = (true, ⟨wrappingHeader, []⟩) ∧
      (headerBytes wrappingHeader).length < 24 + wrappingHeader.bodyLen.toNat ∧
      (24 + wrappingHeader.bodyLen.toNat) % 2 ^ 32 < 24 := by
  decide

end DistributedBank
