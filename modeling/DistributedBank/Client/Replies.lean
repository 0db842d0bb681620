/-
# DistributedBank.Client.Replies — what the client reads from the server

`client_cpp/src/client.cpp`, lines 306-685.  After `Client::call` returns `true`, each
handler prints the status when it is not `OK`, and otherwise reads the result fields from the
reply body with the `get…` readers (`readReply`).  `handleMonitor` then waits for callbacks:
each datagram is cut to the 2048-byte buffer, decoded into a fresh `proto::Message`, kept
when it is a Callback carrying CALLBACK_UPDATE, and read as five fields (`onCallback`).

* `readReply_of_resultFields`: the reads of the opcode's handler return the values of any
  body the dispatcher answers `OK` with, and `receive_replyOf`: the reply reaches `call`;
* `onCallback_encode`: a callback whose info string `putString` can write and whose encoding
  fits the buffer is read back as the five values it was built from;
* `sendUpdateCallback_on_wire`, `FanOut.on_wire`: a fan-out's datagrams go to the
  subscriptions' addresses in the list's order, and each decodes as the CALLBACK_UPDATE of the
  operation for the account and its stored currency and balance;
* `dispatch_callbacks_info`: a request body of at most 2024 bytes (a request datagram of at
  most 2048) gives callbacks whose info string `putString` can write;
* `server_to_client_agreement`: both at once, for every request that fits the server's buffer;
* `onCallback_too_long`, `long_name_callback_lost`: a datagram longer than the buffer is lost,
  and a 2048-byte DEPOSIT has a 2054-byte callback, which `handleMonitor` cuts to 2048 bytes
  and then fails to decode.
-/
import DistributedBank.Client.Handlers
import DistributedBank.Double.Order

namespace DistributedBank

namespace Client

set_option autoImplicit false

/-! ## Reply bodies -/

/-- The values a handler prints from an `OK` reply. -/
inductive ReplyFields where
  | opened (accNo : Int32) (bal : Double)
  | text (msg : Bytes)
  | balance (newBal : Double)
  | balances (fromBal toBal : Double)
  | query (cur : UInt16) (bal : Double)
  deriving DecidableEq, Repr

/-- The bytes the dispatcher appends for each kind of result (§4.2). -/
def ReplyFields.body : ReplyFields → Bytes
  | .opened accNo bal => putDouble (putI32 [] accNo) bal
  | .text msg => putString [] msg
  | .balance newBal => putDouble [] newBal
  | .balances fromBal toBal => putDouble (putDouble [] fromBal) toBal
  | .query cur bal => putDouble (putU16 [] cur) bal

/-- What the handler for `op` reads from the reply `call` returned: nothing when the status is
not `OK`; otherwise `handleOpen`'s `getI32`, `getDouble`, `handleClose`'s and
`handleMonitor`'s `getString`, and so on, in the order the handlers read. -/
def readReply (op : OpCode) (reply : Message) : Option ReplyFields :=
  if reply.h.status ≠ Status.OK.val then none else
  let body := reply.body
  match op with
  | .OPEN => do
    let (accNo, off) ← (getI32 body 0 0).get?
    let (bal, _) ← (getDouble body off Double.zero).get?
    pure (.opened accNo bal)
  | .CLOSE | .MONITOR_REGISTER => do
    let (msg, _) ← (getString body 0 []).get?
    pure (.text msg)
  | .DEPOSIT | .WITHDRAW => do
    let (newBal, _) ← (getDouble body 0 Double.zero).get?
    pure (.balance newBal)
  | .TRANSFER => do
    let (fromBal, off) ← (getDouble body 0 Double.zero).get?
    let (toBal, _) ← (getDouble body off Double.zero).get?
    pure (.balances fromBal toBal)
  | .QUERY_BALANCE => do
    let (cur, off) ← (getU16 body 0 0).get?
    let (bal, _) ← (getDouble body off Double.zero).get?
    pure (.query cur bal)
  | .CALLBACK_UPDATE => none

/-! ## Callbacks -/

/-- One pass of `handleMonitor`'s wait loop over a datagram: its first 2048 bytes must decode
into a fresh message, as a Callback carrying CALLBACK_UPDATE, and then the five fields are
read in order. -/
def onCallback (bytes : Bytes) : Option (UInt16 × Int32 × UInt16 × Double × Bytes) :=
  match decode (bytes.take 2048) default with
  | (false, _) => none
  | (true, cb) =>
    if cb.h.msgType ≠ MsgType.Callback.val then none
    else if cb.h.opCode ≠ OpCode.CALLBACK_UPDATE.val then none
    else do
      let (updateType, off) ← (getU16 cb.body 0 0).get?
      let (accNo, off) ← (getI32 cb.body off 0).get?
      let (cur, off) ← (getU16 cb.body off 0).get?
      let (newBal, off) ← (getDouble cb.body off Double.zero).get?
      let (info, _) ← (getString cb.body off []).get?
      pure (updateType, accNo, cur, newBal, info)

/-! ## Reading back -/

theorem length_putString {s : Bytes} (hs : s.length ≤ 65535) :
    (putString [] s).length = 2 + s.length := by
  simp [putString, Nat.not_lt.2 hs, putU16, putBE16]

/-- An `OK` body of the dispatcher is at most 31 bytes, and the reads of its opcode's handler
return the values it was written from. -/
theorem readReply_of_resultFields {o : OpCode} {reply : Message}
    (hok : reply.h.status = Status.OK.val) (h : ResultFields o reply.body) :
    reply.body.length ≤ 31 ∧ ∃ f : ReplyFields, reply.body = f.body ∧ readReply o reply = some f := by
  obtain ⟨hd, body⟩ := reply
  dsimp only at hok h ⊢
  cases o with
  | OPEN =>
    obtain ⟨accNo, bal, rfl⟩ := h
    have h0 : (putDouble (putI32 [] accNo) bal).drop 0 = putI32 [] accNo ++ (putDouble [] bal ++ []) := by
      rw [List.drop_zero, putDouble_eq_append, List.append_nil]
    obtain ⟨o1, r1, d1⟩ := getI32_get?_of_drop h0 0
    obtain ⟨o2, r2, -⟩ := getDouble_get?_of_drop d1 Double.zero
    refine ⟨by simp [putDouble, putI32, putU64, putU32, putBE64, putBE32], .opened accNo bal, rfl, ?_⟩
    simp [readReply, hok, r1, r2]
  | CLOSE =>
    subst h
    have hs : (ascii "account closed").length = 14 := rfl
    obtain ⟨o1, r1, -⟩ := getString_get?_of_drop (hs.trans_le (by decide)) (drop_zero_append_nil _) []
    refine ⟨by rw [length_putString (hs.trans_le (by decide))]; omega, .text _, rfl, ?_⟩
    simp [readReply, hok, r1]
  | DEPOSIT | WITHDRAW =>
    obtain ⟨bal, rfl⟩ := h
    obtain ⟨o1, r1, -⟩ := getDouble_get?_of_drop (drop_zero_append_nil (putDouble [] bal)) Double.zero
    refine ⟨by simp [putDouble, putU64, putBE64], .balance bal, rfl, ?_⟩
    simp [readReply, hok, r1]
  | TRANSFER =>
    obtain ⟨fromBal, toBal, rfl⟩ := h
    have h0 : (putDouble (putDouble [] fromBal) toBal).drop 0 =
        putDouble [] fromBal ++ (putDouble [] toBal ++ []) := by
      rw [List.drop_zero, putDouble_eq_append (putDouble [] fromBal), List.append_nil]
    obtain ⟨o1, r1, d1⟩ := getDouble_get?_of_drop h0 Double.zero
    obtain ⟨o2, r2, -⟩ := getDouble_get?_of_drop d1 Double.zero
    refine ⟨by simp [putDouble, putU64, putBE64], .balances fromBal toBal, rfl, ?_⟩
    simp [readReply, hok, r1, r2]
  | QUERY_BALANCE =>
    obtain ⟨cur, bal, rfl⟩ := h
    have h0 : (putDouble (putU16 [] cur) bal).drop 0 = putU16 [] cur ++ (putDouble [] bal ++ []) := by
      rw [List.drop_zero, putDouble_eq_append, List.append_nil]
    obtain ⟨o1, r1, d1⟩ := getU16_get?_of_drop h0 0
    obtain ⟨o2, r2, -⟩ := getDouble_get?_of_drop d1 Double.zero
    refine ⟨by simp [putDouble, putU16, putU64, putBE64, putBE16], .query cur bal, rfl, ?_⟩
    simp [readReply, hok, r1, r2]
  | MONITOR_REGISTER =>
    obtain ⟨secs, rfl⟩ := h
    have hmsg : (ascii "monitor registered for " ++ decimal secs.toNat ++ ascii "s").length ≤ 29 := by
      have := length_decimal_lt secs.toNat (by have := secs.toNat_lt_size; simp only [UInt16.size] at this; omega)
      simp only [List.length_append]
      have h23 : (ascii "monitor registered for ").length = 23 := rfl
      have h1 : (ascii "s").length = 1 := rfl
      omega
    generalize ascii "monitor registered for " ++ decimal secs.toNat ++ ascii "s" = msg at hmsg
    obtain ⟨o1, r1, -⟩ := getString_get?_of_drop (hmsg.trans (by decide)) (drop_zero_append_nil _) []
    refine ⟨by rw [length_putString (hmsg.trans (by decide))]; omega, .text _, rfl, ?_⟩
    simp [readReply, hok, r1]
  | CALLBACK_UPDATE => exact h.elim

theorem callbackMessage_bodyLen {u : UInt16} {accNo : Int32} {cur : UInt16} {bal : Double}
    {info : Bytes} (h : (callbackMessage u accNo cur bal info).body.length < UInt32.size) :
    (callbackMessage u accNo cur bal info).h.bodyLen.toNat =
      (callbackMessage u accNo cur bal info).body.length :=
  UInt32.toNat_ofNat_of_lt h

/-- The server's reply to a request reaches the waiting `call` intact: it fits the buffer,
decodes, and carries the request's id. -/
theorem receive_replyOf (req : Message) (d : Handled) (hlen : d.body.length ≤ 2024)
    (reply : Message) :
    receive req.h.requestId reply (.datagram (encode (replyOf req d))) = (true, replyOf req d) := by
  have hfit : (encode (replyOf req d)).length ≤ 2048 := by
    rw [length_encode]; exact Nat.add_le_add_left hlen 24
  have hbl : (replyOf req d).h.bodyLen.toNat = (replyOf req d).body.length :=
    UInt32.toNat_ofNat_of_lt (by simp only [replyOf, UInt32.size]; omega)
  rw [receive, List.take_of_length_le hfit, decode_encode _ reply rfl hbl]
  show (if (replyOf req d).h.msgType ≠ MsgType.Reply.val then _ else _) = _
  rw [if_neg (by simp [replyOf]), if_neg (by simp [replyOf])]

/-- A callback whose info string `putString` can write and whose encoding fits the 2048-byte
buffer is read back by `handleMonitor` as the five values it was built from. -/
theorem onCallback_encode (u : UInt16) (accNo : Int32) (cur : UInt16) (bal : Double) (info : Bytes)
    (hinfo : info.length ≤ 65535) (hfit : (encode (callbackMessage u accNo cur bal info)).length ≤ 2048) :
    onCallback (encode (callbackMessage u accNo cur bal info)) = some (u, accNo, cur, bal, info) := by
  set m := callbackMessage u accNo cur bal info with hm
  have hb : m.body.length < UInt32.size := by
    rw [length_encode] at hfit; simp only [UInt32.size]; omega
  have hbl : m.h.bodyLen.toNat = m.body.length := callbackMessage_bodyLen hb
  have h0 : m.body.drop 0 = putU16 [] u ++ (putI32 [] accNo ++ (putU16 [] cur ++
      (putDouble [] bal ++ (putString [] info ++ [])))) := by
    rw [List.drop_zero, hm, callbackMessage, putString_eq_append, putDouble_eq_append, putU16_eq_append,
      putI32_eq_append]
    simp only [List.append_assoc, List.append_nil]
  obtain ⟨o1, r1, d1⟩ := getU16_get?_of_drop h0 0
  obtain ⟨o2, r2, d2⟩ := getI32_get?_of_drop d1 0
  obtain ⟨o3, r3, d3⟩ := getU16_get?_of_drop d2 0
  obtain ⟨o4, r4, d4⟩ := getDouble_get?_of_drop d3 Double.zero
  obtain ⟨o5, r5, -⟩ := getString_get?_of_drop hinfo d4 []
  have htype : m.h.msgType = MsgType.Callback.val := rfl
  have hop : m.h.opCode = OpCode.CALLBACK_UPDATE.val := rfl
  rw [onCallback, List.take_of_length_le hfit, decode_encode m default rfl hbl]
  simp [htype, hop, r1, r2, r3, r4, r5]

/-- A datagram longer than the 2048-byte buffer is lost: its first 2048 bytes declare a body
that is not there, and `decode` fails. -/
theorem onCallback_too_long (m : Message) (hbl : m.h.bodyLen.toNat = m.body.length)
    (hlong : 2048 < (encode m).length) : onCallback (encode m) = none := by
  have hfail : (decode ((encode m).take 2048) default).1 = false := by
    rw [Bool.eq_false_iff, ne_eq, decode_ok_iff]
    rintro ⟨-, -, h⟩
    rw [headerOf_take _ (by decide), encode_eq, headerOf_headerBytes, hbl, List.length_take,
      ← encode_eq] at h
    have := length_encode m
    omega
  unfold onCallback
  split
  · rfl
  · rename_i cb heq; simp [heq] at hfail

/-! ## Callbacks of a request that fits the buffer -/

theorem parseOpen_name {body name pw : Bytes} {cur : UInt16} {initial : Double}
    (h : parseOpen body = some (name, pw, cur, initial)) : name.length ≤ body.length := by
  simp only [parseOpen, Option.bind_eq_bind, Option.bind_eq_some] at h
  obtain ⟨⟨n, o⟩, h1, _, -, _, -, _, -, h⟩ := h
  cases h
  exact length_le_of_getString h1

theorem parseAccount_name {body name pw : Bytes} {accNo : Int32}
    (h : parseAccount body = some (name, accNo, pw)) : name.length ≤ body.length := by
  simp only [parseAccount, Option.bind_eq_bind, Option.bind_eq_some] at h
  obtain ⟨⟨n, o⟩, h1, _, -, _, -, h⟩ := h
  cases h
  exact length_le_of_getString h1

theorem parseAmount_name {body name pw : Bytes} {accNo : Int32} {cur : UInt16} {amount : Double}
    (h : parseAmount body = some (name, accNo, pw, cur, amount)) : name.length ≤ body.length := by
  simp only [parseAmount, Option.bind_eq_bind, Option.bind_eq_some] at h
  obtain ⟨⟨n, o⟩, h1, _, -, _, -, _, -, _, -, h⟩ := h
  cases h
  exact length_le_of_getString h1

theorem parseTransfer_name {body name pw : Bytes} {fromAcc toAcc : Int32} {cur : UInt16}
    {amount : Double} (h : parseTransfer body = some (name, fromAcc, pw, toAcc, cur, amount)) :
    name.length ≤ body.length := by
  simp only [parseTransfer, Option.bind_eq_bind, Option.bind_eq_some] at h
  obtain ⟨⟨n, o⟩, h1, _, -, _, -, _, -, _, -, _, -, h⟩ := h
  cases h
  exact length_le_of_getString h1

/-- A callback whose info string `putString` writes. -/
def WritableCallback (cb : Datagram) : Prop :=
  ∃ u accNo cur bal info, info.length ≤ 65535 ∧ cb.bytes = encode (callbackMessage u accNo cur bal info)

theorem sendUpdateCallback_writable {monitors : List MonitorEntry} {u : UInt16} {accNo : Int32}
    {cur : UInt16} {bal : Double} {info : Bytes} (h : info.length ≤ 65535) :
    ∀ cb ∈ sendUpdateCallback monitors u accNo cur bal info, WritableCallback cb := fun _ hcb =>
  let ⟨_, _, e⟩ := mem_sendUpdateCallback hcb
  ⟨u, accNo, cur, bal, info, h, by rw [e]⟩

/-- A request body of at most 2024 bytes bounds the name in every info string, and
`std::to_string` bounds the amount and the account numbers, so every callback's info string is
at most 2373 bytes. -/
theorem dispatch_callbacks_info (bank : Bank) (monitors : List MonitorEntry) (peer : SockAddr)
    (now : Time) (req : Message) (hbody : req.body.length ≤ 2024) :
    ∀ cb ∈ (dispatch bank monitors peer now req).callbacks, WritableCallback cb := by
  have hnil : ∀ cb ∈ ([] : List Datagram), WritableCallback cb := fun _ h => absurd h (List.not_mem_nil _)
  have h1 : (ascii " by ").length = 4 := rfl
  refine dispatch_cases
    (fun _ => handleBank_callbacks (fun ⟨name, _, _, _⟩ hp _ ⟨_, _⟩ => sendUpdateCallback_writable ?_) _ _)
    (fun _ => handleBank_callbacks (fun ⟨name, _, _⟩ hp _ _ => sendUpdateCallback_writable ?_) _ _)
    (fun _ => handleBank_callbacks
      (fun ⟨name, _, _, _, amount⟩ hp _ _ => sendUpdateCallback_writable ?_) _ _)
    (fun _ => handleBank_callbacks
      (fun ⟨name, _, _, _, amount⟩ hp _ _ => sendUpdateCallback_writable ?_) _ _)
    (fun _ => handleBank_callbacks (fun ⟨name, fromAcc, _, toAcc, _, amount⟩ hp _ _ cb hcb => ?_) _ _)
    (fun _ => handleBank_callbacks (fun _ _ _ _ => hnil) _ _)
    (fun _ => by rw [handleMonitor_callbacks]; exact hnil) hnil
  · have := parseOpen_name hp
    have h0 : (ascii "OPEN by ").length = 8 := rfl
    simp only [List.length_append, h0]; omega
  · have := parseAccount_name hp
    have h0 : (ascii "CLOSE by ").length = 9 := rfl
    simp only [List.length_append, h0]; omega
  · have := parseAmount_name hp
    have := Double.length_toString_le amount
    have h0 : (ascii "DEPOSIT ").length = 8 := rfl
    simp only [List.length_append, h0, h1]; omega
  · have := parseAmount_name hp
    have := Double.length_toString_le amount
    have h0 : (ascii "WITHDRAW ").length = 9 := rfl
    simp only [List.length_append, h0, h1]; omega
  · have := parseTransfer_name hp
    have := Double.length_toString_le amount
    have := Int32.length_toDecimal_le fromAcc
    have := Int32.length_toDecimal_le toAcc
    have h0 : (ascii "TRANSFER out ").length = 13 := rfl
    have h2 : (ascii " to ").length = 4 := rfl
    have h3 : (ascii "TRANSFER in ").length = 12 := rfl
    have h4 : (ascii " from ").length = 6 := rfl
    rcases List.mem_append.1 hcb with hcb | hcb <;> refine sendUpdateCallback_writable ?_ cb hcb <;>
      simp only [List.length_append, h0, h1, h2, h3, h4] <;> omega

/-! ## The fan-out on the wire -/

/-- A callback body is sixteen fixed bytes and a `putString` of at most 65 535 bytes. -/
theorem callbackMessage_body_length (u : UInt16) (accNo : Int32) (cur : UInt16) (bal : Double)
    (info : Bytes) : (callbackMessage u accNo cur bal info).body.length ≤ 65553 := by
  simp only [callbackMessage, putString]
  split
  · simp [putDouble, putU16, putI32, putU32, putU64, putBE16, putBE32, putBE64]
  · simp [putDouble, putU16, putI32, putU32, putU64, putBE16, putBE32, putBE64]; omega

/-- Every callback decodes, whole, as the message it was built from. -/
theorem decode_callbackMessage (u : UInt16) (accNo : Int32) (cur : UInt16) (bal : Double)
    (info : Bytes) (out : Message) :
    decode (encode (callbackMessage u accNo cur bal info)) out =
      (true, callbackMessage u accNo cur bal info) :=
  decode_encode _ out rfl (callbackMessage_bodyLen
    ((callbackMessage_body_length u accNo cur bal info).trans_lt (by decide)))

/-- What `sendUpdateCallback` puts on the wire: one datagram per subscription, to its address
and in the list's order, each decoding as a Callback carrying CALLBACK_UPDATE with the update
type, the account, the currency, the balance and the info string, which `handleMonitor` reads
back when the info string can be written and the datagram fits its buffer. -/
theorem sendUpdateCallback_on_wire (monitors : List MonitorEntry) (u : UInt16) (accNo : Int32)
    (cur : UInt16) (bal : Double) (info : Bytes) :
    (sendUpdateCallback monitors u accNo cur bal info).map Datagram.peer =
        monitors.map MonitorEntry.addr ∧
      ∀ d ∈ sendUpdateCallback monitors u accNo cur bal info,
        decode d.bytes default = (true, callbackMessage u accNo cur bal info) ∧
        (info.length ≤ 65535 → d.bytes.length ≤ 2048 →
          onCallback d.bytes = some (u, accNo, cur, bal, info)) := by
  refine ⟨by simp [sendUpdateCallback, Function.comp_def], fun d hd => ?_⟩
  obtain ⟨-, -, rfl⟩ := mem_sendUpdateCallback hd
  exact ⟨decode_callbackMessage u accNo cur bal info default, onCallback_encode u accNo cur bal info⟩

/-- A fan-out on the wire: for each updated account in order, the datagrams go to the
subscriptions' addresses in the list's order, and each decodes as the CALLBACK_UPDATE of `op`
for the account and the currency and balance the bank stores for it, which `handleMonitor`
reads back when the info string can be written and the datagram fits its buffer. -/
theorem FanOut.on_wire {b : Bank} {monitors : List MonitorEntry} {op : UInt16} :
    ∀ {accs : List Int32} {cbs : List Datagram}, FanOut b monitors op accs cbs →
      cbs.map Datagram.peer = (accs.map fun _ => monitors.map MonitorEntry.addr).flatten ∧
      ∀ d ∈ cbs, ∃ accNo ∈ accs, ∃ a info, b.getAccount accNo = some a ∧
        decode d.bytes default = (true, callbackMessage op accNo a.currency a.balance info) ∧
        (info.length ≤ 65535 → d.bytes.length ≤ 2048 →
          onCallback d.bytes = some (op, accNo, a.currency, a.balance, info))
  | [], _, rfl => ⟨rfl, fun _ h => nomatch h⟩
  | accNo :: _, _, ⟨a, info, _, hget, rfl, hrest⟩ => by
    obtain ⟨hpeers, hwire⟩ := sendUpdateCallback_on_wire monitors op accNo a.currency a.balance info
    obtain ⟨hpeers', hwire'⟩ := FanOut.on_wire hrest
    refine ⟨by rw [List.map_append, hpeers, hpeers']; rfl, fun d hd => ?_⟩
    rcases List.mem_append.1 hd with hd | hd
    · exact ⟨accNo, .head _, a, info, hget, hwire d hd⟩
    · obtain ⟨k, hk, h⟩ := hwire' d hd
      exact ⟨k, .tail _ hk, h⟩

/-! ## Server-to-client agreement -/

/-- For every request whose datagram fits the server's 2048-byte buffer: an `OK` reply reaches
the waiting `call` and the handler of its opcode reads back the values the dispatcher wrote;
and every callback of the dispatch that fits `handleMonitor`'s 2048-byte buffer is read back as
the five values it was built from. -/
theorem server_to_client_agreement (bank : Bank) (monitors : List MonitorEntry) (peer : SockAddr)
    (now : Time) (req : Message) (hreq : (encode req).length ≤ 2048) (reply : Message) :
    let d := dispatch bank monitors peer now req
    (d.status = Status.OK.val →
      receive req.h.requestId reply (.datagram (encode (replyOf req d))) = (true, replyOf req d) ∧
      ∃ (o : OpCode) (f : ReplyFields), o.val = req.h.opCode ∧ d.body = f.body ∧
        readReply o (replyOf req d) = some f) ∧
    (∀ cb ∈ d.callbacks, cb.bytes.length ≤ 2048 →
      ∃ u accNo cur bal info, cb.bytes = encode (callbackMessage u accNo cur bal info) ∧
        onCallback cb.bytes = some (u, accNo, cur, bal, info)) := by
  intro d
  have hbody : req.body.length ≤ 2024 := by rw [length_encode] at hreq; omega
  refine ⟨fun hok => ?_, fun cb hcb hlen => ?_⟩
  · rcases dispatch_handled_atomic bank monitors peer now req with ⟨-, -, o, ho, hf⟩ | ⟨hne, -⟩
    · obtain ⟨hlen, f, hf', hread⟩ := readReply_of_resultFields
        (show (replyOf req d).h.status = Status.OK.val from hok) hf
      exact ⟨receive_replyOf req d (hlen.trans (by decide)) reply, o, f, ho, hf', hread⟩
    · exact absurd hok hne
  · obtain ⟨u, accNo, cur, bal, info, hinfo, hbytes⟩ :=
      dispatch_callbacks_info bank monitors peer now req hbody cb hcb
    rw [hbytes] at hlen ⊢
    exact ⟨u, accNo, cur, bal, info, rfl, onCallback_encode u accNo cur bal info hinfo hlen⟩

/-- The agreement at an OPEN watched by one subscriber. -/
theorem server_to_client_agreement_open :
    let req := request false OpCode.OPEN.val (openBody ⟨ascii "bob", ascii "pw", Currency.CNY, Double.zero⟩) 1
    let d := dispatch Bank.init [⟨⟨0x7F000001, 6000⟩, seconds 60⟩] ⟨0x7F000001, 5000⟩ 0 req
    (encode req).length ≤ 2048 ∧
    (d.status = Status.OK.val →
      receive req.h.requestId default (.datagram (encode (replyOf req d))) = (true, replyOf req d) ∧
      ∃ (o : OpCode) (f : ReplyFields), o.val = req.h.opCode ∧ d.body = f.body ∧
        readReply o (replyOf req d) = some f) ∧
    (∀ cb ∈ d.callbacks, cb.bytes.length ≤ 2048 →
      ∃ u accNo cur bal info, cb.bytes = encode (callbackMessage u accNo cur bal info) ∧
        onCallback cb.bytes = some (u, accNo, cur, bal, info)) :=
  ⟨by decide, server_to_client_agreement _ _ _ _ _ (by decide) default⟩

/-! ## A callback that does not fit -/

/-- A name of 1992 bytes: the longest whose DEPOSIT request fits the 2048-byte buffer. -/
def longName : Bytes := List.replicate 1992 97

/-- Account 10001, in CNY with a zero balance, owned by `longName` with password `pw`. -/
def longNameBank : Bank :=
  Bank.init.put 10001 ⟨10001, longName, ascii "pw", Currency.CNY, Double.zero, false⟩

/-- The request `handleDeposit` sends for a deposit of 1.0 into account 10001. -/
def longNameDeposit : Message :=
  request false OpCode.DEPOSIT.val
    (amountBody ⟨longName, 10001, ascii "pw", Currency.CNY, ⟨0x3FF0000000000000⟩⟩) 1

/-- The DEPOSIT fills the server's buffer exactly and succeeds; its callback carries the
1992-byte name in a 2012-byte info string, 2054 bytes in all, and `handleMonitor` reads its
first 2048 bytes, which do not decode. -/
theorem long_name_callback_lost :
    let d := dispatch longNameBank [⟨⟨0x7F000001, 6000⟩, seconds 60⟩] ⟨0x7F000001, 5000⟩ 0
      longNameDeposit
    (encode longNameDeposit).length = 2048 ∧ d.status = Status.OK.val ∧
      ∃ cb ∈ d.callbacks, cb.bytes.length = 2054 ∧ onCallback cb.bytes = none := by
  intro d
  have hname : longName.length = 1992 := List.length_replicate _ _
  have hpw : (ascii "pw").length = 2 := rfl
  have hbody : longNameDeposit.body.length = 2024 := by
    simp [longNameDeposit, request, amountBody, putDouble, putU16, putPassword16, putI32, putString,
      putU64, putU32, putBE16, putBE32, putBE64, hname, hpw]
  have hparse : parseAmount longNameDeposit.body =
      some (longName, 10001, ascii "pw", Currency.CNY, ⟨0x3FF0000000000000⟩) :=
    parseAmount_amountBody ⟨longName, 10001, ascii "pw", Currency.CNY, ⟨0x3FF0000000000000⟩⟩
      (by rw [hname]; decide)
  have hlt : Double.lt Double.zero ⟨0x3FF0000000000000⟩ = true := by
    set_option exponentiation.threshold 1100 in decide
  have hcall : longNameBank.deposit longName 10001 (ascii "pw") Currency.CNY ⟨0x3FF0000000000000⟩ =
      (longNameBank.put 10001 ⟨10001, longName, ascii "pw", Currency.CNY,
        Double.zero + ⟨0x3FF0000000000000⟩, false⟩, .ok (Double.zero + ⟨0x3FF0000000000000⟩)) := by
    rw [Bank.deposit, longNameBank, Bank.findOpen_put]
    simp [Bank.authMatch, hlt]
  -- over any body, so that the kernel never runs the parser on the 2024 bytes
  have hbranch : ∀ body, parseAmount body =
      some (longName, 10001, ascii "pw", Currency.CNY, ⟨0x3FF0000000000000⟩) →
      DistributedBank.handleDeposit longNameBank [⟨⟨0x7F000001, 6000⟩, seconds 60⟩] body =
        ⟨Status.OK.val, putDouble [] (Double.zero + ⟨0x3FF0000000000000⟩),
          longNameBank.put 10001 ⟨10001, longName, ascii "pw", Currency.CNY,
            Double.zero + ⟨0x3FF0000000000000⟩, false⟩, [⟨⟨0x7F000001, 6000⟩, seconds 60⟩],
          sendUpdateCallback [⟨⟨0x7F000001, 6000⟩, seconds 60⟩] OpCode.DEPOSIT.val 10001 Currency.CNY
            (Double.zero + ⟨0x3FF0000000000000⟩)
            (ascii "DEPOSIT " ++ Double.toString ⟨0x3FF0000000000000⟩ ++ ascii " by " ++ longName)⟩ :=
    fun body hp => by rw [DistributedBank.handleDeposit, handleBank, hp]; dsimp only; rw [hcall]; rfl
  have hdispatch : d = DistributedBank.handleDeposit longNameBank [⟨⟨0x7F000001, 6000⟩, seconds 60⟩]
      longNameDeposit.body := by
    have hop : longNameDeposit.h.opCode = OpCode.DEPOSIT.val := rfl
    show dispatch _ _ _ _ _ = _
    rw [dispatch, hop, if_neg (by decide), if_neg (by decide), if_pos rfl]
  have hd := hdispatch.trans (hbranch _ hparse)
  have hone : (Double.toString ⟨0x3FF0000000000000⟩).length = 8 := by
    set_option exponentiation.threshold 1100 in decide
  have hinfo : (ascii "DEPOSIT " ++ Double.toString ⟨0x3FF0000000000000⟩ ++ ascii " by " ++
      longName).length = 2012 := by
    simp only [List.length_append, hone, hname]; rfl
  set m := callbackMessage OpCode.DEPOSIT.val 10001 Currency.CNY (Double.zero + ⟨0x3FF0000000000000⟩)
    (ascii "DEPOSIT " ++ Double.toString ⟨0x3FF0000000000000⟩ ++ ascii " by " ++ longName) with hm
  have hmb : m.body.length = 2030 := by
    rw [hm, callbackMessage, putString_eq_append, List.length_append,
      length_putString (by omega), hinfo]
    simp [putDouble, putU16, putI32, putU64, putU32, putBE16, putBE32, putBE64]
  have hb : m.body.length < UInt32.size := by rw [hmb]; simp only [UInt32.size]; omega
  refine ⟨by rw [length_encode, hbody], by rw [hd], ⟨⟨0x7F000001, 6000⟩, encode m⟩,
    by rw [hd]; exact List.mem_singleton_self _, by rw [length_encode, hmb],
    onCallback_too_long m (callbackMessage_bodyLen hb) (by rw [length_encode, hmb]; decide)⟩

end Client

end DistributedBank
