/-
# DistributedBank.Client.Call — `Client::call`, the attempt loop

`Client::call` (`client_cpp/src/client.cpp`) encodes its request once and then makes up to
`retryCount_` attempts.  Each attempt sends the request bytes and makes one `recvfrom`, and
the call returns `true` at the first datagram that decodes as a Reply carrying its request
id.  Everything else (a failed `sendto`, a timeout or another socket error, a datagram that
does not decode, a Callback, a Reply to another id) ends the attempt with `continue`, and
the next attempt sends again.  So `retryCount_`, which `client.hpp` documents as the number
of retries on timeout, is the number of sends, the first included; and a Reply to another id
makes the next attempt send again before any timeout.

What the loop observes is a tape of outcomes, one per attempt (`Attempt`).  The socket is
the Linux one: `recvfrom` into the 2048-byte buffer keeps a datagram's first 2048 bytes.
`callLoop` runs the loop over any tape, and `call` over the first `retryCount_` entries of
an arbitrary sequence of outcomes.  `callTimed` runs it against a socket with a receive
timeout and datagrams that arrive at given times (`recvTimed`).

* `call_correlates`: a `true` result is the decoding of one received datagram, a Reply with
  the drawn id, and every datagram sent is the one request, at most `retryCount_` of them;
* `stray_reply_resends`: a stale Reply queued ahead of the real one costs an attempt, and
  the request goes out again although its reply had arrived within the first timeout.
-/
import DistributedBank.Wire.Message

namespace DistributedBank

namespace Client

set_option autoImplicit false

/-- What one `recvfrom` returned: `EAGAIN` once the receive timeout expired, another error,
or the bytes of a datagram. -/
inductive Recv where
  | timeout
  | error
  | datagram (bytes : Bytes)
  deriving DecidableEq, Repr

/-- One attempt as the loop meets it: whether `sendto` failed, then what `recvfrom`
returned (not reached when the send failed). -/
structure Attempt where
  sendFails : Bool
  recv : Recv
  deriving DecidableEq, Repr

/-- The request `Client::call` builds: version 1, a Request, the at-most-once flag when the
client runs at-most-once, status 0, the drawn id and `bodyLen = (uint32_t)body.size()`. -/
def request (atMostOnce : Bool) (opCode : UInt16) (body : Bytes) (reqId : UInt64) : Message :=
  ⟨⟨MAGIC, VERSION, MsgType.Request.val, opCode, if atMostOnce then FLAG_AT_MOST_ONCE else 0, 0,
    reqId, UInt32.ofNat body.length⟩, body⟩

/-- The receive half of an attempt and its three filters, writing into the out-parameter
`reply`: whether the call returns `true`, and `reply` as the attempt leaves it. -/
def receive (reqId : UInt64) (reply : Message) : Recv → Bool × Message
  | .timeout => (false, reply)
  | .error => (false, reply)
  | .datagram bytes =>
    match decode (bytes.take 2048) reply with
    | (false, reply) => (false, reply)
    | (true, reply) =>
      if reply.h.msgType ≠ MsgType.Reply.val then (false, reply)
      else if reply.h.requestId ≠ reqId then (false, reply)
      else (true, reply)

/-- What `Client::call` leaves: its result, the out-parameter `reply`, and the datagrams
`sendto` sent, in order. -/
structure Outcome where
  ok : Bool
  reply : Message
  sent : List Bytes

/-- The attempt loop over a tape of outcomes, with the out-parameter and the datagrams sent
so far. -/
def callLoop (reqBytes : Bytes) (reqId : UInt64) : List Attempt → Message → List Bytes → Outcome
  | [], reply, sent => ⟨false, reply, sent⟩
  | o :: os, reply, sent =>
    if o.sendFails then callLoop reqBytes reqId os reply sent else
    match receive reqId reply o.recv with
    | (true, reply) => ⟨true, reply, sent ++ [reqBytes]⟩
    | (false, reply) => callLoop reqBytes reqId os reply (sent ++ [reqBytes])

/-- `Client::call`: the request encoded once, then attempts `1 … retryCount_` meeting the
outcomes `outs 1, outs 2, …`. -/
def call (atMostOnce : Bool) (retryCount : Int32) (opCode : UInt16) (body : Bytes)
    (reqId : UInt64) (outs : Nat → Attempt) (reply : Message) : Outcome :=
  callLoop (encode (request atMostOnce opCode body reqId)) reqId
    ((List.range retryCount.val.toNat).map fun i => outs (i + 1)) reply []

/-! ## What a returned reply is -/

/-- The receive returns `true` only on a datagram whose first 2048 bytes decode, and what
it leaves in `reply` is the datagram's decoding (the bytes past the buffer are past the
declared body), a Reply with the drawn id. -/
theorem receive_true {reqId : UInt64} {reply m : Message} {r : Recv}
    (h : receive reqId reply r = (true, m)) :
    ∃ bytes, r = .datagram bytes ∧ Accepts (bytes.take 2048) ∧ m = decoded bytes ∧
      m.h.msgType = MsgType.Reply.val ∧ m.h.requestId = reqId := by
  cases r with
  | timeout => cases h
  | error => cases h
  | datagram bytes =>
    refine ⟨bytes, rfl, ?_⟩
    dsimp only [receive] at h
    split at h
    · cases h
    · rename_i reply' hd
      obtain ⟨hacc, rfl⟩ := (decode_eq_true_iff _ _ _).1 hd
      rw [(decoded_take hacc).2] at h
      split_ifs at h with h1 h2 <;> cases h
      exact ⟨hacc, rfl, not_not.1 h1, not_not.1 h2⟩

/-- The loop sends the request once per attempt whose `sendto` worked, and no more. -/
theorem callLoop_sent (reqBytes : Bytes) (reqId : UInt64) :
    ∀ (os : List Attempt) (reply : Message) (sent : List Bytes),
      ∃ k ≤ os.length, (callLoop reqBytes reqId os reply sent).sent =
        sent ++ List.replicate k reqBytes
  | [], _, sent => ⟨0, le_rfl, by simp [callLoop]⟩
  | o :: os, reply, sent => by
    unfold callLoop
    split_ifs
    · obtain ⟨k, hk, he⟩ := callLoop_sent reqBytes reqId os reply sent
      exact ⟨k, by simp; omega, he⟩
    split
    · exact ⟨1, by simp, rfl⟩
    · obtain ⟨k, hk, he⟩ := callLoop_sent reqBytes reqId os _ (sent ++ [reqBytes])
      exact ⟨k + 1, by simp; omega, by rw [he, List.append_assoc, List.replicate_succ]; rfl⟩

/-- A `true` result comes from one attempt of the tape: its send worked, and its receive
returned `true` leaving the reply the loop returns. -/
theorem callLoop_ok (reqBytes : Bytes) (reqId : UInt64) :
    ∀ (os : List Attempt) (reply : Message) (sent : List Bytes),
      (callLoop reqBytes reqId os reply sent).ok = true →
      ∃ o ∈ os, o.sendFails = false ∧
        ∃ reply', receive reqId reply' o.recv = (true, (callLoop reqBytes reqId os reply sent).reply)
  | [], _, _, h => by simp [callLoop] at h
  | o :: os, reply, sent, h => by
    unfold callLoop at h ⊢
    split_ifs at h ⊢ with hs
    · obtain ⟨o', ho', h'⟩ := callLoop_ok reqBytes reqId os reply sent h
      exact ⟨o', .tail _ ho', h'⟩
    rcases hr : receive reqId reply o.recv with ⟨_ | _, r⟩ <;> rw [hr] at h <;> dsimp only at h ⊢
    · obtain ⟨o', ho', h'⟩ := callLoop_ok reqBytes reqId os r _ h
      exact ⟨o', .tail _ ho', h'⟩
    · exact ⟨o, .head _, by simpa using hs, reply, hr⟩

theorem call_correlates (atMostOnce : Bool) (retryCount : Int32) (opCode : UInt16) (body : Bytes)
    (reqId : UInt64) (outs : Nat → Attempt) (reply : Message) :
    (call atMostOnce retryCount opCode body reqId outs reply).sent.length ≤ retryCount.val.toNat ∧
      (∀ d ∈ (call atMostOnce retryCount opCode body reqId outs reply).sent,
        d = encode (request atMostOnce opCode body reqId)) ∧
      ((call atMostOnce retryCount opCode body reqId outs reply).ok = true →
        ∃ i, 1 ≤ i ∧ i ≤ retryCount.val.toNat ∧ (outs i).sendFails = false ∧
          ∃ bytes, (outs i).recv = .datagram bytes ∧ Accepts (bytes.take 2048) ∧
            (call atMostOnce retryCount opCode body reqId outs reply).reply = decoded bytes ∧
            (call atMostOnce retryCount opCode body reqId outs reply).reply.h.msgType =
              MsgType.Reply.val ∧
            (call atMostOnce retryCount opCode body reqId outs reply).reply.h.requestId = reqId) := by
  obtain ⟨k, hk, hs⟩ := callLoop_sent (encode (request atMostOnce opCode body reqId)) reqId
    ((List.range retryCount.val.toNat).map fun i => outs (i + 1)) reply []
  refine ⟨?_, fun d hd => ?_, fun hok => ?_⟩
  · rw [call, hs]; simpa using hk
  · rw [call, hs, List.nil_append] at hd; exact List.eq_of_mem_replicate hd
  · obtain ⟨o, ho, hsf, reply', hrec⟩ := callLoop_ok _ _ _ _ _ hok
    obtain ⟨i, hi, rfl⟩ := List.mem_map.1 ho
    obtain ⟨bytes, hb, hacc, hrep, hty, hid⟩ := receive_true hrec
    exact ⟨i + 1, by omega, List.mem_range.1 hi, hsf, bytes, hb, hacc, hrep, hty, hid⟩

/-! ## A socket with a receive timeout -/

/-- The receive timeout `Client::call` sets with `SO_RCVTIMEO` from `timeoutMs_`, in ms: a
positive one (with zero, `recvfrom` would block). -/
structure Timeout where
  ms : Nat
  pos : 0 < ms

/-- A datagram reaching the client's socket at time `arrival` (ms). -/
structure Delivery where
  arrival : Nat
  bytes : Bytes
  deriving DecidableEq, Repr

/-- `recvfrom` called at time `now` on a socket whose datagrams still to be read are
`queue`, in arrival order: the first of them if it arrives by `now + timeout`, returned when
it arrives (at once if it is already there), and `EAGAIN` at `now + timeout` otherwise.  The
result is what `recvfrom` returned, the time it returned, and the queue left. -/
def recvTimed (timeout : Timeout) (now : Nat) : List Delivery → Recv × Nat × List Delivery
  | [] => (.timeout, now + timeout.ms, [])
  | d :: ds =>
    if d.arrival ≤ now + timeout.ms then (.datagram d.bytes, max now d.arrival, ds)
    else (.timeout, now + timeout.ms, d :: ds)

/-- The tape `n` attempts meet from time `now`: `sendto` succeeds and takes no time, and
each `recvfrom` starts when the previous one returned. -/
def timedTape (timeout : Timeout) : Nat → Nat → List Delivery → List Attempt
  | 0, _, _ => []
  | n + 1, now, queue =>
    match recvTimed timeout now queue with
    | (r, now', queue') => ⟨false, r⟩ :: timedTape timeout n now' queue'

/-- `Client::call` at time `start` against that socket. -/
def callTimed (atMostOnce : Bool) (retryCount : Int32) (timeout : Timeout) (opCode : UInt16)
    (body : Bytes) (reqId : UInt64) (start : Nat) (queue : List Delivery) (reply : Message) :
    Outcome :=
  callLoop (encode (request atMostOnce opCode body reqId)) reqId
    (timedTape timeout retryCount.val.toNat start queue) reply []

theorem length_timedTape (timeout : Timeout) :
    ∀ (n now : Nat) (queue : List Delivery), (timedTape timeout n now queue).length = n
  | 0, _, _ => rfl
  | n + 1, now, queue => by
    simp only [timedTape, List.length_cons, length_timedTape timeout n]

theorem map_range_getD {α : Type} (d : α) :
    ∀ l : List α, (List.range l.length).map (fun i => l.getD i d) = l
  | [] => rfl
  | a :: l => by
    rw [List.length_cons, List.range_succ_eq_map, List.map_cons, List.map_map]
    exact congrArg (a :: ·) (map_range_getD d l)

/-- The timed socket is one sequence of outcomes: `callTimed` is `call` on the tape it
produces, so `call_correlates` covers it. -/
theorem callTimed_eq_call (atMostOnce : Bool) (retryCount : Int32) (timeout : Timeout)
    (opCode : UInt16) (body : Bytes) (reqId : UInt64) (start : Nat) (queue : List Delivery)
    (reply : Message) :
    callTimed atMostOnce retryCount timeout opCode body reqId start queue reply =
      call atMostOnce retryCount opCode body reqId
        (fun i => (timedTape timeout retryCount.val.toNat start queue).getD (i - 1) ⟨false, .timeout⟩)
        reply := by
  unfold callTimed call
  congr 1
  conv_lhs => rw [← map_range_getD ⟨false, .timeout⟩ (timedTape _ _ start queue),
    length_timedTape]
  rfl

/-- A datagram the call does not take, queued when the call starts, costs the first
attempt even when the real reply arrives within the first timeout: the request is sent a
second time. -/
theorem callTimed_stray (atMostOnce : Bool) (retryCount : Int32) (timeout : Timeout)
    (opCode : UInt16) (body : Bytes) (reqId : UInt64) (start : Nat) (stray real : Delivery)
    (rest : List Delivery) (reply : Message) (hn : 2 ≤ retryCount.val)
    (hs : stray.arrival ≤ start) (hr : real.arrival ≤ start + timeout.ms)
    (hstray : ∀ m, (receive reqId m (.datagram stray.bytes)).1 = false)
    (hreal : ∀ m, (receive reqId m (.datagram real.bytes)).1 = true) :
    (callTimed atMostOnce retryCount timeout opCode body reqId start (stray :: real :: rest)
      reply).sent = [encode (request atMostOnce opCode body reqId),
        encode (request atMostOnce opCode body reqId)] := by
  obtain ⟨n, hn'⟩ : ∃ n, retryCount.val.toNat = n + 2 := ⟨retryCount.val.toNat - 2, by omega⟩
  have hmax : max start stray.arrival = start := Nat.max_eq_left hs
  unfold callTimed
  rw [hn']
  simp only [timedTape, recvTimed, if_pos (show stray.arrival ≤ start + timeout.ms by omega), hmax,
    if_pos hr]
  rcases h₁ : receive reqId reply (.datagram stray.bytes) with ⟨_ | _, m₁⟩
  · rcases h₂ : receive reqId m₁ (.datagram real.bytes) with ⟨_ | _, m₂⟩
    · have := hreal m₁; rw [h₂] at this; cases this
    · simp only [callLoop, Bool.false_eq_true, if_false, h₁, h₂, List.nil_append]; rfl
  · have := hstray reply; rw [h₁] at this; cases this

/-- The late Reply to the client's previous request, id 6. -/
def staleReply : Bytes := encode ⟨⟨MAGIC, 1, 2, 3, 0, 0, 6, 0⟩, []⟩

/-- The Reply to request 7. -/
def freshReply : Bytes := encode ⟨⟨MAGIC, 1, 2, 3, 0, 0, 7, 0⟩, []⟩

/-- With the default five attempts and 500 ms, a DEPOSIT with id 7 started at time 0 finds
the stale reply queued and the fresh one arriving at 1 ms, within the first timeout: the
call succeeds, but only after sending the request twice. -/
theorem stray_reply_resends :
    (callTimed false ⟨5, by decide, by decide⟩ ⟨500, by decide⟩ 3 [] 7 0
        [⟨0, staleReply⟩, ⟨1, freshReply⟩] default).sent =
      [encode (request false 3 [] 7), encode (request false 3 [] 7)] ∧
    (callTimed false ⟨5, by decide, by decide⟩ ⟨500, by decide⟩ 3 [] 7 0
        [⟨0, staleReply⟩, ⟨1, freshReply⟩] default).ok = true := by
  decide

/-- A Reply to request 7 that declares protocol version 2. -/
def version2Reply : Message := ⟨⟨MAGIC, 2, 2, 3, 0, 0, 7, 0⟩, []⟩

/-- `decode` never looks at the version byte, and `Client::call` filters on the message type
and the id only: a version-2 Reply decodes and the call returns it as its answer. -/
theorem call_accepts_version2 :
    decode (encode version2Reply) default = (true, version2Reply) ∧
      (call false ⟨5, by decide, by decide⟩ 3 [] 7
        (fun _ => ⟨false, .datagram (encode version2Reply)⟩) default).ok = true ∧
      (call false ⟨5, by decide, by decide⟩ 3 [] 7
        (fun _ => ⟨false, .datagram (encode version2Reply)⟩) default).reply = version2Reply := by
  decide

end Client

end DistributedBank
