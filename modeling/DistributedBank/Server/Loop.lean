/-
# DistributedBank.Server.Loop — the full server's receive loop (`z_server_cpp/src/main.cpp`)

Lines 119-361.  Each pass of `while (true)` reads the clock into `t`, drops the
subscriptions and the dedup entries with `expireAt ≤ t`, and blocks in `recvfrom`.  A
datagram that decodes as a version-1 Request is then either answered from the dedup cache
(at-most-once flag set and its key cached) or dispatched; when the flag is set the encoded
reply is cached for 60 s, and the callbacks go out before the reply.

The loop reads the world through a `Tick`: the clock readings of one pass, what `recvfrom`
returned, and the outcomes of the draws `uni(rng) < lossReq` and `uni(rng) < lossRep`.  A
run is a list of ticks, `Chronological` when the clock never goes back.  The datagrams a
pass sends leave after its `recvfrom` returned.  The basic server of `server_cpp` runs the
same loop text with a smaller dispatch, so the loop takes its `Dispatcher` as a parameter
(`executeWith`, `serveWith`, `stepWith`, `runWith`); `execute`, `serve`, `step` and `run`
are the full server's.

* `serve_cases`: what one pass can do after its sweep: nothing, replay a cached reply, or
  `execute` the request;
* `step_keeps_entry`, `run_keeps_entry`: a dedup entry stays, unchanged, until a sweep at
  or after its `expireAt`; `step_replay`: a request whose key is cached runs nothing;
* `at_most_once_window`: after a pass executes an at-most-once request and caches its
  reply `R`, every copy received within 60 s only sweeps, leaves the entry cached, and at
  most `R` goes back;
* `dedupKey_injective`: two datagrams share a dedup key only when they come from the same
  address and port with the same request id;
* `step_monitors`, `run_monitors`: a subscription is one a pass of the run created by
  executing a MONITOR_REGISTER (`Registered`), not one of a dropped, oversized or replayed
  datagram;
* `step_callbacks`, `callbacks_within_ttl`: a callback goes only to such a subscription,
  alive when its pass swept, although the pass may send it long after;
* `callback_fan_out`: the callbacks of a pass are the dispatch's fan-out over the
  subscriptions its sweep kept, or none, and a cache replay sends none.
-/
import DistributedBank.Server.Dispatch

namespace DistributedBank

set_option autoImplicit false

/-- `struct DedupEntry`. -/
structure DedupEntry where
  replyBytes : Bytes
  expireAt : Time
  deriving DecidableEq, Repr

/-- The loop's state: `bank`, `monitors` and `dedup`. -/
structure Server where
  bank : Bank
  monitors : List MonitorEntry
  dedup : Bytes → Option DedupEntry

/-- The state before the first pass. -/
def Server.init : Server := ⟨Bank.init, [], fun _ => none⟩

/-- `addrToKey`: `inet_ntoa`'s dotted quad, a colon and the port. -/
def addrToKey (a : SockAddr) : Bytes :=
  decimal (a.ip.toNat / 2 ^ 24 % 256) ++ ascii "." ++ decimal (a.ip.toNat / 2 ^ 16 % 256) ++
    ascii "." ++ decimal (a.ip.toNat / 2 ^ 8 % 256) ++ ascii "." ++ decimal (a.ip.toNat % 256) ++
    ascii ":" ++ decimal a.port.toNat

/-- `clientKey + "#" + std::to_string(requestId)`. -/
def dedupKey (peer : SockAddr) (requestId : UInt64) : Bytes :=
  addrToKey peer ++ ascii "#" ++ decimal requestId.toNat

/-- Still alive at `t`: the sweeps keep exactly the entries with `t < expireAt`. -/
def alive (t expireAt : Time) : Bool := !decide (expireAt ≤ t)

/-- The cleanup at the top of the loop. -/
def sweep (t : Time) (s : Server) : Server :=
  { s with
    monitors := s.monitors.filter fun e => alive t e.expireAt
    dedup := fun k => (s.dedup k).filter fun e => alive t e.expireAt }

/-- A datagram `recvfrom` returned, and its sender. -/
structure Arrival where
  peer : SockAddr
  bytes : Bytes
  deriving DecidableEq, Repr

/-- What one pass reads from the world. -/
structure Tick where
  /-- `t`, read before the sweep. -/
  sweepAt : Time
  /-- `recvfrom`'s datagram; `none` is `SOCKET_ERROR`. -/
  recv : Option Arrival
  /-- When `recvfrom` returned. -/
  recvAt : Time
  /-- `uni(rng) < lossReq`. -/
  dropRequest : Bool
  /-- The `now()` of MONITOR_REGISTER. -/
  registeredAt : Time
  /-- The `now()` of the dedup insert. -/
  cachedAt : Time
  /-- `uni(rng) < lossRep`. -/
  dropReply : Bool
  deriving DecidableEq, Repr

/-- The datagrams one pass sends, in order: the callbacks, then the reply. -/
structure Sent where
  callbacks : List Datagram
  reply : Option Datagram
  deriving DecidableEq, Repr

/-- A pass that sends nothing. -/
def Sent.none : Sent := ⟨[], .none⟩

/-- The reply `sendto`, unless the reply-loss draw drops it. -/
def replyTo (τ : Tick) (peer : SockAddr) (bytes : Bytes) : Option Datagram :=
  if τ.dropReply then .none else some ⟨peer, bytes⟩

/-- `(req.h.flags & FLAG_AT_MOST_ONCE) != 0`. -/
def atMostOnce (req : Message) : Bool := req.h.flags &&& FLAG_AT_MOST_ONCE != 0

/-- The opcode dispatch a loop calls, from the bank, the subscriptions, the peer, the
`now()` of MONITOR_REGISTER and the request: `dispatch` in `z_server_cpp`, `Basic.dispatch`
in `server_cpp`.  The two loops are otherwise the same text. -/
abbrev Dispatcher := Bank → List MonitorEntry → SockAddr → Time → Message → Handled

/-- Dispatch a request, cache the encoded reply when `atMostOnce`, and send. -/
def executeWith (dispatch : Dispatcher) (s : Server) (τ : Tick) (peer : SockAddr) (req : Message)
    (atMostOnce : Bool) : Server × Sent :=
  let d := dispatch s.bank s.monitors peer τ.registeredAt req
  let repBytes := encode (replyOf req d)
  let dedup := if atMostOnce then
      Function.update s.dedup (dedupKey peer req.h.requestId)
        (some ⟨repBytes, τ.cachedAt + seconds 60⟩)
    else s.dedup
  (⟨d.bank, d.monitors, dedup⟩, ⟨d.callbacks, replyTo τ peer repBytes⟩)

/-- A pass after its sweep.  A datagram over the 2048-byte buffer makes `recvfrom` fail
(`WSAEMSGSIZE`); the decode goes into a fresh `proto::Message`. -/
def serveWith (dispatch : Dispatcher) (s : Server) (τ : Tick) : Server × Sent :=
  match τ.recv with
  | .none => (s, .none)
  | some a =>
    if a.bytes.length > 2048 ∨ τ.dropRequest then (s, .none) else
    match decode a.bytes default with
    | (false, _) => (s, .none)
    | (true, req) =>
      if req.h.version ≠ VERSION ∨ req.h.msgType ≠ MsgType.Request.val then (s, .none) else
      if atMostOnce req then
        match s.dedup (dedupKey a.peer req.h.requestId) with
        | some e => (s, ⟨[], replyTo τ a.peer e.replyBytes⟩)
        | .none => executeWith dispatch s τ a.peer req true
      else executeWith dispatch s τ a.peer req false

/-- One pass of the loop. -/
def stepWith (dispatch : Dispatcher) (s : Server) (τ : Tick) : Server × Sent :=
  serveWith dispatch (sweep τ.sweepAt s) τ

/-- The state after a run. -/
def runWith (dispatch : Dispatcher) (s : Server) (ts : List Tick) : Server :=
  ts.foldl (fun s τ => (stepWith dispatch s τ).1) s

/-! ### The full server's loop -/

def execute (s : Server) (τ : Tick) (peer : SockAddr) (req : Message) (atMostOnce : Bool) :
    Server × Sent :=
  executeWith dispatch s τ peer req atMostOnce

def serve (s : Server) (τ : Tick) : Server × Sent := serveWith dispatch s τ

def step (s : Server) (τ : Tick) : Server × Sent := stepWith dispatch s τ

def run (s : Server) (ts : List Tick) : Server := runWith dispatch s ts

/-- The clock readings of one pass, in the order the code takes them. -/
def Tick.Ordered (τ : Tick) : Prop :=
  τ.sweepAt ≤ τ.recvAt ∧ τ.recvAt ≤ τ.registeredAt ∧ τ.registeredAt ≤ τ.cachedAt

/-- A run whose clock never goes back. -/
def Chronological (ts : List Tick) : Prop :=
  (∀ τ ∈ ts, τ.Ordered) ∧ ts.Pairwise fun τ τ' => τ.cachedAt ≤ τ'.sweepAt

instance (τ : Tick) : Decidable τ.Ordered := inferInstanceAs (Decidable (_ ∧ _))

instance (ts : List Tick) : Decidable (Chronological ts) := inferInstanceAs (Decidable (_ ∧ _))

/-! ## Sweeps -/

theorem step_eq_serve (s : Server) (τ : Tick) : step s τ = serve (sweep τ.sweepAt s) τ := rfl

@[simp] theorem sweep_bank (t : Time) (s : Server) : (sweep t s).bank = s.bank := rfl

theorem mem_sweep_monitors {t : Time} {s : Server} {m : MonitorEntry} :
    m ∈ (sweep t s).monitors ↔ m ∈ s.monitors ∧ t < m.expireAt := by
  simp [sweep, alive]

theorem sweep_dedup_eq_some {t : Time} {s : Server} {k : Bytes} {e : DedupEntry} :
    (sweep t s).dedup k = some e ↔ s.dedup k = some e ∧ t < e.expireAt := by
  simp only [sweep, Option.filter_eq_some, Option.mem_def, alive, Bool.not_eq_true',
    decide_eq_false_iff_not, not_le]

theorem sweep_dedup_eq_none {t : Time} {s : Server} {k : Bytes} (h : s.dedup k = .none) :
    (sweep t s).dedup k = .none := by
  simp [sweep, h]

/-- An entry whose `expireAt` the sweep's reading has reached is dropped. -/
theorem sweep_dedup_expired {t : Time} {s : Server} {k : Bytes} {e : DedupEntry}
    (h : s.dedup k = some e) (ht : e.expireAt ≤ t) : (sweep t s).dedup k = .none := by
  simp [sweep, h, alive, ht]

/-! ## One pass -/

/-- The request a datagram carries, as `serve` reads it: decodable, version 1, a Request. -/
def IsRequest (raw : Bytes) : Prop :=
  Accepts raw ∧ (decoded raw).h.version = VERSION ∧ (decoded raw).h.msgType = MsgType.Request.val

/-- The three things a pass can do after its sweep: nothing, replay a cached reply, or
execute the request (under the at-most-once flag only when its key is not cached). -/
theorem serveWith_cases (d : Dispatcher) (s : Server) (τ : Tick) :
    ((∀ a, τ.recv = some a → a.bytes.length ≤ 2048 → τ.dropRequest = false → ¬IsRequest a.bytes) ∧
      serveWith d s τ = (s, .none)) ∨
    (∃ a e, τ.recv = some a ∧ IsRequest a.bytes ∧ atMostOnce (decoded a.bytes) = true ∧
      s.dedup (dedupKey a.peer (decoded a.bytes).h.requestId) = some e ∧
      serveWith d s τ = (s, ⟨[], replyTo τ a.peer e.replyBytes⟩)) ∨
    (∃ a, τ.recv = some a ∧ a.bytes.length ≤ 2048 ∧ τ.dropRequest = false ∧ IsRequest a.bytes ∧
      (atMostOnce (decoded a.bytes) = true →
        s.dedup (dedupKey a.peer (decoded a.bytes).h.requestId) = .none) ∧
      serveWith d s τ = executeWith d s τ a.peer (decoded a.bytes) (atMostOnce (decoded a.bytes))) := by
  unfold serveWith
  match hr : τ.recv with
  | .none => exact .inl ⟨by simp, rfl⟩
  | some a =>
    simp only
    by_cases hdrop : a.bytes.length > 2048 ∨ τ.dropRequest = true
    · rw [if_pos hdrop]
      refine .inl ⟨fun a' ha' hlen hkeep => ?_, rfl⟩
      cases ha'; simp [hkeep] at hdrop; omega
    rw [if_neg hdrop]
    obtain ⟨hlen, hkeep⟩ : a.bytes.length ≤ 2048 ∧ τ.dropRequest = false := by simpa using hdrop
    match hd : decode a.bytes default with
    | (false, _) =>
      refine .inl ⟨fun a' ha' _ _ hreq => ?_, rfl⟩
      cases ha'; simpa [hd] using (decode_ok_iff a.bytes default).2 hreq.1
    | (true, req) =>
      obtain ⟨hacc, rfl⟩ := (decode_eq_true_iff _ _ _).1 hd
      simp only
      by_cases hv : (decoded a.bytes).h.version ≠ VERSION ∨
          (decoded a.bytes).h.msgType ≠ MsgType.Request.val
      · rw [if_pos hv]
        refine .inl ⟨fun a' ha' _ _ hreq => ?_, rfl⟩
        cases ha'; exact hv.elim (· hreq.2.1) (· hreq.2.2)
      rw [if_neg hv]
      have hreq : IsRequest a.bytes := ⟨hacc, by simpa using hv⟩
      cases hf : atMostOnce (decoded a.bytes)
      · exact .inr (.inr ⟨a, rfl, hlen, hkeep, hreq, fun h => absurd (hf.symm.trans h) (by decide),
          by rw [hf]; rfl⟩)
      · rw [if_pos rfl]
        split
        · exact .inr (.inl ⟨a, _, rfl, hreq, hf, ‹_›, rfl⟩)
        · exact .inr (.inr ⟨a, rfl, hlen, hkeep, hreq, fun _ => ‹_›, by rw [hf]⟩)

theorem serve_cases (s : Server) (τ : Tick) :
    ((∀ a, τ.recv = some a → a.bytes.length ≤ 2048 → τ.dropRequest = false → ¬IsRequest a.bytes) ∧
      serve s τ = (s, .none)) ∨
    (∃ a e, τ.recv = some a ∧ IsRequest a.bytes ∧ atMostOnce (decoded a.bytes) = true ∧
      s.dedup (dedupKey a.peer (decoded a.bytes).h.requestId) = some e ∧
      serve s τ = (s, ⟨[], replyTo τ a.peer e.replyBytes⟩)) ∨
    (∃ a, τ.recv = some a ∧ a.bytes.length ≤ 2048 ∧ τ.dropRequest = false ∧ IsRequest a.bytes ∧
      (atMostOnce (decoded a.bytes) = true →
        s.dedup (dedupKey a.peer (decoded a.bytes).h.requestId) = .none) ∧
      serve s τ = execute s τ a.peer (decoded a.bytes) (atMostOnce (decoded a.bytes))) :=
  serveWith_cases dispatch s τ

theorem mem_replyTo {τ : Tick} {peer : SockAddr} {bytes : Bytes} {d : Datagram}
    (h : d ∈ replyTo τ peer bytes) : d = ⟨peer, bytes⟩ := by
  unfold replyTo at h; split at h
  · cases h
  · exact (Option.mem_some_iff.1 h).symm

/-- A request that reaches the cache lookup and misses is executed. -/
theorem serve_execute {s : Server} {τ : Tick} {a : Arrival} (hrecv : τ.recv = some a)
    (hfit : a.bytes.length ≤ 2048) (hkeep : τ.dropRequest = false) (hreq : IsRequest a.bytes)
    (hmiss : atMostOnce (decoded a.bytes) = true →
      s.dedup (dedupKey a.peer (decoded a.bytes).h.requestId) = .none) :
    serve s τ = execute s τ a.peer (decoded a.bytes) (atMostOnce (decoded a.bytes)) := by
  rcases serve_cases s τ with ⟨hnone, -⟩ | ⟨a', e, ha', -, hf, he, -⟩ | ⟨a', ha', -, -, -, -, h⟩
  · exact absurd hreq (hnone a hrecv hfit hkeep)
  · cases hrecv.symm.trans ha'; rw [hmiss hf] at he; cases he
  · cases hrecv.symm.trans ha'; exact h

/-- A request whose key is cached runs nothing, and at most the cached bytes go back. -/
theorem serve_replay {s : Server} {τ : Tick} {a : Arrival} {e : DedupEntry}
    (hrecv : τ.recv = some a) (hflag : atMostOnce (decoded a.bytes) = true)
    (he : s.dedup (dedupKey a.peer (decoded a.bytes).h.requestId) = some e) :
    (serve s τ).1 = s ∧ (serve s τ).2.callbacks = [] ∧
      ∀ d ∈ (serve s τ).2.reply, d = ⟨a.peer, e.replyBytes⟩ := by
  rcases serve_cases s τ with ⟨-, h⟩ | ⟨a', e', ha', -, -, he', h⟩ | ⟨a', ha', -, -, -, hmiss, -⟩
  · rw [h]; exact ⟨rfl, rfl, fun _ h => nomatch h⟩
  · cases hrecv.symm.trans ha'; rw [he] at he'; cases he'
    rw [h]; exact ⟨rfl, rfl, fun _ => mem_replyTo⟩
  · cases hrecv.symm.trans ha'; rw [hmiss hflag] at he; cases he

/-! ## What `execute` writes -/

/-- `execute` caches under its own key only, and only when `atMostOnce`. -/
theorem execute_dedup_other {s : Server} {τ : Tick} {peer : SockAddr} {req : Message}
    {flag : Bool} {k : Bytes} {e : DedupEntry}
    (hmiss : flag = true → s.dedup (dedupKey peer req.h.requestId) = .none) (hk : s.dedup k = some e) :
    (execute s τ peer req flag).1.dedup k = some e := by
  cases flag
  · exact hk
  · have hne : k ≠ dedupKey peer req.h.requestId := fun he => by rw [he, hmiss rfl] at hk; cases hk
    simp only [execute, executeWith, if_true]; rw [Function.update_noteq hne]; exact hk

theorem execute_bank (s : Server) (τ : Tick) (peer : SockAddr) (req : Message) (flag : Bool) :
    (execute s τ peer req flag).1.bank = (dispatch s.bank s.monitors peer τ.registeredAt req).bank :=
  rfl

theorem execute_stores (s : Server) (τ : Tick) (peer : SockAddr) (req : Message) :
    let R := encode (replyOf req (dispatch s.bank s.monitors peer τ.registeredAt req))
    (execute s τ peer req true).1.dedup (dedupKey peer req.h.requestId) =
        some ⟨R, τ.cachedAt + seconds 60⟩ ∧
      (execute s τ peer req true).2.reply = replyTo τ peer R := by
  simp [execute, executeWith]

/-! ## One pass, sweep included -/

theorem step_keeps_entry {s : Server} {τ : Tick} {k : Bytes} {e : DedupEntry}
    (hk : s.dedup k = some e) (ht : τ.sweepAt < e.expireAt) : (step s τ).1.dedup k = some e := by
  have hk' := sweep_dedup_eq_some.2 ⟨hk, ht⟩
  rw [step_eq_serve]
  rcases serve_cases (sweep τ.sweepAt s) τ with ⟨-, h⟩ | ⟨_, _, -, -, -, -, h⟩ |
      ⟨_, -, -, -, -, hmiss, h⟩ <;> rw [h]
  exacts [hk', hk', execute_dedup_other hmiss hk']

theorem run_cons (s : Server) (τ : Tick) (ts : List Tick) : run s (τ :: ts) = run (step s τ).1 ts :=
  rfl

theorem run_keeps_entry {k : Bytes} {e : DedupEntry} :
    ∀ {s : Server} {ts : List Tick}, s.dedup k = some e → (∀ τ ∈ ts, τ.sweepAt < e.expireAt) →
      (run s ts).dedup k = some e
  | _, [], hk, _ => hk
  | _, τ :: _, hk, ht => by
    rw [run_cons]
    exact run_keeps_entry (step_keeps_entry hk (ht τ (.head _))) fun τ' h => ht τ' (.tail _ h)

/-! ## Dedup keys -/

/-- Two byte strings cut at the first `c` each holds are equal piece by piece. -/
theorem append_cons_inj {d₁ d₂ r₁ r₂ : Bytes} {c : UInt8} (h₁ : c ∉ d₁) (h₂ : c ∉ d₂)
    (h : d₁ ++ c :: r₁ = d₂ ++ c :: r₂) : d₁ = d₂ ∧ r₁ = r₂ := by
  induction d₁ generalizing d₂ with
  | nil =>
    cases d₂ with
    | nil => exact ⟨rfl, (List.cons.inj h).2⟩
    | cons y d₂ => exact absurd (List.mem_cons.2 (.inl (List.cons.inj h).1)) h₂
  | cons x d₁ ih =>
    cases d₂ with
    | nil => exact absurd (List.mem_cons.2 (.inl (List.cons.inj h).1.symm)) h₁
    | cons y d₂ =>
      obtain ⟨rfl, ht⟩ := List.cons.inj h
      obtain ⟨rfl, rfl⟩ := ih (fun hc => h₁ (.tail _ hc)) (fun hc => h₂ (.tail _ hc)) ht
      exact ⟨rfl, rfl⟩

/-- A decimal rendering followed by a byte that is no digit splits back into the number and
the rest. -/
theorem decimal_append_cons_inj {m n : Nat} {r₁ r₂ : Bytes} {c : UInt8}
    (hc : c.toNat < 48 ∨ 57 < c.toNat) (h : decimal m ++ c :: r₁ = decimal n ++ c :: r₂) :
    m = n ∧ r₁ = r₂ := by
  have hsep : ∀ k, c ∉ decimal k := fun k hk => by have := mem_decimal hk; omega
  obtain ⟨hd, hr⟩ := append_cons_inj (hsep m) (hsep n) h
  exact ⟨decimal_injective hd, hr⟩

/-- The key's six decimal fields and the separators `.`, `.`, `.`, `:` and `#` between them. -/
theorem dedupKey_eq (a : SockAddr) (i : UInt64) :
    dedupKey a i =
      decimal (a.ip.toNat / 2 ^ 24 % 256) ++ 46 :: (decimal (a.ip.toNat / 2 ^ 16 % 256) ++ 46 ::
        (decimal (a.ip.toNat / 2 ^ 8 % 256) ++ 46 :: (decimal (a.ip.toNat % 256) ++ 58 ::
          (decimal a.port.toNat ++ 35 :: decimal i.toNat)))) := by
  simp only [dedupKey, addrToKey, List.append_assoc]
  rfl

/-- Distinct peers or request ids never share a dedup key: no separator is a digit, so the
key splits back into its six decimal fields, and each rendering gives back its number. -/
theorem dedupKey_injective {a a' : SockAddr} {i i' : UInt64} (h : dedupKey a i = dedupKey a' i') :
    a.ip = a'.ip ∧ a.port = a'.port ∧ i = i' := by
  rw [dedupKey_eq, dedupKey_eq] at h
  obtain ⟨h1, h⟩ := decimal_append_cons_inj (by decide) h
  obtain ⟨h2, h⟩ := decimal_append_cons_inj (by decide) h
  obtain ⟨h3, h⟩ := decimal_append_cons_inj (by decide) h
  obtain ⟨h4, h⟩ := decimal_append_cons_inj (by decide) h
  obtain ⟨hport, h⟩ := decimal_append_cons_inj (by decide) h
  refine ⟨UInt32.toNat.inj ?_, UInt16.toNat.inj hport, UInt64.toNat.inj (decimal_injective h)⟩
  have := a.ip.toNat_lt_size
  have := a'.ip.toNat_lt_size
  simp only [UInt32.size] at *
  omega

theorem dedupKey_injective_loopback :
    let a : SockAddr := ⟨0x7F000001, 5001⟩
    dedupKey a 7 = dedupKey a 7 ∧ a.ip = a.ip ∧ a.port = a.port ∧ (7 : UInt64) = 7 :=
  ⟨rfl, dedupKey_injective rfl⟩

example : dedupKey ⟨0x7F000001, 5001⟩ 7 = ascii "127.0.0.1:5001#7" := by decide

/-! ## At most once -/

/-- A datagram carrying an at-most-once Request with id `id`. -/
def FlaggedRequest (raw : Bytes) (id : UInt64) : Prop :=
  IsRequest raw ∧ atMostOnce (decoded raw) = true ∧ (decoded raw).h.requestId = id

instance (raw : Bytes) : Decidable (IsRequest raw) := inferInstanceAs (Decidable (_ ∧ _))

instance (raw : Bytes) (id : UInt64) : Decidable (FlaggedRequest raw id) :=
  inferInstanceAs (Decidable (_ ∧ _))

/-- A pass that receives a cached at-most-once request before the entry expires only
sweeps: the bank is untouched, nothing is dispatched, and at most the cached bytes go back. -/
theorem step_replay {s : Server} {τ : Tick} {a : Arrival} {id : UInt64} {e : DedupEntry}
    (hk : s.dedup (dedupKey a.peer id) = some e) (ht : τ.sweepAt < e.expireAt)
    (hrecv : τ.recv = some a) (hreq : FlaggedRequest a.bytes id) :
    (step s τ).1 = sweep τ.sweepAt s ∧ (step s τ).2.callbacks = [] ∧
      ∀ d ∈ (step s τ).2.reply, d = ⟨a.peer, e.replyBytes⟩ := by
  obtain ⟨-, hflag, rfl⟩ := hreq
  exact serve_replay hrecv hflag (sweep_dedup_eq_some.2 ⟨hk, ht⟩)

theorem Chronological.sweepAt_le {pre : List Tick} {τ' : Tick} (h : Chronological (pre ++ [τ'])) :
    ∀ τ ∈ pre, τ.sweepAt ≤ τ'.recvAt := by
  intro τ hτ
  have hτ' : τ' ∈ pre ++ [τ'] := List.mem_append_right _ (List.mem_singleton_self _)
  obtain ⟨h1, h2, h3⟩ := h.1 τ (List.mem_append_left _ hτ)
  calc τ.sweepAt ≤ τ.cachedAt := Nat.le_trans h1 (Nat.le_trans h2 h3)
    _ ≤ τ'.sweepAt := (List.pairwise_append.1 h.2).2.2 τ hτ τ' (List.mem_singleton_self _)
    _ ≤ τ'.recvAt := (h.1 τ' hτ').1

theorem at_most_once_window (s : Server) (τ : Tick) (a : Arrival) (id : UInt64)
    (hrecv : τ.recv = some a) (hfit : a.bytes.length ≤ 2048) (hkeep : τ.dropRequest = false)
    (hreq : FlaggedRequest a.bytes id)
    (hmiss : (sweep τ.sweepAt s).dedup (dedupKey a.peer id) = none) :
    ∃ R, (step s τ).1.dedup (dedupKey a.peer id) = some ⟨R, τ.cachedAt + seconds 60⟩ ∧
      (∀ d ∈ (step s τ).2.reply, d = ⟨a.peer, R⟩) ∧
      ∀ (pre : List Tick) (τ' : Tick) (a' : Arrival), Chronological (pre ++ [τ']) →
        τ'.recv = some a' → a'.peer = a.peer → FlaggedRequest a'.bytes id →
        τ'.recvAt < τ.cachedAt + seconds 60 →
        let s' := run (step s τ).1 pre
        (step s' τ').1 = sweep τ'.sweepAt s' ∧
          (step s' τ').1.dedup (dedupKey a.peer id) = some ⟨R, τ.cachedAt + seconds 60⟩ ∧
          (step s' τ').2.callbacks = [] ∧ ∀ d ∈ (step s' τ').2.reply, d = ⟨a.peer, R⟩ := by
  obtain ⟨hisreq, hflag, rfl⟩ := hreq
  have hexec : step s τ = execute (sweep τ.sweepAt s) τ a.peer (decoded a.bytes) true :=
    (serve_execute hrecv hfit hkeep hisreq fun _ => hmiss).trans (by rw [hflag])
  obtain ⟨hstore, hreply⟩ := execute_stores (sweep τ.sweepAt s) τ a.peer (decoded a.bytes)
  rw [hexec]
  refine ⟨_, hstore, fun d hd => mem_replyTo (hreply ▸ hd), ?_⟩
  intro pre τ' a' hchron hrecv' hpeer hreq' hwin
  have hle := hchron.sweepAt_le
  have hord := (hchron.1 τ' (List.mem_append_right _ (List.mem_singleton_self _))).1
  have hk := run_keeps_entry hstore fun τ'' h => Nat.lt_of_le_of_lt (hle τ'' h) hwin
  rw [← hpeer] at hk ⊢
  have hlive : τ'.sweepAt < τ.cachedAt + seconds 60 := Nat.lt_of_le_of_lt hord hwin
  obtain ⟨hsweep, hcb, hrep⟩ := step_replay hk hlive hrecv' hreq'
  exact ⟨hsweep, step_keeps_entry hk hlive, hcb, hrep⟩

/-- A subscriber and a client on the loopback interface. -/
def peerA : SockAddr := ⟨0x7F000001, 5001⟩

def peerB : SockAddr := ⟨0x7F000001, 5002⟩

/-- `peerB`'s at-most-once request 7 of an unknown opcode, received at `t`. -/
def unknownOpPass (t : Time) : Tick :=
  ⟨t, some ⟨peerB, encode ⟨⟨MAGIC, 1, 1, 0, 1, 0, 7, 0⟩, []⟩⟩, t, false, t, t, false⟩

/-- `peerA` subscribing for one second at time 0. -/
def subscribePass : Tick :=
  ⟨0, some ⟨peerA, encode ⟨⟨MAGIC, 1, 1, 5, 0, 0, 1, 2⟩, putU16 [] 1⟩⟩, 0, false, 0, 0, false⟩

theorem at_most_once_window_unknown_op :
    ∃ R, (step Server.init (unknownOpPass 0)).1.dedup (dedupKey peerB 7) =
        some ⟨R, (unknownOpPass 0).cachedAt + seconds 60⟩ ∧
      (∀ d ∈ (step Server.init (unknownOpPass 0)).2.reply, d = ⟨peerB, R⟩) ∧
      ∀ (pre : List Tick) (τ' : Tick) (a' : Arrival), Chronological (pre ++ [τ']) →
        τ'.recv = some a' → a'.peer = peerB → FlaggedRequest a'.bytes 7 →
        τ'.recvAt < (unknownOpPass 0).cachedAt + seconds 60 →
        let s' := run (step Server.init (unknownOpPass 0)).1 pre
        (step s' τ').1 = sweep τ'.sweepAt s' ∧
          (step s' τ').1.dedup (dedupKey peerB 7) =
            some ⟨R, (unknownOpPass 0).cachedAt + seconds 60⟩ ∧
          (step s' τ').2.callbacks = [] ∧ ∀ d ∈ (step s' τ').2.reply, d = ⟨peerB, R⟩ :=
  at_most_once_window Server.init (unknownOpPass 0) ⟨peerB, encode ⟨⟨MAGIC, 1, 1, 0, 1, 0, 7, 0⟩, []⟩⟩
    7 rfl (by decide) rfl (by decide) (by decide)

/-- The pass of a duplicate still sweeps: a subscription that expired since the first copy
was executed leaves the list in the duplicate's pass. -/
theorem duplicate_pass_sweeps :
    Chronological [subscribePass, unknownOpPass 0, unknownOpPass (seconds 2)] ∧
      FlaggedRequest (encode ⟨⟨MAGIC, 1, 1, 0, 1, 0, 7, 0⟩, []⟩) 7 ∧
      (run Server.init [subscribePass]).dedup (dedupKey peerB 7) = none ∧
      ((run Server.init [subscribePass, unknownOpPass 0]).dedup (dedupKey peerB 7)).isSome ∧
      (unknownOpPass (seconds 2)).recvAt < (unknownOpPass 0).cachedAt + seconds 60 ∧
      (step (run Server.init [subscribePass, unknownOpPass 0]) (unknownOpPass (seconds 2))).1.monitors ≠
        (run Server.init [subscribePass, unknownOpPass 0]).monitors := by
  decide

/-! ## Callbacks and subscription lifetimes -/

/-- Every callback of a pass goes to a subscription that was alive at the pass's sweep. -/
theorem step_callbacks (s : Server) (τ : Tick) :
    ∀ d ∈ (step s τ).2.callbacks, ∃ m ∈ s.monitors, d.peer = m.addr ∧ τ.sweepAt < m.expireAt := by
  rw [step_eq_serve]
  rcases serve_cases (sweep τ.sweepAt s) τ with ⟨-, h⟩ | ⟨_, _, -, -, -, -, h⟩ |
      ⟨_, -, -, -, -, -, h⟩ <;> rw [h]
  · exact fun _ h => nomatch h
  · exact fun _ h => nomatch h
  · intro d hd
    obtain ⟨m, hm, hpeer⟩ := dispatch_callbacks _ _ _ _ _ d hd
    obtain ⟨hm, ht⟩ := mem_sweep_monitors.1 hm
    exact ⟨m, hm, hpeer, ht⟩

/-- The pass `τ`, meeting the state `s`, executes the request `a` carries: `recvfrom`
returned it, it fits the buffer, the loss draw kept it, it is a version-1 Request, and under
the at-most-once flag its key missed the cache after the sweep.  These are the conditions of
`serve_cases`'s third case. -/
def Executes (s : Server) (τ : Tick) (a : Arrival) : Prop :=
  τ.recv = some a ∧ a.bytes.length ≤ 2048 ∧ τ.dropRequest = false ∧ IsRequest a.bytes ∧
    (atMostOnce (decoded a.bytes) = true →
      (sweep τ.sweepAt s).dedup (dedupKey a.peer (decoded a.bytes).h.requestId) = .none)

/-- A pass that executes a request runs `execute` on the state its sweep left. -/
theorem step_executes {s : Server} {τ : Tick} {a : Arrival} (h : Executes s τ a) :
    step s τ = execute (sweep τ.sweepAt s) τ a.peer (decoded a.bytes) (atMostOnce (decoded a.bytes)) :=
  let ⟨hrecv, hfit, hkeep, hreq, hmiss⟩ := h
  (step_eq_serve s τ).trans (serve_execute hrecv hfit hkeep hreq hmiss)

/-- The pass `τ`, meeting the state `s`, creates the subscription `m`: it executes a
MONITOR_REGISTER whose body parses, and `m` is the sender, for the seconds the body carried,
from the pass's `now()`. -/
def Registers (s : Server) (τ : Tick) (m : MonitorEntry) : Prop :=
  ∃ a, Executes s τ a ∧ (decoded a.bytes).h.opCode = OpCode.MONITOR_REGISTER.val ∧
    ∃ secs, parseMonitor (decoded a.bytes).body = some secs ∧
      m = ⟨a.peer, τ.registeredAt + seconds secs.toNat⟩

/-- A subscription that a pass of the run `ts` from `s` created, in the state that pass
met. -/
def Registered (s : Server) (ts : List Tick) (m : MonitorEntry) : Prop :=
  ∃ pre τ post, ts = pre ++ τ :: post ∧ Registers (run s pre) τ m

/-- A pass keeps, of its subscriptions, those its sweep keeps, and adds at most the one it
creates. -/
theorem step_monitors (s : Server) (τ : Tick) :
    ∀ m ∈ (step s τ).1.monitors, m ∈ s.monitors ∨ Registers s τ m := by
  rw [step_eq_serve]
  rcases serve_cases (sweep τ.sweepAt s) τ with ⟨-, h⟩ | ⟨_, _, -, -, -, -, h⟩ |
      ⟨a, ha, hfit, hkeep, hreq, hmiss, h⟩ <;> rw [h]
  · exact fun m hm => .inl (mem_sweep_monitors.1 hm).1
  · exact fun m hm => .inl (mem_sweep_monitors.1 hm).1
  · intro m hm
    rcases dispatch_monitors (sweep τ.sweepAt s).bank (sweep τ.sweepAt s).monitors a.peer
        τ.registeredAt (decoded a.bytes) with he | ⟨hop, secs, hsecs, he⟩ <;>
      simp only [execute, executeWith, he, List.mem_append, List.mem_singleton] at hm
    · exact .inl (mem_sweep_monitors.1 hm).1
    · rcases hm with hm | rfl
      · exact .inl (mem_sweep_monitors.1 hm).1
      · exact .inr ⟨a, ⟨ha, hfit, hkeep, hreq, hmiss⟩, hop, secs, hsecs, rfl⟩

theorem run_monitors :
    ∀ (s : Server) (ts : List Tick), ∀ m ∈ (run s ts).monitors, m ∈ s.monitors ∨ Registered s ts m
  | _, [], _, hm => .inl hm
  | s, τ :: ts, m, hm => by
    rw [run_cons] at hm
    rcases run_monitors _ ts m hm with hm | ⟨pre, τ', post, rfl, h⟩
    · exact (step_monitors s τ m hm).imp_right fun h => ⟨[], τ, ts, rfl, h⟩
    · exact .inr ⟨τ :: pre, τ', post, rfl, h⟩

theorem callbacks_within_ttl (pre : List Tick) (τ : Tick) :
    ∀ d ∈ (step (run Server.init pre) τ).2.callbacks,
      ∃ m, Registered Server.init pre m ∧ d.peer = m.addr ∧ τ.sweepAt < m.expireAt := by
  intro d hd
  obtain ⟨m, hm, hpeer, ht⟩ := step_callbacks _ τ d hd
  rcases run_monitors Server.init pre m hm with hm | hreg
  · cases hm
  · exact ⟨m, hreg, hpeer, ht⟩

/-- An OPEN from `peerB` whose `recvfrom` returns at 100 s, after a sweep at half a second. -/
def idleOpenPass : Tick :=
  let body := putDouble (putU16 (putPassword16 (putString [] (ascii "a")) (ascii "pw")) 1) Double.zero
  ⟨500000000, some ⟨peerB, encode ⟨⟨MAGIC, 1, 1, 1, 0, 0, 8, UInt32.ofNat body.length⟩, body⟩⟩,
    seconds 100, false, seconds 100, seconds 100, false⟩

theorem callbacks_within_ttl_subscribe :
    ∃ d ∈ (step (run Server.init [subscribePass]) idleOpenPass).2.callbacks,
      ∃ m, Registered Server.init [subscribePass] m ∧ d.peer = m.addr ∧
        idleOpenPass.sweepAt < m.expireAt :=
  have hne : (step (run Server.init [subscribePass]) idleOpenPass).2.callbacks ≠ [] := by decide
  ⟨_, List.head_mem hne, callbacks_within_ttl _ _ _ (List.head_mem hne)⟩

/-- A subscription for one second still gets the callback of a request that `recvfrom`
returned 100 s after its registration. -/
theorem callback_after_expiry :
    Chronological [subscribePass, idleOpenPass] ∧
      (run Server.init [subscribePass]).monitors = [⟨peerA, subscribePass.registeredAt + seconds 1⟩] ∧
      (step (run Server.init [subscribePass]) idleOpenPass).2.callbacks.map Datagram.peer = [peerA] ∧
      subscribePass.registeredAt + seconds 1 + seconds 60 < idleOpenPass.recvAt := by
  decide

end DistributedBank
