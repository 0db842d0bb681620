/-
# DistributedBank.Server.Retries — a request received twice

Under at-least-once semantics (flag bit 0 clear) the loop keeps no trace of a request once it
has answered it.  A copy of the datagram, whether `Client::call` resent it after a lost reply
or the network duplicated it, is dispatched again, against the bank the first copy left
(`step_at_least_once`).  That is why the client's menu marks DEPOSIT, WITHDRAW and TRANSFER
non-idempotent:

* `close_copy_not_found`: a CLOSE that closed an account changes nothing when it comes again,
  and the copy is answered `ERR_NOT_FOUND`, so a client whose first reply was lost reports a
  failure for the account it has just closed;
* `deposit_copy_credits_again`: a DEPOSIT that succeeded succeeds again, the account is
  credited twice, and the copy's reply carries the twice-credited balance.

These take the two copies in consecutive passes.  A pass in between may change the account:
after a CLOSE of it, a DEPOSIT copy that its pass executes changes nothing and is answered
`ERR_NOT_FOUND` (`deposit_copy_not_found`).

Under at-most-once a copy that arrives while the first reply is cached is answered with that
reply and runs nothing (`Server.Loop`), but the entry lives 60 s:

* `deposit_copy_at_most_once`: a copy of an at-most-once DEPOSIT whose pass sweeps within 60 s
  of the first copy's caching gets the cached reply, with the balance after one credit; a copy
  swept later is credited again.
-/
import DistributedBank.Server.Loop

namespace DistributedBank

set_option autoImplicit false

/-! ## A pass without the flag -/

/-- A pass that receives a request without the at-most-once flag executes it: the cache is
not looked at. -/
theorem step_at_least_once {s : Server} {τ : Tick} {a : Arrival} (hrecv : τ.recv = some a)
    (hfit : a.bytes.length ≤ 2048) (hkeep : τ.dropRequest = false) (hreq : IsRequest a.bytes)
    (hflag : atMostOnce (decoded a.bytes) = false) :
    step s τ = execute (sweep τ.sweepAt s) τ a.peer (decoded a.bytes) false := by
  rw [step_eq_serve, serve_execute hrecv hfit hkeep hreq
    (fun h => absurd (hflag.symm.trans h) Bool.false_ne_true), hflag]

/-- What an execution sends: the dispatch's callbacks, then its reply. -/
theorem execute_sent (s : Server) (τ : Tick) (peer : SockAddr) (req : Message) (flag : Bool) :
    (execute s τ peer req flag).2 =
      ⟨(dispatch s.bank s.monitors peer τ.registeredAt req).callbacks,
        replyTo τ peer (encode (replyOf req (dispatch s.bank s.monitors peer τ.registeredAt req)))⟩ :=
  rfl

/-- An encoded reply decodes as itself. -/
theorem decoded_encode_replyOf (req : Message) (d : Handled) (hlen : d.body.length < 2 ^ 32) :
    decoded (encode (replyOf req d)) = replyOf req d := by
  have hbl : (replyOf req d).h.bodyLen.toNat = (replyOf req d).body.length :=
    UInt32.toNat_ofNat_of_lt (by simpa only [replyOf, UInt32.size] using hlen)
  exact ((decode_eq_true_iff _ default _).1 (decode_encode _ default rfl hbl)).2.symm

/-- A reply datagram decodes as the reply it encodes. -/
theorem decoded_of_mem_replyTo {τ : Tick} {peer : SockAddr} {req : Message} {d : Handled}
    {r : Datagram} (h : r ∈ replyTo τ peer (encode (replyOf req d))) (hlen : d.body.length < 2 ^ 32) :
    decoded r.bytes = replyOf req d := by
  rw [mem_replyTo h]
  exact decoded_encode_replyOf req d hlen

/-- A bank branch whose body parses makes the bank call on the parsed values. -/
theorem handleBank_parsed {α β : Type} {parse : Bytes → Option α}
    {call : Bank → α → Bank × Except Status β} {reply : α → Bank → β → Bytes × List Datagram}
    {bank : Bank} {monitors : List MonitorEntry} {body : Bytes} {args : α}
    (h : parse body = some args) :
    handleBank parse call reply bank monitors body =
      Handled.ofCall monitors (reply args) (call bank args) := by
  simp only [handleBank, h]

/-- A server whose bank holds one open account, 10001 of `a` with password `pw`, in SGD with
`0.0`. -/
def oneAccount : Server :=
  ⟨⟨10002, fun k => if k = 10001 then some ⟨10001, ascii "a", ascii "pw", 1, Double.zero, false⟩
    else none⟩, [], fun _ => none⟩

/-- `peerB`'s request 9 with flags `flags`, opcode `op` and body `body`. -/
def requestArrival (flags op : UInt16) (body : Bytes) : Arrival :=
  ⟨peerB, encode ⟨⟨MAGIC, 1, 1, op, flags, 0, 9, UInt32.ofNat body.length⟩, body⟩⟩

/-- That request in a pass at time `t`, whose reply is lost when `lost` is set. -/
def requestPass (flags op : UInt16) (body : Bytes) (t : Time) (lost : Bool) : Tick :=
  ⟨t, some (requestArrival flags op body), t, false, t, t, lost⟩

/-! ## CLOSE -/

section Close

variable {bank : Bank} {monitors : List MonitorEntry} {peer : SockAddr} {now : Time}
  {req : Message} {name pw : Bytes} {k : Int32}

theorem dispatch_close (hop : req.h.opCode = OpCode.CLOSE.val) :
    dispatch bank monitors peer now req = handleClose bank monitors req.body := by
  rw [dispatch, hop, if_neg (by decide), if_pos rfl]

theorem dispatch_close_ok {acc : Account} (hop : req.h.opCode = OpCode.CLOSE.val)
    (hbody : parseAccount req.body = some (name, k, pw)) (hopen : bank.findOpen k = some acc)
    (hauth : Bank.authMatch acc name pw = true) :
    (dispatch bank monitors peer now req).status = Status.OK.val ∧
      (dispatch bank monitors peer now req).body = putString [] (ascii "account closed") ∧
      (dispatch bank monitors peer now req).bank = bank.put k { acc with closed := true } := by
  rw [dispatch_close hop, handleClose, handleBank_parsed hbody]
  dsimp only
  rw [Bank.closeAccount_eq_ok hopen hauth]
  exact ⟨rfl, rfl, rfl⟩

theorem dispatch_close_not_found (hop : req.h.opCode = OpCode.CLOSE.val)
    (hbody : parseAccount req.body = some (name, k, pw)) (hk : bank.findOpen k = none) :
    dispatch bank monitors peer now req = .fail bank monitors .ERR_NOT_FOUND := by
  rw [dispatch_close hop, handleClose, handleBank_parsed hbody]
  dsimp only
  rw [Bank.closeAccount_not_found hk]
  rfl

end Close

/-- An at-least-once CLOSE received twice, the first time for an open account with its owner's
credentials: the first copy closes the account and is answered `OK`, and the second changes
nothing, sends no callback and is answered `ERR_NOT_FOUND`. -/
theorem close_copy_not_found {s : Server} {τ₁ τ₂ : Tick} {a : Arrival} {name pw : Bytes}
    {k : Int32} {acc : Account} (h₁ : τ₁.recv = some a) (h₂ : τ₂.recv = some a)
    (hfit : a.bytes.length ≤ 2048) (hkeep₁ : τ₁.dropRequest = false)
    (hkeep₂ : τ₂.dropRequest = false) (hreq : IsRequest a.bytes)
    (hflag : atMostOnce (decoded a.bytes) = false)
    (hop : (decoded a.bytes).h.opCode = OpCode.CLOSE.val)
    (hbody : parseAccount (decoded a.bytes).body = some (name, k, pw))
    (hopen : s.bank.findOpen k = some acc) (hauth : Bank.authMatch acc name pw = true) :
    (step s τ₁).1.bank.findOpen k = none ∧
      (∀ r ∈ (step s τ₁).2.reply, (decoded r.bytes).h.status = Status.OK.val) ∧
      (step (step s τ₁).1 τ₂).1.bank = (step s τ₁).1.bank ∧
      (step (step s τ₁).1 τ₂).2.callbacks = [] ∧
      ∀ r ∈ (step (step s τ₁).1 τ₂).2.reply,
        (decoded r.bytes).h.status = Status.ERR_NOT_FOUND.val := by
  obtain ⟨hok, hlen, hbank⟩ := @dispatch_close_ok s.bank (sweep τ₁.sweepAt s).monitors a.peer
    τ₁.registeredAt (decoded a.bytes) name pw k acc hop hbody hopen hauth
  have hclosed : (s.bank.put k { acc with closed := true }).findOpen k = none := by
    rw [Bank.findOpen_put, if_pos rfl, if_pos rfl]
  rw [step_at_least_once h₁ hfit hkeep₁ hreq hflag, step_at_least_once h₂ hfit hkeep₂ hreq hflag]
  simp only [execute_bank, execute_sent, sweep_bank, hbank]
  rw [dispatch_close_not_found hop hbody hclosed]
  refine ⟨hclosed, fun r hr => ?_, rfl, rfl, fun r hr => ?_⟩
  · rw [decoded_of_mem_replyTo hr (by rw [hlen]; decide)]
    exact hok
  · rw [decoded_of_mem_replyTo hr (Nat.two_pow_pos 32)]
    rfl

/-- The body of a CLOSE of account 10001 by `a` with `pw`, and of a QUERY_BALANCE, which reads
the same fields. -/
def closeBody : Bytes := putPassword16 (putI32 (putString [] (ascii "a")) 10001) (ascii "pw")

/-- The reply to the first CLOSE is lost; the copy is answered `ERR_NOT_FOUND`. -/
theorem close_copy_not_found_lost_reply :
    (step oneAccount (requestPass 0 2 closeBody 0 true)).1.bank.findOpen 10001 = none ∧
      (∀ r ∈ (step oneAccount (requestPass 0 2 closeBody 0 true)).2.reply,
        (decoded r.bytes).h.status = Status.OK.val) ∧
      (step (step oneAccount (requestPass 0 2 closeBody 0 true)).1 (requestPass 0 2 closeBody 0 false)).1.bank =
        (step oneAccount (requestPass 0 2 closeBody 0 true)).1.bank ∧
      (step (step oneAccount (requestPass 0 2 closeBody 0 true)).1
        (requestPass 0 2 closeBody 0 false)).2.callbacks = [] ∧
      ∀ r ∈ (step (step oneAccount (requestPass 0 2 closeBody 0 true)).1
        (requestPass 0 2 closeBody 0 false)).2.reply,
        (decoded r.bytes).h.status = Status.ERR_NOT_FOUND.val :=
  @close_copy_not_found oneAccount (requestPass 0 2 closeBody 0 true) (requestPass 0 2 closeBody 0 false)
    (requestArrival 0 2 closeBody) (ascii "a") (ascii "pw") 10001
    ⟨10001, ascii "a", ascii "pw", 1, Double.zero, false⟩ rfl rfl (by decide) rfl rfl (by decide)
    (by decide) (by decide) (by decide) (by decide) (by decide)

/-! ## DEPOSIT -/

section Deposit

variable {bank : Bank} {monitors : List MonitorEntry} {peer : SockAddr} {now : Time}
  {req : Message} {name pw : Bytes} {k : Int32} {c : UInt16} {amount : Double}

theorem dispatch_deposit (hop : req.h.opCode = OpCode.DEPOSIT.val) :
    dispatch bank monitors peer now req = handleDeposit bank monitors req.body := by
  rw [dispatch, hop, if_neg (by decide), if_neg (by decide), if_pos rfl]

theorem dispatch_deposit_ok {acc : Account} (hop : req.h.opCode = OpCode.DEPOSIT.val)
    (hbody : parseAmount req.body = some (name, k, pw, c, amount))
    (hopen : bank.findOpen k = some acc) (hauth : Bank.authMatch acc name pw = true)
    (hcur : acc.currency = c) (hpos : Double.lt Double.zero amount = true) :
    (dispatch bank monitors peer now req).status = Status.OK.val ∧
      (dispatch bank monitors peer now req).body = putDouble [] (acc.balance + amount) ∧
      (dispatch bank monitors peer now req).bank =
        bank.put k { acc with balance := acc.balance + amount } := by
  rw [dispatch_deposit hop, handleDeposit, handleBank_parsed hbody]
  dsimp only
  rw [Bank.deposit_eq_ok hopen hauth hcur hpos]
  exact ⟨rfl, rfl, rfl⟩

theorem dispatch_deposit_not_found (hop : req.h.opCode = OpCode.DEPOSIT.val)
    (hbody : parseAmount req.body = some (name, k, pw, c, amount)) (hk : bank.findOpen k = none) :
    dispatch bank monitors peer now req = .fail bank monitors .ERR_NOT_FOUND := by
  rw [dispatch_deposit hop, handleDeposit, handleBank_parsed hbody]
  dsimp only
  rw [Bank.deposit_not_found hk]
  rfl

end Deposit

/-- A DEPOSIT executed for an account that is not open, as after a CLOSE of it executed since
the first copy, changes nothing, sends no callback and is answered `ERR_NOT_FOUND`. -/
theorem deposit_copy_not_found {s : Server} {τ : Tick} {a : Arrival} {name pw : Bytes} {k : Int32}
    {c : UInt16} {amount : Double} (hx : Executes s τ a)
    (hop : (decoded a.bytes).h.opCode = OpCode.DEPOSIT.val)
    (hbody : parseAmount (decoded a.bytes).body = some (name, k, pw, c, amount))
    (hk : s.bank.findOpen k = none) :
    (step s τ).1.bank = s.bank ∧ (step s τ).2.callbacks = [] ∧
      ∀ r ∈ (step s τ).2.reply, (decoded r.bytes).h.status = Status.ERR_NOT_FOUND.val := by
  rw [step_executes hx]
  simp only [execute_bank, execute_sent, sweep_bank]
  rw [dispatch_deposit_not_found hop hbody hk]
  refine ⟨rfl, rfl, fun r hr => ?_⟩
  rw [decoded_of_mem_replyTo hr (Nat.two_pow_pos 32)]
  rfl

/-- An at-least-once DEPOSIT received twice, the first time for an open account with its
owner's credentials, in its currency and for an amount above `0.0`: both copies pass every
check, the account is credited twice, and the second reply carries the twice-credited
balance. -/
theorem deposit_copy_credits_again {s : Server} {τ₁ τ₂ : Tick} {a : Arrival} {name pw : Bytes}
    {k : Int32} {c : UInt16} {amount : Double} {acc : Account} (h₁ : τ₁.recv = some a)
    (h₂ : τ₂.recv = some a) (hfit : a.bytes.length ≤ 2048) (hkeep₁ : τ₁.dropRequest = false)
    (hkeep₂ : τ₂.dropRequest = false) (hreq : IsRequest a.bytes)
    (hflag : atMostOnce (decoded a.bytes) = false)
    (hop : (decoded a.bytes).h.opCode = OpCode.DEPOSIT.val)
    (hbody : parseAmount (decoded a.bytes).body = some (name, k, pw, c, amount))
    (hopen : s.bank.findOpen k = some acc) (hauth : Bank.authMatch acc name pw = true)
    (hcur : acc.currency = c) (hpos : Double.lt Double.zero amount = true) :
    (step s τ₁).1.bank.findOpen k = some { acc with balance := acc.balance + amount } ∧
      (step (step s τ₁).1 τ₂).1.bank.findOpen k =
        some { acc with balance := acc.balance + amount + amount } ∧
      ∀ r ∈ (step (step s τ₁).1 τ₂).2.reply, (decoded r.bytes).h.status = Status.OK.val ∧
        (decoded r.bytes).body = putDouble [] (acc.balance + amount + amount) := by
  have hc : acc.closed = false := (Bank.findOpen_eq_some.1 hopen).2
  have hopen₁ : (s.bank.put k { acc with balance := acc.balance + amount }).findOpen k =
      some { acc with balance := acc.balance + amount } := by
    simp [Bank.findOpen_put, hc]
  obtain ⟨-, -, hbank₁⟩ := @dispatch_deposit_ok s.bank (sweep τ₁.sweepAt s).monitors a.peer
    τ₁.registeredAt (decoded a.bytes) name pw k c amount acc hop hbody hopen hauth hcur hpos
  rw [step_at_least_once h₁ hfit hkeep₁ hreq hflag, step_at_least_once h₂ hfit hkeep₂ hreq hflag]
  simp only [execute_bank, execute_sent, sweep_bank, hbank₁]
  obtain ⟨hok, hlen, hbank₂⟩ := @dispatch_deposit_ok _ (sweep τ₂.sweepAt
    (execute (sweep τ₁.sweepAt s) τ₁ a.peer (decoded a.bytes) false).1).monitors a.peer
    τ₂.registeredAt (decoded a.bytes) name pw k c amount _ hop hbody hopen₁ hauth hcur hpos
  rw [hbank₂]
  refine ⟨hopen₁, by simp [Bank.findOpen_put, hc], fun r hr => ?_⟩
  rw [decoded_of_mem_replyTo hr (by simp [hlen, putDouble, putU64, putBE64])]
  exact ⟨hok, hlen⟩

/-- `1.0`. -/
def oneDouble : Double := ⟨0x3FF0000000000000⟩

/-- The body of a DEPOSIT of `1.0` SGD into account 10001 by `a` with `pw`, and of a WITHDRAW
of the same, which reads the same fields. -/
def depositBody : Bytes :=
  putDouble (putU16 (putPassword16 (putI32 (putString [] (ascii "a")) 10001) (ascii "pw")) 1) oneDouble

/-- The reply to the first DEPOSIT is lost; the copy credits `1.0` again. -/
theorem deposit_copy_credits_again_lost_reply :
    (step oneAccount (requestPass 0 3 depositBody 0 true)).1.bank.findOpen 10001 =
        some ⟨10001, ascii "a", ascii "pw", 1, Double.zero + oneDouble, false⟩ ∧
      (step (step oneAccount (requestPass 0 3 depositBody 0 true)).1
        (requestPass 0 3 depositBody 0 false)).1.bank.findOpen 10001 =
        some ⟨10001, ascii "a", ascii "pw", 1, Double.zero + oneDouble + oneDouble, false⟩ ∧
      ∀ r ∈ (step (step oneAccount (requestPass 0 3 depositBody 0 true)).1
        (requestPass 0 3 depositBody 0 false)).2.reply,
        (decoded r.bytes).h.status = Status.OK.val ∧
          (decoded r.bytes).body = putDouble [] (Double.zero + oneDouble + oneDouble) :=
  @deposit_copy_credits_again oneAccount (requestPass 0 3 depositBody 0 true)
    (requestPass 0 3 depositBody 0 false) (requestArrival 0 3 depositBody) (ascii "a") (ascii "pw") 10001 1
    oneDouble ⟨10001, ascii "a", ascii "pw", 1, Double.zero, false⟩ rfl rfl (by decide) rfl rfl
    (by decide) (by decide) (by decide) (by decide) (by decide) (by decide) rfl
    (by set_option exponentiation.threshold 1100 in decide)

/-- An at-most-once DEPOSIT received twice, the first time with its key not cached, for an
open account with its owner's credentials, in its currency and for an amount above `0.0`.  The
first copy credits the amount and caches its reply.  A copy whose pass sweeps before that
entry expires, 60 s after the first pass cached it, changes nothing and is answered with the
cached reply, which carries the balance after one credit.  A copy whose pass sweeps later
finds the entry gone and credits the amount again. -/
theorem deposit_copy_at_most_once {s : Server} {τ₁ τ₂ : Tick} {a : Arrival} {name pw : Bytes}
    {k : Int32} {c : UInt16} {amount : Double} {acc : Account} (h₁ : τ₁.recv = some a)
    (h₂ : τ₂.recv = some a) (hfit : a.bytes.length ≤ 2048) (hkeep₁ : τ₁.dropRequest = false)
    (hkeep₂ : τ₂.dropRequest = false) (hreq : IsRequest a.bytes)
    (hflag : atMostOnce (decoded a.bytes) = true)
    (hfresh : s.dedup (dedupKey a.peer (decoded a.bytes).h.requestId) = none)
    (hop : (decoded a.bytes).h.opCode = OpCode.DEPOSIT.val)
    (hbody : parseAmount (decoded a.bytes).body = some (name, k, pw, c, amount))
    (hopen : s.bank.findOpen k = some acc) (hauth : Bank.authMatch acc name pw = true)
    (hcur : acc.currency = c) (hpos : Double.lt Double.zero amount = true) :
    (step s τ₁).1.bank.findOpen k = some { acc with balance := acc.balance + amount } ∧
      (τ₂.sweepAt < τ₁.cachedAt + seconds 60 →
        (step (step s τ₁).1 τ₂).1.bank = (step s τ₁).1.bank ∧
        ∀ r ∈ (step (step s τ₁).1 τ₂).2.reply, (decoded r.bytes).h.status = Status.OK.val ∧
          (decoded r.bytes).body = putDouble [] (acc.balance + amount)) ∧
      (τ₁.cachedAt + seconds 60 ≤ τ₂.sweepAt →
        (step (step s τ₁).1 τ₂).1.bank.findOpen k =
          some { acc with balance := acc.balance + amount + amount }) := by
  have hc : acc.closed = false := (Bank.findOpen_eq_some.1 hopen).2
  have hopen₁ : (s.bank.put k { acc with balance := acc.balance + amount }).findOpen k =
      some { acc with balance := acc.balance + amount } := by
    simp [Bank.findOpen_put, hc]
  have hstep₁ : step s τ₁ = execute (sweep τ₁.sweepAt s) τ₁ a.peer (decoded a.bytes) true := by
    rw [step_eq_serve, serve_execute h₁ hfit hkeep₁ hreq fun _ => sweep_dedup_eq_none hfresh,
      hflag]
  obtain ⟨hok, hlen, hbank₁⟩ := @dispatch_deposit_ok s.bank (sweep τ₁.sweepAt s).monitors a.peer
    τ₁.registeredAt (decoded a.bytes) name pw k c amount acc hop hbody hopen hauth hcur hpos
  have hb₁ : (step s τ₁).1.bank = s.bank.put k { acc with balance := acc.balance + amount } := by
    rw [hstep₁, execute_bank, sweep_bank, hbank₁]
  have hd₁ := (execute_stores (sweep τ₁.sweepAt s) τ₁ a.peer (decoded a.bytes)).1
  rw [← hstep₁] at hd₁
  refine ⟨by rw [hb₁]; exact hopen₁, fun hwin => ?_, fun hexp => ?_⟩
  · obtain ⟨hs, -, hr⟩ := serve_replay h₂ hflag (sweep_dedup_eq_some.2 ⟨hd₁, hwin⟩)
    rw [step_eq_serve (step s τ₁).1 τ₂, hs]
    refine ⟨rfl, fun r hr' => ?_⟩
    rw [hr r hr', decoded_encode_replyOf _ _ (by simp [hlen, putDouble, putU64, putBE64])]
    exact ⟨hok, hlen⟩
  · rw [step_eq_serve (step s τ₁).1 τ₂,
      serve_execute h₂ hfit hkeep₂ hreq fun _ => sweep_dedup_expired hd₁ hexp, hflag,
      execute_bank, sweep_bank, hb₁]
    obtain ⟨-, -, hbank₂⟩ := @dispatch_deposit_ok _
      (sweep τ₂.sweepAt (step s τ₁).1).monitors a.peer τ₂.registeredAt (decoded a.bytes) name pw k
      c amount _ hop hbody hopen₁ hauth hcur hpos
    rw [hbank₂]
    simp [Bank.findOpen_put, hc]

/-- The reply to the first at-most-once DEPOSIT is lost; the copy one second later is answered
from the cache. -/
theorem deposit_copy_at_most_once_retry :
    (step oneAccount (requestPass 1 3 depositBody 0 true)).1.bank.findOpen 10001 =
        some ⟨10001, ascii "a", ascii "pw", 1, Double.zero + oneDouble, false⟩ ∧
      ((requestPass 1 3 depositBody (seconds 1) false).sweepAt <
          (requestPass 1 3 depositBody 0 true).cachedAt + seconds 60 →
        (step (step oneAccount (requestPass 1 3 depositBody 0 true)).1
          (requestPass 1 3 depositBody (seconds 1) false)).1.bank =
          (step oneAccount (requestPass 1 3 depositBody 0 true)).1.bank ∧
        ∀ r ∈ (step (step oneAccount (requestPass 1 3 depositBody 0 true)).1
          (requestPass 1 3 depositBody (seconds 1) false)).2.reply,
          (decoded r.bytes).h.status = Status.OK.val ∧
            (decoded r.bytes).body = putDouble [] (Double.zero + oneDouble)) ∧
      ((requestPass 1 3 depositBody 0 true).cachedAt + seconds 60 ≤
          (requestPass 1 3 depositBody (seconds 1) false).sweepAt →
        (step (step oneAccount (requestPass 1 3 depositBody 0 true)).1
          (requestPass 1 3 depositBody (seconds 1) false)).1.bank.findOpen 10001 =
          some ⟨10001, ascii "a", ascii "pw", 1, Double.zero + oneDouble + oneDouble, false⟩) :=
  @deposit_copy_at_most_once oneAccount (requestPass 1 3 depositBody 0 true)
    (requestPass 1 3 depositBody (seconds 1) false) (requestArrival 1 3 depositBody) (ascii "a")
    (ascii "pw") 10001 1 oneDouble ⟨10001, ascii "a", ascii "pw", 1, Double.zero, false⟩ rfl rfl
    (by decide) rfl rfl (by decide) (by decide) rfl (by decide) (by decide) (by decide) (by decide)
    rfl (by set_option exponentiation.threshold 1100 in decide)

end DistributedBank
