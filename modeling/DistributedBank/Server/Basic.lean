/-
# DistributedBank.Server.Basic — the basic server (`server_cpp`)

`server_cpp` is the first version of the server.  Its `bank.cpp` keeps the same `Account`
records and the same counter: `Bank::Bank`, `openAccount` and `getAccount` are the full
server's letter for letter, and `queryBalance` spells the credential test out as
`a.name != name || a.password != pw16`.  Its `main.cpp` runs the same receive loop (sweep,
`recvfrom`, loss draws, decode, dedup lookup, reply, cache), with a dispatch that knows only
OPEN, QUERY_BALANCE and MONITOR_REGISTER; the OPEN branch sends its callbacks with the loop
the full server later moved into `sendUpdateCallback`.

The loop is `stepWith` of `Server.Loop` applied to this dispatch.  The results:

* `Basic.dispatch_eq_ite`: the basic dispatch is the full one restricted to the opcodes it
  knows: CLOSE, DEPOSIT, WITHDRAW and TRANSFER get `ERR_BAD_REQUEST`, everything else the
  full server's answer;
* `Basic.dispatch_handled_atomic`: so every branch of it is atomic, as the full server's are;
* `stepWith_congr`: two loops whose dispatches agree on each request a pass dispatches make
  the same pass;
* `Basic.run_refines`: along a run in which no request that a pass receives and decodes
  names one of the four opcodes the basic server lacks, the two servers pass through the same
  states and send the same datagrams.
-/
import DistributedBank.Server.Loop

namespace DistributedBank

set_option autoImplicit false

namespace Basic

/-- `Bank::queryBalance` of `server_cpp/src/bank.cpp`. -/
def queryBalance (b : Bank) (name : Bytes) (accNo : Int32) (pw16 : Bytes) :
    Except Status (UInt16 × Double) :=
  match b.findOpen accNo with
  | none => .error .ERR_NOT_FOUND
  | some a =>
    if a.name != name || a.password != pw16 then .error .ERR_AUTH else .ok (a.currency, a.balance)

/-- The OPEN branch, its callback loop written out: one CALLBACK_UPDATE per monitor, in the
order of the list. -/
def handleOpen (bank : Bank) (monitors : List MonitorEntry) (body : Bytes) : Handled :=
  handleBank parseOpen
    (fun bank (name, pw, curU16, initial) => bank.openAccount name pw curU16 initial)
    (fun (name, _, curU16, _) _ (accNo, bal) =>
      (putDouble (putI32 [] accNo) bal,
        monitors.map fun m =>
          ⟨m.addr, encode (callbackMessage OpCode.OPEN.val accNo curU16 bal (ascii "OPEN by " ++ name))⟩))
    bank monitors body

/-- The QUERY_BALANCE branch. -/
def handleQuery (bank : Bank) (monitors : List MonitorEntry) (body : Bytes) : Handled :=
  handleBank parseAccount
    (fun bank (name, accNo, pw) => (bank, queryBalance bank name accNo pw))
    (fun _ _ (cur, bal) => (putDouble (putU16 [] cur) bal, []))
    bank monitors body

/-- The dispatch of `server_cpp/src/main.cpp`; its MONITOR_REGISTER branch is the full
server's text. -/
def dispatch (bank : Bank) (monitors : List MonitorEntry) (peer : SockAddr) (now : Time)
    (req : Message) : Handled :=
  if req.h.opCode = OpCode.OPEN.val then handleOpen bank monitors req.body
  else if req.h.opCode = OpCode.QUERY_BALANCE.val then handleQuery bank monitors req.body
  else if req.h.opCode = OpCode.MONITOR_REGISTER.val then handleMonitor bank monitors peer now req.body
  else .fail bank monitors .ERR_BAD_REQUEST

/-- One pass of the basic server's loop. -/
def step (s : Server) (τ : Tick) : Server × Sent := stepWith dispatch s τ

/-- The basic server's state after a run. -/
def run (s : Server) (ts : List Tick) : Server := runWith dispatch s ts

/-- The opcodes the full server added. -/
def Added (op : UInt16) : Bool :=
  op == OpCode.CLOSE.val || op == OpCode.DEPOSIT.val || op == OpCode.WITHDRAW.val ||
    op == OpCode.TRANSFER.val

/-! ## The dispatch -/

theorem queryBalance_eq (b : Bank) (name : Bytes) (accNo : Int32) (pw16 : Bytes) :
    queryBalance b name accNo pw16 = b.queryBalance name accNo pw16 := by
  unfold queryBalance Bank.queryBalance
  cases b.findOpen accNo with
  | none => rfl
  | some a => simp only [Bank.authMatch, Bool.not_and, bne]

theorem handleOpen_eq (bank : Bank) (monitors : List MonitorEntry) (body : Bytes) :
    handleOpen bank monitors body = DistributedBank.handleOpen bank monitors body := rfl

theorem handleQuery_eq (bank : Bank) (monitors : List MonitorEntry) (body : Bytes) :
    handleQuery bank monitors body = DistributedBank.handleQuery bank monitors body := by
  simp only [handleQuery, DistributedBank.handleQuery, queryBalance_eq]

/-- The basic dispatch answers `ERR_BAD_REQUEST` to the four opcodes the full server added
and otherwise answers as the full server does. -/
theorem dispatch_eq_ite (bank : Bank) (monitors : List MonitorEntry) (peer : SockAddr)
    (now : Time) (req : Message) :
    dispatch bank monitors peer now req =
      if Added req.h.opCode then .fail bank monitors .ERR_BAD_REQUEST
      else DistributedBank.dispatch bank monitors peer now req := by
  unfold dispatch
  cases hA : Added req.h.opCode
  · simp only [Added, Bool.or_eq_false_iff, beq_eq_false_iff_ne] at hA
    obtain ⟨⟨⟨h2, h3⟩, h4⟩, h7⟩ := hA
    rw [if_neg Bool.false_ne_true, DistributedBank.dispatch, handleOpen_eq, handleQuery_eq,
      if_neg h2, if_neg h3, if_neg h4, if_neg h7]
  · simp only [Added, Bool.or_eq_true, beq_iff_eq] at hA
    rw [if_pos rfl]
    rcases hA with ((h | h) | h) | h <;> rw [h] <;> rfl

theorem dispatch_handled_atomic (bank : Bank) (monitors : List MonitorEntry) (peer : SockAddr)
    (now : Time) (req : Message) :
    Atomic bank monitors req.h.opCode (dispatch bank monitors peer now req) := by
  rw [dispatch_eq_ite]
  split
  · exact Handled.fail_atomic (by decide)
  · exact DistributedBank.dispatch_handled_atomic bank monitors peer now req

end Basic

/-! ## Two loops, one text -/

theorem executeWith_congr {d₁ d₂ : Dispatcher} {s : Server} {τ : Tick} {peer : SockAddr}
    {req : Message} (h : d₁ s.bank s.monitors peer τ.registeredAt req =
      d₂ s.bank s.monitors peer τ.registeredAt req) (flag : Bool) :
    executeWith d₁ s τ peer req flag = executeWith d₂ s τ peer req flag := by
  simp only [executeWith, h]

/-- Two dispatchers that agree on every request a pass dispatches make the same pass. -/
theorem stepWith_congr {d₁ d₂ : Dispatcher} (s : Server) (τ : Tick)
    (h : ∀ a, τ.recv = some a → a.bytes.length ≤ 2048 → τ.dropRequest = false → IsRequest a.bytes →
      ∀ bank monitors now,
        d₁ bank monitors a.peer now (decoded a.bytes) = d₂ bank monitors a.peer now (decoded a.bytes)) :
    stepWith d₁ s τ = stepWith d₂ s τ := by
  unfold stepWith serveWith
  match hr : τ.recv with
  | .none => rfl
  | some a =>
    simp only
    split_ifs with hrecv
    · rfl
    simp only [not_or, gt_iff_lt, not_lt, Bool.not_eq_true] at hrecv
    match hd : decode a.bytes default with
    | (false, _) => rfl
    | (true, req) =>
      obtain ⟨hacc, rfl⟩ := (decode_eq_true_iff _ _ _).1 hd
      simp only
      split_ifs with hv hf
      · rfl
      all_goals
        have hreq : IsRequest a.bytes := ⟨hacc, by simpa using hv⟩
        have hexec := executeWith_congr (s := sweep τ.sweepAt s) (τ := τ)
          (h a hr hrecv.1 hrecv.2 hreq _ _ _)
      · split
        · rfl
        · exact hexec true
      · exact hexec false

namespace Basic

/-- Every request the pass receives and decodes names an opcode the basic server knows. -/
def Supported (τ : Tick) : Prop :=
  ∀ a, τ.recv = some a → a.bytes.length ≤ 2048 → τ.dropRequest = false → IsRequest a.bytes →
    Added (decoded a.bytes).h.opCode = false

instance (τ : Tick) : Decidable (Supported τ) :=
  match h : τ.recv with
  | .none => isTrue fun a ha => nomatch h.symm.trans ha
  | some a => decidable_of_iff (a.bytes.length ≤ 2048 → τ.dropRequest = false → IsRequest a.bytes →
        Added (decoded a.bytes).h.opCode = false)
      ⟨fun hi a' ha' => by cases h.symm.trans ha'; exact hi, fun hs => hs a h⟩

theorem step_eq_step (s : Server) (τ : Tick) (h : Supported τ) : step s τ = DistributedBank.step s τ :=
  stepWith_congr s τ fun a hr hlen hkeep hreq _ _ _ => by
    rw [dispatch_eq_ite, if_neg (by rw [h a hr hlen hkeep hreq]; decide)]

theorem run_cons (s : Server) (τ : Tick) (ts : List Tick) : run s (τ :: ts) = run (step s τ).1 ts :=
  rfl

theorem run_eq_run (s : Server) (ts : List Tick) (h : ∀ τ ∈ ts, Supported τ) :
    run s ts = DistributedBank.run s ts := by
  induction ts generalizing s with
  | nil => exact (rfl : s = s)
  | cons τ ts ih =>
    rw [run_cons, DistributedBank.run_cons, step_eq_step s τ (h τ (.head _))]
    exact ih _ fun τ' hτ' => h τ' (.tail _ hτ')

/-- Along a run whose requests never name CLOSE, DEPOSIT, WITHDRAW or TRANSFER, the basic
server passes through the full server's states, and each of its passes sends the datagrams
the full server's pass sends, in the same order, to the same peers. -/
theorem run_refines (s : Server) (ts : List Tick) (h : ∀ τ ∈ ts, Supported τ) :
    run s ts = DistributedBank.run s ts ∧
      ∀ pre τ post, pre ++ τ :: post = ts →
        step (run s pre) τ = DistributedBank.step (DistributedBank.run s pre) τ := by
  refine ⟨run_eq_run s ts h, fun pre τ post hts => ?_⟩
  subst hts
  rw [run_eq_run s pre fun τ' hτ' => h τ' (List.mem_append_left _ hτ')]
  exact step_eq_step _ τ (h τ (List.mem_append_right _ (.head _)))

/-- A subscription, an unknown opcode, and a DEPOSIT that the request-loss draw drops. -/
theorem run_refines_subscribe :
    let ts := [subscribePass, unknownOpPass 1,
      ⟨2, some ⟨peerA, encode ⟨⟨MAGIC, 1, 1, 3, 0, 0, 9, 0⟩, []⟩⟩, 2, true, 2, 2, false⟩]
    (∀ τ ∈ ts, Supported τ) ∧ run Server.init ts = DistributedBank.run Server.init ts ∧
      ∀ pre τ post, pre ++ τ :: post = ts →
        step (run Server.init pre) τ = DistributedBank.step (DistributedBank.run Server.init pre) τ :=
  ⟨by decide, run_refines _ _ (by decide)⟩

end Basic

end DistributedBank
