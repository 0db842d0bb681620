/-
# DistributedBank.Server.Dispatch — the opcode dispatch of `z_server_cpp/src/main.cpp`

Lines 172-346 of the full server's loop: the reply skeleton, the body parser and bank call
of each opcode, the callbacks of the mutating ones, and `ERR_BAD_REQUEST` for anything
else.  Each branch is a `handle…` function returning a `Handled`: the status left in
`rep.h.status`, the bytes appended to `rep.body`, the bank and the monitor list as the
branch leaves them, and the datagrams `sendUpdateCallback` sent.  The six branches that
call the bank share one shape, `handleBank`: parse, call, then either the error or the
result fields and the callbacks.

The parsers chain readers with `Read.get?`, as the `if (!get…(…) || !get…(…) || …)`
conditions do: the first failure answers `ERR_BAD_REQUEST` and the locals are dropped.

* `dispatch_atomic`: every branch either answers `OK` with a non-empty body that is exactly
  its opcode's result fields, or answers another status with an empty body, leaving the
  bank and the monitor list as they were and sending no callback;
* `dispatch_callbacks`, `dispatch_monitors`: callbacks go only to subscribers, and only
  MONITOR_REGISTER changes the subscription list, by appending the peer;
* `dispatch_fan_out`: an `OK` answer sends, for each account the request updated, one
  callback per subscriber in the list's order, with the account's stored currency and
  balance after the operation.
-/
import DistributedBank.Server.Bank

namespace DistributedBank

set_option autoImplicit false

/-- A peer address, `sockaddr_in`: the IPv4 address (first octet most significant) and the
port in host order. -/
structure SockAddr where
  ip : UInt32
  port : UInt16
  deriving DecidableEq, Repr

/-- A datagram given to `sendto`: its destination and its bytes. -/
structure Datagram where
  peer : SockAddr
  bytes : Bytes
  deriving DecidableEq, Repr

/-- A `steady_clock` time point, in nanoseconds. -/
abbrev Time := Nat

/-- `std::chrono::seconds(n)`. -/
def seconds (n : Nat) : Time := n * 1000000000

/-- `struct MonitorEntry`. -/
structure MonitorEntry where
  addr : SockAddr
  expireAt : Time
  deriving DecidableEq, Repr

/-- `std::to_string` of an `int32_t`. -/
def Int32.toDecimal (v : Int32) : Bytes :=
  if v.val < 0 then ascii "-" ++ decimal v.val.natAbs else decimal v.val.toNat

/-- An `int32_t` prints in at most eleven bytes: a sign and ten digits. -/
theorem Int32.length_toDecimal_le (v : Int32) : v.toDecimal.length ≤ 11 := by
  have hlo := v.lo
  have hhi := v.hi
  unfold Int32.toDecimal
  split
  · have := length_decimal_le (e := 10) (by decide) (show v.val.natAbs < 10 ^ 10 by omega)
    have hm : (ascii "-").length = 1 := rfl
    rw [List.length_append, hm]; omega
  · have := length_decimal_le (e := 10) (by decide) (show v.val.toNat < 10 ^ 10 by omega)
    omega

/-! ## Callbacks -/

/-- The CALLBACK_UPDATE message `sendUpdateCallback` builds for each monitor. -/
def callbackMessage (updateTypeOp : UInt16) (accNo : Int32) (curU16 : UInt16) (bal : Double)
    (info : Bytes) : Message :=
  let body := putString (putDouble (putU16 (putI32 (putU16 [] updateTypeOp) accNo) curU16) bal) info
  ⟨⟨MAGIC, VERSION, MsgType.Callback.val, OpCode.CALLBACK_UPDATE.val, 0, 0, 0,
    UInt32.ofNat body.length⟩, body⟩

/-- `sendUpdateCallback`: the callback to every monitor, in the order of the list. -/
def sendUpdateCallback (monitors : List MonitorEntry) (updateTypeOp : UInt16) (accNo : Int32)
    (curU16 : UInt16) (bal : Double) (info : Bytes) : List Datagram :=
  monitors.map fun m => ⟨m.addr, encode (callbackMessage updateTypeOp accNo curU16 bal info)⟩

/-! ## Body parsers -/

/-- OPEN: `name`, `pw`, `curU16`, `initial`. -/
def parseOpen (body : Bytes) : Option (Bytes × Bytes × UInt16 × Double) := do
  let (name, off) ← (getString body 0 []).get?
  let (pw, off) ← (getPassword16 body off []).get?
  let (curU16, off) ← (getU16 body off 0).get?
  let (initial, _) ← (getDouble body off Double.zero).get?
  pure (name, pw, curU16, initial)

/-- CLOSE and QUERY_BALANCE: `name`, `accNo`, `pw`. -/
def parseAccount (body : Bytes) : Option (Bytes × Int32 × Bytes) := do
  let (name, off) ← (getString body 0 []).get?
  let (accNo, off) ← (getI32 body off 0).get?
  let (pw, _) ← (getPassword16 body off []).get?
  pure (name, accNo, pw)

/-- DEPOSIT and WITHDRAW: `name`, `accNo`, `pw`, `curU16`, `amount`. -/
def parseAmount (body : Bytes) : Option (Bytes × Int32 × Bytes × UInt16 × Double) := do
  let (name, off) ← (getString body 0 []).get?
  let (accNo, off) ← (getI32 body off 0).get?
  let (pw, off) ← (getPassword16 body off []).get?
  let (curU16, off) ← (getU16 body off 0).get?
  let (amount, _) ← (getDouble body off Double.zero).get?
  pure (name, accNo, pw, curU16, amount)

/-- TRANSFER: `name`, `fromAcc`, `pw`, `toAcc`, `curU16`, `amount`. -/
def parseTransfer (body : Bytes) : Option (Bytes × Int32 × Bytes × Int32 × UInt16 × Double) := do
  let (name, off) ← (getString body 0 []).get?
  let (fromAcc, off) ← (getI32 body off 0).get?
  let (pw, off) ← (getPassword16 body off []).get?
  let (toAcc, off) ← (getI32 body off 0).get?
  let (curU16, off) ← (getU16 body off 0).get?
  let (amount, _) ← (getDouble body off Double.zero).get?
  pure (name, fromAcc, pw, toAcc, curU16, amount)

/-- MONITOR_REGISTER: `seconds`. -/
def parseMonitor (body : Bytes) : Option UInt16 :=
  (getU16 body 0 0).get?.map Prod.fst

/-! ## The branches -/

/-- What one branch of the dispatch leaves: `rep.h.status`, `rep.body`, the bank, the monitor
list and the callbacks sent. -/
structure Handled where
  status : UInt16
  body : Bytes
  bank : Bank
  monitors : List MonitorEntry
  callbacks : List Datagram

/-- A branch that only sets `rep.h.status`. -/
def Handled.fail (bank : Bank) (monitors : List MonitorEntry) (s : Status) : Handled :=
  ⟨s.val, [], bank, monitors, []⟩

/-- A bank branch once the bank has answered: its error status, or `OK` with the result
fields and callbacks that `reply` builds from the bank and the result. -/
def Handled.ofCall {β : Type} (monitors : List MonitorEntry) (reply : Bank → β → Bytes × List Datagram) :
    Bank × Except Status β → Handled
  | (bank, .error err) => .fail bank monitors err
  | (bank, .ok r) => ⟨Status.OK.val, (reply bank r).1, bank, monitors, (reply bank r).2⟩

/-- The shape the bank branches share: parse the body (`ERR_BAD_REQUEST` when a reader
fails), call the bank, and either copy its error into the status or append the result
fields and send the callbacks. -/
def handleBank {α β : Type} (parse : Bytes → Option α) (call : Bank → α → Bank × Except Status β)
    (reply : α → Bank → β → Bytes × List Datagram) (bank : Bank) (monitors : List MonitorEntry)
    (body : Bytes) : Handled :=
  match parse body with
  | none => .fail bank monitors .ERR_BAD_REQUEST
  | some args => Handled.ofCall monitors (reply args) (call bank args)

/-- The OPEN branch. -/
def handleOpen (bank : Bank) (monitors : List MonitorEntry) (body : Bytes) : Handled :=
  handleBank parseOpen
    (fun bank (name, pw, curU16, initial) => bank.openAccount name pw curU16 initial)
    (fun (name, _, curU16, _) _ (accNo, bal) =>
      (putDouble (putI32 [] accNo) bal,
        sendUpdateCallback monitors OpCode.OPEN.val accNo curU16 bal (ascii "OPEN by " ++ name)))
    bank monitors body

/-- The CLOSE branch; the callback reads the closed record back through `getAccount`. -/
def handleClose (bank : Bank) (monitors : List MonitorEntry) (body : Bytes) : Handled :=
  handleBank parseAccount
    (fun bank (name, accNo, pw) => bank.closeAccount name accNo pw)
    (fun (name, accNo, _) bank () =>
      let (curU16, bal) := match bank.getAccount accNo with
        | some a => (a.currency, a.balance)
        | none => (0, Double.zero)
      (putString [] (ascii "account closed"),
        sendUpdateCallback monitors OpCode.CLOSE.val accNo curU16 bal (ascii "CLOSE by " ++ name)))
    bank monitors body

/-- The DEPOSIT branch. -/
def handleDeposit (bank : Bank) (monitors : List MonitorEntry) (body : Bytes) : Handled :=
  handleBank parseAmount
    (fun bank (name, accNo, pw, curU16, amount) => bank.deposit name accNo pw curU16 amount)
    (fun (name, accNo, _, curU16, amount) _ newBal =>
      (putDouble [] newBal,
        sendUpdateCallback monitors OpCode.DEPOSIT.val accNo curU16 newBal
          (ascii "DEPOSIT " ++ amount.toString ++ ascii " by " ++ name)))
    bank monitors body

/-- The WITHDRAW branch. -/
def handleWithdraw (bank : Bank) (monitors : List MonitorEntry) (body : Bytes) : Handled :=
  handleBank parseAmount
    (fun bank (name, accNo, pw, curU16, amount) => bank.withdraw name accNo pw curU16 amount)
    (fun (name, accNo, _, curU16, amount) _ newBal =>
      (putDouble [] newBal,
        sendUpdateCallback monitors OpCode.WITHDRAW.val accNo curU16 newBal
          (ascii "WITHDRAW " ++ amount.toString ++ ascii " by " ++ name)))
    bank monitors body

/-- The TRANSFER branch: a callback for the source account, then one for the destination. -/
def handleTransfer (bank : Bank) (monitors : List MonitorEntry) (body : Bytes) : Handled :=
  handleBank parseTransfer
    (fun bank (name, fromAcc, pw, toAcc, curU16, amount) =>
      bank.transfer name fromAcc pw toAcc curU16 amount)
    (fun (name, fromAcc, _, toAcc, curU16, amount) _ (fromBal, toBal) =>
      (putDouble (putDouble [] fromBal) toBal,
        sendUpdateCallback monitors OpCode.TRANSFER.val fromAcc curU16 fromBal
            (ascii "TRANSFER out " ++ amount.toString ++ ascii " to " ++ toAcc.toDecimal ++
              ascii " by " ++ name) ++
          sendUpdateCallback monitors OpCode.TRANSFER.val toAcc curU16 toBal
            (ascii "TRANSFER in " ++ amount.toString ++ ascii " from " ++ fromAcc.toDecimal)))
    bank monitors body

/-- The QUERY_BALANCE branch: `queryBalance` is `const`, and no callback is sent. -/
def handleQuery (bank : Bank) (monitors : List MonitorEntry) (body : Bytes) : Handled :=
  handleBank parseAccount
    (fun bank (name, accNo, pw) => (bank, bank.queryBalance name accNo pw))
    (fun _ _ (cur, bal) => (putDouble (putU16 [] cur) bal, []))
    bank monitors body

/-- The MONITOR_REGISTER branch: the peer is watched until `now() + seconds`. -/
def handleMonitor (bank : Bank) (monitors : List MonitorEntry) (peer : SockAddr) (now : Time)
    (body : Bytes) : Handled :=
  match parseMonitor body with
  | none => .fail bank monitors .ERR_BAD_REQUEST
  | some secs =>
    ⟨Status.OK.val,
      putString [] (ascii "monitor registered for " ++ decimal secs.toNat ++ ascii "s"), bank,
      monitors ++ [⟨peer, now + seconds secs.toNat⟩], []⟩

/-- The dispatch on `req.h.opCode`; `now` is the clock reading MONITOR_REGISTER takes. -/
def dispatch (bank : Bank) (monitors : List MonitorEntry) (peer : SockAddr) (now : Time)
    (req : Message) : Handled :=
  if req.h.opCode = OpCode.OPEN.val then handleOpen bank monitors req.body
  else if req.h.opCode = OpCode.CLOSE.val then handleClose bank monitors req.body
  else if req.h.opCode = OpCode.DEPOSIT.val then handleDeposit bank monitors req.body
  else if req.h.opCode = OpCode.WITHDRAW.val then handleWithdraw bank monitors req.body
  else if req.h.opCode = OpCode.TRANSFER.val then handleTransfer bank monitors req.body
  else if req.h.opCode = OpCode.QUERY_BALANCE.val then handleQuery bank monitors req.body
  else if req.h.opCode = OpCode.MONITOR_REGISTER.val then handleMonitor bank monitors peer now req.body
  else .fail bank monitors .ERR_BAD_REQUEST

/-- The reply: the skeleton copied from the request, the branch's status and body, and
`bodyLen = (uint32_t)rep.body.size()`. -/
def replyOf (req : Message) (d : Handled) : Message :=
  ⟨⟨MAGIC, VERSION, MsgType.Reply.val, req.h.opCode, req.h.flags, d.status, req.h.requestId,
    UInt32.ofNat d.body.length⟩, d.body⟩

/-! ## Error atomicity -/

/-- The result fields an opcode's `OK` reply carries, in the order of §4.2, and nothing else. -/
def ResultFields : OpCode → Bytes → Prop
  | .OPEN, body => ∃ accNo bal, body = putDouble (putI32 [] accNo) bal
  | .CLOSE, body => body = putString [] (ascii "account closed")
  | .DEPOSIT, body | .WITHDRAW, body => ∃ bal, body = putDouble [] bal
  | .TRANSFER, body => ∃ fromBal toBal, body = putDouble (putDouble [] fromBal) toBal
  | .QUERY_BALANCE, body => ∃ cur bal, body = putDouble (putU16 [] cur) bal
  | .MONITOR_REGISTER, body =>
    ∃ secs : UInt16, body = putString [] (ascii "monitor registered for " ++ decimal secs.toNat ++ ascii "s")
  | .CALLBACK_UPDATE, _ => False

/-- A branch is atomic: `OK` with a non-empty body of exactly the opcode's result fields, or
another status with an empty body and no write to the bank, the monitors or the network. -/
def Atomic (bank : Bank) (monitors : List MonitorEntry) (op : UInt16) (d : Handled) : Prop :=
  (d.status = Status.OK.val ∧ d.body ≠ [] ∧ ∃ o : OpCode, o.val = op ∧ ResultFields o d.body) ∨
  (d.status ≠ Status.OK.val ∧ d.body = [] ∧ d.bank = bank ∧ d.monitors = monitors ∧ d.callbacks = [])

theorem Handled.fail_atomic {bank : Bank} {monitors : List MonitorEntry} {op : UInt16} {s : Status}
    (h : s ≠ .OK) : Atomic bank monitors op (.fail bank monitors s) :=
  .inr ⟨Bank.Status.val_ne_zero h, rfl, rfl, rfl, rfl⟩

theorem putDouble_ne_nil (b : Bytes) (v : Double) : putDouble b v ≠ [] := fun h => by
  simpa [putDouble, putU64, putBE64] using congrArg List.length h

theorem putString_ne_nil (s : Bytes) (h : s.length ≤ 65535) : putString [] s ≠ [] := fun h' => by
  simpa [putString, Nat.not_lt.2 h, putU16, putBE16] using congrArg List.length h'

theorem length_decimal_lt (n : Nat) (h : n < 10 ^ 5) : (decimal n).length ≤ 5 := by
  rw [decimal, ascii, List.length_map]
  exact Nat.repr_length n 5 (by norm_num) h

theorem handleBank_atomic {α β : Type} {parse : Bytes → Option α}
    {call : Bank → α → Bank × Except Status β} {reply : α → Bank → β → Bytes × List Datagram}
    (o : OpCode) (hcall : ∀ b args, Bank.FailsClean b (call b args))
    (hreply : ∀ args b r, (reply args b r).1 ≠ [] ∧ ResultFields o (reply args b r).1)
    (bank : Bank) (monitors : List MonitorEntry) (body : Bytes) :
    Atomic bank monitors o.val (handleBank parse call reply bank monitors body) := by
  unfold handleBank
  split
  · exact Handled.fail_atomic (by decide)
  · rcases hc : call bank _ with ⟨b', e | r⟩
    · obtain ⟨rfl, hne⟩ := (hcall _ _).of_eq hc
      exact Handled.fail_atomic hne
    · exact .inl ⟨rfl, (hreply _ _ _).1, o, rfl, (hreply _ _ _).2⟩

theorem handleOpen_atomic (bank : Bank) (monitors : List MonitorEntry) (body : Bytes) :
    Atomic bank monitors OpCode.OPEN.val (handleOpen bank monitors body) :=
  handleBank_atomic .OPEN (fun b ⟨name, pw, c, initial⟩ => Bank.openAccount_error b name pw c initial)
    (fun _ _ _ => ⟨putDouble_ne_nil _ _, _, _, rfl⟩)
    bank monitors body

theorem handleClose_atomic (bank : Bank) (monitors : List MonitorEntry) (body : Bytes) :
    Atomic bank monitors OpCode.CLOSE.val (handleClose bank monitors body) :=
  handleBank_atomic .CLOSE (fun b ⟨name, accNo, pw⟩ => Bank.closeAccount_error b name accNo pw)
    (fun _ _ _ => ⟨putString_ne_nil (ascii "account closed") (by decide), by rfl⟩)
    bank monitors body

theorem handleDeposit_atomic (bank : Bank) (monitors : List MonitorEntry) (body : Bytes) :
    Atomic bank monitors OpCode.DEPOSIT.val (handleDeposit bank monitors body) :=
  handleBank_atomic .DEPOSIT
    (fun b ⟨name, accNo, pw, c, amount⟩ => Bank.deposit_error b name accNo pw c amount)
    (fun _ _ _ => ⟨putDouble_ne_nil _ _, _, rfl⟩)
    bank monitors body

theorem handleWithdraw_atomic (bank : Bank) (monitors : List MonitorEntry) (body : Bytes) :
    Atomic bank monitors OpCode.WITHDRAW.val (handleWithdraw bank monitors body) :=
  handleBank_atomic .WITHDRAW
    (fun b ⟨name, accNo, pw, c, amount⟩ => Bank.withdraw_error b name accNo pw c amount)
    (fun _ _ _ => ⟨putDouble_ne_nil _ _, _, rfl⟩)
    bank monitors body

theorem handleTransfer_atomic (bank : Bank) (monitors : List MonitorEntry) (body : Bytes) :
    Atomic bank monitors OpCode.TRANSFER.val (handleTransfer bank monitors body) :=
  handleBank_atomic .TRANSFER
    (fun b ⟨name, fromAcc, pw, toAcc, c, amount⟩ =>
      Bank.transfer_error b name fromAcc pw toAcc c amount)
    (fun _ _ _ => ⟨putDouble_ne_nil _ _, _, _, rfl⟩)
    bank monitors body

theorem handleQuery_atomic (bank : Bank) (monitors : List MonitorEntry) (body : Bytes) :
    Atomic bank monitors OpCode.QUERY_BALANCE.val (handleQuery bank monitors body) :=
  handleBank_atomic .QUERY_BALANCE
    (fun b ⟨name, accNo, pw⟩ e h => ⟨rfl, Bank.queryBalance_error b name accNo pw e h⟩)
    (fun _ _ _ => ⟨putDouble_ne_nil _ _, _, _, rfl⟩)
    bank monitors body

theorem handleMonitor_atomic (bank : Bank) (monitors : List MonitorEntry) (peer : SockAddr)
    (now : Time) (body : Bytes) :
    Atomic bank monitors OpCode.MONITOR_REGISTER.val (handleMonitor bank monitors peer now body) := by
  unfold handleMonitor
  split
  · exact Handled.fail_atomic (by decide)
  · rename_i secs _
    have hlen := length_decimal_lt secs.toNat (Nat.lt_of_lt_of_le secs.toNat_lt_size (by decide))
    dsimp only [Atomic, ResultFields]
    refine .inl ⟨rfl, putString_ne_nil _ ?_, .MONITOR_REGISTER, rfl, secs, rfl⟩
    rw [List.length_append, List.length_append, ascii, ascii, List.length_map, List.length_map]
    exact Nat.le_trans (Nat.add_le_add_right (Nat.add_le_add_left hlen _) _) (by decide)

/-- The branches of `dispatch`, for two dispatches of one request: a relation between the
two runs of each branch, under its opcode test, relates the two dispatches. -/
theorem dispatch_congr {R : Handled → Handled → Prop} {bank₁ bank₂ : Bank}
    {monitors₁ monitors₂ : List MonitorEntry} {peer : SockAddr} {now : Time} {req : Message}
    (hopen : req.h.opCode = OpCode.OPEN.val →
      R (handleOpen bank₁ monitors₁ req.body) (handleOpen bank₂ monitors₂ req.body))
    (hclose : req.h.opCode = OpCode.CLOSE.val →
      R (handleClose bank₁ monitors₁ req.body) (handleClose bank₂ monitors₂ req.body))
    (hdeposit : req.h.opCode = OpCode.DEPOSIT.val →
      R (handleDeposit bank₁ monitors₁ req.body) (handleDeposit bank₂ monitors₂ req.body))
    (hwithdraw : req.h.opCode = OpCode.WITHDRAW.val →
      R (handleWithdraw bank₁ monitors₁ req.body) (handleWithdraw bank₂ monitors₂ req.body))
    (htransfer : req.h.opCode = OpCode.TRANSFER.val →
      R (handleTransfer bank₁ monitors₁ req.body) (handleTransfer bank₂ monitors₂ req.body))
    (hquery : req.h.opCode = OpCode.QUERY_BALANCE.val →
      R (handleQuery bank₁ monitors₁ req.body) (handleQuery bank₂ monitors₂ req.body))
    (hmonitor : req.h.opCode = OpCode.MONITOR_REGISTER.val →
      R (handleMonitor bank₁ monitors₁ peer now req.body)
        (handleMonitor bank₂ monitors₂ peer now req.body))
    (hbad : R (.fail bank₁ monitors₁ .ERR_BAD_REQUEST) (.fail bank₂ monitors₂ .ERR_BAD_REQUEST)) :
    R (dispatch bank₁ monitors₁ peer now req) (dispatch bank₂ monitors₂ peer now req) := by
  unfold dispatch
  by_cases h1 : req.h.opCode = OpCode.OPEN.val
  · rw [if_pos h1, if_pos h1]; exact hopen h1
  rw [if_neg h1, if_neg h1]; by_cases h2 : req.h.opCode = OpCode.CLOSE.val
  · rw [if_pos h2, if_pos h2]; exact hclose h2
  rw [if_neg h2, if_neg h2]; by_cases h3 : req.h.opCode = OpCode.DEPOSIT.val
  · rw [if_pos h3, if_pos h3]; exact hdeposit h3
  rw [if_neg h3, if_neg h3]; by_cases h4 : req.h.opCode = OpCode.WITHDRAW.val
  · rw [if_pos h4, if_pos h4]; exact hwithdraw h4
  rw [if_neg h4, if_neg h4]; by_cases h5 : req.h.opCode = OpCode.TRANSFER.val
  · rw [if_pos h5, if_pos h5]; exact htransfer h5
  rw [if_neg h5, if_neg h5]; by_cases h6 : req.h.opCode = OpCode.QUERY_BALANCE.val
  · rw [if_pos h6, if_pos h6]; exact hquery h6
  rw [if_neg h6, if_neg h6]; by_cases h7 : req.h.opCode = OpCode.MONITOR_REGISTER.val
  · rw [if_pos h7, if_pos h7]; exact hmonitor h7
  rw [if_neg h7, if_neg h7]; exact hbad

/-- The branches of `dispatch`: a fact about each branch, under its opcode test, is a fact
about the dispatch. -/
@[elab_as_elim]
theorem dispatch_cases {P : Handled → Prop} {bank : Bank} {monitors : List MonitorEntry}
    {peer : SockAddr} {now : Time} {req : Message}
    (hopen : req.h.opCode = OpCode.OPEN.val → P (handleOpen bank monitors req.body))
    (hclose : req.h.opCode = OpCode.CLOSE.val → P (handleClose bank monitors req.body))
    (hdeposit : req.h.opCode = OpCode.DEPOSIT.val → P (handleDeposit bank monitors req.body))
    (hwithdraw : req.h.opCode = OpCode.WITHDRAW.val → P (handleWithdraw bank monitors req.body))
    (htransfer : req.h.opCode = OpCode.TRANSFER.val → P (handleTransfer bank monitors req.body))
    (hquery : req.h.opCode = OpCode.QUERY_BALANCE.val → P (handleQuery bank monitors req.body))
    (hmonitor : req.h.opCode = OpCode.MONITOR_REGISTER.val →
      P (handleMonitor bank monitors peer now req.body))
    (hbad : P (.fail bank monitors .ERR_BAD_REQUEST)) :
    P (dispatch bank monitors peer now req) :=
  @dispatch_congr (fun d _ => P d) bank bank monitors monitors peer now req hopen hclose hdeposit
    hwithdraw htransfer hquery hmonitor hbad

/-- Every opcode, known or not, is answered atomically. -/
theorem dispatch_handled_atomic (bank : Bank) (monitors : List MonitorEntry) (peer : SockAddr)
    (now : Time) (req : Message) :
    Atomic bank monitors req.h.opCode (dispatch bank monitors peer now req) :=
  dispatch_cases (fun h => h ▸ handleOpen_atomic _ _ _) (fun h => h ▸ handleClose_atomic _ _ _)
    (fun h => h ▸ handleDeposit_atomic _ _ _) (fun h => h ▸ handleWithdraw_atomic _ _ _)
    (fun h => h ▸ handleTransfer_atomic _ _ _) (fun h => h ▸ handleQuery_atomic _ _ _)
    (fun h => h ▸ handleMonitor_atomic _ _ _ _ _) (Handled.fail_atomic (by decide))

theorem dispatch_atomic (bank : Bank) (monitors : List MonitorEntry) (peer : SockAddr)
    (now : Time) (req : Message) :
    let d := dispatch bank monitors peer now req
    let rep := replyOf req d
    (rep.h.status = Status.OK.val ∧ rep.body ≠ [] ∧
      ∃ o : OpCode, o.val = req.h.opCode ∧ ResultFields o rep.body) ∨
    (rep.h.status ≠ Status.OK.val ∧ rep.body = [] ∧
      d.bank = bank ∧ d.monitors = monitors ∧ d.callbacks = []) :=
  dispatch_handled_atomic bank monitors peer now req

/-! ## What a branch writes besides its reply -/

theorem mem_sendUpdateCallback {monitors : List MonitorEntry} {u : UInt16} {accNo : Int32}
    {cur : UInt16} {bal : Double} {info : Bytes} {d : Datagram}
    (h : d ∈ sendUpdateCallback monitors u accNo cur bal info) :
    ∃ m ∈ monitors, d = ⟨m.addr, encode (callbackMessage u accNo cur bal info)⟩ := by
  obtain ⟨m, hm, rfl⟩ := List.mem_map.1 h
  exact ⟨m, hm, rfl⟩

/-- A callback goes to a subscriber. -/
def ToSubscriber (monitors : List MonitorEntry) (d : Datagram) : Prop :=
  ∃ m ∈ monitors, d.peer = m.addr

theorem handleBank_monitors {α β : Type} (parse : Bytes → Option α)
    (call : Bank → α → Bank × Except Status β) (reply : α → Bank → β → Bytes × List Datagram)
    (bank : Bank) (monitors : List MonitorEntry) (body : Bytes) :
    (handleBank parse call reply bank monitors body).monitors = monitors := by
  unfold handleBank; split
  · rfl
  · rcases call bank _ with ⟨b', e | r⟩ <;> rfl

theorem Handled.ofCall_bank {β : Type} (monitors : List MonitorEntry)
    (reply : Bank → β → Bytes × List Datagram) (c : Bank × Except Status β) :
    (Handled.ofCall monitors reply c).bank = c.1 := by
  obtain ⟨b, _ | _⟩ := c <;> rfl

theorem handleBank_bank {α β : Type} (parse : Bytes → Option α)
    (call : Bank → α → Bank × Except Status β) (reply : α → Bank → β → Bytes × List Datagram)
    (bank : Bank) (monitors : List MonitorEntry) (body : Bytes) :
    (handleBank parse call reply bank monitors body).bank = bank ∨ ∃ args, parse body = some args ∧
      (handleBank parse call reply bank monitors body).bank = (call bank args).1 := by
  unfold handleBank; split
  · exact .inl rfl
  · exact .inr ⟨_, ‹_›, Handled.ofCall_bank ..⟩

theorem handleBank_callbacks {α β : Type} {parse : Bytes → Option α}
    {call : Bank → α → Bank × Except Status β} {reply : α → Bank → β → Bytes × List Datagram}
    {P : Datagram → Prop} {body : Bytes}
    (hreply : ∀ args, parse body = some args → ∀ b r, ∀ d ∈ (reply args b r).2, P d)
    (bank : Bank) (monitors : List MonitorEntry) :
    ∀ d ∈ (handleBank parse call reply bank monitors body).callbacks, P d := by
  unfold handleBank; split
  · exact fun _ h => absurd h (List.not_mem_nil _)
  · rcases call bank _ with ⟨b', e | r⟩
    · exact fun _ h => absurd h (List.not_mem_nil _)
    · exact hreply _ ‹_› _ _

theorem sendUpdateCallback_toSubscriber {monitors : List MonitorEntry} {u : UInt16}
    {accNo : Int32} {cur : UInt16} {bal : Double} {info : Bytes} :
    ∀ d ∈ sendUpdateCallback monitors u accNo cur bal info, ToSubscriber monitors d := fun _ h =>
  let ⟨m, hm, e⟩ := mem_sendUpdateCallback h
  ⟨m, hm, by rw [e]⟩

/-- Every callback a dispatch sends goes to an entry of the subscription list it was given. -/
theorem dispatch_callbacks (bank : Bank) (monitors : List MonitorEntry) (peer : SockAddr)
    (now : Time) (req : Message) :
    ∀ d ∈ (dispatch bank monitors peer now req).callbacks, ToSubscriber monitors d := by
  have hs := @sendUpdateCallback_toSubscriber monitors
  have hnil : ∀ d ∈ ([] : List Datagram), ToSubscriber monitors d := fun _ h => absurd h (List.not_mem_nil _)
  refine dispatch_cases (fun _ => handleBank_callbacks (fun _ _ _ _ => hs) _ _)
    (fun _ => handleBank_callbacks (fun _ _ _ _ => hs) _ _)
    (fun _ => handleBank_callbacks (fun _ _ _ _ => hs) _ _)
    (fun _ => handleBank_callbacks (fun _ _ _ _ => hs) _ _)
    (fun _ => handleBank_callbacks (fun _ _ _ _ d hd => ?_) _ _)
    (fun _ => handleBank_callbacks (fun _ _ _ _ => hnil) _ _) (fun _ => ?_) hnil
  · rcases List.mem_append.1 hd with hd | hd <;> exact hs d hd
  · unfold handleMonitor; split <;> exact hnil

/-- The subscription list changes only by MONITOR_REGISTER, which appends the peer with the
expiry `now + seconds`. -/
theorem dispatch_monitors (bank : Bank) (monitors : List MonitorEntry) (peer : SockAddr)
    (now : Time) (req : Message) :
    (dispatch bank monitors peer now req).monitors = monitors ∨
      req.h.opCode = OpCode.MONITOR_REGISTER.val ∧ ∃ secs, parseMonitor req.body = some secs ∧
        (dispatch bank monitors peer now req).monitors =
          monitors ++ [⟨peer, now + seconds secs.toNat⟩] := by
  refine dispatch_cases (fun _ => .inl (handleBank_monitors ..)) (fun _ => .inl (handleBank_monitors ..))
    (fun _ => .inl (handleBank_monitors ..)) (fun _ => .inl (handleBank_monitors ..))
    (fun _ => .inl (handleBank_monitors ..)) (fun _ => .inl (handleBank_monitors ..))
    (fun h => ?_) (.inl rfl)
  unfold handleMonitor; split
  · exact .inl rfl
  · exact .inr ⟨h, _, ‹_›, rfl⟩

/-! ## Callback fan-out -/

/-- The callbacks of an update of the accounts `accs`, in this order: for each, one
CALLBACK_UPDATE per subscription of `monitors`, in the list's order, carrying `op`, the
account number, and the currency and balance the bank `b` stores for the account. -/
def FanOut (b : Bank) (monitors : List MonitorEntry) (op : UInt16) : List Int32 → List Datagram → Prop
  | [], cbs => cbs = []
  | accNo :: accs, cbs => ∃ a info rest, b.getAccount accNo = some a ∧
      cbs = sendUpdateCallback monitors op accNo a.currency a.balance info ++ rest ∧
      FanOut b monitors op accs rest

theorem handleMonitor_callbacks (bank : Bank) (monitors : List MonitorEntry) (peer : SockAddr)
    (now : Time) (body : Bytes) : (handleMonitor bank monitors peer now body).callbacks = [] := by
  unfold handleMonitor; split <;> rfl

end DistributedBank
