/-
# DistributedBank.RoundTrip — one DEPOSIT from the console to the screen

The pieces of a round trip are modelled apart: the handler that reads the operator's input
and builds the body (`Client.Handlers`), the request `Client::call` encodes and the filters
its reply must pass (`Client.Call`), the loop pass that receives the request
(`Server.Loop`), the dispatch and the bank call (`Server.Dispatch`, `Server.Bank`), and the
client's reads of the reply (`Client.Replies`).  Here they are put together for DEPOSIT, the
operation whose result depends on the state it meets.

The seams hold whenever the request fits the server's buffer: its body length fits
`bodyLen`, so the server decodes the very request the client built, and the reply body is
eight bytes.  The handler's checks and the bank's differ in two places.  The handler sends
the password as typed, and the server compares its first 16 bytes without trailing zeros
(`Client.sentPassword`).  The handler's `amount <= 0` test lets a NaN through, which the
bank's `amount > 0.0` refuses.

* `deposit_round_trip`: a DEPOSIT the operator typed, for an open account under its stored
  credentials and currency, whose request and reply both get through, credits the typed
  amount, and the balance the client reads from the reply is the one the bank now holds.
-/
import DistributedBank.Client.Replies
import DistributedBank.Server.Retries

namespace DistributedBank

set_option autoImplicit false

/-- The flag bit `Client::call` sets is the flag the loop reads. -/
theorem atMostOnce_request (flag : Bool) (op : UInt16) (body : Bytes) (id : UInt64) :
    atMostOnce (Client.request flag op body id) = flag := by
  cases flag <;> simp only [atMostOnce, Client.request] <;> decide

/-- A request whose body fits `bodyLen` decodes, at the server, as the request itself. -/
theorem decoded_request (flag : Bool) (op : UInt16) (body : Bytes) (id : UInt64)
    (h : body.length < 2 ^ 32) :
    Accepts (encode (Client.request flag op body id)) ∧
      decoded (encode (Client.request flag op body id)) = Client.request flag op body id := by
  have hbl : (Client.request flag op body id).h.bodyLen.toNat = body.length :=
    UInt32.toNat_ofNat_of_lt (by simpa only [UInt32.size] using h)
  obtain ⟨hacc, hdec⟩ := (decode_eq_true_iff _ default _).1 (decode_encode _ default rfl hbl)
  exact ⟨hacc, hdec.symm⟩

/-- What `handleDeposit` reads from an `OK` reply carrying a balance. -/
theorem readReply_deposit {m : Message} {bal : Double} (hok : m.h.status = Status.OK.val)
    (hb : m.body = putDouble [] bal) : Client.readReply .DEPOSIT m = some (.balance bal) := by
  obtain ⟨_, r, -⟩ := getDouble_get?_of_drop (drop_zero_append_nil (putDouble [] bal)) Double.zero
  simp [Client.readReply, hok, hb, r]

/-- A DEPOSIT round trip.  The operator's input `ls` gives the values `v`, and the client
sends the request with id `id` from `peer`.  The server's pass receives it and keeps it, and
finds the account open, under the name and the password it compares, in the typed currency;
the amount is not a NaN; at at-most-once the key is not cached.  Then the handler sends
exactly that body, the pass credits the amount, and its reply reaches the waiting `call`,
where `handleDeposit` reads the new balance. -/
theorem deposit_round_trip {stod : Bytes → Option Double} {ls rest : Client.Lines}
    {v : Client.AmountInput} (hv : Client.promptAmountInput stod ls = .ok v rest) (flag : Bool)
    (id : UInt64) (reply : Message) {s : Server} {τ : Tick} {peer : SockAddr} {acc : Account}
    (hrecv : τ.recv =
      some ⟨peer, encode (Client.request flag OpCode.DEPOSIT.val (Client.amountBody v) id)⟩)
    (hkeep : τ.dropRequest = false) (hdeliver : τ.dropReply = false)
    (hfit : (Client.amountBody v).length ≤ 2024) (hname : v.name.length ≤ 65535)
    (hfresh : flag = true → s.dedup (dedupKey peer id) = none)
    (hopen : s.bank.findOpen v.accNo = some acc)
    (hauth : Bank.authMatch acc v.name (Client.sentPassword v.password) = true)
    (hcur : acc.currency = v.currency) (hnan : v.amount.isNaN = false) :
    Client.handleDeposit stod ls = .ok (OpCode.DEPOSIT.val, Client.amountBody v) rest ∧
      (step s τ).1.bank.findOpen v.accNo = some { acc with balance := acc.balance + v.amount } ∧
      ∃ r m, (step s τ).2.reply = some r ∧ r.peer = peer ∧
        Client.receive id reply (.datagram r.bytes) = (true, m) ∧
        Client.readReply .DEPOSIT m = some (.balance (acc.balance + v.amount)) := by
  obtain ⟨hacc, hdec⟩ := decoded_request flag OpCode.DEPOSIT.val (Client.amountBody v) id
    (by omega)
  have hreq : IsRequest (encode (Client.request flag OpCode.DEPOSIT.val (Client.amountBody v) id)) :=
    ⟨hacc, by rw [hdec]; rfl, by rw [hdec]; rfl⟩
  have hlen : (encode (Client.request flag OpCode.DEPOSIT.val (Client.amountBody v) id)).length ≤
      2048 := by
    rw [length_encode]; exact Nat.add_le_add_left hfit 24
  have hmiss : atMostOnce (decoded (encode
      (Client.request flag OpCode.DEPOSIT.val (Client.amountBody v) id))) = true →
      (sweep τ.sweepAt s).dedup (dedupKey peer (decoded (encode
        (Client.request flag OpCode.DEPOSIT.val (Client.amountBody v) id))).h.requestId) = none := by
    rw [hdec, atMostOnce_request]
    exact fun hf => sweep_dedup_eq_none (hfresh hf)
  rw [step_eq_serve, serve_execute hrecv hlen hkeep hreq hmiss, hdec, atMostOnce_request,
    execute_bank, execute_sent, sweep_bank]
  dsimp only
  obtain ⟨hok, hbody, hbank⟩ := @dispatch_deposit_ok s.bank (sweep τ.sweepAt s).monitors peer
    τ.registeredAt (Client.request flag OpCode.DEPOSIT.val (Client.amountBody v) id) v.name
    (Client.sentPassword v.password) v.accNo v.currency v.amount acc rfl
    (Client.parseAmount_amountBody v hname) hopen hauth hcur
    (Double.zero_lt_of_le_zero_eq_false hnan (Client.promptAmountInput_amount hv))
  generalize dispatch s.bank (sweep τ.sweepAt s).monitors peer τ.registeredAt
    (Client.request flag OpCode.DEPOSIT.val (Client.amountBody v) id) = d at hok hbody hbank ⊢
  refine ⟨by simp only [Client.handleDeposit, Client.sendWith, hv, Client.Prompt.ok_bind], ?_,
    ⟨peer, encode (replyOf (Client.request flag OpCode.DEPOSIT.val (Client.amountBody v) id) d)⟩,
    replyOf (Client.request flag OpCode.DEPOSIT.val (Client.amountBody v) id) d,
    by simp only [replyTo, hdeliver]; rfl, rfl, ?_, readReply_deposit hok hbody⟩
  · rw [hbank, Bank.findOpen_put, if_pos rfl,
      if_neg (by simpa using (Bank.findOpen_eq_some.1 hopen).2)]
  · exact Client.receive_replyOf (Client.request flag OpCode.DEPOSIT.val (Client.amountBody v) id) d
      (by simp [hbody, putDouble, putU64, putBE64]) reply

/-- `a` deposits `1` SGD into account 10001 with password `pw`. -/
def depositInput : Client.AmountInput := ⟨ascii "a", 10001, ascii "pw", 1, oneDouble⟩

/-- The operator's lines for it, with `std::stod` reading `1` as `1.0`. -/
def depositLines : Client.Lines := [ascii "a", ascii "10001", ascii "pw", ascii "SGD", ascii "1"]

/-- The pass that receives it from `peerB`, at-most-once, as request 9. -/
def depositPass : Tick :=
  ⟨0, some ⟨peerB, encode (Client.request true OpCode.DEPOSIT.val (Client.amountBody depositInput) 9)⟩,
    0, false, 0, 0, false⟩

theorem deposit_round_trip_one :
    Client.handleDeposit (fun _ => some oneDouble) depositLines =
        .ok (OpCode.DEPOSIT.val, Client.amountBody depositInput) [] ∧
      (step oneAccount depositPass).1.bank.findOpen 10001 =
        some ⟨10001, ascii "a", ascii "pw", 1, Double.zero + oneDouble, false⟩ ∧
      ∃ r m, (step oneAccount depositPass).2.reply = some r ∧ r.peer = peerB ∧
        Client.receive 9 default (.datagram r.bytes) = (true, m) ∧
        Client.readReply .DEPOSIT m = some (.balance (Double.zero + oneDouble)) :=
  @deposit_round_trip (fun _ => some oneDouble) depositLines [] depositInput
    (by set_option exponentiation.threshold 1100 in decide) true 9 default oneAccount depositPass
    peerB ⟨10001, ascii "a", ascii "pw", 1, Double.zero, false⟩ rfl rfl rfl (by decide) (by decide)
    (fun _ => rfl) (by decide) (by decide) rfl (by decide)

end DistributedBank
