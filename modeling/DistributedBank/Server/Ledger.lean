/-
# DistributedBank.Server.Ledger — account numbers, credentials and balances over whole runs

`nextAccNo_` is an `int32_t`: it counts up from 10001, and the increment after
2^31 − 1 wraps it to −2^31.  Along a run in which it has not wrapped (`NoWrap`), every
record sits under its own number, between 10001 and the counter: allocation happens at
the frontier, and every other write goes to an open record.  Past the wrap, OPEN hands
out numbers below the earlier ones, and after 2^32 opens it writes over the first account.

* `Bank.Call`, `step_call`: a pass calls the bank at most once, for the request it received;
* `run_allocated`: the allocation invariant along a run without the wrap;
* `allocation_wraps`, `open_overwrites_after_wrap`: the wrap, reached by a run of OPENs;
* `Bank.Call.dense`, `account_numbers_dense`: without the wrap no number between 10001 and the
  counter is skipped, so the numbers in use are exactly those below the counter.
-/
import DistributedBank.Server.Loop

namespace DistributedBank

set_option autoImplicit false

/-! ## One bank call per pass -/

/-- The bank before and after a dispatch of `req`: unchanged, or after one call of the
operation its opcode names, with the arguments its body parses to. -/
inductive Bank.Call (b : Bank) (req : Message) : Bank → Prop where
  | none : Call b req b
  | openAccount (name pw16 : Bytes) (c : UInt16) (initial : Double)
      (hop : req.h.opCode = OpCode.OPEN.val)
      (hp : parseOpen req.body = some (name, pw16, c, initial)) :
      Call b req (b.openAccount name pw16 c initial).1
  | closeAccount (name : Bytes) (accNo : Int32) (pw16 : Bytes)
      (hop : req.h.opCode = OpCode.CLOSE.val)
      (hp : parseAccount req.body = some (name, accNo, pw16)) :
      Call b req (b.closeAccount name accNo pw16).1
  | deposit (name : Bytes) (accNo : Int32) (pw16 : Bytes) (c : UInt16) (amount : Double)
      (hop : req.h.opCode = OpCode.DEPOSIT.val)
      (hp : parseAmount req.body = some (name, accNo, pw16, c, amount)) :
      Call b req (b.deposit name accNo pw16 c amount).1
  | withdraw (name : Bytes) (accNo : Int32) (pw16 : Bytes) (c : UInt16) (amount : Double)
      (hop : req.h.opCode = OpCode.WITHDRAW.val)
      (hp : parseAmount req.body = some (name, accNo, pw16, c, amount)) :
      Call b req (b.withdraw name accNo pw16 c amount).1
  | transfer (name : Bytes) (fromAccNo : Int32) (pw16 : Bytes) (toAccNo : Int32) (c : UInt16)
      (amount : Double) (hop : req.h.opCode = OpCode.TRANSFER.val)
      (hp : parseTransfer req.body = some (name, fromAccNo, pw16, toAccNo, c, amount)) :
      Call b req (b.transfer name fromAccNo pw16 toAccNo c amount).1

theorem Bank.Call.of_handleBank {α β : Type} {parse : Bytes → Option α}
    {call : Bank → α → Bank × Except Status β} {reply : α → Bank → β → Bytes × List Datagram}
    {bank : Bank} {req : Message}
    (hcall : ∀ args, parse req.body = some args → Bank.Call bank req (call bank args).1)
    (monitors : List MonitorEntry) :
    Bank.Call bank req (handleBank parse call reply bank monitors req.body).bank := by
  rcases handleBank_bank parse call reply bank monitors req.body with h | ⟨args, hp, h⟩ <;> rw [h]
  exacts [.none, hcall args hp]

theorem dispatch_call (bank : Bank) (monitors : List MonitorEntry) (peer : SockAddr) (now : Time)
    (req : Message) : Bank.Call bank req (dispatch bank monitors peer now req).bank :=
  dispatch_cases
    (fun hop => .of_handleBank (fun ⟨name, pw, c, initial⟩ => .openAccount name pw c initial hop) _)
    (fun hop => .of_handleBank (fun ⟨name, accNo, pw⟩ => .closeAccount name accNo pw hop) _)
    (fun hop => .of_handleBank
      (fun ⟨name, accNo, pw, c, amount⟩ => .deposit name accNo pw c amount hop) _)
    (fun hop => .of_handleBank
      (fun ⟨name, accNo, pw, c, amount⟩ => .withdraw name accNo pw c amount hop) _)
    (fun hop => .of_handleBank
      (fun ⟨name, fromAcc, pw, toAcc, c, amount⟩ => .transfer name fromAcc pw toAcc c amount hop) _)
    (fun _ => .of_handleBank (fun _ _ => .none) _)
    (fun _ => by unfold handleMonitor; split <;> exact .none) .none

/-- A pass leaves the bank as it was, or makes one call for the request it received. -/
theorem step_call (s : Server) (τ : Tick) :
    (step s τ).1.bank = s.bank ∨
      ∃ a, τ.recv = some a ∧ IsRequest a.bytes ∧ Bank.Call s.bank (decoded a.bytes) (step s τ).1.bank := by
  rw [step_eq_serve]
  rcases serve_cases (sweep τ.sweepAt s) τ with ⟨-, h⟩ | ⟨_, _, -, -, -, -, h⟩ |
      ⟨a, ha, -, -, hreq, -, h⟩ <;> rw [h]
  exacts [.inl rfl, .inl rfl, .inr ⟨a, ha, hreq, dispatch_call _ _ _ _ _⟩]

/-! ## The allocation invariant -/

/-- Every record sits under its own number, allocated between 10001 and the counter. -/
structure Allocated (b : Bank) : Prop where
  counter : 10001 ≤ b.nextAccNo.val
  keys : ∀ k a, b.accounts k = some a → a.accountNo = k ∧ 10001 ≤ k.val ∧ k.val < b.nextAccNo.val

variable {b : Bank}

/-- A write to an open record that keeps its number. -/
theorem Allocated.put_live (h : Allocated b) {k : Int32} {a : Account} (hk : b.findOpen k = some a)
    (a' : Account) (ha : a'.accountNo = a.accountNo) : Allocated (b.put k a') := by
  refine ⟨h.counter, fun j x hj => ?_⟩
  rw [Bank.put_accounts] at hj
  split_ifs at hj with hjk
  · cases hj; subst hjk
    obtain ⟨h1, h2⟩ := h.keys j a (Bank.findOpen_eq_some.1 hk).1
    exact ⟨ha.trans h1, h2⟩
  · exact h.keys j x hj

/-- Allocation at the frontier, when the counter does not wrap. -/
theorem Allocated.openAccount (h : Allocated b) (name pw16 : Bytes) (c : UInt16) (initial : Double)
    (hn : 10001 ≤ (b.openAccount name pw16 c initial).1.nextAccNo.val) :
    Allocated (b.openAccount name pw16 c initial).1 := by
  rcases Bank.openAccount_cases b name pw16 c initial with he | ⟨-, -, he⟩ <;> rw [he] at hn ⊢
  · exact h
  dsimp only at hn ⊢
  have hv := b.nextAccNo.hi
  have hw : (Int32.wrap (b.nextAccNo.val + 1)).val = b.nextAccNo.val + 1 := by
    by_cases hlt : b.nextAccNo.val + 1 < 2 ^ 31
    · exact Int32.val_wrap_of_lt (by have := b.nextAccNo.lo; omega) hlt
    · have he : b.nextAccNo.val + 1 = 2 ^ 31 := by omega
      simp only [Bank.put_nextAccNo, he] at hn
      exact absurd hn (by decide)
  simp only [Bank.put_nextAccNo, hw] at hn
  constructor <;> simp only [Bank.put_nextAccNo, hw]
  · exact hn
  intro j x hj
  rw [Bank.put_accounts] at hj
  split_ifs at hj with hjk
  · cases hj; subst hjk; exact ⟨rfl, h.counter, by omega⟩
  · obtain ⟨h1, h2, h3⟩ := h.keys j x hj; exact ⟨h1, h2, by omega⟩

/-- One bank call keeps the invariant unless it wraps the counter. -/
theorem Allocated.call (h : Allocated b) {req : Message} {b' : Bank} (hc : Bank.Call b req b')
    (hn : 10001 ≤ b'.nextAccNo.val) : Allocated b' := by
  cases hc with
  | none => exact h
  | openAccount name pw16 c initial => exact h.openAccount name pw16 c initial hn
  | closeAccount name accNo pw16 =>
    rcases Bank.closeAccount_cases b name accNo pw16 with ⟨e, -, he⟩ | ⟨a, ha, -, he⟩ <;> rw [he]
    exacts [h, h.put_live ha _ (by rfl)]
  | deposit name accNo pw16 c amount =>
    rcases Bank.deposit_cases b name accNo pw16 c amount with ⟨e, -, he⟩ | ⟨a, ha, -, -, -, he⟩ <;>
      rw [he]
    exacts [h, h.put_live ha _ (by rfl)]
  | withdraw name accNo pw16 c amount =>
    rcases Bank.withdraw_cases b name accNo pw16 c amount with ⟨e, -, he⟩ | ⟨a, ha, -, -, -, -, he⟩ <;>
      rw [he]
    exacts [h, h.put_live ha _ (by rfl)]
  | transfer name fromAccNo pw16 toAccNo c amount =>
    rcases Bank.transfer_cases b name fromAccNo pw16 toAccNo c amount with ⟨e, -, he⟩ |
        ⟨src, dst, hne, hsrc, hdst, -, -, -, -, -, he⟩ <;> rw [he]
    · exact h
    · refine (h.put_live hsrc _ (by rfl)).put_live (a := dst) ?_ _ (by rfl)
      rw [Bank.findOpen_put, if_neg (Ne.symm hne), hdst]

theorem Allocated.step {s : Server} (h : Allocated s.bank) (τ : Tick)
    (hn : 10001 ≤ (step s τ).1.bank.nextAccNo.val) : Allocated (step s τ).1.bank := by
  rcases step_call s τ with he | ⟨_, -, -, hc⟩
  · rwa [he]
  · exact h.call hc hn

/-- A run along which the counter never wraps: it stays at or above 10001 after every pass. -/
def NoWrap (ts : List Tick) : Prop :=
  ∀ i ≤ ts.length, 10001 ≤ (run Server.init (ts.take i)).bank.nextAccNo.val

instance (ts : List Tick) : Decidable (NoWrap ts) :=
  Nat.decidableBallLE _ fun i _ => 10001 ≤ (run Server.init (ts.take i)).bank.nextAccNo.val

theorem run_allocated_from :
    ∀ (s : Server) (ts : List Tick), Allocated s.bank →
      (∀ i ≤ ts.length, 10001 ≤ (run s (ts.take i)).bank.nextAccNo.val) → Allocated (run s ts).bank
  | _, [], h, _ => h
  | s, τ :: ts, h, hn => by
    rw [run_cons]
    refine run_allocated_from _ ts (h.step τ (hn 1 (by simp))) fun i hi => ?_
    simpa [run_cons] using hn (i + 1) (by simpa using hi)

theorem run_allocated {ts : List Tick} (h : NoWrap ts) : Allocated (run Server.init ts).bank :=
  run_allocated_from _ ts ⟨by decide, fun _ _ h => nomatch h⟩ h

/-! ## Numbers stay allocated -/

theorem Bank.isSome_put {b : Bank} {k : Int32} (j : Int32) (a : Account)
    (h : (b.accounts k).isSome) : ((b.put j a).accounts k).isSome := by
  rw [Bank.put_accounts]; split_ifs <;> simp_all

/-- No call removes a record. -/
theorem Bank.Call.isSome {req : Message} {b' : Bank} (hc : Bank.Call b req b') {k : Int32} (h : (b.accounts k).isSome) :
    (b'.accounts k).isSome := by
  cases hc with
  | none => exact h
  | openAccount name pw16 c initial =>
    rcases Bank.openAccount_cases b name pw16 c initial with he | ⟨-, -, he⟩ <;> rw [he]
    exacts [h, Bank.isSome_put _ _ h]
  | closeAccount name accNo pw16 =>
    rcases Bank.closeAccount_cases b name accNo pw16 with ⟨e, -, he⟩ | ⟨a, -, -, he⟩ <;> rw [he]
    exacts [h, Bank.isSome_put _ _ h]
  | deposit name accNo pw16 c amount =>
    rcases Bank.deposit_cases b name accNo pw16 c amount with ⟨e, -, he⟩ | ⟨a, -, -, -, -, he⟩ <;>
      rw [he]
    exacts [h, Bank.isSome_put _ _ h]
  | withdraw name accNo pw16 c amount =>
    rcases Bank.withdraw_cases b name accNo pw16 c amount with ⟨e, -, he⟩ | ⟨a, -, -, -, -, -, he⟩ <;>
      rw [he]
    exacts [h, Bank.isSome_put _ _ h]
  | transfer name fromAccNo pw16 toAccNo c amount =>
    rcases Bank.transfer_cases b name fromAccNo pw16 toAccNo c amount with ⟨e, -, he⟩ |
        ⟨src, dst, -, -, -, -, -, -, -, -, he⟩ <;> rw [he]
    exacts [h, Bank.isSome_put _ _ (Bank.isSome_put _ _ h)]

theorem step_isSome (s : Server) (τ : Tick) {k : Int32} (h : (s.bank.accounts k).isSome) :
    ((step s τ).1.bank.accounts k).isSome := by
  rcases step_call s τ with he | ⟨_, -, -, hc⟩
  · rwa [he]
  · exact hc.isSome h

theorem run_append (s : Server) (pre post : List Tick) :
    run s (pre ++ post) = run (run s pre) post :=
  List.foldl_append _ _ _ _

theorem run_isSome :
    ∀ (s : Server) (ts : List Tick) {k : Int32}, (s.bank.accounts k).isSome →
      ((run s ts).bank.accounts k).isSome
  | _, [], _, h => h
  | s, τ :: ts, _, h => run_isSome (step s τ).1 ts (step_isSome s τ h)

theorem account_numbers_allocated (ts : List Tick) (h : NoWrap ts) :
    Allocated (run Server.init ts).bank ∧
      (∀ pre post, pre ++ post = ts → ∀ k, ((run Server.init pre).bank.accounts k).isSome →
        ((run Server.init ts).bank.accounts k).isSome) ∧
      ∀ name pw16 c initial r,
        ((run Server.init ts).bank.openAccount name pw16 c initial).2 = .ok r →
        ∀ k, ((run Server.init ts).bank.accounts k).isSome → k.val < r.1.val := by
  have hA := run_allocated h
  refine ⟨hA, fun pre post he k hk => ?_, fun name pw16 c initial r hr k hk => ?_⟩
  · rw [← he, run_append]; exact run_isSome _ post hk
  · rcases Bank.openAccount_cases (run Server.init ts).bank name pw16 c initial with he | ⟨-, -, he⟩ <;>
      rw [he] at hr
    · cases hr
    · cases hr
      obtain ⟨a, ha⟩ := Option.isSome_iff_exists.1 hk
      exact (hA.keys k a ha).2.2

/-! ## Only OPEN moves the counter -/

/-- A bank call other than OPEN leaves the counter where it was. -/
theorem Bank.Call.nextAccNo {req : Message} {b' : Bank} (hc : Bank.Call b req b')
    (hop : req.h.opCode ≠ OpCode.OPEN.val) : b'.nextAccNo = b.nextAccNo := by
  cases hc with
  | none => rfl
  | openAccount _ _ _ _ h => exact absurd h hop
  | closeAccount name accNo pw16 =>
    rcases Bank.closeAccount_cases b name accNo pw16 with ⟨e, -, he⟩ | ⟨a, -, -, he⟩ <;>
      simp only [he, Bank.put_nextAccNo]
  | deposit name accNo pw16 c amount =>
    rcases Bank.deposit_cases b name accNo pw16 c amount with ⟨e, -, he⟩ | ⟨a, -, -, -, -, he⟩ <;>
      simp only [he, Bank.put_nextAccNo]
  | withdraw name accNo pw16 c amount =>
    rcases Bank.withdraw_cases b name accNo pw16 c amount with ⟨e, -, he⟩ | ⟨a, -, -, -, -, -, he⟩ <;>
      simp only [he, Bank.put_nextAccNo]
  | transfer name fromAccNo pw16 toAccNo c amount =>
    rcases Bank.transfer_cases b name fromAccNo pw16 toAccNo c amount with ⟨e, -, he⟩ |
        ⟨src, dst, -, -, -, -, -, -, -, -, he⟩ <;> simp only [he, Bank.put_nextAccNo]

/-- A pass that receives no OPEN request. -/
def OpensNothing (τ : Tick) : Prop := ∀ a ∈ τ.recv, (decoded a.bytes).h.opCode ≠ OpCode.OPEN.val

instance (τ : Tick) : Decidable (OpensNothing τ) := inferInstanceAs (Decidable (∀ a ∈ τ.recv, _))

theorem step_nextAccNo (s : Server) {τ : Tick} (h : OpensNothing τ) :
    (step s τ).1.bank.nextAccNo = s.bank.nextAccNo := by
  rcases step_call s τ with he | ⟨a, ha, -, hc⟩
  · rw [he]
  · exact hc.nextAccNo (h a ha)

theorem run_nextAccNo :
    ∀ (s : Server) {ts : List Tick}, (∀ τ ∈ ts, OpensNothing τ) →
      (run s ts).bank.nextAccNo = s.bank.nextAccNo
  | _, [], _ => rfl
  | s, τ :: _, h => by
    rw [run_cons, run_nextAccNo _ fun τ' hτ' => h τ' (.tail _ hτ'), step_nextAccNo s (h τ (.head _))]

/-- Passes that open nothing cannot wrap the counter. -/
theorem NoWrap.append {ts post : List Tick} (h : NoWrap ts) (hpost : ∀ τ ∈ post, OpensNothing τ) :
    NoWrap (ts ++ post) := by
  intro i hi
  by_cases hle : i ≤ ts.length
  · rw [List.take_append_of_le_length hle]
    exact h i hle
  · rw [List.take_append_eq_append_take, List.take_of_length_le (by omega), run_append,
      run_nextAccNo _ fun τ hτ => hpost τ (List.mem_of_mem_take hτ), ← List.take_length ts]
    exact h ts.length (le_refl _)

/-- The request bytes of an OPEN of `name`, password `pw`, currency 1, balance `initial`. -/
def openBytes (name : Bytes) (initial : Double) : Bytes :=
  let body := putDouble (putU16 (putPassword16 (putString [] name) (ascii "pw")) 1) initial
  encode ⟨⟨MAGIC, 1, 1, 1, 0, 0, 8, UInt32.ofNat body.length⟩, body⟩

/-- That OPEN from `peerB`, in a pass at time 0. -/
def openPass (name : Bytes) (initial : Double) : Tick :=
  ⟨0, some ⟨peerB, openBytes name initial⟩, 0, false, 0, 0, false⟩

theorem account_numbers_allocated_two_opens :
    Allocated (run Server.init (List.replicate 2 (openPass (ascii "a") Double.zero))).bank ∧
      (∀ pre post, pre ++ post = List.replicate 2 (openPass (ascii "a") Double.zero) → ∀ k,
        ((run Server.init pre).bank.accounts k).isSome →
        ((run Server.init (List.replicate 2 (openPass (ascii "a") Double.zero))).bank.accounts k).isSome) ∧
      ∀ name pw16 c initial r,
        ((run Server.init (List.replicate 2 (openPass (ascii "a") Double.zero))).bank.openAccount
          name pw16 c initial).2 = .ok r →
        ∀ k, ((run Server.init (List.replicate 2 (openPass (ascii "a") Double.zero))).bank.accounts k).isSome →
          k.val < r.1.val :=
  account_numbers_allocated _ (by decide)

/-! ## The wrap -/

section Opens

variable (name : Bytes) (initial : Double)

/-- The bank after one OPEN of `name`, password `pw`, currency 1. -/
def openOnce (b : Bank) : Bank := (b.openAccount name (ascii "pw") 1 initial).1

theorem openOnce_eq (b : Bank) :
    openOnce name initial b = ({ b with nextAccNo := Int32.wrap (b.nextAccNo.val + 1) } : Bank).put
      b.nextAccNo ⟨b.nextAccNo, name, ascii "pw", 1, initial, false⟩ := by
  simp only [openOnce, Bank.openAccount]; rw [if_neg (by decide)]

theorem nextAccNo_iterate_openOnce (b : Bank) :
    ∀ n : Nat, ((openOnce name initial)^[n] b).nextAccNo = Int32.wrap (b.nextAccNo.val + n)
  | 0 => by simp [Int32.wrap_val]
  | n + 1 => by
    rw [Function.iterate_succ_apply', openOnce_eq, Bank.put_nextAccNo,
      nextAccNo_iterate_openOnce b n, Int32.wrap_val_add, Nat.cast_succ, add_assoc]

/-- Opens write only at the numbers the counter passes through. -/
theorem accounts_iterate_openOnce (b : Bank) (k : Int32) :
    ∀ n : Nat, (∀ j < n, Int32.wrap (b.nextAccNo.val + j) ≠ k) →
      ((openOnce name initial)^[n] b).accounts k = b.accounts k
  | 0, _ => rfl
  | n + 1, h => by
    rw [Function.iterate_succ_apply', openOnce_eq, Bank.put_accounts, nextAccNo_iterate_openOnce,
      if_neg (Ne.symm (h n (Nat.lt_succ_self n)))]
    exact accounts_iterate_openOnce b k n fun j hj => h j (Nat.lt_succ_of_lt hj)

/-- An open writes its record at the number the counter showed. -/
theorem openOnce_accounts_next (b : Bank) (k : Int32) (hk : b.nextAccNo = k) :
    (openOnce name initial b).accounts k = some ⟨k, name, ascii "pw", 1, initial, false⟩ := by
  subst hk; rw [openOnce_eq, Bank.put_accounts, if_pos rfl]

/-- The record of the first of `n + 1` opens is still there when `n < 2^32`: the counter
has not come round to it again. -/
theorem accounts_iterate_openOnce_first (b : Bank) (n : Nat) (hn : n < 2 ^ 32) (k : Int32)
    (hk : b.nextAccNo = k) :
    ((openOnce name initial)^[n + 1] b).accounts k = some ⟨k, name, ascii "pw", 1, initial, false⟩ := by
  rw [Function.iterate_succ_apply, accounts_iterate_openOnce _ _ _ _ n, openOnce_accounts_next _ _ _ _ hk]
  intro j hj he
  rw [openOnce_eq, Bank.put_nextAccNo, Int32.wrap_val_add, ← hk] at he
  have hv := congrArg (fun i : Int32 => i.val % 2 ^ 32) he
  simp only [Int32.val_wrap_emod] at hv
  omega

/-- The record of the last of `n + 1` opens. -/
theorem accounts_iterate_openOnce_last (b : Bank) (n : Nat) (k : Int32)
    (hk : Int32.wrap (b.nextAccNo.val + n) = k) :
    ((openOnce name initial)^[n + 1] b).accounts k = some ⟨k, name, ascii "pw", 1, initial, false⟩ := by
  rw [Function.iterate_succ_apply', openOnce_accounts_next _ _ _ _ ((nextAccNo_iterate_openOnce ..).trans hk)]

/-- What the dispatcher sees in `openPass`: a version-1 OPEN Request under the buffer size,
without the at-most-once flag, whose body parses to the OPEN's fields. -/
def OpensCleanly : Prop :=
  (openBytes name initial).length ≤ 2048 ∧ IsRequest (openBytes name initial) ∧
    (decoded (openBytes name initial)).h.opCode = OpCode.OPEN.val ∧
    atMostOnce (decoded (openBytes name initial)) = false ∧
    parseOpen (decoded (openBytes name initial)).body = some (name, ascii "pw", 1, initial)

instance : Decidable (OpensCleanly name initial) := inferInstanceAs (Decidable (_ ∧ _))

variable {name initial}

theorem step_openPass_bank (h : OpensCleanly name initial) (s : Server) :
    (step s (openPass name initial)).1.bank = openOnce name initial s.bank := by
  obtain ⟨hfit, hreq, hop, hflag, hparse⟩ := h
  rw [step_eq_serve, serve_execute (a := ⟨peerB, openBytes name initial⟩) rfl hfit rfl hreq
      (fun h' => absurd (hflag.symm.trans h') Bool.false_ne_true), execute_bank,
    dispatch, if_pos hop, handleOpen, handleBank, hparse]
  exact Handled.ofCall_bank ..

theorem run_openPasses (h : OpensCleanly name initial) :
    ∀ (n : Nat) (s : Server),
      (run s (List.replicate n (openPass name initial))).bank = (openOnce name initial)^[n] s.bank
  | 0, _ => rfl
  | n + 1, s => by
    rw [List.replicate_succ, run_cons, run_openPasses h n, step_openPass_bank h,
      Function.iterate_succ_apply]

end Opens

theorem init_nextAccNo_val : Server.init.bank.nextAccNo.val = 10001 :=
  Int32.val_wrap_of_lt (by norm_num) (by norm_num)

/-- The counter of the fresh bank after `n` opens, written as the literal `m`. -/
theorem init_wrap_add (n m : Nat) (h : (10001 + n) % 2 ^ 32 = m % 2 ^ 32) :
    Int32.wrap (Server.init.bank.nextAccNo.val + n) = OfNat.ofNat m := by
  rw [init_nextAccNo_val]
  exact Int32.wrap_eq_of_emod (by exact_mod_cast h)

/-- After 2^31 − 10001 opens the counter has wrapped to −2^31 below the last number handed
out, 2^31 − 1. -/
theorem allocation_wraps :
    ((run Server.init (List.replicate 2147473647 (openPass (ascii "a") Double.zero))).bank.accounts
        2147483647).isSome ∧
      (run Server.init (List.replicate 2147473647 (openPass (ascii "a") Double.zero))).bank.nextAccNo.val =
        -2147483648 := by
  have hk : Int32.wrap (Server.init.bank.nextAccNo.val + ((2147473646 : Nat) : Int)) = 2147483647 :=
    init_wrap_add _ _ (by decide)
  rw [run_openPasses (by decide)]
  constructor
  · rw [show (2147473647 : Nat) = 2147473646 + 1 from rfl, accounts_iterate_openOnce_last _ _ _ _ _ hk]
    rfl
  · rw [nextAccNo_iterate_openOnce, Int32.val_wrap, init_nextAccNo_val, Int.bmod_def]
    norm_num

/-- After 2^32 opens the counter is back at 10001, and the next OPEN replaces the first
account's record, name and password included. -/
theorem open_overwrites_after_wrap :
    ((run Server.init (List.replicate 4294967296 (openPass (ascii "a") Double.zero))).bank.accounts
        10001).map Account.name = some (ascii "a") ∧
      ((step (run Server.init (List.replicate 4294967296 (openPass (ascii "a") Double.zero)))
        (openPass (ascii "b") Double.zero)).1.bank.accounts 10001).map Account.name = some (ascii "b") := by
  have hk : Int32.wrap (Server.init.bank.nextAccNo.val + ((4294967296 : Nat) : Int)) = 10001 :=
    init_wrap_add _ _ (by decide)
  rw [step_openPass_bank (by decide), run_openPasses (by decide)]
  constructor
  · rw [show (4294967296 : Nat) = 4294967295 + 1 from rfl,
      accounts_iterate_openOnce_first _ _ _ _ (by norm_num) 10001 rfl]
    rfl
  · rw [openOnce_accounts_next _ _ _ _ ((nextAccNo_iterate_openOnce ..).trans hk)]; rfl

/-! ## No gaps

OPEN writes at the counter and moves it on by one, and no call removes a record, so every
number from 10001 up to the counter holds a record: with the allocation invariant, the numbers
in use are exactly those of the interval. -/

/-- The counter's increment, when it does not wrap below 10001. -/
theorem val_wrap_succ {n : Int32} (h : 10001 ≤ (Int32.wrap (n.val + 1)).val) :
    (Int32.wrap (n.val + 1)).val = n.val + 1 := by
  by_cases hlt : n.val + 1 < 2 ^ 31
  · exact Int32.val_wrap_of_lt (by have := n.lo; omega) hlt
  · have he : n.val + 1 = 2 ^ 31 := by have := n.hi; omega
    rw [he] at h ⊢
    exact absurd h (by decide)

/-- Every number from 10001 up to the counter holds a record. -/
def Bank.Dense (b : Bank) : Prop :=
  ∀ k : Int32, 10001 ≤ k.val → k.val < b.nextAccNo.val → (b.accounts k).isSome

/-- One bank call keeps the interval filled unless it wraps the counter. -/
theorem Bank.Call.dense {req : Message} {b' : Bank} (hc : Bank.Call b req b') (hd : b.Dense)
    (hn : 10001 ≤ b'.nextAccNo.val) : b'.Dense := by
  intro k hlo hhi
  cases hc with
  | none => exact hd k hlo hhi
  | openAccount name pw16 c initial =>
    rcases Bank.openAccount_cases b name pw16 c initial with he | ⟨-, -, he⟩ <;>
      rw [he] at hn hhi ⊢
    · exact hd k hlo hhi
    have hw : (Int32.wrap (b.nextAccNo.val + 1)).val = b.nextAccNo.val + 1 := val_wrap_succ hn
    simp only [Bank.put_nextAccNo, hw] at hhi
    rw [Bank.put_accounts]
    split_ifs with hk
    · rfl
    · have hne : k.val ≠ b.nextAccNo.val := fun h =>
        hk (by rw [← Int32.wrap_val k, ← Int32.wrap_val b.nextAccNo, h])
      exact hd k hlo (by omega)
  | closeAccount name accNo pw16 =>
    rcases Bank.closeAccount_cases b name accNo pw16 with ⟨e, -, he⟩ | ⟨a, -, -, he⟩ <;>
      rw [he] at hhi ⊢
    exacts [hd k hlo hhi, Bank.isSome_put _ _ (hd k hlo hhi)]
  | deposit name accNo pw16 c amount =>
    rcases Bank.deposit_cases b name accNo pw16 c amount with ⟨e, -, he⟩ | ⟨a, -, -, -, -, he⟩ <;>
      rw [he] at hhi ⊢
    exacts [hd k hlo hhi, Bank.isSome_put _ _ (hd k hlo hhi)]
  | withdraw name accNo pw16 c amount =>
    rcases Bank.withdraw_cases b name accNo pw16 c amount with ⟨e, -, he⟩ |
        ⟨a, -, -, -, -, -, he⟩ <;> rw [he] at hhi ⊢
    exacts [hd k hlo hhi, Bank.isSome_put _ _ (hd k hlo hhi)]
  | transfer name fromAccNo pw16 toAccNo c amount =>
    rcases Bank.transfer_cases b name fromAccNo pw16 toAccNo c amount with ⟨e, -, he⟩ |
        ⟨src, dst, -, -, -, -, -, -, -, -, he⟩ <;> rw [he] at hhi ⊢
    exacts [hd k hlo hhi, Bank.isSome_put _ _ (Bank.isSome_put _ _ (hd k hlo hhi))]

theorem step_dense {s : Server} (τ : Tick) (hd : s.bank.Dense)
    (hn : 10001 ≤ (step s τ).1.bank.nextAccNo.val) : (step s τ).1.bank.Dense := by
  rcases step_call s τ with he | ⟨_, -, -, hc⟩
  · rwa [he]
  · exact hc.dense hd hn

theorem run_dense_from :
    ∀ (s : Server) (ts : List Tick), s.bank.Dense →
      (∀ i ≤ ts.length, 10001 ≤ (run s (ts.take i)).bank.nextAccNo.val) → (run s ts).bank.Dense
  | _, [], h, _ => h
  | s, τ :: ts, h, hn => by
    rw [run_cons]
    refine run_dense_from _ ts (step_dense τ h (hn 1 (by simp))) fun i hi => ?_
    simpa [run_cons] using hn (i + 1) (by simpa using hi)

/-- Along a run in which the counter does not wrap, the account numbers holding a record are
exactly those from 10001 up to the counter: none is skipped, and none lies outside. -/
theorem account_numbers_dense (ts : List Tick) (h : NoWrap ts) (k : Int32) :
    ((run Server.init ts).bank.accounts k).isSome ↔
      10001 ≤ k.val ∧ k.val < (run Server.init ts).bank.nextAccNo.val := by
  constructor
  · intro hk
    obtain ⟨a, ha⟩ := Option.isSome_iff_exists.1 hk
    exact ((run_allocated h).keys k a ha).2
  · rintro ⟨hlo, hhi⟩
    refine run_dense_from _ ts (fun j hj hj' => ?_) h k hlo hhi
    rw [init_nextAccNo_val] at hj'
    omega

theorem account_numbers_dense_two_opens :
    NoWrap (List.replicate 2 (openPass (ascii "a") Double.zero)) ∧
    (((run Server.init (List.replicate 2 (openPass (ascii "a") Double.zero))).bank.accounts 10002).isSome ↔
      10001 ≤ (10002 : Int32).val ∧
        (10002 : Int32).val < (run Server.init (List.replicate 2 (openPass (ascii "a") Double.zero))).bank.nextAccNo.val) :=
  ⟨by decide, account_numbers_dense _ (by decide) 10002⟩

end DistributedBank
