/-
# DistributedBank.Server.Debits — only the owner's credentials lower a balance

`authMatch` guards every operation that can take money out of an account or close it:
WITHDRAW and CLOSE check the account they act on, TRANSFER checks only its source.  A
TRANSFER credits its destination, and a DEPOSIT its own account, with an amount that passed
`amount > 0.0`, and in IEEE arithmetic that never lowers a balance (`Double.add_not_lt`).
OPEN writes at the frontier, which the allocation invariant keeps clear of every record.
So along a run in which the counter does not wrap (`NoWrap`), a record keeps its name and
password, and a pass that lowers its balance or closes it carries a WITHDRAW on it, a
TRANSFER from it or a CLOSE of it with the stored name and password
(`credentials_gate_debits`).  Past the wrap OPEN writes over a record
(`open_overwrites_after_wrap`), and OPEN itself takes its initial balance from the datagram
unchecked (`open_negative_balance`).

* `Allocated.call_kept`: one bank call, one constructor of `Bank.Call` at a time;
* `step_kept`: one pass;
* `run_kept`, `credentials_gate_debits`: whole runs.
-/
import DistributedBank.Server.Ledger
import DistributedBank.Server.Retries
import DistributedBank.Double.Order

namespace DistributedBank

set_option autoImplicit false

/-- A request that may debit account `k` holding `name` and `pw`: a WITHDRAW on `k`, a
TRANSFER from `k` or a CLOSE of `k`, whose body carries that name and password. -/
def Debits (req : Message) (k : Int32) (name pw : Bytes) : Prop :=
  (req.h.opCode = OpCode.WITHDRAW.val ∧ ∃ c amount,
      parseAmount req.body = some (name, k, pw, c, amount)) ∨
    (req.h.opCode = OpCode.TRANSFER.val ∧ ∃ toAccNo c amount,
      parseTransfer req.body = some (name, k, pw, toAccNo, c, amount)) ∨
    (req.h.opCode = OpCode.CLOSE.val ∧ parseAccount req.body = some (name, k, pw))

/-- The record `a'` is `a` debited: its balance is lower (`Double.lt`), or it is newly
closed. -/
def Debited (a a' : Account) : Prop :=
  Double.lt a'.balance a.balance = true ∨ a'.closed = true ∧ a.closed = false

/-- What a call may do to the record `a` under number `k`: keep its name and password, and
debit it only for a request that debits `k` with them. -/
structure Kept (req : Message) (k : Int32) (a a' : Account) : Prop where
  name : a'.name = a.name
  password : a'.password = a.password
  debit : Debited a a' → Debits req k a.name a.password

theorem Bank.authMatch_eq_true {a : Account} {name pw16 : Bytes} :
    Bank.authMatch a name pw16 = true ↔ a.name = name ∧ a.password = pw16 := by
  simp [Bank.authMatch]

theorem not_debited_self (a : Account) : ¬Debited a a := by
  rintro (h | ⟨h₁, h₂⟩)
  · rw [Double.lt_self] at h; cases h
  · rw [h₁] at h₂; cases h₂

theorem Kept.self (req : Message) (k : Int32) (a : Account) : Kept req k a a :=
  ⟨rfl, rfl, fun h => absurd h (not_debited_self a)⟩

/-- A credit: an amount that passed `amount > 0.0` added to the balance. -/
theorem Kept.credit (req : Message) (k : Int32) (a : Account) {amount : Double}
    (h : Double.lt Double.zero amount = true) :
    Kept req k a { a with balance := a.balance + amount } := by
  refine ⟨rfl, rfl, fun hd => ?_⟩
  rcases hd with hd | ⟨h₁, h₂⟩
  · rw [Double.add_not_lt _ _ h] at hd; cases hd
  · rw [h₁] at h₂; cases h₂

variable {b : Bank} {req : Message} {k : Int32} {a : Account}

/-- A write to record `j` keeps what held of record `k` before it, and is itself `Kept`
when `j = k`. -/
theorem Kept.put {j : Int32} {x : Account} (hb : ∃ a', b.accounts k = some a' ∧ Kept req k a a')
    (h : j = k → Kept req k a x) : ∃ a', (b.put j x).accounts k = some a' ∧ Kept req k a a' := by
  rw [Bank.put_accounts]
  split_ifs with hk
  · exact ⟨x, rfl, h hk.symm⟩
  · exact hb

/-- A write by the owner's credentials, keeping them, under a request that debits `k`. -/
theorem Kept.owner {a' : Account} {name pw16 : Bytes} (hauth : Bank.authMatch a name pw16 = true)
    (hn : a'.name = a.name) (hp : a'.password = a.password) (hd : Debits req k name pw16) :
    Kept req k a a' := by
  obtain ⟨rfl, rfl⟩ := Bank.authMatch_eq_true.1 hauth
  exact ⟨hn, hp, fun _ => hd⟩

/-- One bank call keeps every record's credentials and debits it only under them. -/
theorem Allocated.call_kept (hA : Allocated b) {b' : Bank} (hc : Bank.Call b req b')
    (ha : b.accounts k = some a) : ∃ a', b'.accounts k = some a' ∧ Kept req k a a' := by
  have hkeep : ∃ a', b.accounts k = some a' ∧ Kept req k a a' := ⟨a, ha, .self _ _ _⟩
  have hfind : ∀ {j : Int32} {x : Account}, b.findOpen j = some x → j = k → x = a := by
    rintro j x hx rfl; exact Option.some.inj ((Bank.findOpen_eq_some.1 hx).1.symm.trans ha)
  cases hc with
  | none => exact hkeep
  | openAccount name pw16 c initial =>
    rcases Bank.openAccount_cases b name pw16 c initial with he | ⟨-, -, he⟩ <;> rw [he]
    · exact hkeep
    refine Kept.put hkeep fun hk => absurd (hA.keys k a ha).2.2 ?_
    rw [← hk]; exact Int.lt_irrefl _
  | closeAccount name accNo pw16 hop hp =>
    rcases Bank.closeAccount_cases b name accNo pw16 with ⟨e, -, he⟩ | ⟨x, hx, hauth, he⟩ <;>
      rw [he]
    · exact hkeep
    refine Kept.put hkeep fun hk => ?_
    obtain rfl := hfind hx hk
    exact .owner hauth rfl rfl (.inr (.inr ⟨hop, hk ▸ hp⟩))
  | deposit name accNo pw16 c amount =>
    rcases Bank.deposit_cases b name accNo pw16 c amount with ⟨e, -, he⟩ |
        ⟨x, hx, -, -, hpos, he⟩ <;> rw [he]
    · exact hkeep
    refine Kept.put hkeep fun hk => ?_
    obtain rfl := hfind hx hk
    exact .credit _ _ _ hpos
  | withdraw name accNo pw16 c amount hop hp =>
    rcases Bank.withdraw_cases b name accNo pw16 c amount with ⟨e, -, he⟩ |
        ⟨x, hx, hauth, -, -, -, he⟩ <;> rw [he]
    · exact hkeep
    refine Kept.put hkeep fun hk => ?_
    obtain rfl := hfind hx hk
    exact .owner hauth rfl rfl (.inl ⟨hop, c, amount, hk ▸ hp⟩)
  | transfer name fromAccNo pw16 toAccNo c amount hop hp =>
    rcases Bank.transfer_cases b name fromAccNo pw16 toAccNo c amount with ⟨e, -, he⟩ |
        ⟨src, dst, -, hsrc, hdst, hauth, -, -, hpos, -, he⟩ <;> rw [he]
    · exact hkeep
    refine Kept.put (Kept.put hkeep fun hfrom => ?_) fun hto => ?_
    · obtain rfl := hfind hsrc hfrom
      exact .owner hauth rfl rfl (.inr (.inl ⟨hop, toAccNo, c, amount, hfrom ▸ hp⟩))
    · obtain rfl := hfind hdst hto
      exact .credit _ _ _ hpos

/-- One pass, from a state under the allocation invariant. -/
theorem step_kept (s : Server) (τ : Tick) (hA : Allocated s.bank) (ha : s.bank.accounts k = some a) :
    ∃ a', (step s τ).1.bank.accounts k = some a' ∧ a'.name = a.name ∧ a'.password = a.password ∧
      (Debited a a' → ∃ arr, τ.recv = some arr ∧ IsRequest arr.bytes ∧
        Debits (decoded arr.bytes) k a.name a.password) := by
  rcases step_call s τ with he | ⟨arr, hr, hreq, hc⟩
  · exact ⟨a, he ▸ ha, rfl, rfl, fun h => absurd h (not_debited_self a)⟩
  · obtain ⟨a', ha', hk⟩ := hA.call_kept hc ha
    exact ⟨a', ha', hk.name, hk.password, fun h => ⟨arr, hr, hreq, hk.debit h⟩⟩

theorem run_kept :
    ∀ (s : Server) (ts : List Tick) {k : Int32} {a : Account},
      (∀ i ≤ ts.length, Allocated (run s (ts.take i)).bank) → s.bank.accounts k = some a →
      ∃ a', (run s ts).bank.accounts k = some a' ∧ a'.name = a.name ∧ a'.password = a.password
  | _, [], _, a, _, ha => ⟨a, ha, rfl, rfl⟩
  | s, τ :: ts, _, _, hA, ha => by
    obtain ⟨a₁, h₁, hn₁, hp₁, -⟩ := step_kept s τ (hA 0 (Nat.zero_le _)) ha
    obtain ⟨a₂, h₂, hn₂, hp₂⟩ :=
      run_kept (step s τ).1 ts (fun i hi => hA (i + 1) (Nat.succ_le_succ hi)) h₁
    exact ⟨a₂, h₂, hn₂.trans hn₁, hp₂.trans hp₁⟩

theorem NoWrap.take {ts : List Tick} (h : NoWrap ts) (i : Nat) : NoWrap (ts.take i) := by
  intro j hj
  rw [List.take_take]
  exact h _ (by rw [List.length_take] at hj; omega)

theorem NoWrap.allocated {ts : List Tick} (h : NoWrap ts) (i : Nat) :
    Allocated (run Server.init (ts.take i)).bank :=
  run_allocated (h.take i)

theorem credentials_gate_debits (ts : List Tick) (h : NoWrap ts) :
    (∀ pre post, pre ++ post = ts → ∀ k a, (run Server.init pre).bank.accounts k = some a →
      ∃ a', (run Server.init ts).bank.accounts k = some a' ∧ a'.name = a.name ∧
        a'.password = a.password) ∧
    ∀ pre τ post, pre ++ τ :: post = ts → ∀ k a a', (run Server.init pre).bank.accounts k = some a →
      (step (run Server.init pre) τ).1.bank.accounts k = some a' → Debited a a' →
      ∃ arr, τ.recv = some arr ∧ IsRequest arr.bytes ∧
        Debits (decoded arr.bytes) k a.name a.password := by
  refine ⟨fun pre post he k a ha => ?_, fun pre τ post he k a a' ha ha' hd => ?_⟩
  · subst he
    rw [run_append]
    refine run_kept _ post (fun i _ => ?_) ha
    rw [← run_append, ← List.take_append]
    exact h.allocated _
  · subst he
    have hA : Allocated (run Server.init pre).bank := by
      simpa [List.take_left'] using h.allocated pre.length
    obtain ⟨a'', ha'', -, -, hgate⟩ := step_kept _ τ hA ha
    rw [ha'] at ha''
    cases ha''
    exact hgate hd

/-- A run that opens account 10001 for `a` with `1.0`, withdraws `1.0` from it and closes it. -/
def openWithdrawClose : List Tick :=
  [openPass (ascii "a") oneDouble, requestPass 0 OpCode.WITHDRAW.val depositBody 0 false,
    requestPass 0 OpCode.CLOSE.val closeBody 0 false]

/-- Its only OPEN comes first, so the counter stops at 10002. -/
theorem noWrap_openWithdrawClose : NoWrap openWithdrawClose :=
  @NoWrap.append [openPass (ascii "a") oneDouble]
    [requestPass 0 OpCode.WITHDRAW.val depositBody 0 false,
      requestPass 0 OpCode.CLOSE.val closeBody 0 false] (by decide) (by decide)

theorem credentials_gate_debits_withdraw_close :
    NoWrap openWithdrawClose ∧
    (∀ pre post, pre ++ post = openWithdrawClose → ∀ k a,
      (run Server.init pre).bank.accounts k = some a →
      ∃ a', (run Server.init openWithdrawClose).bank.accounts k = some a' ∧ a'.name = a.name ∧
        a'.password = a.password) ∧
    ∀ pre τ post, pre ++ τ :: post = openWithdrawClose →
      ∀ k a a', (run Server.init pre).bank.accounts k = some a →
      (step (run Server.init pre) τ).1.bank.accounts k = some a' → Debited a a' →
      ∃ arr, τ.recv = some arr ∧ IsRequest arr.bytes ∧
        Debits (decoded arr.bytes) k a.name a.password :=
  ⟨noWrap_openWithdrawClose, credentials_gate_debits _ noWrap_openWithdrawClose⟩

/-! ## Balances below zero -/

set_option exponentiation.threshold 2100 in
/-- OPEN stores the initial balance the datagram carries, `-1.0` included: the server has no
`initial ≥ 0` check of its own. -/
theorem open_negative_balance :
    ((step Server.init (openPass (ascii "a") ⟨0xBFF0000000000000⟩)).1.bank.accounts 10001).map
        Account.balance = some ⟨0xBFF0000000000000⟩ ∧
      Double.lt ⟨0xBFF0000000000000⟩ Double.zero = true := by
  rw [step_openPass_bank (by decide), openOnce_accounts_next _ _ _ 10001 rfl]
  exact ⟨rfl, by decide⟩

/-- A balance of `+inf`, which a DEPOSIT of `+inf` produces, passes the funds check of a
WITHDRAW of `+inf` (`inf < inf` is false) and becomes `inf - inf`, the default NaN. -/
theorem withdraw_inf_balance {name pw16 : Bytes} {accNo : Int32} {c : UInt16} {x : Account}
    (hx : b.findOpen accNo = some x) (hauth : Bank.authMatch x name pw16 = true)
    (hc : x.currency = c) (hinf : x.balance = Double.inf false) :
    b.withdraw name accNo pw16 c (Double.inf false) =
      (b.put accNo { x with balance := Double.defaultNaN }, .ok Double.defaultNaN) := by
  simp only [Bank.withdraw, hx, hauth, hc, hinf, Double.lt_zero_inf, Double.lt_self,
    Double.inf_sub_inf, bne_self_eq_false,
    Bool.not_true, Bool.not_false, Bool.false_eq_true, if_false]

end DistributedBank
