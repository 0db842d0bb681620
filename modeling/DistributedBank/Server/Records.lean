/-
# DistributedBank.Server.Records — one account record along a run

`Bank` writes an existing record only through `findOpen`, so only while it is open, and every
such write copies the record with a new balance or with `closed` set; OPEN writes a new record
at the counter.  Along a run in which the counter does not wrap (`NoWrap`), the allocation
invariant keeps the counter above every record, so the record under a number `k` keeps its
currency for ever and, once closed, never changes again (`records_persist`).  Its balance
moves only in a pass that carries a DEPOSIT or WITHDRAW on `k`, or a TRANSFER from or to `k`,
whose currency field is `k`'s currency and whose amount passed `amount > 0.0`
(`balance_moves_in_currency`).

The balance checks: DEPOSIT and TRANSFER add only an amount above `0.0`, and WITHDRAW and
TRANSFER subtract only an amount the funds check `balance < amount` let through, so in IEEE
arithmetic no operation but OPEN leaves a balance below `0.0` (`Double.add_not_lt_zero`,
`Double.sub_not_lt_zero`).  Along every run whose OPENs carry initial balances not below
`0.0` no balance is ever below `0.0` (`balances_not_below_zero`); a balance may still be a
NaN (`withdraw_inf_balance`), which compares below nothing.  That needs no `NoWrap`: an OPEN
past the wrap overwrites a record with its own initial balance.  The client's `handleOpen`
refuses a negative initial balance, so along every run whose OPENs all come from the client no
balance is below `0.0` either (`client_opens_not_below_zero`): the missing server check matters
only for OPENs that some other program builds.

* `Allocated.call_evolves`, `step_evolves`, `run_persists`: one call, one pass, a whole run;
* `Bank.Call.notBelowZero`, `step_notBelowZero`, `run_notBelowZero`: the balance invariant;
* `opensNotBelowZero_of_handleOpen`: what the server parses from a client's OPEN.
-/
import DistributedBank.Server.Debits
import DistributedBank.Client.Handlers

namespace DistributedBank

set_option autoImplicit false

/-! ## What a call may do to one record -/

/-- A request that may move the balance of account `k` held in currency `c`: a DEPOSIT or
WITHDRAW on `k`, or a TRANSFER from or to `k`, whose currency field is `c` and whose amount is
above `0.0`. -/
def MovesIn (req : Message) (k : Int32) (c : UInt16) : Prop :=
  ((req.h.opCode = OpCode.DEPOSIT.val ∨ req.h.opCode = OpCode.WITHDRAW.val) ∧
    ∃ name pw amount, parseAmount req.body = some (name, k, pw, c, amount) ∧
      Double.lt Double.zero amount = true) ∨
  (req.h.opCode = OpCode.TRANSFER.val ∧ ∃ name fromAccNo pw toAccNo amount,
    parseTransfer req.body = some (name, fromAccNo, pw, toAccNo, c, amount) ∧
      (k = fromAccNo ∨ k = toAccNo) ∧ Double.lt Double.zero amount = true)

/-- The record `a` lives on as `a'`: in the same currency, and unchanged once closed. -/
structure Persists (a a' : Account) : Prop where
  currency : a'.currency = a.currency
  frozen : a.closed = true → a' = a

/-- What one call may do to the record `a` under number `k`: let it persist, and move its
balance only for a request that `MovesIn` its currency. -/
structure Evolves (req : Message) (k : Int32) (a a' : Account) : Prop where
  persists : Persists a a'
  moves : a'.balance ≠ a.balance → MovesIn req k a.currency

theorem Persists.refl (a : Account) : Persists a a := ⟨rfl, fun _ => rfl⟩

theorem Persists.trans {a a₁ a₂ : Account} (h₁ : Persists a a₁) (h₂ : Persists a₁ a₂) :
    Persists a a₂ :=
  ⟨h₂.currency.trans h₁.currency, fun hc => by obtain rfl := h₁.frozen hc; exact h₂.frozen hc⟩

theorem Evolves.refl (req : Message) (k : Int32) (a : Account) : Evolves req k a a :=
  ⟨.refl a, fun h => absurd rfl h⟩

/-- A write to an open record that keeps its currency. -/
theorem Evolves.of_open {req : Message} {k : Int32} {a a' : Account} (hopen : a.closed = false)
    (hc : a'.currency = a.currency) (hm : a'.balance ≠ a.balance → MovesIn req k a.currency) :
    Evolves req k a a' :=
  ⟨⟨hc, fun h => absurd (hopen ▸ h) Bool.false_ne_true⟩, hm⟩

/-- A write to record `j` keeps what held of record `k` before it, and establishes it when
`j = k`. -/
theorem Bank.exists_put {P : Account → Prop} {b : Bank} {k j : Int32} {x : Account}
    (hb : ∃ a', b.accounts k = some a' ∧ P a') (h : j = k → P x) :
    ∃ a', (b.put j x).accounts k = some a' ∧ P a' := by
  rw [Bank.put_accounts]
  split_ifs with hk
  · exact ⟨x, rfl, h hk.symm⟩
  · exact hb

variable {b : Bank} {req : Message} {k : Int32} {a : Account}

/-- One bank call, from a bank under the allocation invariant. -/
theorem Allocated.call_evolves (hA : Allocated b) {b' : Bank} (hc : Bank.Call b req b')
    (ha : b.accounts k = some a) : ∃ a', b'.accounts k = some a' ∧ Evolves req k a a' := by
  have hkeep : ∃ a', b.accounts k = some a' ∧ Evolves req k a a' := ⟨a, ha, .refl _ _ _⟩
  have hfind : ∀ {j : Int32} {x : Account}, b.findOpen j = some x → j = k → x = a ∧ a.closed = false := by
    rintro j x hx rfl
    obtain ⟨hx, hopen⟩ := Bank.findOpen_eq_some.1 hx
    obtain rfl := Option.some.inj (hx.symm.trans ha)
    exact ⟨rfl, hopen⟩
  cases hc with
  | none => exact hkeep
  | openAccount name pw16 c initial =>
    rcases Bank.openAccount_cases b name pw16 c initial with he | ⟨-, -, he⟩ <;> rw [he]
    · exact hkeep
    refine Bank.exists_put hkeep fun hk => absurd (hA.keys k a ha).2.2 ?_
    rw [← hk]; exact Int.lt_irrefl _
  | closeAccount name accNo pw16 =>
    rcases Bank.closeAccount_cases b name accNo pw16 with ⟨e, -, he⟩ | ⟨x, hx, -, he⟩ <;> rw [he]
    · exact hkeep
    refine Bank.exists_put hkeep fun hk => ?_
    obtain ⟨rfl, hopen⟩ := hfind hx hk
    exact .of_open hopen rfl fun h => absurd rfl h
  | deposit name accNo pw16 c amount hop hp =>
    rcases Bank.deposit_cases b name accNo pw16 c amount with ⟨e, -, he⟩ |
        ⟨x, hx, -, hcur, hpos, he⟩ <;> rw [he]
    · exact hkeep
    refine Bank.exists_put hkeep fun hk => ?_
    obtain ⟨rfl, hopen⟩ := hfind hx hk
    subst hk hcur
    exact .of_open hopen rfl fun _ => .inl ⟨.inl hop, name, pw16, amount, hp, hpos⟩
  | withdraw name accNo pw16 c amount hop hp =>
    rcases Bank.withdraw_cases b name accNo pw16 c amount with ⟨e, -, he⟩ |
        ⟨x, hx, -, hcur, hpos, -, he⟩ <;> rw [he]
    · exact hkeep
    refine Bank.exists_put hkeep fun hk => ?_
    obtain ⟨rfl, hopen⟩ := hfind hx hk
    subst hk hcur
    exact .of_open hopen rfl fun _ => .inl ⟨.inr hop, name, pw16, amount, hp, hpos⟩
  | transfer name fromAccNo pw16 toAccNo c amount hop hp =>
    rcases Bank.transfer_cases b name fromAccNo pw16 toAccNo c amount with ⟨e, -, he⟩ |
        ⟨src, dst, -, hsrc, hdst, -, hcs, hcd, hpos, -, he⟩ <;> rw [he]
    · exact hkeep
    have hmv : ∀ x : Account, x.currency = c → (k = fromAccNo ∨ k = toAccNo) →
        MovesIn req k x.currency := fun x hx hk => by
      subst hx; exact .inr ⟨hop, name, fromAccNo, pw16, toAccNo, amount, hp, hk, hpos⟩
    refine Bank.exists_put (Bank.exists_put hkeep fun hfrom => ?_) fun hto => ?_
    · obtain ⟨rfl, hopen⟩ := hfind hsrc hfrom
      exact .of_open hopen rfl fun _ => hmv _ hcs (.inl hfrom.symm)
    · obtain ⟨rfl, hopen⟩ := hfind hdst hto
      exact .of_open hopen rfl fun _ => hmv _ hcd (.inr hto.symm)

/-- One pass, from a state under the allocation invariant. -/
theorem step_evolves (s : Server) (τ : Tick) (hA : Allocated s.bank) (ha : s.bank.accounts k = some a) :
    ∃ a', (step s τ).1.bank.accounts k = some a' ∧ Persists a a' ∧
      (a'.balance ≠ a.balance → ∃ arr, τ.recv = some arr ∧ IsRequest arr.bytes ∧
        MovesIn (decoded arr.bytes) k a.currency) := by
  rcases step_call s τ with he | ⟨arr, hr, hreq, hc⟩
  · exact ⟨a, he ▸ ha, .refl a, fun h => absurd rfl h⟩
  · obtain ⟨a', ha', hev⟩ := hA.call_evolves hc ha
    exact ⟨a', ha', hev.persists, fun h => ⟨arr, hr, hreq, hev.moves h⟩⟩

theorem run_persists :
    ∀ (s : Server) (ts : List Tick) {k : Int32} {a : Account},
      (∀ i ≤ ts.length, Allocated (run s (ts.take i)).bank) → s.bank.accounts k = some a →
      ∃ a', (run s ts).bank.accounts k = some a' ∧ Persists a a'
  | _, [], _, a, _, ha => ⟨a, ha, .refl a⟩
  | s, τ :: ts, _, _, hA, ha => by
    obtain ⟨a₁, h₁, hp₁, -⟩ := step_evolves s τ (hA 0 (Nat.zero_le _)) ha
    obtain ⟨a₂, h₂, hp₂⟩ :=
      run_persists (step s τ).1 ts (fun i hi => hA (i + 1) (Nat.succ_le_succ hi)) h₁
    exact ⟨a₂, h₂, hp₁.trans hp₂⟩

/-! ## Records over a run without the wrap -/

/-- Along a run in which the counter does not wrap, a record present after a prefix of the
run is still there at its end, in the same currency, and unchanged if it was closed. -/
theorem records_persist (ts : List Tick) (h : NoWrap ts) :
    ∀ pre post, pre ++ post = ts → ∀ k a, (run Server.init pre).bank.accounts k = some a →
      ∃ a', (run Server.init ts).bank.accounts k = some a' ∧ a'.currency = a.currency ∧
        (a.closed = true → a' = a) := by
  intro pre post he k a ha
  subst he
  rw [run_append]
  obtain ⟨a', ha', hp⟩ := run_persists _ post (fun i _ => by
    rw [← run_append, ← List.take_append]; exact h.allocated _) ha
  exact ⟨a', ha', hp.currency, hp.frozen⟩

theorem records_persist_withdraw_close :
    NoWrap openWithdrawClose ∧
    ∀ pre post, pre ++ post = openWithdrawClose → ∀ k a,
      (run Server.init pre).bank.accounts k = some a →
      ∃ a', (run Server.init openWithdrawClose).bank.accounts k = some a' ∧
        a'.currency = a.currency ∧ (a.closed = true → a' = a) :=
  ⟨noWrap_openWithdrawClose, records_persist _ noWrap_openWithdrawClose⟩

/-- Along a run in which the counter does not wrap, a pass that changes the balance of account
`k` carries a DEPOSIT or WITHDRAW on `k`, or a TRANSFER from or to `k`, whose currency field is
`k`'s stored currency and whose amount is above `0.0`. -/
theorem balance_moves_in_currency (ts : List Tick) (h : NoWrap ts) :
    ∀ pre τ post, pre ++ τ :: post = ts → ∀ k a a', (run Server.init pre).bank.accounts k = some a →
      (step (run Server.init pre) τ).1.bank.accounts k = some a' → a'.balance ≠ a.balance →
      ∃ arr, τ.recv = some arr ∧ IsRequest arr.bytes ∧ MovesIn (decoded arr.bytes) k a.currency := by
  intro pre τ post he k a a' ha ha' hne
  subst he
  have hA : Allocated (run Server.init pre).bank := by
    simpa [List.take_left'] using h.allocated pre.length
  obtain ⟨a'', ha'', -, hmoves⟩ := step_evolves _ τ hA ha
  rw [ha'] at ha''
  cases ha''
  exact hmoves hne

theorem balance_moves_in_currency_withdraw_close :
    NoWrap openWithdrawClose ∧
    ∀ pre τ post, pre ++ τ :: post = openWithdrawClose →
      ∀ k a a', (run Server.init pre).bank.accounts k = some a →
      (step (run Server.init pre) τ).1.bank.accounts k = some a' → a'.balance ≠ a.balance →
      ∃ arr, τ.recv = some arr ∧ IsRequest arr.bytes ∧ MovesIn (decoded arr.bytes) k a.currency :=
  ⟨noWrap_openWithdrawClose, balance_moves_in_currency _ noWrap_openWithdrawClose⟩

/-! ## Balances not below zero -/

/-- No balance of the bank is below `0.0`. -/
def Bank.NotBelowZero (b : Bank) : Prop :=
  ∀ k a, b.accounts k = some a → Double.lt a.balance Double.zero = false

/-- The OPEN a request may carry has an initial balance not below `0.0`. -/
def OpensNotBelowZero (req : Message) : Prop :=
  req.h.opCode = OpCode.OPEN.val →
    ∀ args ∈ parseOpen req.body, Double.lt args.2.2.2 Double.zero = false

instance (req : Message) : Decidable (OpensNotBelowZero req) := inferInstanceAs (Decidable (_ → _))

theorem Bank.NotBelowZero.put (hb : b.NotBelowZero) {j : Int32} {x : Account}
    (hx : Double.lt x.balance Double.zero = false) : (b.put j x).NotBelowZero := by
  intro k a ha
  rw [Bank.put_accounts] at ha
  split_ifs at ha
  · cases ha; exact hx
  · exact hb k a ha

theorem Bank.NotBelowZero.findOpen (hb : b.NotBelowZero) {j : Int32} {x : Account}
    (hx : b.findOpen j = some x) : Double.lt x.balance Double.zero = false :=
  hb j x (Bank.findOpen_eq_some.1 hx).1

/-- One bank call keeps every balance not below `0.0`, if the request's OPEN does. -/
theorem Bank.Call.notBelowZero {b' : Bank} (hc : Bank.Call b req b') (hb : b.NotBelowZero)
    (hopen : OpensNotBelowZero req) : b'.NotBelowZero := by
  cases hc with
  | none => exact hb
  | openAccount name pw16 c initial hop hp =>
    have hinit : Double.lt initial Double.zero = false := hopen hop (name, pw16, c, initial) (Option.mem_def.2 hp)
    have hb' : ({ b with nextAccNo := Int32.wrap (b.nextAccNo.val + 1) } : Bank).NotBelowZero := hb
    rcases Bank.openAccount_cases b name pw16 c initial with he | ⟨-, -, he⟩ <;> rw [he]
    exacts [hb, hb'.put hinit]
  | closeAccount name accNo pw16 =>
    rcases Bank.closeAccount_cases b name accNo pw16 with ⟨e, -, he⟩ | ⟨x, hx, -, he⟩ <;> rw [he]
    · exact hb
    have hx : Double.lt x.balance Double.zero = false := hb.findOpen hx
    exact hb.put hx
  | deposit name accNo pw16 c amount =>
    rcases Bank.deposit_cases b name accNo pw16 c amount with ⟨e, -, he⟩ |
        ⟨x, hx, -, -, hpos, he⟩ <;> rw [he]
    · exact hb
    have hx : Double.lt (x.balance + amount) Double.zero = false :=
      Double.add_not_lt_zero (hb.findOpen hx) hpos
    exact hb.put hx
  | withdraw name accNo pw16 c amount =>
    rcases Bank.withdraw_cases b name accNo pw16 c amount with ⟨e, -, he⟩ |
        ⟨x, -, -, -, hpos, hfunds, he⟩ <;> rw [he]
    · exact hb
    have hx : Double.lt (x.balance - amount) Double.zero = false := Double.sub_not_lt_zero hfunds hpos
    exact hb.put hx
  | transfer name fromAccNo pw16 toAccNo c amount =>
    rcases Bank.transfer_cases b name fromAccNo pw16 toAccNo c amount with ⟨e, -, he⟩ |
        ⟨src, dst, -, -, hdst, -, -, -, hpos, hfunds, he⟩ <;> rw [he]
    · exact hb
    have hsrc : Double.lt (src.balance - amount) Double.zero = false :=
      Double.sub_not_lt_zero hfunds hpos
    have hdst : Double.lt (dst.balance + amount) Double.zero = false :=
      Double.add_not_lt_zero (hb.findOpen hdst) hpos
    have h₁ : (b.put fromAccNo { src with balance := src.balance - amount }).NotBelowZero :=
      hb.put hsrc
    exact h₁.put hdst

theorem step_notBelowZero (s : Server) (τ : Tick) (hb : s.bank.NotBelowZero)
    (hopen : ∀ arr ∈ τ.recv, IsRequest arr.bytes → OpensNotBelowZero (decoded arr.bytes)) :
    (step s τ).1.bank.NotBelowZero := by
  rcases step_call s τ with he | ⟨arr, hr, hreq, hc⟩
  · rwa [he]
  · exact hc.notBelowZero hb (hopen arr hr hreq)

theorem run_notBelowZero :
    ∀ (s : Server) (ts : List Tick), s.bank.NotBelowZero →
      (∀ τ ∈ ts, ∀ arr ∈ τ.recv, IsRequest arr.bytes → OpensNotBelowZero (decoded arr.bytes)) →
      (run s ts).bank.NotBelowZero
  | _, [], hb, _ => hb
  | s, τ :: ts, hb, hopen =>
    run_notBelowZero _ ts (step_notBelowZero s τ hb (hopen τ (.head _)))
      fun τ' hτ' => hopen τ' (.tail _ hτ')

/-- Along every run whose OPEN requests carry initial balances not below `0.0`, no balance is
ever below `0.0`: WITHDRAW and TRANSFER never overdraw, and DEPOSIT never lowers. -/
theorem balances_not_below_zero (ts : List Tick)
    (h : ∀ τ ∈ ts, ∀ arr ∈ τ.recv, IsRequest arr.bytes → OpensNotBelowZero (decoded arr.bytes)) :
    ∀ k a, (run Server.init ts).bank.accounts k = some a → Double.lt a.balance Double.zero = false :=
  run_notBelowZero Server.init ts (fun _ _ h => nomatch h) h

theorem balances_not_below_zero_two_opens :
    (∀ τ ∈ List.replicate 2 (openPass (ascii "a") Double.zero), ∀ arr ∈ τ.recv, IsRequest arr.bytes →
      OpensNotBelowZero (decoded arr.bytes)) ∧
    ∀ k a, (run Server.init (List.replicate 2 (openPass (ascii "a") Double.zero))).bank.accounts k =
      some a → Double.lt a.balance Double.zero = false :=
  ⟨by decide, balances_not_below_zero _ (by decide)⟩

/-! ## OPENs from the client -/

/-- A body `parseOpen` accepts holds the name and, besides it, at least 28 bytes: the name's
length field, the password, the currency and the initial balance. -/
theorem parseOpen_length {body name pw : Bytes} {c : UInt16} {initial : Double}
    (h : parseOpen body = some (name, pw, c, initial)) : 28 + name.length ≤ body.length := by
  simp only [parseOpen, Option.bind_eq_bind, Option.bind_eq_some] at h
  obtain ⟨⟨n, o₁⟩, h₁, ⟨p, o₂⟩, h₂, ⟨c', o₃⟩, h₃, ⟨i, o₄⟩, h₄, h⟩ := h
  cases h
  dsimp only
  have := getString_get?_eq_some h₁
  have := getPassword16_get?_eq_some h₂
  have := getBE_get?_eq_some h₃
  have := getDouble_get?_eq_some h₄
  omega

/-- Whatever `handleOpen` sends, the initial balance the server parses from it is not below
`0.0`: the client's prompt refuses a negative one, and a name too long for `putString` leaves a
body that `parseOpen` refuses. -/
theorem opensNotBelowZero_of_handleOpen {stod : Bytes → Option Double} {ls rest : Client.Lines}
    {o : UInt16} {body : Bytes} (h : Client.handleOpen stod ls = .ok (o, body) rest) :
    ∀ args ∈ parseOpen body, Double.lt args.2.2.2 Double.zero = false := by
  rintro ⟨name, pw, c, initial⟩ hargs
  obtain ⟨-, v, hp, rfl, hparse⟩ := Client.handleOpen_parsed h
  by_cases hname : v.name.length ≤ 65535
  · rw [Option.mem_def, hparse hname] at hargs
    cases hargs
    exact Client.promptOpen_initialBalance hp
  · have := parseOpen_length (Option.mem_def.1 hargs)
    rw [Client.length_openBody_of_long (by omega)] at this
    omega

/-- Every OPEN a pass of `ts` receives carries the body the client's `handleOpen` sends for
some operator input. -/
def OpensFromClient (ts : List Tick) : Prop :=
  ∀ τ ∈ ts, ∀ arr ∈ τ.recv, IsRequest arr.bytes → (decoded arr.bytes).h.opCode = OpCode.OPEN.val →
    ∃ stod ls rest, Client.handleOpen stod ls = .ok (OpCode.OPEN.val, (decoded arr.bytes).body) rest

/-- Along every run whose OPEN requests all come from the client's `handleOpen`, whatever the
other requests are, no balance is ever below `0.0`. -/
theorem client_opens_not_below_zero (ts : List Tick) (h : OpensFromClient ts) :
    ∀ k a, (run Server.init ts).bank.accounts k = some a → Double.lt a.balance Double.zero = false :=
  run_notBelowZero Server.init ts (fun _ _ h => nomatch h) fun τ hτ arr harr hreq hop => by
    obtain ⟨stod, ls, rest, hcl⟩ := h τ hτ arr harr hreq hop
    exact opensNotBelowZero_of_handleOpen hcl

/-- The OPEN the client sends for `bob`, password `pw`, CNY and `0`, as request 1 from `peerB`. -/
def clientOpenPass : Tick :=
  ⟨0, some ⟨peerB, encode (Client.request false OpCode.OPEN.val
    (Client.openBody ⟨ascii "bob", ascii "pw", Client.Currency.CNY, Double.zero⟩) 1)⟩,
    0, false, 0, 0, false⟩

theorem client_opens_not_below_zero_one_open :
    OpensFromClient [clientOpenPass] ∧
    ∀ k a, (run Server.init [clientOpenPass]).bank.accounts k = some a →
      Double.lt a.balance Double.zero = false := by
  have h : OpensFromClient [clientOpenPass] := by
    intro τ hτ arr harr _ _
    rw [List.mem_singleton] at hτ
    subst hτ
    cases harr
    exact ⟨fun _ => some Double.zero,
      [ascii "bob", ascii "pw", ascii "pw", ascii "CNY", ascii "0"], [], by decide⟩
  exact ⟨h, client_opens_not_below_zero _ h⟩

end DistributedBank
