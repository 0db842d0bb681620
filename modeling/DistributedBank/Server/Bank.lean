/-
# DistributedBank.Server.Bank — the full server's `Bank` (`z_server_cpp/src/bank.cpp`)

Accounts live in an `unordered_map<int32_t, Account>`, here a function from account
numbers to optional records, and `nextAccNo_` is the `int32_t` counter that starts at
10001.  Each operation is the member function with its out-parameters folded into the
result: the bank as the function leaves it, and either the status written to `err` or
the values written to the other out-parameters.

`findOpen` is the lookup every operation starts with, `accounts_.find` together with the
`closed` test that answers `ERR_NOT_FOUND`.  The facts proved here, one per operation:

* `…_cases`: a call fails before its first write, with a status other than `OK`, or it
  passed every check and made the writes shown;
* `…_error`: from these, a failing call leaves the bank as it was (`FailsClean`);
* `transfer_eq_withdraw_deposit`: a transfer is the withdrawal from its source followed by the
  deposit to its destination under the destination's stored credentials.
-/
import DistributedBank.Wire.Message

namespace DistributedBank

set_option autoImplicit false

/-- `struct Account`. -/
structure Account where
  accountNo : Int32
  name : Bytes
  password : Bytes
  currency : UInt16
  balance : Double
  closed : Bool
  deriving DecidableEq, Repr

/-- `class Bank`. -/
structure Bank where
  nextAccNo : Int32
  accounts : Int32 → Option Account

namespace Bank

/-- `Bank::Bank`. -/
def init : Bank := ⟨10001, fun _ => none⟩

/-- `authMatch`: stored name and stored password both equal. -/
def authMatch (a : Account) (name pw16 : Bytes) : Bool := a.name == name && a.password == pw16

/-- `accounts_.find(accNo)` with the `it->second.closed` test: an open account's record. -/
def findOpen (b : Bank) (accNo : Int32) : Option Account :=
  match b.accounts accNo with
  | some a => if a.closed then none else some a
  | none => none

/-- `accounts_[accNo] = a`, or a write through the reference `find` returned. -/
def put (b : Bank) (accNo : Int32) (a : Account) : Bank :=
  { b with accounts := Function.update b.accounts accNo (some a) }

/-- `Bank::openAccount`. -/
def openAccount (b : Bank) (name pw16 : Bytes) (c : UInt16) (initial : Double) :
    Bank × Except Status (Int32 × Double) :=
  if pw16.length = 0 ∨ pw16.length > 16 then (b, .error .ERR_PASSWORD_FORMAT) else
  let a : Account := ⟨b.nextAccNo, name, pw16, c, initial, false⟩
  let b := { b with nextAccNo := Int32.wrap (b.nextAccNo.val + 1) }
  (b.put a.accountNo a, .ok (a.accountNo, a.balance))

/-- `Bank::closeAccount`. -/
def closeAccount (b : Bank) (name : Bytes) (accNo : Int32) (pw16 : Bytes) :
    Bank × Except Status Unit :=
  match b.findOpen accNo with
  | none => (b, .error .ERR_NOT_FOUND)
  | some a =>
    if !authMatch a name pw16 then (b, .error .ERR_AUTH) else
    (b.put accNo { a with closed := true }, .ok ())

/-- `Bank::deposit`. -/
def deposit (b : Bank) (name : Bytes) (accNo : Int32) (pw16 : Bytes) (c : UInt16)
    (amount : Double) : Bank × Except Status Double :=
  match b.findOpen accNo with
  | none => (b, .error .ERR_NOT_FOUND)
  | some a =>
    if !authMatch a name pw16 then (b, .error .ERR_AUTH) else
    if a.currency != c then (b, .error .ERR_CURRENCY) else
    if !Double.lt Double.zero amount then (b, .error .ERR_BAD_REQUEST) else
    let a := { a with balance := a.balance + amount }
    (b.put accNo a, .ok a.balance)

/-- `Bank::withdraw`. -/
def withdraw (b : Bank) (name : Bytes) (accNo : Int32) (pw16 : Bytes) (c : UInt16)
    (amount : Double) : Bank × Except Status Double :=
  match b.findOpen accNo with
  | none => (b, .error .ERR_NOT_FOUND)
  | some a =>
    if !authMatch a name pw16 then (b, .error .ERR_AUTH) else
    if a.currency != c then (b, .error .ERR_CURRENCY) else
    if !Double.lt Double.zero amount then (b, .error .ERR_BAD_REQUEST) else
    if Double.lt a.balance amount then (b, .error .ERR_INSUFFICIENT_FUNDS) else
    let a := { a with balance := a.balance - amount }
    (b.put accNo a, .ok a.balance)

/-- `Bank::transfer`: authenticated by the owner of the source account. -/
def transfer (b : Bank) (name : Bytes) (fromAccNo : Int32) (pw16 : Bytes) (toAccNo : Int32)
    (c : UInt16) (amount : Double) : Bank × Except Status (Double × Double) :=
  if fromAccNo = toAccNo then (b, .error .ERR_BAD_REQUEST) else
  match b.findOpen fromAccNo, b.findOpen toAccNo with
  | none, _ => (b, .error .ERR_NOT_FOUND)
  | some _, none => (b, .error .ERR_NOT_FOUND)
  | some src, some dst =>
    if !authMatch src name pw16 then (b, .error .ERR_AUTH) else
    if src.currency != c || dst.currency != c then (b, .error .ERR_CURRENCY) else
    if !Double.lt Double.zero amount then (b, .error .ERR_BAD_REQUEST) else
    if Double.lt src.balance amount then (b, .error .ERR_INSUFFICIENT_FUNDS) else
    let src := { src with balance := src.balance - amount }
    let dst := { dst with balance := dst.balance + amount }
    ((b.put fromAccNo src).put toAccNo dst, .ok (src.balance, dst.balance))

/-- `Bank::queryBalance`, which writes nothing to the bank. -/
def queryBalance (b : Bank) (name : Bytes) (accNo : Int32) (pw16 : Bytes) :
    Except Status (UInt16 × Double) :=
  match b.findOpen accNo with
  | none => .error .ERR_NOT_FOUND
  | some a => if !authMatch a name pw16 then .error .ERR_AUTH else .ok (a.currency, a.balance)

/-- `Bank::getAccount`: the record, closed or not. -/
def getAccount (b : Bank) (accNo : Int32) : Option Account := b.accounts accNo

/-! ## Lookups after a write -/

@[simp] theorem put_nextAccNo (b : Bank) (k : Int32) (a : Account) :
    (b.put k a).nextAccNo = b.nextAccNo := rfl

theorem put_accounts (b : Bank) (k j : Int32) (a : Account) :
    (b.put k a).accounts j = if j = k then some a else b.accounts j := by
  simp [put, Function.update_apply]

theorem findOpen_put (b : Bank) (k j : Int32) (a : Account) :
    (b.put k a).findOpen j = if j = k then (if a.closed then none else some a) else b.findOpen j := by
  unfold findOpen; rw [put_accounts]; split_ifs <;> simp_all

theorem findOpen_eq_some {b : Bank} {k : Int32} {a : Account} :
    b.findOpen k = some a ↔ b.accounts k = some a ∧ a.closed = false := by
  unfold findOpen
  split
  · rename_i a' h
    cases hc : a'.closed <;> simp only [h, hc, Option.some.injEq, true_and, if_true, if_false,
      reduceCtorEq, false_iff, Bool.false_eq_true, not_and]
    · exact ⟨fun e => e ▸ ⟨rfl, hc⟩, fun ⟨e, _⟩ => e⟩
    · rintro rfl; simp [hc]
  · simp_all

/-! ## Failing calls write nothing -/

theorem Status.val_ne_zero {s : Status} (h : s ≠ .OK) : s.val ≠ 0 := by
  cases s <;> simp_all [Status.val]

/-- A call's result fails cleanly: an error leaves the bank `b` and is not `OK`. -/
def FailsClean {α : Type} (b : Bank) (r : Bank × Except Status α) : Prop :=
  ∀ e, r.2 = .error e → r.1 = b ∧ e ≠ .OK

theorem FailsClean.of_eq {α : Type} {b b' : Bank} {r : Bank × Except Status α} {e : Status}
    (hf : FailsClean b r) (h : r = (b', .error e)) : b' = b ∧ e ≠ .OK := by
  subst h; exact hf e rfl

theorem FailsClean.of_error {α : Type} {b : Bank} {r : Bank × Except Status α} {e : Status}
    (he : e ≠ .OK) (h : r = (b, .error e)) : FailsClean b r := by
  subst h; rintro e' ⟨⟩; exact ⟨rfl, he⟩

theorem FailsClean.of_ok {α : Type} {b b' : Bank} {r : Bank × Except Status α} {v : α}
    (h : r = (b', .ok v)) : FailsClean b r := by
  subst h; rintro e ⟨⟩

/-! ## What each call does

One lemma per operation: the call either fails before its first write, with a status other
than `OK`, or it passed every check, named here, and made the writes shown. -/

theorem openAccount_cases (b : Bank) (name pw16 : Bytes) (c : UInt16) (initial : Double) :
    b.openAccount name pw16 c initial = (b, .error .ERR_PASSWORD_FORMAT) ∨
      0 < pw16.length ∧ pw16.length ≤ 16 ∧ b.openAccount name pw16 c initial =
        (({ b with nextAccNo := Int32.wrap (b.nextAccNo.val + 1) } : Bank).put b.nextAccNo
          ⟨b.nextAccNo, name, pw16, c, initial, false⟩, .ok (b.nextAccNo, initial)) := by
  unfold openAccount; split_ifs with h
  · exact .inl rfl
  · exact .inr ⟨by omega, by omega, rfl⟩

theorem closeAccount_cases (b : Bank) (name : Bytes) (accNo : Int32) (pw16 : Bytes) :
    (∃ e, e ≠ .OK ∧ b.closeAccount name accNo pw16 = (b, .error e)) ∨
      ∃ a, b.findOpen accNo = some a ∧ authMatch a name pw16 = true ∧
        b.closeAccount name accNo pw16 = (b.put accNo { a with closed := true }, .ok ()) := by
  unfold closeAccount
  rcases b.findOpen accNo with _ | a
  · exact .inl ⟨_, by decide, rfl⟩
  dsimp only
  by_cases h1 : (!authMatch a name pw16) = true
  · rw [if_pos h1]; exact .inl ⟨_, by decide, rfl⟩
  rw [if_neg h1]
  simp only [Bool.not_eq_true', Bool.not_eq_false] at h1
  exact .inr ⟨a, rfl, h1, rfl⟩

theorem deposit_cases (b : Bank) (name : Bytes) (accNo : Int32) (pw16 : Bytes) (c : UInt16)
    (amount : Double) :
    (∃ e, e ≠ .OK ∧ b.deposit name accNo pw16 c amount = (b, .error e)) ∨
      ∃ a, b.findOpen accNo = some a ∧ authMatch a name pw16 = true ∧ a.currency = c ∧
        Double.lt Double.zero amount = true ∧ b.deposit name accNo pw16 c amount =
          (b.put accNo { a with balance := a.balance + amount }, .ok (a.balance + amount)) := by
  unfold deposit
  rcases b.findOpen accNo with _ | a
  · exact .inl ⟨_, by decide, rfl⟩
  dsimp only
  by_cases h1 : (!authMatch a name pw16) = true
  · rw [if_pos h1]; exact .inl ⟨_, by decide, rfl⟩
  rw [if_neg h1]
  by_cases h2 : (a.currency != c) = true
  · rw [if_pos h2]; exact .inl ⟨_, by decide, rfl⟩
  rw [if_neg h2]
  by_cases h3 : (!Double.lt Double.zero amount) = true
  · rw [if_pos h3]; exact .inl ⟨_, by decide, rfl⟩
  rw [if_neg h3]
  simp only [bne_iff_ne, ne_eq, not_not, Bool.not_eq_true', Bool.not_eq_false] at h1 h2 h3
  exact .inr ⟨a, rfl, h1, h2, h3, rfl⟩

theorem withdraw_cases (b : Bank) (name : Bytes) (accNo : Int32) (pw16 : Bytes) (c : UInt16)
    (amount : Double) :
    (∃ e, e ≠ .OK ∧ b.withdraw name accNo pw16 c amount = (b, .error e)) ∨
      ∃ a, b.findOpen accNo = some a ∧ authMatch a name pw16 = true ∧ a.currency = c ∧
        Double.lt Double.zero amount = true ∧ Double.lt a.balance amount = false ∧
        b.withdraw name accNo pw16 c amount =
          (b.put accNo { a with balance := a.balance - amount }, .ok (a.balance - amount)) := by
  unfold withdraw
  rcases b.findOpen accNo with _ | a
  · exact .inl ⟨_, by decide, rfl⟩
  dsimp only
  by_cases h1 : (!authMatch a name pw16) = true
  · rw [if_pos h1]; exact .inl ⟨_, by decide, rfl⟩
  rw [if_neg h1]
  by_cases h2 : (a.currency != c) = true
  · rw [if_pos h2]; exact .inl ⟨_, by decide, rfl⟩
  rw [if_neg h2]
  by_cases h3 : (!Double.lt Double.zero amount) = true
  · rw [if_pos h3]; exact .inl ⟨_, by decide, rfl⟩
  rw [if_neg h3]
  by_cases h4 : Double.lt a.balance amount = true
  · rw [if_pos h4]; exact .inl ⟨_, by decide, rfl⟩
  rw [if_neg h4]
  simp only [bne_iff_ne, ne_eq, not_not, Bool.not_eq_true', Bool.not_eq_true,
    Bool.not_eq_false] at h1 h2 h3 h4
  exact .inr ⟨a, rfl, h1, h2, h3, h4, rfl⟩

theorem transfer_cases (b : Bank) (name : Bytes) (fromAccNo : Int32) (pw16 : Bytes)
    (toAccNo : Int32) (c : UInt16) (amount : Double) :
    (∃ e, e ≠ .OK ∧ b.transfer name fromAccNo pw16 toAccNo c amount = (b, .error e)) ∨
      ∃ src dst, fromAccNo ≠ toAccNo ∧ b.findOpen fromAccNo = some src ∧
        b.findOpen toAccNo = some dst ∧ authMatch src name pw16 = true ∧ src.currency = c ∧
        dst.currency = c ∧ Double.lt Double.zero amount = true ∧
        Double.lt src.balance amount = false ∧ b.transfer name fromAccNo pw16 toAccNo c amount =
          ((b.put fromAccNo { src with balance := src.balance - amount }).put toAccNo
            { dst with balance := dst.balance + amount },
            .ok (src.balance - amount, dst.balance + amount)) := by
  unfold transfer
  by_cases h0 : fromAccNo = toAccNo
  · rw [if_pos h0]; exact .inl ⟨_, by decide, rfl⟩
  rw [if_neg h0]
  rcases b.findOpen fromAccNo with _ | src
  · exact .inl ⟨_, by decide, rfl⟩
  rcases b.findOpen toAccNo with _ | dst
  · exact .inl ⟨_, by decide, rfl⟩
  dsimp only
  by_cases h1 : (!authMatch src name pw16) = true
  · rw [if_pos h1]; exact .inl ⟨_, by decide, rfl⟩
  rw [if_neg h1]
  by_cases h2 : (src.currency != c || dst.currency != c) = true
  · rw [if_pos h2]; exact .inl ⟨_, by decide, rfl⟩
  rw [if_neg h2]
  by_cases h3 : (!Double.lt Double.zero amount) = true
  · rw [if_pos h3]; exact .inl ⟨_, by decide, rfl⟩
  rw [if_neg h3]
  by_cases h4 : Double.lt src.balance amount = true
  · rw [if_pos h4]; exact .inl ⟨_, by decide, rfl⟩
  rw [if_neg h4]
  simp only [Bool.or_eq_true, bne_iff_ne, ne_eq, not_or, not_not, Bool.not_eq_true',
    Bool.not_eq_true, Bool.not_eq_false] at h1 h2 h3 h4
  exact .inr ⟨src, dst, h0, rfl, rfl, h1, h2.1, h2.2, h3, h4, rfl⟩

/-! ## The error lemmas -/

theorem openAccount_error (b : Bank) (name pw16 : Bytes) (c : UInt16) (initial : Double) :
    FailsClean b (b.openAccount name pw16 c initial) := by
  rcases openAccount_cases b name pw16 c initial with h | ⟨-, -, h⟩
  exacts [.of_error (by decide) h, .of_ok h]

theorem closeAccount_error (b : Bank) (name : Bytes) (accNo : Int32) (pw16 : Bytes) :
    FailsClean b (b.closeAccount name accNo pw16) := by
  rcases closeAccount_cases b name accNo pw16 with ⟨e, he, h⟩ | ⟨_, -, -, h⟩
  exacts [.of_error he h, .of_ok h]

theorem deposit_error (b : Bank) (name : Bytes) (accNo : Int32) (pw16 : Bytes) (c : UInt16)
    (amount : Double) : FailsClean b (b.deposit name accNo pw16 c amount) := by
  rcases deposit_cases b name accNo pw16 c amount with ⟨e, he, h⟩ | ⟨_, -, -, -, -, h⟩
  exacts [.of_error he h, .of_ok h]

theorem withdraw_error (b : Bank) (name : Bytes) (accNo : Int32) (pw16 : Bytes) (c : UInt16)
    (amount : Double) : FailsClean b (b.withdraw name accNo pw16 c amount) := by
  rcases withdraw_cases b name accNo pw16 c amount with ⟨e, he, h⟩ | ⟨_, -, -, -, -, -, h⟩
  exacts [.of_error he h, .of_ok h]

theorem transfer_error (b : Bank) (name : Bytes) (fromAccNo : Int32) (pw16 : Bytes)
    (toAccNo : Int32) (c : UInt16) (amount : Double) :
    FailsClean b (b.transfer name fromAccNo pw16 toAccNo c amount) := by
  rcases transfer_cases b name fromAccNo pw16 toAccNo c amount with ⟨e, he, h⟩ |
    ⟨_, _, -, -, -, -, -, -, -, -, h⟩
  exacts [.of_error he h, .of_ok h]

theorem queryBalance_error (b : Bank) (name : Bytes) (accNo : Int32) (pw16 : Bytes) (e : Status)
    (h : b.queryBalance name accNo pw16 = .error e) : e ≠ .OK := by
  unfold queryBalance at h; split at h <;> (try split_ifs at h) <;> cases h <;> decide

/-! ## A transfer is a withdrawal and a deposit -/

theorem closeAccount_eq_ok {b : Bank} {name pw16 : Bytes} {accNo : Int32} {a : Account}
    (ha : b.findOpen accNo = some a) (hauth : authMatch a name pw16 = true) :
    b.closeAccount name accNo pw16 = (b.put accNo { a with closed := true }, .ok ()) := by
  simp only [closeAccount, ha, hauth, Bool.not_true, Bool.false_eq_true, if_false]

theorem closeAccount_not_found {b : Bank} {name pw16 : Bytes} {accNo : Int32}
    (h : b.findOpen accNo = none) : b.closeAccount name accNo pw16 = (b, .error .ERR_NOT_FOUND) := by
  simp only [closeAccount, h]

theorem deposit_not_found {b : Bank} {name pw16 : Bytes} {accNo : Int32} {c : UInt16}
    {amount : Double} (h : b.findOpen accNo = none) :
    b.deposit name accNo pw16 c amount = (b, .error .ERR_NOT_FOUND) := by
  simp only [deposit, h]

theorem deposit_eq_ok {b : Bank} {name pw16 : Bytes} {accNo : Int32} {c : UInt16} {amount : Double}
    {a : Account} (ha : b.findOpen accNo = some a) (hauth : authMatch a name pw16 = true)
    (hc : a.currency = c) (hpos : Double.lt Double.zero amount = true) :
    b.deposit name accNo pw16 c amount =
      (b.put accNo { a with balance := a.balance + amount }, .ok (a.balance + amount)) := by
  simp only [deposit, ha, hauth, hc, hpos, bne_self_eq_false, Bool.not_true, Bool.false_eq_true,
    if_false]

theorem withdraw_eq_ok {b : Bank} {name pw16 : Bytes} {accNo : Int32} {c : UInt16} {amount : Double}
    {a : Account} (ha : b.findOpen accNo = some a) (hauth : authMatch a name pw16 = true)
    (hc : a.currency = c) (hpos : Double.lt Double.zero amount = true)
    (hfunds : Double.lt a.balance amount = false) :
    b.withdraw name accNo pw16 c amount =
      (b.put accNo { a with balance := a.balance - amount }, .ok (a.balance - amount)) := by
  simp only [withdraw, ha, hauth, hc, hpos, hfunds, bne_self_eq_false, Bool.not_true,
    Bool.false_eq_true, if_false]

theorem transfer_eq_ok {b : Bank} {name pw16 : Bytes} {fromAccNo toAccNo : Int32} {c : UInt16}
    {amount : Double} {src dst : Account} (hne : fromAccNo ≠ toAccNo)
    (hsrc : b.findOpen fromAccNo = some src) (hdst : b.findOpen toAccNo = some dst)
    (hauth : authMatch src name pw16 = true) (hcs : src.currency = c) (hcd : dst.currency = c)
    (hpos : Double.lt Double.zero amount = true) (hfunds : Double.lt src.balance amount = false) :
    b.transfer name fromAccNo pw16 toAccNo c amount =
      ((b.put fromAccNo { src with balance := src.balance - amount }).put toAccNo
        { dst with balance := dst.balance + amount }, .ok (src.balance - amount, dst.balance + amount)) := by
  simp only [transfer, hne, hsrc, hdst, hauth, hcs, hcd, hpos, hfunds, bne_self_eq_false,
    Bool.or_self, Bool.not_true, Bool.false_eq_true, if_false]

theorem authMatch_self (a : Account) : authMatch a a.name a.password = true := by
  simp [authMatch]

/-- A transfer succeeds exactly when its two accounts differ, the withdrawal of the amount from
the source under the caller's credentials succeeds, and the destination is open in the
transfer's currency; the bank and the two balances it leaves are then those of that withdrawal
followed by a deposit to the destination under the destination's own stored name and
password, which the caller never gave. -/
theorem transfer_eq_withdraw_deposit (b : Bank) (name : Bytes) (fromAccNo : Int32) (pw16 : Bytes)
    (toAccNo : Int32) (c : UInt16) (amount : Double) (b' : Bank) (fromBal toBal : Double) :
    b.transfer name fromAccNo pw16 toAccNo c amount = (b', .ok (fromBal, toBal)) ↔
      fromAccNo ≠ toAccNo ∧ ∃ dst b₁, b.findOpen toAccNo = some dst ∧ dst.currency = c ∧
        b.withdraw name fromAccNo pw16 c amount = (b₁, .ok fromBal) ∧
        b₁.deposit dst.name toAccNo dst.password c amount = (b', .ok toBal) := by
  have hdst₁ : ∀ {x dst : Account}, fromAccNo ≠ toAccNo → b.findOpen toAccNo = some dst →
      (b.put fromAccNo x).findOpen toAccNo = some dst := fun hne hdst => by
    rw [findOpen_put, if_neg (Ne.symm hne), hdst]
  constructor
  · intro h
    rcases transfer_cases b name fromAccNo pw16 toAccNo c amount with ⟨e, -, he⟩ |
        ⟨src, dst, hne, hsrc, hdst, hauth, hcs, hcd, hpos, hfunds, he⟩ <;> rw [he] at h <;> cases h
    refine ⟨hne, dst, _, hdst, hcd, withdraw_eq_ok hsrc hauth hcs hpos hfunds, ?_⟩
    exact deposit_eq_ok (hdst₁ hne hdst) (authMatch_self dst) hcd hpos
  · rintro ⟨hne, dst, b₁, hdst, hcd, hw, hd⟩
    rcases withdraw_cases b name fromAccNo pw16 c amount with ⟨e, -, he⟩ |
        ⟨src, hsrc, hauth, hcs, hpos, hfunds, he⟩ <;> rw [he] at hw <;> cases hw
    rw [deposit_eq_ok (hdst₁ hne hdst) (authMatch_self dst) hcd hpos] at hd
    cases hd
    exact transfer_eq_ok hne hsrc hdst hauth hcs hcd hpos hfunds

end Bank

end DistributedBank
