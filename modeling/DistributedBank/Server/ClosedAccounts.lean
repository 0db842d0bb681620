/-
# DistributedBank.Server.ClosedAccounts — a closed account cannot be told from a missing one

Every bank operation starts with `findOpen`, which answers `ERR_NOT_FOUND` for a closed
record as for a missing one; the only other read of a record, CLOSE's `getAccount` for its
callback, reads the record that CLOSE has just closed.  So two servers that agree on the
counter, the subscriptions, the dedup cache and every open account answer every datagram
with the same bytes and stay in agreement.

* `Bank.Equiv`: two banks that agree on the counter and on every open account;
* `dispatch_equiv`: related banks dispatch alike;
* `closed_accounts_unobservable`: the relation of whole servers is kept by every pass, and
  the two passes send the same datagrams.
-/
import DistributedBank.Server.Retries

namespace DistributedBank

set_option autoImplicit false

namespace Bank

/-- Two banks with the same counter and the same open accounts; closed records are ignored. -/
structure Equiv (b₁ b₂ : Bank) : Prop where
  nextAccNo : b₁.nextAccNo = b₂.nextAccNo
  findOpen : ∀ k, b₁.findOpen k = b₂.findOpen k

/-- Two calls of one operation on related banks: the same answer, related banks after. -/
def Congr {α : Type} (r₁ r₂ : Bank × Except Status α) : Prop := r₁.2 = r₂.2 ∧ Equiv r₁.1 r₂.1

variable {b₁ b₂ : Bank}

theorem Equiv.put (h : Equiv b₁ b₂) (k : Int32) (a : Account) : Equiv (b₁.put k a) (b₂.put k a) :=
  ⟨h.nextAccNo, fun j => by rw [findOpen_put, findOpen_put, h.findOpen j]⟩

theorem Equiv.setNextAccNo (h : Equiv b₁ b₂) (n : Int32) :
    Equiv { b₁ with nextAccNo := n } { b₂ with nextAccNo := n } :=
  ⟨rfl, h.findOpen⟩

theorem Equiv.openAccount (h : Equiv b₁ b₂) (name pw16 : Bytes) (c : UInt16) (initial : Double) :
    Congr (b₁.openAccount name pw16 c initial) (b₂.openAccount name pw16 c initial) := by
  unfold Bank.openAccount; rw [h.nextAccNo]; split_ifs
  · exact ⟨rfl, h⟩
  · exact ⟨rfl, (h.setNextAccNo _).put _ _⟩

theorem Equiv.closeAccount (h : Equiv b₁ b₂) (name : Bytes) (accNo : Int32) (pw16 : Bytes) :
    Congr (b₁.closeAccount name accNo pw16) (b₂.closeAccount name accNo pw16) := by
  unfold Bank.closeAccount; rw [h.findOpen accNo]
  split
  · exact ⟨rfl, h⟩
  · split_ifs
    · exact ⟨rfl, h⟩
    · exact ⟨rfl, h.put _ _⟩

theorem Equiv.deposit (h : Equiv b₁ b₂) (name : Bytes) (accNo : Int32) (pw16 : Bytes) (c : UInt16)
    (amount : Double) :
    Congr (b₁.deposit name accNo pw16 c amount) (b₂.deposit name accNo pw16 c amount) := by
  unfold Bank.deposit; rw [h.findOpen accNo]
  split
  · exact ⟨rfl, h⟩
  · split_ifs <;> exact ⟨rfl, by first | exact h | exact h.put _ _⟩

theorem Equiv.withdraw (h : Equiv b₁ b₂) (name : Bytes) (accNo : Int32) (pw16 : Bytes) (c : UInt16)
    (amount : Double) :
    Congr (b₁.withdraw name accNo pw16 c amount) (b₂.withdraw name accNo pw16 c amount) := by
  unfold Bank.withdraw; rw [h.findOpen accNo]
  split
  · exact ⟨rfl, h⟩
  · split_ifs <;> exact ⟨rfl, by first | exact h | exact h.put _ _⟩

theorem Equiv.transfer (h : Equiv b₁ b₂) (name : Bytes) (fromAccNo : Int32) (pw16 : Bytes)
    (toAccNo : Int32) (c : UInt16) (amount : Double) :
    Congr (b₁.transfer name fromAccNo pw16 toAccNo c amount)
      (b₂.transfer name fromAccNo pw16 toAccNo c amount) := by
  unfold Bank.transfer; rw [h.findOpen fromAccNo, h.findOpen toAccNo]
  by_cases h0 : fromAccNo = toAccNo
  · rw [if_pos h0, if_pos h0]; exact ⟨rfl, h⟩
  rw [if_neg h0, if_neg h0]
  split
  · exact ⟨rfl, h⟩
  · exact ⟨rfl, h⟩
  · split_ifs <;> exact ⟨rfl, by first | exact h | exact (h.put _ _).put _ _⟩

theorem Equiv.queryBalance (h : Equiv b₁ b₂) (name : Bytes) (accNo : Int32) (pw16 : Bytes) :
    b₁.queryBalance name accNo pw16 = b₂.queryBalance name accNo pw16 := by
  unfold Bank.queryBalance; rw [h.findOpen accNo]

/-- After a CLOSE, `getAccount` finds the record it closed. -/
theorem getAccount_closeAccount {b : Bank} {name : Bytes} {accNo : Int32} {pw16 : Bytes}
    (hok : (b.closeAccount name accNo pw16).2 = .ok ()) :
    ∃ a, b.findOpen accNo = some a ∧
      (b.closeAccount name accNo pw16).1.getAccount accNo = some { a with closed := true } := by
  rcases closeAccount_cases b name accNo pw16 with ⟨e, -, he⟩ | ⟨a, ha, -, he⟩ <;> rw [he] at hok ⊢
  · cases hok
  · exact ⟨a, ha, by simp [getAccount, put_accounts]⟩

end Bank

/-- Two branch results that cannot be told apart. -/
structure Handled.Equiv (d₁ d₂ : Handled) : Prop where
  status : d₁.status = d₂.status
  body : d₁.body = d₂.body
  bank : Bank.Equiv d₁.bank d₂.bank
  monitors : d₁.monitors = d₂.monitors
  callbacks : d₁.callbacks = d₂.callbacks

section Branches

variable {b₁ b₂ : Bank} (h : Bank.Equiv b₁ b₂) (monitors : List MonitorEntry) (body : Bytes)

include h

theorem handleBank_equiv {α β : Type} {parse : Bytes → Option α}
    {call : Bank → α → Bank × Except Status β} {reply : α → Bank → β → Bytes × List Datagram}
    (hcall : ∀ args, Bank.Congr (call b₁ args) (call b₂ args))
    (hreply : ∀ args r, (call b₁ args).2 = .ok r →
      reply args (call b₁ args).1 r = reply args (call b₂ args).1 r) :
    Handled.Equiv (handleBank parse call reply b₁ monitors body)
      (handleBank parse call reply b₂ monitors body) := by
  unfold handleBank
  cases parse body with
  | none => exact ⟨rfl, rfl, h, rfl, rfl⟩
  | some args =>
    dsimp only
    obtain ⟨hr, hb⟩ := hcall args
    have hrep := hreply args
    generalize call b₁ args = c₁ at hr hb hrep ⊢
    generalize call b₂ args = c₂ at hr hb hrep ⊢
    obtain ⟨b₁', r₁⟩ := c₁
    obtain ⟨b₂', r₂⟩ := c₂
    cases hr
    cases r₁ with
    | error e => exact ⟨rfl, rfl, hb, rfl, rfl⟩
    | ok r =>
      have hr := hrep r rfl
      exact ⟨rfl, congrArg Prod.fst hr, hb, rfl, congrArg Prod.snd hr⟩

theorem handleOpen_equiv :
    Handled.Equiv (handleOpen b₁ monitors body) (handleOpen b₂ monitors body) :=
  handleBank_equiv h monitors body (fun ⟨name, pw, c, initial⟩ => h.openAccount name pw c initial)
    fun _ _ _ => rfl

theorem handleClose_equiv :
    Handled.Equiv (handleClose b₁ monitors body) (handleClose b₂ monitors body) := by
  refine handleBank_equiv h monitors body (fun ⟨name, accNo, pw⟩ => h.closeAccount name accNo pw) ?_
  rintro ⟨name, accNo, pw⟩ ⟨⟩ hok
  obtain ⟨a₁, h₁, g₁⟩ := Bank.getAccount_closeAccount hok
  obtain ⟨a₂, h₂, g₂⟩ := Bank.getAccount_closeAccount ((h.closeAccount name accNo pw).1 ▸ hok)
  rw [h.findOpen accNo, h₂, Option.some.injEq] at h₁
  simp only [g₁, g₂, h₁]

theorem handleDeposit_equiv :
    Handled.Equiv (handleDeposit b₁ monitors body) (handleDeposit b₂ monitors body) :=
  handleBank_equiv h monitors body
    (fun ⟨name, accNo, pw, c, amount⟩ => h.deposit name accNo pw c amount) fun _ _ _ => rfl

theorem handleWithdraw_equiv :
    Handled.Equiv (handleWithdraw b₁ monitors body) (handleWithdraw b₂ monitors body) :=
  handleBank_equiv h monitors body
    (fun ⟨name, accNo, pw, c, amount⟩ => h.withdraw name accNo pw c amount) fun _ _ _ => rfl

theorem handleTransfer_equiv :
    Handled.Equiv (handleTransfer b₁ monitors body) (handleTransfer b₂ monitors body) :=
  handleBank_equiv h monitors body
    (fun ⟨name, fromAcc, pw, toAcc, c, amount⟩ => h.transfer name fromAcc pw toAcc c amount)
    fun _ _ _ => rfl

theorem handleQuery_equiv :
    Handled.Equiv (handleQuery b₁ monitors body) (handleQuery b₂ monitors body) :=
  handleBank_equiv h monitors body
    (fun ⟨name, accNo, pw⟩ => ⟨h.queryBalance name accNo pw, h⟩) fun _ _ _ => rfl

theorem handleMonitor_equiv (peer : SockAddr) (now : Time) :
    Handled.Equiv (handleMonitor b₁ monitors peer now body) (handleMonitor b₂ monitors peer now body) := by
  unfold handleMonitor; split
  · exact ⟨rfl, rfl, h, rfl, rfl⟩
  · exact ⟨rfl, rfl, h, rfl, rfl⟩

theorem dispatch_equiv (peer : SockAddr) (now : Time) (req : Message) :
    Handled.Equiv (dispatch b₁ monitors peer now req) (dispatch b₂ monitors peer now req) :=
  dispatch_congr (fun _ => handleOpen_equiv h _ _) (fun _ => handleClose_equiv h _ _)
    (fun _ => handleDeposit_equiv h _ _) (fun _ => handleWithdraw_equiv h _ _)
    (fun _ => handleTransfer_equiv h _ _) (fun _ => handleQuery_equiv h _ _)
    (fun _ => handleMonitor_equiv h _ _ _ _) ⟨rfl, rfl, h, rfl, rfl⟩

end Branches

/-- Two servers that agree on everything but their closed records. -/
structure Server.Related (s₁ s₂ : Server) : Prop where
  bank : Bank.Equiv s₁.bank s₂.bank
  monitors : s₁.monitors = s₂.monitors
  dedup : s₁.dedup = s₂.dedup

section Passes

variable {s₁ s₂ : Server} (h : Server.Related s₁ s₂)

include h

theorem Server.Related.sweep (t : Time) : Server.Related (sweep t s₁) (sweep t s₂) :=
  ⟨h.bank, by simp only [DistributedBank.sweep, h.monitors], by simp only [DistributedBank.sweep, h.dedup]⟩

theorem Server.Related.execute (τ : Tick) (peer : SockAddr) (req : Message) (flag : Bool) :
    Server.Related (execute s₁ τ peer req flag).1 (execute s₂ τ peer req flag).1 ∧
      (execute s₁ τ peer req flag).2 = (execute s₂ τ peer req flag).2 := by
  have hd := dispatch_equiv h.bank s₂.monitors peer τ.registeredAt req
  unfold DistributedBank.execute executeWith
  rw [h.monitors, h.dedup]
  generalize dispatch s₁.bank s₂.monitors peer τ.registeredAt req = d₁ at hd ⊢
  generalize dispatch s₂.bank s₂.monitors peer τ.registeredAt req = d₂ at hd ⊢
  obtain ⟨hs, hbody, hb, hm, hc⟩ := hd
  simp only [replyOf, hs, hbody, hm, hc]
  exact ⟨⟨hb, rfl, rfl⟩, trivial⟩

theorem Server.Related.serve (τ : Tick) :
    Server.Related (serve s₁ τ).1 (serve s₂ τ).1 ∧ (serve s₁ τ).2 = (serve s₂ τ).2 := by
  unfold DistributedBank.serve serveWith
  rw [h.dedup]
  split
  · exact ⟨h, rfl⟩
  split_ifs
  · exact ⟨h, rfl⟩
  split
  · exact ⟨h, rfl⟩
  split_ifs
  · exact ⟨h, rfl⟩
  · split
    · exact ⟨h, rfl⟩
    · exact h.execute τ _ _ true
  · exact h.execute τ _ _ false

end Passes

theorem closed_accounts_unobservable (s₁ s₂ : Server) (τ : Tick) :
    Server.Related s₁ s₂ →
      Server.Related (step s₁ τ).1 (step s₂ τ).1 ∧ (step s₁ τ).2 = (step s₂ τ).2 :=
  fun h => (h.sweep τ.sweepAt).serve τ

/-- Its owner's QUERY_BALANCE of account 10001, at a server where 10001 is closed and at one
that never had it. -/
theorem closed_accounts_unobservable_query :
    let closed : Server :=
      ⟨⟨10002, Function.update (fun _ => none) 10001
        (some ⟨10001, ascii "a", ascii "pw", 1, Double.zero, true⟩)⟩, [], fun _ => none⟩
    let missing : Server := ⟨⟨10002, fun _ => none⟩, [], fun _ => none⟩
    let query := requestPass 0 OpCode.QUERY_BALANCE.val closeBody 0 false
    Server.Related (step closed query).1 (step missing query).1 ∧
      (step closed query).2 = (step missing query).2 :=
  closed_accounts_unobservable _ _ _
    ⟨⟨rfl, fun k => by
      by_cases hk : k = 10001
      · subst hk; rfl
      · simp [Bank.findOpen, Function.update_noteq hk]⟩, rfl, rfl⟩

end DistributedBank
