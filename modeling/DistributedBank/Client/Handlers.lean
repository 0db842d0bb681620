/-
# DistributedBank.Client.Handlers — the client's seven handlers, up to the request they send

`client_cpp/src/client.cpp`, lines 175-606.  Each handler prompts for its fields on the
console, checks them, builds the request body with the `put…` writers and calls
`Client::call`.  The console is a list of lines (`Lines`): `readLine` returns the next one,
and the empty line once input is exhausted, as `std::getline` leaves it.  A run of prompts
ends in one of three ways (`Prompt`): back to the menu, stuck in a loop that exhausted input
keeps going (`readCurrency` and the OPEN password loop), or with the values read.
`std::stoi` is modelled byte by byte (`stoi`); `std::stod` is a parameter `stod`, since its
correctly rounded decimal conversion is outside this model and the handlers only carry its
result.

The handlers' own checks: a name is non-empty and not `q`; an OPEN password has 1 to 16
bytes and is typed twice; any other password is any line but `q`; account numbers and monitor
seconds are positive `int`s; amounts are positive and an initial balance is not negative.
Nothing bounds a name's length, a non-OPEN password's length, or the seconds below 65 536.

* `promptNewPassword_typed_twice`: the OPEN password loop returns a line of 1 to 16 bytes that
  was typed on two consecutive lines, and reads nothing after the confirmation;
* `stoi_toDecimal`, `promptAccNo_toDecimal`: an account number printed as `std::to_string`
  prints it, typed back at an account-number prompt, is read as the same number;
* `parseOpen_openBody` … `parseTransfer_transferBody`: for a name `putString` can write, the
  server's parser reads back the handler's values, except that a password comes back as its
  first 16 bytes without trailing zeros;
* `parseMonitor_monitorBody`: seconds come back modulo 65 536;
* `handleOpen_parsed`: what `handleOpen` sends after its password loop reaches `parseOpen` as
  the values it read, the password without its trailing zeros;
* `monitor_seconds_wrap`: a MONITOR for 65 536 s, which the handler accepts and then waits
  out, reaches the server as 0 s.
-/
import DistributedBank.Server.Dispatch
import DistributedBank.Client.Call

namespace DistributedBank

namespace Client

set_option autoImplicit false

/-! ## The console -/

/-- The operator's input, one line per entry. -/
abbrev Lines := List Bytes

/-- `readLine` (and `readPassword`, which is the same function): the next line; once input
is exhausted `std::getline` fails and leaves the line empty. -/
def readLine : Lines → Bytes × Lines
  | [] => ([], [])
  | l :: ls => (l, ls)

/-- `line == "q" || line == "Q"`. -/
def isQuit (line : Bytes) : Bool := line == ascii "q" || line == ascii "Q"

/-- How a run of prompts ends: back to the menu, stuck for ever in a loop, or with its values
and the input left. -/
inductive Prompt (α : Type) where
  | back
  | stuck
  | ok (v : α) (rest : Lines)
  deriving DecidableEq, Repr

/-- The prompts that follow once these gave their values. -/
def Prompt.bind {α β : Type} : Prompt α → (α → Lines → Prompt β) → Prompt β
  | .back, _ => .back
  | .stuck, _ => .stuck
  | .ok v rest, f => f v rest

@[simp] theorem Prompt.ok_bind {α β : Type} (v : α) (rest : Lines) (f : α → Lines → Prompt β) :
    (Prompt.ok v rest).bind f = f v rest := rfl

theorem Prompt.bind_eq_ok {α β : Type} {p : Prompt α} {f : α → Lines → Prompt β} {w : β}
    {rest : Lines} (h : p.bind f = .ok w rest) : ∃ v ls, p = .ok v ls ∧ f v ls = .ok w rest := by
  cases p with
  | back => cases h
  | stuck => cases h
  | ok v ls => exact ⟨v, ls, rfl, h⟩

/-- `isspace` in the C locale: space, tab, newline, vertical tab, form feed, carriage return. -/
def isSpace (c : UInt8) : Bool := c.toNat == 32 || (9 ≤ c.toNat && c.toNat ≤ 13)

/-- `'0'` to `'9'`. -/
def isDigit (c : UInt8) : Bool := 48 ≤ c.toNat && c.toNat ≤ 57

/-- `std::stoi`, that is `strtol` in base 10: white space, an optional sign, then the longest
run of digits, at least one; what follows is ignored.  No digit, or a value outside `int`,
throws. -/
def stoi (line : Bytes) : Option Int :=
  let s := line.dropWhile isSpace
  let (neg, s) : Bool × Bytes := match s with
    | c :: r => if c = 45 then (true, r) else if c = 43 then (false, r) else (false, c :: r)
    | [] => (false, [])
  let digits := s.takeWhile isDigit
  if digits = [] then none else
  let v : Int := if neg then -(ofDecimal digits : Int) else ofDecimal digits
  if -2 ^ 31 ≤ v ∧ v < 2 ^ 31 then some v else none

/-- `readInt`: an empty line or `q` cancels, and so does a line `std::stoi` throws on
("Invalid number"). -/
def readInt (ls : Lines) : Prompt Int :=
  let (line, ls) := readLine ls
  if line.isEmpty || isQuit line then .back else
  match stoi line with
  | some v => .ok v ls
  | none => .back

/-- `readDouble`, with `std::stod` as `stod`. -/
def readDouble (stod : Bytes → Option Double) (ls : Lines) : Prompt Double :=
  let (line, ls) := readLine ls
  if line.isEmpty || isQuit line then .back else
  match stod line with
  | some v => .ok v ls
  | none => .back

/-- `Currency::CNY`. -/
def Currency.CNY : UInt16 := 0

/-- `Currency::SGD`. -/
def Currency.SGD : UInt16 := 1

/-- `readCurrency`: asks until it reads `CNY` or `SGD` (either case), or `q`, returned as
`0xFFFF`.  Once input is exhausted every line is empty and the loop never ends. -/
def readCurrency : Lines → Prompt UInt16
  | [] => .stuck
  | cur :: ls =>
    if isQuit cur then .ok 0xFFFF ls
    else if cur == ascii "CNY" || cur == ascii "cny" then .ok Currency.CNY ls
    else if cur == ascii "SGD" || cur == ascii "sgd" then .ok Currency.SGD ls
    else readCurrency ls

/-! ## The prompts each handler shares -/

/-- The name prompt every handler opens with: an empty line or `q` cancels. -/
def promptName (ls : Lines) : Prompt Bytes :=
  let (name, ls) := readLine ls
  if name.isEmpty || isQuit name then .back else .ok name ls

/-- An account number: `readInt`, then `accNo <= 0` cancels. -/
def promptAccNo (ls : Lines) : Prompt Int32 :=
  (readInt ls).bind fun accNo ls => if accNo ≤ 0 then .back else .ok (Int32.wrap accNo) ls

/-- A password outside OPEN: only `q` cancels; any other line, empty or long, is taken. -/
def promptPassword (ls : Lines) : Prompt Bytes :=
  let (password, ls) := readLine ls
  if isQuit password then .back else .ok password ls

/-- The OPEN password loop: 1 to 16 bytes, typed twice; a bad length or a mismatch asks
again.  Once input is exhausted the empty line is asked for again for ever. -/
def promptNewPassword : Lines → Prompt Bytes
  | [] => .stuck
  | password :: ls =>
    if isQuit password then .back
    else if password.isEmpty || password.length > 16 then promptNewPassword ls
    else match ls with
      | [] => .stuck
      | confirm :: ls =>
        if isQuit confirm then .back
        else if password != confirm then promptNewPassword ls
        else .ok password ls

/-- A currency: `readCurrency`, whose `0xFFFF` cancels. -/
def promptCurrency (ls : Lines) : Prompt UInt16 :=
  (readCurrency ls).bind fun currency ls => if currency = 0xFFFF then .back else .ok currency ls

/-- An amount: `readDouble`, then `amount <= 0` cancels. -/
def promptAmount (stod : Bytes → Option Double) (ls : Lines) : Prompt Double :=
  (readDouble stod ls).bind fun amount ls =>
    if Double.le amount Double.zero then .back else .ok amount ls

/-! ## The handlers -/

/-- What `handleOpen` reads. -/
structure OpenInput where
  name : Bytes
  password : Bytes
  currency : UInt16
  initialBalance : Double
  deriving DecidableEq, Repr

/-- What `handleClose` and `handleQueryBalance` read. -/
structure AccountInput where
  name : Bytes
  accNo : Int32
  password : Bytes
  deriving DecidableEq, Repr

/-- What `handleDeposit` and `handleWithdraw` read. -/
structure AmountInput where
  name : Bytes
  accNo : Int32
  password : Bytes
  currency : UInt16
  amount : Double
  deriving DecidableEq, Repr

/-- What `handleTransfer` reads. -/
structure TransferInput where
  name : Bytes
  fromAccNo : Int32
  password : Bytes
  toAccNo : Int32
  currency : UInt16
  amount : Double
  deriving DecidableEq, Repr

/-- The prompts of `handleOpen`; a negative initial balance cancels. -/
def promptOpen (stod : Bytes → Option Double) (ls : Lines) : Prompt OpenInput :=
  (promptName ls).bind fun name ls =>
  (promptNewPassword ls).bind fun password ls =>
  (promptCurrency ls).bind fun currency ls =>
  (readDouble stod ls).bind fun initialBalance ls =>
  if Double.lt initialBalance Double.zero then .back else
  .ok ⟨name, password, currency, initialBalance⟩ ls

/-- The prompts of `handleClose` and `handleQueryBalance`. -/
def promptAccount (ls : Lines) : Prompt AccountInput :=
  (promptName ls).bind fun name ls =>
  (promptAccNo ls).bind fun accNo ls =>
  (promptPassword ls).bind fun password ls =>
  .ok ⟨name, accNo, password⟩ ls

/-- The prompts of `handleDeposit` and `handleWithdraw`. -/
def promptAmountInput (stod : Bytes → Option Double) (ls : Lines) : Prompt AmountInput :=
  (promptName ls).bind fun name ls =>
  (promptAccNo ls).bind fun accNo ls =>
  (promptPassword ls).bind fun password ls =>
  (promptCurrency ls).bind fun currency ls =>
  (promptAmount stod ls).bind fun amount ls =>
  .ok ⟨name, accNo, password, currency, amount⟩ ls

/-- The prompts of `handleTransfer`; the same account twice cancels. -/
def promptTransfer (stod : Bytes → Option Double) (ls : Lines) : Prompt TransferInput :=
  (promptName ls).bind fun name ls =>
  (promptAccNo ls).bind fun fromAccNo ls =>
  (promptPassword ls).bind fun password ls =>
  (promptAccNo ls).bind fun toAccNo ls =>
  if fromAccNo = toAccNo then .back else
  (promptCurrency ls).bind fun currency ls =>
  (promptAmount stod ls).bind fun amount ls =>
  .ok ⟨name, fromAccNo, password, toAccNo, currency, amount⟩ ls

/-- The prompt of `handleMonitor`: positive seconds, as an `int`. -/
def promptMonitor (ls : Lines) : Prompt Int :=
  (readInt ls).bind fun seconds ls => if seconds ≤ 0 then .back else .ok seconds ls

/-- The OPEN body: name, password, currency, initial balance. -/
def openBody (v : OpenInput) : Bytes :=
  putDouble (putU16 (putPassword16 (putString [] v.name) v.password) v.currency) v.initialBalance

/-- The CLOSE and QUERY_BALANCE body: name, account number, password. -/
def accountBody (v : AccountInput) : Bytes :=
  putPassword16 (putI32 (putString [] v.name) v.accNo) v.password

/-- The DEPOSIT and WITHDRAW body: name, account number, password, currency, amount. -/
def amountBody (v : AmountInput) : Bytes :=
  putDouble (putU16 (putPassword16 (putI32 (putString [] v.name) v.accNo) v.password) v.currency)
    v.amount

/-- The TRANSFER body: name, source, password, destination, currency, amount. -/
def transferBody (v : TransferInput) : Bytes :=
  putDouble (putU16 (putI32 (putPassword16 (putI32 (putString [] v.name) v.fromAccNo) v.password)
    v.toAccNo) v.currency) v.amount

/-- The MONITOR_REGISTER body: `putU16(body, (uint16_t)seconds)`. -/
def monitorBody (seconds : Int) : Bytes := putU16 [] (UInt16.ofNat seconds.toNat)

/-- A handler up to its `call`: its prompts, then the opcode and body it sends. -/
def sendWith {α : Type} (op : OpCode) (prompt : Lines → Prompt α) (body : α → Bytes)
    (ls : Lines) : Prompt (UInt16 × Bytes) :=
  (prompt ls).bind fun v ls => .ok (op.val, body v) ls

/-- `Client::handleOpen` up to its `call`. -/
def handleOpen (stod : Bytes → Option Double) : Lines → Prompt (UInt16 × Bytes) :=
  sendWith .OPEN (promptOpen stod) openBody

/-- `Client::handleClose` up to its `call`. -/
def handleClose : Lines → Prompt (UInt16 × Bytes) := sendWith .CLOSE promptAccount accountBody

/-- `Client::handleDeposit` up to its `call`. -/
def handleDeposit (stod : Bytes → Option Double) : Lines → Prompt (UInt16 × Bytes) :=
  sendWith .DEPOSIT (promptAmountInput stod) amountBody

/-- `Client::handleWithdraw` up to its `call`. -/
def handleWithdraw (stod : Bytes → Option Double) : Lines → Prompt (UInt16 × Bytes) :=
  sendWith .WITHDRAW (promptAmountInput stod) amountBody

/-- `Client::handleQueryBalance` up to its `call`. -/
def handleQueryBalance : Lines → Prompt (UInt16 × Bytes) :=
  sendWith .QUERY_BALANCE promptAccount accountBody

/-- `Client::handleTransfer` up to its `call`. -/
def handleTransfer (stod : Bytes → Option Double) : Lines → Prompt (UInt16 × Bytes) :=
  sendWith .TRANSFER (promptTransfer stod) transferBody

/-- `Client::handleMonitor` up to its `call`. -/
def handleMonitor : Lines → Prompt (UInt16 × Bytes) :=
  sendWith .MONITOR_REGISTER promptMonitor monitorBody

example : stoi (ascii " -42x") = some (-42) := by decide

example : stoi (ascii "2147483648") = none := by decide

/-! ## Reading back a printed number -/

theorem decimal_ne_nil (n : Nat) : decimal n ≠ [] := fun h => by
  have hn := ofDecimal_decimal n
  rw [h] at hn
  subst hn
  exact absurd h (by decide)

/-- The digits `std::to_string` writes for `n`, after a minus sign when `neg` is set, are read
back by `std::stoi` whenever the value fits an `int`. -/
theorem stoi_sign_decimal (neg : Bool) (n : Nat)
    (h : -2 ^ 31 ≤ (if neg then -(n : Int) else n) ∧ (if neg then -(n : Int) else n) < 2 ^ 31) :
    stoi ((if neg then ascii "-" else []) ++ decimal n) = some (if neg then -(n : Int) else n) := by
  obtain ⟨c, r, hcr⟩ := List.exists_cons_of_ne_nil (decimal_ne_nil n)
  have hc := mem_decimal (hcr ▸ List.mem_cons_self c r)
  have hdig : (decimal n).takeWhile isDigit = decimal n :=
    List.takeWhile_eq_self_iff.2 fun x hx => by simpa [isDigit] using mem_decimal hx
  have h45 : c ≠ 45 := fun e => by rw [e] at hc; exact absurd hc.1 (by decide)
  have h43 : c ≠ 43 := fun e => by rw [e] at hc; exact absurd hc.1 (by decide)
  have hsp : ¬isSpace c = true := by simp only [isSpace]; simp; omega
  cases neg
  · simp only [Bool.false_eq_true, if_false, List.nil_append] at h ⊢
    unfold stoi
    rw [hcr, List.dropWhile_cons_of_neg hsp]
    simp only [h45, h43, if_false]
    rw [← hcr, hdig, if_neg (decimal_ne_nil n), ofDecimal_decimal]
    simp only [Bool.false_eq_true, if_false, if_pos h]
  · simp only [if_true] at h ⊢
    unfold stoi
    rw [show ascii "-" ++ decimal n = 45 :: decimal n from rfl,
      List.dropWhile_cons_of_neg (by decide)]
    simp only [if_true]
    rw [hdig, if_neg (decimal_ne_nil n), ofDecimal_decimal, if_pos h]

/-- `std::stoi` reads every `int32_t` back from its `std::to_string`. -/
theorem stoi_toDecimal (v : Int32) : stoi v.toDecimal = some v.val := by
  have hlo := v.lo
  have hhi := v.hi
  unfold Int32.toDecimal
  split
  · have hv : -(v.val.natAbs : Int) = v.val := by omega
    exact (stoi_sign_decimal true v.val.natAbs (by rw [if_pos rfl, hv]; exact ⟨hlo, hhi⟩)).trans
      (by rw [if_pos rfl, hv])
  · have hv : (v.val.toNat : Int) = v.val := by omega
    exact (stoi_sign_decimal false v.val.toNat
      (by rw [if_neg Bool.false_ne_true, hv]; exact ⟨hlo, hhi⟩)).trans
      (by rw [if_neg Bool.false_ne_true, hv])

/-- The account number the client prints after an OPEN (`std::cout << accNo`, the digits of
`std::to_string`), typed back at an account-number prompt, is read as that number. -/
theorem promptAccNo_toDecimal (v : Int32) (hv : 0 < v.val) (ls : Lines) :
    promptAccNo (v.toDecimal :: ls) = .ok v ls := by
  have hd : v.toDecimal = decimal v.val.toNat := if_neg (by omega)
  have hq : isQuit v.toDecimal = false := by
    have h113 : decimal v.val.toNat ≠ ascii "q" := fun h =>
      absurd (mem_decimal (show (113 : UInt8) ∈ decimal v.val.toNat by rw [h]; decide)).2 (by decide)
    have h81 : decimal v.val.toNat ≠ ascii "Q" := fun h =>
      absurd (mem_decimal (show (81 : UInt8) ∈ decimal v.val.toNat by rw [h]; decide)).2 (by decide)
    simp [isQuit, hd, h113, h81]
  have hne : v.toDecimal.isEmpty = false := by
    rw [hd, Bool.eq_false_iff]; exact fun h => decimal_ne_nil _ (List.isEmpty_iff.1 h)
  simp only [promptAccNo, readInt, readLine, hne, hq, Bool.or_false, Bool.false_eq_true, if_false,
    stoi_toDecimal, Prompt.ok_bind, if_neg (not_le.2 hv), Int32.wrap_val]

/-! ## What the server reads back -/

/-- The password `getPassword16` gives back for a typed one: its first 16 bytes without
their trailing zeros. -/
def sentPassword (password : Bytes) : Bytes := trimZeros (password.take 16)

/-- The OPEN password loop returns a password of 1 to 16 bytes. -/
theorem promptNewPassword_length {ls rest : Lines} {password : Bytes}
    (h : promptNewPassword ls = .ok password rest) : 0 < password.length ∧ password.length ≤ 16 := by
  induction ls using promptNewPassword.induct with
  | case1 => cases h
  | case2 pw ls hq => simp [promptNewPassword.eq_def, hq] at h
  | case3 pw ls hq hbad ih =>
    rw [promptNewPassword.eq_def] at h
    simp only [hq, hbad, if_true, if_false, Bool.false_eq_true] at h
    exact ih h
  | case4 pw hq hbad => simp [promptNewPassword.eq_def, hq, hbad] at h
  | case5 pw hq hbad confirm ls hcq => simp [promptNewPassword.eq_def, hq, hbad, hcq] at h
  | case6 pw hq hbad confirm ls hcq hne ih =>
    rw [promptNewPassword.eq_def] at h
    simp only [hq, hbad, hcq, hne, if_true, if_false, Bool.false_eq_true] at h
    exact ih h
  | case7 pw hq hbad confirm ls hcq hne =>
    rw [promptNewPassword.eq_def] at h
    simp only [hq, hbad, hcq, hne, if_false, Bool.false_eq_true, Prompt.ok.injEq] at h
    obtain ⟨rfl, -⟩ := h
    simp only [Bool.or_eq_true, List.isEmpty_iff, not_or, gt_iff_lt, not_lt,
      decide_eq_true_eq] at hbad
    exact ⟨List.length_pos.2 hbad.1, hbad.2⟩

/-- The OPEN password loop returns a line the operator typed twice in a row, and it reads
nothing after the confirmation; every line the loop rejected before was not `q`. -/
theorem promptNewPassword_typed_twice {ls rest : Lines} {password : Bytes}
    (h : promptNewPassword ls = .ok password rest) :
    (0 < password.length ∧ password.length ≤ 16) ∧ isQuit password = false ∧
      ∃ pre, ls = pre ++ password :: password :: rest ∧ ∀ l ∈ pre, isQuit l = false := by
  refine ⟨promptNewPassword_length h, ?_⟩
  induction ls using promptNewPassword.induct with
  | case1 => cases h
  | case2 pw ls hq => simp [promptNewPassword.eq_def, hq] at h
  | case3 pw ls hq hbad ih =>
    rw [promptNewPassword.eq_def] at h
    simp only [hq, hbad, if_true, if_false, Bool.false_eq_true] at h
    obtain ⟨hpq, pre, rfl, hpre⟩ := ih h
    exact ⟨hpq, pw :: pre, rfl, by simpa [hq] using hpre⟩
  | case4 pw hq hbad => simp [promptNewPassword.eq_def, hq, hbad] at h
  | case5 pw hq hbad confirm ls hcq => simp [promptNewPassword.eq_def, hq, hbad, hcq] at h
  | case6 pw hq hbad confirm ls hcq hne ih =>
    rw [promptNewPassword.eq_def] at h
    simp only [hq, hbad, hcq, hne, if_true, if_false, Bool.false_eq_true] at h
    obtain ⟨hpq, pre, rfl, hpre⟩ := ih h
    exact ⟨hpq, pw :: confirm :: pre, rfl, by simpa [hq, hcq] using hpre⟩
  | case7 pw hq hbad confirm ls hcq hne =>
    rw [promptNewPassword.eq_def] at h
    simp only [hq, hbad, hcq, hne, if_false, Bool.false_eq_true, Prompt.ok.injEq] at h
    obtain ⟨rfl, rfl⟩ := h
    simp only [bne_iff_ne, ne_eq, Decidable.not_not] at hne
    exact ⟨by simpa using hq, [], by rw [hne]; rfl, by simp⟩

/-- An empty line, then a mistyped confirmation, then `pw` twice. -/
theorem promptNewPassword_typed_twice_retyped :
    promptNewPassword [[], ascii "pw", ascii "px", ascii "pw", ascii "pw", ascii "CNY"] =
        .ok (ascii "pw") [ascii "CNY"] ∧
      ((0 < (ascii "pw").length ∧ (ascii "pw").length ≤ 16) ∧ isQuit (ascii "pw") = false ∧
        ∃ pre, [[], ascii "pw", ascii "px", ascii "pw", ascii "pw", ascii "CNY"] =
          pre ++ ascii "pw" :: ascii "pw" :: [ascii "CNY"] ∧ ∀ l ∈ pre, isQuit l = false) :=
  ⟨by decide, promptNewPassword_typed_twice (by decide)⟩

theorem parseOpen_openBody (v : OpenInput) (hname : v.name.length ≤ 65535) :
    parseOpen (openBody v) = some (v.name, sentPassword v.password, v.currency, v.initialBalance) := by
  have h0 : (openBody v).drop 0 = putString [] v.name ++ (putPassword16 [] v.password ++
      (putU16 [] v.currency ++ (putDouble [] v.initialBalance ++ []))) := by
    rw [List.drop_zero, openBody, putDouble_eq_append, putU16_eq_append, putPassword16_eq_append]
    simp only [List.append_assoc, List.append_nil]
  obtain ⟨o1, r1, d1⟩ := getString_get?_of_drop hname h0 []
  obtain ⟨o2, r2, d2⟩ := getPassword16_get?_of_drop d1 []
  obtain ⟨o3, r3, d3⟩ := getU16_get?_of_drop d2 0
  obtain ⟨o4, r4, -⟩ := getDouble_get?_of_drop d3 Double.zero
  simp [parseOpen, r1, r2, r3, r4, sentPassword]

theorem parseAccount_accountBody (v : AccountInput) (hname : v.name.length ≤ 65535) :
    parseAccount (accountBody v) = some (v.name, v.accNo, sentPassword v.password) := by
  have h0 : (accountBody v).drop 0 = putString [] v.name ++ (putI32 [] v.accNo ++
      (putPassword16 [] v.password ++ [])) := by
    rw [List.drop_zero, accountBody, putPassword16_eq_append, putI32_eq_append]
    simp only [List.append_assoc, List.append_nil]
  obtain ⟨o1, r1, d1⟩ := getString_get?_of_drop hname h0 []
  obtain ⟨o2, r2, d2⟩ := getI32_get?_of_drop d1 0
  obtain ⟨o3, r3, -⟩ := getPassword16_get?_of_drop d2 []
  simp [parseAccount, r1, r2, r3, sentPassword]

theorem parseAmount_amountBody (v : AmountInput) (hname : v.name.length ≤ 65535) :
    parseAmount (amountBody v) =
      some (v.name, v.accNo, sentPassword v.password, v.currency, v.amount) := by
  have h0 : (amountBody v).drop 0 = putString [] v.name ++ (putI32 [] v.accNo ++
      (putPassword16 [] v.password ++ (putU16 [] v.currency ++ (putDouble [] v.amount ++ [])))) := by
    rw [List.drop_zero, amountBody, putDouble_eq_append, putU16_eq_append, putPassword16_eq_append,
      putI32_eq_append]
    simp only [List.append_assoc, List.append_nil]
  obtain ⟨o1, r1, d1⟩ := getString_get?_of_drop hname h0 []
  obtain ⟨o2, r2, d2⟩ := getI32_get?_of_drop d1 0
  obtain ⟨o3, r3, d3⟩ := getPassword16_get?_of_drop d2 []
  obtain ⟨o4, r4, d4⟩ := getU16_get?_of_drop d3 0
  obtain ⟨o5, r5, -⟩ := getDouble_get?_of_drop d4 Double.zero
  simp [parseAmount, r1, r2, r3, r4, r5, sentPassword]

theorem parseTransfer_transferBody (v : TransferInput) (hname : v.name.length ≤ 65535) :
    parseTransfer (transferBody v) =
      some (v.name, v.fromAccNo, sentPassword v.password, v.toAccNo, v.currency, v.amount) := by
  have h0 : (transferBody v).drop 0 = putString [] v.name ++ (putI32 [] v.fromAccNo ++
      (putPassword16 [] v.password ++ (putI32 [] v.toAccNo ++ (putU16 [] v.currency ++
        (putDouble [] v.amount ++ []))))) := by
    rw [List.drop_zero, transferBody, putDouble_eq_append, putU16_eq_append, putI32_eq_append,
      putPassword16_eq_append, putI32_eq_append]
    simp only [List.append_assoc, List.append_nil]
  obtain ⟨o1, r1, d1⟩ := getString_get?_of_drop hname h0 []
  obtain ⟨o2, r2, d2⟩ := getI32_get?_of_drop d1 0
  obtain ⟨o3, r3, d3⟩ := getPassword16_get?_of_drop d2 []
  obtain ⟨o4, r4, d4⟩ := getI32_get?_of_drop d3 0
  obtain ⟨o5, r5, d5⟩ := getU16_get?_of_drop d4 0
  obtain ⟨o6, r6, -⟩ := getDouble_get?_of_drop d5 Double.zero
  simp [parseTransfer, r1, r2, r3, r4, r5, r6, sentPassword]

/-- A handler that sends built its body from the values its prompts read. -/
theorem sendWith_eq_ok {α : Type} {op : OpCode} {prompt : Lines → Prompt α} {body : α → Bytes}
    {ls rest : Lines} {o : UInt16} {b : Bytes} (h : sendWith op prompt body ls = .ok (o, b) rest) :
    o = op.val ∧ ∃ v, prompt ls = .ok v rest ∧ b = body v := by
  obtain ⟨v, ls', hp, hv⟩ := Prompt.bind_eq_ok h
  cases hv
  exact ⟨rfl, v, hp, rfl⟩

/-- The OPEN prompts keep the password loop's bounds. -/
theorem promptOpen_password {stod : Bytes → Option Double} {ls rest : Lines} {v : OpenInput}
    (h : promptOpen stod ls = .ok v rest) : 0 < v.password.length ∧ v.password.length ≤ 16 := by
  obtain ⟨_, _, -, h⟩ := Prompt.bind_eq_ok h
  obtain ⟨password, _, hpw, h⟩ := Prompt.bind_eq_ok h
  obtain ⟨_, _, -, h⟩ := Prompt.bind_eq_ok h
  obtain ⟨_, _, -, h⟩ := Prompt.bind_eq_ok h
  split at h
  · cases h
  · cases h; exact promptNewPassword_length hpw

/-- The OPEN prompts let no initial balance below `0.0` through. -/
theorem promptOpen_initialBalance {stod : Bytes → Option Double} {ls rest : Lines} {v : OpenInput}
    (h : promptOpen stod ls = .ok v rest) : Double.lt v.initialBalance Double.zero = false := by
  obtain ⟨_, _, -, h⟩ := Prompt.bind_eq_ok h
  obtain ⟨_, _, -, h⟩ := Prompt.bind_eq_ok h
  obtain ⟨_, _, -, h⟩ := Prompt.bind_eq_ok h
  obtain ⟨_, _, -, h⟩ := Prompt.bind_eq_ok h
  split at h
  · cases h
  · rename_i hneg
    cases h
    simpa using hneg

/-- The DEPOSIT and WITHDRAW prompts let through only an amount that fails `amount <= 0.0`. -/
theorem promptAmountInput_amount {stod : Bytes → Option Double} {ls rest : Lines} {v : AmountInput}
    (h : promptAmountInput stod ls = .ok v rest) : Double.le v.amount Double.zero = false := by
  obtain ⟨_, _, -, h⟩ := Prompt.bind_eq_ok h
  obtain ⟨_, _, -, h⟩ := Prompt.bind_eq_ok h
  obtain ⟨_, _, -, h⟩ := Prompt.bind_eq_ok h
  obtain ⟨_, _, -, h⟩ := Prompt.bind_eq_ok h
  obtain ⟨_, _, hamount, h⟩ := Prompt.bind_eq_ok h
  cases h
  obtain ⟨_, _, -, h⟩ := Prompt.bind_eq_ok hamount
  split at h
  · cases h
  · rename_i hle
    cases h
    simpa using hle

/-- A name too long for `putString` leaves the OPEN body with its last three fields only. -/
theorem length_openBody_of_long {v : OpenInput} (h : 65535 < v.name.length) :
    (openBody v).length = 26 := by
  simp only [openBody, putDouble, putU16, putU64, putPassword16, putString, h, if_true,
    List.length_append, List.length_nil, List.length_take, List.length_replicate, putBE16, putBE64,
    length_putBE]
  omega

/-- What `handleOpen` sends reaches `parseOpen` as the values its prompts read, the password
without its trailing zeros, whenever `putString` can write the name. -/
theorem handleOpen_parsed {stod : Bytes → Option Double} {ls rest : Lines} {o : UInt16} {b : Bytes}
    (h : handleOpen stod ls = .ok (o, b) rest) :
    o = OpCode.OPEN.val ∧ ∃ v, promptOpen stod ls = .ok v rest ∧ b = openBody v ∧
      (v.name.length ≤ 65535 →
        parseOpen b = some (v.name, trimZeros v.password, v.currency, v.initialBalance)) := by
  obtain ⟨ho, v, hp, rfl⟩ := sendWith_eq_ok h
  refine ⟨ho, v, hp, rfl, fun hname => ?_⟩
  rw [parseOpen_openBody v hname, sentPassword, List.take_of_length_le (promptOpen_password hp).2]

/-- The seconds reach the server modulo 65 536. -/
theorem parseMonitor_monitorBody (seconds : Int) :
    (parseMonitor (monitorBody seconds)).map UInt16.toNat = some (seconds.toNat % 65536) := by
  obtain ⟨o, r, -⟩ := getU16_get?_of_drop (drop_zero_append_nil (monitorBody seconds)) 0
  simp [parseMonitor, r, UInt16.toNat, UInt16.ofNat]

/-- A MONITOR for 65 536 s: `std::stoi` accepts it, the handler's check `seconds <= 0` lets it
through and the client then waits 65 536 s, but `(uint16_t)seconds` is 0 and the server
registers the subscription for 0 s. -/
theorem monitor_seconds_wrap :
    promptMonitor [ascii "65536"] = .ok 65536 [] ∧
      handleMonitor [ascii "65536"] = .ok (OpCode.MONITOR_REGISTER.val, putU16 [] 0) [] ∧
      parseMonitor (putU16 [] 0) = some 0 := by
  decide

end Client

end DistributedBank
