import CoreOps.Lib.RunningTotal
import CoreOps.Finance.Ledger

/-! Allocation requests as they interleave on one database under READ COMMITTED. A
request reads the payment and each invoice without a lock, inserts an allocation
row per item, and writes the new totals of the invoices and of the payment as
absolute values: an invoice is updated by the flush that inserts the next row, the
last invoice and the payment by the flush at the end. -/

namespace CoreOps.Finance

open Checked ReadCommitted

/-- The rows a request reads and writes. Allocations are in the order they were
inserted; a row is inserted only when its key is not there. -/
structure Books where
  payments : Table ℕ Payment
  invoices : Table ℕ Invoice
  allocations : List ((ℕ × ℕ) × PaymentAllocation)

def State.books (s : State) : Books := ⟨s.payments, s.invoices, s.allocations.rows⟩

/-- Rows that are locked; an allocation is locked by its unique key. -/
inductive Row
  | payment (id : ℕ)
  | invoice (id : ℕ)
  | allocation (key : ℕ × ℕ)
  deriving DecidableEq, Repr

/-- A flush names the columns that changed, so a status that is as it was read is
not written. -/
inductive Write
  | insertAllocation (key : ℕ × ℕ) (row : PaymentAllocation)
  | setInvoice (invoiceId : ℕ) (amountPaid : ℤ) (status : Option InvoiceStatus)
  | setPayment (paymentId : ℕ) (amountAllocated : ℤ)

def Invoice.setPaid (amountPaid : ℤ) (status : Option InvoiceStatus) (i : Invoice) : Invoice :=
  { i with amountPaid := amountPaid, status := status.getD i.status }

def applyWrite (b : Books) : Write → Books
  | .insertAllocation key row => { b with allocations := b.allocations ++ [(key, row)] }
  | .setInvoice id amountPaid status =>
    { b with invoices := b.invoices.modify id (Invoice.setPaid amountPaid status) }
  | .setPayment id amountAllocated =>
    { b with payments := b.payments.modify id (Payment.setAllocated amountAllocated) }

structure AllocateArgs where
  caller : Caller
  clock : Clock
  paymentId : ℕ
  payload : PaymentAllocateRequest

/-- An invoice as it was read, and the amount an item pays of it. -/
structure Paying where
  invoiceId : ℕ
  invoice : Invoice
  amount : ℚ

/-- A request after it has read its payment: the items left, and the invoice whose
new total is not flushed yet. -/
structure Progress where
  args : AllocateArgs
  payment : Payment
  rest : List PaymentAllocationItem
  dirty : Option Paying

inductive Loc
  | readPayment (a : AllocateArgs)
  | readInvoice (p : Progress)
  | readAllocation (p : Progress) (item : PaymentAllocationItem) (invoice : Invoice)
  | insertAllocation (p : Progress) (item : PaymentAllocationItem) (invoice : Invoice)
  | flush (p : Progress)
  | done

def Books.hasAllocation (b : Books) (key : ℕ × ℕ) : Bool := b.allocations.any fun r => r.1 = key

/-- The guards of a request before its loop. -/
def checkPayment (a : AllocateArgs) (b : Books) : Except FinanceError Payment := do
  let payment ← orRaise ((b.payments.get? a.paymentId).filter fun p => p.tenantId = a.caller.tenantId)
    (.notFound "Payment not found")
  raiseIf (payment.status ≠ .completed) (.conflict "Only completed payments can be allocated")
  raiseIf (sumAmounts a.payload.allocations > sub (ofCents payment.amount) (ofCents payment.amountAllocated))
    (.conflict "Allocation exceeds unallocated payment amount")
  return payment

/-- The guards of an item before its allocation is looked up. -/
def checkInvoice (a : AllocateArgs) (item : PaymentAllocationItem) (b : Books) : Except FinanceError Invoice := do
  let invoice ← orRaise ((b.invoices.get? item.invoiceId).filter fun i => i.tenantId = a.caller.tenantId)
    (.notFound "Invoice not found")
  raiseIf (invoice.status ∈ [InvoiceStatus.draft, .cancelled, .void])
    (.conflict "Cannot allocate payment to this invoice status")
  let invoiceNumber := invoice.invoiceNumber
  raiseIf (item.amount > sub (ofCents invoice.total) (ofCents invoice.amountPaid))
    (.conflict s!"Allocation amount exceeds invoice balance for {invoiceNumber}")
  return invoice

/-- The row an item inserts, unless its key is taken or its amount overflows. -/
def newAllocation (a : AllocateArgs) (item : PaymentAllocationItem) (b : Books) :
    Except FinanceError PaymentAllocation := do
  let amount ← moneyColumn item.amount
  raiseIf (b.hasAllocation (a.paymentId, item.invoiceId)) .integrityError
  return { tenantId := a.caller.tenantId, amount := amount, notes := item.notes }

/-- The update of an invoice: its new total, and its status when that changes. -/
def Paying.update (today : ℤ) (d : Paying) : Except FinanceError Write := do
  let paid := add (ofCents d.invoice.amountPaid) d.amount
  let amountPaid ← moneyColumn paid
  let status := (payInvoice today amountPaid paid d.invoice).status
  return .setInvoice d.invoiceId amountPaid (if status = d.invoice.status then none else some status)

/-- The update of the payment. -/
def Progress.update (p : Progress) : Except FinanceError Write := do
  let amountAllocated ←
    moneyColumn (add (ofCents p.payment.amountAllocated) (sumAmounts p.args.payload.allocations))
  return .setPayment p.args.paymentId amountAllocated

def Progress.clean (p : Progress) : Progress := { p with dirty := none }

def Progress.pay (p : Progress) (item : PaymentAllocationItem) (invoice : Invoice) : Progress :=
  { p with dirty := some ⟨item.invoiceId, invoice, item.amount⟩ }

def next : Loc → Books → Action Row Write Loc
  | .readPayment a, b =>
    match checkPayment a b with
    | .error _ => .rollback none
    | .ok payment => .exec [] [] (.readInvoice ⟨a, payment, a.payload.allocations, none⟩)
  | .readInvoice ⟨a, payment, [], dirty⟩, _ => .exec [] [] (.flush ⟨a, payment, [], dirty⟩)
  -- an invoice named twice is in the session with its new total, but its allocation is
  -- in the database by now, so the request is refused whichever total is compared
  | .readInvoice ⟨a, payment, item :: rest, dirty⟩, b =>
    match checkInvoice a item b with
    | .error _ => .rollback none
    | .ok invoice => .exec [] [] (.readAllocation ⟨a, payment, rest, dirty⟩ item invoice)
  | .readAllocation p item invoice, b =>
    if (b.allocations.any fun r => r.1 = (p.args.paymentId, item.invoiceId) ∧ r.2.tenantId = p.args.caller.tenantId)
    then .rollback none
    else .exec [] [] (.insertAllocation p item invoice)
  | .insertAllocation p item invoice, b =>
    match p.dirty with
    | some d =>
      match d.update p.args.clock.today with
      | .error _ => .rollback none
      | .ok w => .exec [(.invoice d.invoiceId, .noKeyUpdate)] [w] (.insertAllocation p.clean item invoice)
    | none =>
      match newAllocation p.args item b with
      | .error _ => .rollback none
      | .ok row =>
        .exec [(.allocation (p.args.paymentId, item.invoiceId), .update), (.payment p.args.paymentId, .keyShare),
            (.invoice item.invoiceId, .keyShare)]
          [.insertAllocation (p.args.paymentId, item.invoiceId) row] (.readInvoice (p.pay item invoice))
  | .flush p, _ =>
    match p.dirty with
    | some d =>
      match d.update p.args.clock.today with
      | .error _ => .rollback none
      | .ok w => .exec [(.invoice d.invoiceId, .noKeyUpdate)] [w] (.flush p.clean)
    | none =>
      match p.update with
      | .error _ => .rollback none
      | .ok w => .exec [(.payment p.args.paymentId, .noKeyUpdate)] [w] .done
  | .done, _ => .commit none

def allocationSystem : System Books Write Row Loc := ⟨applyWrite, next⟩

/-- Every payment and every invoice agrees with its allocation rows and is not
allocated or paid beyond its amount. -/
def Books.Conserved (b : Books) : Prop :=
  (∀ id p, b.payments.get? id = some p →
    p.amountAllocated = sumRows b.allocations (fun k => k.1 = id) ∧ p.amountAllocated ≤ p.amount) ∧
  ∀ id i, b.invoices.get? id = some i →
    i.amountPaid = sumRows b.allocations (fun k => k.2 = id) ∧ i.amountPaid ≤ i.total

/-! The totals and their limits. -/

/-- A payment or an invoice, as one that keeps a total. -/
inductive Account
  | payment (id : ℕ)
  | invoice (id : ℕ)
  deriving DecidableEq, Repr

namespace Books

/-- The total and the limit stored for an account. -/
def account (b : Books) : Account → Option (ℤ × ℤ)
  | .payment id => (b.payments.get? id).map fun p => (p.amountAllocated, p.amount)
  | .invoice id => (b.invoices.get? id).map fun i => (i.amountPaid, i.total)

def limit (b : Books) (i : Account) : Option ℤ := (b.account i).map (·.2)

def stored (b : Books) (i : Account) : Option ℤ := (b.account i).map (·.1)

end Books

/-- The allocation rows of an account. -/
def Account.owns : Account → ℕ × ℕ → Bool
  | .payment id, key => key.1 = id
  | .invoice id, key => key.2 = id

def Account.row : Account → Row
  | .payment id => .payment id
  | .invoice id => .invoice id

namespace Write

def gain : Write → Account → ℤ
  | .insertAllocation key row, i => if i.owns key then row.amount else 0
  | .setInvoice .., _ => 0
  | .setPayment .., _ => 0

def sets : Write → Account → Option ℤ
  | .setInvoice id amountPaid _, .invoice id' => if id' = id then some amountPaid else none
  | .setPayment id amountAllocated, .payment id' => if id' = id then some amountAllocated else none
  | _, _ => none

end Write

/-- A write moves the total it sets, and no limit. -/
theorem account_applyWrite (b : Books) (w : Write) (i : Account) :
    (applyWrite b w).account i = (b.account i).map fun x => ((w.sets i).getD x.1, x.2) := by
  cases w with
  | insertAllocation key row => cases i <;> simp [applyWrite, Books.account, Write.sets, Function.comp_def]
  | setInvoice id amountPaid status =>
    cases i with
    | payment id' => simp [applyWrite, Books.account, Write.sets, Function.comp_def]
    | invoice id' =>
      simp only [applyWrite, Books.account, Write.sets, Table.get?_modify]
      split <;> simp [Function.comp_def, Invoice.setPaid]
  | setPayment id amountAllocated =>
    cases i with
    | payment id' =>
      simp only [applyWrite, Books.account, Write.sets, Table.get?_modify]
      split <;> simp [Function.comp_def, Payment.setAllocated]
    | invoice id' => simp [applyWrite, Books.account, Write.sets, Function.comp_def]

theorem limit_applyWrite (b : Books) (w : Write) (i : Account) : (applyWrite b w).limit i = b.limit i := by
  rw [Books.limit, account_applyWrite, Option.map_map]
  rfl

def totalLaw : TotalLaw allocationSystem Account where
  present b i := (b.account i).isSome
  stored b i := (b.stored i).getD 0
  sum b i := sumRows b.allocations i.owns
  limit b i := (b.limit i).getD 0
  key := Account.row
  gain := Write.gain
  sets := Write.sets
  present_apply := by
    intro b w i
    show (applyWrite b w |>.account i).isSome ↔ _
    rw [account_applyWrite, Option.isSome_map]
  stored_apply := by
    intro b w i h
    obtain ⟨x, hx⟩ := Option.isSome_iff_exists.1 h
    show ((applyWrite b w).stored i).getD 0 = _
    rw [Books.stored, Books.stored, account_applyWrite, hx]
    rfl
  sum_apply := by
    intro b w i
    cases w with
    | insertAllocation key row =>
      show sumRows (b.allocations ++ [(key, row)]) i.owns = _
      rw [sumRows_append, add_right_inj]
      by_cases h : i.owns key <;> simp [sumRows, Write.gain, h]
    | setInvoice id amountPaid status => exact (add_zero _).symm
    | setPayment id amountAllocated => exact (add_zero _).symm
  limit_apply := by
    intro b w i
    show ((applyWrite b w).limit i).getD 0 = _
    rw [limit_applyWrite]

/-- No update of a total finds another one than the request read. -/
def NoStaleWrite : Loc → Books → Prop
  | .insertAllocation p _ _, b => ∀ d ∈ p.dirty, b.stored (.invoice d.invoiceId) = some d.invoice.amountPaid
  | .flush p, b =>
    match p.dirty with
    | some d => b.stored (.invoice d.invoiceId) = some d.invoice.amountPaid
    | none => b.stored (.payment p.args.paymentId) = some p.payment.amountAllocated
  | _, _ => True

instance : ∀ l b, Decidable (NoStaleWrite l b)
  | .insertAllocation p _ _, b =>
    inferInstanceAs (Decidable (∀ d ∈ p.dirty, b.stored (.invoice d.invoiceId) = some d.invoice.amountPaid))
  | .flush ⟨_, _, _, some d⟩, b =>
    inferInstanceAs (Decidable (b.stored (.invoice d.invoiceId) = some d.invoice.amountPaid))
  | .flush ⟨a, payment, _, none⟩, b =>
    inferInstanceAs (Decidable (b.stored (.payment a.paymentId) = some payment.amountAllocated))
  | .readPayment _, _ | .readInvoice _, _ | .readAllocation .., _ | .done, _ => inferInstanceAs (Decidable True)

/-! What a request knows of what it has read, and what it owes the totals. -/

def cents (items : List PaymentAllocationItem) : ℤ := (items.map fun i => toCents i.amount).sum

/-- An amount that fits between a total and its limit, both as they were read. -/
structure FitsBetween (b : Books) (i : Account) (stored limit : ℤ) (amount : ℚ) : Prop where
  limit_eq : b.limit i = some limit
  nonneg : 0 ≤ stored
  le : stored ≤ limit
  fits : limit.natAbs < 10 ^ 18
  amount_nonneg : 0 ≤ amount
  amount_le : amount ≤ sub (ofCents limit) (ofCents stored)

structure Paying.Ok (b : Books) (d : Paying) : Prop where
  twoDecimals : TwoDecimals d.amount
  room : FitsBetween b (.invoice d.invoiceId) d.invoice.amountPaid d.invoice.total d.amount

structure Progress.Ok (b : Books) (p : Progress) : Prop where
  twoDecimals : ∀ i ∈ p.args.payload.allocations, TwoDecimals i.amount
  rest : ∀ i ∈ p.rest, TwoDecimals i.amount
  room : FitsBetween b (.payment p.args.paymentId) p.payment.amountAllocated p.payment.amount
    (sumAmounts p.args.payload.allocations)
  dirty : ∀ d ∈ p.dirty, d.Ok b

def Knows (b : Books) : Loc → Prop
  | .readPayment a => ∀ i ∈ a.payload.allocations, TwoDecimals i.amount
  | .readInvoice p => p.Ok b
  | .readAllocation p item invoice => p.Ok b ∧ Paying.Ok b ⟨item.invoiceId, invoice, item.amount⟩
  | .insertAllocation p item invoice => p.Ok b ∧ Paying.Ok b ⟨item.invoiceId, invoice, item.amount⟩
  | .flush p => p.Ok b
  | .done => True

/-- What the inserted rows of the request add to the accounts, and no total counts
yet; `pending` is what its items still have to add. -/
def Progress.debt (p : Progress) (pending : ℤ) : Account → ℤ
  | .payment id => if id = p.args.paymentId then cents p.args.payload.allocations - pending else 0
  | .invoice id =>
    match p.dirty with
    | some d => if id = d.invoiceId then toCents d.amount else 0
    | none => 0

def debt : Loc → Account → ℤ
  | .readPayment _ => fun _ => 0
  | .readInvoice p => p.debt (cents p.rest)
  | .readAllocation p item _ => p.debt (cents (item :: p.rest))
  | .insertAllocation p item _ => p.debt (cents (item :: p.rest))
  | .flush p => p.debt 0
  | .done => fun _ => 0

theorem cents_cons (item : PaymentAllocationItem) (items : List PaymentAllocationItem) :
    cents (item :: items) = toCents item.amount + cents items := by
  rw [cents, List.map_cons, List.sum_cons]
  rfl

theorem fitsBetween_iff {b b' : Books} {i : Account} (h : b'.limit i = b.limit i) {stored limit : ℤ}
    {amount : ℚ} : FitsBetween b' i stored limit amount ↔ FitsBetween b i stored limit amount := by
  constructor
  · intro hf
    exact ⟨h ▸ hf.limit_eq, hf.nonneg, hf.le, hf.fits, hf.amount_nonneg, hf.amount_le⟩
  · intro hf
    exact ⟨h ▸ hf.limit_eq, hf.nonneg, hf.le, hf.fits, hf.amount_nonneg, hf.amount_le⟩

theorem paying_ok_applyWrite (b : Books) (w : Write) (d : Paying) : d.Ok (applyWrite b w) ↔ d.Ok b := by
  constructor
  · intro h
    exact ⟨h.twoDecimals, (fitsBetween_iff (limit_applyWrite b w _)).1 h.room⟩
  · intro h
    exact ⟨h.twoDecimals, (fitsBetween_iff (limit_applyWrite b w _)).2 h.room⟩

theorem progress_ok_applyWrite (b : Books) (w : Write) (p : Progress) : p.Ok (applyWrite b w) ↔ p.Ok b := by
  constructor
  · intro h
    exact ⟨h.twoDecimals, h.rest, (fitsBetween_iff (limit_applyWrite b w _)).1 h.room,
      fun d hd => (paying_ok_applyWrite b w d).1 (h.dirty d hd)⟩
  · intro h
    exact ⟨h.twoDecimals, h.rest, (fitsBetween_iff (limit_applyWrite b w _)).2 h.room,
      fun d hd => (paying_ok_applyWrite b w d).2 (h.dirty d hd)⟩

theorem knows_applyWrite (b : Books) (w : Write) (l : Loc) : Knows (applyWrite b w) l ↔ Knows b l := by
  cases l <;> simp only [Knows, progress_ok_applyWrite, paying_ok_applyWrite]

/-! What the guards and the updates of a request establish. -/

/-- Every limit fits its column. -/
def LimitsFit (b : Books) : Prop := ∀ i x, b.limit i = some x → x.natAbs < 10 ^ 18

theorem stored_of_get {b : Books} {i : Account} {x : ℤ × ℤ} (h : b.account i = some x) :
    (b.stored i = some x.1) ∧ b.limit i = some x.2 := by
  rw [Books.stored, Books.limit, h]
  exact ⟨rfl, rfl⟩

/-- What `Sound` says of an account that is there. -/
theorem sound_account {b : Books} (hb : totalLaw.Sound b) {i : Account} {x : ℤ × ℤ} (h : b.account i = some x) :
    0 ≤ x.1 ∧ x.1 ≤ x.2 := by
  obtain ⟨hs, hl⟩ := stored_of_get h
  have := hb i (by show (b.account i).isSome = true; rw [h]; rfl)
  have hs' : totalLaw.stored b i = x.1 := by show (b.stored i).getD 0 = _; rw [hs]; rfl
  have hl' : totalLaw.limit b i = x.2 := by show (b.limit i).getD 0 = _; rw [hl]; rfl
  rwa [hs', hl'] at this

theorem checkPayment_ok {a : AllocateArgs} {b : Books} {payment : Payment} (hE : LimitsFit b)
    (hb : totalLaw.Sound b) (h : checkPayment a b = .ok payment) :
    FitsBetween b (.payment a.paymentId) payment.amountAllocated payment.amount
      (sumAmounts a.payload.allocations) := by
  simp only [checkPayment, bind_eq_ok, orRaise_eq_ok, raiseIf_eq_ok, pure_eq_ok, Option.filter_eq_some_iff,
    gt_iff_lt, not_lt] at h
  obtain ⟨p, ⟨hp, -⟩, -, -, -, hle, rfl⟩ := h
  have hacc : b.account (.payment a.paymentId) = some (p.amountAllocated, p.amount) := by
    rw [Books.account, hp]; rfl
  obtain ⟨-, hlimit⟩ := stored_of_get hacc
  obtain ⟨h0, h1⟩ := sound_account hb hacc
  exact ⟨hlimit, h0, h1, hE _ _ hlimit, sumAmounts_nonneg _, hle⟩

theorem checkInvoice_ok {a : AllocateArgs} {item : PaymentAllocationItem} {b : Books} {invoice : Invoice}
    (hE : LimitsFit b) (hb : totalLaw.Sound b) (h : checkInvoice a item b = .ok invoice) :
    FitsBetween b (.invoice item.invoiceId) invoice.amountPaid invoice.total item.amount := by
  simp only [checkInvoice, bind_eq_ok, orRaise_eq_ok, raiseIf_eq_ok, pure_eq_ok, Option.filter_eq_some_iff,
    gt_iff_lt, not_lt] at h
  obtain ⟨i, ⟨hi, -⟩, -, -, -, hle, rfl⟩ := h
  have hacc : b.account (.invoice item.invoiceId) = some (i.amountPaid, i.total) := by
    rw [Books.account, hi]; rfl
  obtain ⟨-, hlimit⟩ := stored_of_get hacc
  obtain ⟨h0, h1⟩ := sound_account hb hacc
  exact ⟨hlimit, h0, h1, hE _ _ hlimit, item.amount_pos.le, hle⟩

/-- The total a request writes is the one it read plus its amount, and within the limit. -/
theorem FitsBetween.toCents_add {b : Books} {i : Account} {stored limit : ℤ} {amount : ℚ}
    (h : FitsBetween b i stored limit amount) (hdec : TwoDecimals amount) :
    toCents (add (ofCents stored) amount) = stored + toCents amount ∧
      stored + toCents amount ≤ limit ∧ 0 ≤ toCents amount := by
  have hle := h.amount_le
  rw [sub_ofCents h.fits (by have := h.nonneg; have := h.le; have := h.fits; omega)] at hle
  refine ⟨toCents_add_twoDecimals h.nonneg h.amount_nonneg hdec h.fits hle, ?_, toCents_nonneg h.amount_nonneg⟩
  rw [hdec] at hle
  simp only [ofCents] at hle
  have hq : ((stored + toCents amount : ℤ) : ℚ) ≤ limit := by push_cast; linarith
  exact_mod_cast hq

theorem FitsBetween.twoDecimals_sum {b : Books} {i : Account} {stored limit : ℤ}
    {items : List PaymentAllocationItem} (h : FitsBetween b i stored limit (sumAmounts items))
    (hdec : ∀ i ∈ items, TwoDecimals i.amount) :
    TwoDecimals (sumAmounts items) ∧ toCents (sumAmounts items) = cents items := by
  have hle := h.amount_le
  rw [sub_ofCents h.fits (by have := h.nonneg; have := h.le; have := h.fits; omega)] at hle
  have hsum : sumAmounts items = ofCents (cents items) := by
    refine sumAmounts_eq hdec ?_
    have := ofCents_lt h.fits
    have := ofCents_nonneg h.nonneg
    linarith
  have hc : toCents (sumAmounts items) = cents items := by rw [hsum, toCents_ofCents]
  refine ⟨?_, hc⟩
  rw [TwoDecimals, hc]
  exact hsum

/-! Each statement pays exactly what it owes. -/

theorem pays_insert {p : Progress} {item : PaymentAllocationItem} {invoice : Invoice} {v : Books}
    {locks : List (Row × LockMode)} {row : PaymentAllocation} (hclean : p.dirty = none)
    (h : newAllocation p.args item v = .ok row) :
    totalLaw.Pays v locks [.insertAllocation (p.args.paymentId, item.invoiceId) row]
      (debt (.insertAllocation p item invoice)) (debt (.readInvoice (p.pay item invoice))) := by
  simp only [newAllocation, bind_eq_ok, raiseIf_eq_ok, pure_eq_ok] at h
  obtain ⟨amount, hamount, -, -, rfl⟩ := h
  obtain ⟨rfl, -⟩ := moneyColumn_ok hamount
  refine totalLaw.pays_gain (fun i => by cases i <;> rfl) fun i => ?_
  cases i with
  | payment id =>
    by_cases hid : id = p.args.paymentId
    · simp only [debt, Progress.debt, Progress.pay, cents_cons, totalLaw, Write.gain, Account.owns, hid.symm,
        decide_true, if_true]
      omega
    · simp [debt, Progress.debt, Progress.pay, totalLaw, Write.gain, Account.owns, hid, Ne.symm hid]
  | invoice id =>
    by_cases hid : id = item.invoiceId
    · simp [debt, Progress.debt, Progress.pay, totalLaw, Write.gain, Account.owns, hid, hclean]
    · simp [debt, Progress.debt, Progress.pay, totalLaw, Write.gain, Account.owns, hid, Ne.symm hid, hclean]

/-- A total that a request read is there, with its limit. -/
theorem FitsBetween.present {b : Books} {i : Account} {stored limit : ℤ} {amount : ℚ}
    (h : FitsBetween b i stored limit amount) : totalLaw.present b i ∧ totalLaw.limit b i = limit := by
  refine ⟨?_, ?_⟩
  · have := h.limit_eq
    rw [Books.limit, Option.map_eq_some_iff] at this
    obtain ⟨x, hx, -⟩ := this
    show (b.account i).isSome = true
    rw [hx]
    rfl
  · show (b.limit i).getD 0 = limit
    rw [h.limit_eq]
    rfl

theorem pays_invoice {p : Progress} {d : Paying} {v : Books} {today pending : ℤ} {w : Write}
    (hd : d.Ok v) (hdirty : p.dirty = some d)
    (hfresh : v.stored (.invoice d.invoiceId) = some d.invoice.amountPaid) (h : d.update today = .ok w) :
    totalLaw.Pays v [(.invoice d.invoiceId, .noKeyUpdate)] [w] (p.debt pending) (p.clean.debt pending) := by
  simp only [Paying.update, bind_eq_ok, pure_eq_ok] at h
  obtain ⟨amountPaid, hamount, rfl⟩ := h
  obtain ⟨rfl, -⟩ := moneyColumn_ok hamount
  obtain ⟨hsum, hle, hnn⟩ := hd.room.toCents_add hd.twoDecimals
  obtain ⟨hp, hlimit⟩ := hd.room.present
  have h0 := hd.room.nonneg
  have hstored : totalLaw.stored v (.invoice d.invoiceId) = d.invoice.amountPaid := by
    show (v.stored _).getD 0 = _
    rw [hfresh]; rfl
  refine totalLaw.pays_set (.inl rfl) List.mem_cons_self hp (if_pos rfl) (fun i hi => ?_)
    (fun i => by cases i <;> rfl) ?_ (fun i hi => ?_) ?_ ?_
  · cases i with
    | payment id => rfl
    | invoice id => exact if_neg fun he => hi (by rw [he])
  · rw [hsum, hstored]
    simp [Progress.debt, Progress.clean, hdirty]
  · cases i with
    | payment id => rfl
    | invoice id =>
      have hid : id ≠ d.invoiceId := fun he => hi (by rw [he])
      simp [Progress.debt, Progress.clean, hdirty, hid]
  · omega
  · rw [hsum, hlimit]; exact hle

theorem pays_payment {p : Progress} {v : Books} {w : Write} (hp : p.Ok v) (hdirty : p.dirty = none)
    (hfresh : v.stored (.payment p.args.paymentId) = some p.payment.amountAllocated) (h : p.update = .ok w) :
    totalLaw.Pays v [(.payment p.args.paymentId, .noKeyUpdate)] [w] (debt (.flush p)) (debt .done) := by
  simp only [Progress.update, bind_eq_ok, pure_eq_ok] at h
  obtain ⟨amountAllocated, hamount, rfl⟩ := h
  obtain ⟨rfl, -⟩ := moneyColumn_ok hamount
  obtain ⟨hdec, hcents⟩ := hp.room.twoDecimals_sum hp.twoDecimals
  obtain ⟨hsum, hle, hnn⟩ := hp.room.toCents_add hdec
  obtain ⟨hpresent, hlimit⟩ := hp.room.present
  have h0 := hp.room.nonneg
  have hstored : totalLaw.stored v (.payment p.args.paymentId) = p.payment.amountAllocated := by
    show (v.stored _).getD 0 = _
    rw [hfresh]; rfl
  refine totalLaw.pays_set (.inl rfl) List.mem_cons_self hpresent (if_pos rfl) (fun i hi => ?_)
    (fun i => by cases i <;> rfl) ?_ (fun i hi => ?_) ?_ ?_
  · cases i with
    | payment id => exact if_neg fun he => hi (by rw [he])
    | invoice id => rfl
  · rw [hsum, hstored, hcents]
    simp [debt, Progress.debt]
  · cases i with
    | payment id =>
      have hid : id ≠ p.args.paymentId := fun he => hi (by rw [he])
      simp [debt, Progress.debt, hid]
    | invoice id => simp [debt, Progress.debt, hdirty]
  · omega
  · rw [hsum, hlimit]; exact hle

theorem Progress.Ok.clean {b : Books} {p : Progress} (h : p.Ok b) : p.clean.Ok b :=
  ⟨h.twoDecimals, h.rest, h.room, fun _ hd => nomatch hd⟩

theorem next_commit {l : Loc} {v : Books} {r : Option Loc} (h : next l v = .commit r) : l = .done := by
  revert h
  fun_cases next l v <;> intro h <;> cases h
  rfl

theorem next_closed {l : Loc} {v : Books} {r : Option Loc}
    (h : next l v = .rollback r ∨ next l v = .commit r) : r = none := by
  revert h
  fun_cases next l v <;> intro h <;> rcases h with h | h <;> cases h <;> rfl

/-- Requests with amounts of two decimals keep the totals, as long as no update finds
another total than its request read. -/
theorem respects_totalLaw : totalLaw.Respects NoStaleWrite LimitsFit Knows debt where
  env := by
    intro b w h i x hx
    rw [show (allocationSystem.apply b w).limit i = b.limit i from limit_applyWrite b w i] at hx
    exact h i x hx
  stable := knows_applyWrite
  exec := by
    intro l v locks ws l' hE hb hQ hC hn
    cases l with
    | readPayment a =>
      simp only [allocationSystem, next] at hn
      split at hn <;> cases hn
      rename_i payment hok
      have hroom := checkPayment_ok hE hb hok
      refine ⟨⟨hQ, hQ, hroom, fun _ hd => nomatch hd⟩, ?_⟩
      have hzero : debt (.readInvoice ⟨a, payment, a.payload.allocations, none⟩) = fun _ => 0 := by
        funext i
        cases i <;> simp [debt, Progress.debt]
      rw [hzero]
      exact totalLaw.pays_nothing v [] _
    | readInvoice p =>
      obtain ⟨a, payment, rest, dirty⟩ := p
      cases rest with
      | nil =>
        cases hn
        exact ⟨hQ, totalLaw.pays_nothing v [] _⟩
      | cons item rest =>
        simp only [allocationSystem, next] at hn
        split at hn <;> cases hn
        rename_i invoice hok
        have hroom := checkInvoice_ok hE hb hok
        have hdec := hQ.rest item List.mem_cons_self
        refine ⟨⟨⟨hQ.twoDecimals, fun i hi => hQ.rest i (List.mem_cons_of_mem _ hi), hQ.room, hQ.dirty⟩,
          hdec, hroom⟩, ?_⟩
        exact totalLaw.pays_nothing v [] _
    | readAllocation p item invoice =>
      simp only [allocationSystem, next] at hn
      split at hn <;> cases hn
      exact ⟨hQ, totalLaw.pays_nothing v [] _⟩
    | insertAllocation p item invoice =>
      simp only [allocationSystem, next] at hn
      obtain ⟨hp, hitem⟩ := hQ
      split at hn
      · rename_i d hd
        split at hn <;> cases hn
        rename_i w hw
        exact ⟨⟨hp.clean, hitem⟩, pays_invoice (hp.dirty d hd) hd (hC d hd) hw⟩
      · rename_i hd
        split at hn <;> cases hn
        rename_i row hrow
        refine ⟨⟨hp.twoDecimals, hp.rest, hp.room, fun d h => ?_⟩, pays_insert hd hrow⟩
        obtain rfl := Option.some.inj h
        exact hitem
    | flush p =>
      simp only [allocationSystem, next] at hn
      simp only [NoStaleWrite] at hC
      split at hn
      · rename_i d hd
        rw [hd] at hC
        split at hn <;> cases hn
        rename_i w hw
        exact ⟨hQ.clean, pays_invoice (hQ.dirty d hd) hd hC hw⟩
      · rename_i hd
        rw [hd] at hC
        split at hn <;> cases hn
        rename_i w hw
        exact ⟨trivial, pays_payment hQ hd hC hw⟩
    | done => cases hn
  commit := by
    intro l v l' _ hn
    obtain rfl := next_closed (.inr hn)
    refine ⟨?_, fun l₁ h₁ => nomatch h₁⟩
    obtain rfl := next_commit hn
    exact fun i => rfl
  rollback := by
    intro l v l' _ hn l₁ h₁
    rw [next_closed (.inl hn)] at h₁
    cases h₁

theorem Inv.limitsFit {s : State} (h : Inv s) : LimitsFit s.books := by
  intro i x hx
  rw [Books.limit, Option.map_eq_some_iff] at hx
  obtain ⟨y, hy, rfl⟩ := hx
  cases i with
  | payment id =>
    obtain ⟨p, hp, rfl⟩ := Option.map_eq_some_iff.1 hy
    exact (h.payment id p hp).fits
  | invoice id =>
    obtain ⟨i, hi, rfl⟩ := Option.map_eq_some_iff.1 hy
    exact (h.invoice id i hi).fits

theorem account_of_present {b : Books} {i : Account} (h : totalLaw.present b i) :
    ∃ x, b.account i = some x ∧ totalLaw.stored b i = x.1 ∧ totalLaw.limit b i = x.2 := by
  obtain ⟨x, hx⟩ := Option.isSome_iff_exists.1 h
  obtain ⟨hs, hl⟩ := stored_of_get hx
  refine ⟨x, hx, ?_, ?_⟩
  · show (b.stored i).getD 0 = _
    rw [hs]; rfl
  · show (b.limit i).getD 0 = _
    rw [hl]; rfl

/-- The ledger of the sequential service is one the law accepts. -/
theorem Inv.totals {s : State} (h : Inv s) : totalLaw.Sound s.books ∧ totalLaw.Balanced s.books := by
  have hall : ∀ i x, s.books.account i = some x →
      0 ≤ x.1 ∧ x.1 ≤ x.2 ∧ x.1 = sumRows s.allocations.rows i.owns := by
    intro i x hx
    cases i with
    | payment id =>
      obtain ⟨p, hp, rfl⟩ := Option.map_eq_some_iff.1 hx
      have hok := h.payment id p hp
      exact ⟨hok.nonneg, hok.le, hok.agrees⟩
    | invoice id =>
      obtain ⟨i, hi, rfl⟩ := Option.map_eq_some_iff.1 hx
      have hok := h.invoice id i hi
      exact ⟨hok.nonneg, hok.le, hok.agrees⟩
  refine ⟨fun i hp => ?_, fun i hp => ?_⟩
  · obtain ⟨x, hx, hs, hl⟩ := account_of_present hp
    obtain ⟨h0, hle, -⟩ := hall i x hx
    rw [hs, hl]
    exact ⟨h0, hle⟩
  · obtain ⟨x, hx, hs, -⟩ := account_of_present hp
    rw [hs]
    exact (hall i x hx).2.2

theorem conserved_of_totals {b : Books} (hsound : totalLaw.Sound b) (hbal : totalLaw.Balanced b) :
    b.Conserved := by
  have hall : ∀ i x, b.account i = some x → x.1 = sumRows b.allocations i.owns ∧ x.1 ≤ x.2 := by
    intro i x hx
    have hp : totalLaw.present b i := by show (b.account i).isSome = true; rw [hx]; rfl
    obtain ⟨y, hy, hs, -⟩ := account_of_present hp
    obtain rfl := Option.some.inj (hx.symm.trans hy)
    refine ⟨?_, (sound_account hsound hx).2⟩
    rw [← hs]
    exact hbal i hp
  refine ⟨fun id p hp => ?_, fun id i hi => ?_⟩
  · exact hall (.payment id) (p.amountAllocated, p.amount) (by rw [Books.account, hp]; rfl)
  · exact hall (.invoice id) (i.amountPaid, i.total) (by rw [Books.account, hi]; rfl)

/-- Requests about to start on the books of a ledger. -/
def State.concurrently (s : State) (requests : List AllocateArgs) : World Books Write Row Loc :=
  ⟨s.books, (requests.map Loc.readPayment).map .fresh, []⟩

/-- No allocation is lost, when no update finds another total than its request read:
however the requests interleave, every committed total is the sum of the committed
allocation rows, and within its amount. -/
theorem no_lost_allocation (s : State) (hs : Inv s) (requests : List AllocateArgs)
    (hdec : ∀ a ∈ requests, ∀ i ∈ a.payload.allocations, TwoDecimals i.amount) (evs : List Event)
    (w : World Books Write Row Loc)
    (h : Run (Restrict (allocationSystem.When NoStaleWrite) allocationSystem.Step) (s.concurrently requests) evs w) :
    w.db.Conserved := by
  obtain ⟨hsound, hbal⟩ := hs.totals
  have hls : ∀ l ∈ requests.map Loc.readPayment, Knows s.books l ∧ ∀ i, debt l i = 0 := by
    intro l hl
    obtain ⟨a, ha, rfl⟩ := List.mem_map.1 hl
    exact ⟨hdec a ha, fun i => rfl⟩
  obtain ⟨hsound', hbal'⟩ := respects_totalLaw.run hs.limitsFit hsound hbal hls h
  exact conserved_of_totals hsound' hbal'

section Examples

/-- Two invoices and a payment of 10.00, nothing allocated. -/
def demoUnpaid : State := ((demoOps 1 one_pos).take 3).foldl (settle exec) demoState.noBooks

theorem inv_demoUnpaid : Inv demoUnpaid := by
  have hrun : Run (Restrict RoundsCleanly (CallStep exec)) demoState.noBooks ((demoOps 1 one_pos).take 3)
      demoUnpaid :=
    Run.cons ⟨by decide +kernel, rfl⟩ (Run.cons ⟨by decide +kernel, rfl⟩ (Run.single ⟨trivial, rfl⟩))
  exact (Inv.noBooks demoState).run hrun

def demoAllocate (invoiceId : ℕ) (amount : ℚ) (h : 0 < amount) : AllocateArgs :=
  ⟨demoCaller, demoClock, 3, ⟨[⟨invoiceId, amount, none, h⟩], by simp⟩⟩

/-- 4.00 of the payment to one invoice, and 6.00 to the other. -/
def demoRequests : List AllocateArgs :=
  [demoAllocate 1 4 (by norm_num), demoAllocate 2 6 (by norm_num)]

/-- Both requests read the payment before either updates it: the second update
forgets the first. -/
theorem allocation_lost : ∃ evs w, Run allocationSystem.Step (demoUnpaid.concurrently demoRequests) evs w ∧
    Inv demoUnpaid ∧ (∀ s ∈ w.sessions, s.loc.isNone = true) ∧ ¬ w.db.Conserved := by
  let evs : List Event := .turn 0 :: (List.replicate 8 (.turn 1) ++ List.replicate 7 (.turn 0))
  have hrun : (execute? (fun _ _ => True) allocationSystem.step? (demoUnpaid.concurrently demoRequests) evs).map
      (fun w => (w.sessions.all fun s => s.loc.isNone, (w.db.payments.get? 3).map (·.amountAllocated),
        sumRows w.db.allocations fun k => k.1 = 3)) = some (true, some 400, 1000) := by
    decide +kernel
  obtain ⟨w, hw, hdb⟩ := Option.map_eq_some_iff.1 hrun
  simp only [Prod.mk.injEq] at hdb
  obtain ⟨hdone, hpaid, hsum⟩ := hdb
  refine ⟨evs, w, (Run.of_execute? hw).of_restrict, inv_demoUnpaid, List.all_eq_true.1 hdone, fun hc => ?_⟩
  obtain ⟨p, hp, hp4⟩ := Option.map_eq_some_iff.1 hpaid
  have := (hc.1 3 p hp).1
  omega

/-- The theorem at the two requests made one after the other. -/
theorem no_lost_allocation_serial : ∃ evs w,
    Run (Restrict (allocationSystem.When NoStaleWrite) allocationSystem.Step)
      (demoUnpaid.concurrently demoRequests) evs w ∧
    (w.db.payments.get? 3).map (·.amountAllocated) = some 1000 ∧ w.db.Conserved := by
  let evs : List Event := List.replicate 8 (.turn 0) ++ List.replicate 8 (.turn 1)
  have hrun : (execute? (allocationSystem.When NoStaleWrite) allocationSystem.step?
      (demoUnpaid.concurrently demoRequests) evs).map
      (fun w => (w.db.payments.get? 3).map (·.amountAllocated)) = some (some 1000) := by
    decide +kernel
  obtain ⟨w, hw, hpaid⟩ := Option.map_eq_some_iff.1 hrun
  refine ⟨evs, w, Run.of_execute? hw, hpaid, no_lost_allocation demoUnpaid inv_demoUnpaid demoRequests ?_ evs w
    (Run.of_execute? hw)⟩
  decide +kernel

end Examples

end CoreOps.Finance
