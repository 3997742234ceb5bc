import Mathlib.Algebra.Order.BigOperators.Group.List
import CoreOps.Lib.Runs
import CoreOps.Finance.Service

/-! The ledger adds up. The totals kept on payments and invoices are compared with
the allocation rows they stand for. An allocation request rounds each item on its
row, but the totals it adds to only after the sum, so the two agree exactly when
the roundings do; and an invoice whose lines sum below zero starts out overpaid.
Away from these two the ledger is kept by every call. -/

namespace CoreOps.Finance

open Checked

inductive Op
  | createInvoice (caller : Caller) (clock : Clock) (invoiceId : ℕ) (payload : InvoiceCreate)
  | updateInvoice (caller : Caller) (clock : Clock) (invoiceId : ℕ) (payload : InvoiceUpdate)
  | createPayment (caller : Caller) (clock : Clock) (paymentId : ℕ) (payload : PaymentCreate)
  | allocatePayment (caller : Caller) (clock : Clock) (paymentId : ℕ) (payload : PaymentAllocateRequest)

def exec (s : State) : Op → Except FinanceError State
  | .createInvoice caller clock invoiceId payload => createInvoice caller clock invoiceId payload s
  | .updateInvoice caller clock invoiceId payload => updateInvoice caller clock invoiceId payload s
  | .createPayment caller clock paymentId payload => createPayment caller clock paymentId payload s
  | .allocatePayment caller clock paymentId payload => allocatePayment caller clock paymentId payload s

/-- The stored amounts of the allocation rows whose key `p` accepts. -/
def sumRows (rows : List ((ℕ × ℕ) × PaymentAllocation)) (p : ℕ × ℕ → Bool) : ℤ :=
  ((rows.filter fun r => p r.1).map (·.2.amount)).sum

def allocatedOf (s : State) (paymentId : ℕ) : ℤ := sumRows s.allocations.rows fun k => k.1 = paymentId

def paidOf (s : State) (invoiceId : ℕ) : ℤ := sumRows s.allocations.rows fun k => k.2 = invoiceId

/-- Every payment and every invoice agrees with its allocation rows and is not
allocated or paid beyond its amount. -/
def Conserved (s : State) : Prop :=
  (∀ id p, s.payments.get? id = some p →
    p.amountAllocated = allocatedOf s id ∧ p.amountAllocated ≤ p.amount) ∧
  ∀ id i, s.invoices.get? id = some i → i.amountPaid = paidOf s id ∧ i.amountPaid ≤ i.total

theorem sumRows_append (rows rows' : List ((ℕ × ℕ) × PaymentAllocation)) (p : ℕ × ℕ → Bool) :
    sumRows (rows ++ rows') p = sumRows rows p + sumRows rows' p := by
  simp only [sumRows, List.filter_append, List.map_append, List.sum_append]

theorem sumRows_eq_zero {rows : List ((ℕ × ℕ) × PaymentAllocation)} {p : ℕ × ℕ → Bool}
    (h : ∀ r ∈ rows, p r.1 = false) : sumRows rows p = 0 := by
  rw [sumRows, List.filter_eq_nil_iff.2 fun r hr => by simp [h r hr]]
  rfl

structure PaymentOk (s : State) (id : ℕ) (p : Payment) : Prop where
  agrees : p.amountAllocated = allocatedOf s id
  nonneg : 0 ≤ p.amountAllocated
  le : p.amountAllocated ≤ p.amount
  fits : p.amount.natAbs < 10 ^ 18

structure InvoiceOk (s : State) (id : ℕ) (i : Invoice) : Prop where
  agrees : i.amountPaid = paidOf s id
  nonneg : 0 ≤ i.amountPaid
  le : i.amountPaid ≤ i.total
  fits : i.total.natAbs < 10 ^ 18

structure Inv (s : State) : Prop where
  payment : ∀ id p, s.payments.get? id = some p → PaymentOk s id p
  invoice : ∀ id i, s.invoices.get? id = some i → InvoiceOk s id i
  refs : ∀ k a, s.allocations.get? k = some a →
    (s.payments.get? k.1).isSome ∧ (s.invoices.get? k.2).isSome

theorem Inv.conserved {s : State} (h : Inv s) : Conserved s :=
  ⟨fun id p hp => ⟨(h.payment id p hp).agrees, (h.payment id p hp).le⟩,
    fun id i hi => ⟨(h.invoice id i hi).agrees, (h.invoice id i hi).le⟩⟩

/-- Nothing is allocated to an invoice that does not exist. -/
theorem Inv.paidOf_eq_zero {s : State} (h : Inv s) {id : ℕ} (hn : s.invoices.get? id = none) :
    paidOf s id = 0 := by
  refine sumRows_eq_zero fun r hr => ?_
  by_contra hk
  have hid : r.1.2 = id := by simpa using hk
  have := (h.refs r.1 r.2 (Table.mem_rows.1 hr)).2
  rw [hid, hn] at this
  cases this

theorem Inv.allocatedOf_eq_zero {s : State} (h : Inv s) {id : ℕ} (hn : s.payments.get? id = none) :
    allocatedOf s id = 0 := by
  refine sumRows_eq_zero fun r hr => ?_
  by_contra hk
  have hid : r.1.1 = id := by simpa using hk
  have := (h.refs r.1 r.2 (Table.mem_rows.1 hr)).1
  rw [hid, hn] at this
  cases this

/-! What one request's loop does. -/

/-- The allocation row of an item. -/
def allocationRow (tenantId paymentId : ℕ) (i : PaymentAllocationItem) : (ℕ × ℕ) × PaymentAllocation :=
  ((paymentId, i.invoiceId), ⟨tenantId, toCents i.amount, i.notes⟩)

section Loop

variable {caller : Caller} {clock : Clock} {paymentId : ℕ}

/-- An accepted item adds its row and pays its invoice, as it found them. -/
theorem allocateItem_ok {s s' : State} {t t' : Touched} {item : PaymentAllocationItem}
    (h : allocateItem caller clock paymentId (s, t) item = .ok (s', t')) :
    ∃ i, s.invoices.get? item.invoiceId = some i ∧ i.tenantId = caller.tenantId ∧
      item.amount ≤ sub (ofCents i.total) (sessionPaid t item.invoiceId i) ∧
      s.allocations.get? (paymentId, item.invoiceId) = none ∧
      s' = { s with
        allocations := s.allocations.insert (paymentId, item.invoiceId)
          (allocationRow caller.tenantId paymentId item).2
        invoices := s.invoices.modify item.invoiceId
          (payInvoice clock.today (toCents (add (sessionPaid t item.invoiceId i) item.amount))
            (add (sessionPaid t item.invoiceId i) item.amount)) } ∧
      t' = (item.invoiceId, add (sessionPaid t item.invoiceId i) item.amount) :: t := by
  simp only [allocateItem, bind_eq_ok, orRaise_eq_ok, raiseIf_eq_ok, pure_eq_ok, Prod.mk.injEq, getInvoice,
    Option.filter_eq_some_iff, decide_eq_true_eq, Option.not_isSome_iff_eq_none, gt_iff_lt, not_lt] at h
  obtain ⟨i, ⟨hi, ht⟩, -, -, -, hle, -, -, amount, hamount, -, hn, paid, hpaid, hs, htt⟩ := h
  obtain ⟨rfl, -⟩ := moneyColumn_ok hamount
  obtain ⟨rfl, -⟩ := moneyColumn_ok hpaid
  exact ⟨i, hi, ht, hle, hn, hs.symm, htt.symm⟩

/-- What an accepted request does before it updates the payment. -/
structure AllocatesAll (caller : Caller) (clock : Clock) (paymentId : ℕ) (s : State)
    (items : List PaymentAllocationItem) (s' : State) : Prop where
  payments : s'.payments = s.payments
  rows : s'.allocations.rows = s.allocations.rows ++ items.map (allocationRow caller.tenantId paymentId)
  distinct : (items.map (·.invoiceId)).Nodup
  fresh : ∀ item ∈ items, s.allocations.get? (paymentId, item.invoiceId) = none
  paid : ∀ item ∈ items, ∃ i, s.invoices.get? item.invoiceId = some i ∧
    item.amount ≤ sub (ofCents i.total) (ofCents i.amountPaid) ∧
    s'.invoices.get? item.invoiceId = some (payInvoice clock.today
      (toCents (add (ofCents i.amountPaid) item.amount)) (add (ofCents i.amountPaid) item.amount) i)
  others : ∀ id, id ∉ items.map (·.invoiceId) → s'.invoices.get? id = s.invoices.get? id

/-- The loop from a session whose touched invoices are those already allocated:
an invoice named twice is refused, so each is paid as it was stored. -/
theorem allocateItems_ok {items : List PaymentAllocationItem} {s s' : State} {t t' : Touched}
    (ht : ∀ id, (t.lookup id).isSome → (s.allocations.get? (paymentId, id)).isSome)
    (h : items.foldlM (allocateItem caller clock paymentId) (s, t) = .ok (s', t')) :
    AllocatesAll caller clock paymentId s items s' := by
  induction items generalizing s t with
  | nil =>
    rw [List.foldlM_nil, pure_eq_ok, Prod.mk.injEq] at h
    obtain ⟨rfl, -⟩ := h
    exact ⟨rfl, by simp, List.nodup_nil, by simp, by simp, fun _ _ => rfl⟩
  | cons item items ih =>
    rw [List.foldlM_cons, bind_eq_ok] at h
    obtain ⟨⟨s₁, t₁⟩, h₁, h₂⟩ := h
    obtain ⟨i, hi, -, hle, hn, rfl, rfl⟩ := allocateItem_ok h₁
    -- an invoice not allocated to by this payment is not in the session yet
    have hpaid : sessionPaid t item.invoiceId i = ofCents i.amountPaid := by
      have hnone : t.lookup item.invoiceId = none := by
        rw [← Option.not_isSome_iff_eq_none]
        intro hs
        have := ht _ hs
        rw [hn] at this
        cases this
      rw [sessionPaid, hnone, Option.getD_none]
    rw [hpaid] at hle h₂
    have hrest := ih (fun id hid => ?_) h₂
    · have hnotin : item.invoiceId ∉ items.map (·.invoiceId) := by
        intro hmem
        obtain ⟨item', hitem', heq⟩ := List.mem_map.1 hmem
        have := hrest.fresh item' hitem'
        rw [heq, Table.get?_insert_new _ _ _ hn, if_pos rfl] at this
        cases this
      have hne : ∀ item' ∈ items, item'.invoiceId ≠ item.invoiceId := fun item' h' he =>
        hnotin (he ▸ List.mem_map.2 ⟨item', h', rfl⟩)
      refine ⟨hrest.payments, ?_, List.nodup_cons.2 ⟨hnotin, hrest.distinct⟩, ?_, ?_, fun id hid => ?_⟩
      · rw [hrest.rows, Table.rows_insert_new _ _ hn, List.append_assoc]
        rfl
      · intro item' hitem'
        rcases List.mem_cons.1 hitem' with rfl | hitem'
        · exact hn
        · have := hrest.fresh item' hitem'
          rwa [Table.get?_insert_new _ _ _ hn, if_neg (fun he => hne item' hitem' (Prod.mk.inj he).2)] at this
      · intro item' hitem'
        rcases List.mem_cons.1 hitem' with rfl | hitem'
        · refine ⟨i, hi, hle, ?_⟩
          rw [hrest.others _ hnotin, Table.get?_modify_self, hi, Option.map_some]
        · obtain ⟨i', hi', hle', hs'⟩ := hrest.paid item' hitem'
          rw [Table.get?_modify_of_ne _ (hne item' hitem')] at hi'
          exact ⟨i', hi', hle', hs'⟩
      · rw [List.map_cons, List.mem_cons, not_or] at hid
        rw [hrest.others id hid.2, Table.get?_modify_of_ne _ hid.1]
    · rw [Table.get?_insert_new _ _ _ hn]
      split
      · rfl
      · rename_i hne
        have hid' : id ≠ item.invoiceId := fun he => hne (by rw [he])
        have hb : (id == item.invoiceId) = false := by simpa using hid'
        rw [List.lookup_cons, hb] at hid
        exact ht id hid

end Loop

/-- Rounding the new totals gives what rounding each item gives. -/
def RoundsTogether (s : State) (paymentId : ℕ) (items : List PaymentAllocationItem) : Prop :=
  (∀ p ∈ s.payments.get? paymentId, toCents (add (ofCents p.amountAllocated) (sumAmounts items)) =
    p.amountAllocated + (items.map fun i => toCents i.amount).sum) ∧
  ∀ item ∈ items, ∀ i ∈ s.invoices.get? item.invoiceId,
    toCents (add (ofCents i.amountPaid) item.amount) = i.amountPaid + toCents item.amount

section Sums

variable (tenantId paymentId : ℕ) (items : List PaymentAllocationItem)

theorem sumRows_ofPayment (id : ℕ) :
    sumRows (items.map (allocationRow tenantId paymentId)) (fun k => k.1 = id) =
      if id = paymentId then (items.map fun i => toCents i.amount).sum else 0 := by
  split
  · rename_i h
    subst h
    rw [sumRows, List.filter_eq_self.2 (by simp [allocationRow]), List.map_map]
    rfl
  · rename_i h
    exact sumRows_eq_zero (by simp [allocationRow, Ne.symm h])

theorem sumRows_ofInvoice_other {id : ℕ} (h : id ∉ items.map (·.invoiceId)) :
    sumRows (items.map (allocationRow tenantId paymentId)) (fun k => k.2 = id) = 0 := by
  refine sumRows_eq_zero fun r hr => ?_
  obtain ⟨item, hitem, rfl⟩ := List.mem_map.1 hr
  exact decide_eq_false fun he => h (List.mem_map.2 ⟨item, hitem, he⟩)

variable {items}

theorem sumRows_ofInvoice (hd : (items.map (·.invoiceId)).Nodup) {item : PaymentAllocationItem}
    (h : item ∈ items) :
    sumRows (items.map (allocationRow tenantId paymentId)) (fun k => k.2 = item.invoiceId) =
      toCents item.amount := by
  induction items with
  | nil => cases h
  | cons x xs ih =>
    rw [List.map_cons, List.nodup_cons] at hd
    have hsplit : sumRows ((x :: xs).map (allocationRow tenantId paymentId))
        (fun k => k.2 = item.invoiceId) =
        sumRows [allocationRow tenantId paymentId x] (fun k => k.2 = item.invoiceId) +
          sumRows (xs.map (allocationRow tenantId paymentId)) (fun k => k.2 = item.invoiceId) := by
      rw [← sumRows_append]; rfl
    rw [hsplit]
    rcases List.mem_cons.1 h with rfl | h
    · rw [sumRows_ofInvoice_other tenantId paymentId xs hd.1, add_zero]
      simp [sumRows, allocationRow]
    · have hne : x.invoiceId ≠ item.invoiceId := fun he => hd.1 (List.mem_map.2 ⟨item, h, he.symm⟩)
      rw [ih hd.2 h, sumRows_eq_zero (by simp [allocationRow, hne]), zero_add]

end Sums

theorem sumAmounts_nonneg (items : List PaymentAllocationItem) : 0 ≤ sumAmounts items := by
  have h : ∀ (items : List PaymentAllocationItem) (acc : ℚ), 0 ≤ acc →
      0 ≤ items.foldl (fun acc i => add acc i.amount) acc := by
    intro items
    induction items with
    | nil => exact fun acc hacc => hacc
    | cons item items ih =>
      intro acc hacc
      exact ih _ (Decimal.toPrecision_nonneg (add_nonneg hacc item.amount_pos.le))
  exact h items 0 le_rfl

theorem sum_toCents_nonneg (items : List PaymentAllocationItem) :
    0 ≤ (items.map fun i => toCents i.amount).sum := by
  refine List.sum_nonneg fun c hc => ?_
  obtain ⟨item, -, rfl⟩ := List.mem_map.1 hc
  exact toCents_nonneg item.amount_pos.le

section Allocate

variable {caller : Caller} {clock : Clock} {paymentId : ℕ} {payload : PaymentAllocateRequest} {s s' : State}

/-- The state an accepted request leaves. -/
theorem allocatePayment_ok (h : allocatePayment caller clock paymentId payload s = .ok s') :
    ∃ p s₁, s.payments.get? paymentId = some p ∧
      sumAmounts payload.allocations ≤ sub (ofCents p.amount) (ofCents p.amountAllocated) ∧
      AllocatesAll caller clock paymentId s payload.allocations s₁ ∧
      s' = { s₁ with payments := s₁.payments.modify paymentId (Payment.setAllocated
        (toCents (add (ofCents p.amountAllocated) (sumAmounts payload.allocations)))) } := by
  simp only [allocatePayment, bind_eq_ok, orRaise_eq_ok, raiseIf_eq_ok, pure_eq_ok, getPayment,
    Option.filter_eq_some_iff, gt_iff_lt, not_lt] at h
  obtain ⟨p, ⟨hp, -⟩, -, -, -, hle, ⟨s₁, t₁⟩, hloop, c, hc, rfl⟩ := h
  obtain ⟨rfl, -⟩ := moneyColumn_ok hc
  exact ⟨p, s₁, hp, hle, allocateItems_ok (fun id hid => by cases hid) hloop, rfl⟩

theorem allocatedOf_allocatesAll {items : List PaymentAllocationItem}
    (h : AllocatesAll caller clock paymentId s items s') (id : ℕ) :
    allocatedOf s' id = allocatedOf s id +
      if id = paymentId then (items.map fun i => toCents i.amount).sum else 0 := by
  rw [allocatedOf, h.rows, sumRows_append, sumRows_ofPayment]
  rfl

theorem paidOf_allocatesAll {items : List PaymentAllocationItem}
    (h : AllocatesAll caller clock paymentId s items s') {item : PaymentAllocationItem} (hi : item ∈ items) :
    paidOf s' item.invoiceId = paidOf s item.invoiceId + toCents item.amount := by
  rw [paidOf, h.rows, sumRows_append, sumRows_ofInvoice _ _ h.distinct hi]
  rfl

theorem paidOf_allocatesAll_other {items : List PaymentAllocationItem}
    (h : AllocatesAll caller clock paymentId s items s') {id : ℕ} (hi : id ∉ items.map (·.invoiceId)) :
    paidOf s' id = paidOf s id := by
  rw [paidOf, h.rows, sumRows_append, sumRows_ofInvoice_other _ _ _ hi, add_zero]
  rfl

theorem PaymentOk.allocated_fits {id : ℕ} {p : Payment} (h : PaymentOk s id p) :
    p.amountAllocated.natAbs < 10 ^ 18 := by
  have := h.nonneg
  have := h.le
  have := h.fits
  omega

theorem InvoiceOk.paid_fits {id : ℕ} {i : Invoice} (h : InvoiceOk s id i) : i.amountPaid.natAbs < 10 ^ 18 := by
  have := h.nonneg
  have := h.le
  have := h.fits
  omega

theorem ofCents_nonneg {c : ℤ} (h : 0 ≤ c) : 0 ≤ ofCents c := by
  have hq : (0 : ℚ) ≤ c := by exact_mod_cast h
  exact div_nonneg hq (by norm_num)

/-- The new totals never pass the amounts, however they are rounded. -/
theorem PaymentOk.allocate_le {id : ℕ} {p : Payment} (h : PaymentOk s id p) {x : ℚ} (hx : 0 ≤ x)
    (hle : x ≤ sub (ofCents p.amount) (ofCents p.amountAllocated)) :
    toCents (add (ofCents p.amountAllocated) x) ≤ p.amount := by
  rw [sub_ofCents h.fits h.allocated_fits] at hle
  exact toCents_add_le (ofCents_nonneg h.nonneg) hx h.fits (by linarith)

theorem InvoiceOk.pay_le {id : ℕ} {i : Invoice} (h : InvoiceOk s id i) {x : ℚ} (hx : 0 ≤ x)
    (hle : x ≤ sub (ofCents i.total) (ofCents i.amountPaid)) :
    toCents (add (ofCents i.amountPaid) x) ≤ i.total := by
  rw [sub_ofCents h.fits h.paid_fits] at hle
  exact toCents_add_le (ofCents_nonneg h.nonneg) hx h.fits (by linarith)

theorem Inv.allocatePayment (h : Inv s) (hr : RoundsTogether s paymentId payload.allocations)
    (ha : allocatePayment caller clock paymentId payload s = .ok s') : Inv s' := by
  obtain ⟨p, s₁, hp, hle, hall, rfl⟩ := allocatePayment_ok ha
  have hpok := h.payment paymentId p hp
  refine ⟨fun id q hq => ?_, fun id i hi => ?_, fun k a hk => ?_⟩
  · rw [hall.payments] at hq
    by_cases hid : id = paymentId
    · subst hid
      rw [Table.get?_modify_self, hp, Option.map_some, Option.some.injEq] at hq
      subst hq
      have hsum := hr.1 p hp
      have hnn := sum_toCents_nonneg payload.allocations
      have hsum' : allocatedOf s₁ id =
          p.amountAllocated + (payload.allocations.map fun i => toCents i.amount).sum := by
        rw [allocatedOf_allocatesAll hall, if_pos rfl, hpok.agrees]
      refine ⟨hsum.trans hsum'.symm, ?_, hpok.allocate_le (sumAmounts_nonneg _) hle, hpok.fits⟩
      simp only [Payment.setAllocated, hsum]
      exact add_nonneg hpok.nonneg hnn
    · rw [Table.get?_modify_of_ne _ hid] at hq
      have hq' := h.payment id q hq
      refine ⟨hq'.agrees.trans ?_, hq'.nonneg, hq'.le, hq'.fits⟩
      have hsum' := allocatedOf_allocatesAll hall id
      rw [if_neg hid, add_zero] at hsum'
      exact hsum'.symm
  · by_cases hid : id ∈ payload.allocations.map (·.invoiceId)
    · obtain ⟨item, hitem, rfl⟩ := List.mem_map.1 hid
      obtain ⟨j, hj, hjle, hj'⟩ := hall.paid item hitem
      obtain rfl := Option.some.inj (hj'.symm.trans hi)
      have hjok := h.invoice _ j hj
      have hsum := hr.2 item hitem j hj
      have hpos := toCents_nonneg item.amount_pos.le
      refine ⟨?_, ?_, hjok.pay_le item.amount_pos.le hjle, hjok.fits⟩
      · rw [payInvoice, hsum, hjok.agrees]
        exact (paidOf_allocatesAll hall hitem).symm
      · simp only [payInvoice, hsum]
        exact add_nonneg hjok.nonneg hpos
    · rw [hall.others id hid] at hi
      have hok := h.invoice id i hi
      exact ⟨hok.agrees.trans (paidOf_allocatesAll_other hall hid).symm, hok.nonneg, hok.le, hok.fits⟩
  · -- the new rows name the payment and invoices the loop found
    have hmem := Table.mem_rows.2 hk
    rw [hall.rows, List.mem_append] at hmem
    have hpay : ∀ id f, (s.payments.get? id).isSome → ((s₁.payments.modify paymentId f).get? id).isSome := by
      intro id f hs
      rw [hall.payments, Table.get?_modify]
      split <;> simpa using hs
    have hinv : ∀ id, (s.invoices.get? id).isSome → (s₁.invoices.get? id).isSome := by
      intro id hs
      by_cases hid : id ∈ payload.allocations.map (·.invoiceId)
      · obtain ⟨item, hitem, rfl⟩ := List.mem_map.1 hid
        obtain ⟨j, -, -, hj'⟩ := hall.paid item hitem
        rw [hj']; rfl
      · rw [hall.others id hid]; exact hs
    rcases hmem with hmem | hmem
    · obtain ⟨h1, h2⟩ := h.refs k a (Table.mem_rows.1 hmem)
      exact ⟨hpay _ _ h1, hinv _ h2⟩
    · obtain ⟨item, hitem, he⟩ := List.mem_map.1 hmem
      obtain ⟨rfl, -⟩ := Prod.mk.inj he
      obtain ⟨j, hj, -, -⟩ := hall.paid item hitem
      exact ⟨hpay _ _ (by rw [hp]; rfl), hinv _ (by rw [hj]; rfl)⟩

/-- The condition is exact: an accepted request leaves the ledger in agreement just
when its roundings go together. -/
theorem conserved_allocatePayment_iff (h : Inv s)
    (ha : allocatePayment caller clock paymentId payload s = .ok s') :
    Conserved s' ↔ RoundsTogether s paymentId payload.allocations := by
  refine ⟨fun hc => ⟨fun p₀ hp₀ => ?_, fun item hitem i₀ hi₀ => ?_⟩, fun hr => (h.allocatePayment hr ha).conserved⟩
  · obtain ⟨p, s₁, hp, -, hall, rfl⟩ := allocatePayment_ok ha
    obtain rfl := Option.some.inj (hp.symm.trans hp₀)
    have hget := hc.1 paymentId
    simp only [hall.payments, Table.get?_modify_self, hp, Option.map_some] at hget
    have hagree := (hget _ rfl).1
    have hsum := allocatedOf_allocatesAll hall paymentId
    rw [if_pos rfl, ← (h.payment paymentId p hp).agrees] at hsum
    exact hagree.trans hsum
  · obtain ⟨p, s₁, hp, -, hall, rfl⟩ := allocatePayment_ok ha
    obtain ⟨i, hi, -, hi'⟩ := hall.paid item hitem
    obtain rfl := Option.some.inj (hi.symm.trans hi₀)
    have hagree := (hc.2 item.invoiceId _ hi').1
    have hsum := paidOf_allocatesAll hall hitem
    rw [← (h.invoice _ i hi).agrees] at hsum
    exact hagree.trans hsum

end Allocate

/-! Amounts of two decimals: whatever request is accepted, its roundings go together. -/

/-- An amount with two decimals. -/
def TwoDecimals (x : ℚ) : Prop := x = ofCents (toCents x)

instance (x : ℚ) : Decidable (TwoDecimals x) := inferInstanceAs (Decidable (x = ofCents (toCents x)))

theorem large_of_large_acc (items : List PaymentAllocationItem) {acc : ℚ} (h : 10 ^ (20 : ℤ) ≤ acc) :
    10 ^ (20 : ℤ) ≤ items.foldl (fun acc i => add acc i.amount) acc := by
  induction items generalizing acc with
  | nil => exact h
  | cons item items ih =>
    have := item.amount_pos
    exact ih (Decimal.zpow_le_toPrecision (by norm_num) (by linarith))

/-- A sum of amounts of two decimals that a column could hold is exact. -/
theorem foldl_add_ofCents {items : List PaymentAllocationItem} {c : ℤ}
    (hdec : ∀ i ∈ items, TwoDecimals i.amount) (hc : 0 ≤ c)
    (h : items.foldl (fun acc i => add acc i.amount) (ofCents c) < 10 ^ (20 : ℤ)) :
    items.foldl (fun acc i => add acc i.amount) (ofCents c) =
      ofCents (c + (items.map fun i => toCents i.amount).sum) := by
  induction items generalizing c with
  | nil => simp
  | cons item items ih =>
    rw [List.foldl_cons] at h ⊢
    have hitem := hdec item List.mem_cons_self
    have hnn := toCents_nonneg item.amount_pos.le
    -- had the partial sum grown large, so would the whole
    have hsmall : ofCents c + item.amount < 10 ^ (20 : ℤ) := by
      by_contra hlarge
      rw [not_lt] at hlarge
      exact absurd (large_of_large_acc items (Decimal.zpow_le_toPrecision (by norm_num) hlarge)) (not_le.2 h)
    have hfits : (c + toCents item.amount).natAbs < 10 ^ 26 := by
      have hq : ((c + toCents item.amount : ℤ) : ℚ) < 10 ^ 22 := by
        have heq : ((c + toCents item.amount : ℤ) : ℚ) = 100 * (ofCents c + item.amount) := by
          rw [hitem, toCents_ofCents]
          simp only [ofCents]; push_cast; ring
        rw [heq]
        norm_num at hsmall ⊢
        linarith
      have : c + toCents item.amount < 10 ^ 22 := by exact_mod_cast hq
      omega
    have hadd : add (ofCents c) item.amount = ofCents (c + toCents item.amount) := by
      conv_lhs => rw [hitem]
      exact add_ofCents hfits
    rw [hadd] at h ⊢
    rw [ih (fun i hi => hdec i (List.mem_cons_of_mem _ hi)) (add_nonneg hc hnn) h, List.map_cons,
      List.sum_cons, add_assoc]

theorem ofCents_lt {c : ℤ} (h : c.natAbs < 10 ^ 18) : ofCents c < 10 ^ (20 : ℤ) := by
  have hc : c < 10 ^ 18 := by omega
  have hq : (c : ℚ) < 10 ^ 18 := by exact_mod_cast hc
  rw [ofCents, div_lt_iff₀ (by norm_num)]
  norm_num
  linarith

theorem sumAmounts_eq {items : List PaymentAllocationItem} (hdec : ∀ i ∈ items, TwoDecimals i.amount)
    (h : sumAmounts items < 10 ^ (20 : ℤ)) :
    sumAmounts items = ofCents (items.map fun i => toCents i.amount).sum := by
  have h0 : ofCents 0 = 0 := by simp [ofCents]
  have := foldl_add_ofCents (c := 0) hdec le_rfl (by rw [h0]; exact h)
  rwa [h0, zero_add] at this

/-- Adding an amount of two decimals to a stored total, within a stored bound. -/
theorem toCents_add_twoDecimals {a b : ℤ} {x : ℚ} (ha : 0 ≤ a) (hx : 0 ≤ x) (hdec : TwoDecimals x)
    (hb : b.natAbs < 10 ^ 18) (hle : x ≤ ofCents b - ofCents a) :
    toCents (add (ofCents a) x) = a + toCents x := by
  have hx' : a + toCents x ≤ b := by
    rw [hdec] at hle
    simp only [ofCents] at hle
    have hq : ((a + toCents x : ℤ) : ℚ) ≤ b := by push_cast; linarith
    exact_mod_cast hq
  have hnn := toCents_nonneg hx
  conv_lhs => rw [hdec]
  rw [add_ofCents (by omega), toCents_ofCents]

/-- An accepted request with amounts of two decimals keeps the ledger in agreement. -/
theorem roundsTogether_of_twoDecimals {caller : Caller} {clock : Clock} {paymentId : ℕ}
    {payload : PaymentAllocateRequest} {s s' : State} (h : Inv s)
    (hdec : ∀ i ∈ payload.allocations, TwoDecimals i.amount)
    (ha : allocatePayment caller clock paymentId payload s = .ok s') :
    RoundsTogether s paymentId payload.allocations := by
  obtain ⟨p, s₁, hp, hle, hall, -⟩ := allocatePayment_ok ha
  have hpok := h.payment paymentId p hp
  rw [sub_ofCents hpok.fits hpok.allocated_fits] at hle
  have hsum : sumAmounts payload.allocations =
      ofCents (payload.allocations.map fun i => toCents i.amount).sum := by
    refine sumAmounts_eq hdec ?_
    have := ofCents_lt hpok.fits
    have := ofCents_nonneg hpok.nonneg
    linarith
  refine ⟨fun q hq => ?_, fun item hitem j hj => ?_⟩
  · obtain rfl := Option.some.inj (hp.symm.trans hq)
    have hdec' : TwoDecimals (sumAmounts payload.allocations) := by
      rw [TwoDecimals, hsum, toCents_ofCents]
    rw [toCents_add_twoDecimals hpok.nonneg (sumAmounts_nonneg _) hdec' hpok.fits hle, hsum, toCents_ofCents]
  · obtain ⟨i, hi, hile, -⟩ := hall.paid item hitem
    obtain rfl := Option.some.inj (hi.symm.trans hj)
    have hiok := h.invoice _ i hi
    rw [sub_ofCents hiok.fits hiok.paid_fits] at hile
    exact toCents_add_twoDecimals hiok.nonneg item.amount_pos.le (hdec item hitem) hiok.fits hile

/-! The other calls: a new invoice or payment starts from nothing, and an update of
an invoice leaves its money alone. -/

/-- The subtotal the loop over the lines arrives at. -/
def subtotalOf (lines : List InvoiceLineCreate) : ℚ :=
  lines.foldl (fun acc l => add acc (ofCents (Decimal.roundHalfEven (mul l.quantity l.unitPrice * 100)))) 0

theorem createInvoiceLine_subtotal {caller : Caller} {s : State} {acc acc' : ℚ × List InvoiceLine}
    {entry : InvoiceLineCreate × ℕ} (h : createInvoiceLine caller s acc entry = .ok acc') :
    acc'.1 = add acc.1 (ofCents (Decimal.roundHalfEven (mul entry.1.quantity entry.1.unitPrice * 100))) := by
  simp only [createInvoiceLine, addLine, quantize, bind_eq_ok, raiseIf_eq_ok, pure_eq_ok] at h
  obtain ⟨-, -, sub, ⟨c, ⟨-, -, rfl⟩, rfl⟩, -, -, -, -, -, -, rfl⟩ := h
  rfl

theorem createInvoiceLines_subtotal {caller : Caller} {s : State} {lines : List InvoiceLineCreate} {n : ℕ}
    {acc acc' : ℚ × List InvoiceLine}
    (h : (lines.zipIdx n).foldlM (createInvoiceLine caller s) acc = .ok acc') :
    acc'.1 = lines.foldl
      (fun acc l => add acc (ofCents (Decimal.roundHalfEven (mul l.quantity l.unitPrice * 100)))) acc.1 := by
  induction lines generalizing n acc with
  | nil =>
    rw [List.zipIdx_nil, List.foldlM_nil, pure_eq_ok] at h
    rw [← h]; rfl
  | cons l lines ih =>
    rw [List.zipIdx_cons, List.foldlM_cons, bind_eq_ok] at h
    obtain ⟨acc₁, h₁, h₂⟩ := h
    rw [ih h₂, createInvoiceLine_subtotal h₁]
    rfl

theorem issueInvoice_ok {clock : Clock} {i i' : Invoice} {x y : ℚ} (h : issueInvoice clock i x y = .ok i') :
    i'.amountPaid = i.amountPaid ∧ i'.total = i.total := by
  simp only [issueInvoice, bind_eq_ok, raiseIf_eq_ok, pure_eq_ok] at h
  obtain ⟨-, -, rfl⟩ := h
  exact ⟨rfl, rfl⟩

theorem createInvoice_ok {caller : Caller} {clock : Clock} {invoiceId : ℕ} {payload : InvoiceCreate}
    {s s' : State} (h : createInvoice caller clock invoiceId payload s = .ok s') :
    ∃ i, s.invoices.get? invoiceId = none ∧ s' = { s with invoices := s.invoices.insert invoiceId i } ∧
      i.amountPaid = 0 ∧ i.total = toCents (subtotalOf payload.lines) ∧ i.total.natAbs < 10 ^ 18 := by
  simp only [createInvoice, bind_eq_ok, raiseIf_eq_ok, pure_eq_ok, not_or, Option.not_isSome_iff_eq_none] at h
  obtain ⟨-, -, -, -, -, -, -, -, -, ⟨hnone, -⟩, ⟨subtotal, lines⟩, hlines, total, htotal, i, hi, rfl⟩ := h
  have hsub : subtotal = subtotalOf payload.lines := createInvoiceLines_subtotal hlines
  obtain ⟨rfl, hfits⟩ := moneyColumn_ok htotal
  refine ⟨i, hnone, rfl, ?_⟩
  unfold issueIf at hi
  split at hi
  · obtain ⟨hpaid, htot⟩ := issueInvoice_ok hi
    rw [hpaid, htot]
    exact ⟨rfl, by rw [hsub], hfits⟩
  · rw [pure_eq_ok] at hi
    subst hi
    exact ⟨rfl, by rw [hsub], hfits⟩

theorem transitionStatus_ok {clock : Clock} {i i' : Invoice} {status : InvoiceStatus}
    (h : transitionStatus clock i status = .ok i') : i'.amountPaid = i.amountPaid ∧ i'.total = i.total := by
  unfold transitionStatus at h
  split at h
  · exact issueInvoice_ok h
  · simp only [bind_eq_ok, raiseIf_eq_ok, pure_eq_ok] at h
    obtain ⟨-, -, rfl⟩ := h
    exact ⟨rfl, rfl⟩

theorem updateInvoice_ok {caller : Caller} {clock : Clock} {invoiceId : ℕ} {payload : InvoiceUpdate}
    {s s' : State} (h : updateInvoice caller clock invoiceId payload s = .ok s') :
    ∃ i i', s.invoices.get? invoiceId = some i ∧ i'.amountPaid = i.amountPaid ∧ i'.total = i.total ∧
      s' = { s with invoices := s.invoices.modify invoiceId fun _ => i' } := by
  simp only [updateInvoice, bind_eq_ok, orRaise_eq_ok, raiseIf_eq_ok, pure_eq_ok, getInvoice,
    Option.filter_eq_some_iff] at h
  obtain ⟨i, ⟨hi, -⟩, i₁, h₁, -, -, -, -, rfl⟩ := h
  have hkeep : i₁.amountPaid = i.amountPaid ∧ i₁.total = i.total := by
    cases hs : payload.status <;> rw [hs] at h₁
    · obtain rfl := pure_eq_ok.1 h₁
      exact ⟨rfl, rfl⟩
    · exact transitionStatus_ok h₁
  refine ⟨i, _, hi, ?_, ?_, rfl⟩
  · exact hkeep.1
  · exact hkeep.2

theorem createPayment_ok {caller : Caller} {clock : Clock} {paymentId : ℕ} {payload : PaymentCreate}
    {s s' : State} (h : createPayment caller clock paymentId payload s = .ok s') :
    ∃ p : Payment, s.payments.get? paymentId = none ∧ p.amountAllocated = 0 ∧ 0 ≤ p.amount ∧
      p.amount.natAbs < 10 ^ 18 ∧ s' = { s with payments := s.payments.insert paymentId p } := by
  simp only [createPayment, bind_eq_ok, raiseIf_eq_ok, pure_eq_ok, Option.not_isSome_iff_eq_none] at h
  obtain ⟨-, -, amount, hamount, -, hnone, rfl⟩ := h
  obtain ⟨rfl, hfits⟩ := moneyColumn_ok hamount
  exact ⟨_, hnone, rfl, toCents_nonneg payload.amount_pos.le, hfits, rfl⟩

theorem Inv.createInvoice {caller : Caller} {clock : Clock} {invoiceId : ℕ} {payload : InvoiceCreate}
    {s s' : State} (h : Inv s) (hpos : 0 ≤ subtotalOf payload.lines)
    (hc : createInvoice caller clock invoiceId payload s = .ok s') : Inv s' := by
  obtain ⟨i, hnone, rfl, hpaid, htotal, hfits⟩ := createInvoice_ok hc
  refine ⟨fun id p hp => ?_, fun id j hj => ?_, fun k a hk => ?_⟩
  · obtain ⟨h1, h2, h3, h4⟩ := h.payment id p hp
    exact ⟨h1, h2, h3, h4⟩
  · rw [Table.get?_insert_new _ _ _ hnone] at hj
    split at hj
    · rename_i hid
      obtain rfl := Option.some.inj hj
      subst hid
      refine ⟨?_, by rw [hpaid], ?_, hfits⟩
      · rw [hpaid]
        exact (h.paidOf_eq_zero hnone).symm
      · rw [hpaid, htotal]
        exact toCents_nonneg hpos
    · obtain ⟨h1, h2, h3, h4⟩ := h.invoice id j hj
      exact ⟨h1, h2, h3, h4⟩
  · obtain ⟨h1, h2⟩ := h.refs k a hk
    refine ⟨h1, ?_⟩
    rw [Table.get?_insert_new _ _ _ hnone]
    split
    · rfl
    · exact h2

theorem Inv.updateInvoice {caller : Caller} {clock : Clock} {invoiceId : ℕ} {payload : InvoiceUpdate}
    {s s' : State} (h : Inv s) (hu : updateInvoice caller clock invoiceId payload s = .ok s') : Inv s' := by
  obtain ⟨i, i', hi, hpaid, htotal, rfl⟩ := updateInvoice_ok hu
  refine ⟨fun id p hp => ?_, fun id j hj => ?_, fun k a hk => ?_⟩
  · obtain ⟨h1, h2, h3, h4⟩ := h.payment id p hp
    exact ⟨h1, h2, h3, h4⟩
  · rw [Table.get?_modify] at hj
    split at hj
    · rename_i hid
      subst hid
      rw [hi, Option.map_some, Option.some.injEq] at hj
      subst hj
      obtain ⟨h1, h2, h3, h4⟩ := h.invoice id i hi
      exact ⟨hpaid.trans h1, hpaid ▸ h2, by rw [hpaid, htotal]; exact h3, htotal ▸ h4⟩
    · obtain ⟨h1, h2, h3, h4⟩ := h.invoice id j hj
      exact ⟨h1, h2, h3, h4⟩
  · obtain ⟨h1, h2⟩ := h.refs k a hk
    refine ⟨h1, ?_⟩
    rw [Table.get?_modify]
    split <;> simpa using h2

theorem Inv.createPayment {caller : Caller} {clock : Clock} {paymentId : ℕ} {payload : PaymentCreate}
    {s s' : State} (h : Inv s) (hc : createPayment caller clock paymentId payload s = .ok s') : Inv s' := by
  obtain ⟨p, hnone, halloc, hpos, hfits, rfl⟩ := createPayment_ok hc
  refine ⟨fun id q hq => ?_, fun id i hi => ?_, fun k a hk => ?_⟩
  · rw [Table.get?_insert_new _ _ _ hnone] at hq
    split at hq
    · rename_i hid
      obtain rfl := Option.some.inj hq
      subst hid
      refine ⟨?_, by rw [halloc], by rw [halloc]; exact hpos, hfits⟩
      rw [halloc]
      exact (h.allocatedOf_eq_zero hnone).symm
    · obtain ⟨h1, h2, h3, h4⟩ := h.payment id q hq
      exact ⟨h1, h2, h3, h4⟩
  · obtain ⟨h1, h2, h3, h4⟩ := h.invoice id i hi
    exact ⟨h1, h2, h3, h4⟩
  · obtain ⟨h1, h2⟩ := h.refs k a hk
    refine ⟨?_, h2⟩
    rw [Table.get?_insert_new _ _ _ hnone]
    split
    · rfl
    · exact h1

/-- The lines of an invoice do not sum below zero, and the roundings of a request
go together. -/
def RoundsCleanly (s : State) : Op → Prop
  | .createInvoice _ _ _ payload => 0 ≤ subtotalOf payload.lines
  | .allocatePayment _ _ paymentId payload => RoundsTogether s paymentId payload.allocations
  | .updateInvoice .. => True
  | .createPayment .. => True

instance (s : State) (paymentId : ℕ) (items : List PaymentAllocationItem) :
    Decidable (RoundsTogether s paymentId items) := by
  unfold RoundsTogether
  infer_instance

instance : ∀ s op, Decidable (RoundsCleanly s op)
  | _, .createInvoice _ _ _ payload => inferInstanceAs (Decidable (0 ≤ subtotalOf payload.lines))
  | s, .allocatePayment _ _ paymentId payload =>
    inferInstanceAs (Decidable (RoundsTogether s paymentId payload.allocations))
  | _, .updateInvoice .. => inferInstanceAs (Decidable True)
  | _, .createPayment .. => inferInstanceAs (Decidable True)

theorem Inv.exec {s s' : State} {op : Op} (h : Inv s) (hr : RoundsCleanly s op) (he : exec s op = .ok s') :
    Inv s' := by
  cases op with
  | createInvoice caller clock invoiceId payload => exact h.createInvoice hr he
  | updateInvoice caller clock invoiceId payload => exact h.updateInvoice he
  | createPayment caller clock paymentId payload => exact h.createPayment he
  | allocatePayment caller clock paymentId payload => exact h.allocatePayment hr he

/-- A tenant's books before the first invoice and payment. -/
def State.noBooks (s : State) : State := { s with invoices := ∅, payments := ∅, allocations := ∅ }

theorem Inv.noBooks (s : State) : Inv s.noBooks :=
  ⟨fun _ _ h => (nomatch h), fun _ _ h => (nomatch h), fun _ _ h => (nomatch h)⟩

theorem Inv.run {s₀ s : State} {ops : List Op} (h0 : Inv s₀)
    (h : Run (Restrict RoundsCleanly (CallStep Finance.exec)) s₀ ops s) : Inv s := by
  refine h.invariant_restrict Inv h0 ?_
  rintro s op s' hi hr rfl
  exact settle_keeps hi fun s' he => hi.exec hr he

/-- Ledger conservation, for runs in which no invoice sums below zero and every
request's roundings go together: after any calls, accepted or refused, each payment
and each invoice equals the sum of its allocation rows and stays within its
amount. -/
theorem ledger_conserved (s₀ s : State) (ops : List Op)
    (h : Run (Restrict RoundsCleanly (CallStep exec)) s₀.noBooks ops s) : Conserved s :=
  ((Inv.noBooks s₀).run h).conserved

section Examples

def demoCaller : Caller := ⟨1, .ok ()⟩

def demoClock : Clock := ⟨20000, 2026, 0⟩

def demoState : State := ⟨∅, ∅, ∅, Table.insert ∅ 1 1, ∅, ∅, ∅⟩

/-- An issued invoice of 10.00. -/
def demoInvoice : InvoiceCreate :=
  ⟨1, none, none, none, none, "RUB", none, none, [⟨none, "Service", 1, 10, 0, by norm_num⟩], true, by simp⟩

def demoPayment : PaymentCreate :=
  ⟨some 1, 10, "RUB", 20000, .cash, .completed, .incoming, none, none, none, by norm_num⟩

/-- The same amount to each of the invoices 1 and 2. -/
def demoSplit (amount : ℚ) (h : 0 < amount) : PaymentAllocateRequest :=
  ⟨[⟨1, amount, none, h⟩, ⟨2, amount, none, h⟩], by simp⟩

def demoOps (amount : ℚ) (h : 0 < amount) : List Op :=
  [.createInvoice demoCaller demoClock 1 demoInvoice, .createInvoice demoCaller demoClock 2 demoInvoice,
    .createPayment demoCaller demoClock 3 demoPayment,
    .allocatePayment demoCaller demoClock 3 (demoSplit amount h)]

/-- Half a hundredth to each of two invoices: each row stores 0.01, and the payment
counts 0.01 for both. -/
theorem half_cent_lost : ∃ s, Run (CallStep exec) demoState.noBooks (demoOps (5 / 1000) (by norm_num)) s ∧
    ¬ Conserved s := by
  refine ⟨_, Run.cons rfl (Run.cons rfl (Run.cons rfl (Run.single rfl))), fun h => ?_⟩
  generalize hs : settle exec _ _ = s at h
  have hkey : (s.payments.get? 3).map (·.amountAllocated) = some 1 ∧ allocatedOf s 3 = 2 := by
    rw [← hs]
    decide +kernel
  obtain ⟨p, hp, hp1⟩ := Option.map_eq_some_iff.1 hkey.1
  have := (h.1 3 p hp).1
  omega

/-- The theorem at the same calls with 2.50 for each invoice. -/
theorem ledger_conserved_split : ∃ s,
    Run (Restrict RoundsCleanly (CallStep exec)) demoState.noBooks (demoOps (5 / 2) (by norm_num)) s ∧
      (s.payments.get? 3).map (·.amountAllocated) = some 500 ∧ Conserved s := by
  have hrun : Run (Restrict RoundsCleanly (CallStep exec)) demoState.noBooks (demoOps (5 / 2) (by norm_num))
      ((demoOps (5 / 2) (by norm_num)).foldl (settle exec) demoState.noBooks) :=
    Run.cons ⟨by decide +kernel, rfl⟩ (Run.cons ⟨by decide +kernel, rfl⟩
      (Run.cons ⟨trivial, rfl⟩ (Run.single ⟨by decide +kernel, rfl⟩)))
  exact ⟨_, hrun, by decide +kernel, ledger_conserved _ _ _ hrun⟩

end Examples

end CoreOps.Finance
