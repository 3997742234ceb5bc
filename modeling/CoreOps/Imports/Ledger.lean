import CoreOps.Finance.Ledger
import CoreOps.Imports.Postings

/-! The ledger after an import. The importer writes what a payment was allocated to, but not
how much of it was allocated, so a payment that names an order could be allocated again. -/

namespace CoreOps.Finance

open Checked

/-! A payment that is allocated in full. -/

section FullyAllocated

theorem sumAmounts_pos {items : List PaymentAllocationItem} (h : items ≠ []) : 0 < sumAmounts items := by
  have hkeeps : ∀ (items : List PaymentAllocationItem) (acc : ℚ), 0 < acc →
      0 < items.foldl (fun acc i => add acc i.amount) acc := by
    intro items
    induction items with
    | nil => exact fun acc hacc => hacc
    | cons item items ih =>
      exact fun acc hacc => ih _ (Decimal.toPrecision_pos (by norm_num) (add_pos hacc item.amount_pos))
  cases items with
  | nil => exact absurd rfl h
  | cons item items =>
    exact hkeeps items _ (Decimal.toPrecision_pos (by norm_num) (by rw [zero_add]; exact item.amount_pos))

/-- Nothing of the payment is left to allocate. -/
def FullyAllocated (s : State) (paymentId : ℕ) : Prop :=
  ∃ p, s.payments.get? paymentId = some p ∧ p.amountAllocated = p.amount

variable {s s' : State} {paymentId : ℕ}

theorem FullyAllocated.refused (h : FullyAllocated s paymentId) (caller : Caller) (clock : Clock)
    (payload : PaymentAllocateRequest) : allocatePayment caller clock paymentId payload s ≠ .ok s' := by
  obtain ⟨p, hp, hfull⟩ := h
  intro hok
  obtain ⟨q, -, hq, hle, -⟩ := allocatePayment_ok hok
  obtain rfl := Option.some.inj (hp.symm.trans hq)
  have hnone : sub (ofCents p.amount) (ofCents p.amountAllocated) = 0 := by
    rw [hfull, sub, sub_self, Decimal.toPrecision_zero]
  rw [hnone] at hle
  exact absurd (sumAmounts_pos payload.allocations_ne_nil) (not_lt.2 hle)

/-- No call gives back what is allocated. -/
theorem FullyAllocated.exec {op : Op} (h : FullyAllocated s paymentId) (he : exec s op = .ok s') :
    FullyAllocated s' paymentId := by
  cases op with
  | createInvoice caller clock invoiceId payload =>
    obtain ⟨i, -, rfl, -⟩ := createInvoice_ok he
    exact h
  | updateInvoice caller clock invoiceId payload =>
    obtain ⟨i, i', -, -, -, rfl⟩ := updateInvoice_ok he
    exact h
  | createPayment caller clock newId payload =>
    obtain ⟨p, hp, hfull⟩ := h
    obtain ⟨q, hnone, -, -, -, rfl⟩ := createPayment_ok he
    refine ⟨p, ?_, hfull⟩
    rw [Table.get?_insert_new _ _ _ hnone, if_neg, hp]
    rintro rfl
    rw [hp] at hnone
    cases hnone
  | allocatePayment caller clock otherId payload =>
    by_cases hid : paymentId = otherId
    · subst hid
      exact absurd he (h.refused caller clock payload)
    · obtain ⟨p, hp, hfull⟩ := h
      obtain ⟨-, s₁, -, -, hall, rfl⟩ := allocatePayment_ok he
      refine ⟨p, ?_, hfull⟩
      rw [Table.get?_modify_of_ne _ hid, hall.payments, hp]

theorem FullyAllocated.run {ops : List Op} (h : FullyAllocated s paymentId)
    (hrun : Run (CallStep Finance.exec) s ops s') : FullyAllocated s' paymentId :=
  hrun.invariant_calls (FullyAllocated · paymentId) h fun _ _ _ hI he => hI.exec he

end FullyAllocated

/-- Where the rows' keys are apart under `g`, the amount under one of them is that row's. -/
theorem sumRows_single {κ : Type} [DecidableEq κ] (g : ℕ × ℕ → κ) {rows : List ((ℕ × ℕ) × PaymentAllocation)}
    (hnodup : (rows.map fun r => g r.1).Nodup) {r : (ℕ × ℕ) × PaymentAllocation} (hr : r ∈ rows) :
    sumRows rows (fun k => g k = g r.1) = r.2.amount := by
  induction rows with
  | nil => exact absurd hr List.not_mem_nil
  | cons r' rows ih =>
    rw [List.map_cons, List.nodup_cons] at hnodup
    obtain ⟨hother, hnodup⟩ := hnodup
    rw [← List.singleton_append, sumRows_append]
    rcases List.mem_cons.1 hr with rfl | hr
    · have hrest : sumRows rows (fun k => g k = g r.1) = 0 := sumRows_eq_zero fun r' hr' =>
        decide_eq_false fun heq => hother (List.mem_map.2 ⟨r', hr', heq⟩)
      rw [hrest, add_zero]
      simp [sumRows]
    · have hfirst : sumRows [r'] (fun k => g k = g r.1) = 0 := by
        refine sumRows_eq_zero fun r'' hr'' => decide_eq_false fun heq => hother ?_
        rw [List.mem_singleton.1 hr''] at heq
        exact List.mem_map.2 ⟨r, hr, heq.symm⟩
      rw [hfirst, zero_add, ih hnodup hr]

end CoreOps.Finance

namespace CoreOps.Imports

open Checked Text

/-- The totals of payments and invoices are those of their allocations. -/
structure LedgerConsistent (b : Business) : Prop where
  payments : ∀ id p, b.payments.get? id = some p →
    p.amountAllocated = Finance.sumRows b.allocations.rows fun k => k.1 = id
  invoices : ∀ id i, b.invoices.get? id = some i →
    i.amountPaid = (Finance.sumRows b.allocations.rows fun k => k.2 = id) ∧ i.amountPaid ≤ i.total

/-- The foreign keys of the allocations. -/
def ReferencesHold (b : Business) : Prop :=
  ∀ k a, b.allocations.get? k = some a → (b.payments.get? k.1).isSome ∧ (b.invoices.get? k.2).isSome

/-- What the finance service finds, with the other tables it reads. -/
def Business.books (b : Business) (s : Finance.State) : Finance.State :=
  { s with invoices := b.invoices, payments := b.payments, allocations := b.allocations }

/-- A payment that an import left allocated is not allocated by the service again, whatever
it does in between. -/
def AllocatedOnce (b b' : Business) : Prop :=
  ∀ paymentId, b.payments.get? paymentId = none → (∃ invoiceId, (b'.allocations.get? (paymentId, invoiceId)).isSome) →
    ∀ s ops s', Run (CallStep Finance.exec) (b'.books s) ops s' → ∀ caller clock payload s'',
      Finance.allocatePayment caller clock paymentId payload s' ≠ .ok s''

section Ledger

variable {adapter : SqlAlchemyStagingWriteAdapter} {config : StagingWriteImportConfig} {data : Dataset}
  {target target' : Target} {report : ExecutionReport} {b b' : Business} {postings orphans : List Posting}

/-- The keys of what was posted are apart. -/
theorem Posted.nodup (h : Posted config b b' postings orphans) :
    (postings.map (·.paymentId)).Nodup ∧ (postings.map (·.invoiceId)).Nodup := by
  have hpayments := b'.payments.nodup
  have hinvoices := b'.invoices.nodup
  rw [h.payments, List.map_append, List.map_append, List.map_map] at hpayments
  rw [h.invoices, List.map_append, List.map_map] at hinvoices
  exact ⟨(List.nodup_append.1 (List.nodup_append.1 hpayments).1).2.1, (List.nodup_append.1 hinvoices).2.1⟩

theorem Posted.payments_new (h : Posted config b b' postings orphans) : b'.payments.rows =
    b.payments.rows ++ (postings.map (·.payment config) ++ orphans.map (·.orphanPayment config)) := by
  rw [h.payments, List.append_assoc]

theorem Posted.payment_new (h : Posted config b b' postings orphans) {p : Posting} (hp : p ∈ postings) :
    b.payments.get? p.paymentId = none ∧ b'.payments.get? p.paymentId = some (p.payment config).2 :=
  Table.get?_append_new h.payments_new (List.mem_append_left _ (List.mem_map_of_mem hp))

theorem Posted.invoice_new (h : Posted config b b' postings orphans) {p : Posting} (hp : p ∈ postings) :
    b.invoices.get? p.invoiceId = none ∧ b'.invoices.get? p.invoiceId = some (p.invoice config).2 :=
  Table.get?_append_new h.invoices (List.mem_map_of_mem hp)

/-- Nothing is allocated of a payment, or to an invoice, that is not there. -/
theorem ReferencesHold.sum_eq_zero (hrefs : ReferencesHold b) {id : ℕ} :
    (b.payments.get? id = none → Finance.sumRows b.allocations.rows (fun k => k.1 = id) = 0) ∧
      (b.invoices.get? id = none → Finance.sumRows b.allocations.rows (fun k => k.2 = id) = 0) := by
  constructor
  · refine fun hnone => Finance.sumRows_eq_zero fun r hr => decide_eq_false fun heq => ?_
    have hthere := (hrefs r.1 r.2 (Table.mem_rows.1 hr)).1
    rw [heq, hnone] at hthere
    cases hthere
  · refine fun hnone => Finance.sumRows_eq_zero fun r hr => decide_eq_false fun heq => ?_
    have hthere := (hrefs r.1 r.2 (Table.mem_rows.1 hr)).2
    rw [heq, hnone] at hthere
    cases hthere

theorem Posted.sumRows (h : Posted config b b' postings orphans) (p : ℕ × ℕ → Bool) :
    Finance.sumRows b'.allocations.rows p =
      Finance.sumRows b.allocations.rows p + Finance.sumRows (postings.map (·.allocation config)) p := by
  rw [h.allocations, Finance.sumRows_append]

/-- What is allocated of a posted payment is its amount, and so is what is paid of its invoice. -/
theorem Posted.sum_posting (h : Posted config b b' postings orphans) (hrefs : ReferencesHold b) {p : Posting}
    (hp : p ∈ postings) : Finance.sumRows b'.allocations.rows (fun k => k.1 = p.paymentId) = p.amount ∧
      Finance.sumRows b'.allocations.rows (fun k => k.2 = p.invoiceId) = p.amount := by
  have hmem : p.allocation config ∈ postings.map (·.allocation config) := List.mem_map_of_mem hp
  constructor
  · have hnew := Finance.sumRows_single Prod.fst
      (show ((postings.map (·.allocation config)).map _).Nodup by rw [List.map_map]; exact h.nodup.1) hmem
    rw [h.sumRows, hrefs.sum_eq_zero.1 (h.payment_new hp).1, zero_add]
    exact hnew
  · have hnew := Finance.sumRows_single Prod.snd
      (show ((postings.map (·.allocation config)).map _).Nodup by rw [List.map_map]; exact h.nodup.2) hmem
    rw [h.sumRows, hrefs.sum_eq_zero.2 (h.invoice_new hp).1, zero_add]
    exact hnew

/-- Where nothing is posted, the sums stay. -/
theorem Posted.sum_other (h : Posted config b b' postings orphans) {id : ℕ} :
    ((∀ p ∈ postings, p.paymentId ≠ id) → Finance.sumRows b'.allocations.rows (fun k => k.1 = id) =
      Finance.sumRows b.allocations.rows fun k => k.1 = id) ∧
    ((∀ p ∈ postings, p.invoiceId ≠ id) → Finance.sumRows b'.allocations.rows (fun k => k.2 = id) =
      Finance.sumRows b.allocations.rows fun k => k.2 = id) := by
  constructor
  · intro hother
    rw [h.sumRows, Finance.sumRows_eq_zero (List.forall_mem_map.2 fun p hp => decide_eq_false (hother p hp)), add_zero]
  · intro hother
    rw [h.sumRows, Finance.sumRows_eq_zero (List.forall_mem_map.2 fun p hp => decide_eq_false (hother p hp)), add_zero]

/-- What is posted leaves the ledger consistent when it comes to nothing. -/
theorem Posted.consistent_iff (h : Posted config b b' postings orphans) (hrefs : ReferencesHold b)
    (hb : LedgerConsistent b) : LedgerConsistent b' ↔ ∀ p ∈ postings, p.amount = 0 := by
  constructor
  · intro hb' p hp
    have hpayment := hb'.payments _ _ (h.payment_new hp).2
    rw [(h.sum_posting hrefs hp).1] at hpayment
    exact hpayment.symm
  · refine fun hzero => ⟨fun id q hq => ?_, fun id i hi => ?_⟩
    · have hmem := Table.mem_rows.2 hq
      rw [h.payments_new, List.mem_append, List.mem_append] at hmem
      rcases hmem with hold | hposted | horphan
      · have hq' := Table.mem_rows.1 hold
        have hother : ∀ p ∈ postings, p.paymentId ≠ id := fun p hp heq => by
          have hnew := (h.payment_new hp).1
          rw [heq, hq'] at hnew
          cases hnew
        rw [h.sum_other.1 hother]
        exact hb.payments id q hq'
      · obtain ⟨p, hp, heq⟩ := List.mem_map.1 hposted
        obtain ⟨rfl, rfl⟩ := Prod.mk.inj heq
        rw [(h.sum_posting hrefs hp).1, hzero p hp]
        rfl
      · obtain ⟨o, ho, heq⟩ := List.mem_map.1 horphan
        obtain ⟨rfl, rfl⟩ := Prod.mk.inj heq
        have hnew := (Table.get?_append_new h.payments_new (List.mem_append_right _ (List.mem_map_of_mem ho))).1
        have hother : ∀ p ∈ postings, p.paymentId ≠ o.paymentId := by
          have hnodup := b'.payments.nodup
          rw [h.payments, List.map_append, List.nodup_append] at hnodup
          intro p hp
          refine hnodup.2.2 _ ?_ _ (List.mem_map.2 ⟨_, List.mem_map_of_mem ho, rfl⟩)
          exact List.mem_map.2 ⟨_, List.mem_append_right _ (List.mem_map_of_mem hp), rfl⟩
        rw [h.sum_other.1 hother, hrefs.sum_eq_zero.1 hnew]
        rfl
    · have hmem := Table.mem_rows.2 hi
      rw [h.invoices, List.mem_append] at hmem
      rcases hmem with hold | hposted
      · have hi' := Table.mem_rows.1 hold
        have hother : ∀ p ∈ postings, p.invoiceId ≠ id := fun p hp heq => by
          have hnew := (h.invoice_new hp).1
          rw [heq, hi'] at hnew
          cases hnew
        rw [h.sum_other.2 hother]
        exact hb.invoices id i hi'
      · obtain ⟨p, hp, heq⟩ := List.mem_map.1 hposted
        obtain ⟨rfl, rfl⟩ := Prod.mk.inj heq
        rw [(h.sum_posting hrefs hp).2]
        exact ⟨rfl, le_rfl⟩

/-- A payment of nothing cannot be allocated. -/
theorem Posted.allocatedOnce (h : Posted config b b' postings orphans) (hrefs : ReferencesHold b)
    (hzero : ∀ p ∈ postings, p.amount = 0) : AllocatedOnce b b' := by
  rintro paymentId hnew ⟨invoiceId, hallocated⟩ s ops s' hrun caller clock payload s''
  obtain ⟨a, ha⟩ := Option.isSome_iff_exists.1 hallocated
  have hmem := Table.mem_rows.2 ha
  rw [h.allocations, List.mem_append] at hmem
  rcases hmem with hold | hposted
  · have hthere := (hrefs _ _ (Table.mem_rows.1 hold)).1
    rw [hnew] at hthere
    cases hthere
  · obtain ⟨p, hp, heq⟩ := List.mem_map.1 hposted
    obtain ⟨rfl, -⟩ := Prod.mk.inj (Prod.mk.inj heq).1
    have hfull : Finance.FullyAllocated (b'.books s) p.paymentId :=
      ⟨_, (h.payment_new hp).2, (hzero p hp).symm⟩
    exact (hfull.run hrun).refused caller clock payload

/-- An import keeps the ledger consistent, and its payments from being allocated again,
exactly when every payment that names an order is stored as 0. -/
theorem import_keeps_ledger_iff (hconsistent : LedgerConsistent target.business) (hrefs : ReferencesHold target.business)
    (h : run adapter config data target = .ok (report, target')) :
    (LedgerConsistent target'.business ∧ AllocatedOnce target.business target'.business) ↔
      ∀ row ∈ data.payments, isLinked row = true → moneyColumn (row.amount.getD 0) = .ok 0 := by
  obtain ⟨postings, orphans, hrows, -, hstored, -, hposted⟩ := (run_iff.1 ⟨report, h⟩).2.posted
  have hamounts : (∀ row ∈ data.payments, isLinked row = true → moneyColumn (row.amount.getD 0) = .ok 0) ↔
      ∀ p ∈ postings, p.amount = 0 := by
    constructor
    · intro hrow p hp
      have hmem : p.row ∈ data.payments.filter isLinked := hrows ▸ List.mem_map_of_mem hp
      obtain ⟨hdata, hlinked⟩ := List.mem_filter.1 hmem
      exact Except.ok.inj ((hstored p hp).amount.symm.trans (hrow p.row hdata hlinked))
    · intro hzero row hrow hlinked
      have hmem : row ∈ postings.map (·.row) := hrows ▸ List.mem_filter.2 ⟨hrow, hlinked⟩
      obtain ⟨p, hp, rfl⟩ := List.mem_map.1 hmem
      rw [(hstored p hp).amount, hzero p hp]
  rw [hamounts, hposted.consistent_iff hrefs hconsistent]
  exact and_iff_left_of_imp fun hzero => hposted.allocatedOnce hrefs hzero

section Examples

/-- A payment of 100.00 that names an order. -/
def linkedPayment : PaymentSource := ⟨some "1", some "1", some 100, some 0, none⟩

def openInvoice : Finance.Invoice where
  tenantId := 1
  legalEntityId := none
  taxProfileId := none
  partyId := 1
  workItemId := none
  documentId := none
  invoiceNumber := "INV-2026-000001"
  status := .issued
  currency := "RUB"
  subtotal := 10000
  taxAmount := 0
  total := 10000
  amountPaid := 0
  issueDate := none
  dueDate := none
  issuedAt := none
  notes := none
  lines := []

/-- A tenant with an open invoice of 100.00. -/
def invoicedTarget : Target :=
  { demoTarget with business := { demoTarget.business with invoices := Table.insert ∅ 1 openInvoice } }

theorem invoicedTarget_consistent : LedgerConsistent invoicedTarget.business := by
  refine ⟨fun id p hp => absurd hp (by simp [invoicedTarget, demoTarget]), fun id i hi => ?_⟩
  have hmem := Table.mem_rows.2 hi
  obtain ⟨rfl, rfl⟩ := Prod.mk.inj (List.mem_singleton.1 hmem)
  exact ⟨rfl, by decide⟩

theorem invoicedTarget_references : ReferencesHold invoicedTarget.business := fun k a hk =>
  absurd hk (by simp [invoicedTarget, demoTarget])

/-- The whole payment, to the open invoice. -/
def payOpenInvoice : Finance.PaymentAllocateRequest := ⟨[⟨1, 100, none, by norm_num⟩], List.cons_ne_nil _ _⟩

def noBooks : Finance.State := ⟨∅, ∅, ∅, ∅, ∅, ∅, ∅⟩

/-- The payment is allocated to the order's invoice by the import, and then to the open one
by the service. -/
theorem linked_payment_allocated_twice : ∃ report target',
    run demoAdapter demoConfig { payments := [linkedPayment] } invoicedTarget = .ok (report, target') ∧
    LedgerConsistent invoicedTarget.business ∧ ReferencesHold invoicedTarget.business ∧
    ¬ LedgerConsistent target'.business ∧ ¬ AllocatedOnce invoicedTarget.business target'.business := by
  have hok : (run demoAdapter demoConfig { payments := [linkedPayment] } invoicedTarget).isOk = true := by decide +kernel
  obtain ⟨⟨report, target'⟩, hrun⟩ := exists_of_isOk hok
  have hleft : (run demoAdapter demoConfig { payments := [linkedPayment] } invoicedTarget).toOption.map (fun r =>
      ((r.2.business.payments.get? 1).map (·.amountAllocated), Finance.sumRows r.2.business.allocations.rows fun k => k.1 = 1,
        (r.2.business.allocations.get? (1, 2)).isSome,
        (Finance.allocatePayment Finance.demoCaller Finance.demoClock 1 payOpenInvoice
          (r.2.business.books noBooks)).isOk)) = some (some 0, 10000, true, true) := by decide +kernel
  rw [hrun] at hleft
  simp only [Except.toOption, Option.map_some, Option.some.injEq, Prod.mk.injEq] at hleft
  obtain ⟨hpayment, hsum, hallocated, hagain⟩ := hleft
  refine ⟨report, target', hrun, invoicedTarget_consistent, invoicedTarget_references, fun hconsistent => ?_, fun honce => ?_⟩
  · obtain ⟨p, hp, hzero⟩ := Option.map_eq_some_iff.1 hpayment
    have htotal := hconsistent.payments 1 p hp
    rw [hzero, hsum] at htotal
    exact absurd htotal (by decide)
  · obtain ⟨s, hs⟩ := exists_of_isOk hagain
    exact honce 1 rfl ⟨2, hallocated⟩ noBooks [] _ .nil Finance.demoCaller Finance.demoClock payOpenInvoice s hs

/-- The theorem at a payment of nothing. -/
theorem import_keeps_ledger_zero : ∃ report target',
    run demoAdapter demoConfig { payments := [{ linkedPayment with amount := some 0 }] } invoicedTarget =
      .ok (report, target') ∧
    LedgerConsistent target'.business ∧ AllocatedOnce invoicedTarget.business target'.business := by
  have hok : (run demoAdapter demoConfig { payments := [{ linkedPayment with amount := some 0 }] } invoicedTarget).isOk =
      true := by decide +kernel
  obtain ⟨⟨report, target'⟩, hrun⟩ := exists_of_isOk hok
  refine ⟨report, target', hrun, (import_keeps_ledger_iff invoicedTarget_consistent invoicedTarget_references hrun).2 ?_⟩
  intro row hrow _
  rw [List.mem_singleton.1 hrow]
  decide +kernel

end Examples

end Ledger

end CoreOps.Imports
