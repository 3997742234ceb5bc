import CoreOps.Finance.Overdue

/-! What an allocation joins. A request is checked for the payment's status and tenant and
for the invoices' tenant and status, and for nothing else, so the direction of the payment
and the currencies of the two sides are the caller's to keep. Nothing later changes any of
these of a payment or an invoice. -/

namespace CoreOps.Finance

open Checked

/-- A completed incoming payment and an invoice, of one tenant and one currency. -/
structure Compatible (tenantId : ℕ) (p : Payment) (i : Invoice) : Prop where
  completed : p.status = .completed
  incoming : p.direction = .incoming
  payment_tenant : p.tenantId = tenantId
  invoice_tenant : i.tenantId = tenantId
  currency : i.currency = p.currency

/-- Every allocation row joins a payment to an invoice that it is compatible with. -/
def JoinsCompatible (s : State) : Prop :=
  ∀ r ∈ s.allocations.rows, ∃ p i, s.payments.get? r.1.1 = some p ∧ s.invoices.get? r.1.2 = some i ∧
    Compatible r.2.tenantId p i

/-- The payment of the request is incoming, and its invoices are in its currency. -/
def AllocatesCompatibly (s : State) : Op → Prop
  | .allocatePayment caller _ paymentId payload => ∀ p ∈ getPayment s caller.tenantId paymentId,
      p.direction = .incoming ∧ ∀ item ∈ payload.allocations,
        ∀ i ∈ getInvoice s caller.tenantId item.invoiceId, i.currency = p.currency
  | _ => True

instance : ∀ s op, Decidable (AllocatesCompatibly s op)
  | s, .allocatePayment caller _ paymentId payload =>
    inferInstanceAs (Decidable (∀ p ∈ getPayment s caller.tenantId paymentId,
      p.direction = .incoming ∧ ∀ item ∈ payload.allocations,
        ∀ i ∈ getInvoice s caller.tenantId item.invoiceId, i.currency = p.currency))
  | _, .createInvoice .. => inferInstanceAs (Decidable True)
  | _, .updateInvoice .. => inferInstanceAs (Decidable True)
  | _, .createPayment .. => inferInstanceAs (Decidable True)

/-! No call changes what an allocation was checked against. -/

/-- The parts of two payments that an allocation depends on are the same. -/
def Payment.SameTerms (p p' : Payment) : Prop :=
  p'.status = p.status ∧ p'.direction = p.direction ∧ p'.tenantId = p.tenantId ∧ p'.currency = p.currency

def Invoice.SameTerms (i i' : Invoice) : Prop := i'.tenantId = i.tenantId ∧ i'.currency = i.currency

theorem Compatible.congr {tenantId : ℕ} {p p' : Payment} {i i' : Invoice} (h : Compatible tenantId p i)
    (hp : p.SameTerms p') (hi : i.SameTerms i') : Compatible tenantId p' i' := by
  obtain ⟨h₁, h₂, h₃, h₄⟩ := hp
  obtain ⟨h₅, h₆⟩ := hi
  exact ⟨h₁.trans h.completed, h₂.trans h.incoming, h₃.trans h.payment_tenant, h₅.trans h.invoice_tenant,
    h₆.trans (h.currency.trans h₄.symm)⟩

/-- The rows stay, on the same terms. -/
structure KeepsTerms (s s' : State) : Prop where
  payments : ∀ id p, s.payments.get? id = some p → ∃ p', s'.payments.get? id = some p' ∧ p.SameTerms p'
  invoices : ∀ id i, s.invoices.get? id = some i → ∃ i', s'.invoices.get? id = some i' ∧ i.SameTerms i'

theorem keepsTerms_createInvoice {caller : Caller} {clock : Clock} {invoiceId : ℕ} {payload : InvoiceCreate}
    {s s' : State} (h : createInvoice caller clock invoiceId payload s = .ok s') :
    KeepsTerms s s' ∧ s'.allocations = s.allocations := by
  obtain ⟨i, hnone, rfl, -⟩ := createInvoice_ok h
  refine ⟨⟨fun id p hp => ⟨p, hp, rfl, rfl, rfl, rfl⟩, fun id j hj => ⟨j, ?_, rfl, rfl⟩⟩, rfl⟩
  have hne : id ≠ invoiceId := by
    rintro rfl
    rw [hnone] at hj
    cases hj
  rw [Table.get?_insert_new _ _ _ hnone, if_neg hne, hj]

theorem keepsTerms_updateInvoice {caller : Caller} {clock : Clock} {invoiceId : ℕ} {payload : InvoiceUpdate}
    {s s' : State} (h : updateInvoice caller clock invoiceId payload s = .ok s') :
    KeepsTerms s s' ∧ s'.allocations = s.allocations := by
  simp only [updateInvoice, bind_eq_ok, orRaise_eq_ok, raiseIf_eq_ok, pure_eq_ok] at h
  obtain ⟨i, hget, i₁, h₁, -, -, -, -, rfl⟩ := h
  obtain ⟨-, -, -, htenant, hcurrency, -⟩ := applyStatus_ok h₁
  have hi : s.invoices.get? invoiceId = some i := (Option.filter_eq_some_iff.1 hget).1
  refine ⟨⟨fun id p hp => ⟨p, hp, rfl, rfl, rfl, rfl⟩, fun id j hj => ?_⟩, rfl⟩
  by_cases hid : id = invoiceId
  · subst hid
    obtain rfl := Option.some.inj (hi.symm.trans hj)
    rw [Table.get?_modify_self, hi, Option.map_some]
    exact ⟨_, rfl, htenant, hcurrency⟩
  · rw [Table.get?_modify_of_ne _ hid, hj]
    exact ⟨j, rfl, rfl, rfl⟩

theorem keepsTerms_createPayment {caller : Caller} {clock : Clock} {paymentId : ℕ} {payload : PaymentCreate}
    {s s' : State} (h : createPayment caller clock paymentId payload s = .ok s') :
    KeepsTerms s s' ∧ s'.allocations = s.allocations := by
  obtain ⟨p, hnone, -, -, -, rfl⟩ := createPayment_ok h
  refine ⟨⟨fun id q hq => ⟨q, ?_, rfl, rfl, rfl, rfl⟩, fun id i hi => ⟨i, hi, rfl, rfl⟩⟩, rfl⟩
  have hne : id ≠ paymentId := by
    rintro rfl
    rw [hnone] at hq
    cases hq
  rw [Table.get?_insert_new _ _ _ hnone, if_neg hne, hq]

/-- The invoices of an accepted request are the caller's. -/
theorem allocateItems_tenant {caller : Caller} {clock : Clock} {paymentId : ℕ} {items : List PaymentAllocationItem}
    {s s' : State} {t t' : Touched} (h : items.foldlM (allocateItem caller clock paymentId) (s, t) = .ok (s', t')) :
    ∀ item ∈ items, ∃ i, s.invoices.get? item.invoiceId = some i ∧ i.tenantId = caller.tenantId := by
  induction items generalizing s t with
  | nil =>
    intro item hitem
    cases hitem
  | cons first items ih =>
    rw [List.foldlM_cons, bind_eq_ok] at h
    obtain ⟨⟨s₁, t₁⟩, h₁, h₂⟩ := h
    obtain ⟨i, hi, htenant, -, -, hs₁, -⟩ := allocateItem_ok h₁
    intro item hitem
    rcases List.mem_cons.1 hitem with rfl | hitem
    · exact ⟨i, hi, htenant⟩
    · obtain ⟨j, hj, hjtenant⟩ := ih h₂ item hitem
      rw [hs₁] at hj
      by_cases hid : item.invoiceId = first.invoiceId
      · rw [hid]
        exact ⟨i, hi, htenant⟩
      · rw [Table.get?_modify_of_ne _ hid] at hj
        exact ⟨j, hj, hjtenant⟩

/-- An accepted request: what it was checked against, and the rows it adds. -/
theorem allocatePayment_terms {caller : Caller} {clock : Clock} {paymentId : ℕ} {payload : PaymentAllocateRequest}
    {s s' : State} (h : allocatePayment caller clock paymentId payload s = .ok s') :
    KeepsTerms s s' ∧
      s'.allocations.rows = s.allocations.rows ++ payload.allocations.map (allocationRow caller.tenantId paymentId) ∧
      ∃ p, getPayment s caller.tenantId paymentId = some p ∧ p.status = .completed ∧
        ∀ item ∈ payload.allocations, ∃ i, getInvoice s caller.tenantId item.invoiceId = some i := by
  have hraw := h
  obtain ⟨p, s₁, hp, -, hall, rfl⟩ := allocatePayment_ok h
  simp only [allocatePayment, bind_eq_ok, orRaise_eq_ok, raiseIf_eq_ok, not_not] at hraw
  obtain ⟨p', hget, -, hcompleted, -, -, ⟨s₂, t₂⟩, hloop, -⟩ := hraw
  refine ⟨⟨fun id q hq => ?_, fun id i hi => ?_⟩, hall.rows, p', hget, hcompleted, fun item hitem => ?_⟩
  · have hq₁ : s₁.payments.get? id = some q := by rw [hall.payments, hq]
    by_cases hid : id = paymentId
    · subst hid
      rw [Table.get?_modify_self, hq₁, Option.map_some]
      exact ⟨_, rfl, rfl, rfl, rfl, rfl⟩
    · rw [Table.get?_modify_of_ne _ hid, hq₁]
      exact ⟨q, rfl, rfl, rfl, rfl, rfl⟩
  · by_cases hid : id ∈ payload.allocations.map (·.invoiceId)
    · obtain ⟨item, hitem, rfl⟩ := List.mem_map.1 hid
      obtain ⟨j, hj, -, hj₁⟩ := hall.paid item hitem
      obtain rfl := Option.some.inj (hi.symm.trans hj)
      exact ⟨_, hj₁, rfl, rfl⟩
    · exact ⟨i, (hall.others id hid).trans hi, rfl, rfl⟩
  · obtain ⟨i, hi, htenant⟩ := allocateItems_tenant hloop item hitem
    exact ⟨i, Option.filter_eq_some_iff.2 ⟨hi, decide_eq_true htenant⟩⟩

theorem JoinsCompatible.of_keeps {s s' : State} (h : JoinsCompatible s) (hkeeps : KeepsTerms s s') :
    ∀ r ∈ s.allocations.rows, ∃ p i, s'.payments.get? r.1.1 = some p ∧ s'.invoices.get? r.1.2 = some i ∧
      Compatible r.2.tenantId p i := by
  intro r hr
  obtain ⟨p, i, hp, hi, hcompatible⟩ := h r hr
  obtain ⟨p', hp', hpterms⟩ := hkeeps.payments _ p hp
  obtain ⟨i', hi', hiterms⟩ := hkeeps.invoices _ i hi
  exact ⟨p', i', hp', hi', hcompatible.congr hpterms hiterms⟩

/-- The condition on a request is exact. -/
theorem joinsCompatible_allocatePayment_iff {caller : Caller} {clock : Clock} {paymentId : ℕ}
    {payload : PaymentAllocateRequest} {s s' : State} (h : JoinsCompatible s)
    (ha : allocatePayment caller clock paymentId payload s = .ok s') :
    JoinsCompatible s' ↔ AllocatesCompatibly s (.allocatePayment caller clock paymentId payload) := by
  obtain ⟨hkeeps, hrows, p, hget, hcompleted, hinvoices⟩ := allocatePayment_terms ha
  obtain ⟨hp, hptenant⟩ := Option.filter_eq_some_iff.1 hget
  obtain ⟨p', hp', hpterms⟩ := hkeeps.payments _ p hp
  obtain ⟨hstatus', hdirection', htenant', hcurrency'⟩ := id hpterms
  have hitem : ∀ item ∈ payload.allocations, ∃ i i', getInvoice s caller.tenantId item.invoiceId = some i ∧
      s'.invoices.get? item.invoiceId = some i' ∧ i.SameTerms i' := by
    intro item hitem
    obtain ⟨i, hi⟩ := hinvoices item hitem
    obtain ⟨i', hi', hterms⟩ := hkeeps.invoices _ i (Option.filter_eq_some_iff.1 hi).1
    exact ⟨i, i', hi, hi', hterms⟩
  simp only [AllocatesCompatibly, hget, Option.mem_def, Option.some.injEq, forall_eq']
  constructor
  · intro hjoins
    -- the row of each item tells of the payment and of the item's invoice
    have hrow : ∀ item ∈ payload.allocations, ∃ i', s'.invoices.get? item.invoiceId = some i' ∧
        Compatible caller.tenantId p' i' := by
      intro item hmem
      have hin : allocationRow caller.tenantId paymentId item ∈ s'.allocations.rows := by
        rw [hrows]
        exact List.mem_append_right _ (List.mem_map.2 ⟨item, hmem, rfl⟩)
      obtain ⟨q, i', hq, hi', hcompatible⟩ := hjoins _ hin
      obtain rfl := Option.some.inj (hp'.symm.trans hq)
      exact ⟨i', hi', hcompatible⟩
    obtain ⟨first, hfirst⟩ := List.exists_mem_of_ne_nil _ payload.allocations_ne_nil
    obtain ⟨i₀, -, hcompatible⟩ := hrow first hfirst
    refine ⟨hdirection'.symm.trans hcompatible.incoming, fun item hmem i hi => ?_⟩
    obtain ⟨j, j', hj, hj', -, hjcurrency⟩ := hitem item hmem
    obtain rfl := Option.some.inj (hi.symm.trans hj)
    obtain ⟨i', hi', hcompatible'⟩ := hrow item hmem
    obtain rfl := Option.some.inj (hj'.symm.trans hi')
    exact hjcurrency.symm.trans (hcompatible'.currency.trans hcurrency')
  · rintro ⟨hincoming, hcurrencies⟩ r hr
    rw [hrows, List.mem_append] at hr
    rcases hr with hr | hr
    · exact h.of_keeps hkeeps r hr
    · obtain ⟨item, hmem, rfl⟩ := List.mem_map.1 hr
      obtain ⟨i, i', hi, hi', hiterms⟩ := hitem item hmem
      have hitenant : i.tenantId = caller.tenantId := of_decide_eq_true (Option.filter_eq_some_iff.1 hi).2
      have hnow : Compatible caller.tenantId p i :=
        ⟨hcompleted, hincoming, of_decide_eq_true hptenant, hitenant, hcurrencies item hmem i hi⟩
      exact ⟨p', i', hp', hi', hnow.congr hpterms hiterms⟩

theorem JoinsCompatible.exec {s s' : State} {op : Op} (h : JoinsCompatible s) (hop : AllocatesCompatibly s op)
    (he : exec s op = .ok s') : JoinsCompatible s' := by
  have hother : KeepsTerms s s' ∧ s'.allocations = s.allocations → JoinsCompatible s' := by
    rintro ⟨hkeeps, hrows⟩ r hr
    rw [hrows] at hr
    exact h.of_keeps hkeeps r hr
  cases op with
  | createInvoice caller clock invoiceId payload => exact hother (keepsTerms_createInvoice he)
  | updateInvoice caller clock invoiceId payload => exact hother (keepsTerms_updateInvoice he)
  | createPayment caller clock paymentId payload => exact hother (keepsTerms_createPayment he)
  | allocatePayment caller clock paymentId payload => exact (joinsCompatible_allocatePayment_iff h he).2 hop

theorem JoinsCompatible.noBooks (s : State) : JoinsCompatible s.noBooks := by
  intro r hr
  cases hr

/-- As long as no request allocates a payment that is not incoming or an amount in another
currency, every allocation joins a completed incoming payment to an invoice of the same
tenant and currency. -/
theorem allocations_join_compatible (s₀ s : State) (ops : List Op)
    (h : Run (Restrict AllocatesCompatibly (CallStep exec)) s₀.noBooks ops s) : JoinsCompatible s := by
  refine h.invariant_restrict JoinsCompatible (JoinsCompatible.noBooks s₀) ?_
  rintro s op s' hinv hop rfl
  exact settle_keeps hinv fun s' he => hinv.exec hop he

section Examples

/-- A completed payment of 10.00 with a direction and a currency. -/
def demoPaymentOf (direction : PaymentDirection) (currency : String) : PaymentCreate :=
  { demoPayment with direction := direction, currency := currency }

/-- The payment, allocated to an invoice of 10.00 roubles. -/
def allocateFrom (direction : PaymentDirection) (currency : String) : List Op :=
  [.createInvoice demoCaller demoClock 1 demoInvoice,
    .createPayment demoCaller demoClock 3 (demoPaymentOf direction currency),
    .allocatePayment demoCaller demoClock 3 payInFull]

def allocated (direction : PaymentDirection) (currency : String) : State :=
  (allocateFrom direction currency).foldl (settle exec) demoState.noBooks

/-- Some row joins a payment that is not incoming or an invoice of another currency. -/
def wronglyJoined (s : State) : Bool :=
  s.allocations.rows.any fun r => (s.payments.get? r.1.1).any fun p => (s.invoices.get? r.1.2).any fun i =>
    !decide (p.direction = .incoming ∧ i.currency = p.currency)

theorem not_joinsCompatible_of_wronglyJoined {s : State} (h : wronglyJoined s = true) : ¬ JoinsCompatible s := by
  intro hjoins
  obtain ⟨r, hr, h⟩ := List.any_eq_true.1 h
  obtain ⟨p, i, hp, hi, hcompatible⟩ := hjoins r hr
  rw [hp, hi, Option.any_some, Option.any_some,
    decide_eq_true (And.intro hcompatible.incoming hcompatible.currency)] at h
  cases h

/-- An outgoing payment and one in tenge are both allocated to an invoice in roubles. -/
theorem incompatible_allocations :
    (∃ s, Run (CallStep exec) demoState.noBooks (allocateFrom .outgoing "RUB") s ∧ ¬ JoinsCompatible s) ∧
    ∃ s, Run (CallStep exec) demoState.noBooks (allocateFrom .incoming "KZT") s ∧ ¬ JoinsCompatible s := by
  refine ⟨⟨allocated .outgoing "RUB", Run.of_foldl, not_joinsCompatible_of_wronglyJoined ?_⟩,
    ⟨allocated .incoming "KZT", Run.of_foldl, not_joinsCompatible_of_wronglyJoined ?_⟩⟩
  · decide +kernel
  · decide +kernel

/-- The theorem where the payment is incoming and in roubles, and a row joins it to the invoice. -/
theorem allocations_join_compatible_incoming : ∃ s,
    Run (Restrict AllocatesCompatibly (CallStep exec)) demoState.noBooks (allocateFrom .incoming "RUB") s ∧
    s.allocations.rows ≠ [] ∧ JoinsCompatible s := by
  have hrun : Run (Restrict AllocatesCompatibly (CallStep exec)) demoState.noBooks (allocateFrom .incoming "RUB")
      (allocated .incoming "RUB") :=
    Run.cons ⟨trivial, rfl⟩ (Run.cons ⟨trivial, rfl⟩ (Run.single ⟨by decide +kernel, rfl⟩))
  exact ⟨_, hrun, by decide +kernel, allocations_join_compatible demoState _ _ hrun⟩

end Examples

end CoreOps.Finance
