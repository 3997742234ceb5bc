import CoreOps.Imports.Idempotence

/-! What the two payment stages write. A payment that names an order is posted: a payment
row, a paid invoice shell for the order, and an allocation between them; any other payment
is a row alone. The other stages leave the three tables as they are. -/

namespace CoreOps.Imports

open Checked Text

section Rows

variable (config : StagingWriteImportConfig) (row : PaymentSource)

def legacyPayment (needsReview unlinked : Bool) (amount paymentDate : ℤ) : Finance.Payment where
  tenantId := config.tenantId
  partyId := none
  paymentNumber := "LEGACY-PAY-" ++ orElse (some (orElse row.id "")) "UNKNOWN"
  amount := amount
  currency := "RUB"
  amountAllocated := 0
  paymentDate := paymentDate
  method := .other
  status := .completed
  direction := if needsReview then .needsReview else .incoming
  referenceNumber := some (orElse row.paymentRef "")
  notes := some ("; ".intercalate (["legacy_import", if needsReview then "needs_review" else "",
    if unlinked then "unlinked_legacy_payment" else "",
    if orElse row.id "" = "" then "" else buildSourceRef "payments" (orElse row.id "")].filter (· ≠ "")))

def legacyInvoiceNumber (orderId : String) : String := "LEGACY-INV-" ++ orderId

def legacyInvoice (amount : ℤ) : Finance.Invoice where
  tenantId := config.tenantId
  legalEntityId := none
  taxProfileId := none
  partyId := 0
  workItemId := none
  documentId := none
  invoiceNumber := legacyInvoiceNumber (orElse row.orderId "unknown")
  status := .paid
  currency := "RUB"
  subtotal := amount
  taxAmount := 0
  total := amount
  amountPaid := amount
  issueDate := none
  dueDate := none
  issuedAt := none
  notes := some "legacy invoice shell"
  lines := [⟨none, "legacy order payment shell", 10000, amount, amount, 10⟩]

def legacyAllocation (amount : ℤ) : Finance.PaymentAllocation := ⟨config.tenantId, amount, some "legacy linked allocation"⟩

end Rows

/-- What is written for one source payment; only a posting has an invoice. -/
structure Posting where
  row : PaymentSource
  amount : ℤ
  paymentDate : ℤ
  paymentId : ℕ
  invoiceId : ℕ

namespace Posting

variable (config : StagingWriteImportConfig) (p : Posting)

/-- The amount and the date are what the columns store. -/
structure Stored : Prop where
  amount : moneyColumn (p.row.amount.getD 0) = .ok p.amount
  paymentDate : p.row.paymentDate = some p.paymentDate

def payment : ℕ × Finance.Payment := (p.paymentId, legacyPayment config p.row false false p.amount p.paymentDate)

def orphanPayment : ℕ × Finance.Payment := (p.paymentId, legacyPayment config p.row true true p.amount p.paymentDate)

def invoice : ℕ × Finance.Invoice := (p.invoiceId, legacyInvoice config p.row p.amount)

def allocation : (ℕ × ℕ) × Finance.PaymentAllocation := ((p.paymentId, p.invoiceId), legacyAllocation config p.amount)

end Posting

/-! One payment. -/

section Payment

variable {config : StagingWriteImportConfig} {row : PaymentSource} {business business' : Business} {target target' : Target}
  {newId : ℕ} {result : RowResult}

theorem createPaymentRow_eq_ok {needsReview unlinked : Bool} :
    createPaymentRow config row needsReview unlinked business = .ok (newId, business') ↔
    ∃ amount paymentDate, moneyColumn (row.amount.getD 0) = .ok amount ∧ row.paymentDate = some paymentDate ∧
      newId = business.payments.freshKey ∧
      business' = { business with
        payments := business.payments.add (legacyPayment config row needsReview unlinked amount paymentDate) } := by
  constructor
  · intro h
    simp only [createPaymentRow, bind_eq_ok, orRaise_eq_ok, pure_eq_ok, Prod.mk.injEq] at h
    obtain ⟨amount, hamount, paymentDate, hdate, rfl, rfl⟩ := h
    exact ⟨amount, paymentDate, hamount, hdate, rfl, rfl⟩
  · rintro ⟨amount, paymentDate, hamount, hdate, rfl, rfl⟩
    simp only [createPaymentRow, bind_eq_ok, orRaise_eq_ok]
    exact ⟨amount, hamount, paymentDate, hdate, rfl⟩

/-- The tenant has an invoice of the number. -/
def NumberTaken (config : StagingWriteImportConfig) (invoices : Table ℕ Finance.Invoice) (number : String) : Prop :=
  ∃ r ∈ invoices.rows, r.2.tenantId = config.tenantId ∧ r.2.invoiceNumber = number

theorem createInvoiceShell_eq_ok : createInvoiceShell config row business = .ok (newId, business') ↔
    ∃ amount, moneyColumn (row.amount.getD 0) = .ok amount ∧
      ¬ NumberTaken config business.invoices (legacyInvoiceNumber (orElse row.orderId "unknown")) ∧
      newId = business.invoices.freshKey ∧
      business' = { business with invoices := business.invoices.add (legacyInvoice config row amount) } := by
  have htaken : (business.invoices.rows.any fun r => r.2.tenantId = config.tenantId &&
      r.2.invoiceNumber = "LEGACY-INV-" ++ orElse row.orderId "unknown") = true ↔
      NumberTaken config business.invoices (legacyInvoiceNumber (orElse row.orderId "unknown")) := by
    simp only [List.any_eq_true, Bool.and_eq_true, decide_eq_true_eq]
    rfl
  constructor
  · intro h
    simp only [createInvoiceShell, bind_eq_ok, raiseIf_eq_ok, pure_eq_ok, Prod.mk.injEq] at h
    obtain ⟨amount, hamount, -, hfree, rfl, rfl⟩ := h
    exact ⟨amount, hamount, fun hno => hfree (htaken.2 hno), rfl, rfl⟩
  · rintro ⟨amount, hamount, hfree, rfl, rfl⟩
    simp only [createInvoiceShell, bind_eq_ok, raiseIf_eq_ok]
    exact ⟨amount, hamount, ⟨⟩, fun hno => hfree (htaken.1 hno), rfl⟩

/-- A posting under the next keys of the tables. -/
def nextPosting (business : Business) (row : PaymentSource) (amount paymentDate : ℤ) : Posting :=
  ⟨row, amount, paymentDate, business.payments.freshKey, business.invoices.freshKey⟩

/-- The tables with the three rows of a posting. -/
def Business.post (config : StagingWriteImportConfig) (business : Business) (p : Posting) : Business :=
  { business with
    payments := business.payments.add (p.payment config).2
    invoices := business.invoices.add (p.invoice config).2
    allocations := business.allocations.insert (p.allocation config).1 (p.allocation config).2 }

theorem importLinkedPayment_eq_ok (hlinked : isLinked row = true) :
    importLinkedPayment config row target = .ok (result, target') ↔
    ∃ amount paymentDate, (nextPosting target.business row amount paymentDate).Stored ∧
      ¬ NumberTaken config target.business.invoices (legacyInvoiceNumber (orElse row.orderId "")) ∧
      target.business.allocations.get? (target.business.payments.freshKey, target.business.invoices.freshKey) = none ∧
      result = { imported := true } ∧
      target' = target.withBusiness (target.business.post config (nextPosting target.business row amount paymentDate)) := by
  have hid : orElse row.orderId "unknown" = orElse row.orderId "" :=
    orElse_eq_of_ne (of_decide_eq_true hlinked) "unknown"
  simp only [importLinkedPayment, if_pos hlinked, bind_eq_ok, pure_eq_ok, Prod.exists, Prod.mk.injEq,
    createPaymentRow_eq_ok, createInvoiceShell_eq_ok, allocateLinked, raiseIf_eq_ok, hid]
  constructor
  · rintro ⟨paymentId, b₁, ⟨amount, paymentDate, hamount, hdate, rfl, rfl⟩, invoiceId, b₂,
      ⟨amount₂, hamount₂, hfree, rfl, rfl⟩, b₃, ⟨amount₃, hamount₃, -, hkey, rfl⟩, rfl, rfl⟩
    obtain rfl := Except.ok.inj (hamount.symm.trans hamount₂)
    obtain rfl := Except.ok.inj (hamount.symm.trans hamount₃)
    exact ⟨amount, paymentDate, ⟨hamount, hdate⟩, hfree, by simpa using hkey, rfl, rfl⟩
  · rintro ⟨amount, paymentDate, hstored, hfree, hkey, rfl, rfl⟩
    exact ⟨_, _, ⟨amount, paymentDate, hstored.amount, hstored.paymentDate, rfl, rfl⟩, _, _,
      ⟨amount, hstored.amount, hfree, rfl, rfl⟩, _, ⟨amount, hstored.amount, ⟨⟩, by simpa using hkey, rfl⟩, rfl, rfl⟩

theorem importLinkedPayment_orphan (hlinked : isLinked row = false) :
    importLinkedPayment config row target = .ok (result, target') ↔ result = {} ∧ target' = target := by
  rw [importLinkedPayment, hlinked, if_neg Bool.false_ne_true, pure_eq_ok, Prod.mk.injEq, eq_comm, @eq_comm _ target]

theorem importOrphanPayment_linked (hlinked : isLinked row = true) :
    importOrphanPayment config row target = .ok (result, target') ↔ result = {} ∧ target' = target := by
  rw [importOrphanPayment, if_pos hlinked, pure_eq_ok, Prod.mk.injEq, eq_comm, @eq_comm _ target]

theorem importOrphanPayment_eq_ok (hlinked : isLinked row = false) :
    importOrphanPayment config row target = .ok (result, target') ↔
    ∃ amount paymentDate, (nextPosting target.business row amount paymentDate).Stored ∧
      result = { imported := true, reviewFlags := ["unlinked_legacy_payment"] } ∧
      target' = target.withBusiness { target.business with
        payments := target.business.payments.add
          ((nextPosting target.business row amount paymentDate).orphanPayment config).2 } := by
  simp only [importOrphanPayment, hlinked, if_neg Bool.false_ne_true, bind_eq_ok, pure_eq_ok, Prod.exists, Prod.mk.injEq,
    createPaymentRow_eq_ok]
  constructor
  · rintro ⟨paymentId, b₁, ⟨amount, paymentDate, hamount, hdate, rfl, rfl⟩, rfl, rfl⟩
    exact ⟨amount, paymentDate, ⟨hamount, hdate⟩, rfl, rfl⟩
  · rintro ⟨amount, paymentDate, hstored, rfl, rfl⟩
    exact ⟨_, _, ⟨amount, paymentDate, hstored.amount, hstored.paymentDate, rfl, rfl⟩, rfl, rfl⟩

end Payment

/-! A run. -/

/-- The three tables with the postings and the payments without an order after what was
there. -/
structure Posted (config : StagingWriteImportConfig) (b b' : Business) (postings orphans : List Posting) : Prop where
  payments : b'.payments.rows =
    b.payments.rows ++ postings.map (·.payment config) ++ orphans.map (·.orphanPayment config)
  invoices : b'.invoices.rows = b.invoices.rows ++ postings.map (·.invoice config)
  allocations : b'.allocations.rows = b.allocations.rows ++ postings.map (·.allocation config)

section Stages

variable {adapter : SqlAlchemyStagingWriteAdapter} {config : StagingWriteImportConfig} {data : Dataset}
  {target target' : Target} {rows : List PaymentSource} {results : List RowResult}

theorem linked_posted (h : importRows (importLinkedPayment config) rows target = .ok (results, target')) :
    ∃ postings : List Posting, postings.map (·.row) = rows.filter isLinked ∧ (∀ p ∈ postings, p.Stored) ∧
      Posted config target.business target'.business postings [] := by
  induction rows generalizing target results with
  | nil =>
    obtain ⟨-, rfl⟩ := Prod.mk.inj (Except.ok.inj h)
    exact ⟨[], rfl, fun p hp => absurd hp List.not_mem_nil, by simp, by simp, by simp⟩
  | cons row rows ih =>
    obtain ⟨result, t, rest, hrow, hrest, rfl⟩ := importRows_cons.1 h
    obtain ⟨postings, hrows, hstored, hposted⟩ := ih hrest
    cases hlinked : isLinked row with
    | false =>
      obtain ⟨-, rfl⟩ := (importLinkedPayment_orphan hlinked).1 hrow
      exact ⟨postings, by rw [hrows, List.filter_cons_of_neg (by simp [hlinked])], hstored, hposted⟩
    | true =>
      obtain ⟨amount, paymentDate, hp, -, hkey, -, rfl⟩ := (importLinkedPayment_eq_ok hlinked).1 hrow
      refine ⟨nextPosting target.business row amount paymentDate :: postings, ?_, ?_, ?_, ?_, ?_⟩
      · rw [List.map_cons, hrows, List.filter_cons_of_pos hlinked]
        rfl
      · exact List.forall_mem_cons.2 ⟨hp, hstored⟩
      · simp [hposted.payments, Target.withBusiness, Business.post, Table.rows_add, Posting.payment, nextPosting]
      · simp [hposted.invoices, Target.withBusiness, Business.post, Table.rows_add, Posting.invoice, nextPosting]
      · let p := nextPosting target.business row amount paymentDate
        have hkey' : target.business.allocations.get? (p.allocation config).1 = none := hkey
        calc target'.business.allocations.rows
            = (target.business.allocations.insert (p.allocation config).1 (p.allocation config).2).rows ++
                postings.map (·.allocation config) := hposted.allocations
          _ = target.business.allocations.rows ++ (p :: postings).map (·.allocation config) := by
            rw [Table.rows_insert_new _ _ hkey', List.append_assoc]
            rfl

theorem orphan_posted (h : importRows (importOrphanPayment config) rows target = .ok (results, target')) :
    ∃ orphans : List Posting, orphans.map (·.row) = rows.filter (fun row => !isLinked row) ∧ (∀ p ∈ orphans, p.Stored) ∧
      Posted config target.business target'.business [] orphans := by
  induction rows generalizing target results with
  | nil =>
    obtain ⟨-, rfl⟩ := Prod.mk.inj (Except.ok.inj h)
    exact ⟨[], rfl, fun p hp => absurd hp List.not_mem_nil, by simp, by simp, by simp⟩
  | cons row rows ih =>
    obtain ⟨result, t, rest, hrow, hrest, rfl⟩ := importRows_cons.1 h
    obtain ⟨orphans, hrows, hstored, hposted⟩ := ih hrest
    cases hlinked : isLinked row with
    | true =>
      obtain ⟨-, rfl⟩ := (importOrphanPayment_linked hlinked).1 hrow
      exact ⟨orphans, by rw [hrows, List.filter_cons_of_neg (by simp [hlinked])], hstored, hposted⟩
    | false =>
      obtain ⟨amount, paymentDate, hp, -, rfl⟩ := (importOrphanPayment_eq_ok hlinked).1 hrow
      refine ⟨nextPosting target.business row amount paymentDate :: orphans, ?_, ?_, ?_, ?_, ?_⟩
      · rw [List.map_cons, hrows, List.filter_cons_of_pos (by simp [hlinked])]
        rfl
      · exact List.forall_mem_cons.2 ⟨hp, hstored⟩
      · simp [hposted.payments, Target.withBusiness, Table.rows_add, Posting.orphanPayment, nextPosting]
      · exact hposted.invoices
      · exact hposted.allocations

/-- The stages before the payments leave the three tables alone. -/
def SameLedger (b b' : Business) : Prop :=
  b'.payments = b.payments ∧ b'.invoices = b.invoices ∧ b'.allocations = b.allocations

theorem createCatalogItem_ledger {row : ServiceSource} {sourceId : String} {b b' : Business} {newId : ℕ}
    (h : createCatalogItem config row sourceId b = .ok (newId, b')) : SameLedger b b' := by
  simp only [createCatalogItem, bind_eq_ok, pure_eq_ok, Prod.mk.injEq] at h
  obtain ⟨-, -, -, -, -, rfl⟩ := h
  exact ⟨rfl, rfl, rfl⟩

theorem createParty_ledger {row : ClientSource} {sourceId : String} {b b' : Business} {newId : ℕ}
    (h : createParty config row sourceId b = .ok (newId, b')) : SameLedger b b' := by
  simp only [createParty, pure_eq_ok, Prod.mk.injEq] at h
  obtain ⟨-, rfl⟩ := h
  exact ⟨rfl, rfl, rfl⟩

theorem createWorkItem_ledger {keysHold : Bool} {row : OrderSource} {sourceId : String} {b b' : Business} {newId : ℕ}
    (h : createWorkItem config keysHold row sourceId b = .ok (newId, b')) : SameLedger b b' := by
  simp only [createWorkItem, bind_eq_ok, pure_eq_ok, Prod.mk.injEq] at h
  obtain ⟨-, -, -, -, -, rfl⟩ := h
  exact ⟨rfl, rfl, rfl⟩

theorem importContract_ledger {row : ContractSource} {result : RowResult}
    (h : importContract adapter config row target = .ok (result, target')) :
    SameLedger target.business target'.business := by
  unfold importContract at h
  by_cases hid : orElse row.id "" = ""
  · rw [if_pos hid] at h
    obtain ⟨-, rfl⟩ := Prod.mk.inj (Except.ok.inj h)
    exact ⟨rfl, rfl, rfl⟩
  · rw [if_neg hid] at h
    obtain ⟨-, rfl⟩ := Prod.mk.inj (Except.ok.inj h)
    exact ⟨rfl, rfl, rfl⟩

theorem SameLedger.trans {a b c : Business} (h : SameLedger a b) (h' : SameLedger b c) : SameLedger a c :=
  ⟨h'.1.trans h.1, h'.2.1.trans h.2.1, h'.2.2.trans h.2.2⟩

/-- What a run writes to the ledger. -/
theorem Stages.posted (h : Stages adapter config data target target') :
    ∃ postings orphans : List Posting, postings.map (·.row) = data.payments.filter isLinked ∧
      orphans.map (·.row) = data.payments.filter (fun row => !isLinked row) ∧
      (∀ p ∈ postings, p.Stored) ∧ (∀ p ∈ orphans, p.Stored) ∧
      Posted config target.business target'.business postings orphans := by
  obtain ⟨r₁, t₁, r₂, t₂, r₃, t₃, r₄, t₄, r₅, t₅, r₆, t₆, r₇, h₁, h₂, h₃, h₄, h₅, h₆, h₇⟩ := h
  let I : Target → Prop := fun t => SameLedger target.business t.business
  have i₁ : I t₁ := importRows_invariant I (fun row _ t r t' hstep => importReferenced_keeps I
    (fun _ _ _ _ hnew hI => hI.trans (createCatalogItem_ledger hnew)) (fun _ _ hI => hI) hstep) h₁ ⟨rfl, rfl, rfl⟩
  have i₂ : I t₂ := importRows_invariant I (fun row _ t r t' hstep => importReferenced_keeps I
    (fun _ _ _ _ hnew hI => hI.trans (createParty_ledger hnew)) (fun _ _ hI => hI) hstep) h₂ i₁
  have i₃ : I t₃ := importRows_invariant I (fun row _ t r t' hstep => importReferenced_keeps I
    (fun _ _ _ _ hnew hI => hI.trans (createWorkItem_ledger hnew)) (fun _ _ hI => hI) hstep) h₃ i₂
  have i₄ : I t₄ := importRows_invariant I (fun row _ t r t' hstep hI => by
    rcases importOrderItem_log hstep with rfl | ⟨log, rfl, -⟩ <;> exact hI) h₄ i₃
  have i₅ : I t₅ := importRows_invariant I
    (fun row _ t r t' hstep hI => hI.trans (importContract_ledger hstep)) h₅ i₄
  obtain ⟨postings, hrows, hstored, hposted⟩ := linked_posted h₆
  obtain ⟨orphans, hrows', hstored', hposted'⟩ := orphan_posted h₇
  refine ⟨postings, orphans, hrows, hrows', hstored, hstored', ?_, ?_, ?_⟩
  · rw [hposted'.payments, hposted.payments, i₅.1]
    simp
  · rw [hposted'.invoices, hposted.invoices, i₅.2.1]
    simp
  · rw [hposted'.allocations, hposted.allocations, i₅.2.2]
    simp

end Stages

end CoreOps.Imports
