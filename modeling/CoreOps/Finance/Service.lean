import CoreOps.Finance.Model

/-! The finance service, one definition for each method. A method returns the state
its transaction commits, or the exception it raises, after which nothing of it is
left. -/

namespace CoreOps.Finance

open Checked

section Repository

variable (s : State) (tenantId : ℕ)

def getInvoice (invoiceId : ℕ) : Option Invoice :=
  (s.invoices.get? invoiceId).filter fun i => i.tenantId = tenantId

def getPayment (paymentId : ℕ) : Option Payment :=
  (s.payments.get? paymentId).filter fun p => p.tenantId = tenantId

def getAllocation (paymentId invoiceId : ℕ) : Option PaymentAllocation :=
  (s.allocations.get? (paymentId, invoiceId)).filter fun a => a.tenantId = tenantId

/-- A row of one of the tables that are only looked up. -/
def belongs (table : Table ℕ ℕ) (id : ℕ) : Bool := table.get? id = some tenantId

/-- `f"{n:05d}"`. -/
def pad5 (n : ℕ) : String :=
  String.ofList (List.replicate (5 - (toString n).length) '0') ++ toString n

def nextInvoiceNumber (year : ℕ) : String :=
  let count := (s.invoices.rows.filter fun r => r.2.tenantId = tenantId).length
  let number := pad5 (count + 1)
  s!"INV-{year}-{number}"

def nextPaymentNumber (year : ℕ) : String :=
  let count := (s.payments.rows.filter fun r => r.2.tenantId = tenantId).length
  let number := pad5 (count + 1)
  s!"PAY-{year}-{number}"

end Repository

section Status

variable (today : ℤ)

/-- `_refresh_overdue_status`, on the attributes of the invoice in the session. -/
def refreshOverdueStatus (status : InvoiceStatus) (dueDate : Option ℤ) (amountPaid total : ℚ) :
    InvoiceStatus :=
  if status ∈ [InvoiceStatus.paid, .cancelled, .void, .draft] then status
  else if dueDate.any (· < today) ∧ amountPaid < total then .overdue
  else status

def updateInvoicePaymentStatus (status : InvoiceStatus) (dueDate : Option ℤ) (amountPaid total : ℚ) :
    InvoiceStatus :=
  let status' := if amountPaid ≥ total then .paid else if amountPaid > 0 then .partial_ else status
  refreshOverdueStatus today status' dueDate amountPaid total

end Status

section Invoices

variable (caller : Caller) (clock : Clock)

/-- The exact line totals of the lines, added up as the loop adds them. -/
def addLine (subtotal : ℚ) (line : InvoiceLineCreate) : Except FinanceError (ℚ × ℤ) := do
  let lineTotal ← quantize (mul line.quantity line.unitPrice)
  return (add subtotal (ofCents lineTotal), lineTotal)

def checkCatalogItem (s : State) : Option ℕ → Except FinanceError Unit
  | none => return ()
  | some id => raiseIf (¬ belongs caller.tenantId s.catalogItems id)
      (.notFound s!"Catalog item not found: {id}")

/-- One round of the loop over the lines: the line's row and the new subtotal. -/
def createInvoiceLine (s : State) (acc : ℚ × List InvoiceLine) (entry : InvoiceLineCreate × ℕ) :
    Except FinanceError (ℚ × List InvoiceLine) := do
  let (line, index) := entry
  checkCatalogItem caller s line.catalogItemId
  let (subtotal, lineTotal) ← addLine acc.1 line
  let quantity ← quantityColumn line.quantity
  let unitPrice ← moneyColumn line.unitPrice
  let stored ← moneyColumn (ofCents lineTotal)
  return (subtotal, acc.2 ++ [{
    catalogItemId := line.catalogItemId
    description := line.description
    quantity := quantity
    unitPrice := unitPrice
    lineTotal := stored
    sortOrder := if line.sortOrder = 0 then index * 10 else line.sortOrder }])

/-- `_issue_invoice`: only a draft is issued. -/
def issueInvoice (invoice : Invoice) (amountPaid total : ℚ) : Except FinanceError Invoice := do
  raiseIf (invoice.status ≠ .draft) (.conflict "Only draft invoices can be issued")
  return { invoice with
    status := refreshOverdueStatus clock.today .issued invoice.dueDate amountPaid total
    issueDate := some clock.today
    issuedAt := some clock.now }

/-- The invoice once issued, when the payload asks for it. -/
def issueIf (issue : Bool) (invoice : Invoice) (total : ℚ) : Except FinanceError Invoice :=
  if issue then issueInvoice clock invoice 0 total else pure invoice

def createInvoice (invoiceId : ℕ) (payload : InvoiceCreate) (s : State) : Except FinanceError State := do
  caller.assertWithinLimit
  raiseIf (¬ belongs caller.tenantId s.parties payload.partyId) (.notFound "Party not found")
  raiseIf (¬ payload.legalEntityId.all (belongs caller.tenantId s.legalEntities))
    (.notFound "Legal entity not found")
  raiseIf (¬ payload.taxProfileId.all (belongs caller.tenantId s.taxProfiles))
    (.notFound "Tax profile not found")
  let invoiceNumber := nextInvoiceNumber s caller.tenantId clock.year
  raiseIf ((s.invoices.get? invoiceId).isSome ∨ ∃ r ∈ s.invoices.rows,
    r.2.tenantId = caller.tenantId ∧ r.2.invoiceNumber = invoiceNumber) .integrityError
  let (subtotal, lines) ← payload.lines.zipIdx.foldlM (createInvoiceLine caller s) (0, [])
  let total ← moneyColumn subtotal
  let invoice : Invoice := {
    tenantId := caller.tenantId
    legalEntityId := payload.legalEntityId
    taxProfileId := payload.taxProfileId
    partyId := payload.partyId
    workItemId := payload.workItemId
    documentId := payload.documentId
    invoiceNumber := invoiceNumber
    status := .draft
    currency := payload.currency
    subtotal := total
    taxAmount := 0
    total := total
    amountPaid := 0
    issueDate := none
    dueDate := payload.dueDate
    issuedAt := none
    notes := payload.notes
    lines := lines }
  let invoice ← issueIf clock payload.issue invoice subtotal
  return { s with invoices := s.invoices.insert invoiceId invoice }

/-- `_transition_status`: any status may follow any other, but for the guards here. -/
def transitionStatus (invoice : Invoice) (newStatus : InvoiceStatus) : Except FinanceError Invoice := do
  if newStatus = .issued ∧ invoice.status = .draft then
    issueInvoice clock invoice (ofCents invoice.amountPaid) (ofCents invoice.total)
  else
    raiseIf (newStatus ∈ [InvoiceStatus.cancelled, .void] ∧ invoice.amountPaid > 0)
      (.conflict "Cannot cancel invoice with payments")
    return { invoice with
      status := refreshOverdueStatus clock.today newStatus invoice.dueDate (ofCents invoice.amountPaid)
        (ofCents invoice.total) }

/-- The invoice after the status of the payload, if it has one. -/
def applyStatus (invoice : Invoice) : Option InvoiceStatus → Except FinanceError Invoice
  | none => pure invoice
  | some newStatus => transitionStatus clock invoice newStatus

def updateInvoice (invoiceId : ℕ) (payload : InvoiceUpdate) (s : State) : Except FinanceError State := do
  let invoice ← orRaise (getInvoice s caller.tenantId invoiceId) (.notFound "Invoice not found")
  let invoice ← applyStatus clock invoice payload.status
  -- a payload value of None leaves the attribute alone
  let invoice := { invoice with
    dueDate := payload.dueDate.or invoice.dueDate
    notes := payload.notes.or invoice.notes
    legalEntityId := payload.legalEntityId.or invoice.legalEntityId
    taxProfileId := payload.taxProfileId.or invoice.taxProfileId }
  raiseIf (¬ invoice.legalEntityId.all fun id => (s.legalEntities.get? id).isSome) .integrityError
  raiseIf (¬ invoice.taxProfileId.all fun id => (s.taxProfiles.get? id).isSome) .integrityError
  let status := refreshOverdueStatus clock.today invoice.status invoice.dueDate
    (ofCents invoice.amountPaid) (ofCents invoice.total)
  return { s with invoices := s.invoices.modify invoiceId fun _ => { invoice with status := status } }

end Invoices

section Payments

variable (caller : Caller) (clock : Clock)

/-- Direction and status of a legacy type; the third value asks for a review. -/
def mapLegacyPaymentType : LegacyPaymentType → PaymentDirection × PaymentStatus × Bool
  | .income => (.incoming, .completed, false)
  | .expense => (.outgoing, .completed, false)
  | .unknown => (.needsReview, .pending, true)

def createPayment (paymentId : ℕ) (payload : PaymentCreate) (s : State) : Except FinanceError State := do
  raiseIf (¬ payload.partyId.all (belongs caller.tenantId s.parties)) (.notFound "Party not found")
  let mapped := payload.legacyPaymentType.map mapLegacyPaymentType
  let amount ← moneyColumn payload.amount
  raiseIf ((s.payments.get? paymentId).isSome) .integrityError
  return { s with payments := s.payments.insert paymentId {
    tenantId := caller.tenantId
    partyId := payload.partyId
    paymentNumber := nextPaymentNumber s caller.tenantId clock.year
    amount := amount
    currency := payload.currency
    amountAllocated := 0
    paymentDate := payload.paymentDate
    method := payload.method
    status := (mapped.map (·.2.1)).getD payload.status
    direction := (mapped.map (·.1)).getD payload.direction
    referenceNumber := payload.referenceNumber
    notes := payload.notes } }

/-- `sum(item.amount for item in payload.allocations)`. -/
def sumAmounts (items : List PaymentAllocationItem) : ℚ := items.foldl (fun acc i => add acc i.amount) 0

/-- The amounts paid of the invoices the call has touched, as the session holds
them: not yet rounded to the column. -/
abbrev Touched := List (ℕ × ℚ)

def sessionPaid (touched : Touched) (invoiceId : ℕ) (invoice : Invoice) : ℚ :=
  (touched.lookup invoiceId).getD (ofCents invoice.amountPaid)

/-- The row of an invoice once `paid` is in the session and `amountPaid` in its column. -/
def payInvoice (today amountPaid : ℤ) (paid : ℚ) (i : Invoice) : Invoice :=
  let status := updateInvoicePaymentStatus today i.status i.dueDate paid (ofCents i.total)
  { i with
    amountPaid := amountPaid
    status := refreshOverdueStatus today status i.dueDate paid (ofCents i.total) }

/-- One round of the loop over the items. -/
def allocateItem (paymentId : ℕ) (acc : State × Touched) (item : PaymentAllocationItem) :
    Except FinanceError (State × Touched) := do
  let s := acc.1
  let invoice ← orRaise (getInvoice s caller.tenantId item.invoiceId) (.notFound "Invoice not found")
  raiseIf (invoice.status ∈ [InvoiceStatus.draft, .cancelled, .void])
    (.conflict "Cannot allocate payment to this invoice status")
  let invoiceNumber := invoice.invoiceNumber
  let paid := sessionPaid acc.2 item.invoiceId invoice
  raiseIf (item.amount > sub (ofCents invoice.total) paid)
    (.conflict s!"Allocation amount exceeds invoice balance for {invoiceNumber}")
  raiseIf ((getAllocation s caller.tenantId paymentId item.invoiceId).isSome)
    (.conflict s!"Payment already allocated to invoice {invoiceNumber}")
  let amount ← moneyColumn item.amount
  raiseIf ((s.allocations.get? (paymentId, item.invoiceId)).isSome) .integrityError
  let paid' := add paid item.amount
  let amountPaid ← moneyColumn paid'
  return ({ s with
    allocations := s.allocations.insert (paymentId, item.invoiceId)
      { tenantId := caller.tenantId, amount := amount, notes := item.notes }
    invoices := s.invoices.modify item.invoiceId (payInvoice clock.today amountPaid paid') },
    (item.invoiceId, paid') :: acc.2)

def Payment.setAllocated (amountAllocated : ℤ) (p : Payment) : Payment :=
  { p with amountAllocated := amountAllocated }

def allocatePayment (paymentId : ℕ) (payload : PaymentAllocateRequest) (s : State) :
    Except FinanceError State := do
  let payment ← orRaise (getPayment s caller.tenantId paymentId) (.notFound "Payment not found")
  raiseIf (payment.status ≠ .completed) (.conflict "Only completed payments can be allocated")
  let totalNew := sumAmounts payload.allocations
  let available := sub (ofCents payment.amount) (ofCents payment.amountAllocated)
  raiseIf (totalNew > available) (.conflict "Allocation exceeds unallocated payment amount")
  let (s', _) ← payload.allocations.foldlM (allocateItem caller clock paymentId) (s, [])
  let amountAllocated ← moneyColumn (add (ofCents payment.amountAllocated) totalNew)
  return { s' with payments := s'.payments.modify paymentId (Payment.setAllocated amountAllocated) }

end Payments

end CoreOps.Finance
