import CoreOps.Imports.Postings

/-! The plan of an import, and when it predicts the import. The plan counts the rows of the
source; the import passes over a row without an id, skips an id it has registered, and
posts a payment to whatever order it names, known or not and mismatched or not. -/

namespace CoreOps.Imports

open Checked Text

/-- The id of an order. One that Python takes for false, such as 0, has a text, but is no
id to the importer. -/
inductive SourceId
  | missing
  | falsy (text : String)
  | present (text : String)
  deriving DecidableEq, Repr

/-- `str(id)`, where the id is not `None`. -/
def SourceId.text : SourceId → Option String
  | .missing => none
  | .falsy text => some text
  | .present text => some text

/-- The id as the importer reads it. -/
def SourceId.read : SourceId → Option String
  | .missing => none
  | .falsy _ => some ""
  | .present text => some text

structure SourceOrder where
  id : SourceId
  title : Option String
  totalAmount : Option ℚ
  deriving DecidableEq, Repr

def SourceOrder.row (order : SourceOrder) : OrderSource := ⟨order.id.read, order.title, order.totalAmount⟩

/-- The dataset as the plan reads it. -/
structure SourceData where
  services : List ServiceSource := []
  clients : List ClientSource := []
  orders : List SourceOrder := []
  orderItems : List OrderItemSource := []
  contracts : List ContractSource := []
  payments : List PaymentSource := []
  deriving DecidableEq, Repr

/-- The same dataset as the importer reads it. -/
def SourceData.dataset (data : SourceData) : Dataset where
  services := data.services
  clients := data.clients
  orders := data.orders.map (·.row)
  orderItems := data.orderItems
  contracts := data.contracts
  payments := data.payments

/-- What the plan asks of binary floating point, with its numbers in `F`. -/
structure PlanFloats (F : Type) where
  zero : F
  /-- `total + float(qty) * float(unit_price)`. -/
  addLine : F → (qty unitPrice : ℚ) → F
  /-- `abs(float(expected) - derived) > 0.01`. -/
  differs : (expected : ℚ) → (derived : F) → Bool
  /-- `float(amount) == 0`. -/
  isZero : ℚ → Bool

structure PlannedCounts where
  services : ℕ
  clients : ℕ
  orders : ℕ
  orderItems : ℕ
  contracts : ℕ
  paymentsTotal : ℕ
  paymentsLinked : ℕ
  paymentsOrphanStandalone : ℕ
  deriving DecidableEq, Repr

structure BusinessPolicy where
  ordersTotalAmountAuthoritative : Bool := true
  amountNeedsReviewOrders : ℕ
  financePostingHeldForMismatch : Bool := true
  orphanPaymentsStandaloneHistorical : Bool := true
  orphanPaymentsNeedsReview : Bool := true
  orphanPaymentsRelationStatus : String := "unlinked_legacy_payment"
  contractsNullOrderLinkReviewCount : ℕ
  contractsZeroAmountReviewCount : ℕ
  missingTemplateFallback : String := "legacy_unknown_template"
  deriving DecidableEq, Repr

structure PlannedSummary where
  mode : String := "staging-write-import-plan"
  writesExecuted : Bool := false
  executionAllowed : Bool := false
  verdict : String := "PLAN_ONLY"
  sourceSystem : String := sourceSystem
  importBatchId : String
  requiredExecutionSequence : List String := requiredImportSequence
  counts : PlannedCounts
  businessPolicy : BusinessPolicy
  deriving DecidableEq, Repr

section Plan

variable {F : Type} (floats : PlanFloats F)

/-- One line of an order added to what its order comes to. -/
def addOrderLine (orderSum : String → Option F) (line : OrderItemSource) : String → Option F :=
  let oid := orElse line.orderId ""
  match line.qty, line.unitPrice with
  | some qty, some unitPrice =>
    if oid = "" then orderSum
    else fun key =>
      if key = oid then some (floats.addLine ((orderSum oid).getD floats.zero) qty unitPrice) else orderSum key
  | _, _ => orderSum

/-- `order_sum`: what the priced lines of each order come to. -/
def orderSum (data : SourceData) : String → Option F := data.orderItems.foldl (addOrderLine floats) fun _ => none

/-- The order has an id and a total, and its lines come to something else. -/
def isMismatched (data : SourceData) (order : SourceOrder) : Bool :=
  let oid := orElse order.id.read ""
  oid ≠ "" && match order.totalAmount with
    | none => false
    | some expected => (orderSum floats data oid).any (floats.differs expected)

def mismatchedOrderIds (data : SourceData) : List String :=
  (data.orders.filter (isMismatched floats data)).map fun order => orElse order.id.read ""

def orderIds (data : SourceData) : List String := data.orders.filterMap (·.id.text)

/-- The plan links a payment to an order of the source. -/
def isPlannedLinked (data : SourceData) (row : PaymentSource) : Bool :=
  let oid := orElse row.orderId ""
  oid ≠ "" && oid ∈ orderIds data

def buildPlannedSummary (data : SourceData) (importBatchId : String) : PlannedSummary where
  importBatchId := importBatchId
  counts := {
    services := data.services.length
    clients := data.clients.length
    orders := data.orders.length
    orderItems := data.orderItems.length
    contracts := data.contracts.length
    paymentsTotal := data.payments.length
    paymentsLinked := data.payments.countP (isPlannedLinked data)
    paymentsOrphanStandalone := data.payments.countP fun row => !isPlannedLinked data row }
  businessPolicy := {
    amountNeedsReviewOrders := (mismatchedOrderIds floats data).length
    contractsNullOrderLinkReviewCount := data.contracts.countP fun row => orElse row.orderId "" = ""
    contractsZeroAmountReviewCount := data.contracts.countP fun row => floats.isZero (row.amount.getD 0) }

end Plan

/-! The prediction. -/

/-- How many rows a stage has imported. -/
def ExecutionReport.imported (report : ExecutionReport) (stage : String) : ℕ :=
  ((report.stages.find? fun result => result.key = stage).map (·.imported)).getD 0

/-- The planned counts are the reported ones. -/
structure CountsPredicted (counts : PlannedCounts) (report : ExecutionReport) : Prop where
  services : counts.services = report.imported "services_catalog"
  clients : counts.clients = report.imported "clients_parties_contacts"
  orders : counts.orders = report.imported "orders_work_items"
  orderItems : counts.orderItems = report.imported "order_items_line_metadata"
  contracts : counts.contracts = report.imported "contracts_documents"
  paymentsLinked : counts.paymentsLinked = report.imported "payments_linked"
  paymentsOrphan : counts.paymentsOrphanStandalone = report.imported "payments_orphan_standalone"

section Posted

variable (config : StagingWriteImportConfig) (target target' : Target) (orderId : String)

/-- The invoice is new and numbered for the order. -/
def IsPostedInvoice (invoiceId : ℕ) : Prop :=
  target.business.invoices.get? invoiceId = none ∧ ∃ invoice, target'.business.invoices.get? invoiceId = some invoice ∧
    invoice.tenantId = config.tenantId ∧ invoice.invoiceNumber = legacyInvoiceNumber orderId

def InvoicePosted : Prop := ∃ invoiceId, IsPostedInvoice config target target' orderId invoiceId

def AllocationPosted : Prop :=
  ∃ paymentId invoiceId, target.business.allocations.get? (paymentId, invoiceId) = none ∧
    (target'.business.allocations.get? (paymentId, invoiceId)).isSome ∧
    IsPostedInvoice config target target' orderId invoiceId

end Posted

/-- The counts agree, and nothing is posted for a mismatched order. -/
structure PlanPredicts {F : Type} (floats : PlanFloats F) (config : StagingWriteImportConfig) (data : SourceData)
    (report : ExecutionReport) (target target' : Target) : Prop where
  counts : CountsPredicted (buildPlannedSummary floats data config.importBatchId.value).counts report
  held : ∀ orderId ∈ mismatchedOrderIds floats data,
    ¬ InvoicePosted config target target' orderId ∧ ¬ AllocationPosted config target target' orderId

/-- Every row has an id, and no two rows the same one. -/
def OwnIds (ids : List (Option String)) : Prop := (∀ id ∈ ids, HasId id) ∧ ids.Nodup

/-- The source has nothing that the plan and the import take differently. -/
structure Plannable {F : Type} (floats : PlanFloats F) (data : SourceData) : Prop where
  services : OwnIds (data.services.map (·.id))
  clients : OwnIds (data.clients.map (·.id))
  orders : OwnIds (data.orders.map (·.id.read))
  orderItems : ∀ row ∈ data.orderItems, HasId row.orderId
  contracts : ∀ row ∈ data.contracts, HasId row.id
  payments : ∀ row ∈ data.payments, HasId row.orderId → orElse row.orderId "" ∈ orderIds data
  mismatches : ∀ order ∈ data.orders, isMismatched floats data order → ∀ row ∈ data.payments,
    orElse row.orderId "" ≠ orElse order.id.read ""

/-! What the stages count. -/

section Stage

variable {ρ : Type} {rows : List ρ} {step : ρ → Target → Except ImportError (RowResult × Target)} {results : List RowResult}
  {config : StagingWriteImportConfig} {target target' : Target}

theorem length_importRows (h : importRows step rows target = .ok (results, target')) : results.length = rows.length := by
  induction rows generalizing target results with
  | nil =>
    obtain ⟨rfl, -⟩ := Prod.mk.inj (Except.ok.inj h)
    rfl
  | cons row rows ih =>
    obtain ⟨result, t, rest, -, hrest, rfl⟩ := importRows_cons.1 h
    rw [List.length_cons, List.length_cons, ih hrest]

/-- A stage that decides by the row alone what it imports. -/
theorem countP_importRows {p : ρ → Bool} (h : importRows step rows target = .ok (results, target'))
    (hs : ∀ row t r t', step row t = .ok (r, t') → r.imported = p row) : results.countP (·.imported) = rows.countP p := by
  induction rows generalizing target results with
  | nil =>
    obtain ⟨rfl, -⟩ := Prod.mk.inj (Except.ok.inj h)
    rfl
  | cons row rows ih =>
    obtain ⟨result, t, rest, hrow, hrest, rfl⟩ := importRows_cons.1 h
    rw [List.countP_cons, List.countP_cons, ih hrest, hs _ _ _ _ hrow]

theorem importReferenced_imported {sourceTable targetEntity : String} {id : Option String} {result : RowResult}
    {create : String → Business → Except ImportError (ℕ × Business)}
    (h : importReferenced config sourceTable targetEntity id create target = .ok (result, target')) :
    (result.imported = true ∧ HasId id ∧ Created config create sourceTable id target target') ∨
      (result.imported = false ∧ ¬ (HasId id ∧ Unknown config target.auditLogs (refKey sourceTable id))) := by
  have hcases := importReferenced_cases h
  unfold importReferenced at h
  by_cases hid : orElse id "" = ""
  · rw [if_pos hid] at h
    obtain ⟨rfl, -⟩ := Prod.mk.inj (Except.ok.inj h)
    exact .inr ⟨rfl, fun hno => hno.1 hid⟩
  · rw [if_neg hid, bind_eq_ok] at h
    obtain ⟨action, hresolve, h⟩ := h
    rcases resolve_eq_ok hresolve with ⟨⟨row, hreg, -⟩, rfl⟩ | ⟨hunknown, rfl⟩
    · obtain ⟨rfl, -⟩ := Prod.mk.inj (Except.ok.inj h)
      refine .inr ⟨rfl, fun hno => ?_⟩
      have hnone : registered target.auditLogs config.tenantId (buildSourceRef sourceTable (orElse id "")) = [] := hno.2
      rw [hreg] at hnone
      exact List.cons_ne_nil _ _ hnone
    · simp only [bind_eq_ok, pure_eq_ok, Prod.exists, Prod.mk.injEq] at h
      obtain ⟨-, -, -, -, -, rfl, -⟩ := h
      rcases hcases with ⟨hno, -⟩ | ⟨-, ⟨row, hreg, -⟩, -⟩ | ⟨hid', hcreated⟩
      · exact absurd hid hno
      · have hnone : registered target.auditLogs config.tenantId (refKey sourceTable id) = [] := hunknown
        rw [hreg] at hnone
        exact absurd hnone (List.cons_ne_nil _ _)
      · exact .inl ⟨rfl, hid', hcreated⟩

/-- The ids of rows that have one are told apart by their references. -/
theorem refKey_inj {sourceTable : String} {id id' : Option String} (hid : HasId id) (hid' : HasId id')
    (h : refKey sourceTable id = refKey sourceTable id') : id = id' := by
  have heq : orElse id "" = orElse id' "" := by
    have hlists := congrArg String.toList h
    simp only [refKey, buildSourceRef, String.toList_append, List.append_cancel_left_eq] at hlists
    exact String.ext_iff.2 hlists
  have hsome : ∀ {id : Option String}, HasId id → id = some (orElse id "") := by
    intro id hid
    cases id with
    | none => exact absurd rfl hid
    | some text =>
      by_cases htext : text = ""
      · exact absurd (by rw [htext]; rfl) hid
      · rw [orElse, Option.filter_some_pos (by simpa using htext)]
        rfl
  rw [hsome hid, hsome hid', heq]

theorem unknown_created {sourceTable key : String} {id : Option String}
    {create : String → Business → Except ImportError (ℕ × Business)}
    (h : Created config create sourceTable id target target') :
    Unknown config target'.auditLogs key ↔ Unknown config target.auditLogs key ∧ key ≠ refKey sourceTable id := by
  obtain ⟨-, -, row, htarget, href, hsummary, -⟩ := h
  have hlogs : target'.auditLogs = target.auditLogs ++ [row] := congrArg Target.auditLogs htarget
  rw [Unknown, hlogs, registered_append, href, hsummary, List.append_eq_nil_iff, Unknown]
  by_cases hkey : refKey sourceTable id = key
  · simp [hkey]
  · simp [hkey, Ne.symm hkey]

/-- A stage that goes by the references imports all its rows when each has an id that is not
registered, and no two the same one. -/
theorem all_imported_iff (id : ρ → Option String) {sourceTable targetEntity : String}
    (hstep : ∀ row t, ∃ create, step row t = importReferenced config sourceTable targetEntity (id row) create t)
    (h : importRows step rows target = .ok (results, target')) :
    (∀ r ∈ results, r.imported = true) ↔
      (∀ row ∈ rows, HasId (id row) ∧ Unknown config target.auditLogs (refKey sourceTable (id row))) ∧
        (rows.map id).Nodup := by
  induction rows generalizing target results with
  | nil =>
    obtain ⟨rfl, -⟩ := Prod.mk.inj (Except.ok.inj h)
    simp
  | cons row rows ih =>
    obtain ⟨result, t, rest, hrow, hrest, rfl⟩ := importRows_cons.1 h
    obtain ⟨create, hcreate⟩ := hstep row target
    rw [List.forall_mem_cons, List.forall_mem_cons, List.map_cons, List.nodup_cons, ih hrest]
    rcases importReferenced_imported (hcreate ▸ hrow) with ⟨himported, hid, hcreated⟩ | ⟨himported, hno⟩
    · have hunknown := hcreated.unknown
      simp only [himported, true_and, unknown_created hcreated, hid, hunknown]
      constructor
      · rintro ⟨hrows, hnodup⟩
        refine ⟨fun r hr => ⟨(hrows r hr).1, (hrows r hr).2.1⟩, fun hmem => ?_, hnodup⟩
        obtain ⟨r, hr, heq⟩ := List.mem_map.1 hmem
        exact (hrows r hr).2.2 (by rw [heq])
      · rintro ⟨hrows, hnot, hnodup⟩
        refine ⟨fun r hr => ⟨(hrows r hr).1, (hrows r hr).2, fun heq => hnot ?_⟩, hnodup⟩
        exact List.mem_map.2 ⟨r, hr, refKey_inj (hrows r hr).1 hid heq⟩
    · constructor
      · rintro ⟨htrue, -⟩
        rw [himported] at htrue
        exact absurd htrue Bool.false_ne_true
      · rintro ⟨⟨hboth, -⟩, -⟩
        exact absurd hboth hno

/-- A stage that goes by the references leaves those of the other tables as they are. -/
theorem unknown_importRows {id : ρ → Option String} {sourceTable targetEntity key : String}
    (hstep : ∀ row t, ∃ create, step row t = importReferenced config sourceTable targetEntity (id row) create t)
    (hkey : ∀ row ∈ rows, key ≠ refKey sourceTable (id row))
    (h : importRows step rows target = .ok (results, target')) (hunknown : Unknown config target.auditLogs key) :
    Unknown config target'.auditLogs key := by
  refine importRows_invariant (fun t => Unknown config t.auditLogs key) (fun row hrow t r t' hok hI => ?_) h hunknown
  obtain ⟨create, hcreate⟩ := hstep row t
  rcases importReferenced_cases (hcreate ▸ hok) with ⟨-, rfl⟩ | ⟨-, -, rfl⟩ | ⟨-, hcreated⟩
  · exact hI
  · exact hI
  · exact (unknown_created hcreated).2 ⟨hI, hkey row hrow⟩

end Stage

section Run

variable {adapter : SqlAlchemyStagingWriteAdapter} {config : StagingWriteImportConfig} {data : Dataset}
  {target target' : Target} {report : ExecutionReport}

/-- The stages of a run with what each reports. -/
theorem run_stages (h : run adapter config data target = .ok (report, target')) :
    ∃ r₁ t₁ r₂ t₂ r₃ t₃ r₄ t₄ r₅ t₅ r₆ t₆ r₇,
      importRows (importService config) data.services (insertBatchContext config target) = .ok (r₁, t₁) ∧
      importRows (importClient config) data.clients t₁ = .ok (r₂, t₂) ∧
      importRows (importOrder adapter config) data.orders t₂ = .ok (r₃, t₃) ∧
      importRows (importOrderItem adapter config) data.orderItems t₃ = .ok (r₄, t₄) ∧
      importRows (importContract adapter config) data.contracts t₄ = .ok (r₅, t₅) ∧
      importRows (importLinkedPayment config) data.payments t₅ = .ok (r₆, t₆) ∧
      importRows (importOrphanPayment config) data.payments t₆ = .ok (r₇, target') ∧
      report.imported "services_catalog" = r₁.countP (·.imported) ∧
      report.imported "clients_parties_contacts" = r₂.countP (·.imported) ∧
      report.imported "orders_work_items" = r₃.countP (·.imported) ∧
      report.imported "order_items_line_metadata" = r₄.countP (·.imported) ∧
      report.imported "contracts_documents" = r₅.countP (·.imported) ∧
      report.imported "payments_linked" = r₆.countP (·.imported) ∧
      report.imported "payments_orphan_standalone" = r₇.countP (·.imported) := by
  simp only [run, executeImportOrder, bind_eq_ok, pure_eq_ok, Prod.exists, Prod.mk.injEq] at h
  obtain ⟨-, -, -, -, -, -, r₁, t₁, h₁, r₂, t₂, h₂, r₃, t₃, h₃, r₄, t₄, h₄, r₅, t₅, h₅, r₆, t₆, h₆, r₇, t₇, h₇, rfl, rfl⟩ := h
  exact ⟨r₁, t₁, r₂, t₂, r₃, t₃, r₄, t₄, r₅, t₅, r₆, t₆, r₇, h₁, h₂, h₃, h₄, h₅, h₆, h₇, rfl, rfl, rfl, rfl, rfl, rfl, rfl⟩

theorem importOrderItem_imported {row : OrderItemSource} {r : RowResult}
    (h : importOrderItem adapter config row target = .ok (r, target')) : r.imported = decide (HasId row.orderId) := by
  unfold importOrderItem at h
  by_cases hid : orElse row.orderId "" = ""
  · rw [if_pos hid] at h
    obtain ⟨rfl, -⟩ := Prod.mk.inj (Except.ok.inj h)
    exact (decide_eq_false (not_not.2 hid)).symm
  · rw [if_neg hid] at h
    split at h <;>
    · obtain ⟨rfl, -⟩ := Prod.mk.inj (Except.ok.inj h)
      exact (decide_eq_true hid).symm

theorem importContract_imported {row : ContractSource} {r : RowResult}
    (h : importContract adapter config row target = .ok (r, target')) : r.imported = decide (HasId row.id) := by
  unfold importContract at h
  by_cases hid : orElse row.id "" = ""
  · rw [if_pos hid] at h
    obtain ⟨rfl, -⟩ := Prod.mk.inj (Except.ok.inj h)
    exact (decide_eq_false (not_not.2 hid)).symm
  · rw [if_neg hid] at h
    obtain ⟨rfl, -⟩ := Prod.mk.inj (Except.ok.inj h)
    exact (decide_eq_true hid).symm

theorem importLinkedPayment_imported {row : PaymentSource} {r : RowResult}
    (h : importLinkedPayment config row target = .ok (r, target')) : r.imported = isLinked row := by
  cases hlinked : isLinked row with
  | true =>
    obtain ⟨-, -, -, -, -, rfl, -⟩ := (importLinkedPayment_eq_ok hlinked).1 h
    rfl
  | false =>
    obtain ⟨rfl, -⟩ := (importLinkedPayment_orphan hlinked).1 h
    rfl

theorem importOrphanPayment_imported {row : PaymentSource} {r : RowResult}
    (h : importOrphanPayment config row target = .ok (r, target')) : r.imported = !isLinked row := by
  cases hlinked : isLinked row with
  | true =>
    obtain ⟨rfl, -⟩ := (importOrphanPayment_linked hlinked).1 h
    rfl
  | false =>
    obtain ⟨-, -, -, rfl, -⟩ := (importOrphanPayment_eq_ok hlinked).1 h
    rfl

/-- All rows of a stage that starts with no reference are imported when they have ids of
their own. -/
theorem count_eq_length_iff {ρ : Type} {rows : List ρ} {step : ρ → Target → Except ImportError (RowResult × Target)}
    {results : List RowResult} {t t' : Target} (id : ρ → Option String) {sourceTable targetEntity : String}
    (hstep : ∀ row t, ∃ create, step row t = importReferenced config sourceTable targetEntity (id row) create t)
    (hunknown : ∀ row ∈ rows, Unknown config t.auditLogs (refKey sourceTable (id row)))
    (h : importRows step rows t = .ok (results, t')) :
    rows.length = results.countP (·.imported) ↔ OwnIds (rows.map id) := by
  rw [← length_importRows h, eq_comm, List.countP_eq_length, all_imported_iff id hstep h, OwnIds, List.forall_mem_map]
  exact and_congr_left fun _ => forall₂_congr fun row hrow => and_iff_left (hunknown row hrow)

/-- The references of the three tables are apart. -/
theorem refKey_ne {table table' : String} {id id' : Option String} (h : ':' ∉ table.toList) (h' : ':' ∉ table'.toList)
    (hne : table ≠ table') : refKey table id ≠ refKey table' id' :=
  fun heq => hne (buildSourceRef_inj h h' heq).1

/-- A list of rows has as many of one kind as of a wider one when the two kinds are one. -/
theorem countP_eq_iff {ρ : Type} {rows : List ρ} {p q : ρ → Bool} (hpq : ∀ row, p row = true → q row = true) :
    rows.countP p = rows.countP q ↔ ∀ row ∈ rows, q row = true → p row = true := by
  induction rows with
  | nil => simp
  | cons row rows ih =>
    have hle : rows.countP p ≤ rows.countP q := List.countP_mono_left fun r _ => hpq r
    rw [List.countP_cons, List.countP_cons, List.forall_mem_cons, ← ih]
    cases hp : p row with
    | true => simp [hpq row hp]
    | false =>
      cases hq : q row with
      | true => simp; omega
      | false => simp

/-- The target has no source reference of the tenant. -/
def NoSourceRefs (config : StagingWriteImportConfig) (target : Target) : Prop :=
  ∀ row ∈ target.auditLogs, isSourceRef config.tenantId row = false

theorem NoSourceRefs.unknown (h : NoSourceRefs config target) (key : String) :
    Unknown config (insertBatchContext config target).auditLogs key := by
  refine List.filter_eq_nil_iff.2 fun row hrow hkey => ?_
  have href : isSourceRef config.tenantId row = true := (Bool.and_eq_true_iff.1 hkey).1
  rcases List.mem_append.1 hrow with hmem | hmem
  · rw [h row hmem] at href
    exact Bool.false_ne_true href
  · rw [List.mem_singleton.1 hmem] at href
    simp [isSourceRef, sourceRefEntity] at href

/-- The counts of a run into a target without references. -/
theorem counts_predicted_iff {F : Type} (floats : PlanFloats F) {source : SourceData} (hnew : NoSourceRefs config target)
    (h : run adapter config source.dataset target = .ok (report, target')) :
    CountsPredicted (buildPlannedSummary floats source config.importBatchId.value).counts report ↔
      OwnIds (source.services.map (·.id)) ∧ OwnIds (source.clients.map (·.id)) ∧
      OwnIds (source.orders.map (·.id.read)) ∧ (∀ row ∈ source.orderItems, HasId row.orderId) ∧
      (∀ row ∈ source.contracts, HasId row.id) ∧
      ∀ row ∈ source.payments, HasId row.orderId → orElse row.orderId "" ∈ orderIds source := by
  obtain ⟨r₁, t₁, r₂, t₂, r₃, t₃, r₄, t₄, r₅, t₅, r₆, t₆, r₇, h₁, h₂, h₃, h₄, h₅, h₆, h₇, e₁, e₂, e₃, e₄, e₅, e₆, e₇⟩ :=
    run_stages h
  have hservices := count_eq_length_iff ServiceSource.id (fun row t => ⟨_, rfl⟩) (fun _ _ => hnew.unknown _) h₁
  have u₁ : ∀ key, (∀ id, key ≠ refKey "services" id) → Unknown config t₁.auditLogs key := fun key hkey =>
    unknown_importRows (fun row t => ⟨_, rfl⟩) (fun row _ => hkey row.id) h₁ (hnew.unknown key)
  have hclients := count_eq_length_iff ClientSource.id (fun row t => ⟨_, rfl⟩)
    (fun row _ => u₁ _ fun id => refKey_ne (by decide) (by decide) (by decide)) h₂
  have horders := count_eq_length_iff OrderSource.id (fun row t => ⟨_, rfl⟩)
    (fun row _ => unknown_importRows (fun row t => ⟨_, rfl⟩)
      (fun row' _ => refKey_ne (by decide) (by decide) (by decide)) h₂
      (u₁ _ fun id => refKey_ne (by decide) (by decide) (by decide))) h₃
  have hitems := countP_importRows h₄ fun _ _ _ _ => importOrderItem_imported
  have hcontracts := countP_importRows h₅ fun _ _ _ _ => importContract_imported
  have hlinked := countP_importRows h₆ fun _ _ _ _ => importLinkedPayment_imported
  have horphan := countP_importRows h₇ fun _ _ _ _ => importOrphanPayment_imported
  -- The plan links fewer payments than the import, and takes the others for orphans.
  have hkinds : ∀ row : PaymentSource, isPlannedLinked source row = true → isLinked row = true :=
    fun row hrow => (Bool.and_eq_true_iff.1 hrow).1
  have hpayments : (∀ row ∈ source.payments, isLinked row = true → isPlannedLinked source row = true) ↔
      ∀ row ∈ source.payments, HasId row.orderId → orElse row.orderId "" ∈ orderIds source := by
    refine forall₂_congr fun row _ => ⟨fun hrow hid => ?_, fun hrow hid => ?_⟩
    · exact of_decide_eq_true (Bool.and_eq_true_iff.1 (hrow (decide_eq_true hid))).2
    · exact Bool.and_eq_true_iff.2 ⟨hid, decide_eq_true (hrow (of_decide_eq_true hid))⟩
  have hcount : source.payments.countP (isPlannedLinked source) = source.payments.countP isLinked ↔ _ :=
    countP_eq_iff hkinds
  have hrows : source.dataset.orders = source.orders.map (·.row) := rfl
  rw [hrows, List.length_map, List.map_map] at horders
  constructor
  · rintro ⟨c₁, c₂, c₃, c₄, c₅, c₆, -⟩
    refine ⟨hservices.1 (c₁.trans e₁), hclients.1 (c₂.trans e₂), horders.1 (c₃.trans e₃), ?_, ?_, ?_⟩
    · exact fun row hrow => of_decide_eq_true
        (List.countP_eq_length.1 ((hitems.symm.trans (e₄.symm.trans c₄.symm))) row hrow)
    · exact fun row hrow => of_decide_eq_true
        (List.countP_eq_length.1 ((hcontracts.symm.trans (e₅.symm.trans c₅.symm))) row hrow)
    · exact hpayments.1 (hcount.1 (c₆.trans (e₆.trans hlinked)))
  · rintro ⟨c₁, c₂, c₃, c₄, c₅, c₆⟩
    have hsame : ∀ row ∈ source.payments, isPlannedLinked source row = isLinked row := fun row hrow =>
      Bool.eq_iff_iff.2 ⟨hkinds row, hpayments.2 c₆ row hrow⟩
    refine ⟨(hservices.2 c₁).trans e₁.symm, (hclients.2 c₂).trans e₂.symm, (horders.2 c₃).trans e₃.symm, ?_, ?_, ?_, ?_⟩
    · exact (e₄.trans (hitems.trans (List.countP_eq_length.2 fun row hrow => decide_eq_true (c₄ row hrow)))).symm
    · exact (e₅.trans (hcontracts.trans (List.countP_eq_length.2 fun row hrow => decide_eq_true (c₅ row hrow)))).symm
    · exact (List.countP_congr fun row hrow => by rw [hsame row hrow]).trans (e₆.trans hlinked).symm
    · exact (List.countP_congr fun row hrow => by rw [hsame row hrow]).trans (e₇.trans horphan).symm

end Run

/-! What the import posts. -/

section Posted

variable {adapter : SqlAlchemyStagingWriteAdapter} {config : StagingWriteImportConfig} {data : Dataset}
  {target target' : Target} {report : ExecutionReport} {orderId : String}

theorem legacyInvoiceNumber_inj {orderId' : String} (h : legacyInvoiceNumber orderId = legacyInvoiceNumber orderId') :
    orderId = orderId' := by
  have hlists := congrArg String.toList h
  simp only [legacyInvoiceNumber, String.toList_append, List.append_cancel_left_eq] at hlists
  exact String.ext_iff.2 hlists

/-- A posting carries the number of the order its payment names. -/
theorem Posting.invoiceNumber {p : Posting} (h : isLinked p.row = true) :
    (p.invoice config).2.invoiceNumber = legacyInvoiceNumber (orElse p.row.orderId "") :=
  congrArg legacyInvoiceNumber (orElse_eq_of_ne (of_decide_eq_true h) "unknown")

theorem isPostedInvoice_iff {postings orphans : List Posting} (hlinked : ∀ p ∈ postings, isLinked p.row = true)
    (hposted : Posted config target.business target'.business postings orphans) {invoiceId : ℕ} :
    IsPostedInvoice config target target' orderId invoiceId ↔
      ∃ p ∈ postings, p.invoiceId = invoiceId ∧ orElse p.row.orderId "" = orderId := by
  constructor
  · rintro ⟨hnew, invoice, hget, -, hnumber⟩
    obtain ⟨p, hp, heq⟩ := List.mem_map.1 (Table.mem_of_get?_new hposted.invoices hnew hget)
    obtain ⟨hid, rfl⟩ := Prod.mk.inj heq
    have hnumber' := (Posting.invoiceNumber (hlinked p hp)).symm.trans hnumber
    exact ⟨p, hp, hid, legacyInvoiceNumber_inj hnumber'⟩
  · rintro ⟨p, hp, rfl, rfl⟩
    obtain ⟨hnew, hget⟩ := Table.get?_append_new hposted.invoices (List.mem_map.2 ⟨p, hp, rfl⟩)
    exact ⟨hnew, _, hget, rfl, Posting.invoiceNumber (hlinked p hp)⟩

/-- An order is posted to when a payment names it, and then by an invoice and an allocation. -/
theorem posted_iff (h : run adapter config data target = .ok (report, target')) (hid : orderId ≠ "") :
    ((InvoicePosted config target target' orderId ∨ AllocationPosted config target target' orderId) ↔
      ∃ row ∈ data.payments, orElse row.orderId "" = orderId) ∧
    ((∃ row ∈ data.payments, orElse row.orderId "" = orderId) →
      InvoicePosted config target target' orderId ∧ AllocationPosted config target target' orderId) := by
  obtain ⟨postings, orphans, hrows, -, -, -, hposted⟩ := (run_iff.1 ⟨report, h⟩).2.posted
  have hmem : ∀ {row}, row ∈ data.payments ∧ isLinked row = true ↔ ∃ p ∈ postings, p.row = row := by
    intro row
    rw [← List.mem_filter, ← hrows, List.mem_map]
  have hlinked : ∀ p ∈ postings, isLinked p.row = true := fun p hp => (hmem.2 ⟨p, hp, rfl⟩).2
  have hiff : ∀ {invoiceId}, IsPostedInvoice config target target' orderId invoiceId ↔
      ∃ p ∈ postings, p.invoiceId = invoiceId ∧ orElse p.row.orderId "" = orderId := isPostedInvoice_iff hlinked hposted
  have hback : ∀ {p : Posting}, p ∈ postings → orElse p.row.orderId "" = orderId →
      ∃ row ∈ data.payments, orElse row.orderId "" = orderId :=
    fun hp heq => ⟨_, (hmem.2 ⟨_, hp, rfl⟩).1, heq⟩
  have hforward : (∃ row ∈ data.payments, orElse row.orderId "" = orderId) →
      InvoicePosted config target target' orderId ∧ AllocationPosted config target target' orderId := by
    rintro ⟨row, hrow, heq⟩
    obtain ⟨p, hp, rfl⟩ := hmem.1 ⟨hrow, decide_eq_true (heq ▸ hid)⟩
    have hinvoice := hiff.2 ⟨p, hp, rfl, heq⟩
    obtain ⟨hnew, hget⟩ := Table.get?_append_new hposted.allocations (List.mem_map.2 ⟨p, hp, rfl⟩)
    exact ⟨⟨_, hinvoice⟩, _, _, hnew, Option.isSome_iff_exists.2 ⟨_, hget⟩, hinvoice⟩
  refine ⟨⟨?_, fun hrow => .inl (hforward hrow).1⟩, hforward⟩
  rintro (⟨_, hinvoice⟩ | ⟨_, _, -, -, hinvoice⟩)
  · obtain ⟨p, hp, -, heq⟩ := hiff.1 hinvoice
    exact hback hp heq
  · obtain ⟨p, hp, -, heq⟩ := hiff.1 hinvoice
    exact hback hp heq

end Posted

section Main

variable {adapter : SqlAlchemyStagingWriteAdapter} {config : StagingWriteImportConfig} {target target' : Target}
  {report : ExecutionReport} {F : Type}

theorem mem_mismatchedOrderIds {floats : PlanFloats F} {data : SourceData} {orderId : String} :
    orderId ∈ mismatchedOrderIds floats data ↔
      ∃ order ∈ data.orders, isMismatched floats data order = true ∧ orElse order.id.read "" = orderId := by
  simp only [mismatchedOrderIds, List.mem_map, List.mem_filter, and_assoc]

theorem ne_of_isMismatched {floats : PlanFloats F} {data : SourceData} {order : SourceOrder}
    (h : isMismatched floats data order = true) : orElse order.id.read "" ≠ "" :=
  of_decide_eq_true (Bool.and_eq_true_iff.1 h).1

/-- The plan predicts the import exactly when every row but a payment has an id of its own,
every payment that names an order names one of the source, and none names a mismatched
one. -/
theorem plan_predicts_iff (floats : PlanFloats F) {data : SourceData} (hnew : NoSourceRefs config target)
    (h : run adapter config data.dataset target = .ok (report, target')) :
    PlanPredicts floats config data report target target' ↔ Plannable floats data := by
  have hcounts := counts_predicted_iff floats hnew h
  constructor
  · rintro ⟨hpredicted, hheld⟩
    obtain ⟨c₁, c₂, c₃, c₄, c₅, c₆⟩ := hcounts.1 hpredicted
    refine ⟨c₁, c₂, c₃, c₄, c₅, c₆, fun order horder hmismatch row hrow heq => ?_⟩
    have hposted := (posted_iff h (ne_of_isMismatched hmismatch)).2 ⟨row, hrow, heq⟩
    exact (hheld _ (mem_mismatchedOrderIds.2 ⟨order, horder, hmismatch, rfl⟩)).1 hposted.1
  · rintro ⟨c₁, c₂, c₃, c₄, c₅, c₆, hmismatches⟩
    refine ⟨hcounts.2 ⟨c₁, c₂, c₃, c₄, c₅, c₆⟩, fun orderId horderId => not_or.1 fun hposted => ?_⟩
    obtain ⟨order, horder, hmismatch, rfl⟩ := mem_mismatchedOrderIds.1 horderId
    obtain ⟨row, hrow, heq⟩ := (posted_iff h (ne_of_isMismatched hmismatch)).1.1 hposted
    exact hmismatches order horder hmismatch row hrow heq

section Examples

/-- Exact arithmetic. -/
def demoFloats : PlanFloats ℚ where
  zero := 0
  addLine := fun total qty unitPrice => total + qty * unitPrice
  differs := fun expected derived => decide (1 / 100 < |expected - derived|)
  isZero := fun amount => decide (amount = 0)

/-- An order of 100 whose only line comes to 50, with a payment of 100, and a client that is
there twice. -/
def mismatchedSource : SourceData where
  clients := [demoClient, demoClient]
  orders := [⟨.present "1", none, some 100⟩]
  orderItems := [⟨some "1", some 1, some 50, none⟩]
  payments := [⟨some "1", some "1", some 100, some 0, none⟩]

/-- The plan counts two clients and holds back the order; the import counts one and posts
the order. -/
theorem mismatched_order_posted : ∃ report target',
    run demoAdapter demoConfig mismatchedSource.dataset demoTarget = .ok (report, target') ∧
    (buildPlannedSummary demoFloats mismatchedSource demoConfig.importBatchId.value).counts.clients = 2 ∧
    report.imported "clients_parties_contacts" = 1 ∧ "1" ∈ mismatchedOrderIds demoFloats mismatchedSource ∧
    InvoicePosted demoConfig demoTarget target' "1" ∧ AllocationPosted demoConfig demoTarget target' "1" := by
  have hok : (run demoAdapter demoConfig mismatchedSource.dataset demoTarget).isOk = true := by decide +kernel
  have hcount : (run demoAdapter demoConfig mismatchedSource.dataset demoTarget).toOption.map
      (fun r => r.1.imported "clients_parties_contacts") = some 1 := by decide +kernel
  obtain ⟨⟨report, target'⟩, hrun⟩ := exists_of_isOk hok
  rw [hrun] at hcount
  have hnamed : ∃ row ∈ mismatchedSource.dataset.payments, orElse row.orderId "" = "1" :=
    ⟨_, List.mem_singleton_self _, by decide⟩
  obtain ⟨hinvoice, hallocation⟩ := (posted_iff hrun (by decide)).2 hnamed
  exact ⟨report, target', hrun, rfl, Option.some.inj hcount, by decide +kernel, hinvoice, hallocation⟩

/-- An order of 100 with a line of 100, and its payment. -/
def matchedSource : SourceData where
  clients := [demoClient]
  orders := [⟨.present "1", none, some 100⟩]
  orderItems := [⟨some "1", some 1, some 100, none⟩]
  payments := [⟨some "1", some "1", some 100, some 0, none⟩]

/-- The theorem at an order that its line agrees with. -/
theorem plan_predicts_matched : ∃ report target',
    run demoAdapter demoConfig matchedSource.dataset demoTarget = .ok (report, target') ∧
    PlanPredicts demoFloats demoConfig matchedSource report demoTarget target' := by
  have hok : (run demoAdapter demoConfig matchedSource.dataset demoTarget).isOk = true := by decide +kernel
  obtain ⟨⟨report, target'⟩, hrun⟩ := exists_of_isOk hok
  have hnew : NoSourceRefs demoConfig demoTarget := fun row hrow => absurd hrow List.not_mem_nil
  refine ⟨report, target', hrun, (plan_predicts_iff demoFloats hnew hrun).2 ⟨?_, ?_, ?_, ?_, ?_, ?_, ?_⟩⟩
  · exact ⟨fun id hid => absurd hid List.not_mem_nil, List.nodup_nil⟩
  · exact ⟨by decide, by decide⟩
  · exact ⟨by decide, by decide⟩
  · decide
  · exact fun row hrow => absurd hrow List.not_mem_nil
  · decide
  · decide +kernel

end Examples

end Main

end CoreOps.Imports
