import CoreOps.Imports.Model

/-! The staging write import: one importer for each table, their fixed order in one
transaction, and the rollback of a batch. The importers that register what they create
share the loop over the source references. -/

namespace CoreOps.Imports

open Checked Text

/-! Source references. -/

def sourceSystem : String := "legacy_consulting_os"

def sourceRefEntity : String := "legacy_import_source_ref"

structure SourceIdentity where
  sourceSystem : String
  sourceTable : String
  sourceId : String
  tenantId : ℕ
  importBatchId : String
  deriving DecidableEq

inductive ConflictAction
  | insert
  | skipExisting
  | updateSafeMetadata
  | conflict
  deriving DecidableEq, Repr

def resolveConflictAction (existing : List SourceIdentity) (incoming : SourceIdentity)
    (allowSafeMetadataUpdate : Bool := false) : Except ImportError ConflictAction :=
  match existing with
  | [] => .ok .insert
  | [current] => do
    raiseIf (current.tenantId ≠ incoming.tenantId) (.sourceRefConflict "Tenant mismatch for existing source ref")
    raiseIf (current.importBatchId ≠ incoming.importBatchId)
      (.sourceRefConflict "Source ref already belongs to another import batch")
    return if allowSafeMetadataUpdate then .updateSafeMetadata else .skipExisting
  | _ => .error (.sourceRefConflict "Ambiguous duplicate source refs")

def buildSourceRef (sourceTable sourceId : String) : String := sourceSystem ++ ":" ++ sourceTable ++ ":" ++ sourceId

def buildBatchSourceRef (importBatchId sourceTable sourceId : String) : String :=
  sourceSystem ++ ":" ++ importBatchId ++ ":" ++ sourceTable ++ ":" ++ sourceId

def isTableChar (c : Char) : Bool := isLowerOrDigit c || c = '_'

def isIdChar (c : Char) : Bool := c.isAlphanum || c ∈ ['.', '_', ':', '-']

/-- What `$` lets stand at the end. -/
def dropNewline (cs : List Char) : List Char := if cs.getLast? = some '\n' then cs.dropLast else cs

def isGroup (p : Char → Bool) (cs : List Char) : Bool := cs ≠ [] ∧ cs.all p

/-- `SOURCE_REF_PATTERN`; the table name ends at the first colon. -/
def matchesSourceRef (sourceRef : String) : Bool :=
  let start := (sourceSystem ++ ":").toList
  let cs := dropNewline sourceRef.toList
  let rest := cs.drop start.length
  start.isPrefixOf cs ∧ isGroup isTableChar (rest.takeWhile (· ≠ ':')) ∧
    isGroup isIdChar ((rest.dropWhile (· ≠ ':')).drop 1)

/-- `SOURCE_REF_BATCH_PATTERN`: somewhere the batch id ends, and the rest reads as before. -/
def matchesBatchSourceRef (sourceRef : String) : Bool :=
  let start := (sourceSystem ++ ":").toList
  let cs := dropNewline sourceRef.toList
  let rest := cs.drop start.length
  start.isPrefixOf cs ∧ (List.range rest.length).any fun i =>
    let tail := rest.drop (i + 1)
    rest[i]? = some ':' ∧ isGroup isIdChar (rest.take i) ∧ isGroup isTableChar (tail.takeWhile (· ≠ ':')) ∧
      isGroup isIdChar ((tail.dropWhile (· ≠ ':')).drop 1)

section Registry

variable (config : StagingWriteImportConfig) (sourceTable sourceId : String)

/-- The identity of a source row in this import. -/
def identityOf : SourceIdentity :=
  ⟨sourceSystem, sourceTable, sourceId, config.tenantId, config.importBatchId.value⟩

def isSourceRef (tenantId : ℕ) (row : AuditLog) : Bool :=
  row.tenantId = some tenantId ∧ row.entityType = some sourceRefEntity

/-- `str(...)` of a metadata entry. -/
def textOf (entry : Option String) : String := entry.getD "None"

/-- The registered references with the key. -/
def registered (auditLogs : List AuditLog) (tenantId : ℕ) (key : String) : List AuditLog :=
  auditLogs.filter fun row => isSourceRef tenantId row && row.summary = key

def resolveSourceRefAction (target : Target) (incoming : SourceIdentity) : Except ImportError ConflictAction :=
  let key := buildSourceRef incoming.sourceTable incoming.sourceId
  let existing := registered target.auditLogs incoming.tenantId key
  let identities := existing.map fun row =>
    ⟨textOf row.metadata.sourceSystem, textOf row.metadata.sourceTable, textOf row.metadata.sourceId,
      incoming.tenantId, textOf row.metadata.importBatchId⟩
  (resolveConflictAction identities incoming).mapError fun
    | .sourceRefConflict message => .blocked ("BLOCKED:" ++ message)
    | e => e

def Target.log (target : Target) (row : AuditLog) : Target := { target with auditLogs := target.auditLogs ++ [row] }

def registerSourceRef (source : SourceIdentity) (targetEntity : String) (targetId : ℕ) (target : Target) :
    Except ImportError Target := do
  let sourceRef := buildSourceRef source.sourceTable source.sourceId
  let batchSourceRef := buildBatchSourceRef source.importBatchId source.sourceTable source.sourceId
  raiseIf (matchesSourceRef sourceRef = false) (.preflight ("Invalid source_ref format: " ++ sourceRef))
  raiseIf (matchesBatchSourceRef batchSourceRef = false)
    (.preflight ("Invalid batch-scoped source_ref format: " ++ batchSourceRef))
  return target.log {
    tenantId := some source.tenantId
    action := .other
    entityType := some sourceRefEntity
    summary := sourceRef
    metadata := {
      sourceSystem := some source.sourceSystem
      sourceTable := some source.sourceTable
      sourceId := some source.sourceId
      sourceRef := some sourceRef
      batchSourceRef := some batchSourceRef
      importBatchId := some source.importBatchId
      targetEntityType := some targetEntity
      targetEntityId := some targetId } }

def legacyRefs : LegacyRefs :=
  ⟨buildSourceRef sourceTable sourceId, buildBatchSourceRef config.importBatchId.value sourceTable sourceId⟩

end Registry

/-! Importers of one row. -/

/-- What comes of a source row: whether it was imported, skipped or in conflict, and the
review flags it raised. -/
structure RowResult where
  imported : Bool := false
  skippedExisting : Bool := false
  conflict : Bool := false
  reviewFlags : List String := []
  deriving DecidableEq, Repr

/-- Numbers as a `Numeric(18, 2)` column stores them. -/
def moneyColumn (x : ℚ) : Except ImportError ℤ := (Finance.moneyColumn x).mapError fun _ => .dataError

def Target.withBusiness (target : Target) (business : Business) : Target := { target with business := business }

section Importers

variable (adapter : SqlAlchemyStagingWriteAdapter) (config : StagingWriteImportConfig)

/-- An importer that goes by the source references: a row without an id is passed over, a
known one skipped, and a new one created and registered. -/
def importReferenced (sourceTable targetEntity : String) (id : Option String)
    (create : String → Business → Except ImportError (ℕ × Business)) (target : Target) :
    Except ImportError (RowResult × Target) := do
  let sourceId := orElse id ""
  if sourceId = "" then return ({}, target)
  else
    let ref := identityOf config sourceTable sourceId
    match ← resolveSourceRefAction target ref with
    | .skipExisting => return ({ skippedExisting := true }, target)
    | .conflict => return ({ conflict := true }, target)
    | _ => do
      let (key, business) ← create sourceId target.business
      let target' ← registerSourceRef ref targetEntity key (target.withBusiness business)
      return ({ imported := true }, target')

def createCatalogItem (row : ServiceSource) (sourceId : String) (business : Business) :
    Except ImportError (ℕ × Business) := do
  let basePrice ← row.unitPrice.mapM moneyColumn
  let sku := orElse row.sourceCode ("legacy-service-" ++ sourceId)
  -- `uq_catalog_item_tenant_sku`
  raiseIf (business.catalogItems.rows.any fun r => r.2.tenantId = config.tenantId && r.2.sku = some sku)
    .integrityError
  let item : CatalogItem := {
    tenantId := config.tenantId
    itemType := .service
    name := orElse row.name (orElse row.sourceCode ("Service " ++ sourceId))
    sku := some sku
    basePrice := basePrice
    currency := some "RUB"
    legacyRefs := some (legacyRefs config "services" sourceId) }
  return (business.catalogItems.freshKey, { business with catalogItems := business.catalogItems.add item })

def importService (row : ServiceSource) : Target → Except ImportError (RowResult × Target) :=
  importReferenced config "services" "catalog_item" row.id (createCatalogItem config row)

def createParty (row : ClientSource) (sourceId : String) (business : Business) :
    Except ImportError (ℕ × Business) := do
  let key := business.parties.freshKey
  let party : Party := {
    tenantId := config.tenantId
    partyType := .person
    displayName := orElse row.name ("Client " ++ sourceId)
    status := .active
    legacyRefs := some (legacyRefs config "clients" sourceId) }
  let contacts := match row.email.filter (· ≠ "") with
    | none => business.contactMethods
    | some email => business.contactMethods.add {
        tenantId := config.tenantId
        partyId := key
        methodType := .email
        value := email
        isPrimary := true }
  return (key, { business with parties := business.parties.add party, contactMethods := contacts })

def importClient (row : ClientSource) : Target → Except ImportError (RowResult × Target) :=
  importReferenced config "clients" "party" row.id (createParty config row)

/-- The default branch stands for the pipeline and the stage. -/
def createWorkItem (keysHold : Bool) (row : OrderSource) (sourceId : String) (business : Business) :
    Except ImportError (ℕ × Business) := do
  let amount ← row.totalAmount.mapM moneyColumn
  raiseIf (keysHold = false) .integrityError
  let work : WorkItem := {
    tenantId := config.tenantId
    pipelineId := config.defaultBranchId
    stageId := config.defaultBranchId
    workItemType := "consulting_order"
    title := orElse row.title ("Order " ++ sourceId)
    status := .open_
    amount := amount
    currency := some "RUB"
    source := some sourceSystem
    legacyRefs := some (legacyRefs config "orders" sourceId)
    defaultBranchId := some config.defaultBranchId }
  return (business.workItems.freshKey, { business with workItems := business.workItems.add work })

/-- The foreign keys of the placeholder pipeline and stage, where they are enforced. -/
def placeholderKeysHold (target : Target) : Bool :=
  !adapter.enforcesForeignKeys ||
    (config.defaultBranchId ∈ target.pipelines && config.defaultBranchId ∈ target.pipelineStages)

def importOrder (row : OrderSource) (target : Target) : Except ImportError (RowResult × Target) :=
  importReferenced config "orders" "work_item" row.id
    (createWorkItem config (placeholderKeysHold adapter config target) row) target

def importOrderItem (row : OrderItemSource) (target : Target) : Except ImportError (RowResult × Target) :=
  let orderId := orElse row.orderId ""
  if orderId = "" then return ({}, target)
  else if adapter.floats.lineTotalDiffers (row.qty.getD 0) (row.unitPrice.getD 0) (row.lineTotal.filter (· ≠ 0)) then
    return ({ imported := true, reviewFlags := ["amount_needs_review"] }, target.log {
      tenantId := some config.tenantId
      action := .other
      entityType := some "legacy_line_amount_review"
      summary := "order:" ++ orderId
      metadata := { amountNeedsReview := some true } })
  else return ({ imported := true }, target)

/-- The template of the tenant with the code. -/
def findTemplate (target : Target) (code : String) : Option ℕ :=
  (target.documentTemplates.rows.find? fun r => r.2.tenantId = config.tenantId && r.2.code = code).map Prod.fst

def importContract (row : ContractSource) (target : Target) : Except ImportError (RowResult × Target) :=
  let sourceId := orElse row.id ""
  if sourceId = "" then return ({}, target)
  else
    let template := findTemplate config target (orElse row.templateCode "legacy_unknown_template")
    let zeroAmount := adapter.floats.isZero (row.amount.getD 0)
    let document : DocumentInstance := {
      tenantId := config.tenantId
      templateId := template.orElse fun _ => findTemplate config target "legacy_unknown_template"
      title := orElse row.number ("Contract " ++ sourceId)
      status := .archived
      context := {
        legacySourceRef := some (buildSourceRef "contracts" sourceId)
        needsReview := orElse row.orderId "" = ""
        zeroAmountNeedsReview := zeroAmount } }
    let flags := (if template = none then ["template_needs_review"] else []) ++
      if zeroAmount then ["zero_amount_needs_review"] else []
    return ({ imported := true, reviewFlags := flags }, target.withBusiness { target.business with
      documentInstances := target.business.documentInstances.add document })

def createPaymentRow (row : PaymentSource) (needsReview unlinked : Bool) (business : Business) :
    Except ImportError (ℕ × Business) := do
  let sourceId := orElse row.id ""
  let amount ← moneyColumn (row.amount.getD 0)
  let paymentDate ← orRaise row.paymentDate .integrityError
  let notes := ["legacy_import", if needsReview then "needs_review" else "",
    if unlinked then "unlinked_legacy_payment" else "",
    if sourceId = "" then "" else buildSourceRef "payments" sourceId].filter (· ≠ "")
  let payment : Finance.Payment := {
    tenantId := config.tenantId
    partyId := none
    paymentNumber := "LEGACY-PAY-" ++ orElse (some sourceId) "UNKNOWN"
    amount := amount
    currency := "RUB"
    amountAllocated := 0
    paymentDate := paymentDate
    method := .other
    status := .completed
    direction := if needsReview then .needsReview else .incoming
    referenceNumber := some (orElse row.paymentRef "")
    notes := some ("; ".intercalate notes) }
  return (business.payments.freshKey, { business with payments := business.payments.add payment })

def createInvoiceShell (row : PaymentSource) (business : Business) : Except ImportError (ℕ × Business) := do
  let invoiceNumber := "LEGACY-INV-" ++ orElse row.orderId "unknown"
  let amount ← moneyColumn (row.amount.getD 0)
  -- `uq_invoice_tenant_number`
  raiseIf (business.invoices.rows.any fun r => r.2.tenantId = config.tenantId && r.2.invoiceNumber = invoiceNumber)
    .integrityError
  let line : Finance.InvoiceLine := {
    catalogItemId := none
    description := "legacy order payment shell"
    quantity := 10000
    unitPrice := amount
    lineTotal := amount
    sortOrder := 10 }
  let invoice : Finance.Invoice := {
    tenantId := config.tenantId
    legalEntityId := none
    taxProfileId := none
    partyId := 0
    workItemId := none
    documentId := none
    invoiceNumber := invoiceNumber
    status := .paid
    currency := "RUB"
    subtotal := amount
    taxAmount := 0
    total := amount
    amountPaid := amount
    issueDate := none
    dueDate := none
    issuedAt := none
    notes := some "legacy invoice shell"
    lines := [line] }
  return (business.invoices.freshKey, { business with invoices := business.invoices.add invoice })

/-- The allocation of a payment that names an order. -/
def allocateLinked (row : PaymentSource) (paymentId invoiceId : ℕ) (business : Business) : Except ImportError Business := do
  let amount ← moneyColumn (row.amount.getD 0)
  -- `uq_payment_allocation_payment_invoice`
  raiseIf ((business.allocations.get? (paymentId, invoiceId)).isSome) .integrityError
  return { business with
    allocations := business.allocations.insert (paymentId, invoiceId)
      ⟨config.tenantId, amount, some "legacy linked allocation"⟩ }

def isLinked (row : PaymentSource) : Bool := orElse row.orderId "" ≠ ""

def importLinkedPayment (row : PaymentSource) (target : Target) : Except ImportError (RowResult × Target) :=
  if isLinked row then do
    let (paymentId, business) ← createPaymentRow config row false false target.business
    let (invoiceId, business) ← createInvoiceShell config row business
    let business ← allocateLinked config row paymentId invoiceId business
    return ({ imported := true }, target.withBusiness business)
  else return ({}, target)

def importOrphanPayment (row : PaymentSource) (target : Target) : Except ImportError (RowResult × Target) :=
  if isLinked row then return ({}, target)
  else do
    let (_, business) ← createPaymentRow config row true true target.business
    return ({ imported := true, reviewFlags := ["unlinked_legacy_payment"] }, target.withBusiness business)

end Importers

/-! The run. -/

/-- A loop over source rows: the result of each row, in their order. -/
def importRows {ρ : Type} (step : ρ → Target → Except ImportError (RowResult × Target)) :
    List ρ → Target → Except ImportError (List RowResult × Target)
  | [], target => return ([], target)
  | row :: rows, target => do
    let (result, target) ← step row target
    let (results, target) ← importRows step rows target
    return (result :: results, target)

structure StageResult where
  key : String
  imported : ℕ := 0
  skippedExisting : ℕ := 0
  conflicts : ℕ := 0
  deriving DecidableEq, Repr

/-- What a run reports: its stages in order, and the review flags with their counts. -/
structure ExecutionReport where
  importBatchId : String
  stages : List StageResult
  reviewFlags : List (String × ℕ)
  deriving DecidableEq, Repr

def requiredImportSequence : List String :=
  ["import_batch_audit_context", "services_catalog", "clients_parties_contacts", "orders_work_items",
    "order_items_line_metadata", "contracts_documents", "payments_linked", "payments_orphan_standalone",
    "review_flags_audit_summary_validation_report"]

def stageResult (key : String) (results : List RowResult) : StageResult where
  key := key
  imported := results.countP (·.imported)
  skippedExisting := results.countP (·.skippedExisting)
  conflicts := results.countP (·.conflict)

/-- The flags that were raised, each with how often. -/
def countFlags (flags : List String) : List (String × ℕ) := flags.dedup.map fun flag => (flag, flags.count flag)

section Run

variable (adapter : SqlAlchemyStagingWriteAdapter) (config : StagingWriteImportConfig)

def targetDbAllowed : String := "coreops_staging_0013"

def liveDbBlocked : String := "coreops"

def productionLikeDbNames : List String :=
  [liveDbBlocked, "coreops_production", "production", "prod", "flexity", "flexity_prod"]

def validateTargetDb (targetDb : String) : Except ImportError String := do
  let value := strip targetDb
  raiseIf (value = "") (.preflight "--target-db is required")
  raiseIf (value.toLower ∈ productionLikeDbNames ∨ value = liveDbBlocked)
    (.preflight "Target DB looks production-like and is blocked")
  raiseIf (value ≠ targetDbAllowed) (.preflight ("--target-db must be '" ++ targetDbAllowed ++ "'"))
  return value

/-- The name of the connected database, which has to be PostgreSQL. -/
def queryConnectedDatabaseName : Except ImportError String := do
  let name ← orRaise adapter.connectedDatabase (.preflight "Staging write target must be PostgreSQL")
  raiseIf (strip name = "") (.preflight "Connected database name is empty (fail-closed)")
  return strip name

def assertConnectedDatabaseMatchesTarget : Except ImportError Unit := do
  let expected ← validateTargetDb config.targetDb
  let actual ← queryConnectedDatabaseName adapter
  raiseIf (actual.toLower ∈ productionLikeDbNames) (.preflight "Connected database looks production-like and is blocked")
  raiseIf (actual ≠ expected)
    (.preflight ("Connected database '" ++ actual ++ "' does not match --target-db '" ++ expected ++ "'"))

def assertTenantBranchGuards (target : Target) : Except ImportError Unit := do
  raiseIf (config.tenantId ∉ target.tenants) (.blocked ("BLOCKED:tenant_not_found:" ++ toString config.tenantId))
  let branchTenant ← orRaise (target.branches.get? config.defaultBranchId)
    (.blocked ("BLOCKED:default_branch_not_found:" ++ toString config.defaultBranchId))
  raiseIf (branchTenant ≠ config.tenantId) (.blocked "BLOCKED:default_branch_tenant_mismatch")

def checkConnection : Except ImportError Unit :=
  if adapter.verifyTargetDb then assertConnectedDatabaseMatchesTarget adapter config else return ()

def insertBatchContext (target : Target) : Target :=
  target.log {
    tenantId := some config.tenantId
    action := .execute
    entityType := some "legacy_import_batch"
    summary := "batch:" ++ config.importBatchId.value
    metadata := {
      sourceSystem := some sourceSystem
      importBatchId := some config.importBatchId.value
      targetDb := some config.targetDb } }

def executeImportOrder (data : Dataset) (target : Target) : Except ImportError (ExecutionReport × Target) := do
  let target := insertBatchContext config target
  let (services, target) ← importRows (importService config) data.services target
  let (clients, target) ← importRows (importClient config) data.clients target
  let (orders, target) ← importRows (importOrder adapter config) data.orders target
  let (orderItems, target) ← importRows (importOrderItem adapter config) data.orderItems target
  let (contracts, target) ← importRows (importContract adapter config) data.contracts target
  let (linked, target) ← importRows (importLinkedPayment config) data.payments target
  let (orphan, target) ← importRows (importOrphanPayment config) data.payments target
  let report : ExecutionReport := {
    importBatchId := config.importBatchId.value
    stages := [{ key := "import_batch_audit_context", imported := 1 }, stageResult "services_catalog" services,
      stageResult "clients_parties_contacts" clients, stageResult "orders_work_items" orders,
      stageResult "order_items_line_metadata" orderItems, stageResult "contracts_documents" contracts,
      stageResult "payments_linked" linked, stageResult "payments_orphan_standalone" orphan,
      { key := "review_flags_audit_summary_validation_report", imported := 1 }]
    reviewFlags := countFlags ((orderItems ++ contracts ++ orphan).flatMap (·.reviewFlags)) }
  return (report, target)

/-- `run`: the checks in a session of their own, then the import in one transaction. -/
def run (data : Dataset) (target : Target) : Except ImportError (ExecutionReport × Target) := do
  checkConnection adapter config
  assertTenantBranchGuards config target
  checkConnection adapter config
  executeImportOrder adapter config data target

/-- A registered reference of the batch. -/
def isBatchRef (row : AuditLog) : Bool :=
  isSourceRef config.tenantId row && row.metadata.importBatchId = some config.importBatchId.value

/-- `rollback_batch`: the number of references deleted, and the target without them. -/
def rollbackBatch (target : Target) : ℕ × Target :=
  ((target.auditLogs.filter (isBatchRef config)).length,
    { target with auditLogs := target.auditLogs.filter fun row => !isBatchRef config row })

end Run

end CoreOps.Imports
