import CoreOps.DryRun.Model

/-! The dry run of an import: every row of the dataset is checked on its own and becomes a
payload, the payloads are checked against the target schemas, and the counters that were
kept on the way are summed up. Nothing is written. -/

namespace CoreOps.DryRun

open Checked Text

inductive Severity
  | warning
  | error
  deriving DecidableEq, Repr

structure Issue where
  entity : String
  issueCode : String
  severity : Severity
  rowRef : String
  message : String
  deriving DecidableEq, Repr

/-- The issues and the counters of a run. -/
structure Tally where
  issues : List Issue := []
  duplicateWarnings : ℕ := 0
  orphanWarnings : ℕ := 0
  unknownStatusWarnings : ℕ := 0
  requiredFieldErrors : ℕ := 0
  validationErrors : ℕ := 0

/-- The counters of the warnings, if a warning has one. -/
inductive Counter
  | none
  | duplicate
  | orphan
  | unknownStatus
  deriving DecidableEq, Repr

def Tally.count (t : Tally) : Counter → Tally
  | .none => t
  | .duplicate => { t with duplicateWarnings := t.duplicateWarnings + 1 }
  | .orphan => { t with orphanWarnings := t.orphanWarnings + 1 }
  | .unknownStatus => { t with unknownStatusWarnings := t.unknownStatusWarnings + 1 }

/-- `_issue`, appended; the reference of a row has to be a text. -/
def Tally.addIssue (t : Tally) (entity issueCode : String) (severity : Severity) (rowRef : Value) (message : String) :
    Except RunError Tally :=
  match rowRef with
  | .str ref => .ok { t with issues := t.issues ++ [⟨entity, issueCode, severity, ref, message⟩] }
  | _ => .error .validationError

/-- A warning with its counter, where it applies. -/
def Tally.warnIf (t : Tally) (p : Prop) [Decidable p] (counter : Counter) (entity issueCode : String) (rowRef : Value)
    (message : String) : Except RunError Tally :=
  if p then (t.count counter).addIssue entity issueCode .warning rowRef message else .ok t

def rowRef (row : Row) : Value := row.getD "id" (.str "unknown")

/-- `{row["id"] for row in rows if row.get("id")}`. -/
def idsOf (rows : List Row) : Except RunError (List Value) :=
  (rows.map fun row => row.get "id").filter Value.truthy |>.mapM fun id => do
    raiseIf (¬ id.hashable) .typeError
    return id.key

/-- `v in ids`. -/
def isIn (v : Value) (ids : List Value) : Except RunError Bool := do
  raiseIf (¬ v.hashable) .typeError
  return v.key ∈ ids

section Rows

variable (rt : Runtime)

def loginOf (u : Row) : String := rt.lower (strip ((u.get "login").orElse (.str "")).text)

def checkUser (acc : Tally × List String) (u : Row) : Except RunError (Tally × List String) := do
  let (t, loginSeen) := acc
  let login := loginOf rt u
  if login = "" then
    -- unlike a client without a name, this error has no counter
    let t ← t.addIssue "users" "required_login" .error (rowRef u) "Missing login"
    return (t, loginSeen)
  else if login ∈ loginSeen then
    let t ← (t.count .duplicate).addIssue "users" "duplicate_login" .warning (rowRef u) "Duplicate synthetic login"
    return (t, loginSeen)
  else return (t, login :: loginSeen)

def displayNameOf (c : Row) : String := strip ((c.get "display_name").orElse (.str "")).text

def partyPayload (c : Row) : PartyPayload where
  partyType := if rt.upper (c.getD "party_type" (.str "")).text = "PERSON" then .person else .organization
  displayName := displayNameOf c
  status := if rt.lower (c.getD "status" (.str "")).text ∈ ["active", "new"] then .active else .inactive
  contactMethods := if (c.get "email").truthy then [c.get "email"] else []
  syntheticSourceId := c.get "id"

def checkClient (acc : Tally × List PartyPayload) (c : Row) : Except RunError (Tally × List PartyPayload) := do
  let (t, payloads) := acc
  if displayNameOf c = "" then
    let t ← { t with requiredFieldErrors := t.requiredFieldErrors + 1 }.addIssue "clients" "required_display_name"
      .error (rowRef c) "Missing display_name"
    return (t, payloads)
  else return (t, payloads ++ [partyPayload rt c])

def catalogPayload (s : Row) : CatalogItemPayload where
  name := s.getD "name" (.str "Legacy service")
  sku := "legacy-" ++ (s.get "id").text

def workItemPayload (o : Row) (mapped : Imports.WorkItemStatus × Bool) : WorkItemPayload where
  title := "Synthetic order " ++ (o.get "number").text
  status := mapped.1
  legacyOrderId := o.get "id"
  statusNeedsReview := mapped.2

def checkOrder (clientIds : List Value) (acc : Tally × List WorkItemPayload) (o : Row) :
    Except RunError (Tally × List WorkItemPayload) := do
  let (t, payloads) := acc
  let mapped ← mapLegacyOrderStatus rt (o.get "status")
  let t ← t.warnIf mapped.2 .unknownStatus "orders" "unknown_status" (rowRef o)
    ("Unknown order status " ++ (o.get "status").text)
  let known ← isIn (o.get "client_id") clientIds
  let t ← t.warnIf (¬ known) .orphan "orders" "orphan_client" (rowRef o) "Order references missing client"
  return (t, payloads ++ [workItemPayload o mapped])

def checkOrderStage (orderIds : List Value) (t : Tally) (st : Row) : Except RunError Tally := do
  let (_, needsReview) ← mapLegacyStageStatus rt (st.get "status")
  let t ← t.warnIf needsReview .unknownStatus "order_stages" "unknown_stage_status" (rowRef st)
    ("Unknown stage status " ++ (st.get "status").text)
  let t ← t.warnIf (st.get "template_id" = .none) .none "order_stages" "missing_template_id" (rowRef st)
    "template_id missing, fallback template required"
  let known ← isIn (st.get "order_id") orderIds
  t.warnIf (¬ known) .orphan "order_stages" "orphan_order" (rowRef st) "Stage references missing order"

def checkOrderItem (orderIds serviceIds : List Value) (t : Tally) (line : Row) : Except RunError Tally := do
  let known ← isIn (line.get "order_id") orderIds
  let t ← t.warnIf (¬ known) .orphan "order_items" "orphan_order" (rowRef line) "Line references missing order"
  let known ← isIn (line.get "service_id") serviceIds
  t.warnIf (¬ known) .orphan "order_items" "orphan_service" (rowRef line) "Line references missing service"

/-- The payload of a contract, once its status is a text and its amount a number. -/
def documentPayload (context : Context) (c : Row) (legacyStatus : Option String) (amount : ℚ) : DocumentPayload where
  title := "Synthetic contract " ++ (c.get "number").text
  legacyStatus := legacyStatus
  amount := amount
  hasWorkItem := (c.get "order_id").truthy
  externalRef := "legacy_contract:" ++ (c.get "id").text
  branchId := context.defaultBranchId
  legacyContractNumber := ((c.get "number").orElse (.str "")).text

def checkContract (context : Context) (acc : Tally × List DocumentPayload) (c : Row) :
    Except RunError (Tally × List DocumentPayload) := do
  let (t, payloads) := acc
  let amount ← amountOf (c.get "amount")
  let legacyStatus ← optionalText (c.get "status")
  let assessment := assessLegacyContractImport rt legacyStatus (c.get "order_id").truthy amount {}
  let t := if assessment.statusNeedsReview then t.count .unknownStatus else t
  let t ← t.warnIf assessment.linkNeedsReview .none "contracts" "null_order_link" (rowRef c)
    "contracts.order_id is NULL; review required"
  let t ← t.warnIf assessment.amountNeedsReview .none "contracts" "zero_amount" (rowRef c)
    "contracts.amount is 0; policy review required"
  return (t, payloads ++ [documentPayload context c legacyStatus amount])

/-- The payments so far, with what their amounts sum to on both sides. -/
structure PaymentTally where
  tally : Tally
  payloads : List PaymentPayload
  sourceTotal : ℚ
  mappedTotal : ℚ

/-- The payload of a payment, once its type is mapped and its amount a number. -/
def paymentPayload (p : Row) (type : Finance.LegacyPaymentType) (amount : ℚ) : PaymentPayload where
  amount := amount
  status := (Finance.mapLegacyPaymentType type).2.1
  direction := (Finance.mapLegacyPaymentType type).1
  legacyPaymentType := p.get "type"

/-- What a sum of amounts may come to. -/
def Fits (total : ℚ) : Prop := Int.log 10 |total| ≤ 999999

instance (total : ℚ) : Decidable (Fits total) := inferInstanceAs (Decidable (Int.log 10 |total| ≤ 999999))

/-- `total += amount`. -/
def addAmount (total amount : ℚ) : Except RunError ℚ := do
  raiseIf (¬ Fits (Finance.add total amount)) .overflow
  return Finance.add total amount

def checkPayment (orderIds : List Value) (acc : PaymentTally) (p : Row) : Except RunError PaymentTally := do
  let amount ← amountOf (p.get "amount")
  let sourceTotal ← addAmount acc.sourceTotal amount
  let type ← legacyPaymentType rt (p.get "type")
  let t ← acc.tally.warnIf (Finance.mapLegacyPaymentType type).2.2 .unknownStatus "payments" "unknown_payment_type"
    (rowRef p) ("Unknown payment type " ++ (p.get "type").text)
  let known ← isIn (p.get "order_id") orderIds
  let t ← t.warnIf (¬ known) .orphan "payments" "orphan_order" (rowRef p) "Payment references missing order"
  let mappedTotal ← addAmount acc.mappedTotal amount
  return {
    tally := t
    payloads := acc.payloads ++ [paymentPayload p type amount]
    sourceTotal := sourceTotal
    mappedTotal := mappedTotal }

/-- What a schema says of the payloads, as the run counts and reports it. -/
def reportRefusal (ref : String) (t : Tally) : Except SchemaError Unit → Except RunError Tally
  | .ok () => .ok t
  | .error e =>
    { t with validationErrors := t.validationErrors + 1 }.addIssue "target_payload" "dto_validation_error" .error
      (.str ref) (rt.errorText e)

end Rows

structure FinanceCheck where
  sourcePaymentsTotal : ℚ
  mappedPaymentsTotal : ℚ
  difference : ℚ
  passed : Bool

structure BranchReadiness where
  tenantReady : Bool
  defaultBranchReady : Bool
  tenantId : ℕ
  defaultBranchId : Option ℕ
  passed : Bool

structure EntitySummary where
  entity : String
  sourceCount : ℕ
  importedCount : ℕ
  skippedCount : ℕ
  errorCount : ℕ
  reviewCount : ℕ
  deriving DecidableEq, Repr

structure ValidationReport where
  issues : List Issue
  duplicateWarnings : ℕ
  orphanWarnings : ℕ
  unknownStatusWarnings : ℕ
  requiredFieldErrors : ℕ
  financeCheck : FinanceCheck
  tenantBranchReadiness : BranchReadiness

structure BatchSummary where
  tenantId : ℕ
  createdByUserId : Option ℕ
  sourceSystem : String
  totalSourceRows : ℕ
  totalImportedRows : ℕ
  totalSkippedRows : ℕ
  totalErrorRows : ℕ
  totalReviewRows : ℕ
  statusMappingWarnings : ℕ
  entities : List EntitySummary
  notes : String

structure Result where
  summary : BatchSummary
  report : ValidationReport

/-- `build_batch_summary`; its schema bounds the source system. -/
def buildBatchSummary (context : Context) (entities : List EntitySummary)
    (statusMappingWarnings reviewCount errorCount : ℕ) (notes : String) : Except RunError BatchSummary := do
  raiseIf (64 < context.sourceSystem.length) .validationError
  return {
    tenantId := context.tenantId
    createdByUserId := context.createdByUserId
    sourceSystem := context.sourceSystem
    totalSourceRows := (entities.map EntitySummary.sourceCount).sum
    totalImportedRows := (entities.map EntitySummary.importedCount).sum
    totalSkippedRows := (entities.map EntitySummary.skippedCount).sum
    totalErrorRows := errorCount
    totalReviewRows := reviewCount
    statusMappingWarnings := statusMappingWarnings
    entities := entities
    notes := notes }

/-- A context always has a tenant, so only its branch may be missing. -/
def branchReadiness (context : Context) : BranchReadiness where
  tenantReady := true
  defaultBranchReady := context.defaultBranchId.isSome
  tenantId := context.tenantId
  defaultBranchId := context.defaultBranchId
  passed := context.defaultBranchId.isSome

def checkContext (context : Context) (t : Tally) : Except RunError Tally :=
  if context.defaultBranchId.isSome then .ok t
  else t.addIssue "tenant" "missing_default_branch_id" .error (.str "context")
    "default_branch_id required before import dry-run"

def PaymentTally.financeCheck (p : PaymentTally) : FinanceCheck where
  sourcePaymentsTotal := p.sourceTotal
  mappedPaymentsTotal := p.mappedTotal
  difference := Finance.sub p.sourceTotal p.mappedTotal
  passed := p.sourceTotal = p.mappedTotal

def checkFinance (p : PaymentTally) : Except RunError Tally :=
  if p.financeCheck.passed then .ok p.tally
  else p.tally.addIssue "payments" "finance_aggregate_mismatch" .error (.str "aggregate") "Payment aggregates mismatch"

/-- The rows once all are checked. -/
structure Checks where
  tally : Tally
  parties : List PartyPayload
  catalogItems : List CatalogItemPayload
  workItems : List WorkItemPayload
  documents : List DocumentPayload
  payments : List PaymentPayload
  financeCheck : FinanceCheck

section Run

variable (rt : Runtime) (data : Dataset) (context : Context)

/-- The first part of `run`: the context and the rows. -/
def checkRows : Except RunError Checks := do
  let t ← checkContext context {}
  let (t, _) ← data.users.foldlM (checkUser rt) (t, [])
  let clientIds ← idsOf data.clients
  let serviceIds ← idsOf data.services
  let orderIds ← idsOf data.orders
  let (t, parties) ← data.clients.foldlM (checkClient rt) (t, [])
  let (t, workItems) ← data.orders.foldlM (checkOrder rt clientIds) (t, [])
  let t ← data.orderStages.foldlM (checkOrderStage rt orderIds) t
  let t ← data.orderItems.foldlM (checkOrderItem orderIds serviceIds) t
  let (t, documents) ← data.contracts.foldlM (checkContract rt context) (t, [])
  let p ← data.payments.foldlM (checkPayment rt orderIds) ⟨t, [], 0, 0⟩
  let t ← checkFinance p
  return {
    tally := t
    parties := parties
    catalogItems := data.services.map catalogPayload
    workItems := workItems
    documents := documents
    payments := p.payloads
    financeCheck := p.financeCheck }

/-- What the schemas say of the payloads, in the order they are asked. -/
def refusals (c : Checks) : List (Except SchemaError Unit) :=
  [validatePayloads PartyPayload.validate c.parties, validatePayloads CatalogItemPayload.validate c.catalogItems,
    validatePayloads WorkItemPayload.validate c.workItems, validatePayloads DocumentPayload.validate c.documents,
    validatePayloads PaymentPayload.validate c.payments]

def tenantPayload : TenantPayload := ⟨"Synthetic Consulting Tenant", "synthetic-consulting-tenant"⟩

/-- The second part: the target schemas. -/
def checkTarget (c : Checks) : Except RunError Tally := do
  let t ← reportRefusal rt "tenant_schema" c.tally tenantPayload.validate
  (refusals c).foldlM (reportRefusal rt "schema") t

def tenantErrors : ℕ := if (branchReadiness context).passed then 0 else 1

def financeErrors (c : Checks) : ℕ := if c.financeCheck.passed then 0 else 1

def entitySummaries (c : Checks) (t : Tally) : List EntitySummary :=
  let ready := (branchReadiness context).passed
  [⟨"tenant_default_branch", 1, if ready then 1 else 0, if ready then 0 else 1, tenantErrors context, 0⟩,
    ⟨"users", data.users.length, data.users.length - t.validationErrors, 0, t.requiredFieldErrors,
      t.duplicateWarnings⟩,
    ⟨"parties", data.clients.length, c.parties.length, data.clients.length - c.parties.length,
      t.requiredFieldErrors, 0⟩,
    ⟨"catalog_services", data.services.length, c.catalogItems.length, 0, 0, 0⟩,
    ⟨"work_items", data.orders.length, c.workItems.length, 0, 0, t.unknownStatusWarnings⟩,
    ⟨"documents_contracts", data.contracts.length, c.documents.length, 0, 0,
      (t.issues.filter fun i => i.entity = "contracts").length⟩,
    ⟨"finance_payments", data.payments.length, c.payments.length, 0, financeErrors c,
      (t.issues.filter fun i => i.entity = "payments").length⟩]

/-- The third part: the report and the summary. -/
def summarize (c : Checks) (t : Tally) : Except RunError Result := do
  -- the imported users are a count, which may not be negative
  raiseIf (data.users.length < t.validationErrors) .validationError
  let summary ← buildBatchSummary context (entitySummaries data context c t) t.unknownStatusWarnings
    (t.duplicateWarnings + t.orphanWarnings + t.unknownStatusWarnings)
    (t.requiredFieldErrors + tenantErrors context + financeErrors c + t.validationErrors)
    ("C2a synthetic dry-run scenario=" ++ context.scenarioName ++ "; REST no-op target only")
  return {
    summary := summary
    report := {
      issues := t.issues
      duplicateWarnings := t.duplicateWarnings
      orphanWarnings := t.orphanWarnings
      unknownStatusWarnings := t.unknownStatusWarnings
      requiredFieldErrors := t.requiredFieldErrors
      financeCheck := c.financeCheck
      tenantBranchReadiness := branchReadiness context } }

def run : Except RunError Result := do
  let c ← checkRows rt data context
  let t ← checkTarget rt c
  summarize data context c t

end Run

end CoreOps.DryRun
