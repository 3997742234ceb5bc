import CoreOps.Finance.Service
import CoreOps.Lib.Runs
import CoreOps.Lib.Text

/-! The calls through which identifiers of other rows come in: invoices, documents, external
references of an integration, and tasks of a work item. The rows that are only pointed at
are held by their tenants. Files, signatures, the stored context of a document and audit rows
are left out. -/

namespace CoreOps.References

open Checked Text Finance

/-! Documents. -/

inductive DocumentStatus
  | draft
  | generated
  | sentForReview
  | sentForSignature
  | signed
  | rejected
  | cancelled
  | archived
  deriving DecidableEq, Repr

structure DocumentField where
  fieldKey : String
  isRequired : Bool
  defaultValue : Option String
  deriving DecidableEq, Repr

structure DocumentTemplate where
  tenantId : ℕ
  name : String
  bodyTemplate : String
  isActive : Bool
  fields : List DocumentField
  deriving DecidableEq, Repr

structure DocumentInstance where
  tenantId : ℕ
  templateId : Option ℕ
  title : String
  status : DocumentStatus
  renderedContent : Option String
  partyId : Option ℕ
  workItemId : Option ℕ
  deriving DecidableEq, Repr

structure DocumentGenerateRequest where
  templateId : ℕ
  title : Option String
  /-- A dictionary: its keys are different. -/
  context : List (String × String)
  partyId : Option ℕ
  workItemId : Option ℕ

/-- What a legacy contract status says once stripped and upper-cased. -/
inductive LegacyContractStatus
  | signed
  | completed
  | onReview
  | cancelled
  | unknown
  deriving DecidableEq, Repr

structure DocumentImportCreate where
  title : String
  partyId : Option ℕ
  workItemId : Option ℕ
  legacyStatus : Option LegacyContractStatus
  status : Option DocumentStatus
  renderedContent : Option String

/-! External references and tasks. -/

inductive ExternalSyncStatus
  | pending
  | linked
  | synced
  | error
  deriving DecidableEq, Repr

structure ExternalReference where
  tenantId : ℕ
  connectionId : Option ℕ
  entityType : String
  entityId : ℕ
  providerCode : String
  externalEntityType : String
  externalId : String
  externalUrl : Option String
  syncStatus : ExternalSyncStatus
  lastSyncedAt : ℤ
  deriving DecidableEq, Repr

structure ExternalReferenceCreate where
  entityType : String
  entityId : ℕ
  providerCode : String
  externalEntityType : String
  externalId : String
  externalUrl : Option String
  connectionId : Option ℕ

inductive TaskStatus
  | pending
  | inProgress
  | done
  | cancelled
  deriving DecidableEq, Repr

structure Task where
  tenantId : ℕ
  workItemId : ℕ
  title : String
  description : Option String
  status : TaskStatus
  dueAt : Option ℤ
  assignedToUserId : Option ℕ
  processRunId : Option ℕ
  automationKey : Option String
  deriving DecidableEq, Repr

structure TaskCreate where
  title : String
  description : Option String
  status : TaskStatus
  dueAt : Option ℤ
  assignedToUserId : Option ℕ
  processRunId : Option ℕ
  automationKey : Option String

/-- A run of a process on a work item. -/
structure ProcessRun where
  tenantId : ℕ
  workItemId : ℕ
  deriving DecidableEq, Repr

/-- Work items and connections are held by their tenants. -/
structure State where
  finance : Finance.State
  templates : Table ℕ DocumentTemplate
  documents : Table ℕ DocumentInstance
  references : Table ℕ ExternalReference
  tasks : Table ℕ Task
  workItems : Table ℕ ℕ
  connections : Table ℕ ℕ
  processRuns : Table ℕ ProcessRun

inductive ReferenceError
  | finance (error : FinanceError)
  | notFound (message : String)
  | conflict (message : String)
  | integrityError
  deriving DecidableEq, Repr

/-! The template engine. -/

def isKeyChar (c : Char) : Bool := c.isAlphanum || c = '_'

def openBrace : Char := Char.ofNat 123

def closeBrace : Char := Char.ofNat 125

/-- A placeholder at the head of a text: its key, and what is left. -/
def takePlaceholder (l : List Char) : Option (String × List Char) :=
  if [openBrace, openBrace].isPrefixOf l then
    match ((l.drop 2).dropWhile isSpace).span isKeyChar with
    | ([], _) => none
    | (key, rest) =>
      let rest := rest.dropWhile isSpace
      if [closeBrace, closeBrace].isPrefixOf rest then some (String.ofList key, rest.drop 2) else none
  else none

/-- A template cut into its placeholders and the characters around them; the length of the text
is fuel enough. -/
def pieces : ℕ → List Char → List (Char ⊕ String)
  | 0, _ | _, [] => []
  | fuel + 1, c :: cs =>
    match takePlaceholder (c :: cs) with
    | some (key, rest) => .inr key :: pieces fuel rest
    | none => .inl c :: pieces fuel cs

def piecesOf (body : String) : List (Char ⊕ String) := pieces body.toList.length body.toList

/-- `extract_placeholders`. -/
def extractPlaceholders (body : String) : List String := ((piecesOf body).filterMap Sum.getRight?).dedup

/-- `render_template`; a key that is missing is raised. -/
def renderTemplate (body : String) (context : List (String × String)) : Except String String := do
  let texts ← (piecesOf body).mapM fun
    | .inl c => Except.ok (String.singleton c)
    | .inr key => orRaise (context.lookup key) key
  return String.join texts

/-- The value of a field that the context does not give. -/
def addField (placeholders : List String) (context : List (String × String)) (field : DocumentField) :
    Except ReferenceError (List (String × String)) := do
  if field.fieldKey ∈ context.map (·.1) then return context
  match field.defaultValue with
  | some value => return context ++ [(field.fieldKey, value)]
  | none => do
    raiseIf (field.isRequired = true ∧ field.fieldKey ∈ placeholders)
      (.conflict ("Required field missing: " ++ field.fieldKey))
    return context

/-- `_build_context`. -/
def buildContext (template : DocumentTemplate) (provided : List (String × String)) :
    Except ReferenceError (List (String × String)) := do
  let placeholders := extractPlaceholders template.bodyTemplate
  let context ← template.fields.foldlM (addField placeholders) provided
  let missing := placeholders.filter fun key => key ∉ context.map (·.1)
  raiseIf (missing ≠ [])
    (.conflict ("Missing placeholder values: " ++ ", ".intercalate (missing.mergeSort fun a b => a ≤ b)))
  return context

/-! The services. -/

section Services

variable (tenantId : ℕ)

/-- A new row, under an identifier that is not taken. -/
def insertNew {α : Type} (table : Table ℕ α) (id : ℕ) (row : α) : Except ReferenceError (Table ℕ α) := do
  raiseIf ((table.get? id).isSome) .integrityError
  return table.insert id row

def generateDocument (documentId : ℕ) (payload : DocumentGenerateRequest) (s : State) :
    Except ReferenceError State := do
  let template ← orRaise ((s.templates.get? payload.templateId).filter fun t => t.tenantId = tenantId)
    (.notFound "Document template not found")
  raiseIf (template.isActive = false) (.conflict "Document template is not active")
  let context ← buildContext template payload.context
  let rendered ← (renderTemplate template.bodyTemplate context).mapError fun key =>
    ReferenceError.conflict ("Missing placeholder value: " ++ key)
  let documents ← insertNew s.documents documentId {
    tenantId := tenantId
    templateId := some payload.templateId
    title := orElse payload.title template.name
    status := .generated
    renderedContent := some rendered
    partyId := payload.partyId
    workItemId := payload.workItemId }
  return { s with documents := documents }

/-- `map_legacy_contract_status`, with whether the status needs a review. -/
def mapLegacyContractStatus : Option LegacyContractStatus → DocumentStatus × Bool
  | some .signed => (.signed, false)
  | some .completed => (.archived, false)
  | some .onReview => (.sentForReview, false)
  | some .cancelled => (.cancelled, false)
  | some .unknown | none => (.draft, true)

/-- The status that `assess_legacy_contract_import` aims at, with the default policy. -/
def targetStatus (legacyStatus : Option LegacyContractStatus) : DocumentStatus :=
  let (status, needsReview) := mapLegacyContractStatus legacyStatus
  if needsReview then .draft else status

def importDocument (documentId : ℕ) (payload : DocumentImportCreate) (s : State) : Except ReferenceError State := do
  let documents ← insertNew s.documents documentId {
    tenantId := tenantId
    templateId := none
    title := payload.title
    status := payload.status.getD (targetStatus payload.legacyStatus)
    renderedContent := payload.renderedContent
    partyId := payload.partyId
    workItemId := payload.workItemId }
  return { s with documents := documents }

/-- The reference of an entity at a provider. -/
def findReference (payload : ExternalReferenceCreate) (references : Table ℕ ExternalReference) : Option ℕ :=
  (references.rows.find? fun r => r.2.tenantId = tenantId ∧ r.2.entityType = payload.entityType ∧
    r.2.entityId = payload.entityId ∧ r.2.providerCode = payload.providerCode).map (·.1)

/-- Another reference of the tenant to the same external entity. -/
def clashes (payload : ExternalReferenceCreate) (id : ℕ) (r : ℕ × ExternalReference) : Bool :=
  r.1 ≠ id ∧ r.2.tenantId = tenantId ∧ r.2.providerCode = payload.providerCode ∧
    r.2.externalEntityType = payload.externalEntityType ∧ r.2.externalId = payload.externalId

/-- `create_external_reference`, which updates the reference of the entity when there is one. -/
def createExternalReference (referenceId : ℕ) (now : ℤ) (payload : ExternalReferenceCreate) (s : State) :
    Except ReferenceError State := do
  let id := (findReference tenantId payload s.references).getD referenceId
  -- the foreign key of the connection, and the two unique constraints
  raiseIf (¬ payload.connectionId.all fun c => (s.connections.get? c).isSome) .integrityError
  raiseIf (s.references.rows.any (clashes tenantId payload id)) .integrityError
  match findReference tenantId payload s.references with
  | some id =>
    return { s with references := s.references.modify id fun ref => { ref with
      connectionId := payload.connectionId
      externalEntityType := payload.externalEntityType
      externalId := payload.externalId
      externalUrl := payload.externalUrl
      syncStatus := .linked
      lastSyncedAt := now } }
  | none => do
    let references ← insertNew s.references referenceId {
      tenantId := tenantId
      connectionId := payload.connectionId
      entityType := payload.entityType
      entityId := payload.entityId
      providerCode := payload.providerCode
      externalEntityType := payload.externalEntityType
      externalId := payload.externalId
      externalUrl := payload.externalUrl
      syncStatus := .linked
      lastSyncedAt := now }
    return { s with references := references }

/-- The row keeps the constraints of the table `tasks` on the run and the key: the run is the
tenant's, both are given or neither, and the key is not empty once trimmed. -/
def keyedRun (processRuns : Table ℕ ProcessRun) : Option ℕ → Option String → Bool
  | none, none => true
  | some runId, some key =>
    (processRuns.get? runId).any (fun run => run.tenantId = tenantId) && key.toList.any (· ≠ ' ')
  | _, _ => false

def addTask (taskId workItemId : ℕ) (payload : TaskCreate) (s : State) : Except ReferenceError State := do
  raiseIf (¬ belongs tenantId s.workItems workItemId) (.notFound "Work item not found")
  raiseIf (keyedRun tenantId s.processRuns payload.processRunId payload.automationKey = false) .integrityError
  raiseIf (payload.processRunId ≠ none ∧ ∃ r ∈ s.tasks.rows, r.2.tenantId = tenantId ∧
    r.2.processRunId = payload.processRunId ∧ r.2.automationKey = payload.automationKey) .integrityError
  let tasks ← insertNew s.tasks taskId {
    tenantId := tenantId
    workItemId := workItemId
    title := payload.title
    description := payload.description
    status := payload.status
    dueAt := payload.dueAt
    assignedToUserId := payload.assignedToUserId
    processRunId := payload.processRunId
    automationKey := payload.automationKey }
  return { s with tasks := tasks }

end Services

/-- The calls; the identifier of a new row comes first. -/
inductive Op
  | createInvoice (caller : Caller) (clock : Clock) (invoiceId : ℕ) (payload : InvoiceCreate)
  | updateInvoice (caller : Caller) (clock : Clock) (invoiceId : ℕ) (payload : InvoiceUpdate)
  | generateDocument (tenantId documentId : ℕ) (payload : DocumentGenerateRequest)
  | importDocument (tenantId documentId : ℕ) (payload : DocumentImportCreate)
  | createExternalReference (tenantId referenceId : ℕ) (now : ℤ) (payload : ExternalReferenceCreate)
  | addTask (tenantId taskId workItemId : ℕ) (payload : TaskCreate)

/-- A call of the finance service. -/
def withFinance (s : State) (result : Except FinanceError Finance.State) : Except ReferenceError State := do
  let finance ← result.mapError .finance
  return { s with finance := finance }

def exec (s : State) : Op → Except ReferenceError State
  | .createInvoice caller clock invoiceId payload =>
    withFinance s (Finance.createInvoice caller clock invoiceId payload s.finance)
  | .updateInvoice caller clock invoiceId payload =>
    withFinance s (Finance.updateInvoice caller clock invoiceId payload s.finance)
  | .generateDocument tenantId documentId payload => References.generateDocument tenantId documentId payload s
  | .importDocument tenantId documentId payload => References.importDocument tenantId documentId payload s
  | .createExternalReference tenantId referenceId now payload =>
    References.createExternalReference tenantId referenceId now payload s
  | .addTask tenantId taskId workItemId payload => References.addTask tenantId taskId workItemId payload s

end CoreOps.References
