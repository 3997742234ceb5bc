import CoreOps.Finance.Model
import CoreOps.Lib.Text

/-! The data of the staging write import: the rows of the legacy source as the importer
reads them, the target tables it writes, and its configuration. A source value that the
importer only turns into text is kept as that text, `none` where it is missing; a falsy
value is an empty text. -/

namespace CoreOps.Imports

open Checked Text

inductive ImportError
  | preflight (message : String)
  | blocked (message : String)
  | sourceRefConflict (message : String)
  | integrityError
  | dataError
  deriving DecidableEq, Repr

/-! Source rows. -/

structure ServiceSource where
  id : Option String
  name : Option String
  sourceCode : Option String
  unitPrice : Option ℚ
  deriving DecidableEq, Repr

structure ClientSource where
  id : Option String
  name : Option String
  email : Option String
  deriving DecidableEq, Repr

structure OrderSource where
  id : Option String
  title : Option String
  totalAmount : Option ℚ
  deriving DecidableEq, Repr

structure OrderItemSource where
  orderId : Option String
  qty : Option ℚ
  unitPrice : Option ℚ
  lineTotal : Option ℚ
  deriving DecidableEq, Repr

structure ContractSource where
  id : Option String
  templateCode : Option String
  orderId : Option String
  number : Option String
  amount : Option ℚ
  deriving DecidableEq, Repr

structure PaymentSource where
  id : Option String
  orderId : Option String
  amount : Option ℚ
  paymentDate : Option ℤ
  paymentRef : Option String
  deriving DecidableEq, Repr

/-- The dataset an import reads. -/
structure Dataset where
  services : List ServiceSource := []
  clients : List ClientSource := []
  orders : List OrderSource := []
  orderItems : List OrderItemSource := []
  contracts : List ContractSource := []
  payments : List PaymentSource := []
  deriving DecidableEq, Repr

/-! Target tables. -/

inductive CatalogItemType
  | product
  | service
  | subscriptionService
  | bundle
  | fee
  | discount
  deriving DecidableEq, Repr

inductive PartyType
  | person
  | organization
  | soleProprietor
  deriving DecidableEq, Repr

inductive PartyStatus
  | active
  | inactive
  | archived
  deriving DecidableEq, Repr

inductive ContactMethodType
  | email
  | phone
  | mobile
  | telegram
  | whatsapp
  | other
  deriving DecidableEq, Repr

inductive WorkItemStatus
  | open_
  | inProgress
  | won
  | lost
  | cancelled
  | archived
  deriving DecidableEq, Repr

inductive DocumentStatus
  | draft
  | generated
  | sentForReview
  | sentForSignature
  | signed
  | rejected
  | cancelled
  | archived
  deriving DecidableEq, Repr

/-- What the importer notes on a row it creates. -/
structure LegacyRefs where
  legacySourceRef : String
  legacyBatchSourceRef : String
  deriving DecidableEq, Repr

structure CatalogItem where
  tenantId : ℕ
  itemType : CatalogItemType
  name : String
  sku : Option String
  basePrice : Option ℤ
  currency : Option String
  legacyRefs : Option LegacyRefs
  deriving DecidableEq, Repr

structure Party where
  tenantId : ℕ
  partyType : PartyType
  displayName : String
  status : PartyStatus
  legacyRefs : Option LegacyRefs
  deriving DecidableEq, Repr

structure ContactMethod where
  tenantId : ℕ
  partyId : ℕ
  methodType : ContactMethodType
  value : String
  isPrimary : Bool
  deriving DecidableEq, Repr

structure WorkItem where
  tenantId : ℕ
  pipelineId : ℕ
  stageId : ℕ
  workItemType : String
  title : String
  status : WorkItemStatus
  amount : Option ℤ
  currency : Option String
  source : Option String
  legacyRefs : Option LegacyRefs
  defaultBranchId : Option ℕ
  deriving DecidableEq, Repr

structure DocumentContext where
  legacySourceRef : Option String
  needsReview : Bool
  zeroAmountNeedsReview : Bool
  deriving DecidableEq, Repr

structure DocumentInstance where
  tenantId : ℕ
  templateId : Option ℕ
  title : String
  status : DocumentStatus
  context : DocumentContext
  deriving DecidableEq, Repr

/-- The tables of business data. The lines of an invoice are kept with it. -/
structure Business where
  catalogItems : Table ℕ CatalogItem
  parties : Table ℕ Party
  contactMethods : Table ℕ ContactMethod
  workItems : Table ℕ WorkItem
  documentInstances : Table ℕ DocumentInstance
  invoices : Table ℕ Finance.Invoice
  payments : Table ℕ Finance.Payment
  allocations : Table (ℕ × ℕ) Finance.PaymentAllocation

inductive AuditAction
  | create
  | update
  | delete
  | execute
  | approve
  | reject
  | login
  | other
  deriving DecidableEq, Repr

/-- The entries of an audit row's metadata that the importer writes, as text. -/
structure AuditMetadata where
  sourceSystem : Option String := none
  sourceTable : Option String := none
  sourceId : Option String := none
  sourceRef : Option String := none
  batchSourceRef : Option String := none
  importBatchId : Option String := none
  targetDb : Option String := none
  targetEntityType : Option String := none
  targetEntityId : Option ℕ := none
  amountNeedsReview : Option Bool := none
  deriving DecidableEq, Repr

structure AuditLog where
  tenantId : Option ℕ
  action : AuditAction
  entityType : Option String
  summary : String
  metadata : AuditMetadata
  deriving DecidableEq, Repr

structure DocumentTemplate where
  tenantId : ℕ
  code : String
  deriving DecidableEq, Repr

/-- The target database. -/
structure Target where
  business : Business
  auditLogs : List AuditLog
  documentTemplates : Table ℕ DocumentTemplate
  tenants : List ℕ
  /-- Branches with their tenants. -/
  branches : Table ℕ ℕ
  pipelines : List ℕ
  pipelineStages : List ℕ

/-! Configuration. -/

def isLowerOrDigit (c : Char) : Bool := ('a' ≤ c ∧ c ≤ 'z') ∨ c.isDigit

/-- `IMPORT_BATCH_ID_PATTERN`: at least three groups of lower-case letters and digits,
with hyphens between them. -/
def matchesImportBatchId (value : String) : Bool :=
  let groups := value.toList.splitOn '-'
  3 ≤ groups.length ∧ groups.all fun group => group ≠ [] ∧ group.all isLowerOrDigit

/-- A batch id as `_validate_import_batch_id` lets it pass. -/
structure ImportBatchId where
  value : String
  valid : matchesImportBatchId value = true
  deriving DecidableEq

structure StagingWriteImportConfig where
  tenantId : ℕ
  defaultBranchId : ℕ
  targetDb : String
  importBatchId : ImportBatchId
  deriving DecidableEq

/-- What the importer asks of binary floating point. -/
structure FloatArithmetic where
  /-- `abs(round(qty * unit_price, 2) - line_total) > 0.01`, where a missing line total
  is the derived one. -/
  lineTotalDiffers : (qty unitPrice : ℚ) → (lineTotal : Option ℚ) → Bool
  /-- `float(amount) == 0`. -/
  isZero : ℚ → Bool

/-- An adapter as it is constructed, with the database its session factory connects to:
its name, if it is PostgreSQL, and whether it enforces foreign keys. -/
structure SqlAlchemyStagingWriteAdapter where
  verifyTargetDb : Bool
  connectedDatabase : Option String
  enforcesForeignKeys : Bool
  floats : FloatArithmetic

end CoreOps.Imports
