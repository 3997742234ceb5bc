import CoreOps.Lib.CharTables
import CoreOps.Finance.Service
import CoreOps.Imports.Model

/-! The data of the import dry run: the values of the legacy rows as Python sees them, and
the payloads that the rows become, with the checks that the target schemas make of them. -/

namespace CoreOps.DryRun

open Checked Text
open Imports (PartyType PartyStatus WorkItemStatus DocumentStatus)
open Finance (PaymentStatus PaymentDirection LegacyPaymentType)

/-- A value of a row. A number comes with its `str`; an object is any other value, which is
no text and no number. -/
inductive Value
  | none
  | bool (b : Bool)
  | number (value : ℚ) (text : String)
  | str (text : String)
  | object (truthy hashable : Bool) (text : String)
  deriving DecidableEq, Repr

namespace Value

def truthy : Value → Bool
  | none => false
  | bool b => b
  | number value _ => value ≠ 0
  | str text => text ≠ ""
  | object truthy _ _ => truthy

/-- `str(v)`. -/
def text : Value → String
  | none => "None"
  | bool true => "True"
  | bool false => "False"
  | number _ text => text
  | str text => text
  | object _ _ text => text

def hashable : Value → Bool
  | object _ hashable _ => hashable
  | _ => true

/-- What a value is compared by: numbers and truth values by their number. -/
def key : Value → Value
  | bool b => number (if b then 1 else 0) ""
  | number value _ => number value ""
  | v => v

/-- `a or b`. -/
def orElse (a b : Value) : Value := if a.truthy then a else b

end Value

abbrev Row := Table String Value

def Row.get (row : Row) (key : String) : Value := (row.get? key).getD .none

def Row.getD (row : Row) (key : String) (default : Value) : Value := (row.get? key).getD default

/-- The dataset a run reads; a table that is missing is read as empty. -/
structure Dataset where
  users : List Row := []
  clients : List Row := []
  services : List Row := []
  orders : List Row := []
  orderStages : List Row := []
  orderItems : List Row := []
  contracts : List Row := []
  payments : List Row := []

structure Context where
  tenantId : ℕ
  defaultBranchId : Option ℕ
  createdByUserId : Option ℕ
  sourceSystem : String
  scenarioName : String

/-- What stops a run. -/
inductive RunError
  | validationError
  | attributeError
  | typeError
  | invalidOperation
  | overflow
  deriving DecidableEq, Repr

/-- The fields of a payload that a schema refuses. -/
structure SchemaError where
  schemaName : String
  fields : List String
  deriving DecidableEq, Repr

/-- What a run takes from the interpreter and its libraries: the case of texts, and the
text of a validation error. -/
structure Runtime where
  lower : String → String
  upper : String → String
  errorText : SchemaError → String

/-! Decimals. -/

def digits? (cs : List Char) : Option ℕ :=
  if cs.all Char.isDigit then some (cs.foldl (fun n c => 10 * n + (c.toNat - 48)) 0) else none

def sign : List Char → ℚ × List Char
  | '-' :: cs => (-1, cs)
  | '+' :: cs => (1, cs)
  | cs => (1, cs)

/-- The exponent of a number, with its letter. -/
def exponent? : List Char → Option ℤ
  | [] => some 0
  | _ :: cs =>
    let (s, ds) := sign cs
    if ds.isEmpty then none else (digits? ds).map fun n => if s < 0 then -(n : ℤ) else n

/-- `Decimal(text)`, for a finite number. -/
def decimal? (text : String) : Option ℚ := do
  let (s, cs) := sign ((strip text).toList.filter (· ≠ '_'))
  let (mantissa, exponent) := cs.span fun c => c ≠ 'e' ∧ c ≠ 'E'
  let (whole, fraction) := mantissa.span (· ≠ '.')
  let exponent ← exponent? exponent
  let ds := whole ++ fraction.drop 1
  if ds.isEmpty then none else (digits? ds).map fun n => s * n * 10 ^ (exponent - (fraction.length - 1 : ℕ))

/-- `Decimal(str(v or "0"))`. A number that is not finite stops the run a little later. -/
def amountOf (v : Value) : Except RunError ℚ :=
  orRaise (decimal? (v.orElse (.str "0")).text) .invalidOperation

/-! The legacy mappings. -/

section Mappings

variable (rt : Runtime)

def orderStatuses : List (String × WorkItemStatus) :=
  [("COMPLETED", .won), ("IN_PROGRESS", .inProgress), ("CONTRACT_PENDING", .open_), ("CANCELLED", .cancelled)]

def mapLegacyOrderStatus : Value → Except RunError (WorkItemStatus × Bool)
  | .none => .ok (.open_, true)
  | .str status => .ok (((orderStatuses.lookup (rt.upper (strip status))).map fun s => (s, false)).getD (.open_, true))
  | _ => .error .attributeError

def stageStatuses : List (String × String) := [("NOT_STARTED", "not_started"), ("DONE", "done")]

def mapLegacyStageStatus : Value → Except RunError (String × Bool)
  | .none => .ok ("needs_review", true)
  | .str status =>
    .ok (((stageStatuses.lookup (rt.upper (strip status))).map fun s => (s, false)).getD ("needs_review", true))
  | _ => .error .attributeError

def contractStatuses : List (String × DocumentStatus) :=
  [("SIGNED", .signed), ("COMPLETED", .archived), ("ON_REVIEW", .sentForReview), ("CANCELLED", .cancelled)]

def mapLegacyContractStatus : Option String → DocumentStatus × Bool
  | none => (.draft, true)
  | some status => ((contractStatuses.lookup (rt.upper (strip status))).map fun s => (s, false)).getD (.draft, true)

def legacyPaymentType : Value → Except RunError LegacyPaymentType
  | .none => .ok .unknown
  | .str value =>
    let normalized := rt.upper (strip value)
    .ok (if normalized = "INCOME" then .income else if normalized = "EXPENSE" then .expense else .unknown)
  | _ => .error .attributeError

structure ImportPolicy where
  markLinkReviewRequired : Bool := true
  markZeroAmountReviewRequired : Bool := true
  fallbackStatus : DocumentStatus := .draft

structure ImportAssessment where
  targetStatus : DocumentStatus
  statusNeedsReview : Bool
  linkNeedsReview : Bool
  amountNeedsReview : Bool

def assessLegacyContractImport (legacyStatus : Option String) (hasWorkItem : Bool) (amount : ℚ)
    (policy : ImportPolicy) : ImportAssessment :=
  let (status, statusNeedsReview) := mapLegacyContractStatus rt legacyStatus
  { targetStatus := if statusNeedsReview then policy.fallbackStatus else status
    statusNeedsReview := statusNeedsReview
    linkNeedsReview := ¬ hasWorkItem ∧ policy.markLinkReviewRequired
    amountNeedsReview := amount = 0 ∧ policy.markZeroAmountReviewRequired }

end Mappings

/-- A text as an optional text of a schema. -/
def optionalText : Value → Except RunError (Option String)
  | .none => .ok none
  | .str text => .ok (some text)
  | _ => .error .validationError

/-! The payloads and their schemas. -/

def within (low high : ℕ) (text : String) : Bool := low ≤ text.length ∧ text.length ≤ high

/-- A value that is a text of such a length. -/
def textWithin (low high : ℕ) : Value → Bool
  | .str text => within low high text
  | _ => false

/-- `model_validate`: the fields that are not as the schema has them, all at once. -/
def modelValidate (schemaName : String) (checks : List (String × Bool)) : Except SchemaError Unit :=
  let fields := (checks.filter fun c => ¬ c.2).map Prod.fst
  raiseIf (fields ≠ []) ⟨schemaName, fields⟩

/-- `^[a-z0-9]+(?:-[a-z0-9]+)*$`. -/
def isSlug (text : String) : Bool :=
  (text.toList.splitOn '-').all fun part => ¬ part.isEmpty ∧ part.all fun c => c.isLower ∨ c.isDigit

structure TenantPayload where
  name : String
  slug : String

def TenantPayload.validate (p : TenantPayload) : Except SchemaError Unit :=
  modelValidate "TenantCreate" [("name", within 1 255 p.name), ("slug", within 2 100 p.slug && isSlug p.slug)]

/-- A party with the emails it can be reached at. -/
structure PartyPayload where
  partyType : PartyType
  displayName : String
  status : PartyStatus
  contactMethods : List Value
  syntheticSourceId : Value

def PartyPayload.validate (p : PartyPayload) : Except SchemaError Unit :=
  modelValidate "PartyCreate" (("display_name", within 1 255 p.displayName) ::
    p.contactMethods.zipIdx.map fun c => (s!"contact_methods.{c.2}.value", textWithin 1 320 c.1))

structure CatalogItemPayload where
  name : Value
  sku : String

def CatalogItemPayload.validate (p : CatalogItemPayload) : Except SchemaError Unit :=
  modelValidate "CatalogItemCreate" [("name", textWithin 1 255 p.name), ("sku", within 0 64 p.sku)]

structure WorkItemPayload where
  title : String
  status : WorkItemStatus
  legacyOrderId : Value
  statusNeedsReview : Bool

def WorkItemPayload.validate (p : WorkItemPayload) : Except SchemaError Unit :=
  modelValidate "WorkItemCreate" [("title", within 1 255 p.title)]

structure DocumentPayload where
  title : String
  legacyStatus : Option String
  amount : ℚ
  hasWorkItem : Bool
  externalRef : String
  branchId : Option ℕ
  legacyContractNumber : String

def DocumentPayload.validate (p : DocumentPayload) : Except SchemaError Unit :=
  modelValidate "DocumentImportCreate" [("title", within 0 255 p.title), ("external_ref", within 0 128 p.externalRef)]

structure PaymentPayload where
  amount : ℚ
  status : PaymentStatus
  direction : PaymentDirection
  legacyPaymentType : Value

def PaymentPayload.validate (p : PaymentPayload) : Except SchemaError Unit :=
  modelValidate "PaymentCreate" [("amount", 0 < p.amount),
    ("legacy_payment_type", p.legacyPaymentType = .none || textWithin 0 64 p.legacyPaymentType)]

/-- `_validate_payloads`: the first payload that its schema refuses ends the loop. -/
def validatePayloads {P : Type} (validate : P → Except SchemaError Unit) (payloads : List P) :
    Except SchemaError Unit := payloads.forM validate

end CoreOps.DryRun
