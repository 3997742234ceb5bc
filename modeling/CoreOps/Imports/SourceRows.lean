import CoreOps.DryRun.Model
import CoreOps.Imports.Model
import CoreOps.Lib.Decimal

/-! The rows of the production source: the dictionaries that the SQLite adapter makes of
what it selects, and what the importer reads of them by its own keys. -/

namespace CoreOps.Imports

open Checked Text
open DryRun (Value Row RunError decimal?)

/-- A value of a normalised row: one of the source, or a `Decimal` by its number. -/
inductive Field
  | value (v : Value)
  | decimal (x : ℚ)
  deriving DecidableEq, Repr

/-- The dictionary of a normalised row. -/
abbrev DomainRow := List (String × Field)

def DomainRow.get (row : DomainRow) (key : String) : Field := (row.lookup key).getD (.value .none)

inductive DomainTable
  | users
  | clients
  | services
  | orders
  | orderStages
  | orderItems
  | contracts
  | payments
  deriving DecidableEq, Repr

/-- The columns of `PRODUCTION_SELECT_SQL`. -/
def DomainTable.columns : DomainTable → List String
  | .users => ["id", "email", "name"]
  | .clients => ["id", "status", "party_type", "name", "email"]
  | .services => ["id", "code", "title", "unit_price", "program_name"]
  | .orders => ["id", "number", "client_id", "status", "total_amount"]
  | .orderStages => ["id", "order_id", "template_id", "status"]
  | .orderItems => ["id", "order_id", "service_id", "qty", "unit_price"]
  | .contracts => ["id", "number", "client_id", "order_id", "status", "amount"]
  | .payments => ["id", "order_id", "client_id", "type", "amount"]

/-! The adapter. -/

section Normalize

/-- `Decimal(text)` of an amount, 0 where there is none. -/
def coerceAmount (v : Value) : Except RunError ℚ :=
  if v = .none then return 0 else orRaise (decimal? v.text) .invalidOperation

def coerceDecimalOrNone (v : Value) : Except RunError (Option ℚ) :=
  if v = .none ∨ strip v.text = "" then return none
  else do return some (← orRaise (decimal? v.text) .invalidOperation)

def coerceId (v : Value) : String := if v = .none then "" else v.text

/-- `str(v or "").strip()`. -/
def strippedText (v : Value) : String := strip (v.orElse (.str "")).text

def textField (text : String) : Field := .value (.str text)

/-- `v or ""`. -/
def orEmpty (v : Value) : Field := .value (v.orElse (.str ""))

def decimalField (x : Option ℚ) : Field := x.elim (.value .none) .decimal

/-- An id that stays `None` where it is. -/
def optionalId (v : Value) : Field := if v = .none then .value .none else textField (coerceId v)

variable (raw : Row)

def normalizeUser : DomainRow :=
  [("id", textField (coerceId (raw.get "id"))),
    ("login", .value (((raw.get "email").orElse (.str "")).orElse ((raw.get "name").orElse (.str "")))),
    ("is_active", .value (.bool (raw.getD "is_active" (.number 1 "1")).truthy))]

def normalizeClient : DomainRow :=
  [("id", textField (coerceId (raw.get "id"))),
    ("status", orEmpty (raw.get "status")),
    ("party_type", orEmpty (raw.get "party_type")),
    ("display_name", orEmpty ((raw.get "name").orElse (raw.get "display_name"))),
    ("email", orEmpty (raw.get "email"))]

def normalizeService : Except RunError DomainRow := do
  let serviceId := coerceId (raw.get "id")
  let sourceTitle := strippedText (raw.get "title")
  let sourceCode := strippedText (raw.get "code")
  let mappedName :=
    if sourceTitle ≠ "" then sourceTitle
    else if sourceCode ≠ "" then sourceCode
    else "Service " ++ orElse (some serviceId) "unknown"
  let unitPrice ← coerceDecimalOrNone (raw.get "unit_price")
  return [("id", textField serviceId),
    ("name", textField mappedName),
    ("source_title", textField sourceTitle),
    ("source_code", textField sourceCode),
    ("unit_price", decimalField unitPrice),
    ("program_name", textField (strippedText (raw.get "program_name"))),
    ("service_name_needs_review", .value (.bool (sourceTitle = "")))]

def normalizeOrder : Except RunError DomainRow := do
  let totalAmount ← coerceDecimalOrNone (raw.get "total_amount")
  return [("id", textField (coerceId (raw.get "id"))),
    ("number", orEmpty (raw.get "number")),
    ("client_id", textField (coerceId (raw.get "client_id"))),
    ("status", orEmpty (raw.get "status")),
    ("total_amount", decimalField totalAmount)]

def normalizeOrderStage : DomainRow :=
  [("id", textField (coerceId (raw.get "id"))),
    ("order_id", textField (coerceId (raw.get "order_id"))),
    ("template_id", optionalId (raw.get "template_id")),
    ("status", orEmpty (raw.get "status"))]

/-- The product of two decimals, in the default context. -/
def derivedAmount (qty unitPrice : Option ℚ) : ℚ :=
  match qty, unitPrice with
  | some q, some p => Decimal.toPrecision 28 (q * p)
  | _, _ => 0

def normalizeOrderItem : Except RunError DomainRow := do
  let qty ← coerceDecimalOrNone (raw.get "qty")
  let unitPrice ← coerceDecimalOrNone (raw.get "unit_price")
  return [("id", textField (coerceId (raw.get "id"))),
    ("order_id", textField (coerceId (raw.get "order_id"))),
    ("service_id", textField (coerceId (raw.get "service_id"))),
    ("qty", decimalField qty),
    ("unit_price", decimalField unitPrice),
    ("amount", .decimal (derivedAmount qty unitPrice))]

def normalizeContract : Except RunError DomainRow := do
  let amount ← coerceAmount (raw.get "amount")
  return [("id", textField (coerceId (raw.get "id"))),
    ("number", orEmpty (raw.get "number")),
    ("client_id", textField (coerceId (raw.get "client_id"))),
    ("order_id", optionalId (raw.get "order_id")),
    ("status", orEmpty (raw.get "status")),
    ("amount", .decimal amount)]

def normalizePayment : Except RunError DomainRow := do
  let amount ← coerceAmount (raw.get "amount")
  return [("id", textField (coerceId (raw.get "id"))),
    ("order_id", textField (coerceId (raw.get "order_id"))),
    ("client_id", textField (coerceId (raw.get "client_id"))),
    ("type", orEmpty (raw.get "type")),
    ("amount", .decimal amount)]

/-- `_normalize_production_domain_row`. -/
def normalizeProductionDomainRow : DomainTable → Except RunError DomainRow
  | .users => return normalizeUser raw
  | .clients => return normalizeClient raw
  | .services => normalizeService raw
  | .orders => normalizeOrder raw
  | .orderStages => return normalizeOrderStage raw
  | .orderItems => normalizeOrderItem raw
  | .contracts => normalizeContract raw
  | .payments => normalizePayment raw

end Normalize

/-! The keys of the importer. -/

section Read

namespace DomainRow

variable (row : DomainRow) (key : String)

/-- `str(row.get(key) or default)` up to the default, which an empty text calls for. No key
that is read so holds a `Decimal`. -/
def text? : Option String :=
  match row.get key with
  | .value .none => none
  | .value v => some (v.orElse (.str "")).text
  | .decimal _ => none

/-- A number, or none. -/
def number? : Option ℚ :=
  match row.get key with
  | .value (.number x _) => some x
  | .value _ => none
  | .decimal x => some x

/-- A date, by its day number. The adapter writes none. -/
def date? : Option ℤ := (row.number? key).map Int.floor

end DomainRow

variable (row : DomainRow)

def ServiceSource.ofRow : ServiceSource :=
  ⟨row.text? "id", row.text? "name", row.text? "source_code", row.number? "unit_price"⟩

def ClientSource.ofRow : ClientSource := ⟨row.text? "id", row.text? "name", row.text? "email"⟩

def OrderSource.ofRow : OrderSource := ⟨row.text? "id", row.text? "title", row.number? "total_amount"⟩

def OrderItemSource.ofRow : OrderItemSource :=
  ⟨row.text? "order_id", row.number? "qty", row.number? "unit_price", row.number? "line_total"⟩

def ContractSource.ofRow : ContractSource :=
  ⟨row.text? "id", row.text? "template_code", row.text? "order_id", row.text? "number", row.number? "amount"⟩

def PaymentSource.ofRow : PaymentSource :=
  ⟨row.text? "id", row.text? "order_id", row.number? "amount", row.date? "payment_date", row.text? "payment_ref"⟩

end Read

/-- The tables of the source as `load` returns them. -/
structure DomainData where
  users : List DomainRow
  clients : List DomainRow
  services : List DomainRow
  orders : List DomainRow
  orderStages : List DomainRow
  orderItems : List DomainRow
  contracts : List DomainRow
  payments : List DomainRow

/-- `load`, of the rows that the queries select. -/
def load (raw : DryRun.Dataset) : Except RunError DomainData := do
  let users ← raw.users.mapM (normalizeProductionDomainRow · .users)
  let clients ← raw.clients.mapM (normalizeProductionDomainRow · .clients)
  let services ← raw.services.mapM (normalizeProductionDomainRow · .services)
  let orders ← raw.orders.mapM (normalizeProductionDomainRow · .orders)
  let orderStages ← raw.orderStages.mapM (normalizeProductionDomainRow · .orderStages)
  let orderItems ← raw.orderItems.mapM (normalizeProductionDomainRow · .orderItems)
  let contracts ← raw.contracts.mapM (normalizeProductionDomainRow · .contracts)
  let payments ← raw.payments.mapM (normalizeProductionDomainRow · .payments)
  return ⟨users, clients, services, orders, orderStages, orderItems, contracts, payments⟩

/-- The tables that the importer reads, by its keys. -/
def DomainData.dataset (data : DomainData) : Dataset where
  services := data.services.map .ofRow
  clients := data.clients.map .ofRow
  orders := data.orders.map .ofRow
  orderItems := data.orderItems.map .ofRow
  contracts := data.contracts.map .ofRow
  payments := data.payments.map .ofRow

end CoreOps.Imports
