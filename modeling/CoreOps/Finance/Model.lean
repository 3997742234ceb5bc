import Mathlib.Data.List.Sort
import CoreOps.Lib.Checked
import CoreOps.Lib.Decimal
import CoreOps.Lib.Table

/-! The data of the finance module. A stored money column holds hundredths and a
quantity column ten-thousandths, so what a column cannot hold is no value of the
row; amounts in a request are decimals of any precision and carry the bounds the
request schema checks. Allocations are keyed by payment and invoice, the pair
their unique constraint is on. Dates are day numbers, instants microseconds. -/

namespace CoreOps.Finance

open Checked

inductive InvoiceStatus
  | draft
  | issued
  | sent
  | partial_
  | paid
  | overdue
  | cancelled
  | void
  deriving DecidableEq, Repr

inductive PaymentStatus
  | pending
  | completed
  | failed
  | refunded
  | cancelled
  deriving DecidableEq, Repr

inductive PaymentMethod
  | bankTransfer
  | cash
  | card
  | online
  | other
  deriving DecidableEq, Repr

inductive PaymentDirection
  | incoming
  | outgoing
  | needsReview
  deriving DecidableEq, Repr

structure InvoiceLine where
  catalogItemId : Option ℕ
  description : String
  quantity : ℤ
  unitPrice : ℤ
  lineTotal : ℤ
  sortOrder : ℤ
  deriving DecidableEq, Repr

structure Invoice where
  tenantId : ℕ
  legalEntityId : Option ℕ
  taxProfileId : Option ℕ
  partyId : ℕ
  workItemId : Option ℕ
  documentId : Option ℕ
  invoiceNumber : String
  status : InvoiceStatus
  currency : String
  subtotal : ℤ
  taxAmount : ℤ
  total : ℤ
  amountPaid : ℤ
  issueDate : Option ℤ
  dueDate : Option ℤ
  issuedAt : Option ℤ
  notes : Option String
  lines : List InvoiceLine
  deriving DecidableEq, Repr

structure Payment where
  tenantId : ℕ
  partyId : Option ℕ
  paymentNumber : String
  amount : ℤ
  currency : String
  amountAllocated : ℤ
  paymentDate : ℤ
  method : PaymentMethod
  status : PaymentStatus
  direction : PaymentDirection
  referenceNumber : Option String
  notes : Option String
  deriving DecidableEq, Repr

structure PaymentAllocation where
  tenantId : ℕ
  amount : ℤ
  notes : Option String
  deriving DecidableEq, Repr

/-- The rows the finance service reads and writes. Parties, legal entities, tax
profiles and catalog items are held by their tenants. -/
structure State where
  invoices : Table ℕ Invoice
  payments : Table ℕ Payment
  allocations : Table (ℕ × ℕ) PaymentAllocation
  parties : Table ℕ ℕ
  legalEntities : Table ℕ ℕ
  taxProfiles : Table ℕ ℕ
  catalogItems : Table ℕ ℕ

structure InvoiceLineCreate where
  catalogItemId : Option ℕ
  description : String
  quantity : ℚ
  unitPrice : ℚ
  sortOrder : ℤ
  quantity_pos : 0 < quantity

structure InvoiceCreate where
  partyId : ℕ
  legalEntityId : Option ℕ
  taxProfileId : Option ℕ
  workItemId : Option ℕ
  documentId : Option ℕ
  currency : String
  dueDate : Option ℤ
  notes : Option String
  lines : List InvoiceLineCreate
  issue : Bool
  lines_ne_nil : lines ≠ []

structure InvoiceUpdate where
  status : Option InvoiceStatus
  dueDate : Option ℤ
  notes : Option String
  legalEntityId : Option ℕ
  taxProfileId : Option ℕ

/-- What a legacy payment type says once stripped and upper-cased. -/
inductive LegacyPaymentType
  | income
  | expense
  | unknown
  deriving DecidableEq, Repr

structure PaymentCreate where
  partyId : Option ℕ
  amount : ℚ
  currency : String
  paymentDate : ℤ
  method : PaymentMethod
  status : PaymentStatus
  direction : PaymentDirection
  referenceNumber : Option String
  notes : Option String
  legacyPaymentType : Option LegacyPaymentType
  amount_pos : 0 < amount

structure PaymentAllocationItem where
  invoiceId : ℕ
  amount : ℚ
  notes : Option String
  amount_pos : 0 < amount

structure PaymentAllocateRequest where
  allocations : List PaymentAllocationItem
  allocations_ne_nil : allocations ≠ []

inductive FinanceError
  | notFound (message : String)
  | conflict (message : String)
  | usageLimitExceeded (message : String)
  | invalidOperation
  | integrityError
  | dataError
  deriving DecidableEq, Repr

/-- The tenant that calls, and what the limit guard of its plan answers. -/
structure Caller where
  tenantId : ℕ
  assertWithinLimit : Except FinanceError Unit

/-- The server's clock at a call. -/
structure Clock where
  today : ℤ
  year : ℕ
  now : ℤ

/-! Arithmetic: every operation of `Decimal` rounds to the default context. -/

def add (x y : ℚ) : ℚ := Decimal.toPrecision 28 (x + y)

def sub (x y : ℚ) : ℚ := Decimal.toPrecision 28 (x - y)

def mul (x y : ℚ) : ℚ := Decimal.toPrecision 28 (x * y)

/-- `Decimal.quantize(Decimal("0.01"))`, in hundredths. -/
def quantize (x : ℚ) : Except FinanceError ℤ := do
  let cents := Decimal.roundHalfEven (x * 100)
  raiseIf (10 ^ 28 ≤ cents.natAbs) .invalidOperation
  return cents

/-- The decimal a stored amount of hundredths is read as. -/
def ofCents (cents : ℤ) : ℚ := cents / 100

/-- What rounding to the scale of a money column makes of a value. -/
def toCents (x : ℚ) : ℤ := Decimal.roundHalfAway (x * 100)

/-- A value as a `Numeric(18, 2)` column stores it. -/
def moneyColumn (x : ℚ) : Except FinanceError ℤ := do
  raiseIf (10 ^ 18 ≤ (toCents x).natAbs) .dataError
  return toCents x

/-- A value as a `Numeric(18, 4)` column stores it. -/
def quantityColumn (x : ℚ) : Except FinanceError ℤ := do
  let units := Decimal.roundHalfAway (x * 10000)
  raiseIf (10 ^ 18 ≤ units.natAbs) .dataError
  return units

theorem moneyColumn_ok {x : ℚ} {c : ℤ} (h : moneyColumn x = .ok c) : c = toCents x ∧ c.natAbs < 10 ^ 18 := by
  simp only [moneyColumn, bind_eq_ok, raiseIf_eq_ok, not_le, pure_eq_ok] at h
  obtain ⟨-, hlt, rfl⟩ := h
  exact ⟨rfl, hlt⟩

/-! Stored amounts and the context: an amount of hundredths that a column can hold
passes through the context unchanged. -/

theorem ofCents_eq (c : ℤ) : ofCents c = c * 10 ^ (-((2 : ℕ) : ℤ)) := by
  rw [ofCents, div_eq_mul_inv]
  norm_num

theorem toCents_ofCents (c : ℤ) : toCents (ofCents c) = c := by
  rw [toCents, ofCents, div_mul_cancel₀ _ (by norm_num)]
  exact Decimal.roundHalfAway_intCast c

theorem toPrecision_ofCents {c : ℤ} (h : c.natAbs < 10 ^ 26) :
    Decimal.toPrecision 28 (ofCents c) = ofCents c := by
  refine Decimal.toPrecision_eq_self (p := 28) (s := 2) (by norm_num) ?_ (ofCents_eq c)
  have hc : |c| < 10 ^ 26 := by rw [Int.abs_eq_natAbs]; exact_mod_cast h
  have hq : |(c : ℚ)| < 10 ^ 26 := by exact_mod_cast hc
  rw [ofCents, abs_div, abs_of_pos (by norm_num : (0 : ℚ) < 100), div_lt_iff₀ (by norm_num)]
  norm_num
  linarith

theorem sub_ofCents {a b : ℤ} (ha : a.natAbs < 10 ^ 18) (hb : b.natAbs < 10 ^ 18) :
    sub (ofCents a) (ofCents b) = ofCents a - ofCents b := by
  have h : ofCents a - ofCents b = ofCents (a - b) := by
    simp only [ofCents]; push_cast; ring
  rw [sub, h, toPrecision_ofCents (by omega)]

theorem add_ofCents {a b : ℤ} (h : (a + b).natAbs < 10 ^ 26) :
    add (ofCents a) (ofCents b) = ofCents (a + b) := by
  have hsum : ofCents a + ofCents b = ofCents (a + b) := by
    simp only [ofCents]; push_cast; ring
  rw [add, hsum, toPrecision_ofCents h]

theorem toCents_nonneg {x : ℚ} (hx : 0 ≤ x) : 0 ≤ toCents x :=
  Decimal.le_roundHalfAway (by linarith) (by push_cast; linarith)

theorem toCents_le {x : ℚ} {c : ℤ} (hx : 0 ≤ x) (h : x ≤ ofCents c) : toCents x ≤ c := by
  refine Decimal.roundHalfAway_le (by linarith) ?_
  rw [ofCents, le_div_iff₀ (by norm_num)] at h
  exact h

/-- A sum that stays within a stored amount stays within it once rounded to the
context and to the column. -/
theorem toCents_add_le {x y : ℚ} {c : ℤ} (hx : 0 ≤ x) (hy : 0 ≤ y) (hc : c.natAbs < 10 ^ 18)
    (h : x + y ≤ ofCents c) : toCents (add x y) ≤ c := by
  have h0 : 0 ≤ x + y := by linarith
  refine toCents_le (Decimal.toPrecision_nonneg h0) ?_
  rw [ofCents_eq] at h ⊢
  refine Decimal.toPrecision_le (p := 28) (s := 2) (by norm_num) ?_ h
  have hc' : (c : ℚ) < 10 ^ 18 := by
    have : c < 10 ^ 18 := by omega
    exact_mod_cast this
  rw [abs_of_nonneg h0]
  refine h.trans_lt ?_
  norm_num
  linarith

end CoreOps.Finance
