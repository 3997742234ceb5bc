import Mathlib.Algebra.Group.Nat.Defs
import Mathlib.Algebra.Ring.Int.Defs
import Mathlib.Data.List.Sort
import CoreOps.Lib.Table
import CoreOps.Lib.Reservation

/-! The data of the booking module. Dates are day numbers, times of day and
instants are microseconds, and money is in hundredths, the scale of its
`Numeric(18, 2)` columns. An order owns its items, as the delete-orphan cascade
makes it; rows are otherwise tables under their primary keys. -/

namespace CoreOps.Booking

inductive BookingTerritoryStatus
  | draft
  | active
  | archived
  deriving DecidableEq, Repr

inductive BookableObjectStatus
  | active
  | maintenance
  | unlisted
  deriving DecidableEq, Repr

inductive BookingOrderStatus
  | draft
  | held
  | pendingPayment
  | paid
  | confirmed
  | cancelled
  | expired
  deriving DecidableEq, Repr

def BookingOrderStatus.value : BookingOrderStatus → String
  | .draft => "draft"
  | .held => "held"
  | .pendingPayment => "pending_payment"
  | .paid => "paid"
  | .confirmed => "confirmed"
  | .cancelled => "cancelled"
  | .expired => "expired"

inductive BookingOrderSource
  | publicWeb
  | admin
  | twogis
  | external
  deriving DecidableEq, Repr

inductive BookingItemStatus
  | active
  | cancelled
  deriving DecidableEq, Repr

structure BookingTerritory where
  tenantId : ℕ
  timezone : String
  currency : String
  defaultCheckInTime : ℤ
  defaultCheckOutTime : ℤ
  holdDurationMinutes : ℤ
  minStayNights : ℤ
  status : BookingTerritoryStatus
  deriving DecidableEq, Repr

structure BookingBookableObject where
  tenantId : ℕ
  territoryId : ℕ
  ownerId : ℕ
  code : String
  basePrice : ℤ
  checkInTime : Option ℤ
  checkOutTime : Option ℤ
  status : BookableObjectStatus
  deriving DecidableEq, Repr

structure BookingItem where
  bookableObjectId : ℕ
  checkInDate : ℤ
  checkOutDate : ℤ
  checkInAt : ℤ
  checkOutAt : ℤ
  nights : ℤ
  unitPrice : ℤ
  lineTotal : ℤ
  ownerId : ℕ
  status : BookingItemStatus
  deriving DecidableEq, Repr

structure BookingOrder where
  tenantId : ℕ
  territoryId : ℕ
  orderNumber : String
  guestPartyId : ℕ
  status : BookingOrderStatus
  holdExpiresAt : Option ℤ
  currency : String
  subtotal : ℤ
  source : BookingOrderSource
  confirmedAt : Option ℤ
  cancelledAt : Option ℤ
  items : List BookingItem
  deriving DecidableEq, Repr

/-- The rows the booking services read and write; `parties` holds each party's
tenant. -/
structure State where
  territories : Table ℕ BookingTerritory
  objects : Table ℕ BookingBookableObject
  parties : Table ℕ ℕ
  orders : Table ℕ BookingOrder

structure BookingStayRequest where
  bookableObjectId : ℕ
  checkInDate : ℤ
  checkOutDate : ℤ
  deriving DecidableEq, Repr

structure BookingHoldCartInput where
  territoryId : ℕ
  guestPartyId : ℕ
  source : BookingOrderSource
  items : List BookingStayRequest
  orderNumber : Option String
  deriving DecidableEq, Repr

structure BookingAvailabilityCartInput where
  territoryId : ℕ
  items : List BookingStayRequest

structure ResolvedStayInterval where
  bookableObjectId : ℕ
  checkInDate : ℤ
  checkOutDate : ℤ
  checkInAt : ℤ
  checkOutAt : ℤ
  nights : ℤ
  deriving DecidableEq, Repr

/-- An item is named by its order and its place in it. -/
structure AvailabilityConflict where
  bookableObjectId : ℕ
  requestedCheckInAt : ℤ
  requestedCheckOutAt : ℤ
  conflictingItemId : ℕ × ℕ
  conflictingOrderId : ℕ
  conflictingOrderStatus : String
  deriving DecidableEq, Repr

structure BookingAvailabilityResult where
  intervals : List ResolvedStayInterval
  conflicts : List AvailabilityConflict
  validationErrors : List String
  deriving DecidableEq, Repr

def BookingAvailabilityResult.empty : BookingAvailabilityResult := ⟨[], [], []⟩

def BookingAvailabilityResult.isAvailable (r : BookingAvailabilityResult) : Bool :=
  r.conflicts.isEmpty && r.validationErrors.isEmpty

inductive BookingError
  | moduleDisabled (message : String)
  | featureNotEntitled (message : String)
  | notFound (message : String)
  | timezone (message : String)
  | validation (message : String)
  | availability (message : String) (conflicts : List AvailabilityConflict)
  | statusTransition (message : String) (currentStatus targetStatus : String)
  | valueError (message : String)
  | keyError (key : ℕ)
  | integrityError
  | dataError
  deriving DecidableEq, Repr

/-- The time zone database: which names it knows, and the instant of a local day
and time of day. -/
structure TimezoneDb where
  isValidTimezone : String → Bool
  toUtc : String → ℤ → ℤ → ℤ

/-- Who calls, and what the guards over modules and the subscription answer for
that tenant when the call comes. -/
structure Caller where
  tenantId : ℕ
  assertEnabled : Except BookingError Unit
  assertFeature : Except BookingError Unit

/-- Values a `Numeric(18, 2)` column takes. -/
def fitsNumeric (cents : ℤ) : Bool := cents.natAbs < 10 ^ 18

def blockingOrderStatuses : List BookingOrderStatus := [.held, .pendingPayment, .paid, .confirmed]

def isOrderBlocking (order : BookingOrder) (now : ℤ) : Bool :=
  if order.status ∈ [BookingOrderStatus.cancelled, .expired, .draft] then false
  else if order.status = .held then
    match order.holdExpiresAt with
    | none => false
    | some t => t > now
  else order.status ∈ blockingOrderStatuses

def intervalsOverlap (leftCheckIn leftCheckOut rightCheckIn rightCheckOut : ℤ) : Bool :=
  leftCheckIn < rightCheckOut && leftCheckOut > rightCheckIn

/-- The stretch of its object an item occupies. -/
def BookingItem.slot (i : BookingItem) : Slot ℕ ℤ := ⟨i.bookableObjectId, i.checkInAt, i.checkOutAt⟩

def ResolvedStayInterval.slot (i : ResolvedStayInterval) : Slot ℕ ℤ :=
  ⟨i.bookableObjectId, i.checkInAt, i.checkOutAt⟩

/-- Two slots clash exactly when they name one object and the service's overlap
test accepts their intervals. -/
theorem clash_iff_intervalsOverlap (a b : Slot ℕ ℤ) :
    a.Clash b ↔ a.resource = b.resource ∧ intervalsOverlap a.start a.stop b.start b.stop = true := by
  simp only [Slot.Clash, intervalsOverlap, Bool.and_eq_true, decide_eq_true_eq, gt_iff_lt]

/-- An order with one of the blocking statuses, its hold run out or not. -/
def BookingOrder.live (o : BookingOrder) : Bool := o.status ∈ blockingOrderStatuses

def BookingOrder.activeItems (o : BookingOrder) : List BookingItem :=
  o.items.filter fun i => i.status = .active

theorem live_of_isOrderBlocking {o : BookingOrder} {now : ℤ} (h : isOrderBlocking o now = true) :
    o.live = true := by
  unfold isOrderBlocking at h
  split at h
  · cases h
  · split at h
    · rename_i hs
      simp [BookingOrder.live, hs, blockingOrderStatuses]
    · exact h

/-- A live order blocks unless it is held and its hold ran out, or has no end. -/
theorem isOrderBlocking_of_live {o : BookingOrder} {now : ℤ} (hl : o.live = true)
    (hh : o.status = .held → ∃ t, o.holdExpiresAt = some t ∧ now < t) : isOrderBlocking o now = true := by
  cases hs : o.status with
  | held =>
    obtain ⟨t, ht, hlt⟩ := hh hs
    simp [isOrderBlocking, hs, ht, hlt]
  | draft | cancelled | expired => simp [BookingOrder.live, hs, blockingOrderStatuses] at hl
  | pendingPayment | paid | confirmed => simp [isOrderBlocking, hs, blockingOrderStatuses]

end CoreOps.Booking
