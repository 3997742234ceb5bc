import CoreOps.Lib.Checked
import CoreOps.Booking.Model

/-! The booking services, one definition for each method. A method returns the
state it leaves, or the exception it raises. `createHold` is the one method whose
refusal does not leave the state as it was, since its lazy expiry is committed
before the hold is tried: it returns the state beside the outcome. -/

namespace CoreOps.Booking

open Checked

section Timezone

variable (tz : TimezoneDb)

def resolveEffectiveCheckTimes (territory : BookingTerritory) (obj : BookingBookableObject) : ℤ × ℤ :=
  (obj.checkInTime.getD territory.defaultCheckInTime,
    obj.checkOutTime.getD territory.defaultCheckOutTime)

def localStayToUtcInstant (localDay localClock : ℤ) (tzName : String) : Except BookingError ℤ := do
  raiseIf (¬ tz.isValidTimezone tzName) (.timezone s!"Unknown timezone: {tzName}")
  return tz.toUtc tzName localDay localClock

def buildItemInterval (territory : BookingTerritory) (objectId : ℕ) (obj : BookingBookableObject)
    (checkInDate checkOutDate : ℤ) : Except BookingError ResolvedStayInterval := do
  raiseIf (checkOutDate ≤ checkInDate) (.timezone "check_out_date must be after check_in_date")
  let times := resolveEffectiveCheckTimes territory obj
  let checkInAt ← localStayToUtcInstant tz checkInDate times.1 territory.timezone
  let checkOutAt ← localStayToUtcInstant tz checkOutDate times.2 territory.timezone
  raiseIf (checkOutAt ≤ checkInAt) (.timezone "check_out_at must be after check_in_at in UTC")
  return {
    bookableObjectId := objectId
    checkInDate := checkInDate
    checkOutDate := checkOutDate
    checkInAt := checkInAt
    checkOutAt := checkOutAt
    nights := if checkOutDate - checkInDate < 1 then 1 else checkOutDate - checkInDate }

end Timezone

section Repository

variable (s : State)

def getTerritory (tenantId territoryId : ℕ) : Option BookingTerritory :=
  (s.territories.get? territoryId).filter fun t => t.tenantId = tenantId

def getParty (tenantId partyId : ℕ) : Option ℕ :=
  (s.parties.get? partyId).filter fun t => t = tenantId

def getOrder (tenantId orderId : ℕ) : Option BookingOrder :=
  (s.orders.get? orderId).filter fun o => o.tenantId = tenantId

def listObjectsForTerritory (tenantId territoryId : ℕ) (objectIds : List ℕ) :
    Table ℕ BookingBookableObject :=
  s.objects.filter fun id o => o.tenantId = tenantId ∧ o.territoryId = territoryId ∧ id ∈ objectIds

/-- The items of every order, with the order's id, the order and the item's place. -/
def itemRows : List ((ℕ × BookingOrder) × BookingItem × ℕ) :=
  s.orders.rows.flatMap fun r => r.2.items.zipIdx.map fun i => (r, i)

def findOverlappingItems (objectId : ℕ) (checkInAt checkOutAt now : ℤ) (excludeOrderId : Option ℕ) :
    List ((ℕ × BookingOrder) × BookingItem × ℕ) :=
  (itemRows s).filter fun r =>
    r.2.1.bookableObjectId = objectId ∧ r.2.1.status = .active ∧ r.1.2.status ∈ blockingOrderStatuses ∧
      r.2.1.checkInAt < checkOutAt ∧ r.2.1.checkOutAt > checkInAt ∧ some r.1.1 ≠ excludeOrderId ∧
      isOrderBlocking r.1.2 now

/-- The HELD orders of the tenant, in one territory or in all, whose hold ran out. -/
def isStaleHeld (tenantId : ℕ) (now : ℤ) (territoryId : Option ℕ) (o : BookingOrder) : Bool :=
  o.tenantId = tenantId && o.status = .held && o.holdExpiresAt.any (· ≤ now) &&
    territoryId.all (o.territoryId = ·)

def findStaleHeldOrders (tenantId : ℕ) (now : ℤ) (territoryId : Option ℕ) : List ℕ :=
  (s.orders.rows.filter fun r => isStaleHeld tenantId now territoryId r.2).map Prod.fst

def lockBookableObjects (objectIds : List ℕ) : Except BookingError Unit :=
  raiseIf (¬ ∀ id ∈ objectIds, (s.objects.get? id).isSome)
    (.valueError "Failed to lock all bookable objects for hold")

/-- `f"{n:05d}"`. -/
def pad5 (n : ℕ) : String :=
  String.ofList (List.replicate (5 - (toString n).length) '0') ++ toString n

def nextOrderNumber (tenantId year : ℕ) : String :=
  let count := (s.orders.rows.filter fun r => r.2.tenantId = tenantId).length
  let number := pad5 (count + 1)
  s!"BO-{year}-{number}"

def territoryIsBookable (t : BookingTerritory) : Bool := t.status = .active

def objectIsBookable (o : BookingBookableObject) : Bool := o.status = .active

end Repository

section Availability

variable (tz : TimezoneDb) (s : State) (now : ℤ) (excludeOrderId : Option ℕ)

/-- One round of the loop over the cart: what the stay adds to the result. -/
def checkStay (territory : BookingTerritory) (objects : Table ℕ BookingBookableObject)
    (result : BookingAvailabilityResult) (stay : BookingStayRequest) :
    Except BookingError BookingAvailabilityResult :=
  match objects.get? stay.bookableObjectId with
  | none =>
    let id := stay.bookableObjectId
    return { result with
      validationErrors := result.validationErrors ++ [s!"Object '{id}' not found in territory"] }
  | some obj =>
    let code := obj.code
    if ¬ objectIsBookable obj then
      return { result with
        validationErrors := result.validationErrors ++ [s!"Object '{code}' is not available for booking"] }
    else do
      let interval ← buildItemInterval tz territory stay.bookableObjectId obj stay.checkInDate stay.checkOutDate
      let minStayNights := territory.minStayNights
      if interval.nights < minStayNights then
        return { result with
          validationErrors := result.validationErrors ++
            [s!"Object '{code}' requires at least {minStayNights} night(s)"] }
      else
        let overlapping := findOverlappingItems s stay.bookableObjectId interval.checkInAt
          interval.checkOutAt now excludeOrderId
        return { result with
          intervals := result.intervals ++ [interval]
          conflicts := result.conflicts ++ overlapping.map fun r => {
            bookableObjectId := stay.bookableObjectId
            requestedCheckInAt := interval.checkInAt
            requestedCheckOutAt := interval.checkOutAt
            conflictingItemId := (r.1.1, r.2.2)
            conflictingOrderId := r.1.1
            conflictingOrderStatus := r.1.2.status.value } }

def checkCart (caller : Caller) (cart : BookingAvailabilityCartInput) :
    Except BookingError BookingAvailabilityResult := do
  caller.assertEnabled
  raiseIf (cart.items = []) (.validation "Cart must contain at least one stay request")
  let territoryId := cart.territoryId
  let territory ← orRaise (getTerritory s caller.tenantId territoryId)
    (.validation s!"Territory '{territoryId}' not found")
  if ¬ territoryIsBookable territory then
    return { BookingAvailabilityResult.empty with validationErrors := ["Territory is not active"] }
  else
    let objects := listObjectsForTerritory s caller.tenantId territoryId
      (cart.items.map (·.bookableObjectId))
    cart.items.foldlM (checkStay tz s now excludeOrderId territory objects) .empty

def assertCartAvailable (caller : Caller) (cart : BookingAvailabilityCartInput) :
    Except BookingError (List ResolvedStayInterval) := do
  let result ← checkCart tz s now excludeOrderId caller cart
  raiseIf (result.validationErrors ≠ []) (.validation ("; ".intercalate result.validationErrors))
  raiseIf (result.conflicts ≠ [])
    (.availability "One or more requested stays are not available" result.conflicts)
  return result.intervals

end Availability

section Orders

def allowedTransitions : BookingOrderStatus → List BookingOrderStatus
  | .draft => [.held]
  | .held => [.pendingPayment, .cancelled, .expired]
  | .pendingPayment => [.paid, .cancelled]
  | .paid => [.confirmed]
  | .confirmed => []
  | .cancelled => []
  | .expired => []

def validateTransition (current target : BookingOrderStatus) : Except BookingError Unit :=
  let currentValue := current.value
  let targetValue := target.value
  raiseIf (target ∉ allowedTransitions current)
    (.statusTransition s!"Cannot transition booking order from '{currentValue}' to '{targetValue}'"
      currentValue targetValue)

def cancelItem (i : BookingItem) : BookingItem :=
  if i.status = .active then { i with status := .cancelled } else i

def applyTransition (target : BookingOrderStatus) (now : ℤ) (o : BookingOrder) : BookingOrder :=
  { o with
    status := target
    cancelledAt := if target = .cancelled then some now else o.cancelledAt
    items := if target = .cancelled then o.items.map cancelItem else o.items
    confirmedAt := if target = .confirmed then some now else o.confirmedAt }

def State.modifyOrder (s : State) (orderId : ℕ) (f : BookingOrder → BookingOrder) : State :=
  { s with orders := s.orders.modify orderId f }

variable (tenantId orderId : ℕ) (now : ℤ) (s : State)

def transition (target : BookingOrderStatus) : Except BookingError State := do
  let order ← orRaise (getOrder s tenantId orderId) (.notFound s!"Booking order '{orderId}' not found")
  validateTransition order.status target
  return s.modifyOrder orderId (applyTransition target now)

def clearHold (o : BookingOrder) : BookingOrder := { o with holdExpiresAt := none }

def submitForPayment : Except BookingError State := do
  let s' ← transition tenantId orderId now s .pendingPayment
  return s'.modifyOrder orderId clearHold

def markPaid : Except BookingError State := transition tenantId orderId now s .paid

def confirm : Except BookingError State := transition tenantId orderId now s .confirmed

def cancel : Except BookingError State := transition tenantId orderId now s .cancelled

def expire : Except BookingError State := do
  let s' ← transition tenantId orderId now s .expired
  return s'.modifyOrder orderId clearHold

/-- The calls of the order service. -/
inductive OrderCall
  | submitForPayment
  | markPaid
  | confirm
  | cancel
  | expire
  deriving DecidableEq, Repr

def OrderCall.run : OrderCall → Except BookingError State
  | .submitForPayment => Booking.submitForPayment tenantId orderId now s
  | .markPaid => Booking.markPaid tenantId orderId now s
  | .confirm => Booking.confirm tenantId orderId now s
  | .cancel => Booking.cancel tenantId orderId now s
  | .expire => Booking.expire tenantId orderId now s

def OrderCall.target : OrderCall → BookingOrderStatus
  | .submitForPayment => .pendingPayment
  | .markPaid => .paid
  | .confirm => .confirmed
  | .cancel => .cancelled
  | .expire => .expired

/-- The calls that reset `hold_expires_at` after the transition. -/
def OrderCall.clearsHold : OrderCall → Bool
  | .submitForPayment => true
  | .expire => true
  | _ => false

end Orders

section Holds

variable (tz : TimezoneDb) (caller : Caller) (now : ℤ)

def expireStaleHolds (territoryId : Option ℕ) (s : State) : Except BookingError (State × List ℕ) := do
  caller.assertEnabled
  let stale := findStaleHeldOrders s caller.tenantId now territoryId
  let s' ← stale.foldlM (fun s id => expire caller.tenantId id now s) s
  return (s', stale)

/-- The dictionary of the intervals by object: a later stay of an object takes the
place of an earlier one. -/
def intervalByObject (intervals : List ResolvedStayInterval) (objectId : ℕ) : Option ResolvedStayInterval :=
  intervals.reverse.find? fun i => i.bookableObjectId = objectId

def holdItem (objects : Table ℕ BookingBookableObject) (intervals : List ResolvedStayInterval)
    (stay : BookingStayRequest) : Except BookingError BookingItem := do
  let interval ← orRaise (intervalByObject intervals stay.bookableObjectId) (.keyError stay.bookableObjectId)
  let obj ← orRaise (objects.get? stay.bookableObjectId) (.keyError stay.bookableObjectId)
  return {
    bookableObjectId := stay.bookableObjectId
    checkInDate := interval.checkInDate
    checkOutDate := interval.checkOutDate
    checkInAt := interval.checkInAt
    checkOutAt := interval.checkOutAt
    nights := interval.nights
    unitPrice := obj.basePrice
    lineTotal := obj.basePrice * interval.nights
    ownerId := obj.ownerId
    status := .active }

/-- The row of the order with its items, as `_persist_hold_order` fills it. -/
def buildHoldOrder (cart : BookingHoldCartInput) (territory : BookingTerritory)
    (objects : Table ℕ BookingBookableObject) (intervals : List ResolvedStayInterval)
    (year : ℕ) (s : State) : Except BookingError BookingOrder := do
  let items ← cart.items.mapM (holdItem objects intervals)
  return {
    tenantId := caller.tenantId
    territoryId := cart.territoryId
    orderNumber := match cart.orderNumber with
      | some number => if number = "" then nextOrderNumber s caller.tenantId year else number
      | none => nextOrderNumber s caller.tenantId year
    guestPartyId := cart.guestPartyId
    status := .held
    holdExpiresAt := some (now + territory.holdDurationMinutes * 60000000)
    currency := territory.currency
    subtotal := (items.map (·.lineTotal)).sum
    source := cart.source
    confirmedAt := none
    cancelledAt := none
    items := items }

/-- The columns refuse what they cannot hold, the primary key a taken id. -/
def insertHoldOrder (orderId : ℕ) (order : BookingOrder) (s : State) : Except BookingError State := do
  raiseIf (¬ ((order.items.all fun i => fitsNumeric i.lineTotal) && fitsNumeric order.subtotal)) .dataError
  raiseIf ((s.orders.get? orderId).isSome) .integrityError
  return { s with orders := s.orders.insert orderId order }

def persistHoldOrder (cart : BookingHoldCartInput) (territory : BookingTerritory)
    (objects : Table ℕ BookingBookableObject) (intervals : List ResolvedStayInterval)
    (orderId year : ℕ) (s : State) : Except BookingError State := do
  let order ← buildHoldOrder caller now cart territory objects intervals year s
  insertHoldOrder orderId order s

/-- `create_hold` after its lazy expiry, up to its commit. -/
def placeHold (cart : BookingHoldCartInput) (orderId year : ℕ) (s : State) : Except BookingError State := do
  let territoryId := cart.territoryId
  let territory ← orRaise (getTerritory s caller.tenantId territoryId)
    (.validation s!"Territory '{territoryId}' not found")
  raiseIf (getParty s caller.tenantId cart.guestPartyId = none) (.notFound "Guest party not found")
  let objectIds := (cart.items.map (·.bookableObjectId)).dedup.insertionSort (· ≤ ·)
  let objects := listObjectsForTerritory s caller.tenantId territoryId objectIds
  raiseIf (objects.rows.length ≠ objectIds.length)
    (.validation "One or more bookable objects were not found in territory")
  lockBookableObjects s objectIds
  let intervals ← assertCartAvailable tz s now none caller ⟨territoryId, cart.items⟩
  persistHoldOrder caller now cart territory objects intervals orderId year s

def holdGuards (cart : BookingHoldCartInput) : Except BookingError Unit := do
  caller.assertEnabled
  caller.assertFeature
  raiseIf (cart.items = []) (.validation "Hold cart must contain at least one stay request")

/-- `orderId` is the generated key of the new order and `year` the calendar year
of the server. -/
def createHold (cart : BookingHoldCartInput) (orderId year : ℕ) (s : State) :
    State × Except BookingError ℕ :=
  match holdGuards caller cart with
  | .error e => (s, .error e)
  | .ok _ =>
    match expireStaleHolds caller now (some cart.territoryId) s with
    | .error e => (s, .error e)
    | .ok (s₁, _) =>
      match placeHold tz caller now cart orderId year s₁ with
      | .error e => (s₁, .error e)
      | .ok s₂ => (s₂, .ok orderId)

end Holds

end CoreOps.Booking
