import CoreOps.Lib.UnitOfWork
import CoreOps.Booking.LazyExpiry

/-! `create_hold` statement by statement in its database session: the lazy expiry with its
own commit, the reads before the transaction, and the transaction, which adds the order
before its items and can fail after any of them. Run from a session with nothing pending it
leaves the session with nothing pending, at the state `createHold` gives. -/

namespace CoreOps.Booking

open Checked Effects UnitOfWork

namespace InSession

variable (tz : TimezoneDb) (caller : Caller) (now : ℤ)

def expireStaleHolds (territoryId : Option ℕ) : EStateM BookingError (UnitOfWork State) (List ℕ) := do
  lift caller.assertEnabled
  let stale ← query fun s => .ok (findStaleHeldOrders s caller.tenantId now territoryId)
  stale.foldlM (fun _ id => write (expire caller.tenantId id now)) ()
  if stale = [] then
    return stale
  else
    commit
    return stale

/-- The order as the first flush inserts it, with no items and no subtotal yet. -/
def newOrder (cart : BookingHoldCartInput) (territory : BookingTerritory) (year : ℕ) (s : State) : BookingOrder where
  tenantId := caller.tenantId
  territoryId := cart.territoryId
  orderNumber := match cart.orderNumber with
    | some number => if number = "" then nextOrderNumber s caller.tenantId year else number
    | none => nextOrderNumber s caller.tenantId year
  guestPartyId := cart.guestPartyId
  status := .held
  holdExpiresAt := some (now + territory.holdDurationMinutes * 60000000)
  currency := territory.currency
  subtotal := 0
  source := cart.source
  confirmedAt := none
  cancelledAt := none
  items := []

def insertOrder (orderId : ℕ) (order : BookingOrder) (s : State) : Except BookingError State := do
  raiseIf ((s.orders.get? orderId).isSome) .integrityError
  return { s with orders := s.orders.insert orderId order }

def addItem (item : BookingItem) (o : BookingOrder) : BookingOrder := { o with items := o.items ++ [item] }

/-- The last flush writes the pending items and the subtotal. -/
def flushItems (orderId : ℕ) (subtotal : ℤ) (s : State) : Except BookingError State := do
  let items := ((s.orders.get? orderId).map (·.items)).getD []
  raiseIf (¬ ((items.all fun i => fitsNumeric i.lineTotal) && fitsNumeric subtotal)) .dataError
  return s.modifyOrder orderId fun o => { o with subtotal := subtotal }

def persistHoldOrder (cart : BookingHoldCartInput) (territory : BookingTerritory)
    (objects : Table ℕ BookingBookableObject) (intervals : List ResolvedStayInterval)
    (orderId year : ℕ) : EStateM BookingError (UnitOfWork State) Unit := do
  write fun s => insertOrder orderId (newOrder caller now cart territory year s) s
  let subtotal ← cart.items.foldlM (fun subtotal stay => do
    let item ← lift (holdItem objects intervals stay)
    write fun s => .ok (s.modifyOrder orderId (addItem item))
    return subtotal + item.lineTotal) 0
  write (flushItems orderId subtotal)

/-- The body of the `try` up to its commit. -/
def holdBody (cart : BookingHoldCartInput) (territory : BookingTerritory) (objectIds : List ℕ)
    (objects : Table ℕ BookingBookableObject) (orderId year : ℕ) : EStateM BookingError (UnitOfWork State) ℕ := do
  query fun s => lockBookableObjects s objectIds
  let intervals ← query fun s => assertCartAvailable tz s now none caller ⟨cart.territoryId, cart.items⟩
  persistHoldOrder caller now cart territory objects intervals orderId year
  return orderId

/-- `createHold` after its lazy expiry. -/
def placeHold (cart : BookingHoldCartInput) (orderId year : ℕ) : EStateM BookingError (UnitOfWork State) ℕ := do
  let territoryId := cart.territoryId
  let territory ← query fun s => orRaise (getTerritory s caller.tenantId territoryId)
    (.validation s!"Territory '{territoryId}' not found")
  query fun s => raiseIf (getParty s caller.tenantId cart.guestPartyId = none) (.notFound "Guest party not found")
  let objectIds := (cart.items.map (·.bookableObjectId)).dedup.insertionSort (· ≤ ·)
  let objects ← query fun s => .ok (listObjectsForTerritory s caller.tenantId territoryId objectIds)
  lift (raiseIf (objects.rows.length ≠ objectIds.length)
    (.validation "One or more bookable objects were not found in territory"))
  rollingBack do
    let id ← holdBody tz caller now cart territory objectIds objects orderId year
    commit
    return id

def createHold (cart : BookingHoldCartInput) (orderId year : ℕ) : EStateM BookingError (UnitOfWork State) ℕ := do
  lift (holdGuards caller cart)
  let _ ← expireStaleHolds caller now (some cart.territoryId)
  placeHold tz caller now cart orderId year

end InSession

/-! The order grows item by item to the row `buildHoldOrder` fills. -/

section Growth

variable {s : State} {orderId : ℕ}

theorem modifyOrder_insert (hnone : s.orders.get? orderId = none) (o : BookingOrder) (f : BookingOrder → BookingOrder) :
    ({ s with orders := s.orders.insert orderId o } : State).modifyOrder orderId f =
      { s with orders := s.orders.insert orderId (f o) } := by
  simp only [State.modifyOrder, Table.modify_insert_new _ hnone]

/-- What one round of the loop does to the view. -/
def itemRound (objects : Table ℕ BookingBookableObject) (intervals : List ResolvedStayInterval) (orderId : ℕ)
    (subtotal : ℤ) (stay : BookingStayRequest) (s : State) : Except BookingError (ℤ × State) :=
  (fun item => (subtotal + item.lineTotal, s.modifyOrder orderId (InSession.addItem item))) <$>
    holdItem objects intervals stay

/-- The rounds together add the item of every stay, and their lines to the subtotal. -/
theorem itemRounds_eq_ok {objects : Table ℕ BookingBookableObject} {intervals : List ResolvedStayInterval}
    (hnone : s.orders.get? orderId = none) {stays : List BookingStayRequest} {subtotal subtotal' : ℤ}
    {o : BookingOrder} {s' : State} :
    stays.foldlM (fun r stay => itemRound objects intervals orderId r.1 stay r.2)
        (subtotal, { s with orders := s.orders.insert orderId o }) = .ok (subtotal', s') ↔
      ∃ items, stays.mapM (holdItem objects intervals) = .ok items ∧
        subtotal' = subtotal + (items.map (·.lineTotal)).sum ∧
        s' = { s with orders := s.orders.insert orderId { o with items := o.items ++ items } } := by
  induction stays generalizing subtotal o with
  | nil =>
    simp only [List.foldlM_nil, List.mapM_nil, pure_eq_ok, Prod.mk.injEq]
    constructor
    · rintro ⟨rfl, rfl⟩
      exact ⟨[], rfl, by simp⟩
    · rintro ⟨items, rfl, rfl, rfl⟩
      simp
  | cons stay stays ih =>
    simp only [List.foldlM_cons, List.mapM_cons, bind_eq_ok, pure_eq_ok, itemRound]
    constructor
    · rintro ⟨⟨t, s₁⟩, hround, hrest⟩
      obtain ⟨item, hitem, heq⟩ := map_eq_ok.1 hround
      obtain ⟨rfl, rfl⟩ := Prod.mk.inj heq
      rw [modifyOrder_insert hnone] at hrest
      obtain ⟨items, hitems, rfl, rfl⟩ := ih.1 hrest
      refine ⟨item :: items, ⟨item, hitem, items, hitems, rfl⟩, ?_, ?_⟩
      · rw [List.map_cons, List.sum_cons, add_assoc]
      · simp only [InSession.addItem, List.append_assoc, List.singleton_append]
    · rintro ⟨_, ⟨item, hitem, items, hitems, rfl⟩, rfl, rfl⟩
      refine ⟨_, map_eq_ok.2 ⟨item, hitem, rfl⟩, ?_⟩
      rw [modifyOrder_insert hnone]
      refine ih.2 ⟨items, hitems, ?_, ?_⟩
      · rw [List.map_cons, List.sum_cons, add_assoc]
      · simp only [InSession.addItem, List.append_assoc, List.singleton_append]

theorem flushItems_eq_ok (hnone : s.orders.get? orderId = none) {subtotal : ℤ} {o : BookingOrder} {s' : State} :
    InSession.flushItems orderId subtotal { s with orders := s.orders.insert orderId o } = .ok s' ↔
      ((o.items.all fun i => fitsNumeric i.lineTotal) && fitsNumeric subtotal) = true ∧
        s' = { s with orders := s.orders.insert orderId { o with subtotal := subtotal } } := by
  have hget : (s.orders.insert orderId o).get? orderId = some o := by
    rw [Table.get?_insert_new _ _ _ hnone, if_pos rfl]
  simp only [InSession.flushItems, bind_eq_ok, raiseIf_eq_ok, not_not, pure_eq_ok, hget, Option.map_some,
    Option.getD_some, modifyOrder_insert hnone]
  constructor
  · rintro ⟨-, hfits, heq⟩
    exact ⟨hfits, heq.symm⟩
  · rintro ⟨hfits, heq⟩
    exact ⟨⟨⟩, hfits, heq.symm⟩

end Growth

/-! The statements of the transaction do what the service does on one state. -/

section Refinement

variable (tz : TimezoneDb) (caller : Caller) (now : ℤ)

theorem does_itemRounds (objects : Table ℕ BookingBookableObject) (intervals : List ResolvedStayInterval)
    (orderId : ℕ) (stays : List BookingStayRequest) (subtotal : ℤ) :
    Does (stays.foldlM (fun subtotal stay => do
        let item ← lift (holdItem objects intervals stay)
        write fun s => .ok (s.modifyOrder orderId (InSession.addItem item))
        return subtotal + item.lineTotal) subtotal)
      fun s => stays.foldlM (fun r stay => itemRound objects intervals orderId r.1 stay r.2) (subtotal, s) := by
  refine Does.foldlM (fun subtotal stay => ?_) stays subtotal
  refine ((Does.lift (holdItem objects intervals stay)).bind fun item =>
    (Does.write fun s : State => .ok (s.modifyOrder orderId (InSession.addItem item))).bind fun _ =>
      Does.pure (subtotal + item.lineTotal)).congr fun s r => ?_
  simp only [itemRound, bind_eq_ok, map_eq_ok]
  constructor
  · rintro ⟨_, ⟨item, hitem, rfl⟩, _, ⟨_, heq, rfl⟩, hr⟩
    cases heq
    exact ⟨item, hitem, Except.ok.inj hr⟩
  · rintro ⟨item, hitem, rfl⟩
    exact ⟨_, ⟨item, hitem, rfl⟩, _, ⟨_, rfl, rfl⟩, rfl⟩

theorem does_persistHoldOrder (cart : BookingHoldCartInput) (territory : BookingTerritory)
    (objects : Table ℕ BookingBookableObject) (intervals : List ResolvedStayInterval) (orderId year : ℕ) :
    Does (InSession.persistHoldOrder caller now cart territory objects intervals orderId year) fun s =>
      ((), ·) <$> persistHoldOrder caller now cart territory objects intervals orderId year s := by
  refine ((Does.write fun s => InSession.insertOrder orderId (InSession.newOrder caller now cart territory year s) s).bind
    fun _ => (does_itemRounds objects intervals orderId cart.items 0).bind fun subtotal =>
      Does.write (InSession.flushItems orderId subtotal)).congr fun s r => ?_
  simp only [bind_eq_ok, map_eq_ok, InSession.insertOrder, raiseIf_eq_ok, pure_eq_ok, persistHoldOrder, buildHoldOrder,
    insertHoldOrder, Option.not_isSome_iff_eq_none, not_not]
  constructor
  · rintro ⟨_, ⟨_, ⟨-, hnone, rfl⟩, rfl⟩, ⟨subtotal, s₁⟩, hrounds, s₂, hflush, rfl⟩
    obtain ⟨items, hitems, hsub, rfl⟩ := (itemRounds_eq_ok hnone).1 hrounds
    rw [zero_add] at hsub
    obtain rfl : subtotal = _ := hsub
    obtain ⟨hfits, rfl⟩ := (flushItems_eq_ok hnone).1 hflush
    exact ⟨_, ⟨_, ⟨items, hitems, rfl⟩, ⟨⟩, hfits, ⟨⟩, hnone, rfl⟩, rfl⟩
  · rintro ⟨_, ⟨_, ⟨items, hitems, rfl⟩, -, hfits, -, hnone, rfl⟩, rfl⟩
    refine ⟨_, ⟨_, ⟨⟨⟩, hnone, rfl⟩, rfl⟩, (_, _), (itemRounds_eq_ok hnone).2 ⟨items, hitems, rfl, rfl⟩, _, ?_, rfl⟩
    refine (flushItems_eq_ok hnone).2 ⟨?_, ?_⟩
    · rw [zero_add]
      exact hfits
    · rw [zero_add]
      rfl

/-- The body of the `try`, from the lock to the last flush. -/
theorem does_holdBody (cart : BookingHoldCartInput) (territory : BookingTerritory) (objectIds : List ℕ)
    (objects : Table ℕ BookingBookableObject) (orderId year : ℕ) :
    Does (InSession.holdBody tz caller now cart territory objectIds objects orderId year) fun s =>
      (orderId, ·) <$> (do
        lockBookableObjects s objectIds
        let intervals ← assertCartAvailable tz s now none caller ⟨cart.territoryId, cart.items⟩
        persistHoldOrder caller now cart territory objects intervals orderId year s) := by
  refine ((Does.query fun s => lockBookableObjects s objectIds).bind fun _ =>
    (Does.query fun s => assertCartAvailable tz s now none caller ⟨cart.territoryId, cart.items⟩).bind fun intervals =>
      (does_persistHoldOrder caller now cart territory objects intervals orderId year).bind fun _ =>
        Does.pure orderId).congr fun s r => ?_
  simp only [bind_eq_ok, map_eq_ok]
  constructor
  · rintro ⟨_, ⟨_, hlock, rfl⟩, _, ⟨intervals, hcart, rfl⟩, _, ⟨s', hpersist, rfl⟩, hr⟩
    exact ⟨s', ⟨_, hlock, intervals, hcart, hpersist⟩, Except.ok.inj hr⟩
  · rintro ⟨s', ⟨_, hlock, intervals, hcart, hpersist⟩, rfl⟩
    exact ⟨_, ⟨_, hlock, rfl⟩, _, ⟨intervals, hcart, rfl⟩, _, ⟨s', hpersist, rfl⟩, rfl⟩

/-- A session that ends with nothing pending: at the state and with the answer of the
service on one state, or with an exception at the state it began with. -/
def Settles (r : Except BookingError ℕ × UnitOfWork State) (s : State) (id : ℕ) (t : Except BookingError State) : Prop :=
  (∀ s', t = .ok s' → r = (.ok id, fresh s')) ∧ ((∀ s', t ≠ .ok s') → ∃ e, r = (.error e, fresh s))

theorem settles_error {s : State} {id : ℕ} {e e' : BookingError} :
    Settles (.error e, fresh s) s id (.error e') := by
  refine ⟨fun s' h => ?_, fun _ => ⟨e, rfl⟩⟩
  cases h

theorem placeHold_settles (cart : BookingHoldCartInput) (orderId year : ℕ) (s : State) :
    Settles (outcome (InSession.placeHold tz caller now cart orderId year) (fresh s)) s orderId
      (placeHold tz caller now cart orderId year s) := by
  unfold InSession.placeHold placeHold
  simp only [outcome_bind, outcome_query]
  cases getTerritory s caller.tenantId cart.territoryId with
  | none => exact settles_error
  | some territory =>
    simp only [orRaise, andThen_ok, outcome_bind, outcome_query]
    by_cases hparty : getParty s caller.tenantId cart.guestPartyId = none
    · simp only [raiseIf, if_pos hparty, andThen_error]
      exact settles_error
    · simp only [raiseIf, if_neg hparty, andThen_ok, outcome_bind, outcome_query, outcome_lift]
      generalize hids : (cart.items.map (·.bookableObjectId)).dedup.insertionSort (· ≤ ·) = objectIds
      by_cases hfound : (listObjectsForTerritory s caller.tenantId cart.territoryId objectIds).rows.length ≠ objectIds.length
      · simp only [if_pos hfound, andThen_error]
        exact settles_error
      · simp only [if_neg hfound, andThen_ok]
        obtain ⟨hok, herror⟩ := (does_holdBody tz caller now cart territory objectIds
          (listObjectsForTerritory s caller.tenantId cart.territoryId objectIds) orderId year).transaction s
        refine ⟨fun s' hs' => hok orderId s' (map_eq_ok.2 ⟨s', hs', rfl⟩), fun hs => herror fun r hr => ?_⟩
        obtain ⟨s', hs', -⟩ := map_eq_ok.1 hr
        exact hs s' hs'

theorem does_expireAll (tenantId : ℕ) (ids : List ℕ) :
    Does (ids.foldlM (fun _ id => write (expire tenantId id now)) ()) fun s =>
      ((), ·) <$> ids.foldlM (fun s id => expire tenantId id now s) s := by
  refine (Does.foldlM (fun _ id => Does.write (expire tenantId id now)) ids ()).congr fun s r => ?_
  induction ids generalizing s with
  | nil => rfl
  | cons id ids ih =>
    simp only [List.foldlM_cons, bind_eq_ok, map_eq_ok]
    constructor
    · rintro ⟨_, ⟨s₁, h₁, rfl⟩, hrest⟩
      obtain ⟨s', hs', rfl⟩ := map_eq_ok.1 ((ih s₁).1 hrest)
      exact ⟨s', ⟨s₁, h₁, hs'⟩, rfl⟩
    · rintro ⟨s', ⟨s₁, h₁, hs'⟩, rfl⟩
      exact ⟨_, ⟨s₁, h₁, rfl⟩, (ih s₁).2 (map_eq_ok.2 ⟨s', hs', rfl⟩)⟩

/-- The lazy expiry in its session: it commits what it writes. -/
theorem outcome_expireStaleHolds (territoryId : Option ℕ) (s : State) :
    outcome (InSession.expireStaleHolds caller now territoryId) (fresh s) =
      match expireStaleHolds caller now territoryId s with
      | .ok (s', ids) => (.ok ids, fresh s')
      | .error e => (.error e, fresh s) := by
  cases he : expireStaleHolds caller now territoryId s with
  | error e =>
    rw [expireStaleHolds_eq] at he
    unfold InSession.expireStaleHolds
    simp only [outcome_bind, outcome_lift]
    cases ha : caller.assertEnabled with
    | error e' =>
      rw [ha] at he
      obtain rfl := Except.error.inj he
      rfl
    | ok _ =>
      rw [ha] at he
      cases he
  | ok r =>
    obtain ⟨s', ids⟩ := r
    simp only [expireStaleHolds, bind_eq_ok, pure_eq_ok, Prod.mk.injEq] at he
    obtain ⟨_, ha, s₁, hall, rfl, rfl⟩ := he
    unfold InSession.expireStaleHolds
    have hloop := ((does_expireAll now caller.tenantId (findStaleHeldOrders s caller.tenantId now territoryId)).answers
      (fresh s) () s₁).2 (map_eq_ok.2 ⟨s₁, hall, rfl⟩)
    simp only [outcome_bind, outcome_lift, ha, andThen_ok, outcome_query, hloop]
    split
    · rename_i hnil
      -- nothing was stale, so there is nothing to commit
      rw [hnil, List.foldlM_nil, pure_eq_ok] at hall
      rw [outcome_pure, ← hall]
    · simp only [outcome_bind, outcome_commit, andThen_ok, outcome_pure]

/-- In its session `create_hold` does what `createHold` does: from a session with nothing
pending it ends with nothing pending, at that state, and answers or raises as it does. -/
theorem createHold_refines (cart : BookingHoldCartInput) (orderId year : ℕ) (s : State) :
    (outcome (InSession.createHold tz caller now cart orderId year) (fresh s)).2 =
        fresh (createHold tz caller now cart orderId year s).1 ∧
      ∀ id, (outcome (InSession.createHold tz caller now cart orderId year) (fresh s)).1 = .ok id ↔
        (createHold tz caller now cart orderId year s).2 = .ok id := by
  unfold InSession.createHold createHold
  simp only [outcome_bind, outcome_lift]
  cases holdGuards caller cart with
  | error e => exact ⟨rfl, fun id => Iff.rfl⟩
  | ok _ =>
    simp only [andThen_ok, outcome_bind, outcome_expireStaleHolds]
    cases expireStaleHolds caller now (some cart.territoryId) s with
    | error e => exact ⟨rfl, fun id => Iff.rfl⟩
    | ok r =>
      obtain ⟨s₁, ids⟩ := r
      simp only [andThen_ok]
      obtain ⟨hok, herror⟩ := placeHold_settles tz caller now cart orderId year s₁
      cases hp : placeHold tz caller now cart orderId year s₁ with
      | ok s₂ =>
        rw [hok s₂ hp]
        exact ⟨rfl, fun id => Iff.rfl⟩
      | error e =>
        obtain ⟨e', he'⟩ := herror fun s' hs' => by rw [hp] at hs'; cases hs'
        rw [he']
        refine ⟨rfl, fun id => ⟨fun heq => ?_, fun heq => ?_⟩⟩
        · cases heq
        · cases heq

end Refinement

/-- A hold that is refused leaves the state from before it or from after its lazy expiry. -/
theorem createHold_state_of_error {tz : TimezoneDb} {caller : Caller} {now : ℤ} {cart : BookingHoldCartInput}
    {orderId year : ℕ} {s : State} (h : ∀ id, (createHold tz caller now cart orderId year s).2 ≠ .ok id) :
    (createHold tz caller now cart orderId year s).1 = s ∨
      (createHold tz caller now cart orderId year s).1 = s.expireStale caller.tenantId now (some cart.territoryId) := by
  cases hg : holdGuards caller cart with
  | error e => exact .inl (by simp only [createHold, hg])
  | ok _ =>
    cases he : expireStaleHolds caller now (some cart.territoryId) s with
    | error e => exact .inl (by simp only [createHold, hg, he])
    | ok r =>
      obtain ⟨s₁, ids⟩ := r
      cases hp : placeHold tz caller now cart orderId year s₁ with
      | error e =>
        refine .inr ?_
        rw [← expireStaleHolds_ok he]
        simp only [createHold, hg, he, hp]
      | ok s₂ =>
        simp only [createHold, hg, he, hp] at h
        exact absurd rfl (h orderId)

/-- A failed hold changes nothing else: when `create_hold` raises, whatever the cart and at
whichever statement, its session has nothing pending, and the committed orders, each with
its items, are those from before, but for holds that had run out and are now EXPIRED. The
other tables are untouched. -/
theorem failed_hold_changes_nothing_else (tz : TimezoneDb) (caller : Caller) (now : ℤ) (cart : BookingHoldCartInput)
    (orderId year : ℕ) (s : State) (e : BookingError) (u : UnitOfWork State)
    (h : outcome (InSession.createHold tz caller now cart orderId year) (fresh s) = (.error e, u)) :
    u.view = u.saved ∧
      (∀ id, u.saved.orders.get? id = s.orders.get? id ∨
        ∃ o, s.orders.get? id = some o ∧ o.status = .held ∧ (∃ t, o.holdExpiresAt = some t ∧ t ≤ now) ∧
          u.saved.orders.get? id = some { o with status := .expired, holdExpiresAt := none }) ∧
      u.saved.territories = s.territories ∧ u.saved.objects = s.objects ∧ u.saved.parties = s.parties := by
  obtain ⟨hstate, hanswer⟩ := createHold_refines tz caller now cart orderId year s
  rw [h] at hstate hanswer
  obtain rfl : u = _ := hstate
  refine ⟨rfl, ?_⟩
  have hcases := createHold_state_of_error fun id hid => by
    have hok : (.error e : Except BookingError ℕ) = .ok id := (hanswer id).2 hid
    cases hok
  rcases hcases with heq | heq
  · rw [heq]
    exact ⟨fun id => .inl rfl, rfl, rfl, rfl⟩
  · rw [heq]
    refine ⟨fun id => ?_, rfl, rfl, rfl⟩
    rw [get?_expireStale]
    cases ho : s.orders.get? id with
    | none => exact .inl rfl
    | some o =>
      rw [Option.map_some]
      cases hs : isStaleHeld caller.tenantId now (some cart.territoryId) o with
      | false => exact .inl rfl
      | true =>
        obtain ⟨-, hheld, hexp, -⟩ := isStaleHeld_iff.1 hs
        exact .inr ⟨o, rfl, hheld, hexp, rfl⟩

section Examples

/-- Cabin 2 on free nights and cabin 1 on nights that are held. -/
def demoTaken : BookingHoldCartInput := ⟨1, 1, .publicWeb, [⟨2, 30, 32⟩, ⟨1, 11, 13⟩], some "BO-2"⟩

/-- The theorem at a cart whose second cabin is taken: nothing of order 8 is stored. -/
theorem failed_hold_changes_nothing_else_taken :
    ∃ e u, outcome (InSession.createHold utcDb demoCaller 60000000 demoTaken 8 2026) (fresh demoHeld) = (.error e, u) ∧
      u.view = u.saved ∧ u.saved.orders.get? 8 = none := by
  have hfails : (outcome (InSession.createHold utcDb demoCaller 60000000 demoTaken 8 2026) (fresh demoHeld)).1.isOk =
      false := by decide
  cases ho : outcome (InSession.createHold utcDb demoCaller 60000000 demoTaken 8 2026) (fresh demoHeld) with
  | mk r u =>
    rw [ho] at hfails
    cases r with
    | ok id => cases hfails
    | error e =>
      obtain ⟨hclean, hrows, -⟩ := failed_hold_changes_nothing_else utcDb demoCaller 60000000 demoTaken 8 2026 demoHeld e u ho
      have hnone : demoHeld.orders.get? 8 = none := by decide
      refine ⟨e, u, rfl, hclean, ?_⟩
      rcases hrows 8 with heq | ⟨o, ho', -⟩
      · rw [heq, hnone]
      · rw [hnone] at ho'
        cases ho'

end Examples

end CoreOps.Booking
