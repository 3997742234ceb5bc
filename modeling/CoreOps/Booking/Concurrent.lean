import CoreOps.Lib.RowHistory
import CoreOps.Booking.Service

/-! The booking transactions as they interleave on one database under READ
COMMITTED. A status change reads the order without a lock, checks the transition
against what it read, and updates the row in a later statement; `create_hold`
reads the stale holds, expires them one by one, commits, and only then locks the
objects of its cart. Territories, objects and parties are never written here, so
the statements that read them are one step. -/

namespace CoreOps.Booking

open Checked ReadCommitted

/-- Rows that are locked. -/
inductive Row
  | order (id : ℕ)
  | object (id : ℕ)
  | territory (id : ℕ)
  | party (id : ℕ)
  deriving DecidableEq, Repr

inductive Write
  | setStatus (orderId : ℕ) (target : BookingOrderStatus) (now : ℤ)
  | clearHold (orderId : ℕ)
  | insertOrder (orderId : ℕ) (order : BookingOrder)

/-- A flush updates the columns the call changed, on the row as it is by then. -/
def applyWrite (s : State) : Write → State
  | .setStatus orderId target now => s.modifyOrder orderId (applyTransition target now)
  | .clearHold orderId => s.modifyOrder orderId clearHold
  | .insertOrder orderId order => { s with orders := s.orders.insert orderId order }

structure HoldArgs where
  caller : Caller
  cart : BookingHoldCartInput
  orderId : ℕ
  year : ℕ
  now : ℤ

/-- Where a transaction stands, with what it has read. -/
inductive Loc
  | readOrder (call : OrderCall) (tenantId orderId : ℕ) (now : ℤ)
  | flushStatus (call : OrderCall) (orderId : ℕ) (now : ℤ) (status : BookingOrderStatus)
  | flushHold (orderId : ℕ)
  | done
  | findStale (h : HoldArgs)
  | expireStale (h : HoldArgs) (stale : List ℕ)
  | selectCart (h : HoldArgs)
  | lockObjects (h : HoldArgs) (territory : BookingTerritory) (objectIds : List ℕ)
  | check (h : HoldArgs) (territory : BookingTerritory) (stays : List BookingStayRequest)
      (result : BookingAvailabilityResult)
  | buildOrder (h : HoldArgs) (territory : BookingTerritory) (intervals : List ResolvedStayInterval)
  | insertOrder (h : HoldArgs) (order : BookingOrder)

/-- The objects of the cart in its territory. -/
def HoldArgs.objects (h : HoldArgs) (s : State) : Table ℕ BookingBookableObject :=
  listObjectsForTerritory s h.caller.tenantId h.cart.territoryId (h.cart.items.map (·.bookableObjectId))

/-- `create_hold` from its territory to its object ids, before the lock. -/
def selectCart (h : HoldArgs) (s : State) : Except BookingError (BookingTerritory × List ℕ) := do
  let territoryId := h.cart.territoryId
  let territory ← orRaise (getTerritory s h.caller.tenantId territoryId)
    (.validation s!"Territory '{territoryId}' not found")
  raiseIf (getParty s h.caller.tenantId h.cart.guestPartyId = none) (.notFound "Guest party not found")
  let objectIds := (h.cart.items.map (·.bookableObjectId)).dedup.insertionSort (· ≤ ·)
  raiseIf ((listObjectsForTerritory s h.caller.tenantId territoryId objectIds).rows.length ≠ objectIds.length)
    (.validation "One or more bookable objects were not found in territory")
  return (territory, objectIds)

/-- The rows an inserted order and its items refer to. -/
def foreignKeys (order : BookingOrder) : List (Row × LockMode) :=
  (.territory order.territoryId, .keyShare) :: (.party order.guestPartyId, .keyShare) ::
    order.items.map fun i => (.object i.bookableObjectId, .keyShare)

def next (tz : TimezoneDb) : Loc → State → Action Row Write Loc
  | .readOrder call tenantId orderId now, s =>
    match getOrder s tenantId orderId with
    | none => .rollback none
    | some order =>
      match validateTransition order.status call.target with
      | .error _ => .rollback none
      | .ok _ => .exec [] [] (.flushStatus call orderId now order.status)
  | .flushStatus call orderId now _, _ =>
    .exec [(.order orderId, .noKeyUpdate)] [.setStatus orderId call.target now]
      (if call.clearsHold then .flushHold orderId else .done)
  | .flushHold orderId, _ => .exec [(.order orderId, .noKeyUpdate)] [.clearHold orderId] .done
  | .done, _ => .commit none
  | .findStale h, s =>
    match holdGuards h.caller h.cart with
    | .error _ => .rollback none
    | .ok _ =>
      match findStaleHeldOrders s h.caller.tenantId h.now (some h.cart.territoryId) with
      | [] => .exec [] [] (.selectCart h)
      | id :: ids => .exec [] [] (.expireStale h (id :: ids))
  -- the stale orders are in the session already, so each is checked as it was read: held
  | .expireStale h (id :: ids), _ =>
    .exec [(.order id, .noKeyUpdate)] [.setStatus id .expired h.now, .clearHold id] (.expireStale h ids)
  | .expireStale h [], _ => .commit (some (.selectCart h))
  | .selectCart h, s =>
    match selectCart h s with
    | .error _ => .rollback none
    | .ok (territory, objectIds) => .exec [] [] (.lockObjects h territory objectIds)
  | .lockObjects h territory objectIds, s =>
    match lockBookableObjects s objectIds with
    | .error _ => .rollback none
    | .ok _ =>
      if territoryIsBookable territory then
        .exec (objectIds.map fun id => (.object id, .update)) []
          (.check h territory h.cart.items .empty)
      else .rollback none
  | .check h territory (stay :: stays) result, s =>
    match checkStay tz s h.now none territory (h.objects s) result stay with
    | .error _ => .rollback none
    | .ok result' => .exec [] [] (.check h territory stays result')
  | .check h territory [] result, _ =>
    if result.isAvailable then .exec [] [] (.buildOrder h territory result.intervals) else .rollback none
  | .buildOrder h territory intervals, s =>
    match buildHoldOrder h.caller h.now h.cart territory (h.objects s) intervals h.year s with
    | .error _ => .rollback none
    | .ok order => .exec [] [] (.insertOrder h order)
  | .insertOrder h order, s =>
    match insertHoldOrder h.orderId order s with
    | .error _ => .rollback none
    | .ok _ =>
      .exec ((.order h.orderId, .update) :: foreignKeys order) [.insertOrder h.orderId order] .done

def bookingSystem (tz : TimezoneDb) : System State Write Row Loc := ⟨applyWrite, next tz⟩

/-- A call, each in a transaction of its own. -/
inductive Request
  | order (call : OrderCall) (tenantId orderId : ℕ) (now : ℤ)
  | createHold (h : HoldArgs)

def Request.start : Request → Loc
  | .order call tenantId orderId now => .readOrder call tenantId orderId now
  | .createHold h => .findStale h

def statusOf (s : State) (orderId : ℕ) : Option BookingOrderStatus :=
  (s.orders.get? orderId).map (·.status)

/-- The status a write gives the order. -/
def Write.statusOf (orderId : ℕ) : Write → Option BookingOrderStatus
  | .setStatus id target _ => if id = orderId then some target else none
  | .clearHold _ => none
  | .insertOrder id order => if id = orderId then some order.status else none

/-- The status an order has at the start, and each one committed to it since. -/
def committedStatuses (s : State) (log : List Write) (orderId : ℕ) : List BookingOrderStatus :=
  (statusOf s orderId).toList ++ log.filterMap (Write.statusOf orderId)

/-! The law the statuses follow: a transition starts from a status that allows it. -/

def Write.touches : Write → ℕ → Prop
  | .setStatus id _ _, i => id = i
  | .clearHold _, _ => False
  | .insertOrder id _, i => id = i

def Write.stepStatus (w : Write) (i : ℕ) (a : Option BookingOrderStatus) : Option BookingOrderStatus :=
  match w with
  | .setStatus id target _ => if id = i then a.map fun _ => target else a
  | .clearHold _ => a
  | .insertOrder id order => if id = i then some (a.getD order.status) else a

def Write.okStatus (w : Write) (i : ℕ) (a : Option BookingOrderStatus) : Prop :=
  match w with
  | .setStatus id target _ => id = i → ∃ b, a = some b ∧ target ∈ allowedTransitions b
  | .clearHold _ => True
  | .insertOrder id _ => id = i → a = none

theorem statusOf_applyWrite (s : State) (w : Write) (i : ℕ) :
    statusOf (applyWrite s w) i = w.stepStatus i (statusOf s i) := by
  cases w with
  | setStatus id target now =>
    by_cases h : id = i
    · subst h
      simp [statusOf, applyWrite, State.modifyOrder, Write.stepStatus, applyTransition,
        Function.comp_def]
    · simp [statusOf, applyWrite, State.modifyOrder, Write.stepStatus, h,
        Table.get?_modify_of_ne _ (Ne.symm h)]
  | clearHold id =>
    simp only [statusOf, applyWrite, State.modifyOrder, Write.stepStatus, Table.get?_modify]
    split <;> simp [Function.comp_def, clearHold]
  | insertOrder id order =>
    by_cases h : id = i
    · subst h
      cases hs : s.orders.get? id <;> simp [statusOf, applyWrite, Write.stepStatus, Table.get?_insert, hs]
    · simp [statusOf, applyWrite, Write.stepStatus, h, Table.get?_insert, Ne.symm h]

def statusLaw (tz : TimezoneDb) : RowLaw (bookingSystem tz) ℕ (Option BookingOrderStatus) where
  field := statusOf
  key := .order
  touches := Write.touches
  stepAt := Write.stepStatus
  ok := Write.okStatus
  field_apply := statusOf_applyWrite
  untouched := by
    intro w i a h
    cases w with
    | setStatus id target now =>
      have hne : id ≠ i := h
      exact ⟨if_neg hne, fun he => absurd he hne⟩
    | clearHold id => exact ⟨rfl, trivial⟩
    | insertOrder id order =>
      have hne : id ≠ i := h
      exact ⟨if_neg hne, fun he => absurd he hne⟩

/-- No update finds another status than the one its transaction read. -/
def NoStaleWrite : Loc → State → Prop
  | .flushStatus _ orderId _ status, s => statusOf s orderId = some status
  | .expireStale _ (id :: _), s => statusOf s id = some .held
  | _, _ => True

instance : ∀ l s, Decidable (NoStaleWrite l s)
  | .flushStatus _ orderId _ status, s => inferInstanceAs (Decidable (statusOf s orderId = some status))
  | .expireStale _ (id :: _), s => inferInstanceAs (Decidable (statusOf s id = some .held))
  | .expireStale _ [], _ | .readOrder .., _ | .flushHold .., _ | .done, _ | .findStale .., _
  | .selectCart .., _ | .lockObjects .., _ | .check .., _ | .buildOrder .., _ | .insertOrder .., _ =>
    inferInstanceAs (Decidable True)

/-- What a transaction has validated. -/
def Validated : Loc → Prop
  | .flushStatus call _ _ status => call.target ∈ allowedTransitions status
  | _ => True

theorem validateTransition_ok {current target : BookingOrderStatus} {u : Unit}
    (h : validateTransition current target = .ok u) : target ∈ allowedTransitions current := by
  simpa [validateTransition] using h

theorem insertHoldOrder_ok {orderId : ℕ} {order : BookingOrder} {s s' : State}
    (h : insertHoldOrder orderId order s = .ok s') : s.orders.get? orderId = none := by
  simp only [insertHoldOrder, bind_eq_ok, raiseIf_eq_ok, Option.not_isSome_iff_eq_none] at h
  obtain ⟨-, -, -, hn, -⟩ := h
  exact hn

section Statements

variable {tz : TimezoneDb}

/-- A statement that writes nothing respects the law. -/
theorem respects_nothing (v : State) {locks : List (Row × LockMode)} :
    (∀ i, (statusLaw tz).ValidAt i (statusOf v i) []) ∧
      ∀ i, (∃ w ∈ ([] : List Write), Write.touches w i) →
        ∃ m : LockMode, m.Exclusive ∧ (Row.order i, m) ∈ locks :=
  ⟨fun _ => trivial, fun _ ⟨_, hw, _⟩ => by cases hw⟩

/-- An update from a status that allows its target, under the row's lock. -/
theorem respects_setStatus {v : State} {id : ℕ} {target status : BookingOrderStatus} {now : ℤ}
    {rest : List Write} (hrest : rest = [] ∨ rest = [.clearHold id]) (hv : statusOf v id = some status)
    (ha : target ∈ allowedTransitions status) :
    (∀ i, (statusLaw tz).ValidAt i (statusOf v i) (.setStatus id target now :: rest)) ∧
      ∀ i, (∃ w ∈ Write.setStatus id target now :: rest, Write.touches w i) →
        ∃ m : LockMode, m.Exclusive ∧ (Row.order i, m) ∈ [(Row.order id, LockMode.noKeyUpdate)] := by
  refine ⟨fun i => ⟨?_, ?_⟩, ?_⟩
  · rintro rfl
    exact ⟨status, hv, ha⟩
  · rcases hrest with rfl | rfl <;> simp [RowLaw.ValidAt, statusLaw, Write.okStatus]
  · rintro i ⟨w, hw, hi⟩
    have hid : id = i := by
      rcases hrest with rfl | rfl <;>
        simp only [List.mem_cons, List.not_mem_nil, or_false] at hw
      · subst hw; exact hi
      · rcases hw with rfl | rfl
        · exact hi
        · cases hi
    subst hid
    exact ⟨_, .inl rfl, List.mem_singleton.2 rfl⟩

/-- An inserted order is new, and its key is locked. -/
theorem respects_insertOrder {v : State} {id : ℕ} {order : BookingOrder} {locks : List (Row × LockMode)}
    (hn : v.orders.get? id = none) :
    (∀ i, (statusLaw tz).ValidAt i (statusOf v i) [.insertOrder id order]) ∧
      ∀ i, (∃ w ∈ [Write.insertOrder id order], Write.touches w i) →
        ∃ m : LockMode, m.Exclusive ∧ (Row.order i, m) ∈ (Row.order id, LockMode.update) :: locks := by
  refine ⟨fun i => ⟨?_, trivial⟩, ?_⟩
  · rintro rfl
    simp [statusOf, hn]
  · rintro i ⟨w, hw, hi⟩
    rw [List.mem_singleton] at hw
    subst hw
    have hid : id = i := hi
    subst hid
    exact ⟨_, .inr rfl, List.mem_cons_self⟩

end Statements

theorem next_rollback {tz : TimezoneDb} {l : Loc} {v : State} {r : Option Loc}
    (h : next tz l v = .rollback r) : r = none := by
  revert h
  fun_cases next tz l v <;> intro h <;> cases h <;> rfl

theorem next_commit {tz : TimezoneDb} {l : Loc} {v : State} {r : Option Loc}
    (h : next tz l v = .commit r) : r = none ∨ ∃ a, r = some (.selectCart a) := by
  revert h
  fun_cases next tz l v <;> intro h <;> cases h
  · exact .inl rfl
  · exact .inr ⟨_, rfl⟩

/-- Every statement of every transaction writes lawfully, as long as no update
finds another status than its transaction read. -/
theorem respects_statusLaw (tz : TimezoneDb) : (statusLaw tz).Respects NoStaleWrite Validated where
  exec := by
    intro l v locks ws l' hQ hC hn
    cases l with
    | readOrder call tenantId orderId now =>
      simp only [bookingSystem, next] at hn
      split at hn
      · cases hn
      · split at hn
        · cases hn
        · rename_i order _ hval
          cases hn
          exact ⟨validateTransition_ok hval, respects_nothing v⟩
    | flushStatus call orderId now status =>
      cases hn
      refine ⟨?_, respects_setStatus (.inl rfl) hC hQ⟩
      split <;> trivial
    | flushHold orderId =>
      cases hn
      exact ⟨trivial, fun _ => ⟨trivial, trivial⟩, fun i ⟨w, hw, hi⟩ => by
        rw [List.mem_singleton] at hw
        subst hw
        cases hi⟩
    | done => cases hn
    | findStale h =>
      simp only [bookingSystem, next] at hn
      split at hn
      · cases hn
      · split at hn <;> cases hn <;> exact ⟨trivial, respects_nothing v⟩
    | expireStale h stale =>
      cases stale with
      | nil => cases hn
      | cons id ids =>
        cases hn
        exact ⟨trivial, respects_setStatus (.inr rfl) hC (by decide)⟩
    | selectCart h =>
      simp only [bookingSystem, next] at hn
      split at hn <;> cases hn
      exact ⟨trivial, respects_nothing v⟩
    | lockObjects h territory objectIds =>
      simp only [bookingSystem, next] at hn
      split at hn
      · cases hn
      · split at hn <;> cases hn
        exact ⟨trivial, respects_nothing v⟩
    | check h territory stays result =>
      cases stays with
      | nil =>
        simp only [bookingSystem, next] at hn
        split at hn <;> cases hn
        exact ⟨trivial, respects_nothing v⟩
      | cons stay stays =>
        simp only [bookingSystem, next] at hn
        split at hn <;> cases hn
        exact ⟨trivial, respects_nothing v⟩
    | buildOrder h territory intervals =>
      simp only [bookingSystem, next] at hn
      split at hn <;> cases hn
      exact ⟨trivial, respects_nothing v⟩
    | insertOrder h order =>
      simp only [bookingSystem, next] at hn
      split at hn
      · cases hn
      · rename_i s' hins
        cases hn
        exact ⟨trivial, respects_insertOrder (insertHoldOrder_ok hins)⟩
  commit := by
    intro l v l' _ hn
    obtain h | ⟨a, h⟩ := next_commit hn
    · cases h
    · cases h; trivial
  rollback := fun l v l' _ hn => nomatch next_rollback hn

theorem committed_path (tz : TimezoneDb) (i : ℕ) {log : List Write} {a : Option BookingOrderStatus}
    (h : (statusLaw tz).ValidAt i a log) :
    (a.toList ++ log.filterMap (Write.statusOf i)).IsChain (fun x y => y ∈ allowedTransitions x) ∧
      (a.toList ++ log.filterMap (Write.statusOf i)).getLast? = (statusLaw tz).runAt i a log := by
  induction log generalizing a with
  | nil => cases a <;> exact ⟨by simp, by simp [RowLaw.runAt]⟩
  | cons w log ih =>
    obtain ⟨hok, hrest⟩ := h
    obtain ⟨hchain, hlast⟩ := ih hrest
    cases w with
    | setStatus id target now =>
      by_cases hid : id = i
      · -- the transition extends the path by its target
        obtain ⟨b, rfl, hb⟩ := hok hid
        simp only [statusLaw, Write.stepStatus, if_pos hid, Option.map_some, Option.toList_some,
          List.singleton_append] at hchain hlast
        simp only [Option.toList_some, List.filterMap_cons, Write.statusOf, if_pos hid,
          List.singleton_append]
        refine ⟨List.isChain_cons_cons.2 ⟨hb, hchain⟩, ?_⟩
        rw [List.getLast?_cons_cons, hlast]
        simp only [RowLaw.runAt, List.foldl_cons, statusLaw, Write.stepStatus, if_pos hid, Option.map_some]
      · simp only [statusLaw, Write.stepStatus, if_neg hid] at hchain hlast
        simp only [List.filterMap_cons, Write.statusOf, if_neg hid]
        refine ⟨hchain, hlast.trans ?_⟩
        simp only [RowLaw.runAt, List.foldl_cons, statusLaw, Write.stepStatus, if_neg hid]
    | clearHold id => exact ⟨hchain, hlast⟩
    | insertOrder id order =>
      by_cases hid : id = i
      · obtain rfl := hok hid
        simp only [statusLaw, Write.stepStatus, if_pos hid, Option.getD_none, Option.toList_some,
          List.singleton_append] at hchain hlast
        simp only [Option.toList_none, List.filterMap_cons, Write.statusOf, if_pos hid, List.nil_append]
        refine ⟨hchain, hlast.trans ?_⟩
        simp only [RowLaw.runAt, List.foldl_cons, statusLaw, Write.stepStatus, if_pos hid, Option.getD_none]
      · simp only [statusLaw, Write.stepStatus, if_neg hid] at hchain hlast
        simp only [List.filterMap_cons, Write.statusOf, if_neg hid]
        refine ⟨hchain, hlast.trans ?_⟩
        simp only [RowLaw.runAt, List.foldl_cons, statusLaw, Write.stepStatus, if_neg hid]

/-- Nothing follows a status without successors on a path. -/
theorem last_of_terminal {statuses : List BookingOrderStatus}
    (h : statuses.IsChain fun x y => y ∈ allowedTransitions x) {i j : ℕ} {a : BookingOrderStatus}
    (hi : statuses[i]? = some a) (ha : allowedTransitions a = []) (hij : i < j) : statuses[j]? = none := by
  rw [List.getElem?_eq_none_iff]
  by_contra hj
  obtain ⟨hlt, rfl⟩ := List.getElem?_eq_some_iff.1 hi
  have hstep := List.isChain_iff_getElem.1 h i (by omega)
  rw [ha] at hstep
  cases hstep

/-- Booking order history, when no update finds another status than the one its
transaction read: whatever the interleaving of the transactions, the statuses
committed to an order are a path of allowed transitions that ends in its present
status, and no status follows EXPIRED or CANCELLED. -/
theorem committed_statuses_path (tz : TimezoneDb) (s : State) (requests : List Request)
    (evs : List Event) (w : World State Write Row Loc)
    (h : Run (Restrict ((bookingSystem tz).When NoStaleWrite) (bookingSystem tz).Step)
      ⟨s, (requests.map Request.start).map .fresh, []⟩ evs w) (orderId : ℕ) :
    (committedStatuses s w.log orderId).IsChain (fun x y => y ∈ allowedTransitions x) ∧
      (committedStatuses s w.log orderId).getLast? = statusOf w.db orderId ∧
      ∀ (i j : ℕ) (a : BookingOrderStatus), (committedStatuses s w.log orderId)[i]? = some a →
        a = .expired ∨ a = .cancelled → i < j →
        ∀ b ∈ (committedStatuses s w.log orderId)[j]?, b ∉ blockingOrderStatuses := by
  have hstart : ∀ l ∈ requests.map Request.start, Validated l := by
    intro l hl
    obtain ⟨r, -, rfl⟩ := List.mem_map.1 hl
    cases r <;> trivial
  obtain ⟨hvalid, hdb⟩ := (respects_statusLaw tz).run hstart h orderId
  obtain ⟨hchain, hlast⟩ := committed_path tz orderId hvalid
  refine ⟨hchain, hlast.trans hdb.symm, fun i j a hi ha hij b hb => ?_⟩
  have hnone : (committedStatuses s w.log orderId)[j]? = none :=
    last_of_terminal hchain hi (by rcases ha with rfl | rfl <;> rfl) hij
  rw [hnone] at hb
  cases hb

section Examples

/-- Order 7 holds cabin 1, its hold running out at instant 100. -/
def heldOrder : BookingOrder where
  tenantId := 1
  territoryId := 1
  orderNumber := "BO-1"
  guestPartyId := 1
  status := .held
  holdExpiresAt := some 100
  currency := "KZT"
  subtotal := 2000000
  source := .publicWeb
  confirmedAt := none
  cancelledAt := none
  items := [⟨1, 10, 12, 914400000000, 1080000000000, 2, 1000000, 2000000, 1, .active⟩]

def oneHeld : State := ⟨∅, ∅, ∅, Table.insert ∅ 7 heldOrder⟩

def zeroDb : TimezoneDb := ⟨fun _ => true, fun _ day clock => day * 86400000000 + clock⟩

def submitAndExpire : World State Write Row Loc :=
  ⟨oneHeld, ([Request.order .submitForPayment 1 7 90, .order .expire 1 7 100].map Request.start).map
    .fresh, []⟩

/-- Both calls read the order while it is held; the expiry commits, then the
payment request writes over it. -/
theorem expired_order_revived :
    ∃ evs w, Run (bookingSystem zeroDb).Step submitAndExpire evs w ∧
      committedStatuses oneHeld w.log 7 = [.held, .expired, .pendingPayment] ∧
      ¬ (committedStatuses oneHeld w.log 7).IsChain (fun x y => y ∈ allowedTransitions x) := by
  let evs : List Event :=
    [.turn 0, .turn 1, .turn 1, .turn 1, .turn 1, .turn 0, .turn 0, .turn 0]
  have hrun : (execute? (fun _ _ => True) (bookingSystem zeroDb).step? submitAndExpire evs).map
      (fun w => committedStatuses oneHeld w.log 7) = some [.held, .expired, .pendingPayment] := by
    decide
  obtain ⟨w, hw, hlog⟩ := Option.map_eq_some_iff.1 hrun
  refine ⟨evs, w, (Run.of_execute? hw).of_restrict, hlog, ?_⟩
  rw [hlog]
  decide

/-- The theorem at the two calls made one after the other: the expiry is refused. -/
theorem committed_statuses_path_serial :
    ∃ evs w, committedStatuses oneHeld w.log 7 = [.held, .pendingPayment] ∧
      Run (Restrict ((bookingSystem zeroDb).When NoStaleWrite) (bookingSystem zeroDb).Step)
        submitAndExpire evs w ∧
      (committedStatuses oneHeld w.log 7).IsChain (fun x y => y ∈ allowedTransitions x) := by
  let evs : List Event := [.turn 0, .turn 0, .turn 0, .turn 0, .turn 1]
  have hrun : (execute? ((bookingSystem zeroDb).When NoStaleWrite) (bookingSystem zeroDb).step?
      submitAndExpire evs).map (fun w => committedStatuses oneHeld w.log 7) =
      some [.held, .pendingPayment] := by
    decide
  obtain ⟨w, hw, hlog⟩ := Option.map_eq_some_iff.1 hrun
  exact ⟨evs, w, hlog, Run.of_execute? hw,
    (committed_statuses_path zeroDb oneHeld _ evs w (Run.of_execute? hw) 7).1⟩

end Examples

end CoreOps.Booking
