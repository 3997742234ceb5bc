import CoreOps.Lib.Runs
import CoreOps.Booking.Service

/-! No object is booked twice at once. The invariant is about the live orders,
those with a blocking status, whether or not a hold has run out: no two of their
active items clash. It survives every status change, since these only take items
away, and it survives a new hold, since the lazy expiry that precedes the
availability check leaves no live order the check would overlook. The check does
not compare the stays of one cart with each other, so the invariant needs carts
that name each object once. -/

namespace CoreOps.Booking

open Checked

inductive Op
  | createHold (caller : Caller) (cart : BookingHoldCartInput) (orderId year : ℕ)
  | order (call : OrderCall) (tenantId orderId : ℕ)
  | expireStaleHolds (caller : Caller) (territoryId : Option ℕ)

/-- The state a call leaves in the database. -/
def perform (tz : TimezoneDb) (now : ℤ) (s : State) : Op → State
  | .createHold caller cart orderId year => (createHold tz caller now cart orderId year s).1
  | .order call tenantId orderId => settle (fun s _ => call.run tenantId orderId now s) s ()
  | .expireStaleHolds caller territoryId =>
    settle (fun s _ => Prod.fst <$> expireStaleHolds caller now territoryId s) s ()

/-- The database and the latest clock value a call was made at. -/
structure Clocked where
  state : State
  clock : ℤ

/-- A call at a clock value no earlier than the last one. -/
def Step (tz : TimezoneDb) (c : Clocked) (e : ℤ × Op) (c' : Clocked) : Prop :=
  c.clock ≤ e.1 ∧ c' = ⟨perform tz e.1 c.state e.2, e.1⟩

/-- The active items of the orders that block at `now`. -/
def blockingItems (s : State) (now : ℤ) : List BookingItem :=
  s.orders.rows.flatMap fun r => if isOrderBlocking r.2 now then r.2.activeItems else []

/-- No two of the items name one object and overlap. -/
def NoOverlap (items : List BookingItem) : Prop :=
  items.Pairwise fun a b => a.bookableObjectId = b.bookableObjectId →
    intervalsOverlap a.checkInAt a.checkOutAt b.checkInAt b.checkOutAt = false

theorem noOverlap_iff_free (items : List BookingItem) :
    NoOverlap items ↔ Slot.Free (items.map BookingItem.slot) := by
  simp only [NoOverlap, Slot.Free, List.pairwise_map]
  refine List.pairwise_iff_getElem.trans (Iff.trans ?_ List.pairwise_iff_getElem.symm)
  simp only [clash_iff_intervalsOverlap, BookingItem.slot, not_and, Bool.not_eq_true]

/-- What an order puts on the calendar while it is live. -/
def liveActive (o : BookingOrder) : List BookingItem := if o.live then o.activeItems else []

def liveItems (s : State) : List BookingItem := s.orders.rows.flatMap fun r => liveActive r.2

theorem blockingItems_sublist (s : State) (now : ℤ) : (blockingItems s now).Sublist (liveItems s) := by
  refine List.Sublist.flatMap_right _ fun r _ => ?_
  split
  · rename_i hb
    rw [liveActive, if_pos (live_of_isOrderBlocking hb)]
  · exact List.nil_sublist _

structure Inv (s : State) : Prop where
  free : Slot.Free ((liveItems s).map BookingItem.slot)
  held : ∀ id o, s.orders.get? id = some o → o.status = .held → o.holdExpiresAt.isSome
  placed : ∀ id o, s.orders.get? id = some o → ∀ i ∈ o.items, ∃ obj,
    s.objects.get? i.bookableObjectId = some obj ∧ obj.tenantId = o.tenantId ∧
      obj.territoryId = o.territoryId

/-- What a status change may do to an order: move nothing, and take items off the
calendar but put none on it. -/
structure Shrinks (o o' : BookingOrder) : Prop where
  tenantId : o'.tenantId = o.tenantId
  territoryId : o'.territoryId = o.territoryId
  items : ∀ i' ∈ o'.items, ∃ i ∈ o.items, i'.bookableObjectId = i.bookableObjectId
  live : (liveActive o').Sublist (liveActive o)
  held : o'.status ≠ .held

theorem Inv.modifyOrder {s : State} (h : Inv s) {id : ℕ} {f : BookingOrder → BookingOrder}
    (hf : ∀ o, s.orders.get? id = some o → Shrinks o (f o)) : Inv (s.modifyOrder id f) := by
  -- a row after the update is a row before it, or the updated one
  have hrow : ∀ j o', (s.modifyOrder id f).orders.get? j = some o' →
      s.orders.get? j = some o' ∨ ∃ o, s.orders.get? j = some o ∧ o' = f o ∧ Shrinks o o' := by
    intro j o' ho'
    rw [State.modifyOrder, Table.get?_modify] at ho'
    split at ho'
    · rename_i hj
      subst hj
      obtain ⟨o, ho, rfl⟩ := Option.map_eq_some_iff.1 ho'
      exact .inr ⟨o, ho, rfl, hf o ho⟩
    · exact .inl ho'
  refine ⟨h.free.sublist (List.Sublist.map _ ?_), fun j o' ho' hs => ?_, fun j o' ho' i' hi' => ?_⟩
  · exact s.orders.flatMap_modify_sublist id f liveActive fun o ho => (hf o ho).live
  · rcases hrow j o' ho' with ho | ⟨o, -, -, hsh⟩
    · exact h.held j o' ho hs
    · exact absurd hs hsh.held
  · rcases hrow j o' ho' with ho | ⟨o, ho, -, hsh⟩
    · exact h.placed j o' ho i' hi'
    · obtain ⟨i, hi, he⟩ := hsh.items i' hi'
      obtain ⟨obj, hobj, h1, h2⟩ := h.placed j o ho i hi
      exact ⟨obj, by rw [he]; exact hobj, h1.trans hsh.tenantId.symm, h2.trans hsh.territoryId.symm⟩

theorem transition_ok {tenantId orderId : ℕ} {now : ℤ} {s s' : State} {target : BookingOrderStatus}
    (h : transition tenantId orderId now s target = .ok s') :
    ∃ o, s.orders.get? orderId = some o ∧ o.tenantId = tenantId ∧ target ∈ allowedTransitions o.status ∧
      s' = s.modifyOrder orderId (applyTransition target now) := by
  simp only [transition, bind_eq_ok, orRaise_eq_ok, getOrder, Option.filter_eq_some_iff,
    decide_eq_true_eq, validateTransition, raiseIf_eq_ok, not_not, pure_eq_ok] at h
  obtain ⟨o, ⟨ho, ht⟩, -, ha, rfl⟩ := h
  exact ⟨o, ho, ht, ha, rfl⟩

/-- The targets of the order service take no item from off the calendar onto it. -/
theorem shrinks_applyTransition {o : BookingOrder} {target : BookingOrderStatus} {now : ℤ}
    (ht : target ∈ allowedTransitions o.status) (hh : target ≠ .held) :
    Shrinks o (applyTransition target now o) := by
  refine ⟨rfl, rfl, fun i' hi' => ?_, ?_, hh⟩
  · simp only [applyTransition] at hi'
    split at hi'
    · obtain ⟨i, hi, rfl⟩ := List.mem_map.1 hi'
      exact ⟨i, hi, by unfold cancelItem; split <;> rfl⟩
    · exact ⟨i', hi', rfl⟩
  · cases hs : o.status <;> rw [hs] at ht <;>
      simp only [allowedTransitions, List.mem_cons, List.not_mem_nil, or_false] at ht
    case draft => exact absurd ht hh
    all_goals
      rcases ht with rfl | rfl | rfl <;>
        simp [liveActive, BookingOrder.live, blockingOrderStatuses, applyTransition, hs,
          BookingOrder.activeItems]

theorem shrinks_clearHold {o : BookingOrder} (h : o.status ≠ .held) : Shrinks o (clearHold o) :=
  ⟨rfl, rfl, fun i hi => ⟨i, hi, rfl⟩, List.Sublist.refl _, h⟩

theorem Inv.transition {tenantId orderId : ℕ} {now : ℤ} {s s' : State} {target : BookingOrderStatus}
    (h : Inv s) (hh : target ≠ .held) (ht : transition tenantId orderId now s target = .ok s') :
    Inv s' ∧ ∀ o, s'.orders.get? orderId = some o → o.status = target := by
  obtain ⟨o, ho, -, ha, rfl⟩ := transition_ok ht
  refine ⟨h.modifyOrder fun o₁ ho₁ => ?_, fun o' ho' => ?_⟩
  · obtain rfl := Option.some.inj (ho.symm.trans ho₁)
    exact shrinks_applyTransition ha hh
  · rw [State.modifyOrder, Table.get?_modify_self] at ho'
    obtain ⟨o, -, rfl⟩ := Option.map_eq_some_iff.1 ho'
    rfl

theorem Inv.expire {tenantId orderId : ℕ} {now : ℤ} {s s' : State} (h : Inv s)
    (he : expire tenantId orderId now s = .ok s') : Inv s' := by
  simp only [Booking.expire, bind_eq_ok, pure_eq_ok] at he
  obtain ⟨s₁, h₁, rfl⟩ := he
  obtain ⟨hi, hs⟩ := h.transition (by decide) h₁
  exact hi.modifyOrder fun o ho => shrinks_clearHold (by rw [hs o ho]; decide)

theorem Inv.orderCall {call : OrderCall} {tenantId orderId : ℕ} {now : ℤ} {s s' : State}
    (h : Inv s) (hc : call.run tenantId orderId now s = .ok s') : Inv s' := by
  cases call with
  | submitForPayment =>
    simp only [OrderCall.run, submitForPayment, bind_eq_ok, pure_eq_ok] at hc
    obtain ⟨s₁, h₁, rfl⟩ := hc
    obtain ⟨hi, hs⟩ := h.transition (by decide) h₁
    exact hi.modifyOrder fun o ho => shrinks_clearHold (by rw [hs o ho]; decide)
  | markPaid => exact (h.transition (by decide) hc).1
  | confirm => exact (h.transition (by decide) hc).1
  | cancel => exact (h.transition (by decide) hc).1
  | expire => exact h.expire hc

/-! What the lazy expiry leaves: no stale hold in its scope. -/

def NoStale (s : State) (tenantId : ℕ) (now : ℤ) (territoryId : Option ℕ) : Prop :=
  ∀ id o, s.orders.get? id = some o → isStaleHeld tenantId now territoryId o = false

theorem expire_objects {tenantId orderId : ℕ} {now : ℤ} {s s' : State}
    (h : expire tenantId orderId now s = .ok s') :
    s'.objects = s.objects ∧ s'.territories = s.territories := by
  simp only [expire, bind_eq_ok, pure_eq_ok] at h
  obtain ⟨s₁, h₁, rfl⟩ := h
  obtain ⟨o, -, -, -, rfl⟩ := transition_ok h₁
  exact ⟨rfl, rfl⟩

theorem expire_get? {tenantId orderId : ℕ} {now : ℤ} {s s' : State}
    (h : expire tenantId orderId now s = .ok s') (j : ℕ) :
    s'.orders.get? j = if j = orderId then
      (s.orders.get? j).map (clearHold ∘ applyTransition .expired now) else s.orders.get? j := by
  simp only [expire, bind_eq_ok, pure_eq_ok] at h
  obtain ⟨s₁, h₁, rfl⟩ := h
  obtain ⟨o, -, -, -, rfl⟩ := transition_ok h₁
  simp only [State.modifyOrder, Table.get?_modify]
  split <;> simp

theorem expire_all_stale {tenantId : ℕ} {now : ℤ} {territoryId : Option ℕ} {ids : List ℕ} {s s' : State}
    (hids : ∀ j o, s.orders.get? j = some o → isStaleHeld tenantId now territoryId o = true → j ∈ ids)
    (h : ids.foldlM (fun s id => expire tenantId id now s) s = .ok s') :
    NoStale s' tenantId now territoryId := by
  induction ids generalizing s with
  | nil =>
    rw [List.foldlM_nil, pure_eq_ok] at h
    subst h
    intro j o ho
    exact Bool.eq_false_iff.2 fun hs => List.not_mem_nil (hids j o ho hs)
  | cons id ids ih =>
    rw [List.foldlM_cons, bind_eq_ok] at h
    obtain ⟨s₁, h₁, h₂⟩ := h
    refine ih (fun j o ho hs => ?_) h₂
    rw [expire_get? h₁] at ho
    split at ho
    · -- the order just expired is no longer held
      obtain ⟨o₀, -, rfl⟩ := Option.map_eq_some_iff.1 ho
      simp [isStaleHeld, clearHold, applyTransition] at hs
    · rename_i hne
      exact (List.mem_cons.1 (hids j o ho hs)).resolve_left hne

theorem Inv.expireStaleHolds {caller : Caller} {now : ℤ} {territoryId : Option ℕ} {s s' : State}
    {ids : List ℕ} (h : Inv s) (he : expireStaleHolds caller now territoryId s = .ok (s', ids)) :
    Inv s' ∧ NoStale s' caller.tenantId now territoryId ∧ s'.objects = s.objects := by
  simp only [Booking.expireStaleHolds, bind_eq_ok, pure_eq_ok, Prod.mk.injEq] at he
  obtain ⟨-, -, s₁, h₁, rfl, -⟩ := he
  refine ⟨?_, expire_all_stale (fun j o ho hs => ?_) h₁, ?_⟩
  · exact foldlM_invariant Inv (fun b id b' _ hb hs => hb.expire hs) h h₁
  · exact List.mem_map.2 ⟨(j, o), List.mem_filter.2 ⟨Table.mem_rows.2 ho, hs⟩, rfl⟩
  · exact foldlM_invariant (fun s' => s'.objects = s.objects)
      (fun b a b' _ hb hs => (expire_objects hs).1.trans hb) rfl h₁

/-! What the availability check establishes about a cart it accepts. -/

theorem buildItemInterval_ok {tz : TimezoneDb} {territory : BookingTerritory} {id : ℕ}
    {obj : BookingBookableObject} {ci co : ℤ} {i : ResolvedStayInterval}
    (h : buildItemInterval tz territory id obj ci co = .ok i) :
    i.bookableObjectId = id ∧ i.checkInAt < i.checkOutAt := by
  simp only [buildItemInterval, bind_eq_ok, raiseIf_eq_ok, not_le, pure_eq_ok] at h
  obtain ⟨-, -, a, -, b, -, -, hab, rfl⟩ := h
  exact ⟨rfl, hab⟩

/-- The interval is one of an object in the table, and the check found nothing
that overlaps it. -/
def Fits (s : State) (now : ℤ) (objects : Table ℕ BookingBookableObject) (i : ResolvedStayInterval) : Prop :=
  (objects.get? i.bookableObjectId).isSome ∧ i.checkInAt < i.checkOutAt ∧
    findOverlappingItems s i.bookableObjectId i.checkInAt i.checkOutAt now none = []

section Check

variable {tz : TimezoneDb} {s : State} {now : ℤ} {territory : BookingTerritory}
  {objects : Table ℕ BookingBookableObject}

/-- Errors and conflicts are only ever added, so a round of a clean check was
clean before, and added an interval that fits. -/
theorem checkStay_clean {stay : BookingStayRequest} {r r' : BookingAvailabilityResult}
    (h : checkStay tz s now none territory objects r stay = .ok r')
    (he : r'.validationErrors = []) (hc : r'.conflicts = []) :
    r.validationErrors = [] ∧ r.conflicts = [] ∧
      ∃ i, r'.intervals = r.intervals ++ [i] ∧ Fits s now objects i := by
  unfold checkStay at h
  split at h
  · rw [pure_eq_ok] at h
    subst h
    simp at he
  · rename_i obj hobj
    split at h
    · rw [pure_eq_ok] at h
      subst h
      simp at he
    · rw [bind_eq_ok] at h
      obtain ⟨i, hi, h⟩ := h
      obtain ⟨hid, hlt⟩ := buildItemInterval_ok hi
      dsimp only at h
      split at h
      · rw [pure_eq_ok] at h
        subst h
        simp at he
      · rw [pure_eq_ok] at h
        subst h
        simp only [List.append_eq_nil_iff, List.map_eq_nil_iff] at hc
        refine ⟨he, hc.1, i, rfl, ?_, hlt, ?_⟩
        · rw [hid, hobj]; rfl
        · rw [hid]; exact hc.2

theorem checkStays_clean {stays : List BookingStayRequest} {r r' : BookingAvailabilityResult}
    (h : stays.foldlM (checkStay tz s now none territory objects) r = .ok r')
    (he : r'.validationErrors = []) (hc : r'.conflicts = []) :
    r.validationErrors = [] ∧ r.conflicts = [] ∧
      ∀ i ∈ r'.intervals, i ∈ r.intervals ∨ Fits s now objects i := by
  induction stays generalizing r with
  | nil =>
    rw [List.foldlM_nil, pure_eq_ok] at h
    subst h
    exact ⟨he, hc, fun i hi => .inl hi⟩
  | cons stay stays ih =>
    rw [List.foldlM_cons, bind_eq_ok] at h
    obtain ⟨r₁, h₁, h₂⟩ := h
    obtain ⟨he₁, hc₁, hi₁⟩ := ih h₂
    obtain ⟨he₀, hc₀, i, hi, hfit⟩ := checkStay_clean h₁ he₁ hc₁
    refine ⟨he₀, hc₀, fun j hj => ?_⟩
    rcases hi₁ j hj with hj | hj
    · rw [hi, List.mem_append, List.mem_singleton] at hj
      rcases hj with hj | rfl
      · exact .inl hj
      · exact .inr hfit
    · exact .inr hj

end Check

theorem assertCartAvailable_ok {tz : TimezoneDb} {s : State} {now : ℤ} {caller : Caller}
    {cart : BookingAvailabilityCartInput} {intervals : List ResolvedStayInterval}
    (h : assertCartAvailable tz s now none caller cart = .ok intervals) :
    ∀ i ∈ intervals, Fits s now (listObjectsForTerritory s caller.tenantId cart.territoryId
      (cart.items.map (·.bookableObjectId))) i := by
  simp only [assertCartAvailable, bind_eq_ok, raiseIf_eq_ok, not_not, pure_eq_ok] at h
  obtain ⟨r, hr, -, he, -, hc, rfl⟩ := h
  simp only [checkCart, bind_eq_ok, raiseIf_eq_ok, orRaise_eq_ok] at hr
  obtain ⟨-, -, -, -, territory, -, hr⟩ := hr
  split at hr
  · rw [pure_eq_ok] at hr
    subst hr
    cases he
  · intro i hi
    rcases (checkStays_clean hr he hc).2.2 i hi with hi | hi
    · cases hi
    · exact hi

/-- The stretch of an interval that fits is free on the whole calendar: the only
live orders the check passes over are stale holds, and none is left in the scope
of an object the caller books. -/
theorem Fits.free {s : State} {now : ℤ} {tenantId territoryId : ℕ} {ids : List ℕ}
    {i : ResolvedStayInterval} (h : Inv s) (hns : NoStale s tenantId now (some territoryId))
    (hf : Fits s now (listObjectsForTerritory s tenantId territoryId ids) i) :
    ∀ a ∈ liveItems s, ¬ a.slot.Clash i.slot := by
  rintro a ha ⟨hobj, h1, h2⟩
  simp only [liveItems, List.mem_flatMap, liveActive, List.mem_ite_nil_right] at ha
  obtain ⟨⟨id, o⟩, hrow, hlive, ha⟩ := ha
  simp only [BookingOrder.activeItems, List.mem_filter, decide_eq_true_eq] at ha
  obtain ⟨hmem, hact⟩ := ha
  obtain ⟨hsome, -, hnone⟩ := hf
  have hget := Table.mem_rows.1 hrow
  -- the order is of the caller's tenant and territory, as its object is
  obtain ⟨obj, hgobj, ht, hterr⟩ := h.placed id o hget a hmem
  have hobj' : a.bookableObjectId = i.bookableObjectId := hobj
  rw [listObjectsForTerritory, Table.get?_filter, ← hobj', hgobj] at hsome
  obtain ⟨w, hw⟩ := Option.isSome_iff_exists.1 hsome
  obtain ⟨hwo, hscope⟩ := Option.filter_eq_some_iff.1 hw
  obtain rfl := Option.some.inj hwo
  rw [decide_eq_true_eq] at hscope
  -- so it is no stale hold, and it blocks
  have hblock : isOrderBlocking o now = true := by
    refine isOrderBlocking_of_live hlive fun hheld => ?_
    obtain ⟨t, hexp⟩ := Option.isSome_iff_exists.1 (h.held id o hget hheld)
    refine ⟨t, hexp, ?_⟩
    have hstale := hns id o hget
    simpa [isStaleHeld, hheld, hexp, ← ht, ← hterr, hscope.1, hscope.2.1] using hstale
  obtain ⟨n, hn⟩ := List.mem_iff_getElem?.1 hmem
  have hin : ((id, o), a, n) ∈ findOverlappingItems s i.bookableObjectId i.checkInAt i.checkOutAt now none := by
    refine List.mem_filter.2 ⟨List.mem_flatMap.2 ⟨_, hrow, List.mem_map.2 ⟨(a, n), ?_, rfl⟩⟩, ?_⟩
    · exact List.mem_zipIdx_iff_getElem?.2 hn
    · simp only [decide_eq_true_eq]
      refine ⟨hobj', hact, of_decide_eq_true hlive, h1, h2, ?_, hblock⟩
      simp
  rw [hnone] at hin
  cases hin

/-! What a hold adds: one order, each item on the interval of a stay. -/

theorem persistHoldOrder_ok {caller : Caller} {now : ℤ} {cart : BookingHoldCartInput}
    {territory : BookingTerritory} {objects : Table ℕ BookingBookableObject}
    {intervals : List ResolvedStayInterval} {orderId year : ℕ} {s s' : State}
    (h : persistHoldOrder caller now cart territory objects intervals orderId year s = .ok s') :
    ∃ order : BookingOrder, s.orders.get? orderId = none ∧
      s' = { s with orders := s.orders.insert orderId order } ∧
      order.tenantId = caller.tenantId ∧ order.territoryId = cart.territoryId ∧
      order.status = .held ∧
      order.holdExpiresAt = some (now + territory.holdDurationMinutes * 60000000) ∧
      List.Forall₂ (fun stay item => holdItem objects intervals stay = .ok item) cart.items order.items := by
  simp only [persistHoldOrder, buildHoldOrder, insertHoldOrder, bind_eq_ok, raiseIf_eq_ok, pure_eq_ok,
    Option.not_isSome_iff_eq_none] at h
  obtain ⟨-, ⟨items, hitems, rfl⟩, -, -, -, hnone, rfl⟩ := h
  exact ⟨_, hnone, rfl, rfl, rfl, rfl, rfl, mapM_eq_ok hitems⟩

theorem holdItem_ok {objects : Table ℕ BookingBookableObject} {intervals : List ResolvedStayInterval}
    {stay : BookingStayRequest} {item : BookingItem} (h : holdItem objects intervals stay = .ok item) :
    item.bookableObjectId = stay.bookableObjectId ∧ item.status = .active ∧
      (objects.get? stay.bookableObjectId).isSome ∧
      ∃ i ∈ intervals, item.slot = i.slot ∧ i.bookableObjectId = stay.bookableObjectId := by
  simp only [holdItem, bind_eq_ok, orRaise_eq_ok, pure_eq_ok] at h
  obtain ⟨i, hi, obj, hobj, rfl⟩ := h
  unfold intervalByObject at hi
  have hid : i.bookableObjectId = stay.bookableObjectId := by simpa using List.find?_some hi
  refine ⟨rfl, rfl, by rw [hobj]; rfl, i, List.mem_reverse.1 (List.mem_of_find?_eq_some hi), ?_, hid⟩
  simp only [BookingItem.slot, ResolvedStayInterval.slot, hid]

theorem placeHold_ok {tz : TimezoneDb} {caller : Caller} {now : ℤ} {cart : BookingHoldCartInput}
    {orderId year : ℕ} {s s' : State} (h : placeHold tz caller now cart orderId year s = .ok s') :
    ∃ territory intervals ids,
      persistHoldOrder caller now cart territory
        (listObjectsForTerritory s caller.tenantId cart.territoryId ids) intervals orderId year s = .ok s' ∧
      ∃ ids', ∀ i ∈ intervals, Fits s now (listObjectsForTerritory s caller.tenantId cart.territoryId ids') i := by
  simp only [placeHold, bind_eq_ok, orRaise_eq_ok, raiseIf_eq_ok] at h
  obtain ⟨territory, -, -, -, -, -, -, -, intervals, hi, hp⟩ := h
  exact ⟨territory, intervals, _, hp, _, assertCartAvailable_ok hi⟩

/-- The objects of a territory's listing are of that tenant and territory. -/
theorem get?_listObjectsForTerritory {s : State} {tenantId territoryId id : ℕ} {ids : List ℕ}
    (h : ((listObjectsForTerritory s tenantId territoryId ids).get? id).isSome) :
    ∃ obj, s.objects.get? id = some obj ∧ obj.tenantId = tenantId ∧ obj.territoryId = territoryId := by
  obtain ⟨obj, hobj⟩ := Option.isSome_iff_exists.1 h
  rw [listObjectsForTerritory, Table.get?_filter, Option.filter_eq_some_iff, decide_eq_true_eq] at hobj
  exact ⟨obj, hobj.1, hobj.2.1, hobj.2.2.1⟩

theorem Inv.placeHold {tz : TimezoneDb} {caller : Caller} {now : ℤ} {cart : BookingHoldCartInput}
    {orderId year : ℕ} {s s' : State} (h : Inv s)
    (hns : NoStale s caller.tenantId now (some cart.territoryId))
    (hcart : (cart.items.map (·.bookableObjectId)).Nodup)
    (hp : placeHold tz caller now cart orderId year s = .ok s') : Inv s' := by
  obtain ⟨territory, intervals, ids, hp, ids', hfit⟩ := placeHold_ok hp
  obtain ⟨order, hnone, rfl, htenant, hterr, hheld, hexp, hitems⟩ := persistHoldOrder_ok hp
  -- the new items name the cart's objects, each once
  have hids : order.items.map (·.bookableObjectId) = cart.items.map (·.bookableObjectId) :=
    map_eq_map_of_forall₂ hitems fun stay item hok => (holdItem_ok hok).1
  have hnew : Slot.Free (order.activeItems.map BookingItem.slot) := by
    have hnd : (order.items.map (·.bookableObjectId)).Nodup := hids ▸ hcart
    have hfree : Slot.Free (order.items.map BookingItem.slot) :=
      Slot.free_of_nodup (by rw [List.map_map]; exact hnd)
    exact hfree.sublist (List.Sublist.map _ List.filter_sublist)
  have hlive : liveActive order = order.activeItems := by
    rw [liveActive, if_pos (by simp [BookingOrder.live, hheld, blockingOrderStatuses])]
  refine ⟨?_, fun id o ho hs => ?_, fun id o ho i hi => ?_⟩
  · have hrows : liveItems { s with orders := s.orders.insert orderId order } =
        liveItems s ++ order.activeItems := by
      simp only [liveItems, Table.rows_insert_new _ _ hnone, List.flatMap_append, List.flatMap_cons,
        List.flatMap_nil, List.append_nil, hlive]
    rw [hrows, List.map_append]
    refine h.free.append hnew fun x hx y hy => ?_
    obtain ⟨a, ha, rfl⟩ := List.mem_map.1 hx
    obtain ⟨b, hb, rfl⟩ := List.mem_map.1 hy
    obtain ⟨stay, -, hok⟩ := exists_of_mem_forall₂ hitems (List.mem_filter.1 hb).1
    obtain ⟨-, -, -, i, hi, hslot, -⟩ := holdItem_ok hok
    rw [hslot]
    exact (hfit i hi).free h hns a ha
  · rw [Table.get?_insert_new _ _ _ hnone] at ho
    split at ho
    · obtain rfl := Option.some.inj ho
      rw [hexp]; rfl
    · exact h.held id o ho hs
  · rw [Table.get?_insert_new _ _ _ hnone] at ho
    split at ho
    · obtain rfl := Option.some.inj ho
      obtain ⟨stay, -, hok⟩ := exists_of_mem_forall₂ hitems hi
      obtain ⟨hid, -, hsome, -⟩ := holdItem_ok hok
      obtain ⟨obj, hobj, ht, hr⟩ := get?_listObjectsForTerritory hsome
      exact ⟨obj, by rw [hid]; exact hobj, ht.trans htenant.symm, hr.trans hterr.symm⟩
    · exact h.placed id o ho i hi

/-- The condition on carts is exact: a hold on a cart that names an object twice
puts both stays on the interval of the last one. -/
theorem nodup_of_free_placeHold {tz : TimezoneDb} {caller : Caller} {now : ℤ} {cart : BookingHoldCartInput}
    {orderId year : ℕ} {s s' : State} (hp : placeHold tz caller now cart orderId year s = .ok s')
    (hfree : Slot.Free ((liveItems s').map BookingItem.slot)) :
    (cart.items.map (·.bookableObjectId)).Nodup := by
  obtain ⟨territory, intervals, ids, hp, ids', hfit⟩ := placeHold_ok hp
  obtain ⟨order, hnone, rfl, -, -, hheld, -, hitems⟩ := persistHoldOrder_ok hp
  have hids : order.items.map (·.bookableObjectId) = cart.items.map (·.bookableObjectId) :=
    map_eq_map_of_forall₂ hitems fun stay item hok => (holdItem_ok hok).1
  have hactive : order.activeItems = order.items := by
    refine List.filter_eq_self.2 fun a ha => ?_
    obtain ⟨stay, -, hok⟩ := exists_of_mem_forall₂ hitems ha
    exact decide_eq_true (holdItem_ok hok).2.1
  have hlive : liveActive order = order.items := by
    rw [liveActive, if_pos (by simp [BookingOrder.live, hheld, blockingOrderStatuses]), hactive]
  have hsub : (order.items.map BookingItem.slot).Sublist
      ((liveItems { s with orders := s.orders.insert orderId order }).map BookingItem.slot) := by
    refine List.Sublist.map _ ?_
    simp only [liveItems, Table.rows_insert_new _ _ hnone, List.flatMap_append, List.flatMap_cons,
      List.flatMap_nil, List.append_nil, hlive]
    exact List.sublist_append_right _ _
  rw [← hids, List.Nodup, List.pairwise_map]
  refine (List.pairwise_map.1 (hfree.sublist hsub)).imp_of_mem fun {a b} ha hb hclash heq => hclash ?_
  obtain ⟨stay, -, hok⟩ := exists_of_mem_forall₂ hitems ha
  obtain ⟨stay', -, hok'⟩ := exists_of_mem_forall₂ hitems hb
  obtain ⟨-, -, -, i, hi, hslot, -⟩ := holdItem_ok hok
  -- one object, one interval
  have hsame : b.slot = a.slot := by
    simp only [holdItem, bind_eq_ok, orRaise_eq_ok, pure_eq_ok] at hok hok'
    obtain ⟨j, hj, obj, -, rfl⟩ := hok
    obtain ⟨j', hj', obj', -, rfl⟩ := hok'
    have hstay : stay.bookableObjectId = stay'.bookableObjectId := heq
    rw [← hstay, hj] at hj'
    obtain rfl := Option.some.inj hj'
    simp only [BookingItem.slot, hstay]
  rw [hsame, hslot]
  exact ⟨rfl, (hfit i hi).2.1, (hfit i hi).2.1⟩

theorem Inv.createHold {tz : TimezoneDb} {caller : Caller} {now : ℤ} {cart : BookingHoldCartInput}
    {orderId year : ℕ} {s : State} (h : Inv s) (hcart : (cart.items.map (·.bookableObjectId)).Nodup) :
    Inv (createHold tz caller now cart orderId year s).1 := by
  unfold Booking.createHold
  split
  · exact h
  · split
    · exact h
    · rename_i s₁ ids he
      obtain ⟨hi, hns, -⟩ := h.expireStaleHolds he
      split
      · exact hi
      · rename_i s₂ hp
        exact hi.placeHold hns hcart hp

/-- The carts of a call name each object at most once. -/
def DistinctObjects : ℤ × Op → Prop
  | (_, .createHold _ cart _ _) => (cart.items.map (·.bookableObjectId)).Nodup
  | _ => True

instance : DecidablePred DistinctObjects
  | (_, .createHold _ cart _ _) => inferInstanceAs (Decidable (cart.items.map _).Nodup)
  | (_, .order ..) => inferInstanceAs (Decidable True)
  | (_, .expireStaleHolds ..) => inferInstanceAs (Decidable True)

theorem Inv.perform {tz : TimezoneDb} {now : ℤ} {s : State} {op : Op} (h : Inv s)
    (hop : DistinctObjects (now, op)) : Inv (perform tz now s op) := by
  cases op with
  | createHold caller cart orderId year => exact h.createHold hop
  | order call tenantId orderId =>
    simp only [Booking.perform]
    exact settle_keeps h fun s' hs => h.orderCall hs
  | expireStaleHolds caller territoryId =>
    simp only [Booking.perform]
    refine settle_keeps h fun s' hs => ?_
    obtain ⟨⟨s₁, ids⟩, he, rfl⟩ := map_eq_ok.1 hs
    exact (h.expireStaleHolds he).1

/-- The state before the first order. -/
def State.noOrders (s : State) : State := { s with orders := ∅ }

theorem Inv.noOrders (s : State) : Inv s.noOrders :=
  ⟨List.Pairwise.nil, fun _ _ ho _ => (nomatch ho), fun _ _ ho _ _ => (nomatch ho)⟩

/-- No double booking, for calls whose carts name each object at most once: from a
tenant without orders, whatever the calls and however the clock advances, no two
active items of orders that block now, or at any later time before the next call,
name one object and overlap. -/
theorem no_double_booking (tz : TimezoneDb) (s₀ : State) (start : ℤ) (evs : List (ℤ × Op)) (c : Clocked)
    (h : Run (Restrict (fun _ e => DistinctObjects e) (Step tz)) ⟨s₀.noOrders, start⟩ evs c) :
    ∀ now, c.clock ≤ now → NoOverlap (blockingItems c.state now) := by
  have hinv : Inv c.state := by
    refine h.invariant_restrict (fun c => Inv c.state) (Inv.noOrders s₀) ?_
    rintro c ⟨now, op⟩ c' hi hop ⟨-, rfl⟩
    exact hi.perform hop
  intro now _
  rw [noOverlap_iff_free]
  exact hinv.free.sublist (List.Sublist.map _ (blockingItems_sublist _ _))

section Examples

/-- One territory of tenant 1 with two cabins and a guest, and no orders. -/
def demo : State where
  territories := Table.insert ∅ 1 ⟨1, "UTC", "KZT", 50400000000, 43200000000, 30, 1, .active⟩
  objects := (Table.insert ∅ 1 ⟨1, 1, 1, "cabin-1", 1000000, none, none, .active⟩).insert 2
    ⟨1, 1, 1, "cabin-2", 1200000, none, none, .active⟩
  parties := Table.insert ∅ 1 1
  orders := ∅

def utcDb : TimezoneDb := ⟨fun _ => true, fun _ day clock => day * 86400000000 + clock⟩

def demoCaller : Caller := ⟨1, .ok (), .ok ()⟩

/-- Nights 10 to 12 of one cabin and 20 to 22 of another. -/
def demoHold (first second : ℕ) : ℤ × Op :=
  (0, .createHold demoCaller ⟨1, 1, .publicWeb, [⟨first, 10, 12⟩, ⟨second, 20, 22⟩], some "BO-1"⟩ 7 2026)

/-- One cart with two separate stays in cabin 1 is stored as two active items on
the nights of the second stay. -/
theorem double_booking_within_cart :
    ∃ c, Run (Step utcDb) ⟨demo.noOrders, 0⟩ [demoHold 1 1] c ∧
      ¬ ∀ now, c.clock ≤ now → NoOverlap (blockingItems c.state now) := by
  refine ⟨_, Run.single ⟨le_rfl, rfl⟩, fun h => ?_⟩
  have h0 := h 0 le_rfl
  rw [NoOverlap] at h0
  revert h0
  decide

/-- The theorem at a hold on two cabins, which is accepted. -/
theorem no_double_booking_two_cabins :
    (createHold utcDb demoCaller 0 ⟨1, 1, .publicWeb, [⟨1, 10, 12⟩, ⟨2, 20, 22⟩], some "BO-1"⟩ 7 2026
      demo.noOrders).2 = .ok 7 ∧
    NoOverlap (blockingItems (perform utcDb 0 demo.noOrders (demoHold 1 2).2) 0) :=
  ⟨by decide,
    no_double_booking utcDb demo 0 [demoHold 1 2] _ (Run.single ⟨by decide, le_rfl, rfl⟩) 0 le_rfl⟩

end Examples

end CoreOps.Booking
