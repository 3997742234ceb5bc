import CoreOps.Booking.NoDoubleBooking

/-! The lazy expiry of holds. What it does to the orders is one rewrite of the stale ones,
and it never fails. A stale hold does not block at the instant of the expiry or later, and
an expired order never blocks, so no availability check can tell the two states apart. In
every reachable state the holds carry their expiry, and so a hold is stale from the instant
it stops blocking. -/

namespace CoreOps.Booking

open Checked

/-- What the expiry makes of an order. -/
def expired (now : ℤ) (o : BookingOrder) : BookingOrder := clearHold (applyTransition .expired now o)

theorem expired_allowed_iff {status : BookingOrderStatus} :
    .expired ∈ allowedTransitions status ↔ status = .held := by
  cases status <;> decide

theorem expire_eq_ok {tenantId orderId : ℕ} {now : ℤ} {s : State} {o : BookingOrder}
    (ho : s.orders.get? orderId = some o) (ht : o.tenantId = tenantId) (hs : o.status = .held) :
    expire tenantId orderId now s = .ok (s.modifyOrder orderId (expired now)) := by
  have hget : getOrder s tenantId orderId = some o :=
    Option.filter_eq_some_iff.2 ⟨ho, decide_eq_true ht⟩
  simp only [expire, transition, bind_eq_ok, pure_eq_ok, orRaise_eq_ok, validateTransition, raiseIf_eq_ok, not_not]
  refine ⟨_, ⟨o, hget, ⟨⟩, expired_allowed_iff.2 hs, rfl⟩, ?_⟩
  simp only [State.modifyOrder, Table.modify_eq_mapRows, Table.mapRows_mapRows]
  congr 1
  refine Table.mapRows_congr fun k v _ => ?_
  by_cases hk : k = orderId
  · rw [if_pos hk, if_pos hk, if_pos hk]; rfl
  · rw [if_neg hk, if_neg hk, if_neg hk]

/-- The state with every stale hold of the scope expired. -/
def State.expireStale (s : State) (tenantId : ℕ) (now : ℤ) (territoryId : Option ℕ) : State :=
  { s with orders := s.orders.mapRows fun _ o =>
      if isStaleHeld tenantId now territoryId o then expired now o else o }

/-- Expiring distinct held orders one after the other rewrites exactly these. -/
theorem expire_all {tenantId : ℕ} {now : ℤ} {ids : List ℕ} (hnd : ids.Nodup) {s : State}
    (h : ∀ id ∈ ids, ∃ o, s.orders.get? id = some o ∧ o.tenantId = tenantId ∧ o.status = .held) :
    ids.foldlM (fun s id => expire tenantId id now s) s = .ok { s with
      orders := s.orders.mapRows fun id o => if id ∈ ids then expired now o else o } := by
  induction ids generalizing s with
  | nil =>
    rw [List.foldlM_nil, pure_eq_ok]
    have hid : s.orders.mapRows (fun id o => if id ∈ ([] : List ℕ) then expired now o else o) = s.orders := by
      refine Table.ext_rows ?_
      simp [Table.mapRows]
    rw [hid]
  | cons id ids ih =>
    obtain ⟨hid, hnd⟩ := List.nodup_cons.1 hnd
    obtain ⟨⟨o, ho, ht, hs⟩, hrest⟩ := List.forall_mem_cons.1 h
    rw [List.foldlM_cons, expire_eq_ok ho ht hs]
    -- the orders still to come are not the one just expired
    have hnext : ∀ j ∈ ids, ∃ o, (s.modifyOrder id (expired now)).orders.get? j = some o ∧
        o.tenantId = tenantId ∧ o.status = .held := by
      intro j hj
      rw [State.modifyOrder, Table.get?_modify_of_ne _ (ne_of_mem_of_not_mem hj hid)]
      exact hrest j hj
    refine (ih hnd hnext).trans ?_
    simp only [State.modifyOrder, Table.modify_eq_mapRows, Table.mapRows_mapRows]
    congr 2
    refine Table.mapRows_congr fun k v _ => ?_
    by_cases hk : k = id
    · rw [hk, if_neg hid, if_pos rfl, if_pos List.mem_cons_self]
    · by_cases hj : k ∈ ids
      · rw [if_pos hj, if_neg hk, if_pos (List.mem_cons_of_mem _ hj)]
      · rw [if_neg hj, if_neg hk, if_neg (List.not_mem_cons_of_ne_of_not_mem hk hj)]

theorem mem_findStaleHeldOrders {s : State} {tenantId : ℕ} {now : ℤ} {territoryId : Option ℕ} {id : ℕ} :
    id ∈ findStaleHeldOrders s tenantId now territoryId ↔
      ∃ o, s.orders.get? id = some o ∧ isStaleHeld tenantId now territoryId o = true := by
  simp only [findStaleHeldOrders, List.mem_map, List.mem_filter]
  constructor
  · rintro ⟨⟨j, o⟩, ⟨hmem, hs⟩, rfl⟩
    exact ⟨o, Table.mem_rows.1 hmem, hs⟩
  · rintro ⟨o, ho, hs⟩
    exact ⟨(id, o), ⟨Table.mem_rows.2 ho, hs⟩, rfl⟩

theorem isStaleHeld_iff {tenantId : ℕ} {now : ℤ} {territoryId : Option ℕ} {o : BookingOrder} :
    isStaleHeld tenantId now territoryId o = true ↔ o.tenantId = tenantId ∧ o.status = .held ∧
      (∃ t, o.holdExpiresAt = some t ∧ t ≤ now) ∧ territoryId.all (o.territoryId = ·) = true := by
  simp only [isStaleHeld, Bool.and_eq_true, decide_eq_true_eq, Option.any_eq_true, and_assoc]

/-- The whole of the lazy expiry. -/
theorem expireStaleHolds_eq (caller : Caller) (now : ℤ) (territoryId : Option ℕ) (s : State) :
    expireStaleHolds caller now territoryId s = caller.assertEnabled.bind fun _ =>
      .ok (s.expireStale caller.tenantId now territoryId, findStaleHeldOrders s caller.tenantId now territoryId) := by
  have hnd : (findStaleHeldOrders s caller.tenantId now territoryId).Nodup :=
    s.orders.nodup.sublist (List.Sublist.map _ List.filter_sublist)
  have hheld : ∀ id ∈ findStaleHeldOrders s caller.tenantId now territoryId,
      ∃ o, s.orders.get? id = some o ∧ o.tenantId = caller.tenantId ∧ o.status = .held := by
    intro id hid
    obtain ⟨o, ho, hs⟩ := mem_findStaleHeldOrders.1 hid
    obtain ⟨ht, hheld, -, -⟩ := isStaleHeld_iff.1 hs
    exact ⟨o, ho, ht, hheld⟩
  have hall : (findStaleHeldOrders s caller.tenantId now territoryId).foldlM
      (fun s id => expire caller.tenantId id now s) s = _ := expire_all hnd hheld
  rw [expireStaleHolds]
  simp only [hall]
  have hrows : (s.orders.mapRows fun id o =>
      if id ∈ findStaleHeldOrders s caller.tenantId now territoryId then expired now o else o) =
      (s.expireStale caller.tenantId now territoryId).orders := by
    simp only [State.expireStale]
    refine Table.mapRows_congr fun id o ho => ?_
    -- the row is the only one of its key
    have hiff : id ∈ findStaleHeldOrders s caller.tenantId now territoryId ↔
        isStaleHeld caller.tenantId now territoryId o = true := by
      rw [mem_findStaleHeldOrders]
      constructor
      · rintro ⟨o', ho', hs⟩
        obtain rfl := Option.some.inj (ho.symm.trans ho')
        exact hs
      · exact fun hs => ⟨o, ho, hs⟩
    simp only [hiff]
  rw [hrows]
  rfl

theorem expireStaleHolds_ok {caller : Caller} {now : ℤ} {territoryId : Option ℕ} {s s' : State} {ids : List ℕ}
    (h : expireStaleHolds caller now territoryId s = .ok (s', ids)) :
    s' = s.expireStale caller.tenantId now territoryId := by
  rw [expireStaleHolds_eq] at h
  obtain ⟨-, -, h⟩ := bind_eq_ok.1 h
  exact (congrArg Prod.fst (Except.ok.inj h)).symm

/-- A row afterwards is the row before, or the expiry of a stale hold. -/
theorem get?_expireStale {s : State} {tenantId : ℕ} {now : ℤ} {territoryId : Option ℕ} (id : ℕ) :
    (s.expireStale tenantId now territoryId).orders.get? id = (s.orders.get? id).map fun o =>
      if isStaleHeld tenantId now territoryId o then expired now o else o :=
  Table.get?_mapRows _ _ id

/-! No check sees the expiry. -/

theorem not_blocking_of_stale {tenantId : ℕ} {now t : ℤ} {territoryId : Option ℕ} {o : BookingOrder}
    (hs : isStaleHeld tenantId now territoryId o = true) (hle : now ≤ t) : isOrderBlocking o t = false := by
  obtain ⟨-, hheld, ⟨e, he, hexp⟩, -⟩ := isStaleHeld_iff.1 hs
  have hlt : ¬ e > t := not_lt.2 (hexp.trans hle)
  simp [isOrderBlocking, hheld, he, hlt]

theorem not_blocking_expired (now t : ℤ) (o : BookingOrder) : isOrderBlocking (expired now o) t = false := rfl

theorem filter_rows_eq_nil {o : BookingOrder} {id objectId : ℕ} {checkInAt checkOutAt now : ℤ} {excluded : Option ℕ}
    (h : isOrderBlocking o now = false) :
    (o.items.zipIdx.map fun i => ((id, o), i)).filter (fun r =>
      r.2.1.bookableObjectId = objectId ∧ r.2.1.status = .active ∧ r.1.2.status ∈ blockingOrderStatuses ∧
        r.2.1.checkInAt < checkOutAt ∧ r.2.1.checkOutAt > checkInAt ∧ some r.1.1 ≠ excluded ∧
        isOrderBlocking r.1.2 now) = [] := by
  refine List.filter_eq_nil_iff.2 fun r hr => ?_
  obtain ⟨i, -, rfl⟩ := List.mem_map.1 hr
  simp [h]

theorem findOverlappingItems_expireStale {s : State} {tenantId : ℕ} {now t : ℤ} {territoryId : Option ℕ}
    (hle : now ≤ t) (objectId : ℕ) (checkInAt checkOutAt : ℤ) (excluded : Option ℕ) :
    findOverlappingItems (s.expireStale tenantId now territoryId) objectId checkInAt checkOutAt t excluded =
      findOverlappingItems s objectId checkInAt checkOutAt t excluded := by
  simp only [findOverlappingItems, itemRows, State.expireStale, Table.mapRows, List.flatMap_map, List.filter_flatMap]
  refine List.flatMap_congr fun r _ => ?_
  cases hs : isStaleHeld tenantId now territoryId r.2 with
  | false => simp only [Bool.false_eq_true, if_false]
  | true =>
    -- a stale hold contributes nothing, expired or not
    rw [if_pos rfl, filter_rows_eq_nil (not_blocking_expired now t r.2)]
    exact (filter_rows_eq_nil (not_blocking_of_stale hs hle)).symm

theorem checkCart_expireStale (tz : TimezoneDb) {s : State} {tenantId : ℕ} {now t : ℤ} {territoryId : Option ℕ}
    (hle : now ≤ t) (excluded : Option ℕ) (caller : Caller) (cart : BookingAvailabilityCartInput) :
    checkCart tz (s.expireStale tenantId now territoryId) t excluded caller cart =
      checkCart tz s t excluded caller cart := by
  have hstay : checkStay tz (s.expireStale tenantId now territoryId) t excluded = checkStay tz s t excluded := by
    funext territory objects result stay
    simp only [checkStay, findOverlappingItems_expireStale hle]
  simp only [checkCart, hstay]
  rfl

/-! Every hold of a reachable state has an expiry. -/

def HoldsDated (s : State) : Prop :=
  ∀ id o, s.orders.get? id = some o → o.status = .held → o.holdExpiresAt.isSome

theorem HoldsDated.modifyOrder {s : State} (h : HoldsDated s) {id : ℕ} {f : BookingOrder → BookingOrder}
    (hf : ∀ o, s.orders.get? id = some o → (f o).status ≠ .held) : HoldsDated (s.modifyOrder id f) := by
  intro j o' ho' hs
  rw [State.modifyOrder, Table.get?_modify] at ho'
  split at ho'
  · rename_i hj
    subst hj
    obtain ⟨o, ho, rfl⟩ := Option.map_eq_some_iff.1 ho'
    exact absurd hs (hf o ho)
  · exact h j o' ho' hs

theorem HoldsDated.transition {tenantId orderId : ℕ} {now : ℤ} {s s' : State} {target : BookingOrderStatus}
    (h : HoldsDated s) (ht : target ≠ .held) (hok : transition tenantId orderId now s target = .ok s') :
    HoldsDated s' := by
  obtain ⟨-, -, -, -, rfl⟩ := transition_ok hok
  exact h.modifyOrder fun _ _ => ht

/-- The calls that drop the expiry have taken the order out of HELD before. -/
theorem HoldsDated.transition_clearHold {tenantId orderId : ℕ} {now : ℤ} {s s' : State}
    {target : BookingOrderStatus} (h : HoldsDated s) (ht : target ≠ .held)
    (hok : Booking.transition tenantId orderId now s target = .ok s') :
    HoldsDated (s'.modifyOrder orderId clearHold) := by
  refine (h.transition ht hok).modifyOrder fun o ho => ?_
  obtain ⟨-, -, -, -, rfl⟩ := transition_ok hok
  rw [State.modifyOrder, Table.get?_modify_self] at ho
  obtain ⟨o₀, -, rfl⟩ := Option.map_eq_some_iff.1 ho
  exact ht

theorem HoldsDated.orderCall {call : OrderCall} {tenantId orderId : ℕ} {now : ℤ} {s s' : State}
    (h : HoldsDated s) (hc : call.run tenantId orderId now s = .ok s') : HoldsDated s' := by
  cases call with
  | submitForPayment =>
    obtain ⟨s₁, h₁, hs⟩ := bind_eq_ok.1 hc
    rw [← pure_eq_ok.1 hs]
    exact h.transition_clearHold (by decide) h₁
  | expire =>
    obtain ⟨s₁, h₁, hs⟩ := bind_eq_ok.1 hc
    rw [← pure_eq_ok.1 hs]
    exact h.transition_clearHold (by decide) h₁
  | markPaid => exact h.transition (by decide) hc
  | confirm => exact h.transition (by decide) hc
  | cancel => exact h.transition (by decide) hc

theorem HoldsDated.expireStale {s : State} (h : HoldsDated s) (tenantId : ℕ) (now : ℤ) (territoryId : Option ℕ) :
    HoldsDated (s.expireStale tenantId now territoryId) := by
  intro id o' ho' hs
  rw [get?_expireStale] at ho'
  obtain ⟨o, ho, rfl⟩ := Option.map_eq_some_iff.1 ho'
  split at hs
  · cases hs
  · rename_i hstale
    rw [if_neg hstale]
    exact h id o ho hs

theorem HoldsDated.createHold {tz : TimezoneDb} {caller : Caller} {now : ℤ} {cart : BookingHoldCartInput}
    {orderId year : ℕ} {s : State} (h : HoldsDated s) :
    HoldsDated (createHold tz caller now cart orderId year s).1 := by
  unfold Booking.createHold
  split
  · exact h
  · split
    · exact h
    · rename_i s₁ ids he
      have h₁ : HoldsDated s₁ := by
        rw [expireStaleHolds_ok he]
        exact h.expireStale _ _ _
      split
      · exact h₁
      · rename_i s₂ hp
        obtain ⟨territory, intervals, ids', hpersist, -⟩ := placeHold_ok hp
        obtain ⟨order, hnone, rfl, -, -, -, hexp, -⟩ := persistHoldOrder_ok hpersist
        intro id o ho hs
        rw [Table.get?_insert_new _ _ _ hnone] at ho
        split at ho
        · obtain rfl := Option.some.inj ho
          rw [hexp]; rfl
        · exact h₁ id o ho hs

theorem HoldsDated.perform {tz : TimezoneDb} {now : ℤ} {s : State} {op : Op} (h : HoldsDated s) :
    HoldsDated (perform tz now s op) := by
  cases op with
  | createHold caller cart orderId year => exact h.createHold
  | order call tenantId orderId =>
    simp only [Booking.perform]
    exact settle_keeps h fun s' hs => h.orderCall hs
  | expireStaleHolds caller territoryId =>
    simp only [Booking.perform]
    refine settle_keeps h fun s' hs => ?_
    obtain ⟨⟨s₁, ids⟩, he, rfl⟩ := map_eq_ok.1 hs
    rw [expireStaleHolds_ok he]
    exact h.expireStale _ _ _

theorem holdsDated_of_run {tz : TimezoneDb} {s₀ : State} {start : ℤ} {evs : List (ℤ × Op)} {c : Clocked}
    (h : Run (Step tz) ⟨s₀.noOrders, start⟩ evs c) : HoldsDated c.state := by
  refine h.invariant (fun c => HoldsDated c.state) (fun _ _ ho => by cases ho) ?_
  rintro c ⟨now, op⟩ c' hi ⟨-, rfl⟩
  exact hi.perform

/-- A hold with an expiry is stale from the instant it stops blocking. -/
theorem stale_iff_not_blocking {o : BookingOrder} (hs : o.status = .held) (he : o.holdExpiresAt.isSome) (now : ℤ)
    {territoryId : Option ℕ} (ht : territoryId.all (o.territoryId = ·) = true) :
    isStaleHeld o.tenantId now territoryId o = true ↔ isOrderBlocking o now = false := by
  obtain ⟨t, ht'⟩ := Option.isSome_iff_exists.1 he
  rw [isStaleHeld_iff]
  simp [isOrderBlocking, hs, ht', ht]

/-- The lazy expiry is invisible: after any calls, at any clock values, an expiry at `now`
changes no availability check at `now` or later, of any cart. And of the holds in its
scope, it selects exactly those that do not block at `now`. -/
theorem lazy_expiry_invisible (tz : TimezoneDb) (s₀ : State) (start : ℤ) (evs : List (ℤ × Op)) (c : Clocked)
    (h : Run (Step tz) ⟨s₀.noOrders, start⟩ evs c) (now : ℤ) (expirer : Caller) (territoryId : Option ℕ) :
    (∀ t, now ≤ t → ∀ excluded caller cart,
      checkCart tz (perform tz now c.state (.expireStaleHolds expirer territoryId)) t excluded caller cart =
        checkCart tz c.state t excluded caller cart) ∧
    ∀ id o, c.state.orders.get? id = some o → o.status = .held → territoryId.all (o.territoryId = ·) = true →
      (id ∈ findStaleHeldOrders c.state o.tenantId now territoryId ↔ isOrderBlocking o now = false) := by
  refine ⟨fun t hle excluded caller cart => ?_, fun id o ho hs ht => ?_⟩
  · simp only [perform]
    refine settle_keeps (I := fun s' => checkCart tz s' t excluded caller cart =
      checkCart tz c.state t excluded caller cart) rfl fun s' hs => ?_
    obtain ⟨⟨s₁, ids⟩, he, rfl⟩ := map_eq_ok.1 hs
    rw [expireStaleHolds_ok he]
    exact checkCart_expireStale tz hle excluded caller cart
  · rw [← stale_iff_not_blocking hs (holdsDated_of_run h id o ho hs) now ht, mem_findStaleHeldOrders]
    constructor
    · rintro ⟨o', ho', hstale⟩
      obtain rfl := Option.some.inj (ho.symm.trans ho')
      exact hstale
    · exact fun hstale => ⟨o, ho, hstale⟩

section Examples

/-- The demo state with the hold of two cabins placed at 0, which runs out after 30 minutes. -/
def demoHeld : State := perform utcDb 0 demo.noOrders (demoHold 1 2).2

/-- The theorem at the instant the hold runs out: it is stale, and its cabins are free
before the expiry as after it. -/
theorem lazy_expiry_invisible_boundary :
    checkCart utcDb (perform utcDb 1800000000 demoHeld (.expireStaleHolds demoCaller none)) 1800000000 none
        demoCaller ⟨1, [⟨1, 11, 13⟩]⟩ =
      checkCart utcDb demoHeld 1800000000 none demoCaller ⟨1, [⟨1, 11, 13⟩]⟩ ∧
    ∃ o, demoHeld.orders.get? 7 = some o ∧ o.status = .held ∧
      (7 ∈ findStaleHeldOrders demoHeld o.tenantId 1800000000 none ↔ isOrderBlocking o 1800000000 = false) := by
  have hrun : Run (Step utcDb) ⟨demo.noOrders, 0⟩ [demoHold 1 2] ⟨demoHeld, 0⟩ := Run.single ⟨le_rfl, rfl⟩
  obtain ⟨hcheck, hstale⟩ := lazy_expiry_invisible utcDb demo 0 [demoHold 1 2] ⟨demoHeld, 0⟩ hrun 1800000000
    demoCaller none
  have hheld : (demoHeld.orders.get? 7).any (·.status = .held) = true := by decide
  obtain ⟨o, ho, hs⟩ := (Option.any_eq_true _ _).1 hheld
  exact ⟨hcheck _ le_rfl _ _ _, o, ho, of_decide_eq_true hs, hstale 7 o ho (of_decide_eq_true hs) rfl⟩

end Examples

end CoreOps.Booking
