import CoreOps.Booking.LazyExpiry
import CoreOps.Booking.StayIntervals

/-! What a hold contains. The intervals of the cart are computed in one pass and joined
back to its stays by object, so the items are those of the stays as long as no object is
named for two different stays; of several stays of one object the join sees the last. -/

namespace CoreOps.Booking

open Checked

/-- The item is the one of the stay: its object, dates, instants and nights, at the
object's base price. -/
structure ItemOf (tz : TimezoneDb) (territory : BookingTerritory) (obj : BookingBookableObject)
    (stay : BookingStayRequest) (item : BookingItem) : Prop where
  bookableObjectId : item.bookableObjectId = stay.bookableObjectId
  checkInDate : item.checkInDate = stay.checkInDate
  checkOutDate : item.checkOutDate = stay.checkOutDate
  checkInAt : item.checkInAt =
    tz.toUtc territory.timezone stay.checkInDate (resolveEffectiveCheckTimes territory obj).1
  checkOutAt : item.checkOutAt =
    tz.toUtc territory.timezone stay.checkOutDate (resolveEffectiveCheckTimes territory obj).2
  nights : item.nights = stay.checkOutDate - stay.checkInDate
  lineTotal : item.lineTotal = obj.basePrice * (stay.checkOutDate - stay.checkInDate)

/-- The items of the order, in some order, are those of the stays, and the subtotal is
the sum of their lines. -/
def HoldsCart (tz : TimezoneDb) (s : State) (cart : BookingHoldCartInput) (order : BookingOrder) : Prop :=
  (∃ territory items, s.territories.get? cart.territoryId = some territory ∧ items.Perm order.items ∧
    List.Forall₂ (fun stay item => ∃ obj, s.objects.get? stay.bookableObjectId = some obj ∧
      ItemOf tz territory obj stay item) cart.items items) ∧
  order.subtotal = (order.items.map (·.lineTotal)).sum

/-- No object of the cart is named for two different stays. -/
def OneStayPerObject (cart : BookingHoldCartInput) : Prop :=
  ∀ a ∈ cart.items, ∀ b ∈ cart.items, a.bookableObjectId = b.bookableObjectId → a = b

section Intervals

variable {tz : TimezoneDb} {s : State} {now : ℤ} {territory : BookingTerritory}
  {objects : Table ℕ BookingBookableObject}

/-- The interval is the one built for the stay. -/
def IntervalOf (tz : TimezoneDb) (territory : BookingTerritory) (objects : Table ℕ BookingBookableObject)
    (stay : BookingStayRequest) (i : ResolvedStayInterval) : Prop :=
  ∃ obj, objects.get? stay.bookableObjectId = some obj ∧
    buildItemInterval tz territory stay.bookableObjectId obj stay.checkInDate stay.checkOutDate = .ok i

theorem checkStay_interval {stay : BookingStayRequest} {r r' : BookingAvailabilityResult}
    (h : checkStay tz s now none territory objects r stay = .ok r') (he : r'.validationErrors = []) :
    r.validationErrors = [] ∧ ∃ i, r'.intervals = r.intervals ++ [i] ∧ IntervalOf tz territory objects stay i := by
  unfold checkStay at h
  split at h
  · rw [pure_eq_ok] at h
    subst h
    simp at he
  · rename_i obj hobj
    split at h
    · rw [pure_eq_ok] at h
      subst h
      simp at he
    · rw [bind_eq_ok] at h
      obtain ⟨i, hi, h⟩ := h
      dsimp only at h
      split at h
      · rw [pure_eq_ok] at h
        subst h
        simp at he
      · rw [pure_eq_ok] at h
        subst h
        exact ⟨he, i, rfl, obj, hobj, hi⟩

/-- A cart without errors gives one interval for each stay, in the cart's order. -/
theorem checkStays_intervals {stays : List BookingStayRequest} {r r' : BookingAvailabilityResult}
    (h : stays.foldlM (checkStay tz s now none territory objects) r = .ok r') (he : r'.validationErrors = []) :
    r.validationErrors = [] ∧ ∃ is, r'.intervals = r.intervals ++ is ∧
      List.Forall₂ (IntervalOf tz territory objects) stays is := by
  induction stays generalizing r with
  | nil =>
    rw [List.foldlM_nil, pure_eq_ok] at h
    subst h
    exact ⟨he, [], (List.append_nil _).symm, .nil⟩
  | cons stay stays ih =>
    rw [List.foldlM_cons, bind_eq_ok] at h
    obtain ⟨r₁, h₁, h₂⟩ := h
    obtain ⟨he₁, is, hr', his⟩ := ih h₂
    obtain ⟨he₀, i, hr₁, hi⟩ := checkStay_interval h₁ he₁
    refine ⟨he₀, i :: is, ?_, .cons hi his⟩
    rw [hr', hr₁, List.append_assoc, List.singleton_append]

end Intervals

theorem assertCartAvailable_intervals {tz : TimezoneDb} {s : State} {now : ℤ} {caller : Caller}
    {cart : BookingAvailabilityCartInput} {intervals : List ResolvedStayInterval}
    (h : assertCartAvailable tz s now none caller cart = .ok intervals) :
    ∃ territory, getTerritory s caller.tenantId cart.territoryId = some territory ∧
      List.Forall₂ (IntervalOf tz territory (listObjectsForTerritory s caller.tenantId cart.territoryId
        (cart.items.map (·.bookableObjectId)))) cart.items intervals := by
  simp only [assertCartAvailable, bind_eq_ok, raiseIf_eq_ok, not_not, pure_eq_ok] at h
  obtain ⟨r, hr, -, he, -, -, rfl⟩ := h
  simp only [checkCart, bind_eq_ok, raiseIf_eq_ok, orRaise_eq_ok] at hr
  obtain ⟨-, -, -, -, territory, hterritory, hr⟩ := hr
  split at hr
  · rw [pure_eq_ok] at hr
    subst hr
    cases he
  · obtain ⟨-, is, his, hall⟩ := checkStays_intervals hr he
    refine ⟨territory, hterritory, ?_⟩
    rw [his]
    exact hall

theorem get?_of_listObjectsForTerritory {s : State} {tenantId territoryId id : ℕ} {ids : List ℕ}
    {obj : BookingBookableObject} (h : (listObjectsForTerritory s tenantId territoryId ids).get? id = some obj) :
    s.objects.get? id = some obj := by
  rw [listObjectsForTerritory, Table.get?_filter] at h
  exact (Option.filter_eq_some_iff.1 h).1

/-- A stay's item is built on the interval of some stay of the cart of the same object. -/
theorem holdItem_of_intervals {tz : TimezoneDb} {territory : BookingTerritory}
    {objects objects' : Table ℕ BookingBookableObject} {stays : List BookingStayRequest}
    {intervals : List ResolvedStayInterval} (his : List.Forall₂ (IntervalOf tz territory objects') stays intervals)
    {stay : BookingStayRequest} {item : BookingItem} (h : holdItem objects intervals stay = .ok item) :
    ∃ joined ∈ stays, joined.bookableObjectId = stay.bookableObjectId ∧
      ∃ i obj, intervalByObject intervals stay.bookableObjectId = some i ∧
        IntervalOf tz territory objects' joined i ∧ objects.get? stay.bookableObjectId = some obj ∧
        item.bookableObjectId = stay.bookableObjectId ∧ item.checkInDate = i.checkInDate ∧
        item.checkOutDate = i.checkOutDate ∧ item.checkInAt = i.checkInAt ∧ item.checkOutAt = i.checkOutAt ∧
        item.nights = i.nights ∧ item.lineTotal = obj.basePrice * i.nights := by
  simp only [holdItem, bind_eq_ok, orRaise_eq_ok, pure_eq_ok] at h
  obtain ⟨i, hi, obj, hobj, rfl⟩ := h
  have hid : i.bookableObjectId = stay.bookableObjectId := by simpa using List.find?_some hi
  have hmem : i ∈ intervals := List.mem_reverse.1 (List.mem_of_find?_eq_some hi)
  obtain ⟨joined, hjoined, hiof⟩ := exists_of_mem_forall₂ his hmem
  obtain ⟨obj', -, hbuild⟩ := id hiof
  have hjid : joined.bookableObjectId = stay.bookableObjectId :=
    (buildItemInterval_ok hbuild).1.symm.trans hid
  exact ⟨joined, hjoined, hjid, i, obj, hi, hiof, hobj, rfl, rfl, rfl, rfl, rfl, rfl, rfl⟩

theorem itemOf_of_joined {tz : TimezoneDb} {s : State} {territory : BookingTerritory} {tenantId territoryId : ℕ}
    {ids ids' : List ℕ} {stays : List BookingStayRequest} {intervals : List ResolvedStayInterval}
    (his : List.Forall₂ (IntervalOf tz territory (listObjectsForTerritory s tenantId territoryId ids')) stays intervals)
    (hone : ∀ a ∈ stays, ∀ b ∈ stays, a.bookableObjectId = b.bookableObjectId → a = b)
    {stay : BookingStayRequest} (hstay : stay ∈ stays) {item : BookingItem}
    (h : holdItem (listObjectsForTerritory s tenantId territoryId ids) intervals stay = .ok item) :
    ∃ obj, s.objects.get? stay.bookableObjectId = some obj ∧ ItemOf tz territory obj stay item := by
  obtain ⟨joined, hjoined, hid, i, obj, -, ⟨obj', hobj', hbuild⟩, hobj, h1, h2, h3, h4, h5, h6, h7⟩ :=
    holdItem_of_intervals his h
  obtain rfl := hone joined hjoined stay hstay hid
  have hobj := get?_of_listObjectsForTerritory hobj
  obtain rfl := Option.some.inj (hobj.symm.trans (get?_of_listObjectsForTerritory hobj'))
  obtain ⟨-, -, rfl⟩ := buildItemInterval_eq_ok hbuild
  exact ⟨obj, hobj, h1, h2, h3, h4, h5, h6, h7⟩

/-- What the hold is built from. -/
theorem placeHold_built {tz : TimezoneDb} {caller : Caller} {now : ℤ} {cart : BookingHoldCartInput}
    {orderId year : ℕ} {s s' : State} (h : placeHold tz caller now cart orderId year s = .ok s') :
    ∃ territory intervals ids ids' order, s.territories.get? cart.territoryId = some territory ∧
      List.Forall₂ (IntervalOf tz territory (listObjectsForTerritory s caller.tenantId cart.territoryId ids'))
        cart.items intervals ∧
      s'.orders.get? orderId = some order ∧ order.subtotal = (order.items.map (·.lineTotal)).sum ∧
      List.Forall₂ (fun stay item => holdItem
        (listObjectsForTerritory s caller.tenantId cart.territoryId ids) intervals stay = .ok item)
        cart.items order.items := by
  simp only [placeHold, bind_eq_ok, orRaise_eq_ok, raiseIf_eq_ok] at h
  obtain ⟨territory, hterritory, -, -, -, -, -, -, intervals, hi, hp⟩ := h
  obtain ⟨territory', hterritory', his⟩ := assertCartAvailable_intervals hi
  obtain rfl := Option.some.inj (hterritory.symm.trans hterritory')
  have hget : s.territories.get? cart.territoryId = some territory := (Option.filter_eq_some_iff.1 hterritory).1
  simp only [persistHoldOrder, buildHoldOrder, insertHoldOrder, bind_eq_ok, raiseIf_eq_ok, pure_eq_ok,
    Option.not_isSome_iff_eq_none] at hp
  obtain ⟨order, ⟨items, hitems, horder⟩, -, -, -, hnone, rfl⟩ := hp
  refine ⟨territory, intervals, (cart.items.map (·.bookableObjectId)).dedup.insertionSort (· ≤ ·), _, order, hget,
    his, ?_, ?_, ?_⟩
  · rw [Table.get?_insert_new _ _ _ hnone, if_pos rfl]
  · rw [← horder]
  · rw [← horder]
    exact mapM_eq_ok hitems

theorem holdsCart_iff_of_placeHold {tz : TimezoneDb} {caller : Caller} {now : ℤ} {cart : BookingHoldCartInput}
    {orderId year : ℕ} {s s' : State} (h : placeHold tz caller now cart orderId year s = .ok s') :
    ∃ order, s'.orders.get? orderId = some order ∧ (HoldsCart tz s cart order ↔ OneStayPerObject cart) := by
  obtain ⟨territory, intervals, ids, ids', order, hget, his, horder, hsub, hitems⟩ := placeHold_built h
  refine ⟨order, horder, ?_, ?_⟩
  · rintro ⟨⟨territory', items, -, hperm, hall⟩, -⟩ a ha b hb hab
    -- each of two stays of one object has an item, and both are built on one interval
    have hdates : ∀ stay ∈ cart.items, ∃ i, intervalByObject intervals stay.bookableObjectId = some i ∧
        i.checkInDate = stay.checkInDate ∧ i.checkOutDate = stay.checkOutDate := by
      intro stay hstay
      obtain ⟨item, hitem, obj, -, hof⟩ := exists_of_mem_forall₂_left hall hstay
      obtain ⟨other, -, hok⟩ := exists_of_mem_forall₂ hitems (hperm.mem_iff.1 hitem)
      obtain ⟨-, -, -, i, -, hi, -, -, hid, h1, h2, -⟩ := holdItem_of_intervals his hok
      refine ⟨i, ?_, h1.symm.trans hof.checkInDate, h2.symm.trans hof.checkOutDate⟩
      rw [← hof.bookableObjectId, hid]
      exact hi
    obtain ⟨i, hi, hia, hoa⟩ := hdates a ha
    obtain ⟨j, hj, hib, hob⟩ := hdates b hb
    rw [← hab, hi] at hj
    obtain rfl := Option.some.inj hj
    have hin : a.checkInDate = b.checkInDate := hia.symm.trans hib
    have hout : a.checkOutDate = b.checkOutDate := hoa.symm.trans hob
    cases a
    cases b
    simp only [BookingStayRequest.mk.injEq]
    exact ⟨hab, hin, hout⟩
  · intro hone
    refine ⟨⟨territory, order.items, hget, .refl _, ?_⟩, hsub⟩
    obtain ⟨hlen, hzip⟩ := List.forall₂_iff_zip.1 hitems
    refine List.forall₂_iff_zip.2 ⟨hlen, fun {stay item} hpair => ?_⟩
    exact itemOf_of_joined his hone (List.of_mem_zip hpair).1 (hzip hpair)

/-- A hold contains exactly its cart if and only if the cart names no object for two
different stays. -/
theorem hold_contains_cart (tz : TimezoneDb) (caller : Caller) (now : ℤ) (cart : BookingHoldCartInput)
    (orderId year id : ℕ) (s s' : State) (h : createHold tz caller now cart orderId year s = (s', .ok id)) :
    ∃ order, s'.orders.get? id = some order ∧ (HoldsCart tz s cart order ↔ OneStayPerObject cart) := by
  unfold createHold at h
  split at h
  · cases (Prod.mk.inj h).2
  · split at h
    · cases (Prod.mk.inj h).2
    · rename_i s₁ ids he
      split at h
      · cases (Prod.mk.inj h).2
      · rename_i s₂ hp
        obtain ⟨hs, hid⟩ := Prod.mk.inj h
        obtain rfl := Except.ok.inj hid
        obtain ⟨order, horder, hiff⟩ := holdsCart_iff_of_placeHold hp
        rw [← hs]
        rw [expireStaleHolds_ok he] at hiff
        exact ⟨order, horder, hiff⟩

section Examples

/-- The theorem at a hold on two cabins. -/
theorem hold_contains_cart_two_cabins :
    ∃ order, (createHold utcDb demoCaller 0 ⟨1, 1, .publicWeb, [⟨1, 10, 12⟩, ⟨2, 20, 22⟩], some "BO-1"⟩ 7 2026
      demo).1.orders.get? 7 = some order ∧
    HoldsCart utcDb demo ⟨1, 1, .publicWeb, [⟨1, 10, 12⟩, ⟨2, 20, 22⟩], some "BO-1"⟩ order := by
  have hok : (createHold utcDb demoCaller 0 ⟨1, 1, .publicWeb, [⟨1, 10, 12⟩, ⟨2, 20, 22⟩], some "BO-1"⟩ 7 2026
      demo).2 = .ok 7 := by decide
  obtain ⟨order, horder, hiff⟩ := hold_contains_cart utcDb demoCaller 0 _ 7 2026 7 demo _ (Prod.ext rfl hok)
  refine ⟨order, horder, hiff.2 ?_⟩
  unfold OneStayPerObject
  decide

/-- Nights 10 to 12 and 20 to 22 of cabin 1. -/
def demoTwoStays : BookingHoldCartInput := ⟨1, 1, .publicWeb, [⟨1, 10, 12⟩, ⟨1, 20, 22⟩], some "BO-1"⟩

def demoTwice : State × Except BookingError ℕ := createHold utcDb demoCaller 0 demoTwoStays 7 2026 demo

/-- The hold on two stays in one cabin is accepted, and no item of its order begins on day 10. -/
theorem hold_misses_first_stay :
    demoTwice = (demoTwice.1, .ok 7) ∧
      ¬ ∃ order, demoTwice.1.orders.get? 7 = some order ∧ HoldsCart utcDb demo demoTwoStays order := by
  have hok : demoTwice.2 = .ok 7 := by decide
  refine ⟨Prod.ext rfl hok, ?_⟩
  rintro ⟨order, horder, ⟨territory, items, -, hperm, hall⟩, -⟩
  obtain ⟨item, hitem, obj, -, hof⟩ := exists_of_mem_forall₂_left hall List.mem_cons_self
  have hlast : (demoTwice.1.orders.get? 7).all (fun o => o.items.all (·.checkInDate = 20)) = true := by decide
  rw [horder] at hlast
  have h20 : item.checkInDate = 20 := of_decide_eq_true (List.all_eq_true.1 hlast item (hperm.mem_iff.1 hitem))
  have h10 : item.checkInDate = 10 := hof.checkInDate
  omega

end Examples

end CoreOps.Booking
