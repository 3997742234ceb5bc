import CoreOps.Lib.Numbering
import CoreOps.Lib.Serial
import CoreOps.Booking.Concurrent

/-! The numbers of the orders. `next_order_number` counts the committed orders of the
tenant and no constraint keeps a number unique, so a hold may commit a number that
another one has committed since the count; what `create_hold` locks are the objects of
its cart, which other carts need not share. -/

namespace CoreOps.Booking

open Checked ReadCommitted Numbering

/-- The orders as numbered documents of their tenants. -/
def State.numbered (s : State) : List (ℕ × String) := s.orders.rows.map fun r => (r.2.tenantId, r.2.orderNumber)

def orderFormat : ℕ → ℕ → String := labelled "BO-" 5

theorem separates_orderFormat : Separates orderFormat := fun _ _ _ _ h => labelled_injective h

theorem nextOrderNumber_eq (s : State) (tenantId year : ℕ) :
    nextOrderNumber s tenantId year = orderFormat year (count s.numbered tenantId + 1) := by
  have hcount : count s.numbered tenantId = (s.orders.rows.filter fun r => r.2.tenantId = tenantId).length := by
    simp [count, State.numbered, List.filter_map, Function.comp_def]
  rw [hcount]
  rfl

/-- The number the cart brings along; an empty one counts as none. -/
def HoldArgs.supplied (h : HoldArgs) : Option String := h.cart.orderNumber.filter (· ≠ "")

/-- A number that may be committed now: of a hold without a number of its own, the one
that is still next; a supplied one when no order of the tenant has it and the count will
not come to it. -/
def FollowsCount (h : HoldArgs) (orderNumber : String) (s : State) : Prop :=
  match h.supplied with
  | none => orderNumber = nextOrderNumber s h.caller.tenantId h.year
  | some supplied => (h.caller.tenantId, supplied) ∉ s.numbered ∧
      ∀ year k, supplied = orderFormat year k → k ≤ count s.numbered h.caller.tenantId + 1

/-- Holds commit numbers that follow the count. -/
def OrdersFollow (requests : List Request) (w : World State Write Row Loc) : Event → Prop
  | .turn t => ∀ h, requests[t]? = some (.createHold h) → ∀ x ∈ w.sessions[t]?,
      ∀ id order, .insertOrder id order ∈ x.writes → FollowsCount h order.orderNumber w.db
  | .kill _ => True

/-- The order is of the hold, and has the number that it supplies. -/
structure Built (h : HoldArgs) (order : BookingOrder) : Prop where
  tenant : order.tenantId = h.caller.tenantId
  number : ∀ supplied ∈ h.supplied, order.orderNumber = supplied

/-- The write is no insert. -/
def Write.updates : Write → Bool
  | .insertOrder .. => false
  | _ => true

/-- The statements of a status change. -/
def Loc.ofOrder : Loc → Bool
  | .readOrder .. | .flushStatus .. | .flushHold _ | .done => true
  | _ => false

/-- The hold of a statement that comes before anything is written. -/
def Loc.beforeWrite : Loc → Option HoldArgs
  | .findStale h | .selectCart h | .lockObjects h .. | .check h .. | .buildOrder h .. => some h
  | _ => none

/-- What session `t` has written, and for which hold. -/
inductive Holding (requests : List Request) (t : ℕ) : Session Row Write Loc → Prop
  | ended : Holding requests t (.closed none)
  | order {l : Loc} {locks : List (Row × LockMode)} {ws : List Write} (hl : l.ofOrder = true)
      (hws : ∀ w ∈ ws, w.updates = true) : Holding requests t ⟨some l, locks, ws⟩
  | beforeWrite {h : HoldArgs} {l : Loc} {locks : List (Row × LockMode)}
      (hr : requests[t]? = some (.createHold h)) (hl : l.beforeWrite = some h) : Holding requests t ⟨some l, locks, []⟩
  | expireStale {h : HoldArgs} {stale : List ℕ} {locks : List (Row × LockMode)} {ws : List Write}
      (hr : requests[t]? = some (.createHold h)) (hws : ∀ w ∈ ws, w.updates = true) :
      Holding requests t ⟨some (.expireStale h stale), locks, ws⟩
  | insertOrder {h : HoldArgs} {order : BookingOrder} {locks : List (Row × LockMode)}
      (hr : requests[t]? = some (.createHold h)) (hb : Built h order) :
      Holding requests t ⟨some (.insertOrder h order), locks, []⟩
  | inserted {h : HoldArgs} {order : BookingOrder} {locks : List (Row × LockMode)}
      (hr : requests[t]? = some (.createHold h)) (hb : Built h order) :
      Holding requests t ⟨some .done, locks, [.insertOrder h.orderId order]⟩

section Numbered

variable {s : State}

theorem numbered_updates {w : Write} (h : w.updates = true) : (applyWrite s w).numbered = s.numbered := by
  let document : BookingOrder → ℕ × String := fun o => (o.tenantId, o.orderNumber)
  cases w with
  | setStatus id target now => exact s.orders.map_modify id (f := applyTransition target now) document fun _ => rfl
  | clearHold id => exact s.orders.map_modify id (f := clearHold) document fun _ => rfl
  | insertOrder id order => cases h

theorem numbered_insertOrder (s : State) (id : ℕ) (order : BookingOrder) :
    (applyWrite s (.insertOrder id order)).numbered = s.numbered ∨
      (applyWrite s (.insertOrder id order)).numbered = s.numbered ++ [(order.tenantId, order.orderNumber)] := by
  unfold State.numbered
  simp only [applyWrite]
  rcases Table.rows_insert_cases s.orders id order with h | h
  · exact .inl (by rw [h])
  · exact .inr (by rw [h, List.map_append, List.map_singleton])

/-- An insert of a number that follows the count. -/
theorem inOrder_insert (h : InOrder orderFormat s.numbered) {hold : HoldArgs} {order : BookingOrder}
    (hb : Built hold order) (hf : FollowsCount hold order.orderNumber s) (id : ℕ) :
    InOrder orderFormat (applyWrite s (.insertOrder id order)).numbered := by
  rcases numbered_insertOrder s id order with heq | heq
  · rw [heq]
    exact h
  · rw [heq, hb.tenant]
    unfold FollowsCount at hf
    split at hf
    · rw [hf, nextOrderNumber_eq]
      exact h.next separates_orderFormat _ _
    · rename_i supplied hs
      rw [hb.number supplied hs]
      exact h.append hf.1 hf.2

end Numbered

section Sessions

variable {requests : List Request} {t : ℕ} {x : Session Row Write Loc} {tz : TimezoneDb}

theorem buildHoldOrder_built {h : HoldArgs} {territory : BookingTerritory} {objects : Table ℕ BookingBookableObject}
    {intervals : List ResolvedStayInterval} {s : State} {order : BookingOrder}
    (hok : buildHoldOrder h.caller h.now h.cart territory objects intervals h.year s = .ok order) : Built h order := by
  simp only [buildHoldOrder, bind_eq_ok, pure_eq_ok] at hok
  obtain ⟨items, -, rfl⟩ := hok
  refine ⟨rfl, fun supplied hs => ?_⟩
  rw [HoldArgs.supplied, Option.mem_def, Option.filter_eq_some_iff] at hs
  obtain ⟨hnumber, hne⟩ := hs
  have hne' : supplied ≠ "" := by simpa using hne
  simp only [hnumber, if_neg hne']

theorem next_ofOrder {v : State} {l l' : Loc} {locks : List (Row × LockMode)} {ws : List Write}
    (hl : l.ofOrder = true) (hn : next tz l v = .exec locks ws l') :
    l'.ofOrder = true ∧ ∀ w ∈ ws, w.updates = true := by
  cases l with
  | readOrder call tenantId orderId now =>
    simp only [next] at hn
    split at hn
    · cases hn
    · split at hn <;> cases hn
      exact ⟨rfl, by simp⟩
  | flushStatus call orderId now status =>
    cases hn
    refine ⟨?_, by simp [Write.updates]⟩
    split <;> rfl
  | flushHold orderId =>
    cases hn
    exact ⟨rfl, by simp [Write.updates]⟩
  | done => cases hn
  | _ => cases hl

/-- Until the order is inserted, a hold only looks; the order it inserts is its own. -/
theorem next_beforeWrite {v : State} {h : HoldArgs} {l l' : Loc} {locks : List (Row × LockMode)} {ws : List Write}
    (hl : l.beforeWrite = some h) (hn : next tz l v = .exec locks ws l') :
    ws = [] ∧ (l'.beforeWrite = some h ∨ (∃ stale, l' = .expireStale h stale) ∨
      ∃ order, l' = .insertOrder h order ∧ Built h order) := by
  cases l with
  | findStale h₁ =>
    obtain rfl := Option.some.inj hl
    simp only [next] at hn
    split at hn
    · cases hn
    · split at hn <;> cases hn
      · exact ⟨rfl, .inl rfl⟩
      · exact ⟨rfl, .inr (.inl ⟨_, rfl⟩)⟩
  | selectCart h₁ =>
    obtain rfl := Option.some.inj hl
    simp only [next] at hn
    split at hn <;> cases hn
    exact ⟨rfl, .inl rfl⟩
  | lockObjects h₁ territory objectIds =>
    obtain rfl := Option.some.inj hl
    simp only [next] at hn
    split at hn
    · cases hn
    · split at hn <;> cases hn
      exact ⟨rfl, .inl rfl⟩
  | check h₁ territory stays result =>
    obtain rfl := Option.some.inj hl
    cases stays with
    | nil =>
      simp only [next] at hn
      split at hn <;> cases hn
      exact ⟨rfl, .inl rfl⟩
    | cons stay stays =>
      simp only [next] at hn
      split at hn <;> cases hn
      exact ⟨rfl, .inl rfl⟩
  | buildOrder h₁ territory intervals =>
    obtain rfl := Option.some.inj hl
    simp only [next] at hn
    split at hn
    · cases hn
    · rename_i order hok
      cases hn
      exact ⟨rfl, .inr (.inr ⟨order, rfl, buildHoldOrder_built hok⟩)⟩
  | _ => cases hl

theorem updates_append {ws ws' : List Write} (h : ∀ w ∈ ws, w.updates = true) (h' : ∀ w ∈ ws', w.updates = true) :
    ∀ w ∈ ws ++ ws', w.updates = true := by
  intro w hw
  rcases List.mem_append.1 hw with hw | hw
  · exact h w hw
  · exact h' w hw

theorem Holding.statement (hx : Holding requests t x) {v : State} {l l' : Loc} {locks : List (Row × LockMode)}
    {ws : List Write} (hl : x.loc = some l) (hn : next tz l v = .exec locks ws l') :
    Holding requests t ⟨some l', x.locks ++ locks, x.writes ++ ws⟩ := by
  induction hx with
  | ended => cases hl
  | order hof hws =>
    obtain rfl := Option.some.inj hl
    obtain ⟨hof', hws'⟩ := next_ofOrder hof hn
    exact .order hof' (updates_append hws hws')
  | beforeWrite hr hbefore =>
    obtain rfl := Option.some.inj hl
    obtain ⟨rfl, hbefore' | ⟨stale, rfl⟩ | ⟨order, rfl, hb⟩⟩ := next_beforeWrite hbefore hn
    · exact .beforeWrite hr hbefore'
    · exact .expireStale hr (by simp)
    · exact .insertOrder hr hb
  | expireStale hr hws =>
    rename_i h stale held ws₁
    obtain rfl := Option.some.inj hl
    cases stale with
    | nil => cases hn
    | cons id ids =>
      cases hn
      exact .expireStale hr (updates_append hws (by simp [Write.updates]))
  | insertOrder hr hb =>
    obtain rfl := Option.some.inj hl
    simp only [next] at hn
    split at hn
    · cases hn
    · cases hn
      exact .inserted hr hb
  | inserted =>
    obtain rfl := Option.some.inj hl
    cases hn

theorem next_commit_cases {v : State} {l : Loc} {r : Option Loc} (h : next tz l v = .commit r) :
    (l = .done ∧ r = none) ∨ ∃ hold, l = .expireStale hold [] ∧ r = some (.selectCart hold) := by
  revert h
  fun_cases next tz l v <;> intro h <;> cases h
  · exact .inl ⟨rfl, rfl⟩
  · exact .inr ⟨_, rfl, rfl⟩

/-- A transaction commits updates, or the order of its hold. -/
theorem Holding.commit (hx : Holding requests t x) {v : State} {l : Loc} {l' : Option Loc} (hl : x.loc = some l)
    (hn : next tz l v = .commit l') : Holding requests t (.closed l') ∧
      ((∀ w ∈ x.writes, w.updates = true) ∨ ∃ h order, requests[t]? = some (.createHold h) ∧ Built h order ∧
        x.writes = [.insertOrder h.orderId order]) := by
  rcases next_commit_cases hn with ⟨rfl, rfl⟩ | ⟨hold, rfl, rfl⟩
  · refine ⟨.ended, ?_⟩
    induction hx with
    | order hof hws => exact .inl hws
    | inserted hr hb => exact .inr ⟨_, _, hr, hb, rfl⟩
    | beforeWrite hr hbefore =>
      obtain rfl := Option.some.inj hl
      cases hbefore
    | _ => cases hl
  · induction hx with
    | expireStale hr hws =>
      obtain ⟨rfl, -⟩ := Loc.expireStale.inj (Option.some.inj hl)
      exact ⟨.beforeWrite hr rfl, .inl hws⟩
    | order hof =>
      obtain rfl := Option.some.inj hl
      cases hof
    | beforeWrite hr hbefore =>
      obtain rfl := Option.some.inj hl
      cases hbefore
    | _ => cases hl

theorem holding_local (requests : List Request) (tz : TimezoneDb) :
    SessionLocal (bookingSystem tz) (Holding requests) :=
  .of_next (fun hx hl hn => hx.statement hl hn) (fun hx hl hn => (hx.commit hl hn).1) next_rollback .ended

end Sessions

/-- Requests about to start. -/
def State.concurrently (s : State) (requests : List Request) : World State Write Row Loc :=
  ⟨s, (requests.map Request.start).map .fresh, []⟩

theorem holding_start (s : State) (requests : List Request) (t : ℕ) (x : Session Row Write Loc)
    (hx : (s.concurrently requests).sessions[t]? = some x) : Holding requests t x := by
  simp only [State.concurrently, List.getElem?_map, Option.map_eq_some_iff] at hx
  obtain ⟨l, ⟨request, hr, rfl⟩, rfl⟩ := hx
  cases request with
  | order call tenantId orderId now => exact .order rfl (by simp)
  | createHold h => exact .beforeWrite hr rfl

/-- Whatever the interleaving, as long as holds commit numbers that follow the count,
the orders are numbered in order. -/
theorem orders_inOrder {tz : TimezoneDb} {s : State} (hs : InOrder orderFormat s.numbered) {requests : List Request}
    {evs : List Event} {w : World State Write Row Loc}
    (h : Run (Restrict (OrdersFollow requests) (bookingSystem tz).Step) (s.concurrently requests) evs w) :
    InOrder orderFormat w.db.numbered := by
  refine (holding_local requests tz).run (I := fun d => InOrder orderFormat d.numbered) ?_
    (holding_start s requests) hs h
  intro w t x l' hd hx hC hst ha
  obtain ⟨l, hl, hn⟩ := RowLaw.eq_some_of_action ha
  rcases (hx.commit hl hn).2 with hws | ⟨hold, order, hr, hb, hws⟩
  · refine (bookingSystem tz).view_invariant (fun d => InOrder orderFormat d.numbered) (fun d w hw hd => ?_) hd
    show InOrder orderFormat (applyWrite d w).numbered
    rw [numbered_updates (hws w hw)]
    exact hd
  · rw [hws]
    exact inOrder_insert hd hb (hC hold hr x hst hold.orderId order (by rw [hws]; exact List.mem_singleton.2 rfl)) _

/-- No two orders of a tenant have one number. -/
def UniqueOrderNumbers (s : State) : Prop :=
  ∀ id id' o o', s.orders.get? id = some o → s.orders.get? id' = some o' → id ≠ id' → o.tenantId = o'.tenantId →
    o.orderNumber ≠ o'.orderNumber

theorem uniqueOrderNumbers_of_inOrder {s : State} (h : InOrder orderFormat s.numbered) : UniqueOrderNumbers s := by
  intro id id' o o' ho ho' hne htenant hnumber
  have hsame := List.inj_on_of_nodup_map h.distinct (Table.mem_rows.2 ho) (Table.mem_rows.2 ho')
    (by rw [htenant, hnumber])
  exact hne (congrArg Prod.fst hsame)

end CoreOps.Booking
