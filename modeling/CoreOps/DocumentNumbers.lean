import CoreOps.Booking.NoDoubleBooking
import CoreOps.Booking.OrderNumbers
import CoreOps.Finance.PaymentNumbers

/-! The numbers of documents, over every interleaving of the requests that create them.
Orders and payments are numbered by the count of what is committed, which two requests
may read before either of them commits. -/

namespace CoreOps

open Booking ReadCommitted Numbering

/-- Document numbers are unique, for requests that commit the number they have counted
while it is still next, and for supplied order numbers that are neither in use nor ahead
of the count: then no two orders, and no two payments, of a tenant have one number. -/
theorem document_numbers_unique {tz : TimezoneDb} {orders : Booking.State} {requests : List Booking.Request}
    {evs : List Event} {w : World Booking.State Booking.Write Booking.Row Booking.Loc}
    {payments : Finance.State} {creations : List Finance.PaymentArgs} {evs' : List Event}
    {w' : World Finance.State Finance.PaymentWrite Finance.PaymentRow Finance.PaymentLoc}
    (horders : InOrder orderFormat orders.numbered)
    (hrun : Run (Restrict (OrdersFollow requests) (bookingSystem tz).Step) (orders.concurrently requests) evs w)
    (hpayments : InOrder Finance.paymentFormat payments.numbered)
    (hrun' : Run (Restrict (Finance.PaymentsFollow creations) Finance.paymentSystem.Step)
      (payments.creating creations) evs' w') :
    UniqueOrderNumbers w.db ∧ Finance.UniquePaymentNumbers w'.db := by
  constructor
  · exact uniqueOrderNumbers_of_inOrder (orders_inOrder horders hrun)
  · exact Finance.uniquePaymentNumbers_of_inOrder (Finance.payments_inOrder hpayments hrun')

section Examples

/-- Holds on two cabins by carts without a number. -/
def demoHolds : List Booking.Request :=
  [.createHold ⟨demoCaller, ⟨1, 1, .publicWeb, [⟨1, 10, 12⟩], none⟩, 7, 2026, 0⟩,
    .createHold ⟨demoCaller, ⟨1, 1, .publicWeb, [⟨2, 10, 12⟩], none⟩, 8, 2026, 0⟩]

def demoPayment : Finance.PaymentCreate where
  partyId := none
  amount := 10
  currency := "KZT"
  paymentDate := 0
  method := .cash
  status := .completed
  direction := .incoming
  referenceNumber := none
  notes := none
  legacyPaymentType := none
  amount_pos := by decide

def demoPayments : List Finance.PaymentArgs :=
  [⟨⟨1, .ok ()⟩, ⟨0, 2026, 0⟩, 7, demoPayment⟩, ⟨⟨1, .ok ()⟩, ⟨0, 2026, 0⟩, 8, demoPayment⟩]

def noPayments : Finance.State := ⟨∅, ∅, ∅, ∅, ∅, ∅, ∅⟩

/-- Both holds count no order before either commits, though they lock different cabins;
and so do both payments. -/
theorem document_numbers_clash :
    (∃ evs w, Run (bookingSystem utcDb).Step (demo.noOrders.concurrently demoHolds) evs w ∧
      ¬ UniqueOrderNumbers w.db) ∧
    ∃ evs w, Run Finance.paymentSystem.Step (noPayments.creating demoPayments) evs w ∧
      ¬ Finance.UniquePaymentNumbers w.db := by
  constructor
  · let evs : List Event := List.replicate 6 (.turn 0) ++ List.replicate 8 (.turn 1) ++ List.replicate 2 (.turn 0)
    have hrun : (execute? (fun _ _ => True) (bookingSystem utcDb).step? (demo.noOrders.concurrently demoHolds)
        evs).map (fun w => [7, 8].map fun id => (w.db.orders.get? id).map fun o => (o.tenantId, o.orderNumber)) =
        some [some (1, "BO-2026-00001"), some (1, "BO-2026-00001")] := by
      decide
    obtain ⟨w, hw, hdb⟩ := Option.map_eq_some_iff.1 hrun
    simp only [List.map_cons, List.map_nil, List.cons.injEq, Option.map_eq_some_iff, and_true, Prod.mk.injEq] at hdb
    obtain ⟨⟨o, ho, htenant, hnumber⟩, o', ho', htenant', hnumber'⟩ := hdb
    refine ⟨evs, w, (Run.of_execute? hw).of_restrict, fun hunique => ?_⟩
    exact hunique 7 8 o o' ho ho' (by decide) (htenant.trans htenant'.symm) (hnumber.trans hnumber'.symm)
  · let evs : List Event := List.replicate 2 (.turn 0) ++ List.replicate 4 (.turn 1) ++ List.replicate 2 (.turn 0)
    have hrun : (execute? (fun _ _ => True) Finance.paymentSystem.step? (noPayments.creating demoPayments)
        evs).map (fun w => [7, 8].map fun id => (w.db.payments.get? id).map fun p => (p.tenantId, p.paymentNumber)) =
        some [some (1, "PAY-2026-00001"), some (1, "PAY-2026-00001")] := by
      decide +kernel
    obtain ⟨w, hw, hdb⟩ := Option.map_eq_some_iff.1 hrun
    simp only [List.map_cons, List.map_nil, List.cons.injEq, Option.map_eq_some_iff, and_true, Prod.mk.injEq] at hdb
    obtain ⟨⟨p, hp, htenant, hnumber⟩, p', hp', htenant', hnumber'⟩ := hdb
    refine ⟨evs, w, (Run.of_execute? hw).of_restrict, fun hunique => ?_⟩
    exact hunique 7 8 p p' hp hp' (by decide) (htenant.trans htenant'.symm) (hnumber.trans hnumber'.symm)

def insertedNumber : Booking.Write → Option String
  | .insertOrder _ order => some order.orderNumber
  | _ => none

/-- The condition on `demoHolds`, as it can be checked. -/
def HoldsFollow (w : World Booking.State Booking.Write Booking.Row Booking.Loc) : Event → Prop
  | .turn t => ∀ x ∈ w.sessions[t]?, ∀ write ∈ x.writes, ∀ number ∈ insertedNumber write,
      number = nextOrderNumber w.db 1 2026
  | .kill _ => True

instance (w : World Booking.State Booking.Write Booking.Row Booking.Loc) : ∀ e, Decidable (HoldsFollow w e)
  | .turn t => inferInstanceAs (Decidable (∀ x ∈ w.sessions[t]?, ∀ write ∈ x.writes, ∀ number ∈ _, _))
  | .kill _ => inferInstanceAs (Decidable True)

theorem ordersFollow_demoHolds {w : World Booking.State Booking.Write Booking.Row Booking.Loc} {e : Event}
    (h : HoldsFollow w e) : OrdersFollow demoHolds w e := by
  cases e with
  | kill t => trivial
  | turn t =>
    intro hold hr x hx id order hwrite
    have hnumber : order.orderNumber = nextOrderNumber w.db 1 2026 := h x hx _ hwrite _ rfl
    have hmem := List.mem_of_getElem? hr
    simp only [demoHolds, List.mem_cons, Request.createHold.injEq, List.not_mem_nil, or_false] at hmem
    rcases hmem with rfl | rfl
    · exact hnumber
    · exact hnumber

/-- The theorem at the same requests made one after the other. -/
theorem document_numbers_serially : ∃ evs w evs' w',
    Run (Restrict (OrdersFollow demoHolds) (bookingSystem utcDb).Step) (demo.noOrders.concurrently demoHolds) evs w ∧
      w.db.numbered = [(1, "BO-2026-00001"), (1, "BO-2026-00002")] ∧
      Run (Restrict (Finance.PaymentsFollow demoPayments) Finance.paymentSystem.Step)
        (noPayments.creating demoPayments) evs' w' ∧
      w'.db.numbered = [(1, "PAY-2026-00001"), (1, "PAY-2026-00002")] ∧
      UniqueOrderNumbers w.db ∧ Finance.UniquePaymentNumbers w'.db := by
  let evs : List Event := List.replicate 8 (.turn 0) ++ List.replicate 8 (.turn 1)
  have hholds : (execute? HoldsFollow (bookingSystem utcDb).step? (demo.noOrders.concurrently demoHolds)
      evs).map (fun w => w.db.numbered) = some [(1, "BO-2026-00001"), (1, "BO-2026-00002")] := by
    decide
  obtain ⟨w, hw, hdb⟩ := Option.map_eq_some_iff.1 hholds
  have hrun := (Run.of_execute? hw).mono fun _ _ _ hs =>
    (⟨ordersFollow_demoHolds hs.1, hs.2⟩ : Restrict (OrdersFollow demoHolds) (bookingSystem utcDb).Step _ _ _)
  let evs' : List Event := List.replicate 4 (.turn 0) ++ List.replicate 4 (.turn 1)
  have hcreations : (execute? (Finance.PaymentsFollow demoPayments) Finance.paymentSystem.step?
      (noPayments.creating demoPayments) evs').map (fun w => w.db.numbered) =
      some [(1, "PAY-2026-00001"), (1, "PAY-2026-00002")] := by
    decide +kernel
  obtain ⟨w', hw', hdb'⟩ := Option.map_eq_some_iff.1 hcreations
  have hrun' := Run.of_execute? hw'
  exact ⟨evs, w, evs', w', hrun, hdb, hrun', hdb', document_numbers_unique inOrder_nil hrun inOrder_nil hrun'⟩

end Examples

end CoreOps
