import CoreOps.Lib.Numbering
import CoreOps.Lib.Serial
import CoreOps.Finance.Service

/-! The numbers of the payments as `create_payment` requests interleave under READ
COMMITTED. A number is derived from the count of the tenant's committed payments; the
insert takes no lock that another insert waits for, and no constraint keeps a number
unique, as `uq_invoice_tenant_number` does for invoices. -/

namespace CoreOps.Finance

open Checked ReadCommitted Numbering

attribute [local irreducible] moneyColumn

structure PaymentArgs where
  caller : Caller
  clock : Clock
  paymentId : ℕ
  payload : PaymentCreate

/-- The row of a new payment, as its columns store it. -/
def newPayment (caller : Caller) (payload : PaymentCreate) (paymentNumber : String) : Except FinanceError Payment := do
  let mapped := payload.legacyPaymentType.map mapLegacyPaymentType
  let amount ← moneyColumn payload.amount
  return {
    tenantId := caller.tenantId
    partyId := payload.partyId
    paymentNumber := paymentNumber
    amount := amount
    currency := payload.currency
    amountAllocated := 0
    paymentDate := payload.paymentDate
    method := payload.method
    status := (mapped.map (·.2.1)).getD payload.status
    direction := (mapped.map (·.1)).getD payload.direction
    referenceNumber := payload.referenceNumber
    notes := payload.notes }

/-- `create_payment` in its statements. -/
theorem createPayment_eq (caller : Caller) (clock : Clock) (paymentId : ℕ) (payload : PaymentCreate) (s : State) :
    createPayment caller clock paymentId payload s = (do
      raiseIf (¬ payload.partyId.all (belongs caller.tenantId s.parties)) (.notFound "Party not found")
      let payment ← newPayment caller payload (nextPaymentNumber s caller.tenantId clock.year)
      raiseIf ((s.payments.get? paymentId).isSome) .integrityError
      return { s with payments := s.payments.insert paymentId payment }) := by
  unfold createPayment newPayment
  cases moneyColumn payload.amount <;> rfl

/-- Rows that are locked. -/
inductive PaymentRow
  | payment (id : ℕ)
  | party (id : ℕ)
  deriving DecidableEq, Repr

/-- The new row, unless a column or the primary key refuses it. -/
def insertPayment (a : PaymentArgs) (paymentNumber : String) (s : State) : Except FinanceError Payment := do
  let payment ← newPayment a.caller a.payload paymentNumber
  raiseIf ((s.payments.get? a.paymentId).isSome) .integrityError
  return payment

/-- The locks of an insert: its primary key, and the party it refers to. -/
def insertLocks (paymentId : ℕ) (payment : Payment) : List (PaymentRow × LockMode) :=
  (.payment paymentId, .update) :: payment.partyId.toList.map fun id => (.party id, .keyShare)

structure PaymentWrite where
  paymentId : ℕ
  payment : Payment

def applyPayment (s : State) (w : PaymentWrite) : State :=
  { s with payments := s.payments.insert w.paymentId w.payment }

inductive PaymentLoc
  | getParty (a : PaymentArgs)
  | nextPaymentNumber (a : PaymentArgs)
  | insertPayment (a : PaymentArgs) (paymentNumber : String)
  | done

def nextPayment : PaymentLoc → State → Action PaymentRow PaymentWrite PaymentLoc
  | .getParty a, s =>
    if a.payload.partyId.all (belongs a.caller.tenantId s.parties) then .exec [] [] (.nextPaymentNumber a)
    else .rollback none
  | .nextPaymentNumber a, s =>
    .exec [] [] (.insertPayment a (nextPaymentNumber s a.caller.tenantId a.clock.year))
  | .insertPayment a paymentNumber, s =>
    match insertPayment a paymentNumber s with
    | .error _ => .rollback none
    | .ok payment => .exec (insertLocks a.paymentId payment) [⟨a.paymentId, payment⟩] .done
  | .done, _ => .commit none

def paymentSystem : System State PaymentWrite PaymentRow PaymentLoc := ⟨applyPayment, nextPayment⟩

def State.creating (s : State) (requests : List PaymentArgs) : World State PaymentWrite PaymentRow PaymentLoc :=
  ⟨s, (requests.map PaymentLoc.getParty).map .fresh, []⟩

/-- The payments as numbered documents of their tenants. -/
def State.numbered (s : State) : List (ℕ × String) := s.payments.rows.map fun r => (r.2.tenantId, r.2.paymentNumber)

def paymentFormat : ℕ → ℕ → String := labelled "PAY-" 5

theorem separates_paymentFormat : Separates paymentFormat := fun _ _ _ _ h => labelled_injective h

theorem nextPaymentNumber_eq (s : State) (tenantId year : ℕ) :
    nextPaymentNumber s tenantId year = paymentFormat year (count s.numbered tenantId + 1) := by
  have hcount : count s.numbered tenantId = (s.payments.rows.filter fun r => r.2.tenantId = tenantId).length := by
    simp [count, State.numbered, List.filter_map, Function.comp_def]
  rw [hcount]
  rfl

/-- A request commits the number that is still next. -/
def PaymentsFollow (requests : List PaymentArgs) (w : World State PaymentWrite PaymentRow PaymentLoc) : Event → Prop
  | .turn t => ∀ a ∈ requests[t]?, ∀ x ∈ w.sessions[t]?, ∀ write ∈ x.writes,
      write.payment.paymentNumber = nextPaymentNumber w.db a.caller.tenantId a.clock.year
  | .kill _ => True

instance (requests : List PaymentArgs) (w : World State PaymentWrite PaymentRow PaymentLoc) :
    ∀ e, Decidable (PaymentsFollow requests w e)
  | .turn t => inferInstanceAs (Decidable (∀ a ∈ requests[t]?, ∀ x ∈ w.sessions[t]?, ∀ write ∈ x.writes, _))
  | .kill _ => inferInstanceAs (Decidable True)

/-- What session `t` has written, and for which request. -/
inductive Creating (requests : List PaymentArgs) (t : ℕ) : Session PaymentRow PaymentWrite PaymentLoc → Prop
  | ended : Creating requests t (.closed none)
  | getParty {a : PaymentArgs} (hr : requests[t]? = some a) : Creating requests t ⟨some (.getParty a), [], []⟩
  | nextPaymentNumber {a : PaymentArgs} (hr : requests[t]? = some a) :
      Creating requests t ⟨some (.nextPaymentNumber a), [], []⟩
  | insertPayment {a : PaymentArgs} {paymentNumber : String} (hr : requests[t]? = some a) :
      Creating requests t ⟨some (.insertPayment a paymentNumber), [], []⟩
  | inserted {a : PaymentArgs} {payment : Payment} {locks : List (PaymentRow × LockMode)}
      (hr : requests[t]? = some a) (htenant : payment.tenantId = a.caller.tenantId) :
      Creating requests t ⟨some .done, locks, [⟨a.paymentId, payment⟩]⟩

section Sessions

variable {requests : List PaymentArgs} {t : ℕ} {x : Session PaymentRow PaymentWrite PaymentLoc}

theorem insertPayment_tenant {a : PaymentArgs} {paymentNumber : String} {s : State} {payment : Payment}
    (h : insertPayment a paymentNumber s = .ok payment) : payment.tenantId = a.caller.tenantId := by
  simp only [insertPayment, newPayment, bind_eq_ok, pure_eq_ok] at h
  obtain ⟨_, ⟨amount, -, rfl⟩, -, -, rfl⟩ := h
  rfl

theorem Creating.statement (hx : Creating requests t x) {v : State} {l l' : PaymentLoc}
    {locks : List (PaymentRow × LockMode)} {ws : List PaymentWrite} (hl : x.loc = some l)
    (hn : nextPayment l v = .exec locks ws l') : Creating requests t ⟨some l', x.locks ++ locks, x.writes ++ ws⟩ := by
  induction hx with
  | ended => cases hl
  | getParty hr =>
    obtain rfl := Option.some.inj hl
    simp only [nextPayment] at hn
    split at hn <;> cases hn
    exact .nextPaymentNumber hr
  | nextPaymentNumber hr =>
    obtain rfl := Option.some.inj hl
    cases hn
    exact .insertPayment hr
  | insertPayment hr =>
    obtain rfl := Option.some.inj hl
    simp only [nextPayment] at hn
    split at hn
    · cases hn
    · rename_i payment hpayment
      cases hn
      exact .inserted hr (insertPayment_tenant hpayment)
  | inserted =>
    obtain rfl := Option.some.inj hl
    cases hn

theorem nextPayment_commit {v : State} {l : PaymentLoc} {r : Option PaymentLoc} (h : nextPayment l v = .commit r) :
    l = .done ∧ r = none := by
  revert h
  fun_cases nextPayment l v <;> intro h <;> cases h
  exact ⟨rfl, rfl⟩

theorem nextPayment_rollback {v : State} {l : PaymentLoc} {r : Option PaymentLoc}
    (h : nextPayment l v = .rollback r) : r = none := by
  revert h
  fun_cases nextPayment l v <;> intro h <;> cases h <;> rfl

theorem creating_local (requests : List PaymentArgs) : SessionLocal paymentSystem (Creating requests) := by
  refine .of_next (fun hx hl hn => hx.statement hl hn) (fun _ _ hn => ?_) nextPayment_rollback .ended
  rw [(nextPayment_commit hn).2]
  exact .ended

theorem creating_start (s : State) (requests : List PaymentArgs) (t : ℕ)
    (x : Session PaymentRow PaymentWrite PaymentLoc) (hx : (s.creating requests).sessions[t]? = some x) :
    Creating requests t x := by
  simp only [State.creating, List.getElem?_map, Option.map_eq_some_iff] at hx
  obtain ⟨l, ⟨a, hr, rfl⟩, rfl⟩ := hx
  exact .getParty hr

end Sessions

theorem numbered_applyPayment (s : State) (w : PaymentWrite) : (applyPayment s w).numbered = s.numbered ∨
    (applyPayment s w).numbered = s.numbered ++ [(w.payment.tenantId, w.payment.paymentNumber)] := by
  unfold State.numbered
  simp only [applyPayment]
  rcases Table.rows_insert_cases s.payments w.paymentId w.payment with h | h
  · exact .inl (by rw [h])
  · exact .inr (by rw [h, List.map_append, List.map_singleton])

/-- Whatever the interleaving, as long as requests commit the number that is still next,
the payments are numbered in order. -/
theorem payments_inOrder {s : State} (hs : InOrder paymentFormat s.numbered) {requests : List PaymentArgs}
    {evs : List Event} {w : World State PaymentWrite PaymentRow PaymentLoc}
    (h : Run (Restrict (PaymentsFollow requests) paymentSystem.Step) (s.creating requests) evs w) :
    InOrder paymentFormat w.db.numbered := by
  refine (creating_local requests).run (I := fun d => InOrder paymentFormat d.numbered) ?_
    (creating_start s requests) hs h
  intro w t x l' hd hx hC hst ha
  obtain ⟨l, hl, hn⟩ := RowLaw.eq_some_of_action ha
  obtain ⟨rfl, -⟩ := nextPayment_commit hn
  induction hx with
  | inserted hr htenant =>
    rename_i a payment locks
    have hnumber := hC a hr _ hst ⟨a.paymentId, payment⟩ (List.mem_singleton.2 rfl)
    show InOrder paymentFormat (applyPayment w.db ⟨a.paymentId, payment⟩).numbered
    rcases numbered_applyPayment w.db ⟨a.paymentId, payment⟩ with heq | heq
    · rw [heq]
      exact hd
    · rw [heq, htenant, hnumber, nextPaymentNumber_eq]
      exact hd.next separates_paymentFormat _ _
  | _ => cases hl

/-- No two payments of a tenant have one number. -/
def UniquePaymentNumbers (s : State) : Prop :=
  ∀ id id' p p', s.payments.get? id = some p → s.payments.get? id' = some p' → id ≠ id' → p.tenantId = p'.tenantId →
    p.paymentNumber ≠ p'.paymentNumber

theorem uniquePaymentNumbers_of_inOrder {s : State} (h : InOrder paymentFormat s.numbered) :
    UniquePaymentNumbers s := by
  intro id id' p p' hp hp' hne htenant hnumber
  have hsame := List.inj_on_of_nodup_map h.distinct (Table.mem_rows.2 hp) (Table.mem_rows.2 hp')
    (by rw [htenant, hnumber])
  exact hne (congrArg Prod.fst hsame)

end CoreOps.Finance
