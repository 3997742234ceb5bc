import CoreOps.Finance.Ledger

/-! The status of an invoice and its money. Payments move the status by themselves, but an
update sets any status by hand: what keeps the two together is said of the update alone,
since every other call keeps them together whatever it is given. -/

namespace CoreOps.Finance

open Checked

/-- The statuses that no payment is allocated to. -/
def draftLike : List InvoiceStatus := [.draft, .cancelled, .void]

abbrev Allocations := Table (ℕ × ℕ) PaymentAllocation

def Unallocated (allocations : Allocations) (invoiceId : ℕ) : Prop := ∀ r ∈ allocations.rows, r.1.2 ≠ invoiceId

instance (allocations : Allocations) (invoiceId : ℕ) : Decidable (Unallocated allocations invoiceId) :=
  inferInstanceAs (Decidable (∀ r ∈ allocations.rows, r.1.2 ≠ invoiceId))

/-- The money that a status stands for: none, or the total. -/
structure Stands (allocations : Allocations) (invoiceId : ℕ) (i : Invoice) (status : InvoiceStatus) : Prop where
  none_paid : status ∈ draftLike → i.amountPaid = 0 ∧ Unallocated allocations invoiceId
  all_paid : status = .paid → 0 < i.total → i.amountPaid = i.total

/-- Draft-like invoices carry no money, and paid ones their total. -/
def MoneyFitsStatus (s : State) : Prop := ∀ id i, s.invoices.get? id = some i → Stands s.allocations id i i.status

/-! What the methods do to a status. -/

/-- The status, or overdue where it may become overdue. -/
def Refreshed (status status' : InvoiceStatus) : Prop :=
  status' = status ∨ status' = .overdue ∧ status ∉ [InvoiceStatus.paid, .cancelled, .void, .draft]

theorem refreshed_refresh (today : ℤ) (status : InvoiceStatus) (dueDate : Option ℤ) (amountPaid total : ℚ) :
    Refreshed status (refreshOverdueStatus today status dueDate amountPaid total) := by
  unfold refreshOverdueStatus
  split
  · exact .inl rfl
  · rename_i hopen
    split
    · exact .inr ⟨rfl, hopen⟩
    · exact .inl rfl

theorem Refreshed.trans {a b c : InvoiceStatus} (h : Refreshed a b) (h' : Refreshed b c) : Refreshed a c := by
  rcases h with rfl | ⟨rfl, hopen⟩
  · exact h'
  · rcases h' with rfl | ⟨rfl, -⟩ <;> exact .inr ⟨rfl, hopen⟩

theorem Refreshed.mem_draftLike {a b : InvoiceStatus} (h : Refreshed a b) : b ∈ draftLike ↔ a ∈ draftLike := by
  rcases h with rfl | ⟨rfl, hopen⟩
  · rfl
  · simp_all [draftLike]

theorem Refreshed.eq_paid {a b : InvoiceStatus} (h : Refreshed a b) : b = .paid ↔ a = .paid := by
  rcases h with rfl | ⟨rfl, hopen⟩
  · rfl
  · simp_all

/-- A status stands for what the one it was refreshed from stands for. -/
theorem Refreshed.stands_iff {a b : InvoiceStatus} (h : Refreshed a b) {allocations : Allocations} {id : ℕ}
    {i : Invoice} : Stands allocations id i b ↔ Stands allocations id i a :=
  ⟨fun hs => ⟨fun ha => hs.none_paid (h.mem_draftLike.2 ha), fun ha => hs.all_paid (h.eq_paid.2 ha)⟩,
    fun hs => ⟨fun hb => hs.none_paid (h.mem_draftLike.1 hb), fun hb => hs.all_paid (h.eq_paid.1 hb)⟩⟩

theorem issueInvoice_status {clock : Clock} {i i' : Invoice} {x y : ℚ} (h : issueInvoice clock i x y = .ok i') :
    Refreshed .issued i'.status := by
  simp only [issueInvoice, bind_eq_ok, raiseIf_eq_ok, pure_eq_ok] at h
  obtain ⟨-, -, rfl⟩ := h
  exact refreshed_refresh ..

theorem transitionStatus_status {clock : Clock} {i i' : Invoice} {status : InvoiceStatus}
    (h : transitionStatus clock i status = .ok i') : Refreshed status i'.status := by
  unfold transitionStatus at h
  split at h
  · rename_i hissue
    rw [hissue.1]
    exact issueInvoice_status h
  · simp only [bind_eq_ok, raiseIf_eq_ok, pure_eq_ok] at h
    obtain ⟨-, -, rfl⟩ := h
    exact refreshed_refresh ..

/-- An update sets the status that it is given, or leaves the one there is. -/
theorem updateInvoice_status {caller : Caller} {clock : Clock} {invoiceId : ℕ} {payload : InvoiceUpdate}
    {s s' : State} (h : updateInvoice caller clock invoiceId payload s = .ok s') :
    ∃ i i', s.invoices.get? invoiceId = some i ∧ i.tenantId = caller.tenantId ∧ i'.amountPaid = i.amountPaid ∧
      i'.total = i.total ∧ Refreshed (payload.status.getD i.status) i'.status ∧
      s' = { s with invoices := s.invoices.modify invoiceId fun _ => i' } := by
  simp only [updateInvoice, bind_eq_ok, orRaise_eq_ok, raiseIf_eq_ok, pure_eq_ok, getInvoice,
    Option.filter_eq_some_iff, decide_eq_true_eq] at h
  obtain ⟨i, ⟨hi, htenant⟩, i₁, h₁, -, -, -, -, rfl⟩ := h
  have hstatus : i₁.amountPaid = i.amountPaid ∧ i₁.total = i.total ∧
      Refreshed (payload.status.getD i.status) i₁.status := by
    rcases hs : payload.status with - | status <;> rw [hs] at h₁
    · obtain rfl := pure_eq_ok.1 h₁
      exact ⟨rfl, rfl, .inl rfl⟩
    · obtain ⟨hpaid, htotal⟩ := transitionStatus_ok h₁
      exact ⟨hpaid, htotal, transitionStatus_status h₁⟩
  refine ⟨i, _, hi, htenant, ?_, ?_, ?_, rfl⟩
  · exact hstatus.1
  · exact hstatus.2.1
  · exact hstatus.2.2.trans (refreshed_refresh ..)

theorem createInvoice_status {caller : Caller} {clock : Clock} {invoiceId : ℕ} {payload : InvoiceCreate}
    {s s' : State} (h : createInvoice caller clock invoiceId payload s = .ok s') :
    ∃ i, s.invoices.get? invoiceId = none ∧ s' = { s with invoices := s.invoices.insert invoiceId i } ∧
      i.amountPaid = 0 ∧ i.total = toCents (subtotalOf payload.lines) ∧ i.total.natAbs < 10 ^ 18 ∧
      (payload.issue = false ∧ Refreshed .draft i.status ∨ payload.issue = true ∧ Refreshed .issued i.status) := by
  obtain ⟨i, hnone, hs', hpaid, htotal, hfits⟩ := createInvoice_ok h
  refine ⟨i, hnone, hs', hpaid, htotal, hfits, ?_⟩
  simp only [createInvoice, bind_eq_ok, raiseIf_eq_ok, pure_eq_ok] at h
  obtain ⟨-, -, -, -, -, -, -, -, -, -, ⟨subtotal, lines⟩, -, total, -, i₁, hi₁, rfl⟩ := h
  have hrow : i = i₁ := by
    have hget := congrArg (fun s : State => s.invoices.get? invoiceId) hs'
    simpa [Table.get?_insert_new _ _ _ hnone, eq_comm] using hget
  rw [hrow]
  unfold issueIf at hi₁
  split at hi₁
  · rename_i hissue
    exact .inr ⟨hissue, issueInvoice_status hi₁⟩
  · rename_i hissue
    rw [pure_eq_ok] at hi₁
    rw [← hi₁]
    exact .inl ⟨by simpa using hissue, .inl rfl⟩

/-- What a payment makes of a status that it may be allocated to. -/
theorem payInvoice_status (today paid : ℤ) (x : ℚ) {i : Invoice} (hopen : i.status ∉ draftLike) :
    (payInvoice today paid x i).status ∉ draftLike ∧
      ((payInvoice today paid x i).status = .paid → ofCents i.total ≤ x ∨ i.status = .paid) := by
  have hrefresh : Refreshed (if x ≥ ofCents i.total then .paid else if x > 0 then .partial_ else i.status)
      (payInvoice today paid x i).status :=
    (refreshed_refresh ..).trans (refreshed_refresh ..)
  rw [hrefresh.mem_draftLike, hrefresh.eq_paid]
  by_cases hfull : x ≥ ofCents i.total
  · rw [if_pos hfull]
    exact ⟨by decide, fun _ => .inl hfull⟩
  · rw [if_neg hfull]
    by_cases hsome : x > 0
    · simp only [hsome, if_true]
      exact ⟨by decide, nofun⟩
    · simp only [hsome, if_false]
      exact ⟨hopen, .inr⟩

/-- The invoices of an accepted request were open to payments. -/
theorem allocateItems_open {caller : Caller} {clock : Clock} {paymentId : ℕ} {items : List PaymentAllocationItem}
    {s s' : State} {t t' : Touched} (hdistinct : (items.map (·.invoiceId)).Nodup)
    (h : items.foldlM (allocateItem caller clock paymentId) (s, t) = .ok (s', t')) :
    ∀ item ∈ items, ∀ i, s.invoices.get? item.invoiceId = some i → i.status ∉ draftLike := by
  induction items generalizing s t with
  | nil => simp
  | cons first items ih =>
    rw [List.foldlM_cons, bind_eq_ok] at h
    obtain ⟨⟨s₁, t₁⟩, h₁, h₂⟩ := h
    rw [List.map_cons, List.nodup_cons] at hdistinct
    obtain ⟨j, hj, -, -, -, hs₁, -⟩ := allocateItem_ok h₁
    simp only [allocateItem, bind_eq_ok, orRaise_eq_ok, raiseIf_eq_ok, getInvoice,
      Option.filter_eq_some_iff] at h₁
    obtain ⟨k, ⟨hk, -⟩, -, hopen, -⟩ := h₁
    intro item hitem i hi
    rcases List.mem_cons.1 hitem with rfl | hitem
    · obtain rfl := Option.some.inj (hk.symm.trans hi)
      exact hopen
    · have hne : item.invoiceId ≠ first.invoiceId := fun he =>
        hdistinct.1 (List.mem_map.2 ⟨item, hitem, he⟩)
      refine ih hdistinct.2 h₂ item hitem i ?_
      rw [hs₁, Table.get?_modify_of_ne _ hne, hi]

/-! The invariant: what a status stands for, with amounts that the columns hold. -/

structure MoneyOk (s : State) (id : ℕ) (i : Invoice) : Prop where
  nonneg : 0 ≤ i.amountPaid
  paid_fits : i.amountPaid.natAbs < 10 ^ 18
  fits : i.total.natAbs < 10 ^ 18
  stands : Stands s.allocations id i i.status

structure MoneyInv (s : State) : Prop where
  invoice : ∀ id i, s.invoices.get? id = some i → MoneyOk s id i
  refs : ∀ r ∈ s.allocations.rows, (s.invoices.get? r.1.2).isSome

theorem MoneyInv.fits (h : MoneyInv s) : MoneyFitsStatus s := fun id i hi => (h.invoice id i hi).stands

/-- An update keeps an invoice within what its new status stands for. -/
def SetsFittingStatus (s : State) : Op → Prop
  | .updateInvoice caller _ invoiceId payload => ∀ i ∈ getInvoice s caller.tenantId invoiceId,
      ∀ status ∈ payload.status, (status ∈ draftLike → i.amountPaid = 0 ∧ Unallocated s.allocations invoiceId) ∧
        (status = .paid → 0 < i.total → i.amountPaid = i.total)
  | _ => True

instance : ∀ s op, Decidable (SetsFittingStatus s op)
  | s, .updateInvoice caller _ invoiceId payload =>
    inferInstanceAs (Decidable (∀ i ∈ getInvoice s caller.tenantId invoiceId,
      ∀ status ∈ payload.status, (status ∈ draftLike → i.amountPaid = 0 ∧ Unallocated s.allocations invoiceId) ∧
        (status = .paid → 0 < i.total → i.amountPaid = i.total)))
  | _, .createInvoice .. => inferInstanceAs (Decidable True)
  | _, .createPayment .. => inferInstanceAs (Decidable True)
  | _, .allocatePayment .. => inferInstanceAs (Decidable True)

/-- What an amount within the balance makes of the amount paid. -/
theorem paid_after {paid total : ℤ} {x : ℚ} (hpaid : 0 ≤ paid) (hfits : total.natAbs < 10 ^ 18)
    (hpaidfits : paid.natAbs < 10 ^ 18) (hx : 0 < x) (hle : x ≤ sub (ofCents total) (ofCents paid)) :
    0 ≤ toCents (add (ofCents paid) x) ∧ toCents (add (ofCents paid) x) ≤ total ∧ paid < total ∧
      (ofCents total ≤ add (ofCents paid) x → toCents (add (ofCents paid) x) = total) := by
  rw [sub_ofCents hfits hpaidfits] at hle
  have hpaid' := ofCents_nonneg hpaid
  have hnn : 0 ≤ add (ofCents paid) x := Decimal.toPrecision_nonneg (by linarith)
  have hupper : toCents (add (ofCents paid) x) ≤ total := toCents_add_le hpaid' hx.le hfits (by linarith)
  refine ⟨toCents_nonneg hnn, hupper, ?_, fun hfull => le_antisymm hupper ?_⟩
  · have hlt : ofCents paid < ofCents total := by linarith
    simp only [ofCents] at hlt
    have hq : (paid : ℚ) < total := by linarith
    exact_mod_cast hq
  · refine Decimal.le_roundHalfAway (by linarith) ?_
    rw [ofCents, div_le_iff₀ (by norm_num)] at hfull
    exact hfull

/-- The invoices after an accepted request: left alone, or open to payments and paid. -/
theorem allocatePayment_invoice {caller : Caller} {clock : Clock} {paymentId : ℕ}
    {payload : PaymentAllocateRequest} {s s' : State} (ha : allocatePayment caller clock paymentId payload s = .ok s')
    {id : ℕ} {i' : Invoice} (hi' : s'.invoices.get? id = some i') :
    (id ∉ payload.allocations.map (·.invoiceId) ∧ s.invoices.get? id = some i') ∨
    ∃ item ∈ payload.allocations, item.invoiceId = id ∧ ∃ i, s.invoices.get? id = some i ∧ i.status ∉ draftLike ∧
      item.amount ≤ sub (ofCents i.total) (ofCents i.amountPaid) ∧
      i' = payInvoice clock.today (toCents (add (ofCents i.amountPaid) item.amount))
        (add (ofCents i.amountPaid) item.amount) i := by
  have ha' := ha
  obtain ⟨p, s₁, -, -, hall, rfl⟩ := allocatePayment_ok ha
  simp only [allocatePayment, bind_eq_ok] at ha'
  obtain ⟨-, -, -, -, -, -, ⟨s₂, t₂⟩, hloop, -⟩ := ha'
  have hopen := allocateItems_open hall.distinct hloop
  by_cases hid : id ∈ payload.allocations.map (·.invoiceId)
  · obtain ⟨item, hitem, rfl⟩ := List.mem_map.1 hid
    obtain ⟨i, hi, hle, hi₁⟩ := hall.paid item hitem
    obtain rfl := Option.some.inj (hi₁.symm.trans hi')
    exact .inr ⟨item, hitem, rfl, i, hi, hopen item hitem i hi, hle, rfl⟩
  · exact .inl ⟨hid, (hall.others id hid).symm.trans hi'⟩

theorem MoneyInv.allocatePayment {caller : Caller} {clock : Clock} {paymentId : ℕ}
    {payload : PaymentAllocateRequest} {s s' : State} (h : MoneyInv s)
    (ha : allocatePayment caller clock paymentId payload s = .ok s') : MoneyInv s' := by
  have hinvoice := fun id i' (hi' : s'.invoices.get? id = some i') => allocatePayment_invoice ha hi'
  obtain ⟨p, s₁, -, -, hall, rfl⟩ := allocatePayment_ok ha
  constructor
  · intro id i' hi'
    rcases hinvoice id i' hi' with ⟨hid, hi⟩ | ⟨item, -, -, i, hi, hopen, hle, rfl⟩
    · have hok := h.invoice id i' hi
      refine ⟨hok.nonneg, hok.paid_fits, hok.fits, fun hdraft => ?_, hok.stands.all_paid⟩
      obtain ⟨hzero, hun⟩ := hok.stands.none_paid hdraft
      refine ⟨hzero, fun r hr => ?_⟩
      rw [hall.rows, List.mem_append] at hr
      rcases hr with hr | hr
      · exact hun r hr
      · obtain ⟨item, hitem, rfl⟩ := List.mem_map.1 hr
        exact fun he => hid (List.mem_map.2 ⟨item, hitem, he⟩)
    · have hok := h.invoice id i hi
      obtain ⟨hnn, hupper, hlt, hfull⟩ := paid_after hok.nonneg hok.fits hok.paid_fits item.amount_pos hle
      have hnotpaid : i.status ≠ .paid := by
        intro hpaid
        have htotal := hok.stands.all_paid hpaid (by have := hok.nonneg; omega)
        omega
      obtain ⟨hstill, hpaid⟩ := payInvoice_status clock.today (toCents (add (ofCents i.amountPaid) item.amount))
        (add (ofCents i.amountPaid) item.amount) hopen
      refine ⟨hnn, ?_, hok.fits, fun hdraft => absurd hdraft hstill, fun hst _ => ?_⟩
      · have hfits := hok.fits
        simp only [payInvoice]
        omega
      · exact hfull ((hpaid hst).resolve_right hnotpaid)
  · intro r hr
    have hkept : ∀ id, (s.invoices.get? id).isSome → (s₁.invoices.get? id).isSome := by
      intro id hsome
      by_cases hid : id ∈ payload.allocations.map (·.invoiceId)
      · obtain ⟨item, hitem, rfl⟩ := List.mem_map.1 hid
        obtain ⟨j, -, -, hj'⟩ := hall.paid item hitem
        rw [hj']
        rfl
      · rwa [hall.others id hid]
    rw [hall.rows, List.mem_append] at hr
    rcases hr with hr | hr
    · exact hkept _ (h.refs r hr)
    · obtain ⟨item, hitem, rfl⟩ := List.mem_map.1 hr
      obtain ⟨j, hj, -, -⟩ := hall.paid item hitem
      exact hkept _ (by simp [allocationRow, hj])

theorem Stands.congr {allocations : Allocations} {id : ℕ} {i i' : Invoice} {status : InvoiceStatus}
    (h : Stands allocations id i status) (hpaid : i'.amountPaid = i.amountPaid) (htotal : i'.total = i.total) :
    Stands allocations id i' status := by
  refine ⟨fun hst => ?_, fun hst => ?_⟩
  · rw [hpaid]
    exact h.none_paid hst
  · rw [hpaid, htotal]
    exact h.all_paid hst

theorem MoneyInv.createInvoice {caller : Caller} {clock : Clock} {invoiceId : ℕ} {payload : InvoiceCreate}
    {s s' : State} (h : MoneyInv s) (hc : createInvoice caller clock invoiceId payload s = .ok s') :
    MoneyInv s' := by
  obtain ⟨i, hnone, rfl, hpaid, -, hfits, hstatus⟩ := createInvoice_status hc
  constructor
  · intro id j hj
    rw [Table.get?_insert_new _ _ _ hnone] at hj
    by_cases hid : id = invoiceId
    · rw [if_pos hid] at hj
      obtain rfl := Option.some.inj hj
      subst hid
      have hstands : Stands s.allocations id i i.status := by
        refine ⟨fun _ => ⟨hpaid, fun r hr he => ?_⟩, fun hst => ?_⟩
        · have hsome := h.refs r hr
          rw [he, hnone] at hsome
          cases hsome
        · rcases hstatus with ⟨-, hstatus⟩ | ⟨-, hstatus⟩ <;> cases hstatus.eq_paid.1 hst
      exact ⟨by omega, by omega, hfits, hstands⟩
    · rw [if_neg hid] at hj
      have hok := h.invoice id j hj
      exact ⟨hok.nonneg, hok.paid_fits, hok.fits, hok.stands⟩
  · intro r hr
    rw [Table.get?_insert_new _ _ _ hnone]
    split
    · rfl
    · exact h.refs r hr

/-- The condition on an update is exact. -/
theorem stands_updateInvoice_iff {caller : Caller} {clock : Clock} {invoiceId : ℕ} {payload : InvoiceUpdate}
    {s s' : State} (h : MoneyInv s) (hu : updateInvoice caller clock invoiceId payload s = .ok s') :
    (∀ i, s'.invoices.get? invoiceId = some i → Stands s'.allocations invoiceId i i.status) ↔
      SetsFittingStatus s (.updateInvoice caller clock invoiceId payload) := by
  obtain ⟨i, i', hi, htenant, hpaid, htotal, hrefresh, rfl⟩ := updateInvoice_status hu
  have hget : getInvoice s caller.tenantId invoiceId = some i := by simp [getInvoice, hi, htenant]
  have hafter : (∀ j, (s.invoices.modify invoiceId fun _ => i').get? invoiceId = some j →
      Stands s.allocations invoiceId j j.status) ↔
      Stands s.allocations invoiceId i (payload.status.getD i.status) := by
    rw [Table.get?_modify_self, hi, Option.map_some]
    refine ⟨fun hall => ?_, fun hstands j hj => ?_⟩
    · exact hrefresh.stands_iff.1 ((hall i' rfl).congr hpaid.symm htotal.symm)
    · obtain rfl := Option.some.inj hj
      exact hrefresh.stands_iff.2 (hstands.congr hpaid htotal)
  rw [hafter]
  simp only [SetsFittingStatus, hget, Option.mem_def, Option.some.injEq, forall_eq']
  rcases payload.status with - | status
  · simpa using (h.invoice invoiceId i hi).stands
  · simp only [Option.some.injEq, forall_eq', Option.getD_some]
    exact ⟨fun hs => ⟨hs.none_paid, hs.all_paid⟩, fun hs => ⟨hs.1, hs.2⟩⟩

theorem MoneyInv.updateInvoice {caller : Caller} {clock : Clock} {invoiceId : ℕ} {payload : InvoiceUpdate}
    {s s' : State} (h : MoneyInv s) (hset : SetsFittingStatus s (.updateInvoice caller clock invoiceId payload))
    (hu : updateInvoice caller clock invoiceId payload s = .ok s') : MoneyInv s' := by
  have hstands := (stands_updateInvoice_iff h hu).2 hset
  obtain ⟨i, i', hi, -, hpaid, htotal, -, rfl⟩ := updateInvoice_status hu
  constructor
  · intro id j hj
    by_cases hid : id = invoiceId
    · subst hid
      have hj' := hj
      rw [Table.get?_modify_self, hi, Option.map_some] at hj
      obtain rfl := Option.some.inj hj
      have hok := h.invoice id i hi
      exact ⟨hpaid ▸ hok.nonneg, hpaid ▸ hok.paid_fits, htotal ▸ hok.fits, hstands _ hj'⟩
    · rw [Table.get?_modify_of_ne _ hid] at hj
      have hok := h.invoice id j hj
      exact ⟨hok.nonneg, hok.paid_fits, hok.fits, hok.stands⟩
  · intro r hr
    rw [Table.get?_modify]
    have hsome := h.refs r hr
    split <;> simpa using hsome

theorem MoneyInv.exec {s s' : State} {op : Op} (h : MoneyInv s) (hset : SetsFittingStatus s op)
    (he : exec s op = .ok s') : MoneyInv s' := by
  cases op with
  | createInvoice caller clock invoiceId payload => exact h.createInvoice he
  | updateInvoice caller clock invoiceId payload => exact h.updateInvoice hset he
  | createPayment caller clock paymentId payload =>
    obtain ⟨p, -, -, -, -, rfl⟩ := createPayment_ok he
    exact ⟨fun id i hi => ⟨(h.invoice id i hi).nonneg, (h.invoice id i hi).paid_fits, (h.invoice id i hi).fits,
      (h.invoice id i hi).stands⟩, h.refs⟩
  | allocatePayment caller clock paymentId payload => exact h.allocatePayment he

theorem MoneyInv.noBooks (s : State) : MoneyInv s.noBooks :=
  ⟨fun _ _ h => (nomatch h), fun _ h => (nomatch h)⟩

theorem MoneyInv.run {s₀ s : State} {ops : List Op} (h0 : MoneyInv s₀)
    (h : Run (Restrict SetsFittingStatus (CallStep Finance.exec)) s₀ ops s) : MoneyInv s := by
  refine h.invariant_restrict MoneyInv h0 ?_
  rintro s op s' hi hset rfl
  exact settle_keeps hi fun s' he => hi.exec hset he

/-- As long as no update sets a status that the invoice's money does not fit, draft-like
invoices carry no money and no allocations, and paid ones their total. -/
theorem money_fits_status (s₀ s : State) (ops : List Op)
    (h : Run (Restrict SetsFittingStatus (CallStep exec)) s₀.noBooks ops s) : MoneyFitsStatus s :=
  ((MoneyInv.noBooks s₀).run h).fits

section Examples

/-- The whole of payment 3 to invoice 1. -/
def payInFull : PaymentAllocateRequest := ⟨[⟨1, 10, none, demoPayment.amount_pos⟩], by simp⟩

def setStatus (status : InvoiceStatus) : InvoiceUpdate := ⟨some status, none, none, none, none⟩

/-- An invoice, paid in full and then set to a status. -/
def paidThenSet (status : InvoiceStatus) : List Op :=
  [.createInvoice demoCaller demoClock 1 demoInvoice, .createPayment demoCaller demoClock 3 demoPayment,
    .allocatePayment demoCaller demoClock 3 payInFull, .updateInvoice demoCaller demoClock 1 (setStatus status)]

/-- An invoice, set to paid by hand. -/
def setPaid : List Op :=
  [.createInvoice demoCaller demoClock 1 demoInvoice, .updateInvoice demoCaller demoClock 1 (setStatus .paid)]

/-- A paid invoice goes back to draft with its payment, and one is paid with nothing. -/
theorem status_without_its_money :
    (∃ s, Run (CallStep exec) demoState.noBooks (paidThenSet .draft) s ∧ ¬ MoneyFitsStatus s) ∧
    ∃ s, Run (CallStep exec) demoState.noBooks setPaid s ∧ ¬ MoneyFitsStatus s := by
  refine ⟨⟨_, Run.of_foldl, fun h => ?_⟩, ⟨_, Run.of_foldl, fun h => ?_⟩⟩
  · generalize hs : (paidThenSet .draft).foldl (settle exec) demoState.noBooks = s at h
    have hkey : (s.invoices.get? 1).map (fun i => (i.status, i.amountPaid)) = some (.draft, 1000) := by
      rw [← hs]
      decide +kernel
    obtain ⟨i, hi, hrow⟩ := Option.map_eq_some_iff.1 hkey
    obtain ⟨hstatus, hpaid⟩ := Prod.mk.inj hrow
    have hzero := ((h 1 i hi).none_paid (by rw [hstatus]; decide)).1
    omega
  · generalize hs : setPaid.foldl (settle exec) demoState.noBooks = s at h
    have hkey : (s.invoices.get? 1).map (fun i => (i.status, i.amountPaid, i.total)) = some (.paid, 0, 1000) := by
      rw [← hs]
      decide +kernel
    obtain ⟨i, hi, hrow⟩ := Option.map_eq_some_iff.1 hkey
    obtain ⟨hstatus, hpaid, htotal⟩ : i.status = .paid ∧ i.amountPaid = 0 ∧ i.total = 1000 := by simpa using hrow
    have hall := (h 1 i hi).all_paid hstatus (by omega)
    omega

/-- The theorem where the paid invoice is set to sent. -/
theorem money_fits_status_sent : ∃ s, Run (Restrict SetsFittingStatus (CallStep exec)) demoState.noBooks
    (paidThenSet .sent) s ∧ (s.invoices.get? 1).map (fun i => (i.status, i.amountPaid)) = some (.sent, 1000) ∧
    MoneyFitsStatus s := by
  have hrun : Run (Restrict SetsFittingStatus (CallStep exec)) demoState.noBooks (paidThenSet .sent)
      ((paidThenSet .sent).foldl (settle exec) demoState.noBooks) :=
    Run.cons ⟨trivial, rfl⟩ (Run.cons ⟨trivial, rfl⟩ (Run.cons ⟨trivial, rfl⟩
      (Run.single ⟨by decide +kernel, rfl⟩)))
  exact ⟨_, hrun, by decide +kernel, money_fits_status _ _ _ hrun⟩

end Examples

end CoreOps.Finance
