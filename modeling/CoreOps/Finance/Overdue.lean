import CoreOps.Finance.Summary

/-! When a stored OVERDUE is true. The status is entered by itself and by hand, and nothing
takes it away when the due date moves; the receivables decide by the due date. The two agree
over runs on days that do not go back, as long as no update leaves OVERDUE on an invoice that
is not, and no payment leaves a balance that its column rounds away. -/

namespace CoreOps.Finance

open Checked

def Op.clock : Op → Clock
  | .createInvoice _ clock _ _ => clock
  | .updateInvoice _ clock _ _ => clock
  | .createPayment _ clock _ _ => clock
  | .allocatePayment _ clock _ _ => clock

/-- The books and the day of the last call. -/
structure Dated where
  state : State
  today : ℤ

/-- A call on a day no earlier than the last one. -/
def DatedStep (c : Dated) (op : Op) (c' : Dated) : Prop :=
  c.today ≤ op.clock.today ∧ c' = ⟨settle exec c.state op, op.clock.today⟩

/-- Money is owed on the invoice past a due date. -/
def OwedPast (today : ℤ) (dueDate : Option ℤ) (i : Invoice) : Prop :=
  dueDate.any (· < today) = true ∧ i.amountPaid < i.total

instance (today : ℤ) (dueDate : Option ℤ) (i : Invoice) : Decidable (OwedPast today dueDate i) :=
  inferInstanceAs (Decidable (_ ∧ _))

/-- Every invoice stored as OVERDUE is owed past its due date, and the receivables list it
as overdue, today and later. -/
def OverdueAccurate (c : Dated) : Prop :=
  ∀ id i, c.state.invoices.get? id = some i → i.status = .overdue → OwedPast c.today i.dueDate i ∧
    ∀ today, c.today ≤ today → receivableOf today (id, i) ∈ listReceivables today i.tenantId c.state ∧
      (receivableOf today (id, i)).isOverdue = true

/-- The statuses that do not become overdue by themselves. -/
def closedStatuses : List InvoiceStatus := [.paid, .cancelled, .void, .draft]

/-- An update that ends in OVERDUE whatever due date it sets: it leaves OVERDUE alone, sets
it, or sets an open status while money is owed past the due date stored before. -/
def CallsOverdue (today : ℤ) (i : Invoice) : Option InvoiceStatus → Prop
  | none => i.status = .overdue
  | some status => status = .overdue ∨ status ∉ closedStatuses ∧ OwedPast today i.dueDate i

instance (today : ℤ) (i : Invoice) : ∀ status, Decidable (CallsOverdue today i status)
  | none => inferInstanceAs (Decidable (i.status = .overdue))
  | some _ => inferInstanceAs (Decidable (_ ∨ _ ∧ _))

/-- An update calls overdue only what is owed past the due date it leaves, and a payment past
the due date leaves no balance that its column rounds to nothing. -/
def KeepsOverdue (s : State) : Op → Prop
  | .updateInvoice caller clock invoiceId payload => ∀ i ∈ getInvoice s caller.tenantId invoiceId,
      CallsOverdue clock.today i payload.status → OwedPast clock.today (payload.dueDate.or i.dueDate) i
  | .allocatePayment _ clock _ payload => ∀ item ∈ payload.allocations, ∀ i ∈ s.invoices.get? item.invoiceId,
      i.dueDate.any (· < clock.today) = true → add (ofCents i.amountPaid) item.amount < ofCents i.total →
        toCents (add (ofCents i.amountPaid) item.amount) < i.total
  | _ => True

instance : ∀ s op, Decidable (KeepsOverdue s op)
  | s, .updateInvoice caller clock invoiceId payload =>
    inferInstanceAs (Decidable (∀ i ∈ getInvoice s caller.tenantId invoiceId,
      CallsOverdue clock.today i payload.status → OwedPast clock.today (payload.dueDate.or i.dueDate) i))
  | s, .allocatePayment _ clock _ payload =>
    inferInstanceAs (Decidable (∀ item ∈ payload.allocations, ∀ i ∈ s.invoices.get? item.invoiceId,
      i.dueDate.any (· < clock.today) = true → add (ofCents i.amountPaid) item.amount < ofCents i.total →
        toCents (add (ofCents i.amountPaid) item.amount) < i.total))
  | _, .createInvoice .. => inferInstanceAs (Decidable True)
  | _, .createPayment .. => inferInstanceAs (Decidable True)

/-! What the methods make of a status. -/

theorem refreshOverdueStatus_eq_overdue {today : ℤ} {status : InvoiceStatus} {dueDate : Option ℤ} {paid total : ℚ} :
    refreshOverdueStatus today status dueDate paid total = .overdue ↔
      status = .overdue ∨ status ∉ closedStatuses ∧ dueDate.any (· < today) = true ∧ paid < total := by
  show (if status ∈ closedStatuses then _ else _) = _ ↔ _
  by_cases hclosed : status ∈ closedStatuses
  · rw [if_pos hclosed]
    simp [hclosed]
  · rw [if_neg hclosed]
    by_cases howed : dueDate.any (· < today) = true ∧ paid < total
    · rw [if_pos howed]
      simp [hclosed, howed]
    · rw [if_neg howed]
      simp [howed]

theorem ofCents_lt_ofCents {a b : ℤ} : ofCents a < ofCents b ↔ a < b := by
  rw [ofCents, ofCents, div_lt_div_iff_of_pos_right (by norm_num)]
  exact Int.cast_lt

theorem applyStatus_ok {clock : Clock} {i i' : Invoice} {status : Option InvoiceStatus}
    (h : applyStatus clock i status = .ok i') :
    i'.dueDate = i.dueDate ∧ i'.amountPaid = i.amountPaid ∧ i'.total = i.total ∧ i'.tenantId = i.tenantId ∧
      i'.currency = i.currency ∧ (i'.status = .overdue ↔ CallsOverdue clock.today i status) := by
  cases status with
  | none =>
    rw [← pure_eq_ok.1 h]
    exact ⟨rfl, rfl, rfl, rfl, rfl, Iff.rfl⟩
  | some status =>
    have hrefresh : ∀ st, refreshOverdueStatus clock.today st i.dueDate (ofCents i.amountPaid) (ofCents i.total) =
        .overdue ↔ CallsOverdue clock.today i (some st) := by
      intro st
      rw [refreshOverdueStatus_eq_overdue, ofCents_lt_ofCents]
      rfl
    simp only [applyStatus, transitionStatus] at h
    split at h
    · rename_i hissue
      simp only [issueInvoice, bind_eq_ok, raiseIf_eq_ok, pure_eq_ok] at h
      obtain ⟨-, -, rfl⟩ := h
      obtain ⟨rfl, -⟩ := hissue
      exact ⟨rfl, rfl, rfl, rfl, rfl, hrefresh .issued⟩
    · simp only [bind_eq_ok, raiseIf_eq_ok, pure_eq_ok] at h
      obtain ⟨-, -, rfl⟩ := h
      exact ⟨rfl, rfl, rfl, rfl, rfl, hrefresh status⟩

/-- An accepted update: the row, and whether it comes out OVERDUE. -/
theorem updateInvoice_overdue {caller : Caller} {clock : Clock} {invoiceId : ℕ} {payload : InvoiceUpdate}
    {s s' : State} (h : updateInvoice caller clock invoiceId payload s = .ok s') :
    ∃ i i', getInvoice s caller.tenantId invoiceId = some i ∧ s.invoices.get? invoiceId = some i ∧
      i'.dueDate = payload.dueDate.or i.dueDate ∧ i'.amountPaid = i.amountPaid ∧ i'.total = i.total ∧
      (i'.status = .overdue → CallsOverdue clock.today i payload.status ∨ OwedPast clock.today i'.dueDate i') ∧
      (CallsOverdue clock.today i payload.status → i'.status = .overdue) ∧
      s' = { s with invoices := s.invoices.modify invoiceId fun _ => i' } := by
  simp only [updateInvoice, bind_eq_ok, orRaise_eq_ok, raiseIf_eq_ok, pure_eq_ok] at h
  obtain ⟨i, hget, i₁, h₁, -, -, -, -, rfl⟩ := h
  obtain ⟨hdue, hpaid, htotal, -, -, hcalls⟩ := applyStatus_ok h₁
  have hi : s.invoices.get? invoiceId = some i := (Option.filter_eq_some_iff.1 hget).1
  refine ⟨i, _, hget, hi, ?_, ?_, ?_, ?_, ?_, rfl⟩
  · rw [hdue]
  · exact hpaid
  · exact htotal
  · intro hst
    rcases refreshOverdueStatus_eq_overdue.1 hst with hst | ⟨-, hdue', howed⟩
    · exact .inl (hcalls.1 hst)
    · exact .inr ⟨hdue', ofCents_lt_ofCents.1 howed⟩
  · exact fun hcall => refreshOverdueStatus_eq_overdue.2 (.inl (hcalls.2 hcall))

/-- The sum of line totals, however large, is a whole number of cents. -/
theorem exists_subtotal_eq (lines : List InvoiceLineCreate) : ∃ c, subtotalOf lines = ofCents c := by
  have hfold : ∀ c, ∃ c', lines.foldl (fun acc l =>
      add acc (ofCents (Decimal.roundHalfEven (mul l.quantity l.unitPrice * 100)))) (ofCents c) = ofCents c' := by
    induction lines with
    | nil => exact fun c => ⟨c, rfl⟩
    | cons line lines ih =>
      intro c
      rw [List.foldl_cons]
      generalize Decimal.roundHalfEven (mul line.quantity line.unitPrice * 100) = d
      have hsum : ofCents c + ofCents d = ((c + d : ℤ) : ℚ) * 10 ^ (-((2 : ℕ) : ℤ)) := by
        rw [ofCents_eq, ofCents_eq]
        push_cast
        ring
      obtain ⟨m, hm⟩ := Decimal.exists_toPrecision_eq (p := 28) (s := 2) (by norm_num) (c + d)
      have hadd : add (ofCents c) (ofCents d) = ofCents m := by
        rw [add, hsum, hm, ofCents_eq]
      rw [hadd]
      exact ih m
  obtain ⟨c, hc⟩ := hfold 0
  have hzero : ofCents 0 = 0 := by simp [ofCents]
  rw [hzero] at hc
  exact ⟨c, hc⟩

/-- A new invoice is OVERDUE only when its total is owed past its due date. -/
theorem createInvoice_overdue {caller : Caller} {clock : Clock} {invoiceId : ℕ} {payload : InvoiceCreate}
    {s s' : State} (h : createInvoice caller clock invoiceId payload s = .ok s') :
    ∃ i, s.invoices.get? invoiceId = none ∧ s' = { s with invoices := s.invoices.insert invoiceId i } ∧
      (i.status = .overdue → OwedPast clock.today i.dueDate i) := by
  simp only [createInvoice, bind_eq_ok, raiseIf_eq_ok, pure_eq_ok, not_or, Option.not_isSome_iff_eq_none] at h
  obtain ⟨-, -, -, -, -, -, -, -, -, ⟨hnone, -⟩, ⟨subtotal, lines⟩, hlines, total, htotal, i, hi, rfl⟩ := h
  refine ⟨i, hnone, rfl, fun hst => ?_⟩
  have hsub : subtotal = subtotalOf payload.lines := createInvoiceLines_subtotal hlines
  obtain ⟨c, hc⟩ := exists_subtotal_eq payload.lines
  obtain ⟨rfl, -⟩ := moneyColumn_ok htotal
  rw [hsub, hc] at hi
  unfold issueIf at hi
  split at hi
  · simp only [issueInvoice, bind_eq_ok, raiseIf_eq_ok, pure_eq_ok] at hi
    obtain ⟨-, -, rfl⟩ := hi
    have hissued : refreshOverdueStatus clock.today .issued payload.dueDate 0 (ofCents c) = .overdue := hst
    rcases refreshOverdueStatus_eq_overdue.1 hissued with hissued | ⟨-, hdue, howed⟩
    · cases hissued
    · refine ⟨hdue, ?_⟩
      have hzero : (0 : ℚ) = ofCents 0 := by simp [ofCents]
      rw [hzero, ofCents_lt_ofCents] at howed
      rw [toCents_ofCents]
      exact howed
  · obtain rfl := pure_eq_ok.1 hi
    cases hst

/-- A payment leaves OVERDUE only where the session holds less than the total past the due date. -/
theorem payInvoice_overdue {today amountPaid : ℤ} {x : ℚ} {i : Invoice} (hx : 0 < x)
    (hst : (payInvoice today amountPaid x i).status = .overdue) :
    i.dueDate.any (· < today) = true ∧ x < ofCents i.total := by
  rcases refreshOverdueStatus_eq_overdue.1 hst with hst | ⟨-, howed⟩
  · rcases refreshOverdueStatus_eq_overdue.1 hst with hst | ⟨-, howed⟩
    · by_cases hfull : x ≥ ofCents i.total
      · rw [if_pos hfull] at hst
        cases hst
      · rw [if_neg hfull, if_pos hx] at hst
        cases hst
    · exact howed
  · exact howed

/-! The invariant. The amounts paid are not negative, so a payment always leaves something
paid. -/

structure OverdueInv (c : Dated) : Prop where
  owed : ∀ id i, c.state.invoices.get? id = some i → i.status = .overdue → OwedPast c.today i.dueDate i
  nonneg : ∀ id i, c.state.invoices.get? id = some i → 0 ≤ i.amountPaid

theorem OwedPast.later {today today' : ℤ} {dueDate : Option ℤ} {i : Invoice} (h : OwedPast today dueDate i)
    (hle : today ≤ today') : OwedPast today' dueDate i := by
  obtain ⟨hdue, howed⟩ := h
  refine ⟨?_, howed⟩
  cases dueDate with
  | none => cases hdue
  | some d =>
    have hd : d < today := of_decide_eq_true hdue
    exact decide_eq_true (hd.trans_le hle)

theorem OverdueInv.later {c : Dated} (h : OverdueInv c) {today : ℤ} (hle : c.today ≤ today) :
    OverdueInv ⟨c.state, today⟩ :=
  ⟨fun id i hi hst => (h.owed id i hi hst).later hle, h.nonneg⟩

theorem OverdueInv.createInvoice {s s' : State} {caller : Caller} {clock : Clock} {invoiceId : ℕ}
    {payload : InvoiceCreate} (h : OverdueInv ⟨s, clock.today⟩)
    (hc : createInvoice caller clock invoiceId payload s = .ok s') : OverdueInv ⟨s', clock.today⟩ := by
  obtain ⟨i, hnone, rfl, hover⟩ := createInvoice_overdue hc
  obtain ⟨j, -, heq, hpaid, -, -⟩ := createInvoice_ok hc
  -- both lemmas speak of the one new row
  have hij : i = j := by
    have hget := congrArg (fun s : State => s.invoices.get? invoiceId) heq
    simpa [Table.get?_insert_new _ _ _ hnone] using hget
  refine ⟨fun id k hk hst => ?_, fun id k hk => ?_⟩
  · rw [Table.get?_insert_new _ _ _ hnone] at hk
    split at hk
    · obtain rfl := Option.some.inj hk
      exact hover hst
    · exact h.owed id k hk hst
  · rw [Table.get?_insert_new _ _ _ hnone] at hk
    split at hk
    · obtain rfl := Option.some.inj hk
      rw [hij, hpaid]
    · exact h.nonneg id k hk

theorem OverdueInv.updateInvoice {s s' : State} {caller : Caller} {clock : Clock} {invoiceId : ℕ}
    {payload : InvoiceUpdate} (h : OverdueInv ⟨s, clock.today⟩)
    (hkeeps : KeepsOverdue s (.updateInvoice caller clock invoiceId payload))
    (hu : updateInvoice caller clock invoiceId payload s = .ok s') : OverdueInv ⟨s', clock.today⟩ := by
  obtain ⟨i, i', hget, hi, hdue, hpaid, htotal, hover, -, rfl⟩ := updateInvoice_overdue hu
  refine ⟨fun id k hk hst => ?_, fun id k hk => ?_⟩
  · by_cases hid : id = invoiceId
    · subst hid
      rw [Table.get?_modify_self, hi, Option.map_some] at hk
      obtain rfl := Option.some.inj hk
      rcases hover hst with hcall | howed
      · obtain ⟨hpast, howed⟩ := hkeeps i hget hcall
        refine ⟨?_, ?_⟩
        · rw [hdue]
          exact hpast
        · rw [hpaid, htotal]
          exact howed
      · exact howed
    · rw [Table.get?_modify_of_ne _ hid] at hk
      exact h.owed id k hk hst
  · by_cases hid : id = invoiceId
    · subst hid
      rw [Table.get?_modify_self, hi, Option.map_some] at hk
      obtain rfl := Option.some.inj hk
      rw [hpaid]
      exact h.nonneg id i hi
    · rw [Table.get?_modify_of_ne _ hid] at hk
      exact h.nonneg id k hk

/-- The condition on an update is exact. -/
theorem owedPast_updateInvoice_iff {s s' : State} {caller : Caller} {clock : Clock} {invoiceId : ℕ}
    {payload : InvoiceUpdate} (hu : updateInvoice caller clock invoiceId payload s = .ok s') :
    (∀ i', s'.invoices.get? invoiceId = some i' → i'.status = .overdue → OwedPast clock.today i'.dueDate i') ↔
      KeepsOverdue s (.updateInvoice caller clock invoiceId payload) := by
  obtain ⟨i, i', hget, hi, hdue, hpaid, htotal, hover, hcalled, rfl⟩ := updateInvoice_overdue hu
  have hiff : OwedPast clock.today i'.dueDate i' ↔ OwedPast clock.today (payload.dueDate.or i.dueDate) i := by
    rw [OwedPast, hdue, hpaid, htotal]
    rfl
  rw [Table.get?_modify_self, hi, Option.map_some]
  simp only [KeepsOverdue, hget, Option.mem_def, Option.some.injEq, forall_eq']
  constructor
  · intro hall hcall
    exact hiff.1 (hall (hcalled hcall))
  · intro hkeeps hst
    rcases hover hst with hcall | howed
    · exact hiff.2 (hkeeps hcall)
    · exact howed

theorem OverdueInv.allocatePayment {s s' : State} {caller : Caller} {clock : Clock} {paymentId : ℕ}
    {payload : PaymentAllocateRequest} (h : OverdueInv ⟨s, clock.today⟩)
    (hkeeps : KeepsOverdue s (.allocatePayment caller clock paymentId payload))
    (ha : allocatePayment caller clock paymentId payload s = .ok s') : OverdueInv ⟨s', clock.today⟩ := by
  have hpositive : ∀ (i : Invoice) (item : PaymentAllocationItem), 0 ≤ i.amountPaid →
      0 < add (ofCents i.amountPaid) item.amount := by
    intro i item hnn
    have hpaid := ofCents_nonneg hnn
    have hamount := item.amount_pos
    exact Decimal.toPrecision_pos (by norm_num) (by linarith)
  refine ⟨fun id k hk hst => ?_, fun id k hk => ?_⟩
  · rcases allocatePayment_invoice ha hk with ⟨-, hk⟩ | ⟨item, hitem, rfl, i, hi, -, -, rfl⟩
    · exact h.owed id k hk hst
    · obtain ⟨hdue, hlt⟩ := payInvoice_overdue (hpositive i item (h.nonneg _ i hi)) hst
      exact ⟨hdue, hkeeps item hitem i hi hdue hlt⟩
  · rcases allocatePayment_invoice ha hk with ⟨-, hk⟩ | ⟨item, hitem, rfl, i, hi, -, -, rfl⟩
    · exact h.nonneg id k hk
    · exact toCents_nonneg (hpositive i item (h.nonneg _ i hi)).le

theorem OverdueInv.exec {s s' : State} {op : Op} (h : OverdueInv ⟨s, op.clock.today⟩) (hkeeps : KeepsOverdue s op)
    (he : exec s op = .ok s') : OverdueInv ⟨s', op.clock.today⟩ := by
  cases op with
  | createInvoice caller clock invoiceId payload => exact h.createInvoice he
  | updateInvoice caller clock invoiceId payload => exact h.updateInvoice hkeeps he
  | createPayment caller clock paymentId payload =>
    obtain ⟨p, -, -, -, -, rfl⟩ := createPayment_ok he
    exact ⟨h.owed, h.nonneg⟩
  | allocatePayment caller clock paymentId payload => exact h.allocatePayment hkeeps he

/-- What is owed past its due date is among the receivables, and overdue there. -/
theorem OverdueInv.accurate {c : Dated} (h : OverdueInv c) : OverdueAccurate c := by
  intro id i hi hst
  have howed := h.owed id i hi hst
  refine ⟨howed, fun today hle => ?_⟩
  obtain ⟨hdue, hlt⟩ := howed.later hle
  constructor
  · have hbalance : 0 < balanceOf i := by
      refine Decimal.toPrecision_pos (by norm_num) ?_
      have hlt' := ofCents_lt_ofCents.2 hlt
      linarith
    have hlisted : (id, i) ∈ listReceivableInvoices c.state i.tenantId := by
      refine (List.mem_insertionSort _).2 (List.mem_filter.2 ⟨Table.mem_rows.2 hi, ?_⟩)
      simp [hst, receivableStatuses]
    exact List.mem_map.2 ⟨(id, i), List.mem_filter.2 ⟨hlisted, decide_eq_true hbalance⟩, rfl⟩
  · show (i.dueDate.any (· < today) && decide (i.status ≠ .paid)) = true
    rw [hdue, hst]
    rfl

theorem OverdueInv.noBooks (s : State) (today : ℤ) : OverdueInv ⟨s.noBooks, today⟩ := by
  constructor
  · intro id i hi
    cases hi
  · intro id i hi
    cases hi

/-- As long as no update leaves OVERDUE on an invoice that is not owed past its due date,
and no late payment leaves a balance that rounds to nothing, every invoice stored as OVERDUE
is owed past its due date, and the receivables say so. -/
theorem overdue_accurate (s₀ : State) (start : ℤ) (ops : List Op) (c : Dated)
    (h : Run (Restrict (fun c op => KeepsOverdue c.state op) DatedStep) ⟨s₀.noBooks, start⟩ ops c) :
    OverdueAccurate c := by
  refine (h.invariant_restrict OverdueInv (OverdueInv.noBooks s₀ start) ?_).accurate
  rintro c op c' hinv hkeeps ⟨hle, rfl⟩
  have hlater := hinv.later hle
  exact settle_keeps (I := fun s' => OverdueInv ⟨s', op.clock.today⟩) hlater fun s' he => hlater.exec hkeeps he

section Examples

/-- An issued invoice of 10.00 that was due 1000 days ago. -/
def lateInvoice : InvoiceCreate :=
  ⟨1, none, none, none, none, "RUB", some 19000, none, [⟨none, "Service", 1, 10, 0, single_quantity_pos⟩], true,
    List.cons_ne_nil _ _⟩

def moveDueDate (dueDate : ℤ) (status : Option InvoiceStatus) : InvoiceUpdate :=
  ⟨status, some dueDate, none, none, none⟩

theorem most_of_it_pos : (0 : ℚ) < 9995 / 1000 := by norm_num

def payAlmost : PaymentAllocateRequest := ⟨[⟨1, 9995 / 1000, none, most_of_it_pos⟩], List.cons_ne_nil _ _⟩

def runDated (ops : List Op) : Dated :=
  ops.foldl (fun c op => ⟨settle exec c.state op, op.clock.today⟩) ⟨demoState.noBooks, 20000⟩

/-- The due date of an overdue invoice is moved to a day to come. -/
def movedOps : List Op :=
  [.createInvoice demoCaller demoClock 1 lateInvoice,
    .updateInvoice demoCaller demoClock 1 (moveDueDate 20100 (some .sent))]

/-- An invoice without a due date is set to OVERDUE. -/
def setOps : List Op :=
  [.createInvoice demoCaller demoClock 1 demoInvoice, .updateInvoice demoCaller demoClock 1 (setStatus .overdue)]

/-- An overdue invoice of 10.00 is paid 9.995. -/
def almostOps : List Op :=
  [.createInvoice demoCaller demoClock 1 lateInvoice, .createPayment demoCaller demoClock 3 demoPayment,
    .allocatePayment demoCaller demoClock 3 payAlmost]

theorem run_runDated (ops : List Op) (hclock : ∀ op ∈ ops, op.clock.today = 20000) :
    Run DatedStep ⟨demoState.noBooks, 20000⟩ ops (runDated ops) := by
  have hfold : ∀ (c : Dated), c.today = 20000 →
      Run DatedStep c ops (ops.foldl (fun c op => ⟨settle exec c.state op, op.clock.today⟩) c) := by
    induction ops with
    | nil => exact fun c _ => .nil
    | cons op ops ih =>
      intro c hc
      have hop : op.clock.today = 20000 := hclock op List.mem_cons_self
      refine Run.cons ⟨?_, rfl⟩ (ih (fun op' h' => hclock op' (List.mem_cons_of_mem _ h')) _ hop)
      rw [hc, hop]
  exact hfold _ rfl

/-- What a run stores of invoice 1 that is OVERDUE though nothing is owed past a due date. -/
def wronglyOverdue (c : Dated) : Bool :=
  (c.state.invoices.get? 1).any fun i => i.status = .overdue && !decide (OwedPast c.today i.dueDate i)

theorem not_accurate_of_wronglyOverdue {c : Dated} (h : wronglyOverdue c = true) : ¬ OverdueAccurate c := by
  intro hacc
  obtain ⟨i, hi, hwrong⟩ := (Option.any_eq_true _ _).1 h
  obtain ⟨hst, hnot⟩ := Bool.and_eq_true_iff.1 hwrong
  have howed := (hacc 1 i hi (of_decide_eq_true hst)).1
  rw [decide_eq_true howed] at hnot
  cases hnot

/-- A due date moved to a day to come, a status set by hand and a payment that leaves half a
cent: each leaves OVERDUE where nothing is owed past a due date. -/
theorem overdue_without_debt :
    (∃ c, Run DatedStep ⟨demoState.noBooks, 20000⟩ movedOps c ∧ ¬ OverdueAccurate c) ∧
    (∃ c, Run DatedStep ⟨demoState.noBooks, 20000⟩ setOps c ∧ ¬ OverdueAccurate c) ∧
    ∃ c, Run DatedStep ⟨demoState.noBooks, 20000⟩ almostOps c ∧ ¬ OverdueAccurate c := by
  refine ⟨⟨_, run_runDated movedOps (by decide), not_accurate_of_wronglyOverdue ?_⟩,
    ⟨_, run_runDated setOps (by decide), not_accurate_of_wronglyOverdue ?_⟩,
    ⟨_, run_runDated almostOps (by decide), not_accurate_of_wronglyOverdue ?_⟩⟩
  · decide +kernel
  · decide +kernel
  · decide +kernel

/-- The theorem where the late invoice is set to sent, and stays OVERDUE. -/
theorem overdue_accurate_sent : ∃ c,
    Run (Restrict (fun c op => KeepsOverdue c.state op) DatedStep) ⟨demoState.noBooks, 20000⟩
      [.createInvoice demoCaller demoClock 1 lateInvoice, .updateInvoice demoCaller demoClock 1 (setStatus .sent)] c ∧
    (c.state.invoices.get? 1).map (·.status) = some .overdue ∧ OverdueAccurate c := by
  have hrun : Run (Restrict (fun c op => KeepsOverdue c.state op) DatedStep) ⟨demoState.noBooks, 20000⟩
      [.createInvoice demoCaller demoClock 1 lateInvoice, .updateInvoice demoCaller demoClock 1 (setStatus .sent)]
      (runDated [.createInvoice demoCaller demoClock 1 lateInvoice,
        .updateInvoice demoCaller demoClock 1 (setStatus .sent)]) :=
    Run.cons ⟨trivial, le_rfl, rfl⟩ (Run.single ⟨by decide +kernel, le_rfl, rfl⟩)
  exact ⟨_, hrun, by decide +kernel, overdue_accurate _ _ _ _ hrun⟩

end Examples

end CoreOps.Finance
