import Mathlib.Algebra.BigOperators.Group.List.Basic
import CoreOps.Finance.InvoiceMoney

/-! Receivables and the summary. A sum of a column is exact; on its way to the summary it
is made a float and printed, and that conversion is a parameter, since it may lose digits.
Balances are subtracted and added as decimals. The summary reconciles where no invoice of
less than is paid on it counts and none is set to paid that is not. -/

namespace CoreOps.Finance

open Checked

def receivableStatuses : List InvoiceStatus := [.issued, .sent, .partial_, .overdue]

/-- `due_date.asc().nulls_last()`. -/
def dueLE : Option ℤ → Option ℤ → Prop
  | _, none => True
  | none, some _ => False
  | some x, some y => x ≤ y

instance : DecidableRel dueLE
  | _, none => inferInstanceAs (Decidable True)
  | none, some _ => inferInstanceAs (Decidable False)
  | some x, some y => inferInstanceAs (Decidable (x ≤ y))

def listReceivableInvoices (s : State) (tenantId : ℕ) : List (ℕ × Invoice) :=
  (s.invoices.rows.filter fun r => r.2.tenantId = tenantId ∧ r.2.status ∈ receivableStatuses).insertionSort
    fun a b => dueLE a.2.dueDate b.2.dueDate

/-- The invoices that count as invoiced. -/
def invoicedRows (s : State) (tenantId : ℕ) : List (ℕ × Invoice) :=
  s.invoices.rows.filter fun r => r.2.tenantId = tenantId ∧ r.2.status ∉ draftLike

def sumInvoiced (s : State) (tenantId : ℕ) : ℤ := ((invoicedRows s tenantId).map (·.2.total)).sum

def sumPaid (s : State) (tenantId : ℕ) : ℤ :=
  ((s.payments.rows.filter fun r => r.2.tenantId = tenantId ∧ r.2.status = .completed).map (·.2.amount)).sum

structure Receivable where
  invoiceId : ℕ
  invoiceNumber : String
  partyId : ℕ
  status : InvoiceStatus
  currency : String
  total : ℚ
  amountPaid : ℚ
  balanceDue : ℚ
  dueDate : Option ℤ
  isOverdue : Bool

def balanceOf (i : Invoice) : ℚ := sub (ofCents i.total) (ofCents i.amountPaid)

def receivableOf (today : ℤ) (r : ℕ × Invoice) : Receivable where
  invoiceId := r.1
  invoiceNumber := r.2.invoiceNumber
  partyId := r.2.partyId
  status := r.2.status
  currency := r.2.currency
  total := ofCents r.2.total
  amountPaid := ofCents r.2.amountPaid
  balanceDue := balanceOf r.2
  dueDate := r.2.dueDate
  isOverdue := r.2.dueDate.any (· < today) && r.2.status ≠ .paid

def listReceivables (today : ℤ) (tenantId : ℕ) (s : State) : List Receivable :=
  ((listReceivableInvoices s tenantId).filter fun r => 0 < balanceOf r.2).map (receivableOf today)

structure FinanceSummary where
  currency : String
  totalInvoiced : ℚ
  totalPaid : ℚ
  totalOutstanding : ℚ
  openInvoicesCount : ℕ
  overdueInvoicesCount : ℕ
  overdueAmount : ℚ

/-- `sum` of decimals. -/
def sumDecimals (xs : List ℚ) : ℚ := xs.foldl add 0

/-- The summary, with the conversion `Decimal(str(float(x)))`. -/
def getSummary (viaFloat : ℚ → ℚ) (today : ℤ) (tenantId : ℕ) (currency : String) (s : State) : FinanceSummary :=
  let receivables := listReceivables today tenantId s
  let overdue := receivables.filter (·.isOverdue)
  { currency
    totalInvoiced := viaFloat (ofCents (sumInvoiced s tenantId))
    totalPaid := viaFloat (ofCents (sumPaid s tenantId))
    totalOutstanding := sumDecimals (receivables.map (·.balanceDue))
    openInvoicesCount := receivables.length
    overdueInvoicesCount := overdue.length
    overdueAmount := sumDecimals (overdue.map (·.balanceDue)) }

/-- What is invoiced and not outstanding has been paid on the invoices. -/
def Reconciles (viaFloat : ℚ → ℚ) (today : ℤ) (tenantId : ℕ) (currency : String) (s : State) : Prop :=
  (getSummary viaFloat today tenantId currency s).totalInvoiced -
    (getSummary viaFloat today tenantId currency s).totalOutstanding =
    ofCents ((invoicedRows s tenantId).map (·.2.amountPaid)).sum

/-! Sums of stored amounts. -/

theorem ofCents_sub (a b : ℤ) : ofCents a - ofCents b = ofCents (a - b) := by
  simp only [ofCents]
  push_cast
  ring

/-- A sum of amounts that stays within the context is exact. -/
theorem foldl_add_cents {l : List ℤ} {c : ℤ} (hc : 0 ≤ c) (hl : ∀ x ∈ l, 0 ≤ x) (hfits : c + l.sum < 10 ^ 26) :
    (l.map ofCents).foldl add (ofCents c) = ofCents (c + l.sum) := by
  induction l generalizing c with
  | nil => simp
  | cons x l ih =>
    rw [List.sum_cons] at hfits
    have hx := hl x List.mem_cons_self
    have hrest : ∀ y ∈ l, 0 ≤ y := fun y hy => hl y (List.mem_cons_of_mem _ hy)
    have hsum : 0 ≤ l.sum := List.sum_nonneg hrest
    have hadd : add (ofCents c) (ofCents x) = ofCents (c + x) := add_ofCents (by omega)
    rw [List.map_cons, List.foldl_cons, hadd, ih (by omega) hrest (by omega), List.sum_cons, add_assoc]

theorem sum_map_filter_of_zero {α : Type*} {p : α → Bool} {f : α → ℤ} {l : List α}
    (h : ∀ a ∈ l, p a = false → f a = 0) : ((l.filter p).map f).sum = (l.map f).sum := by
  induction l with
  | nil => rfl
  | cons a l ih =>
    have hrest := ih fun b hb => h b (List.mem_cons_of_mem _ hb)
    by_cases hp : p a = true
    · simp [hp, hrest]
    · simp [hp, hrest, h a List.mem_cons_self (by simpa using hp)]

/-! The invariant. -/

/-- An invoice, once it counts, is paid within its total, and in full where its status says so. -/
structure WithinTotal (i : Invoice) : Prop where
  nonneg : 0 ≤ i.amountPaid
  paid_fits : i.amountPaid.natAbs < 10 ^ 18
  fits : i.total.natAbs < 10 ^ 18
  le : i.status ∉ draftLike → i.amountPaid ≤ i.total
  in_full : i.status = .paid → i.amountPaid = i.total

def WithinTotals (s : State) : Prop := ∀ id i, s.invoices.get? id = some i → WithinTotal i

theorem WithinTotal.balance {i : Invoice} (h : WithinTotal i) : balanceOf i = ofCents (i.total - i.amountPaid) := by
  rw [balanceOf, sub_ofCents h.fits h.paid_fits, ofCents_sub]

/-- What counts as invoiced and is not among the receivables is paid in full. -/
theorem WithinTotal.settled {i : Invoice} (h : WithinTotal i) (hinvoiced : i.status ∉ draftLike)
    (hnot : ¬ (i.status ∈ receivableStatuses ∧ 0 < balanceOf i)) : i.total - i.amountPaid = 0 := by
  rcases hstatus : i.status with - | - | - | - | - | - | - | -
  case paid =>
    have := h.in_full hstatus
    omega
  case draft => simp [draftLike, hstatus] at hinvoiced
  case cancelled => simp [draftLike, hstatus] at hinvoiced
  case void => simp [draftLike, hstatus] at hinvoiced
  all_goals
    have hle : balanceOf i ≤ 0 := by
      by_contra hpos
      exact hnot ⟨by simp [receivableStatuses, hstatus], not_le.1 hpos⟩
    rw [h.balance, ofCents, div_nonpos_iff] at hle
    have hcents : i.total - i.amountPaid ≤ 0 := by
      rcases hle with ⟨-, hle⟩ | ⟨hle, -⟩
      · norm_num at hle
      · exact_mod_cast hle
    have := h.le hinvoiced
    omega

theorem WithinTotals.mem {s : State} (h : WithinTotals s) {tenantId : ℕ} {r : ℕ × Invoice}
    (hr : r ∈ invoicedRows s tenantId) : WithinTotal r.2 ∧ r.2.status ∉ draftLike := by
  obtain ⟨hrow, hp⟩ := List.mem_filter.1 hr
  exact ⟨h r.1 r.2 (Table.mem_rows.1 hrow), (of_decide_eq_true hp).2⟩

/-- The balances of the receivables add up to what the invoices lack. -/
theorem sum_balances {s : State} (h : WithinTotals s) (today : ℤ) (tenantId : ℕ) :
    ∃ cents : List ℤ, (listReceivables today tenantId s).map (·.balanceDue) = cents.map ofCents ∧
      (∀ c ∈ cents, 0 ≤ c) ∧
      cents.sum = ((invoicedRows s tenantId).map fun r => r.2.total - r.2.amountPaid).sum := by
  set open_ := (listReceivableInvoices s tenantId).filter fun r => 0 < balanceOf r.2
  have hsub : ∀ status ∈ receivableStatuses, status ∉ draftLike := by decide
  have hmem : ∀ r ∈ open_, WithinTotal r.2 ∧ r.2.status ∉ draftLike := by
    intro r hr
    obtain ⟨hrow, hp⟩ := List.mem_filter.1 ((List.mem_insertionSort _).1 (List.mem_filter.1 hr).1)
    exact ⟨h r.1 r.2 (Table.mem_rows.1 hrow), hsub _ (of_decide_eq_true hp).2⟩
  refine ⟨open_.map fun r => r.2.total - r.2.amountPaid, ?_, ?_, ?_⟩
  · rw [listReceivables, List.map_map, List.map_map]
    exact List.map_congr_left fun r hr => (hmem r hr).1.balance
  · intro c hc
    obtain ⟨r, hr, rfl⟩ := List.mem_map.1 hc
    have := (hmem r hr).1.le (hmem r hr).2
    omega
  · -- the order does not matter, and what is left out lacks nothing
    have hperm : open_.Perm ((invoicedRows s tenantId).filter fun r =>
        r.2.status ∈ receivableStatuses ∧ 0 < balanceOf r.2) := by
      refine ((List.perm_insertionSort _ _).filter _).trans (List.Perm.of_eq ?_)
      rw [invoicedRows, List.filter_filter, List.filter_filter]
      refine List.filter_congr fun r _ => ?_
      have hopen := hsub r.2.status
      rw [Bool.eq_iff_iff]
      simp only [Bool.and_eq_true, decide_eq_true_eq]
      tauto
    rw [(hperm.map _).sum_eq]
    refine sum_map_filter_of_zero fun r hr hp => ?_
    obtain ⟨hok, hinvoiced⟩ := h.mem hr
    exact hok.settled hinvoiced (by simpa using hp)

theorem reconciles_of_within {s : State} (h : WithinTotals s) {viaFloat : ℚ → ℚ} {today : ℤ} {tenantId : ℕ}
    {currency : String} (hexact : viaFloat (ofCents (sumInvoiced s tenantId)) = ofCents (sumInvoiced s tenantId))
    (hfits : sumInvoiced s tenantId < 10 ^ 26) : Reconciles viaFloat today tenantId currency s := by
  obtain ⟨cents, hbalances, hnn, hsum⟩ := sum_balances h today tenantId
  have hsplit : ∀ l : List (ℕ × Invoice), (l.map fun r => r.2.total - r.2.amountPaid).sum =
      (l.map (·.2.total)).sum - (l.map (·.2.amountPaid)).sum := by
    intro l
    induction l with
    | nil => rfl
    | cons r l ih =>
      simp only [List.map_cons, List.sum_cons, ih]
      ring
  rw [hsplit] at hsum
  have hpaid : 0 ≤ ((invoicedRows s tenantId).map (·.2.amountPaid)).sum := by
    refine List.sum_nonneg fun c hc => ?_
    obtain ⟨r, hr, rfl⟩ := List.mem_map.1 hc
    exact (h.mem hr).1.nonneg
  have hzero : ofCents 0 = 0 := by simp [ofCents]
  have houtstanding : sumDecimals (cents.map ofCents) = ofCents cents.sum := by
    have hadd := foldl_add_cents (c := 0) le_rfl hnn (by rw [hsum]; unfold sumInvoiced at hfits; omega)
    rwa [hzero, zero_add] at hadd
  simp only [Reconciles, getSummary, hexact, hbalances, houtstanding, ofCents_sub]
  congr 1
  rw [hsum, sumInvoiced]
  omega

/-! The calls. -/

/-- No invoice of less than is paid on it counts, and none is set to paid that is not. -/
def KeepsTotals (s : State) : Op → Prop
  | .createInvoice _ _ _ payload => payload.issue = true → 0 ≤ subtotalOf payload.lines
  | .updateInvoice caller _ invoiceId payload => ∀ i ∈ getInvoice s caller.tenantId invoiceId,
      ∀ status ∈ payload.status, (status ∉ draftLike → i.amountPaid ≤ i.total) ∧
        (status = .paid → i.amountPaid = i.total)
  | _ => True

instance : ∀ s op, Decidable (KeepsTotals s op)
  | _, .createInvoice _ _ _ payload =>
    inferInstanceAs (Decidable (payload.issue = true → 0 ≤ subtotalOf payload.lines))
  | s, .updateInvoice caller _ invoiceId payload =>
    inferInstanceAs (Decidable (∀ i ∈ getInvoice s caller.tenantId invoiceId,
      ∀ status ∈ payload.status, (status ∉ draftLike → i.amountPaid ≤ i.total) ∧
        (status = .paid → i.amountPaid = i.total)))
  | _, .createPayment .. => inferInstanceAs (Decidable True)
  | _, .allocatePayment .. => inferInstanceAs (Decidable True)

theorem WithinTotals.exec {s s' : State} {op : Op} (h : WithinTotals s) (hkeeps : KeepsTotals s op)
    (he : exec s op = .ok s') : WithinTotals s' := by
  intro id j hj
  cases op with
  | createInvoice caller clock invoiceId payload =>
    obtain ⟨i, hnone, rfl, hpaid, htotal, hfits, hstatus⟩ := createInvoice_status he
    rw [Table.get?_insert_new _ _ _ hnone] at hj
    by_cases hid : id = invoiceId
    · rw [if_pos hid] at hj
      obtain rfl := Option.some.inj hj
      have hunpaid : i.status ≠ .paid := by
        rcases hstatus with ⟨-, hstatus⟩ | ⟨-, hstatus⟩ <;> exact fun hst => nomatch hstatus.eq_paid.1 hst
      refine ⟨by omega, by omega, hfits, fun hcounts => ?_, fun hst => absurd hst hunpaid⟩
      rcases hstatus with ⟨-, hdraft⟩ | ⟨hissue, -⟩
      · exact absurd (hdraft.mem_draftLike.2 (by decide)) hcounts
      · have hnn := toCents_nonneg (hkeeps hissue)
        omega
    · rw [if_neg hid] at hj
      exact h id j hj
  | updateInvoice caller clock invoiceId payload =>
    obtain ⟨i, i', hi, htenant, hpaid, htotal, hrefresh, rfl⟩ := updateInvoice_status he
    by_cases hid : id = invoiceId
    · subst hid
      rw [Table.get?_modify_self, hi, Option.map_some] at hj
      obtain rfl := Option.some.inj hj
      have hok := h id i hi
      have hset : (payload.status.getD i.status ∉ draftLike → i.amountPaid ≤ i.total) ∧
          (payload.status.getD i.status = .paid → i.amountPaid = i.total) := by
        have hgiven := hkeeps i (by simp [getInvoice, hi, htenant])
        rcases hstatus : payload.status with - | status
        · exact ⟨hok.le, hok.in_full⟩
        · exact hgiven status hstatus
      refine ⟨hpaid ▸ hok.nonneg, hpaid ▸ hok.paid_fits, htotal ▸ hok.fits, fun hcounts => ?_, fun hst => ?_⟩
      · rw [hpaid, htotal]
        exact hset.1 fun hdraft => hcounts (hrefresh.mem_draftLike.2 hdraft)
      · rw [hpaid, htotal]
        exact hset.2 (hrefresh.eq_paid.1 hst)
    · rw [Table.get?_modify_of_ne _ hid] at hj
      exact h id j hj
  | createPayment caller clock paymentId payload =>
    obtain ⟨p, -, -, -, -, rfl⟩ := createPayment_ok he
    exact h id j hj
  | allocatePayment caller clock paymentId payload =>
    rcases allocatePayment_invoice he hj with ⟨-, hi⟩ | ⟨item, -, -, i, hi, hopen, hle, rfl⟩
    · exact h id j hi
    · have hok := h id i hi
      obtain ⟨hnn, hupper, hlt, hfull⟩ := paid_after hok.nonneg hok.fits hok.paid_fits item.amount_pos hle
      have hpaid := (payInvoice_status clock.today (toCents (add (ofCents i.amountPaid) item.amount))
        (add (ofCents i.amountPaid) item.amount) hopen).2
      refine ⟨hnn, ?_, hok.fits, fun _ => hupper, fun hst => ?_⟩
      · have hfits := hok.fits
        simp only [payInvoice]
        omega
      · rcases hpaid hst with hreached | hbefore
        · exact hfull hreached
        · have := hok.in_full hbefore
          omega

/-- As long as no invoice of less than is paid on it counts and none is set to paid that is
not, the summary reconciles wherever the total invoiced passes through the float unchanged. -/
theorem summary_reconciles (viaFloat : ℚ → ℚ) (s₀ s : State) (ops : List Op)
    (h : Run (Restrict KeepsTotals (CallStep exec)) s₀.noBooks ops s) (today : ℤ) (tenantId : ℕ) (currency : String)
    (hexact : viaFloat (ofCents (sumInvoiced s tenantId)) = ofCents (sumInvoiced s tenantId))
    (hfits : sumInvoiced s tenantId < 10 ^ 26) : Reconciles viaFloat today tenantId currency s := by
  have hstart : WithinTotals s₀.noBooks := by
    intro id i hi
    cases hi
  refine reconciles_of_within (h.invariant_restrict WithinTotals hstart ?_) hexact hfits
  rintro s op s' hs hkeeps rfl
  exact settle_keeps hs fun s' he => hs.exec hkeeps he

section Examples

/-- A float that keeps fifteen digits. -/
def fifteenDigits (x : ℚ) : ℚ := Decimal.toPrecision 15 x

theorem single_quantity_pos : (0 : ℚ) < 1 := one_pos

/-- An issued invoice of minus 10.00. -/
def creditNote : InvoiceCreate :=
  ⟨1, none, none, none, none, "RUB", none, none, [⟨none, "Discount", 1, -10, 0, single_quantity_pos⟩], true, by simp⟩

instance (viaFloat : ℚ → ℚ) (today : ℤ) (tenantId : ℕ) (currency : String) (s : State) :
    Decidable (Reconciles viaFloat today tenantId currency s) := by
  unfold Reconciles
  infer_instance

/-- An invoice set to paid by hand is invoiced, not outstanding and not paid; one below
zero is invoiced and not outstanding either. -/
theorem summary_off :
    (∃ s, Run (CallStep exec) demoState.noBooks setPaid s ∧ ¬ Reconciles fifteenDigits 20000 1 "RUB" s) ∧
    ∃ s, Run (CallStep exec) demoState.noBooks [.createInvoice demoCaller demoClock 1 creditNote] s ∧
      ¬ Reconciles fifteenDigits 20000 1 "RUB" s :=
  ⟨⟨_, Run.of_foldl, by decide +kernel⟩, ⟨_, Run.of_foldl, by decide +kernel⟩⟩

/-- The theorem after two invoices of 10.00, 2.50 paid on each. -/
theorem summary_reconciles_split : ∃ s,
    Run (Restrict KeepsTotals (CallStep exec)) demoState.noBooks (demoOps (5 / 2) (by norm_num)) s ∧
      (getSummary fifteenDigits 20000 1 "RUB" s).totalOutstanding = 15 ∧ Reconciles fifteenDigits 20000 1 "RUB" s := by
  have hrun : Run (Restrict KeepsTotals (CallStep exec)) demoState.noBooks (demoOps (5 / 2) (by norm_num))
      ((demoOps (5 / 2) (by norm_num)).foldl (settle exec) demoState.noBooks) :=
    Run.cons ⟨by decide +kernel, rfl⟩ (Run.cons ⟨by decide +kernel, rfl⟩
      (Run.cons ⟨trivial, rfl⟩ (Run.single ⟨trivial, rfl⟩)))
  exact ⟨_, hrun, by decide +kernel,
    summary_reconciles fifteenDigits _ _ _ hrun 20000 1 "RUB" (by decide +kernel) (by decide +kernel)⟩

end Examples

end CoreOps.Finance
