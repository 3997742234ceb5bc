import CoreOps.Finance.Summary

/-! The summary and currencies. The currency that is asked for is printed on the summary; the
figures are of all the rows of the tenant, and no query looks at a currency. -/

namespace CoreOps.Finance

section Currencies

variable {viaFloat : ℚ → ℚ} {today : ℤ} {tenantId : ℕ} {currency : String} {s s' : State}

def invoicesOf (s : State) (tenantId : ℕ) : List (ℕ × Invoice) := s.invoices.rows.filter fun r => r.2.tenantId = tenantId

def paymentsOf (s : State) (tenantId : ℕ) : List (ℕ × Payment) := s.payments.rows.filter fun r => r.2.tenantId = tenantId

/-- What a tenant has in a currency is the same. -/
structure SameIn (tenantId : ℕ) (currency : String) (s s' : State) : Prop where
  invoices : ((invoicesOf s tenantId).filter fun r => r.2.currency = currency) =
    (invoicesOf s' tenantId).filter fun r => r.2.currency = currency
  payments : ((paymentsOf s tenantId).filter fun r => r.2.currency = currency) =
    (paymentsOf s' tenantId).filter fun r => r.2.currency = currency

/-- The summary is the same wherever the tenant has the same in the currency. -/
def CurrenciesApart (viaFloat : ℚ → ℚ) (today : ℤ) (tenantId : ℕ) (currency : String) (s : State) : Prop :=
  ∀ s', SameIn tenantId currency s s' →
    getSummary viaFloat today tenantId currency s = getSummary viaFloat today tenantId currency s'

/-- The rows of other tenants do not show. -/
theorem getSummary_congr (hinvoices : invoicesOf s tenantId = invoicesOf s' tenantId)
    (hpayments : paymentsOf s tenantId = paymentsOf s' tenantId) :
    getSummary viaFloat today tenantId currency s = getSummary viaFloat today tenantId currency s' := by
  have hfilter : ∀ (s : State) (p : InvoiceStatus → Bool),
      (s.invoices.rows.filter fun r => decide (r.2.tenantId = tenantId) && p r.2.status) =
        (invoicesOf s tenantId).filter fun r => p r.2.status := by
    intro s p
    rw [invoicesOf, List.filter_filter]
    exact List.filter_congr fun r _ => Bool.and_comm _ _
  have hreceivable : listReceivableInvoices s tenantId = listReceivableInvoices s' tenantId := by
    have h := fun s => hfilter s fun status => decide (status ∈ receivableStatuses)
    simp only [listReceivableInvoices, Bool.decide_and, h, hinvoices]
  have hinvoiced : sumInvoiced s tenantId = sumInvoiced s' tenantId := by
    have h := fun s => hfilter s fun status => decide (status ∉ draftLike)
    simp only [sumInvoiced, invoicedRows, Bool.decide_and, h, hinvoices]
  have hpaid : sumPaid s tenantId = sumPaid s' tenantId := by
    have h : ∀ s : State, (s.payments.rows.filter fun r =>
        decide (r.2.tenantId = tenantId) && decide (r.2.status = .completed)) =
          (paymentsOf s tenantId).filter fun r => r.2.status = .completed := by
      intro s
      rw [paymentsOf, List.filter_filter]
      exact List.filter_congr fun r _ => Bool.and_comm _ _
    simp only [sumPaid, Bool.decide_and, h, hpayments]
  simp only [getSummary, listReceivables, hreceivable, hinvoiced, hpaid]

/-- A tenant with one currency has its summary in that currency. -/
theorem getSummary_of_single (hsame : SameIn tenantId currency s s')
    (hs : (∀ r ∈ invoicesOf s tenantId, r.2.currency = currency) ∧ ∀ r ∈ paymentsOf s tenantId, r.2.currency = currency)
    (hs' : (∀ r ∈ invoicesOf s' tenantId, r.2.currency = currency) ∧ ∀ r ∈ paymentsOf s' tenantId, r.2.currency = currency) :
    getSummary viaFloat today tenantId currency s = getSummary viaFloat today tenantId currency s' := by
  have hinvoices := hsame.invoices
  have hpayments := hsame.payments
  rw [List.filter_eq_self.2 fun r hr => decide_eq_true (hs.1 r hr),
    List.filter_eq_self.2 fun r hr => decide_eq_true (hs'.1 r hr)] at hinvoices
  rw [List.filter_eq_self.2 fun r hr => decide_eq_true (hs.2 r hr),
    List.filter_eq_self.2 fun r hr => decide_eq_true (hs'.2 r hr)] at hpayments
  exact getSummary_congr hinvoices hpayments

/-- An issued invoice of 10.00. -/
def issuedIn (tenantId : ℕ) (currency : String) : Invoice where
  tenantId := tenantId
  legalEntityId := none
  taxProfileId := none
  partyId := 1
  workItemId := none
  documentId := none
  invoiceNumber := "INV-000001"
  status := .issued
  currency := currency
  subtotal := 1000
  taxAmount := 0
  total := 1000
  amountPaid := 0
  issueDate := some 20000
  dueDate := none
  issuedAt := some 0
  notes := none
  lines := [⟨none, "Service", 100, 1000, 1000, 0⟩]

def State.addInvoice (s : State) (i : Invoice) : State := { s with invoices := s.invoices.add i }

/-- One more invoice is open. -/
theorem openInvoicesCount_addInvoice {other : String} :
    (getSummary viaFloat today tenantId currency (s.addInvoice (issuedIn tenantId other))).openInvoicesCount =
      (getSummary viaFloat today tenantId currency s).openInvoicesCount + 1 := by
  have hcount : ∀ s : State, (getSummary viaFloat today tenantId currency s).openInvoicesCount =
      (s.invoices.rows.filter fun r => decide (0 < balanceOf r.2) &&
        decide (r.2.tenantId = tenantId ∧ r.2.status ∈ receivableStatuses)).length := by
    intro s
    simp only [getSummary, listReceivables, List.length_map, listReceivableInvoices]
    rw [((List.perm_insertionSort _ _).filter _).length_eq, List.filter_filter]
  have hbalance : 0 < balanceOf (issuedIn tenantId other) := by
    have h : balanceOf (issuedIn tenantId other) = ofCents (1000 - 0) := by
      have htotal : (1000 : ℤ).natAbs < 10 ^ 18 := by decide
      have hpaid : (0 : ℤ).natAbs < 10 ^ 18 := by decide
      rw [← ofCents_sub, ← sub_ofCents htotal hpaid]
      rfl
    rw [h]
    norm_num [ofCents]
  have hopen : (issuedIn tenantId other).tenantId = tenantId ∧ (issuedIn tenantId other).status ∈ receivableStatuses :=
    ⟨rfl, List.mem_cons_self⟩
  rw [hcount, hcount, State.addInvoice, Table.rows_add, List.filter_append, List.length_append,
    List.filter_cons_of_pos (by rw [decide_eq_true hbalance, decide_eq_true hopen]; rfl)]
  rfl

theorem sameIn_addInvoice {other : String} (h : other ≠ currency) :
    SameIn tenantId currency s (s.addInvoice (issuedIn tenantId other)) := by
  refine ⟨?_, rfl⟩
  rw [invoicesOf, invoicesOf, State.addInvoice, Table.rows_add, List.filter_append, List.filter_append]
  simp [issuedIn, h]

theorem not_apart {other : String} (h : other ≠ currency) : ¬ CurrenciesApart viaFloat today tenantId currency s := by
  intro hapart
  have hcount := congrArg FinanceSummary.openInvoicesCount (hapart _ (sameIn_addInvoice h))
  rw [openInvoicesCount_addInvoice] at hcount
  omega

end Currencies

/-- Whatever the ledger and the currency, an invoice in another currency changes the summary. -/
theorem currencies_mix (viaFloat : ℚ → ℚ) (today : ℤ) (tenantId : ℕ) (currency : String) (s : State) :
    ¬ CurrenciesApart viaFloat today tenantId currency s := by
  by_cases h : currency = "RUB"
  · subst h
    have htenge : "KZT" ≠ "RUB" := by decide
    exact not_apart htenge
  · exact not_apart fun he => h he.symm

/-- The summary in roubles counts an invoice in tenge. -/
theorem summary_counts_tenge : SameIn 1 "RUB" demoState (demoState.addInvoice (issuedIn 1 "KZT")) ∧
    getSummary fifteenDigits 20000 1 "RUB" demoState ≠
      getSummary fifteenDigits 20000 1 "RUB" (demoState.addInvoice (issuedIn 1 "KZT")) := by
  refine ⟨sameIn_addInvoice (by decide), fun h => ?_⟩
  have hcount := congrArg FinanceSummary.openInvoicesCount h
  rw [openInvoicesCount_addInvoice] at hcount
  omega

end CoreOps.Finance
