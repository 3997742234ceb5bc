import CoreOps.Imports.Runner

/-! What an importer that succeeds has done: the loop rules, the registry of source
references, and one lemma for each importer on the tables it adds to. -/

namespace CoreOps.Imports

open Checked Text

section Loop

variable {ρ : Type} {step : ρ → Target → Except ImportError (RowResult × Target)} {rows : List ρ} {row : ρ}
  {results : List RowResult} {target target' : Target}

theorem importRows_cons : importRows step (row :: rows) target = .ok (results, target') ↔
    ∃ result t rest, step row target = .ok (result, t) ∧ importRows step rows t = .ok (rest, target') ∧
      results = result :: rest := by
  constructor
  · intro h
    simp only [importRows, bind_eq_ok, pure_eq_ok, Prod.exists, Prod.mk.injEq] at h
    obtain ⟨result, t, hstep, rest, t', hrest, rfl, rfl⟩ := h
    exact ⟨result, t, rest, hstep, hrest, rfl⟩
  · rintro ⟨result, t, rest, hstep, hrest, rfl⟩
    simp only [importRows, hstep, hrest, bind_eq_ok, pure_eq_ok, Except.ok.injEq, exists_eq_left']

/-- What each row keeps, the loop keeps. -/
theorem importRows_invariant (I : Target → Prop)
    (hs : ∀ row ∈ rows, ∀ t r t', step row t = .ok (r, t') → I t → I t')
    (h : importRows step rows target = .ok (results, target')) (hI : I target) : I target' := by
  induction rows generalizing target results with
  | nil =>
    obtain ⟨-, rfl⟩ := Prod.mk.inj (Except.ok.inj h)
    exact hI
  | cons row rows ih =>
    obtain ⟨result, t, rest, hstep, hrest, rfl⟩ := importRows_cons.1 h
    exact ih (fun row hrow => hs row (List.mem_cons_of_mem _ hrow)) hrest
      (hs row List.mem_cons_self _ _ _ hstep hI)

/-- Where each row either leaves the target alone or adds to `μ`, so does the loop. -/
theorem importRows_still (μ : Business → ℕ) (P : ρ → Target → Prop)
    (hs : ∀ row t r t', step row t = .ok (r, t') → (t' = t ∧ P row t) ∨ μ t.business < μ t'.business)
    (h : importRows step rows target = .ok (results, target')) :
    (target' = target ∧ ∀ row ∈ rows, P row target) ∨ μ target.business < μ target'.business := by
  induction rows generalizing target results with
  | nil =>
    obtain ⟨-, rfl⟩ := Prod.mk.inj (Except.ok.inj h)
    exact .inl ⟨rfl, nofun⟩
  | cons row rows ih =>
    obtain ⟨result, t, rest, hstep, hrest, rfl⟩ := importRows_cons.1 h
    rcases hs row target result t hstep with ⟨rfl, hrow⟩ | hlt
    · rcases ih hrest with ⟨rfl, hrows⟩ | hlt
      · refine .inl ⟨rfl, fun row' hrow' => ?_⟩
        rcases List.mem_cons.1 hrow' with rfl | hmem
        · exact hrow
        · exact hrows row' hmem
      · exact .inr hlt
    · rcases ih hrest with ⟨rfl, -⟩ | hlt'
      · exact .inr hlt
      · exact .inr (hlt.trans hlt')

variable (step target) in
/-- A loop over rows with nothing to do. -/
theorem importRows_idle (hs : ∀ row ∈ rows, ∃ r, step row target = .ok (r, target)) :
    ∃ results, importRows step rows target = .ok (results, target) := by
  induction rows with
  | nil => exact ⟨[], rfl⟩
  | cons row rows ih =>
    obtain ⟨rest, hrest⟩ := ih fun row hrow => hs row (List.mem_cons_of_mem _ hrow)
    obtain ⟨r, hr⟩ := hs row List.mem_cons_self
    exact ⟨r :: rest, importRows_cons.2 ⟨r, target, rest, hr, hrest, rfl⟩⟩

end Loop

/-! The registry. -/

section Registry

variable {config : StagingWriteImportConfig} {target target' : Target} {sourceTable targetEntity key : String}
  {id : Option String} {result : RowResult} {create : String → Business → Except ImportError (ℕ × Business)}

/-- The reference is registered once, and by this batch. -/
def Known (config : StagingWriteImportConfig) (auditLogs : List AuditLog) (key : String) : Prop :=
  ∃ row, registered auditLogs config.tenantId key = [row] ∧
    textOf row.metadata.importBatchId = config.importBatchId.value

/-- No reference is registered. -/
def Unknown (config : StagingWriteImportConfig) (auditLogs : List AuditLog) (key : String) : Prop :=
  registered auditLogs config.tenantId key = []

/-- What a row of a referenced table is registered under. -/
def refKey (sourceTable : String) (id : Option String) : String := buildSourceRef sourceTable (orElse id "")

/-- The row has an id, without which it is passed over. -/
def HasId (id : Option String) : Prop := orElse id "" ≠ ""

instance (id : Option String) : Decidable (HasId id) := inferInstanceAs (Decidable (orElse id "" ≠ ""))

/-- The table of a reference ends at its first colon, so no two rows share a reference. -/
theorem buildSourceRef_inj {table table' sourceId sourceId' : String} (h : ':' ∉ table.toList) (h' : ':' ∉ table'.toList)
    (heq : buildSourceRef table sourceId = buildSourceRef table' sourceId') : table = table' ∧ sourceId = sourceId' := by
  have hlists := congrArg String.toList heq
  simp only [buildSourceRef, String.toList_append, List.append_assoc, List.append_cancel_left_eq] at hlists
  have hcolon : table.toList ++ ':' :: sourceId.toList = table'.toList ++ ':' :: sourceId'.toList := hlists
  have hend : ∀ {cs rest rest' : List Char}, ':' ∉ cs → ':' :: rest = cs ++ ':' :: rest' → cs = [] := by
    intro cs rest rest' hcs happ
    cases cs with
    | nil => rfl
    | cons c cs =>
      obtain ⟨rfl, -⟩ := List.cons.inj happ
      exact absurd List.mem_cons_self hcs
  rcases List.append_eq_append_iff.1 hcolon with ⟨cs, htable, hrest⟩ | ⟨cs, htable, hrest⟩
  · have hcs := hend (fun hmem => h' (htable ▸ List.mem_append_right _ hmem)) hrest
    rw [hcs, List.append_nil] at htable
    rw [hcs, List.nil_append] at hrest
    exact ⟨String.ext_iff.2 htable.symm, String.ext_iff.2 (List.cons.inj hrest).2⟩
  · have hcs := hend (fun hmem => h (htable ▸ List.mem_append_right _ hmem)) hrest
    rw [hcs, List.append_nil] at htable
    rw [hcs, List.nil_append] at hrest
    exact ⟨String.ext_iff.2 htable, String.ext_iff.2 (List.cons.inj hrest).2.symm⟩

theorem resolve_eq_ok {action : ConflictAction} {sourceId : String}
    (h : resolveSourceRefAction target (identityOf config sourceTable sourceId) = .ok action) :
    (Known config target.auditLogs (buildSourceRef sourceTable sourceId) ∧ action = .skipExisting) ∨
    (Unknown config target.auditLogs (buildSourceRef sourceTable sourceId) ∧ action = .insert) := by
  rw [resolveSourceRefAction, mapError_eq_ok] at h
  simp only [identityOf] at h
  rcases hreg : registered target.auditLogs config.tenantId (buildSourceRef sourceTable sourceId) with
    _ | ⟨row, _ | ⟨row', rows⟩⟩
  · rw [hreg] at h
    exact .inr ⟨hreg, (Except.ok.inj h).symm⟩
  · rw [hreg] at h
    simp only [List.map_cons, List.map_nil, resolveConflictAction, bind_eq_ok, raiseIf_eq_ok, pure_eq_ok, not_not] at h
    obtain ⟨-, -, -, hbatch, rfl⟩ := h
    exact .inl ⟨⟨row, hreg, hbatch⟩, rfl⟩
  · rw [hreg] at h
    cases h

theorem resolve_of_known {sourceId : String} (h : Known config target.auditLogs (buildSourceRef sourceTable sourceId)) :
    resolveSourceRefAction target (identityOf config sourceTable sourceId) = .ok .skipExisting := by
  obtain ⟨row, hreg, hbatch⟩ := h
  rw [resolveSourceRefAction, mapError_eq_ok]
  simp only [identityOf, hreg, List.map_cons, List.map_nil, resolveConflictAction, bind_eq_ok, pure_eq_ok, hbatch]
  exact ⟨⟨⟩, raiseIf_eq_ok.2 fun hne => hne rfl, ⟨⟩, raiseIf_eq_ok.2 fun hne => hne rfl, rfl⟩

theorem registered_append (auditLogs : List AuditLog) (tenantId : ℕ) (row : AuditLog) :
    registered (auditLogs ++ [row]) tenantId key = registered auditLogs tenantId key ++
      if isSourceRef tenantId row && row.summary = key then [row] else [] := by
  rw [registered, List.filter_append, List.filter_singleton, Bool.cond_eq_ite]
  rfl

/-- What an importer that goes by the references has done to the target: created what the
row stands for and registered it. -/
structure Created (config : StagingWriteImportConfig) (create : String → Business → Except ImportError (ℕ × Business))
    (sourceTable : String) (id : Option String) (target target' : Target) : Prop where
  unknown : Unknown config target.auditLogs (refKey sourceTable id)
  created : ∃ newId, create (orElse id "") target.business = .ok (newId, target'.business)
  registers : ∃ row, target' = (target.withBusiness target'.business).log row ∧ isSourceRef config.tenantId row = true ∧
    row.summary = refKey sourceTable id ∧ row.metadata.importBatchId = some config.importBatchId.value

/-- The three ways an importer that goes by the references succeeds. -/
theorem importReferenced_cases
    (h : importReferenced config sourceTable targetEntity id create target = .ok (result, target')) :
    (¬ HasId id ∧ target' = target) ∨
    (HasId id ∧ Known config target.auditLogs (refKey sourceTable id) ∧ target' = target) ∨
    (HasId id ∧ Created config create sourceTable id target target') := by
  unfold importReferenced at h
  by_cases hid : orElse id "" = ""
  · rw [if_pos hid] at h
    obtain ⟨-, rfl⟩ := Prod.mk.inj (Except.ok.inj h)
    exact .inl ⟨fun hno => hno hid, rfl⟩
  · rw [if_neg hid, bind_eq_ok] at h
    obtain ⟨action, hresolve, h⟩ := h
    rcases resolve_eq_ok hresolve with ⟨hknown, rfl⟩ | ⟨hunknown, rfl⟩
    · obtain ⟨-, rfl⟩ := Prod.mk.inj (Except.ok.inj h)
      exact .inr (.inl ⟨hid, hknown, rfl⟩)
    · simp only [bind_eq_ok, pure_eq_ok, Prod.exists, Prod.mk.injEq, registerSourceRef, raiseIf_eq_ok] at h
      obtain ⟨newId, business, hcreate, t, ⟨-, -, -, -, rfl⟩, -, rfl⟩ := h
      exact .inr (.inr ⟨hid, hunknown, ⟨newId, hcreate⟩, _, rfl, by simp [isSourceRef, identityOf], rfl, rfl⟩)

/-- A known reference stays known, and the row's own is known afterwards. -/
theorem known_of_importReferenced
    (h : importReferenced config sourceTable targetEntity id create target = .ok (result, target')) :
    (HasId id → Known config target'.auditLogs (refKey sourceTable id)) ∧
    ∀ key, Known config target.auditLogs key → Known config target'.auditLogs key := by
  rcases importReferenced_cases h with ⟨hid, rfl⟩ | ⟨-, hknown, rfl⟩ | ⟨-, hunknown, -, row, htarget, href, hsummary, hbatch⟩
  · exact ⟨fun hno => absurd hno hid, fun _ hkey => hkey⟩
  · exact ⟨fun _ => hknown, fun _ hkey => hkey⟩
  · have hlogs : target'.auditLogs = target.auditLogs ++ [row] := congrArg Target.auditLogs htarget
    have htext : textOf row.metadata.importBatchId = config.importBatchId.value := by rw [hbatch]; rfl
    refine ⟨fun _ => ⟨row, ?_, htext⟩, fun key ⟨row', hreg, hbatch'⟩ => ⟨row', ?_, hbatch'⟩⟩
    · rw [hlogs, registered_append, hunknown, href, hsummary]
      simp
    · have hne : row.summary ≠ key := by
        rintro rfl
        rw [hsummary, hunknown] at hreg
        cases hreg
      rw [hlogs, registered_append, hreg]
      simp [hne]

/-- A row that is passed over or known is left alone. -/
theorem importReferenced_idle (h : HasId id → Known config target.auditLogs (refKey sourceTable id)) :
    ∃ r, importReferenced config sourceTable targetEntity id create target = .ok (r, target) := by
  unfold importReferenced
  by_cases hid : orElse id "" = ""
  · rw [if_pos hid]
    exact ⟨_, rfl⟩
  · rw [if_neg hid]
    simp only [resolve_of_known (h hid)]
    exact ⟨_, rfl⟩

/-- A row that is left alone was passed over or known; any other adds to `μ`, where what it
creates does. -/
theorem importReferenced_still {μ : Business → ℕ}
    (hcreate : ∀ sourceId business newId business', create sourceId business = .ok (newId, business') → μ business < μ business')
    (h : importReferenced config sourceTable targetEntity id create target = .ok (result, target')) :
    (target' = target ∧ (HasId id → Known config target.auditLogs (refKey sourceTable id))) ∨
      μ target.business < μ target'.business := by
  rcases importReferenced_cases h with ⟨hid, rfl⟩ | ⟨-, hknown, rfl⟩ | ⟨-, -, ⟨newId, hnew⟩, -⟩
  · exact .inl ⟨rfl, fun hno => absurd hno hid⟩
  · exact .inl ⟨rfl, fun _ => hknown⟩
  · exact .inr (hcreate _ _ _ _ hnew)

/-- A property of the target that each creation and each entry in the log keeps. -/
theorem importReferenced_keeps (I : Target → Prop)
    (hcreate : ∀ t sourceId newId business, create sourceId t.business = .ok (newId, business) → I t →
      I (t.withBusiness business))
    (hlog : ∀ t row, I t → I (t.log row))
    (h : importReferenced config sourceTable targetEntity id create target = .ok (result, target')) (hI : I target) :
    I target' := by
  rcases importReferenced_cases h with ⟨-, rfl⟩ | ⟨-, -, rfl⟩ | ⟨-, -, ⟨newId, hnew⟩, row, htarget, -⟩
  · exact hI
  · exact hI
  · rw [htarget]
    exact hlog _ _ (hcreate _ _ _ _ hnew hI)

end Registry

/-! What each importer adds. -/

section Importers

variable {adapter : SqlAlchemyStagingWriteAdapter} {config : StagingWriteImportConfig} {target target' : Target}
  {business business' : Business} {sourceId : String} {newId : ℕ} {result : RowResult}

/-- The rows that stand for a source row of their own. -/
def Business.targets (business : Business) : ℕ :=
  business.catalogItems.rows.length + business.parties.rows.length + business.workItems.rows.length +
    business.documentInstances.rows.length + business.payments.rows.length

theorem length_add {α : Type} (table : Table ℕ α) (row : α) : (table.add row).rows.length = table.rows.length + 1 := by
  rw [Table.rows_add, List.length_append, List.length_singleton]

theorem createCatalogItem_targets {row : ServiceSource}
    (h : createCatalogItem config row sourceId business = .ok (newId, business')) : business.targets < business'.targets := by
  simp only [createCatalogItem, bind_eq_ok, pure_eq_ok, Prod.mk.injEq] at h
  obtain ⟨-, -, -, -, -, rfl⟩ := h
  simp only [Business.targets, length_add]
  omega

theorem createParty_targets {row : ClientSource}
    (h : createParty config row sourceId business = .ok (newId, business')) : business.targets < business'.targets := by
  simp only [createParty, pure_eq_ok, Prod.mk.injEq] at h
  obtain ⟨-, rfl⟩ := h
  simp only [Business.targets, length_add]
  omega

theorem createWorkItem_targets {keysHold : Bool} {row : OrderSource}
    (h : createWorkItem config keysHold row sourceId business = .ok (newId, business')) :
    business.targets < business'.targets := by
  simp only [createWorkItem, bind_eq_ok, pure_eq_ok, Prod.mk.injEq] at h
  obtain ⟨-, -, -, -, -, rfl⟩ := h
  simp only [Business.targets, length_add]
  omega

theorem importService_still {row : ServiceSource} (h : importService config row target = .ok (result, target')) :
    (target' = target ∧ (HasId row.id → Known config target.auditLogs (refKey "services" row.id))) ∨
      target.business.targets < target'.business.targets := by
  have hstill := importReferenced_still (fun _ _ _ _ => createCatalogItem_targets) h
  exact hstill

theorem importClient_still {row : ClientSource} (h : importClient config row target = .ok (result, target')) :
    (target' = target ∧ (HasId row.id → Known config target.auditLogs (refKey "clients" row.id))) ∨
      target.business.targets < target'.business.targets := by
  have hstill := importReferenced_still (fun _ _ _ _ => createParty_targets) h
  exact hstill

theorem importOrder_still {row : OrderSource} (h : importOrder adapter config row target = .ok (result, target')) :
    (target' = target ∧ (HasId row.id → Known config target.auditLogs (refKey "orders" row.id))) ∨
      target.business.targets < target'.business.targets := by
  have hstill := importReferenced_still (fun _ _ _ _ => createWorkItem_targets) h
  exact hstill

variable (adapter config) in
/-- A line item is imported whatever it holds; at most it enters a review in the log. -/
theorem importOrderItem_ok (row : OrderItemSource) (target : Target) :
    ∃ r t, importOrderItem adapter config row target = .ok (r, t) ∧
      (t = target ∨ ∃ log, t = target.log log ∧ isSourceRef config.tenantId log = false) := by
  unfold importOrderItem
  by_cases hid : orElse row.orderId "" = ""
  · rw [if_pos hid]
    exact ⟨_, _, rfl, .inl rfl⟩
  · rw [if_neg hid]
    split
    · exact ⟨_, _, rfl, .inr ⟨_, rfl, by simp [isSourceRef, sourceRefEntity]⟩⟩
    · exact ⟨_, _, rfl, .inl rfl⟩

theorem importContract_still {row : ContractSource}
    (h : importContract adapter config row target = .ok (result, target')) :
    (target' = target ∧ ¬ HasId row.id) ∨
      ∃ business, target' = target.withBusiness business ∧ target.business.targets < business.targets := by
  unfold importContract at h
  by_cases hid : orElse row.id "" = ""
  · rw [if_pos hid] at h
    obtain ⟨-, rfl⟩ := Prod.mk.inj (Except.ok.inj h)
    exact .inl ⟨rfl, fun hno => hno hid⟩
  · rw [if_neg hid] at h
    obtain ⟨-, rfl⟩ := Prod.mk.inj (Except.ok.inj h)
    refine .inr ⟨_, rfl, ?_⟩
    simp only [Business.targets, length_add]
    omega

theorem createPaymentRow_ok {row : PaymentSource} {needsReview unlinked : Bool}
    (h : createPaymentRow config row needsReview unlinked business = .ok (newId, business')) :
    ∃ payment, business' = { business with payments := business.payments.add payment } := by
  simp only [createPaymentRow, bind_eq_ok, pure_eq_ok, Prod.mk.injEq] at h
  obtain ⟨-, -, -, -, -, rfl⟩ := h
  exact ⟨_, rfl⟩

theorem createInvoiceShell_ok {row : PaymentSource} (h : createInvoiceShell config row business = .ok (newId, business')) :
    ∃ invoice, business' = { business with invoices := business.invoices.add invoice } := by
  simp only [createInvoiceShell, bind_eq_ok, pure_eq_ok, Prod.mk.injEq] at h
  obtain ⟨-, -, -, -, -, rfl⟩ := h
  exact ⟨_, rfl⟩

theorem importLinkedPayment_still {row : PaymentSource} (h : importLinkedPayment config row target = .ok (result, target')) :
    (target' = target ∧ isLinked row = false) ∨
      ∃ business, target' = target.withBusiness business ∧ target.business.targets < business.targets := by
  unfold importLinkedPayment at h
  by_cases hlinked : isLinked row = true
  · rw [if_pos hlinked] at h
    simp only [bind_eq_ok, pure_eq_ok, Prod.exists, Prod.mk.injEq, allocateLinked] at h
    obtain ⟨paymentId, b₁, hpayment, invoiceId, b₂, hinvoice, b₃, ⟨-, -, -, -, rfl⟩, -, rfl⟩ := h
    obtain ⟨payment, rfl⟩ := createPaymentRow_ok hpayment
    obtain ⟨invoice, rfl⟩ := createInvoiceShell_ok hinvoice
    refine .inr ⟨_, rfl, ?_⟩
    simp only [Business.targets, length_add]
    omega
  · rw [if_neg hlinked] at h
    obtain ⟨-, rfl⟩ := Prod.mk.inj (Except.ok.inj h)
    exact .inl ⟨rfl, by simpa using hlinked⟩

theorem importOrphanPayment_still {row : PaymentSource} (h : importOrphanPayment config row target = .ok (result, target')) :
    (target' = target ∧ isLinked row = true) ∨
      ∃ business, target' = target.withBusiness business ∧ target.business.targets < business.targets := by
  unfold importOrphanPayment at h
  by_cases hlinked : isLinked row = true
  · rw [if_pos hlinked] at h
    obtain ⟨-, rfl⟩ := Prod.mk.inj (Except.ok.inj h)
    exact .inl ⟨rfl, hlinked⟩
  · rw [if_neg hlinked] at h
    simp only [bind_eq_ok, pure_eq_ok, Prod.exists, Prod.mk.injEq] at h
    obtain ⟨paymentId, b₁, hpayment, -, rfl⟩ := h
    obtain ⟨payment, rfl⟩ := createPaymentRow_ok hpayment
    refine .inr ⟨_, rfl, ?_⟩
    simp only [Business.targets, length_add]
    omega

end Importers

end CoreOps.Imports
