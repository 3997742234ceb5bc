import CoreOps.Imports.Importers

/-! Running an import again. A run leaves every service, client and order with an id
registered, so a second run passes them over; contracts and payments are not registered,
and a second run would create them again. -/

namespace CoreOps.Imports

open Checked Text

variable {adapter : SqlAlchemyStagingWriteAdapter} {config : StagingWriteImportConfig} {data : Dataset}
  {target target' : Target} {report : ExecutionReport}

/-- The checks that come before the import. -/
def Admitted (adapter : SqlAlchemyStagingWriteAdapter) (config : StagingWriteImportConfig) (target : Target) : Prop :=
  checkConnection adapter config = .ok () ∧ assertTenantBranchGuards config target = .ok ()

/-- The stages of a run, from the target with the batch marker to the one that is
committed. -/
def Stages (adapter : SqlAlchemyStagingWriteAdapter) (config : StagingWriteImportConfig) (data : Dataset)
    (target target' : Target) : Prop :=
  ∃ r₁ t₁ r₂ t₂ r₃ t₃ r₄ t₄ r₅ t₅ r₆ t₆ r₇,
    importRows (importService config) data.services (insertBatchContext config target) = .ok (r₁, t₁) ∧
    importRows (importClient config) data.clients t₁ = .ok (r₂, t₂) ∧
    importRows (importOrder adapter config) data.orders t₂ = .ok (r₃, t₃) ∧
    importRows (importOrderItem adapter config) data.orderItems t₃ = .ok (r₄, t₄) ∧
    importRows (importContract adapter config) data.contracts t₄ = .ok (r₅, t₅) ∧
    importRows (importLinkedPayment config) data.payments t₅ = .ok (r₆, t₆) ∧
    importRows (importOrphanPayment config) data.payments t₆ = .ok (r₇, target')

theorem run_iff : (∃ report, run adapter config data target = .ok (report, target')) ↔
    Admitted adapter config target ∧ Stages adapter config data target target' := by
  constructor
  · rintro ⟨report, h⟩
    simp only [run, executeImportOrder, bind_eq_ok, pure_eq_ok, Prod.exists, Prod.mk.injEq] at h
    obtain ⟨_, hconnection, _, hguards, _, -, r₁, t₁, h₁, r₂, t₂, h₂, r₃, t₃, h₃, r₄, t₄, h₄, r₅, t₅, h₅, r₆, t₆, h₆, r₇,
      t₇, h₇, -, rfl⟩ := h
    exact ⟨⟨hconnection, hguards⟩, r₁, t₁, r₂, t₂, r₃, t₃, r₄, t₄, r₅, t₅, r₆, t₆, r₇, h₁, h₂, h₃, h₄, h₅, h₆, h₇⟩
  · rintro ⟨⟨hconnection, hguards⟩, r₁, t₁, r₂, t₂, r₃, t₃, r₄, t₄, r₅, t₅, r₆, t₆, r₇, h₁, h₂, h₃, h₄, h₅, h₆, h₇⟩
    simp only [run, executeImportOrder, hconnection, hguards, bind_eq_ok, pure_eq_ok, Prod.exists, Prod.mk.injEq]
    exact ⟨_, (), trivial, (), trivial, (), trivial, r₁, t₁, h₁, r₂, t₂, h₂, r₃, t₃, h₃, r₄, t₄, h₄, r₅, t₅, h₅, r₆, t₆, h₆, r₇, target',
      h₇, rfl, rfl⟩

/-- The source holds nothing that the target has not been told of. -/
structure NothingNew (config : StagingWriteImportConfig) (data : Dataset) (target : Target) : Prop where
  services : ∀ row ∈ data.services, HasId row.id → Known config target.auditLogs (refKey "services" row.id)
  clients : ∀ row ∈ data.clients, HasId row.id → Known config target.auditLogs (refKey "clients" row.id)
  orders : ∀ row ∈ data.orders, HasId row.id → Known config target.auditLogs (refKey "orders" row.id)
  contracts : ∀ row ∈ data.contracts, ¬ HasId row.id
  payments : data.payments = []

variable (adapter config) in
/-- The order items only enter reviews in the log. -/
theorem orderItems_ok (rows : List OrderItemSource) (target : Target) :
    ∃ results t, importRows (importOrderItem adapter config) rows target = .ok (results, t) := by
  induction rows generalizing target with
  | nil => exact ⟨_, _, rfl⟩
  | cons row rows ih =>
    obtain ⟨r, t, hrow, -⟩ := importOrderItem_ok adapter config row target
    obtain ⟨rest, t', hrest⟩ := ih t
    exact ⟨r :: rest, t', importRows_cons.2 ⟨r, t, rest, hrow, hrest, rfl⟩⟩

theorem importOrderItem_log {row : OrderItemSource} {r : RowResult} {t t' : Target}
    (h : importOrderItem adapter config row t = .ok (r, t')) :
    t' = t ∨ ∃ log, t' = t.log log ∧ isSourceRef config.tenantId log = false := by
  obtain ⟨r', t₁, hok, hlog⟩ := importOrderItem_ok adapter config row t
  rw [hok] at h
  obtain ⟨-, rfl⟩ := Prod.mk.inj (Except.ok.inj h)
  exact hlog

/-- What a run keeps that the entries in the log and the new business rows keep. -/
theorem Stages.keeps (I : Target → Prop) (hbusiness : ∀ t business, I t → I (t.withBusiness business))
    (hlog : ∀ t row, I t → I (t.log row)) (h : Stages adapter config data target target') (hI : I target) : I target' := by
  obtain ⟨r₁, t₁, r₂, t₂, r₃, t₃, r₄, t₄, r₅, t₅, r₆, t₆, r₇, h₁, h₂, h₃, h₄, h₅, h₆, h₇⟩ := h
  have i₁ : I t₁ := importRows_invariant I (fun row _ t r t' hstep =>
    importReferenced_keeps I (fun _ _ _ _ _ => hbusiness _ _) hlog hstep) h₁ (hlog _ _ hI)
  have i₂ : I t₂ := importRows_invariant I (fun row _ t r t' hstep =>
    importReferenced_keeps I (fun _ _ _ _ _ => hbusiness _ _) hlog hstep) h₂ i₁
  have i₃ : I t₃ := importRows_invariant I (fun row _ t r t' hstep =>
    importReferenced_keeps I (fun _ _ _ _ _ => hbusiness _ _) hlog hstep) h₃ i₂
  have i₄ : I t₄ := importRows_invariant I (fun row _ t r t' hstep hI => by
    rcases importOrderItem_log hstep with rfl | ⟨log, rfl, -⟩
    · exact hI
    · exact hlog _ _ hI) h₄ i₃
  have i₅ : I t₅ := importRows_invariant I (fun row _ t r t' hstep hI => by
    rcases importContract_still hstep with ⟨rfl, -⟩ | ⟨business, rfl, -⟩
    · exact hI
    · exact hbusiness _ _ hI) h₅ i₄
  have i₆ : I t₆ := importRows_invariant I (fun row _ t r t' hstep hI => by
    rcases importLinkedPayment_still hstep with ⟨rfl, -⟩ | ⟨business, rfl, -⟩
    · exact hI
    · exact hbusiness _ _ hI) h₆ i₅
  exact importRows_invariant I (fun row _ t r t' hstep hI => by
    rcases importOrphanPayment_still hstep with ⟨rfl, -⟩ | ⟨business, rfl, -⟩
    · exact hI
    · exact hbusiness _ _ hI) h₇ i₆

/-- After a run the target admits the next one. -/
theorem Stages.admitted (h : Stages adapter config data target target') (ha : Admitted adapter config target) :
    Admitted adapter config target' := by
  have hsame : target'.tenants = target.tenants ∧ target'.branches = target.branches :=
    h.keeps (fun t => t.tenants = target.tenants ∧ t.branches = target.branches) (fun _ _ hI => hI) (fun _ _ hI => hI)
      ⟨rfl, rfl⟩
  refine ⟨ha.1, ?_⟩
  rw [assertTenantBranchGuards, hsame.1, hsame.2]
  exact ha.2

/-- An entry of another kind leaves the references alone. -/
theorem known_log {row : AuditLog} {key : String} (hrow : isSourceRef config.tenantId row = false)
    (h : Known config target.auditLogs key) : Known config (target.log row).auditLogs key := by
  obtain ⟨ref, hreg, hbatch⟩ := h
  refine ⟨ref, ?_, hbatch⟩
  rw [Target.log, registered_append, hreg, hrow]
  rfl

theorem known_batchContext {key : String} (h : Known config target.auditLogs key) :
    Known config (insertBatchContext config target).auditLogs key :=
  known_log (by simp [isSourceRef, sourceRefEntity]) h

/-- A stage that goes by the references leaves its rows known, and what was known before. -/
theorem known_of_importRows {ρ : Type} {rows : List ρ} {step : ρ → Target → Except ImportError (RowResult × Target)}
    (id : ρ → Option String) {sourceTable targetEntity : String} {t t' : Target} {results : List RowResult}
    (hstep : ∀ row t, ∃ create, step row t = importReferenced config sourceTable targetEntity (id row) create t)
    (h : importRows step rows t = .ok (results, t')) :
    (∀ row ∈ rows, HasId (id row) → Known config t'.auditLogs (refKey sourceTable (id row))) ∧
    ∀ key, Known config t.auditLogs key → Known config t'.auditLogs key := by
  have hkeeps : ∀ {rows' : List ρ} {t t' : Target} {results : List RowResult},
      importRows step rows' t = .ok (results, t') → ∀ key, Known config t.auditLogs key → Known config t'.auditLogs key := by
    intro rows' t t' results h key
    refine importRows_invariant (fun t => Known config t.auditLogs key) (fun row _ t r t' hrow => ?_) h
    obtain ⟨create, hcreate⟩ := hstep row t
    exact (known_of_importReferenced (hcreate ▸ hrow)).2 key
  refine ⟨?_, hkeeps h⟩
  induction rows generalizing t results with
  | nil => exact nofun
  | cons row rows ih =>
    obtain ⟨result, t₁, rest, hrow, hrest, rfl⟩ := importRows_cons.1 h
    intro row' hrow' hid
    rcases List.mem_cons.1 hrow' with rfl | hmem
    · obtain ⟨create, hcreate⟩ := hstep row' t
      exact hkeeps hrest _ ((known_of_importReferenced (hcreate ▸ hrow)).1 hid)
    · exact ih hrest row' hmem hid

/-- After a run every service, client and order with an id is registered. -/
theorem Stages.known (h : Stages adapter config data target target') :
    (∀ row ∈ data.services, HasId row.id → Known config target'.auditLogs (refKey "services" row.id)) ∧
    (∀ row ∈ data.clients, HasId row.id → Known config target'.auditLogs (refKey "clients" row.id)) ∧
    ∀ row ∈ data.orders, HasId row.id → Known config target'.auditLogs (refKey "orders" row.id) := by
  obtain ⟨r₁, t₁, r₂, t₂, r₃, t₃, r₄, t₄, r₅, t₅, r₆, t₆, r₇, h₁, h₂, h₃, h₄, h₅, h₆, h₇⟩ := h
  have k₁ := known_of_importRows ServiceSource.id (fun row t => ⟨_, rfl⟩) h₁
  have k₂ := known_of_importRows ClientSource.id (fun row t => ⟨_, rfl⟩) h₂
  have k₃ := known_of_importRows OrderSource.id (fun row t => ⟨_, rfl⟩) h₃
  have hrest : ∀ key, Known config t₃.auditLogs key → Known config target'.auditLogs key := by
    intro key hkey
    have i₄ : Known config t₄.auditLogs key :=
      importRows_invariant (fun t => Known config t.auditLogs key) (fun row _ t r t' hstep hI => by
        rcases importOrderItem_log hstep with rfl | ⟨log, rfl, hlog⟩
        · exact hI
        · exact known_log hlog hI) h₄ hkey
    have i₅ : Known config t₅.auditLogs key :=
      importRows_invariant (fun t => Known config t.auditLogs key) (fun row _ t r t' hstep hI => by
        rcases importContract_still hstep with ⟨rfl, -⟩ | ⟨business, rfl, -⟩ <;> exact hI) h₅ i₄
    have i₆ : Known config t₆.auditLogs key :=
      importRows_invariant (fun t => Known config t.auditLogs key) (fun row _ t r t' hstep hI => by
        rcases importLinkedPayment_still hstep with ⟨rfl, -⟩ | ⟨business, rfl, -⟩ <;> exact hI) h₆ i₅
    exact importRows_invariant (fun t => Known config t.auditLogs key) (fun row _ t r t' hstep hI => by
        rcases importOrphanPayment_still hstep with ⟨rfl, -⟩ | ⟨business, rfl, -⟩ <;> exact hI) h₇ i₆
  refine ⟨fun row hrow hid => hrest _ (k₃.2 _ (k₂.2 _ (k₁.1 row hrow hid))),
    fun row hrow hid => hrest _ (k₃.2 _ (k₂.1 row hrow hid)), fun row hrow hid => hrest _ (k₃.1 row hrow hid)⟩

/-- A run that adds no row has found nothing new. -/
theorem Stages.nothingNew (h : Stages adapter config data target target')
    (hsame : target'.business.targets = target.business.targets) :
    NothingNew config data (insertBatchContext config target) := by
  obtain ⟨r₁, t₁, r₂, t₂, r₃, t₃, r₄, t₄, r₅, t₅, r₆, t₆, r₇, h₁, h₂, h₃, h₄, h₅, h₆, h₇⟩ := h
  have hstart : (insertBatchContext config target).business = target.business := rfl
  have s₁ := importRows_still Business.targets
    (fun row t => HasId row.id → Known config t.auditLogs (refKey "services" row.id))
    (fun _ _ _ _ => importService_still) h₁
  have s₂ := importRows_still Business.targets
    (fun row t => HasId row.id → Known config t.auditLogs (refKey "clients" row.id))
    (fun _ _ _ _ => importClient_still) h₂
  have s₃ := importRows_still Business.targets
    (fun row t => HasId row.id → Known config t.auditLogs (refKey "orders" row.id))
    (fun _ _ _ _ => importOrder_still) h₃
  have s₄ : t₄.business = t₃.business :=
    importRows_invariant (fun t => t.business = t₃.business) (fun row _ t r t' hstep hI => by
      rcases importOrderItem_log hstep with rfl | ⟨log, rfl, -⟩ <;> exact hI) h₄ rfl
  have s₅ := importRows_still Business.targets (fun row _ => ¬ HasId row.id)
    (fun _ _ _ _ hrow => (importContract_still hrow).imp_right fun ⟨_, hbusiness, hlt⟩ => hbusiness ▸ hlt) h₅
  have s₆ := importRows_still Business.targets (fun row _ => isLinked row = false)
    (fun _ _ _ _ hrow => (importLinkedPayment_still hrow).imp_right fun ⟨_, hbusiness, hlt⟩ => hbusiness ▸ hlt) h₆
  have s₇ := importRows_still Business.targets (fun row _ => isLinked row = true)
    (fun _ _ _ _ hrow => (importOrphanPayment_still hrow).imp_right fun ⟨_, hbusiness, hlt⟩ => hbusiness ▸ hlt) h₇
  -- The tables only grow, so no stage can have added anything.
  have hle : ∀ {a b : Target} {P : Prop}, (b = a ∧ P) ∨ a.business.targets < b.business.targets →
      a.business.targets ≤ b.business.targets := by
    rintro a b P (⟨rfl, -⟩ | hlt)
    · exact le_rfl
    · exact hlt.le
  have e₁ := hle s₁
  have e₂ := hle s₂
  have e₃ := hle s₃
  have e₄ := congrArg Business.targets s₄
  have e₅ := hle s₅
  have e₆ := hle s₆
  have e₇ := hle s₇
  rw [hstart] at e₁ s₁
  obtain ⟨rfl, hservices⟩ := s₁.resolve_right (by omega)
  obtain ⟨rfl, hclients⟩ := s₂.resolve_right (by omega)
  obtain ⟨rfl, horders⟩ := s₃.resolve_right (by omega)
  obtain ⟨rfl, hcontracts⟩ := s₅.resolve_right (by omega)
  obtain ⟨rfl, hlinked⟩ := s₆.resolve_right (by omega)
  obtain ⟨rfl, horphan⟩ := s₇.resolve_right (by omega)
  refine ⟨hservices, hclients, horders, hcontracts, List.eq_nil_iff_forall_not_mem.2 fun row hrow => ?_⟩
  exact absurd ((hlinked row hrow).symm.trans (horphan row hrow)) Bool.false_ne_true

variable (adapter) in
/-- A run that finds nothing new succeeds where the guards admit it, and leaves the
business tables alone. -/
theorem stages_of_nothingNew (h : NothingNew config data (insertBatchContext config target)) :
    ∃ target', Stages adapter config data target target' ∧ target'.business = target.business := by
  obtain ⟨r₁, h₁⟩ := importRows_idle (importService config) _ fun row hrow => importReferenced_idle (h.services row hrow)
  obtain ⟨r₂, h₂⟩ := importRows_idle (importClient config) _ fun row hrow => importReferenced_idle (h.clients row hrow)
  obtain ⟨r₃, h₃⟩ := importRows_idle (importOrder adapter config) _ fun row hrow => importReferenced_idle (h.orders row hrow)
  obtain ⟨r₄, t₄, h₄⟩ := orderItems_ok adapter config data.orderItems (insertBatchContext config target)
  have s₄ : t₄.business = target.business :=
    importRows_invariant (fun t => t.business = target.business) (fun row _ t r t' hstep hI => by
      rcases importOrderItem_log hstep with rfl | ⟨log, rfl, -⟩ <;> exact hI) h₄ rfl
  obtain ⟨r₅, h₅⟩ := importRows_idle (importContract adapter config) t₄ fun row hrow => by
    refine ⟨{}, ?_⟩
    rw [importContract, if_pos (not_not.1 (h.contracts row hrow))]
    rfl
  refine ⟨t₄, ⟨r₁, _, r₂, _, r₃, _, r₄, t₄, r₅, t₄, [], t₄, [], h₁, h₂, h₃, h₄, h₅, ?_, ?_⟩, s₄⟩
  · rw [h.payments]
    rfl
  · rw [h.payments]
    rfl

/-- Running an import again succeeds and leaves the business tables alone exactly when
the source has no contract with an id and no payment. -/
theorem import_rerun_iff (h : run adapter config data target = .ok (report, target')) :
    (∃ report' target'', run adapter config data target' = .ok (report', target'') ∧
      target''.business = target'.business) ↔
    (∀ row ∈ data.contracts, ¬ HasId row.id) ∧ data.payments = [] := by
  obtain ⟨ha, hstages⟩ := run_iff.1 ⟨report, h⟩
  constructor
  · rintro ⟨report', target'', h', hsame⟩
    obtain ⟨-, hstages'⟩ := run_iff.1 ⟨report', h'⟩
    have hnothing := hstages'.nothingNew (congrArg Business.targets hsame)
    exact ⟨hnothing.contracts, hnothing.payments⟩
  · rintro ⟨hcontracts, hpayments⟩
    obtain ⟨hservices, hclients, horders⟩ := hstages.known
    have hnothing : NothingNew config data (insertBatchContext config target') :=
      ⟨fun row hrow hid => known_batchContext (hservices row hrow hid),
        fun row hrow hid => known_batchContext (hclients row hrow hid),
        fun row hrow hid => known_batchContext (horders row hrow hid), hcontracts, hpayments⟩
    obtain ⟨target'', hstages', hsame⟩ := stages_of_nothingNew adapter hnothing
    obtain ⟨report', h'⟩ := run_iff.2 ⟨hstages.admitted ha, hstages'⟩
    exact ⟨report', target'', h', hsame⟩

section Examples

def demoAdapter : SqlAlchemyStagingWriteAdapter where
  verifyTargetDb := false
  connectedDatabase := none
  enforcesForeignKeys := false
  floats := { lineTotalDiffers := fun _ _ _ => false, isZero := fun x => decide (x = 0) }

/-- Tenant 1 with its branch 10. -/
def demoConfig : StagingWriteImportConfig where
  tenantId := 1
  defaultBranchId := 10
  targetDb := "coreops_staging_0013"
  importBatchId := ⟨"consulting-staging-1", by decide⟩

/-- Nothing is imported yet. -/
def demoTarget : Target where
  business := ⟨∅, ∅, ∅, ∅, ∅, ∅, ∅, ∅⟩
  auditLogs := []
  documentTemplates := ∅
  tenants := [1]
  branches := Table.insert ∅ 10 1
  pipelines := []
  pipelineStages := []

def demoContract : ContractSource := ⟨some "1", none, none, some "K-1", some 100⟩

def demoClient : ClientSource := ⟨some "1", some "First client", none⟩

/-- The numbers of documents after one run of an import with a single contract, and after
a second. -/
theorem contract_imported_twice :
    (do
      let (_, first) ← run demoAdapter demoConfig { contracts := [demoContract] } demoTarget
      let (_, second) ← run demoAdapter demoConfig { contracts := [demoContract] } first
      return (first.business.documentInstances.rows.length, second.business.documentInstances.rows.length)) =
    .ok (1, 2) := by
  decide

/-- The theorem at an import of a client. -/
theorem import_rerun_client : ∃ report target' report' target'',
    run demoAdapter demoConfig { clients := [demoClient] } demoTarget = .ok (report, target') ∧
    run demoAdapter demoConfig { clients := [demoClient] } target' = .ok (report', target'') ∧
    target''.business = target'.business := by
  have hok : (run demoAdapter demoConfig { clients := [demoClient] } demoTarget).isOk = true := by decide
  obtain ⟨⟨report, target'⟩, hrun⟩ := exists_of_isOk hok
  obtain ⟨report', target'', hagain, hsame⟩ := (import_rerun_iff hrun).2 ⟨nofun, rfl⟩
  exact ⟨report, target', report', target'', hrun, hagain, hsame⟩

end Examples

end CoreOps.Imports
