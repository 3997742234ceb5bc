import CoreOps.Imports.Idempotence

/-! Rolling an import back. The rollback of a batch deletes its source references and
nothing else, so what the import created stays, and the next import creates it again. -/

namespace CoreOps.Imports

open Checked Text

variable {adapter : SqlAlchemyStagingWriteAdapter} {config : StagingWriteImportConfig} {data : Dataset}
  {target target' : Target} {report : ExecutionReport}

/-- How many rows each table has. -/
def Business.sizes (business : Business) : List ℕ :=
  [business.catalogItems.rows.length, business.parties.rows.length, business.contactMethods.rows.length,
    business.workItems.rows.length, business.documentInstances.rows.length, business.invoices.rows.length,
    business.payments.rows.length, business.allocations.rows.length]

/-- The rollback after a run restores the business tables, and the same import after it
creates each target once in total: as many rows as the first run left. -/
def Undoes (adapter : SqlAlchemyStagingWriteAdapter) (config : StagingWriteImportConfig) (data : Dataset)
    (target target' : Target) : Prop :=
  (rollbackBatch config target').2.business = target.business ∧
    ∃ report target'', run adapter config data (rollbackBatch config target').2 = .ok (report, target'') ∧
      target''.business.sizes = target'.business.sizes

/-- The source has no row that an import makes something of. -/
structure NothingToImport (data : Dataset) : Prop where
  services : ∀ row ∈ data.services, ¬ HasId row.id
  clients : ∀ row ∈ data.clients, ¬ HasId row.id
  orders : ∀ row ∈ data.orders, ¬ HasId row.id
  contracts : ∀ row ∈ data.contracts, ¬ HasId row.id
  payments : data.payments = []

theorem NothingToImport.nothingNew (h : NothingToImport data) (target : Target) : NothingNew config data target :=
  ⟨fun row hrow hid => absurd hid (h.services row hrow), fun row hrow hid => absurd hid (h.clients row hrow),
    fun row hrow hid => absurd hid (h.orders row hrow), h.contracts, h.payments⟩

theorem targets_of_sizes {b b' : Business} (h : b'.sizes = b.sizes) : b'.targets = b.targets := by
  simp only [Business.sizes, List.cons.injEq] at h
  obtain ⟨hcatalog, hparties, -, hwork, hdocuments, -, hpayments, -⟩ := h
  simp only [Business.targets, hcatalog, hparties, hwork, hdocuments, hpayments]

/-- A batch id is not what a missing entry reads as. -/
theorem importBatchId_of_text {entry : Option String} (h : textOf entry = config.importBatchId.value) :
    entry = some config.importBatchId.value := by
  cases entry with
  | some text => exact congrArg some h
  | none =>
    have hvalid := config.importBatchId.valid
    rw [← h] at hvalid
    exact absurd hvalid (by decide)

/-- No reference of the batch is known after its rollback. -/
theorem not_known_rollback (key : String) :
    ¬ Known config (insertBatchContext config (rollbackBatch config target).2).auditLogs key := by
  rintro ⟨row, hreg, hbatch⟩
  have hmem : row ∈ registered (insertBatchContext config (rollbackBatch config target).2).auditLogs config.tenantId key := by
    rw [hreg]
    exact List.mem_singleton_self row
  obtain ⟨hlogs, hkey⟩ := List.mem_filter.1 hmem
  have href : isSourceRef config.tenantId row = true := (Bool.and_eq_true_iff.1 hkey).1
  rcases List.mem_append.1 hlogs with hkept | hmarker
  · have hno : (!isBatchRef config row) = true := (List.mem_filter.1 hkept).2
    simp [isBatchRef, href, importBatchId_of_text hbatch] at hno
  · rw [List.mem_singleton.1 hmarker] at href
    simp [isSourceRef, sourceRefEntity] at href

/-- The rollback undoes an import exactly when there was nothing to import. -/
theorem import_rollback_iff (h : run adapter config data target = .ok (report, target')) :
    Undoes adapter config data target target' ↔ NothingToImport data := by
  obtain ⟨ha, hstages⟩ := run_iff.1 ⟨report, h⟩
  constructor
  · rintro ⟨-, report', target'', h', hsizes⟩
    obtain ⟨-, hstages'⟩ := run_iff.1 ⟨report', h'⟩
    have hnew := hstages'.nothingNew (targets_of_sizes hsizes)
    exact ⟨fun row hrow hid => not_known_rollback _ (hnew.services row hrow hid),
      fun row hrow hid => not_known_rollback _ (hnew.clients row hrow hid),
      fun row hrow hid => not_known_rollback _ (hnew.orders row hrow hid), hnew.contracts, hnew.payments⟩
  · intro hnothing
    obtain ⟨target₁, hstages₁, hsame₁⟩ :=
      stages_of_nothingNew adapter (hnothing.nothingNew (insertBatchContext config target))
    obtain ⟨report₁, h₁⟩ := run_iff.2 ⟨ha, hstages₁⟩
    obtain ⟨-, rfl⟩ := Prod.mk.inj (Except.ok.inj (h.symm.trans h₁))
    obtain ⟨target₂, hstages₂, hsame₂⟩ := stages_of_nothingNew adapter
      (hnothing.nothingNew (insertBatchContext config (rollbackBatch config target').2))
    have ha' : Admitted adapter config (rollbackBatch config target').2 := hstages.admitted ha
    obtain ⟨report₂, h₂⟩ := run_iff.2 ⟨ha', hstages₂⟩
    exact ⟨hsame₁, report₂, target₂, h₂, congrArg Business.sizes hsame₂⟩

section Examples

/-- The numbers of parties before an import of one client, after it, after its rollback,
and after the same import again. -/
theorem client_survives_rollback :
    (do
      let (_, imported) ← run demoAdapter demoConfig { clients := [demoClient] } demoTarget
      let restored := (rollbackBatch demoConfig imported).2
      let (_, again) ← run demoAdapter demoConfig { clients := [demoClient] } restored
      return ([demoTarget, imported, restored, again].map fun (t : Target) => t.business.parties.rows.length)) =
    .ok [0, 1, 1, 2] := by
  decide

/-- The theorem at an import of a client without an id. -/
theorem import_rollback_nothing : ∃ report target',
    run demoAdapter demoConfig { clients := [{ demoClient with id := none }] } demoTarget = .ok (report, target') ∧
    Undoes demoAdapter demoConfig { clients := [{ demoClient with id := none }] } demoTarget target' := by
  have hok : (run demoAdapter demoConfig { clients := [{ demoClient with id := none }] } demoTarget).isOk = true := by
    decide
  obtain ⟨⟨report, target'⟩, hrun⟩ := exists_of_isOk hok
  refine ⟨report, target', hrun, (import_rollback_iff hrun).2 ⟨nofun, fun row hrow => ?_, nofun, nofun, rfl⟩⟩
  rw [List.mem_singleton.1 hrow]
  exact not_not.2 rfl

end Examples

end CoreOps.Imports
