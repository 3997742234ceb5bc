import CoreOps.Imports.Idempotence
import CoreOps.Lib.Runs

/-! The registry of source references over runs and rollbacks. What is entered in the log is
stated once; that a reference is registered at most once, and stays with its batch until
that batch is rolled back, follows for one entry, for a run, and for any calls. -/

namespace CoreOps.Imports

open Checked Text

/-- A call of the adapter. -/
inductive Call
  | run (adapter : SqlAlchemyStagingWriteAdapter) (config : StagingWriteImportConfig) (data : Dataset)
  | rollbackBatch (config : StagingWriteImportConfig)

/-- A run that raises leaves nothing. -/
def exec (target : Target) : Call → Except ImportError Target
  | .run adapter config data => do
    let (_, target') ← run adapter config data target
    return target'
  | .rollbackBatch config => return (rollbackBatch config target).2

/-- Nothing is registered. -/
def EmptyRegistry (target : Target) : Prop := ∀ row ∈ target.auditLogs, row.entityType ≠ some sourceRefEntity

/-- A source row of the three tables has the reference. -/
def Names (data : Dataset) (key : String) : Prop :=
  (∃ row ∈ data.services, HasId row.id ∧ refKey "services" row.id = key) ∨
  (∃ row ∈ data.clients, HasId row.id ∧ refKey "clients" row.id = key) ∨
  ∃ row ∈ data.orders, HasId row.id ∧ refKey "orders" row.id = key

def ambiguous : ImportError := .blocked "BLOCKED:Ambiguous duplicate source refs"

/-! Entries. -/

/-- What a run enters in the log: a reference that is not registered, under its batch, or
something else. -/
inductive Enters (config : StagingWriteImportConfig) (logs : List AuditLog) : List AuditLog → Prop
  | nothing : Enters config logs logs
  | other (row : AuditLog) : row.entityType ≠ some sourceRefEntity → Enters config logs (logs ++ [row])
  | reference (row : AuditLog) : Unknown config logs row.summary → isSourceRef config.tenantId row = true →
    row.metadata.importBatchId = some config.importBatchId.value → Enters config logs (logs ++ [row])

section Enters

variable {adapter : SqlAlchemyStagingWriteAdapter} {config : StagingWriteImportConfig} {data : Dataset}
  {target target' : Target} {logs logs' : List AuditLog}

theorem enters_insertBatchContext (target : Target) :
    Enters config target.auditLogs (insertBatchContext config target).auditLogs :=
  .other _ (show some "legacy_import_batch" ≠ some sourceRefEntity by decide)

theorem importReferenced_enters {sourceTable targetEntity : String} {id : Option String} {result : RowResult}
    {create : String → Business → Except ImportError (ℕ × Business)}
    (h : importReferenced config sourceTable targetEntity id create target = .ok (result, target')) :
    Enters config target.auditLogs target'.auditLogs := by
  rcases importReferenced_cases h with ⟨-, rfl⟩ | ⟨-, -, rfl⟩ | ⟨-, hunknown, -, row, htarget, href, hsummary, hbatch⟩
  · exact .nothing
  · exact .nothing
  · have hlogs : target'.auditLogs = target.auditLogs ++ [row] := congrArg Target.auditLogs htarget
    rw [hlogs]
    exact .reference row (hsummary ▸ hunknown) href hbatch

theorem importOrderItem_enters {row : OrderItemSource} {result : RowResult}
    (h : importOrderItem adapter config row target = .ok (result, target')) :
    Enters config target.auditLogs target'.auditLogs := by
  unfold importOrderItem at h
  by_cases hid : orElse row.orderId "" = ""
  · rw [if_pos hid] at h
    obtain ⟨-, rfl⟩ := Prod.mk.inj (Except.ok.inj h)
    exact .nothing
  · rw [if_neg hid] at h
    split at h
    · obtain ⟨-, rfl⟩ := Prod.mk.inj (Except.ok.inj h)
      exact .other _ (show some "legacy_line_amount_review" ≠ some sourceRefEntity by decide)
    · obtain ⟨-, rfl⟩ := Prod.mk.inj (Except.ok.inj h)
      exact .nothing

/-- What each entry keeps, a run keeps. -/
theorem Stages.keeps_log (I : List AuditLog → Prop) (hI : ∀ logs logs', I logs → Enters config logs logs' → I logs')
    (h : Stages adapter config data target target') (h0 : I target.auditLogs) : I target'.auditLogs := by
  obtain ⟨r₁, t₁, r₂, t₂, r₃, t₃, r₄, t₄, r₅, t₅, r₆, t₆, r₇, h₁, h₂, h₃, h₄, h₅, h₆, h₇⟩ := h
  let J : Target → Prop := fun t => I t.auditLogs
  have i₀ : J (insertBatchContext config target) := hI _ _ h0 (enters_insertBatchContext target)
  have i₁ : J t₁ := importRows_invariant J (fun _ _ _ _ _ hstep hJ => hI _ _ hJ (importReferenced_enters hstep)) h₁ i₀
  have i₂ : J t₂ := importRows_invariant J (fun _ _ _ _ _ hstep hJ => hI _ _ hJ (importReferenced_enters hstep)) h₂ i₁
  have i₃ : J t₃ := importRows_invariant J (fun _ _ _ _ _ hstep hJ => hI _ _ hJ (importReferenced_enters hstep)) h₃ i₂
  have i₄ : J t₄ := importRows_invariant J (fun _ _ _ _ _ hstep hJ => hI _ _ hJ (importOrderItem_enters hstep)) h₄ i₃
  have i₅ : J t₅ := importRows_invariant J (fun _ _ _ _ _ hstep hJ => by
    rcases importContract_still hstep with ⟨rfl, -⟩ | ⟨business, rfl, -⟩ <;> exact hJ) h₅ i₄
  have i₆ : J t₆ := importRows_invariant J (fun _ _ _ _ _ hstep hJ => by
    rcases importLinkedPayment_still hstep with ⟨rfl, -⟩ | ⟨business, rfl, -⟩ <;> exact hJ) h₆ i₅
  exact importRows_invariant J (fun _ _ _ _ _ hstep hJ => by
    rcases importOrphanPayment_still hstep with ⟨rfl, -⟩ | ⟨business, rfl, -⟩ <;> exact hJ) h₇ i₆

end Enters

/-! What entries keep. -/

section Kept

variable {config : StagingWriteImportConfig} {logs logs' : List AuditLog} {tenantId : ℕ} {key : String} {row : AuditLog}

/-- No reference is registered twice. -/
def Unambiguous (logs : List AuditLog) : Prop := ∀ tenantId key, (registered logs tenantId key).length ≤ 1

/-- Every reference was registered by a batch. -/
def Owned (logs : List AuditLog) : Prop :=
  ∀ row ∈ logs, row.entityType = some sourceRefEntity → ∃ owner : ImportBatchId, row.metadata.importBatchId = some owner.value

theorem isSourceRef_iff : isSourceRef tenantId row = true ↔ row.tenantId = some tenantId ∧ row.entityType = some sourceRefEntity :=
  decide_eq_true_iff

theorem registered_other (h : row.entityType ≠ some sourceRefEntity) :
    registered (logs ++ [row]) tenantId key = registered logs tenantId key := by
  have hno : isSourceRef tenantId row = false := Bool.eq_false_iff.2 fun href => h (isSourceRef_iff.1 href).2
  rw [registered_append, hno, Bool.false_and, if_neg Bool.false_ne_true, List.append_nil]

/-- A new reference is registered under its own key and no other. -/
theorem registered_reference (hunknown : Unknown config logs row.summary) (href : isSourceRef config.tenantId row = true) :
    registered (logs ++ [row]) tenantId key = registered logs tenantId key ∨
      (registered logs tenantId key = [] ∧ registered (logs ++ [row]) tenantId key = [row] ∧ tenantId = config.tenantId ∧
        key = row.summary) := by
  rw [registered_append]
  by_cases hrow : (isSourceRef tenantId row && row.summary = key) = true
  · rw [if_pos hrow]
    obtain ⟨href', hkey⟩ := Bool.and_eq_true_iff.1 hrow
    obtain rfl := of_decide_eq_true hkey
    have htenant : tenantId = config.tenantId :=
      Option.some.inj ((isSourceRef_iff.1 href').1.symm.trans (isSourceRef_iff.1 href).1)
    have hnone : registered logs tenantId row.summary = [] := htenant ▸ hunknown
    rw [hnone]
    exact .inr ⟨rfl, rfl, htenant, rfl⟩
  · rw [if_neg hrow, List.append_nil]
    exact .inl rfl

theorem Unambiguous.enters (h : Unambiguous logs) (he : Enters config logs logs') : Unambiguous logs' := by
  intro tenantId key
  cases he with
  | nothing => exact h tenantId key
  | other row hother => exact (registered_other hother).symm ▸ h tenantId key
  | reference row hunknown href _ =>
    rcases registered_reference hunknown href with hsame | ⟨-, hnew, -⟩
    · rw [hsame]
      exact h tenantId key
    · rw [hnew]
      exact le_rfl

theorem Owned.enters (h : Owned logs) (he : Enters config logs logs') : Owned logs' := by
  cases he with
  | nothing => exact h
  | other row hother =>
    intro r hr hentity
    rcases List.mem_append.1 hr with hr | hr
    · exact h r hr hentity
    · rw [List.mem_singleton.1 hr] at hentity
      exact absurd hentity hother
  | reference row _ _ hbatch =>
    intro r hr hentity
    rcases List.mem_append.1 hr with hr | hr
    · exact h r hr hentity
    · rw [List.mem_singleton.1 hr]
      exact ⟨config.importBatchId, hbatch⟩

/-- A registered reference stays the one it is. -/
theorem registered_enters (h : registered logs tenantId key = [row]) (he : Enters config logs logs') :
    registered logs' tenantId key = [row] := by
  cases he with
  | nothing => exact h
  | other row' hother => exact (registered_other hother).trans h
  | reference row' hunknown href _ =>
    rcases registered_reference hunknown href with hsame | ⟨hnone, -⟩
    · exact hsame.trans h
    · rw [h] at hnone
      exact absurd hnone (List.cons_ne_nil _ _)

/-- A rollback deletes the references of its batch. -/
theorem registered_rollback (config : StagingWriteImportConfig) (target : Target) (tenantId : ℕ) (key : String) :
    registered (rollbackBatch config target).2.auditLogs tenantId key =
      (registered target.auditLogs tenantId key).filter fun row => !isBatchRef config row :=
  List.filter_comm _ _ _

/-! Calls. -/

variable {target target' : Target} {call : Call}

/-- What each entry and each rollback keeps, a call keeps. -/
theorem exec_keeps (I : List AuditLog → Prop) (henters : ∀ config logs logs', I logs → Enters config logs logs' → I logs')
    (hrollback : ∀ config target, call = .rollbackBatch config → I target.auditLogs →
      I (rollbackBatch config target).2.auditLogs)
    (h : exec target call = .ok target') (hI : I target.auditLogs) : I target'.auditLogs := by
  cases call with
  | run adapter config data =>
    simp only [exec, bind_eq_ok, pure_eq_ok, Prod.exists] at h
    obtain ⟨report, t, hrun, rfl⟩ := h
    exact (run_iff.1 ⟨report, hrun⟩).2.keeps_log I (henters config) hI
  | rollbackBatch config =>
    obtain rfl := Except.ok.inj h
    exact hrollback config target rfl hI

theorem exec_unambiguous (h : exec target call = .ok target') (hI : Unambiguous target.auditLogs) :
    Unambiguous target'.auditLogs := by
  refine exec_keeps Unambiguous (fun _ _ _ hI he => hI.enters he) (fun config target _ hI tenantId key => ?_) h hI
  rw [registered_rollback]
  exact (List.length_filter_le _ _).trans (hI tenantId key)

theorem exec_owned (h : exec target call = .ok target') (hI : Owned target.auditLogs) : Owned target'.auditLogs :=
  exec_keeps Owned (fun _ _ _ hI he => hI.enters he)
    (fun _ _ _ hI row hrow => hI row (List.mem_filter.1 hrow).1) h hI

/-- A reference stays registered until its batch is rolled back. -/
theorem exec_registered (hcall : ∀ config, call = .rollbackBatch config → isBatchRef config row = false)
    (h : exec target call = .ok target') (hI : registered target.auditLogs tenantId key = [row]) :
    registered target'.auditLogs tenantId key = [row] := by
  refine exec_keeps (fun logs => registered logs tenantId key = [row]) (fun _ _ _ hI he => registered_enters hI he)
    (fun config target hcall' hI => ?_) h hI
  rw [registered_rollback, hI, List.filter_cons_of_pos (by rw [hcall config hcall']; rfl), List.filter_nil]

end Kept

/-! The errors of a run. -/

section Errors

variable {adapter : SqlAlchemyStagingWriteAdapter} {config : StagingWriteImportConfig} {data : Dataset} {target : Target}

/-- A single reference is either known or another batch's. -/
theorem resolveConflictAction_single {current incoming : SourceIdentity} {e : ImportError}
    (h : resolveConflictAction [current] incoming = .error e) :
    e = .sourceRefConflict "Tenant mismatch for existing source ref" ∨
      e = .sourceRefConflict "Source ref already belongs to another import batch" := by
  by_cases htenant : current.tenantId ≠ incoming.tenantId
  · simp only [resolveConflictAction, raiseIf, if_pos htenant] at h
    exact .inl (Except.error.inj h).symm
  · by_cases hbatch : current.importBatchId ≠ incoming.importBatchId
    · simp only [resolveConflictAction, raiseIf, if_neg htenant, if_pos hbatch] at h
      exact .inr (Except.error.inj h).symm
    · simp only [resolveConflictAction, raiseIf, if_neg htenant, if_neg hbatch] at h
      cases h

theorem resolveSourceRefAction_avoids (h : Unambiguous target.auditLogs) (incoming : SourceIdentity) :
    Avoids ambiguous (resolveSourceRefAction target incoming) := by
  have hlength := h incoming.tenantId (buildSourceRef incoming.sourceTable incoming.sourceId)
  simp only [resolveSourceRefAction]
  rcases hreg : registered target.auditLogs incoming.tenantId (buildSourceRef incoming.sourceTable incoming.sourceId) with
    _ | ⟨row, _ | ⟨other, rest⟩⟩
  · exact avoids_ok _ _
  · rw [List.map_cons, List.map_nil]
    cases hresolve : resolveConflictAction [⟨textOf row.metadata.sourceSystem, textOf row.metadata.sourceTable,
        textOf row.metadata.sourceId, incoming.tenantId, textOf row.metadata.importBatchId⟩] incoming with
    | ok action => exact avoids_ok _ _
    | error e =>
      rcases resolveConflictAction_single hresolve with rfl | rfl
      · exact avoids_error fun heq => absurd (ImportError.blocked.inj heq) (by decide)
      · exact avoids_error fun heq => absurd (ImportError.blocked.inj heq) (by decide)
  · rw [hreg] at hlength
    simp at hlength

theorem moneyColumn_avoids (x : ℚ) : Avoids ambiguous (moneyColumn x) := by
  unfold moneyColumn
  cases Finance.moneyColumn x with
  | ok cents => exact avoids_ok _ _
  | error e => exact avoids_error fun heq => by cases heq

theorem mapM_moneyColumn_avoids (x : Option ℚ) : Avoids ambiguous (x.mapM moneyColumn) := by
  cases x with
  | none => exact avoids_ok _ _
  | some x => exact (moneyColumn_avoids x).bind fun _ _ => avoids_ok _ _

theorem integrityError_ne : ImportError.integrityError ≠ ambiguous := by
  intro heq
  cases heq

theorem preflight_ne (message : String) : ImportError.preflight message ≠ ambiguous := by
  intro heq
  cases heq

section Create

variable {sourceId : String} {business : Business}

theorem createCatalogItem_avoids (row : ServiceSource) : Avoids ambiguous (createCatalogItem config row sourceId business) :=
  (mapM_moneyColumn_avoids _).bind fun _ _ => (avoids_raiseIf integrityError_ne).bind fun _ _ => avoids_ok _ _

theorem createWorkItem_avoids (keysHold : Bool) (row : OrderSource) :
    Avoids ambiguous (createWorkItem config keysHold row sourceId business) :=
  (mapM_moneyColumn_avoids _).bind fun _ _ => (avoids_raiseIf integrityError_ne).bind fun _ _ => avoids_ok _ _

theorem createPaymentRow_avoids (row : PaymentSource) (needsReview unlinked : Bool) :
    Avoids ambiguous (createPaymentRow config row needsReview unlinked business) :=
  (moneyColumn_avoids _).bind fun _ _ => (avoids_orRaise integrityError_ne).bind fun _ _ => avoids_ok _ _

theorem createInvoiceShell_avoids (row : PaymentSource) : Avoids ambiguous (createInvoiceShell config row business) :=
  (moneyColumn_avoids _).bind fun _ _ => (avoids_raiseIf integrityError_ne).bind fun _ _ => avoids_ok _ _

theorem allocateLinked_avoids (row : PaymentSource) (paymentId invoiceId : ℕ) :
    Avoids ambiguous (allocateLinked config row paymentId invoiceId business) :=
  (moneyColumn_avoids _).bind fun _ _ => (avoids_raiseIf integrityError_ne).bind fun _ _ => avoids_ok _ _

end Create

theorem registerSourceRef_avoids (source : SourceIdentity) (targetEntity : String) (targetId : ℕ) :
    Avoids ambiguous (registerSourceRef source targetEntity targetId target) :=
  (avoids_raiseIf (preflight_ne _)).bind fun _ _ => (avoids_raiseIf (preflight_ne _)).bind fun _ _ => avoids_ok _ _

theorem importReferenced_avoids {sourceTable targetEntity : String} {id : Option String}
    {create : String → Business → Except ImportError (ℕ × Business)}
    (hcreate : ∀ sourceId business, Avoids ambiguous (create sourceId business)) (h : Unambiguous target.auditLogs) :
    Avoids ambiguous (importReferenced config sourceTable targetEntity id create target) := by
  unfold importReferenced
  by_cases hid : orElse id "" = ""
  · rw [if_pos hid]
    exact avoids_ok _ _
  · rw [if_neg hid]
    refine (resolveSourceRefAction_avoids h _).bind fun action _ => ?_
    have hinsert := fun (b : Business) => (hcreate (orElse id "") b).bind fun p _ =>
      (show Avoids ambiguous (registerSourceRef (identityOf config sourceTable (orElse id "")) targetEntity p.1
          (target.withBusiness p.2)) from registerSourceRef_avoids _ _ _).bind
        fun t _ => avoids_ok ambiguous (({ imported := true } : RowResult), t)
    cases action with
    | insert => exact hinsert _
    | skipExisting => exact avoids_ok _ _
    | updateSafeMetadata => exact hinsert _
    | conflict => exact avoids_ok _ _

/-- A loop whose rounds do not raise the error, where they keep what they need for it. -/
theorem importRows_avoids {ρ : Type} {step : ρ → Target → Except ImportError (RowResult × Target)} (I : Target → Prop)
    (hs : ∀ row t r t', step row t = .ok (r, t') → I t → I t') (ha : ∀ row t, I t → Avoids ambiguous (step row t))
    (rows : List ρ) (hI : I target) : Avoids ambiguous (importRows step rows target) := by
  induction rows generalizing target with
  | nil => exact avoids_ok _ _
  | cons row rows ih =>
    refine (ha row target hI).bind fun ⟨r, t⟩ hstep => ?_
    exact (ih (hs row target r t hstep hI)).bind fun ⟨rest, t'⟩ _ => avoids_ok _ _

/-- The loops that go by the references. -/
theorem importReferencedRows_avoids {ρ : Type} {step : ρ → Target → Except ImportError (RowResult × Target)}
    {sourceTable targetEntity : String} {id : ρ → Option String}
    {create : ρ → Target → String → Business → Except ImportError (ℕ × Business)}
    (hstep : ∀ row t, step row t = importReferenced config sourceTable targetEntity (id row) (create row t) t)
    (hcreate : ∀ row t sourceId business, Avoids ambiguous (create row t sourceId business)) (rows : List ρ)
    (h : Unambiguous target.auditLogs) :
    Avoids ambiguous (importRows step rows target) ∧
      ∀ results t, importRows step rows target = .ok (results, t) → Unambiguous t.auditLogs := by
  have hs : ∀ row t r t', step row t = .ok (r, t') → Unambiguous t.auditLogs → Unambiguous t'.auditLogs := by
    intro row t r t' hok hI
    rw [hstep] at hok
    exact hI.enters (importReferenced_enters hok)
  refine ⟨importRows_avoids (fun t => Unambiguous t.auditLogs) hs (fun row t hI => ?_) rows h, fun results t hok => ?_⟩
  · rw [hstep]
    exact importReferenced_avoids (hcreate row t) hI
  · exact importRows_invariant (fun t => Unambiguous t.auditLogs) (fun row _ => hs row) hok h

theorem importOrderItem_avoids (row : OrderItemSource) : Avoids ambiguous (importOrderItem adapter config row target) := by
  obtain ⟨r, t, hok, -⟩ := importOrderItem_ok adapter config row target
  rw [hok]
  exact avoids_ok _ _

theorem importContract_avoids (row : ContractSource) : Avoids ambiguous (importContract adapter config row target) := by
  unfold importContract
  by_cases hid : orElse row.id "" = ""
  · rw [if_pos hid]
    exact avoids_ok _ _
  · rw [if_neg hid]
    exact avoids_ok _ _

theorem importLinkedPayment_avoids (row : PaymentSource) : Avoids ambiguous (importLinkedPayment config row target) := by
  unfold importLinkedPayment
  by_cases hlinked : isLinked row = true
  · rw [if_pos hlinked]
    exact (createPaymentRow_avoids row false false).bind fun ⟨_, _⟩ _ => (createInvoiceShell_avoids row).bind fun ⟨_, _⟩ _ =>
      (allocateLinked_avoids row _ _).bind fun _ _ => avoids_ok _ _
  · rw [if_neg hlinked]
    exact avoids_ok _ _

theorem importOrphanPayment_avoids (row : PaymentSource) : Avoids ambiguous (importOrphanPayment config row target) := by
  unfold importOrphanPayment
  by_cases hlinked : isLinked row = true
  · rw [if_pos hlinked]
    exact avoids_ok _ _
  · rw [if_neg hlinked]
    exact (createPaymentRow_avoids row true true).bind fun ⟨_, _⟩ _ => avoids_ok _ _

theorem executeImportOrder_avoids (h : Unambiguous target.auditLogs) :
    Avoids ambiguous (executeImportOrder adapter config data target) := by
  have h0 : Unambiguous (insertBatchContext config target).auditLogs := h.enters (enters_insertBatchContext target)
  obtain ⟨a₁, k₁⟩ := importReferencedRows_avoids (fun _ _ => rfl) (fun row _ _ _ => createCatalogItem_avoids row)
    data.services h0
  refine a₁.bind fun ⟨services, t₁⟩ h₁ => ?_
  obtain ⟨a₂, k₂⟩ := importReferencedRows_avoids (fun _ _ => rfl) (fun _ _ _ _ => avoids_ok _ _) data.clients (k₁ services t₁ h₁)
  refine a₂.bind fun ⟨clients, t₂⟩ h₂ => ?_
  obtain ⟨a₃, -⟩ := importReferencedRows_avoids (fun _ _ => rfl) (fun row _ _ _ => createWorkItem_avoids _ row)
    data.orders (k₂ clients t₂ h₂)
  refine a₃.bind fun ⟨orders, t₃⟩ _ => ?_
  -- the other stages do not look at the registry
  have hrest : ∀ {ρ : Type} {step : ρ → Target → Except ImportError (RowResult × Target)} (rows : List ρ) {t : Target},
      (∀ row t, Avoids ambiguous (step row t)) → Avoids ambiguous (importRows step rows t) := fun rows _ ha =>
    importRows_avoids (fun _ => True) (fun _ _ _ _ _ _ => trivial) (fun row t _ => ha row t) rows trivial
  refine (hrest _ fun row _ => importOrderItem_avoids row).bind fun ⟨_, _⟩ _ => ?_
  refine (hrest _ fun row _ => importContract_avoids row).bind fun ⟨_, _⟩ _ => ?_
  refine (hrest _ fun row _ => importLinkedPayment_avoids row).bind fun ⟨_, _⟩ _ => ?_
  exact (hrest _ fun row _ => importOrphanPayment_avoids row).bind fun ⟨_, _⟩ _ => avoids_ok _ _

/-- A message that starts otherwise. -/
theorem blocked_ne {start : String} (rest : String)
    (h : start.toList.isPrefixOf "BLOCKED:Ambiguous duplicate source refs".toList = false) :
    ImportError.blocked (start ++ rest) ≠ ambiguous := by
  intro heq
  have hmessage := congrArg String.toList (ImportError.blocked.inj heq)
  have hstart : start.toList <+: "BLOCKED:Ambiguous duplicate source refs".toList := by
    rw [← hmessage, String.toList_append]
    exact List.prefix_append _ _
  rw [List.isPrefixOf_iff_prefix.2 hstart] at h
  cases h

theorem assertTenantBranchGuards_avoids : Avoids ambiguous (assertTenantBranchGuards config target) := by
  refine (avoids_raiseIf (blocked_ne _ (by decide))).bind fun _ _ => ?_
  refine (avoids_orRaise (blocked_ne _ (by decide))).bind fun _ _ => ?_
  exact avoids_raiseIf fun heq => absurd (ImportError.blocked.inj heq) (by decide)

theorem validateTargetDb_avoids (targetDb : String) : Avoids ambiguous (validateTargetDb targetDb) :=
  (avoids_raiseIf (preflight_ne _)).bind fun _ _ => (avoids_raiseIf (preflight_ne _)).bind fun _ _ =>
    (avoids_raiseIf (preflight_ne _)).bind fun _ _ => avoids_ok _ _

theorem checkConnection_avoids : Avoids ambiguous (checkConnection adapter config) := by
  have hname : Avoids ambiguous (queryConnectedDatabaseName adapter) :=
    (avoids_orRaise (preflight_ne _)).bind fun _ _ => (avoids_raiseIf (preflight_ne _)).bind fun _ _ => avoids_ok _ _
  unfold checkConnection
  split
  · exact (validateTargetDb_avoids _).bind fun _ _ => hname.bind fun _ _ =>
      (avoids_raiseIf (preflight_ne _)).bind fun _ _ => avoids_raiseIf (preflight_ne _)
  · exact avoids_ok _ _

theorem run_avoids (h : Unambiguous target.auditLogs) : Avoids ambiguous (run adapter config data target) :=
  checkConnection_avoids.bind fun _ _ => assertTenantBranchGuards_avoids.bind fun _ _ =>
    checkConnection_avoids.bind fun _ _ => executeImportOrder_avoids h

end Errors

/-! The theorem. -/

section Main

variable {target₀ target target' : Target} {calls later : List Call} {tenantId : ℕ} {key : String} {row : AuditLog}

theorem ImportBatchId.eq_of_value {a b : ImportBatchId} (h : a.value = b.value) : a = b := by
  cases a
  cases b
  cases h
  rfl

theorem EmptyRegistry.unambiguous (h : EmptyRegistry target) : Unambiguous target.auditLogs := by
  intro tenantId key
  have hnone : registered target.auditLogs tenantId key = [] := List.filter_eq_nil_iff.2 fun row hrow hkey =>
    h row hrow (isSourceRef_iff.1 (Bool.and_eq_true_iff.1 hkey).1).2
  rw [hnone]
  exact Nat.zero_le _

/-- A run lays claim to the references that its source names. -/
theorem Stages.names_known {adapter : SqlAlchemyStagingWriteAdapter} {config : StagingWriteImportConfig} {data : Dataset}
    (h : Stages adapter config data target target') (hnames : Names data key) : Known config target'.auditLogs key := by
  obtain ⟨hservices, hclients, horders⟩ := h.known
  rcases hnames with ⟨row, hrow, hid, rfl⟩ | ⟨row, hrow, hid, rfl⟩ | ⟨row, hrow, hid, rfl⟩
  · exact hservices row hrow hid
  · exact hclients row hrow hid
  · exact horders row hrow hid

/-- No later call takes a reference from its batch. -/
theorem registered_run (hcalls : ∀ config, Call.rollbackBatch config ∈ later → isBatchRef config row = false)
    (h : Run (CallStep exec) target later target') (hrow : registered target.auditLogs tenantId key = [row]) :
    registered target'.auditLogs tenantId key = [row] := by
  induction h with
  | nil => exact hrow
  | snoc _ hstep ih =>
    subst hstep
    refine settle_keeps (I := fun (t : Target) => registered t.auditLogs tenantId key = [row])
      (ih fun config hmem => hcalls config (List.mem_append_left _ hmem)) fun t hok => ?_
    exact exec_registered (fun config hcall => hcalls config (hcall ▸ List.mem_append_right _ List.mem_cons_self)) hok
      (ih fun config hmem => hcalls config (List.mem_append_left _ hmem))

/-- After any calls a tenant has a reference registered at most once, no run finds one
registered twice, and a reference stays with the batch that registered it, closed to the
runs of every other, until that batch is rolled back. -/
theorem source_refs_unique_and_owned (h0 : EmptyRegistry target₀) (h : Run (CallStep exec) target₀ calls target) :
    Unambiguous target.auditLogs ∧
    (∀ adapter config data, run adapter config data target ≠ .error ambiguous) ∧
    ∀ tenantId key row, row ∈ registered target.auditLogs tenantId key →
      ∃ owner : ImportBatchId, row.metadata.importBatchId = some owner.value ∧
        ∀ later target', Run (CallStep exec) target later target' →
          (∀ config, Call.rollbackBatch config ∈ later → ¬ (config.tenantId = tenantId ∧ config.importBatchId = owner)) →
          registered target'.auditLogs tenantId key = [row] ∧
          ∀ adapter config data report target'', config.tenantId = tenantId → config.importBatchId ≠ owner →
            run adapter config data target' = .ok (report, target'') → ¬ Names data key := by
  have hunambiguous : Unambiguous target.auditLogs :=
    h.invariant_calls (fun t => Unambiguous t.auditLogs) h0.unambiguous fun _ _ _ hI hok => exec_unambiguous hok hI
  have howned : Owned target.auditLogs :=
    h.invariant_calls (fun t => Owned t.auditLogs) (fun row hrow hentity => absurd hentity (h0 row hrow))
      fun _ _ _ hI hok => exec_owned hok hI
  refine ⟨hunambiguous, fun _ _ _ => run_avoids hunambiguous, fun tenantId key row hrow => ?_⟩
  obtain ⟨hmem, hkey⟩ := List.mem_filter.1 hrow
  obtain ⟨htenant, hentity⟩ := isSourceRef_iff.1 (Bool.and_eq_true_iff.1 hkey).1
  obtain ⟨owner, howner⟩ := howned row hmem hentity
  refine ⟨owner, howner, fun later target' hlater hcalls => ?_⟩
  have hsingle : registered target.auditLogs tenantId key = [row] := by
    obtain ⟨r, hr⟩ := List.length_eq_one_iff.1 (le_antisymm (hunambiguous tenantId key) (List.length_pos_of_mem hrow))
    rw [hr] at hrow ⊢
    rw [List.mem_singleton.1 hrow]
  have hstays := registered_run (fun config hmem => ?_) hlater hsingle
  · refine ⟨hstays, fun adapter config data report target'' hconfig hother hrun hnames => ?_⟩
    have hstages := (run_iff.1 ⟨report, hrun⟩).2
    obtain ⟨row', hreg, hbatch⟩ := hstages.names_known hnames
    have hkept := hstages.keeps_log (fun logs => registered logs tenantId key = [row])
      (fun _ _ hI he => registered_enters hI he) hstays
    rw [hconfig, hkept] at hreg
    obtain rfl := List.head_eq_of_cons_eq hreg
    rw [howner] at hbatch
    exact hother (ImportBatchId.eq_of_value hbatch.symm)
  · refine Bool.eq_false_iff.2 fun hbatch => hcalls config hmem ?_
    obtain ⟨href, hid⟩ := Bool.and_eq_true_iff.1 hbatch
    have hvalue : row.metadata.importBatchId = some config.importBatchId.value := of_decide_eq_true hid
    refine ⟨Option.some.inj ((isSourceRef_iff.1 href).1.symm.trans htenant), ImportBatchId.eq_of_value ?_⟩
    exact Option.some.inj (hvalue.symm.trans howner)

section Examples

/-- The same tenant in another batch. -/
def otherBatch : StagingWriteImportConfig :=
  { demoConfig with importBatchId := ⟨"consulting-staging-2", by decide⟩ }

def demoRun : Call := .run demoAdapter demoConfig { clients := [demoClient] }

/-- The theorem at a client that one batch has imported: another batch cannot. -/
theorem client_owned_by_batch : ∃ target, Run (CallStep exec) demoTarget [demoRun] target ∧ Unambiguous target.auditLogs ∧
    ∀ report target', run demoAdapter otherBatch { clients := [demoClient] } target ≠ .ok (report, target') := by
  have hrun : Run (CallStep exec) demoTarget [demoRun] (settle exec demoTarget demoRun) := .snoc .nil rfl
  obtain ⟨hunambiguous, -, howned⟩ := source_refs_unique_and_owned (fun _ hrow => absurd hrow List.not_mem_nil) hrun
  refine ⟨_, hrun, hunambiguous, fun report target' hother => ?_⟩
  have hrefs : (registered (settle exec demoTarget demoRun).auditLogs 1 (refKey "clients" demoClient.id)).map
      (·.metadata.importBatchId) = [some "consulting-staging-1"] := by decide
  obtain ⟨row, rest, hrows, hbatch, -⟩ := List.map_eq_cons_iff.1 hrefs
  obtain ⟨owner, howner, hclosed⟩ := howned 1 _ row (hrows ▸ List.mem_cons_self)
  obtain ⟨-, hforeign⟩ := hclosed [] _ .nil fun _ hmem => absurd hmem List.not_mem_nil
  refine hforeign demoAdapter otherBatch _ report target' rfl (fun heq => ?_) hother ?_
  · rw [howner, ← heq] at hbatch
    exact absurd (Option.some.inj hbatch) (by decide)
  · exact .inr (.inl ⟨demoClient, List.mem_singleton_self _, by decide, rfl⟩)

end Examples

end Main

end CoreOps.Imports
