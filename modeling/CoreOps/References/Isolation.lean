import CoreOps.Finance.Ledger
import CoreOps.References.Model

/-! What the identifiers stored in the rows of a tenant point at. The invoice service looks up
the party, the legal entity, the tax profile and the catalog items of a new invoice under the
tenant, and no other identifier that comes in is looked up so: not the legal entity of an
update, not the work item of a document, not the connection of a reference. -/

namespace CoreOps.References

open Checked Finance

/-! References and the rows they name. -/

inductive Kind
  | party
  | workItem
  | document
  | legalEntity
  | taxProfile
  | catalogItem
  | connection
  | processRun
  deriving DecidableEq, Repr

structure Reference where
  kind : Kind
  id : ℕ
  deriving DecidableEq, Repr

/-- The tenant that holds the row a reference names. -/
def owner (s : State) (r : Reference) : Option ℕ :=
  match r.kind with
  | .party => s.finance.parties.get? r.id
  | .workItem => s.workItems.get? r.id
  | .document => (s.documents.get? r.id).map (·.tenantId)
  | .legalEntity => s.finance.legalEntities.get? r.id
  | .taxProfile => s.finance.taxProfiles.get? r.id
  | .catalogItem => s.finance.catalogItems.get? r.id
  | .connection => s.connections.get? r.id
  | .processRun => (s.processRuns.get? r.id).map (·.tenantId)

/-- The reference names a row of the tenant. -/
def Names (s : State) (tenantId : ℕ) (r : Reference) : Prop := owner s r = some tenantId

/-- The reference in a column that may be null. -/
def optional (kind : Kind) (id : Option ℕ) : List Reference := (id.map (Reference.mk kind)).toList

def invoiceRefs (i : Invoice) : List Reference :=
  ⟨.party, i.partyId⟩ :: (optional .legalEntity i.legalEntityId ++ optional .taxProfile i.taxProfileId ++
    optional .workItem i.workItemId ++ optional .document i.documentId ++
    i.lines.flatMap fun line => optional .catalogItem line.catalogItemId)

def documentRefs (d : DocumentInstance) : List Reference :=
  optional .party d.partyId ++ optional .workItem d.workItemId

/-- The entity of a reference, where its type is one the integrations know. -/
def entityRefs (entityType : String) (entityId : ℕ) : List Reference :=
  if entityType = "party" then [⟨.party, entityId⟩]
  else if entityType = "work_item" then [⟨.workItem, entityId⟩]
  else []

def referenceRefs (r : ExternalReference) : List Reference :=
  entityRefs r.entityType r.entityId ++ optional .connection r.connectionId

def taskRefs (t : Task) : List Reference := ⟨.workItem, t.workItemId⟩ :: optional .processRun t.processRunId

/-- Every row of the table names rows of its own tenant. -/
def Holds {α : Type} (s : State) (table : Table ℕ α) (tenantId : α → ℕ) (refs : α → List Reference) : Prop :=
  ∀ id row, table.get? id = some row → ∀ r ∈ refs row, Names s (tenantId row) r

/-- The process run, if there is one, is a run on the work item. -/
def RunOf (s : State) (workItemId : ℕ) (processRunId : Option ℕ) : Prop :=
  ∀ runId ∈ processRunId, ∀ run ∈ s.processRuns.get? runId, run.workItemId = workItemId

structure Isolated (s : State) : Prop where
  invoices : Holds s s.finance.invoices (·.tenantId) invoiceRefs
  documents : Holds s s.documents (·.tenantId) documentRefs
  references : Holds s s.references (·.tenantId) referenceRefs
  tasks : Holds s s.tasks (·.tenantId) taskRefs
  runs : ∀ id t, s.tasks.get? id = some t → RunOf s t.workItemId t.processRunId

/-- Nothing has been stored yet. -/
structure Blank (s : State) : Prop where
  invoices : s.finance.invoices = ∅
  documents : s.documents = ∅
  references : s.references = ∅
  tasks : s.tasks = ∅

/-- The tenant that makes a call. -/
def Op.tenantId : Op → ℕ
  | .createInvoice caller _ _ _ | .updateInvoice caller _ _ _ => caller.tenantId
  | .generateDocument tenantId _ _ | .importDocument tenantId _ _ | .createExternalReference tenantId _ _ _
  | .addTask tenantId _ _ _ => tenantId

/-- The identifiers of a payload that no service looks up under the tenant. -/
def Op.unchecked : Op → List Reference
  | .createInvoice _ _ _ payload => optional .workItem payload.workItemId ++ optional .document payload.documentId
  | .updateInvoice _ _ _ payload =>
    optional .legalEntity payload.legalEntityId ++ optional .taxProfile payload.taxProfileId
  | .generateDocument _ _ payload => optional .party payload.partyId ++ optional .workItem payload.workItemId
  | .importDocument _ _ payload => optional .party payload.partyId ++ optional .workItem payload.workItemId
  | .createExternalReference _ _ _ payload =>
    entityRefs payload.entityType payload.entityId ++ optional .connection payload.connectionId
  | .addTask _ _ _ _ => []

/-- The identifiers that nobody looks up are the tenant's own, and a task's run is a run on the
work item. -/
def Within (s : State) (op : Op) : Prop :=
  (∀ r ∈ op.unchecked, Names s op.tenantId r) ∧
    match op with
    | .addTask _ _ workItemId payload => RunOf s workItemId payload.processRunId
    | _ => True

/-! Rows that come in. -/

/-- The references of a row are those nobody looked up, and others that name rows of the
tenant. -/
structure Covers (s : State) (tenantId : ℕ) (refs unchecked : List Reference) : Prop where
  stored : ∀ r ∈ unchecked, r ∈ refs
  looked : ∀ r ∈ refs, r ∈ unchecked ∨ Names s tenantId r

theorem Covers.names_iff {s : State} {tenantId : ℕ} {refs unchecked : List Reference}
    (h : Covers s tenantId refs unchecked) :
    (∀ r ∈ refs, Names s tenantId r) ↔ ∀ r ∈ unchecked, Names s tenantId r := by
  constructor
  · intro hall r hr
    exact hall r (h.stored r hr)
  · intro hall r hr
    exact (h.looked r hr).elim (hall r) id

theorem Covers.self (s : State) (tenantId : ℕ) (refs : List Reference) : Covers s tenantId refs refs :=
  ⟨fun _ hr => hr, fun _ hr => .inl hr⟩

theorem mem_optional {kind : Kind} {id : Option ℕ} {r : Reference} :
    r ∈ optional kind id ↔ ∃ n ∈ id, r = ⟨kind, n⟩ := by
  cases id <;> simp [optional]

theorem get?_of_belongs {tenantId id : ℕ} {table : Table ℕ ℕ} (h : belongs tenantId table id = true) :
    table.get? id = some tenantId := of_decide_eq_true h

/-- A reference in a nullable column, looked up when it is there. -/
theorem names_of_all {s : State} {tenantId : ℕ} {kind : Kind} {id : Option ℕ} {table : Table ℕ ℕ} {r : Reference}
    (h : id.all (belongs tenantId table) = true) (hr : r ∈ optional kind id)
    (hkind : ∀ n, owner s ⟨kind, n⟩ = table.get? n) : Names s tenantId r := by
  obtain ⟨n, hn, rfl⟩ := mem_optional.1 hr
  obtain rfl := Option.mem_def.1 hn
  exact (hkind n).trans (get?_of_belongs h)

section Rows

variable {α : Type} {s s' : State} {table : Table ℕ α} {tenantId : α → ℕ} {refs : α → List Reference}

theorem Holds.mono (h : Holds s table tenantId refs) (hs : ∀ t r, Names s t r → Names s' t r) :
    Holds s' table tenantId refs :=
  fun id row hrow r hr => hs _ r (h id row hrow r hr)

theorem holds_insert_iff {id : ℕ} {row : α} (hnew : table.get? id = none) (h : Holds s table tenantId refs) :
    Holds s (table.insert id row) tenantId refs ↔ ∀ r ∈ refs row, Names s (tenantId row) r := by
  constructor
  · intro hall
    exact hall id row (by rw [Table.get?_insert_new _ _ _ hnew, if_pos rfl])
  · intro hrow j other hj
    rw [Table.get?_insert_new _ _ _ hnew] at hj
    split at hj
    · obtain rfl := Option.some.inj hj
      exact hrow
    · exact h j other hj

theorem holds_modify_iff {id : ℕ} {row : α} {f : α → α} (hold : table.get? id = some row)
    (h : Holds s table tenantId refs) :
    Holds s (table.modify id f) tenantId refs ↔ ∀ r ∈ refs (f row), Names s (tenantId (f row)) r := by
  constructor
  · intro hall
    exact hall id (f row) (by rw [Table.get?_modify_self, hold]; rfl)
  · intro hrow j other hj
    rw [Table.get?_modify] at hj
    split at hj
    · rename_i hid
      rw [hid, hold] at hj
      obtain rfl := Option.some.inj hj
      exact hrow
    · exact h j other hj

end Rows

/-! Invoices. -/

section Invoices

variable {caller : Caller} {clock : Clock} {invoiceId : ℕ} {s : State} {f' : Finance.State}

theorem createInvoiceLine_item {f : Finance.State} {acc acc' : ℚ × List InvoiceLine}
    {entry : InvoiceLineCreate × ℕ} (h : createInvoiceLine caller f acc entry = .ok acc')
    (hacc : ∀ line ∈ acc.2, line.catalogItemId.all (belongs caller.tenantId f.catalogItems) = true) :
    ∀ line ∈ acc'.2, line.catalogItemId.all (belongs caller.tenantId f.catalogItems) = true := by
  simp only [createInvoiceLine, bind_eq_ok, pure_eq_ok] at h
  obtain ⟨_, hitem, ⟨subtotal, lineTotal⟩, -, quantity, -, unitPrice, -, stored, -, rfl⟩ := h
  intro line hline
  rcases List.mem_append.1 hline with hline | hline
  · exact hacc line hline
  · obtain rfl := List.mem_singleton.1 hline
    show entry.1.catalogItemId.all _ = true
    cases hid : entry.1.catalogItemId with
    | none => rfl
    | some id =>
      rw [hid, checkCatalogItem, raiseIf_eq_ok, not_not] at hitem
      exact hitem

/-- What an accepted creation stores. -/
theorem createInvoice_row {payload : InvoiceCreate}
    (h : Finance.createInvoice caller clock invoiceId payload s.finance = .ok f') :
    ∃ i, s.finance.invoices.get? invoiceId = none ∧
      f' = { s.finance with invoices := s.finance.invoices.insert invoiceId i } ∧ i.tenantId = caller.tenantId ∧
      Covers s caller.tenantId (invoiceRefs i)
        (optional .workItem payload.workItemId ++ optional .document payload.documentId) := by
  simp only [Finance.createInvoice, bind_eq_ok, raiseIf_eq_ok, pure_eq_ok, not_or, Option.not_isSome_iff_eq_none,
    not_not] at h
  obtain ⟨-, -, -, hparty, -, hentity, -, hprofile, -, ⟨hnone, -⟩, ⟨subtotal, lines⟩, hlines, total, -, i, hi, rfl⟩ :=
    h
  have hitems : ∀ line ∈ lines, line.catalogItemId.all (belongs caller.tenantId s.finance.catalogItems) = true :=
    foldlM_invariant (fun acc : ℚ × List InvoiceLine =>
        ∀ line ∈ acc.2, line.catalogItemId.all (belongs caller.tenantId s.finance.catalogItems) = true)
      (fun acc entry acc' _ hacc hround => createInvoiceLine_item hround hacc) (by simp) hlines
  obtain ⟨htenant, hrefs⟩ : i.tenantId = caller.tenantId ∧ invoiceRefs i = ⟨.party, payload.partyId⟩ ::
      (optional .legalEntity payload.legalEntityId ++ optional .taxProfile payload.taxProfileId ++
        optional .workItem payload.workItemId ++ optional .document payload.documentId ++
        lines.flatMap fun line => optional .catalogItem line.catalogItemId) := by
    unfold issueIf at hi
    split at hi
    · simp only [issueInvoice, bind_eq_ok, raiseIf_eq_ok, pure_eq_ok] at hi
      obtain ⟨-, -, rfl⟩ := hi
      exact ⟨rfl, rfl⟩
    · obtain rfl := pure_eq_ok.1 hi
      exact ⟨rfl, rfl⟩
  refine ⟨i, hnone, rfl, htenant, ?_⟩
  rw [hrefs]
  constructor
  · intro r hr
    rcases List.mem_append.1 hr with hr | hr <;> simp [hr]
  · intro r hr
    simp only [List.mem_cons, List.mem_append, List.mem_flatMap] at hr ⊢
    rcases hr with rfl | (((hr | hr) | hr) | hr) | ⟨line, hline, hr⟩
    · exact .inr (get?_of_belongs hparty)
    · exact .inr (names_of_all hentity hr fun _ => rfl)
    · exact .inr (names_of_all hprofile hr fun _ => rfl)
    · exact .inl (.inl hr)
    · exact .inl (.inr hr)
    · exact .inr (names_of_all (hitems line hline) hr fun _ => rfl)

theorem applyStatus_refs {i i' : Invoice} {status : Option InvoiceStatus} (h : applyStatus clock i status = .ok i') :
    i'.tenantId = i.tenantId ∧ i'.partyId = i.partyId ∧ i'.legalEntityId = i.legalEntityId ∧
      i'.taxProfileId = i.taxProfileId ∧ i'.workItemId = i.workItemId ∧ i'.documentId = i.documentId ∧
      i'.lines = i.lines := by
  cases status with
  | none =>
    obtain rfl := pure_eq_ok.1 h
    exact ⟨rfl, rfl, rfl, rfl, rfl, rfl, rfl⟩
  | some status =>
    simp only [applyStatus, transitionStatus] at h
    split at h
    · simp only [issueInvoice, bind_eq_ok, raiseIf_eq_ok, pure_eq_ok] at h
      obtain ⟨-, -, rfl⟩ := h
      exact ⟨rfl, rfl, rfl, rfl, rfl, rfl, rfl⟩
    · simp only [bind_eq_ok, raiseIf_eq_ok, pure_eq_ok] at h
      obtain ⟨-, -, rfl⟩ := h
      exact ⟨rfl, rfl, rfl, rfl, rfl, rfl, rfl⟩

/-- A column that a payload leaves alone keeps what it names. -/
theorem names_or {tenantId : ℕ} {kind : Kind} {new old : Option ℕ}
    (hold : ∀ r ∈ optional kind old, Names s tenantId r) {r : Reference} (hr : r ∈ optional kind (new.or old)) :
    r ∈ optional kind new ∨ Names s tenantId r := by
  cases new with
  | none => exact .inr (hold r hr)
  | some id => exact .inl hr

theorem optional_or {kind : Kind} {new old : Option ℕ} {r : Reference} (hr : r ∈ optional kind new) :
    r ∈ optional kind (new.or old) := by
  cases new with
  | none => cases hr
  | some id => exact hr

/-- What an accepted update stores, when the invoice names rows of its tenant. -/
theorem updateInvoice_row {payload : InvoiceUpdate} (hs : Holds s s.finance.invoices (·.tenantId) invoiceRefs)
    (h : Finance.updateInvoice caller clock invoiceId payload s.finance = .ok f') :
    ∃ i i', s.finance.invoices.get? invoiceId = some i ∧
      f' = { s.finance with invoices := s.finance.invoices.modify invoiceId fun _ => i' } ∧
      i'.tenantId = caller.tenantId ∧ Covers s caller.tenantId (invoiceRefs i')
        (optional .legalEntity payload.legalEntityId ++ optional .taxProfile payload.taxProfileId) := by
  simp only [Finance.updateInvoice, bind_eq_ok, orRaise_eq_ok, raiseIf_eq_ok, pure_eq_ok] at h
  obtain ⟨i, hget, i₁, h₁, -, -, -, -, rfl⟩ := h
  obtain ⟨htenant, hparty, hentity, hprofile, hitem, hdocument, hlines⟩ := applyStatus_refs h₁
  obtain ⟨hi, hcaller⟩ := Option.filter_eq_some_iff.1 hget
  have hcaller : i.tenantId = caller.tenantId := of_decide_eq_true hcaller
  have hold := hs invoiceId i hi
  simp only [invoiceRefs, List.mem_cons, List.mem_append, hcaller] at hold
  refine ⟨i, _, hi, rfl, htenant.trans hcaller, ?_, ?_⟩
  · intro r hr
    simp only [invoiceRefs, List.mem_cons, List.mem_append]
    rcases List.mem_append.1 hr with hr | hr
    · exact .inr (.inl (.inl (.inl (.inl (optional_or hr)))))
    · exact .inr (.inl (.inl (.inl (.inr (optional_or hr)))))
  · intro r hr
    simp only [invoiceRefs, List.mem_cons, List.mem_append, hparty, hentity, hprofile, hitem, hdocument,
      hlines] at hr ⊢
    rcases hr with hr | (((hr | hr) | hr) | hr) | hr
    · exact .inr (hold r (.inl hr))
    · exact (names_or (fun r hr => hold r (.inr (.inl (.inl (.inl (.inl hr)))))) hr).imp_left .inl
    · exact (names_or (fun r hr => hold r (.inr (.inl (.inl (.inl (.inr hr)))))) hr).imp_left .inr
    · exact .inr (hold r (.inr (.inl (.inl (.inr hr)))))
    · exact .inr (hold r (.inr (.inl (.inr hr))))
    · exact .inr (hold r (.inr (.inr hr)))

end Invoices

/-! What each table adds. -/

section Tables

variable {s : State}

theorem names_with_invoices (invoices : Table ℕ Invoice) :
    Names { s with finance := { s.finance with invoices := invoices } } = Names s := by
  funext t r
  obtain ⟨kind, id⟩ := r
  cases kind <;> rfl

theorem names_with_references (references : Table ℕ ExternalReference) :
    Names { s with references := references } = Names s := by
  funext t r
  obtain ⟨kind, id⟩ := r
  cases kind <;> rfl

theorem names_with_tasks (tasks : Table ℕ Task) : Names { s with tasks := tasks } = Names s := by
  funext t r
  obtain ⟨kind, id⟩ := r
  cases kind <;> rfl

/-- A new document takes nothing away. -/
theorem Names.with_document {documentId : ℕ} {d : DocumentInstance} (hnew : s.documents.get? documentId = none)
    {t : ℕ} {r : Reference} (h : Names s t r) :
    Names { s with documents := s.documents.insert documentId d } t r := by
  obtain ⟨kind, id⟩ := r
  cases kind with
  | document =>
    show ((s.documents.insert documentId d).get? id).map (·.tenantId) = some t
    change (s.documents.get? id).map (·.tenantId) = some t at h
    rw [Table.get?_insert_new _ _ _ hnew]
    split
    · rename_i hid
      rw [hid, hnew] at h
      cases h
    · exact h
  | _ => exact h

theorem isolated_invoices_iff (h : Isolated s) (invoices : Table ℕ Invoice) :
    Isolated { s with finance := { s.finance with invoices := invoices } } ↔
      Holds s invoices (·.tenantId) invoiceRefs := by
  constructor
  · intro h'
    have hinvoices := h'.invoices
    rwa [Holds, names_with_invoices] at hinvoices
  · intro hinvoices
    refine ⟨?_, ?_, ?_, ?_, h.runs⟩ <;> rw [Holds, names_with_invoices]
    · exact hinvoices
    · exact h.documents
    · exact h.references
    · exact h.tasks

theorem isolated_references_iff (h : Isolated s) (references : Table ℕ ExternalReference) :
    Isolated { s with references := references } ↔ Holds s references (·.tenantId) referenceRefs := by
  constructor
  · intro h'
    have hreferences := h'.references
    rwa [Holds, names_with_references] at hreferences
  · intro hreferences
    refine ⟨?_, ?_, ?_, ?_, h.runs⟩ <;> rw [Holds, names_with_references]
    · exact h.invoices
    · exact h.documents
    · exact hreferences
    · exact h.tasks

theorem isolated_tasks_iff (h : Isolated s) (tasks : Table ℕ Task) :
    Isolated { s with tasks := tasks } ↔ Holds s tasks (·.tenantId) taskRefs ∧
      ∀ id t, tasks.get? id = some t → RunOf s t.workItemId t.processRunId := by
  constructor
  · intro h'
    have htasks := h'.tasks
    rw [Holds, names_with_tasks] at htasks
    exact ⟨htasks, h'.runs⟩
  · rintro ⟨htasks, hruns⟩
    refine ⟨?_, ?_, ?_, ?_, hruns⟩ <;> rw [Holds, names_with_tasks]
    · exact h.invoices
    · exact h.documents
    · exact h.references
    · exact htasks

theorem isolated_document_iff (h : Isolated s) {documentId : ℕ} {d : DocumentInstance}
    (hnew : s.documents.get? documentId = none) :
    Isolated { s with documents := s.documents.insert documentId d } ↔
      ∀ r ∈ documentRefs d, Names s d.tenantId r := by
  have hgrows : ∀ t r, Names s t r → Names { s with documents := s.documents.insert documentId d } t r :=
    fun _ _ hr => hr.with_document hnew
  constructor
  · intro h' r hr
    have hnames := h'.documents documentId d (by rw [Table.get?_insert_new _ _ _ hnew, if_pos rfl]) r hr
    -- a document names no document
    rcases List.mem_append.1 hr with hr | hr <;> obtain ⟨id, -, rfl⟩ := mem_optional.1 hr <;> exact hnames
  · intro hrow
    refine ⟨h.invoices.mono hgrows, ?_, h.references.mono hgrows, h.tasks.mono hgrows, h.runs⟩
    exact (holds_insert_iff hnew (h.documents.mono hgrows)).2 fun r hr => hgrows _ r (hrow r hr)

end Tables

/-! The calls. -/

section Calls

variable {s s' : State}

theorem insertNew_ok {α : Type} {table table' : Table ℕ α} {id : ℕ} {row : α}
    (h : insertNew table id row = .ok table') : table.get? id = none ∧ table' = table.insert id row := by
  simp only [insertNew, bind_eq_ok, raiseIf_eq_ok, pure_eq_ok, Option.not_isSome_iff_eq_none] at h
  obtain ⟨-, hnone, rfl⟩ := h
  exact ⟨hnone, rfl⟩

theorem generateDocument_ok {tenantId documentId : ℕ} {payload : DocumentGenerateRequest}
    (h : generateDocument tenantId documentId payload s = .ok s') :
    ∃ d, s.documents.get? documentId = none ∧ s' = { s with documents := s.documents.insert documentId d } ∧
      d.tenantId = tenantId ∧ d.partyId = payload.partyId ∧ d.workItemId = payload.workItemId := by
  simp only [generateDocument, bind_eq_ok, pure_eq_ok] at h
  obtain ⟨_, -, _, -, _, -, _, -, documents, hdocuments, rfl⟩ := h
  obtain ⟨hnone, rfl⟩ := insertNew_ok hdocuments
  exact ⟨_, hnone, rfl, rfl, rfl, rfl⟩

theorem importDocument_ok {tenantId documentId : ℕ} {payload : DocumentImportCreate}
    (h : importDocument tenantId documentId payload s = .ok s') :
    ∃ d, s.documents.get? documentId = none ∧ s' = { s with documents := s.documents.insert documentId d } ∧
      d.tenantId = tenantId ∧ d.partyId = payload.partyId ∧ d.workItemId = payload.workItemId := by
  simp only [importDocument, bind_eq_ok, pure_eq_ok] at h
  obtain ⟨documents, hdocuments, rfl⟩ := h
  obtain ⟨hnone, rfl⟩ := insertNew_ok hdocuments
  exact ⟨_, hnone, rfl, rfl, rfl, rfl⟩

theorem findReference_eq_some {tenantId : ℕ} {payload : ExternalReferenceCreate}
    {references : Table ℕ ExternalReference} {id : ℕ} (h : findReference tenantId payload references = some id) :
    ∃ row, references.get? id = some row ∧ row.tenantId = tenantId ∧ row.entityType = payload.entityType ∧
      row.entityId = payload.entityId := by
  obtain ⟨⟨id', row⟩, hfind, rfl⟩ := Option.map_eq_some_iff.1 h
  have hrow := List.find?_some hfind
  simp only [decide_eq_true_eq] at hrow
  exact ⟨row, Table.mem_rows.1 (List.mem_of_find?_eq_some hfind), hrow.1, hrow.2.1, hrow.2.2.1⟩

theorem createExternalReference_isolated_iff {tenantId referenceId : ℕ} {now : ℤ}
    {payload : ExternalReferenceCreate} (h : Isolated s) (hok : createExternalReference tenantId referenceId now payload s = .ok s') :
    Isolated s' ↔ ∀ r ∈ entityRefs payload.entityType payload.entityId ++ optional .connection payload.connectionId,
      Names s tenantId r := by
  simp only [createExternalReference, bind_eq_ok] at hok
  obtain ⟨-, -, -, -, hok⟩ := hok
  cases hfind : findReference tenantId payload s.references with
  | some id =>
    rw [hfind] at hok
    obtain rfl := pure_eq_ok.1 hok
    obtain ⟨row, hrow, htenant, htype, hid⟩ := findReference_eq_some hfind
    rw [isolated_references_iff h, holds_modify_iff hrow h.references, referenceRefs, htenant, htype, hid]
  | none =>
    rw [hfind] at hok
    simp only [bind_eq_ok, pure_eq_ok] at hok
    obtain ⟨references, hreferences, rfl⟩ := hok
    obtain ⟨hnone, rfl⟩ := insertNew_ok hreferences
    rw [isolated_references_iff h, holds_insert_iff hnone h.references, referenceRefs]

theorem keyedRun_names {tenantId : ℕ} {processRunId : Option ℕ} {key : Option String}
    (h : keyedRun tenantId s.processRuns processRunId key = true) :
    ∀ r ∈ optional .processRun processRunId, Names s tenantId r := by
  intro r hr
  obtain ⟨runId, hid, rfl⟩ := mem_optional.1 hr
  obtain rfl := Option.mem_def.1 hid
  cases key with
  | none => cases h
  | some key =>
    rw [keyedRun, Bool.and_eq_true, Option.any_eq_true] at h
    obtain ⟨⟨run, hrun, htenant⟩, -⟩ := h
    show (s.processRuns.get? runId).map (·.tenantId) = some tenantId
    rw [hrun, Option.map_some, of_decide_eq_true htenant]

theorem addTask_isolated_iff {tenantId taskId workItemId : ℕ} {payload : TaskCreate} (h : Isolated s)
    (hok : addTask tenantId taskId workItemId payload s = .ok s') :
    Isolated s' ↔ RunOf s workItemId payload.processRunId := by
  simp only [addTask, bind_eq_ok, raiseIf_eq_ok, pure_eq_ok, not_not, Bool.not_eq_false] at hok
  obtain ⟨-, hitem, -, hkeyed, -, -, tasks, htasks, rfl⟩ := hok
  obtain ⟨hnone, rfl⟩ := insertNew_ok htasks
  rw [isolated_tasks_iff h, holds_insert_iff hnone h.tasks]
  constructor
  · rintro ⟨-, hruns⟩
    exact hruns taskId _ (by rw [Table.get?_insert_new _ _ _ hnone, if_pos rfl])
  · intro hrun
    constructor
    · intro r hr
      rcases List.mem_cons.1 hr with rfl | hr
      · exact get?_of_belongs hitem
      · exact keyedRun_names hkeyed r hr
    · intro id t ht
      rw [Table.get?_insert_new _ _ _ hnone] at ht
      split at ht
      · obtain rfl := Option.some.inj ht
        exact hrun
      · exact h.runs id t ht

/-- An accepted call keeps the tenants apart exactly when what nobody looks up is the
tenant's own. -/
theorem exec_isolated_iff {op : Op} (h : Isolated s) (hok : exec s op = .ok s') : Isolated s' ↔ Within s op := by
  cases op with
  | createInvoice caller clock invoiceId payload =>
    simp only [exec, withFinance, bind_eq_ok, mapError_eq_ok, pure_eq_ok] at hok
    obtain ⟨finance, hfinance, rfl⟩ := hok
    obtain ⟨i, hnew, rfl, htenant, hcovers⟩ := createInvoice_row hfinance
    rw [isolated_invoices_iff h, holds_insert_iff hnew h.invoices, htenant, hcovers.names_iff]
    exact (and_iff_left trivial).symm
  | updateInvoice caller clock invoiceId payload =>
    simp only [exec, withFinance, bind_eq_ok, mapError_eq_ok, pure_eq_ok] at hok
    obtain ⟨finance, hfinance, rfl⟩ := hok
    obtain ⟨i, i', hold, rfl, htenant, hcovers⟩ := updateInvoice_row h.invoices hfinance
    rw [isolated_invoices_iff h, holds_modify_iff hold h.invoices, htenant, hcovers.names_iff]
    exact (and_iff_left trivial).symm
  | generateDocument tenantId documentId payload =>
    obtain ⟨d, hnew, rfl, rfl, hparty, hitem⟩ := generateDocument_ok hok
    rw [isolated_document_iff h hnew, documentRefs, hparty, hitem]
    exact (and_iff_left trivial).symm
  | importDocument tenantId documentId payload =>
    obtain ⟨d, hnew, rfl, rfl, hparty, hitem⟩ := importDocument_ok hok
    rw [isolated_document_iff h hnew, documentRefs, hparty, hitem]
    exact (and_iff_left trivial).symm
  | createExternalReference tenantId referenceId now payload =>
    rw [createExternalReference_isolated_iff h hok]
    exact (and_iff_left trivial).symm
  | addTask tenantId taskId workItemId payload =>
    rw [addTask_isolated_iff h hok]
    exact ⟨fun hrun => ⟨fun _ hr => absurd hr List.not_mem_nil, hrun⟩, fun hwithin => hwithin.2⟩

end Calls

theorem Blank.isolated {s : State} (h : Blank s) : Isolated s := by
  refine ⟨?_, ?_, ?_, ?_, ?_⟩
  · rw [h.invoices]
    intro id row hrow
    cases hrow
  · rw [h.documents]
    intro id row hrow
    cases hrow
  · rw [h.references]
    intro id row hrow
    cases hrow
  · rw [h.tasks]
    intro id row hrow
    cases hrow
  · rw [h.tasks]
    intro id row hrow
    cases hrow

/-- Calls whose unchecked identifiers are the tenant's own keep the tenants apart, and the
first accepted call of which that is not so does not. -/
theorem references_isolated {s₀ s : State} {ops : List Op} (h₀ : Blank s₀)
    (hrun : Run (Restrict Within (CallStep exec)) s₀ ops s) :
    Isolated s ∧ ∀ op s', exec s op = .ok s' → (Isolated s' ↔ Within s op) := by
  have h : Isolated s := by
    refine hrun.invariant_restrict Isolated h₀.isolated ?_
    rintro s op s' hs hwithin rfl
    exact settle_keeps hs fun s' hok => (exec_isolated_iff hs hok).2 hwithin
  exact ⟨h, fun op s' hok => exec_isolated_iff h hok⟩

/-- Tenants 1 and 2 with a legal entity each. -/
def demoStart : State where
  finance := { demoState with legalEntities := Table.insert (Table.insert ∅ 20 1) 21 2 }
  templates := ∅
  documents := ∅
  references := ∅
  tasks := ∅
  workItems := ∅
  connections := ∅
  processRuns := ∅

theorem demoStart_blank : Blank demoStart := ⟨rfl, rfl, rfl, rfl⟩

/-- Tenant 1 creates an invoice and then gives it a legal entity. -/
def updateTo (legalEntityId : ℕ) : List Op :=
  [.createInvoice demoCaller demoClock 1 demoInvoice,
    .updateInvoice demoCaller demoClock 1 ⟨none, none, none, some legalEntityId, none⟩]

def updatedTo (legalEntityId : ℕ) : State := (updateTo legalEntityId).foldl (settle exec) demoStart

/-- The two ways to update the invoice of tenant 1. -/
theorem updated_invoice :
    ((updatedTo 21).finance.invoices.get? 1).any (fun i =>
      (invoiceRefs i).any fun r => owner (updatedTo 21) r ≠ some i.tenantId) = true ∧
    owner (settle exec demoStart (.createInvoice demoCaller demoClock 1 demoInvoice)) ⟨.legalEntity, 20⟩ = some 1 ∧
    ((updatedTo 20).finance.invoices.get? 1).isSome = true := by
  decide +kernel

/-- The invoice of tenant 1 ends up with the legal entity of tenant 2. -/
theorem legal_entity_of_another_tenant :
    ∃ s, Blank demoStart ∧ Run (CallStep exec) demoStart (updateTo 21) s ∧ ¬ Isolated s := by
  refine ⟨updatedTo 21, demoStart_blank, Run.of_foldl, ?_⟩
  intro h
  obtain ⟨i, hi, hany⟩ := (Option.any_eq_true _ _).1 updated_invoice.1
  obtain ⟨r, hr, hne⟩ := List.any_eq_true.1 hany
  exact of_decide_eq_true hne (h.invoices 1 i hi r hr)

/-- The theorem where the legal entity is the tenant's own. -/
theorem references_isolated_own_entity : ∃ s, Run (Restrict Within (CallStep exec)) demoStart (updateTo 20) s ∧
    (s.finance.invoices.get? 1).isSome = true ∧ Isolated s := by
  have hrun : Run (Restrict Within (CallStep exec)) demoStart (updateTo 20) (updatedTo 20) := by
    refine Run.cons ⟨⟨?_, trivial⟩, rfl⟩ (Run.single ⟨⟨?_, trivial⟩, rfl⟩)
    · intro r hr
      cases hr
    · intro r hr
      obtain rfl := List.mem_singleton.1 hr
      exact updated_invoice.2.1
  exact ⟨_, hrun, updated_invoice.2.2, (references_isolated demoStart_blank hrun).1⟩

end CoreOps.References
