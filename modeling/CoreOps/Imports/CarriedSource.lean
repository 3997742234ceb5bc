import CoreOps.Imports.CarryOver
import CoreOps.Imports.SourceRows

/-! The production source, by way of the adapter and the importer. The importer looks for
`name` and `payment_date` where the adapter writes `display_name` and no date at all:
clients lose their names, and a payment stops the import. -/

namespace CoreOps.Imports

open Checked Text
open DryRun (Value Row RunError decimal?)

/-! The source as the importer reads it. -/

section Source

def rawId (r : Row) : String := coerceId (r.get "id")

/-- The sku that a service comes to. -/
def rawSku (r : Row) : String := orElse (some (strippedText (r.get "code"))) ("legacy-service-" ++ rawId r)

theorem orElse_some (text other : String) : orElse (some text) other = if text = "" then other else text := by
  unfold orElse
  split
  · rename_i h
    rw [h]
    rfl
  · rename_i h
    rw [Option.filter_some_pos (by simpa using h)]
    rfl

theorem text?_of_get {row : DomainRow} (key : String) {text : String} (h : row.get key = textField text) :
    row.text? key = some text := by
  rw [DomainRow.text?, h]
  show some ((Value.str text).orElse (.str "")).text = some text
  unfold Value.orElse
  split
  · rfl
  · rename_i hfalsy
    have hempty : text = "" := by simpa [Value.truthy] using hfalsy
    rw [hempty]
    rfl

theorem number?_of_get {row : DomainRow} (key : String) {x : Option ℚ} (h : row.get key = decimalField x) :
    row.number? key = x := by
  rw [DomainRow.number?, h]
  cases x <;> rfl

/-- What the importer reads of a service. -/
structure ServiceReads (r : Row) (s : ServiceSource) : Prop where
  id : s.id = some (rawId r)
  sourceCode : s.sourceCode = some (strippedText (r.get "code"))
  unitPrice : coerceDecimalOrNone (r.get "unit_price") = .ok s.unitPrice

/-- The importer finds no name. -/
structure ClientReads (r : Row) (c : ClientSource) : Prop where
  id : c.id = some (rawId r)
  name : c.name = none

structure OrderReads (r : Row) (o : OrderSource) : Prop where
  id : o.id = some (rawId r)
  totalAmount : coerceDecimalOrNone (r.get "total_amount") = .ok o.totalAmount

theorem normalizeService_reads {r : Row} {row : DomainRow} (h : normalizeService r = .ok row) :
    ServiceReads r (.ofRow row) := by
  simp only [normalizeService, bind_eq_ok, pure_eq_ok] at h
  obtain ⟨price, hprice, rfl⟩ := h
  constructor
  · simp only [ServiceSource.ofRow]
    exact text?_of_get "id" rfl
  · simp only [ServiceSource.ofRow]
    exact text?_of_get "source_code" rfl
  · rw [hprice]
    simp only [ServiceSource.ofRow]
    rw [number?_of_get "unit_price" rfl]

theorem normalizeClient_reads (r : Row) : ClientReads r (.ofRow (normalizeClient r)) := by
  constructor
  · simp only [ClientSource.ofRow]
    exact text?_of_get "id" rfl
  · rfl

theorem normalizeOrder_reads {r : Row} {row : DomainRow} (h : normalizeOrder r = .ok row) : OrderReads r (.ofRow row) := by
  simp only [normalizeOrder, bind_eq_ok, pure_eq_ok] at h
  obtain ⟨total, htotal, rfl⟩ := h
  constructor
  · simp only [OrderSource.ofRow]
    exact text?_of_get "id" rfl
  · rw [htotal]
    simp only [OrderSource.ofRow]
    rw [number?_of_get "total_amount" rfl]

theorem normalizePayment_reads {r : Row} {row : DomainRow} (h : normalizePayment r = .ok row) :
    (PaymentSource.ofRow row).paymentDate = none := by
  simp only [normalizePayment, bind_eq_ok, pure_eq_ok] at h
  obtain ⟨_, -, rfl⟩ := h
  rfl

variable {raw : DryRun.Dataset} {data : DomainData}

/-- What the importer reads of the tables that `load` returns. -/
structure Reads (raw : DryRun.Dataset) (data : Dataset) : Prop where
  services : List.Forall₂ ServiceReads raw.services data.services
  clients : List.Forall₂ ClientReads raw.clients data.clients
  orders : List.Forall₂ OrderReads raw.orders data.orders
  payments : List.Forall₂ (fun _ p => p.paymentDate = none) raw.payments data.payments

theorem load_reads (h : load raw = .ok data) : Reads raw data.dataset := by
  simp only [load, bind_eq_ok, pure_eq_ok] at h
  obtain ⟨_, -, clients, hclients, services, hservices, orders, horders, _, -, _, -, _, -, payments, hpayments, rfl⟩ := h
  refine ⟨?_, ?_, ?_, ?_⟩
  · exact List.forall₂_map_right_iff.2 ((mapM_eq_ok hservices).imp fun _ _ => normalizeService_reads)
  · refine List.forall₂_map_right_iff.2 ((mapM_eq_ok hclients).imp fun r row hrow => ?_)
    obtain rfl := Except.ok.inj hrow
    exact normalizeClient_reads r
  · exact List.forall₂_map_right_iff.2 ((mapM_eq_ok horders).imp fun _ _ => normalizeOrder_reads)
  · exact List.forall₂_map_right_iff.2 ((mapM_eq_ok hpayments).imp fun _ _ => normalizePayment_reads)

/-- Ids that are there, each another. -/
def OwnRawIds (rows : List Row) : Prop := (∀ r ∈ rows, rawId r ≠ "") ∧ (rows.map rawId).Nodup

theorem ownIds_of_reads {ρ : Type} {R : Row → ρ → Prop} {rows : List Row} {bs : List ρ} (id : ρ → Option String)
    (h : List.Forall₂ R rows bs) (hid : ∀ r b, R r b → id b = some (rawId r)) (hown : OwnRawIds rows) :
    OwnIds (bs.map id) := by
  rw [map_eq_map_of_forall₂ h hid]
  refine ⟨fun i hi => ?_, ?_⟩
  · obtain ⟨r, hr, rfl⟩ := List.mem_map.1 hi
    rw [HasId, orElse_some, if_neg (hown.1 r hr)]
    exact hown.1 r hr
  · have hsome := hown.2.map (Option.some_injective String)
    rwa [List.map_map] at hsome

theorem Forall₂.exists_right {A B : Type} {R : A → B → Prop} {as : List A} {bs : List B} (h : List.Forall₂ R as bs) {a : A}
    (ha : a ∈ as) : ∃ b ∈ bs, R a b :=
  exists_of_mem_forall₂ h.flip ha

end Source

/-! What the import is for. -/

section Purpose

variable (adapter : SqlAlchemyStagingWriteAdapter) (config : StagingWriteImportConfig) (target : Target)
  (raw : DryRun.Dataset)

/-- The number of a column that may be empty, as it is stored. -/
def StoredAs (v : Value) (stored : Option ℤ) : Prop :=
  ∃ x, coerceDecimalOrNone v = .ok x ∧ x.mapM moneyColumn = .ok stored

/-- The amount of a payment, as it is stored. -/
def AmountStoredAs (v : Value) (stored : ℤ) : Prop := ∃ x, coerceAmount v = .ok x ∧ moneyColumn x = .ok stored

def rawOrderId (r : Row) : String := coerceId (r.get "order_id")

/-- Rows with ids of their own, numbers that fit their columns, and payments of orders that
are there. -/
structure WellFormedSource : Prop where
  services : OwnRawIds raw.services
  clients : OwnRawIds raw.clients
  orders : OwnRawIds raw.orders
  payments : OwnRawIds raw.payments
  prices : ∀ r ∈ raw.services, ∃ stored, StoredAs (r.get "unit_price") stored
  totals : ∀ r ∈ raw.orders, ∃ stored, StoredAs (r.get "total_amount") stored
  items : ∀ r ∈ raw.orderItems, (∃ x, coerceDecimalOrNone (r.get "qty") = .ok x) ∧
    ∃ x, coerceDecimalOrNone (r.get "unit_price") = .ok x
  contracts : ∀ r ∈ raw.contracts, ∃ x, coerceAmount (r.get "amount") = .ok x
  amounts : ∀ r ∈ raw.payments, ∃ stored, AmountStoredAs (r.get "amount") stored
  payment_orders : ∀ r ∈ raw.payments, rawOrderId r = "" ∨ rawOrderId r ∈ raw.orders.map rawId

/-- The tenant has no reference and no row that notes one. -/
structure NoEarlierImports : Prop where
  sourceRefs : NoSourceRefs config target
  catalogItems : ∀ r ∈ target.business.catalogItems.rows, r.2.tenantId = config.tenantId → r.2.legacyRefs = none
  parties : ∀ r ∈ target.business.parties.rows, r.2.tenantId = config.tenantId → r.2.legacyRefs = none
  workItems : ∀ r ∈ target.business.workItems.rows, r.2.tenantId = config.tenantId → r.2.legacyRefs = none

/-- The guards pass, and the placeholder keys are not enforced. -/
structure Ready : Prop where
  admitted : Admitted adapter config target
  keys : adapter.enforcesForeignKeys = false

def IsPaymentOf (r : Row) (payment : Finance.Payment) : Prop :=
  payment.tenantId = config.tenantId ∧ payment.paymentNumber = "LEGACY-PAY-" ++ rawId r

/-- Every row of the source has its one row in the target, with its name, price, total or
amount. -/
structure CarriedOver (b : Business) : Prop where
  clients : ∀ r ∈ raw.clients, ∃ party,
    OneRow b.parties (fun p => NotedFor config p.tenantId p.legacyRefs (buildSourceRef "clients" (rawId r))) party ∧
    party.displayName = (r.get "name").text
  services : ∀ r ∈ raw.services, ∃ item,
    OneRow b.catalogItems (fun i => NotedFor config i.tenantId i.legacyRefs (buildSourceRef "services" (rawId r))) item ∧
    StoredAs (r.get "unit_price") item.basePrice
  orders : ∀ r ∈ raw.orders, ∃ work,
    OneRow b.workItems (fun w => NotedFor config w.tenantId w.legacyRefs (buildSourceRef "orders" (rawId r))) work ∧
    StoredAs (r.get "total_amount") work.amount
  payments : ∀ r ∈ raw.payments, ∃ paymentId payment, b.payments.get? paymentId = some payment ∧
    IsPaymentOf config r payment ∧
    (∀ id' payment', b.payments.get? id' = some payment' → IsPaymentOf config r payment' → id' = paymentId) ∧
    AmountStoredAs (r.get "amount") payment.amount ∧
    (rawOrderId r ≠ "" → ∃ invoiceId allocation, b.allocations.get? (paymentId, invoiceId) = some allocation ∧
      allocation.amount = payment.amount ∧
      ∀ invoiceId', (b.allocations.get? (paymentId, invoiceId')).isSome → invoiceId' = invoiceId)

def CarriesOver : Prop :=
  ∃ data report target', load raw = .ok data ∧ run adapter config data.dataset target = .ok (report, target') ∧
    CarriedOver config raw target'.business

/-- What of a source survives the keys of the importer and the constraints of the target:
no payments, only the names it makes up itself, another sku for each service, and ids that
a reference can hold. -/
structure Carryable : Prop where
  payments : raw.payments = []
  names : ∀ r ∈ raw.clients, (r.get "name").text = "Client " ++ rawId r
  skus : (raw.services.map rawSku).Nodup
  free : ∀ r ∈ raw.services, ∀ item ∈ target.business.catalogItems.rows,
    item.2.tenantId = config.tenantId → item.2.sku ≠ some (rawSku r)
  shaped : ∀ r ∈ raw.services ++ raw.clients ++ raw.orders, WellShaped (rawId r)

end Purpose

/-! What a run leaves of a source. -/

section Left

variable {adapter : SqlAlchemyStagingWriteAdapter} {config : StagingWriteImportConfig} {target target' : Target}
  {raw : DryRun.Dataset} {data : Dataset}

theorem WellFormedSource.idsOwn (h : WellFormedSource raw) (hreads : Reads raw data) : IdsOwn data where
  services := ownIds_of_reads (·.id) hreads.services (fun _ _ hs => hs.id) h.services
  clients := ownIds_of_reads (·.id) hreads.clients (fun _ _ hc => hc.id) h.clients
  orders := ownIds_of_reads (·.id) hreads.orders (fun _ _ ho => ho.id) h.orders

theorem sourceId_of_reads {ρ α : Type} (I : Importing config ρ α) {r : Row} {row : ρ} (h : I.id row = some (rawId r)) :
    I.sourceId row = rawId r := by
  rw [Importing.sourceId, h, orElse_some]
  split
  · rename_i hempty
    exact hempty.symm
  · rfl

theorem key_of_reads {ρ α : Type} (I : Importing config ρ α) {r : Row} {row : ρ} (h : I.id row = some (rawId r)) :
    I.key row = buildSourceRef I.sourceTable (rawId r) :=
  congrArg (buildSourceRef I.sourceTable) (sourceId_of_reads I h)

/-- Each row of the source with the row that it becomes. -/
theorem forall₂_items {ρ α : Type} {I : Importing config ρ α} {R : Row → ρ → Prop} {rows : List Row} {data : List ρ}
    {items : List (ρ × α)} (h : List.Forall₂ R rows data) (hitems : items.map Prod.fst = data) (hmakes : ∀ p ∈ items, I.Makes p) :
    List.Forall₂ (fun r p => R r p.1 ∧ I.Makes p) rows items := by
  rw [← hitems] at h
  have hboth := (List.forall₂_and_left _ _).2 ⟨hmakes, (List.forall₂_map_right_iff.1 h).flip⟩
  exact hboth.flip.imp fun _ _ hrp => hrp.symm

theorem not_notedFor {tenantId : ℕ} {refs : Option LegacyRefs} {ref : String} (h : tenantId = config.tenantId → refs = none) :
    ¬ NotedFor config tenantId refs ref := by
  rintro ⟨htenant, href⟩
  rw [h htenant] at href
  cases href

/-- The rows that stand for those of a source without payments. -/
structure Standing (config : StagingWriteImportConfig) (b : Business) (services : List (ServiceSource × CatalogItem))
    (clients : List (ClientSource × Party)) (orders : List (OrderSource × WorkItem)) : Prop where
  services : ∀ p ∈ services,
    OneRow b.catalogItems ((servicesStage config).IsFor ((servicesStage config).key p.1)) p.2
  clients : ∀ p ∈ clients, OneRow b.parties ((clientsStage config).IsFor ((clientsStage config).key p.1)) p.2
  orders : ∀ p ∈ orders, OneRow b.workItems ((ordersStage config).IsFor ((ordersStage config).key p.1)) p.2

theorem Stages.standing (h : Stages adapter config data target target') (hkeys : adapter.enforcesForeignKeys = false)
    (hids : IdsOwn data) (hnew : NoEarlierImports config target) (hpayments : data.payments = []) :
    ∃ services clients orders, Carried config data target.business services clients orders ∧
      Standing config target'.business services clients orders := by
  obtain ⟨services, clients, orders, hcarried, hitems, ⟨b, hb, hparties⟩, b', hb', hwork⟩ :=
    h.carried hkeys hids hnew.sourceRefs hpayments
  refine ⟨services, clients, orders, hcarried, ⟨fun p hp => ?_, fun p hp => ?_, fun p hp => ?_⟩⟩
  · rw [hitems]
    refine Importing.oneRow_of_putAll (I := servicesStage config) hcarried.services_makes ?_
      (fun r hr _ => not_notedFor (hnew.catalogItems r hr)) hp
    rw [hcarried.services_rows]
    exact OwnIds.nodup_key (I := servicesStage config) hids.services
  · rw [hparties]
    refine Importing.oneRow_of_putAll (I := clientsStage config) hcarried.clients_makes ?_
      (fun r hr _ => not_notedFor (hnew.parties r (hb ▸ hr))) hp
    rw [hcarried.clients_rows]
    exact OwnIds.nodup_key (I := clientsStage config) hids.clients
  · rw [hwork]
    refine Importing.oneRow_of_putAll (I := ordersStage config) hcarried.orders_makes ?_
      (fun r hr _ => not_notedFor (hnew.workItems r (hb' ▸ hr))) hp
    rw [hcarried.orders_rows]
    exact OwnIds.nodup_key (I := ordersStage config) hids.orders

/-- No payment passes the column of its date. -/
theorem Stages.payments_eq_nil (h : Stages adapter config data target target') (hreads : Reads raw data) :
    raw.payments = [] := by
  obtain ⟨postings, orphans, hlinked, horphan, hstored, hstored', -⟩ := h.posted
  refine List.eq_nil_iff_forall_not_mem.2 fun r hr => ?_
  obtain ⟨row, hrow, hdate⟩ := Forall₂.exists_right hreads.payments hr
  have hposting : ∃ p : Posting, p.row = row ∧ p.Stored := by
    cases hkind : isLinked row with
    | true =>
      have hmem : row ∈ postings.map (·.row) := hlinked ▸ List.mem_filter.2 ⟨hrow, hkind⟩
      obtain ⟨p, hp, hprow⟩ := List.mem_map.1 hmem
      exact ⟨p, hprow, hstored p hp⟩
    | false =>
      have hmem : row ∈ orphans.map (·.row) := horphan ▸ List.mem_filter.2 ⟨hrow, by rw [hkind]; rfl⟩
      obtain ⟨p, hp, hprow⟩ := List.mem_map.1 hmem
      exact ⟨p, hprow, hstored' p hp⟩
  obtain ⟨p, rfl, hp⟩ := hposting
  exact Option.some_ne_none _ (hp.paymentDate.symm.trans hdate)

/-! What becomes of one row. -/

theorem service_made {r : Row} {p : ServiceSource × CatalogItem} (hreads : ServiceReads r p.1)
    (h : (servicesStage config).Makes p) :
    StoredAs (r.get "unit_price") p.2.basePrice ∧ WellShaped (rawId r) ∧ p.2.tenantId = config.tenantId ∧
      p.2.sku = some (rawSku r) := by
  obtain ⟨hmake, hwell⟩ := h
  rw [sourceId_of_reads (servicesStage config) hreads.id] at hmake hwell
  have hitem : catalogItemOf config p.1 (rawId r) = .ok p.2 := hmake
  simp only [catalogItemOf, bind_eq_ok, pure_eq_ok] at hitem
  obtain ⟨price, hprice, hitem⟩ := hitem
  rw [← hitem, hreads.sourceCode]
  exact ⟨⟨_, hreads.unitPrice, hprice⟩, hwell, rfl, rfl⟩

theorem client_made {r : Row} {p : ClientSource × Party} (hreads : ClientReads r p.1)
    (h : (clientsStage config).Makes p) : p.2.displayName = "Client " ++ rawId r ∧ WellShaped (rawId r) := by
  obtain ⟨hmake, hwell⟩ := h
  rw [sourceId_of_reads (clientsStage config) hreads.id] at hmake hwell
  have hparty : partyOf config p.1 (rawId r) = p.2 := Except.ok.inj hmake
  rw [← hparty, partyOf, hreads.name]
  exact ⟨rfl, hwell⟩

theorem order_made {r : Row} {p : OrderSource × WorkItem} (hreads : OrderReads r p.1)
    (h : (ordersStage config).Makes p) : StoredAs (r.get "total_amount") p.2.amount ∧ WellShaped (rawId r) := by
  obtain ⟨hmake, hwell⟩ := h
  rw [sourceId_of_reads (ordersStage config) hreads.id] at hmake hwell
  have hwork : workItemOf config p.1 (rawId r) = .ok p.2 := hmake
  simp only [workItemOf, bind_eq_ok, pure_eq_ok] at hwork
  obtain ⟨amount, hamount, hwork⟩ := hwork
  rw [← hwork]
  exact ⟨⟨_, hreads.totalAmount, hamount⟩, hwell⟩

/-- Services fit when no sku is there or comes twice. -/
theorem fits_iff {table : Table ℕ CatalogItem} {rows : List Row} {items : List (ServiceSource × CatalogItem)}
    (h : List.Forall₂ (fun r p => p.2.tenantId = config.tenantId ∧ p.2.sku = some (rawSku r)) rows items) :
    (servicesStage config).Fits table items ↔ (rows.map rawSku).Nodup ∧
      ∀ r ∈ rows, ∀ item ∈ table.rows, item.2.tenantId = config.tenantId → item.2.sku ≠ some (rawSku r) := by
  have htenant : ∀ p ∈ items, p.2.tenantId = config.tenantId := fun p hp => by
    obtain ⟨r, -, hr⟩ := exists_of_mem_forall₂ h hp
    exact hr.1
  have hskus : items.map (fun p => p.2.sku) = rows.map fun r => some (rawSku r) :=
    map_eq_map_of_forall₂ h fun _ _ hrp => hrp.2
  have hclash : ∀ p ∈ items, ∀ q ∈ items, (servicesStage config).clash p.2 q.2 ↔ p.2.sku = q.2.sku := fun p hp q hq =>
    and_iff_right ((htenant p hp).trans (htenant q hq).symm)
  have hnodup : (items.Pairwise fun p q => ¬ (servicesStage config).clash p.2 q.2) ↔ (rows.map rawSku).Nodup := by
    calc (items.Pairwise fun p q => ¬ (servicesStage config).clash p.2 q.2)
        ↔ items.Pairwise fun p q => p.2.sku ≠ q.2.sku := List.Pairwise.iff_of_mem fun hp hq =>
          not_congr (hclash _ hp _ hq)
      _ ↔ (items.map fun p => p.2.sku).Nodup := List.pairwise_map.symm
      _ ↔ ((rows.map rawSku).map some).Nodup := by rw [hskus, List.map_map]; rfl
      _ ↔ (rows.map rawSku).Nodup := List.nodup_map_iff (Option.some_injective String)
  rw [Importing.Fits, hnodup, and_comm]
  refine and_congr_right fun _ => ⟨fun hfree r hr item hitem hconfig hsku => ?_, fun hfree item hitem p hp hclash => ?_⟩
  · obtain ⟨p, hp, hptenant, hpsku⟩ := Forall₂.exists_right h hr
    exact hfree item hitem p hp ⟨hconfig.trans hptenant.symm, hsku.trans hpsku.symm⟩
  · obtain ⟨r, hr, hptenant, hpsku⟩ := exists_of_mem_forall₂ h hp
    exact hfree r hr item hitem (hclash.1.trans hptenant) (hclash.2.trans hpsku)

end Left

/-! The theorem. -/

section Main

variable {adapter : SqlAlchemyStagingWriteAdapter} {config : StagingWriteImportConfig} {target target' : Target}
  {raw : DryRun.Dataset}

/-- `load` succeeds on a source whose numbers are numbers. -/
theorem load_total (h : WellFormedSource raw) (hpayments : raw.payments = []) : ∃ data, load raw = .ok data := by
  have hok : ∀ (table : DomainTable) (rows : List Row), (∀ r ∈ rows, ∃ row, normalizeProductionDomainRow r table = .ok row) →
      ∃ rows', rows.mapM (normalizeProductionDomainRow · table) = .ok rows' := fun _ _ hrows => exists_mapM hrows
  obtain ⟨users, husers⟩ := hok .users raw.users fun r _ => ⟨_, rfl⟩
  obtain ⟨clients, hclients⟩ := hok .clients raw.clients fun r _ => ⟨_, rfl⟩
  obtain ⟨services, hservices⟩ := hok .services raw.services fun r hr => by
    obtain ⟨stored, price, hprice, -⟩ := h.prices r hr
    simp only [normalizeProductionDomainRow, normalizeService, hprice]
    exact ⟨_, rfl⟩
  obtain ⟨orders, horders⟩ := hok .orders raw.orders fun r hr => by
    obtain ⟨stored, total, htotal, -⟩ := h.totals r hr
    simp only [normalizeProductionDomainRow, normalizeOrder, htotal]
    exact ⟨_, rfl⟩
  obtain ⟨orderStages, hstages⟩ := hok .orderStages raw.orderStages fun r _ => ⟨_, rfl⟩
  obtain ⟨orderItems, hitems⟩ := hok .orderItems raw.orderItems fun r hr => by
    obtain ⟨⟨qty, hqty⟩, price, hprice⟩ := h.items r hr
    simp only [normalizeProductionDomainRow, normalizeOrderItem, hqty, hprice]
    exact ⟨_, rfl⟩
  obtain ⟨contracts, hcontracts⟩ := hok .contracts raw.contracts fun r hr => by
    obtain ⟨amount, hamount⟩ := h.contracts r hr
    simp only [normalizeProductionDomainRow, normalizeContract, hamount]
    exact ⟨_, rfl⟩
  refine ⟨⟨users, clients, services, orders, orderStages, orderItems, contracts, []⟩, ?_⟩
  simp only [load, husers, hclients, hservices, horders, hstages, hitems, hcontracts, hpayments]
  rfl

theorem CarriesOver.carryable (hsource : WellFormedSource raw) (hkeys : adapter.enforcesForeignKeys = false)
    (hnew : NoEarlierImports config target) (h : CarriesOver adapter config target raw) : Carryable config target raw := by
  obtain ⟨data, report, target', hload, hrun, hover⟩ := h
  have hreads := load_reads hload
  have hstages := (run_iff.1 ⟨report, hrun⟩).2
  have hpayments := hstages.payments_eq_nil hreads
  have hnone : data.dataset.payments = [] := List.forall₂_nil_left_iff.1 (hpayments ▸ hreads.payments)
  obtain ⟨services, clients, orders, hcarried, hstanding⟩ :=
    hstages.standing hkeys (hsource.idsOwn hreads) hnew hnone
  have hservices := forall₂_items hreads.services hcarried.services_rows hcarried.services_makes
  have hclients := forall₂_items hreads.clients hcarried.clients_rows hcarried.clients_makes
  have horders := forall₂_items hreads.orders hcarried.orders_rows hcarried.orders_makes
  obtain ⟨hskus, hfree⟩ := (fits_iff (hservices.imp fun r p hrp => (service_made hrp.1 hrp.2).2.2)).1 hcarried.fits
  refine ⟨hpayments, fun r hr => ?_, hskus, hfree, fun r hr => ?_⟩
  · obtain ⟨p, hp, hread, hmakes⟩ := Forall₂.exists_right hclients hr
    have hone := hstanding.clients p hp
    rw [key_of_reads (clientsStage config) hread.id] at hone
    obtain ⟨party, hparty, hname⟩ := hover.clients r hr
    rw [← hname, hparty.eq hone, (client_made hread hmakes).1]
  · rw [List.mem_append, List.mem_append] at hr
    rcases hr with (hr | hr) | hr
    · obtain ⟨p, -, hread, hmakes⟩ := Forall₂.exists_right hservices hr
      exact (service_made hread hmakes).2.1
    · obtain ⟨p, -, hread, hmakes⟩ := Forall₂.exists_right hclients hr
      exact (client_made hread hmakes).2
    · obtain ⟨p, -, hread, hmakes⟩ := Forall₂.exists_right horders hr
      exact (order_made hread hmakes).2

/-- Rows that each become something become it together. -/
theorem exists_items {A B : Type} {P : A × B → Prop} {as : List A} (h : ∀ a ∈ as, ∃ b, P (a, b)) :
    ∃ items : List (A × B), items.map Prod.fst = as ∧ ∀ p ∈ items, P p := by
  induction as with
  | nil => exact ⟨[], rfl, fun p hp => absurd hp List.not_mem_nil⟩
  | cons a as ih =>
    obtain ⟨⟨b, hb⟩, has⟩ := List.forall_mem_cons.1 h
    obtain ⟨items, hitems, hall⟩ := ih has
    exact ⟨(a, b) :: items, by rw [List.map_cons, hitems], List.forall_mem_cons.2 ⟨hb, hall⟩⟩

/-- A stage makes something of each row whose id a reference can hold. -/
theorem exists_made {ρ α : Type} (I : Importing config ρ α) {R : Row → ρ → Prop} {rows : List Row} {data : List ρ}
    (h : List.Forall₂ R rows data) (hid : ∀ r row, R r row → I.id row = some (rawId r))
    (hmake : ∀ r ∈ rows, ∀ row, R r row → ∃ a, I.make row (rawId r) = .ok a) (hshaped : ∀ r ∈ rows, WellShaped (rawId r)) :
    ∃ items : List (ρ × α), items.map Prod.fst = data ∧ ∀ p ∈ items, I.Makes p := by
  refine exists_items fun row hrow => ?_
  obtain ⟨r, hr, hR⟩ := exists_of_mem_forall₂ h hrow
  obtain ⟨a, ha⟩ := hmake r hr row hR
  have hsource := sourceId_of_reads I (hid r row hR)
  exact ⟨a, by rw [hsource]; exact ha, hsource ▸ hshaped r hr⟩

theorem Carryable.carriesOver (hsource : WellFormedSource raw) (hready : Ready adapter config target)
    (hnew : NoEarlierImports config target) (h : Carryable config target raw) : CarriesOver adapter config target raw := by
  obtain ⟨data, hload⟩ := load_total hsource h.payments
  have hreads := load_reads hload
  have hids := hsource.idsOwn hreads
  have hnone : data.dataset.payments = [] := List.forall₂_nil_left_iff.1 (h.payments ▸ hreads.payments)
  obtain ⟨hshaped, hshapedOrders⟩ := List.forall_mem_append.1 h.shaped
  obtain ⟨hshapedServices, hshapedClients⟩ := List.forall_mem_append.1 hshaped
  obtain ⟨services, hrows₁, hmakes₁⟩ := exists_made (servicesStage config) hreads.services (fun _ _ hr => hr.id)
    (fun r hr row hread => by
      obtain ⟨stored, price, hprice, hstored⟩ := hsource.prices r hr
      obtain rfl := Except.ok.inj (hprice.symm.trans hread.unitPrice)
      exact exists_of_isOk (x := catalogItemOf config row (rawId r)) (by rw [catalogItemOf, hstored]; rfl)) hshapedServices
  obtain ⟨clients, hrows₂, hmakes₂⟩ := exists_made (clientsStage config) hreads.clients (fun _ _ hr => hr.id)
    (fun r _ row _ => ⟨partyOf config row (rawId r), rfl⟩) hshapedClients
  obtain ⟨orders, hrows₃, hmakes₃⟩ := exists_made (ordersStage config) hreads.orders (fun _ _ hr => hr.id)
    (fun r hr row hread => by
      obtain ⟨stored, total, htotal, hstored⟩ := hsource.totals r hr
      obtain rfl := Except.ok.inj (htotal.symm.trans hread.totalAmount)
      exact exists_of_isOk (x := workItemOf config row (rawId r)) (by rw [workItemOf, hstored]; rfl)) hshapedOrders
  have hfits := (fits_iff ((forall₂_items hreads.services hrows₁ hmakes₁).imp
    fun r p hrp => (service_made hrp.1 hrp.2).2.2)).2 ⟨h.skus, h.free⟩
  have hcarried : Carried config data.dataset target.business services clients orders :=
    ⟨hrows₁, hrows₂, hrows₃, hmakes₁, hmakes₂, hmakes₃, hfits⟩
  obtain ⟨target', hstages⟩ := hcarried.stages hready.keys hids hnew.sourceRefs hnone
  obtain ⟨report, hrun⟩ := run_iff.2 ⟨hready.admitted, hstages⟩
  -- what stands for the rows once they are there
  obtain ⟨services, clients, orders, hleft, hstanding⟩ := hstages.standing hready.keys hids hnew hnone
  refine ⟨data, report, target', hload, hrun, fun r hr => ?_, fun r hr => ?_, fun r hr => ?_, fun r hr => ?_⟩
  · obtain ⟨p, hp, hread, hmakes⟩ :=
      Forall₂.exists_right (forall₂_items hreads.clients hleft.clients_rows hleft.clients_makes) hr
    have hone := hstanding.clients p hp
    rw [key_of_reads (clientsStage config) hread.id] at hone
    exact ⟨p.2, hone, (client_made hread hmakes).1.trans (h.names r hr).symm⟩
  · obtain ⟨p, hp, hread, hmakes⟩ :=
      Forall₂.exists_right (forall₂_items hreads.services hleft.services_rows hleft.services_makes) hr
    have hone := hstanding.services p hp
    rw [key_of_reads (servicesStage config) hread.id] at hone
    exact ⟨p.2, hone, (service_made hread hmakes).1⟩
  · obtain ⟨p, hp, hread, hmakes⟩ :=
      Forall₂.exists_right (forall₂_items hreads.orders hleft.orders_rows hleft.orders_makes) hr
    have hone := hstanding.orders p hp
    rw [key_of_reads (ordersStage config) hread.id] at hone
    exact ⟨p.2, hone, (order_made hread hmakes).1⟩
  · rw [h.payments] at hr
    exact absurd hr List.not_mem_nil

/-- The import carries a source over exactly when it has no payments, every client is called
what the importer would make up, the services come to skus of their own, and every id fits
a reference. -/
theorem import_carries_over_iff (hsource : WellFormedSource raw) (hready : Ready adapter config target)
    (hnew : NoEarlierImports config target) : CarriesOver adapter config target raw ↔ Carryable config target raw :=
  ⟨CarriesOver.carryable hsource hready.keys hnew, Carryable.carriesOver hsource hready hnew⟩

section Examples

theorem demo_ready : Ready demoAdapter demoConfig demoTarget := ⟨⟨rfl, by decide⟩, rfl⟩

theorem demo_noEarlierImports : NoEarlierImports demoConfig demoTarget where
  sourceRefs := fun _ hrow => absurd hrow List.not_mem_nil
  catalogItems := fun _ hr => absurd hr List.not_mem_nil
  parties := fun _ hr => absurd hr List.not_mem_nil
  workItems := fun _ hr => absurd hr List.not_mem_nil

/-- A source of clients alone. -/
theorem wellFormedSource_clients {rows : List Row} (h : OwnRawIds rows) :
    WellFormedSource { clients := rows } := by
  have hnone : OwnRawIds [] := ⟨fun _ hr => absurd hr List.not_mem_nil, List.nodup_nil⟩
  constructor
  case services | orders | payments => exact hnone
  case clients => exact h
  all_goals exact fun _ hr => absurd hr List.not_mem_nil

/-- A client with a name. -/
def namedClient : Row := (Table.insert ∅ "id" (.number 1 "1")).insert "name" (.str "Anna")

/-- The client's name is lost. -/
theorem client_name_lost : WellFormedSource { clients := [namedClient] } ∧ Ready demoAdapter demoConfig demoTarget ∧
    NoEarlierImports demoConfig demoTarget ∧
    ¬ CarriesOver demoAdapter demoConfig demoTarget { clients := [namedClient] } := by
  have hsource : WellFormedSource { clients := [namedClient] } := wellFormedSource_clients ⟨by decide, by decide⟩
  refine ⟨hsource, demo_ready, demo_noEarlierImports, fun h => ?_⟩
  have hname := (h.carryable hsource rfl demo_noEarlierImports).names namedClient (List.mem_singleton_self _)
  exact absurd hname (by decide)

/-- A client that is called what the importer would make up. -/
def numberedClient : Row := (Table.insert ∅ "id" (.number 1 "1")).insert "name" (.str "Client 1")

/-- The theorem at a client that keeps its name. -/
theorem import_carries_over_numbered : CarriesOver demoAdapter demoConfig demoTarget { clients := [numberedClient] } := by
  have hsource : WellFormedSource { clients := [numberedClient] } :=
    wellFormedSource_clients ⟨by decide, by decide⟩
  refine (import_carries_over_iff hsource demo_ready demo_noEarlierImports).2 ⟨rfl, by decide, List.nodup_nil, ?_, ?_⟩
  · exact fun _ hr => absurd hr List.not_mem_nil
  · decide

end Examples

end Main

end CoreOps.Imports
