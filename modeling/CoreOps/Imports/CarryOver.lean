import CoreOps.Imports.Referenced
import CoreOps.Imports.SourceRows

/-! What the import carries over of the production source. The importer looks for `name`
and `payment_date` where the adapter writes `display_name` and no date at all: clients
lose their names, and a payment stops the import. -/

namespace CoreOps.Imports

open Checked Text
open DryRun (Value Row RunError decimal?)

/-! The three importers that go by the references. -/

section Importers

variable (config : StagingWriteImportConfig)

theorem isGroup_services : isGroup isTableChar "services".toList = true := by decide

theorem isGroup_clients : isGroup isTableChar "clients".toList = true := by decide

theorem isGroup_orders : isGroup isTableChar "orders".toList = true := by decide

theorem colon_services : ':' ∉ "services".toList := by decide

theorem colon_clients : ':' ∉ "clients".toList := by decide

theorem colon_orders : ':' ∉ "orders".toList := by decide

/-- A row of the tenant with the reference noted on it. -/
def NotedFor (tenantId : ℕ) (refs : Option LegacyRefs) (ref : String) : Prop :=
  tenantId = config.tenantId ∧ refs.map (·.legacySourceRef) = some ref

theorem notedFor_legacyRefs {table sourceId ref : String} :
    NotedFor config config.tenantId (some (legacyRefs config table sourceId)) ref ↔ ref = buildSourceRef table sourceId := by
  constructor
  · rintro ⟨-, href⟩
    exact (Option.some.inj href).symm
  · rintro rfl
    exact ⟨rfl, rfl⟩

def catalogItemOf (row : ServiceSource) (sourceId : String) : Except ImportError CatalogItem := do
  let basePrice ← row.unitPrice.mapM moneyColumn
  return {
    tenantId := config.tenantId
    itemType := .service
    name := orElse row.name (orElse row.sourceCode ("Service " ++ sourceId))
    sku := some (orElse row.sourceCode ("legacy-service-" ++ sourceId))
    basePrice := basePrice
    currency := some "RUB"
    legacyRefs := some (legacyRefs config "services" sourceId) }

def servicesStage : Importing config ServiceSource CatalogItem where
  sourceTable := "services"
  targetEntity := "catalog_item"
  id := (·.id)
  create := createCatalogItem config
  tableOf := (·.catalogItems)
  make := catalogItemOf config
  put b _ item := { b with catalogItems := b.catalogItems.add item }
  clash item item' := item.tenantId = item'.tenantId ∧ item.sku = item'.sku
  tableOf_put _ _ _ := rfl
  create_eq_ok row sourceId b newId b' := by
    simp only [createCatalogItem, catalogItemOf, bind_eq_ok, raiseIf_eq_ok, pure_eq_ok, Prod.mk.injEq]
    constructor
    · rintro ⟨basePrice, hprice, -, hfree, rfl, rfl⟩
      refine ⟨_, ⟨basePrice, hprice, rfl⟩, fun r hr hclash => hfree (List.any_eq_true.2 ⟨r, hr, ?_⟩), rfl, rfl⟩
      simpa using hclash
    · rintro ⟨item, ⟨basePrice, hprice, rfl⟩, hfree, rfl, rfl⟩
      refine ⟨basePrice, hprice, ⟨⟩, fun htaken => ?_, rfl, rfl⟩
      obtain ⟨r, hr, hclash⟩ := List.any_eq_true.1 htaken
      exact hfree r hr (by simpa using hclash)
  IsFor ref item := NotedFor config item.tenantId item.legacyRefs ref
  isFor_make {row sourceId item} h ref := by
    simp only [catalogItemOf, bind_eq_ok, pure_eq_ok] at h
    obtain ⟨_, -, rfl⟩ := h
    exact notedFor_legacyRefs config
  isGroup_sourceTable := isGroup_services
  colon_notMem := colon_services

def partyOf (row : ClientSource) (sourceId : String) : Party where
  tenantId := config.tenantId
  partyType := .person
  displayName := orElse row.name ("Client " ++ sourceId)
  status := .active
  legacyRefs := some (legacyRefs config "clients" sourceId)

/-- The contact method of a new party, where the client has an address. -/
def withContact (b : Business) (row : ClientSource) : Table ℕ ContactMethod :=
  match row.email.filter (· ≠ "") with
  | none => b.contactMethods
  | some email => b.contactMethods.add ⟨config.tenantId, b.parties.freshKey, .email, email, true⟩

def clientsStage : Importing config ClientSource Party where
  sourceTable := "clients"
  targetEntity := "party"
  id := (·.id)
  create := createParty config
  tableOf := (·.parties)
  make row sourceId := .ok (partyOf config row sourceId)
  put b row party := { b with parties := b.parties.add party, contactMethods := withContact config b row }
  clash _ _ := False
  tableOf_put _ _ _ := rfl
  create_eq_ok row sourceId b newId b' := by
    simp only [createParty, pure_eq_ok, Prod.mk.injEq, Except.ok.injEq, exists_eq_left', not_false_eq_true, implies_true,
      true_and]
    exact and_congr eq_comm eq_comm
  IsFor ref party := NotedFor config party.tenantId party.legacyRefs ref
  isFor_make {row sourceId party} h ref := by
    obtain rfl := Except.ok.inj h
    exact notedFor_legacyRefs config
  isGroup_sourceTable := isGroup_clients
  colon_notMem := colon_clients

def workItemOf (row : OrderSource) (sourceId : String) : Except ImportError WorkItem := do
  let amount ← row.totalAmount.mapM moneyColumn
  return {
    tenantId := config.tenantId
    pipelineId := config.defaultBranchId
    stageId := config.defaultBranchId
    workItemType := "consulting_order"
    title := orElse row.title ("Order " ++ sourceId)
    status := .open_
    amount := amount
    currency := some "RUB"
    source := some sourceSystem
    legacyRefs := some (legacyRefs config "orders" sourceId)
    defaultBranchId := some config.defaultBranchId }

/-- Orders, where the placeholder keys hold. -/
def ordersStage : Importing config OrderSource WorkItem where
  sourceTable := "orders"
  targetEntity := "work_item"
  id := (·.id)
  create := createWorkItem config true
  tableOf := (·.workItems)
  make := workItemOf config
  put b _ work := { b with workItems := b.workItems.add work }
  clash _ _ := False
  tableOf_put _ _ _ := rfl
  create_eq_ok row sourceId b newId b' := by
    simp only [createWorkItem, workItemOf, bind_eq_ok, raiseIf_eq_ok, pure_eq_ok, Prod.mk.injEq, not_false_eq_true,
      implies_true, true_and]
    constructor
    · rintro ⟨amount, hamount, -, -, rfl, rfl⟩
      exact ⟨_, ⟨amount, hamount, rfl⟩, rfl, rfl⟩
    · rintro ⟨work, ⟨amount, hamount, rfl⟩, rfl, rfl⟩
      exact ⟨amount, hamount, ⟨⟩, Bool.noConfusion, rfl, rfl⟩
  IsFor ref work := NotedFor config work.tenantId work.legacyRefs ref
  isFor_make {row sourceId work} h ref := by
    simp only [workItemOf, bind_eq_ok, pure_eq_ok] at h
    obtain ⟨_, -, rfl⟩ := h
    exact notedFor_legacyRefs config
  isGroup_sourceTable := isGroup_orders
  colon_notMem := colon_orders

variable {config} {adapter : SqlAlchemyStagingWriteAdapter}

theorem importOrder_eq (hkeys : adapter.enforcesForeignKeys = false) : importOrder adapter config = (ordersStage config).step := by
  funext row target
  have hhold : placeholderKeysHold adapter config target = true := by
    rw [placeholderKeysHold, hkeys]
    rfl
  rw [importOrder, hhold]
  rfl

end Importers

/-! The stages of a source without payments. -/

section Stages

variable {adapter : SqlAlchemyStagingWriteAdapter} {config : StagingWriteImportConfig} {data : Dataset}
  {target target' : Target}

/-- The rows that go by the references have ids of their own. -/
structure IdsOwn (data : Dataset) : Prop where
  services : OwnIds (data.services.map (·.id))
  clients : OwnIds (data.clients.map (·.id))
  orders : OwnIds (data.orders.map (·.id))

/-- What becomes of the rows that go by the references, each with the row it becomes. -/
structure Carried (config : StagingWriteImportConfig) (data : Dataset) (b : Business)
    (services : List (ServiceSource × CatalogItem)) (clients : List (ClientSource × Party))
    (orders : List (OrderSource × WorkItem)) : Prop where
  services_rows : services.map Prod.fst = data.services
  clients_rows : clients.map Prod.fst = data.clients
  orders_rows : orders.map Prod.fst = data.orders
  services_makes : ∀ p ∈ services, (servicesStage config).Makes p
  clients_makes : ∀ p ∈ clients, (clientsStage config).Makes p
  orders_makes : ∀ p ∈ orders, (ordersStage config).Makes p
  fits : (servicesStage config).Fits b.catalogItems services

theorem OwnIds.nodup_key {ρ α : Type} {I : Importing config ρ α} {rows : List ρ} (h : OwnIds (rows.map I.id)) :
    (rows.map I.key).Nodup := by
  have hinj : ∀ row ∈ rows, ∀ row' ∈ rows, I.key row = I.key row' → I.id row = I.id row' := fun row hrow row' hrow' =>
    refKey_inj (h.1 _ (List.mem_map_of_mem hrow)) (h.1 _ (List.mem_map_of_mem hrow'))
  obtain ⟨-, hnodup⟩ := h
  induction rows with
  | nil => exact List.nodup_nil
  | cons row rows ih =>
    rw [List.map_cons, List.nodup_cons] at hnodup ⊢
    refine ⟨fun hmem => hnodup.1 ?_, ih (fun r hr r' hr' => hinj r (List.mem_cons_of_mem _ hr) r' (List.mem_cons_of_mem _ hr'))
      hnodup.2⟩
    obtain ⟨r, hr, heq⟩ := List.mem_map.1 hmem
    exact List.mem_map.2 ⟨r, hr, hinj r (List.mem_cons_of_mem _ hr) row List.mem_cons_self heq⟩

theorem OwnIds.hasId {ρ α : Type} {I : Importing config ρ α} {rows : List ρ} (h : OwnIds (rows.map I.id)) :
    ∀ row ∈ rows, HasId (I.id row) :=
  fun _ hrow => h.1 _ (List.mem_map_of_mem hrow)

/-- The later stages leave the three tables alone. -/
def SameCatalog (b b' : Business) : Prop :=
  b'.catalogItems = b.catalogItems ∧ b'.parties = b.parties ∧ b'.workItems = b.workItems

theorem SameCatalog.trans {a b c : Business} (h : SameCatalog a b) (h' : SameCatalog b c) : SameCatalog a c :=
  ⟨h'.1.trans h.1, h'.2.1.trans h.2.1, h'.2.2.trans h.2.2⟩

theorem importContract_catalog {row : ContractSource} {result : RowResult}
    (h : importContract adapter config row target = .ok (result, target')) :
    SameCatalog target.business target'.business := by
  unfold importContract at h
  by_cases hid : orElse row.id "" = ""
  · rw [if_pos hid] at h
    obtain ⟨-, rfl⟩ := Prod.mk.inj (Except.ok.inj h)
    exact ⟨rfl, rfl, rfl⟩
  · rw [if_neg hid] at h
    obtain ⟨-, rfl⟩ := Prod.mk.inj (Except.ok.inj h)
    exact ⟨rfl, rfl, rfl⟩

/-- A loop over rows that each succeed. -/
theorem importRows_total {ρ : Type} {step : ρ → Target → Except ImportError (RowResult × Target)}
    (h : ∀ row t, ∃ r t', step row t = .ok (r, t')) (rows : List ρ) (target : Target) :
    ∃ results target', importRows step rows target = .ok (results, target') := by
  induction rows generalizing target with
  | nil => exact ⟨[], target, rfl⟩
  | cons row rows ih =>
    obtain ⟨r, t, hstep⟩ := h row target
    obtain ⟨results, target', hrest⟩ := ih t
    exact ⟨r :: results, target', importRows_cons.2 ⟨r, t, results, hstep, hrest, rfl⟩⟩

/-- The unknown references of a stage are still unknown after another. -/
theorem unknown_of_stage {ρ ρ' α α' : Type} {I : Importing config ρ α} {J : Importing config ρ' α'}
    (hne : J.sourceTable ≠ I.sourceTable) {rows : List ρ} {results : List RowResult}
    (h : importRows I.step rows target = .ok (results, target')) {row : ρ'}
    (hunknown : Unknown config target.auditLogs (J.key row)) : Unknown config target'.auditLogs (J.key row) :=
  unknown_importRows I.step_spec (fun _ _ => refKey_ne J.colon_notMem I.colon_notMem hne) h hunknown

/-- The references of each stage are unknown when it comes. -/
theorem unknown_stages (hnew : NoSourceRefs config target) {t₁ t₂ : Target} {r₁ r₂ : List RowResult}
    (h₁ : importRows (importService config) data.services (insertBatchContext config target) = .ok (r₁, t₁))
    (h₂ : importRows (importClient config) data.clients t₁ = .ok (r₂, t₂)) :
    (∀ row, Unknown config t₁.auditLogs ((clientsStage config).key row)) ∧
      ∀ row, Unknown config t₂.auditLogs ((ordersStage config).key row) := by
  refine ⟨fun row => ?_, fun row => ?_⟩
  · exact unknown_of_stage (I := servicesStage config) (J := clientsStage config) (show "clients" ≠ "services" by decide)
      h₁ (hnew.unknown _)
  · have hfirst := unknown_of_stage (I := servicesStage config) (J := ordersStage config)
      (show "orders" ≠ "services" by decide) h₁ (hnew.unknown ((ordersStage config).key row))
    exact unknown_of_stage (I := clientsStage config) (J := ordersStage config) (show "orders" ≠ "clients" by decide)
      h₂ hfirst

/-- What a run leaves in the three tables. -/
theorem Stages.carried (h : Stages adapter config data target target') (hkeys : adapter.enforcesForeignKeys = false)
    (hids : IdsOwn data) (hnew : NoSourceRefs config target) (hpayments : data.payments = []) :
    ∃ services clients orders, Carried config data target.business services clients orders ∧
      target'.business.catalogItems = ((servicesStage config).putAll target.business services).catalogItems ∧
      (∃ b, b.parties = target.business.parties ∧
        target'.business.parties = ((clientsStage config).putAll b clients).parties) ∧
      ∃ b, b.workItems = target.business.workItems ∧
        target'.business.workItems = ((ordersStage config).putAll b orders).workItems := by
  obtain ⟨r₁, t₁, r₂, t₂, r₃, t₃, r₄, t₄, r₅, t₅, r₆, t₆, r₇, h₁, h₂, h₃, h₄, h₅, h₆, h₇⟩ := h
  rw [importOrder_eq hkeys] at h₃
  rw [hpayments] at h₆ h₇
  obtain ⟨-, rfl⟩ := Prod.mk.inj (Except.ok.inj h₆)
  obtain ⟨-, rfl⟩ := Prod.mk.inj (Except.ok.inj h₇)
  obtain ⟨u₂, u₃⟩ := unknown_stages hnew h₁ h₂
  obtain ⟨services, hrows₁, hmakes₁, hfits, hb₁⟩ := (Importing.importRows_iff (I := servicesStage config)
    (OwnIds.hasId (I := servicesStage config) hids.services) (OwnIds.nodup_key (I := servicesStage config) hids.services)
    fun _ _ => hnew.unknown _).1 ⟨r₁, t₁, h₁, rfl⟩
  obtain ⟨clients, hrows₂, hmakes₂, -, hb₂⟩ := (Importing.importRows_iff (I := clientsStage config)
    (OwnIds.hasId (I := clientsStage config) hids.clients) (OwnIds.nodup_key (I := clientsStage config) hids.clients)
    fun row _ => u₂ row).1 ⟨r₂, t₂, h₂, rfl⟩
  obtain ⟨orders, hrows₃, hmakes₃, -, hb₃⟩ := (Importing.importRows_iff (I := ordersStage config)
    (OwnIds.hasId (I := ordersStage config) hids.orders) (OwnIds.nodup_key (I := ordersStage config) hids.orders)
    fun row _ => u₃ row).1 ⟨r₃, t₃, h₃, rfl⟩
  -- what the last two stages leave alone
  let K : Target → Prop := fun t => SameCatalog t₃.business t.business
  have k₄ : K t₄ := importRows_invariant K (fun row _ t r t' hstep hK => by
    rcases importOrderItem_log hstep with rfl | ⟨log, rfl, -⟩ <;> exact hK) h₄ ⟨rfl, rfl, rfl⟩
  obtain ⟨hitems, hparties, hwork⟩ : K t₅ := importRows_invariant K
    (fun row _ t r t' hstep hK => hK.trans (importContract_catalog hstep)) h₅ k₄
  have hbusiness : (insertBatchContext config target).business = target.business := rfl
  rw [hbusiness] at hb₁
  refine ⟨services, clients, orders, ⟨hrows₁, hrows₂, hrows₃, hmakes₁, hmakes₂, hmakes₃, hfits⟩, ?_,
    ⟨t₁.business, ?_, ?_⟩, t₂.business, ?_, ?_⟩
  · rw [hitems, hb₃, Importing.putAll_frame (·.catalogItems) fun _ _ _ => rfl, hb₂,
      Importing.putAll_frame (·.catalogItems) fun _ _ _ => rfl, hb₁]
  · rw [hb₁, Importing.putAll_frame (·.parties) fun _ _ _ => rfl]
  · rw [hparties, hb₃, Importing.putAll_frame (·.parties) fun _ _ _ => rfl, hb₂]
  · rw [hb₂, Importing.putAll_frame (·.workItems) fun _ _ _ => rfl, hb₁,
      Importing.putAll_frame (·.workItems) fun _ _ _ => rfl]
  · rw [hwork, hb₃]

/-- A source whose rows can be carried over is. -/
theorem Carried.stages {services : List (ServiceSource × CatalogItem)} {clients : List (ClientSource × Party)}
    {orders : List (OrderSource × WorkItem)} (h : Carried config data target.business services clients orders)
    (hkeys : adapter.enforcesForeignKeys = false) (hids : IdsOwn data) (hnew : NoSourceRefs config target)
    (hpayments : data.payments = []) : ∃ target', Stages adapter config data target target' := by
  obtain ⟨r₁, t₁, h₁, -⟩ := (Importing.importRows_iff (I := servicesStage config)
    (OwnIds.hasId (I := servicesStage config) hids.services) (OwnIds.nodup_key (I := servicesStage config) hids.services)
    fun _ _ => hnew.unknown _).2 ⟨services, h.services_rows, h.services_makes, h.fits, rfl⟩
  have u₂ := fun row => unknown_of_stage (I := servicesStage config) (J := clientsStage config)
    (show "clients" ≠ "services" by decide) h₁ (hnew.unknown ((clientsStage config).key row))
  have hfree : ∀ {ρ α : Type} {l : List (ρ × α)}, l.Pairwise fun _ _ => ¬ False := fun {_ _ l} =>
    List.pairwise_of_forall fun _ _ => not_false
  obtain ⟨r₂, t₂, h₂, -⟩ := (Importing.importRows_iff (I := clientsStage config)
    (OwnIds.hasId (I := clientsStage config) hids.clients) (OwnIds.nodup_key (I := clientsStage config) hids.clients)
    fun row _ => u₂ row).2 ⟨clients, h.clients_rows, h.clients_makes, ⟨fun _ _ _ _ => not_false, hfree⟩, rfl⟩
  obtain ⟨-, u₃⟩ := unknown_stages hnew h₁ h₂
  obtain ⟨r₃, t₃, h₃, -⟩ := (Importing.importRows_iff (I := ordersStage config)
    (OwnIds.hasId (I := ordersStage config) hids.orders) (OwnIds.nodup_key (I := ordersStage config) hids.orders)
    fun row _ => u₃ row).2 ⟨orders, h.orders_rows, h.orders_makes, ⟨fun _ _ _ _ => not_false, hfree⟩, rfl⟩
  obtain ⟨r₄, t₄, h₄⟩ := importRows_total (fun row t => by
    obtain ⟨r, t', hok, -⟩ := importOrderItem_ok adapter config row t
    exact ⟨r, t', hok⟩) data.orderItems t₃
  have htotal : ∀ row t, ∃ r t', importContract adapter config row t = .ok (r, t') := by
    intro row t
    unfold importContract
    by_cases hid : orElse row.id "" = ""
    · rw [if_pos hid]
      exact ⟨_, _, rfl⟩
    · rw [if_neg hid]
      exact ⟨_, _, rfl⟩
  obtain ⟨r₅, t₅, h₅⟩ := importRows_total htotal data.contracts t₄
  refine ⟨t₅, r₁, t₁, r₂, t₂, r₃, t₃, r₄, t₄, r₅, t₅, [], t₅, [], h₁, h₂, ?_, h₄, h₅, ?_, ?_⟩
  · rw [importOrder_eq hkeys]
    exact h₃
  · rw [hpayments]
    rfl
  · rw [hpayments]
    rfl

end Stages

end CoreOps.Imports
