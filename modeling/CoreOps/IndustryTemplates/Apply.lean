import CoreOps.Lib.Importer
import CoreOps.Lib.Json
import CoreOps.Lib.Text
import CoreOps.Modules.EnableOrder

/-! Applying an industry template to a tenant: its modules are enabled, its labels and
settings replaced, and what it lists by default imported, each kind of row by an importer
of its own. A method returns the state its transaction commits, or the exception it raises.
A row is named by its unique constraint where it has one. The entries of a template are
read from JSON: a key may be absent; what `Decimal` makes of a price and
`extract_lead_sources_from_settings_schema` of a schema are arguments. Row timestamps are
left out. -/

namespace CoreOps.IndustryTemplates

open Checked Text

inductive ApplyError
  | module (e : Modules.ModuleError)
  | notFound (message : String)
  | conflict (message : String)
  | keyError (key : String)
  | valueError
  | invalidOperation
  | integrityError
  deriving DecidableEq, Repr

/-! The entries of a template. -/

structure StageConfig where
  code : Option String
  name : Option String
  sortOrder : Option ℤ
  isTerminal : Option Bool

structure PipelineConfig where
  code : Option String
  name : Option String
  entityType : Option String
  isDefault : Option Bool
  stages : Option (List StageConfig)

structure CustomFieldConfig where
  entityType : Option String
  fieldKey : Option String
  fieldType : Option String
  label : Option String
  appliesToJson : Option Json
  optionsJson : Option Json
  isRequired : Option Bool
  sortOrder : Option ℤ

structure DocumentFieldConfig where
  fieldKey : Option String
  label : Option String
  fieldType : Option String
  isRequired : Option Bool
  defaultValue : Option String

structure DocumentTemplateConfig where
  code : Option String
  name : Option String
  description : Option String
  documentType : Option String
  bodyTemplate : Option String
  fields : Option (List DocumentFieldConfig)

structure CatalogItemConfig where
  itemType : Option String
  name : Option String
  description : Option String
  sku : Option String
  basePrice : Option String
  currency : Option String
  isActive : Option Bool

structure AgentConfig where
  code : Option String
  name : Option String
  roleCode : Option String
  description : Option String
  systemPrompt : Option String
  configJson : Option Json

structure IndustryTemplate where
  code : String
  defaultModules : List String
  defaultRoles : Json
  defaultPipelines : List PipelineConfig
  defaultStatuses : Json
  defaultCustomFields : List CustomFieldConfig
  defaultDocumentTemplates : List DocumentTemplateConfig
  defaultCatalogItems : List CatalogItemConfig
  defaultDashboards : Json
  defaultAiAgents : List AgentConfig
  labelsConfig : Json
  settingsSchema : Json
  isActive : Bool

/-! The rows. -/

structure Pipeline where
  name : String
  entityType : String
  isDefault : Bool
  deriving DecidableEq

structure PipelineStage where
  name : String
  sortOrder : ℤ
  isTerminal : Bool
  deriving DecidableEq

/-- Pipelines under tenant and code, stages under pipeline and code. -/
structure Workflows where
  pipelines : Table (ℕ × String) Pipeline
  stages : Table ((ℕ × String) × String) PipelineStage

structure CustomFieldDefinition where
  fieldType : String
  label : String
  appliesToJson : Json
  optionsJson : Json
  isRequired : Bool
  sortOrder : ℤ
  sourceTemplateCode : Option String

structure DocumentTemplate where
  name : String
  description : Option String
  documentType : String
  bodyTemplate : String
  isActive : Bool
  createdByUserId : ℕ
  updatedByUserId : ℕ
  deriving DecidableEq

structure DocumentTemplateField where
  label : String
  fieldType : String
  isRequired : Bool
  defaultValue : Option String
  deriving DecidableEq

/-- Templates under tenant and code, their fields under template and key. -/
structure Documents where
  templates : Table (ℕ × String) DocumentTemplate
  fields : Table ((ℕ × String) × String) DocumentTemplateField

inductive CatalogItemType
  | product
  | service
  | subscriptionService
  | bundle
  | fee
  | discount
  deriving DecidableEq, Repr

def CatalogItemType.ofValue? : String → Option CatalogItemType
  | "product" => some .product
  | "service" => some .service
  | "subscription_service" => some .subscriptionService
  | "bundle" => some .bundle
  | "fee" => some .fee
  | "discount" => some .discount
  | _ => none

/-- An item; its price is in hundredths. -/
structure CatalogItem where
  tenantId : ℕ
  itemType : CatalogItemType
  name : String
  description : Option String
  sku : Option String
  basePrice : Option ℤ
  currency : Option String
  isActive : Bool
  createdByUserId : ℕ
  updatedByUserId : ℕ
  deriving DecidableEq

structure AIAgent where
  name : String
  roleCode : String
  description : Option String
  systemPrompt : Option String
  configJson : Json
  isActive : Bool
  requiresApprovalForCritical : Bool
  createdByUserId : ℕ
  updatedByUserId : ℕ

/-- `industry_config_json`: the template's code, its defaults and its lead sources. -/
structure IndustryConfig where
  templateCode : String
  defaultRoles : Json
  defaultStatuses : Json
  defaultDocumentTemplates : List DocumentTemplateConfig
  defaultCatalogItems : List CatalogItemConfig
  defaultDashboards : Json
  defaultAiAgents : List AgentConfig
  settingsSchema : Json
  leadSources : List Json

structure TenantSettings where
  labelsConfig : Json
  industryConfig : IndustryConfig

structure State where
  registry : Modules.State
  templates : Table ℕ IndustryTemplate
  industryTemplateIds : Table ℕ ℕ
  settings : Table ℕ TenantSettings
  workflows : Workflows
  customFields : Table (ℕ × String × String) CustomFieldDefinition
  documents : Documents
  catalogItems : List CatalogItem
  aiAgents : Table (ℕ × String) AIAgent

/-! What the importers fall back on. -/

def defaultBodyForCode : String → String
  | "parent_contract" =>
    "ДОГОВОР № \x7b\x7bcontract_number\x7d\x7d\n\nЗаконный представитель: \x7b\x7bguardian_name\x7d\x7d\n" ++
      "Ребёнок: \x7b\x7bchild_name\x7d\x7d\nДата: \x7b\x7bcontract_date\x7d\x7d\n"
  | "enrollment_application" =>
    "ЗАЯВЛЕНИЕ НА ЗАЧИСЛЕНИЕ\n\nРебёнок: \x7b\x7bchild_name\x7d\x7d\n" ++
      "Законный представитель: \x7b\x7bguardian_name\x7d\x7d\nДата: \x7b\x7bapplication_date\x7d\x7d\n"
  | _ => "Документ \x7b\x7bdocument_code\x7d\x7d\n\nСодержание: \x7b\x7bbody\x7d\x7d\n"

def requiredField (fieldKey label : String) : DocumentFieldConfig :=
  ⟨some fieldKey, some label, none, some true, none⟩

def defaultFieldsForCode : String → List DocumentFieldConfig
  | "parent_contract" =>
    [requiredField "contract_number" "Номер договора", requiredField "guardian_name" "Законный представитель",
      requiredField "child_name" "Ребёнок", requiredField "contract_date" "Дата договора"]
  | "enrollment_application" =>
    [requiredField "child_name" "Ребёнок", requiredField "guardian_name" "Законный представитель",
      requiredField "application_date" "Дата заявления"]
  | _ => [requiredField "body" "Текст"]

/-! The importers. -/

section Importers

/-- A key the importer reads with brackets. -/
def required {α : Type} (key : String) (value : Option α) : Except ApplyError α := orRaise value (.keyError key)

variable (tenantId userId : ℕ)

/-- The key of an entry that has a code. -/
def codeKey (code : Option String) : Except ApplyError (ℕ × String) := do
  let code ← required "code" code
  return (tenantId, code)

def createPipelineStage (pipeline : ℕ × String) (stages : Table ((ℕ × String) × String) PipelineStage) (stage : StageConfig) :
    Except ApplyError (Table ((ℕ × String) × String) PipelineStage) := do
  let code ← required "code" stage.code
  let name ← required "name" stage.name
  raiseIf ((stages.get? (pipeline, code)).isSome) .integrityError
  return stages.insert (pipeline, code) {
    name := name
    sortOrder := stage.sortOrder.getD 0
    isTerminal := stage.isTerminal.getD false }

def createPipeline (rows : Workflows) (pipeline : PipelineConfig) : Except ApplyError Workflows := do
  let key ← codeKey tenantId pipeline.code
  let name ← required "name" pipeline.name
  let stages ← (pipeline.stages.getD []).foldlM (createPipelineStage key) rows.stages
  return {
    pipelines := rows.pipelines.insert key {
      name := name
      entityType := pipeline.entityType.getD "work_item"
      isDefault := pipeline.isDefault.getD false }
    stages := stages }

/-- `_apply_pipelines`. -/
def pipelineImporter : Importer ApplyError Workflows PipelineConfig :=
  .ofTable (fun pipeline => codeKey tenantId pipeline.code) (·.pipelines) (createPipeline tenantId)

def customFieldKey (field : CustomFieldConfig) : Except ApplyError (ℕ × String × String) := do
  let entityType ← required "entity_type" field.entityType
  let fieldKey ← required "field_key" field.fieldKey
  return (tenantId, entityType, fieldKey)

def createCustomField (templateCode : String) (rows : Table (ℕ × String × String) CustomFieldDefinition)
    (field : CustomFieldConfig) : Except ApplyError (Table (ℕ × String × String) CustomFieldDefinition) := do
  let key ← customFieldKey tenantId field
  let fieldType ← required "field_type" field.fieldType
  let label ← required "label" field.label
  return rows.insert key {
    fieldType := fieldType
    label := label
    appliesToJson := field.appliesToJson.getD (.obj [])
    optionsJson := field.optionsJson.getD (.obj [])
    isRequired := field.isRequired.getD false
    sortOrder := field.sortOrder.getD 0
    sourceTemplateCode := some templateCode }

/-- `_apply_custom_fields`. -/
def customFieldImporter (templateCode : String) :
    Importer ApplyError (Table (ℕ × String × String) CustomFieldDefinition) CustomFieldConfig :=
  .ofTable (customFieldKey tenantId) id (createCustomField tenantId templateCode)

def createAgent (rows : Table (ℕ × String) AIAgent) (agent : AgentConfig) :
    Except ApplyError (Table (ℕ × String) AIAgent) := do
  let key ← codeKey tenantId agent.code
  let name ← required "name" agent.name
  return rows.insert key {
    name := name
    roleCode := agent.roleCode.getD key.2
    description := agent.description
    systemPrompt := agent.systemPrompt
    configJson := agent.configJson.getD (.obj [])
    isActive := true
    requiresApprovalForCritical := true
    createdByUserId := userId
    updatedByUserId := userId }

/-- `import_agents_from_config`. -/
def agentImporter : Importer ApplyError (Table (ℕ × String) AIAgent) AgentConfig :=
  .ofTable (fun agent => codeKey tenantId agent.code) id (createAgent tenantId userId)

def createDocumentField (template : ℕ × String) (fields : Table ((ℕ × String) × String) DocumentTemplateField)
    (field : DocumentFieldConfig) : Except ApplyError (Table ((ℕ × String) × String) DocumentTemplateField) := do
  let fieldKey ← required "field_key" field.fieldKey
  let label ← required "label" field.label
  raiseIf ((fields.get? (template, fieldKey)).isSome) .integrityError
  return fields.insert (template, fieldKey) {
    label := label
    fieldType := field.fieldType.getD "string"
    isRequired := field.isRequired.getD false
    defaultValue := field.defaultValue }

def createDocumentTemplate (rows : Documents) (item : DocumentTemplateConfig) : Except ApplyError Documents := do
  let key ← codeKey tenantId item.code
  let name ← required "name" item.name
  let fields ← (item.fields.getD (defaultFieldsForCode key.2)).foldlM (createDocumentField key) rows.fields
  return {
    templates := rows.templates.insert key {
      name := name
      description := item.description
      documentType := item.documentType.getD "contract"
      bodyTemplate := orElse item.bodyTemplate (defaultBodyForCode key.2)
      isActive := true
      createdByUserId := userId
      updatedByUserId := userId }
    fields := fields }

/-- `import_templates_from_config`. -/
def documentImporter : Importer ApplyError Documents DocumentTemplateConfig :=
  .ofTable (fun item => codeKey tenantId item.code) (·.templates) (createDocumentTemplate tenantId userId)

def getItemBySku (sku : String) (rows : List CatalogItem) : Option CatalogItem :=
  rows.find? fun row => row.tenantId = tenantId ∧ row.sku = some sku

/-- Whether the importer looks for an item at all. -/
def CatalogItemConfig.HasSku (item : CatalogItemConfig) : Prop := ∃ sku, item.sku = some sku ∧ sku ≠ ""

def catalogItemKnown (rows : List CatalogItem) (item : CatalogItemConfig) : Bool :=
  item.sku.any fun sku => sku ≠ "" ∧ (getItemBySku tenantId sku rows).isSome

/-- The row of an item, against `uq_catalog_item_tenant_sku`. -/
def createCatalogItem (toDecimal : String → Option ℤ) (rows : List CatalogItem) (item : CatalogItemConfig) :
    Except ApplyError (List CatalogItem) := do
  let value ← required "item_type" item.itemType
  let itemType ← orRaise (CatalogItemType.ofValue? value) .valueError
  let name ← required "name" item.name
  let basePrice ← item.basePrice.mapM fun price => orRaise (toDecimal price) .invalidOperation
  raiseIf (item.sku.any fun sku => (getItemBySku tenantId sku rows).isSome) .integrityError
  return rows ++ [{
    tenantId := tenantId
    itemType := itemType
    name := name
    description := item.description
    sku := item.sku
    basePrice := basePrice
    currency := item.currency
    isActive := item.isActive.getD true
    createdByUserId := userId
    updatedByUserId := userId }]

/-- `_apply_catalog_items`. -/
def catalogImporter (toDecimal : String → Option ℤ) : Importer ApplyError (List CatalogItem) CatalogItemConfig where
  known rows item := .ok (catalogItemKnown tenantId rows item)
  create := createCatalogItem tenantId userId toDecimal

end Importers

/-! The service. -/

section Service

structure ApplyTemplateResponse where
  tenantId : ℕ
  templateId : ℕ
  templateCode : String
  modulesEnabled : List String
  pipelinesCreated : List String
  customFieldsCreated : ℕ
  labelsApplied : Bool
  deriving DecidableEq, Repr

variable (toDecimal : String → Option ℤ) (extractLeadSources : Json → Except ApplyError (List Json))

def industryConfig (template : IndustryTemplate) (leadSources : List Json) : IndustryConfig where
  templateCode := template.code
  defaultRoles := template.defaultRoles
  defaultStatuses := template.defaultStatuses
  defaultDocumentTemplates := template.defaultDocumentTemplates
  defaultCatalogItems := template.defaultCatalogItems
  defaultDashboards := template.defaultDashboards
  defaultAiAgents := template.defaultAiAgents
  settingsSchema := template.settingsSchema
  leadSources := leadSources

def ensureProviderAccess (user : Modules.User) (tenantId : ℕ) (s : State) : Except ApplyError Unit :=
  (Modules.ensureAccess "Only provider staff can apply industry templates" user tenantId s.registry).mapError .module

/-- What a template does once it is found; a user is its provider staff and its id. -/
def applyTemplate (userId tenantId templateId : ℕ) (template : IndustryTemplate) (s : State) :
    Except ApplyError (ApplyTemplateResponse × State) := do
  let registry ← (Modules.enableModulesOrdered tenantId template.defaultModules true s.registry).mapError .module
  let leadSources ← extractLeadSources template.settingsSchema
  let (workflows, pipelinesCreated) ← (pipelineImporter tenantId).run template.defaultPipelines s.workflows
  let (customFields, fieldsCreated) ←
    (customFieldImporter tenantId template.code).run template.defaultCustomFields s.customFields
  let (documents, _) ← (documentImporter tenantId userId).run template.defaultDocumentTemplates s.documents
  let (catalogItems, _) ← (catalogImporter tenantId userId toDecimal).run template.defaultCatalogItems s.catalogItems
  let (aiAgents, _) ← (agentImporter tenantId userId).run template.defaultAiAgents s.aiAgents
  return (
    { tenantId := tenantId
      templateId := templateId
      templateCode := template.code
      modulesEnabled := Modules.sortModuleCodes template.defaultModules
      pipelinesCreated := pipelinesCreated.filterMap (·.code)
      customFieldsCreated := fieldsCreated.length
      labelsApplied := true },
    { s with
      registry := registry
      industryTemplateIds := s.industryTemplateIds.put tenantId templateId
      settings := s.settings.put tenantId ⟨template.labelsConfig, industryConfig template leadSources⟩
      workflows := workflows
      customFields := customFields
      documents := documents
      catalogItems := catalogItems
      aiAgents := aiAgents })

def applyToTenant (user : Modules.User) (userId tenantId templateId : ℕ) (s : State) :
    Except ApplyError (ApplyTemplateResponse × State) := do
  ensureProviderAccess user tenantId s
  let template ← orRaise (s.templates.get? templateId) (.notFound "Industry template not found")
  raiseIf (template.isActive = false) (.conflict "Industry template is not active")
  applyTemplate toDecimal extractLeadSources userId tenantId templateId template s

end Service

/-- The rows a tenant has. -/
structure TenantRows where
  modules : List ((ℕ × String) × Modules.TenantModule)
  settings : Option TenantSettings
  pipelines : List ((ℕ × String) × Pipeline)
  stages : List (((ℕ × String) × String) × PipelineStage)
  customFields : List ((ℕ × String × String) × CustomFieldDefinition)
  documentTemplates : List ((ℕ × String) × DocumentTemplate)
  documentFields : List (((ℕ × String) × String) × DocumentTemplateField)
  catalogItems : List CatalogItem
  aiAgents : List ((ℕ × String) × AIAgent)

def State.rowsOf (s : State) (tenantId : ℕ) : TenantRows where
  modules := s.registry.tenantModules.rows.filter fun r => r.1.1 = tenantId
  settings := s.settings.get? tenantId
  pipelines := s.workflows.pipelines.rows.filter fun r => r.1.1 = tenantId
  stages := s.workflows.stages.rows.filter fun r => r.1.1.1 = tenantId
  customFields := s.customFields.rows.filter fun r => r.1.1 = tenantId
  documentTemplates := s.documents.templates.rows.filter fun r => r.1.1 = tenantId
  documentFields := s.documents.fields.rows.filter fun r => r.1.1.1 = tenantId
  catalogItems := s.catalogItems.filter fun r => r.tenantId = tenantId
  aiAgents := s.aiAgents.rows.filter fun r => r.1.1 = tenantId

/-! Applying a template again. -/

section Again

variable {tenantId userId : ℕ} {toDecimal : String → Option ℤ}

theorem pipelineImporter_keyed : (pipelineImporter tenantId).Keyed fun _ => True := by
  refine Importer.keyed_ofTable fun h => ?_
  simp only [createPipeline, bind_eq_ok, pure_eq_ok] at h
  obtain ⟨key, hkey, name, -, stages, -, rfl⟩ := h
  exact ⟨key, _, hkey, rfl⟩

theorem customFieldImporter_keyed {templateCode : String} :
    (customFieldImporter tenantId templateCode).Keyed fun _ => True := by
  refine Importer.keyed_ofTable fun h => ?_
  simp only [createCustomField, bind_eq_ok, pure_eq_ok] at h
  obtain ⟨key, hkey, fieldType, -, label, -, rfl⟩ := h
  exact ⟨key, _, hkey, rfl⟩

theorem documentImporter_keyed : (documentImporter tenantId userId).Keyed fun _ => True := by
  refine Importer.keyed_ofTable fun h => ?_
  simp only [createDocumentTemplate, bind_eq_ok, pure_eq_ok] at h
  obtain ⟨key, hkey, name, -, fields, -, rfl⟩ := h
  exact ⟨key, _, hkey, rfl⟩

theorem agentImporter_keyed : (agentImporter tenantId userId).Keyed fun _ => True := by
  refine Importer.keyed_ofTable fun h => ?_
  simp only [createAgent, bind_eq_ok, pure_eq_ok] at h
  obtain ⟨key, hkey, name, -, rfl⟩ := h
  exact ⟨key, _, hkey, rfl⟩

/-- A created item is a row of the tenant with the item's sku, after the others. -/
theorem createCatalogItem_ok {rows rows' : List CatalogItem} {item : CatalogItemConfig}
    (h : createCatalogItem tenantId userId toDecimal rows item = .ok rows') :
    ∃ row, rows' = rows ++ [row] ∧ row.tenantId = tenantId ∧ row.sku = item.sku := by
  simp only [createCatalogItem, bind_eq_ok, pure_eq_ok] at h
  obtain ⟨value, -, itemType, -, name, -, basePrice, -, ⟨⟩, -, rfl⟩ := h
  exact ⟨_, rfl, rfl, rfl⟩

theorem catalogItemKnown_iff {rows : List CatalogItem} {item : CatalogItemConfig} :
    catalogItemKnown tenantId rows item = true ↔
      item.HasSku ∧ ∃ row ∈ rows, row.tenantId = tenantId ∧ row.sku = item.sku := by
  unfold catalogItemKnown CatalogItemConfig.HasSku getItemBySku
  cases item.sku with
  | none => simp
  | some sku => simp

theorem catalogImporter_keyed : (catalogImporter tenantId userId toDecimal).Keyed CatalogItemConfig.HasSku where
  created := by
    intro rows rows' item hsku h
    obtain ⟨row, rfl, htenant, hrow⟩ := createCatalogItem_ok h
    exact congrArg Except.ok (catalogItemKnown_iff.2 ⟨hsku, row, by simp, htenant, hrow⟩)
  kept := by
    intro rows rows' item item' _ h hknown
    obtain ⟨row, rfl, -, -⟩ := createCatalogItem_ok h
    obtain ⟨hsku, row', hmem, hrow'⟩ := catalogItemKnown_iff.1 (Except.ok.inj hknown)
    exact congrArg Except.ok (catalogItemKnown_iff.2 ⟨hsku, row', List.mem_append_left _ hmem, hrow'⟩)

variable {extractLeadSources : Json → Except ApplyError (List Json)} {user : Modules.User} {templateId : ℕ}
  {template : IndustryTemplate} {response : ApplyTemplateResponse} {s s' : State}

/-- The parts of an application that succeeds. -/
structure Applies (toDecimal : String → Option ℤ) (extractLeadSources : Json → Except ApplyError (List Json))
    (userId tenantId templateId : ℕ) (template : IndustryTemplate) (s s' : State) : Prop where
  registry : Modules.enableModulesOrdered tenantId template.defaultModules true s.registry = .ok s'.registry
  leadSources : ∃ leadSources, extractLeadSources template.settingsSchema = .ok leadSources ∧
    s'.settings = s.settings.put tenantId ⟨template.labelsConfig, industryConfig template leadSources⟩
  workflows : ∃ created,
    (pipelineImporter tenantId).run template.defaultPipelines s.workflows = .ok (s'.workflows, created)
  customFields : ∃ created, (customFieldImporter tenantId template.code).run template.defaultCustomFields s.customFields =
    .ok (s'.customFields, created)
  documents : ∃ created,
    (documentImporter tenantId userId).run template.defaultDocumentTemplates s.documents = .ok (s'.documents, created)
  catalogItems : ∃ created, (catalogImporter tenantId userId toDecimal).run template.defaultCatalogItems s.catalogItems =
    .ok (s'.catalogItems, created)
  aiAgents : ∃ created,
    (agentImporter tenantId userId).run template.defaultAiAgents s.aiAgents = .ok (s'.aiAgents, created)
  industryTemplateIds : s'.industryTemplateIds = s.industryTemplateIds.put tenantId templateId
  templates : s'.templates = s.templates

theorem exists_applyTemplate_iff :
    (∃ response, applyTemplate toDecimal extractLeadSources userId tenantId templateId template s = .ok (response, s')) ↔
      Applies toDecimal extractLeadSources userId tenantId templateId template s s' := by
  simp only [applyTemplate, bind_eq_ok, pure_eq_ok, mapError_eq_ok]
  constructor
  · rintro ⟨response, registry, hregistry, leadSources, hsources, ⟨workflows, created⟩, hworkflows,
      ⟨customFields, fieldsCreated⟩, hfields, ⟨documents, _⟩, hdocuments, ⟨catalogItems, _⟩, hitems, ⟨aiAgents, _⟩,
      hagents, h⟩
    obtain ⟨-, rfl⟩ := Prod.mk.inj h
    exact ⟨hregistry, ⟨leadSources, hsources, rfl⟩, ⟨_, hworkflows⟩, ⟨_, hfields⟩, ⟨_, hdocuments⟩, ⟨_, hitems⟩,
      ⟨_, hagents⟩, rfl, rfl⟩
  · rintro ⟨hregistry, ⟨leadSources, hsources, hsettings⟩, ⟨_, hworkflows⟩, ⟨_, hfields⟩, ⟨_, hdocuments⟩, ⟨_, hitems⟩,
      ⟨_, hagents⟩, hids, htemplates⟩
    refine ⟨_, _, hregistry, leadSources, hsources, _, hworkflows, _, hfields, _, hdocuments, _, hitems, _, hagents,
      Prod.ext rfl ?_⟩
    rw [← hsettings, ← hids, ← htemplates]

/-- The second application, where every item has a sku. -/
theorem Applies.again (hskus : ∀ item ∈ template.defaultCatalogItems, item.HasSku)
    (h : Applies toDecimal extractLeadSources userId tenantId templateId template s s') :
    Applies toDecimal extractLeadSources userId tenantId templateId template s' s' := by
  obtain ⟨leadSources, hsources, hsettings⟩ := h.leadSources
  obtain ⟨_, hworkflows⟩ := h.workflows
  obtain ⟨_, hfields⟩ := h.customFields
  obtain ⟨_, hdocuments⟩ := h.documents
  obtain ⟨_, hitems⟩ := h.catalogItems
  obtain ⟨_, hagents⟩ := h.aiAgents
  constructor
  case registry => exact Modules.enableModulesOrdered_again h.registry
  case leadSources =>
    refine ⟨leadSources, hsources, (Table.put_eq_self ?_).symm⟩
    rw [hsettings, Table.get?_put_self]
  case workflows => exact ⟨[], pipelineImporter_keyed.run_again (fun _ _ => trivial) hworkflows⟩
  case customFields => exact ⟨[], customFieldImporter_keyed.run_again (fun _ _ => trivial) hfields⟩
  case documents => exact ⟨[], documentImporter_keyed.run_again (fun _ _ => trivial) hdocuments⟩
  case catalogItems => exact ⟨[], catalogImporter_keyed.run_again hskus hitems⟩
  case aiAgents => exact ⟨[], agentImporter_keyed.run_again (fun _ _ => trivial) hagents⟩
  case industryTemplateIds =>
    refine (Table.put_eq_self ?_).symm
    rw [h.industryTemplateIds, Table.get?_put_self]
  case templates => rfl

/-- An item without a sku is created each time. -/
theorem Applies.catalogItems_lt {item : CatalogItemConfig} (hitem : item ∈ template.defaultCatalogItems)
    (hsku : ¬ item.HasSku) (h : Applies toDecimal extractLeadSources userId tenantId templateId template s s') :
    (s.rowsOf tenantId).catalogItems.length < (s'.rowsOf tenantId).catalogItems.length := by
  obtain ⟨created, hitems⟩ := h.catalogItems
  let size (rows : List CatalogItem) : ℕ := (rows.filter fun r => r.tenantId = tenantId).length
  refine @Importer.size_run _ _ _ _ _ _ _ _ size ?_ _ hitem ?_ hitems
  · intro rows item rows' hcreate
    obtain ⟨row, rfl, htenant, -⟩ := createCatalogItem_ok hcreate
    simp [size, htenant]
  · exact fun rows hknown => hsku (catalogItemKnown_iff.1 (Except.ok.inj hknown)).1

theorem enableModulesOrdered_tenants {registry : Modules.State} {moduleCodes : List String} {asTrial : Bool}
    (h : Modules.enableModulesOrdered tenantId moduleCodes asTrial s.registry = .ok registry) :
    registry.tenants = s.registry.tenants := by
  rw [Modules.enableModulesOrdered, bind_eq_ok] at h
  obtain ⟨provisioned, h₁, h₂⟩ := h
  exact (foldlM_invariant (·.tenants = provisioned.tenants)
    (fun _ _ _ _ hb hstep => (Modules.enableOne_ok hstep).2.1.trans hb) rfl h₂).trans
      (Modules.provides_provisionTenantModules h₁).tenants

theorem Applies.access (h : Applies toDecimal extractLeadSources userId tenantId templateId template s s')
    (haccess : ensureProviderAccess user tenantId s = .ok ()) : ensureProviderAccess user tenantId s' = .ok () := by
  rw [ensureProviderAccess, mapError_eq_ok] at haccess ⊢
  rw [Modules.ensureAccess, enableModulesOrdered_tenants h.registry]
  exact haccess

theorem exists_applyToTenant_iff (htemplate : s.templates.get? templateId = some template) :
    (∃ response, applyToTenant toDecimal extractLeadSources user userId tenantId templateId s = .ok (response, s')) ↔
      ensureProviderAccess user tenantId s = .ok () ∧ template.isActive = true ∧
        Applies toDecimal extractLeadSources userId tenantId templateId template s s' := by
  rw [← exists_applyTemplate_iff]
  simp only [applyToTenant, bind_eq_ok, orRaise_eq_ok, raiseIf_eq_ok, htemplate, Option.some.injEq, Bool.not_eq_false]
  constructor
  · rintro ⟨response, ⟨⟩, haccess, _, rfl, -, hactive, h⟩
    exact ⟨haccess, hactive, response, h⟩
  · rintro ⟨haccess, hactive, response, h⟩
    exact ⟨response, ⟨⟩, haccess, template, rfl, ⟨⟩, hactive, h⟩

/-- Applying a template again succeeds and leaves the rows of the tenant as they are, if
and only if each of its catalog items has a sku. -/
theorem apply_again_iff (toDecimal : String → Option ℤ) (extractLeadSources : Json → Except ApplyError (List Json))
    (user : Modules.User) (userId tenantId templateId : ℕ) (template : IndustryTemplate) (s s' : State)
    (response : ApplyTemplateResponse) (htemplate : s.templates.get? templateId = some template)
    (h : applyToTenant toDecimal extractLeadSources user userId tenantId templateId s = .ok (response, s')) :
    (∃ response' s'', applyToTenant toDecimal extractLeadSources user userId tenantId templateId s' =
        .ok (response', s'') ∧ s''.rowsOf tenantId = s'.rowsOf tenantId) ↔
      ∀ item ∈ template.defaultCatalogItems, item.HasSku := by
  obtain ⟨haccess, hactive, happlies⟩ := (exists_applyToTenant_iff htemplate).1 ⟨response, h⟩
  have htemplate' : s'.templates.get? templateId = some template := by rw [happlies.templates, htemplate]
  constructor
  · rintro ⟨response', s'', h', hrows⟩ item hitem
    obtain ⟨-, -, happlies'⟩ := (exists_applyToTenant_iff htemplate').1 ⟨response', h'⟩
    by_contra hsku
    have hlt := happlies'.catalogItems_lt hitem hsku
    rw [hrows] at hlt
    omega
  · intro hskus
    obtain ⟨response', h'⟩ := (exists_applyToTenant_iff htemplate').2
      ⟨happlies.access haccess, hactive, happlies.again hskus⟩
    exact ⟨response', s', h', rfl⟩

end Again

/-- A template with one catalog item. -/
def demoTemplate (sku : Option String) : IndustryTemplate where
  code := "kindergarten_basic"
  defaultModules := ["catalog"]
  defaultRoles := .arr []
  defaultPipelines := [⟨some "enrollment", some "Enrollment", none, none, some [⟨some "new", some "New", none, none⟩]⟩]
  defaultStatuses := .obj []
  defaultCustomFields := []
  defaultDocumentTemplates := [⟨some "parent_contract", some "Contract", none, none, none, none⟩]
  defaultCatalogItems := [⟨some "fee", some "Registration", none, sku, none, none, none⟩]
  defaultDashboards := .arr []
  defaultAiAgents := []
  labelsConfig := .obj []
  settingsSchema := .obj []
  isActive := true

def demoState (sku : Option String) : State where
  registry :=
    { definitions := Table.insert ∅ "catalog" ⟨.internal, [], true⟩
      tenantModules := ∅
      tenants := Table.insert ∅ 1 10
      plans := ∅
      subscriptions := ∅
      providers := ∅
      activeConnections := [] }
  templates := Table.insert ∅ 5 (demoTemplate sku)
  industryTemplateIds := ∅
  settings := ∅
  workflows := ⟨∅, ∅⟩
  customFields := ∅
  documents := ⟨∅, ∅⟩
  catalogItems := []
  aiAgents := ∅

def demoApply (s : State) : Except ApplyError (ApplyTemplateResponse × State) :=
  applyToTenant (fun _ => none) (fun _ => .ok []) ⟨[10]⟩ 7 1 5 s

/-- How many catalog items there are after each of two applications. -/
def demoCounts (sku : Option String) : Except ApplyError (ℕ × ℕ) := do
  let (_, s) ← demoApply (demoState sku)
  let (_, s') ← demoApply s
  return (s.catalogItems.length, s'.catalogItems.length)

theorem demoCounts_eq : demoCounts none = .ok (1, 2) ∧ demoCounts (some "registration-fee") = .ok (1, 1) := by
  decide +kernel

theorem demoApply_ok {sku : Option String} {counts : ℕ × ℕ} (h : demoCounts sku = .ok counts) :
    ∃ response s, demoApply (demoState sku) = .ok (response, s) := by
  rw [demoCounts, bind_eq_ok] at h
  obtain ⟨⟨response, s⟩, happly, -⟩ := h
  exact ⟨response, s, happly⟩

theorem registration_fee_not_created_again : ∃ response s, demoApply (demoState (some "registration-fee")) = .ok (response, s) ∧
    ∃ response' s', demoApply s = .ok (response', s') ∧ s'.rowsOf 1 = s.rowsOf 1 := by
  obtain ⟨response, s, h⟩ := demoApply_ok demoCounts_eq.2
  refine ⟨response, s, h, (apply_again_iff _ _ _ _ _ _ (demoTemplate (some "registration-fee")) _ s response rfl h).2 ?_⟩
  intro item hitem
  obtain rfl := List.mem_singleton.1 hitem
  exact ⟨"registration-fee", rfl, by decide⟩

/-- The second application of a template with an item without a sku creates the item again. -/
theorem fee_without_sku_created_again : ∃ response s, demoApply (demoState none) = .ok (response, s) ∧
    ¬ ∃ response' s', demoApply s = .ok (response', s') ∧ s'.rowsOf 1 = s.rowsOf 1 := by
  obtain ⟨response, s, h⟩ := demoApply_ok demoCounts_eq.1
  refine ⟨response, s, h, ?_⟩
  rintro ⟨response', s', h', hrows⟩
  have hdemo : (demoState none).templates.get? 5 = some (demoTemplate none) := rfl
  obtain ⟨-, -, happlies⟩ := (exists_applyToTenant_iff hdemo).1 ⟨response, h⟩
  have htemplate : s.templates.get? 5 = some (demoTemplate none) := by rw [happlies.templates]; rfl
  obtain ⟨-, -, happlies'⟩ := (exists_applyToTenant_iff htemplate).1 ⟨response', h'⟩
  have hlt := happlies'.catalogItems_lt List.mem_cons_self fun ⟨_, hsku, _⟩ => by cases hsku
  rw [hrows] at hlt
  omega

end CoreOps.IndustryTemplates
