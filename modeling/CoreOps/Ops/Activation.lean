import Mathlib.Data.List.Sort
import CoreOps.Lib.JsonObject
import CoreOps.Overlay.Requirements

/-! The one-shot activation of lead automation for a tenant: it backs the tenant's
industry configuration up, brings the process overlay of the sales pipeline to the
template's policy and activates it, and merges the automation's block into the
configuration. The rollback reads the backup. -/

namespace CoreOps.Ops

open Checked Text Overlay

def scriptName : String := "activate_flexity_sales_lead_automation"

def flexitySalesPipeline : String := "flexity_sales"

def flexitySalesTemplate : String := "flexity_sales_intake"

def defaultPublishReason : String := "Ops activation — flexity-sales lead automation"

def requiredModules : List String := ["crm", "parties"]

def backupSchemaVersion : ℤ := 1

def defaultSlaMinutes : ℤ := 240

def maxSlaMinutes : ℤ := 10080

def defaultTaskTemplateCode : String := "consulting_first_contact"

def defaultCreateActivity : Bool := true

inductive OpsError
  | opsActivation (message : String)
  | notFound (message : String)
  | leadAutomationConfig (message : String)
  | overlay (error : OverlayError)
  | module (error : Modules.ModuleError)
  /-- An exception the script does not expect. -/
  | unexpected
  deriving DecidableEq, Repr

inductive TenantStatus
  | active
  | trial
  | suspended
  | archived
  deriving DecidableEq, Repr

def TenantStatus.value : TenantStatus → String
  | .active => "active"
  | .trial => "trial"
  | .suspended => "suspended"
  | .archived => "archived"

structure Tenant where
  providerCompanyId : ℕ
  slug : String
  status : TenantStatus
  deriving DecidableEq, Repr

/-- A user, with the provider companies of the staff rows. -/
structure User where
  isActive : Bool
  providerStaff : List ℕ
  deriving DecidableEq, Repr

structure UserTenantMembership where
  tenantId : ℕ
  userId : ℕ
  isActive : Bool
  deriving DecidableEq, Repr

/-- The rows the script reads and writes, and the files of its backups, by directory and
name. A tenant's settings are its industry configuration. -/
structure State where
  overlay : Overlay.State
  columns : Table ℕ ProcessTemplate
  tenants : Table ℕ Tenant
  users : Table ℕ User
  memberships : List UserTenantMembership
  settings : Table ℕ JsonObject
  files : Table (String × String) (List Char)

/-- What the script asks of what is around it: the hash function, whether the schema is
migrated, the directory a backup path resolves to, the time, and a new UUID. -/
structure Environment where
  sha256 : List Char → String
  migration0024 : Except OpsError Unit
  resolveAndValidateBackupDir : String → Except OpsError String
  now : String
  uuid4 : ℕ

/-- An id given as a text: `none` when the text is no UUID. -/
abbrev IdText := Option ℕ

inductive BackupPath
  | directory (path : String)
  | file (directory name : String)
  deriving DecidableEq, Repr

/-- The arguments of the command line; a text that is not given is empty. -/
structure Args where
  tenantSlug : String
  tenantId : Option IdText
  pipelineCode : String
  assigneeUserId : IdText
  operatorUserId : IdText
  expectedConfigHash : String
  processTemplateCode : String
  publishReason : String
  slaMinutes : ℤ
  taskTemplateCode : String
  noCreateActivity : Bool
  backupDir : String
  rollbackFrom : BackupPath
  skipOverlay : Bool

structure ActivationPlan where
  tenantId : ℕ
  tenantSlug : String
  pipelineId : ℕ
  pipelineCode : String
  operatorUserId : ℕ
  assigneeUserId : Option ℕ
  configHash : String
  expectedConfigHash : String
  configMergeNeeded : Bool
  configurationId : Option ℕ
  activationState : Option ProcessOverlayActivationState
  activeVersionId : Option ℕ
  backupPath : BackupPath
  warnings : List String

/-! The industry configuration. -/

def compact : Json.Format := ⟨none, 0⟩

def pretty : Json.Format := ⟨some 2, 1⟩

def canonicalJsonHash (env : Environment) (document : JsonObject) : String := env.sha256 (document.text compact)

/-- The block of the configuration that the automation reads. -/
structure LeadAutomationBlock where
  enabled : Bool
  defaultAssigneeUserId : ℕ
  firstContactSlaMinutes : ℤ
  taskTemplateCode : String
  createActivity : Bool

/-- `str` of a UUID. -/
def uuidText (id : ℕ) : String := toString id

def LeadAutomationBlock.toJson (b : LeadAutomationBlock) : JsonObject :=
  .ofList [
    ("enabled", .bool b.enabled),
    ("default_assignee_user_id", .str (uuidText b.defaultAssigneeUserId)),
    ("first_contact_sla_minutes", .int b.firstContactSlaMinutes),
    ("task_template_code", .str b.taskTemplateCode),
    ("create_activity", .bool b.createActivity)] (by simp)

def mergeLeadAutomationConfig (current : JsonObject) (block : LeadAutomationBlock) : JsonObject :=
  let consulting := (current.object? "consulting").getD ∅
  let consulting := consulting.set "lead_automation" (.obj block.toJson.members) block.toJson.canonical
  current.set "consulting" (.obj consulting.members) consulting.canonical

/-- `==` with a value of the desired block, which is neither a container nor a float. -/
def sameScalar : Json → Json → Bool
  | .str a, .str b => a = b
  | a, b => a.number?.isSome ∧ a.number? = b.number?

def sameBlock (existing desired : JsonObject) : Bool :=
  existing.members.map Prod.fst = desired.members.map Prod.fst ∧
    (existing.members.zip desired.members).all fun m => sameScalar m.1.2 m.2.2

/-- `d.get(key) or {}`. -/
def getOrEmpty (d : JsonObject) (key : String) : Json := ((d.get? key).filter Json.truthy).getD (.obj [])

/-- Only a dictionary has `get`, so a configuration under `consulting` that is not one
fails; a block that is not one is another block. -/
def leadAutomationBlockMatches (current : JsonObject) (desired : LeadAutomationBlock) : Except OpsError Bool :=
  match getOrEmpty current "consulting" with
  | .obj _ =>
    let consulting := (current.object? "consulting").getD ∅
    match getOrEmpty consulting "lead_automation" with
    | .obj _ => return sameBlock ((consulting.object? "lead_automation").getD ∅) desired.toJson
    | _ => return false
  | _ => .error .unexpected

/-- `load_lead_automation_config`, on a block that was just merged: its members have the
types that are asked for. -/
def loadLeadAutomationConfig (block : LeadAutomationBlock) : Except OpsError Unit := do
  raiseIf (block.enabled ∧ (block.firstContactSlaMinutes < 1 ∨ maxSlaMinutes < block.firstContactSlaMinutes))
    (.leadAutomationConfig
      "lead_automation.first_contact_sla_minutes must be an integer between 1 and 10080 inclusive")
  raiseIf (block.enabled ∧ strip block.taskTemplateCode = "")
    (.leadAutomationConfig "lead_automation.task_template_code must be a non-empty string")
  raiseIf (block.enabled ∧ 64 < (strip block.taskTemplateCode).length)
    (.leadAutomationConfig "lead_automation.task_template_code must be at most 64 characters")

def clampSla (value : ℤ) : ℤ := max 1 (min maxSlaMinutes value)

/-! Who may run the script, and on which tenant. -/

section Context

variable (s : State)

def parseUuid (value : IdText) (field : String) : Except OpsError ℕ :=
  orRaise value (.opsActivation s!"{field} must be a valid UUID")

def resolveTenant (tenantSlug : String) (tenantId : Option ℕ) : Except OpsError (ℕ × Tenant) := do
  raiseIf (tenantSlug ≠ "" ∧ tenantId ≠ none)
    (.opsActivation "Provide exactly one of --tenant-slug or --tenant-id")
  raiseIf (tenantSlug = "" ∧ tenantId = none)
    (.opsActivation "One of --tenant-slug or --tenant-id is required")
  let row := match tenantId with
    | some id => (s.tenants.get? id).map fun t => (id, t)
    | none => s.tenants.rows.find? fun r => r.2.slug = tenantSlug
  let (id, tenant) ← orRaise row (.notFound "Tenant not found")
  let status := tenant.status.value
  raiseIf (tenant.status ≠ .active) (.opsActivation s!"Tenant status must be ACTIVE, got {status}")
  return (id, tenant)

/-- The tenant that the arguments name. -/
def tenantOf (args : Args) : Except OpsError (ℕ × Tenant) := do
  let tenantId ← match args.tenantId with
    | none => pure none
    | some text => (parseUuid text "tenant-id").map some
  resolveTenant s args.tenantSlug tenantId

def assertOperatorAccess (tenantId : ℕ) (tenant : Tenant) (operatorUserId : ℕ) : Except OpsError Unit := do
  let user ← orRaise ((s.users.get? operatorUserId).filter User.isActive)
    (.opsActivation "operator-user-id must reference an active user")
  let member := s.memberships.any fun m => m.tenantId = tenantId ∧ m.userId = operatorUserId ∧ m.isActive
  let staff := user.providerStaff.head?
  raiseIf (¬ member ∧ staff = none)
    (.opsActivation "operator-user-id must have active tenant membership or provider staff role")
  raiseIf (¬ member ∧ staff ≠ some tenant.providerCompanyId)
    (.opsActivation "provider staff operator must belong to tenant provider company")

def assertAssigneeActiveSameTenant (tenantId userId : ℕ) : Except OpsError Unit := do
  let membership := s.memberships.find? fun m => m.tenantId = tenantId ∧ m.userId = userId
  raiseIf (¬ membership.any (·.isActive))
    (.leadAutomationConfig "lead_automation.default_assignee_user_id must be an active member of the tenant")
  raiseIf (¬ (s.users.get? userId).any (·.isActive))
    (.leadAutomationConfig "lead_automation.default_assignee_user_id must be an active user")

def assertModulesEnabled (tenantId : ℕ) : Except OpsError Unit :=
  requiredModules.forM fun moduleCode =>
    (Modules.assertEnabled s.overlay.modules tenantId moduleCode).mapError .module

def getPipelineByCode (tenantId : ℕ) (code : String) : Option (ℕ × Pipeline) :=
  s.overlay.pipelines.rows.find? fun r => r.2.tenantId = tenantId ∧ r.2.code = code

/-- The configuration of the tenant's settings, empty as long as there are none. -/
def industryConfig (tenantId : ℕ) : JsonObject := (s.settings.get? tenantId).getD ∅

/-- `load_tenant_settings`, which creates the settings that are missing. -/
def loadTenantSettings (tenantId : ℕ) : State :=
  if s.settings.get? tenantId = none then { s with settings := s.settings.insert tenantId ∅ } else s

structure ResolvedContext where
  tenantId : ℕ
  tenant : Tenant
  pipelineId : ℕ
  operatorUserId : ℕ
  assigneeUserId : ℕ
  industryConfig : JsonObject
  configHash : String

/-- `resolve_context`, as the apply calls it. -/
def resolveContext (env : Environment) (args : Args) : Except OpsError (ResolvedContext × State) := do
  let (tenantId, tenant) ← tenantOf s args
  let operatorUserId ← parseUuid args.operatorUserId "operator-user-id"
  assertOperatorAccess s tenantId tenant operatorUserId
  env.migration0024
  raiseIf (strip args.pipelineCode ≠ flexitySalesPipeline)
    (.opsActivation "--pipeline-code must be 'flexity_sales' for this command")
  let (pipelineId, _) ← orRaise (getPipelineByCode s tenantId flexitySalesPipeline)
    (.notFound "Pipeline 'flexity_sales' not found for tenant")
  let assigneeUserId ← parseUuid args.assigneeUserId "assignee-user-id"
  assertAssigneeActiveSameTenant s tenantId assigneeUserId
  assertModulesEnabled s tenantId
  let industry := industryConfig s tenantId
  let configHash := canonicalJsonHash env industry
  let expected := strip args.expectedConfigHash
  raiseIf (expected ≠ "" ∧ configHash ≠ expected)
    (.opsActivation s!"expected-config-hash mismatch; re-run dry-run and refresh hash (current={configHash})")
  return (⟨tenantId, tenant, pipelineId, operatorUserId, assigneeUserId, industry, configHash⟩,
    loadTenantSettings s tenantId)

end Context

/-! The backup. -/

section Backup

def industryConfigFile : String := "industry_config_json.json"

def manifestFile : String := "manifest.json"

def secureWriteNewFile (directory name : String) (content : List Char) (s : State) : Except OpsError State := do
  raiseIf ((s.files.get? (directory, name)).isSome)
    (.opsActivation s!"Backup file already exists: {directory}/{name}")
  return { s with files := s.files.insert (directory, name) content }

def backupManifest (env : Environment) (tenantId operatorUserId : ℕ) (configHashBefore : String) : JsonObject :=
  .ofList [
    ("script", .str scriptName),
    ("script_id", .str scriptName),
    ("schema_version", .int backupSchemaVersion),
    ("tenant_id", .str (uuidText tenantId)),
    ("operator_user_id", .str (uuidText operatorUserId)),
    ("config_hash_before", .str configHashBefore),
    ("config_hash_after", .null),
    ("config_hash", .str configHashBefore),
    ("timestamp", .str env.now),
    ("industry_config_file", .str industryConfigFile)] (by simp)

def writeBackup (env : Environment) (backupDir : String) (ctx : ResolvedContext) (s : State) :
    Except OpsError State := do
  let s ← secureWriteNewFile backupDir industryConfigFile (ctx.industryConfig.text pretty) s
  let manifest := backupManifest env ctx.tenantId ctx.operatorUserId ctx.configHash
  secureWriteNewFile backupDir manifestFile (manifest.text pretty) s

def finalizeBackupManifest (backupDir configHashAfter : String) (s : State) : Except OpsError State := do
  let content ← orRaise (s.files.get? (backupDir, manifestFile))
    (.opsActivation s!"Backup manifest missing for finalize: {backupDir}/manifest.json")
  let manifest ← orRaise (JsonObject.ofText? content) .unexpected
  let manifest := manifest.set "config_hash_after" (.str configHashAfter) (.str _)
  return { s with files := s.files.modify (backupDir, manifestFile) fun _ => manifest.text pretty }

def BackupPath.resolvedDir : BackupPath → String
  | .directory dir => dir
  | .file dir _ => dir

def BackupPath.configFile : BackupPath → String
  | .directory _ => industryConfigFile
  | .file _ name => name

def validateBackupManifest (env : Environment) (manifest : JsonObject) (tenantId : ℕ) (industryConfig : JsonObject) :
    Except OpsError Unit := do
  let scriptId := Json.orElse (manifest.get? "script_id") (manifest.get? "script")
  raiseIf (¬ scriptId.any fun j => sameScalar j (.str scriptName))
    (.opsActivation "Backup manifest script_id mismatch: expected 'activate_flexity_sales_lead_automation'")
  raiseIf (¬ (manifest.get? "schema_version").any fun j => sameScalar j (.int backupSchemaVersion))
    (.opsActivation "Backup manifest schema_version mismatch: expected 1")
  -- the text of a value that is no string is not the text of a UUID
  raiseIf ((manifest.get? "tenant_id").any fun j => j.truthy ∧ ¬ sameScalar j (.str (uuidText tenantId)))
    (.opsActivation "Backup tenant_id does not match target tenant")
  let configHashBefore := Json.orElse (manifest.get? "config_hash_before") (manifest.get? "config_hash")
  let loadedHash := canonicalJsonHash env industryConfig
  raiseIf (configHashBefore.any fun j => j.truthy ∧ ¬ sameScalar j (.str loadedHash))
    (.opsActivation "Backup industry_config_json integrity check failed (config_hash_before mismatch)")

/-- A file that is not there holds an empty configuration. -/
def loadBackupManifest (env : Environment) (backupPath : BackupPath) (tenantId : ℕ) (s : State) :
    Except OpsError (JsonObject × JsonObject) := do
  let directory := backupPath.resolvedDir
  let content ← orRaise (s.files.get? (directory, manifestFile))
    (.opsActivation s!"Backup manifest not found: {directory}/manifest.json")
  let manifest ← orRaise (JsonObject.ofText? content) .unexpected
  let industryConfig ← match s.files.get? (directory, backupPath.configFile) with
    | none => pure ∅
    | some content => orRaise (JsonObject.ofText? content) .unexpected
  validateBackupManifest env manifest tenantId industryConfig
  return (manifest, industryConfig)

def assertRollbackConfigHashGate (currentHash expectedHash : String) (manifest : JsonObject) : Except OpsError Unit :=
  let manifestAfter := (manifest.get? "config_hash_after").filter Json.truthy
  if expectedHash ≠ "" then
    raiseIf (currentHash ≠ expectedHash)
      (.opsActivation "expected-config-hash mismatch for rollback; refusing to overwrite tenant config")
  else match manifestAfter with
    | some after => raiseIf (¬ sameScalar after (.str currentHash))
        (.opsActivation ("Current tenant config hash does not match backup manifest config_hash_after; " ++
          "pass --expected-config-hash only after verifying the post-apply state"))
    | none => .error
        (.opsActivation "Rollback requires --expected-config-hash or a manifest with config_hash_after")

end Backup

/-! The process overlay. -/

section Overlay

/-- A transition of a policy that asks for the sales role. -/
def salesTransition (fromStageCode toStageCode : String) : PolicyTransition where
  fromStageCode := fromStageCode
  toStageCode := toStageCode
  conditions := ⟨[], ["sales"], false, [], []⟩

/-- The entry of `PROCESS_TEMPLATE_DEFINITIONS`. -/
def flexitySalesIntake : ProcessTemplate where
  defaultPipelineCode := flexitySalesPipeline
  defaultPolicyBlueprint := {
    schemaVersion := 1
    processTemplateCode := flexitySalesTemplate
    pipelineCode := flexitySalesPipeline
    stageCodes := ["new_lead", "contacted", "diagnosis", "proposal_prepared", "proposal_sent", "negotiation",
      "accepted", "rejected"]
    transitions := [
      salesTransition "new_lead" "contacted",
      salesTransition "new_lead" "rejected",
      salesTransition "contacted" "diagnosis",
      salesTransition "contacted" "rejected",
      salesTransition "diagnosis" "proposal_prepared",
      salesTransition "diagnosis" "rejected",
      salesTransition "proposal_prepared" "proposal_sent",
      salesTransition "proposal_prepared" "rejected",
      salesTransition "proposal_sent" "negotiation",
      salesTransition "proposal_sent" "accepted",
      salesTransition "proposal_sent" "rejected",
      salesTransition "negotiation" "accepted",
      salesTransition "negotiation" "rejected"]
    moduleRequirements := ["crm"]
    terminalStageCodes := ["accepted", "rejected"] }
  isActive := true

/-- The ids of the rows an apply may create. -/
structure NewIds where
  templateId : ℕ
  configurationId : ℕ
  versionId : ℕ

def upsertTemplate (templateId : ℕ) (code : String) (columns : ProcessTemplate) (s : State) :
    Except OpsError State :=
  match getTemplateByCode s.columns s.overlay code with
  | some (id, _) => return { s with columns := s.columns.modify id fun _ => columns }
  | none => do
    raiseIf ((s.overlay.templates.get? templateId).isSome ∨ (s.columns.get? templateId).isSome)
      (.overlay .integrityError)
    return { s with
      overlay := { s.overlay with templates := s.overlay.templates.insert templateId code }
      columns := s.columns.insert templateId columns }

def seedTemplates (templateId : ℕ) (s : State) : Except OpsError State :=
  upsertTemplate templateId flexitySalesTemplate flexitySalesIntake s

def conditionsDocument (c : TransitionConditions) : Json :=
  .obj (Json.ofPairs [
    ("required_fields", .arr (c.requiredFields.map .str)),
    ("required_roles", .arr (c.requiredRoles.map .str)),
    ("requires_approval", .bool c.requiresApproval),
    ("required_task_codes", .arr (c.requiredTaskCodes.map .str)),
    ("required_document_types", .arr (c.requiredDocumentTypes.map .str))])

def transitionDocument (t : PolicyTransition) : Json :=
  .obj (Json.ofPairs [
    ("from_stage_code", .str t.fromStageCode),
    ("to_stage_code", .str t.toStageCode),
    ("conditions", conditionsDocument t.conditions)])

/-- The order of the transitions does not count. -/
def EdgeLe (t u : PolicyTransition) : Prop :=
  t.fromStageCode < u.fromStageCode ∨ (t.fromStageCode = u.fromStageCode ∧ t.toStageCode ≤ u.toStageCode)

instance : DecidableRel EdgeLe := fun t u =>
  inferInstanceAs (Decidable (t.fromStageCode < u.fromStageCode ∨
    (t.fromStageCode = u.fromStageCode ∧ t.toStageCode ≤ u.toStageCode)))

def policyDocument (p : PolicySnapshot) : Json :=
  .obj (Json.ofPairs [
    ("schema_version", .int p.schemaVersion),
    ("process_template_code", .str p.processTemplateCode),
    ("pipeline_code", .str p.pipelineCode),
    ("stage_codes", .arr (p.stageCodes.map .str)),
    ("transitions", .arr ((p.transitions.insertionSort EdgeLe).map transitionDocument)),
    ("module_requirements", .arr (p.moduleRequirements.map .str)),
    ("terminal_stage_codes", .arr (p.terminalStageCodes.map .str))])

variable (env : Environment)

def policyFingerprint (policy : PolicySnapshot) : String := env.sha256 (Json.dumps compact (policyDocument policy))

/-- The stored snapshot of a version is parsed before it is compared. -/
def hasFingerprint (version : ProcessDefinitionVersion) (fingerprint : String) : Except OverlayError Bool := do
  let policy ← parsePolicySnapshot version.policySnapshot
  return policyFingerprint env policy = fingerprint

/-- Whether the configuration is pinned to a version of the policy. -/
def activeVersionMatches (o : Overlay.State) (tenantId configurationId : ℕ) (config : TenantProcessConfiguration)
    (fingerprint : String) : Except OverlayError Bool :=
  match config.activeDefinitionVersionId.bind (getDefinitionVersionForConfiguration o tenantId configurationId) with
  | none => return false
  | some active => hasFingerprint env active fingerprint

def getLatestDefinitionVersion (o : Overlay.State) (tenantId configurationId : ℕ) :
    Option (ℕ × ProcessDefinitionVersion) :=
  (o.versions.rows.filter fun r => r.2.tenantId = tenantId ∧ r.2.configurationId = configurationId).maxOn?
    (·.2.versionNumber)

/-- `find_matching_published_version`: the active version, else the latest one. -/
def findMatchingPublishedVersion (o : Overlay.State) (tenantId configurationId : ℕ) (fingerprint : String) :
    Except OverlayError (Option ℕ) :=
  match getConfiguration o tenantId configurationId with
  | none => return none
  | some config => do
    if ← activeVersionMatches env o tenantId configurationId config fingerprint then
      return config.activeDefinitionVersionId
    else match getLatestDefinitionVersion o tenantId configurationId with
      | none => return none
      | some (versionId, latest) =>
        return if ← hasFingerprint env latest fingerprint then some versionId else none

def parsePolicySnapshotV1 (p : PolicySnapshot) : Except OverlayError PolicySnapshotV1 :=
  match h : parsePolicySnapshot p with
  | .ok snapshot => .ok ⟨snapshot, p, h⟩
  | .error e => .error e

/-- The configuration of the pipeline, else that of the template, else a new one. -/
def configurationFor (configurationId tenantId pipelineId : ℕ) (processTemplateCode : String) (s : State) :
    Except OpsError (ℕ × Overlay.State) :=
  match getConfigurationByPipeline s.overlay tenantId pipelineId with
  | some (id, _) => return (id, s.overlay)
  | none => do
    let (templateId, _) ← orRaise (getTemplateByCode s.columns s.overlay processTemplateCode) .unexpected
    match (listConfigurations s.overlay tenantId).find? fun r => r.2.processTemplateId = templateId with
    | some (id, _) => return (id, s.overlay)
    | none =>
      -- after a conflict there is still no configuration of the pipeline, and it is raised
      let o ← (createConfiguration s.columns tenantId configurationId processTemplateCode pipelineId
        s.overlay).mapError .overlay
      return (configurationId, o)

/-- The version of the policy: one that is published, or a new one. -/
def versionFor (versionId tenantId configurationId : ℕ) (policy : PolicySnapshotV1) (publishReason : String)
    (o : Overlay.State) : Except OverlayError (ℕ × Overlay.State) := do
  let fingerprint := policyFingerprint env policy.snapshot
  match ← findMatchingPublishedVersion env o tenantId configurationId fingerprint with
  | some id => return (id, o)
  | none =>
    let o ← publishDefinitionVersion tenantId configurationId versionId ⟨policy, publishReason⟩ o
    return (versionId, o)

def pinVersion (tenantId configurationId versionId : ℕ) (o : Overlay.State) : Except OverlayError Overlay.State := do
  let config ← configurationOrRaise tenantId configurationId o
  if config.activeDefinitionVersionId ≠ some versionId then
    setActiveDefinitionVersion tenantId configurationId versionId o
  else return o

/-- The policy the configuration is brought to. -/
def desiredPolicy (processTemplateCode : String) (s : State) : Except OpsError PolicySnapshotV1 := do
  let (_, template) ← orRaise
    ((getTemplateByCode s.columns s.overlay processTemplateCode).filter fun t => t.2.isActive)
    (.notFound s!"Process template '{processTemplateCode}' not found")
  (parsePolicySnapshotV1 template.defaultPolicyBlueprint).mapError .overlay

def executeOverlay (ids : NewIds) (tenantId pipelineId : ℕ) (processTemplateCode publishReason : String) (s : State) :
    Except OpsError (ℕ × State) := do
  let s ← seedTemplates ids.templateId s
  let (configurationId, o) ← configurationFor ids.configurationId tenantId pipelineId processTemplateCode s
  let policy ← desiredPolicy processTemplateCode { s with overlay := o }
  let (versionId, o) ← (versionFor env ids.versionId tenantId configurationId policy publishReason o).mapError
    .overlay
  let o ← (pinVersion tenantId configurationId versionId o).mapError .overlay
  let o ← (activateConfiguration tenantId configurationId o).mapError .overlay
  return (configurationId, { s with overlay := o })

end Overlay

/-! The two runs. -/

section Run

variable (env : Environment)

def State.setIndustryConfig (s : State) (tenantId : ℕ) (document : JsonObject) : State :=
  { s with settings := s.settings.modify tenantId fun _ => document }

def desiredBlock (args : Args) (ctx : ResolvedContext) : LeadAutomationBlock where
  enabled := true
  defaultAssigneeUserId := ctx.assigneeUserId
  firstContactSlaMinutes := clampSla args.slaMinutes
  taskTemplateCode := strip args.taskTemplateCode
  createActivity := !args.noCreateActivity

/-- The overlay's part of an apply, which `--skip-overlay` leaves out. -/
def applyOverlay (ids : NewIds) (args : Args) (ctx : ResolvedContext) (s : State) :
    Except OpsError (Option ℕ × State) :=
  if args.skipOverlay then return (none, s)
  else do
    let publishReason := orElse (some (strip args.publishReason)) defaultPublishReason
    let (configurationId, s) ← executeOverlay env ids ctx.tenantId ctx.pipelineId args.processTemplateCode
      publishReason s
    return (some configurationId, s)

/-- The configuration's part of an apply. -/
def applyConfig (tenantId : ℕ) (merged : JsonObject) (block : LeadAutomationBlock) (configChanged : Bool)
    (s : State) : Except OpsError State :=
  if configChanged then do
    loadLeadAutomationConfig block
    return s.setIndustryConfig tenantId merged
  else return s

/-- The state and the active version of a configuration, as a plan shows them. -/
def shownConfiguration (o : Overlay.State) (tenantId : ℕ) (configurationId : Option ℕ) :
    Option TenantProcessConfiguration := configurationId.bind (getConfiguration o tenantId)

def runApply (ids : NewIds) (args : Args) (s : State) : Except OpsError (ActivationPlan × State) := do
  raiseIf (strip args.expectedConfigHash = "")
    (.opsActivation "--expected-config-hash is required for dry-run and apply")
  raiseIf (args.backupDir = "") (.opsActivation "--backup-dir is required for --apply")
  let (ctx, s) ← resolveContext s env args
  let backupDir ← env.resolveAndValidateBackupDir args.backupDir
  let s ← writeBackup env backupDir ctx s
  let block := desiredBlock args ctx
  let merged := mergeLeadAutomationConfig ctx.industryConfig block
  let matched ← leadAutomationBlockMatches ctx.industryConfig block
  let (configurationId, s) ← applyOverlay env ids args ctx s
  let s ← applyConfig ctx.tenantId merged block (!matched) s
  let s ← finalizeBackupManifest backupDir (canonicalJsonHash env merged) s
  let config := shownConfiguration s.overlay ctx.tenantId configurationId
  return ({
    tenantId := ctx.tenantId
    tenantSlug := ctx.tenant.slug
    pipelineId := ctx.pipelineId
    pipelineCode := flexitySalesPipeline
    operatorUserId := ctx.operatorUserId
    assigneeUserId := some ctx.assigneeUserId
    configHash := canonicalJsonHash env merged
    expectedConfigHash := strip args.expectedConfigHash
    configMergeNeeded := !matched
    configurationId := configurationId
    activationState := config.map (·.activationState)
    activeVersionId := config.bind (·.activeDefinitionVersionId)
    backupPath := .directory backupDir
    warnings := [] }, s)

/-- What a backup without a configuration leaves: the automation is turned off. -/
def disabledConfig (current : JsonObject) : JsonObject :=
  mergeLeadAutomationConfig current
    ⟨false, env.uuid4, defaultSlaMinutes, defaultTaskTemplateCode, defaultCreateActivity⟩

def restoredConfig (current backup : JsonObject) : JsonObject :=
  if backup.members.isEmpty then disabledConfig env current else backup

/-- The configuration of the pipeline is deactivated, if there is one. -/
def rollbackOverlay (tenantId : ℕ) (pipelineId : Option ℕ) (o : Overlay.State) :
    Except OpsError (Option ℕ × Overlay.State) :=
  match pipelineId.bind (getConfigurationByPipeline o tenantId) with
  | none => return (none, o)
  | some (configurationId, _) => do
    let o ← (deactivateConfiguration tenantId configurationId o).mapError .overlay
    return (some configurationId, o)

def runRollback (args : Args) (s : State) : Except OpsError (ActivationPlan × State) := do
  let (tenantId, tenant) ← tenantOf s args
  let operatorUserId ← parseUuid args.operatorUserId "operator-user-id"
  assertOperatorAccess s tenantId tenant operatorUserId
  let (manifest, industryConfig) ← loadBackupManifest env args.rollbackFrom tenantId s
  let s := loadTenantSettings s tenantId
  let current := Ops.industryConfig s tenantId
  assertRollbackConfigHashGate (canonicalJsonHash env current) (strip args.expectedConfigHash) manifest
  let restored := restoredConfig env current industryConfig
  let s := s.setIndustryConfig tenantId restored
  let pipelineId := (getPipelineByCode s tenantId flexitySalesPipeline).map Prod.fst
  let (configurationId, o) ← rollbackOverlay tenantId pipelineId s.overlay
  return ({
    tenantId := tenantId
    tenantSlug := tenant.slug
    pipelineId := pipelineId.getD 0
    pipelineCode := flexitySalesPipeline
    operatorUserId := operatorUserId
    assigneeUserId := none
    configHash := canonicalJsonHash env restored
    expectedConfigHash := ""
    configMergeNeeded := true
    configurationId := configurationId
    activationState := (shownConfiguration o tenantId configurationId).map (·.activationState)
    activeVersionId := none
    backupPath := args.rollbackFrom
    warnings := if industryConfig.members.isEmpty then ["Backup config missing; disabling lead_automation only"] else []
  }, { s with overlay := o })

end Run

end CoreOps.Ops
