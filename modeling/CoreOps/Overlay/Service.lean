import CoreOps.Overlay.Guard

/-! Process runs, the versions and configurations they are started from, and the
creation of work items, which starts a run by itself when the pipeline has an active
configuration. A method returns the state its transaction commits, or the exception
it raises; the ids of new rows are arguments. -/

namespace CoreOps.Overlay

open Checked Text

section Runs

variable (tenantId : ℕ)

/-- What the optional task automation answers after a run has started. -/
abbrev LeadAutomation := Except OverlayError Unit

def activeRunConflict : OverlayError := .runConflict "An active process run already exists for this work item"

/-- The configuration and the version a run is started from. -/
def startConfiguration (s : State) (configurationId : ℕ) :
    Except OverlayError (TenantProcessConfiguration × ℕ) := do
  let config ← orRaise (getConfiguration s tenantId configurationId)
    (.notFound "Tenant process configuration not found")
  raiseIf (config.activationState ≠ .active) (.activation "Overlay configuration is inactive")
  let versionId ← orRaise config.activeDefinitionVersionId
    (.validation "Cannot start process run without active definition version" ["active_definition_version_id"])
  raiseIf (getDefinitionVersionForConfiguration s tenantId configurationId versionId = none)
    (.validation "Active definition version does not belong to this configuration"
      ["active_definition_version_id"])
  return (config, versionId)

/-- The work item of the run, in the pipeline of the configuration. -/
def startWorkItem (s : State) (config : TenantProcessConfiguration) (workItemId : ℕ) :
    Except OverlayError WorkItem := do
  let workItem ← orRaise (getWorkItem s tenantId workItemId) (.notFound "Work item not found")
  raiseIf (workItem.pipelineId ≠ config.pipelineId)
    (.validation "Work item pipeline does not match process configuration pipeline" ["pipeline_id"])
  return workItem

/-- `create_run`: the row of a new run. -/
def newRun (runId configurationId versionId workItemId : ℕ) (currentStageCode : Option String) : ProcessRun where
  id := runId
  tenantId := tenantId
  configurationId := configurationId
  definitionVersionId := versionId
  workItemId := workItemId
  runState := .active
  completionReason := none
  currentStageCode := currentStageCode

/-- The insert of a run: its primary key, and `uq_process_run_one_active_per_work_item`. -/
def insertRun (run : ProcessRun) (s : State) : Except OverlayError State := do
  raiseIf (∃ r ∈ s.runs, r.id = run.id ∨ (r.workItemId = run.workItemId ∧ r.runState = .active)) activeRunConflict
  return { s with runs := s.runs ++ [run] }

def startRun (runId workItemId configurationId : ℕ) (automation : LeadAutomation) (s : State) :
    Except OverlayError State := do
  let (config, versionId) ← startConfiguration tenantId s configurationId
  let workItem ← startWorkItem tenantId s config workItemId
  raiseIf ((getActiveRunForWorkItem s tenantId workItemId).isSome) activeRunConflict
  let currentStageCode := oldStageCode s tenantId workItem
  let s ← insertRun (newRun tenantId runId configurationId versionId workItemId currentStageCode) s
  automation
  return s

def getActiveRunOrRaise (processRunId : ℕ) (s : State) : Except OverlayError ProcessRun := do
  let run ← orRaise (getRun s tenantId processRunId) (.notFound "Process run not found")
  let current := run.runState.value
  raiseIf (run.runState ≠ .active)
    (.runState s!"Process run must be active to change lifecycle (current={current})")
  return run

def ProcessRun.finish (runState : ProcessRunState) (completionReason : Option String) (r : ProcessRun) : ProcessRun :=
  { r with runState := runState, completionReason := completionReason }

def completeRun (processRunId : ℕ) (reason : Option String) (s : State) : Except OverlayError State := do
  let run ← getActiveRunOrRaise tenantId processRunId s
  let completionReason := (reason.map strip).filter (· ≠ "")
  return s.modifyRun run (ProcessRun.finish .completed completionReason)

def cancelRun (processRunId : ℕ) (reason : String) (s : State) : Except OverlayError State := do
  let completionReason := strip reason
  raiseIf (completionReason = "") (.validation "cancel_run requires a non-empty reason" ["reason"])
  let run ← getActiveRunOrRaise tenantId processRunId s
  return s.modifyRun run (ProcessRun.finish .cancelled (some completionReason))

end Runs

section Configuration

variable (tenantId configurationId : ℕ)

def maxPublishReasonLength : ℕ := 2000

/-- The policy of a request, which its schema has parsed. -/
structure PolicySnapshotV1 where
  snapshot : PolicySnapshot
  parsed : ∃ p, parsePolicySnapshot p = .ok snapshot

structure PublishDefinitionVersionRequest where
  policy : PolicySnapshotV1
  publishReason : String

def configurationOrRaise (s : State) : Except OverlayError TenantProcessConfiguration :=
  orRaise (getConfiguration s tenantId configurationId) (.notFound "Tenant process configuration not found")

def validatePolicyAgainstPipeline (policy : PolicySnapshot) (pipelineCode : String) (stageCodes : List String)
    (templateCode : String) : Except OverlayError Unit := do
  let ofPolicy := policy.pipelineCode
  let unknown := ((policy.stageCodes.filter (· ∉ stageCodes)).dedup).mergeSort (· ≤ ·)
  let unknownCodes := ", ".intercalate unknown
  let errors :=
    (if ofPolicy ≠ pipelineCode then
      [s!"policy.pipeline_code '{ofPolicy}' does not match pipeline '{pipelineCode}'"] else []) ++
    (if policy.processTemplateCode ≠ templateCode then
      ["policy.process_template_code does not match bound process template"] else []) ++
    (if unknown ≠ [] then [s!"unknown stage codes for pipeline: {unknownCodes}"] else [])
  raiseIf (errors ≠ []) (.validation "Policy pipeline validation failed" errors)

def validateModuleRequirements (s : State) (moduleRequirements : List String) : Except OverlayError Unit :=
  moduleRequirements.forM fun moduleCode =>
    raiseIf (s.modules.definitions.get? moduleCode = none)
      (.validation s!"Unknown module requirement '{moduleCode}'" [moduleCode])

def maxVersionNumber (s : State) : ℕ :=
  ((s.versions.rows.filter fun r => r.2.configurationId = configurationId).map (·.2.versionNumber)).foldl max 0

def publishDefinitionVersion (versionId : ℕ) (request : PublishDefinitionVersionRequest) (s : State) :
    Except OverlayError State := do
  let reason := strip request.publishReason
  raiseIf (reason = "") (.validation "publish_reason must be non-empty" [])
  raiseIf (maxPublishReasonLength < reason.length) (.validation "publish_reason exceeds maximum length" [])
  let config ← configurationOrRaise tenantId configurationId s
  let templateCode ← orRaise (s.templates.get? config.processTemplateId) (.notFound "Process template not found")
  let pipeline ← orRaise (getPipeline s tenantId config.pipelineId)
    (.tenantIsolation "Configuration pipeline not found for tenant")
  let policy := request.policy.snapshot
  validatePolicyAgainstPipeline policy pipeline.code
    ((pipelineStages s config.pipelineId).map (·.2.code)) templateCode
  validateModuleRequirements s policy.moduleRequirements
  raiseIf ((s.versions.get? versionId).isSome) .integrityError
  return { s with versions := s.versions.insert versionId {
    tenantId := tenantId
    configurationId := configurationId
    versionNumber := maxVersionNumber configurationId s + 1
    pipelineId := config.pipelineId
    pipelineCode := pipeline.code
    stageCodes := policy.stageCodes
    policySnapshot := policy
    moduleRequirements := policy.moduleRequirements
    publishReason := reason } }

def State.modifyConfiguration (s : State) (f : TenantProcessConfiguration → TenantProcessConfiguration) : State :=
  { s with configurations := s.configurations.modify configurationId f }

def TenantProcessConfiguration.setActive (versionId : ℕ) (c : TenantProcessConfiguration) :
    TenantProcessConfiguration :=
  { c with activeDefinitionVersionId := some versionId }

def TenantProcessConfiguration.setState (state : ProcessOverlayActivationState) (c : TenantProcessConfiguration) :
    TenantProcessConfiguration :=
  { c with activationState := state }

def setActiveDefinitionVersion (versionId : ℕ) (s : State) : Except OverlayError State := do
  let config ← configurationOrRaise tenantId configurationId s
  let version ← orRaise (getDefinitionVersionForConfiguration s tenantId configurationId versionId)
    (.validation "Definition version does not belong to this configuration or tenant" ["version_id"])
  raiseIf (getPipeline s tenantId config.pipelineId = none ∨ config.pipelineId ≠ version.pipelineId)
    (.tenantIsolation "Version pipeline is not consistent with tenant configuration")
  return s.modifyConfiguration configurationId (TenantProcessConfiguration.setActive versionId)

def assertConfigurationPipelineConsistency (config : TenantProcessConfiguration) (s : State) :
    Except OverlayError Unit := do
  raiseIf (getPipeline s tenantId config.pipelineId = none)
    (.tenantIsolation "Configuration pipeline not found for tenant")
  raiseIf (pipelineStages s config.pipelineId = []) (.activation "Configuration pipeline has no stages")

def assertModuleRequirementsMet (moduleRequirements : List String) (s : State) : Except OverlayError Unit :=
  moduleRequirements.forM fun moduleCode => do
    raiseIf (s.modules.definitions.get? moduleCode = none)
      (.validation s!"Unknown module requirement '{moduleCode}'" [moduleCode])
    (Modules.assertEnabled s.modules tenantId moduleCode).mapError .module

/-- The guards of an activation that is not one already. -/
def checkActivation (config : TenantProcessConfiguration) (s : State) : Except OverlayError Unit := do
  let versionId ← orRaise config.activeDefinitionVersionId
    (.activation "Cannot activate configuration without active_definition_version_id")
  let version ← orRaise (getDefinitionVersionForConfiguration s tenantId configurationId versionId)
    (.activation "Active definition version does not belong to this configuration")
  assertConfigurationPipelineConsistency tenantId config s
  assertModuleRequirementsMet tenantId version.moduleRequirements s

def activateConfiguration (s : State) : Except OverlayError State := do
  let config ← configurationOrRaise tenantId configurationId s
  if config.activationState = .active then
    return s
  else
    checkActivation tenantId configurationId config s
    return s.modifyConfiguration configurationId (TenantProcessConfiguration.setState .active)

def deactivateConfiguration (s : State) : Except OverlayError State := do
  let config ← configurationOrRaise tenantId configurationId s
  if config.activationState = .inactive then
    return s
  else
    return s.modifyConfiguration configurationId (TenantProcessConfiguration.setState .inactive)

end Configuration

section Create

variable (tenantId : ℕ)

structure WorkItemCreate where
  pipelineId : ℕ
  stageId : Option ℕ
  primaryPartyId : Option ℕ
  status : WorkItemStatus
  participants : List (ℕ × WorkItemParticipantRole)
  customFields : CustomFields

/-- The stage the payload names, or the pipeline's first. -/
def initialStage (s : State) (pipelineId : ℕ) : Option ℕ → Except OverlayError ℕ
  | none => orRaise (((pipelineStages s pipelineId).minOn? (·.2.sortOrder)).map Prod.fst)
      (.conflict "Pipeline has no stages")
  | some stageId => do
    let _ ← orRaise ((getStage s tenantId stageId).filter fun g => g.pipelineId = pipelineId)
      (.conflict "Stage does not belong to the specified pipeline")
    return stageId

def addParticipants (s : State) (participants : List (ℕ × WorkItemParticipantRole)) : Except OverlayError Unit := do
  raiseIf (∃ p ∈ participants, ¬ getParty s tenantId p.1) (.notFound "Party not found")
  raiseIf (¬ participants.Nodup) .integrityError

/-- `_maybe_auto_start_process_run`: an active configuration of the pipeline starts a run. -/
def maybeAutoStartProcessRun (runId workItemId pipelineId : ℕ) (automation : LeadAutomation) (s : State) :
    Except OverlayError State :=
  match getConfigurationByPipeline s tenantId pipelineId with
  | none => return s
  | some (configurationId, config) =>
    if config.activationState ≠ .active then return s
    else startRun tenantId runId workItemId configurationId automation s

/-- The work item and everything its creation checks, before a run is started on it. -/
def insertWorkItem (workItemId : ℕ) (payload : WorkItemCreate) (s : State) : Except OverlayError State := do
  raiseIf (getPipeline s tenantId payload.pipelineId = none) (.notFound "Pipeline not found")
  let stageId ← initialStage tenantId s payload.pipelineId payload.stageId
  raiseIf (¬ payload.primaryPartyId.all (getParty s tenantId)) (.notFound "Party not found")
  payload.customFields
  raiseIf ((s.workItems.get? workItemId).isSome) .integrityError
  addParticipants tenantId s payload.participants
  return { s with workItems := s.workItems.insert workItemId {
    tenantId := tenantId
    pipelineId := payload.pipelineId
    stageId := stageId
    primaryPartyId := payload.primaryPartyId
    status := payload.status } }

def createWorkItem (workItemId runId : ℕ) (payload : WorkItemCreate) (automation : LeadAutomation) (s : State) :
    Except OverlayError State := do
  let s ← insertWorkItem tenantId workItemId payload s
  maybeAutoStartProcessRun tenantId runId workItemId payload.pipelineId automation s

end Create

end CoreOps.Overlay
