import Mathlib.Data.Int.Notation
import CoreOps.Lib.Table
import CoreOps.Lib.Text
import CoreOps.Modules.Registry

/-! The data of the process overlay and of the work items it watches. A pipeline has
stages with distinct codes; a tenant configures a pipeline with a process template,
publishes versions of a policy for it, and starts runs of a version on work items.
Versions are never changed once published. -/

namespace CoreOps.Overlay

inductive WorkItemStatus
  | open_
  | inProgress
  | won
  | lost
  | cancelled
  | archived
  deriving DecidableEq, Repr

inductive WorkItemParticipantRole
  | client
  | assignee
  | observer
  | other
  deriving DecidableEq, Repr

inductive ProcessOverlayActivationState
  | inactive
  | active
  deriving DecidableEq, Repr

inductive ProcessRunState
  | active
  | completed
  | cancelled
  deriving DecidableEq, Repr

/-- `.value` of a state, as messages show it. -/
def ProcessRunState.value : ProcessRunState → String
  | .active => "active"
  | .completed => "completed"
  | .cancelled => "cancelled"

structure Pipeline where
  tenantId : ℕ
  code : String
  deriving DecidableEq, Repr

structure PipelineStage where
  pipelineId : ℕ
  code : String
  sortOrder : ℤ
  isTerminal : Bool
  deriving DecidableEq, Repr

/-- Stages, with `uq_pipeline_stage_code`: no pipeline has two of one code. -/
structure Stages where
  table : Table ℕ PipelineStage
  code_unique : ∀ i j a b, table.get? i = some a → table.get? j = some b →
    a.pipelineId = b.pipelineId → a.code = b.code → i = j

def Stages.get? (stages : Stages) (id : ℕ) : Option PipelineStage := stages.table.get? id

structure WorkItem where
  tenantId : ℕ
  pipelineId : ℕ
  stageId : ℕ
  primaryPartyId : Option ℕ
  status : WorkItemStatus
  deriving DecidableEq, Repr

structure TransitionConditions where
  requiredFields : List String
  requiredRoles : List String
  requiresApproval : Bool
  requiredTaskCodes : List String
  requiredDocumentTypes : List String
  deriving DecidableEq, Repr

structure PolicyTransition where
  fromStageCode : String
  toStageCode : String
  conditions : TransitionConditions
  deriving DecidableEq, Repr

structure PolicySnapshot where
  schemaVersion : ℤ
  processTemplateCode : String
  pipelineCode : String
  stageCodes : List String
  transitions : List PolicyTransition
  moduleRequirements : List String
  terminalStageCodes : List String
  deriving DecidableEq, Repr

/-- A configuration of a pipeline; the template is named by its id. -/
structure TenantProcessConfiguration where
  tenantId : ℕ
  processTemplateId : ℕ
  pipelineId : ℕ
  activationState : ProcessOverlayActivationState
  activeDefinitionVersionId : Option ℕ
  deriving DecidableEq, Repr

structure ProcessDefinitionVersion where
  tenantId : ℕ
  configurationId : ℕ
  versionNumber : ℕ
  pipelineId : ℕ
  pipelineCode : String
  stageCodes : List String
  policySnapshot : PolicySnapshot
  moduleRequirements : List String
  publishReason : String
  deriving DecidableEq, Repr

structure ProcessRun where
  id : ℕ
  tenantId : ℕ
  configurationId : ℕ
  definitionVersionId : ℕ
  workItemId : ℕ
  runState : ProcessRunState
  completionReason : Option String
  currentStageCode : Option String
  deriving DecidableEq, Repr

/-- The rows the overlay and the work item services read and write; parties are held
by their tenants, templates are their codes, runs are in the order they started. -/
structure State where
  pipelines : Table ℕ Pipeline
  stages : Stages
  workItems : Table ℕ WorkItem
  parties : Table ℕ ℕ
  templates : Table ℕ String
  configurations : Table ℕ TenantProcessConfiguration
  versions : Table ℕ ProcessDefinitionVersion
  runs : List ProcessRun
  modules : Modules.State

inductive OverlayError
  | notFound (message : String)
  | conflict (message : String)
  | validation (message : String) (errors : List String)
  | activation (message : String)
  | tenantIsolation (message : String)
  | runConflict (message : String)
  | runState (message : String)
  | transitionDenied (message : String) (fromStageCode toStageCode : Option String)
      (processRunId definitionVersionId : Option ℕ)
  | module (error : Modules.ModuleError)
  | integrityError
  deriving DecidableEq, Repr

end CoreOps.Overlay
