import CoreOps.Overlay.Policy

/-! What the services look up, the transition guard every writer of a stage goes
through, and the work item service up to the writes it makes. -/

namespace CoreOps.Overlay

open Checked

section Repository

variable (s : State) (tenantId : ℕ)

def getPipeline (pipelineId : ℕ) : Option Pipeline :=
  (s.pipelines.get? pipelineId).filter fun p => p.tenantId = tenantId

/-- `get_stage`: a stage of one of the tenant's pipelines. -/
def getStage (stageId : ℕ) : Option PipelineStage :=
  (s.stages.get? stageId).filter fun g => (getPipeline s tenantId g.pipelineId).isSome

def getStageByCode (pipelineId : ℕ) (code : String) : Option (ℕ × PipelineStage) :=
  s.stages.table.rows.find? fun r =>
    r.2.pipelineId = pipelineId ∧ r.2.code = code ∧ (getPipeline s tenantId pipelineId).isSome

/-- The stages of a pipeline, with their ids. -/
def pipelineStages (pipelineId : ℕ) : List (ℕ × PipelineStage) :=
  s.stages.table.rows.filter fun r => r.2.pipelineId = pipelineId

def getWorkItem (workItemId : ℕ) : Option WorkItem :=
  (s.workItems.get? workItemId).filter fun i => i.tenantId = tenantId

def getParty (partyId : ℕ) : Bool := s.parties.get? partyId = some tenantId

def getConfiguration (configurationId : ℕ) : Option TenantProcessConfiguration :=
  (s.configurations.get? configurationId).filter fun c => c.tenantId = tenantId

/-- `uq_tenant_process_config_tenant_pipeline` makes it the only one. -/
def getConfigurationByPipeline (pipelineId : ℕ) : Option (ℕ × TenantProcessConfiguration) :=
  s.configurations.rows.find? fun r => r.2.tenantId = tenantId ∧ r.2.pipelineId = pipelineId

def getDefinitionVersion (versionId : ℕ) : Option ProcessDefinitionVersion :=
  (s.versions.get? versionId).filter fun v => v.tenantId = tenantId

def getDefinitionVersionForConfiguration (configurationId versionId : ℕ) : Option ProcessDefinitionVersion :=
  (getDefinitionVersion s tenantId versionId).filter fun v => v.configurationId = configurationId

def getRun (runId : ℕ) : Option ProcessRun := s.runs.find? fun r => r.tenantId = tenantId ∧ r.id = runId

def getActiveRunForWorkItem (workItemId : ℕ) : Option ProcessRun :=
  s.runs.find? fun r => r.tenantId = tenantId ∧ r.workItemId = workItemId ∧ r.runState = .active

end Repository

section Rows

def State.modifyItem (s : State) (workItemId : ℕ) (f : WorkItem → WorkItem) : State :=
  { s with workItems := s.workItems.modify workItemId f }

/-- An update of a run's row; a run stays with its work item. -/
def State.modifyRun (s : State) (run : ProcessRun) (f : ProcessRun → ProcessRun) : State :=
  { s with runs := s.runs.map fun r => if r.id = run.id ∧ r.workItemId = run.workItemId then f r else r }

def ProcessRun.setStageCode (code : String) (r : ProcessRun) : ProcessRun := { r with currentStageCode := some code }

end Rows

section Guard

variable (s : State)

/-- Outcome of evaluating the overlay policy for a stage change. -/
structure TransitionGuardResult where
  enforced : Bool
  noop : Bool
  run : Option ProcessRun
  version : Option ProcessDefinitionVersion

/-- A denial that names the run and its version. -/
def denied (fromStageCode toStageCode : String) (run : ProcessRun) (message : String) : OverlayError :=
  .transitionDenied message (some fromStageCode) (some toStageCode) (some run.id) (some run.definitionVersionId)

/-- The part of the guard that an active run brings in: its pinned policy has to have
the edge. -/
def assertPinnedPolicy (tenantId : ℕ) (workItem : WorkItem) (fromStageCode toStageCode : String)
    (run : ProcessRun) : Except OverlayError TransitionGuardResult := do
  let denied := denied fromStageCode toStageCode run
  let version ← orRaise (getDefinitionVersion s tenantId run.definitionVersionId)
    (denied "Process transition denied: pinned definition version missing")
  raiseIf (version.configurationId ≠ run.configurationId)
    (denied "Process transition denied: definition version configuration mismatch")
  raiseIf (version.pipelineId ≠ workItem.pipelineId)
    (denied "Process transition denied: process pipeline mismatch")
  let policy ← (parsePolicySnapshot version.policySnapshot).mapError fun _ =>
    denied "Process transition denied: invalid pinned policy"
  raiseIf ((fromStageCode, toStageCode) ∉ policy.edges)
    (denied s!"Process transition denied: {fromStageCode} -> {toStageCode}")
  return ⟨true, false, some run, some version⟩

/-- `assert_transition_allowed`; the version it looks up is the tenant's. -/
def assertTransitionAllowed (tenantId workItemId : ℕ) (workItem : WorkItem)
    (fromStageCode toStageCode : Option String) : Except OverlayError TransitionGuardResult :=
  match fromStageCode, toStageCode with
  | some a, some b =>
    if a = b then return ⟨false, true, none, none⟩
    else match getActiveRunForWorkItem s tenantId workItemId with
      | none => return ⟨false, false, none, none⟩
      | some run => assertPinnedPolicy s tenantId workItem a b run
  | _, _ => .error (.transitionDenied "Process transition denied: stage code unresolved" fromStageCode toStageCode
      none none)

/-- `record_applied_transition`: the stage code of the run follows. -/
def recordAppliedTransition (result : TransitionGuardResult) (toStageCode : String) : State :=
  match result with
  | ⟨true, false, some run, some _⟩ => s.modifyRun run (ProcessRun.setStageCode toStageCode)
  | _ => s

end Guard

section StageWriters

variable (s : State) (tenantId : ℕ)

/-- A change of stage a writer has planned: what it leaves, where it goes, and the
status it sets, if any. -/
structure StageChange where
  fromStageCode : Option String
  stageId : ℕ
  stage : PipelineStage
  status : Option WorkItemStatus

/-- The code of the stage the item is in. -/
def oldStageCode (item : WorkItem) : Option String := (getStage s tenantId item.stageId).map (·.code)

/-- The stage a request names, in the pipeline of the item. -/
def requestedStage (item : WorkItem) (stageId : ℕ) : Except OverlayError PipelineStage :=
  orRaise ((getStage s tenantId stageId).filter fun g => g.pipelineId = item.pipelineId)
    (.conflict "Stage does not belong to the work item pipeline")

/-- `update_work_item` changes the stage when the payload names another one. -/
def planUpdate (item : WorkItem) : Option ℕ → Except OverlayError (Option StageChange)
  | none => return none
  | some stageId => do
    let stage ← requestedStage s tenantId item stageId
    if stageId = item.stageId then return none
    else return some ⟨oldStageCode s tenantId item, stageId, stage, none⟩

/-- The status `move_stage` derives from the stage. -/
def movedStatus (stage : PipelineStage) : WorkItemStatus :=
  if stage.isTerminal then
    if stage.code ∈ ["lost", "cancelled", "rejected"] then .lost else .won
  else .inProgress

def planMoveStage (item : WorkItem) (stageId : ℕ) : Except OverlayError (Option StageChange) := do
  let stage ← requestedStage s tenantId item stageId
  if (getStage s tenantId item.stageId).isSome ∧ item.stageId = stageId then return none
  else return some ⟨oldStageCode s tenantId item, stageId, stage, some (movedStatus stage)⟩

def planClose (item : WorkItem) : Except OverlayError (Option StageChange) := do
  let (stageId, stage) ← orRaise (getStageByCode s tenantId item.pipelineId "rejected")
    (.conflict "Pipeline stage 'rejected' not found")
  return some ⟨oldStageCode s tenantId item, stageId, stage, some .lost⟩

def planReopen (item : WorkItem) : Except OverlayError (Option StageChange) := do
  raiseIf (oldStageCode s tenantId item ≠ some "rejected")
    (.conflict "Work item is not in 'rejected' stage")
  let (stageId, stage) ← orRaise (getStageByCode s tenantId item.pipelineId "new_lead")
    (.conflict "Pipeline stage 'new_lead' not found")
  return some ⟨oldStageCode s tenantId item, stageId, stage, some .inProgress⟩

/-- The guard's answer to a planned change; no change needs none. -/
def guardChange (workItemId : ℕ) (item : WorkItem) :
    Option StageChange → Except OverlayError TransitionGuardResult
  | none => return ⟨false, true, none, none⟩
  | some c => assertTransitionAllowed s tenantId workItemId item c.fromStageCode (some c.stage.code)

def StageChange.apply (c : StageChange) (i : WorkItem) : WorkItem :=
  { i with stageId := c.stageId, status := c.status.getD i.status }

/-- The new stage of the item, and the record of it on its run. -/
def applyChange (workItemId : ℕ) (result : TransitionGuardResult) : Option StageChange → State
  | none => s
  | some c => recordAppliedTransition (s.modifyItem workItemId c.apply) result c.stage.code

end StageWriters

section WorkItems

variable (tenantId workItemId : ℕ)

/-- What the custom fields of a call make of its values: they are validated and
stored, or refused. -/
abbrev CustomFields := Except OverlayError Unit

structure WorkItemUpdate where
  stageId : Option ℕ
  primaryPartyId : Option ℕ
  status : Option WorkItemStatus
  customFields : CustomFields

def getWorkItemOr404 (s : State) : Except OverlayError WorkItem :=
  orRaise (getWorkItem s tenantId workItemId) (.notFound "Work item not found")

def WorkItemUpdate.apply (payload : WorkItemUpdate) (i : WorkItem) : WorkItem :=
  { i with
    primaryPartyId := payload.primaryPartyId.or i.primaryPartyId
    status := payload.status.getD i.status }

/-- The part of an update that is no change of stage. -/
def updateDetails (payload : WorkItemUpdate) (s : State) : Except OverlayError State := do
  raiseIf (¬ payload.primaryPartyId.all (getParty s tenantId)) (.notFound "Party not found")
  payload.customFields
  return s.modifyItem workItemId payload.apply

def updateWorkItem (payload : WorkItemUpdate) (s : State) : Except OverlayError State := do
  let item ← getWorkItemOr404 tenantId workItemId s
  let change ← planUpdate s tenantId item payload.stageId
  let result ← guardChange s tenantId workItemId item change
  updateDetails tenantId workItemId payload (applyChange s workItemId result change)

def moveStage (stageId : ℕ) (s : State) : Except OverlayError State := do
  let item ← getWorkItemOr404 tenantId workItemId s
  let change ← planMoveStage s tenantId item stageId
  let result ← guardChange s tenantId workItemId item change
  return applyChange s workItemId result change

def closeWorkItem (customFields : CustomFields) (s : State) : Except OverlayError State := do
  let item ← getWorkItemOr404 tenantId workItemId s
  let change ← planClose s tenantId item
  let result ← guardChange s tenantId workItemId item change
  customFields
  return applyChange s workItemId result change

def reopenWorkItem (customFields : CustomFields) (s : State) : Except OverlayError State := do
  let item ← getWorkItemOr404 tenantId workItemId s
  let change ← planReopen s tenantId item
  let result ← guardChange s tenantId workItemId item change
  customFields
  return applyChange s workItemId result change

end WorkItems

end CoreOps.Overlay
