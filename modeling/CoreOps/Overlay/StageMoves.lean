import CoreOps.Overlay.Enforcement

/-! The two calls that move a work item to a stage its caller names, with the activities
they leave. They take the same moves and refuse the others alike, and the stage and the
runs end up the same; but only `move_stage` sets the status of the item from the stage,
and only it leaves an activity. -/

namespace CoreOps.Overlay

open Checked

/-- The activity of a work item that a move leaves, all of them changes of status. -/
structure Activity where
  tenantId : ℕ
  workItemId : ℕ
  title : String
  description : String
  occurredAt : ℕ
  createdByUserId : ℕ
  deriving DecidableEq, Repr

structure LoggedState where
  state : State
  activities : List Activity

/-- Who asks for the move, of which work item, and when. -/
structure MoveContext where
  tenantId : ℕ
  workItemId : ℕ
  userId : ℕ
  now : ℕ

section Moves

variable (stageName : ℕ → String) (ctx : MoveContext)

def stageMoved (item : WorkItem) (c : StageChange) : Activity where
  tenantId := ctx.tenantId
  workItemId := ctx.workItemId
  title := s!"Moved to stage: {stageName c.stageId}"
  description := s!"stage_id: {item.stageId} -> {c.stageId}"
  occurredAt := ctx.now
  createdByUserId := ctx.userId

/-- `move_stage`, with its activity. -/
def moveStageLogged (stageId : ℕ) (d : LoggedState) : Except OverlayError LoggedState := do
  let item ← getWorkItemOr404 ctx.tenantId ctx.workItemId d.state
  let change ← planMoveStage d.state ctx.tenantId item stageId
  let result ← guardChange d.state ctx.tenantId ctx.workItemId item change
  return {
    state := applyChange d.state ctx.workItemId result change
    activities := d.activities ++ (change.map (stageMoved stageName ctx item)).toList }

/-- `update_work_item`, which leaves no activity. -/
def updateWorkItemLogged (payload : WorkItemUpdate) (d : LoggedState) : Except OverlayError LoggedState := do
  let state ← updateWorkItem ctx.tenantId ctx.workItemId payload d.state
  return { d with state := state }

/-- A request that sets the stage only. -/
def WorkItemUpdate.ofStage (stageId : ℕ) : WorkItemUpdate where
  stageId := some stageId
  primaryPartyId := none
  status := none
  customFields := .ok ()

end Moves

section Compare

variable {stageName : ℕ → String} {ctx : MoveContext} {s : State} {d : LoggedState}
variable {tenantId workItemId stageId : ℕ} {item : WorkItem}

/-- Of a state with activities, `moveStage` is the state's part. -/
theorem moveStageLogged_state : SameOutcome (fun d' s' => d'.state = s') (moveStageLogged stageName ctx stageId d)
    (moveStage ctx.tenantId ctx.workItemId stageId d.state) := by
  refine sameOutcome_bind_iff.2 fun item _ => sameOutcome_bind_iff.2 fun change _ => ?_
  exact sameOutcome_bind_iff.2 fun result _ => .ok rfl

/-- What a move makes of a change that an update would make: it sets the status as well. -/
def StageChange.withStatus (c : StageChange) : StageChange := { c with status := some (movedStatus c.stage) }

/-- The two calls plan the same change, but for the status. -/
theorem planMoveStage_eq :
    planMoveStage s tenantId item stageId =
      (planUpdate s tenantId item (some stageId)).map (Option.map StageChange.withStatus) := by
  rw [planMoveStage, planUpdate]
  rcases hstage : requestedStage s tenantId item stageId with e | stage
  · rfl
  · have hfound : (getStage s tenantId stageId).isSome = true := by
      obtain ⟨hget, -⟩ := Option.filter_eq_some_iff.1 (orRaise_eq_ok.1 hstage)
      rw [hget]
      rfl
    by_cases hsame : stageId = item.stageId
    · subst hsame
      simp [hfound, bind, Except.bind, pure, Except.pure, Except.map]
    · simp [hsame, Ne.symm hsame, bind, Except.bind, pure, Except.pure, Except.map, StageChange.withStatus]

/-- The guard does not look at the status. -/
theorem guardChange_withStatus (change : Option StageChange) :
    guardChange s tenantId workItemId item (change.map StageChange.withStatus) =
      guardChange s tenantId workItemId item change := by
  cases change <;> rfl

theorem updateDetails_ofStage :
    updateDetails tenantId workItemId (WorkItemUpdate.ofStage stageId) s = .ok s := by
  simp only [updateDetails, bind_eq_ok, raiseIf_eq_ok, pure_eq_ok]
  refine ⟨⟨⟩, by simp [WorkItemUpdate.ofStage], ⟨⟩, rfl, ?_⟩
  have hsame : s.workItems.modify workItemId (WorkItemUpdate.ofStage stageId).apply = s.workItems :=
    Table.modify_eq_self fun i _ => by simp [WorkItemUpdate.apply, WorkItemUpdate.ofStage]
  rw [State.modifyItem, hsame]

theorem updateWorkItemLogged_eq :
    updateWorkItemLogged ctx (WorkItemUpdate.ofStage stageId) d = do
      let item ← getWorkItemOr404 ctx.tenantId ctx.workItemId d.state
      let change ← planUpdate d.state ctx.tenantId item (some stageId)
      let result ← guardChange d.state ctx.tenantId ctx.workItemId item change
      return { d with state := applyChange d.state ctx.workItemId result change } := by
  simp only [updateWorkItemLogged, updateWorkItem, bind_assoc, updateDetails_ofStage]
  rfl

theorem moveStageLogged_eq :
    moveStageLogged stageName ctx stageId d = do
      let item ← getWorkItemOr404 ctx.tenantId ctx.workItemId d.state
      let change ← planUpdate d.state ctx.tenantId item (some stageId)
      let result ← guardChange d.state ctx.tenantId ctx.workItemId item change
      return {
        state := applyChange d.state ctx.workItemId result (change.map StageChange.withStatus)
        activities := d.activities ++ (change.map fun c => stageMoved stageName ctx item c.withStatus).toList } := by
  rw [moveStageLogged]
  congr 1
  funext item
  rw [planMoveStage_eq]
  rcases planUpdate d.state ctx.tenantId item (some stageId) with e | change
  · rfl
  · show (guardChange d.state ctx.tenantId ctx.workItemId item (change.map StageChange.withStatus) >>= _) = _
    rw [guardChange_withStatus]
    simp only [Option.map_map]
    rfl

/-- The item has the same stage and status, the runs are the same, and so are the
activities. -/
structure SameMove (workItemId : ℕ) (d d' : LoggedState) : Prop where
  stage : (d.state.workItems.get? workItemId).map (·.stageId) = (d'.state.workItems.get? workItemId).map (·.stageId)
  status : (d.state.workItems.get? workItemId).map (·.status) = (d'.state.workItems.get? workItemId).map (·.status)
  runs : d.state.runs = d'.state.runs
  activities : d.activities = d'.activities

/-- The item is in another stage of its pipeline, and the guard lets it enter this one. -/
def EntersStage (s : State) (tenantId workItemId stageId : ℕ) : Prop :=
  ∃ item stage, getWorkItem s tenantId workItemId = some item ∧ requestedStage s tenantId item stageId = .ok stage ∧
    stageId ≠ item.stageId ∧
    (assertTransitionAllowed s tenantId workItemId item (oldStageCode s tenantId item) (some stage.code)).isOk

theorem runs_recordAppliedTransition (result : TransitionGuardResult) (code : String) :
    (recordAppliedTransition s result code).runs =
      (recordAppliedTransition { s with workItems := ∅ } result code).runs := by
  unfold recordAppliedTransition
  split <;> rfl

theorem workItems_recordAppliedTransition (result : TransitionGuardResult) (code : String) :
    (recordAppliedTransition s result code).workItems = s.workItems := by
  unfold recordAppliedTransition
  split <;> rfl

/-- With or without the status, a change leaves the same stage and the same runs. -/
theorem applyChange_withStatus (result : TransitionGuardResult) (change : Option StageChange) :
    ((applyChange s workItemId result change).workItems.get? workItemId).map (·.stageId) =
        ((applyChange s workItemId result (change.map StageChange.withStatus)).workItems.get? workItemId).map
          (·.stageId) ∧
      (applyChange s workItemId result change).runs =
        (applyChange s workItemId result (change.map StageChange.withStatus)).runs := by
  cases change with
  | none => exact ⟨rfl, rfl⟩
  | some c =>
    simp only [applyChange, Option.map_some, workItems_recordAppliedTransition]
    refine ⟨?_, ?_⟩
    · simp only [State.modifyItem, Table.get?_modify_self, Option.map_map]
      rfl
    · rw [runs_recordAppliedTransition, runs_recordAppliedTransition (s := s.modifyItem workItemId c.withStatus.apply)]
      rfl

/-- The two calls are refused alike; where they are not, the item is in the same stage
afterwards, and the runs are the same. -/
theorem moves_sameStage :
    SameOutcome (fun d₁ d₂ => (d₁.state.workItems.get? ctx.workItemId).map (·.stageId) =
        (d₂.state.workItems.get? ctx.workItemId).map (·.stageId) ∧ d₁.state.runs = d₂.state.runs)
      (updateWorkItemLogged ctx (WorkItemUpdate.ofStage stageId) d) (moveStageLogged stageName ctx stageId d) := by
  rw [updateWorkItemLogged_eq, moveStageLogged_eq]
  refine sameOutcome_bind_iff.2 fun item _ => sameOutcome_bind_iff.2 fun change _ => ?_
  exact sameOutcome_bind_iff.2 fun result _ => .ok (applyChange_withStatus result change)

/-- They agree on everything as long as no change is made. -/
theorem sameMove_iff_none {result : TransitionGuardResult} {change : Option StageChange} :
    SameMove ctx.workItemId { d with state := applyChange d.state ctx.workItemId result change } {
        state := applyChange d.state ctx.workItemId result (change.map StageChange.withStatus)
        activities := d.activities ++ (change.map fun c => stageMoved stageName ctx item c.withStatus).toList } ↔
      change = none := by
  cases change with
  | none =>
    refine ⟨fun _ => rfl, fun _ => ⟨rfl, rfl, rfl, ?_⟩⟩
    simp
  | some c =>
    refine ⟨fun h => ?_, fun h => by cases h⟩
    have hlogged := h.activities
    simp at hlogged

theorem entersStage_iff :
    EntersStage s tenantId workItemId stageId ↔ ∃ item c result, getWorkItemOr404 tenantId workItemId s = .ok item ∧
      planUpdate s tenantId item (some stageId) = .ok (some c) ∧
      guardChange s tenantId workItemId item (some c) = .ok result := by
  simp only [EntersStage, getWorkItemOr404, orRaise_eq_ok, planUpdate, bind_eq_ok]
  constructor
  · rintro ⟨item, stage, hitem, hstage, hne, hguard⟩
    obtain ⟨result, hresult⟩ := exists_of_isOk hguard
    exact ⟨item, _, result, hitem, ⟨stage, hstage, if_neg hne⟩, hresult⟩
  · rintro ⟨item, c, result, hitem, ⟨stage, hstage, hplan⟩, hresult⟩
    split at hplan
    · cases hplan
    · rename_i hne
      cases hplan
      refine ⟨item, stage, hitem, hstage, hne, ?_⟩
      rw [show assertTransitionAllowed s tenantId workItemId item (oldStageCode s tenantId item) (some stage.code) =
        .ok result from hresult]
      rfl

end Compare

/-- An update that sets only the stage and a move to the same stage have the same outcome
just when the item does not enter the stage: they are refused, or it is in the stage
already. -/
theorem moves_agree_iff (stageName : ℕ → String) (ctx : MoveContext) (stageId : ℕ) (d : LoggedState) :
    SameOutcome (SameMove ctx.workItemId) (updateWorkItemLogged ctx (WorkItemUpdate.ofStage stageId) d)
        (moveStageLogged stageName ctx stageId d) ↔
      ¬ EntersStage d.state ctx.tenantId ctx.workItemId stageId := by
  rw [updateWorkItemLogged_eq, moveStageLogged_eq, entersStage_iff]
  simp only [sameOutcome_bind_iff]
  constructor
  · rintro h ⟨item, c, result, hitem, hplan, hguard⟩
    exact absurd (sameMove_iff_none.1 (sameOutcome_ok_iff.1 (h item hitem (some c) hplan result hguard))) (by simp)
  · intro h item hitem change hplan result hguard
    refine .ok (sameMove_iff_none.2 ?_)
    cases change with
    | none => rfl
    | some c => exact absurd ⟨item, c, result, hitem, hplan, hguard⟩ h

/-! The work item of `demoStarted`, in the stage new_lead. -/

section Example

def demoLogged : LoggedState := ⟨demoStarted, []⟩

def demoContext : MoveContext := ⟨1, 7, 4, 0⟩

def demoStageName (stageId : ℕ) : String := if stageId = 2 then "Qualified" else "New lead"

/-- What the two calls leave of the item's stage and status, and of the activities. -/
def moveOutcome (x : Except OverlayError LoggedState) : Except OverlayError (Option (ℕ × WorkItemStatus) × List Activity) :=
  x.map fun d => ((d.state.workItems.get? 7).map fun i => (i.stageId, i.status), d.activities)

theorem demo_update : moveOutcome (updateWorkItemLogged demoContext (.ofStage 2) demoLogged) =
    .ok (some (2, .open_), []) := by decide

theorem demo_move : moveOutcome (moveStageLogged demoStageName demoContext 2 demoLogged) =
    .ok (some (2, .inProgress), [⟨1, 7, "Moved to stage: Qualified", "stage_id: 1 -> 2", 0, 4⟩]) := by decide

/-- An update moves the item and leaves it open, with no activity; a move sets it in
progress, and leaves one. -/
theorem moves_disagree : ∃ ops : List Op, ∃ d, d.state = ops.foldl (settle exec) demoState.unstarted ∧
    ¬ SameOutcome (SameMove 7) (updateWorkItemLogged demoContext (.ofStage 2) d)
      (moveStageLogged demoStageName demoContext 2 d) := by
  refine ⟨_, demoLogged, rfl, fun h => ?_⟩
  have hupdate := demo_update
  have hmove := demo_move
  revert h hupdate hmove
  generalize updateWorkItemLogged demoContext (.ofStage 2) demoLogged = x
  generalize moveStageLogged demoStageName demoContext 2 demoLogged = y
  rintro (⟨⟨-, -, -, hactivities⟩⟩ | e) hupdate hmove
  · simp only [moveOutcome, Except.map, Except.ok.injEq, Prod.mk.injEq] at hupdate hmove
    rw [hupdate.2, hmove.2] at hactivities
    cases hactivities
  · cases hupdate

end Example

end CoreOps.Overlay
