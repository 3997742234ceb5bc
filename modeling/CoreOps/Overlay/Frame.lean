import CoreOps.Overlay.Enforcement

/-! What is published, switched, activated or deactivated for a configuration does not
reach the runs that are under way: the transition guard looks at the run of the work
item and at the version the run has pinned, and versions stay as they were published. -/

namespace CoreOps.Overlay

open Checked

/-- A call that changes a configuration or adds a version to one. -/
inductive ConfigurationCall
  | publish (configurationId versionId : ℕ) (request : PublishDefinitionVersionRequest)
  | setActive (configurationId versionId : ℕ)
  | activate (configurationId : ℕ)
  | deactivate (configurationId : ℕ)

def ConfigurationCall.op (tenantId : ℕ) : ConfigurationCall → Op
  | .publish configurationId versionId request => .publish tenantId configurationId versionId request
  | .setActive configurationId versionId => .setActive tenantId configurationId versionId
  | .activate configurationId => .activate tenantId configurationId
  | .deactivate configurationId => .deactivate tenantId configurationId

/-- What the guard answers when the work item is to enter a stage with the code
`toStageCode`. -/
def guardDecision (s : State) (tenantId workItemId : ℕ) (toStageCode : Option String) :
    Except OverlayError TransitionGuardResult := do
  let item ← getWorkItemOr404 tenantId workItemId s
  assertTransitionAllowed s tenantId workItemId item (oldStageCode s tenantId item) toStageCode

section Frame

variable {s s' : State} {tenantId workItemId : ℕ}

theorem keepsRuntime_exec {call : ConfigurationCall} (h : exec s (call.op tenantId) = .ok s') : KeepsRuntime s s' := by
  cases call with
  | publish configurationId versionId request => exact keepsRuntime_publish h
  | setActive configurationId versionId => exact keepsRuntime_setActive h
  | activate configurationId => exact keepsRuntime_activate h
  | deactivate configurationId => exact keepsRuntime_deactivate h

theorem keepsRuntime_foldl (calls : List (ℕ × ConfigurationCall)) (s : State) :
    KeepsRuntime s (calls.foldl (fun s c => settle exec s (c.2.op c.1)) s) := by
  induction calls generalizing s with
  | nil => exact .refl s
  | cons c calls ih =>
    have hstep : KeepsRuntime s (settle exec s (c.2.op c.1)) :=
      settle_keeps (.refl s) fun _ h => keepsRuntime_exec h
    exact hstep.trans (ih _)

namespace KeepsRuntime

theorem oldStageCode_eq (h : KeepsRuntime s s') (item : WorkItem) :
    oldStageCode s' tenantId item = oldStageCode s tenantId item := by
  simp only [oldStageCode, getStage, getPipeline, h.stages, h.pipelines]

/-- The version a run has pinned is still there, as it was published. -/
theorem getDefinitionVersion_eq (h : KeepsRuntime s s') (hi : Inv s) {run : ProcessRun} (hrun : run ∈ s.runs) :
    getDefinitionVersion s' tenantId run.definitionVersionId =
      getDefinitionVersion s tenantId run.definitionVersionId := by
  obtain ⟨v, hv⟩ := (hi.runs run hrun).version
  simp only [getDefinitionVersion, hv, h.versions _ v hv]

theorem assertTransitionAllowed_eq (h : KeepsRuntime s s') (hi : Inv s) (item : WorkItem)
    (fromStageCode toStageCode : Option String) :
    assertTransitionAllowed s' tenantId workItemId item fromStageCode toStageCode =
      assertTransitionAllowed s tenantId workItemId item fromStageCode toStageCode := by
  have hactive : getActiveRunForWorkItem s' tenantId workItemId = getActiveRunForWorkItem s tenantId workItemId := by
    simp only [getActiveRunForWorkItem, h.runs]
  unfold assertTransitionAllowed
  rw [hactive]
  cases hrun : getActiveRunForWorkItem s tenantId workItemId with
  | none => rfl
  | some run =>
    have hmem : run ∈ s.runs := List.mem_of_find?_eq_some hrun
    simp only [assertPinnedPolicy, h.getDefinitionVersion_eq hi hmem]

theorem guardDecision_eq (h : KeepsRuntime s s') (hi : Inv s) (toStageCode : Option String) :
    guardDecision s' tenantId workItemId toStageCode = guardDecision s tenantId workItemId toStageCode := by
  simp only [guardDecision, getWorkItemOr404, getWorkItem, h.workItems, h.oldStageCode_eq,
    h.assertTransitionAllowed_eq hi]

end KeepsRuntime

end Frame

/-- Publishing does not affect running processes: in every state that calls lead to,
any publications, switches of the active version, activations and deactivations, of any
configurations and accepted or refused, leave what the guard answers as it is, for every
work item and every stage it is to enter. -/
theorem guard_unaffected (s₀ : State) (ops : List Op) (calls : List (ℕ × ConfigurationCall))
    (tenantId workItemId : ℕ) (toStageCode : Option String) :
    let s := ops.foldl (settle exec) s₀.unstarted
    guardDecision (calls.foldl (fun s c => settle exec s (c.2.op c.1)) s) tenantId workItemId toStageCode =
      guardDecision s tenantId workItemId toStageCode :=
  (keepsRuntime_foldl calls _).guardDecision_eq ((follows 0).invariant (inv_unstarted s₀) ops) toStageCode

/-- The item of the run in `demoMove` cannot go back to new_lead, also when its
configuration is no longer active. -/
example :
    ([demoMove, demoMove ++ [.deactivate 1 1]].map fun ops =>
      (guardDecision (ops.foldl (settle exec) demoState.unstarted) 1 7 (some "new_lead")).map (·.enforced)) =
    List.replicate 2 (.error (.transitionDenied "Process transition denied: qualified -> new_lead" (some "qualified")
      (some "new_lead") (some 9) (some 1))) := by
  decide

end CoreOps.Overlay
