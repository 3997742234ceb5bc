import CoreOps.Lib.Episode
import CoreOps.Overlay.Service

/-! Enforcement: an active run always knows the stage its work item is in, and while
it is active the item moves along the edges of the policy the run has pinned, whatever
is published, activated or deactivated meanwhile. -/

namespace CoreOps.Overlay

open Checked

inductive Op
  | createWorkItem (tenantId workItemId runId : ℕ) (payload : WorkItemCreate) (automation : LeadAutomation)
  | updateWorkItem (tenantId workItemId : ℕ) (payload : WorkItemUpdate)
  | moveStage (tenantId workItemId stageId : ℕ)
  | closeWorkItem (tenantId workItemId : ℕ) (customFields : CustomFields)
  | reopenWorkItem (tenantId workItemId : ℕ) (customFields : CustomFields)
  | startRun (tenantId runId workItemId configurationId : ℕ) (automation : LeadAutomation)
  | completeRun (tenantId runId : ℕ) (reason : Option String)
  | cancelRun (tenantId runId : ℕ) (reason : String)
  | publish (tenantId configurationId versionId : ℕ) (request : PublishDefinitionVersionRequest)
  | setActive (tenantId configurationId versionId : ℕ)
  | activate (tenantId configurationId : ℕ)
  | deactivate (tenantId configurationId : ℕ)

def exec (s : State) : Op → Except OverlayError State
  | .createWorkItem tenantId workItemId runId payload automation =>
    createWorkItem tenantId workItemId runId payload automation s
  | .updateWorkItem tenantId workItemId payload => updateWorkItem tenantId workItemId payload s
  | .moveStage tenantId workItemId stageId => moveStage tenantId workItemId stageId s
  | .closeWorkItem tenantId workItemId customFields => closeWorkItem tenantId workItemId customFields s
  | .reopenWorkItem tenantId workItemId customFields => reopenWorkItem tenantId workItemId customFields s
  | .startRun tenantId runId workItemId configurationId automation =>
    startRun tenantId runId workItemId configurationId automation s
  | .completeRun tenantId runId reason => completeRun tenantId runId reason s
  | .cancelRun tenantId runId reason => cancelRun tenantId runId reason s
  | .publish tenantId configurationId versionId request =>
    publishDefinitionVersion tenantId configurationId versionId request s
  | .setActive tenantId configurationId versionId => setActiveDefinitionVersion tenantId configurationId versionId s
  | .activate tenantId configurationId => activateConfiguration tenantId configurationId s
  | .deactivate tenantId configurationId => deactivateConfiguration tenantId configurationId s

/-- The code of the stage a work item is in. -/
def stageCodeOf (s : State) (workItemId : ℕ) : Option String :=
  (s.workItems.get? workItemId).bind fun i => (s.stages.get? i.stageId).map (·.code)

/-- The edges of a version's policy snapshot. -/
def edgesOf (s : State) (versionId : ℕ) : List (String × String) :=
  ((s.versions.get? versionId).map (·.policySnapshot.edges)).getD []

def PolicyEdge (edges : List (String × String)) (a b : Option String) : Prop :=
  ∃ e ∈ edges, a = some e.1 ∧ b = some e.2

def runById (s : State) (runId : ℕ) : Option ProcessRun := s.runs.find? fun r => r.id = runId

/-- A run as an episode of its work item: the stages the item is in while it is active. -/
def phaseOf (runId : ℕ) (s : State) : Phase (Option String) :=
  match runById s runId with
  | none => .absent
  | some r => if r.runState = .active then .during (stageCodeOf s r.workItemId) else .ended

/-- The stages the run's work item takes while the run is active. -/
def stagesTaken (runId : ℕ) (states : List State) : List (Option String) :=
  Phase.values (states.map (phaseOf runId))

/-- The edges of the version the run has pinned. -/
def pinnedEdges (s : State) (runId : ℕ) : List (String × String) :=
  ((runById s runId).map fun r => edgesOf s r.definitionVersionId).getD []

/-! The invariant. -/

structure ItemOk (s : State) (i : WorkItem) : Prop where
  pipeline : (getPipeline s i.tenantId i.pipelineId).isSome
  stage : ∃ g, s.stages.get? i.stageId = some g ∧ g.pipelineId = i.pipelineId

structure RunOk (s : State) (r : ProcessRun) : Prop where
  item : ∃ i, s.workItems.get? r.workItemId = some i ∧ i.tenantId = r.tenantId
  version : ∃ v, s.versions.get? r.definitionVersionId = some v
  synced : r.runState = .active → r.currentStageCode = stageCodeOf s r.workItemId

structure Inv (s : State) : Prop where
  items : ∀ id i, s.workItems.get? id = some i → ItemOk s i
  runs : ∀ r ∈ s.runs, RunOk s r
  ids : (s.runs.map (·.id)).Nodup
  oneActive : ∀ r ∈ s.runs, ∀ r' ∈ s.runs, r.runState = .active → r'.runState = .active →
    r.workItemId = r'.workItemId → r = r'

theorem runById_of_mem {s : State} (h : (s.runs.map (·.id)).Nodup) {r : ProcessRun} (hr : r ∈ s.runs) :
    runById s r.id = some r := by
  unfold runById
  generalize s.runs = runs at h hr
  induction runs with
  | nil => cases hr
  | cons x xs ih =>
    rw [List.map_cons, List.nodup_cons] at h
    rcases List.mem_cons.1 hr with rfl | hr
    · rw [List.find?_cons_of_pos (by simp)]
    · have hne : x.id ≠ r.id := fun he => h.1 (List.mem_map.2 ⟨r, hr, he.symm⟩)
      rw [List.find?_cons_of_neg (by simpa using hne)]
      exact ih h.2 hr

theorem mem_of_runById {s : State} {runId : ℕ} {r : ProcessRun} (h : runById s runId = some r) :
    r ∈ s.runs ∧ r.id = runId := by
  refine ⟨List.mem_of_find?_eq_some h, ?_⟩
  have := List.find?_some h
  simpa using this

theorem runById_eq_none {s : State} {runId : ℕ} : runById s runId = none ↔ ∀ r ∈ s.runs, r.id ≠ runId := by
  simp [runById]

theorem stageCodeOf_of_get {s : State} {id : ℕ} {i : WorkItem} (h : s.workItems.get? id = some i) :
    stageCodeOf s id = (s.stages.get? i.stageId).map (·.code) := by
  rw [stageCodeOf, h, Option.bind_some]

/-- A tenant sees the stage of its own item. -/
theorem oldStageCode_eq {s : State} (h : Inv s) {tenantId id : ℕ} {i : WorkItem}
    (hi : getWorkItem s tenantId id = some i) :
    s.workItems.get? id = some i ∧ i.tenantId = tenantId ∧ oldStageCode s tenantId i = stageCodeOf s id := by
  rw [getWorkItem, Option.filter_eq_some_iff] at hi
  obtain ⟨hget, ht⟩ := hi
  have ht' : i.tenantId = tenantId := by simpa using ht
  obtain ⟨hp, g, hg, hgp⟩ := h.items id i hget
  refine ⟨hget, ht', ?_⟩
  rw [stageCodeOf_of_get hget, oldStageCode, getStage, hg, Option.filter_some_pos, Option.map_some]
  rw [hgp, ← ht']
  exact hp

/-! What the steps do to the phases. -/

/-- What a call may do to a run: keep the edges it has pinned, and move its item along
them. -/
def StepOk (s s' : State) : Prop :=
  ∀ runId, pinnedEdges s runId ⊆ pinnedEdges s' runId ∧
    Phase.Moves (PolicyEdge (pinnedEdges s runId)) (phaseOf runId s) (phaseOf runId s')

theorem moves_refl (edge : Option String → Option String → Prop) (p : Phase (Option String)) :
    Phase.Moves edge p p := by
  cases p with
  | absent => exact .wait
  | during b => exact .stay b
  | ended => exact .rest

theorem StepOk.refl (s : State) : StepOk s s := fun _ => ⟨List.Subset.refl _, moves_refl _ _⟩

/-- Nothing about runs has changed. -/
def SameRuns (s s' : State) : Prop :=
  ∀ runId, pinnedEdges s' runId = pinnedEdges s runId ∧ phaseOf runId s' = phaseOf runId s

theorem SameRuns.stepOk {s s' : State} (h : SameRuns s s') : StepOk s s' := by
  intro runId
  obtain ⟨he, hp⟩ := h runId
  rw [he, hp]
  exact ⟨List.Subset.refl _, moves_refl _ _⟩

theorem SameRuns.before {s s₁ s' : State} (h : SameRuns s s₁) (h' : StepOk s₁ s') : StepOk s s' := by
  intro runId
  obtain ⟨he, hp⟩ := h runId
  rw [← he, ← hp]
  exact h' runId

theorem StepOk.followed {s s₁ s' : State} (h : StepOk s s₁) (h' : SameRuns s₁ s') : StepOk s s' := by
  intro runId
  obtain ⟨he, hp⟩ := h' runId
  rw [he, hp]
  exact h runId

/-- A call that keeps every row that runs refer to, and where its items are. -/
structure Quiet (s s' : State) : Prop where
  pipelines : s'.pipelines = s.pipelines
  stages : s'.stages = s.stages
  runs : s'.runs = s.runs
  versions : ∀ id v, s.versions.get? id = some v → s'.versions.get? id = some v
  items : ∀ id i, s.workItems.get? id = some i → ∃ i', s'.workItems.get? id = some i' ∧
    i'.tenantId = i.tenantId ∧ i'.pipelineId = i.pipelineId ∧ i'.stageId = i.stageId
  new : ∀ id i', s'.workItems.get? id = some i' → ItemOk s i' ∨ ∃ i, s.workItems.get? id = some i

namespace Quiet

variable {s s' : State}

theorem stageCodeOf_eq (h : Quiet s s') {id : ℕ} {i : WorkItem} (hi : s.workItems.get? id = some i) :
    stageCodeOf s' id = stageCodeOf s id := by
  obtain ⟨i', hi', -, -, hst⟩ := h.items id i hi
  rw [stageCodeOf_of_get hi, stageCodeOf_of_get hi', h.stages, hst]

theorem edgesOf_eq (h : Quiet s s') {id : ℕ} {v : ProcessDefinitionVersion} (hv : s.versions.get? id = some v) :
    edgesOf s' id = edgesOf s id := by
  rw [edgesOf, edgesOf, hv, h.versions id v hv]

theorem itemOk_iff (h : Quiet s s') (i : WorkItem) : ItemOk s' i ↔ ItemOk s i := by
  constructor
  · intro ⟨hp, hst⟩
    rw [getPipeline, h.pipelines] at hp
    rw [h.stages] at hst
    exact ⟨hp, hst⟩
  · intro ⟨hp, hst⟩
    refine ⟨?_, ?_⟩
    · rw [getPipeline, h.pipelines]
      exact hp
    · rw [h.stages]
      exact hst

theorem sameRuns (h : Quiet s s') (hi : Inv s) : SameRuns s s' := by
  intro runId
  have hrun : runById s' runId = runById s runId := by rw [runById, runById, h.runs]
  unfold pinnedEdges phaseOf
  rw [hrun]
  cases hr : runById s runId with
  | none => exact ⟨rfl, rfl⟩
  | some r =>
    obtain ⟨⟨i, hget, -⟩, ⟨v, hv⟩, -⟩ := hi.runs r (mem_of_runById hr).1
    simp only [Option.map_some, Option.getD_some, h.edgesOf_eq hv, h.stageCodeOf_eq hget, true_and]

theorem inv (h : Quiet s s') (hi : Inv s) : Inv s' := by
  refine ⟨fun id i' hi' => ?_, fun r hr => ?_, by rw [h.runs]; exact hi.ids, by rw [h.runs]; exact hi.oneActive⟩
  · rw [h.itemOk_iff]
    rcases h.new id i' hi' with hok | ⟨i, hget⟩
    · exact hok
    · obtain ⟨i₂, hi₂, ht, hp, hst⟩ := h.items id i hget
      obtain rfl := Option.some.inj (hi'.symm.trans hi₂)
      obtain ⟨hok, hg⟩ := hi.items id i hget
      refine ⟨?_, ?_⟩
      · rw [ht, hp]
        exact hok
      · rw [hst, hp]
        exact hg
  · rw [h.runs] at hr
    obtain ⟨⟨i, hget, ht⟩, ⟨v, hv⟩, hsync⟩ := hi.runs r hr
    obtain ⟨i', hi', ht', -, -⟩ := h.items _ i hget
    exact ⟨⟨i', hi', ht'.trans ht⟩, ⟨v, h.versions _ v hv⟩, fun ha => (hsync ha).trans (h.stageCodeOf_eq hget).symm⟩

end Quiet

/-- A call that touches neither work items nor runs, nor what they refer to; new
versions may be added. -/
structure KeepsRuntime (s s' : State) : Prop where
  pipelines : s'.pipelines = s.pipelines
  stages : s'.stages = s.stages
  runs : s'.runs = s.runs
  workItems : s'.workItems = s.workItems
  versions : ∀ id v, s.versions.get? id = some v → s'.versions.get? id = some v

theorem KeepsRuntime.refl (s : State) : KeepsRuntime s s := ⟨rfl, rfl, rfl, rfl, fun _ _ hv => hv⟩

theorem KeepsRuntime.trans {s s₁ s' : State} (h : KeepsRuntime s s₁) (h' : KeepsRuntime s₁ s') :
    KeepsRuntime s s' :=
  ⟨h'.pipelines.trans h.pipelines, h'.stages.trans h.stages, h'.runs.trans h.runs, h'.workItems.trans h.workItems,
    fun id v hv => h'.versions id v (h.versions id v hv)⟩

theorem KeepsRuntime.quiet {s s' : State} (h : KeepsRuntime s s') : Quiet s s' := by
  refine ⟨h.pipelines, h.stages, h.runs, h.versions, fun id i hi => ⟨i, ?_, rfl, rfl, rfl⟩, fun id i hi => ?_⟩
  · rw [h.workItems]
    exact hi
  · rw [h.workItems] at hi
    exact .inr ⟨i, hi⟩

theorem quiet_modifyItem {s : State} {workItemId : ℕ} {f : WorkItem → WorkItem}
    (hf : ∀ i, (f i).tenantId = i.tenantId ∧ (f i).pipelineId = i.pipelineId ∧ (f i).stageId = i.stageId) :
    Quiet s (s.modifyItem workItemId f) := by
  refine ⟨rfl, rfl, rfl, fun _ _ h => h, fun id i hi => ?_, fun id i' hi' => ?_⟩
  · by_cases hid : id = workItemId
    · subst hid
      exact ⟨f i, by rw [State.modifyItem, Table.get?_modify_self, hi, Option.map_some], hf i⟩
    · exact ⟨i, by rw [State.modifyItem, Table.get?_modify_of_ne _ hid]; exact hi, rfl, rfl, rfl⟩
  · rw [State.modifyItem, Table.get?_modify] at hi'
    split at hi'
    · obtain ⟨i, hi, -⟩ := Option.map_eq_some_iff.1 hi'
      exact .inr ⟨i, hi⟩
    · exact .inr ⟨i', hi'⟩

/-! A run starts and ends. -/

theorem getActiveRunOrRaise_ok {tenantId runId : ℕ} {s : State} {run : ProcessRun}
    (h : getActiveRunOrRaise tenantId runId s = .ok run) : run ∈ s.runs ∧ run.runState = .active := by
  simp only [getActiveRunOrRaise, bind_eq_ok, orRaise_eq_ok, raiseIf_eq_ok, pure_eq_ok, not_not] at h
  obtain ⟨r, hr, -, hact, rfl⟩ := h
  exact ⟨List.mem_of_find?_eq_some hr, hact⟩

section ModifyRun

variable {s : State} {run : ProcessRun} {f : ProcessRun → ProcessRun}

/-- The rows an update of a run changes are that run's. -/
theorem mem_modifyRun (h : (s.runs.map (·.id)).Nodup) (hrun : run ∈ s.runs) {r' : ProcessRun} :
    r' ∈ (s.modifyRun run f).runs ↔ r' = f run ∨ (r' ∈ s.runs ∧ r' ≠ run) := by
  have hsame : ∀ r ∈ s.runs, r.id = run.id → r = run := by
    intro r hr hid
    have h1 := runById_of_mem h hr
    rw [hid, runById_of_mem h hrun] at h1
    exact (Option.some.inj h1).symm
  simp only [State.modifyRun, List.mem_map]
  constructor
  · rintro ⟨r, hr, rfl⟩
    split
    · rename_i hid
      exact .inl (by rw [hsame r hr hid.1])
    · rename_i hid
      refine .inr ⟨hr, ?_⟩
      rintro rfl
      exact hid ⟨rfl, rfl⟩
  · rintro (rfl | ⟨hr, hne⟩)
    · exact ⟨run, hrun, if_pos ⟨rfl, rfl⟩⟩
    · exact ⟨r', hr, if_neg fun hid => hne (hsame r' hr hid.1)⟩

theorem ids_modifyRun (hf : ∀ r, (f r).id = r.id) : (s.modifyRun run f).runs.map (·.id) = s.runs.map (·.id) := by
  simp only [State.modifyRun, List.map_map]
  refine List.map_congr_left fun r _ => ?_
  simp only [Function.comp_apply]
  split
  · exact hf r
  · rfl

theorem runById_modifyRun (h : (s.runs.map (·.id)).Nodup) (hrun : run ∈ s.runs) (hf : ∀ r, (f r).id = r.id) (runId : ℕ) :
    runById (s.modifyRun run f) runId = if runId = run.id then some (f run) else runById s runId := by
  have hnd : ((s.modifyRun run f).runs.map (·.id)).Nodup := by
    rw [ids_modifyRun hf]
    exact h
  split
  · rename_i hid
    rw [hid, ← hf run]
    exact runById_of_mem hnd ((mem_modifyRun h hrun).2 (.inl rfl))
  · rename_i hid
    cases hr : runById s runId with
    | none =>
      rw [runById_eq_none] at hr ⊢
      intro r hr'
      rcases (mem_modifyRun h hrun).1 hr' with rfl | ⟨hmem, -⟩
      · rw [hf]
        exact Ne.symm hid
      · exact hr r hmem
    | some r =>
      obtain ⟨hmem, rfl⟩ := mem_of_runById hr
      refine runById_of_mem hnd ((mem_modifyRun h hrun).2 (.inr ⟨hmem, ?_⟩))
      rintro rfl
      exact hid rfl

end ModifyRun

/-- Ending an active run keeps the invariant and ends its episode. -/
theorem finish_ok {s : State} (h : Inv s) {run : ProcessRun} (hrun : run ∈ s.runs) (hact : run.runState = .active)
    {state : ProcessRunState} (hst : state ≠ .active) (reason : Option String) :
    Inv (s.modifyRun run (ProcessRun.finish state reason)) ∧
      StepOk s (s.modifyRun run (ProcessRun.finish state reason)) := by
  have hid : ∀ r, (ProcessRun.finish state reason r).id = r.id := fun _ => rfl
  have hover : (ProcessRun.finish state reason run).runState ≠ .active := hst
  refine ⟨⟨fun id i hi => ⟨(h.items id i hi).pipeline, (h.items id i hi).stage⟩, fun r hr => ?_,
    by rw [ids_modifyRun hid]; exact h.ids, fun r hr r' hr' ha ha' hw => ?_⟩, fun runId => ?_⟩
  · rcases (mem_modifyRun h.ids hrun).1 hr with rfl | ⟨hmem, -⟩
    · obtain ⟨hitem, hversion, -⟩ := h.runs run hrun
      exact ⟨hitem, hversion, fun ha => absurd ha hst⟩
    · obtain ⟨hitem, hversion, hsync⟩ := h.runs r hmem
      exact ⟨hitem, hversion, hsync⟩
  · rcases (mem_modifyRun h.ids hrun).1 hr with rfl | ⟨hmem, -⟩
    · exact absurd ha hst
    · rcases (mem_modifyRun h.ids hrun).1 hr' with rfl | ⟨hmem', -⟩
      · exact absurd ha' hst
      · exact h.oneActive r hmem r' hmem' ha ha' hw
  · unfold pinnedEdges phaseOf
    rw [runById_modifyRun h.ids hrun hid]
    split
    · rename_i he
      rw [he, runById_of_mem h.ids hrun]
      refine ⟨List.Subset.refl _, ?_⟩
      simp only [hact, if_true]
      rw [if_neg hover]
      exact .finish _
    · refine ⟨List.Subset.refl _, moves_refl _ _⟩

theorem insertRun_ok {run : ProcessRun} {s s' : State} (h : insertRun run s = .ok s') :
    s' = { s with runs := s.runs ++ [run] } ∧ (∀ r ∈ s.runs, r.id ≠ run.id) ∧
      ∀ r ∈ s.runs, r.runState = .active → r.workItemId ≠ run.workItemId := by
  simp only [insertRun, bind_eq_ok, raiseIf_eq_ok, pure_eq_ok, not_exists, not_and, not_or] at h
  obtain ⟨-, hfresh, rfl⟩ := h
  exact ⟨rfl, fun r hr => (hfresh r hr).1, fun r hr ha hw => (hfresh r hr).2 hw ha⟩

/-- A run that starts in step with its work item. -/
theorem start_ok {s s' : State} (h : Inv s) {run : ProcessRun} (hins : insertRun run s = .ok s')
    (hok : RunOk s run) (hact : run.runState = .active) : Inv s' ∧ StepOk s s' := by
  obtain ⟨rfl, hfresh, hfree⟩ := insertRun_ok hins
  refine ⟨⟨fun id i hi => ⟨(h.items id i hi).pipeline, (h.items id i hi).stage⟩, fun r hr => ?_, ?_,
    fun r hr r' hr' ha ha' hw => ?_⟩, fun runId => ?_⟩
  · rcases List.mem_append.1 hr with hr | hr
    · obtain ⟨hitem, hversion, hsync⟩ := h.runs r hr
      exact ⟨hitem, hversion, hsync⟩
    · obtain rfl := List.mem_singleton.1 hr
      exact ⟨hok.item, hok.version, hok.synced⟩
  · rw [List.map_append, List.nodup_append]
    refine ⟨h.ids, List.nodup_singleton _, ?_⟩
    rintro a ha b hb rfl
    obtain ⟨r, hr, hid⟩ := List.mem_map.1 ha
    exact hfresh r hr (hid.trans (List.mem_singleton.1 hb))
  · rcases List.mem_append.1 hr with hold | hnew <;> rcases List.mem_append.1 hr' with hold' | hnew'
    · exact h.oneActive r hold r' hold' ha ha' hw
    · rw [List.mem_singleton.1 hnew'] at hw
      exact absurd hw (hfree r hold ha)
    · rw [List.mem_singleton.1 hnew] at hw
      exact absurd hw.symm (hfree r' hold' ha')
    · rw [List.mem_singleton.1 hnew, List.mem_singleton.1 hnew']
  · unfold pinnedEdges phaseOf runById
    rw [List.find?_append]
    cases hr : s.runs.find? fun r => decide (r.id = runId) with
    | some r => exact ⟨List.Subset.refl _, moves_refl _ _⟩
    | none =>
      rw [Option.none_or, List.find?_singleton]
      by_cases hid : run.id = runId
      · simp only [hid, decide_true, if_true, Option.map_none, Option.getD_none, hact]
        exact ⟨List.nil_subset _, .begin _⟩
      · simp only [hid, decide_false, Bool.false_eq_true, if_false]
        exact ⟨List.Subset.refl _, moves_refl _ _⟩

theorem startRun_ok {tenantId runId workItemId configurationId : ℕ} {automation : LeadAutomation} {s s' : State}
    (h : Inv s) (hs : startRun tenantId runId workItemId configurationId automation s = .ok s') :
    Inv s' ∧ StepOk s s' := by
  simp only [startRun, startConfiguration, startWorkItem, bind_eq_ok, orRaise_eq_ok, raiseIf_eq_ok, pure_eq_ok] at hs
  obtain ⟨-, ⟨config, -, -, -, versionId, -, -, hversion, rfl⟩, item, ⟨i, hi, -, -, rfl⟩, -, -, s₁, hins, -, -, rfl⟩ := hs
  obtain ⟨hget, ht, hcode⟩ := oldStageCode_eq h hi
  refine start_ok h hins ⟨⟨i, hget, ht⟩, ?_, fun _ => hcode⟩ rfl
  obtain ⟨v, hv⟩ := Option.ne_none_iff_exists'.1 hversion
  rw [getDefinitionVersionForConfiguration, Option.filter_eq_some_iff, getDefinitionVersion,
    Option.filter_eq_some_iff] at hv
  exact ⟨v, hv.1.1⟩

/-! A work item changes its stage. -/

/-- What every writer plans: a stage of the item's pipeline, and the code it leaves. -/
structure PlanOk (s : State) (tenantId : ℕ) (item : WorkItem) (c : StageChange) : Prop where
  stage : s.stages.get? c.stageId = some c.stage
  pipeline : c.stage.pipelineId = item.pipelineId
  old : c.fromStageCode = oldStageCode s tenantId item

section Plans

variable {s : State} {tenantId : ℕ} {item : WorkItem} {change : Option StageChange}

theorem requestedStage_ok {stageId : ℕ} {g : PipelineStage} (h : requestedStage s tenantId item stageId = .ok g) :
    s.stages.get? stageId = some g ∧ g.pipelineId = item.pipelineId := by
  rw [requestedStage, orRaise_eq_ok, Option.filter_eq_some_iff, getStage, Option.filter_eq_some_iff] at h
  exact ⟨h.1.1, by simpa using h.2⟩

theorem getStageByCode_ok {pipelineId : ℕ} {code : String} {r : ℕ × PipelineStage}
    (h : getStageByCode s tenantId pipelineId code = some r) :
    s.stages.get? r.1 = some r.2 ∧ r.2.pipelineId = pipelineId := by
  have hp := List.find?_some h
  simp only [decide_eq_true_eq] at hp
  exact ⟨Table.mem_rows.1 (List.mem_of_find?_eq_some h), hp.1⟩

theorem planUpdate_ok {stageId : Option ℕ} (h : planUpdate s tenantId item stageId = .ok change) :
    ∀ c ∈ change, PlanOk s tenantId item c := by
  intro c hc
  cases stageId with
  | none =>
    obtain rfl := pure_eq_ok.1 h
    cases hc
  | some stageId =>
    simp only [planUpdate, bind_eq_ok] at h
    obtain ⟨g, hg, h⟩ := h
    obtain ⟨hget, hp⟩ := requestedStage_ok hg
    split at h <;> rw [pure_eq_ok] at h <;> subst h <;> cases hc
    exact ⟨hget, hp, rfl⟩

theorem planMoveStage_ok {stageId : ℕ} (h : planMoveStage s tenantId item stageId = .ok change) :
    ∀ c ∈ change, PlanOk s tenantId item c := by
  intro c hc
  simp only [planMoveStage, bind_eq_ok] at h
  obtain ⟨g, hg, h⟩ := h
  obtain ⟨hget, hp⟩ := requestedStage_ok hg
  split at h <;> rw [pure_eq_ok] at h <;> subst h <;> cases hc
  exact ⟨hget, hp, rfl⟩

theorem planClose_ok (h : planClose s tenantId item = .ok change) : ∀ c ∈ change, PlanOk s tenantId item c := by
  intro c hc
  simp only [planClose, bind_eq_ok, orRaise_eq_ok, pure_eq_ok] at h
  obtain ⟨⟨stageId, g⟩, hg, rfl⟩ := h
  obtain ⟨hget, hp⟩ := getStageByCode_ok hg
  cases hc
  exact ⟨hget, hp, rfl⟩

theorem planReopen_ok (h : planReopen s tenantId item = .ok change) : ∀ c ∈ change, PlanOk s tenantId item c := by
  intro c hc
  simp only [planReopen, bind_eq_ok, raiseIf_eq_ok, orRaise_eq_ok, pure_eq_ok] at h
  obtain ⟨-, -, ⟨stageId, g⟩, hg, rfl⟩ := h
  obtain ⟨hget, hp⟩ := getStageByCode_ok hg
  cases hc
  exact ⟨hget, hp, rfl⟩

end Plans

/-- Everything the guard can answer when it allows a transition. -/
theorem assertTransitionAllowed_cases {s : State} {tenantId workItemId : ℕ} {item : WorkItem}
    {old new : Option String} {result : TransitionGuardResult}
    (h : assertTransitionAllowed s tenantId workItemId item old new = .ok result) :
    ∃ a b, old = some a ∧ new = some b ∧
      ((a = b ∧ result = ⟨false, true, none, none⟩) ∨
        (getActiveRunForWorkItem s tenantId workItemId = none ∧ result = ⟨false, false, none, none⟩) ∨
        ∃ run v, getActiveRunForWorkItem s tenantId workItemId = some run ∧
          s.versions.get? run.definitionVersionId = some v ∧ (a, b) ∈ v.policySnapshot.edges ∧
          result = ⟨true, false, some run, some v⟩) := by
  unfold assertTransitionAllowed at h
  split at h
  · rename_i a b
    refine ⟨a, b, rfl, rfl, ?_⟩
    split at h
    · rename_i hab
      exact .inl ⟨hab, (pure_eq_ok.1 h).symm⟩
    · split at h
      · rename_i hnone
        exact .inr (.inl ⟨hnone, (pure_eq_ok.1 h).symm⟩)
      · rename_i run hrun
        simp only [assertPinnedPolicy, bind_eq_ok, orRaise_eq_ok, raiseIf_eq_ok, mapError_eq_ok, pure_eq_ok,
          not_not] at h
        obtain ⟨v, hv, -, -, -, -, policy, hpolicy, -, hedge, rfl⟩ := h
        rw [getDefinitionVersion, Option.filter_eq_some_iff] at hv
        rw [edges_parsePolicySnapshot hpolicy] at hedge
        exact .inr (.inr ⟨run, v, hrun, hv.1, hedge, rfl⟩)
  · cases h

section Change

variable {s : State} {tenantId workItemId : ℕ} {item : WorkItem} {c : StageChange}

theorem stageCodeOf_moved (hget : s.workItems.get? workItemId = some item) (hc : PlanOk s tenantId item c) (id : ℕ) :
    stageCodeOf (s.modifyItem workItemId c.apply) id =
      if id = workItemId then some c.stage.code else stageCodeOf s id := by
  unfold stageCodeOf State.modifyItem
  rw [Table.get?_modify]
  split
  · rename_i hid
    rw [hid, hget, Option.map_some, Option.bind_some]
    show (s.stages.get? c.stageId).map _ = _
    rw [hc.stage]
    rfl
  · rfl

theorem items_moved (h : Inv s) (hget : s.workItems.get? workItemId = some item) (hc : PlanOk s tenantId item c) :
    ∀ id i, (s.modifyItem workItemId c.apply).workItems.get? id = some i → ItemOk s i := by
  intro id i hi
  rw [State.modifyItem, Table.get?_modify] at hi
  split at hi
  · rename_i hid
    rw [hid, hget, Option.map_some, Option.some.injEq] at hi
    subst hi
    exact ⟨(h.items _ item hget).pipeline, c.stage, hc.stage, hc.pipeline⟩
  · exact h.items id i hi

/-- Each run's item is still there, and its tenant's. -/
theorem run_item_moved (h : Inv s) {r : ProcessRun} (hr : r ∈ s.runs) :
    ∃ i, (s.modifyItem workItemId c.apply).workItems.get? r.workItemId = some i ∧ i.tenantId = r.tenantId := by
  obtain ⟨i, hi, ht⟩ := (h.runs r hr).item
  rw [State.modifyItem, Table.get?_modify]
  split
  · exact ⟨c.apply i, by rw [hi]; rfl, ht⟩
  · exact ⟨i, hi, ht⟩

/-- A change of stage with no active run on the item, or to a stage of the same code. -/
theorem change_unwatched (h : Inv s) (hget : s.workItems.get? workItemId = some item)
    (hc : PlanOk s tenantId item c)
    (hfree : ∀ r ∈ s.runs, r.runState = .active → r.workItemId = workItemId →
      stageCodeOf s workItemId = some c.stage.code) :
    Inv (s.modifyItem workItemId c.apply) ∧ SameRuns s (s.modifyItem workItemId c.apply) := by
  have hcode : ∀ r ∈ s.runs, r.runState = .active →
      stageCodeOf (s.modifyItem workItemId c.apply) r.workItemId = stageCodeOf s r.workItemId := by
    intro r hr ha
    rw [stageCodeOf_moved hget hc]
    split
    · rename_i hid
      rw [hid]
      exact (hfree r hr ha hid).symm
    · rfl
  refine ⟨⟨fun id i hi => ?_, fun r hr => ?_, h.ids, h.oneActive⟩, fun runId => ⟨rfl, ?_⟩⟩
  · obtain ⟨hp, hg⟩ := items_moved h hget hc id i hi
    exact ⟨hp, hg⟩
  · exact ⟨run_item_moved h hr, (h.runs r hr).version, fun ha => ((h.runs r hr).synced ha).trans (hcode r hr ha).symm⟩
  · show (match runById s runId with | none => _ | some r => _) = _
    unfold phaseOf
    cases hr : runById s runId with
    | none => rfl
    | some r =>
      obtain ⟨hmem, -⟩ := mem_of_runById hr
      simp only
      split
      · rename_i ha
        rw [hcode r hmem ha]
      · rfl

/-- A change of stage the pinned policy allows, recorded on the run. -/
theorem change_watched (h : Inv s) (hget : s.workItems.get? workItemId = some item)
    (hc : PlanOk s tenantId item c) {run : ProcessRun} {v : ProcessDefinitionVersion} (hrun : run ∈ s.runs)
    (hact : run.runState = .active) (hitem : run.workItemId = workItemId)
    (hv : s.versions.get? run.definitionVersionId = some v) {a : String} (ha : stageCodeOf s workItemId = some a)
    (hedge : (a, c.stage.code) ∈ v.policySnapshot.edges) :
    Inv ((s.modifyItem workItemId c.apply).modifyRun run (ProcessRun.setStageCode c.stage.code)) ∧
      StepOk s ((s.modifyItem workItemId c.apply).modifyRun run (ProcessRun.setStageCode c.stage.code)) := by
  have hid : ∀ r, (ProcessRun.setStageCode c.stage.code r).id = r.id := fun _ => rfl
  -- the updates of the item and of the run touch different tables
  have hrows : ∀ r', r' ∈ ((s.modifyItem workItemId c.apply).modifyRun run
      (ProcessRun.setStageCode c.stage.code)).runs ↔ r' = run.setStageCode c.stage.code ∨ (r' ∈ s.runs ∧ r' ≠ run) :=
    fun r' => mem_modifyRun (s := s) h.ids hrun
  have hby : ∀ runId, runById ((s.modifyItem workItemId c.apply).modifyRun run
      (ProcessRun.setStageCode c.stage.code)) runId =
      if runId = run.id then some (run.setStageCode c.stage.code) else runById s runId :=
    fun runId => runById_modifyRun (s := s) h.ids hrun hid runId
  have hitem_ok : ∃ i, (s.modifyItem workItemId c.apply).workItems.get? run.workItemId = some i ∧
      i.tenantId = run.tenantId := run_item_moved h hrun
  have hcode := stageCodeOf_moved hget hc
  have hother : ∀ r ∈ s.runs, r.runState = .active → r ≠ run →
      stageCodeOf (s.modifyItem workItemId c.apply) r.workItemId = stageCodeOf s r.workItemId := by
    intro r hr hra hne
    rw [hcode, if_neg]
    exact fun hw => hne (h.oneActive r hr run hrun hra hact (hw.trans hitem.symm))
  refine ⟨⟨fun id i hi => ?_, fun r hr => ?_, ?_, fun r hr r' hr' ha ha' hw => ?_⟩, fun runId => ?_⟩
  · obtain ⟨hp, hg⟩ := items_moved h hget hc id i hi
    exact ⟨hp, hg⟩
  · rcases (hrows r).1 hr with rfl | ⟨hmem, hne⟩
    · refine ⟨hitem_ok, (h.runs run hrun).version, fun _ => ?_⟩
      show some c.stage.code = stageCodeOf (s.modifyItem workItemId c.apply) run.workItemId
      rw [hcode, if_pos hitem]
    · exact ⟨run_item_moved h hmem, (h.runs r hmem).version,
        fun hra => ((h.runs r hmem).synced hra).trans (hother r hmem hra hne).symm⟩
  · have hids : ((s.modifyRun run (ProcessRun.setStageCode c.stage.code)).runs.map (·.id)).Nodup := by
      rw [ids_modifyRun hid]
      exact h.ids
    exact hids
  · rcases (hrows r).1 hr with rfl | ⟨hmem, hne⟩ <;> rcases (hrows r').1 hr' with rfl | ⟨hmem', hne'⟩
    · rfl
    · exact absurd (h.oneActive run hrun r' hmem' hact ha' hw).symm hne'
    · exact absurd (h.oneActive r hmem run hrun ha hact hw) hne
    · exact h.oneActive r hmem r' hmem' ha ha' hw
  · unfold pinnedEdges phaseOf
    rw [hby]
    split
    · rename_i he
      rw [he, runById_of_mem h.ids hrun]
      refine ⟨List.Subset.refl _, ?_⟩
      have hnow : stageCodeOf ((s.modifyItem workItemId c.apply).modifyRun run
          (ProcessRun.setStageCode c.stage.code)) workItemId = some c.stage.code :=
        (hcode workItemId).trans (if_pos rfl)
      have hstate : (run.setStageCode c.stage.code).runState = .active := hact
      have hwork : (run.setStageCode c.stage.code).workItemId = run.workItemId := rfl
      simp only [hact, hstate, hwork, if_true, hitem, ha, hnow]
      refine .along ⟨(a, c.stage.code), ?_, rfl, rfl⟩
      rw [Option.map_some, Option.getD_some, edgesOf, hv]
      exact hedge
    · rename_i he
      cases hr : runById s runId with
      | none => exact ⟨List.Subset.refl _, .wait⟩
      | some r =>
        obtain ⟨hmem, rfl⟩ := mem_of_runById hr
        have hne : r ≠ run := fun hrr => he (by rw [hrr])
        refine ⟨List.Subset.refl _, ?_⟩
        simp only
        split
        · rename_i hra
          have hsame : stageCodeOf ((s.modifyItem workItemId c.apply).modifyRun run
              (ProcessRun.setStageCode c.stage.code)) r.workItemId = stageCodeOf s r.workItemId :=
            hother r hmem hra hne
          rw [hsame]
          exact .stay _
        · exact .rest

/-- A planned change that the guard has allowed. -/
theorem change_ok (h : Inv s) {change : Option StageChange} {result : TransitionGuardResult}
    (hi : getWorkItem s tenantId workItemId = some item) (hplan : ∀ c ∈ change, PlanOk s tenantId item c)
    (hguard : guardChange s tenantId workItemId item change = .ok result) :
    Inv (applyChange s workItemId result change) ∧ StepOk s (applyChange s workItemId result change) := by
  obtain ⟨hget, ht, hold⟩ := oldStageCode_eq h hi
  cases change with
  | none => exact ⟨h, StepOk.refl s⟩
  | some c =>
    have hc := hplan c rfl
    obtain ⟨a, b, ha, hb, hcases⟩ := assertTransitionAllowed_cases hguard
    rw [hc.old, hold] at ha
    obtain rfl := Option.some.inj hb
    rcases hcases with ⟨rfl, rfl⟩ | ⟨hnone, rfl⟩ | ⟨run, v, hrun, hv, hedge, rfl⟩
    · obtain ⟨hinv, hsame⟩ := change_unwatched h hget hc fun _ _ _ _ => ha
      exact ⟨hinv, hsame.stepOk⟩
    · -- an active run on the item would be its tenant's
      have hfree : ∀ r ∈ s.runs, r.runState = .active → r.workItemId = workItemId →
          stageCodeOf s workItemId = some c.stage.code := by
        intro r hr hra hrw
        obtain ⟨i, hgi, hti⟩ := (h.runs r hr).item
        rw [hrw, hget, Option.some.injEq] at hgi
        subst hgi
        have := List.find?_eq_none.1 hnone r hr
        exact absurd (decide_eq_true ⟨hti.symm.trans ht, hrw, hra⟩) this
      obtain ⟨hinv, hsame⟩ := change_unwatched h hget hc hfree
      exact ⟨hinv, hsame.stepOk⟩
    · have hp := List.find?_some hrun
      simp only [decide_eq_true_eq] at hp
      exact change_watched h hget hc (List.mem_of_find?_eq_some hrun) hp.2.2 hp.2.1 hv ha hedge

end Change

/-! Every call. -/

section Calls

variable {s s' : State} {tenantId workItemId : ℕ}

theorem getWorkItemOr404_ok {item : WorkItem} (h : getWorkItemOr404 tenantId workItemId s = .ok item) :
    getWorkItem s tenantId workItemId = some item :=
  orRaise_eq_ok.1 h

theorem quiet_updateDetails {payload : WorkItemUpdate}
    (h : updateDetails tenantId workItemId payload s = .ok s') : Quiet s s' := by
  simp only [updateDetails, bind_eq_ok, raiseIf_eq_ok, pure_eq_ok] at h
  obtain ⟨-, -, -, -, rfl⟩ := h
  exact quiet_modifyItem fun i => ⟨rfl, rfl, rfl⟩

theorem updateWorkItem_ok {payload : WorkItemUpdate} (h : Inv s)
    (hu : updateWorkItem tenantId workItemId payload s = .ok s') : Inv s' ∧ StepOk s s' := by
  simp only [updateWorkItem, bind_eq_ok] at hu
  obtain ⟨item, hi, change, hplan, result, hguard, hdetails⟩ := hu
  obtain ⟨hinv, hstep⟩ := change_ok h (getWorkItemOr404_ok hi) (planUpdate_ok hplan) hguard
  have hquiet := quiet_updateDetails hdetails
  exact ⟨hquiet.inv hinv, hstep.followed (hquiet.sameRuns hinv)⟩

theorem moveStage_ok {stageId : ℕ} (h : Inv s) (hm : moveStage tenantId workItemId stageId s = .ok s') :
    Inv s' ∧ StepOk s s' := by
  simp only [moveStage, bind_eq_ok, pure_eq_ok] at hm
  obtain ⟨item, hi, change, hplan, result, hguard, rfl⟩ := hm
  exact change_ok h (getWorkItemOr404_ok hi) (planMoveStage_ok hplan) hguard

theorem closeWorkItem_ok {customFields : CustomFields} (h : Inv s)
    (hc : closeWorkItem tenantId workItemId customFields s = .ok s') : Inv s' ∧ StepOk s s' := by
  simp only [closeWorkItem, bind_eq_ok, pure_eq_ok] at hc
  obtain ⟨item, hi, change, hplan, result, hguard, -, -, rfl⟩ := hc
  exact change_ok h (getWorkItemOr404_ok hi) (planClose_ok hplan) hguard

theorem reopenWorkItem_ok {customFields : CustomFields} (h : Inv s)
    (hr : reopenWorkItem tenantId workItemId customFields s = .ok s') : Inv s' ∧ StepOk s s' := by
  simp only [reopenWorkItem, bind_eq_ok, pure_eq_ok] at hr
  obtain ⟨item, hi, change, hplan, result, hguard, -, -, rfl⟩ := hr
  exact change_ok h (getWorkItemOr404_ok hi) (planReopen_ok hplan) hguard

theorem initialStage_ok {pipelineId stageId : ℕ} {requested : Option ℕ}
    (h : initialStage tenantId s pipelineId requested = .ok stageId) :
    ∃ g, s.stages.get? stageId = some g ∧ g.pipelineId = pipelineId := by
  cases requested with
  | none =>
    rw [initialStage, orRaise_eq_ok, Option.map_eq_some_iff] at h
    obtain ⟨r, hr, rfl⟩ := h
    have hmem := List.mem_filter.1 (List.minOn?_mem hr)
    exact ⟨r.2, Table.mem_rows.1 hmem.1, by simpa using hmem.2⟩
  | some id =>
    simp only [initialStage, bind_eq_ok, orRaise_eq_ok, pure_eq_ok] at h
    obtain ⟨g, hg, rfl⟩ := h
    rw [Option.filter_eq_some_iff, getStage, Option.filter_eq_some_iff] at hg
    exact ⟨g, hg.1.1, by simpa using hg.2⟩

theorem quiet_insertWorkItem {payload : WorkItemCreate}
    (h : insertWorkItem tenantId workItemId payload s = .ok s') : Quiet s s' := by
  simp only [insertWorkItem, bind_eq_ok, raiseIf_eq_ok, pure_eq_ok, Option.not_isSome_iff_eq_none] at h
  obtain ⟨-, hpipeline, stageId, hstage, -, -, -, -, -, hnone, -, -, rfl⟩ := h
  refine ⟨rfl, rfl, rfl, fun _ _ hv => hv, fun id i hi => ⟨i, ?_, rfl, rfl, rfl⟩, fun id i' hi' => ?_⟩
  · rw [Table.get?_insert_new _ _ _ hnone, if_neg]
    · exact hi
    · rintro rfl
      rw [hnone] at hi
      cases hi
  · rw [Table.get?_insert_new _ _ _ hnone] at hi'
    split at hi'
    · obtain rfl := Option.some.inj hi'
      exact .inl ⟨Option.isSome_iff_ne_none.2 hpipeline, initialStage_ok hstage⟩
    · exact .inr ⟨i', hi'⟩

theorem createWorkItem_ok {runId : ℕ} {payload : WorkItemCreate} {automation : LeadAutomation} (h : Inv s)
    (hc : createWorkItem tenantId workItemId runId payload automation s = .ok s') : Inv s' ∧ StepOk s s' := by
  simp only [createWorkItem, bind_eq_ok] at hc
  obtain ⟨s₁, h₁, hc⟩ := hc
  have hquiet := quiet_insertWorkItem h₁
  have hinv := hquiet.inv h
  have hsame := hquiet.sameRuns h
  unfold maybeAutoStartProcessRun at hc
  split at hc
  · rw [pure_eq_ok] at hc
    exact hc ▸ ⟨hinv, hsame.stepOk⟩
  · split at hc
    · rw [pure_eq_ok] at hc
      exact hc ▸ ⟨hinv, hsame.stepOk⟩
    · obtain ⟨hinv', hstep⟩ := startRun_ok hinv hc
      exact ⟨hinv', hsame.before hstep⟩

theorem completeRun_ok {runId : ℕ} {reason : Option String} (h : Inv s)
    (hc : completeRun tenantId runId reason s = .ok s') : Inv s' ∧ StepOk s s' := by
  simp only [completeRun, bind_eq_ok, pure_eq_ok] at hc
  obtain ⟨run, hrun, rfl⟩ := hc
  obtain ⟨hmem, hact⟩ := getActiveRunOrRaise_ok hrun
  exact finish_ok h hmem hact (by decide) _

theorem cancelRun_ok {runId : ℕ} {reason : String} (h : Inv s) (hc : cancelRun tenantId runId reason s = .ok s') :
    Inv s' ∧ StepOk s s' := by
  simp only [cancelRun, bind_eq_ok, raiseIf_eq_ok, pure_eq_ok] at hc
  obtain ⟨-, -, run, hrun, rfl⟩ := hc
  obtain ⟨hmem, hact⟩ := getActiveRunOrRaise_ok hrun
  exact finish_ok h hmem hact (by decide) _

theorem keepsRuntime_publish {configurationId versionId : ℕ} {request : PublishDefinitionVersionRequest}
    (h : publishDefinitionVersion tenantId configurationId versionId request s = .ok s') : KeepsRuntime s s' := by
  simp only [publishDefinitionVersion, bind_eq_ok, raiseIf_eq_ok, pure_eq_ok, Option.not_isSome_iff_eq_none] at h
  obtain ⟨-, -, -, -, config, -, templateCode, -, pipeline, -, -, -, -, -, -, hnone, rfl⟩ := h
  refine ⟨rfl, rfl, rfl, rfl, fun id v hv => ?_⟩
  rw [Table.get?_insert_new _ _ _ hnone, if_neg]
  · exact hv
  · rintro rfl
    rw [hnone] at hv
    cases hv

theorem keepsRuntime_modifyConfiguration {configurationId : ℕ}
    {f : TenantProcessConfiguration → TenantProcessConfiguration} :
    KeepsRuntime s (s.modifyConfiguration configurationId f) :=
  ⟨rfl, rfl, rfl, rfl, fun _ _ hv => hv⟩

theorem keepsRuntime_setActive {configurationId versionId : ℕ}
    (h : setActiveDefinitionVersion tenantId configurationId versionId s = .ok s') : KeepsRuntime s s' := by
  simp only [setActiveDefinitionVersion, bind_eq_ok, pure_eq_ok] at h
  obtain ⟨-, -, -, -, -, -, rfl⟩ := h
  exact keepsRuntime_modifyConfiguration

theorem keepsRuntime_activate {configurationId : ℕ}
    (h : activateConfiguration tenantId configurationId s = .ok s') : KeepsRuntime s s' := by
  simp only [activateConfiguration, bind_eq_ok] at h
  obtain ⟨config, -, h⟩ := h
  split at h
  · rw [pure_eq_ok] at h
    exact h ▸ .refl s
  · simp only [bind_eq_ok, pure_eq_ok] at h
    obtain ⟨-, -, rfl⟩ := h
    exact keepsRuntime_modifyConfiguration

theorem keepsRuntime_deactivate {configurationId : ℕ}
    (h : deactivateConfiguration tenantId configurationId s = .ok s') : KeepsRuntime s s' := by
  simp only [deactivateConfiguration, bind_eq_ok] at h
  obtain ⟨config, -, h⟩ := h
  split at h <;> rw [pure_eq_ok] at h
  · exact h ▸ .refl s
  · exact h ▸ keepsRuntime_modifyConfiguration

theorem Quiet.step (hq : Quiet s s') (h : Inv s) : Inv s' ∧ StepOk s s' := ⟨hq.inv h, (hq.sameRuns h).stepOk⟩

end Calls

/-- Every accepted call keeps the invariant and moves watched items along their edges. -/
theorem exec_ok {s s' : State} {op : Op} (h : Inv s) (he : exec s op = .ok s') : Inv s' ∧ StepOk s s' := by
  cases op with
  | createWorkItem tenantId workItemId runId payload automation => exact createWorkItem_ok h he
  | updateWorkItem tenantId workItemId payload => exact updateWorkItem_ok h he
  | moveStage tenantId workItemId stageId => exact moveStage_ok h he
  | closeWorkItem tenantId workItemId customFields => exact closeWorkItem_ok h he
  | reopenWorkItem tenantId workItemId customFields => exact reopenWorkItem_ok h he
  | startRun tenantId runId workItemId configurationId automation => exact startRun_ok h he
  | completeRun tenantId runId reason => exact completeRun_ok h he
  | cancelRun tenantId runId reason => exact cancelRun_ok h he
  | publish tenantId configurationId versionId request => exact (keepsRuntime_publish he).quiet.step h
  | setActive tenantId configurationId versionId => exact (keepsRuntime_setActive he).quiet.step h
  | activate tenantId configurationId => exact (keepsRuntime_activate he).quiet.step h
  | deactivate tenantId configurationId => exact (keepsRuntime_deactivate he).quiet.step h

theorem settle_ok {s : State} (op : Op) (h : Inv s) : Inv (settle exec s op) ∧ StepOk s (settle exec s op) := by
  cases he : exec s op with
  | ok s' => rw [settle_of_ok he]; exact exec_ok h he
  | error e => rw [settle_of_error he]; exact ⟨h, StepOk.refl s⟩

/-- A state before the first work item and the first run. -/
def State.unstarted (s : State) : State := { s with workItems := ∅, runs := [] }

theorem inv_unstarted (s : State) : Inv s.unstarted :=
  ⟨fun _ _ h => (nomatch h), fun _ h => (nomatch h), List.nodup_nil, fun _ h => (nomatch h)⟩

theorem follows (runId : ℕ) :
    Follows exec (phaseOf runId) (fun s => PolicyEdge (pinnedEdges s runId)) Inv where
  keeps := fun s op h => (settle_ok op h).1
  grows := by
    intro s op h x y he
    obtain ⟨e, hmem, hx, hy⟩ := he
    exact ⟨e, ((settle_ok op h).2 runId).1 hmem, hx, hy⟩
  moves := fun s op h => ((settle_ok op h).2 runId).2

/-- Overlay enforcement: after any calls, accepted or refused, from a state without work
items and runs, each active run has the code of the stage its work item is in, and the
stages the item has taken while a run was active are a path in the policy that the
run's version pins. -/
theorem overlay_enforced (s₀ : State) (ops : List Op) :
    ∀ r ∈ (ops.foldl (settle exec) s₀.unstarted).runs,
      (r.runState = .active → r.currentStageCode.isSome ∧
        r.currentStageCode = stageCodeOf (ops.foldl (settle exec) s₀.unstarted) r.workItemId) ∧
      (stagesTaken r.id (trail exec s₀.unstarted ops)).IsChain
        (PolicyEdge (edgesOf (ops.foldl (settle exec) s₀.unstarted) r.definitionVersionId)) := by
  intro r hr
  have hinv := (follows r.id).invariant (inv_unstarted s₀) ops
  refine ⟨fun ha => ?_, ?_⟩
  · have hsync := (hinv.runs r hr).synced ha
    refine ⟨?_, hsync⟩
    obtain ⟨i, hi, -⟩ := (hinv.runs r hr).item
    obtain ⟨-, g, hg, -⟩ := hinv.items _ i hi
    rw [hsync, stageCodeOf_of_get hi, hg]
    rfl
  · have hchain := (follows r.id).chain_values (inv_unstarted s₀) ops
    have hpinned : pinnedEdges (ops.foldl (settle exec) s₀.unstarted) r.id =
        edgesOf (ops.foldl (settle exec) s₀.unstarted) r.definitionVersionId := by
      rw [pinnedEdges, runById_of_mem hinv.ids hr]
      rfl
    rw [hpinned] at hchain
    exact hchain

section Examples

def demoPolicy : PolicySnapshot where
  schemaVersion := 1
  processTemplateCode := "sales"
  pipelineCode := "leads"
  stageCodes := ["new_lead", "qualified"]
  transitions := [⟨"new_lead", "qualified", ⟨[], [], false, [], []⟩⟩]
  moduleRequirements := []
  terminalStageCodes := []

def demoStages : Stages where
  table := ⟨[(1, ⟨1, "new_lead", 1, false⟩), (2, ⟨1, "qualified", 2, false⟩)], by decide⟩
  code_unique := by
    intro i j a b ha hb _ hcode
    have ha' := Table.mem_rows.2 ha
    have hb' := Table.mem_rows.2 hb
    simp only [List.mem_cons, Prod.mk.injEq, List.not_mem_nil, or_false] at ha' hb'
    rcases ha' with ⟨rfl, rfl⟩ | ⟨rfl, rfl⟩ <;> rcases hb' with ⟨rfl, rfl⟩ | ⟨rfl, rfl⟩
    · rfl
    · exact absurd hcode (by decide)
    · exact absurd hcode (by decide)
    · rfl

/-- A pipeline with two stages, its configuration not active yet, and a version. -/
def demoState : State where
  pipelines := ⟨[(1, ⟨1, "leads"⟩)], by decide⟩
  stages := demoStages
  workItems := ∅
  parties := ∅
  templates := ⟨[(1, "sales")], by decide⟩
  configurations := ⟨[(1, ⟨1, 1, 1, .inactive, some 1⟩)], by decide⟩
  versions := ⟨[(1, ⟨1, 1, 1, 1, "leads", ["new_lead", "qualified"], demoPolicy, [], "first"⟩)], by decide⟩
  runs := []
  modules := ⟨∅, ∅, ∅, ∅, ∅, ∅, []⟩

/-- Work item 7 in the stage new_lead, and the configuration active. -/
def demoStarted : State :=
  [Op.createWorkItem 1 7 0 ⟨1, some 1, none, .open_, [], .ok ()⟩ (.ok ()), .activate 1 1].foldl (settle exec)
    demoState.unstarted

theorem inv_demoStarted : Inv demoStarted :=
  (follows 0).invariant (inv_unstarted demoState) _

/-- A run is started on work item 7, which is then moved to qualified. -/
def demoMove : List Op :=
  [.createWorkItem 1 7 0 ⟨1, some 1, none, .open_, [], .ok ()⟩ (.ok ()), .activate 1 1, .startRun 1 9 7 1 (.ok ()),
    .moveStage 1 7 2]

/-- The theorem at that run. -/
theorem overlay_enforced_move : ∃ r ∈ (demoMove.foldl (settle exec) demoState.unstarted).runs,
    r.currentStageCode = some "qualified" ∧
    r.currentStageCode = stageCodeOf (demoMove.foldl (settle exec) demoState.unstarted) 7 ∧
    ([some "new_lead", some "qualified"] : List (Option String)).IsChain (PolicyEdge demoPolicy.edges) := by
  let run : ProcessRun := ⟨9, 1, 1, 1, 7, .active, none, some "qualified"⟩
  have hrun : run ∈ (demoMove.foldl (settle exec) demoState.unstarted).runs := by decide
  have htaken : stagesTaken 9 (trail exec demoState.unstarted demoMove) = [some "new_lead", some "qualified"] := by
    decide
  have hedges : edgesOf (demoMove.foldl (settle exec) demoState.unstarted) 1 = demoPolicy.edges := by
    decide
  obtain ⟨hsync, hchain⟩ := overlay_enforced demoState demoMove run hrun
  rw [show run.id = 9 from rfl, show run.definitionVersionId = 1 from rfl, htaken, hedges] at hchain
  exact ⟨run, hrun, rfl, (hsync rfl).2, hchain⟩

end Examples

end CoreOps.Overlay
