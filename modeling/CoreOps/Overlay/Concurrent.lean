import CoreOps.Lib.Serial
import CoreOps.Overlay.Enforcement

/-! The overlay as its transactions interleave under READ COMMITTED. A writer of a
stage locks its work item before it plans, and the active run before it checks the
policy; `start_run` reads the work item without a lock, and meets its row lock only
when it inserts the run, through the foreign key. Pipelines, stages, configurations
and versions are never written here, so the statements that read them are one step. -/

namespace CoreOps.Overlay

open Checked ReadCommitted

/-- Rows that are locked; `activeRun` is the entry of the partial unique index that
allows one active run per work item. -/
inductive Row
  | workItem (id : ℕ)
  | run (id : ℕ)
  | activeRun (workItemId : ℕ)
  | version (id : ℕ)
  deriving DecidableEq, Repr

inductive Write
  | changeStage (workItemId : ℕ) (result : TransitionGuardResult) (change : StageChange)
  | updateDetails (workItemId : ℕ) (payload : WorkItemUpdate)
  | insertRun (run : ProcessRun)

def applyWrite (s : State) : Write → State
  | .changeStage workItemId result change => applyChange s workItemId result (some change)
  | .updateDetails workItemId payload => s.modifyItem workItemId payload.apply
  | .insertRun run => { s with runs := s.runs ++ [run] }

inductive StageCall
  | updateWorkItem (payload : WorkItemUpdate)
  | moveStage (stageId : ℕ)
  | closeWorkItem (customFields : CustomFields)
  | reopenWorkItem (customFields : CustomFields)

structure StageArgs where
  tenantId : ℕ
  workItemId : ℕ
  call : StageCall

structure StartArgs where
  tenantId : ℕ
  runId : ℕ
  workItemId : ℕ
  configurationId : ℕ
  automation : LeadAutomation

/-- `update_work_item` takes the row lock when its payload names a stage; the others always do. -/
def StageCall.locksItem : StageCall → Bool
  | .updateWorkItem payload => payload.stageId.isSome
  | _ => true

def StageCall.plan (s : State) (tenantId : ℕ) (item : WorkItem) :
    StageCall → Except OverlayError (Option StageChange)
  | .updateWorkItem payload => planUpdate s tenantId item payload.stageId
  | .moveStage stageId => planMoveStage s tenantId item stageId
  | .closeWorkItem _ => planClose s tenantId item
  | .reopenWorkItem _ => planReopen s tenantId item

/-- The custom fields a call stores before it sets the stage. -/
def StageCall.customFields : StageCall → CustomFields
  | .closeWorkItem customFields => customFields
  | .reopenWorkItem customFields => customFields
  | _ => .ok ()

/-- Where a transaction stands, with what it has read. -/
inductive Loc
  | readItem (a : StageArgs)
  | guard (a : StageArgs) (item : WorkItem) (change : Option StageChange)
  | flush (a : StageArgs) (change : Option StageChange) (result : TransitionGuardResult)
  | details (a : StageArgs) (payload : WorkItemUpdate)
  | readConfiguration (a : StartArgs)
  | readWorkItem (a : StartArgs) (config : TenantProcessConfiguration) (versionId : ℕ)
  | readActiveRun (a : StartArgs) (versionId : ℕ) (item : WorkItem)
  | insertRun (a : StartArgs) (versionId : ℕ) (item : WorkItem)
  | automation (a : StartArgs)
  | done

/-- The run a `start_run` inserts: its stage code is that of the item as it was read. -/
def StartArgs.run (a : StartArgs) (s : State) (versionId : ℕ) (item : WorkItem) : ProcessRun :=
  newRun a.tenantId a.runId a.configurationId versionId a.workItemId (oldStageCode s a.tenantId item)

/-- The locks of an insert: its two unique keys, and the rows it refers to. -/
def insertLocks (run : ProcessRun) : List (Row × LockMode) :=
  [(.run run.id, .update), (.activeRun run.workItemId, .update), (.workItem run.workItemId, .keyShare),
    (.version run.definitionVersionId, .keyShare)]

/-- The rows a change of stage updates. -/
def changeLocks (workItemId : ℕ) (result : TransitionGuardResult) : List (Row × LockMode) :=
  (.workItem workItemId, .noKeyUpdate) :: result.run.toList.map fun run => (.run run.id, .noKeyUpdate)

def next : Loc → State → Action Row Write Loc
  | .readItem a, s =>
    match getWorkItemOr404 a.tenantId a.workItemId s with
    | .error _ => .rollback none
    | .ok item =>
      match a.call.plan s a.tenantId item with
      | .error _ => .rollback none
      | .ok change =>
        .exec (if a.call.locksItem then [(.workItem a.workItemId, .update)] else []) [] (.guard a item change)
  | .guard a item change, s =>
    match guardChange s a.tenantId a.workItemId item change with
    | .error _ => .rollback none
    | .ok result => .exec (result.run.toList.map fun run => (.run run.id, .update)) [] (.flush a change result)
  | .flush a change result, _ =>
    match a.call.customFields with
    | .error _ => .rollback none
    | .ok _ =>
      .exec (change.toList.flatMap fun _ => changeLocks a.workItemId result)
        (change.toList.map (.changeStage a.workItemId result))
        (match a.call with
          | .updateWorkItem payload => .details a payload
          | _ => .done)
  | .details a payload, s =>
    match updateDetails a.tenantId a.workItemId payload s with
    | .error _ => .rollback none
    | .ok _ => .exec [(.workItem a.workItemId, .noKeyUpdate)] [.updateDetails a.workItemId payload] .done
  | .readConfiguration a, s =>
    match startConfiguration a.tenantId s a.configurationId with
    | .error _ => .rollback none
    | .ok (config, versionId) => .exec [] [] (.readWorkItem a config versionId)
  | .readWorkItem a config versionId, s =>
    match startWorkItem a.tenantId s config a.workItemId with
    | .error _ => .rollback none
    | .ok item => .exec [] [] (.readActiveRun a versionId item)
  | .readActiveRun a versionId item, s =>
    if (getActiveRunForWorkItem s a.tenantId a.workItemId).isSome then .rollback none
    else .exec [] [] (.insertRun a versionId item)
  | .insertRun a versionId item, s =>
    match insertRun (a.run s versionId item) s with
    | .error _ => .rollback none
    | .ok _ => .exec (insertLocks (a.run s versionId item)) [.insertRun (a.run s versionId item)] (.automation a)
  | .automation a, _ =>
    match a.automation with
    | .error _ => .rollback none
    | .ok _ => .exec [] [] .done
  | .done, _ => .commit none

def overlaySystem : System State Write Row Loc := ⟨applyWrite, next⟩

/-- A call, each in a transaction of its own. -/
inductive Request
  | stage (a : StageArgs)
  | startRun (a : StartArgs)

def Request.start : Request → Loc
  | .stage a => .readItem a
  | .startRun a => .readConfiguration a

/-- Requests about to start. -/
def State.concurrently (s : State) (requests : List Request) : World State Write Row Loc :=
  ⟨s, (requests.map Request.start).map .fresh, []⟩

/-- An insert of a run finds its work item in a stage of the code the run was given. -/
def SeesStage : Loc → State → Prop
  | .insertRun a _ item, s => stageCodeOf s a.workItemId = oldStageCode s a.tenantId item
  | _, _ => True

instance : ∀ l s, Decidable (SeesStage l s)
  | .insertRun a _ item, s => inferInstanceAs (Decidable (stageCodeOf s a.workItemId = oldStageCode s a.tenantId item))
  | .readItem .., _ | .guard .., _ | .flush .., _ | .details .., _ | .readConfiguration .., _ | .readWorkItem .., _
  | .readActiveRun .., _ | .automation .., _ | .done, _ => inferInstanceAs (Decidable True)

/-! What a commit leaves alone. -/

section Frames

variable {s s' s'' : State} {workItemId : ℕ}

/-- What no transaction changes. -/
structure Steady (s s' : State) : Prop where
  rest : s' = { s with workItems := s'.workItems, runs := s'.runs }
  place : ∀ id i, s.workItems.get? id = some i →
    ∃ i', s'.workItems.get? id = some i' ∧ i'.tenantId = i.tenantId ∧ i'.pipelineId = i.pipelineId

theorem Steady.refl (s : State) : Steady s s := ⟨rfl, fun _ i hi => ⟨i, hi, rfl, rfl⟩⟩

theorem Steady.trans (h : Steady s s') (h' : Steady s' s'') : Steady s s'' := by
  refine ⟨h'.rest.trans (by rw [h.rest]), fun id i hi => ?_⟩
  obtain ⟨i', hi', ht, hp⟩ := h.place id i hi
  obtain ⟨i'', hi'', ht', hp'⟩ := h'.place id i' hi'
  exact ⟨i'', hi'', ht'.trans ht, hp'.trans hp⟩

theorem steady_modifyItem {f : WorkItem → WorkItem}
    (hf : ∀ i, (f i).tenantId = i.tenantId ∧ (f i).pipelineId = i.pipelineId) : Steady s (s.modifyItem workItemId f) := by
  refine ⟨rfl, fun id i hi => ?_⟩
  rw [State.modifyItem, Table.get?_modify]
  split
  · exact ⟨f i, by rw [hi]; rfl, hf i⟩
  · exact ⟨i, hi, rfl, rfl⟩

theorem recordAppliedTransition_cases (s : State) (result : TransitionGuardResult) (code : String) :
    recordAppliedTransition s result code = s ∨
      ∃ run ∈ result.run, recordAppliedTransition s result code = s.modifyRun run (ProcessRun.setStageCode code) := by
  unfold recordAppliedTransition
  split
  · exact .inr ⟨_, rfl, rfl⟩
  · exact .inl rfl

theorem steady_applyWrite (s : State) (w : Write) : Steady s (applyWrite s w) := by
  cases w with
  | changeStage workItemId result change =>
    have hmoved : Steady s (s.modifyItem workItemId change.apply) := steady_modifyItem fun i => ⟨rfl, rfl⟩
    simp only [applyWrite, applyChange]
    rcases recordAppliedTransition_cases (s.modifyItem workItemId change.apply) result change.stage.code with
      h | ⟨run, -, h⟩
    · rw [h]
      exact hmoved
    · rw [h]
      exact hmoved.trans ⟨rfl, fun _ i hi => ⟨i, hi, rfl, rfl⟩⟩
  | updateDetails workItemId payload => exact steady_modifyItem fun i => ⟨rfl, rfl⟩
  | insertRun run => exact ⟨rfl, fun _ i hi => ⟨i, hi, rfl, rfl⟩⟩

/-- A work item and its runs. -/
structure SameItem (workItemId : ℕ) (s s' : State) : Prop where
  item : s'.workItems.get? workItemId = s.workItems.get? workItemId
  runs : (s'.runs.filter fun r => r.workItemId = workItemId) = s.runs.filter fun r => r.workItemId = workItemId

theorem SameItem.trans (h : SameItem workItemId s s') (h' : SameItem workItemId s' s'') :
    SameItem workItemId s s'' :=
  ⟨h'.item.trans h.item, h'.runs.trans h.runs⟩

/-- The write is about other work items. -/
def Write.Avoids (workItemId : ℕ) : Write → Prop
  | .changeStage id result _ => id ≠ workItemId ∧ ∀ run ∈ result.run, run.workItemId = id
  | .updateDetails id _ => id ≠ workItemId
  | .insertRun run => run.workItemId ≠ workItemId

theorem filter_modifyRun {run : ProcessRun} (f : ProcessRun → ProcessRun)
    (hf : ∀ r, (f r).workItemId = r.workItemId) (hne : run.workItemId ≠ workItemId) :
    ((s.modifyRun run f).runs.filter fun r => r.workItemId = workItemId) =
      s.runs.filter fun r => r.workItemId = workItemId := by
  unfold State.modifyRun
  simp only
  induction s.runs with
  | nil => rfl
  | cons r rs ih =>
    rw [List.map_cons, List.filter_cons, List.filter_cons, ih]
    by_cases hr : r.id = run.id ∧ r.workItemId = run.workItemId
    · have hout : r.workItemId ≠ workItemId := hr.2 ▸ hne
      simp only [if_pos hr, hf, hout, decide_false, Bool.false_eq_true, if_false]
    · rw [if_neg hr]

theorem sameItem_applyWrite (s : State) {w : Write} (h : w.Avoids workItemId) :
    SameItem workItemId s (applyWrite s w) := by
  cases w with
  | changeStage id result change =>
    obtain ⟨hne, hrun⟩ := h
    have hmoved : SameItem workItemId s (s.modifyItem id change.apply) :=
      ⟨Table.get?_modify_of_ne _ (Ne.symm hne) _, rfl⟩
    simp only [applyWrite, applyChange]
    rcases recordAppliedTransition_cases (s.modifyItem id change.apply) result change.stage.code with
      he | ⟨run, hmem, he⟩
    · rw [he]
      exact hmoved
    · rw [he]
      refine hmoved.trans ⟨rfl, filter_modifyRun _ (fun _ => rfl) ?_⟩
      rw [hrun run hmem]
      exact hne
  | updateDetails id payload =>
    have hne : id ≠ workItemId := h
    exact ⟨Table.get?_modify_of_ne _ (Ne.symm hne) _, rfl⟩
  | insertRun run =>
    have hne : run.workItemId ≠ workItemId := h
    exact ⟨rfl, by simp [applyWrite, List.filter_append, hne]⟩

theorem SameItem.getActiveRun_eq (h : SameItem workItemId s s') (tenantId : ℕ) :
    getActiveRunForWorkItem s' tenantId workItemId = getActiveRunForWorkItem s tenantId workItemId := by
  have hfilter : ∀ runs : List ProcessRun,
      (runs.find? fun r => r.tenantId = tenantId ∧ r.workItemId = workItemId ∧ r.runState = .active) =
        (runs.filter fun r => r.workItemId = workItemId).find? fun r => r.tenantId = tenantId ∧ r.runState = .active := by
    intro runs
    rw [List.find?_filter]
    congr 1
    funext r
    simp only [decide_eq_decide, decide_eq_true_eq]
    tauto
  rw [getActiveRunForWorkItem, getActiveRunForWorkItem, hfilter, hfilter, h.runs]

/-- No run in the way of a new one. -/
def Free (s : State) (run : ProcessRun) : Prop :=
  ∀ r ∈ s.runs, r.id ≠ run.id ∧ (r.runState = .active → r.workItemId ≠ run.workItemId)

theorem insertRun_eq_ok {run : ProcessRun} : insertRun run s = .ok s' ↔ Free s run ∧ s' = { s with runs := s.runs ++ [run] } := by
  constructor
  · intro h
    obtain ⟨rfl, hid, hfree⟩ := insertRun_ok h
    exact ⟨fun r hr => ⟨hid r hr, hfree r hr⟩, rfl⟩
  · rintro ⟨hfree, rfl⟩
    simp only [insertRun, bind_eq_ok, raiseIf_eq_ok, pure_eq_ok, not_exists, not_and, not_or]
    exact ⟨⟨⟩, fun r hr => ⟨(hfree r hr).1, fun hw ha => (hfree r hr).2 ha hw⟩, trivial⟩

/-- The write is in no way of a new run that is not committed yet. -/
def Write.Spares (run : ProcessRun) : Write → Prop
  | .changeStage id _ _ => id ≠ run.workItemId
  | .updateDetails _ _ => True
  | .insertRun run' => run'.id ≠ run.id ∧ run'.workItemId ≠ run.workItemId

theorem free_modifyRun {run run' : ProcessRun} {code : String} (h : Free s run) :
    Free (s.modifyRun run' (ProcessRun.setStageCode code)) run := by
  intro r hr
  simp only [State.modifyRun, List.mem_map] at hr
  obtain ⟨x, hx, rfl⟩ := hr
  split
  · exact h x hx
  · exact h x hx

theorem free_applyWrite {run : ProcessRun} {w : Write} (hw : w.Spares run) (h : Free s run) :
    Free (applyWrite s w) run ∧ stageCodeOf (applyWrite s w) run.workItemId = stageCodeOf s run.workItemId := by
  cases w with
  | changeStage id result change =>
    have hne : id ≠ run.workItemId := hw
    have hcode : stageCodeOf (s.modifyItem id change.apply) run.workItemId = stageCodeOf s run.workItemId := by
      rw [stageCodeOf, stageCodeOf, State.modifyItem, Table.get?_modify_of_ne _ (Ne.symm hne)]
    simp only [applyWrite, applyChange]
    rcases recordAppliedTransition_cases (s.modifyItem id change.apply) result change.stage.code with
      he | ⟨run', -, he⟩
    · rw [he]
      exact ⟨h, hcode⟩
    · rw [he]
      exact ⟨free_modifyRun (s := s.modifyItem id change.apply) h, hcode⟩
  | updateDetails id payload =>
    refine ⟨h, ?_⟩
    simp only [stageCodeOf, applyWrite, State.modifyItem, Table.get?_modify]
    split
    · cases s.workItems.get? run.workItemId <;> rfl
    · rfl
  | insertRun run' =>
    obtain ⟨hid, hitem⟩ := hw
    refine ⟨fun r hr => ?_, rfl⟩
    rcases List.mem_append.1 hr with hr | hr
    · exact h r hr
    · obtain rfl := List.mem_singleton.1 hr
      exact ⟨hid, fun _ => hitem⟩

end Frames

/-! Ready transactions. -/

section Ready

/-- The call a transaction makes, run alone. -/
def StageArgs.op : StageArgs → Op
  | ⟨tenantId, workItemId, .updateWorkItem payload⟩ => .updateWorkItem tenantId workItemId payload
  | ⟨tenantId, workItemId, .moveStage stageId⟩ => .moveStage tenantId workItemId stageId
  | ⟨tenantId, workItemId, .closeWorkItem customFields⟩ => .closeWorkItem tenantId workItemId customFields
  | ⟨tenantId, workItemId, .reopenWorkItem customFields⟩ => .reopenWorkItem tenantId workItemId customFields

def StartArgs.op (a : StartArgs) : Op := .startRun a.tenantId a.runId a.workItemId a.configurationId a.automation

/-- The planned change is what the call would plan now. -/
def Planned (s : State) (a : StageArgs) (change : Option StageChange) (item : WorkItem) : Prop :=
  getWorkItem s a.tenantId a.workItemId = some item ∧ a.call.plan s a.tenantId item = .ok change

/-- The guard would allow it now. -/
def Guarded (s : State) (a : StageArgs) (change : Option StageChange) (result : TransitionGuardResult) : Prop :=
  ∃ item, Planned s a change item ∧ guardChange s a.tenantId a.workItemId item change = .ok result

/-- The rest of an update would pass its checks now. -/
def DetailsOk (s : State) (tenantId : ℕ) : StageCall → Prop
  | .updateWorkItem payload => payload.primaryPartyId.all (getParty s tenantId) = true ∧ payload.customFields = .ok ()
  | _ => True

/-- The run could be started now, as the row it is. -/
def Started (s : State) (a : StartArgs) (run : ProcessRun) : Prop :=
  Free s run ∧ ∃ config versionId item, startConfiguration a.tenantId s a.configurationId = .ok (config, versionId) ∧
    startWorkItem a.tenantId s config a.workItemId = .ok item ∧
    run = newRun a.tenantId a.runId a.configurationId versionId a.workItemId (stageCodeOf s a.workItemId)

def StageArgs.Locked (a : StageArgs) (locks : List (Row × LockMode)) : Prop :=
  a.call.locksItem = true → (Row.workItem a.workItemId, LockMode.update) ∈ locks

def StageArgs.changes (a : StageArgs) (change : Option StageChange) (result : TransitionGuardResult) : List Write :=
  change.toList.map (.changeStage a.workItemId result)

def StageArgs.lastWrites (a : StageArgs) : List Write :=
  match a.call with
  | .updateWorkItem payload => [.updateDetails a.workItemId payload]
  | _ => []

/-- What holds of a session between its statements. -/
inductive Ready (s : State) : Session Row Write Loc → Prop
  | ended : Ready s (.closed none)
  | readItem (a : StageArgs) : Ready s (.fresh (.readItem a))
  | guard {a : StageArgs} {item item' : WorkItem} {change : Option StageChange} {locks : List (Row × LockMode)}
      (hplan : Planned s a change item') (hitem : a.call.locksItem = true → item' = item) (hlock : a.Locked locks) :
      Ready s ⟨some (.guard a item change), locks, []⟩
  | flush {a : StageArgs} {change : Option StageChange} {result : TransitionGuardResult}
      {locks : List (Row × LockMode)} (hguard : Guarded s a change result) (hlock : a.Locked locks) :
      Ready s ⟨some (.flush a change result), locks, []⟩
  | details {a : StageArgs} {payload : WorkItemUpdate} {change : Option StageChange} {result : TransitionGuardResult}
      {locks : List (Row × LockMode)} (hcall : a.call = .updateWorkItem payload)
      (hguard : Guarded s a change result) (hlock : a.Locked locks) :
      Ready s ⟨some (.details a payload), locks, a.changes change result⟩
  | staged {a : StageArgs} {change : Option StageChange} {result : TransitionGuardResult}
      {locks : List (Row × LockMode)} (hguard : Guarded s a change result) (hlock : a.Locked locks)
      (hfields : a.call.customFields = .ok ()) (hdetails : DetailsOk s a.tenantId a.call)
      (hlast : a.lastWrites ≠ [] → (Row.workItem a.workItemId, LockMode.noKeyUpdate) ∈ locks) :
      Ready s ⟨some .done, locks, a.changes change result ++ a.lastWrites⟩
  | readConfiguration (a : StartArgs) : Ready s (.fresh (.readConfiguration a))
  | readWorkItem {a : StartArgs} {config : TenantProcessConfiguration} {versionId : ℕ}
      (hconfig : startConfiguration a.tenantId s a.configurationId = .ok (config, versionId)) :
      Ready s ⟨some (.readWorkItem a config versionId), [], []⟩
  | readActiveRun {a : StartArgs} {config : TenantProcessConfiguration} {versionId : ℕ} {item item' : WorkItem}
      (hconfig : startConfiguration a.tenantId s a.configurationId = .ok (config, versionId))
      (hitem : startWorkItem a.tenantId s config a.workItemId = .ok item') :
      Ready s ⟨some (.readActiveRun a versionId item), [], []⟩
  | insertRun {a : StartArgs} {config : TenantProcessConfiguration} {versionId : ℕ} {item item' : WorkItem}
      (hconfig : startConfiguration a.tenantId s a.configurationId = .ok (config, versionId))
      (hitem : startWorkItem a.tenantId s config a.workItemId = .ok item') :
      Ready s ⟨some (.insertRun a versionId item), [], []⟩
  | automation {a : StartArgs} {run : ProcessRun} {locks : List (Row × LockMode)} (hrun : Started s a run)
      (hlock : insertLocks run ⊆ locks) : Ready s ⟨some (.automation a), locks, [.insertRun run]⟩
  | started {a : StartArgs} {run : ProcessRun} {locks : List (Row × LockMode)} (hrun : Started s a run)
      (hlock : insertLocks run ⊆ locks) (hauto : a.automation = .ok ()) : Ready s ⟨some .done, locks, [.insertRun run]⟩

variable {s s' : State}

/-- An update without a stage plans no change. -/
theorem plan_of_not_locks {call : StageCall} (h : call.locksItem = false) (s : State) (tenantId : ℕ) (item : WorkItem) :
    call.plan s tenantId item = .ok none := by
  cases call with
  | updateWorkItem payload =>
    have hnone : payload.stageId = none := by simpa [StageCall.locksItem] using h
    rw [StageCall.plan, hnone]
    rfl
  | moveStage stageId => cases h
  | closeWorkItem customFields => cases h
  | reopenWorkItem customFields => cases h

theorem plan_congr (h : Steady s s') (call : StageCall) (tenantId : ℕ) (item : WorkItem) :
    call.plan s' tenantId item = call.plan s tenantId item := by
  rw [h.rest]
  cases call <;> rfl

theorem guardChange_congr (h : Steady s s') {workItemId : ℕ} (hsame : SameItem workItemId s s') (tenantId : ℕ)
    (item : WorkItem) (change : Option StageChange) :
    guardChange s' tenantId workItemId item change = guardChange s tenantId workItemId item change := by
  cases change with
  | none => rfl
  | some c =>
    have hpinned : ∀ a b run, assertPinnedPolicy s' tenantId item a b run = assertPinnedPolicy s tenantId item a b run := by
      intro a b run
      rw [h.rest]
      rfl
    simp only [guardChange, assertTransitionAllowed, hsame.getActiveRun_eq, hpinned]

theorem Planned.frame {a : StageArgs} {change : Option StageChange} {item : WorkItem} (hp : Planned s a change item)
    (h : Steady s s') (hsame : a.call.locksItem = true → SameItem a.workItemId s s') :
    ∃ item', Planned s' a change item' ∧ (a.call.locksItem = true → item' = item) := by
  obtain ⟨hi, hplan⟩ := hp
  cases hl : a.call.locksItem with
  | true =>
    refine ⟨item, ⟨?_, by rw [plan_congr h]; exact hplan⟩, fun _ => rfl⟩
    rw [getWorkItem, (hsame hl).item]
    exact hi
  | false =>
    rw [plan_of_not_locks hl, Except.ok.injEq] at hplan
    subst hplan
    rw [getWorkItem, Option.filter_eq_some_iff] at hi
    obtain ⟨i', hi', ht, -⟩ := h.place _ _ hi.1
    refine ⟨i', ⟨?_, plan_of_not_locks hl _ _ _⟩, fun hc => absurd hc Bool.false_ne_true⟩
    rw [getWorkItem, Option.filter_eq_some_iff]
    exact ⟨hi', by rw [ht]; exact hi.2⟩

theorem Guarded.frame {a : StageArgs} {change : Option StageChange} {result : TransitionGuardResult}
    (hg : Guarded s a change result) (h : Steady s s') (hsame : a.call.locksItem = true → SameItem a.workItemId s s') :
    Guarded s' a change result := by
  obtain ⟨item, hp, hguard⟩ := hg
  obtain ⟨item', hp', hitem⟩ := hp.frame h hsame
  refine ⟨item', hp', ?_⟩
  cases hl : a.call.locksItem with
  | true =>
    rw [hitem hl, guardChange_congr h (hsame hl)]
    exact hguard
  | false =>
    obtain ⟨-, hplan⟩ := hp
    rw [plan_of_not_locks hl, Except.ok.injEq] at hplan
    subst hplan
    exact hguard

theorem DetailsOk.frame {tenantId : ℕ} {call : StageCall} (hd : DetailsOk s tenantId call) (h : Steady s s') :
    DetailsOk s' tenantId call := by
  cases call with
  | updateWorkItem payload =>
    obtain ⟨hparty, hfields⟩ := hd
    have hsame : getParty s' tenantId = getParty s tenantId := by
      funext id
      rw [h.rest]
      rfl
    exact ⟨by rw [hsame]; exact hparty, hfields⟩
  | moveStage stageId => trivial
  | closeWorkItem customFields => trivial
  | reopenWorkItem customFields => trivial

theorem startConfiguration_congr (h : Steady s s') (tenantId configurationId : ℕ) :
    startConfiguration tenantId s' configurationId = startConfiguration tenantId s configurationId := by
  rw [h.rest]
  rfl

theorem startWorkItem_eq_ok {tenantId workItemId : ℕ} {config : TenantProcessConfiguration} {item : WorkItem} :
    startWorkItem tenantId s config workItemId = .ok item ↔
      s.workItems.get? workItemId = some item ∧ item.tenantId = tenantId ∧ item.pipelineId = config.pipelineId := by
  simp only [startWorkItem, getWorkItem, bind_eq_ok, orRaise_eq_ok, raiseIf_eq_ok, pure_eq_ok, not_not,
    Option.filter_eq_some_iff, decide_eq_true_eq]
  constructor
  · rintro ⟨i, ⟨hi, ht⟩, -, hp, rfl⟩
    exact ⟨hi, ht, hp⟩
  · rintro ⟨hi, ht, hp⟩
    exact ⟨item, ⟨hi, ht⟩, ⟨⟩, hp, rfl⟩

theorem startWorkItem_frame (h : Steady s s') {tenantId workItemId : ℕ} {config : TenantProcessConfiguration}
    {item : WorkItem} (hi : startWorkItem tenantId s config workItemId = .ok item) :
    ∃ item', startWorkItem tenantId s' config workItemId = .ok item' := by
  obtain ⟨hget, ht, hp⟩ := startWorkItem_eq_ok.1 hi
  obtain ⟨i', hi', ht', hp'⟩ := h.place _ _ hget
  exact ⟨i', startWorkItem_eq_ok.2 ⟨hi', ht'.trans ht, hp'.trans hp⟩⟩

theorem Started.frame {a : StartArgs} {run : ProcessRun} (hr : Started s a run) (h : Steady s s')
    (hfree : Free s run → Free s' run ∧ stageCodeOf s' run.workItemId = stageCodeOf s run.workItemId) :
    Started s' a run := by
  obtain ⟨hf, config, versionId, item, hconfig, hitem, rfl⟩ := hr
  obtain ⟨hf', hcode⟩ := hfree hf
  obtain ⟨item', hitem'⟩ := startWorkItem_frame h hitem
  refine ⟨hf', config, versionId, item', by rw [startConfiguration_congr h]; exact hconfig, hitem', ?_⟩
  rw [show stageCodeOf s' a.workItemId = stageCodeOf s a.workItemId from hcode]

/-! The locks of a ready transaction keep the others away from what it relies on. -/

/-- The transaction holds the locks of what it has written. -/
def Write.Covered (locks : List (Row × LockMode)) : Write → Prop
  | .changeStage id result _ => (Row.workItem id, LockMode.update) ∈ locks ∧ ∀ run ∈ result.run, run.workItemId = id
  | .updateDetails id _ => (Row.workItem id, LockMode.noKeyUpdate) ∈ locks
  | .insertRun run => insertLocks run ⊆ locks

theorem guardChange_run {tenantId workItemId : ℕ} {item : WorkItem} {change : Option StageChange}
    {result : TransitionGuardResult} (h : guardChange s tenantId workItemId item change = .ok result) :
    ∀ run ∈ result.run, run.workItemId = workItemId := by
  cases change with
  | none =>
    obtain rfl := pure_eq_ok.1 h
    intro run hrun
    cases hrun
  | some c =>
    obtain ⟨a, b, -, -, hcases⟩ := assertTransitionAllowed_cases h
    rcases hcases with ⟨-, rfl⟩ | ⟨-, rfl⟩ | ⟨run, v, hrun, -, -, rfl⟩
    · intro run hrun
      cases hrun
    · intro run hrun
      cases hrun
    · intro run' hrun'
      obtain rfl := Option.some.inj hrun'
      have := List.find?_some hrun
      simp only [decide_eq_true_eq] at this
      exact this.2.1

theorem covered_changes {a : StageArgs} {change : Option StageChange} {result : TransitionGuardResult}
    {locks : List (Row × LockMode)} (hguard : Guarded s a change result) (hlock : a.Locked locks) :
    ∀ w ∈ a.changes change result, w.Covered locks := by
  intro w hw
  obtain ⟨item, ⟨-, hplan⟩, hg⟩ := hguard
  cases change with
  | none => cases hw
  | some c =>
    obtain rfl := List.mem_singleton.1 hw
    refine ⟨hlock ?_, guardChange_run hg⟩
    cases hl : a.call.locksItem with
    | true => rfl
    | false =>
      rw [plan_of_not_locks hl] at hplan
      cases hplan

theorem Ready.covered {x : Session Row Write Loc} (h : Ready s x) : ∀ w ∈ x.writes, w.Covered x.locks := by
  intro w hw
  cases h with
  | details _ hguard hlock => exact covered_changes hguard hlock w hw
  | @staged a change result locks hguard hlock _ _ hlast =>
    rcases List.mem_append.1 hw with hw | hw
    · exact covered_changes hguard hlock w hw
    · have hmem := hlast (List.ne_nil_of_mem hw)
      unfold StageArgs.lastWrites at hw
      split at hw
      · obtain rfl := List.mem_singleton.1 hw
        exact hmem
      · cases hw
  | automation _ hlock =>
    obtain rfl := List.mem_singleton.1 hw
    exact hlock
  | started _ hlock _ =>
    obtain rfl := List.mem_singleton.1 hw
    exact hlock
  | _ => cases hw

variable {x y : Session Row Write Loc}

/-- Nobody else writes to a work item that is locked for update, or to its runs. -/
theorem avoids_of_compatible {w : Write} (hw : w.Covered x.locks) (hc : Compatible x y) {workItemId : ℕ}
    (hy : (Row.workItem workItemId, LockMode.update) ∈ y.locks) : w.Avoids workItemId := by
  cases w with
  | changeStage id result change =>
    obtain ⟨hl, hrun⟩ := hw
    refine ⟨?_, hrun⟩
    rintro rfl
    cases hc.not_both hl hy
  | updateDetails id payload =>
    have hl : (Row.workItem id, LockMode.noKeyUpdate) ∈ x.locks := hw
    show id ≠ workItemId
    rintro rfl
    cases hc.not_both hl hy
  | insertRun run =>
    have hl : (Row.workItem run.workItemId, LockMode.keyShare) ∈ x.locks := hw (by simp [insertLocks])
    show run.workItemId ≠ workItemId
    rintro rfl
    cases hc.not_both hl hy

/-- Nobody else moves the item of a run that is being inserted, or starts another on it. -/
theorem spares_of_compatible {w : Write} (hw : w.Covered x.locks) (hc : Compatible x y) {run : ProcessRun}
    (hy : insertLocks run ⊆ y.locks) : w.Spares run := by
  cases w with
  | changeStage id result change =>
    have hl := hw.1
    have hr : (Row.workItem run.workItemId, LockMode.keyShare) ∈ y.locks := hy (by simp [insertLocks])
    show id ≠ run.workItemId
    rintro rfl
    cases hc.not_both hl hr
  | updateDetails id payload => trivial
  | insertRun run' =>
    have hrun : (Row.run run.id, LockMode.update) ∈ y.locks := hy (by simp [insertLocks])
    have hrun' : (Row.run run'.id, LockMode.update) ∈ x.locks := hw (by simp [insertLocks])
    have hact : (Row.activeRun run.workItemId, LockMode.update) ∈ y.locks := hy (by simp [insertLocks])
    have hact' : (Row.activeRun run'.workItemId, LockMode.update) ∈ x.locks := hw (by simp [insertLocks])
    refine ⟨fun he => ?_, fun he => ?_⟩
    · rw [he] at hrun'
      cases hc.not_both hrun' hrun
    · rw [he] at hact'
      cases hc.not_both hact' hact

/-- The commit of another ready transaction leaves a ready transaction ready. -/
theorem Ready.interfere (hx : Ready s x) (hy : Ready s y) (hc : Compatible x y) :
    Ready (overlaySystem.view s x.writes) y := by
  have hsteady : Steady s (overlaySystem.view s x.writes) :=
    overlaySystem.view_invariant (Steady s) (fun d w _ hd => hd.trans (steady_applyWrite d w)) (Steady.refl s)
  have hsame : ∀ a : StageArgs, a.Locked y.locks → a.call.locksItem = true →
      SameItem a.workItemId s (overlaySystem.view s x.writes) := by
    intro a hlock hl
    refine overlaySystem.view_invariant (SameItem a.workItemId s) (fun d w hw hd => ?_) ⟨rfl, rfl⟩
    exact hd.trans (sameItem_applyWrite d (avoids_of_compatible (hx.covered w hw) hc (hlock hl)))
  have hfree : ∀ run : ProcessRun, insertLocks run ⊆ y.locks → Free s run →
      Free (overlaySystem.view s x.writes) run ∧
        stageCodeOf (overlaySystem.view s x.writes) run.workItemId = stageCodeOf s run.workItemId := by
    intro run hlock hf
    refine overlaySystem.view_invariant (fun d => Free d run ∧ stageCodeOf d run.workItemId = stageCodeOf s run.workItemId)
      (fun d w hw hd => ?_) ⟨hf, rfl⟩
    obtain ⟨hf', hcode⟩ := free_applyWrite (spares_of_compatible (hx.covered w hw) hc hlock) hd.1
    exact ⟨hf', hcode.trans hd.2⟩
  cases hy with
  | ended => exact .ended
  | readItem a => exact .readItem a
  | guard hplan hitem hlock =>
    obtain ⟨item, hplan', hitem'⟩ := hplan.frame hsteady (hsame _ hlock)
    exact .guard hplan' (fun hl => (hitem' hl).trans (hitem hl)) hlock
  | flush hguard hlock => exact .flush (hguard.frame hsteady (hsame _ hlock)) hlock
  | details hcall hguard hlock => exact .details hcall (hguard.frame hsteady (hsame _ hlock)) hlock
  | staged hguard hlock hfields hdetails hlast =>
    exact .staged (hguard.frame hsteady (hsame _ hlock)) hlock hfields (hdetails.frame hsteady) hlast
  | readConfiguration a => exact .readConfiguration a
  | readWorkItem hconfig => exact .readWorkItem (by rw [startConfiguration_congr hsteady]; exact hconfig)
  | readActiveRun hconfig hitem =>
    obtain ⟨item, hitem'⟩ := startWorkItem_frame hsteady hitem
    exact .readActiveRun (by rw [startConfiguration_congr hsteady]; exact hconfig) hitem'
  | insertRun hconfig hitem =>
    obtain ⟨item, hitem'⟩ := startWorkItem_frame hsteady hitem
    exact .insertRun (by rw [startConfiguration_congr hsteady]; exact hconfig) hitem'
  | automation hrun hlock => exact .automation (hrun.frame hsteady (hfree _ hlock)) hlock
  | started hrun hlock hauto => exact .started (hrun.frame hsteady (hfree _ hlock)) hlock hauto

/-! What a ready transaction commits is what its call does. -/

theorem view_changes (s : State) (a : StageArgs) (change : Option StageChange) (result : TransitionGuardResult) :
    overlaySystem.view s (a.changes change result) = applyChange s a.workItemId result change := by
  cases change <;> rfl

theorem steady_applyChange (s : State) (workItemId : ℕ) (result : TransitionGuardResult)
    (change : Option StageChange) : Steady s (applyChange s workItemId result change) := by
  cases change with
  | none => exact Steady.refl s
  | some c => exact steady_applyWrite s (.changeStage workItemId result c)

theorem updateDetails_eq_ok {tenantId workItemId : ℕ} {payload : WorkItemUpdate} :
    updateDetails tenantId workItemId payload s = .ok s' ↔
      DetailsOk s tenantId (.updateWorkItem payload) ∧ s' = s.modifyItem workItemId payload.apply := by
  simp only [updateDetails, bind_eq_ok, raiseIf_eq_ok, pure_eq_ok, not_not, DetailsOk]
  constructor
  · rintro ⟨-, hp, _, hf, rfl⟩
    exact ⟨⟨hp, hf⟩, rfl⟩
  · rintro ⟨⟨hp, hf⟩, rfl⟩
    exact ⟨⟨⟩, hp, ⟨⟩, hf, rfl⟩

theorem exec_stageOp {a : StageArgs} {change : Option StageChange} {result : TransitionGuardResult}
    (hguard : Guarded s a change result) (hfields : a.call.customFields = .ok ())
    (hdetails : DetailsOk s a.tenantId a.call) :
    exec s a.op = .ok (overlaySystem.view s (a.changes change result ++ a.lastWrites)) := by
  obtain ⟨item, ⟨hi, hplan⟩, hg⟩ := hguard
  have hi' : getWorkItemOr404 a.tenantId a.workItemId s = .ok item := orRaise_eq_ok.2 hi
  rw [System.view_append, view_changes]
  obtain ⟨tenantId, workItemId, call⟩ := a
  cases call with
  | updateWorkItem payload =>
    show updateWorkItem tenantId workItemId payload s = _
    simp only [updateWorkItem, bind_eq_ok]
    refine ⟨item, hi', change, hplan, result, hg, updateDetails_eq_ok.2 ⟨?_, rfl⟩⟩
    exact hdetails.frame (steady_applyChange s workItemId result change)
  | moveStage stageId =>
    show moveStage tenantId workItemId stageId s = _
    simp only [moveStage, bind_eq_ok, pure_eq_ok]
    exact ⟨item, hi', change, hplan, result, hg, rfl⟩
  | closeWorkItem customFields =>
    show closeWorkItem tenantId workItemId customFields s = _
    simp only [closeWorkItem, bind_eq_ok, pure_eq_ok]
    exact ⟨item, hi', change, hplan, result, hg, ⟨⟩, hfields, rfl⟩
  | reopenWorkItem customFields =>
    show reopenWorkItem tenantId workItemId customFields s = _
    simp only [reopenWorkItem, bind_eq_ok, pure_eq_ok]
    exact ⟨item, hi', change, hplan, result, hg, ⟨⟩, hfields, rfl⟩

theorem exec_startOp (h : Inv s) {a : StartArgs} {run : ProcessRun} (hrun : Started s a run)
    (hauto : a.automation = .ok ()) : exec s a.op = .ok (overlaySystem.view s [.insertRun run]) := by
  obtain ⟨hfree, config, versionId, item, hconfig, hitem, rfl⟩ := hrun
  obtain ⟨hget, ht, -⟩ := startWorkItem_eq_ok.1 hitem
  have hnone : getActiveRunForWorkItem s a.tenantId a.workItemId = none := by
    refine List.find?_eq_none.2 fun r hr => ?_
    simp only [decide_eq_true_eq, not_and]
    intro _ hw ha
    exact (hfree r hr).2 ha hw
  have hcode : oldStageCode s a.tenantId item = stageCodeOf s a.workItemId :=
    (oldStageCode_eq h (Option.filter_eq_some_iff.2 ⟨hget, by simpa using ht⟩)).2.2
  rw [← hcode] at hfree ⊢
  show startRun a.tenantId a.runId a.workItemId a.configurationId a.automation s = _
  simp only [startRun, bind_eq_ok, raiseIf_eq_ok, pure_eq_ok, hnone, Option.isSome_none, Bool.false_eq_true,
    not_false_eq_true, insertRun_eq_ok]
  exact ⟨_, hconfig, item, hitem, ⟨⟩, trivial, _, ⟨hfree, rfl⟩, ⟨⟩, hauto, rfl⟩

theorem next_rollback {l : Loc} {v : State} {r : Option Loc} (h : next l v = .rollback r) : r = none := by
  revert h
  fun_cases next l v <;> intro h <;> cases h <;> rfl

theorem next_commit {l : Loc} {v : State} {r : Option Loc} (h : next l v = .commit r) : l = .done ∧ r = none := by
  revert h
  fun_cases next l v <;> intro h <;> cases h
  exact ⟨rfl, rfl⟩

/-- A call that only changes the stage has written all it writes. -/
theorem Ready.moved {a : StageArgs} {change : Option StageChange} {result : TransitionGuardResult}
    {locks : List (Row × LockMode)} (hguard : Guarded s a change result) (hlock : a.Locked locks)
    (hfields : a.call.customFields = .ok ()) (hdetails : DetailsOk s a.tenantId a.call) (hlast : a.lastWrites = []) :
    Ready s ⟨some .done, locks, a.changes change result⟩ := by
  have hready := Ready.staged hguard hlock hfields hdetails fun hne => absurd hlast hne
  rw [hlast, List.append_nil] at hready
  exact hready

/-- A statement keeps its transaction ready, as long as an inserted run has the stage
code of its item. -/
theorem Ready.statement (hx : Ready s x) {l l' : Loc} {locks : List (Row × LockMode)}
    {ws : List Write} (hl : x.loc = some l) (hC : SeesStage l (overlaySystem.view s x.writes))
    (hn : next l (overlaySystem.view s x.writes) = .exec locks ws l') :
    Ready s ⟨some l', x.locks ++ locks, x.writes ++ ws⟩ := by
  cases hx with
  | ended => cases hl
  | readItem a =>
    obtain rfl := Option.some.inj hl
    simp only [next, Session.fresh, System.view_nil] at hn
    split at hn
    · cases hn
    · rename_i item hi
      split at hn
      · cases hn
      · rename_i change hplan
        cases hn
        refine .guard ⟨getWorkItemOr404_ok hi, hplan⟩ (fun _ => rfl) fun hlocks => ?_
        simp [hlocks]
  | guard hplan hitem hlock =>
    rename_i a item item' change held
    obtain rfl := Option.some.inj hl
    simp only [next, System.view_nil] at hn
    split at hn
    · cases hn
    · rename_i result hg
      cases hn
      refine .flush ⟨item', hplan, ?_⟩ fun hlocks => List.mem_append_left _ (hlock hlocks)
      cases hlocks : a.call.locksItem with
      | true => rw [hitem hlocks]; exact hg
      | false =>
        obtain ⟨-, hplan⟩ := hplan
        rw [plan_of_not_locks hlocks, Except.ok.injEq] at hplan
        subst hplan
        exact hg
  | flush hguard hlock =>
    rename_i a change result held
    obtain rfl := Option.some.inj hl
    simp only [next] at hn
    split at hn
    · cases hn
    · rename_i hfields
      obtain ⟨tenantId, workItemId, call⟩ := a
      have hlock' : ∀ more, StageArgs.Locked ⟨tenantId, workItemId, call⟩ (held ++ more) :=
        fun more hlocks => List.mem_append_left _ (hlock hlocks)
      cases call with
      | updateWorkItem payload =>
        cases hn
        exact .details rfl hguard (hlock' _)
      | moveStage stageId =>
        cases hn
        exact .moved hguard (hlock' _) hfields trivial rfl
      | closeWorkItem customFields =>
        cases hn
        exact .moved hguard (hlock' _) hfields trivial rfl
      | reopenWorkItem customFields =>
        cases hn
        exact .moved hguard (hlock' _) hfields trivial rfl
  | details hcall hguard hlock =>
    rename_i a payload change result held
    obtain rfl := Option.some.inj hl
    obtain ⟨tenantId, workItemId, call⟩ := a
    obtain rfl : call = .updateWorkItem payload := hcall
    simp only [next, view_changes] at hn
    split at hn
    · cases hn
    · rename_i s₁ hok
      cases hn
      obtain ⟨hdetails, -⟩ := updateDetails_eq_ok.1 hok
      have hdetails' : DetailsOk s tenantId (.updateWorkItem payload) := by
        rw [(steady_applyChange s workItemId result change).rest] at hdetails
        exact hdetails
      exact .staged hguard (fun hlocks => List.mem_append_left _ (hlock hlocks)) rfl hdetails'
        fun _ => List.mem_append_right _ (List.mem_singleton.2 rfl)
  | readConfiguration a =>
    obtain rfl := Option.some.inj hl
    simp only [next, Session.fresh, System.view_nil] at hn
    split at hn
    · cases hn
    · rename_i config versionId hconfig
      cases hn
      exact .readWorkItem hconfig
  | readWorkItem hconfig =>
    obtain rfl := Option.some.inj hl
    simp only [next, System.view_nil] at hn
    split at hn
    · cases hn
    · rename_i item hitem
      cases hn
      exact .readActiveRun hconfig hitem
  | readActiveRun hconfig hitem =>
    obtain rfl := Option.some.inj hl
    simp only [next] at hn
    split at hn
    · cases hn
    · cases hn
      exact .insertRun hconfig hitem
  | insertRun hconfig hitem =>
    rename_i a config versionId item item'
    obtain rfl := Option.some.inj hl
    simp only [next, System.view_nil] at hn
    split at hn
    · cases hn
    · rename_i s₁ hins
      cases hn
      obtain ⟨hfree, -⟩ := insertRun_eq_ok.1 hins
      have hcode : stageCodeOf s a.workItemId = oldStageCode s a.tenantId item := hC
      refine .automation ⟨hfree, config, versionId, item', hconfig, hitem, ?_⟩ (List.Subset.refl _)
      rw [hcode]
      rfl
  | automation hrun hlock =>
    rename_i a run held
    obtain rfl := Option.some.inj hl
    simp only [next] at hn
    split at hn
    · cases hn
    · rename_i hauto
      cases hn
      rw [List.append_nil]
      exact .started hrun hlock hauto
  | staged =>
    obtain rfl := Option.some.inj hl
    cases hn
  | started =>
    obtain rfl := Option.some.inj hl
    cases hn

theorem Ready.commit (h : Inv s) (hx : Ready s x) {l : Loc} {l' : Option Loc} (hl : x.loc = some l)
    (hn : next l (overlaySystem.view s x.writes) = .commit l') :
    (∃ op, exec s op = .ok (overlaySystem.view s x.writes)) ∧ Ready (overlaySystem.view s x.writes) (.closed l') := by
  obtain ⟨rfl, rfl⟩ := next_commit hn
  refine ⟨?_, .ended⟩
  cases hx with
  | staged hguard hlock hfields hdetails hlast => exact ⟨_, exec_stageOp hguard hfields hdetails⟩
  | started hrun hlock hauto => exact ⟨_, exec_startOp h hrun hauto⟩
  | _ => cases hl

/-- The transactions do what their calls do, one after the other, as long as every
inserted run has the stage code of its item. -/
theorem serializes : Serializes overlaySystem SeesStage exec Inv Ready where
  call := fun d op d' h he => (exec_ok h he).1
  statement := fun d x l locks ws l' _ hx hl hC hn => hx.statement hl hC hn
  commit := fun d x l l' h hx hl hn => hx.commit h hl hn
  interfere := fun d x y _ hx hy hc => hx.interfere hy hc
  rollback := by
    intro d x l l' _ _ _ hn
    rw [next_rollback hn]
    exact .ended
  kill := fun d => .ended

end Ready

theorem ready_start (s : State) (request : Request) : Ready s (.fresh request.start) := by
  cases request with
  | stage a => exact .readItem a
  | startRun a => exact .readConfiguration a

/-- No write ends a run or takes it to another item. -/
theorem runs_applyWrite (s : State) (w : Write) {r : ProcessRun} (hr : r ∈ s.runs) :
    ∃ r' ∈ (applyWrite s w).runs, r'.id = r.id ∧ r'.workItemId = r.workItemId ∧ r'.runState = r.runState := by
  cases w with
  | changeStage workItemId result change =>
    simp only [applyWrite, applyChange]
    rcases recordAppliedTransition_cases (s.modifyItem workItemId change.apply) result change.stage.code with
      he | ⟨run, -, he⟩
    · rw [he]
      exact ⟨r, hr, rfl, rfl, rfl⟩
    · rw [he]
      refine ⟨_, List.mem_map_of_mem hr, ?_⟩
      split <;> exact ⟨rfl, rfl, rfl⟩
  | updateDetails workItemId payload => exact ⟨r, hr, rfl, rfl, rfl⟩
  | insertRun run => exact ⟨r, List.mem_append_left _ hr, rfl, rfl, rfl⟩

/-- A call moves the item of a run that stays active along an edge of the version it
has pinned. -/
theorem StepOk.edge {s s' : State} (h : Inv s) (hinv : Inv s') (hstep : StepOk s s') {r r' : ProcessRun}
    (hr : r ∈ s.runs) (ha : r.runState = .active) (hr' : r' ∈ s'.runs) (ha' : r'.runState = .active)
    (hid : r'.id = r.id) (hitem : r'.workItemId = r.workItemId) :
    stageCodeOf s' r.workItemId = stageCodeOf s r.workItemId ∨
      PolicyEdge (edgesOf s r.definitionVersionId) (stageCodeOf s r.workItemId) (stageCodeOf s' r.workItemId) := by
  obtain ⟨-, hmoves⟩ := hstep r.id
  have hby' : runById s' r.id = some r' := hid ▸ runById_of_mem hinv.ids hr'
  simp only [pinnedEdges, phaseOf, runById_of_mem h.ids hr, hby', ha, ha', if_true, hitem, Option.map_some,
    Option.getD_some] at hmoves
  generalize stageCodeOf s r.workItemId = c at hmoves ⊢
  generalize stageCodeOf s' r.workItemId = c' at hmoves ⊢
  cases hmoves with
  | stay => exact .inl rfl
  | along he => exact .inr he

/-- Overlay enforcement under concurrency: however stage writers and starters of runs
interleave, when each inserted run has the stage code its item is in by then, every
committed state has the active runs in step with their items, and no step commits a
change of stage on an item with an active run except along an edge of the version that
run has pinned. -/
theorem overlay_enforced_concurrently (s : State) (hs : Inv s) (requests : List Request) (evs : List Event)
    (w : World State Write Row Loc)
    (h : Run (Restrict (overlaySystem.When SeesStage) overlaySystem.Step) (s.concurrently requests) evs w) :
    ∀ r ∈ w.db.runs, r.runState = .active → r.currentStageCode = stageCodeOf w.db r.workItemId ∧
      ∀ e w', overlaySystem.Step w e w' → stageCodeOf w'.db r.workItemId = stageCodeOf w.db r.workItemId ∨
        PolicyEdge (edgesOf w.db r.definitionVersionId) (stageCodeOf w.db r.workItemId)
          (stageCodeOf w'.db r.workItemId) := by
  intro r hr ha
  have hholds : Holds (fun d _ => Inv d) Ready w := by
    refine serializes.holds hs (fun l hl => ?_) h
    obtain ⟨request, -, rfl⟩ := List.mem_map.1 hl
    exact ready_start s request
  refine ⟨(hholds.db.runs r hr).synced ha, fun e w' hstep => ?_⟩
  obtain ⟨r', hr', hid, hitem, hstate⟩ := overlaySystem.step_keeps
    (fun d => ∃ r' ∈ d.runs, r'.id = r.id ∧ r'.workItemId = r.workItemId ∧ r'.runState = r.runState)
    (by
      rintro d x ⟨r₁, hr₁, hid₁, hitem₁, hstate₁⟩
      obtain ⟨r₂, hr₂, hid₂, hitem₂, hstate₂⟩ := runs_applyWrite d x hr₁
      exact ⟨r₂, hr₂, hid₂.trans hid₁, hitem₂.trans hitem₁, hstate₂.trans hstate₁⟩)
    hstep ⟨r, hr, rfl, rfl, rfl⟩
  rcases serializes.step_db hholds hstep with hdb | ⟨op, hop⟩
  · exact .inl (by rw [hdb])
  · obtain ⟨hinv', hok⟩ := exec_ok hholds.db hop
    exact hok.edge hholds.db hinv' hr ha hr' (hstate.trans ha) hid hitem

/-- Under the same condition, what the transactions leave is what calls leave that are
made one after the other. -/
theorem overlay_serializable (s : State) (hs : Inv s) (requests : List Request) (evs : List Event)
    (w : World State Write Row Loc)
    (h : Run (Restrict (overlaySystem.When SeesStage) overlaySystem.Step) (s.concurrently requests) evs w) :
    ∃ ops : List Op, w.db = ops.foldl (settle exec) s := by
  refine serializes.run hs (fun l hl => ?_) h
  obtain ⟨request, -, rfl⟩ := List.mem_map.1 hl
  exact ready_start s request

section Examples

/-- A run is started on the work item while it is moved to qualified. -/
def demoRequests : List Request :=
  [.startRun ⟨1, 9, 7, 1, .ok ()⟩, .stage ⟨1, 7, .moveStage 2⟩]

/-- The move commits after `start_run` has read the work item and before it inserts the
run: the run says new_lead, its item is in qualified. -/
theorem run_out_of_step : ∃ evs w, Run overlaySystem.Step (demoStarted.concurrently demoRequests) evs w ∧
    Inv demoStarted ∧ ∃ r ∈ w.db.runs, r.runState = .active ∧ r.currentStageCode ≠ stageCodeOf w.db r.workItemId := by
  let evs : List Event := List.replicate 3 (.turn 0) ++ List.replicate 4 (.turn 1) ++ List.replicate 3 (.turn 0)
  have hrun : (execute? (fun _ _ => True) overlaySystem.step? (demoStarted.concurrently demoRequests) evs).map
      (fun w => w.db.runs.map fun r => (r.runState, r.currentStageCode, stageCodeOf w.db r.workItemId)) =
      some [(.active, some "new_lead", some "qualified")] := by
    decide
  obtain ⟨w, hw, hdb⟩ := Option.map_eq_some_iff.1 hrun
  refine ⟨evs, w, (Run.of_execute? hw).of_restrict, inv_demoStarted, ?_⟩
  obtain ⟨r, hr, hrow⟩ := List.mem_map.1 (hdb ▸ List.mem_singleton.2 rfl)
  simp only [Prod.mk.injEq] at hrow
  obtain ⟨hact, hcode, hstage⟩ := hrow
  refine ⟨r, hr, hact, ?_⟩
  rw [hcode, hstage]
  decide

/-- The theorem at the same requests made one after the other: the move follows the
edge of the policy and the run follows the item. -/
theorem overlay_enforced_serially : ∃ evs w r,
    Run (Restrict (overlaySystem.When SeesStage) overlaySystem.Step) (demoStarted.concurrently demoRequests) evs w ∧
    r ∈ w.db.runs ∧ r.currentStageCode = some "qualified" ∧ r.currentStageCode = stageCodeOf w.db r.workItemId := by
  let evs : List Event := List.replicate 6 (.turn 0) ++ List.replicate 4 (.turn 1)
  have hrun : (execute? (overlaySystem.When SeesStage) overlaySystem.step? (demoStarted.concurrently demoRequests)
      evs).map (fun w => w.db.runs.map fun r => (r.runState, r.currentStageCode)) =
      some [(.active, some "qualified")] := by
    decide
  obtain ⟨w, hw, hdb⟩ := Option.map_eq_some_iff.1 hrun
  obtain ⟨r, hr, hrow⟩ := List.mem_map.1 (hdb ▸ List.mem_singleton.2 rfl)
  simp only [Prod.mk.injEq] at hrow
  exact ⟨evs, w, r, Run.of_execute? hw, hr, hrow.2,
    (overlay_enforced_concurrently demoStarted inv_demoStarted demoRequests evs w (Run.of_execute? hw) r hr hrow.1).1⟩

end Examples

end CoreOps.Overlay
