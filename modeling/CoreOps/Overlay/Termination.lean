import Mathlib.Logic.Function.Basic
import CoreOps.Lib.Serial
import CoreOps.Overlay.Enforcement

/-! The end of a run under READ COMMITTED. `complete_run` and `cancel_run` read the
run without a lock and check that it is active; the row is locked only by the UPDATE
that ends it, which does not look at the state again. -/

namespace CoreOps.Overlay

open Checked ReadCommitted Text

/-- `completed_at` and `completed_by_user_id` of a run. -/
structure Completion where
  completedAt : ℕ
  completedByUserId : ℕ
  deriving DecidableEq, Repr

structure AuditLog where
  tenantId : ℕ
  userId : ℕ
  action : String
  entityType : String
  entityId : ℕ
  summary : String
  event : String
  completionReason : Option String
  deriving DecidableEq, Repr

/-- The overlay with the columns and the records that only the end of a run writes. -/
structure RunDb where
  state : State
  completions : ℕ → Option Completion
  auditLogs : List AuditLog

def entityProcessRun : String := "process_run"

/-- The record says that the run has ended. -/
def AuditLog.Ends (runId : ℕ) (log : AuditLog) : Prop :=
  log.entityType = entityProcessRun ∧ log.entityId = runId ∧
    (log.event = "process_run.completed" ∨ log.event = "process_run.cancelled")

instance (runId : ℕ) (log : AuditLog) : Decidable (log.Ends runId) := inferInstanceAs (Decidable (_ ∧ _))

/-- The terminal records of a run. -/
def RunDb.endings (d : RunDb) (runId : ℕ) : List AuditLog := d.auditLogs.filter (AuditLog.Ends runId)

inductive EndCall
  | completeRun (reason : Option String)
  | cancelRun (reason : String)

/-- A call, with the time it is made at. -/
structure EndArgs where
  tenantId : ℕ
  processRunId : ℕ
  actorUserId : ℕ
  now : ℕ
  call : EndCall

def EndCall.runState : EndCall → ProcessRunState
  | .completeRun _ => .completed
  | .cancelRun _ => .cancelled

/-- The reason that is stored. -/
def EndCall.completionReason : EndCall → Option String
  | .completeRun reason => (reason.map strip).filter (· ≠ "")
  | .cancelRun reason => some (strip reason)

/-- `cancel_run` checks its reason before it reads the run. -/
def EndCall.validate : EndCall → Except OverlayError Unit
  | .completeRun _ => .ok ()
  | .cancelRun reason =>
    raiseIf (strip reason = "") (.validation "cancel_run requires a non-empty reason" ["reason"])

def EndCall.event : EndCall → String
  | .completeRun _ => "process_run.completed"
  | .cancelRun _ => "process_run.cancelled"

def EndCall.summary : EndCall → String
  | .completeRun _ => "Process run completed"
  | .cancelRun _ => "Process run cancelled"

def EndArgs.auditLog (a : EndArgs) (run : ProcessRun) : AuditLog where
  tenantId := a.tenantId
  userId := a.actorUserId
  action := "update"
  entityType := entityProcessRun
  entityId := run.id
  summary := a.call.summary
  event := a.call.event
  completionReason := a.call.completionReason

inductive EndWrite
  | updateRunLifecycle (a : EndArgs) (run : ProcessRun)
  | auditLog (log : AuditLog)

/-- What the UPDATE makes of a row. It names the columns that differ from the run as it
was read: the reason only when the call has another one. -/
def EndArgs.finish (a : EndArgs) (run row : ProcessRun) : ProcessRun :=
  row.finish a.call.runState
    (if a.call.completionReason = run.completionReason then row.completionReason else a.call.completionReason)

def applyEnd (d : RunDb) : EndWrite → RunDb
  | .updateRunLifecycle a run =>
    { d with
      state := d.state.modifyRun run (a.finish run)
      completions := Function.update d.completions run.id (some ⟨a.now, a.actorUserId⟩) }
  | .auditLog log => { d with auditLogs := d.auditLogs ++ [log] }

inductive EndLoc
  | getRun (a : EndArgs)
  | update (a : EndArgs) (run : ProcessRun)
  | audit (a : EndArgs) (run : ProcessRun)
  | done

/-- Rows are runs, by their ids. -/
def nextEnd : EndLoc → RunDb → Action ℕ EndWrite EndLoc
  | .getRun a, d =>
    match a.call.validate with
    | .error _ => .rollback none
    | .ok _ =>
      match getActiveRunOrRaise a.tenantId a.processRunId d.state with
      | .error _ => .rollback none
      | .ok run => .exec [] [] (.update a run)
  | .update a run, _ => .exec [(run.id, .noKeyUpdate)] [.updateRunLifecycle a run] (.audit a run)
  | .audit a run, _ => .exec [] [.auditLog (a.auditLog run)] .done
  | .done, _ => .commit none

def endSystem : System RunDb EndWrite ℕ EndLoc := ⟨applyEnd, nextEnd⟩

def RunDb.concurrently (d : RunDb) (calls : List EndArgs) : World RunDb EndWrite ℕ EndLoc :=
  ⟨d, (calls.map EndLoc.getRun).map .fresh, []⟩

/-- The call made alone. -/
def EndCall.run (tenantId processRunId : ℕ) : EndCall → State → Except OverlayError State
  | .completeRun reason => Overlay.completeRun tenantId processRunId reason
  | .cancelRun reason => Overlay.cancelRun tenantId processRunId reason

def endRun (d : RunDb) (a : EndArgs) : Except OverlayError RunDb := do
  let state ← a.call.run a.tenantId a.processRunId d.state
  let run ← getActiveRunOrRaise a.tenantId a.processRunId d.state
  return {
    state := state
    completions := Function.update d.completions run.id (some ⟨a.now, a.actorUserId⟩)
    auditLogs := d.auditLogs ++ [a.auditLog run] }

/-- At its UPDATE a transaction finds the run still active. -/
def StillActive : EndLoc → RunDb → Prop
  | .update _ run, d => ∀ r ∈ runById d.state run.id, r.runState = .active
  | _, _ => True

instance : ∀ l d, Decidable (StillActive l d)
  | .update _ run, d => inferInstanceAs (Decidable (∀ r ∈ runById d.state run.id, r.runState = .active))
  | .getRun .., _ | .audit .., _ | .done, _ => inferInstanceAs (Decidable True)

/-- An active run has no terminal record, one that has ended has one. -/
structure Recorded (d : RunDb) : Prop where
  ids : (d.state.runs.map (·.id)).Nodup
  endings : ∀ r ∈ d.state.runs, (d.endings r.id).length = if r.runState = .active then 0 else 1

/-! What a call does when it is alone. -/

section Alone

variable {d d' : RunDb} {a : EndArgs} {run : ProcessRun}

theorem getActiveRunOrRaise_eq_ok (h : (d.state.runs.map (·.id)).Nodup) {tenantId processRunId : ℕ} :
    getActiveRunOrRaise tenantId processRunId d.state = .ok run ↔
      runById d.state processRunId = some run ∧ run.tenantId = tenantId ∧ run.runState = .active := by
  simp only [getActiveRunOrRaise, bind_eq_ok, orRaise_eq_ok, raiseIf_eq_ok, pure_eq_ok, not_not]
  constructor
  · rintro ⟨r, hr, -, hact, rfl⟩
    have hmem := List.mem_of_find?_eq_some hr
    have hp := List.find?_some hr
    simp only [decide_eq_true_eq] at hp
    obtain ⟨ht, rfl⟩ := hp
    exact ⟨runById_of_mem h hmem, ht, hact⟩
  · rintro ⟨hr, rfl, hact⟩
    refine ⟨run, ?_, ⟨⟩, hact, rfl⟩
    obtain ⟨hmem, rfl⟩ := mem_of_runById hr
    cases hg : Overlay.getRun d.state run.tenantId run.id with
    | none =>
      have hno := List.find?_eq_none.1 hg run hmem
      simp at hno
    | some r =>
      have hp := List.find?_some hg
      simp only [decide_eq_true_eq] at hp
      have hr' := runById_of_mem h (List.mem_of_find?_eq_some hg)
      rw [hp.2, runById_of_mem h hmem] at hr'
      exact hr'.symm

/-- The two writes of a transaction. -/
def EndArgs.writes (a : EndArgs) (run : ProcessRun) : List EndWrite :=
  [.updateRunLifecycle a run, .auditLog (a.auditLog run)]

theorem modifyRun_congr {s : State} (h : (s.runs.map (·.id)).Nodup) (hrun : run ∈ s.runs)
    {f g : ProcessRun → ProcessRun} (hfg : f run = g run) : s.modifyRun run f = s.modifyRun run g := by
  unfold State.modifyRun
  congr 1
  refine List.map_congr_left fun r hr => ?_
  by_cases hid : r.id = run.id ∧ r.workItemId = run.workItemId
  · have hsame : r = run := List.inj_on_of_nodup_map h hr hrun hid.1
    rw [if_pos hid, if_pos hid, hsame, hfg]
  · rw [if_neg hid, if_neg hid]

/-- A call alone does what the writes of its transaction do. -/
theorem endRun_eq_ok (h : (d.state.runs.map (·.id)).Nodup) : endRun d a = .ok d' ↔
    a.call.validate = .ok () ∧ ∃ run, getActiveRunOrRaise a.tenantId a.processRunId d.state = .ok run ∧
      d' = endSystem.view d (a.writes run) := by
  have hrun : ∀ s, a.call.run a.tenantId a.processRunId d.state = .ok s ↔ a.call.validate = .ok () ∧
      ∃ run, getActiveRunOrRaise a.tenantId a.processRunId d.state = .ok run ∧
        d.state.modifyRun run (ProcessRun.finish a.call.runState a.call.completionReason) = s := by
    intro s
    cases a.call with
    | completeRun reason =>
      simp only [EndCall.run, completeRun, EndCall.validate, bind_eq_ok, pure_eq_ok, true_and]
      rfl
    | cancelRun reason =>
      simp only [EndCall.run, cancelRun, EndCall.validate, bind_eq_ok, pure_eq_ok, raiseIf_eq_ok, exists_const]
      exact Iff.rfl
  have hview : ∀ run, getActiveRunOrRaise a.tenantId a.processRunId d.state = .ok run →
      endSystem.view d (a.writes run) =
        ⟨d.state.modifyRun run (ProcessRun.finish a.call.runState a.call.completionReason),
          Function.update d.completions run.id (some ⟨a.now, a.actorUserId⟩), d.auditLogs ++ [a.auditLog run]⟩ := by
    intro run hget
    rw [← modifyRun_congr h (mem_of_runById ((getActiveRunOrRaise_eq_ok h).1 hget).1).1]
    · rfl
    · unfold EndArgs.finish
      by_cases hr : a.call.completionReason = run.completionReason
      · rw [if_pos hr, hr]
      · rw [if_neg hr]
  unfold endRun
  simp only [bind_eq_ok, hrun, pure_eq_ok]
  constructor
  · rintro ⟨s, ⟨hvalid, run, hget, rfl⟩, run', hget', rfl⟩
    obtain rfl := Except.ok.inj (hget.symm.trans hget')
    exact ⟨hvalid, run, hget, (hview run hget).symm⟩
  · rintro ⟨hvalid, run, hget, rfl⟩
    exact ⟨_, ⟨hvalid, run, hget, rfl⟩, run, hget, (hview run hget).symm⟩

theorem EndArgs.finish_ended (a : EndArgs) (run row : ProcessRun) : (a.finish run row).runState ≠ .active := by
  show a.call.runState ≠ .active
  cases a.call <;> simp [EndCall.runState]

theorem runById_finish (h : (d.state.runs.map (·.id)).Nodup) (hrun : run ∈ d.state.runs) (runId : ℕ) :
    runById (d.state.modifyRun run (a.finish run)) runId =
      if runId = run.id then some (a.finish run run) else runById d.state runId :=
  runById_modifyRun (f := a.finish run) h hrun (fun _ => rfl) runId

theorem endings_writes (runId : ℕ) : ((endSystem.view d (a.writes run)).endings runId).length =
    (d.endings runId).length + if runId = run.id then 1 else 0 := by
  have hends : (a.auditLog run).Ends runId ↔ runId = run.id := by
    refine ⟨fun h => h.2.1.symm, fun h => ⟨rfl, h.symm, ?_⟩⟩
    show a.call.event = _ ∨ a.call.event = _
    cases a.call <;> simp [EndCall.event]
  show ((d.auditLogs ++ [a.auditLog run]).filter (AuditLog.Ends runId)).length = _
  rw [List.filter_append, List.length_append, List.filter_singleton, RunDb.endings]
  by_cases hid : runId = run.id
  · subst hid
    simp [hends.2 rfl]
  · simp [hid, mt hends.1 hid]

theorem Recorded.writes (h : Recorded d) (hrun : run ∈ d.state.runs) (hact : run.runState = .active) :
    Recorded (endSystem.view d (a.writes run)) := by
  have hids : (d.state.modifyRun run (a.finish run)).runs.map (·.id) = d.state.runs.map (·.id) :=
    ids_modifyRun fun _ => rfl
  refine ⟨hids ▸ h.ids, fun r hr => ?_⟩
  rw [endings_writes]
  have hmem : r = a.finish run run ∨ (r ∈ d.state.runs ∧ r ≠ run) := (mem_modifyRun h.ids hrun).1 hr
  rcases hmem with rfl | ⟨hr, hne⟩
  · have hnone : (d.endings run.id).length = 0 := by rw [h.endings run hrun, if_pos hact]
    rw [if_neg (a.finish_ended run run), show (a.finish run run).id = run.id from rfl, if_pos rfl, hnone]
  · have hid : r.id ≠ run.id := fun he => hne (List.inj_on_of_nodup_map h.ids hr hrun he)
    rw [if_neg hid, h.endings r hr, Nat.add_zero]

/-- The run has ended with this row and this completion. -/
def EndedAs (r : ProcessRun) (completion : Option Completion) (d : RunDb) : Prop :=
  r.runState ≠ .active ∧ runById d.state r.id = some r ∧ d.completions r.id = completion

/-- A call does not touch a run that has ended. -/
theorem EndedAs.writes (h : (d.state.runs.map (·.id)).Nodup) (hrun : run ∈ d.state.runs) (hact : run.runState = .active)
    {r : ProcessRun} {completion : Option Completion} (he : EndedAs r completion d) :
    EndedAs r completion (endSystem.view d (a.writes run)) := by
  obtain ⟨hended, hrow, hcompletion⟩ := he
  have hid : r.id ≠ run.id := by
    intro hid
    rw [hid, runById_of_mem h hrun] at hrow
    exact hended (Option.some.inj hrow ▸ hact)
  refine ⟨hended, ?_, ?_⟩
  · exact (runById_finish h hrun r.id).trans (by rw [if_neg hid]; exact hrow)
  · exact (Function.update_of_ne hid _ _).trans hcompletion

/-- An accepted call keeps the records and the runs that have ended. -/
theorem endRun_ok (h : Recorded d) (he : endRun d a = .ok d') :
    Recorded d' ∧ ∀ r completion, EndedAs r completion d → EndedAs r completion d' := by
  obtain ⟨-, run, hget, rfl⟩ := (endRun_eq_ok h.ids).1 he
  obtain ⟨hmem, hact⟩ := getActiveRunOrRaise_ok hget
  exact ⟨h.writes hmem hact, fun r completion => EndedAs.writes h.ids hmem hact⟩

end Alone

/-! Ready transactions. -/

/-- The run the transaction has read is the row as it is, unless the row has ended since. -/
structure Read (d : RunDb) (a : EndArgs) (run : ProcessRun) : Prop where
  valid : a.call.validate = .ok ()
  id : run.id = a.processRunId
  tenant : run.tenantId = a.tenantId
  active : run.runState = .active
  row : ∃ r, runById d.state run.id = some r ∧ (r.runState = .active → r = run)

/-- What holds of a session between its statements. -/
inductive Ending (d : RunDb) : Session ℕ EndWrite EndLoc → Prop
  | ended : Ending d (.closed none)
  | getRun (a : EndArgs) : Ending d (.fresh (.getRun a))
  | update {a : EndArgs} {run : ProcessRun} (hread : Read d a run) : Ending d ⟨some (.update a run), [], []⟩
  | audit {a : EndArgs} {run : ProcessRun} (hread : Read d a run) (hrow : runById d.state run.id = some run) :
      Ending d ⟨some (.audit a run), [(run.id, .noKeyUpdate)], [.updateRunLifecycle a run]⟩
  | done {a : EndArgs} {run : ProcessRun} (hread : Read d a run) (hrow : runById d.state run.id = some run) :
      Ending d ⟨some .done, [(run.id, .noKeyUpdate)], a.writes run⟩

section Ready

variable {d : RunDb} {x y : Session ℕ EndWrite EndLoc}

theorem Ending.statement (h : Recorded d) (hx : Ending d x) {l l' : EndLoc} {locks : List (ℕ × LockMode)}
    {ws : List EndWrite} (hl : x.loc = some l) (hC : StillActive l (endSystem.view d x.writes))
    (hn : nextEnd l (endSystem.view d x.writes) = .exec locks ws l') :
    Ending d ⟨some l', x.locks ++ locks, x.writes ++ ws⟩ := by
  induction hx with
  | ended => cases hl
  | getRun a =>
    obtain rfl := Option.some.inj hl
    simp only [nextEnd, Session.fresh, System.view_nil] at hn
    split at hn
    · cases hn
    · rename_i u hvalid
      split at hn
      · cases hn
      · rename_i run hget
        cases hn
        obtain ⟨hrow, ht, hact⟩ := (getActiveRunOrRaise_eq_ok h.ids).1 hget
        obtain ⟨-, hid⟩ := mem_of_runById hrow
        exact .update ⟨hvalid, hid, ht, hact, run, hid ▸ hrow, fun _ => rfl⟩
  | update hread =>
    obtain rfl := Option.some.inj hl
    cases hn
    obtain ⟨r, hr, hsame⟩ := hread.row
    have hact : r.runState = .active := hC r hr
    exact .audit hread (hsame hact ▸ hr)
  | audit hread hrow =>
    obtain rfl := Option.some.inj hl
    cases hn
    exact .done hread hrow
  | done =>
    obtain rfl := Option.some.inj hl
    cases hn

/-- The commit is that of a call that is accepted now. -/
theorem Ending.commit (h : Recorded d) (hx : Ending d x) {l : EndLoc} {l' : Option EndLoc} (hl : x.loc = some l)
    (hn : nextEnd l (endSystem.view d x.writes) = .commit l') :
    (∃ a, endRun d a = .ok (endSystem.view d x.writes)) ∧ Ending (endSystem.view d x.writes) (.closed l') := by
  induction hx with
  | ended => cases hl
  | getRun a =>
    obtain rfl := Option.some.inj hl
    simp only [nextEnd] at hn
    split at hn
    · cases hn
    · split at hn <;> cases hn
  | update =>
    obtain rfl := Option.some.inj hl
    cases hn
  | audit =>
    obtain rfl := Option.some.inj hl
    cases hn
  | done hread hrow =>
    rename_i a run
    obtain rfl := Option.some.inj hl
    cases hn
    refine ⟨⟨a, (endRun_eq_ok h.ids).2 ⟨hread.valid, run, ?_, rfl⟩⟩, .ended⟩
    exact (getActiveRunOrRaise_eq_ok h.ids).2 ⟨hread.id ▸ hrow, hread.tenant, hread.active⟩

theorem Read.frame (h : Recorded d) {a b : EndArgs} {run run' : ProcessRun} (hread : Read d a run)
    (hrun : run' ∈ d.state.runs) {d' : RunDb} (hd : d'.state = d.state.modifyRun run' (b.finish run')) :
    Read d' a run := by
  obtain ⟨hvalid, hid, ht, hact, r, hr, hsame⟩ := hread
  refine ⟨hvalid, hid, ht, hact, ?_⟩
  rw [hd, runById_finish h.ids hrun]
  by_cases he : run.id = run'.id
  · exact ⟨b.finish run' run', if_pos he, fun ha => absurd ha (b.finish_ended run' run')⟩
  · exact ⟨r, (if_neg he).trans hr, hsame⟩

/-- Another transaction ends a run whose lock this one does not hold. -/
theorem Ending.frame (h : Recorded d) (hy : Ending d y) {b : EndArgs} {run' : ProcessRun} {d' : RunDb}
    (hrun : run' ∈ d.state.runs) (hd : d'.state = d.state.modifyRun run' (b.finish run'))
    (hlock : (run'.id, LockMode.noKeyUpdate) ∉ y.locks) : Ending d' y := by
  have hother : ∀ run, runById d.state run.id = some run → (run.id, LockMode.noKeyUpdate) ∈ y.locks →
      runById d'.state run.id = some run := by
    intro run hrow hin
    have hid : run.id ≠ run'.id := fun hid => hlock (hid ▸ hin)
    rw [hd, runById_finish h.ids hrun, if_neg hid]
    exact hrow
  induction hy with
  | ended => exact .ended
  | getRun a => exact .getRun a
  | update hread => exact .update (hread.frame h hrun hd)
  | audit hread hrow => exact .audit (hread.frame h hrun hd) (hother _ hrow (List.mem_singleton.2 rfl))
  | done hread hrow => exact .done (hread.frame h hrun hd) (hother _ hrow (List.mem_singleton.2 rfl))

theorem Ending.interfere (h : Recorded d) (hx : Ending d x) (hy : Ending d y) (hc : Compatible x y) :
    Ending (endSystem.view d x.writes) y := by
  have hfree : ∀ runId, (runId, LockMode.noKeyUpdate) ∈ x.locks → (runId, LockMode.noKeyUpdate) ∉ y.locks :=
    fun runId hin hin' => nomatch hc.not_both hin hin'
  induction hx with
  | ended => exact hy
  | getRun => exact hy
  | update => exact hy
  | audit hread hrow =>
    exact hy.frame h (mem_of_runById hrow).1 rfl (hfree _ (List.mem_singleton.2 rfl))
  | done hread hrow =>
    exact hy.frame h (mem_of_runById hrow).1 rfl (hfree _ (List.mem_singleton.2 rfl))

/-- The transactions do what their calls do, one after the other, as long as every
UPDATE finds its run still active. -/
theorem ends_serialize : Serializes endSystem StillActive endRun Recorded Ending where
  call := fun d a d' h he => (endRun_ok h he).1
  statement := fun d x l locks ws l' h hx hl hC hn => hx.statement h hl hC hn
  commit := fun d x l l' h hx hl hn => hx.commit h hl hn
  interfere := fun d x y h hx hy hc => hx.interfere h hy hc
  rollback := by
    intro d x l l' _ _ _ hn
    have hnone : l' = none := by
      revert hn
      show nextEnd l (endSystem.view d x.writes) = _ → _
      fun_cases nextEnd l (endSystem.view d x.writes) <;> intro hn <;> cases hn <;> rfl
    rw [hnone]
    exact .ended
  kill := fun d => .ended

end Ready

section Unique

variable {d : RunDb} {calls : List EndArgs} {evs : List Event} {w w' : World RunDb EndWrite ℕ EndLoc}

theorem holds_concurrently (hd : Recorded d)
    (h : Run (Restrict (endSystem.When StillActive) endSystem.Step) (d.concurrently calls) evs w) :
    Holds (fun d _ => Recorded d) Ending w := by
  refine ends_serialize.holds hd (fun l hl => ?_) h
  obtain ⟨a, -, rfl⟩ := List.mem_map.1 hl
  exact .getRun a

/-- A run that has ended stays as it has ended. -/
theorem endedAs_run (hw : Holds (fun d _ => Recorded d) Ending w) {r : ProcessRun} {completion : Option Completion}
    (he : EndedAs r completion w.db)
    (h : Run (Restrict (endSystem.When StillActive) endSystem.Step) w evs w') : EndedAs r completion w'.db := by
  have hboth : Holds (fun d _ => Recorded d) Ending w' ∧ EndedAs r completion w'.db := by
    refine Run.invariant_restrict (fun w => Holds (fun d _ => Recorded d) Ending w ∧ EndedAs r completion w.db)
      ⟨hw, he⟩ ?_ h
    rintro w e w' ⟨hw, he⟩ hC hs
    refine ⟨hw.step ends_serialize.threadModular hC hs, ?_⟩
    rcases ends_serialize.step_db hw hs with hdb | ⟨a, ha⟩
    · rw [hdb]
      exact he
    · exact (endRun_ok hw.db ha).2 r completion he
  exact hboth.2

end Unique

/-- Termination is unique: however completions and cancellations interleave, when each
UPDATE finds its run still active, a run has one terminal record from its end on and none
before, and once it has ended no step changes its row or its completion. -/
theorem run_ends_once (d : RunDb) (hd : Recorded d) (calls : List EndArgs) (evs : List Event)
    (w : World RunDb EndWrite ℕ EndLoc)
    (h : Run (Restrict (endSystem.When StillActive) endSystem.Step) (d.concurrently calls) evs w) :
    ∀ r ∈ w.db.state.runs, (w.db.endings r.id).length = (if r.runState = .active then 0 else 1) ∧
      (r.runState ≠ .active → ∀ evs' w', Run (Restrict (endSystem.When StillActive) endSystem.Step) w evs' w' →
        runById w'.db.state r.id = some r ∧ w'.db.completions r.id = w.db.completions r.id) := by
  intro r hr
  have hw := holds_concurrently hd h
  refine ⟨hw.db.endings r hr, fun hended evs' w' h' => ?_⟩
  obtain ⟨-, hrow, hcompletion⟩ := endedAs_run hw ⟨hended, runById_of_mem hw.db.ids hr, rfl⟩ h'
  exact ⟨hrow, hcompletion⟩

section Examples

/-- Run 9 is active on work item 7. -/
def demoRunning : RunDb := ⟨settle exec demoStarted (.startRun 1 9 7 1 (.ok ())), fun _ => none, []⟩

theorem recorded_demoRunning : Recorded demoRunning := ⟨by decide, by decide⟩

/-- The run is cancelled and completed. -/
def demoEndings : List EndArgs :=
  [⟨1, 9, 5, 100, .cancelRun "duplicate"⟩, ⟨1, 9, 6, 101, .completeRun none⟩]

/-- Both read the run before the other commits: the cancellation commits, then the
completion overwrites it, and the run has two terminal records. -/
theorem run_ended_twice : Recorded demoRunning ∧
    ∃ evs w r, Run endSystem.Step (demoRunning.concurrently demoEndings) evs w ∧
      runById w.db.state 9 = some r ∧ r.runState = .cancelled ∧
      ∃ evs' w', Run endSystem.Step w evs' w' ∧ runById w'.db.state 9 = some { r with runState := .completed } ∧
        w'.db.completions 9 ≠ w.db.completions 9 ∧ (w'.db.endings 9).length = 2 := by
  let evs : List Event := [.turn 0, .turn 1, .turn 0, .turn 0, .turn 0]
  let evs' : List Event := [.turn 1, .turn 1, .turn 1]
  let ended : ProcessRun := ⟨9, 1, 1, 1, 7, .cancelled, some "duplicate", some "new_lead"⟩
  have hfirst : (execute? (fun _ _ => True) endSystem.step? (demoRunning.concurrently demoEndings) evs).map
      (fun w => (runById w.db.state 9, w.db.completions 9)) = some (some ended, some ⟨100, 5⟩) := by
    decide
  obtain ⟨w, hw, hdb⟩ := Option.map_eq_some_iff.1 hfirst
  have hboth : ((execute? (fun _ _ => True) endSystem.step? (demoRunning.concurrently demoEndings) evs).bind
      fun w => execute? (fun _ _ => True) endSystem.step? w evs').map
        (fun w => (runById w.db.state 9, w.db.completions 9, (w.db.endings 9).length)) =
      some (some { ended with runState := .completed }, some ⟨101, 6⟩, 2) := by
    decide
  rw [hw, Option.bind_some] at hboth
  obtain ⟨w', hw', hdb'⟩ := Option.map_eq_some_iff.1 hboth
  simp only [Prod.mk.injEq] at hdb hdb'
  obtain ⟨hrow, hcompletion⟩ := hdb
  obtain ⟨hrow', hcompletion', hlength⟩ := hdb'
  refine ⟨recorded_demoRunning, evs, w, ended, (Run.of_execute? hw).of_restrict, hrow, rfl, evs', w',
    (Run.of_execute? hw').of_restrict, hrow', ?_, hlength⟩
  rw [hcompletion, hcompletion']
  decide

/-- The theorem at the same calls made one after the other: the completion is refused. -/
theorem run_ends_once_serially : ∃ evs w r,
    Run (Restrict (endSystem.When StillActive) endSystem.Step) (demoRunning.concurrently demoEndings) evs w ∧
      r ∈ w.db.state.runs ∧ r.runState = .cancelled ∧ (w.db.endings r.id).length = 1 := by
  let evs : List Event := List.replicate 4 (.turn 0) ++ [.turn 1]
  have hrun : (execute? (endSystem.When StillActive) endSystem.step? (demoRunning.concurrently demoEndings) evs).map
      (fun w => w.db.state.runs.map fun r => (r.id, r.runState)) = some [(9, .cancelled)] := by
    decide
  obtain ⟨w, hw, hdb⟩ := Option.map_eq_some_iff.1 hrun
  obtain ⟨r, hr, hrow⟩ := List.mem_map.1 (hdb ▸ List.mem_singleton.2 rfl)
  simp only [Prod.mk.injEq] at hrow
  obtain ⟨-, hstate⟩ := hrow
  have hended : r.runState ≠ .active := by
    rw [hstate]
    decide
  have hone := (run_ends_once demoRunning recorded_demoRunning demoEndings evs w (Run.of_execute? hw) r hr).1
  rw [if_neg hended] at hone
  exact ⟨evs, w, r, Run.of_execute? hw, hr, hstate, hone⟩

end Examples

end CoreOps.Overlay
