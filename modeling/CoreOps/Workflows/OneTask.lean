import CoreOps.Lib.RowHistory
import CoreOps.Workflows.LeadAutomation

/-! However the calls of the automation interleave, a process run gets one task of a key, and
as many activities are recorded as tasks were created with one; a call whose insert is refused
takes the task that is there, and its transaction goes on with all it has written. -/

namespace CoreOps.Workflows

open Checked ReadCommitted

/-! What transactions write. -/

section Writes

def Write.task? : Write → Option CreatedTask
  | .task c => some c
  | _ => none

def Write.activity? : Write → Option Activity
  | .activity a => some a
  | _ => none

def tasksOf (ws : List Write) : List CreatedTask := ws.filterMap Write.task?

def activitiesOf (ws : List Write) : List Activity := ws.filterMap Write.activity?

def keys (tasks : List CreatedTask) : List TaskKey := tasks.map fun c => c.task.key

/-- The activities that tell of the tasks. -/
def announced (py : Interpreter) (tasks : List CreatedTask) : List Activity :=
  (tasks.filter (·.createActivity)).map fun c => taskActivity py c.task

theorem keys_append (tasks more : List CreatedTask) : keys (tasks ++ more) = keys tasks ++ keys more :=
  List.map_append

theorem announced_append (py : Interpreter) (tasks more : List CreatedTask) :
    announced py (tasks ++ more) = announced py tasks ++ announced py more := by
  simp [announced]

theorem tasksOf_append (ws ws' : List Write) : tasksOf (ws ++ ws') = tasksOf ws ++ tasksOf ws' :=
  List.filterMap_append

theorem activitiesOf_append (ws ws' : List Write) : activitiesOf (ws ++ ws') = activitiesOf ws ++ activitiesOf ws' :=
  List.filterMap_append

theorem tasks_apply (d : Database) (w : Write) : (d.apply w).tasks = d.tasks ++ tasksOf [w] := by
  rcases w with c | a | (_ | _ | _ | _) <;> simp [Database.apply, tasksOf, Write.task?]

theorem activities_apply (d : Database) (w : Write) : (d.apply w).activities = d.activities ++ activitiesOf [w] := by
  rcases w with c | a | (_ | _ | _ | _) <;> simp [Database.apply, activitiesOf, Write.activity?]

variable (py : Interpreter)

/-- A transaction sees the committed tasks, and then its own. -/
theorem tasks_view (d : Database) (ws : List Write) :
    ((automationSystem py).view d ws).tasks = d.tasks ++ tasksOf ws := by
  induction ws generalizing d with
  | nil => simp [tasksOf]
  | cons w ws ih =>
    rw [System.view_cons, ih, show (automationSystem py).apply d w = d.apply w from rfl, tasks_apply,
      List.append_assoc, ← tasksOf_append, List.singleton_append]

theorem activities_view (d : Database) (ws : List Write) :
    ((automationSystem py).view d ws).activities = d.activities ++ activitiesOf ws := by
  induction ws generalizing d with
  | nil => simp [activitiesOf]
  | cons w ws ih =>
    rw [System.view_cons, ih, show (automationSystem py).apply d w = d.apply w from rfl, activities_apply,
      List.append_assoc, ← activitiesOf_append, List.singleton_append]

theorem getExisting_isSome_iff {d : Database} {key : TaskKey} : (d.getExisting key).isSome ↔ key ∈ keys d.tasks := by
  simp [Database.getExisting, keys]

end Writes

/-! What holds of the database and of each transaction. -/

section Invariant

variable {py : Interpreter}

/-- One task of a key, and an activity for each task that was to have one. -/
structure Consistent (py : Interpreter) (d : Database) : Prop where
  unique : (keys d.tasks).Nodup
  activities : d.activities = announced py d.tasks

/-- The activity a call has yet to record. -/
def pending (py : Interpreter) : Option Loc → List Activity
  | some (.recordActivity task _) => [taskActivity py task]
  | _ => []

/-- The keys that a transaction has inserted are new and locked, its activities tell of its
tasks, and a call that was refused has a task to take. -/
structure Ready (py : Interpreter) (d : Database) (s : Session TaskKey Write Loc) : Prop where
  nodup : (keys (tasksOf s.writes)).Nodup
  fresh : ∀ key ∈ keys (tasksOf s.writes), key ∉ keys d.tasks
  locked : ∀ key ∈ keys (tasksOf s.writes), (key, LockMode.update) ∈ s.locks
  activities : activitiesOf s.writes ++ pending py s.loc = announced py (tasksOf s.writes)
  refused : ∀ c config rest, s.loc = some (.recover c config rest) →
    c.key config ∈ keys d.tasks ++ keys (tasksOf s.writes)

variable {d d' : Database} {s : Session TaskKey Write Loc} {locks : List (TaskKey × LockMode)} {ws : List Write}
variable {l l' : Loc}

theorem ready_closed (d : Database) : Ready py d (.closed none) where
  nodup := List.nodup_nil
  fresh := by simp [Session.closed, tasksOf, keys]
  locked := by simp [Session.closed, tasksOf, keys]
  activities := rfl
  refused := nofun

theorem ready_fresh (d : Database) (rest : List Statement) : Ready py d (.fresh (.next rest)) where
  nodup := List.nodup_nil
  fresh := by simp [Session.fresh, tasksOf, keys]
  locked := by simp [Session.fresh, tasksOf, keys]
  activities := rfl
  refused := nofun

/-- A statement that inserts nothing, with no activity to record before it or after it. -/
theorem Ready.goOn (h : Ready py d s) (hl : s.loc = some l) (hbefore : pending py (some l) = [])
    (hafter : pending py (some l') = []) (htasks : tasksOf ws = []) (hactivities : activitiesOf ws = [])
    (hrefused : ∀ c config rest, l' = .recover c config rest → c.key config ∈ keys d.tasks ++ keys (tasksOf s.writes)) :
    Ready py d ⟨some l', s.locks ++ locks, s.writes ++ ws⟩ := by
  have hsame : tasksOf (s.writes ++ ws) = tasksOf s.writes := by rw [tasksOf_append, htasks, List.append_nil]
  have hactivities' := h.activities
  rw [hl, hbefore] at hactivities'
  refine ⟨hsame ▸ h.nodup, hsame ▸ h.fresh, fun key hkey => ?_, ?_, fun c config rest hplace => ?_⟩
  · exact List.mem_append_left _ (h.locked key (hsame ▸ hkey))
  · rw [hafter, activitiesOf_append, hactivities, List.append_nil, hactivities', hsame]
  · rw [hsame]
    exact hrefused c config rest (Option.some.inj hplace)

/-- An insert that the index does not refuse. -/
theorem Ready.insert (h : Ready py d s) (hl : s.loc = some l) (hbefore : pending py (some l) = []) {c : CreatedTask}
    (hnew : c.task.key ∉ keys (d.tasks ++ tasksOf s.writes)) {rest : List Statement}
    (hl' : l' = if c.createActivity then .recordActivity c.task rest else .next rest) :
    Ready py d ⟨some l', s.locks ++ [(c.task.key, .update)], s.writes ++ [.task c]⟩ := by
  have hwritten : tasksOf (s.writes ++ [.task c]) = tasksOf s.writes ++ [c] := tasksOf_append _ _
  rw [keys_append, List.mem_append, not_or] at hnew
  have hactivities := h.activities
  rw [hl, hbefore, List.append_nil] at hactivities
  refine ⟨?_, fun key hkey => ?_, fun key hkey => ?_, ?_, fun _ _ _ hplace => ?_⟩
  · rw [hwritten, keys_append]
    exact List.nodup_append.2 ⟨h.nodup, by simp [keys], fun a ha b hb => by
      obtain rfl := List.mem_singleton.1 hb
      rintro rfl
      exact hnew.2 ha⟩
  · rw [hwritten, keys_append, List.mem_append] at hkey
    rcases hkey with hkey | hkey
    · exact h.fresh key hkey
    · obtain rfl := List.mem_singleton.1 hkey
      exact hnew.1
  · rw [hwritten, keys_append, List.mem_append] at hkey
    rcases hkey with hkey | hkey
    · exact List.mem_append_left _ (h.locked key hkey)
    · obtain rfl := List.mem_singleton.1 hkey
      exact List.mem_append_right _ (List.mem_singleton_self _)
  · rw [hwritten, activitiesOf_append, announced_append, ← hactivities, hl', List.append_assoc]
    cases hflag : c.createActivity <;> simp [announced, activitiesOf, Write.activity?, pending, hflag]
  · rw [hl'] at hplace
    cases hflag : c.createActivity <;> simp [hflag] at hplace

/-- The activity of the task just inserted. -/
theorem Ready.activity (h : Ready py d s) {task : Task} {rest : List Statement}
    (hl : s.loc = some (.recordActivity task rest)) :
    Ready py d ⟨some (.next rest), s.locks ++ [], s.writes ++ [.activity (taskActivity py task)]⟩ := by
  have hsame : tasksOf (s.writes ++ [.activity (taskActivity py task)]) = tasksOf s.writes := by
    rw [tasksOf_append]
    exact List.append_nil _
  have hactivities := h.activities
  rw [hl] at hactivities
  refine ⟨hsame ▸ h.nodup, hsame ▸ h.fresh, fun key hkey => ?_, ?_, nofun⟩
  · exact List.mem_append_left _ (h.locked key (hsame ▸ hkey))
  · rw [hsame, ← hactivities, activitiesOf_append]
    exact List.append_nil _

/-- Each statement of a transaction leaves it ready. -/
theorem Ready.statement (h : Ready py d s) (hl : s.loc = some l)
    (hn : next py l ((automationSystem py).view d s.writes) = .exec locks ws l') :
    Ready py d ⟨some l', s.locks ++ locks, s.writes ++ ws⟩ := by
  cases l with
  | next rest =>
    cases rest with
    | nil => cases hn
    | cons statement rest =>
      cases statement with
      | work w =>
        cases hn
        exact h.goOn hl rfl rfl rfl rfl nofun
      | invoke c =>
        simp only [next] at hn
        split at hn <;> cases hn
        · exact h.goOn hl rfl rfl rfl rfl nofun
        · exact h.goOn hl rfl rfl rfl rfl nofun
  | checkAssignee c config rest =>
    simp only [next] at hn
    split at hn <;> cases hn
    exact h.goOn hl rfl rfl rfl rfl nofun
  | lookUp c config rest =>
    simp only [next] at hn
    split at hn <;> cases hn
    · exact h.goOn hl rfl rfl rfl rfl nofun
    · exact h.goOn hl rfl rfl rfl rfl nofun
  | insert c config rest =>
    simp only [next, getExisting_isSome_iff, tasks_view] at hn
    split at hn <;> rename_i hkey
    · -- the index refuses: there is a task to take
      cases hn
      refine h.goOn hl rfl rfl rfl rfl fun c' config' rest' hl' => ?_
      cases hl'
      rw [← keys_append]
      exact hkey
    · cases hn
      exact h.insert hl rfl (c := ⟨c.task config, config.createActivity⟩) hkey rfl
  | recover c config rest =>
    simp only [next] at hn
    split at hn <;> cases hn
    exact h.goOn hl rfl rfl rfl rfl nofun
  | recordActivity task rest =>
    cases hn
    exact h.activity hl

/-- A transaction commits after its last statement. -/
theorem commit_cases {l' : Option Loc} (hn : next py l d = .commit l') : l = .next [] ∧ l' = none := by
  revert hn
  fun_cases next py l d <;> intro hn <;> cases hn
  exact ⟨rfl, rfl⟩

theorem rollback_cases {l' : Option Loc} (hn : next py l d = .rollback l') : l' = none := by
  revert hn
  fun_cases next py l d <;> intro hn <;> cases hn <;> rfl

/-- What a transaction commits is consistent. -/
theorem Ready.commit (h : Ready py d s) (hd : Consistent py d) (hl : s.loc = some (.next [])) :
    Consistent py ((automationSystem py).view d s.writes) := by
  have hactivities := h.activities
  rw [hl] at hactivities
  refine ⟨?_, ?_⟩
  · rw [tasks_view, keys_append]
    refine List.nodup_append.2 ⟨hd.unique, h.nodup, fun a ha b hb => ?_⟩
    rintro rfl
    exact h.fresh a hb ha
  · rw [activities_view, tasks_view, announced_append, ← hactivities, hd.activities]
    exact congrArg _ (List.append_nil _).symm

/-- The commit of a transaction that holds other locks. -/
theorem Ready.interfere {x : Session TaskKey Write Loc} (hx : Ready py d x) (h : Ready py d s)
    (hlocks : Compatible x s) : Ready py ((automationSystem py).view d s.writes) x := by
  refine ⟨hx.nodup, fun key hkey hmem => ?_, hx.locked, hx.activities, fun c config rest hl => ?_⟩
  · rw [tasks_view, keys_append, List.mem_append] at hmem
    rcases hmem with hmem | hmem
    · exact hx.fresh key hkey hmem
    · -- both have the key, and the index lets one of them have it
      cases hlocks.not_both (hx.locked key hkey) (h.locked key hmem)
  · rw [tasks_view, keys_append]
    rcases List.mem_append.1 (hx.refused c config rest hl) with hmem | hmem
    · exact List.mem_append_left _ (List.mem_append_left _ hmem)
    · exact List.mem_append_right _ hmem

theorem threadModular (py : Interpreter) :
    ThreadModular (automationSystem py) (fun _ _ => True) (fun d _ => Consistent py d) (Ready py) where
  exec := by
    intro w t x locks ws l' hw _ hx ha
    obtain ⟨l, hl, hn⟩ := RowLaw.eq_some_of_action ha
    exact (hw.session t x hx).statement hl hn
  commit := by
    intro w t x l' hw _ hx ha
    obtain ⟨l, hl, hn⟩ := RowLaw.eq_some_of_action ha
    obtain ⟨rfl, rfl⟩ := commit_cases hn
    exact ⟨(hw.session t x hx).commit hw.db hl, ready_closed _⟩
  interfere := by
    intro w t x l' t' y hw _ hx ha hy hne
    exact (hw.session t' y hy).interfere (hw.session t x hx) (hw.locks t' t y x hy hx hne)
  rollback := by
    intro w t x l' _ _ ha
    obtain ⟨l, -, hn⟩ := RowLaw.eq_some_of_action ha
    rw [rollback_cases hn]
    exact ready_closed _
  kill := ready_closed

end Invariant

/-- Transactions that have not begun. -/
def Database.concurrently (d : Database) (programs : List (List Statement)) : World Database Write TaskKey Loc :=
  ⟨d, (programs.map Loc.next).map .fresh, []⟩

theorem holds_concurrently {py : Interpreter} {d : Database} (hd : Consistent py d) {programs : List (List Statement)}
    {es : List Event} {w : World Database Write TaskKey Loc}
    (h : Run (automationSystem py).Step (d.concurrently programs) es w) :
    Holds (fun d _ => Consistent py d) (Ready py) w := by
  refine (threadModular py).run (Holds.start hd fun l hl => ?_) (h.mono fun _ _ _ hstep => ⟨trivial, hstep⟩)
  obtain ⟨program, -, rfl⟩ := List.mem_map.1 hl
  exact ready_fresh d program

/-- The automation creates one task. However the calls and the other statements of any
transactions interleave, a process run has one task of a key at most, and as many activities
of the automation are there as tasks that were created with one. A call whose insert the index
refuses goes on to the task that is there, and then to the rest of its transaction, which keeps
all it has written. -/
theorem one_task (py : Interpreter) (d : Database) (hd : Consistent py d) (programs : List (List Statement))
    (es : List Event) (w : World Database Write TaskKey Loc)
    (h : Run (automationSystem py).Step (d.concurrently programs) es w) :
    (keys w.db.tasks).Nodup ∧
    w.db.activities.length = (w.db.tasks.filter (·.createActivity)).length ∧
    ∀ (t : ℕ) s c config rest, w.sessions[t]? = some s →
      (s.loc = some (.insert c config rest) →
        (((automationSystem py).view w.db s.writes).getExisting (c.key config)).isSome →
        (automationSystem py).Step w (.turn t)
          { w with sessions := w.sessions.set t { s with loc := some (.recover c config rest) } }) ∧
      (s.loc = some (.recover c config rest) →
        (automationSystem py).Step w (.turn t)
          { w with sessions := w.sessions.set t { s with loc := some (.next rest) } }) := by
  have hw := holds_concurrently hd h
  refine ⟨hw.db.unique, ?_, fun t s c config rest hs => ⟨fun hl hsome => ?_, fun hl => ?_⟩⟩
  · rw [hw.db.activities]
    exact List.length_map _
  · refine (automationSystem py).step_exec_nil hs hl ?_
    exact if_pos hsome
  · have hthere := (hw.session t s hs).refused c config rest hl
    rw [← keys_append, ← tasks_view py, ← getExisting_isSome_iff] at hthere
    obtain ⟨task, htask⟩ := Option.isSome_iff_exists.1 hthere
    refine (automationSystem py).step_exec_nil hs hl ?_
    show next py (.recover c config rest) _ = _
    simp only [next, htask]

section Examples

/-- An identifier and a time as they read in the example. -/
def demoInterpreter : Interpreter where
  uuid s := if s = "00000000-0000-0000-0000-000000000007" then some 7 else none
  int
    | .int n => some n
    | _ => none
  isoformat _ := "1970-01-01T04:00:00+00:00"

def demoBlock : JsonObject :=
  ((∅ : JsonObject).set "enabled" (.bool true) (.bool true)).set "default_assignee_user_id"
    (.str "00000000-0000-0000-0000-000000000007") (.str _)

/-- The tenants' configuration: the automation is on. -/
def demoIndustry : JsonObject :=
  let consulting := (∅ : JsonObject).set "lead_automation" (.obj demoBlock.members) demoBlock.canonical
  (∅ : JsonObject).set "consulting" (.obj consulting.members) consulting.canonical

def demoDatabase : Database where
  industry _ := some demoIndustry
  activeMembers _ := true
  activeUsers _ := true
  tasks := []
  activities := []
  rows := []

def demoCall : Call := ⟨1, 5, 3, 8, 0⟩

/-- Two transactions that start the automation of one process run, with a row before it and one
after it. -/
def demoPrograms : List (List Statement) :=
  [[.work (.row 1), .invoke demoCall, .work (.row 2)], [.work (.row 3), .invoke demoCall, .work (.row 4)]]

/-- The theorem where both have looked for the task before either has inserted it: the second
waits for the first, takes its task, and commits both of its rows. -/
theorem one_task_race : ∃ es w,
    Run (automationSystem demoInterpreter).Step (demoDatabase.concurrently demoPrograms) es w ∧
      (keys w.db.tasks).Nodup ∧ w.db.tasks.length = 1 ∧ w.db.activities.length = 1 ∧ w.db.rows = [1, 2, 3, 4] := by
  let es : List Event := List.replicate 4 (.turn 0) ++ List.replicate 4 (.turn 1) ++ List.replicate 4 (.turn 0) ++
    List.replicate 4 (.turn 1)
  have hrun : (execute? (fun _ _ => True) (automationSystem demoInterpreter).step?
      (demoDatabase.concurrently demoPrograms) es).map (fun w => (w.db.tasks.length,
        (w.db.tasks.filter (·.createActivity)).length, w.db.rows)) = some (1, 1, [1, 2, 3, 4]) := by
    decide
  obtain ⟨w, hw, hdb⟩ := Option.map_eq_some_iff.1 hrun
  simp only [Prod.mk.injEq] at hdb
  obtain ⟨htasks, hannounced, hrows⟩ := hdb
  have hsteps := (Run.of_execute? hw).of_restrict
  obtain ⟨hunique, hactivities, -⟩ := one_task demoInterpreter demoDatabase ⟨List.nodup_nil, rfl⟩ demoPrograms es w hsteps
  exact ⟨es, w, hsteps, hunique, htasks, hactivities.trans hannounced, hrows⟩

end Examples

end CoreOps.Workflows
