import CoreOps.Lib.Checked
import CoreOps.Lib.JsonObject
import CoreOps.Lib.ReadCommitted
import CoreOps.Lib.Text
import Mathlib.Logic.Function.Basic

/-! The automation that gives a new process run its task of first contact. A call reads the
tenant's configuration, looks for the task, and otherwise inserts it within a savepoint: where
another call has inserted it first, the unique index refuses, the savepoint goes back, and the
call takes the task that is there. Any number of transactions make such calls between their
other statements. -/

namespace CoreOps.Workflows

open Checked Text ReadCommitted

def defaultSlaMinutes : ℤ := 240

def maxSlaMinutes : ℤ := 10080

def defaultTaskTemplateCode : String := "consulting_first_contact"

def taskTitle : String := "Связаться с лидом"

inductive LeadAutomationError
  | config (message : String)
  | conflict (message : String)
  deriving DecidableEq, Repr

structure LeadAutomationConfig where
  defaultAssigneeUserId : ℕ
  firstContactSlaMinutes : ℤ
  taskTemplateCode : String
  createActivity : Bool
  deriving DecidableEq, Repr

/-- What the interpreter reads: `uuid.UUID` of a text, `int` of a document, and the text of a
time. -/
structure Interpreter where
  uuid : String → Option ℕ
  int : Json → Option ℤ
  isoformat : ℤ → String

section Config

variable (py : Interpreter)

/-- `_parse_uuid`, of a document. -/
def parseUuid (field : String) : Json → Except LeadAutomationError ℕ
  | .str value => orRaise (py.uuid (strip value)) (.config s!"lead_automation.{field} must be a valid UUID")
  | _ => .error (.config s!"lead_automation.{field} must be a valid UUID")

/-- A text with something in it. -/
def nonEmptyText : Json → Option String
  | .str s => if strip s = "" then none else some (strip s)
  | _ => none

def boolean? : Json → Option Bool
  | .bool b => some b
  | _ => none

/-- Whether the value of the assignee is there. -/
def isGiven : Json → Bool
  | .null => false
  | .str s => s ≠ ""
  | _ => true

/-- The block of an enabled automation. -/
def readBlock (raw : JsonObject) : Except LeadAutomationError LeadAutomationConfig := do
  let assigneeRaw ← orRaise ((raw.get? "default_assignee_user_id").filter isGiven)
    (.config "lead_automation.enabled requires default_assignee_user_id")
  let assigneeId ← parseUuid py "default_assignee_user_id" assigneeRaw
  let slaMinutes ← orRaise (py.int ((raw.get? "first_contact_sla_minutes").getD (.int defaultSlaMinutes)))
    (.config "lead_automation.first_contact_sla_minutes must be an integer")
  raiseIf (slaMinutes < 1 ∨ maxSlaMinutes < slaMinutes)
    (.config "lead_automation.first_contact_sla_minutes must be an integer between 1 and 10080 inclusive")
  let templateCode ← orRaise (nonEmptyText ((raw.get? "task_template_code").getD (.str defaultTaskTemplateCode)))
    (.config "lead_automation.task_template_code must be a non-empty string")
  raiseIf (64 < templateCode.length)
    (.config "lead_automation.task_template_code must be at most 64 characters")
  let createActivity ← orRaise (boolean? ((raw.get? "create_activity").getD (.bool true)))
    (.config "lead_automation.create_activity must be a boolean")
  return ⟨assigneeId, slaMinutes, templateCode, createActivity⟩

def isTrue : Json → Bool
  | .bool b => b
  | _ => false

/-- `load_lead_automation_config`, of the configuration in the tenant's settings. -/
def loadLeadAutomationConfig (industry : Option JsonObject) :
    Except LeadAutomationError (Option LeadAutomationConfig) :=
  match (industry.bind fun o => o.object? "consulting").bind fun o => o.object? "lead_automation" with
  | none => return none
  | some raw =>
    if (raw.get? "enabled").any isTrue then do
      let config ← readBlock py raw
      return some config
    else return none

end Config

/-! The rows. -/

structure Task where
  tenantId : ℕ
  workItemId : ℕ
  processRunId : ℕ
  automationKey : String
  title : String
  dueAt : ℤ
  assignedToUserId : ℕ
  createdByUserId : ℕ
  deriving DecidableEq, Repr

abbrev TaskKey := ℕ × ℕ × String

/-- The columns of `uq_tasks_tenant_process_run_automation_key`. -/
def Task.key (t : Task) : TaskKey := (t.tenantId, t.processRunId, t.automationKey)

structure Activity where
  tenantId : ℕ
  workItemId : ℕ
  title : String
  description : String
  createdByUserId : ℕ
  deriving DecidableEq, Repr

/-- The activity that tells of the task. -/
def taskActivity (py : Interpreter) (t : Task) : Activity where
  tenantId := t.tenantId
  workItemId := t.workItemId
  title := "Автозадача первого контакта создана"
  description :=
    let title := t.title
    let key := t.automationKey
    let assignee := toString t.assignedToUserId
    let due := py.isoformat t.dueAt
    s!"Создана задача «{title}» (automation_key={key}, assignee={assignee}, due_at={due})."
  createdByUserId := t.createdByUserId

/-- A task of the automation, with what its call's configuration said of the activity: the row
does not keep it. -/
structure CreatedTask where
  task : Task
  createActivity : Bool
  deriving DecidableEq, Repr

/-- A write that is not the automation's: to what it reads, or a row of its own. -/
inductive Work
  | industry (tenantId : ℕ) (document : Option JsonObject)
  | membership (tenantId userId : ℕ) (isActive : Bool)
  | user (userId : ℕ) (isActive : Bool)
  | row (content : ℕ)

inductive Write
  | task (c : CreatedTask)
  | activity (a : Activity)
  | work (w : Work)

/-- Times are in minutes. -/
structure Database where
  industry : ℕ → Option JsonObject
  activeMembers : ℕ × ℕ → Bool
  activeUsers : ℕ → Bool
  tasks : List CreatedTask
  activities : List Activity
  rows : List ℕ

def Database.apply (d : Database) : Write → Database
  | .task c => { d with tasks := d.tasks ++ [c] }
  | .activity a => { d with activities := d.activities ++ [a] }
  | .work (.industry tenantId document) => { d with industry := Function.update d.industry tenantId document }
  | .work (.membership tenantId userId isActive) =>
    { d with activeMembers := Function.update d.activeMembers (tenantId, userId) isActive }
  | .work (.user userId isActive) => { d with activeUsers := Function.update d.activeUsers userId isActive }
  | .work (.row content) => { d with rows := d.rows ++ [content] }

/-- `_get_existing_automation_task`. -/
def Database.getExisting (d : Database) (key : TaskKey) : Option Task :=
  (d.tasks.find? fun c => c.task.key = key).map CreatedTask.task

/-- `_assert_assignee_active_same_tenant`. -/
def assertAssigneeActiveSameTenant (d : Database) (tenantId userId : ℕ) : Except LeadAutomationError Unit := do
  raiseIf (¬ d.activeMembers (tenantId, userId))
    (.config "lead_automation.default_assignee_user_id must be an active member of the tenant")
  raiseIf (¬ d.activeUsers userId) (.config "lead_automation.default_assignee_user_id must be an active user")

/-! The transactions. -/

/-- A call after a process run has started, and what the clock shows it. -/
structure Call where
  tenantId : ℕ
  processRunId : ℕ
  workItemId : ℕ
  actorUserId : ℕ
  now : ℤ
  deriving DecidableEq, Repr

def Call.key (c : Call) (config : LeadAutomationConfig) : TaskKey :=
  (c.tenantId, c.processRunId, config.taskTemplateCode)

def Call.task (c : Call) (config : LeadAutomationConfig) : Task where
  tenantId := c.tenantId
  workItemId := c.workItemId
  processRunId := c.processRunId
  automationKey := config.taskTemplateCode
  title := taskTitle
  dueAt := c.now + config.firstContactSlaMinutes
  assignedToUserId := config.defaultAssigneeUserId
  createdByUserId := c.actorUserId

/-- What a transaction does, one after the other. -/
inductive Statement
  | work (w : Work)
  | invoke (c : Call)

/-- Where a transaction stands: between its statements, or within a call. -/
inductive Loc
  | next (rest : List Statement)
  | checkAssignee (c : Call) (config : LeadAutomationConfig) (rest : List Statement)
  | lookUp (c : Call) (config : LeadAutomationConfig) (rest : List Statement)
  | insert (c : Call) (config : LeadAutomationConfig) (rest : List Statement)
  | recover (c : Call) (config : LeadAutomationConfig) (rest : List Statement)
  | recordActivity (task : Task) (rest : List Statement)

section System

variable (py : Interpreter)

/-- The next statement. An exception is the caller's, which rolls back; the insert waits for
another transaction that has inserted the key and is not over, as the index makes it. -/
def next : Loc → Database → Action TaskKey Write Loc
  | .next [], _ => .commit none
  | .next (.work w :: rest), _ => .exec [] [.work w] (.next rest)
  | .next (.invoke c :: rest), d =>
    match loadLeadAutomationConfig py (d.industry c.tenantId) with
    | .error _ => .rollback none
    | .ok none => .exec [] [] (.next rest)
    | .ok (some config) => .exec [] [] (.checkAssignee c config rest)
  | .checkAssignee c config rest, d =>
    match assertAssigneeActiveSameTenant d c.tenantId config.defaultAssigneeUserId with
    | .error _ => .rollback none
    | .ok _ => .exec [] [] (.lookUp c config rest)
  | .lookUp c config rest, d =>
    match d.getExisting (c.key config) with
    | some _ => .exec [] [] (.next rest)
    | none => .exec [] [] (.insert c config rest)
  | .insert c config rest, d =>
    -- the unique index: a refused insert takes back its savepoint, and that only
    if (d.getExisting (c.key config)).isSome then .exec [] [] (.recover c config rest)
    else .exec [(c.key config, .update)] [.task ⟨c.task config, config.createActivity⟩]
      (if config.createActivity then .recordActivity (c.task config) rest else .next rest)
  | .recover c config rest, d =>
    match d.getExisting (c.key config) with
    | some _ => .exec [] [] (.next rest)
    -- LeadAutomationConflictError
    | none => .rollback none
  | .recordActivity task rest, _ => .exec [] [.activity (taskActivity py task)] (.next rest)

def automationSystem : System Database Write TaskKey Loc where
  apply := Database.apply
  next := next py

end System

end CoreOps.Workflows
