import Mathlib.Data.Int.Notation
import CoreOps.Lib.Checked
import CoreOps.Lib.Table

/-! Proposals of AI agents: what an agent proposes is approved or rejected by a user
while it is pending, and executed, with an approval first when the action is critical
and its agent asks for one. A method returns the state its transaction commits, or the
exception it raises, after which nothing of it is left. Instants are microseconds,
users are numbers, and a payload is its text. -/

namespace CoreOps.AI

open Checked

inductive AIActionProposalStatus
  | pending
  | approved
  | rejected
  | executed
  | expired
  | cancelled
  deriving DecidableEq, Repr

/-- `.value` of a status, as messages show it. -/
def AIActionProposalStatus.value : AIActionProposalStatus → String
  | .pending => "pending"
  | .approved => "approved"
  | .rejected => "rejected"
  | .executed => "executed"
  | .expired => "expired"
  | .cancelled => "cancelled"

inductive AIApprovalDecision
  | approved
  | rejected
  deriving DecidableEq, Repr

inductive AIActionType
  | sendDocument
  | createInvoice
  | updatePayment
  | deleteData
  | sendMessage
  | changeWorkItemStatus
  | updateLegalProfile
  | other
  deriving DecidableEq, Repr

def criticalActionTypes : List AIActionType :=
  [.sendDocument, .createInvoice, .updatePayment, .deleteData, .sendMessage, .changeWorkItemStatus,
    .updateLegalProfile]

def isCriticalAction (actionType : AIActionType) : Bool := actionType ∈ criticalActionTypes

structure AIAgent where
  tenantId : ℕ
  requiresApprovalForCritical : Bool
  deriving DecidableEq, Repr

/-- What an execution leaves: it is mocked, with no side effect on other data. -/
structure ExecutionResult where
  executedByUserId : ℕ
  actionType : AIActionType
  deriving DecidableEq, Repr

structure AIActionProposal where
  tenantId : ℕ
  agentId : ℕ
  taskId : Option ℕ
  actionType : AIActionType
  status : AIActionProposalStatus
  title : String
  description : Option String
  payload : String
  targetEntityType : Option String
  targetEntityId : Option ℕ
  isCritical : Bool
  expiresAt : Option ℤ
  executedAt : Option ℤ
  executionResult : Option ExecutionResult
  deriving DecidableEq, Repr

structure AIApproval where
  tenantId : ℕ
  proposalId : ℕ
  approverUserId : ℕ
  decision : AIApprovalDecision
  comment : Option String
  decidedAt : ℤ
  deriving DecidableEq, Repr

/-- The rows the service reads and writes. Tasks are held by their tenants, approvals
are in the order they were inserted. -/
structure State where
  agents : Table ℕ AIAgent
  tasks : Table ℕ ℕ
  proposals : Table ℕ AIActionProposal
  approvals : List AIApproval

structure AIActionProposalCreate where
  agentId : ℕ
  taskId : Option ℕ
  actionType : AIActionType
  title : String
  description : Option String
  payload : String
  targetEntityType : Option String
  targetEntityId : Option ℕ

inductive AIError
  | notFound (message : String)
  | conflict (message : String)
  | permissionDenied (message : String)
  | integrityError
  deriving DecidableEq, Repr

section Lookup

variable (s : State) (tenantId : ℕ)

def getAgentOr404 (agentId : ℕ) : Except AIError AIAgent :=
  orRaise ((s.agents.get? agentId).filter fun a => a.tenantId = tenantId) (.notFound "AI agent not found")

/-- The task a payload names, if it names one. -/
def getTaskOr404 (taskId : Option ℕ) : Except AIError Unit :=
  raiseIf (¬ taskId.all fun id => s.tasks.get? id = some tenantId) (.notFound "AI task not found")

def getProposalOr404 (proposalId : ℕ) : Except AIError AIActionProposal :=
  orRaise ((s.proposals.get? proposalId).filter fun p => p.tenantId = tenantId)
    (.notFound "AI action proposal not found")

end Lookup

/-- `timedelta(days=7)`. -/
def expiryPeriod : ℤ := 7 * 24 * 60 * 60 * 1000000

def newProposal (tenantId : ℕ) (payload : AIActionProposalCreate) (now : ℤ) : AIActionProposal where
  tenantId := tenantId
  agentId := payload.agentId
  taskId := payload.taskId
  actionType := payload.actionType
  status := .pending
  title := payload.title
  description := payload.description
  payload := payload.payload
  targetEntityType := payload.targetEntityType
  targetEntityId := payload.targetEntityId
  isCritical := isCriticalAction payload.actionType
  expiresAt := some (now + expiryPeriod)
  executedAt := none
  executionResult := none

/-- `proposalId` is the generated key of the new row. -/
def createProposal (tenantId proposalId : ℕ) (payload : AIActionProposalCreate) (now : ℤ) (s : State) :
    Except AIError State := do
  let _ ← getAgentOr404 s tenantId payload.agentId
  getTaskOr404 s tenantId payload.taskId
  raiseIf ((s.proposals.get? proposalId).isSome) .integrityError
  return { s with proposals := s.proposals.insert proposalId (newProposal tenantId payload now) }

def isExpired (now expiresAt : ℤ) : Bool := expiresAt < now

/-- `_ensure_pending`. It also sets an expired proposal to EXPIRED, but the exception
that follows rolls that back. -/
def ensurePending (now : ℤ) (proposal : AIActionProposal) : Except AIError Unit := do
  let status := proposal.status.value
  raiseIf (proposal.status ≠ .pending) (.conflict s!"Proposal is not pending (status: {status})")
  raiseIf (proposal.expiresAt.any (isExpired now)) (.conflict "Proposal has expired")

def AIActionProposal.setStatus (status : AIActionProposalStatus) (p : AIActionProposal) : AIActionProposal :=
  { p with status := status }

def State.modifyProposal (s : State) (proposalId : ℕ) (f : AIActionProposal → AIActionProposal) : State :=
  { s with proposals := s.proposals.modify proposalId f }

/-- A user's decision on a proposal. The clock is read for the expiry, and again for
the time of the decision. -/
structure DecisionArgs where
  tenantId : ℕ
  userId : ℕ
  proposalId : ℕ
  comment : Option String
  now : ℤ
  decidedAt : ℤ

def DecisionArgs.approval (a : DecisionArgs) (decision : AIApprovalDecision) : AIApproval where
  tenantId := a.tenantId
  proposalId := a.proposalId
  approverUserId := a.userId
  decision := decision
  comment := a.comment
  decidedAt := a.decidedAt

/-- The status a decision gives the proposal. -/
def AIApprovalDecision.status : AIApprovalDecision → AIActionProposalStatus
  | .approved => .approved
  | .rejected => .rejected

/-- `approve_proposal` and `reject_proposal`. -/
def decideProposal (decision : AIApprovalDecision) (a : DecisionArgs) (s : State) : Except AIError State := do
  let proposal ← getProposalOr404 s a.tenantId a.proposalId
  ensurePending a.now proposal
  return { s with approvals := s.approvals ++ [a.approval decision] }.modifyProposal a.proposalId
    (AIActionProposal.setStatus decision.status)

def approveProposal : DecisionArgs → State → Except AIError State := decideProposal .approved

def rejectProposal : DecisionArgs → State → Except AIError State := decideProposal .rejected

/-- The guards of an execution. -/
def assertExecutable (agent : AIAgent) (proposal : AIActionProposal) : Except AIError Unit := do
  raiseIf (proposal.status = .executed) (.conflict "Proposal already executed")
  raiseIf (proposal.status = .rejected) (.conflict "Rejected proposals cannot be executed")
  raiseIf (proposal.status = .cancelled) (.conflict "Cancelled proposals cannot be executed")
  raiseIf (proposal.isCritical ∧ agent.requiresApprovalForCritical ∧ proposal.status ≠ .approved)
    (.permissionDenied "Critical AI actions require human approval before execution")

def AIActionProposal.execute (userId : ℕ) (now : ℤ) (p : AIActionProposal) : AIActionProposal :=
  { p with status := .executed, executedAt := some now, executionResult := some ⟨userId, p.actionType⟩ }

/-- The proposal and its agent, as an execution reads them. -/
def readExecution (tenantId proposalId : ℕ) (s : State) : Except AIError (AIActionProposal × AIAgent) := do
  let proposal ← getProposalOr404 s tenantId proposalId
  let agent ← getAgentOr404 s tenantId proposal.agentId
  return (proposal, agent)

def executeProposal (tenantId userId proposalId : ℕ) (now : ℤ) (s : State) : Except AIError State := do
  let (proposal, agent) ← readExecution tenantId proposalId s
  assertExecutable agent proposal
  return s.modifyProposal proposalId (AIActionProposal.execute userId now)

inductive Op
  | createProposal (tenantId proposalId : ℕ) (payload : AIActionProposalCreate) (now : ℤ)
  | approve (a : DecisionArgs)
  | reject (a : DecisionArgs)
  | execute (tenantId userId proposalId : ℕ) (now : ℤ)

def exec (s : State) : Op → Except AIError State
  | .createProposal tenantId proposalId payload now => createProposal tenantId proposalId payload now s
  | .approve a => approveProposal a s
  | .reject a => rejectProposal a s
  | .execute tenantId userId proposalId now => executeProposal tenantId userId proposalId now s

/-- The call that takes a decision. -/
def AIApprovalDecision.op (a : DecisionArgs) : AIApprovalDecision → Op
  | .approved => .approve a
  | .rejected => .reject a

/-! What the calls do. -/

variable {s s' : State} {tenantId proposalId : ℕ} {proposal : AIActionProposal}

theorem getProposalOr404_eq_ok : getProposalOr404 s tenantId proposalId = .ok proposal ↔
    s.proposals.get? proposalId = some proposal ∧ proposal.tenantId = tenantId := by
  simp [getProposalOr404, Option.filter_eq_some_iff]

theorem ensurePending_ok {now : ℤ} {u : Unit} (h : ensurePending now proposal = .ok u) :
    proposal.status = .pending ∧ ∀ t ∈ proposal.expiresAt, now ≤ t := by
  simp only [ensurePending, bind_eq_ok, raiseIf_eq_ok, not_not] at h
  obtain ⟨-, hpending, htime⟩ := h
  refine ⟨hpending, fun t ht => ?_⟩
  rw [Option.mem_def.1 ht, Option.any_some, isExpired, decide_eq_true_eq] at htime
  omega

theorem decideProposal_ok {decision : AIApprovalDecision} {a : DecisionArgs}
    (h : decideProposal decision a s = .ok s') : ∃ proposal, s.proposals.get? a.proposalId = some proposal ∧
      proposal.status = .pending ∧ (∀ t ∈ proposal.expiresAt, a.now ≤ t) ∧
      s' = { s with approvals := s.approvals ++ [a.approval decision] }.modifyProposal a.proposalId
        (AIActionProposal.setStatus decision.status) := by
  simp only [decideProposal, bind_eq_ok, pure_eq_ok, getProposalOr404_eq_ok] at h
  obtain ⟨proposal, ⟨hget, -⟩, u, hpending, rfl⟩ := h
  obtain ⟨hstatus, htime⟩ := ensurePending_ok hpending
  exact ⟨proposal, hget, hstatus, htime, rfl⟩

theorem readExecution_ok {agent : AIAgent} (h : readExecution tenantId proposalId s = .ok (proposal, agent)) :
    s.proposals.get? proposalId = some proposal ∧ s.agents.get? proposal.agentId = some agent := by
  simp only [readExecution, getAgentOr404, bind_eq_ok, pure_eq_ok, getProposalOr404_eq_ok, orRaise_eq_ok,
    Option.filter_eq_some_iff, Prod.mk.injEq] at h
  obtain ⟨_, ⟨hget, -⟩, _, ⟨hagent, -⟩, rfl, rfl⟩ := h
  exact ⟨hget, hagent⟩

/-- Every accepted call adds a pending proposal, decides a pending one that has not
expired, or executes one that its guards let through. -/
theorem exec_cases {op : Op} (h : exec s op = .ok s') :
    (∃ tenantId proposalId payload now, op = .createProposal tenantId proposalId payload now ∧
      s.proposals.get? proposalId = none ∧
      s' = { s with proposals := s.proposals.insert proposalId (newProposal tenantId payload now) }) ∨
    (∃ decision a proposal, op = AIApprovalDecision.op a decision ∧ s.proposals.get? a.proposalId = some proposal ∧
      proposal.status = .pending ∧ (∀ t ∈ proposal.expiresAt, a.now ≤ t) ∧
      s' = { s with approvals := s.approvals ++ [a.approval decision] }.modifyProposal a.proposalId
        (AIActionProposal.setStatus decision.status)) ∨
    ∃ tenantId userId proposalId now proposal agent, op = .execute tenantId userId proposalId now ∧
      readExecution tenantId proposalId s = .ok (proposal, agent) ∧ assertExecutable agent proposal = .ok () ∧
      s' = s.modifyProposal proposalId (AIActionProposal.execute userId now) := by
  cases op with
  | createProposal tenantId proposalId payload now =>
    simp only [exec, createProposal, bind_eq_ok, raiseIf_eq_ok, pure_eq_ok, Option.not_isSome_iff_eq_none] at h
    obtain ⟨-, -, -, -, -, hnone, rfl⟩ := h
    exact .inl ⟨tenantId, proposalId, payload, now, rfl, hnone, rfl⟩
  | approve a =>
    obtain ⟨proposal, hproposal⟩ := decideProposal_ok h
    exact .inr (.inl ⟨.approved, a, proposal, rfl, hproposal⟩)
  | reject a =>
    obtain ⟨proposal, hproposal⟩ := decideProposal_ok h
    exact .inr (.inl ⟨.rejected, a, proposal, rfl, hproposal⟩)
  | execute tenantId userId proposalId now =>
    simp only [exec, executeProposal, bind_eq_ok, pure_eq_ok, Prod.exists] at h
    obtain ⟨proposal, agent, hread, u, hguards, rfl⟩ := h
    exact .inr (.inr ⟨tenantId, userId, proposalId, now, proposal, agent, rfl, hread, hguards, rfl⟩)

end CoreOps.AI
