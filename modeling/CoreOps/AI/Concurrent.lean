import CoreOps.Lib.Serial
import CoreOps.AI.Service

/-! Decisions and executions as they interleave under READ COMMITTED. Each reads the
proposal without a lock and looks at its status there; the row is locked by the UPDATE
that sets the new status, which does not look at the old one again. The insert of an
approval only takes the key lock of its foreign key, which other writers of the
proposal do not wait for. -/

namespace CoreOps.AI

open Checked ReadCommitted

inductive Write
  | createApproval (approval : AIApproval)
  | setStatus (proposalId : ℕ) (status : AIActionProposalStatus)
  | execute (proposalId userId : ℕ) (now : ℤ)

def applyWrite (s : State) : Write → State
  | .createApproval approval => { s with approvals := s.approvals ++ [approval] }
  | .setStatus proposalId status => s.modifyProposal proposalId (AIActionProposal.setStatus status)
  | .execute proposalId userId now => s.modifyProposal proposalId (AIActionProposal.execute userId now)

structure ExecutionArgs where
  tenantId : ℕ
  userId : ℕ
  proposalId : ℕ
  now : ℤ

inductive Request
  | decide (decision : AIApprovalDecision) (a : DecisionArgs)
  | execute (a : ExecutionArgs)

inductive Loc
  | readProposal (decision : AIApprovalDecision) (a : DecisionArgs)
  | expire (a : DecisionArgs)
  | raise
  | createApproval (decision : AIApprovalDecision) (a : DecisionArgs)
  | flushStatus (decision : AIApprovalDecision) (a : DecisionArgs)
  | readExecution (a : ExecutionArgs)
  | flushExecution (a : ExecutionArgs)
  | done

def Request.start : Request → Loc
  | .decide decision a => .readProposal decision a
  | .execute a => .readExecution a

/-- Rows are proposals, by their ids. An expired proposal is set to EXPIRED before the
exception that rolls it back. -/
def next : Loc → State → Action ℕ Write Loc
  | .readProposal decision a, s =>
    match getProposalOr404 s a.tenantId a.proposalId with
    | .error _ => .rollback none
    | .ok proposal =>
      match ensurePending a.now proposal with
      | .ok _ => .exec [] [] (.createApproval decision a)
      | .error _ => if proposal.status = .pending then .exec [] [] (.expire a) else .rollback none
  | .expire a, _ => .exec [(a.proposalId, .noKeyUpdate)] [.setStatus a.proposalId .expired] .raise
  | .raise, _ => .rollback none
  | .createApproval decision a, _ =>
    .exec [(a.proposalId, .keyShare)] [.createApproval (a.approval decision)] (.flushStatus decision a)
  | .flushStatus decision a, _ =>
    .exec [(a.proposalId, .noKeyUpdate)] [.setStatus a.proposalId decision.status] .done
  | .readExecution a, s =>
    match readExecution a.tenantId a.proposalId s with
    | .error _ => .rollback none
    | .ok (proposal, agent) =>
      match assertExecutable agent proposal with
      | .error _ => .rollback none
      | .ok _ => .exec [] [] (.flushExecution a)
  | .flushExecution a, _ =>
    .exec [(a.proposalId, .noKeyUpdate)] [.execute a.proposalId a.userId a.now] .done
  | .done, _ => .commit none

def proposalSystem : System State Write ℕ Loc := ⟨applyWrite, next⟩

def State.concurrently (s : State) (requests : List Request) : World State Write ℕ Loc :=
  ⟨s, (requests.map Request.start).map .fresh, []⟩

def statusOf (s : State) (proposalId : ℕ) : Option AIActionProposalStatus :=
  (s.proposals.get? proposalId).map (·.status)

/-- The status an approval, a rejection or an execution overwrites is not that of a
decision it contradicts. -/
def Agrees : Loc → State → Prop
  | .flushStatus .approved a, s => statusOf s a.proposalId ≠ some .rejected
  | .flushStatus .rejected a, s =>
    statusOf s a.proposalId ≠ some .approved ∧ statusOf s a.proposalId ≠ some .executed
  | .flushExecution a, s => statusOf s a.proposalId ≠ some .rejected
  | _, _ => True

instance : ∀ l s, Decidable (Agrees l s)
  | .flushStatus .approved a, s => inferInstanceAs (Decidable (statusOf s a.proposalId ≠ some .rejected))
  | .flushStatus .rejected a, s =>
    inferInstanceAs (Decidable (statusOf s a.proposalId ≠ some .approved ∧ statusOf s a.proposalId ≠ some .executed))
  | .flushExecution a, s => inferInstanceAs (Decidable (statusOf s a.proposalId ≠ some .rejected))
  | .readProposal .., _ | .expire .., _ | .raise, _ | .createApproval .., _ | .readExecution .., _ | .done, _ =>
    inferInstanceAs (Decidable True)

/-! The records of a proposal and its status. -/

/-- An approval record with this decision exists. -/
def HasRecord (s : State) (proposalId : ℕ) (decision : AIApprovalDecision) : Prop :=
  ∃ a ∈ s.approvals, a.proposalId = proposalId ∧ a.decision = decision

instance (s : State) (proposalId : ℕ) (decision : AIApprovalDecision) : Decidable (HasRecord s proposalId decision) :=
  inferInstanceAs (Decidable (∃ a ∈ s.approvals, _))

/-- The proposal has been executed. -/
def AIActionProposal.Executed (p : AIActionProposal) : Prop := p.status = .executed ∨ p.executedAt ≠ none

/-- The proposal is critical and its agent requires an approval. -/
def NeedsApproval (s : State) (p : AIActionProposal) : Prop :=
  p.isCritical = true ∧ ∃ agent ∈ s.agents.get? p.agentId, agent.requiresApprovalForCritical = true

instance (s : State) (p : AIActionProposal) : Decidable (NeedsApproval s p) :=
  inferInstanceAs (Decidable (_ ∧ ∃ agent ∈ s.agents.get? p.agentId, _))

structure ProposalOk (s : State) (id : ℕ) (p : AIActionProposal) : Prop where
  rejected : HasRecord s id .rejected → p.status = .rejected
  approved : p.status = .approved → HasRecord s id .approved
  executed : p.Executed → p.status = .executed ∨ p.status = .approved
  critical : p.Executed → NeedsApproval s p → HasRecord s id .approved

/-- The records are of proposals, and agree with them. -/
structure Decided (s : State) : Prop where
  known : ∀ a ∈ s.approvals, (s.proposals.get? a.proposalId).isSome = true
  proposals : ∀ id p, s.proposals.get? id = some p → ProposalOk s id p

/-- What a transaction on one proposal leaves of the rest. -/
structure Frame (id : ℕ) (s s' : State) : Prop where
  agents : s'.agents = s.agents
  other : ∀ j, j ≠ id → s'.proposals.get? j = s.proposals.get? j
  kept : ∀ j p', s'.proposals.get? j = some p' → ∃ p, s.proposals.get? j = some p ∧
    p'.isCritical = p.isCritical ∧ p'.agentId = p.agentId
  present : ∀ j, (s'.proposals.get? j).isSome = (s.proposals.get? j).isSome
  records : s.approvals ⊆ s'.approvals

section Records

variable {s s' : State} {id j : ℕ} {p : AIActionProposal} {decision : AIApprovalDecision}

theorem Frame.hasRecord (h : Frame id s s') (hr : HasRecord s j decision) : HasRecord s' j decision := by
  obtain ⟨a, ha, hrest⟩ := hr
  exact ⟨a, h.records ha, hrest⟩

theorem Frame.needsApproval (h : Frame id s s') {p' : AIActionProposal} (hp' : s'.proposals.get? j = some p')
    (hneeds : NeedsApproval s' p') : ∃ p, s.proposals.get? j = some p ∧ NeedsApproval s p := by
  obtain ⟨p, hp, hcritical, hagent⟩ := h.kept j p' hp'
  refine ⟨p, hp, ?_⟩
  rw [NeedsApproval, hcritical, hagent, h.agents] at hneeds
  exact hneeds

theorem Frame.statusOf_eq (h : Frame id s s') (hj : j ≠ id) : statusOf s' j = statusOf s j := by
  rw [statusOf, statusOf, h.other j hj]

/-- New records of a proposal, and its row rewritten. -/
def State.decide (s : State) (id : ℕ) (approvals : List AIApproval) (f : AIActionProposal → AIActionProposal) : State :=
  { s with approvals := s.approvals ++ approvals }.modifyProposal id f

variable {approvals : List AIApproval} {f : AIActionProposal → AIActionProposal}

theorem frame_decide (hf : ∀ p, (f p).isCritical = p.isCritical ∧ (f p).agentId = p.agentId) :
    Frame id s (s.decide id approvals f) := by
  refine ⟨rfl, fun j hj => Table.get?_modify_of_ne _ hj f, fun j p' hp' => ?_, fun j => ?_,
    List.subset_append_left _ _⟩
  · simp only [State.decide, State.modifyProposal, Table.get?_modify] at hp'
    split at hp'
    · obtain ⟨p, hp, rfl⟩ := Option.map_eq_some_iff.1 hp'
      exact ⟨p, hp, hf p⟩
    · exact ⟨p', hp', rfl, rfl⟩
  · simp only [State.decide, State.modifyProposal, Table.get?_modify]
    split
    · exact Option.isSome_map
    · rfl

theorem hasRecord_decide : HasRecord (s.decide id approvals f) j decision ↔
    HasRecord s j decision ∨ ∃ a ∈ approvals, a.proposalId = j ∧ a.decision = decision := by
  simp only [HasRecord, State.decide, State.modifyProposal, List.mem_append, or_and_right, exists_or]

/-- Only the proposal itself has to be looked at again. -/
theorem decided_decide (h : Decided s) (hf : ∀ p, (f p).isCritical = p.isCritical ∧ (f p).agentId = p.agentId)
    (hids : ∀ a ∈ approvals, a.proposalId = id) (hknown : (s.proposals.get? id).isSome = true)
    (hok : ∀ p, s.proposals.get? id = some p → ProposalOk s id p → ProposalOk (s.decide id approvals f) id (f p)) :
    Decided (s.decide id approvals f) := by
  have hframe : Frame id s (s.decide id approvals f) := frame_decide hf
  refine ⟨fun a ha => ?_, fun j p' hp' => ?_⟩
  · rw [hframe.present]
    rcases List.mem_append.1 ha with ha | ha
    · exact h.known a ha
    · rw [hids a ha]
      exact hknown
  · by_cases hj : j = id
    · subst hj
      simp only [State.decide, State.modifyProposal, Table.get?_modify_self] at hp'
      obtain ⟨p, hp, rfl⟩ := Option.map_eq_some_iff.1 hp'
      exact hok p hp (h.proposals j p hp)
    · rw [hframe.other j hj] at hp'
      have hrecord : ∀ decision, HasRecord (s.decide id approvals f) j decision ↔ HasRecord s j decision := by
        intro decision
        rw [hasRecord_decide]
        refine or_iff_left ?_
        rintro ⟨a, ha, hid, -⟩
        exact hj (hid.symm.trans (hids a ha))
      obtain ⟨hrejected, happroved, hexecuted, hcritical⟩ := h.proposals j p' hp'
      refine ⟨?_, ?_, hexecuted, ?_⟩
      · rw [hrecord]
        exact hrejected
      · rw [hrecord]
        exact happroved
      · rw [hrecord]
        exact hcritical

theorem decided_approve (h : Decided s) (a : DecisionArgs) (hknown : (s.proposals.get? a.proposalId).isSome = true)
    (hstatus : statusOf s a.proposalId ≠ some .rejected) :
    Decided (s.decide a.proposalId [a.approval .approved] (AIActionProposal.setStatus .approved)) := by
  refine decided_decide h (fun p => ⟨rfl, rfl⟩) (fun b hb => by rw [List.mem_singleton.1 hb]; rfl) hknown
    fun p hp hok => ?_
  have hrecord : HasRecord (s.decide a.proposalId [a.approval .approved] (AIActionProposal.setStatus .approved))
      a.proposalId .approved := hasRecord_decide.2 (.inr ⟨_, List.mem_singleton.2 rfl, rfl, rfl⟩)
  refine ⟨fun hrejected => ?_, fun _ => hrecord, fun _ => .inr rfl, fun _ _ => hrecord⟩
  rcases hasRecord_decide.1 hrejected with hold | ⟨b, hb, -, hdecision⟩
  · exact absurd (by rw [statusOf, hp, Option.map_some, hok.rejected hold]) hstatus
  · rw [List.mem_singleton.1 hb] at hdecision
    cases hdecision

theorem decided_reject (h : Decided s) (a : DecisionArgs) (hknown : (s.proposals.get? a.proposalId).isSome = true)
    (happroved : statusOf s a.proposalId ≠ some .approved) (hexecuted : statusOf s a.proposalId ≠ some .executed) :
    Decided (s.decide a.proposalId [a.approval .rejected] (AIActionProposal.setStatus .rejected)) := by
  refine decided_decide h (fun p => ⟨rfl, rfl⟩) (fun b hb => by rw [List.mem_singleton.1 hb]; rfl) hknown
    fun p hp hok => ?_
  have hnot : ¬ (p.setStatus .rejected).Executed := by
    rintro (hstatus | htime)
    · cases hstatus
    · rcases hok.executed (.inr htime) with hstatus | hstatus
      · exact hexecuted (by rw [statusOf, hp, Option.map_some, hstatus])
      · exact happroved (by rw [statusOf, hp, Option.map_some, hstatus])
  exact ⟨fun _ => rfl, nofun, fun he => absurd he hnot, fun he => absurd he hnot⟩

theorem decided_execute (h : Decided s) {userId : ℕ} {now : ℤ} (hknown : (s.proposals.get? id).isSome = true)
    (hstatus : statusOf s id ≠ some .rejected)
    (happroved : ∀ p, s.proposals.get? id = some p → NeedsApproval s p → HasRecord s id .approved) :
    Decided (s.decide id [] (AIActionProposal.execute userId now)) := by
  refine decided_decide h (fun p => ⟨rfl, rfl⟩) nofun hknown fun p hp hok => ?_
  refine ⟨fun hrejected => ?_, nofun, fun _ => .inl rfl, fun _ hneeds => ?_⟩
  · rcases hasRecord_decide.1 hrejected with hold | ⟨b, hb, -⟩
    · exact absurd (by rw [statusOf, hp, Option.map_some, hok.rejected hold]) hstatus
    · cases hb
  · exact hasRecord_decide.2 (.inl (happroved p hp hneeds))

theorem decide_nil : s.decide id [] f = s.modifyProposal id f := by
  rw [State.decide, List.append_nil]

/-- An execution that passes its guards finds the approval it needs. -/
theorem approved_of_readExecution (h : Decided s) {tenantId : ℕ} {agent : AIAgent} {u : Unit}
    (hread : readExecution tenantId id s = .ok (p, agent)) (hguards : assertExecutable agent p = .ok u) :
    ∀ p', s.proposals.get? id = some p' → NeedsApproval s p' → HasRecord s id .approved := by
  rintro p' hp' ⟨hcritical, agent', hagent', hrequires⟩
  obtain ⟨hp, hagent⟩ := readExecution_ok hread
  obtain rfl := Option.some.inj (hp.symm.trans hp')
  obtain rfl := Option.some.inj (hagent.symm.trans hagent')
  simp only [assertExecutable, bind_eq_ok, raiseIf_eq_ok] at hguards
  obtain ⟨-, -, -, -, -, -, hpermitted⟩ := hguards
  refine (h.proposals id p hp).approved ?_
  by_contra hstatus
  exact hpermitted ⟨hcritical, hrequires, hstatus⟩

/-- Calls that run alone keep records and proposals in agreement. -/
theorem decided_exec (h : Decided s) {op : Op} (he : exec s op = .ok s') : Decided s' := by
  rcases exec_cases he with ⟨tenantId, id, payload, now, rfl, hnone, rfl⟩ |
    ⟨decision, a, p, rfl, hp, hpending, -, rfl⟩ |
    ⟨tenantId, userId, id, now, p, agent, rfl, hread, hguards, rfl⟩
  · refine ⟨fun a ha => ?_, fun j p hp => ?_⟩
    · rw [Table.get?_insert_new _ _ _ hnone]
      split
      · rfl
      · exact h.known a ha
    · rw [Table.get?_insert_new _ _ _ hnone] at hp
      split at hp
      · rename_i hj
        obtain rfl := Option.some.inj hp
        have hnew : ∀ decision, ¬ HasRecord s j decision := by
          rintro decision ⟨a, ha, hid, -⟩
          have hknown := h.known a ha
          rw [hid, hj, hnone] at hknown
          cases hknown
        have hopen : ¬ (newProposal tenantId payload now).Executed := by
          rintro (hstatus | htime)
          · cases hstatus
          · exact htime rfl
        have hpending : (newProposal tenantId payload now).status ≠ .approved := by
          intro happroved
          cases happroved
        exact ⟨fun hr => absurd hr (hnew _), fun ha => absurd ha hpending, fun he => absurd he hopen,
          fun he => absurd he hopen⟩
      · obtain ⟨hrejected, happroved, hexecuted, hcritical⟩ := h.proposals j p hp
        exact ⟨hrejected, happroved, hexecuted, hcritical⟩
  · have hknown : (s.proposals.get? a.proposalId).isSome = true := by rw [hp]; rfl
    have hstatus : statusOf s a.proposalId = some .pending := by rw [statusOf, hp, Option.map_some, hpending]
    cases decision with
    | approved => exact decided_approve h a hknown (by rw [hstatus]; decide)
    | rejected => exact decided_reject h a hknown (by rw [hstatus]; decide) (by rw [hstatus]; decide)
  · obtain ⟨hp, -⟩ := readExecution_ok hread
    rw [← decide_nil]
    refine decided_execute h (by rw [hp]; rfl) ?_ (approved_of_readExecution h hread hguards)
    simp only [assertExecutable, bind_eq_ok, raiseIf_eq_ok] at hguards
    obtain ⟨-, -, -, hrejected, -⟩ := hguards
    rw [statusOf, hp, Option.map_some]
    exact fun hstatus => hrejected (Option.some.inj hstatus)

end Records

/-! Sessions. -/

/-- An execution has found the approval it needs. -/
structure MayExecute (s : State) (id : ℕ) : Prop where
  known : (s.proposals.get? id).isSome = true
  approved : ∀ p, s.proposals.get? id = some p → NeedsApproval s p → HasRecord s id .approved

/-- What holds of a session between its statements: once it has set the status it holds
the row, so what the status was stays as it was. -/
inductive Ready (s : State) : Session ℕ Write Loc → Prop
  | ended : Ready s (.closed none)
  | readProposal (decision : AIApprovalDecision) (a : DecisionArgs) : Ready s (.fresh (.readProposal decision a))
  | expire (a : DecisionArgs) : Ready s ⟨some (.expire a), [], []⟩
  | raise {locks : List (ℕ × LockMode)} {writes : List Write} : Ready s ⟨some .raise, locks, writes⟩
  | createApproval {decision : AIApprovalDecision} {a : DecisionArgs}
      (hknown : (s.proposals.get? a.proposalId).isSome = true) : Ready s ⟨some (.createApproval decision a), [], []⟩
  | flushStatus {decision : AIApprovalDecision} {a : DecisionArgs} {locks : List (ℕ × LockMode)}
      (hknown : (s.proposals.get? a.proposalId).isSome = true) :
      Ready s ⟨some (.flushStatus decision a), locks, [.createApproval (a.approval decision)]⟩
  | decided {decision : AIApprovalDecision} {a : DecisionArgs} {locks : List (ℕ × LockMode)}
      (hknown : (s.proposals.get? a.proposalId).isSome = true)
      (hlock : (a.proposalId, LockMode.noKeyUpdate) ∈ locks) (hagrees : Agrees (.flushStatus decision a) s) :
      Ready s ⟨some .done, locks, [.createApproval (a.approval decision), .setStatus a.proposalId decision.status]⟩
  | readExecution (a : ExecutionArgs) : Ready s (.fresh (.readExecution a))
  | flushExecution {a : ExecutionArgs} (hmay : MayExecute s a.proposalId) :
      Ready s ⟨some (.flushExecution a), [], []⟩
  | executed {a : ExecutionArgs} {locks : List (ℕ × LockMode)} (hmay : MayExecute s a.proposalId)
      (hlock : (a.proposalId, LockMode.noKeyUpdate) ∈ locks) (hagrees : Agrees (.flushExecution a) s) :
      Ready s ⟨some .done, locks, [.execute a.proposalId a.userId a.now]⟩

section Sessions

variable {s : State} {x y : Session ℕ Write Loc}

theorem Ready.statement (h : Decided s) (hx : Ready s x) {l l' : Loc} {locks : List (ℕ × LockMode)}
    {ws : List Write} (hl : x.loc = some l) (hC : Agrees l (proposalSystem.view s x.writes))
    (hn : next l (proposalSystem.view s x.writes) = .exec locks ws l') :
    Ready s ⟨some l', x.locks ++ locks, x.writes ++ ws⟩ := by
  induction hx with
  | ended => cases hl
  | readProposal decision a =>
    obtain rfl := Option.some.inj hl
    simp only [next, Session.fresh, System.view_nil] at hn
    split at hn
    · cases hn
    · rename_i proposal hget
      split at hn
      · cases hn
        obtain ⟨hp, -⟩ := getProposalOr404_eq_ok.1 hget
        exact .createApproval (by rw [hp]; rfl)
      · split at hn
        · cases hn
          exact .expire a
        · cases hn
  | expire a =>
    obtain rfl := Option.some.inj hl
    cases hn
    exact .raise
  | raise =>
    obtain rfl := Option.some.inj hl
    cases hn
  | createApproval hknown =>
    obtain rfl := Option.some.inj hl
    cases hn
    exact .flushStatus hknown
  | flushStatus hknown =>
    rename_i decision a held
    obtain rfl := Option.some.inj hl
    cases hn
    have hagrees : Agrees (.flushStatus decision a) s := by
      cases decision <;> exact hC
    exact .decided hknown (List.mem_append_right _ (List.mem_singleton.2 rfl)) hagrees
  | decided =>
    obtain rfl := Option.some.inj hl
    cases hn
  | readExecution a =>
    obtain rfl := Option.some.inj hl
    simp only [next, Session.fresh, System.view_nil] at hn
    split at hn
    · cases hn
    · rename_i proposal agent hread
      split at hn
      · cases hn
      · rename_i u hguards
        cases hn
        refine .flushExecution ⟨?_, approved_of_readExecution h hread hguards⟩
        rw [(readExecution_ok hread).1]
        rfl
  | flushExecution hmay =>
    obtain rfl := Option.some.inj hl
    cases hn
    exact .executed hmay (List.mem_singleton.2 rfl) hC
  | executed =>
    obtain rfl := Option.some.inj hl
    cases hn

/-- A transaction commits a decision or an execution, of a proposal whose lock it holds. -/
theorem Ready.commit (h : Decided s) (hx : Ready s x) {l : Loc} {l' : Option Loc} (hl : x.loc = some l)
    (hn : next l (proposalSystem.view s x.writes) = .commit l') :
    l' = none ∧ Decided (proposalSystem.view s x.writes) ∧
      ∃ id, (id, LockMode.noKeyUpdate) ∈ x.locks ∧ Frame id s (proposalSystem.view s x.writes) := by
  have hdone : l = .done ∧ l' = none := by
    revert hn
    fun_cases next l (proposalSystem.view s x.writes) <;> intro hn <;> cases hn
    exact ⟨rfl, rfl⟩
  obtain ⟨rfl, rfl⟩ := hdone
  refine ⟨rfl, ?_⟩
  induction hx with
  | decided hknown hlock hagrees =>
    rename_i decision a held
    refine ⟨?_, a.proposalId, hlock, frame_decide fun p => ⟨rfl, rfl⟩⟩
    cases decision with
    | approved => exact decided_approve h a hknown hagrees
    | rejected => exact decided_reject h a hknown hagrees.1 hagrees.2
  | executed hmay hlock hagrees =>
    rename_i a held
    have hview : proposalSystem.view s [.execute a.proposalId a.userId a.now] =
        s.decide a.proposalId [] (AIActionProposal.execute a.userId a.now) := decide_nil.symm
    rw [hview]
    exact ⟨decided_execute h hmay.known hagrees hmay.approved, a.proposalId, hlock,
      frame_decide fun p => ⟨rfl, rfl⟩⟩
  | _ => cases hl

theorem MayExecute.frame {s' : State} {id j : ℕ} (h : MayExecute s j) (hframe : Frame id s s') : MayExecute s' j := by
  refine ⟨by rw [hframe.present]; exact h.known, fun p' hp' hneeds => ?_⟩
  obtain ⟨p, hp, hneeds'⟩ := hframe.needsApproval hp' hneeds
  exact hframe.hasRecord (h.approved p hp hneeds')

/-- A commit on a proposal whose lock the session does not hold. -/
theorem Ready.frame {s' : State} {id : ℕ} (hy : Ready s y) (hframe : Frame id s s')
    (hfree : (id, LockMode.noKeyUpdate) ∉ y.locks) : Ready s' y := by
  have hstatus : ∀ j, (j, LockMode.noKeyUpdate) ∈ y.locks → statusOf s' j = statusOf s j := by
    intro j hlock
    refine hframe.statusOf_eq ?_
    rintro rfl
    exact hfree hlock
  induction hy with
  | ended => exact .ended
  | readProposal decision a => exact .readProposal decision a
  | expire a => exact .expire a
  | raise => exact .raise
  | createApproval hknown => exact .createApproval (by rw [hframe.present]; exact hknown)
  | flushStatus hknown => exact .flushStatus (by rw [hframe.present]; exact hknown)
  | decided hknown hlock hagrees =>
    refine .decided (by rw [hframe.present]; exact hknown) hlock ?_
    rename_i decision a held
    cases decision <;> simpa only [Agrees, hstatus a.proposalId hlock] using hagrees
  | readExecution a => exact .readExecution a
  | flushExecution hmay => exact .flushExecution (hmay.frame hframe)
  | executed hmay hlock hagrees =>
    refine .executed (hmay.frame hframe) hlock ?_
    rename_i a held
    simpa only [Agrees, hstatus a.proposalId hlock] using hagrees

theorem threadModular : ThreadModular proposalSystem (proposalSystem.When Agrees) (fun s _ => Decided s) Ready where
  exec := by
    intro w t x locks ws l' hw hC hx ha
    obtain ⟨l, hl, hn⟩ := RowLaw.eq_some_of_action ha
    exact (hw.session t x hx).statement hw.db hl (hC x hx l hl) hn
  commit := by
    intro w t x l' hw _ hx ha
    obtain ⟨l, hl, hn⟩ := RowLaw.eq_some_of_action ha
    obtain ⟨rfl, hdecided, -⟩ := (hw.session t x hx).commit hw.db hl hn
    exact ⟨hdecided, .ended⟩
  interfere := by
    intro w t x l' t' y hw _ hx ha hy hne
    obtain ⟨l, hl, hn⟩ := RowLaw.eq_some_of_action ha
    obtain ⟨-, -, id, hlock, hframe⟩ := (hw.session t x hx).commit hw.db hl hn
    refine (hw.session t' y hy).frame hframe fun hlock' => ?_
    cases (hw.locks t t' x y hx hy (Ne.symm hne)).not_both hlock hlock'
  rollback := by
    intro w t x l' _ _ ha
    obtain ⟨l, -, hn⟩ := RowLaw.eq_some_of_action ha
    have hnone : l' = none := by
      revert hn
      show next l (proposalSystem.view w.db x.writes) = _ → _
      fun_cases next l (proposalSystem.view w.db x.writes) <;> intro hn <;> cases hn <;> rfl
    rw [hnone]
    exact .ended
  kill := fun _ => .ended

end Sessions

/-- A record once committed stays. -/
theorem hasRecord_step {w w' : World State Write ℕ Loc} {e : Event} (hs : proposalSystem.Step w e w') {id : ℕ}
    {decision : AIApprovalDecision} (hr : HasRecord w.db id decision) : HasRecord w'.db id decision := by
  refine proposalSystem.step_keeps (fun s => HasRecord s id decision) (fun s x hr => ?_) hs hr
  cases x with
  | createApproval approval =>
    obtain ⟨a, ha, hrest⟩ := hr
    exact ⟨a, List.mem_append_left _ ha, hrest⟩
  | setStatus => exact hr
  | execute => exact hr

/-- No critical action without approval: however approvals, rejections and executions
interleave, when none of them overwrites a status that contradicts it, an executed
proposal that needs an approval has an APPROVED record and no REJECTED one, and a proposal
that has been rejected is not executed, then or later. -/
theorem critical_approved (s : State) (hs : Decided s) (requests : List Request) (evs : List Event)
    (w : World State Write ℕ Loc)
    (h : Run (Restrict (proposalSystem.When Agrees) proposalSystem.Step) (s.concurrently requests) evs w) :
    (∀ id p, w.db.proposals.get? id = some p → p.Executed → NeedsApproval w.db p →
      HasRecord w.db id .approved ∧ ¬ HasRecord w.db id .rejected) ∧
    ∀ id, HasRecord w.db id .rejected → ∀ evs' w',
      Run (Restrict (proposalSystem.When Agrees) proposalSystem.Step) w evs' w' →
      ∀ p, w'.db.proposals.get? id = some p → ¬ p.Executed := by
  have hw : Holds (fun s _ => Decided s) Ready w := by
    refine threadModular.run (Holds.start hs fun l hl => ?_) h
    obtain ⟨request, -, rfl⟩ := List.mem_map.1 hl
    cases request with
    | decide decision a => exact .readProposal decision a
    | execute a => exact .readExecution a
  have hexcludes : ∀ {s id p}, Decided s → s.proposals.get? id = some p → p.Executed → ¬ HasRecord s id .rejected := by
    intro s id p hs hp hexecuted hrejected
    have hok := hs.proposals id p hp
    rcases hok.executed hexecuted with hstatus | hstatus
    · rw [hok.rejected hrejected] at hstatus
      cases hstatus
    · rw [hok.rejected hrejected] at hstatus
      cases hstatus
  refine ⟨fun id p hp hexecuted hneeds => ?_, fun id hrejected evs' w' h' p hp hexecuted => ?_⟩
  · exact ⟨(hw.db.proposals id p hp).critical hexecuted hneeds, hexcludes hw.db hp hexecuted⟩
  · have hrejected' : HasRecord w'.db id .rejected :=
      h'.of_restrict.invariant (fun w => HasRecord w.db id .rejected) hrejected fun _ _ _ hr hs => hasRecord_step hs hr
    exact hexcludes (threadModular.run hw h').db hp hexecuted hrejected'

section Examples

/-- An agent that asks for an approval, before it has proposed anything. -/
def demoAgent : State := ⟨Table.insert ∅ 1 ⟨1, true⟩, ∅, ∅, []⟩

theorem decided_demoAgent : Decided demoAgent := by
  refine ⟨fun a ha => ?_, fun id p hp => ?_⟩
  · cases ha
  · cases hp

/-- The agent proposes a critical action. -/
def demoPending : State :=
  settle exec demoAgent (.createProposal 1 5 ⟨1, none, .createInvoice, "Invoice", none, "", none, none⟩ 0)

theorem decided_demoPending : Decided demoPending :=
  settle_keeps (I := Decided) decided_demoAgent fun _ he => decided_exec decided_demoAgent he

/-- The proposal is rejected, approved and executed. -/
def demoRequests : List Request :=
  [.decide .rejected ⟨1, 8, 5, none, 10, 11⟩, .decide .approved ⟨1, 9, 5, none, 10, 12⟩, .execute ⟨1, 9, 5, 20⟩]

/-- Both decisions are taken while the proposal is pending. The rejection commits first,
the approval overwrites it, and the proposal is executed. -/
theorem executed_after_rejection : Decided demoPending ∧
    ∃ evs w, Run proposalSystem.Step (demoPending.concurrently demoRequests) evs w ∧
      HasRecord w.db 5 .rejected ∧ ¬ HasRecord w.db 5 .approved ∧
      ∃ evs' w' p, Run proposalSystem.Step w evs' w' ∧ w'.db.proposals.get? 5 = some p ∧ p.Executed ∧
        NeedsApproval w'.db p ∧ HasRecord w'.db 5 .rejected := by
  let evs : List Event := [.turn 0, .turn 1] ++ List.replicate 3 (.turn 0)
  let evs' : List Event := List.replicate 3 (.turn 1) ++ List.replicate 3 (.turn 2)
  let executed : AIActionProposal :=
    (newProposal 1 ⟨1, none, .createInvoice, "Invoice", none, "", none, none⟩ 0).execute 9 20
  have hfirst : (execute? (fun _ _ => True) proposalSystem.step? (demoPending.concurrently demoRequests) evs).map
      (fun w => (decide (HasRecord w.db 5 .rejected), decide (HasRecord w.db 5 .approved))) = some (true, false) := by
    decide
  obtain ⟨w, hw, hdb⟩ := Option.map_eq_some_iff.1 hfirst
  have hboth : ((execute? (fun _ _ => True) proposalSystem.step? (demoPending.concurrently demoRequests) evs).bind
      fun w => execute? (fun _ _ => True) proposalSystem.step? w evs').map (fun w => (w.db.proposals.get? 5,
        decide (NeedsApproval w.db executed), decide (HasRecord w.db 5 .rejected))) =
      some (some executed, true, true) := by
    decide
  rw [hw, Option.bind_some] at hboth
  obtain ⟨w', hw', hdb'⟩ := Option.map_eq_some_iff.1 hboth
  simp only [Prod.mk.injEq, decide_eq_true_eq, decide_eq_false_iff_not] at hdb hdb'
  obtain ⟨hrejected, hnone⟩ := hdb
  obtain ⟨hp, hneeds, hrejected'⟩ := hdb'
  exact ⟨decided_demoPending, evs, w, (Run.of_execute? hw).of_restrict, hrejected, hnone, evs', w', executed,
    (Run.of_execute? hw').of_restrict, hp, .inl rfl, hneeds, hrejected'⟩

/-- The theorem at the same requests when the decisions are made one after the other: the
approval is committed, then the proposal is executed, and the rejection is refused. -/
theorem critical_approved_serially : ∃ evs w p,
    Run (Restrict (proposalSystem.When Agrees) proposalSystem.Step) (demoPending.concurrently demoRequests) evs w ∧
      w.db.proposals.get? 5 = some p ∧ p.status = .executed ∧ HasRecord w.db 5 .approved ∧
      ¬ HasRecord w.db 5 .rejected := by
  let evs : List Event := List.replicate 4 (.turn 1) ++ List.replicate 3 (.turn 2) ++ [.turn 0]
  let executed : AIActionProposal :=
    (newProposal 1 ⟨1, none, .createInvoice, "Invoice", none, "", none, none⟩ 0).execute 9 20
  have hrun : (execute? (proposalSystem.When Agrees) proposalSystem.step? (demoPending.concurrently demoRequests)
      evs).map (fun w => (w.db.proposals.get? 5, decide (NeedsApproval w.db executed))) = some (some executed, true) := by
    decide
  obtain ⟨w, hw, hdb⟩ := Option.map_eq_some_iff.1 hrun
  simp only [Prod.mk.injEq, decide_eq_true_eq] at hdb
  obtain ⟨hp, hneeds⟩ := hdb
  have hrecords := (critical_approved demoPending decided_demoPending demoRequests evs w (Run.of_execute? hw)).1 5
    executed hp (.inl rfl) hneeds
  exact ⟨evs, w, executed, Run.of_execute? hw, hp, rfl, hrecords⟩

end Examples

end CoreOps.AI
