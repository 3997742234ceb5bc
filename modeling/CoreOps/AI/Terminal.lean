import CoreOps.Lib.Runs
import CoreOps.AI.Service

/-! Terminal proposals stay terminal, and nothing is executed after it has expired.
Approving and rejecting look at the expiry, executing does not, and it turns away the
other terminal statuses but not EXPIRED; both hold as long as the guards of an
execution are not passed by an expired proposal. -/

namespace CoreOps.AI

open Checked

/-- A status that is never left. -/
def AIActionProposalStatus.terminal (status : AIActionProposalStatus) : Bool :=
  status ∈ [executed, rejected, cancelled, expired]

/-- Proposals with a terminal status stay as they are. -/
def TerminalKept (s s' : State) : Prop :=
  ∀ id p, s.proposals.get? id = some p → p.status.terminal = true → s'.proposals.get? id = some p

/-- What has been executed since `s` was executed before it expired. -/
def ExecutedInTime (s s' : State) : Prop :=
  ∀ id p', s'.proposals.get? id = some p' → p'.status = .executed →
    (∃ p, s.proposals.get? id = some p ∧ p.status = .executed) ∨
      ∃ t, p'.executedAt = some t ∧ ∀ e ∈ p'.expiresAt, t ≤ e

/-- No execution that the guards let through is of an expired proposal. -/
def KeepsExpiry (s : State) : Op → Prop
  | .execute tenantId _ proposalId now => ∀ proposal agent,
      readExecution tenantId proposalId s = .ok (proposal, agent) → assertExecutable agent proposal = .ok () →
      proposal.status ≠ .expired ∧ ∀ t ∈ proposal.expiresAt, now ≤ t
  | _ => True

section Steps

variable {s s' s'' : State} {op : Op}

theorem TerminalKept.refl (s : State) : TerminalKept s s := fun _ _ h _ => h

theorem TerminalKept.trans (h : TerminalKept s s') (h' : TerminalKept s' s'') : TerminalKept s s'' := by
  intro id p hp hterminal
  exact h' id p (h id p hp hterminal) hterminal

theorem ExecutedInTime.refl (s : State) : ExecutedInTime s s := fun _ p h hexecuted => .inl ⟨p, h, hexecuted⟩

/-- A call that rewrites one proposal that is not terminal keeps the terminal ones. -/
theorem terminalKept_modify {proposalId : ℕ} {proposal : AIActionProposal}
    {f : AIActionProposal → AIActionProposal} (hget : s.proposals.get? proposalId = some proposal)
    (hopen : proposal.status.terminal = false) : TerminalKept s (s.modifyProposal proposalId f) := by
  intro id p hp hterminal
  have hne : id ≠ proposalId := by
    rintro rfl
    obtain rfl := Option.some.inj (hget.symm.trans hp)
    rw [hopen] at hterminal
    cases hterminal
  rw [State.modifyProposal, Table.get?_modify_of_ne _ hne]
  exact hp

/-- What the rewritten proposal has to satisfy. -/
theorem executedInTime_modify {proposalId : ℕ} {proposal : AIActionProposal}
    {f : AIActionProposal → AIActionProposal} (hget : s.proposals.get? proposalId = some proposal)
    (hf : (f proposal).status = .executed → ∃ t, (f proposal).executedAt = some t ∧ ∀ e ∈ (f proposal).expiresAt, t ≤ e) :
    ExecutedInTime s (s.modifyProposal proposalId f) := by
  intro id p' hp' hexecuted
  by_cases hid : id = proposalId
  · subst hid
    rw [State.modifyProposal, Table.get?_modify_self, hget, Option.map_some, Option.some.injEq] at hp'
    subst hp'
    exact .inr (hf hexecuted)
  · rw [State.modifyProposal, Table.get?_modify_of_ne _ hid] at hp'
    exact .inl ⟨p', hp', hexecuted⟩

/-- The guards of an execution turn away every terminal status but EXPIRED. -/
theorem terminal_of_assertExecutable {agent : AIAgent} {proposal : AIActionProposal} {u : Unit}
    (h : assertExecutable agent proposal = .ok u) : proposal.status.terminal = true ↔ proposal.status = .expired := by
  simp only [assertExecutable, bind_eq_ok, raiseIf_eq_ok] at h
  obtain ⟨-, hexecuted, -, hrejected, -, hcancelled, -⟩ := h
  simp [AIActionProposalStatus.terminal, hexecuted, hrejected, hcancelled]

/-- The exact condition for one call. -/
theorem step_iff (h : exec s op = .ok s') : TerminalKept s s' ∧ ExecutedInTime s s' ↔ KeepsExpiry s op := by
  rcases exec_cases h with ⟨tenantId, proposalId, payload, now, rfl, hnone, rfl⟩ |
    ⟨decision, a, proposal, rfl, hget, hpending, -, rfl⟩ |
    ⟨tenantId, userId, proposalId, now, proposal, agent, rfl, hread, hguards, rfl⟩
  · refine iff_of_true ⟨fun id p hp _ => ?_, fun id p' hp' hexecuted => .inl ⟨p', ?_, hexecuted⟩⟩ trivial
    · rw [Table.get?_insert_new _ _ _ hnone, if_neg]
      · exact hp
      · rintro rfl
        rw [hnone] at hp
        cases hp
    · rw [Table.get?_insert_new _ _ _ hnone] at hp'
      split at hp'
      · obtain rfl := Option.some.inj hp'
        cases hexecuted
      · exact hp'
  · have hkeeps : KeepsExpiry s (AIApprovalDecision.op a decision) := by
      cases decision <;> exact trivial
    have hopen : proposal.status.terminal = false := by
      rw [hpending]
      rfl
    refine iff_of_true ⟨terminalKept_modify hget hopen, executedInTime_modify hget fun hexecuted => ?_⟩ hkeeps
    cases decision <;> cases hexecuted
  · obtain ⟨hget, -⟩ := readExecution_ok hread
    have hget' : (s.modifyProposal proposalId (AIActionProposal.execute userId now)).proposals.get? proposalId =
        some (proposal.execute userId now) := by
      rw [State.modifyProposal, Table.get?_modify_self, hget, Option.map_some]
    constructor
    · rintro ⟨hterminal, htime⟩ proposal' agent' hread' -
      obtain ⟨rfl, rfl⟩ := Prod.mk.inj (Except.ok.inj (hread.symm.trans hread'))
      have hopen : proposal.status ≠ .expired := fun hexpired => by
        have hsame := hterminal proposalId proposal hget ((terminal_of_assertExecutable hguards).2 hexpired)
        rw [← Option.some.inj (hget'.symm.trans hsame)] at hexpired
        cases hexpired
      refine ⟨hopen, ?_⟩
      rcases htime proposalId _ hget' rfl with ⟨p, hp, hexecuted⟩ | ⟨t, ht, hle⟩
      · obtain rfl := Option.some.inj (hget.symm.trans hp)
        exact absurd ((terminal_of_assertExecutable hguards).1 (by rw [hexecuted]; rfl)) hopen
      · obtain rfl : now = t := Option.some.inj ht
        exact hle
    · intro hkeeps
      obtain ⟨hexpired, htime⟩ := hkeeps proposal agent hread hguards
      refine ⟨terminalKept_modify hget ?_, executedInTime_modify hget fun _ => ⟨now, rfl, htime⟩⟩
      rw [← Bool.not_eq_true, terminal_of_assertExecutable hguards]
      exact hexpired

theorem ExecutedInTime.trans (h : ExecutedInTime s s') (h' : ExecutedInTime s' s'') (hkept : TerminalKept s' s'') :
    ExecutedInTime s s'' := by
  intro id p'' hp'' hexecuted
  rcases h' id p'' hp'' hexecuted with ⟨p', hp', hexecuted'⟩ | htime
  · have hsame := hkept id p' hp' (by rw [hexecuted']; rfl)
    obtain rfl := Option.some.inj (hp''.symm.trans hsame)
    exact h id _ hp' hexecuted'
  · exact .inr htime

end Steps

/-- Terminal proposals stay terminal: in a run whose executions are all of proposals that
have not expired, a proposal with a terminal status keeps it, and what gets executed is
executed no later than it expires. The run may start in any state, so also at the moment
a status becomes terminal. -/
theorem proposals_terminal {s₀ s : State} {ops : List Op}
    (h : Run (Restrict KeepsExpiry (CallStep exec)) s₀ ops s) :
    (∀ id p, s₀.proposals.get? id = some p → p.status.terminal = true →
      ∃ p', s.proposals.get? id = some p' ∧ p'.status = p.status) ∧
    ∀ id p', s.proposals.get? id = some p' → p'.status = .executed →
      (∃ p, s₀.proposals.get? id = some p ∧ p.status = .executed) ∨
        ∃ t, p'.executedAt = some t ∧ ∀ e ∈ p'.expiresAt, t ≤ e := by
  have hboth : TerminalKept s₀ s ∧ ExecutedInTime s₀ s := by
    refine Run.invariant_restrict (fun s => TerminalKept s₀ s ∧ ExecutedInTime s₀ s) ⟨.refl s₀, .refl s₀⟩ ?_ h
    rintro s₁ op s₂ ⟨hkept, htime⟩ hkeeps rfl
    refine settle_keeps (I := fun s => TerminalKept s₀ s ∧ ExecutedInTime s₀ s) ⟨hkept, htime⟩ fun s' he => ?_
    obtain ⟨hkept', htime'⟩ := (step_iff he).2 hkeeps
    exact ⟨hkept.trans hkept', htime.trans htime' hkept'⟩
  exact ⟨fun id p hp hterminal => ⟨p, hboth.1 id p hp hterminal, rfl⟩, hboth.2⟩

section Examples

/-- An agent of tenant 1 that asks for an approval of critical actions. -/
def demoState : State := ⟨Table.insert ∅ 1 ⟨1, true⟩, ∅, ∅, []⟩

/-- A proposal of an action that is not critical, made at instant 0. -/
def demoProposal : Op := .createProposal 1 5 ⟨1, none, .other, "Tidy up", none, "{}", none, none⟩ 0

/-- The proposal expires after seven days and is executed on the eighth. -/
theorem executed_after_expiry :
    ((([demoProposal, .execute 1 9 5 (8 * 24 * 60 * 60 * 1000000)].foldl (settle exec) demoState).proposals.get? 5).map
      fun p => (p.status, p.executedAt, p.expiresAt)) =
    some (.executed, some 691200000000, some 604800000000) := by
  decide

/-- The theorem at an execution on the first day. -/
theorem proposals_terminal_first_day : ∃ s : State, (∃ p', s.proposals.get? 5 = some p' ∧ p'.status = .executed) ∧
    ∀ id p', s.proposals.get? id = some p' → p'.status = .executed →
      (∃ p, demoState.proposals.get? id = some p ∧ p.status = .executed) ∨
        ∃ t, p'.executedAt = some t ∧ ∀ e ∈ p'.expiresAt, t ≤ e := by
  have hrun : Run (Restrict KeepsExpiry (CallStep exec)) demoState [demoProposal, .execute 1 9 5 100]
      ([demoProposal, .execute 1 9 5 100].foldl (settle exec) demoState) := by
    refine Run.cons ⟨trivial, rfl⟩ (Run.single ⟨fun proposal agent hread _ => ?_, rfl⟩)
    have hrow : (settle exec demoState demoProposal).proposals.get? 5 =
        some (newProposal 1 ⟨1, none, .other, "Tidy up", none, "{}", none, none⟩ 0) := by
      decide
    obtain rfl := Option.some.inj (hrow.symm.trans (readExecution_ok hread).1)
    exact ⟨by decide, by decide⟩
  have hexecuted : (([demoProposal, .execute 1 9 5 100].foldl (settle exec) demoState).proposals.get? 5).map
      (·.status) = some .executed := by
    decide
  exact ⟨_, Option.map_eq_some_iff.1 hexecuted, (proposals_terminal hrun).2⟩

end Examples

end CoreOps.AI
