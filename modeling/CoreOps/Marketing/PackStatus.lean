import CoreOps.Marketing.Calls

/-! Pack status and approval status: they move together on every path but one, the
PATCH that takes an approved pack out of the archive. -/

namespace CoreOps.Marketing

open Checked

/-- Only approved packs, in or out of the archive, carry an approval, and an approved
pack carries one and has passed its preflight. -/
def MarketingPublicationPack.StatusesAgree (pack : MarketingPublicationPack) : Prop :=
  (pack.approvalStatus = .approved → pack.status = .approved ∨ pack.status = .archived) ∧
  (pack.status = .approved → pack.approvalStatus = .approved ∧ pack.preflightStatus = .passed)

def StatusesAgree (s : State) : Prop := ∀ packId pack, s.packs.get? packId = some pack → pack.StatusesAgree

/-- The call takes no approved pack back from the archive to draft. -/
def KeepsArchived (s : State) : Op → Prop
  | .updatePack _ packId payload => payload.status = some .draft →
      ∀ pack ∈ s.packs.get? packId, pack.status = .archived → pack.approvalStatus ≠ .approved
  | _ => True

instance (s : State) : ∀ op, Decidable (KeepsArchived s op)
  | .updatePack _ packId payload => inferInstanceAs (Decidable (payload.status = some .draft →
      ∀ pack ∈ s.packs.get? packId, pack.status = .archived → pack.approvalStatus ≠ .approved))
  | .createPack .. | .takeTopic .. | .upsertPackText .. | .attachMedia .. | .updateMedia .. | .archiveMedia ..
  | .storeManagedMedia .. | .registerPublicUrl .. | .updateTopic .. | .runPreflight .. | .approvePack ..
  | .rejectPack .. => inferInstanceAs (Decidable True)

section Rows

variable {pack : MarketingPublicationPack}

/-- A row without an approval agrees unless it is approved. -/
theorem agree_of_unapproved (ha : pack.approvalStatus ≠ .approved) (hs : pack.status ≠ .approved) :
    pack.StatusesAgree :=
  ⟨fun h => absurd h ha, fun h => absurd h hs⟩

/-- A PATCH sets no status but draft and archived, and takes approved packs to the archive only. -/
theorem checkStatus_ok {newStatus : MarketingPackStatus} (h : checkStatus pack (some newStatus) = .ok ()) :
    (newStatus = .draft ∨ newStatus = .archived) ∧ (pack.status = .approved → newStatus = .archived) := by
  simp only [checkStatus, checkStatusChange, bind_eq_ok, raiseIf_eq_ok, not_not, not_and, not_not] at h
  obtain ⟨-, -, -, hpatch, hforbidden⟩ := h
  refine ⟨by simpa [patchableStatuses] using hpatch, fun happroved => hforbidden ?_⟩
  simp [happroved, forbiddenPatchStatuses]

/-- A PATCH of a row that agrees. -/
theorem agree_apply {payload : PackUpdate} (hI : pack.StatusesAgree) (h : checkStatus pack payload.status = .ok ())
    (hk : payload.status = some .draft → pack.status = .archived → pack.approvalStatus ≠ .approved) :
    (payload.apply pack).StatusesAgree := by
  rcases hst : payload.status with _ | newStatus
  · simpa [MarketingPublicationPack.StatusesAgree, PackUpdate.apply, hst] using hI
  · rw [hst] at h
    obtain ⟨hpatch, happroved⟩ := checkStatus_ok h
    rcases hpatch with rfl | rfl
    · have hno : pack.approvalStatus ≠ .approved := by
        intro ha
        rcases hI.1 ha with hs | hs
        · exact absurd (happroved hs) (by decide)
        · exact hk hst hs ha
      exact agree_of_unapproved hno (by simp [PackUpdate.apply, hst])
    · exact ⟨fun _ => .inr (by simp [PackUpdate.apply, hst]), fun hs => by simp [PackUpdate.apply, hst] at hs⟩

end Rows

section Steps

variable {s s' : State} {op : Op} {packId : ℕ} {pack' : MarketingPublicationPack}

/-- The row a call writes agrees. -/
theorem agree_write (hI : StatusesAgree s) (hk : KeepsArchived s op) (h : PackWrite s packId op pack') :
    pack'.StatusesAgree := by
  cases h with
  | created hnew htopic => exact agree_of_unapproved (by simp [draftPack]) (by simp [draftPack])
  | taken hnew htopic hallowed hdate => exact agree_of_unapproved (by simp [draftPack]) (by simp [draftPack])
  | @updated _ payload pack _ hpack htopic hstatus =>
    have hget := getPackOr404_ok hpack
    exact agree_apply (hI packId pack hget) hstatus fun hdraft => hk hdraft pack hget
  | @reset _ pack hedits hpack =>
    obtain ⟨hs, ha⟩ := reset_draft pack
    exact agree_of_unapproved (by simp [ha]) (by simp [hs])
  | @preflighted _ _ now pack passed hpack hallowed =>
    simp only [assertPreflightAllowed, raiseIf_eq_ok, List.mem_cons, List.not_mem_nil, or_false, not_or] at hallowed
    have hno : pack.approvalStatus ≠ .approved := by
      intro ha
      rcases (hI packId pack hpack).1 ha with hs | hs
      · exact hallowed.1 hs
      · exact hallowed.2.2.2.2 hs
    refine agree_of_unapproved hno ?_
    rcases passed with _ | _ <;> simp [recordPreflight]
  | approved hpack hpassed hready => exact ⟨fun _ => .inl rfl, fun _ => ⟨rfl, hpassed⟩⟩
  | rejected hpack hstatus => exact agree_of_unapproved (by simp [recordRejection]) (by simp [recordRejection])

theorem agree_exec (hI : StatusesAgree s) (hk : KeepsArchived s op) (h : exec s op = .ok s') : StatusesAgree s' := by
  intro id pack hget
  rcases exec_packs h with ⟨-, hpacks⟩ | ⟨packId, pack', -, hwrite, hpacks⟩
  · exact hI id pack (hpacks ▸ hget)
  · rw [hpacks] at hget
    split at hget
    · obtain rfl := Option.some.inj hget
      exact agree_write hI hk hwrite
    · exact hI id pack hget

/-- The other direction: taken back from the archive, an approved pack is a draft with an approval. -/
theorem keepsArchived_of_agree (h : exec s op = .ok s') (hI' : StatusesAgree s') : KeepsArchived s op := by
  cases op with
  | updatePack tenantId q payload =>
    intro hdraft pack hget harchived happroved
    rcases exec_packs h with ⟨hnone, -⟩ | ⟨packId, pack', htarget, hwrite, hpacks⟩
    · cases hnone
    · obtain rfl := Option.some.inj htarget
      rcases hwrite with _ | _ | ⟨hpack, -, -⟩ | ⟨hedits, -⟩
      · obtain rfl := Option.some.inj (hget.symm.trans (getPackOr404_ok hpack))
        have hagree := hI' q _ (by rw [hpacks, if_pos rfl])
        rcases hagree.1 happroved with hs | hs
        · simp [PackUpdate.apply, hdraft] at hs
        · simp [PackUpdate.apply, hdraft] at hs
      · exact absurd hedits id
  | _ => trivial

end Steps

/-- Pack status and approval status: in every state of a run, from a state without packs,
that takes no approved pack back from the archive, they agree, and there an accepted call
leaves them so exactly when it takes none back either. -/
theorem statuses_agree {s₀ s : State} {evs : List Op} (h0 : s₀.packs = ∅)
    (h : Run (Restrict KeepsArchived (CallStep exec)) s₀ evs s) :
    StatusesAgree s ∧ ∀ op s', exec s op = .ok s' → (KeepsArchived s op ↔ StatusesAgree s') := by
  have hagree : StatusesAgree s := by
    refine h.invariant_restrict StatusesAgree ?_ ?_
    · intro packId pack hget
      rw [h0] at hget
      cases hget
    · rintro s op s' hI hk rfl
      exact settle_keeps (I := StatusesAgree) hI fun s' he => agree_exec hI hk he
  exact ⟨hagree, fun op s' he => ⟨fun hk => agree_exec hagree hk he, keepsArchived_of_agree he⟩⟩

section Examples

def patchStatus (status : MarketingPackStatus) : Op := .updatePack 1 7 ⟨none, none, some status⟩

/-- An approved pack is archived and taken back to draft by PATCH: the approval stays. -/
theorem statuses_disagree : ¬ ∀ s₀ evs s, s₀.packs = ∅ → Run (CallStep exec) s₀ evs s → StatusesAgree s := by
  intro h
  have hpack : (((demoRun ++ [patchStatus .archived, patchStatus .draft]).foldl (settle exec) demoState).packs.get? 7).map
      (fun pack => (pack.status, pack.approvalStatus)) = some (.draft, .approved) := by
    decide
  obtain ⟨pack, hget, hstatus⟩ := Option.map_eq_some_iff.1 hpack
  obtain ⟨hs, ha⟩ := Prod.mk.inj hstatus
  rcases (h demoState _ _ rfl Run.of_foldl 7 pack hget).1 ha with hs' | hs'
  · rw [hs] at hs'
    cases hs'
  · rw [hs] at hs'
    cases hs'

/-- The theorem at the run that leaves the pack in the archive. -/
theorem statuses_agree_archived : ∃ s, Run (CallStep exec) demoState (demoRun ++ [patchStatus .archived]) s ∧
    (s.packs.get? 7).map (·.status) = some .archived ∧ StatusesAgree s := by
  have hrun : Run (Restrict KeepsArchived (CallStep exec)) demoState (demoRun ++ [patchStatus .archived])
      ((demoRun ++ [patchStatus .archived]).foldl (settle exec) demoState) :=
    Run.cons ⟨trivial, rfl⟩ (Run.cons ⟨by decide, rfl⟩ (Run.cons ⟨trivial, rfl⟩ (Run.cons ⟨trivial, rfl⟩
      (Run.cons ⟨trivial, rfl⟩ (Run.single ⟨by decide, rfl⟩)))))
  exact ⟨_, hrun.of_restrict, by decide, (statuses_agree rfl hrun).1⟩

end Examples

end CoreOps.Marketing
