import CoreOps.Lib.Runs
import CoreOps.Marketing.Packs

/-! The calls of the cabinet, and what an accepted call writes to the packs: at most one
row, and which one. -/

namespace CoreOps.Marketing

open Checked

inductive Op
  | createPack (tenantId packId : ℕ) (today : ℤ) (slugified : String) (payload : PackCreate)
  | takeTopic (tenantId packId : ℕ) (today : ℤ) (slugified : String) (topicId : ℕ) (payload : TakeTopicRequest)
  | updatePack (tenantId packId : ℕ) (payload : PackUpdate)
  | upsertPackText (tenantId packId : ℕ) (channel : MarketingChannel) (payload : PackTextUpsert)
  | attachMedia (tenantId assetId packId : ℕ) (payload : MediaCreate)
  | updateMedia (tenantId assetId : ℕ) (payload : MediaUpdate)
  | archiveMedia (tenantId assetId : ℕ)
  | storeManagedMedia (tenantId assetId : ℕ) (m : ManagedMedia)
  | registerPublicUrl (tenantId assetId : ℕ) (m : PublicUrlMedia)
  | updateTopic (tenantId topicId : ℕ) (payload : TopicUpdate)
  | runPreflight (tenantId packId : ℕ) (channels : Option (List MarketingChannel)) (now : ℤ)
  | approvePack (tenantId packId userId : ℕ) (now : ℤ)
  | rejectPack (tenantId packId : ℕ)

def exec (s : State) : Op → Except MarketingError State
  | .createPack tenantId packId today slugified payload => createPack tenantId packId today slugified payload s
  | .takeTopic tenantId packId today slugified topicId payload =>
    takeTopic tenantId packId today slugified topicId payload s
  | .updatePack tenantId packId payload => updatePack tenantId packId payload s
  | .upsertPackText tenantId packId channel payload => upsertPackText tenantId packId channel payload s
  | .attachMedia tenantId assetId packId payload => attachMedia tenantId assetId packId payload s
  | .updateMedia tenantId assetId payload => updateMedia tenantId assetId payload s
  | .archiveMedia tenantId assetId => archiveMedia tenantId assetId s
  | .storeManagedMedia tenantId assetId m => storeManagedMedia tenantId assetId m s
  | .registerPublicUrl tenantId assetId m => registerPublicUrl tenantId assetId m s
  | .updateTopic tenantId topicId payload => updateTopic tenantId topicId payload s
  | .runPreflight tenantId packId channels now => do
    let (_, s) ← runPreflight tenantId packId channels now s
    return s
  | .approvePack tenantId packId userId now => approvePack tenantId packId userId now s
  | .rejectPack tenantId packId => rejectPack tenantId packId s

section Lookups

variable {s : State} {tenantId : ℕ}

theorem getPackOr404_ok {packId : ℕ} {pack : MarketingPublicationPack}
    (h : getPackOr404 tenantId packId s = .ok pack) : s.packs.get? packId = some pack :=
  (Option.filter_eq_some_iff.1 (orRaise_eq_ok.1 h)).1

theorem getAssetOr404_ok {assetId : ℕ} {asset : MarketingMediaAsset} (h : getAssetOr404 tenantId assetId s = .ok asset) :
    s.media.get? assetId = some asset :=
  (Option.filter_eq_some_iff.1 (orRaise_eq_ok.1 h)).1

theorem getTopicOr404_ok {topicId : ℕ} {topic : MarketingContentTopic}
    (h : getTopicOr404 tenantId topicId s = .ok topic) :
    s.topics.get? topicId = some topic ∧ topic.tenantId = tenantId := by
  obtain ⟨hget, htenant⟩ := Option.filter_eq_some_iff.1 (orRaise_eq_ok.1 h)
  exact ⟨hget, of_decide_eq_true htenant⟩

theorem getPackOr404_tenant {packId : ℕ} {pack : MarketingPublicationPack}
    (h : getPackOr404 tenantId packId s = .ok pack) : pack.tenantId = tenantId :=
  of_decide_eq_true (Option.filter_eq_some_iff.1 (orRaise_eq_ok.1 h)).2

theorem linkedTopic_ok {topicId : ℕ} {found : Option MarketingContentTopic}
    (h : linkedTopic tenantId s (some topicId) = .ok found) :
    ∃ topic, s.topics.get? topicId = some topic ∧ topic.tenantId = tenantId := by
  simp only [linkedTopic, bind_eq_ok] at h
  obtain ⟨topic, htopic, -⟩ := h
  exact ⟨topic, getTopicOr404_ok htopic⟩

end Lookups

/-- The pack whose row a call writes. -/
def Op.pack? (s : State) : Op → Option ℕ
  | .createPack _ packId .. | .takeTopic _ packId .. | .updatePack _ packId _ | .upsertPackText _ packId ..
  | .attachMedia _ _ packId _ | .runPreflight _ packId .. | .approvePack _ packId .. | .rejectPack _ packId =>
    some packId
  | .updateMedia _ assetId _ | .archiveMedia _ assetId => (s.media.get? assetId).bind (·.packId)
  | .storeManagedMedia .. | .registerPublicUrl .. | .updateTopic .. => none

/-- The calls that edit content and send the pack back to draft. -/
def Op.Edits : Op → Prop
  | .upsertPackText .. | .attachMedia .. | .updateMedia .. | .archiveMedia .. => True
  | _ => False

/-- The row `create_draft_pack_with_texts` inserts. -/
def draftPack (tenantId : ℕ) (title slug : String) (plannedDate : ℤ) (topicId : Option ℕ) :
    MarketingPublicationPack where
  tenantId := tenantId
  topicId := topicId
  slug := slug
  title := title
  plannedDate := plannedDate
  status := .draft
  preflightStatus := .notRun
  preflightAt := none
  approvalStatus := .draft
  approvedAt := none
  approvedByUserId := none

/-- What an accepted call has checked, and the row it writes for its pack. -/
inductive PackWrite (s : State) (packId : ℕ) : Op → MarketingPublicationPack → Prop
  | created {tenantId today slugified payload slug topic} (hnew : s.packs.get? packId = none)
      (htopic : linkedTopic tenantId s payload.topicId = .ok topic) :
      PackWrite s packId (.createPack tenantId packId today slugified payload)
        (draftPack tenantId payload.title slug (payload.plannedDate.getD today) payload.topicId)
  | taken {tenantId today slugified topicId payload slug topic} (hnew : s.packs.get? packId = none)
      (htopic : getTopicOr404 tenantId topicId s = .ok topic)
      (hallowed : assertTakeAllowed tenantId topicId topic s = .ok ())
      (hdate : findPackForTopicDate s tenantId topicId (payload.plannedDate.getD today) = none) :
      PackWrite s packId (.takeTopic tenantId packId today slugified topicId payload)
        (draftPack tenantId topic.title slug (payload.plannedDate.getD today) (some topicId))
  | updated {tenantId payload pack topic} (hpack : getPackOr404 tenantId packId s = .ok pack)
      (htopic : linkedTopic tenantId s payload.topicId = .ok topic) (hstatus : checkStatus pack payload.status = .ok ()) :
      PackWrite s packId (.updatePack tenantId packId payload) (payload.apply pack)
  | reset {op pack} (hedits : op.Edits) (hpack : s.packs.get? packId = some pack) :
      PackWrite s packId op (resetPackAfterContentChange pack)
  | preflighted {tenantId channels now pack passed} (hpack : s.packs.get? packId = some pack)
      (hallowed : assertPreflightAllowed pack = .ok ()) :
      PackWrite s packId (.runPreflight tenantId packId channels now) (recordPreflight now passed pack)
  | approved {tenantId userId now pack} (hpack : s.packs.get? packId = some pack)
      (hpassed : pack.preflightStatus = .passed) (hready : pack.status = .readyForApproval) :
      PackWrite s packId (.approvePack tenantId packId userId now) (recordApproval userId now pack)
  | rejected {tenantId pack} (hpack : s.packs.get? packId = some pack)
      (hstatus : pack.status ∈ [MarketingPackStatus.readyForApproval, .approved]) :
      PackWrite s packId (.rejectPack tenantId packId) (recordRejection pack)

/-- The packs after a call: one row is written, or none. -/
inductive PacksAfter (s s' : State) (op : Op) : Prop
  | same (hnone : op.pack? s = none) (hpacks : s'.packs = s.packs)
  | written (packId : ℕ) (pack' : MarketingPublicationPack) (htarget : op.pack? s = some packId)
      (hwrite : PackWrite s packId op pack')
      (hpacks : ∀ id, s'.packs.get? id = if id = packId then some pack' else s.packs.get? id)

section Resets

theorem reset_draft (pack : MarketingPublicationPack) :
    (resetPackAfterContentChange pack).status = .draft ∧ (resetPackAfterContentChange pack).approvalStatus = .draft := by
  unfold resetPackAfterContentChange
  split
  · rename_i h
    exact ⟨h.1, h.2.2⟩
  · exact ⟨rfl, rfl⟩

/-- A reset leaves what the pack is about. -/
theorem reset_keeps (pack : MarketingPublicationPack) :
    (resetPackAfterContentChange pack).topicId = pack.topicId ∧
    (resetPackAfterContentChange pack).plannedDate = pack.plannedDate ∧
    (resetPackAfterContentChange pack).tenantId = pack.tenantId := by
  unfold resetPackAfterContentChange
  split <;> exact ⟨rfl, rfl, rfl⟩

end Resets

section Calls

variable {s s₁ s' : State} {op : Op} {tenantId packId : ℕ}

theorem packs_writeText {q : ℕ} {channel : MarketingChannel} {payload : PackTextUpsert} :
    (writeText tenantId q channel payload s).packs = s.packs := by
  unfold writeText
  split <;> rfl

theorem topics_writeText {q : ℕ} {channel : MarketingChannel} {payload : PackTextUpsert} :
    (writeText tenantId q channel payload s).topics = s.topics := by
  unfold writeText
  split <;> rfl

/-- The rows after one row is rewritten. -/
theorem get?_modifyPack {pack : MarketingPublicationPack} {f : MarketingPublicationPack → MarketingPublicationPack}
    (hpacks : s₁.packs = s.packs) (hpack : s.packs.get? packId = some pack) (id : ℕ) :
    (s₁.modifyPack packId f).packs.get? id = if id = packId then some (f pack) else s.packs.get? id := by
  rw [State.modifyPack, hpacks, Table.get?_modify]
  split
  · rename_i h
    rw [h, hpack, Option.map_some]
  · rfl

theorem createTexts_same {channels : List MarketingChannel}
    (h : channels.foldlM (createText tenantId packId) s = .ok s') : s'.packs = s.packs ∧ s'.topics = s.topics := by
  refine foldlM_invariant (fun t : State => t.packs = s.packs ∧ t.topics = s.topics) ?_ ⟨rfl, rfl⟩ h
  intro t channel t' _ ht hcreate
  simp only [createText, bind_eq_ok, raiseIf_eq_ok, pure_eq_ok] at hcreate
  obtain ⟨-, -, rfl⟩ := hcreate
  exact ht

theorem createDraft_packs {title slug : String} {plannedDate : ℤ} {topic : Option MarketingContentTopic}
    {topicId : Option ℕ} (h : createDraftPackWithTexts tenantId packId title slug plannedDate topic topicId s = .ok s') :
    s.packs.get? packId = none ∧ s'.topics = s.topics ∧ ∀ id, s'.packs.get? id =
      if id = packId then some (draftPack tenantId title slug plannedDate topicId) else s.packs.get? id := by
  simp only [createDraftPackWithTexts, bind_eq_ok, raiseIf_eq_ok, Option.not_isSome_iff_eq_none] at h
  obtain ⟨-, hnone, hloop⟩ := h
  obtain ⟨hpacks, htopics⟩ := createTexts_same hloop
  refine ⟨hnone, htopics, fun id => ?_⟩
  rw [hpacks]
  exact Table.get?_insert_new _ _ _ hnone

theorem createMediaAsset_same {assetId : ℕ} {asset : MarketingMediaAsset}
    (h : createMediaAsset assetId asset s = .ok s') : s'.packs = s.packs ∧ s'.topics = s.topics := by
  simp only [createMediaAsset, bind_eq_ok, raiseIf_eq_ok, pure_eq_ok] at h
  obtain ⟨-, -, rfl⟩ := h
  exact ⟨rfl, rfl⟩

/-- An edit of an asset: its pack, if it has one, goes back to draft. -/
theorem resetPackOf_after {q : Option ℕ} (hedits : op.Edits) (htarget : op.pack? s = q) (hpacks : s₁.packs = s.packs)
    (h : resetPackOf tenantId q s₁ = .ok s') : PacksAfter s s' op := by
  rcases q with _ | q
  · obtain rfl := pure_eq_ok.1 h
    exact .same htarget hpacks
  · simp only [resetPackOf, bind_eq_ok, pure_eq_ok] at h
    obtain ⟨pack, hget, rfl⟩ := h
    have hpack : s.packs.get? q = some pack := hpacks ▸ getPackOr404_ok hget
    exact .written q _ htarget (.reset hedits hpack) (get?_modifyPack hpacks hpack)

theorem createPack_packs {today : ℤ} {slugified : String} {payload : PackCreate}
    (h : createPack tenantId packId today slugified payload s = .ok s') :
    PacksAfter s s' (.createPack tenantId packId today slugified payload) := by
  simp only [createPack, bind_eq_ok] at h
  obtain ⟨topic, htopic, _, _, hcreate⟩ := h
  obtain ⟨hnew, -, hpacks⟩ := createDraft_packs hcreate
  exact .written packId _ rfl (.created hnew htopic) hpacks

theorem takeTopic_packs {today : ℤ} {slugified : String} {topicId : ℕ} {payload : TakeTopicRequest}
    (h : takeTopic tenantId packId today slugified topicId payload s = .ok s') :
    PacksAfter s s' (.takeTopic tenantId packId today slugified topicId payload) := by
  simp only [takeTopic, bind_eq_ok, raiseIf_eq_ok, Option.not_isSome_iff_eq_none] at h
  obtain ⟨topic, htopic, _, _, _, hallowed, _, _, _, hdate, hcreate⟩ := h
  obtain ⟨hnew, -, hpacks⟩ := createDraft_packs hcreate
  exact .written packId _ rfl (.taken hnew htopic hallowed hdate) hpacks

/-- What an accepted call does to the packs. -/
theorem exec_packs (h : exec s op = .ok s') : PacksAfter s s' op := by
  cases op with
  | createPack tenantId packId today slugified payload => exact createPack_packs h
  | takeTopic tenantId packId today slugified topicId payload => exact takeTopic_packs h
  | updatePack tenantId packId payload =>
    simp only [exec, updatePack, bind_eq_ok, pure_eq_ok] at h
    obtain ⟨pack, hget, topic, htopic, _, hstatus, rfl⟩ := h
    exact .written packId _ rfl (.updated hget htopic hstatus) (get?_modifyPack rfl (getPackOr404_ok hget))
  | upsertPackText tenantId packId channel payload =>
    simp only [exec, upsertPackText, bind_eq_ok, pure_eq_ok] at h
    obtain ⟨_, _, pack, hget, rfl⟩ := h
    exact .written packId _ rfl (.reset trivial (getPackOr404_ok hget)) (get?_modifyPack packs_writeText (getPackOr404_ok hget))
  | attachMedia tenantId assetId packId payload =>
    simp only [exec, attachMedia, bind_eq_ok, pure_eq_ok] at h
    obtain ⟨pack, hget, _, _, s₁, hcreate, rfl⟩ := h
    exact .written packId _ rfl (.reset trivial (getPackOr404_ok hget))
      (get?_modifyPack (createMediaAsset_same hcreate).1 (getPackOr404_ok hget))
  | updateMedia tenantId assetId payload =>
    simp only [exec, updateMedia, bind_eq_ok] at h
    obtain ⟨asset, hasset, _, _, hreset⟩ := h
    refine resetPackOf_after trivial ?_ ?_ hreset
    · simp [Op.pack?, getAssetOr404_ok hasset]
    · rfl
  | archiveMedia tenantId assetId =>
    simp only [exec, archiveMedia, bind_eq_ok] at h
    obtain ⟨asset, hasset, hreset⟩ := h
    refine resetPackOf_after trivial ?_ ?_ hreset
    · simp [Op.pack?, getAssetOr404_ok hasset]
    · rfl
  | storeManagedMedia tenantId assetId m =>
    simp only [exec, storeManagedMedia, bind_eq_ok] at h
    obtain ⟨_, _, _, _, _, _, _, _, _, _, _, _, _, _, _, _, hcreate⟩ := h
    exact .same rfl (createMediaAsset_same hcreate).1
  | registerPublicUrl tenantId assetId m =>
    simp only [exec, registerPublicUrl, bind_eq_ok] at h
    obtain ⟨_, _, _, _, _, _, _, _, _, _, hcreate⟩ := h
    exact .same rfl (createMediaAsset_same hcreate).1
  | updateTopic tenantId topicId payload =>
    simp only [exec, updateTopic, bind_eq_ok, pure_eq_ok] at h
    obtain ⟨_, _, _, _, rfl⟩ := h
    exact .same rfl rfl
  | runPreflight tenantId packId channels now =>
    simp only [exec, runPreflight, bind_eq_ok, pure_eq_ok] at h
    obtain ⟨-, ⟨pack, hget, _, hallowed, rfl, rfl⟩, rfl⟩ := h
    exact .written packId _ rfl (.preflighted (getPackOr404_ok hget) hallowed) (get?_modifyPack rfl (getPackOr404_ok hget))
  | approvePack tenantId packId userId now =>
    simp only [exec, approvePack, bind_eq_ok, raiseIf_eq_ok, pure_eq_ok, not_not] at h
    obtain ⟨pack, hget, -, hpassed, -, hready, rfl⟩ := h
    exact .written packId _ rfl (.approved (getPackOr404_ok hget) hpassed hready) (get?_modifyPack rfl (getPackOr404_ok hget))
  | rejectPack tenantId packId =>
    simp only [exec, rejectPack, bind_eq_ok, raiseIf_eq_ok, pure_eq_ok, not_not] at h
    obtain ⟨pack, hget, -, hstatus, rfl⟩ := h
    exact .written packId _ rfl (.rejected (getPackOr404_ok hget) hstatus) (get?_modifyPack rfl (getPackOr404_ok hget))

theorem resetPackOf_topics {q : Option ℕ} (h : resetPackOf tenantId q s₁ = .ok s') : s'.topics = s₁.topics := by
  rcases q with _ | q
  · obtain rfl := pure_eq_ok.1 h
    rfl
  · simp only [resetPackOf, bind_eq_ok, pure_eq_ok] at h
    obtain ⟨_, _, rfl⟩ := h
    rfl

/-- Only an update of a topic writes topics. -/
theorem exec_topics (h : exec s op = .ok s') : s'.topics = s.topics ∨
    ∃ tenantId topicId payload, op = .updateTopic tenantId topicId payload ∧
      s'.topics = s.topics.modify topicId payload.apply := by
  cases op with
  | updateTopic tenantId topicId payload =>
    simp only [exec, updateTopic, bind_eq_ok, pure_eq_ok] at h
    obtain ⟨_, _, _, _, rfl⟩ := h
    exact .inr ⟨tenantId, topicId, payload, rfl, rfl⟩
  | createPack tenantId packId today slugified payload =>
    simp only [exec, createPack, bind_eq_ok] at h
    obtain ⟨_, _, _, _, hcreate⟩ := h
    exact .inl (createDraft_packs hcreate).2.1
  | takeTopic tenantId packId today slugified topicId payload =>
    simp only [exec, takeTopic, bind_eq_ok] at h
    obtain ⟨_, _, _, _, _, _, _, _, _, _, hcreate⟩ := h
    exact .inl (createDraft_packs hcreate).2.1
  | updatePack tenantId packId payload =>
    simp only [exec, updatePack, bind_eq_ok, pure_eq_ok] at h
    obtain ⟨_, _, _, _, _, _, rfl⟩ := h
    exact .inl rfl
  | upsertPackText tenantId packId channel payload =>
    simp only [exec, upsertPackText, bind_eq_ok, pure_eq_ok] at h
    obtain ⟨_, _, _, _, rfl⟩ := h
    exact .inl topics_writeText
  | attachMedia tenantId assetId packId payload =>
    simp only [exec, attachMedia, bind_eq_ok, pure_eq_ok] at h
    obtain ⟨_, _, _, _, s₁, hcreate, rfl⟩ := h
    exact .inl (createMediaAsset_same hcreate).2
  | updateMedia tenantId assetId payload =>
    simp only [exec, updateMedia, bind_eq_ok] at h
    obtain ⟨_, _, _, _, hreset⟩ := h
    have htopics := resetPackOf_topics hreset
    exact .inl htopics
  | archiveMedia tenantId assetId =>
    simp only [exec, archiveMedia, bind_eq_ok] at h
    obtain ⟨_, _, hreset⟩ := h
    have htopics := resetPackOf_topics hreset
    exact .inl htopics
  | storeManagedMedia tenantId assetId m =>
    simp only [exec, storeManagedMedia, bind_eq_ok] at h
    obtain ⟨_, _, _, _, _, _, _, _, _, _, _, _, _, _, _, _, hcreate⟩ := h
    exact .inl (createMediaAsset_same hcreate).2
  | registerPublicUrl tenantId assetId m =>
    simp only [exec, registerPublicUrl, bind_eq_ok] at h
    obtain ⟨_, _, _, _, _, _, _, _, _, _, hcreate⟩ := h
    exact .inl (createMediaAsset_same hcreate).2
  | runPreflight tenantId packId channels now =>
    simp only [exec, runPreflight, bind_eq_ok, pure_eq_ok] at h
    obtain ⟨-, ⟨_, _, _, _, rfl, rfl⟩, rfl⟩ := h
    exact .inl rfl
  | approvePack tenantId packId userId now =>
    simp only [exec, approvePack, bind_eq_ok, pure_eq_ok] at h
    obtain ⟨_, _, _, _, _, _, rfl⟩ := h
    exact .inl rfl
  | rejectPack tenantId packId =>
    simp only [exec, rejectPack, bind_eq_ok, pure_eq_ok] at h
    obtain ⟨_, _, _, _, rfl⟩ := h
    exact .inl rfl

end Calls

section Examples

/-- An approved topic with an audience, and no pack yet. -/
def demoState : State where
  topics := Table.insert ∅ 1 ⟨1, "Spring", .approved, true, [], 0, none, [("audience", some "cabin guests")]⟩
  packs := ∅
  texts := ∅
  media := ∅
  profiles := ∅

def rename (title : String) : Op := .updatePack 1 7 ⟨some title, none, none⟩

/-- A pack is made, renamed, given a text, checked and approved. -/
def demoRun : List Op :=
  [.createPack 1 7 0 "spring" ⟨"Spring", none, none, some 1⟩, rename "Early spring",
    .upsertPackText 1 7 .telegram ⟨"Cabins by the lake are open again", none⟩, .runPreflight 1 7 none 1,
    .approvePack 1 7 5 2]

end Examples

end CoreOps.Marketing
