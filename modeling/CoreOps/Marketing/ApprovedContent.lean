import CoreOps.Lib.Certificate
import CoreOps.Marketing.Calls

/-! Approved content: a pack that is approved was approved on the content it has, after
a preflight that passed that content, as long as the calls that edit content without
resetting the pack leave packs alone that are checked or approved. -/

namespace CoreOps.Marketing

open Checked

/-- A pack that waits for its approval or has it. -/
def MarketingPublicationPack.Watched (pack : MarketingPublicationPack) : Prop :=
  pack.status = .readyForApproval ∨ pack.status = .approved

instance (pack : MarketingPublicationPack) : Decidable pack.Watched :=
  inferInstanceAs (Decidable (pack.status = .readyForApproval ∨ pack.status = .approved))

/-- The asset is for no pack that is watched. -/
def Unwatched (s : State) (packId : Option ℕ) : Prop :=
  ∀ id ∈ packId, ∀ pack ∈ s.packs.get? id, ¬ pack.Watched

instance (s : State) (packId : Option ℕ) : Decidable (Unwatched s packId) :=
  inferInstanceAs (Decidable (∀ id ∈ packId, ∀ pack ∈ s.packs.get? id, ¬ pack.Watched))

/-- The calls that do not reset the packs whose content they edit leave watched packs
as they are. -/
def KeepsContent (s : State) : Op → Prop
  | .updatePack _ packId payload => ∀ pack ∈ s.packs.get? packId, pack.Watched → payload.status = none →
      payload.title.getD pack.title = pack.title ∧ payload.topicId.or pack.topicId = pack.topicId
  | .storeManagedMedia _ _ m => Unwatched s m.packId
  | .registerPublicUrl _ _ m => Unwatched s m.packId
  | .updateTopic _ topicId payload => ∀ topic ∈ s.topics.get? topicId,
      (∃ r ∈ s.packs.rows, r.2.topicId = some topicId ∧ r.2.Watched) → payload.apply topic = topic
  | _ => True

instance (s : State) : ∀ op, Decidable (KeepsContent s op)
  | .updatePack _ packId payload => inferInstanceAs (Decidable (∀ pack ∈ s.packs.get? packId,
      pack.Watched → payload.status = none →
        payload.title.getD pack.title = pack.title ∧ payload.topicId.or pack.topicId = pack.topicId))
  | .storeManagedMedia _ _ m => inferInstanceAs (Decidable (Unwatched s m.packId))
  | .registerPublicUrl _ _ m => inferInstanceAs (Decidable (Unwatched s m.packId))
  | .updateTopic _ topicId payload => inferInstanceAs (Decidable (∀ topic ∈ s.topics.get? topicId,
      (∃ r ∈ s.packs.rows, r.2.topicId = some topicId ∧ r.2.Watched) → payload.apply topic = topic))
  | .createPack .. | .takeTopic .. | .upsertPackText .. | .attachMedia .. | .updateMedia .. | .archiveMedia ..
  | .runPreflight .. | .approvePack .. | .rejectPack .. => inferInstanceAs (Decidable True)

/-- The call is a preflight of the pack that passes it on this content. -/
def Evaluates (s : State) (op : Op) (packId : ℕ) (inputs : PackInputs) : Prop :=
  ∃ tenantId channels now findings s', op = .runPreflight tenantId packId channels now ∧
    runPreflight tenantId packId channels now s = .ok (findings, s') ∧ findings.errors = [] ∧
    ∃ pack, s.packs.get? packId = some pack ∧ packInputs s packId pack = inputs

/-- The call approves the pack. -/
def Approves (s : State) (op : Op) (packId : ℕ) : Prop :=
  ∃ tenantId userId now s', op = .approvePack tenantId packId userId now ∧
    approvePack tenantId packId userId now s = .ok s'

/-- In the run a preflight passes the pack on this content, and later the pack is approved. -/
def ApprovedOn (s₀ : State) (evs : List Op) (packId : ℕ) (inputs : PackInputs) : Prop :=
  ∃ before preflight between approve after s₁ s₂, evs = before ++ preflight :: (between ++ approve :: after) ∧
    Run (CallStep exec) s₀ before s₁ ∧ Evaluates s₁ preflight packId inputs ∧
    Run (CallStep exec) s₀ (before ++ preflight :: between) s₂ ∧ Approves s₂ approve packId

/-! What a call leaves alone. -/

/-- The content of a pack apart from its own row. -/
structure SameContent (packId : ℕ) (s s' : State) : Prop where
  topics : s'.topics = s.topics
  texts : ∀ tenantId, listPackTexts s' tenantId packId = listPackTexts s tenantId packId
  media : ∀ tenantId, listPackMedia s' tenantId packId = listPackMedia s tenantId packId

section Frames

variable {s s' s'' : State} {packId : ℕ}

theorem SameContent.refl (s : State) : SameContent packId s s := ⟨rfl, fun _ => rfl, fun _ => rfl⟩

theorem SameContent.trans (h : SameContent packId s s') (h' : SameContent packId s' s'') :
    SameContent packId s s'' :=
  ⟨h'.topics.trans h.topics, fun t => (h'.texts t).trans (h.texts t), fun t => (h'.media t).trans (h.media t)⟩

theorem SameContent.inputs (h : SameContent packId s s') {pack pack' : MarketingPublicationPack}
    (ht : pack'.title = pack.title) (hl : pack'.topicId = pack.topicId) (hn : pack'.tenantId = pack.tenantId) :
    packInputs s' packId pack' = packInputs s packId pack := by
  simp only [packInputs, ht, hl, hn, h.topics, h.texts, h.media]

theorem sameContent_modifyPack (s : State) (q : ℕ) (f : MarketingPublicationPack → MarketingPublicationPack) :
    SameContent packId s (s.modifyPack q f) :=
  ⟨rfl, fun _ => rfl, fun _ => rfl⟩

/-- A write of another pack's text. -/
theorem sameContent_texts {texts : Table (ℕ × MarketingChannel) MarketingPublicationText}
    (h : ∀ tenantId, (texts.rows.filter fun r => r.1.1 = packId ∧ r.2.tenantId = tenantId) =
      s.texts.rows.filter fun r => r.1.1 = packId ∧ r.2.tenantId = tenantId) :
    SameContent packId s { s with texts := texts } :=
  ⟨rfl, fun t => by rw [listPackTexts, listPackTexts, h t], fun _ => rfl⟩

theorem sameContent_writeText {tenantId q : ℕ} {channel : MarketingChannel} {payload : PackTextUpsert}
    (hq : q ≠ packId) : SameContent packId s (writeText tenantId q channel payload s) := by
  unfold writeText
  split
  · exact sameContent_texts fun t => Table.filter_insert _ _ (by simp [hq])
  · exact sameContent_texts fun t => Table.filter_modify _ _ fun v _ => by simp [hq]

/-- Another pack, or other packs than this, may have gained texts. -/
def SamePacks (packId q : ℕ) (s s' : State) : Prop := s'.packs = s.packs ∧ (q ≠ packId → SameContent packId s s')

theorem createText_ok {tenantId q : ℕ} {channel : MarketingChannel}
    (h : createText tenantId q s channel = .ok s') : SamePacks packId q s s' := by
  simp only [createText, bind_eq_ok, raiseIf_eq_ok, pure_eq_ok] at h
  obtain ⟨-, -, rfl⟩ := h
  exact ⟨rfl, fun hq => sameContent_texts fun t => Table.filter_insert _ _ (by simp [hq])⟩

theorem createTexts_ok {tenantId q : ℕ} {channels : List MarketingChannel}
    (h : channels.foldlM (createText tenantId q) s = .ok s') : SamePacks packId q s s' :=
  foldlM_invariant (SamePacks packId q s) (fun _ _ _ _ hI hs => by
    have hnext : SamePacks packId q _ _ := createText_ok hs
    exact ⟨hnext.1.trans hI.1, fun hq => (hI.2 hq).trans (hnext.2 hq)⟩)
    ⟨rfl, fun _ => SameContent.refl s⟩ h

/-- An asset of another pack comes in. -/
theorem createMediaAsset_ok (packId : ℕ) {assetId : ℕ} {asset : MarketingMediaAsset}
    (h : createMediaAsset assetId asset s = .ok s') :
    s'.packs = s.packs ∧ (asset.packId ≠ some packId → SameContent packId s s') := by
  simp only [createMediaAsset, bind_eq_ok, raiseIf_eq_ok, pure_eq_ok] at h
  obtain ⟨-, -, rfl⟩ := h
  exact ⟨rfl, fun hq => ⟨rfl, fun _ => rfl, fun t => Table.filter_insert _ _ (by simp [hq])⟩⟩

/-- An asset of another pack changes. -/
theorem sameContent_modifyMedia {assetId : ℕ} {f : MarketingMediaAsset → MarketingMediaAsset}
    {asset : MarketingMediaAsset} (ha : s.media.get? assetId = some asset) (hf : (f asset).packId = asset.packId)
    (hq : asset.packId ≠ some packId) : SameContent packId s (s.modifyMedia assetId f) := by
  refine ⟨rfl, fun _ => rfl, fun t => Table.filter_modify _ _ fun v hv => ?_⟩
  obtain rfl := Option.some.inj (ha.symm.trans hv)
  simp [hf, hq]

end Frames

/-! What a call does to a pack that is watched afterwards. -/

/-- How a pack got to be watched: it was, or a preflight passed it, or it was approved. -/
inductive Outcome (s : State) (op : Op) (packId : ℕ) (pack pack' : MarketingPublicationPack) : Prop
  | same (hstatus : pack'.status = pack.status) (hpreflight : pack'.preflightStatus = pack.preflightStatus)
  | evaluated (heval : Evaluates s op packId (packInputs s packId pack))
      (hstatus : pack'.status = .readyForApproval) (hpreflight : pack'.preflightStatus = .passed)
  | approved (happroves : Approves s op packId) (hready : pack.status = .readyForApproval)
      (hpassed : pack.preflightStatus = .passed) (hpreflight : pack'.preflightStatus = .passed)

/-- The call has not changed the content of the pack, and this is how it got its status. -/
def Accounted (s s' : State) (op : Op) (packId : ℕ) (pack' : MarketingPublicationPack) : Prop :=
  ∃ pack, s.packs.get? packId = some pack ∧ packInputs s' packId pack' = packInputs s packId pack ∧
    Outcome s op packId pack pack'

section Calls

variable {s s' : State} {op : Op} {tenantId packId : ℕ} {pack' : MarketingPublicationPack}

theorem accounted_of_same (hc : SameContent packId s s') (hp : s'.packs.get? packId = some pack')
    (hpacks : s'.packs.get? packId = s.packs.get? packId) : Accounted s s' op packId pack' :=
  ⟨pack', hpacks ▸ hp, hc.inputs rfl rfl rfl, .same rfl rfl⟩

theorem not_watched_reset (pack : MarketingPublicationPack) : ¬ (resetPackAfterContentChange pack).Watched := by
  have hdraft : (resetPackAfterContentChange pack).status = .draft := by
    unfold resetPackAfterContentChange
    split
    · rename_i h
      exact h.1
    · rfl
  unfold MarketingPublicationPack.Watched
  rw [hdraft]
  decide

/-- A pack other than the ones that are modified. -/
theorem get?_modifyPack_of_ne {q : ℕ} {f : MarketingPublicationPack → MarketingPublicationPack} (h : packId ≠ q) :
    (s.modifyPack q f).packs.get? packId = s.packs.get? packId :=
  Table.get?_modify_of_ne _ h _

/-- A call that resets the pack whose content it changes. -/
theorem accounted_of_reset {s₁ : State} {q : ℕ} (hpacks : s₁.packs = s.packs)
    (hc : q ≠ packId → SameContent packId s s₁)
    (hp : (s₁.modifyPack q resetPackAfterContentChange).packs.get? packId = some pack') (hw : pack'.Watched) :
    Accounted s (s₁.modifyPack q resetPackAfterContentChange) op packId pack' := by
  by_cases hq : packId = q
  · subst hq
    rw [State.modifyPack, Table.get?_modify_self, Option.map_eq_some_iff] at hp
    obtain ⟨pack, -, rfl⟩ := hp
    exact absurd hw (not_watched_reset pack)
  · refine accounted_of_same ((hc (Ne.symm hq)).trans (sameContent_modifyPack _ _ _)) hp ?_
    rw [get?_modifyPack_of_ne hq, hpacks]

theorem createDraft_ok {q : ℕ} {title slug : String} {plannedDate : ℤ} {topic : Option MarketingContentTopic}
    {topicId : Option ℕ} (h : createDraftPackWithTexts tenantId q title slug plannedDate topic topicId s = .ok s')
    (hp : s'.packs.get? packId = some pack') (hw : pack'.Watched) : Accounted s s' op packId pack' := by
  simp only [createDraftPackWithTexts, bind_eq_ok, raiseIf_eq_ok, Option.not_isSome_iff_eq_none] at h
  obtain ⟨-, hnone, hloop⟩ := h
  have htexts : SamePacks packId q _ s' := createTexts_ok hloop
  have hget := congrArg (Table.get? · packId) htexts.1
  dsimp only at hget
  rw [Table.get?_insert_new _ _ _ hnone] at hget
  split at hget
  · obtain rfl := Option.some.inj (hp.symm.trans hget)
    rcases hw with hw | hw <;> cases hw
  · rename_i hq
    have hc := htexts.2 (Ne.symm hq)
    exact accounted_of_same ⟨hc.topics, hc.texts, hc.media⟩ hp hget

theorem updatePack_ok {q : ℕ} {payload : PackUpdate} (h : updatePack tenantId q payload s = .ok s')
    (hk : KeepsContent s (.updatePack tenantId q payload)) (hp : s'.packs.get? packId = some pack')
    (hw : pack'.Watched) : Accounted s s' op packId pack' := by
  simp only [updatePack, bind_eq_ok, pure_eq_ok] at h
  obtain ⟨pack, hget, _, _, _, hstatus, rfl⟩ := h
  by_cases hq : packId = q
  · subst hq
    have hpack := getPackOr404_ok hget
    rw [State.modifyPack, Table.get?_modify_self, hpack, Option.map_some, Option.some.injEq] at hp
    subst hp
    have hnone : payload.status = none := by
      cases hst : payload.status with
      | none => rfl
      | some st =>
        rw [hst] at hstatus
        simp only [checkStatus, checkStatusChange, bind_eq_ok, raiseIf_eq_ok, not_not] at hstatus
        obtain ⟨-, -, -, hpatch, -⟩ := hstatus
        simp only [MarketingPublicationPack.Watched, PackUpdate.apply, hst, Option.getD_some] at hw
        rcases hw with rfl | rfl <;> cases hpatch <;> rename_i hm <;> cases hm <;> rename_i hm <;> cases hm
    have hsame : (payload.apply pack).status = pack.status := by simp [PackUpdate.apply, hnone]
    have hw' : pack.Watched := by
      rw [MarketingPublicationPack.Watched, hsame] at hw
      exact hw
    obtain ⟨htitle, htopic⟩ := hk pack hpack hw' hnone
    exact ⟨pack, hpack, (sameContent_modifyPack s packId _).inputs htitle htopic rfl, .same hsame rfl⟩
  · exact accounted_of_same (sameContent_modifyPack s q _) hp (get?_modifyPack_of_ne hq)

/-- What the two services that store an asset without a reset have checked. -/
structure Stored (tenantId assetId : ℕ) (asset : MarketingMediaAsset) (s s' : State) : Prop where
  found : asset.packId.all fun id => (getPack s tenantId id).isSome
  owner : asset.tenantId = tenantId
  status : asset.status = .stored
  created : createMediaAsset assetId asset s = .ok s'

theorem storeManagedMedia_ok {assetId : ℕ} {m : ManagedMedia} (h : storeManagedMedia tenantId assetId m s = .ok s') :
    ∃ asset, asset.packId = m.packId ∧ Stored tenantId assetId asset s s' := by
  simp only [storeManagedMedia, checkPackFound, bind_eq_ok, raiseIf_eq_ok, not_not] at h
  obtain ⟨_, _, _, _, _, _, _, _, _, _, _, _, _, hfound, _, _, hcreate⟩ := h
  exact ⟨_, rfl, hfound, rfl, rfl, hcreate⟩

theorem registerPublicUrl_ok {assetId : ℕ} {m : PublicUrlMedia}
    (h : registerPublicUrl tenantId assetId m s = .ok s') :
    ∃ asset, asset.packId = m.packId ∧ Stored tenantId assetId asset s s' := by
  simp only [registerPublicUrl, checkPackFound, bind_eq_ok, raiseIf_eq_ok, not_not] at h
  obtain ⟨_, _, _, _, _, _, _, _, _, hfound, hcreate⟩ := h
  exact ⟨_, rfl, hfound, rfl, rfl, hcreate⟩

/-- The pack of an asset that is stored without a reset is not watched. -/
theorem stored_ok {assetId : ℕ} {asset : MarketingMediaAsset} {q : Option ℕ} (hk : Unwatched s q)
    (hpack : asset.packId = q) (hs : Stored tenantId assetId asset s s') (hp : s'.packs.get? packId = some pack') (hw : pack'.Watched) :
    Accounted s s' op packId pack' := by
  obtain ⟨hpacks, hc⟩ := createMediaAsset_ok packId hs.created
  rw [hpacks] at hp
  have hne : asset.packId ≠ some packId := fun he => hk packId (hpack ▸ he) pack' hp hw
  exact accounted_of_same (hc hne) (hpacks ▸ hp) (by rw [hpacks])

theorem resetPackOf_ok {s₁ : State} {q : Option ℕ} (hpacks : s₁.packs = s.packs)
    (hc : q ≠ some packId → SameContent packId s s₁) (h : resetPackOf tenantId q s₁ = .ok s')
    (hp : s'.packs.get? packId = some pack') (hw : pack'.Watched) : Accounted s s' op packId pack' := by
  cases q with
  | none =>
    obtain rfl := pure_eq_ok.1 h
    exact accounted_of_same (hc nofun) hp (by rw [hpacks])
  | some q =>
    simp only [resetPackOf, bind_eq_ok, pure_eq_ok] at h
    obtain ⟨-, -, rfl⟩ := h
    exact accounted_of_reset hpacks (fun hq => hc fun he => hq (Option.some.inj he)) hp hw

/-- A topic that watched packs link to stays as it is. -/
theorem updateTopic_ok {topicId : ℕ} {payload : TopicUpdate} (h : updateTopic tenantId topicId payload s = .ok s')
    (hk : KeepsContent s (.updateTopic tenantId topicId payload)) (hp : s'.packs.get? packId = some pack')
    (hw : pack'.Watched) : Accounted s s' op packId pack' := by
  simp only [updateTopic, bind_eq_ok, pure_eq_ok] at h
  obtain ⟨topic, htopic, -, -, rfl⟩ := h
  have htopic' : s.topics.get? topicId = some topic := (Option.filter_eq_some_iff.1 (orRaise_eq_ok.1 htopic)).1
  have hp' : s.packs.get? packId = some pack' := hp
  refine ⟨pack', hp', ?_, .same rfl rfl⟩
  have hlink : pack'.topicId.bind (s.topics.modify topicId payload.apply).get? = pack'.topicId.bind s.topics.get? := by
    cases hid : pack'.topicId with
    | none => rfl
    | some id =>
      rw [Option.bind_some, Option.bind_some, Table.get?_modify]
      split
      · rename_i he
        subst he
        have hsame := hk topic htopic' ⟨(packId, pack'), Table.mem_rows.2 hp', hid, hw⟩
        rw [htopic', Option.map_some, hsame]
      · rfl
  simp only [packInputs, PackInputs.mk.injEq, true_and]
  exact ⟨hlink, rfl, rfl⟩

theorem packInputs_recordPreflight (s : State) (packId : ℕ) (now : ℤ) (passed : Bool) (pack : MarketingPublicationPack)
    (f : MarketingPublicationPack → MarketingPublicationPack) :
    packInputs (s.modifyPack packId f) packId (recordPreflight now passed pack) = packInputs s packId pack :=
  (sameContent_modifyPack s packId f).inputs rfl rfl rfl

theorem runPreflight_ok {q : ℕ} {channels : Option (List MarketingChannel)} {now : ℤ} {findings : Findings}
    (h : runPreflight tenantId q channels now s = .ok (findings, s')) (hp : s'.packs.get? packId = some pack')
    (hw : pack'.Watched) : Accounted s s' (.runPreflight tenantId q channels now) packId pack' := by
  have hrun := h
  simp only [runPreflight, bind_eq_ok, pure_eq_ok, Prod.mk.injEq] at h
  obtain ⟨pack, hget, -, -, rfl, rfl⟩ := h
  by_cases hq : packId = q
  · subst hq
    have hpack := getPackOr404_ok hget
    rw [State.modifyPack, Table.get?_modify_self, hpack, Option.map_some, Option.some.injEq] at hp
    subst hp
    refine ⟨pack, hpack, packInputs_recordPreflight .., ?_⟩
    by_cases hpass : PassesPreflight pack.slug channels (packInputs s packId pack)
    · refine .evaluated ⟨tenantId, channels, now, _, _, rfl, hrun, hpass, pack, hpack, rfl⟩ ?_ ?_
      · simp [recordPreflight, hpass]
      · simp [recordPreflight, hpass]
    · simp only [MarketingPublicationPack.Watched, recordPreflight, hpass, decide_false, Bool.false_eq_true,
        if_false] at hw
      rcases hw with hw | hw <;> cases hw
  · exact accounted_of_same (sameContent_modifyPack s q _) hp (get?_modifyPack_of_ne hq)

theorem approvePack_ok {q userId : ℕ} {now : ℤ} (h : approvePack tenantId q userId now s = .ok s')
    (hp : s'.packs.get? packId = some pack') :
    Accounted s s' (.approvePack tenantId q userId now) packId pack' := by
  have hrun := h
  simp only [approvePack, bind_eq_ok, raiseIf_eq_ok, pure_eq_ok, not_not] at h
  obtain ⟨pack, hget, -, hpassed, -, hready, rfl⟩ := h
  by_cases hq : packId = q
  · subst hq
    have hpack := getPackOr404_ok hget
    rw [State.modifyPack, Table.get?_modify_self, hpack, Option.map_some, Option.some.injEq] at hp
    subst hp
    exact ⟨pack, hpack, (sameContent_modifyPack s packId _).inputs rfl rfl rfl,
      .approved ⟨tenantId, userId, now, _, rfl, hrun⟩ hready hpassed hpassed⟩
  · exact accounted_of_same (sameContent_modifyPack s q _) hp (get?_modifyPack_of_ne hq)

theorem rejectPack_ok {q : ℕ} (h : rejectPack tenantId q s = .ok s') (hp : s'.packs.get? packId = some pack')
    (hw : pack'.Watched) : Accounted s s' op packId pack' := by
  simp only [rejectPack, bind_eq_ok, raiseIf_eq_ok, pure_eq_ok] at h
  obtain ⟨pack, _, _, _, rfl⟩ := h
  by_cases hq : packId = q
  · subst hq
    rw [State.modifyPack, Table.get?_modify_self, Option.map_eq_some_iff] at hp
    obtain ⟨pack₀, _, rfl⟩ := hp
    rcases hw with hw | hw <;> cases hw
  · exact accounted_of_same (sameContent_modifyPack s q _) hp (get?_modifyPack_of_ne hq)

/-- What an accepted call does to a pack that is watched after it. -/
theorem exec_accounted (h : exec s op = .ok s') (hk : KeepsContent s op) (hp : s'.packs.get? packId = some pack')
    (hw : pack'.Watched) : Accounted s s' op packId pack' := by
  cases op with
  | createPack tenantId q today slugified payload =>
    simp only [exec, createPack, bind_eq_ok] at h
    obtain ⟨_, _, _, _, hcreate⟩ := h
    exact createDraft_ok hcreate hp hw
  | takeTopic tenantId q today slugified topicId payload =>
    simp only [exec, takeTopic, bind_eq_ok] at h
    obtain ⟨_, _, _, _, _, _, _, _, _, _, hcreate⟩ := h
    exact createDraft_ok hcreate hp hw
  | updatePack tenantId q payload => exact updatePack_ok h hk hp hw
  | upsertPackText tenantId q channel payload =>
    simp only [exec, upsertPackText, bind_eq_ok, pure_eq_ok] at h
    obtain ⟨_, _, _, _, rfl⟩ := h
    exact accounted_of_reset packs_writeText sameContent_writeText hp hw
  | attachMedia tenantId assetId q payload =>
    simp only [exec, attachMedia, bind_eq_ok, pure_eq_ok] at h
    obtain ⟨_, _, _, _, s₁, hcreate, rfl⟩ := h
    obtain ⟨hpacks, hc⟩ := createMediaAsset_ok packId hcreate
    exact accounted_of_reset hpacks (fun hq => hc fun he => hq (Option.some.inj he)) hp hw
  | updateMedia tenantId assetId payload =>
    simp only [exec, updateMedia, bind_eq_ok] at h
    obtain ⟨asset, hasset, _, _, hreset⟩ := h
    refine resetPackOf_ok ?_ (sameContent_modifyMedia (getAssetOr404_ok hasset) rfl) hreset hp hw
    rfl
  | archiveMedia tenantId assetId =>
    simp only [exec, archiveMedia, bind_eq_ok] at h
    obtain ⟨asset, hasset, hreset⟩ := h
    refine resetPackOf_ok ?_ (sameContent_modifyMedia (getAssetOr404_ok hasset) rfl) hreset hp hw
    rfl
  | storeManagedMedia tenantId assetId m =>
    obtain ⟨_, hpack, hcreate⟩ := storeManagedMedia_ok h
    exact stored_ok hk hpack hcreate hp hw
  | registerPublicUrl tenantId assetId m =>
    obtain ⟨_, hpack, hcreate⟩ := registerPublicUrl_ok h
    exact stored_ok hk hpack hcreate hp hw
  | updateTopic tenantId topicId payload => exact updateTopic_ok h hk hp hw
  | runPreflight tenantId q channels now =>
    simp only [exec, bind_eq_ok, pure_eq_ok] at h
    obtain ⟨⟨findings, s₁⟩, hrun, rfl⟩ := h
    exact runPreflight_ok hrun hp hw
  | approvePack tenantId q userId now => exact approvePack_ok h hp
  | rejectPack tenantId q => exact rejectPack_ok h hp hw

/-! The condition is exact: an accepted call that does not meet it changes the content of
a pack that is watched before and after. -/

theorem listPackMedia_stored {assetId : ℕ} {asset : MarketingMediaAsset} {q : ℕ} (hq : asset.packId = some q)
    (hs : Stored tenantId assetId asset s s') : listPackMedia s' tenantId q = listPackMedia s tenantId q ++ [(assetId, asset)] := by
  have hcreate := hs.created
  simp only [createMediaAsset, bind_eq_ok, raiseIf_eq_ok, pure_eq_ok, Option.not_isSome_iff_eq_none] at hcreate
  obtain ⟨-, hnone, rfl⟩ := hcreate
  simp [listPackMedia, Table.rows_insert_new _ _ hnone, List.filter_append, hs.owner, hs.status, hq]

theorem unwatched_of_same {assetId : ℕ} {asset : MarketingMediaAsset} {q : Option ℕ} (hpack : asset.packId = q)
    (hs : Stored tenantId assetId asset s s')
    (hsame : ∀ packId pack pack', s.packs.get? packId = some pack → s'.packs.get? packId = some pack' → pack'.Watched →
      packInputs s' packId pack' = packInputs s packId pack) : Unwatched s q := by
  intro id hid pack hget hw
  rw [← hpack] at hid
  have hfound := hs.found
  rw [hid, Option.all_some, getPack, hget, Option.isSome_filter] at hfound
  have htenant : pack.tenantId = tenantId := by simpa using hfound
  have hget' : s'.packs.get? id = some pack := by rw [(createMediaAsset_ok id hs.created).1]; exact hget
  have hmedia := congrArg PackInputs.media (hsame id pack pack hget hget' hw)
  simp only [packInputs, htenant, listPackMedia_stored hid hs] at hmedia
  simp at hmedia

theorem keepsContent_of_same (h : exec s op = .ok s')
    (hsame : ∀ packId pack pack', s.packs.get? packId = some pack → s'.packs.get? packId = some pack' → pack'.Watched →
      packInputs s' packId pack' = packInputs s packId pack) : KeepsContent s op := by
  cases op with
  | updatePack tenantId q payload =>
    intro pack hget hw hnone
    simp only [exec, updatePack, bind_eq_ok, pure_eq_ok] at h
    obtain ⟨_, _, _, _, _, _, rfl⟩ := h
    have hget' : (s.modifyPack q payload.apply).packs.get? q = some (payload.apply pack) := by
      rw [State.modifyPack, Table.get?_modify_self, hget, Option.map_some]
    have hw' : (payload.apply pack).Watched := by
      simpa [MarketingPublicationPack.Watched, PackUpdate.apply, hnone] using hw
    have hinputs := hsame q pack _ hget hget' hw'
    exact ⟨congrArg PackInputs.title hinputs, congrArg PackInputs.topicId hinputs⟩
  | storeManagedMedia tenantId assetId m =>
    obtain ⟨_, hpack, hs⟩ := storeManagedMedia_ok h
    exact unwatched_of_same hpack hs hsame
  | registerPublicUrl tenantId assetId m =>
    obtain ⟨_, hpack, hs⟩ := registerPublicUrl_ok h
    exact unwatched_of_same hpack hs hsame
  | updateTopic tenantId topicId payload =>
    rintro topic hget ⟨⟨packId, pack⟩, hrow, hlink, hw⟩
    simp only [exec, updateTopic, bind_eq_ok, pure_eq_ok] at h
    obtain ⟨_, _, _, _, rfl⟩ := h
    have hpack := Table.mem_rows.1 hrow
    have hinputs := congrArg PackInputs.topic (hsame packId pack pack hpack hpack hw)
    have hlink' : pack.topicId = some topicId := hlink
    simp only [packInputs, hlink', Option.bind_some, Table.get?_modify_self] at hinputs
    rw [hget, Option.map_some, Option.some.injEq] at hinputs
    exact hinputs
  | _ => trivial

/-- An accepted call leaves the content of the packs that are watched after it alone
exactly when it meets the condition. -/
theorem keepsContent_iff (h : exec s op = .ok s') :
    KeepsContent s op ↔ ∀ packId pack pack', s.packs.get? packId = some pack → s'.packs.get? packId = some pack' →
      pack'.Watched → packInputs s' packId pack' = packInputs s packId pack := by
  refine ⟨fun hk packId pack pack' hget hget' hw => ?_, keepsContent_of_same h⟩
  obtain ⟨pack₀, hget₀, hinputs, -⟩ := exec_accounted h hk hget' hw
  obtain rfl := Option.some.inj (hget.symm.trans hget₀)
  exact hinputs

end Calls

/-! Two certificates about a pack's content: a preflight that passed it, and its
approval, given while the first stands. -/

/-- The calls of a run that all meet the condition. -/
abbrev KeepingStep : State → Op → State → Prop := Restrict KeepsContent (CallStep exec)

/-- The content of a pack, if there is one. -/
def contentOf (s : State) (packId : ℕ) : Option PackInputs := (s.packs.get? packId).map (packInputs s packId)

def Passed (s : State) (packId : ℕ) : Prop :=
  ∃ pack, s.packs.get? packId = some pack ∧ pack.Watched ∧ pack.preflightStatus = .passed

def Approved (s : State) (packId : ℕ) : Prop :=
  ∃ pack, s.packs.get? packId = some pack ∧ pack.status = .approved

/-- What any call, accepted or refused, does to a pack that is watched after it. -/
theorem step_accounted {s s' : State} {op : Op} {packId : ℕ} {pack' : MarketingPublicationPack}
    (h : KeepingStep s op s') (hp : s'.packs.get? packId = some pack') (hw : pack'.Watched) :
    Accounted s s' op packId pack' := by
  obtain ⟨hk, rfl⟩ := h
  cases he : exec s op with
  | ok s' =>
    rw [settle_of_ok he] at hp ⊢
    exact exec_accounted he hk hp hw
  | error e =>
    rw [settle_of_error he] at hp ⊢
    exact ⟨pack', hp, rfl, .same rfl rfl⟩

theorem contentOf_of_accounted {s s' : State} {op : Op} {packId : ℕ} {pack' : MarketingPublicationPack}
    (hp : s'.packs.get? packId = some pack') (h : Accounted s s' op packId pack') :
    contentOf s' packId = contentOf s packId := by
  obtain ⟨pack, hget, hinputs, -⟩ := h
  rw [contentOf, contentOf, hp, hget, Option.map_some, Option.map_some, hinputs]

/-- The preflight certifies the content of the packs that wait for approval or have it. -/
theorem certifies_passed : Certifies KeepingStep contentOf Passed
    fun s op packId => ∃ inputs ∈ contentOf s packId, Evaluates s op packId inputs := by
  rintro s op s' packId h ⟨pack', hp, hw, hpassed⟩
  have hacc := step_accounted h hp hw
  refine ⟨contentOf_of_accounted hp hacc, ?_⟩
  obtain ⟨pack, hget, -, hout⟩ := hacc
  cases hout with
  | same hstatus hpreflight =>
    refine .inl ⟨pack, hget, ?_, hpreflight ▸ hpassed⟩
    rw [MarketingPublicationPack.Watched, ← hstatus]
    exact hw
  | evaluated heval _ _ => exact .inr ⟨packInputs s packId pack, by rw [contentOf, hget]; rfl, heval⟩
  | approved _ hready hpassed _ => exact .inl ⟨pack, hget, .inl hready, hpassed⟩

/-- The approval certifies the content of the packs that are approved. -/
theorem certifies_approved : Certifies KeepingStep contentOf Approved
    fun s op packId => Approves s op packId ∧ Passed s packId := by
  rintro s op s' packId h ⟨pack', hp, happroved⟩
  have hacc := step_accounted h hp (.inr happroved)
  refine ⟨contentOf_of_accounted hp hacc, ?_⟩
  obtain ⟨pack, hget, -, hout⟩ := hacc
  cases hout with
  | same hstatus _ => exact .inl ⟨pack, hget, hstatus ▸ happroved⟩
  | evaluated _ hstatus _ =>
    rw [happroved] at hstatus
    cases hstatus
  | approved happroves hready hpassed _ => exact .inr ⟨happroves, pack, hget, .inl hready, hpassed⟩

/-- Approved content: after a run, from a state without packs, whose calls all meet the
condition, an approved pack was approved after a preflight that passed the content it
has; and a further such call that leaves it approved leaves that content alone. -/
theorem approved_content {s₀ s : State} {evs : List Op} (h0 : s₀.packs = ∅) (h : Run KeepingStep s₀ evs s)
    {packId : ℕ} {pack : MarketingPublicationPack} (hp : s.packs.get? packId = some pack)
    (ha : pack.status = .approved) :
    ApprovedOn s₀ evs packId (packInputs s packId pack) ∧
    ∀ op s' pack', KeepingStep s op s' → s'.packs.get? packId = some pack' → pack'.status = .approved →
      packInputs s' packId pack' = packInputs s packId pack := by
  have hnone : s₀.packs.get? packId = none := by rw [h0]; rfl
  have hcontent : contentOf s packId = some (packInputs s packId pack) := by rw [contentOf, hp]; rfl
  constructor
  · obtain ⟨pre, approve, after, s₂, rfl, hrun₂, ⟨happroves, hpass⟩, hsame₂⟩ :=
      certifies_approved.run (by rintro ⟨pack₀, hget, -⟩; rw [hnone] at hget; cases hget) h ⟨pack, hp, ha⟩
    obtain ⟨before, preflight, between, s₁, rfl, hrun₁, ⟨inputs, hinputs, heval⟩, hsame₁⟩ :=
      certifies_passed.run (by rintro ⟨pack₀, hget, -⟩; rw [hnone] at hget; cases hget) hrun₂ hpass
    rw [hsame₁, hsame₂, hcontent] at hinputs
    obtain rfl := Option.some.inj hinputs
    exact ⟨before, preflight, between, approve, after, s₁, s₂, by simp, hrun₁.of_restrict, heval, hrun₂.of_restrict,
      happroves⟩
  · intro op s' pack' hstep hp' ha'
    have hsame := (certifies_approved s op s' packId hstep ⟨pack', hp', ha'⟩).1
    rw [hcontent, contentOf, hp', Option.map_some, Option.some.injEq] at hsame
    exact hsame

/-- The content a pack was approved on is the content it had before some call of the
run, with at least one call after that one. -/
theorem ApprovedOn.exists_before {s₀ : State} {evs : List Op} {packId : ℕ} {inputs : PackInputs}
    (h : ApprovedOn s₀ evs packId inputs) :
    ∃ k, k + 1 < evs.length ∧ contentOf ((evs.take k).foldl (settle exec) s₀) packId = some inputs := by
  obtain ⟨before, preflight, between, approve, after, s₁, -, rfl, hrun, ⟨-, -, -, -, -, -, -, -, pack, hp, rfl⟩, -⟩ := h
  refine ⟨before.length, ?_, ?_⟩
  · simp only [List.length_append, List.length_cons]
    omega
  · rw [List.take_left, ← hrun.callStep_eq_foldl, contentOf, hp, Option.map_some]

section Examples

/-- An approved pack is renamed: it stays approved, on another title than it was
approved on. -/
theorem approved_pack_renamed : ∃ s pack,
    Run (CallStep exec) demoState (demoRun ++ [rename "Autumn"]) s ∧ s.packs.get? 7 = some pack ∧
    pack.status = .approved ∧ ¬ ApprovedOn demoState (demoRun ++ [rename "Autumn"]) 7 (packInputs s 7 pack) := by
  have hpack : (((demoRun ++ [rename "Autumn"]).foldl (settle exec) demoState).packs.get? 7).map
      (fun pack => (pack.status, pack.title)) = some (.approved, "Autumn") := by
    decide
  obtain ⟨pack, hp, hstatus⟩ := Option.map_eq_some_iff.1 hpack
  obtain ⟨ha, htitle⟩ := Prod.mk.inj hstatus
  refine ⟨_, pack, Run.of_foldl, hp, ha, fun happroved => ?_⟩
  obtain ⟨k, hk, hcontent⟩ := happroved.exists_before
  have hbefore : ∀ k < 5, (contentOf (((demoRun ++ [rename "Autumn"]).take k).foldl (settle exec) demoState) 7).map
      PackInputs.title ≠ some "Autumn" := by
    decide
  refine hbefore k ?_ ?_
  · simp only [demoRun, List.length_append, List.length_cons, List.length_nil] at hk
    omega
  · rw [hcontent, Option.map_some]
    exact congrArg some htitle

/-- The theorem at the run without the last rename. -/
theorem approved_content_first_rename : ∃ s pack,
    Run KeepingStep demoState demoRun s ∧ s.packs.get? 7 = some pack ∧ pack.title = "Early spring" ∧
    pack.status = .approved ∧ ApprovedOn demoState demoRun 7 (packInputs s 7 pack) := by
  have hpack : ((demoRun.foldl (settle exec) demoState).packs.get? 7).map
      (fun pack => (pack.status, pack.title)) = some (.approved, "Early spring") := by
    decide
  obtain ⟨pack, hp, hstatus⟩ := Option.map_eq_some_iff.1 hpack
  obtain ⟨ha, htitle⟩ := Prod.mk.inj hstatus
  have hrun : Run KeepingStep demoState demoRun (demoRun.foldl (settle exec) demoState) :=
    Run.cons ⟨trivial, rfl⟩ (Run.cons ⟨by decide, rfl⟩ (Run.cons ⟨trivial, rfl⟩ (Run.cons ⟨trivial, rfl⟩
      (Run.single ⟨trivial, rfl⟩))))
  exact ⟨_, pack, hrun, hp, htitle, ha, (approved_content rfl hrun hp ha).1⟩

end Examples

end CoreOps.Marketing
