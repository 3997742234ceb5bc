import CoreOps.Lib.CheckedLoops
import CoreOps.Marketing.Calls

/-! The texts of a new pack. `create_text` inserts a row for each channel it is given, and
`uq_marketing_text_pack_channel` has room for one, so a channel that a topic recommends
twice, in any letter case, stops the pack. -/

namespace CoreOps.Marketing

open Checked Text

/-- The row that `create_text` inserts. -/
def newText (tenantId : ℕ) : MarketingPublicationText where
  tenantId := tenantId
  text := ""
  status := .draft
  version := 1
  charCount := 0

section Texts

variable {tenantId packId : ℕ} {s s' : State}

theorem createText_eq_ok {channel : MarketingChannel} : createText tenantId packId s channel = .ok s' ↔
    s.texts.get? (packId, channel) = none ∧
      s' = { s with texts := s.texts.insert (packId, channel) (newText tenantId) } := by
  simp only [createText, bind_eq_ok, raiseIf_eq_ok, pure_eq_ok, exists_const, Option.not_isSome_iff_eq_none]
  exact and_congr_right fun _ => eq_comm

/-- The rows that a loop over the channels leaves: one for each of them, on those before it. -/
theorem createTexts_texts {channels : List MarketingChannel}
    (h : channels.foldlM (createText tenantId packId) s = .ok s') (key : ℕ × MarketingChannel) :
    s'.texts.get? key =
      if key.1 = packId ∧ key.2 ∈ channels then some (newText tenantId) else s.texts.get? key := by
  induction channels generalizing s with
  | nil =>
    rw [List.foldlM_nil, pure_eq_ok] at h
    simp [h]
  | cons channel channels ih =>
    rw [List.foldlM_cons, bind_eq_ok] at h
    obtain ⟨s₁, hfirst, hrest⟩ := h
    obtain ⟨hnone, rfl⟩ := createText_eq_ok.1 hfirst
    rw [ih hrest, Table.get?_insert_new _ _ _ hnone]
    obtain ⟨pack, other⟩ := key
    simp only [Prod.mk.injEq, List.mem_cons]
    by_cases hpack : pack = packId
    · by_cases hother : other = channel
      · simp [hpack, hother]
      · simp [hpack, hother]
    · simp [hpack]

/-- The loop runs to its end when no channel comes twice and none has a row. -/
theorem exists_createTexts_iff {channels : List MarketingChannel} :
    (∃ s', channels.foldlM (createText tenantId packId) s = .ok s') ↔
      channels.Nodup ∧ ∀ channel ∈ channels, s.texts.get? (packId, channel) = none := by
  induction channels generalizing s with
  | nil => simp
  | cons channel channels ih =>
    rw [List.foldlM_cons, exists_bind_eq_ok, List.nodup_cons, List.forall_mem_cons]
    -- what the first round leaves, at the channels of the others
    have hother (hnone : s.texts.get? (packId, channel) = none) (other : MarketingChannel) :
        (s.texts.insert (packId, channel) (newText tenantId)).get? (packId, other) = none ↔
          other ≠ channel ∧ s.texts.get? (packId, other) = none := by
      rw [Table.get?_insert_new _ _ _ hnone]
      by_cases h : other = channel <;> simp [h]
    constructor
    · rintro ⟨s₁, hfirst, hrest⟩
      obtain ⟨hnone, rfl⟩ := createText_eq_ok.1 hfirst
      obtain ⟨hnodup, hfree⟩ := ih.1 hrest
      have hfree (other : MarketingChannel) (hmem : other ∈ channels) := (hother hnone other).1 (hfree other hmem)
      exact ⟨⟨fun hmem => (hfree channel hmem).1 rfl, hnodup⟩, hnone, fun other hmem => (hfree other hmem).2⟩
    · rintro ⟨⟨hnew, hnodup⟩, hnone, hfree⟩
      refine ⟨_, createText_eq_ok.2 ⟨hnone, rfl⟩, ih.2 ⟨hnodup, fun other hmem => ?_⟩⟩
      refine (hother hnone other).2 ⟨fun heq => hnew ?_, hfree other hmem⟩
      exact heq ▸ hmem

end Texts

section Pack

/-- A pack id and a slug that nothing has yet. -/
structure Fresh (s : State) (tenantId packId : ℕ) (slug : String) : Prop where
  pack : s.packs.get? packId = none
  texts : ∀ channel, s.texts.get? (packId, channel) = none
  slug : getPackBySlug s tenantId slug = none

/-- The call has made the pack, with a text for each of the channels and for no other, and
has left the packs and texts that were there. -/
def MakesPackWithTexts (s : State) (tenantId packId : ℕ) (channels : List MarketingChannel)
    (result : Except MarketingError State) : Prop :=
  ∃ s', result = .ok s' ∧ (∃ pack, s'.packs.get? packId = some pack ∧ pack.tenantId = tenantId) ∧
    (∀ id, id ≠ packId → s'.packs.get? id = s.packs.get? id) ∧
    ∀ id channel, s'.texts.get? (id, channel) =
      if id = packId ∧ channel ∈ channels then some (newText tenantId) else s.texts.get? (id, channel)

variable {s : State} {tenantId packId : ℕ}

theorem createDraftPack_eq_ok {title slug : String} {plannedDate : ℤ} {topic : Option MarketingContentTopic}
    {topicId : Option ℕ} {s' : State} (hnone : s.packs.get? packId = none) :
    createDraftPackWithTexts tenantId packId title slug plannedDate topic topicId s = .ok s' ↔
      (resolvePackChannels topic).foldlM (createText tenantId packId)
        { s with packs := s.packs.insert packId (draftPack tenantId title slug plannedDate topicId) } = .ok s' := by
  simp only [createDraftPackWithTexts, bind_eq_ok, raiseIf_eq_ok, exists_const, Option.not_isSome_iff_eq_none, hnone,
    true_and]
  rfl

/-- The factory makes its pack exactly when the channels it resolves differ from one another. -/
theorem createDraftPack_makes_iff {title slug : String} {plannedDate : ℤ} {topic : Option MarketingContentTopic}
    {topicId : Option ℕ} (hfresh : Fresh s tenantId packId slug) :
    MakesPackWithTexts s tenantId packId (resolvePackChannels topic)
        (createDraftPackWithTexts tenantId packId title slug plannedDate topic topicId s) ↔
      (resolvePackChannels topic).Nodup := by
  have hstart (s' : State) :
      createDraftPackWithTexts tenantId packId title slug plannedDate topic topicId s = .ok s' ↔ _ :=
    createDraftPack_eq_ok hfresh.pack
  constructor
  · rintro ⟨s', hok, -⟩
    exact (exists_createTexts_iff.1 ⟨s', (hstart s').1 hok⟩).1
  · intro hnodup
    obtain ⟨s', hok⟩ := (exists_congr hstart).2
      (exists_createTexts_iff.2 ⟨hnodup, fun channel _ => hfresh.texts channel⟩)
    have hloop := (hstart s').1 hok
    obtain ⟨-, -, hpacks⟩ := createDraft_packs hok
    refine ⟨s', hok, ⟨_, (hpacks packId).trans (if_pos rfl), rfl⟩, fun id hid => ?_, fun id channel => ?_⟩
    · rw [hpacks, if_neg hid]
    · exact createTexts_texts hloop (id, channel)

/-- What `take_topic` has checked when it calls the factory. -/
structure Takes (s : State) (tenantId : ℕ) (today : ℤ) (slugified : String) (topicId : ℕ)
    (payload : TakeTopicRequest) (topic : MarketingContentTopic) : Prop where
  found : getTopic s tenantId topicId = some topic
  approved : topic.status = .approved
  allowed : assertTakeAllowed tenantId topicId topic s = .ok ()
  dateFree : findPackForTopicDate s tenantId topicId (payload.plannedDate.getD today) = none

/-- The slug of the pack that `take_topic` makes. -/
def takenSlug (slugified : String) (payload : TakeTopicRequest) (topic : MarketingContentTopic) : String :=
  orElse payload.slug (orElse topic.slugHint slugified)

theorem takeTopic_eq_factory {today : ℤ} {slugified : String} {topicId : ℕ} {payload : TakeTopicRequest}
    {topic : MarketingContentTopic} (htakes : Takes s tenantId today slugified topicId payload topic)
    (hfresh : Fresh s tenantId packId (takenSlug slugified payload topic)) :
    takeTopic tenantId packId today slugified topicId payload s =
      createDraftPackWithTexts tenantId packId topic.title (takenSlug slugified payload topic)
        (payload.plannedDate.getD today) (some topic) (some topicId) s := by
  have hslug := hfresh.slug
  rw [takenSlug] at hslug
  have htopic : getTopicOr404 tenantId topicId s = .ok topic := by simp [getTopicOr404, htakes.found]
  simp [takeTopic, takenSlug, bind, Except.bind, htopic, raiseIf, htakes.approved, htakes.allowed, hslug, htakes.dateFree]

/-- Neither the factory nor `take_topic` counts a channel once that is recommended twice:
each makes its pack exactly when the resolved channels differ from one another. -/
theorem packs_with_texts_iff {topicId : ℕ} {topic : MarketingContentTopic} :
    (∀ title slug plannedDate linked, Fresh s tenantId packId slug →
      (MakesPackWithTexts s tenantId packId (resolvePackChannels (some topic))
          (createDraftPackWithTexts tenantId packId title slug plannedDate (some topic) linked s) ↔
        (resolvePackChannels (some topic)).Nodup)) ∧
    ∀ today slugified payload, Takes s tenantId today slugified topicId payload topic →
      Fresh s tenantId packId (takenSlug slugified payload topic) →
      (MakesPackWithTexts s tenantId packId (resolvePackChannels (some topic))
          (takeTopic tenantId packId today slugified topicId payload s) ↔
        (resolvePackChannels (some topic)).Nodup) := by
  refine ⟨fun title slug plannedDate linked hfresh => createDraftPack_makes_iff hfresh, ?_⟩
  intro today slugified payload htakes hfresh
  rw [takeTopic_eq_factory htakes hfresh]
  exact createDraftPack_makes_iff hfresh

/-- A topic that recommends one channel in two spellings. -/
def spelledTwice : MarketingContentTopic where
  tenantId := 1
  title := "Frost on the pipes"
  status := .approved
  reusable := true
  recommendedChannels := ["telegram", "Telegram"]
  usedCount := 0
  slugHint := some "frost"
  metadataJson := []

/-- A state with this topic alone. -/
def oneTopic (topic : MarketingContentTopic) : State where
  topics := (∅ : Table ℕ MarketingContentTopic).insert 5 topic
  packs := ∅
  texts := ∅
  media := ∅
  profiles := ∅

def takeToday : TakeTopicRequest := ⟨none, none⟩

/-- The same topic, each channel in one spelling. -/
def spelledOnce : MarketingContentTopic := { spelledTwice with recommendedChannels := ["Telegram", "threads", "vk"] }

theorem resolvePackChannels_spellings : resolvePackChannels (some spelledTwice) = [.telegram, .telegram] ∧
    resolvePackChannels (some spelledOnce) = [.telegram, .threads] := by
  decide +kernel

theorem takes_spellings : Takes (oneTopic spelledTwice) 1 20000 "frost" 5 takeToday spelledTwice ∧
    Takes (oneTopic spelledOnce) 1 20000 "frost" 5 takeToday spelledOnce :=
  ⟨⟨rfl, rfl, rfl, rfl⟩, ⟨rfl, rfl, rfl, rfl⟩⟩

theorem fresh_oneTopic (topic : MarketingContentTopic) (slug : String) : Fresh (oneTopic topic) 1 9 slug :=
  ⟨rfl, fun _ => rfl, rfl⟩

/-- The topic is approved, free to take and recommends Telegram: there is no pack for it. -/
theorem spelledTwice_not_taken : Takes (oneTopic spelledTwice) 1 20000 "frost" 5 takeToday spelledTwice ∧
    takeTopic 1 9 20000 "frost" 5 takeToday (oneTopic spelledTwice) = .error .integrityError ∧
    ¬ MakesPackWithTexts (oneTopic spelledTwice) 1 9 [.telegram]
      (takeTopic 1 9 20000 "frost" 5 takeToday (oneTopic spelledTwice)) := by
  have hraises : takeTopic 1 9 20000 "frost" 5 takeToday (oneTopic spelledTwice) = .error .integrityError := by
    rw [takeTopic_eq_factory takes_spellings.1 (fresh_oneTopic _ _), createDraftPackWithTexts,
      resolvePackChannels_spellings.1]
    rfl
  refine ⟨takes_spellings.1, hraises, ?_⟩
  rintro ⟨s', hok, -⟩
  rw [hraises] at hok
  cases hok

/-- Spelled once, it is taken. -/
theorem spelledOnce_taken :
    MakesPackWithTexts (oneTopic spelledOnce) 1 9 (resolvePackChannels (some spelledOnce))
      (takeTopic 1 9 20000 "frost" 5 takeToday (oneTopic spelledOnce)) := by
  refine (packs_with_texts_iff.2 20000 "frost" takeToday takes_spellings.2 (fresh_oneTopic _ _)).2 ?_
  rw [resolvePackChannels_spellings.2]
  decide

end Pack

end CoreOps.Marketing
