import CoreOps.Marketing.Calls

/-! One active pack per topic. Taking a topic checks for it; the other calls that give a
pack a topic, or bring a pack back from the archive, do not. -/

namespace CoreOps.Marketing

open Checked

/-- A pack of the topic that is not archived. -/
def ActivePack (s : State) (topicId packId : ℕ) (pack : MarketingPublicationPack) : Prop :=
  s.packs.get? packId = some pack ∧ pack.topicId = some topicId ∧ pack.status ≠ .archived

/-- At most one active pack for a topic that is not reusable, and for any topic at most
one for a date. -/
structure OneActivePack (s : State) : Prop where
  notReusable {topicId topic i j p q} : s.topics.get? topicId = some topic → topic.reusable = false →
    ActivePack s topicId i p → ActivePack s topicId j q → i = j
  perDate {topicId i j p q} : ActivePack s topicId i p → ActivePack s topicId j q →
    p.plannedDate = q.plannedDate → i = j

/-- The topic has no other active pack on the date, and none at all unless it is reusable. -/
def Clear (s : State) (packId topicId : ℕ) (plannedDate : ℤ) : Prop :=
  ∀ r ∈ s.packs.rows, r.1 ≠ packId → r.2.topicId = some topicId → r.2.status ≠ .archived →
    r.2.plannedDate ≠ plannedDate ∧ ∀ topic ∈ s.topics.get? topicId, topic.reusable = true

instance (s : State) (packId topicId : ℕ) (plannedDate : ℤ) : Decidable (Clear s packId topicId plannedDate) :=
  inferInstanceAs (Decidable (∀ r ∈ s.packs.rows, r.1 ≠ packId → r.2.topicId = some topicId →
    r.2.status ≠ .archived → r.2.plannedDate ≠ plannedDate ∧ ∀ topic ∈ s.topics.get? topicId, topic.reusable = true))

/-- The pack a call makes active without a look at the others, its topic and its date. -/
def activates (s : State) : Op → Option (ℕ × ℕ × ℤ)
  | .createPack _ packId today _ payload =>
    payload.topicId.map fun topicId => (packId, topicId, payload.plannedDate.getD today)
  | .updatePack _ packId payload => (s.packs.get? packId).bind fun pack =>
    if payload.status.getD pack.status = .archived then none
    else (payload.topicId.or pack.topicId).map fun topicId => (packId, topicId, pack.plannedDate)
  | op@(.upsertPackText ..) | op@(.attachMedia ..) | op@(.updateMedia ..) | op@(.archiveMedia ..) =>
    (op.pack? s).bind fun packId => (s.packs.get? packId).bind fun pack =>
      pack.topicId.map fun topicId => (packId, topicId, pack.plannedDate)
  | _ => none

/-- The topic an update makes a topic for one use. -/
def Op.endsReuse? : Op → Option ℕ
  | .updateTopic _ topicId payload => if payload.reusable = some false then some topicId else none
  | _ => none

/-- The call brings no second pack of a topic into use. -/
def BringsNoSecond (s : State) (op : Op) : Prop :=
  (∀ e ∈ activates s op, Clear s e.1 e.2.1 e.2.2) ∧
  ∀ topicId ∈ op.endsReuse?, ∀ r ∈ s.packs.rows, ∀ r' ∈ s.packs.rows, r.2.topicId = some topicId →
    r'.2.topicId = some topicId → r.2.status ≠ .archived → r'.2.status ≠ .archived → r.1 = r'.1

instance (s : State) (op : Op) : Decidable (BringsNoSecond s op) :=
  inferInstanceAs (Decidable ((∀ e ∈ activates s op, Clear s e.1 e.2.1 e.2.2) ∧
    ∀ topicId ∈ op.endsReuse?, ∀ r ∈ s.packs.rows, ∀ r' ∈ s.packs.rows, r.2.topicId = some topicId →
      r'.2.topicId = some topicId → r.2.status ≠ .archived → r'.2.status ≠ .archived → r.1 = r'.1))

/-- The topic of a pack is a topic of its tenant. -/
def OwnTopics (s : State) : Prop := ∀ packId pack topicId, s.packs.get? packId = some pack →
  pack.topicId = some topicId → ∃ topic, s.topics.get? topicId = some topic ∧ topic.tenantId = pack.tenantId

section States

variable {s s' : State} {topicId packId i : ℕ} {plannedDate : ℤ} {pack p : MarketingPublicationPack}

theorem Clear.of_active (h : Clear s packId topicId plannedDate) (hp : ActivePack s topicId i p) (hne : i ≠ packId) :
    p.plannedDate ≠ plannedDate ∧ ∀ topic ∈ s.topics.get? topicId, topic.reusable = true :=
  h (i, p) (Table.mem_rows.2 hp.1) hne hp.2.1 hp.2.2

/-- An active pack is clear of the others. -/
theorem OneActivePack.clear (hI : OneActivePack s) (hp : ActivePack s topicId i p) :
    Clear s i topicId p.plannedDate := by
  intro r hr hne htopic hactive
  have hr' : ActivePack s topicId r.1 r.2 := ⟨Table.mem_rows.1 hr, htopic, hactive⟩
  refine ⟨fun he => hne (hI.perDate hr' hp he), fun topic ht => ?_⟩
  by_contra hreusable
  exact hne (hI.notReusable ht (by simpa using hreusable) hr' hp)

/-- Packs that are all clear of each other. -/
theorem oneActivePack_of_clear (h : ∀ topicId i p, ActivePack s topicId i p → Clear s i topicId p.plannedDate) :
    OneActivePack s where
  notReusable ht hreusable hp hq := by
    by_contra hne
    have := ((h _ _ _ hq).of_active hp hne).2 _ ht
    rw [hreusable] at this
    cases this
  perDate hp hq he := by
    by_contra hne
    exact ((h _ _ _ hq).of_active hp hne).1 he

/-- A row clear of the others is written. -/
theorem oneActivePack_write (hI : OneActivePack s) (ht : s'.topics = s.topics)
    (hpacks : ∀ id, s'.packs.get? id = if id = packId then some pack else s.packs.get? id)
    (hclear : ∀ topicId, pack.topicId = some topicId → pack.status ≠ .archived →
      Clear s packId topicId pack.plannedDate) : OneActivePack s' := by
  have hcases : ∀ topicId i p, ActivePack s' topicId i p →
      i = packId ∧ p = pack ∨ i ≠ packId ∧ ActivePack s topicId i p := by
    rintro topicId i p ⟨hget, hp⟩
    rw [hpacks] at hget
    split at hget
    · rename_i he
      exact .inl ⟨he, (Option.some.inj hget).symm⟩
    · rename_i hne
      exact .inr ⟨hne, hget, hp⟩
  refine oneActivePack_of_clear fun topicId i p hp r hr hne htopic hactive => ?_
  have hr' : ActivePack s' topicId r.1 r.2 := ⟨Table.mem_rows.1 hr, htopic, hactive⟩
  rw [ht]
  rcases hcases topicId i p hp with ⟨rfl, rfl⟩ | ⟨hi, hold⟩
  · rcases hcases topicId r.1 r.2 hr' with ⟨he, -⟩ | ⟨hr₁, hold'⟩
    · exact absurd he hne
    · exact (hclear topicId hp.2.1 hp.2.2).of_active hold' hr₁
  · rcases hcases topicId r.1 r.2 hr' with ⟨he, hrow⟩ | ⟨hr₁, hold'⟩
    · rw [hrow] at htopic hactive ⊢
      obtain ⟨hdate, hreusable⟩ := (hclear topicId htopic hactive).of_active hold hi
      exact ⟨hdate.symm, hreusable⟩
    · exact (hI.clear hold).of_active hold' hne

/-- What `take_topic` has checked. -/
theorem clear_of_take {tenantId : ℕ} {topic : MarketingContentTopic} (hown : OwnTopics s)
    (htopic : getTopicOr404 tenantId topicId s = .ok topic) (hallowed : assertTakeAllowed tenantId topicId topic s = .ok ())
    (hdate : findPackForTopicDate s tenantId topicId plannedDate = none) : Clear s packId topicId plannedDate := by
  obtain ⟨hget, htenant⟩ := getTopicOr404_ok htopic
  intro r hr _ hlink hactive
  obtain ⟨topic', hget', htenant'⟩ := hown r.1 r.2 topicId (Table.mem_rows.1 hr) hlink
  obtain rfl := Option.some.inj (hget.symm.trans hget')
  have hown' : r.2.tenantId = tenantId := htenant' ▸ htenant
  constructor
  · intro he
    have := List.find?_eq_none.1 hdate r hr
    simp [hown', hlink, he, hactive] at this
  · intro topic' hget'
    obtain rfl := Option.some.inj (hget.symm.trans hget')
    by_contra hreusable
    simp only [assertTakeAllowed, bind_eq_ok, raiseIf_eq_ok] at hallowed
    obtain ⟨-, -, hcount⟩ := hallowed
    have hmem : r ∈ listActivePacksForTopic s tenantId topicId :=
      List.mem_filter.2 ⟨hr, by simp [hown', hlink, hactive]⟩
    exact hcount ⟨List.length_pos_of_mem hmem, by simpa using hreusable⟩

end States

section Steps

variable {s s' : State} {op : Op} {packId : ℕ} {pack' : MarketingPublicationPack}

/-- The topic of a row that is written is a topic of its tenant. -/
theorem ownTopic_write (hown : OwnTopics s) (h : PackWrite s packId op pack') {topicId : ℕ}
    (hlink : pack'.topicId = some topicId) :
    ∃ topic, s.topics.get? topicId = some topic ∧ topic.tenantId = pack'.tenantId := by
  cases h with
  | created hnew htopic =>
    have hlink' := hlink
    simp only [draftPack] at hlink'
    rw [hlink'] at htopic
    exact linkedTopic_ok htopic
  | taken hnew htopic hallowed hdate =>
    obtain rfl := Option.some.inj hlink
    exact ⟨_, getTopicOr404_ok htopic⟩
  | @updated tenantId payload pack _ hpack htopic hstatus =>
    have htenant := getPackOr404_tenant hpack
    rcases hnew : payload.topicId with _ | newId
    · exact hown packId pack topicId (getPackOr404_ok hpack) (by simpa [PackUpdate.apply, hnew] using hlink)
    · have he : newId = topicId := by simpa [PackUpdate.apply, hnew] using hlink
      rw [hnew, he] at htopic
      obtain ⟨topic, hget, ht⟩ := linkedTopic_ok htopic
      exact ⟨topic, hget, ht.trans htenant.symm⟩
  | @reset _ pack hedits hpack =>
    obtain ⟨hl, -, ht⟩ := reset_keeps pack
    rw [ht]
    exact hown packId pack topicId hpack (hl ▸ hlink)
  | @preflighted _ _ _ pack _ hpack hallowed => exact hown packId pack topicId hpack hlink
  | @approved _ _ _ pack hpack hpassed hready => exact hown packId pack topicId hpack hlink
  | @rejected _ pack hpack hstatus => exact hown packId pack topicId hpack hlink

theorem ownTopics_exec (hown : OwnTopics s) (h : exec s op = .ok s') : OwnTopics s' := by
  intro id pack topicId hget hlink
  have hold : ∃ topic, s.topics.get? topicId = some topic ∧ topic.tenantId = pack.tenantId := by
    rcases exec_packs h with ⟨-, hpacks⟩ | ⟨packId, pack', -, hwrite, hpacks⟩
    · exact hown id pack topicId (hpacks ▸ hget) hlink
    · rw [hpacks] at hget
      split at hget
      · obtain rfl := Option.some.inj hget
        exact ownTopic_write hown hwrite hlink
      · exact hown id pack topicId hget hlink
  obtain ⟨topic, ht, htenant⟩ := hold
  rcases exec_topics h with hsame | ⟨-, updated, payload, -, hmod⟩
  · exact ⟨topic, hsame ▸ ht, htenant⟩
  · rw [hmod, Table.get?_modify]
    split
    · exact ⟨payload.apply topic, by rw [ht, Option.map_some], htenant⟩
    · exact ⟨topic, ht, htenant⟩

/-- A row that is written is clear of the other packs of its topic. -/
theorem clear_write (hI : OneActivePack s) (hown : OwnTopics s) (hk : BringsNoSecond s op) (htarget : op.pack? s = some packId)
    (h : PackWrite s packId op pack') {topicId : ℕ} (hlink : pack'.topicId = some topicId)
    (hactive : pack'.status ≠ .archived) : Clear s packId topicId pack'.plannedDate := by
  cases h with
  | @created _ today _ payload _ _ hnew htopic =>
    refine hk.1 (packId, topicId, payload.plannedDate.getD today) ?_
    simpa [activates, draftPack] using hlink
  | taken hnew htopic hallowed hdate =>
    obtain rfl := Option.some.inj hlink
    exact clear_of_take hown htopic hallowed hdate
  | @updated tenantId payload pack _ hpack htopic hstatus =>
    refine hk.1 (packId, topicId, pack.plannedDate) ?_
    have hactive' : payload.status.getD pack.status ≠ .archived := hactive
    simpa [activates, getPackOr404_ok hpack, hactive', PackUpdate.apply] using hlink
  | @reset _ pack hedits hpack =>
    obtain ⟨hl, hd, -⟩ := reset_keeps pack
    rw [hd]
    refine hk.1 (packId, topicId, pack.plannedDate) ?_
    rw [hl] at hlink
    cases op <;> first | exact absurd hedits id | simp [activates, htarget, hpack, hlink]
  | @preflighted _ _ _ pack _ hpack hallowed =>
    simp only [assertPreflightAllowed, raiseIf_eq_ok, List.mem_cons, List.not_mem_nil, or_false, not_or] at hallowed
    have hclear : Clear s packId topicId pack.plannedDate := hI.clear ⟨hpack, hlink, hallowed.2.2.2.2⟩
    exact hclear
  | @approved _ _ _ pack hpack hpassed hready =>
    have hclear : Clear s packId topicId pack.plannedDate := hI.clear ⟨hpack, hlink, by simp [hready]⟩
    exact hclear
  | @rejected _ pack hpack hstatus =>
    have hclear : Clear s packId topicId pack.plannedDate :=
      hI.clear ⟨hpack, hlink, fun he => by simp [he] at hstatus⟩
    exact hclear

/-- A topic update leaves one active pack for a topic that stops being reusable. -/
theorem oneActivePack_updateTopic {tenantId topicId : ℕ} {payload : TopicUpdate} (hI : OneActivePack s)
    (hk : BringsNoSecond s (.updateTopic tenantId topicId payload)) (hpacks : s'.packs = s.packs)
    (hmod : s'.topics = s.topics.modify topicId payload.apply) : OneActivePack s' := by
  have hsame : ∀ {topicId i p}, ActivePack s' topicId i p → ActivePack s topicId i p := by
    rintro topicId i p ⟨hget, hp⟩
    exact ⟨hpacks ▸ hget, hp⟩
  refine ⟨?_, fun hp hq he => hI.perDate (hsame hp) (hsame hq) he⟩
  intro id topic' i j p q ht hreusable hp hq
  have hp' := hsame hp
  have hq' := hsame hq
  rw [hmod, Table.get?_modify] at ht
  split at ht
  · rename_i he
    subst he
    obtain ⟨topic, hget, rfl⟩ := Option.map_eq_some_iff.1 ht
    rcases hr : payload.reusable with _ | value
    · exact hI.notReusable hget (by simpa [TopicUpdate.apply, hr] using hreusable) hp' hq'
    · have hv : value = false := by simpa [TopicUpdate.apply, hr] using hreusable
      have hmem : id ∈ (Op.updateTopic tenantId id payload).endsReuse? := by simp [Op.endsReuse?, hr, hv]
      exact hk.2 id hmem (i, p) (Table.mem_rows.2 hp'.1) (j, q) (Table.mem_rows.2 hq'.1) hp'.2.1 hq'.2.1 hp'.2.2 hq'.2.2
  · exact hI.notReusable ht hreusable hp' hq'

theorem oneActivePack_exec (hI : OneActivePack s) (hown : OwnTopics s) (hk : BringsNoSecond s op)
    (h : exec s op = .ok s') : OneActivePack s' := by
  rcases exec_topics h with ht | ⟨tenantId, topicId, payload, rfl, hmod⟩
  · rcases exec_packs h with ⟨-, hpacks⟩ | ⟨packId, pack', htarget, hwrite, hpacks⟩
    · refine ⟨fun {topicId} topic {i j p q} => ?_, fun {topicId i j p q} => ?_⟩
      · simp only [ActivePack, ht, hpacks]
        exact hI.notReusable
      · simp only [ActivePack, hpacks]
        exact hI.perDate
    · exact oneActivePack_write hI ht hpacks fun topicId hlink hactive =>
        clear_write hI hown hk htarget hwrite hlink hactive
  · rcases exec_packs h with ⟨-, hpacks⟩ | ⟨_, _, htarget, -, -⟩
    · exact oneActivePack_updateTopic hI hk hpacks hmod
    · cases htarget

theorem pack?_of_activates {topicId : ℕ} {plannedDate : ℤ} (he : (packId, topicId, plannedDate) ∈ activates s op) :
    op.pack? s = some packId := by
  have hedits : (op.pack? s).bind (fun id => (s.packs.get? id).bind fun pack =>
      pack.topicId.map fun topicId => (id, topicId, pack.plannedDate)) = some (packId, topicId, plannedDate) →
      op.pack? s = some packId := by
    intro h
    obtain ⟨id, hid, h⟩ := Option.bind_eq_some_iff.1 h
    obtain ⟨pack, _, h⟩ := Option.bind_eq_some_iff.1 h
    obtain ⟨_, _, h⟩ := Option.map_eq_some_iff.1 h
    rw [hid, (Prod.mk.inj h).1]
  cases op with
  | createPack _ q today _ payload =>
    obtain ⟨_, _, h⟩ := Option.map_eq_some_iff.1 he
    rw [Op.pack?, (Prod.mk.inj h).1]
  | updatePack _ q payload =>
    obtain ⟨pack, _, h⟩ := Option.bind_eq_some_iff.1 he
    split at h
    · cases h
    · obtain ⟨_, _, h⟩ := Option.map_eq_some_iff.1 h
      rw [Op.pack?, (Prod.mk.inj h).1]
  | upsertPackText _ _ _ _ => exact hedits he
  | attachMedia _ _ _ _ => exact hedits he
  | updateMedia _ _ _ => exact hedits he
  | archiveMedia _ _ => exact hedits he
  | _ => cases he

/-- The row a call makes active has the topic and the date. -/
theorem active_of_activates (h : PackWrite s packId op pack') {topicId : ℕ} {plannedDate : ℤ}
    (he : (packId, topicId, plannedDate) ∈ activates s op) :
    pack'.topicId = some topicId ∧ pack'.status ≠ .archived ∧ pack'.plannedDate = plannedDate := by
  have htarget := pack?_of_activates he
  cases h with
  | created hnew htopic =>
    simp only [activates, Option.mem_def, Option.map_eq_some_iff, Prod.mk.injEq, true_and] at he
    obtain ⟨_, hlink, rfl, rfl⟩ := he
    exact ⟨hlink, by simp [draftPack], rfl⟩
  | @updated _ payload pack _ hpack htopic hstatus =>
    simp only [activates, getPackOr404_ok hpack, Option.bind_some, Option.mem_def] at he
    split at he
    · cases he
    · rename_i hactive
      simp only [Option.map_eq_some_iff, Prod.mk.injEq, true_and] at he
      obtain ⟨_, hlink, rfl, rfl⟩ := he
      exact ⟨hlink, hactive, rfl⟩
  | @reset _ pack hedits hpack =>
    obtain ⟨hl, hd, -⟩ := reset_keeps pack
    have hlink : pack.topicId = some topicId ∧ pack.plannedDate = plannedDate := by
      cases op <;> first
        | exact absurd hedits id
        | simpa [activates, htarget, hpack, Option.map_eq_some_iff] using he
    exact ⟨hl.trans hlink.1, by simp [reset_draft pack], hd.trans hlink.2⟩
  | taken hnew htopic hallowed hdate => cases he
  | preflighted hpack hallowed => cases he
  | approved hpack hpassed hready => cases he
  | rejected hpack hstatus => cases he

/-- The other direction: a call that leaves one active pack has brought no second. -/
theorem bringsNoSecond_of_one (h : exec s op = .ok s') (hI' : OneActivePack s') : BringsNoSecond s op := by
  constructor
  · rintro ⟨packId, topicId, plannedDate⟩ he r hr hne hlink hactive
    have htarget := pack?_of_activates he
    have htopics : s'.topics = s.topics := by
      rcases exec_topics h with ht | ⟨_, _, _, rfl, -⟩
      · exact ht
      · cases htarget
    rcases exec_packs h with ⟨hnone, -⟩ | ⟨q, pack', hq, hwrite, hpacks⟩
    · rw [htarget] at hnone
      cases hnone
    · obtain rfl := Option.some.inj (htarget.symm.trans hq)
      obtain ⟨hlink', hactive', rfl⟩ := active_of_activates hwrite he
      have hnew : ActivePack s' topicId packId pack' := ⟨by rw [hpacks, if_pos rfl], hlink', hactive'⟩
      have hold : ActivePack s' topicId r.1 r.2 :=
        ⟨by rw [hpacks, if_neg hne]; exact Table.mem_rows.1 hr, hlink, hactive⟩
      rw [← htopics]
      exact (hI'.clear hnew).of_active hold hne
  · intro topicId hends r hr r' hr' hlink hlink' hactive hactive'
    cases op with
    | updateTopic tenantId id payload =>
      simp only [Op.endsReuse?, Option.mem_def] at hends
      split at hends
      · rename_i hfalse
        obtain rfl := Option.some.inj hends
        simp only [exec, updateTopic, bind_eq_ok, pure_eq_ok] at h
        obtain ⟨topic, htopic, _, _, rfl⟩ := h
        have hget : (s.topics.modify id payload.apply).get? id = some (payload.apply topic) := by
          rw [Table.get?_modify_self, (getTopicOr404_ok htopic).1, Option.map_some]
        have hreusable : (payload.apply topic).reusable = false := by simp [TopicUpdate.apply, hfalse]
        exact hI'.notReusable hget hreusable ⟨Table.mem_rows.1 hr, hlink, hactive⟩
          ⟨Table.mem_rows.1 hr', hlink', hactive'⟩
      · cases hends
    | _ => cases hends

end Steps

/-- One active pack per topic: in every state of a run, from a state without packs, whose
calls all bring no second one, each topic has the active packs it may have, and there an
accepted call leaves it so exactly when it brings no second one either. -/
theorem one_active_pack {s₀ s : State} {evs : List Op} (h0 : s₀.packs = ∅)
    (h : Run (Restrict BringsNoSecond (CallStep exec)) s₀ evs s) :
    OneActivePack s ∧ ∀ op s', exec s op = .ok s' → (BringsNoSecond s op ↔ OneActivePack s') := by
  have hboth : OneActivePack s ∧ OwnTopics s := by
    refine h.invariant_restrict (fun s => OneActivePack s ∧ OwnTopics s) ?_ ?_
    · refine ⟨oneActivePack_of_clear fun topicId i p hp => ?_, fun packId pack topicId hget => ?_⟩
      · have hget := hp.1
        rw [h0] at hget
        cases hget
      · rw [h0] at hget
        cases hget
    · rintro s op s' ⟨hI, hown⟩ hk rfl
      exact settle_keeps (I := fun s => OneActivePack s ∧ OwnTopics s) ⟨hI, hown⟩ fun s' he =>
        ⟨oneActivePack_exec hI hown hk he, ownTopics_exec hown he⟩
  exact ⟨hboth.1, fun op s' he => ⟨fun hk => oneActivePack_exec hboth.1 hboth.2 hk he, bringsNoSecond_of_one he⟩⟩

section Examples

/-- A topic for one use. -/
def onceState : State :=
  { demoState with topics := Table.insert ∅ 1 ⟨1, "Spring", .approved, false, [], 0, none, []⟩ }

/-- A pack of the topic is archived and another one taken. -/
def takenTwice : List Op :=
  [.takeTopic 1 7 0 "spring" 1 ⟨none, none⟩, .updatePack 1 7 ⟨none, none, some .archived⟩,
    .takeTopic 1 8 0 "spring" 1 ⟨none, some "spring-2"⟩]

def edit (packId : ℕ) : Op := .upsertPackText 1 packId .telegram ⟨"Cabins by the lake are open again", none⟩

/-- A text of the archived pack is edited: the reset makes it a draft beside the other one. -/
theorem two_active_packs : ¬ ∀ s₀ evs s, s₀.packs = ∅ → Run (CallStep exec) s₀ evs s → OneActivePack s := by
  intro h
  have hI := h onceState (takenTwice ++ [edit 7]) _ rfl Run.of_foldl
  have hpacks : ∀ id ∈ [7, 8], (((takenTwice ++ [edit 7]).foldl (settle exec) onceState).packs.get? id).map
      (fun pack => (pack.topicId, pack.status)) = some (some 1, .draft) := by
    decide
  have htopic : (((takenTwice ++ [edit 7]).foldl (settle exec) onceState).topics.get? 1).map (·.reusable) =
      some false := by
    decide
  obtain ⟨topic, ht, hreusable⟩ := Option.map_eq_some_iff.1 htopic
  have hactive : ∀ id ∈ [7, 8], ∃ pack, ActivePack ((takenTwice ++ [edit 7]).foldl (settle exec) onceState) 1 id pack := by
    intro id hid
    obtain ⟨pack, hget, hrow⟩ := Option.map_eq_some_iff.1 (hpacks id hid)
    obtain ⟨hlink, hs⟩ := Prod.mk.inj hrow
    exact ⟨pack, hget, hlink, by simp [hs]⟩
  obtain ⟨p, hp⟩ := hactive 7 (by simp)
  obtain ⟨q, hq⟩ := hactive 8 (by simp)
  have heq : (7 : ℕ) = 8 := hI.notReusable ht hreusable hp hq
  omega

/-- The theorem at the run that edits the pack in use. -/
theorem one_active_pack_edited : ∃ s, Run (CallStep exec) onceState (takenTwice ++ [edit 8]) s ∧ OneActivePack s := by
  have hrun : Run (Restrict BringsNoSecond (CallStep exec)) onceState (takenTwice ++ [edit 8])
      ((takenTwice ++ [edit 8]).foldl (settle exec) onceState) :=
    Run.cons ⟨by decide, rfl⟩ (Run.cons ⟨by decide, rfl⟩ (Run.cons ⟨by decide, rfl⟩
      (Run.single ⟨by decide, rfl⟩)))
  exact ⟨_, hrun.of_restrict, (one_active_pack rfl hrun).1⟩

end Examples

end CoreOps.Marketing
