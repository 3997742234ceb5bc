import CoreOps.Lib.Serial
import CoreOps.Marketing.PlanLifecycle

/-! Topics made from plan items, and items cancelled, as the calls interleave under READ
COMMITTED. Plan and item are read without a lock; the row of the item is locked by the
UPDATE that links the topic, which does not look again whether there is one. -/

namespace CoreOps.Marketing

open Checked ReadCommitted

inductive PlanWrite
  | createTopic (itemId topicId : ℕ) (topic : MarketingContentTopic)
  | linkTopic (itemId topicId : ℕ)
  | setStatus (itemId : ℕ) (status : MarketingContentPlanItemStatus)

def applyPlanWrite (s : PlanState) : PlanWrite → PlanState
  | .createTopic _ topicId topic => { s with topics := s.topics.insert topicId topic }
  | .linkTopic itemId topicId =>
    { s with items := s.items.modify itemId (MarketingContentPlanItem.linkTopic topicId) }
  | .setStatus itemId status => { s with items := s.items.modify itemId (MarketingContentPlanItem.setStatus status) }

structure TopicArgs where
  tenantId : ℕ
  planId : ℕ
  itemId : ℕ
  topicId : ℕ
  channels : String

structure CancelArgs where
  tenantId : ℕ
  planId : ℕ
  itemId : ℕ

inductive PlanRequest
  | createTopic (a : TopicArgs)
  | cancel (c : CancelArgs)

inductive PlanLoc
  | readPlan (a : TopicArgs)
  | readItem (a : TopicArgs)
  | readLinked (a : TopicArgs) (linked : ℕ) (item : MarketingContentPlanItem)
  | readRubric (a : TopicArgs) (item : MarketingContentPlanItem)
  | insertTopic (a : TopicArgs) (item : MarketingContentPlanItem)
  | flushLink (a : TopicArgs)
  | cancelPlan (c : CancelArgs)
  | cancelItem (c : CancelArgs)
  | flushCancel (c : CancelArgs)
  | done

def PlanRequest.start : PlanRequest → PlanLoc
  | .createTopic a => .readPlan a
  | .cancel c => .cancelPlan c

/-- The rows that are locked: items, and topics by the insert of their key. -/
inductive PlanRow
  | item (itemId : ℕ)
  | topic (topicId : ℕ)
  deriving DecidableEq

def nextPlan : PlanLoc → PlanState → Action PlanRow PlanWrite PlanLoc
  | .readPlan a, s =>
    match getPlanOr404 a.tenantId a.planId s with
    | .error _ => .rollback none
    | .ok plan => if plan.status = .approved then .exec [] [] (.readItem a) else .rollback none
  | .readItem a, s =>
    match getItemOr404 a.tenantId a.planId a.itemId s with
    | .error _ => .rollback none
    | .ok item =>
      match item.topicId with
      | some linked => .exec [] [] (.readLinked a linked item)
      | none =>
        match assertItemApproved item with
        | .error _ => .rollback none
        | .ok _ => .exec [] [] (.readRubric a item)
  | .readLinked a linked item, s =>
    if (getPlanTopic s a.tenantId linked).isNone then .rollback none
    else if item.status = .topicCreated then .exec [] [] .done
    else .exec [(.item a.itemId, .noKeyUpdate)] [.setStatus a.itemId .topicCreated] .done
  | .readRubric a item, s =>
    match getRubricOr404 a.tenantId item.rubricId s with
    | .error _ => .rollback none
    | .ok _ => .exec [] [] (.insertTopic a item)
  | .insertTopic a item, s =>
    if (s.topics.get? a.topicId).isSome then .rollback none
    else .exec [(.topic a.topicId, .update)]
      [.createTopic a.itemId a.topicId (planTopic a.tenantId a.planId a.itemId a.channels item)] (.flushLink a)
  | .flushLink a, _ => .exec [(.item a.itemId, .noKeyUpdate)] [.linkTopic a.itemId a.topicId] .done
  | .cancelPlan c, s =>
    match getPlanOr404 c.tenantId c.planId s with
    | .error _ => .rollback none
    | .ok plan => if plan.status = .draft then .exec [] [] (.cancelItem c) else .rollback none
  | .cancelItem c, s =>
    match getItemOr404 c.tenantId c.planId c.itemId s with
    | .error _ => .rollback none
    | .ok item =>
      if item.status = .cancelled then .exec [] [] .done
      else if item.status = .draft then .exec [] [] (.flushCancel c)
      else .rollback none
  | .flushCancel c, _ => .exec [(.item c.itemId, .noKeyUpdate)] [.setStatus c.itemId .cancelled] .done
  | .done, _ => .commit none

def planSystem : System PlanState PlanWrite PlanRow PlanLoc := ⟨applyPlanWrite, nextPlan⟩

def PlanState.concurrently (s : PlanState) (requests : List PlanRequest) : World PlanState PlanWrite PlanRow PlanLoc :=
  ⟨s, (requests.map PlanRequest.start).map .fresh, []⟩

/-- The item that a topic is being linked to has none yet. -/
def Unlinked : PlanLoc → PlanState → Prop
  | .flushLink a, s => linkedTopicOf s a.itemId = none
  | _, _ => True

instance : ∀ l s, Decidable (Unlinked l s)
  | .flushLink a, s => inferInstanceAs (Decidable (linkedTopicOf s a.itemId = none))
  | .readPlan _, _ | .readItem _, _ | .readLinked .., _ | .readRubric .., _ | .insertTopic .., _ | .cancelPlan _, _
  | .cancelItem _, _ | .flushCancel _, _ | .done, _ => inferInstanceAs (Decidable True)

/-- The topic a write makes from the item. -/
def topicOf (itemId : ℕ) : PlanWrite → Option ℕ
  | .createTopic id topicId _ => if id = itemId then some topicId else none
  | _ => none

/-- The topics that have been made from the item and committed. -/
def topicsOf (log : List PlanWrite) (itemId : ℕ) : List ℕ := log.filterMap (topicOf itemId)

/-! The committed database. -/

/-- The topics made so far: one of an item at most, the one the item names; none where
the item named one from the start. -/
structure TopicsOk (s₀ s : PlanState) (log : List PlanWrite) : Prop where
  sound : PlanSound s
  once : ∀ itemId, (topicsOf log itemId).length ≤ 1
  linked : ∀ itemId, ∀ topicId ∈ topicsOf log itemId,
    linkedTopicOf s itemId = some topicId ∧ (s.topics.get? topicId).isSome = true
  before : ∀ itemId topicId, linkedTopicOf s₀ itemId = some topicId →
    linkedTopicOf s itemId = some topicId ∧ topicsOf log itemId = []

def PlanHas (s : PlanState) (planId : ℕ) (status : MarketingContentPlanStatus) : Prop :=
  ∃ plan, s.plans.get? planId = some plan ∧ plan.status = status

/-- What the commit of a session that holds the rows `held` leaves: the plans, the rows it
does not hold, and where an item ends up under its plan. -/
structure PlanFrame (held : List PlanRow) (s s' : PlanState) : Prop where
  plans : s'.plans = s.plans
  items : ∀ itemId item, s.items.get? itemId = some item → ∃ item', s'.items.get? itemId = some item' ∧
    item'.planId = item.planId ∧ (item' = item ∨ .item itemId ∈ held ∧
      (PlanHas s item.planId .approved ∧ item'.status = .topicCreated ∨
        PlanHas s item.planId .draft ∧ item'.status = .cancelled ∧ item'.topicId = none))
  topics : ∀ topicId, .topic topicId ∉ held → s'.topics.get? topicId = s.topics.get? topicId

section Database

variable {s₀ s s' : PlanState} {log : List PlanWrite} {itemId topicId : ℕ} {item : MarketingContentPlanItem}

theorem PlanFrame.refl (held : List PlanRow) (s : PlanState) : PlanFrame held s s :=
  ⟨rfl, fun _ item hget => ⟨item, hget, rfl, .inl rfl⟩, fun _ _ => rfl⟩

theorem planHas_inj {planId : ℕ} {a b : MarketingContentPlanStatus} (ha : PlanHas s planId a) (hb : PlanHas s planId b) :
    a = b := by
  obtain ⟨plan, hget, rfl⟩ := ha
  obtain ⟨plan', hget', rfl⟩ := hb
  obtain rfl := Option.some.inj (hget.symm.trans hget')
  rfl

theorem PlanHas.frame {held : List PlanRow} {planId : ℕ} {status : MarketingContentPlanStatus} (h : PlanHas s planId status)
    (hframe : PlanFrame held s s') : PlanHas s' planId status := by
  obtain ⟨plan, hget, hstatus⟩ := h
  exact ⟨plan, by rw [hframe.plans]; exact hget, hstatus⟩

theorem planFrame_modify {held : List PlanRow} {f : MarketingContentPlanItem → MarketingContentPlanItem}
    (hitem : s.items.get? itemId = some item) (hplans : s'.plans = s.plans) (hitems : s'.items = s.items.modify itemId f)
    (htopics : ∀ topicId, .topic topicId ∉ held → s'.topics.get? topicId = s.topics.get? topicId)
    (hplan : (f item).planId = item.planId) (hheld : .item itemId ∈ held)
    (hf : PlanHas s item.planId .approved ∧ (f item).status = .topicCreated ∨
      PlanHas s item.planId .draft ∧ (f item).status = .cancelled ∧ (f item).topicId = none) : PlanFrame held s s' := by
  refine ⟨hplans, fun id row hget => ?_, htopics⟩
  rw [hitems, Table.get?_modify]
  split
  · rename_i he
    rw [he, hitem] at hget
    obtain rfl := Option.some.inj hget
    exact ⟨f item, by rw [he, hitem, Option.map_some], hplan, .inr ⟨he ▸ hheld, hf⟩⟩
  · exact ⟨row, hget, rfl, .inl rfl⟩

/-- Changing one item changes the topic it is linked to, and no other link. -/
theorem linkedTopicOf_modify {f : MarketingContentPlanItem → MarketingContentPlanItem}
    (hitem : s.items.get? itemId = some item) (hitems : s'.items = s.items.modify itemId f) (j : ℕ) :
    linkedTopicOf s' j = if j = itemId then (f item).topicId else linkedTopicOf s j := by
  unfold linkedTopicOf
  rw [hitems, Table.get?_modify]
  split
  · rename_i hj
    rw [hj, hitem, Option.map_some, Option.bind_some]
  · rfl

/-- An item of an approved plan gets its topic. -/
theorem sound_linkTopic (h : PlanSound s) (hitem : s.items.get? itemId = some item) (hopen : item.status ≠ .cancelled)
    (topicId : ℕ) :
    PlanSound { s with items := s.items.modify itemId (MarketingContentPlanItem.linkTopic topicId) } :=
  sound_modifyItem h hitem rfl rfl rfl fun _ _ hs =>
    ⟨fun _ => hs.inPeriod hopen, fun _ => .inr (.inl rfl), fun _ => rfl, fun _ => by
      simp [MarketingContentPlanItem.linkTopic]⟩

theorem sound_setCancelled (h : PlanSound s) (hitem : s.items.get? itemId = some item) (hnone : item.topicId = none) :
    PlanSound { s with items := s.items.modify itemId (MarketingContentPlanItem.setStatus .cancelled) } :=
  sound_modifyItem h hitem rfl rfl rfl fun _ _ _ =>
    ⟨fun hne => absurd rfl hne, fun _ => .inr (.inr rfl), fun ht => absurd hnone ht, nofun⟩

theorem topicsOf_append (ws : List PlanWrite) (itemId : ℕ) : topicsOf (log ++ ws) itemId = topicsOf log itemId ++ topicsOf ws itemId :=
  List.filterMap_append

/-- A topic is committed for an item that has none. -/
theorem topicsOk_create (h : TopicsOk s₀ s log) {topic : MarketingContentTopic} (hitem : s.items.get? itemId = some item)
    (hopen : item.status ≠ .cancelled) (hnone : item.topicId = none) (hnew : s.topics.get? topicId = none) :
    TopicsOk s₀ (planSystem.view s [.createTopic itemId topicId topic, .linkTopic itemId topicId])
      (log ++ [.createTopic itemId topicId topic, .linkTopic itemId topicId]) := by
  have hunlinked : linkedTopicOf s itemId = none := by rw [linkedTopicOf, hitem, Option.bind_some, hnone]
  have hfirst : topicsOf log itemId = [] := by
    refine List.eq_nil_iff_forall_not_mem.2 fun t ht => ?_
    have hlink := (h.linked itemId t ht).1
    rw [hunlinked] at hlink
    cases hlink
  have htopics : ∀ j, topicsOf (log ++ [.createTopic itemId topicId topic, .linkTopic itemId topicId]) j =
      if j = itemId then [topicId] else topicsOf log j := by
    intro j
    rw [topicsOf_append]
    by_cases hj : j = itemId
    · rw [if_pos hj, hj, hfirst]
      simp [topicsOf, topicOf]
    · rw [if_neg hj]
      simp [topicsOf, topicOf, Ne.symm hj]
  have hlinks : ∀ j, linkedTopicOf (planSystem.view s [.createTopic itemId topicId topic, .linkTopic itemId topicId]) j =
      if j = itemId then some topicId else linkedTopicOf s j :=
    linkedTopicOf_modify (f := MarketingContentPlanItem.linkTopic topicId) hitem rfl
  have hinsert : ∀ t, (s.topics.get? t).isSome = true →
      ((s.topics.insert topicId topic).get? t).isSome = true := by
    intro t ht
    rw [Table.get?_insert_new _ _ _ hnew]
    split
    · rfl
    · exact ht
  refine ⟨?_, fun j => ?_, fun j t ht => ?_, fun j t ht => ?_⟩
  · have hinserted : PlanSound { s with topics := s.topics.insert topicId topic } := h.sound.of_same rfl rfl
    exact sound_linkTopic hinserted hitem hopen topicId
  · rw [htopics]
    split
    · simp
    · exact h.once j
  · rw [htopics] at ht
    rw [hlinks]
    split at ht
    · rename_i hj
      obtain rfl := List.mem_singleton.1 ht
      refine ⟨if_pos hj, ?_⟩
      show ((s.topics.insert t topic).get? t).isSome = true
      rw [Table.get?_insert_new _ _ _ hnew, if_pos rfl]
      rfl
    · rename_i hj
      obtain ⟨hlink, hsome⟩ := h.linked j t ht
      exact ⟨by rw [if_neg hj]; exact hlink, hinsert t hsome⟩
  · obtain ⟨hlink, hempty⟩ := h.before j t ht
    have hj : j ≠ itemId := by
      rintro rfl
      rw [hunlinked] at hlink
      cases hlink
    rw [hlinks, htopics, if_neg hj, if_neg hj]
    exact ⟨hlink, hempty⟩

/-- An item without a topic is cancelled. -/
theorem topicsOk_cancel (h : TopicsOk s₀ s log) (hitem : s.items.get? itemId = some item) (hnone : item.topicId = none) :
    TopicsOk s₀ (planSystem.view s [.setStatus itemId .cancelled]) (log ++ [.setStatus itemId .cancelled]) := by
  have htopics : ∀ j, topicsOf (log ++ [.setStatus itemId .cancelled]) j = topicsOf log j := by
    intro j
    rw [topicsOf_append]
    simp [topicsOf, topicOf]
  have hlinks : ∀ j, linkedTopicOf (planSystem.view s [.setStatus itemId .cancelled]) j = linkedTopicOf s j := by
    intro j
    rw [linkedTopicOf_modify (f := MarketingContentPlanItem.setStatus .cancelled) hitem rfl]
    split
    · rename_i hj
      rw [hj, linkedTopicOf, hitem]
      rfl
    · rfl
  refine ⟨sound_setCancelled h.sound hitem hnone, fun j => ?_, fun j t ht => ?_, fun j t ht => ?_⟩
  · rw [htopics]
    exact h.once j
  · rw [htopics] at ht
    rw [hlinks]
    exact h.linked j t ht
  · rw [htopics, hlinks]
    exact h.before j t ht

end Database

/-! Sessions. -/

/-- The item is in an approved plan, and not cancelled. -/
structure Creating (s : PlanState) (a : TopicArgs) (item : MarketingContentPlanItem) : Prop where
  plan : PlanHas s a.planId .approved
  row : s.items.get? a.itemId = some item
  member : item.planId = a.planId
  opened : item.status ≠ .cancelled

/-- The item is in a draft plan, and has no topic. -/
structure Cancelling (s : PlanState) (c : CancelArgs) (item : MarketingContentPlanItem) : Prop where
  plan : PlanHas s c.planId .draft
  row : s.items.get? c.itemId = some item
  member : item.planId = c.planId
  free : item.topicId = none

/-- What holds of a session between its statements: plans stay as they are read, and once
the session has written the row of the item, it holds it. -/
inductive PlanReady (s : PlanState) : Session PlanRow PlanWrite PlanLoc → Prop
  | ended : PlanReady s (.closed none)
  | readPlan (a : TopicArgs) : PlanReady s (.fresh (.readPlan a))
  | readItem {a : TopicArgs} (hplan : PlanHas s a.planId .approved) : PlanReady s ⟨some (.readItem a), [], []⟩
  | readLinked {a : TopicArgs} {linked : ℕ} {item : MarketingContentPlanItem} (hcreated : item.status = .topicCreated) :
      PlanReady s ⟨some (.readLinked a linked item), [], []⟩
  | readRubric {a : TopicArgs} {read item : MarketingContentPlanItem} (hitem : Creating s a item) :
      PlanReady s ⟨some (.readRubric a read), [], []⟩
  | insertTopic {a : TopicArgs} {read item : MarketingContentPlanItem} (hitem : Creating s a item) :
      PlanReady s ⟨some (.insertTopic a read), [], []⟩
  | flushLink {a : TopicArgs} {topic : MarketingContentTopic} {item : MarketingContentPlanItem}
      (hitem : Creating s a item) (hnew : s.topics.get? a.topicId = none) :
      PlanReady s ⟨some (.flushLink a), [(.topic a.topicId, .update)], [.createTopic a.itemId a.topicId topic]⟩
  | created {a : TopicArgs} {topic : MarketingContentTopic} {item : MarketingContentPlanItem}
      (hitem : Creating s a item) (hnew : s.topics.get? a.topicId = none) (hnone : item.topicId = none) :
      PlanReady s ⟨some .done, [(.topic a.topicId, .update), (.item a.itemId, .noKeyUpdate)],
        [.createTopic a.itemId a.topicId topic, .linkTopic a.itemId a.topicId]⟩
  | cancelPlan (c : CancelArgs) : PlanReady s (.fresh (.cancelPlan c))
  | cancelItem {c : CancelArgs} (hplan : PlanHas s c.planId .draft) : PlanReady s ⟨some (.cancelItem c), [], []⟩
  | flushCancel {c : CancelArgs} {item : MarketingContentPlanItem} (hitem : Cancelling s c item) :
      PlanReady s ⟨some (.flushCancel c), [], []⟩
  | cancelled {c : CancelArgs} {item : MarketingContentPlanItem} (hitem : Cancelling s c item) :
      PlanReady s ⟨some .done, [(.item c.itemId, .noKeyUpdate)], [.setStatus c.itemId .cancelled]⟩
  | replayed : PlanReady s ⟨some .done, [], []⟩

section Sessions

variable {s₀ s s' : PlanState} {log : List PlanWrite} {x y : Session PlanRow PlanWrite PlanLoc}

theorem PlanReady.statement (h : PlanSound s) (hx : PlanReady s x) {l l' : PlanLoc} {locks : List (PlanRow × LockMode)}
    {ws : List PlanWrite} (hl : x.loc = some l) (hC : Unlinked l (planSystem.view s x.writes))
    (hn : nextPlan l (planSystem.view s x.writes) = .exec locks ws l') :
    PlanReady s ⟨some l', x.locks ++ locks, x.writes ++ ws⟩ := by
  induction hx with
  | ended => cases hl
  | readPlan a =>
    obtain rfl := Option.some.inj hl
    simp only [nextPlan, Session.fresh, System.view_nil] at hn
    split at hn
    · cases hn
    · rename_i plan hget
      split at hn
      · rename_i happroved
        cases hn
        exact .readItem ⟨plan, (getPlanOr404_ok hget).1, happroved⟩
      · cases hn
  | @readItem a hplan =>
    obtain rfl := Option.some.inj hl
    simp only [nextPlan, System.view_nil] at hn
    split at hn
    · cases hn
    · rename_i item hget
      obtain ⟨hrow, -, hmember⟩ := getItemOr404_ok hget
      obtain ⟨_, _, _, hsound⟩ := h.items _ item hrow
      split at hn
      · rename_i linked hlinked
        cases hn
        exact .readLinked (hsound.topic.1 (by simp [hlinked]))
      · split at hn
        · cases hn
        · rename_i hok
          cases hn
          simp only [assertItemApproved, bind_eq_ok, raiseIf_eq_ok] at hok
          obtain ⟨_, hopen, _⟩ := hok
          exact .readRubric ⟨hplan, hrow, hmember, hopen⟩
  | @readLinked a linked item hcreated =>
    obtain rfl := Option.some.inj hl
    simp only [nextPlan, hcreated, if_true] at hn
    split at hn
    · cases hn
    · cases hn
      exact .replayed
  | readRubric hitem =>
    obtain rfl := Option.some.inj hl
    simp only [nextPlan] at hn
    split at hn
    · cases hn
    · cases hn
      exact .insertTopic hitem
  | @insertTopic a read item hitem =>
    obtain rfl := Option.some.inj hl
    by_cases htaken : (s.topics.get? a.topicId).isSome
    · simp only [nextPlan, System.view_nil, htaken, if_true] at hn
      cases hn
    · simp only [nextPlan, System.view_nil, htaken] at hn
      cases hn
      exact .flushLink hitem (Option.not_isSome_iff_eq_none.1 htaken)
  | @flushLink a topic item hitem hnew =>
    obtain rfl := Option.some.inj hl
    cases hn
    have hnone : linkedTopicOf s a.itemId = none := hC
    rw [linkedTopicOf, hitem.row, Option.bind_some] at hnone
    exact .created hitem hnew hnone
  | cancelPlan c =>
    obtain rfl := Option.some.inj hl
    simp only [nextPlan, Session.fresh, System.view_nil] at hn
    split at hn
    · cases hn
    · rename_i plan hget
      split at hn
      · rename_i hdraft
        cases hn
        exact .cancelItem ⟨plan, (getPlanOr404_ok hget).1, hdraft⟩
      · cases hn
  | @cancelItem c hplan =>
    obtain rfl := Option.some.inj hl
    simp only [nextPlan, System.view_nil] at hn
    split at hn
    · cases hn
    · rename_i item hget
      obtain ⟨hrow, -, hmember⟩ := getItemOr404_ok hget
      obtain ⟨_, _, _, hsound⟩ := h.items _ item hrow
      split at hn
      · cases hn
        exact .replayed
      · split at hn
        · rename_i hdraft
          cases hn
          have hfree : item.topicId = none := by
            by_contra ht
            have hcreated := hsound.topic.1 ht
            rw [hdraft] at hcreated
            cases hcreated
          exact .flushCancel ⟨hplan, hrow, hmember, hfree⟩
        · cases hn
  | flushCancel hitem =>
    obtain rfl := Option.some.inj hl
    cases hn
    exact .cancelled hitem
  | created =>
    obtain rfl := Option.some.inj hl
    cases hn
  | cancelled =>
    obtain rfl := Option.some.inj hl
    cases hn
  | replayed =>
    obtain rfl := Option.some.inj hl
    cases hn

/-- A commit keeps what holds of the topics, and changes rows the session holds. -/
theorem PlanReady.commit (h : TopicsOk s₀ s log) (hx : PlanReady s x) {l : PlanLoc} {l' : Option PlanLoc}
    (hl : x.loc = some l) (hn : nextPlan l (planSystem.view s x.writes) = .commit l') :
    l' = none ∧ TopicsOk s₀ (planSystem.view s x.writes) (log ++ x.writes) ∧
      PlanFrame (x.locks.map Prod.fst) s (planSystem.view s x.writes) := by
  have hdone : l = .done ∧ l' = none := by
    revert hn
    fun_cases nextPlan l (planSystem.view s x.writes) <;> intro hn <;> cases hn
    exact ⟨rfl, rfl⟩
  obtain ⟨rfl, rfl⟩ := hdone
  refine ⟨rfl, ?_⟩
  induction hx with
  | @created a topic item hitem hnew hnone =>
    refine ⟨topicsOk_create h hitem.row hitem.opened hnone hnew, ?_⟩
    refine planFrame_modify hitem.row rfl rfl (fun t ht => ?_) rfl (by simp) (.inl ⟨hitem.member ▸ hitem.plan, rfl⟩)
    have hne : t ≠ a.topicId := by
      rintro rfl
      exact ht (by simp)
    show (s.topics.insert a.topicId topic).get? t = _
    rw [Table.get?_insert_new _ _ _ hnew, if_neg hne]
  | @cancelled c item hitem =>
    refine ⟨topicsOk_cancel h hitem.row hitem.free, ?_⟩
    exact planFrame_modify hitem.row rfl rfl (fun _ _ => rfl) rfl (by simp)
      (.inr ⟨hitem.member ▸ hitem.plan, rfl, hitem.free⟩)
  | replayed =>
    rw [List.append_nil]
    exact ⟨h, .refl _ s⟩
  | _ => cases hl

theorem Creating.frame {held : List PlanRow} {a : TopicArgs} {item : MarketingContentPlanItem} (h : Creating s a item)
    (hframe : PlanFrame held s s') :
    ∃ item', Creating s' a item' ∧ (.item a.itemId ∉ held → item' = item) := by
  obtain ⟨item', hrow, hmember, hchange⟩ := hframe.items _ item h.row
  refine ⟨item', ⟨h.plan.frame hframe, hrow, hmember.trans h.member, ?_⟩, fun hfree => ?_⟩
  · rcases hchange with rfl | ⟨-, ⟨-, hstatus⟩ | ⟨hdraft, -⟩⟩
    · exact h.opened
    · simp [hstatus]
    · cases planHas_inj (h.member ▸ hdraft) h.plan
  · rcases hchange with rfl | ⟨hheld, -⟩
    · rfl
    · exact absurd hheld hfree

theorem Cancelling.frame {held : List PlanRow} {c : CancelArgs} {item : MarketingContentPlanItem} (h : Cancelling s c item)
    (hframe : PlanFrame held s s') : ∃ item', Cancelling s' c item' := by
  obtain ⟨item', hrow, hmember, hchange⟩ := hframe.items _ item h.row
  refine ⟨item', h.plan.frame hframe, hrow, hmember.trans h.member, ?_⟩
  rcases hchange with rfl | ⟨-, ⟨happroved, -⟩ | ⟨-, -, hfree⟩⟩
  · exact h.free
  · cases planHas_inj (h.member ▸ happroved) h.plan
  · exact hfree

/-- A commit that changes no row the session holds. -/
theorem PlanReady.frame {held : List PlanRow} (hy : PlanReady s y) (hframe : PlanFrame held s s')
    (hfree : ∀ row m, (row, m) ∈ y.locks → row ∉ held) : PlanReady s' y := by
  induction hy with
  | ended => exact .ended
  | readPlan a => exact .readPlan a
  | readItem hplan => exact .readItem (hplan.frame hframe)
  | readLinked hcreated => exact .readLinked hcreated
  | readRubric hitem =>
    obtain ⟨item', hitem', -⟩ := hitem.frame hframe
    exact .readRubric hitem'
  | insertTopic hitem =>
    obtain ⟨item', hitem', -⟩ := hitem.frame hframe
    exact .insertTopic hitem'
  | @flushLink a topic item hitem hnew =>
    obtain ⟨item', hitem', -⟩ := hitem.frame hframe
    refine .flushLink hitem' ?_
    rw [hframe.topics _ (hfree _ _ List.mem_cons_self)]
    exact hnew
  | @created a topic item hitem hnew hnone =>
    obtain ⟨item', hitem', hsame⟩ := hitem.frame hframe
    obtain rfl := hsame (hfree _ _ (List.mem_cons_of_mem _ List.mem_cons_self))
    refine .created hitem' ?_ hnone
    rw [hframe.topics _ (hfree _ _ List.mem_cons_self)]
    exact hnew
  | cancelPlan c => exact .cancelPlan c
  | cancelItem hplan => exact .cancelItem (hplan.frame hframe)
  | flushCancel hitem =>
    obtain ⟨item', hitem'⟩ := hitem.frame hframe
    exact .flushCancel hitem'
  | cancelled hitem =>
    obtain ⟨item', hitem'⟩ := hitem.frame hframe
    exact .cancelled hitem'
  | replayed => exact .replayed

/-- The locks of these sessions are exclusive. -/
theorem PlanReady.exclusive (hx : PlanReady s x) {row : PlanRow} {m : LockMode} (h : (row, m) ∈ x.locks) :
    m = .noKeyUpdate ∨ m = .update := by
  induction hx with
  | ended | readPlan | readItem | readLinked | readRubric | insertTopic | cancelPlan | cancelItem | flushCancel
  | replayed => cases h
  | flushLink | cancelled =>
    obtain ⟨-, rfl⟩ := Prod.mk.inj (List.mem_singleton.1 h)
    simp
  | created =>
    simp only [List.mem_cons, Prod.mk.injEq, List.not_mem_nil, or_false] at h
    rcases h with ⟨-, rfl⟩ | ⟨-, rfl⟩ <;> simp

theorem planThreadModular (s₀ : PlanState) :
    ThreadModular planSystem (planSystem.When Unlinked) (TopicsOk s₀) PlanReady where
  exec := by
    intro w t x locks ws l' hw hC hx ha
    obtain ⟨l, hl, hn⟩ := RowLaw.eq_some_of_action ha
    exact (hw.session t x hx).statement hw.db.sound hl (hC x hx l hl) hn
  commit := by
    intro w t x l' hw _ hx ha
    obtain ⟨l, hl, hn⟩ := RowLaw.eq_some_of_action ha
    obtain ⟨rfl, hok, -⟩ := (hw.session t x hx).commit hw.db hl hn
    exact ⟨hok, .ended⟩
  interfere := by
    intro w t x l' t' y hw _ hx ha hy hne
    obtain ⟨l, hl, hn⟩ := RowLaw.eq_some_of_action ha
    obtain ⟨-, -, hframe⟩ := (hw.session t x hx).commit hw.db hl hn
    refine (hw.session t' y hy).frame hframe fun row m hm hheld => ?_
    obtain ⟨⟨row', m'⟩, hm', rfl⟩ := List.mem_map.1 hheld
    have hfree := (hw.locks t t' x y hx hy (Ne.symm hne)).not_both hm' hm
    rcases (hw.session t x hx).exclusive hm' with rfl | rfl <;>
      rcases (hw.session t' y hy).exclusive hm with rfl | rfl <;> cases hfree
  rollback := by
    intro w t x l' _ _ ha
    obtain ⟨l, -, hn⟩ := RowLaw.eq_some_of_action ha
    have hnone : l' = none := by
      revert hn
      show nextPlan l (planSystem.view w.db x.writes) = _ → _
      fun_cases nextPlan l (planSystem.view w.db x.writes) <;> intro hn <;> cases hn <;> rfl
    rw [hnone]
    exact .ended
  kill := fun _ => .ended

end Sessions

/-- One topic per plan item: however calls that make topics and calls that cancel items
interleave, when none of them links a topic to an item that has one by then, an item has
one topic made from it at most, which it names, none if it had one before, and an item
that is cancelled has none. -/
theorem one_topic_per_item (s : PlanState) (hs : PlanSound s) (requests : List PlanRequest) (evs : List Event)
    (w : World PlanState PlanWrite PlanRow PlanLoc)
    (h : Run (Restrict (planSystem.When Unlinked) planSystem.Step) (s.concurrently requests) evs w) (itemId : ℕ) :
    (topicsOf w.log itemId).length ≤ 1 ∧
    (∀ topicId ∈ topicsOf w.log itemId,
      linkedTopicOf w.db itemId = some topicId ∧ (w.db.topics.get? topicId).isSome = true) ∧
    (linkedTopicOf s itemId ≠ none → topicsOf w.log itemId = []) ∧
    ∀ item, w.db.items.get? itemId = some item → item.status = .cancelled →
      item.topicId = none ∧ topicsOf w.log itemId = [] := by
  have hw : Holds (TopicsOk s) PlanReady w := by
    refine (planThreadModular s).run (Holds.start ?_ fun l hl => ?_) h
    · exact ⟨hs, fun _ => by simp [topicsOf], fun _ _ ht => by simp [topicsOf] at ht, fun _ _ ht => ⟨ht, rfl⟩⟩
    · obtain ⟨request, -, rfl⟩ := List.mem_map.1 hl
      rcases request with a | c
      · exact .readPlan a
      · exact .cancelPlan c
  refine ⟨hw.db.once itemId, hw.db.linked itemId, fun hne => ?_, fun item hget hcancelled => ?_⟩
  · obtain ⟨topicId, hlink⟩ := Option.ne_none_iff_exists'.1 hne
    exact (hw.db.before itemId topicId hlink).2
  · obtain ⟨_, _, _, hsound⟩ := hw.db.sound.items itemId item hget
    have hnone : item.topicId = none := by
      by_contra ht
      have hcreated := hsound.topic.1 ht
      rw [hcancelled] at hcreated
      cases hcreated
    refine ⟨hnone, List.eq_nil_iff_forall_not_mem.2 fun topicId ht => ?_⟩
    have hlink := (hw.db.linked itemId topicId ht).1
    rw [linkedTopicOf, hget, Option.bind_some, hnone] at hlink
    cases hlink

section Examples

/-- A plan that is approved, with an item. -/
def approvedStart : PlanState := (planRun.take 4).foldl (settle (execPlan fun _ _ => "")) planStart

theorem sound_approvedStart : PlanSound approvedStart := planSound_run rfl .of_foldl

/-- Two calls for a topic of the item. -/
def topicRequests : List PlanRequest :=
  [.createTopic ⟨1, 3, 7, 20, "['telegram']"⟩, .createTopic ⟨1, 3, 7, 21, "['telegram']"⟩]

/-- Both calls read the item before either links its topic: two topics are made, and the
item names the second. -/
theorem two_topics_of_item : PlanSound approvedStart ∧
    ∃ evs w, Run planSystem.Step (approvedStart.concurrently topicRequests) evs w ∧
      topicsOf w.log 7 = [20, 21] ∧ linkedTopicOf w.db 7 = some 21 := by
  let evs : List Event := List.replicate 4 (.turn 0) ++ List.replicate 4 (.turn 1) ++ List.replicate 2 (.turn 0) ++
    List.replicate 2 (.turn 1)
  have hrun : (execute? (fun _ _ => True) planSystem.step? (approvedStart.concurrently topicRequests) evs).map
      (fun w => (topicsOf w.log 7, linkedTopicOf w.db 7)) = some ([20, 21], some 21) := by
    decide
  obtain ⟨w, hw, hdb⟩ := Option.map_eq_some_iff.1 hrun
  obtain ⟨htopics, hlink⟩ := Prod.mk.inj hdb
  exact ⟨sound_approvedStart, evs, w, (Run.of_execute? hw).of_restrict, htopics, hlink⟩

/-- The theorem at the same calls one after the other: the second finds the topic of the first. -/
theorem one_topic_per_item_serially : ∃ evs w,
    Run (Restrict (planSystem.When Unlinked) planSystem.Step) (approvedStart.concurrently topicRequests) evs w ∧
      (topicsOf w.log 7).length ≤ 1 ∧ linkedTopicOf w.db 7 = some 20 := by
  let evs : List Event := List.replicate 6 (.turn 0) ++ List.replicate 4 (.turn 1)
  have hrun : (execute? (planSystem.When Unlinked) planSystem.step? (approvedStart.concurrently topicRequests)
      evs).map (fun w => linkedTopicOf w.db 7) = some (some 20) := by
    decide
  obtain ⟨w, hw, hlink⟩ := Option.map_eq_some_iff.1 hrun
  exact ⟨evs, w, Run.of_execute? hw,
    (one_topic_per_item _ sound_approvedStart topicRequests evs w (Run.of_execute? hw) 7).1, hlink⟩

end Examples

end CoreOps.Marketing
