import CoreOps.Lib.Runs
import CoreOps.Marketing.ContentPlanImport

/-! The state machine of content plans: what holds of every item and its plan after any
calls, and that an item brings forth one topic at most. -/

namespace CoreOps.Marketing

open Checked

inductive PlanOp
  | createPlan (tenantId planId : ℕ) (payload : ContentPlanCreate)
  | updatePlan (tenantId planId : ℕ) (payload : ContentPlanUpdate)
  | approvePlan (tenantId planId : ℕ)
  | archivePlan (tenantId planId : ℕ)
  | commitImport (tenantId planId : ℕ) (itemId : ℕ → ℕ) (payload : ContentPlanImportCommitRequest)
  | createItem (tenantId planId itemId : ℕ) (payload : ContentPlanItemCreate)
  | updateItem (tenantId planId itemId : ℕ) (payload : ContentPlanItemUpdate)
  | cancelItem (tenantId planId itemId : ℕ)
  | createTopicFromItem (tenantId planId itemId topicId : ℕ) (channels : String)

def execPlan (computeImportFingerprint : ℕ → PlanDocument → String) (s : PlanState) :
    PlanOp → Except MarketingError PlanState
  | .createPlan tenantId planId payload => createPlan tenantId planId payload s
  | .updatePlan tenantId planId payload => updatePlan tenantId planId payload s
  | .approvePlan tenantId planId => approvePlan tenantId planId s
  | .archivePlan tenantId planId => archivePlan tenantId planId s
  | .commitImport tenantId planId itemId payload => do
    let (_, s) ← commitImport tenantId computeImportFingerprint planId itemId payload s
    return s
  | .createItem tenantId planId itemId payload => createItem tenantId planId itemId payload s
  | .updateItem tenantId planId itemId payload => updateItem tenantId planId itemId payload s
  | .cancelItem tenantId planId itemId => cancelItem tenantId planId itemId s
  | .createTopicFromItem tenantId planId itemId topicId channels => do
    let (_, s) ← createTopicFromItem tenantId planId itemId topicId channels s
    return s

/-- What holds of an item under its plan. -/
structure ItemSound (plan : MarketingContentPlan) (item : MarketingContentPlanItem) : Prop where
  inPeriod : item.status ≠ .cancelled → plan.periodStart ≤ item.plannedDate ∧ item.plannedDate ≤ plan.periodEnd
  approved : plan.status = .approved → item.status = .approved ∨ item.status = .topicCreated ∨ item.status = .cancelled
  topic : item.topicId ≠ none ↔ item.status = .topicCreated

/-- Every item is sound under a plan of its tenant, and a plan has no line key twice. -/
structure PlanSound (s : PlanState) : Prop where
  items : ∀ itemId item, s.items.get? itemId = some item →
    ∃ plan, s.plans.get? item.planId = some plan ∧ plan.tenantId = item.tenantId ∧ ItemSound plan item
  lineKeys : ∀ i j p q, s.items.get? i = some p → s.items.get? j = some q → p.planId = q.planId →
    p.externalLineKey = q.externalLineKey → p.externalLineKey ≠ none → i = j

section Lookups

variable {s s' : PlanState} {tenantId planId itemId : ℕ} {plan : MarketingContentPlan} {item : MarketingContentPlanItem}

theorem getPlanOr404_ok (h : getPlanOr404 tenantId planId s = .ok plan) :
    s.plans.get? planId = some plan ∧ plan.tenantId = tenantId := by
  obtain ⟨hget, htenant⟩ := Option.filter_eq_some_iff.1 (orRaise_eq_ok.1 h)
  exact ⟨hget, of_decide_eq_true htenant⟩

theorem getItemOr404_ok (h : getItemOr404 tenantId planId itemId s = .ok item) :
    s.items.get? itemId = some item ∧ item.tenantId = tenantId ∧ item.planId = planId := by
  obtain ⟨hget, howner⟩ := Option.filter_eq_some_iff.1 (orRaise_eq_ok.1 h)
  exact ⟨hget, of_decide_eq_true howner⟩

end Lookups

/-! What each kind of write keeps. -/

section Writes

variable {s s' : PlanState} {planId itemId : ℕ} {plan : MarketingContentPlan} {item : MarketingContentPlanItem}

/-- A write of topics, guides and rubrics. -/
theorem PlanSound.of_same (h : PlanSound s) (hi : s'.items = s.items) (hp : s'.plans = s.plans) : PlanSound s' := by
  refine ⟨?_, ?_⟩
  · rw [hi, hp]
    exact h.items
  · rw [hi]
    exact h.lineKeys

theorem sound_insertPlan (h : PlanSound s) (hnew : s.plans.get? planId = none) :
    PlanSound { s with plans := s.plans.insert planId plan } := by
  refine ⟨fun id item hget => ?_, h.lineKeys⟩
  obtain ⟨old, hold, hrest⟩ := h.items id item hget
  refine ⟨old, ?_, hrest⟩
  rw [Table.get?_insert_new _ _ _ hnew]
  split
  · rename_i he
    rw [he, hnew] at hold
    cases hold
  · exact hold

/-- A plan is rewritten under items that stay sound. -/
theorem sound_modifyPlan (h : PlanSound s) (hplan : s.plans.get? planId = some plan)
    {f : MarketingContentPlan → MarketingContentPlan} (htenant : (f plan).tenantId = plan.tenantId)
    (hf : ∀ id item, s.items.get? id = some item → item.planId = planId → ItemSound plan item → ItemSound (f plan) item) :
    PlanSound { s with plans := s.plans.modify planId f } := by
  refine ⟨fun id item hget => ?_, h.lineKeys⟩
  obtain ⟨old, hold, howner, hsound⟩ := h.items id item hget
  rw [Table.get?_modify]
  split
  · rename_i he
    rw [he, hplan] at hold
    obtain rfl := Option.some.inj hold
    exact ⟨f plan, by rw [he, hplan, Option.map_some], htenant.trans howner, hf id item hget he hsound⟩
  · exact ⟨old, hold, howner, hsound⟩

/-- An item is rewritten in its plan. -/
theorem sound_modifyItem (h : PlanSound s) (hitem : s.items.get? itemId = some item)
    {f : MarketingContentPlanItem → MarketingContentPlanItem} (htenant : (f item).tenantId = item.tenantId)
    (hplan : (f item).planId = item.planId) (hkey : (f item).externalLineKey = item.externalLineKey)
    (hf : ∀ plan, s.plans.get? item.planId = some plan → ItemSound plan item → ItemSound plan (f item)) :
    PlanSound { s with items := s.items.modify itemId f } := by
  have hrow : ∀ id row, (s.items.modify itemId f).get? id = some row →
      ∃ old, s.items.get? id = some old ∧ row.planId = old.planId ∧ row.externalLineKey = old.externalLineKey := by
    intro id row hget
    rw [Table.get?_modify] at hget
    split at hget
    · rename_i he
      rw [he, hitem] at hget
      obtain rfl := Option.some.inj hget
      exact ⟨item, he ▸ hitem, hplan, hkey⟩
    · exact ⟨row, hget, rfl, rfl⟩
  refine ⟨fun id row hget => ?_, fun i j p q hi hj hp hk hne => ?_⟩
  · rw [Table.get?_modify] at hget
    split at hget
    · rename_i he
      rw [he, hitem] at hget
      obtain rfl := Option.some.inj hget
      obtain ⟨plan, hget, howner, hsound⟩ := h.items itemId item hitem
      exact ⟨plan, hplan ▸ hget, howner.trans htenant.symm, hf plan hget hsound⟩
    · exact h.items id row hget
  · obtain ⟨p₀, hi₀, hp₀, hk₀⟩ := hrow i p hi
    obtain ⟨q₀, hj₀, hq₀, hl₀⟩ := hrow j q hj
    rw [hp₀, hq₀] at hp
    rw [hk₀] at hne hk
    rw [hl₀] at hk
    exact h.lineKeys i j p₀ q₀ hi₀ hj₀ hp hk hne

/-- The insert of an item: the unique index sees to its line key. -/
theorem sound_createItem (h : PlanSound s) (hplan : s.plans.get? item.planId = some plan)
    (hsound : ItemSound plan item) (howner : plan.tenantId = item.tenantId)
    (hcreate : createContentPlanItem s itemId item = .ok s') :
    PlanSound s' ∧ s'.plans = s.plans := by
  simp only [createContentPlanItem, bind_eq_ok, raiseIf_eq_ok, pure_eq_ok, Option.not_isSome_iff_eq_none] at hcreate
  obtain ⟨-, hnew, -, hkey, rfl⟩ := hcreate
  -- no other row of the plan has the key: the rows of a plan are of its tenant
  have hfresh : ∀ id row, s.items.get? id = some row → row.planId = item.planId →
      row.externalLineKey = item.externalLineKey → item.externalLineKey = none := by
    intro id row hget hp hk
    by_contra hne
    obtain ⟨key, hsome⟩ := Option.ne_none_iff_exists'.1 hne
    obtain ⟨plan', hplan', howner', -⟩ := h.items id row hget
    rw [hp, hplan] at hplan'
    obtain rfl := Option.some.inj hplan'
    rw [hsome, Option.any_some, Bool.not_eq_true, Option.isSome_eq_false_iff, Option.isNone_iff_eq_none] at hkey
    have hno := List.find?_eq_none.1 hkey (id, row) (Table.mem_rows.2 hget)
    simp [← howner', howner, hp, hk, hsome] at hno
  refine ⟨⟨fun id row hget => ?_, fun i j p q hi hj hp hk hne => ?_⟩, rfl⟩
  · rw [Table.get?_insert_new _ _ _ hnew] at hget
    split at hget
    · obtain rfl := Option.some.inj hget
      exact ⟨plan, hplan, howner, hsound⟩
    · exact h.items id row hget
  · rw [Table.get?_insert_new _ _ _ hnew] at hi hj
    split at hi
    · rename_i hi'
      obtain rfl := Option.some.inj hi
      split at hj
      · rename_i hj'
        rw [hi', hj']
      · exact absurd (hfresh j q hj hp.symm hk.symm) hne
    · split at hj
      · obtain rfl := Option.some.inj hj
        exact absurd (hk.trans (hfresh i p hi hp hk)) hne
      · exact h.lineKeys i j p q hi hj hp hk hne

end Writes

/-! The calls. -/

section Calls

variable {s s' : PlanState} {tenantId planId itemId topicId : ℕ}

theorem assertDateInPeriod_ok {d a b : ℤ} {u : Unit} (h : assertDateInPeriod d a b = .ok u) : a ≤ d ∧ d ≤ b := by
  simp only [assertDateInPeriod, raiseIf_eq_ok] at h
  omega

theorem createContentPlan_ok {plan : MarketingContentPlan} (h : createContentPlan s planId plan = .ok s') :
    s.plans.get? planId = none ∧ s' = { s with plans := s.plans.insert planId plan } := by
  simp only [createContentPlan, bind_eq_ok, raiseIf_eq_ok, pure_eq_ok, Option.not_isSome_iff_eq_none] at h
  obtain ⟨_, hnew, rfl⟩ := h
  exact ⟨hnew, rfl⟩

theorem sound_createPlan {payload : ContentPlanCreate} (hI : PlanSound s)
    (h : createPlan tenantId planId payload s = .ok s') : PlanSound s' := by
  simp only [createPlan, bind_eq_ok] at h
  obtain ⟨_, _, _, _, ⟨guideId, guideVersion⟩, _, hcreate⟩ := h
  obtain ⟨hnew, rfl⟩ := createContentPlan_ok hcreate
  exact sound_insertPlan hI hnew

/-- The items of a plan are the ones its tenant lists. -/
theorem mem_listItems (hI : PlanSound s) {plan : MarketingContentPlan} (hplan : s.plans.get? planId = some plan)
    (howner : plan.tenantId = tenantId) {id : ℕ} {item : MarketingContentPlanItem} (hget : s.items.get? id = some item)
    (hp : item.planId = planId) : (id, item) ∈ listContentPlanItems s tenantId planId := by
  obtain ⟨plan', hplan', howner', -⟩ := hI.items id item hget
  rw [hp, hplan] at hplan'
  obtain rfl := Option.some.inj hplan'
  refine List.mem_filter.2 ⟨Table.mem_rows.2 hget, ?_⟩
  simp [← howner', howner, hp]

theorem sound_updatePlan {payload : ContentPlanUpdate} (hI : PlanSound s)
    (h : updatePlan tenantId planId payload s = .ok s') : PlanSound s' := by
  simp only [updatePlan, requireDraftPlan, bind_eq_ok, raiseIf_eq_ok, pure_eq_ok, not_not] at h
  obtain ⟨plan, hget, _, hdraft, _, _, guide, _, _, _, _, hdates, rfl⟩ := h
  obtain ⟨hplan, howner⟩ := getPlanOr404_ok hget
  rw [forM_eq_ok] at hdates
  refine sound_modifyPlan hI hplan rfl fun id item hitem hp hsound => ?_
  refine ⟨fun hne => ?_, fun happroved => ?_, hsound.topic⟩
  · -- every item that is not cancelled was checked against the new period
    have hdate := hdates (id, item) (mem_listItems hI hplan howner hitem hp)
    simp only [checkItemDate, if_neg hne] at hdate
    exact assertDateInPeriod_ok hdate
  · have hstatus : plan.status = .approved := happroved
    rw [hdraft] at hstatus
    cases hstatus

theorem sound_approvePlan (hI : PlanSound s) (h : approvePlan tenantId planId s = .ok s') : PlanSound s' := by
  simp only [approvePlan, requireDraftPlan, bind_eq_ok, raiseIf_eq_ok, pure_eq_ok] at h
  obtain ⟨plan, hget, _, _, _, _, _, hstatus, rfl⟩ := h
  obtain ⟨hplan, howner⟩ := getPlanOr404_ok hget
  rw [forM_eq_ok] at hstatus
  have hkeep : ∀ id item, (approveItem tenantId planId id item).planId = item.planId ∧
      (approveItem tenantId planId id item).tenantId = item.tenantId ∧
      (approveItem tenantId planId id item).externalLineKey = item.externalLineKey := by
    intro id item
    unfold approveItem
    split <;> exact ⟨rfl, rfl, rfl⟩
  refine ⟨fun id row hrow => ?_, fun i j p q hi hj hp hk hne => ?_⟩
  · simp only [Table.get?_mapRows, Option.map_eq_some_iff] at hrow
    obtain ⟨item, hitem, rfl⟩ := hrow
    obtain ⟨hp, ht, -⟩ := hkeep id item
    obtain ⟨old, hold, howner', hsound⟩ := hI.items id item hitem
    rw [hp, ht]
    by_cases hin : item.planId = planId
    · rw [hin, hplan] at hold
      obtain rfl := Option.some.inj hold
      refine ⟨plan.setStatus .approved, by rw [hin, Table.get?_modify_self, hplan, Option.map_some], howner', ?_⟩
      have hdraft : item.status = .draft ∨ item.status = .approved ∨ item.status = .cancelled := by
        by_cases hc : item.status = .cancelled
        · exact .inr (.inr hc)
        · have hmem : (id, item) ∈ (listContentPlanItems s tenantId planId).filter fun r => r.2.status ≠ .cancelled :=
            List.mem_filter.2 ⟨mem_listItems hI hplan howner hitem hin, by simpa using hc⟩
          have hok := hstatus (id, item) hmem
          simp only [raiseIf_eq_ok, not_and_or, not_not] at hok
          rcases hok with hok | hok
          · exact .inl hok
          · exact .inr (.inl hok)
      unfold approveItem
      split
      · rename_i hcond
        have hopen : item.status ≠ .cancelled := by simp [hcond.2.2]
        have hnone : ¬ item.topicId ≠ none := fun ht => by simpa [hcond.2.2] using hsound.topic.1 ht
        exact ⟨fun _ => hsound.inPeriod hopen, fun _ => .inl rfl, fun ht => absurd ht hnone, fun ht => by cases ht⟩
      · rename_i hcond
        rcases hdraft with hs | hs
        · exact absurd ⟨howner'.symm.trans howner, hin, hs⟩ hcond
        · refine ⟨hsound.inPeriod, fun _ => ?_, hsound.topic⟩
          rcases hs with hs | hs
          · exact .inl hs
          · exact .inr (.inr hs)
    · have hsame : approveItem tenantId planId id item = item := if_neg fun h => hin h.2.1
      rw [hsame, Table.get?_modify_of_ne _ hin]
      exact ⟨old, hold, howner', hsound⟩
  · simp only [Table.get?_mapRows, Option.map_eq_some_iff] at hi hj
    obtain ⟨p, hi, rfl⟩ := hi
    obtain ⟨q, hj, rfl⟩ := hj
    obtain ⟨hp₁, -, hk₁⟩ := hkeep i p
    obtain ⟨hp₂, -, hk₂⟩ := hkeep j q
    rw [hp₁, hp₂] at hp
    rw [hk₁] at hne hk
    rw [hk₂] at hk
    exact hI.lineKeys i j p q hi hj hp hk hne

theorem sound_archivePlan (hI : PlanSound s) (h : archivePlan tenantId planId s = .ok s') : PlanSound s' := by
  simp only [archivePlan, bind_eq_ok] at h
  obtain ⟨plan, hget, h⟩ := h
  obtain ⟨hplan, -⟩ := getPlanOr404_ok hget
  split at h
  · exact pure_eq_ok.1 h ▸ hI
  · simp only [bind_eq_ok, raiseIf_eq_ok, pure_eq_ok] at h
    obtain ⟨_, _, rfl⟩ := h
    refine sound_modifyPlan hI hplan rfl fun id item _ _ hsound => ⟨hsound.inPeriod, fun happroved => ?_, hsound.topic⟩
    cases happroved

/-- A new draft item on a day of a draft plan's period. -/
theorem itemSound_draft {plan : MarketingContentPlan} {item : MarketingContentPlanItem} (hdraft : plan.status = .draft)
    (hstatus : item.status = .draft) (htopic : item.topicId = none)
    (hdate : plan.periodStart ≤ item.plannedDate ∧ item.plannedDate ≤ plan.periodEnd) : ItemSound plan item := by
  refine ⟨fun _ => hdate, fun ha => ?_, fun ht => absurd htopic ht, fun hs => ?_⟩
  · rw [hdraft] at ha
    cases ha
  · rw [hstatus] at hs
    cases hs

theorem sound_createItemCall {payload : ContentPlanItemCreate} (hI : PlanSound s)
    (h : createItem tenantId planId itemId payload s = .ok s') : PlanSound s' := by
  simp only [createItem, requireDraftPlan, bind_eq_ok, raiseIf_eq_ok, not_not] at h
  obtain ⟨plan, hget, _, hdraft, _, hdate, _, _, _, _, hcreate⟩ := h
  obtain ⟨hplan, howner⟩ := getPlanOr404_ok hget
  have hsound : ItemSound plan (payload.row tenantId planId) := itemSound_draft hdraft rfl rfl (assertDateInPeriod_ok hdate)
  exact (sound_createItem hI hplan hsound howner hcreate).1

theorem sound_updateItem {payload : ContentPlanItemUpdate} (hI : PlanSound s)
    (h : updateItem tenantId planId itemId payload s = .ok s') : PlanSound s' := by
  simp only [updateItem, requireDraftPlan, bind_eq_ok, raiseIf_eq_ok, pure_eq_ok, not_not] at h
  obtain ⟨plan, hget, _, hdraft, item, hitem, _, hstatus, _, hdate, _, _, rfl⟩ := h
  obtain ⟨hplan, -⟩ := getPlanOr404_ok hget
  obtain ⟨hrow, -, hin⟩ := getItemOr404_ok hitem
  refine sound_modifyItem hI hrow rfl rfl rfl fun plan' hplan' hsound => ?_
  rw [hin, hplan] at hplan'
  obtain rfl := Option.some.inj hplan'
  have hnone : item.topicId = none := by
    by_contra ht
    have hcreated := hsound.topic.1 ht
    rw [hstatus] at hcreated
    cases hcreated
  refine itemSound_draft hdraft hstatus hnone ?_
  rcases hnew : payload.plannedDate with _ | plannedDate
  · have hopen : item.status ≠ .cancelled := by simp [hstatus]
    simpa [ContentPlanItemUpdate.apply, hnew] using hsound.inPeriod hopen
  · rw [hnew] at hdate
    simpa [ContentPlanItemUpdate.apply, hnew] using assertDateInPeriod_ok hdate

theorem sound_cancelItem (hI : PlanSound s) (h : cancelItem tenantId planId itemId s = .ok s') : PlanSound s' := by
  simp only [cancelItem, requireDraftPlan, bind_eq_ok, raiseIf_eq_ok] at h
  obtain ⟨plan, hget, _, _, item, hitem, h⟩ := h
  obtain ⟨hrow, -, -⟩ := getItemOr404_ok hitem
  split at h
  · exact pure_eq_ok.1 h ▸ hI
  · simp only [bind_eq_ok, raiseIf_eq_ok, pure_eq_ok, not_not] at h
    obtain ⟨_, hstatus, rfl⟩ := h
    refine sound_modifyItem hI hrow rfl rfl rfl fun plan' _ hsound => ?_
    have hnone : ¬ item.topicId ≠ none := fun ht => by simpa [hstatus] using hsound.topic.1 ht
    exact ⟨fun hne => absurd rfl hne, fun _ => .inr (.inr rfl), fun ht => absurd ht hnone, fun hs => by cases hs⟩

/-- What `create_topic_from_item` does when it succeeds: it replays the topic of the
item, or makes one for an approved item without a topic. -/
theorem createTopicFromItem_cases {channels : String} {r : ContentPlanCreateTopicResponse}
    (h : createTopicFromItem tenantId planId itemId topicId channels s = .ok (r, s')) :
    ∃ plan item, s.plans.get? planId = some plan ∧ plan.status = .approved ∧ s.items.get? itemId = some item ∧
      item.planId = planId ∧ s'.plans = s.plans ∧
      ((item.topicId = some r.topicId ∧ r.replayed = true ∧
          s'.items = s.items.modify itemId (MarketingContentPlanItem.setStatus .topicCreated)) ∨
        (item.topicId = none ∧ r.replayed = false ∧ item.status = .approved ∧
          s'.items = s.items.modify itemId (MarketingContentPlanItem.linkTopic r.topicId))) := by
  simp only [createTopicFromItem, bind_eq_ok, raiseIf_eq_ok, not_not] at h
  obtain ⟨plan, hget, _, happroved, item, hitem, h⟩ := h
  obtain ⟨hplan, -⟩ := getPlanOr404_ok hget
  obtain ⟨hrow, -, hin⟩ := getItemOr404_ok hitem
  refine ⟨plan, item, hplan, happroved, hrow, hin, ?_⟩
  rcases htopic : item.topicId with _ | linked
  · simp only [htopic, assertItemApproved, createPlanTopic, bind_eq_ok, raiseIf_eq_ok, pure_eq_ok, not_not,
      Prod.mk.injEq] at h
    obtain ⟨_, ⟨_, _, hstatus⟩, _, _, s₁, ⟨_, _, rfl⟩, rfl, rfl⟩ := h
    exact ⟨rfl, .inr ⟨rfl, rfl, hstatus, rfl⟩⟩
  · simp only [htopic, bind_eq_ok, pure_eq_ok, Prod.mk.injEq] at h
    obtain ⟨_, _, rfl, rfl⟩ := h
    exact ⟨rfl, .inl ⟨rfl, rfl, rfl⟩⟩

theorem sound_createTopicFromItem {channels : String} {r : ContentPlanCreateTopicResponse} (hI : PlanSound s)
    (h : createTopicFromItem tenantId planId itemId topicId channels s = .ok (r, s')) : PlanSound s' := by
  obtain ⟨plan, item, hplan, happroved, hrow, hin, hplans, hitems⟩ := createTopicFromItem_cases h
  obtain ⟨plan', hplan', -, hsound⟩ := hI.items itemId item hrow
  rw [hin, hplan] at hplan'
  obtain rfl := Option.some.inj hplan'
  have hopen : item.status ≠ .cancelled := by
    rcases hitems with ⟨htopic, -⟩ | ⟨-, -, hstatus, -⟩
    · simp [hsound.topic.1 (by simp [htopic])]
    · simp [hstatus]
  rcases hitems with ⟨htopic, -, hitems⟩ | ⟨-, -, -, hitems⟩
  · refine PlanSound.of_same (sound_modifyItem hI hrow (f := MarketingContentPlanItem.setStatus .topicCreated)
      rfl rfl rfl fun plan' _ hs => ?_) hitems hplans
    exact ⟨fun _ => hs.inPeriod hopen, fun _ => .inr (.inl rfl), fun _ => rfl, fun _ => by
      simp [MarketingContentPlanItem.setStatus, htopic]⟩
  · refine PlanSound.of_same (sound_modifyItem hI hrow (f := MarketingContentPlanItem.linkTopic r.topicId)
      rfl rfl rfl fun plan' _ hs => ?_) hitems hplans
    exact ⟨fun _ => hs.inPeriod hopen, fun _ => .inr (.inl rfl), fun _ => rfl, fun _ => by
      simp [MarketingContentPlanItem.linkTopic]⟩

/-- The import makes a draft plan and, in its period, its draft items. -/
theorem sound_commitImport {fp : ℕ → PlanDocument → String} {newId : ℕ → ℕ} {payload : ContentPlanImportCommitRequest}
    {r : ContentPlanImportCommitResponse} (hI : PlanSound s)
    (h : commitImport tenantId fp planId newId payload s = .ok (r, s')) : PlanSound s' := by
  simp only [commitImport, bind_eq_ok] at h
  obtain ⟨doc, _, mapping, _, h⟩ := h
  split at h
  · obtain ⟨-, rfl⟩ := Prod.mk.inj (pure_eq_ok.1 h)
    exact hI
  · simp only [bind_eq_ok, pure_eq_ok, Prod.mk.injEq] at h
    obtain ⟨rubrics, _, s₁, hcreate, s₂, hloop, _, rfl⟩ := h
    obtain ⟨hnew, rfl⟩ := createContentPlan_ok hcreate
    have hloop' := foldlM_invariant (fun t : PlanState => PlanSound t ∧
      t.plans.get? planId = some (doc.plan tenantId (getActiveGuide s tenantId) (fp tenantId doc))) ?_ ?_ hloop
    · exact hloop'.1
    · rintro t ⟨⟨line, rubricId⟩, sortOrder⟩ t' hmem ⟨ht, hplan⟩ hline
      have hdoc : line ∈ doc.items := (List.of_mem_zip (List.fst_mem_of_mem_zipIdx hmem)).1
      have hsound : ItemSound (doc.plan tenantId (getActiveGuide s tenantId) (fp tenantId doc))
          (line.row tenantId planId rubricId sortOrder) := itemSound_draft rfl rfl rfl (doc.dates line hdoc)
      obtain ⟨hsound', hplans⟩ := sound_createItem ht hplan hsound rfl hline
      exact ⟨hsound', by rw [hplans]; exact hplan⟩
    · refine ⟨sound_insertPlan hI hnew, ?_⟩
      rw [Table.get?_insert_new _ _ _ hnew, if_pos rfl]

end Calls

section Runs

variable {fp : ℕ → PlanDocument → String} {s s' : PlanState} {op : PlanOp} {itemId : ℕ}

theorem sound_execPlan (hI : PlanSound s) (h : execPlan fp s op = .ok s') : PlanSound s' := by
  cases op with
  | createPlan tenantId planId payload => exact sound_createPlan hI h
  | updatePlan tenantId planId payload => exact sound_updatePlan hI h
  | approvePlan tenantId planId => exact sound_approvePlan hI h
  | archivePlan tenantId planId => exact sound_archivePlan hI h
  | commitImport tenantId planId newId payload =>
    simp only [execPlan, bind_eq_ok, pure_eq_ok] at h
    obtain ⟨⟨r, s₁⟩, hcommit, rfl⟩ := h
    exact sound_commitImport hI hcommit
  | createItem tenantId planId itemId payload => exact sound_createItemCall hI h
  | updateItem tenantId planId itemId payload => exact sound_updateItem hI h
  | cancelItem tenantId planId itemId => exact sound_cancelItem hI h
  | createTopicFromItem tenantId planId itemId topicId channels =>
    simp only [execPlan, bind_eq_ok, pure_eq_ok] at h
    obtain ⟨⟨r, s₁⟩, hcreate, rfl⟩ := h
    exact sound_createTopicFromItem hI hcreate

end Runs

/-! The topics of an item. -/

/-- The topic the item names. -/
def linkedTopicOf (s : PlanState) (itemId : ℕ) : Option ℕ := (s.items.get? itemId).bind (·.topicId)

/-- The topic a call makes from the item. -/
def madeTopic (s : PlanState) (itemId : ℕ) : PlanOp → Option ℕ
  | .createTopicFromItem tenantId planId id topicId channels =>
    match createTopicFromItem tenantId planId id topicId channels s with
    | .ok (r, _) => if id = itemId ∧ r.replayed = false then some r.topicId else none
    | .error _ => none
  | _ => none

/-- The topics the calls make from the item, one call after the other. -/
def topicsMade (fp : ℕ → PlanDocument → String) (itemId : ℕ) : PlanState → List PlanOp → List ℕ
  | _, [] => []
  | s, op :: ops => (madeTopic s itemId op).toList ++ topicsMade fp itemId (settle (execPlan fp) s op) ops

section Topics

variable {fp : ℕ → PlanDocument → String} {s s' : PlanState} {op : PlanOp} {itemId topicId : ℕ}

/-- The topics that are linked stay linked. -/
def KeepsLinks (s s' : PlanState) : Prop :=
  ∀ id topicId, linkedTopicOf s id = some topicId → linkedTopicOf s' id = some topicId

theorem KeepsLinks.of_same (h : s'.items = s.items) : KeepsLinks s s' := by
  intro id topicId hl
  rw [linkedTopicOf, h]
  exact hl

theorem KeepsLinks.trans {s'' : PlanState} (h : KeepsLinks s s') (h' : KeepsLinks s' s'') : KeepsLinks s s'' :=
  fun id topicId hl => h' id topicId (h id topicId hl)

theorem keepsLinks_modify {f : MarketingContentPlanItem → MarketingContentPlanItem} {id : ℕ}
    (hitems : s'.items = s.items.modify id f)
    (hf : ∀ item, s.items.get? id = some item → item.topicId ≠ none → (f item).topicId = item.topicId) :
    KeepsLinks s s' := by
  intro j topicId hl
  obtain ⟨item, hget, htopic⟩ := Option.bind_eq_some_iff.1 hl
  rw [linkedTopicOf, hitems, Table.get?_modify]
  split
  · rename_i he
    rw [hget, Option.map_some, Option.bind_some, hf item (he ▸ hget) (by simp [htopic]), htopic]
  · exact hl

theorem keepsLinks_createItem {item : MarketingContentPlanItem} {id : ℕ} (h : createContentPlanItem s id item = .ok s') :
    KeepsLinks s s' := by
  simp only [createContentPlanItem, bind_eq_ok, raiseIf_eq_ok, pure_eq_ok, Option.not_isSome_iff_eq_none] at h
  obtain ⟨-, hnew, -, -, rfl⟩ := h
  intro j topicId hl
  rw [linkedTopicOf, Table.get?_insert_new _ _ _ hnew]
  split
  · rename_i he
    rw [linkedTopicOf, he, hnew] at hl
    cases hl
  · exact hl

/-- No call takes a topic from an item. -/
theorem keepsLinks_execPlan (h : execPlan fp s op = .ok s') : KeepsLinks s s' := by
  cases op with
  | createPlan tenantId planId payload =>
    simp only [execPlan, createPlan, bind_eq_ok] at h
    obtain ⟨_, _, _, _, ⟨_, _⟩, _, hcreate⟩ := h
    obtain ⟨-, rfl⟩ := createContentPlan_ok hcreate
    exact .of_same rfl
  | updatePlan tenantId planId payload =>
    simp only [execPlan, updatePlan, bind_eq_ok, pure_eq_ok] at h
    obtain ⟨_, _, _, _, _, _, _, _, _, _, _, _, rfl⟩ := h
    exact .of_same rfl
  | approvePlan tenantId planId =>
    simp only [execPlan, approvePlan, bind_eq_ok, pure_eq_ok] at h
    obtain ⟨_, _, _, _, _, _, _, _, rfl⟩ := h
    intro id topicId hl
    obtain ⟨item, hget, htopic⟩ := Option.bind_eq_some_iff.1 hl
    rw [linkedTopicOf, Table.get?_mapRows, hget, Option.map_some, Option.bind_some, ← htopic]
    unfold approveItem
    split <;> rfl
  | archivePlan tenantId planId =>
    simp only [execPlan, archivePlan, bind_eq_ok] at h
    obtain ⟨_, _, h⟩ := h
    split at h
    · exact .of_same (congrArg PlanState.items (pure_eq_ok.1 h).symm)
    · simp only [bind_eq_ok, pure_eq_ok] at h
      obtain ⟨_, _, rfl⟩ := h
      exact .of_same rfl
  | commitImport tenantId planId newId payload =>
    simp only [execPlan, commitImport, bind_eq_ok, pure_eq_ok] at h
    obtain ⟨⟨r, s₁⟩, ⟨doc, _, _, _, h⟩, rfl⟩ := h
    split at h
    · obtain ⟨-, rfl⟩ := Prod.mk.inj (pure_eq_ok.1 h)
      exact .of_same rfl
    · simp only [bind_eq_ok, pure_eq_ok, Prod.mk.injEq] at h
      obtain ⟨_, _, s₂, hcreate, s₃, hloop, -, rfl⟩ := h
      obtain ⟨-, rfl⟩ := createContentPlan_ok hcreate
      have hlinks := foldlM_invariant (KeepsLinks s) ?_ ?_ hloop
      · exact hlinks
      · rintro t line t' _ ht hline
        exact ht.trans (keepsLinks_createItem hline)
      · exact .of_same rfl
  | createItem tenantId planId itemId payload =>
    simp only [execPlan, createItem, bind_eq_ok] at h
    obtain ⟨_, _, _, _, _, _, _, _, _, _, hcreate⟩ := h
    exact keepsLinks_createItem hcreate
  | updateItem tenantId planId itemId payload =>
    simp only [execPlan, updateItem, bind_eq_ok, pure_eq_ok] at h
    obtain ⟨_, _, _, _, _, _, _, _, _, _, _, _, rfl⟩ := h
    exact keepsLinks_modify rfl fun _ _ _ => rfl
  | cancelItem tenantId planId itemId =>
    simp only [execPlan, cancelItem, bind_eq_ok] at h
    obtain ⟨_, _, _, _, _, _, h⟩ := h
    split at h
    · exact .of_same (congrArg PlanState.items (pure_eq_ok.1 h).symm)
    · simp only [bind_eq_ok, pure_eq_ok] at h
      obtain ⟨_, _, rfl⟩ := h
      exact keepsLinks_modify rfl fun _ _ _ => rfl
  | createTopicFromItem tenantId planId id topicId channels =>
    simp only [execPlan, bind_eq_ok, pure_eq_ok] at h
    obtain ⟨⟨r, s₁⟩, hcreate, rfl⟩ := h
    obtain ⟨_, item, _, _, hrow, _, _, ⟨_, _, hitems⟩ | ⟨hnone, _, _, hitems⟩⟩ := createTopicFromItem_cases hcreate
    · exact keepsLinks_modify hitems fun _ _ _ => rfl
    · refine keepsLinks_modify hitems fun item' hget hne => ?_
      obtain rfl := Option.some.inj (hrow.symm.trans hget)
      exact absurd hnone hne

theorem keepsLinks_settle : KeepsLinks s (settle (execPlan fp) s op) :=
  settle_keeps (I := KeepsLinks s) (.of_same rfl) fun _ h => keepsLinks_execPlan h

/-- A topic is made from an item that has none, and linked to it. -/
theorem madeTopic_links (h : madeTopic s itemId op = some topicId) :
    linkedTopicOf s itemId = none ∧ linkedTopicOf (settle (execPlan fp) s op) itemId = some topicId := by
  cases op with
  | createTopicFromItem tenantId planId id newId channels =>
    simp only [madeTopic] at h
    rcases hcreate : createTopicFromItem tenantId planId id newId channels s with e | ⟨r, s₁⟩
    · simp only [hcreate] at h
      cases h
    · simp only [hcreate] at h
      split at h
      · rename_i hnew
        obtain ⟨rfl, hreplayed⟩ := hnew
        obtain rfl := Option.some.inj h
        have hexec : execPlan fp s (.createTopicFromItem tenantId planId id newId channels) = .ok s₁ := by
          simp only [execPlan, bind_eq_ok, pure_eq_ok]
          exact ⟨(r, s₁), hcreate, rfl⟩
        obtain ⟨_, item, _, _, hrow, _, _, ⟨_, htrue, _⟩ | ⟨hnone, _, _, hitems⟩⟩ := createTopicFromItem_cases hcreate
        · rw [hreplayed] at htrue
          cases htrue
        · rw [settle_of_ok hexec, linkedTopicOf, linkedTopicOf, hitems, Table.get?_modify_self, hrow]
          exact ⟨hnone, rfl⟩
      · cases h
  | _ => cases h

/-- From an item with a topic no other one is made. -/
theorem topicsMade_of_linked {ops : List PlanOp} (h : linkedTopicOf s itemId = some topicId) :
    topicsMade fp itemId s ops = [] := by
  induction ops generalizing s with
  | nil => rfl
  | cons op ops ih =>
    have hnone : madeTopic s itemId op = none := by
      rcases hmade : madeTopic s itemId op with _ | made
      · rfl
      · have hlinks : linkedTopicOf s itemId = none ∧ linkedTopicOf (settle (execPlan fp) s op) itemId = some made :=
          madeTopic_links hmade
        rw [h] at hlinks
        cases hlinks.1
    rw [topicsMade, hnone, ih (keepsLinks_settle itemId topicId h)]
    rfl

theorem topicsMade_length {ops : List PlanOp} : (topicsMade fp itemId s ops).length ≤ 1 := by
  induction ops generalizing s with
  | nil => simp [topicsMade]
  | cons op ops ih =>
    rcases hmade : madeTopic s itemId op with _ | made
    · simpa [topicsMade, hmade] using ih
    · rw [topicsMade, hmade, topicsMade_of_linked (madeTopic_links hmade).2]
      simp

end Topics

/-- A run keeps a state sound. -/
theorem planSound_run {fp : ℕ → PlanDocument → String} {s₀ s : PlanState} {evs : List PlanOp} (h0 : s₀.items = ∅)
    (h : Run (CallStep (execPlan fp)) s₀ evs s) : PlanSound s := by
  refine h.invariant PlanSound ⟨fun id item hget => ?_, fun i j p q hi => ?_⟩ ?_
  · rw [h0] at hget
    cases hget
  · rw [h0] at hi
    cases hi
  · rintro s op s' hI rfl
    exact settle_keeps (I := PlanSound) hI fun s' => sound_execPlan hI

/-- The content-plan state machine: after any calls, from a state without plans and
items, every item and its plan are as they should be, and each item has had at most one
topic made from it. -/
theorem content_plan_sound (fp : ℕ → PlanDocument → String) {s₀ s : PlanState} {evs : List PlanOp}
    (h0 : s₀.items = ∅) (h : Run (CallStep (execPlan fp)) s₀ evs s) :
    PlanSound s ∧ ∀ itemId, (topicsMade fp itemId s₀ evs).length ≤ 1 :=
  ⟨planSound_run h0 h, fun _ => topicsMade_length⟩

section Examples

/-- A rubric, and nothing planned yet. -/
def planStart : PlanState where
  guides := ∅
  rubrics := Table.insert ∅ 1 ⟨1, "stories", .active⟩
  plans := ∅
  items := ∅
  topics := ∅

def noTexts : PlanItemTexts := ⟨none, none, none, none, none, none, none, none, none⟩

/-- A plan is made with an item and approved, and the topic asked for twice. -/
def planRun : List PlanOp :=
  [.createPlan 1 3 ⟨"May", 120, 150, none, []⟩,
    .createItem 1 3 7 ⟨130, 1, "Cabins in May", noTexts, ["telegram"], some "l1", 0⟩,
    .createItem 1 3 8 ⟨131, 1, "Boats in May", noTexts, ["telegram"], some " l1", 1⟩,
    .approvePlan 1 3, .createTopicFromItem 1 3 7 20 "['telegram']", .createTopicFromItem 1 3 7 21 "['telegram']"]

/-- The theorem at this run, which makes one topic. -/
theorem content_plan_sound_approved : ∃ s, Run (CallStep (execPlan fun _ _ => "")) planStart planRun s ∧
    PlanSound s ∧ topicsMade (fun _ _ => "") 7 planStart planRun = [20] :=
  ⟨_, .of_foldl, (content_plan_sound (fun _ _ => "") rfl .of_foldl).1, by decide⟩

end Examples

end CoreOps.Marketing
