import CoreOps.Marketing.Guides
import Mathlib.Logic.Relation

/-! What any calls keep of the guides: versions increase as they are created, a tenant
has one active guide at most and keeps one once it has one, and superseded guides stay as
they are. -/

namespace CoreOps.Marketing

open Checked Text Relation

/-- What a guide may have become: its version stays, and all of it once it is superseded. -/
structure GuideFollows (guide guide' : MarketingGuideRow) : Prop where
  tenantId : guide'.tenantId = guide.tenantId
  version : guide'.version = guide.version
  superseded : guide.status = .superseded → guide' = guide

/-- The versions in the order of their creation, each with its tenant. -/
def versions (s : GuideTable) : List (ℕ × ℕ) := s.rows.map fun r => (r.2.tenantId, r.2.version)

/-- Versions increase, and a tenant has one active guide at most. -/
structure GuidesSound (s : GuideTable) : Prop where
  increasing : (versions s).Pairwise fun v w => v.1 = w.1 → v.2 < w.2
  active : s.UniqueOn (·.activeEntry)

def HasActive (tenantId : ℕ) (s : GuideTable) : Prop :=
  ∃ id guide, s.get? id = some guide ∧ guide.tenantId = tenantId ∧ guide.status = .active

/-- The writes of the service. A superseded guide is in none of them. -/
inductive GuideWrite (s : GuideTable) : GuideTable → Prop
  | added (id guide) (hnew : s.get? id = none) (hversion : ∀ v ∈ versions s, v.1 = guide.tenantId → v.2 < guide.version)
    (hdraft : guide.status = .draft) : GuideWrite s (s.insert id guide)
  | changed (id guide guide') (hget : s.get? id = some guide) (hlive : guide.status ≠ .superseded)
    (htenant : guide'.tenantId = guide.tenantId) (hversion : guide'.version = guide.version)
    (hstatus : guide'.status = guide.status) : GuideWrite s (s.modify id fun _ => guide')
  | activated (tenantId userId id guide) (hget : s.get? id = some guide) (htenant : guide.tenantId = tenantId)
    (hdraft : guide.status = .draft) :
    GuideWrite s ((supersedeOthers tenantId userId s id).modify id fun guide => guide.setStatus userId .active)

theorem GuideFollows.refl (guide : MarketingGuideRow) : GuideFollows guide guide := ⟨rfl, rfl, fun _ => rfl⟩

theorem GuideFollows.trans {a b c : MarketingGuideRow} (h : GuideFollows a b) (h' : GuideFollows b c) :
    GuideFollows a c where
  tenantId := h'.tenantId.trans h.tenantId
  version := h'.version.trans h.version
  superseded ha := by
    obtain rfl := h.superseded ha
    exact h'.superseded ha

/-! What a call writes. -/

section Calls

variable {s s' : GuideTable} {tenantId userId guideId : ℕ} {guide : MarketingGuideRow}

theorem getGuideRowOr404_ok (h : getGuideRowOr404 tenantId s guideId = .ok guide) :
    s.get? guideId = some guide ∧ guide.tenantId = tenantId := by
  obtain ⟨hget, htenant⟩ := Option.filter_eq_some_iff.1 (orRaise_eq_ok.1 h)
  exact ⟨hget, of_decide_eq_true htenant⟩

theorem activateGuide_writes (h : activateGuide tenantId userId s guideId = .ok s') : ReflTransGen GuideWrite s s' := by
  unfold activateGuide at h
  obtain ⟨guide, hguide, h⟩ := bind_eq_ok.1 h
  obtain ⟨_, hlive, h⟩ := bind_eq_ok.1 h
  obtain ⟨hget, htenant⟩ := getGuideRowOr404_ok hguide
  split at h
  · obtain rfl := pure_eq_ok.1 h
    exact .refl
  · rename_i hinactive
    obtain ⟨-, -, h⟩ := bind_eq_ok.1 h
    obtain rfl := pure_eq_ok.1 h
    have hdraft : guide.status = .draft := by
      have hlive := raiseIf_eq_ok.1 hlive
      cases hstatus : guide.status with
      | draft => rfl
      | active => exact absurd hstatus hinactive
      | superseded => exact absurd hstatus hlive
    exact .single (.activated tenantId userId guideId guide hget htenant hdraft)

theorem le_maxGuideVersion {v : ℕ × ℕ} (hv : v ∈ versions s) (htenant : v.1 = tenantId) :
    v.2 ≤ maxGuideVersion tenantId s := by
  obtain ⟨r, hr, rfl⟩ := List.mem_map.1 hv
  refine List.le_max_of_le' 0 (List.mem_map.2 ⟨r, List.mem_filter.2 ⟨hr, ?_⟩, rfl⟩) le_rfl
  exact decide_eq_true htenant

theorem createDraft_writes {payload : GuideCreate} (h : createDraft tenantId userId s guideId payload = .ok s') :
    ReflTransGen GuideWrite s s' := by
  unfold createDraft createGuide at h
  obtain ⟨-, -, h⟩ := bind_eq_ok.1 h
  obtain ⟨s₁, hs₁, h⟩ := bind_eq_ok.1 h
  obtain ⟨_, hnew, hs₁⟩ := bind_eq_ok.1 hs₁
  obtain ⟨-, -, hs₁⟩ := bind_eq_ok.1 hs₁
  obtain rfl := pure_eq_ok.1 hs₁
  have hnew := raiseIf_eq_ok.1 hnew
  rw [Bool.not_eq_true, Option.isSome_eq_false_iff, Option.isNone_iff_eq_none] at hnew
  have hadded : GuideWrite s (s.insert guideId (payload.row tenantId userId (maxGuideVersion tenantId s + 1))) :=
    .added guideId _ hnew (fun v hv htenant => Nat.lt_succ_of_le (le_maxGuideVersion hv htenant)) rfl
  split at h
  · exact .head hadded (activateGuide_writes h)
  · obtain rfl := pure_eq_ok.1 h
    exact .single hadded

theorem updatedGuide_ok {payload : GuideUpdate} {guide' : MarketingGuideRow}
    (h : updatedGuide userId guide payload = .ok guide') :
    guide'.tenantId = guide.tenantId ∧ guide'.version = guide.version ∧ guide'.status = guide.status := by
  simp only [updatedGuide, bind_eq_ok, pure_eq_ok] at h
  obtain ⟨_, -, _, -, _, -, _, -, _, -, _, -, _, -, rfl⟩ := h
  exact ⟨rfl, rfl, rfl⟩

theorem updateGuide_writes {payload : GuideUpdate} (h : updateGuide tenantId userId s guideId payload = .ok s') :
    ReflTransGen GuideWrite s s' := by
  unfold updateGuide at h
  obtain ⟨guide, hguide, h⟩ := bind_eq_ok.1 h
  obtain ⟨_, hlive, h⟩ := bind_eq_ok.1 h
  obtain ⟨guide', hguide', h⟩ := bind_eq_ok.1 h
  obtain ⟨-, -, h⟩ := bind_eq_ok.1 h
  obtain rfl := pure_eq_ok.1 h
  obtain ⟨htenant, hversion, hstatus⟩ := updatedGuide_ok hguide'
  exact .single (.changed guideId guide guide' (getGuideRowOr404_ok hguide).1 (raiseIf_eq_ok.1 hlive) htenant hversion hstatus)

theorem execGuide_writes {op : GuideOp} (h : execGuide s op = .ok s') : ReflTransGen GuideWrite s s' := by
  cases op with
  | createDraft tenantId userId guideId payload => exact createDraft_writes h
  | update tenantId userId guideId payload => exact updateGuide_writes h
  | activate tenantId userId guideId => exact activateGuide_writes h

end Calls

/-! What every write keeps. -/

section Kept

variable {s s' : GuideTable} {tenantId : ℕ}

theorem mem_listActive {id : ℕ} {guide : MarketingGuideRow} (hget : s.get? id = some guide) :
    id ∈ listActiveGuidesForUpdate tenantId s ↔ guide.tenantId = tenantId ∧ guide.status = .active := by
  simp only [listActiveGuidesForUpdate, List.mem_map, List.mem_filter, decide_eq_true_eq, Prod.exists]
  constructor
  · rintro ⟨_, row, ⟨hmem, hactive⟩, rfl⟩
    obtain rfl := Option.some.inj ((Table.mem_rows.1 hmem).symm.trans hget)
    exact hactive
  · exact fun h => ⟨id, guide, ⟨Table.mem_rows.2 hget, h⟩, rfl⟩

/-- A row that superseding the others touches was active. -/
theorem supersedeOthers_row {userId guideId id : ℕ} {guide : MarketingGuideRow} (hget : s.get? id = some guide) :
    (supersedeOthers tenantId userId s guideId).get? id = some
      (if guide.tenantId = tenantId ∧ guide.status = .active ∧ id ≠ guideId then guide.setStatus userId .superseded
      else guide) := by
  simp only [supersedeOthers, Table.get?_mapRows, hget, Option.map_some, mem_listActive hget, and_assoc]

theorem GuideWrite.evolves (h : GuideWrite s s') : s.Evolves GuideFollows s' := by
  cases h with
  | added id guide hnew => exact Table.evolves_insert GuideFollows.refl hnew
  | changed id guide guide' hget hlive htenant hversion =>
    refine Table.evolves_modify GuideFollows.refl fun row hrow => ?_
    obtain rfl := Option.some.inj (hget.symm.trans hrow)
    exact ⟨htenant, hversion, fun hsuperseded => absurd hsuperseded hlive⟩
  | activated tenantId userId id guide hget htenant hdraft =>
    have hothers : s.Evolves GuideFollows (supersedeOthers tenantId userId s id) := by
      refine fun j row hrow => ⟨_, supersedeOthers_row hrow, ?_⟩
      split
      · rename_i hactive
        refine ⟨rfl, rfl, fun hsuperseded => ?_⟩
        rw [hactive.2.1] at hsuperseded
        cases hsuperseded
      · exact .refl row
    refine hothers.trans (fun _ _ _ => GuideFollows.trans) ?_
    · refine Table.evolves_modify GuideFollows.refl fun row hrow => ?_
      rw [supersedeOthers_row hget] at hrow
      obtain rfl := Option.some.inj hrow
      refine ⟨rfl, rfl, fun hsuperseded => ?_⟩
      simp [hdraft] at hsuperseded

theorem GuideWrite.increasing (h : GuideWrite s s') (hs : (versions s).Pairwise fun v w => v.1 = w.1 → v.2 < w.2) :
    (versions s').Pairwise fun v w => v.1 = w.1 → v.2 < w.2 := by
  cases h with
  | added id guide hnew hversion =>
    unfold versions
    rw [Table.rows_insert_new _ _ hnew, List.map_append, List.pairwise_append]
    refine ⟨hs, List.pairwise_singleton _ _, fun v hv w hw htenant => ?_⟩
    obtain rfl := List.mem_singleton.1 hw
    exact hversion v hv htenant
  | changed id guide guide' hget hlive htenant hversion =>
    have hsame : versions (s.modify id fun _ => guide') = versions s := by
      refine s.map_modify_of_get? (fun guide : MarketingGuideRow => (guide.tenantId, guide.version)) fun row hrow => ?_
      obtain rfl := Option.some.inj (hget.symm.trans hrow)
      rw [htenant, hversion]
    rw [hsame]
    exact hs
  | activated tenantId userId id guide =>
    have hsame : versions ((supersedeOthers tenantId userId s id).modify id fun guide =>
        guide.setStatus userId .active) = versions s := by
      have hmodified := (supersedeOthers tenantId userId s id).map_modify id
        (f := fun guide => guide.setStatus userId .active)
        (fun guide : MarketingGuideRow => (guide.tenantId, guide.version)) fun _ => rfl
      refine hmodified.trans ?_
      refine s.map_mapRows (fun guide : MarketingGuideRow => (guide.tenantId, guide.version)) fun _ guide => ?_
      split <;> rfl
    rw [hsame]
    exact hs

/-- Superseding the others leaves the index, and leaves the place of the tenant free. -/
theorem not_taken_supersedeOthers {userId guideId : ℕ} {guide : MarketingGuideRow} (htenant : guide.tenantId = tenantId) :
    ¬ (supersedeOthers tenantId userId s guideId).Taken (·.activeEntry) guideId guide := by
  rintro ⟨hne, ⟨j, row'⟩, hmem, hj, hentry⟩
  dsimp only at hj hentry
  have hget := Table.mem_rows.1 hmem
  cases hrow : s.get? j with
  | none =>
    rw [supersedeOthers, Table.get?_mapRows, hrow] at hget
    cases hget
  | some row =>
    rw [supersedeOthers_row hrow, Option.some.injEq] at hget
    split at hget
    · subst hget
      exact hne hentry.symm
    · rename_i hother
      subst hget
      unfold MarketingGuideRow.activeEntry at hne hentry
      split at hentry
      · rename_i hactive
        split at hentry
        · exact hother ⟨(Option.some.inj hentry).trans htenant, hactive, hj⟩
        · cases hentry
      · exact hne hentry.symm

theorem GuideWrite.active (h : GuideWrite s s') (hs : s.UniqueOn (·.activeEntry)) : s'.UniqueOn (·.activeEntry) := by
  cases h with
  | added id guide hnew hversion hdraft =>
    refine hs.insert fun htaken => htaken.1 (if_neg ?_)
    rw [hdraft]
    decide
  | changed id guide guide' hget hlive htenant hversion hstatus =>
    refine hs.modify fun _ _ => hs.not_taken hget ?_
    unfold MarketingGuideRow.activeEntry
    rw [hstatus, htenant]
  | activated tenantId userId id guide hget htenant hdraft =>
    have hothers : (supersedeOthers tenantId userId s id).UniqueOn (·.activeEntry) := by
      refine hs.mapRows fun j row hrow => ?_
      split
      · exact .inl rfl
      · exact .inr rfl
    refine hothers.modify fun row hrow => not_taken_supersedeOthers ?_
    rw [supersedeOthers_row hget] at hrow
    obtain rfl := Option.some.inj hrow
    simp [hdraft, MarketingGuideRow.setStatus, htenant]

theorem GuideWrite.hasActive (h : GuideWrite s s') (hs : HasActive tenantId s) : HasActive tenantId s' := by
  obtain ⟨j, row, hrow, htenantRow, hactive⟩ := hs
  cases h with
  | added id guide hnew =>
    refine ⟨j, row, ?_, htenantRow, hactive⟩
    rw [Table.get?_insert_new _ _ _ hnew, if_neg, hrow]
    rintro rfl
    rw [hnew] at hrow
    cases hrow
  | changed id guide guide' hget hlive htenant hversion hstatus =>
    by_cases hj : j = id
    · subst hj
      obtain rfl := Option.some.inj (hget.symm.trans hrow)
      exact ⟨j, guide', by rw [Table.get?_modify_self, hrow, Option.map_some], htenant.trans htenantRow,
        hstatus.trans hactive⟩
    · exact ⟨j, row, by rw [Table.get?_modify_of_ne _ hj, hrow], htenantRow, hactive⟩
  | activated tenant userId id guide hget htenant hdraft =>
    by_cases hsame : tenant = tenantId
    · refine ⟨id, guide.setStatus userId .active, ?_, htenant.trans hsame, rfl⟩
      rw [Table.get?_modify_self, supersedeOthers_row hget, Option.map_some]
      simp [hdraft]
    · -- the guides of another tenant stay as they are
      have hj : j ≠ id := by
        rintro rfl
        obtain rfl := Option.some.inj (hget.symm.trans hrow)
        exact hsame (htenant.symm.trans htenantRow)
      refine ⟨j, row, ?_, htenantRow, hactive⟩
      rw [Table.get?_modify_of_ne _ hj, supersedeOthers_row hrow, if_neg]
      exact fun hother => hsame (hother.1.symm.trans htenantRow)

theorem GuideWrite.sound (h : GuideWrite s s') (hs : GuidesSound s) : GuidesSound s' :=
  ⟨h.increasing hs.increasing, h.active hs.active⟩

end Kept

section Runs

variable {s s' : GuideTable} {tenantId : ℕ} {ops : List GuideOp}

/-- What every write keeps, an accepted call keeps. -/
theorem execGuide_keeps {I : GuideTable → Prop} (hI : ∀ s s', I s → GuideWrite s s' → I s') {op : GuideOp}
    (h : execGuide s op = .ok s') (hs : I s) : I s' := by
  have hwrites := execGuide_writes h
  clear h
  induction hwrites with
  | refl => exact hs
  | tail _ hwrite ih => exact hI _ _ ih hwrite

theorem guidesSound_run (h : Run (CallStep execGuide) ∅ ops s) : GuidesSound s :=
  h.invariant_calls GuidesSound ⟨List.Pairwise.nil, Table.uniqueOn_empty⟩ fun _ _ _ hs hok =>
    execGuide_keeps (fun _ _ hs hwrite => hwrite.sound hs) hok hs

theorem hasActive_run (h : Run (CallStep execGuide) s ops s') (hs : HasActive tenantId s) : HasActive tenantId s' :=
  h.invariant_calls (HasActive tenantId) hs fun _ _ _ hs hok =>
    execGuide_keeps (fun _ _ hs hwrite => hwrite.hasActive hs) hok hs

theorem guides_evolve (h : Run (CallStep execGuide) s ops s') : s.Evolves GuideFollows s' :=
  Table.evolves_calls GuideFollows.refl (fun _ _ _ => GuideFollows.trans)
    (fun s _ _ hok => execGuide_keeps (I := fun s' => s.Evolves GuideFollows s')
      (fun _ _ hs hwrite => hs.trans (fun _ _ _ => GuideFollows.trans) hwrite.evolves) hok (.refl GuideFollows.refl)) h

end Runs

/-- The calls that activate a guide of the tenant. -/
def GuideOp.activates (tenantId : ℕ) : GuideOp → Prop
  | .createDraft tenant _ _ payload => tenant = tenantId ∧ payload.activate = true
  | .update .. => False
  | .activate tenant _ _ => tenant = tenantId

section Activation

variable {s s' : GuideTable} {tenantId userId guideId : ℕ}

theorem activateGuide_hasActive (h : activateGuide tenantId userId s guideId = .ok s') : HasActive tenantId s' := by
  unfold activateGuide at h
  obtain ⟨guide, hguide, h⟩ := bind_eq_ok.1 h
  obtain ⟨-, -, h⟩ := bind_eq_ok.1 h
  obtain ⟨hget, htenant⟩ := getGuideRowOr404_ok hguide
  split at h
  · rename_i hactive
    obtain rfl := pure_eq_ok.1 h
    exact ⟨guideId, guide, hget, htenant, hactive⟩
  · rename_i hinactive
    obtain ⟨-, -, h⟩ := bind_eq_ok.1 h
    obtain rfl := pure_eq_ok.1 h
    refine ⟨guideId, guide.setStatus userId .active, ?_, htenant, rfl⟩
    rw [Table.get?_modify_self, supersedeOthers_row hget, if_neg fun hother => hinactive hother.2.1, Option.map_some]

theorem activates_hasActive {op : GuideOp} (hop : op.activates tenantId) (h : execGuide s op = .ok s') :
    HasActive tenantId s' := by
  cases op with
  | createDraft tenant userId guideId payload =>
    obtain ⟨rfl, hactivate⟩ := hop
    simp only [execGuide, createDraft] at h
    obtain ⟨-, -, h⟩ := bind_eq_ok.1 h
    obtain ⟨s₁, -, h⟩ := bind_eq_ok.1 h
    rw [if_pos hactivate] at h
    exact activateGuide_hasActive h
  | update tenant userId guideId payload => exact hop.elim
  | activate tenant userId guideId =>
    obtain rfl := hop
    exact activateGuide_hasActive h

theorem GuidesSound.eq_of_active (hs : GuidesSound s) {id id' : ℕ} {guide guide' : MarketingGuideRow}
    (hget : s.get? id = some guide) (hget' : s.get? id' = some guide') (htenant : guide.tenantId = guide'.tenantId)
    (hactive : guide.status = .active) (hactive' : guide'.status = .active) : id = id' := by
  refine hs.active id id' guide guide' hget hget' ?_ ?_
  · simp [MarketingGuideRow.activeEntry, hactive]
  · simp [MarketingGuideRow.activeEntry, hactive, hactive', htenant]

end Activation

/-- In every run of the service, the versions of a tenant increase as they are created,
one of its guides is active at most, and exactly one at any time after an activation; and
a superseded guide stays as it is. -/
theorem guide_versions {s s' : GuideTable} {ops ops' : List GuideOp} (h : Run (CallStep execGuide) ∅ ops s)
    (h' : Run (CallStep execGuide) s ops' s') (tenantId : ℕ) :
    (s.rows.Pairwise fun r r' => r.2.tenantId = tenantId → r'.2.tenantId = tenantId → r.2.version < r'.2.version) ∧
    (∀ id id' guide guide', s.get? id = some guide → s.get? id' = some guide' → guide.tenantId = tenantId →
      guide'.tenantId = tenantId → guide.status = .active → guide'.status = .active → id = id') ∧
    (∀ op s₁ ops₂ s₂, op.activates tenantId → execGuide s op = .ok s₁ → Run (CallStep execGuide) s₁ ops₂ s₂ →
      ∃! id, ∃ guide, s₂.get? id = some guide ∧ guide.tenantId = tenantId ∧ guide.status = .active) ∧
    ∀ id guide, s.get? id = some guide → guide.tenantId = tenantId → guide.status = .superseded →
      s'.get? id = some guide := by
  have hsound := guidesSound_run h
  refine ⟨?_, ?_, ?_, ?_⟩
  · refine (List.pairwise_map.1 hsound.increasing).imp fun hlt htenant htenant' => hlt ?_
    rw [htenant, htenant']
  · exact fun _ _ _ _ hget hget' htenant htenant' => hsound.eq_of_active hget hget' (htenant.trans htenant'.symm)
  · intro op s₁ ops₂ s₂ hop hok h₂
    obtain ⟨id, guide, hget, htenant, hactive⟩ := hasActive_run h₂ (activates_hasActive hop hok)
    have hrun : Run (CallStep execGuide) ∅ (ops ++ op :: ops₂) s₂ :=
      h.append (Run.cons (settle_of_ok hok).symm h₂)
    refine ⟨id, ⟨guide, hget, htenant, hactive⟩, ?_⟩
    rintro id' ⟨guide', hget', htenant', hactive'⟩
    exact (guidesSound_run hrun).eq_of_active hget' hget (htenant'.trans htenant.symm) hactive' hactive
  · intro id guide hget _ hsuperseded
    obtain ⟨guide', hget', hfollows⟩ := guides_evolve h' id guide hget
    rw [hget', hfollows.superseded hsuperseded]

/-! Two drafts, activated one after the other; the first is edited in vain. -/

def demoGuide (businessName : String) (activate : Bool) : GuideCreate :=
  ⟨businessName, "Lofts", "Renovation", "Owners", "Leads", ["telegram"], "weekly", none, none, none, [], activate⟩

def demoGuideUpdate : GuideUpdate :=
  ⟨some (some "Renamed"), none, none, none, none, none, none, none, none, none, none⟩

def demoGuideOps : List GuideOp :=
  [.createDraft 7 1 1 (demoGuide "First" true), .createDraft 7 1 2 (demoGuide "Second" true)]

def demoGuides : GuideTable := demoGuideOps.foldl (settle execGuide) ∅

example : demoGuides.rows.map (fun r => (r.1, r.2.version, r.2.status)) =
    [(1, 1, .superseded), (2, 2, .active)] := by
  decide

theorem guide_versions_superseded : ∃ guide, demoGuides.get? 1 = some guide ∧
    (settle execGuide demoGuides (.update 7 1 1 demoGuideUpdate)).get? 1 = some guide := by
  have hrow : (demoGuides.get? 1).map (fun guide => (guide.tenantId, guide.status)) = some (7, .superseded) := by
    decide
  obtain ⟨guide, hget, hvalues⟩ := Option.map_eq_some_iff.1 hrow
  obtain ⟨htenant, hsuperseded⟩ := Prod.mk.inj hvalues
  obtain ⟨-, -, -, hkept⟩ := guide_versions (s := demoGuides) Run.of_foldl
    (Run.single (e := GuideOp.update 7 1 1 demoGuideUpdate) rfl) 7
  exact ⟨guide, hget, hkept 1 guide hget htenant hsuperseded⟩

end CoreOps.Marketing
