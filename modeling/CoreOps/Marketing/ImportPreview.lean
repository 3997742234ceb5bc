import CoreOps.Lib.CheckedLoops
import CoreOps.Marketing.ContentPlanImport

/-! The preview of an import, and what it says of the commit that follows. Both resolve
the rubric codes; the commit looks for an earlier import first and then asks no more. -/

namespace CoreOps.Marketing

open Checked Text

structure ContentPlanImportIssue where
  code : String
  path : String
  message : String
  deriving DecidableEq, Repr

structure ContentPlanImportResolvedItem where
  lineKey : String
  date : ℤ
  rubricCode : String
  rubricId : Option ℕ
  workingTitle : String
  channels : List String
  deriving DecidableEq, Repr

def ContentPlanImportResolvedItem.resolved (item : ContentPlanImportResolvedItem) : Bool := item.rubricId.isSome

structure ContentPlanImportPreviewResponse where
  errors : List ContentPlanImportIssue
  warnings : List ContentPlanImportIssue
  unknownRubricCodes : List String
  resolvedItems : List ContentPlanImportResolvedItem
  importFingerprint : Option String
  existingPlanId : Option ℕ
  deriving DecidableEq, Repr

def ContentPlanImportPreviewResponse.valid (r : ContentPlanImportPreviewResponse) : Bool := r.errors.isEmpty

def ContentPlanImportPreviewResponse.fingerprintAlreadyImported (r : ContentPlanImportPreviewResponse) : Bool :=
  r.existingPlanId.isSome

/-- What `_resolve_rubric_code` returns: the rubric or an issue, and whether the code is unknown. -/
structure RubricResolution where
  rubricId : Option ℕ
  issue : Option ContentPlanImportIssue
  isUnknown : Bool

section Preview

variable (tenantId : ℕ)

/-- `_resolve_rubric_code`, with the issue it returns. -/
def resolveRubricCodeAt (s : PlanState) (mapping : List (String × ℕ)) (rubricCode path : String) :
    Except MarketingError RubricResolution :=
  match mapping.lookup rubricCode with
  | some rubricId => do
    let row ← getRubricOr404 tenantId rubricId s
    if row.status ≠ .active then
      return ⟨none, some ⟨"rubric_not_active", s!"{path}.rubric_code", s!"Mapped rubric {rubricId} is not active"⟩, false⟩
    else return ⟨some rubricId, none, false⟩
  | none =>
    match getRubricByCode s tenantId rubricCode with
    | none => return ⟨none, some ⟨"unknown_rubric", s!"{path}.rubric_code", s!"Unknown rubric_code={rubricCode}"⟩, true⟩
    | some (rubricId, row) =>
      if row.status ≠ .active then
        return ⟨none, some ⟨"rubric_not_active", s!"{path}.rubric_code", s!"Rubric {rubricCode} is not active"⟩, false⟩
      else return ⟨some rubricId, none, false⟩

def resolvedItem (item : PlanItemDocument) (r : RubricResolution) : ContentPlanImportResolvedItem where
  lineKey := item.lineKey
  date := item.date
  rubricCode := item.rubricCode
  rubricId := r.rubricId
  workingTitle := item.workingTitle
  channels := item.channels

/-- The second loop of `preview`: an unresolved item that no error names yet gets one. -/
def reportUnresolved (errors : List ContentPlanImportIssue) (item : ContentPlanImportResolvedItem × ℕ) :
    List ContentPlanImportIssue :=
  let code := item.1.rubricCode
  let path := s!"items[{item.2}].rubric_code"
  if item.1.resolved then errors
  else if errors.any (·.path = path) then errors
  else errors ++ [⟨"unresolved_rubric", path, s!"Unresolved rubric_code={code}"⟩]

/-- The response for a document, when its rubric codes have been looked up. -/
def previewResponse (doc : PlanDocument) (resolutions : List RubricResolution) (fingerprint : String)
    (existing : Option ℕ) : ContentPlanImportPreviewResponse :=
  let resolvedItems := doc.items.zipWith resolvedItem resolutions
  let inErrors := resolutions.filterMap fun r => if r.isUnknown then none else r.issue
  let inWarnings := resolutions.filterMap fun r => if r.isUnknown then r.issue else none
  let unknown := (doc.items.zip resolutions).filterMap fun e => if e.2.isUnknown then some e.1.rubricCode else none
  let already := existing.toList.map fun id =>
    ⟨"fingerprint_already_imported", "import_fingerprint", s!"Plan {id} already imported with this fingerprint"⟩
  { errors := resolvedItems.zipIdx.foldl reportUnresolved inErrors
    warnings := inWarnings ++ already
    unknownRubricCodes := unknown.dedup.mergeSort fun a b => decide (a ≤ b)
    resolvedItems := resolvedItems
    importFingerprint := some fingerprint
    existingPlanId := existing }

/-- The issues of a document that does not parse; `validationIssues` are the places and the
messages of a `ValidationError`. -/
def parseErrors (validationIssues : RawPlanDocument → List (String × String)) :
    Except String RawPlanDocument → List ContentPlanImportIssue
  | .error code => [⟨code, "plan", code⟩]
  | .ok raw =>
    let issues := (validationIssues raw).map fun e => ⟨"schema_validation_error", e.1, e.2⟩
    if issues = [] then [⟨"schema_validation_error", "plan", "invalid_plan"⟩] else issues

/-- `preview`; the request has the fields of the one that commits. -/
def previewImport (computeImportFingerprint : ℕ → PlanDocument → String)
    (validationIssues : RawPlanDocument → List (String × String)) (payload : ContentPlanImportCommitRequest)
    (s : PlanState) : Except MarketingError ContentPlanImportPreviewResponse := do
  let mapping ← normalizeMapping payload.rubricCodeMap
  match parseDocument payload.plan with
  | .error _ => return ⟨parseErrors validationIssues payload.plan, [], [], [], none, none⟩
  | .ok doc =>
    let fingerprint := computeImportFingerprint tenantId doc
    let existing := (getContentPlanByFingerprint s tenantId fingerprint).map (·.1)
    let resolutions ← doc.items.zipIdx.mapM fun e =>
      resolveRubricCodeAt tenantId s mapping e.1.rubricCode s!"items[{e.2}]"
    return previewResponse doc resolutions fingerprint existing

end Preview

section Resolution

variable {tenantId : ℕ} {s : PlanState} {mapping : List (String × ℕ)} {rubricCode path : String}

/-- What the commit makes of a resolution. -/
def RubricResolution.orRaiseIssue (r : RubricResolution) : Except MarketingError ℕ :=
  orRaise r.rubricId (.conflict ((r.issue.map (·.code)).getD "unresolved_rubric"))

theorem resolveRubricCode_eq : resolveRubricCode tenantId s mapping rubricCode =
    resolveRubricCodeAt tenantId s mapping rubricCode path >>= RubricResolution.orRaiseIssue := by
  unfold resolveRubricCode resolveRubricCodeAt
  cases mapping.lookup rubricCode with
  | some rubricId =>
    cases hrow : getRubricOr404 tenantId rubricId s with
    | error e => simp [hrow, bind, Except.bind]
    | ok row =>
      by_cases hactive : row.status = .active <;>
        simp [hrow, hactive, bind, Except.bind, raiseIf, RubricResolution.orRaiseIssue, orRaise, pure, Except.pure]
  | none =>
    cases hrow : getRubricByCode s tenantId rubricCode with
    | none => simp [bind, Except.bind, RubricResolution.orRaiseIssue, orRaise, pure, Except.pure]
    | some row =>
      by_cases hactive : row.2.status = .active <;>
        simp [hactive, bind, Except.bind, raiseIf, RubricResolution.orRaiseIssue, orRaise, pure, Except.pure]

/-- A resolution has a rubric or an issue. -/
theorem resolveRubricCodeAt_issue {r : RubricResolution}
    (h : resolveRubricCodeAt tenantId s mapping rubricCode path = .ok r) :
    r.rubricId.isSome → r.issue = none ∧ r.isUnknown = false := by
  unfold resolveRubricCodeAt at h
  split at h
  · rw [bind_eq_ok] at h
    obtain ⟨row, -, h⟩ := h
    split at h <;> obtain rfl := pure_eq_ok.1 h <;> simp
  · split at h
    · obtain rfl := pure_eq_ok.1 h
      simp
    · split at h <;> obtain rfl := pure_eq_ok.1 h <;> simp

end Resolution

section Lines

variable {tenantId planId : ℕ} {s : PlanState} {mapping : List (String × ℕ)}

/-- The commit resolves the lines exactly when the preview resolved each, and to the same rubrics. -/
theorem resolveLines_eq_ok {items : List PlanItemDocument} {resolutions : List RubricResolution}
    (h : List.Forall₂ (fun item r => ∃ path, resolveRubricCodeAt tenantId s mapping item.rubricCode path = .ok r)
      items resolutions) {rubrics : List ℕ} :
    items.mapM (fun item => resolveRubricCode tenantId s mapping item.rubricCode) = .ok rubrics ↔
      resolutions.map (·.rubricId) = rubrics.map some := by
  induction h generalizing rubrics with
  | nil => cases rubrics <;> simp
  | @cons item r items resolutions hitem _ ih =>
    obtain ⟨path, hpath⟩ := hitem
    have hfirst : resolveRubricCode tenantId s mapping item.rubricCode = r.orRaiseIssue := by
      rw [resolveRubricCode_eq, hpath]
      rfl
    simp only [List.mapM_cons, hfirst, RubricResolution.orRaiseIssue, bind_eq_ok, orRaise_eq_ok, pure_eq_ok, ih]
    cases rubrics <;> simp

theorem reportUnresolved_eq_nil {items : List (ContentPlanImportResolvedItem × ℕ)} {errors : List ContentPlanImportIssue} :
    items.foldl reportUnresolved errors = [] ↔ errors = [] ∧ ∀ item ∈ items, item.1.resolved := by
  induction items generalizing errors with
  | nil => simp
  | cons item items ih =>
    rw [List.foldl_cons, ih, List.forall_mem_cons, reportUnresolved]
    by_cases hresolved : item.1.resolved
    · simp [hresolved]
    · -- an error names the item, or one is added
      cases errors <;> simp [hresolved]
      split <;> simp

/-- The row of a previewed item. -/
structure RowOf (tenantId planId : ℕ) (item : ContentPlanImportResolvedItem) (row : MarketingContentPlanItem) : Prop where
  rubric : item.rubricId = some row.rubricId
  tenant : row.tenantId = tenantId
  plan : row.planId = planId
  lineKey : row.externalLineKey = some item.lineKey
  date : row.plannedDate = item.date
  workingTitle : row.workingTitle = item.workingTitle
  channels : row.channels = item.channels

/-- The rows that the commit inserts for its lines. -/
def newRows (tenantId planId : ℕ) (itemId : ℕ → ℕ) (lines : List ((PlanItemDocument × ℕ) × ℕ)) :
    List (ℕ × MarketingContentPlanItem) :=
  lines.map fun line => (itemId line.2, line.1.1.row tenantId planId line.1.2 line.2)

theorem newRows_of_preview {itemId : ℕ → ℕ} {items : List PlanItemDocument} {resolutions : List RubricResolution}
    {rubrics : List ℕ} (h : resolutions.map (·.rubricId) = rubrics.map some) (k : ℕ) :
    List.Forall₂ (RowOf tenantId planId) (items.zipWith resolvedItem resolutions)
      ((newRows tenantId planId itemId ((items.zip rubrics).zipIdx k)).map (·.2)) := by
  induction items generalizing resolutions rubrics k with
  | nil => exact .nil
  | cons item items ih =>
    cases resolutions with
    | nil =>
      obtain rfl : rubrics = [] := by simpa using h.symm
      exact .nil
    | cons r resolutions =>
      cases rubrics with
      | nil => simp at h
      | cons rubric rubrics =>
        obtain ⟨hid, hrest⟩ := List.cons.inj h
        exact .cons ⟨hid, rfl, rfl, rfl, rfl, rfl, rfl⟩ (ih hrest (k + 1))

theorem getByLineKey_insert {itemId : ℕ} {row : MarketingContentPlanItem} {key : String}
    (hnew : s.items.get? itemId = none) (hkey : row.externalLineKey ≠ some key) :
    getContentPlanItemByLineKey { s with items := s.items.insert itemId row } tenantId planId key =
      getContentPlanItemByLineKey s tenantId planId key := by
  simp [getContentPlanItemByLineKey, Table.rows_insert_new _ _ hnew, List.find?_append, hkey]

/-- The inserts of the lines all go through when their ids and line keys are free. -/
theorem importLines_ok {itemId : ℕ → ℕ} (hinj : Function.Injective itemId) {lines : List ((PlanItemDocument × ℕ) × ℕ)}
    (hkeys : (lines.map (·.1.1.lineKey)).Nodup) (hsorts : (lines.map (·.2)).Nodup)
    (hids : ∀ line ∈ lines, s.items.get? (itemId line.2) = none)
    (hfree : ∀ line ∈ lines, getContentPlanItemByLineKey s tenantId planId line.1.1.lineKey = none) :
    ∃ items, lines.foldlM (importLine tenantId planId itemId) s = .ok { s with items := items } ∧
      items.rows = s.items.rows ++ newRows tenantId planId itemId lines := by
  induction lines generalizing s with
  | nil => exact ⟨s.items, rfl, (List.append_nil _).symm⟩
  | cons line lines ih =>
    obtain ⟨hid, hids⟩ := List.forall_mem_cons.1 hids
    obtain ⟨hkey, hfree⟩ := List.forall_mem_cons.1 hfree
    obtain ⟨hnotkey, hkeys⟩ := List.nodup_cons.1 hkeys
    obtain ⟨hnotsort, hsorts⟩ := List.nodup_cons.1 hsorts
    have hline : importLine tenantId planId itemId s line = .ok { s with
        items := s.items.insert (itemId line.2) (line.1.1.row tenantId planId line.1.2 line.2) } := by
      simp [importLine, createContentPlanItem, PlanItemDocument.row, raiseIf, hid, hkey, bind, Except.bind, pure, Except.pure]
    have hids' (other) (hmem : other ∈ lines) :
        (s.items.insert (itemId line.2) (line.1.1.row tenantId planId line.1.2 line.2)).get? (itemId other.2) = none := by
      rw [Table.get?_insert_new _ _ _ hid, if_neg, hids other hmem]
      intro heq
      exact hnotsort (List.mem_map.2 ⟨other, hmem, hinj heq⟩)
    have hfree' (other) (hmem : other ∈ lines) :
        getContentPlanItemByLineKey { s with
          items := s.items.insert (itemId line.2) (line.1.1.row tenantId planId line.1.2 line.2) }
          tenantId planId other.1.1.lineKey = none := by
      refine (getByLineKey_insert hid fun heq => ?_).trans (hfree other hmem)
      exact hnotkey (List.mem_map.2 ⟨other, hmem, (Option.some.inj heq).symm⟩)
    obtain ⟨items, hloop, hrows⟩ := ih hkeys hsorts hids' hfree'
    refine ⟨items, ?_, ?_⟩
    · rw [List.foldlM_cons, hline]
      exact hloop
    · rw [hrows, Table.rows_insert_new _ _ hid, List.append_assoc]
      rfl

end Lines

section Prediction

/-- Ids that no row has yet: of a plan, and of its items. -/
structure FreshIds (s : PlanState) (planId : ℕ) (itemId : ℕ → ℕ) : Prop where
  plan : s.plans.get? planId = none
  items : ∀ n, s.items.get? (itemId n) = none
  injective : Function.Injective itemId
  unused : ∀ r ∈ s.items.rows, r.2.planId ≠ planId

/-- The commit has made one plan and an item for each previewed item, in their order. -/
def Creates (tenantId planId : ℕ) (s : PlanState) (preview : ContentPlanImportPreviewResponse)
    (commit : Except MarketingError (ContentPlanImportCommitResponse × PlanState)) : Prop :=
  ∃ fingerprint plan plans items rows,
    commit = .ok (⟨planId, preview.resolvedItems.length, false, fingerprint⟩,
      { s with plans := plans, items := items }) ∧
    plans.rows = s.plans.rows ++ [(planId, plan)] ∧ items.rows = s.items.rows ++ rows ∧
    preview.importFingerprint = some fingerprint ∧ plan.importFingerprint = some fingerprint ∧
    plan.tenantId = tenantId ∧ List.Forall₂ (RowOf tenantId planId) preview.resolvedItems (rows.map (·.2)) ∧
    rows.map (·.2.sortOrder) = List.range preview.resolvedItems.length

/-- The commit has changed nothing and answers with an earlier plan. -/
def Replays (s : PlanState) (existing : ℕ)
    (commit : Except MarketingError (ContentPlanImportCommitResponse × PlanState)) : Prop :=
  ∃ response, commit = .ok (response, s) ∧ response.replayed = true ∧ response.planId = existing

def Raises {α : Type} (x : Except MarketingError α) : Prop := ∃ e, x = .error e

variable {tenantId planId : ℕ} {itemId : ℕ → ℕ} {fp : ℕ → PlanDocument → String}
  {issues : RawPlanDocument → List (String × String)} {payload : ContentPlanImportCommitRequest} {s : PlanState}

theorem raises_of_not_ok {α : Type} {x : Except MarketingError α} (h : ∀ a, x ≠ .ok a) : Raises x := by
  cases x with
  | error e => exact ⟨e, rfl⟩
  | ok a => exact absurd rfl (h a)

theorem all_resolved_iff {items : List PlanItemDocument} {resolutions : List RubricResolution}
    (hlen : items.length = resolutions.length) :
    (∀ item ∈ (items.zipWith resolvedItem resolutions).zipIdx, item.1.resolved) ↔
      ∀ r ∈ resolutions, r.rubricId.isSome := by
  have hindex (l : List ContentPlanImportResolvedItem) :
      (∀ item ∈ l.zipIdx, item.1.resolved) ↔ ∀ item ∈ l, item.resolved := by
    conv_rhs => rw [← List.zipIdx_map_fst 0 l]
    rw [List.forall_mem_map]
  rw [hindex]
  induction items generalizing resolutions with
  | nil =>
    obtain rfl := List.length_eq_zero_iff.1 hlen.symm
    simp
  | cons item items ih =>
    cases resolutions with
    | nil => simp at hlen
    | cons r resolutions =>
      rw [List.zipWith_cons_cons, List.forall_mem_cons, List.forall_mem_cons]
      exact and_congr Iff.rfl (ih (Nat.succ.inj hlen))

/-- A preview has no errors when each of its items has a rubric. -/
theorem previewResponse_valid {doc : PlanDocument} {resolutions : List RubricResolution} {fingerprint : String}
    {existing : Option ℕ} (hlen : doc.items.length = resolutions.length)
    (hissue : ∀ r ∈ resolutions, r.rubricId.isSome → r.issue = none ∧ r.isUnknown = false) :
    (previewResponse doc resolutions fingerprint existing).valid ↔ ∀ r ∈ resolutions, r.rubricId.isSome := by
  rw [ContentPlanImportPreviewResponse.valid, List.isEmpty_iff, previewResponse, reportUnresolved_eq_nil,
    all_resolved_iff hlen, and_iff_right_iff_imp]
  intro hall
  refine List.filterMap_eq_nil_iff.2 fun r hr => ?_
  simp [(hissue r hr (hall r hr)).1]

/-- Where every line resolves and there is no earlier import, the commit goes through. -/
theorem commit_creates {doc : PlanDocument} {resolutions : List RubricResolution} {mapping : List (String × ℕ)}
    (hids : FreshIds s planId itemId) (hdoc : parseDocument payload.plan = .ok doc)
    (hmapping : normalizeMapping payload.rubricCodeMap = .ok mapping)
    (hnone : getContentPlanByFingerprint s tenantId (fp tenantId doc) = none) {rubrics : List ℕ}
    (hrubrics : doc.items.mapM (fun item => resolveRubricCode tenantId s mapping item.rubricCode) = .ok rubrics)
    (hsame : resolutions.map (·.rubricId) = rubrics.map some) (hlen : doc.items.length = resolutions.length) :
    Creates tenantId planId s (previewResponse doc resolutions (fp tenantId doc) none)
      (commitImport tenantId fp planId itemId payload s) := by
  have hlen' : rubrics.length = resolutions.length := by simpa using (congrArg List.length hsame).symm
  have hzip : (doc.items.zip rubrics).length = (doc.items.zipWith resolvedItem resolutions).length := by
    simp [hlen, hlen']
  have hsorts := List.zipIdx_map_snd 0 (doc.items.zip rubrics)
  have hitems : (doc.items.zip rubrics).zipIdx.map (·.1.1) = doc.items := by
    have hfst : ((doc.items.zip rubrics).zipIdx.map Prod.fst).map Prod.fst = doc.items := by
      rw [List.zipIdx_map_fst, List.map_fst_zip (by omega)]
    rw [List.map_map] at hfst
    exact hfst
  have hkeys : (doc.items.zip rubrics).zipIdx.map (·.1.1.lineKey) = doc.items.map (·.lineKey) := by
    rw [← congrArg (List.map (·.lineKey)) hitems, List.map_map]
    rfl
  set guide := getActiveGuide s tenantId
  set plan := doc.plan tenantId guide (fp tenantId doc)
  have hnoitem (key : String) : getContentPlanItemByLineKey { s with plans := s.plans.insert planId plan }
      tenantId planId key = none := by
    refine List.find?_eq_none.2 fun r hr => ?_
    simp [hids.unused r hr]
  obtain ⟨items, hloop, hrows⟩ := importLines_ok (s := { s with plans := s.plans.insert planId plan })
    hids.injective (hkeys ▸ doc.keys) (hsorts ▸ List.nodup_range') (fun line _ => hids.items _)
    fun line _ => hnoitem _
  have hcommit : commitImport tenantId fp planId itemId payload s =
      .ok (⟨planId, (doc.items.zip rubrics).length, false, fp tenantId doc⟩,
        { s with plans := s.plans.insert planId plan, items := items }) := by
    simp [commitImport, bind, Except.bind, hdoc, hmapping, hnone, hrubrics, createContentPlan, raiseIf, hids.plan,
      pure, Except.pure, plan, guide, hloop]
  rw [hzip] at hcommit
  refine ⟨fp tenantId doc, plan, _, items, _, hcommit, Table.rows_insert_new _ _ hids.plan, hrows, rfl, rfl, rfl,
    newRows_of_preview hsame 0, ?_⟩
  rw [newRows, List.map_map]
  refine hsorts.trans ?_
  rw [hzip, List.range_eq_range']
  rfl

theorem parseErrors_ne_nil (plan : Except String RawPlanDocument) : parseErrors issues plan ≠ [] := by
  cases plan with
  | error code => simp [parseErrors]
  | ok raw =>
    unfold parseErrors
    dsimp only
    split
    · simp
    · assumption

/-- The document of the request is one that a plan came from already. -/
def AlreadyImported (s : PlanState) (tenantId : ℕ) (fp : ℕ → PlanDocument → String)
    (payload : ContentPlanImportCommitRequest) (existing : ℕ) : Prop :=
  ∃ doc plan, parseDocument payload.plan = .ok doc ∧
    getContentPlanByFingerprint s tenantId (fp tenantId doc) = some (existing, plan)

theorem commit_raises_of_parse {e : MarketingError} (h : parseDocument payload.plan = .error e) :
    Raises (commitImport tenantId fp planId itemId payload s) := by
  simp [Raises, commitImport, h, bind, Except.bind]

theorem commit_raises_of_mapping {e : MarketingError} (h : normalizeMapping payload.rubricCodeMap = .error e) :
    Raises (commitImport tenantId fp planId itemId payload s) := by
  refine raises_of_not_ok fun r hok => ?_
  simp only [commitImport, h, bind_eq_ok] at hok
  obtain ⟨doc, -, mapping, hmapping, -⟩ := hok
  cases hmapping

theorem commit_replays {doc : PlanDocument} {mapping : List (String × ℕ)} {existing : ℕ} {plan : MarketingContentPlan}
    (hdoc : parseDocument payload.plan = .ok doc) (hmapping : normalizeMapping payload.rubricCodeMap = .ok mapping)
    (hfound : getContentPlanByFingerprint s tenantId (fp tenantId doc) = some (existing, plan)) :
    Replays s existing (commitImport tenantId fp planId itemId payload s) :=
  ⟨_, commit_of_found hdoc hmapping hfound, rfl, rfl⟩

theorem commit_raises_of_lines {doc : PlanDocument} {mapping : List (String × ℕ)}
    (hdoc : parseDocument payload.plan = .ok doc) (hmapping : normalizeMapping payload.rubricCodeMap = .ok mapping)
    (hnone : getContentPlanByFingerprint s tenantId (fp tenantId doc) = none)
    (hlines : ∀ rubrics, doc.items.mapM (fun item => resolveRubricCode tenantId s mapping item.rubricCode) ≠ .ok rubrics) :
    Raises (commitImport tenantId fp planId itemId payload s) := by
  refine raises_of_not_ok fun r hok => ?_
  simp only [commitImport, bind_eq_ok] at hok
  obtain ⟨doc', hdoc', mapping', hmapping', hok⟩ := hok
  obtain rfl : doc = doc' := Except.ok.inj (hdoc.symm.trans hdoc')
  obtain rfl : mapping = mapping' := Except.ok.inj (hmapping.symm.trans hmapping')
  rw [hnone] at hok
  obtain ⟨rubrics, hrubrics, -⟩ := bind_eq_ok.1 hok
  exact hlines rubrics hrubrics

/-- The lookups of the preview, as one list beside the lines. -/
theorem resolutions_of_lines {items : List PlanItemDocument} {mapping : List (String × ℕ)}
    {resolutions : List RubricResolution}
    (h : items.zipIdx.mapM (fun e => resolveRubricCodeAt tenantId s mapping e.1.rubricCode s!"items[{e.2}]") =
      .ok resolutions) :
    List.Forall₂ (fun item r => ∃ path, resolveRubricCodeAt tenantId s mapping item.rubricCode path = .ok r)
      items resolutions := by
  have hlines := mapM_eq_ok h
  rw [← List.zipIdx_map_fst 0 items, List.forall₂_map_left_iff]
  exact hlines.imp fun e r he => ⟨_, he⟩

/-- The preview says what the commit will do, but for a document that was imported before:
the preview still raises for a mapped rubric that is gone, and the commit replays. -/
theorem preview_predicts_commit (hids : FreshIds s planId itemId) :
    (∀ preview, previewImport tenantId fp issues payload s = .ok preview →
      (preview.valid → preview.fingerprintAlreadyImported = false →
        Creates tenantId planId s preview (commitImport tenantId fp planId itemId payload s)) ∧
      (preview.fingerprintAlreadyImported → ∃ existing, preview.existingPlanId = some existing ∧
        Replays s existing (commitImport tenantId fp planId itemId payload s)) ∧
      (preview.valid = false → preview.fingerprintAlreadyImported = false →
        Raises (commitImport tenantId fp planId itemId payload s))) ∧
    (Raises (previewImport tenantId fp issues payload s) →
      Raises (commitImport tenantId fp planId itemId payload s) ∨
      ∃ existing, AlreadyImported s tenantId fp payload existing ∧
        Replays s existing (commitImport tenantId fp planId itemId payload s)) := by
  cases hmapping : normalizeMapping payload.rubricCodeMap with
  | error e =>
    refine ⟨fun preview hpreview => ?_, fun _ => .inl (commit_raises_of_mapping hmapping)⟩
    simp [previewImport, hmapping, bind, Except.bind] at hpreview
  | ok mapping =>
  cases hdoc : parseDocument payload.plan with
  | error e =>
    refine ⟨fun preview hpreview => ?_, fun _ => .inl (commit_raises_of_parse hdoc)⟩
    obtain rfl : (⟨parseErrors issues payload.plan, [], [], [], none, none⟩ : ContentPlanImportPreviewResponse) =
        preview := by
      simpa [previewImport, hmapping, hdoc, bind, Except.bind, pure, Except.pure] using hpreview
    refine ⟨fun hvalid => ?_, fun halready => ?_, fun _ _ => commit_raises_of_parse hdoc⟩
    · exact absurd (List.isEmpty_iff.1 hvalid) (parseErrors_ne_nil _)
    · cases halready
  | ok doc =>
  -- what is left of both calls after the parse
  have hpreview : previewImport tenantId fp issues payload s = (doc.items.zipIdx.mapM fun e =>
      resolveRubricCodeAt tenantId s mapping e.1.rubricCode s!"items[{e.2}]") >>= fun resolutions =>
      pure (previewResponse doc resolutions (fp tenantId doc)
        ((getContentPlanByFingerprint s tenantId (fp tenantId doc)).map (·.1))) := by
    simp [previewImport, hmapping, hdoc, bind, Except.bind]
  cases hfound : getContentPlanByFingerprint s tenantId (fp tenantId doc) with
  | some found =>
    have hreplays : Replays s found.1 (commitImport tenantId fp planId itemId payload s) :=
      commit_replays hdoc hmapping hfound
    refine ⟨fun preview hok => ?_, fun _ => .inr ⟨found.1, ⟨doc, found.2, hdoc, hfound⟩, hreplays⟩⟩
    rw [hpreview, hfound, bind_eq_ok] at hok
    obtain ⟨resolutions, -, hok⟩ := hok
    obtain rfl := pure_eq_ok.1 hok
    exact ⟨fun _ hnot => (by cases hnot), fun _ => ⟨found.1, rfl, hreplays⟩, fun _ hnot => (by cases hnot)⟩
  | none =>
  refine ⟨fun preview hok => ?_, fun hraises => .inl (commit_raises_of_lines hdoc hmapping hfound fun rubrics hok => ?_)⟩
  · rw [hpreview, hfound, bind_eq_ok] at hok
    obtain ⟨resolutions, hlines, hok⟩ := hok
    obtain rfl := pure_eq_ok.1 hok
    have hforall := resolutions_of_lines hlines
    have hissue (r) (hr : r ∈ resolutions) : r.rubricId.isSome → r.issue = none ∧ r.isUnknown = false := by
      obtain ⟨item, -, path, hpath⟩ := exists_of_mem_forall₂ hforall hr
      exact resolveRubricCodeAt_issue hpath
    have hvalid : (previewResponse doc resolutions (fp tenantId doc) none).valid ↔ _ :=
      previewResponse_valid hforall.length_eq hissue
    refine ⟨fun hok _ => ?_, fun halready => (by cases halready), fun hnot _ => ?_⟩
    · obtain ⟨rubrics, hsame⟩ : ∃ rubrics : List ℕ, resolutions.map (·.rubricId) = rubrics.map some := by
        refine ⟨resolutions.map fun r => r.rubricId.getD 0, ?_⟩
        rw [List.map_map]
        refine List.map_congr_left fun r hr => ?_
        obtain ⟨id, hid⟩ := Option.isSome_iff_exists.1 (hvalid.1 hok r hr)
        simp [hid]
      exact commit_creates hids hdoc hmapping hfound ((resolveLines_eq_ok hforall).2 hsame) hsame hforall.length_eq
    · refine commit_raises_of_lines hdoc hmapping hfound fun rubrics hrubrics => ?_
      have hsame := (resolveLines_eq_ok hforall).1 hrubrics
      refine Bool.eq_false_iff.1 hnot (hvalid.2 fun r hr => ?_)
      obtain ⟨id, -, hid⟩ := List.mem_map.1 (hsame ▸ List.mem_map_of_mem hr)
      rw [← hid, Option.isSome_some]
  · -- a commit that resolves every line leaves the preview nothing to raise for
    have hlines (e) (he : e ∈ doc.items.zipIdx) :
        ∃ r, resolveRubricCodeAt tenantId s mapping e.1.rubricCode s!"items[{e.2}]" = .ok r := by
      obtain ⟨rubric, -, hrubric⟩ := exists_of_mem_forall₂_left (mapM_eq_ok hok) (List.fst_mem_of_mem_zipIdx he)
      rw [resolveRubricCode_eq, bind_eq_ok] at hrubric
      obtain ⟨r, hr, -⟩ := hrubric
      exact ⟨r, hr⟩
    obtain ⟨resolutions, hresolutions⟩ := exists_mapM hlines
    obtain ⟨e, he⟩ := hraises
    rw [hpreview, hresolutions] at he
    cases he

end Prediction

section Examples

instance {α : Type} (x : Except MarketingError α) : Decidable (Raises x) :=
  match x with
  | .error e => isTrue ⟨e, rfl⟩
  | .ok _ => isFalse fun ⟨_, h⟩ => (by cases h)

/-- A document of one line, and the digest of documents by their titles. -/
def winterDocument : RawPlanDocument where
  schemaVersion := schemaVersion
  periodStart := 300
  periodEnd := 330
  title := " Winter"
  items := [⟨"l1", 310, "stories", "Frost", ⟨none, none, none, none, none, none, none, none, none⟩, ["Telegram"]⟩]

def titleDigest (tenantId : ℕ) (doc : PlanDocument) : String := s!"{tenantId} " ++ doc.title

def oneRubric : PlanState where
  guides := ∅
  rubrics := Table.insert ∅ 1 ⟨1, "stories", .active⟩
  plans := ∅
  items := ∅
  topics := ∅

/-- The state that has the document's plan. -/
def winterImported : PlanState where
  guides := ∅
  rubrics := Table.insert ∅ 1 ⟨1, "stories", .active⟩
  plans := Table.insert ∅ 3 ⟨1, "Winter", 300, 330, .draft, none, none, .jsonImport, some "1 Winter", []⟩
  items := ∅
  topics := ∅

def winterRequest (rubricCodeMap : List (String × ℕ)) : ContentPlanImportCommitRequest :=
  ⟨.ok winterDocument, rubricCodeMap⟩

theorem winter_previews :
    (Raises (previewImport 1 titleDigest (fun _ => []) (winterRequest [("stories", 99)]) winterImported) ∧
      ¬ Raises (commitImport 1 titleDigest 4 id (winterRequest [("stories", 99)]) winterImported)) ∧
    ((previewImport 1 titleDigest (fun _ => []) (winterRequest []) oneRubric).toOption.any fun preview =>
      preview.valid && !preview.fingerprintAlreadyImported) = true := by
  decide +kernel

/-- The plan is there and the mapping names a rubric that is not: the preview raises, the
commit answers. -/
theorem winter_preview_raises :
    Raises (previewImport 1 titleDigest (fun _ => []) (winterRequest [("stories", 99)]) winterImported) ∧
    ¬ Raises (commitImport 1 titleDigest 4 id (winterRequest [("stories", 99)]) winterImported) :=
  winter_previews.1

theorem freshIds_oneRubric : FreshIds oneRubric 4 id := ⟨rfl, fun _ => rfl, fun _ _ h => h, fun _ h => by cases h⟩

/-- The theorem at the first import of the document. -/
theorem winter_preview_predicts : ∃ preview,
    previewImport 1 titleDigest (fun _ => []) (winterRequest []) oneRubric = .ok preview ∧
    Creates 1 4 oneRubric preview (commitImport 1 titleDigest 4 id (winterRequest []) oneRubric) := by
  have hpreview := winter_previews.2
  cases hok : previewImport 1 titleDigest (fun _ => []) (winterRequest []) oneRubric with
  | error e => simp [hok, Except.toOption] at hpreview
  | ok preview =>
    rw [hok] at hpreview
    obtain ⟨hvalid, hnot⟩ := Bool.and_eq_true_iff.1 hpreview
    exact ⟨preview, rfl, ((preview_predicts_commit freshIds_oneRubric).1 preview hok).1 hvalid (by simpa using hnot)⟩

end Examples

end CoreOps.Marketing
