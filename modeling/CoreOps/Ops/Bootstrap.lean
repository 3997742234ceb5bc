import CoreOps.Ops.Rollback

/-! The bootstrap of the sales intake's overlay: it seeds the template, finds or makes the
configuration of the pipeline and brings it to the template's policy. What it leaves is what
it would look for, so a second run changes nothing. -/

namespace CoreOps.Ops

open Checked Text Overlay

def bootstrapPublishReason : String := "C2a local/ops bootstrap — new immutable definition version"

structure BootstrapSettings where
  processOverlayBootstrapEnabled : Bool
  appEnv : String

structure BootstrapArgs where
  tenantId : ℕ
  pipelineCode : String
  activate : Bool
  publishReason : String

inductive BootstrapError
  | permissionDenied (message : String)
  | ops (error : OpsError)
  deriving DecidableEq, Repr

/-- No letter but the Latin ones has its lower case in `production`. -/
def assertOpsGuard (settings : BootstrapSettings) : Except BootstrapError Unit := do
  raiseIf (¬ settings.processOverlayBootstrapEnabled)
    (.permissionDenied ("Process overlay bootstrap is disabled " ++
      "(set PROCESS_OVERLAY_BOOTSTRAP_ENABLED=true for local/ops only)"))
  raiseIf ((strip settings.appEnv).toLower = "production")
    (.permissionDenied "Process overlay bootstrap is forbidden in production")

section Bootstrap

variable (env : Environment) (tenantId configurationId : ℕ)

/-- The configuration of the pipeline, or a new one. -/
def bootstrapConfiguration (newId pipelineId : ℕ) (s : State) : Except OpsError (ℕ × Overlay.State) :=
  match getConfigurationByPipeline s.overlay tenantId pipelineId with
  | some (id, _) => return (id, s.overlay)
  | none => do
    let o ← (createConfiguration s.columns tenantId newId flexitySalesTemplate pipelineId s.overlay).mapError .overlay
    return (newId, o)

/-- The configuration gets the version that matches, or a new one that is published. -/
def bringToPolicy (newId : ℕ) (policy : PolicySnapshotV1) (publishReason : String) (o : Overlay.State) :
    Except OpsError Overlay.State := do
  let desired := policyFingerprint env policy.snapshot
  match ← (findMatchingPublishedVersion env o tenantId configurationId desired).mapError .overlay with
  | some versionId =>
    let config ← orRaise (getConfiguration o tenantId configurationId) .unexpected
    if config.activeDefinitionVersionId ≠ some versionId then
      (setActiveDefinitionVersion tenantId configurationId versionId o).mapError .overlay
    else return o
  | none =>
    let o ← (publishDefinitionVersion tenantId configurationId newId ⟨policy, publishReason⟩ o).mapError .overlay
    (setActiveDefinitionVersion tenantId configurationId newId o).mapError .overlay

def finalize (activate : Bool) (o : Overlay.State) : Except OverlayError (TenantProcessConfiguration × Overlay.State) := do
  let o ← (if activate then activateConfiguration tenantId configurationId o else pure o)
  let config ← configurationOrRaise tenantId configurationId o
  return (config, o)

def bootstrapOverlay (ids : NewIds) (args : BootstrapArgs) (s : State) :
    Except OpsError (TenantProcessConfiguration × State) := do
  let s ← seedTemplates ids.templateId s
  let (pipelineId, _) ← orRaise (getPipelineByCode s args.tenantId flexitySalesPipeline)
    (.notFound "Pipeline 'flexity_sales' not found for tenant")
  let (configurationId, o) ← bootstrapConfiguration args.tenantId ids.configurationId pipelineId s
  let policy ← desiredPolicy flexitySalesTemplate { s with overlay := o }
  let o ← bringToPolicy env args.tenantId configurationId ids.versionId policy args.publishReason o
  let (config, o) ← (finalize args.tenantId configurationId args.activate o).mapError .overlay
  return (config, { s with overlay := o })

def bootstrapFlexitySalesIntake (settings : BootstrapSettings) (ids : NewIds) (args : BootstrapArgs) (s : State) :
    Except BootstrapError (TenantProcessConfiguration × State) := do
  assertOpsGuard settings
  let pipelineCode := strip args.pipelineCode
  raiseIf (pipelineCode = "") (.permissionDenied "pipeline_code is required for process overlay bootstrap")
  raiseIf (pipelineCode ≠ flexitySalesPipeline)
    (.permissionDenied "bootstrap_flexity_sales_intake requires pipeline_code='flexity_sales'")
  (bootstrapOverlay env ids args s).mapError .ops

end Bootstrap

/-! What each step leaves. -/

section Steps

variable {env : Environment} {s s' : State} {o o' : Overlay.State} {tenantId pipelineId configurationId : ℕ}

/-- A table of templates in which the template is as it is seeded is not seeded again. -/
theorem seedTemplates_seeded {id : ℕ}
    (h : getTemplateByCode s.columns s.overlay flexitySalesTemplate = some (id, flexitySalesIntake)) (newId : ℕ) :
    seedTemplates newId s = .ok s := by
  have hcolumn : s.columns.get? id = some flexitySalesIntake := by
    simp only [getTemplateByCode, Option.bind_eq_some_iff, Option.map_eq_some_iff, Prod.mk.injEq] at h
    obtain ⟨row, -, columns, hget, rfl, rfl⟩ := h
    exact hget
  have hsame : s.columns.modify id (fun _ => flexitySalesIntake) = s.columns :=
    Table.modify_eq_self fun v hv => Option.some.inj (hcolumn.symm.trans hv)
  simp only [seedTemplates, upsertTemplate, h, hsame]
  rfl

/-- The template that is found after the seeding is as it is seeded. -/
theorem seedTemplates_template {newId : ℕ} {found : ℕ × ProcessTemplate} (h : seedTemplates newId s = .ok s')
    (hfound : getTemplateByCode s'.columns s'.overlay flexitySalesTemplate = some found) :
    found.2 = flexitySalesIntake := by
  unfold seedTemplates upsertTemplate at h
  split at h
  · rename_i id columns hbefore
    rw [pure_eq_ok] at h
    subst h
    simp only [getTemplateByCode, Option.bind_eq_some_iff, Option.map_eq_some_iff, Prod.mk.injEq] at hbefore hfound
    obtain ⟨row, hrow, columns', hget, rfl, rfl⟩ := hbefore
    obtain ⟨row', hrow', columns', hget', rfl⟩ := hfound
    obtain rfl := Option.some.inj (hrow.symm.trans hrow')
    rw [Table.get?_modify_self, hget] at hget'
    exact (Option.some.inj hget').symm
  · rename_i hnone
    simp only [bind_eq_ok, raiseIf_eq_ok, pure_eq_ok, not_or, Option.not_isSome_iff_eq_none] at h
    obtain ⟨-, ⟨htemplate, hcolumn⟩, rfl⟩ := h
    simp only [getTemplateByCode, Table.rows_insert_new _ _ htemplate, List.find?_append] at hnone hfound
    rcases hold : s.overlay.templates.rows.find? fun r => r.2 = flexitySalesTemplate with _ | row
    · rw [hold, Option.none_or, List.find?_singleton, if_pos (by simp), Option.bind_some,
        Table.get?_insert_new _ _ _ hcolumn, if_pos rfl] at hfound
      rw [← Option.some.inj hfound]
    · -- a row without columns would still be the one that is found
      rw [hold, Option.bind_some, Option.map_eq_none_iff] at hnone
      rw [hold, Option.some_or, Option.bind_some, Table.get?_insert_new _ _ _ hcolumn, if_neg, hnone] at hfound
      · cases hfound
      · intro hrow
        have hmem : row.1 ∈ s.overlay.templates.rows.map Prod.fst :=
          List.mem_map_of_mem (List.mem_of_find?_eq_some hold)
        exact Table.get?_eq_none.1 htemplate (hrow ▸ hmem)

/-- The steps on the overlay change configurations and versions only. -/
def KeepsRest (o o' : Overlay.State) : Prop :=
  o' = { o with configurations := o'.configurations, versions := o'.versions }

theorem KeepsRest.trans {o₁ : Overlay.State} (h : KeepsRest o o₁) (h' : KeepsRest o₁ o') : KeepsRest o o' := by
  rw [KeepsRest] at h h' ⊢
  rw [h', h]

theorem keepsRest_modify (f : TenantProcessConfiguration → TenantProcessConfiguration) :
    KeepsRest o (o.modifyConfiguration configurationId f) := rfl

theorem bootstrapConfiguration_ok {newId : ℕ}
    (h : bootstrapConfiguration tenantId newId pipelineId s = .ok (configurationId, o)) :
    (∃ config, getConfigurationByPipeline o tenantId pipelineId = some (configurationId, config)) ∧
      KeepsRest s.overlay o := by
  unfold bootstrapConfiguration at h
  split at h
  · rename_i id config hsome
    rw [pure_eq_ok] at h
    cases h
    exact ⟨⟨config, hsome⟩, rfl⟩
  · rename_i hnone
    simp only [bind_eq_ok, mapError_eq_ok, pure_eq_ok, Prod.mk.injEq] at h
    obtain ⟨o₁, hcreate, rfl, rfl⟩ := h
    obtain ⟨config, hnew, -, htenant, hpipeline, -, rfl⟩ := createConfiguration_ok hcreate
    refine ⟨⟨config, ?_⟩, rfl⟩
    rw [getConfigurationByPipeline] at hnone
    rw [getConfigurationByPipeline, Table.rows_insert_new _ _ hnew, List.find?_append, hnone, Option.none_or,
      List.find?_singleton, if_pos]
    simp [htenant, hpipeline]

theorem bootstrapConfiguration_again {config : TenantProcessConfiguration}
    (h : getConfigurationByPipeline s.overlay tenantId pipelineId = some (configurationId, config)) (newId : ℕ) :
    bootstrapConfiguration tenantId newId pipelineId s = .ok (configurationId, s.overlay) := by
  simp only [bootstrapConfiguration, h]
  rfl

end Steps

/-! The version of the configuration. -/

section Version

variable {env : Environment} {o o' : Overlay.State} {tenantId pipelineId configurationId versionId : ℕ}
variable {config : TenantProcessConfiguration} {fingerprint : String}

theorem findMatching_active (hconfig : getConfiguration o tenantId configurationId = some config)
    (hmatches : activeVersionMatches env o tenantId configurationId config fingerprint = .ok true) :
    findMatchingPublishedVersion env o tenantId configurationId fingerprint = .ok config.activeDefinitionVersionId := by
  rw [findMatchingPublishedVersion, hconfig]
  simp only [hmatches]
  rfl

/-- A version that is found is one of the configuration, and has the fingerprint. -/
theorem findMatching_some
    (h : findMatchingPublishedVersion env o tenantId configurationId fingerprint = .ok (some versionId)) :
    ∃ version, getDefinitionVersionForConfiguration o tenantId configurationId versionId = some version ∧
      hasFingerprint env version fingerprint = .ok true := by
  unfold findMatchingPublishedVersion at h
  split at h
  · simp [pure_eq_ok] at h
  · rename_i config hconfig
    simp only [bind_eq_ok] at h
    obtain ⟨pinned, hpinned, h⟩ := h
    cases pinned with
    | true =>
      rw [if_pos rfl, pure_eq_ok] at h
      rw [activeVersionMatches, h, Option.bind_some] at hpinned
      rcases hversion : getDefinitionVersionForConfiguration o tenantId configurationId versionId with _ | version <;>
        rw [hversion] at hpinned
      · simp [pure_eq_ok] at hpinned
      · exact ⟨version, rfl, hpinned⟩
    | false =>
      rw [if_neg (by simp)] at h
      split at h
      · simp [pure_eq_ok] at h
      · rename_i id latest hlatest
        simp only [bind_eq_ok, pure_eq_ok] at h
        obtain ⟨same, hsame, h⟩ := h
        cases same with
        | false => simp at h
        | true =>
          rw [if_pos rfl] at h
          obtain rfl := Option.some.inj h
          obtain ⟨hmem, hof⟩ := List.mem_filter.1 (List.maxOn?_mem hlatest)
          simp only [decide_eq_true_eq] at hof
          refine ⟨latest, ?_, hsame⟩
          rw [getDefinitionVersionForConfiguration, getDefinitionVersion, Table.mem_rows.1 hmem]
          simp [hof]

/-- A configuration that is set to a version of the policy is pinned to it. -/
theorem setActive_matches {version : ProcessDefinitionVersion}
    (hsome : getConfigurationByPipeline o tenantId pipelineId = some (configurationId, config))
    (hversion : getDefinitionVersionForConfiguration o tenantId configurationId versionId = some version)
    (hsame : hasFingerprint env version fingerprint = .ok true)
    (h : setActiveDefinitionVersion tenantId configurationId versionId o = .ok o') :
    getConfigurationByPipeline o' tenantId pipelineId = some (configurationId, config.setActive versionId) ∧
      activeVersionMatches env o' tenantId configurationId (config.setActive versionId) fingerprint = .ok true ∧
      KeepsRest o o' := by
  simp only [setActiveDefinitionVersion, bind_eq_ok, pure_eq_ok] at h
  obtain ⟨-, -, -, -, -, -, rfl⟩ := h
  refine ⟨?_, ?_, keepsRest_modify _⟩
  · rw [getConfigurationByPipeline_modify (f := TenantProcessConfiguration.setActive versionId) fun _ => ⟨rfl, rfl⟩,
      hsome, Option.map_some, if_pos rfl]
  · have hversion' : getDefinitionVersionForConfiguration
        (o.modifyConfiguration configurationId (TenantProcessConfiguration.setActive versionId)) tenantId configurationId
        versionId = some version := hversion
    rw [activeVersionMatches, TenantProcessConfiguration.setActive, Option.bind_some, hversion']
    exact hsame

/-- The version that is published of a policy has its fingerprint. -/
theorem publish_matches {policy : PolicySnapshotV1} {reason : String}
    (h : publishDefinitionVersion tenantId configurationId versionId ⟨policy, reason⟩ o = .ok o') :
    (∃ version, getDefinitionVersionForConfiguration o' tenantId configurationId versionId = some version ∧
      hasFingerprint env version (policyFingerprint env policy.snapshot) = .ok true) ∧
      o'.configurations = o.configurations ∧ KeepsRest o o' := by
  simp only [publishDefinitionVersion, bind_eq_ok, raiseIf_eq_ok, pure_eq_ok, Option.not_isSome_iff_eq_none] at h
  obtain ⟨-, -, -, -, config, -, templateCode, -, pipeline, -, -, -, -, -, -, hnone, rfl⟩ := h
  obtain ⟨p, hparsed⟩ := policy.parsed
  have hsame : ∀ version : ProcessDefinitionVersion, version.policySnapshot = policy.snapshot →
      hasFingerprint env version (policyFingerprint env policy.snapshot) = .ok true := by
    intro version hpolicy
    rw [hasFingerprint, hpolicy, parsePolicySnapshot_again hparsed, bind_eq_ok]
    exact ⟨_, rfl, by simp [pure_eq_ok]⟩
  refine ⟨⟨{
    tenantId := tenantId
    configurationId := configurationId
    versionNumber := maxVersionNumber configurationId o + 1
    pipelineId := config.pipelineId
    pipelineCode := pipeline.code
    stageCodes := policy.snapshot.stageCodes
    policySnapshot := policy.snapshot
    moduleRequirements := policy.snapshot.moduleRequirements
    publishReason := strip reason }, ?_, hsame _ rfl⟩, rfl, rfl⟩
  rw [getDefinitionVersionForConfiguration, getDefinitionVersion, Table.get?_insert_new _ _ _ hnone, if_pos rfl]
  simp

end Version

/-! The whole bootstrap. -/

section Run

variable {env : Environment} {s s' : State} {o o' : Overlay.State} {tenantId pipelineId configurationId : ℕ}
variable {config response : TenantProcessConfiguration} {policy : PolicySnapshotV1}

theorem bringToPolicy_ok {newId : ℕ} {reason : String}
    (hsome : getConfigurationByPipeline o tenantId pipelineId = some (configurationId, config))
    (h : bringToPolicy env tenantId configurationId newId policy reason o = .ok o') :
    ∃ config', getConfigurationByPipeline o' tenantId pipelineId = some (configurationId, config') ∧
      activeVersionMatches env o' tenantId configurationId config' (policyFingerprint env policy.snapshot) = .ok true ∧
      KeepsRest o o' := by
  obtain ⟨hget, htenant, -⟩ := getConfigurationByPipeline_some hsome
  simp only [bringToPolicy, bind_eq_ok, mapError_eq_ok] at h
  obtain ⟨found, hfound, h⟩ := h
  cases found with
  | some versionId =>
    obtain ⟨version, hversion, hsame⟩ := findMatching_some hfound
    simp only [bind_eq_ok, orRaise_eq_ok, getConfiguration_eq_some] at h
    obtain ⟨config', ⟨hget', -⟩, h⟩ := h
    obtain rfl := Option.some.inj (hget.symm.trans hget')
    split at h <;> rename_i hactive
    · rw [mapError_eq_ok] at h
      exact ⟨_, setActive_matches hsome hversion hsame h⟩
    · rw [pure_eq_ok] at h
      subst h
      refine ⟨config, hsome, ?_, rfl⟩
      rw [activeVersionMatches, not_not.1 hactive, Option.bind_some, hversion]
      exact hsame
  | none =>
    simp only [bind_eq_ok, mapError_eq_ok] at h
    obtain ⟨o₁, hpublish, hactive⟩ := h
    obtain ⟨⟨version, hversion, hsame⟩, hconfigurations, hkeeps⟩ := publish_matches hpublish
    have hsome₁ : getConfigurationByPipeline o₁ tenantId pipelineId = some (configurationId, config) := by
      rw [getConfigurationByPipeline, hconfigurations]
      exact hsome
    obtain ⟨hsome', hmatches, hkeeps'⟩ := setActive_matches hsome₁ hversion hsame hactive
    exact ⟨_, hsome', hmatches, hkeeps.trans hkeeps'⟩

/-- A configuration that is pinned to the policy is left as it is. -/
theorem bringToPolicy_pinned {newId : ℕ} {reason : String}
    (hconfig : getConfiguration o tenantId configurationId = some config)
    (hmatches : activeVersionMatches env o tenantId configurationId config (policyFingerprint env policy.snapshot) =
      .ok true) :
    bringToPolicy env tenantId configurationId newId policy reason o = .ok o := by
  obtain ⟨versionId, hactive⟩ := activeVersionMatches_some hmatches
  rw [bringToPolicy, bind_eq_ok]
  refine ⟨some versionId, ?_, ?_⟩
  · rw [findMatching_active hconfig hmatches, hactive]
    rfl
  · rw [bind_eq_ok]
    refine ⟨config, ?_, ?_⟩
    · rw [orRaise_eq_ok, hconfig]
    · rw [if_neg (not_not.2 hactive), pure_eq_ok]

theorem finalize_ok {activate : Bool} {fingerprint : String}
    (hsome : getConfigurationByPipeline o tenantId pipelineId = some (configurationId, config))
    (hmatches : activeVersionMatches env o tenantId configurationId config fingerprint = .ok true)
    (h : finalize tenantId configurationId activate o = .ok (response, o')) :
    getConfigurationByPipeline o' tenantId pipelineId = some (configurationId, response) ∧
      activeVersionMatches env o' tenantId configurationId response fingerprint = .ok true ∧
      (activate = true → response.activationState = .active) ∧ KeepsRest o o' := by
  simp only [finalize, configurationOrRaise, bind_eq_ok, orRaise_eq_ok, pure_eq_ok, Prod.mk.injEq,
    getConfiguration_eq_some] at h
  obtain ⟨o₁, hactivate, config', ⟨hget', -⟩, rfl, rfl⟩ := h
  cases activate with
  | false =>
    rw [if_neg (by simp), pure_eq_ok] at hactivate
    subst hactivate
    obtain rfl := Option.some.inj ((getConfigurationByPipeline_some hsome).1.symm.trans hget')
    exact ⟨hsome, hmatches, by simp, rfl⟩
  | true =>
    rw [if_pos rfl] at hactivate
    have hsome₁ := getConfigurationByPipeline_activate hsome hactivate
    obtain rfl := Option.some.inj ((getConfigurationByPipeline_some hsome₁).1.symm.trans hget')
    obtain ⟨-, -, ⟨rfl, -⟩ | rfl⟩ := activateConfiguration_ok hactivate
    · exact ⟨hsome₁, hmatches, fun _ => rfl, rfl⟩
    · exact ⟨hsome₁, hmatches, fun _ => rfl, keepsRest_modify _⟩

theorem finalize_again {activate : Bool} (hconfig : getConfiguration o tenantId configurationId = some config)
    (hactive : activate = true → config.activationState = .active) :
    finalize tenantId configurationId activate o = .ok (config, o) := by
  have hraise : configurationOrRaise tenantId configurationId o = .ok config := by
    rw [configurationOrRaise, orRaise_eq_ok, hconfig]
  rw [finalize, bind_eq_ok]
  refine ⟨o, ?_, ?_⟩
  · cases activate with
    | false => rfl
    | true =>
      rw [if_pos rfl, activateConfiguration, bind_eq_ok]
      exact ⟨config, hraise, if_pos (hactive rfl)⟩
  · rw [bind_eq_ok]
    exact ⟨config, hraise, rfl⟩

theorem getTemplateByCode_seeded {newId : ℕ} (hseed : seedTemplates newId s = .ok s')
    (hpolicy : desiredPolicy flexitySalesTemplate { s' with overlay := o } = .ok policy)
    (htemplates : o.templates = s'.overlay.templates) :
    ∃ id, getTemplateByCode s'.columns s'.overlay flexitySalesTemplate = some (id, flexitySalesIntake) := by
  simp only [desiredPolicy, bind_eq_ok, orRaise_eq_ok, Prod.exists, Option.filter_eq_some_iff] at hpolicy
  obtain ⟨id, template, ⟨hfound, -⟩, -⟩ := hpolicy
  have hfound' : getTemplateByCode s'.columns s'.overlay flexitySalesTemplate = some (id, template) := by
    rw [getTemplateByCode, ← htemplates]
    exact hfound
  exact ⟨id, by rw [hfound', ← seedTemplates_template hseed hfound']⟩

variable {ids : NewIds} {args : BootstrapArgs}

theorem bootstrapOverlay_again (h : bootstrapOverlay env ids args s = .ok (response, s')) (ids' : NewIds) :
    bootstrapOverlay env ids' args s' = .ok (response, s') := by
  simp only [bootstrapOverlay, bind_eq_ok, orRaise_eq_ok, mapError_eq_ok, pure_eq_ok, Prod.exists, Prod.mk.injEq] at h
  obtain ⟨seeded, hseed, pipelineId, pipeline, hpipeline, configurationId, o, hconfiguration, policy, hpolicy, o₁,
    hbring, config, o₂, hfinal, rfl, rfl⟩ := h
  obtain ⟨⟨config₀, hsome⟩, hkeeps⟩ := bootstrapConfiguration_ok hconfiguration
  obtain ⟨config₁, hsome₁, hmatches₁, hkeeps₁⟩ := bringToPolicy_ok hsome hbring
  obtain ⟨hsome₂, hmatches₂, hactive, hkeeps₂⟩ := finalize_ok hsome₁ hmatches₁ hfinal
  have hrest : KeepsRest o o₂ := hkeeps₁.trans hkeeps₂
  have htemplates : o.templates = seeded.overlay.templates := by rw [hkeeps]
  obtain ⟨id, htemplate⟩ := getTemplateByCode_seeded hseed hpolicy htemplates
  obtain ⟨hget, htenant, -⟩ := getConfigurationByPipeline_some hsome₂
  have hconfig := getConfiguration_eq_some.2 ⟨hget, htenant⟩
  have htemplate' : getTemplateByCode seeded.columns o₂ flexitySalesTemplate = some (id, flexitySalesIntake) := by
    rw [getTemplateByCode, hrest, ← htemplate, hkeeps]
    rfl
  simp only [bootstrapOverlay, bind_eq_ok, orRaise_eq_ok, mapError_eq_ok, pure_eq_ok, Prod.exists]
  refine ⟨{ seeded with overlay := o₂ }, seedTemplates_seeded htemplate' _, pipelineId, pipeline, ?_, configurationId, o₂,
    bootstrapConfiguration_again hsome₂ _, policy, ?_, o₂, bringToPolicy_pinned hconfig hmatches₂, config, o₂,
    finalize_again hconfig hactive, rfl⟩
  · rw [← hpipeline, getPipelineByCode, getPipelineByCode, hrest, hkeeps]
  · rw [← hpolicy, desiredPolicy, desiredPolicy, getTemplateByCode, getTemplateByCode, hrest]

end Run

/-- Where a bootstrap succeeds, running it again leaves everything as it is: it publishes no
version, creates no configuration, and answers with the same configuration. -/
theorem bootstrap_idempotent {env : Environment} {settings : BootstrapSettings} {ids : NewIds} {args : BootstrapArgs}
    {s s' : State} {response : TenantProcessConfiguration}
    (h : bootstrapFlexitySalesIntake env settings ids args s = .ok (response, s')) (ids' : NewIds) :
    bootstrapFlexitySalesIntake env settings ids' args s' = .ok (response, s') := by
  simp only [bootstrapFlexitySalesIntake, bind_eq_ok, mapError_eq_ok] at h ⊢
  obtain ⟨u, hguard, v, hblank, w, hcode, hoverlay⟩ := h
  exact ⟨u, hguard, v, hblank, w, hcode, bootstrapOverlay_again hoverlay ids'⟩

/-! A tenant with the sales pipeline, and nothing of the overlay yet. -/

section Example

def intakeRows : List (ℕ × PipelineStage) :=
  flexitySalesIntake.defaultPolicyBlueprint.stageCodes.zipIdx.map fun c => (c.2, ⟨1, c.1, c.2, false⟩)

theorem intakeRows_nodup : (intakeRows.map Prod.fst).Nodup := by decide

theorem intakeRows_codes : ∀ r ∈ intakeRows, ∀ r' ∈ intakeRows, r.2.code = r'.2.code → r.1 = r'.1 := by decide

def intakeStages : Stages where
  table := ⟨intakeRows, intakeRows_nodup⟩
  code_unique := fun i j a b hi hj _ hcode =>
    intakeRows_codes (i, a) (Table.mem_rows.2 hi) (j, b) (Table.mem_rows.2 hj) hcode

def freshTenant : State :=
  { activeTenant [] with
    overlay := { (activeTenant []).overlay with
      stages := intakeStages
      templates := ∅
      configurations := ∅
      versions := ∅ }
    columns := ∅ }

def localSettings : BootstrapSettings := ⟨true, "local"⟩

def bootstrapArgs : BootstrapArgs := ⟨1, " flexity_sales ", true, bootstrapPublishReason⟩

theorem bootstrap_idempotent_fresh : ∃ response s',
    bootstrapFlexitySalesIntake exampleEnvironment localSettings exampleIds bootstrapArgs freshTenant =
      .ok (response, s') ∧
    response.activationState = .active ∧
    bootstrapFlexitySalesIntake exampleEnvironment localSettings ⟨3, 3, 3⟩ bootstrapArgs s' = .ok (response, s') := by
  have hrun : (bootstrapFlexitySalesIntake exampleEnvironment localSettings exampleIds bootstrapArgs freshTenant).map
      (fun r => r.1.activationState) = .ok .active := by decide +kernel
  obtain ⟨⟨response, s'⟩, hfirst, hactive⟩ := map_eq_ok.1 hrun
  exact ⟨response, s', hfirst, hactive, bootstrap_idempotent hfirst ⟨3, 3, 3⟩⟩

end Example

end CoreOps.Ops
