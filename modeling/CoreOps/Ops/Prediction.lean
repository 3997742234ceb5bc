import CoreOps.Ops.Bootstrap

/-! The dry run of an activation against the apply. The plan is made from the template as it is
stored; the apply seeds the catalog first, and looks for a version of what it has seeded. -/

namespace CoreOps.Ops

open Checked Text Overlay

structure OverlayPlanStep where
  action : String
  skipReason : Option String
  deriving DecidableEq, Repr

/-- The answer of `build_overlay_plan`. -/
structure OverlayPlan where
  steps : List OverlayPlanStep
  configurationId : Option ℕ
  policyFingerprint : Option String
  activeVersionId : Option ℕ
  activationState : Option ProcessOverlayActivationState

def createStep : OverlayPlanStep := ⟨"create_configuration", none⟩

def publishStep : OverlayPlanStep := ⟨"publish_definition_version", none⟩

def setActiveStep : OverlayPlanStep := ⟨"set_active_definition_version", none⟩

def repinStep : OverlayPlanStep :=
  ⟨"set_active_definition_version", some "fingerprint match but active version differs"⟩

def pinnedStep : OverlayPlanStep := ⟨"set_active_definition_version", some "already pinned to matching version"⟩

def activateStep : OverlayPlanStep := ⟨"activate_configuration", none⟩

def activeStep : OverlayPlanStep := ⟨"activate_configuration", some "already ACTIVE"⟩

/-- The configuration of the pipeline, else that of the template, and why it is taken. -/
def existingConfiguration (o : Overlay.State) (tenantId pipelineId templateId : ℕ) : Option (ℕ × String) :=
  match getConfigurationByPipeline o tenantId pipelineId with
  | some (id, _) => some (id, "pipeline configuration exists")
  | none =>
    ((listConfigurations o tenantId).find? fun r => r.2.processTemplateId = templateId).map fun r =>
      (r.1, "template configuration exists")

/-- The steps that bring a configuration to the version that was found, or to a new one. -/
def versionSteps (config : TenantProcessConfiguration) : Option ℕ → List OverlayPlanStep
  | none => [publishStep, setActiveStep]
  | some versionId => if config.activeDefinitionVersionId ≠ some versionId then [repinStep] else [pinnedStep]

def activationStep (config : TenantProcessConfiguration) : OverlayPlanStep :=
  if config.activationState = .active then activeStep else activateStep

section Plan

variable (env : Environment)

def buildOverlayPlan (tenantId : ℕ) (pipelineCode processTemplateCode : String) (skipOverlay : Bool) (s : State) :
    Except OpsError OverlayPlan :=
  if skipOverlay then return ⟨[⟨"skip_overlay", some "config-only path"⟩], none, none, none, none⟩
  else do
    let (pipelineId, _) ← orRaise (getPipelineByCode s tenantId pipelineCode)
      (.notFound s!"Pipeline '{pipelineCode}' not found for tenant")
    let (templateId, template) ← orRaise
      ((getTemplateByCode s.columns s.overlay processTemplateCode).filter fun t => t.2.isActive)
      (.notFound s!"Process template '{processTemplateCode}' not found")
    let expected := template.defaultPipelineCode
    raiseIf (expected ≠ pipelineCode) (.opsActivation s!"Pipeline code must match template default ({expected})")
    let policy ← (parsePolicySnapshotV1 template.defaultPolicyBlueprint).mapError .overlay
    let fingerprint := policyFingerprint env policy.snapshot
    match existingConfiguration s.overlay tenantId pipelineId templateId with
    | none =>
      return ⟨[⟨"seed_catalog", none⟩, createStep, publishStep, setActiveStep, activateStep], none, some fingerprint,
        none, none⟩
    | some (id, reason) =>
      let config ← orRaise (getConfiguration s.overlay tenantId id) .unexpected
      let matching ← (findMatchingPublishedVersion env s.overlay tenantId id fingerprint).mapError .overlay
      return ⟨⟨"seed_catalog", none⟩ :: ⟨"reuse_configuration", some reason⟩ ::
          (versionSteps config matching ++ [activationStep config]), some id, some fingerprint,
        config.activeDefinitionVersionId, some config.activationState⟩

/-- The plan of a dry run, without what it says of the environment. -/
structure DryRunPlan where
  tenantId : ℕ
  tenantSlug : String
  pipelineId : ℕ
  pipelineCode : String
  operatorUserId : ℕ
  assigneeUserId : ℕ
  configHash : String
  expectedConfigHash : String
  overlay : OverlayPlan
  configMergeNeeded : Bool

/-- `run_dry_run`, which is not reached with `--rollback-from`. Settings that are missing are
not created. -/
def runDryRun (args : Args) (s : State) : Except OpsError DryRunPlan := do
  raiseIf (strip args.expectedConfigHash = "")
    (.opsActivation "--expected-config-hash is required for dry-run and apply")
  let (ctx, _) ← resolveContext s env args
  let overlay ← buildOverlayPlan env ctx.tenantId flexitySalesPipeline args.processTemplateCode args.skipOverlay s
  let matched ← leadAutomationBlockMatches ctx.industryConfig (desiredBlock args ctx)
  return {
    tenantId := ctx.tenantId
    tenantSlug := ctx.tenant.slug
    pipelineId := ctx.pipelineId
    pipelineCode := flexitySalesPipeline
    operatorUserId := ctx.operatorUserId
    assigneeUserId := ctx.assigneeUserId
    configHash := ctx.configHash
    expectedConfigHash := strip args.expectedConfigHash
    overlay := overlay
    configMergeNeeded := !matched }

end Plan

/-- The configuration that the plan is to write. -/
def DryRunPlan.industryConfig (plan : DryRunPlan) (args : Args) (current : JsonObject) : JsonObject :=
  if plan.configMergeNeeded then mergeLeadAutomationConfig current {
    enabled := true
    defaultAssigneeUserId := plan.assigneeUserId
    firstContactSlaMinutes := clampSla args.slaMinutes
    taskTemplateCode := strip args.taskTemplateCode
    createActivity := !args.noCreateActivity }
  else current

/-- The apply has worked on the configuration of the plan and has done the steps of the plan,
and no others. `configurationId` is the configuration that the apply answers with. -/
structure Performs (plan : DryRunPlan) (args : Args) (configurationId : Option ℕ) (s s' : State) : Prop where
  reuses : ∀ id, plan.overlay.configurationId = some id → configurationId = some id
  creates : createStep ∈ plan.overlay.steps ↔
    ∃ id, configurationId = some id ∧ s.overlay.configurations.get? id = none
  publishes : publishStep ∈ plan.overlay.steps ↔ s'.overlay.versions ≠ s.overlay.versions
  setsActive : setActiveStep ∈ plan.overlay.steps ∨ repinStep ∈ plan.overlay.steps ↔
    (shownConfiguration s'.overlay plan.tenantId configurationId).bind (·.activeDefinitionVersionId) ≠
      (shownConfiguration s.overlay plan.tenantId configurationId).bind (·.activeDefinitionVersionId)
  activates : activateStep ∈ plan.overlay.steps ↔
    (shownConfiguration s.overlay plan.tenantId configurationId).map (·.activationState) ≠ some .active ∧
      (shownConfiguration s'.overlay plan.tenantId configurationId).map (·.activationState) = some .active
  config : industryConfig s' plan.tenantId = plan.industryConfig args (industryConfig s plan.tenantId)

/-- The foreign keys between configurations and versions. -/
structure ForeignKeys (o : Overlay.State) : Prop where
  configuration : ∀ id version, o.versions.get? id = some version →
    o.configurations.get? version.configurationId ≠ none
  activeVersion : ∀ id config versionId, o.configurations.get? id = some config →
    config.activeDefinitionVersionId = some versionId → o.versions.get? versionId ≠ none

/-- A template as the seeding leaves it. -/
def seededTemplate (code : String) (template : ProcessTemplate) : ProcessTemplate :=
  if code = flexitySalesTemplate then flexitySalesIntake else template

/-- The policy that is stored and the policy that is seeded have one fingerprint, or the
configuration has no version of either. -/
def SeedingKeepsPlan (env : Environment) (o : Overlay.State) (tenantId : ℕ) (configurationId : Option ℕ)
    (stored seeded : PolicySnapshotV1) : Prop :=
  policyFingerprint env stored.snapshot = policyFingerprint env seeded.snapshot ∨
    ∀ id, configurationId = some id → ∀ policy, policy = stored ∨ policy = seeded →
      findMatchingPublishedVersion env o tenantId id (policyFingerprint env policy.snapshot) = .ok none

/-- The seeding leaves the steps of the plan as they are. -/
def Predictable (env : Environment) (args : Args) (s : State) (tenantId pipelineId : ℕ) : Prop :=
  args.skipOverlay = true ∨ ∀ templateId template stored seeded,
    getTemplateByCode s.columns s.overlay args.processTemplateCode = some (templateId, template) →
    parsePolicySnapshotV1 template.defaultPolicyBlueprint = .ok stored →
    parsePolicySnapshotV1 (seededTemplate args.processTemplateCode template).defaultPolicyBlueprint = .ok seeded →
    SeedingKeepsPlan env s.overlay tenantId
      ((existingConfiguration s.overlay tenantId pipelineId templateId).map Prod.fst) stored seeded

/-- What an apply leaves of the versions when it brings a configuration to `versionId`, by the
version that it has found for the policy. -/
def Published (o o' : Overlay.State) (versionId : ℕ) (matching : Option ℕ) : Prop :=
  matching = none ∧ o.versions.get? versionId = none ∧ o'.versions.get? versionId ≠ none ∨
    matching = some versionId ∧ o'.versions = o.versions

/-! The steps of an apply on a configuration. -/

section Steps

variable {env : Environment} {s s' : State} {o o₂ o₃ o' : Overlay.State} {tenantId pipelineId configurationId : ℕ}
variable {config : TenantProcessConfiguration} {policy : PolicySnapshotV1}
variable {reason fingerprint fingerprint' code : String} {newId versionId : ℕ}

theorem publish_ok (h : publishDefinitionVersion tenantId configurationId newId ⟨policy, reason⟩ o = .ok o') :
    o'.configurations = o.configurations ∧ o.versions.get? newId = none ∧ o'.versions.get? newId ≠ none := by
  simp only [publishDefinitionVersion, bind_eq_ok, raiseIf_eq_ok, pure_eq_ok, Option.not_isSome_iff_eq_none] at h
  obtain ⟨-, -, -, -, config, -, templateCode, -, pipeline, -, -, -, -, -, -, hnone, rfl⟩ := h
  refine ⟨rfl, hnone, ?_⟩
  rw [Table.get?_insert_new _ _ _ hnone, if_pos rfl]
  exact Option.some_ne_none _

theorem versionFor_ok (h : versionFor env newId tenantId configurationId policy reason o = .ok (versionId, o')) :
    o'.configurations = o.configurations ∧ ∃ matching, Published o o' versionId matching ∧
      findMatchingPublishedVersion env o tenantId configurationId (policyFingerprint env policy.snapshot) =
        .ok matching := by
  simp only [versionFor, bind_eq_ok] at h
  obtain ⟨matching, hmatching, h⟩ := h
  cases matching with
  | none =>
    simp only [bind_eq_ok, pure_eq_ok, Prod.mk.injEq] at h
    obtain ⟨o₁, hpublish, rfl, rfl⟩ := h
    obtain ⟨hconfigurations, hnew⟩ := publish_ok hpublish
    exact ⟨hconfigurations, none, .inl ⟨rfl, hnew⟩, hmatching⟩
  | some id =>
    rw [pure_eq_ok, Prod.mk.injEq] at h
    obtain ⟨rfl, rfl⟩ := h
    exact ⟨rfl, some id, .inr ⟨rfl, rfl⟩, hmatching⟩

theorem getConfiguration_modify {f : TenantProcessConfiguration → TenantProcessConfiguration}
    (hconfig : getConfiguration o tenantId configurationId = some config) (hf : (f config).tenantId = config.tenantId) :
    getConfiguration (o.modifyConfiguration configurationId f) tenantId configurationId = some (f config) := by
  obtain ⟨hget, htenant⟩ := getConfiguration_eq_some.1 hconfig
  refine getConfiguration_eq_some.2 ⟨?_, hf.trans htenant⟩
  rw [State.modifyConfiguration, Table.get?_modify_self, hget, Option.map_some]

theorem pinVersion_ok (hconfig : getConfiguration o tenantId configurationId = some config)
    (h : pinVersion tenantId configurationId versionId o = .ok o') :
    getConfiguration o' tenantId configurationId = some (config.setActive versionId) ∧ o'.versions = o.versions := by
  simp only [pinVersion, configurationOrRaise, bind_eq_ok, orRaise_eq_ok, hconfig, Option.some.injEq] at h
  obtain ⟨_, rfl, h⟩ := h
  split at h
  · simp only [setActiveDefinitionVersion, bind_eq_ok, pure_eq_ok] at h
    obtain ⟨-, -, -, -, -, -, rfl⟩ := h
    exact ⟨getConfiguration_modify hconfig rfl, rfl⟩
  · rename_i hsame
    obtain rfl := (pure_eq_ok.1 h)
    have hset : config.setActive versionId = config := by
      rw [TenantProcessConfiguration.setActive, ← not_not.1 hsame]
    exact ⟨hset ▸ hconfig, rfl⟩

theorem activate_ok (hconfig : getConfiguration o tenantId configurationId = some config)
    (h : activateConfiguration tenantId configurationId o = .ok o') :
    getConfiguration o' tenantId configurationId = some (config.setState .active) ∧ o'.versions = o.versions := by
  obtain ⟨config', hget, ⟨rfl, hstate⟩ | rfl⟩ := activateConfiguration_ok h
  · obtain rfl := Option.some.inj (hget.symm.trans (getConfiguration_eq_some.1 hconfig).1)
    rw [setState_of_eq hstate]
    exact ⟨hconfig, rfl⟩
  · exact ⟨getConfiguration_modify hconfig rfl, rfl⟩

theorem hasFingerprint_inj {version : ProcessDefinitionVersion} (h : hasFingerprint env version fingerprint = .ok true)
    (h' : hasFingerprint env version fingerprint' = .ok true) : fingerprint = fingerprint' := by
  simp only [hasFingerprint, bind_eq_ok, pure_eq_ok, decide_eq_true_eq] at h h'
  obtain ⟨policy, hpolicy, rfl⟩ := h
  obtain ⟨policy', hpolicy', rfl⟩ := h'
  rw [hpolicy] at hpolicy'
  cases hpolicy'
  rfl

theorem findMatching_fingerprint
    (h : findMatchingPublishedVersion env o tenantId configurationId fingerprint = .ok (some versionId))
    (h' : findMatchingPublishedVersion env o tenantId configurationId fingerprint' = .ok (some versionId)) :
    fingerprint = fingerprint' := by
  obtain ⟨version, hversion, hsame⟩ := findMatching_some h
  obtain ⟨version', hversion', hsame'⟩ := findMatching_some h'
  obtain rfl := Option.some.inj (hversion.symm.trans hversion')
  exact hasFingerprint_inj hsame hsame'

/-- A version that is found and is not the active one is the latest. -/
theorem findMatching_latest (hconfig : getConfiguration o tenantId configurationId = some config)
    (h : findMatchingPublishedVersion env o tenantId configurationId fingerprint = .ok (some versionId))
    (hne : config.activeDefinitionVersionId ≠ some versionId) :
    (getLatestDefinitionVersion o tenantId configurationId).map Prod.fst = some versionId := by
  simp only [findMatchingPublishedVersion, hconfig, bind_eq_ok] at h
  obtain ⟨pinned, -, h⟩ := h
  split at h
  · exact absurd (pure_eq_ok.1 h) hne
  · split at h
    · cases h
    · rename_i id latest hlatest
      simp only [bind_eq_ok, pure_eq_ok] at h
      obtain ⟨same, -, h⟩ := h
      cases same with
      | false => cases h
      | true =>
        rw [hlatest, Option.map_some]
        exact h

theorem findMatching_new (hconfig : getConfiguration o tenantId configurationId = some config)
    (hactive : config.activeDefinitionVersionId = none)
    (hnone : ∀ id version, o.versions.get? id = some version → version.configurationId ≠ configurationId) :
    findMatchingPublishedVersion env o tenantId configurationId fingerprint = .ok none := by
  have hmatches : activeVersionMatches env o tenantId configurationId config fingerprint = .ok false := by
    rw [activeVersionMatches, hactive]
    rfl
  have hlatest : getLatestDefinitionVersion o tenantId configurationId = none := by
    have hempty : (o.versions.rows.filter fun r =>
        r.2.tenantId = tenantId ∧ r.2.configurationId = configurationId) = [] := by
      refine List.filter_eq_nil_iff.2 fun r hr => ?_
      have hne := hnone r.1 r.2 (Table.mem_rows.1 hr)
      simp [hne]
    rw [getLatestDefinitionVersion, hempty]
    rfl
  simp only [findMatchingPublishedVersion, hconfig, hmatches, hlatest]
  rfl

/-- What is found for two policies calls for the same steps when the policies have one
fingerprint, or nothing is found for either. -/
theorem sameSteps_iff {matching matching' : Option ℕ}
    (hconfig : getConfiguration o tenantId configurationId = some config)
    (h : findMatchingPublishedVersion env o tenantId configurationId fingerprint = .ok matching)
    (h' : findMatchingPublishedVersion env o tenantId configurationId fingerprint' = .ok matching') :
    ((matching = none ↔ matching' = none) ∧
        ((matching = none ∨ config.activeDefinitionVersionId ≠ matching) ↔
          (matching' = none ∨ config.activeDefinitionVersionId ≠ matching'))) ↔
      fingerprint = fingerprint' ∨ matching = none ∧ matching' = none := by
  constructor
  · rintro ⟨hnone, hactive⟩
    cases matching with
    | none => exact .inr ⟨rfl, hnone.1 rfl⟩
    | some versionId =>
      cases matching' with
      | none => exact absurd (hnone.2 rfl) (Option.some_ne_none versionId)
      | some versionId' =>
        simp only [reduceCtorEq, false_or] at hactive
        have hsame : some versionId = some versionId' := by
          by_cases hv : config.activeDefinitionVersionId = some versionId
          · have hv' := not_not.1 (mt hactive.2 (not_not.2 hv))
            exact hv.symm.trans hv'
          · exact (findMatching_latest hconfig h hv).symm.trans (findMatching_latest hconfig h' (hactive.1 hv))
        obtain rfl := Option.some.inj hsame
        exact .inl (findMatching_fingerprint h h')
  · rintro (rfl | ⟨rfl, rfl⟩)
    · rw [h] at h'
      cases h'
      exact ⟨Iff.rfl, Iff.rfl⟩
    · exact ⟨Iff.rfl, Iff.rfl⟩

/-- What the steps of an apply leave of a configuration, by what is found for the policy. -/
theorem brought_ok (hconfig : getConfiguration o tenantId configurationId = some config)
    (hversion : versionFor env newId tenantId configurationId policy reason o = .ok (versionId, o₂))
    (hpin : pinVersion tenantId configurationId versionId o₂ = .ok o₃)
    (hactivate : activateConfiguration tenantId configurationId o₃ = .ok o') :
    getConfiguration o' tenantId configurationId = some ((config.setActive versionId).setState .active) ∧
      ∃ matching, Published o o' versionId matching ∧
        findMatchingPublishedVersion env o tenantId configurationId (policyFingerprint env policy.snapshot) =
          .ok matching := by
  obtain ⟨hconfigurations, matching, hpublished, hmatching⟩ := versionFor_ok hversion
  have hconfig₂ : getConfiguration o₂ tenantId configurationId = some config := by
    rw [getConfiguration, hconfigurations]
    exact hconfig
  obtain ⟨hconfig₃, hversions₃⟩ := pinVersion_ok hconfig₂ hpin
  obtain ⟨hconfig', hversions'⟩ := activate_ok hconfig₃ hactivate
  refine ⟨hconfig', matching, ?_, hmatching⟩
  rw [Published, hversions', hversions₃]
  exact hpublished

theorem seedTemplates_found {templateId : ℕ} {template : ProcessTemplate} (h : seedTemplates newId s = .ok s')
    (hfound : getTemplateByCode s.columns s.overlay code = some (templateId, template)) :
    getTemplateByCode s'.columns s'.overlay code = some (templateId, seededTemplate code template) := by
  have hrow : ∃ row, (s.overlay.templates.rows.find? fun r => r.2 = code) = some row ∧
      s.columns.get? row.1 = some template ∧ row.1 = templateId := by
    simp only [getTemplateByCode, Option.bind_eq_some_iff, Option.map_eq_some_iff, Prod.mk.injEq] at hfound
    obtain ⟨row, hrow, columns, hget, hid, rfl⟩ := hfound
    exact ⟨row, hrow, hget, hid⟩
  obtain ⟨row, hrow, hget, rfl⟩ := hrow
  have hcode : s.overlay.templates.get? row.1 = some row.2 := Table.mem_rows.1 (List.mem_of_find?_eq_some hrow)
  have hrowCode : row.2 = code := by simpa using List.find?_some hrow
  unfold seedTemplates upsertTemplate at h
  split at h
  · rename_i seededId columns hbefore
    rw [pure_eq_ok] at h
    subst h
    simp only [getTemplateByCode, Option.bind_eq_some_iff, Option.map_eq_some_iff, Prod.mk.injEq] at hbefore
    obtain ⟨row', hrow', columns', hget', rfl, rfl⟩ := hbefore
    rw [getTemplateByCode, hrow, Option.bind_some]
    by_cases hseeded : code = flexitySalesTemplate
    · subst hseeded
      obtain rfl := Option.some.inj (hrow.symm.trans hrow')
      rw [Table.get?_modify_self, hget, seededTemplate, if_pos rfl]
      rfl
    · have hne : row.1 ≠ row'.1 := by
        intro heq
        have hcode' : s.overlay.templates.get? row'.1 = some row'.2 :=
          Table.mem_rows.1 (List.mem_of_find?_eq_some hrow')
        have hrowCode' : row'.2 = flexitySalesTemplate := by simpa using List.find?_some hrow'
        rw [← heq, hcode] at hcode'
        exact hseeded (hrowCode.symm.trans ((Option.some.inj hcode').trans hrowCode'))
      rw [Table.get?_modify_of_ne _ hne, hget, seededTemplate, if_neg hseeded]
      rfl
  · rename_i hnone
    simp only [bind_eq_ok, raiseIf_eq_ok, pure_eq_ok, not_or, Option.not_isSome_iff_eq_none] at h
    obtain ⟨-, ⟨htemplate, hcolumn⟩, rfl⟩ := h
    have hseeded : code ≠ flexitySalesTemplate := by
      rintro rfl
      rw [hfound] at hnone
      cases hnone
    have hne : row.1 ≠ newId := fun heq => by
      rw [heq, htemplate] at hcode
      cases hcode
    simp only [getTemplateByCode, Table.rows_insert_new _ _ htemplate, List.find?_append, hrow, Option.some_or,
      Option.bind_some, Table.get?_insert_new _ _ _ hcolumn, if_neg hne, hget, seededTemplate, if_neg hseeded]
    rfl

end Steps

/-! What the plan lists. -/

section Lists

variable {env : Environment} {s : State} {args : Args} {plan : DryRunPlan} {overlay : OverlayPlan}
variable {tenantId : ℕ} {pipelineCode code : String}

/-- The plan for a configuration that exists. -/
def reuseSteps (reason : String) (config : TenantProcessConfiguration) (matching : Option ℕ) : List OverlayPlanStep :=
  ⟨"seed_catalog", none⟩ :: ⟨"reuse_configuration", some reason⟩ ::
    (versionSteps config matching ++ [activationStep config])

theorem mem_reuseSteps {step : OverlayPlanStep} {reason : String} {config : TenantProcessConfiguration}
    {matching : Option ℕ} (hseed : step.action ≠ "seed_catalog") (hreuse : step.action ≠ "reuse_configuration") :
    step ∈ reuseSteps reason config matching ↔ step ∈ versionSteps config matching ∨ step = activationStep config := by
  simp only [reuseSteps, List.mem_cons, List.mem_append, List.not_mem_nil, or_false]
  constructor
  · rintro (rfl | rfl | h)
    · exact absurd rfl hseed
    · exact absurd rfl hreuse
    · exact h
  · exact fun h => .inr (.inr h)

theorem reuseSteps_lists (reason : String) (config : TenantProcessConfiguration) (matching : Option ℕ) :
    createStep ∉ reuseSteps reason config matching ∧
      (publishStep ∈ reuseSteps reason config matching ↔ matching = none) ∧
      (setActiveStep ∈ reuseSteps reason config matching ∨ repinStep ∈ reuseSteps reason config matching ↔
        matching = none ∨ config.activeDefinitionVersionId ≠ matching) ∧
      (activateStep ∈ reuseSteps reason config matching ↔ config.activationState ≠ .active) := by
  rw [mem_reuseSteps (by decide) (by decide), mem_reuseSteps (by decide) (by decide),
    mem_reuseSteps (by decide) (by decide), mem_reuseSteps (by decide) (by decide),
    mem_reuseSteps (by decide) (by decide)]
  unfold activationStep versionSteps
  cases matching with
  | none =>
    by_cases hstate : config.activationState = .active <;>
      simp [hstate, createStep, publishStep, setActiveStep, repinStep, activateStep, activeStep]
  | some versionId =>
    by_cases hactive : config.activeDefinitionVersionId = some versionId <;>
      by_cases hstate : config.activationState = .active <;>
        simp [hactive, hstate, createStep, publishStep, setActiveStep, repinStep, pinnedStep, activateStep, activeStep]

theorem buildOverlayPlan_ok (h : buildOverlayPlan env tenantId pipelineCode code false s = .ok overlay) :
    ∃ pipelineId pipeline templateId template policy,
      getPipelineByCode s tenantId pipelineCode = some (pipelineId, pipeline) ∧
      getTemplateByCode s.columns s.overlay code = some (templateId, template) ∧
      parsePolicySnapshotV1 template.defaultPolicyBlueprint = .ok policy ∧
      (existingConfiguration s.overlay tenantId pipelineId templateId = none ∧ overlay.configurationId = none ∧
          overlay.steps = [⟨"seed_catalog", none⟩, createStep, publishStep, setActiveStep, activateStep] ∨
        ∃ id reason config matching,
          existingConfiguration s.overlay tenantId pipelineId templateId = some (id, reason) ∧
          getConfiguration s.overlay tenantId id = some config ∧
          findMatchingPublishedVersion env s.overlay tenantId id (policyFingerprint env policy.snapshot) =
            .ok matching ∧
          overlay.configurationId = some id ∧ overlay.steps = reuseSteps reason config matching) := by
  rw [buildOverlayPlan, if_neg (by simp)] at h
  simp only [bind_eq_ok, orRaise_eq_ok, raiseIf_eq_ok, mapError_eq_ok, Option.filter_eq_some_iff, Prod.exists] at h
  obtain ⟨pipelineId, pipeline, hpipeline, templateId, template, ⟨htemplate, -⟩, -, -, policy, hpolicy, h⟩ := h
  refine ⟨pipelineId, pipeline, templateId, template, policy, hpipeline, htemplate, hpolicy, ?_⟩
  split at h
  · rename_i hnone
    rw [pure_eq_ok] at h
    subst h
    exact .inl ⟨hnone, rfl, rfl⟩
  · rename_i id reason hexisting
    simp only [bind_eq_ok, orRaise_eq_ok, mapError_eq_ok, pure_eq_ok] at h
    obtain ⟨config, hconfig, matching, hmatching, rfl⟩ := h
    exact .inr ⟨id, reason, config, matching, hexisting, hconfig, hmatching, rfl, rfl⟩

theorem runDryRun_ok (h : runDryRun env args s = .ok plan) :
    ∃ ctx s₁ matched, resolveContext s env args = .ok (ctx, s₁) ∧ plan.tenantId = ctx.tenantId ∧
      plan.pipelineId = ctx.pipelineId ∧ plan.assigneeUserId = ctx.assigneeUserId ∧
      buildOverlayPlan env ctx.tenantId flexitySalesPipeline args.processTemplateCode args.skipOverlay s =
        .ok plan.overlay ∧
      leadAutomationBlockMatches ctx.industryConfig (desiredBlock args ctx) = .ok matched ∧
      plan.configMergeNeeded = !matched := by
  simp only [runDryRun, bind_eq_ok, pure_eq_ok, Prod.exists] at h
  obtain ⟨-, -, ctx, s₁, hcontext, overlay, hoverlay, matched, hmatched, rfl⟩ := h
  exact ⟨ctx, s₁, matched, hcontext, rfl, rfl, rfl, hoverlay, hmatched, rfl⟩

end Lists

/-! What the apply works on. -/

section Apply

variable {env : Environment} {ids : NewIds} {args : Args} {s s' : State} {o : Overlay.State} {plan : ActivationPlan}
variable {tenantId pipelineId templateId newId configurationId : ℕ} {code : String} {template : ProcessTemplate}

theorem configurationFor_existing {id : ℕ} {reason : String}
    (htemplate : getTemplateByCode s.columns s.overlay code = some (templateId, template))
    (hexisting : existingConfiguration s.overlay tenantId pipelineId templateId = some (id, reason))
    (h : configurationFor newId tenantId pipelineId code s = .ok (configurationId, o)) :
    configurationId = id ∧ o = s.overlay := by
  unfold existingConfiguration at hexisting
  unfold configurationFor at h
  split at h
  · rename_i found config hfound
    simp only [hfound, Option.some.injEq, Prod.mk.injEq] at hexisting
    rw [pure_eq_ok, Prod.mk.injEq] at h
    exact ⟨h.1.symm.trans hexisting.1, h.2.symm⟩
  · rename_i hnone
    simp only [hnone, Option.map_eq_some_iff, Prod.mk.injEq] at hexisting
    obtain ⟨r, hr, rfl, -⟩ := hexisting
    simp only [htemplate, orRaise, bind_eq_ok] at h
    obtain ⟨_, heq, h⟩ := h
    cases heq
    simp only [hr, pure_eq_ok, Prod.mk.injEq] at h
    exact ⟨h.1.symm, h.2.symm⟩

theorem configurationFor_new
    (htemplate : getTemplateByCode s.columns s.overlay code = some (templateId, template))
    (hnone : existingConfiguration s.overlay tenantId pipelineId templateId = none)
    (h : configurationFor newId tenantId pipelineId code s = .ok (configurationId, o)) :
    s.overlay.configurations.get? configurationId = none ∧ o.versions = s.overlay.versions ∧
      o.templates = s.overlay.templates ∧
      ∃ config, getConfiguration o tenantId configurationId = some config ∧
        config.activeDefinitionVersionId = none := by
  unfold existingConfiguration at hnone
  unfold configurationFor at h
  split at h
  · rename_i found config hfound
    simp [hfound] at hnone
  · rename_i hpipeline
    simp only [hpipeline, Option.map_eq_none_iff] at hnone
    simp only [htemplate, orRaise, bind_eq_ok] at h
    obtain ⟨_, heq, h⟩ := h
    cases heq
    simp only [hnone, bind_eq_ok, mapError_eq_ok, pure_eq_ok, Prod.mk.injEq] at h
    obtain ⟨o', hcreate, rfl, rfl⟩ := h
    simp only [createConfiguration, bind_eq_ok, raiseIf_eq_ok, pure_eq_ok, Option.not_isSome_iff_eq_none,
      Prod.exists] at hcreate
    obtain ⟨templateId', _, -, _, -, _, -, _, -, _, hfresh, rfl⟩ := hcreate
    exact ⟨hfresh, rfl, rfl, ⟨tenantId, templateId', pipelineId, .inactive, none⟩,
      getConfiguration_eq_some.2 ⟨(Table.get?_insert_new _ _ _ hfresh).trans (if_pos rfl), rfl⟩, rfl⟩

theorem desiredPolicy_ok {policy : PolicySnapshotV1}
    (htemplate : getTemplateByCode s.columns s.overlay code = some (templateId, template))
    (htemplates : o.templates = s.overlay.templates)
    (h : desiredPolicy code { s with overlay := o } = .ok policy) :
    parsePolicySnapshotV1 template.defaultPolicyBlueprint = .ok policy := by
  have hfound : getTemplateByCode s.columns o code = some (templateId, template) := by
    rw [getTemplateByCode, htemplates]
    exact htemplate
  simp only [desiredPolicy, hfound, bind_eq_ok, orRaise_eq_ok, mapError_eq_ok, Option.filter_eq_some_iff,
    Option.some.injEq, Prod.exists, Prod.mk.injEq] at h
  obtain ⟨_, _, ⟨⟨rfl, rfl⟩, -⟩, hpolicy⟩ := h
  exact hpolicy

/-- On a configuration that exists, the apply is decided by what is found for the seeded policy. -/
theorem executeOverlay_existing {id : ℕ} {reason reason' : String} {config : TenantProcessConfiguration}
    (htemplate : getTemplateByCode s.columns s.overlay code = some (templateId, template))
    (hexisting : existingConfiguration s.overlay tenantId pipelineId templateId = some (id, reason'))
    (hconfig : getConfiguration s.overlay tenantId id = some config)
    (h : executeOverlay env ids tenantId pipelineId code reason s = .ok (configurationId, s')) :
    configurationId = id ∧ ∃ seeded versionId,
      parsePolicySnapshotV1 (seededTemplate code template).defaultPolicyBlueprint = .ok seeded ∧
      getConfiguration s'.overlay tenantId id = some ((config.setActive versionId).setState .active) ∧
      ∃ matching, Published s.overlay s'.overlay versionId matching ∧
        findMatchingPublishedVersion env s.overlay tenantId id (policyFingerprint env seeded.snapshot) =
          .ok matching := by
  obtain ⟨seeded, o₁, policy, versionId, o₂, o₃, hseeded, hconfiguration, hpolicy, hversion, hpin, hactivate, -⟩ :=
    executeOverlay_ok h
  have hfound := seedTemplates_found hseeded htemplate
  obtain ⟨templates, columns, rfl⟩ := seedTemplates_ok hseeded
  obtain ⟨rfl, rfl⟩ := configurationFor_existing hfound hexisting hconfiguration
  obtain ⟨hconfig', hmatching⟩ := brought_ok (o := { s.overlay with templates := templates }) hconfig hversion hpin
    hactivate
  exact ⟨rfl, policy, versionId, desiredPolicy_ok hfound rfl hpolicy, hconfig', hmatching⟩

/-- A new configuration is brought to a new version. -/
theorem executeOverlay_new {reason : String} (hkeys : ForeignKeys s.overlay)
    (htemplate : getTemplateByCode s.columns s.overlay code = some (templateId, template))
    (hnone : existingConfiguration s.overlay tenantId pipelineId templateId = none)
    (h : executeOverlay env ids tenantId pipelineId code reason s = .ok (configurationId, s')) :
    s.overlay.configurations.get? configurationId = none ∧ ∃ versionId config,
      getConfiguration s'.overlay tenantId configurationId = some config ∧ config.activationState = .active ∧
      config.activeDefinitionVersionId = some versionId ∧ s.overlay.versions.get? versionId = none ∧
      s'.overlay.versions.get? versionId ≠ none := by
  obtain ⟨seeded, o₁, policy, versionId, o₂, o₃, hseeded, hconfiguration, -, hversion, hpin, hactivate, -⟩ :=
    executeOverlay_ok h
  have hfound := seedTemplates_found hseeded htemplate
  obtain ⟨templates, columns, rfl⟩ := seedTemplates_ok hseeded
  obtain ⟨hfresh, hversions, -, config, hconfig, hactive⟩ := configurationFor_new hfound hnone hconfiguration
  obtain ⟨hconfig', hmatching⟩ := brought_ok hconfig hversion hpin hactivate
  have hnew : findMatchingPublishedVersion env o₁ tenantId configurationId (policyFingerprint env policy.snapshot) =
      .ok none := findMatching_new hconfig hactive fun id version hget heq => by
    rw [hversions] at hget
    exact hkeys.configuration id version hget (heq ▸ hfresh)
  obtain ⟨matching, ⟨rfl, hget, hget'⟩ | ⟨rfl, -⟩, hfind⟩ := hmatching
  · rw [hversions] at hget
    exact ⟨hfresh, versionId, _, hconfig', rfl, rfl, hget, hget'⟩
  · rw [hnew] at hfind
    cases hfind

theorem applyConfig_industry {merged document : JsonObject} {block : LeadAutomationBlock} {configChanged : Bool}
    (hsome : s.settings.get? tenantId = some document)
    (h : applyConfig tenantId merged block configChanged s = .ok s') :
    industryConfig s' tenantId = if configChanged then merged else document := by
  unfold applyConfig at h
  split at h
  · rename_i hchanged
    simp only [bind_eq_ok, pure_eq_ok] at h
    obtain ⟨-, -, rfl⟩ := h
    rw [if_pos hchanged, industryConfig, State.setIndustryConfig, Table.get?_modify_self, hsome]
    rfl
  · rename_i hsame
    obtain rfl := pure_eq_ok.1 h
    rw [if_neg hsame, industryConfig, hsome]
    rfl

theorem runApply_steps (h : runApply env ids args s = .ok (plan, s')) :
    ∃ ctx s₀ matched settings files s₁, resolveContext s env args = .ok (ctx, s₀) ∧
      leadAutomationBlockMatches ctx.industryConfig (desiredBlock args ctx) = .ok matched ∧
      applyOverlay env ids args ctx { s with settings := settings, files := files } = .ok (plan.configurationId, s₁) ∧
      s'.overlay = s₁.overlay ∧
      industryConfig s' ctx.tenantId =
        if !matched then mergeLeadAutomationConfig (industryConfig s ctx.tenantId) (desiredBlock args ctx)
        else industryConfig s ctx.tenantId := by
  simp only [runApply, bind_eq_ok, pure_eq_ok, Prod.exists, Prod.mk.injEq] at h
  obtain ⟨_, -, _, -, ctx, s₁, hcontext, directory, -, s₂, hwrite, matched, hmatched, configurationId, s₃, hoverlay, s₄,
    hconfig, s₅, hfinal, rfl, rfl⟩ := h
  obtain ⟨hindustry, rfl, -⟩ := resolveContext_ok hcontext
  obtain ⟨hbackup, hs₂⟩ := writeBackup_ok hwrite
  obtain ⟨-, hs₃⟩ := applyOverlay_keeps hoverlay
  have hs₄ := applyConfig_ok hconfig
  have hfiles : s₄.files = s₂.files := by rw [hs₄, hs₃]
  rw [← hfiles] at hbackup
  obtain ⟨-, hs₅⟩ := finalizeBackupManifest_ok hfinal hbackup
  have hsettings : s₃.settings.get? ctx.tenantId = some (industryConfig s ctx.tenantId) := by
    rw [hs₃, hs₂]
    exact (loadTenantSettings_eq s ctx.tenantId).1
  have hwritten := applyConfig_industry hsettings hconfig
  rw [hs₂, (loadTenantSettings_eq s ctx.tenantId).2] at hoverlay
  refine ⟨ctx, _, matched, (loadTenantSettings s ctx.tenantId).settings, s₂.files, s₃, hcontext, hmatched,
    hoverlay, ?_, ?_⟩
  · rw [hs₅, hs₄]
  · rw [← hindustry] at hwritten ⊢
    rw [hs₅]
    exact hwritten

end Apply

/-! Plan and apply. -/

section Performs

variable {env : Environment} {ids : NewIds} {args : Args} {s s' : State} {o o' : Overlay.State}
variable {plan : DryRunPlan} {plan' : ActivationPlan} {tenantId configurationId versionId : ℕ}
variable {config : TenantProcessConfiguration} {stored seeded : PolicySnapshotV1}

theorem predictable_iff {templateId pipelineId : ℕ} {template : ProcessTemplate} (hskip : args.skipOverlay = false)
    (htemplate : getTemplateByCode s.columns s.overlay args.processTemplateCode = some (templateId, template))
    (hstored : parsePolicySnapshotV1 template.defaultPolicyBlueprint = .ok stored)
    (hseeded : parsePolicySnapshotV1 (seededTemplate args.processTemplateCode template).defaultPolicyBlueprint =
      .ok seeded) :
    Predictable env args s tenantId pipelineId ↔
      SeedingKeepsPlan env s.overlay tenantId
        ((existingConfiguration s.overlay tenantId pipelineId templateId).map Prod.fst) stored seeded := by
  constructor
  · rintro (h | h)
    · rw [hskip] at h
      cases h
    · exact h _ _ _ _ htemplate hstored hseeded
  · intro h
    refine .inr fun _ _ _ _ htemplate' hstored' hseeded' => ?_
    obtain ⟨rfl, rfl⟩ := Prod.mk.inj (Option.some.inj (htemplate.symm.trans htemplate'))
    obtain rfl := Except.ok.inj (hstored.symm.trans hstored')
    obtain rfl := Except.ok.inj (hseeded.symm.trans hseeded')
    exact h

theorem seedingKeepsPlan_iff {matching matching' : Option ℕ}
    (h : findMatchingPublishedVersion env o tenantId configurationId (policyFingerprint env stored.snapshot) =
      .ok matching)
    (h' : findMatchingPublishedVersion env o tenantId configurationId (policyFingerprint env seeded.snapshot) =
      .ok matching') :
    SeedingKeepsPlan env o tenantId (some configurationId) stored seeded ↔
      policyFingerprint env stored.snapshot = policyFingerprint env seeded.snapshot ∨
        matching = none ∧ matching' = none := by
  refine or_congr_right ⟨fun hnone => ?_, ?_⟩
  · exact ⟨Except.ok.inj (h.symm.trans (hnone _ rfl _ (.inl rfl))),
      Except.ok.inj (h'.symm.trans (hnone _ rfl _ (.inr rfl)))⟩
  · rintro ⟨rfl, rfl⟩ _ hid policy hpolicy
    obtain rfl := Option.some.inj hid
    rcases hpolicy with rfl | rfl
    · exact h
    · exact h'

theorem ne_of_new (hnone : o.versions.get? versionId = none) (hsome : o'.versions.get? versionId ≠ none) :
    o'.versions ≠ o.versions := fun h => hsome (h ▸ hnone)

/-- What changes, by what is found for the policy. -/
theorem changes_iff {matching : Option ℕ} (hkeys : ForeignKeys o)
    (hconfig : getConfiguration o tenantId configurationId = some config)
    (h : Published o o' versionId matching) :
    (o'.versions ≠ o.versions ↔ matching = none) ∧
      (some versionId ≠ config.activeDefinitionVersionId ↔
        matching = none ∨ config.activeDefinitionVersionId ≠ matching) := by
  rcases h with ⟨rfl, hnone, hsome⟩ | ⟨rfl, hsame⟩
  · refine ⟨iff_of_true (ne_of_new hnone hsome) rfl, iff_of_true (fun hactive => ?_) (.inl rfl)⟩
    exact hkeys.activeVersion _ _ _ (getConfiguration_eq_some.1 hconfig).1 hactive.symm hnone
  · refine ⟨iff_of_false (not_not.2 hsame) (Option.some_ne_none versionId), ?_⟩
    rw [ne_comm, or_iff_right (Option.some_ne_none versionId)]

theorem applyOverlay_run {ctx : ResolvedContext} {result : Option ℕ} (hskip : args.skipOverlay = false)
    (h : applyOverlay env ids args ctx s = .ok (result, s')) :
    ∃ configurationId, result = some configurationId ∧
      executeOverlay env ids ctx.tenantId ctx.pipelineId args.processTemplateCode
        (orElse (some (strip args.publishReason)) defaultPublishReason) s = .ok (configurationId, s') := by
  rw [applyOverlay, if_neg (by simp [hskip])] at h
  simp only [bind_eq_ok, pure_eq_ok, Prod.exists, Prod.mk.injEq] at h
  obtain ⟨configurationId, s₁, hexecute, rfl, rfl⟩ := h
  exact ⟨configurationId, rfl, hexecute⟩

theorem performs_new (hplanned : plan.overlay.configurationId = none)
    (hsteps : plan.overlay.steps = [⟨"seed_catalog", none⟩, createStep, publishStep, setActiveStep, activateStep])
    (hfresh : s.overlay.configurations.get? configurationId = none)
    (hconfig : getConfiguration s'.overlay plan.tenantId configurationId = some config)
    (hstate : config.activationState = .active) (hactive : config.activeDefinitionVersionId = some versionId)
    (hget : s.overlay.versions.get? versionId = none) (hget' : s'.overlay.versions.get? versionId ≠ none)
    (hwritten : industryConfig s' plan.tenantId = plan.industryConfig args (industryConfig s plan.tenantId)) :
    Performs plan args (some configurationId) s s' := by
  have hshown : shownConfiguration s.overlay plan.tenantId (some configurationId) = none := by
    rw [shownConfiguration, Option.bind_some, getConfiguration, hfresh]
    rfl
  have hshown' : shownConfiguration s'.overlay plan.tenantId (some configurationId) = some config := hconfig
  exact {
    reuses := fun id h => by
      rw [hplanned] at h
      cases h
    creates := iff_of_true (by rw [hsteps]; decide) ⟨configurationId, rfl, hfresh⟩
    publishes := iff_of_true (by rw [hsteps]; decide) (ne_of_new hget hget')
    setsActive := iff_of_true (.inl (by rw [hsteps]; decide)) (by simp [hshown, hshown', hactive])
    activates := iff_of_true (by rw [hsteps]; decide) (by simp [hshown, hshown', hstate])
    config := hwritten }

theorem performs_existing_iff {reason : String} {matching matching' : Option ℕ} (hkeys : ForeignKeys s.overlay)
    (hplanned : plan.overlay.configurationId = some configurationId)
    (hsteps : plan.overlay.steps = reuseSteps reason config matching)
    (hconfig : getConfiguration s.overlay plan.tenantId configurationId = some config)
    (hconfig' : getConfiguration s'.overlay plan.tenantId configurationId =
      some ((config.setActive versionId).setState .active))
    (hpublished : Published s.overlay s'.overlay versionId matching')
    (hwritten : industryConfig s' plan.tenantId = plan.industryConfig args (industryConfig s plan.tenantId)) :
    Performs plan args (some configurationId) s s' ↔
      (matching = none ↔ matching' = none) ∧
        ((matching = none ∨ config.activeDefinitionVersionId ≠ matching) ↔
          (matching' = none ∨ config.activeDefinitionVersionId ≠ matching')) := by
  obtain ⟨hpublishes, hsets⟩ := changes_iff hkeys hconfig hpublished
  obtain ⟨hcreate, hpublish, hset, hactivate⟩ := reuseSteps_lists reason config matching
  rw [← hsteps] at hcreate hpublish hset hactivate
  have hshown : shownConfiguration s.overlay plan.tenantId (some configurationId) = some config := hconfig
  have hshown' : shownConfiguration s'.overlay plan.tenantId (some configurationId) =
      some ((config.setActive versionId).setState .active) := hconfig'
  refine Iff.trans ?_ (and_congr (iff_congr hpublish hpublishes) (iff_congr hset hsets))
  constructor
  · intro h
    have hsetsActive := h.setsActive
    rw [hshown, hshown'] at hsetsActive
    exact ⟨h.publishes, hsetsActive⟩
  · rintro ⟨hpublishes', hsets'⟩
    exact {
      reuses := fun id h => hplanned.symm.trans h
      creates := iff_of_false hcreate fun ⟨id, hid, hnone⟩ => by
        obtain rfl := Option.some.inj hid
        rw [(getConfiguration_eq_some.1 hconfig).1] at hnone
        cases hnone
      publishes := hpublishes'
      setsActive := by
        rw [hshown, hshown']
        exact hsets'
      activates := by
        rw [hactivate, hshown, hshown', Option.map_some, Option.map_some]
        exact ⟨fun h => ⟨fun hsame => h (Option.some.inj hsame), rfl⟩, fun h hsame => h.1 (congrArg some hsame)⟩
      config := hwritten }

/-- An apply that goes through does the steps of the plan, and no others, exactly when the
seeding leaves the steps as they are. -/
theorem apply_performs_iff {env : Environment} {ids : NewIds} {args : Args} {s s' : State} {plan : DryRunPlan}
    {plan' : ActivationPlan} (hkeys : ForeignKeys s.overlay) (hdry : runDryRun env args s = .ok plan)
    (happly : runApply env ids args s = .ok (plan', s')) :
    Performs plan args plan'.configurationId s s' ↔ Predictable env args s plan.tenantId plan.pipelineId := by
  obtain ⟨ctx, s₀, matched, hcontext, htenant, hpipelineId, hassignee, hoverlay, hmatched, hmerge⟩ := runDryRun_ok hdry
  obtain ⟨ctx', s₀', matched', settings, files, s₁, hcontext', hmatched', happlied, hs', hindustry⟩ :=
    runApply_steps happly
  obtain ⟨rfl, -⟩ := Prod.mk.inj (Except.ok.inj (hcontext.symm.trans hcontext'))
  obtain rfl := Except.ok.inj (hmatched.symm.trans hmatched')
  obtain ⟨-, -, hpipeline⟩ := resolveContext_ok hcontext
  have hwritten : industryConfig s' plan.tenantId = plan.industryConfig args (industryConfig s plan.tenantId) := by
    rw [htenant, hindustry, DryRunPlan.industryConfig, hmerge, hassignee]
    rfl
  rw [← htenant] at hoverlay hpipeline
  cases hskip : args.skipOverlay with
  | true =>
    rw [hskip, buildOverlayPlan, if_pos rfl, pure_eq_ok] at hoverlay
    rw [applyOverlay, if_pos hskip, pure_eq_ok, Prod.mk.injEq] at happlied
    obtain ⟨hid, rfl⟩ := happlied
    refine iff_of_true ?_ (.inl hskip)
    rw [← hid]
    constructor <;> simp [← hoverlay, hs', shownConfiguration, createStep, publishStep, setActiveStep, repinStep,
      activateStep, hwritten]
  | false =>
    rw [hskip] at hoverlay
    obtain ⟨pipelineId, pipeline, templateId, template, stored, hpipeline', htemplate, hstored, hplan⟩ :=
      buildOverlayPlan_ok hoverlay
    obtain ⟨configurationId, hid, hexecute⟩ := applyOverlay_run hskip happlied
    rw [← htenant, ← hpipelineId] at hexecute
    rw [hpipeline', Option.map_some, ← hpipelineId, Option.some.injEq] at hpipeline
    subst hpipeline
    rw [hid]
    rcases hplan with ⟨hnone, hplanned, hsteps⟩ |
      ⟨id, reason, config, matching, hexisting, hconfig, hmatching, hplanned, hsteps⟩
    · obtain ⟨hfresh, versionId, config, hconfig, hstate, hactive, hget, hget'⟩ :=
        executeOverlay_new (s := { s with settings := settings, files := files }) hkeys htemplate hnone hexecute
      refine iff_of_true
        (performs_new hplanned hsteps hfresh (hs' ▸ hconfig) hstate hactive hget (hs' ▸ hget') hwritten)
        (.inr fun templateId' template' _ _ htemplate' _ _ => .inr fun id hid => ?_)
      obtain ⟨rfl, -⟩ := Prod.mk.inj (Option.some.inj (htemplate.symm.trans htemplate'))
      rw [hnone] at hid
      cases hid
    · obtain ⟨rfl, seeded, versionId, hseeded, hconfig', matching', hpublished, hfound⟩ :=
        executeOverlay_existing (s := { s with settings := settings, files := files }) htemplate hexisting hconfig
          hexecute
      rw [predictable_iff hskip htemplate hstored hseeded, hexisting, Option.map_some,
        seedingKeepsPlan_iff hmatching hfound, ← sameSteps_iff hconfig hmatching hfound]
      exact performs_existing_iff hkeys hplanned hsteps hconfig (hs' ▸ hconfig') (hs' ▸ hpublished) hwritten

end Performs

/-! A template that is stored as an earlier release has seeded it. -/

section Example

theorem foreignKeys_single {o : Overlay.State} {version : ProcessDefinitionVersion}
    (hconfigurations : o.configurations.rows = [(1, activeConfiguration)])
    (hversions : o.versions.rows = [(1, version)]) (hof : version.configurationId = 1) : ForeignKeys o := by
  have hconfiguration : o.configurations.get? 1 = some activeConfiguration :=
    Table.mem_rows.1 (hconfigurations ▸ List.mem_singleton_self _)
  have hversion : o.versions.get? 1 = some version := Table.mem_rows.1 (hversions ▸ List.mem_singleton_self _)
  constructor
  · intro id found hget
    rw [← Table.mem_rows, hversions, List.mem_singleton, Prod.mk.injEq] at hget
    rw [hget.2, hof, hconfiguration]
    exact Option.some_ne_none activeConfiguration
  · intro id config versionId hget hactive
    rw [← Table.mem_rows, hconfigurations, List.mem_singleton, Prod.mk.injEq] at hget
    rw [hget.2] at hactive
    obtain rfl : 1 = versionId := Option.some.inj hactive
    rw [hversion]
    exact Option.some_ne_none version

theorem nodup_one : [1].Nodup := List.nodup_singleton 1

/-- The beginning of a text is enough of a hash to tell the policies of the example apart. -/
def shortEnvironment : Environment := { exampleEnvironment with sha256 := fun text => String.ofList (text.take 25) }

def earlierPolicy : PolicySnapshot :=
  { salesPolicy [] with processTemplateCode := flexitySalesTemplate, moduleRequirements := [] }

/-- The configuration is active at a version of the policy that is stored. -/
def earlierTenant : State :=
  { activeTenant [] with
    overlay := { (activeTenant []).overlay with
      stages := intakeStages
      templates := ⟨[(1, flexitySalesTemplate)], nodup_one⟩
      versions := ⟨[(1, {
        tenantId := 1
        configurationId := 1
        versionNumber := 1
        pipelineId := 1
        pipelineCode := flexitySalesPipeline
        stageCodes := ["new_lead"]
        policySnapshot := earlierPolicy
        moduleRequirements := []
        publishReason := "Launch" })], nodup_one⟩ }
    columns := ⟨[(1, ⟨flexitySalesPipeline, earlierPolicy, true⟩)], nodup_one⟩ }

def intakeArgs : Args :=
  { applyArgs with
    expectedConfigHash := canonicalJsonHash shortEnvironment (industryConfig earlierTenant 1)
    processTemplateCode := flexitySalesTemplate }

def salesArgs : Args := { intakeArgs with processTemplateCode := "sales_short" }

/-- Whether a version is planned and whether the apply leaves a new one. -/
def predictionOutcome (args : Args) (s : State) : Except OpsError (Bool × Bool) := do
  let plan ← runDryRun shortEnvironment args s
  let (_, s') ← runApply shortEnvironment exampleIds args s
  return (decide (publishStep ∈ plan.overlay.steps), (s'.overlay.versions.get? 2).isSome)

theorem exists_prediction {args : Args} {s : State} {planned published : Bool}
    (h : predictionOutcome args s = .ok (planned, published)) :
    ∃ plan plan' s', runDryRun shortEnvironment args s = .ok plan ∧
      runApply shortEnvironment exampleIds args s = .ok (plan', s') ∧
      decide (publishStep ∈ plan.overlay.steps) = planned ∧ (s'.overlay.versions.get? 2).isSome = published := by
  simp only [predictionOutcome, bind_eq_ok, pure_eq_ok, Prod.exists, Prod.mk.injEq] at h
  obtain ⟨plan, hdry, plan', s', happly, hplanned, hpublished⟩ := h
  exact ⟨plan, plan', s', hdry, happly, hplanned, hpublished⟩

theorem predictionOutcomes : predictionOutcome intakeArgs earlierTenant = .ok (false, true) ∧
    predictionOutcome salesArgs (activeTenant ["new_lead"]) = .ok (false, false) := by
  decide +kernel

/-- The plan for the stored template has nothing to publish; the apply seeds the template and
publishes a version of its policy. -/
theorem earlier_template_not_predicted : ∃ plan plan' s', ForeignKeys earlierTenant.overlay ∧
    runDryRun shortEnvironment intakeArgs earlierTenant = .ok plan ∧
    runApply shortEnvironment exampleIds intakeArgs earlierTenant = .ok (plan', s') ∧
    ¬ Performs plan intakeArgs plan'.configurationId earlierTenant s' := by
  obtain ⟨plan, plan', s', hdry, happly, hplanned, hpublished⟩ := exists_prediction predictionOutcomes.1
  refine ⟨plan, plan', s', foreignKeys_single rfl rfl rfl, hdry, happly, fun h => ?_⟩
  refine absurd (h.publishes.2 fun hsame => ?_) (of_decide_eq_false hplanned)
  rw [hsame] at hpublished
  cases hpublished

theorem apply_performs_iff_sales : ∃ plan plan' s',
    runDryRun shortEnvironment salesArgs (activeTenant ["new_lead"]) = .ok plan ∧
      runApply shortEnvironment exampleIds salesArgs (activeTenant ["new_lead"]) = .ok (plan', s') ∧
      (Performs plan salesArgs plan'.configurationId (activeTenant ["new_lead"]) s' ↔
        Predictable shortEnvironment salesArgs (activeTenant ["new_lead"]) plan.tenantId plan.pipelineId) := by
  obtain ⟨plan, plan', s', hdry, happly, -, -⟩ := exists_prediction predictionOutcomes.2
  exact ⟨plan, plan', s', hdry, happly, apply_performs_iff (foreignKeys_single rfl rfl rfl) hdry happly⟩

end Example

end CoreOps.Ops
