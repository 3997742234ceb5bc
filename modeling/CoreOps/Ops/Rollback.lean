import CoreOps.Ops.Activation

/-! Applying and rolling back. The backup that an apply leaves names the tenant and holds
the industry configuration as it was, and a rollback from it puts it back. Of the process
overlay a rollback does not bring back what was before: it deactivates the configuration
of the sales pipeline, with the version the apply left it. -/

namespace CoreOps.Ops

open Checked Text Overlay

/-- The backup of an apply: the directory of its plan, or the configuration's file in it. -/
def IsBackup (plan : ActivationPlan) (path : BackupPath) : Prop :=
  path = plan.backupPath ∨ path = .file plan.backupPath.resolvedDir industryConfigFile

/-- The files of a directory hold the configuration and a manifest of the tenant. -/
structure BacksUp (files : Table (String × String) (List Char)) (directory : String) (tenantId : ℕ)
    (document : JsonObject) : Prop where
  config : files.get? (directory, industryConfigFile) = some (document.text pretty)
  manifest : ∃ manifest : JsonObject, files.get? (directory, manifestFile) = some (manifest.text pretty) ∧
    manifest.get? "tenant_id" = some (.str (uuidText tenantId))

section Backup

variable {env : Environment} {s s' : State} {directory : String} {tenantId : ℕ} {document : JsonObject}

theorem secureWriteNewFile_ok {name : String} {content : List Char}
    (h : secureWriteNewFile directory name content s = .ok s') :
    s.files.get? (directory, name) = none ∧ s' = { s with files := s.files.insert (directory, name) content } := by
  simp only [secureWriteNewFile, bind_eq_ok, raiseIf_eq_ok, pure_eq_ok, Option.not_isSome_iff_eq_none] at h
  obtain ⟨-, hnone, rfl⟩ := h
  exact ⟨hnone, rfl⟩

theorem backupManifest_tenantId (env : Environment) (tenantId operatorUserId : ℕ) (configHash : String) :
    (backupManifest env tenantId operatorUserId configHash).get? "tenant_id" = some (.str (uuidText tenantId)) := by
  rw [backupManifest, JsonObject.get?_ofList]
  rfl

theorem writeBackup_ok {ctx : ResolvedContext} (h : writeBackup env directory ctx s = .ok s') :
    BacksUp s'.files directory ctx.tenantId ctx.industryConfig ∧ s' = { s with files := s'.files } := by
  simp only [writeBackup, bind_eq_ok] at h
  obtain ⟨s₁, hconfig, hmanifest⟩ := h
  obtain ⟨hnew, rfl⟩ := secureWriteNewFile_ok hconfig
  obtain ⟨hnew', rfl⟩ := secureWriteNewFile_ok hmanifest
  refine ⟨⟨?_, _, ?_, backupManifest_tenantId env ctx.tenantId ctx.operatorUserId ctx.configHash⟩, rfl⟩
  · rw [Table.get?_insert_new _ _ _ hnew', Table.get?_insert_new _ _ _ hnew]
    simp [industryConfigFile, manifestFile]
  · rw [Table.get?_insert_new _ _ _ hnew', if_pos rfl]

theorem finalizeBackupManifest_ok {configHash : String} (h : finalizeBackupManifest directory configHash s = .ok s')
    (hbackup : BacksUp s.files directory tenantId document) :
    BacksUp s'.files directory tenantId document ∧ s' = { s with files := s'.files } := by
  obtain ⟨hconfig, manifest, hmanifest, htenant⟩ := hbackup
  simp only [finalizeBackupManifest, bind_eq_ok, orRaise_eq_ok, pure_eq_ok, hmanifest] at h
  obtain ⟨content, hcontent, read, hread, rfl⟩ := h
  cases hcontent
  rw [JsonObject.ofText?_text] at hread
  cases hread
  refine ⟨⟨?_, manifest.set "config_hash_after" (.str configHash) (.str _), ?_, ?_⟩, rfl⟩
  · rw [Table.get?_modify_of_ne _ (by simp [industryConfigFile, manifestFile])]
    exact hconfig
  · rw [Table.get?_modify_self, hmanifest]
    rfl
  · rw [JsonObject.get?_set, if_neg (by decide), htenant]

theorem uuidText_injective {a b : ℕ} (h : uuidText a = uuidText b) : a = b := by
  have hdigits := congrArg (fun t : String => Nat.ofDigitChars 10 t.toList 0) h
  simpa [uuidText] using hdigits

theorem uuidText_ne_empty (id : ℕ) : uuidText id ≠ "" := by
  intro h
  have hdigits := congrArg String.toList h
  simp [uuidText, Nat.toDigits_ne_nil] at hdigits

/-- A backup is loaded for its own tenant only, and gives the configuration. -/
theorem loadBackupManifest_ok {path : BackupPath} {tenantId' : ℕ} {manifest industryConfig : JsonObject}
    (hbackup : BacksUp s.files path.resolvedDir tenantId document) (hfile : path.configFile = industryConfigFile)
    (h : loadBackupManifest env path tenantId' s = .ok (manifest, industryConfig)) :
    tenantId' = tenantId ∧ industryConfig = document := by
  obtain ⟨hconfig, written, hmanifest, htenant⟩ := hbackup
  simp only [loadBackupManifest, validateBackupManifest, hfile, hconfig, hmanifest, bind_eq_ok, orRaise_eq_ok,
    raiseIf_eq_ok, pure_eq_ok] at h
  obtain ⟨content, hcontent, read, hread, loaded, hloaded, u, ⟨-, -, -, -, -, hsame, -⟩, heq⟩ := h
  cases hcontent
  rw [JsonObject.ofText?_text] at hread hloaded
  cases hread
  cases hloaded
  cases heq
  refine ⟨?_, rfl⟩
  simp only [htenant, Option.any_some, Json.truthy, sameScalar, decide_eq_true_eq, decide_not, Bool.not_eq_true',
    decide_eq_false_iff_not, not_and, not_not] at hsame
  exact (uuidText_injective (hsame (uuidText_ne_empty tenantId))).symm

end Backup

section Settings

variable (s : State) (tenantId : ℕ)

/-- Loading the settings creates them if need be, and changes nothing else. -/
theorem loadTenantSettings_eq :
    (loadTenantSettings s tenantId).settings.get? tenantId = some (industryConfig s tenantId) ∧
      loadTenantSettings s tenantId = { s with settings := (loadTenantSettings s tenantId).settings } := by
  unfold loadTenantSettings industryConfig
  by_cases h : s.settings.get? tenantId = none
  · rw [if_pos h, h]
    refine ⟨?_, rfl⟩
    rw [Table.get?_insert_new _ _ _ h, if_pos rfl, Option.getD_none]
  · obtain ⟨c, hc⟩ := Option.ne_none_iff_exists'.1 h
    rw [if_neg h, hc]
    exact ⟨rfl, rfl⟩

theorem industryConfig_set (document : JsonObject) :
    industryConfig ((loadTenantSettings s tenantId).setIndustryConfig tenantId document) tenantId = document := by
  rw [industryConfig, State.setIndustryConfig, Table.get?_modify_self, (loadTenantSettings_eq s tenantId).1]
  rfl

end Settings

section Apply

variable {env : Environment} {ids : NewIds} {args : Args} {s s' : State} {tenantId : ℕ}

theorem resolveContext_ok {ctx : ResolvedContext} (h : resolveContext s env args = .ok (ctx, s')) :
    ctx.industryConfig = industryConfig s ctx.tenantId ∧ s' = loadTenantSettings s ctx.tenantId ∧
      (getPipelineByCode s ctx.tenantId flexitySalesPipeline).map Prod.fst = some ctx.pipelineId := by
  simp only [resolveContext, bind_eq_ok, orRaise_eq_ok, raiseIf_eq_ok, pure_eq_ok, Prod.exists, Prod.mk.injEq] at h
  obtain ⟨tenantId, tenant, -, operatorUserId, -, _, -, _, -, _, -, pipelineId, pipeline, hpipeline, assigneeUserId, -,
    _, -, _, -, _, -, rfl, rfl⟩ := h
  exact ⟨rfl, rfl, by rw [hpipeline]; rfl⟩

theorem applyConfig_ok {merged : JsonObject} {block : LeadAutomationBlock} {configChanged : Bool}
    (h : applyConfig tenantId merged block configChanged s = .ok s') :
    s' = { s with settings := s'.settings } := by
  unfold applyConfig at h
  split at h
  · simp only [bind_eq_ok, pure_eq_ok] at h
    obtain ⟨-, -, rfl⟩ := h
    rfl
  · rw [pure_eq_ok] at h
    rw [h]

end Apply

/-! The configuration of the pipeline. -/

section Configuration

variable {o o' : Overlay.State} {tenantId pipelineId configurationId : ℕ} {config : TenantProcessConfiguration}

theorem setState_of_eq {state : ProcessOverlayActivationState} (h : config.activationState = state) :
    config.setState state = config := by
  subst h
  rfl

theorem getConfigurationByPipeline_some
    (h : getConfigurationByPipeline o tenantId pipelineId = some (configurationId, config)) :
    o.configurations.get? configurationId = some config ∧ config.tenantId = tenantId ∧
      config.pipelineId = pipelineId := by
  have hmem := List.mem_of_find?_eq_some h
  have hprop := List.find?_some h
  simp only [decide_eq_true_eq] at hprop
  exact ⟨Table.mem_rows.1 hmem, hprop⟩

/-- A change that leaves a configuration with its tenant and its pipeline leaves it the
one of the pipeline. -/
theorem getConfigurationByPipeline_modify {f : TenantProcessConfiguration → TenantProcessConfiguration}
    (hf : ∀ c, (f c).tenantId = c.tenantId ∧ (f c).pipelineId = c.pipelineId) :
    getConfigurationByPipeline (o.modifyConfiguration configurationId f) tenantId pipelineId =
      (getConfigurationByPipeline o tenantId pipelineId).map fun r =>
        if r.1 = configurationId then (r.1, f r.2) else r := by
  simp only [getConfigurationByPipeline, State.modifyConfiguration, Table.modify, List.find?_map]
  congr 2
  funext r
  by_cases h : r.1 = configurationId <;> simp [h, hf r.2]

/-- Of the configurations, that of the pipeline is deactivated, and nothing else. -/
structure Deactivated (o o' : Overlay.State) (tenantId pipelineId : ℕ) : Prop where
  pipeline : ∀ id config, getConfigurationByPipeline o tenantId pipelineId = some (id, config) →
    o'.configurations.get? id = some (config.setState .inactive)
  others : ∀ id, (∀ config, getConfigurationByPipeline o tenantId pipelineId ≠ some (id, config)) →
    o'.configurations.get? id = o.configurations.get? id

theorem deactivateConfiguration_ok (hconfig : o.configurations.get? configurationId = some config)
    (h : deactivateConfiguration tenantId configurationId o = .ok o') :
    o'.configurations.get? configurationId = some (config.setState .inactive) ∧
      ∀ id, id ≠ configurationId → o'.configurations.get? id = o.configurations.get? id := by
  simp only [deactivateConfiguration, configurationOrRaise, bind_eq_ok, orRaise_eq_ok, getConfiguration_eq_some] at h
  obtain ⟨config', ⟨hget, -⟩, h⟩ := h
  obtain rfl := Option.some.inj (hconfig.symm.trans hget)
  split at h <;> rename_i hstate <;> rw [pure_eq_ok] at h <;> subst h
  · exact ⟨by rw [setState_of_eq hstate, hconfig], fun _ _ => rfl⟩
  · refine ⟨?_, fun id hid => ?_⟩
    · rw [State.modifyConfiguration, Table.get?_modify_self, hconfig, Option.map_some]
    · rw [State.modifyConfiguration, Table.get?_modify_of_ne _ hid]

theorem rollbackOverlay_ok {result : Option ℕ}
    (h : rollbackOverlay tenantId (some pipelineId) o = .ok (result, o')) : Deactivated o o' tenantId pipelineId := by
  unfold rollbackOverlay at h
  split at h
  · rename_i hnone
    rw [Option.bind_some] at hnone
    rw [pure_eq_ok] at h
    cases h
    exact ⟨fun id config hsome => absurd (hnone.symm.trans hsome) (by simp), fun _ _ => rfl⟩
  · rename_i id config hsome
    rw [Option.bind_some] at hsome
    simp only [bind_eq_ok, mapError_eq_ok, pure_eq_ok, Prod.mk.injEq] at h
    obtain ⟨o₁, hdeactivate, -, rfl⟩ := h
    obtain ⟨hget, hothers⟩ := deactivateConfiguration_ok (getConfigurationByPipeline_some hsome).1 hdeactivate
    refine ⟨fun id' config' hsome' => ?_, fun id' hne => hothers id' ?_⟩
    · obtain ⟨rfl, rfl⟩ := Prod.mk.inj (Option.some.inj (hsome.symm.trans hsome'))
      exact hget
    · rintro rfl
      exact hne config hsome

theorem activateConfiguration_ok (h : activateConfiguration tenantId configurationId o = .ok o') :
    ∃ config, o.configurations.get? configurationId = some config ∧
      (o' = o ∧ config.activationState = .active ∨
        o' = o.modifyConfiguration configurationId (TenantProcessConfiguration.setState .active)) := by
  simp only [activateConfiguration, configurationOrRaise, bind_eq_ok, orRaise_eq_ok, getConfiguration_eq_some] at h
  obtain ⟨config, ⟨hget, -⟩, h⟩ := h
  split at h <;> rename_i hstate
  · rw [pure_eq_ok] at h
    exact ⟨config, hget, .inl ⟨h.symm, hstate⟩⟩
  · simp only [bind_eq_ok, pure_eq_ok] at h
    obtain ⟨_, -, rfl⟩ := h
    exact ⟨config, hget, .inr rfl⟩

/-- The configuration of the pipeline after its activation. -/
theorem getConfigurationByPipeline_activate
    (hsome : getConfigurationByPipeline o tenantId pipelineId = some (configurationId, config))
    (h : activateConfiguration tenantId configurationId o = .ok o') :
    getConfigurationByPipeline o' tenantId pipelineId = some (configurationId, config.setState .active) := by
  obtain ⟨config', hget, ⟨rfl, hstate⟩ | rfl⟩ := activateConfiguration_ok h
  · obtain rfl := Option.some.inj ((getConfigurationByPipeline_some hsome).1.symm.trans hget)
    rw [hsome, setState_of_eq hstate]
  · rw [getConfigurationByPipeline_modify (f := TenantProcessConfiguration.setState .active) fun _ => ⟨rfl, rfl⟩, hsome,
      Option.map_some, if_pos rfl]

end Configuration

/-! What an apply does to the process overlay. -/

section Overlay

variable {env : Environment} {ids : NewIds} {args : Args} {s s' : State} {o o' : Overlay.State}
variable {tenantId pipelineId configurationId : ℕ} {config : TenantProcessConfiguration}

/-- The configuration is pinned to a version of the policy that an apply brings it to. -/
def Pinned (env : Environment) (ids : NewIds) (args : Args) (s : State) (tenantId configurationId : ℕ)
    (config : TenantProcessConfiguration) : Prop :=
  ∃ seeded policy, seedTemplates ids.templateId s = .ok seeded ∧
    desiredPolicy args.processTemplateCode seeded = .ok policy ∧
    activeVersionMatches env s.overlay tenantId configurationId config (policyFingerprint env policy.snapshot) = .ok true

theorem seedTemplates_ok {templateId : ℕ} (h : seedTemplates templateId s = .ok s') :
    ∃ templates columns, s' = { s with overlay := { s.overlay with templates := templates }, columns := columns } := by
  unfold seedTemplates upsertTemplate at h
  split at h
  · rw [pure_eq_ok] at h
    exact ⟨s.overlay.templates, _, h.symm⟩
  · simp only [bind_eq_ok, raiseIf_eq_ok, pure_eq_ok] at h
    obtain ⟨-, -, rfl⟩ := h
    exact ⟨_, _, rfl⟩

theorem configurationFor_keeps {code : String} (h : configurationFor ids.configurationId tenantId pipelineId code s =
    .ok (configurationId, o)) : KeepsRuntime s.overlay o := by
  unfold configurationFor at h
  split at h
  · rw [pure_eq_ok] at h
    cases h
    exact .refl _
  · simp only [bind_eq_ok, orRaise_eq_ok, Prod.exists] at h
    obtain ⟨templateId, template, -, h⟩ := h
    split at h
    · rw [pure_eq_ok] at h
      cases h
      exact .refl _
    · simp only [bind_eq_ok, mapError_eq_ok, pure_eq_ok, Prod.mk.injEq] at h
      obtain ⟨o₁, hcreate, -, rfl⟩ := h
      obtain ⟨config, -, -, -, -, -, rfl⟩ := createConfiguration_ok hcreate
      exact ⟨rfl, rfl, rfl, rfl, fun _ _ hv => hv⟩

theorem versionFor_keeps {versionId newId : ℕ} {policy : PolicySnapshotV1} {reason : String}
    (h : versionFor env newId tenantId configurationId policy reason o = .ok (versionId, o')) : KeepsRuntime o o' := by
  simp only [versionFor, bind_eq_ok] at h
  obtain ⟨found, -, h⟩ := h
  split at h
  · rw [pure_eq_ok] at h
    cases h
    exact .refl _
  · simp only [bind_eq_ok, pure_eq_ok, Prod.mk.injEq] at h
    obtain ⟨o₁, hpublish, -, rfl⟩ := h
    exact keepsRuntime_publish hpublish

theorem pinVersion_keeps {versionId : ℕ} (h : pinVersion tenantId configurationId versionId o = .ok o') :
    KeepsRuntime o o' := by
  simp only [pinVersion, bind_eq_ok] at h
  obtain ⟨config, -, h⟩ := h
  split at h
  · exact keepsRuntime_setActive h
  · rw [pure_eq_ok] at h
    exact h ▸ .refl o

/-- The steps of the overlay's part, one after the other. -/
theorem executeOverlay_ok {code reason : String}
    (h : executeOverlay env ids tenantId pipelineId code reason s = .ok (configurationId, s')) :
    ∃ seeded o₁ policy versionId o₂ o₃, seedTemplates ids.templateId s = .ok seeded ∧
      configurationFor ids.configurationId tenantId pipelineId code seeded = .ok (configurationId, o₁) ∧
      desiredPolicy code { seeded with overlay := o₁ } = .ok policy ∧
      versionFor env ids.versionId tenantId configurationId policy reason o₁ = .ok (versionId, o₂) ∧
      pinVersion tenantId configurationId versionId o₂ = .ok o₃ ∧
      activateConfiguration tenantId configurationId o₃ = .ok s'.overlay ∧
      s' = { seeded with overlay := s'.overlay } := by
  simp only [executeOverlay, bind_eq_ok, mapError_eq_ok, pure_eq_ok, Prod.exists, Prod.mk.injEq] at h
  obtain ⟨seeded, hseeded, id, o₁, hconfiguration, policy, hpolicy, versionId, o₂, hversion, o₃, hpin, o₄, hactivate,
    rfl, rfl⟩ := h
  exact ⟨seeded, o₁, policy, versionId, o₂, o₃, hseeded, hconfiguration, hpolicy, hversion, hpin, hactivate, rfl⟩

theorem executeOverlay_keeps {code reason : String}
    (h : executeOverlay env ids tenantId pipelineId code reason s = .ok (configurationId, s')) :
    KeepsRuntime s.overlay s'.overlay ∧ s' = { s with overlay := s'.overlay, columns := s'.columns } := by
  obtain ⟨seeded, o₁, policy, versionId, o₂, o₃, hseeded, hconfiguration, -, hversion, hpin, hactivate, hs'⟩ :=
    executeOverlay_ok h
  obtain ⟨templates, columns, rfl⟩ := seedTemplates_ok hseeded
  have hkept : KeepsRuntime { s.overlay with templates := templates } o₁ := configurationFor_keeps hconfiguration
  have hseed : KeepsRuntime s.overlay { s.overlay with templates := templates } := ⟨rfl, rfl, rfl, rfl, fun _ _ h => h⟩
  refine ⟨(hseed.trans hkept).trans ((versionFor_keeps hversion).trans ((pinVersion_keeps hpin).trans
    (keepsRuntime_activate hactivate))), ?_⟩
  rw [hs']

theorem activeVersionMatches_some {fingerprint : String}
    (h : activeVersionMatches env o tenantId configurationId config fingerprint = .ok true) :
    ∃ versionId, config.activeDefinitionVersionId = some versionId := by
  rcases hv : config.activeDefinitionVersionId with _ | versionId
  · simp [activeVersionMatches, hv] at h
  · exact ⟨versionId, rfl⟩

/-- The version that a configuration is pinned to is the one that is found. -/
theorem versionFor_pinned {newId versionId : ℕ} {policy : PolicySnapshotV1} {reason : String}
    (hconfig : getConfiguration o tenantId configurationId = some config)
    (hmatches : activeVersionMatches env o tenantId configurationId config (policyFingerprint env policy.snapshot) =
      .ok true)
    (h : versionFor env newId tenantId configurationId policy reason o = .ok (versionId, o')) :
    o' = o ∧ config.activeDefinitionVersionId = some versionId := by
  obtain ⟨active, hactive⟩ := activeVersionMatches_some hmatches
  have hfound : findMatchingPublishedVersion env o tenantId configurationId (policyFingerprint env policy.snapshot) =
      .ok (some active) := by
    rw [findMatchingPublishedVersion, hconfig, ← hactive]
    simp only [hmatches]
    rfl
  simp only [versionFor, hfound] at h
  cases h
  exact ⟨rfl, hactive⟩

theorem pinVersion_pinned {versionId : ℕ} (hconfig : getConfiguration o tenantId configurationId = some config)
    (hactive : config.activeDefinitionVersionId = some versionId)
    (h : pinVersion tenantId configurationId versionId o = .ok o') : o' = o := by
  simp only [pinVersion, configurationOrRaise, hconfig, bind_eq_ok, orRaise_eq_ok] at h
  obtain ⟨config', hconfig', h⟩ := h
  obtain rfl := Option.some.inj hconfig'
  rw [if_neg (not_not.2 hactive), pure_eq_ok] at h
  exact h.symm

/-- A configuration that is pinned to the policy is activated, with its version. -/
theorem executeOverlay_pinned {reason : String}
    (hsome : getConfigurationByPipeline s.overlay tenantId pipelineId = some (configurationId, config))
    (hpinned : Pinned env ids args s tenantId configurationId config) {id : ℕ}
    (h : executeOverlay env ids tenantId pipelineId args.processTemplateCode reason s = .ok (id, s')) :
    getConfigurationByPipeline s'.overlay tenantId pipelineId = some (configurationId, config.setState .active) := by
  obtain ⟨seeded, o₁, policy, versionId, o₂, o₃, hseeded, hconfiguration, hpolicy, hversion, hpin, hactivate, -⟩ :=
    executeOverlay_ok h
  obtain ⟨seeded', policy', hseeded', hpolicy', hmatches⟩ := hpinned
  obtain rfl := Except.ok.inj (hseeded.symm.trans hseeded')
  obtain ⟨templates, columns, rfl⟩ := seedTemplates_ok hseeded
  have hsome' : getConfigurationByPipeline { s.overlay with templates := templates } tenantId pipelineId =
      some (configurationId, config) := hsome
  obtain ⟨hget, htenant, -⟩ := getConfigurationByPipeline_some hsome'
  have hconfig := getConfiguration_eq_some.2 ⟨hget, htenant⟩
  unfold configurationFor at hconfiguration
  simp only [hsome', pure_eq_ok, Prod.mk.injEq] at hconfiguration
  obtain ⟨rfl, rfl⟩ := hconfiguration
  obtain rfl := Except.ok.inj (hpolicy.symm.trans hpolicy')
  obtain ⟨rfl, hactive⟩ := versionFor_pinned hconfig hmatches hversion
  obtain rfl := pinVersion_pinned hconfig hactive hpin
  exact getConfigurationByPipeline_activate hsome' hactivate

end Overlay

section Run

variable {env env' : Environment} {ids : NewIds} {args : Args} {s s' : State} {plan : ActivationPlan}

/-- Neither the settings nor the files play a part in it. -/
theorem Pinned.frame {tenantId configurationId : ℕ} {config : TenantProcessConfiguration}
    (h : Pinned env ids args s tenantId configurationId config) (settings : Table ℕ JsonObject)
    (files : Table (String × String) (List Char)) :
    Pinned env ids args { s with settings := settings, files := files } tenantId configurationId config := by
  obtain ⟨seeded, policy, hseeded, hpolicy, hmatches⟩ := h
  refine ⟨{ seeded with settings := settings, files := files }, policy, ?_, hpolicy, hmatches⟩
  rcases htemplate : getTemplateByCode s.columns s.overlay flexitySalesTemplate with _ | ⟨id, template⟩ <;>
    simp only [seedTemplates, upsertTemplate, htemplate, bind_eq_ok, raiseIf_eq_ok, pure_eq_ok] at hseeded ⊢
  · obtain ⟨_, hnone, rfl⟩ := hseeded
    exact ⟨⟨⟩, hnone, rfl⟩
  · rw [← hseeded]

theorem applyOverlay_keeps {ctx : ResolvedContext} {configurationId : Option ℕ}
    (h : applyOverlay env ids args ctx s = .ok (configurationId, s')) :
    KeepsRuntime s.overlay s'.overlay ∧ s' = { s with overlay := s'.overlay, columns := s'.columns } := by
  unfold applyOverlay at h
  split at h
  · rw [pure_eq_ok] at h
    cases h
    exact ⟨.refl _, rfl⟩
  · simp only [bind_eq_ok, pure_eq_ok, Prod.exists, Prod.mk.injEq] at h
    obtain ⟨id, s₁, hexecute, -, rfl⟩ := h
    exact executeOverlay_keeps hexecute

/-- What an apply leaves: the backup, and what the overlay's part made of the overlay. -/
theorem runApply_ok (h : runApply env ids args s = .ok (plan, s')) :
    ∃ ctx directory settings files configurationId s₁, ctx.tenantId = plan.tenantId ∧ ctx.pipelineId = plan.pipelineId ∧
      plan.backupPath = .directory directory ∧
      BacksUp s'.files directory plan.tenantId (industryConfig s plan.tenantId) ∧
      (getPipelineByCode s plan.tenantId flexitySalesPipeline).map Prod.fst = some plan.pipelineId ∧
      applyOverlay env ids args ctx { s with settings := settings, files := files } = .ok (configurationId, s₁) ∧
      s'.overlay = s₁.overlay := by
  simp only [runApply, bind_eq_ok, pure_eq_ok, Prod.exists, Prod.mk.injEq] at h
  obtain ⟨_, -, _, -, ctx, s₁, hcontext, directory, -, s₂, hwrite, matched, -, configurationId, s₃, hoverlay, s₄,
    hconfig, s₅, hfinal, rfl, rfl⟩ := h
  obtain ⟨hindustry, rfl, hpipeline⟩ := resolveContext_ok hcontext
  obtain ⟨hbackup, hs₂⟩ := writeBackup_ok hwrite
  obtain ⟨-, hs₃⟩ := applyOverlay_keeps hoverlay
  have hs₄ := applyConfig_ok hconfig
  have hfiles : s₄.files = s₂.files := by rw [hs₄, hs₃]
  rw [← hfiles] at hbackup
  obtain ⟨hbackup', hs₅⟩ := finalizeBackupManifest_ok hfinal hbackup
  rw [hs₂, (loadTenantSettings_eq s ctx.tenantId).2] at hoverlay
  refine ⟨ctx, directory, (loadTenantSettings s ctx.tenantId).settings, s₂.files, configurationId, s₃, rfl, rfl, rfl,
    hindustry ▸ hbackup', hpipeline, hoverlay, ?_⟩
  rw [hs₅, hs₄]

theorem runRollback_ok {directory : String} {tenantId : ℕ} {document : JsonObject}
    (hbackup : BacksUp s.files directory tenantId document)
    (hpath : args.rollbackFrom.resolvedDir = directory ∧ args.rollbackFrom.configFile = industryConfigFile)
    (hne : document ≠ ∅) (h : runRollback env args s = .ok (plan, s')) :
    industryConfig s' tenantId = document ∧
      rollbackOverlay tenantId ((getPipelineByCode s tenantId flexitySalesPipeline).map Prod.fst) s.overlay =
        .ok (plan.configurationId, s'.overlay) := by
  simp only [runRollback, bind_eq_ok, pure_eq_ok, Prod.exists, Prod.mk.injEq] at h
  obtain ⟨tenantId', tenant, -, operatorUserId, -, _, -, manifest, loaded, hload, _, -, configurationId, o, hoverlay,
    rfl, rfl⟩ := h
  obtain ⟨rfl, hfile⟩ := hpath
  obtain ⟨rfl, rfl⟩ := loadBackupManifest_ok hbackup hfile hload
  have hrestored : restoredConfig env (industryConfig (loadTenantSettings s tenantId') tenantId') loaded = loaded := by
    rw [restoredConfig, if_neg]
    intro hempty
    exact hne (JsonObject.ext_members (List.isEmpty_iff.1 hempty))
  have hloaded := (loadTenantSettings_eq s tenantId').2
  refine ⟨?_, ?_⟩
  · rw [hrestored]
    exact industryConfig_set s tenantId' loaded
  · rw [hloaded] at hoverlay
    exact hoverlay

/-- A backup of a plan is the directory of the plan, and names the configuration's file. -/
theorem IsBackup.path {path : BackupPath} {directory : String} (h : IsBackup plan path)
    (hdir : plan.backupPath = .directory directory) :
    path.resolvedDir = directory ∧ path.configFile = industryConfigFile := by
  rcases h with rfl | rfl <;> rw [hdir] <;> exact ⟨rfl, rfl⟩

theorem getPipelineByCode_keeps (h : KeepsRuntime s.overlay s'.overlay) (tenantId : ℕ) (code : String) :
    getPipelineByCode s' tenantId code = getPipelineByCode s tenantId code := by
  rw [getPipelineByCode, getPipelineByCode, h.pipelines]

/-- An apply that is skipped, or that finds the configuration pinned to the policy, keeps
the version of the pipeline's configuration. -/
theorem applyOverlay_version {ctx : ResolvedContext} {result : Option ℕ} {configurationId : ℕ}
    {config : TenantProcessConfiguration}
    (hsome : getConfigurationByPipeline s.overlay ctx.tenantId ctx.pipelineId = some (configurationId, config))
    (hversion : args.skipOverlay = true ∨ Pinned env ids args s ctx.tenantId configurationId config)
    (h : applyOverlay env ids args ctx s = .ok (result, s')) :
    ∃ state, getConfigurationByPipeline s'.overlay ctx.tenantId ctx.pipelineId =
      some (configurationId, config.setState state) := by
  unfold applyOverlay at h
  split at h
  · rw [pure_eq_ok] at h
    cases h
    exact ⟨config.activationState, by rw [hsome, setState_of_eq rfl]⟩
  · rename_i hskip
    simp only [bind_eq_ok, pure_eq_ok, Prod.exists, Prod.mk.injEq] at h
    obtain ⟨id, s₁, hexecute, -, rfl⟩ := h
    exact ⟨.active, executeOverlay_pinned hsome (hversion.resolve_left hskip) hexecute⟩

end Run

/-- After an apply and a rollback from its backup, the industry configuration is what it
was, unless it was empty. The configuration of the pipeline is deactivated, with the
version it had if the apply was to skip the overlay or found it pinned to the policy;
the other configurations are as the apply left them. -/
theorem rollback_restores {env env' : Environment} {ids : NewIds} {args args' : Args} {s s₁ s₂ : State}
    {plan plan' : ActivationPlan} (happly : runApply env ids args s = .ok (plan, s₁))
    (hrollback : runRollback env' args' s₁ = .ok (plan', s₂)) (hbackup : IsBackup plan args'.rollbackFrom)
    (hne : industryConfig s plan.tenantId ≠ ∅) :
    industryConfig s₂ plan.tenantId = industryConfig s plan.tenantId ∧
      Deactivated s₁.overlay s₂.overlay plan.tenantId plan.pipelineId ∧
      ∀ configurationId config,
        getConfigurationByPipeline s.overlay plan.tenantId plan.pipelineId = some (configurationId, config) →
        args.skipOverlay = true ∨ Pinned env ids args s plan.tenantId configurationId config →
        s₂.overlay.configurations.get? configurationId = some (config.setState .inactive) := by
  obtain ⟨ctx, directory, settings, files, result, so, htenant, hpipelineId, hdir, hfiles, hpipeline, hoverlay, hs₁⟩ :=
    runApply_ok happly
  obtain ⟨hindustry, hdeactivate⟩ := runRollback_ok hfiles (hbackup.path hdir) hne hrollback
  have hkept : KeepsRuntime s.overlay s₁.overlay := hs₁ ▸ (applyOverlay_keeps hoverlay).1
  rw [getPipelineByCode_keeps hkept, hpipeline] at hdeactivate
  have hdeactivated := rollbackOverlay_ok hdeactivate
  refine ⟨hindustry, hdeactivated, fun configurationId config hsome hversion => ?_⟩
  rw [← htenant, ← hpipelineId] at hsome
  rw [← htenant] at hversion
  obtain ⟨state, hafter⟩ := applyOverlay_version (s := { s with settings := settings, files := files }) hsome
    (hversion.imp_right fun h => h.frame settings files) hoverlay
  rw [htenant, hpipelineId, ← hs₁] at hafter
  have hinactive := hdeactivated.pipeline _ _ hafter
  exact hinactive

/-! A tenant whose sales pipeline has an active configuration. -/

section Example

def salesPolicy (terminalStageCodes : List String) : PolicySnapshot where
  schemaVersion := 1
  processTemplateCode := "sales_short"
  pipelineCode := flexitySalesPipeline
  stageCodes := ["new_lead"]
  transitions := []
  moduleRequirements := ["crm"]
  terminalStageCodes := terminalStageCodes

def activeConfiguration : TenantProcessConfiguration := ⟨1, 1, 1, .active, some 1⟩

theorem nodup_crm : ([("crm", (⟨.internal, [], true⟩ : Modules.ModuleDefinition))].map Prod.fst).Nodup := by decide

/-- The configuration is at a version with the terminal stages; the template has none. -/
def activeTenant (terminalStageCodes : List String) : State where
  overlay := {
    pipelines := ⟨[(1, ⟨1, flexitySalesPipeline⟩)], by decide⟩
    stages := ⟨⟨[(1, ⟨1, "new_lead", 1, false⟩)], by decide⟩, fun i j a b hi hj _ _ => by
      rw [← Table.mem_rows] at hi hj
      simp only [List.mem_singleton, Prod.mk.injEq] at hi hj
      exact hi.1.trans hj.1.symm⟩
    workItems := ∅
    parties := ∅
    templates := ⟨[(1, "sales_short")], by decide⟩
    configurations := ⟨[(1, activeConfiguration)], by decide⟩
    versions := ⟨[(1, {
      tenantId := 1
      configurationId := 1
      versionNumber := 1
      pipelineId := 1
      pipelineCode := flexitySalesPipeline
      stageCodes := ["new_lead"]
      policySnapshot := salesPolicy terminalStageCodes
      moduleRequirements := ["crm"]
      publishReason := "Launch" })], List.nodup_singleton 1⟩
    runs := []
    modules := {
      definitions := ⟨[("crm", ⟨.internal, [], true⟩)], nodup_crm⟩
      tenantModules := ⟨[((1, "crm"), ⟨.enabled, .internal, none, []⟩),
        ((1, "parties"), ⟨.enabled, .internal, none, []⟩)], by decide⟩
      tenants := ⟨[(1, 1)], by decide⟩
      plans := ∅
      subscriptions := ∅
      providers := ∅
      activeConnections := [] } }
  columns := ⟨[(1, ⟨flexitySalesPipeline, salesPolicy [], true⟩)], by decide⟩
  tenants := ⟨[(1, ⟨1, "flexity-sales", .active⟩)], by decide⟩
  users := ⟨[(7, ⟨true, []⟩), (8, ⟨true, []⟩)], by decide⟩
  memberships := [⟨1, 7, true⟩, ⟨1, 8, true⟩]
  settings := ⟨[(1, .ofList [("locale", .str "ru")] (by simp))], by decide⟩
  files := ∅

/-- The length of a text is enough of a hash to tell the texts of the example apart. -/
def exampleEnvironment : Environment where
  sha256 := fun text => toString text.length
  migration0024 := .ok ()
  resolveAndValidateBackupDir := .ok
  now := "2026-07-20T09:00:00+00:00"
  uuid4 := 99

def exampleIds : NewIds := ⟨2, 2, 2⟩

def applyArgs : Args where
  tenantSlug := "flexity-sales"
  tenantId := none
  pipelineCode := flexitySalesPipeline
  assigneeUserId := some 8
  operatorUserId := some 7
  expectedConfigHash := "15"
  processTemplateCode := "sales_short"
  publishReason := defaultPublishReason
  slaMinutes := defaultSlaMinutes
  taskTemplateCode := defaultTaskTemplateCode
  noCreateActivity := false
  backupDir := "/tmp/backup"
  rollbackFrom := .directory "/tmp/backup"
  skipOverlay := false

def rollbackArgs : Args := { applyArgs with expectedConfigHash := "" }

/-- What the plan of the apply names, and the configuration after the rollback. -/
def exampleOutcome (terminalStageCodes : List String) :
    Except OpsError ((ℕ × ℕ × BackupPath) × Option TenantProcessConfiguration) := do
  let (plan, s₁) ← runApply exampleEnvironment exampleIds applyArgs (activeTenant terminalStageCodes)
  let (_, s₂) ← runRollback exampleEnvironment rollbackArgs s₁
  return ((plan.tenantId, plan.pipelineId, plan.backupPath), s₂.overlay.configurations.get? 1)

theorem exampleOutcome_ok {terminalStageCodes : List String} {config : TenantProcessConfiguration}
    (h : exampleOutcome terminalStageCodes = .ok ((1, 1, .directory "/tmp/backup"), some config)) :
    ∃ plan s₁ plan' s₂,
      runApply exampleEnvironment exampleIds applyArgs (activeTenant terminalStageCodes) = .ok (plan, s₁) ∧
      runRollback exampleEnvironment rollbackArgs s₁ = .ok (plan', s₂) ∧
      (plan.tenantId = 1 ∧ plan.pipelineId = 1 ∧ plan.backupPath = .directory "/tmp/backup") ∧
      s₂.overlay.configurations.get? 1 = some config := by
  simp only [exampleOutcome, bind_eq_ok, pure_eq_ok, Prod.exists, Prod.mk.injEq] at h
  obtain ⟨plan, s₁, happly, plan', s₂, hrollback, hplan, hconfig⟩ := h
  exact ⟨plan, s₁, plan', s₂, happly, hrollback, hplan, hconfig⟩

theorem exampleOutcomes :
    exampleOutcome ["new_lead"] = .ok ((1, 1, .directory "/tmp/backup"), some ⟨1, 1, 1, .inactive, some 2⟩) ∧
      exampleOutcome [] = .ok ((1, 1, .directory "/tmp/backup"), some (activeConfiguration.setState .inactive)) ∧
      (do
        let seeded ← seedTemplates exampleIds.templateId (activeTenant [])
        let policy ← desiredPolicy applyArgs.processTemplateCode seeded
        (activeVersionMatches exampleEnvironment (activeTenant []).overlay 1 1 activeConfiguration
          (policyFingerprint exampleEnvironment policy.snapshot)).mapError OpsError.overlay) = .ok true := by
  decide +kernel

/-- A configuration that was active, at a version of another policy, is inactive after the
rollback, at the version of the apply. -/
theorem rollback_deactivates : ∃ plan s₁ plan' s₂ config,
    runApply exampleEnvironment exampleIds applyArgs (activeTenant ["new_lead"]) = .ok (plan, s₁) ∧
      runRollback exampleEnvironment rollbackArgs s₁ = .ok (plan', s₂) ∧ IsBackup plan rollbackArgs.rollbackFrom ∧
      (activeTenant ["new_lead"]).overlay.configurations.get? 1 = some activeConfiguration ∧
      s₂.overlay.configurations.get? 1 = some config ∧
      config.activationState ≠ activeConfiguration.activationState ∧
      config.activeDefinitionVersionId ≠ activeConfiguration.activeDefinitionVersionId := by
  obtain ⟨plan, s₁, plan', s₂, happly, hrollback, ⟨-, -, hdir⟩, hconfig⟩ := exampleOutcome_ok exampleOutcomes.1
  exact ⟨plan, s₁, plan', s₂, _, happly, hrollback, .inl hdir.symm, rfl, hconfig, by decide, by decide⟩

theorem activeTenant_pinned :
    Pinned exampleEnvironment exampleIds applyArgs (activeTenant []) 1 1 activeConfiguration := by
  have hmatches := exampleOutcomes.2.2
  simp only [bind_eq_ok, mapError_eq_ok] at hmatches
  obtain ⟨seeded, hseeded, policy, hpolicy, hmatches⟩ := hmatches
  exact ⟨seeded, policy, hseeded, hpolicy, hmatches⟩

theorem rollback_restores_pinned : ∃ plan s₁ plan' s₂,
    runApply exampleEnvironment exampleIds applyArgs (activeTenant []) = .ok (plan, s₁) ∧
      runRollback exampleEnvironment rollbackArgs s₁ = .ok (plan', s₂) ∧
      industryConfig s₂ 1 = industryConfig (activeTenant []) 1 ∧ Deactivated s₁.overlay s₂.overlay 1 1 ∧
      s₂.overlay.configurations.get? 1 = some (activeConfiguration.setState .inactive) := by
  obtain ⟨plan, s₁, plan', s₂, happly, hrollback, ⟨htenant, hpipeline, hdir⟩, -⟩ :=
    exampleOutcome_ok exampleOutcomes.2.1
  have hne : industryConfig (activeTenant []) plan.tenantId ≠ ∅ := by
    rw [htenant]
    intro h
    exact absurd (congrArg (fun o : JsonObject => o.members.isEmpty) h) (by decide)
  obtain ⟨hindustry, hdeactivated, hpinned⟩ := rollback_restores happly hrollback (.inl hdir.symm) hne
  rw [htenant] at hindustry hdeactivated hpinned
  rw [hpipeline] at hdeactivated hpinned
  exact ⟨plan, s₁, plan', s₂, happly, hrollback, hindustry, hdeactivated,
    hpinned 1 activeConfiguration rfl (.inr activeTenant_pinned)⟩

end Example

end CoreOps.Ops
