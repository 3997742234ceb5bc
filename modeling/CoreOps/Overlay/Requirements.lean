import CoreOps.Modules.DependencyClosure
import CoreOps.Overlay.Frame

/-! The modules an active configuration requires. A version of a configuration takes
effect in two ways: the configuration is activated, which checks the requirements of its
version, or it is active and switches to the version, which checks nothing. Whenever a
version comes into effect, its requirements are met exactly when the switches are made
to versions that find theirs met. -/

namespace CoreOps.Overlay

open Checked

/-- The columns of a process template besides its code. -/
structure ProcessTemplate where
  defaultPipelineCode : String
  defaultPolicyBlueprint : PolicySnapshot
  isActive : Bool
  deriving DecidableEq, Repr

section Create

variable (columns : Table ℕ ProcessTemplate)

/-- `get_template_by_code`, with the id of the template. -/
def getTemplateByCode (s : State) (code : String) : Option (ℕ × ProcessTemplate) :=
  (s.templates.rows.find? fun r => r.2 = code).bind fun r => (columns.get? r.1).map fun t => (r.1, t)

/-- `list_configurations`: in the order they were created. -/
def listConfigurations (s : State) (tenantId : ℕ) : List (ℕ × TenantProcessConfiguration) :=
  s.configurations.rows.filter fun r => r.2.tenantId = tenantId

def createConfiguration (tenantId configurationId : ℕ) (processTemplateCode : String) (pipelineId : ℕ) (s : State) :
    Except OverlayError State := do
  let (templateId, template) ← orRaise ((getTemplateByCode columns s processTemplateCode).filter fun t => t.2.isActive)
    (.notFound s!"Process template '{processTemplateCode}' not found")
  let pipeline ← orRaise (getPipeline s tenantId pipelineId)
    (.tenantIsolation "Pipeline not found for tenant or belongs to another tenant")
  let code := pipeline.code
  let expected := template.defaultPipelineCode
  raiseIf (code ≠ expected) (.validation "Pipeline code does not match process template default_pipeline_code"
    [s!"expected {expected}, got {code}"])
  (listConfigurations s tenantId).forM fun r => do
    raiseIf (r.2.processTemplateId = templateId)
      (.conflict "Tenant process configuration for this template already exists")
    raiseIf (r.2.pipelineId = pipelineId)
      (.conflict "Tenant process configuration for this pipeline already exists")
  raiseIf ((s.configurations.get? configurationId).isSome) .integrityError
  return { s with configurations := s.configurations.insert configurationId {
    tenantId := tenantId
    processTemplateId := templateId
    pipelineId := pipelineId
    activationState := .inactive
    activeDefinitionVersionId := none } }

end Create

/-- The calls that set a configuration up, and those that change the tenant's modules. -/
inductive SetupOp
  | create (tenantId configurationId : ℕ) (processTemplateCode : String) (pipelineId : ℕ)
  | configuration (tenantId : ℕ) (call : ConfigurationCall)
  | modules (op : Modules.Op)

def setup (columns : Table ℕ ProcessTemplate) (s : State) : SetupOp → Except OverlayError State
  | .create tenantId configurationId processTemplateCode pipelineId =>
    createConfiguration columns tenantId configurationId processTemplateCode pipelineId s
  | .configuration tenantId call => exec s (call.op tenantId)
  | .modules op => do
    let modules ← (Modules.exec s.modules op).mapError .module
    return { s with modules := modules }

/-- The configuration is active with the version. -/
def Effective (s : State) (configurationId versionId : ℕ) : Prop :=
  ∃ config, s.configurations.get? configurationId = some config ∧ config.activationState = .active ∧
    config.activeDefinitionVersionId = some versionId

/-- The version is one of the configuration, and the tenant has every module that the
version's policy requires. -/
def RequirementsMet (s : State) (configurationId versionId : ℕ) : Prop :=
  ∃ config version, s.configurations.get? configurationId = some config ∧ s.versions.get? versionId = some version ∧
    version.tenantId = config.tenantId ∧ version.configurationId = configurationId ∧
    ∀ code ∈ version.policySnapshot.moduleRequirements, Modules.isActive s.modules config.tenantId code = true

/-- Every version that comes into effect has its requirements met. -/
def ChecksRequirements (s s' : State) : Prop :=
  ∀ configurationId versionId, Effective s' configurationId versionId → ¬ Effective s configurationId versionId →
    RequirementsMet s' configurationId versionId

/-- An active configuration is not switched to a version that requires a module the
tenant does not have. -/
def KeepsRequirements (s : State) : SetupOp → Prop
  | .configuration tenantId (.setActive configurationId versionId) =>
    ∀ config ∈ getConfiguration s tenantId configurationId,
    ∀ version ∈ getDefinitionVersionForConfiguration s tenantId configurationId versionId,
      config.activationState = .active → config.activeDefinitionVersionId ≠ some versionId →
      ∀ code ∈ version.moduleRequirements, Modules.isActive s.modules tenantId code = true
  | _ => True

/-! What setting up keeps. -/

structure SetUp (s : State) : Prop where
  pipeline : ∀ id config, s.configurations.get? id = some config →
    getPipeline s config.tenantId config.pipelineId ≠ none
  requirements : ∀ id version, s.versions.get? id = some version →
    version.moduleRequirements = version.policySnapshot.moduleRequirements
  version : ∀ id version, s.versions.get? id = some version → ∃ config,
    s.configurations.get? version.configurationId = some config ∧ config.tenantId = version.tenantId ∧
      config.pipelineId = version.pipelineId

section Keeps

variable {columns : Table ℕ ProcessTemplate} {s s' : State} {tenantId configurationId versionId : ℕ}

theorem getConfiguration_eq_some {config : TenantProcessConfiguration} :
    getConfiguration s tenantId configurationId = some config ↔
      s.configurations.get? configurationId = some config ∧ config.tenantId = tenantId := by
  simp [getConfiguration, Option.filter_eq_some_iff]

theorem getVersionFor_eq_some {version : ProcessDefinitionVersion} :
    getDefinitionVersionForConfiguration s tenantId configurationId versionId = some version ↔
      s.versions.get? versionId = some version ∧ version.tenantId = tenantId ∧
        version.configurationId = configurationId := by
  simp [getDefinitionVersionForConfiguration, getDefinitionVersion, Option.filter_eq_some_iff]

theorem SetUp.modifyConfiguration (h : SetUp s) {f : TenantProcessConfiguration → TenantProcessConfiguration}
    (hf : ∀ c, (f c).tenantId = c.tenantId ∧ (f c).pipelineId = c.pipelineId) :
    SetUp (s.modifyConfiguration configurationId f) := by
  refine ⟨fun id config hget => ?_, h.requirements, fun id version hget => ?_⟩
  · rw [State.modifyConfiguration, Table.get?_modify] at hget
    split at hget
    · obtain ⟨config₀, hget₀, rfl⟩ := Option.map_eq_some_iff.1 hget
      rw [(hf config₀).1, (hf config₀).2]
      exact h.pipeline id config₀ hget₀
    · exact h.pipeline id config hget
  · obtain ⟨config, hconfig, htenant, hpipeline⟩ := h.version id version hget
    by_cases hid : version.configurationId = configurationId
    · refine ⟨f config, ?_, (hf config).1.trans htenant, (hf config).2.trans hpipeline⟩
      rw [State.modifyConfiguration, Table.get?_modify, if_pos hid, hconfig, Option.map_some]
    · refine ⟨config, ?_, htenant, hpipeline⟩
      rw [State.modifyConfiguration, Table.get?_modify_of_ne _ hid]
      exact hconfig

theorem createConfiguration_ok {code : String} {pipelineId : ℕ}
    (h : createConfiguration columns tenantId configurationId code pipelineId s = .ok s') :
    ∃ config, s.configurations.get? configurationId = none ∧ getPipeline s tenantId pipelineId ≠ none ∧
      config.tenantId = tenantId ∧ config.pipelineId = pipelineId ∧ config.activationState = .inactive ∧
      s' = { s with configurations := s.configurations.insert configurationId config } := by
  simp only [createConfiguration, bind_eq_ok, orRaise_eq_ok, raiseIf_eq_ok, pure_eq_ok, Prod.exists,
    Option.not_isSome_iff_eq_none] at h
  obtain ⟨templateId, template, -, pipeline, hpipeline, -, -, -, -, -, hnone, rfl⟩ := h
  exact ⟨_, hnone, Option.ne_none_iff_exists'.2 ⟨_, hpipeline⟩, rfl, rfl, rfl, rfl⟩

theorem SetUp.create (h : SetUp s) {code : String} {pipelineId : ℕ}
    (hc : createConfiguration columns tenantId configurationId code pipelineId s = .ok s') : SetUp s' := by
  obtain ⟨config, hnone, hpipeline, rfl, rfl, -, rfl⟩ := createConfiguration_ok hc
  refine ⟨fun id config' hget => ?_, h.requirements, fun id version hget => ?_⟩
  · rw [Table.get?_insert_new _ _ _ hnone] at hget
    split at hget
    · obtain rfl := Option.some.inj hget
      exact hpipeline
    · exact h.pipeline id config' hget
  · obtain ⟨config', hconfig, htenant, hpipeline'⟩ := h.version id version hget
    refine ⟨config', ?_, htenant, hpipeline'⟩
    rw [Table.get?_insert_new _ _ _ hnone, if_neg]
    · exact hconfig
    · rintro rfl
      rw [hnone] at hconfig
      cases hconfig

/-- A publication adds a version that copies its requirements from its policy. -/
theorem publish_ok {request : PublishDefinitionVersionRequest}
    (h : publishDefinitionVersion tenantId configurationId versionId request s = .ok s') :
    ∃ version, (s.versions.get? versionId = none ∧
      version.moduleRequirements = version.policySnapshot.moduleRequirements ∧
      ∃ config, s.configurations.get? version.configurationId = some config ∧ config.tenantId = version.tenantId ∧
        config.pipelineId = version.pipelineId) ∧
      s' = { s with versions := s.versions.insert versionId version } := by
  simp only [publishDefinitionVersion, configurationOrRaise, bind_eq_ok, orRaise_eq_ok, raiseIf_eq_ok, pure_eq_ok,
    Option.not_isSome_iff_eq_none, getConfiguration_eq_some] at h
  obtain ⟨-, -, -, -, config, ⟨hconfig, rfl⟩, templateCode, -, pipeline, -, -, -, -, -, -, hnone, rfl⟩ := h
  exact ⟨_, ⟨hnone, rfl, config, hconfig, rfl, rfl⟩, rfl⟩

theorem SetUp.publish (h : SetUp s) {request : PublishDefinitionVersionRequest}
    (hp : publishDefinitionVersion tenantId configurationId versionId request s = .ok s') : SetUp s' := by
  obtain ⟨version, ⟨hnone, hrequirements, hversion⟩, rfl⟩ := publish_ok hp
  refine ⟨h.pipeline, fun id version' hget => ?_, fun id version' hget => ?_⟩ <;>
    rw [Table.get?_insert_new _ _ _ hnone] at hget <;> split at hget
  · exact Option.some.inj hget ▸ hrequirements
  · exact h.requirements id version' hget
  · exact Option.some.inj hget ▸ hversion
  · exact h.version id version' hget

end Keeps

section Checks

variable {columns : Table ℕ ProcessTemplate} {s s' : State} {tenantId configurationId versionId : ℕ}

theorem assertModuleRequirementsMet_ok {codes : List String} {u : Unit}
    (h : assertModuleRequirementsMet tenantId codes s = .ok u) :
    ∀ code ∈ codes, Modules.isActive s.modules tenantId code = true := by
  intro code hcode
  have hstep := forM_eq_ok.1 h code hcode
  simp only [Modules.assertEnabled, bind_eq_ok, raiseIf_eq_ok, mapError_eq_ok, orRaise_eq_ok, not_not] at hstep
  obtain ⟨-, -, m, hm, hstatus⟩ := hstep
  rw [Modules.isActive, hm, Option.any_some, decide_eq_true hstatus]

/-- Calls that leave the configurations alone bring nothing into effect. -/
theorem checks_of_same (h : s'.configurations = s.configurations) : ChecksRequirements s s' := by
  intro c v heff hnot
  rw [Effective, h] at heff
  exact absurd heff hnot

theorem effective_modifyConfiguration {f : TenantProcessConfiguration → TenantProcessConfiguration} {c v : ℕ} :
    Effective (s.modifyConfiguration configurationId f) c v ↔ ∃ config, s.configurations.get? c = some config ∧
      (if c = configurationId then f config else config).activationState = .active ∧
      (if c = configurationId then f config else config).activeDefinitionVersionId = some v := by
  rw [Effective, State.modifyConfiguration, Table.get?_modify]
  split
  · simp only [Option.map_eq_some_iff, exists_exists_and_eq_and]
  · rfl

/-- A configuration that is not the one modified is in effect as it was. -/
theorem effective_modify_other {f : TenantProcessConfiguration → TenantProcessConfiguration} {c v : ℕ}
    (hc : c ≠ configurationId) : Effective (s.modifyConfiguration configurationId f) c v ↔ Effective s c v := by
  rw [effective_modifyConfiguration]
  simp only [if_neg hc, Effective]

theorem checks_create {code : String} {pipelineId : ℕ}
    (h : createConfiguration columns tenantId configurationId code pipelineId s = .ok s') :
    ChecksRequirements s s' := by
  obtain ⟨config, hnone, -, -, -, hinactive, rfl⟩ := createConfiguration_ok h
  rintro c v ⟨config', hget, hactive, hversion⟩ hnot
  rw [Table.get?_insert_new _ _ _ hnone] at hget
  split at hget
  · obtain rfl := Option.some.inj hget
    rw [hinactive] at hactive
    cases hactive
  · exact absurd ⟨config', hget, hactive, hversion⟩ hnot

theorem checks_deactivate (h : deactivateConfiguration tenantId configurationId s = .ok s') :
    ChecksRequirements s s' := by
  simp only [deactivateConfiguration, bind_eq_ok] at h
  obtain ⟨config, -, h⟩ := h
  split at h <;> rw [pure_eq_ok] at h <;> subst h
  · exact checks_of_same rfl
  · intro c v heff hnot
    by_cases hc : c = configurationId
    · obtain ⟨config', -, hactive, -⟩ := effective_modifyConfiguration.1 heff
      rw [if_pos hc] at hactive
      cases hactive
    · exact absurd ((effective_modify_other hc).1 heff) hnot

theorem checks_activate (hs : SetUp s) (h : activateConfiguration tenantId configurationId s = .ok s') :
    ChecksRequirements s s' := by
  simp only [activateConfiguration, configurationOrRaise, bind_eq_ok, orRaise_eq_ok, getConfiguration_eq_some] at h
  obtain ⟨config, ⟨hconfig, rfl⟩, h⟩ := h
  split at h
  · rw [pure_eq_ok] at h
    exact h ▸ checks_of_same rfl
  · simp only [checkActivation, bind_eq_ok, orRaise_eq_ok, pure_eq_ok, getVersionFor_eq_some] at h
    obtain ⟨_, ⟨versionId, hactive, version, ⟨hversion, htenant, hbelongs⟩, -, -, hmet⟩, rfl⟩ := h
    intro c v heff hnot
    by_cases hc : c = configurationId
    · subst hc
      obtain ⟨config', hget, -, hv⟩ := effective_modifyConfiguration.1 heff
      obtain rfl := Option.some.inj (hconfig.symm.trans hget)
      rw [if_pos rfl] at hv
      obtain rfl := Option.some.inj (hactive.symm.trans hv)
      refine ⟨config.setState .active, version, ?_, hversion, htenant, hbelongs, ?_⟩
      · rw [State.modifyConfiguration, Table.get?_modify_self, hconfig, Option.map_some]
      · rw [← hs.requirements _ _ hversion]
        exact assertModuleRequirementsMet_ok hmet
    · exact absurd ((effective_modify_other hc).1 heff) hnot

/-- A switch that names a version of the configuration is accepted. -/
theorem setActive_eq_ok (hs : SetUp s) {config : TenantProcessConfiguration} {version : ProcessDefinitionVersion}
    (hconfig : getConfiguration s tenantId configurationId = some config)
    (hversion : getDefinitionVersionForConfiguration s tenantId configurationId versionId = some version) :
    setActiveDefinitionVersion tenantId configurationId versionId s =
      .ok (s.modifyConfiguration configurationId (TenantProcessConfiguration.setActive versionId)) := by
  obtain ⟨hget, rfl⟩ := getConfiguration_eq_some.1 hconfig
  obtain ⟨hvget, -, rfl⟩ := getVersionFor_eq_some.1 hversion
  obtain ⟨config', hget', -, hpipeline⟩ := hs.version _ _ hvget
  obtain rfl := Option.some.inj (hget.symm.trans hget')
  simp only [setActiveDefinitionVersion, configurationOrRaise, bind_eq_ok, orRaise_eq_ok, raiseIf_eq_ok, pure_eq_ok,
    not_or, not_not]
  exact ⟨config, hconfig, version, hversion, ⟨⟩, ⟨hs.pipeline _ _ hget, hpipeline⟩, trivial⟩

/-- The exact condition for a switch. -/
theorem checks_switch_iff (hs : SetUp s) {config : TenantProcessConfiguration} {version : ProcessDefinitionVersion}
    (hconfig : getConfiguration s tenantId configurationId = some config)
    (hversion : getDefinitionVersionForConfiguration s tenantId configurationId versionId = some version) :
    ChecksRequirements s (s.modifyConfiguration configurationId (TenantProcessConfiguration.setActive versionId)) ↔
      (config.activationState = .active → config.activeDefinitionVersionId ≠ some versionId →
        ∀ code ∈ version.moduleRequirements, Modules.isActive s.modules tenantId code = true) := by
  obtain ⟨hget, rfl⟩ := getConfiguration_eq_some.1 hconfig
  obtain ⟨hvget, htenant, hbelongs⟩ := getVersionFor_eq_some.1 hversion
  have hget' : (s.modifyConfiguration configurationId (TenantProcessConfiguration.setActive versionId)).configurations.get?
      configurationId = some (config.setActive versionId) := by
    rw [State.modifyConfiguration, Table.get?_modify_self, hget, Option.map_some]
  constructor
  · intro hchecks hactive hne
    have hnew := hchecks configurationId versionId ⟨_, hget', hactive, rfl⟩ fun ⟨config', hc, _, hv⟩ => by
      obtain rfl := Option.some.inj (hget.symm.trans hc)
      exact hne hv
    obtain ⟨config', version', hc, hv, -, -, hmet⟩ := hnew
    obtain rfl := Option.some.inj (hget'.symm.trans hc)
    obtain rfl := Option.some.inj (hvget.symm.trans hv)
    rw [hs.requirements _ _ hvget]
    exact hmet
  · intro hmet c v heff hnot
    by_cases hc : c = configurationId
    · subst hc
      obtain ⟨config', hc, hactive, hv⟩ := effective_modifyConfiguration.1 heff
      obtain rfl := Option.some.inj (hget.symm.trans hc)
      rw [if_pos rfl] at hactive hv
      obtain rfl : versionId = v := Option.some.inj hv
      refine ⟨config.setActive versionId, version, hget', hvget, htenant, hbelongs, ?_⟩
      rw [← hs.requirements _ _ hvget]
      exact hmet hactive fun heq => hnot ⟨config, hget, hactive, heq⟩
    · exact absurd ((effective_modify_other hc).1 heff) hnot

theorem checks_setActive_iff (hs : SetUp s) :
    ChecksRequirements s (settle (setup columns) s (.configuration tenantId (.setActive configurationId versionId))) ↔
      KeepsRequirements s (.configuration tenantId (.setActive configurationId versionId)) := by
  have hrefused (h : ∀ s', setActiveDefinitionVersion tenantId configurationId versionId s ≠ .ok s') :
      settle (setup columns) s (.configuration tenantId (.setActive configurationId versionId)) = s := by
    cases he : setActiveDefinitionVersion tenantId configurationId versionId s with
    | ok s' => exact absurd he (h s')
    | error e => exact settle_of_error he
  simp only [KeepsRequirements, Option.mem_def]
  cases hconfig : getConfiguration s tenantId configurationId with
  | none =>
    rw [hrefused fun s' h => by simp [setActiveDefinitionVersion, configurationOrRaise, hconfig, orRaise] at h]
    simp [checks_of_same]
  | some config =>
    cases hversion : getDefinitionVersionForConfiguration s tenantId configurationId versionId with
    | none =>
      rw [hrefused fun s' h => by simp [setActiveDefinitionVersion, configurationOrRaise, hconfig, hversion, orRaise] at h]
      simp [checks_of_same]
    | some version =>
      rw [settle_of_ok (setActive_eq_ok hs hconfig hversion), checks_switch_iff hs hconfig hversion]
      simp

theorem checks_setup_iff (hs : SetUp s) (op : SetupOp) :
    ChecksRequirements s (settle (setup columns) s op) ↔ KeepsRequirements s op := by
  have hchecks (hkeeps : KeepsRequirements s op) (h : ∀ s', setup columns s op = .ok s' → ChecksRequirements s s') :
      ChecksRequirements s (settle (setup columns) s op) ↔ KeepsRequirements s op :=
    iff_of_true (settle_keeps (checks_of_same rfl) h) hkeeps
  cases op with
  | create tenantId configurationId code pipelineId => exact hchecks trivial fun _ h => checks_create h
  | modules op =>
    refine hchecks trivial fun s' h => ?_
    simp only [setup, bind_eq_ok, mapError_eq_ok, pure_eq_ok] at h
    obtain ⟨modules, -, rfl⟩ := h
    exact checks_of_same rfl
  | configuration tenantId call =>
    cases call with
    | publish configurationId versionId request =>
      refine hchecks trivial fun s' h => ?_
      obtain ⟨version, -, rfl⟩ := publish_ok h
      exact checks_of_same rfl
    | setActive configurationId versionId => exact checks_setActive_iff hs
    | activate configurationId => exact hchecks trivial fun _ h => checks_activate hs h
    | deactivate configurationId => exact hchecks trivial fun _ h => checks_deactivate h

theorem SetUp.settle (hs : SetUp s) (op : SetupOp) : SetUp (settle (setup columns) s op) := by
  refine settle_keeps hs fun s' h => ?_
  cases op with
  | create tenantId configurationId code pipelineId => exact hs.create h
  | modules op =>
    simp only [setup, bind_eq_ok, mapError_eq_ok, pure_eq_ok] at h
    obtain ⟨modules, -, rfl⟩ := h
    exact ⟨hs.pipeline, hs.requirements, hs.version⟩
  | configuration tenantId call =>
    cases call with
    | publish configurationId versionId request => exact hs.publish h
    | setActive configurationId versionId =>
      simp only [setup, ConfigurationCall.op, exec, setActiveDefinitionVersion, bind_eq_ok, pure_eq_ok] at h
      obtain ⟨-, -, -, -, -, -, rfl⟩ := h
      exact hs.modifyConfiguration fun _ => ⟨rfl, rfl⟩
    | activate configurationId =>
      simp only [setup, ConfigurationCall.op, exec, activateConfiguration, bind_eq_ok] at h
      obtain ⟨config, -, h⟩ := h
      split at h
      · rw [pure_eq_ok] at h
        exact h ▸ hs
      · simp only [bind_eq_ok, pure_eq_ok] at h
        obtain ⟨-, -, rfl⟩ := h
        exact hs.modifyConfiguration fun _ => ⟨rfl, rfl⟩
    | deactivate configurationId =>
      simp only [setup, ConfigurationCall.op, exec, deactivateConfiguration, bind_eq_ok] at h
      obtain ⟨config, -, h⟩ := h
      split at h <;> rw [pure_eq_ok] at h
      · exact h ▸ hs
      · exact h ▸ hs.modifyConfiguration fun _ => ⟨rfl, rfl⟩

end Checks

/-- A state in which no tenant has configured a process yet. -/
def State.unconfigured (s : State) : State := { s with configurations := ∅, versions := ∅ }

theorem setUp_unconfigured (s : State) : SetUp s.unconfigured :=
  ⟨fun _ _ h => (nomatch h), fun _ _ h => (nomatch h), fun _ _ h => (nomatch h)⟩

/-- Active overlay requirements: in every state that creations, publications, switches,
activations, deactivations and changes of the tenants' modules lead to, the next call
brings only versions into effect that belong to their configuration and whose module
requirements are met, exactly when it does not switch an active configuration to a
version that requires a module the tenant does not have. -/
theorem active_requirements_iff (columns : Table ℕ ProcessTemplate) (s₀ : State) (ops : List SetupOp) (op : SetupOp) :
    let s := ops.foldl (settle (setup columns)) s₀.unconfigured
    ChecksRequirements s (settle (setup columns) s op) ↔ KeepsRequirements s op := by
  have hrun : Run (CallStep (setup columns)) s₀.unconfigured ops (ops.foldl (settle (setup columns)) s₀.unconfigured) :=
    Run.of_foldl
  refine checks_setup_iff (hrun.invariant SetUp (setUp_unconfigured s₀) fun s op s' hs h => ?_) op
  rw [CallStep] at h
  exact h ▸ hs.settle op

section Examples

def demoColumns : Table ℕ ProcessTemplate := ⟨[(1, ⟨"leads", demoPolicy, true⟩)], by decide⟩

/-- The catalog knows the module crm, which no tenant has. -/
def demoCatalog : State := { demoState with modules.definitions := ⟨[("crm", ⟨.internal, [], true⟩)], by decide⟩ }

def demoRequest (moduleRequirements : List String) (h : parsePolicySnapshot { demoPolicy with moduleRequirements } =
    .ok { demoPolicy with moduleRequirements }) : PublishDefinitionVersionRequest :=
  ⟨⟨{ demoPolicy with moduleRequirements }, _, h⟩, "release"⟩

/-- A configuration becomes active with a version without requirements, then version 2
is published, which requires crm. -/
def demoSetup : List SetupOp :=
  [.create 1 1 "sales" 1, .configuration 1 (.publish 1 1 (demoRequest [] (by decide))),
    .configuration 1 (.setActive 1 1), .configuration 1 (.activate 1),
    .configuration 1 (.publish 1 2 (demoRequest ["crm"] (by decide)))]

/-- The switch to version 2 brings it into effect for a tenant without crm. -/
theorem switch_without_modules :
    let s := demoSetup.foldl (settle (setup demoColumns)) demoCatalog.unconfigured
    ¬ ChecksRequirements s (settle (setup demoColumns) s (.configuration 1 (.setActive 1 2))) := by
  intro s hchecks
  have hbefore : s.configurations.get? 1 = some ⟨1, 1, 1, .active, some 1⟩ := by decide +kernel
  have hafter : (settle (setup demoColumns) s (.configuration 1 (.setActive 1 2))).configurations.get? 1 =
      some ⟨1, 1, 1, .active, some 2⟩ := by
    decide +kernel
  have hnot : ¬ Effective s 1 2 := by
    rintro ⟨config, hget, -, hversion⟩
    obtain rfl := Option.some.inj (hbefore.symm.trans hget)
    cases hversion
  obtain ⟨config, version, hget, hversion, -, -, hmet⟩ := hchecks 1 2 ⟨_, hafter, rfl, rfl⟩ hnot
  obtain rfl := Option.some.inj (hafter.symm.trans hget)
  have hrequired : ((settle (setup demoColumns) s (.configuration 1 (.setActive 1 2))).versions.get? 2).map
      (·.policySnapshot.moduleRequirements) = some ["crm"] := by
    decide +kernel
  rw [hversion, Option.map_some, Option.some.injEq] at hrequired
  have hcrm := hmet "crm" (hrequired ▸ List.mem_singleton.2 rfl)
  have hmissing : Modules.isActive (settle (setup demoColumns) s
      (.configuration 1 (.setActive 1 2))).modules 1 "crm" = false := by
    decide +kernel
  exact Bool.false_ne_true (hmissing.symm.trans hcrm)

end Examples

end CoreOps.Overlay
