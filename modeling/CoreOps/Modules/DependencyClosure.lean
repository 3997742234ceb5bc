import CoreOps.Lib.Dependency
import CoreOps.Lib.Runs
import CoreOps.Modules.Registry

/-! Every active module has the modules it requires active. Enabling checks what the
module requires, disabling what requires it, but an update writes the status it is
given, and the check before a disable passes over modules whose definition is no
longer active. Away from these two every call keeps the tenants closed. -/

namespace CoreOps.Modules

open Checked

inductive Op
  | updateTenantModule (user : User) (tenantId : ℕ) (moduleCode : String) (payload : TenantModuleUpdate)
  | enableModule (user : User) (tenantId : ℕ) (moduleCode : String)
  | disableModule (user : User) (tenantId : ℕ) (moduleCode : String)
  | setModuleMode (user : User) (tenantId : ℕ) (moduleCode : String) (payload : TenantModuleModeUpdate)
  | enableModulesOrdered (tenantId : ℕ) (moduleCodes : List String) (asTrial : Bool)
  | assignPlan (user : User) (tenantId : ℕ) (planCode : String)

def exec (s : State) : Op → Except ModuleError State
  | .updateTenantModule user tenantId moduleCode payload => updateTenantModule user tenantId moduleCode payload s
  | .enableModule user tenantId moduleCode => enableModule user tenantId moduleCode s
  | .disableModule user tenantId moduleCode => disableModule user tenantId moduleCode s
  | .setModuleMode user tenantId moduleCode payload => setModuleMode user tenantId moduleCode payload s
  | .enableModulesOrdered tenantId moduleCodes asTrial => enableModulesOrdered tenantId moduleCodes asTrial s
  | .assignPlan user tenantId planCode => assignPlan user tenantId planCode s

def requiredOf (s : State) (moduleCode : String) : List String :=
  ((s.definitions.get? moduleCode).map (·.required)).getD []

/-- Each active module of each tenant has its required modules active. -/
def DependencyClosed (s : State) : Prop :=
  ∀ tenantId moduleCode, isActive s tenantId moduleCode = true →
    ∀ depCode ∈ requiredOf s moduleCode, isActive s tenantId depCode = true

/-! The active modules of a tenant as a set. -/

def requires (s : State) (a b : String) : Prop := b ∈ requiredOf s a

def activeModules (s : State) (tenantId : ℕ) : Set String := {code | isActive s tenantId code = true}

@[simp] theorem mem_activeModules {s : State} {tenantId : ℕ} {code : String} :
    code ∈ activeModules s tenantId ↔ isActive s tenantId code = true := Iff.rfl

theorem dependencyClosed_iff {s : State} :
    DependencyClosed s ↔ ∀ tenantId, Dependency.Closed (requires s) (activeModules s tenantId) := Iff.rfl

/-- Nothing of the registry that closure depends on has changed. -/
structure SameModules (s s' : State) : Prop where
  definitions : s'.definitions = s.definitions
  active : ∀ tenantId code, isActive s' tenantId code = isActive s tenantId code

theorem SameModules.closed_iff {s s' : State} (h : SameModules s s') : DependencyClosed s' ↔ DependencyClosed s := by
  simp only [DependencyClosed, requiredOf, h.definitions, h.active]

theorem SameModules.refl (s : State) : SameModules s s := ⟨rfl, fun _ _ => rfl⟩

theorem SameModules.trans {s s' s'' : State} (h : SameModules s s') (h' : SameModules s' s'') :
    SameModules s s'' :=
  ⟨h'.definitions.trans h.definitions, fun t c => (h'.active t c).trans (h.active t c)⟩

/-! What each way of writing a row does to the set. -/

section Rows

variable {s : State} {tenantId : ℕ} {moduleCode : String} {f : TenantModule → TenantModule}

theorem isActive_modifyModule_other {t : ℕ} {code : String} (h : (t, code) ≠ (tenantId, moduleCode)) :
    isActive (s.modifyModule tenantId moduleCode f) t code = isActive s t code := by
  unfold isActive State.modifyModule
  rw [Table.get?_modify_of_ne _ h]

theorem isActive_modifyModule_self :
    isActive (s.modifyModule tenantId moduleCode f) tenantId moduleCode =
      (s.tenantModules.get? (tenantId, moduleCode)).any fun m => (f m).status ∈ activeModuleStatuses := by
  unfold isActive State.modifyModule
  rw [Table.get?_modify_self]
  cases s.tenantModules.get? (tenantId, moduleCode) <;> rfl

theorem sameModules_modifyModule (h : ∀ m, (f m).status = m.status) :
    SameModules s (s.modifyModule tenantId moduleCode f) := by
  refine ⟨rfl, fun t code => ?_⟩
  by_cases he : (t, code) = (tenantId, moduleCode)
  · obtain ⟨rfl, rfl⟩ := Prod.mk.inj he
    rw [isActive_modifyModule_self]
    simp only [h]
    rfl
  · exact isActive_modifyModule_other he

/-- A row that ends up active switches its module on. -/
theorem activeModules_switch_on {m : TenantModule} (hm : s.tenantModules.get? (tenantId, moduleCode) = some m)
    (hf : (f m).status ∈ activeModuleStatuses) :
    activeModules (s.modifyModule tenantId moduleCode f) tenantId =
      insert moduleCode (activeModules s tenantId) := by
  ext code
  by_cases hc : code = moduleCode
  · subst hc
    simp only [mem_activeModules, Set.mem_insert_iff, true_or, iff_true]
    rw [isActive_modifyModule_self, hm, Option.any_some]
    exact decide_eq_true hf
  · simp only [mem_activeModules, Set.mem_insert_iff, hc, false_or]
    rw [isActive_modifyModule_other fun he => hc (Prod.mk.inj he).2]

/-- A row that ends up inactive switches it off. -/
theorem activeModules_switch_off {m : TenantModule} (hm : s.tenantModules.get? (tenantId, moduleCode) = some m)
    (hf : (f m).status ∉ activeModuleStatuses) :
    activeModules (s.modifyModule tenantId moduleCode f) tenantId = activeModules s tenantId \ {moduleCode} := by
  ext code
  by_cases hc : code = moduleCode
  · subst hc
    simp only [mem_activeModules, Set.mem_sdiff, Set.mem_singleton_iff, not_true, and_false, iff_false]
    rw [isActive_modifyModule_self, hm, Option.any_some, decide_eq_true_eq]
    exact hf
  · simp only [mem_activeModules, Set.mem_sdiff, Set.mem_singleton_iff, hc, not_false_eq_true, and_true]
    rw [isActive_modifyModule_other fun he => hc (Prod.mk.inj he).2]

theorem requires_modifyModule : requires (s.modifyModule tenantId moduleCode f) = requires s := rfl

theorem activeModules_other {t : ℕ} (h : t ≠ tenantId) :
    activeModules (s.modifyModule tenantId moduleCode f) t = activeModules s t := by
  ext code
  simp only [mem_activeModules]
  rw [isActive_modifyModule_other fun he => h (Prod.mk.inj he).1]

/-- Only the tenant of the row can lose closure by it. -/
theorem closed_modifyModule_iff (h : DependencyClosed s) :
    DependencyClosed (s.modifyModule tenantId moduleCode f) ↔
      Dependency.Closed (requires s) (activeModules (s.modifyModule tenantId moduleCode f) tenantId) := by
  rw [dependencyClosed_iff, requires_modifyModule]
  constructor
  · intro hc
    exact hc tenantId
  · intro hc t
    by_cases ht : t = tenantId
    · subst ht
      exact hc
    · rw [activeModules_other ht]
      exact dependencyClosed_iff.1 h t

/-- Switching a module on keeps the tenants closed exactly when what it requires is
active, or is the module itself. -/
theorem closed_switch_on_iff (h : DependencyClosed s) {m : TenantModule}
    (hm : s.tenantModules.get? (tenantId, moduleCode) = some m) (hf : (f m).status ∈ activeModuleStatuses) :
    DependencyClosed (s.modifyModule tenantId moduleCode f) ↔
      ∀ depCode ∈ requiredOf s moduleCode, depCode = moduleCode ∨ isActive s tenantId depCode = true := by
  rw [closed_modifyModule_iff h, activeModules_switch_on hm hf,
    Dependency.closed_insert_iff (dependencyClosed_iff.1 h tenantId)]
  rfl

/-- Switching a module off keeps them closed exactly when no other active module
requires it. -/
theorem closed_switch_off_iff (h : DependencyClosed s) {m : TenantModule}
    (hm : s.tenantModules.get? (tenantId, moduleCode) = some m) (hf : (f m).status ∉ activeModuleStatuses) :
    DependencyClosed (s.modifyModule tenantId moduleCode f) ↔
      ∀ code, isActive s tenantId code = true → code ≠ moduleCode → moduleCode ∉ requiredOf s code := by
  rw [closed_modifyModule_iff h, activeModules_switch_off hm hf,
    Dependency.closed_remove_iff (dependencyClosed_iff.1 h tenantId)]
  rfl

end Rows

/-! The rows a call adds are disabled. -/

theorem sameModules_provisionModule {tenantId : ℕ} {s s' : State} {moduleCode : String}
    (h : provisionModule tenantId s moduleCode = .ok s') : SameModules s s' := by
  unfold provisionModule at h
  split at h
  · rw [pure_eq_ok] at h
    exact h ▸ SameModules.refl s
  · rename_i hnone
    rw [Option.not_isSome_iff_eq_none] at hnone
    simp only [createTenantModule, bind_eq_ok, raiseIf_eq_ok, pure_eq_ok] at h
    obtain ⟨-, -, rfl⟩ := h
    refine ⟨rfl, fun t code => ?_⟩
    unfold isActive
    rw [Table.get?_insert_new _ _ _ hnone]
    split
    · rename_i he
      rw [he, hnone]
      rfl
    · rfl

theorem sameModules_provisionTenantModules {tenantId : ℕ} {s s' : State}
    (h : provisionTenantModules tenantId s = .ok s') : SameModules s s' := by
  refine foldlM_invariant (SameModules s) (fun s₁ code s₂ _ h₁ h₂ => ?_) (SameModules.refl s) h
  exact h₁.trans (sameModules_provisionModule h₂)

theorem getOrCreateTenantModule_ok {tenantId : ℕ} {s s' : State} {moduleCode : String} {d : ModuleDefinition}
    (h : getOrCreateTenantModule tenantId s moduleCode = .ok (s', d)) :
    SameModules s s' ∧ ∃ m, s'.tenantModules.get? (tenantId, moduleCode) = some m := by
  simp only [getOrCreateTenantModule, bind_eq_ok, orRaise_eq_ok, pure_eq_ok, Prod.mk.injEq] at h
  obtain ⟨d', -, s₁, h₁, rfl, -⟩ := h
  refine ⟨sameModules_provisionModule h₁, ?_⟩
  unfold provisionModule at h₁
  split at h₁
  · rename_i hsome
    rw [pure_eq_ok] at h₁
    subst h₁
    exact Option.isSome_iff_exists.1 hsome
  · rename_i hnone
    rw [Option.not_isSome_iff_eq_none] at hnone
    simp only [createTenantModule, bind_eq_ok, raiseIf_eq_ok, pure_eq_ok] at h₁
    obtain ⟨-, -, rfl⟩ := h₁
    exact ⟨_, by rw [Table.get?_insert_new _ _ _ hnone, if_pos rfl]⟩

/-! The checks. -/

/-- The check before enabling: everything required is active. -/
theorem assertDependencies_ok {s : State} {tenantId : ℕ} {moduleCode : String} {u : Unit}
    (h : assertDependencies s tenantId moduleCode = .ok u) :
    ∀ depCode ∈ requiredOf s moduleCode, isActive s tenantId depCode = true := by
  simp only [assertDependencies, checkRequiredDependencies, bind_eq_ok, orRaise_eq_ok, pure_eq_ok,
    raiseIf_eq_ok, not_not] at h
  obtain ⟨missing, ⟨d, hd, rfl⟩, hnil⟩ := h
  intro depCode hdep
  rw [requiredOf, hd] at hdep
  rw [List.filter_eq_nil_iff] at hnil
  have := hnil depCode hdep
  simpa using this

/-- The check before disabling: no active module with an active definition requires it. -/
theorem assertNoActiveDependents_ok {s : State} {tenantId : ℕ} {moduleCode : String} {u : Unit}
    (h : assertNoActiveDependents s tenantId moduleCode = .ok u) :
    ∀ code d, s.definitions.get? code = some d → d.isActive = true → isActive s tenantId code = true →
      moduleCode ∉ d.required := by
  have hnil : listActiveDependents s tenantId moduleCode = [] := not_not.1 (raiseIf_eq_ok.1 h)
  intro code d hd hact hcode hreq
  have hmem : code ∈ listActiveDependents s tenantId moduleCode := by
    unfold listActiveDependents
    rw [List.mem_mergeSort, List.mem_map]
    exact ⟨(code, d), List.mem_filter.2 ⟨Table.mem_rows.2 hd, by simp [hact, hreq, hcode]⟩, rfl⟩
  rw [hnil] at hmem
  cases hmem

/-! Each call. -/

/-- The modules of a tenant that have a row. -/
def moduleCodes (s : State) (tenantId : ℕ) : List String :=
  (s.tenantModules.rows.filter fun r => r.1.1 = tenantId).map (·.1.2)

/-- An update switches a module on only when what it requires is active, and off only
when no other active module requires it; a disable finds no active module that
requires it behind an inactive definition. -/
def KeepsDependencies (s : State) : Op → Prop
  | .updateTenantModule _ tenantId moduleCode payload => ∀ status ∈ payload.status,
    if status ∈ activeModuleStatuses then
      ∀ depCode ∈ requiredOf s moduleCode, depCode = moduleCode ∨ isActive s tenantId depCode = true
    else ∀ code ∈ moduleCodes s tenantId, isActive s tenantId code = true → code ≠ moduleCode →
      moduleCode ∉ requiredOf s code
  | .disableModule _ tenantId moduleCode => ∀ code ∈ moduleCodes s tenantId, isActive s tenantId code = true →
    code ≠ moduleCode → (∀ d ∈ s.definitions.get? code, d.isActive = false) → moduleCode ∉ requiredOf s code
  | _ => True

instance (s : State) : ∀ op, Decidable (KeepsDependencies s op)
  | .updateTenantModule _ tenantId moduleCode payload => by
    unfold KeepsDependencies
    infer_instance
  | .disableModule _ tenantId moduleCode => by
    unfold KeepsDependencies
    infer_instance
  | .enableModule .. | .setModuleMode .. | .enableModulesOrdered .. | .assignPlan .. =>
    inferInstanceAs (Decidable True)

theorem mem_moduleCodes {s : State} {tenantId : ℕ} {code : String} (h : isActive s tenantId code = true) :
    code ∈ moduleCodes s tenantId := by
  unfold isActive at h
  obtain ⟨m, hm, -⟩ := (Option.any_eq_true _ _).1 h
  exact List.mem_map.2 ⟨((tenantId, code), m), List.mem_filter.2 ⟨Table.mem_rows.2 hm, by simp⟩, rfl⟩

theorem getTenantModule_ok {user : User} {tenantId : ℕ} {moduleCode : String} {s : State} {m : TenantModule}
    (h : getTenantModule tenantId user moduleCode s = .ok m) :
    s.tenantModules.get? (tenantId, moduleCode) = some m := by
  simp only [getTenantModule, bind_eq_ok, orRaise_eq_ok] at h
  obtain ⟨-, -, hm⟩ := h
  exact hm

theorem isActive_of_get {s : State} {tenantId : ℕ} {moduleCode : String} {m : TenantModule}
    (h : s.tenantModules.get? (tenantId, moduleCode) = some m) :
    isActive s tenantId moduleCode = decide (m.status ∈ activeModuleStatuses) := by
  unfold isActive
  rw [h, Option.any_some]

/-- An accepted update keeps the tenants closed exactly under its condition. -/
theorem closed_updateTenantModule_iff {user : User} {tenantId : ℕ} {moduleCode : String}
    {payload : TenantModuleUpdate} {s s' : State} (h : DependencyClosed s)
    (hu : updateTenantModule user tenantId moduleCode payload s = .ok s') :
    DependencyClosed s' ↔ KeepsDependencies s (.updateTenantModule user tenantId moduleCode payload) := by
  simp only [updateTenantModule, bind_eq_ok, pure_eq_ok] at hu
  obtain ⟨m, hm, rfl⟩ := hu
  have hrow := getTenantModule_ok hm
  cases hst : payload.status with
  | none =>
    have hsame : SameModules s (s.modifyModule tenantId moduleCode payload.apply) :=
      sameModules_modifyModule fun m => by simp [TenantModuleUpdate.apply, hst]
    rw [hsame.closed_iff]
    simp [KeepsDependencies, hst, h]
  | some status =>
    have hset : (payload.apply m).status = status := by simp [TenantModuleUpdate.apply, hst]
    by_cases hact : status ∈ activeModuleStatuses
    · rw [closed_switch_on_iff h hrow (hset ▸ hact)]
      simp [KeepsDependencies, hst, hact]
    · rw [closed_switch_off_iff h hrow (hset ▸ hact)]
      simp only [KeepsDependencies, hst, Option.mem_def, Option.some.injEq, forall_eq', if_neg hact]
      constructor
      · intro hc code _ hcode
        exact hc code hcode
      · intro hc code hcode
        exact hc code (mem_moduleCodes hcode) hcode

/-- So does an accepted disable. -/
theorem closed_disableModule_iff {user : User} {tenantId : ℕ} {moduleCode : String} {s s' : State}
    (h : DependencyClosed s) (hd : disableModule user tenantId moduleCode s = .ok s') :
    DependencyClosed s' ↔ KeepsDependencies s (.disableModule user tenantId moduleCode) := by
  simp only [disableModule, bind_eq_ok] at hd
  obtain ⟨m, hm, hd⟩ := hd
  have hrow := getTenantModule_ok hm
  split at hd
  · -- already disabled: nothing changes, and nothing active requires it
    rename_i hdis
    rw [pure_eq_ok] at hd
    subst hd
    refine iff_of_true h ?_
    intro code _ hcode _ _ hreq
    have := h tenantId code hcode moduleCode hreq
    rw [isActive_of_get hrow, hdis] at this
    cases this
  · simp only [bind_eq_ok, pure_eq_ok] at hd
    obtain ⟨u, hu, rfl⟩ := hd
    have hdeps := assertNoActiveDependents_ok hu
    rw [closed_switch_off_iff h hrow (by simp [TenantModule.disable, activeModuleStatuses])]
    constructor
    · intro hc code _ hcode hne _
      exact hc code hcode hne
    · intro hc code hcode hne hreq
      refine hc code (mem_moduleCodes hcode) hcode hne ?_ hreq
      intro d hd
      by_contra hact
      refine hdeps code d hd (by simpa using hact) hcode ?_
      rw [requiredOf, Option.mem_def.1 hd] at hreq
      exact hreq

theorem closed_enableModule {user : User} {tenantId : ℕ} {moduleCode : String} {s s' : State}
    (h : DependencyClosed s) (he : enableModule user tenantId moduleCode s = .ok s') : DependencyClosed s' := by
  simp only [enableModule, bind_eq_ok] at he
  obtain ⟨-, -, ⟨s₁, d⟩, h₁, he⟩ := he
  obtain ⟨hsame, m, hm⟩ := getOrCreateTenantModule_ok h₁
  have hc := hsame.closed_iff.2 h
  split at he
  · rw [pure_eq_ok] at he
    exact he ▸ hc
  · simp only [bind_eq_ok, pure_eq_ok] at he
    obtain ⟨u, hu, rfl⟩ := he
    rw [closed_switch_on_iff hc hm (by simp [TenantModule.enable, activeModuleStatuses])]
    intro depCode hdep
    exact .inr (assertDependencies_ok hu depCode hdep)

theorem closed_setModuleMode {user : User} {tenantId : ℕ} {moduleCode : String}
    {payload : TenantModuleModeUpdate} {s s' : State} (h : DependencyClosed s)
    (hs : setModuleMode user tenantId moduleCode payload s = .ok s') : DependencyClosed s' := by
  simp only [setModuleMode, bind_eq_ok, raiseIf_eq_ok, pure_eq_ok] at hs
  obtain ⟨m, -, -, -, -, -, rfl⟩ := hs
  have hsame : SameModules s (s.modifyModule tenantId moduleCode payload.apply) :=
    sameModules_modifyModule fun _ => rfl
  exact hsame.closed_iff.2 h

/-- The round checks the module against the statuses the rounds before it have set. -/
theorem closed_enableOne {tenantId : ℕ} {status : ModuleStatus} (hst : status ∈ activeModuleStatuses)
    {s s' : State} {code : String} (h : DependencyClosed s) (he : enableOne tenantId status s code = .ok s') :
    DependencyClosed s' := by
  simp only [enableOne, bind_eq_ok, pure_eq_ok] at he
  obtain ⟨u, hu, ⟨s₁, d⟩, h₁, rfl⟩ := he
  obtain ⟨hsame, m, hm⟩ := getOrCreateTenantModule_ok h₁
  have hc := hsame.closed_iff.2 h
  rw [closed_switch_on_iff hc hm (by simpa [TenantModule.start] using hst)]
  intro depCode hdep
  rw [requiredOf, hsame.definitions] at hdep
  rw [hsame.active]
  exact .inr (assertDependencies_ok hu depCode hdep)

theorem closed_enableModulesOrdered {tenantId : ℕ} {codes : List String} {asTrial : Bool} {s s' : State}
    (h : DependencyClosed s) (he : enableModulesOrdered tenantId codes asTrial s = .ok s') :
    DependencyClosed s' := by
  simp only [enableModulesOrdered, bind_eq_ok] at he
  obtain ⟨s₁, h₁, he⟩ := he
  have hst : (if asTrial then ModuleStatus.trial else .enabled) ∈ activeModuleStatuses := by
    cases asTrial <;> decide
  refine foldlM_invariant DependencyClosed (fun s₂ code s₃ _ h₂ h₃ => closed_enableOne hst h₂ h₃) ?_ he
  exact (sameModules_provisionTenantModules h₁).closed_iff.2 h

theorem closed_assignPlan {user : User} {tenantId : ℕ} {planCode : String} {s s' : State}
    (h : DependencyClosed s) (ha : assignPlan user tenantId planCode s = .ok s') : DependencyClosed s' := by
  simp only [assignPlan, bind_eq_ok, orRaise_eq_ok] at ha
  obtain ⟨-, -, defaultModules, -, s₁, h₁, ha⟩ := ha
  refine closed_enableModulesOrdered ?_ ha
  have hsame : SameModules s₁ (upsertSubscription tenantId planCode s₁) := ⟨rfl, fun _ _ => rfl⟩
  exact hsame.closed_iff.2 ((sameModules_provisionTenantModules h₁).closed_iff.2 h)

/-- An accepted call from closed tenants leaves them closed exactly under its condition. -/
theorem closed_exec_iff {s s' : State} {op : Op} (h : DependencyClosed s) (he : exec s op = .ok s') :
    DependencyClosed s' ↔ KeepsDependencies s op := by
  cases op with
  | updateTenantModule user tenantId moduleCode payload => exact closed_updateTenantModule_iff h he
  | enableModule user tenantId moduleCode => exact iff_of_true (closed_enableModule h he) trivial
  | disableModule user tenantId moduleCode => exact closed_disableModule_iff h he
  | setModuleMode user tenantId moduleCode payload => exact iff_of_true (closed_setModuleMode h he) trivial
  | enableModulesOrdered tenantId codes asTrial =>
    exact iff_of_true (closed_enableModulesOrdered h he) trivial
  | assignPlan user tenantId planCode => exact iff_of_true (closed_assignPlan h he) trivial

/-- The registry before any tenant has a module. -/
def State.unprovisioned (s : State) : State := { s with tenantModules := ∅ }

theorem closed_unprovisioned (s : State) : DependencyClosed s.unprovisioned := fun _ _ h => nomatch h

/-- Module dependency closure, for runs in which no update and no disable takes a
required module away from an active one, or switches one on without what it requires. -/
theorem dependency_closure (s₀ s : State) (ops : List Op)
    (h : Run (Restrict KeepsDependencies (CallStep exec)) s₀.unprovisioned ops s) : DependencyClosed s := by
  refine h.invariant_restrict DependencyClosed (closed_unprovisioned s₀) ?_
  rintro s op s' hc hk rfl
  exact settle_keeps hc fun s' he => (closed_exec_iff hc he).2 hk

section Examples

def demoUser : User := ⟨[1]⟩

/-- Tenant 1, and a registry in which crm requires parties. -/
def demoState : State where
  definitions := (Table.insert ∅ "parties" ⟨.internal, [], true⟩).insert "crm" ⟨.internal, ["parties"], true⟩
  tenantModules := ∅
  tenants := Table.insert ∅ 1 1
  plans := Table.insert ∅ "start" ["crm", "parties"]
  subscriptions := ∅
  providers := ∅
  activeConnections := []

def suspend : TenantModuleUpdate := ⟨some .suspended, none, none, none⟩

/-- Both modules on by the plan, then parties suspended by an update: crm stays active. -/
theorem required_module_suspended : ∃ s,
    Run (CallStep exec) demoState.unprovisioned
      [.assignPlan demoUser 1 "start", .updateTenantModule demoUser 1 "parties" suspend] s ∧
    isActive s 1 "crm" = true ∧ "parties" ∈ requiredOf s "crm" ∧ isActive s 1 "parties" = false ∧
    ¬ DependencyClosed s := by
  have hrun : isActive (settle exec (settle exec demoState.unprovisioned (.assignPlan demoUser 1 "start"))
      (.updateTenantModule demoUser 1 "parties" suspend)) 1 "crm" = true ∧
      isActive (settle exec (settle exec demoState.unprovisioned (.assignPlan demoUser 1 "start"))
      (.updateTenantModule demoUser 1 "parties" suspend)) 1 "parties" = false := by
    decide
  refine ⟨_, Run.cons rfl (Run.single rfl), hrun.1, by decide, hrun.2, fun hc => ?_⟩
  have := hc 1 "crm" hrun.1 "parties" (by decide)
  rw [hrun.2] at this
  cases this

/-- The theorem at the plan followed by an update that suspends crm, then parties. -/
theorem dependency_closure_suspend : ∃ s,
    Run (Restrict KeepsDependencies (CallStep exec)) demoState.unprovisioned
      [.assignPlan demoUser 1 "start", .updateTenantModule demoUser 1 "crm" suspend,
        .updateTenantModule demoUser 1 "parties" suspend] s ∧
    isActive s 1 "parties" = false ∧ DependencyClosed s := by
  have hrun : Run (Restrict KeepsDependencies (CallStep exec)) demoState.unprovisioned
      [.assignPlan demoUser 1 "start", .updateTenantModule demoUser 1 "crm" suspend,
        .updateTenantModule demoUser 1 "parties" suspend]
      ([.assignPlan demoUser 1 "start", .updateTenantModule demoUser 1 "crm" suspend,
        .updateTenantModule demoUser 1 "parties" suspend].foldl (settle exec) demoState.unprovisioned) :=
    Run.cons ⟨trivial, rfl⟩ (Run.cons ⟨by decide, rfl⟩ (Run.single ⟨by decide, rfl⟩))
  exact ⟨_, hrun, by decide, dependency_closure _ _ _ hrun⟩

end Examples

end CoreOps.Modules
