import CoreOps.Lib.CheckedLoops
import CoreOps.Modules.DependencyClosure

/-! Enabling modules in order, and the plans that are applied by it. The order takes the
modules of the priority list first and the others as they are listed, so a module whose
requirement comes later in it is refused. Every module that is reached starts anew: one that
was enabled with a mode of its own goes back to a trial in the default mode. -/

namespace CoreOps.Modules

open Checked

/-! One round of the loop. -/

section Round

variable {tenantId : ℕ} {s s' : State} {moduleCode code : String} {status : ModuleStatus}

/-- Rows stay, and a row that comes in is disabled. -/
structure Provides (s s' : State) : Prop where
  definitions : s'.definitions = s.definitions
  tenants : s'.tenants = s.tenants
  kept : ∀ k m, s.tenantModules.get? k = some m → s'.tenantModules.get? k = some m
  fresh : ∀ k m, s.tenantModules.get? k = none → s'.tenantModules.get? k = some m → m.status = .disabled

theorem Provides.refl (s : State) : Provides s s := by
  refine ⟨rfl, rfl, fun _ _ h => h, fun k m hnone h => ?_⟩
  rw [hnone] at h
  cases h

theorem Provides.trans {s'' : State} (h : Provides s s') (h' : Provides s' s'') : Provides s s'' := by
  refine ⟨h'.definitions.trans h.definitions, h'.tenants.trans h.tenants,
    fun k m hm => h'.kept k m (h.kept k m hm), fun k m hnone hm => ?_⟩
  cases hk : s'.tenantModules.get? k with
  | none => exact h'.fresh k m hk hm
  | some m' =>
    obtain rfl : m' = m := Option.some.inj ((h'.kept k m' hk).symm.trans hm)
    exact h.fresh k m' hnone hk

theorem provides_provisionModule (h : provisionModule tenantId s moduleCode = .ok s') :
    Provides s s' ∧ (s'.tenantModules.get? (tenantId, moduleCode)).isSome = true ∧
      ∀ k, k ≠ (tenantId, moduleCode) → s'.tenantModules.get? k = s.tenantModules.get? k := by
  unfold provisionModule at h
  split at h
  · rename_i hsome
    obtain rfl := pure_eq_ok.1 h
    exact ⟨Provides.refl s, hsome, fun _ _ => rfl⟩
  · rename_i hnone
    rw [Option.not_isSome_iff_eq_none] at hnone
    simp only [createTenantModule, bind_eq_ok, raiseIf_eq_ok, pure_eq_ok] at h
    obtain ⟨-, -, rfl⟩ := h
    refine ⟨⟨rfl, rfl, fun k m hm => ?_, fun k m hk hm => ?_⟩, ?_, fun k hk => ?_⟩
    · show (s.tenantModules.insert _ _).get? k = some m
      rw [Table.get?_insert_new _ _ _ hnone, if_neg ?_]
      · exact hm
      · rintro rfl
        rw [hnone] at hm
        cases hm
    · change (s.tenantModules.insert _ _).get? k = some m at hm
      rw [Table.get?_insert_new _ _ _ hnone] at hm
      split at hm
      · rw [← Option.some.inj hm]
      · rw [hk] at hm
        cases hm
    · show ((s.tenantModules.insert _ _).get? _).isSome = true
      rw [Table.get?_insert_new _ _ _ hnone, if_pos rfl]
      rfl
    · show (s.tenantModules.insert _ _).get? k = _
      rw [Table.get?_insert_new _ _ _ hnone, if_neg hk]

theorem provides_provisionTenantModules (h : provisionTenantModules tenantId s = .ok s') : Provides s s' :=
  foldlM_invariant (Provides s) (fun _ _ _ _ h₁ h₂ => h₁.trans (provides_provisionModule h₂).1)
    (Provides.refl s) h

/-- A tenant that exists can be given any row. -/
theorem exists_provisionModule (htenant : (s.tenants.get? tenantId).isSome = true) (moduleCode : String) :
    ∃ s', provisionModule tenantId s moduleCode = .ok s' := by
  unfold provisionModule
  split
  · exact ⟨s, rfl⟩
  · simp only [createTenantModule, bind_eq_ok, raiseIf_eq_ok, pure_eq_ok]
    refine ⟨_, ⟨⟩, fun hnone => ?_, rfl⟩
    rw [hnone] at htenant
    cases htenant

theorem exists_provisionTenantModules (htenant : (s.tenants.get? tenantId).isSome = true) :
    ∃ s', provisionTenantModules tenantId s = .ok s' := by
  show ∃ s', ((s.definitions.rows.filter fun d => d.2.isActive).map Prod.fst).foldlM (provisionModule tenantId) s =
    .ok s'
  generalize (s.definitions.rows.filter fun d => d.2.isActive).map Prod.fst = codes
  induction codes generalizing s with
  | nil => exact ⟨s, rfl⟩
  | cons code codes ih =>
    obtain ⟨s₁, h₁⟩ := exists_provisionModule htenant code
    have htenant₁ : (s₁.tenants.get? tenantId).isSome = true := by
      rw [(provides_provisionModule h₁).1.tenants]
      exact htenant
    obtain ⟨s₂, h₂⟩ := ih htenant₁
    exact ⟨s₂, by rw [List.foldlM_cons, bind_eq_ok]; exact ⟨s₁, h₁, h₂⟩⟩

/-- What a round writes: the row of its module. -/
theorem enableOne_ok (h : enableOne tenantId status s code = .ok s') :
    s'.definitions = s.definitions ∧ s'.tenants = s.tenants ∧
      (∃ m, s'.tenantModules.get? (tenantId, code) = some m ∧ m.status = status) ∧
      ∀ k, k ≠ (tenantId, code) → s'.tenantModules.get? k = s.tenantModules.get? k := by
  simp only [enableOne, getOrCreateTenantModule, bind_eq_ok, orRaise_eq_ok, pure_eq_ok] at h
  obtain ⟨-, -, -, ⟨d, -, s₁, h₁, rfl⟩, rfl⟩ := h
  obtain ⟨hprovides, hsome, hother⟩ := provides_provisionModule h₁
  obtain ⟨m, hm⟩ := Option.isSome_iff_exists.1 hsome
  refine ⟨hprovides.definitions, hprovides.tenants, ⟨TenantModule.start status d m, ?_, rfl⟩, fun k hk => ?_⟩
  · show (s₁.tenantModules.modify _ _).get? _ = _
    rw [Table.get?_modify_self, hm]
    rfl
  · show (s₁.tenantModules.modify _ _).get? k = _
    rw [Table.get?_modify_of_ne _ hk, hother k hk]

theorem activeModules_enableOne (hst : status ∈ activeModuleStatuses) (h : enableOne tenantId status s code = .ok s') :
    activeModules s' tenantId = insert code (activeModules s tenantId) := by
  obtain ⟨-, -, ⟨m, hm, hstatus⟩, hother⟩ := enableOne_ok h
  ext c
  rw [Set.mem_insert_iff, mem_activeModules, mem_activeModules]
  by_cases hc : c = code
  · subst hc
    refine iff_of_true ?_ (.inl rfl)
    rw [isActive_of_get hm, hstatus]
    exact decide_eq_true hst
  · unfold isActive
    rw [hother _ fun he => hc (Prod.mk.inj he).2]
    exact ⟨.inr, fun h => h.resolve_left hc⟩

/-- A round goes through when the module is known and what it requires is active. -/
theorem exists_enableOne_iff (htenant : (s.tenants.get? tenantId).isSome = true) :
    (∃ s', enableOne tenantId status s code = .ok s') ↔
      (s.definitions.get? code).isSome = true ∧ ∀ b, requires s code b → b ∈ activeModules s tenantId := by
  constructor
  · rintro ⟨s', h⟩
    simp only [enableOne, getOrCreateTenantModule, bind_eq_ok, orRaise_eq_ok, pure_eq_ok] at h
    obtain ⟨u, hu, -, ⟨d, hd, -⟩, -⟩ := h
    exact ⟨by rw [hd]; rfl, assertDependencies_ok hu⟩
  · rintro ⟨hknown, hactive⟩
    obtain ⟨d, hd⟩ := Option.isSome_iff_exists.1 hknown
    obtain ⟨s₁, h₁⟩ := exists_provisionModule htenant code
    have hmissing : (d.required.filter fun depCode => ¬ isActive s tenantId depCode) = [] := by
      rw [List.filter_eq_nil_iff]
      intro b hb
      have hb' : isActive s tenantId b = true := hactive b (by rw [requires, requiredOf, hd]; exact hb)
      simp [hb']
    simp only [enableOne, assertDependencies, checkRequiredDependencies, getOrCreateTenantModule, bind_eq_ok,
      orRaise_eq_ok, raiseIf_eq_ok, pure_eq_ok, not_not]
    exact ⟨_, ⟨⟩, ⟨_, ⟨d, hd, rfl⟩, hmissing⟩, _, ⟨d, hd, s₁, h₁, rfl⟩, rfl⟩

end Round

/-! The loop. -/

section Loop

variable {tenantId : ℕ} {s s' : State} {status : ModuleStatus} {codes : List String}

/-- The loop writes the rows of the listed modules, and no other. -/
theorem foldlM_enableOne_ok (h : codes.foldlM (enableOne tenantId status) s = .ok s') :
    (∀ code ∈ codes, ∃ m, s'.tenantModules.get? (tenantId, code) = some m ∧ m.status = status) ∧
      ∀ k, (∀ code ∈ codes, k ≠ (tenantId, code)) → s'.tenantModules.get? k = s.tenantModules.get? k := by
  induction codes generalizing s with
  | nil =>
    obtain rfl := pure_eq_ok.1 h
    exact ⟨fun _ hmem => absurd hmem List.not_mem_nil, fun _ _ => rfl⟩
  | cons code codes ih =>
    rw [List.foldlM_cons, bind_eq_ok] at h
    obtain ⟨s₁, h₁, h₂⟩ := h
    obtain ⟨-, -, hrow, hother⟩ := enableOne_ok h₁
    obtain ⟨hlisted, hrest⟩ := ih h₂
    refine ⟨fun c hc => ?_, fun k hk => ?_⟩
    · by_cases hmem : c ∈ codes
      · exact hlisted c hmem
      · obtain rfl : c = code := (List.mem_cons.1 hc).resolve_right hmem
        have hother : ∀ c' ∈ codes, (tenantId, c) ≠ (tenantId, c') := by
          rintro c' hc' he
          rw [(Prod.mk.inj he).2] at hmem
          exact hmem hc'
        rw [hrest _ hother]
        exact hrow
    · rw [hrest k fun c hc => hk c (List.mem_cons_of_mem _ hc), hother k (hk code List.mem_cons_self)]

/-- It goes through when every module is known and startable in its turn. -/
theorem exists_foldlM_enableOne_iff (hst : status ∈ activeModuleStatuses)
    (htenant : (s.tenants.get? tenantId).isSome = true) :
    (∃ s', codes.foldlM (enableOne tenantId status) s = .ok s') ↔
      (∀ code ∈ codes, (s.definitions.get? code).isSome = true) ∧
        Dependency.Startable (requires s) (activeModules s tenantId) codes := by
  induction codes generalizing s with
  | nil => exact iff_of_true ⟨s, rfl⟩ ⟨fun _ hmem => absurd hmem List.not_mem_nil, trivial⟩
  | cons code codes ih =>
    have hstep : ∀ s₁, enableOne tenantId status s code = .ok s₁ →
        ((∃ s', codes.foldlM (enableOne tenantId status) s₁ = .ok s') ↔
          (∀ c ∈ codes, (s.definitions.get? c).isSome = true) ∧
            Dependency.Startable (requires s) (insert code (activeModules s tenantId)) codes) := by
      intro s₁ h₁
      obtain ⟨hdefinitions, htenants, -, -⟩ := enableOne_ok h₁
      have hrequires : requires s₁ = requires s := by
        unfold requires requiredOf
        rw [hdefinitions]
      rw [ih (by rw [htenants]; exact htenant), hdefinitions, hrequires, activeModules_enableOne hst h₁]
    rw [Dependency.Startable, List.forall_mem_cons]
    constructor
    · rintro ⟨s', h⟩
      rw [List.foldlM_cons, bind_eq_ok] at h
      obtain ⟨s₁, h₁, h₂⟩ := h
      obtain ⟨hknown, hactive⟩ := (exists_enableOne_iff htenant).1 ⟨s₁, h₁⟩
      obtain ⟨hrest, hstartable⟩ := (hstep s₁ h₁).1 ⟨s', h₂⟩
      exact ⟨⟨hknown, hrest⟩, hactive, hstartable⟩
    · rintro ⟨⟨hknown, hrest⟩, hactive, hstartable⟩
      obtain ⟨s₁, h₁⟩ := (@exists_enableOne_iff tenantId s code status htenant).2 ⟨hknown, hactive⟩
      obtain ⟨s', h₂⟩ := (hstep s₁ h₁).2 ⟨hrest, hstartable⟩
      exact ⟨s', by rw [List.foldlM_cons, bind_eq_ok]; exact ⟨s₁, h₁, h₂⟩⟩

/-- Nothing is left to do for a module: its row is as it starts, and what it requires is
active. -/
def Started (tenantId : ℕ) (status : ModuleStatus) (s : State) (code : String) : Prop :=
  ∃ d m, s.definitions.get? code = some d ∧ s.tenantModules.get? (tenantId, code) = some m ∧
    m.start status d = m ∧ ∀ b ∈ d.required, isActive s tenantId b = true

theorem start_start (status : ModuleStatus) (d : ModuleDefinition) (m : TenantModule) :
    (m.start status d).start status d = m.start status d := rfl

/-- What a round leaves of its module and of the others. -/
theorem enableOne_row {code : String} (h : enableOne tenantId status s code = .ok s') :
    ∃ d m, s.definitions.get? code = some d ∧ s'.tenantModules.get? (tenantId, code) = some (m.start status d) ∧
      (∀ m', s.tenantModules.get? (tenantId, code) = some m' → m' = m) ∧
      ∀ b ∈ d.required, isActive s tenantId b = true := by
  have h' := h
  simp only [enableOne, getOrCreateTenantModule, bind_eq_ok, orRaise_eq_ok, pure_eq_ok] at h
  obtain ⟨u, hu, -, ⟨d, hd, s₁, h₁, rfl⟩, rfl⟩ := h
  obtain ⟨hprovides, hsome, -⟩ := provides_provisionModule h₁
  obtain ⟨m, hm⟩ := Option.isSome_iff_exists.1 hsome
  refine ⟨d, m, hd, ?_, fun m' hm' => ?_, fun b hb => ?_⟩
  · show (s₁.tenantModules.modify _ _).get? _ = _
    rw [Table.get?_modify_self, hm]
    rfl
  · rw [hprovides.kept _ _ hm'] at hm
    exact Option.some.inj hm
  · exact assertDependencies_ok hu b (by rw [requiredOf, hd]; exact hb)

theorem isActive_enableOne (hst : status ∈ activeModuleStatuses) {code b : String}
    (h : enableOne tenantId status s code = .ok s') (hb : isActive s tenantId b = true) :
    isActive s' tenantId b = true := by
  rw [← mem_activeModules, activeModules_enableOne hst h]
  exact .inr hb

theorem started_enableOne (hst : status ∈ activeModuleStatuses) {code : String}
    (h : enableOne tenantId status s code = .ok s') : Started tenantId status s' code := by
  obtain ⟨d, m, hd, hm, -, hrequired⟩ := enableOne_row h
  exact ⟨d, _, (enableOne_ok h).1 ▸ hd, hm, start_start status d m, fun b hb => isActive_enableOne hst h (hrequired b hb)⟩

theorem Started.enableOne (hst : status ∈ activeModuleStatuses) {code c : String}
    (h : Modules.enableOne tenantId status s code = .ok s') (hc : Started tenantId status s c) :
    Started tenantId status s' c := by
  by_cases hcode : c = code
  · subst hcode
    exact started_enableOne hst h
  · obtain ⟨d, m, hd, hm, hstart, hrequired⟩ := hc
    obtain ⟨hdefinitions, -, -, hother⟩ := enableOne_ok h
    have hne : (tenantId, c) ≠ (tenantId, code) := fun he => hcode (Prod.mk.inj he).2
    exact ⟨d, m, hdefinitions ▸ hd, (hother _ hne).trans hm, hstart,
      fun b hb => isActive_enableOne hst h (hrequired b hb)⟩

theorem enableOne_started {code : String} (h : Started tenantId status s code) :
    Modules.enableOne tenantId status s code = .ok s := by
  obtain ⟨d, m, hd, hm, hstart, hrequired⟩ := h
  have hmissing : d.required.filter (fun depCode => ¬ isActive s tenantId depCode) = [] := by
    rw [List.filter_eq_nil_iff]
    intro b hb
    simp [hrequired b hb]
  have hprovision : provisionModule tenantId s code = .ok s := by
    rw [provisionModule, if_pos (by rw [hm]; rfl)]
    rfl
  simp only [Modules.enableOne, assertDependencies, checkRequiredDependencies, getOrCreateTenantModule, bind_eq_ok,
    orRaise_eq_ok, raiseIf_eq_ok, pure_eq_ok, not_not]
  refine ⟨⟨⟩, ⟨_, ⟨d, hd, rfl⟩, hmissing⟩, _, ⟨d, hd, s, hprovision, rfl⟩, ?_⟩
  have hsame : s.tenantModules.modify (tenantId, code) (TenantModule.start status d) = s.tenantModules :=
    Table.modify_eq_self fun m' hm' => by
      obtain rfl : m = m' := Option.some.inj (hm.symm.trans hm')
      exact hstart
  rw [State.modifyModule, hsame]

theorem isSome_enableOne {code : String} {k : ℕ × String} (h : enableOne tenantId status s code = .ok s')
    (hk : (s.tenantModules.get? k).isSome = true) : (s'.tenantModules.get? k).isSome = true := by
  obtain ⟨-, -, ⟨m, hm, -⟩, hother⟩ := enableOne_ok h
  by_cases hcode : k = (tenantId, code)
  · rw [hcode, hm]
    rfl
  · rw [hother k hcode]
    exact hk

theorem isSome_provisionModule {code : String} {k : ℕ × String} (h : provisionModule tenantId s code = .ok s')
    (hk : (s.tenantModules.get? k).isSome = true) : (s'.tenantModules.get? k).isSome = true := by
  obtain ⟨m, hm⟩ := Option.isSome_iff_exists.1 hk
  rw [(provides_provisionModule h).1.kept k m hm]
  rfl

/-- Enabling the same modules again changes nothing. -/
theorem enableModulesOrdered_again {moduleCodes : List String} {asTrial : Bool}
    (h : enableModulesOrdered tenantId moduleCodes asTrial s = .ok s') :
    enableModulesOrdered tenantId moduleCodes asTrial s' = .ok s' := by
  have hst : (if asTrial then ModuleStatus.trial else .enabled) ∈ activeModuleStatuses := by cases asTrial <;> decide
  rw [enableModulesOrdered, bind_eq_ok] at h
  obtain ⟨s₁, h₁, h₂⟩ := h
  have hstarted : ∀ code ∈ sortModuleCodes moduleCodes, Started tenantId _ s' code :=
    foldlM_all (P := fun s code => Started tenantId _ s code) (fun _ _ _ _ hstep => started_enableOne hst hstep)
      (fun _ _ _ _ hstep hc => hc.enableOne hst hstep) h₂
  have hdefinitions : s'.definitions = s.definitions :=
    (foldlM_invariant (·.definitions = s₁.definitions) (fun _ _ _ _ hb hstep => (enableOne_ok hstep).1.trans hb) rfl
      h₂).trans (provides_provisionTenantModules h₁).definitions
  have hrows : ∀ code ∈ (s.definitions.rows.filter fun d => d.2.isActive).map Prod.fst,
      (s'.tenantModules.get? (tenantId, code)).isSome = true := by
    intro code hcode
    have hprovided := foldlM_all (P := fun s code => (s.tenantModules.get? (tenantId, code)).isSome = true)
      (fun _ _ _ _ hstep => (provides_provisionModule hstep).2.1) (fun _ _ _ _ hstep hk => isSome_provisionModule hstep hk)
      h₁ code hcode
    exact foldlM_invariant (fun s => (s.tenantModules.get? (tenantId, code)).isSome = true)
      (fun _ _ _ _ hb hstep => isSome_enableOne hstep hb) hprovided h₂
  have hprovision : provisionTenantModules tenantId s' = .ok s' := by
    refine foldlM_eq_self fun code hcode => ?_
    rw [hdefinitions] at hcode
    rw [provisionModule, if_pos (hrows code hcode)]
    rfl
  rw [enableModulesOrdered, hprovision]
  exact foldlM_eq_self fun code hcode => enableOne_started (hstarted code hcode)

end Loop

/-! The order. -/

theorem mem_foldl_unique {codes acc : List String} {code : String} :
    code ∈ codes.foldl (fun ordered c => if c ∈ ordered then ordered else ordered ++ [c]) acc ↔
      code ∈ acc ∨ code ∈ codes := by
  induction codes generalizing acc with
  | nil => simp
  | cons c codes ih =>
    rw [List.foldl_cons, ih]
    split
    · rename_i hc
      constructor
      · rintro (h | h)
        · exact .inl h
        · exact .inr (List.mem_cons_of_mem _ h)
      · rintro (h | h)
        · exact .inl h
        · rcases List.mem_cons.1 h with rfl | h
          · exact .inl hc
          · exact .inr h
    · rw [List.mem_append, List.mem_singleton, List.mem_cons, or_assoc]

theorem mem_sortModuleCodes {codes : List String} {code : String} :
    code ∈ sortModuleCodes codes ↔ code ∈ codes := by
  rw [sortModuleCodes, mem_foldl_unique, List.mem_filter, decide_eq_true_eq]
  exact ⟨fun h => h.elim And.right id, .inr⟩

/-- Each listed module finds what it requires active, or ahead of it: the listed modules of
the priority list come first, the list as it is given after them. -/
def RequirementsFirst (s : State) (tenantId : ℕ) (moduleCodes : List String) : Prop :=
  ∀ pre code post, modulePriority.filter (· ∈ moduleCodes) ++ moduleCodes = pre ++ code :: post →
    ∀ depCode ∈ requiredOf s code, isActive s tenantId depCode = true ∨ depCode ∈ pre

theorem requirementsFirst_iff {s : State} {tenantId : ℕ} {moduleCodes : List String} :
    RequirementsFirst s tenantId moduleCodes ↔
      Dependency.Startable (requires s) (activeModules s tenantId) (sortModuleCodes moduleCodes) := by
  rw [sortModuleCodes, Dependency.startable_foldl_iff, Dependency.startable_iff]
  rfl

theorem enabledStatus_active (asTrial : Bool) :
    (if asTrial then ModuleStatus.trial else .enabled) ∈ activeModuleStatuses := by
  cases asTrial <;> decide

/-- The listed modules are enabled exactly when they are known and their order serves. -/
theorem enable_modules_ordered_complete (s : State) (tenantId : ℕ) (moduleCodes : List String) (asTrial : Bool)
    (htenant : (s.tenants.get? tenantId).isSome = true) :
    (∃ s', enableModulesOrdered tenantId moduleCodes asTrial s = .ok s' ∧
        ∀ code ∈ moduleCodes, isActive s' tenantId code = true) ↔
      (∀ code ∈ moduleCodes, (s.definitions.get? code).isSome = true) ∧ RequirementsFirst s tenantId moduleCodes := by
  obtain ⟨s₁, h₁⟩ := exists_provisionTenantModules htenant
  have hprovides := provides_provisionTenantModules h₁
  have hsame := sameModules_provisionTenantModules h₁
  have hactive : activeModules s₁ tenantId = activeModules s tenantId := by
    ext code
    rw [mem_activeModules, mem_activeModules, hsame.active]
  have hrequires : requires s₁ = requires s := by
    unfold requires requiredOf
    rw [hsame.definitions]
  have htenant₁ : (s₁.tenants.get? tenantId).isSome = true := by
    rw [hprovides.tenants]
    exact htenant
  have hloop := @exists_foldlM_enableOne_iff tenantId s₁ _ (sortModuleCodes moduleCodes)
    (enabledStatus_active asTrial) htenant₁
  rw [hsame.definitions, hactive, hrequires, ← requirementsFirst_iff] at hloop
  simp only [mem_sortModuleCodes] at hloop
  rw [← hloop]
  constructor
  · rintro ⟨s', h, -⟩
    rw [enableModulesOrdered, bind_eq_ok] at h
    obtain ⟨s₂, h₂, h⟩ := h
    obtain rfl : s₁ = s₂ := Except.ok.inj (h₁.symm.trans h₂)
    exact ⟨s', h⟩
  · rintro ⟨s', h⟩
    refine ⟨s', by rw [enableModulesOrdered, bind_eq_ok]; exact ⟨s₁, h₁, h⟩, fun code hcode => ?_⟩
    obtain ⟨m, hm, hstatus⟩ := (foldlM_enableOne_ok h).1 code (mem_sortModuleCodes.2 hcode)
    rw [isActive_of_get hm, hstatus]
    exact decide_eq_true (enabledStatus_active asTrial)

/-- A registry in which reports requires warehouse, neither of them in the priority list. -/
def demoReports : State where
  definitions := (Table.insert ∅ "reports" ⟨.internal, ["warehouse"], true⟩).insert "warehouse" ⟨.internal, [], true⟩
  tenantModules := ∅
  tenants := Table.insert ∅ 1 1
  plans := ∅
  subscriptions := ∅
  providers := ∅
  activeConnections := []

theorem requires_demoReports {a b : String} (h : requires demoReports a b) : a = "reports" ∧ b = "warehouse" := by
  have hknown : ∀ d, demoReports.definitions.get? a = some d → b ∈ d.required := by
    intro d hd
    rw [requires, requiredOf, hd] at h
    exact h
  cases hd : demoReports.definitions.get? a with
  | none =>
    rw [requires, requiredOf, hd] at h
    cases h
  | some d =>
    have hb := hknown d hd
    rcases List.mem_cons.1 (Table.mem_rows.2 hd) with hrow | hrow
    · obtain ⟨rfl, rfl⟩ := Prod.mk.inj hrow
      exact ⟨rfl, List.mem_singleton.1 hb⟩
    · obtain ⟨rfl, rfl⟩ := Prod.mk.inj (List.mem_singleton.1 hrow)
      cases hb

/-- No module of it requires another in a circle. -/
theorem demoReports_acyclic : WellFounded fun b a => requires demoReports a b := by
  have hrank : ∀ b a, requires demoReports a b →
      (if b = "reports" then 1 else 0) < (if a = "reports" then 1 else 0) := by
    intro b a h
    obtain ⟨rfl, rfl⟩ := requires_demoReports h
    decide
  exact Subrelation.wf (fun {b a} => hrank b a) (measure fun a : String => if a = "reports" then 1 else 0).wf

/-- Reports listed before warehouse is refused. -/
theorem requirement_listed_later : (WellFounded fun b a => requires demoReports a b) ∧
    (demoReports.tenants.get? 1).isSome = true ∧
    (∀ code ∈ ["reports", "warehouse"], (demoReports.definitions.get? code).isSome = true) ∧
    Dependency.Closed (requires demoReports) ({code | code ∈ ["reports", "warehouse"]} ∪ activeModules demoReports 1) ∧
    ¬ ∃ s', enableModulesOrdered 1 ["reports", "warehouse"] true demoReports = .ok s' ∧
      ∀ code ∈ ["reports", "warehouse"], isActive s' 1 code = true := by
  refine ⟨demoReports_acyclic, rfl, by decide, fun a _ b hab => ?_, ?_⟩
  · obtain ⟨-, rfl⟩ := requires_demoReports hab
    exact .inl (List.mem_cons_of_mem _ List.mem_cons_self)
  · rintro ⟨s', h, -⟩
    have hrefused : (enableModulesOrdered 1 ["reports", "warehouse"] true demoReports).isOk = false := by
      decide
    rw [h] at hrefused
    cases hrefused

/-- The theorem where warehouse is listed first. -/
theorem enable_modules_ordered_complete_reversed :
    ∃ s', enableModulesOrdered 1 ["warehouse", "reports"] true demoReports = .ok s' ∧
      ∀ code ∈ ["warehouse", "reports"], isActive s' 1 code = true := by
  refine (enable_modules_ordered_complete demoReports 1 ["warehouse", "reports"] true rfl).2 ⟨by decide, ?_⟩
  rw [requirementsFirst_iff]
  have hsorted : sortModuleCodes ["warehouse", "reports"] = ["warehouse", "reports"] := by decide
  rw [hsorted]
  refine ⟨fun b hb => ?_, fun b hb => ?_, trivial⟩
  · exact absurd (requires_demoReports hb).1 (by decide)
  · obtain ⟨-, rfl⟩ := requires_demoReports hb
    exact Set.mem_insert _ _

/-! Plans. -/

section Plans

variable {user : User} {tenantId : ℕ} {planCode : String} {defaultModules : List String} {s s' : State}

/-- What applying a plan of these modules is for: it takes nothing away and switches them on. -/
structure NeverDowngrades (tenantId : ℕ) (defaultModules : List String) (s s' : State) : Prop where
  enabled : ∀ code m, s.tenantModules.get? (tenantId, code) = some m → m.status = .enabled →
    ∃ m', s'.tenantModules.get? (tenantId, code) = some m' ∧ m'.status = .enabled ∧ m'.mode = m.mode
  included : ∀ code ∈ defaultModules, isActive s' tenantId code = true
  outside : ∀ code, code ∉ defaultModules →
    (∀ m, s.tenantModules.get? (tenantId, code) = some m → s'.tenantModules.get? (tenantId, code) = some m) ∧
    isActive s' tenantId code = isActive s tenantId code

/-- What an accepted assignment makes of the rows: the plan's modules are trials, and the
others are as they were but for rows that came in disabled. -/
theorem assignPlan_ok (hplan : s.plans.get? planCode = some defaultModules)
    (h : assignPlan user tenantId planCode s = .ok s') : ∃ s₁, Provides s s₁ ∧ SameModules s s₁ ∧
      (∀ code ∈ defaultModules, ∃ m, s'.tenantModules.get? (tenantId, code) = some m ∧ m.status = .trial) ∧
      ∀ code, code ∉ defaultModules → s'.tenantModules.get? (tenantId, code) = s₁.tenantModules.get? (tenantId, code) := by
  simp only [assignPlan, bind_eq_ok, orRaise_eq_ok, hplan, Option.some.injEq] at h
  obtain ⟨-, -, defaultModules, rfl, s₁, h₁, h⟩ := h
  rw [enableModulesOrdered, bind_eq_ok] at h
  obtain ⟨s₂, h₂, h⟩ := h
  obtain ⟨hlisted, hother⟩ := foldlM_enableOne_ok h
  have hsubscribed : Provides s₁ (upsertSubscription tenantId planCode s₁) :=
    ⟨rfl, rfl, fun _ _ hm => hm, fun k m hnone hm => by cases hnone.symm.trans hm⟩
  refine ⟨s₂, ?_, ?_, fun code hcode => hlisted code (mem_sortModuleCodes.2 hcode), fun code hcode => ?_⟩
  · exact ((provides_provisionTenantModules h₁).trans hsubscribed).trans (provides_provisionTenantModules h₂)
  · have hsame : SameModules s₁ (upsertSubscription tenantId planCode s₁) := ⟨rfl, fun _ _ => rfl⟩
    exact ((sameModules_provisionTenantModules h₁).trans hsame).trans (sameModules_provisionTenantModules h₂)
  · refine hother _ ?_
    rintro c hc he
    rw [(Prod.mk.inj he).2] at hcode
    exact hcode (mem_sortModuleCodes.1 hc)

/-- An accepted assignment downgrades nothing exactly when it includes no module that was
enabled already. -/
theorem assign_plan_never_downgrades (hplan : s.plans.get? planCode = some defaultModules)
    (h : assignPlan user tenantId planCode s = .ok s') :
    NeverDowngrades tenantId defaultModules s s' ↔
      ∀ code ∈ defaultModules, ∀ m, s.tenantModules.get? (tenantId, code) = some m → m.status ≠ .enabled := by
  obtain ⟨s₁, hprovides, hsame, hlisted, hother⟩ := assignPlan_ok hplan h
  constructor
  · intro hnever code hcode m hm hstatus
    obtain ⟨m', hm', henabled, -⟩ := hnever.enabled code m hm hstatus
    obtain ⟨m'', hm'', htrial⟩ := hlisted code hcode
    obtain rfl : m' = m'' := Option.some.inj (hm'.symm.trans hm'')
    rw [henabled] at htrial
    cases htrial
  · intro hfree
    refine ⟨fun code m hm hstatus => ?_, fun code hcode => ?_, fun code hcode => ⟨fun m hm => ?_, ?_⟩⟩
    · have hcode : code ∉ defaultModules := fun hcode => hfree code hcode m hm hstatus
      exact ⟨m, by rw [hother code hcode]; exact hprovides.kept _ m hm, hstatus, rfl⟩
    · obtain ⟨m, hm, htrial⟩ := hlisted code hcode
      rw [isActive_of_get hm, htrial]
      rfl
    · rw [hother code hcode]
      exact hprovides.kept _ m hm
    · rw [← hsame.active]
      unfold isActive
      rw [hother code hcode]

end Plans

/-- Tenant 1 has parties enabled in external mode, and a plan includes it. -/
def demoEnabled : State :=
  { demoState with tenantModules := Table.insert ∅ (1, "parties") ⟨.enabled, .external, some "bitrix", []⟩ }

/-- Assigning the plan takes parties back to a trial in the default mode. -/
theorem enabled_module_back_on_trial : ∃ s', assignPlan demoUser 1 "start" demoEnabled = .ok s' ∧
    ¬ NeverDowngrades 1 ["crm", "parties"] demoEnabled s' := by
  have hok : (assignPlan demoUser 1 "start" demoEnabled).isOk = true := by decide
  obtain ⟨s', h⟩ := exists_of_isOk hok
  have hplan : demoEnabled.plans.get? "start" = some ["crm", "parties"] := rfl
  refine ⟨s', h, fun hnever => ?_⟩
  obtain ⟨m', hm', henabled, -⟩ := hnever.enabled "parties" ⟨.enabled, .external, some "bitrix", []⟩ rfl rfl
  obtain ⟨-, -, -, hlisted, -⟩ := assignPlan_ok hplan h
  obtain ⟨m'', hm'', htrial⟩ := hlisted "parties" (by decide)
  obtain rfl : m' = m'' := Option.some.inj (hm'.symm.trans hm'')
  rw [henabled] at htrial
  cases htrial

/-- The theorem where no module is enabled yet. -/
theorem assign_plan_never_downgrades_first : ∃ s', assignPlan demoUser 1 "start" demoState = .ok s' ∧
    NeverDowngrades 1 ["crm", "parties"] demoState s' := by
  have hok : (assignPlan demoUser 1 "start" demoState).isOk = true := by decide
  obtain ⟨s', h⟩ := exists_of_isOk hok
  have hplan : demoState.plans.get? "start" = some ["crm", "parties"] := rfl
  refine ⟨s', h, (assign_plan_never_downgrades hplan h).2 fun code _ m hm => ?_⟩
  cases hm

end CoreOps.Modules
