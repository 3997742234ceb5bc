import CoreOps.Secrets.Compensation
import CoreOps.Secrets.Recovery

/-! What a recovery leaves. Both recoveries look for the bound version first. The first
goes on only with a version that is active or that it can activate; the second, as it
tests for a missing version where there is none, goes on with one that is missing or
deactivated as well and deactivates the version before it all the same. -/

namespace CoreOps.Secrets

open Program

variable {port : SecretVaultPort} {w w' u : World port} {tenantId connectionId : Uuid} {ref : SecretRef}
  {row : MarketingPublishingConnection} {binding : SecretBinding} {α : Type}

theorem named_sweep {vault : EnvelopePgSecretVault} {w : World (envelopePgSecretVault vault)} {e : SweptEvent}
    (h : Named w) : Named (sweep vault w e) := by
  cases e with
  | lifecycle e =>
    have hstep : SystemStep (envelopePgSecretVault vault) w (some e) (sweep vault w (.lifecycle e)) := rfl
    exact named_step h hstep
  | cleanupOrphanPending olderThan now => exact h.congr connections_cleanup

/-! The condition and the postcondition. -/

/-- The row of the connection names the version of `binding`. -/
def Names (w : World port) (tenantId connectionId : Uuid) (binding : SecretBinding) : Prop :=
  ∃ row, w.getConnection tenantId connectionId = some row ∧ row.binding = some binding

/-- The version before the bound one. -/
def previousRef (tenantId connectionId : Uuid) (binding : SecretBinding) : SecretRef :=
  buildSecretRef tenantId connectionId (binding.secretVersion - 1)

/-- A version that is pending or active. -/
def Live (w : World port) (ref : SecretRef) : Prop :=
  SecretVersionState.readable (port.getVersionState w.vault ref) = true

/-- A rotation recovery starts with a bound version that is pending or active. -/
def Recoverable (w : World port) : Op → Prop
  | .recoverRotationPreviousDeactivate tenantId connectionId =>
    ∀ binding, Names w tenantId connectionId binding → Live w binding.secretRef
  | _ => True

/-- The bound version is active, and after the rotation recovery the one before it is
absent or deactivated. -/
def Recovered (w : World port) : Op → Prop
  | .recoverBoundActivation tenantId connectionId =>
    ∃ binding, Names w tenantId connectionId binding ∧ Active w binding.secretRef
  | .recoverRotationPreviousDeactivate tenantId connectionId =>
    ∃ binding, Names w tenantId connectionId binding ∧ Active w binding.secretRef ∧
      ¬ Live w (previousRef tenantId connectionId binding)
  | _ => True

/-- From `w` to `u` a rotation recovery has not touched the version before the bound one,
unless the bound one is active. -/
def SparesPrevious (w u : World port) : Op → Prop
  | .recoverRotationPreviousDeactivate tenantId connectionId => ∀ binding, Names w tenantId connectionId binding →
      port.getVersionState u.vault (previousRef tenantId connectionId binding) ≠
        port.getVersionState w.vault (previousRef tenantId connectionId binding) →
      Active u binding.secretRef
  | _ => True

theorem Names.unique {binding' : SecretBinding} (h : Names w tenantId connectionId binding)
    (h' : Names w tenantId connectionId binding') : binding = binding' := by
  obtain ⟨row, hrow, hb⟩ := h
  obtain ⟨row', hrow', hb'⟩ := h'
  obtain rfl := Option.some.inj (hrow.symm.trans hrow')
  exact Option.some.inj (hb.symm.trans hb')

theorem Names.congr (h : Names w tenantId connectionId binding) (hw : w'.connections = w.connections) :
    Names w' tenantId connectionId binding := by
  obtain ⟨row, hrow, hb⟩ := h
  exact ⟨row, (getConnection_congr hw).trans hrow, hb⟩

theorem Named.previousRef_ne (h : Named w) (hnames : Names w tenantId connectionId binding)
    (htwo : 2 ≤ binding.secretVersion) : binding.secretRef ≠ previousRef tenantId connectionId binding := by
  obtain ⟨row, hrow, hb⟩ := hnames
  have hversion := h connectionId row binding (getConnection_eq_some.1 hrow).1 hb
  intro heq
  rw [heq] at hversion
  have hval : (binding.secretVersion : ℕ) = (binding.secretVersion - 1 : ℕ+) := congrArg PNat.val hversion
  rw [PNat.sub_coe, if_pos (lt_of_lt_of_le (by decide) htwo)] at hval
  have hpos := binding.secretVersion.pos
  rw [PNat.one_coe] at hval
  omega

/-! What the parts of a recovery leave, whatever strikes. -/

section Parts

variable {I : World port → Prop}

abbrev Any : Fault → Prop := fun _ => True

/-- An exception of a recovery is rolled back and raised. -/
theorem ensures_recovering {code : String} {body : Action α} {P : α → World port → Prop}
    (h : Ensures port Any I body (either P fun _ => I) w) :
    Ensures port Any I (rollingBack code (return ()) body) (either P fun _ _ => True) w := by
  refine ensures_tryCatch.2 (h.mono fun r w' hr => ?_)
  cases r with
  | ok a => exact hr
  | error e => cases e <;> exact ensures_bind.2 (ensures_rollback hr trivial)

/-- An activation that returns leaves the version active and all the others alone. -/
theorem ensures_activateVersion (hI : ∀ vault, (VaultCall.activateVersion ref).exec port w.vault = .ok vault →
      I (w.withVault vault)) (hw : I w) :
    Ensures port Any I (callVault (.activateVersion ref)) (either (fun _ w' => w'.connections = w.connections ∧
      Active w' ref ∧ ∀ ref' ≠ ref, port.getVersionState w'.vault ref' = port.getVersionState w.vault ref') fun _ => I) w := by
  refine ensures_callVault hw hI (fun _ _ => hw) (fun _ vault _ hc => hI vault hc) fun vault hc => ⟨rfl, ?_, fun ref' hne => ?_⟩
  · rw [Active, withVault_vault, port.getVersionState_activateVersion _ _ _ hc, Function.update_self]
  · rw [withVault_vault, port.getVersionState_activateVersion _ _ _ hc, Function.update_of_ne hne]

/-- After the first step of a rotation recovery the bound version is active if it was live,
and in the state it was in otherwise. -/
theorem ensures_activateIfPending (hI : ∀ w', (∀ ref' ≠ ref, port.getVersionState w'.vault ref' =
      port.getVersionState w.vault ref') → I w') :
    Ensures port Any I (activateIfPending ref) (either (fun _ w' => w'.connections = w.connections ∧
      (Active w' ref ↔ Live w ref) ∧ ∀ ref' ≠ ref, port.getVersionState w'.vault ref' = port.getVersionState w.vault ref')
      fun _ => I) w := by
  have hw : I w := hI w fun _ _ => rfl
  refine ensures_bind.2 (ensures_getVersionState hw (fun _ _ _ => hw) ?_)
  simp only [either_ok, Live]
  rcases hstate : port.getVersionState w.vault ref with _ | (_ | _ | _)
  · exact ⟨rfl, by rw [Active, hstate]; exact ⟨fun h => (by cases h), fun h => (by cases h)⟩, fun _ _ => rfl⟩
  · refine (ensures_activateVersion (fun vault hc => hI _ fun ref' hne => ?_) hw).mono fun r w' hr => ?_
    · rw [withVault_vault, port.getVersionState_activateVersion _ _ _ hc, Function.update_of_ne hne]
    · cases r with
      | ok _ => exact ⟨hr.1, iff_of_true hr.2.1 rfl, hr.2.2⟩
      | error _ => exact hr
  · exact ⟨rfl, iff_of_true hstate rfl, fun _ _ => rfl⟩
  · exact ⟨rfl, by rw [Active, hstate]; exact ⟨fun h => (by cases h), fun h => (by cases h)⟩, fun _ _ => rfl⟩

/-- After the second step the version before the bound one is not live. -/
theorem ensures_deactivateIfLive (hI : ∀ w', (∀ ref' ≠ ref, port.getVersionState w'.vault ref' =
      port.getVersionState w.vault ref') → I w') :
    Ensures port Any I (deactivateIfLive ref) (either (fun _ w' => w'.connections = w.connections ∧ ¬ Live w' ref ∧
      ∀ ref' ≠ ref, port.getVersionState w'.vault ref' = port.getVersionState w.vault ref') fun _ => I) w := by
  have hw : I w := hI w fun _ _ => rfl
  have hlater : ∀ vault, (VaultCall.deactivateVersion ref).exec port w.vault = .ok vault →
      ∀ ref' ≠ ref, port.getVersionState vault ref' = port.getVersionState w.vault ref' := by
    intro vault hc ref' hne
    rw [port.getVersionState_deactivateVersion _ _ _ hc, Function.update_of_ne hne]
  have hdeactivated : Ensures port Any I (callVault (.deactivateVersion ref)) (either (fun _ w' =>
      w'.connections = w.connections ∧ ¬ Live w' ref ∧
      ∀ ref' ≠ ref, port.getVersionState w'.vault ref' = port.getVersionState w.vault ref') fun _ => I) w := by
    refine ensures_callVault hw (fun vault hc => hI _ (hlater vault hc)) (fun _ _ => hw)
      (fun _ vault _ hc => hI _ (hlater vault hc)) fun vault hc => ⟨rfl, ?_, hlater vault hc⟩
    rw [Live, withVault_vault, port.getVersionState_deactivateVersion _ _ _ hc, Function.update_self]
    nofun
  refine ensures_bind.2 (ensures_versionExists hw (fun _ _ _ => hw) ?_)
  simp only [either_ok]
  by_cases hthere : port.getVersionState w.vault ref = none
  · rw [hthere]
    exact ⟨rfl, by rw [Live, hthere]; nofun, fun _ _ => rfl⟩
  · rw [Option.isSome_iff_ne_none.2 hthere]
    refine ensures_bind.2 (ensures_getVersionState hw (fun _ _ _ => hw) ?_)
    simp only [either_ok]
    rcases hstate : port.getVersionState w.vault ref with _ | (_ | _ | _)
    · exact hdeactivated
    · exact hdeactivated
    · exact hdeactivated
    · exact ⟨rfl, by rw [Live, hstate]; nofun, fun _ _ => rfl⟩

/-- The recovered row is written with the binding it has. -/
theorem ensures_commitView {row' : MarketingPublishingConnection} {P : World port → Prop} (hI : I w)
    (hI' : I (w.withRow connectionId row')) (hP : P (w.withRow connectionId row')) :
    Ensures port Any I (do
      commit connectionId row'
      return toView row') (either (fun _ => P) fun _ => I) w :=
  ensures_bind.2 (ensures_commit hI hI' (fun _ => hI) hP)

end Parts

/-! The recoveries. -/

theorem ensures_reactivate {I : World port → Prop} (hI : ∀ w, I w) :
    Ensures port Any I (reactivate ref) (either (fun _ w' => w'.connections = w.connections ∧ Active w' ref) fun _ => I) w := by
  refine ensures_bind.2 (ensures_getVersionState (hI w) (fun _ _ _ => hI w) ?_)
  simp only [either_ok]
  rcases hstate : port.getVersionState w.vault ref with _ | (_ | _ | _)
  · exact hI w
  · refine (ensures_activateVersion (fun _ _ => hI _) (hI w)).mono fun r w' hr => ?_
    cases r with
    | ok _ => exact ⟨hr.1, hr.2.1⟩
    | error _ => exact hr
  · exact ⟨rfl, hstate⟩
  · exact hI w

theorem ensures_recoverBoundActivation :
    Ensures port Any (fun _ => True) (recoverBoundActivation tenantId connectionId)
      (either (fun _ w' => ∃ binding, Names w' tenantId connectionId binding ∧ Active w' binding.secretRef) fun _ _ => True)
      w := by
  refine ensures_recovering (ensures_bind.2 (ensures_lockOr404 trivial (fun _ => trivial) (fun _ => trivial) fun row hrow => ?_))
  refine ensures_bind.2 (ensures_boundOrRaise (fun _ => trivial) fun binding hb _ => ?_)
  refine ensures_bind.2 ((ensures_reactivate fun _ => trivial).mono fun r w₁ h₁ => ?_)
  cases r with
  | error _ => trivial
  | ok _ =>
    have hrow₁ : w₁.getConnection tenantId connectionId = some row := (getConnection_congr h₁.1).trans hrow
    rw [either_ok]
    refine ensures_commitView trivial trivial ⟨binding, ⟨row.recovered, getConnection_withRow hrow₁ rfl, hb⟩, ?_⟩
    rw [Active, withRow_vault]
    exact h₁.2

theorem ensures_recoverRotation (h : Named w) :
    Ensures port Any
      (fun u => Recoverable w (.recoverRotationPreviousDeactivate tenantId connectionId) →
        SparesPrevious w u (.recoverRotationPreviousDeactivate tenantId connectionId))
      (recoverRotationPreviousDeactivate tenantId connectionId)
      (either (fun _ w' => Recovered w' (.recoverRotationPreviousDeactivate tenantId connectionId) ↔
        Recoverable w (.recoverRotationPreviousDeactivate tenantId connectionId)) fun _ _ => True) w := by
  have hstart : ∀ u : World port, u.vault = w.vault →
      SparesPrevious w u (.recoverRotationPreviousDeactivate tenantId connectionId) :=
    fun u hu _ _ hchanged => absurd (by rw [hu]) hchanged
  have hw := hstart w rfl
  refine ensures_recovering (ensures_bind.2 (ensures_lockOr404 (fun _ => hw) (fun _ _ => hw) (fun _ _ => hw) fun row hrow => ?_))
  refine ensures_bind.2 (ensures_bind.2 (ensures_raiseIf.2 ⟨fun _ _ => hw, fun hrotated => ?_⟩))
  refine ensures_boundOrRaise (fun _ _ => hw) fun binding hb _ => ?_
  have htwo : 2 ≤ binding.secretVersion := by
    rw [Option.mem_def.1 hb, Option.all_some, decide_eq_true_eq, not_lt] at hrotated
    exact hrotated
  have hnames : Names w tenantId connectionId binding := ⟨row, hrow, hb⟩
  have hne := h.previousRef_ne hnames htwo
  have hrecoverable : Recoverable w (.recoverRotationPreviousDeactivate tenantId connectionId) ↔
      Live w binding.secretRef := by
    refine ⟨fun hall => hall binding hnames, fun hlive binding' hnames' => ?_⟩
    rw [← hnames.unique hnames']
    exact hlive
  have hactivating : ∀ w', (∀ ref' ≠ binding.secretRef, port.getVersionState w'.vault ref' =
      port.getVersionState w.vault ref') →
      SparesPrevious w w' (.recoverRotationPreviousDeactivate tenantId connectionId) := by
    intro w' hsame binding' hnames' hchanged
    rw [← hnames.unique hnames'] at hchanged
    exact absurd (hsame _ hne.symm) hchanged
  refine ensures_bind.2 ((ensures_activateIfPending fun w' hsame _ => hactivating w' hsame).mono fun r w₁ h₁ => ?_)
  cases r with
  | error _ => exact h₁
  | ok _ =>
    obtain ⟨hconnections₁, hactive₁, hsame₁⟩ := h₁
    have hdeactivating : ∀ w', (∀ ref' ≠ previousRef tenantId connectionId binding, port.getVersionState w'.vault ref' =
        port.getVersionState w₁.vault ref') → Recoverable w (.recoverRotationPreviousDeactivate tenantId connectionId) →
        SparesPrevious w w' (.recoverRotationPreviousDeactivate tenantId connectionId) := by
      intro w' hsame hlive binding' hnames' _
      rw [← hnames.unique hnames', Active, hsame _ hne]
      exact hactive₁.2 (hrecoverable.1 hlive)
    refine ensures_bind.2 ((ensures_deactivateIfLive hdeactivating).mono fun r w₂ h₂ => ?_)
    cases r with
    | error _ => exact h₂
    | ok _ =>
      obtain ⟨hconnections₂, hprevious₂, hsame₂⟩ := h₂
      have hrow₂ : w₂.getConnection tenantId connectionId = some row :=
        (getConnection_congr (hconnections₂.trans hconnections₁)).trans hrow
      have hactive₂ : Active w₂ binding.secretRef ↔ Live w binding.secretRef := by
        rw [Active, hsame₂ _ hne]
        exact hactive₁
      rw [either_ok]
      refine ensures_commitView (hdeactivating w₂ hsame₂) (hdeactivating _ hsame₂) ?_
      have hnames' : Names (w₂.withRow connectionId row.withoutError) tenantId connectionId binding :=
        ⟨row.withoutError, getConnection_withRow hrow₂ rfl, hb⟩
      rw [hrecoverable, ← hactive₂]
      constructor
      · rintro ⟨binding', hbinding', hactive, -⟩
        rw [← hnames'.unique hbinding'] at hactive
        exact hactive
      · exact fun hactive => ⟨binding, hnames', hactive, hprevious₂⟩

theorem ensures_recovery (h : Named w) (op : Op) :
    Ensures port Any (fun u => Recoverable w op → SparesPrevious w u op) op.program
      (either (fun _ w' => Recovered w' op ↔ Recoverable w op) fun _ _ => True) w := by
  cases op with
  | bindSecret => exact ((ensures_true _ w).weaken fun _ _ _ => trivial).mono fun r _ _ => by cases r <;> simp [Recovered, Recoverable]
  | rotateSecret => exact ((ensures_true _ w).weaken fun _ _ _ => trivial).mono fun r _ _ => by cases r <;> simp [Recovered, Recoverable]
  | disconnect => exact ((ensures_true _ w).weaken fun _ _ _ => trivial).mono fun r _ _ => by cases r <;> simp [Recovered, Recoverable]
  | recoverBoundActivation tenantId connectionId =>
    refine (ensures_recoverBoundActivation.weaken fun _ _ _ => trivial).mono fun r w' hr => ?_
    cases r with
    | ok view => exact iff_of_true hr trivial
    | error e => trivial
  | recoverRotationPreviousDeactivate tenantId connectionId => exact ensures_recoverRotation h

/-- From every state that lifecycle calls and cleanups lead to, whatever strikes: where a
recovery returns, it leaves what it is for if and only if it could start from there, and
where it could, no rotation recovery touches the version before the bound one unless that
is active. -/
theorem recovery_postcondition {vault : EnvelopePgSecretVault} {w₀ w : World (envelopePgSecretVault vault)}
    {evs : List SweptEvent} (h0 : w₀.unbound) (h : Run (SweptStep vault) w₀ evs w) (op : Op) (faults : List Fault) :
    (∀ view w', op.execute _ faults w = (.ok view, w') → (Recovered w' op ↔ Recoverable w op)) ∧
      (Recoverable w op → ∀ u ∈ op.program.visits (environment _) faults w, SparesPrevious w u op) := by
  have hnamed : Named w := h.invariant Named (named_of_unbound h0) fun _ _ _ hI hs => by
    rw [hs]
    exact named_sweep hI
  obtain ⟨hreturns, hvisits⟩ := (ensures_recovery hnamed op).run trivial fun f (_ : f ∈ faults) => trivial
  refine ⟨fun view w' hok => ?_, fun hrecoverable u hu => hvisits u hu hrecoverable⟩
  rw [Op.execute] at hok
  rw [hok] at hreturns
  exact hreturns

section Examples

/-- The activation after the commit of the rotation is struck. -/
def demoHalfRotate : Event :=
  (.rotateSecret 1 7 ⟨"second", second_nonempty⟩ (some ⟨.unchecked, none⟩) 1,
    List.replicate 5 .none ++ [.vault (.secretVaultError "activate_failed") false])

def demoRecoverRotation : Op := .recoverRotationPreviousDeactivate 1 7

/-- A world whose connection 7 names a version. -/
theorem names_demo {w : World (envelopePgSecretVault demoVault)} {ref : SecretRef} {binding : SecretBinding}
    (hw : (w.getConnection 1 7).map (fun row => row.binding.map (·.secretRef)) = some (some ref))
    (h : Names w 1 7 binding) : binding.secretRef = ref := by
  obtain ⟨row, hrow, hb⟩ := h
  rw [hrow, Option.map_some, hb, Option.map_some] at hw
  exact Option.some.inj (Option.some.inj hw)

/-- The world after that rotation and the cleanup: the bound version is gone. -/
def demoCleaned : World (envelopePgSecretVault demoVault) :=
  sweep demoVault (sweep demoVault (sweep demoVault demoWorld (.lifecycle (demoBind []))) (.lifecycle demoHalfRotate)) demoSweep

/-- There the recovery returns, and has deactivated the last version there is. -/
theorem recovery_without_bound_version :
    Run (SweptStep demoVault) demoWorld [.lifecycle (demoBind []), .lifecycle demoHalfRotate, demoSweep] demoCleaned ∧
    ∃ view w', demoRecoverRotation.execute _ [] demoCleaned = (.ok view, w') ∧ ¬ Recovered w' demoRecoverRotation := by
  have hreturns : (demoRecoverRotation.execute _ [] demoCleaned).1.isOk = true := by decide
  have hnames : ((demoRecoverRotation.execute _ [] demoCleaned).2.getConnection 1 7).map
      (fun row => row.binding.map (·.secretRef)) = some (some (buildSecretRef 1 7 2)) := by decide
  have hgone : (envelopePgSecretVault demoVault).getVersionState (demoRecoverRotation.execute _ [] demoCleaned).2.vault
      (buildSecretRef 1 7 2) = none := by decide
  obtain ⟨view, hview⟩ := Checked.exists_of_isOk hreturns
  refine ⟨Run.cons rfl (Run.cons rfl (Run.single rfl)), view, _, Prod.ext hview rfl, ?_⟩
  rintro ⟨binding, hbinding, hactive, -⟩
  rw [names_demo hnames hbinding, Active, hgone] at hactive
  cases hactive

/-- The theorem after a rotation whose last call is struck. -/
theorem recovery_postcondition_rotated : ∃ view w',
    demoRecoverRotation.execute _ [] demoRotated = (.ok view, w') ∧ Recovered w' demoRecoverRotation := by
  have hreturns : (demoRecoverRotation.execute _ [] demoRotated).1.isOk = true := by decide
  have hnames : (demoRotated.getConnection 1 7).map (fun row => row.binding.map (·.secretRef)) =
      some (some (buildSecretRef 1 7 2)) := by decide
  have hlive : Live demoRotated (buildSecretRef 1 7 2) := by
    unfold Live
    decide
  have hrun : Run (SweptStep demoVault) demoWorld [.lifecycle (demoBind []), .lifecycle demoRotate] demoRotated :=
    Run.cons rfl (Run.single rfl)
  obtain ⟨view, hview⟩ := Checked.exists_of_isOk hreturns
  refine ⟨view, _, Prod.ext hview rfl,
    ((recovery_postcondition demoWorld_unbound hrun demoRecoverRotation []).1 view _ (Prod.ext hview rfl)).2 ?_⟩
  intro binding hbinding
  rw [names_demo hnames hbinding]
  exact hlive

end Examples

end CoreOps.Secrets
