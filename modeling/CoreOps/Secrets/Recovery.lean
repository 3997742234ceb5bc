import CoreOps.Secrets.Bound

/-! Getting out of a failed lifecycle call. An active version left where the next one has
to go is not overwritten, so a connection can be bound again exactly when it is not
stuck: an unbound one is stuck when version 1 is still active, and one bound at version 3
or later when both version 1 and the version after the bound one are. -/

namespace CoreOps.Secrets

open Program
open Checked (bind_eq_ok raiseIf_eq_ok pure_eq_ok)

variable {port : SecretVaultPort}

def Active (w : World port) (ref : SecretRef) : Prop := port.getVersionState w.vault ref = some .active

/-- An active version stands in the way of every version the connection can go on to. -/
def Stuck (w : World port) (tenantId connectionId : Uuid) : Prop :=
  ∃ row, w.getConnection tenantId connectionId = some row ∧ Active w (buildSecretRef tenantId connectionId 1) ∧
    ∀ binding ∈ row.binding, 3 ≤ binding.secretVersion ∧
      Active w (buildSecretRef tenantId connectionId (binding.secretVersion + 1))

/-- Nothing that strikes is a failure of the vault. -/
def SparesVault (f : Fault) : Prop := ∀ e applied, f ≠ .vault e applied

/-- The call supplies a new secret for the connection. -/
def Op.Supplies (op : Op) (tenantId connectionId : Uuid) (plaintext : SecretPlaintext) : Prop :=
  ∃ health now, op = .bindSecret tenantId connectionId plaintext health now ∨
    op = .rotateSecret tenantId connectionId plaintext health now

/-- A call supplies the secret and returns; its version is bound then, and active. -/
def BindsNew (tenantId connectionId : Uuid) (plaintext : SecretPlaintext) (w w' : World port) : Prop :=
  ∃ (op : Op) (faults : List Fault) (view : PublishingConnectionView) (row : MarketingPublishingConnection),
    op.Supplies tenantId connectionId plaintext ∧
    (∀ f ∈ faults, SparesVault f) ∧ op.execute port faults w = (.ok view, w') ∧ w.getConnection tenantId connectionId = some row ∧
    boundRef w' tenantId connectionId = some (buildSecretRef tenantId connectionId (newVersion row)) ∧
    Active w' (buildSecretRef tenantId connectionId (newVersion row))

/-- No vault failure strikes the call. -/
def SparedEvent (_ : World port) (e : Event) : Prop := ∀ f ∈ e.2, SparesVault f

/-- From here lifecycle calls lead to the secret being bound. -/
def CanBind (w : World port) (tenantId connectionId : Uuid) (plaintext : SecretPlaintext) : Prop :=
  ∃ evs w₁ w₂, Run (Restrict SparedEvent (LifecycleStep port)) w evs w₁ ∧
    BindsNew tenantId connectionId plaintext w₁ w₂

/-! Calls that nothing strikes. -/

section Calm

variable {w : World port} {ref : SecretRef} {tenantId connectionId : Uuid} {row : MarketingPublishingConnection}
  {α : Type}

/-- The program ensures `Q` when nothing strikes. -/
abbrev Calm (p : Action α) (Q : Except LifecycleException α → World port → Prop) (w : World port) : Prop :=
  Ensures port (· = .none) (fun _ => True) p Q w

/-- What holds of the world when a call returns, as it does. -/
abbrev returning (P : World port → Prop) : Except LifecycleException α → World port → Prop :=
  either (fun _ => P) fun _ _ => False

theorem calm_callVault {c : VaultCall} {vault : port.State} {Q : Except LifecycleException Unit → World port → Prop}
    (hc : c.exec port w.vault = .ok vault) (h : Q (.ok ()) (w.withVault vault)) : Calm (callVault c) Q w := by
  refine ensures_callVault trivial (fun _ _ => trivial) (fun e he => ?_) nofun fun vault' hc' => ?_
  · rcases he with ⟨applied, hf⟩ | he
    · cases hf
    · rw [hc] at he
      cases he
  · obtain rfl := Except.ok.inj (hc.symm.trans hc')
    exact h

theorem calm_commit {row' : MarketingPublishingConnection} {Q : Except LifecycleException Unit → World port → Prop}
    (h : Q (.ok ()) (w.withRow connectionId row')) : Calm (commit connectionId row') Q w :=
  ensures_commit trivial trivial nofun h

theorem calm_lockOr404 {Q : Except LifecycleException MarketingPublishingConnection → World port → Prop}
    (hrow : w.getConnection tenantId connectionId = some row) (h : Q (.ok row) w) :
    Calm (lockOr404 tenantId connectionId) Q w := by
  refine ensures_lockOr404 trivial nofun (fun hnone => ?_) fun row' hrow' => ?_
  · rw [hrow] at hnone
    cases hnone
  · obtain rfl := Option.some.inj (hrow.symm.trans hrow')
    exact h

theorem calm_getVersionState {Q : Except LifecycleException (Option SecretVersionState) → World port → Prop}
    (h : Q (.ok (port.getVersionState w.vault ref)) w) : Calm (getVersionState ref) Q w :=
  ensures_getVersionState trivial nofun h

theorem calm_versionExists {Q : Except LifecycleException Bool → World port → Prop}
    (h : Q (.ok (port.getVersionState w.vault ref).isSome) w) : Calm (versionExists ref) Q w :=
  ensures_versionExists trivial nofun h

theorem calm_confirmInactive {Q : Except LifecycleException Bool → World port → Prop}
    (h : Q (.ok (!SecretVersionState.readable (port.getVersionState w.vault ref))) w) : Calm (confirmInactive ref) Q w :=
  ensures_confirmInactive trivial nofun h

/-- Where the body returns, its handlers have nothing to do. -/
theorem calm_tryCatch {body : Action α} {handler : LifecycleException → Action α} {P : α → World port → Prop}
    (h : Calm body (either P fun _ _ => False) w) :
    Calm (MonadExcept.tryCatch body handler) (either P fun _ _ => False) w := by
  refine ensures_tryCatch.2 (h.mono fun r w' hr => ?_)
  cases r with
  | ok a => exact hr
  | error e => exact hr.elim

/-- Go on after a step that returns. -/
theorem calm_bind {β : Type} {p : Action α} {k : α → Action β} {P : World port → Prop}
    {Q : Except LifecycleException β → World port → Prop} (hp : Calm p (returning P) w)
    (hk : ∀ a w', P w' → Calm (k a) Q w') : Calm (p >>= k) Q w := by
  refine ensures_bind.2 (hp.mono fun r w' hr => ?_)
  cases r with
  | ok a => exact hk a w' hr
  | error e => exact hr.elim

/-- Where the row has a binding, the binding that belongs to the connection is found. -/
theorem calm_boundOrRaise {binding : SecretBinding} {Q : Except LifecycleException SecretBinding → World port → Prop}
    (hb : row.binding = some binding) (howned : binding.secretRef.owned tenantId connectionId = true)
    (h : Q (.ok binding) w) : Calm (boundOrRaise tenantId connectionId row) Q w := by
  simp only [boundOrRaise, hb]
  refine ensures_bind.2 (ensures_raiseIf.2 ⟨fun hno => ?_, fun _ => h⟩)
  rw [howned] at hno
  cases hno

/-! The services that nothing strikes. -/

theorem getConnection_congr {w' : World port} (h : w'.connections = w.connections) :
    w'.getConnection tenantId connectionId = w.getConnection tenantId connectionId := by
  rw [World.getConnection, h, World.getConnection]

theorem getConnection_withRow {row' : MarketingPublishingConnection} (hrow : w.getConnection tenantId connectionId = some row)
    (ht : row'.tenantId = row.tenantId) :
    (w.withRow connectionId row').getConnection tenantId connectionId = some row' := by
  obtain ⟨hget, htenant⟩ := getConnection_eq_some.1 hrow
  refine getConnection_eq_some.2 ⟨?_, ht.trans htenant⟩
  rw [World.withRow, Table.get?_modify_self, hget, Option.map_some]

theorem boundRef_of_row {binding : SecretBinding} (hrow : w.getConnection tenantId connectionId = some row)
    (hb : row.binding = some binding) : boundRef w tenantId connectionId = some binding.secretRef := by
  rw [boundRef, hrow, Option.bind_some, hb, Option.map_some]

/-- Where nothing is in the way, a vault stores what it is given. -/
def Stores (port : SecretVaultPort) : Prop :=
  ∀ ref plaintext provider now s, port.getVersionState s ref = none →
    ∃ s', port.storeSecret ref plaintext (some { provider := provider }) now s = .ok s'

theorem calm_cleanup (hactive : ¬ Active w ref) :
    Calm (cleanupInactiveOrphanOrRaise ref)
      (returning fun w' => w'.connections = w.connections ∧ port.getVersionState w'.vault ref = none) w := by
  have hdelete : Calm (callVault (.deleteVersion ref))
      (returning fun w' => w'.connections = w.connections ∧ port.getVersionState w'.vault ref = none) w := by
    obtain ⟨vault, hvault⟩ := port.deleteVersion_succeeds ref w.vault
    refine calm_callVault hvault ⟨rfl, ?_⟩
    rw [withVault_vault, port.getVersionState_deleteVersion _ _ _ hvault, Function.update_self]
  refine ensures_bind.2 (calm_getVersionState ?_)
  simp only [either_ok]
  rcases hstate : port.getVersionState w.vault ref with _ | (_ | _ | _)
  · exact ⟨rfl, hstate⟩
  · exact hdelete
  · exact absurd hstate hactive
  · exact hdelete

theorem calm_storeNewVersion {plaintext : SecretPlaintext} {now : ℤ} (hstores : Stores port) (hactive : ¬ Active w ref) :
    Calm (storeNewVersion row ref plaintext now)
      (returning fun w' => w'.connections = w.connections ∧ port.getVersionState w'.vault ref = some .pending) w := by
  refine calm_bind (calm_cleanup hactive) fun _ w' hw' => ?_
  obtain ⟨vault, hvault⟩ := hstores ref plaintext (some row.provider.value) now w'.vault hw'.2
  refine calm_callVault hvault ⟨hw'.1, ?_⟩
  rw [withVault_vault, port.getVersionState_storeSecret _ _ _ _ _ _ hvault, Function.update_self, hw'.2]
  rfl

theorem calm_commitNewVersion {now : ℤ} :
    Calm (commitNewVersion connectionId row ref (some ⟨.unchecked, none⟩) now)
      (returning fun w' => w' = w.withRow connectionId (row.bind ref now)) w :=
  ensures_bind.2 (calm_tryCatch (calm_commit rfl))

theorem calm_activateVersion (hread : SecretVersionState.readable (port.getVersionState w.vault ref) = true) :
    Calm (callVault (.activateVersion ref))
      (returning fun w' => w'.connections = w.connections ∧ Active w' ref) w := by
  obtain ⟨vault, hvault⟩ := port.activateVersion_succeeds ref w.vault hread
  refine calm_callVault hvault ⟨rfl, ?_⟩
  rw [Active, withVault_vault, port.getVersionState_activateVersion _ _ _ hvault, Function.update_self]

theorem calm_postCommitActivate (hrow : w.getConnection tenantId connectionId = some row)
    (hstate : port.getVersionState w.vault ref = some .pending) :
    Calm (postCommitActivate tenantId connectionId ref)
      (returning fun w' => w'.connections = w.connections ∧ Active w' ref) w := by
  have hensured : Calm (ensureActive ref) (returning fun w' => w'.connections = w.connections ∧ Active w' ref) w := by
    refine ensures_bind.2 (calm_getVersionState ?_)
    simp only [either_ok, hstate]
    exact calm_activateVersion (by rw [hstate]; rfl)
  refine calm_bind (calm_tryCatch hensured) fun _ w' hw' => ?_
  refine ensures_bind.2 (calm_lockOr404 ((getConnection_congr hw'.1).trans hrow) ?_)
  exact ensures_bind.2 (ensures_rollback trivial hw')

/-- Another version than the one looked at is deactivated, if it is there. -/
theorem calm_deactivateIfLive (old : SecretRef) :
    Calm (deactivateIfLive old) (returning fun w' => w'.connections = w.connections ∧ ¬ Active w' old ∧
      ∀ ref ≠ old, port.getVersionState w'.vault ref = port.getVersionState w.vault ref) w := by
  refine ensures_bind.2 (calm_versionExists ?_)
  simp only [either_ok]
  by_cases hthere : port.getVersionState w.vault old = none
  · rw [hthere]
    exact ⟨rfl, by rw [Active, hthere]; nofun, fun _ _ => rfl⟩
  · rw [Option.isSome_iff_ne_none.2 hthere]
    have hdeactivated : Calm (callVault (.deactivateVersion old))
        (returning fun w' => w'.connections = w.connections ∧ ¬ Active w' old ∧
          ∀ ref ≠ old, port.getVersionState w'.vault ref = port.getVersionState w.vault ref) w := by
      obtain ⟨vault, hvault⟩ := port.deactivateVersion_succeeds old w.vault hthere
      refine calm_callVault hvault ⟨rfl, ?_, fun ref hne => ?_⟩
      · rw [Active, withVault_vault, port.getVersionState_deactivateVersion _ _ _ hvault, Function.update_self]
        nofun
      · rw [withVault_vault, port.getVersionState_deactivateVersion _ _ _ hvault, Function.update_of_ne hne]
    refine ensures_bind.2 (calm_getVersionState ?_)
    simp only [either_ok]
    rcases hstate : port.getVersionState w.vault old with _ | (_ | _ | _)
    · exact hdeactivated
    · exact hdeactivated
    · exact hdeactivated
    · exact ⟨rfl, by rw [Active, hstate]; nofun, fun _ _ => rfl⟩

/-- The version after the bound one is another one, and so is every version of another number. -/
theorem BindingOk.ne {binding : SecretBinding} {version : ℕ+} (h : BindingOk w connectionId row binding)
    (hne : (version : ℕ) ≠ binding.secretVersion) : buildSecretRef tenantId connectionId version ≠ binding.secretRef := by
  intro heq
  refine hne ?_
  rw [h.version, ← heq]
  rfl

theorem newVersion_unbound (hb : row.binding = none) : newVersion row = 1 := by
  rw [newVersion, hb]

theorem newVersion_bound {binding : SecretBinding} (hb : row.binding = some binding) :
    newVersion row = binding.secretVersion + 1 := by
  rw [newVersion, hb]

/-- The version a row has been written with is activated. -/
theorem calm_activateBound {now : ℤ} (hrow : w.getConnection tenantId connectionId = some row)
    (hstate : port.getVersionState w.vault ref = some .pending) :
    Calm (postCommitActivate tenantId connectionId ref)
      (returning fun w' => boundRef w' tenantId connectionId = some ref ∧ Active w' ref)
      (w.withRow connectionId (row.bind ref now)) := by
  have hrow' : (w.withRow connectionId (row.bind ref now)).getConnection tenantId connectionId = some (row.bind ref now) :=
    getConnection_withRow hrow rfl
  refine (calm_postCommitActivate hrow' hstate).mono fun r w' hr => ?_
  cases r with
  | error _ => exact hr.elim
  | ok _ => exact ⟨boundRef_of_row ((getConnection_congr hr.1).trans hrow') rfl, hr.2⟩

theorem calm_bindSecret {plaintext : SecretPlaintext} {now : ℤ} (hstores : Stores port)
    (hrow : w.getConnection tenantId connectionId = some row) (hb : row.binding = none)
    (hactive : ¬ Active w (buildSecretRef tenantId connectionId 1)) :
    Calm (bindSecret tenantId connectionId plaintext (some ⟨.unchecked, none⟩) now)
      (returning fun w' => boundRef w' tenantId connectionId = some (buildSecretRef tenantId connectionId 1) ∧
        Active w' (buildSecretRef tenantId connectionId 1)) w := by
  have hfirst : Calm (compensating none do
        let row ← lockOr404 tenantId connectionId
        raiseIf row.binding.isSome (safeError "secret_already_bound")
        storeNewVersion row (buildSecretRef tenantId connectionId 1) plaintext now
        return row)
      (either (fun row' w' => row' = row ∧ w'.connections = w.connections ∧
        port.getVersionState w'.vault (buildSecretRef tenantId connectionId 1) = some .pending) fun _ _ => False) w := by
    refine calm_tryCatch (ensures_bind.2 (calm_lockOr404 hrow (ensures_bind.2 (ensures_raiseIf.2 ⟨?_, fun _ => ?_⟩))))
    · rw [hb]
      nofun
    · exact calm_bind (calm_storeNewVersion hstores hactive) fun _ w' hw' => ⟨rfl, hw'⟩
  refine ensures_bind.2 (hfirst.mono fun r w' hr => ?_)
  cases r with
  | error _ => exact hr.elim
  | ok row' =>
    obtain ⟨rfl, hconnections, hstate⟩ := hr
    refine calm_bind calm_commitNewVersion fun _ w'' hw'' => ?_
    rw [hw'']
    exact calm_activateBound ((getConnection_congr hconnections).trans hrow) hstate

theorem calm_rotateSecret {plaintext : SecretPlaintext} {now : ℤ} {old : SecretBinding} (hstores : Stores port)
    (hrow : w.getConnection tenantId connectionId = some row) (hb : row.binding = some old)
    (hok : BindingOk w connectionId row old)
    (hactive : ¬ Active w (buildSecretRef tenantId connectionId (old.secretVersion + 1))) :
    Calm (rotateSecret tenantId connectionId plaintext (some ⟨.unchecked, none⟩) now)
      (returning fun w' =>
        boundRef w' tenantId connectionId = some (buildSecretRef tenantId connectionId (old.secretVersion + 1)) ∧
        Active w' (buildSecretRef tenantId connectionId (old.secretVersion + 1))) w := by
  have howned : old.secretRef.owned tenantId connectionId = true := (getConnection_eq_some.1 hrow).2 ▸ hok.owned
  have hfirst : Calm (compensating none do
        let row ← lockOr404 tenantId connectionId
        let old ← boundOrRaise tenantId connectionId row
        storeNewVersion row (buildSecretRef tenantId connectionId (old.secretVersion + 1)) plaintext now
        return (row, old))
      (either (fun r w' => r = (row, old) ∧ w'.connections = w.connections ∧
        port.getVersionState w'.vault (buildSecretRef tenantId connectionId (old.secretVersion + 1)) = some .pending)
        fun _ _ => False) w := by
    refine calm_tryCatch (ensures_bind.2 (calm_lockOr404 hrow (ensures_bind.2 (calm_boundOrRaise hb howned ?_))))
    exact calm_bind (calm_storeNewVersion hstores hactive) fun _ w' hw' => ⟨rfl, hw'⟩
  refine ensures_bind.2 (hfirst.mono fun r w' hr => ?_)
  cases r with
  | error _ => exact hr.elim
  | ok r =>
    obtain ⟨rfl, hconnections, hstate⟩ := hr
    refine calm_bind calm_commitNewVersion fun _ w₁ h₁ => ?_
    rw [h₁]
    refine calm_bind (calm_activateBound ((getConnection_congr hconnections).trans hrow) hstate) fun view w₂ h₂ => ?_
    refine calm_bind (calm_tryCatch (calm_deactivateIfLive old.secretRef)) fun _ w₃ h₃ => ⟨?_, ?_⟩
    · rw [boundRef, getConnection_congr h₃.1]
      exact h₂.1
    · rw [Active, h₃.2.2 _ (hok.ne (by simp))]
      exact h₂.2

/-- A disconnect that nothing strikes unbinds the connection and deactivates the bound
version and no other. -/
theorem calm_disconnect {binding : SecretBinding} (hrow : w.getConnection tenantId connectionId = some row)
    (hb : row.binding = some binding) (hok : BindingOk w connectionId row binding) :
    Calm (disconnect tenantId connectionId) (returning fun w' =>
      (∃ row', w'.getConnection tenantId connectionId = some row' ∧ row'.binding = none) ∧
      ¬ Active w' binding.secretRef ∧
      ∀ ref ≠ binding.secretRef, port.getVersionState w'.vault ref = port.getVersionState w.vault ref) w := by
  have howned : binding.secretRef.owned tenantId connectionId = true := (getConnection_eq_some.1 hrow).2 ▸ hok.owned
  have hrevoked : Calm (revoke binding.secretRef) (returning fun w' => w'.connections = w.connections ∧
      port.getVersionState w'.vault = Function.update (port.getVersionState w.vault) binding.secretRef (some .deactivated)) w := by
    obtain ⟨vault, hvault⟩ := port.deactivateVersion_succeeds binding.secretRef w.vault hok.present
    refine ensures_bind.2 (calm_versionExists ?_)
    rw [Option.isSome_iff_ne_none.2 hok.present]
    refine calm_tryCatch (calm_callVault hvault ⟨rfl, ?_⟩)
    rw [withVault_vault, port.getVersionState_deactivateVersion _ _ _ hvault]
  refine calm_tryCatch (ensures_bind.2 (calm_lockOr404 hrow ?_))
  simp only [either_ok, hb]
  refine ensures_bind.2 (calm_boundOrRaise hb howned (calm_bind hrevoked fun _ w' hw' => ?_))
  refine ensures_bind.2 (calm_confirmInactive ?_)
  have hstate : port.getVersionState w'.vault binding.secretRef = some .deactivated := by
    rw [hw'.2, Function.update_self]
  have hrow' := (getConnection_congr hw'.1).trans hrow
  rw [hstate]
  refine ensures_bind.2 (calm_commit ⟨⟨row.cleared, getConnection_withRow hrow' rfl, rfl⟩, ?_, fun ref hne => ?_⟩)
  · rw [Active, withRow_vault, hstate]
    nofun
  · rw [withRow_vault, hw'.2, Function.update_of_ne hne]

/-- A recovery that nothing strikes leaves the version before the bound one inactive. -/
theorem calm_recoverRotation {binding : SecretBinding} (hrow : w.getConnection tenantId connectionId = some row)
    (hb : row.binding = some binding) (hok : BindingOk w connectionId row binding) (htwo : 2 ≤ binding.secretVersion) :
    Calm (recoverRotationPreviousDeactivate tenantId connectionId) (returning fun w' =>
      (∃ row', w'.getConnection tenantId connectionId = some row' ∧ row'.binding = some binding) ∧
      ¬ Active w' (buildSecretRef tenantId connectionId (binding.secretVersion - 1))) w := by
  have howned : binding.secretRef.owned tenantId connectionId = true := (getConnection_eq_some.1 hrow).2 ▸ hok.owned
  have hactivated : Calm (activateIfPending binding.secretRef) (returning fun w' => w'.connections = w.connections) w := by
    refine ensures_bind.2 (calm_getVersionState ?_)
    simp only [either_ok]
    rcases hstate : port.getVersionState w.vault binding.secretRef with _ | (_ | _ | _)
    · exact rfl
    · refine (calm_activateVersion (by rw [hstate]; rfl)).mono fun r w' hr => ?_
      cases r with
      | ok _ => exact hr.1
      | error _ => exact hr.elim
    · exact rfl
    · exact rfl
  refine calm_tryCatch (ensures_bind.2 (calm_lockOr404 hrow ?_))
  refine ensures_bind.2 (ensures_bind.2 (ensures_raiseIf.2 ⟨fun hall => ?_, fun _ => calm_boundOrRaise hb howned ?_⟩))
  · rw [hb, Option.all_some, decide_eq_true_eq] at hall
    exact absurd hall (not_lt.2 htwo)
  refine calm_bind hactivated fun _ w₁ h₁ => ?_
  refine calm_bind (calm_deactivateIfLive _) fun _ w₂ h₂ => ?_
  have hrow₂ := (getConnection_congr (h₂.1.trans h₁)).trans hrow
  refine ensures_bind.2 (calm_commit ⟨⟨row.withoutError, getConnection_withRow hrow₂ rfl, hb⟩, ?_⟩)
  exact h₂.2.1

end Calm

/-! The run from a failed call to a new secret. -/

section Completing

variable {w w' : World port} {op : Op} {tenantId connectionId : Uuid} {row : MarketingPublishingConnection}
  {binding : SecretBinding} {plaintext : SecretPlaintext}

theorem execute_of_calm {P : World port → Prop} (h : Calm op.program (returning P) w) :
    ∃ view, (op.execute port [] w).1 = .ok view ∧ P (op.execute port [] w).2 := by
  have hrun := (h.run rfl fun f (hf : f ∈ []) => absurd hf List.not_mem_nil).1
  change returning P (op.execute port [] w).1 (op.execute port [] w).2 at hrun
  revert hrun
  rcases op.execute port [] w with ⟨_ | view, w'⟩
  · exact False.elim
  · exact fun hP => ⟨view, rfl, hP⟩

/-- One call that nothing strikes, and then on from where it leads. -/
theorem CanBind.step (op : Op) {P : World port → Prop} (h : Calm op.program (returning P) w)
    (hnext : ∀ w', Inv w' → P w' → CanBind w' tenantId connectionId plaintext) (hinv : Inv w) :
    CanBind w tenantId connectionId plaintext := by
  obtain ⟨-, -, hP⟩ := execute_of_calm h
  obtain ⟨evs, w₁, w₂, hrun, hbinds⟩ := hnext _ (inv_execute hinv op []).1 hP
  exact ⟨(op, []) :: evs, w₁, w₂, Run.cons ⟨fun _ hf => absurd hf List.not_mem_nil, rfl⟩ hrun, hbinds⟩

/-- The call that binds the secret. -/
theorem CanBind.last (op : Op) (hsupplies : op.Supplies tenantId connectionId plaintext)
    (hrow : w.getConnection tenantId connectionId = some row)
    (h : Calm op.program (returning fun w' =>
      boundRef w' tenantId connectionId = some (buildSecretRef tenantId connectionId (newVersion row)) ∧
      Active w' (buildSecretRef tenantId connectionId (newVersion row))) w) :
    CanBind w tenantId connectionId plaintext := by
  obtain ⟨view, hok, hbound, hactive⟩ := execute_of_calm h
  exact ⟨[], w, _, .nil, op, [], view, row, hsupplies, fun _ hf => absurd hf List.not_mem_nil,
    Prod.ext hok rfl, hrow, hbound, hactive⟩

theorem canBind_unbound (hstores : Stores port) (hrow : w.getConnection tenantId connectionId = some row)
    (hb : row.binding = none) (hactive : ¬ Active w (buildSecretRef tenantId connectionId 1)) :
    CanBind w tenantId connectionId plaintext := by
  refine CanBind.last (.bindSecret tenantId connectionId plaintext (some ⟨.unchecked, none⟩) 0)
    ⟨_, _, .inl rfl⟩ hrow ?_
  rw [newVersion_unbound hb]
  exact calm_bindSecret hstores hrow hb hactive

theorem canBind_rotate (hstores : Stores port) (hinv : Inv w) (hrow : w.getConnection tenantId connectionId = some row)
    (hb : row.binding = some binding)
    (hactive : ¬ Active w (buildSecretRef tenantId connectionId (binding.secretVersion + 1))) :
    CanBind w tenantId connectionId plaintext := by
  have hok := hinv connectionId row binding (getConnection_eq_some.1 hrow).1 hb
  refine CanBind.last (.rotateSecret tenantId connectionId plaintext (some ⟨.unchecked, none⟩) 0)
    ⟨_, _, .inr rfl⟩ hrow ?_
  rw [newVersion_bound hb]
  exact calm_rotateSecret hstores hrow hb hok hactive

/-- Disconnect and bind again, where version 1 is out of the way by then. -/
theorem canBind_disconnect (hstores : Stores port) (hinv : Inv w)
    (hrow : w.getConnection tenantId connectionId = some row) (hb : row.binding = some binding)
    (hactive : (binding.secretVersion : ℕ) ≠ 1 → ¬ Active w (buildSecretRef tenantId connectionId 1)) :
    CanBind w tenantId connectionId plaintext := by
  obtain ⟨hget, htenant⟩ := getConnection_eq_some.1 hrow
  have hok := hinv connectionId row binding hget hb
  refine CanBind.step (.disconnect tenantId connectionId) (calm_disconnect hrow hb hok) (fun w' _ hw' => ?_) hinv
  obtain ⟨⟨row', hrow', hb'⟩, hbound, hother⟩ := hw'
  refine canBind_unbound hstores hrow' hb' ?_
  by_cases hone : (binding.secretVersion : ℕ) = 1
  · have hfirst : binding.secretRef = buildSecretRef tenantId connectionId 1 := by
      have howned := owned_iff.1 hok.owned
      have hversion : binding.secretRef.version = 1 := PNat.coe_injective (by rw [← hok.version, hone]; rfl)
      rw [← htenant, buildSecretRef, ← howned.1, ← howned.2, ← hversion]
    rw [← hfirst]
    exact hbound
  · rw [Active, hother (buildSecretRef tenantId connectionId 1) (hok.ne fun h => hone h.symm)]
    exact hactive hone

/-- A connection that is not stuck can be bound to a new secret. -/
theorem canBind_of_not_stuck (hstores : Stores port) (hinv : Inv w)
    (hrow : w.getConnection tenantId connectionId = some row) (hstuck : ¬ Stuck w tenantId connectionId) :
    CanBind w tenantId connectionId plaintext := by
  cases hb : row.binding with
  | none =>
    refine canBind_unbound hstores hrow hb fun hactive => hstuck ⟨row, hrow, hactive, ?_⟩
    rw [hb]
    nofun
  | some binding =>
    by_cases hnext : Active w (buildSecretRef tenantId connectionId (binding.secretVersion + 1))
    swap
    · exact canBind_rotate hstores hinv hrow hb hnext
    by_cases hfirst : Active w (buildSecretRef tenantId connectionId 1)
    swap
    · exact canBind_disconnect hstores hinv hrow hb fun _ => hfirst
    have hlt : binding.secretVersion < 3 := by
      by_contra hge
      refine hstuck ⟨row, hrow, hfirst, fun binding' hb' => ?_⟩
      obtain rfl := Option.some.inj (hb.symm.trans hb')
      exact ⟨not_lt.1 hge, hnext⟩
    by_cases hone : (binding.secretVersion : ℕ) = 1
    · exact canBind_disconnect hstores hinv hrow hb fun hne => absurd hone hne
    -- Version 2 is bound, so the recovery of a rotation takes version 1 away.
    have hpos := binding.secretVersion.pos
    have htwo : binding.secretVersion = 2 := PNat.coe_injective (by
      have hlt' : (binding.secretVersion : ℕ) < 3 := hlt
      change (binding.secretVersion : ℕ) = 2
      omega)
    have hok := hinv connectionId row binding (getConnection_eq_some.1 hrow).1 hb
    refine CanBind.step (.recoverRotationPreviousDeactivate tenantId connectionId)
      (calm_recoverRotation hrow hb hok htwo.ge) (fun w' hinv' hw' => ?_) hinv
    obtain ⟨⟨row', hrow', hb'⟩, hprevious⟩ := hw'
    rw [htwo] at hprevious
    exact canBind_disconnect hstores hinv' hrow' hb' fun _ => hprevious

end Completing

/-! A stuck connection stays stuck. -/

section Sticking

variable {w : World port} {ref : SecretRef} {tenantId connectionId t c : Uuid} {row : MarketingPublishingConnection}
  {binding : SecretBinding} {plaintext : SecretPlaintext} {ok : Fault → Prop}

/-- The call takes the version away, or takes it out of use. -/
def VaultCall.Retires (call : VaultCall) (ref : SecretRef) : Prop :=
  call = .deactivateVersion ref ∨ call = .deleteVersion ref

theorem active_callVault {call : VaultCall} {vault : port.State} (hcall : call.exec port w.vault = .ok vault)
    (hkeeps : ¬ call.Retires ref) (h : Active w ref) : Active (w.withVault vault) ref := by
  rw [Active] at h
  rw [Active, withVault_vault]
  cases call with
  | storeSecret ref' plaintext metadata now =>
    rw [port.getVersionState_storeSecret _ _ _ _ _ _ hcall, Function.update_apply]
    split
    · rename_i heq
      rw [← heq, h]
      rfl
    · exact h
  | activateVersion ref' =>
    rw [port.getVersionState_activateVersion _ _ _ hcall, Function.update_apply, h, ite_self]
  | deactivateVersion ref' =>
    have hne : ref ≠ ref' := fun heq => hkeeps (.inl (by rw [heq]))
    rw [port.getVersionState_deactivateVersion _ _ _ hcall, Function.update_of_ne hne, h]
  | deleteVersion ref' =>
    have hne : ref ≠ ref' := fun heq => hkeeps (.inr (by rw [heq]))
    rw [port.getVersionState_deleteVersion _ _ _ hcall, Function.update_of_ne hne, h]

/-- A version that keeps the connection stuck while `row` is its row. -/
def InTheWay (row : MarketingPublishingConnection) (version : ℕ+) : Prop :=
  version = 1 ∨ ∃ binding ∈ row.binding, 3 ≤ binding.secretVersion ∧ version = binding.secretVersion + 1

theorem stuck_callVault {call : VaultCall} {vault : port.State} (hcall : call.exec port w.vault = .ok vault)
    (hkeeps : ∀ row, w.getConnection tenantId connectionId = some row → ∀ version, InTheWay row version →
      ¬ call.Retires (buildSecretRef tenantId connectionId version))
    (h : Stuck w tenantId connectionId) : Stuck (w.withVault vault) tenantId connectionId := by
  obtain ⟨row, hrow, hfirst, hbound⟩ := h
  refine ⟨row, hrow, active_callVault hcall (hkeeps row hrow 1 (.inl rfl)) hfirst, fun binding hb => ?_⟩
  obtain ⟨hge, hnext⟩ := hbound binding hb
  exact ⟨hge, active_callVault hcall (hkeeps row hrow _ (.inr ⟨binding, hb, hge, rfl⟩)) hnext⟩

/-- The connection is stuck, and the bound versions are there. -/
def InvStuck (tenantId connectionId : Uuid) (w : World port) : Prop := Inv w ∧ Stuck w tenantId connectionId

/-- While a stuck connection is locked, what is retired is no version in its way. -/
theorem invStuck_deactivate (h : Locked (InvStuck tenantId connectionId) connectionId row w) (hb : binding ∈ row.binding)
    (howned : ref.owned tenantId connectionId = true)
    (hne : ∀ version, 3 ≤ (binding.secretVersion : ℕ) → (version = 1 ∨ version = binding.secretVersion + 1) →
      buildSecretRef tenantId connectionId version ≠ ref) {vault : port.State}
    (hcall : VaultCall.exec port (.deactivateVersion ref) w.vault = .ok vault) :
    Locked (InvStuck tenantId connectionId) connectionId row (w.withVault vault) := by
  refine ⟨⟨inv_closed.deactivate _ howned w vault h.1.1 hcall, stuck_callVault hcall ?_ h.1.2⟩, h.2⟩
  intro row' hrow' version hway hretires
  obtain ⟨row'', hrow'', -, hbound⟩ := h.1.2
  obtain rfl := Option.some.inj (hrow'.symm.trans hrow'')
  obtain rfl := Option.some.inj (h.2.symm.trans (getConnection_eq_some.1 hrow').1)
  have hge : 3 ≤ (binding.secretVersion : ℕ) := (hbound binding hb).1
  have hversion : version = 1 ∨ version = binding.secretVersion + 1 := by
    rcases hway with hone | ⟨binding', hb', -, hnext⟩
    · exact .inl hone
    · obtain rfl := Option.some.inj (hb.symm.trans hb')
      exact .inr hnext
  rcases hretires with heq | heq
  · exact hne version hge hversion (VaultCall.deactivateVersion.inj heq).symm
  · cases heq

/-- What a disconnect or a recovery does leaves a stuck connection stuck. -/
theorem invStuck_rowClosed : RowClosed (InvStuck tenantId connectionId : World port → Prop) tenantId connectionId where
  activate row htenant binding hb howned :=
    Lets.locked fun w vault h hcall => ⟨inv_closed.activate _ howned w vault h.1 hcall,
      stuck_callVault hcall (fun _ _ _ _ hretires => by rcases hretires with h | h <;> cases h) h.2⟩
  deactivate row htenant binding hb howned w vault h hcall := by
    refine invStuck_deactivate h hb howned (fun version hge hversion => ?_) hcall
    refine (h.1.1 connectionId row binding h.2 hb).ne ?_
    rcases hversion with rfl | rfl
    · rw [PNat.one_coe]
      omega
    · rw [PNat.add_coe, PNat.one_coe]
      omega
  deactivatePrevious row htenant binding hb htwo w vault h hcall := by
    refine invStuck_deactivate h hb (owned_buildSecretRef _) (fun version hge hversion heq => ?_) hcall
    have hval : (version : ℕ) = binding.secretVersion - 1 := by
      have hone : 1 < binding.secretVersion := lt_of_lt_of_le (by decide) htwo
      have hversion' : version = binding.secretVersion - 1 := congrArg SecretRef.version heq
      rw [hversion', PNat.sub_coe, if_pos hone, PNat.one_coe]
    rcases hversion with rfl | rfl
    · rw [PNat.one_coe] at hval
      omega
    · rw [PNat.add_coe, PNat.one_coe] at hval
      omega
  write row row' w htenant ht hb h := by
    refine ⟨inv_closed.write row row' w htenant ht hb ⟨h.1.1, h.2⟩, ?_⟩
    have hrow := getConnection_eq_some.2 ⟨h.2, htenant⟩
    obtain ⟨row'', hrow'', hfirst, hbound⟩ := h.1.2
    obtain rfl := Option.some.inj (hrow.symm.trans hrow'')
    exact ⟨row', getConnection_withRow hrow ht, hfirst, fun binding hbinding => hbound binding (hb binding hbinding)⟩

/-- What a service of another connection does leaves a stuck connection stuck. -/
theorem invStuck_closed (hother : ¬ (t = tenantId ∧ c = connectionId)) :
    Closed (InvStuck tenantId connectionId : World port → Prop) t c := by
  have hcalls : ∀ (w : World port) call vault, VaultCall.exec port call w.vault = .ok vault →
      (∀ ref, call.Retires ref → ref.owned t c = true) → Stuck w tenantId connectionId →
      Stuck (w.withVault vault) tenantId connectionId := by
    intro w call vault hcall howned h
    refine stuck_callVault hcall (fun row hrow version hway hretires => hother ?_) h
    have hboth := owned_iff.1 (howned _ hretires)
    exact ⟨hboth.1.symm, hboth.2.symm⟩
  have hwrites : ∀ (w : World port) row row', row.tenantId = t → w.connections.get? c = some row →
      Stuck w tenantId connectionId → Stuck (w.withRow c row') tenantId connectionId := by
    intro w row row' htenant hget ⟨row₀, hrow₀, hfirst, hbound⟩
    refine ⟨row₀, ?_, hfirst, hbound⟩
    obtain ⟨hget₀, htenant₀⟩ := getConnection_eq_some.1 hrow₀
    have hne : connectionId ≠ c := by
      rintro rfl
      obtain rfl := Option.some.inj (hget.symm.trans hget₀)
      exact hother ⟨htenant.symm.trans htenant₀, rfl⟩
    refine getConnection_eq_some.2 ⟨?_, htenant₀⟩
    rw [World.withRow, Table.get?_modify, if_neg hne, hget₀]
  constructor
  · exact fun ref howned w vault h hcall => ⟨inv_closed.activate ref howned w vault h.1 hcall,
      hcalls w _ vault hcall (fun _ hretires => by rcases hretires with h | h <;> cases h) h.2⟩
  · refine fun ref howned w vault h hcall => ⟨inv_closed.deactivate ref howned w vault h.1 hcall, ?_⟩
    refine hcalls w _ vault hcall (fun ref' hretires => ?_) h.2
    rcases hretires with heq | heq
    · rw [← VaultCall.deactivateVersion.inj heq]
      exact howned
    · cases heq
  · exact fun row row' w htenant ht hb h => ⟨inv_closed.write row row' w htenant ht hb ⟨h.1.1, h.2⟩,
      hwrites w row row' htenant h.2 h.1.2⟩
  · exact fun row htenant plaintext metadata now w vault h hcall =>
      ⟨inv_closed.store row htenant plaintext metadata now w vault h.1 hcall,
        hcalls w _ vault hcall (fun _ hretires => by rcases hretires with h | h <;> cases h) h.2⟩
  · refine fun row htenant w vault h hcall => ⟨⟨(inv_closed.delete row htenant w vault ⟨h.1.1, h.2⟩ hcall).1, ?_⟩, h.2⟩
    refine hcalls w _ vault hcall (fun ref' hretires => ?_) h.1.2
    rcases hretires with heq | heq
    · cases heq
    · rw [← VaultCall.deleteVersion.inj heq]
      exact owned_buildSecretRef _
  · exact fun row w now htenant h hpresent => ⟨inv_closed.bind row w now htenant ⟨h.1.1, h.2⟩ hpresent,
      hwrites w row _ htenant h.2 h.1.2⟩

/-- A bind or a rotation of a stuck connection raises before it has done anything. -/
theorem ensures_cleanup_active (hactive : Active w ref) {P : World port → Prop} (hw : P w) :
    Ensures port ok (fun _ => True) (cleanupInactiveOrphanOrRaise ref) (either (fun _ _ => False) fun _ => P) w := by
  refine ensures_bind.2 (ensures_getVersionState trivial (fun _ _ _ => hw) ?_)
  rw [hactive]
  exact hw

/-- What raises first raises. -/
theorem ensures_raising {α β : Type} {p : Action α} {k : α → Action β} {J : World port → Prop}
    (h : Ensures port ok (fun _ => True) p (either (fun _ _ => False) fun _ => J) w) :
    Ensures port ok (fun _ => True) (p >>= k) (either (fun _ _ => False) fun _ => J) w := by
  refine ensures_bind.2 (h.mono fun r w' hr => ?_)
  cases r with
  | ok _ => exact hr.elim
  | error _ => exact hr

theorem ensures_bindSecret_stuck {health : Option HealthCheckResult} {now : ℤ} (h : InvStuck tenantId connectionId w) :
    Ensures port ok (fun _ => True) (bindSecret tenantId connectionId plaintext health now)
      (either (fun _ _ => False) fun _ => InvStuck tenantId connectionId) w := by
  have hnone : Kept port ok (InvStuck tenantId connectionId) (compensate none) := Keeps.pure ()
  refine ensures_raising (ensures_compensating hnone (fun _ _ => trivial) (fun _ _ h => h) ?_)
  refine ensures_bind.2 (ensures_lockOr404 trivial (fun _ => h) (fun _ => h) fun row hrow => ?_)
  refine ensures_bind.2 (ensures_raiseIf.2 ⟨fun _ => h, fun _ => ?_⟩)
  obtain ⟨-, -, hfirst, -⟩ := h.2
  exact ensures_raising (ensures_raising (ensures_cleanup_active hfirst h))

theorem ensures_rotateSecret_stuck {health : Option HealthCheckResult} {now : ℤ} (h : InvStuck tenantId connectionId w) :
    Ensures port ok (fun _ => True) (rotateSecret tenantId connectionId plaintext health now)
      (either (fun _ _ => False) fun _ => InvStuck tenantId connectionId) w := by
  have hnone : Kept port ok (InvStuck tenantId connectionId) (compensate none) := Keeps.pure ()
  refine ensures_raising (ensures_compensating hnone (fun _ _ => trivial) (fun _ _ h => h) ?_)
  refine ensures_bind.2 (ensures_lockOr404 trivial (fun _ => h) (fun _ => h) fun row hrow => ?_)
  refine ensures_bind.2 (ensures_boundOrRaise (fun _ => h) fun old hb _ => ?_)
  obtain ⟨row', hrow', -, hbound⟩ := h.2
  obtain rfl := Option.some.inj (hrow.symm.trans hrow')
  exact ensures_raising (ensures_raising (ensures_cleanup_active (hbound old hb).2 h))

/-- A call that supplies a secret to a stuck connection does not return. -/
theorem not_bindsNew {w' : World port} (h : InvStuck tenantId connectionId w) :
    ¬ BindsNew tenantId connectionId plaintext w w' := by
  rintro ⟨op, faults, view, -, ⟨health, now, hop⟩, -, hexecute, -⟩
  have hraises : ∀ p : Action PublishingConnectionView, p = op.program →
      ¬ Ensures port (fun _ => True) (fun _ => True) p (either (fun _ _ => False) fun _ => InvStuck tenantId connectionId) w := by
    intro p hp hens
    have hrun := (hens.run trivial fun f (_ : f ∈ faults) => trivial).1
    rw [hp, ← Op.execute, hexecute] at hrun
    exact hrun
  rcases hop with rfl | rfl
  · exact hraises _ rfl (ensures_bindSecret_stuck h)
  · exact hraises _ rfl (ensures_rotateSecret_stuck h)

/-- No lifecycle call gets a connection out of being stuck. -/
theorem invStuck_execute (h : InvStuck tenantId connectionId w) (op : Op) (faults : List Fault) :
    InvStuck tenantId connectionId (op.execute port faults w).2 := by
  have hkept : Ensures port (fun _ => True) (fun _ => True) op.program (fun _ => InvStuck tenantId connectionId) w := by
    by_cases hsame : op.tenantId = tenantId ∧ op.connectionId = connectionId
    swap
    · exact (kept_program (invStuck_closed hsame) w h).weaken fun _ _ => trivial
    obtain ⟨rfl, rfl⟩ := hsame
    have herror : ∀ (r : Except LifecycleException PublishingConnectionView) (w' : World port),
        either (fun _ _ => False) (fun _ => InvStuck op.tenantId op.connectionId) r w' →
          InvStuck op.tenantId op.connectionId w' := by
      intro r w' hr
      cases r with
      | ok _ => exact hr.elim
      | error _ => exact hr
    cases op with
    | bindSecret => exact (ensures_bindSecret_stuck h).mono herror
    | rotateSecret => exact (ensures_rotateSecret_stuck h).mono herror
    | disconnect => exact (invStuck_rowClosed.kept_disconnect w h).weaken fun _ _ => trivial
    | recoverBoundActivation => exact (invStuck_rowClosed.kept_recoverBoundActivation w h).weaken fun _ _ => trivial
    | recoverRotationPreviousDeactivate => exact (invStuck_rowClosed.kept_recoverRotation w h).weaken fun _ _ => trivial
  exact (hkept.run trivial fun f (_ : f ∈ faults) => trivial).1

theorem not_canBind (h : InvStuck tenantId connectionId w) : ¬ CanBind w tenantId connectionId plaintext := by
  rintro ⟨evs, w₁, w₂, hrun, hbinds⟩
  have hstuck : InvStuck tenantId connectionId w₁ := hrun.invariant _ h fun w e w' hw hstep => by
    rw [hstep.2]
    exact invStuck_execute hw e.1 e.2
  exact not_bindsNew hstuck hbinds

end Sticking

/-- The lifecycle recovers: whatever has failed in a run, a connection can be bound to a
new secret, by calls that no vault failure strikes, exactly when it is not stuck. -/
theorem secret_lifecycle_recovers (hstores : Stores port) {w₀ w : World port} {evs : List Event} (h0 : w₀.unbound)
    (hrun : Run (LifecycleStep port) w₀ evs w) {tenantId connectionId : Uuid}
    (hconnection : w.getConnection tenantId connectionId ≠ none) (plaintext : SecretPlaintext) :
    CanBind w tenantId connectionId plaintext ↔ ¬ Stuck w tenantId connectionId := by
  have hinv : Inv w := hrun.invariant Inv (inv_of_unbound h0) fun w e w' hw hstep => by
    rw [hstep]
    exact (inv_execute hw e.1 e.2).1
  obtain ⟨row, hrow⟩ := Option.ne_none_iff_exists'.1 hconnection
  exact ⟨fun hcan hstuck => not_canBind ⟨hinv, hstuck⟩ hcan, canBind_of_not_stuck hstores hinv hrow⟩

/-! Both adapters store. -/

theorem stores_inMemory : Stores inMemorySecretVault := by
  intro ref plaintext provider now s hnone
  have hget : Table.get? s ref = none := Option.map_eq_none_iff.1 hnone
  refine ⟨Table.insert s ref ⟨plaintext, .pending, some { provider := provider }⟩, ?_⟩
  simp only [InMemorySecretVault.storeSecret, bind_eq_ok, raiseIf_eq_ok, pure_eq_ok, Option.not_isSome_iff_eq_none]
  exact ⟨⟨⟩, hget, trivial⟩

open EnvelopePgSecretVault in
/-- The envelope adapter stores when its cipher encrypts. -/
theorem stores_envelopePg {vault : EnvelopePgSecretVault}
    (hencrypts : ∀ plaintext ref purpose, ∃ envelope, vault.cipher.encrypt plaintext ref purpose = .ok envelope ∧
      envelope.ciphertextNonce.length = nonceSize ∧ envelope.wrappedDekNonce.length = nonceSize) :
    Stores (envelopePgSecretVault vault) := by
  intro ref plaintext provider now rows hnone
  have hfind : getRow ref rows = none := Option.map_eq_none_iff.1 hnone
  have hrow : Table.get? rows (ref, defaultPurpose) = none := by
    by_contra hthere
    obtain ⟨row, hrow⟩ := Option.ne_none_iff_exists'.1 hthere
    have hno := List.find?_eq_none.1 hfind _ (Table.mem_rows.2 hrow)
    exact hno (decide_eq_true rfl)
  obtain ⟨envelope, hencrypt, hnonce, hdek⟩ := hencrypts plaintext ref defaultPurpose
  refine ⟨Table.insert rows (ref, defaultPurpose) ⟨.pending, envelope, now⟩, ?_⟩
  have hpurpose : purposeOf (some { provider := provider }) = defaultPurpose := rfl
  simp only [EnvelopePgSecretVault.storeSecret, bind_eq_ok, raiseIf_eq_ok, pure_eq_ok, Option.not_isSome_iff_eq_none,
    hpurpose]
  refine ⟨⟨⟩, by decide, envelope, hencrypt, ⟨⟩, ?_, ⟨⟩, hrow, rfl⟩
  rw [hnonce, hdek]
  exact fun h => h.elim (fun h => h rfl) fun h => h rfl

section Examples

theorem demoVault_stores : Stores (envelopePgSecretVault demoVault) :=
  stores_envelopePg fun _ _ _ => ⟨_, rfl, rfl, rfl⟩

theorem demoWorld_unbound : demoWorld.unbound := by
  unfold World.unbound
  decide

/-- After a rotation whose last call is struck and a disconnect the connection is stuck:
version 1 is active, and nothing binds a new secret any more. -/
theorem disconnected_stuck : ∃ w, Run (LifecycleStep _) demoWorld [demoBind [], demoRotate, (.disconnect 1 7, [])] w ∧
    w.getConnection 1 7 ≠ none ∧ ∀ plaintext, ¬ CanBind w 1 7 plaintext := by
  have hinv : Inv ((Op.disconnect 1 7).execute _ [] demoRotated).2 :=
    (inv_execute (inv_execute (inv_execute (inv_of_unbound demoWorld_unbound) _ _).1 _ _).1 _ _).1
  have hrow : (World.getConnection ((Op.disconnect 1 7).execute _ [] demoRotated).2 1 7).map (·.binding) =
      some none := by
    decide
  have hactive : Active ((Op.disconnect 1 7).execute _ [] demoRotated).2 (buildSecretRef 1 7 1) := by
    unfold Active
    decide
  obtain ⟨row, hget, hb⟩ := Option.map_eq_some_iff.1 hrow
  have hrun : Run (LifecycleStep _) demoWorld [demoBind [], demoRotate, (.disconnect 1 7, [])]
      ((Op.disconnect 1 7).execute _ [] demoRotated).2 := Run.cons rfl (Run.cons rfl (Run.single rfl))
  refine ⟨_, hrun, fun hnone => Option.some_ne_none row (hget.symm.trans hnone), fun plaintext => ?_⟩
  refine not_canBind ⟨hinv, row, hget, hactive, ?_⟩
  rw [hb]
  nofun

/-- The theorem after that rotation: the second version is bound and the first active,
and a third secret can be bound. -/
theorem secret_lifecycle_recovers_rotated : Active demoRotated (buildSecretRef 1 7 1) ∧
    ∀ plaintext, CanBind demoRotated 1 7 plaintext := by
  have hrun : Run (LifecycleStep _) demoWorld [demoBind [], demoRotate] demoRotated := Run.cons rfl (Run.single rfl)
  have hactive : Active demoRotated (buildSecretRef 1 7 1) := by
    unfold Active
    decide
  have hbound : (demoRotated.getConnection 1 7).map (fun row => row.binding.map (·.secretVersion)) = some (some 2) := by
    decide
  obtain ⟨row, hget, hversion⟩ := Option.map_eq_some_iff.1 hbound
  obtain ⟨binding, hb, htwo⟩ := Option.map_eq_some_iff.1 hversion
  refine ⟨hactive, fun plaintext => (secret_lifecycle_recovers demoVault_stores demoWorld_unbound hrun ?_ plaintext).2 ?_⟩
  · exact fun hnone => Option.some_ne_none row (hget.symm.trans hnone)
  · rintro ⟨row', hget', -, hall⟩
    obtain rfl := Option.some.inj (hget.symm.trans hget')
    have hge := (hall binding hb).1
    rw [htwo] at hge
    exact absurd hge (by decide)

end Examples

end CoreOps.Secrets
