import CoreOps.Secrets.Rules

/-! What the lifecycle services keep. A property of the world survives a service when it
survives the few things the service does: the calls to the vault on versions of its
connection, and the writes of the locked row. -/

namespace CoreOps.Secrets

open Program

def Op.tenantId : Op → Uuid
  | .bindSecret tenantId .. | .rotateSecret tenantId .. | .disconnect tenantId _ | .recoverBoundActivation tenantId _
  | .recoverRotationPreviousDeactivate tenantId _ => tenantId

def Op.connectionId : Op → Uuid
  | .bindSecret _ connectionId .. | .rotateSecret _ connectionId .. | .disconnect _ connectionId
  | .recoverBoundActivation _ connectionId | .recoverRotationPreviousDeactivate _ connectionId => connectionId

variable {port : SecretVaultPort} {ok : Fault → Prop} {I J K : World port → Prop} {w : World port} {ref : SecretRef}
  {tenantId connectionId : Uuid} {row : MarketingPublishingConnection} {α : Type}

theorem owned_iff : ref.owned tenantId connectionId = true ↔ ref.tenantId = tenantId ∧ ref.connectionId = connectionId := by
  simp [SecretRef.owned]

theorem owned_buildSecretRef (version : ℕ+) :
    (buildSecretRef tenantId connectionId version).owned tenantId connectionId = true := owned_iff.2 ⟨rfl, rfl⟩

theorem getConnection_eq_some : w.getConnection tenantId connectionId = some row ↔
    w.connections.get? connectionId = some row ∧ row.tenantId = tenantId := by
  rw [World.getConnection, Option.filter_eq_some_iff, decide_eq_true_eq]

/-- A call to the vault that takes effect keeps `K`. -/
def Lets (K : World port → Prop) (c : VaultCall) : Prop :=
  ∀ w vault, K w → c.exec port w.vault = .ok vault → K (w.withVault vault)

/-- Of the world `K` holds, and the row of the connection is as it was locked. -/
def Locked (K : World port → Prop) (connectionId : Uuid) (row : MarketingPublishingConnection) (w : World port) : Prop :=
  K w ∧ w.connections.get? connectionId = some row

theorem Lets.locked {c : VaultCall} (h : Lets K c) : Lets (Locked K connectionId row) c :=
  fun w vault hw hc => ⟨h w vault hw.1 hc, hw.2⟩

/-- Started in `K` the program stays in `K`, at whatever call it is struck. -/
abbrev Kept (port : SecretVaultPort) (ok : Fault → Prop) (K : World port → Prop) (p : Action α) : Prop :=
  Keeps (environment port) ok K p

section Calls

theorem kept_callVault {c : VaultCall} (hc : Lets K c) : Kept port ok K (callVault c) := by
  intro w h
  exact ensures_callVault h (fun vault => hc w vault h) (fun _ _ => h) (fun _ vault _ => hc w vault h)
    fun vault => hc w vault h

theorem kept_rollback : Kept port ok K rollback := fun _ h => ensures_rollback h h

theorem kept_getVersionState : Kept port ok K (getVersionState ref) :=
  fun _ h => ensures_getVersionState h (fun _ _ _ => h) h

theorem kept_versionExists : Kept port ok K (versionExists ref) :=
  fun _ h => ensures_versionExists h (fun _ _ _ => h) h

theorem kept_confirmInactive : Kept port ok K (confirmInactive ref) :=
  fun _ h => ensures_confirmInactive h (fun _ _ _ => h) h

theorem kept_lockOr404 : Kept port ok K (lockOr404 tenantId connectionId) :=
  fun _ h => ensures_lockOr404 h (fun _ => h) (fun _ => h) fun _ _ => h

/-- The state of a version is looked up, and each of its states dealt with. -/
theorem kept_byState {k : Option SecretVersionState → Action α} (hnone : Kept port ok K (k none))
    (hpending : Kept port ok K (k (some .pending))) (hactive : Kept port ok K (k (some .active)))
    (hdeactivated : Kept port ok K (k (some .deactivated))) : Kept port ok K (getVersionState ref >>= k) := by
  refine Keeps.bind kept_getVersionState fun state => ?_
  rcases state with _ | (_ | _ | _)
  · exact hnone
  · exact hpending
  · exact hactive
  · exact hdeactivated

theorem kept_ensureActive (h : Lets K (.activateVersion ref)) : Kept port ok K (ensureActive ref) :=
  kept_byState (Keeps.throw _) (kept_callVault h) (Keeps.pure ()) (Keeps.throw _)

theorem kept_reactivate (h : Lets K (.activateVersion ref)) : Kept port ok K (reactivate ref) :=
  kept_byState (Keeps.throw _) (kept_callVault h) (Keeps.pure ()) (Keeps.throw _)

theorem kept_activateIfPending (h : Lets K (.activateVersion ref)) : Kept port ok K (activateIfPending ref) :=
  kept_byState (Keeps.pure ()) (kept_callVault h) (Keeps.pure ()) (Keeps.pure ())

theorem kept_deactivateIfLive (h : Lets K (.deactivateVersion ref)) : Kept port ok K (deactivateIfLive ref) := by
  refine Keeps.bind kept_versionExists fun found => ?_
  cases found with
  | false => exact Keeps.pure ()
  | true => exact kept_byState (kept_callVault h) (kept_callVault h) (kept_callVault h) (Keeps.pure ())

theorem kept_revoke (h : Lets K (.deactivateVersion ref)) : Kept port ok K (revoke ref) := by
  refine Keeps.bind kept_versionExists fun found => ?_
  cases found with
  | false => exact Keeps.pure ()
  | true => exact Keeps.tryCatch (kept_callVault h) fun e => by cases e <;> exact Keeps.throw _

theorem kept_cleanup (h : Lets K (.deleteVersion ref)) : Kept port ok K (cleanupInactiveOrphanOrRaise ref) :=
  kept_byState (Keeps.pure ()) (kept_callVault h) (Keeps.throw _) (kept_callVault h)

theorem kept_safeDeletePending (h : Lets K (.deleteVersion ref)) : Kept port ok K (safeDeletePending ref) := by
  refine Keeps.tryCatch (kept_byState (Keeps.pure ()) (kept_callVault h) (Keeps.pure ()) (kept_callVault h)) fun e => ?_
  cases e with
  | vaultError _ => exact Keeps.pure ()
  | _ => exact Keeps.throw _

/-- The binding a row is found to have, if it is the one looked for. -/
theorem ensures_boundOrRaise {Q : Except LifecycleException SecretBinding → World port → Prop}
    (herror : ∀ e, Q (.error e) w)
    (h : ∀ binding ∈ row.binding, binding.secretRef.owned tenantId connectionId = true → Q (.ok binding) w) :
    Ensures port ok I (boundOrRaise tenantId connectionId row) Q w := by
  unfold boundOrRaise
  cases hb : row.binding with
  | none => exact herror _
  | some binding =>
    refine ensures_bind.2 (ensures_raiseIf.2 ⟨fun _ => herror _, fun howned => ?_⟩)
    exact h binding hb (by simpa using howned)

end Calls

section Handlers

/-- The handlers of bind and rotate raise, whatever their compensation comes to. -/
theorem ensures_compensating {newRef : Option SecretRef} {body : Action α}
    {Q : Except LifecycleException α → World port → Prop} (hcompensate : Kept port ok J (compensate newRef))
    (hJ : ∀ w, J w → I w) (hQ : ∀ e w', J w' → Q (.error e) w')
    (h : Ensures port ok I body (either (fun a => Q (.ok a)) fun _ => J) w) :
    Ensures port ok I (compensating newRef body) Q w := by
  refine ensures_tryCatch.2 (h.mono fun r w' hr => ?_)
  cases r with
  | ok a => exact hr
  | error e =>
    have hraise : ∀ e' : LifecycleException, Ensures port ok I (do rollback; compensate newRef; throw e') Q w' := by
      intro e'
      refine kept_rollback.ensures_bind hJ hQ (fun _ w₁ h₁ => ?_) hr
      exact hcompensate.ensures_bind hJ hQ (fun _ w₂ h₂ => hQ e' w₂ h₂) h₁
    cases e with
    | lifecycleError errorCode => exact hraise _
    | _ => exact hraise _

theorem kept_rollingBack {code : String} {record : Action Unit} {body : Action α} (hrecord : Kept port ok K record)
    (hbody : Kept port ok K body) : Kept port ok K (rollingBack code record body) := by
  refine Keeps.tryCatch hbody fun e => ?_
  cases e with
  | lifecycleError _ => exact Keeps.bind kept_rollback fun _ => Keeps.throw _
  | _ => exact Keeps.bind kept_rollback fun _ => Keeps.bind hrecord fun _ => Keeps.throw _

/-- A service that locks a row and goes on with it. -/
theorem kept_locked {k : MarketingPublishingConnection → Action α}
    (hk : ∀ row w, row.tenantId = tenantId → Locked K connectionId row w →
      Ensures port ok K (k row) (fun _ => K) w) :
    Kept port ok K (do
      let row ← lockOr404 tenantId connectionId
      k row) := by
  intro w h
  refine ensures_bind.2 (ensures_lockOr404 h (fun _ => h) (fun _ => h) fun row hrow => ?_)
  obtain ⟨hget, htenant⟩ := getConnection_eq_some.1 hrow
  exact hk row w htenant ⟨h, hget⟩

/-- A step of a service that holds a row. -/
theorem ensures_step {p : Action α} {β : Type} {k : α → Action β} (hp : Kept port ok (Locked K connectionId row) p)
    (hk : ∀ a w, Locked K connectionId row w → Ensures port ok K (k a) (fun _ => K) w)
    (h : Locked K connectionId row w) : Ensures port ok K (p >>= k) (fun _ => K) w :=
  hp.ensures_bind (fun _ => And.left) (fun _ _ => And.left) hk h

/-- The locked row is written, and the service goes on. -/
theorem ensures_write {row' : MarketingPublishingConnection} {k : Unit → Action α} (h : K w)
    (hwritten : K (w.withRow connectionId row')) (hk : ∀ u, Kept port ok K (k u)) :
    Ensures port ok K (commit connectionId row' >>= k) (fun _ => K) w :=
  ensures_bind.2 (ensures_commit h hwritten (fun _ => h) (hk () _ hwritten))

end Handlers

/-! The services that bind no new version. -/

/-- What `K` has to survive in a disconnect or a recovery of the connection. -/
structure RowClosed (K : World port → Prop) (tenantId connectionId : Uuid) : Prop where
  activate : ∀ row, row.tenantId = tenantId → ∀ binding ∈ row.binding,
    binding.secretRef.owned tenantId connectionId = true →
      Lets (Locked K connectionId row) (.activateVersion binding.secretRef)
  deactivate : ∀ row, row.tenantId = tenantId → ∀ binding ∈ row.binding,
    binding.secretRef.owned tenantId connectionId = true →
      Lets (Locked K connectionId row) (.deactivateVersion binding.secretRef)
  deactivatePrevious : ∀ row, row.tenantId = tenantId → ∀ binding ∈ row.binding, 2 ≤ binding.secretVersion →
    Lets (Locked K connectionId row) (.deactivateVersion (buildSecretRef tenantId connectionId (binding.secretVersion - 1)))
  write : ∀ row row' w, row.tenantId = tenantId → row'.tenantId = row.tenantId →
    (∀ binding ∈ row'.binding, binding ∈ row.binding) → Locked K connectionId row w → K (w.withRow connectionId row')

namespace RowClosed

theorem kept_recordRecoveryCode (h : RowClosed K tenantId connectionId) {code : String} :
    Kept port ok K (recordRecoveryCode tenantId connectionId code) := by
  refine Keeps.tryCatch (kept_locked fun row w htenant hw => ?_) fun _ => kept_rollback
  have hwritten := h.write row (row.withError code) w htenant rfl (fun _ hb => hb) hw
  exact ensures_commit hw.1 hwritten (fun _ => hw.1) hwritten

theorem kept_disconnect (h : RowClosed K tenantId connectionId) :
    Kept port ok K (disconnect tenantId connectionId) := by
  refine kept_rollingBack h.kept_recordRecoveryCode (kept_locked fun row w htenant hw => ?_)
  cases hb : row.binding with
  | none =>
    exact ensures_write hw.1 (h.write row row.disconnected w htenant rfl (fun _ hb => hb) hw) fun _ => Keeps.pure _
  | some binding =>
    refine ensures_bind.2 (ensures_boundOrRaise (fun _ => hw.1) fun binding hb howned => ?_)
    refine ensures_step (kept_revoke (h.deactivate row htenant binding hb howned)) (fun _ w hw => ?_) hw
    refine ensures_step kept_confirmInactive (fun inactive w hw => ?_) hw
    cases inactive with
    | false => exact ensures_write hw.1 (h.write row (row.withError _) w htenant rfl (fun _ hb => hb) hw) fun _ => Keeps.throw _
    | true => exact ensures_write hw.1 (h.write row row.cleared w htenant rfl nofun hw) fun _ => Keeps.pure _

theorem kept_recoverBoundActivation (h : RowClosed K tenantId connectionId) :
    Kept port ok K (recoverBoundActivation tenantId connectionId) := by
  refine kept_rollingBack (Keeps.pure ()) (kept_locked fun row w htenant hw => ?_)
  refine ensures_bind.2 (ensures_boundOrRaise (fun _ => hw.1) fun binding hb howned => ?_)
  refine ensures_step (kept_reactivate (h.activate row htenant binding hb howned)) (fun _ w hw => ?_) hw
  exact ensures_write hw.1 (h.write row row.recovered w htenant rfl (fun _ hb => hb) hw) fun _ => Keeps.pure _

theorem kept_recoverRotation (h : RowClosed K tenantId connectionId) :
    Kept port ok K (recoverRotationPreviousDeactivate tenantId connectionId) := by
  refine kept_rollingBack (Keeps.pure ()) (kept_locked fun row w htenant hw => ?_)
  refine ensures_bind.2 (ensures_bind.2 (ensures_raiseIf.2 ⟨fun _ => hw.1, fun hrotated => ?_⟩))
  refine ensures_boundOrRaise (fun _ => hw.1) fun binding hb howned => ?_
  have htwo : 2 ≤ binding.secretVersion := by
    rw [Option.mem_def.1 hb, Option.all_some, decide_eq_true_eq, not_lt] at hrotated
    exact hrotated
  refine ensures_step (kept_activateIfPending (h.activate row htenant binding hb howned)) (fun _ w hw => ?_) hw
  refine ensures_step (kept_deactivateIfLive (h.deactivatePrevious row htenant binding hb htwo)) (fun _ w hw => ?_) hw
  exact ensures_write hw.1 (h.write row row.withoutError w htenant rfl (fun _ hb => hb) hw) fun _ => Keeps.pure _

end RowClosed

/-! The services that bind a new version. -/

/-- The version a bind or a rotation makes for the connection. -/
def newVersion (row : MarketingPublishingConnection) : ℕ+ :=
  match row.binding with
  | none => 1
  | some binding => binding.secretVersion + 1

/-- What `K` has to survive in any service of the connection. -/
structure Closed (K : World port → Prop) (tenantId connectionId : Uuid) : Prop where
  activate : ∀ ref, ref.owned tenantId connectionId = true → Lets K (.activateVersion ref)
  deactivate : ∀ ref, ref.owned tenantId connectionId = true → Lets K (.deactivateVersion ref)
  write : ∀ row row' w, row.tenantId = tenantId → row'.tenantId = row.tenantId →
    (∀ binding ∈ row'.binding, binding ∈ row.binding) → Locked K connectionId row w → K (w.withRow connectionId row')
  store : ∀ row, row.tenantId = tenantId → ∀ plaintext metadata now,
    Lets K (.storeSecret (buildSecretRef tenantId connectionId (newVersion row)) plaintext metadata now)
  delete : ∀ row, row.tenantId = tenantId →
    Lets (Locked K connectionId row) (.deleteVersion (buildSecretRef tenantId connectionId (newVersion row)))
  bind : ∀ row w now, row.tenantId = tenantId → Locked K connectionId row w →
    port.getVersionState w.vault (buildSecretRef tenantId connectionId (newVersion row)) ≠ none →
      K (w.withRow connectionId (row.bind (buildSecretRef tenantId connectionId (newVersion row)) now))

namespace Closed

variable {plaintext : SecretPlaintext} {health : Option HealthCheckResult} {now : ℤ}

theorem rowClosed (h : Closed K tenantId connectionId) : RowClosed K tenantId connectionId where
  activate _ _ _ _ howned := (h.activate _ howned).locked
  deactivate _ _ _ _ howned := (h.deactivate _ howned).locked
  deactivatePrevious _ _ _ _ _ := (h.deactivate _ (owned_buildSecretRef _)).locked
  write := h.write

/-- The new version is stored while the row is locked. -/
theorem ensures_storeNewVersion (h : Closed K tenantId connectionId) (htenant : row.tenantId = tenantId)
    (href : ref = buildSecretRef tenantId connectionId (newVersion row)) (hw : Locked K connectionId row w) :
    Ensures port ok K (storeNewVersion row ref plaintext now)
      (either (fun _ w' => Locked K connectionId row w' ∧ port.getVersionState w'.vault ref ≠ none) fun _ => K) w := by
  subst href
  refine (kept_cleanup (h.delete row htenant)).ensures_bind (fun _ => And.left) (fun _ _ => And.left) (fun _ w hw => ?_) hw
  have hstore : Lets (Locked K connectionId row) _ :=
    (h.store row htenant plaintext (some { provider := some row.provider.value }) now).locked
  refine ensures_callVault hw.1 (fun vault hvault => (hstore w vault hw hvault).1) (fun _ _ => hw.1)
    (fun _ vault _ hvault => (hstore w vault hw hvault).1) fun vault hvault => ⟨hstore w vault hw hvault, ?_⟩
  rw [withVault_vault, port.getVersionState_storeSecret _ _ _ _ _ _ hvault, Function.update_self]
  exact Option.some_ne_none _

/-- A health check that lets the version pass has called nothing. -/
theorem ensures_checkHealth (hdelete : Lets (Locked K connectionId row) (.deleteVersion ref))
    (hw : Locked K connectionId row w) :
    Ensures port ok K (checkHealth ref health) (either (fun _ w' => w' = w) fun _ => Locked K connectionId row) w := by
  have hcompensate : Kept port ok (Locked K connectionId row) (compensate (some ref)) := kept_safeDeletePending hdelete
  cases health with
  | none => exact ensures_compensating hcompensate (fun _ => And.left) (fun _ _ h => h) hw
  | some health =>
    by_cases hstatus : health.status = .unhealthy
    · rw [checkHealth, if_pos hstatus]
      refine ensures_bind.2 (ensures_compensating hcompensate (fun _ => And.left) (fun _ _ h => h) ?_)
      refine Ensures.mono ((kept_callVault hdelete w hw).weaken fun _ => And.left) fun r w' hr => ?_
      cases r with
      | error _ => exact hr
      | ok _ =>
        have hnone : Kept port ok (Locked K connectionId row) (compensate none) := Keeps.pure ()
        exact ensures_compensating hnone (fun _ => And.left) (fun _ _ h => h) hr
    · rw [checkHealth, if_neg hstatus]
      exact rfl

/-- A version that is there is bound to the locked row. -/
theorem ensures_commitNewVersion (h : Closed K tenantId connectionId) (htenant : row.tenantId = tenantId)
    (href : ref = buildSecretRef tenantId connectionId (newVersion row)) (hw : Locked K connectionId row w)
    (hpresent : port.getVersionState w.vault ref ≠ none) :
    Ensures port ok K (commitNewVersion connectionId row ref health now) (fun _ => K) w := by
  subst href
  refine ensures_bind.2 ((ensures_checkHealth (h.delete row htenant) hw).mono fun r w' hr => ?_)
  cases r with
  | error _ => exact hr.1
  | ok _ =>
    obtain rfl := hr
    have hwritten := h.bind row w' now htenant hw hpresent
    exact ensures_compensating (kept_safeDeletePending (h.delete row htenant)) (fun _ => And.left) (fun _ _ h => h.1)
      (ensures_commit hw.1 hwritten (fun _ => hw) hwritten)

theorem kept_postCommitActivate (h : Closed K tenantId connectionId) (howned : ref.owned tenantId connectionId = true) :
    Kept port ok K (postCommitActivate tenantId connectionId ref) := by
  refine Keeps.bind (Keeps.tryCatch (kept_ensureActive (h.activate ref howned)) fun e => ?_) fun _ =>
    Keeps.bind kept_lockOr404 fun row => Keeps.bind kept_rollback fun _ => Keeps.pure _
  cases e with
  | vaultError _ => exact Keeps.bind h.rowClosed.kept_recordRecoveryCode fun _ => Keeps.throw _
  | _ => exact Keeps.throw _

theorem kept_postCommitDeactivatePrevious (h : Closed K tenantId connectionId)
    (howned : ref.owned tenantId connectionId = true) :
    Kept port ok K (postCommitDeactivatePrevious tenantId connectionId ref) := by
  refine Keeps.tryCatch (kept_deactivateIfLive (h.deactivate ref howned)) fun e => ?_
  cases e with
  | vaultError _ => exact h.rowClosed.kept_recordRecoveryCode
  | _ => exact Keeps.throw _

theorem kept_bindSecret (h : Closed K tenantId connectionId) :
    Kept port ok K (bindSecret tenantId connectionId plaintext health now) := by
  intro w hw
  have hnone : Kept port ok K (compensate none) := Keeps.pure ()
  refine ensures_bind.2 (ensures_compensating hnone (fun _ h => h) (fun _ _ h => h) ?_)
  refine ensures_bind.2 (ensures_lockOr404 hw (fun _ => hw) (fun _ => hw) fun row hrow => ?_)
  refine ensures_bind.2 (ensures_raiseIf.2 ⟨fun _ => hw, fun hunbound => ?_⟩)
  obtain ⟨hget, htenant⟩ := getConnection_eq_some.1 hrow
  have href : buildSecretRef tenantId connectionId 1 = buildSecretRef tenantId connectionId (newVersion row) := by
    rw [newVersion, Option.not_isSome_iff_eq_none.1 hunbound]
  refine ensures_bind.2 ((h.ensures_storeNewVersion htenant href ⟨hw, hget⟩).mono fun r w' hr => ?_)
  cases r with
  | error _ => exact hr
  | ok _ =>
    refine ensures_bind.2 ((h.ensures_commitNewVersion htenant href hr.1 hr.2).mono fun r w' hr => ?_)
    cases r with
    | error _ => exact hr
    | ok _ => exact h.kept_postCommitActivate (owned_buildSecretRef 1) w' hr

theorem kept_rotateSecret (h : Closed K tenantId connectionId) :
    Kept port ok K (rotateSecret tenantId connectionId plaintext health now) := by
  intro w hw
  have hnone : Kept port ok K (compensate none) := Keeps.pure ()
  refine ensures_bind.2 (ensures_compensating hnone (fun _ h => h) (fun _ _ h => h) ?_)
  refine ensures_bind.2 (ensures_lockOr404 hw (fun _ => hw) (fun _ => hw) fun row hrow => ?_)
  refine ensures_bind.2 (ensures_boundOrRaise (fun _ => hw) fun old hb howned => ?_)
  obtain ⟨hget, htenant⟩ := getConnection_eq_some.1 hrow
  have href : buildSecretRef tenantId connectionId (old.secretVersion + 1) =
      buildSecretRef tenantId connectionId (newVersion row) := by
    rw [newVersion, Option.mem_def.1 hb]
  refine ensures_bind.2 ((h.ensures_storeNewVersion htenant href ⟨hw, hget⟩).mono fun r w' hr => ?_)
  cases r with
  | error _ => exact hr
  | ok _ =>
    refine ensures_bind.2 ((h.ensures_commitNewVersion htenant href hr.1 hr.2).mono fun r w' hr => ?_)
    cases r with
    | error _ => exact hr
    | ok _ =>
      exact Keeps.bind (h.kept_postCommitActivate (owned_buildSecretRef _)) (fun _ =>
        Keeps.bind (h.kept_postCommitDeactivatePrevious howned) fun _ => Keeps.pure _) w' hr

end Closed

/-- A service keeps what its calls and writes keep. -/
theorem kept_program {op : Op} (h : Closed K op.tenantId op.connectionId) : Kept port ok K op.program := by
  cases op with
  | bindSecret => exact h.kept_bindSecret
  | rotateSecret => exact h.kept_rotateSecret
  | disconnect => exact h.rowClosed.kept_disconnect
  | recoverBoundActivation => exact h.rowClosed.kept_recoverBoundActivation
  | recoverRotationPreviousDeactivate => exact h.rowClosed.kept_recoverRotation

end CoreOps.Secrets
