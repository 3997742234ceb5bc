import CoreOps.Secrets.Revocation

/-! The lifecycle services call by call. A stage says what a service is about to ask of the
database or the vault and what it keeps for later; `Stage.next` is what it goes on with once
it has the answer. The services in a pool take their calls in any order, and a connection's
row is locked from the call that reads it for update to the commit or rollback. -/

namespace CoreOps.Secrets

/-- What bind and rotate are given. -/
structure NewSecret where
  plaintext : SecretPlaintext
  health : Option HealthCheckResult
  now : ℤ

/-- The services that change the binding. -/
inductive Job
  | bindSecret (secret : NewSecret)
  | rotateSecret (secret : NewSecret)
  | disconnect

def Job.op (tenantId connectionId : Uuid) : Job → Op
  | .bindSecret secret => .bindSecret tenantId connectionId secret.plaintext secret.health secret.now
  | .rotateSecret secret => .rotateSecret tenantId connectionId secret.plaintext secret.health secret.now
  | .disconnect => .disconnect tenantId connectionId

/-- What bind and rotate know once they have the row: the new version, and the one it is to
replace. -/
structure Change where
  secret : NewSecret
  row : MarketingPublishingConnection
  newRef : SecretRef
  oldRef : Option SecretRef

abbrev Result := Except LifecycleException PublishingConnectionView

/-- Where a service is, named for its next call. -/
inductive Stage
  | lock (job : Job)
  | findOrphan (change : Change)
  | deleteOrphan (change : Change)
  | store (change : Change)
  | deleteUnhealthy (newRef : SecretRef) (code : String)
  | commitNew (change : Change)
  | rollbackRaise (e : LifecycleException)
  | rollbackNew (newRef : SecretRef) (e : LifecycleException)
  | findPending (newRef : SecretRef) (e : LifecycleException)
  | deletePending (newRef : SecretRef) (e : LifecycleException)
  | findActive (newRef : SecretRef) (oldRef : Option SecretRef)
  | activate (newRef : SecretRef) (oldRef : Option SecretRef)
  | lockView (oldRef : Option SecretRef)
  | rollbackView (oldRef : Option SecretRef) (view : PublishingConnectionView)
  | oldExists (oldRef : SecretRef) (view : PublishingConnectionView)
  | findOld (oldRef : SecretRef) (view : PublishingConnectionView)
  | deactivateOld (oldRef : SecretRef) (view : PublishingConnectionView)
  | lockRecord (code : String) (result : Result)
  | commitRecord (row : MarketingPublishingConnection) (result : Result)
  | rollbackRecord (result : Result)
  | boundExists (row : MarketingPublishingConnection) (ref : SecretRef)
  | deactivateBound (row : MarketingPublishingConnection) (ref : SecretRef)
  | confirm (row : MarketingPublishingConnection) (ref : SecretRef)
  | commitView (row : MarketingPublishingConnection)
  | commitRevokeFailed (row : MarketingPublishingConnection)
  | rollbackRecover (e : LifecycleException)

/-- A service at work or at its end. -/
inductive Thread
  | running (stage : Stage)
  | done (result : Result)

section Stages

variable (tenantId connectionId : Uuid)

@[reducible] def Stage.call : Stage → Call
  | .lock _ | .lockView _ | .lockRecord _ _ => .lockConnection tenantId connectionId
  | .findOrphan change => .getVersionState change.newRef
  | .deleteOrphan change => .vault (.deleteVersion change.newRef)
  | .store change => .vault (.storeSecret change.newRef change.secret.plaintext
      (some { provider := some change.row.provider.value }) change.secret.now)
  | .deleteUnhealthy newRef _ | .deletePending newRef _ => .vault (.deleteVersion newRef)
  | .commitNew change => .commit connectionId (change.row.bind change.newRef change.secret.now)
  | .rollbackRaise _ | .rollbackNew _ _ | .rollbackView _ _ | .rollbackRecord _ | .rollbackRecover _ => .rollback
  | .findPending newRef _ | .findActive newRef _ => .getVersionState newRef
  | .activate newRef _ => .vault (.activateVersion newRef)
  | .oldExists oldRef _ => .versionExists oldRef
  | .findOld oldRef _ => .getVersionState oldRef
  | .deactivateOld oldRef _ => .vault (.deactivateVersion oldRef)
  | .commitRecord row _ | .commitView row | .commitRevokeFailed row => .commit connectionId row
  | .boundExists _ ref => .versionExists ref
  | .deactivateBound _ ref => .vault (.deactivateVersion ref)
  | .confirm _ ref => .confirmInactive ref

/-! What the exception handlers go on with. -/

/-- While nothing is stored. -/
def compensatedNone : LifecycleException → Thread
  | .lifecycleError code => .running (.rollbackRaise (.lifecycleError code))
  | _ => .running (.rollbackRaise (safeError "db_commit_failed"))

/-- While the new version is stored. -/
def compensatedNew (newRef : SecretRef) : LifecycleException → Thread
  | .lifecycleError code => .running (.rollbackNew newRef (.lifecycleError code))
  | _ => .running (.rollbackNew newRef (safeError "db_commit_failed"))

def activationFailed : LifecycleException → Thread
  | .vaultError _ =>
    .running (.lockRecord "vault_activation_required" (.error (safeError "vault_activation_required")))
  | e => .done (.error e)

def deactivationFailed (view : PublishingConnectionView) : LifecycleException → Thread
  | .vaultError _ => .running (.lockRecord "vault_recovery_required" (.ok view))
  | e => .done (.error e)

def disconnectFailed : LifecycleException → Thread
  | .lifecycleError code => .running (.rollbackRaise (.lifecycleError code))
  | _ => .running (.rollbackRecover (safeError "db_commit_failed"))

/-- `_safe_delete_pending` passes over errors of the vault. -/
def pendingFailed (e : LifecycleException) : LifecycleException → Thread
  | .vaultError _ => .done (.error e)
  | e' => .done (.error e')

/-- With the row in hand. -/
def Job.locked (row : MarketingPublishingConnection) : Job → Thread
  | .bindSecret secret =>
    if row.binding.isSome then .running (.rollbackRaise (safeError "secret_already_bound"))
    else .running (.findOrphan ⟨secret, row, buildSecretRef tenantId connectionId 1, none⟩)
  | .rotateSecret secret =>
    match row.binding with
    | none => .running (.rollbackRaise (safeError "secret_not_bound"))
    | some binding =>
      if binding.secretRef.owned tenantId connectionId = false then
        .running (.rollbackRaise (safeError "secret_ref_invalid"))
      else .running (.findOrphan
        ⟨secret, row, buildSecretRef tenantId connectionId (binding.secretVersion + 1), some binding.secretRef⟩)
  | .disconnect =>
    match row.binding with
    | none => .running (.commitView row.disconnected)
    | some binding =>
      if binding.secretRef.owned tenantId connectionId = false then
        .running (.rollbackRaise (safeError "secret_ref_invalid"))
      else .running (.boundExists row binding.secretRef)

/-- Without it. -/
def Job.failed (e : LifecycleException) : Job → Thread
  | .bindSecret _ | .rotateSecret _ => compensatedNone e
  | .disconnect => disconnectFailed e

/-- The health check decides on a version that has been stored. -/
def Change.checked (change : Change) : Thread :=
  match change.secret.health with
  | none => .running (.rollbackNew change.newRef (safeError "db_commit_failed"))
  | some health =>
    if health.status = .unhealthy then
      .running (.deleteUnhealthy change.newRef (Text.orElse health.errorCode "health_check_failed"))
    else .running (.commitNew change)

/-- What is left of a service after its view: a rotate deactivates the version it replaced. -/
def viewed (view : PublishingConnectionView) : Option SecretRef → Thread
  | none => .done (.ok view)
  | some oldRef => .running (.oldExists oldRef view)

/-- The answer to a stage's call, and what the service goes on with. -/
def Stage.next : (st : Stage) → Except LifecycleException (Answer (st.call tenantId connectionId)) → Thread
  | .lock job, .ok none => job.failed .connectionNotFound
  | .lock job, .ok (some row) => job.locked tenantId connectionId row
  | .lock job, .error e => job.failed e
  | .findOrphan change, .ok none => .running (.store change)
  | .findOrphan _, .ok (some .active) => .running (.rollbackRaise (safeError "vault_active_orphan"))
  | .findOrphan change, .ok (some _) => .running (.deleteOrphan change)
  | .findOrphan _, .error e => compensatedNone e
  | .deleteOrphan change, .ok _ => .running (.store change)
  | .deleteOrphan _, .error e => compensatedNone e
  | .store change, .ok _ => change.checked
  | .store _, .error e => compensatedNone e
  | .deleteUnhealthy _ code, .ok _ => .running (.rollbackRaise (safeError code))
  | .deleteUnhealthy newRef _, .error e => compensatedNew newRef e
  | .commitNew change, .ok _ => .running (.findActive change.newRef change.oldRef)
  | .commitNew change, .error e => compensatedNew change.newRef e
  | .rollbackRaise e, .ok _ => .done (.error e)
  | .rollbackRaise _, .error e => .done (.error e)
  | .rollbackNew newRef e, .ok _ => .running (.findPending newRef e)
  | .rollbackNew _ _, .error e => .done (.error e)
  | .findPending newRef e, .ok (some .pending) => .running (.deletePending newRef e)
  | .findPending newRef e, .ok (some .deactivated) => .running (.deletePending newRef e)
  | .findPending _ e, .ok _ => .done (.error e)
  | .findPending _ e, .error e' => pendingFailed e e'
  | .deletePending _ e, .ok _ => .done (.error e)
  | .deletePending _ e, .error e' => pendingFailed e e'
  | .findActive _ oldRef, .ok (some .active) => .running (.lockView oldRef)
  | .findActive newRef oldRef, .ok (some .pending) => .running (.activate newRef oldRef)
  | .findActive _ _, .ok _ => activationFailed (.vaultError "secret_version_inactive")
  | .findActive _ _, .error e => activationFailed e
  | .activate _ oldRef, .ok _ => .running (.lockView oldRef)
  | .activate _ _, .error e => activationFailed e
  | .lockView _, .ok none => .done (.error .connectionNotFound)
  | .lockView oldRef, .ok (some row) => .running (.rollbackView oldRef (toView row))
  | .lockView _, .error e => .done (.error e)
  | .rollbackView oldRef view, .ok _ => viewed view oldRef
  | .rollbackView _ _, .error e => .done (.error e)
  | .oldExists _ view, .ok false => .done (.ok view)
  | .oldExists oldRef view, .ok true => .running (.findOld oldRef view)
  | .oldExists _ view, .error e => deactivationFailed view e
  | .findOld _ view, .ok (some .deactivated) => .done (.ok view)
  | .findOld oldRef view, .ok _ => .running (.deactivateOld oldRef view)
  | .findOld _ view, .error e => deactivationFailed view e
  | .deactivateOld _ view, .ok _ => .done (.ok view)
  | .deactivateOld _ view, .error e => deactivationFailed view e
  | .lockRecord code result, .ok (some row) => .running (.commitRecord (row.withError code) result)
  | .lockRecord _ result, .ok none => .running (.rollbackRecord result)
  | .lockRecord _ result, .error _ => .running (.rollbackRecord result)
  | .commitRecord _ result, .ok _ => .done result
  | .commitRecord _ result, .error _ => .running (.rollbackRecord result)
  | .rollbackRecord result, .ok _ => .done result
  | .rollbackRecord _, .error e => .done (.error e)
  | .boundExists row ref, .ok false => .running (.confirm row ref)
  | .boundExists row ref, .ok true => .running (.deactivateBound row ref)
  | .boundExists _ _, .error e => disconnectFailed e
  | .deactivateBound row ref, .ok _ => .running (.confirm row ref)
  | .deactivateBound _ _, .error (.vaultError _) => .running (.rollbackRaise (safeError "vault_disconnect_failed"))
  | .deactivateBound _ _, .error e => disconnectFailed e
  | .confirm row _, .ok true => .running (.commitView row.cleared)
  | .confirm row _, .ok false => .running (.commitRevokeFailed (row.withError "vault_revoke_failed"))
  | .confirm _ _, .error e => disconnectFailed e
  | .commitView row, .ok _ => .done (.ok (toView row))
  | .commitView _, .error e => disconnectFailed e
  | .commitRevokeFailed _, .ok _ => .running (.rollbackRaise (safeError "vault_revoke_failed"))
  | .commitRevokeFailed _, .error e => disconnectFailed e
  | .rollbackRecover e, .ok _ => .running (.lockRecord "vault_recovery_required" (.error e))
  | .rollbackRecover _, .error e => .done (.error e)

/-- A program asks and answers as a thread does. -/
inductive Performs : Action PublishingConnectionView → Thread → Prop
  | ret (view : PublishingConnectionView) : Performs (.ret view) (.done (.ok view))
  | raise (e : LifecycleException) : Performs (.raise e) (.done (.error e))
  | call (st : Stage) (next : Except LifecycleException (Answer (st.call tenantId connectionId)) →
      Action PublishingConnectionView) (h : ∀ answer, Performs (next answer) (st.next tenantId connectionId answer)) :
    Performs (.call (st.call tenantId connectionId) next) (.running st)

/-! The services are performed stage by stage. -/

section Performing

variable {tenantId connectionId : Uuid} {α : Type}

theorem bind_ret (p : Action α) : p.bind .ret = p := by
  induction p with
  | ret a => rfl
  | raise e => rfl
  | call c next ih => exact congrArg (Program.call c) (funext ih)

theorem bind_assoc {β γ : Type} (p : Action α) (f : α → Action β) (g : β → Action γ) :
    (p.bind f).bind g = p.bind fun a => (f a).bind g := by
  induction p with
  | ret a => rfl
  | raise e => rfl
  | call c next ih => exact congrArg (Program.call c) (funext ih)

/-- What is thrown or returned at the end. -/
def ofResult : Result → Action PublishingConnectionView
  | .ok view => .ret view
  | .error e => .raise e

theorem performs_ofResult (result : Result) : Performs tenantId connectionId (ofResult result) (.done result) := by
  cases result with
  | ok view => exact .ret view
  | error e => exact .raise e

theorem performs_rollbackRaise (k : α → Action PublishingConnectionView) (e : LifecycleException) :
    Performs tenantId connectionId ((rollback >>= fun _ => (throw e : Action α)) >>= k) (.running (.rollbackRaise e)) := by
  refine .call (.rollbackRaise e) _ fun answer => ?_
  cases answer with
  | ok a => exact .raise e
  | error e' => exact .raise e'

theorem performs_lockRecord (code : String) (result : Result) :
    Performs tenantId connectionId (recordRecoveryCode tenantId connectionId code >>= fun _ => ofResult result)
      (.running (.lockRecord code result)) := by
  have hrollback : Performs tenantId connectionId (rollback >>= fun _ => ofResult result)
      (.running (.rollbackRecord result)) := by
    refine .call (.rollbackRecord result) _ fun answer => ?_
    cases answer with
    | ok a => exact performs_ofResult result
    | error e => exact .raise e
  refine .call (.lockRecord code result) _ fun answer => ?_
  cases answer with
  | error e => exact hrollback
  | ok found =>
    cases found with
    | none => exact hrollback
    | some row =>
      refine .call (.commitRecord (row.withError code) result) _ fun answer => ?_
      cases answer with
      | ok a => exact performs_ofResult result
      | error e => exact hrollback

/-! Bind and rotate. -/

theorem performs_compensatedNone (k : α → Action PublishingConnectionView) (e : LifecycleException) :
    Performs tenantId connectionId (compensating none (throw e) >>= k) (compensatedNone e) := by
  cases e with
  | lifecycleError code => exact performs_rollbackRaise k (.lifecycleError code)
  | connectionNotFound => exact performs_rollbackRaise k (safeError "db_commit_failed")
  | vaultError code => exact performs_rollbackRaise k (safeError "db_commit_failed")
  | other => exact performs_rollbackRaise k (safeError "db_commit_failed")

theorem performs_rollbackNew (k : α → Action PublishingConnectionView) (newRef : SecretRef) (e : LifecycleException) :
    Performs tenantId connectionId
      ((rollback >>= fun _ => compensate (some newRef) >>= fun _ => (throw e : Action α)) >>= k)
      (.running (.rollbackNew newRef e)) := by
  have hdelete : Performs tenantId connectionId
      (((tryCatch (callVault (.deleteVersion newRef)) fun
        | .vaultError _ => return ()
        | e => throw e) >>= fun _ => (throw e : Action α)) >>= k) (.running (.deletePending newRef e)) := by
    refine .call (.deletePending newRef e) _ fun answer => ?_
    cases answer with
    | ok a => exact .raise e
    | error e' => cases e' <;> exact .raise _
  refine .call (.rollbackNew newRef e) _ fun answer => ?_
  cases answer with
  | error e' => exact .raise e'
  | ok a =>
    refine .call (.findPending newRef e) _ fun answer => ?_
    cases answer with
    | error e' => cases e' <;> exact .raise _
    | ok found =>
      cases found with
      | none => exact .raise e
      | some state =>
        cases state with
        | pending => exact hdelete
        | active => exact .raise e
        | deactivated => exact hdelete

theorem performs_compensatedNew (k : α → Action PublishingConnectionView) (newRef : SecretRef) (e : LifecycleException) :
    Performs tenantId connectionId (compensating (some newRef) (throw e) >>= k) (compensatedNew newRef e) := by
  cases e with
  | lifecycleError code => exact performs_rollbackNew k newRef (.lifecycleError code)
  | connectionNotFound => exact performs_rollbackNew k newRef (safeError "db_commit_failed")
  | vaultError code => exact performs_rollbackNew k newRef (safeError "db_commit_failed")
  | other => exact performs_rollbackNew k newRef (safeError "db_commit_failed")

theorem performs_postCommitActivate (newRef : SecretRef) (oldRef : Option SecretRef)
    {k : PublishingConnectionView → Action PublishingConnectionView}
    (hk : ∀ view, Performs tenantId connectionId (k view) (viewed view oldRef)) :
    Performs tenantId connectionId (postCommitActivate tenantId connectionId newRef >>= k)
      (.running (.findActive newRef oldRef)) := by
  have hview : Performs tenantId connectionId ((do
      let row ← lockOr404 tenantId connectionId
      rollback
      return toView row) >>= k) (.running (.lockView oldRef)) := by
    refine .call (.lockView oldRef) _ fun answer => ?_
    cases answer with
    | error e => exact .raise e
    | ok found =>
      cases found with
      | none => exact .raise _
      | some row =>
        refine .call (.rollbackView oldRef (toView row)) _ fun answer => ?_
        cases answer with
        | ok a => exact hk (toView row)
        | error e => exact .raise e
  have hfailed : ∀ e, Performs tenantId connectionId (((match e with
      | .vaultError _ => do
        recordRecoveryCode tenantId connectionId "vault_activation_required"
        throw (safeError "vault_activation_required")
      | e => throw e) >>= fun _ : Unit => (do
      let row ← lockOr404 tenantId connectionId
      rollback
      return toView row)) >>= k) (activationFailed e) := by
    intro e
    cases e with
    | vaultError code =>
      change Performs _ _ ((((recordRecoveryCode tenantId connectionId _).bind _).bind _).bind k) _
      rw [bind_assoc, bind_assoc]
      exact performs_lockRecord _ (.error (safeError "vault_activation_required"))
    | lifecycleError code => exact .raise _
    | connectionNotFound => exact .raise _
    | other => exact .raise _
  refine .call (.findActive newRef oldRef) _ fun answer => ?_
  cases answer with
  | error e => exact hfailed e
  | ok found =>
    cases found with
    | none => exact hfailed (.vaultError "secret_version_inactive")
    | some state =>
      cases state with
      | active => exact hview
      | deactivated => exact hfailed (.vaultError "secret_version_inactive")
      | pending =>
        refine .call (.activate newRef oldRef) _ fun answer => ?_
        cases answer with
        | ok a => exact hview
        | error e => exact hfailed e

theorem performs_postCommitDeactivatePrevious (oldRef : SecretRef) (view : PublishingConnectionView) :
    Performs tenantId connectionId
      (postCommitDeactivatePrevious tenantId connectionId oldRef >>= fun _ => (return view))
      (.running (.oldExists oldRef view)) := by
  have hfailed : ∀ e, Performs tenantId connectionId ((match e with
      | .vaultError _ => recordRecoveryCode tenantId connectionId "vault_recovery_required"
      | e => throw e) >>= fun _ => (return view)) (deactivationFailed view e) := by
    intro e
    cases e with
    | vaultError code => exact performs_lockRecord _ (.ok view)
    | lifecycleError code => exact .raise _
    | connectionNotFound => exact .raise _
    | other => exact .raise _
  have hdeactivate : Performs tenantId connectionId ((tryCatch (callVault (.deactivateVersion oldRef)) fun
      | .vaultError _ => recordRecoveryCode tenantId connectionId "vault_recovery_required"
      | e => throw e) >>= fun _ => (return view)) (.running (.deactivateOld oldRef view)) := by
    refine .call (.deactivateOld oldRef view) _ fun answer => ?_
    cases answer with
    | ok a => exact .ret view
    | error e => exact hfailed e
  refine .call (.oldExists oldRef view) _ fun answer => ?_
  cases answer with
  | error e => exact hfailed e
  | ok found =>
    cases found with
    | false => exact .ret view
    | true =>
      refine .call (.findOld oldRef view) _ fun answer => ?_
      cases answer with
      | error e => exact hfailed e
      | ok found =>
        cases found with
        | none => exact hdeactivate
        | some state =>
          cases state with
          | pending => exact hdeactivate
          | active => exact hdeactivate
          | deactivated => exact .ret view

/-- From the health check on. -/
theorem performs_checked (change : Change) {k : PublishingConnectionView → Action PublishingConnectionView}
    (hk : ∀ view, Performs tenantId connectionId (k view) (viewed view change.oldRef)) :
    Performs tenantId connectionId (commitNewVersion connectionId change.row change.newRef change.secret.health
      change.secret.now >>= fun _ => postCommitActivate tenantId connectionId change.newRef >>= k) change.checked := by
  obtain ⟨⟨plaintext, health, now⟩, row, newRef, oldRef⟩ := change
  cases health with
  | none =>
    change Performs _ _ (((compensating _ (throw _)).bind _).bind _) _
    rw [bind_assoc]
    exact performs_compensatedNew _ newRef .other
  | some health =>
    by_cases hstatus : health.status = .unhealthy
    · have hdelete : checkHealth newRef (some health) = compensating (some newRef) (callVault (.deleteVersion newRef)) >>=
          fun _ => compensating none (throw (safeError (Text.orElse health.errorCode "health_check_failed"))) :=
        if_pos hstatus
      have hchecked : Change.checked ⟨⟨plaintext, some health, now⟩, row, newRef, oldRef⟩ =
          .running (.deleteUnhealthy newRef (Text.orElse health.errorCode "health_check_failed")) := if_pos hstatus
      change Performs _ _ (((checkHealth newRef (some health)).bind _).bind _) _
      rw [hchecked, hdelete]
      refine .call (.deleteUnhealthy newRef _) _ fun answer => ?_
      cases answer with
      | ok a =>
        change Performs _ _ (((compensating none (throw _)).bind _).bind _) _
        rw [bind_assoc]
        exact performs_rollbackRaise _ _
      | error e =>
        change Performs _ _ ((((compensating (some newRef) (throw e)).bind _).bind _).bind _) _
        rw [bind_assoc, bind_assoc]
        exact performs_compensatedNew _ newRef e
    · have hreturn : checkHealth newRef (some health) = return () := if_neg hstatus
      have hchecked : Change.checked ⟨⟨plaintext, some health, now⟩, row, newRef, oldRef⟩ =
          .running (.commitNew ⟨⟨plaintext, some health, now⟩, row, newRef, oldRef⟩) := if_neg hstatus
      change Performs _ _ (((checkHealth newRef (some health)).bind _).bind _) _
      rw [hchecked, hreturn]
      refine .call (.commitNew ⟨⟨plaintext, some health, now⟩, row, newRef, oldRef⟩) _ fun answer => ?_
      cases answer with
      | ok a => exact performs_postCommitActivate newRef oldRef hk
      | error e => exact performs_compensatedNew _ newRef e

/-- From the search for an orphan on; `r` is what the locked part hands on. -/
theorem performs_findOrphan (change : Change) (r : α) {k : α → Action PublishingConnectionView}
    (hk : Performs tenantId connectionId (k r) change.checked) :
    Performs tenantId connectionId (compensating none (storeNewVersion change.row change.newRef change.secret.plaintext
      change.secret.now >>= fun _ => (return r)) >>= k) (.running (.findOrphan change)) := by
  have hstore : Performs tenantId connectionId (compensating none (callVault (.storeSecret change.newRef
      change.secret.plaintext (some { provider := some change.row.provider.value }) change.secret.now) >>=
        fun _ => (return r)) >>= k) (.running (.store change)) := by
    refine .call (.store change) _ fun answer => ?_
    cases answer with
    | ok a => exact hk
    | error e => exact performs_compensatedNone k e
  refine .call (.findOrphan change) _ fun answer => ?_
  cases answer with
  | error e => exact performs_compensatedNone k e
  | ok found =>
    have hdelete : Performs tenantId connectionId (compensating none ((callVault (.deleteVersion change.newRef) >>=
        fun _ => callVault (.storeSecret change.newRef change.secret.plaintext
          (some { provider := some change.row.provider.value }) change.secret.now)) >>= fun _ => (return r)) >>= k)
        (.running (.deleteOrphan change)) := by
      refine .call (.deleteOrphan change) _ fun answer => ?_
      cases answer with
      | ok a => exact hstore
      | error e => exact performs_compensatedNone k e
    cases found with
    | none => exact hstore
    | some state =>
      cases state with
      | active => exact performs_compensatedNone k (safeError "vault_active_orphan")
      | pending => exact hdelete
      | deactivated => exact hdelete

theorem boundOrRaise_of_owned {row : MarketingPublishingConnection} {binding : SecretBinding}
    (hb : row.binding = some binding) (howned : binding.secretRef.owned tenantId connectionId = true) :
    boundOrRaise tenantId connectionId row = return binding := by
  simp [boundOrRaise, hb, Program.raiseIf, howned]
  rfl

theorem boundOrRaise_of_not_owned {row : MarketingPublishingConnection} {binding : SecretBinding}
    (hb : row.binding = some binding) (howned : binding.secretRef.owned tenantId connectionId = false) :
    boundOrRaise tenantId connectionId row = throw (safeError "secret_ref_invalid") := by
  simp [boundOrRaise, hb, Program.raiseIf, howned]
  rfl

theorem boundOrRaise_unbound {row : MarketingPublishingConnection} (hb : row.binding = none) :
    boundOrRaise tenantId connectionId row = throw (safeError "secret_not_bound") := by
  simp [boundOrRaise, hb]

theorem performs_bindSecret (secret : NewSecret) :
    Performs tenantId connectionId
      (bindSecret tenantId connectionId secret.plaintext secret.health secret.now) (.running (.lock (.bindSecret secret))) := by
  refine .call (.lock (.bindSecret secret)) _ fun answer => ?_
  cases answer with
  | error e => exact performs_compensatedNone _ e
  | ok found =>
    cases found with
    | none => exact performs_compensatedNone _ .connectionNotFound
    | some row =>
      obtain ⟨rowTenant, provider, status, tokenStatus, binding, code, message⟩ := row
      cases binding with
      | some binding => exact performs_compensatedNone _ (safeError "secret_already_bound")
      | none =>
        refine performs_findOrphan ⟨secret, _, _, none⟩ _ ?_
        have h := @performs_checked tenantId connectionId
          ⟨secret, ⟨rowTenant, provider, status, tokenStatus, none, code, message⟩, buildSecretRef tenantId connectionId 1, none⟩
          _ fun view => .ret view
        exact bind_ret (postCommitActivate tenantId connectionId (buildSecretRef tenantId connectionId 1)) ▸ h

theorem performs_rotateSecret (secret : NewSecret) :
    Performs tenantId connectionId
      (rotateSecret tenantId connectionId secret.plaintext secret.health secret.now)
      (.running (.lock (.rotateSecret secret))) := by
  refine .call (.lock (.rotateSecret secret)) _ fun answer => ?_
  cases answer with
  | error e => exact performs_compensatedNone _ e
  | ok found =>
    cases found with
    | none => exact performs_compensatedNone _ .connectionNotFound
    | some row =>
      change Performs _ _ ((compensating none ((boundOrRaise tenantId connectionId row).bind _)).bind _)
        (Job.locked tenantId connectionId row (.rotateSecret secret))
      cases hb : row.binding with
      | none =>
        rw [boundOrRaise_unbound hb, Job.locked, hb]
        exact performs_compensatedNone _ (safeError "secret_not_bound")
      | some old =>
        cases howned : old.secretRef.owned tenantId connectionId with
        | false =>
          have hlocked : Job.locked tenantId connectionId row (.rotateSecret secret) =
              .running (.rollbackRaise (safeError "secret_ref_invalid")) := by simp [Job.locked, hb, howned]
          rw [boundOrRaise_of_not_owned hb howned, hlocked]
          exact performs_compensatedNone _ (safeError "secret_ref_invalid")
        | true =>
          have hlocked : Job.locked tenantId connectionId row (.rotateSecret secret) = .running (.findOrphan
              ⟨secret, row, buildSecretRef tenantId connectionId (old.secretVersion + 1), some old.secretRef⟩) := by
            simp [Job.locked, hb, howned]
          rw [boundOrRaise_of_owned hb howned, hlocked]
          refine performs_findOrphan ⟨secret, row, _, some old.secretRef⟩ (row, old) ?_
          exact @performs_checked tenantId connectionId
            ⟨secret, row, buildSecretRef tenantId connectionId (old.secretVersion + 1), some old.secretRef⟩ _
            fun view => performs_postCommitDeactivatePrevious old.secretRef view

/-! Disconnect. -/

/-- The exception handlers of disconnect, around a body. -/
abbrev guarded (tenantId connectionId : Uuid) (body : Action PublishingConnectionView) : Action PublishingConnectionView :=
  rollingBack "db_commit_failed" (recordRecoveryCode tenantId connectionId "vault_recovery_required") body

theorem performs_disconnectFailed (e : LifecycleException) :
    Performs tenantId connectionId (guarded tenantId connectionId (throw e)) (disconnectFailed e) := by
  have hrecover : ∀ e', Performs tenantId connectionId (rollback >>= fun _ =>
      recordRecoveryCode tenantId connectionId "vault_recovery_required" >>= fun _ => throw e')
      (.running (.rollbackRecover e')) := by
    intro e'
    refine .call (.rollbackRecover e') _ fun answer => ?_
    cases answer with
    | ok a => exact performs_lockRecord _ (.error e')
    | error e'' => exact .raise e''
  cases e with
  | lifecycleError code => 
    refine .call (.rollbackRaise (.lifecycleError code)) _ fun answer => ?_
    cases answer with
    | ok a => exact .raise _
    | error e' => exact .raise e'
  | connectionNotFound => exact hrecover _
  | vaultError code => exact hrecover _
  | other => exact hrecover _

theorem performs_commitView (row : MarketingPublishingConnection) :
    Performs tenantId connectionId
      (guarded tenantId connectionId (commit connectionId row >>= fun _ => (return toView row)))
      (.running (.commitView row)) := by
  refine .call (.commitView row) _ fun answer => ?_
  cases answer with
  | ok a => exact .ret _
  | error e => exact performs_disconnectFailed e

theorem performs_confirm (row : MarketingPublishingConnection) (ref : SecretRef) :
    Performs tenantId connectionId (guarded tenantId connectionId (clearBinding connectionId row ref))
      (.running (.confirm row ref)) := by
  refine .call (.confirm row ref) _ fun answer => ?_
  cases answer with
  | error e => exact performs_disconnectFailed e
  | ok inactive =>
    cases inactive with
    | true => exact performs_commitView row.cleared
    | false =>
      refine .call (.commitRevokeFailed (row.withError "vault_revoke_failed")) _ fun answer => ?_
      cases answer with
      | ok a => exact performs_disconnectFailed (safeError "vault_revoke_failed")
      | error e => exact performs_disconnectFailed e

theorem performs_boundExists (row : MarketingPublishingConnection) (ref : SecretRef) :
    Performs tenantId connectionId
      (guarded tenantId connectionId (revoke ref >>= fun _ => clearBinding connectionId row ref))
      (.running (.boundExists row ref)) := by
  refine .call (.boundExists row ref) _ fun answer => ?_
  cases answer with
  | error e => exact performs_disconnectFailed e
  | ok found =>
    cases found with
    | false => exact performs_confirm row ref
    | true =>
      refine .call (.deactivateBound row ref) _ fun answer => ?_
      cases answer with
      | ok a => exact performs_confirm row ref
      | error e =>
        cases e with
        | vaultError code => exact performs_disconnectFailed (safeError "vault_disconnect_failed")
        | lifecycleError code => exact performs_disconnectFailed (.lifecycleError code)
        | connectionNotFound => exact performs_disconnectFailed .connectionNotFound
        | other => exact performs_disconnectFailed .other

theorem performs_disconnect :
    Performs tenantId connectionId (disconnect tenantId connectionId) (.running (.lock .disconnect)) := by
  refine .call (.lock .disconnect) _ fun answer => ?_
  cases answer with
  | error e => exact performs_disconnectFailed e
  | ok found =>
    cases found with
    | none => exact performs_disconnectFailed .connectionNotFound
    | some row =>
      change Performs _ _ (guarded tenantId connectionId (match row.binding with
        | none => commit connectionId row.disconnected >>= fun _ => return toView row.disconnected
        | some _ => boundOrRaise tenantId connectionId row >>= fun binding =>
          revoke binding.secretRef >>= fun _ => clearBinding connectionId row binding.secretRef))
        (Job.locked tenantId connectionId row .disconnect)
      cases hb : row.binding with
      | none =>
        have hlocked : Job.locked tenantId connectionId row .disconnect = .running (.commitView row.disconnected) := by
          simp [Job.locked, hb]
        rw [hlocked]
        exact performs_commitView row.disconnected
      | some binding =>
        cases howned : binding.secretRef.owned tenantId connectionId with
        | false =>
          have hlocked : Job.locked tenantId connectionId row .disconnect =
              .running (.rollbackRaise (safeError "secret_ref_invalid")) := by simp [Job.locked, hb, howned]
          rw [hlocked, boundOrRaise_of_not_owned hb howned]
          exact performs_disconnectFailed (safeError "secret_ref_invalid")
        | true =>
          have hlocked : Job.locked tenantId connectionId row .disconnect =
              .running (.boundExists row binding.secretRef) := by simp [Job.locked, hb, howned]
          rw [hlocked, boundOrRaise_of_owned hb howned]
          exact performs_boundExists row binding.secretRef

/-- Each service is performed stage by stage, from its lock on. -/
theorem performs_op (job : Job) :
    Performs tenantId connectionId (job.op tenantId connectionId).program (.running (.lock job)) := by
  cases job with
  | bindSecret secret => exact performs_bindSecret secret
  | rotateSecret secret => exact performs_rotateSecret secret
  | disconnect => exact performs_disconnect

end Performing

end Stages

end CoreOps.Secrets
