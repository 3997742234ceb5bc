import CoreOps.Secrets.Pool

/-! Of the services that work on one connection at the same time, each step that comes in time
keeps every readable version accounted for; so when all of them have ended, the version the
row names is readable and no other is. -/

namespace CoreOps.Secrets

variable {port : SecretVaultPort} {tenantId connectionId : Uuid} {pool pool' : Pool port} {i : ℕ} {st : Stage}

theorem step_cases (h : PoolStep tenantId connectionId pool i pool') : ∃ st, pool.threads[i]? = some (.running st) ∧
    ((st.call tenantId connectionId).isLock = true → pool.lock = none) ∧ pool' = pool.moved tenantId connectionId i st := by
  unfold PoolStep Pool.step? at h
  cases hget : pool.threads[i]? with
  | none =>
    rw [hget] at h
    cases h
  | some th =>
    cases th with
    | done result =>
      rw [hget] at h
      cases h
    | running st =>
      rw [hget] at h
      change (if _ then none else some (pool.moved tenantId connectionId i st)) = some pool' at h
      by_cases hwait : (st.call tenantId connectionId).isLock = true ∧ pool.lock.isSome = true
      · rw [if_pos hwait] at h
        cases h
      · rw [if_neg hwait] at h
        refine ⟨st, rfl, fun hlock => ?_, (Option.some.inj h).symm⟩
        by_contra hheld
        exact hwait ⟨hlock, Option.isSome_iff_ne_none.2 hheld⟩

/-! One step, stage by stage. -/

section Moves

variable {newRef oldRef ref : SecretRef} {change : Change} {e : LifecycleException}

/-- The lock of another service is not touched. -/
theorem stays {lock : Option ℕ} : ∀ j ≠ i, lock = some j → lock = some j := fun _ _ hj => hj

theorem released {lock : Option ℕ} : ∀ j ≠ i, lock = some j → (if lock = some i then none else lock) = some j := by
  rintro j hne rfl
  rw [if_neg fun h => hne (Option.some.inj h)]

theorem taken {lock lock' : Option ℕ} (h : lock = none) : ∀ j ≠ i, lock = some j → lock' = some j := by
  rintro j - rfl
  cases h

/-- A thread that neither holds the row nor relies on anything. -/
def Quiet (port : SecretVaultPort) (tenantId connectionId : Uuid) (th : Thread) : Prop :=
  ¬ th.Holds ∧ ∀ w : World port, th.Fact tenantId connectionId w

theorem quiet_done (result : Result) : Quiet port tenantId connectionId (.done result) := ⟨fun h => h, fun _ => trivial⟩

theorem quiet_rollbackRaise (e : LifecycleException) : Quiet port tenantId connectionId (.running (.rollbackRaise e)) :=
  ⟨Bool.false_ne_true, fun _ => trivial⟩

theorem quiet_lockRecord (code : String) (result : Result) :
    Quiet port tenantId connectionId (.running (.lockRecord code result)) := ⟨Bool.false_ne_true, fun _ => trivial⟩

theorem quiet_compensatedNone (e : LifecycleException) : Quiet port tenantId connectionId (compensatedNone e) := by
  cases e <;> exact quiet_rollbackRaise _

theorem quiet_activationFailed (e : LifecycleException) : Quiet port tenantId connectionId (activationFailed e) := by
  cases e with
  | vaultError code => exact quiet_lockRecord _ _
  | _ => exact quiet_done _

theorem quiet_deactivationFailed (view : PublishingConnectionView) (e : LifecycleException) :
    Quiet port tenantId connectionId (deactivationFailed view e) := by
  cases e with
  | vaultError code => exact quiet_lockRecord _ _
  | _ => exact quiet_done _

/-- A call that changes nothing, after which a service that answered for nothing is quiet. -/
theorem PoolInv.advance_quiet {lock' : Option ℕ} {th' : Thread} (h : PoolInv tenantId connectionId pool)
    (hget : pool.threads[i]? = some (.running st)) (hlock : ∀ j ≠ i, pool.lock = some j → lock' = some j)
    (hquiet : Quiet port tenantId connectionId th') (hnone : st.answersFor = none) (hrevokes : st.revokes = false) :
    PoolInv tenantId connectionId ⟨pool.world, lock', pool.threads.set i th'⟩ :=
  h.advance_free hget hlock (fun hh => absurd hh hquiet.1) (hquiet.2 _) hnone hrevokes

/-- What a service knows once it has the row. -/
theorem fact_locked (h : PoolInv tenantId connectionId pool) {row : MarketingPublishingConnection}
    (hrow : pool.world.getConnection tenantId connectionId = some row) (job : Job) :
    (job.locked tenantId connectionId row).Fact tenantId connectionId pool.world := by
  have hboundRef : boundRef pool.world tenantId connectionId = row.binding.map (·.secretRef) := by
    rw [boundRef, hrow, Option.bind_some]
  cases job with
  | bindSecret secret =>
    cases hb : row.binding with
    | some binding =>
      have hlocked : Job.locked tenantId connectionId row (.bindSecret secret) =
          .running (.rollbackRaise (safeError "secret_already_bound")) := by simp [Job.locked, hb]
      rw [hlocked]
      trivial
    | none =>
      have hlocked : Job.locked tenantId connectionId row (.bindSecret secret) =
          .running (.findOrphan ⟨secret, row, buildSecretRef tenantId connectionId 1, none⟩) := by simp [Job.locked, hb]
      rw [hb, Option.map_none] at hboundRef
      rw [hlocked]
      refine ⟨hrow, owned_buildSecretRef 1, hboundRef.symm, fun hsome => ?_⟩
      cases hboundRef.symm.trans hsome
  | rotateSecret secret =>
    cases hb : row.binding with
    | none =>
      have hlocked : Job.locked tenantId connectionId row (.rotateSecret secret) =
          .running (.rollbackRaise (safeError "secret_not_bound")) := by simp [Job.locked, hb]
      rw [hlocked]
      trivial
    | some binding =>
      obtain ⟨howned, hversion⟩ := h.fitting row binding hrow hb
      have hlocked : Job.locked tenantId connectionId row (.rotateSecret secret) = .running (.findOrphan
          ⟨secret, row, buildSecretRef tenantId connectionId (binding.secretVersion + 1), some binding.secretRef⟩) := by
        simp [Job.locked, hb, howned]
      rw [hb, Option.map_some] at hboundRef
      rw [hlocked]
      refine ⟨hrow, owned_buildSecretRef _, hboundRef.symm, fun hsame => ?_⟩
      have hnext : binding.secretRef.version = binding.secretVersion + 1 :=
        congrArg SecretRef.version (Option.some.inj (hboundRef.symm.trans hsame))
      rw [← hversion] at hnext
      exact absurd hnext (PNat.lt_add_right _ 1).ne
  | disconnect =>
    cases hb : row.binding with
    | none =>
      have hlocked : Job.locked tenantId connectionId row .disconnect = .running (.commitView row.disconnected) := by
        simp [Job.locked, hb]
      rw [hb, Option.map_none] at hboundRef
      rw [hlocked]
      refine ⟨by rw [hrow]; rfl, (getConnection_eq_some.1 hrow).2, hb, fun ref hsome => ?_⟩
      cases hboundRef.symm.trans hsome
    | some binding =>
      obtain ⟨howned, -⟩ := h.fitting row binding hrow hb
      have hlocked : Job.locked tenantId connectionId row .disconnect =
          .running (.boundExists row binding.secretRef) := by simp [Job.locked, hb, howned]
      rw [hb, Option.map_some] at hboundRef
      rw [hlocked]
      exact ⟨hrow, hboundRef⟩

theorem moved_lock (h : PoolInv tenantId connectionId pool) {job : Job} (hget : pool.threads[i]? = some (.running (.lock job)))
    (hfree : pool.lock = none) : PoolInv tenantId connectionId (pool.moved tenantId connectionId i (.lock job)) := by
  have hmoved : pool.moved tenantId connectionId i (.lock job) =
      ⟨pool.world, holder i pool.lock (.lockConnection tenantId connectionId)
        (.ok (pool.world.getConnection tenantId connectionId)), pool.threads.set i (Stage.next tenantId connectionId (.lock job)
          (.ok (pool.world.getConnection tenantId connectionId)))⟩ := rfl
  rw [hmoved]
  cases hrow : pool.world.getConnection tenantId connectionId with
  | none =>
    cases job with
    | bindSecret secret => exact h.advance_quiet hget (taken hfree) (quiet_compensatedNone .connectionNotFound) rfl rfl
    | rotateSecret secret => exact h.advance_quiet hget (taken hfree) (quiet_compensatedNone .connectionNotFound) rfl rfl
    | disconnect =>
      exact h.advance_quiet hget (taken hfree) ⟨Bool.false_ne_true, fun _ => trivial⟩ rfl rfl
  | some row => exact h.advance_free hget (taken hfree) (fun _ => rfl) (fact_locked h hrow job) rfl rfl

theorem moved_findOrphan (h : PoolInv tenantId connectionId pool)
    (hget : pool.threads[i]? = some (.running (.findOrphan change))) :
    PoolInv tenantId connectionId (pool.moved tenantId connectionId i (.findOrphan change)) := by
  have hmoved : pool.moved tenantId connectionId i (.findOrphan change) =
      ⟨pool.world, pool.lock, pool.threads.set i (Stage.next tenantId connectionId (.findOrphan change)
        (.ok (port.getVersionState pool.world.vault change.newRef)))⟩ := rfl
  have hfits : change.Fits tenantId connectionId pool.world := h.facts i _ hget
  have hlock : pool.lock = some i := h.holds i _ hget rfl
  rw [hmoved]
  cases port.getVersionState pool.world.vault change.newRef with
  | none => exact h.advance_free hget stays (fun _ => hlock) hfits rfl rfl
  | some state =>
    cases state with
    | active => exact h.advance_quiet hget stays (quiet_rollbackRaise _) rfl rfl
    | pending => exact h.advance_free hget stays (fun _ => hlock) hfits rfl rfl
    | deactivated => exact h.advance_free hget stays (fun _ => hlock) hfits rfl rfl

theorem moved_deleteOrphan (h : PoolInv tenantId connectionId pool)
    (hget : pool.threads[i]? = some (.running (.deleteOrphan change))) :
    PoolInv tenantId connectionId (pool.moved tenantId connectionId i (.deleteOrphan change)) := by
  have hfits : change.Fits tenantId connectionId pool.world := h.facts i _ hget
  have hlock : pool.lock = some i := h.holds i _ hget rfl
  obtain ⟨s, hs, hkill⟩ := handle_delete pool.world change.newRef
  have hmoved : pool.moved tenantId connectionId i (.deleteOrphan change) =
      ⟨pool.world.withVault s, pool.lock, pool.threads.set i (.running (.store change))⟩ := by
    simp only [Pool.moved, Stage.call, hs, holder, Stage.next]
  rw [hmoved]
  refine h.advance_kill hget stays (fun _ => hlock) rfl (hfits.congr rfl) hkill (fun r ha => ?_)
    (fun hb => absurd hb hfits.fresh) fun hrev => absurd hrev Bool.false_ne_true
  cases ha

theorem answersFor_checked : change.checked.answersFor = some change.newRef := by
  unfold Change.checked
  split
  · rfl
  · split <;> rfl

theorem fact_checked {w : World port} (h : change.Fits tenantId connectionId w) :
    change.checked.Fact tenantId connectionId w := by
  unfold Change.checked
  split
  · trivial
  · split
    · exact h.fresh
    · exact h

theorem moved_store (h : PoolInv tenantId connectionId pool)
    (hget : pool.threads[i]? = some (.running (.store change))) :
    PoolInv tenantId connectionId (pool.moved tenantId connectionId i (.store change)) := by
  have hfits : change.Fits tenantId connectionId pool.world := h.facts i _ hget
  have hlock : pool.lock = some i := h.holds i _ hget rfl
  rcases handle_store pool.world change.newRef change.secret.plaintext
    (some { provider := some change.row.provider.value }) change.secret.now with ⟨s, hs, hnew, hstay⟩ | ⟨e, he⟩
  · have hmoved : pool.moved tenantId connectionId i (.store change) =
        ⟨pool.world.withVault s, pool.lock, pool.threads.set i change.checked⟩ := by
      simp only [Pool.moved, Stage.call, hs, holder, Stage.next]
    rw [hmoved]
    refine h.advance_vault hget stays (fun _ => hlock) rfl (fact_checked (hfits.congr rfl)) (fun r hr => ?_)
      (fun r ha => ?_) (fun r _ hr => .inl (hstay r hr)) fun hrev => absurd hrev Bool.false_ne_true
    · rcases hnew r hr with hr | rfl
      · exact .inl hr
      · exact .inr ⟨rfl, answersFor_checked⟩
    · cases ha
  · have hmoved : pool.moved tenantId connectionId i (.store change) =
        ⟨pool.world, pool.lock, pool.threads.set i (compensatedNone e)⟩ := by
      simp only [Pool.moved, Stage.call, he, holder, Stage.next]
    rw [hmoved]
    exact h.advance_quiet hget stays (quiet_compensatedNone e) rfl rfl

theorem moved_deleteUnhealthy {code : String} (h : PoolInv tenantId connectionId pool)
    (hget : pool.threads[i]? = some (.running (.deleteUnhealthy newRef code))) :
    PoolInv tenantId connectionId (pool.moved tenantId connectionId i (.deleteUnhealthy newRef code)) := by
  have hfresh : boundRef pool.world tenantId connectionId ≠ some newRef := h.facts i _ hget
  obtain ⟨s, hs, hkill⟩ := handle_delete pool.world newRef
  have hmoved : pool.moved tenantId connectionId i (.deleteUnhealthy newRef code) =
      ⟨pool.world.withVault s, pool.lock, pool.threads.set i (.running (.rollbackRaise (safeError code)))⟩ := by
    simp only [Pool.moved, Stage.call, hs, holder, Stage.next]
  rw [hmoved]
  refine h.advance_kill hget stays (fun hh => absurd hh Bool.false_ne_true) rfl trivial hkill (fun r ha hne => ?_)
    (fun hb => absurd hb hfresh) fun hrev => absurd hrev Bool.false_ne_true
  exact absurd (Option.some.inj ha).symm hne

theorem moved_commitNew (h : PoolInv tenantId connectionId pool)
    (hget : pool.threads[i]? = some (.running (.commitNew change))) (hintime : Readable pool.world change.newRef) :
    PoolInv tenantId connectionId (pool.moved tenantId connectionId i (.commitNew change)) := by
  have hfits : change.Fits tenantId connectionId pool.world := h.facts i _ hget
  have hmoved : pool.moved tenantId connectionId i (.commitNew change) =
      ⟨pool.world.withRow connectionId (change.row.bind change.newRef change.secret.now),
        if pool.lock = some i then none else pool.lock,
        pool.threads.set i (.running (.findActive change.newRef change.oldRef))⟩ := rfl
  have hrow : (pool.world.withRow connectionId (change.row.bind change.newRef change.secret.now)).getConnection
      tenantId connectionId = some (change.row.bind change.newRef change.secret.now) :=
    getConnection_withRow hfits.row rfl
  rw [hmoved]
  refine h.advance_commit hget rfl hfits.row rfl Bool.false_ne_true (congrArg Option.isSome hrow) ?_ ?_
  · intro binding hb
    obtain rfl := Option.some.inj hb
    exact ⟨hfits.owned, rfl, .inl hintime⟩
  · intro r hr hmine
    rcases hmine with hb | ha
    · exact .inr (hfits.oldRef.trans hb)
    · exact .inl ha

theorem moved_rollbackNew (h : PoolInv tenantId connectionId pool)
    (hget : pool.threads[i]? = some (.running (.rollbackNew newRef e))) :
    PoolInv tenantId connectionId (pool.moved tenantId connectionId i (.rollbackNew newRef e)) := by
  have hmoved : pool.moved tenantId connectionId i (.rollbackNew newRef e) =
      ⟨pool.world, if pool.lock = some i then none else pool.lock,
        pool.threads.set i (.running (.findPending newRef e))⟩ := rfl
  rw [hmoved]
  exact h.advance_read hget released (fun hh => absurd hh Bool.false_ne_true) trivial (fun _ ha _ => .inr ha)
    fun hrev => absurd hrev Bool.false_ne_true

/-- A version whose state is none of the two is not readable. -/
theorem not_readable_of_state {w : World port} {state : Option SecretVersionState}
    (h : port.getVersionState w.vault ref = state) (hstate : SecretVersionState.readable state = false) : ¬ Readable w ref := by
  intro hr
  rw [Readable, h, hstate] at hr
  cases hr

theorem moved_findPending (h : PoolInv tenantId connectionId pool)
    (hget : pool.threads[i]? = some (.running (.findPending newRef e)))
    (hintime : port.getVersionState pool.world.vault newRef = some .active →
      boundRef pool.world tenantId connectionId = some newRef) :
    PoolInv tenantId connectionId (pool.moved tenantId connectionId i (.findPending newRef e)) := by
  have hmoved : pool.moved tenantId connectionId i (.findPending newRef e) =
      ⟨pool.world, pool.lock, pool.threads.set i (Stage.next tenantId connectionId (.findPending newRef e)
        (.ok (port.getVersionState pool.world.vault newRef)))⟩ := rfl
  have hdelete : PoolInv tenantId connectionId
      ⟨pool.world, pool.lock, pool.threads.set i (.running (.deletePending newRef e))⟩ :=
    h.advance_read hget stays (fun hh => absurd hh Bool.false_ne_true) trivial (fun _ ha _ => .inr ha)
      fun hrev => absurd hrev Bool.false_ne_true
  rw [hmoved]
  cases hstate : port.getVersionState pool.world.vault newRef with
  | none =>
    refine h.advance_read hget stays (fun hh => hh.elim) trivial (fun r ha hr => ?_) fun hrev => absurd hrev Bool.false_ne_true
    obtain rfl := Option.some.inj ha
    exact absurd hr (not_readable_of_state hstate rfl)
  | some state =>
    cases state with
    | pending => exact hdelete
    | deactivated => exact hdelete
    | active =>
      refine h.advance_read hget stays (fun hh => hh.elim) trivial (fun r ha _ => ?_)
        fun hrev => absurd hrev Bool.false_ne_true
      obtain rfl := Option.some.inj ha
      exact .inl (hintime hstate)

theorem moved_deletePending (h : PoolInv tenantId connectionId pool)
    (hget : pool.threads[i]? = some (.running (.deletePending newRef e)))
    (hintime : boundRef pool.world tenantId connectionId = some newRef → ¬ Readable pool.world newRef) :
    PoolInv tenantId connectionId (pool.moved tenantId connectionId i (.deletePending newRef e)) := by
  obtain ⟨s, hs, hkill⟩ := handle_delete pool.world newRef
  have hmoved : pool.moved tenantId connectionId i (.deletePending newRef e) =
      ⟨pool.world.withVault s, pool.lock, pool.threads.set i (.done (.error e))⟩ := by
    simp only [Pool.moved, Stage.call, hs, holder, Stage.next]
  rw [hmoved]
  refine h.advance_kill hget stays (fun hh => hh.elim) rfl trivial hkill (fun r ha hne => ?_)
    (fun hb hr => absurd hr (hintime hb)) fun hrev => absurd hrev Bool.false_ne_true
  exact absurd (Option.some.inj ha).symm hne

/-- An activation that finds its version gone leaves nothing behind that is readable. -/
theorem activation_refused {oldRef : Option SecretRef} (h : PoolInv tenantId connectionId pool)
    (hget : pool.threads[i]? = some (.running st)) (hold : st.answersFor = oldRef) (hrev : st.revokes = false)
    (hgone : ¬ Readable pool.world newRef)
    (hintime : ∀ old ∈ oldRef, Readable pool.world newRef ∨ ¬ Readable pool.world old ∨
      boundRef pool.world tenantId connectionId = some old) (e : LifecycleException) :
    PoolInv tenantId connectionId ⟨pool.world, pool.lock, pool.threads.set i (activationFailed e)⟩ := by
  have hquiet : Quiet port tenantId connectionId (activationFailed e) := quiet_activationFailed e
  refine h.advance_read hget stays (fun hh => absurd hh hquiet.1) (hquiet.2 _) (fun r ha hr => ?_) fun hr => ?_
  · rcases hintime r (hold.symm.trans ha) with hnew | hdead | hb
    · exact absurd hnew hgone
    · exact absurd hr hdead
    · exact .inl hb
  · rw [hrev] at hr
    cases hr

theorem inTime_activation {old : Option SecretRef}
    (h : (Stage.findActive newRef old).InTime tenantId connectionId pool.world) : ∀ o ∈ old,
      Readable pool.world newRef ∨ ¬ Readable pool.world o ∨ boundRef pool.world tenantId connectionId = some o := by
  rintro o rfl
  exact h

theorem moved_findActive {old : Option SecretRef} (h : PoolInv tenantId connectionId pool)
    (hget : pool.threads[i]? = some (.running (.findActive newRef old)))
    (hintime : (Stage.findActive newRef old).InTime tenantId connectionId pool.world) :
    PoolInv tenantId connectionId (pool.moved tenantId connectionId i (.findActive newRef old)) := by
  have hmoved : pool.moved tenantId connectionId i (.findActive newRef old) =
      ⟨pool.world, pool.lock, pool.threads.set i (Stage.next tenantId connectionId (.findActive newRef old)
        (.ok (port.getVersionState pool.world.vault newRef)))⟩ := rfl
  have hsome : (pool.world.getConnection tenantId connectionId).isSome = true := h.facts i _ hget
  rw [hmoved]
  cases hstate : port.getVersionState pool.world.vault newRef with
  | none =>
    exact activation_refused h hget rfl rfl (not_readable_of_state hstate rfl) (inTime_activation hintime)
      (.vaultError "secret_version_inactive")
  | some state =>
    cases state with
    | active =>
      exact h.advance_read hget stays (fun hh => absurd hh Bool.false_ne_true) hsome (fun _ ha _ => .inr ha)
        fun hrev => absurd hrev Bool.false_ne_true
    | pending =>
      exact h.advance_read hget stays (fun hh => absurd hh Bool.false_ne_true) hsome (fun _ ha _ => .inr ha)
        fun hrev => absurd hrev Bool.false_ne_true
    | deactivated =>
      exact activation_refused h hget rfl rfl (not_readable_of_state hstate rfl) (inTime_activation hintime)
        (.vaultError "secret_version_inactive")

theorem moved_activate {old : Option SecretRef} (hrefuses : RefusesInactive port)
    (h : PoolInv tenantId connectionId pool) (hget : pool.threads[i]? = some (.running (.activate newRef old)))
    (hintime : (Stage.findActive newRef old).InTime tenantId connectionId pool.world) :
    PoolInv tenantId connectionId (pool.moved tenantId connectionId i (.activate newRef old)) := by
  have hsome : (pool.world.getConnection tenantId connectionId).isSome = true := h.facts i _ hget
  rcases handle_activate hrefuses pool.world newRef with ⟨s, hs, -, hsame⟩ | ⟨e, he, hgone⟩
  · have hmoved : pool.moved tenantId connectionId i (.activate newRef old) =
        ⟨pool.world.withVault s, pool.lock, pool.threads.set i (.running (.lockView old))⟩ := by
      simp only [Pool.moved, Stage.call, hs, holder, Stage.next]
    rw [hmoved]
    exact h.advance_vault hget stays (fun hh => absurd hh Bool.false_ne_true) rfl hsome (fun r hr => .inl ((hsame r).1 hr))
      (fun _ ha _ => .inr ha) (fun r _ hr => .inl ((hsame r).2 hr)) fun hrev => absurd hrev Bool.false_ne_true
  · have hmoved : pool.moved tenantId connectionId i (.activate newRef old) =
        ⟨pool.world, pool.lock, pool.threads.set i (activationFailed e)⟩ := by
      simp only [Pool.moved, Stage.call, he, holder, Stage.next]
    rw [hmoved]
    exact activation_refused h hget rfl rfl hgone (inTime_activation hintime) e

theorem moved_lockView {old : Option SecretRef} (h : PoolInv tenantId connectionId pool)
    (hget : pool.threads[i]? = some (.running (.lockView old))) (hfree : pool.lock = none) :
    PoolInv tenantId connectionId (pool.moved tenantId connectionId i (.lockView old)) := by
  have hsome : (pool.world.getConnection tenantId connectionId).isSome = true := h.facts i _ hget
  obtain ⟨row, hrow⟩ := Option.isSome_iff_exists.1 hsome
  have hmoved : pool.moved tenantId connectionId i (.lockView old) =
      ⟨pool.world, holder i pool.lock (.lockConnection tenantId connectionId)
        (.ok (pool.world.getConnection tenantId connectionId)), pool.threads.set i (Stage.next tenantId connectionId
          (.lockView old) (.ok (pool.world.getConnection tenantId connectionId)))⟩ := rfl
  rw [hmoved, hrow]
  exact h.advance_read hget (taken hfree) (fun hh => absurd hh Bool.false_ne_true) trivial (fun _ ha _ => .inr ha)
    fun hrev => absurd hrev Bool.false_ne_true

theorem moved_rollbackView {old : Option SecretRef} {view : PublishingConnectionView}
    (h : PoolInv tenantId connectionId pool) (hget : pool.threads[i]? = some (.running (.rollbackView old view))) :
    PoolInv tenantId connectionId (pool.moved tenantId connectionId i (.rollbackView old view)) := by
  have hmoved : pool.moved tenantId connectionId i (.rollbackView old view) =
      ⟨pool.world, if pool.lock = some i then none else pool.lock, pool.threads.set i (viewed view old)⟩ := rfl
  rw [hmoved]
  cases old with
  | none => exact h.advance_quiet hget released (quiet_done _) rfl rfl
  | some old =>
    exact h.advance_read hget released (fun hh => absurd hh Bool.false_ne_true) trivial (fun _ ha _ => .inr ha)
      fun hrev => absurd hrev Bool.false_ne_true

theorem moved_oldExists {view : PublishingConnectionView} (h : PoolInv tenantId connectionId pool)
    (hget : pool.threads[i]? = some (.running (.oldExists oldRef view))) :
    PoolInv tenantId connectionId (pool.moved tenantId connectionId i (.oldExists oldRef view)) := by
  have hmoved : pool.moved tenantId connectionId i (.oldExists oldRef view) =
      ⟨pool.world, pool.lock, pool.threads.set i (Stage.next tenantId connectionId (.oldExists oldRef view)
        (.ok (port.versionExists oldRef pool.world.vault)))⟩ := rfl
  rw [hmoved, port.versionExists_eq]
  cases hstate : port.getVersionState pool.world.vault oldRef with
  | none =>
    refine h.advance_read hget stays (fun hh => hh.elim) trivial (fun r ha hr => ?_) fun hrev => absurd hrev Bool.false_ne_true
    obtain rfl := Option.some.inj ha
    exact absurd hr (not_readable_of_state hstate rfl)
  | some state =>
    exact h.advance_read hget stays (fun hh => absurd hh Bool.false_ne_true) trivial (fun _ ha _ => .inr ha)
      fun hrev => absurd hrev Bool.false_ne_true

theorem moved_findOld {view : PublishingConnectionView} (h : PoolInv tenantId connectionId pool)
    (hget : pool.threads[i]? = some (.running (.findOld oldRef view))) :
    PoolInv tenantId connectionId (pool.moved tenantId connectionId i (.findOld oldRef view)) := by
  have hmoved : pool.moved tenantId connectionId i (.findOld oldRef view) =
      ⟨pool.world, pool.lock, pool.threads.set i (Stage.next tenantId connectionId (.findOld oldRef view)
        (.ok (port.getVersionState pool.world.vault oldRef)))⟩ := rfl
  have hdeactivate : PoolInv tenantId connectionId
      ⟨pool.world, pool.lock, pool.threads.set i (.running (.deactivateOld oldRef view))⟩ :=
    h.advance_read hget stays (fun hh => absurd hh Bool.false_ne_true) trivial (fun _ ha _ => .inr ha)
      fun hrev => absurd hrev Bool.false_ne_true
  rw [hmoved]
  cases hstate : port.getVersionState pool.world.vault oldRef with
  | none => exact hdeactivate
  | some state =>
    cases state with
    | pending => exact hdeactivate
    | active => exact hdeactivate
    | deactivated =>
      refine h.advance_read hget stays (fun hh => hh.elim) trivial (fun r ha hr => ?_)
        fun hrev => absurd hrev Bool.false_ne_true
      obtain rfl := Option.some.inj ha
      exact absurd hr (not_readable_of_state hstate rfl)

theorem moved_deactivateOld {view : PublishingConnectionView} (h : PoolInv tenantId connectionId pool)
    (hget : pool.threads[i]? = some (.running (.deactivateOld oldRef view)))
    (hintime : boundRef pool.world tenantId connectionId = some oldRef → ¬ Readable pool.world oldRef) :
    PoolInv tenantId connectionId (pool.moved tenantId connectionId i (.deactivateOld oldRef view)) := by
  obtain ⟨answer, s, hs, hkill, -⟩ := handle_deactivate pool.world oldRef
  have hmoved : pool.moved tenantId connectionId i (.deactivateOld oldRef view) =
      ⟨pool.world.withVault s, pool.lock,
        pool.threads.set i (Stage.next tenantId connectionId (.deactivateOld oldRef view) answer)⟩ := by
    simp only [Pool.moved, Stage.call, hs, holder]
  have hquiet : Quiet port tenantId connectionId (Stage.next tenantId connectionId (.deactivateOld oldRef view) answer) := by
    cases answer with
    | ok u => exact quiet_done _
    | error e => exact quiet_deactivationFailed view e
  rw [hmoved]
  refine h.advance_kill hget stays (fun hh => absurd hh hquiet.1) rfl (hquiet.2 _) hkill (fun r ha hne => ?_)
    (fun hb hr => absurd hr (hintime hb)) fun hrev => absurd hrev Bool.false_ne_true
  exact absurd (Option.some.inj ha).symm hne

theorem moved_lockRecord {code : String} {result : Result} (h : PoolInv tenantId connectionId pool)
    (hget : pool.threads[i]? = some (.running (.lockRecord code result))) (hfree : pool.lock = none) :
    PoolInv tenantId connectionId (pool.moved tenantId connectionId i (.lockRecord code result)) := by
  have hmoved : pool.moved tenantId connectionId i (.lockRecord code result) =
      ⟨pool.world, holder i pool.lock (.lockConnection tenantId connectionId)
        (.ok (pool.world.getConnection tenantId connectionId)), pool.threads.set i (Stage.next tenantId connectionId
          (.lockRecord code result) (.ok (pool.world.getConnection tenantId connectionId)))⟩ := rfl
  rw [hmoved]
  cases hrow : pool.world.getConnection tenantId connectionId with
  | none => exact h.advance_quiet hget (taken hfree) ⟨Bool.false_ne_true, fun _ => trivial⟩ rfl rfl
  | some row => exact h.advance_free hget (taken hfree) (fun _ => rfl) ⟨row, hrow, rfl, rfl⟩ rfl rfl

theorem moved_commitRecord {row : MarketingPublishingConnection} {result : Result}
    (h : PoolInv tenantId connectionId pool) (hget : pool.threads[i]? = some (.running (.commitRecord row result))) :
    PoolInv tenantId connectionId (pool.moved tenantId connectionId i (.commitRecord row result)) := by
  obtain ⟨current, hcurrent, htenant, hbinding⟩ : ∃ current,
      pool.world.getConnection tenantId connectionId = some current ∧ row.tenantId = current.tenantId ∧
        row.binding = current.binding := h.facts i _ hget
  have hboundRef : boundRef pool.world tenantId connectionId = row.binding.map (·.secretRef) := by
    rw [boundRef, hcurrent, Option.bind_some, hbinding]
  have hmoved : pool.moved tenantId connectionId i (.commitRecord row result) =
      ⟨pool.world.withRow connectionId row, if pool.lock = some i then none else pool.lock,
        pool.threads.set i (.done result)⟩ := rfl
  rw [hmoved]
  refine h.advance_commit hget rfl hcurrent htenant (fun hh => hh) trivial (fun binding hb => ?_) fun r _ hmine => ?_
  · obtain ⟨howned, hversion⟩ := h.fitting current binding hcurrent (hbinding.symm.trans hb)
    refine ⟨howned, hversion, .inr ⟨?_, rfl⟩⟩
    rw [hboundRef, hb, Option.map_some]
  · rcases hmine with hb | ha
    · exact .inl (hboundRef.symm.trans hb)
    · cases ha

/-! Disconnect. -/

theorem moved_boundExists {row : MarketingPublishingConnection} (h : PoolInv tenantId connectionId pool)
    (hget : pool.threads[i]? = some (.running (.boundExists row ref))) :
    PoolInv tenantId connectionId (pool.moved tenantId connectionId i (.boundExists row ref)) := by
  have hlock : pool.lock = some i := h.holds i _ hget rfl
  obtain ⟨hrow, hb⟩ : pool.world.getConnection tenantId connectionId = some row ∧
      boundRef pool.world tenantId connectionId = some ref := h.facts i _ hget
  have hmoved : pool.moved tenantId connectionId i (.boundExists row ref) =
      ⟨pool.world, pool.lock, pool.threads.set i (Stage.next tenantId connectionId (.boundExists row ref)
        (.ok (port.versionExists ref pool.world.vault)))⟩ := rfl
  rw [hmoved, port.versionExists_eq]
  cases hstate : port.getVersionState pool.world.vault ref with
  | none => exact h.advance_free hget stays (fun _ => hlock) ⟨hrow, hb, not_readable_of_state hstate rfl⟩ rfl rfl
  | some state => exact h.advance_free hget stays (fun _ => hlock) ⟨hrow, hb⟩ rfl rfl

theorem moved_deactivateBound {row : MarketingPublishingConnection} (h : PoolInv tenantId connectionId pool)
    (hget : pool.threads[i]? = some (.running (.deactivateBound row ref))) :
    PoolInv tenantId connectionId (pool.moved tenantId connectionId i (.deactivateBound row ref)) := by
  have hlock : pool.lock = some i := h.holds i _ hget rfl
  obtain ⟨hrow, hb⟩ : pool.world.getConnection tenantId connectionId = some row ∧
      boundRef pool.world tenantId connectionId = some ref := h.facts i _ hget
  obtain ⟨answer, s, hs, hkill, hanswer⟩ := handle_deactivate pool.world ref
  have hmoved : pool.moved tenantId connectionId i (.deactivateBound row ref) =
      ⟨pool.world.withVault s, pool.lock,
        pool.threads.set i (Stage.next tenantId connectionId (.deactivateBound row ref) answer)⟩ := by
    simp only [Pool.moved, Stage.call, hs, holder]
  rw [hmoved]
  cases answer with
  | ok u =>
    refine h.advance_kill hget stays (fun _ => hlock) rfl ⟨hrow, hb, fun hr => ((hkill ref).1 hr).2 rfl⟩ hkill
      (fun r ha => ?_) (fun _ _ => rfl) fun hrev => absurd hrev Bool.false_ne_true
    cases ha
  | error e =>
    have hgone : ¬ Readable pool.world ref := by
      rcases hanswer with hok | hgone
      · cases hok
      · exact hgone
    have hquiet : Quiet port tenantId connectionId
        (Stage.next tenantId connectionId (.deactivateBound row ref) (.error e)) := by
      cases e <;> exact ⟨Bool.false_ne_true, fun _ => trivial⟩
    refine h.advance_kill hget stays (fun hh => absurd hh hquiet.1) rfl (hquiet.2 _) hkill (fun r ha => ?_)
      (fun _ hr => absurd hr hgone) fun hrev => absurd hrev Bool.false_ne_true
    cases ha

theorem moved_confirm {row : MarketingPublishingConnection} (h : PoolInv tenantId connectionId pool)
    (hget : pool.threads[i]? = some (.running (.confirm row ref))) :
    PoolInv tenantId connectionId (pool.moved tenantId connectionId i (.confirm row ref)) := by
  have hlock : pool.lock = some i := h.holds i _ hget rfl
  obtain ⟨hrow, hb, hdead⟩ : pool.world.getConnection tenantId connectionId = some row ∧
      boundRef pool.world tenantId connectionId = some ref ∧ ¬ Readable pool.world ref := h.facts i _ hget
  have hinactive : port.confirmInactive ref pool.world.vault = true := by
    rw [port.confirmInactive_eq, Bool.not_eq_true']
    exact Bool.eq_false_iff.2 hdead
  have hmoved : pool.moved tenantId connectionId i (.confirm row ref) =
      ⟨pool.world, pool.lock, pool.threads.set i (Stage.next tenantId connectionId (.confirm row ref)
        (.ok (port.confirmInactive ref pool.world.vault)))⟩ := rfl
  rw [hmoved, hinactive]
  refine h.advance_read hget stays (fun _ => hlock) ⟨by rw [hrow]; rfl, (getConnection_eq_some.1 hrow).2, rfl, ?_⟩
    (fun r ha => ?_) fun _ => rfl
  · intro r hr
    obtain rfl := Option.some.inj (hb.symm.trans hr)
    exact hdead
  · cases ha

theorem moved_commitView {row : MarketingPublishingConnection} (h : PoolInv tenantId connectionId pool)
    (hget : pool.threads[i]? = some (.running (.commitView row))) :
    PoolInv tenantId connectionId (pool.moved tenantId connectionId i (.commitView row)) := by
  obtain ⟨hsome, htenant, hnone, hdead⟩ : (pool.world.getConnection tenantId connectionId).isSome = true ∧
      row.tenantId = tenantId ∧ row.binding = none ∧
        ∀ ref, boundRef pool.world tenantId connectionId = some ref → ¬ Readable pool.world ref := h.facts i _ hget
  obtain ⟨current, hcurrent⟩ := Option.isSome_iff_exists.1 hsome
  have hmoved : pool.moved tenantId connectionId i (.commitView row) =
      ⟨pool.world.withRow connectionId row, if pool.lock = some i then none else pool.lock,
        pool.threads.set i (.done (.ok (toView row)))⟩ := rfl
  rw [hmoved]
  refine h.advance_commit hget rfl hcurrent (htenant.trans (getConnection_eq_some.1 hcurrent).2.symm) (fun hh => hh)
    trivial (fun binding hb => ?_) fun r hr hmine => ?_
  · rw [hnone] at hb
    cases hb
  · rcases hmine with hb | ha
    · exact absurd hr (hdead r hb)
    · cases ha

/-- A step that comes in time keeps the versions accounted for. -/
theorem PoolInv.step (hrefuses : RefusesInactive port) (h : PoolInv tenantId connectionId pool)
    (hintime : InTime tenantId connectionId pool i) (hs : PoolStep tenantId connectionId pool i pool') :
    PoolInv tenantId connectionId pool' := by
  obtain ⟨st, hget, hfree, rfl⟩ := step_cases hs
  have hok : st.InTime tenantId connectionId pool.world := by
    refine hintime st ?_
    rw [hget]
    rfl
  cases st with
  | lock job => exact moved_lock h hget (hfree rfl)
  | findOrphan change => exact moved_findOrphan h hget
  | deleteOrphan change => exact moved_deleteOrphan h hget
  | store change => exact moved_store h hget
  | deleteUnhealthy newRef code => exact moved_deleteUnhealthy h hget
  | commitNew change => exact moved_commitNew h hget hok
  | rollbackRaise e => exact h.advance_quiet hget released (quiet_done _) rfl rfl
  | rollbackNew newRef e => exact moved_rollbackNew h hget
  | findPending newRef e => exact moved_findPending h hget hok
  | deletePending newRef e => exact moved_deletePending h hget hok
  | findActive newRef oldRef => exact moved_findActive h hget hok
  | activate newRef oldRef =>
    refine moved_activate hrefuses h hget ?_
    cases oldRef <;> exact hok
  | lockView oldRef => exact moved_lockView h hget (hfree rfl)
  | rollbackView oldRef view => exact moved_rollbackView h hget
  | oldExists oldRef view => exact moved_oldExists h hget
  | findOld oldRef view => exact moved_findOld h hget
  | deactivateOld oldRef view => exact moved_deactivateOld h hget hok
  | lockRecord code result => exact moved_lockRecord h hget (hfree rfl)
  | commitRecord row result => exact moved_commitRecord h hget
  | rollbackRecord result => exact h.advance_quiet hget released (quiet_done result) rfl rfl
  | boundExists row ref => exact moved_boundExists h hget
  | deactivateBound row ref => exact moved_deactivateBound h hget
  | confirm row ref => exact moved_confirm h hget
  | commitView row => exact moved_commitView h hget
  | commitRevokeFailed row => exact (h.facts i _ hget).elim
  | rollbackRecover e => exact h.advance_quiet hget released (quiet_lockRecord _ _) rfl rfl

end Moves

theorem poolInv_start {w : World port} (hfitting : Fitting tenantId connectionId w) (h : OnlyBound tenantId connectionId w)
    (jobs : List Job) : PoolInv tenantId connectionId (Pool.start w jobs) := by
  have hlock : ∀ (i : ℕ) th, (Pool.start w jobs).threads[i]? = some th → ∃ job, th = .running (.lock job) := by
    intro i th hth
    obtain ⟨job, -, rfl⟩ := Option.map_eq_some_iff.1 ((List.getElem?_map ..).symm.trans hth)
    exact ⟨job, rfl⟩
  refine ⟨hfitting, fun i th hth hh => ?_, fun i th hth => ?_, fun ref howned hr => .inl ((h ref howned).1 hr),
    fun ref hb => .inl ?_⟩
  · obtain ⟨job, rfl⟩ := hlock i th hth
    exact absurd hh Bool.false_ne_true
  · obtain ⟨job, rfl⟩ := hlock i th hth
    trivial
  · obtain ⟨row, hrow, hb'⟩ := Option.bind_eq_some_iff.1 hb
    obtain ⟨binding, hbinding, rfl⟩ := Option.map_eq_some_iff.1 hb'
    exact (h _ (hfitting row binding hrow hbinding).1).2 hb

theorem PoolInv.onlyBound (h : PoolInv tenantId connectionId pool) (hend : pool.Finished) :
    OnlyBound tenantId connectionId pool.world := by
  have hdone : ∀ (i : ℕ) th, pool.threads[i]? = some th → th.answersFor = none ∧ ¬ th.Revokes := by
    intro i th hth
    have hnone := hend th (List.mem_of_getElem? hth)
    cases th with
    | running st => cases hnone
    | done result => exact ⟨rfl, fun hr => hr⟩
  intro ref howned
  constructor
  · intro hr
    rcases h.readable ref howned hr with hb | ⟨i, th, hth, ha⟩
    · exact hb
    · rw [(hdone i th hth).1] at ha
      cases ha
  · intro hb
    rcases h.bound ref hb with hr | ⟨i, th, hth, hrev⟩
    · exact hr
    · exact absurd hrev (hdone i th hth).2

theorem refusesInactive_envelopePg (vault : EnvelopePgSecretVault) : RefusesInactive (envelopePgSecretVault vault) := by
  intro ref rows rows' h
  simp only [EnvelopePgSecretVault.activateVersion, EnvelopePgSecretVault.requireRow, Checked.bind_eq_ok,
    Checked.orRaise_eq_ok, Checked.raiseIf_eq_ok] at h
  obtain ⟨row, hget, -, hstate, -⟩ := h
  change SecretVersionState.readable ((EnvelopePgSecretVault.getRow ref rows).map (·.2.state)) = true
  rw [hget, Option.map_some]
  cases hs : row.2.state with
  | pending => rfl
  | active => rfl
  | deactivated => exact absurd hs hstate

/-- However the services on a connection interleave, as long as every step comes in time the
version that the row names is readable when all have ended, and no other version is. -/
theorem only_bound_readable {vault : EnvelopePgSecretVault} {w₀ : World (envelopePgSecretVault vault)}
    {pool : Pool (envelopePgSecretVault vault)} {jobs : List Job} {order : List ℕ}
    (hfitting : Fitting tenantId connectionId w₀) (hstart : OnlyBound tenantId connectionId w₀)
    (h : Run (Restrict (InTime tenantId connectionId) (PoolStep tenantId connectionId)) (Pool.start w₀ jobs) order pool)
    (hend : pool.Finished) : OnlyBound tenantId connectionId pool.world := by
  refine (h.invariant_restrict (PoolInv tenantId connectionId) (poolInv_start hfitting hstart jobs) ?_).onlyBound hend
  exact fun _ _ _ hinv hintime hs => hinv.step (refusesInactive_envelopePg vault) hintime hs

section Examples

def demoSecret (value : String) (h : value ≠ "") : NewSecret := ⟨⟨value, h⟩, some ⟨.unchecked, none⟩, 0⟩

/-- A bind and two rotates. -/
theorem third_nonempty : "third" ≠ "" := by decide

def demoJobs : List Job :=
  [.bindSecret (demoSecret "first" first_nonempty), .rotateSecret (demoSecret "second" second_nonempty),
    .rotateSecret (demoSecret "third" third_nonempty)]

theorem demoWorld_onlyBound : OnlyBound 1 7 demoWorld := by
  intro ref _
  have hunbound : boundRef demoWorld 1 7 = none := rfl
  have hempty : (envelopePgSecretVault demoVault).getVersionState demoWorld.vault ref = none :=
    (envelopePgSecretVault demoVault).getVersionState_empty ref
  rw [Readable, hempty, hunbound]
  exact ⟨fun h => absurd h Bool.false_ne_true, fun h => by cases h⟩

theorem demoWorld_fitting : Fitting 1 7 demoWorld := by
  intro row binding hrow hb
  have hnone : (demoWorld.getConnection 1 7).bind (·.binding) = none := rfl
  rw [hrow, Option.bind_some, hb] at hnone
  cases hnone

/-- The bind is over and the first rotate has committed version 2 when the second rotate does
all it has to, up to the deactivation of version 2; only then does the first go on. -/
def overtaken : List ℕ := List.replicate 8 0 ++ List.replicate 4 1 ++ List.replicate 11 2 ++ List.replicate 3 1

/-- All have ended, and the first version is readable though the row does not name it. -/
def strayVersion (pool : Pool (envelopePgSecretVault demoVault)) : Bool :=
  pool.Finished ∧ Readable pool.world (buildSecretRef 1 7 1) ∧ boundRef pool.world 1 7 ≠ some (buildSecretRef 1 7 1)

/-- A rotate that is overtaken does not deactivate the version it has replaced. -/
theorem overtaken_rotate : ∃ pool, Run (PoolStep 1 7) (Pool.start demoWorld demoJobs) overtaken pool ∧
    pool.Finished ∧ ¬ OnlyBound 1 7 pool.world := by
  have hstray : (execute? (fun _ _ => True) (Pool.step? 1 7) (Pool.start demoWorld demoJobs) overtaken).any
      strayVersion = true := by decide
  obtain ⟨pool, hrun, hpool⟩ := (Option.any_eq_true _ _).1 hstray
  obtain ⟨hend, hread, hbound⟩ := of_decide_eq_true hpool
  exact ⟨pool, (Run.of_execute? hrun).of_restrict, hend, fun h => hbound ((h _ (owned_buildSecretRef 1)).1 hread)⟩

/-- The second rotate begins once the first has activated version 2, and they go on by turns. -/
def byTurns : List ℕ :=
  List.replicate 8 0 ++ List.replicate 6 1 ++ List.replicate 4 2 ++ [1, 1, 2, 2, 1, 1, 1] ++ List.replicate 5 2

/-- The theorem where two rotates go on by turns. -/
theorem only_bound_readable_by_turns : ∃ pool,
    Run (Restrict (InTime 1 7) (PoolStep 1 7)) (Pool.start demoWorld demoJobs) byTurns pool ∧ pool.Finished ∧
    boundRef pool.world 1 7 = some (buildSecretRef 1 7 3) ∧ OnlyBound 1 7 pool.world := by
  have hexecutes : (execute? (InTime 1 7) (Pool.step? 1 7) (Pool.start demoWorld demoJobs) byTurns).any (fun pool =>
      decide (pool.Finished ∧ boundRef pool.world 1 7 = some (buildSecretRef 1 7 3))) = true := by decide
  obtain ⟨pool, hrun, hpool⟩ := (Option.any_eq_true _ _).1 hexecutes
  obtain ⟨hend, hbound⟩ := of_decide_eq_true hpool
  have h := Run.of_execute? hrun
  exact ⟨pool, h, hend, hbound, only_bound_readable demoWorld_fitting demoWorld_onlyBound h hend⟩

end Examples

end CoreOps.Secrets
