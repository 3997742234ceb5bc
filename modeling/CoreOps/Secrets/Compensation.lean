import CoreOps.Lib.ProgramLatch
import CoreOps.Secrets.Bound

/-! Bind and rotate store the new version before they commit the row that names it. When
they fail in between, they take the new version back, and leave the row and the version it
names as they were. -/

namespace CoreOps.Secrets

open Program Checked

variable {port : SecretVaultPort} {tenantId connectionId : Uuid} {newRef : SecretRef} {w₀ w w' : World port} {α : Type}

/-! Up to the commit. -/

section UntilCommit

open Program (raiseIf)

variable (tenantId connectionId : Uuid)

/-- `bind_secret` until its database commit has completed. -/
def bindUntilCommit (plaintext : SecretPlaintext) (health : Option HealthCheckResult) (now : ℤ) : Action Unit := do
  let newRef := buildSecretRef tenantId connectionId 1
  let row ← compensating none do
    let row ← lockOr404 tenantId connectionId
    raiseIf row.binding.isSome (safeError "secret_already_bound")
    storeNewVersion row newRef plaintext now
    return row
  commitNewVersion connectionId row newRef health now

theorem bindSecret_eq (plaintext : SecretPlaintext) (health : Option HealthCheckResult) (now : ℤ) :
    bindSecret tenantId connectionId plaintext health now =
      (do bindUntilCommit tenantId connectionId plaintext health now
          postCommitActivate tenantId connectionId (buildSecretRef tenantId connectionId 1)) := by
  rw [bindUntilCommit, bind_assoc]
  rfl

/-- `rotate_secret` until its database commit has completed; it goes on with the old binding. -/
def rotateUntilCommit (plaintext : SecretPlaintext) (health : Option HealthCheckResult) (now : ℤ) :
    Action SecretBinding := do
  let (row, old) ← compensating none do
    let row ← lockOr404 tenantId connectionId
    let old ← boundOrRaise tenantId connectionId row
    storeNewVersion row (buildSecretRef tenantId connectionId (old.secretVersion + 1)) plaintext now
    return (row, old)
  commitNewVersion connectionId row (buildSecretRef tenantId connectionId (old.secretVersion + 1)) health now
  return old

theorem rotateSecret_eq (plaintext : SecretPlaintext) (health : Option HealthCheckResult) (now : ℤ) :
    rotateSecret tenantId connectionId plaintext health now =
      (do let old ← rotateUntilCommit tenantId connectionId plaintext health now
          let view ← postCommitActivate tenantId connectionId
            (buildSecretRef tenantId connectionId (old.secretVersion + 1))
          postCommitDeactivatePrevious tenantId connectionId old.secretRef
          return view) := by
  rw [rotateUntilCommit, bind_assoc]
  refine congrArg (Program.bind _) (funext fun locked => ?_)
  obtain ⟨row, old⟩ := locked
  simp only [bind_assoc]
  rfl

end UntilCommit

/-- A bind or rotate that raises before its commit has completed. -/
def FailsBeforeCommit (port : SecretVaultPort) (faults : List Fault) (w : World port) (e : LifecycleException)
    (w' : World port) : Op → Prop
  | .bindSecret tenantId connectionId plaintext health now =>
    (bindUntilCommit tenantId connectionId plaintext health now).run (environment port) faults w = (.error e, w')
  | .rotateSecret tenantId connectionId plaintext health now =>
    (rotateUntilCommit tenantId connectionId plaintext health now).run (environment port) faults w = (.error e, w')
  | _ => False

/-! What goes wrong. -/

def Call.isRollback : Call → Bool
  | .rollback => true
  | _ => false

/-- A fault that does not strike the vault. -/
def Fault.sparesVault : Fault → Prop
  | .vault _ _ => False
  | _ => True

/-- What is left of a fault while the vault answers. -/
def Fault.spareVault : Fault → Fault
  | .vault _ _ => .none
  | f => f

/-- A vault call that fails has no effect. -/
def Fault.withoutEffect (f : Fault) : Prop := ∀ e, f ≠ .vault e true

theorem sparesVault_spareVault (f : Fault) : f.spareVault.sparesVault := by cases f <;> trivial

/-- No failing call to the vault has an effect, and once the service has rolled back none
fails: the version it stored is taken back. -/
structure Compensated (port : SecretVaultPort) (op : Op) (faults : List Fault) (w : World port) : Prop where
  withoutEffect : ∀ f ∈ faults, f.withoutEffect
  settled : Settled Call.isRollback Fault.spareVault false (op.program.calls (environment port) faults w)

/-! The entries of a vault. -/

/-- What an adapter keeps of a version. A call changes the entry of its version only, and
the entry says what the port answers about the version. -/
structure VaultEntries (port : SecretVaultPort) where
  Entry : Type
  entry : port.State → SecretRef → Option Entry
  storeSecret_frame : ∀ ref p m now s s' ref', port.storeSecret ref p m now s = .ok s' → ref' ≠ ref →
    entry s' ref' = entry s ref'
  deleteVersion_frame : ∀ ref s s' ref', port.deleteVersion ref s = .ok s' → ref' ≠ ref → entry s' ref' = entry s ref'
  readSecret_congr : ∀ ref s s', entry s' ref = entry s ref → port.readSecret ref s' = port.readSecret ref s
  getVersionState_congr : ∀ ref s s', entry s' ref = entry s ref →
    port.getVersionState s' ref = port.getVersionState s ref

open InMemorySecretVault in
def inMemoryEntries : VaultEntries inMemorySecretVault where
  Entry := StoredSecret
  entry store ref := store.get? ref
  storeSecret_frame ref p m now s s' ref' h hne := by
    simp only [storeSecret, bind_eq_ok, raiseIf_eq_ok, pure_eq_ok, Option.not_isSome_iff_eq_none] at h
    obtain ⟨-, hnone, rfl⟩ := h
    rw [Table.get?_insert_new _ _ _ hnone, if_neg hne]
  deleteVersion_frame ref s s' ref' h hne := by
    obtain rfl := pure_eq_ok.1 h
    rw [Table.get?_filter]
    cases s.get? ref' <;> simp [Option.filter, hne]
  readSecret_congr ref s s' h := by simp only [readSecret, require, h]
  getVersionState_congr ref s s' h := congrArg (Option.map StoredSecret.state) h

open EnvelopePgSecretVault in
def envelopePgEntries (vault : EnvelopePgSecretVault) : VaultEntries (envelopePgSecretVault vault) where
  Entry := (SecretRef × String) × SecretEnvelopeVersion
  entry rows ref := getRow ref rows
  storeSecret_frame ref p m now s s' ref' h hne := by
    simp only [storeSecret, bind_eq_ok, raiseIf_eq_ok, pure_eq_ok,
      Option.not_isSome_iff_eq_none] at h
    obtain ⟨-, -, envelope, -, -, -, -, hnone, rfl⟩ := h
    simp [getRow, Table.rows_insert_new _ _ hnone, List.find?_append, Ne.symm hne]
  deleteVersion_frame ref s s' ref' h hne := by
    obtain rfl := pure_eq_ok.1 h
    simp only [getRow, Table.filter, List.find?_filter]
    congr 1
    funext r
    by_cases hr : r.1.1 = ref' <;> simp [hr, hne]
  readSecret_congr ref s s' h := by simp only [readSecret, requireRow, h]
  getVersionState_congr ref s s' h := congrArg (Option.map fun row : (SecretRef × String) × SecretEnvelopeVersion => row.2.state) h

/-! Taking a version back. -/

variable {entries : VaultEntries port}

/-- Apart from one version, the vault is as it was, and so is the database. -/
structure Aside (entries : VaultEntries port) (newRef : SecretRef) (w₀ w : World port) : Prop where
  connections : w.connections = w₀.connections
  others : ∀ ref, ref ≠ newRef → entries.entry w.vault ref = entries.entry w₀.vault ref

/-- That version is there, and pending. -/
structure Stored (entries : VaultEntries port) (newRef : SecretRef) (w₀ w : World port) : Prop extends
    Aside entries newRef w₀ w where
  pending : port.getVersionState w.vault newRef = some .pending

/-- That version is as it was, or it is not there. -/
structure Undone (entries : VaultEntries port) (newRef : SecretRef) (w₀ w : World port) : Prop extends
    Aside entries newRef w₀ w where
  undone : entries.entry w.vault newRef = entries.entry w₀.vault newRef ∨ port.getVersionState w.vault newRef = none

theorem Undone.refl (entries : VaultEntries port) (newRef : SecretRef) (w : World port) : Undone entries newRef w w :=
  ⟨⟨rfl, fun _ _ => rfl⟩, .inl rfl⟩

theorem Aside.store {plaintext : SecretPlaintext} {metadata : Option SecretStoreMetadata} {now : ℤ} {vault : port.State}
    (h : Aside entries newRef w₀ w) (hstore : port.storeSecret newRef plaintext metadata now w.vault = .ok vault) :
    Aside entries newRef w₀ (w.withVault vault) :=
  ⟨h.connections, fun ref hne => (entries.storeSecret_frame _ _ _ _ _ _ ref hstore hne).trans (h.others ref hne)⟩

/-- Once it is deleted, the version is not there. -/
theorem Aside.delete {vault : port.State} (h : Aside entries newRef w₀ w)
    (hdelete : port.deleteVersion newRef w.vault = .ok vault) : Undone entries newRef w₀ (w.withVault vault) := by
  refine ⟨⟨h.connections, fun ref hne => (entries.deleteVersion_frame _ _ _ ref hdelete hne).trans (h.others ref hne)⟩,
    .inr ?_⟩
  rw [withVault_vault, port.getVersionState_deleteVersion _ _ _ hdelete, Function.update_self]

section Steps

variable {Q : Except LifecycleException Unit → World port → Prop} {ok : Fault → Prop}

/-- A call to the vault under faults without effect. -/
theorem ensures_callVault_withoutEffect {c : VaultCall} (hraise : ∀ e, Q (.error e) w)
    (h : ∀ vault, c.exec port w.vault = .ok vault → Q (.ok ()) (w.withVault vault)) :
    Ensures port Fault.withoutEffect (fun _ => True) (callVault c) Q w :=
  ensures_callVault trivial (fun _ _ => trivial) (fun _ _ => hraise _) (fun e _ hf _ => absurd rfl (hf e)) h

/-- Room is made: the version is gone, or the service raises. -/
theorem ensures_cleanupInactiveOrphan (entries : VaultEntries port) (newRef : SecretRef) (w₀ : World port) : Ensures port Fault.withoutEffect (fun _ => True)
    (cleanupInactiveOrphanOrRaise newRef) (either
      (fun _ w' => Undone entries newRef w₀ w' ∧ port.getVersionState w'.vault newRef = none)
      fun _ w' => Undone entries newRef w₀ w') w₀ := by
  have hstart := Undone.refl entries newRef w₀
  unfold cleanupInactiveOrphanOrRaise
  refine ensures_bind.2 (ensures_getVersionState trivial (fun _ _ _ => hstart) ?_)
  have hdelete : Ensures port Fault.withoutEffect (fun _ => True) (callVault (.deleteVersion newRef)) (either
      (fun _ w' => Undone entries newRef w₀ w' ∧ port.getVersionState w'.vault newRef = none)
      fun _ w' => Undone entries newRef w₀ w') w₀ := by
    refine ensures_callVault_withoutEffect (fun _ => hstart) fun vault hvault => ⟨hstart.toAside.delete hvault, ?_⟩
    rw [withVault_vault, port.getVersionState_deleteVersion _ _ _ hvault, Function.update_self]
  cases hstate : port.getVersionState w₀.vault newRef with
  | none => exact ⟨hstart, hstate⟩
  | some state =>
    cases state with
    | pending => exact hdelete
    | active => exact hstart
    | deactivated => exact hdelete

theorem ensures_storeNewVersion (entries : VaultEntries port) (newRef : SecretRef) (w₀ : World port)
    {row : MarketingPublishingConnection} {plaintext : SecretPlaintext} {now : ℤ} :
    Ensures port Fault.withoutEffect (fun _ => True) (storeNewVersion row newRef plaintext now)
      (either (fun _ w' => Stored entries newRef w₀ w') fun _ w' => Undone entries newRef w₀ w') w₀ := by
  unfold storeNewVersion
  refine ensures_bind.2 ((ensures_cleanupInactiveOrphan entries newRef w₀).mono fun r w₁ hr => ?_)
  cases r with
  | error e => exact hr
  | ok u =>
    obtain ⟨hundone, hnone⟩ := hr
    refine ensures_callVault_withoutEffect (fun _ => hundone) fun vault hvault => ⟨hundone.toAside.store hvault, ?_⟩
    rw [withVault_vault, port.getVersionState_storeSecret _ _ _ _ _ _ hvault, Function.update_self, hnone]
    rfl

/-- While the vault answers, a pending version is taken back. -/
theorem ensures_compensate (h : Stored entries newRef w₀ w) :
    Ensures port Fault.sparesVault (fun _ => True) (compensate (some newRef))
      (fun _ w' => Undone entries newRef w₀ w') w := by
  unfold compensate safeDeletePending
  refine ensures_tryCatch.2 (ensures_bind.2 (ensures_getVersionState trivial (fun _ _ hf => hf.elim) ?_))
  rw [h.pending]
  change Ensures port Fault.sparesVault (fun _ => True) (callVault (.deleteVersion newRef)) _ w
  refine ensures_callVault trivial (fun _ _ => trivial) (fun e hraise => ?_) (fun _ _ hf _ => False.elim hf)
    fun vault hvault => h.toAside.delete hvault
  -- the deletion itself always succeeds
  obtain ⟨vault, hvault⟩ := port.deleteVersion_succeeds newRef w.vault
  rcases hraise with ⟨_, hf⟩ | hexec
  · exact False.elim hf
  · exact absurd (hvault.symm.trans hexec) nofun

end Steps

/-! With the latch: once a service has rolled back, the vault answers. -/

/-- The environment in which a service that rolls back is not struck again by the vault. -/
def compensatingEnvironment (port : SecretVaultPort) :
    Environment (World port × Bool) LifecycleException Fault Answer :=
  (environment port).latched Call.isRollback Fault.spareVault

/-- What a program ensures in it, under faults without effect. -/
abbrev Latched (port : SecretVaultPort) (p : Action α) (Q : Except LifecycleException α → World port × Bool → Prop)
    (t : World port × Bool) : Prop :=
  Program.Ensures (compensatingEnvironment port) Fault.withoutEffect (fun _ => True) p Q t

section Latches

theorem quiet_getVersionState (ref : SecretRef) : (getVersionState ref).Quiet Call.isRollback := .perform rfl

theorem quiet_callVault (c : VaultCall) : (callVault c).Quiet Call.isRollback := .perform rfl

theorem quiet_storeNewVersion {row : MarketingPublishingConnection} {plaintext : SecretPlaintext} {now : ℤ} :
    (storeNewVersion row newRef plaintext now).Quiet Call.isRollback := by
  refine .bind (.bind (quiet_getVersionState newRef) fun state => ?_) fun _ => quiet_callVault _
  rcases state with _ | (_ | _ | _)
  · exact .pure ()
  · exact quiet_callVault _
  · exact .throw _
  · exact quiet_callVault _

theorem quiet_lockOr404 : (lockOr404 tenantId connectionId).Quiet Call.isRollback := by
  refine .bind (.perform rfl) fun row => ?_
  cases row with
  | none => exact .throw _
  | some row => exact .pure row

theorem quiet_compensate (newRef : Option SecretRef) : (compensate newRef).Quiet Call.isRollback := by
  cases newRef with
  | none => exact .pure ()
  | some newRef =>
    refine .tryCatch (.bind (quiet_getVersionState newRef) fun state => ?_) fun e => ?_
    · rcases state with _ | (_ | _ | _)
      · exact .pure ()
      · exact quiet_callVault _
      · exact .pure ()
      · exact quiet_callVault _
    · cases e <;> first | exact .pure () | exact .throw _

variable {J F : World port → Prop} {R : α → World port → Prop}

/-- A block of bind or rotate: what its body leaves when it raises is compensated. -/
theorem latched_compensating {newRef : Option SecretRef} {body : Action α} (hquiet : body.Quiet Call.isRollback)
    (hcompensate : ∀ w, J w → Ensures port Fault.sparesVault (fun _ => True) (compensate newRef) (fun _ w' => F w') w)
    (hbody : Ensures port Fault.withoutEffect (fun _ => True) body (either R fun _ => J) w) :
    Latched port (compensating newRef body) (either (fun a t => R a t.1 ∧ t.2 = false) fun _ t => F t.1) (w, false) := by
  have hlatched : Latched port body (fun r t => either R (fun _ => J) r t.1 ∧ t.2 = false) (w, false) :=
    hbody.latched hquiet fun _ hf => hf
  refine ensures_tryCatch.2 (hlatched.mono fun r t hr => ?_)
  obtain ⟨w', latch⟩ := t
  obtain ⟨hr, rfl⟩ := hr
  cases r with
  | ok a => exact ⟨hr, rfl⟩
  | error e =>
    have hraise : ∀ e' : LifecycleException, Latched port (do rollback; compensate newRef; throw e')
        (either (fun a t => R a t.1 ∧ t.2 = false) fun _ t => F t.1) (w', false) := by
      intro e'
      refine ensures_bind.2 (ensures_perform.2 fun f _ => ⟨trivial, ?_⟩)
      have hundo : Latched port (compensate newRef) (fun _ t => F t.1 ∧ t.2 = true) (w', true) :=
        (hcompensate w' hr).latched (quiet_compensate newRef) fun f _ => sparesVault_spareVault f
      refine ensures_bind.2 (hundo.mono fun r t ht => ?_)
      cases r with
      | ok u => exact ht.1
      | error e => exact ht.1
    cases e with
    | lifecycleError errorCode => exact hraise _
    | _ => exact hraise _

/-- The health check that lets a stored version pass leaves it stored. -/
theorem latched_checkHealth {health : Option HealthCheckResult} (h : Stored entries newRef w₀ w) :
    Latched port (checkHealth newRef health) (either (fun _ t => Stored entries newRef w₀ t.1 ∧ t.2 = false)
      fun _ t => Undone entries newRef w₀ t.1) (w, false) := by
  cases health with
  | none => exact latched_compensating (J := Stored entries newRef w₀) (.throw _) (fun _ => ensures_compensate) h
  | some health =>
    by_cases hstatus : health.status = .unhealthy
    · have hdelete : Ensures port Fault.withoutEffect (fun _ => True) (callVault (.deleteVersion newRef))
          (either (fun _ w' => Undone entries newRef w₀ w') fun _ w' => Stored entries newRef w₀ w') w :=
        ensures_callVault_withoutEffect (fun _ => h) fun _ hvault => h.toAside.delete hvault
      rw [checkHealth, if_pos hstatus]
      refine ensures_bind.2 ((latched_compensating (quiet_callVault _) (fun _ => ensures_compensate) hdelete).mono
        fun r t hr => ?_)
      obtain ⟨w', latch⟩ := t
      cases r with
      | error e => exact hr
      | ok u =>
        obtain ⟨hundone, rfl⟩ := hr
        exact latched_compensating (J := Undone entries newRef w₀) (.throw _) (fun _ h => h) hundone
    · rw [checkHealth, if_neg hstatus]
      exact ⟨h, rfl⟩

/-- A stored version is committed, or taken back. -/
theorem latched_commitNewVersion {row : MarketingPublishingConnection} {health : Option HealthCheckResult} {now : ℤ}
    (h : Stored entries newRef w₀ w) : Latched port (commitNewVersion connectionId row newRef health now)
      (either (fun _ _ => True) fun _ t => Undone entries newRef w₀ t.1) (w, false) := by
  refine ensures_bind.2 ((latched_checkHealth h).mono fun r t hr => ?_)
  obtain ⟨w', latch⟩ := t
  cases r with
  | error e => exact hr
  | ok u =>
    obtain ⟨hstored, rfl⟩ := hr
    have hcommit : Ensures port Fault.withoutEffect (fun _ => True) (commit connectionId (row.bind newRef now))
        (either (fun _ _ => True) fun _ w' => Stored entries newRef w₀ w') w' :=
      ensures_commit trivial trivial (fun _ => hstored) trivial
    refine (latched_compensating (.perform rfl) (fun _ => ensures_compensate) hcommit).mono fun r t hr => ?_
    cases r with
    | error e => exact hr
    | ok u => trivial

end Latches

/-! Nothing is left of a failed operation. -/

/-- The rows are as they were, the version that the connection's row names has its entry,
and no version can be read that could not be read before. -/
structure RolledBack (entries : VaultEntries port) (tenantId connectionId : Uuid) (w w' : World port) : Prop where
  connections : w'.connections = w.connections
  entry : ∀ ref, boundRef w tenantId connectionId = some ref → entries.entry w'.vault ref = entries.entry w.vault ref
  readable : ∀ ref, Readable w' ref → Readable w ref
  readSecret : ∀ ref p, port.readSecret ref w'.vault = .ok p → port.readSecret ref w.vault = .ok p

theorem RolledBack.refl (entries : VaultEntries port) (tenantId connectionId : Uuid) (w : World port) :
    RolledBack entries tenantId connectionId w w :=
  ⟨rfl, fun _ _ => rfl, fun _ h => h, fun _ _ h => h⟩

theorem Undone.rolledBack (h : Undone entries newRef w₀ w) (hfresh : boundRef w₀ tenantId connectionId ≠ some newRef) :
    RolledBack entries tenantId connectionId w₀ w := by
  have hentry : ∀ ref, SecretVersionState.readable (port.getVersionState w.vault ref) = true →
      entries.entry w.vault ref = entries.entry w₀.vault ref := by
    intro ref hread
    by_cases heq : ref = newRef
    · subst heq
      rcases h.undone with hsame | hnone
      · exact hsame
      · rw [hnone] at hread
        cases hread
    · exact h.others ref heq
  refine ⟨h.connections, fun ref hbound => ?_, fun ref hread => ?_, fun ref p hread => ?_⟩
  · exact h.others ref fun heq => hfresh (heq ▸ hbound)
  · have hstate := entries.getVersionState_congr ref _ _ (hentry ref hread)
    rwa [Readable, ← hstate]
  · rw [← hread]
    exact (entries.readSecret_congr ref _ _ (hentry ref (port.readable_of_readSecret _ _ _ hread))).symm

/-- A row's version is that of the reference it names. -/
def Named (w : World port) : Prop :=
  ∀ connectionId row binding, w.connections.get? connectionId = some row → row.binding = some binding →
    binding.secretVersion = binding.secretRef.version

theorem Named.congr (h : Named w) (hconn : w'.connections = w.connections) : Named w' :=
  fun c row binding hget => h c row binding (hconn ▸ hget)

/-- A row is written with a binding that names its version. -/
theorem named_withRow {row : MarketingPublishingConnection} (h : Named w)
    (hb : ∀ binding, row.binding = some binding → binding.secretVersion = binding.secretRef.version) :
    Named (w.withRow connectionId row) := by
  intro c r binding hget hbinding
  rw [World.withRow, Table.get?_modify] at hget
  split at hget
  · rw [Option.map_eq_some_iff] at hget
    obtain ⟨_, -, rfl⟩ := hget
    exact hb binding hbinding
  · exact h c r binding hget hbinding

theorem named_closed : Closed (Named : World port → Prop) tenantId connectionId where
  activate _ _ _ _ h _ := h.congr rfl
  deactivate _ _ _ _ h _ := h.congr rfl
  store _ _ _ _ _ _ _ h _ := h.congr rfl
  delete _ _ _ _ h _ := ⟨h.1.congr rfl, h.2⟩
  write row _ _ _ _ hb h := named_withRow h.1 fun binding hbinding =>
    h.1 connectionId row binding h.2 (hb binding hbinding)
  bind _ _ _ _ h _ := named_withRow h.1 fun _ hbinding => by
    obtain rfl := Option.some.inj hbinding
    rfl

/-- A service at work, or the vault by itself: its cleanup, or what it does for others. -/
def SystemStep (port : SecretVaultPort) (w : World port) : Option Event → World port → Prop
  | some e, w' => LifecycleStep port w e w'
  | none, w' => w'.connections = w.connections

theorem named_step {e : Option Event} (h : Named w) (hs : SystemStep port w e w') : Named w' := by
  cases e with
  | none => exact h.congr hs
  | some e =>
    have hkeeps : Kept port (fun _ => True) Named e.1.program := kept_program named_closed
    have hrun := ((hkeeps w h).run trivial fun f (_ : f ∈ e.2) => trivial).1
    rw [hs]
    exact hrun

theorem named_of_unbound (h : w.unbound) : Named w := by
  intro c row binding hget hb
  rw [h (c, row) (Table.mem_rows.2 hget)] at hb
  cases hb

section Operations

variable {plaintext : SecretPlaintext} {health : Option HealthCheckResult} {now : ℤ}

theorem latched_bindUntilCommit (entries : VaultEntries port) (w₀ : World port) :
    Latched port (bindUntilCommit tenantId connectionId plaintext health now)
      (either (fun _ _ => True) fun _ t => RolledBack entries tenantId connectionId w₀ t.1) (w₀, false) := by
  have hstart := RolledBack.refl entries tenantId connectionId w₀
  have hbody : Ensures port Fault.withoutEffect (fun _ => True)
      (do let row ← lockOr404 tenantId connectionId
          raiseIf row.binding.isSome (safeError "secret_already_bound")
          storeNewVersion row (buildSecretRef tenantId connectionId 1) plaintext now
          return row)
      (either (fun _ w' => Stored entries (buildSecretRef tenantId connectionId 1) w₀ w' ∧
        boundRef w₀ tenantId connectionId = none) fun _ w' => RolledBack entries tenantId connectionId w₀ w') w₀ := by
    refine ensures_bind.2 (ensures_lockOr404 trivial (fun _ => hstart) (fun _ => hstart) fun row hrow => ?_)
    refine ensures_bind.2 (ensures_raiseIf.2 ⟨fun _ => hstart, fun hunbound => ?_⟩)
    have hbound : boundRef w₀ tenantId connectionId = none := by
      rw [boundRef, hrow, Option.bind_some, Option.not_isSome_iff_eq_none.1 hunbound]
      rfl
    refine ensures_bind.2 ((ensures_storeNewVersion entries _ w₀).mono fun r w' hr => ?_)
    cases r with
    | error e => exact hr.rolledBack (by simp [hbound])
    | ok u => exact ⟨hr, hbound⟩
  have hquiet : (do
      let row ← lockOr404 tenantId connectionId
      raiseIf row.binding.isSome (safeError "secret_already_bound")
      storeNewVersion row (buildSecretRef tenantId connectionId 1) plaintext now
      return row : Action MarketingPublishingConnection).Quiet Call.isRollback :=
    .bind quiet_lockOr404 fun _ => .bind .raiseIf fun _ => .bind quiet_storeNewVersion fun _ => .pure _
  refine ensures_bind.2 ((latched_compensating hquiet (fun _ h => h) hbody).mono fun r t hr => ?_)
  obtain ⟨w', latch⟩ := t
  cases r with
  | error e => exact hr
  | ok row =>
    obtain ⟨⟨hstored, hbound⟩, rfl⟩ := hr
    refine (latched_commitNewVersion hstored).mono fun r t hr => ?_
    cases r with
    | error e => exact hr.rolledBack (by simp [hbound])
    | ok u => trivial

theorem latched_rotateUntilCommit (entries : VaultEntries port) (hnamed : Named w₀) :
    Latched port (rotateUntilCommit tenantId connectionId plaintext health now)
      (either (fun _ _ => True) fun _ t => RolledBack entries tenantId connectionId w₀ t.1) (w₀, false) := by
  have hstart := RolledBack.refl entries tenantId connectionId w₀
  have hbody : Ensures port Fault.withoutEffect (fun _ => True)
      (do let row ← lockOr404 tenantId connectionId
          let old ← boundOrRaise tenantId connectionId row
          storeNewVersion row (buildSecretRef tenantId connectionId (old.secretVersion + 1)) plaintext now
          return (row, old))
      (either (fun locked w' =>
        Stored entries (buildSecretRef tenantId connectionId (locked.2.secretVersion + 1)) w₀ w' ∧
          boundRef w₀ tenantId connectionId ≠ some (buildSecretRef tenantId connectionId (locked.2.secretVersion + 1)))
        fun _ w' => RolledBack entries tenantId connectionId w₀ w') w₀ := by
    refine ensures_bind.2 (ensures_lockOr404 trivial (fun _ => hstart) (fun _ => hstart) fun row hrow => ?_)
    refine ensures_bind.2 (ensures_boundOrRaise (fun _ => hstart) fun old hb _ => ?_)
    have hfresh : boundRef w₀ tenantId connectionId ≠
        some (buildSecretRef tenantId connectionId (old.secretVersion + 1)) := by
      intro hbound
      rw [boundRef, hrow, Option.bind_some, Option.mem_def.1 hb] at hbound
      have hversion := hnamed connectionId row old (getConnection_eq_some.1 hrow).1 hb
      have hold : old.secretRef = buildSecretRef tenantId connectionId (old.secretVersion + 1) := Option.some.inj hbound
      rw [hold] at hversion
      have hval : (old.secretVersion : ℕ) = old.secretVersion + 1 := congrArg PNat.val hversion
      omega
    refine ensures_bind.2 ((ensures_storeNewVersion entries _ w₀).mono fun r w' hr => ?_)
    cases r with
    | error e => exact hr.rolledBack hfresh
    | ok u => exact ⟨hr, hfresh⟩
  have hbound : ∀ row : MarketingPublishingConnection, (boundOrRaise tenantId connectionId row).Quiet Call.isRollback := by
    intro row
    unfold boundOrRaise
    split
    · exact .throw _
    · exact .bind .raiseIf fun _ => .pure _
  have hquiet : (do
      let row ← lockOr404 tenantId connectionId
      let old ← boundOrRaise tenantId connectionId row
      storeNewVersion row (buildSecretRef tenantId connectionId (old.secretVersion + 1)) plaintext now
      return (row, old) : Action (MarketingPublishingConnection × SecretBinding)).Quiet Call.isRollback :=
    .bind quiet_lockOr404 fun row => .bind (hbound row) fun _ => .bind quiet_storeNewVersion fun _ => .pure _
  refine ensures_bind.2 ((latched_compensating hquiet (fun _ h => h) hbody).mono fun r t hr => ?_)
  obtain ⟨w', latch⟩ := t
  cases r with
  | error e => exact hr
  | ok locked =>
    obtain ⟨⟨hstored, hfresh⟩, rfl⟩ := hr
    refine ensures_bind.2 ((latched_commitNewVersion hstored).mono fun r t hr => ?_)
    cases r with
    | error e => exact hr.rolledBack hfresh
    | ok u => trivial

end Operations

/-- A first part that is compensated, and raises. -/
theorem rolledBack_of_latched {p : Action α} {faults : List Fault} {e : LifecycleException}
    (h : Latched port p (either (fun _ _ => True) fun _ t => RolledBack entries tenantId connectionId w t.1) (w, false))
    (heffect : ∀ f ∈ faults, f.withoutEffect)
    (hsettled : Settled Call.isRollback Fault.spareVault false (p.calls (environment port) faults w))
    (hrun : p.run (environment port) faults w = (.error e, w')) : RolledBack entries tenantId connectionId w w' := by
  have hpost := (h.run (fun _ => nofun) heffect).1
  obtain ⟨hresult, hworld⟩ := run_latched hsettled
  rw [hrun] at hresult hworld
  rw [compensatingEnvironment, ← hresult] at hpost
  change w' = _ at hworld
  rw [hworld]
  exact hpost

/-- A bind or rotate that fails before its database commit has completed rolls back: in
every reachable state, at whatever call it fails, the rows are as they were, the bound
version has its entry, and nothing can be read that could not be read before. -/
theorem failure_before_commit_rolls_back (entries : VaultEntries port) {w₀ w w' : World port}
    {evs : List (Option Event)} {op : Op} {faults : List Fault} {e : LifecycleException} (h0 : w₀.unbound)
    (h : Run (SystemStep port) w₀ evs w) (hfails : FailsBeforeCommit port faults w e w' op)
    (hcompensated : Compensated port op faults w) :
    op.execute port faults w = (.error e, w') ∧ RolledBack entries op.tenantId op.connectionId w w' := by
  have hnamed : Named w := h.invariant Named (named_of_unbound h0) fun _ _ _ => named_step
  obtain ⟨heffect, hsettled⟩ := hcompensated
  cases op with
  | bindSecret tenantId connectionId plaintext health now =>
    simp only [Op.execute, Op.program, bindSecret_eq] at hsettled ⊢
    obtain ⟨hrun, hcalls⟩ := run_bind_of_error hfails
    rw [hcalls] at hsettled
    exact ⟨hrun, rolledBack_of_latched (latched_bindUntilCommit entries w) heffect hsettled hfails⟩
  | rotateSecret tenantId connectionId plaintext health now =>
    simp only [Op.execute, Op.program, rotateSecret_eq] at hsettled ⊢
    obtain ⟨hrun, hcalls⟩ := run_bind_of_error hfails
    rw [hcalls] at hsettled
    exact ⟨hrun, rolledBack_of_latched (latched_rotateUntilCommit entries hnamed) heffect hsettled hfails⟩
  | disconnect => exact hfails.elim
  | recoverBoundActivation => exact hfails.elim
  | recoverRotationPreviousDeactivate => exact hfails.elim

section Examples

/-- A rotation whose commit, its fourth call, is struck by the database. -/
def demoFailedRotate : Event := (.rotateSecret 1 7 ⟨"second", second_nonempty⟩ (some ⟨.unchecked, none⟩) 1,
  List.replicate 3 .none ++ [.db])

/-- The world after a bind. -/
def demoBoundWorld : World (envelopePgSecretVault demoVault) := ((demoBind []).1.execute _ [] demoWorld).2

/-- The theorem at that rotation: the first version stays bound and can be read, the second is gone. -/
theorem failed_rotate_rolls_back : ∃ e w', demoFailedRotate.1.execute _ demoFailedRotate.2 demoBoundWorld = (.error e, w') ∧
    boundRef w' 1 7 = some (buildSecretRef 1 7 1) ∧ Readable w' (buildSecretRef 1 7 1) ∧
      RolledBack (envelopePgEntries demoVault) 1 7 demoBoundWorld w' := by
  have hunbound : demoWorld.unbound := by
    unfold World.unbound
    decide
  have hrun : Run (SystemStep _) demoWorld [some (demoBind [])] demoBoundWorld := Run.single rfl
  have hfails : FailsBeforeCommit _ demoFailedRotate.2 demoBoundWorld (safeError "db_commit_failed")
      (demoFailedRotate.1.execute _ demoFailedRotate.2 demoBoundWorld).2 demoFailedRotate.1 := rfl
  have hcompensated : Compensated _ demoFailedRotate.1 demoFailedRotate.2 demoBoundWorld := by
    refine ⟨fun f hf e => ?_, by decide⟩
    rintro rfl
    revert hf
    simp [demoFailedRotate]
  obtain ⟨hexecute, hrolled⟩ :=
    failure_before_commit_rolls_back (envelopePgEntries demoVault) hunbound hrun hfails hcompensated
  exact ⟨_, _, hexecute, by decide, by unfold Readable; decide, hrolled⟩

end Examples

end CoreOps.Secrets
