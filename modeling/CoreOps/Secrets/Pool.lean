import CoreOps.Secrets.Recovery
import CoreOps.Secrets.Stages

/-! Services that change one connection's binding at the same time. A version is readable
because the row names it or because some service in the pool still has to take it back; what
breaks this are steps that come too late, after another service has moved on. -/

namespace CoreOps.Secrets

variable {port : SecretVaultPort} {tenantId connectionId : Uuid} {w w' : World port} {ref : SecretRef}

/-! The pool. -/

/-- The services, and which of them holds the row's lock. -/
structure Pool (port : SecretVaultPort) where
  world : World port
  lock : Option ℕ
  threads : List Thread

def Call.isLock : Call → Bool
  | .lockConnection _ _ => true
  | _ => false

/-- Who holds the row once the call of service `i` is answered. -/
def holder (i : ℕ) (lock : Option ℕ) : (c : Call) → Except LifecycleException (Answer c) → Option ℕ
  | .lockConnection _ _, .ok (some _) => some i
  | .commit _ _, _ | .rollback, _ => if lock = some i then none else lock
  | _, _ => lock

/-- The pool once the call of service `i` is answered by a database and a vault that do not fail. -/
def Pool.moved (tenantId connectionId : Uuid) (pool : Pool port) (i : ℕ) (st : Stage) : Pool port :=
  let answered := handle port pool.world (st.call tenantId connectionId) .none
  { world := answered.2
    lock := holder i pool.lock (st.call tenantId connectionId) answered.1
    threads := pool.threads.set i (st.next tenantId connectionId answered.1) }

/-- Service `i` takes its next call; one for the row waits while another service holds it. -/
def Pool.step? (tenantId connectionId : Uuid) (pool : Pool port) (i : ℕ) : Option (Pool port) :=
  match pool.threads[i]? with
  | some (.running st) =>
    if (st.call tenantId connectionId).isLock = true ∧ pool.lock.isSome = true then none
    else some (pool.moved tenantId connectionId i st)
  | _ => none

def PoolStep (tenantId connectionId : Uuid) (pool : Pool port) (i : ℕ) (pool' : Pool port) : Prop :=
  pool.step? tenantId connectionId i = some pool'

/-- The services before their first call. -/
def Pool.start (w : World port) (jobs : List Job) : Pool port := ⟨w, none, jobs.map fun job => .running (.lock job)⟩

def Thread.stage? : Thread → Option Stage
  | .running st => some st
  | .done _ => none

def Pool.Finished (pool : Pool port) : Prop := ∀ th ∈ pool.threads, th.stage?.isNone = true

instance (pool : Pool port) : Decidable pool.Finished := inferInstanceAs (Decidable (∀ th ∈ pool.threads, _))

/-- A version of the connection is readable exactly when the row names it. -/
def OnlyBound (tenantId connectionId : Uuid) (w : World port) : Prop :=
  ∀ ref : SecretRef, ref.owned tenantId connectionId = true →
    (Readable w ref ↔ boundRef w tenantId connectionId = some ref)

/-- The step does not come too late: a version that is committed, or is to be activated by a
rotate whose previous version is left to take back, is readable still; and a version that is
taken back is not the one the row names, nor left behind because it was activated. -/
def Stage.InTime (tenantId connectionId : Uuid) (w : World port) : Stage → Prop
  | .commitNew change => Readable w change.newRef
  | .findActive newRef (some oldRef) | .activate newRef (some oldRef) =>
    Readable w newRef ∨ ¬ Readable w oldRef ∨ boundRef w tenantId connectionId = some oldRef
  | .deactivateOld oldRef _ => boundRef w tenantId connectionId = some oldRef → ¬ Readable w oldRef
  | .deletePending newRef _ => boundRef w tenantId connectionId = some newRef → ¬ Readable w newRef
  | .findPending newRef _ => port.getVersionState w.vault newRef = some .active →
      boundRef w tenantId connectionId = some newRef
  | _ => True

instance (w : World port) (ref : SecretRef) : Decidable (Readable w ref) := inferInstanceAs (Decidable (_ = true))

instance (w : World port) : ∀ st : Stage, Decidable (st.InTime tenantId connectionId w)
  | .commitNew change => inferInstanceAs (Decidable (Readable w change.newRef))
  | .findActive newRef (some oldRef) | .activate newRef (some oldRef) => inferInstanceAs (Decidable
      (Readable w newRef ∨ ¬ Readable w oldRef ∨ boundRef w tenantId connectionId = some oldRef))
  | .deactivateOld oldRef _ =>
    inferInstanceAs (Decidable (boundRef w tenantId connectionId = some oldRef → ¬ Readable w oldRef))
  | .deletePending newRef _ =>
    inferInstanceAs (Decidable (boundRef w tenantId connectionId = some newRef → ¬ Readable w newRef))
  | .findPending newRef _ => inferInstanceAs (Decidable (port.getVersionState w.vault newRef = some .active →
      boundRef w tenantId connectionId = some newRef))
  | .lock _ | .findOrphan _ | .deleteOrphan _ | .store _ | .deleteUnhealthy _ _ | .rollbackRaise _ | .rollbackNew _ _ |
    .findActive _ none | .activate _ none | .lockView _ | .rollbackView _ _ | .oldExists _ _ | .findOld _ _ |
    .lockRecord _ _ | .commitRecord _ _ | .rollbackRecord _ | .boundExists _ _ | .deactivateBound _ _ | .confirm _ _ |
    .commitView _ | .commitRevokeFailed _ | .rollbackRecover _ => inferInstanceAs (Decidable True)

/-- The next call of service `i` comes in time. -/
def InTime (tenantId connectionId : Uuid) (pool : Pool port) (i : ℕ) : Prop :=
  ∀ st ∈ pool.threads[i]?.bind Thread.stage?, st.InTime tenantId connectionId pool.world

instance (pool : Pool port) (i : ℕ) : Decidable (InTime tenantId connectionId pool i) :=
  inferInstanceAs (Decidable (∀ st ∈ pool.threads[i]?.bind Thread.stage?, _))

/-! What a service in the pool answers for. -/

/-- Stages that are only reached with the row's lock, and rely on it. -/
def Stage.holds : Stage → Bool
  | .findOrphan _ | .deleteOrphan _ | .store _ | .deleteUnhealthy _ _ | .commitNew _ | .commitRecord _ _ |
    .boundExists _ _ | .deactivateBound _ _ | .confirm _ _ | .commitView _ | .commitRevokeFailed _ => true
  | _ => false

/-- The version that a service is to take back, or to have the row name. -/
def Stage.answersFor : Stage → Option SecretRef
  | .deleteUnhealthy newRef _ | .rollbackNew newRef _ | .findPending newRef _ | .deletePending newRef _ => some newRef
  | .commitNew change => some change.newRef
  | .findActive _ oldRef | .activate _ oldRef | .lockView oldRef | .rollbackView oldRef _ => oldRef
  | .oldExists oldRef _ | .findOld oldRef _ | .deactivateOld oldRef _ => some oldRef
  | _ => none

/-- The row still names the version that has been revoked. -/
def Stage.revokes : Stage → Bool
  | .confirm _ _ | .commitView _ => true
  | _ => false

/-- What bind and rotate have made of the row they hold. -/
structure Change.Fits (change : Change) (tenantId connectionId : Uuid) (w : World port) : Prop where
  row : w.getConnection tenantId connectionId = some change.row
  owned : change.newRef.owned tenantId connectionId = true
  oldRef : change.oldRef = boundRef w tenantId connectionId
  fresh : boundRef w tenantId connectionId ≠ some change.newRef

theorem Change.Fits.congr {change : Change} (h : change.Fits tenantId connectionId w)
    (hconn : w'.connections = w.connections) : change.Fits tenantId connectionId w' := by
  have href : boundRef w' tenantId connectionId = boundRef w tenantId connectionId := by
    rw [boundRef, boundRef, getConnection_congr hconn]
  exact ⟨(getConnection_congr hconn).trans h.row, h.owned, h.oldRef.trans href.symm, fun hb => h.fresh (href.symm.trans hb)⟩

/-- What a service knows at a stage. -/
def Stage.Fact (tenantId connectionId : Uuid) (w : World port) : Stage → Prop
  | .findOrphan change | .deleteOrphan change | .store change | .commitNew change => change.Fits tenantId connectionId w
  | .deleteUnhealthy newRef _ => boundRef w tenantId connectionId ≠ some newRef
  | .findActive _ _ | .activate _ _ | .lockView _ => (w.getConnection tenantId connectionId).isSome = true
  | .boundExists row ref | .deactivateBound row ref =>
    w.getConnection tenantId connectionId = some row ∧ boundRef w tenantId connectionId = some ref
  | .confirm row ref => w.getConnection tenantId connectionId = some row ∧
      boundRef w tenantId connectionId = some ref ∧ ¬ Readable w ref
  | .commitView row => (w.getConnection tenantId connectionId).isSome = true ∧ row.tenantId = tenantId ∧
      row.binding = none ∧ ∀ ref, boundRef w tenantId connectionId = some ref → ¬ Readable w ref
  | .commitRevokeFailed _ => False
  | .commitRecord row _ => ∃ current, w.getConnection tenantId connectionId = some current ∧
      row.tenantId = current.tenantId ∧ row.binding = current.binding
  | _ => True

namespace Thread

def Holds : Thread → Prop
  | .running st => st.holds = true
  | .done _ => False

def answersFor : Thread → Option SecretRef
  | .running st => st.answersFor
  | .done _ => none

def Revokes : Thread → Prop
  | .running st => st.revokes = true
  | .done _ => False

def Fact (tenantId connectionId : Uuid) (w : World port) : Thread → Prop
  | .running st => st.Fact tenantId connectionId w
  | .done _ => True

end Thread

/-- A binding names a version of the connection, with its number. -/
def Fitting (tenantId connectionId : Uuid) (w : World port) : Prop :=
  ∀ row binding, w.getConnection tenantId connectionId = some row → row.binding = some binding →
    binding.secretRef.owned tenantId connectionId = true ∧ binding.secretVersion = binding.secretRef.version

structure PoolInv (tenantId connectionId : Uuid) (pool : Pool port) : Prop where
  fitting : Fitting tenantId connectionId pool.world
  holds : ∀ (i : ℕ) th, pool.threads[i]? = some th → th.Holds → pool.lock = some i
  facts : ∀ (i : ℕ) th, pool.threads[i]? = some th → th.Fact tenantId connectionId pool.world
  readable : ∀ ref : SecretRef, ref.owned tenantId connectionId = true → Readable pool.world ref →
    boundRef pool.world tenantId connectionId = some ref ∨
      ∃ (i : ℕ) (th : Thread), pool.threads[i]? = some th ∧ th.answersFor = some ref
  bound : ∀ ref, boundRef pool.world tenantId connectionId = some ref →
    Readable pool.world ref ∨ ∃ (i : ℕ) (th : Thread), pool.threads[i]? = some th ∧ th.Revokes

/-! One service moves on, and the others stay where they are. -/

section Advance

variable {pool : Pool port} {i : ℕ} {st : Stage} {lock' : Option ℕ} {th' : Thread}

theorem get?_set_cases {threads : List Thread} {j : ℕ} {th : Thread} (h : (threads.set i th')[j]? = some th) :
    (j = i ∧ th = th') ∨ (j ≠ i ∧ threads[j]? = some th) := by
  rw [List.getElem?_set] at h
  split at h
  · rename_i hij
    split at h
    · exact .inl ⟨hij.symm, (Option.some.inj h).symm⟩
    · cases h
  · rename_i hij
    exact .inr ⟨fun hji => hij hji.symm, h⟩

theorem get?_set_self {threads : List Thread} {th : Thread} (h : threads[i]? = some th) :
    (threads.set i th')[i]? = some th' := by
  obtain ⟨hlt, -⟩ := List.getElem?_eq_some_iff.1 h
  rw [List.getElem?_set_self hlt]

theorem get?_set_ne {threads : List Thread} {j : ℕ} {th : Thread} (hne : j ≠ i) (h : threads[j]? = some th) :
    (threads.set i th')[j]? = some th := by
  rw [List.getElem?_set_ne hne.symm, h]

theorem PoolInv.advance (h : PoolInv tenantId connectionId pool) (hget : pool.threads[i]? = some (.running st))
    (hlock : ∀ j ≠ i, pool.lock = some j → lock' = some j) (hholds : th'.Holds → lock' = some i)
    (hfitting : Fitting tenantId connectionId w') (hfact : th'.Fact tenantId connectionId w')
    (hothers : ∀ th : Thread, (th.Holds → ∃ j ≠ i, pool.lock = some j) → th.Fact tenantId connectionId pool.world →
      th.Fact tenantId connectionId w')
    (hreadable : ∀ ref : SecretRef, ref.owned tenantId connectionId = true → Readable w' ref →
      boundRef w' tenantId connectionId = some ref ∨ th'.answersFor = some ref ∨
        (Readable pool.world ref ∧ boundRef pool.world tenantId connectionId ≠ some ref ∧ st.answersFor ≠ some ref))
    (hbound : ∀ ref, boundRef w' tenantId connectionId = some ref → Readable w' ref ∨ th'.Revokes ∨
      (boundRef pool.world tenantId connectionId = some ref ∧ ¬ Readable pool.world ref ∧ st.revokes = false)) :
    PoolInv tenantId connectionId ⟨w', lock', pool.threads.set i th'⟩ where
  fitting := hfitting
  holds j th hj hth := by
    rcases get?_set_cases hj with ⟨rfl, rfl⟩ | ⟨hne, hj⟩
    · exact hholds hth
    · exact hlock j hne (h.holds j th hj hth)
  facts j th hj := by
    rcases get?_set_cases hj with ⟨rfl, rfl⟩ | ⟨hne, hj⟩
    · exact hfact
    · exact hothers th (fun hth => ⟨j, hne, h.holds j th hj hth⟩) (h.facts j th hj)
  readable ref howned hr := by
    rcases hreadable ref howned hr with hb | ha | ⟨hr₀, hunbound, hne⟩
    · exact .inl hb
    · exact .inr ⟨i, th', get?_set_self hget, ha⟩
    · obtain hb | ⟨j, th, hj, ha⟩ := h.readable ref howned hr₀
      · exact absurd hb hunbound
      · have hji : j ≠ i := by
          rintro rfl
          obtain rfl := Option.some.inj (hget.symm.trans hj)
          exact hne ha
        exact .inr ⟨j, th, get?_set_ne hji hj, ha⟩
  bound ref hb := by
    rcases hbound ref hb with hr | hrev | ⟨hb₀, hr₀, hrev₀⟩
    · exact .inl hr
    · exact .inr ⟨i, th', get?_set_self hget, hrev⟩
    · obtain hr | ⟨j, th, hj, hrev⟩ := h.bound ref hb₀
      · exact absurd hr hr₀
      · have hji : j ≠ i := by
          rintro rfl
          obtain rfl := Option.some.inj (hget.symm.trans hj)
          rw [Thread.Revokes, hrev₀] at hrev
          cases hrev
        exact .inr ⟨j, th, get?_set_ne hji hj, hrev⟩

theorem boundRef_congr (h : w'.connections = w.connections) :
    boundRef w' tenantId connectionId = boundRef w tenantId connectionId := by
  rw [boundRef, boundRef, getConnection_congr h]

/-- A step of another service that leaves the rows alone keeps what a service knows. -/
theorem Thread.Fact.keeps {th : Thread} (h : th.Fact tenantId connectionId w) (hconn : w'.connections = w.connections)
    (hread : th.Holds → ∀ ref, Readable w' ref → Readable w ref) : th.Fact tenantId connectionId w' := by
  have hget : w'.getConnection tenantId connectionId = w.getConnection tenantId connectionId := getConnection_congr hconn
  have href : boundRef w' tenantId connectionId = boundRef w tenantId connectionId := boundRef_congr hconn
  cases th with
  | done result => trivial
  | running st =>
    cases st with
    | findOrphan change | deleteOrphan change | store change | commitNew change => exact Change.Fits.congr h hconn
    | deleteUnhealthy newRef code => exact fun hb => h (href.symm.trans hb)
    | findActive newRef oldRef | activate newRef oldRef => exact (congrArg Option.isSome hget).trans h
    | lockView oldRef => exact (congrArg Option.isSome hget).trans h
    | boundExists row ref | deactivateBound row ref => exact ⟨hget.trans h.1, href.trans h.2⟩
    | confirm row ref => exact ⟨hget.trans h.1, href.trans h.2.1, fun hr => h.2.2 (hread rfl _ hr)⟩
    | commitView row =>
      obtain ⟨hsome, htenant, hnone, hdead⟩ := h
      exact ⟨(congrArg Option.isSome hget).trans hsome, htenant, hnone,
        fun ref hb hr => hdead ref (href.symm.trans hb) (hread rfl _ hr)⟩
    | commitRevokeFailed row => exact h
    | commitRecord row result =>
      obtain ⟨current, hcurrent, hsame⟩ := h
      exact ⟨current, hget.trans hcurrent, hsame⟩
    | _ => trivial

/-- So does a commit of another service, of a service that does not hold the row. -/
theorem Thread.Fact.commit {th : Thread} (h : th.Fact tenantId connectionId w) (hfree : ¬ th.Holds)
    (hsome : (w'.getConnection tenantId connectionId).isSome = true) : th.Fact tenantId connectionId w' := by
  cases th with
  | done result => trivial
  | running st =>
    cases st with
    | findActive newRef oldRef | activate newRef oldRef => exact hsome
    | lockView oldRef => exact hsome
    | lock job => trivial
    | rollbackRaise e | rollbackNew newRef e | findPending newRef e | deletePending newRef e => trivial
    | rollbackView oldRef view | oldExists oldRef view | findOld oldRef view | deactivateOld oldRef view => trivial
    | lockRecord code result | rollbackRecord result => trivial
    | rollbackRecover e => trivial
    | _ => exact absurd rfl hfree

/-- A call to the vault, or one that only reads. -/
theorem PoolInv.advance_vault (h : PoolInv tenantId connectionId pool) (hget : pool.threads[i]? = some (.running st))
    (hlock : ∀ j ≠ i, pool.lock = some j → lock' = some j) (hholds : th'.Holds → lock' = some i)
    (hconn : w'.connections = pool.world.connections) (hfact : th'.Fact tenantId connectionId w')
    (hnew : ∀ ref, Readable w' ref → Readable pool.world ref ∨ (st.holds = true ∧ th'.answersFor = some ref))
    (hkeeps : ∀ ref, st.answersFor = some ref → Readable w' ref →
      boundRef pool.world tenantId connectionId = some ref ∨ th'.answersFor = some ref)
    (hspares : ∀ ref, boundRef pool.world tenantId connectionId = some ref → Readable pool.world ref →
      Readable w' ref ∨ th'.Revokes)
    (hrevokes : st.revokes = true → th'.Revokes) :
    PoolInv tenantId connectionId ⟨w', lock', pool.threads.set i th'⟩ := by
  have href : boundRef w' tenantId connectionId = boundRef pool.world tenantId connectionId := boundRef_congr hconn
  refine h.advance hget hlock hholds ?_ hfact ?_ ?_ ?_
  · intro row binding hrow
    exact h.fitting row binding ((getConnection_congr hconn).symm.trans hrow)
  · intro th hth hf
    refine hf.keeps hconn fun hholding ref hr => ?_
    rcases hnew ref hr with hr | ⟨hst, -⟩
    · exact hr
    · -- two services do not hold the row at once
      obtain ⟨j, hne, hj⟩ := hth hholding
      have hi : pool.lock = some i := h.holds i _ hget hst
      exact absurd (Option.some.inj (hj.symm.trans hi)) hne
  · intro ref howned hr
    rw [href]
    by_cases hb : boundRef pool.world tenantId connectionId = some ref
    · exact .inl hb
    by_cases ha : st.answersFor = some ref
    · rcases hkeeps ref ha hr with hb' | ha'
      · exact absurd hb' hb
      · exact .inr (.inl ha')
    · rcases hnew ref hr with hr₀ | ⟨-, ha'⟩
      · exact .inr (.inr ⟨hr₀, hb, ha⟩)
      · exact .inr (.inl ha')
  · intro ref hb
    rw [href] at hb
    by_cases hr : Readable pool.world ref
    · rcases hspares ref hb hr with hr' | hrev
      · exact .inl hr'
      · exact .inr (.inl hrev)
    · cases hst : st.revokes with
      | true => exact .inr (.inl (hrevokes hst))
      | false => exact .inr (.inr ⟨hb, hr, rfl⟩)

/-- A call that changes nothing. -/
theorem PoolInv.advance_read (h : PoolInv tenantId connectionId pool) (hget : pool.threads[i]? = some (.running st))
    (hlock : ∀ j ≠ i, pool.lock = some j → lock' = some j) (hholds : th'.Holds → lock' = some i)
    (hfact : th'.Fact tenantId connectionId pool.world)
    (hkeeps : ∀ ref, st.answersFor = some ref → Readable pool.world ref →
      boundRef pool.world tenantId connectionId = some ref ∨ th'.answersFor = some ref)
    (hrevokes : st.revokes = true → th'.Revokes) :
    PoolInv tenantId connectionId ⟨pool.world, lock', pool.threads.set i th'⟩ :=
  h.advance_vault hget hlock hholds rfl hfact (fun _ hr => .inl hr) hkeeps (fun _ _ hr => .inl hr) hrevokes

/-- A call that makes one version unreadable, and no other. -/
theorem PoolInv.advance_kill (h : PoolInv tenantId connectionId pool) (hget : pool.threads[i]? = some (.running st))
    (hlock : ∀ j ≠ i, pool.lock = some j → lock' = some j) (hholds : th'.Holds → lock' = some i)
    (hconn : w'.connections = pool.world.connections) (hfact : th'.Fact tenantId connectionId w')
    (hkill : ∀ r, Readable w' r ↔ Readable pool.world r ∧ r ≠ ref)
    (hkeeps : ∀ r, st.answersFor = some r → r ≠ ref → th'.answersFor = some r)
    (hspares : boundRef pool.world tenantId connectionId = some ref → Readable pool.world ref → th'.Revokes)
    (hrevokes : st.revokes = true → th'.Revokes) :
    PoolInv tenantId connectionId ⟨w', lock', pool.threads.set i th'⟩ := by
  refine h.advance_vault hget hlock hholds hconn hfact (fun r hr => .inl ((hkill r).1 hr).1) ?_ ?_ hrevokes
  · exact fun r ha hr => .inr (hkeeps r ha ((hkill r).1 hr).2)
  · intro r hb hr
    by_cases heq : r = ref
    · subst heq
      exact .inr (hspares hb hr)
    · exact .inl ((hkill r).2 ⟨hr, heq⟩)

/-- A commit by the service that holds the row. -/
theorem PoolInv.advance_commit {row' current : MarketingPublishingConnection} (h : PoolInv tenantId connectionId pool)
    (hget : pool.threads[i]? = some (.running st)) (hst : st.holds = true)
    (hcurrent : pool.world.getConnection tenantId connectionId = some current) (htenant : row'.tenantId = current.tenantId)
    (hfree : ¬ th'.Holds) (hfact : th'.Fact tenantId connectionId (pool.world.withRow connectionId row'))
    (hfits : ∀ binding, row'.binding = some binding →
      binding.secretRef.owned tenantId connectionId = true ∧ binding.secretVersion = binding.secretRef.version ∧
        (Readable pool.world binding.secretRef ∨
          (boundRef pool.world tenantId connectionId = some binding.secretRef ∧ st.revokes = false)))
    (hkeeps : ∀ r, Readable pool.world r → boundRef pool.world tenantId connectionId = some r ∨ st.answersFor = some r →
      row'.binding.map (·.secretRef) = some r ∨ th'.answersFor = some r) :
    PoolInv tenantId connectionId
      ⟨pool.world.withRow connectionId row', if pool.lock = some i then none else pool.lock, pool.threads.set i th'⟩ := by
  have hi : pool.lock = some i := h.holds i _ hget hst
  have hrow := getConnection_withRow hcurrent htenant
  have href : boundRef (pool.world.withRow connectionId row') tenantId connectionId = row'.binding.map (·.secretRef) := by
    rw [boundRef, hrow, Option.bind_some]
  refine h.advance hget ?_ (fun hth => absurd hth hfree) ?_ hfact ?_ ?_ ?_
  · intro j hne hj
    exact absurd (Option.some.inj (hj.symm.trans hi)) hne
  · intro row binding hrow' hb
    obtain rfl := Option.some.inj (hrow.symm.trans hrow')
    exact ⟨(hfits binding hb).1, (hfits binding hb).2.1⟩
  · intro th hth hf
    refine hf.commit (fun hholding => ?_) (by rw [hrow]; rfl)
    obtain ⟨j, hne, hj⟩ := hth hholding
    exact hne (Option.some.inj (hj.symm.trans hi))
  · intro r howned hr
    rw [href]
    by_cases hmine : boundRef pool.world tenantId connectionId = some r ∨ st.answersFor = some r
    · rcases hkeeps r hr hmine with hb | ha
      · exact .inl hb
      · exact .inr (.inl ha)
    · rw [not_or] at hmine
      exact .inr (.inr ⟨hr, hmine⟩)
  · intro r hb
    rw [href] at hb
    obtain ⟨binding, hbinding, rfl⟩ := Option.map_eq_some_iff.1 hb
    obtain ⟨-, -, hr | ⟨hb₀, hrev⟩⟩ := hfits binding hbinding
    · exact .inl hr
    · by_cases hr : Readable pool.world binding.secretRef
      · exact .inl hr
      · exact .inr (.inr ⟨hb₀, hr, hrev⟩)

/-- A call that changes nothing, by a service that answers for nothing. -/
theorem PoolInv.advance_free (h : PoolInv tenantId connectionId pool) (hget : pool.threads[i]? = some (.running st))
    (hlock : ∀ j ≠ i, pool.lock = some j → lock' = some j) (hholds : th'.Holds → lock' = some i)
    (hfact : th'.Fact tenantId connectionId pool.world) (hnone : st.answersFor = none) (hrevokes : st.revokes = false) :
    PoolInv tenantId connectionId ⟨pool.world, lock', pool.threads.set i th'⟩ := by
  refine h.advance_read hget hlock hholds hfact (fun ref ha => ?_) fun hrev => ?_
  · rw [hnone] at ha
    cases ha
  · rw [hrevokes] at hrev
    cases hrev

end Advance

/-! What the calls do to the versions. -/

section Calls

theorem readable_iff_update {state : SecretVersionState} {s : port.State}
    (h : port.getVersionState s = Function.update (port.getVersionState w.vault) ref (some state)) (r : SecretRef) :
    Readable (w.withVault s) r ↔ if r = ref then SecretVersionState.readable (some state) = true else Readable w r := by
  rw [Readable, withVault_vault, h, Function.update_apply]
  split
  · rfl
  · rfl

theorem handle_vault (call : VaultCall) {s : port.State} (h : call.exec port w.vault = .ok s) :
    handle port w (.vault call) .none = (.ok (), w.withVault s) := by
  have heffect : call.effect port w.vault = s := by rw [VaultCall.effect, h]
  change (((call.exec port w.vault).map fun _ => ()).mapError LifecycleException.ofVault,
    w.withVault (call.effect port w.vault)) = _
  rw [h, heffect]
  rfl

theorem handle_vault_error (call : VaultCall) {e : VaultException} (h : call.exec port w.vault = .error e) :
    handle port w (.vault call) .none = (.error (.ofVault e), w) := by
  have heffect : call.effect port w.vault = w.vault := by rw [VaultCall.effect, h]
  change (((call.exec port w.vault).map fun _ => ()).mapError LifecycleException.ofVault,
    w.withVault (call.effect port w.vault)) = _
  rw [h, heffect]
  rfl

/-- A version that is deleted is not readable any more. -/
theorem handle_delete (w : World port) (ref : SecretRef) : ∃ s, handle port w (.vault (.deleteVersion ref)) .none =
    (.ok (), w.withVault s) ∧ ∀ r, Readable (w.withVault s) r ↔ Readable w r ∧ r ≠ ref := by
  obtain ⟨s, hs⟩ := port.deleteVersion_succeeds ref w.vault
  refine ⟨s, handle_vault (.deleteVersion ref) hs, fun r => ?_⟩
  rw [Readable, withVault_vault, port.getVersionState_deleteVersion _ _ _ hs, Function.update_apply]
  by_cases heq : r = ref
  · simp [heq, SecretVersionState.readable]
  · simp [heq, Readable]

/-- Nor is one that is deactivated, whether the call succeeds or the version was not there. -/
theorem handle_deactivate (w : World port) (ref : SecretRef) : ∃ answer s,
    handle port w (.vault (.deactivateVersion ref)) .none = (answer, w.withVault s) ∧
      (∀ r, Readable (w.withVault s) r ↔ Readable w r ∧ r ≠ ref) ∧ (answer = .ok () ∨ ¬ Readable w ref) := by
  cases hexec : port.deactivateVersion ref w.vault with
  | ok s =>
    refine ⟨.ok (), s, handle_vault (.deactivateVersion ref) hexec, fun r => ?_, .inl rfl⟩
    rw [readable_iff_update (port.getVersionState_deactivateVersion _ _ _ hexec)]
    by_cases heq : r = ref
    · simp [heq, SecretVersionState.readable]
    · simp [heq]
  | error e =>
    have hgone : ¬ Readable w ref := by
      intro hr
      have hthere : port.getVersionState w.vault ref ≠ none := by
        intro hnone
        rw [Readable, hnone] at hr
        cases hr
      obtain ⟨s, hs⟩ := port.deactivateVersion_succeeds ref w.vault hthere
      cases hs.symm.trans hexec
    refine ⟨.error (.ofVault e), w.vault, handle_vault_error (.deactivateVersion ref) hexec, fun r => ?_, .inr hgone⟩
    constructor
    · intro hr
      refine ⟨hr, ?_⟩
      rintro rfl
      exact hgone hr
    · exact And.left

/-- A vault that does not activate a version that has been revoked. -/
def RefusesInactive (port : SecretVaultPort) : Prop :=
  ∀ ref s s', port.activateVersion ref s = .ok s' → SecretVersionState.readable (port.getVersionState s ref) = true

/-- An activation that succeeds finds the version readable, and does not change what is. -/
theorem handle_activate (hrefuses : RefusesInactive port) (w : World port) (ref : SecretRef) :
    (∃ s, handle port w (.vault (.activateVersion ref)) .none = (.ok (), w.withVault s) ∧ Readable w ref ∧
      ∀ r, Readable (w.withVault s) r ↔ Readable w r) ∨
    ∃ e, handle port w (.vault (.activateVersion ref)) .none = (.error e, w) ∧ ¬ Readable w ref := by
  cases hexec : port.activateVersion ref w.vault with
  | ok s =>
    have hread : Readable w ref := hrefuses _ _ _ hexec
    refine .inl ⟨s, handle_vault (.activateVersion ref) hexec, hread, fun r => ?_⟩
    rw [readable_iff_update (port.getVersionState_activateVersion _ _ _ hexec)]
    by_cases heq : r = ref
    · simp [heq, SecretVersionState.readable, hread]
    · simp [heq]
  | error e =>
    refine .inr ⟨_, handle_vault_error (.activateVersion ref) hexec, fun hr => ?_⟩
    obtain ⟨s, hs⟩ := port.activateVersion_succeeds ref w.vault hr
    cases hs.symm.trans hexec

/-- A version that is stored may become readable, and no other changes. -/
theorem handle_store (w : World port) (ref : SecretRef) (plaintext : SecretPlaintext)
    (metadata : Option SecretStoreMetadata) (now : ℤ) :
    (∃ s, handle port w (.vault (.storeSecret ref plaintext metadata now)) .none = (.ok (), w.withVault s) ∧
      (∀ r, Readable (w.withVault s) r → Readable w r ∨ r = ref) ∧ ∀ r, Readable w r → Readable (w.withVault s) r) ∨
    ∃ e, handle port w (.vault (.storeSecret ref plaintext metadata now)) .none = (.error e, w) := by
  cases hexec : port.storeSecret ref plaintext metadata now w.vault with
  | ok s =>
    refine .inl ⟨s, handle_vault (.storeSecret ref plaintext metadata now) hexec, fun r hr => ?_, fun r hr => ?_⟩
    · rw [readable_iff_update (port.getVersionState_storeSecret _ _ _ _ _ _ hexec)] at hr
      by_cases heq : r = ref
      · exact .inr heq
      · rw [if_neg heq] at hr
        exact .inl hr
    · rw [readable_iff_update (port.getVersionState_storeSecret _ _ _ _ _ _ hexec)]
      by_cases heq : r = ref
      · subst heq
        obtain ⟨state, hstate⟩ : ∃ state, port.getVersionState w.vault r = some state := by
          cases hstate : port.getVersionState w.vault r with
          | none =>
            rw [Readable, hstate] at hr
            cases hr
          | some state => exact ⟨state, rfl⟩
        rw [if_pos rfl, hstate, Option.getD_some, ← hstate]
        exact hr
      · rw [if_neg heq]
        exact hr
  | error e => exact .inr ⟨_, handle_vault_error (.storeSecret ref plaintext metadata now) hexec⟩

end Calls

end CoreOps.Secrets
