import Mathlib.Data.List.Basic
import CoreOps.Lib.Runs

/-! Transactions under READ COMMITTED with row locks. Each session runs a program
one statement at a time: a statement sees the committed database and the session's
own writes, takes row locks, and adds row writes; a commit publishes the writes and
frees the locks; a session may also roll back, or be killed between statements.
A statement whose locks another session holds in a conflicting mode waits, so it is
no step until they are free. The rule at the end is how a property of every
interleaving is proved: what one session's statement keeps, and what another
session's commit cannot break. -/

namespace ReadCommitted

/-- The row lock modes of PostgreSQL. -/
inductive LockMode
  | keyShare
  | share
  | noKeyUpdate
  | update
  deriving DecidableEq, Repr

/-- PostgreSQL's conflict table of row locks. -/
def LockMode.conflicts : LockMode → LockMode → Bool
  | .keyShare, .update => true
  | .update, .keyShare => true
  | .keyShare, _ => false
  | _, .keyShare => false
  | .share, .share => false
  | _, _ => true

theorem LockMode.conflicts_comm (a b : LockMode) : a.conflicts b = b.conflicts a := by
  cases a <;> cases b <;> rfl

/-- What a session does next. -/
inductive Action (K W L : Type*)
  | exec (locks : List (K × LockMode)) (writes : List W) (next : L)
  | commit (next : Option L)
  | rollback (next : Option L)

/-- A database with row writes `W`, lockable rows `K`, and the program its
sessions run: `next l d` is the statement at local state `l` when the session
sees `d`. -/
structure System (D W K L : Type*) where
  apply : D → W → D
  next : L → D → Action K W L

/-- An open transaction: where its program stands (`none` when it is over), the
row locks it holds and its uncommitted writes. -/
structure Session (K W L : Type*) where
  loc : Option L
  locks : List (K × LockMode)
  writes : List W

/-- A session about to start at `l`. -/
def Session.fresh {K W L : Type*} (l : L) : Session K W L := ⟨some l, [], []⟩

/-- A session with no transaction open. -/
def Session.closed {K W L : Type*} (l : Option L) : Session K W L := ⟨l, [], []⟩

/-- The committed database, the sessions, and every committed row write in
commit order. -/
structure World (D W K L : Type*) where
  db : D
  sessions : List (Session K W L)
  log : List W

/-- A turn of session `t`, or its connection dying. -/
inductive Event
  | turn (t : ℕ)
  | kill (t : ℕ)
  deriving DecidableEq, Repr

variable {D W K L : Type*}

/-- The locks of two sessions can be held at once. -/
def Compatible (s s' : Session K W L) : Prop :=
  ∀ h ∈ s.locks, ∀ h' ∈ s'.locks, h.1 = h'.1 → h.2.conflicts h'.2 = false

theorem Compatible.symm {s s' : Session K W L} (h : Compatible s s') : Compatible s' s :=
  fun a ha b hb he => by rw [LockMode.conflicts_comm]; exact h b hb a ha he.symm

/-- Two sessions never hold one row in a self-conflicting mode. -/
theorem Compatible.not_both {s s' : Session K W L} (h : Compatible s s') {k : K} {m m' : LockMode}
    (hm : (k, m) ∈ s.locks) (hm' : (k, m') ∈ s'.locks) : m.conflicts m' = false :=
  h _ hm _ hm' rfl

section Locks

variable [DecidableEq K]

/-- No other session holds a lock in conflict with the ones `t` asks for. -/
def World.free (w : World D W K L) (t : ℕ) (asked : List (K × LockMode)) :
    Bool :=
  w.sessions.zipIdx.all fun p => p.2 = t ||
    p.1.locks.all fun held => asked.all fun a => !(held.1 = a.1 && held.2.conflicts a.2)

theorem World.free_iff {w : World D W K L} {t : ℕ} {asked : List (K × LockMode)} :
    w.free t asked = true ↔ ∀ i s, w.sessions[i]? = some s → i ≠ t →
      ∀ held ∈ s.locks, ∀ a ∈ asked, held.1 = a.1 → held.2.conflicts a.2 = false := by
  simp only [World.free, List.all_eq_true, Bool.or_eq_true, decide_eq_true_eq, Bool.not_eq_true',
    Bool.and_eq_false_iff, decide_eq_false_iff_not]
  constructor
  · intro h i s hs hi held hh a ha he
    rcases h (s, i) (List.mem_zipIdx_iff_getElem?.2 hs) with h | h
    · exact absurd h hi
    · rcases h held hh a ha with h | h
      · exact absurd he h
      · exact h
  · rintro h ⟨s, i⟩ hs
    by_cases hi : i = t
    · exact .inl hi
    · refine .inr fun held hh a ha => ?_
      by_cases he : held.1 = a.1
      · exact .inr (h i s (List.mem_zipIdx_iff_getElem?.1 hs) hi held hh a ha he)
      · exact .inl he

end Locks

namespace System

variable (sys : System D W K L)

/-- What a session with writes `ws` sees. -/
def view (d : D) (ws : List W) : D := ws.foldl sys.apply d

@[simp] theorem view_nil (d : D) : sys.view d [] = d := rfl

theorem view_cons (d : D) (w : W) (ws : List W) : sys.view d (w :: ws) = sys.view (sys.apply d w) ws := rfl

theorem view_append (d : D) (ws ws' : List W) :
    sys.view d (ws ++ ws') = sys.view (sys.view d ws) ws' :=
  List.foldl_append

/-- The action of a session that is not over. -/
def action (d : D) (s : Session K W L) : Option (Action K W L) :=
  s.loc.map fun l => sys.next l (sys.view d s.writes)

variable [DecidableEq K]

/-- One step of the world; `none` when the session waits or is over. -/
def step? (w : World D W K L) : Event → Option (World D W K L)
  | .turn t =>
    match w.sessions[t]? with
    | none => none
    | some s =>
      match sys.action w.db s with
      | none => none
      | some (.exec locks ws l') =>
        if w.free t locks then
          some { w with sessions := w.sessions.set t ⟨some l', s.locks ++ locks, s.writes ++ ws⟩ }
        else none
      | some (.commit l') =>
        some { db := sys.view w.db s.writes
               sessions := w.sessions.set t (.closed l')
               log := w.log ++ s.writes }
      | some (.rollback l') => some { w with sessions := w.sessions.set t (.closed l') }
  | .kill t => some { w with sessions := w.sessions.set t (.closed none) }

def Step (w : World D W K L) (e : Event) (w' : World D W K L) : Prop := sys.step? w e = some w'

/-- Everything a step can do. -/
theorem step_cases {w w' : World D W K L} {e : Event} (h : sys.Step w e w') :
    (∃ t s locks ws l', e = .turn t ∧ w.sessions[t]? = some s ∧
      sys.action w.db s = some (.exec locks ws l') ∧ w.free t locks = true ∧
      w' = { w with sessions := w.sessions.set t ⟨some l', s.locks ++ locks, s.writes ++ ws⟩ }) ∨
    (∃ t s l', e = .turn t ∧ w.sessions[t]? = some s ∧
      sys.action w.db s = some (.commit l') ∧
      w' = ⟨sys.view w.db s.writes, w.sessions.set t (.closed l'), w.log ++ s.writes⟩) ∨
    (∃ t s l', e = .turn t ∧ w.sessions[t]? = some s ∧
      sys.action w.db s = some (.rollback l') ∧
      w' = { w with sessions := w.sessions.set t (.closed l') }) ∨
    (∃ t, e = .kill t ∧ w' = { w with sessions := w.sessions.set t (.closed none) }) := by
  cases e with
  | kill t => exact .inr (.inr (.inr ⟨t, rfl, (Option.some.inj h).symm⟩))
  | turn t =>
    simp only [Step, step?] at h
    cases hs : w.sessions[t]? with
    | none => simp [hs] at h
    | some s =>
      simp only [hs] at h
      cases ha : sys.action w.db s with
      | none => simp [ha] at h
      | some a =>
        simp only [ha] at h
        cases a with
        | exec locks ws l' =>
          by_cases hf : w.free t locks = true
          · simp only [hf, if_true, Option.some.injEq] at h
            exact .inl ⟨t, s, locks, ws, l', rfl, hs, ha, hf, h.symm⟩
          · simp [hf] at h
        | commit l' => exact .inr (.inl ⟨t, s, l', rfl, hs, ha, (Option.some.inj h).symm⟩)
        | rollback l' =>
          exact .inr (.inr (.inl ⟨t, s, l', rfl, hs, ha, (Option.some.inj h).symm⟩))

/-- A statement that writes nothing and asks for no lock never waits. -/
theorem step_exec_nil {w : World D W K L} {t : ℕ} {s : Session K W L} {l l' : L} (hs : w.sessions[t]? = some s)
    (hl : s.loc = some l) (hn : sys.next l (sys.view w.db s.writes) = .exec [] [] l') :
    sys.Step w (.turn t) { w with sessions := w.sessions.set t { s with loc := some l' } } := by
  have ha : sys.action w.db s = some (.exec [] [] l') := by rw [action, hl, Option.map_some, hn]
  have hfree : w.free t [] = true := World.free_iff.2 fun _ _ _ _ _ _ _ h => by cases h
  simp only [Step, step?, hs, ha, hfree, if_true, List.append_nil]

end System

section Rule

variable {sys : System D W K L} {C : World D W K L → Event → Prop}
  {I : D → List W → Prop} {J : D → Session K W L → Prop}

/-- The committed state satisfies `I`, every session satisfies `J` about it, and no
two sessions hold conflicting locks. -/
structure Holds (I : D → List W → Prop) (J : D → Session K W L → Prop) (w : World D W K L) : Prop where
  db : I w.db w.log
  session : ∀ (t : ℕ) (s : Session K W L), w.sessions[t]? = some s → J w.db s
  locks : ∀ (t t' : ℕ) (s s' : Session K W L), w.sessions[t]? = some s →
    w.sessions[t']? = some s' → t ≠ t' → Compatible s s'

/-- What to prove of a program: its own statements keep `J`, its commit keeps `I`
and leaves `J` to the session that commits and to every other one. Statements may
use the side condition `C` of the steps under study. -/
structure ThreadModular (sys : System D W K L) (C : World D W K L → Event → Prop)
    (I : D → List W → Prop) (J : D → Session K W L → Prop) : Prop where
  exec : ∀ w (t : ℕ) s locks ws l', Holds I J w → C w (.turn t) → w.sessions[t]? = some s →
    sys.action w.db s = some (.exec locks ws l') →
    J w.db ⟨some l', s.locks ++ locks, s.writes ++ ws⟩
  commit : ∀ w (t : ℕ) s l', Holds I J w → C w (.turn t) → w.sessions[t]? = some s →
    sys.action w.db s = some (.commit l') →
    I (sys.view w.db s.writes) (w.log ++ s.writes) ∧ J (sys.view w.db s.writes) (.closed l')
  interfere : ∀ w (t : ℕ) s l' (t' : ℕ) s', Holds I J w → C w (.turn t) → w.sessions[t]? = some s →
    sys.action w.db s = some (.commit l') → w.sessions[t']? = some s' → t' ≠ t →
    J (sys.view w.db s.writes) s'
  rollback : ∀ w (t : ℕ) s l', Holds I J w → w.sessions[t]? = some s →
    sys.action w.db s = some (.rollback l') → J w.db (.closed l')
  kill : ∀ d, J d (.closed none)

theorem getElem?_set_cases {s₁ s : Session K W L} {ss : List (Session K W L)} {t i : ℕ}
    (h : (ss.set t s₁)[i]? = some s) : (i = t ∧ s = s₁) ∨ (i ≠ t ∧ ss[i]? = some s) := by
  by_cases hi : i = t
  · subst hi
    rw [List.getElem?_set_self' ] at h
    obtain ⟨_, -, rfl⟩ := Option.map_eq_some_iff.1 h
    exact .inl ⟨rfl, rfl⟩
  · rw [List.getElem?_set_ne (Ne.symm hi)] at h
    exact .inr ⟨hi, h⟩

/-- Replacing session `t` by one that is compatible with the others keeps locks
free of conflict. -/
theorem Holds.locks_set {w : World D W K L} (h : Holds I J w) {t : ℕ} {s₁ : Session K W L}
    (hc : ∀ (i : ℕ) (s : Session K W L), w.sessions[i]? = some s → i ≠ t → Compatible s s₁) :
    ∀ (a b : ℕ) (s s' : Session K W L), (w.sessions.set t s₁)[a]? = some s → (w.sessions.set t s₁)[b]? = some s' →
      a ≠ b → Compatible s s' := by
  intro a b s s' ha hb hab
  rcases getElem?_set_cases ha with ⟨rfl, rfl⟩ | ⟨hat, ha'⟩
  · rcases getElem?_set_cases hb with ⟨rfl, rfl⟩ | ⟨hbt, hb'⟩
    · exact absurd rfl hab
    · exact (hc b s' hb' hbt).symm
  · rcases getElem?_set_cases hb with ⟨rfl, rfl⟩ | ⟨-, hb'⟩
    · exact hc a s ha' hat
    · exact h.locks a b s s' ha' hb' hab

theorem compatible_closed (s : Session K W L) (l : Option L) : Compatible s (.closed l) :=
  fun _ _ _ hb => absurd hb List.not_mem_nil

/-- Sessions that have not started hold nothing, so they hold no conflicting locks. -/
theorem Holds.start {d : D} {ls : List L} (hI : I d []) (hJ : ∀ l ∈ ls, J d (.fresh l)) :
    Holds I J ⟨d, ls.map .fresh, []⟩ := by
  have hmem : ∀ (t : ℕ) (s : Session K W L), (ls.map Session.fresh)[t]? = some s → ∃ l ∈ ls, s = .fresh l := by
    intro t s hs
    obtain ⟨l, hl, rfl⟩ := List.mem_map.1 (List.mem_of_getElem? hs)
    exact ⟨l, hl, rfl⟩
  refine ⟨hI, fun t s hs => ?_, fun t t' s s' hs hs' _ => ?_⟩
  · obtain ⟨l, hl, rfl⟩ := hmem t s hs
    exact hJ l hl
  · obtain ⟨l, -, rfl⟩ := hmem t' s' hs'
    exact compatible_closed _ _

variable [DecidableEq K]

theorem Holds.step (hm : ThreadModular sys C I J) {w w' : World D W K L} {e : Event}
    (h : Holds I J w) (hC : C w e) (hs : sys.Step w e w') : Holds I J w' := by
  rcases sys.step_cases hs with ⟨t, s, locks, ws, l', rfl, hst, ha, hf, rfl⟩ |
    ⟨t, s, l', rfl, hst, ha, rfl⟩ | ⟨t, s, l', rfl, hst, ha, rfl⟩ | ⟨t, rfl, rfl⟩
  · -- a statement: only session `t` changes, and its new locks were free
    refine ⟨h.db, fun i s₁ hi => ?_, h.locks_set fun i s₁ hi hit => ?_⟩
    · rcases getElem?_set_cases hi with ⟨-, rfl⟩ | ⟨-, hi⟩
      · exact hm.exec w t s locks ws l' h hC hst ha
      · exact h.session i s₁ hi
    · intro held hh a ha' he
      rcases List.mem_append.1 ha' with ha' | ha'
      · exact h.locks i t s₁ s hi hst hit held hh a ha' he
      · exact w.free_iff.1 hf i s₁ hi hit held hh a ha' he
  · obtain ⟨hI, hJ⟩ := hm.commit w t s l' h hC hst ha
    refine ⟨hI, fun i s₁ hi => ?_, h.locks_set fun _ _ _ _ => compatible_closed _ _⟩
    rcases getElem?_set_cases hi with ⟨-, rfl⟩ | ⟨hit, hi⟩
    · exact hJ
    · exact hm.interfere w t s l' i s₁ h hC hst ha hi hit
  · refine ⟨h.db, fun i s₁ hi => ?_, h.locks_set fun _ _ _ _ => compatible_closed _ _⟩
    rcases getElem?_set_cases hi with ⟨-, rfl⟩ | ⟨-, hi⟩
    · exact hm.rollback w t s l' h hst ha
    · exact h.session i s₁ hi
  · refine ⟨h.db, fun i s₁ hi => ?_, h.locks_set fun _ _ _ _ => compatible_closed _ _⟩
    rcases getElem?_set_cases hi with ⟨-, rfl⟩ | ⟨-, hi⟩
    · exact hm.kill w.db
    · exact h.session i s₁ hi

/-- The rule: what `ThreadModular` proves one step at a time holds in every
interleaving of any number of sessions. -/
theorem ThreadModular.run (hm : ThreadModular sys C I J) {w w' : World D W K L} {es : List Event}
    (h0 : Holds I J w) (h : Run (Restrict C sys.Step) w es w') : Holds I J w' :=
  h.invariant_restrict (Holds I J) h0 fun _ _ _ hI hC hs => hI.step hm hC hs

end Rule

section Local

/-- What each action of a session keeps of it, whatever the session sees; `J` may depend
on which session it is. -/
structure SessionLocal (sys : System D W K L) (J : ℕ → Session K W L → Prop) : Prop where
  exec : ∀ t s d locks ws l', J t s → sys.action d s = some (.exec locks ws l') →
    J t ⟨some l', s.locks ++ locks, s.writes ++ ws⟩
  commit : ∀ t s d l', J t s → sys.action d s = some (.commit l') → J t (.closed l')
  rollback : ∀ t s d l', J t s → sys.action d s = some (.rollback l') → J t (.closed l')
  kill : ∀ t, J t (.closed none)

variable {sys : System D W K L} {J : ℕ → Session K W L → Prop}

/-- The same, said of the statements of the program. -/
theorem SessionLocal.of_next
    (exec : ∀ {t s d l locks ws l'}, J t s → s.loc = some l → sys.next l (sys.view d s.writes) = .exec locks ws l' →
      J t ⟨some l', s.locks ++ locks, s.writes ++ ws⟩)
    (commit : ∀ {t s d l l'}, J t s → s.loc = some l → sys.next l (sys.view d s.writes) = .commit l' →
      J t (.closed l'))
    (rollback : ∀ {d l l'}, sys.next l d = .rollback l' → l' = none) (ended : ∀ {t}, J t (.closed none)) :
    SessionLocal sys J where
  exec := by
    intro t s d locks ws l' hs ha
    obtain ⟨l, hl, hn⟩ := Option.map_eq_some_iff.1 ha
    exact exec hs hl hn
  commit := by
    intro t s d l' hs ha
    obtain ⟨l, hl, hn⟩ := Option.map_eq_some_iff.1 ha
    exact commit hs hl hn
  rollback := by
    intro t s d l' _ ha
    obtain ⟨l, -, hn⟩ := Option.map_eq_some_iff.1 ha
    rw [rollback hn]
    exact ended
  kill _ := ended

variable [DecidableEq K]

/-- It takes no locks to keep a property of one session. -/
theorem SessionLocal.step (hm : SessionLocal sys J) {w w' : World D W K L} {e : Event}
    (h : ∀ (t : ℕ) s, w.sessions[t]? = some s → J t s) (hs : sys.Step w e w') :
    ∀ (t : ℕ) s, w'.sessions[t]? = some s → J t s := by
  intro i s₁ hi
  rcases sys.step_cases hs with ⟨t, s, locks, ws, l', -, hst, ha, -, rfl⟩ | ⟨t, s, l', -, hst, ha, rfl⟩ |
    ⟨t, s, l', -, hst, ha, rfl⟩ | ⟨t, -, rfl⟩
  · rcases getElem?_set_cases hi with ⟨rfl, rfl⟩ | ⟨-, hi⟩
    · exact hm.exec i s _ locks ws l' (h i s hst) ha
    · exact h i s₁ hi
  · rcases getElem?_set_cases hi with ⟨rfl, rfl⟩ | ⟨-, hi⟩
    · exact hm.commit i s _ l' (h i s hst) ha
    · exact h i s₁ hi
  · rcases getElem?_set_cases hi with ⟨rfl, rfl⟩ | ⟨-, hi⟩
    · exact hm.rollback i s _ l' (h i s hst) ha
    · exact h i s₁ hi
  · rcases getElem?_set_cases hi with ⟨rfl, rfl⟩ | ⟨-, hi⟩
    · exact hm.kill i
    · exact h i s₁ hi

/-- The rule for a property of the committed database alone, which every commit keeps. -/
theorem SessionLocal.run (hm : SessionLocal sys J) {C : World D W K L → Event → Prop} {I : D → Prop}
    (hcommit : ∀ w (t : ℕ) s l', I w.db → J t s → C w (.turn t) → w.sessions[t]? = some s →
      sys.action w.db s = some (.commit l') → I (sys.view w.db s.writes))
    {w w' : World D W K L} {es : List Event} (hJ : ∀ (t : ℕ) s, w.sessions[t]? = some s → J t s) (hI : I w.db)
    (h : Run (Restrict C sys.Step) w es w') : I w'.db := by
  have hboth : (∀ (t : ℕ) s, w'.sessions[t]? = some s → J t s) ∧ I w'.db := by
    refine Run.invariant_restrict (fun w => (∀ (t : ℕ) s, w.sessions[t]? = some s → J t s) ∧ I w.db) ⟨hJ, hI⟩ ?_ h
    rintro w e w' ⟨hJ, hI⟩ hC hs
    refine ⟨hm.step hJ hs, ?_⟩
    rcases sys.step_cases hs with ⟨t, s, locks, ws, l', -, -, -, -, rfl⟩ | ⟨t, s, l', rfl, hst, ha, rfl⟩ |
      ⟨t, s, l', -, -, -, rfl⟩ | ⟨t, -, rfl⟩
    · exact hI
    · exact hcommit w t s l' hI (hJ t s hst) hC hst ha
    · exact hI
    · exact hI
  exact hboth.2

end Local

end ReadCommitted
