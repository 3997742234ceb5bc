import CoreOps.Lib.Effects

/-! Programs in a database session. The session has what is committed and what its
transaction sees; a write shows in the view alone until `commit`, and `rollback` drops it.
An exception does neither by itself, so what a failed program leaves depends on where it
stopped. A part of a program that only reads and writes `Does` what a function on one
state does, and inside `rollingBack`, with a commit as its last step, it is a transaction:
it saves what the function returns, or nothing. -/

structure UnitOfWork (σ : Type) where
  saved : σ
  view : σ

namespace UnitOfWork

open Checked Effects

variable {ε σ α β : Type}

/-- A session with nothing pending. -/
@[reducible] def fresh (s : σ) : UnitOfWork σ := ⟨s, s⟩

def commit : EStateM ε (UnitOfWork σ) Unit := modify fun u => fresh u.view

def rollback : EStateM ε (UnitOfWork σ) Unit := modify fun u => fresh u.saved

/-- A read of the view, which may raise. -/
def query (f : σ → Except ε α) : EStateM ε (UnitOfWork σ) α := do
  let u ← get
  lift (f u.view)

/-- A write to the view; one that raises writes nothing. -/
def write (f : σ → Except ε σ) : EStateM ε (UnitOfWork σ) Unit := do
  let s' ← query f
  modify fun u => { u with view := s' }

/-- Undo what `x` left pending when it raises, and raise it again. -/
def rollingBack (x : EStateM ε (UnitOfWork σ) α) : EStateM ε (UnitOfWork σ) α := do
  match ← attempt (fun _ => true) x with
  | .ok a => return a
  | .error e =>
    rollback
    throw e

section Outcomes

variable {u : UnitOfWork σ}

@[simp] theorem outcome_commit : outcome (commit : EStateM ε (UnitOfWork σ) Unit) u = (.ok (), fresh u.view) := rfl

@[simp] theorem outcome_rollback : outcome (rollback : EStateM ε (UnitOfWork σ) Unit) u = (.ok (), fresh u.saved) := rfl

@[simp] theorem outcome_query (f : σ → Except ε α) : outcome (query f) u = (f u.view, u) := by
  simp only [query, outcome_bind, outcome_get, andThen_ok, outcome_lift]

theorem outcome_write_ok {f : σ → Except ε σ} {s' : σ} (h : f u.view = .ok s') :
    outcome (write f) u = (.ok (), { u with view := s' }) := by
  simp only [write, outcome_bind, outcome_query, h, andThen_ok, outcome_modify]

theorem outcome_write_error {f : σ → Except ε σ} {e : ε} (h : f u.view = .error e) :
    outcome (write f) u = (.error e, u) := by
  simp only [write, outcome_bind, outcome_query, h, andThen_error]

theorem outcome_rollingBack_ok {x : EStateM ε (UnitOfWork σ) α} {a : α} {u' : UnitOfWork σ}
    (h : outcome x u = (.ok a, u')) : outcome (rollingBack x) u = (.ok a, u') := by
  simp only [rollingBack, outcome_bind, outcome_attempt, h, caught_ok, andThen_ok, outcome_pure]

theorem outcome_rollingBack_error {x : EStateM ε (UnitOfWork σ) α} {e : ε} {u' : UnitOfWork σ}
    (h : outcome x u = (.error e, u')) : outcome (rollingBack x) u = (.error e, fresh u'.saved) := by
  have hc : caught (fun _ => true) (.error e : Except ε α) = .ok (.error e) := caught_error_of rfl
  simp only [rollingBack, outcome_bind, outcome_attempt, h, hc, andThen_ok, outcome_rollback, outcome_throw]

end Outcomes

/-- From every session `x` saves nothing, and it answers just when `p` does on the view, with
the same answer and view. -/
structure Does (x : EStateM ε (UnitOfWork σ) α) (p : σ → Except ε (α × σ)) : Prop where
  saved : ∀ u, (outcome x u).2.saved = u.saved
  answers : ∀ u a s', outcome x u = (.ok a, { u with view := s' }) ↔ p u.view = .ok (a, s')

namespace Does

variable {x : EStateM ε (UnitOfWork σ) α} {p : σ → Except ε (α × σ)}

theorem congr {q : σ → Except ε (α × σ)} (h : Does x p) (hpq : ∀ s r, p s = .ok r ↔ q s = .ok r) : Does x q where
  saved := h.saved
  answers u a s' := (h.answers u a s').trans (hpq u.view (a, s'))

theorem lift (y : Except ε α) : Does (lift y : EStateM ε (UnitOfWork σ) α) fun s => (·, s) <$> y where
  saved u := by rw [outcome_lift]
  answers u a s' := by
    rw [outcome_lift]
    cases y with
    | error e => simp
    | ok b =>
      obtain ⟨saved, view⟩ := u
      simp

theorem query (f : σ → Except ε α) : Does (query f) fun s => (·, s) <$> f s where
  saved u := by rw [outcome_query]
  answers u a s' := by
    rw [outcome_query]
    cases f u.view with
    | error e => simp
    | ok b =>
      obtain ⟨saved, view⟩ := u
      simp

theorem write (f : σ → Except ε σ) : Does (write f) fun s => ((), ·) <$> f s where
  saved u := by
    cases h : f u.view with
    | error e => rw [outcome_write_error h]
    | ok s' => rw [outcome_write_ok h]
  answers u a s' := by
    cases h : f u.view with
    | error e => rw [outcome_write_error h]; simp
    | ok s₁ => rw [outcome_write_ok h]; simp

/-- The rule of sequence. -/
theorem bind {f : α → EStateM ε (UnitOfWork σ) β} {q : α → σ → Except ε (β × σ)} (hx : Does x p)
    (hf : ∀ a, Does (f a) (q a)) : Does (x >>= f) fun s => p s >>= fun r => q r.1 r.2 where
  saved u := by
    rw [outcome_bind]
    have hu := hx.saved u
    cases h : outcome x u with
    | mk r u' =>
      rw [h] at hu
      cases r with
      | error e => exact hu
      | ok a => exact ((hf a).saved u').trans hu
  answers u b s' := by
    rw [outcome_bind]
    have hu := hx.saved u
    cases h : outcome x u with
    | mk r u' =>
      obtain ⟨saved, view⟩ := u'
      rw [h] at hu
      obtain rfl : saved = u.saved := hu
      cases r with
      | error e =>
        rw [andThen_error]
        constructor
        · intro heq
          cases (Prod.mk.inj heq).1
        · intro hp
          obtain ⟨⟨a, s₁⟩, hp, -⟩ := bind_eq_ok.1 hp
          rw [(hx.answers u a s₁).2 hp] at h
          cases (Prod.mk.inj h).1
      | ok a =>
        have hp : p u.view = .ok (a, view) := (hx.answers u a view).1 h
        rw [andThen_ok, hp]
        show _ ↔ q a view = .ok (b, s')
        exact (hf a).answers ⟨u.saved, view⟩ b s'

theorem pure (a : α) : Does (pure a : EStateM ε (UnitOfWork σ) α) fun s => .ok (a, s) where
  saved u := rfl
  answers u b s' := by
    obtain ⟨saved, view⟩ := u
    simp

/-- The rule of the loop. -/
theorem foldlM {γ : Type} {f : β → γ → EStateM ε (UnitOfWork σ) β} {g : β → γ → σ → Except ε (β × σ)}
    (hf : ∀ b c, Does (f b c) (g b c)) (cs : List γ) (b : β) :
    Does (cs.foldlM f b) fun s => cs.foldlM (fun r c => g r.1 c r.2) (b, s) := by
  induction cs generalizing b with
  | nil => exact pure b
  | cons c cs ih =>
    rw [List.foldlM_cons]
    exact (hf b c).bind ih

/-- A transaction: from a session with nothing pending it saves what `p` returns, or leaves
the session as it was. -/
theorem transaction (h : Does x p) (s : σ) :
    (∀ a s', p s = .ok (a, s') →
      outcome (rollingBack (x >>= fun a => commit >>= fun _ => (Pure.pure a))) (fresh s) = (.ok a, fresh s')) ∧
    ((∀ r, p s ≠ .ok r) →
      ∃ e, outcome (rollingBack (x >>= fun a => commit >>= fun _ => (Pure.pure a))) (fresh s) = (.error e, fresh s)) := by
  refine ⟨fun a s' hp => ?_, fun hp => ?_⟩
  · refine outcome_rollingBack_ok ?_
    rw [outcome_bind, (h.answers (fresh s) a s').2 hp]
    simp only [andThen_ok, outcome_bind, outcome_commit, outcome_pure]
  · have hsaved := h.saved (fresh s)
    cases ho : outcome x (fresh s) with
    | mk r u' =>
      rw [ho] at hsaved
      obtain ⟨saved, view⟩ := u'
      obtain rfl : saved = s := hsaved
      cases r with
      | ok a => exact absurd ((h.answers (fresh saved) a view).1 ho) (hp _)
      | error e =>
        have hraised : outcome (x >>= fun a => commit >>= fun _ => (Pure.pure a)) (fresh saved) =
            (.error e, ⟨saved, view⟩) := by
          rw [outcome_bind, ho, andThen_error]
        exact ⟨e, outcome_rollingBack_error hraised⟩

end Does

end UnitOfWork
