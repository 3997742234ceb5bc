import CoreOps.Lib.Checked

/-! Programs with a state that stays when they raise. What a program does from a state is
its outcome, the answer or the exception together with the state it leaves; `Ensures` is
the weakest precondition of a property of outcomes. -/

namespace Effects

open Checked

variable {ε σ : Type} {α β : Type}

/-- The answer, or the exception, and the state left behind. -/
def outcome (x : EStateM ε σ α) (s : σ) : Except ε α × σ :=
  match x s with
  | .ok a s' => (.ok a, s')
  | .error e s' => (.error e, s')

/-- Go on from an outcome. -/
def andThen (f : α → EStateM ε σ β) : Except ε α × σ → Except ε β × σ
  | (.ok a, s) => outcome (f a) s
  | (.error e, s) => (.error e, s)

/-- A computation that leaves the state alone. -/
def lift (x : Except ε α) : EStateM ε σ α := fun s =>
  match x with
  | .ok a => .ok a s
  | .error e => .error e s

/-- `x`, of which the exceptions that `p` names are caught. -/
def caught (p : ε → Bool) : Except ε α → Except ε (Except ε α)
  | .ok a => .ok (.ok a)
  | .error e => if p e then .ok (.error e) else .error e

/-- Run `x` and catch the exceptions that `p` names. -/
def attempt (p : ε → Bool) (x : EStateM ε σ α) : EStateM ε σ (Except ε α) := fun s =>
  lift (caught p (outcome x s).1) (outcome x s).2

section Outcomes

variable {s : σ}

@[simp] theorem outcome_pure (a : α) : outcome (pure a : EStateM ε σ α) s = (.ok a, s) := rfl

@[simp] theorem outcome_throw (e : ε) : outcome (throw e : EStateM ε σ α) s = (.error e, s) := rfl

@[simp] theorem outcome_get : outcome (get : EStateM ε σ σ) s = (.ok s, s) := rfl

@[simp] theorem outcome_modify (f : σ → σ) : outcome (modify f : EStateM ε σ Unit) s = (.ok (), f s) := rfl

@[simp] theorem outcome_lift (x : Except ε α) : outcome (lift x : EStateM ε σ α) s = (x, s) := by
  cases x <;> rfl

@[simp] theorem outcome_attempt (p : ε → Bool) (x : EStateM ε σ α) :
    outcome (attempt p x) s = (caught p (outcome x s).1, (outcome x s).2) := outcome_lift _

@[simp] theorem outcome_bind (x : EStateM ε σ α) (f : α → EStateM ε σ β) :
    outcome (x >>= f) s = andThen f (outcome x s) := by
  show outcome (EStateM.bind x f) s = _
  unfold outcome EStateM.bind
  cases x s <;> rfl

@[simp] theorem andThen_ok (f : α → EStateM ε σ β) (a : α) : andThen f (.ok a, s) = outcome (f a) s := rfl

@[simp] theorem andThen_error (f : α → EStateM ε σ β) (e : ε) : andThen f (.error e, s) = (.error e, s) := rfl

@[simp] theorem caught_ok (p : ε → Bool) (a : α) : caught p (.ok a) = .ok (.ok a) := rfl

theorem caught_error_of {p : ε → Bool} {e : ε} (h : p e = true) :
    caught p (.error e : Except ε α) = .ok (.error e) := if_pos h

theorem caught_error_of_not {p : ε → Bool} {e : ε} (h : p e = false) :
    caught p (.error e : Except ε α) = .error e := by
  rw [caught, h, if_neg Bool.false_ne_true]

end Outcomes

/-! Which exceptions a computation may raise. -/

section RaisesOnly

variable {p q : ε → Bool} {x : Except ε α} {f : α → Except ε β}

/-- Every exception of `x` is one that `p` names. -/
def RaisesOnly (p : ε → Bool) (x : Except ε α) : Prop := ∀ e, x = .error e → p e = true

@[simp] theorem raisesOnly_ok (p : ε → Bool) (a : α) : RaisesOnly p (.ok a) := by
  intro e h
  cases h

@[simp] theorem raisesOnly_error {e : ε} : RaisesOnly p (.error e : Except ε α) ↔ p e = true := by
  constructor
  · intro h
    exact h e rfl
  · rintro he _ ⟨⟩
    exact he

theorem RaisesOnly.mono (h : RaisesOnly p x) (hpq : ∀ e, p e = true → q e = true) : RaisesOnly q x :=
  fun e he => hpq e (h e he)

theorem RaisesOnly.bind (hx : RaisesOnly p x) (hf : ∀ a, x = .ok a → RaisesOnly p (f a)) : RaisesOnly p (x >>= f) := by
  cases x with
  | ok a => exact hf a rfl
  | error e => exact raisesOnly_error.2 (hx e rfl)

theorem raisesOnly_raiseIf {c : Prop} [Decidable c] {e : ε} (he : p e = true) : RaisesOnly p (raiseIf.{0} c e) := by
  unfold raiseIf
  split
  · exact raisesOnly_error.2 he
  · exact raisesOnly_ok p _

theorem raisesOnly_orRaise {o : Option α} {e : ε} (he : p e = true) : RaisesOnly p (orRaise o e) := by
  cases o with
  | some a => exact raisesOnly_ok p a
  | none => exact raisesOnly_error.2 he

theorem caught_of_raisesOnly (h : RaisesOnly p x) : caught p x = .ok x := by
  cases x with
  | ok a => rfl
  | error e => exact caught_error_of (h e rfl)

theorem caught_eq_ok {r : Except ε α} : caught p x = .ok r ↔ r = x ∧ RaisesOnly p x := by
  constructor
  · intro h
    have hx : RaisesOnly p x := by
      intro e he
      cases hp : p e with
      | true => rfl
      | false => rw [he, caught_error_of_not hp] at h; cases h
    rw [caught_of_raisesOnly hx] at h
    exact ⟨(Except.ok.inj h).symm, hx⟩
  · rintro ⟨rfl, hx⟩
    exact caught_of_raisesOnly hx

/-- A program that catches goes on when nothing else is raised. -/
theorem exists_caught_bind_eq_ok {f : Except ε α → Except ε β} :
    (∃ b, (caught p x >>= f) = .ok b) ↔ RaisesOnly p x ∧ ∃ b, f x = .ok b := by
  simp only [bind_eq_ok, caught_eq_ok]
  constructor
  · rintro ⟨b, _, ⟨rfl, hx⟩, hb⟩
    exact ⟨hx, b, hb⟩
  · rintro ⟨hx, b, hb⟩
    exact ⟨b, x, ⟨rfl, hx⟩, hb⟩

end RaisesOnly

/-- From `s` the program ends, in an answer or an exception, where `Q` holds. -/
def Ensures (x : EStateM ε σ α) (Q : Except ε α → σ → Prop) (s : σ) : Prop := Q (outcome x s).1 (outcome x s).2

/-- A program that only catches answers when nothing else is raised. -/
theorem exists_attempt_bind_pure {p : ε → Bool} {x : EStateM ε σ α} {b : β} {s : σ} :
    (∃ b', (outcome (attempt p x >>= fun _ => (pure b : EStateM ε σ β)) s).1 = .ok b') ↔ RaisesOnly p (outcome x s).1 := by
  rw [outcome_bind, outcome_attempt]
  generalize outcome x s = r
  obtain ⟨r, s'⟩ := r
  cases r with
  | ok a => exact iff_of_true ⟨b, rfl⟩ (raisesOnly_ok _ _)
  | error e =>
    rw [raisesOnly_error]
    cases hp : p e with
    | true => rw [caught_error_of hp]; exact iff_of_true ⟨b, rfl⟩ rfl
    | false => rw [caught_error_of_not hp]; simp

section Rules

variable {x : EStateM ε σ α} {f : α → EStateM ε σ β} {Q Q' : Except ε α → σ → Prop} {s : σ}

/-- The rule of consequence. -/
theorem Ensures.mono (h : Ensures x Q s) (hQ : ∀ r s', Q r s' → Q' r s') : Ensures x Q' s := hQ _ _ h

/-- The rule of sequence. -/
theorem Ensures.bind {R : Except ε β → σ → Prop} (h : Ensures x Q s)
    (hok : ∀ a s', Q (.ok a) s' → Ensures (f a) R s') (herror : ∀ e s', Q (.error e) s' → R (.error e) s') :
    Ensures (x >>= f) R s := by
  unfold Ensures at *
  rw [outcome_bind]
  cases hx : outcome x s with
  | mk r s' =>
    rw [hx] at h
    cases r with
    | ok a => exact hok a s' h
    | error e => exact herror e s' h

/-- Go on from what a program is known to answer. -/
theorem ensures_bind_of_ok {R : Except ε β → σ → Prop} {a : α} {s' : σ} (hx : outcome x s = (.ok a, s'))
    (hf : Ensures (f a) R s') : Ensures (x >>= f) R s := by
  rw [Ensures, outcome_bind, hx]
  exact hf

theorem ensures_bind_iff {R : Except ε β → σ → Prop} {a : α} {s' : σ} (hx : outcome x s = (.ok a, s')) :
    Ensures (x >>= f) R s ↔ Ensures (f a) R s' := by
  rw [Ensures, outcome_bind, hx]
  rfl

theorem ensures_bind_iff_of_error {R : Except ε β → σ → Prop} {e : ε} {s' : σ} (hx : outcome x s = (.error e, s')) :
    Ensures (x >>= f) R s ↔ R (.error e) s' := by
  rw [Ensures, outcome_bind, hx]
  rfl

theorem ensures_bind_of_error {R : Except ε β → σ → Prop} {e : ε} {s' : σ} (hx : outcome x s = (.error e, s'))
    (hR : R (.error e) s') : Ensures (x >>= f) R s := by
  rw [Ensures, outcome_bind, hx]
  exact hR

/-- The rule of `attempt`. -/
theorem Ensures.attempt {p : ε → Bool} {R : Except ε (Except ε α) → σ → Prop} (h : Ensures x Q s)
    (hok : ∀ a s', Q (.ok a) s' → R (.ok (.ok a)) s')
    (hcaught : ∀ e s', p e = true → Q (.error e) s' → R (.ok (.error e)) s')
    (herror : ∀ e s', p e = false → Q (.error e) s' → R (.error e) s') : Ensures (attempt p x) R s := by
  unfold Ensures at *
  rw [outcome_attempt]
  cases hx : outcome x s with
  | mk r s' =>
    rw [hx] at h
    cases r with
    | ok a => exact hok a s' h
    | error e =>
      cases hp : p e with
      | true => rw [caught_error_of hp]; exact hcaught e s' hp h
      | false => rw [caught_error_of_not hp]; exact herror e s' hp h

end Rules

/-- Started in `I` the program ends in `I`, whether it answers or raises. -/
def Keeps (I : σ → Prop) (x : EStateM ε σ α) : Prop := ∀ s, I s → Ensures x (fun _ s' => I s') s

namespace Keeps

variable {I : σ → Prop} {x : EStateM ε σ α} {f : α → EStateM ε σ β}

theorem pure (a : α) : Keeps I (pure a : EStateM ε σ α) := fun _ hI => hI

theorem get : Keeps I (get : EStateM ε σ σ) := fun _ hI => hI

theorem modify {g : σ → σ} (h : ∀ s, I s → I (g s)) : Keeps I (modify g : EStateM ε σ Unit) := fun s hI => h s hI

theorem lift (x : Except ε α) : Keeps I (lift x) := fun s hI => by
  rw [Ensures, outcome_lift]
  exact hI

theorem bind (hx : Keeps I x) (hf : ∀ a, Keeps I (f a)) : Keeps I (x >>= f) := fun s hI =>
  (hx s hI).bind (fun a s' hs' => hf a s' hs') fun _ _ hs' => hs'

/-- Go on after a program that keeps `I`. -/
theorem ensures_bind {Q : Except ε β → σ → Prop} {s : σ} (hx : Keeps I x) (hI : I s)
    (hf : ∀ a s', I s' → Ensures (f a) Q s') (herror : ∀ e s', I s' → Q (.error e) s') : Ensures (x >>= f) Q s :=
  (hx s hI).bind hf herror

theorem attempt {p : ε → Bool} (hx : Keeps I x) : Keeps I (attempt p x) := fun s hI =>
  (hx s hI).attempt (fun _ _ hs' => hs') (fun _ _ _ hs' => hs') fun _ _ _ hs' => hs'

end Keeps

end Effects
