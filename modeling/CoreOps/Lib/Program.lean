import Mathlib.Logic.Basic

/-! Programs that work through atomic calls. An environment answers each call, or raises,
from its state and from a choice of its own: which call fails, and whether it fails
before or after its effect. What the environment's state has become stays when the
program raises. `Ensures` is the weakest precondition, over every choice the environment
may make; it composes along the program. -/

/-- A program with calls `C` that are answered in `A`, or raise in `ε`. -/
inductive Program (ε : Type) {C : Type} (A : C → Type) (α : Type) : Type
  | ret (a : α)
  | raise (e : ε)
  | call (c : C) (next : Except ε (A c) → Program ε A α)

/-- What the environment makes of a call, given its choice; `idle` is the choice it makes
when nothing goes wrong. -/
structure Environment (σ ε φ : Type) {C : Type} (A : C → Type) where
  handle : σ → (c : C) → φ → Except ε (A c) × σ
  idle : φ

namespace Program

variable {σ ε φ C : Type} {A : C → Type} {α β : Type}

def bind : Program ε A α → (α → Program ε A β) → Program ε A β
  | ret a, k => k a
  | raise e, _ => raise e
  | call c next, k => call c fun r => (next r).bind k

def tryCatch : Program ε A α → (ε → Program ε A α) → Program ε A α
  | ret a, _ => ret a
  | raise e, k => k e
  | call c next, k => call c fun r => (next r).tryCatch k

instance : Monad (Program ε A) where
  pure := ret
  bind := bind

instance : MonadExcept ε (Program ε A) where
  throw := raise
  tryCatch := tryCatch

/-- One call. -/
def perform (c : C) : Program ε A (A c) :=
  call c fun
    | .ok a => ret a
    | .error e => raise e

def raiseIf (p : Prop) [Decidable p] (e : ε) : Program ε A Unit := if p then raise e else ret ()

section Execution

variable (env : Environment σ ε φ A)

/-- The result and the state it leaves, with the environment's choices call by call. -/
def run : Program ε A α → List φ → σ → Except ε α × σ
  | ret a, _, s => (.ok a, s)
  | raise e, _, s => (.error e, s)
  | call c next, fs, s =>
    let answer := env.handle s c (fs.headD env.idle)
    (next answer.1).run fs.tail answer.2

/-- The states after each call. -/
def visits : Program ε A α → List φ → σ → List σ
  | ret _, _, _ => []
  | raise _, _, _ => []
  | call c next, fs, s =>
    let answer := env.handle s c (fs.headD env.idle)
    answer.2 :: (next answer.1).visits fs.tail answer.2

/-- With any choices of which `ok` holds, every state after a call meets `I`, and result
and last state meet `Q`. -/
def Ensures (ok : φ → Prop) (I : σ → Prop) : Program ε A α → (Except ε α → σ → Prop) → σ → Prop
  | ret a, Q, s => Q (.ok a) s
  | raise e, Q, s => Q (.error e) s
  | call c next, Q, s => ∀ f, ok f → I (env.handle s c f).2 ∧
      Ensures ok I (next (env.handle s c f).1) Q (env.handle s c f).2

end Execution

/-- A postcondition from one for answers and one for exceptions. -/
def either (f : α → σ → Prop) (g : ε → σ → Prop) : Except ε α → σ → Prop
  | .ok a, s => f a s
  | .error e, s => g e s

@[simp] theorem either_ok (f : α → σ → Prop) (g : ε → σ → Prop) (a : α) (s : σ) : either f g (.ok a) s = f a s := rfl

@[simp] theorem either_error (f : α → σ → Prop) (g : ε → σ → Prop) (e : ε) (s : σ) :
    either f g (.error e) s = g e s := rfl

section Rules

variable {env : Environment σ ε φ A} {ok : φ → Prop} {I : σ → Prop} {Q Q' : Except ε α → σ → Prop} {s : σ}

@[simp] theorem ensures_pure {a : α} : Ensures env ok I (pure a : Program ε A α) Q s ↔ Q (.ok a) s := Iff.rfl

@[simp] theorem ensures_throw {e : ε} : Ensures env ok I (throw e : Program ε A α) Q s ↔ Q (.error e) s := Iff.rfl

theorem ensures_perform {c : C} {R : Except ε (A c) → σ → Prop} :
    Ensures env ok I (perform c) R s ↔
      ∀ f, ok f → I (env.handle s c f).2 ∧ R (env.handle s c f).1 (env.handle s c f).2 := by
  simp only [perform, Ensures]
  refine forall_congr' fun f => forall_congr' fun _ => and_congr_right fun _ => ?_
  cases (env.handle s c f).1 <;> rfl

@[simp] theorem ensures_bind {p : Program ε A β} {k : β → Program ε A α} :
    Ensures env ok I (p >>= k) Q s ↔
      Ensures env ok I p (either (fun b s => Ensures env ok I (k b) Q s) fun e s => Q (.error e) s) s := by
  change Ensures env ok I (p.bind k) Q s ↔ _
  induction p generalizing s with
  | ret b => rfl
  | raise e => rfl
  | call c next ih => exact forall_congr' fun f => forall_congr' fun _ => and_congr_right fun _ => ih _

@[simp] theorem ensures_tryCatch {p : Program ε A α} {k : ε → Program ε A α} :
    Ensures env ok I (MonadExcept.tryCatch p k) Q s ↔
      Ensures env ok I p (either (fun a s => Q (.ok a) s) fun e s => Ensures env ok I (k e) Q s) s := by
  change Ensures env ok I (p.tryCatch k) Q s ↔ _
  induction p generalizing s with
  | ret a => rfl
  | raise e => rfl
  | call c next ih => exact forall_congr' fun f => forall_congr' fun _ => and_congr_right fun _ => ih _

theorem ensures_raiseIf {p : Prop} [Decidable p] {e : ε} {R : Except ε Unit → σ → Prop} :
    Ensures env ok I (raiseIf p e) R s ↔ (p → R (.error e) s) ∧ (¬ p → R (.ok ()) s) := by
  unfold raiseIf
  by_cases hp : p <;> simp [hp, Ensures]

theorem ensures_ofExcept {r : Except ε α} : Ensures env ok I (ofExcept r : Program ε A α) Q s ↔ Q r s := by
  cases r <;> rfl

/-- The rule of consequence. -/
theorem Ensures.mono {p : Program ε A α} (h : Ensures env ok I p Q s) (hQ : ∀ r s', Q r s' → Q' r s') :
    Ensures env ok I p Q' s := by
  induction p generalizing s with
  | ret a => exact hQ _ _ h
  | raise e => exact hQ _ _ h
  | call c next ih => exact fun f hf => ⟨(h f hf).1, ih _ (h f hf).2⟩

theorem Ensures.and {p : Program ε A α} (h : Ensures env ok I p Q s) (h' : Ensures env ok I p Q' s) :
    Ensures env ok I p (fun r s' => Q r s' ∧ Q' r s') s := by
  induction p generalizing s with
  | ret a => exact ⟨h, h'⟩
  | raise e => exact ⟨h, h'⟩
  | call c next ih => exact fun f hf => ⟨(h f hf).1, ih _ (h f hf).2 (h' f hf).2⟩

/-- A stronger condition on the states in between gives a weaker one. -/
theorem Ensures.weaken {I' : σ → Prop} {p : Program ε A α} (h : Ensures env ok I p Q s) (hI : ∀ s, I s → I' s) :
    Ensures env ok I' p Q s := by
  induction p generalizing s with
  | ret a => exact h
  | raise e => exact h
  | call c next ih => exact fun f hf => ⟨hI _ (h f hf).1, ih _ (h f hf).2⟩

/-- What a program ensures holds of every execution. -/
theorem Ensures.run {p : Program ε A α} (h : Ensures env ok I p Q s) (hidle : ok env.idle) {fs : List φ}
    (hfs : ∀ f ∈ fs, ok f) : Q (p.run env fs s).1 (p.run env fs s).2 ∧ ∀ t ∈ p.visits env fs s, I t := by
  induction p generalizing s fs with
  | ret a => exact ⟨h, fun t ht => absurd ht List.not_mem_nil⟩
  | raise e => exact ⟨h, fun t ht => absurd ht List.not_mem_nil⟩
  | call c next ih =>
    have hhead : ok (fs.headD env.idle) := by
      cases fs with
      | nil => exact hidle
      | cons f fs => exact hfs f List.mem_cons_self
    obtain ⟨hI, hnext⟩ := h _ hhead
    obtain ⟨hQ, hvisits⟩ := ih _ hnext fun f hf => hfs f (List.mem_of_mem_tail hf)
    refine ⟨hQ, fun t ht => ?_⟩
    rcases List.mem_cons.1 ht with rfl | ht
    · exact hI
    · exact hvisits t ht

end Rules

/-- Started in `I` the program stays in `I`, however it ends. -/
def Keeps (env : Environment σ ε φ A) (ok : φ → Prop) (I : σ → Prop) (p : Program ε A α) : Prop :=
  ∀ s, I s → Ensures env ok I p (fun _ s' => I s') s

namespace Keeps

variable {env : Environment σ ε φ A} {ok : φ → Prop} {I : σ → Prop} {s : σ}

theorem pure (a : α) : Keeps env ok I (pure a : Program ε A α) := fun _ hI => hI

theorem throw (e : ε) : Keeps env ok I (throw e : Program ε A α) := fun _ hI => hI

theorem perform {c : C} (h : ∀ s f, ok f → I s → I (env.handle s c f).2) : Keeps env ok I (perform c) :=
  fun s hI => ensures_perform.2 fun f hf => ⟨h s f hf hI, h s f hf hI⟩

theorem bind {p : Program ε A β} {k : β → Program ε A α} (hp : Keeps env ok I p) (hk : ∀ b, Keeps env ok I (k b)) :
    Keeps env ok I (p >>= k) := fun s hI => by
  refine Program.ensures_bind.2 ((hp s hI).mono fun r s' hs' => ?_)
  cases r with
  | ok b => exact hk b s' hs'
  | error e => exact hs'

theorem tryCatch {p : Program ε A α} {k : ε → Program ε A α} (hp : Keeps env ok I p)
    (hk : ∀ e, Keeps env ok I (k e)) : Keeps env ok I (MonadExcept.tryCatch p k) := fun s hI => by
  refine ensures_tryCatch.2 ((hp s hI).mono fun r s' hs' => ?_)
  cases r with
  | ok a => exact hs'
  | error e => exact hk e s' hs'

/-- Go on after a program that keeps `J`, from any state that meets `J`. -/
theorem ensures_bind {J : σ → Prop} {p : Program ε A β} {k : β → Program ε A α} {Q : Except ε α → σ → Prop}
    (hp : Keeps env ok J p) (hJ : ∀ s, J s → I s) (herror : ∀ e s, J s → Q (.error e) s)
    (hk : ∀ b s, J s → Ensures env ok I (k b) Q s) (hs : J s) : Ensures env ok I (p >>= k) Q s := by
  refine Program.ensures_bind.2 (((hp s hs).weaken hJ).mono fun r s' hs' => ?_)
  cases r with
  | ok b => exact hk b s' hs'
  | error e => exact herror e s' hs'

theorem ofExcept {r : Except ε α} : Keeps env ok I (ofExcept r : Program ε A α) := fun _ hI => ensures_ofExcept.2 hI

theorem raiseIf {p : Prop} [Decidable p] {e : ε} : Keeps env ok I (raiseIf p e) :=
  fun _ hI => ensures_raiseIf.2 ⟨fun _ => hI, fun _ => hI⟩

end Keeps

end Program
