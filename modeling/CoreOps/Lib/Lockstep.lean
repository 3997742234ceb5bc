import Mathlib.Data.List.Basic

/-! Two deterministic systems fed the same inputs. A relation between their states that
every guarded input keeps, with equal answers, carries over whole runs; where no other input
gets equal answers, the answers of a run agree exactly when every input meets the guard. -/

namespace Lockstep

variable {σ τ α β : Type*} {f : σ → α → β × σ} {g : τ → α → β × τ} {R : σ → τ → Prop} {C : σ → α → Prop}

/-- What a system answers to each input. -/
def answers (f : σ → α → β × σ) : σ → List α → List β
  | _, [] => []
  | s, a :: as => (f s a).1 :: answers f (f s a).2 as

/-- The state a system is in after the inputs. -/
def after (f : σ → α → β × σ) : σ → List α → σ
  | s, [] => s
  | s, a :: as => after f (f s a).2 as

/-- Every input meets the guard in the state it comes in. -/
def Guarded (C : σ → α → Prop) (f : σ → α → β × σ) : σ → List α → Prop
  | _, [] => True
  | s, a :: as => C s a ∧ Guarded C f (f s a).2 as

/-- A guarded input gets equal answers and keeps the relation, and no other input gets equal
answers. -/
structure Agrees (R : σ → τ → Prop) (C : σ → α → Prop) (f : σ → α → β × σ) (g : τ → α → β × τ) : Prop where
  answer : ∀ s t a, R s t → C s a → (f s a).1 = (g t a).1
  keeps : ∀ s t a, R s t → C s a → R (f s a).2 (g t a).2
  guarded : ∀ s t a, R s t → (f s a).1 = (g t a).1 → C s a

theorem Agrees.after_related (h : Agrees R C f g) {s : σ} {t : τ} {as : List α} (hR : R s t) (hC : Guarded C f s as) :
    R (after f s as) (after g t as) := by
  induction as generalizing s t with
  | nil => exact hR
  | cons a as ih => exact ih (h.keeps s t a hR hC.1) hC.2

theorem Agrees.answers_eq_iff (h : Agrees R C f g) {s : σ} {t : τ} {as : List α} (hR : R s t) :
    answers f s as = answers g t as ↔ Guarded C f s as := by
  induction as generalizing s t with
  | nil => exact ⟨fun _ => trivial, fun _ => rfl⟩
  | cons a as ih =>
    simp only [answers, List.cons.injEq, Guarded]
    constructor
    · rintro ⟨hanswer, hrest⟩
      have hC := h.guarded s t a hR hanswer
      exact ⟨hC, (ih (h.keeps s t a hR hC)).1 hrest⟩
    · rintro ⟨hC, hrest⟩
      exact ⟨h.answer s t a hR hC, (ih (h.keeps s t a hR hC)).2 hrest⟩

end Lockstep
