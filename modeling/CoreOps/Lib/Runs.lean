import Mathlib.Data.List.Basic

/-! Runs of a labelled step relation, in the order the events happened, and the
two ways every run property is proved: an invariant kept by each step, and an
invariant kept by each step that meets a side condition. A service whose refused
calls roll back is such a relation through `settle`. -/

/-- The state after the events, starting from `s₀`. -/
inductive Run {σ α : Type*} (step : σ → α → σ → Prop) (s₀ : σ) : List α → σ → Prop
  | nil : Run step s₀ [] s₀
  | snoc {evs s e s'} : Run step s₀ evs s → step s e s' → Run step s₀ (evs ++ [e]) s'

/-- The steps of `step` that meet the side condition `C`. -/
def Restrict {σ α : Type*} (C : σ → α → Prop) (step : σ → α → σ → Prop) (s : σ) (a : α) (s' : σ) : Prop :=
  C s a ∧ step s a s'

/-- The state a call leaves behind: what it committed, or the state before it
when it was refused. -/
def settle {σ α ε : Type*} (exec : σ → α → Except ε σ) (s : σ) (a : α) : σ :=
  match exec s a with
  | .ok s' => s'
  | .error _ => s

/-- The step relation of a service with calls `α`. -/
def CallStep {σ α ε : Type*} (exec : σ → α → Except ε σ) (s : σ) (a : α) (s' : σ) : Prop :=
  s' = settle exec s a

/-- Execute the events one after the other, checking `C` before each. -/
def execute? {σ α : Type*} (C : σ → α → Prop) [∀ s a, Decidable (C s a)] (step? : σ → α → Option σ) :
    σ → List α → Option σ
  | s, [] => some s
  | s, a :: as => if C s a then (step? s a).bind fun s' => execute? C step? s' as else none

section Settle

variable {σ α ε : Type*} {exec : σ → α → Except ε σ} {s s' : σ} {a : α}

theorem settle_of_ok (h : exec s a = .ok s') : settle exec s a = s' := by
  simp only [settle, h]

theorem settle_of_error {e : ε} (h : exec s a = .error e) : settle exec s a = s := by
  simp only [settle, h]

/-- A property kept by every accepted call is kept by every call. -/
theorem settle_keeps {I : σ → Prop} (hI : I s) (h : ∀ s', exec s a = .ok s' → I s') :
    I (settle exec s a) := by
  cases ha : exec s a with
  | ok s' => rw [settle_of_ok ha]; exact h s' ha
  | error e => rw [settle_of_error ha]; exact hI

end Settle

namespace Run

variable {σ α : Type*} {step step' : σ → α → σ → Prop} {C : σ → α → Prop} {s₀ s : σ} {evs : List α}

/-- A property of the start that every step keeps holds after every run. -/
theorem invariant (I : σ → Prop) (h0 : I s₀) (hs : ∀ s e s', I s → step s e s' → I s')
    (h : Run step s₀ evs s) : I s := by
  induction h with
  | nil => exact h0
  | snoc _ hstep ih => exact hs _ _ _ ih hstep

/-- The same rule when a step may use the side condition it was taken under. -/
theorem invariant_restrict (I : σ → Prop) (h0 : I s₀)
    (hs : ∀ s e s', I s → C s e → step s e s' → I s') (h : Run (Restrict C step) s₀ evs s) : I s :=
  h.invariant I h0 fun s e s' hI hc => hs s e s' hI hc.1 hc.2

/-- The rule for a service: refused calls change nothing, so an invariant is one that
every accepted call keeps. -/
theorem invariant_calls {ε : Type*} {exec : σ → α → Except ε σ} (I : σ → Prop) (h0 : I s₀)
    (hs : ∀ s a s', I s → exec s a = .ok s' → I s') (h : Run (CallStep exec) s₀ evs s) : I s := by
  refine h.invariant I h0 ?_
  rintro s a s' hI rfl
  exact settle_keeps hI fun s' hok => hs s a s' hI hok

theorem mono (hsub : ∀ s e s', step s e s' → step' s e s') (h : Run step s₀ evs s) :
    Run step' s₀ evs s := by
  induction h with
  | nil => exact .nil
  | snoc _ hstep ih => exact .snoc ih (hsub _ _ _ hstep)

/-- A restricted run is a run. -/
theorem of_restrict (h : Run (Restrict C step) s₀ evs s) : Run step s₀ evs s :=
  h.mono fun _ _ _ hc => hc.2

theorem single {e : α} {s' : σ} (h : step s₀ e s') : Run step s₀ [e] s' := by
  simpa using Run.snoc Run.nil h

theorem append {s' : σ} {evs' : List α} (h : Run step s₀ evs s) (h' : Run step s evs' s') :
    Run step s₀ (evs ++ evs') s' := by
  induction h' with
  | nil => simpa using h
  | snoc _ hstep ih => rw [← List.append_assoc]; exact ih.snoc hstep

theorem cons {e : α} {s' : σ} (h : step s₀ e s) (h' : Run step s evs s') :
    Run step s₀ (e :: evs) s' :=
  append (single h) h'

/-- Calls one after the other are a fold. -/
theorem of_foldl {ε : Type*} {exec : σ → α → Except ε σ} : Run (CallStep exec) s₀ evs (evs.foldl (settle exec) s₀) := by
  induction evs generalizing s₀ with
  | nil => exact .nil
  | cons a as ih => exact cons rfl ih

theorem callStep_eq_foldl {ε : Type*} {exec : σ → α → Except ε σ} (h : Run (CallStep exec) s₀ evs s) :
    s = evs.foldl (settle exec) s₀ := by
  induction h with
  | nil => rfl
  | snoc _ hstep ih =>
    rw [List.foldl_append, ← ih]
    exact hstep

/-- An execution is a run of the checked steps. -/
theorem of_execute? [∀ s a, Decidable (C s a)] {step? : σ → α → Option σ} {s' : σ}
    (h : execute? C step? s evs = some s') :
    Run (Restrict C fun s a s' => step? s a = some s') s evs s' := by
  induction evs generalizing s with
  | nil => obtain rfl := Option.some.inj h; exact .nil
  | cons a as ih =>
    simp only [execute?] at h
    split at h
    · rename_i hC
      obtain ⟨s₁, h₁, h₂⟩ := Option.bind_eq_some_iff.1 h
      exact cons ⟨hC, h₁⟩ (ih h₂)
    · cases h

end Run
