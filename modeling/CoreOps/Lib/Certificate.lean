import CoreOps.Lib.Runs

/-! Certificates about inputs that may change. A certificate on a subject is issued by
some steps, about the inputs the subject has then; a step that leaves it standing
leaves the inputs alone. A certificate that stands after a run was then issued during
the run, about the inputs the subject still has. -/

/-- What each step has to do: if the certificate on `i` stands after it, then the inputs
of `i` are the same, and it stood before or this step has issued it. -/
def Certifies {σ α ι β : Type*} (step : σ → α → σ → Prop) (inputs : σ → ι → β) (stands : σ → ι → Prop)
    (issues : σ → α → ι → Prop) : Prop :=
  ∀ s a s' i, step s a s' → stands s' i → inputs s' i = inputs s i ∧ (stands s i ∨ issues s a i)

namespace Certifies

variable {σ α ι β : Type*} {step : σ → α → σ → Prop} {inputs : σ → ι → β} {stands : σ → ι → Prop}
  {issues : σ → α → ι → Prop} {s₀ s : σ} {evs : List α} {i : ι}

/-- A standing certificate was issued in the run, about the inputs of now. -/
theorem run (hc : Certifies step inputs stands issues) (h0 : ¬ stands s₀ i) (h : Run step s₀ evs s)
    (hs : stands s i) :
    ∃ pre a post s₁, evs = pre ++ a :: post ∧ Run step s₀ pre s₁ ∧ issues s₁ a i ∧ inputs s₁ i = inputs s i := by
  induction h with
  | nil => exact absurd hs h0
  | @snoc evs s e s' hrun hstep ih =>
    obtain ⟨hsame, hstood | hissued⟩ := hc s e s' i hstep hs
    · obtain ⟨pre, a, post, s₁, rfl, hpre, hissues, hinputs⟩ := ih hstood
      exact ⟨pre, a, post ++ [e], s₁, by simp, hpre, hissues, hinputs.trans hsame.symm⟩
    · exact ⟨evs, e, [], s, rfl, hrun, hissued, hsame.symm⟩

end Certifies
