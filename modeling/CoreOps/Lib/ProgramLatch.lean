import CoreOps.Lib.Program

/-! An environment with a latch. Once a program has made a call of a given kind, the
environment's choices go through a mask, which says what may go wrong from there on. A
program that raises in its first part makes the calls of that part only. -/

namespace Environment

variable {σ ε φ C : Type} {A : C → Type}

/-- The environment, whose choices are masked after a call that sets the latch. -/
def latched (env : Environment σ ε φ A) (sets : C → Bool) (mask : φ → φ) : Environment (σ × Bool) ε φ A where
  handle s c f :=
    let answer := env.handle s.1 c (if s.2 then mask f else f)
    (answer.1, (answer.2, s.2 || sets c))
  idle := env.idle

end Environment

namespace Program

variable {σ ε φ C : Type} {A : C → Type} {α β : Type}

/-- The calls of an execution, with what the environment chooses for each. -/
def calls (env : Environment σ ε φ A) : Program ε A α → List φ → σ → List (C × φ)
  | ret _, _, _ => []
  | raise _, _, _ => []
  | call c next, fs, s =>
    let answer := env.handle s c (fs.headD env.idle)
    (c, fs.headD env.idle) :: (next answer.1).calls env fs.tail answer.2

/-- The choices after the latch is set are ones that the mask leaves as they are. -/
def Settled (sets : C → Bool) (mask : φ → φ) : Bool → List (C × φ) → Prop
  | _, [] => True
  | latch, (c, f) :: rest => (latch = true → mask f = f) ∧ Settled sets mask (latch || sets c) rest

instance instDecidableSettled [DecidableEq φ] (sets : C → Bool) (mask : φ → φ) : ∀ latch (answered : List (C × φ)),
    Decidable (Settled sets mask latch answered)
  | _, [] => inferInstanceAs (Decidable True)
  | latch, (c, f) :: rest =>
    have : Decidable (Settled sets mask (latch || sets c) rest) := instDecidableSettled sets mask _ rest
    inferInstanceAs (Decidable ((latch = true → mask f = f) ∧ Settled sets mask (latch || sets c) rest))

/-- No call of the program sets the latch. -/
def Quiet (sets : C → Bool) : Program ε A α → Prop
  | ret _ => True
  | raise _ => True
  | call c next => sets c = false ∧ ∀ r, (next r).Quiet sets

variable {env : Environment σ ε φ A} {sets : C → Bool} {mask : φ → φ} {ok ok' : φ → Prop}

/-- An execution whose choices settle is one of the latched environment. -/
theorem run_latched {p : Program ε A α} {fs : List φ} {s : σ} {latch : Bool}
    (h : Settled sets mask latch (p.calls env fs s)) : (p.run env fs s).1 = (p.run (env.latched sets mask) fs (s, latch)).1 ∧
      (p.run env fs s).2 = (p.run (env.latched sets mask) fs (s, latch)).2.1 := by
  induction p generalizing fs s latch with
  | ret a => exact ⟨rfl, rfl⟩
  | raise e => exact ⟨rfl, rfl⟩
  | call c next ih =>
    obtain ⟨hmask, hrest⟩ := h
    have hchoice : (if latch then mask (fs.headD env.idle) else fs.headD env.idle) = fs.headD env.idle := by
      cases latch with
      | false => rfl
      | true => exact hmask rfl
    have hhandle : (env.latched sets mask).handle (s, latch) c (fs.headD env.idle) =
        ((env.handle s c (fs.headD env.idle)).1, ((env.handle s c (fs.headD env.idle)).2, latch || sets c)) := by
      simp only [Environment.latched, hchoice]
    have hidle : (env.latched sets mask).idle = env.idle := rfl
    simp only [run, hidle, hhandle]
    exact ih _ hrest

/-- A program whose first part raises ends there. -/
theorem run_bind_of_error {p : Program ε A β} {k : β → Program ε A α} {fs : List φ} {s s' : σ} {e : ε}
    (h : p.run env fs s = (.error e, s')) :
    (p >>= k).run env fs s = (.error e, s') ∧ (p >>= k).calls env fs s = p.calls env fs s := by
  change (p.bind k).run env fs s = _ ∧ (p.bind k).calls env fs s = _
  induction p generalizing fs s with
  | ret b => cases h
  | raise e' => exact ⟨by cases h; rfl, rfl⟩
  | call c next ih =>
    obtain ⟨hrun, hcalls⟩ := ih _ h
    exact ⟨hrun, congrArg ((c, fs.headD env.idle) :: ·) hcalls⟩

theorem bind_assoc {γ : Type} (p : Program ε A γ) (f : γ → Program ε A β) (g : β → Program ε A α) :
    (p >>= f) >>= g = p >>= fun a => f a >>= g := by
  change (p.bind f).bind g = p.bind fun a => (f a).bind g
  induction p with
  | ret a => rfl
  | raise e => rfl
  | call c next ih => exact congrArg (call c) (funext ih)

namespace Quiet

theorem perform {c : C} (h : sets c = false) : (perform c : Program ε A (A c)).Quiet sets := by
  refine ⟨h, fun r => ?_⟩
  cases r <;> trivial

theorem pure (a : α) : (pure a : Program ε A α).Quiet sets := trivial

theorem throw (e : ε) : (throw e : Program ε A α).Quiet sets := trivial

theorem bind {p : Program ε A β} {k : β → Program ε A α} (hp : p.Quiet sets) (hk : ∀ b, (k b).Quiet sets) :
    (p >>= k).Quiet sets := by
  change (p.bind k).Quiet sets
  induction p with
  | ret b => exact hk b
  | raise e => trivial
  | call c next ih => exact ⟨hp.1, fun r => ih r (hp.2 r)⟩

theorem tryCatch {p : Program ε A α} {k : ε → Program ε A α} (hp : p.Quiet sets) (hk : ∀ e, (k e).Quiet sets) :
    (MonadExcept.tryCatch p k).Quiet sets := by
  change (p.tryCatch k).Quiet sets
  induction p with
  | ret a => trivial
  | raise e => exact hk e
  | call c next ih => exact ⟨hp.1, fun r => ih r (hp.2 r)⟩

theorem raiseIf {p : Prop} [Decidable p] {e : ε} : (raiseIf p e : Program ε A Unit).Quiet sets := by
  unfold Program.raiseIf
  split <;> trivial

end Quiet

/-- What a quiet program ensures without the latch, it ensures under it. -/
theorem Ensures.latched {p : Program ε A α} {Q : Except ε α → σ → Prop} {latch : Bool} {s : σ} (hquiet : p.Quiet sets)
    (hok : ∀ f, ok f → ok' (if latch then mask f else f)) (h : Ensures env ok' (fun _ => True) p Q s) :
    Ensures (env.latched sets mask) ok (fun _ => True) p (fun r t => Q r t.1 ∧ t.2 = latch) (s, latch) := by
  induction p generalizing s with
  | ret a => exact ⟨h, rfl⟩
  | raise e => exact ⟨h, rfl⟩
  | call c next ih =>
    intro f hf
    obtain ⟨-, hnext⟩ := h _ (hok f hf)
    have hlatch : (latch || sets c) = latch := by rw [hquiet.1, Bool.or_false]
    refine ⟨trivial, ?_⟩
    have hrest := ih _ (hquiet.2 _) hnext
    simpa only [Environment.latched, hlatch] using hrest

end Program
