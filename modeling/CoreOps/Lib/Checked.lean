import Mathlib.Data.List.Basic

/-! Services as `Except` programs: a guard that raises, a lookup that raises when
it finds nothing, and what success of a program says about each of its steps. -/

namespace Checked

universe u

variable {ε : Type*} {α β : Type u}

/-- Raise `e` when `p` holds. -/
def raiseIf (p : Prop) [Decidable p] (e : ε) : Except ε PUnit.{u + 1} :=
  if p then .error e else .ok ⟨⟩

/-- The value found, or raise `e`. -/
def orRaise (o : Option α) (e : ε) : Except ε α :=
  match o with
  | some a => .ok a
  | none => .error e

@[simp] theorem bind_eq_ok {x : Except ε α} {f : α → Except ε β} {b : β} :
    (x >>= f) = .ok b ↔ ∃ a, x = .ok a ∧ f a = .ok b := by
  cases x with
  | error e => simp [bind, Except.bind]
  | ok a => simp [bind, Except.bind]

@[simp] theorem pure_eq_ok {a b : α} : (pure a : Except ε α) = .ok b ↔ a = b := by
  simp [pure, Except.pure]

@[simp] theorem raiseIf_eq_ok {p : Prop} [Decidable p] {e : ε} {v : PUnit.{u + 1}} :
    raiseIf p e = .ok v ↔ ¬ p := by
  by_cases hp : p <;> simp [raiseIf, hp]

@[simp] theorem orRaise_eq_ok {o : Option α} {e : ε} {a : α} : orRaise o e = .ok a ↔ o = some a := by
  cases o <;> simp [orRaise]

@[simp] theorem map_eq_ok {x : Except ε α} {f : α → β} {b : β} :
    (f <$> x) = .ok b ↔ ∃ a, x = .ok a ∧ f a = b := by
  cases x <;> simp [Functor.map, Except.map]

@[simp] theorem mapError_eq_ok {δ : Type*} {x : Except ε α} {f : ε → δ} {a : α} :
    x.mapError f = .ok a ↔ x = .ok a := by
  cases x <;> simp [Except.mapError]

theorem exists_of_isOk {x : Except ε α} (h : x.isOk = true) : ∃ a, x = .ok a := by
  cases x with
  | ok a => exact ⟨a, rfl⟩
  | error e => cases h

/-- Two programs fail with the same exception, or succeed with related values. -/
inductive SameOutcome (R : α → β → Prop) : Except ε α → Except ε β → Prop
  | ok {a : α} {b : β} (h : R a b) : SameOutcome R (.ok a) (.ok b)
  | error (e : ε) : SameOutcome R (.error e) (.error e)

theorem sameOutcome_ok_iff {R : α → β → Prop} {a : α} {b : β} :
    SameOutcome R (.ok a : Except ε α) (.ok b) ↔ R a b := by
  refine ⟨fun h => ?_, .ok⟩
  cases h with
  | ok h' => exact h'

/-- After a common first step, the programs have to agree wherever it succeeds. -/
theorem sameOutcome_bind_iff {γ : Type u} {R : α → β → Prop} {x : Except ε γ} {f : γ → Except ε α}
    {g : γ → Except ε β} : SameOutcome R (x >>= f) (x >>= g) ↔ ∀ c, x = .ok c → SameOutcome R (f c) (g c) := by
  cases x with
  | error e =>
    refine ⟨fun _ c hc => ?_, fun _ => SameOutcome.error e⟩
    cases hc
  | ok c =>
    refine ⟨fun h c' hc => ?_, fun h => h c rfl⟩
    cases hc
    exact h

/-- A loop that succeeds keeps what each of its rounds keeps. -/
theorem foldlM_invariant (I : β → Prop) {f : β → α → Except ε β} {as : List α}
    (hs : ∀ b a b', a ∈ as → I b → f b a = .ok b' → I b') {b b' : β} (hb : I b)
    (h : as.foldlM f b = .ok b') : I b' := by
  induction as generalizing b with
  | nil =>
    rw [List.foldlM_nil, pure_eq_ok] at h
    exact h ▸ hb
  | cons a as ih =>
    rw [List.foldlM_cons, bind_eq_ok] at h
    obtain ⟨b₁, h₁, h₂⟩ := h
    exact ih (fun b c b' hc => hs b c b' (List.mem_cons_of_mem _ hc))
      (hs b a b₁ List.mem_cons_self hb h₁) h₂

/-- A loop that appends to a list appends what its rounds do. -/
theorem foldlM_flatMap {γ : Type*} (collected : β → List γ) {g : α → List γ} {f : β → α → Except ε β} {as : List α}
    (hs : ∀ b a b', f b a = .ok b' → collected b' = collected b ++ g a) {b b' : β} (h : as.foldlM f b = .ok b') :
    collected b' = collected b ++ as.flatMap g := by
  induction as generalizing b with
  | nil =>
    rw [List.foldlM_nil, pure_eq_ok] at h
    simp [h]
  | cons a as ih =>
    rw [List.foldlM_cons, bind_eq_ok] at h
    obtain ⟨b₁, h₁, h₂⟩ := h
    rw [ih h₂, hs b a b₁ h₁, List.flatMap_cons, List.append_assoc]

/-- A loop of checks succeeds when every check does. -/
theorem forM_eq_ok {f : α → Except ε PUnit.{u + 1}} {as : List α} {v : PUnit.{u + 1}} :
    as.forM f = .ok v ↔ ∀ a ∈ as, f a = .ok ⟨⟩ := by
  induction as with
  | nil => simp
  | cons a as ih =>
    show (f a >>= fun _ => as.forM f) = .ok v ↔ _
    rw [bind_eq_ok, List.forall_mem_cons, ← ih]
    exact ⟨fun ⟨_, ha, has⟩ => ⟨ha, has⟩, fun ⟨ha, has⟩ => ⟨_, ha, has⟩⟩

/-- A loop that builds a list gives one result for each element. -/
theorem mapM_eq_ok {f : α → Except ε β} {as : List α} {bs : List β} (h : as.mapM f = .ok bs) :
    List.Forall₂ (fun a b => f a = .ok b) as bs := by
  induction as generalizing bs with
  | nil =>
    rw [List.mapM_nil, pure_eq_ok] at h
    exact h ▸ .nil
  | cons a as ih =>
    simp only [List.mapM_cons, bind_eq_ok, pure_eq_ok] at h
    obtain ⟨b, hb, bs', hbs, rfl⟩ := h
    exact .cons hb (ih hbs)

/-- Such a loop succeeds when each of its rounds does. -/
theorem exists_mapM {f : α → Except ε β} {as : List α} (h : ∀ a ∈ as, ∃ b, f a = .ok b) : ∃ bs, as.mapM f = .ok bs := by
  induction as with
  | nil => exact ⟨[], rfl⟩
  | cons a as ih =>
    obtain ⟨⟨b, hb⟩, has⟩ := List.forall_mem_cons.1 h
    obtain ⟨bs, hbs⟩ := ih has
    exact ⟨b :: bs, by simp only [List.mapM_cons, bind_eq_ok, pure_eq_ok]; exact ⟨b, hb, bs, hbs, rfl⟩⟩

/-- Each result of such a loop comes from an element. -/
theorem exists_of_mem_forall₂ {R : α → β → Prop} {as : List α} {bs : List β}
    (h : List.Forall₂ R as bs) {b : β} (hb : b ∈ bs) : ∃ a ∈ as, R a b := by
  induction h with
  | nil => cases hb
  | cons hab _ ih =>
    rcases List.mem_cons.1 hb with rfl | hb
    · exact ⟨_, List.mem_cons_self, hab⟩
    · obtain ⟨a, ha, hR⟩ := ih hb
      exact ⟨a, List.mem_cons_of_mem _ ha, hR⟩

/-- Each element gives one of the results. -/
theorem exists_of_mem_forall₂_left {R : α → β → Prop} {as : List α} {bs : List β}
    (h : List.Forall₂ R as bs) {a : α} (ha : a ∈ as) : ∃ b ∈ bs, R a b := by
  induction h with
  | nil => cases ha
  | cons hab _ ih =>
    rcases List.mem_cons.1 ha with rfl | ha
    · exact ⟨_, List.mem_cons_self, hab⟩
    · obtain ⟨b, hb, hR⟩ := ih ha
      exact ⟨b, List.mem_cons_of_mem _ hb, hR⟩

theorem map_eq_map_of_forall₂ {γ : Type*} {R : α → β → Prop} {f : α → γ} {g : β → γ} {as : List α}
    {bs : List β} (h : List.Forall₂ R as bs) (hR : ∀ a b, R a b → g b = f a) : bs.map g = as.map f := by
  induction h with
  | nil => rfl
  | cons hab _ ih => rw [List.map_cons, List.map_cons, hR _ _ hab, ih]

/-! Programs that do not raise a certain error. -/

section Avoids

variable {e e' : ε} {x : Except ε α} {f : α → Except ε β}

def Avoids (e : ε) (x : Except ε α) : Prop := x ≠ .error e

theorem avoids_ok (e : ε) (a : α) : Avoids e (.ok a) := by
  intro heq
  cases heq

theorem avoids_error (h : e' ≠ e) : Avoids e (.error e' : Except ε α) := by
  intro heq
  exact h (Except.error.inj heq)

theorem Avoids.bind (hx : Avoids e x) (hf : ∀ a, x = .ok a → Avoids e (f a)) : Avoids e (x >>= f) := by
  cases x with
  | ok a => exact hf a rfl
  | error e' =>
    intro heq
    exact hx (congrArg _ (Except.error.inj heq))

theorem avoids_raiseIf {p : Prop} [Decidable p] (h : e' ≠ e) : Avoids e (raiseIf.{u} p e') := by
  unfold raiseIf
  split
  · exact avoids_error h
  · exact avoids_ok e _

theorem avoids_orRaise {o : Option α} (h : e' ≠ e) : Avoids e (orRaise o e') := by
  cases o with
  | some a => exact avoids_ok e a
  | none => exact avoids_error h

end Avoids

end Checked
