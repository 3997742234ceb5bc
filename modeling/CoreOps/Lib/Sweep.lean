import Mathlib.Data.List.Forall2

/-! A sweep visits the items of a list in turn, each visit giving a result and what
becomes of the item, and stops at the first visit that raises. -/

namespace Sweep

variable {ε α β : Type*}

def sweep (visit : α → Except ε β × α) : List α → Except ε (List β) × List α
  | [] => (.ok [], [])
  | a :: as =>
    match visit a with
    | (.error e, a') => (.error e, a' :: as)
    | (.ok b, a') => ((sweep visit as).1.map (b :: ·), a' :: (sweep visit as).2)

variable {visit : α → Except ε β × α} {a : α} {as before after : List α}

theorem sweep_cons_of_error {e : ε} (h : (visit a).1 = .error e) :
    sweep visit (a :: as) = (.error e, (visit a).2 :: as) := by
  rw [sweep]
  cases hv : visit a with
  | mk r a' =>
    rw [hv] at h
    obtain rfl : r = .error e := h
    rfl

theorem sweep_cons_of_ok {b : β} (h : (visit a).1 = .ok b) :
    sweep visit (a :: as) = ((sweep visit as).1.map (b :: ·), (visit a).2 :: (sweep visit as).2) := by
  rw [sweep]
  cases hv : visit a with
  | mk r a' =>
    rw [hv] at h
    obtain rfl : r = .ok b := h
    rfl

theorem sweep_singleton (visit : α → Except ε β × α) (a : α) : (sweep visit [a]).2 = [(visit a).2] := by
  cases h : (visit a).1 with
  | error e => rw [sweep_cons_of_error h]
  | ok b => rw [sweep_cons_of_ok h]; rfl

/-- What every visit keeps of an item, the sweep keeps. -/
theorem sweep_keeps {I : α → Prop} (hI : ∀ a ∈ as, I a) (hvisit : ∀ a ∈ as, I a → I (visit a).2) :
    ∀ a ∈ (sweep visit as).2, I a := by
  induction as with
  | nil => exact hI
  | cons a as ih =>
    obtain ⟨ha, has⟩ := List.forall_mem_cons.1 hI
    obtain ⟨hva, hvas⟩ := List.forall_mem_cons.1 hvisit
    cases h : (visit a).1 with
    | error e =>
      rw [sweep_cons_of_error h]
      exact List.forall_mem_cons.2 ⟨hva ha, has⟩
    | ok b =>
      rw [sweep_cons_of_ok h]
      exact List.forall_mem_cons.2 ⟨hva ha, ih has hvas⟩

theorem map_sweep {γ : Type*} {f : α → γ} (hf : ∀ a, f (visit a).2 = f a) (as : List α) :
    (sweep visit as).2.map f = as.map f := by
  induction as with
  | nil => rfl
  | cons a as ih =>
    cases h : (visit a).1 with
    | error e => rw [sweep_cons_of_error h, List.map_cons, List.map_cons, hf]
    | ok b => rw [sweep_cons_of_ok h, List.map_cons, List.map_cons, hf, ih]

/-- Items whose visits do not raise are no matter to the others. -/
theorem filter_sweep {keep : α → Bool} (hkeep : ∀ a, keep (visit a).2 = keep a)
    (hok : ∀ a ∈ as, keep a = false → ∃ b, (visit a).1 = .ok b) :
    (sweep visit as).2.filter keep = (sweep visit (as.filter keep)).2 := by
  induction as with
  | nil => rfl
  | cons a as ih =>
    obtain ⟨ha, has⟩ := List.forall_mem_cons.1 hok
    cases hk : keep a with
    | false =>
      obtain ⟨b, hb⟩ := ha hk
      rw [sweep_cons_of_ok hb, List.filter_cons_of_neg (by simp [hkeep, hk]), List.filter_cons_of_neg (by simp [hk]),
        ih has]
    | true =>
      rw [List.filter_cons_of_pos hk]
      cases h : (visit a).1 with
      | error e => rw [sweep_cons_of_error h, sweep_cons_of_error h, List.filter_cons_of_pos (by rw [hkeep, hk])]
      | ok b =>
        rw [sweep_cons_of_ok h, sweep_cons_of_ok h, List.filter_cons_of_pos (by rw [hkeep, hk]), ih has]

theorem sweep_eq_self (h : ∀ a ∈ as, (visit a).2 = a) : (sweep visit as).2 = as := by
  induction as with
  | nil => rfl
  | cons a as ih =>
    obtain ⟨ha, has⟩ := List.forall_mem_cons.1 h
    cases hv : (visit a).1 with
    | error e => rw [sweep_cons_of_error hv, ha]
    | ok b => rw [sweep_cons_of_ok hv, ha, ih has]

/-- Items that are not touched stay as they are, wherever the sweep stops. -/
theorem filter_sweep_eq_self {keep : α → Bool} (hkeep : ∀ a, keep (visit a).2 = keep a)
    (h : ∀ a ∈ as, keep a = true → (visit a).2 = a) : (sweep visit as).2.filter keep = as.filter keep := by
  have hhead : ∀ a ∈ as, ∀ tail, ((visit a).2 :: tail).filter keep = (a :: tail).filter keep := by
    intro a ha tail
    cases hk : keep a with
    | true => rw [h a ha hk]
    | false => rw [List.filter_cons_of_neg (by simp [hkeep, hk]), List.filter_cons_of_neg (by simp [hk])]
  induction as with
  | nil => rfl
  | cons a as ih =>
    cases hv : (visit a).1 with
    | error e =>
      rw [sweep_cons_of_error hv]
      exact hhead a List.mem_cons_self as
    | ok b =>
      rw [sweep_cons_of_ok hv]
      refine (hhead a List.mem_cons_self _).trans ?_
      rw [List.filter_cons, List.filter_cons, ih (fun a ha => h a (List.mem_cons_of_mem _ ha))
        fun a ha => hhead a (List.mem_cons_of_mem _ ha)]

end Sweep
