import CoreOps.Lib.Checked

/-! When the loops of an `Except` program succeed. -/

namespace Checked

universe u

variable {ε : Type*} {α β : Type u}

theorem exists_bind_eq_ok {x : Except ε α} {f : α → Except ε β} :
    (∃ b, (x >>= f) = .ok b) ↔ ∃ a, x = .ok a ∧ ∃ b, f a = .ok b := by
  simp only [bind_eq_ok]
  rw [exists_comm]
  simp only [exists_and_left]

/-- A loop succeeds when each of its rounds does, on what the rounds before it have left. -/
theorem exists_foldlM_iff {σ : Type*} (view : β → σ) (next : σ → α → σ) {P : σ → α → Prop} {f : β → α → Except ε β}
    {as : List α} (hok : ∀ b, ∀ a ∈ as, (∃ b', f b a = .ok b') ↔ P (view b) a)
    (hnext : ∀ b, ∀ a ∈ as, ∀ b', f b a = .ok b' → view b' = next (view b) a) {b : β} :
    (∃ b', as.foldlM f b = .ok b') ↔ ∀ done a rest, as = done ++ a :: rest → P (done.foldl next (view b)) a := by
  induction as generalizing b with
  | nil => simp
  | cons c as ih =>
    obtain ⟨hok, hoks⟩ := forall_and.1 fun b => List.forall_mem_cons.1 (hok b)
    obtain ⟨hnext, hnexts⟩ := forall_and.1 fun b => List.forall_mem_cons.1 (hnext b)
    have ih := fun b => @ih hoks hnexts b
    rw [List.foldlM_cons, exists_bind_eq_ok]
    constructor
    · rintro ⟨b₁, h₁, hrest⟩ done a rest hsplit
      cases done with
      | nil =>
        obtain ⟨rfl, -⟩ := List.cons.inj hsplit
        exact (hok b).1 ⟨b₁, h₁⟩
      | cons d done =>
        obtain ⟨rfl, htail⟩ := List.cons.inj hsplit
        rw [List.foldl_cons, ← hnext b b₁ h₁]
        exact (ih b₁).1 hrest done a rest htail
    · intro hall
      obtain ⟨b₁, h₁⟩ := (hok b).2 (hall [] c as rfl)
      refine ⟨b₁, h₁, (ih b₁).2 fun done a rest hsplit => ?_⟩
      rw [hnext b b₁ h₁]
      exact hall (c :: done) a rest (congrArg (c :: ·) hsplit)

/-- Where the rounds do not depend on one another, every one has to succeed. -/
theorem exists_foldlM_iff_forall {P : α → Prop} {f : β → α → Except ε β} {as : List α}
    (hok : ∀ b, ∀ a ∈ as, (∃ b', f b a = .ok b') ↔ P a) {b : β} :
    (∃ b', as.foldlM f b = .ok b') ↔ ∀ a ∈ as, P a := by
  rw [exists_foldlM_iff (P := fun _ => P) (fun _ => ()) (fun _ _ => ()) hok fun _ _ _ _ _ => rfl]
  constructor
  · intro h a ha
    obtain ⟨done, rest, hsplit⟩ := List.append_of_mem ha
    exact h done a rest hsplit
  · rintro h done a rest rfl
    exact h a (by simp)

/-- A loop whose rounds each count one counts its rounds. -/
theorem foldlM_count (count : β → ℕ) {f : β → α → Except ε β} {as : List α}
    (hs : ∀ b a b', f b a = .ok b' → count b' = count b + 1) {b b' : β} (h : as.foldlM f b = .ok b') :
    count b' = count b + as.length := by
  induction as generalizing b with
  | nil =>
    rw [List.foldlM_nil, pure_eq_ok] at h
    simp [h]
  | cons a as ih =>
    rw [List.foldlM_cons, bind_eq_ok] at h
    obtain ⟨b₁, h₁, h₂⟩ := h
    rw [ih h₂, hs b a b₁ h₁, List.length_cons, Nat.add_right_comm, Nat.add_assoc]

/-- A loop none of whose rounds has anything to do. -/
theorem foldlM_eq_self {f : β → α → Except ε β} {as : List α} {b : β} (h : ∀ a ∈ as, f b a = .ok b) :
    as.foldlM f b = .ok b := by
  induction as with
  | nil => rfl
  | cons a as ih =>
    obtain ⟨ha, has⟩ := List.forall_mem_cons.1 h
    rw [List.foldlM_cons, ha]
    exact ih has

/-- What a round achieves for its element, and the others keep, the loop achieves for all. -/
theorem foldlM_all {P : β → α → Prop} {f : β → α → Except ε β} {as : List α}
    (hdone : ∀ b, ∀ a ∈ as, ∀ b', f b a = .ok b' → P b' a) (hkept : ∀ b a b' c, f b a = .ok b' → P b c → P b' c)
    {b b' : β} (h : as.foldlM f b = .ok b') : ∀ a ∈ as, P b' a := by
  induction as generalizing b with
  | nil => exact fun _ hmem => absurd hmem List.not_mem_nil
  | cons a as ih =>
    rw [List.foldlM_cons, bind_eq_ok] at h
    obtain ⟨b₁, h₁, h₂⟩ := h
    refine List.forall_mem_cons.2 ⟨?_, ih (fun b c hc => hdone b c (List.mem_cons_of_mem a hc)) h₂⟩
    exact foldlM_invariant (P · a) (fun b c b' _ hb hstep => hkept b c b' a hstep hb)
      (hdone b a List.mem_cons_self b₁ h₁) h₂

/-- A loop that maps each element to itself. -/
theorem mapM_eq_self {f : α → Except ε α} {as : List α} (h : ∀ a ∈ as, f a = .ok a) : as.mapM f = .ok as := by
  induction as with
  | nil => rfl
  | cons a as ih =>
    obtain ⟨ha, has⟩ := List.forall_mem_cons.1 h
    rw [List.mapM_cons, ha, ih has]
    rfl

end Checked
