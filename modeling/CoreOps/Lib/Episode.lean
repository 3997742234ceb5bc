import Mathlib.Data.List.Destutter
import CoreOps.Lib.Runs

/-! Things that happen once: not begun, then at one value after another, then over.
Watched along the states of a service, the values such a thing takes, one entry for
each change, form a path of whatever its single steps allow. -/

/-- The states a service goes through over the calls, the first one included. -/
def trail {σ α ε : Type*} (exec : σ → α → Except ε σ) (s₀ : σ) (as : List α) : List σ :=
  as.scanl (settle exec) s₀

inductive Phase (β : Type*)
  | absent
  | during (b : β)
  | ended

namespace Phase

variable {β : Type*}

def value? : Phase β → Option β
  | .absent => none
  | .during b => some b
  | .ended => none

/-- What one step may do to the phase: values follow each other along `edge`. -/
inductive Moves (edge : β → β → Prop) : Phase β → Phase β → Prop
  | wait : Moves edge .absent .absent
  | begin (b : β) : Moves edge .absent (.during b)
  | stay (b : β) : Moves edge (.during b) (.during b)
  | along {a b : β} : edge a b → Moves edge (.during a) (.during b)
  | finish (b : β) : Moves edge (.during b) .ended
  | rest : Moves edge .ended .ended

/-- The values taken, one entry for each change. -/
def values [DecidableEq β] (phases : List (Phase β)) : List β :=
  (phases.filterMap value?).destutter (· ≠ ·)

variable {edge : β → β → Prop}

theorem filterMap_ended {phases : List (Phase β)} (h : (.ended :: phases).IsChain (Moves edge)) :
    phases.filterMap value? = [] := by
  induction phases with
  | nil => rfl
  | cons p phases ih =>
    rw [List.isChain_cons_cons] at h
    obtain ⟨hm, hrest⟩ := h
    cases hm
    exact ih hrest

theorem chain_filterMap_at {a : β} {phases : List (Phase β)} (h : (.during a :: phases).IsChain (Moves edge)) :
    (a :: phases.filterMap value?).IsChain fun x y => x = y ∨ edge x y := by
  induction phases generalizing a with
  | nil => exact List.isChain_singleton a
  | cons p phases ih =>
    rw [List.isChain_cons_cons] at h
    obtain ⟨hm, hrest⟩ := h
    cases hm with
    | stay => exact List.isChain_cons_cons.2 ⟨.inl rfl, ih hrest⟩
    | along he => exact List.isChain_cons_cons.2 ⟨.inr he, ih hrest⟩
    | finish =>
      rw [List.filterMap_cons, value?, filterMap_ended hrest]
      exact List.isChain_singleton a

theorem chain_filterMap {phases : List (Phase β)} (h : phases.IsChain (Moves edge)) :
    (phases.filterMap value?).IsChain fun x y => x = y ∨ edge x y := by
  induction phases with
  | nil => exact List.isChain_nil
  | cons p phases ih =>
    cases p with
    | absent => exact ih h.tail
    | during a => exact chain_filterMap_at h
    | ended =>
      rw [List.filterMap_cons, value?, filterMap_ended h]
      exact List.isChain_nil

variable [DecidableEq β]

theorem chain_destutter' {a : β} {bs : List β} (h : (a :: bs).IsChain fun x y => x = y ∨ edge x y) :
    (bs.destutter' (· ≠ ·) a).IsChain edge ∧ (bs.destutter' (· ≠ ·) a).head? = some a := by
  induction bs generalizing a with
  | nil => exact ⟨List.isChain_singleton a, rfl⟩
  | cons b bs ih =>
    rw [List.isChain_cons_cons] at h
    obtain ⟨hab, hrest⟩ := h
    by_cases hne : a = b
    · subst hne
      rw [List.destutter'_cons_neg _ (by simp)]
      exact ih hrest
    · rw [List.destutter'_cons_pos _ hne]
      obtain ⟨hchain, hhead⟩ := ih hrest
      refine ⟨List.isChain_cons.2 ⟨fun y hy => ?_, hchain⟩, rfl⟩
      rw [hhead, Option.mem_def, Option.some.injEq] at hy
      exact hy ▸ hab.resolve_left hne

/-- The values follow the edges. -/
theorem chain_values {phases : List (Phase β)} (h : phases.IsChain (Moves edge)) : (values phases).IsChain edge := by
  have hv := chain_filterMap h
  unfold values
  cases hp : phases.filterMap value? with
  | nil => exact List.isChain_nil
  | cons b bs =>
    rw [hp] at hv
    exact (chain_destutter' hv).1

end Phase

/-! Along a trail. -/

section Trail

variable {σ α ε β : Type*} {exec : σ → α → Except ε σ} {phase : σ → Phase β} {edge : σ → β → β → Prop}

theorem trail_cons (s : σ) (a : α) (as : List α) :
    trail exec s (a :: as) = s :: trail exec (settle exec s a) as := by
  rw [trail, List.scanl_cons]
  rfl

theorem head?_trail (s : σ) (as : List α) : (trail exec s as).head? = some s := by
  cases as <;> simp [trail]

/-- What an invariant lets every call do: keep the edges there are, and move the
phase along them. -/
structure Follows (exec : σ → α → Except ε σ) (phase : σ → Phase β) (edge : σ → β → β → Prop) (I : σ → Prop) :
    Prop where
  keeps : ∀ s a, I s → I (settle exec s a)
  grows : ∀ s a, I s → ∀ x y, edge s x y → edge (settle exec s a) x y
  moves : ∀ s a, I s → Phase.Moves (edge s) (phase s) (phase (settle exec s a))

variable {I : σ → Prop}

theorem Phase.Moves.imp {edge edge' : β → β → Prop} (h : ∀ x y, edge x y → edge' x y) {p q : Phase β}
    (hm : Phase.Moves edge p q) : Phase.Moves edge' p q := by
  cases hm with
  | wait => exact .wait
  | begin b => exact .begin b
  | stay b => exact .stay b
  | along he => exact .along (h _ _ he)
  | finish b => exact .finish b
  | rest => exact .rest

theorem Follows.grows_foldl (h : Follows exec phase edge I) {s : σ} (hI : I s) (as : List α) {x y : β}
    (he : edge s x y) : edge (as.foldl (settle exec) s) x y := by
  induction as generalizing s with
  | nil => exact he
  | cons a as ih => exact ih (h.keeps s a hI) (h.grows s a hI x y he)

theorem Follows.invariant (h : Follows exec phase edge I) {s : σ} (hI : I s) (as : List α) :
    I (as.foldl (settle exec) s) := by
  induction as generalizing s with
  | nil => exact hI
  | cons a as ih => exact ih (h.keeps s a hI)

/-- The phases of the trail follow the edges of its last state. -/
theorem Follows.chain (h : Follows exec phase edge I) {s : σ} (hI : I s) (as : List α) :
    ((trail exec s as).map phase).IsChain (Phase.Moves (edge (as.foldl (settle exec) s))) := by
  induction as generalizing s with
  | nil => exact List.isChain_singleton _
  | cons a as ih =>
    have hI' := h.keeps s a hI
    rw [trail_cons, List.map_cons]
    refine List.isChain_cons.2 ⟨fun p hp => ?_, ih hI'⟩
    rw [List.head?_map, head?_trail, Option.map_some, Option.mem_def, Option.some.injEq] at hp
    subst hp
    exact (h.moves s a hI).imp fun x y he => h.grows_foldl hI' as (h.grows s a hI x y he)

/-- So do the values taken along it. -/
theorem Follows.chain_values [DecidableEq β] (h : Follows exec phase edge I) {s : σ} (hI : I s) (as : List α) :
    (Phase.values ((trail exec s as).map phase)).IsChain (edge (as.foldl (settle exec) s)) :=
  Phase.chain_values (h.chain hI as)

end Trail
