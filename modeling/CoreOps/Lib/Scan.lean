import Mathlib.Data.List.Basic

/-! Scanning a text for a pattern from the left: where a match starts it is taken whole, and
the scan goes on behind it. The pattern is a language, with a function that takes a match off
the head of a text. -/

namespace Scan

variable {α β : Type*}

structure Pattern (α β : Type*) where
  /-- The pattern reads the text as the value. -/
  Matches : List α → β → Prop
  take : List α → Option (β × List α)
  not_matches_nil : ∀ b, ¬ Matches [] b
  matches_of_take : ∀ {l b rest}, take l = some (b, rest) → ∃ text, Matches text b ∧ l = text ++ rest
  take_of_matches : ∀ {text b} rest, Matches text b → take (text ++ rest) = some (b, rest)

variable (pattern : Pattern α β)

/-- A match starts at the head of the text. -/
def Pattern.Starts (l : List α) : Prop := ∃ text b rest, pattern.Matches text b ∧ l = text ++ rest

/-- The text is cut into its matches and the elements between them. -/
inductive Segmented : List α → List (α ⊕ β) → Prop
  | nil : Segmented [] []
  | literal {a : α} {l : List α} {pieces : List (α ⊕ β)} (hstart : ¬ pattern.Starts (a :: l))
      (h : Segmented l pieces) : Segmented (a :: l) (.inl a :: pieces)
  | hit {text : List α} {b : β} {rest : List α} {pieces : List (α ⊕ β)} (hmatch : pattern.Matches text b)
      (h : Segmented rest pieces) : Segmented (text ++ rest) (.inr b :: pieces)

/-- The scan, for at most `n` pieces. -/
def scanLoop : ℕ → List α → List (α ⊕ β)
  | 0, _ | _ + 1, [] => []
  | n + 1, a :: l =>
    match pattern.take (a :: l) with
    | some (b, rest) => .inr b :: scanLoop n rest
    | none => .inl a :: scanLoop n l

def scan (l : List α) : List (α ⊕ β) := scanLoop pattern l.length l

variable {pattern}

theorem Pattern.take_eq_none {l : List α} (h : pattern.take l = none) : ¬ pattern.Starts l := by
  rintro ⟨text, b, rest, hmatch, rfl⟩
  rw [pattern.take_of_matches rest hmatch] at h
  cases h

theorem Pattern.length_rest {l rest : List α} {b : β} (h : pattern.take l = some (b, rest)) : rest.length < l.length := by
  obtain ⟨text, hmatch, rfl⟩ := pattern.matches_of_take h
  have hpos : 0 < text.length := by
    apply List.length_pos_iff.2
    rintro rfl
    exact pattern.not_matches_nil b hmatch
  rw [List.length_append]
  omega

theorem segmented_scanLoop {n : ℕ} {l : List α} (hn : l.length ≤ n) : Segmented pattern l (scanLoop pattern n l) := by
  induction n generalizing l with
  | zero =>
    obtain rfl := List.length_eq_zero_iff.1 (Nat.le_zero.1 hn)
    exact .nil
  | succ n ih =>
    cases l with
    | nil => exact .nil
    | cons a l =>
      rw [scanLoop]
      split
      case h_1 b rest htake =>
        have hlength := Pattern.length_rest htake
        obtain ⟨text, hmatch, heq⟩ := pattern.matches_of_take htake
        rw [heq]
        exact .hit hmatch (ih (by omega))
      case h_2 hnone =>
        rw [List.length_cons] at hn
        exact .literal (Pattern.take_eq_none hnone) (ih (by omega))

theorem segmented_scan (l : List α) : Segmented pattern l (scan pattern l) := segmented_scanLoop (Nat.le_refl _)

/-- There is one way to cut a text. -/
theorem Segmented.unique {l : List α} {pieces pieces' : List (α ⊕ β)} (h : Segmented pattern l pieces)
    (h' : Segmented pattern l pieces') : pieces = pieces' := by
  induction h generalizing pieces' with
  | nil =>
    generalize hl : ([] : List α) = l at h'
    cases h' with
    | nil => rfl
    | literal => cases hl
    | hit hmatch =>
      rw [(List.nil_eq_append_iff.1 hl).1] at hmatch
      exact absurd hmatch (pattern.not_matches_nil _)
  | @literal a l pieces hstart _ ih =>
    generalize hl : a :: l = l' at h'
    cases h' with
    | nil => cases hl
    | literal _ h' =>
      obtain ⟨rfl, rfl⟩ := List.cons.inj hl
      rw [ih h']
    | hit hmatch _ => exact absurd ⟨_, _, _, hmatch, hl⟩ hstart
  | @hit text b rest pieces hmatch _ ih =>
    have htake := pattern.take_of_matches rest hmatch
    generalize hl : text ++ rest = l' at h'
    cases h' with
    | nil =>
      rw [(List.append_eq_nil_iff.1 hl).1] at hmatch
      exact absurd hmatch (pattern.not_matches_nil _)
    | literal hstart _ => exact absurd ⟨text, b, rest, hmatch, hl.symm⟩ hstart
    | hit hmatch' h' =>
      rw [hl, pattern.take_of_matches _ hmatch'] at htake
      obtain ⟨rfl, rfl⟩ := Prod.mk.inj (Option.some.inj htake)
      rw [ih h']

end Scan
