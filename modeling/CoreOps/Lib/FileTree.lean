import Mathlib.Data.List.Infix
import Mathlib.Logic.Function.Basic

/-! A tree of directories and files, with the modes of the directories. A place is the list
of the names that lead to it from the root. -/

namespace FileTree

abbrev Place := List String

inductive Entry (β : Type)
  | dir (mode : ℕ)
  | file (content : β)
  deriving DecidableEq, Repr

/-- What is at each place. -/
abbrev Tree (β : Type) := Place → Option (Entry β)

variable {β : Type} {t t' t'' : Tree β} {at' place q : Place}

def isDirAt (t : Tree β) (at' : Place) : Prop := ∃ mode, t at' = some (.dir mode)

/-- What there is, is in a directory; the root is one. -/
structure Closed (t : Tree β) : Prop where
  root : isDirAt t []
  parent : ∀ at' name, t (at' ++ [name]) ≠ none → isDirAt t at'

/-- Above what there is, there are directories. -/
theorem Closed.above (h : Closed t) {rest : Place} (hne : rest ≠ []) (hsome : t (at' ++ rest) ≠ none) : isDirAt t at' := by
  induction rest using List.reverseRecOn with
  | nil => exact absurd rfl hne
  | append_singleton rest name ih =>
    rw [← List.append_assoc] at hsome
    have hdir := h.parent _ _ hsome
    cases rest with
    | nil => rwa [List.append_nil] at hdir
    | cons first rest =>
      obtain ⟨mode, hmode⟩ := hdir
      exact ih (List.cons_ne_nil _ _) (by rw [hmode]; exact nofun)

/-- Below a place where nothing is, there is nothing. -/
theorem Closed.below (h : Closed t) (hnone : t at' = none) (hle : at' <+: q) : t q = none := by
  obtain ⟨rest, rfl⟩ := hle
  by_contra hsome
  cases rest with
  | nil => exact hsome (by rwa [List.append_nil])
  | cons first rest =>
    obtain ⟨mode, hmode⟩ := h.above (List.cons_ne_nil first rest) hsome
    rw [hnone] at hmode
    cases hmode

def put (t : Tree β) (at' : Place) (entry : Entry β) : Tree β := Function.update t at' (some entry)

@[simp] theorem put_self (entry : Entry β) : put t at' entry at' = some entry := Function.update_self ..

theorem put_of_ne {entry : Entry β} (h : q ≠ at') : put t at' entry q = t q := Function.update_of_ne h ..

/-- A directory and what is below it are removed, apart from what cannot be. -/
def removeTree (survives : Place → Bool) (t : Tree β) (at' : Place) : Tree β :=
  fun q => if at' <+: q ∧ survives q = false then none else t q

/-- What there was is still there, as it was. -/
def Extends (t t' : Tree β) : Prop := ∀ q, t q ≠ none → t' q = t q

theorem Extends.refl (t : Tree β) : Extends t t := fun _ _ => rfl

theorem Extends.trans (h : Extends t t') (h' : Extends t' t'') : Extends t t'' := fun q hq => by
  rw [h' q (by rw [h q hq]; exact hq), h q hq]

theorem extends_put {entry : Entry β} (h : t at' = none) : Extends t (put t at' entry) := fun _ hq =>
  put_of_ne fun heq => hq (heq ▸ h)

/-- A tree to which something was added is another tree. -/
theorem Extends.ne (h : Extends t' t'') (hnone : t q = none) (hsome : t' q ≠ none) : t'' ≠ t := by
  rintro rfl
  exact hsome ((h q hsome).symm.trans hnone)

end FileTree
