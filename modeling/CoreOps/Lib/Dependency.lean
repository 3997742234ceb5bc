import Mathlib.Data.Set.Basic
import Mathlib.Data.Set.Insert

/-! Sets closed under a relation of requirement, and exactly when switching one
element on or off keeps them closed. -/

namespace Dependency

variable {α : Type*} {requires : α → α → Prop} {on : Set α} {x : α}

/-- Everything an element of the set requires is in the set. -/
def Closed (requires : α → α → Prop) (on : Set α) : Prop := ∀ a ∈ on, ∀ b, requires a b → b ∈ on

/-- Switching `x` on keeps the set closed exactly when what it requires is on, or is
`x` itself. -/
theorem closed_insert_iff (h : Closed requires on) :
    Closed requires (insert x on) ↔ ∀ b, requires x b → b = x ∨ b ∈ on := by
  constructor
  · intro hc b hb
    exact Set.mem_insert_iff.1 (hc x (Set.mem_insert x on) b hb)
  · intro hx a ha b hb
    rcases Set.mem_insert_iff.1 ha with rfl | ha
    · exact Set.mem_insert_iff.2 (hx b hb)
    · exact Set.mem_insert_of_mem x (h a ha b hb)

/-- Switching `x` off keeps the set closed exactly when nothing else that is on
requires it. -/
theorem closed_remove_iff (h : Closed requires on) :
    Closed requires (on \ {x}) ↔ ∀ a ∈ on, a ≠ x → ¬ requires a x := by
  constructor
  · intro hc a ha hax hr
    exact (hc a ⟨ha, hax⟩ x hr).2 rfl
  · intro hx a ha b hb
    refine ⟨h a ha.1 b hb, ?_⟩
    rintro rfl
    exact hx a ha.1 ha.2 hb

/-! Switching elements on one after the other. -/

/-- Each element finds what it requires on when its turn comes. -/
def Startable (requires : α → α → Prop) : Set α → List α → Prop
  | _, [] => True
  | on, x :: xs => (∀ b, requires x b → b ∈ on) ∧ Startable requires (insert x on) xs

/-- Everything an element requires is on at the start or earlier in the list. -/
theorem startable_iff {on : Set α} {xs : List α} :
    Startable requires on xs ↔
      ∀ pre x post, xs = pre ++ x :: post → ∀ b, requires x b → b ∈ on ∨ b ∈ pre := by
  induction xs generalizing on with
  | nil =>
    refine iff_of_true trivial fun pre x post h => ?_
    cases pre <;> cases h
  | cons a xs ih =>
    rw [Startable, ih]
    constructor
    · rintro ⟨hhead, htail⟩ pre x post h b hb
      cases pre with
      | nil =>
        obtain ⟨rfl, -⟩ := List.cons.inj h
        exact .inl (hhead b hb)
      | cons p pre =>
        obtain ⟨rfl, hxs⟩ := List.cons.inj h
        rcases htail pre x post hxs b hb with hon | hpre
        · rcases Set.mem_insert_iff.1 hon with rfl | hon
          · exact .inr List.mem_cons_self
          · exact .inl hon
        · exact .inr (List.mem_cons_of_mem _ hpre)
    · intro h
      refine ⟨fun b hb => ?_, fun pre x post hxs b hb => ?_⟩
      · exact (h [] a xs rfl b hb).resolve_right List.not_mem_nil
      · rcases h (a :: pre) x post (by rw [hxs, List.cons_append]) b hb with hon | hpre
        · exact .inl (Set.mem_insert_of_mem a hon)
        · rcases List.mem_cons.1 hpre with rfl | hpre
          · exact .inl (Set.mem_insert b on)
          · exact .inr hpre

theorem startable_append {on : Set α} {xs ys : List α} :
    Startable requires on (xs ++ ys) ↔ Startable requires on xs ∧ Startable requires (on ∪ {a | a ∈ xs}) ys := by
  induction xs generalizing on with
  | nil => simp [Startable]
  | cons a xs ih =>
    rw [List.cons_append, Startable, Startable, ih, and_assoc]
    have hset : insert a on ∪ {b | b ∈ xs} = on ∪ {b | b ∈ a :: xs} := by
      ext b
      simp only [Set.mem_union, Set.mem_insert_iff, Set.mem_ofPred_eq, List.mem_cons]
      rw [or_assoc, or_left_comm]
    rw [hset]

/-- An element that comes up again changes nothing. -/
theorem startable_again_iff {on : Set α} {pre xs : List α} (hx : x ∈ pre) :
    Startable requires on (pre ++ x :: xs) ↔ Startable requires on (pre ++ xs) := by
  have hmem : x ∈ on ∪ {a | a ∈ pre} := .inr hx
  rw [startable_append, startable_append, Startable, Set.insert_eq_of_mem hmem]
  refine and_congr_right fun hpre => ⟨And.right, fun h => ⟨fun b hb => ?_, h⟩⟩
  obtain ⟨p, q, rfl⟩ := List.append_of_mem hx
  rcases startable_iff.1 hpre p x q rfl b hb with hon | hp
  · exact .inl hon
  · exact .inr (List.mem_append_left _ hp)

/-- Leaving out what came up before changes nothing. -/
theorem startable_foldl_iff [DecidableEq α] {on : Set α} {acc xs : List α} :
    Startable requires on (xs.foldl (fun ordered x => if x ∈ ordered then ordered else ordered ++ [x]) acc) ↔
      Startable requires on (acc ++ xs) := by
  induction xs generalizing acc with
  | nil => rw [List.foldl_nil, List.append_nil]
  | cons x xs ih =>
    rw [List.foldl_cons, ih]
    split
    · rename_i hx
      exact (startable_again_iff hx).symm
    · rw [List.append_assoc, List.singleton_append]

end Dependency
