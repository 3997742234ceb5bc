import Mathlib.Data.List.Nodup

/-! Documents numbered by how many there are: the next one of a group is given the
number of the count plus one, in the period that is current. Numbers given so are
distinct as long as no document of the group has a number the count is yet to reach. -/

namespace Numbering

/-- A number with at least `w` digits. -/
def padded (w n : ℕ) : String := String.ofList (List.replicate (w - (toString n).length) '0') ++ toString n

/-- The number of the `k`-th document in a period. -/
def labelled (label : String) (w period k : ℕ) : String := label ++ toString period ++ "-" ++ padded w k

section Format

theorem toList_padded (w n : ℕ) :
    (padded w n).toList = List.replicate (w - (toString n).length) '0' ++ Nat.toDigits 10 n := by
  simp [padded]

theorem padded_injective {w n m : ℕ} (h : padded w n = padded w m) : n = m := by
  have hlist := congrArg String.toList h
  rw [toList_padded, toList_padded] at hlist
  have hvalue := congrArg (fun ds => Nat.ofDigitChars 10 ds 0) hlist
  simpa [Nat.ofDigitChars_append] using hvalue

theorem dash_notMem_toDigits (n : ℕ) : '-' ∉ Nat.toDigits 10 n := by
  intro h
  have hdigit := Nat.isDigit_of_mem_toDigits (by omega) (by omega) h
  revert hdigit
  decide

theorem dash_notMem_padded (w n : ℕ) : '-' ∉ (padded w n).toList := by
  rw [toList_padded, List.mem_append]
  rintro (h | h)
  · cases List.eq_of_mem_replicate h
  · exact dash_notMem_toDigits n h

/-- Neither the period nor the count has a dash, so the one between them tells them apart. -/
theorem labelled_injective {label : String} {w period period' k k' : ℕ}
    (h : labelled label w period k = labelled label w period' k') : k = k' := by
  have hsplit : ∀ p n, (labelled label w p n).toList =
      label.toList ++ (Nat.toDigits 10 p ++ '-' :: (padded w n).toList) := by
    intro p n
    simp [labelled, List.append_assoc]
  have hlist := congrArg String.toList h
  rw [hsplit, hsplit] at hlist
  have hrest := List.append_cancel_left hlist
  obtain ⟨-, -, hpadded⟩ := (List.append_cons_inj_of_notMem (dash_notMem_toDigits period)
    (dash_notMem_padded w k)).1 hrest
  exact padded_injective (String.toList_inj.1 hpadded)

end Format

variable {G N P : Type*} [DecidableEq G]

/-- The documents of a group, each given by its group and its number. -/
def count (docs : List (G × N)) (g : G) : ℕ := (docs.filter fun d => d.1 = g).length

/-- The format tells the counts of its numbers apart. -/
def Separates (format : P → ℕ → N) : Prop := ∀ p p' k k', format p k = format p' k' → k = k'

/-- No two documents of a group have one number, and none has a number that the count
is yet to reach. -/
structure InOrder (format : P → ℕ → N) (docs : List (G × N)) : Prop where
  distinct : docs.Nodup
  reached : ∀ d ∈ docs, ∀ p k, d.2 = format p k → k ≤ count docs d.1

variable {format : P → ℕ → N} {docs : List (G × N)} {g : G} {x : N}

theorem inOrder_nil : InOrder format ([] : List (G × N)) := ⟨List.nodup_nil, fun _ hd => nomatch hd⟩

theorem count_append (g' : G) : count (docs ++ [(g, x)]) g' = count docs g' + if g = g' then 1 else 0 := by
  unfold count
  rw [List.filter_append, List.length_append]
  by_cases h : g = g' <;> simp [h]

/-- A document with a number that is not in use and not ahead of the count. -/
theorem InOrder.append (h : InOrder format docs) (hnew : (g, x) ∉ docs)
    (hreached : ∀ p k, x = format p k → k ≤ count docs g + 1) : InOrder format (docs ++ [(g, x)]) := by
  refine ⟨List.nodup_append.2 ⟨h.distinct, List.nodup_singleton _, ?_⟩, fun d hd p k hk => ?_⟩
  · rintro d hd e he rfl
    rw [List.mem_singleton.1 he] at hd
    exact hnew hd
  · rw [count_append]
    rcases List.mem_append.1 hd with hd | hd
    · have := h.reached d hd p k hk
      omega
    · rw [List.mem_singleton] at hd
      subst hd
      have := hreached p k hk
      rw [if_pos rfl]
      exact this

/-- The number after the count is not in use. -/
theorem InOrder.next (h : InOrder format docs) (hf : Separates format) (g : G) (p : P) :
    InOrder format (docs ++ [(g, format p (count docs g + 1))]) := by
  refine h.append (fun hmem => ?_) fun p' k hk => ?_
  · have hle := h.reached _ hmem p _ rfl
    simp only at hle
    omega
  · have := hf _ _ _ _ hk
    omega

end Numbering
