import CoreOps.Lib.Runs
import CoreOps.Lib.Table

/-! Two laws of a table over time: a unique index that some rows may be left out of, and
a relation that every row keeps with what it was. -/

namespace Table

variable {ι α κ σ β : Type*} [DecidableEq ι]

/-- The index entry of `v` is that of another row than `k`. -/
def Taken (t : Table ι α) (entry : α → Option κ) (k : ι) (v : α) : Prop :=
  entry v ≠ none ∧ ∃ r ∈ t.rows, r.1 ≠ k ∧ entry r.2 = entry v

instance [DecidableEq κ] (t : Table ι α) (entry : α → Option κ) (k : ι) (v : α) : Decidable (t.Taken entry k v) :=
  inferInstanceAs (Decidable (_ ∧ _))

/-- No two rows have the same entry. -/
def UniqueOn (entry : α → Option κ) (t : Table ι α) : Prop :=
  ∀ j k v w, t.get? j = some v → t.get? k = some w → entry v ≠ none → entry v = entry w → j = k

/-- Every row is still there, and is to what it was as `R` says. -/
def Evolves (R : α → α → Prop) (t t' : Table ι α) : Prop :=
  ∀ k v, t.get? k = some v → ∃ v', t'.get? k = some v' ∧ R v v'

section Unique

variable {t : Table ι α} {entry : α → Option κ} {k : ι} {v : α} {f : α → α}

theorem not_taken_of_get? (h : ¬ t.Taken entry k v) {j : ι} {w : α} (hj : t.get? j = some w) (hne : j ≠ k)
    (hv : entry v ≠ none) : entry w ≠ entry v :=
  fun heq => h ⟨hv, (j, w), mem_rows.2 hj, hne, heq⟩

theorem uniqueOn_empty : UniqueOn entry (∅ : Table ι α) := by
  intro j k v w hj
  cases hj

/-- A row takes no entry of another's by keeping its own. -/
theorem UniqueOn.not_taken (hu : UniqueOn entry t) (hk : t.get? k = some v) {v' : α} (h : entry v' = entry v) :
    ¬ t.Taken entry k v' := by
  rintro ⟨hv', ⟨j, w⟩, hj, hne, hw⟩
  exact hne (hu j k w v (mem_rows.1 hj) hk (hw ▸ hv') (hw.trans h))

/-- A row takes no entry of another's when a search for the entry finds no other row. -/
theorem UniqueOn.not_taken_of_find? (hu : UniqueOn entry t) {p : ι × α → Bool}
    (hp : entry v ≠ none → ∀ r, p r = true ↔ entry r.2 = entry v)
    (h : entry v ≠ none → ∀ r ∈ t.rows.find? p, r.1 = k) : ¬ t.Taken entry k v := by
  rintro ⟨hv, ⟨j, w⟩, hj, hne, hw⟩
  have hpj : p (j, w) = true := (hp hv (j, w)).2 hw
  cases hfind : t.rows.find? p with
  | none => exact List.find?_eq_none.1 hfind (j, w) hj hpj
  | some r =>
    have hr : entry r.2 = entry v := (hp hv r).1 (List.find?_some hfind)
    have hmem := List.mem_of_find?_eq_some hfind
    exact hne ((hu j r.1 w r.2 (mem_rows.1 hj) (mem_rows.1 hmem) (hw ▸ hv) (hw.trans hr.symm)).trans (h hv r hfind))

theorem UniqueOn.insert (hu : UniqueOn entry t) (h : ¬ t.Taken entry k v) : UniqueOn entry (t.insert k v) := by
  intro i j x y hi hj hx hxy
  rw [get?_insert] at hi hj
  by_cases hold : t.get? k = none
  · rw [hold, Option.getD_none] at hi hj
    split at hi <;> split at hj
    · rename_i hik hjk
      exact hik.trans hjk.symm
    · rename_i hik hjk
      obtain rfl := Option.some.inj hi
      exact absurd hxy.symm (not_taken_of_get? h hj hjk hx)
    · rename_i hik hjk
      obtain rfl := Option.some.inj hj
      exact absurd hxy (not_taken_of_get? h hi hik (hxy ▸ hx))
    · exact hu i j x y hi hj hx hxy
  · obtain ⟨w, hw⟩ := Option.ne_none_iff_exists'.1 hold
    have hsame : ∀ j, (if j = k then some ((t.get? k).getD v) else t.get? j) = t.get? j := by
      intro j
      split
      · rename_i hjk
        rw [hjk, hw, Option.getD_some]
      · rfl
    rw [hsame] at hi hj
    exact hu i j x y hi hj hx hxy

theorem UniqueOn.modify (hu : UniqueOn entry t) (h : ∀ v, t.get? k = some v → ¬ t.Taken entry k (f v)) :
    UniqueOn entry (t.modify k f) := by
  intro i j x y hi hj hx hxy
  rw [get?_modify] at hi hj
  split at hi <;> split at hj
  · rename_i hik hjk
    exact hik.trans hjk.symm
  · rename_i hik hjk
    obtain ⟨v, hv, rfl⟩ := Option.map_eq_some_iff.1 hi
    exact absurd hxy.symm (not_taken_of_get? (h v (hik ▸ hv)) hj hjk hx)
  · rename_i hik hjk
    obtain ⟨v, hv, rfl⟩ := Option.map_eq_some_iff.1 hj
    exact absurd hxy (not_taken_of_get? (h v (hjk ▸ hv)) hi hik (hxy ▸ hx))
  · exact hu i j x y hi hj hx hxy

/-- Rows that leave the index leave it unique. -/
theorem UniqueOn.mapRows (hu : UniqueOn entry t) {f : ι → α → α}
    (h : ∀ k v, t.get? k = some v → entry (f k v) = none ∨ entry (f k v) = entry v) : UniqueOn entry (t.mapRows f) := by
  intro i j x y hi hj hx hxy
  rw [get?_mapRows] at hi hj
  obtain ⟨v, hv, rfl⟩ := Option.map_eq_some_iff.1 hi
  obtain ⟨w, hw, rfl⟩ := Option.map_eq_some_iff.1 hj
  have hvx := (h i v hv).resolve_left hx
  have hwy := (h j w hw).resolve_left (hxy ▸ hx)
  exact hu i j v w hv hw (hvx ▸ hx) (by rw [← hvx, hxy, hwy])

end Unique

section Evolution

variable {R : α → α → Prop} {t t' t'' : Table ι α} {k : ι} {v : α} {f : α → α}

theorem Evolves.refl (hR : ∀ v, R v v) : Evolves R t t := fun _ v h => ⟨v, h, hR v⟩

theorem Evolves.trans (hR : ∀ u v w, R u v → R v w → R u w) (h : Evolves R t t') (h' : Evolves R t' t'') :
    Evolves R t t'' := by
  intro k u hu
  obtain ⟨v, hv, huv⟩ := h k u hu
  obtain ⟨w, hw, hvw⟩ := h' k v hv
  exact ⟨w, hw, hR u v w huv hvw⟩

theorem evolves_insert (hR : ∀ v, R v v) (h : t.get? k = none) : Evolves R t (t.insert k v) := by
  intro j w hw
  refine ⟨w, ?_, hR w⟩
  rw [get?_insert_new _ _ _ h, if_neg, hw]
  rintro rfl
  rw [h] at hw
  cases hw

theorem evolves_modify (hR : ∀ v, R v v) (h : ∀ v, t.get? k = some v → R v (f v)) : Evolves R t (t.modify k f) := by
  intro j w hw
  by_cases hj : j = k
  · subst hj
    exact ⟨f w, by rw [get?_modify_self, hw, Option.map_some], h w hw⟩
  · exact ⟨w, by rw [get?_modify_of_ne _ hj, hw], hR w⟩

/-- A relation that every accepted call keeps is kept by a run. -/
theorem evolves_calls {ε : Type*} {exec : σ → β → Except ε σ} {table : σ → Table ι α} {s s' : σ} {evs : List β}
    (hrefl : ∀ v, R v v) (htrans : ∀ u v w, R u v → R v w → R u w)
    (hs : ∀ s a s', exec s a = .ok s' → Evolves R (table s) (table s')) (h : Run (CallStep exec) s evs s') :
    Evolves R (table s) (table s') :=
  h.invariant_calls (fun s' => Evolves R (table s) (table s')) (.refl hrefl) fun _ _ _ hI hok =>
    hI.trans htrans (hs _ _ _ hok)

end Evolution

end Table
