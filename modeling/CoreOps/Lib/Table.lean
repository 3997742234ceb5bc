import Mathlib.Data.List.Nodup
import Mathlib.Data.List.Basic
import Mathlib.Data.List.Flatten
import Mathlib.Data.List.MinMax

/-! A database table as the services see it: rows under a primary key, in
insertion order, updated in place. The key constraint is a field, so no
operation can build a table with two rows under one key. `get?` determines a
table's content; the lemmas describe every other operation through it. -/

/-- Rows of type `α` under distinct keys of type `ι`. -/
structure Table (ι α : Type*) where
  rows : List (ι × α)
  nodup : (rows.map Prod.fst).Nodup

namespace Table

variable {ι α β : Type*}

instance : EmptyCollection (Table ι α) := ⟨⟨[], List.nodup_nil⟩⟩

instance : Inhabited (Table ι α) := ⟨∅⟩

@[simp] theorem rows_empty : (∅ : Table ι α).rows = [] := rfl

@[ext] theorem ext_rows {t u : Table ι α} (h : t.rows = u.rows) : t = u := by
  cases t; cases u; cases h; rfl

section Keyed

variable [DecidableEq ι]

/-- The row stored under `k`. -/
def get? (t : Table ι α) (k : ι) : Option α := t.rows.lookup k

/-- Rewrite the row under `k`, if there is one. -/
def modify (t : Table ι α) (k : ι) (f : α → α) : Table ι α where
  rows := t.rows.map fun r => if r.1 = k then (r.1, f r.2) else r
  nodup := by
    have h : (t.rows.map fun r => if r.1 = k then (r.1, f r.2) else r).map Prod.fst =
        t.rows.map Prod.fst := by
      rw [List.map_map]
      refine List.map_congr_left fun r _ => ?_
      by_cases hr : r.1 = k <;> simp [hr]
    rw [h]; exact t.nodup

/-- Rewrite every row with its key at hand, keeping the keys. -/
def mapRows (t : Table ι α) (f : ι → α → α) : Table ι α where
  rows := t.rows.map fun r => (r.1, f r.1 r.2)
  nodup := by simpa [List.map_map, Function.comp_def] using t.nodup

/-- Append a row; an existing key leaves the table alone (the primary key
refuses the insert, which callers test with `get?` first). -/
def insert (t : Table ι α) (k : ι) (v : α) : Table ι α :=
  if h : k ∈ t.rows.map Prod.fst then t
  else
    { rows := t.rows ++ [(k, v)]
      nodup := by
        rw [List.map_append, List.nodup_append]
        refine ⟨t.nodup, by simp, ?_⟩
        rintro a ha b hb rfl
        simp only [List.map_cons, List.map_nil, List.mem_singleton] at hb
        exact h (hb ▸ ha) }

/-- Drop the rows `p` rejects. -/
def filter (t : Table ι α) (p : ι → α → Bool) : Table ι α where
  rows := t.rows.filter fun r => p r.1 r.2
  nodup := t.nodup.sublist (List.filter_sublist.map _)

theorem mem_rows {t : Table ι α} {k : ι} {v : α} : (k, v) ∈ t.rows ↔ t.get? k = some v := by
  obtain ⟨rows, hnd⟩ := t
  unfold get?
  induction rows with
  | nil => simp
  | cons r rest ih =>
    rw [List.map_cons, List.nodup_cons] at hnd
    obtain ⟨j, w⟩ := r
    by_cases hk : k = j
    · subst hk
      have hout : (k, v) ∉ rest := fun h => hnd.1 (List.mem_map.2 ⟨_, h, rfl⟩)
      simp [hout, eq_comm]
    · have hb : (k == j) = false := by simpa using hk
      simp [List.lookup_cons, hb, hk, ← ih hnd.2]

theorem get?_eq_none {t : Table ι α} {k : ι} : t.get? k = none ↔ k ∉ t.rows.map Prod.fst := by
  simp only [get?, List.lookup_eq_none_iff, List.mem_map, bne_iff_ne, not_exists, not_and]
  exact ⟨fun h r hr he => h r hr he.symm, fun h r hr he => h r hr he.symm⟩

@[simp] theorem get?_empty (k : ι) : (∅ : Table ι α).get? k = none := rfl

theorem get?_modify (t : Table ι α) (k j : ι) (f : α → α) :
    (t.modify k f).get? j = if j = k then (t.get? j).map f else t.get? j := by
  obtain ⟨rows, hnd⟩ := t
  simp only [get?, modify]
  clear hnd
  induction rows with
  | nil => simp
  | cons r rest ih =>
    obtain ⟨i, w⟩ := r
    by_cases hj : j = i
    · subst hj
      by_cases hk : j = k <;> simp [hk]
    · have hb : (j == i) = false := by simpa using hj
      have hi : (if i = k then (i, f w) else (i, w)) = (i, if i = k then f w else w) := by
        split <;> rfl
      simpa only [List.map_cons, hi, List.lookup_cons, hb] using ih

@[simp] theorem get?_modify_self (t : Table ι α) (k : ι) (f : α → α) :
    (t.modify k f).get? k = (t.get? k).map f := by
  simp [get?_modify]

theorem get?_modify_of_ne (t : Table ι α) {k j : ι} (h : j ≠ k) (f : α → α) :
    (t.modify k f).get? j = t.get? j := by
  simp [get?_modify, h]

theorem get?_insert (t : Table ι α) (k j : ι) (v : α) :
    (t.insert k v).get? j = if j = k then some ((t.get? k).getD v) else t.get? j := by
  by_cases hk : k ∈ t.rows.map Prod.fst
  · have hs : t.get? k ≠ none := fun h => get?_eq_none.1 h hk
    obtain ⟨w, hw⟩ := Option.ne_none_iff_exists'.1 hs
    by_cases hj : j = k <;> simp [insert, hk, hj, hw]
  · have hn : t.rows.lookup k = none := get?_eq_none.2 hk
    by_cases hj : j = k
    · subst hj; simp [insert, hk, get?, List.lookup_append, hn]
    · have hb : (j == k) = false := by simpa using hj
      simp [insert, hk, get?, hj, List.lookup_append, List.lookup_cons, hb]

theorem get?_insert_new (t : Table ι α) {k : ι} (j : ι) (v : α) (h : t.get? k = none) :
    (t.insert k v).get? j = if j = k then some v else t.get? j := by
  simp [get?_insert, h]

theorem get?_mapRows (t : Table ι α) (f : ι → α → α) (j : ι) :
    (t.mapRows f).get? j = (t.get? j).map (f j) := by
  obtain ⟨rows, hnd⟩ := t
  simp only [get?, mapRows]
  clear hnd
  induction rows with
  | nil => rfl
  | cons r rest ih =>
    obtain ⟨i, w⟩ := r
    by_cases hj : j = i
    · subst hj; simp
    · have hb : (j == i) = false := by simpa using hj
      simpa [List.lookup_cons, hb] using ih

theorem modify_eq_mapRows (t : Table ι α) (k : ι) (f : α → α) :
    t.modify k f = t.mapRows fun j v => if j = k then f v else v := by
  refine ext_rows (List.map_congr_left fun r _ => ?_)
  by_cases hr : r.1 = k <;> simp [hr]

@[simp] theorem mapRows_mapRows (t : Table ι α) (f g : ι → α → α) :
    (t.mapRows f).mapRows g = t.mapRows fun k v => g k (f k v) := by
  refine ext_rows ?_
  simp only [mapRows, List.map_map, Function.comp_def]

theorem mapRows_congr {t : Table ι α} {f g : ι → α → α} (h : ∀ k v, t.get? k = some v → f k v = g k v) :
    t.mapRows f = t.mapRows g := by
  refine ext_rows (List.map_congr_left fun r hr => ?_)
  rw [h r.1 r.2 (mem_rows.1 hr)]

theorem get?_filter (t : Table ι α) (p : ι → α → Bool) (j : ι) :
    (t.filter p).get? j = (t.get? j).filter (p j) := by
  cases h : t.get? j with
  | none =>
    rw [Option.filter_none, get?_eq_none]
    intro hm
    obtain ⟨r, hr, rfl⟩ := List.mem_map.1 hm
    exact get?_eq_none.1 h (List.mem_map.2 ⟨r, (List.mem_filter.1 hr).1, rfl⟩)
  | some v =>
    cases hp : p j v with
    | true =>
      rw [Option.filter_some_pos hp]
      exact mem_rows.1 (List.mem_filter.2 ⟨mem_rows.2 h, hp⟩)
    | false =>
      rw [Option.filter_some_neg (by simp [hp]), get?_eq_none]
      intro hm
      obtain ⟨⟨i, w⟩, hr, rfl⟩ := List.mem_map.1 hm
      obtain ⟨hr, hpw⟩ := List.mem_filter.1 hr
      rw [mem_rows.1 hr, Option.some.injEq] at h
      subst h
      simp [hp] at hpw

/-- A fresh key appends its row at the end. -/
theorem rows_insert_new (t : Table ι α) {k : ι} (v : α) (h : t.get? k = none) :
    (t.insert k v).rows = t.rows ++ [(k, v)] := by
  simp only [insert, dif_neg (get?_eq_none.1 h)]

/-- Rows that were appended are new under their keys. -/
theorem modify_insert_new (t : Table ι α) {k : ι} (h : t.get? k = none) (v : α) (f : α → α) :
    (t.insert k v).modify k f = t.insert k (f v) := by
  refine ext_rows ?_
  rw [rows_insert_new _ _ h]
  simp only [modify, rows_insert_new _ _ h, List.map_append, List.map_cons, List.map_nil, if_true]
  have hrows : t.rows.map (fun r => if r.1 = k then (r.1, f r.2) else r) = t.rows := by
    refine (List.map_congr_left fun r hr => ?_).trans (List.map_id _)
    -- the key is not among the rows
    have hne : r.1 ≠ k := by
      rintro rfl
      exact get?_eq_none.1 h (List.mem_map.2 ⟨r, hr, rfl⟩)
    rw [if_neg hne]
    rfl
  rw [hrows]

theorem get?_append_new {t t' : Table ι α} {rows : List (ι × α)} (h : t'.rows = t.rows ++ rows) {k : ι} {v : α}
    (hmem : (k, v) ∈ rows) : t.get? k = none ∧ t'.get? k = some v := by
  refine ⟨get?_eq_none.2 fun hold => ?_, mem_rows.1 (h ▸ List.mem_append_right _ hmem)⟩
  have hnodup := t'.nodup
  rw [h, List.map_append, List.nodup_append] at hnodup
  exact hnodup.2.2 k hold k (List.mem_map.2 ⟨(k, v), hmem, rfl⟩) rfl

/-- What is new under its key was appended. -/
theorem mem_of_get?_new {t t' : Table ι α} {rows : List (ι × α)} (h : t'.rows = t.rows ++ rows) {k : ι} {v : α}
    (hnew : t.get? k = none) (hget : t'.get? k = some v) : (k, v) ∈ rows := by
  have hmem := mem_rows.2 hget
  rw [h] at hmem
  refine (List.mem_append.1 hmem).resolve_left fun hold => ?_
  rw [mem_rows.1 hold] at hnew
  cases hnew

/-- Without a check of its own, an insert under a taken key does nothing. -/
theorem rows_insert_cases (t : Table ι α) (k : ι) (v : α) :
    (t.insert k v).rows = t.rows ∨ (t.insert k v).rows = t.rows ++ [(k, v)] := by
  unfold insert
  split
  · exact .inl rfl
  · exact .inr rfl

/-- An update does not show in columns that it leaves alone in the row it changes. -/
theorem map_modify_of_get? (t : Table ι α) {k : ι} {f : α → α} (g : α → β)
    (h : ∀ v, t.get? k = some v → g (f v) = g v) :
    ((t.modify k f).rows.map fun r => g r.2) = t.rows.map fun r => g r.2 := by
  simp only [modify, List.map_map]
  refine List.map_congr_left fun r hr => ?_
  by_cases hk : r.1 = k
  · simp only [Function.comp_apply, if_pos hk]
    exact h r.2 (hk ▸ mem_rows.1 hr)
  · simp only [Function.comp_apply, if_neg hk]

/-- An update that leaves its row as it was leaves the table. -/
theorem modify_eq_self {t : Table ι α} {k : ι} {f : α → α} (h : ∀ v, t.get? k = some v → f v = v) :
    t.modify k f = t := by
  refine ext_rows ((List.map_congr_left fun r hr => ?_).trans (List.map_id _))
  by_cases hk : r.1 = k
  · rw [if_pos hk, h r.2 (hk ▸ mem_rows.1 hr)]
    rfl
  · rw [if_neg hk]
    rfl

theorem map_modify (t : Table ι α) (k : ι) {f : α → α} (g : α → β) (h : ∀ v, g (f v) = g v) :
    ((t.modify k f).rows.map fun r => g r.2) = t.rows.map fun r => g r.2 :=
  t.map_modify_of_get? g fun v _ => h v

theorem map_mapRows (t : Table ι α) {f : ι → α → α} (g : α → β) (h : ∀ k v, g (f k v) = g v) :
    ((t.mapRows f).rows.map fun r => g r.2) = t.rows.map fun r => g r.2 := by
  simp only [mapRows, List.map_map]
  exact List.map_congr_left fun r _ => h r.1 r.2

/-- An update does not show in a selection that leaves the row out before and after. -/
theorem filter_modify (t : Table ι α) {k : ι} {f : α → α} (p : ι × α → Bool)
    (h : ∀ v, t.get? k = some v → p (k, v) = false ∧ p (k, f v) = false) :
    (t.modify k f).rows.filter p = t.rows.filter p := by
  have hrows : ∀ r ∈ t.rows, r.1 = k → p r = false ∧ p (r.1, f r.2) = false := by
    rintro ⟨j, v⟩ hr rfl
    exact h v (mem_rows.1 hr)
  simp only [modify]
  revert hrows
  generalize t.rows = rows
  intro hrows
  induction rows with
  | nil => rfl
  | cons r rows ih =>
    have hrest := ih fun x hx => hrows x (List.mem_cons_of_mem _ hx)
    rw [List.map_cons, List.filter_cons, List.filter_cons, hrest]
    by_cases hk : r.1 = k
    · obtain ⟨hout, hout'⟩ := hrows r List.mem_cons_self hk
      rw [if_pos hk, hout, hout']
      rfl
    · rw [if_neg hk]

theorem filter_insert (t : Table ι α) {k : ι} {v : α} (p : ι × α → Bool) (h : p (k, v) = false) :
    (t.insert k v).rows.filter p = t.rows.filter p := by
  unfold insert
  split
  · rfl
  · simp [List.filter_append, h]

/-- What the rows yield shrinks when an update of one row makes its part shrink. -/
theorem flatMap_modify_sublist (t : Table ι α) (k : ι) (f : α → α) (g : α → List β)
    (h : ∀ v, t.get? k = some v → (g (f v)).Sublist (g v)) :
    ((t.modify k f).rows.flatMap fun r => g r.2).Sublist (t.rows.flatMap fun r => g r.2) := by
  simp only [modify, List.flatMap_map]
  refine List.Sublist.flatMap_right _ fun r hr => ?_
  split
  · rename_i hk
    subst hk
    exact h r.2 (mem_rows.1 hr)
  · exact List.Sublist.refl _

end Keyed

/-! Tables under numbers, where a new row takes a number of its own. -/

section Numbered

/-- A number above every key. -/
def freshKey (t : Table ℕ α) : ℕ := (t.rows.map Prod.fst).foldr max 0 + 1

theorem freshKey_notMem (t : Table ℕ α) : t.freshKey ∉ t.rows.map Prod.fst := by
  intro h
  have hle : t.freshKey ≤ (t.rows.map Prod.fst).foldr max 0 := List.le_max_of_le' 0 h le_rfl
  exact absurd hle (Nat.not_succ_le_self _)

theorem get?_freshKey (t : Table ℕ α) : t.get? t.freshKey = none := get?_eq_none.2 t.freshKey_notMem

/-- Append a row under a key of its own. -/
def add (t : Table ℕ α) (v : α) : Table ℕ α := t.insert t.freshKey v

theorem rows_add (t : Table ℕ α) (v : α) : (t.add v).rows = t.rows ++ [(t.freshKey, v)] :=
  rows_insert_new t v t.get?_freshKey

end Numbered

end Table
