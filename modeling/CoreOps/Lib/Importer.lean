import CoreOps.Lib.CheckedLoops
import CoreOps.Lib.Table

/-! Importing the entries of a list, but for those that are there already. An importer says
which entries it knows among the rows there are, and writes the rows of an entry it does
not know. Where it knows an entry once it has written it, importing a list again does
nothing. -/

namespace Table

variable {ι α : Type*} [DecidableEq ι]

/-- Write the row under `k`, whether or not there is one. -/
def put (t : Table ι α) (k : ι) (v : α) : Table ι α := (t.insert k v).modify k fun _ => v

theorem get?_put_self (t : Table ι α) (k : ι) (v : α) : (t.put k v).get? k = some v := by
  rw [put, get?_modify_self, get?_insert, if_pos rfl]
  rfl

/-- Writing the row that is there. -/
theorem put_eq_self {t : Table ι α} {k : ι} {v : α} (h : t.get? k = some v) : t.put k v = t := by
  have hinsert : t.insert k v = t := by
    unfold insert
    exact dif_pos (not_not.1 fun hk => by rw [get?_eq_none.2 hk] at h; cases h)
  rw [put, hinsert]
  exact modify_eq_self fun w hw => Option.some.inj (h.symm.trans hw)

end Table

/-- Entries `ι` imported into rows `σ`. -/
structure Importer (ε σ ι : Type) where
  known : σ → ι → Except ε Bool
  create : σ → ι → Except ε σ

namespace Importer

open Checked

variable {ε σ ι : Type} (I : Importer ε σ ι)

/-- One entry, after `acc`: the rows, and the entries that were created. -/
def step (acc : σ × List ι) (x : ι) : Except ε (σ × List ι) := do
  match ← I.known acc.1 x with
  | true => return acc
  | false =>
    let rows ← I.create acc.1 x
    return (rows, acc.2 ++ [x])

def run (xs : List ι) (rows : σ) : Except ε (σ × List ι) := xs.foldlM I.step (rows, [])

variable {I}

theorem step_ok {acc acc' : σ × List ι} {x : ι} (h : I.step acc x = .ok acc') :
    I.known acc.1 x = .ok true ∧ acc' = acc ∨
      I.known acc.1 x = .ok false ∧ ∃ rows, I.create acc.1 x = .ok rows ∧ acc' = (rows, acc.2 ++ [x]) := by
  rw [step, bind_eq_ok] at h
  obtain ⟨known, hknown, h⟩ := h
  cases known with
  | true => exact .inl ⟨hknown, (pure_eq_ok.1 h).symm⟩
  | false =>
    rw [bind_eq_ok] at h
    obtain ⟨rows, hrows, h⟩ := h
    exact .inr ⟨hknown, rows, hrows, (pure_eq_ok.1 h).symm⟩

theorem step_known {acc : σ × List ι} {x : ι} (h : I.known acc.1 x = .ok true) : I.step acc x = .ok acc := by
  rw [step, h]
  rfl

/-- An entry is known from the moment it is created: those with a key at least, and no
other entry becomes unknown. -/
structure Keyed (I : Importer ε σ ι) (keyed : ι → Prop) : Prop where
  created : ∀ {rows rows' x}, keyed x → I.create rows x = .ok rows' → I.known rows' x = .ok true
  kept : ∀ {rows rows' x y}, I.known rows x = .ok false → I.create rows x = .ok rows' → I.known rows y = .ok true →
    I.known rows' y = .ok true

variable {keyed : ι → Prop} {xs created : List ι} {rows rows' : σ}

/-- Importing entries with keys again. -/
theorem Keyed.run_again (hI : I.Keyed keyed) (hkeyed : ∀ x ∈ xs, keyed x) (h : I.run xs rows = .ok (rows', created)) :
    I.run xs rows' = .ok (rows', []) := by
  have hall : ∀ x ∈ xs, I.known rows' x = .ok true := by
    refine foldlM_all (P := fun (acc : σ × List ι) x => I.known acc.1 x = .ok true) ?_ ?_ h
    · intro acc x hx acc' hstep
      rcases step_ok hstep with ⟨hknown, rfl⟩ | ⟨-, rows, hcreate, rfl⟩
      · exact hknown
      · exact hI.created (hkeyed x hx) hcreate
    · intro acc x acc' y hstep hy
      rcases step_ok hstep with ⟨-, rfl⟩ | ⟨hunknown, rows, hcreate, rfl⟩
      · exact hy
      · exact hI.kept hunknown hcreate hy
  exact foldlM_eq_self fun x hx => step_known (hall x hx)

/-- An entry is known when the row under its key is there. -/
def ofTable {κ α : Type} [DecidableEq κ] (keyOf : ι → Except ε κ) (table : σ → Table κ α) (create : σ → ι → Except ε σ) :
    Importer ε σ ι where
  known rows x := do
    let key ← keyOf x
    return ((table rows).get? key).isSome
  create := create

theorem known_ofTable {κ α : Type} [DecidableEq κ] {keyOf : ι → Except ε κ} {table : σ → Table κ α}
    {create : σ → ι → Except ε σ} {x : ι} {b : Bool} :
    (ofTable keyOf table create).known rows x = .ok b ↔
      ∃ key, keyOf x = .ok key ∧ ((table rows).get? key).isSome = b := by
  simp only [ofTable, bind_eq_ok, pure_eq_ok]

/-- Entries that each insert the row under their key. -/
theorem keyed_ofTable {κ α : Type} [DecidableEq κ] {keyOf : ι → Except ε κ} {table : σ → Table κ α}
    {create : σ → ι → Except ε σ}
    (hcreate : ∀ {rows x rows'}, create rows x = .ok rows' →
      ∃ key row, keyOf x = .ok key ∧ table rows' = (table rows).insert key row) :
    (ofTable keyOf table create).Keyed fun _ => True where
  created _ h := by
    obtain ⟨key, row, hkey, htable⟩ := hcreate h
    refine known_ofTable.2 ⟨key, hkey, ?_⟩
    rw [htable, Table.get?_insert, if_pos rfl]
    rfl
  kept := by
    intro rows rows' x y hunknown h hy
    obtain ⟨key, row, -, htable⟩ := hcreate h
    obtain ⟨key', hkey', hsome⟩ := known_ofTable.1 hy
    refine known_ofTable.2 ⟨key', hkey', ?_⟩
    rw [htable, Table.get?_insert]
    split
    · rfl
    · exact hsome

theorem size_step {size : σ → ℕ} (hsize : ∀ rows x rows', I.create rows x = .ok rows' → size rows < size rows')
    {acc acc' : σ × List ι} {x : ι} (h : I.step acc x = .ok acc') : size acc.1 ≤ size acc'.1 := by
  rcases step_ok h with ⟨-, rfl⟩ | ⟨-, rows, hcreate, rfl⟩
  · exact Nat.le_refl _
  · exact Nat.le_of_lt (hsize _ _ _ hcreate)

/-- An entry that is never known adds rows each time. -/
theorem size_run {size : σ → ℕ} (hsize : ∀ rows x rows', I.create rows x = .ok rows' → size rows < size rows') {x : ι}
    (hx : x ∈ xs) (hnever : ∀ rows, I.known rows x ≠ .ok true) (h : I.run xs rows = .ok (rows', created)) :
    size rows < size rows' := by
  obtain ⟨pre, post, rfl⟩ := List.append_of_mem hx
  simp only [run, List.foldlM_append, List.foldlM_cons, bind_eq_ok] at h
  obtain ⟨acc₁, h₁, acc₂, h₂, h₃⟩ := h
  have hmono : ∀ {ys : List ι} {acc acc' : σ × List ι}, ys.foldlM I.step acc = .ok acc' → size acc.1 ≤ size acc'.1 :=
    fun {_ acc _} => foldlM_invariant (fun acc' : σ × List ι => size acc.1 ≤ size acc'.1)
      (fun _ _ _ _ hb hstep => Nat.le_trans hb (size_step hsize hstep)) (Nat.le_refl _)
  have hle₁ := hmono h₁
  have hle₃ := hmono h₃
  rcases step_ok h₂ with ⟨hknown, -⟩ | ⟨-, rows₂, hcreate, rfl⟩
  · exact absurd hknown (hnever _)
  · have hlt := hsize _ _ _ hcreate
    dsimp only at hle₁ hle₃
    omega

end Importer
