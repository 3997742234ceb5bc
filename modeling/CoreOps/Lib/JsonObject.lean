import Mathlib.Data.List.Induction
import Mathlib.Data.List.Nodup
import Mathlib.Data.Rat.Defs
import CoreOps.Lib.JsonText

/-! Objects as documents of their own: a dictionary of texts to documents, with what the
program reads off its members. An object's text reads as the object. -/

namespace Json

/-- The number a float literal is. -/
def literalValue (x : FloatLiteral) : ℚ :=
  let digits := (x.fraction.foldl (fun n d => 10 * n + d.val) 0 : ℕ)
  let magnitude := x.whole + (digits : ℚ) / 10 ^ x.fraction.length
  (if x.negative then -magnitude else magnitude) * (10 : ℚ) ^ (x.exponent.getD 0)

/-- The number a value is compared as. -/
def number? : Json → Option ℚ
  | .bool b => some (if b then 1 else 0)
  | .int n => some n
  | .float x => some (literalValue x)
  | _ => none

/-- The truth value of a document. -/
def truthy : Json → Bool
  | .null => false
  | .str s => s ≠ ""
  | .arr items => ¬ items.isEmpty
  | .obj members => ¬ members.isEmpty
  | j => j.number? ≠ some 0

/-- `a or b`, where `a` is what a key gives. -/
def orElse (a b : Option Json) : Option Json := if a.any truthy then a else b

end Json

structure JsonObject where
  members : List (String × Json)
  canonical : Json.Canonical (.obj members)

namespace JsonObject

open Json

instance : EmptyCollection JsonObject := ⟨⟨[], .obj List.Pairwise.nil fun _ hm => nomatch hm⟩⟩

@[ext] theorem ext_members {o o' : JsonObject} (h : o.members = o'.members) : o = o' := by
  obtain ⟨ms, hms⟩ := o
  obtain ⟨ms', hms'⟩ := o'
  subst h
  rfl

/-- The object with the pairs of a display `{...}`. -/
def ofList (pairs : List (String × Json)) (h : ∀ m ∈ pairs, Canonical m.2) : JsonObject :=
  ⟨ofPairs pairs, ofPairs_canonical h⟩

def get? (o : JsonObject) (k : String) : Option Json := o.members.lookup k

theorem canonical_of_get? {o : JsonObject} {k : String} {v : Json} (h : o.get? k = some v) : Canonical v := by
  obtain ⟨ms, hms⟩ := o
  have hmem : (k, v) ∈ ms := by
    obtain ⟨l₁, l₂, hsplit, -⟩ := List.lookup_eq_some_iff.1 h
    rw [show ms = l₁ ++ (k, v) :: l₂ from hsplit]
    simp
  cases hms with
  | obj _ hall => exact hall _ hmem

/-- The object a key gives, if it gives one. -/
def object? (o : JsonObject) (k : String) : Option JsonObject :=
  match h : o.get? k with
  | some (.obj members) => some ⟨members, canonical_of_get? h⟩
  | _ => none

theorem object?_of_get? {o o' : JsonObject} {k : String} (h : o.get? k = some (.obj o'.members)) :
    o.object? k = some o' := by
  unfold object?
  split
  · rename_i members hmembers
    rw [h] at hmembers
    obtain rfl := Json.obj.inj (Option.some.inj hmembers)
    rfl
  · rename_i hnone
    exact absurd h (hnone _)

def set (o : JsonObject) (k : String) (v : Json) (hv : Canonical v) : JsonObject where
  members := setMember k v o.members
  canonical := by
    obtain ⟨ms, hms⟩ := o
    cases hms with
    | obj hkeys hall =>
      refine .obj (setMember_sorted v hkeys) fun m hm => ?_
      rcases mem_setMember hm with rfl | hm
      · exact hv
      · exact hall m hm

theorem lookup_cons_if {α : Type} (j : String) (m : String × α) (ms : List (String × α)) :
    (m :: ms).lookup j = if j = m.1 then some m.2 else ms.lookup j := by
  by_cases h : j = m.1
  · rw [if_pos h, h, List.lookup_cons_self]
  · rw [if_neg h, List.lookup_cons, beq_false_of_ne h]

theorem lookup_setMember {α : Type} (k j : String) (v : α) (ms : List (String × α)) :
    (setMember k v ms).lookup j = if j = k then some v else ms.lookup j := by
  induction ms with
  | nil => rw [setMember, lookup_cons_if]
  | cons m ms ih =>
    unfold setMember
    split_ifs with h₁ h₂ h₃ h₃ h₃
    · rw [lookup_cons_if, if_pos h₂]
    · rw [lookup_cons_if, if_neg h₂]
    · rw [lookup_cons_if, if_pos h₃]
    · rw [lookup_cons_if, if_neg h₃, lookup_cons_if, if_neg fun h => h₃ (h.trans ‹k = m.1›.symm)]
    · rw [lookup_cons_if, if_neg fun h => ‹¬ k = m.1› (h₃ ▸ h), ih, if_pos h₃]
    · rw [lookup_cons_if, lookup_cons_if, ih, if_neg h₃]

@[simp] theorem get?_set (o : JsonObject) (k j : String) {v : Json} (hv : Canonical v) :
    (o.set k v hv).get? j = if j = k then some v else o.get? j := lookup_setMember k j v o.members

/-- The last pair of a key is the one that counts. -/
theorem lookup_ofPairs {α : Type} (k : String) (pairs : List (String × α)) :
    (ofPairs pairs).lookup k = pairs.reverse.lookup k := by
  induction pairs using List.reverseRecOn with
  | nil => rfl
  | append_singleton pairs m ih =>
    rw [ofPairs, List.foldl_append, List.foldl_cons, List.foldl_nil, lookup_setMember, List.reverse_append,
      List.reverse_singleton, List.singleton_append, lookup_cons_if, ← ih, ofPairs]

theorem lookup_ext {α : Type} {pairs pairs' : List (String × α)} (hkeys : pairs.map Prod.fst = pairs'.map Prod.fst)
    (hnodup : (pairs.map Prod.fst).Nodup) (h : ∀ k, pairs.lookup k = pairs'.lookup k) : pairs = pairs' := by
  induction pairs generalizing pairs' with
  | nil => exact (List.map_eq_nil_iff.1 hkeys.symm).symm
  | cons m ms ih =>
    cases pairs' with
    | nil => cases hkeys
    | cons m' ms' =>
      obtain ⟨hkey, hkeys⟩ := List.cons.inj hkeys
      obtain ⟨hnew, hnodup⟩ := List.nodup_cons.1 hnodup
      have hnone {k : String} {l : List (String × α)} (hk : k ∉ l.map Prod.fst) : l.lookup k = none := by
        rw [List.lookup_eq_none_iff]
        intro p hp
        exact bne_iff_ne.2 fun heq => hk (heq ▸ List.mem_map_of_mem hp)
      have hvalue := h m.1
      rw [lookup_cons_if, if_pos rfl, lookup_cons_if, if_pos hkey] at hvalue
      have htail : ms = ms' := ih hkeys hnodup fun k => by
        by_cases hk : k = m.1
        · rw [hk, hnone hnew, hnone (hkeys ▸ hnew)]
        · have hrest := h k
          rwa [lookup_cons_if, if_neg hk, lookup_cons_if, if_neg fun hk' => hk (hk'.trans hkey.symm)] at hrest
      rw [htail, Prod.ext hkey (Option.some.inj hvalue)]

/-- Objects written from the same keys are equal when they were given the same values. -/
theorem ofPairs_inj {α : Type} {pairs pairs' : List (String × α)}
    (hkeys : pairs.map Prod.fst = pairs'.map Prod.fst) (hnodup : (pairs.map Prod.fst).Nodup)
    (h : ofPairs pairs = ofPairs pairs') : pairs = pairs' := by
  refine List.reverse_injective (lookup_ext ?_ ?_ fun k => ?_)
  · rw [List.map_reverse, List.map_reverse, hkeys]
  · rw [List.map_reverse]
    exact List.nodup_reverse.2 hnodup
  · rw [← lookup_ofPairs, ← lookup_ofPairs, h]

theorem mem_of_mem_ofPairs {α : Type} {m : String × α} {pairs : List (String × α)} (h : m ∈ ofPairs pairs) :
    m ∈ pairs := by
  induction pairs using List.reverseRecOn with
  | nil => exact h
  | append_singleton pairs m' ih =>
    rw [ofPairs, List.foldl_append, List.foldl_cons, List.foldl_nil] at h
    rcases mem_setMember h with rfl | h
    · exact List.mem_append_right _ List.mem_cons_self
    · exact List.mem_append_left _ (ih h)

theorem get?_ofList {pairs : List (String × Json)} (h : ∀ m ∈ pairs, Canonical m.2) (k : String) :
    (ofList pairs h).get? k = pairs.reverse.lookup k := lookup_ofPairs k pairs

/-- `json.dumps` of the object. -/
def text (f : Format) (o : JsonObject) : List Char := dumps f (.obj o.members)

/-- `json.loads`, if the text is that of an object. -/
def ofText? (text : List Char) : Option JsonObject :=
  match h : loads text with
  | some (.obj members) => some ⟨members, loads_canonical h⟩
  | _ => none

@[simp] theorem ofText?_text (f : Format) (o : JsonObject) : ofText? (o.text f) = some o := by
  have hloads : loads (o.text f) = some (.obj o.members) := loads_dumps f o.canonical
  unfold ofText?
  split
  · rename_i members h
    rw [hloads] at h
    cases h
    rfl
  · rename_i h
    exact absurd hloads (h _)

end JsonObject
