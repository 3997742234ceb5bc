import Mathlib.Order.Interval.Set.Defs
import Mathlib.Data.List.Pairwise
import Mathlib.Data.Set.Basic

/-! Reservations of resources over half-open stretches of time: what it means that
no two of them clash, that at any instant a resource then belongs to at most one
of them, and how a clash-free list is extended and shrunk. -/

/-- The stretch `[start, stop)` of one resource. -/
structure Slot (ρ τ : Type*) where
  resource : ρ
  start : τ
  stop : τ

namespace Slot

variable {ρ τ : Type*} [LinearOrder τ]

/-- The instants a slot covers. -/
def span (a : Slot ρ τ) : Set τ := Set.Ico a.start a.stop

/-- Two slots of one resource that overlap. -/
def Clash (a b : Slot ρ τ) : Prop :=
  a.resource = b.resource ∧ a.start < b.stop ∧ b.start < a.stop

theorem Clash.symm {a b : Slot ρ τ} (h : a.Clash b) : b.Clash a :=
  ⟨h.1.symm, h.2.2, h.2.1⟩

/-- Slots that share an instant of one resource clash. -/
theorem clash_of_mem {a b : Slot ρ τ} {t : τ} (hr : a.resource = b.resource) (ha : t ∈ a.span)
    (hb : t ∈ b.span) : a.Clash b :=
  ⟨hr, ha.1.trans_lt hb.2, hb.1.trans_lt ha.2⟩

/-- No two of the slots clash. -/
def Free (slots : List (Slot ρ τ)) : Prop := slots.Pairwise fun a b => ¬ a.Clash b

theorem Free.sublist {slots slots' : List (Slot ρ τ)} (h : Free slots) (hs : slots'.Sublist slots) :
    Free slots' :=
  List.Pairwise.sublist hs h

/-- New slots that clash neither with one another nor with the old ones. -/
theorem Free.append {slots new : List (Slot ρ τ)} (h : Free slots) (hnew : Free new)
    (hcross : ∀ a ∈ slots, ∀ b ∈ new, ¬ a.Clash b) : Free (slots ++ new) :=
  List.pairwise_append.2 ⟨h, hnew, hcross⟩

/-- Slots of distinct resources never clash. -/
theorem free_of_nodup {slots : List (Slot ρ τ)} (h : (slots.map resource).Nodup) : Free slots :=
  (List.pairwise_map.1 h).imp fun hne hc => hne hc.1

/-- At any instant a resource belongs to at most one slot. -/
theorem Free.unique_at {slots : List (Slot ρ τ)} (h : Free slots) {i j : ℕ} {a b : Slot ρ τ} {t : τ}
    (ha : slots[i]? = some a) (hb : slots[j]? = some b) (hr : a.resource = b.resource)
    (hta : t ∈ a.span) (htb : t ∈ b.span) : i = j := by
  obtain ⟨hi, rfl⟩ := List.getElem?_eq_some_iff.1 ha
  obtain ⟨hj, rfl⟩ := List.getElem?_eq_some_iff.1 hb
  rcases Nat.lt_trichotomy i j with hij | hij | hij
  · exact absurd (clash_of_mem hr hta htb) (List.pairwise_iff_getElem.1 h i j hi hj hij)
  · exact hij
  · exact absurd (clash_of_mem hr.symm htb hta) (List.pairwise_iff_getElem.1 h j i hj hi hij)

end Slot
