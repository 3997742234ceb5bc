import Mathlib.Algebra.Order.Group.Basic
import Mathlib.Data.List.Basic

/-! Logs of stamps seen through a sliding window. The stamps that are recent at a time are
those less than the width before it; a log in which every stamp came when few were recent
has few in any window of that width. -/

namespace SlidingWindow

variable {T : Type*} [AddCommGroup T] [LinearOrder T]

/-- The stamps less than `width` before `now`. -/
def recent (width now : T) (stamps : List T) : List T := stamps.filter fun stamp => now - stamp < width

/-- Every stamp came when fewer than `m` were recent. -/
inductive Spaced (m : ℕ) (width : T) : List T → Prop
  | nil : Spaced m width []
  | snoc {stamps : List T} {now : T} (h : Spaced m width stamps) (hroom : (recent width now stamps).length < m) :
      Spaced m width (stamps ++ [now])

theorem recent_append (width now : T) (stamps more : List T) :
    recent width now (stamps ++ more) = recent width now stamps ++ recent width now more :=
  List.filter_append ..

theorem recent_singleton (width now stamp : T) :
    recent width now [stamp] = if now - stamp < width then [stamp] else [] := by
  by_cases h : now - stamp < width <;> simp [recent, h]

variable [IsOrderedAddMonoid T]

/-- What is recent later was recent before. -/
theorem recent_recent {width now later : T} (h : now ≤ later) (stamps : List T) :
    recent width later (recent width now stamps) = recent width later stamps := by
  unfold recent
  rw [List.filter_filter]
  refine List.filter_congr fun stamp _ => ?_
  rw [Bool.and_eq_left_iff_imp]
  intro hlater
  have hle : now - stamp ≤ later - stamp := sub_le_sub_right h stamp
  simp only [decide_eq_true_eq] at hlater ⊢
  exact hle.trans_lt hlater

/-- A half-open window of the width holds `m` stamps at most. -/
theorem Spaced.window {m : ℕ} {width : T} {stamps : List T} (h : Spaced m width stamps) (start : T) :
    (stamps.filter fun stamp => start ≤ stamp ∧ stamp < start + width).length ≤ m := by
  induction h with
  | nil => simp
  | @snoc stamps now h hroom ih =>
    rw [List.filter_append, List.length_append]
    by_cases hin : start ≤ now ∧ now < start + width
    · -- what came before in this window is recent at `now`
      have hrecent : (stamps.filter fun stamp => start ≤ stamp ∧ stamp < start + width).length ≤
          (recent width now stamps).length := by
        refine List.Sublist.length_le (List.monotone_filter_right stamps fun stamp hstamp => ?_)
        have hstart : start ≤ stamp := (of_decide_eq_true hstamp).1
        exact decide_eq_true (sub_lt_iff_lt_add'.2 (hin.2.trans_le (add_le_add_left hstart width)))
      have hlast : ([now].filter fun stamp => start ≤ stamp ∧ stamp < start + width).length = 1 := by simp [hin]
      omega
    · have hlast : ([now].filter fun stamp => start ≤ stamp ∧ stamp < start + width).length = 0 := by simp [hin]
      omega

end SlidingWindow
