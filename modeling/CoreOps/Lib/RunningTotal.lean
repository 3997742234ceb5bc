import Mathlib.Algebra.BigOperators.Group.List.Basic
import Mathlib.Algebra.Ring.Int.Defs
import CoreOps.Lib.RowHistory

/-! Running totals under READ COMMITTED. A total is stored beside the rows it sums,
and sessions add rows and write the total back as an absolute value, in separate
statements. Between them a session owes the total what its rows already add: the
debt. If every statement pays or records exactly what its writes do to a total, and
totals are written under a lock, then whatever the interleaving the committed totals
are the sums of the committed rows. -/

namespace ReadCommitted

variable {D W K L ι : Type*}

/-- Totals `stored`, the sums they stand for, the limits they keep to, and what the
writes do to them. -/
structure TotalLaw (sys : System D W K L) (ι : Type*) where
  present : D → ι → Prop
  stored : D → ι → ℤ
  sum : D → ι → ℤ
  limit : D → ι → ℤ
  key : ι → K
  gain : W → ι → ℤ
  sets : W → ι → Option ℤ
  present_apply : ∀ d w i, present (sys.apply d w) i ↔ present d i
  stored_apply : ∀ d w i, present d i → stored (sys.apply d w) i = (sets w i).getD (stored d i)
  sum_apply : ∀ d w i, sum (sys.apply d w) i = sum d i + gain w i
  limit_apply : ∀ d w i, limit (sys.apply d w) i = limit d i

namespace TotalLaw

variable {sys : System D W K L} (law : TotalLaw sys ι)

def gains (ws : List W) (i : ι) : ℤ := (ws.map fun w => law.gain w i).sum

/-- Some write sets the total. -/
def Sets (ws : List W) (i : ι) : Prop := ∃ w ∈ ws, (law.sets w i).isSome

/-- Every total is within its bounds. -/
def Sound (d : D) : Prop := ∀ i, law.present d i → 0 ≤ law.stored d i ∧ law.stored d i ≤ law.limit d i

/-- Every total is the sum it stands for. -/
def Balanced (d : D) : Prop := ∀ i, law.present d i → law.stored d i = law.sum d i

theorem present_view (d : D) (ws : List W) (i : ι) : law.present (sys.view d ws) i ↔ law.present d i := by
  induction ws generalizing d with
  | nil => rfl
  | cons w ws ih =>
    rw [System.view_cons, ih, law.present_apply]

theorem limit_view (d : D) (ws : List W) (i : ι) : law.limit (sys.view d ws) i = law.limit d i := by
  induction ws generalizing d with
  | nil => rfl
  | cons w ws ih =>
    rw [System.view_cons, ih, law.limit_apply]

theorem sum_view (d : D) (ws : List W) (i : ι) :
    law.sum (sys.view d ws) i = law.sum d i + law.gains ws i := by
  induction ws generalizing d with
  | nil => simp [gains]
  | cons w ws ih =>
    rw [System.view_cons, ih, law.sum_apply, gains, gains, List.map_cons,
      List.sum_cons, add_assoc]

theorem gains_append (ws ws' : List W) (i : ι) :
    law.gains (ws ++ ws') i = law.gains ws i + law.gains ws' i := by
  simp only [gains, List.map_append, List.sum_append]

/-- Writes that do not set a total leave it alone. -/
theorem stored_view_of_not_sets {d : D} {ws : List W} {i : ι} (hp : law.present d i)
    (h : ¬ law.Sets ws i) : law.stored (sys.view d ws) i = law.stored d i := by
  induction ws generalizing d with
  | nil => rfl
  | cons w ws ih =>
    have hw : law.sets w i = none := by
      rw [← Option.not_isSome_iff_eq_none]
      exact fun hs => h ⟨w, List.mem_cons_self, hs⟩
    rw [System.view_cons, ih ((law.present_apply d w i).2 hp) ?_,
      law.stored_apply d w i hp, hw, Option.getD_none]
    exact fun ⟨w', hw', hs⟩ => h ⟨w', List.mem_cons_of_mem _ hw', hs⟩

/-- Writes that set a total make it what they say, whatever it was. -/
theorem stored_view_of_sets {d d' : D} {ws : List W} {i : ι} (hp : law.present d i)
    (hp' : law.present d' i) (h : law.Sets ws i) :
    law.stored (sys.view d ws) i = law.stored (sys.view d' ws) i := by
  induction ws generalizing d d' with
  | nil => obtain ⟨w, hw, -⟩ := h; cases hw
  | cons w ws ih =>
    rw [System.view_cons, System.view_cons]
    have hq := (law.present_apply d w i).2 hp
    have hq' := (law.present_apply d' w i).2 hp'
    by_cases hrest : law.Sets ws i
    · exact ih hq hq' hrest
    · obtain ⟨w', hw', hs⟩ := h
      rcases List.mem_cons.1 hw' with rfl | hw'
      · obtain ⟨x, hx⟩ := Option.isSome_iff_exists.1 hs
        rw [law.stored_view_of_not_sets hq hrest, law.stored_view_of_not_sets hq' hrest,
          law.stored_apply d w' i hp, law.stored_apply d' w' i hp', hx]
        rfl
      · exact absurd ⟨w', hw', hs⟩ hrest

theorem sets_append {ws ws' : List W} {i : ι} :
    law.Sets (ws ++ ws') i ↔ law.Sets ws i ∨ law.Sets ws' i := by
  simp only [Sets, List.mem_append, or_and_right, exists_or]

/-- A statement that sees `v` moves what its session owes from `before` to `after` by
exactly what its writes do, and sets totals only under their locks and within bounds. -/
structure Pays (v : D) (locks : List (K × LockMode)) (ws : List W) (before after : ι → ℤ) : Prop where
  balance : ∀ i, law.present v i →
    law.stored (sys.view v ws) i + after i = law.stored v i + before i + law.gains ws i
  bounds : ∀ i, law.Sets ws i → (∃ m : LockMode, m.Exclusive ∧ (law.key i, m) ∈ locks) ∧
    0 ≤ law.stored (sys.view v ws) i ∧ law.stored (sys.view v ws) i ≤ law.limit v i

theorem not_sets_nil (i : ι) : ¬ law.Sets [] i := fun ⟨_, hw, _⟩ => List.not_mem_nil hw

theorem sets_singleton {w : W} {i : ι} : law.Sets [w] i ↔ (law.sets w i).isSome := by
  simp [Sets]

theorem pays_nothing (v : D) (locks : List (K × LockMode)) (owed : ι → ℤ) :
    law.Pays v locks [] owed owed := by
  refine ⟨fun i _ => ?_, fun i hi => absurd hi (law.not_sets_nil i)⟩
  simp [gains]

/-- A write that sets no total is owed what it gains. -/
theorem pays_gain {v : D} {locks : List (K × LockMode)} {w : W} {before after : ι → ℤ}
    (hsets : ∀ i, law.sets w i = none) (h : ∀ i, after i = before i + law.gain w i) :
    law.Pays v locks [w] before after := by
  refine ⟨fun i hp => ?_, fun i hi => ?_⟩
  · have hstored := law.stored_apply v w i hp
    rw [hsets i, Option.getD_none] at hstored
    rw [System.view_cons, System.view_nil, hstored, h i, gains, List.map_singleton, List.sum_singleton]
    omega
  · rw [sets_singleton, hsets i] at hi
    cases hi

/-- A write that sets one total, under its lock, pays the difference. -/
theorem pays_set {v : D} {locks : List (K × LockMode)} {w : W} {before after : ι → ℤ} {i₀ : ι} {x : ℤ}
    {m : LockMode} (hm : m.Exclusive) (hlock : (law.key i₀, m) ∈ locks) (hp₀ : law.present v i₀)
    (hset : law.sets w i₀ = some x) (hother : ∀ i, i ≠ i₀ → law.sets w i = none) (hgain : ∀ i, law.gain w i = 0)
    (hdebt : x + after i₀ = law.stored v i₀ + before i₀) (hkeep : ∀ i, i ≠ i₀ → after i = before i)
    (h0 : 0 ≤ x) (hle : x ≤ law.limit v i₀) : law.Pays v locks [w] before after := by
  have hx : law.stored (sys.view v [w]) i₀ = x := by
    rw [System.view_cons, System.view_nil, law.stored_apply v w i₀ hp₀, hset, Option.getD_some]
  refine ⟨fun i hp => ?_, fun i hi => ?_⟩
  · rw [gains, List.map_singleton, List.sum_singleton, hgain i]
    by_cases hi : i = i₀
    · subst hi
      omega
    · rw [System.view_cons, System.view_nil, law.stored_apply v w i hp, hother i hi, Option.getD_none,
        hkeep i hi, add_zero]
  · rw [sets_singleton] at hi
    by_cases h : i = i₀
    · subst h
      rw [hx]
      exact ⟨⟨m, hm, hlock⟩, h0, hle⟩
    · rw [hother i h] at hi
      cases hi

/-- What to prove of a program: at local state `l` a session owes `debt l`. `E` is
what no write changes of the database, `Q` what a local state knows of that. -/
structure Respects (C : L → D → Prop) (E : D → Prop) (Q : D → L → Prop) (debt : L → ι → ℤ) : Prop where
  env : ∀ d w, E d → E (sys.apply d w)
  stable : ∀ d w l, Q (sys.apply d w) l ↔ Q d l
  exec : ∀ l v locks ws l', E v → law.Sound v → Q v l → C l v → sys.next l v = .exec locks ws l' →
    Q v l' ∧ law.Pays v locks ws (debt l) (debt l')
  commit : ∀ l v l', Q v l → sys.next l v = .commit l' →
    (∀ i, debt l i = 0) ∧ ∀ l₁, l' = some l₁ → Q v l₁ ∧ ∀ i, debt l₁ i = 0
  rollback : ∀ l v l', Q v l → sys.next l v = .rollback l' → ∀ l₁, l' = some l₁ → Q v l₁ ∧ ∀ i, debt l₁ i = 0

/-- What holds of a session between its statements: what it owes is the difference
between what its rows add and what it has written to the totals. -/
structure Owes (Q : D → L → Prop) (debt : L → ι → ℤ) (d : D) (s : Session K W L) : Prop where
  loc : ∀ l, s.loc = some l → Q d l ∧ ∀ i, law.present d i →
    law.stored (sys.view d s.writes) i + debt l i = law.stored d i + law.gains s.writes i
  locked : ∀ i, law.Sets s.writes i → (∃ m : LockMode, m.Exclusive ∧ (law.key i, m) ∈ s.locks) ∧
    (law.present d i → 0 ≤ law.stored (sys.view d s.writes) i ∧
      law.stored (sys.view d s.writes) i ≤ law.limit d i)

variable {law} {C : L → D → Prop} {E : D → Prop} {Q : D → L → Prop} {debt : L → ι → ℤ}

theorem owes_closed {d : D} {l : Option L} (h : ∀ l₁, l = some l₁ → Q d l₁ ∧ ∀ i, debt l₁ i = 0) :
    law.Owes Q debt d (.closed l) := by
  refine ⟨fun l₁ h₁ => ⟨(h l₁ h₁).1, fun i _ => ?_⟩, fun i hi => ?_⟩
  · rw [(h l₁ h₁).2 i]
    rfl
  · exact absurd hi (law.not_sets_nil i)

theorem Respects.env_view (hr : law.Respects C E Q debt) {d : D} (ws : List W) (h : E d) :
    E (sys.view d ws) := by
  induction ws generalizing d with
  | nil => exact h
  | cons w ws ih => exact ih (hr.env d w h)

theorem Respects.stable_view (hr : law.Respects C E Q debt) (d : D) (ws : List W) (l : L) :
    Q (sys.view d ws) l ↔ Q d l := by
  induction ws generalizing d with
  | nil => rfl
  | cons w ws ih =>
    rw [System.view_cons, ih, hr.stable]

/-- The totals a session sees are within their bounds. -/
theorem sound_view {d : D} {s : Session K W L} (hd : law.Sound d) (hs : law.Owes Q debt d s) :
    law.Sound (sys.view d s.writes) := by
  intro i hp
  rw [law.present_view] at hp
  rw [law.limit_view]
  by_cases hset : law.Sets s.writes i
  · exact (hs.locked i hset).2 hp
  · rw [law.stored_view_of_not_sets hp hset]
    exact hd i hp

theorem Respects.threadModular (hr : law.Respects C E Q debt) :
    ThreadModular sys (sys.When C) (fun d _ => E d ∧ law.Sound d ∧ law.Balanced d) (law.Owes Q debt) where
  exec := by
    intro w t s locks ws l' hw hC hs ha
    obtain ⟨l, hl, hn⟩ := RowLaw.eq_some_of_action ha
    obtain ⟨hE, hsound, -⟩ := hw.db
    have ho := hw.session t s hs
    obtain ⟨hQ, hdebt⟩ := ho.loc l hl
    obtain ⟨hQ', hpays⟩ := hr.exec l _ locks ws l' (hr.env_view _ hE) (sound_view hsound ho)
      ((hr.stable_view _ _ _).2 hQ) (hC s hs l hl) hn
    refine ⟨fun l₁ h₁ => ?_, fun i hi => ?_⟩
    · obtain rfl := Option.some.inj h₁
      refine ⟨(hr.stable_view _ _ _).1 hQ', fun i hp => ?_⟩
      have h1 := hpays.balance i ((law.present_view _ _ _).2 hp)
      have h2 := hdebt i hp
      rw [sys.view_append, law.gains_append]
      omega
    · simp only [sys.view_append]
      by_cases hnew : law.Sets ws i
      · obtain ⟨⟨m, hm, hk⟩, hb⟩ := hpays.bounds i hnew
        rw [law.limit_view] at hb
        exact ⟨⟨m, hm, List.mem_append_right _ hk⟩, fun _ => hb⟩
      · obtain ⟨⟨m, hm, hk⟩, hb⟩ := ho.locked i ((law.sets_append.1 hi).resolve_right hnew)
        refine ⟨⟨m, hm, List.mem_append_left _ hk⟩, fun hp => ?_⟩
        rw [law.stored_view_of_not_sets ((law.present_view _ _ _).2 hp) hnew]
        exact hb hp
  commit := by
    intro w t s l' hw _ hs ha
    obtain ⟨l, hl, hn⟩ := RowLaw.eq_some_of_action ha
    obtain ⟨hE, hsound, hbal⟩ := hw.db
    have ho := hw.session t s hs
    obtain ⟨hQ, hdebt⟩ := ho.loc l hl
    obtain ⟨hzero, hnext⟩ := hr.commit l _ l' ((hr.stable_view _ _ _).2 hQ) hn
    refine ⟨⟨hr.env_view _ hE, sound_view hsound ho, fun i hp => ?_⟩, owes_closed hnext⟩
    rw [law.present_view] at hp
    have h1 := hdebt i hp
    rw [hzero i] at h1
    rw [law.sum_view, ← hbal i hp]
    omega
  interfere := by
    intro w t s l' t' s' hw _ hs _ hs' htt
    have ho := hw.session t s hs
    have ho' := hw.session t' s' hs'
    -- a total this session has set is locked, so the commit does not move it
    have hfree : ∀ i, law.Sets s'.writes i → ¬ law.Sets s.writes i := by
      intro i hi' hi
      obtain ⟨⟨m, hm, hk⟩, -⟩ := ho.locked i hi
      obtain ⟨⟨m', hm', hk'⟩, -⟩ := ho'.locked i hi'
      have := (hw.locks t' t s' s hs' hs htt).not_both hk' hk
      rw [hm'.conflicts hm] at this
      cases this
    refine ⟨fun l hl => ?_, fun i hi => ?_⟩
    · obtain ⟨hQ, hdebt⟩ := ho'.loc l hl
      refine ⟨(hr.stable_view _ _ _).2 hQ, fun i hp => ?_⟩
      have hpd := (law.present_view _ _ _).1 hp
      have h1 := hdebt i hpd
      by_cases hi : law.Sets s'.writes i
      · rw [law.stored_view_of_sets hp hpd hi, law.stored_view_of_not_sets hpd (hfree i hi)]
        exact h1
      · rw [law.stored_view_of_not_sets hpd hi] at h1
        rw [law.stored_view_of_not_sets hp hi]
        omega
    · obtain ⟨hk, hb⟩ := ho'.locked i hi
      refine ⟨hk, fun hp => ?_⟩
      have hpd := (law.present_view _ _ _).1 hp
      rw [law.stored_view_of_sets hp hpd hi, law.limit_view]
      exact hb hpd
  rollback := by
    intro w t s l' hw hs ha
    obtain ⟨l, hl, hn⟩ := RowLaw.eq_some_of_action ha
    obtain ⟨hQ, -⟩ := (hw.session t s hs).loc l hl
    refine owes_closed fun l₁ h₁ => ?_
    obtain ⟨hQ', hzero⟩ := hr.rollback l _ l' ((hr.stable_view _ _ _).2 hQ) hn l₁ h₁
    exact ⟨(hr.stable_view _ _ _).1 hQ', hzero⟩
  kill := fun d => owes_closed fun l₁ h₁ => nomatch h₁

/-- In every interleaving, the committed totals are the sums of the committed rows
and within their limits. -/
theorem Respects.run [DecidableEq K] (hr : law.Respects C E Q debt) {d : D} {ls : List L} {es : List Event}
    {w : World D W K L} (hE : E d) (hsound : law.Sound d) (hbal : law.Balanced d)
    (hls : ∀ l ∈ ls, Q d l ∧ ∀ i, debt l i = 0)
    (h : Run (Restrict (sys.When C) sys.Step) ⟨d, ls.map .fresh, []⟩ es w) :
    law.Sound w.db ∧ law.Balanced w.db := by
  refine (hr.threadModular.run (Holds.start ⟨hE, hsound, hbal⟩ fun l hl => ?_) h).db.2
  exact owes_closed fun l₁ h₁ => Option.some.inj h₁ ▸ hls l hl

end TotalLaw

end ReadCommitted
