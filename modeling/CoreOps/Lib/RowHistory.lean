import CoreOps.Lib.ReadCommitted

/-! The history of one field of a row under READ COMMITTED. A law says how each
write moves the field of each row and which values it may be applied to; if every
statement writes lawfully against what it sees, and locks the rows it writes, the
committed writes of every row form a lawful path from its first value to its last.
The lock is what carries a lawful statement to its commit: until then no other
session can commit a write to the row. -/

namespace ReadCommitted

variable {D W K L ι F : Type*}

/-- A lock that keeps every other writer of the row away. -/
def LockMode.Exclusive (m : LockMode) : Prop := m = .noKeyUpdate ∨ m = .update

theorem LockMode.Exclusive.conflicts {m m' : LockMode} (h : m.Exclusive) (h' : m'.Exclusive) :
    m.conflicts m' = true := by
  rcases h with rfl | rfl <;> rcases h' with rfl | rfl <;> rfl

/-- `C` holds of what the session about to move sees. -/
def System.When (sys : System D W K L) (C : L → D → Prop) (w : World D W K L) : Event → Prop
  | .turn t => ∀ s ∈ w.sessions[t]?, ∀ l ∈ s.loc, C l (sys.view w.db s.writes)
  | .kill _ => True

instance (sys : System D W K L) (C : L → D → Prop) [∀ l d, Decidable (C l d)] (w : World D W K L)
    (e : Event) : Decidable (sys.When C w e) :=
  match e with
  | .turn t => inferInstanceAs (Decidable (∀ s ∈ w.sessions[t]?, ∀ l ∈ s.loc, C l (sys.view w.db s.writes)))
  | .kill _ => inferInstanceAs (Decidable True)

/-- How the writes move one field of each row, which of its values each may be
applied to, and the lock that guards it. -/
structure RowLaw (sys : System D W K L) (ι F : Type*) where
  field : D → ι → F
  key : ι → K
  touches : W → ι → Prop
  stepAt : W → ι → F → F
  ok : W → ι → F → Prop
  field_apply : ∀ d w i, field (sys.apply d w) i = stepAt w i (field d i)
  untouched : ∀ w i a, ¬ touches w i → stepAt w i a = a ∧ ok w i a

namespace RowLaw

variable {sys : System D W K L} (law : RowLaw sys ι F)

/-- The value the writes leave, from `a`. -/
def runAt (i : ι) (a : F) (ws : List W) : F := ws.foldl (fun a w => law.stepAt w i a) a

/-- Each write is applied to a value it may be applied to. -/
def ValidAt (i : ι) : F → List W → Prop
  | _, [] => True
  | a, w :: ws => law.ok w i a ∧ ValidAt i (law.stepAt w i a) ws

theorem validAt_append {i : ι} {a : F} {ws ws' : List W} :
    law.ValidAt i a (ws ++ ws') ↔ law.ValidAt i a ws ∧ law.ValidAt i (law.runAt i a ws) ws' := by
  induction ws generalizing a with
  | nil => simp [ValidAt, runAt]
  | cons w ws ih => simp only [List.cons_append, ValidAt, ih, and_assoc, runAt, List.foldl_cons]

theorem field_view (d : D) (ws : List W) (i : ι) :
    law.field (sys.view d ws) i = law.runAt i (law.field d i) ws := by
  induction ws generalizing d with
  | nil => rfl
  | cons w ws ih =>
    rw [System.view_cons, ih, law.field_apply]
    rfl

theorem untouched_all {ws : List W} {i : ι} (h : ∀ w ∈ ws, ¬ law.touches w i) (a : F) :
    law.runAt i a ws = a ∧ law.ValidAt i a ws := by
  induction ws with
  | nil => exact ⟨rfl, trivial⟩
  | cons w ws ih =>
    obtain ⟨hstep, hok⟩ := law.untouched w i a (h w List.mem_cons_self)
    obtain ⟨hrun, hval⟩ := ih fun w' hw' => h w' (List.mem_cons_of_mem _ hw')
    refine ⟨?_, hok, ?_⟩
    · rw [runAt, List.foldl_cons, hstep]; exact hrun
    · rw [hstep]; exact hval

/-- The session locks every row it has written. -/
def Guards (s : Session K W L) : Prop :=
  ∀ i, (∃ w ∈ s.writes, law.touches w i) → ∃ m : LockMode, m.Exclusive ∧ (law.key i, m) ∈ s.locks

/-- What holds of a session between its statements. -/
structure Keeps (Q : L → Prop) (d : D) (s : Session K W L) : Prop where
  loc : ∀ l, s.loc = some l → Q l
  guards : law.Guards s
  valid : ∀ i, law.ValidAt i (law.field d i) s.writes

theorem keeps_closed {Q : L → Prop} {l : Option L} (d : D) (h : ∀ l₁, l = some l₁ → Q l₁) :
    law.Keeps Q d (.closed l) := by
  refine ⟨h, fun i hi => ?_, fun i => trivial⟩
  obtain ⟨x, hx, -⟩ := hi
  cases hx

/-- What to prove of a program about the law: statements write lawfully against
what they see, and lock what they write. `Q` is what its local states keep. -/
structure Respects (C : L → D → Prop) (Q : L → Prop) : Prop where
  exec : ∀ l v locks ws l', Q l → C l v → sys.next l v = .exec locks ws l' →
    Q l' ∧ (∀ i, law.ValidAt i (law.field v i) ws) ∧
      ∀ i, (∃ w ∈ ws, law.touches w i) → ∃ m : LockMode, m.Exclusive ∧ (law.key i, m) ∈ locks
  commit : ∀ l v l', Q l → sys.next l v = .commit (some l') → Q l'
  rollback : ∀ l v l', Q l → sys.next l v = .rollback (some l') → Q l'

/-- A row that one session has written is out of another's reach. -/
theorem not_touches_of_compatible {s s' : Session K W L} (hs : law.Guards s) (hs' : law.Guards s')
    (hc : Compatible s s') {i : ι} (hi : ∃ w ∈ s.writes, law.touches w i) :
    ∀ w ∈ s'.writes, ¬ law.touches w i := by
  intro w hw hwi
  obtain ⟨m, hm, hk⟩ := hs i hi
  obtain ⟨m', hm', hk'⟩ := hs' i ⟨w, hw, hwi⟩
  have := hc.not_both hk hk'
  rw [hm.conflicts hm'] at this
  cases this

variable {law}

theorem eq_some_of_action {d : D} {s : Session K W L} {a : Action K W L} (h : sys.action d s = some a) :
    ∃ l, s.loc = some l ∧ sys.next l (sys.view d s.writes) = a :=
  Option.map_eq_some_iff.1 h

variable {C : L → D → Prop} {Q : L → Prop}

theorem Respects.threadModular (hr : law.Respects C Q) (d₀ : D) :
    ThreadModular sys (sys.When C)
      (fun d log => ∀ i, law.ValidAt i (law.field d₀ i) log ∧
        law.field d i = law.runAt i (law.field d₀ i) log)
      (law.Keeps Q) where
  exec := by
    intro w t s locks ws l' hw hC hs ha
    obtain ⟨l, hl, hn⟩ := eq_some_of_action ha
    obtain ⟨hQ, hg, hv⟩ := hw.session t s hs
    obtain ⟨hQ', hv', hg'⟩ := hr.exec l _ locks ws l' (hQ l hl) (hC s hs l hl) hn
    refine ⟨fun l₁ h₁ => Option.some.inj h₁ ▸ hQ', fun i hi => ?_, fun i => ?_⟩
    · obtain ⟨x, hx, hxi⟩ := hi
      rcases List.mem_append.1 hx with hx | hx
      · obtain ⟨m, hm, hk⟩ := hg i ⟨x, hx, hxi⟩
        exact ⟨m, hm, List.mem_append_left _ hk⟩
      · obtain ⟨m, hm, hk⟩ := hg' i ⟨x, hx, hxi⟩
        exact ⟨m, hm, List.mem_append_right _ hk⟩
    · exact law.validAt_append.2 ⟨hv i, by rw [← law.field_view]; exact hv' i⟩
  commit := by
    intro w t s l' hw _ hs ha
    obtain ⟨l, hl, hn⟩ := eq_some_of_action ha
    obtain ⟨hQ, -, hv⟩ := hw.session t s hs
    refine ⟨fun i => ?_, law.keeps_closed _ ?_⟩
    · obtain ⟨hlog, hdb⟩ := hw.db i
      refine ⟨law.validAt_append.2 ⟨hlog, hdb ▸ hv i⟩, ?_⟩
      rw [law.field_view, hdb, runAt, runAt, runAt, List.foldl_append]
    · rintro l₁ rfl
      exact hr.commit l _ l₁ (hQ l hl) hn
  interfere := by
    intro w t s l' t' s' hw _ hs _ hs' htt
    obtain ⟨-, hg, -⟩ := hw.session t s hs
    obtain ⟨hQ, hg', hv⟩ := hw.session t' s' hs'
    refine ⟨hQ, hg', fun i => ?_⟩
    by_cases hi : ∃ x ∈ s'.writes, law.touches x i
    · -- the other session holds the row, so this commit does not move it
      have hno := law.not_touches_of_compatible hg' hg (hw.locks t' t s' s hs' hs htt) hi
      rw [law.field_view, (law.untouched_all hno _).1]
      exact hv i
    · exact (law.untouched_all (fun x hx hxi => hi ⟨x, hx, hxi⟩) _).2
  rollback := by
    intro w t s l' hw hs ha
    obtain ⟨l, hl, hn⟩ := eq_some_of_action ha
    refine law.keeps_closed _ ?_
    rintro l₁ rfl
    exact hr.rollback l _ l₁ ((hw.session t s hs).loc l hl) hn
  kill := fun d => law.keeps_closed d fun l₁ h₁ => nomatch h₁

/-- In every interleaving, the committed writes of each row are a lawful path from
the value it had to the value it has. -/
theorem Respects.run [DecidableEq K] (hr : law.Respects C Q) {d : D} {ls : List L} {es : List Event}
    {w : World D W K L} (hls : ∀ l ∈ ls, Q l)
    (h : Run (Restrict (sys.When C) sys.Step) ⟨d, ls.map .fresh, []⟩ es w) (i : ι) :
    law.ValidAt i (law.field d i) w.log ∧ law.field w.db i = law.runAt i (law.field d i) w.log := by
  refine ((hr.threadModular d).run (Holds.start (fun i => ⟨trivial, rfl⟩) fun l hl => ?_) h).db i
  exact law.keeps_closed d fun l₁ h₁ => Option.some.inj h₁ ▸ hls l hl

end RowLaw

end ReadCommitted
