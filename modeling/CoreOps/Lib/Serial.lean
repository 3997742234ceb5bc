import CoreOps.Lib.RowHistory

/-! Serializability under READ COMMITTED. A service is given as calls that run alone,
and as transactions that interleave. A session is ready when its uncommitted writes
are what a call would do to the database as it is committed now; if statements keep
sessions ready and the commit of one leaves the others ready, the transactions do to
the database what calls do, made one after the other in the order of the commits. -/

namespace ReadCommitted

variable {D W K L Op ε : Type*}

/-- What every write of a session keeps, its commit keeps. -/
theorem System.view_invariant (sys : System D W K L) (P : D → Prop) {ws : List W}
    (h : ∀ d, ∀ w ∈ ws, P d → P (sys.apply d w)) {d : D} (hd : P d) : P (sys.view d ws) := by
  induction ws generalizing d with
  | nil => exact hd
  | cons w ws ih =>
    rw [System.view_cons]
    exact ih (fun d w' hw' => h d w' (List.mem_cons_of_mem _ hw')) (h d w List.mem_cons_self hd)

/-- What every write keeps, every step keeps of the committed database. -/
theorem System.step_keeps [DecidableEq K] (sys : System D W K L) (P : D → Prop)
    (h : ∀ d w, P d → P (sys.apply d w)) {w w' : World D W K L} {e : Event} (hs : sys.Step w e w') (hw : P w.db) :
    P w'.db := by
  rcases sys.step_cases hs with ⟨t, s, locks, ws, l', -, -, -, -, rfl⟩ | ⟨t, s, l', -, -, -, rfl⟩ |
    ⟨t, s, l', -, -, -, rfl⟩ | ⟨t, -, rfl⟩
  · exact hw
  · exact sys.view_invariant P (fun d w _ => h d w) hw
  · exact hw
  · exact hw

/-- What to prove of transactions and calls: `I` is what the calls keep, `Ready d s`
says that session `s` is ready about the database `d`. -/
structure Serializes (sys : System D W K L) (C : L → D → Prop) (exec : D → Op → Except ε D) (I : D → Prop)
    (Ready : D → Session K W L → Prop) : Prop where
  call : ∀ d op d', I d → exec d op = .ok d' → I d'
  statement : ∀ d s l locks ws l', I d → Ready d s → s.loc = some l → C l (sys.view d s.writes) →
    sys.next l (sys.view d s.writes) = .exec locks ws l' → Ready d ⟨some l', s.locks ++ locks, s.writes ++ ws⟩
  commit : ∀ d s l l', I d → Ready d s → s.loc = some l → sys.next l (sys.view d s.writes) = .commit l' →
    (∃ op, exec d op = .ok (sys.view d s.writes)) ∧ Ready (sys.view d s.writes) (.closed l')
  interfere : ∀ d s s', I d → Ready d s → Ready d s' → Compatible s s' → Ready (sys.view d s.writes) s'
  rollback : ∀ d s l l', I d → Ready d s → s.loc = some l → sys.next l (sys.view d s.writes) = .rollback l' →
    Ready d (.closed l')
  kill : ∀ d, Ready d (.closed none)

namespace Serializes

variable {sys : System D W K L} {C : L → D → Prop} {exec : D → Op → Except ε D} {I : D → Prop}
  {Ready : D → Session K W L → Prop}

theorem threadModular (hs : Serializes sys C exec I Ready) :
    ThreadModular sys (sys.When C) (fun d _ => I d) Ready where
  exec := by
    intro w t s locks ws l' hw hC hst ha
    obtain ⟨l, hl, hn⟩ := RowLaw.eq_some_of_action ha
    exact hs.statement _ s l _ _ _ hw.db (hw.session t s hst) hl (hC s hst l hl) hn
  commit := by
    intro w t s l' hw _ hst ha
    obtain ⟨l, hl, hn⟩ := RowLaw.eq_some_of_action ha
    obtain ⟨⟨op, hop⟩, hready⟩ := hs.commit _ s l l' hw.db (hw.session t s hst) hl hn
    exact ⟨hs.call _ op _ hw.db hop, hready⟩
  interfere := by
    intro w t s l' t' s' hw _ hst _ hst' htt
    exact hs.interfere _ s s' hw.db (hw.session t s hst) (hw.session t' s' hst')
      (hw.locks t t' s s' hst hst' (Ne.symm htt))
  rollback := by
    intro w t s l' hw hst ha
    obtain ⟨l, hl, hn⟩ := RowLaw.eq_some_of_action ha
    exact hs.rollback _ s l l' hw.db (hw.session t s hst) hl hn
  kill := hs.kill

variable [DecidableEq K]

/-- A step commits nothing, or what one call does. -/
theorem step_db (hs : Serializes sys C exec I Ready) {w w' : World D W K L} {e : Event}
    (hw : Holds (fun d _ => I d) Ready w) (h : sys.Step w e w') :
    w'.db = w.db ∨ ∃ op, exec w.db op = .ok w'.db := by
  rcases sys.step_cases h with ⟨t, s, locks, ws, l', -, -, -, -, rfl⟩ | ⟨t, s, l', -, hst, ha, rfl⟩ |
    ⟨t, s, l', -, -, -, rfl⟩ | ⟨t, -, rfl⟩
  · exact .inl rfl
  · obtain ⟨l, hl, hn⟩ := RowLaw.eq_some_of_action ha
    exact .inr (hs.commit _ s l l' hw.db (hw.session t s hst) hl hn).1
  · exact .inl rfl
  · exact .inl rfl

theorem holds (hs : Serializes sys C exec I Ready) {d : D} {ls : List L} {es : List Event} {w : World D W K L}
    (hI : I d) (hls : ∀ l ∈ ls, Ready d (.fresh l))
    (h : Run (Restrict (sys.When C) sys.Step) ⟨d, ls.map .fresh, []⟩ es w) :
    Holds (fun d _ => I d) Ready w :=
  hs.threadModular.run (Holds.start hI hls) h

/-- In every interleaving the committed database is what calls made one after the
other leave. -/
theorem run (hs : Serializes sys C exec I Ready) {d : D} {ls : List L} {es : List Event} {w : World D W K L}
    (hI : I d) (hls : ∀ l ∈ ls, Ready d (.fresh l))
    (h : Run (Restrict (sys.When C) sys.Step) ⟨d, ls.map .fresh, []⟩ es w) :
    ∃ ops : List Op, w.db = ops.foldl (settle exec) d := by
  induction h with
  | nil => exact ⟨[], rfl⟩
  | snoc hrun hstep ih =>
    obtain ⟨ops, hops⟩ := ih
    have hw := hs.holds hI hls hrun
    rcases hs.step_db hw hstep.2 with hdb | ⟨op, hop⟩
    · exact ⟨ops, by rw [hdb, hops]⟩
    · refine ⟨ops ++ [op], ?_⟩
      rw [List.foldl_append, ← hops, List.foldl_cons, List.foldl_nil, settle_of_ok hop]

end Serializes

end ReadCommitted
