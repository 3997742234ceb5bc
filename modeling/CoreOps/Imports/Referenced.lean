import CoreOps.Imports.Plan

/-! The importers that go by the references, as one: what each of them creates for a source
row is stated once, and then what a stage of them does to rows that are all new. -/

namespace CoreOps.Imports

open Checked Text

/-! The shape of references. -/

section Shape

theorem dropNewline_append {cs ds : List Char} (h : ds ≠ []) : dropNewline (cs ++ ds) = cs ++ dropNewline ds := by
  have hlast : (cs ++ ds).getLast? = ds.getLast? := by
    rw [List.getLast?_append_of_ne_nil _ h]
  unfold dropNewline
  rw [hlast]
  split
  · exact List.dropLast_append_of_ne_nil h
  · rfl

theorem takeWhile_dropWhile_colon {table : List Char} (h : ':' ∉ table) (rest : List Char) :
    (table ++ ':' :: rest).takeWhile (· ≠ ':') = table ∧ (table ++ ':' :: rest).dropWhile (· ≠ ':') = ':' :: rest := by
  have hall : ∀ c ∈ table, decide (c ≠ ':') = true := fun c hc => decide_eq_true fun heq => h (heq ▸ hc)
  constructor
  · rw [List.takeWhile_append_of_pos hall]
    simp
  · rw [List.dropWhile_append_of_pos hall]
    simp

/-- The characters of an id that a reference may hold. -/
def WellShaped (sourceId : String) : Prop := isGroup isIdChar (dropNewline sourceId.toList) = true

instance (sourceId : String) : Decidable (WellShaped sourceId) := inferInstanceAs (Decidable (_ = true))

theorem matchesSourceRef_iff {table sourceId : String} (htable : isGroup isTableChar table.toList = true)
    (hcolon : ':' ∉ table.toList) (hid : sourceId ≠ "") :
    matchesSourceRef (buildSourceRef table sourceId) = true ↔ WellShaped sourceId := by
  have hne : sourceId.toList ≠ [] := fun hnil => hid (String.toList_eq_nil_iff.1 hnil)
  have hcs : (buildSourceRef table sourceId).toList =
      (sourceSystem ++ ":").toList ++ (table.toList ++ ':' :: sourceId.toList) := by
    simp [buildSourceRef, String.toList_append, List.append_assoc]
  have hdrop : dropNewline (buildSourceRef table sourceId).toList =
      (sourceSystem ++ ":").toList ++ (table.toList ++ ':' :: dropNewline sourceId.toList) := by
    rw [hcs, dropNewline_append (by simp), dropNewline_append (by simp), ← List.singleton_append,
      dropNewline_append hne]
    rfl
  obtain ⟨htake, hrest⟩ := takeWhile_dropWhile_colon hcolon (dropNewline sourceId.toList)
  unfold matchesSourceRef WellShaped
  simp only [hdrop, List.drop_left, List.isPrefixOf_iff_prefix, List.prefix_append, true_and]
  rw [htake, hrest, htable]
  simp

theorem isIdChar_of_isLowerOrDigit {c : Char} (h : isLowerOrDigit c = true) : isIdChar c = true := by
  rcases of_decide_eq_true h with ⟨hlow, hhigh⟩ | hdigit
  · have hlower : c.isLower = true := by
      show (decide (c.val ≥ 'a'.val) && decide (c.val ≤ 'z'.val)) = true
      rw [Bool.and_eq_true, decide_eq_true_eq, decide_eq_true_eq]
      exact ⟨hlow, hhigh⟩
    have halpha : c.isAlpha = true := by
      show (c.isUpper || c.isLower) = true
      rw [hlower, Bool.or_true]
    simp [isIdChar, Char.isAlphanum, halpha]
  · simp [isIdChar, Char.isAlphanum, hdigit]

/-- A batch id has the characters of an id. -/
theorem isGroup_importBatchId (batchId : ImportBatchId) : isGroup isIdChar batchId.value.toList = true := by
  obtain ⟨value, hvalid⟩ := batchId
  unfold matchesImportBatchId at hvalid
  obtain ⟨hlength, hgroups⟩ := of_decide_eq_true hvalid
  have hjoin : ['-'].intercalate (value.toList.splitOn '-') = value.toList := List.intercalate_splitOn _
  have hmember : ∀ (groups : List (List Char)), ∀ c ∈ ['-'].intercalate groups, c = '-' ∨ ∃ group ∈ groups, c ∈ group := by
    intro groups
    induction groups with
    | nil => exact fun c hc => absurd hc List.not_mem_nil
    | cons group groups ih =>
      intro c hc
      cases groups with
      | nil =>
        rw [List.intercalate_singleton] at hc
        exact .inr ⟨group, List.mem_cons_self, hc⟩
      | cons next groups =>
        rw [List.intercalate_cons_cons, List.append_assoc, List.mem_append, List.mem_append, List.mem_singleton] at hc
        rcases hc with hc | rfl | hc
        · exact .inr ⟨group, List.mem_cons_self, hc⟩
        · exact .inl rfl
        · exact (ih c hc).imp_right fun ⟨g, hg, hcg⟩ => ⟨g, List.mem_cons_of_mem _ hg, hcg⟩
  have hchar : ∀ c ∈ value.toList, isIdChar c = true := by
    intro c hc
    rcases hmember _ c (hjoin ▸ hc) with rfl | ⟨group, hgroup, hcg⟩
    · decide
    · have hgroupOk := of_decide_eq_true (List.all_eq_true.1 hgroups group hgroup)
      exact isIdChar_of_isLowerOrDigit (List.all_eq_true.1 hgroupOk.2 c hcg)
  have hne : value.toList ≠ [] := by
    intro hnil
    rw [hnil] at hlength
    revert hlength
    decide
  exact decide_eq_true ⟨hne, List.all_eq_true.2 hchar⟩

theorem matchesBatchSourceRef_of_wellShaped (batchId : ImportBatchId) {table sourceId : String}
    (htable : isGroup isTableChar table.toList = true) (hcolon : ':' ∉ table.toList) (hid : sourceId ≠ "")
    (h : WellShaped sourceId) : matchesBatchSourceRef (buildBatchSourceRef batchId.value table sourceId) = true := by
  have hne : sourceId.toList ≠ [] := fun hnil => hid (String.toList_eq_nil_iff.1 hnil)
  let batch := batchId.value.toList
  let rest := batch ++ ':' :: (table.toList ++ ':' :: dropNewline sourceId.toList)
  have hdrop : dropNewline (buildBatchSourceRef batchId.value table sourceId).toList =
      (sourceSystem ++ ":").toList ++ rest := by
    have hcs : (buildBatchSourceRef batchId.value table sourceId).toList =
        (sourceSystem ++ ":").toList ++ (batch ++ (':' :: table.toList ++ [':'])) ++ sourceId.toList := by
      simp [buildBatchSourceRef, String.toList_append, List.append_assoc, batch]
    rw [hcs, dropNewline_append hne]
    simp [rest, List.append_assoc]
  obtain ⟨htake, hafter⟩ := takeWhile_dropWhile_colon hcolon (dropNewline sourceId.toList)
  unfold matchesBatchSourceRef
  simp only [hdrop, List.drop_left, List.isPrefixOf_iff_prefix, List.prefix_append, true_and, decide_eq_true_eq]
  refine List.any_eq_true.2 ⟨batch.length, by simp [rest], ?_⟩
  have hat : rest[batch.length]? = some ':' := by simp [rest]
  have hfirst : rest.take batch.length = batch := List.take_left
  have htail : rest.drop (batch.length + 1) = table.toList ++ ':' :: dropNewline sourceId.toList := by
    simp [rest, ← List.drop_drop]
  simp only [hat, hfirst, htail, htake, hafter, htable, List.drop_one, List.tail_cons]
  exact decide_eq_true ⟨trivial, isGroup_importBatchId batchId, trivial, h⟩

end Shape

/-- The row is the one of its table that stands for a source row. -/
def OneRow {α : Type} (table : Table ℕ α) (isFor : α → Prop) (a : α) : Prop :=
  ∃ id, table.get? id = some a ∧ isFor a ∧ ∀ id' a', table.get? id' = some a' → isFor a' → id' = id

theorem OneRow.eq {α : Type} {table : Table ℕ α} {isFor : α → Prop} {a a' : α} (h : OneRow table isFor a)
    (h' : OneRow table isFor a') : a = a' := by
  obtain ⟨id, hget, -, honly⟩ := h
  obtain ⟨id', hget', hfor', -⟩ := h'
  obtain rfl := honly id' a' hget' hfor'
  exact Option.some.inj (hget.symm.trans hget')

/-- An importer that goes by the references: the table of the source and its rows' ids, the
table of the target, and what becomes of a row there. -/
structure Importing (config : StagingWriteImportConfig) (ρ α : Type) where
  sourceTable : String
  targetEntity : String
  id : ρ → Option String
  create : ρ → String → Business → Except ImportError (ℕ × Business)
  tableOf : Business → Table ℕ α
  make : ρ → String → Except ImportError α
  put : Business → ρ → α → Business
  /-- The two rows cannot both be in the table. -/
  clash : α → α → Prop
  tableOf_put : ∀ b row a, tableOf (put b row a) = (tableOf b).add a
  create_eq_ok : ∀ row sourceId b newId b', create row sourceId b = .ok (newId, b') ↔
    ∃ a, make row sourceId = .ok a ∧ (∀ r ∈ (tableOf b).rows, ¬ clash r.2 a) ∧ newId = (tableOf b).freshKey ∧
      b' = put b row a
  /-- The row stands for the source row of the reference. -/
  IsFor : String → α → Prop
  isFor_make : ∀ {row sourceId a}, make row sourceId = .ok a →
    ∀ ref, IsFor ref a ↔ ref = buildSourceRef sourceTable sourceId
  isGroup_sourceTable : isGroup isTableChar sourceTable.toList = true
  colon_notMem : ':' ∉ sourceTable.toList

namespace Importing

variable {config : StagingWriteImportConfig} {ρ α : Type} (I : Importing config ρ α)

def step (row : ρ) : Target → Except ImportError (RowResult × Target) :=
  importReferenced config I.sourceTable I.targetEntity (I.id row) (I.create row)

def sourceId (row : ρ) : String := orElse (I.id row) ""

def key (row : ρ) : String := refKey I.sourceTable (I.id row)

/-- A source row with what becomes of it. -/
def Makes (p : ρ × α) : Prop := I.make p.1 (I.sourceId p.1) = .ok p.2 ∧ WellShaped (I.sourceId p.1)

def Fits (table : Table ℕ α) (items : List (ρ × α)) : Prop :=
  (∀ r ∈ table.rows, ∀ p ∈ items, ¬ I.clash r.2 p.2) ∧ items.Pairwise fun p q => ¬ I.clash p.2 q.2

def putAll (b : Business) (items : List (ρ × α)) : Business := items.foldl (fun b p => I.put b p.1 p.2) b

variable {I} {row : ρ} {rows : List ρ} {target : Target} {b' : Business}

theorem resolve_of_unknown {sourceTable sourceId : String}
    (h : Unknown config target.auditLogs (buildSourceRef sourceTable sourceId)) :
    resolveSourceRefAction target (identityOf config sourceTable sourceId) = .ok .insert := by
  have hreg : registered target.auditLogs config.tenantId (buildSourceRef sourceTable sourceId) = [] := h
  rw [resolveSourceRefAction, mapError_eq_ok]
  simp only [identityOf, hreg]
  rfl

/-- A new row is created and registered, if its reference has the shape of one. -/
theorem step_iff (hid : HasId (I.id row)) (hunknown : Unknown config target.auditLogs (I.key row)) :
    (∃ result target', I.step row target = .ok (result, target') ∧ target'.business = b') ↔
      (∃ newId, I.create row (I.sourceId row) target.business = .ok (newId, b')) ∧ WellShaped (I.sourceId row) := by
  have hresolve : resolveSourceRefAction target (identityOf config I.sourceTable (orElse (I.id row) "")) = .ok .insert :=
    resolve_of_unknown hunknown
  have hshape : matchesSourceRef (buildSourceRef I.sourceTable (I.sourceId row)) = true ↔ WellShaped (I.sourceId row) :=
    matchesSourceRef_iff I.isGroup_sourceTable I.colon_notMem hid
  unfold step importReferenced
  rw [if_neg hid]
  simp only [hresolve, bind_eq_ok, pure_eq_ok, Prod.exists, Prod.mk.injEq, registerSourceRef, raiseIf_eq_ok,
    Except.ok.injEq, exists_eq_left']
  constructor
  · rintro ⟨result, target', ⟨newId, b, hcreate, t, ⟨-, hsource, -, -, rfl⟩, rfl, rfl⟩, rfl⟩
    exact ⟨⟨newId, hcreate⟩, hshape.1 (by simpa [identityOf, sourceId] using hsource)⟩
  · rintro ⟨⟨newId, hcreate⟩, hwell⟩
    have hbatch := matchesBatchSourceRef_of_wellShaped config.importBatchId I.isGroup_sourceTable I.colon_notMem hid hwell
    have hsource := hshape.2 hwell
    exact ⟨_, _, ⟨newId, b', hcreate, _, ⟨⟨⟩, fun hno => absurd (hsource.symm.trans hno) Bool.noConfusion, ⟨⟩,
      fun hno => absurd (hbatch.symm.trans hno) Bool.noConfusion, rfl⟩, rfl, rfl⟩, rfl⟩

variable (I) in
theorem step_spec (row : ρ) (target : Target) :
    ∃ create, I.step row target = importReferenced config I.sourceTable I.targetEntity (I.id row) create target :=
  ⟨I.create row, rfl⟩

/-- What a stage does to rows that are all new: it creates them one after the other, if their
references have the shape of one and nothing clashes. -/
theorem importRows_iff (hids : ∀ row ∈ rows, HasId (I.id row)) (hnodup : (rows.map I.key).Nodup)
    (hunknown : ∀ row ∈ rows, Unknown config target.auditLogs (I.key row)) :
    (∃ results target', importRows I.step rows target = .ok (results, target') ∧ target'.business = b') ↔
      ∃ items : List (ρ × α), items.map Prod.fst = rows ∧ (∀ p ∈ items, I.Makes p) ∧
        I.Fits (I.tableOf target.business) items ∧ b' = I.putAll target.business items := by
  induction rows generalizing target with
  | nil =>
    constructor
    · rintro ⟨results, target', h, rfl⟩
      obtain ⟨-, rfl⟩ := Prod.mk.inj (Except.ok.inj h)
      exact ⟨[], rfl, fun p hp => absurd hp List.not_mem_nil,
        ⟨fun _ _ p hp => absurd hp List.not_mem_nil, List.Pairwise.nil⟩, rfl⟩
    · rintro ⟨items, hrows, -, -, rfl⟩
      obtain rfl := List.map_eq_nil_iff.1 hrows
      exact ⟨[], target, rfl, rfl⟩
  | cons row rows ih =>
    obtain ⟨hid, hrestIds⟩ := List.forall_mem_cons.1 hids
    obtain ⟨hnew, hrestUnknown⟩ := List.forall_mem_cons.1 hunknown
    rw [List.map_cons, List.nodup_cons] at hnodup
    obtain ⟨hother, hnodup⟩ := hnodup
    -- the rest is still unknown once the first row is there
    have hrest : ∀ {result t}, I.step row target = .ok (result, t) → ∀ r ∈ rows, Unknown config t.auditLogs (I.key r) := by
      intro result t hstep r hr
      rcases importReferenced_cases hstep with ⟨-, rfl⟩ | ⟨-, -, rfl⟩ | ⟨-, hcreated⟩
      · exact hrestUnknown r hr
      · exact hrestUnknown r hr
      · exact (unknown_created hcreated).2 ⟨hrestUnknown r hr, fun heq => hother (List.mem_map.2 ⟨r, hr, heq⟩)⟩
    constructor
    · rintro ⟨results, target', h, hb⟩
      obtain ⟨result, t, rest, hstep, hrows, -⟩ := importRows_cons.1 h
      obtain ⟨⟨newId, hcreate⟩, hwell⟩ := (step_iff hid hnew).1 ⟨result, t, hstep, rfl⟩
      obtain ⟨a, hmake, hfree, -, hput⟩ := (I.create_eq_ok _ _ _ _ _).1 hcreate
      obtain ⟨items, hitems, hmakes, hfits, hb'⟩ := (ih hrestIds hnodup (hrest hstep)).1 ⟨rest, target', hrows, hb⟩
      rw [hput, I.tableOf_put] at hfits
      obtain ⟨hold, hpairs⟩ := hfits
      rw [Table.rows_add, List.forall_mem_append, List.forall_mem_singleton] at hold
      refine ⟨(row, a) :: items, by rw [List.map_cons, hitems], List.forall_mem_cons.2 ⟨⟨hmake, hwell⟩, hmakes⟩,
        ⟨fun r hr => List.forall_mem_cons.2 ⟨hfree r hr, hold.1 r hr⟩, List.pairwise_cons.2 ⟨hold.2, hpairs⟩⟩, ?_⟩
      rw [hb', hput]
      rfl
    · rintro ⟨items, hitems, hmakes, hfits, hb'⟩
      obtain ⟨⟨first, a⟩, items, rfl, rfl, hrows⟩ := List.map_eq_cons_iff.1 hitems
      obtain ⟨⟨hmake, hwell⟩, hmakes⟩ := List.forall_mem_cons.1 hmakes
      obtain ⟨hold, hpairs⟩ := hfits
      obtain ⟨hfirst, hpairs⟩ := List.pairwise_cons.1 hpairs
      have hcreate := (I.create_eq_ok first (I.sourceId first) target.business _ _).2
        ⟨a, hmake, fun r hr => hold r hr _ List.mem_cons_self, rfl, rfl⟩
      obtain ⟨result, t, hstep, ht⟩ := (step_iff hid hnew).2 ⟨⟨_, hcreate⟩, hwell⟩
      have hfits : I.Fits (I.tableOf t.business) items := by
        rw [ht, I.tableOf_put]
        refine ⟨?_, hpairs⟩
        rw [Table.rows_add, List.forall_mem_append, List.forall_mem_singleton]
        exact ⟨fun r hr p hp => hold r hr p (List.mem_cons_of_mem _ hp), hfirst⟩
      obtain ⟨results, target', himport, hbusiness⟩ := (ih hrestIds hnodup (hrest hstep)).2
        ⟨items, hrows, hmakes, hfits, by rw [hb', ht]; rfl⟩
      exact ⟨result :: results, target', importRows_cons.2 ⟨result, t, results, hstep, himport, rfl⟩, hbusiness⟩

/-- The rows that a stage creates come after those that were there. -/
theorem tableOf_putAll (b : Business) (items : List (ρ × α)) :
    ∃ new : List (ℕ × α), new.map Prod.snd = items.map Prod.snd ∧
      (I.tableOf (I.putAll b items)).rows = (I.tableOf b).rows ++ new := by
  induction items generalizing b with
  | nil => exact ⟨[], rfl, (List.append_nil _).symm⟩
  | cons p items ih =>
    obtain ⟨new, hnew, hrows⟩ := ih (I.put b p.1 p.2)
    refine ⟨((I.tableOf b).freshKey, p.2) :: new, by rw [List.map_cons, List.map_cons, hnew], ?_⟩
    rw [I.tableOf_put, Table.rows_add, List.append_assoc] at hrows
    exact hrows

/-- A stage leaves alone what each of its creations does. -/
theorem putAll_frame {β : Type} (f : Business → β) (h : ∀ b row a, f (I.put b row a) = f b) (b : Business)
    (items : List (ρ × α)) : f (I.putAll b items) = f b := by
  induction items generalizing b with
  | nil => rfl
  | cons p items ih => exact (ih _).trans (h b p.1 p.2)

/-- Each source row of a stage has one row in the table, when the table had none for any. -/
theorem oneRow_of_putAll {b : Business} {items : List (ρ × α)} (hmakes : ∀ p ∈ items, I.Makes p)
    (hnodup : ((items.map Prod.fst).map I.key).Nodup)
    (hold : ∀ r ∈ (I.tableOf b).rows, ∀ ref, ¬ I.IsFor ref r.2) {p : ρ × α} (hp : p ∈ items) :
    OneRow (I.tableOf (I.putAll b items)) (I.IsFor (I.key p.1)) p.2 := by
  obtain ⟨new, hnew, hrows⟩ := tableOf_putAll (I := I) b items
  have hfor : ∀ q ∈ items, ∀ ref, I.IsFor ref q.2 ↔ ref = I.key q.1 := fun q hq => I.isFor_make (hmakes q hq).1
  have heq : ∀ q ∈ items, I.IsFor (I.key p.1) q.2 → q = p := by
    intro q hq hqp
    rw [List.map_map] at hnodup
    exact List.inj_on_of_nodup_map hnodup hq hp ((hfor q hq _).1 hqp).symm
  have hnodupNew : (new.map Prod.snd).Nodup := by
    rw [hnew]
    refine (List.nodup_map_iff_inj_on ?_).2 fun q hq q' hq' hsame => ?_
    · rw [List.map_map] at hnodup
      exact hnodup.of_map
    · have hkeys := ((hfor q' hq' _).1 (hsame ▸ (hfor q hq _).2 rfl))
      rw [List.map_map] at hnodup
      exact List.inj_on_of_nodup_map hnodup hq hq' hkeys
  obtain ⟨⟨id, a⟩, hmem, ha⟩ := List.mem_map.1 (hnew ▸ List.mem_map_of_mem hp : p.2 ∈ new.map Prod.snd)
  dsimp only at ha
  subst ha
  refine ⟨id, Table.mem_rows.1 (hrows ▸ List.mem_append_right _ hmem), (hfor p hp _).2 rfl, fun id' a' hget hisFor => ?_⟩
  have hmem' := Table.mem_rows.2 hget
  rw [hrows] at hmem'
  rcases List.mem_append.1 hmem' with hmem' | hmem'
  · exact absurd hisFor (hold _ hmem' _)
  · obtain ⟨q, hq, rfl⟩ := List.mem_map.1 (hnew ▸ List.mem_map_of_mem hmem' : a' ∈ items.map Prod.snd)
    obtain rfl := heq q hq hisFor
    exact congrArg Prod.fst (List.inj_on_of_nodup_map hnodupNew hmem' hmem rfl)

end Importing

end CoreOps.Imports
