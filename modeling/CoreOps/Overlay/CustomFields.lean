import CoreOps.Lib.Json
import CoreOps.Overlay.Enforcement
import Mathlib.Data.List.ReduceOption
import Mathlib.Data.List.Sort

/-! Closing and reopening a work item with the custom fields they set. Both hand the two
fields of the disposition to the validator of a whole record, which asks for every required
field of the tenant; so an item can be closed and reopened just where no other field is
required and the two fields take the values. -/

namespace CoreOps.Overlay

open Checked Text

def entityWorkItem : String := "work_item"

/-- What the interpreter makes of texts: `float`, as it is stored, `str(Decimal(..))`,
`lower`, and the text of a list. -/
structure Interpreter where
  float : String → Option Json
  decimal : String → Option String
  lower : String → String
  listRepr : List String → String

inductive CustomFieldType
  | string
  | text
  | number
  | money
  | boolean
  | date
  | datetime
  | select
  | multiSelect
  | file
  | json
  | reference
  deriving DecidableEq, Repr

/-- `CustomFieldType(field_type)`; a text that is no type is none. -/
def CustomFieldType.ofValue? (fieldType : String) : Option CustomFieldType :=
  [("string", .string), ("text", .text), ("number", .number), ("money", .money), ("boolean", .boolean),
    ("date", .date), ("datetime", .datetime), ("select", .select), ("multi_select", .multiSelect), ("file", .file),
    ("json", .json), ("reference", .reference)].lookup fieldType

/-- A definition, but for its keys: its tenant, its entity and the key of the field. -/
structure CustomFieldDefinition where
  fieldType : String
  choices : List String
  isRequired : Bool
  sortOrder : ℤ
  deriving DecidableEq, Repr

inductive FieldError
  | conflict (message : String)
  /-- An exception of `float` or `Decimal`. -/
  | unexpected
  deriving DecidableEq, Repr

/-- The keys of a value: tenant, entity, the row it belongs to, and the key of the field. -/
abbrev ValueKey := ℕ × String × ℕ × String

abbrev Definitions := Table (ℕ × String × String) CustomFieldDefinition

abbrev Values := Table ValueKey Json

section Validation

variable (py : Interpreter)

def listDefinitions (definitions : Definitions) (tenantId : ℕ) (entityType : String) :
    List (String × CustomFieldDefinition) :=
  ((definitions.rows.filter fun r => r.1.1 = tenantId ∧ r.1.2.1 = entityType).map fun r => (r.1.2.2, r.2)).insertionSort
    fun a b => a.2.sortOrder ≤ b.2.sortOrder

/-- `_coerce_value` of a text, or of nothing. -/
def coerceValue (raw : Option String) (fieldKey : String) (definition : CustomFieldDefinition) :
    Except FieldError Json :=
  match raw with
  | none => return .null
  | some raw => match CustomFieldType.ofValue? definition.fieldType with
    | some .string | some .text | some .date | some .datetime => return .str raw
    | some .number => orRaise (py.float raw) .unexpected
    | some .money => do
      let amount ← orRaise (py.decimal raw) .unexpected
      return .str amount
    | some .boolean => return .bool (py.lower raw ∈ ["1", "true", "yes", "on"])
    | some .select => do
      let options := py.listRepr definition.choices
      raiseIf (definition.choices ≠ [] ∧ raw ∉ definition.choices)
        (.conflict s!"Invalid value for '{fieldKey}': must be one of {options}")
      return .str raw
    | some .multiSelect => .error (.conflict s!"Field '{fieldKey}' expects a list")
    | some .json | some .reference | some .file | none => return .str raw

/-- A value of the field, if there is one; a field that is required needs one. -/
def prepareField (values : List (String × Option String)) (fieldKey : String) (definition : CustomFieldDefinition) :
    Except FieldError (Option (String × Json)) :=
  match values.lookup fieldKey with
  | none => do
    raiseIf definition.isRequired (.conflict s!"Required custom field missing: {fieldKey}")
    return none
  | some raw => do
    let value ← coerceValue py raw fieldKey definition
    return some (fieldKey, value)

def validateAndPrepare (definitions : List (String × CustomFieldDefinition)) (values : List (String × Option String)) :
    Except FieldError (List (String × Json)) := do
  let unknown := (values.map Prod.fst).filter (· ∉ definitions.map Prod.fst)
  let keys := ", ".intercalate (unknown.mergeSort (· ≤ ·))
  raiseIf (unknown ≠ []) (.conflict s!"Unknown custom fields: {keys}")
  let prepared ← definitions.mapM fun d => prepareField py values d.1 d.2
  return prepared.reduceOption

def upsertValue (k : ValueKey) (value : Json) (stored : Values) : Values :=
  if stored.get? k = none then stored.insert k value else stored.modify k fun _ => value

def upsertValues (tenantId : ℕ) (entityType : String) (entityId : ℕ) (prepared : List (String × Json))
    (stored : Values) : Values :=
  prepared.foldl (fun stored p => upsertValue (tenantId, entityType, entityId, p.1) p.2 stored) stored

end Validation

/-! The two calls. -/

section Calls

inductive DispositionCode
  | spam
  | offTopic
  | duplicate
  | test
  | noResponse
  | other
  deriving DecidableEq, Repr

def DispositionCode.value : DispositionCode → String
  | .spam => "spam"
  | .offTopic => "off_topic"
  | .duplicate => "duplicate"
  | .test => "test"
  | .noResponse => "no_response"
  | .other => "other"

structure CloseWorkItemRequest where
  disposition : DispositionCode
  dispositionNote : Option String
  deriving DecidableEq, Repr

inductive CallError
  | overlay (error : OverlayError)
  | field (error : FieldError)
  deriving DecidableEq, Repr

/-- The rows of the work items, with the custom fields. -/
structure FieldState where
  state : State
  definitions : Definitions
  values : Values

variable (py : Interpreter) (tenantId workItemId : ℕ)

/-- A change of stage that sets custom fields. -/
def changeWithFields (plan : State → ℕ → WorkItem → Except OverlayError (Option StageChange))
    (fields : List (String × Option String)) (d : FieldState) : Except CallError FieldState := do
  let item ← (getWorkItemOr404 tenantId workItemId d.state).mapError .overlay
  let change ← (plan d.state tenantId item).mapError .overlay
  let result ← (guardChange d.state tenantId workItemId item change).mapError .overlay
  let prepared ← (validateAndPrepare py (listDefinitions d.definitions tenantId entityWorkItem) fields).mapError .field
  return { d with
    state := applyChange d.state workItemId result change
    values := upsertValues tenantId entityWorkItem workItemId prepared d.values }

/-- What a close sets; an empty note is none. -/
def CloseWorkItemRequest.fields (payload : CloseWorkItemRequest) : List (String × Option String) :=
  [("disposition", some payload.disposition.value),
    ("disposition_note", (payload.dispositionNote.filter (· ≠ "")).map strip)]

def reopenFields : List (String × Option String) := [("disposition", none), ("disposition_note", none)]

def closeWithFields (payload : CloseWorkItemRequest) (d : FieldState) : Except CallError FieldState :=
  changeWithFields py tenantId workItemId planClose payload.fields d

def reopenWithFields (d : FieldState) : Except CallError FieldState :=
  changeWithFields py tenantId workItemId planReopen reopenFields d

end Calls

/-! What the validator accepts. -/

section Accepted

variable {py : Interpreter} {definitions : List (String × CustomFieldDefinition)}
variable {fields : List (String × Option String)}

/-- The definition takes what the fields give it: a value of its type, or nothing where it is
not required. -/
def Takes (py : Interpreter) (fields : List (String × Option String)) (d : String × CustomFieldDefinition) : Prop :=
  match fields.lookup d.1 with
  | none => d.2.isRequired = false
  | some raw => (coerceValue py raw d.1 d.2).isOk

theorem prepareField_ok_iff {d : String × CustomFieldDefinition} :
    (∃ prepared, prepareField py fields d.1 d.2 = .ok prepared) ↔ Takes py fields d := by
  unfold prepareField Takes
  cases fields.lookup d.1 with
  | none => simp
  | some raw =>
    simp only [bind_eq_ok, pure_eq_ok]
    constructor
    · rintro ⟨_, value, hvalue, -⟩
      rw [hvalue]
      rfl
    · intro h
      obtain ⟨value, hvalue⟩ := exists_of_isOk h
      exact ⟨_, value, hvalue, rfl⟩

theorem prepareField_key {d : String × CustomFieldDefinition} {p : String × Json}
    (h : prepareField py fields d.1 d.2 = .ok (some p)) : p.1 ∈ fields.map Prod.fst := by
  unfold prepareField at h
  split at h
  · simp at h
  · rename_i raw hlookup
    simp only [bind_eq_ok, pure_eq_ok, Option.some.injEq] at h
    obtain ⟨value, -, rfl⟩ := h
    obtain ⟨before, after, hsplit, -⟩ := List.lookup_eq_some_iff.1 hlookup
    rw [hsplit]
    simp

theorem validateAndPrepare_ok_iff :
    (∃ prepared, validateAndPrepare py definitions fields = .ok prepared) ↔
      (∀ key ∈ fields.map Prod.fst, key ∈ definitions.map Prod.fst) ∧ ∀ d ∈ definitions, Takes py fields d := by
  simp only [validateAndPrepare, bind_eq_ok, raiseIf_eq_ok, pure_eq_ok, not_not]
  constructor
  · rintro ⟨_, _, hknown, prepared, hprepared, rfl⟩
    refine ⟨fun key hkey => ?_, fun d hd => ?_⟩
    · have hnot := List.filter_eq_nil_iff.1 hknown key hkey
      simpa using hnot
    · obtain ⟨p, -, hp⟩ := exists_of_mem_forall₂_left (mapM_eq_ok hprepared) hd
      exact prepareField_ok_iff.1 ⟨p, hp⟩
  · rintro ⟨hknown, htakes⟩
    obtain ⟨prepared, hprepared⟩ := exists_mapM fun d hd => prepareField_ok_iff.2 (htakes d hd)
    refine ⟨prepared.reduceOption, ⟨⟩, ?_, prepared, hprepared, rfl⟩
    exact List.filter_eq_nil_iff.2 fun key hkey => by simpa using hknown key hkey

/-- Only keys that were given are set. -/
theorem validateAndPrepare_keys {prepared : List (String × Json)}
    (h : validateAndPrepare py definitions fields = .ok prepared) : ∀ p ∈ prepared, p.1 ∈ fields.map Prod.fst := by
  simp only [validateAndPrepare, bind_eq_ok, pure_eq_ok] at h
  obtain ⟨-, -, found, hfound, rfl⟩ := h
  intro p hp
  obtain ⟨d, -, hd⟩ := exists_of_mem_forall₂ (mapM_eq_ok hfound) (List.reduceOption_mem_iff.1 hp)
  exact prepareField_key hd

theorem get?_upsertValue {stored : Values} {k j : ValueKey} {value : Json} (h : j ≠ k) :
    (upsertValue k value stored).get? j = stored.get? j := by
  unfold upsertValue
  split
  · rw [Table.get?_insert, if_neg h]
  · exact Table.get?_modify_of_ne _ h _

/-- Values under other keys stay. -/
theorem get?_upsertValues {tenantId entityId : ℕ} {entityType : String} {prepared : List (String × Json)}
    {stored : Values} {k : ValueKey} (h : ∀ p ∈ prepared, k ≠ (tenantId, entityType, entityId, p.1)) :
    (upsertValues tenantId entityType entityId prepared stored).get? k = stored.get? k := by
  induction prepared generalizing stored with
  | nil => rfl
  | cons p prepared ih =>
    have hrest : ∀ p ∈ prepared, k ≠ (tenantId, entityType, entityId, p.1) :=
      fun p' hp' => h p' (List.mem_cons_of_mem p hp')
    exact (ih hrest).trans (get?_upsertValue (h p List.mem_cons_self))

end Accepted

/-! The calls, stage and fields. -/

section Split

variable {py : Interpreter} {tenantId workItemId : ℕ} {d d' : FieldState}
variable {plan : State → ℕ → WorkItem → Except OverlayError (Option StageChange)} {fields : List (String × Option String)}

/-- The stage's part of a change. -/
def changeStage (tenantId workItemId : ℕ) (plan : State → ℕ → WorkItem → Except OverlayError (Option StageChange))
    (s : State) : Except OverlayError State := do
  let item ← getWorkItemOr404 tenantId workItemId s
  let change ← plan s tenantId item
  let result ← guardChange s tenantId workItemId item change
  return applyChange s workItemId result change

/-- Closing and reopening an item without fields is the stage's part alone. -/
theorem closeWorkItem_eq (s : State) :
    closeWorkItem tenantId workItemId (.ok ()) s = changeStage tenantId workItemId planClose s :=
  rfl

theorem reopenWorkItem_eq (s : State) :
    reopenWorkItem tenantId workItemId (.ok ()) s = changeStage tenantId workItemId planReopen s := rfl

theorem changeWithFields_ok_iff :
    changeWithFields py tenantId workItemId plan fields d = .ok d' ↔
      ∃ state prepared, changeStage tenantId workItemId plan d.state = .ok state ∧
        validateAndPrepare py (listDefinitions d.definitions tenantId entityWorkItem) fields = .ok prepared ∧
        { d with state := state, values := upsertValues tenantId entityWorkItem workItemId prepared d.values } = d' := by
  simp only [changeWithFields, changeStage, bind_eq_ok, mapError_eq_ok, pure_eq_ok]
  constructor
  · rintro ⟨item, hitem, change, hchange, result, hresult, prepared, hprepared, rfl⟩
    exact ⟨_, prepared, ⟨item, hitem, change, hchange, result, hresult, rfl⟩, hprepared, rfl⟩
  · rintro ⟨_, prepared, ⟨item, hitem, change, hchange, result, hresult, rfl⟩, hprepared, rfl⟩
    exact ⟨item, hitem, change, hchange, result, hresult, prepared, hprepared, rfl⟩

/-- A change leaves the values of other fields, and of other rows, as they are. -/
theorem changeWithFields_keeps (h : changeWithFields py tenantId workItemId plan fields d = .ok d') {k : ValueKey}
    (hk : ∀ key ∈ fields.map Prod.fst, k ≠ (tenantId, entityWorkItem, workItemId, key)) :
    d'.values.get? k = d.values.get? k := by
  obtain ⟨state, prepared, -, hprepared, rfl⟩ := changeWithFields_ok_iff.1 h
  exact get?_upsertValues fun p hp => hk p.1 (validateAndPrepare_keys hprepared p hp)

end Split

section Disposition

variable {py : Interpreter} {tenantId workItemId : ℕ} {payload : CloseWorkItemRequest} {d : FieldState}

/-- The disposition fields of the tenant. -/
def DispositionDefined (d : FieldState) (tenantId : ℕ) : Prop :=
  ∀ key ∈ ["disposition", "disposition_note"], d.definitions.get? (tenantId, entityWorkItem, key) ≠ none

/-- No other field of the work items is required, and the two fields take what a close sets. -/
def FieldsAllow (py : Interpreter) (d : FieldState) (tenantId : ℕ) (payload : CloseWorkItemRequest) : Prop :=
  ∀ f ∈ listDefinitions d.definitions tenantId entityWorkItem,
    (f.1 ≠ "disposition" → f.1 ≠ "disposition_note" → f.2.isRequired = false) ∧
    (f.1 = "disposition" → (coerceValue py (some payload.disposition.value) f.1 f.2).isOk) ∧
    (f.1 = "disposition_note" →
      (coerceValue py ((payload.dispositionNote.filter (· ≠ "")).map strip) f.1 f.2).isOk)

/-- The pipeline and the guard let the item be closed and then reopened. -/
def StagesAllow (s : State) (tenantId workItemId : ℕ) : Prop :=
  ∃ s₁ s₂, closeWorkItem tenantId workItemId (.ok ()) s = .ok s₁ ∧ reopenWorkItem tenantId workItemId (.ok ()) s₁ = .ok s₂

/-- What the two fields are, where `note` and `disposition` are given for them. -/
theorem takes_iff {disposition note : Option String} {f : String × CustomFieldDefinition} :
    Takes py [("disposition", disposition), ("disposition_note", note)] f ↔
      (f.1 ≠ "disposition" → f.1 ≠ "disposition_note" → f.2.isRequired = false) ∧
      (f.1 = "disposition" → (coerceValue py disposition f.1 f.2).isOk) ∧
      (f.1 = "disposition_note" → (coerceValue py note f.1 f.2).isOk) := by
  rw [Takes, List.lookup_cons, List.lookup_cons, List.lookup_nil]
  by_cases hdisposition : f.1 = "disposition"
  · simp [hdisposition]
  · by_cases hnote : f.1 = "disposition_note"
    · simp [hnote]
    · simp [hdisposition, hnote, beq_eq_false_iff_ne.2 hdisposition, beq_eq_false_iff_ne.2 hnote]

/-- Nothing is a value of every type. -/
theorem takes_reopen {f : String × CustomFieldDefinition} (h : Takes py payload.fields f) :
    Takes py reopenFields f :=
  takes_iff.2 ⟨(takes_iff.1 h).1, fun _ => rfl, fun _ => rfl⟩

theorem mem_listDefinitions {key : String} (h : d.definitions.get? (tenantId, entityWorkItem, key) ≠ none) :
    key ∈ (listDefinitions d.definitions tenantId entityWorkItem).map Prod.fst := by
  obtain ⟨definition, hget⟩ := Option.ne_none_iff_exists'.1 h
  refine List.mem_map_of_mem (f := Prod.fst) (a := (key, definition)) ((List.mem_insertionSort _).2 ?_)
  exact List.mem_map.2 ⟨_, List.mem_filter.2 ⟨Table.mem_rows.2 hget, by simp⟩, rfl⟩

end Disposition

/-- Where the disposition fields are defined, an item is closed and reopened with all other
values as they were just when its stages allow it, no other field is required, and the
disposition fields take the values of the close. -/
theorem close_reopen_iff {py : Interpreter} {tenantId workItemId : ℕ} {payload : CloseWorkItemRequest} {d : FieldState}
    (hdefined : DispositionDefined d tenantId) :
    (∃ d₁ d₂, closeWithFields py tenantId workItemId payload d = .ok d₁ ∧
      reopenWithFields py tenantId workItemId d₁ = .ok d₂ ∧
      ∀ k, k ≠ (tenantId, entityWorkItem, workItemId, "disposition") →
        k ≠ (tenantId, entityWorkItem, workItemId, "disposition_note") → d₂.values.get? k = d.values.get? k) ↔
    StagesAllow d.state tenantId workItemId ∧ FieldsAllow py d tenantId payload := by
  have hknown : ∀ key ∈ ["disposition", "disposition_note"],
      key ∈ (listDefinitions d.definitions tenantId entityWorkItem).map Prod.fst :=
    fun key hkey => mem_listDefinitions (hdefined key hkey)
  constructor
  · rintro ⟨d₁, d₂, hclose, hreopen, -⟩
    obtain ⟨s₁, prepared, hstage, hprepared, rfl⟩ := changeWithFields_ok_iff.1 hclose
    obtain ⟨s₂, cleared, hstage', -, rfl⟩ := changeWithFields_ok_iff.1 hreopen
    have htakes := (validateAndPrepare_ok_iff.1 ⟨prepared, hprepared⟩).2
    exact ⟨⟨s₁, s₂, hstage, hstage'⟩, fun f hf => takes_iff.1 (htakes f hf)⟩
  · rintro ⟨⟨s₁, s₂, hstage, hstage'⟩, hfields⟩
    have htakes : ∀ f ∈ listDefinitions d.definitions tenantId entityWorkItem, Takes py payload.fields f :=
      fun f hf => takes_iff.2 (hfields f hf)
    have htakes' : ∀ f ∈ listDefinitions d.definitions tenantId entityWorkItem, Takes py reopenFields f :=
      fun f hf => takes_reopen (htakes f hf)
    have hset : ∃ prepared, validateAndPrepare py (listDefinitions d.definitions tenantId entityWorkItem)
        payload.fields = .ok prepared := validateAndPrepare_ok_iff.2 ⟨hknown, htakes⟩
    have hclear : ∃ cleared, validateAndPrepare py (listDefinitions d.definitions tenantId entityWorkItem)
        reopenFields = .ok cleared := validateAndPrepare_ok_iff.2 ⟨hknown, htakes'⟩
    obtain ⟨prepared, hprepared⟩ := hset
    obtain ⟨cleared, hcleared⟩ := hclear
    have hclose : ∃ d₁, closeWithFields py tenantId workItemId payload d = .ok d₁ ∧ d₁.state = s₁ ∧
        d₁.definitions = d.definitions :=
      ⟨_, changeWithFields_ok_iff.2 ⟨s₁, prepared, hstage, hprepared, rfl⟩, rfl, rfl⟩
    obtain ⟨d₁, hclose, rfl, hdefinitions⟩ := hclose
    rw [← hdefinitions] at hcleared
    have hreopen : ∃ d₂, reopenWithFields py tenantId workItemId d₁ = .ok d₂ :=
      ⟨_, changeWithFields_ok_iff.2 ⟨s₂, cleared, hstage', hcleared, rfl⟩⟩
    obtain ⟨d₂, hreopen⟩ := hreopen
    refine ⟨d₁, d₂, hclose, hreopen, fun k hdisposition hnote => ?_⟩
    have hother : ∀ key ∈ ["disposition", "disposition_note"], k ≠ (tenantId, entityWorkItem, workItemId, key) := by
      intro key hkey
      rcases List.mem_pair.1 hkey with rfl | rfl
      · exact hdisposition
      · exact hnote
    exact (changeWithFields_keeps hreopen hother).trans (changeWithFields_keeps hclose hother)

/-! A lead in the stage new_lead, and what its tenant's fields ask for. -/

section Example

def leadRows : List (ℕ × PipelineStage) := [(1, ⟨1, "new_lead", 1, false⟩), (2, ⟨1, "rejected", 2, true⟩)]

theorem leadRows_codes : ∀ r ∈ leadRows, ∀ r' ∈ leadRows, r.2.code = r'.2.code → r.1 = r'.1 := by decide

theorem leadRows_nodup : (leadRows.map Prod.fst).Nodup := by decide

def leadStages : Stages where
  table := ⟨leadRows, leadRows_nodup⟩
  code_unique := fun i j a b hi hj _ hcode =>
    leadRows_codes (i, a) (Table.mem_rows.2 hi) (j, b) (Table.mem_rows.2 hj) hcode

def openLead : State :=
  { demoState with
    stages := leadStages
    workItems := ⟨[(7, ⟨1, 1, 1, none, .open_⟩)], List.nodup_singleton 7⟩ }

def dispositionRows (isRequired : Bool) : List ((ℕ × String × String) × CustomFieldDefinition) := [
  ((1, "work_item", "disposition"),
    ⟨"select", ["spam", "off_topic", "duplicate", "test", "no_response", "other"], false, 200⟩),
  ((1, "work_item", "disposition_note"), ⟨"text", [], false, 210⟩),
  ((1, "work_item", "budget"), ⟨"money", [], isRequired, 300⟩)]

theorem dispositionRows_nodup (isRequired : Bool) : ((dispositionRows isRequired).map Prod.fst).Nodup := by
  cases isRequired <;> decide

/-- The tenant has a field for the budget, and the item a value of it. -/
def leadFields (isRequired : Bool) : FieldState where
  state := openLead
  definitions := ⟨dispositionRows isRequired, dispositionRows_nodup isRequired⟩
  values := ⟨[((1, "work_item", 7, "budget"), .str "1000")], List.nodup_singleton _⟩

/-- An interpreter that reads no numbers. -/
def noNumbers : Interpreter := ⟨fun _ => none, fun _ => none, id, ", ".intercalate⟩

def spamClose : CloseWorkItemRequest := ⟨.spam, some " same letter as yesterday "⟩

theorem leadFields_defined (isRequired : Bool) : DispositionDefined (leadFields isRequired) 1 := by
  intro key hkey
  rcases List.mem_pair.1 hkey with rfl | rfl <;> cases isRequired <;> decide

theorem openLead_stages : StagesAllow openLead 1 7 := by
  have hrun : (do
      let s₁ ← closeWorkItem 1 7 (.ok ()) openLead
      reopenWorkItem 1 7 (.ok ()) s₁).isOk := by decide
  obtain ⟨s₂, hs₂⟩ := exists_of_isOk hrun
  obtain ⟨s₁, hclose, hreopen⟩ := bind_eq_ok.1 hs₂
  exact ⟨s₁, s₂, hclose, hreopen⟩

/-- A field of the tenant that is required keeps the item from being closed, whatever its
value. -/
theorem required_field_blocks : DispositionDefined (leadFields true) 1 ∧ StagesAllow (leadFields true).state 1 7 ∧
    ¬ ∃ d₁, closeWithFields noNumbers 1 7 spamClose (leadFields true) = .ok d₁ := by
  have hrefused : (closeWithFields noNumbers 1 7 spamClose (leadFields true)).map (fun _ => ()) =
      .error (.field (.conflict "Required custom field missing: budget")) := by decide
  refine ⟨leadFields_defined true, openLead_stages, ?_⟩
  rintro ⟨d₁, hclose⟩
  rw [hclose] at hrefused
  cases hrefused

theorem leadFields_allow : FieldsAllow noNumbers (leadFields false) 1 spamClose := by
  unfold FieldsAllow
  decide

theorem close_reopen_lead : ∃ d₁ d₂, closeWithFields noNumbers 1 7 spamClose (leadFields false) = .ok d₁ ∧
    reopenWithFields noNumbers 1 7 d₁ = .ok d₂ ∧
    ∀ k, k ≠ (1, entityWorkItem, 7, "disposition") → k ≠ (1, entityWorkItem, 7, "disposition_note") →
      d₂.values.get? k = (leadFields false).values.get? k :=
  (close_reopen_iff (leadFields_defined false)).2 ⟨openLead_stages, leadFields_allow⟩

end Example

end CoreOps.Overlay
