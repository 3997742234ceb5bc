import CoreOps.Lib.Checked
import CoreOps.Lib.Lines
import CoreOps.Lib.Table
import Mathlib.Data.List.ReduceOption
import Mathlib.Data.List.Sort

/-! The validation of custom fields. A value that is prepared is prepared again as it is; but
a field that is required may be null, and the elements of a multiple choice are not looked at. -/

namespace CoreOps.Parties.CustomFields

open Checked

inductive CustomFieldType
  | string
  | text
  | number
  | money
  | boolean
  | date
  | datetime
  | select
  | multiSelect
  | file
  | json
  | reference
  deriving DecidableEq, Repr

/-- `CustomFieldType(field_type)`; a text that is no type is none. -/
def CustomFieldType.ofValue? (fieldType : String) : Option CustomFieldType :=
  [("string", .string), ("text", .text), ("number", .number), ("money", .money), ("boolean", .boolean),
    ("date", .date), ("datetime", .datetime), ("select", .select), ("multi_select", .multiSelect), ("file", .file),
    ("json", .json), ("reference", .reference)].lookup fieldType

/-- A document of a request, or a date that a caller hands over. A float is what `repr` writes. -/
inductive Value
  | none
  | bool (b : Bool)
  | int (n : ℤ)
  | float (repr : String)
  | str (s : String)
  | list (items : List Value)
  | dict (members : List (String × Value))
  | date (isoformat : String)
  | datetime (isoformat : String)

/-- What the interpreter makes of values: `str` of what is no text, `float`, `str(Decimal(..))`,
`lower` and `==`. A decimal's text is the text of its decimal. -/
structure Interpreter where
  text : Value → String
  float : Value → Option String
  decimal : String → Option String
  lower : String → String
  equal : Value → Value → Bool
  decimal_decimal : ∀ s t, decimal s = some t → decimal t = some t

inductive FieldError
  | conflictError (message : String)
  /-- An exception of `float`, `Decimal` or `in`. -/
  | unexpected
  deriving DecidableEq, Repr

structure CustomFieldDefinition where
  fieldType : String
  appliesToJson : List (String × Value)
  optionsJson : List (String × Value)
  isRequired : Bool
  sortOrder : ℤ

/-- The definitions by tenant, entity type and field key. -/
abbrev Definitions := Table (ℕ × String × String) CustomFieldDefinition

section Validation

variable (py : Interpreter)

def truthy : Value → Bool
  | .none => false
  | .bool b => b
  | .int n => n ≠ 0
  | .float repr => repr ≠ "0.0" ∧ repr ≠ "-0.0"
  | .str s => s ≠ ""
  | .list items => !items.isEmpty
  | .dict members => !members.isEmpty
  | .date _ => true
  | .datetime _ => true

def hashable : Value → Bool
  | .list _ => false
  | .dict _ => false
  | _ => true

def isList : Value → Bool
  | .list _ => true
  | _ => false

/-- `raw in options`. -/
def contains (raw : Value) : Value → Except FieldError Bool
  | .list items => .ok (items.any (py.equal raw))
  | .dict members =>
    if hashable raw then .ok (members.any fun m => py.equal raw (.str m.1)) else .error .unexpected
  | .str text =>
    match raw with
    | .str part => .ok ((text.toList.tails).any fun rest => part.toList.isPrefixOf rest)
    | _ => .error .unexpected
  | _ => .error .unexpected

def strOf : Value → String
  | .str s => s
  | v => py.text v

/-- `float(raw)`; a float is its own. -/
def floatOf : Value → Except FieldError Value
  | .float repr => .ok (.float repr)
  | v => do
    let repr ← orRaise (py.float v) .unexpected
    return .float repr

def isoformatOr : Value → Value
  | .date isoformat => .str isoformat
  | .datetime isoformat => .str isoformat
  | v => .str (strOf py v)

/-- For a field with a time, a day alone is no `datetime`. -/
def isoformatTimeOr : Value → Value
  | .datetime isoformat => .str isoformat
  | v => .str (strOf py v)

def boolOf : Value → Value
  | .bool b => .bool b
  | v => .bool (py.lower (strOf py v) ∈ ["1", "true", "yes", "on"])

def choicesOf (definition : CustomFieldDefinition) : Value := (definition.optionsJson.lookup "choices").getD (.list [])

/-- `not options or raw in options`. -/
def isChoice (raw : Value) (definition : CustomFieldDefinition) : Except FieldError Bool :=
  if truthy (choicesOf definition) then contains py raw (choicesOf definition) else .ok true

/-- `_coerce_value` of a value that is not null. -/
def coerceAs (raw : Value) (fieldKey : String) (definition : CustomFieldDefinition) : Except FieldError Value :=
  match CustomFieldType.ofValue? definition.fieldType with
  | some .string | some .text => return .str (strOf py raw)
  | some .number => floatOf py raw
  | some .money => do
    let amount ← orRaise (py.decimal (strOf py raw)) .unexpected
    return .str amount
  | some .boolean => return boolOf py raw
  | some .date => return isoformatOr py raw
  | some .datetime => return isoformatTimeOr py raw
  | some .select => do
    let found ← isChoice py raw definition
    let text := py.text (choicesOf definition)
    raiseIf (found = false) (.conflictError s!"Invalid value for '{fieldKey}': must be one of {text}")
    return raw
  | some .multiSelect => do
    raiseIf (¬ isList raw) (.conflictError s!"Field '{fieldKey}' expects a list")
    return raw
  | some .json | some .reference | some .file | none => return raw

def coerceValue (raw : Value) (fieldKey : String) (definition : CustomFieldDefinition) : Except FieldError Value :=
  match raw with
  | .none => return .none
  | raw => coerceAs py raw fieldKey definition

/-- `_matches_applies_to`. -/
def matchesAppliesTo (definitionFilter context : List (String × Value)) : Bool :=
  definitionFilter.all fun m => py.equal ((context.lookup m.1).getD .none) m.2

def listDefinitions (definitions : Definitions) (tenantId : ℕ) (entityType : String) :
    List (String × CustomFieldDefinition) :=
  ((definitions.rows.filter fun r => r.1.1 = tenantId ∧ r.1.2.1 = entityType).map fun r => (r.1.2.2, r.2)).insertionSort
    fun a b => a.2.sortOrder ≤ b.2.sortOrder

/-- The definitions that apply; with no context all of them do. -/
def applicable (definitions : List (String × CustomFieldDefinition)) (appliesTo : List (String × Value)) :
    List (String × CustomFieldDefinition) :=
  if appliesTo ≠ [] then
    definitions.filter fun d => d.2.appliesToJson.isEmpty || matchesAppliesTo py d.2.appliesToJson appliesTo
  else definitions

/-- One round of the loop over the definitions. -/
def prepareField (values : List (String × Value)) (d : String × CustomFieldDefinition) :
    Except FieldError (Option (String × Value)) :=
  let fieldKey := d.1
  match values.lookup fieldKey with
  | none => do
    raiseIf (d.2.isRequired = true) (.conflictError s!"Required custom field missing: {fieldKey}")
    return none
  | some raw => do
    let value ← coerceValue py raw fieldKey d.2
    return some (fieldKey, value)

/-- The checks over the definitions that apply. -/
def prepare (definitions : List (String × CustomFieldDefinition)) (values : List (String × Value)) :
    Except FieldError (List (String × Value)) := do
  let unknown := (values.map Prod.fst).filter (· ∉ definitions.map Prod.fst)
  let keys := ", ".intercalate (unknown.insertionSort (· ≤ ·))
  raiseIf (unknown ≠ []) (.conflictError s!"Unknown custom fields: {keys}")
  let prepared ← definitions.mapM (prepareField py values)
  return prepared.reduceOption

def validateAndPrepare (definitions : Definitions) (tenantId : ℕ) (entityType : String)
    (values : Option (List (String × Value))) (appliesTo : Option (List (String × Value))) :
    Except FieldError (List (String × Value)) :=
  prepare py (applicable py (listDefinitions definitions tenantId entityType) (appliesTo.getD [])) (values.getD [])

end Validation

/-! What is prepared. -/

section Prepared

variable {py : Interpreter} {definitions : List (String × CustomFieldDefinition)} {values prepared : List (String × Value)}
  {definition : CustomFieldDefinition} {d : String × CustomFieldDefinition} {raw value : Value} {fieldKey : String}

theorem coerceValue_of_ne (h : raw ≠ .none) : coerceValue py raw fieldKey definition = coerceAs py raw fieldKey definition := by
  cases raw with
  | none => exact absurd rfl h
  | _ => rfl

theorem floatOf_ok (h : floatOf py raw = .ok value) : ∃ repr, value = .float repr := by
  unfold floatOf at h
  split at h
  · exact ⟨_, (Except.ok.inj h).symm⟩
  · simp only [bind_eq_ok, orRaise_eq_ok, pure_eq_ok] at h
    obtain ⟨repr, -, rfl⟩ := h
    exact ⟨repr, rfl⟩

theorem isoformatOr_str (py : Interpreter) (raw : Value) : ∃ s, isoformatOr py raw = .str s := by
  unfold isoformatOr
  split <;> exact ⟨_, rfl⟩

theorem isoformatTimeOr_str (py : Interpreter) (raw : Value) : ∃ s, isoformatTimeOr py raw = .str s := by
  unfold isoformatTimeOr
  split <;> exact ⟨_, rfl⟩

theorem boolOf_bool (py : Interpreter) (raw : Value) : ∃ b, boolOf py raw = .bool b := by
  unfold boolOf
  split <;> exact ⟨_, rfl⟩

/-- A value that has been coerced is not null, and is coerced to itself. -/
theorem coerceAs_ok (hraw : raw ≠ .none) (h : coerceAs py raw fieldKey definition = .ok value) :
    value ≠ .none ∧ coerceAs py value fieldKey definition = .ok value := by
  have hkept (hsame : raw = value) : value ≠ .none ∧ coerceAs py value fieldKey definition = .ok value := by
    subst hsame
    exact ⟨hraw, h⟩
  unfold coerceAs at h ⊢
  rcases htype : CustomFieldType.ofValue? definition.fieldType with - | fieldType
  · rw [htype] at h
    exact ⟨Except.ok.inj h ▸ hraw, rfl⟩
  rw [htype] at h
  cases fieldType with
  | string | text =>
    obtain rfl := Except.ok.inj h
    exact ⟨fun hnone => (by cases hnone), rfl⟩
  | number =>
    obtain ⟨repr, rfl⟩ := floatOf_ok h
    exact ⟨fun hnone => (by cases hnone), rfl⟩
  | money =>
    simp only [bind_eq_ok, orRaise_eq_ok, pure_eq_ok] at h
    obtain ⟨amount, hamount, rfl⟩ := h
    refine ⟨fun hnone => (by cases hnone), ?_⟩
    simp only [strOf, py.decimal_decimal _ _ hamount, orRaise, bind_eq_ok, pure_eq_ok]
    exact ⟨amount, rfl, rfl⟩
  | boolean =>
    obtain rfl := Except.ok.inj h
    obtain ⟨b, hb⟩ := boolOf_bool py raw
    rw [hb]
    exact ⟨fun hnone => (by cases hnone), rfl⟩
  | date =>
    obtain rfl := Except.ok.inj h
    obtain ⟨text, htext⟩ := isoformatOr_str py raw
    rw [htext]
    exact ⟨fun hnone => (by cases hnone), rfl⟩
  | datetime =>
    obtain rfl := Except.ok.inj h
    obtain ⟨text, htext⟩ := isoformatTimeOr_str py raw
    rw [htext]
    exact ⟨fun hnone => (by cases hnone), rfl⟩
  | select =>
    have hsame : raw = value := by
      simp only [bind_eq_ok, raiseIf_eq_ok, pure_eq_ok] at h
      obtain ⟨found, -, -, -, hsame⟩ := h
      exact hsame
    rw [← hsame] at h ⊢
    exact ⟨hraw, h⟩
  | multiSelect =>
    have hsame : raw = value := by
      simp only [bind_eq_ok, raiseIf_eq_ok, pure_eq_ok] at h
      obtain ⟨-, -, hsame⟩ := h
      exact hsame
    rw [← hsame] at h ⊢
    exact ⟨hraw, h⟩
  | file | json | reference => exact ⟨Except.ok.inj h ▸ hraw, rfl⟩

/-- A value is null after it has been coerced just where it was, and is coerced to itself. -/
theorem coerceValue_ok (h : coerceValue py raw fieldKey definition = .ok value) :
    (value = .none ↔ raw = .none) ∧ coerceValue py value fieldKey definition = .ok value := by
  by_cases hraw : raw = .none
  · subst hraw
    obtain rfl := Except.ok.inj h
    exact ⟨Iff.rfl, rfl⟩
  · rw [coerceValue_of_ne hraw] at h
    obtain ⟨hne, hsame⟩ := coerceAs_ok hraw h
    exact ⟨iff_of_false hne hraw, by rw [coerceValue_of_ne hne]; exact hsame⟩

/-- The round of a definition, and what is prepared under its key. -/
theorem lookup_reduceOption {rounds : List (Option (String × Value))} (hnodup : (definitions.map Prod.fst).Nodup)
    (h : definitions.mapM (prepareField py values) = .ok rounds) :
    (∀ d ∈ definitions, ∃ round, prepareField py values d = .ok round ∧
        rounds.reduceOption.lookup d.1 = round.map Prod.snd) ∧
      ∀ m ∈ rounds.reduceOption, m.1 ∈ definitions.map Prod.fst := by
  induction definitions generalizing rounds with
  | nil =>
    obtain rfl := Except.ok.inj h
    exact ⟨fun _ h => absurd h List.not_mem_nil, fun _ h => absurd h List.not_mem_nil⟩
  | cons d definitions ih =>
    obtain ⟨hnew, hnodup⟩ := List.nodup_cons.1 hnodup
    simp only [List.mapM_cons, bind_eq_ok, pure_eq_ok] at h
    obtain ⟨round, hround, rest, hrest, rfl⟩ := h
    obtain ⟨hlookup, hkeys⟩ := ih hnodup hrest
    have hkey : ∀ m ∈ round, m.1 = d.1 := by
      intro m hm
      obtain rfl := Option.mem_def.1 hm
      unfold prepareField at hround
      dsimp only at hround
      split at hround
      · simp at hround
      · simp only [bind_eq_ok, pure_eq_ok] at hround
        obtain ⟨value, -, he⟩ := hround
        rw [← Option.some.inj he]
    cases round with
    | none =>
      rw [List.reduceOption_cons_of_none]
      refine ⟨List.forall_mem_cons.2 ⟨⟨none, hround, ?_⟩, hlookup⟩, fun m hm => List.mem_cons_of_mem _ (hkeys m hm)⟩
      rw [Option.map_none, List.lookup_eq_none_iff]
      intro m hm
      have hne : d.1 ≠ m.1 := fun he => hnew (by rw [he]; exact hkeys m hm)
      exact bne_iff_ne.2 hne
    | some m =>
      have hm : m.1 = d.1 := hkey m rfl
      rw [List.reduceOption_cons_of_some]
      refine ⟨List.forall_mem_cons.2 ⟨⟨some m, hround, ?_⟩, fun e he => ?_⟩,
        List.forall_mem_cons.2 ⟨?_, fun m' hm' => ?_⟩⟩
      · rw [List.lookup_cons, hm]
        simp
      · obtain ⟨round, hround, hlook⟩ := hlookup e he
        have hne : (e.1 == m.1) = false := by
          refine beq_eq_false_iff_ne.2 fun hsame => hnew ?_
          rw [← hm, ← hsame]
          exact List.mem_map_of_mem he
        refine ⟨round, hround, ?_⟩
        rw [List.lookup_cons, hne]
        exact hlook
      · rw [hm]
        exact List.mem_cons_self
      · exact List.mem_cons_of_mem _ (hkeys m' hm')

theorem mapM_congr {α β : Type} {f g : α → Except FieldError β} {l : List α} (h : ∀ a ∈ l, f a = g a) :
    l.mapM f = l.mapM g := by
  induction l with
  | nil => rfl
  | cons a l ih =>
    obtain ⟨ha, hl⟩ := List.forall_mem_cons.1 h
    rw [List.mapM_cons, List.mapM_cons, ha, ih hl]

theorem prepare_eq_ok : prepare py definitions values = .ok prepared ↔
    (∀ m ∈ values, m.1 ∈ definitions.map Prod.fst) ∧
      ∃ rounds, definitions.mapM (prepareField py values) = .ok rounds ∧ rounds.reduceOption = prepared := by
  have hunknown : (values.map Prod.fst).filter (· ∉ definitions.map Prod.fst) = [] ↔
      ∀ m ∈ values, m.1 ∈ definitions.map Prod.fst := by
    rw [List.filter_eq_nil_iff]
    simp only [List.forall_mem_map, decide_not, Bool.not_eq_true', decide_eq_false_iff_not, not_not]
  rw [← hunknown]
  simp only [prepare, bind_eq_ok, raiseIf_eq_ok, pure_eq_ok, not_not]
  constructor
  · rintro ⟨-, hnil, rounds, hrounds, he⟩
    exact ⟨hnil, rounds, hrounds, he⟩
  · rintro ⟨hnil, rounds, hrounds, he⟩
    exact ⟨(), hnil, rounds, hrounds, he⟩

/-- What is prepared of a definition. -/
inductive Field (py : Interpreter) (values prepared : List (String × Value)) (d : String × CustomFieldDefinition) : Prop
  | absent (hgiven : values.lookup d.1 = none) (hoptional : d.2.isRequired = false) (hprepared : prepared.lookup d.1 = none)
  | given (raw value : Value) (hgiven : values.lookup d.1 = some raw) (hcoerced : coerceValue py raw d.1 d.2 = .ok value)
      (hprepared : prepared.lookup d.1 = some value)

theorem field_of_prepare (hnodup : (definitions.map Prod.fst).Nodup) (h : prepare py definitions values = .ok prepared) :
    ∀ d ∈ definitions, Field py values prepared d := by
  intro d hd
  obtain ⟨-, rounds, hrounds, rfl⟩ := prepare_eq_ok.1 h
  obtain ⟨round, hround, hlookup⟩ := (lookup_reduceOption hnodup hrounds).1 d hd
  unfold prepareField at hround
  cases hgiven : values.lookup d.1 with
  | none =>
    simp only [hgiven, bind_eq_ok, raiseIf_eq_ok, pure_eq_ok] at hround
    obtain ⟨-, hoptional, rfl⟩ := hround
    exact .absent hgiven (Bool.not_eq_true _ ▸ hoptional) hlookup
  | some raw =>
    simp only [hgiven, bind_eq_ok, pure_eq_ok] at hround
    obtain ⟨value, hcoerced, rfl⟩ := hround
    exact .given raw value hgiven hcoerced hlookup

/-- What is prepared is prepared again as it is. -/
theorem prepare_prepared (hnodup : (definitions.map Prod.fst).Nodup) (h : prepare py definitions values = .ok prepared) :
    prepare py definitions prepared = .ok prepared := by
  have hfield := field_of_prepare hnodup h
  obtain ⟨-, rounds, hrounds, rfl⟩ := prepare_eq_ok.1 h
  obtain ⟨hlookup, hkeys⟩ := lookup_reduceOption hnodup hrounds
  refine prepare_eq_ok.2 ⟨hkeys, rounds, ?_, rfl⟩
  have hsame : ∀ d ∈ definitions, prepareField py rounds.reduceOption d = prepareField py values d := by
    intro d hd
    cases hfield d hd with
    | absent hgiven hoptional hprepared => simp only [prepareField, hgiven, hprepared]
    | given raw value hgiven hcoerced hprepared =>
      simp only [prepareField, hgiven, hprepared, hcoerced, (coerceValue_ok hcoerced).2]
  rw [← hrounds]
  exact mapM_congr hsame

/-- The values that are prepared are what the definitions ask for. -/
structure Sound (py : Interpreter) (definitions : List (String × CustomFieldDefinition)) (prepared : List (String × Value)) :
    Prop where
  required : ∀ d ∈ definitions, d.2.isRequired = true → ∃ value, prepared.lookup d.1 = some value ∧ value ≠ .none
  select : ∀ d ∈ definitions, CustomFieldType.ofValue? d.2.fieldType = some .select →
    ∀ value, prepared.lookup d.1 = some value → isChoice py value d.2 = .ok true
  multiSelect : ∀ d ∈ definitions, CustomFieldType.ofValue? d.2.fieldType = some .multiSelect →
    ∀ items, prepared.lookup d.1 = some (.list items) → ∀ item ∈ items, isChoice py item d.2 = .ok true
  keys : ∀ m ∈ prepared, m.1 ∈ definitions.map Prod.fst

/-- No required field is given null, nor a field with choices that does not have it, and what is
chosen of several choices is among them. -/
structure Complete (py : Interpreter) (definitions : List (String × CustomFieldDefinition)) (values : List (String × Value)) :
    Prop where
  required : ∀ d ∈ definitions, d.2.isRequired = true → values.lookup d.1 ≠ some .none
  select : ∀ d ∈ definitions, CustomFieldType.ofValue? d.2.fieldType = some .select →
    values.lookup d.1 = some .none → isChoice py .none d.2 = .ok true
  multiSelect : ∀ d ∈ definitions, CustomFieldType.ofValue? d.2.fieldType = some .multiSelect →
    ∀ items, values.lookup d.1 = some (.list items) → ∀ item ∈ items, isChoice py item d.2 = .ok true

theorem coerceAs_select (htype : CustomFieldType.ofValue? definition.fieldType = some .select)
    (h : coerceAs py raw fieldKey definition = .ok value) : raw = value ∧ isChoice py raw definition = .ok true := by
  unfold coerceAs at h
  rw [htype] at h
  simp only [bind_eq_ok, raiseIf_eq_ok, pure_eq_ok, Bool.not_eq_false] at h
  obtain ⟨found, hchoice, -, hfound, hsame⟩ := h
  exact ⟨hsame, by rw [hchoice, hfound]⟩

theorem coerceAs_multiSelect (htype : CustomFieldType.ofValue? definition.fieldType = some .multiSelect)
    (h : coerceAs py raw fieldKey definition = .ok value) : raw = value := by
  unfold coerceAs at h
  rw [htype] at h
  simp only [bind_eq_ok, raiseIf_eq_ok, pure_eq_ok] at h
  obtain ⟨-, -, hsame⟩ := h
  exact hsame

theorem sound_iff (hnodup : (definitions.map Prod.fst).Nodup) (h : prepare py definitions values = .ok prepared) :
    Sound py definitions prepared ↔ Complete py definitions values := by
  have hfield := field_of_prepare hnodup h
  constructor
  · intro hsound
    refine ⟨fun d hd hrequired hnull => ?_, fun d hd htype hnull => ?_, fun d hd htype items hitems => ?_⟩
    · cases hfield d hd with
      | absent hgiven => rw [hgiven] at hnull; cases hnull
      | given raw value hgiven hcoerced hprepared =>
        obtain ⟨other, hother, hne⟩ := hsound.required d hd hrequired
        obtain rfl := Option.some.inj (hgiven.symm.trans hnull)
        obtain rfl := Option.some.inj (hprepared.symm.trans hother)
        exact hne ((coerceValue_ok hcoerced).1.2 rfl)
    · cases hfield d hd with
      | absent hgiven => rw [hgiven] at hnull; cases hnull
      | given raw value hgiven hcoerced hprepared =>
        obtain rfl := Option.some.inj (hgiven.symm.trans hnull)
        obtain rfl := (coerceValue_ok hcoerced).1.2 rfl
        exact hsound.select d hd htype _ hprepared
    · cases hfield d hd with
      | absent hgiven => rw [hgiven] at hitems; cases hitems
      | given raw value hgiven hcoerced hprepared =>
        obtain rfl := Option.some.inj (hgiven.symm.trans hitems)
        rw [coerceValue_of_ne (fun hnone => (by cases hnone))] at hcoerced
        rw [← coerceAs_multiSelect htype hcoerced] at hprepared
        exact hsound.multiSelect d hd htype items hprepared
  · intro hcomplete
    refine ⟨fun d hd hrequired => ?_, fun d hd htype value hvalue => ?_, fun d hd htype items hitems => ?_, ?_⟩
    · cases hfield d hd with
      | absent _ hoptional => rw [hoptional] at hrequired; cases hrequired
      | given raw value hgiven hcoerced hprepared =>
        refine ⟨value, hprepared, fun hnone => hcomplete.required d hd hrequired ?_⟩
        rw [hgiven, (coerceValue_ok hcoerced).1.1 hnone]
    · cases hfield d hd with
      | absent _ _ hprepared => rw [hprepared] at hvalue; cases hvalue
      | given raw other hgiven hcoerced hprepared =>
        obtain rfl := Option.some.inj (hprepared.symm.trans hvalue)
        by_cases hraw : raw = .none
        · rw [(coerceValue_ok hcoerced).1.2 hraw]
          exact hcomplete.select d hd htype (by rw [hgiven, hraw])
        · rw [coerceValue_of_ne hraw] at hcoerced
          obtain ⟨hsame, hchoice⟩ := coerceAs_select htype hcoerced
          rw [← hsame]
          exact hchoice
    · cases hfield d hd with
      | absent _ _ hprepared => rw [hprepared] at hitems; cases hitems
      | given raw value hgiven hcoerced hprepared =>
        obtain rfl := Option.some.inj (hprepared.symm.trans hitems)
        have hraw : raw ≠ .none := fun hnone => (by cases (coerceValue_ok hcoerced).1.2 hnone)
        rw [coerceValue_of_ne hraw] at hcoerced
        rw [coerceAs_multiSelect htype hcoerced] at hgiven
        exact hcomplete.multiSelect d hd htype items hgiven
    · obtain ⟨-, rounds, hrounds, rfl⟩ := prepare_eq_ok.1 h
      exact (lookup_reduceOption hnodup hrounds).2

/-- A field key has one definition in a tenant's entity type. -/
theorem nodup_applicable (py : Interpreter) (definitions : Definitions) (tenantId : ℕ) (entityType : String)
    (appliesTo : List (String × Value)) :
    ((applicable py (listDefinitions definitions tenantId entityType) appliesTo).map Prod.fst).Nodup := by
  have hlist : ((listDefinitions definitions tenantId entityType).map Prod.fst).Nodup := by
    rw [listDefinitions, ((List.perm_insertionSort _ _).map Prod.fst).nodup_iff, List.map_map]
    have hkeys : ((definitions.rows.filter fun r => r.1.1 = tenantId ∧ r.1.2.1 = entityType).map Prod.fst).Nodup :=
      definitions.nodup.sublist (List.filter_sublist.map _)
    have hmap := hkeys.map_on (f := fun k => k.2.2) ?_
    · rwa [List.map_map] at hmap
    · rintro ⟨t, e, k⟩ hx ⟨t', e', k'⟩ hy rfl
      obtain ⟨r, hr, hkey⟩ := List.mem_map.1 hx
      obtain ⟨r', hr', hkey'⟩ := List.mem_map.1 hy
      have hscope := of_decide_eq_true (List.mem_filter.1 hr).2
      have hscope' := of_decide_eq_true (List.mem_filter.1 hr').2
      rw [hkey] at hscope
      rw [hkey'] at hscope'
      have htenant : t = t' := hscope.1.trans hscope'.1.symm
      have hentity : e = e' := hscope.2.trans hscope'.2.symm
      rw [htenant, hentity]
  unfold applicable
  split_ifs
  · exact hlist.sublist (List.filter_sublist.map _)
  · exact hlist

end Prepared

/-- What is accepted is prepared again as it is, under the keys of the definitions; it is what they
ask for just when the values were complete. -/
theorem validated_sound_iff {py : Interpreter} {definitions : Definitions} {tenantId : ℕ} {entityType : String}
    {values appliesTo : Option (List (String × Value))} {prepared : List (String × Value)}
    (h : validateAndPrepare py definitions tenantId entityType values appliesTo = .ok prepared) :
    (Sound py (applicable py (listDefinitions definitions tenantId entityType) (appliesTo.getD [])) prepared ∧
        validateAndPrepare py definitions tenantId entityType (some prepared) appliesTo = .ok prepared) ↔
      Complete py (applicable py (listDefinitions definitions tenantId entityType) (appliesTo.getD [])) (values.getD []) := by
  have hnodup := nodup_applicable py definitions tenantId entityType (appliesTo.getD [])
  exact (and_iff_left (prepare_prepared hnodup h)).trans (sound_iff hnodup h)

/-- An interpreter that knows texts. -/
def textsOnly : Interpreter where
  text _ := ""
  float _ := none
  decimal _ := none
  lower s := s
  equal
    | .str s, .str t => s = t
    | _, _ => false
  decimal_decimal _ _ h := h

/-- A number that is required, and tags of which one is known. -/
def demoDefinitions : Definitions where
  rows := [((1, "party", "inn"), ⟨"string", [], [], true, 0⟩),
    ((1, "party", "tags"), ⟨"multi_select", [], [("choices", .list [.str "vip"])], false, 1⟩)]
  nodup := by decide

def demoApplicable : List (String × CustomFieldDefinition) := applicable textsOnly (listDefinitions demoDefinitions 1 "party") []

/-- The theorem at a value for each field. -/
theorem validated_sound_vip :
    (Sound textsOnly demoApplicable [("inn", .str "7"), ("tags", .list [.str "vip"])] ∧
        validateAndPrepare textsOnly demoDefinitions 1 "party" (some [("inn", .str "7"), ("tags", .list [.str "vip"])]) none =
          .ok [("inn", .str "7"), ("tags", .list [.str "vip"])]) ↔
      Complete textsOnly demoApplicable [("inn", .str "7"), ("tags", .list [.str "vip"])] :=
  @validated_sound_iff textsOnly demoDefinitions 1 "party" (some [("inn", .str "7"), ("tags", .list [.str "vip"])]) none _ rfl

/-- Null for the number and an unknown tag are accepted. -/
theorem null_and_unknown_accepted :
    validateAndPrepare textsOnly demoDefinitions 1 "party" (some [("inn", .none), ("tags", .list [.str "new"])]) none =
        .ok [("inn", .none), ("tags", .list [.str "new"])] ∧
      ¬ Sound textsOnly demoApplicable [("inn", .none), ("tags", .list [.str "new"])] := by
  refine ⟨rfl, fun h => ?_⟩
  obtain ⟨value, hvalue, hne⟩ := h.required _ List.mem_cons_self rfl
  exact hne (Option.some.inj hvalue).symm

end CoreOps.Parties.CustomFields
