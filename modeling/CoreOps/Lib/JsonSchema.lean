import CoreOps.Lib.Json

/-! A part of JSON Schema: constants, texts with bounds on their length, dates, lists and
objects without other members than those they name. What a date is, is a parameter. -/

inductive JsonSchema
  | const (value : String)
  | string (minLength maxLength : ℕ)
  | date
  | stringOrNull
  | enum (values : List String)
  | array (items : JsonSchema) (minItems maxItems : ℕ) (uniqueItems : Bool)
  | object (required : List String) (properties : List (String × JsonSchema))

namespace JsonSchema

section Accepts

variable (isDate : String → Prop)

mutual

/-- The document satisfies the schema. -/
def Accepts : JsonSchema → Json → Prop
  | .const value, j => j = .str value
  | .string minLength maxLength, j => ∃ s, j = .str s ∧ minLength ≤ s.length ∧ s.length ≤ maxLength
  | .date, j => ∃ s, j = .str s ∧ isDate s
  | .stringOrNull, j => j = .null ∨ ∃ s, j = .str s
  | .enum values, j => ∃ s ∈ values, j = .str s
  | .array items minItems maxItems uniqueItems, j => ∃ js, j = .arr js ∧ minItems ≤ js.length ∧ js.length ≤ maxItems ∧
      (uniqueItems = true → js.Nodup) ∧ ∀ x ∈ js, Accepts items x
  | .object required properties, j => ∃ ms, j = .obj ms ∧ (∀ key ∈ required, key ∈ ms.map Prod.fst) ∧
      ∀ m ∈ ms, AcceptsMember properties m.1 m.2

/-- The member is one of the properties and satisfies its schema. -/
def AcceptsMember : List (String × JsonSchema) → String → Json → Prop
  | [], _, _ => False
  | (name, schema) :: properties, key, j => if name = key then Accepts schema j else AcceptsMember properties key j

end

end Accepts

variable {isDate : String → Prop} {properties : List (String × JsonSchema)} {required : List String}
  {ms : List (String × Json)}

theorem acceptsMember_iff {key : String} {j : Json} :
    AcceptsMember isDate properties key j ↔ ∃ schema, properties.lookup key = some schema ∧ Accepts isDate schema j := by
  induction properties with
  | nil => simp [AcceptsMember]
  | cons p properties ih =>
    obtain ⟨name, schema⟩ := p
    rw [AcceptsMember]
    by_cases hname : name = key
    · subst hname
      simp
    · have hkey : (key == name) = false := by simpa using fun h : key = name => hname h.symm
      simp [hname, List.lookup_cons, hkey, ih]

/-- A member that is found satisfies the schema of its property. -/
theorem accepts_of_lookup (h : Accepts isDate (.object required properties) (.obj ms)) {key : String} {j : Json}
    (hfound : ms.lookup key = some j) {schema : JsonSchema} (hschema : properties.lookup key = some schema) :
    Accepts isDate schema j := by
  obtain ⟨ms', hms, -, hall⟩ := h
  obtain rfl := Json.obj.inj hms
  have hmem : (key, j) ∈ ms := by
    obtain ⟨l₁, l₂, hsplit, -⟩ := List.lookup_eq_some_iff.1 hfound
    rw [hsplit]
    simp
  obtain ⟨schema', hschema', haccepts⟩ := acceptsMember_iff.1 (hall _ hmem)
  rw [hschema] at hschema'
  exact Option.some.inj hschema' ▸ haccepts

/-- A required member is there, and satisfies its schema. -/
theorem exists_of_required (h : Accepts isDate (.object required properties) (.obj ms)) (key : String)
    (hkey : key ∈ required) {schema : JsonSchema} (hschema : properties.lookup key = some schema) :
    ∃ j, ms.lookup key = some j ∧ Accepts isDate schema j := by
  obtain ⟨ms', hms, hrequired, -⟩ := id h
  obtain rfl := Json.obj.inj hms
  cases hfound : ms.lookup key with
  | none =>
    obtain ⟨m, hm, rfl⟩ := List.mem_map.1 (hrequired key hkey)
    exact absurd (List.lookup_eq_none_iff.1 hfound m hm) (by simp)
  | some j => exact ⟨j, rfl, accepts_of_lookup h hfound hschema⟩

/-- No member has another name than those of the properties. -/
theorem names_of_accepts (h : Accepts isDate (.object required properties) (.obj ms)) :
    ∀ m ∈ ms, m.1 ∈ properties.map Prod.fst := by
  intro m hm
  obtain ⟨ms', hms, -, hall⟩ := h
  obtain rfl := Json.obj.inj hms
  obtain ⟨schema, hschema, -⟩ := acceptsMember_iff.1 (hall m hm)
  obtain ⟨l₁, l₂, hsplit, -⟩ := List.lookup_eq_some_iff.1 hschema
  rw [hsplit]
  simp

end JsonSchema
