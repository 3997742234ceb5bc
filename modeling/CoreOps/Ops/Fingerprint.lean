import CoreOps.Ops.Activation

/-! What a policy fingerprint tells apart. The canonical form keeps every field of a policy but
the order of its transitions, and a policy can be read back from the document that is stored
of it; so equal fingerprints mean equal policies, and a stored snapshot has the fingerprint of
the policy it was published from. -/

namespace CoreOps.Ops

open Checked Overlay

/-! Reading a document. Every level refuses members it does not know, which are all that the
denylist could find; a value of another type than its field's is refused too, where pydantic
would still take some of them. -/

section Read

def readString? : Json → Option String
  | .str s => some s
  | _ => none

def readBool? : Json → Option Bool
  | .bool b => some b
  | _ => none

def readInt? : Json → Option ℤ
  | .int n => some n
  | _ => none

def readList? {α : Type} (read : Json → Option α) : Json → Option (List α)
  | .arr items => items.mapM read
  | _ => none

/-- The members of an object that has no others than those of the model. -/
def membersOf (names : List String) : Json → Option (List (String × Json))
  | .obj members => if members.all fun m => m.1 ∈ names then some members else none
  | _ => none

/-- A field with a default. -/
def fieldOr {α : Type} (members : List (String × Json)) (name : String) (read : Json → Option α) (value : α) :
    Option α :=
  match members.lookup name with
  | some j => read j
  | none => some value

/-- A field without one. -/
def fieldOf {α : Type} (members : List (String × Json)) (name : String) (read : Json → Option α) : Option α :=
  (members.lookup name).bind read

def defaultConditions : TransitionConditions := ⟨[], [], false, [], []⟩

def readConditions (j : Json) : Option TransitionConditions := do
  let members ← membersOf
    ["required_fields", "required_roles", "requires_approval", "required_task_codes", "required_document_types"] j
  return {
    requiredFields := ← fieldOr members "required_fields" (readList? readString?) []
    requiredRoles := ← fieldOr members "required_roles" (readList? readString?) []
    requiresApproval := ← fieldOr members "requires_approval" readBool? false
    requiredTaskCodes := ← fieldOr members "required_task_codes" (readList? readString?) []
    requiredDocumentTypes := ← fieldOr members "required_document_types" (readList? readString?) [] }

def readTransition (j : Json) : Option PolicyTransition := do
  let members ← membersOf ["from_stage_code", "to_stage_code", "conditions"] j
  return {
    fromStageCode := ← fieldOf members "from_stage_code" readString?
    toStageCode := ← fieldOf members "to_stage_code" readString?
    conditions := ← fieldOr members "conditions" readConditions defaultConditions }

def readPolicy (j : Json) : Option PolicySnapshot := do
  let members ← membersOf ["schema_version", "process_template_code", "pipeline_code", "stage_codes", "transitions",
    "module_requirements", "terminal_stage_codes"] j
  return {
    schemaVersion := ← fieldOf members "schema_version" readInt?
    processTemplateCode := ← fieldOf members "process_template_code" readString?
    pipelineCode := ← fieldOf members "pipeline_code" readString?
    stageCodes := ← fieldOf members "stage_codes" (readList? readString?)
    transitions := ← fieldOr members "transitions" (readList? readTransition) []
    moduleRequirements := ← fieldOr members "module_requirements" (readList? readString?) []
    terminalStageCodes := ← fieldOr members "terminal_stage_codes" (readList? readString?) [] }

/-- `parse_policy_snapshot` of a document. -/
def parsePolicyDocument (j : Json) : Except OverlayError PolicySnapshot := do
  let p ← orRaise (readPolicy j) invalidPolicy
  parsePolicySnapshot p

/-- `model_dump`: the document that is stored of a policy, with its transitions in order. -/
def dumpPolicy (p : PolicySnapshot) : Json :=
  .obj (Json.ofPairs [
    ("schema_version", .int p.schemaVersion),
    ("process_template_code", .str p.processTemplateCode),
    ("pipeline_code", .str p.pipelineCode),
    ("stage_codes", .arr (p.stageCodes.map .str)),
    ("transitions", .arr (p.transitions.map transitionDocument)),
    ("module_requirements", .arr (p.moduleRequirements.map .str)),
    ("terminal_stage_codes", .arr (p.terminalStageCodes.map .str))])

end Read

/-! What was written is read. -/

theorem mapM_map_some {α β : Type} {write : α → β} {read : β → Option α} (h : ∀ a, read (write a) = some a)
    (as : List α) : (as.map write).mapM read = some as := by
  induction as with
  | nil => rfl
  | cons a as ih => simp [List.mapM_cons, h a, ih]

theorem readList?_strings (texts : List String) : readList? readString? (.arr (texts.map .str)) = some texts := by
  have hread : ∀ text, readString? (.str text) = some text := fun _ => rfl
  exact mapM_map_some hread texts

theorem membersOf_ofPairs {names : List String} {pairs : List (String × Json)} (h : ∀ m ∈ pairs, m.1 ∈ names) :
    membersOf names (.obj (Json.ofPairs pairs)) = some (Json.ofPairs pairs) := by
  refine if_pos (List.all_eq_true.2 fun m hm => decide_eq_true ?_)
  exact h m (JsonObject.mem_of_mem_ofPairs hm)

theorem readConditions_document (c : TransitionConditions) : readConditions (conditionsDocument c) = some c := by
  rw [readConditions, conditionsDocument, membersOf_ofPairs (by simp)]
  simp [fieldOr, readList?_strings, readBool?, JsonObject.lookup_ofPairs, JsonObject.lookup_cons_if]

theorem readTransition_document (t : PolicyTransition) : readTransition (transitionDocument t) = some t := by
  rw [readTransition, transitionDocument, membersOf_ofPairs (by simp)]
  simp [fieldOr, fieldOf, readString?, readConditions_document, JsonObject.lookup_ofPairs, JsonObject.lookup_cons_if]

/-- The dump of a policy reads as the policy. -/
theorem readPolicy_dump (p : PolicySnapshot) : readPolicy (dumpPolicy p) = some p := by
  have htransitions : readList? readTransition (.arr (p.transitions.map transitionDocument)) = some p.transitions :=
    mapM_map_some readTransition_document p.transitions
  rw [readPolicy, dumpPolicy, membersOf_ofPairs (by simp)]
  simp [fieldOr, fieldOf, readString?, readInt?, readList?_strings, htransitions, JsonObject.lookup_ofPairs,
    JsonObject.lookup_cons_if]

/-- Parsing the stored dump of a policy gives the policy. -/
theorem parsePolicyDocument_dump (p : PolicySnapshotV1) : parsePolicyDocument (dumpPolicy p.snapshot) = .ok p.snapshot := by
  obtain ⟨snapshot, raw, hparsed⟩ := p
  rw [parsePolicyDocument, readPolicy_dump, bind_eq_ok]
  exact ⟨snapshot, rfl, parsePolicySnapshot_again hparsed⟩

/-! The order of the transitions. -/

/-- Two policies with the same fields, but for the order of their transitions. -/
structure SameUpToOrder (p q : PolicySnapshot) : Prop where
  transitions : p.transitions.Perm q.transitions
  fields : { p with transitions := q.transitions } = q

def PolicySnapshot.sorted (p : PolicySnapshot) : PolicySnapshot :=
  { p with transitions := p.transitions.insertionSort EdgeLe }

/-- The canonical form is the dump of the policy with its transitions sorted. -/
theorem policyDocument_eq (p : PolicySnapshot) : policyDocument p = dumpPolicy (PolicySnapshot.sorted p) := rfl

theorem edgeLe_total (t u : PolicyTransition) : EdgeLe t u ∨ EdgeLe u t := by
  unfold EdgeLe
  rcases lt_trichotomy t.fromStageCode u.fromStageCode with h | h | h
  · exact .inl (.inl h)
  · exact (le_total t.toStageCode u.toStageCode).imp (fun hle => .inr ⟨h, hle⟩) fun hle => .inr ⟨h.symm, hle⟩
  · exact .inr (.inl h)

theorem edgeLe_trans {t u v : PolicyTransition} (h : EdgeLe t u) (h' : EdgeLe u v) : EdgeLe t v := by
  unfold EdgeLe at *
  rcases h with h | ⟨h, hto⟩ <;> rcases h' with h' | ⟨h', hto'⟩
  · exact .inl (h.trans h')
  · exact .inl (h' ▸ h)
  · exact .inl (h ▸ h')
  · exact .inr ⟨h.trans h', hto.trans hto'⟩

theorem edge_eq_of_edgeLe {t u : PolicyTransition} (h : EdgeLe t u) (h' : EdgeLe u t) : t.edge = u.edge := by
  unfold EdgeLe at *
  rcases h with h | ⟨hfrom, hto⟩
  · rcases h' with h' | ⟨hfrom, -⟩
    · exact absurd h' h.asymm
    · exact absurd hfrom.symm h.ne
  · rcases h' with h' | ⟨-, hto'⟩
    · exact absurd hfrom.symm h'.ne
    · exact Prod.ext hfrom (le_antisymm hto hto')

instance : Std.Total EdgeLe := ⟨edgeLe_total⟩

instance : IsTrans PolicyTransition EdgeLe := ⟨fun _ _ _ => edgeLe_trans⟩

/-- Sorting forgets the order, and nothing else, where no two transitions join the same
stages. -/
theorem sorted_eq_iff_perm {ts us : List PolicyTransition} (hts : (ts.map PolicyTransition.edge).Nodup) :
    ts.insertionSort EdgeLe = us.insertionSort EdgeLe ↔ ts.Perm us := by
  constructor
  · intro h
    exact (List.perm_insertionSort EdgeLe ts).symm.trans (h ▸ List.perm_insertionSort EdgeLe us)
  · intro h
    have hperm : (ts.insertionSort EdgeLe).Perm (us.insertionSort EdgeLe) :=
      (List.perm_insertionSort EdgeLe ts).trans (h.trans (List.perm_insertionSort EdgeLe us).symm)
    refine hperm.eq_of_pairwise (fun t u ht hu htu hut => ?_) (List.pairwise_insertionSort EdgeLe ts)
      (List.pairwise_insertionSort EdgeLe us)
    have ht' : t ∈ ts := (List.mem_insertionSort EdgeLe).1 ht
    have hu' : u ∈ ts := h.mem_iff.2 ((List.mem_insertionSort EdgeLe).1 hu)
    exact List.inj_on_of_nodup_map hts ht' hu' (edge_eq_of_edgeLe htu hut)

/-! The fingerprint. -/

theorem strings_canonical (texts : List String) : (Json.arr (texts.map .str)).Canonical := by
  refine .arr fun x hx => ?_
  obtain ⟨text, -, rfl⟩ := List.mem_map.1 hx
  exact .str text

theorem conditionsDocument_canonical (c : TransitionConditions) : (conditionsDocument c).Canonical := by
  refine Json.ofPairs_canonical ?_
  simp [strings_canonical]

theorem transitionDocument_canonical (t : PolicyTransition) : (transitionDocument t).Canonical := by
  refine Json.ofPairs_canonical ?_
  simp [conditionsDocument_canonical]

theorem dumpPolicy_canonical (p : PolicySnapshot) : (dumpPolicy p).Canonical := by
  have htransitions : (Json.arr (p.transitions.map transitionDocument)).Canonical := by
    refine .arr fun x hx => ?_
    obtain ⟨t, -, rfl⟩ := List.mem_map.1 hx
    exact transitionDocument_canonical t
  refine Json.ofPairs_canonical ?_
  simp [strings_canonical, htransitions]

/-- The text of the canonical form gives the sorted policy back. -/
theorem sorted_eq_of_document {p q : PolicySnapshot}
    (h : Json.dumps compact (policyDocument p) = Json.dumps compact (policyDocument q)) :
    PolicySnapshot.sorted p = PolicySnapshot.sorted q := by
  rw [policyDocument_eq, policyDocument_eq] at h
  have hread : ∀ p, (Json.loads (Json.dumps compact (dumpPolicy p))).bind readPolicy = some p := by
    intro p
    rw [Json.loads_dumps compact (dumpPolicy_canonical p), Option.bind_some, readPolicy_dump]
  exact Option.some.inj ((hread _).symm.trans ((congrArg (fun text => (Json.loads text).bind readPolicy) h).trans
    (hread _)))

theorem sorted_eq_iff {p q : PolicySnapshot} (hp : p.edges.Nodup) :
    PolicySnapshot.sorted p = PolicySnapshot.sorted q ↔ SameUpToOrder p q := by
  constructor
  · intro h
    have htransitions := congrArg PolicySnapshot.transitions h
    refine ⟨(sorted_eq_iff_perm hp).1 htransitions, ?_⟩
    have hfields := congrArg (fun r : PolicySnapshot => { r with transitions := q.transitions }) h
    exact hfields
  · rintro ⟨htransitions, hfields⟩
    rw [← hfields]
    unfold PolicySnapshot.sorted
    rw [(sorted_eq_iff_perm hp).2 htransitions]

theorem edges_nodup (p : PolicySnapshotV1) : p.snapshot.edges.Nodup := by
  obtain ⟨snapshot, raw, hparsed⟩ := p
  have hagain := parsePolicySnapshot_again hparsed
  simp only [parsePolicySnapshot, validateGraph, bind_eq_ok, raiseIf_eq_ok, pure_eq_ok, not_not] at hagain
  obtain ⟨-, -, -, -, -, -, _, -, _, -, _, -, _, -, -, ⟨-, -, -, -, -, -, hnodup⟩, heq⟩ := hagain
  rw [heq] at hnodup
  exact hnodup

/-- `policy_fingerprint` of a stored snapshot. -/
def fingerprintOf (env : Environment) (j : Json) : Except OverlayError String := do
  let policy ← parsePolicyDocument j
  return policyFingerprint env policy

/-- Where the hash takes no two texts to one, the fingerprint tells policies apart up to the
order of their transitions; and a stored policy parses to itself and keeps its fingerprint. -/
theorem policy_fingerprint_identifies (env : Environment) (hsha : Function.Injective env.sha256) :
    (∀ p q : PolicySnapshotV1, policyFingerprint env p.snapshot = policyFingerprint env q.snapshot ↔
      SameUpToOrder p.snapshot q.snapshot) ∧
    ∀ p : PolicySnapshotV1, parsePolicyDocument (dumpPolicy p.snapshot) = .ok p.snapshot ∧
      fingerprintOf env (dumpPolicy p.snapshot) = .ok (policyFingerprint env p.snapshot) := by
  refine ⟨fun p q => ?_, fun p => ⟨parsePolicyDocument_dump p, ?_⟩⟩
  · rw [← sorted_eq_iff (edges_nodup p)]
    constructor
    · intro h
      exact sorted_eq_of_document (hsha h)
    · intro h
      rw [policyFingerprint, policyFingerprint, policyDocument_eq, policyDocument_eq, h]
  · rw [fingerprintOf, parsePolicyDocument_dump]
    rfl

/-- A policy of two stages with the transitions between them, in either order. -/
def backAndForth (transitions : List PolicyTransition) : PolicySnapshot :=
  ⟨1, "intake", "sales", ["new", "won"], transitions, [], ["won"]⟩

def forth : PolicyTransition := ⟨"new", "won", ⟨["amount"], [], false, [], []⟩⟩

def back : PolicyTransition := ⟨"won", "new", defaultConditions⟩

theorem forthFirst_parsed : parsePolicySnapshot (backAndForth [forth, back]) = .ok (backAndForth [forth, back]) := by
  decide

theorem backFirst_parsed : parsePolicySnapshot (backAndForth [back, forth]) = .ok (backAndForth [back, forth]) := by
  decide

/-- A hash that is the text itself. -/
def plainEnvironment : Environment := ⟨String.ofList, .ok (), fun directory => .ok directory, "", 0⟩

/-- The theorem at the two orders, and at a policy without the way back. -/
theorem policy_fingerprint_identifies_orders :
    policyFingerprint plainEnvironment (backAndForth [forth, back]) =
      policyFingerprint plainEnvironment (backAndForth [back, forth]) ∧
    parsePolicyDocument (dumpPolicy (backAndForth [back, forth])) = .ok (backAndForth [back, forth]) := by
  have hinjective : Function.Injective plainEnvironment.sha256 := fun _ _ h => String.ofList_injective h
  obtain ⟨hsame, hstored⟩ := policy_fingerprint_identifies plainEnvironment hinjective
  refine ⟨(hsame ⟨backAndForth [forth, back], _, forthFirst_parsed⟩ ⟨backAndForth [back, forth], _, backFirst_parsed⟩).2
    ⟨List.Perm.swap _ _ _, rfl⟩, ?_⟩
  exact (hstored ⟨backAndForth [back, forth], _, backFirst_parsed⟩).1

end CoreOps.Ops
