import CoreOps.Lib.Checked
import CoreOps.Overlay.Model

/-! The policy schema: what a snapshot has to satisfy, and what parsing makes of it.
Parsing strips the texts of its lists, so a snapshot that was parsed before parses to
itself: a version that could be published can always be read back by the guard. -/

namespace CoreOps.Overlay

open Checked Text

def maxTransitions : ℕ := 100

def maxStageCodes : ℕ := 50

def policySchemaVersion : ℤ := 1

/-- The message every failed validation of a snapshot ends up with. -/
def invalidPolicy : OverlayError := .validation "Invalid policy snapshot" []

/-- `min_length` and `max_length` of a code. -/
def codeFits (code : String) : Bool := 1 ≤ code.length ∧ code.length ≤ 64

/-- `_non_empty_strings`, on a list of at most `n` entries. -/
def nonEmptyStrings (n : ℕ) (value : List String) : Except OverlayError (List String) := do
  raiseIf (n < value.length) invalidPolicy
  raiseIf ("" ∈ value.map strip) invalidPolicy
  return value.map strip

/-- `_unique_string_list`. -/
def uniqueStringList (value : List String) : Except OverlayError (List String) := do
  raiseIf ("" ∈ value.map strip) invalidPolicy
  raiseIf (¬ (value.map strip).Nodup) invalidPolicy
  return value.map strip

def parseConditions (c : TransitionConditions) : Except OverlayError TransitionConditions := do
  let requiredFields ← nonEmptyStrings 50 c.requiredFields
  let requiredRoles ← nonEmptyStrings 20 c.requiredRoles
  let requiredTaskCodes ← nonEmptyStrings 50 c.requiredTaskCodes
  let requiredDocumentTypes ← nonEmptyStrings 50 c.requiredDocumentTypes
  return { c with
    requiredFields := requiredFields
    requiredRoles := requiredRoles
    requiredTaskCodes := requiredTaskCodes
    requiredDocumentTypes := requiredDocumentTypes }

def parseTransition (t : PolicyTransition) : Except OverlayError PolicyTransition := do
  raiseIf (¬ codeFits t.fromStageCode ∨ ¬ codeFits t.toStageCode) invalidPolicy
  let conditions ← parseConditions t.conditions
  return { t with conditions := conditions }

/-- The pair of stages a transition joins. -/
def PolicyTransition.edge (t : PolicyTransition) : String × String := (t.fromStageCode, t.toStageCode)

def PolicySnapshot.edges (p : PolicySnapshot) : List (String × String) := p.transitions.map PolicyTransition.edge

/-- `_validate_graph`. -/
def validateGraph (p : PolicySnapshot) : Except OverlayError Unit := do
  raiseIf (p.stageCodes = []) invalidPolicy
  raiseIf (∃ t ∈ p.terminalStageCodes, t ∉ p.stageCodes) invalidPolicy
  raiseIf (∃ e ∈ p.edges, e.1 ∉ p.stageCodes ∨ e.2 ∉ p.stageCodes) invalidPolicy
  raiseIf (¬ p.edges.Nodup) invalidPolicy

/-- `parse_policy_snapshot`. The keys of a snapshot are the names of its fields, none
of which the denylist forbids. -/
def parsePolicySnapshot (p : PolicySnapshot) : Except OverlayError PolicySnapshot := do
  raiseIf (p.schemaVersion ≠ policySchemaVersion) invalidPolicy
  raiseIf (¬ codeFits p.processTemplateCode ∨ ¬ codeFits p.pipelineCode) invalidPolicy
  raiseIf (maxStageCodes < p.stageCodes.length ∨ maxTransitions < p.transitions.length ∨
    20 < p.moduleRequirements.length ∨ maxStageCodes < p.terminalStageCodes.length) invalidPolicy
  let stageCodes ← uniqueStringList p.stageCodes
  let transitions ← p.transitions.mapM parseTransition
  let moduleRequirements ← uniqueStringList p.moduleRequirements
  let terminalStageCodes ← uniqueStringList p.terminalStageCodes
  let policy := { p with
    stageCodes := stageCodes
    transitions := transitions
    moduleRequirements := moduleRequirements
    terminalStageCodes := terminalStageCodes }
  validateGraph policy
  return policy

/-! Parsing again changes nothing. -/

theorem map_strip_strip (value : List String) : (value.map strip).map strip = value.map strip := by
  rw [List.map_map]
  exact List.map_congr_left fun s _ => strip_strip s

theorem nonEmptyStrings_again {n : ℕ} {value value' : List String} (h : nonEmptyStrings n value = .ok value') :
    nonEmptyStrings n value' = .ok value' := by
  simp only [nonEmptyStrings, bind_eq_ok, raiseIf_eq_ok, pure_eq_ok] at h ⊢
  obtain ⟨-, hlen, -, hne, rfl⟩ := h
  refine ⟨⟨⟩, ?_, ⟨⟩, ?_, map_strip_strip value⟩
  · rwa [List.length_map]
  · rwa [map_strip_strip]

theorem uniqueStringList_again {value value' : List String} (h : uniqueStringList value = .ok value') :
    uniqueStringList value' = .ok value' ∧ value'.length = value.length := by
  simp only [uniqueStringList, bind_eq_ok, raiseIf_eq_ok, pure_eq_ok] at h ⊢
  obtain ⟨-, hne, -, hnd, rfl⟩ := h
  refine ⟨⟨⟨⟩, ?_, ⟨⟩, ?_, map_strip_strip value⟩, List.length_map _⟩
  · rwa [map_strip_strip]
  · rwa [map_strip_strip]

theorem parseTransition_again {t t' : PolicyTransition} (h : parseTransition t = .ok t') :
    parseTransition t' = .ok t' ∧ t'.edge = t.edge := by
  simp only [parseTransition, parseConditions, bind_eq_ok, raiseIf_eq_ok, pure_eq_ok] at h ⊢
  obtain ⟨-, hfits, c, ⟨f, hf, r, hr, k, hk, d, hd, rfl⟩, rfl⟩ := h
  exact ⟨⟨⟨⟩, hfits, _, ⟨f, nonEmptyStrings_again hf, r, nonEmptyStrings_again hr, k, nonEmptyStrings_again hk,
    d, nonEmptyStrings_again hd, rfl⟩, rfl⟩, rfl⟩

theorem mapM_again {α : Type} {f : α → Except OverlayError α} (hf : ∀ a b, f a = .ok b → f b = .ok b)
    {as bs : List α} (h : as.mapM f = .ok bs) : bs.mapM f = .ok bs := by
  have hall := mapM_eq_ok h
  clear h
  induction hall with
  | nil => rfl
  | cons hab _ ih => simp [List.mapM_cons, hf _ _ hab, ih]

theorem edges_of_mapM {as bs : List PolicyTransition} (h : as.mapM parseTransition = .ok bs) :
    bs.map PolicyTransition.edge = as.map PolicyTransition.edge ∧ bs.length = as.length := by
  have hall := mapM_eq_ok h
  refine ⟨map_eq_map_of_forall₂ hall fun a b hab => ?_, hall.length_eq.symm⟩
  exact (parseTransition_again hab).2

/-- A snapshot that was parsed parses to itself. -/
theorem parsePolicySnapshot_again {p p' : PolicySnapshot} (h : parsePolicySnapshot p = .ok p') :
    parsePolicySnapshot p' = .ok p' := by
  simp only [parsePolicySnapshot, bind_eq_ok, raiseIf_eq_ok, pure_eq_ok] at h ⊢
  obtain ⟨-, hver, -, hfits, -, hlen, sc, hsc, ts, hts, mr, hmr, tc, htc, u, hgraph, rfl⟩ := h
  obtain ⟨hsc', hsclen⟩ := uniqueStringList_again hsc
  obtain ⟨hmr', hmrlen⟩ := uniqueStringList_again hmr
  obtain ⟨htc', htclen⟩ := uniqueStringList_again htc
  have hts' := mapM_again (fun a b hab => (parseTransition_again hab).1) hts
  refine ⟨⟨⟩, hver, ⟨⟩, hfits, ⟨⟩, ?_, sc, hsc', ts, hts', mr, hmr', tc, htc', u, hgraph, rfl⟩
  rwa [hsclen, (edges_of_mapM hts).2, hmrlen, htclen]

/-- Parsing keeps the edges. -/
theorem edges_parsePolicySnapshot {p p' : PolicySnapshot} (h : parsePolicySnapshot p = .ok p') :
    p'.edges = p.edges := by
  simp only [parsePolicySnapshot, bind_eq_ok, raiseIf_eq_ok, pure_eq_ok] at h
  obtain ⟨-, -, -, -, -, -, sc, -, ts, hts, mr, -, tc, -, -, -, rfl⟩ := h
  exact (edges_of_mapM hts).1

end CoreOps.Overlay
