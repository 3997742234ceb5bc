import Mathlib.Data.List.Sort
import CoreOps.Lib.CivilDate
import CoreOps.Lib.JsonObject
import CoreOps.Lib.UuidText
import CoreOps.Marketing.PlanLifecycle

/-! What the fingerprint of an import tells apart: the canonical form of a document keeps all
of it but the order of its lines and of the channels of each line. -/

namespace CoreOps.Marketing

open Checked

section Canonical

def textOrNull : Option String → Json
  | none => .null
  | some text => .str text

/-- `sorted`, of texts. -/
def sortTexts (texts : List String) : List String := texts.insertionSort (· ≤ ·)

/-- The members of a line's `payload`. -/
def PlanItemDocument.payload (item : PlanItemDocument) : List (String × Json) :=
  [ ("line_key", .str item.lineKey),
    ("date", .str (CivilDate.isoformat item.date)),
    ("rubric_code", .str item.rubricCode),
    ("working_title", .str item.workingTitle),
    ("angle", textOrNull item.texts.angle),
    ("channels", .arr ((sortTexts item.channels).map .str)),
    ("format", textOrNull item.texts.format),
    ("goal", textOrNull item.texts.goal),
    ("audience", textOrNull item.texts.audience),
    ("cta", textOrNull item.texts.cta),
    ("pain", textOrNull item.texts.pain),
    ("insight", textOrNull item.texts.insight),
    ("funnel_stage", textOrNull item.texts.funnelStage),
    ("notes", textOrNull item.texts.notes)]

def PlanItemDocument.canonical (item : PlanItemDocument) : Json := .obj (Json.ofPairs item.payload)

/-- The order of the line keys. -/
def LineLe (a b : PlanItemDocument) : Prop := a.lineKey ≤ b.lineKey

instance : DecidableRel LineLe := fun a b => inferInstanceAs (Decidable (a.lineKey ≤ b.lineKey))

def PlanDocument.members (doc : PlanDocument) : List (String × Json) :=
  [ ("schema_version", .str schemaVersion),
    ("period_start", .str (CivilDate.isoformat doc.periodStart)),
    ("period_end", .str (CivilDate.isoformat doc.periodEnd)),
    ("title", .str doc.title),
    ("items", .arr ((doc.items.insertionSort LineLe).map PlanItemDocument.canonical))]

def canonicalPlanDict (doc : PlanDocument) : Json := .obj (Json.ofPairs doc.members)

/-- The members of the document under the digest; all in it is a text, a list or an object by now, and
`_jsonable` leaves it as it is. The tenant's id is the number of its UUID. -/
def fingerprintMembers (tenantId : ℕ) (doc : PlanDocument) : List (String × Json) :=
  [ ("tenant_id", .str (String.ofList (UuidText.text (BitVec.ofNat 128 tenantId)))),
    ("plan", canonicalPlanDict doc)]

def fingerprintDocument (tenantId : ℕ) (doc : PlanDocument) : Json :=
  .obj (Json.ofPairs (fingerprintMembers tenantId doc))

def computeImportFingerprint (sha256 : List Char → String) (tenantId : ℕ) (doc : PlanDocument) : String :=
  sha256 (Json.dumps ⟨none, 0⟩ (fingerprintDocument tenantId doc))

end Canonical

section Forms

theorem textOrNull_injective : Function.Injective textOrNull := by
  intro a b h
  cases a <;> cases b <;> simp_all [textOrNull]

theorem sortTexts_eq_iff {a b : List String} : sortTexts a = sortTexts b ↔ a.Perm b := by
  constructor
  · intro h
    have hb : (sortTexts b).Perm b := List.perm_insertionSort _ b
    exact (List.perm_insertionSort _ a).symm.trans (h ▸ hb)
  · intro h
    exact ((List.perm_insertionSort _ a).trans (h.trans (List.perm_insertionSort _ b).symm)).eq_of_pairwise
      (fun _ _ _ _ hab hba => le_antisymm hab hba) (List.pairwise_insertionSort _ a) (List.pairwise_insertionSort _ b)

/-- A line with its channels in their order. -/
def PlanItemDocument.sortChannels (item : PlanItemDocument) : PlanItemDocument :=
  { item with channels := sortTexts item.channels }

/-- Two lines that differ in the order of their channels at most. -/
def SameLine (a b : PlanItemDocument) : Prop := { a with channels := b.channels } = b ∧ a.channels.Perm b.channels

theorem sortChannels_eq_iff {a b : PlanItemDocument} : a.sortChannels = b.sortChannels ↔ SameLine a b := by
  obtain ⟨lineKey, date, rubricCode, workingTitle, texts, channels⟩ := a
  obtain ⟨lineKey', date', rubricCode', workingTitle', texts', channels'⟩ := b
  simp only [PlanItemDocument.sortChannels, SameLine, PlanItemDocument.mk.injEq, and_true, and_assoc, sortTexts_eq_iff]

def lineNames : List String :=
  ["line_key", "date", "rubric_code", "working_title", "angle", "channels", "format", "goal", "audience", "cta", "pain",
    "insight", "funnel_stage", "notes"]

theorem lineNames_nodup : lineNames.Nodup := by decide

theorem payload_names (item : PlanItemDocument) : item.payload.map Prod.fst = lineNames := rfl

theorem payload_eq_iff {a b : PlanItemDocument} : a.payload = b.payload ↔ a.sortChannels = b.sortChannels := by
  obtain ⟨lineKey, date, rubricCode, workingTitle, texts, channels⟩ := a
  obtain ⟨lineKey', date', rubricCode', workingTitle', texts', channels'⟩ := b
  obtain ⟨angle, format, goal, audience, cta, pain, insight, funnelStage, notes⟩ := texts
  obtain ⟨angle', format', goal', audience', cta', pain', insight', funnelStage', notes'⟩ := texts'
  simp only [PlanItemDocument.payload, PlanItemDocument.sortChannels, List.cons.injEq, Prod.mk.injEq, Json.str.injEq,
    true_and, and_true, textOrNull_injective.eq_iff, CivilDate.isoformat_injective.eq_iff, PlanItemDocument.mk.injEq,
    PlanItemTexts.mk.injEq, Json.arr.injEq, (List.map_injective_iff.2 fun _ _ h => Json.str.inj h).eq_iff]
  tauto

/-- A line has its form in common with those that differ in the order of the channels. -/
theorem canonical_eq_iff {a b : PlanItemDocument} : a.canonical = b.canonical ↔ SameLine a b := by
  rw [← sortChannels_eq_iff, ← payload_eq_iff, PlanItemDocument.canonical, PlanItemDocument.canonical, Json.obj.injEq]
  constructor
  · intro h
    exact JsonObject.ofPairs_inj ((payload_names a).trans (payload_names b).symm) (payload_names a ▸ lineNames_nodup) h
  · intro h
    rw [h]

end Forms

section Documents

/-- Two documents that differ in the order of their lines, and of the channels of each, at most. -/
structure SameUpToOrder (a b : PlanDocument) : Prop where
  periodStart : a.periodStart = b.periodStart
  periodEnd : a.periodEnd = b.periodEnd
  title : a.title = b.title
  items : ∃ items, List.Forall₂ SameLine a.items items ∧ items.Perm b.items

theorem sortLines_eq_of_perm {a b : List PlanItemDocument} (hkeys : (b.map (·.lineKey)).Nodup) (h : a.Perm b) :
    a.insertionSort LineLe = b.insertionSort LineLe := by
  have hperm : (a.insertionSort LineLe).Perm (b.insertionSort LineLe) :=
    (List.perm_insertionSort LineLe a).trans (h.trans (List.perm_insertionSort LineLe b).symm)
  have htotal : Std.Total LineLe := ⟨fun x y => le_total x.lineKey y.lineKey⟩
  have htrans : IsTrans PlanItemDocument LineLe := ⟨fun _ _ _ hxy hyz => le_trans (α := String) hxy hyz⟩
  refine hperm.eq_of_pairwise (fun x y hx hy hxy hyx => ?_) (List.pairwise_insertionSort LineLe a)
    (List.pairwise_insertionSort LineLe b)
  have hx' : x ∈ b := h.mem_iff.1 ((List.mem_insertionSort LineLe).1 hx)
  have hy' : y ∈ b := (List.mem_insertionSort LineLe).1 hy
  exact List.inj_on_of_nodup_map hkeys hx' hy' (le_antisymm hxy hyx)

theorem map_canonical_eq_iff {a b : List PlanItemDocument} :
    a.map PlanItemDocument.canonical = b.map PlanItemDocument.canonical ↔ List.Forall₂ SameLine a b := by
  rw [← List.forall₂_eq_eq_eq, List.forall₂_map_left_iff, List.forall₂_map_right_iff]
  simp only [canonical_eq_iff]

/-- The sorted forms of the lines agree when the lines do, up to their order. -/
theorem sortedForms_eq_iff {a b : List PlanItemDocument} (hkeys : (b.map (·.lineKey)).Nodup) :
    (a.insertionSort LineLe).map PlanItemDocument.canonical = (b.insertionSort LineLe).map PlanItemDocument.canonical ↔
      ∃ items, List.Forall₂ SameLine a items ∧ items.Perm b := by
  constructor
  · intro h
    obtain ⟨items, hitems, hperm⟩ := List.perm_comp_forall₂ (List.perm_insertionSort LineLe a).symm
      (map_canonical_eq_iff.1 h)
    exact ⟨items, hitems, hperm.trans (List.perm_insertionSort LineLe b)⟩
  · rintro ⟨items, hitems, hperm⟩
    have hchannels : a.map PlanItemDocument.sortChannels = items.map PlanItemDocument.sortChannels := by
      rw [← List.forall₂_eq_eq_eq, List.forall₂_map_left_iff, List.forall₂_map_right_iff]
      exact hitems.imp fun _ _ => sortChannels_eq_iff.2
    have hsort (l : List PlanItemDocument) : (l.insertionSort LineLe).map PlanItemDocument.sortChannels =
        (l.map PlanItemDocument.sortChannels).insertionSort LineLe :=
      List.map_insertionSort LineLe LineLe _ l fun _ _ _ _ => Iff.rfl
    rw [map_canonical_eq_iff, ← sortLines_eq_of_perm hkeys hperm]
    have hsorted : (a.insertionSort LineLe).map PlanItemDocument.sortChannels =
        (items.insertionSort LineLe).map PlanItemDocument.sortChannels := by
      rw [hsort, hsort, hchannels]
    rw [← List.forall₂_eq_eq_eq, List.forall₂_map_left_iff, List.forall₂_map_right_iff] at hsorted
    exact hsorted.imp fun _ _ => sortChannels_eq_iff.1

theorem texts_canonical (texts : List String) : (Json.arr (texts.map .str)).Canonical := by
  refine .arr fun x hx => ?_
  obtain ⟨text, -, rfl⟩ := List.mem_map.1 hx
  exact .str text

theorem textOrNull_canonical (text : Option String) : (textOrNull text).Canonical := by
  cases text <;> simp [textOrNull]

theorem PlanItemDocument.canonical_sorted (item : PlanItemDocument) : item.canonical.Canonical := by
  refine Json.ofPairs_canonical ?_
  simp [PlanItemDocument.payload, textOrNull_canonical, texts_canonical]

theorem canonicalPlanDict_sorted (doc : PlanDocument) : (canonicalPlanDict doc).Canonical := by
  have hitems : (Json.arr ((doc.items.insertionSort LineLe).map PlanItemDocument.canonical)).Canonical := by
    refine .arr fun x hx => ?_
    obtain ⟨item, -, rfl⟩ := List.mem_map.1 hx
    exact item.canonical_sorted
  refine Json.ofPairs_canonical ?_
  simp only [PlanDocument.members, List.forall_mem_cons, Json.Canonical.str, hitems, true_and]
  exact fun _ h => (by cases h)

theorem fingerprintDocument_sorted (tenantId : ℕ) (doc : PlanDocument) : (fingerprintDocument tenantId doc).Canonical := by
  refine Json.ofPairs_canonical ?_
  simp [fingerprintMembers, canonicalPlanDict_sorted]

theorem members_names (doc : PlanDocument) :
    doc.members.map Prod.fst = ["schema_version", "period_start", "period_end", "title", "items"] := rfl

theorem fingerprintMembers_names (tenantId : ℕ) (doc : PlanDocument) :
    (fingerprintMembers tenantId doc).map Prod.fst = ["tenant_id", "plan"] := rfl

theorem canonicalPlanDict_eq_iff {a b : PlanDocument} : canonicalPlanDict a = canonicalPlanDict b ↔ SameUpToOrder a b := by
  have hfields : canonicalPlanDict a = canonicalPlanDict b ↔ a.periodStart = b.periodStart ∧ a.periodEnd = b.periodEnd ∧
      a.title = b.title ∧ (a.items.insertionSort LineLe).map PlanItemDocument.canonical =
        (b.items.insertionSort LineLe).map PlanItemDocument.canonical := by
    constructor
    · intro h
      rw [canonicalPlanDict, canonicalPlanDict, Json.obj.injEq] at h
      have hpairs := JsonObject.ofPairs_inj ((members_names a).trans (members_names b).symm)
        (by simp [members_names]) h
      simpa [PlanDocument.members, CivilDate.isoformat_injective.eq_iff] using hpairs
    · rintro ⟨hstart, hend, htitle, hitems⟩
      rw [canonicalPlanDict, canonicalPlanDict, PlanDocument.members, PlanDocument.members, hstart, hend, htitle, hitems]
  rw [hfields, sortedForms_eq_iff b.keys]
  exact ⟨fun ⟨hstart, hend, htitle, hitems⟩ => ⟨hstart, hend, htitle, hitems⟩,
    fun h => ⟨h.periodStart, h.periodEnd, h.title, h.items⟩⟩

/-- The texts of UUIDs differ where the UUIDs do. -/
theorem uuidText_injective : Function.Injective UuidText.text := by
  intro a b h
  have htake (id : BitVec 128) : UuidText.take (UuidText.text id) = some (id, []) :=
    UuidText.take_eq_some.2 ⟨UuidText.text id, (List.append_nil _).symm, UuidText.map_asciiLowerChar_text id⟩
  have hsame := htake a
  rw [h, htake b] at hsame
  exact (Prod.mk.inj (Option.some.inj hsame)).1.symm

/-- The fingerprints of two imports are equal when the tenants are and the documents are, up to
the order of the lines and of their channels. -/
theorem computeImportFingerprint_eq_iff {sha256 : List Char → String} (hsha : Function.Injective sha256)
    {tenant tenant' : BitVec 128} {a b : PlanDocument} :
    computeImportFingerprint sha256 tenant.toNat a = computeImportFingerprint sha256 tenant'.toNat b ↔
      tenant = tenant' ∧ SameUpToOrder a b := by
  have hdocument : computeImportFingerprint sha256 tenant.toNat a = computeImportFingerprint sha256 tenant'.toNat b ↔
      fingerprintDocument tenant.toNat a = fingerprintDocument tenant'.toNat b := by
    constructor
    · intro h
      have hread (id : ℕ) (doc : PlanDocument) := Json.loads_dumps ⟨none, 0⟩ (fingerprintDocument_sorted id doc)
      exact Option.some.inj ((hread _ a).symm.trans ((congrArg Json.loads (hsha h)).trans (hread _ b)))
    · intro h
      rw [computeImportFingerprint, h, computeImportFingerprint]
  rw [hdocument, ← canonicalPlanDict_eq_iff]
  constructor
  · intro h
    rw [fingerprintDocument, fingerprintDocument, Json.obj.injEq] at h
    have hpairs := JsonObject.ofPairs_inj
      ((fingerprintMembers_names _ a).trans (fingerprintMembers_names _ b).symm) (by simp [fingerprintMembers_names]) h
    obtain ⟨htenant, hplan⟩ : String.ofList (UuidText.text tenant) = String.ofList (UuidText.text tenant') ∧
        canonicalPlanDict a = canonicalPlanDict b := by
      simpa [fingerprintMembers] using hpairs
    exact ⟨uuidText_injective (String.ofList_injective htenant), hplan⟩
  · rintro ⟨rfl, hplan⟩
    rw [fingerprintDocument, fingerprintMembers, hplan, fingerprintDocument, fingerprintMembers]

end Documents

section Replay

variable {tenantId planId : ℕ} {itemId : ℕ → ℕ} {fp : ℕ → PlanDocument → String}
  {payload : ContentPlanImportCommitRequest} {s s' : PlanState}

theorem importLines_plans {lines : List ((PlanItemDocument × ℕ) × ℕ)}
    (h : lines.foldlM (importLine tenantId planId itemId) s = .ok s') : s'.plans = s.plans := by
  refine foldlM_invariant (fun t : PlanState => t.plans = s.plans) ?_ rfl h
  intro t line t' _ ht hline
  simp only [importLine, createContentPlanItem, bind_eq_ok, raiseIf_eq_ok, pure_eq_ok] at hline
  obtain ⟨-, -, -, -, rfl⟩ := hline
  exact ht

/-- A commit that succeeds leaves the plan it answers with under the document's fingerprint. -/
theorem commit_leaves_plan {doc : PlanDocument} {r : ContentPlanImportCommitResponse}
    (hdoc : parseDocument payload.plan = .ok doc)
    (h : commitImport tenantId fp planId itemId payload s = .ok (r, s')) :
    r.importFingerprint = fp tenantId doc ∧
      ∃ plan, getContentPlanByFingerprint s' tenantId (fp tenantId doc) = some (r.planId, plan) := by
  simp only [commitImport, bind_eq_ok] at h
  obtain ⟨doc', hdoc', mapping, -, h⟩ := h
  obtain rfl : doc = doc' := Except.ok.inj (hdoc.symm.trans hdoc')
  cases hfound : getContentPlanByFingerprint s tenantId (fp tenantId doc) with
  | some found =>
    rw [hfound] at h
    obtain ⟨rfl, rfl⟩ := Prod.mk.inj (pure_eq_ok.1 h)
    exact ⟨rfl, found.2, hfound⟩
  | none =>
    rw [hfound] at h
    simp only [bind_eq_ok, pure_eq_ok, Prod.mk.injEq] at h
    obtain ⟨rubrics, -, s₁, hcreate, s₂, hloop, rfl, rfl⟩ := h
    obtain ⟨hnew, rfl⟩ := createContentPlan_ok hcreate
    refine ⟨rfl, doc.plan tenantId (getActiveGuide s tenantId) (fp tenantId doc), ?_⟩
    rw [getContentPlanByFingerprint, importLines_plans hloop, Table.rows_insert_new _ _ hnew, List.find?_append]
    rw [getContentPlanByFingerprint] at hfound
    rw [hfound]
    simp [PlanDocument.plan]

end Replay

section Examples

/-- Two lines, the first on two channels. -/
def frostLine (channels : List String) : PlanItemDocument :=
  ⟨"l1", 738900, "stories", "Frost", noTexts, channels⟩

def thawLine : PlanItemDocument := ⟨"l2", 738945, "stories", "Thaw", noTexts, []⟩

def linesDocument (items : List PlanItemDocument) : RawPlanDocument := ⟨schemaVersion, 738886, 738945, "Winter", items⟩

def linesRequest (items : List PlanItemDocument) : ContentPlanImportCommitRequest := ⟨.ok (linesDocument items), []⟩

def frostFirst : List PlanItemDocument := [frostLine ["threads", "telegram"], thawLine]

def thawFirst : List PlanItemDocument := [thawLine, frostLine ["telegram", "threads"]]

/-- What is in a document, without its proofs. -/
def PlanDocument.fields (doc : PlanDocument) : ℤ × ℤ × String × List PlanItemDocument :=
  (doc.periodStart, doc.periodEnd, doc.title, doc.items)

theorem lines_import :
    (parseDocument (linesRequest frostFirst).plan).toOption.map PlanDocument.fields =
      some (738886, 738945, "Winter", frostFirst) ∧
    (parseDocument (linesRequest thawFirst).plan).toOption.map PlanDocument.fields =
      some (738886, 738945, "Winter", thawFirst) ∧
    (commitImport 1 (computeImportFingerprint String.ofList) 3 id (linesRequest frostFirst) planStart).isOk := by
  decide +kernel

theorem sameUpToOrder_lines {a b : PlanDocument} (ha : a.fields = (738886, 738945, "Winter", frostFirst))
    (hb : b.fields = (738886, 738945, "Winter", thawFirst)) : SameUpToOrder a b := by
  simp only [PlanDocument.fields, Prod.mk.injEq] at ha hb
  obtain ⟨ha₁, ha₂, ha₃, ha₄⟩ := ha
  obtain ⟨hb₁, hb₂, hb₃, hb₄⟩ := hb
  refine ⟨ha₁.trans hb₁.symm, ha₂.trans hb₂.symm, ha₃.trans hb₃.symm, [frostLine ["telegram", "threads"], thawLine], ?_, ?_⟩
  · rw [ha₄]
    exact .cons ⟨rfl, List.Perm.swap _ _ _⟩ (.cons ⟨rfl, .refl _⟩ .nil)
  · rw [hb₄]
    exact List.Perm.swap _ _ _

end Examples

end CoreOps.Marketing
