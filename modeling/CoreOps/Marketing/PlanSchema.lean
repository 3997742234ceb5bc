import CoreOps.Lib.JsonSchema
import CoreOps.Marketing.ImportFingerprint

/-! The schema of a plan that is handed to its author, beside the model that reads the plan.
The model strips texts before it looks at their lengths, which the schema cannot say. -/

namespace CoreOps.Marketing

open Checked Text

section Schema

def planItemRequired : List String := ["line_key", "date", "rubric_code", "working_title", "channels"]

def planItemProperties : List (String × JsonSchema) :=
  [ ("line_key", .string 1 maxLineKeyLen),
    ("date", .date),
    ("rubric_code", .string 1 64),
    ("working_title", .string 1 maxWorkingTitleLen),
    ("angle", .stringOrNull),
    ("channels", .array (.enum (sortTexts allowedChannels)) 0 maxChannelsPerItem true),
    ("format", .stringOrNull),
    ("goal", .stringOrNull),
    ("audience", .stringOrNull),
    ("cta", .stringOrNull),
    ("pain", .stringOrNull),
    ("insight", .stringOrNull),
    ("funnel_stage", .stringOrNull),
    ("notes", .stringOrNull)]

def planRequired : List String := ["schema_version", "period_start", "period_end", "title", "items"]

def planProperties : List (String × JsonSchema) :=
  [ ("schema_version", .const schemaVersion),
    ("period_start", .date),
    ("period_end", .date),
    ("title", .string 1 maxTitleLen),
    ("items", .array (.object planItemRequired planItemProperties) 1 maxItems false)]

/-- `plan_json_schema`. -/
def planJsonSchema : JsonSchema := .object planRequired planProperties

/-- The days that a `date` can be. -/
def InCalendar (day : ℤ) : Prop := 1 ≤ day ∧ day ≤ 3652059

/-- The texts that the format `date` takes, of days there are. -/
def IsDateText (text : String) : Prop := ∃ day, InCalendar day ∧ text = CivilDate.isoformat day

end Schema

section Read

variable (readDate : Json → Option ℤ)

def readText : Json → Option String
  | .str s => some s
  | _ => none

/-- A text with a default of none. -/
def readOptionalText : Option Json → Option (Option String)
  | none => some none
  | some .null => some none
  | some (.str s) => some (some s)
  | some _ => none

/-- The channels before they are normalized; what is no text has no channel for its text. -/
def readChannels : Option Json → Option (List String)
  | none => some []
  | some .null => some []
  | some (.arr items) => items.mapM readText
  | some _ => none

def readField {α : Type} (ms : List (String × Json)) (key : String) (read : Json → Option α) : Option α :=
  (ms.lookup key).bind read

/-- `extra="forbid"`. -/
def hasOnly (names : List String) (ms : List (String × Json)) : Bool := ms.all fun m => m.1 ∈ names

def readTexts (ms : List (String × Json)) : Option PlanItemTexts := do
  return {
    angle := ← readOptionalText (ms.lookup "angle")
    format := ← readOptionalText (ms.lookup "format")
    goal := ← readOptionalText (ms.lookup "goal")
    audience := ← readOptionalText (ms.lookup "audience")
    cta := ← readOptionalText (ms.lookup "cta")
    pain := ← readOptionalText (ms.lookup "pain")
    insight := ← readOptionalText (ms.lookup "insight")
    funnelStage := ← readOptionalText (ms.lookup "funnel_stage")
    notes := ← readOptionalText (ms.lookup "notes") }

/-- The fields of a `PlanItemDocument`, each of its type. -/
def readPlanItem : Json → Option PlanItemDocument
  | .obj ms =>
    if hasOnly lineNames ms then do
      return {
        lineKey := ← readField ms "line_key" readText
        date := ← readField ms "date" readDate
        rubricCode := ← readField ms "rubric_code" readText
        workingTitle := ← readField ms "working_title" readText
        texts := ← readTexts ms
        channels := ← readChannels (ms.lookup "channels") }
    else none
  | _ => none

def readItems : Json → Option (List PlanItemDocument)
  | .arr items => items.mapM (readPlanItem readDate)
  | _ => none

/-- The fields of a `PlanDocument`, each of its type. -/
def readPlanDocument (ms : List (String × Json)) : Option RawPlanDocument :=
  if hasOnly planRequired ms then do
    return {
      schemaVersion := ← readField ms "schema_version" readText
      periodStart := ← readField ms "period_start" readDate
      periodEnd := ← readField ms "period_end" readDate
      title := ← readField ms "title" readText
      items := ← readField ms "items" (readItems readDate) }
  else none

/-- A plan as it comes in. -/
inductive PlanInput
  | object (j : Json)
  | text (s : String)

def maxJsonBytes : ℕ := 256000

/-- `assert_json_size`, and the text read; a dictionary has been read before. -/
def PlanInput.read : PlanInput → Except String Json
  | .object j => .ok j
  | .text s => do
    raiseIf (maxJsonBytes < s.utf8ByteSize) "json_too_large"
    orRaise (Json.loads s.toList) "malformed_json"

def parsePlanDocument (raw : PlanInput) : Except String PlanDocument := do
  match ← raw.read with
  | .obj ms => orRaise ((readPlanDocument readDate ms).bind RawPlanDocument.validate) "schema_validation_error"
  | _ => .error "plan_must_be_object"

end Read

section Agreement

variable {readDate : Json → Option ℤ} {ms : List (String × Json)}

/-- What the schema says of the fields of a line. -/
structure FitsSchema (item : PlanItemDocument) : Prop where
  lineKey : item.lineKey.length ≤ maxLineKeyLen
  rubricCode : item.rubricCode.length ≤ 64
  workingTitle : item.workingTitle.length ≤ maxWorkingTitleLen
  channels : ∀ channel ∈ item.channels, channel ∈ allowedChannels
  count : item.channels.length ≤ maxChannelsPerItem

theorem readText_of_required {required : List String} {properties : List (String × JsonSchema)} {lo hi : ℕ}
    (h : JsonSchema.Accepts IsDateText (.object required properties) (.obj ms)) (key : String) (hkey : key ∈ required)
    (hschema : properties.lookup key = some (.string lo hi)) :
    ∃ text, readField ms key readText = some text ∧ text.length ≤ hi := by
  obtain ⟨j, hfound, text, rfl, -, hlength⟩ := JsonSchema.exists_of_required h key hkey hschema
  exact ⟨text, by rw [readField, hfound]; rfl, hlength⟩

theorem readDate_of_required (hdate : ∀ day, InCalendar day → readDate (.str (CivilDate.isoformat day)) = some day)
    {required : List String} {properties : List (String × JsonSchema)}
    (h : JsonSchema.Accepts IsDateText (.object required properties) (.obj ms)) (key : String) (hkey : key ∈ required)
    (hschema : properties.lookup key = some .date) : ∃ day, readField ms key readDate = some day := by
  obtain ⟨j, hfound, text, rfl, day, hday, rfl⟩ := JsonSchema.exists_of_required h key hkey hschema
  exact ⟨day, by rw [readField, hfound]; exact hdate day hday⟩

theorem readOptionalText_of_accepts {required : List String} {properties : List (String × JsonSchema)}
    (h : JsonSchema.Accepts IsDateText (.object required properties) (.obj ms)) (key : String)
    (hschema : properties.lookup key = some .stringOrNull) : ∃ text, readOptionalText (ms.lookup key) = some text := by
  cases hfound : ms.lookup key with
  | none => exact ⟨none, rfl⟩
  | some j =>
    rcases JsonSchema.accepts_of_lookup h hfound hschema with rfl | ⟨text, rfl⟩
    · exact ⟨none, rfl⟩
    · exact ⟨some text, rfl⟩

theorem mapM_readText {js : List Json} {values : List String} (h : ∀ x ∈ js, ∃ s ∈ values, x = .str s) :
    ∃ texts, js.mapM readText = some texts ∧ (∀ text ∈ texts, text ∈ values) ∧ texts.length = js.length := by
  induction js with
  | nil => exact ⟨[], rfl, fun _ h => (by cases h), rfl⟩
  | cons j js ih =>
    obtain ⟨⟨s, hs, rfl⟩, hrest⟩ := List.forall_mem_cons.1 h
    obtain ⟨texts, htexts, hall, hlength⟩ := ih hrest
    refine ⟨s :: texts, ?_, List.forall_mem_cons.2 ⟨hs, hall⟩, congrArg Nat.succ hlength⟩
    rw [List.mapM_cons, htexts]
    rfl

theorem mem_sortTexts {texts : List String} {text : String} : text ∈ sortTexts texts ↔ text ∈ texts :=
  List.mem_insertionSort _

theorem readTexts_of_accepts (h : JsonSchema.Accepts IsDateText (.object planItemRequired planItemProperties) (.obj ms)) :
    ∃ texts, readTexts ms = some texts := by
  obtain ⟨angle, hangle⟩ := readOptionalText_of_accepts h "angle" rfl
  obtain ⟨format, hformat⟩ := readOptionalText_of_accepts h "format" rfl
  obtain ⟨goal, hgoal⟩ := readOptionalText_of_accepts h "goal" rfl
  obtain ⟨audience, haudience⟩ := readOptionalText_of_accepts h "audience" rfl
  obtain ⟨cta, hcta⟩ := readOptionalText_of_accepts h "cta" rfl
  obtain ⟨pain, hpain⟩ := readOptionalText_of_accepts h "pain" rfl
  obtain ⟨insight, hinsight⟩ := readOptionalText_of_accepts h "insight" rfl
  obtain ⟨funnelStage, hfunnel⟩ := readOptionalText_of_accepts h "funnel_stage" rfl
  obtain ⟨notes, hnotes⟩ := readOptionalText_of_accepts h "notes" rfl
  refine ⟨⟨angle, format, goal, audience, cta, pain, insight, funnelStage, notes⟩, ?_⟩
  rw [readTexts, hangle, hformat, hgoal, haudience, hcta, hpain, hinsight, hfunnel, hnotes]
  rfl

/-- A line that satisfies the schema has its fields. -/
theorem readPlanItem_of_accepts (hdate : ∀ day, InCalendar day → readDate (.str (CivilDate.isoformat day)) = some day)
    {j : Json} (h : JsonSchema.Accepts IsDateText (.object planItemRequired planItemProperties) j) :
    ∃ item, readPlanItem readDate j = some item ∧ FitsSchema item := by
  obtain ⟨ms, rfl, -⟩ := id h
  have honly : hasOnly lineNames ms = true :=
    List.all_eq_true.2 fun m hm => decide_eq_true (JsonSchema.names_of_accepts h m hm)
  obtain ⟨lineKey, hkey, hkeyLength⟩ := readText_of_required h "line_key" (by decide) rfl
  obtain ⟨date, hdate⟩ := readDate_of_required hdate h "date" (by decide) rfl
  obtain ⟨rubricCode, hrubric, hrubricLength⟩ := readText_of_required h "rubric_code" (by decide) rfl
  obtain ⟨workingTitle, htitle, htitleLength⟩ := readText_of_required h "working_title" (by decide) rfl
  obtain ⟨texts, htexts⟩ := readTexts_of_accepts h
  obtain ⟨cs, hfound, js, rfl, -, hcount, -, hall⟩ := JsonSchema.exists_of_required h "channels" (by decide) rfl
  obtain ⟨channels, hchannels, hallowed, hlength⟩ := mapM_readText hall
  refine ⟨⟨lineKey, date, rubricCode, workingTitle, texts, channels⟩, ?_, hkeyLength, hrubricLength, htitleLength,
    fun channel hmem => mem_sortTexts.1 (hallowed channel hmem), by rw [hlength]; exact hcount⟩
  rw [readPlanItem, if_pos honly, hkey, hdate, hrubric, htitle, htexts, hfound, readChannels, hchannels]
  rfl

theorem mapM_readPlanItem (hdate : ∀ day, InCalendar day → readDate (.str (CivilDate.isoformat day)) = some day)
    {js : List Json}
    (h : ∀ x ∈ js, JsonSchema.Accepts IsDateText (.object planItemRequired planItemProperties) x) :
    ∃ items, js.mapM (readPlanItem readDate) = some items ∧ (∀ item ∈ items, FitsSchema item) ∧
      items.length = js.length := by
  induction js with
  | nil => exact ⟨[], rfl, fun _ h => (by cases h), rfl⟩
  | cons j js ih =>
    obtain ⟨hfirst, hrest⟩ := List.forall_mem_cons.1 h
    obtain ⟨item, hitem, hfits⟩ := readPlanItem_of_accepts hdate hfirst
    obtain ⟨items, hitems, hall, hlength⟩ := ih hrest
    refine ⟨item :: items, ?_, List.forall_mem_cons.2 ⟨hfits, hall⟩, congrArg Nat.succ hlength⟩
    rw [List.mapM_cons, hitem, hitems]
    rfl

/-- A document that satisfies the schema has its fields. -/
theorem readPlanDocument_of_accepts
    (hdate : ∀ day, InCalendar day → readDate (.str (CivilDate.isoformat day)) = some day)
    (h : JsonSchema.Accepts IsDateText planJsonSchema (.obj ms)) :
    ∃ raw, readPlanDocument readDate ms = some raw ∧ raw.schemaVersion = schemaVersion ∧ raw.title.length ≤ maxTitleLen ∧
      raw.items ≠ [] ∧ raw.items.length ≤ maxItems ∧ ∀ item ∈ raw.items, FitsSchema item := by
  have honly : hasOnly planRequired ms = true :=
    List.all_eq_true.2 fun m hm => decide_eq_true (JsonSchema.names_of_accepts h m hm)
  obtain ⟨v, hversion, rfl⟩ := JsonSchema.exists_of_required h "schema_version" (by decide) rfl
  obtain ⟨periodStart, hstart⟩ := readDate_of_required hdate h "period_start" (by decide) rfl
  obtain ⟨periodEnd, hend⟩ := readDate_of_required hdate h "period_end" (by decide) rfl
  obtain ⟨title, htitle, htitleLength⟩ := readText_of_required h "title" (by decide) rfl
  obtain ⟨is, hfound, js, rfl, hsome, hcount, -, hall⟩ := JsonSchema.exists_of_required h "items" (by decide) rfl
  obtain ⟨items, hitems, hfits, hlength⟩ := mapM_readPlanItem hdate hall
  have hversion : readField ms "schema_version" readText = some schemaVersion := by rw [readField, hversion]; rfl
  have hitems : readField ms "items" (readItems readDate) = some items := by rw [readField, hfound]; exact hitems
  refine ⟨⟨schemaVersion, periodStart, periodEnd, title, items⟩, ?_, rfl, htitleLength, ?_, by rw [hlength]; exact hcount, hfits⟩
  · rw [readPlanDocument, if_pos honly, hversion, hstart, hend, htitle, hitems]
    rfl
  · intro hnil
    have hnil : items = [] := hnil
    rw [← hlength, hnil] at hsome
    exact absurd hsome (by decide)

theorem length_strip_le (s : String) : (strip s).length ≤ s.length := by
  have hsuffix := (List.rdropWhile_prefix isSpace (s.toList.dropWhile isSpace)).length_le
  have hprefix := (List.dropWhile_suffix (l := s.toList) isSpace).length_le
  rw [strip, String.length_ofList, ← String.length_toList]
  omega

theorem hasLength_strip {s : String} {limit : ℕ} (h : s.length ≤ limit) :
    hasLength (strip s) limit = true ↔ strip s ≠ "" := by
  have hle := length_strip_le s
  have hzero : strip s = "" ↔ (strip s).length = 0 := by
    rw [← String.length_toList, List.length_eq_zero_iff, String.toList_eq_nil_iff]
  rw [hasLength, Bool.and_eq_true, decide_eq_true_eq, decide_eq_true_eq, ne_eq, hzero]
  omega

/-- What the loop of `_normalize_channels` collects. -/
theorem collected_once {channels out : List String} :
    (∀ c ∈ channels.foldl (fun out channel => if channel ∈ out then out else out ++ [channel]) out,
      c ∈ out ∨ c ∈ channels) ∧
    (channels.foldl (fun out channel => if channel ∈ out then out else out ++ [channel]) out).length ≤
      out.length + channels.length := by
  induction channels generalizing out with
  | nil => simp
  | cons channel channels ih =>
    obtain ⟨hmem, hlength⟩ := @ih (if channel ∈ out then out else out ++ [channel])
    rw [List.foldl_cons]
    refine ⟨fun c hc => ?_, ?_⟩
    · rcases hmem c hc with hout | hrest
      · split at hout
        · exact .inl hout
        · rcases List.mem_append.1 hout with hout | hlast
          · exact .inl hout
          · exact .inr (List.mem_cons.2 (.inl (List.mem_singleton.1 hlast)))
      · exact .inr (List.mem_cons_of_mem _ hrest)
    · have hround : (if channel ∈ out then out else out ++ [channel]).length ≤ out.length + 1 := by split <;> simp
      rw [List.length_cons]
      omega

theorem allowed_normalized : (allowedChannels.all fun channel => (strip channel).toLower ∈ allowedChannels) = true := by
  decide +kernel

/-- The channels that the schema takes stay within the limits when they are normalized. -/
theorem normalizeChannels_fits {channels : List String} (hallowed : ∀ channel ∈ channels, channel ∈ allowedChannels)
    (hcount : channels.length ≤ maxChannelsPerItem) :
    (∀ channel ∈ normalizeChannels channels, channel ∈ allowedChannels) ∧
      (normalizeChannels channels).length ≤ maxChannelsPerItem := by
  obtain ⟨hmem, hlength⟩ := @collected_once
    ((channels.map fun channel => (strip channel).toLower).filter (· ≠ "")) []
  refine ⟨fun channel hchannel => ?_, ?_⟩
  · rcases hmem channel hchannel with hnone | hfiltered
    · cases hnone
    · obtain ⟨raw, hraw, rfl⟩ := List.mem_map.1 (List.mem_filter.1 hfiltered).1
      exact of_decide_eq_true (List.all_eq_true.1 allowed_normalized raw (hallowed raw hraw))
  · have hfilter := List.length_filter_le (· ≠ "") (channels.map fun channel => (strip channel).toLower)
    rw [List.length_map] at hfilter
    rw [List.length_nil] at hlength
    exact (hlength.trans (by omega)).trans hcount

/-- A line that fits the schema is valid when its required texts are not blank and its other
texts fit. -/
theorem valid_strip_iff {item : PlanItemDocument} (h : FitsSchema item) :
    item.strip.valid = true ↔ strip item.lineKey ≠ "" ∧ strip item.rubricCode ≠ "" ∧ strip item.workingTitle ≠ "" ∧
      item.texts.normalize.fits = true := by
  obtain ⟨hallowed, hcount⟩ := normalizeChannels_fits h.channels h.count
  have hchannels : ((normalizeChannels item.channels).all fun channel => channel ∈ allowedChannels) = true :=
    List.all_eq_true.2 fun channel hchannel => decide_eq_true (hallowed channel hchannel)
  rw [PlanItemDocument.valid, PlanItemDocument.strip]
  simp only [Bool.and_eq_true, hasLength_strip h.lineKey, hasLength_strip h.rubricCode, hasLength_strip h.workingTitle,
    hchannels, hcount, decide_true, and_true, and_assoc]

/-- Nothing that the model needs goes when the texts are stripped, and what is left fits. -/
structure SurvivesStrip (raw : RawPlanDocument) : Prop where
  title : strip raw.title ≠ ""
  required : ∀ item ∈ raw.items, strip item.lineKey ≠ "" ∧ strip item.rubricCode ≠ "" ∧ strip item.workingTitle ≠ ""
  texts : ∀ item ∈ raw.items, item.texts.normalize.fits = true
  distinct : (raw.items.map fun item => strip item.lineKey).Nodup

theorem survives_iff (raw : RawPlanDocument) : SurvivesStrip raw ↔ strip raw.title ≠ "" ∧
      (∀ item ∈ raw.items, strip item.lineKey ≠ "" ∧ strip item.rubricCode ≠ "" ∧ strip item.workingTitle ≠ "") ∧
      (∀ item ∈ raw.items, item.texts.normalize.fits = true) ∧ (raw.items.map fun item => strip item.lineKey).Nodup := by
  constructor
  · intro h
    exact ⟨h.title, h.required, h.texts, h.distinct⟩
  · intro h
    obtain ⟨h1, h2, h3, h4⟩ := h
    exact ⟨h1, h2, h3, h4⟩

instance (raw : RawPlanDocument) : Decidable (SurvivesStrip raw) := decidable_of_iff' _ (survives_iff raw)

/-- The period has its days in order and the lines are in it, under keys of their own. -/
def Consistent (raw : RawPlanDocument) : Prop :=
  raw.periodStart ≤ raw.periodEnd ∧ (∀ item ∈ raw.items, raw.periodStart ≤ item.date ∧ item.date ≤ raw.periodEnd) ∧
    (raw.items.map (·.lineKey)).Nodup

instance (raw : RawPlanDocument) : Decidable (Consistent raw) :=
  inferInstanceAs (Decidable (raw.periodStart ≤ raw.periodEnd ∧
    (∀ item ∈ raw.items, raw.periodStart ≤ item.date ∧ item.date ≤ raw.periodEnd) ∧ (raw.items.map (·.lineKey)).Nodup))

theorem validate_iff {raw : RawPlanDocument} (hversion : raw.schemaVersion = schemaVersion)
    (htitle : raw.title.length ≤ maxTitleLen) (hsome : raw.items ≠ []) (hcount : raw.items.length ≤ maxItems)
    (hfits : ∀ item ∈ raw.items, FitsSchema item) (hperiod : raw.periodStart ≤ raw.periodEnd)
    (hdates : ∀ item ∈ raw.items, raw.periodStart ≤ item.date ∧ item.date ≤ raw.periodEnd) :
    raw.validate.isSome = true ↔ SurvivesStrip raw := by
  have hkeys : (raw.items.map PlanItemDocument.strip).map (·.lineKey) = raw.items.map fun item => strip item.lineKey := by
    rw [List.map_map]
    rfl
  have hdates' : ∀ item ∈ raw.items.map PlanItemDocument.strip, raw.periodStart ≤ item.date ∧ item.date ≤ raw.periodEnd := by
    intro item hitem
    obtain ⟨line, hline, rfl⟩ := List.mem_map.1 hitem
    exact hdates line hline
  have hvalid : (raw.items.map PlanItemDocument.strip).all PlanItemDocument.valid = true ↔ ∀ item ∈ raw.items,
      strip item.lineKey ≠ "" ∧ strip item.rubricCode ≠ "" ∧ strip item.workingTitle ≠ "" ∧
        item.texts.normalize.fits = true := by
    rw [List.all_eq_true, List.forall_mem_map]
    constructor
    · intro h item hitem
      exact (valid_strip_iff (hfits item hitem)).1 (h item hitem)
    · intro h item hitem
      exact (valid_strip_iff (hfits item hitem)).2 (h item hitem)
  have hne : raw.items.map PlanItemDocument.strip ≠ [] := fun h => hsome (List.map_eq_nil_iff.1 h)
  have hcount' : (raw.items.map PlanItemDocument.strip).length ≤ maxItems := by rw [List.length_map]; exact hcount
  unfold RawPlanDocument.validate
  dsimp only
  constructor
  · intro h
    split_ifs at h with hdoc hfields
    · obtain ⟨-, htitle', -, -, hall⟩ := hfields
      have hall := hvalid.1 hall
      exact ⟨(hasLength_strip htitle).1 htitle', fun item hitem => ⟨(hall item hitem).1, (hall item hitem).2.1,
        (hall item hitem).2.2.1⟩, fun item hitem => (hall item hitem).2.2.2, hkeys ▸ hdoc.2.1⟩
    · cases h
    · cases h
  · intro h
    have hall := hvalid.2 fun item hitem => ⟨(h.required item hitem).1, (h.required item hitem).2.1,
      (h.required item hitem).2.2, h.texts item hitem⟩
    rw [dif_pos ⟨hperiod, hkeys.symm ▸ h.distinct, hdates'⟩,
      if_pos ⟨hversion, (hasLength_strip htitle).2 h.title, hne, hcount', hall⟩]
    rfl

end Agreement

section Examples

/-- `date.fromisoformat`, of the texts among the documents. -/
def readIsoDate : Json → Option ℤ
  | .str text => CivilDate.fromIsoformat? text
  | _ => none

theorem readIsoDate_isoformat (day : ℤ) (h : InCalendar day) : readIsoDate (.str (CivilDate.isoformat day)) = some day := by
  rw [readIsoDate, CivilDate.fromIsoformat?_isoformat h.1]

/-- A plan of one line. -/
def oneLine (title lineKey : String) : List (String × Json) :=
  [ ("items", .arr [.obj [
      ("channels", .arr [.str "telegram"]), ("date", .str "2024-02-29"), ("line_key", .str lineKey),
      ("rubric_code", .str "stories"), ("working_title", .str "Frost")]]),
    ("period_end", .str "2024-02-29"), ("period_start", .str "2024-02-29"), ("schema_version", .str schemaVersion),
    ("title", .str title)]

theorem isDateText_leapDay : IsDateText "2024-02-29" := ⟨738945, ⟨by decide, by decide⟩, by decide⟩

theorem accepts_oneLine {title lineKey : String} (htitle : 1 ≤ title.length ∧ title.length ≤ maxTitleLen)
    (hkey : 1 ≤ lineKey.length ∧ lineKey.length ≤ maxLineKeyLen) :
    JsonSchema.Accepts IsDateText planJsonSchema (.obj (oneLine title lineKey)) := by
  have hchannel : "telegram" ∈ sortTexts allowedChannels := by decide
  have hline : JsonSchema.Accepts IsDateText (.object planItemRequired planItemProperties) (.obj
      [ ("channels", .arr [.str "telegram"]), ("date", .str "2024-02-29"), ("line_key", .str lineKey),
        ("rubric_code", .str "stories"), ("working_title", .str "Frost")]) := by
    refine ⟨_, rfl, by simp [planItemRequired], ?_⟩
    simp only [List.forall_mem_cons]
    refine ⟨?_, ?_, ?_, ?_, ?_, ?_⟩
    · refine JsonSchema.acceptsMember_iff.2 ⟨_, rfl, _, rfl, Nat.zero_le _, by simp [maxChannelsPerItem],
        fun _ => List.nodup_singleton _, fun x hx => ?_⟩
      exact ⟨"telegram", hchannel, List.mem_singleton.1 hx⟩
    · exact JsonSchema.acceptsMember_iff.2 ⟨_, rfl, _, rfl, isDateText_leapDay⟩
    · exact JsonSchema.acceptsMember_iff.2 ⟨_, rfl, _, rfl, hkey⟩
    · exact JsonSchema.acceptsMember_iff.2 ⟨_, rfl, _, rfl, by decide, by decide⟩
    · exact JsonSchema.acceptsMember_iff.2 ⟨_, rfl, _, rfl, by decide, by decide⟩
    · exact fun _ h => (by cases h)
  refine ⟨_, rfl, by simp [planRequired, oneLine], ?_⟩
  simp only [oneLine, List.forall_mem_cons]
  refine ⟨?_, ?_, ?_, ?_, ?_, ?_⟩
  · exact JsonSchema.acceptsMember_iff.2 ⟨_, rfl, _, rfl, Nat.le_refl 1, by simp [maxItems], fun h => (by cases h),
      fun x hx => List.mem_singleton.1 hx ▸ hline⟩
  · exact JsonSchema.acceptsMember_iff.2 ⟨_, rfl, _, rfl, isDateText_leapDay⟩
  · exact JsonSchema.acceptsMember_iff.2 ⟨_, rfl, _, rfl, isDateText_leapDay⟩
  · exact JsonSchema.acceptsMember_iff.2 ⟨_, rfl, rfl⟩
  · exact JsonSchema.acceptsMember_iff.2 ⟨_, rfl, _, rfl, htitle⟩
  · exact fun _ h => (by cases h)

theorem oneLine_titles :
    ((readPlanDocument readIsoDate (oneLine " " "l1")).any fun raw => Consistent raw) = true ∧
    (parsePlanDocument readIsoDate (.object (.obj (oneLine " " "l1")))).isOk = false ∧
    ((readPlanDocument readIsoDate (oneLine "Winter" "l1")).any fun raw => decide (Consistent raw ∧ SurvivesStrip raw)) = true := by
  decide +kernel

end Examples

end CoreOps.Marketing
