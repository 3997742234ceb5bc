import CoreOps.Marketing.Model
import Mathlib.Data.List.Basic

/-! The preflight: a report on a pack's content. Each rule contributes errors, warnings
and checks, in the order the service runs them; the pack passes when no rule has found
an error. -/

namespace CoreOps.Marketing

open Text

structure PreflightIssue where
  code : String
  message : String
  channel : Option String
  deriving DecidableEq, Repr

structure PreflightCheckItem where
  code : String
  passed : Bool
  channel : Option String
  message : Option String
  deriving DecidableEq, Repr

/-- What rules have found. -/
structure Findings where
  errors : List PreflightIssue
  warnings : List PreflightIssue
  checks : List PreflightCheckItem
  deriving DecidableEq, Repr

namespace Findings

instance : Append Findings := ⟨fun a b => ⟨a.errors ++ b.errors, a.warnings ++ b.warnings, a.checks ++ b.checks⟩⟩

@[simp] theorem errors_append (a b : Findings) : (a ++ b).errors = a.errors ++ b.errors := rfl

def none : Findings := ⟨[], [], []⟩

def error (code message : String) (channel : Option String) : Findings := ⟨[⟨code, message, channel⟩], [], []⟩

def warning (code message : String) (channel : Option String) : Findings := ⟨[], [⟨code, message, channel⟩], []⟩

def check (code : String) (passed : Bool) (channel message : Option String) : Findings :=
  ⟨[], [], [⟨code, passed, channel, message⟩]⟩

/-- The findings of one rule for each element. -/
def forEach {α : Type} (l : List α) (rule : α → Findings) : Findings := l.foldr (fun a acc => rule a ++ acc) none

theorem errors_forEach {α : Type} (l : List α) (rule : α → Findings) :
    (forEach l rule).errors = l.flatMap fun a => (rule a).errors := by
  induction l with
  | nil => rfl
  | cons a l ih =>
    rw [List.flatMap_cons, ← ih]
    rfl

end Findings

/-- The content a preflight looks at. -/
structure PackInputs where
  title : String
  topicId : Option ℕ
  topic : Option MarketingContentTopic
  texts : List (MarketingChannel × MarketingPublicationText)
  media : List (ℕ × MarketingMediaAsset)
  deriving DecidableEq, Repr

/-- `text_by_channel`. -/
def PackInputs.text (i : PackInputs) (channel : MarketingChannel) : Option MarketingPublicationText :=
  i.texts.lookup channel

/-- The text of a channel, stripped; nothing when there is no row. -/
def PackInputs.stripped (i : PackInputs) (channel : MarketingChannel) : String :=
  ((i.text channel).map fun row => strip row.text).getD ""

def telegramMaxChars : ℕ := 4096

def minSocialTextBlocker : ℕ := 20

def minSocialTextWarn : ℕ := 40

def socialChannels : List MarketingChannel := [.telegram, .instagram, .threads]

def ctaFunnelStages : List String := ["diagnosis", "consultation", "product_education", "objection_handling"]

section Rules

variable (i : PackInputs)

def metadataRule (slug : String) : Findings :=
  if i.title ≠ "" ∧ slug ≠ "" then .check "pack_metadata_complete" true none none
  else .check "pack_metadata_complete" false none (some "title, slug and planned_date are required") ++
    .error "pack_metadata_incomplete" "Pack metadata incomplete (title, slug, planned_date)" none

def rowRule (channel : MarketingChannel) : Findings :=
  let value := channel.value
  if (i.text channel).isSome then .check s!"{value}_row_exists" true (some value) none
  else .check s!"{value}_row_exists" false (some value) none ++
    .error "channel_text_missing" s!"No text row for channel {value}" (some value)

/-- The texts of the channels that are to be published. -/
def textRule (channel : MarketingChannel) : Findings :=
  let value := channel.value
  if i.stripped channel = "" then .check s!"{value}_text_present" false (some value) (some "text is empty")
  else .check s!"{value}_text_present" true (some value) none ++
    if channel = .telegram ∧ telegramMaxChars < ((i.text channel).map (·.charCount)).getD 0 then
      .warning "telegram_text_too_long" s!"Telegram text exceeds {telegramMaxChars} characters" (some "telegram") ++
        .check "telegram_length_limit" false (some "telegram") (some "char_count > 4096")
    else .none

def anyTextRule (channels : List MarketingChannel) : Findings :=
  if channels.all fun channel => i.stripped channel = "" then
    .error "no_publishable_text" "At least one channel must have non-empty text" none ++
      .check "at_least_one_channel_text" false none (some "all channel texts are empty")
  else .check "at_least_one_channel_text" true none none

def insightsRule : Findings :=
  if (i.text .insights).isSome ∧ i.stripped .insights = "" then
    .warning "insights_text_empty" "Insights text is empty (allowed for MVP)" (some "insights")
  else .none

/-- A field of the topic that ought to be filled. -/
def wantedRule (value : Option String) (code message checkCode : String) : Findings :=
  if value = none then .warning code message none ++ .check checkCode false none none
  else .check checkCode true none none

/-- The rules about a linked topic's editorial fields. -/
def editorialRules (e : EditorialFields) : Findings :=
  let funnelStage := e.funnelStage.getD ""
  (if e.audience = none ∧ e.pain = none ∧ e.cta = none then
    .error "context_triple_missing" "Audience, pain and CTA are all missing on the linked topic" none ++
      .check "context_triple" false none (some "audience, pain and cta are empty")
  else .check "context_triple" true none none) ++
  wantedRule e.insight "insight_missing" "Topic insight is empty" "insight_present" ++
  wantedRule e.sourceRef "source_ref_missing" "Topic source_ref is empty" "source_ref_present" ++
  (if funnelStage ∈ ctaFunnelStages ∧ e.cta = none then
    .warning "cta_missing_for_funnel" s!"CTA is empty for funnel_stage={funnelStage}" none ++
      .check "cta_for_funnel" false none (some s!"funnel {funnelStage} expects CTA")
  else .check "cta_for_funnel" true none none) ++
  wantedRule e.notes "notes_missing" "Topic notes are empty" "notes_present" ++
  wantedRule e.plannedDate "topic_planned_date_missing" "Topic planned_date is empty" "topic_planned_date_present"

/-- `append_topic_context_rules`. -/
def topicContextRules : Findings :=
  match i.topicId, i.topic with
  | none, _ =>
    .error "topic_missing" "Pack has no linked topic" none ++
      .check "topic_linked" false none (some "topic_id is null")
  | some _, none =>
    .check "topic_linked" true none none ++ .error "topic_missing" "Linked topic could not be loaded" none
  | some _, some topic =>
    .check "topic_linked" true none none ++ editorialRules (extractEditorialFields topic.metadataJson)

def topicApprovedRule : Findings :=
  match i.topicId, i.topic with
  | some _, some topic =>
    let status := topic.status.value
    if topic.status = .approved then .check "topic_approved" true none none
    else .error "topic_not_approved" "Linked topic is not approved" none ++
      .check "topic_approved" false none (some s!"status={status}")
  | _, _ => .none

/-- The length of a social text, stripped. -/
def PackInputs.socialLength (channel : MarketingChannel) : ℕ := (i.stripped channel).length

def socialRule (channel : MarketingChannel) : Findings :=
  let value := channel.value
  let length := i.socialLength channel
  if 0 < length ∧ length < minSocialTextWarn then
    .check s!"{value}_social_length_ok" false (some value) (some s!"text length {length} < {minSocialTextWarn}") ++
      .warning "channel_text_short" s!"{value} text is shorter than {minSocialTextWarn} characters ({length})"
        (some value)
  else .check s!"{value}_social_length_ok" true (some value) none

/-- The lengths of the social texts there are. -/
def PackInputs.socialLengths : List ℕ := (socialChannels.map i.socialLength).filter (0 < ·)

/-- `build_social_channel_checks`. -/
def socialRules : Findings :=
  Findings.forEach socialChannels (socialRule i) ++
  if i.socialLengths ≠ [] ∧ ∀ n ∈ i.socialLengths, n < minSocialTextBlocker then
    .error "all_texts_too_short"
      s!"All non-empty social channel texts are shorter than {minSocialTextBlocker} characters" none ++
      .check "social_texts_min_length" false none (some s!"all social texts < {minSocialTextBlocker}")
  else .check "social_texts_min_length" true none none

/-- Whether a size is given and is not 1080x1080. -/
def MarketingMediaAsset.offSize (a : MarketingMediaAsset) : Bool :=
  match a.width, a.height with
  | some w, some h => w ≠ 0 ∧ h ≠ 0 ∧ (w ≠ 1080 ∨ h ≠ 1080)
  | _, _ => false

def mediaRule (asset : ℕ × MarketingMediaAsset) : Findings :=
  let id := asset.1
  let mimeType := asset.2.mimeType
  let fileName := asset.2.fileName
  (if mimeType.toLower ∈ allowedMediaMimeTypes then .check s!"media_mime_{id}" true none none
  else .check s!"media_mime_{id}" false none (some s!"invalid mime: {mimeType}") ++
    .error "media_invalid_mime" s!"Media asset has invalid mime type: {mimeType}" none) ++
  if asset.2.offSize then .warning "media_not_1080" s!"Media {fileName} is not 1080x1080" none else .none

/-- `build_media_checks`. -/
def mediaPresentRule : Findings :=
  if i.media = [] then
    .check "media_present" false none (some "no media metadata rows") ++
      .warning "media_missing" "Pack has no media metadata" none
  else .check "media_present" true none none

end Rules

/-- `run_preflight` on the content: every rule, on the requested channels or all. -/
def preflightFindings (slug : String) (channels : Option (List MarketingChannel)) (i : PackInputs) : Findings :=
  let targetChannels := if channels.getD [] = [] then defaultPackChannels else channels.getD []
  metadataRule i slug ++
  Findings.forEach defaultPackChannels (rowRule i) ++
  Findings.forEach targetChannels (textRule i) ++
  anyTextRule i targetChannels ++
  insightsRule i ++
  topicContextRules i ++
  topicApprovedRule i ++
  socialRules i ++
  Findings.forEach i.media mediaRule ++
  mediaPresentRule i

/-- The preflight finds no error. -/
def PassesPreflight (slug : String) (channels : Option (List MarketingChannel)) (i : PackInputs) : Prop :=
  (preflightFindings slug channels i).errors = []

instance (slug : String) (channels : Option (List MarketingChannel)) (i : PackInputs) :
    Decidable (PassesPreflight slug channels i) :=
  inferInstanceAs (Decidable ((preflightFindings slug channels i).errors = []))

/-! What passing says about the content. -/

section Passing

variable {i : PackInputs}

@[simp] theorem errors_metadataRule {slug : String} : (metadataRule i slug).errors = [] ↔ i.title ≠ "" ∧ slug ≠ "" := by
  unfold metadataRule
  split <;> simp_all [Findings.check, Findings.error]

@[simp] theorem errors_rowRule {channel : MarketingChannel} :
    (rowRule i channel).errors = [] ↔ (i.text channel).isSome = true := by
  unfold rowRule
  split <;> simp_all [Findings.check, Findings.error]

@[simp] theorem errors_textRule {channel : MarketingChannel} : (textRule i channel).errors = [] := by
  unfold textRule
  split
  · rfl
  · simp only [Findings.errors_append]
    split <;> rfl

@[simp] theorem errors_anyTextRule {channels : List MarketingChannel} :
    (anyTextRule i channels).errors = [] ↔ ∃ channel ∈ channels, i.stripped channel ≠ "" := by
  unfold anyTextRule
  split <;> simp_all [Findings.check, Findings.error]

@[simp] theorem errors_insightsRule : (insightsRule i).errors = [] := by
  unfold insightsRule
  split <;> rfl

theorem errors_wantedRule {value : Option String} {code message checkCode : String} :
    (wantedRule value code message checkCode).errors = [] := by
  unfold wantedRule
  split <;> rfl

theorem errors_editorialRules {e : EditorialFields} :
    (editorialRules e).errors = [] ↔ ¬ (e.audience = none ∧ e.pain = none ∧ e.cta = none) := by
  unfold editorialRules
  simp only [Findings.errors_append, List.append_eq_nil_iff, errors_wantedRule, and_true]
  split <;> split <;> simp_all [Findings.check, Findings.error, Findings.warning]

/-- The topic a pack is about, fit to be published. -/
def MarketingContentTopic.Fit (t : MarketingContentTopic) : Prop :=
  let e := extractEditorialFields t.metadataJson
  t.status = .approved ∧ ¬ (e.audience = none ∧ e.pain = none ∧ e.cta = none)

theorem errors_topicRules : (topicContextRules i).errors = [] ∧ (topicApprovedRule i).errors = [] ↔
    i.topicId.isSome = true ∧ ∃ topic, i.topic = some topic ∧ topic.Fit := by
  unfold topicContextRules topicApprovedRule
  cases i.topicId with
  | none => simp [Findings.check, Findings.error]
  | some topicId =>
    cases i.topic with
    | none => simp [Findings.check, Findings.error]
    | some topic =>
      by_cases ha : topic.status = .approved <;>
        simp [Findings.check, Findings.error, errors_editorialRules, MarketingContentTopic.Fit, ha]

@[simp] theorem errors_socialRules : (socialRules i).errors = [] ↔
    ¬ (i.socialLengths ≠ [] ∧ ∀ n ∈ i.socialLengths, n < minSocialTextBlocker) := by
  have hchannels : (Findings.forEach socialChannels (socialRule i)).errors = [] := by
    rw [Findings.errors_forEach, List.flatMap_eq_nil_iff]
    intro channel _
    simp only [socialRule]
    split <;> rfl
  unfold socialRules
  rw [Findings.errors_append, hchannels, List.nil_append]
  split <;> simp_all [Findings.check, Findings.error]

@[simp] theorem errors_mediaRule {asset : ℕ × MarketingMediaAsset} :
    (mediaRule asset).errors = [] ↔ asset.2.mimeType.toLower ∈ allowedMediaMimeTypes := by
  unfold mediaRule
  simp only [Findings.errors_append, List.append_eq_nil_iff]
  split <;> split <;> simp_all [Findings.check, Findings.error, Findings.warning, Findings.none]

@[simp] theorem errors_mediaPresentRule : (mediaPresentRule i).errors = [] := by
  unfold mediaPresentRule
  split <;> rfl

/-- A pack passes exactly when it has a title and a slug, a row for every channel, a text
to publish, a fit topic, no set of social texts that are all too short, and media of
known types only. -/
theorem passesPreflight_iff {slug : String} {channels : Option (List MarketingChannel)} :
    PassesPreflight slug channels i ↔
      (i.title ≠ "" ∧ slug ≠ "") ∧
      (∀ channel ∈ defaultPackChannels, (i.text channel).isSome = true) ∧
      (∃ channel ∈ if channels.getD [] = [] then defaultPackChannels else channels.getD [], i.stripped channel ≠ "") ∧
      (i.topicId.isSome = true ∧ ∃ topic, i.topic = some topic ∧ topic.Fit) ∧
      ¬ (i.socialLengths ≠ [] ∧ ∀ n ∈ i.socialLengths, n < minSocialTextBlocker) ∧
      ∀ asset ∈ i.media, asset.2.mimeType.toLower ∈ allowedMediaMimeTypes := by
  rw [← errors_topicRules]
  simp only [PassesPreflight, preflightFindings, Findings.errors_append, List.append_eq_nil_iff,
    Findings.errors_forEach, List.flatMap_eq_nil_iff, errors_metadataRule, errors_rowRule, errors_textRule,
    errors_anyTextRule, errors_insightsRule, errors_socialRules, errors_mediaRule, errors_mediaPresentRule,
    implies_true, and_true]
  tauto

end Passing

end CoreOps.Marketing
