import CoreOps.Lib.Runs
import CoreOps.Marketing.ImportFingerprint

/-! Past publications that are put on record. A record is looked up by its channel, source and
evidence, or by its date when there is no evidence, before a log is written for it; the pack's
publish status is what the logs that need no review add up to. -/

namespace CoreOps.Marketing

open Checked

inductive MarketingPublishStatus
  | notStarted
  | partially
  | published
  | failed
  deriving DecidableEq, Repr

inductive HistoricalPublishChannel
  | telegram
  | instagram
  | threads
  | insights
  | insightsSite
  | manual
  | external
  deriving DecidableEq, Repr

def HistoricalPublishChannel.value : HistoricalPublishChannel → String
  | .telegram => "telegram"
  | .instagram => "instagram"
  | .threads => "threads"
  | .insights => "insights"
  | .insightsSite => "insights_site"
  | .manual => "manual"
  | .external => "external"

inductive HistoricalPublishSource
  | historicalImport
  | margosyaArchive
  | manual
  deriving DecidableEq, Repr

def HistoricalPublishSource.value : HistoricalPublishSource → String
  | .historicalImport => "historical_import"
  | .margosyaArchive => "margosya_archive"
  | .manual => "manual"

/-- A `datetime`: its day and what is left of it. -/
structure Moment where
  day : ℤ
  time : ℤ
  deriving DecidableEq, Repr

/-- What a pack shows of its publication. -/
structure PackPublication where
  tenantId : ℕ
  status : MarketingPackStatus
  approvalStatus : MarketingApprovalStatus
  publishStatus : MarketingPublishStatus
  deriving DecidableEq, Repr

structure MarketingPublishLog where
  tenantId : ℕ
  packId : ℕ
  channel : String
  action : String
  status : String
  externalUrl : Option String
  publishedAt : Option Moment
  actor : Option ℕ
  metadataJson : JsonObject
  createdAt : Moment

structure PublishHistory where
  packs : Table ℕ PackPublication
  logs : Table ℕ MarketingPublishLog

structure HistoricalPublishRequest where
  channels : List HistoricalPublishChannel
  publishedAt : Option Moment
  source : HistoricalPublishSource
  externalUrl : Option String
  evidenceRef : Option String
  note : Option String
  targetSocialChannels : Option (List HistoricalPublishChannel)
  needsReview : Bool
  updatePublishStatus : Bool

structure HistoricalPublishChannelResult where
  channel : HistoricalPublishChannel
  created : Bool
  logId : ℕ
  deriving DecidableEq, Repr

structure HistoricalPublishResponse where
  packId : ℕ
  publishStatus : MarketingPublishStatus
  packStatus : MarketingPackStatus
  approvalStatus : MarketingApprovalStatus
  logsCreated : ℕ
  skippedExisting : ℕ
  needsReview : Bool
  channelResults : List HistoricalPublishChannelResult
  deriving DecidableEq, Repr

section Logs

/-- `meta.get(key) == text`. -/
def hasText (metadata : JsonObject) (key text : String) : Bool :=
  match metadata.get? key with
  | some (.str s) => s = text
  | _ => false

/-- `bool(meta.get(key))`. -/
def isSet (metadata : JsonObject) (key : String) : Bool := (metadata.get? key).any Json.truthy

/-- A text that is there and not empty. -/
def present (text : Option String) : Option String := text.filter (· ≠ "")

/-- One round of the loop of `find_historical_publish_log` over its candidates. -/
def matchesRecord (source : String) (evidenceRef : Option String) (publishedAtDate : String) (metadata : JsonObject) : Bool :=
  hasText metadata "source" source &&
    match present evidenceRef with
    | some evidence => hasText metadata "evidence_ref" evidence
    | none => !isSet metadata "evidence_ref" && hasText metadata "published_at_date" publishedAtDate

def findHistoricalPublishLog (s : PublishHistory) (tenantId packId : ℕ) (channel source : String)
    (evidenceRef : Option String) (publishedAtDate : String) : Option (ℕ × MarketingPublishLog) :=
  s.logs.rows.find? fun r => r.2.tenantId = tenantId && r.2.packId = packId && r.2.channel = channel &&
    r.2.action = "historical_record" && matchesRecord source evidenceRef publishedAtDate r.2.metadataJson

/-- A log that the rollup counts. -/
def MarketingPublishLog.counts (log : MarketingPublishLog) : Bool :=
  log.action = "historical_record" && log.status = "recorded" && !isSet log.metadataJson "needs_review"

def defaultTargetSocialChannels : List HistoricalPublishChannel := [.telegram, .instagram]

def HistoricalPublishRequest.targets (payload : HistoricalPublishRequest) : List HistoricalPublishChannel :=
  if payload.targetSocialChannels.getD [] = [] then defaultTargetSocialChannels
  else payload.targetSocialChannels.getD []

/-- A log of the pack counts for the channel. -/
def isRecorded (s : PublishHistory) (tenantId packId : ℕ) (channel : HistoricalPublishChannel) : Bool :=
  s.logs.rows.any fun r => r.2.tenantId = tenantId && r.2.packId = packId && r.2.counts && r.2.channel = channel.value

def rollupPublishStatus (s : PublishHistory) (tenantId packId : ℕ) (targets : List HistoricalPublishChannel) :
    MarketingPublishStatus :=
  if targets.all (isRecorded s tenantId packId) then .published else .partially

end Logs

section Record

variable (tenantId packId userId : ℕ) (now : Moment) (payload : HistoricalPublishRequest)

def HistoricalPublishRequest.moment (payload : HistoricalPublishRequest) (now : Moment) : Moment :=
  payload.publishedAt.getD now

def HistoricalPublishRequest.date (payload : HistoricalPublishRequest) (now : Moment) : String :=
  CivilDate.isoformat (payload.moment now).day

def HistoricalPublishRequest.metadata (payload : HistoricalPublishRequest) (now : Moment) : List (String × Json) :=
  [ ("source", .str payload.source.value),
    ("evidence_ref", textOrNull payload.evidenceRef),
    ("published_at_date", .str (payload.date now)),
    ("note", textOrNull payload.note),
    ("needs_review", .bool payload.needsReview)]

theorem metadata_canonical : ∀ m ∈ payload.metadata now, m.2.Canonical := by
  simp [HistoricalPublishRequest.metadata, textOrNull_canonical]

def HistoricalPublishRequest.metadataJson (payload : HistoricalPublishRequest) (now : Moment) : JsonObject :=
  JsonObject.ofList (payload.metadata now) (metadata_canonical now payload)

def historicalLog (channel : HistoricalPublishChannel) : MarketingPublishLog where
  tenantId := tenantId
  packId := packId
  channel := channel.value
  action := "historical_record"
  status := "recorded"
  externalUrl := payload.externalUrl
  publishedAt := some (payload.moment now)
  actor := some userId
  metadataJson := payload.metadataJson now
  createdAt := now

/-- The log that a record finds in place of its own. -/
def findFor (s : PublishHistory) (channel : HistoricalPublishChannel) : Option (ℕ × MarketingPublishLog) :=
  findHistoricalPublishLog s tenantId packId channel.value payload.source.value payload.evidenceRef (payload.date now)

/-- One round of the loop over the channels. -/
def recordChannel (acc : PublishHistory × List HistoricalPublishChannelResult) (channel : HistoricalPublishChannel) :
    PublishHistory × List HistoricalPublishChannelResult :=
  match findFor tenantId packId now payload acc.1 channel with
  | some existing => (acc.1, acc.2 ++ [⟨channel, false, existing.1⟩])
  | none => ({ acc.1 with logs := acc.1.logs.add (historicalLog tenantId packId userId now payload channel) },
      acc.2 ++ [⟨channel, true, acc.1.logs.freshKey⟩])

def getPublication (s : PublishHistory) : Option PackPublication :=
  (s.packs.get? packId).filter fun p => p.tenantId = tenantId

def PackPublication.setPublishStatus (publishStatus : MarketingPublishStatus) (p : PackPublication) : PackPublication :=
  { p with publishStatus := publishStatus }

/-- The publish status that the record leaves, in the state with its logs. -/
def recordedStatus (pack : PackPublication) (s : PublishHistory) : MarketingPublishStatus :=
  if payload.updatePublishStatus then rollupPublishStatus s tenantId packId payload.targets else pack.publishStatus

/-- `record`. -/
def recordHistorical (s : PublishHistory) : Except MarketingError (HistoricalPublishResponse × PublishHistory) := do
  let pack ← orRaise (getPublication tenantId packId s) (.notFound "Pack not found")
  raiseIf (pack.status = .publishing) (.conflict "Cannot record historical publish while pack is publishing")
  let (s, results) := payload.channels.foldl (recordChannel tenantId packId userId now payload) (s, [])
  let publishStatus := recordedStatus tenantId packId payload pack s
  let response := {
    packId := packId
    publishStatus := publishStatus
    packStatus := pack.status
    approvalStatus := pack.approvalStatus
    logsCreated := results.countP (·.created)
    skippedExisting := results.countP (!·.created)
    needsReview := payload.needsReview
    channelResults := results }
  return (response, { s with packs := s.packs.modify packId (PackPublication.setPublishStatus publishStatus) })

end Record

section Metadata

variable {payload : HistoricalPublishRequest} {now : Moment}

/-- The members that are read again. -/
theorem get?_metadataJson : (payload.metadataJson now).get? "source" = some (.str payload.source.value) ∧
    (payload.metadataJson now).get? "evidence_ref" = some (textOrNull payload.evidenceRef) ∧
    (payload.metadataJson now).get? "published_at_date" = some (.str (payload.date now)) ∧
    (payload.metadataJson now).get? "needs_review" = some (.bool payload.needsReview) := by
  simp only [HistoricalPublishRequest.metadataJson, JsonObject.get?_ofList]
  exact ⟨rfl, rfl, rfl, rfl⟩

theorem truthy_textOrNull (text : Option String) : (textOrNull text).truthy = (present text).isSome := by
  cases text with
  | none => rfl
  | some text =>
    by_cases h : text = ""
    · subst h
      rfl
    · simp [textOrNull, Json.truthy, present, h]

/-- The log of a record is one that the record finds. -/
theorem matchesRecord_metadataJson :
    matchesRecord payload.source.value payload.evidenceRef (payload.date now) (payload.metadataJson now) = true := by
  obtain ⟨hsource, hevidence, hdate, -⟩ := @get?_metadataJson payload now
  unfold matchesRecord
  cases hpresent : present payload.evidenceRef with
  | some evidence =>
    have htext : payload.evidenceRef = some evidence := (Option.filter_eq_some_iff.1 hpresent).1
    simp [hasText, hsource, hevidence, htext, textOrNull]
  | none =>
    have hfalsy : (textOrNull payload.evidenceRef).truthy = false := by rw [truthy_textOrNull, hpresent, Option.isSome_none]
    simp [hasText, isSet, hsource, hevidence, hdate, hfalsy]

/-- The log of a record counts unless it asks for a review. -/
theorem historicalLog_counts (tenantId packId userId : ℕ) (channel : HistoricalPublishChannel) :
    (historicalLog tenantId packId userId now payload channel).counts = !payload.needsReview := by
  obtain ⟨-, -, -, hreview⟩ := @get?_metadataJson payload now
  cases hneeds : payload.needsReview <;>
    simp [MarketingPublishLog.counts, historicalLog, isSet, hreview, hneeds, Json.truthy, Json.number?]

end Metadata

section Loop

variable {tenantId packId userId : ℕ} {now : Moment} {payload : HistoricalPublishRequest} {s s' : PublishHistory}

/-- The log that a record finds is a log of the pack, for the channel. -/
theorem findFor_some {channel : HistoricalPublishChannel} {r : ℕ × MarketingPublishLog}
    (h : findFor tenantId packId now payload s channel = some r) : r ∈ s.logs.rows ∧ r.2.tenantId = tenantId ∧
      r.2.packId = packId ∧ r.2.channel = channel.value := by
  have hkey := List.find?_some h
  simp only [Bool.and_eq_true, decide_eq_true_eq] at hkey
  exact ⟨List.mem_of_find?_eq_some h, hkey.1.1.1.1, hkey.1.1.1.2, hkey.1.1.2⟩

/-- What was found is found again when logs have been added. -/
theorem findFor_append {extra : List (ℕ × MarketingPublishLog)} (hrows : s'.logs.rows = s.logs.rows ++ extra)
    (channel : HistoricalPublishChannel) : findFor tenantId packId now payload s' channel =
      (findFor tenantId packId now payload s channel).or (extra.find? fun r => r.2.tenantId = tenantId &&
        r.2.packId = packId && r.2.channel = channel.value && r.2.action = "historical_record" &&
        matchesRecord payload.source.value payload.evidenceRef (payload.date now) r.2.metadataJson) := by
  rw [findFor, findHistoricalPublishLog, hrows, List.find?_append]
  rfl

/-- What the rounds of a record leave: logs of its own behind those that were there. -/
structure Recorded (tenantId packId userId : ℕ) (now : Moment) (payload : HistoricalPublishRequest)
    (channels : List HistoricalPublishChannel) (s s' : PublishHistory) : Prop where
  packs : s'.packs = s.packs
  logs : ∃ extra, s'.logs.rows = s.logs.rows ++ extra ∧
    ∀ r ∈ extra, ∃ channel, r.2 = historicalLog tenantId packId userId now payload channel
  found : ∀ channel ∈ channels, (findFor tenantId packId now payload s' channel).isSome

theorem recordChannel_spec (results : List HistoricalPublishChannelResult) (channel : HistoricalPublishChannel) :
    Recorded tenantId packId userId now payload [channel] s
      (recordChannel tenantId packId userId now payload (s, results) channel).1 := by
  cases hfound : findFor tenantId packId now payload s channel with
  | some existing =>
    simp only [recordChannel, hfound]
    exact ⟨rfl, ⟨[], (List.append_nil _).symm, fun _ h => (by cases h)⟩,
      fun c hc => by rw [List.mem_singleton.1 hc, hfound, Option.isSome_some]⟩
  | none =>
    simp only [recordChannel, hfound]
    refine ⟨rfl, ⟨_, Table.rows_add _ _, fun r hr => ⟨channel, ?_⟩⟩, fun c hc => ?_⟩
    · rw [List.mem_singleton.1 hr]
    · obtain rfl := List.mem_singleton.1 hc
      rw [findFor_append (Table.rows_add _ _), hfound]
      simp [historicalLog, matchesRecord_metadataJson]

theorem Recorded.append {s'' : PublishHistory} {channels channels' : List HistoricalPublishChannel}
    (h : Recorded tenantId packId userId now payload channels s s')
    (h' : Recorded tenantId packId userId now payload channels' s' s'') :
    Recorded tenantId packId userId now payload (channels ++ channels') s s'' := by
  obtain ⟨extra, hrows, hextra⟩ := h.logs
  obtain ⟨extra', hrows', hextra'⟩ := h'.logs
  refine ⟨h'.packs.trans h.packs, ⟨extra ++ extra', by rw [hrows', hrows, List.append_assoc], ?_⟩, ?_⟩
  · intro r hr
    exact (List.mem_append.1 hr).elim (hextra r) (hextra' r)
  · intro channel hchannel
    rcases List.mem_append.1 hchannel with hc | hc
    · rw [findFor_append hrows', Option.isSome_or, h.found channel hc, Bool.true_or]
    · exact h'.found channel hc

theorem recordChannels_spec (channels : List HistoricalPublishChannel) (results : List HistoricalPublishChannelResult) :
    Recorded tenantId packId userId now payload channels s
      (channels.foldl (recordChannel tenantId packId userId now payload) (s, results)).1 := by
  induction channels generalizing s results with
  | nil => exact ⟨rfl, ⟨[], (List.append_nil _).symm, fun _ h => (by cases h)⟩, fun _ h => (by cases h)⟩
  | cons channel channels ih => exact (recordChannel_spec results channel).append (ih _)

/-- Where every channel has its log, no round adds one. -/
theorem recordChannels_found {channels : List HistoricalPublishChannel} (results : List HistoricalPublishChannelResult)
    (h : ∀ channel ∈ channels, (findFor tenantId packId now payload s channel).isSome) :
    (channels.foldl (recordChannel tenantId packId userId now payload) (s, results)).1 = s := by
  induction channels generalizing results with
  | nil => rfl
  | cons channel channels ih =>
    obtain ⟨hfirst, hrest⟩ := List.forall_mem_cons.1 h
    obtain ⟨existing, hexisting⟩ := Option.isSome_iff_exists.1 hfirst
    rw [List.foldl_cons, recordChannel, hexisting]
    exact ih _ hrest

/-- The record says when it was, or has evidence; an empty text is none. -/
def Dated (payload : HistoricalPublishRequest) : Prop :=
  payload.publishedAt.isSome ∨ (present payload.evidenceRef).isSome

/-- Such a record looks for the same log whenever it is made. -/
theorem findFor_dated (hdated : Dated payload) (now' : Moment) (channel : HistoricalPublishChannel) :
    findFor tenantId packId now payload s channel = findFor tenantId packId now' payload s channel := by
  unfold findFor findHistoricalPublishLog matchesRecord
  rcases hdated with hdate | hevidence
  · obtain ⟨publishedAt, hpublishedAt⟩ := Option.isSome_iff_exists.1 hdate
    simp only [HistoricalPublishRequest.date, HistoricalPublishRequest.moment, hpublishedAt, Option.getD_some]
  · obtain ⟨evidence, hevidence⟩ := Option.isSome_iff_exists.1 hevidence
    simp only [hevidence]

end Loop

section Records

variable {tenantId packId userId : ℕ} {now : Moment} {payload : HistoricalPublishRequest} {s s' : PublishHistory}
  {r : HistoricalPublishResponse}

/-- What a record that is accepted has checked, and the state it leaves. -/
theorem recordHistorical_ok (h : recordHistorical tenantId packId userId now payload s = .ok (r, s')) :
    ∃ pack s₁, getPublication tenantId packId s = some pack ∧ pack.status ≠ .publishing ∧
      s₁ = (payload.channels.foldl (recordChannel tenantId packId userId now payload) (s, [])).1 ∧
      Recorded tenantId packId userId now payload payload.channels s s₁ ∧
      s' = ⟨s.packs.modify packId (.setPublishStatus (recordedStatus tenantId packId payload pack s₁)), s₁.logs⟩ := by
  simp only [recordHistorical, bind_eq_ok, orRaise_eq_ok, raiseIf_eq_ok, pure_eq_ok, Prod.mk.injEq] at h
  obtain ⟨pack, hpack, -, hstatus, -, rfl⟩ := h
  have hrecorded : Recorded tenantId packId userId now payload payload.channels s _ :=
    recordChannels_spec payload.channels []
  exact ⟨pack, _, hpack, hstatus, rfl, hrecorded, by rw [hrecorded.packs]⟩

theorem recordHistorical_accepted {pack : PackPublication} (hpack : getPublication tenantId packId s = some pack)
    (hstatus : pack.status ≠ .publishing) : ∃ r s', recordHistorical tenantId packId userId now payload s = .ok (r, s') := by
  simp [recordHistorical, hpack, orRaise, raiseIf, hstatus, bind, Except.bind, pure, Except.pure]

/-- A record only sets the publish status of its pack. -/
theorem getPublication_modify {tenant pack : ℕ} {publishStatus : MarketingPublishStatus} {logs : Table ℕ MarketingPublishLog} :
    getPublication tenant pack ⟨s.packs.modify packId (PackPublication.setPublishStatus publishStatus), logs⟩ =
      (getPublication tenant pack s).map fun p => if pack = packId then p.setPublishStatus publishStatus else p := by
  unfold getPublication
  rw [Table.get?_modify]
  cases hrow : s.packs.get? pack with
  | none => simp
  | some p =>
    by_cases htenant : p.tenantId = tenant
    · split <;> simp [Option.filter, PackPublication.setPublishStatus, htenant]
    · split <;> simp [Option.filter, PackPublication.setPublishStatus, htenant]

/-- A record made again leaves the logs as they are. -/
theorem record_twice {userId' : ℕ} {now' : Moment} (hdated : Dated payload)
    (h : recordHistorical tenantId packId userId now payload s = .ok (r, s')) :
    ∃ r' s'', recordHistorical tenantId packId userId' now' payload s' = .ok (r', s'') ∧ s''.logs = s'.logs := by
  obtain ⟨pack, s₁, hpack, hstatus, -, hrecorded, rfl⟩ := recordHistorical_ok h
  set s' : PublishHistory := ⟨s.packs.modify packId (.setPublishStatus (recordedStatus tenantId packId payload pack s₁)),
    s₁.logs⟩
  obtain ⟨pack', hpack', hstatus'⟩ : ∃ pack', getPublication tenantId packId s' = some pack' ∧ pack'.status ≠ .publishing := by
    rw [getPublication_modify, hpack]
    refine ⟨_, rfl, ?_⟩
    dsimp only
    rw [if_pos rfl]
    exact hstatus
  have hfound (channel) (hc : channel ∈ payload.channels) : (findFor tenantId packId now' payload s' channel).isSome := by
    rw [findFor_dated hdated now]
    exact hrecorded.found channel hc
  obtain ⟨r', s'', hagain⟩ := recordHistorical_accepted hpack' hstatus'
  obtain ⟨_, s₂, -, -, hs₂, -, rfl⟩ := recordHistorical_ok hagain
  refine ⟨r', _, hagain, ?_⟩
  rw [hs₂, recordChannels_found [] hfound]

/-- The record finds no log that the rollup leaves out: none in need of a review, or not recorded. -/
def FindsCounting (tenantId packId : ℕ) (now : Moment) (payload : HistoricalPublishRequest) (s : PublishHistory) : Prop :=
  ∀ channel ∈ payload.channels, ∀ found ∈ findFor tenantId packId now payload s channel, found.2.counts = true

instance : Decidable (FindsCounting tenantId packId now payload s) :=
  inferInstanceAs (Decidable (∀ channel ∈ payload.channels, ∀ found ∈ findFor tenantId packId now payload s channel,
    found.2.counts = true))

theorem isRecorded_of_mem {log : ℕ × MarketingPublishLog} {channel : HistoricalPublishChannel} (hmem : log ∈ s.logs.rows)
    (htenant : log.2.tenantId = tenantId) (hpack : log.2.packId = packId) (hchannel : log.2.channel = channel.value)
    (hcounts : log.2.counts = true) : isRecorded s tenantId packId channel = true := by
  refine List.any_eq_true.2 ⟨log, hmem, ?_⟩
  simp [htenant, hpack, hchannel, hcounts]

/-- A record without review counts for each of its channels, unless it found a log that does not. -/
theorem isRecorded_of_record {s₁ : PublishHistory} (hreview : payload.needsReview = false)
    (hfinds : FindsCounting tenantId packId now payload s)
    (h : Recorded tenantId packId userId now payload payload.channels s s₁) :
    ∀ channel ∈ payload.channels, isRecorded s₁ tenantId packId channel = true := by
  intro channel hchannel
  obtain ⟨extra, hrows, hextra⟩ := h.logs
  obtain ⟨found, hfound⟩ := Option.isSome_iff_exists.1 (h.found channel hchannel)
  obtain ⟨hmem, htenant, hpack, hvalue⟩ := findFor_some hfound
  refine isRecorded_of_mem hmem htenant hpack hvalue ?_
  rw [findFor_append hrows] at hfound
  cases hbefore : findFor tenantId packId now payload s channel with
  | some before =>
    rw [hbefore, Option.some_or] at hfound
    exact hfinds channel hchannel found (hbefore.trans hfound)
  | none =>
    rw [hbefore, Option.none_or] at hfound
    obtain ⟨other, hother⟩ := hextra found (List.mem_of_find?_eq_some hfound)
    rw [hother, historicalLog_counts, hreview, Bool.not_false]

theorem isRecorded_mono {s₁ : PublishHistory} {channels : List HistoricalPublishChannel} {tenant pack : ℕ}
    {channel : HistoricalPublishChannel} (h : Recorded tenantId packId userId now payload channels s s₁)
    (hrecorded : isRecorded s tenant pack channel = true) : isRecorded s₁ tenant pack channel = true := by
  obtain ⟨extra, hrows, -⟩ := h.logs
  rw [isRecorded, hrows, List.any_append, Bool.or_eq_true]
  exact .inl hrecorded

end Records

section Runs

structure HistoricalRecord where
  tenantId : ℕ
  packId : ℕ
  userId : ℕ
  now : Moment
  payload : HistoricalPublishRequest

def execRecord (s : PublishHistory) (op : HistoricalRecord) : Except MarketingError PublishHistory := do
  let (_, s) ← recordHistorical op.tenantId op.packId op.userId op.now op.payload s
  return s

/-- The condition on a record and the state before it. -/
def CountsWhenFound (s : PublishHistory) (op : HistoricalRecord) : Prop :=
  op.payload.needsReview = false → FindsCounting op.tenantId op.packId op.now op.payload s

instance (s : PublishHistory) (op : HistoricalRecord) : Decidable (CountsWhenFound s op) :=
  inferInstanceAs (Decidable (op.payload.needsReview = false → FindsCounting op.tenantId op.packId op.now op.payload s))

/-- Records can be made for the pack. -/
def TakesRecords (s : PublishHistory) (tenantId packId : ℕ) : Prop :=
  ∃ pack, getPublication tenantId packId s = some pack ∧ pack.status ≠ .publishing

/-- One of the records puts the channel of the pack on record, and asks for no review. -/
def RecordsChannel (evs : List HistoricalRecord) (tenantId packId : ℕ) (channel : HistoricalPublishChannel) : Prop :=
  ∃ op ∈ evs, op.tenantId = tenantId ∧ op.packId = packId ∧ op.payload.needsReview = false ∧ channel ∈ op.payload.channels

variable {tenantId packId : ℕ} {s s' s₀ : PublishHistory} {op : HistoricalRecord} {evs : List HistoricalRecord}

theorem takesRecords_exec (h : TakesRecords s tenantId packId) (hexec : execRecord s op = .ok s') :
    TakesRecords s' tenantId packId := by
  obtain ⟨pack, hpack, hstatus⟩ := h
  simp only [execRecord, bind_eq_ok, pure_eq_ok, Prod.exists] at hexec
  obtain ⟨r, s₂, hrecord, rfl⟩ := hexec
  obtain ⟨_, s₁, -, -, -, -, rfl⟩ := recordHistorical_ok hrecord
  rw [TakesRecords, getPublication_modify, hpack]
  refine ⟨_, rfl, ?_⟩
  split
  · exact hstatus
  · exact hstatus

/-- One record: it keeps the channels on record, and adds its own. -/
theorem isRecorded_exec (hexec : execRecord s op = .ok s') (hcounts : CountsWhenFound s op) :
    (∀ tenant pack channel, isRecorded s tenant pack channel = true → isRecorded s' tenant pack channel = true) ∧
    (op.payload.needsReview = false →
      ∀ channel ∈ op.payload.channels, isRecorded s' op.tenantId op.packId channel = true) := by
  simp only [execRecord, bind_eq_ok, pure_eq_ok, Prod.exists] at hexec
  obtain ⟨r, s₂, hrecord, rfl⟩ := hexec
  obtain ⟨pack, s₁, -, -, -, hrecorded, rfl⟩ := recordHistorical_ok hrecord
  refine ⟨fun tenant pack channel h => ?_, fun hreview channel hchannel => ?_⟩
  · have hkept : isRecorded s₁ tenant pack channel = true := isRecorded_mono hrecorded h
    exact hkept
  · exact isRecorded_of_record hreview (hcounts hreview) hrecorded channel hchannel

theorem execRecord_accepted (h : TakesRecords s op.tenantId op.packId) : ∃ s', execRecord s op = .ok s' := by
  obtain ⟨pack, hpack, hstatus⟩ := h
  obtain ⟨r, s', hok⟩ := @recordHistorical_accepted _ _ op.userId op.now op.payload _ _ hpack hstatus
  exact ⟨s', by simp [execRecord, hok, bind, Except.bind, pure, Except.pure]⟩

/-- After a run, each channel that one of its records put on record counts. -/
theorem isRecorded_run (htakes : TakesRecords s₀ tenantId packId)
    (hrun : Run (Restrict CountsWhenFound (CallStep execRecord)) s₀ evs s) :
    TakesRecords s tenantId packId ∧
      ∀ channel, RecordsChannel evs tenantId packId channel → isRecorded s tenantId packId channel = true := by
  induction hrun with
  | nil => exact ⟨htakes, fun channel ⟨op, hop, _⟩ => (by cases hop)⟩
  | @snoc evs s op s' _ hstep ih =>
    obtain ⟨htakes, hrecorded⟩ := ih
    obtain ⟨hcounts, rfl⟩ := hstep
    refine ⟨settle_keeps (I := fun t => TakesRecords t tenantId packId) htakes fun s' hok =>
      takesRecords_exec htakes hok, ?_⟩
    rintro channel ⟨op', hop', rfl, rfl, hreview, hchannel⟩
    rcases List.mem_append.1 hop' with hearlier | hlast
    · refine settle_keeps (I := fun t => isRecorded t op'.tenantId op'.packId channel = true) ?_ fun s' hok => ?_
      · exact hrecorded channel ⟨op', hearlier, rfl, rfl, hreview, hchannel⟩
      · exact (isRecorded_exec hok hcounts).1 _ _ _ (hrecorded channel ⟨op', hearlier, rfl, rfl, hreview, hchannel⟩)
    · obtain rfl := List.mem_singleton.1 hlast
      obtain ⟨s', hok⟩ := execRecord_accepted htakes
      rw [settle_of_ok hok]
      exact (isRecorded_exec hok hcounts).2 hreview channel hchannel

/-- A record leaves the logs it would leave if it were made once more. And in a run in which no
record without review finds a log that does not count, a rollup over channels that have all been
put on record publishes the pack. -/
theorem historical_publish_runs (s₀ s : PublishHistory) (evs : List HistoricalRecord) (last : HistoricalRecord) :
    (∀ (userId' : ℕ) (now' : Moment) (s' : PublishHistory) (r : HistoricalPublishResponse), Dated last.payload →
      recordHistorical last.tenantId last.packId last.userId last.now last.payload s = .ok (r, s') →
      ∃ r' s'', recordHistorical last.tenantId last.packId userId' now' last.payload s' = .ok (r', s'') ∧
        s''.logs = s'.logs) ∧
    (TakesRecords s₀ last.tenantId last.packId →
      Run (Restrict CountsWhenFound (CallStep execRecord)) s₀ evs s → CountsWhenFound s last →
      last.payload.updatePublishStatus = true →
      (∀ channel ∈ last.payload.targets, RecordsChannel (evs ++ [last]) last.tenantId last.packId channel) →
      ∃ s', execRecord s last = .ok s' ∧
        (getPublication last.tenantId last.packId s').map (·.publishStatus) = some .published) := by
  refine ⟨fun _ _ _ _ hdated h => record_twice hdated h, ?_⟩
  intro htakes hrun hcounts hupdate htargets
  obtain ⟨s', hok⟩ := execRecord_accepted (isRecorded_run htakes hrun).1
  obtain ⟨-, hrecorded⟩ := isRecorded_run htakes (hrun.snoc ⟨hcounts, (settle_of_ok hok).symm⟩)
  refine ⟨s', hok, ?_⟩
  simp only [execRecord, bind_eq_ok, pure_eq_ok, Prod.exists] at hok
  obtain ⟨r, s₂, hrecord, rfl⟩ := hok
  obtain ⟨pack, s₁, hpack, -, -, -, rfl⟩ := recordHistorical_ok hrecord
  -- the rollup sees the logs that the run has left
  have hall : last.payload.targets.all (isRecorded s₁ last.tenantId last.packId) = true :=
    List.all_eq_true.2 fun channel hchannel => hrecorded channel (htargets channel hchannel)
  have hstatus : recordedStatus last.tenantId last.packId last.payload pack s₁ = .published := by
    rw [recordedStatus, if_pos hupdate, rollupPublishStatus, if_pos hall]
  rw [getPublication_modify, hpack, hstatus]
  simp [PackPublication.setPublishStatus]

/-- A pack without logs. -/
def unpublished : PublishHistory where
  packs := Table.insert ∅ 2 ⟨1, .approved, .approved, .notStarted⟩
  logs := ∅

/-- A post on both default channels, with the evidence for it. -/
def archived (needsReview : Bool) : HistoricalRecord where
  tenantId := 1
  packId := 2
  userId := 7
  now := ⟨738945, 0⟩
  payload := ⟨[.telegram, .instagram], some ⟨738900, 0⟩, .margosyaArchive, none, some "post-17", none, none, needsReview, true⟩

/-- The post is put on record for review, and then without: the pack stays in part published. -/
theorem reviewed_post_not_published :
    RecordsChannel [archived true, archived false] 1 2 .telegram ∧ RecordsChannel [archived true, archived false] 1 2 .instagram ∧
    (archived false).payload.targets = [.telegram, .instagram] ∧ Dated (archived false).payload ∧
    ((getPublication 1 2 ([archived true, archived false].foldl (settle execRecord) unpublished)).map (·.publishStatus)) =
      some .partially := by
  refine ⟨⟨archived false, by simp, rfl, rfl, rfl, by decide⟩, ⟨archived false, by simp, rfl, rfl, rfl, by decide⟩, rfl,
    .inl rfl, ?_⟩
  decide +kernel

/-- The theorem at a post that is put on record once, and again. -/
theorem archived_post_published : ∃ s', execRecord unpublished (archived false) = .ok s' ∧
    (getPublication 1 2 s').map (·.publishStatus) = some .published := by
  refine (historical_publish_runs unpublished unpublished [] (archived false)).2 ⟨_, rfl, by decide⟩ .nil
    (fun _ channel _ found hfound => (by cases hfound)) rfl fun channel hchannel => ?_
  exact ⟨archived false, List.mem_singleton.2 rfl, rfl, rfl, rfl, hchannel⟩

end Runs

end CoreOps.Marketing
