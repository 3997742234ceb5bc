import CoreOps.Lib.Sweep
import CoreOps.Publishers.Packs

/-! The publishers of Telegram, Threads, Instagram and TikTok: what each does to one pack. A
publisher reads the pack and decides, it asks the network, and it records the post in the
pack's files. -/

namespace CoreOps.Publishers

open Checked Text Effects

/-- What comes of a pack in a scan. -/
inductive Outcome
  | skip (reason : String)
  | error (message : String)
  | published (id : PyValue)

def Outcome.isError : Outcome → Bool
  | error _ => true
  | _ => false

/-- A live scan. `main` refuses a time without a zone. -/
structure Scan where
  now : ℤ
  /-- What `now_iso` gives. -/
  nowIso : String
  environment : String → Option String
  /-- `--pack`, of Threads and TikTok. -/
  packFilter : Option String
  /-- `--allow-experimental-live`, of Instagram and TikTok. -/
  allowExperimentalLive : Bool

section Shared

variable {F : Type} (rt : Runtime F)

/-- `print` of the published line, to a stream that takes no lone surrogates. -/
def announce (id : PyValue) : Except PyError Outcome :=
  if id.isLone then .error ⟨.unicodeError, "surrogates not allowed"⟩ else .ok (.published id)

/-- Publish, and log what is raised. `logCaught` are the exceptions of the log that are caught. -/
def publishing (channel : Channel) (sanitize : String → String) (logCaught : PyError → Bool) (scan : Scan)
    (publish : Work F PyValue) : Work F Outcome := do
  match ← attempt PyError.isPublishError publish with
  | .ok id => lift (announce id)
  | .error e =>
    let safe := sanitize e.message
    let _ ← attempt logCaught (appendLog rt
      [("at", .str scan.nowIso), ("channel", .str channel.value), ("status", .str "error"), ("error", .str safe)])
    return .error safe

/-- The configuration of a pack that is out. -/
def publishedConfig (scan : Scan) (config : Dict) (id : PyValue) : Dict :=
  ((config.set "published_at" (.str scan.nowIso)).set "external_id" id).set "status" (.str "published")

def publishedEvent (channel : Channel) (scan : Scan) (id : PyValue) : Payload :=
  [("at", .str scan.nowIso), ("channel", .str channel.value), ("status", .str "published"), ("external_id", id)]

/-- A pack's configuration for a channel, and whether it is to be published now. -/
def readConfig (files : Files F) (now : ℤ) (configName : String) (pack : Dict) : Except PyError (Dict × Eligibility) := do
  let config ← loadYaml rt files configName
  let eligibility ← shouldPublish rt pack config now
  return (config, eligibility)

/-- A configuration that has passed its checks, or what comes of it. -/
def checkConfig {α : Type} (report : PyError → String) (validate : Dict → Except PyError α) (gate : α → Option String)
    (config : Dict) : Except PyError (Outcome ⊕ (Dict × α)) := do
  match ← caught PyError.isTextError (validate config) with
  | .error e => return .inl (.error (report e))
  | .ok draft => return match gate draft with
    | some message => .inl (.error message)
    | none => .inr (config, draft)

/-- Where a pack is to be published now, what is to be; else what comes of it. -/
def prepare {α : Type} (files : Files F) (now : ℤ) (configName : String) (reportPack report : PyError → String)
    (validate : Dict → Except PyError α) (gate : α → Option String) : Except PyError (Outcome ⊕ (Dict × α)) := do
  match ← caught PyError.isReadError (loadYaml rt files "pack.yml") with
  | .error e => return .inl (.error (reportPack e))
  | .ok pack =>
    match ← caught PyError.isReadError (readConfig rt files now configName pack) with
    | .error e => return .inl (.error (report e))
    | .ok (config, eligibility) =>
      if eligibility.allowed then checkConfig report validate gate config
      else return .inl (.skip eligibility.reason)

/-- The pack is approved for the channel, not yet published there, and its time has come. -/
def Due (files : Files F) (now : ℤ) (configName : String) (config : Dict) : Prop :=
  ∃ pack eligibility, loadYaml rt files "pack.yml" = .ok pack ∧
    readConfig rt files now configName pack = .ok (config, eligibility) ∧ eligibility.allowed = true

section Prepare

variable {rt} {α : Type} {files : Files F} {now : ℤ} {configName : String} {reportPack report : PyError → String}
  {validate : Dict → Except PyError α} {gate : α → Option String} {pack config : Dict} {eligibility : Eligibility}

theorem readConfig_eq_ok : readConfig rt files now configName pack = .ok (config, eligibility) ↔
    loadYaml rt files configName = .ok config ∧ shouldPublish rt pack config now = .ok eligibility := by
  simp [readConfig]

theorem raisesOnly_readConfig : RaisesOnly PyError.isReadError (readConfig rt files now configName pack) ↔
    RaisesOnly PyError.isReadError (loadYaml rt files configName) := by
  have hshould : ∀ config, RaisesOnly PyError.isReadError (shouldPublish rt pack config now) := by
    intro config
    unfold shouldPublish
    split
    · exact raisesOnly_ok _ _
    split
    · exact raisesOnly_ok _ _
    split
    · exact raisesOnly_ok _ _
    · have hparse : RaisesOnly PyError.isReadError (parsePublishAt rt (config.get "publish_at")) :=
        (raisesOnly_raiseIf rfl).bind fun _ _ => (raisesOnly_orRaise rfl).bind fun _ _ =>
          (raisesOnly_raiseIf rfl).bind fun _ _ => raisesOnly_ok _ _
      exact hparse.bind fun _ _ => raisesOnly_ok _ _
  constructor
  · intro h e he
    refine h e ?_
    rw [readConfig, he]
    rfl
  · intro h
    exact h.bind fun config _ => (hshould config).bind fun _ _ => raisesOnly_ok _ _

theorem checkConfig_eq_inr {config' : Dict} {draft : α} :
    checkConfig report validate gate config = .ok (.inr (config', draft)) ↔
      config = config' ∧ validate config = .ok draft ∧ gate draft = none := by
  unfold checkConfig
  simp only [bind_eq_ok, caught_eq_ok]
  cases hdraft : validate config with
  | error e => simp
  | ok draft' =>
    constructor
    · rintro ⟨_, ⟨rfl, -⟩, h⟩
      cases hgate : gate draft' with
      | some message => simp [hgate] at h
      | none =>
        simp only [hgate, pure_eq_ok, Sum.inr.injEq, Prod.mk.injEq] at h
        obtain ⟨rfl, rfl⟩ := h
        exact ⟨rfl, rfl, hgate⟩
    · rintro ⟨rfl, ⟨⟩, hgate⟩
      exact ⟨_, ⟨rfl, raisesOnly_ok _ _⟩, by simp [hgate]⟩

theorem prepare_eq_inr {draft : α} :
    prepare rt files now configName reportPack report validate gate = .ok (.inr (config, draft)) ↔
      Due rt files now configName config ∧ validate config = .ok draft ∧ gate draft = none := by
  constructor
  · intro h
    simp only [prepare, bind_eq_ok, caught_eq_ok] at h
    obtain ⟨_, ⟨rfl, -⟩, h⟩ := h
    cases hpack : loadYaml rt files "pack.yml" with
    | error e => simp [hpack] at h
    | ok pack =>
      simp only [hpack, bind_eq_ok, caught_eq_ok] at h
      obtain ⟨_, ⟨rfl, -⟩, h⟩ := h
      cases hread : readConfig rt files now configName pack with
      | error e => simp [hread] at h
      | ok read =>
        obtain ⟨config', eligibility⟩ := read
        simp only [hread] at h
        split at h
        · next hallowed =>
          obtain ⟨rfl, hdraft, hgate⟩ := checkConfig_eq_inr.1 h
          exact ⟨⟨pack, eligibility, hpack, hread, hallowed⟩, hdraft, hgate⟩
        · simp at h
  · rintro ⟨⟨pack, eligibility, hpack, hread, hallowed⟩, hdraft, hgate⟩
    simp only [prepare, bind_eq_ok, caught_eq_ok, hpack]
    refine ⟨_, ⟨rfl, raisesOnly_ok _ _⟩, ?_⟩
    simp only [bind_eq_ok, caught_eq_ok, hread]
    refine ⟨_, ⟨rfl, raisesOnly_ok _ _⟩, ?_⟩
    simp only [hallowed, if_true]
    exact checkConfig_eq_inr.2 ⟨rfl, hdraft, hgate⟩

/-- What gets past the handlers before anything is published. -/
theorem prepare_isOk : (∃ r, prepare rt files now configName reportPack report validate gate = .ok r) ↔
    RaisesOnly PyError.isReadError (loadYaml rt files "pack.yml") ∧
      (∀ pack, loadYaml rt files "pack.yml" = .ok pack → RaisesOnly PyError.isReadError (loadYaml rt files configName)) ∧
      ∀ config, Due rt files now configName config → RaisesOnly PyError.isTextError (validate config) := by
  have hcheck : ∀ config, (∃ r, checkConfig report validate gate config = .ok r) ↔
      RaisesOnly PyError.isTextError (validate config) := by
    intro config
    rw [checkConfig, exists_caught_bind_eq_ok]
    refine and_iff_left ?_
    cases validate config <;> exact ⟨_, rfl⟩
  unfold prepare
  rw [exists_caught_bind_eq_ok]
  refine and_congr_right fun _ => ?_
  cases hpack : loadYaml rt files "pack.yml" with
  | error e => simp [Due, hpack]
  | ok pack =>
    simp only
    rw [exists_caught_bind_eq_ok, raisesOnly_readConfig]
    have hdue : ∀ config, Due rt files now configName config ↔
        ∃ eligibility, readConfig rt files now configName pack = .ok (config, eligibility) ∧ eligibility.allowed = true := by
      intro config
      simp [Due, hpack]
    refine and_congr (by simp) ?_
    simp only [hdue]
    cases hread : readConfig rt files now configName pack with
    | error e => simp
    | ok read =>
      obtain ⟨config, eligibility⟩ := read
      cases hallowed : eligibility.allowed with
      | false => simp [hallowed]
      | true => simp [hallowed, hcheck]

end Prepare

/-- Go on with a pack that is to be published. -/
def withPrepared {α : Type} (x : Files F → Except PyError (Outcome ⊕ α)) (publish : α → Work F Outcome) :
    Work F Outcome := do
  let s ← get
  match ← lift (x s.files) with
  | .inl outcome => return outcome
  | .inr ready => publish ready

end Shared

namespace Threads

variable {F : Type} (rt : Runtime F) (files : Files F) (scan : Scan) (replies : ℕ → Reply)

def validateThreads (config : Dict) : Except PyError (String × String) := do
  let postType := (strip (rt.str ((config.get "type").orElse (.str "text")))).toLower
  raiseIf (postType ∉ ["text", "image"]) (valueError "type must be one of ['text', 'image']")
  let caption ← readCaption rt files config
  if postType = "image" then do
    let media ← mediaOf config
    let imageUrl ← mediaUrl rt media "image_url"
    return (postType, imageUrl)
  else return (postType, caption)

def api (step : String) : Api where
  requestFailed name := s!"Threads API request failed during {step}: {name}"
  invalidJson status := s!"Threads API invalid JSON during {step} (HTTP {status})"
  invalidPayload status := s!"Threads API invalid payload during {step} (HTTP {status})"
  refused payload := (payload.get "error").truthy
  refusal status payload :=
    let message := match (payload.get "error").dict? with
      | some error => rt.str ((error.get "message").orElse (.str "request failed"))
      | none => "request failed"
    s!"Threads API error during {step} (HTTP {status}): {message}"

def createContainer (payload : Payload) : Work F Container := do
  let creationId ← requestId replies (api rt "create") "Threads API create response has no id"
  return ⟨creationId, payload⟩

def publishContainer (container : Container) : Work F PyValue := do
  let postId ← requestId replies (api rt "publish") "Threads API publish response has no id"
  Work.post ⟨.threads, container.payload, postId⟩
  return postId

/-- Each further chunk answers the post before it. -/
def publishReplies : List String → PyValue → Work F (List PyValue)
  | [], _ => return []
  | chunk :: chunks, parentId => do
    let container ← createContainer rt replies
      [("media_type", .str "TEXT"), ("text", .str chunk), ("reply_to_id", parentId)]
    let postId ← publishContainer rt replies container
    return postId :: (← publishReplies chunks postId)

/-- What the root post sends, and the chunks of its replies. -/
def rootPayload (config : Dict) : Except PyError (Payload × List String) := do
  let (postType, content) ← validateThreads rt files config
  let text ← (if postType = "image" then readCaption rt files config else .ok content)
  let chunks ← splitTextChunks threadsTextMaxLen text
  let chunk ← orRaise chunks.head? ⟨.indexError, "list index out of range"⟩
  let payload := if postType = "image" then
    [("media_type", PyValue.str "IMAGE"), ("image_url", .str content), ("text", .str chunk)]
    else [("media_type", .str "TEXT"), ("text", .str chunk)]
  return (payload, chunks.tail)

def publishOne (config : Dict) : Work F PyValue := do
  let s ← get
  let (payload, extraChunks) ← lift (rootPayload rt s.files config)
  let container ← createContainer rt replies payload
  let externalId ← publishContainer rt replies container
  let replyIds ← publishReplies rt replies extraChunks externalId
  let config := publishedConfig scan config externalId
  saveYaml rt "threads.yml"
    (if replyIds.isEmpty then config else config.set "thread_reply_ids" (.list replyIds))
  appendLog rt (publishedEvent .threads scan externalId ++ [("reply_count", .int replyIds.length)])
  return externalId

def prepare : Except PyError (Outcome ⊕ (Dict × (String × String))) :=
  Publishers.prepare rt files scan.now "threads.yml" PyError.message PyError.message (validateThreads rt files)
    fun _ => none

def scanPack : Work F Outcome :=
  withPrepared (prepare rt · scan) fun ready =>
    publishing rt .threads sanitizeError (fun _ => true) scan (publishOne rt scan replies ready.1)

end Threads

namespace Instagram

variable {F : Type} (rt : Runtime F) (files : Files F) (scan : Scan) (replies : ℕ → Reply)

/-- A type, a caption and the media, each by its field and url. -/
structure Draft where
  postType : String
  caption : String
  items : List (String × String)

def validateCaptionSource (config : Dict) : Except PyError String := do
  let _ ← mediaOf config
  let source ← orRaise ((config.get "caption_source").str?.filter fun source => !isBlank source)
    (valueError "caption_source is required")
  raiseIf (strip source ≠ "instagram.md")
    (valueError "caption_source must be instagram.md for live publisher MVP")
  readCaption rt files config

def validateHttpsUrl (value : PyValue) (field : String) : Except PyError String := do
  let url ← orRaise (value.str?.filter fun url => !isBlank url) (valueError s!"{field} is required")
  raiseIf (isHttps (strip url) = false) (valueError s!"{field} must start with https://")
  return strip url

/-- An item of a carousel, at its place. -/
def carouselItem (item : PyValue × ℕ) : Except PyError (String × String) := do
  let idx := item.2
  let fields ← orRaise item.1.dict? (valueError s!"media.items[{idx}] must be a mapping")
  if (fields.get "image_url").truthy then
    return ("image_url", ← validateHttpsUrl (fields.get "image_url") s!"media.items[{idx}].image_url")
  else if (fields.get "video_url").truthy then
    return ("video_url", ← validateHttpsUrl (fields.get "video_url") s!"media.items[{idx}].video_url")
  else .error (valueError s!"media.items[{idx}] requires image_url or video_url")

def validateInstagramMediaMvp (config : Dict) : Except PyError Draft := do
  let postType := strip (rt.str ((config.get "type").orElse (.str "")))
  raiseIf (postType ∉ ["carousel", "feed_image", "reels"])
    (valueError "type must be one of ['carousel', 'feed_image', 'reels']")
  let media ← mediaOf config
  let caption ← validateCaptionSource rt files config
  if postType = "feed_image" then
    return ⟨postType, caption, [("image_url", ← validateHttpsUrl (media.get "image_url") "media.image_url")]⟩
  else if postType = "reels" then
    return ⟨postType, caption, [("video_url", ← validateHttpsUrl (media.get "video_url") "media.video_url")]⟩
  else do
    let items ← orRaise ((media.get "items").list?.filter fun items => 2 ≤ items.length)
      (valueError "media.items must be a non-empty list with at least 2 items for carousel")
    return ⟨postType, caption, ← items.zipIdx.mapM carouselItem⟩

def experimentalReelsLiveAllowed : Bool :=
  scan.allowExperimentalLive || strip ((scan.environment "FLEXITY_ALLOW_EXPERIMENTAL_REELS_LIVE").getD "") = "1"

/-- Reels are refused unless they are unlocked. -/
def gate (draft : Draft) : Option String :=
  if draft.postType = "reels" ∧ experimentalReelsLiveAllowed scan = false then
    some ("Instagram Reels live publishing is experimental and fail-closed by default. Production live " ++
      "publishing is NOT supported yet. Pass --allow-experimental-live or set " ++
      "FLEXITY_ALLOW_EXPERIMENTAL_REELS_LIVE=1 to unlock the unsafe experimental Reels path. " ++
      "Prefer dry-run (default).")
  else none

def api (step : String) : Api where
  requestFailed name := s!"Instagram API request failed during {step}: {name}"
  invalidJson status := s!"Instagram API returned invalid JSON during {step} (HTTP {status})"
  invalidPayload status := s!"Instagram API returned an invalid payload during {step} (HTTP {status})"
  refused payload := (payload.get "error").truthy
  refusal status payload :=
    let description := match (payload.get "error").dict? with
      | some error =>
        let message := rt.str (error.getD "message" (.str "request failed"))
        let code := rt.str (error.get "code")
        if (error.get "code").isNone then message else s!"{message} (code {code})"
      | none => "request failed"
    s!"Instagram API error during {step} (HTTP {status}): {description}"

def createMediaContainer (payload : Payload) : Work F Container := do
  let creationId ← requestId replies (api rt "media container creation")
    "Instagram API response has no creation id during media container creation"
  return ⟨creationId, payload⟩

def publishMediaContainer (container : Container) : Work F PyValue := do
  let externalId ← requestId replies (api rt "media publish")
    "Instagram API response has no media id during media publish"
  Work.post ⟨.instagram, container.payload, externalId⟩
  return externalId

def childPayload (item : String × String) : Payload :=
  ("is_carousel_item", .str "true") :: (item.1, .str item.2) ::
    if item.1 = "image_url" then [] else [("media_type", .str "VIDEO")]

/-- A container for each item of a carousel. -/
def createChildren : List (String × String) → Work F (List PyValue)
  | [] => return []
  | item :: items => do
    let container ← createMediaContainer rt replies (childPayload item)
    return container.id :: (← createChildren items)

/-- `",".join(ids)`. -/
def joinIds (ids : List PyValue) : PyValue :=
  let text := String.intercalate "," (ids.map fun id => id.str?.getD "")
  if ids.any PyValue.isLone then .lone text else .str text

def createPost (draft : Draft) : Work F Container := do
  if draft.postType = "carousel" then
    let childIds ← createChildren rt replies draft.items
    createMediaContainer rt replies
      [("media_type", .str "CAROUSEL"), ("children", joinIds childIds), ("caption", .str draft.caption)]
  else
    let item ← lift (orRaise draft.items.head? ⟨.indexError, "list index out of range"⟩)
    createMediaContainer rt replies
      ((if draft.postType = "reels" then [("media_type", PyValue.str "REELS")] else []) ++
        [(item.1, .str item.2), ("caption", .str draft.caption)])

def publishPack (config : Dict) (draft : Draft) : Work F PyValue := do
  let container ← createPost rt replies draft
  let externalId ← publishMediaContainer rt replies container
  saveYaml rt "instagram.yml" (publishedConfig scan config externalId)
  appendLog rt (publishedEvent .instagram scan externalId)
  return externalId

def prepare : Except PyError (Outcome ⊕ (Dict × Draft)) :=
  Publishers.prepare rt files scan.now "instagram.yml"
    (fun e => "cannot read pack.yml: " ++ sanitizeError e.message) (fun e => sanitizeError e.message)
    (validateInstagramMediaMvp rt files) (gate scan)

def scanPack : Work F Outcome :=
  withPrepared (prepare rt · scan) fun ready =>
    publishing rt .instagram sanitizeError PyError.isReadError scan (publishPack rt scan replies ready.1 ready.2)

end Instagram

namespace Tiktok

variable {F : Type} (rt : Runtime F) (files : Files F) (scan : Scan) (replies : ℕ → Reply)

def experimentalLiveAllowed : Bool :=
  scan.allowExperimentalLive || strip ((scan.environment "FLEXITY_ALLOW_EXPERIMENTAL_TIKTOK_LIVE").getD "") = "1"

def validateTiktok (config : Dict) : Except PyError (String × String) := do
  let postType := (strip (rt.str ((config.get "type").orElse (.str "video")))).toLower
  raiseIf (postType ≠ "video") (valueError "type must be video")
  let media ← mediaOf config
  let videoUrl ← mediaUrl rt media "video_url"
  let _ ← readCaption rt files config
  return (postType, videoUrl)

def api : Api where
  requestFailed name := s!"TikTok API request failed: {name}"
  invalidJson status := s!"TikTok API invalid JSON during publish (HTTP {status})"
  invalidPayload status := s!"TikTok API invalid payload during publish (HTTP {status})"
  refused payload := (payload.get "error").truthy
  refusal status payload :=
    let message := match (payload.get "error").dict? with
      | some error => rt.str ((error.get "message").orElse (.str "request failed"))
      | none => "request failed"
    s!"TikTok API error during publish (HTTP {status}): {message}"

/-- `str(v)`, as a value. -/
def asText : PyValue → PyValue
  | .lone escaped => .lone escaped
  | v => .str (rt.str v)

/-- `str((body.get("data") or {}).get("publish_id") or "")`. -/
def publishId (body : Dict) : Except PyError PyValue := do
  let data ← orRaise ((body.get "data").orElse (.dict [])).dict? ⟨.attributeError, "object has no attribute 'get'"⟩
  return asText rt ((data.get "publish_id").orElse (.str ""))

def publishOne (config : Dict) : Work F PyValue := do
  let s ← get
  let (_, videoUrl) ← lift (validateTiktok rt s.files config)
  let caption ← lift (readCaption rt s.files config)
  let reply ← ask replies
  let body ← lift ((api rt).payload reply)
  let externalId ← lift (publishId rt body)
  lift (raiseIf (externalId.truthy = false) (runtimeError "TikTok API response has no publish_id"))
  let title := String.ofList (caption.toList.take 150)
  Work.post ⟨.tiktok, [("post_info", .dict (mapping [("title", .str title)])),
    ("source_info", .dict (mapping [("source", .str "PULL_FROM_URL"), ("video_url", .str videoUrl)]))], externalId⟩
  saveYaml rt "tiktok.yml" (publishedConfig scan config externalId)
  appendLog rt (publishedEvent .tiktok scan externalId)
  return externalId

def prepare : Except PyError (Outcome ⊕ (Dict × (String × String))) :=
  Publishers.prepare rt files scan.now "tiktok.yml" (fun e => sanitizeError e.message)
    (fun e => sanitizeError e.message) (validateTiktok rt files) fun _ => none

def scanPack : Work F Outcome :=
  withPrepared (prepare rt · scan) fun ready =>
    publishing rt .tiktok sanitizeError (fun _ => true) scan (publishOne rt scan replies ready.1)

end Tiktok

namespace Telegram

variable {F : Type} (rt : Runtime F) (files : Files F) (scan : Scan) (replies : ℕ → Reply)

/-- `should_publish`, at a time with a zone. -/
def shouldPublish (pack : Dict) : Bool × String :=
  if (pack.get "status").isText "approved" = false then (false, "pack.status is not approved")
  else
    match (pack.get "publish").dict? with
    | none => (false, "publish is missing or invalid")
    | some publish =>
      match (publish.get "telegram").dict? with
      | none => (false, "publish.telegram is missing or invalid")
      | some telegram =>
        if (telegram.get "enabled").isTrue = false then (false, "publish.telegram.enabled is not true")
        else if (telegram.get "status").isText "approved" = false then
          (false, "publish.telegram.status is not approved")
        else if (telegram.get "published_at").isNone = false then (false, "already published")
        else if (telegram.get "publish_at").truthy = false then (false, "publish.telegram.publish_at is missing")
        else
          match rt.isoparse (rt.str (telegram.get "publish_at")) with
          | none => (false, "publish.telegram.publish_at is invalid")
          | some publishAt =>
            if publishAt.aware = false then (false, "publish.telegram.publish_at must include a timezone")
            else if scan.now < publishAt.instant then (false, "publish.telegram.publish_at is in the future")
            else (true, "ready")

/-- `send_telegram_message`, up to the id of the message. -/
def api : Api where
  requestFailed name := s!"Telegram API request failed: {name}"
  invalidJson status := s!"Telegram API returned invalid JSON (HTTP {status})"
  invalidPayload status := s!"Telegram API returned an invalid payload (HTTP {status})"
  refused payload := !(payload.get "ok").truthy
  refusal status payload :=
    let description := rt.str (payload.getD "description" (.str "request failed"))
    s!"Telegram API error (HTTP {status}): {description}"

/-- The message id, an integer. -/
def messageId (payload : Dict) : Option PyValue :=
  ((payload.get "result").dict?.map fun result => result.get "message_id").filter PyValue.isInt

def sendTelegramMessage (text : String) : Work F PyValue := do
  let reply ← ask replies
  let payload ← lift ((api rt).payload reply)
  let id ← lift (orRaise (messageId payload) (runtimeError "Telegram API response has no integer message_id"))
  Work.post ⟨.telegram, [("text", .str text), ("disable_web_page_preview", .bool true)], id⟩
  return id

/-- `pack["publish"]["telegram"]` with what has been published. -/
def publishedPack (pack : Dict) (id : PyValue) : Dict :=
  let publish := (pack.get "publish").dict?.getD []
  let telegram := (publish.get "telegram").dict?.getD []
  pack.set "publish" (.dict (publish.set "telegram"
    (.dict ((telegram.set "published_at" (.str scan.nowIso)).set "external_id" id))))

def publishOne (pack : Dict) (text : String) : Work F PyValue := do
  let id ← sendTelegramMessage rt replies text
  saveYaml rt "pack.yml" (publishedPack scan pack id)
  appendLog rt [("at", .str scan.nowIso), ("channel", .str "telegram"), ("status", .str "published"),
    ("message_id", id)]
  return id

/-- The text, and why there is none if it is empty. -/
def readText : Except PyError (String × String) :=
  match orRaise (files "telegram.md") (fileNotFoundError "telegram.md") >>= rt.readText with
  | .ok text => .ok (strip text, "telegram.md is empty")
  | .error e => if e.kind = .fileNotFoundError then .ok ("", "telegram.md not found") else .error e

/-- A pack that is due, with the text or why there is none. -/
def prepare : Except PyError (Outcome ⊕ (Dict × String × String)) := do
  match ← caught PyError.isReadError (loadYaml rt files "pack.yml") with
  | .error e => return .inl (.error ("cannot read pack.yml: " ++ e.message))
  | .ok pack =>
    if (shouldPublish rt scan pack).1 = false then return .inl (.skip (shouldPublish rt scan pack).2)
    else
      match ← caught PyError.isOSError (readText rt files) with
      | .error e => return .inl (.error ("cannot read telegram.md: " ++ e.message))
      | .ok text => return .inr (pack, text)

/-- The pack is approved, not yet published, and its time has come. -/
def Due (pack : Dict) : Prop := loadYaml rt files "pack.yml" = .ok pack ∧ (shouldPublish rt scan pack).1 = true

variable {rt files scan}

theorem prepare_eq_inr {pack : Dict} {text : String × String} :
    prepare rt files scan = .ok (.inr (pack, text)) ↔ Due rt files scan pack ∧ readText rt files = .ok text := by
  constructor
  · intro h
    simp only [prepare, bind_eq_ok, caught_eq_ok] at h
    obtain ⟨_, ⟨rfl, -⟩, h⟩ := h
    cases hpack : loadYaml rt files "pack.yml" with
    | error e => simp [hpack] at h
    | ok pack' =>
      cases hdue : (shouldPublish rt scan pack').1 with
      | false => simp [hpack, hdue] at h
      | true =>
        simp only [hpack, hdue, Bool.true_eq_false, if_false, bind_eq_ok, caught_eq_ok] at h
        obtain ⟨_, ⟨rfl, -⟩, h⟩ := h
        cases hread : readText rt files with
        | error e => simp [hread] at h
        | ok text' =>
          simp only [hread, pure_eq_ok, Sum.inr.injEq, Prod.mk.injEq] at h
          obtain ⟨rfl, rfl⟩ := h
          exact ⟨⟨hpack, hdue⟩, rfl⟩
  · rintro ⟨⟨hpack, hdue⟩, hread⟩
    simp only [prepare, bind_eq_ok, caught_eq_ok, hpack]
    refine ⟨_, ⟨rfl, raisesOnly_ok _ _⟩, ?_⟩
    simp only [hdue, Bool.true_eq_false, if_false, bind_eq_ok, caught_eq_ok, hread]
    exact ⟨_, ⟨rfl, raisesOnly_ok _ _⟩, rfl⟩

theorem prepare_isOk : (∃ r, prepare rt files scan = .ok r) ↔
    RaisesOnly PyError.isReadError (loadYaml rt files "pack.yml") ∧
      ∀ pack, Due rt files scan pack → RaisesOnly PyError.isOSError (readText rt files) := by
  unfold prepare
  rw [exists_caught_bind_eq_ok]
  refine and_congr_right fun _ => ?_
  cases hpack : loadYaml rt files "pack.yml" with
  | error e => simp [Due, hpack]
  | ok pack =>
    cases hdue : (shouldPublish rt scan pack).1 with
    | false => simp [Due, hpack, hdue]
    | true =>
      simp only [hdue, Bool.true_eq_false, if_false, exists_caught_bind_eq_ok]
      have hread : ∃ r, (match readText rt files with
          | .error e => pure (.inl (.error ("cannot read telegram.md: " ++ e.message)))
          | .ok text => pure (.inr (pack, text)) : Except PyError (Outcome ⊕ (Dict × String × String))) = .ok r := by
        cases readText rt files <;> exact ⟨_, rfl⟩
      simp [Due, hpack, hdue, hread]

variable (rt files scan)

/-- A pack without a text is only logged. -/
def skipEmpty (reason : String) : Work F Outcome := do
  match ← attempt PyError.isReadError (appendLog rt
      [("at", .str scan.nowIso), ("channel", .str "telegram"), ("status", .str "skipped"),
        ("reason", .str reason)]) with
  | .error e => return .error ("cannot write publish log: " ++ e.message)
  | .ok _ => return .skip reason

def scanPack : Work F Outcome :=
  withPrepared (prepare rt · scan) fun (pack, text, reason) =>
    if text = "" then skipEmpty rt scan reason
    else publishing rt .telegram id PyError.isReadError scan (publishOne rt scan replies pack text)

end Telegram

/-! Scans. -/

/-- A pack of the directory. -/
structure Pack (F : Type) where
  name : String
  files : Files F
  posts : List Post

/-- The packs in the order `sorted` gives them. -/
structure Directory (F : Type) where
  packs : List (Pack F)
  sorted : (packs.map Pack.name).Pairwise (· < ·)

section Scans

variable {F : Type} (rt : Runtime F)

/-- The file whose packs a channel looks at. -/
def Channel.configName : Channel → String
  | telegram => "pack.yml"
  | threads => "threads.yml"
  | instagram => "instagram.yml"
  | tiktok => "tiktok.yml"

def Channel.scanPack : Channel → Scan → (ℕ → Reply) → Work F Outcome
  | telegram => Telegram.scanPack rt
  | threads => Threads.scanPack rt
  | instagram => Instagram.scanPack rt
  | tiktok => Tiktok.scanPack rt

/-- What has to be in the environment. -/
def Channel.secrets : Channel → List String
  | telegram => ["TELEGRAM_BOT_TOKEN", "TELEGRAM_CHAT_ID"]
  | threads => ["THREADS_USER_ID", "THREADS_ACCESS_TOKEN"]
  | instagram => ["INSTAGRAM_USER_ID", "INSTAGRAM_ACCESS_TOKEN"]
  | tiktok => ["TIKTOK_ACCESS_TOKEN"]

/-- TikTok is refused unless it is unlocked, and every channel without its secrets. -/
def Channel.starts (channel : Channel) (scan : Scan) : Bool :=
  (channel ≠ .tiktok || Tiktok.experimentalLiveAllowed scan) &&
    channel.secrets.all fun name => (scan.environment name).getD "" ≠ ""

/-- Whether `--pack` leaves the pack out. -/
def Channel.filtered (channel : Channel) (scan : Scan) (name : String) : Bool :=
  (channel = .threads || channel = .tiktok) && (scan.packFilter.getD "" ≠ "" && scan.packFilter ≠ some name)

/-- What the scan does at a pack. It goes by the packs without the file of the channel. -/
def visitPack (channel : Channel) (scan : Scan) (replies : String → ℕ → Reply) (pack : Pack F) :
    Except PyError (Option Outcome) × Pack F :=
  if (pack.files channel.configName).isNone ∨ channel.filtered scan pack.name = true then (.ok none, pack)
  else
    let r := outcome (channel.scanPack rt scan (replies pack.name)) ⟨pack.files, 0, pack.posts⟩
    (r.1.map some, ⟨pack.name, r.2.files, r.2.posts⟩)

theorem visitPack_name (channel : Channel) (scan : Scan) (replies : String → ℕ → Reply) (pack : Pack F) :
    (visitPack rt channel scan replies pack).2.name = pack.name := by
  unfold visitPack
  split <;> rfl

theorem sorted_sweep (channel : Channel) (scan : Scan) (replies : String → ℕ → Reply) (directory : Directory F) :
    ((Sweep.sweep (visitPack rt channel scan replies) directory.packs).2.map Pack.name).Pairwise (· < ·) := by
  rw [Sweep.map_sweep (visitPack_name rt channel scan replies)]
  exact directory.sorted

/-- `run_scan`: the exit code, or the exception that ends it, and the directory. -/
def runScan (channel : Channel) (scan : Scan) (replies : String → ℕ → Reply) (directory : Directory F) :
    Except PyError ℕ × Directory F :=
  if channel.starts scan then
    let r := Sweep.sweep (visitPack rt channel scan replies) directory.packs
    (r.1.map fun outcomes => if outcomes.any fun outcome => outcome.any Outcome.isError then 1 else 0,
      ⟨r.2, sorted_sweep rt channel scan replies directory⟩)
  else (.ok 1, directory)

end Scans

end CoreOps.Publishers
