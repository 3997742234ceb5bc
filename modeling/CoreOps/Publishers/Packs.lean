import CoreOps.Lib.Effects
import CoreOps.Publishers.Texts

/-! A content pack as its publishers find it, and what they do to it: its files, what the
network answers them, and the posts that come of it. -/

namespace CoreOps.Publishers

open Checked Text Effects

inductive Channel
  | telegram
  | threads
  | instagram
  | tiktok
  deriving DecidableEq, Repr

def Channel.value : Channel → String
  | telegram => "telegram"
  | threads => "threads"
  | instagram => "instagram"
  | tiktok => "tiktok"

/-- What a request sends. -/
abbrev Payload := List (String × PyValue)

structure Post where
  channel : Channel
  payload : Payload
  id : PyValue

/-- A reply names the post it answers. -/
def Post.isRoot (post : Post) : Bool := post.payload.all fun field => field.1 ≠ "reply_to_id"

/-- The body of a response, as `response.json()` finds it. -/
inductive Body
  | invalid
  | nestedTooDeep
  | value (v : PyValue)

/-- What comes of a request. -/
inductive Reply
  | requestException (name : String)
  | unencodable (message : String)
  | response (status : ℕ) (body : Body)

abbrev Files (F : Type) := String → Option F

/-- A pack under the hands of a publisher, with the number of its requests in this scan. -/
structure PackState (F : Type) where
  files : Files F
  asked : ℕ
  posts : List Post

/-- What publishers do. An exception undoes nothing. -/
abbrev Work (F : Type) := EStateM PyError (PackState F)

section Files

variable {F : Type} (rt : Runtime F) (files : Files F)

def fileNotFoundError (name : String) : PyError :=
  ⟨.fileNotFoundError, s!"[Errno 2] No such file or directory: '{name}'"⟩

def loadYaml (name : String) : Except PyError Dict := do
  let file ← orRaise (files name) (fileNotFoundError name)
  let data ← rt.safeLoad file
  orRaise (data.orElse (.dict [])).dict? (valueError s!"{name} must contain a YAML mapping")

def saveYaml (name : String) (data : Dict) : Work F Unit := do
  let file ← lift (rt.safeDump (.dict data))
  modify fun s => { s with files := Function.update s.files name (some file) }

def logName : String := "publish_log.yml"

/-- The log, and its events. -/
def loadLog : Except PyError (Dict × List PyValue) := do
  let log ← if (files logName).isSome then loadYaml rt files logName else .ok []
  let events ← orRaise (log.getD "events" (.list [])).list? (valueError s!"{logName}: events must be a list")
  return (log, events)

/-- A mapping with texts for keys. -/
def mapping (fields : Payload) : Dict := fields.map fun field => (.str field.1, field.2)

def appendLog (event : Payload) : Work F Unit := do
  let s ← get
  let (log, events) ← lift (loadLog rt s.files)
  saveYaml rt logName (log.set "events" (.list (events ++ [.dict (mapping event)])))

variable {rt files}

theorem outcome_saveYaml {name : String} {data : Dict} {file : F} (h : rt.safeDump (.dict data) = .ok file)
    (s : PackState F) :
    outcome (saveYaml rt name data) s = (.ok (), { s with files := Function.update s.files name (some file) }) := by
  rw [saveYaml, outcome_bind, outcome_lift, h]
  rfl

theorem outcome_appendLog (event : Payload) (s : PackState F) :
    outcome (appendLog rt event) s = andThen
      (fun (log, events) => saveYaml rt logName (log.set "events" (.list (events ++ [.dict (mapping event)]))))
      (loadLog rt s.files, s) := by
  show outcome (lift (loadLog rt s.files) >>= _) s = _
  rw [outcome_bind, outcome_lift]

variable (rt files)

/-! Reading. -/

/-- `value.replace("Z", "+00:00")`. -/
def replaceZ (text : String) : String :=
  String.ofList (text.toList.flatMap fun c => if c = 'Z' then "+00:00".toList else [c])

def parsePublishAt (value : PyValue) : Except PyError DateTime := do
  raiseIf (value.truthy = false) (valueError "publish_at is missing")
  let publishAt ← orRaise (rt.fromisoformat (replaceZ (rt.str value))) (valueError "publish_at is invalid")
  raiseIf (publishAt.aware = false) (valueError "publish_at must include a timezone")
  return publishAt

structure Eligibility where
  allowed : Bool
  reason : String
  publishAt : Option DateTime

/-- `should_publish` of Threads, Instagram and TikTok. -/
def shouldPublish (pack config : Dict) (now : ℤ) : Except PyError Eligibility :=
  if (pack.get "status").isText "approved" = false then .ok ⟨false, "pack.status is not approved", none⟩
  else if (config.get "status").isText "approved" = false then .ok ⟨false, "status is not approved", none⟩
  else if (config.get "published_at").isNone = false ∨ (config.get "external_id").isNone = false then
    .ok ⟨false, "already published", none⟩
  else do
    let publishAt ← parsePublishAt rt (config.get "publish_at")
    return if now < publishAt.instant then ⟨false, "publish_at is in the future", some publishAt⟩
      else ⟨true, "ready", some publishAt⟩

def isBlank (text : String) : Bool := strip text = ""

def readCaption (config : Dict) : Except PyError String := do
  let source ← orRaise ((config.get "caption_source").str?.filter fun source => !isBlank source)
    (valueError "caption_source is required")
  let path ← orRaise (← rt.resolve source) (valueError "caption_source must stay inside the content pack")
  let file ← orRaise (files path) (valueError s!"caption source not found: {source}")
  let caption := strip (← rt.readText file)
  raiseIf (caption = "") (valueError "caption source is empty")
  return caption

def isHttps (url : String) : Bool := "https://".toList.isPrefixOf url.toList

/-- `media`, which has to be a mapping. -/
def mediaOf (config : Dict) : Except PyError Dict :=
  orRaise (config.get "media").dict? (valueError "media must be a YAML mapping")

/-- A url of the media, as Threads and TikTok read it. -/
def mediaUrl (media : Dict) (field : String) : Except PyError String := do
  let url := strip (rt.str ((media.get field).orElse (.str "")))
  raiseIf (url = "") (valueError s!"media.{field} is required")
  raiseIf (isHttps url = false) (valueError s!"media.{field} must start with https://")
  return url

end Files

/-! Requests. -/

section Requests

variable {F : Type} (replies : ℕ → Reply)

def ask : Work F Reply := do
  let s ← get
  set { s with asked := s.asked + 1 }
  return replies s.asked

/-- How a publisher speaks of the answers of a network. -/
structure Api where
  requestFailed : String → String
  invalidJson : ℕ → String
  invalidPayload : ℕ → String
  refused : Dict → Bool
  refusal : ℕ → Dict → String

/-- The payload of an answer that is no error. -/
def Api.payload (api : Api) : Reply → Except PyError Dict
  | .requestException name => .error (runtimeError (api.requestFailed name))
  | .unencodable message => .error ⟨.unicodeError, message⟩
  | .response status .invalid => .error (runtimeError (api.invalidJson status))
  | .response _ .nestedTooDeep => .error ⟨.recursionError, "maximum recursion depth exceeded"⟩
  | .response status (.value v) => do
    let payload ← orRaise v.dict? (runtimeError (api.invalidPayload status))
    raiseIf (400 ≤ status ∨ api.refused payload = true) (runtimeError (api.refusal status payload))
    return payload

/-- The field `id`, a text that is not empty. -/
def textId (payload : Dict) : Option PyValue :=
  let id := payload.get "id"
  if id.str?.isSome ∧ id.truthy = true then some id else none

/-- Send a request that is answered by an id. -/
def requestId (api : Api) (noId : String) : Work F PyValue := do
  let reply ← ask replies
  let payload ← lift (api.payload reply)
  lift (orRaise (textId payload) (runtimeError noId))

def Work.post (post : Post) : Work F Unit := modify fun s => { s with posts := s.posts ++ [post] }

/-- A container at the network, by its id. -/
structure Container where
  id : PyValue
  payload : Payload

/-- The id a reply gives to those who ask for one. -/
def Api.idOf (api : Api) (noId : String) (reply : Reply) : Except PyError PyValue := do
  let payload ← api.payload reply
  orRaise (textId payload) (runtimeError noId)

theorem outcome_requestId (api : Api) (noId : String) (s : PackState F) :
    outcome (requestId replies api noId) s = (api.idOf noId (replies s.asked), { s with asked := s.asked + 1 }) := by
  show outcome (ask replies >>= _) s = _
  rw [outcome_bind]
  show outcome (lift _ >>= _) _ = _
  rw [outcome_bind, outcome_lift, Api.idOf]
  cases api.payload (replies s.asked) with
  | error e => rfl
  | ok payload => exact outcome_lift _

/-- The id in an answer that is no error, as Threads and Instagram see it. -/
def Reply.givesId : Reply → Option PyValue
  | .response status (.value v) => do
    let payload ← v.dict?
    if status < 400 ∧ (Dict.get payload "error").truthy = false then textId payload else none
  | _ => none

variable {replies} {api : Api} {noId : String} {reply : Reply}

theorem idOf_eq_ok (hrefused : ∀ payload, api.refused payload = (Dict.get payload "error").truthy) {id : PyValue} :
    api.idOf noId reply = .ok id ↔ reply.givesId = some id := by
  cases reply with
  | requestException name => simp [Api.idOf, Api.payload, Reply.givesId]
  | unencodable message => simp [Api.idOf, Api.payload, Reply.givesId]
  | response status body =>
    cases body with
    | invalid => simp [Api.idOf, Api.payload, Reply.givesId]
    | nestedTooDeep => simp [Api.idOf, Api.payload, Reply.givesId]
    | value v =>
      cases hv : v.dict? with
      | none => simp [Api.idOf, Api.payload, Reply.givesId, hv]
      | some payload =>
        simp only [Api.idOf, Api.payload, Reply.givesId, hv, Option.bind_eq_bind, Option.bind_some, bind_eq_ok,
          orRaise_eq_ok, raiseIf_eq_ok, pure_eq_ok, hrefused, not_or, not_le, Bool.not_eq_true]
        constructor
        · rintro ⟨_, ⟨_, ⟨⟩, _, hok, rfl⟩, hid⟩
          rw [if_pos hok, hid]
        · intro h
          split at h
          · next hok => exact ⟨payload, ⟨payload, rfl, ⟨⟩, hok, rfl⟩, h⟩
          · cases h

theorem exists_idOf_eq_error (hrefused : ∀ payload, api.refused payload = (Dict.get payload "error").truthy)
    (h : reply.givesId = none) : ∃ e, api.idOf noId reply = .error e := by
  cases hid : api.idOf noId reply with
  | error e => exact ⟨e, rfl⟩
  | ok id => rw [(idOf_eq_ok hrefused).1 hid] at h; cases h

/-- The publishers are prepared for whatever a request raises. -/
theorem Api.raisesOnly_payload (api : Api) (reply : Reply) : RaisesOnly PyError.isPublishError (api.payload reply) := by
  cases reply with
  | requestException name => exact raisesOnly_error.2 rfl
  | unencodable message => exact raisesOnly_error.2 rfl
  | response status body =>
    cases body with
    | invalid => exact raisesOnly_error.2 rfl
    | nestedTooDeep => exact raisesOnly_error.2 rfl
    | value v =>
      exact (raisesOnly_orRaise rfl).bind fun payload _ =>
        (raisesOnly_raiseIf rfl).bind fun _ _ => raisesOnly_ok _ _

theorem Api.raisesOnly_idOf (api : Api) (noId : String) (reply : Reply) :
    RaisesOnly PyError.isPublishError (api.idOf noId reply) :=
  (api.raisesOnly_payload reply).bind fun _ _ => raisesOnly_orRaise rfl

end Requests

end CoreOps.Publishers
