import CoreOps.Lib.Runs
import CoreOps.Publishers.Channels

/-! How often a pack is published. A publisher writes down in the pack's files that a post is
out, and leaves a pack alone of which it finds that. Between the post and the note Threads
still asks for the replies. -/

namespace CoreOps.Publishers

open Checked Text Effects

/-- The value under a path of keys. -/
def PyValue.at : PyValue → List String → PyValue
  | v, [] => v
  | .dict d, key :: path => (Dict.get d key).at path
  | _, _ :: _ => .none

/-- Every mapping can be written, and what was written reads as a mapping with the same
values at the same places, so far as they are there. -/
structure Runtime.WritesBack {F : Type} (rt : Runtime F) : Prop where
  writes : ∀ d : Dict, ∃ file, rt.safeDump (.dict d) = .ok file
  reads : ∀ (d : Dict) (file : F), rt.safeDump (.dict d) = .ok file →
    ∃ d', rt.safeLoad file = .ok (.dict d') ∧
      ∀ path, ((PyValue.dict d').at path).isNone = ((PyValue.dict d).at path).isNone

/-- Where a channel writes down when a post was published. -/
def Channel.publishedPath : Channel → List String
  | telegram => ["publish", "telegram", "published_at"]
  | _ => ["published_at"]

def roots (channel : Channel) (posts : List Post) : ℕ :=
  posts.countP fun post => post.channel = channel && post.isRoot

section

variable {F : Type} (rt : Runtime F)

/-- The pack's files say that its post on the channel is out. -/
def Recorded (channel : Channel) (files : Files F) : Prop :=
  ∃ file d, files channel.configName = some file ∧ rt.safeLoad file = .ok (.dict d) ∧
    ((PyValue.dict d).at channel.publishedPath).isNone = false

/-- There is at most one root post, and if there is one it is recorded. -/
def Once (channel : Channel) (s : PackState F) : Prop :=
  roots channel s.posts ≤ 1 ∧ (roots channel s.posts ≠ 0 → Recorded rt channel s.files)

variable {rt} {channel : Channel} {s : PackState F}

theorem roots_append (channel : Channel) (posts : List Post) (post : Post) :
    roots channel (posts ++ [post]) = roots channel posts + if post.channel = channel ∧ post.isRoot then 1 else 0 := by
  simp [roots, List.countP_append, List.countP_singleton]

/-! What publishers do to the other channels of a pack: nothing. -/

/-- A property that a channel's publisher does not touch. -/
structure Untouched (I : PackState F → Prop) (channel : Channel) : Prop where
  asked : ∀ s n, I s → I { s with asked := n }
  log : ∀ s file, I s → I { s with files := Function.update s.files logName (some file) }
  config : ∀ s file, I s → I { s with files := Function.update s.files channel.configName (some file) }
  posted : ∀ s post, post.channel = channel → I s → I { s with posts := s.posts ++ [post] }

theorem configName_ne_logName (channel : Channel) : channel.configName ≠ logName := by
  cases channel <;> decide

theorem configName_injective {a b : Channel} (h : a.configName = b.configName) : a = b := by
  revert h
  cases a <;> cases b <;> decide

theorem recorded_update {name : String} (hne : channel.configName ≠ name) (files : Files F) (file : F) :
    Recorded rt channel (Function.update files name (some file)) ↔ Recorded rt channel files := by
  unfold Recorded
  rw [Function.update_of_ne hne]

theorem once_log (s : PackState F) (file : F) (h : Once rt channel s) :
    Once rt channel { s with files := Function.update s.files logName (some file) } :=
  ⟨h.1, fun hroot => (recorded_update (configName_ne_logName channel) s.files file).2 (h.2 hroot)⟩

theorem once_untouched {other : Channel} (hne : other ≠ channel) : Untouched (Once rt other) channel where
  asked _ _ h := h
  log := once_log
  config s file h :=
    ⟨h.1, fun hroot => (recorded_update (fun heq => hne (configName_injective heq)) s.files file).2 (h.2 hroot)⟩
  posted s post hpost h := by
    have hroots : roots other (s.posts ++ [post]) = roots other s.posts := by
      rw [roots_append, if_neg fun hc => hne (hc.1.symm.trans hpost), Nat.add_zero]
    exact ⟨hroots ▸ h.1, fun hroot => h.2 (hroots ▸ hroot)⟩

section Keeps

variable {I : PackState F → Prop} {scan : Scan} {replies : ℕ → Reply}

theorem keeps_requestId (hasked : ∀ s n, I s → I { s with asked := n }) (api : Api) (noId : String) :
    Keeps I (requestId replies api noId) := by
  intro s hI
  rw [Ensures, outcome_requestId]
  exact hasked s _ hI

theorem keeps_post {post : Post} (hposted : ∀ s, I s → I { s with posts := s.posts ++ [post] }) :
    Keeps I (Work.post post : Work F Unit) := Keeps.modify hposted

theorem keeps_saveYaml {name : String} (hwrote : ∀ s file, I s → I { s with files := Function.update s.files name (some file) })
    (data : Dict) : Keeps I (saveYaml rt name data) :=
  (Keeps.lift _).bind fun file => Keeps.modify fun s => hwrote s file

theorem keeps_appendLog (hlog : ∀ s file, I s → I { s with files := Function.update s.files logName (some file) })
    (event : Payload) : Keeps I (appendLog rt event) :=
  Keeps.get.bind fun _ => (Keeps.lift _).bind fun _ => keeps_saveYaml hlog _

/-- What publishing ensures stays so when its exception is logged. -/
theorem ensures_publishing (hlog : ∀ s file, I s → I { s with files := Function.update s.files logName (some file) })
    (channel : Channel) (sanitize : String → String) (logCaught : PyError → Bool) {publish : Work F PyValue}
    (h : Ensures publish (fun _ s' => I s') s) :
    Ensures (publishing rt channel sanitize logCaught scan publish) (fun _ s' => I s') s := by
  have hattempt : Ensures (attempt PyError.isPublishError publish) (fun _ s' => I s') s :=
    h.attempt (fun _ _ hs' => hs') (fun _ _ _ hs' => hs') fun _ _ _ hs' => hs'
  refine hattempt.bind (fun r s' hs' => ?_) fun _ _ hs' => hs'
  cases r with
  | ok id => exact Keeps.lift _ s' hs'
  | error e => exact (keeps_appendLog hlog _).attempt.bind (fun _ => Keeps.pure _) s' hs'

theorem ensures_withPrepared {α : Type} {x : Files F → Except PyError (Outcome ⊕ α)} {publish : α → Work F Outcome}
    (hI : I s) (h : ∀ ready, x s.files = .ok (.inr ready) → Ensures (publish ready) (fun _ s' => I s') s) :
    Ensures (withPrepared x publish) (fun _ s' => I s') s := by
  have hx : Ensures (lift (x s.files)) (fun r s' => r = x s.files ∧ s' = s) s := by
    rw [Ensures, outcome_lift]
    exact ⟨rfl, rfl⟩
  refine Ensures.bind (x := get) (Q := fun r s' => r = .ok s ∧ s' = s) ⟨rfl, rfl⟩ ?_ fun _ _ hs' => hs'.2 ▸ hI
  rintro _ _ ⟨⟨⟩, rfl⟩
  refine hx.bind ?_ fun _ _ hs' => hs'.2 ▸ hI
  rintro r _ ⟨hr, rfl⟩
  cases r with
  | inl outcome => exact hI
  | inr ready => exact h ready hr.symm

theorem keeps_createContainer (hasked : ∀ s n, I s → I { s with asked := n }) (payload : Payload) :
    Keeps I (Threads.createContainer rt replies payload) :=
  (keeps_requestId hasked _ _).bind fun _ => Keeps.pure _

theorem keeps_createMediaContainer (hasked : ∀ s n, I s → I { s with asked := n }) (payload : Payload) :
    Keeps I (Instagram.createMediaContainer rt replies payload) :=
  (keeps_requestId hasked _ _).bind fun _ => Keeps.pure _

theorem keeps_createPost (hasked : ∀ s n, I s → I { s with asked := n }) (draft : Instagram.Draft) :
    Keeps I (Instagram.createPost rt replies draft) := by
  have hchildren : ∀ items, Keeps I (Instagram.createChildren rt replies items) := by
    intro items
    induction items with
    | nil => exact Keeps.pure _
    | cons item items ih =>
      exact (keeps_createMediaContainer hasked _).bind fun _ => ih.bind fun _ => Keeps.pure _
  unfold Instagram.createPost
  split
  · exact (hchildren _).bind fun _ => keeps_createMediaContainer hasked _
  · exact (Keeps.lift _).bind fun _ => keeps_createMediaContainer hasked _

theorem keeps_skipEmpty (hlog : ∀ s file, I s → I { s with files := Function.update s.files logName (some file) })
    (reason : String) : Keeps I (Telegram.skipEmpty rt scan reason) := by
  refine (keeps_appendLog hlog _).attempt.bind fun r => ?_
  cases r with
  | ok _ => exact Keeps.pure _
  | error e => exact Keeps.pure _

/-! A publisher keeps what it does not touch. -/

theorem Telegram.keeps_publishOne (h : Untouched I .telegram) (pack : Dict) (text : String) :
    Keeps I (Telegram.publishOne rt scan replies pack text) := by
  have hask : Keeps I (ask replies) := fun s hI => h.asked s _ hI
  have hsend : Keeps I (Telegram.sendTelegramMessage rt replies text) :=
    hask.bind fun _ => (Keeps.lift _).bind fun _ => (Keeps.lift _).bind fun id =>
      (keeps_post fun s => h.posted s _ rfl).bind fun _ => Keeps.pure id
  exact hsend.bind fun id => (keeps_saveYaml h.config _).bind fun _ => (keeps_appendLog h.log _).bind fun _ =>
    Keeps.pure id

theorem Threads.keeps_publishContainer (h : Untouched I .threads) (container : Container) :
    Keeps I (Threads.publishContainer rt replies container) :=
  (keeps_requestId h.asked _ _).bind fun id => (keeps_post fun s => h.posted s _ rfl).bind fun _ => Keeps.pure id

theorem Threads.keeps_publishReplies (h : Untouched I .threads) (chunks : List String) (parentId : PyValue) :
    Keeps I (Threads.publishReplies rt replies chunks parentId) := by
  induction chunks generalizing parentId with
  | nil => exact Keeps.pure _
  | cons chunk chunks ih =>
    exact (keeps_createContainer h.asked _).bind fun container =>
      (Threads.keeps_publishContainer h container).bind fun id => (ih id).bind fun _ => Keeps.pure _

theorem Threads.keeps_publishOne (h : Untouched I .threads) (config : Dict) :
    Keeps I (Threads.publishOne rt scan replies config) :=
  Keeps.get.bind fun _ => (Keeps.lift _).bind fun payload => (keeps_createContainer h.asked payload.1).bind
    fun container => (Threads.keeps_publishContainer h container).bind fun id =>
      (Threads.keeps_publishReplies h payload.2 id).bind fun _ => (keeps_saveYaml h.config _).bind fun _ =>
        (keeps_appendLog h.log _).bind fun _ => Keeps.pure id

theorem Instagram.keeps_publishPack (h : Untouched I .instagram) (config : Dict) (draft : Instagram.Draft) :
    Keeps I (Instagram.publishPack rt scan replies config draft) := by
  have hpublish : ∀ container, Keeps I (Instagram.publishMediaContainer rt replies container) := fun container =>
    (keeps_requestId h.asked _ _).bind fun id => (keeps_post fun s => h.posted s _ rfl).bind fun _ => Keeps.pure id
  exact (keeps_createPost h.asked draft).bind fun container => (hpublish container).bind fun id =>
    (keeps_saveYaml h.config _).bind fun _ => (keeps_appendLog h.log _).bind fun _ => Keeps.pure id

theorem Tiktok.keeps_publishOne (h : Untouched I .tiktok) (config : Dict) :
    Keeps I (Tiktok.publishOne rt scan replies config) := by
  have hask : Keeps I (ask replies) := fun s hI => h.asked s _ hI
  exact Keeps.get.bind fun _ => (Keeps.lift _).bind fun _ => (Keeps.lift _).bind fun _ => hask.bind fun _ =>
    (Keeps.lift _).bind fun _ => (Keeps.lift _).bind fun id => (Keeps.lift _).bind fun _ =>
      (keeps_post fun s => h.posted s _ rfl).bind fun _ => (keeps_saveYaml h.config _).bind fun _ =>
        (keeps_appendLog h.log _).bind fun _ => Keeps.pure id

theorem keeps_scanPack (h : Untouched I channel) : Keeps I (channel.scanPack rt scan replies) := by
  intro s hI
  cases channel with
  | telegram =>
    show Ensures (Telegram.scanPack rt scan replies) _ s
    refine ensures_withPrepared hI fun ready _ => ?_
    obtain ⟨pack, text, reason⟩ := ready
    show Ensures (if text = "" then _ else _) _ s
    split
    · exact keeps_skipEmpty h.log reason s hI
    · exact ensures_publishing h.log _ _ _ (Telegram.keeps_publishOne h pack text s hI)
  | threads =>
    show Ensures (Threads.scanPack rt scan replies) _ s
    exact ensures_withPrepared hI fun ready _ =>
      ensures_publishing h.log _ _ _ (Threads.keeps_publishOne h ready.1 s hI)
  | instagram =>
    show Ensures (Instagram.scanPack rt scan replies) _ s
    exact ensures_withPrepared hI fun ready _ =>
      ensures_publishing h.log _ _ _ (Instagram.keeps_publishPack h ready.1 ready.2 s hI)
  | tiktok =>
    show Ensures (Tiktok.scanPack rt scan replies) _ s
    exact ensures_withPrepared hI fun ready _ =>
      ensures_publishing h.log _ _ _ (Tiktok.keeps_publishOne h ready.1 s hI)

end Keeps

/-! What a publisher does to its own channel: it posts where nothing is recorded, and records. -/

theorem Recorded.load {files : Files F} (h : Recorded rt channel files) :
    ∃ d, loadYaml rt files channel.configName = .ok d ∧ ((PyValue.dict d).at channel.publishedPath).isNone = false := by
  obtain ⟨file, d, hfile, hload, hpath⟩ := h
  refine ⟨d, ?_, hpath⟩
  have hself : (PyValue.dict d).orElse (.dict []) = .dict d := by
    cases d with
    | nil => rfl
    | cons entry d => rfl
  simp only [loadYaml, bind_eq_ok, orRaise_eq_ok]
  exact ⟨file, hfile, .dict d, hload, by rw [hself]; rfl⟩

/-- Write down that the post is out, and log it. -/
theorem ensures_record (hfiles : rt.WritesBack) {data : Dict} (event : Payload) (id : PyValue)
    (hroots : roots channel s.posts ≤ 1) (hpath : ((PyValue.dict data).at channel.publishedPath).isNone = false) :
    Ensures (saveYaml rt channel.configName data >>= fun _ => appendLog rt event >>= fun _ => pure id)
      (fun _ s' => Once rt channel s') s := by
  obtain ⟨file, hdump⟩ := hfiles.writes data
  obtain ⟨d, hload, hsame⟩ := hfiles.reads data file hdump
  have hrecorded : Recorded rt channel (Function.update s.files channel.configName (some file)) :=
    ⟨file, d, Function.update_self _ _ _, hload, (hsame _).trans hpath⟩
  have hsaved : Ensures (saveYaml rt channel.configName data) (fun _ s' => Once rt channel s') s := by
    rw [Ensures, outcome_saveYaml hdump]
    exact ⟨hroots, fun _ => hrecorded⟩
  exact hsaved.bind (fun _ s' hs' => ((keeps_appendLog once_log event).bind fun _ => Keeps.pure id) s' hs')
    fun _ _ hs' => hs'

theorem isNone_publishedConfig (scan : Scan) (config : Dict) (id : PyValue) :
    ((publishedConfig scan config id).get "published_at").isNone = false := by
  rw [publishedConfig, Dict.get_set_of_ne _ (by decide), Dict.get_set_of_ne _ (by decide), Dict.get_set_self]
  rfl

/-- A configuration that is due is not recorded as published. -/
theorem not_recorded_of_due {files : Files F} {now : ℤ} {config : Dict} (hpath : channel.publishedPath = ["published_at"])
    (h : Due rt files now channel.configName config) : ¬ Recorded rt channel files := by
  intro hrecorded
  obtain ⟨d, hload, hnone⟩ := hrecorded.load
  obtain ⟨pack, eligibility, -, hread, hallowed⟩ := h
  obtain ⟨hconfig, hshould⟩ := readConfig_eq_ok.1 hread
  obtain rfl : config = d := Except.ok.inj (hconfig.symm.trans hload)
  rw [hpath] at hnone
  have hget : (Dict.get config "published_at").isNone = false := hnone
  unfold shouldPublish at hshould
  split at hshould
  · cases hshould; cases hallowed
  split at hshould
  · cases hshould; cases hallowed
  · rw [if_pos (.inl hget)] at hshould
    cases hshould
    cases hallowed

theorem Telegram.not_recorded_of_due {files : Files F} {scan : Scan} {pack : Dict}
    (h : Telegram.Due rt files scan pack) : ¬ Recorded rt .telegram files := by
  intro hrecorded
  obtain ⟨d, hload, hnone⟩ := hrecorded.load
  obtain ⟨hpack, hallowed⟩ := h
  obtain rfl : pack = d := Except.ok.inj (hpack.symm.trans hload)
  unfold Telegram.shouldPublish at hallowed
  split at hallowed
  · cases hallowed
  split at hallowed
  · cases hallowed
  · next publish hpublish =>
    split at hallowed
    · cases hallowed
    · next telegram htelegram =>
      have hat : (PyValue.dict pack).at ["publish", "telegram", "published_at"] = Dict.get telegram "published_at" := by
        show (Dict.get pack "publish").at ["telegram", "published_at"] = _
        rw [PyValue.dict?_eq_some.1 hpublish]
        show (Dict.get publish "telegram").at ["published_at"] = _
        rw [PyValue.dict?_eq_some.1 htelegram]
        rfl
      have hget : (Dict.get telegram "published_at").isNone = false := hat ▸ hnone
      split at hallowed
      · cases hallowed
      split at hallowed
      · cases hallowed
      · cases hallowed

theorem Telegram.isNone_publishedPack (scan : Scan) (pack : Dict) (id : PyValue) :
    ((PyValue.dict (Telegram.publishedPack scan pack id)).at ["publish", "telegram", "published_at"]).isNone = false := by
  show ((Dict.get (Telegram.publishedPack scan pack id) "publish").at ["telegram", "published_at"]).isNone = false
  rw [Telegram.publishedPack, Dict.get_set_self]
  show ((Dict.get (Dict.set _ "telegram" _) "telegram").at ["published_at"]).isNone = false
  rw [Dict.get_set_self]
  show (Dict.get (Dict.set _ "external_id" _) "published_at").isNone = false
  rw [Dict.get_set_of_ne _ (by decide), Dict.get_set_self]
  rfl

/-- No root post is out. -/
def Unposted (channel : Channel) (s : PackState F) : Prop := roots channel s.posts = 0

/-- The root post is out, or it is not and an exception was raised. -/
def PostedOnce {α : Type} (channel : Channel) (r : Except PyError α) (s : PackState F) : Prop :=
  roots channel s.posts ≤ 1 ∧ ∀ e, r = .error e → Unposted channel s

section Own

variable {scan : Scan} {replies : ℕ → Reply}

theorem Unposted.once (h : Unposted channel s) : Once rt channel s := ⟨by rw [h]; omega, fun hne => absurd h hne⟩

theorem Unposted.postedOnce {α : Type} (h : Unposted channel s) (r : Except PyError α) : PostedOnce channel r s :=
  ⟨by rw [h]; omega, fun _ _ => h⟩

theorem keeps_ask : Keeps (Unposted channel) (ask replies : Work F Reply) := fun _ h => h

theorem ensures_post (h : Unposted channel s) (payload : Payload) (id : PyValue) :
    Ensures (Work.post ⟨channel, payload, id⟩ >>= fun _ => pure id) (fun r s' => PostedOnce channel r s') s := by
  refine ⟨?_, by rintro e ⟨⟩⟩
  show roots channel (s.posts ++ [_]) ≤ 1
  rw [roots_append, h]
  split <;> omega

theorem ensures_publishId (h : Unposted channel s) (api : Api) (noId : String) (payload : Payload) :
    Ensures (requestId replies api noId >>= fun id => Work.post ⟨channel, payload, id⟩ >>= fun _ => pure id)
      (fun r s' => PostedOnce channel r s') s :=
  (keeps_requestId (fun _ _ h => h) api noId).ensures_bind h (fun id _ hs' => ensures_post hs' payload id)
    fun _ _ hs' => hs'.postedOnce _

variable (hfiles : rt.WritesBack)
include hfiles

theorem Telegram.ensures_publishOne (h : Unposted .telegram s) (pack : Dict) (text : String) :
    Ensures (Telegram.publishOne rt scan replies pack text) (fun _ s' => Once rt .telegram s') s := by
  have hsend : Ensures (Telegram.sendTelegramMessage rt replies text) (fun r s' => PostedOnce .telegram r s') s := by
    refine keeps_ask.ensures_bind h (fun reply s' hs' => ?_) fun _ _ hs' => hs'.postedOnce _
    refine (Keeps.lift _).ensures_bind hs' (fun payload s' hs' => ?_) fun _ _ hs' => hs'.postedOnce _
    exact (Keeps.lift _).ensures_bind hs' (fun id s' hs' => ensures_post hs' _ id) fun _ _ hs' => hs'.postedOnce _
  refine hsend.bind (fun id s' hs' => ?_) fun e s' hs' => (hs'.2 e rfl).once
  exact ensures_record hfiles _ _ hs'.1 (Telegram.isNone_publishedPack scan pack id)

theorem Instagram.ensures_publishPack (h : Unposted .instagram s) (config : Dict) (draft : Instagram.Draft) :
    Ensures (Instagram.publishPack rt scan replies config draft) (fun _ s' => Once rt .instagram s') s := by
  have hcreate : Keeps (Unposted .instagram) (Instagram.createPost rt replies draft) :=
    keeps_createPost (fun _ _ h => h) draft
  refine hcreate.ensures_bind h (fun container s' hs' => ?_) fun _ _ hs' => hs'.once
  refine (ensures_publishId hs' _ _ container.payload).bind (fun id s' hs' => ?_) fun e s' hs' => (hs'.2 e rfl).once
  exact ensures_record hfiles _ _ hs'.1 (isNone_publishedConfig scan config id)

theorem Tiktok.ensures_publishOne (h : Unposted .tiktok s) (config : Dict) :
    Ensures (Tiktok.publishOne rt scan replies config) (fun _ s' => Once rt .tiktok s') s := by
  have hpost : ∀ payload id (s' : PackState F), Unposted .tiktok s' →
      Ensures (Work.post ⟨.tiktok, payload, id⟩) (fun r s' => r = .ok () ∧ roots .tiktok s'.posts ≤ 1) s' :=
    fun payload id s' hs' => ⟨rfl, (ensures_post hs' payload id).1⟩
  refine Keeps.get.ensures_bind h (fun _ s' hs' => ?_) fun _ _ hs' => hs'.once
  refine (Keeps.lift _).ensures_bind hs' (fun _ s' hs' => ?_) fun _ _ hs' => hs'.once
  refine (Keeps.lift _).ensures_bind hs' (fun _ s' hs' => ?_) fun _ _ hs' => hs'.once
  refine keeps_ask.ensures_bind hs' (fun _ s' hs' => ?_) fun _ _ hs' => hs'.once
  refine (Keeps.lift _).ensures_bind hs' (fun _ s' hs' => ?_) fun _ _ hs' => hs'.once
  refine (Keeps.lift _).ensures_bind hs' (fun id s' hs' => ?_) fun _ _ hs' => hs'.once
  refine (Keeps.lift _).ensures_bind hs' (fun _ s' hs' => ?_) fun _ _ hs' => hs'.once
  refine (hpost _ id s' hs').bind (fun _ s' hs' => ?_) fun _ _ hs' => by cases hs'.1
  exact ensures_record hfiles _ _ hs'.2 (isNone_publishedConfig scan config id)

omit hfiles in
theorem Threads.outcome_createContainer {id : PyValue} (h : (replies s.asked).givesId = some id) (payload : Payload) :
    outcome (Threads.createContainer rt replies payload) s = (.ok ⟨id, payload⟩, { s with asked := s.asked + 1 }) := by
  rw [Threads.createContainer, outcome_bind, outcome_requestId, (idOf_eq_ok fun _ => rfl).2 h]
  rfl

omit hfiles in
theorem Threads.createContainer_raises (h : (replies s.asked).givesId = none) (payload : Payload) :
    ∃ e, outcome (Threads.createContainer rt replies payload) s = (.error e, { s with asked := s.asked + 1 }) ∧
      e.isPublishError = true := by
  obtain ⟨e, he⟩ : ∃ e, (Threads.api rt "create").idOf "Threads API create response has no id" (replies s.asked) =
      .error e := exists_idOf_eq_error (fun _ => rfl) h
  refine ⟨e, ?_, Api.raisesOnly_idOf _ _ _ e he⟩
  rw [Threads.createContainer, outcome_bind, outcome_requestId, he]
  rfl

omit hfiles in
theorem Threads.publishContainer_raises (h : (replies s.asked).givesId = none) (container : Container) :
    ∃ e, outcome (Threads.publishContainer rt replies container) s = (.error e, { s with asked := s.asked + 1 }) ∧
      e.isPublishError = true := by
  obtain ⟨e, he⟩ : ∃ e, (Threads.api rt "publish").idOf "Threads API publish response has no id" (replies s.asked) =
      .error e := exists_idOf_eq_error (fun _ => rfl) h
  refine ⟨e, ?_, Api.raisesOnly_idOf _ _ _ e he⟩
  rw [Threads.publishContainer, outcome_bind, outcome_requestId, he]
  rfl

omit hfiles in
theorem Threads.outcome_publishContainer {id : PyValue} (h : (replies s.asked).givesId = some id) (container : Container) :
    outcome (Threads.publishContainer rt replies container) s =
      (.ok id, { s with asked := s.asked + 1, posts := s.posts ++ [⟨.threads, container.payload, id⟩] }) := by
  rw [Threads.publishContainer, outcome_bind, outcome_requestId, (idOf_eq_ok fun _ => rfl).2 h]
  rfl

omit hfiles in
/-- Replies that are all answered are all posted, and they are no root posts. -/
theorem Threads.ensures_publishReplies (chunks : List String) (parentId : PyValue) (s : PackState F)
    (h : ∀ i < 2 * chunks.length, (replies (s.asked + i)).givesId.isSome) :
    Ensures (Threads.publishReplies rt replies chunks parentId)
      (fun r s' => (∃ ids, r = .ok ids) ∧ roots .threads s'.posts = roots .threads s.posts) s := by
  induction chunks generalizing parentId s with
  | nil => exact ⟨⟨_, rfl⟩, rfl⟩
  | cons chunk chunks ih =>
    rw [List.length_cons] at h
    obtain ⟨creation, hcreation⟩ := Option.isSome_iff_exists.1 (h 0 (by omega))
    obtain ⟨post, hpost⟩ := Option.isSome_iff_exists.1 (h 1 (by omega))
    have hrest : ∀ i < 2 * chunks.length, (replies (s.asked + 1 + 1 + i)).givesId.isSome := by
      intro i hi
      have := h (i + 2) (by omega)
      rwa [show s.asked + 1 + 1 + i = s.asked + (i + 2) by omega]
    refine ensures_bind_of_ok (Threads.outcome_createContainer hcreation _) ?_
    refine ensures_bind_of_ok (Threads.outcome_publishContainer hpost _) ?_
    refine (ih post _ hrest).bind (fun ids s' hs' => ⟨⟨_, rfl⟩, ?_⟩) fun e s' hs' => by obtain ⟨⟨_, ⟨⟩⟩, -⟩ := hs'
    refine hs'.2.trans ?_
    rw [roots_append, if_neg (by simp [Post.isRoot]), Nat.add_zero]

/-- Between the root post and the note that it is out stand the replies. -/
theorem Threads.ensures_publishOne (h : Unposted .threads s) (config : Dict)
    (hreplies : ∀ payload extraChunks, Threads.rootPayload rt s.files config = .ok (payload, extraChunks) →
      (replies s.asked).givesId.isSome → (replies (s.asked + 1)).givesId.isSome →
        ∀ i < 2 * extraChunks.length, (replies (s.asked + 2 + i)).givesId.isSome) :
    Ensures (Threads.publishOne rt scan replies config) (fun _ s' => Once rt .threads s') s := by
  refine ensures_bind_of_ok outcome_get ?_
  cases hroot : Threads.rootPayload rt s.files config with
  | error e => exact ensures_bind_of_error (outcome_lift _) h.once
  | ok root =>
    obtain ⟨payload, extraChunks⟩ := root
    refine ensures_bind_of_ok (outcome_lift _) ?_
    cases hcreation : (replies s.asked).givesId with
    | none =>
      obtain ⟨e, he, -⟩ := Threads.createContainer_raises hcreation payload
      exact ensures_bind_of_error he h.once
    | some creation =>
      refine ensures_bind_of_ok (Threads.outcome_createContainer hcreation _) ?_
      cases hpost : (replies (s.asked + 1)).givesId with
      | none =>
        have hnone : (replies ({ s with asked := s.asked + 1 } : PackState F).asked).givesId = none := hpost
        obtain ⟨e, he, -⟩ := Threads.publishContainer_raises hnone ⟨creation, payload⟩
        exact ensures_bind_of_error he h.once
      | some post =>
        have hall := hreplies payload extraChunks hroot (by rw [hcreation]; rfl) (by rw [hpost]; rfl)
        refine ensures_bind_of_ok (Threads.outcome_publishContainer hpost _) ?_
        refine (Threads.ensures_publishReplies extraChunks post _ hall).bind (fun ids s' hs' => ?_) 
          fun e s' hs' => by obtain ⟨⟨_, ⟨⟩⟩, -⟩ := hs'
        have hroots : roots .threads s'.posts ≤ 1 := by
          rw [hs'.2]
          exact (ensures_post h payload post).1
        refine ensures_record hfiles _ _ hroots ?_
        split
        · exact isNone_publishedConfig scan config post
        · show ((Dict.set _ _ _).get _).isNone = false
          rw [Dict.get_set_of_ne _ (by decide)]
          exact isNone_publishedConfig scan config post

end Own

theorem Once.unposted (h : Once rt channel s) (hnot : ¬ Recorded rt channel s.files) : Unposted channel s := by
  by_contra hne
  exact hnot (h.2 hne)

variable (rt) in
/-- Where Threads publishes the pack and its root post is answered, so are its replies. -/
def Threads.RepliesHold (files : Files F) (scan : Scan) (replies : ℕ → Reply) : Prop :=
  ∀ config payload extraChunks, Due rt files scan.now "threads.yml" config →
    Threads.rootPayload rt files config = .ok (payload, extraChunks) →
      (replies 0).givesId.isSome → (replies 1).givesId.isSome →
        ∀ i < 2 * extraChunks.length, (replies (2 + i)).givesId.isSome

/-- What a scan of a pack does to what is recorded of it, on its own channel and the others. -/
theorem once_scanPack (hfiles : rt.WritesBack) {scan : Scan} {replies : ℕ → Reply} {channel : Channel} (other : Channel)
    (hasked : s.asked = 0) (hreplies : channel = .threads → Threads.RepliesHold rt s.files scan replies)
    (h : Once rt other s) : Ensures (channel.scanPack rt scan replies) (fun _ s' => Once rt other s') s := by
  by_cases hne : other = channel
  · subst hne
    cases hchannel : other with
    | telegram =>
      subst hchannel
      show Ensures (Telegram.scanPack rt scan replies) _ s
      refine ensures_withPrepared h fun ready hready => ?_
      obtain ⟨pack, text, reason⟩ := ready
      have hdue := (Telegram.prepare_eq_inr.1 hready).1
      show Ensures (if text = "" then _ else _) _ s
      split
      · exact keeps_skipEmpty once_log reason s h
      · exact ensures_publishing once_log _ _ _
          (Telegram.ensures_publishOne hfiles (h.unposted (Telegram.not_recorded_of_due hdue)) pack text)
    | threads =>
      subst hchannel
      show Ensures (Threads.scanPack rt scan replies) _ s
      refine ensures_withPrepared h fun ready hready => ?_
      obtain ⟨config, draft⟩ := ready
      have hdue := (prepare_eq_inr.1 hready).1
      have hunposted := h.unposted (not_recorded_of_due (show Channel.threads.publishedPath = _ from rfl) hdue)
      refine ensures_publishing once_log _ _ _ (Threads.ensures_publishOne hfiles hunposted config ?_)
      intro payload extraChunks hroot
      rw [hasked]
      exact hreplies rfl config payload extraChunks hdue hroot
    | instagram =>
      subst hchannel
      show Ensures (Instagram.scanPack rt scan replies) _ s
      refine ensures_withPrepared h fun ready hready => ?_
      obtain ⟨config, draft⟩ := ready
      have hdue := (prepare_eq_inr.1 hready).1
      exact ensures_publishing once_log _ _ _
        (Instagram.ensures_publishPack hfiles (h.unposted (not_recorded_of_due rfl hdue)) config draft)
    | tiktok =>
      subst hchannel
      show Ensures (Tiktok.scanPack rt scan replies) _ s
      refine ensures_withPrepared h fun ready hready => ?_
      obtain ⟨config, draft⟩ := ready
      have hdue := (prepare_eq_inr.1 hready).1
      exact ensures_publishing once_log _ _ _
        (Tiktok.ensures_publishOne hfiles (h.unposted (not_recorded_of_due rfl hdue)) config)
  · exact keeps_scanPack (once_untouched hne) s h

/-! Runs. -/

/-- A live scan of a channel, with what the network answers to each pack. -/
structure ScanEvent where
  channel : Channel
  scan : Scan
  replies : String → ℕ → Reply

variable (rt)

def ScanStep (directory : Directory F) (event : ScanEvent) (directory' : Directory F) : Prop :=
  directory' = (runScan rt event.channel event.scan event.replies directory).2

def RepliesHold (name : String) (directory : Directory F) (event : ScanEvent) : Prop :=
  event.channel = .threads → ∀ pack ∈ directory.packs, pack.name = name →
    Threads.RepliesHold rt pack.files event.scan (event.replies name)

/-- Every root post of the pack of this name is recorded. -/
def OnceNamed (name : String) (directory : Directory F) : Prop :=
  ∀ pack ∈ directory.packs, pack.name = name → ∀ channel, Once rt channel ⟨pack.files, 0, pack.posts⟩

variable {rt}

theorem onceNamed_step (hfiles : rt.WritesBack) {name : String} {directory directory' : Directory F} {event : ScanEvent}
    (hI : OnceNamed rt name directory) (hreplies : RepliesHold rt name directory event)
    (hstep : ScanStep rt directory event directory') : OnceNamed rt name directory' := by
  obtain rfl := hstep
  unfold runScan
  split
  · refine Sweep.sweep_keeps hI fun pack hpack h hname other => ?_
    rw [visitPack_name] at hname
    unfold visitPack
    split
    · exact h hname other
    · have hscan := once_scanPack (s := ⟨pack.files, 0, pack.posts⟩) hfiles other rfl
        (fun hchannel => hname ▸ hreplies hchannel pack hpack hname) (h hname other)
      exact hscan
  · exact hI

/-- Whatever is answered to however many scans, no channel gets a pack's root post twice, as
long as Threads is not stopped between a root post and its replies. -/
theorem root_posted_at_most_once (hfiles : rt.WritesBack) {name : String} {directory₀ directory : Directory F}
    {scans : List ScanEvent} (hstart : ∀ pack ∈ directory₀.packs, pack.posts = [])
    (hrun : Run (Restrict (RepliesHold rt name) (ScanStep rt)) directory₀ scans directory) :
    ∀ pack ∈ directory.packs, pack.name = name → ∀ channel, roots channel pack.posts ≤ 1 := by
  have h₀ : OnceNamed rt name directory₀ := by
    intro pack hpack _ channel
    refine Unposted.once ?_
    show roots channel pack.posts = 0
    rw [hstart pack hpack]
    rfl
  have h : OnceNamed rt name directory :=
    hrun.invariant_restrict (OnceNamed rt name) h₀ fun _ _ _ hI hreplies hstep => onceNamed_step hfiles hI hreplies hstep
  exact fun pack hpack hname channel => (h pack hpack hname channel).1

/-- Where the first reply fails, the root post is out and not recorded. -/
theorem Threads.ensures_publishOne_of_failed {scan : Scan} {replies : ℕ → Reply} {config : Dict} {payload : Payload}
    {chunk : String} {chunks : List String} {creation post : PyValue}
    (hroot : Threads.rootPayload rt s.files config = .ok (payload, chunk :: chunks))
    (h0 : (replies s.asked).givesId = some creation) (h1 : (replies (s.asked + 1)).givesId = some post)
    (h2 : (replies (s.asked + 1 + 1)).givesId = none) :
    Ensures (Threads.publishOne rt scan replies config)
      (fun r s' => (∃ e, r = .error e ∧ e.isPublishError = true) ∧ s'.files = s.files ∧
        s'.posts = s.posts ++ [⟨.threads, payload, post⟩]) s := by
  refine ensures_bind_of_ok outcome_get ?_
  refine ensures_bind_of_ok ((outcome_lift _).trans (by rw [hroot])) ?_
  refine ensures_bind_of_ok (Threads.outcome_createContainer h0 _) ?_
  refine ensures_bind_of_ok (Threads.outcome_publishContainer h1 _) ?_
  obtain ⟨e, he, hraised⟩ := Threads.createContainer_raises
    (s := { s with asked := s.asked + 1 + 1, posts := s.posts ++ [⟨.threads, payload, post⟩] }) h2
    [("media_type", .str "TEXT"), ("text", .str chunk), ("reply_to_id", post)]
  have hreplies : outcome (Threads.publishReplies rt replies (chunk :: chunks) post)
      { s with asked := s.asked + 1 + 1, posts := s.posts ++ [⟨.threads, payload, post⟩] } =
      (.error e, { s with asked := s.asked + 1 + 1 + 1, posts := s.posts ++ [⟨.threads, payload, post⟩] }) := by
    rw [Threads.publishReplies, outcome_bind, he]
    rfl
  exact ensures_bind_of_error hreplies ⟨⟨e, rfl, hraised⟩, rfl, rfl⟩

/-- Of such a pack a scan changes no file but the log. -/
theorem Threads.ensures_scanPack_of_failed {scan : Scan} {replies : ℕ → Reply} {config : Dict}
    {draft : String × String} {payload : Payload} {chunk : String} {chunks : List String} {creation post : PyValue}
    (hready : Threads.prepare rt s.files scan = .ok (.inr (config, draft)))
    (hroot : Threads.rootPayload rt s.files config = .ok (payload, chunk :: chunks))
    (h0 : (replies s.asked).givesId = some creation) (h1 : (replies (s.asked + 1)).givesId = some post)
    (h2 : (replies (s.asked + 1 + 1)).givesId = none) :
    Ensures (Threads.scanPack rt scan replies)
      (fun _ s' => (∀ name, name ≠ logName → s'.files name = s.files name) ∧
        s'.posts = s.posts ++ [⟨.threads, payload, post⟩]) s := by
  refine ensures_bind_of_ok outcome_get ?_
  refine ensures_bind_of_ok ((outcome_lift _).trans (congrArg (·, s) hready)) ?_
  refine ensures_publishing (fun s' file hs' => ⟨fun name hname => ?_, hs'.2⟩) _ _ _
    ((Threads.ensures_publishOne_of_failed hroot h0 h1 h2).mono fun _ s' hs' => ⟨fun name _ => by rw [hs'.2.1], hs'.2.2⟩)
  exact (Function.update_of_ne hname _ _).trans (hs'.1 name hname)

end

namespace Demo

/-- A file with a value in YAML, with a text, or with bytes that are no text. -/
inductive File
  | yaml (v : PyValue)
  | text (s : String)
  | bytes

def midnight (text : String) : Option DateTime := if text = "1970-01-01T00:00:00+00:00" then some ⟨0, true⟩ else none

def runtime : Runtime File where
  safeLoad
    | .yaml v => .ok v
    | .text _ => .error ⟨.yamlError, "while scanning"⟩
    | .bytes => .error ⟨.unicodeError, "invalid start byte"⟩
  safeDump v := .ok (.yaml v)
  readText
    | .yaml _ => .ok ""
    | .text s => .ok s
    | .bytes => .error ⟨.unicodeError, "invalid start byte"⟩
  repr _ := ""
  isoparse := midnight
  fromisoformat := midnight
  resolve source := .ok (some source)

theorem runtime_writesBack : runtime.WritesBack where
  writes d := ⟨.yaml (.dict d), rfl⟩
  reads d file h := by
    obtain rfl := Except.ok.inj h
    exact ⟨d, rfl, fun _ => rfl⟩

def config : Dict := mapping [("status", .str "approved"), ("publish_at", .str "1970-01-01T00:00:00+00:00"),
  ("caption_source", .str "threads.md")]

/-- A pack for Threads with a text of its own. -/
def files (text : String) : Files File
  | "pack.yml" => some (.yaml (.dict (mapping [("status", .str "approved")])))
  | "threads.yml" => some (.yaml (.dict config))
  | "threads.md" => some (.text text)
  | _ => none

def directory (text : String) : Directory File := ⟨[⟨"a", files text, []⟩], by simp⟩

def scan : Scan where
  now := 0
  nowIso := "1970-01-01T00:00:00+00:00"
  environment _ := some "set"
  packFilter := none
  allowExperimentalLive := false

def answered : Reply := .response 200 (.value (.dict (mapping [("id", .str "1")])))

/-- The first two requests are answered, the third one fails. -/
def twoAnswers : String → ℕ → Reply := fun _ i => if i < 2 then answered else .requestException "Timeout"

/-- A scan of Threads with every request answered. -/
def answeredScan : ScanEvent := ⟨.threads, scan, fun _ _ => answered⟩

def longText : String := String.ofList (List.replicate 501 'a')

theorem strip_replicate (n : ℕ) : strip (String.ofList (List.replicate n 'a')) = String.ofList (List.replicate n 'a') := by
  have hspace : isSpace 'a' = false := by decide
  rw [strip, String.toList_ofList, List.dropWhile_replicate, hspace, if_neg Bool.false_ne_true, List.rdropWhile,
    List.reverse_replicate, List.dropWhile_replicate, hspace, if_neg Bool.false_ne_true, List.reverse_replicate]

theorem ofList_ne_empty {cs : List Char} (h : cs ≠ []) : String.ofList cs ≠ "" := by
  intro heq
  exact h ((String.toList_ofList).symm.trans (congrArg String.toList heq))

set_option maxRecDepth 20000 in
theorem splitLoop_long : splitLoop threadsTextMaxLen 501 (List.replicate 501 'a') = [List.replicate 500 'a', ['a']] := by
  decide

theorem splitTextChunks_replicate (n : ℕ) : splitTextChunks threadsTextMaxLen (String.ofList (List.replicate (n + 1) 'a')) =
    .ok ((splitLoop threadsTextMaxLen (n + 1) (List.replicate (n + 1) 'a')).map String.ofList) := by
  have hne : String.ofList (List.replicate (n + 1) 'a') ≠ "" := ofList_ne_empty (List.cons_ne_nil _ _)
  simp only [splitTextChunks, strip_replicate, bind_eq_ok, raiseIf_eq_ok, pure_eq_ok, String.length_ofList,
    String.toList_ofList, List.length_replicate]
  exact ⟨⟨⟩, hne, trivial⟩

theorem splitTextChunks_longText : splitTextChunks threadsTextMaxLen longText =
    .ok [String.ofList (List.replicate 500 'a'), String.ofList ['a']] :=
  (splitTextChunks_replicate 500).trans
    (congrArg (fun chunks => (.ok (chunks.map String.ofList) : Except PyError (List String))) splitLoop_long)

/-- A text of two chunks. -/
structure Splits (text : String) : Prop where
  stripped : strip text = text
  filled : text ≠ ""
  split : ∃ chunk last, splitTextChunks threadsTextMaxLen text = .ok [chunk, last]

theorem splits_longText : Splits longText where
  stripped := strip_replicate 501
  filled := ofList_ne_empty (List.cons_ne_nil _ _)
  split := ⟨_, _, splitTextChunks_longText⟩

section

variable {text : String} (ht : Splits text) {g : Files File} (hg : ∀ name, name ≠ logName → g name = files text name)
include ht hg

theorem readCaption_eq : readCaption runtime g config = .ok text := by
  have hfile : g "threads.md" = some (.text text) := hg _ (by decide)
  have hsource : (Dict.get config "caption_source").str?.filter (fun source => !isBlank source) = some "threads.md" := by
    decide
  simp only [readCaption, bind_eq_ok, orRaise_eq_ok, raiseIf_eq_ok, pure_eq_ok]
  exact ⟨_, hsource, _, rfl, "threads.md", rfl, _, hfile, text, rfl, ⟨⟩, by rw [ht.stripped]; exact ht.filled, ht.stripped⟩

theorem validateThreads_eq : Threads.validateThreads runtime g config = .ok ("text", text) := by
  have htype : (strip (runtime.str ((Dict.get config "type").orElse (.str "text")))).toLower = "text" := by
    decide +kernel
  simp only [Threads.validateThreads, htype, readCaption_eq ht hg, bind_eq_ok, raiseIf_eq_ok]
  exact ⟨⟨⟩, by decide, text, rfl, rfl⟩

theorem prepare_eq : Threads.prepare runtime g scan = .ok (.inr (config, ("text", text))) := by
  have hpack : loadYaml runtime g "pack.yml" = .ok (mapping [("status", .str "approved")]) := by
    rw [loadYaml, hg _ (by decide)]
    rfl
  have hconfig : loadYaml runtime g "threads.yml" = .ok config := by
    rw [loadYaml, hg _ (by decide)]
    rfl
  have hshould : ∃ eligibility, shouldPublish runtime (mapping [("status", .str "approved")]) config scan.now =
      .ok eligibility ∧ eligibility.allowed = true := by
    have hzone : midnight (replaceZ "1970-01-01T00:00:00+00:00") = some ⟨0, true⟩ := by decide
    have hparse : parsePublishAt runtime (Dict.get config "publish_at") = .ok ⟨0, true⟩ := by
      simp only [parsePublishAt, bind_eq_ok, raiseIf_eq_ok, orRaise_eq_ok, pure_eq_ok]
      exact ⟨⟨⟩, by decide, _, hzone, ⟨⟩, by decide, rfl⟩
    refine ⟨⟨true, "ready", some ⟨0, true⟩⟩, ?_, rfl⟩
    rw [shouldPublish, if_neg (by decide), if_neg (by decide), if_neg (by decide), hparse]
    rfl
  obtain ⟨eligibility, hshould, hallowed⟩ := hshould
  exact prepare_eq_inr.2 ⟨⟨_, _, hpack, readConfig_eq_ok.2 ⟨hconfig, hshould⟩, hallowed⟩, validateThreads_eq ht hg, rfl⟩

theorem rootPayload_eq : ∃ payload last, Threads.rootPayload runtime g config = .ok (payload, [last]) ∧
    payload.all (fun field => field.1 ≠ "reply_to_id") = true := by
  obtain ⟨chunk, last, hsplit⟩ := ht.split
  refine ⟨[("media_type", .str "TEXT"), ("text", .str chunk)], last, ?_, by simp⟩
  have htype : ¬ "text" = "image" := by decide
  refine bind_eq_ok.2 ⟨_, validateThreads_eq ht hg, ?_⟩
  simp only [htype, if_false, bind_eq_ok, orRaise_eq_ok, pure_eq_ok]
  exact ⟨text, rfl, _, hsplit, chunk, rfl, rfl⟩

end

/-- A pack that Threads has posted `n` times, and nothing but its log is changed. -/
structure Standing (text : String) (pack : Pack File) (n : ℕ) : Prop where
  name : pack.name = "a"
  files : ∀ name, name ≠ logName → pack.files name = files text name
  posted : roots .threads pack.posts = n

/-- Every scan posts once more. -/
theorem Standing.visit {text : String} (ht : Splits text) {pack : Pack File} {n : ℕ} (h : Standing text pack n) :
    Standing text (visitPack runtime .threads scan twoAnswers pack).2 (n + 1) := by
  obtain ⟨payload, last, hroot, hisRoot⟩ := rootPayload_eq ht h.files
  have hsome : pack.files "threads.yml" = some (.yaml (.dict config)) := h.files _ (by decide)
  have hvisit : (visitPack runtime .threads scan twoAnswers pack).2 =
      ⟨pack.name, (outcome (Threads.scanPack runtime scan (twoAnswers pack.name)) ⟨pack.files, 0, pack.posts⟩).2.files,
        (outcome (Threads.scanPack runtime scan (twoAnswers pack.name)) ⟨pack.files, 0, pack.posts⟩).2.posts⟩ := by
    unfold visitPack
    rw [if_neg]
    · rfl
    · rintro (hnone | hfiltered)
      · rw [show Channel.threads.configName = "threads.yml" from rfl, hsome] at hnone
        cases hnone
      · cases hfiltered
  have hanswered : answered.givesId = some (.str "1") := rfl
  obtain ⟨hfiles, hposts⟩ := Threads.ensures_scanPack_of_failed (s := ⟨pack.files, 0, pack.posts⟩) (prepare_eq ht h.files)
    hroot (show (twoAnswers pack.name 0).givesId = _ from hanswered) (show (twoAnswers pack.name 1).givesId = _ from hanswered)
    rfl
  have hroots : roots .threads (outcome (Threads.scanPack runtime scan (twoAnswers pack.name))
      ⟨pack.files, 0, pack.posts⟩).2.posts = n + 1 := by
    rw [hposts, roots_append, h.posted, if_pos ⟨rfl, hisRoot⟩]
  rw [hvisit]
  exact ⟨h.name, fun name hname => (hfiles name hname).trans (h.files name hname), hroots⟩

/-- A second scan posts again what the first one posted. -/
theorem posted_twice {text : String} (ht : Splits text) : ∃ d, Run (ScanStep runtime) (directory text)
    [⟨.threads, scan, twoAnswers⟩, ⟨.threads, scan, twoAnswers⟩] d ∧ ∃ pack ∈ d.packs, roots .threads pack.posts = 2 := by
  have hstart : Standing text ⟨"a", files text, []⟩ 0 := ⟨rfl, fun _ _ => rfl, rfl⟩
  have hone : ∀ (d : Directory File) (pack : Pack File), d.packs = [pack] →
      (runScan runtime .threads scan twoAnswers d).2.packs = [(visitPack runtime .threads scan twoAnswers pack).2] := by
    intro d pack hd
    rw [runScan, if_pos (by decide)]
    show (Sweep.sweep _ d.packs).2 = _
    rw [hd, Sweep.sweep_singleton]
  refine ⟨_, .snoc (.snoc .nil rfl) rfl, _, ?_, ((hstart.visit ht).visit ht).posted⟩
  rw [hone _ _ (hone _ _ rfl)]
  exact List.mem_singleton_self _

end Demo

theorem root_posted_at_most_once_answered : ∃ d, Run (ScanStep Demo.runtime) (Demo.directory Demo.longText)
    [Demo.answeredScan, Demo.answeredScan] d ∧ ∀ pack ∈ d.packs, pack.name = "a" → ∀ channel, roots channel pack.posts ≤ 1 := by
  have hhold : ∀ d, RepliesHold Demo.runtime "a" d Demo.answeredScan :=
    fun _ _ _ _ _ _ _ _ _ _ _ _ _ _ => rfl
  exact ⟨_, .snoc (.snoc .nil rfl) rfl, root_posted_at_most_once Demo.runtime_writesBack (by simp [Demo.directory])
    (.snoc (.snoc .nil ⟨hhold _, rfl⟩) ⟨hhold _, rfl⟩)⟩

theorem root_posted_twice : ∃ directory, Run (ScanStep Demo.runtime) (Demo.directory Demo.longText)
    [⟨.threads, Demo.scan, Demo.twoAnswers⟩, ⟨.threads, Demo.scan, Demo.twoAnswers⟩] directory ∧
      ∃ pack ∈ directory.packs, roots .threads pack.posts = 2 :=
  Demo.posted_twice Demo.splits_longText

end CoreOps.Publishers
