import CoreOps.Publishers.AtMostOnce

/-! What one pack does to the others of its directory. A scan goes on to the next pack unless
an exception escapes the handlers of this one. -/

namespace CoreOps.Publishers

open Checked Text Effects

section

variable {F : Type} {rt : Runtime F} {files : Files F} {s : PackState F} {logCaught : PyError → Bool}

/-- What is published can be announced, and what is raised is caught and can be logged. -/
def Contains (rt : Runtime F) (logCaught : PyError → Bool) (r : Except PyError PyValue) (s : PackState F) : Prop :=
  (∀ id, r = .ok id → id.isLone = false) ∧
    ∀ e, r = .error e → e.isPublishError = true ∧ RaisesOnly logCaught (loadLog rt s.files)

/-- The log of the pack bears that a post is out which is answered by `answer`, or that it is not. -/
def LogContained (rt : Runtime F) (logCaught : PyError → Bool) (files : Files F) (answer : Option PyValue) : Prop :=
  RaisesOnly logCaught (loadLog rt files) ∧
    ∀ id, answer = some id → RaisesOnly PyError.isPublishError (loadLog rt files) ∧
      ∀ log, loadLog rt files = .ok log → id.isLone = false

theorem loadLog_congr {files' : Files F} (h : files' logName = files logName) : loadLog rt files' = loadLog rt files := by
  unfold loadLog loadYaml
  rw [h]

theorem exists_announce_eq_ok {id : PyValue} : (∃ o, announce id = .ok o) ↔ id.isLone = false := by
  unfold announce
  cases id.isLone <;> simp

section Writes

variable (hwrites : ∀ d : Dict, ∃ file, rt.safeDump (.dict d) = .ok file)
include hwrites

theorem outcome_appendLog_fst (event : Payload) (s : PackState F) :
    (outcome (appendLog rt event) s).1 = (loadLog rt s.files).map fun _ => () := by
  rw [outcome_appendLog]
  cases loadLog rt s.files with
  | error e => rfl
  | ok log =>
    obtain ⟨file, hfile⟩ := hwrites (log.1.set "events" (.list (log.2 ++ [.dict (mapping event)])))
    show (outcome (saveYaml rt logName _) s).1 = _
    rw [outcome_saveYaml hfile]
    rfl

theorem raisesOnly_appendLog (event : Payload) (s : PackState F) :
    RaisesOnly logCaught (outcome (appendLog rt event) s).1 ↔ RaisesOnly logCaught (loadLog rt s.files) := by
  rw [outcome_appendLog_fst hwrites]
  cases loadLog rt s.files with
  | ok log => exact iff_of_true (raisesOnly_ok _ _) (raisesOnly_ok _ _)
  | error e => exact raisesOnly_error.trans raisesOnly_error.symm

theorem publishing_isOk (channel : Channel) (sanitize : String → String) (scan : Scan) (publish : Work F PyValue) :
    (∃ o, (outcome (publishing rt channel sanitize logCaught scan publish) s).1 = .ok o) ↔
      Ensures publish (Contains rt logCaught) s := by
  unfold publishing Ensures Contains
  rw [outcome_bind, outcome_attempt]
  generalize outcome publish s = r
  obtain ⟨r, s'⟩ := r
  cases r with
  | ok id =>
    show (∃ o, (outcome (lift (announce id)) s').1 = .ok o) ↔ _
    rw [outcome_lift, exists_announce_eq_ok]
    simp
  | error e =>
    cases he : e.isPublishError with
    | false =>
      rw [caught_error_of_not he]
      simp [he]
    | true =>
      rw [caught_error_of he, andThen_ok]
      show (∃ o, (outcome (attempt logCaught (appendLog rt _) >>= fun _ => pure _) s').1 = .ok o) ↔ _
      rw [exists_attempt_bind_pure, raisesOnly_appendLog hwrites]
      simp [he]

/-- The post is written down and logged. -/
theorem record_contains {name : String} (hname : name ≠ logName) (data : Dict) (event : Payload) (id : PyValue) :
    Ensures (saveYaml rt name data >>= fun _ => appendLog rt event >>= fun _ => pure id) (Contains rt logCaught) s ↔
      (RaisesOnly PyError.isPublishError (loadLog rt s.files) ∧ RaisesOnly logCaught (loadLog rt s.files)) ∧
        ∀ log, loadLog rt s.files = .ok log → id.isLone = false := by
  obtain ⟨file, hfile⟩ := hwrites data
  rw [ensures_bind_iff (outcome_saveYaml hfile s)]
  have hlog : loadLog rt (Function.update s.files name (some file)) = loadLog rt s.files :=
    loadLog_congr (Function.update_of_ne hname.symm _ _)
  cases hload : loadLog rt s.files with
  | error e =>
    have happend : outcome (appendLog rt event) { s with files := Function.update s.files name (some file) } =
        (.error e, { s with files := Function.update s.files name (some file) }) := by
      rw [outcome_appendLog, hlog, hload]
      rfl
    rw [ensures_bind_iff_of_error happend, Contains, hlog, hload]
    simp
  | ok log =>
    have hfst := outcome_appendLog_fst hwrites event { s with files := Function.update s.files name (some file) }
    rw [hlog, hload] at hfst
    obtain ⟨r, s', happend⟩ : ∃ r s', outcome (appendLog rt event)
        { s with files := Function.update s.files name (some file) } = (r, s') := ⟨_, _, rfl⟩
    rw [happend] at hfst
    obtain rfl : r = .ok () := hfst
    rw [ensures_bind_iff happend]
    simp [Ensures, Contains]

end Writes

/-! Programs of requests: they answer when all their requests are answered, and else they
raise what the publishers are prepared for. -/

section Requests

variable {α β : Type} {replies : ℕ → Reply} {n m : ℕ} {x : Work F α} {f : α → Work F β}

/-- The replies from the `start`th on, `n` of them, all give ids. -/
def Answered (replies : ℕ → Reply) (start n : ℕ) : Prop := ∀ i < n, (replies (start + i)).givesId.isSome

instance (replies : ℕ → Reply) (start n : ℕ) : Decidable (Answered replies start n) :=
  inferInstanceAs (Decidable (∀ i < n, (replies (start + i)).givesId.isSome))

theorem answered_zero (replies : ℕ → Reply) (start : ℕ) : Answered replies start 0 := fun i hi => absurd hi (Nat.not_lt_zero i)

theorem answered_succ {start : ℕ} : Answered replies start (n + 1) ↔
    Answered replies start n ∧ (replies (start + n)).givesId.isSome := by
  simp only [Answered, Nat.forall_lt_succ_right]

theorem answered_add : Answered replies s.asked (n + m) ↔
    Answered replies s.asked n ∧ Answered replies (s.asked + n) m := by
  constructor
  · intro h
    refine ⟨fun i hi => h i (by omega), fun i hi => ?_⟩
    rw [Nat.add_assoc]
    exact h (n + i) (by omega)
  · rintro ⟨hn, hm⟩ i hi
    by_cases hlt : i < n
    · exact hn i hlt
    · have := hm (i - n) (by omega)
      rwa [show s.asked + n + (i - n) = s.asked + i by omega] at this

/-- `x` makes `n` requests and touches no file. -/
def Requests (replies : ℕ → Reply) (n : ℕ) (x : Work F α) : Prop := ∀ s, Ensures x (fun r s' => s'.files = s.files ∧
  if Answered replies s.asked n then (∃ a, r = .ok a) ∧ s'.asked = s.asked + n
  else ∃ e, r = .error e ∧ e.isPublishError = true) s

theorem Requests.pure (a : α) : Requests replies 0 (pure a : Work F α) := by
  intro s
  refine ⟨rfl, ?_⟩
  rw [if_pos (answered_zero _ _)]
  exact ⟨⟨a, rfl⟩, rfl⟩

theorem Requests.bind (hx : Requests replies n x) (hf : ∀ a, Requests replies m (f a)) :
    Requests replies (n + m) (x >>= f) := by
  intro s
  refine (hx s).bind (fun a s' hs' => ?_) fun e s' hs' => ⟨hs'.1, ?_⟩
  · obtain ⟨hfiles, h⟩ := hs'
    split at h
    · next hn =>
      obtain ⟨-, hasked⟩ := h
      refine (hf a s').mono fun r s'' hs'' => ⟨hs''.1.trans hfiles, ?_⟩
      have hiff : Answered replies s.asked (n + m) ↔ Answered replies s'.asked m := by
        rw [answered_add, hasked, and_iff_right hn]
      have h'' := hs''.2
      rw [hasked, Nat.add_assoc] at h''
      rw [hasked] at hiff
      simpa only [hiff] using h''
    · obtain ⟨_, ⟨⟩, -⟩ := h
  · have h := hs'.2
    split at h
    · obtain ⟨⟨_, ⟨⟩⟩, -⟩ := h
    · next hn =>
      obtain ⟨_, ⟨⟩, he⟩ := h
      rw [if_neg fun hall => hn (answered_add.1 hall).1]
      exact ⟨e, rfl, he⟩

theorem requests_requestId {api : Api} (hrefused : ∀ payload, api.refused payload = (Dict.get payload "error").truthy)
    (noId : String) : Requests replies 1 (requestId replies api noId : Work F PyValue) := by
  intro s
  have hone : Answered replies s.asked 1 ↔ (replies s.asked).givesId.isSome := by
    simp [Answered]
  rw [Ensures, outcome_requestId]
  refine ⟨rfl, ?_⟩
  cases hid : (replies s.asked).givesId with
  | none =>
    obtain ⟨e, he⟩ : ∃ e, api.idOf noId (replies s.asked) = .error e := exists_idOf_eq_error hrefused hid
    rw [if_neg (by simp [hone, hid]), he]
    exact ⟨e, rfl, Api.raisesOnly_idOf _ _ _ e he⟩
  | some id =>
    rw [if_pos (by simp [hone, hid]), (idOf_eq_ok hrefused).2 hid]
    exact ⟨⟨id, rfl⟩, rfl⟩

theorem requests_post (post : Post) : Requests replies 0 (Work.post post : Work F Unit) := by
  intro s
  refine ⟨rfl, ?_⟩
  rw [if_pos (answered_zero _ _)]
  exact ⟨⟨(), rfl⟩, rfl⟩

variable (rt)

theorem Threads.requests_createContainer (payload : Payload) :
    Requests replies 1 (Threads.createContainer rt replies payload) :=
  (requests_requestId (fun _ => rfl) _).bind fun _ => Requests.pure _

theorem Threads.requests_publishContainer (container : Container) :
    Requests replies 1 (Threads.publishContainer rt replies container) :=
  (requests_requestId (fun _ => rfl) _).bind fun id => (requests_post _).bind fun _ => Requests.pure id

theorem Threads.requests_publishReplies (chunks : List String) (parentId : PyValue) :
    Requests replies (2 * chunks.length) (Threads.publishReplies rt replies chunks parentId) := by
  induction chunks generalizing parentId with
  | nil => exact Requests.pure _
  | cons chunk chunks ih =>
    rw [List.length_cons, show 2 * (chunks.length + 1) = 1 + (1 + (2 * chunks.length + 0)) by omega]
    exact (Threads.requests_createContainer rt _).bind fun container =>
      (Threads.requests_publishContainer rt container).bind fun id => (ih id).bind fun _ => Requests.pure _

theorem Instagram.requests_createMediaContainer (payload : Payload) :
    Requests replies 1 (Instagram.createMediaContainer rt replies payload) :=
  (requests_requestId (fun _ => rfl) _).bind fun _ => Requests.pure _

theorem Instagram.requests_createChildren (items : List (String × String)) :
    Requests replies items.length (Instagram.createChildren rt replies items) := by
  induction items with
  | nil => exact Requests.pure _
  | cons item items ih =>
    rw [List.length_cons, show items.length + 1 = 1 + (items.length + 0) by omega]
    exact (Instagram.requests_createMediaContainer rt _).bind fun _ => ih.bind fun _ => Requests.pure _

end Requests

/-! What each publisher makes of what it is answered. -/

section Answers

variable {scan : Scan} {replies : ℕ → Reply}

/-- The post that a publisher of `n` requests announces, the `root`th of them giving its id. -/
def announced (replies : ℕ → Reply) (n root : ℕ) : Option PyValue :=
  if Answered replies 0 n then (replies root).givesId else none

theorem contains_of_failed {e : PyError} (he : e.isPublishError = true) :
    Contains rt logCaught (.error e) s ↔ LogContained rt logCaught s.files none := by
  simp [Contains, LogContained, he]

/-- The number of containers of a carousel's items. -/
def Instagram.Draft.children (draft : Instagram.Draft) : ℕ :=
  if draft.postType = "carousel" then draft.items.length else 0

theorem Instagram.requests_createPost {draft : Instagram.Draft} (hitems : draft.items ≠ []) :
    Requests replies (draft.children + 1) (Instagram.createPost rt replies draft) := by
  unfold Instagram.createPost Instagram.Draft.children
  split
  · exact (Instagram.requests_createChildren rt _).bind fun _ => Instagram.requests_createMediaContainer rt _
  · obtain ⟨item, items, heq⟩ := List.exists_cons_of_ne_nil hitems
    rw [heq]
    exact (show Requests replies 0 (lift (.ok item) : Work F (String × String)) from Requests.pure item).bind fun _ =>
      Instagram.requests_createMediaContainer rt _

variable (hwrites : ∀ d : Dict, ∃ file, rt.safeDump (.dict d) = .ok file)
include hwrites

theorem record_logContained {name : String} (hname : name ≠ logName) (data : Dict) (event : Payload) (id : PyValue) :
    Ensures (saveYaml rt name data >>= fun _ => appendLog rt event >>= fun _ => pure id) (Contains rt logCaught) s ↔
      LogContained rt logCaught s.files (some id) := by
  rw [record_contains hwrites hname, LogContained]
  constructor
  · rintro ⟨⟨hpublish, hcaught⟩, hlone⟩
    refine ⟨hcaught, ?_⟩
    rintro _ ⟨⟩
    exact ⟨hpublish, hlone⟩
  · rintro ⟨hcaught, h⟩
    obtain ⟨hpublish, hlone⟩ := h id rfl
    exact ⟨⟨hpublish, hcaught⟩, hlone⟩

theorem Instagram.contains_publishPack {draft : Instagram.Draft} (hitems : draft.items ≠ []) (config : Dict)
    (hasked : s.asked = 0) :
    Ensures (Instagram.publishPack rt scan replies config draft) (Contains rt logCaught) s ↔
      LogContained rt logCaught s.files (announced replies (draft.children + 2) (draft.children + 1)) := by
  have hrequests : Requests replies (draft.children + 1) (Instagram.createPost rt replies draft) :=
    Instagram.requests_createPost hitems
  have hcreate := hrequests s
  generalize hn : draft.children = n at hcreate ⊢
  rw [hasked] at hcreate
  obtain ⟨r, s', hout⟩ : ∃ r s', outcome (Instagram.createPost rt replies draft) s = (r, s') := ⟨_, _, rfl⟩
  rw [Ensures, hout] at hcreate
  obtain ⟨hfiles, h⟩ := hcreate
  have hsplit : Answered replies 0 (n + 2) ↔ Answered replies 0 (n + 1) ∧ (replies (n + 1)).givesId.isSome := by
    rw [answered_succ, Nat.zero_add]
  split at h
  · next hn =>
    obtain ⟨⟨container, hcontainer⟩, hasked'⟩ := h
    obtain rfl : r = .ok container := hcontainer
    have hasked' : s'.asked = n + 1 := hasked'.trans (Nat.zero_add _)
    unfold Instagram.publishPack
    rw [ensures_bind_iff hout]
    cases hid : (replies (n + 1)).givesId with
    | none =>
      obtain ⟨e, he⟩ : ∃ e, (Instagram.api rt "media publish").idOf
          "Instagram API response has no media id during media publish" (replies s'.asked) = .error e :=
        exists_idOf_eq_error (fun _ => rfl) (hasked' ▸ hid)
      have hraises : outcome (Instagram.publishMediaContainer rt replies container) s' =
          (.error e, { s' with asked := s'.asked + 1 }) := by
        rw [Instagram.publishMediaContainer, outcome_bind, outcome_requestId, he]
        rfl
      rw [ensures_bind_iff_of_error hraises, contains_of_failed (Api.raisesOnly_idOf _ _ _ e he), announced,
        if_neg fun hall => by simp [hid] at hsplit; exact hsplit hall]
      rw [show ({ s' with asked := s'.asked + 1 } : PackState F).files = s.files from hfiles]
    | some id =>
      have hposts : outcome (Instagram.publishMediaContainer rt replies container) s' =
          (.ok id, { s' with asked := s'.asked + 1, posts := s'.posts ++ [⟨.instagram, container.payload, id⟩] }) := by
        rw [Instagram.publishMediaContainer, outcome_bind, outcome_requestId, (idOf_eq_ok fun _ => rfl).2 (hasked' ▸ hid)]
        rfl
      rw [ensures_bind_iff hposts, record_logContained hwrites (by decide), announced,
        if_pos (hsplit.2 ⟨hn, by rw [hid]; rfl⟩), hid]
      rw [show ({ s' with asked := s'.asked + 1, posts := s'.posts ++ [⟨.instagram, container.payload, id⟩] } :
        PackState F).files = s.files from hfiles]
  · next hn =>
    obtain ⟨e, he, hpublish⟩ := h
    obtain rfl : r = .error e := he
    unfold Instagram.publishPack
    rw [ensures_bind_iff_of_error hout, contains_of_failed hpublish, hfiles, announced,
      if_neg fun hall => hn (hsplit.1 hall).1]

theorem Threads.contains_publishOne {config : Dict} {payload : Payload} {extraChunks : List String}
    (hroot : Threads.rootPayload rt s.files config = .ok (payload, extraChunks)) (hasked : s.asked = 0) :
    Ensures (Threads.publishOne rt scan replies config) (Contains rt logCaught) s ↔
      LogContained rt logCaught s.files (announced replies (2 + 2 * extraChunks.length) 1) := by
  have hsplit : Answered replies 0 (2 + 2 * extraChunks.length) ↔ (replies 0).givesId.isSome ∧
      (replies 1).givesId.isSome ∧ Answered replies 2 (2 * extraChunks.length) := by
    have hadd : Answered replies 0 (2 + 2 * extraChunks.length) ↔ _ := answered_add (s := { s with asked := 0 })
    have htwo : Answered replies 0 2 ↔ (replies 0).givesId.isSome ∧ (replies 1).givesId.isSome := by
      rw [answered_succ, answered_succ, and_iff_right (answered_zero _ _)]
    rw [hadd, htwo, and_assoc]
  unfold Threads.publishOne
  rw [ensures_bind_iff outcome_get, ensures_bind_iff ((outcome_lift _).trans (congrArg (·, s) hroot))]
  cases h0 : (replies 0).givesId with
  | none =>
    obtain ⟨e, he, hpublish⟩ : ∃ e, outcome (Threads.createContainer rt replies payload) s = (.error e, _) ∧ _ :=
      Threads.createContainer_raises (by rw [hasked, h0]) payload
    rw [ensures_bind_iff_of_error he, contains_of_failed hpublish, announced, if_neg (by simp [hsplit, h0])]
  | some creation =>
    have hcreate : outcome (Threads.createContainer rt replies payload) s = (.ok ⟨creation, payload⟩, _) :=
      Threads.outcome_createContainer (by rw [hasked, h0]) payload
    rw [ensures_bind_iff hcreate]
    cases h1 : (replies 1).givesId with
    | none =>
      obtain ⟨e, he, hpublish⟩ : ∃ e, outcome (Threads.publishContainer rt replies ⟨creation, payload⟩)
          { s with asked := s.asked + 1 } = (.error e, _) ∧ _ :=
        Threads.publishContainer_raises (show (replies (s.asked + 1)).givesId = none by rw [hasked, h1]) _
      rw [ensures_bind_iff_of_error he, contains_of_failed hpublish, announced, if_neg (by simp [hsplit, h1])]
    | some post =>
      have hpost : outcome (Threads.publishContainer rt replies ⟨creation, payload⟩) { s with asked := s.asked + 1 } =
          (.ok post, _) :=
        Threads.outcome_publishContainer (show (replies (s.asked + 1)).givesId = some post by rw [hasked, h1]) _
      rw [ensures_bind_iff hpost]
      have hreplies : Requests replies (2 * extraChunks.length) (Threads.publishReplies rt replies extraChunks post) :=
        Threads.requests_publishReplies rt extraChunks post
      have hreplies := hreplies { s with asked := s.asked + 1 + 1, posts := s.posts ++ [⟨.threads, payload, post⟩] }
      obtain ⟨r, s', hout⟩ : ∃ r s', outcome (Threads.publishReplies rt replies extraChunks post)
        { s with asked := s.asked + 1 + 1, posts := s.posts ++ [⟨.threads, payload, post⟩] } = (r, s') := ⟨_, _, rfl⟩
      rw [Ensures, hout] at hreplies
      obtain ⟨hfiles, h⟩ := hreplies
      have hfiles : s'.files = s.files := hfiles
      rw [show s.asked + 1 + 1 = 2 by omega] at h
      split at h
      · next hall =>
        obtain ⟨⟨ids, hids⟩, -⟩ := h
        obtain rfl : r = .ok ids := hids
        rw [ensures_bind_iff hout, record_logContained hwrites (by decide), hfiles, announced,
          if_pos (hsplit.2 ⟨by rw [h0]; rfl, by rw [h1]; rfl, hall⟩), h1]
      · next hall =>
        obtain ⟨e, he, hpublish⟩ := h
        obtain rfl : r = .error e := he
        rw [ensures_bind_iff_of_error hout, contains_of_failed hpublish, hfiles, announced,
          if_neg fun hanswered => hall (hsplit.1 hanswered).2.2]

/-- What TikTok is answered: an id, where the payload has one. -/
def Tiktok.answer (rt : Runtime F) (reply : Reply) : Option PyValue := do
  let body ← ((Tiktok.api rt).payload reply).toOption
  let id ← (Tiktok.publishId rt body).toOption
  if id.truthy then some id else none

theorem Tiktok.contains_publishOne {config : Dict} {draft : String × String}
    (hdraft : Tiktok.validateTiktok rt s.files config = .ok draft) (hasked : s.asked = 0) :
    Ensures (Tiktok.publishOne rt scan replies config) (Contains rt logCaught) s ↔
      (∀ body, (Tiktok.api rt).payload (replies 0) = .ok body →
        ((Dict.get body "data").orElse (.dict [])).dict?.isSome) ∧
      LogContained rt logCaught s.files (Tiktok.answer rt (replies 0)) := by
  obtain ⟨caption, hcaption⟩ : ∃ caption, readCaption rt s.files config = .ok caption := by
    simp only [Tiktok.validateTiktok, bind_eq_ok] at hdraft
    obtain ⟨_, -, _, -, _, -, caption, hcaption, -⟩ := hdraft
    exact ⟨caption, hcaption⟩
  unfold Tiktok.publishOne
  rw [ensures_bind_iff outcome_get, ensures_bind_iff ((outcome_lift _).trans (congrArg (·, s) hdraft))]
  obtain ⟨postType, videoUrl⟩ := draft
  rw [ensures_bind_iff ((outcome_lift _).trans (congrArg (·, s) hcaption))]
  rw [ensures_bind_iff (show outcome (ask replies) s = (.ok (replies s.asked), { s with asked := s.asked + 1 }) from rfl)]
  rw [hasked]
  cases hbody : (Tiktok.api rt).payload (replies 0) with
  | error e =>
    have hnone : Tiktok.answer rt (replies 0) = none := by
      rw [Tiktok.answer, hbody]
      rfl
    rw [ensures_bind_iff_of_error (outcome_lift _), contains_of_failed (Api.raisesOnly_payload _ _ e hbody), hnone]
    simp
  | ok body =>
    rw [ensures_bind_iff (outcome_lift _)]
    cases hdata : ((Dict.get body "data").orElse (.dict [])).dict? with
    | none =>
      have hraises : Tiktok.publishId rt body = .error ⟨.attributeError, "object has no attribute 'get'"⟩ := by
        rw [Tiktok.publishId, hdata]
        rfl
      rw [ensures_bind_iff_of_error ((outcome_lift _).trans (congrArg (·, _) hraises)), Contains]
      simp [hdata, PyError.isPublishError, PyError.isReadError, PyError.isTextError, PyError.isOSError,
        PyError.isValueError, PyError.isYamlError, PyError.isRuntimeError]
    | some data =>
      obtain ⟨id, hid⟩ : ∃ id, Tiktok.publishId rt body = .ok id := by
        rw [Tiktok.publishId, hdata]
        exact ⟨_, rfl⟩
      have hanswer : Tiktok.answer rt (replies 0) = if id.truthy then some id else none := by
        rw [Tiktok.answer, hbody]
        show (Tiktok.publishId rt body).toOption.bind _ = _
        rw [hid]
        rfl
      rw [ensures_bind_iff ((outcome_lift _).trans (congrArg (·, _) hid)), hanswer]
      cases htruthy : id.truthy with
      | false =>
        have hraises : (raiseIf (false = false) (runtimeError "TikTok API response has no publish_id") : Except PyError Unit) =
            .error (runtimeError "TikTok API response has no publish_id") := if_pos rfl
        rw [ensures_bind_iff_of_error ((outcome_lift _).trans (congrArg (·, _) hraises)), contains_of_failed rfl]
        simp [hdata]
      | true =>
        have hpasses : (raiseIf (true = false) (runtimeError "TikTok API response has no publish_id") : Except PyError Unit) =
            .ok () := if_neg (by decide)
        rw [ensures_bind_iff ((outcome_lift _).trans (congrArg (·, _) hpasses))]
        rw [ensures_bind_iff (show outcome (Work.post _) _ = (.ok (), _) from rfl),
          record_logContained hwrites (by decide)]
        simp [hdata]

/-- Telegram is answered an integer, which is never hard to announce. -/
theorem Telegram.contains_publishOne (pack : Dict) (text : String) :
    Ensures (Telegram.publishOne rt scan replies pack text) (Contains rt PyError.isReadError) s ↔
      RaisesOnly PyError.isReadError (loadLog rt s.files) := by
  have hread : ∀ answer : Option PyValue, (∀ id, answer = some id → id.isLone = false) →
      (LogContained rt PyError.isReadError s.files answer ↔ RaisesOnly PyError.isReadError (loadLog rt s.files)) := by
    intro answer hlone
    refine and_iff_left_of_imp fun h id hid => ⟨h.mono fun e he => PyError.isPublishError_of_isReadError he, ?_⟩
    exact fun _ _ => hlone id hid
  have hnone := hread none (by rintro _ ⟨⟩)
  cases hbody : (Telegram.api rt).payload (replies s.asked) with
  | error e =>
    have hsend : outcome (Telegram.sendTelegramMessage rt replies text) s = (.error e, { s with asked := s.asked + 1 }) := by
      rw [Telegram.sendTelegramMessage, outcome_bind]
      show andThen _ (.ok (replies s.asked), { s with asked := s.asked + 1 }) = _
      rw [andThen_ok, outcome_bind, outcome_lift, hbody]
      rfl
    unfold Telegram.publishOne
    rw [ensures_bind_iff_of_error hsend, contains_of_failed (Api.raisesOnly_payload _ _ e hbody)]
    exact hnone
  | ok body =>
    cases hid : Telegram.messageId body with
    | none =>
      have hsend : outcome (Telegram.sendTelegramMessage rt replies text) s =
          (.error (runtimeError "Telegram API response has no integer message_id"), { s with asked := s.asked + 1 }) := by
        rw [Telegram.sendTelegramMessage, outcome_bind]
        show andThen _ (.ok (replies s.asked), { s with asked := s.asked + 1 }) = _
        rw [andThen_ok, outcome_bind, outcome_lift, hbody, andThen_ok, hid]
        rfl
      unfold Telegram.publishOne
      rw [ensures_bind_iff_of_error hsend, contains_of_failed rfl]
      exact hnone
    | some id =>
      have hint : id.isLone = false := PyValue.isLone_of_isInt (Option.filter_eq_some_iff.1 hid).2
      obtain ⟨post, hsend⟩ : ∃ post, outcome (Telegram.sendTelegramMessage rt replies text) s =
          (.ok id, { s with asked := s.asked + 1, posts := s.posts ++ [post] }) := by
        refine ⟨⟨.telegram, [("text", .str text), ("disable_web_page_preview", .bool true)], id⟩, ?_⟩
        rw [Telegram.sendTelegramMessage, outcome_bind]
        show andThen _ (.ok (replies s.asked), { s with asked := s.asked + 1 }) = _
        rw [andThen_ok, outcome_bind, outcome_lift, hbody, andThen_ok, hid]
        rfl
      unfold Telegram.publishOne
      rw [ensures_bind_iff hsend, record_logContained hwrites (by decide)]
      exact hread (some id) (by rintro _ ⟨⟩; exact hint)

end Answers

/-! What lets a scan go on after a pack. -/

theorem withPrepared_isOk {α : Type} {x : Files F → Except PyError (Outcome ⊕ α)} {publish : α → Work F Outcome} :
    (∃ o, (outcome (withPrepared x publish) s).1 = .ok o) ↔ (∃ r, x s.files = .ok r) ∧
      ∀ ready, x s.files = .ok (.inr ready) → ∃ o, (outcome (publish ready) s).1 = .ok o := by
  show (∃ o, (outcome (lift (x s.files) >>= _) s).1 = .ok o) ↔ _
  rw [outcome_bind, outcome_lift]
  cases x s.files with
  | error e => simp
  | ok r =>
    cases r with
    | inl o => simp
    | inr ready => simp

variable (rt) (files) (scan : Scan) (replies : ℕ → Reply)

/-- The files that are read before anything is published are read, or fail as expected. -/
def ReadContained {α : Type} (now : ℤ) (configName : String) (validate : Dict → Except PyError α) : Prop :=
  RaisesOnly PyError.isReadError (loadYaml rt files "pack.yml") ∧
    (∀ pack, loadYaml rt files "pack.yml" = .ok pack → RaisesOnly PyError.isReadError (loadYaml rt files configName)) ∧
    ∀ config, Due rt files now configName config → RaisesOnly PyError.isTextError (validate config)

/-- The text can be read or is not there, and the log can be read too. -/
def Telegram.Contained : Prop :=
  RaisesOnly PyError.isReadError (loadYaml rt files "pack.yml") ∧
    ∀ pack, Telegram.Due rt files scan pack → RaisesOnly PyError.isOSError (Telegram.readText rt files) ∧
      ∀ text, Telegram.readText rt files = .ok text → RaisesOnly PyError.isReadError (loadLog rt files)

def Threads.Contained : Prop :=
  ReadContained rt files scan.now "threads.yml" (Threads.validateThreads rt files) ∧
    ∀ config draft payload extraChunks, Due rt files scan.now "threads.yml" config →
      Threads.validateThreads rt files config = .ok draft →
        Threads.rootPayload rt files config = .ok (payload, extraChunks) →
          LogContained rt (fun _ => true) files (announced replies (2 + 2 * extraChunks.length) 1)

def Instagram.Contained : Prop :=
  ReadContained rt files scan.now "instagram.yml" (Instagram.validateInstagramMediaMvp rt files) ∧
    ∀ config draft, Due rt files scan.now "instagram.yml" config →
      Instagram.validateInstagramMediaMvp rt files config = .ok draft → Instagram.gate scan draft = none →
        LogContained rt PyError.isReadError files (announced replies (draft.children + 2) (draft.children + 1))

/-- The answer has a mapping for its data, or nothing. -/
def Tiktok.Contained : Prop :=
  ReadContained rt files scan.now "tiktok.yml" (Tiktok.validateTiktok rt files) ∧
    ∀ config draft, Due rt files scan.now "tiktok.yml" config → Tiktok.validateTiktok rt files config = .ok draft →
      (∀ body, (Tiktok.api rt).payload (replies 0) = .ok body →
        ((Dict.get body "data").orElse (.dict [])).dict?.isSome) ∧
      LogContained rt (fun _ => true) files (Tiktok.answer rt (replies 0))

/-- No exception escapes a scan of a pack with these files and answers. -/
def Channel.Contained : Channel → Prop
  | telegram => Telegram.Contained rt files scan
  | threads => Threads.Contained rt files scan replies
  | instagram => Instagram.Contained rt files scan replies
  | tiktok => Tiktok.Contained rt files scan replies

variable {rt files scan replies}

theorem Threads.raisesOnly_rootPayload {config : Dict} {draft : String × String}
    (hdraft : Threads.validateThreads rt files config = .ok draft) :
    RaisesOnly PyError.isPublishError (Threads.rootPayload rt files config) := by
  obtain ⟨caption, hcaption⟩ : ∃ caption, readCaption rt files config = .ok caption := by
    simp only [Threads.validateThreads, bind_eq_ok] at hdraft
    obtain ⟨_, -, caption, hcaption, -⟩ := hdraft
    exact ⟨caption, hcaption⟩
  have hsplit : ∀ text, RaisesOnly PyError.isPublishError (splitTextChunks threadsTextMaxLen text) := fun text =>
    (raisesOnly_raiseIf rfl).bind fun _ _ => raisesOnly_ok _ _
  unfold Threads.rootPayload
  rw [hdraft]
  refine RaisesOnly.bind (raisesOnly_ok _ _) fun read _ => ?_
  obtain ⟨postType, content⟩ := read
  refine RaisesOnly.bind ?_ fun text _ => ?_
  · split
    · rw [hcaption]
      exact raisesOnly_ok _ _
    · exact raisesOnly_ok _ _
  refine (hsplit text).bind fun chunks hchunks => ?_
  obtain ⟨chunk, rest, rfl⟩ := splitTextChunks_ne_nil hchunks
  exact raisesOnly_ok _ _

theorem Instagram.items_ne_nil {config : Dict} {draft : Instagram.Draft}
    (hdraft : Instagram.validateInstagramMediaMvp rt files config = .ok draft) : draft.items ≠ [] := by
  simp only [Instagram.validateInstagramMediaMvp, bind_eq_ok] at hdraft
  obtain ⟨_, -, media, -, caption, -, h⟩ := hdraft
  split at h
  · obtain ⟨url, -, hok⟩ := bind_eq_ok.1 h
    rw [← pure_eq_ok.1 hok]
    exact List.cons_ne_nil _ _
  split at h
  · obtain ⟨url, -, hok⟩ := bind_eq_ok.1 h
    rw [← pure_eq_ok.1 hok]
    exact List.cons_ne_nil _ _
  · obtain ⟨items, hitems, h⟩ := bind_eq_ok.1 h
    obtain ⟨read, hread, hok⟩ := bind_eq_ok.1 h
    rw [← pure_eq_ok.1 hok]
    have hlength := (mapM_eq_ok hread).length_eq
    have htwo := (Option.filter_eq_some_iff.1 (orRaise_eq_ok.1 hitems)).2
    rw [List.length_zipIdx] at hlength
    intro hnil
    rw [show read = [] from hnil, List.length_nil] at hlength
    rw [hlength] at htwo
    cases htwo

theorem Telegram.skipEmpty_isOk (hwrites : ∀ d : Dict, ∃ file, rt.safeDump (.dict d) = .ok file) (reason : String) :
    (∃ o, (outcome (Telegram.skipEmpty rt scan reason) s).1 = .ok o) ↔
      RaisesOnly PyError.isReadError (loadLog rt s.files) := by
  rw [← raisesOnly_appendLog hwrites [("at", .str scan.nowIso), ("channel", .str "telegram"),
    ("status", .str "skipped"), ("reason", .str reason)]]
  unfold Telegram.skipEmpty
  rw [outcome_bind, outcome_attempt]
  generalize outcome (appendLog rt _) s = r
  obtain ⟨r, s'⟩ := r
  cases r with
  | ok _ => exact iff_of_true ⟨_, rfl⟩ (raisesOnly_ok _ _)
  | error e =>
    rw [raisesOnly_error]
    cases he : e.isReadError with
    | true => rw [caught_error_of he]; exact iff_of_true ⟨_, rfl⟩ rfl
    | false => rw [caught_error_of_not he]; simp

theorem scanPack_isOk (hwrites : ∀ d : Dict, ∃ file, rt.safeDump (.dict d) = .ok file) (channel : Channel)
    (hasked : s.asked = 0) :
    (∃ o, (outcome (channel.scanPack rt scan replies) s).1 = .ok o) ↔ channel.Contained rt s.files scan replies := by
  cases channel with
  | telegram =>
    show (∃ o, (outcome (Telegram.scanPack rt scan replies) s).1 = .ok o) ↔ Telegram.Contained rt s.files scan
    have hpublish : ∀ pack text reason, (∃ o, (outcome (if text = "" then Telegram.skipEmpty rt scan reason
        else publishing rt .telegram id PyError.isReadError scan (Telegram.publishOne rt scan replies pack text)) s).1 = .ok o) ↔
        RaisesOnly PyError.isReadError (loadLog rt s.files) := by
      intro pack text reason
      split
      · exact Telegram.skipEmpty_isOk hwrites reason
      · rw [publishing_isOk hwrites, Telegram.contains_publishOne hwrites]
    rw [Telegram.scanPack, withPrepared_isOk, Telegram.prepare_isOk, Telegram.Contained, and_assoc]
    refine and_congr_right fun _ => ?_
    constructor
    · rintro ⟨hread, h⟩ pack hdue
      refine ⟨hread pack hdue, fun text htext => ?_⟩
      exact (hpublish pack text.1 text.2).1 (h (pack, text) (Telegram.prepare_eq_inr.2 ⟨hdue, htext⟩))
    · intro h
      refine ⟨fun pack hdue => (h pack hdue).1, ?_⟩
      rintro ⟨pack, text⟩ hready
      obtain ⟨hdue, htext⟩ := Telegram.prepare_eq_inr.1 hready
      exact (hpublish pack text.1 text.2).2 ((h pack hdue).2 text htext)
  | threads =>
    show (∃ o, (outcome (Threads.scanPack rt scan replies) s).1 = .ok o) ↔ Threads.Contained rt s.files scan replies
    rw [Threads.scanPack, withPrepared_isOk, Threads.Contained]
    refine and_congr prepare_isOk ?_
    constructor
    · intro h config draft payload extraChunks hdue hdraft hroot
      have hone := h (config, draft) (prepare_eq_inr.2 ⟨hdue, hdraft, rfl⟩)
      rw [publishing_isOk hwrites, Threads.contains_publishOne hwrites hroot hasked] at hone
      exact hone
    · rintro h ⟨config, draft⟩ hready
      obtain ⟨hdue, hdraft, -⟩ := prepare_eq_inr.1 hready
      rw [publishing_isOk hwrites]
      cases hroot : Threads.rootPayload rt s.files config with
      | ok root => exact (Threads.contains_publishOne hwrites hroot hasked).2 (h config draft _ _ hdue hdraft hroot)
      | error e =>
        have hpublish := Threads.raisesOnly_rootPayload hdraft e hroot
        unfold Threads.publishOne
        rw [ensures_bind_iff outcome_get, ensures_bind_iff_of_error ((outcome_lift _).trans (congrArg (·, s) hroot)),
          contains_of_failed hpublish]
        exact ⟨fun _ _ => rfl, by rintro _ ⟨⟩⟩
  | instagram =>
    show (∃ o, (outcome (Instagram.scanPack rt scan replies) s).1 = .ok o) ↔ Instagram.Contained rt s.files scan replies
    rw [Instagram.scanPack, withPrepared_isOk, Instagram.Contained]
    refine and_congr prepare_isOk ?_
    constructor
    · intro h config draft hdue hdraft hgate
      have hone := h (config, draft) (prepare_eq_inr.2 ⟨hdue, hdraft, hgate⟩)
      rwa [publishing_isOk hwrites, Instagram.contains_publishPack hwrites (Instagram.items_ne_nil hdraft) _ hasked] at hone
    · rintro h ⟨config, draft⟩ hready
      obtain ⟨hdue, hdraft, hgate⟩ := prepare_eq_inr.1 hready
      rw [publishing_isOk hwrites, Instagram.contains_publishPack hwrites (Instagram.items_ne_nil hdraft) _ hasked]
      exact h config draft hdue hdraft hgate
  | tiktok =>
    show (∃ o, (outcome (Tiktok.scanPack rt scan replies) s).1 = .ok o) ↔ Tiktok.Contained rt s.files scan replies
    rw [Tiktok.scanPack, withPrepared_isOk, Tiktok.Contained]
    refine and_congr prepare_isOk ?_
    constructor
    · intro h config draft hdue hdraft
      have hone := h (config, draft) (prepare_eq_inr.2 ⟨hdue, hdraft, rfl⟩)
      rwa [publishing_isOk hwrites, Tiktok.contains_publishOne hwrites hdraft hasked] at hone
    · rintro h ⟨config, draft⟩ hready
      obtain ⟨hdue, hdraft, -⟩ := prepare_eq_inr.1 hready
      rw [publishing_isOk hwrites, Tiktok.contains_publishOne hwrites hdraft hasked]
      exact h config draft hdue hdraft

/-! Directories. -/

/-- The directory without the pack of a name. -/
def Directory.without (d : Directory F) (name : String) : Directory F where
  packs := d.packs.filter fun pack => pack.name ≠ name
  sorted := d.sorted.sublist (List.filter_sublist.map _)

theorem Directory.eq_of_name {d : Directory F} {a b : Pack F} (ha : a ∈ d.packs) (hb : b ∈ d.packs) (h : a.name = b.name) :
    a = b := by
  have hnodup : (d.packs.map Pack.name).Nodup := d.sorted.imp fun {a b} (hlt : a < b) => hlt.ne
  exact List.inj_on_of_nodup_map hnodup ha hb h

/-- The scan gets to a pack: it starts, `--pack` names none, and the pack has the file of the channel. -/
def Channel.Reaches (channel : Channel) (scan : Scan) (pack : Pack F) : Prop :=
  channel.starts scan = true ∧ (pack.files channel.configName).isSome ∧
    ((channel = .threads ∨ channel = .tiktok) → scan.packFilter.getD "" = "")

/-- A pack with these answers is no matter to the others of whatever directory it is in, whatever
these are answered. -/
def Isolated (rt : Runtime F) (channel : Channel) (scan : Scan) (pack : Pack F) (answers : ℕ → Reply) : Prop :=
  ∀ (d : Directory F) (replies : String → ℕ → Reply), pack ∈ d.packs → replies pack.name = answers →
    ((runScan rt channel scan replies d).2.without pack.name).packs =
      (runScan rt channel scan replies (d.without pack.name)).2.packs

/-- Some pack would be published by the scan. -/
def Publishes (rt : Runtime F) (channel : Channel) (scan : Scan) : Prop :=
  ∃ (files : Files F) (answers : ℕ → Reply), (files channel.configName).isSome ∧
    (outcome (channel.scanPack rt scan answers) ⟨files, 0, []⟩).2.posts ≠ []

variable {channel : Channel}

theorem lt_append_zero (name : String) : name < name ++ "0" := by
  rw [String.lt_iff_toList_lt, String.toList_append]
  induction name.toList with
  | nil => exact List.nil_lt_cons _ _
  | cons c cs ih => exact List.cons_lt_cons_self.2 ih

theorem visitPack_of_left {scan : Scan} {replies : String → ℕ → Reply} {pack : Pack F}
    (h : (pack.files channel.configName).isNone ∨ channel.filtered scan pack.name = true) :
    visitPack rt channel scan replies pack = (.ok none, pack) := if_pos h

theorem visitPack_of_reached {scan : Scan} {replies : String → ℕ → Reply} {pack : Pack F}
    (hsome : (pack.files channel.configName).isSome) (hfiltered : channel.filtered scan pack.name = false) :
    visitPack rt channel scan replies pack =
      (((outcome (channel.scanPack rt scan (replies pack.name)) ⟨pack.files, 0, pack.posts⟩).1.map some),
        ⟨pack.name, (outcome (channel.scanPack rt scan (replies pack.name)) ⟨pack.files, 0, pack.posts⟩).2.files,
          (outcome (channel.scanPack rt scan (replies pack.name)) ⟨pack.files, 0, pack.posts⟩).2.posts⟩) := by
  refine if_neg ?_
  rintro (hnone | htrue)
  · rw [Option.isNone_iff_eq_none.1 hnone] at hsome
    cases hsome
  · rw [hfiltered] at htrue
    cases htrue

theorem visitPack_isOk (hwrites : ∀ d : Dict, ∃ file, rt.safeDump (.dict d) = .ok file) {scan : Scan}
    {replies : String → ℕ → Reply} {pack : Pack F} (hsome : (pack.files channel.configName).isSome)
    (hfiltered : channel.filtered scan pack.name = false) :
    (∃ o, (visitPack rt channel scan replies pack).1 = .ok o) ↔
      channel.Contained rt pack.files scan (replies pack.name) := by
  rw [visitPack_of_reached hsome hfiltered, ← scanPack_isOk (s := ⟨pack.files, 0, pack.posts⟩) hwrites channel rfl]
  cases (outcome (channel.scanPack rt scan (replies pack.name)) ⟨pack.files, 0, pack.posts⟩).1 <;> simp [Except.map]

theorem filtered_eq_false {scan : Scan} (h : (channel = .threads ∨ channel = .tiktok) → scan.packFilter.getD "" = "")
    (name : String) : channel.filtered scan name = false := by
  cases channel <;> simp_all [Channel.filtered]

/-- If `--pack` does not leave out a pack but names one, it leaves out the others. -/
theorem filtered_of_ne {scan : Scan} {name other : String} (h : ¬ (channel.filtered scan name = true ∨
    ((channel = .threads ∨ channel = .tiktok) → scan.packFilter.getD "" = ""))) (hne : other ≠ name) :
    channel.filtered scan other = true := by
  have hcase : (channel = .threads ∨ channel = .tiktok) ∧ scan.packFilter = some name ∧ name ≠ "" := by
    obtain ⟨hnot, hset⟩ := not_or.1 h
    obtain ⟨hchannel, hfilled⟩ := Classical.not_imp.1 hset
    cases hfilter : scan.packFilter with
    | none => exact absurd (by rw [hfilter]; rfl) hfilled
    | some only =>
      rw [hfilter, Option.getD_some] at hfilled
      have hname : only = name := by
        by_contra hother
        rcases hchannel with rfl | rfl <;> exact hnot (by simp [Channel.filtered, hfilter, hfilled, hother])
      exact ⟨hchannel, by rw [hname], hname ▸ hfilled⟩
  obtain ⟨rfl | rfl, hfilter, hset⟩ := hcase <;> simp [Channel.filtered, hfilter, hset, hne.symm]

theorem packs_runScan {scan : Scan} (hstart : channel.starts scan = true) (replies : String → ℕ → Reply) (d : Directory F) :
    (runScan rt channel scan replies d).2.packs = (Sweep.sweep (visitPack rt channel scan replies) d.packs).2 := by
  rw [runScan, if_pos hstart]

/-- A pack that the scan stops at is followed by one that it would have published. -/
theorem not_isolated (hpublishes : Publishes rt channel scan) {pack : Pack F} {answers : ℕ → Reply}
    (hreaches : channel.Reaches scan pack)
    (hraises : ∀ replies : String → ℕ → Reply, replies pack.name = answers →
      ∃ e, (visitPack rt channel scan replies pack).1 = .error e) : ¬ Isolated rt channel scan pack answers := by
  intro hisolated
  obtain ⟨hstart, -, hfilter⟩ := hreaches
  obtain ⟨files, goodAnswers, hgood, hposts⟩ := hpublishes
  have hlt := lt_append_zero pack.name
  have hname : pack.name ++ "0" ≠ pack.name := hlt.ne'
  let good : Pack F := ⟨pack.name ++ "0", files, []⟩
  let d : Directory F := ⟨[pack, good], List.pairwise_pair.2 hlt⟩
  let replies : String → ℕ → Reply := fun name => if name = pack.name then answers else goodAnswers
  obtain ⟨e, he⟩ := hraises replies (if_pos rfl)
  have hsame := hisolated d replies List.mem_cons_self (if_pos rfl)
  have hleft : ((runScan rt channel scan replies d).2.without pack.name).packs = [good] := by
    show (runScan rt channel scan replies d).2.packs.filter _ = _
    rw [packs_runScan hstart, Sweep.sweep_cons_of_error he,
      List.filter_cons_of_neg (by simp [visitPack_name]), List.filter_cons_of_pos (by simp [good])]
    rfl
  have hright : (runScan rt channel scan replies (d.without pack.name)).2.packs =
      [(visitPack rt channel scan replies good).2] := by
    have hpacks : (d.without pack.name).packs = [good] := by
      simp [Directory.without, d, good]
    rw [packs_runScan hstart, hpacks, Sweep.sweep_singleton]
  rw [hleft, hright, visitPack_of_reached hgood (filtered_eq_false hfilter _)] at hsame
  have hposted : ([] : List Post) = _ := congrArg Pack.posts (List.singleton_inj.1 hsame)
  rw [show replies good.name = goodAnswers from if_neg hname] at hposted
  exact hposts hposted.symm

/-- A pack is no matter to the others exactly when the scan does not get to it, or nothing escapes. -/
theorem isolated_iff (hwrites : ∀ d : Dict, ∃ file, rt.safeDump (.dict d) = .ok file)
    (hpublishes : Publishes rt channel scan) (pack : Pack F) (answers : ℕ → Reply) :
    Isolated rt channel scan pack answers ↔
      (channel.Reaches scan pack → channel.Contained rt pack.files scan answers) := by
  constructor
  · intro hisolated hreaches
    by_contra hnot
    refine not_isolated hpublishes hreaches (fun replies hanswers => ?_) hisolated
    cases hvisit : (visitPack rt channel scan replies pack).1 with
    | error e => exact ⟨e, rfl⟩
    | ok o =>
      have hok := (visitPack_isOk hwrites hreaches.2.1 (filtered_eq_false hreaches.2.2 _)).1 ⟨o, hvisit⟩
      rw [hanswers] at hok
      exact absurd hok hnot
  · intro h d replies hmem hanswers
    have hkeep : ∀ a : Pack F, decide ((visitPack rt channel scan replies a).2.name ≠ pack.name) =
        decide (a.name ≠ pack.name) := fun a => by rw [visitPack_name]
    show (runScan rt channel scan replies d).2.packs.filter _ = _
    by_cases hstart : channel.starts scan = true
    · rw [packs_runScan hstart, packs_runScan hstart]
      show _ = (Sweep.sweep _ (d.packs.filter _)).2
      by_cases hfilter : channel.filtered scan pack.name = true ∨
          ((channel = .threads ∨ channel = .tiktok) → scan.packFilter.getD "" = "")
      · refine Sweep.filter_sweep hkeep fun a ha hname => ?_
        obtain rfl : a = pack := Directory.eq_of_name ha hmem (by simpa using hname)
        by_cases hleft : (a.files channel.configName).isNone ∨ channel.filtered scan a.name = true
        · exact ⟨none, by rw [visitPack_of_left hleft]⟩
        · have hsome : (a.files channel.configName).isSome := by
            rw [Option.isSome_iff_ne_none]
            exact fun hnone => hleft (.inl (Option.isNone_iff_eq_none.2 hnone))
          have hfiltered : channel.filtered scan a.name = false := Bool.eq_false_iff.2 fun htrue => hleft (.inr htrue)
          rcases hfilter with htrue | hfilter
          · exact absurd (.inr htrue) hleft
          · rw [visitPack_isOk hwrites hsome hfiltered, hanswers]
            exact h ⟨hstart, hsome, hfilter⟩
      · -- `--pack` names this pack, so the scan leaves the others alone.
        have hidle : ∀ a ∈ d.packs, decide (a.name ≠ pack.name) = true → (visitPack rt channel scan replies a).2 = a := by
          intro a _ hname
          have hname : a.name ≠ pack.name := of_decide_eq_true hname
          rw [visitPack_of_left (.inr (filtered_of_ne hfilter hname))]
        rw [Sweep.filter_sweep_eq_self hkeep hidle, Sweep.sweep_eq_self]
        intro a ha
        exact hidle a (List.mem_filter.1 ha).1 (List.mem_filter.1 ha).2
    · have hrefused : ∀ d : Directory F, (runScan rt channel scan replies d).2 = d := by
        intro d
        rw [runScan, if_neg hstart]
      rw [hrefused, hrefused]
      rfl

end

namespace Demo

/-- A pack for Telegram with a text file of its own. -/
def telegramFiles (text : File) : Files File
  | "pack.yml" => some (.yaml (.dict (mapping [("status", .str "approved"), ("publish", .dict (mapping [("telegram",
      .dict (mapping [("enabled", .bool true), ("status", .str "approved"),
        ("publish_at", .str "1970-01-01T00:00:00+00:00")]))]))])))
  | "telegram.md" => some text
  | _ => none

def timeout : ℕ → Reply := fun _ => .requestException "Timeout"

def sent : Reply := .response 200 (.value (.dict (mapping [("ok", .bool true),
  ("result", .dict (mapping [("message_id", .int 1)]))])))

theorem publishes_telegram : Publishes runtime .telegram scan :=
  ⟨telegramFiles (.text "hello"), fun _ => sent, rfl, List.ne_nil_of_length_pos (by decide)⟩

end Demo

/-- A text that is not UTF-8 stops the scan. -/
theorem unreadable_text_stops_scan :
    ¬ Isolated Demo.runtime .telegram Demo.scan ⟨"a", Demo.telegramFiles .bytes, []⟩ Demo.timeout := by
  refine not_isolated Demo.publishes_telegram ⟨by decide, rfl, by rintro (h | h) <;> cases h⟩ fun replies _ => ?_
  exact ⟨_, rfl⟩

theorem isolated_iff_timeout :
    Isolated Demo.runtime .telegram Demo.scan ⟨"a", Demo.telegramFiles (.text "hello"), []⟩ Demo.timeout := by
  refine (isolated_iff (fun d => ⟨.yaml (.dict d), rfl⟩) Demo.publishes_telegram _ _).2 fun _ => ?_
  exact ⟨raisesOnly_ok _ _, fun _ _ => ⟨raisesOnly_ok _ _, fun _ _ => raisesOnly_ok _ _⟩⟩

end CoreOps.Publishers
