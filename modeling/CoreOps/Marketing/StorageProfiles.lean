import CoreOps.Lib.Checked
import CoreOps.Lib.UniqueIndex
import CoreOps.Marketing.Model
import Mathlib.Data.List.Sort

/-! Storage profiles: the modes a tenant stores media in, one active profile a mode, and
a default among the active ones. A method returns the table its transaction commits, or
the exception it raises; the id of a new profile is an argument. Row timestamps and audit
rows are left out. -/

namespace CoreOps.Marketing

open Checked Text

structure StorageProfileRow extends MarketingStorageResourceProfile where
  isDefault : Bool
  displayName : String
  maxUrlLength : Option ℕ
  createdByUserId : Option ℕ
  updatedByUserId : Option ℕ

abbrev ProfileTable := Table ℕ StorageProfileRow

inductive StorageProfileError
  | notFound
  | duplicateActive
  | validation (detail : String)
  | integrityError
  | dataError
  deriving DecidableEq, Repr

def maxUploadBytesHardCap : ℤ := 50 * 1024 * 1024

def maxUrlLengthHardCap : ℤ := 2048

/-- One item of `normalize_mime_list`, after those in `normalized`. -/
def normalizeMime (normalized : List String) (item : String) : Except StorageProfileError (List String) :=
  let lower := (strip item).toLower
  let mime := if lower = "image/jpg" then "image/jpeg" else lower
  if mime = "" then .ok normalized
  else if mime ∉ c2aAllowedMediaMimeTypes then .error (.validation s!"mime_not_allowed:{mime}")
  else if mime ∈ normalized then .ok normalized
  else .ok (normalized ++ [mime])

def normalizeMimeList (raw : Option (List String)) : Except StorageProfileError (List String) :=
  match raw with
  | none => return c2aAllowedMediaMimeTypes.insertionSort (· ≤ ·)
  | some items => do
    let normalized ← items.foldlM normalizeMime []
    raiseIf (normalized = []) (.validation "allowed_mime_types_empty")
    return normalized.insertionSort (· ≤ ·)

/-- A limit is absent, or positive and at most `cap`. -/
def normalizeLimit (cap : ℤ) (detail : String) (value : Option ℤ) : Except StorageProfileError (Option ℕ) :=
  match value with
  | none => return none
  | some n => do
    raiseIf (n ≤ 0 ∨ cap < n) (.validation detail)
    return some n.toNat

def normalizeUploadBytes (value : Option ℤ) : Except StorageProfileError (Option ℕ) :=
  normalizeLimit maxUploadBytesHardCap "max_upload_bytes_out_of_range" value

def normalizeUrlLength (value : Option ℤ) : Except StorageProfileError (Option ℕ) :=
  normalizeLimit maxUrlLengthHardCap "max_url_length_out_of_range" value

/-- Both branches of the source raise, so the status does not matter. -/
def assertModeStatus (mode : MarketingStorageResourceMode) (_status : MarketingStorageProfileStatus) :
    Except StorageProfileError Unit :=
  raiseIf (mode = .clientBucket) (.validation "client_bucket_not_supported")

namespace StorageProfileRow

variable (row : StorageProfileRow)

/-- The entry of a row in `uq_marketing_storage_profile_tenant_mode_active`. -/
def activeEntry : Option (ℕ × MarketingStorageResourceMode) :=
  if row.status = .active then some (row.tenantId, row.mode) else none

/-- The entry of a row in `uq_marketing_storage_profile_tenant_default`. -/
def defaultEntry : Option ℕ := if row.isDefault then some row.tenantId else none

/-- The check constraints that relate columns. -/
def Allowed : Prop :=
  (row.isDefault = true → row.status = .active) ∧ ¬ (row.status = .active ∧ row.mode = .clientBucket)

instance : Decidable row.Allowed := inferInstanceAs (Decidable (_ ∧ _))

end StorageProfileRow

section Service

variable (tenantId : ℕ) (userId : Option ℕ) (s : ProfileTable)

def getStorageProfile (profileId : ℕ) : Option StorageProfileRow :=
  (s.get? profileId).filter fun p => p.tenantId = tenantId

def findActiveStorageProfile (mode : MarketingStorageResourceMode) : Option (ℕ × StorageProfileRow) :=
  s.rows.find? fun r => r.2.tenantId = tenantId ∧ r.2.mode = mode ∧ r.2.status = .active

def getDefaultStorageProfile : Option (ℕ × StorageProfileRow) :=
  s.rows.find? fun r => r.2.tenantId = tenantId ∧ r.2.isDefault = true

def getProfileOr404 (profileId : ℕ) : Except StorageProfileError StorageProfileRow :=
  orRaise (getStorageProfile tenantId s profileId) .notFound

variable {s} in
/-- What the table checks when a row is written. -/
def flushProfile (profileId : ℕ) (row : StorageProfileRow) : Except StorageProfileError Unit := do
  raiseIf (255 < row.displayName.length) .dataError
  raiseIf (¬ row.Allowed ∨ s.Taken (·.activeEntry) profileId row ∨ s.Taken (·.defaultEntry) profileId row)
    .integrityError

/-- Write a row that is there. -/
def saveProfile (profileId : ℕ) (row : StorageProfileRow) : Except StorageProfileError ProfileTable := do
  flushProfile (s := s) profileId row
  return s.modify profileId fun _ => row

structure StorageProfileCreate where
  mode : MarketingStorageResourceMode
  displayName : String
  status : MarketingStorageProfileStatus
  isDefault : Bool
  maxUploadBytes : Option ℤ
  maxUrlLength : Option ℤ
  allowedMimeTypes : Option (List String)

def createProfile (profileId : ℕ) (a : StorageProfileCreate) : Except StorageProfileError ProfileTable := do
  assertModeStatus a.mode a.status
  raiseIf (a.isDefault = true ∧ a.status ≠ .active) (.validation "default_requires_active")
  let name := strip a.displayName
  raiseIf (name = "") (.validation "display_name_required")
  let upload ← normalizeUploadBytes a.maxUploadBytes
  let urlLength ← normalizeUrlLength a.maxUrlLength
  let mimes ← normalizeMimeList a.allowedMimeTypes
  raiseIf (a.status = .active ∧ (findActiveStorageProfile tenantId s a.mode).isSome) .duplicateActive
  raiseIf (a.isDefault = true ∧ (getDefaultStorageProfile tenantId s).isSome) (.validation "default_already_exists")
  let row : StorageProfileRow := {
    tenantId := tenantId
    mode := a.mode
    status := a.status
    maxUploadBytes := upload
    allowedMimeTypes := some mimes
    isDefault := a.isDefault
    displayName := name
    maxUrlLength := urlLength
    createdByUserId := userId
    updatedByUserId := userId }
  raiseIf ((s.get? profileId).isSome) .integrityError
  flushProfile (s := s) profileId row
  return s.insert profileId row

def activateProfile (profileId : ℕ) : Except StorageProfileError ProfileTable := do
  let row ← getProfileOr404 tenantId s profileId
  assertModeStatus row.mode .active
  if row.status = .active then return s
  raiseIf (∃ r ∈ findActiveStorageProfile tenantId s row.mode, r.1 ≠ profileId) .duplicateActive
  saveProfile s profileId { row with status := .active, updatedByUserId := userId }

def disableProfile (profileId : ℕ) : Except StorageProfileError ProfileTable := do
  let row ← getProfileOr404 tenantId s profileId
  raiseIf (row.isDefault = true) (.validation "cannot_disable_default_profile")
  saveProfile s profileId { row with status := .disabled, updatedByUserId := userId }

/-- The default of the tenant, when it is another profile, is one no more. -/
def demoteDefault (profileId : ℕ) : Except StorageProfileError ProfileTable :=
  match getDefaultStorageProfile tenantId s with
  | none => .ok s
  | some (currentId, current) =>
    if currentId = profileId then .ok s
    else saveProfile s currentId { current with isDefault := false, updatedByUserId := userId }

def setDefaultProfile (profileId : ℕ) : Except StorageProfileError ProfileTable := do
  let row ← getProfileOr404 tenantId s profileId
  raiseIf (row.status ≠ .active) (.validation "default_requires_active")
  assertModeStatus row.mode row.status
  let demoted ← demoteDefault tenantId userId s profileId
  saveProfile demoted profileId { row with isDefault := true, updatedByUserId := userId }

end Service

inductive StorageProfileOp
  | create (tenantId : ℕ) (userId : Option ℕ) (profileId : ℕ) (a : StorageProfileCreate)
  | activate (tenantId : ℕ) (userId : Option ℕ) (profileId : ℕ)
  | disable (tenantId : ℕ) (userId : Option ℕ) (profileId : ℕ)
  | setDefault (tenantId : ℕ) (userId : Option ℕ) (profileId : ℕ)

def execProfile (s : ProfileTable) : StorageProfileOp → Except StorageProfileError ProfileTable
  | .create tenantId userId profileId a => createProfile tenantId userId s profileId a
  | .activate tenantId userId profileId => activateProfile tenantId userId s profileId
  | .disable tenantId userId profileId => disableProfile tenantId userId s profileId
  | .setDefault tenantId userId profileId => setDefaultProfile tenantId userId s profileId

/-! What every call keeps, by the checks of the service alone: those of the table are not
used. -/

/-- A default is active, and no profile is of the reserved mode. -/
structure ProfileSound (row : StorageProfileRow) : Prop where
  default : row.isDefault = true → row.status = .active
  mode : row.mode ≠ .clientBucket

structure ProfilesSound (s : ProfileTable) : Prop where
  rows : ∀ id row, s.get? id = some row → ProfileSound row
  active : s.UniqueOn (·.activeEntry)
  default : s.UniqueOn (·.defaultEntry)

section Kept

variable {s s' : ProfileTable} {tenantId profileId : ℕ} {userId : Option ℕ} {row : StorageProfileRow}

theorem getProfileOr404_ok (h : getProfileOr404 tenantId s profileId = .ok row) :
    s.get? profileId = some row ∧ row.tenantId = tenantId := by
  obtain ⟨hget, htenant⟩ := Option.filter_eq_some_iff.1 (orRaise_eq_ok.1 h)
  exact ⟨hget, of_decide_eq_true htenant⟩

theorem getDefaultStorageProfile_some {r : ℕ × StorageProfileRow} (h : getDefaultStorageProfile tenantId s = some r) :
    s.get? r.1 = some r.2 ∧ r.2.tenantId = tenantId ∧ r.2.isDefault = true := by
  unfold getDefaultStorageProfile at h
  have hfound := List.find?_some h
  exact ⟨Table.mem_rows.1 (List.mem_of_find?_eq_some h), of_decide_eq_true hfound⟩

theorem saveProfile_ok (h : saveProfile s profileId row = .ok s') : s' = s.modify profileId fun _ => row := by
  obtain ⟨-, -, h⟩ := bind_eq_ok.1 h
  exact (pure_eq_ok.1 h).symm

theorem ProfilesSound.insert (hs : ProfilesSound s) (hnew : s.get? profileId = none) (hrow : ProfileSound row)
    (hactive : ¬ s.Taken (·.activeEntry) profileId row) (hdefault : ¬ s.Taken (·.defaultEntry) profileId row) :
    ProfilesSound (s.insert profileId row) := by
  refine ⟨fun id r hr => ?_, hs.active.insert hactive, hs.default.insert hdefault⟩
  rw [Table.get?_insert_new _ _ _ hnew] at hr
  split at hr
  · obtain rfl := Option.some.inj hr
    exact hrow
  · exact hs.rows id r hr

theorem ProfilesSound.modify (hs : ProfilesSound s) (hrow : ProfileSound row)
    (hactive : ¬ s.Taken (·.activeEntry) profileId row) (hdefault : ¬ s.Taken (·.defaultEntry) profileId row) :
    ProfilesSound (s.modify profileId fun _ => row) := by
  refine ⟨fun id r hr => ?_, hs.active.modify fun _ _ => hactive, hs.default.modify fun _ _ => hdefault⟩
  rw [Table.get?_modify] at hr
  split at hr
  · obtain ⟨_, -, rfl⟩ := Option.map_eq_some_iff.1 hr
    exact hrow
  · exact hs.rows id r hr

theorem activeEntry_eq {mode : MarketingStorageResourceMode} :
    row.activeEntry = some (tenantId, mode) ↔ row.tenantId = tenantId ∧ row.mode = mode ∧ row.status = .active := by
  unfold StorageProfileRow.activeEntry
  split <;> simp_all

theorem defaultEntry_eq : row.defaultEntry = some tenantId ↔ row.tenantId = tenantId ∧ row.isDefault = true := by
  unfold StorageProfileRow.defaultEntry
  split <;> simp_all

/-- A profile takes no place among the active ones when the service finds no other of its
mode. -/
theorem ProfilesSound.not_taken_active (hs : ProfilesSound s) (htenant : row.tenantId = tenantId)
    (h : row.status = .active → ∀ r ∈ findActiveStorageProfile tenantId s row.mode, r.1 = profileId) :
    ¬ s.Taken (·.activeEntry) profileId row := by
  have hactive : row.activeEntry ≠ none → row.status = .active := by
    intro hne
    by_contra hinactive
    exact hne (if_neg hinactive)
  refine hs.active.not_taken_of_find? (fun hne r => ?_) fun hne => h (hactive hne)
  have hrow : row.activeEntry = some (tenantId, row.mode) := activeEntry_eq.2 ⟨htenant, rfl, hactive hne⟩
  rw [decide_eq_true_eq, hrow]
  exact activeEntry_eq.symm

/-- No more does a default when it finds no other default. -/
theorem ProfilesSound.not_taken_default (hs : ProfilesSound s) (htenant : row.tenantId = tenantId)
    (h : row.isDefault = true → ∀ r ∈ getDefaultStorageProfile tenantId s, r.1 = profileId) :
    ¬ s.Taken (·.defaultEntry) profileId row := by
  have hdefault : row.defaultEntry ≠ none → row.isDefault = true := by
    intro hne
    by_contra hother
    exact hne (if_neg hother)
  refine hs.default.not_taken_of_find? (fun hne r => ?_) fun hne => h (hdefault hne)
  have hrow : row.defaultEntry = some tenantId := defaultEntry_eq.2 ⟨htenant, hdefault hne⟩
  rw [decide_eq_true_eq, hrow]
  exact defaultEntry_eq.symm

theorem createProfile_sound {a : StorageProfileCreate} (hs : ProfilesSound s)
    (h : createProfile tenantId userId s profileId a = .ok s') : ProfilesSound s' := by
  unfold createProfile at h
  obtain ⟨_, hmode, h⟩ := bind_eq_ok.1 h
  obtain ⟨_, hrequires, h⟩ := bind_eq_ok.1 h
  obtain ⟨-, -, h⟩ := bind_eq_ok.1 h
  obtain ⟨upload, -, h⟩ := bind_eq_ok.1 h
  obtain ⟨urlLength, -, h⟩ := bind_eq_ok.1 h
  obtain ⟨mimes, -, h⟩ := bind_eq_ok.1 h
  obtain ⟨_, hactive, h⟩ := bind_eq_ok.1 h
  obtain ⟨_, hdefault, h⟩ := bind_eq_ok.1 h
  obtain ⟨_, hnew, h⟩ := bind_eq_ok.1 h
  obtain ⟨-, -, h⟩ := bind_eq_ok.1 h
  obtain rfl := pure_eq_ok.1 h
  have hnew := raiseIf_eq_ok.1 hnew
  rw [Bool.not_eq_true, Option.isSome_eq_false_iff, Option.isNone_iff_eq_none] at hnew
  refine hs.insert hnew ⟨fun hisDefault => ?_, raiseIf_eq_ok.1 hmode⟩ ?_ ?_
  · by_contra hinactive
    exact raiseIf_eq_ok.1 hrequires ⟨hisDefault, hinactive⟩
  · refine hs.not_taken_active rfl fun hisActive r hr => ?_
    exact absurd ⟨hisActive, Option.isSome_of_mem hr⟩ (raiseIf_eq_ok.1 hactive)
  · refine hs.not_taken_default rfl fun hisDefault r hr => ?_
    exact absurd ⟨hisDefault, Option.isSome_of_mem hr⟩ (raiseIf_eq_ok.1 hdefault)

theorem activateProfile_sound (hs : ProfilesSound s) (h : activateProfile tenantId userId s profileId = .ok s') :
    ProfilesSound s' := by
  unfold activateProfile at h
  obtain ⟨row, hrow, h⟩ := bind_eq_ok.1 h
  obtain ⟨_, hmode, h⟩ := bind_eq_ok.1 h
  obtain ⟨hget, htenant⟩ := getProfileOr404_ok hrow
  split at h
  · obtain rfl := pure_eq_ok.1 h
    exact hs
  · obtain ⟨_, hfree, h⟩ := bind_eq_ok.1 h
    obtain rfl := saveProfile_ok h
    refine hs.modify ⟨fun _ => rfl, raiseIf_eq_ok.1 hmode⟩ ?_ (hs.default.not_taken hget rfl)
    refine hs.not_taken_active htenant fun _ r hr => ?_
    by_contra hne
    exact raiseIf_eq_ok.1 hfree ⟨r, hr, hne⟩

theorem disableProfile_sound (hs : ProfilesSound s) (h : disableProfile tenantId userId s profileId = .ok s') :
    ProfilesSound s' := by
  unfold disableProfile at h
  obtain ⟨row, hrow, h⟩ := bind_eq_ok.1 h
  obtain ⟨_, hdefault, h⟩ := bind_eq_ok.1 h
  obtain ⟨hget, -⟩ := getProfileOr404_ok hrow
  obtain rfl := saveProfile_ok h
  have hnot := raiseIf_eq_ok.1 hdefault
  refine hs.modify ⟨fun hisDefault => absurd hisDefault hnot, (hs.rows profileId row hget).mode⟩ ?_
    (hs.default.not_taken hget rfl)
  exact fun htaken => htaken.1 rfl

/-- Demoting the default keeps the profiles sound, and leaves no other default. -/
theorem demoteDefault_sound (hs : ProfilesSound s) (h : demoteDefault tenantId userId s profileId = .ok s') :
    ProfilesSound s' ∧ s'.get? profileId = s.get? profileId ∧
      ∀ r ∈ getDefaultStorageProfile tenantId s', r.1 = profileId := by
  unfold demoteDefault at h
  split at h
  · rename_i hnone
    obtain rfl := Except.ok.inj h
    refine ⟨hs, rfl, fun r hr => ?_⟩
    rw [hnone] at hr
    cases hr
  · rename_i currentId current hcurrent
    obtain ⟨hmem, hfound⟩ := getDefaultStorageProfile_some hcurrent
    split at h
    · rename_i hself
      obtain rfl := Except.ok.inj h
      refine ⟨hs, rfl, fun r hr => ?_⟩
      obtain rfl := Option.some.inj (hcurrent.symm.trans hr)
      exact hself
    · rename_i hother
      obtain rfl := saveProfile_ok h
      refine ⟨?_, Table.get?_modify_of_ne _ (Ne.symm hother) _, fun r hr => ?_⟩
      · refine hs.modify ⟨fun hisDefault => ?_, (hs.rows currentId current hmem).mode⟩
          (hs.active.not_taken hmem rfl) fun htaken => htaken.1 rfl
        cases hisDefault
      · -- a default that is left would have been another default before
        exfalso
        obtain ⟨hget, hr'⟩ := getDefaultStorageProfile_some hr
        rw [Table.get?_modify] at hget
        split at hget
        · obtain ⟨_, -, heq⟩ := Option.map_eq_some_iff.1 hget
          rw [← heq] at hr'
          cases hr'.2
        · rename_i hne
          refine hne (hs.default r.1 currentId r.2 current hget hmem ?_ ?_)
          · exact fun hentry => Option.some_ne_none tenantId ((defaultEntry_eq.2 hr').symm.trans hentry)
          · exact (defaultEntry_eq.2 hr').trans (defaultEntry_eq.2 hfound).symm

theorem setDefaultProfile_sound (hs : ProfilesSound s) (h : setDefaultProfile tenantId userId s profileId = .ok s') :
    ProfilesSound s' := by
  unfold setDefaultProfile at h
  obtain ⟨row, hrow, h⟩ := bind_eq_ok.1 h
  obtain ⟨_, hactive, h⟩ := bind_eq_ok.1 h
  obtain ⟨_, hmode, h⟩ := bind_eq_ok.1 h
  obtain ⟨demoted, hdemoted, h⟩ := bind_eq_ok.1 h
  obtain ⟨hget, htenant⟩ := getProfileOr404_ok hrow
  obtain ⟨hsound, hsame, honly⟩ := demoteDefault_sound hs hdemoted
  obtain rfl := saveProfile_ok h
  refine hsound.modify ⟨fun _ => not_not.1 (raiseIf_eq_ok.1 hactive), raiseIf_eq_ok.1 hmode⟩ ?_ ?_
  · exact hsound.active.not_taken (hsame.trans hget) rfl
  · exact hsound.not_taken_default htenant fun _ => honly

theorem execProfile_sound {op : StorageProfileOp} (hs : ProfilesSound s) (h : execProfile s op = .ok s') :
    ProfilesSound s' := by
  cases op with
  | create tenantId userId profileId a => exact createProfile_sound hs h
  | activate tenantId userId profileId => exact activateProfile_sound hs h
  | disable tenantId userId profileId => exact disableProfile_sound hs h
  | setDefault tenantId userId profileId => exact setDefaultProfile_sound hs h

theorem profilesSound_empty : ProfilesSound ∅ := by
  refine ⟨fun id row hget => ?_, Table.uniqueOn_empty, Table.uniqueOn_empty⟩
  cases hget

end Kept

/-- In every state the service can reach, a tenant has one active profile a mode at most
and one default at most, its default is active, and no profile is of the reserved mode. -/
theorem storage_profiles_sound {s : ProfileTable} {ops : List StorageProfileOp}
    (h : Run (CallStep execProfile) ∅ ops s) (tenantId : ℕ) :
    (∀ id id' row row', s.get? id = some row → s.get? id' = some row' → row.tenantId = tenantId →
      row'.tenantId = tenantId → row.status = .active → row'.status = .active → row.mode = row'.mode → id = id') ∧
    (∀ id id' row row', s.get? id = some row → s.get? id' = some row' → row.tenantId = tenantId →
      row'.tenantId = tenantId → row.isDefault = true → row'.isDefault = true → id = id') ∧
    ∀ id row, s.get? id = some row → row.tenantId = tenantId →
      (row.isDefault = true → row.status = .active) ∧ row.mode ≠ .clientBucket := by
  have hs := h.invariant_calls ProfilesSound profilesSound_empty fun _ _ _ => execProfile_sound
  refine ⟨?_, ?_, fun id row hget _ => ⟨(hs.rows id row hget).default, (hs.rows id row hget).mode⟩⟩
  · intro id id' row row' hget hget' htenant htenant' hactive hactive' hmode
    have hentry := activeEntry_eq.2 ⟨htenant, rfl, hactive⟩
    have hentry' := activeEntry_eq.2 ⟨htenant', hmode.symm, hactive'⟩
    exact hs.active id id' row row' hget hget' (fun hnone => by cases hentry.symm.trans hnone) (hentry.trans hentry'.symm)
  · intro id id' row row' hget hget' htenant htenant' hdefault hdefault'
    have hentry := defaultEntry_eq.2 ⟨htenant, hdefault⟩
    have hentry' := defaultEntry_eq.2 ⟨htenant', hdefault'⟩
    exact hs.default id id' row row' hget hget' (fun hnone => by cases hentry.symm.trans hnone)
      (hentry.trans hentry'.symm)

/-! Two modes, and the default that moves from the one to the other. -/

def demoProfile (mode : MarketingStorageResourceMode) (isDefault : Bool) : StorageProfileCreate :=
  ⟨mode, "Media", .active, isDefault, none, some 512, none⟩

def demoProfileOps : List StorageProfileOp :=
  [.create 7 none 1 (demoProfile .flexityManaged true), .create 7 none 2 (demoProfile .clientPublicUrl false),
    .setDefault 7 none 2]

def demoProfiles : ProfileTable := demoProfileOps.foldl (settle execProfile) ∅

theorem storage_profiles_sound_moved : ∃ row, demoProfiles.get? 2 = some row ∧ row.isDefault = true ∧
    row.status = .active := by
  have hrow : (demoProfiles.get? 2).map (fun row => (row.tenantId, row.isDefault)) = some (7, true) := by
    decide
  obtain ⟨row, hget, hvalues⟩ := Option.map_eq_some_iff.1 hrow
  obtain ⟨htenant, hdefault⟩ := Prod.mk.inj hvalues
  obtain ⟨-, -, hrows⟩ := storage_profiles_sound (s := demoProfiles) Run.of_foldl 7
  exact ⟨row, hget, hdefault, (hrows 2 row hget htenant).1 hdefault⟩

end CoreOps.Marketing
