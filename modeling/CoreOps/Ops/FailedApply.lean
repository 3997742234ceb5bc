import CoreOps.Lib.Effects
import CoreOps.Lib.FileSystem
import CoreOps.Lib.FileTree
import CoreOps.Ops.Rollback

/-! What an activation that fails leaves behind: the database is rolled back, and the backup
directory is removed as a whole, with whatever was in it before. -/

namespace CoreOps.Ops

open Checked Text Effects FileTree

abbrev Files := FileTree.Tree (List Char)

/-- The committed database, the session's view of it, and the files. -/
structure Machine where
  committed : State
  session : State
  files : Files

/-- The points at which the database may fail by itself. -/
inductive DbPoint
  | context
  | overlay
  | config
  | audit
  | commit
  | readBack
  deriving DecidableEq, Repr

/-- What the system has a say in: which directories can be made, files written and modes
changed, what a write that breaks off leaves, what withstands a removal, and where the
database fails. -/
structure System where
  mayMake : Place → Bool
  mayWrite : Place → Bool
  mayChmod : Place → Bool
  brokenOff : Place → List Char → Option (List Char)
  survives : Place → Bool
  dbFails : DbPoint → Bool

abbrev Apply := EStateM OpsError Machine

def backupDirMode : ℕ := 0o700

section Steps

variable (sys : System)

/-- A statement of the session, at a point where the database may fail. -/
def statement {α : Type} (point : DbPoint) (x : State → Except OpsError (α × State)) : Apply α := do
  let m ← get
  let (a, s) ← lift (x m.session)
  lift (raiseIf (sys.dbFails point = true) .unexpected)
  modify fun m => { m with session := s }
  return a

def putEntry (at' : Place) (entry : Entry (List Char)) : Apply Unit :=
  modify fun m => { m with files := put m.files at' entry }

/-- The directories that are missing on the way to a place, each made in turn. -/
def makeMissing : Place → List String → Apply Unit
  | _, [] => pure ()
  | at', part :: parts => do
    let m ← get
    match m.files (at' ++ [part]) with
    | some (.dir _) => makeMissing (at' ++ [part]) parts
    | some (.file _) => throw .unexpected
    | none =>
      if sys.mayMake (at' ++ [part]) then do
        putEntry (at' ++ [part]) (.dir backupDirMode)
        makeMissing (at' ++ [part]) parts
      else throw .unexpected

/-- `_secure_mkdir`. -/
def secureMkdir (place : Place) : Apply Unit := do
  let m ← get
  match m.files place with
  | some (.file _) => throw (.opsActivation "Backup path exists and is not a directory")
  | some (.dir _) => if sys.mayChmod place then putEntry place (.dir backupDirMode) else throw .unexpected
  | none => makeMissing sys [] place

/-- A file is written; a write that breaks off leaves a part of it. -/
def writeContent (at' : Place) (content : List Char) : Apply Unit :=
  match sys.brokenOff at' content with
  | none => putEntry at' (.file content)
  | some left => do
    putEntry at' (.file left)
    throw .unexpected

/-- `_secure_write_new_file`. -/
def secureCreateFile (at' : Place) (content : List Char) : Apply Unit := do
  let m ← get
  if (m.files at').isSome then throw (.opsActivation "Backup file already exists")
  else if sys.mayWrite at' then writeContent sys at' content
  else throw .unexpected

variable (env : Environment)

def configPlace (place : Place) : Place := place ++ [industryConfigFile]

def manifestPlace (place : Place) : Place := place ++ [manifestFile]

/-- `write_backup`. -/
def writeBackupFiles (place : Place) (ctx : ResolvedContext) : Apply Unit := do
  secureMkdir sys place
  secureCreateFile sys (configPlace place) (ctx.industryConfig.text pretty)
  secureCreateFile sys (manifestPlace place)
    ((backupManifest env ctx.tenantId ctx.operatorUserId ctx.configHash).text pretty)

/-- `finalize_backup_manifest`. -/
def finalizeManifestFile (place : Place) (configHashAfter : String) : Apply Unit := do
  let m ← get
  match m.files (manifestPlace place) with
  | some (.file content) => do
    let manifest ← lift (orRaise (JsonObject.ofText? content) .unexpected)
    if sys.mayWrite (manifestPlace place) then
      writeContent sys (manifestPlace place)
        ((manifest.set "config_hash_after" (.str configHashAfter) (.str _)).text pretty)
    else throw .unexpected
  | _ => throw (.opsActivation "Backup manifest missing for finalize")

/-- What `run_apply` does before it writes a file. -/
def prepare (args : Args) : Apply (ResolvedContext × Place) := do
  lift (raiseIf (strip args.expectedConfigHash = "")
    (.opsActivation "--expected-config-hash is required for dry-run and apply"))
  lift (raiseIf (args.backupDir = "") (.opsActivation "--backup-dir is required for --apply"))
  let ctx ← statement sys .context fun s => resolveContext s env args
  let backupDir ← lift (env.resolveAndValidateBackupDir args.backupDir)
  return (ctx, (FileSystem.PurePath.parse backupDir).parts)

/-- The body of the `try`, up to the commit. -/
def applyBody (ids : NewIds) (args : Args) (ctx : ResolvedContext) (place : Place) : Apply (Option ℕ) := do
  let block := desiredBlock args ctx
  let merged := mergeLeadAutomationConfig ctx.industryConfig block
  let matched ← lift (leadAutomationBlockMatches ctx.industryConfig block)
  let configurationId ← statement sys .overlay (applyOverlay env ids args ctx)
  statement sys .config fun s => (applyConfig ctx.tenantId merged block (!matched) s).map fun s => ((), s)
  statement sys .audit fun s => .ok ((), s)
  finalizeManifestFile sys place (canonicalJsonHash env merged)
  lift (raiseIf (sys.dbFails .commit = true) .unexpected)
  modify fun m => { m with committed := m.session }
  return configurationId

/-- The handler: roll back, remove the backup directory, raise again. -/
def cleanUp (place : Place) : Apply Unit :=
  modify fun m => { m with session := m.committed, files := removeTree sys.survives m.files place }

def applyOrCleanUp (ids : NewIds) (args : Args) (ctx : ResolvedContext) (place : Place) : Apply (Option ℕ) := do
  match ← attempt (fun _ => true) (applyBody sys env ids args ctx place) with
  | .ok configurationId => return configurationId
  | .error e => do
    cleanUp sys place
    throw e

/-- What the plan shows is read back after the commit. -/
def readBack (configurationId : Option ℕ) : Apply Unit :=
  lift (raiseIf (configurationId.isSome = true ∧ sys.dbFails .readBack = true) .unexpected)

/-- `run_apply`, with what it does to the files. -/
def runApplyOn (ids : NewIds) (args : Args) : Apply Unit := do
  let (ctx, place) ← prepare sys env args
  writeBackupFiles sys env place ctx
  let configurationId ← applyOrCleanUp sys env ids args ctx place
  readBack sys configurationId

end Steps

/-! Where an apply fails, and what it should leave. -/

section Failures

variable (sys : System) (env : Environment) (ids : NewIds) (args : Args)

/-- The parts of an apply that may fail. -/
inductive Point
  | preparing
  | backup
  | applying
  | reading
  deriving DecidableEq, Repr

/-- The apply fails at a point, with the directory of its backup if it has come to one. -/
def FailsAt (m : Machine) (place : Place) (e : OpsError) (m' : Machine) : Point → Prop
  | .preparing => outcome (prepare sys env args) m = (.error e, m')
  | .backup => ∃ ctx m₁, outcome (prepare sys env args) m = (.ok (ctx, place), m₁) ∧
      outcome (writeBackupFiles sys env place ctx) m₁ = (.error e, m')
  | .applying => ∃ ctx m₁ m₂, outcome (prepare sys env args) m = (.ok (ctx, place), m₁) ∧
      outcome (writeBackupFiles sys env place ctx) m₁ = (.ok (), m₂) ∧
      outcome (applyOrCleanUp sys env ids args ctx place) m₂ = (.error e, m')
  | .reading => ∃ ctx m₁ m₂ configurationId m₃, outcome (prepare sys env args) m = (.ok (ctx, place), m₁) ∧
      outcome (writeBackupFiles sys env place ctx) m₁ = (.ok (), m₂) ∧
      outcome (applyOrCleanUp sys env ids args ctx place) m₂ = (.ok configurationId, m₃) ∧
      outcome (readBack sys configurationId) m₃ = (.error e, m')

/-- The database and the files are as they were. -/
def NoTrace (m m' : Machine) : Prop := m'.committed = m.committed ∧ m'.files = m.files

/-- The first directory that is missing cannot be made. -/
def CannotStart (files : Files) : Place → List String → Prop
  | _, [] => False
  | at', part :: parts =>
    match files (at' ++ [part]) with
    | some (.dir _) => CannotStart files (at' ++ [part]) parts
    | some (.file _) => True
    | none => sys.mayMake (at' ++ [part]) = false

/-- The backup is stopped before it has changed anything. -/
def Blocked (files : Files) (place : Place) : Prop :=
  match files place with
  | some (.file _) => True
  | some (.dir mode) => sys.mayChmod place = false ∨
      (mode = backupDirMode ∧ ((files (configPlace place)).isSome = true ∨ sys.mayWrite (configPlace place) = false))
  | none => CannotStart sys files [] place

/-- The removal takes away what the backup has made, and nothing else: the directory is new
in one that was there, or all that was in it withstands the removal. -/
structure RemovesItsOwn (files : Files) (place : Place) : Prop where
  config : sys.survives (configPlace place) = false
  manifest : sys.survives (manifestPlace place) = false
  directory : (files place = none ∧ files place.dropLast ≠ none ∧ sys.survives place = false) ∨
    (files place = some (.dir backupDirMode) ∧ ∀ q, place <+: q → files q ≠ none → sys.survives q = true)

/-- When a failed apply leaves no trace. -/
def Spotless (files : Files) (place : Place) : Point → Prop
  | .preparing => True
  | .backup => Blocked sys files place
  | .applying => RemovesItsOwn sys files place
  | .reading => False

end Failures

/-! What the parts leave. -/

section Parts

variable {sys : System} {env : Environment} {ids : NewIds} {args : Args} {m m' : Machine} {place : Place}

/-- Database and files are these. -/
def As (committed : State) (files : Files) (m : Machine) : Prop := m.committed = committed ∧ m.files = files

theorem keeps_statement {α : Type} {point : DbPoint} {x : State → Except OpsError (α × State)} {s : State} {f : Files} :
    Keeps (As s f) (statement sys point x) :=
  .bind .get fun _ => .bind (.lift _) fun _ => .bind (.lift _) fun _ => .bind (.modify fun _ h => h) fun _ => .pure _

theorem keeps_prepare (sys : System) (env : Environment) (args : Args) {s : State} {f : Files} : Keeps (As s f) (prepare sys env args) :=
  .bind (.lift _) fun _ => .bind (.lift _) fun _ => .bind keeps_statement fun _ => .bind (.lift _) fun _ => .pure _

theorem ensures_and {α : Type} {x : Apply α} {Q Q' : Except OpsError α → Machine → Prop} (h : Ensures x Q m)
    (h' : Ensures x Q' m) : Ensures x (fun r m' => Q r m' ∧ Q' r m') m := ⟨h, h'⟩

theorem exists_outcome {α : Type} {x : Apply α} {r : Except OpsError α} (h : (outcome x m).1 = r) :
    ∃ m', outcome x m = (r, m') := ⟨(outcome x m).2, by rw [← h]⟩

/-- Directories that are missing are made one below the other, until one cannot be made. -/
theorem ensures_makeMissing (sys : System) (at' : Place) (parts : List String) : Ensures (makeMissing sys at' parts) (fun r m' =>
    m'.committed = m.committed ∧ Extends m.files m'.files ∧
    (∀ q, ¬ q <+: at' ++ parts → m'.files q = m.files q) ∧
    ∀ a, r = .ok a → ∀ q, at' <+: q → q ≠ at' → q <+: at' ++ parts → m'.files q ≠ none) m := by
  induction parts generalizing at' m with
  | nil =>
    refine ⟨rfl, .refl _, fun _ _ => rfl, fun _ _ q hle hne hge => absurd ?_ hne⟩
    rw [List.append_nil] at hge
    exact (hle.eq_of_length (le_antisymm hle.length_le hge.length_le)).symm
  | cons part parts ih =>
    have happend : at' ++ part :: parts = (at' ++ [part]) ++ parts := by simp
    -- a place on the way is the next one, or further on
    have hcases : ∀ q, at' <+: q → q ≠ at' → q <+: at' ++ part :: parts → q = at' ++ [part] ∨
        (at' ++ [part] <+: q ∧ q ≠ at' ++ [part]) := by
      rintro q ⟨rest, rfl⟩ hne hge
      rw [List.prefix_append_right_inj] at hge
      cases rest with
      | nil => exact absurd (List.append_nil at') hne
      | cons first rest =>
        obtain ⟨rfl, -⟩ := List.cons_prefix_cons.1 hge
        by_cases hnil : rest = []
        · exact .inl (by rw [hnil])
        · refine .inr ⟨⟨rest, by simp⟩, fun heq => hnil ?_⟩
          simpa using heq
    rw [makeMissing, Ensures, outcome_bind, outcome_get, andThen_ok]
    cases hnext : m.files (at' ++ [part]) with
    | some entry =>
      cases entry with
      | file content => exact ⟨rfl, .refl _, fun _ _ => rfl, fun _ h => (by cases h)⟩
      | dir mode =>
        obtain ⟨hcommitted, hextends, helse, hok⟩ := ih (at' ++ [part]) (m := m)
        rw [happend]
        refine ⟨hcommitted, hextends, helse, fun a hr q hle hne hge => ?_⟩
        rcases hcases q hle hne (happend ▸ hge) with rfl | ⟨hle', hne'⟩
        · rw [hextends _ (by simp [hnext]), hnext]
          exact Option.some_ne_none _
        · exact hok a hr q hle' hne' hge
    | none =>
      dsimp only
      split_ifs with hmake
      · have hput : Extends m.files (put m.files (at' ++ [part]) (.dir backupDirMode)) := extends_put hnext
        rw [outcome_bind, putEntry, outcome_modify, andThen_ok, happend]
        obtain ⟨hcommitted, hextends, helse, hok⟩ := ih (at' ++ [part])
          (m := { m with files := put m.files (at' ++ [part]) (.dir backupDirMode) })
        refine ⟨hcommitted, hput.trans hextends, fun q hq => ?_, fun a hr q hle hne hge => ?_⟩
        · rw [helse q hq]
          exact put_of_ne fun heq => hq (heq ▸ List.prefix_append _ _)
        · rcases hcases q hle hne (happend ▸ hge) with rfl | ⟨hle', hne'⟩
          · rw [hextends _ (by simp)]
            simp
          · exact hok a hr q hle' hne' hge
      · exact ⟨rfl, .refl _, fun _ _ => rfl, fun _ h => (by cases h)⟩

/-- It either cannot start, or leaves a new directory. -/
theorem ensures_makeMissing_start (sys : System) (at' : Place) (parts : List String) (hnone : m.files (at' ++ parts) = none)
    (hat : m.files at' ≠ none) : Ensures (makeMissing sys at' parts) (fun r m' =>
      (CannotStart sys m.files at' parts → (∀ a, r ≠ .ok a) ∧ m'.files = m.files) ∧
      (¬ CannotStart sys m.files at' parts → ∃ q, m.files q = none ∧ m'.files q ≠ none)) m := by
  induction parts generalizing at' with
  | nil => exact absurd (by rwa [List.append_nil] at hnone) hat
  | cons part parts ih =>
    rw [makeMissing, Ensures, outcome_bind, outcome_get, andThen_ok, CannotStart]
    cases hnext : m.files (at' ++ [part]) with
    | some entry =>
      cases entry with
      | file content => exact ⟨fun _ => ⟨fun _ h => (by cases h), rfl⟩, fun hnot => absurd trivial hnot⟩
      | dir mode =>
        refine ih (at' ++ [part]) ?_ (by simp [hnext])
        rwa [List.append_assoc]
    | none =>
      dsimp only
      by_cases hmake : sys.mayMake (at' ++ [part]) = true
      · rw [if_pos hmake, outcome_bind, putEntry, outcome_modify, andThen_ok]
        obtain ⟨-, hextends, -, -⟩ := ensures_makeMissing sys (at' ++ [part]) parts
          (m := { m with files := put m.files (at' ++ [part]) (.dir backupDirMode) })
        refine ⟨fun hcannot => absurd (hmake.symm.trans hcannot) (by decide), fun _ => ⟨at' ++ [part], hnext, ?_⟩⟩
        rw [hextends _ (by simp)]
        simp
      · rw [if_neg hmake]
        exact ⟨fun _ => ⟨fun _ h => (by cases h), rfl⟩, fun hnot => absurd (by simpa using hmake) hnot⟩

theorem configPlace_ne (place : Place) : configPlace place ≠ place := by simp [configPlace]

theorem manifestPlace_ne (place : Place) : manifestPlace place ≠ place := by simp [manifestPlace]

theorem manifestPlace_ne_configPlace (place : Place) : manifestPlace place ≠ configPlace place := by
  simp [manifestPlace, configPlace, manifestFile, industryConfigFile]

/-- A file cannot be created where something is, or where the system does not let it be. -/
def CannotCreate (sys : System) (files : Files) (at' : Place) : Prop :=
  (files at').isSome = true ∨ sys.mayWrite at' = false

theorem ensures_secureCreateFile (at' : Place) (content : List Char) : Ensures (secureCreateFile sys at' content)
    (fun r m' => m'.committed = m.committed ∧
      (CannotCreate sys m.files at' → (∀ a, r ≠ .ok a) ∧ m'.files = m.files) ∧
      (¬ CannotCreate sys m.files at' → m.files at' = none ∧ ∃ left, m'.files = put m.files at' (.file left))) m := by
  rw [secureCreateFile, Ensures, outcome_bind, outcome_get, andThen_ok]
  unfold CannotCreate
  split_ifs with hsome hmay
  · exact ⟨rfl, fun _ => ⟨fun _ h => (by cases h), rfl⟩, fun hnot => absurd (.inl hsome) hnot⟩
  · have hnone : m.files at' = none := Option.not_isSome_iff_eq_none.1 hsome
    have hcan : ¬ ((m.files at').isSome = true ∨ sys.mayWrite at' = false) := by simp [hnone, hmay]
    unfold writeContent
    cases sys.brokenOff at' content with
    | none => exact ⟨rfl, fun hnot => absurd hnot hcan, fun _ => ⟨hnone, content, rfl⟩⟩
    | some left => exact ⟨rfl, fun hnot => absurd hnot hcan, fun _ => ⟨hnone, left, rfl⟩⟩
  · exact ⟨rfl, fun _ => ⟨fun _ h => (by cases h), rfl⟩, fun hnot => absurd (.inr (by simpa using hmay)) hnot⟩

/-- The two files of a backup are new. -/
structure FilesNew (t t' : Files) (place : Place) : Prop where
  config_new : t (configPlace place) = none
  config_there : t' (configPlace place) ≠ none
  manifest_new : t (manifestPlace place) = none
  manifest_there : t' (manifestPlace place) ≠ none
  elsewhere : ∀ q, q ≠ configPlace place → q ≠ manifestPlace place → t' q = t q

/-- The files of a backup, once there is its directory. -/
theorem ensures_createFiles (sys : System) (place : Place) (config manifest : List Char) : Ensures (do
      secureCreateFile sys (configPlace place) config
      secureCreateFile sys (manifestPlace place) manifest) (fun r m' =>
    m'.committed = m.committed ∧
    (CannotCreate sys m.files (configPlace place) → (∀ a, r ≠ .ok a) ∧ m'.files = m.files) ∧
    (¬ CannotCreate sys m.files (configPlace place) →
      m.files (configPlace place) = none ∧ m'.files (configPlace place) ≠ none) ∧
    (∀ q, m.files q ≠ none → m'.files q ≠ none) ∧
    ∀ a, r = .ok a → FilesNew m.files m'.files place) m := by
  refine (ensures_secureCreateFile (configPlace place) config).bind (fun a m₁ h₁ => ?_) fun e m₁ h₁ => ?_
  · obtain ⟨hcommitted, hcannot, hcan⟩ := h₁
    have hcreate : ¬ CannotCreate sys m.files (configPlace place) := fun h => (hcannot h).1 a rfl
    obtain ⟨hnone, left, hfiles⟩ := hcan hcreate
    have hne := manifestPlace_ne_configPlace place
    have hkept : ∀ q, m.files q ≠ none → m₁.files q ≠ none := fun q hq => by
      rw [hfiles, extends_put hnone q hq]
      exact hq
    refine (ensures_secureCreateFile (manifestPlace place) manifest).mono fun r m₂ h₂ => ?_
    obtain ⟨hcommitted₂, hcannot₂, hcan₂⟩ := h₂
    by_cases hcreate₂ : CannotCreate sys m₁.files (manifestPlace place)
    · obtain ⟨herror, hsame⟩ := hcannot₂ hcreate₂
      refine ⟨hcommitted₂.trans hcommitted, fun h => absurd h hcreate, fun _ => ⟨hnone, ?_⟩, fun q hq => ?_,
        fun a hr => absurd hr (herror a)⟩
      · rw [hsame, hfiles]
        simp
      · rw [hsame]
        exact hkept q hq
    · obtain ⟨hnone₂, left₂, hfiles₂⟩ := hcan₂ hcreate₂
      have hconfig : m₂.files (configPlace place) ≠ none := by
        rw [hfiles₂, put_of_ne hne.symm, hfiles]
        simp
      refine ⟨hcommitted₂.trans hcommitted, fun h => absurd h hcreate, fun _ => ⟨hnone, hconfig⟩, fun q hq => ?_,
        fun _ _ => ⟨hnone, hconfig, ?_, ?_, fun q hq hq' => ?_⟩⟩
      · rw [hfiles₂, extends_put hnone₂ q (hkept q hq)]
        exact hkept q hq
      · rwa [hfiles, put_of_ne hne] at hnone₂
      · rw [hfiles₂]
        simp
      · rw [hfiles₂, put_of_ne hq', hfiles, put_of_ne hq]
  · obtain ⟨hcommitted, hcannot, hcan⟩ := h₁
    by_cases hcreate : CannotCreate sys m.files (configPlace place)
    · obtain ⟨-, hsame⟩ := hcannot hcreate
      exact ⟨hcommitted, fun _ => ⟨nofun, hsame⟩, fun h => absurd hcreate h, fun q hq => hsame ▸ hq, nofun⟩
    · obtain ⟨hnone, left, hfiles⟩ := hcan hcreate
      refine ⟨hcommitted, fun h => absurd h hcreate, fun _ => ⟨hnone, ?_⟩, fun q hq => ?_, nofun⟩
      · rw [hfiles]
        simp
      · rw [hfiles, extends_put hnone q hq]
        exact hq

/-- What a backup that is written makes of the files: its directory, new or with the mode of
a backup, and two new files. -/
structure BackedUp (t t' : Files) (place : Place) : Prop where
  config_new : t (configPlace place) = none
  config_there : t' (configPlace place) ≠ none
  manifest_new : t (manifestPlace place) = none
  manifest_there : t' (manifestPlace place) ≠ none
  directory : (t place = none ∧ (∀ q, q <+: place → q ≠ [] → t' q ≠ none) ∧ (∀ q, t q ≠ none → t' q = t q) ∧
      ∀ q, ¬ q <+: place → q ≠ configPlace place → q ≠ manifestPlace place → t' q = t q) ∨
    (isDirAt t place ∧ t' place = some (.dir backupDirMode) ∧
      ∀ q, q ≠ place → q ≠ configPlace place → q ≠ manifestPlace place → t' q = t q)

theorem ensures_writeBackupFiles (sys : System) (env : Environment) (place : Place) (ctx : ResolvedContext) (hclosed : Closed m.files) :
    Ensures (writeBackupFiles sys env place ctx) (fun r m' => m'.committed = m.committed ∧
      (∀ e, r = .error e → (m'.files = m.files ↔ Blocked sys m.files place)) ∧
      ∀ a, r = .ok a → BackedUp m.files m'.files place) m := by
  have hrest := fun m₁ : Machine => ensures_createFiles sys place (ctx.industryConfig.text pretty)
    ((backupManifest env ctx.tenantId ctx.operatorUserId ctx.configHash).text pretty) (m := m₁)
  unfold writeBackupFiles secureMkdir Blocked
  rw [bind_assoc]
  refine ensures_bind_of_ok outcome_get ?_
  cases hplace : m.files place with
  | some entry =>
    cases entry with
    | file content => exact ⟨rfl, fun _ _ => iff_of_true rfl trivial, nofun⟩
    | dir mode =>
      dsimp only
      by_cases hchmod : sys.mayChmod place = true
      · rw [if_pos hchmod]
        refine ensures_bind_of_ok (outcome_modify _) ((hrest _).mono fun r m' h => ?_)
        obtain ⟨hcommitted, hcannot, hcan, hkept, hok⟩ := h
        dsimp only at hcannot hcan hok
        have hconfig : put m.files place (.dir backupDirMode) (configPlace place) = m.files (configPlace place) :=
          put_of_ne (configPlace_ne place)
        refine ⟨hcommitted, fun e hr => ?_, fun a hr => ?_⟩
        · by_cases hcreate : CannotCreate sys (put m.files place (.dir backupDirMode)) (configPlace place)
          · obtain ⟨-, hfiles⟩ := hcannot hcreate
            rw [hfiles]
            have hsame : put m.files place (.dir backupDirMode) = m.files ↔ mode = backupDirMode := by
              rw [put, Function.update_eq_self_iff, hplace]
              simp [eq_comm]
            rw [CannotCreate, hconfig] at hcreate
            simp [hsame, hchmod, hcreate]
          · obtain ⟨hnone, hthere⟩ := hcan hcreate
            rw [hconfig] at hnone
            rw [CannotCreate, hconfig] at hcreate
            refine iff_of_false (fun heq => hthere (heq ▸ hnone)) ?_
            simp [hchmod, hcreate]
        · obtain ⟨hc, hc', hm, hm', helse⟩ := hok a hr
          refine ⟨hconfig ▸ hc, hc', ?_, hm', .inr ⟨⟨mode, hplace⟩, ?_, fun q h₁ h₂ h₃ => ?_⟩⟩
          · rwa [put_of_ne (manifestPlace_ne place)] at hm
          · rw [helse place (configPlace_ne place).symm (manifestPlace_ne place).symm]
            exact put_self _
          · rw [helse q h₂ h₃]
            exact put_of_ne h₁
      · rw [if_neg hchmod]
        exact ⟨rfl, fun _ _ => iff_of_true rfl (.inl (by simpa using hchmod)), nofun⟩
  | none =>
    dsimp only
    have hroot : m.files [] ≠ none := by
      obtain ⟨mode, hmode⟩ := hclosed.root
      rw [hmode]
      exact nofun
    refine (ensures_and (ensures_makeMissing sys [] place) (ensures_makeMissing_start sys [] place hplace hroot)).bind
      (fun a m₁ h₁ => ?_) fun e m₁ h₁ => ?_
    · obtain ⟨⟨hcommitted, hextends, helse, hok⟩, hcannot, hcan⟩ := h₁
      have hstart : ¬ CannotStart sys m.files [] place := fun h => (hcannot h).1 a rfl
      obtain ⟨q, hq, hq'⟩ := hcan hstart
      refine (hrest m₁).mono fun r m' h => ?_
      obtain ⟨hcommitted', -, -, hkept, hfiles⟩ := h
      refine ⟨hcommitted'.trans hcommitted, fun e _ => iff_of_false (fun heq => hkept q hq' (heq ▸ hq)) hstart,
        fun b hr => ?_⟩
      obtain ⟨hc, hc', hm, hm', helse'⟩ := hfiles b hr
      have hnew : ∀ q, m₁.files q = none → m.files q = none := fun q hq => by
        by_contra hsome
        exact hsome ((hextends q hsome).symm.trans hq)
      refine ⟨hnew _ hc, hc', hnew _ hm, hm', .inl ⟨hplace, fun q hle hne => hkept q (hok a rfl q List.nil_prefix hne hle),
        fun q hq => ?_, fun q hle h₁ h₂ => (helse' q h₁ h₂).trans (helse q hle)⟩⟩
      have hsome : m₁.files q ≠ none := by rwa [hextends q hq]
      rw [helse' q (fun heq => hsome (heq ▸ hc)) fun heq => hsome (heq ▸ hm), hextends q hq]
    · obtain ⟨⟨hcommitted, hextends, -, -⟩, hcannot, hcan⟩ := h₁
      refine ⟨hcommitted, fun e _ => ?_, nofun⟩
      by_cases hstart : CannotStart sys m.files [] place
      · exact iff_of_true (hcannot hstart).2 hstart
      · obtain ⟨q, hq, hq'⟩ := hcan hstart
        exact iff_of_false (fun heq => hq' (heq ▸ hq)) hstart

/-- Until the commit, only the manifest is written. -/
def Manifested (m₀ : Machine) (place : Place) (m : Machine) : Prop :=
  m.committed = m₀.committed ∧ (∀ q, q ≠ manifestPlace place → m.files q = m₀.files q) ∧
    (m₀.files (manifestPlace place) ≠ none → m.files (manifestPlace place) ≠ none)

theorem keeps_finalizeManifestFile {m₀ : Machine} {hash : String} :
    Keeps (Manifested m₀ place) (finalizeManifestFile sys place hash) := by
  have hput : ∀ content, Keeps (Manifested m₀ place) (putEntry (manifestPlace place) (.file content)) := fun content =>
    .modify fun m ⟨hcommitted, helse, _⟩ =>
      ⟨hcommitted, fun q hq => (put_of_ne hq).trans (helse q hq), fun _ => by simp⟩
  refine .bind .get fun m => ?_
  split
  · refine .bind (.lift _) fun manifest => ?_
    split
    · unfold writeContent
      split
      · exact hput _
      · exact .bind (hput _) fun _ => .lift (.error _)
    · exact .lift (.error _)
  · exact .lift (.error _)

theorem keeps_statement_manifested {α : Type} {point : DbPoint} {x : State → Except OpsError (α × State)} {m₀ : Machine} :
    Keeps (Manifested m₀ place) (statement sys point x) :=
  .bind .get fun _ => .bind (.lift _) fun _ => .bind (.lift _) fun _ => .bind (.modify fun _ h => h) fun _ => .pure _

/-- The body writes no file but the manifest, and commits nothing if it raises. -/
theorem ensures_applyBody (ctx : ResolvedContext) : Ensures (applyBody sys env ids args ctx place) (fun r m' =>
    (∀ q, q ≠ manifestPlace place → m'.files q = m.files q) ∧
    (m.files (manifestPlace place) ≠ none → m'.files (manifestPlace place) ≠ none) ∧
    ∀ e, r = .error e → m'.committed = m.committed) m := by
  have hstart : Manifested m place m := ⟨rfl, fun _ _ => rfl, fun h => h⟩
  have herror : ∀ (e : OpsError) m', Manifested m place m' → (∀ q, q ≠ manifestPlace place → m'.files q = m.files q) ∧
      (m.files (manifestPlace place) ≠ none → m'.files (manifestPlace place) ≠ none) ∧
      ∀ e', (.error e : Except OpsError (Option ℕ)) = .error e' → m'.committed = m.committed :=
    fun _ _ h => ⟨h.2.1, h.2.2, fun _ _ => h.1⟩
  refine (Keeps.lift _).ensures_bind hstart (fun _ _ h => ?_) herror
  refine keeps_statement_manifested.ensures_bind h (fun _ _ h => ?_) herror
  refine keeps_statement_manifested.ensures_bind h (fun _ _ h => ?_) herror
  refine keeps_statement_manifested.ensures_bind h (fun _ _ h => ?_) herror
  refine keeps_finalizeManifestFile.ensures_bind h (fun _ _ h => ?_) herror
  refine (Keeps.lift _).ensures_bind h (fun _ _ h => ?_) herror
  exact ⟨h.2.1, h.2.2, nofun⟩

/-- A body that raises is cleaned up after. -/
theorem ensures_applyOrCleanUp (sys : System) (env : Environment) (ids : NewIds) (args : Args) (place : Place)
    (ctx : ResolvedContext) :
    Ensures (applyOrCleanUp sys env ids args ctx place) (fun r m' =>
      (∀ a, r = .ok a → ∀ q, q ≠ manifestPlace place → m'.files q = m.files q) ∧
      ∀ e, r = .error e → m'.committed = m.committed ∧ ∃ files : Files,
        (∀ q, q ≠ manifestPlace place → files q = m.files q) ∧
        (m.files (manifestPlace place) ≠ none → files (manifestPlace place) ≠ none) ∧
        m'.files = removeTree sys.survives files place) m := by
  have hattempt : Ensures (attempt (fun _ => true) (applyBody sys env ids args ctx place)) (fun r m' =>
      (∀ a, r = .ok (.ok a) → ∀ q, q ≠ manifestPlace place → m'.files q = m.files q) ∧ (∀ e, r ≠ .error e) ∧
      ∀ e, r = .ok (.error e) → Manifested m place m') m := by
    refine (ensures_applyBody ctx).attempt ?_ ?_ ?_
    · intro a m' h
      exact ⟨fun _ _ => h.1, fun _ => nofun, fun _ => nofun⟩
    · intro e m' _ h
      exact ⟨fun _ => nofun, fun _ => nofun, fun _ _ => ⟨h.2.2 e rfl, h.1, h.2.1⟩⟩
    · intro e m' hfalse _
      cases hfalse
  refine hattempt.bind (fun r m₁ h => ?_) fun e _ h => absurd rfl (h.2.1 e)
  obtain ⟨hok, -, herror⟩ := h
  cases r with
  | ok a => exact ⟨fun _ _ => hok a rfl, fun _ => nofun⟩
  | error e =>
    obtain ⟨hcommitted, helse, hmanifest⟩ := herror e rfl
    exact ⟨fun _ => nofun, fun _ _ => ⟨hcommitted, m₁.files, helse, hmanifest, rfl⟩⟩

/-- The removal brings the files back exactly when it takes away what the backup has made. -/
theorem removeTree_eq_iff {t t₂ g : Files} (hclosed : Closed t) (hb : BackedUp t t₂ place)
    (helse : ∀ q, q ≠ manifestPlace place → g q = t₂ q) (hmanifest : g (manifestPlace place) ≠ none) :
    removeTree sys.survives g place = t ↔ RemovesItsOwn sys t place := by
  have hroot : t [] ≠ none := by
    obtain ⟨mode, hmode⟩ := hclosed.root
    rw [hmode]
    exact nofun
  have hcfg : place <+: configPlace place := List.prefix_append _ _
  have hman : place <+: manifestPlace place := List.prefix_append _ _
  have hgcfg : g (configPlace place) = t₂ (configPlace place) := helse _ (manifestPlace_ne_configPlace place).symm
  have hgplace : g place = t₂ place := helse _ (manifestPlace_ne place).symm
  constructor
  · intro heq
    have hgone : ∀ q, place <+: q → t q = none → g q ≠ none → sys.survives q = false := by
      intro q hq hnone hsome
      by_contra hsurvives
      have hat := congrFun heq q
      rw [removeTree, if_neg fun h => hsurvives h.2, hnone] at hat
      exact hsome hat
    refine ⟨hgone _ hcfg hb.config_new (hgcfg ▸ hb.config_there), hgone _ hman hb.manifest_new hmanifest, ?_⟩
    rcases hb.directory with ⟨hnone, hprefix, -, -⟩ | ⟨⟨mode, hmode⟩, hdir, -⟩
    · have hne : place ≠ [] := fun h => hroot (h ▸ hnone)
      refine .inl ⟨hnone, fun hparent => ?_, hgone place List.prefix_rfl hnone ?_⟩
      · have hlength : place.dropLast.length < place.length := by
          rw [List.length_dropLast]
          exact Nat.sub_lt (List.length_pos_iff.2 hne) Nat.one_pos
        have hat := congrFun heq place.dropLast
        rw [removeTree, if_neg fun h => absurd h.1.length_le (by omega), hparent, helse _ ?_] at hat
        · exact hprefix _ (List.dropLast_prefix place) (fun h => hroot (h ▸ hparent)) hat
        · intro h
          have hle := hman.length_le
          rw [← h] at hle
          omega
      · rw [hgplace]
        exact hprefix place List.prefix_rfl hne
    · have hsurvives : ∀ q, place <+: q → t q ≠ none → sys.survives q = true := by
        intro q hq hsome
        by_contra hnot
        have hat := congrFun heq q
        rw [removeTree, if_pos ⟨hq, by simpa using hnot⟩] at hat
        exact hsome hat.symm
      have hat := congrFun heq place
      rw [removeTree, if_neg fun h => absurd (hsurvives place List.prefix_rfl (by rw [hmode]; exact nofun)) (by simp [h.2]),
        hgplace, hdir] at hat
      exact .inr ⟨hat.symm, hsurvives⟩
  · rintro ⟨hconfig, hmanifest', hdirectory⟩
    funext q
    have hnot : ∀ q, sys.survives q = true → q ≠ configPlace place ∧ q ≠ manifestPlace place := by
      rintro q hq
      constructor
      · rintro rfl
        exact absurd (hq.symm.trans hconfig) nofun
      · rintro rfl
        exact absurd (hq.symm.trans hmanifest') nofun
    have hoff : ¬ place <+: q → q ≠ place ∧ q ≠ configPlace place ∧ q ≠ manifestPlace place := fun h =>
      ⟨fun heq => h (heq ▸ List.prefix_rfl), fun heq => h (heq ▸ hcfg), fun heq => h (heq ▸ hman)⟩
    unfold removeTree
    rcases hdirectory with ⟨hnone, hparent, hplace⟩ | ⟨hdir, hall⟩
    · rcases hb.directory with ⟨-, -, hextends, hnew⟩ | ⟨⟨mode, hmode⟩, -, -⟩
      · by_cases hq : place <+: q
        · rw [hclosed.below hnone hq]
          split_ifs with hsurvives
          · rfl
          · have hsurvives' : sys.survives q = true := by simpa [hq] using hsurvives
            obtain ⟨h₁, h₂⟩ := hnot q hsurvives'
            have hprefix : ¬ q <+: place := fun h => by
              rw [h.eq_of_length (le_antisymm h.length_le hq.length_le), hplace] at hsurvives'
              cases hsurvives'
            rw [helse q h₂, hnew q hprefix h₁ h₂]
            exact hclosed.below hnone hq
        · obtain ⟨h₀, h₁, h₂⟩ := hoff hq
          rw [if_neg fun h => hq h.1, helse q h₂]
          by_cases hprefix : q <+: place
          · refine hextends q ?_
            obtain ⟨rest, hrest⟩ := hprefix
            have hne : rest ≠ [] := fun h => h₀ (by rw [← hrest, h, List.append_nil])
            have hdrop : place.dropLast = q ++ rest.dropLast := by rw [← hrest, List.dropLast_append_of_ne_nil hne]
            by_cases hlast : rest.dropLast = []
            · rwa [hdrop, hlast, List.append_nil] at hparent
            · obtain ⟨mode, hmode⟩ := hclosed.above hlast (hdrop ▸ hparent)
              rw [hmode]
              exact nofun
          · exact hnew q hprefix h₁ h₂
      · rw [hnone] at hmode
        cases hmode
    · rcases hb.directory with ⟨hnone, -, -, -⟩ | ⟨-, hdir', hold⟩
      · rw [hnone] at hdir
        cases hdir
      · split_ifs with h
        · by_contra hsome
          rw [hall q h.1 (Ne.symm hsome)] at h
          exact absurd h.2 nofun
        · have hne : q ≠ configPlace place ∧ q ≠ manifestPlace place := by
            by_cases hq : place <+: q
            · exact hnot q (by simpa [hq] using h)
            · exact (hoff hq).2
          rw [helse q hne.2]
          by_cases hq : q = place
          · rw [hq, hdir', hdir]
          · exact hold q hq hne.1 hne.2

end Parts

/-! The failed apply. -/

section Traces

variable {sys : System} {env : Environment} {ids : NewIds} {args : Args} {m m' : Machine} {place : Place} {e : OpsError}

/-- An apply that fails, fails in one of its parts. -/
theorem exists_failsAt (h : outcome (runApplyOn sys env ids args) m = (.error e, m')) :
    ∃ place point, FailsAt sys env ids args m place e m' point := by
  unfold runApplyOn at h
  rw [outcome_bind] at h
  cases hprepare : outcome (prepare sys env args) m with
  | mk r m₁ =>
    rw [hprepare] at h
    cases r with
    | error e₁ =>
      rw [andThen_error] at h
      cases h
      exact ⟨[], .preparing, hprepare⟩
    | ok found =>
      obtain ⟨ctx, place⟩ := found
      rw [andThen_ok, outcome_bind] at h
      cases hbackup : outcome (writeBackupFiles sys env place ctx) m₁ with
      | mk r m₂ =>
        rw [hbackup] at h
        cases r with
        | error e₁ =>
          rw [andThen_error] at h
          cases h
          exact ⟨place, .backup, ctx, m₁, hprepare, hbackup⟩
        | ok u =>
          rw [andThen_ok, outcome_bind] at h
          cases happly : outcome (applyOrCleanUp sys env ids args ctx place) m₂ with
          | mk r m₃ =>
            rw [happly] at h
            cases r with
            | error e₁ =>
              rw [andThen_error] at h
              cases h
              exact ⟨place, .applying, ctx, m₁, m₂, hprepare, hbackup, happly⟩
            | ok configurationId =>
              rw [andThen_ok] at h
              exact ⟨place, .reading, ctx, m₁, m₂, configurationId, m₃, hprepare, hbackup, happly, h⟩

/-- What a failure leaves, by the part it strikes. -/
theorem noTrace_iff {point : Point} (hclosed : Closed m.files) (h : FailsAt sys env ids args m place e m' point) :
    (point ≠ .reading → m'.committed = m.committed) ∧ (NoTrace m m' ↔ Spotless sys m.files place point) := by
  have hprepare := keeps_prepare sys env args m ⟨rfl, rfl⟩
  unfold Ensures at hprepare
  cases point with
  | preparing =>
    rw [FailsAt] at h
    rw [h] at hprepare
    exact ⟨fun _ => hprepare.1, iff_of_true hprepare trivial⟩
  | backup =>
    obtain ⟨ctx, m₁, hfound, hbackup⟩ := h
    rw [hfound] at hprepare
    obtain ⟨hcommitted, hfiles⟩ := hprepare
    have hpost := ensures_writeBackupFiles sys env place ctx (hfiles ▸ hclosed)
    rw [Ensures, hbackup] at hpost
    obtain ⟨hcommitted', hiff, -⟩ := hpost
    have hsame := hiff e rfl
    rw [hfiles] at hsame
    exact ⟨fun _ => hcommitted'.trans hcommitted, (and_iff_right (hcommitted'.trans hcommitted)).trans hsame⟩
  | applying =>
    obtain ⟨ctx, m₁, m₂, hfound, hbackup, happly⟩ := h
    rw [hfound] at hprepare
    obtain ⟨hcommitted, hfiles⟩ := hprepare
    have hpost := ensures_writeBackupFiles sys env place ctx (hfiles ▸ hclosed)
    rw [Ensures, hbackup] at hpost
    obtain ⟨hcommitted', -, hbacked⟩ := hpost
    have hpost := ensures_applyOrCleanUp sys env ids args place ctx (m := m₂)
    rw [Ensures, happly] at hpost
    obtain ⟨hcommitted'', files, helse, hmanifest, hremoved⟩ := hpost.2 e rfl
    have hb := hbacked () rfl
    rw [hfiles] at hb
    have hdb := hcommitted''.trans (hcommitted'.trans hcommitted)
    refine ⟨fun _ => hdb, (and_iff_right hdb).trans ?_⟩
    rw [hremoved]
    exact removeTree_eq_iff hclosed hb helse (hmanifest hb.manifest_there)
  | reading =>
    obtain ⟨ctx, m₁, m₂, configurationId, m₃, hfound, hbackup, happly, hread⟩ := h
    rw [hfound] at hprepare
    have hpost := ensures_writeBackupFiles sys env place ctx (hprepare.2 ▸ hclosed)
    rw [Ensures, hbackup] at hpost
    have hb := hpost.2.2 () rfl
    rw [hprepare.2] at hb
    have hpost := ensures_applyOrCleanUp sys env ids args place ctx (m := m₂)
    rw [Ensures, happly] at hpost
    have hconfig := hpost.1 _ rfl (configPlace place) (manifestPlace_ne_configPlace place).symm
    rw [readBack, outcome_lift] at hread
    obtain ⟨-, rfl⟩ := Prod.mk.inj hread
    refine ⟨fun hne => absurd rfl hne, iff_of_false (fun hsame => hb.config_there ?_) id⟩
    rw [← hconfig, hsame.2, hb.config_new]

/-- An apply that fails leaves the committed database alone until the commit; and it leaves
no trace exactly when it is stopped before it has changed a file, or when the removal of the
backup directory takes away what the backup has made and nothing else. -/
theorem failed_apply_leaves_no_trace_iff (hclosed : Closed m.files)
    (h : outcome (runApplyOn sys env ids args) m = (.error e, m')) :
    ∃ place point, FailsAt sys env ids args m place e m' point ∧ (point ≠ .reading → m'.committed = m.committed) ∧
      (NoTrace m m' ↔ Spotless sys m.files place point) := by
  obtain ⟨place, point, hfails⟩ := exists_failsAt h
  exact ⟨place, point, hfails, noTrace_iff hclosed hfails⟩

end Traces

section Examples

/-- The system lets everything be done, and the database fails in the overlay's part. -/
def failingOverlay : System where
  mayMake _ := true
  mayWrite _ := true
  mayChmod _ := true
  brokenOff _ _ := none
  survives _ := false
  dbFails point := point = .overlay

def configOnlyArgs : Args := { applyArgs with skipOverlay := true }

/-- A tree of directories that are listed, with a file that another run has left. -/
def filesOf (directories : List Place) (left : List Place) : Files := fun q =>
  if q ∈ directories then some (.dir backupDirMode) else if q ∈ left then some (.file "notes".toList) else none

def machineOf (files : Files) : Machine := ⟨activeTenant [], activeTenant [], files⟩

/-- The directory of the backups is there, with a file of another run. -/
def sharedDirectory : Machine := machineOf (filesOf [[], ["tmp"], ["tmp", "backup"]] [["tmp", "backup", "notes.txt"]])

/-- The failed apply takes the other run's file and the directory away. -/
theorem other_files_removed : ∃ e m', outcome (runApplyOn failingOverlay exampleEnvironment exampleIds configOnlyArgs)
      sharedDirectory = (.error e, m') ∧
    sharedDirectory.files ["tmp", "backup", "notes.txt"] = some (.file "notes".toList) ∧
    m'.files ["tmp", "backup", "notes.txt"] = none ∧ m'.files ["tmp", "backup"] = none ∧ ¬ NoTrace sharedDirectory m' := by
  have hview : (fun r : Except OpsError Unit × Machine => (r.1, r.2.files ["tmp", "backup", "notes.txt"],
      r.2.files ["tmp", "backup"])) (outcome (runApplyOn failingOverlay exampleEnvironment exampleIds configOnlyArgs)
        sharedDirectory) = (.error .unexpected, none, none) := by
    decide
  have hleft : sharedDirectory.files ["tmp", "backup", "notes.txt"] = some (.file "notes".toList) := by decide
  generalize outcome (runApplyOn failingOverlay exampleEnvironment exampleIds configOnlyArgs) sharedDirectory = r at hview ⊢
  obtain ⟨r, m'⟩ := r
  obtain ⟨rfl, hfile, hdirectory⟩ : r = .error .unexpected ∧ m'.files ["tmp", "backup", "notes.txt"] = none ∧
      m'.files ["tmp", "backup"] = none := by simpa using hview
  refine ⟨_, m', rfl, hleft, hfile, hdirectory, fun hsame => ?_⟩
  rw [hsame.2, hleft] at hfile
  cases hfile

/-- No backup has been written yet. -/
def newDirectory : Machine := machineOf (filesOf [[], ["tmp"]] [])

theorem newDirectory_closed : Closed newDirectory.files := by
  refine ⟨⟨backupDirMode, rfl⟩, fun at' name hsome => ⟨backupDirMode, ?_⟩⟩
  have htmp : at' ++ [name] = ["tmp"] := by
    by_contra hne
    exact hsome (by simp [newDirectory, machineOf, filesOf, hne])
  have hroot : at' = [] := by
    cases at' with
    | nil => rfl
    | cons first rest => simp at htmp
  rw [hroot]
  rfl

/-- The theorem at a failure after a backup in a new directory. -/
theorem failed_apply_leaves_no_trace_iff_new : ∃ e m',
    outcome (runApplyOn failingOverlay exampleEnvironment exampleIds configOnlyArgs) newDirectory = (.error e, m') ∧
      ∃ place point, FailsAt failingOverlay exampleEnvironment exampleIds configOnlyArgs newDirectory place e m' point ∧
        (point ≠ .reading → m'.committed = newDirectory.committed) ∧
        (NoTrace newDirectory m' ↔ Spotless failingOverlay newDirectory.files place point) := by
  have herror : (outcome (runApplyOn failingOverlay exampleEnvironment exampleIds configOnlyArgs) newDirectory).1 =
      .error .unexpected := by
    decide +kernel
  obtain ⟨m', hrun⟩ := exists_outcome herror
  exact ⟨_, m', hrun, failed_apply_leaves_no_trace_iff newDirectory_closed hrun⟩

end Examples

end CoreOps.Ops
