import CoreOps.Lib.FileSystem
import CoreOps.Lib.Table
import CoreOps.Lib.UuidText
import CoreOps.References.Model

/-! The upload of a signed document: where the file goes. The name of the file comes from the
client, and it is joined to the directory of the document as it is. -/

namespace CoreOps.Documents

open Checked Effects FileSystem
open References (DocumentStatus)

abbrev Uuid := BitVec 128

inductive DocumentsException
  | conflictError (message : String)
  | notFoundError (message : String)
  | osError
  | valueError
  | databaseError
  deriving DecidableEq, Repr

inductive SignatureStatus
  | pending
  | sent
  | signed
  | rejected
  | cancelled
  deriving DecidableEq, Repr

inductive DocumentFileType
  | generated
  | signed
  | attachment
  deriving DecidableEq, Repr

structure DocumentFile where
  fileType : DocumentFileType
  storagePath : String
  filename : String
  mimeType : String
  sizeBytes : ℕ
  deriving DecidableEq

structure SignatureRequest where
  status : SignatureStatus
  signedAt : Option ℤ
  deriving DecidableEq

structure AuditEntry where
  actorUserId : Uuid
  action : String
  filename : String
  deriving DecidableEq

structure DocumentInstance where
  status : DocumentStatus
  updatedByUserId : Option Uuid
  files : List DocumentFile
  signatureRequests : List SignatureRequest
  auditTrail : List AuditEntry
  deriving DecidableEq

/-- The documents of each tenant, and the file system below them. -/
structure Storage where
  disk : Disk (List UInt8)
  documents : Table (Uuid × Uuid) DocumentInstance

/-- What the process finds: the setting, the working directory, the operating system, and
whether the database takes the rows of a document. -/
structure Environment where
  storagePath : String
  cwd : Place
  os : Os (List UInt8)
  takes : DocumentInstance → Bool

variable (env : Environment)

/-! `storage.py`. -/

def uuidText (id : Uuid) : String := String.ofList (UuidText.text id)

def tenantDocumentsPath (tenantId : Uuid) : PurePath :=
  ((((PurePath.parse env.storagePath).join ⟨"", ["tenants"]⟩).join ⟨"", [uuidText tenantId]⟩).join ⟨"", ["documents"]⟩)

def mkdir (path : PurePath) : EStateM OsError (Disk (List UInt8)) Unit := do
  if path.hasNul then throw .valueError
  let _ ← makeDirs env.os (path.start env.cwd) path.parts

def documentDir (tenantId documentId : Uuid) : EStateM OsError (Disk (List UInt8)) PurePath := do
  let path := tenantDocumentsPath env tenantId
  mkdir env path
  let path := path.join ⟨"", [uuidText documentId]⟩
  mkdir env path
  return path

/-- `str` of a relative path, with slashes only. -/
def relativeText (parts : List String) : String :=
  if parts = [] then "." else (String.intercalate "/" parts).map fun c => if c = '\\' then '/' else c

def saveBinaryFile (tenantId documentId : Uuid) (filename : String) (data : List UInt8) :
    EStateM OsError (Disk (List UInt8)) (String × ℕ) := do
  let dir ← documentDir env tenantId documentId
  let target := dir.join (.parse filename)
  writeBytes env.os env.cwd target data
  let relative ← lift (orRaise (target.relativeTo? (.parse env.storagePath)) .valueError)
  return (relativeText relative, data.length)

/-! The service. -/

def OsError.raised : OsError → DocumentsException
  | .osError => .osError
  | .valueError => .valueError

/-- A program on the files, as part of the service. -/
def onDisk {α : Type} (x : EStateM OsError (Disk (List UInt8)) α) : EStateM DocumentsException Storage α := fun s =>
  match outcome x s.disk with
  | (.ok a, disk) => .ok a { s with disk }
  | (.error e, disk) => .error (OsError.raised e) { s with disk }

def takesSignedFile (status : DocumentStatus) : Bool :=
  status = .sentForSignature ∨ status = .sentForReview ∨ status = .generated

def signRequest (now : ℤ) (request : SignatureRequest) : SignatureRequest :=
  if request.status = .sent then ⟨.signed, some now⟩ else request

/-- The rows of a file that has been saved, and the document signed. They are written at the
end: what an exception interrupts is rolled back. -/
def recordSignedFile (now : ℤ) (tenantId userId documentId : Uuid) (doc : DocumentInstance) (file : DocumentFile) :
    EStateM DocumentsException Storage DocumentInstance := do
  let doc := { doc with files := doc.files ++ [file] }
  lift (raiseIf (env.takes doc = false) .databaseError)
  let doc := {
    doc with
    status := .signed
    updatedByUserId := some userId
    signatureRequests := doc.signatureRequests.map (signRequest now)
    auditTrail := doc.auditTrail ++ [⟨userId, "signed", file.filename⟩] }
  lift (raiseIf (env.takes doc = false) .databaseError)
  modify fun s => { s with documents := s.documents.modify (tenantId, documentId) fun _ => doc }
  return doc

def uploadSignedFile (now : ℤ) (tenantId userId documentId : Uuid) (filename : String) (content : List UInt8)
    (mimeType : String) : EStateM DocumentsException Storage DocumentInstance := do
  let s ← get
  let doc ← lift (orRaise (s.documents.get? (tenantId, documentId)) (.notFoundError "Document not found"))
  lift (raiseIf (takesSignedFile doc.status = false)
    (.conflictError "Document cannot accept signed file in current status"))
  let (storagePath, size) ← onDisk (saveBinaryFile env tenantId documentId filename content)
  recordSignedFile env now tenantId userId documentId doc ⟨.signed, storagePath, filename, mimeType, size⟩

/-- The route; a file without a name is called after its kind. -/
def uploadSignedDocumentFile (now : ℤ) (tenantId userId documentId : Uuid) (filename contentType : Option String)
    (content : List UInt8) : EStateM DocumentsException Storage DocumentInstance :=
  uploadSignedFile env now tenantId userId documentId (Text.orElse filename "signed.pdf") content
    (Text.orElse contentType "application/octet-stream")

/-! Where the bytes go. -/

/-- The place of a path. -/
def placeOf (path : PurePath) : Place := locate (path.start env.cwd) path.parts

def documentPath (tenantId documentId : Uuid) : PurePath :=
  (tenantDocumentsPath env tenantId).join ⟨"", [uuidText documentId]⟩

/-- The path of the file, with the name as the client gave it. -/
def targetPath (tenantId documentId : Uuid) (filename : String) : PurePath :=
  (documentPath env tenantId documentId).join (.parse filename)

/-- Below the directory of the tenant's documents. -/
def InsideDocuments (tenantId : Uuid) (place : Place) : Prop :=
  placeOf env (tenantDocumentsPath env tenantId) <+: place ∧ place ≠ placeOf env (tenantDocumentsPath env tenantId)

instance (tenantId : Uuid) (place : Place) : Decidable (InsideDocuments env tenantId place) :=
  inferInstanceAs (Decidable (_ ∧ _))

/-- The directories can be made, and the system opens the file. -/
def ReachesFile (tenantId documentId : Uuid) (filename : String) (disk : Disk (List UInt8)) : Prop :=
  ∃ dir disk' place, outcome (documentDir env tenantId documentId) disk = (.ok dir, disk') ∧
    openable? env.os env.cwd (targetPath env tenantId documentId filename) disk' = .ok place

/-- The document takes a signed file, and the system opens one. -/
def OpensFile (tenantId documentId : Uuid) (filename : String) (s : Storage) : Prop :=
  (∃ doc, s.documents.get? (tenantId, documentId) = some doc ∧ takesSignedFile doc.status = true) ∧
    ReachesFile env tenantId documentId filename s.disk

/-- The files that have been opened since are all below the tenant's documents, and the
content is there if the call has answered. -/
structure StaysInside (tenantId : Uuid) (content : List UInt8) (s : Storage)
    (result : Except DocumentsException DocumentInstance × Storage) : Prop where
  opened : ∃ places, result.2.disk.opened = s.disk.opened ++ places ∧
    ∀ place ∈ places, InsideDocuments env tenantId place
  written : ∀ doc, result.1 = .ok doc →
    ∃ place, InsideDocuments env tenantId place ∧ result.2.disk.file? place = some content

variable {env} {tenantId documentId : Uuid} {filename : String} {data : List UInt8}

theorem ensures_mkdir (path : PurePath) (disk : Disk (List UInt8)) :
    Ensures (mkdir env path) (fun _ disk' => disk'.opened = disk.opened) disk := by
  unfold mkdir
  split_ifs
  · exact rfl
  · exact (ensures_makeDirs _ _).bind (fun _ _ h => h.2.1) fun _ _ h => h.2.1

theorem ensures_documentDir (env : Environment) (tenantId documentId : Uuid) (disk : Disk (List UInt8)) :
    Ensures (documentDir env tenantId documentId) (fun r disk' => disk'.opened = disk.opened ∧ ∀ dir, r = .ok dir → dir = documentPath env tenantId documentId)
    disk := by
  refine (ensures_mkdir _ disk).bind (fun _ disk₁ h₁ => ?_) fun e _ h => ⟨h, fun dir hdir => by cases hdir⟩
  refine (ensures_mkdir _ disk₁).bind (fun _ disk₂ h₂ => ?_) fun e _ h => ⟨h.trans h₁, fun dir hdir => by cases hdir⟩
  exact ⟨h₂.trans h₁, fun dir hdir => (Except.ok.inj hdir).symm⟩

/-- Once the directories are there the file is reached when it can be opened. -/
theorem reachesFile_iff {disk disk' : Disk (List UInt8)} {dir : PurePath}
    (hdir : outcome (documentDir env tenantId documentId) disk = (.ok dir, disk')) :
    ReachesFile env tenantId documentId filename disk ↔
      ∃ place, openable? env.os env.cwd (targetPath env tenantId documentId filename) disk' = .ok place := by
  constructor
  · rintro ⟨dir', disk'', place, hdir', hplace⟩
    rw [hdir] at hdir'
    obtain ⟨-, rfl⟩ := Prod.mk.inj hdir'
    exact ⟨place, hplace⟩
  · rintro ⟨place, hplace⟩
    exact ⟨dir, disk', place, hdir, hplace⟩

/-- What a place that is reached has been opened for. -/
structure Saved (env : Environment) (tenantId documentId : Uuid) (filename : String) (data : List UInt8)
    (disk disk' : Disk (List UInt8)) (answered : Prop) : Prop where
  reached : ReachesFile env tenantId documentId filename disk →
    disk'.opened = disk.opened ++ [placeOf env (targetPath env tenantId documentId filename)]
  refused : ¬ ReachesFile env tenantId documentId filename disk → disk'.opened = disk.opened
  answers : answered → ReachesFile env tenantId documentId filename disk ∧
    disk'.file? (placeOf env (targetPath env tenantId documentId filename)) = some data

theorem Saved.mono {disk disk' : Disk (List UInt8)} {answered answered' : Prop}
    (h : Saved env tenantId documentId filename data disk disk' answered) (himp : answered' → answered) :
    Saved env tenantId documentId filename data disk disk' answered' :=
  ⟨h.reached, h.refused, fun ha => h.answers (himp ha)⟩

theorem ensures_saveBinaryFile (disk : Disk (List UInt8)) :
    Ensures (saveBinaryFile env tenantId documentId filename data)
      (fun r disk' => Saved env tenantId documentId filename data disk disk' (∃ stored, r = .ok stored)) disk := by
  have hmade := ensures_documentDir env tenantId documentId disk
  unfold Ensures at hmade
  rw [saveBinaryFile]
  cases hdir : outcome (documentDir env tenantId documentId) disk with
  | mk r disk₁ =>
  rw [hdir] at hmade
  cases r with
  | error e =>
    have hnot : ¬ ReachesFile env tenantId documentId filename disk := by
      rintro ⟨dir, disk', place, hdir', -⟩
      rw [hdir] at hdir'
      cases hdir'
    exact ensures_bind_of_error hdir ⟨fun h => absurd h hnot, fun _ => hmade.1, by rintro ⟨stored, h⟩; cases h⟩
  | ok dir =>
    obtain ⟨hopened, hpath⟩ := hmade
    obtain rfl := hpath dir rfl
    have hsaved : ∀ (r : Except OsError Unit) (disk₂ : Disk (List UInt8)),
        ((∀ place, openable? env.os env.cwd (targetPath env tenantId documentId filename) disk₁ = .ok place →
            disk₂.opened = disk₁.opened ++ [place] ∧ (r = .ok () → disk₂.file? place = some data)) ∧
          ∀ e, openable? env.os env.cwd (targetPath env tenantId documentId filename) disk₁ = .error e →
            disk₂.opened = disk₁.opened ∧ r = .error e) →
        Saved env tenantId documentId filename data disk disk₂ (r = .ok ()) := by
      rintro r disk₂ ⟨hok, herror⟩
      cases hplace : openable? env.os env.cwd (targetPath env tenantId documentId filename) disk₁ with
      | ok place =>
        have hreached : ReachesFile env tenantId documentId filename disk := (reachesFile_iff hdir).2 ⟨place, hplace⟩
        have hwritten := hok place hplace
        obtain rfl := place_of_openable? hplace
        exact ⟨fun _ => hopened ▸ hwritten.1, fun hnot => absurd hreached hnot, fun hr => ⟨hreached, hwritten.2 hr⟩⟩
      | error e =>
        have hnot : ¬ ReachesFile env tenantId documentId filename disk := by
          rw [reachesFile_iff hdir]
          rintro ⟨place, hplace'⟩
          rw [hplace] at hplace'
          cases hplace'
        obtain ⟨hsame, rfl⟩ := herror e hplace
        exact ⟨fun h => absurd h hnot, fun _ => hsame.trans hopened, nofun⟩
    refine ensures_bind_of_ok hdir ?_
    refine (ensures_writeBytes env.os env.cwd (targetPath env tenantId documentId filename) data disk₁).bind
      (fun _ disk₂ h => ?_) fun e disk₂ h => ?_
    · -- the path relative to the storage is computed when the file is written already
      rw [Ensures, outcome_bind, outcome_lift]
      have hdone := hsaved (.ok ()) disk₂ h
      generalize orRaise _ _ = relative
      cases relative with
      | ok relative => exact hdone.mono fun _ => rfl
      | error e => exact hdone.mono fun _ => rfl
    · exact (hsaved (.error e) disk₂ h).mono (by rintro ⟨stored, hstored⟩; cases hstored)

theorem ensures_onDisk {α : Type} {x : EStateM OsError (Disk (List UInt8)) α}
    {Q : Except OsError α → Disk (List UInt8) → Prop} {s : Storage} (h : Ensures x Q s.disk) :
    Ensures (onDisk x) (fun r s' => ∃ r', Q r' s'.disk ∧ ∀ a, r = .ok a → r' = .ok a) s := by
  unfold Ensures at h
  unfold Ensures outcome onDisk
  cases hx : outcome x s.disk with
  | mk r disk =>
    rw [hx] at h
    cases r with
    | ok a => exact ⟨.ok a, h, fun a' ha => by cases ha; rfl⟩
    | error e => exact ⟨.error e, h, nofun⟩

/-- The rows do not touch the disk. -/
theorem keeps_recordSignedFile {now : ℤ} {userId : Uuid} {doc : DocumentInstance} {file : DocumentFile}
    (disk : Disk (List UInt8)) :
    Keeps (fun s => s.disk = disk) (recordSignedFile env now tenantId userId documentId doc file) := by
  refine Keeps.bind (Keeps.lift _) fun _ => Keeps.bind (Keeps.lift _) fun _ => ?_
  refine Keeps.bind (Keeps.modify ?_) fun _ => Keeps.pure _
  exact fun _ h => h

/-- A call opens at most the file that it reaches, and answers only when that is written. -/
theorem ensures_uploadSignedFile (env : Environment) (now : ℤ) (tenantId userId documentId : Uuid) (filename : String)
    (data : List UInt8) (mimeType : String) (s : Storage) :
    Ensures (uploadSignedFile env now tenantId userId documentId filename data mimeType)
      (fun r s' =>
        (OpensFile env tenantId documentId filename s → s'.disk.opened =
          s.disk.opened ++ [placeOf env (targetPath env tenantId documentId filename)]) ∧
        (¬ OpensFile env tenantId documentId filename s → s'.disk.opened = s.disk.opened) ∧
        ∀ doc, r = .ok doc → OpensFile env tenantId documentId filename s ∧
          s'.disk.file? (placeOf env (targetPath env tenantId documentId filename)) = some data) s := by
  rw [uploadSignedFile]
  refine ensures_bind_of_ok outcome_get ?_
  cases hdoc : s.documents.get? (tenantId, documentId) with
  | none =>
    have hnot : ¬ OpensFile env tenantId documentId filename s := by
      rintro ⟨⟨doc, hdoc', -⟩, -⟩
      rw [hdoc] at hdoc'
      cases hdoc'
    exact ⟨fun h => absurd h hnot, fun _ => rfl, nofun⟩
  | some doc =>
    refine ensures_bind_of_ok (outcome_lift _) ?_
    cases hstatus : takesSignedFile doc.status with
    | false =>
      have hnot : ¬ OpensFile env tenantId documentId filename s := by
        rintro ⟨⟨doc', hdoc', hstatus'⟩, -⟩
        rw [hdoc] at hdoc'
        obtain rfl := Option.some.inj hdoc'
        rw [hstatus] at hstatus'
        cases hstatus'
      exact ⟨fun h => absurd h hnot, fun _ => rfl, nofun⟩
    | true =>
      have hopens : OpensFile env tenantId documentId filename s ↔
          ReachesFile env tenantId documentId filename s.disk := and_iff_right ⟨doc, hdoc, hstatus⟩
      rw [hopens]
      refine ensures_bind_of_ok (outcome_lift _) ?_
      refine (ensures_onDisk (ensures_saveBinaryFile s.disk)).bind ?_ ?_
      · rintro ⟨storagePath, size⟩ s₁ ⟨r, hsaved, hr⟩
        refine Ensures.mono (keeps_recordSignedFile s₁.disk s₁ rfl) fun r' s' hdisk => ?_
        rw [hdisk]
        exact ⟨hsaved.reached, hsaved.refused, fun _ _ => hsaved.answers ⟨_, hr _ rfl⟩⟩
      · rintro e s₁ ⟨r, hsaved, -⟩
        exact ⟨hsaved.reached, hsaved.refused, nofun⟩

/-! What the claim of the directory comes to. -/

/-- The bytes stay below the tenant's documents exactly when the file is refused, or its name
leads there from the directory of the document. -/
theorem uploadSignedFile_staysInside_iff (env : Environment) (now : ℤ) (tenantId userId documentId : Uuid)
    (filename : String) (content : List UInt8) (mimeType : String) (s : Storage) :
    StaysInside env tenantId content s
        (outcome (uploadSignedFile env now tenantId userId documentId filename content mimeType) s) ↔
      (OpensFile env tenantId documentId filename s →
        InsideDocuments env tenantId (placeOf env (targetPath env tenantId documentId filename))) := by
  obtain ⟨hopens, hrefused, hanswers⟩ := ensures_uploadSignedFile env now tenantId userId documentId filename
    content mimeType s
  constructor
  · intro h hopen
    obtain ⟨places, hplaces, hinside⟩ := h.opened
    rw [hopens hopen] at hplaces
    obtain rfl := List.append_cancel_left hplaces
    exact hinside _ List.mem_cons_self
  · intro h
    constructor
    · by_cases hopen : OpensFile env tenantId documentId filename s
      · refine ⟨_, hopens hopen, fun place hplace => ?_⟩
        rw [List.mem_singleton.1 hplace]
        exact h hopen
      · exact ⟨[], by rw [hrefused hopen, List.append_nil], nofun⟩
    · intro doc hdoc
      obtain ⟨hopen, hwritten⟩ := hanswers doc hdoc
      exact ⟨_, h hopen, hwritten⟩

/-- A document that is to be signed, on a system that refuses nothing. -/
def someEnvironment : Environment :=
  ⟨"./storage", ["app"], ⟨fun _ => true, fun _ => true, fun _ _ => none⟩, fun _ => true⟩

def someStorage : Storage where
  disk := ⟨fun place => place = [] ∨ place = ["app"], fun _ => none, []⟩
  documents := (∅ : Table (Uuid × Uuid) DocumentInstance).insert (1, 2) ⟨.sentForSignature, none, [], [], []⟩

/-- Two parent references lead out of the directory, and the call answers. -/
theorem parents_lead_outside :
    ¬ ∀ env now tenantId userId documentId filename content mimeType s, StaysInside env tenantId content s
      (outcome (uploadSignedFile env now tenantId userId documentId filename content mimeType) s) := by
  intro h
  obtain ⟨places, hplaces, hinside⟩ :=
    (h someEnvironment 0 1 3 2 "../../evil.txt" [104, 105] "application/pdf" someStorage).opened
  have hopened : (outcome (uploadSignedFile someEnvironment 0 1 3 2 "../../evil.txt" [104, 105] "application/pdf")
      someStorage).2.disk.opened = [["app", "storage", "tenants", uuidText 1, "evil.txt"]] := by decide +kernel
  rw [hopened] at hplaces
  rw [show places = _ from hplaces.symm] at hinside
  exact absurd (hinside _ List.mem_cons_self) (by decide)

end CoreOps.Documents
