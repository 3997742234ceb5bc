import Mathlib.Data.List.Basic
import Mathlib.Logic.Function.Basic
import CoreOps.Lib.Effects

/-! A file system of directories and files, without links, and the paths that programs name
them by. A place is the list of the names that lead to it from the root; a path is resolved
name by name, and `..` goes up one directory. -/

namespace FileSystem

abbrev Place := List String

/-- A `PurePosixPath`: its root, which is empty for a relative path, and its parts. -/
structure PurePath where
  root : String
  parts : List String
  deriving DecidableEq, Repr

namespace PurePath

/-- Empty parts and `.` are dropped, `..` is not. Two slashes at the start are a root of
their own. -/
def parse (text : String) : PurePath where
  root :=
    match text.toList with
    | '/' :: '/' :: '/' :: _ => "/"
    | '/' :: '/' :: _ => "//"
    | '/' :: _ => "/"
    | _ => ""
  parts := ((text.toList.splitOn '/').map String.ofList).filter fun part => part ≠ "" ∧ part ≠ "."

/-- `path / other`: an absolute path replaces the one before it. -/
def join (path other : PurePath) : PurePath :=
  if other.root = "" then ⟨path.root, path.parts ++ other.parts⟩ else other

/-- `path.relative_to(other)`, part by part. -/
def relativeTo? (path other : PurePath) : Option (List String) :=
  if path.root = other.root ∧ other.parts <+: path.parts then some (path.parts.drop other.parts.length) else none

def hasNul (path : PurePath) : Bool := path.parts.any fun part => '\x00' ∈ part.toList

/-- Where the resolution of a path starts. -/
def start (cwd : Place) (path : PurePath) : Place := if path.root = "" then cwd else []

end PurePath

/-- One name further. -/
def step (at' : Place) (part : String) : Place := if part = ".." then at'.dropLast else at' ++ [part]

/-- The place that parts lead to. -/
def locate (at' : Place) (parts : List String) : Place := parts.foldl step at'

inductive OsError
  | osError
  | valueError
  deriving DecidableEq, Repr

/-- Directories and files, and the places that have been opened for writing, in order. -/
structure Disk (β : Type) where
  isDir : Place → Bool
  file? : Place → Option β
  opened : List Place

/-- What the system has a say in: which directories can be made and which files written, and
what a write that breaks off leaves. -/
structure Os (β : Type) where
  mayMake : Place → Bool
  mayWrite : Place → Bool
  brokenOff : Place → β → Option β

variable {β : Type}

namespace Disk

def addDir (t : Disk β) (at' : Place) : Disk β := { t with isDir := Function.update t.isDir at' true }

def write (t : Disk β) (at' : Place) (content : β) : Disk β :=
  { t with file? := Function.update t.file? at' (some content), opened := t.opened ++ [at'] }

/-- The resolution of a path: every name is looked up in a directory. -/
def walk (t : Disk β) : Place → List String → Option Place
  | at', [] => some at'
  | at', part :: parts => if t.isDir at' then t.walk (step at' part) parts else none

theorem locate_of_walk {t : Disk β} {at' place : Place} {parts : List String} (h : t.walk at' parts = some place) :
    place = locate at' parts := by
  induction parts generalizing at' with
  | nil => exact (Option.some.inj h).symm
  | cons part parts ih =>
    rw [walk] at h
    split_ifs at h
    exact ih h

end Disk

/-- `path.mkdir(parents=True, exist_ok=True)`, from a directory that is there. -/
def makeDirs (os : Os β) : Place → List String → EStateM OsError (Disk β) Place
  | at', [] => pure at'
  | at', part :: parts => do
    let t ← get
    let next := step at' part
    if t.isDir next then makeDirs os next parts
    else if (t.file? next).isSome ∨ os.mayMake next = false then throw .osError
    else do
      modify (·.addDir next)
      makeDirs os next parts

/-- The place that `open(path, "wb")` opens. -/
def openable? (os : Os β) (cwd : Place) (path : PurePath) (t : Disk β) : Except OsError Place := do
  Checked.raiseIf (path.hasNul = true) .valueError
  let place ← Checked.orRaise (t.walk (path.start cwd) path.parts) .osError
  Checked.raiseIf (t.isDir place = true ∨ os.mayWrite place = false) .osError
  return place

/-- `path.write_bytes(content)`. -/
def writeBytes (os : Os β) (cwd : Place) (path : PurePath) (content : β) : EStateM OsError (Disk β) Unit := do
  let t ← get
  let place ← Effects.lift (openable? os cwd path t)
  match os.brokenOff place content with
  | none => modify (·.write place content)
  | some left => do
    modify (·.write place left)
    throw .osError

/-! What the operations leave. -/

section Rules

open Effects

variable {os : Os β} {cwd : Place} {path : PurePath} {content : β} {t : Disk β}

/-- Making directories leaves the files, and ends in the place of the last one. -/
theorem ensures_makeDirs (at' : Place) (parts : List String) : Ensures (makeDirs os at' parts)
    (fun r t' => t'.file? = t.file? ∧ t'.opened = t.opened ∧ ∀ place, r = .ok place → place = locate at' parts) t := by
  induction parts generalizing at' t with
  | nil => exact ⟨rfl, rfl, fun place h => (Except.ok.inj h).symm⟩
  | cons part parts ih =>
    rw [makeDirs, Ensures, outcome_bind, outcome_get, andThen_ok]
    dsimp only
    split_ifs with hdir hfile
    · exact ih _
    · rw [outcome_throw]
      exact ⟨rfl, rfl, fun place h => by cases h⟩
    · rw [outcome_bind, outcome_modify, andThen_ok]
      exact ih (t := t.addDir (step at' part)) _

theorem openable?_eq_ok {place : Place} : openable? os cwd path t = .ok place ↔
    path.hasNul = false ∧ t.walk (path.start cwd) path.parts = some place ∧ t.isDir place = false ∧
      os.mayWrite place = true := by
  simp only [openable?, Checked.bind_eq_ok, Checked.raiseIf_eq_ok, Checked.orRaise_eq_ok, Checked.pure_eq_ok,
    exists_and_left, exists_const, not_or, Bool.not_eq_true, Bool.not_eq_false]
  constructor
  · rintro ⟨hnul, place', hwalk, ⟨hdir, hmay⟩, rfl⟩
    exact ⟨hnul, hwalk, hdir, hmay⟩
  · rintro ⟨hnul, hwalk, hdir, hmay⟩
    exact ⟨hnul, place, hwalk, ⟨hdir, hmay⟩, rfl⟩

theorem place_of_openable? {place : Place} (h : openable? os cwd path t = .ok place) :
    place = locate (path.start cwd) path.parts := Disk.locate_of_walk (openable?_eq_ok.1 h).2.1

/-- A write opens its place if that can be opened, and raises if not; when it answers the
content is there. -/
theorem ensures_writeBytes (os : Os β) (cwd : Place) (path : PurePath) (content : β) (t : Disk β) :
    Ensures (writeBytes os cwd path content) (fun r t' =>
      (∀ place, openable? os cwd path t = .ok place →
        t'.opened = t.opened ++ [place] ∧ (r = .ok () → t'.file? place = some content)) ∧
      ∀ e, openable? os cwd path t = .error e → t'.opened = t.opened ∧ r = .error e) t := by
  rw [writeBytes, Ensures, outcome_bind, outcome_get, andThen_ok, outcome_bind, outcome_lift]
  cases hplace : openable? os cwd path t with
  | error e =>
    refine ⟨fun _ h => (by cases h), fun e' he => ⟨rfl, ?_⟩⟩
    cases he
    rfl
  | ok place =>
    refine ⟨fun place' h => ?_, fun _ h => (by cases h)⟩
    cases h
    rw [andThen_ok]
    split
    · exact ⟨rfl, fun _ => by simp [Disk.write]⟩
    · exact ⟨rfl, fun h => (by cases h)⟩

end Rules

end FileSystem
