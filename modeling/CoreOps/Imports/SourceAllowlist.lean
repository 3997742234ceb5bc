import CoreOps.Lib.FileSystem
import CoreOps.Lib.Lines

/-! The guard on the source of a real import. The text that is compared with the allowlist has
its backslashes turned into slashes, the path that is opened has not. -/

namespace CoreOps.Imports.SourceAllowlist

open Checked FileSystem

/-- The characters of `\d`; in ASCII they are the ten digits. -/
structure DecimalTable where
  isDecimal : Char → Bool
  isDecimal_ascii : ∀ c, c.toNat < 128 → (isDecimal c = true ↔ 48 ≤ c.toNat ∧ c.toNat ≤ 57)

inductive AllowlistException
  | allowlistError (message : String)
  | fileNotFoundError (message : String)
  | valueError
  deriving DecidableEq, Repr

def prodRoPrimary : List Char := "/var/www/consult_app/instance/consulting_os.db".toList

def importWorkCopyHead : List Char := "/opt/flexity/import_work/consulting_os_readonly_".toList

/-- `text.replace("\\", "/")`. -/
def slashed (text : List Char) : List Char := text.map fun c => if c = '\\' then '/' else c

/-- `str(path)` of a path that has been resolved. -/
def strOf (place : Place) : List Char := if place = [] then ['/'] else place.flatMap fun part => '/' :: part.toList

/-- Where a path leads; there are no links. -/
def placeOf (cwd : Place) (text : List Char) : Place :=
  let path := PurePath.parse (String.ofList text)
  locate (path.start cwd) path.parts

/-- `Path(db_path).resolve()`. -/
def resolve (cwd : Place) (text : List Char) : Except AllowlistException Place := do
  raiseIf ('\x00' ∈ text) .valueError
  return placeOf cwd text

def normalizeAllowlistPath (cwd : Place) (dbPath : List Char) : Except AllowlistException (List Char) := do
  let text := slashed dbPath
  if text.head? = some '/' then return text
  else
    let place ← resolve cwd dbPath
    return slashed (strOf place)

/-- `IMPORT_WORK_COPY_PATTERN.match`, where a line feed may follow. -/
def matchesCopyPattern (table : DecimalTable) (text : List Char) : Bool :=
  importWorkCopyHead.isPrefixOf text ∧
    (let rest := text.drop importWorkCopyHead.length
     (rest.take 8).length = 8 ∧ (rest.take 8).all table.isDecimal ∧ (rest.drop 8 = ".db".toList ∨ rest.drop 8 = ".db\n".toList))

def pathIsAllowlisted (table : DecimalTable) (cwd : Place) (dbPath : List Char) : Except AllowlistException Bool := do
  let normalized ← normalizeAllowlistPath cwd dbPath
  return normalized = prodRoPrimary ∨ matchesCopyPattern table normalized = true

def pathExists {β : Type} (t : Disk β) (place : Place) : Bool := t.isDir place || (t.file? place).isSome

def assertPathAllowlistedForRealSource {β : Type} (table : DecimalTable) (cwd : Place) (t : Disk β) (dbPath : List Char) :
    Except AllowlistException Place := do
  let normalized ← normalizeAllowlistPath cwd dbPath
  let allowlisted ← pathIsAllowlisted table cwd normalized
  raiseIf (allowlisted = false) (.allowlistError ("Source path is not on the Gate B allowlist. " ++
    "Approved: /var/www/consult_app/instance/consulting_os.db " ++
    "or /opt/flexity/import_work/consulting_os_readonly_YYYYMMDD.db"))
  let resolved ← resolve cwd dbPath
  raiseIf (t.isDir resolved = true)
    (.allowlistError ("Source path is a directory, not a SQLite file: " ++ String.ofList (strOf resolved)))
  raiseIf (pathExists t resolved = false) (.fileNotFoundError ("SQLite file not found: " ++ String.ofList (strOf resolved)))
  return resolved

/-- The database, or one of the copies. -/
def Approved (text : List Char) : Prop :=
  text = prodRoPrimary ∨ ∃ digits : List Char, digits.length = 8 ∧ (∀ d ∈ digits, 48 ≤ d.toNat ∧ d.toNat ≤ 57) ∧
    text = importWorkCopyHead ++ digits ++ ".db".toList

/-- The text that is compared, with its backslashes. -/
def compared (cwd : Place) (dbPath : List Char) : List Char :=
  if (slashed dbPath).head? = some '/' then dbPath else strOf (placeOf cwd dbPath)

/-- A text in ASCII with no backslash and no line feed. -/
def Plain (text : List Char) : Prop := ∀ c ∈ text, c ≠ '\\' ∧ c ≠ '\n' ∧ c.toNat < 128

section Paths

variable {text dir name : List Char} {at' cwd place : Place} {parts : List String} {c : Char}

theorem locate_eq_append (h : ∀ part ∈ parts, part ≠ "..") : locate at' parts = at' ++ parts := by
  induction parts generalizing at' with
  | nil => rw [List.append_nil]; rfl
  | cons part parts ih =>
    obtain ⟨hpart, hparts⟩ := List.forall_mem_cons.1 h
    have hrest : locate (at' ++ [part]) parts = at' ++ [part] ++ parts := ih hparts
    rw [List.append_assoc, List.singleton_append] at hrest
    rw [locate, List.foldl_cons, step, if_neg hpart, ← hrest, locate]

theorem mem_strOf {part : String} (hpart : part ∈ place) (hc : c ∈ part.toList) : c ∈ strOf place := by
  have hne : place ≠ [] := List.ne_nil_of_mem hpart
  rw [strOf, if_neg hne]
  exact List.mem_flatMap.2 ⟨part, hpart, List.mem_cons_of_mem _ hc⟩

theorem flatten_splitOn (text : List Char) : (text.splitOn '/').flatten = text.filter fun c => !(c == '/') :=
  Text.flatten_splitOnP _ _

theorem mem_parts {part : List Char} : String.ofList part ∈ (PurePath.parse (String.ofList text)).parts ↔
    part ∈ text.splitOn '/' ∧ part ≠ [] ∧ part ≠ ['.'] := by
  have hempty : String.ofList part = "" ↔ part = [] := by rw [← String.toList_inj, String.toList_ofList]; rfl
  have hdot : String.ofList part = "." ↔ part = ['.'] := by rw [← String.toList_inj, String.toList_ofList]; rfl
  rw [PurePath.parse, List.mem_filter, decide_eq_true_eq, String.toList_ofList, ne_eq, ne_eq, hempty, hdot, List.mem_map]
  refine and_congr_left fun _ => ⟨?_, fun h => ⟨part, h, rfl⟩⟩
  rintro ⟨other, hother, he⟩
  rw [← String.ofList_injective he]
  exact hother

/-- A text with one dot has no name of two. -/
theorem not_dots_of_count (hdots : text.count '.' ≤ 1) :
    ∀ part ∈ (PurePath.parse (String.ofList text)).parts, part ≠ ".." := by
  rintro part hpart rfl
  have hmem : ['.', '.'] ∈ text.splitOn '/' := (mem_parts.1 hpart).1
  have hsub : ['.', '.'].Sublist (text.splitOn '/').flatten := List.sublist_flatten_of_mem hmem
  rw [flatten_splitOn] at hsub
  have hcount := (hsub.trans List.filter_sublist).count_le '.'
  have htwo : ['.', '.'].count '.' = 2 := rfl
  omega

/-- The backslashes of a text are names of its path. -/
theorem backslash_mem_strOf (hdots : text.count '.' ≤ 1) (h : '\\' ∈ text) : '\\' ∈ strOf (placeOf cwd text) := by
  have hflat : '\\' ∈ (text.splitOn '/').flatten := by
    rw [flatten_splitOn]
    exact List.mem_filter.2 ⟨h, rfl⟩
  obtain ⟨part, hpart, hc⟩ := List.mem_flatten.1 hflat
  have hkept : String.ofList part ∈ (PurePath.parse (String.ofList text)).parts := by
    refine mem_parts.2 ⟨hpart, List.ne_nil_of_mem hc, ?_⟩
    rintro rfl
    exact absurd hc (by decide)
  rw [placeOf, locate_eq_append (not_dots_of_count hdots)]
  exact mem_strOf (List.mem_append_right _ hkept) (by rwa [String.toList_ofList])

theorem start_of_slash (cwd : Place) (text : List Char) : (PurePath.parse (String.ofList ('/' :: text))).start cwd = [] := by
  have hroot : (PurePath.parse (String.ofList ('/' :: text))).root ≠ "" := by
    rw [PurePath.parse, String.toList_ofList]
    dsimp only
    split
    · decide
    · decide
    · decide
    · rename_i hno
      exact absurd rfl (hno text)
  rw [PurePath.start, if_neg hroot]

/-- A name that can stand in a place. -/
abbrev Name (part : String) : Prop := '/' ∉ part.toList ∧ part ≠ "" ∧ part ≠ "." ∧ part ≠ ".."

theorem splitOn_names (hname : '/' ∉ name) (hplace : ∀ part ∈ place, Name part) :
    (name ++ place.flatMap fun part => '/' :: part.toList).splitOn '/' = name :: place.map String.toList := by
  induction place generalizing name with
  | nil => rw [List.flatMap_nil, List.append_nil, List.splitOn_eq_singleton hname, List.map_nil]
  | cons part place ih =>
    obtain ⟨hpart, hplace⟩ := List.forall_mem_cons.1 hplace
    rw [List.flatMap_cons, List.cons_append, List.splitOn_append_cons_self, List.splitOn_eq_singleton hname, ih hpart.1 hplace,
      List.map_cons, List.singleton_append]

/-- A place is where its text leads. -/
theorem placeOf_strOf (hplace : ∀ part ∈ place, Name part) : placeOf cwd (strOf place) = place := by
  obtain ⟨rest, hrest⟩ : ∃ rest, strOf place = '/' :: rest := by
    cases place with
    | nil => exact ⟨[], rfl⟩
    | cons part place => exact ⟨_, by rw [strOf, if_neg (List.cons_ne_nil _ _), List.flatMap_cons, List.cons_append]⟩
  have hparts : (PurePath.parse (String.ofList (strOf place))).parts = place := by
    have hkept : place.filter (fun part => part ≠ "" ∧ part ≠ ".") = place :=
      List.filter_eq_self.2 fun part hpart => decide_eq_true ⟨(hplace part hpart).2.1, (hplace part hpart).2.2.1⟩
    by_cases hnil : place = []
    · rw [hnil]
      decide
    · have hsplit : ([] ++ place.flatMap fun part : String => '/' :: part.toList).splitOn '/' = [] :: place.map String.toList :=
        splitOn_names List.not_mem_nil hplace
      rw [List.nil_append] at hsplit
      rw [PurePath.parse, String.toList_ofList, strOf, if_neg hnil, hsplit, List.map_cons, List.map_map,
        List.filter_cons_of_neg (by decide)]
      have hround : String.ofList ∘ String.toList = id := funext fun part => String.ofList_toList
      rw [hround, List.map_id, hkept]
  rw [placeOf, hparts, hrest, start_of_slash, locate_eq_append fun part hpart => (hplace part hpart).2.2.2, List.nil_append]

end Paths

section Allowlist

variable {β : Type} {table : DecimalTable} {cwd path : Place} {t : Disk β} {dbPath text digits tail : List Char}

theorem slashed_eq_self (h : '\\' ∉ text) : slashed text = text := by
  have hsame : text.map (fun c => if c = '\\' then '/' else c) = text.map id :=
    List.map_congr_left fun c hc => if_neg fun he => h (by rw [← he]; exact hc)
  rw [slashed, hsame, List.map_id]

theorem backslash_not_mem_slashed (text : List Char) : '\\' ∉ slashed text := by
  intro h
  obtain ⟨c, -, hc⟩ := List.mem_map.1 h
  split_ifs at hc with hback
  · exact absurd hc (by decide)
  · exact hback hc

theorem count_dot_slashed (text : List Char) : (slashed text).count '.' = text.count '.' := by
  induction text with
  | nil => rfl
  | cons c text ih =>
    have hcons : slashed (c :: text) = (if c = '\\' then '/' else c) :: slashed text := rfl
    rw [hcons, List.count_cons, List.count_cons, ih]
    split_ifs <;> simp_all

/-- What the pattern matches. -/
theorem of_matchesCopyPattern (h : matchesCopyPattern table text = true) : ∃ digits tail,
    text = importWorkCopyHead ++ digits ++ tail ∧ digits.length = 8 ∧ (∀ d ∈ digits, table.isDecimal d = true) ∧
      (tail = ".db".toList ∨ tail = ".db\n".toList) := by
  obtain ⟨hhead, hlength, hdigits, htail⟩ := of_decide_eq_true h
  obtain ⟨rest, rfl⟩ := List.isPrefixOf_iff_prefix.1 hhead
  rw [List.drop_left] at hlength hdigits htail
  refine ⟨rest.take 8, rest.drop 8, ?_, hlength, List.all_eq_true.1 hdigits, htail⟩
  rw [List.append_assoc, List.take_append_drop]

theorem decimal_ne {c : Char} (h : table.isDecimal c = true) : c ≠ '/' ∧ c ≠ '.' := by
  constructor <;>
  · rintro rfl
    have hrange := (table.isDecimal_ascii _ (by decide)).1 h
    exact absurd hrange (by decide)

/-- A copy's name up to its date. -/
def copyStem : List Char := "consulting_os_readonly_".toList

/-- What is read off the texts of the allowlist. -/
structure AllowlistTexts : Prop where
  head : importWorkCopyHead = '/' :: "opt".toList ++ ('/' :: "flexity".toList ++
    ('/' :: "import_work".toList ++ '/' :: copyStem))
  primary : strOf ["var", "www", "consult_app", "instance", "consulting_os.db"] = prodRoPrimary
  names : (["var", "www", "consult_app", "instance", "consulting_os.db", "opt", "flexity", "import_work"].all fun part =>
    decide (Name part)) = true
  name : '/' ∉ copyStem ∧ 2 < copyStem.length
  endings : '/' ∉ ".db".toList ∧ '/' ∉ ".db\n".toList ∧ '\n' ∈ ".db\n".toList
  plain : ([prodRoPrimary, importWorkCopyHead, ".db".toList].all fun text => text.all fun c =>
    decide (c ≠ '\\' ∧ c ≠ '\n' ∧ c.toNat < 128)) = true
  dots : prodRoPrimary.count '.' ≤ 1 ∧ importWorkCopyHead.count '.' = 0 ∧ ".db".toList.count '.' ≤ 1 ∧
    ".db\n".toList.count '.' ≤ 1

theorem allowlistTexts : AllowlistTexts := by
  have hall : (importWorkCopyHead = '/' :: "opt".toList ++ ('/' :: "flexity".toList ++
      ('/' :: "import_work".toList ++ '/' :: copyStem))) ∧
      strOf ["var", "www", "consult_app", "instance", "consulting_os.db"] = prodRoPrimary ∧
      (["var", "www", "consult_app", "instance", "consulting_os.db", "opt", "flexity", "import_work"].all fun part =>
        decide (Name part)) = true ∧
      ('/' ∉ copyStem ∧ 2 < copyStem.length) ∧
      ('/' ∉ ".db".toList ∧ '/' ∉ ".db\n".toList ∧ '\n' ∈ ".db\n".toList) ∧
      ([prodRoPrimary, importWorkCopyHead, ".db".toList].all fun text => text.all fun c =>
        decide (c ≠ '\\' ∧ c ≠ '\n' ∧ c.toNat < 128)) = true ∧
      prodRoPrimary.count '.' ≤ 1 ∧ importWorkCopyHead.count '.' = 0 ∧ ".db".toList.count '.' ≤ 1 ∧
        ".db\n".toList.count '.' ≤ 1 := by
    decide +kernel
  obtain ⟨hhead, hprimary, hnames, hname, hendings, hplain, hdots⟩ := hall
  exact ⟨hhead, hprimary, hnames, hname, hendings, hplain, hdots⟩

theorem name_of_mem {part : String}
    (h : part ∈ ["var", "www", "consult_app", "instance", "consulting_os.db", "opt", "flexity", "import_work"]) : Name part :=
  of_decide_eq_true (List.all_eq_true.1 allowlistTexts.names part h)

theorem plain_of_mem (text : List Char) (h : text ∈ [prodRoPrimary, importWorkCopyHead, ".db".toList]) : Plain text := fun c hc =>
  of_decide_eq_true (List.all_eq_true.1 (List.all_eq_true.1 allowlistTexts.plain text h) c hc)

theorem plain_of_approved (h : Approved text) : Plain text := by
  rcases h with rfl | ⟨digits, -, hdigits, rfl⟩
  · exact plain_of_mem _ (by simp)
  · intro c hc
    rcases List.mem_append.1 hc with hc | hc
    · rcases List.mem_append.1 hc with hc | hc
      · exact plain_of_mem importWorkCopyHead (by simp) c hc
      · have hrange := hdigits c hc
        refine ⟨?_, ?_, by omega⟩ <;>
        · rintro rfl
          exact absurd hrange (by decide)
    · exact plain_of_mem (".db".toList) (by simp) c hc

def copyName (digits tail : List Char) : String := String.ofList (copyStem ++ digits ++ tail)

theorem strOf_copyName : strOf ["opt", "flexity", "import_work", copyName digits tail] = importWorkCopyHead ++ digits ++ tail := by
  rw [strOf, if_neg (List.cons_ne_nil _ _), allowlistTexts.head]
  have hname : (copyName digits tail).toList = copyStem ++ digits ++ tail := String.toList_ofList
  generalize "opt" = opt, "flexity" = flexity, "import_work" = importWork
  simp only [List.flatMap_cons, List.flatMap_nil, hname, List.append_nil, List.append_assoc, List.cons_append]

theorem name_copyName (hdigits : ∀ d ∈ digits, table.isDecimal d = true)
    (htail : tail = ".db".toList ∨ tail = ".db\n".toList) : Name (copyName digits tail) := by
  obtain ⟨hname, hlength⟩ := allowlistTexts.name
  obtain ⟨hending, hending', -⟩ := allowlistTexts.endings
  -- the name is longer than the names that are passed over
  have hlong : 2 < (copyName digits tail).toList.length := by
    rw [copyName, String.toList_ofList, List.length_append, List.length_append]
    omega
  have hne : ∀ other : String, other.toList.length ≤ 2 → copyName digits tail ≠ other := by
    rintro other hother rfl
    omega
  refine ⟨?_, hne "" (Nat.zero_le 2), hne "." (Nat.le_succ 1), hne ".." le_rfl⟩
  rw [copyName, String.toList_ofList]
  intro h
  rcases List.mem_append.1 h with h | h
  · rcases List.mem_append.1 h with h | h
    · exact hname h
    · exact (decimal_ne (hdigits _ h)).1 rfl
  · rcases htail with rfl | rfl
    · exact hending h
    · exact hending' h

/-- An allowed text is of a place with one dot, and is approved when it is in ASCII on one line. -/
theorem of_allowed (h : text = prodRoPrimary ∨ matchesCopyPattern table text = true) :
    (∀ cwd, strOf (placeOf cwd text) = text) ∧ text.count '.' ≤ 1 ∧
      (Approved text ↔ ∀ c ∈ text, c ≠ '\n' ∧ c.toNat < 128) := by
  obtain ⟨hprimary, hhead, hending, hending'⟩ := allowlistTexts.dots
  have hplain : ∀ text, Approved text → ∀ c ∈ text, c ≠ '\n' ∧ c.toNat < 128 :=
    fun text happroved c hc => (plain_of_approved happroved c hc).2
  rcases h with rfl | h
  · refine ⟨fun cwd => ?_, hprimary, iff_of_true (Or.inl rfl) (hplain _ (Or.inl rfl))⟩
    rw [← allowlistTexts.primary, placeOf_strOf fun part hpart => name_of_mem (List.mem_append_left _ hpart)]
  · obtain ⟨digits, tail, rfl, hlength, hdigits, htail⟩ := of_matchesCopyPattern h
    refine ⟨fun cwd => ?_, ?_, hplain _, fun hascii => Or.inr ⟨digits, hlength, fun d hd => ?_, ?_⟩⟩
    · rw [← strOf_copyName, placeOf_strOf]
      intro part hpart
      rcases List.mem_append.1 (show part ∈ ["opt", "flexity", "import_work"] ++ [copyName digits tail] from hpart) with
        hpart | hpart
      · exact name_of_mem (List.mem_append_right ["var", "www", "consult_app", "instance", "consulting_os.db"] hpart)
      · rw [List.mem_singleton.1 hpart]
        exact name_copyName hdigits htail
    · have hzero : digits.count '.' = 0 := List.count_eq_zero.2 fun h => (decimal_ne (hdigits _ h)).2 rfl
      rw [List.count_append, List.count_append, hzero, hhead]
      rcases htail with rfl | rfl <;> omega
    · exact (table.isDecimal_ascii d (hascii d (by simp [hd])).2).1 (hdigits d hd)
    · rcases htail with rfl | rfl
      · rfl
      · exact absurd rfl (hascii '\n' (List.mem_append_right _ allowlistTexts.endings.2.2)).1

theorem normalize_ok (h : normalizeAllowlistPath cwd dbPath = .ok text) :
    text = slashed (compared cwd dbPath) ∧ text.head? = some '/' := by
  unfold normalizeAllowlistPath at h
  dsimp only at h
  rw [compared]
  split_ifs at h ⊢ with hhead
  · rw [pure_eq_ok] at h
    exact ⟨h.symm, h ▸ hhead⟩
  · simp only [bind_eq_ok, resolve, raiseIf_eq_ok, pure_eq_ok] at h
    obtain ⟨place, ⟨-, -, rfl⟩, rfl⟩ := h
    refine ⟨rfl, ?_⟩
    cases hplace : placeOf cwd dbPath with
    | nil => rfl
    | cons part place => rfl

/-- What has passed is a place whose text, or the text it was named by, is allowed. -/
theorem assert_ok (h : assertPathAllowlistedForRealSource table cwd t dbPath = .ok path) :
    path = placeOf cwd dbPath ∧ (slashed (compared cwd dbPath) = prodRoPrimary ∨
      matchesCopyPattern table (slashed (compared cwd dbPath)) = true) := by
  simp only [assertPathAllowlistedForRealSource, bind_eq_ok, raiseIf_eq_ok, pure_eq_ok, resolve] at h
  obtain ⟨normalized, hnormalized, allowlisted, hallowed, -, hpassed, place, ⟨-, -, rfl⟩, -, -, -, -, rfl⟩ := h
  refine ⟨rfl, ?_⟩
  obtain ⟨rfl, hhead⟩ := normalize_ok hnormalized
  have hself : slashed (slashed (compared cwd dbPath)) = slashed (compared cwd dbPath) :=
    slashed_eq_self (backslash_not_mem_slashed _)
  simp only [pathIsAllowlisted, normalizeAllowlistPath, hself, hhead, if_true, bind_eq_ok, pure_eq_ok] at hallowed
  obtain ⟨-, rfl, rfl⟩ := hallowed
  exact of_decide_eq_true (Bool.not_eq_false _ ▸ hpassed)

end Allowlist

/-- The path that is opened is one of the approved just when the text that was compared is in
ASCII and has no backslash and no line feed. -/
theorem allowlisted_approved_iff {β : Type} {table : DecimalTable} {cwd path : Place} {t : Disk β} {dbPath : List Char}
    (h : assertPathAllowlistedForRealSource table cwd t dbPath = .ok path) :
    Approved (strOf path) ↔ Plain (compared cwd dbPath) := by
  obtain ⟨rfl, hallowed⟩ := assert_ok h
  obtain ⟨hplace, hdots, happroved⟩ := of_allowed hallowed
  rw [count_dot_slashed] at hdots
  by_cases hback : '\\' ∈ compared cwd dbPath
  · -- a backslash stays in the path
    have hkept : '\\' ∈ strOf (placeOf cwd dbPath) := by
      unfold compared at hback hdots
      split_ifs at hback hdots
      · exact backslash_mem_strOf hdots hback
      · exact hback
    exact iff_of_false (fun hgood => (plain_of_approved hgood _ hkept).1 rfl) fun hplain => (hplain _ hback).1 rfl
  · rw [slashed_eq_self hback] at hplace happroved
    have hsame : strOf (placeOf cwd dbPath) = compared cwd dbPath := by
      unfold compared at hplace ⊢
      split_ifs at hplace ⊢
      · exact hplace cwd
      · rfl
    rw [hsame, happroved]
    constructor
    · exact fun hplain c hc => ⟨fun he => hback (he ▸ hc), hplain c hc⟩
    · exact fun hplain c hc => (hplain c hc).2

def DecimalTable.ascii : DecimalTable where
  isDecimal c := 48 ≤ c.toNat ∧ c.toNat ≤ 57
  isDecimal_ascii _ _ := decide_eq_true_iff

/-- A disk with a file at every place. -/
def demoDisk : Disk Unit := ⟨fun _ => false, fun _ => some (), []⟩

def demoCopy : List Char := "/opt/flexity/import_work/consulting_os_readonly_20260101.db".toList

/-- The path of the database with backslashes: to the system a name in the current directory. -/
def backslashed : List Char := "\\var\\www\\consult_app\\instance\\consulting_os.db".toList

theorem demo_accepted :
    assertPathAllowlistedForRealSource .ascii ["srv"] demoDisk demoCopy =
        .ok ["opt", "flexity", "import_work", "consulting_os_readonly_20260101.db"] ∧
      assertPathAllowlistedForRealSource .ascii ["srv"] demoDisk backslashed = .ok ["srv", String.ofList backslashed] ∧
      '\\' ∈ strOf ["srv", String.ofList backslashed] := by
  decide +kernel

/-- The theorem at a copy. -/
theorem allowlisted_approved_copy :
    Approved (strOf ["opt", "flexity", "import_work", "consulting_os_readonly_20260101.db"]) ↔
      Plain (compared ["srv"] demoCopy) :=
  allowlisted_approved_iff demo_accepted.1

/-- The database is asked for with backslashes, and a file in the current directory is opened. -/
theorem backslashed_opens_other : ∃ path, assertPathAllowlistedForRealSource .ascii ["srv"] demoDisk backslashed = .ok path ∧
    ¬ Approved (strOf path) := by
  obtain ⟨-, haccepted, hback⟩ := demo_accepted
  exact ⟨_, haccepted, fun h => (plain_of_approved h _ hback).1 rfl⟩

end CoreOps.Imports.SourceAllowlist
