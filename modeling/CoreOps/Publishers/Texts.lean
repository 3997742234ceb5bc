import CoreOps.Marketing.ContentPlans
import CoreOps.Publishers.Values

/-! What the publishers do with texts: they take the tokens out of error messages, and they
cut a text that is too long for one post. -/

namespace CoreOps.Publishers

open Checked Text

/-! Redaction. -/

/-- `re.sub` of a pattern that matches no empty text. `rest` gives what follows a match at
the start. -/
def reSub (rest : List Char → Option (List Char)) (replacement : List Char) : ℕ → List Char → List Char
  | 0, cs => cs
  | _ + 1, [] => []
  | n + 1, c :: cs =>
    match rest (c :: cs) with
    | some left => replacement ++ reSub rest replacement n left
    | none => c :: reSub rest replacement n cs

/-- A text of the pattern, without regard to case. -/
def afterText (text : String) (cs : List Char) : Option (List Char) :=
  if (cs.take text.length).map Marketing.foldCase = text.toList then some (cs.drop text.length) else none

/-- One character of a class, or more. -/
def afterSome (p : Char → Bool) (cs : List Char) : Option (List Char) :=
  if (cs.takeWhile p).isEmpty then none else some (cs.dropWhile p)

def notSpace (c : Char) : Bool := !isSpace c

/-- `bearer\s+\S+`. -/
def afterBearer (cs : List Char) : Option (List Char) := do
  let cs ← afterText "bearer" cs
  let cs ← afterSome isSpace cs
  afterSome notSpace cs

/-- `authorization\s*[:=]\s*\S+`. -/
def afterAuthorization (cs : List Char) : Option (List Char) := do
  let cs ← afterText "authorization" cs
  match cs.dropWhile isSpace with
  | c :: cs => if c = ':' ∨ c = '=' then afterSome notSpace (cs.dropWhile isSpace) else none
  | [] => none

/-- `access_token=` and characters of a class. -/
def afterAccessToken (p : Char → Bool) (cs : List Char) : Option (List Char) := do
  let cs ← afterText "access_token=" cs
  afterSome p cs

def redact (rest : List Char → Option (List Char)) (replacement message : String) : String :=
  String.ofList (reSub rest replacement.toList message.length message.toList)

/-- `sanitize_error` of Instagram and of TikTok. -/
def sanitizeError (message : String) : String :=
  redact (afterAccessToken fun c => c ≠ '&' && notSpace c) "access_token=[REDACTED]"
    (redact afterAuthorization "Authorization: [REDACTED]" (redact afterBearer "Bearer [REDACTED]" message))

/-- `sanitize_error` of Threads. The raw string doubles its backslash: the class stops at a
backslash and at the letter s, where it was to stop at white space. -/
def Threads.sanitizeError (message : String) : String :=
  redact (afterAccessToken fun c => Marketing.foldCase c ∉ ['&', '\\', 's']) "access_token=[REDACTED]" message

/-! Chunks. -/

/-- `text.rfind(separator)`, for a separator that is not empty. -/
def rfind (separator : List Char) : List Char → Option ℕ
  | [] => none
  | c :: cs =>
    match rfind separator cs with
    | some pos => some (pos + 1)
    | none => if separator.isPrefixOf (c :: cs) then some 0 else none

def stripChars (cs : List Char) : List Char := (cs.dropWhile isSpace).rdropWhile isSpace

/-- What separates sentences and paragraphs, and how much of it the next chunk keeps. -/
def separators : List (List Char × ℕ) := [(['\n', '\n'], 0), (['.', ' '], 1), ([' '], 0)]

/-- Where to cut. -/
def cutAt (maxLen : ℕ) (remaining : List Char) : ℕ :=
  let found := separators.findSome? fun (separator, keepLen) =>
    match rfind separator (remaining.take (maxLen + 1)) with
    | some pos => if maxLen / 3 ≤ pos then some (pos + separator.length - keepLen) else none
    | none => none
  if found.getD 0 < 1 then maxLen else found.getD 0

/-- The loop of `split_text_chunks`. A round takes a character at least, if chunks may have one. -/
def splitLoop (maxLen : ℕ) : ℕ → List Char → List (List Char)
  | 0, _ => []
  | rounds + 1, remaining =>
    if remaining.isEmpty then []
    else if remaining.length ≤ maxLen then [remaining]
    else
      let cut := cutAt maxLen remaining
      let piece := stripChars (remaining.take cut)
      if piece.isEmpty then
        stripChars (remaining.take maxLen) :: splitLoop maxLen rounds (stripChars (remaining.drop maxLen))
      else piece :: splitLoop maxLen rounds (stripChars (remaining.drop cut))

def threadsTextMaxLen : ℕ := 500

def splitTextChunks (maxLen : ℕ) (text : String) : Except PyError (List String) := do
  let normalized := strip text
  raiseIf (normalized = "") (valueError "threads text is empty")
  return (splitLoop maxLen normalized.length normalized.toList).map String.ofList

/-- There is a first chunk. -/
theorem splitTextChunks_ne_nil {maxLen : ℕ} {text : String} {chunks : List String}
    (h : splitTextChunks maxLen text = .ok chunks) : ∃ chunk rest, chunks = chunk :: rest := by
  simp only [splitTextChunks, bind_eq_ok, raiseIf_eq_ok, pure_eq_ok] at h
  obtain ⟨-, hne, rfl⟩ := h
  have hlength : (strip text).length ≠ 0 := by rwa [Ne, String.length_eq_zero_iff]
  obtain ⟨n, hn⟩ := Nat.exists_eq_succ_of_ne_zero hlength
  have hcs : (strip text).toList.isEmpty = false := by simpa using hne
  rw [hn, splitLoop, hcs]
  simp only [Bool.false_eq_true, if_false]
  split
  · exact ⟨_, _, rfl⟩
  · split <;> exact ⟨_, _, rfl⟩

end CoreOps.Publishers
