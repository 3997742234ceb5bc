import CoreOps.Lib.Text

/-! Lines and separators of Python's texts, on lists of characters. -/

namespace Text

/-- The characters `str.splitlines` ends a line at. -/
def isLineBreak (c : Char) : Bool :=
  c.toNat ∈ [0x0a, 0x0b, 0x0c, 0x0d, 0x1c, 0x1d, 0x1e, 0x85, 0x2028, 0x2029]

/-- `str.splitlines`: a carriage return and a line feed are one line break, and none at the
end begins a line. -/
def splitlines : List Char → List (List Char)
  | [] => []
  | '\r' :: '\n' :: cs => [] :: splitlines cs
  | c :: cs =>
    if isLineBreak c then [] :: splitlines cs
    else match splitlines cs with
      | [] => [[c]]
      | line :: lines => (c :: line) :: lines

/-- What reading in text mode makes of line ends. -/
def universalNewlines : List Char → List Char
  | [] => []
  | '\r' :: '\n' :: cs => '\n' :: universalNewlines cs
  | '\r' :: cs => '\n' :: universalNewlines cs
  | c :: cs => c :: universalNewlines cs

/-- The text before and after the first occurrence of a separator. -/
def splitFirst (sep : List Char) : List Char → Option (List Char × List Char)
  | [] => if sep = [] then some ([], []) else none
  | c :: cs =>
    if sep.isPrefixOf (c :: cs) then some ([], (c :: cs).drop sep.length)
    else (splitFirst sep cs).map fun parts => (c :: parts.1, parts.2)

/-- `str.startswith` and `str.endswith`. -/
def startsWith (s start : String) : Bool := start.toList.isPrefixOf s.toList

def endsWith (s ending : String) : Bool := ending.toList.isSuffixOf s.toList

def stripChars (l : List Char) : List Char := (l.dropWhile isSpace).rdropWhile isSpace

/-- What is split is all of the text but the separators. -/
theorem flatten_splitOnP (p : Char → Bool) (l : List Char) : (l.splitOnP p).flatten = l.filter fun c => !p c := by
  induction l with
  | nil => rfl
  | cons c l ih =>
    rw [List.splitOnP_cons_eq_if_modifyHead, List.filter_cons]
    cases hc : p c with
    | true => simpa using ih
    | false =>
      cases hsplit : l.splitOnP p with
      | nil => exact absurd hsplit (List.splitOnP_ne_nil _ _)
      | cons first rest =>
        rw [hsplit] at ih
        simp only [Bool.false_eq_true, if_false, Bool.not_false, if_true, List.modifyHead_cons, List.flatten_cons,
          List.cons_append] at ih ⊢
        rw [ih]

/-- `re.sub` for an expression that never matches the empty text: `attempt` says what a match
at the head of the text is replaced by, and what is left after it. Only the rests that are
shorter are followed, so the length of the text is fuel enough. -/
def sub (attempt : List Char → Option (List Char × List Char)) : ℕ → List Char → List Char
  | 0, l => l
  | _ + 1, [] => []
  | fuel + 1, c :: cs =>
    match attempt (c :: cs) with
    | some (replacement, rest) => replacement ++ sub attempt fuel rest
    | none => c :: sub attempt fuel cs

/-- `html.escape`. -/
def escapeChar (c : Char) : String :=
  if c = '&' then "&amp;"
  else if c = '<' then "&lt;"
  else if c = '>' then "&gt;"
  else if c = '"' then "&quot;"
  else if c.toNat = 39 then "&#x27;"
  else String.singleton c

def escape (s : String) : String := String.join (s.toList.map escapeChar)

end Text
