import Mathlib.Data.Int.Notation
import Mathlib.Data.String.Basic

/-! JSON documents and their texts, as Python's `json` writes and reads them; a text is
the list of its characters. An object
keeps its members in the order of their keys, so that two documents are equal when the
values they stand for are. -/

/-- A float, as `repr` writes it. -/
structure FloatLiteral where
  negative : Bool
  whole : ℕ
  fraction : List (Fin 10)
  exponent : Option ℤ
  isFloat : fraction ≠ [] ∨ exponent ≠ none
  deriving DecidableEq, Repr

inductive Json
  | null
  | bool (b : Bool)
  | int (n : ℤ)
  | float (x : FloatLiteral)
  | str (s : String)
  | arr (items : List Json)
  | obj (members : List (String × Json))

namespace Json

/-- Every object in the document has its members in the order of their keys. -/
inductive Canonical : Json → Prop
  | null : Canonical .null
  | bool (b : Bool) : Canonical (.bool b)
  | int (n : ℤ) : Canonical (.int n)
  | float (x : FloatLiteral) : Canonical (.float x)
  | str (s : String) : Canonical (.str s)
  | arr {items : List Json} (h : ∀ x ∈ items, Canonical x) : Canonical (.arr items)
  | obj {members : List (String × Json)} (hkeys : (members.map Prod.fst).Pairwise (· < ·))
      (h : ∀ m ∈ members, Canonical m.2) : Canonical (.obj members)

attribute [simp] Canonical.null Canonical.bool Canonical.int Canonical.float Canonical.str

section Write

/-- The layout of a text: how deep a level is indented, if it is put on lines of its
own, and the blanks after a colon. -/
structure Format where
  indent : Option ℕ
  gap : ℕ

def Format.newline (f : Format) (level : ℕ) : List Char :=
  match f.indent with
  | none => []
  | some k => '\n' :: List.replicate (k * level) ' '

/-- A character of a text, as `ensure_ascii=False` writes it. -/
def escape (c : Char) : List Char :=
  if c = '"' then ['\\', '"']
  else if c = '\\' then ['\\', '\\']
  else if c = '\n' then ['\\', 'n']
  else if c = '\r' then ['\\', 'r']
  else if c = '\t' then ['\\', 't']
  else if c = '\x08' then ['\\', 'b']
  else if c = '\x0c' then ['\\', 'f']
  else if c.toNat < 32 then ['\\', 'u', '0', '0', Nat.digitChar (c.toNat / 16), Nat.digitChar (c.toNat % 16)]
  else [c]

def quote (s : String) : List Char := '"' :: s.toList.flatMap escape ++ ['"']

def signed (negative : Bool) (n : ℕ) : List Char := (if negative then ['-'] else []) ++ Nat.toDigits 10 n

/-- The exponent has a sign and two digits at least. -/
def writeExponent (e : ℤ) : List Char :=
  'e' :: (if e < 0 then '-' else '+') :: List.replicate (2 - (Nat.toDigits 10 e.natAbs).length) '0' ++
    Nat.toDigits 10 e.natAbs

def writeFloat (x : FloatLiteral) : List Char :=
  signed x.negative x.whole ++
    (if x.fraction = [] then [] else '.' :: x.fraction.map fun d => Nat.digitChar d.val) ++
    (x.exponent.map writeExponent).getD []

/-- The texts that follow an opening bracket, one a line, and the closing one. -/
def inside (f : Format) (level : ℕ) (last : Char) : List (List Char) → List Char
  | [] => [last]
  | text :: texts => f.newline (level + 1) ++ text ++ texts.flatMap (fun t => ',' :: f.newline (level + 1) ++ t) ++
      f.newline level ++ [last]

mutual

def write (f : Format) (level : ℕ) : Json → List Char
  | .null => ['n', 'u', 'l', 'l']
  | .bool true => ['t', 'r', 'u', 'e']
  | .bool false => ['f', 'a', 'l', 's', 'e']
  | .int n => signed (n < 0) n.natAbs
  | .float x => writeFloat x
  | .str s => quote s
  | .arr items => '[' :: inside f level ']' (writeItems f (level + 1) items)
  | .obj members => '{' :: inside f level '}' (writeMembers f (level + 1) members)

def writeItems (f : Format) (level : ℕ) : List Json → List (List Char)
  | [] => []
  | x :: xs => write f level x :: writeItems f level xs

def writeMembers (f : Format) (level : ℕ) : List (String × Json) → List (List Char)
  | [] => []
  | (k, v) :: ms => (quote k ++ ':' :: List.replicate f.gap ' ' ++ write f level v) :: writeMembers f level ms

end

/-- `json.dumps` with `sort_keys=True`. -/
def dumps (f : Format) (j : Json) : List Char := write f 0 j

end Write

section Read

variable {α : Type}

def isBlank (c : Char) : Bool := c = ' ' ∨ c = '\t' ∨ c = '\n' ∨ c = '\r'

def skip (cs : List Char) : List Char := cs.dropWhile isBlank

def hexDigit (c : Char) : Option ℕ :=
  if c.isDigit then some (c.toNat - 48)
  else if 'a' ≤ c ∧ c ≤ 'f' then some (c.toNat - 87)
  else if 'A' ≤ c ∧ c ≤ 'F' then some (c.toNat - 55)
  else none

/-- The character of four hexadecimal digits; half of a surrogate pair is none. -/
def readHex (a b c d : Char) : Option Char := do
  let n := (((← hexDigit a) * 16 + (← hexDigit b)) * 16 + (← hexDigit c)) * 16 + (← hexDigit d)
  if n.isValidChar then some (Char.ofNat n) else none

def unescape (c : Char) : Option Char :=
  if c = '"' ∨ c = '\\' ∨ c = '/' then some c
  else if c = 'n' then some '\n'
  else if c = 'r' then some '\r'
  else if c = 't' then some '\t'
  else if c = 'b' then some '\x08'
  else if c = 'f' then some '\x0c'
  else none

/-- The characters up to the closing quote, and what is after it. -/
def readString : List Char → Option (List Char × List Char)
  | [] => none
  | '"' :: cs => some ([], cs)
  | '\\' :: 'u' :: a :: b :: c :: d :: cs => do
    let x ← readHex a b c d
    let (xs, cs) ← readString cs
    return (x :: xs, cs)
  | '\\' :: c :: cs => do
    let x ← unescape c
    let (xs, cs) ← readString cs
    return (x :: xs, cs)
  | c :: cs =>
    if c.toNat < 32 then none
    else do
      let (xs, cs) ← readString cs
      return (c :: xs, cs)

/-- The digits at the start, if there are any, and what is after them. -/
def readDigits (cs : List Char) : Option (List Char × List Char) :=
  if cs.takeWhile Char.isDigit = [] then none else some (cs.takeWhile Char.isDigit, cs.dropWhile Char.isDigit)

/-- A number has no zero before its other digits. -/
def readWhole : List Char → Option (ℕ × List Char)
  | '0' :: cs => some (0, cs)
  | cs => (readDigits cs).map fun r => (Nat.ofDigitChars 10 r.1 0, r.2)

def readSign : List Char → Bool × List Char
  | '-' :: cs => (true, cs)
  | cs => (false, cs)

def readFraction (cs : List Char) : List (Fin 10) × List Char :=
  match cs with
  | '.' :: rest => ((readDigits rest).map fun r => (r.1.map fun c => Fin.ofNat 10 (c.toNat - 48), r.2)).getD ([], cs)
  | _ => ([], cs)

def readExponentSign : List Char → Bool × List Char
  | '+' :: cs => (false, cs)
  | cs => readSign cs

def readExponent (cs : List Char) : Option ℤ × List Char :=
  match cs with
  | c :: rest =>
    if c = 'e' ∨ c = 'E' then
      let (negative, digits) := readExponentSign rest
      let value := fun ds : List Char => (Nat.ofDigitChars 10 ds 0 : ℤ)
      ((readDigits digits).map fun r =>
        (some (if negative then -value r.1 else value r.1), r.2)).getD (none, cs)
    else (none, cs)
  | [] => (none, cs)

/-- An integer, unless a fraction or an exponent follows. -/
def readNumber (cs : List Char) : Option (Json × List Char) := do
  let (negative, cs) := readSign cs
  let (whole, cs) ← readWhole cs
  let (fraction, cs) := readFraction cs
  let (exponent, cs) := readExponent cs
  if h : fraction ≠ [] ∨ exponent ≠ none then
    return (.float ⟨negative, whole, fraction, exponent, h⟩, cs)
  else
    return (.int (if negative then -(whole : ℤ) else whole), cs)

/-- The elements after the first, each after a comma, up to the closing bracket. -/
def readMore (p : List Char → Option (α × List Char)) (last : Char) :
    ℕ → List Char → Option (List α × List Char)
  | 0, _ => none
  | n + 1, cs =>
    match skip cs with
    | [] => none
    | c :: cs =>
      if c = last then some ([], cs)
      else if c = ',' then do
        let (x, cs) ← p (skip cs)
        let (xs, cs) ← readMore p last n cs
        return (x :: xs, cs)
      else none

def readEnclosed (p : List Char → Option (α × List Char)) (last : Char) (n : ℕ) (cs : List Char) :
    Option (List α × List Char) :=
  match skip cs with
  | [] => none
  | c :: cs =>
    if c = last then some ([], cs)
    else do
      let (x, cs) ← p (c :: cs)
      let (xs, cs) ← readMore p last n cs
      return (x :: xs, cs)

def readMember (p : List Char → Option (α × List Char)) : List Char → Option ((String × α) × List Char)
  | '"' :: cs => do
    let (k, cs) ← readString cs
    match skip cs with
    | ':' :: cs => (p (skip cs)).map fun r => ((String.ofList k, r.1), r.2)
    | _ => none
  | _ => none

/-- `d[k] = v`. -/
def setMember (k : String) (v : α) : List (String × α) → List (String × α)
  | [] => [(k, v)]
  | m :: ms => if k < m.1 then (k, v) :: m :: ms else if k = m.1 then (k, v) :: ms else m :: setMember k v ms

/-- `dict(pairs)`: the last pair of a key counts. -/
def ofPairs (pairs : List (String × α)) : List (String × α) := pairs.foldl (fun ms m => setMember m.1 m.2 ms) []

/-- A value; no text nests deeper than it is long. -/
def read : ℕ → List Char → Option (Json × List Char)
  | 0, _ => none
  | _ + 1, 'n' :: 'u' :: 'l' :: 'l' :: cs => some (.null, cs)
  | _ + 1, 't' :: 'r' :: 'u' :: 'e' :: cs => some (.bool true, cs)
  | _ + 1, 'f' :: 'a' :: 'l' :: 's' :: 'e' :: cs => some (.bool false, cs)
  | _ + 1, '"' :: cs => (readString cs).map fun r => (.str (String.ofList r.1), r.2)
  | n + 1, '[' :: cs => (readEnclosed (read n) ']' n cs).map fun r => (.arr r.1, r.2)
  | n + 1, '{' :: cs => (readEnclosed (readMember (read n)) '}' n cs).map fun r => (.obj (ofPairs r.1), r.2)
  | _ + 1, cs => readNumber cs

/-- `json.loads`. -/
def loads (text : List Char) : Option Json := do
  let (j, cs) ← read (text.length + 1) (skip text)
  if skip cs = [] then some j else none

end Read

end Json
