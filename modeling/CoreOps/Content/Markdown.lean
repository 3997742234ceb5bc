import CoreOps.Lib.CharTables
import CoreOps.Lib.Lines

/-! The markdown of an article: paragraphs, headings of two levels, lists of two kinds, and
four inline marks. Each expression of the source is a function that takes a match off the
head of a text; where the source's is greedy or lazy, what it takes is determined by the
characters that may follow. -/

namespace CoreOps.Content

open Text

/-! Inline marks. -/

/-- `\*\*(.+?)\*\*`: at least one character, up to the next pair of asterisks of the line. -/
def takeStrong : List Char → Option (List Char × List Char)
  | '*' :: '*' :: c :: cs =>
    match splitFirst ['*', '*'] cs with
    | some (inner, rest) =>
      if '\n' ∈ c :: inner then none else some ("<strong>".toList ++ c :: inner ++ "</strong>".toList, rest)
    | none => none
  | _ => none

/-- A run of characters that are not `stop`, with `stop` after it. -/
def takeUntil (stop : Char) (l : List Char) : Option (List Char × List Char) :=
  match l.span (· ≠ stop) with
  | ([], _) | (_, []) => none
  | (run, _ :: rest) => some (run, rest)

/-- The mark of code. -/
def codeMark : Char := Char.ofNat 96

def takeCode : List Char → Option (List Char × List Char)
  | c :: cs =>
    if c = codeMark then
      (takeUntil codeMark cs).map fun (inner, rest) => ("<code>".toList ++ inner ++ "</code>".toList, rest)
    else none
  | [] => none

/-- `https?://` at the head of a text. -/
def takeScheme (l : List Char) : Option (List Char × List Char) :=
  if "https://".toList.isPrefixOf l then some ("https://".toList, l.drop 8)
  else if "http://".toList.isPrefixOf l then some ("http://".toList, l.drop 7)
  else none

def anchor (url label : List Char) : List Char :=
  "<a href=\"".toList ++ url ++ "\" target=\"_blank\" rel=\"noopener\">".toList ++ label ++ "</a>".toList

def takeLink : List Char → Option (List Char × List Char)
  | '[' :: cs => do
    let (label, rest) ← takeUntil ']' cs
    let rest ← if rest.head? = some '(' then some rest.tail else none
    let (scheme, rest) ← takeScheme rest
    let (address, rest) ← takeUntil ')' rest
    return (anchor (scheme ++ address) label, rest)
  | _ => none

/-- `https?://[^\s<]+`. -/
def takeUrl (l : List Char) : Option (List Char × List Char) := do
  let (scheme, rest) ← takeScheme l
  match rest.span fun c => !isSpace c && c ≠ '<' with
  | ([], _) => none
  | (address, rest) => some (anchor (scheme ++ address) (scheme ++ address), rest)

def subAll (attempt : List Char → Option (List Char × List Char)) (l : List Char) : List Char :=
  sub attempt l.length l

def inlineMarkdown (text : List Char) : List Char :=
  subAll takeUrl (subAll takeLink (subAll takeCode (subAll takeStrong (escape (String.ofList text)).toList)))

/-! Blocks. -/

/-- What follows one or more spaces; the line is stripped, so where there is a space more
follows it. -/
def afterSpaces : List Char → Option (List Char)
  | c :: cs =>
    if isSpace c then
      match cs.dropWhile isSpace with
      | [] => none
      | rest => some rest
    else none
  | [] => none

inductive Line
  | blank
  | heading (tag : String) (text : List Char)
  | ordered (text : List Char)
  | unordered (text : List Char)
  | text (line : List Char)

def takeHeading : List Char → Option (String × List Char)
  | '#' :: '#' :: '#' :: rest => (afterSpaces rest).map ("h3", ·)
  | '#' :: '#' :: rest => (afterSpaces rest).map ("h2", ·)
  | _ => none

def takeOrdered (tables : CharTables) (line : List Char) : Option (List Char) :=
  match line.span tables.isDecimal with
  | (_ :: _, '.' :: rest) => afterSpaces rest
  | _ => none

def takeUnordered : List Char → Option (List Char)
  | '-' :: rest | '*' :: rest => afterSpaces rest
  | _ => none

def classify (tables : CharTables) (rawLine : List Char) : Line :=
  let line := stripChars rawLine
  if line = [] then .blank
  else match takeHeading line with
    | some (tag, text) => .heading tag text
    | none => match takeOrdered tables line with
      | some text => .ordered text
      | none => match takeUnordered line with
        | some text => .unordered text
        | none => .text line

/-- The lines put out so far, and what has been collected since. -/
structure Buffers where
  output : List (List Char) := []
  paragraph : List (List Char) := []
  orderedItems : List (List Char) := []
  unorderedItems : List (List Char) := []

def indented (n : ℕ) (s : String) : List Char := List.replicate n ' ' ++ s.toList

/-- `flush_paragraph`. -/
def Buffers.flushParagraph (b : Buffers) : Buffers :=
  if b.paragraph = [] then b
  else { b with
    output := b.output ++ [indented 20 "<p>" ++ inlineMarkdown ([' '].intercalate b.paragraph) ++ "</p>".toList]
    paragraph := [] }

def listBlock (tag : String) (items : List (List Char)) : List (List Char) :=
  [indented 20 ("<" ++ tag ++ ">")] ++
    items.map (fun item => indented 24 "<li>" ++ inlineMarkdown item ++ "</li>".toList) ++
    [indented 20 ("</" ++ tag ++ ">")]

def Buffers.flushOrdered (b : Buffers) : Buffers :=
  if b.orderedItems = [] then b
  else { b with output := b.output ++ listBlock "ol" b.orderedItems, orderedItems := [] }

def Buffers.flushUnordered (b : Buffers) : Buffers :=
  if b.unorderedItems = [] then b
  else { b with output := b.output ++ listBlock "ul" b.unorderedItems, unorderedItems := [] }

def Buffers.flush (b : Buffers) : Buffers := b.flushParagraph.flushOrdered.flushUnordered

def Buffers.addLine (b : Buffers) : Line → Buffers
  | .blank => b.flush
  | .heading tag text =>
    let b := b.flush
    { b with output := b.output ++
        [indented 20 ("<" ++ tag ++ ">") ++ inlineMarkdown text ++ ("</" ++ tag ++ ">").toList] }
  | .ordered text =>
    let b := b.flushParagraph.flushUnordered
    { b with orderedItems := b.orderedItems ++ [text] }
  | .unordered text =>
    let b := b.flushParagraph.flushOrdered
    { b with unorderedItems := b.unorderedItems ++ [text] }
  | .text line =>
    let b := b.flushOrdered.flushUnordered
    { b with paragraph := b.paragraph ++ [line] }

def markdownToHtml (tables : CharTables) (markdown : String) : String :=
  let b := ((splitlines markdown.toList).map (classify tables)).foldl Buffers.addLine {}
  String.ofList (['\n'].intercalate b.flush.output)

end CoreOps.Content
