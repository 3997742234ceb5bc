import Mathlib.Data.List.Sort
import CoreOps.Content.Markdown
import CoreOps.Lib.Checked
import CoreOps.Lib.Table

/-! The generator of the static insights pages: articles are read from markdown files with
frontmatter, and an index and one page for each public article are written. What the
generator prints is left out. -/

namespace CoreOps.Content

open Checked Text

/-! Articles. -/

def siteOrigin : String := "https://www.flexity.asia"

def publicStatuses : List String := ["approved", "published"]

def requiredFields : List String :=
  ["title", "date", "category", "slug", "status", "description", "source", "cta", "image"]

structure Article where
  path : String
  title : String
  date : String
  category : String
  slug : String
  status : String
  description : String
  source : String
  cta : String
  image : String
  body : String
  deriving DecidableEq, Repr

namespace Article

variable (article : Article)

def urlPath : String := "/insights/" ++ article.slug ++ ".html"

def canonicalUrl : String := siteOrigin ++ article.urlPath

def imageUrl : String :=
  if startsWith article.image "https://" then article.image
  else if startsWith article.image "/" then siteOrigin ++ article.image
  else siteOrigin ++ "/" ++ article.image

def Public : Prop := article.status ∈ publicStatuses

instance : Decidable article.Public := inferInstanceAs (Decidable (_ ∈ _))

end Article

/-! `parse_article_file`. -/

/-- What the generator raises: its own error with its text, or an error of the file system or
of the decoding of a file. -/
inductive InsightsException
  | generationError (message : String)
  | fileError (path : String)
  deriving DecidableEq, Repr

/-- What the interpreter's library decides. -/
structure Interpreter where
  tables : CharTables
  /-- `date.fromisoformat` does not raise. -/
  isIsoDate : String → Bool

/-- `[a-z0-9]+(?:-[a-z0-9]+)*`. -/
def slugIsValid (value : String) : Bool :=
  (value.toList.splitOn '-').all fun group => group ≠ [] ∧ group.all fun c => ('a' ≤ c ∧ c ≤ 'z') ∨ ('0' ≤ c ∧ c ≤ '9')

/-- The same quotation mark at the head and at the end. -/
def quotedBy (mark : Char) (value : List Char) : Bool := value.head? = some mark ∧ value.getLast? = some mark

def parseFrontmatterValue (raw : List Char) : Option (List Char) :=
  let value := stripChars raw
  if value = [] then none
  else if quotedBy '"' value ∨ quotedBy (Char.ofNat 39) value then some value.tail.dropLast
  else some value

/-- The fields of the frontmatter so far. -/
abbrev Frontmatter := List (List Char × Option (List Char))

section Parsing

variable (path : String)

def generationError (message : String) : InsightsException := .generationError (path ++ ": " ++ message)

def parseFrontmatterLine (frontmatter : Frontmatter) (entry : List Char × ℕ) : Except InsightsException Frontmatter := do
  let (line, lineNumber) := entry
  if stripChars line = [] then return frontmatter
  let (key, rawValue) ← orRaise (splitFirst [':'] line)
    (.generationError (path ++ ":" ++ Nat.repr lineNumber ++ ": frontmatter lines must use key: value"))
  let key := stripChars key
  raiseIf (key ∈ frontmatter.map (·.1))
    (generationError path ("duplicate frontmatter field " ++ String.ofList key))
  return frontmatter ++ [(key, parseFrontmatterValue rawValue)]

def parseFrontmatter (text : List Char) : Except InsightsException Frontmatter :=
  ((splitlines text).zipIdx 2).foldlM (parseFrontmatterLine path) []

/-- The value of a field, when it is there and is not empty. -/
def Frontmatter.value? (frontmatter : Frontmatter) (field : String) : Option String :=
  (frontmatter.lookup field.toList).join.map String.ofList

/-- `str(frontmatter[field]).strip()`. -/
def Frontmatter.data (frontmatter : Frontmatter) (field : String) : String := strip ((frontmatter.value? field).getD "")

def parseArticleFile (interpreter : Interpreter) (text : String) : Except InsightsException Article := do
  let separator := "---\n".toList
  let chars := universalNewlines text.toList
  raiseIf (separator.isPrefixOf chars = false) (generationError path "missing YAML frontmatter block")
  let (frontmatterText, body) ← orRaise (splitFirst separator (chars.drop separator.length))
    (generationError path "frontmatter must start and end with ---")
  let frontmatter ← parseFrontmatter path frontmatterText
  let missing := requiredFields.filter fun field => frontmatter.value? field = none
  raiseIf (missing ≠ []) (generationError path ("missing required frontmatter fields: " ++ ", ".intercalate missing))
  let data := frontmatter.data
  raiseIf (slugIsValid (data "slug") = false) (generationError path "slug must be lowercase kebab-case")
  raiseIf (data "status" ∉ publicStatuses ∧ data "status" ≠ "draft")
    (generationError path "status must be draft, approved, or published")
  raiseIf (startsWith (data "image") "/" = false ∧ startsWith (data "image") "https://" = false)
    (generationError path "image must be an absolute site path or HTTPS URL")
  raiseIf (interpreter.isIsoDate (data "date") = false) (generationError path "date must use YYYY-MM-DD")
  raiseIf (stripChars body = []) (generationError path "article body must not be empty")
  return {
    path, title := data "title", date := data "date", category := data "category", slug := data "slug",
    status := data "status", description := data "description", source := data "source", cta := data "cta",
    image := data "image", body := String.ofList (stripChars body) }

end Parsing

/-! `load_articles`. -/

/-- The files of the directory of articles, by their names; `none` is what cannot be read as
text: another thing than a file, or a file in another encoding. -/
structure ArticlesDir where
  path : String
  files : Table String (Option String)

variable (interpreter : Interpreter)

/-- The names that `*.md` matches. -/
def isMarkdown (name : String) : Bool := endsWith name ".md"

def ArticlesDir.pathOf (dir : ArticlesDir) (name : String) : String := dir.path ++ "/" ++ name

def readArticle (dir : ArticlesDir) (entry : String × Option String) : Except InsightsException Article := do
  let text ← orRaise entry.2 (.fileError (dir.pathOf entry.1))
  parseArticleFile (dir.pathOf entry.1) interpreter text

/-- `sorted(articles_dir.glob("*.md"))`. -/
def ArticlesDir.sources (dir : ArticlesDir) : List (String × Option String) :=
  (dir.files.rows.filter fun entry => isMarkdown entry.1).mergeSort fun a b => a.1 ≤ b.1

/-- One step of the check for slugs that come twice. -/
def addSlug (bySlug : List (String × String)) (article : Article) : Except InsightsException (List (String × String)) := do
  match bySlug.lookup article.slug with
  | some path => throw (.generationError
      ("duplicate public article slug " ++ article.slug ++ ": " ++ path ++ " and " ++ article.path))
  | none => return bySlug ++ [(article.slug, article.path)]

/-- Newest first, and the slugs backwards on one day. -/
def newestFirst (a b : Article) : Bool := b.date < a.date ∨ b.date = a.date ∧ b.slug ≤ a.slug

/-- `load_articles`; `none` is a directory that does not exist. -/
def loadArticles : Option ArticlesDir → Except InsightsException (List Article)
  | none => return []
  | some dir => do
    let articles ← dir.sources.mapM (readArticle interpreter dir)
    let listed := articles.filter fun article => article.Public
    let _ ← listed.foldlM addSlug []
    return listed.mergeSort newestFirst

/-! `generate_insights`. -/

/-- The directory that is written to: the texts of its files, and the names that cannot be
written. -/
structure OutputDir where
  files : Table String String
  refused : List String

/-- The files once one of them holds the text, whether it was there before or not. -/
def overwrite (files : Table String String) (name content : String) : Table String String :=
  (files.insert name content).modify name fun _ => content

theorem get?_overwrite (files : Table String String) (name content other : String) :
    (overwrite files name content).get? other = if other = name then some content else files.get? other := by
  unfold overwrite
  by_cases h : other = name
  · subst h
    rw [Table.get?_modify_self, Table.get?_insert, if_pos rfl, if_pos rfl, Option.map_some]
  · rw [Table.get?_modify_of_ne _ h, Table.get?_insert, if_neg h, if_neg h]

def OutputDir.writeText (out : OutputDir) (name content : String) : Except InsightsException OutputDir := do
  raiseIf (name ∈ out.refused) (.fileError name)
  return { out with files := overwrite out.files name content }

def indexName : String := "index.html"

def Article.pageName (article : Article) : String := article.slug ++ ".html"

end CoreOps.Content
