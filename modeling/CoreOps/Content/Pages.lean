import CoreOps.Content.Insights

/-! The pages as they are rendered: one for the index, and one for each article. -/

namespace CoreOps.Content

open Text

/-- Lines with a line feed after each. -/
def document (lines : List String) : String := String.join (lines.map (· ++ "\n"))

/-- Lines with a line feed between them. -/
def joined (lines : List String) : String := "\n".intercalate lines

def bootstrapCss : String := "https://cdn.jsdelivr.net/npm/bootstrap@5.3.3/dist/css/bootstrap.min.css"

def bootstrapCssIntegrity : String := "sha384-QWTKZyjpPEjISv5WaRU9OFeRpok6YctnYmDr5pNlyT2bRjXh0JMhjY6hW+ALEwIH"

def bootstrapJs : String := "https://cdn.jsdelivr.net/npm/bootstrap@5.3.3/dist/js/bootstrap.bundle.min.js"

def bootstrapJsIntegrity : String := "sha384-YvpcrYf0tY3lHB60NNkmXc5s9fDVZLESaAA55NDzOxhy9GkcIdslK1eN7N6jIeHz"

def renderHead (title description canonicalUrl imageUrl : String) : String :=
  joined [
    "    <meta charset=\"UTF-8\">",
    "    <meta name=\"viewport\" content=\"width=device-width, initial-scale=1\">",
    "    <title>" ++ escape title ++ "</title>",
    "    <meta name=\"description\" content=\"" ++ escape description ++ "\">",
    "    <link rel=\"canonical\" href=\"" ++ escape canonicalUrl ++ "\">",
    "    <meta property=\"og:type\" content=\"article\">",
    "    <meta property=\"og:title\" content=\"" ++ escape title ++ "\">",
    "    <meta property=\"og:description\" content=\"" ++ escape description ++ "\">",
    "    <meta property=\"og:url\" content=\"" ++ escape canonicalUrl ++ "\">",
    "    <meta property=\"og:image\" content=\"" ++ escape imageUrl ++ "\">",
    "    <meta property=\"og:site_name\" content=\"Flexity\">",
    "    <link rel=\"icon\" href=\"/assets/favicon.ico\" type=\"image/x-icon\">",
    "    <link href=\"" ++ bootstrapCss ++ "\" rel=\"stylesheet\"",
    "        integrity=\"" ++ bootstrapCssIntegrity ++ "\" crossorigin=\"anonymous\">",
    "    <link rel=\"stylesheet\" href=\"/assets/site.css\">"]

def navItem (active href label : String) : String :=
  "                    <li class=\"nav-item\"><a class=\"nav-link text-light" ++ active ++ "\" href=\"" ++ href ++
    "\">" ++ label ++ "</a></li>"

/-- `render_nav`, which is only called with its default. -/
def renderNav : String :=
  joined [
    "    <nav class=\"navbar navbar-expand-lg navbar-dark fixed-top border-bottom border-secondary-subtle\">",
    "        <div class=\"container\">",
    "            <a class=\"navbar-brand d-flex align-items-center gap-2 text-light\" href=\"/\">",
    "                <img src=\"/assets/flexity-logo.svg\" alt=\"Flexity\" height=\"28\"><span>FLEXITY</span>",
    "            </a>",
    "            <button class=\"navbar-toggler text-light border-0\" type=\"button\" data-bs-toggle=\"collapse\"",
    "                data-bs-target=\"#mainNav\"><span class=\"navbar-toggler-icon\"></span></button>",
    "            <div class=\"collapse navbar-collapse\" id=\"mainNav\">",
    "                <ul class=\"navbar-nav me-auto mb-2 mb-lg-0\">",
    navItem "" "/solutions/" "Решения",
    navItem "" "/services/" "Услуги",
    navItem "" "/diagnostics/free.html" "Диагностика",
    navItem " active" "/insights/" "Insights",
    navItem "" "/cases/" "Кейсы",
    navItem "" "/calculators/" "Калькуляторы",
    navItem "" "/demo/" "Демо",
    "                </ul>",
    "                <div class=\"d-flex gap-2\">",
    "                    <a class=\"btn btn-outline-light btn-sm\" href=\"https://flexity.asia/console/login\">" ++
      "Войти в систему</a>",
    "                    <a class=\"btn btn-primary btn-sm\" href=\"/diagnostics/free.html\">" ++
      "Бесплатная диагностика</a>",
    "                </div>",
    "            </div>",
    "        </div>",
    "    </nav>"]

/-- The card at the end of a page, with the classes it has there. -/
def ctaCard (classes : String) : List String :=
  ["            <div class=\"" ++ classes ++ "\">",
    "                <h2 class=\"section-title h4\">Не знаете, с чего начать?</h2>",
    "                <p class=\"mb-3\">Не знаете, с чего начать автоматизацию? Начните с бесплатной диагностики — " ++
      "короткий разбор процесса без обязательств.</p>",
    "                <div class=\"d-flex flex-wrap gap-2\">",
    "                    <a class=\"btn btn-primary\" href=\"/diagnostics/free.html\">Бесплатная диагностика</a>",
    "                    <a class=\"btn btn-outline-light\" href=\"/demo/\">Запросить демо</a>",
    "                </div>",
    "            </div>"]

def renderInsightsCta : String := joined (ctaCard "contact-card mt-4")

def renderFooter : String :=
  joined [
    "    <footer>",
    "        <div class=\"container\"><span>© <span id=\"year\"></span> Flexity</span></div>",
    "    </footer>",
    "    <script>document.getElementById('year').textContent = new Date().getFullYear();</script>",
    "    <script src=\"" ++ bootstrapJs ++ "\"",
    "        integrity=\"" ++ bootstrapJsIntegrity ++ "\" crossorigin=\"anonymous\"></script>"]

/-- The lines of a page before its `main`. -/
def pageHead (head : String) : List String :=
  ["<!DOCTYPE html>", "<html lang=\"ru\">", "", "<head>", head, "</head>", "", "<body>", renderNav, "",
    "    <main class=\"page-hero\">"]

/-- The lines of a page after what is in its `main`. -/
def pageTail : List String := ["    </main>", "", renderFooter, "</body>", "", "</html>"]

def renderCard (article : Article) : String :=
  joined [
    "                <article class=\"card-module p-4 h-100\">",
    "                    <div class=\"badge-soft mb-3\">" ++ escape article.category ++ "</div>",
    "                    <h2 class=\"section-title h4 mb-2\">",
    "                        <a href=\"" ++ escape article.urlPath ++ "\">" ++ escape article.title ++ "</a>",
    "                    </h2>",
    "                    <p class=\"small text-secondary mb-2\">" ++ escape article.date ++ "</p>",
    "                    <p class=\"mb-3\">" ++ escape article.description ++ "</p>",
    "                    <a class=\"btn btn-sm btn-primary\" href=\"" ++ escape article.urlPath ++
      "\">Читать материал</a>",
    "                </article>"]

/-- A card in its column of the grid. -/
def gridCell (article : Article) : String :=
  joined ["            <div class=\"col-md-6\">", renderCard article, "            </div>"]

/-- What the grid holds when there is no article. -/
def emptyGrid : String :=
  joined [
    "            <div class=\"col-12\">",
    "                <div class=\"contact-card\">",
    "                    <p class=\"mb-0 text-secondary\">Публикации готовятся.</p>",
    "                </div>",
    "            </div>"]

def articleGrid (articles : List Article) : String :=
  if articles = [] then emptyGrid else joined (articles.map gridCell)

def indexDescription : String :=
  "Материалы Flexity о CRM, учёте, AI и автоматизации для владельцев и операционных директоров."

def renderIndex (articles : List Article) : String :=
  document (pageHead (renderHead "Insights — Flexity" indexDescription (siteOrigin ++ "/insights/")
      (siteOrigin ++ "/assets/flexity-logo.svg")) ++
    ["        <div class=\"container\">",
      "            <nav aria-label=\"breadcrumb\">",
      "                <ol class=\"breadcrumb\">",
      "                    <li class=\"breadcrumb-item\"><a href=\"/\">Главная</a></li>",
      "                    <li class=\"breadcrumb-item active\">Insights</li>",
      "                </ol>",
      "            </nav>",
      "            <div class=\"badge-soft mb-3\">Контент-хаб</div>",
      "            <h1 class=\"page-title mb-3\">Insights</h1>",
      "            <p class=\"page-lead mb-4\">" ++ escape indexDescription ++ "</p>",
      "",
      "            <div class=\"row g-4\">",
      articleGrid articles,
      "            </div>",
      "",
      renderInsightsCta] ++
    ["        </div>"] ++ pageTail)

variable (interpreter : Interpreter)

def renderArticle (article : Article) : String :=
  document (pageHead (renderHead (article.title ++ " — Flexity") article.description article.canonicalUrl
      article.imageUrl) ++
    ["        <article class=\"container\">",
      "            <nav aria-label=\"breadcrumb\">",
      "                <ol class=\"breadcrumb\">",
      "                    <li class=\"breadcrumb-item\"><a href=\"/\">Главная</a></li>",
      "                    <li class=\"breadcrumb-item\"><a href=\"/insights/\">Insights</a></li>",
      "                    <li class=\"breadcrumb-item active\">" ++ escape article.title ++ "</li>",
      "                </ol>",
      "            </nav>",
      "            <div class=\"badge-soft mb-3\">" ++ escape article.category ++ "</div>",
      "            <h1 class=\"page-title mb-3\">" ++ escape article.title ++ "</h1>",
      "            <p class=\"page-lead mb-3\">" ++ escape article.description ++ "</p>",
      "            <p class=\"small text-secondary mb-4\">",
      "                " ++ escape article.date ++ " · Источник: " ++ escape article.source,
      "            </p>",
      "            <img class=\"img-fluid rounded mb-4\" src=\"" ++ escape article.image ++ "\" alt=\"" ++
        escape article.title ++ "\">",
      "            <div class=\"contact-card mb-4\">",
      markdownToHtml interpreter.tables article.body,
      "            </div>"] ++
    ctaCard "contact-card" ++ ["        </article>"] ++ pageTail)

/-! `generate_insights`. -/

def writeArticle (out : OutputDir) (article : Article) : Except InsightsException OutputDir :=
  out.writeText article.pageName (renderArticle interpreter article)

/-- `generate_insights`: the names that were written, and the directory with them. -/
def generateInsights (articlesDir : Option ArticlesDir) (out : OutputDir) :
    Except InsightsException (List String × OutputDir) := do
  let articles ← loadArticles interpreter articlesDir
  let out ← out.writeText indexName (renderIndex articles)
  let out ← articles.foldlM (writeArticle interpreter) out
  return (indexName :: articles.map (·.pageName), out)

/-! The index and an article are never the same page. -/

theorem document_append (lines lines' : List String) : document (lines ++ lines') = document lines ++ document lines' := by
  unfold document
  induction lines with
  | nil => simp
  | cons line lines => simp [String.append_assoc]

/-- Pages that close another element before the same end. -/
theorem document_ne (lines lines' tail : List String) :
    document (lines ++ ["        </div>"] ++ tail) ≠ document (lines' ++ ["        </article>"] ++ tail) := by
  intro heq
  simp only [document_append] at heq
  have hsame := congrArg String.toList ((String.append_left_inj _).1 heq)
  have hdiv : (document ["        </div>"]).toList = "        </di".toList ++ "v>\n".toList := by decide
  have harticle : (document ["        </article>"]).toList = "        </articl".toList ++ "e>\n".toList := by decide
  rw [String.toList_append, String.toList_append, hdiv, harticle, ← List.append_assoc, ← List.append_assoc] at hsame
  exact absurd (List.append_inj_right' hsame rfl) (by decide)

theorem renderIndex_ne_renderArticle (articles : List Article) (article : Article) :
    renderIndex articles ≠ renderArticle interpreter article := document_ne _ _ _

end CoreOps.Content
