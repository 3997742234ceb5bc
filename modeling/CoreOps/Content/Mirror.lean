import CoreOps.Content.Pages

/-! What a run leaves in the directory it writes to. The index and the page of every public
article are written, and nothing is taken away: a page of an earlier run stays, and an
article with the slug of the index is written over it. -/

namespace CoreOps.Content

open Checked Text

variable (interpreter : Interpreter)

/-- An article of the directory that is to be seen. -/
def IsPublic (dir : Option ArticlesDir) (article : Article) : Prop :=
  ∃ d name text, dir = some d ∧ d.files.get? name = some (some text) ∧ isMarkdown name = true ∧
    parseArticleFile (d.pathOf name) interpreter text = .ok article ∧ article.Public

/-- The file of an article's page, or of what once was one. -/
def isArticlePage (name : String) : Bool := endsWith name ".html" ∧ name ≠ indexName

/-- The files mirror the public articles: the index lists each of them once, each has its page,
and there is no other page. -/
structure Mirrors (dir : Option ArticlesDir) (files : Table String String) : Prop where
  index : ∃ articles : List Article, articles.Nodup ∧
    (∀ article, article ∈ articles ↔ IsPublic interpreter dir article) ∧ files.get? indexName = some (renderIndex articles)
  pages : ∀ article, IsPublic interpreter dir article →
    files.get? article.pageName = some (renderArticle interpreter article)
  onePage : ∀ a b, IsPublic interpreter dir a → IsPublic interpreter dir b → a.pageName = b.pageName → a = b
  noOther : ∀ name text, files.get? name = some text → isArticlePage name = true →
    ∃ article, IsPublic interpreter dir article ∧ article.pageName = name

/-- No public article takes the place of the index. -/
def SparesIndex (dir : Option ArticlesDir) : Prop :=
  ∀ article, IsPublic interpreter dir article → article.slug ≠ "index"

/-- Every page that is already there is of a public article. -/
def NothingStale (dir : Option ArticlesDir) (files : Table String String) : Prop :=
  ∀ name text, files.get? name = some text → isArticlePage name = true →
    ∃ article, IsPublic interpreter dir article ∧ article.pageName = name

/-! What is loaded. -/

theorem addSlug_ok {bySlug bySlug' : List (String × String)} {article : Article}
    (h : addSlug bySlug article = .ok bySlug') :
    article.slug ∉ bySlug.map (·.1) ∧ bySlug' = bySlug ++ [(article.slug, article.path)] := by
  unfold addSlug at h
  cases hlookup : bySlug.lookup article.slug with
  | some path =>
    rw [hlookup] at h
    cases h
  | none =>
    rw [hlookup] at h
    refine ⟨fun hmem => ?_, (pure_eq_ok.1 h).symm⟩
    obtain ⟨entry, hentry, hslug⟩ := List.mem_map.1 hmem
    have hne := List.lookup_eq_none_iff.1 hlookup entry hentry
    rw [hslug] at hne
    simp at hne

/-- The slugs that pass the check are new and different from one another. -/
theorem addSlugs_ok {articles : List Article} {bySlug bySlug' : List (String × String)}
    (h : articles.foldlM addSlug bySlug = .ok bySlug') :
    (articles.map (·.slug)).Nodup ∧ ∀ article ∈ articles, article.slug ∉ bySlug.map (·.1) := by
  induction articles generalizing bySlug with
  | nil => exact ⟨List.nodup_nil, fun a ha => absurd ha List.not_mem_nil⟩
  | cons first articles ih =>
    rw [List.foldlM_cons, bind_eq_ok] at h
    obtain ⟨bySlug₁, h₁, h₂⟩ := h
    obtain ⟨hfirst, rfl⟩ := addSlug_ok h₁
    obtain ⟨hnodup, hnew⟩ := ih h₂
    have hother : ∀ article ∈ articles, article.slug ≠ first.slug ∧ article.slug ∉ bySlug.map (·.1) := by
      intro article ha
      have hnot := hnew article ha
      rw [List.map_append, List.mem_append, not_or] at hnot
      exact ⟨fun he => hnot.2 (by simp [he]), hnot.1⟩
    refine ⟨List.nodup_cons.2 ⟨fun hmem => ?_, hnodup⟩, fun article ha => ?_⟩
    · obtain ⟨article, ha, heq⟩ := List.mem_map.1 hmem
      exact (hother article ha).1 heq
    · rcases List.mem_cons.1 ha with rfl | ha
      · exact hfirst
      · exact (hother article ha).2

/-- The sources of a directory are its markdown files. -/
theorem mem_sources {d : ArticlesDir} {name : String} {text : Option String} :
    (name, text) ∈ d.sources ↔ d.files.get? name = some text ∧ isMarkdown name = true := by
  unfold ArticlesDir.sources
  rw [(List.mergeSort_perm _ _).mem_iff, List.mem_filter, Table.mem_rows]

theorem readArticle_ok {d : ArticlesDir} {name : String} {text : Option String} {article : Article}
    (h : readArticle interpreter d (name, text) = .ok article) :
    ∃ t, text = some t ∧ parseArticleFile (d.pathOf name) interpreter t = .ok article := by
  simpa only [readArticle, bind_eq_ok, orRaise_eq_ok] using h

/-- What is loaded is every public article, under a slug of its own. -/
theorem loadArticles_ok {dir : Option ArticlesDir} {articles : List Article}
    (h : loadArticles interpreter dir = .ok articles) :
    (∀ article, article ∈ articles ↔ IsPublic interpreter dir article) ∧ (articles.map (·.slug)).Nodup := by
  cases dir with
  | none =>
    obtain rfl := pure_eq_ok.1 h
    refine ⟨fun article => ⟨fun ha => absurd ha List.not_mem_nil, ?_⟩, List.nodup_nil⟩
    rintro ⟨d, name, text, hd, -⟩
    cases hd
  | some d =>
    simp only [loadArticles, bind_eq_ok, pure_eq_ok] at h
    obtain ⟨parsed, hparsed, bySlug, hslugs, rfl⟩ := h
    have hread := mapM_eq_ok hparsed
    have hperm := List.mergeSort_perm (parsed.filter fun article => decide article.Public) newestFirst
    refine ⟨fun article => ?_, ((hperm.map _).nodup_iff).2 (addSlugs_ok hslugs).1⟩
    rw [hperm.mem_iff, List.mem_filter, decide_eq_true_eq]
    constructor
    · rintro ⟨ha, hpublic⟩
      obtain ⟨⟨name, text⟩, hentry, hok⟩ := exists_of_mem_forall₂ hread ha
      obtain ⟨t, rfl, hparse⟩ := readArticle_ok interpreter hok
      obtain ⟨hfile, hmarkdown⟩ := mem_sources.1 hentry
      exact ⟨d, name, t, rfl, hfile, hmarkdown, hparse, hpublic⟩
    · rintro ⟨d', name, text, hd, hfile, hmarkdown, hparse, hpublic⟩
      obtain rfl := Option.some.inj hd
      obtain ⟨b, hb, hok⟩ := exists_of_mem_forall₂_left hread (mem_sources.2 ⟨hfile, hmarkdown⟩)
      obtain ⟨t, ht, hparse'⟩ := readArticle_ok interpreter hok
      obtain rfl := Option.some.inj ht
      obtain rfl := Except.ok.inj (hparse.symm.trans hparse')
      exact ⟨hb, hpublic⟩

/-! What is written. -/

theorem pageName_inj {a b : Article} : a.pageName = b.pageName ↔ a.slug = b.slug := String.append_left_inj _

theorem pageName_eq_indexName {a : Article} : a.pageName = indexName ↔ a.slug = "index" :=
  @String.append_left_inj a.slug "index" ".html"

theorem writeText_ok {out out' : OutputDir} {name content : String} (h : out.writeText name content = .ok out')
    (other : String) :
    out'.files.get? other = if other = name then some content else out.files.get? other := by
  simp only [OutputDir.writeText, bind_eq_ok, pure_eq_ok] at h
  obtain ⟨-, -, rfl⟩ := h
  exact get?_overwrite _ _ _ _

/-- Every page is written, and no other file changes. -/
theorem writeArticles_ok {articles : List Article} {out out' : OutputDir}
    (h : articles.foldlM (writeArticle interpreter) out = .ok out') (hnodup : (articles.map (·.slug)).Nodup) :
    (∀ article ∈ articles, out'.files.get? article.pageName = some (renderArticle interpreter article)) ∧
      ∀ name, (∀ article ∈ articles, article.pageName ≠ name) → out'.files.get? name = out.files.get? name := by
  induction articles generalizing out with
  | nil =>
    obtain rfl := pure_eq_ok.1 h
    exact ⟨fun a ha => absurd ha List.not_mem_nil, fun name _ => rfl⟩
  | cons first articles ih =>
    rw [List.foldlM_cons, bind_eq_ok] at h
    obtain ⟨out₁, h₁, h₂⟩ := h
    obtain ⟨hfirst, hrest⟩ := List.nodup_cons.1 hnodup
    obtain ⟨hpages, hothers⟩ := ih h₂ hrest
    have hafter : ∀ article ∈ articles, article.pageName ≠ first.pageName := by
      intro article ha heq
      exact hfirst (List.mem_map.2 ⟨article, ha, pageName_inj.1 heq⟩)
    refine ⟨fun article ha => ?_, fun name hname => ?_⟩
    · rcases List.mem_cons.1 ha with rfl | ha
      · rw [hothers _ hafter, writeText_ok h₁, if_pos rfl]
      · exact hpages article ha
    · obtain ⟨hne, hname⟩ := List.forall_mem_cons.1 hname
      rw [hothers name hname, writeText_ok h₁, if_neg hne.symm]

/-- What a run does to the files. -/
structure Generated (dir : Option ArticlesDir) (files files' : Table String String) (articles : List Article) : Prop where
  listed : ∀ article, article ∈ articles ↔ IsPublic interpreter dir article
  slugs : (articles.map (·.slug)).Nodup
  pages : ∀ article ∈ articles, files'.get? article.pageName = some (renderArticle interpreter article)
  index : (∀ article ∈ articles, article.slug ≠ "index") → files'.get? indexName = some (renderIndex articles)
  others : ∀ name, name ≠ indexName → (∀ article ∈ articles, article.pageName ≠ name) → files'.get? name = files.get? name

theorem generateInsights_ok {dir : Option ArticlesDir} {out out' : OutputDir} {written : List String}
    (h : generateInsights interpreter dir out = .ok (written, out')) :
    ∃ articles, Generated interpreter dir out.files out'.files articles := by
  simp only [generateInsights, bind_eq_ok, pure_eq_ok, Prod.mk.injEq] at h
  obtain ⟨articles, hload, out₁, hindex, out₂, hpages, -, rfl⟩ := h
  obtain ⟨hlisted, hslugs⟩ := loadArticles_ok interpreter hload
  obtain ⟨hwritten, hothers⟩ := writeArticles_ok interpreter hpages hslugs
  refine ⟨articles, hlisted, hslugs, hwritten, fun hspares => ?_, fun name hne hname => ?_⟩
  · rw [hothers _ fun article ha heq => hspares article ha (pageName_eq_indexName.1 heq), writeText_ok hindex, if_pos rfl]
  · rw [hothers name hname, writeText_ok hindex, if_neg hne]

section Mirroring

variable {dir : Option ArticlesDir} {files files' : Table String String} {articles : List Article}

theorem Mirrors.sparesIndex (h : Mirrors interpreter dir files) : SparesIndex interpreter dir := by
  intro article hpublic hslug
  obtain ⟨listed, -, -, hindex⟩ := h.index
  have hpage := h.pages article hpublic
  rw [pageName_eq_indexName.2 hslug, hindex] at hpage
  exact renderIndex_ne_renderArticle interpreter listed article (Option.some.inj hpage)

/-- A page that is of no public article was there before. -/
theorem Generated.kept (h : Generated interpreter dir files files' articles) {name : String}
    (hname : isArticlePage name = true) (hno : ¬ ∃ article, IsPublic interpreter dir article ∧ article.pageName = name) :
    files'.get? name = files.get? name :=
  h.others name (of_decide_eq_true hname).2 fun article ha heq => hno ⟨article, (h.listed article).1 ha, heq⟩

theorem Generated.nothingStale (h : Generated interpreter dir files files' articles)
    (hm : Mirrors interpreter dir files') : NothingStale interpreter dir files := by
  intro name text hold hname
  by_contra hno
  exact hno (hm.noOther name text ((h.kept interpreter hname hno).trans hold) hname)

theorem Generated.mirrors (h : Generated interpreter dir files files' articles) (hspares : SparesIndex interpreter dir)
    (hstale : NothingStale interpreter dir files) : Mirrors interpreter dir files' where
  index := ⟨articles, h.slugs.of_map _, h.listed, h.index fun article ha => hspares article ((h.listed article).1 ha)⟩
  pages article hpublic := h.pages article ((h.listed article).2 hpublic)
  onePage a b ha hb heq :=
    List.inj_on_of_nodup_map h.slugs ((h.listed a).2 ha) ((h.listed b).2 hb) (pageName_inj.1 heq)
  noOther name text hold hname := by
    by_contra hno
    exact hno (hstale name text ((h.kept interpreter hname hno).symm.trans hold) hname)

end Mirroring

/-- A run leaves a mirror of the public articles exactly when none of them has the slug of the
index and no page of another article was there before. -/
theorem insights_mirror_iff {dir : Option ArticlesDir} {out out' : OutputDir} {written : List String}
    (h : generateInsights interpreter dir out = .ok (written, out')) :
    Mirrors interpreter dir out'.files ↔ SparesIndex interpreter dir ∧ NothingStale interpreter dir out.files := by
  obtain ⟨articles, hg⟩ := generateInsights_ok interpreter h
  constructor
  · intro hm
    exact ⟨hm.sparesIndex interpreter, hg.nothingStale interpreter hm⟩
  · rintro ⟨hspares, hstale⟩
    exact hg.mirrors interpreter hspares hstale

section Examples

def demoInterpreter : Interpreter := ⟨.ascii, fun date => date.toList.length = 10⟩

def demoArticleText (slug status : String) : String :=
  "---\ntitle: \"T\"\ndate: 2026-06-23\ncategory: c\nslug: " ++ slug ++ "\nstatus: " ++ status ++
    "\ndescription: d\nsource: s\ncta: a\nimage: /i.png\n---\n\nText\n"

/-- A directory with one article. -/
def demoArticles (slug status : String) : ArticlesDir :=
  ⟨"articles", ⟨[("one.md", some (demoArticleText slug status))], List.nodup_singleton _⟩⟩

def demoArticle (slug status : String) : Article :=
  { path := "articles/one.md", title := "T", date := "2026-06-23", category := "c", slug := slug, status := status,
    description := "d", source := "s", cta := "a", image := "/i.png", body := "Text" }

/-- A directory with one page, of an article with the slug one. -/
def demoSite : OutputDir := ⟨⟨[("one.html", "one")], List.nodup_singleton _⟩, []⟩

theorem isPublic_demoArticle {slug status : String}
    (hload : loadArticles demoInterpreter (some (demoArticles slug status)) = .ok [demoArticle slug status]) (article : Article) :
    IsPublic demoInterpreter (some (demoArticles slug status)) article ↔ article = demoArticle slug status := by
  rw [← (loadArticles_ok demoInterpreter hload).1 article, List.mem_singleton]

theorem loadArticles_demo :
    loadArticles demoInterpreter (some (demoArticles "index" "approved")) = .ok [demoArticle "index" "approved"] ∧
      loadArticles demoInterpreter (some (demoArticles "one" "draft")) = .ok [] ∧
      loadArticles demoInterpreter (some (demoArticles "one" "approved")) = .ok [demoArticle "one" "approved"] := by
  decide +kernel

/-- An article with the slug index takes the place of the index; the page of an article that is
a draft now stays. -/
theorem insights_not_mirrored :
    (∃ written out', generateInsights demoInterpreter (some (demoArticles "index" "approved")) ⟨∅, []⟩ =
      .ok (written, out') ∧ ¬ Mirrors demoInterpreter (some (demoArticles "index" "approved")) out'.files) ∧
    ∃ written out', generateInsights demoInterpreter (some (demoArticles "one" "draft")) demoSite =
      .ok (written, out') ∧ ¬ Mirrors demoInterpreter (some (demoArticles "one" "draft")) out'.files := by
  obtain ⟨hindex, hdraft, -⟩ := loadArticles_demo
  constructor
  · obtain ⟨⟨written, out'⟩, hrun⟩ := exists_of_isOk (x := generateInsights demoInterpreter
      (some (demoArticles "index" "approved")) ⟨∅, []⟩) (by rw [generateInsights, hindex]; rfl)
    refine ⟨written, out', hrun, fun hm => ?_⟩
    exact hm.sparesIndex demoInterpreter _ ((isPublic_demoArticle hindex _).2 rfl) rfl
  · obtain ⟨⟨written, out'⟩, hrun⟩ := exists_of_isOk (x := generateInsights demoInterpreter
      (some (demoArticles "one" "draft")) demoSite) (by rw [generateInsights, hdraft]; rfl)
    obtain ⟨articles, hg⟩ := generateInsights_ok demoInterpreter hrun
    refine ⟨written, out', hrun, fun hm => ?_⟩
    obtain ⟨article, hpublic, -⟩ := hg.nothingStale demoInterpreter hm "one.html" "one" rfl (by decide)
    exact List.not_mem_nil (((loadArticles_ok demoInterpreter hdraft).1 article).2 hpublic)

/-- The theorem where the page that is there is of the article. -/
theorem insights_mirror_one : ∃ written out',
    generateInsights demoInterpreter (some (demoArticles "one" "approved")) demoSite = .ok (written, out') ∧
    Mirrors demoInterpreter (some (demoArticles "one" "approved")) out'.files := by
  have hload := loadArticles_demo.2.2
  obtain ⟨⟨written, out'⟩, hrun⟩ := exists_of_isOk (x := generateInsights demoInterpreter
    (some (demoArticles "one" "approved")) demoSite) (by rw [generateInsights, hload]; rfl)
  refine ⟨written, out', hrun, (insights_mirror_iff demoInterpreter hrun).2 ⟨fun article hpublic => ?_, ?_⟩⟩
  · rw [(isPublic_demoArticle hload article).1 hpublic]
    decide
  · intro name text hold hname
    obtain ⟨rfl, -⟩ := Prod.mk.inj (List.mem_singleton.1 (Table.mem_rows.2 hold))
    exact ⟨_, (isPublic_demoArticle hload _).2 rfl, rfl⟩

end Examples

end CoreOps.Content
