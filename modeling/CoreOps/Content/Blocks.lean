import CoreOps.Content.Markdown

/-! The blocks of an article. The three buffers are never filled at once, so what they hold
with the lines to come is what is left to be put out. -/

namespace CoreOps.Content

open Text

/-- What lines are collected in. -/
inductive Kind
  | paragraph
  | ordered
  | unordered
  deriving DecidableEq

inductive Block
  | heading (tag : String) (text : List Char)
  | collected (kind : Kind) (texts : List (List Char))

def Kind.line : Kind → List Char → Line
  | .paragraph => .text
  | .ordered => .ordered
  | .unordered => .unordered

/-- The lines of output of a block. -/
def Block.render : Block → List (List Char)
  | .heading tag text => [indented 20 ("<" ++ tag ++ ">") ++ inlineMarkdown text ++ ("</" ++ tag ++ ">").toList]
  | .collected .paragraph texts => [indented 20 "<p>" ++ inlineMarkdown ([' '].intercalate texts) ++ "</p>".toList]
  | .collected .ordered texts => listBlock "ol" texts
  | .collected .unordered texts => listBlock "ul" texts

/-- The blocks have every line that is not blank once and in order: a heading is a block of its
own, and lines of another kind that follow one another, as many as there are, are one block. -/
inductive Arranged : List Line → List Block → Prop
  | nil : Arranged [] []
  | blank {lines : List Line} {blocks : List Block} (h : Arranged lines blocks) : Arranged (.blank :: lines) blocks
  | heading {tag : String} {text : List Char} {lines : List Line} {blocks : List Block} (h : Arranged lines blocks) :
      Arranged (.heading tag text :: lines) (.heading tag text :: blocks)
  | run {kind : Kind} {texts : List (List Char)} {lines : List Line} {blocks : List Block} (hne : texts ≠ [])
      (hend : ∀ text rest, lines ≠ kind.line text :: rest) (h : Arranged lines blocks) :
      Arranged (texts.map kind.line ++ lines) (.collected kind texts :: blocks)

/-- Buffers of which one at most holds anything. -/
def holding (output : List (List Char)) : Kind → List (List Char) → Buffers
  | .paragraph, texts => ⟨output, texts, [], []⟩
  | .ordered, texts => ⟨output, [], texts, []⟩
  | .unordered, texts => ⟨output, [], [], texts⟩

/-- The block of what is held, if anything is. -/
def pending (kind : Kind) (texts : List (List Char)) : List Block := if texts = [] then [] else [.collected kind texts]

section Buffers

variable {output : List (List Char)} {kind other : Kind} {texts : List (List Char)} {text : List Char}

theorem flush_holding : (holding output kind texts).flush =
    holding (output ++ (pending kind texts).flatMap Block.render) kind [] := by
  by_cases h : texts = []
  · subst h
    cases kind <;> simp [holding, pending, Buffers.flush, Buffers.flushParagraph, Buffers.flushOrdered, Buffers.flushUnordered]
  · cases kind <;> simp [holding, pending, Block.render, Buffers.flush, Buffers.flushParagraph, Buffers.flushOrdered,
      Buffers.flushUnordered, h]

theorem addLine_same : (holding output kind texts).addLine (kind.line text) = holding output kind (texts ++ [text]) := by
  cases kind <;> rfl

/-- A line of another kind empties the buffer. -/
theorem addLine_other (hkind : other ≠ kind) : (holding output kind texts).addLine (other.line text) =
    holding (output ++ (pending kind texts).flatMap Block.render) other [text] := by
  by_cases h : texts = []
  · subst h
    cases kind <;> cases other <;> first
      | exact absurd rfl hkind
      | simp [holding, pending, Kind.line, Buffers.addLine, Buffers.flushParagraph, Buffers.flushOrdered,
          Buffers.flushUnordered]
  · cases kind <;> cases other <;> first
      | exact absurd rfl hkind
      | simp [holding, pending, Block.render, Kind.line, Buffers.addLine, Buffers.flushParagraph, Buffers.flushOrdered,
          Buffers.flushUnordered, h]

theorem addLine_heading {tag : String} : (holding output kind texts).addLine (.heading tag text) =
    holding (output ++ (pending kind texts ++ [Block.heading tag text]).flatMap Block.render) kind [] := by
  rw [Buffers.addLine, flush_holding]
  cases kind <;> simp [holding, Block.render]

end Buffers

/-- Nothing is lost when a run of lines ends. -/
theorem Arranged.pending {kind : Kind} {texts : List (List Char)} {lines : List Line} {blocks : List Block}
    (hend : ∀ text rest, lines ≠ kind.line text :: rest) (h : Arranged lines blocks) :
    Arranged (texts.map kind.line ++ lines) (pending kind texts ++ blocks) := by
  unfold Content.pending
  split
  · rename_i hnil
    rw [hnil]
    exact h
  · rename_i hne
    exact .run hne hend h

theorem Kind.line_inj {kind other : Kind} {text text' : List Char} (h : kind.line text = other.line text') : kind = other := by
  cases kind <;> cases other <;> first | rfl | cases h

theorem foldl_addLine (lines : List Line) (output : List (List Char)) (kind : Kind) (texts : List (List Char)) :
    ∃ blocks, Arranged (texts.map kind.line ++ lines) blocks ∧
      (lines.foldl Buffers.addLine (holding output kind texts)).flush.output = output ++ blocks.flatMap Block.render := by
  induction lines generalizing output kind texts with
  | nil =>
    refine ⟨pending kind texts ++ [], Arranged.nil.pending fun _ _ h => (by cases h), ?_⟩
    rw [List.foldl_nil, flush_holding, List.append_nil]
    cases kind <;> rfl
  | cons line lines ih =>
    rw [List.foldl_cons]
    have hcollect (text : List Char) (other : Kind) (hline : line = other.line text) :
        ∃ blocks, Arranged (texts.map kind.line ++ line :: lines) blocks ∧
          (lines.foldl Buffers.addLine ((holding output kind texts).addLine line)).flush.output =
            output ++ blocks.flatMap Block.render := by
      by_cases hkind : other = kind
      · -- the run goes on
        obtain ⟨blocks, harranged, houtput⟩ := ih output kind (texts ++ [text])
        rw [hline, hkind, addLine_same]
        refine ⟨blocks, ?_, houtput⟩
        rw [List.map_append, List.append_assoc] at harranged
        exact harranged
      · obtain ⟨blocks, harranged, houtput⟩ := ih (output ++ (pending kind texts).flatMap Block.render) other [text]
        rw [hline, addLine_other hkind]
        refine ⟨pending kind texts ++ blocks, Arranged.pending (fun text' rest h => hkind ?_) harranged, ?_⟩
        · exact Kind.line_inj (List.cons.inj h).1
        · rw [houtput, List.flatMap_append, List.append_assoc]
    cases line with
    | blank =>
      obtain ⟨blocks, harranged, houtput⟩ := ih (output ++ (pending kind texts).flatMap Block.render) kind []
      refine ⟨pending kind texts ++ blocks, harranged.blank.pending fun text rest h => ?_, ?_⟩
      · cases kind <;> cases (List.cons.inj h).1
      · rw [Buffers.addLine, flush_holding, houtput, List.flatMap_append, List.append_assoc]
    | heading tag text =>
      obtain ⟨blocks, harranged, houtput⟩ :=
        ih (output ++ (pending kind texts ++ [Block.heading tag text]).flatMap Block.render) kind []
      refine ⟨pending kind texts ++ .heading tag text :: blocks, harranged.heading.pending fun text' rest h => ?_, ?_⟩
      · cases kind <;> cases (List.cons.inj h).1
      · rw [addLine_heading, houtput, List.append_assoc, ← List.flatMap_append, List.append_assoc, List.singleton_append]
    | ordered text => exact hcollect text .ordered rfl
    | unordered text => exact hcollect text .unordered rfl
    | text text => exact hcollect text .paragraph rfl

end CoreOps.Content
