import Vitae.Proofs.AlikeWalks
import Vitae.Proofs.SkippedSections
import Vitae.Resume

/-! One output, whichever way it is asked for. A resume and the conversion in one call show the same, with or
without counts, and a visitor that leaves nothing out is no visitor. -/

namespace Vitae

private theorem Visitor.attached_eq (titles : List String) :
    (Visitor.attached titles : Visitor Unit) = .skipSections titles := by
  cases titles with
  | nil => simp [attached, skipSections]
  | cons title titles => rfl

section counting

variable (options : RenderOptions) (visitor : Visitor Unit)

theorem Html.render_counting (counted : Bool) (tree : Tree) :
    Html.render { options with collectStats := counted } visitor tree = Html.render options visitor tree :=
  (Html.run_counting options counted visitor () tree).1

theorem Markdown.render_counting (counted : Bool) (tree : Tree) :
    Markdown.render { options with collectStats := counted } visitor tree = Markdown.render options visitor tree :=
  (Markdown.run_counting options counted visitor () tree).1

theorem Html.content_renderWithStats (document : Document) :
    (Html.renderWithStats options visitor document).content = Html.render options visitor document.tree :=
  Html.render_counting options visitor true document.tree

theorem Markdown.content_renderWithStats (document : Document) :
    (Markdown.renderWithStats options visitor document).content = Markdown.render options visitor document.tree :=
  Markdown.render_counting options visitor true document.tree

end counting

namespace Document

variable (document : Document) {options : ConvertOptions}

private theorem content_convert_html (format : options.format = .html) :
    (document.convert options).content =
      Html.render options.render (.skipSections options.skippedSections) document.tree := by
  simp only [convert, format, Visitor.attached_eq]
  split
  next => exact Html.content_renderWithStats _ _ document
  next => rfl

private theorem content_convert_markdown (format : options.format = .markdown) :
    (document.convert options).content =
      Markdown.render options.render (.skipSections options.skippedSections) document.tree := by
  simp only [convert, format, Visitor.attached_eq]
  split
  next => exact Markdown.content_renderWithStats _ _ document
  next => rfl

end Document

namespace Setup

/-- The options of a conversion that leave everything as a setup has it, but for the counts. -/
def convertOptions (setup : Setup) (counted : Bool) (layout : JsonLayout) (format : OutputFormat) : ConvertOptions where
  transpile := setup.transpileOptions
  render := { setup.renderOptions with collectStats := counted }
  format := format
  jsonLayout := layout
  skippedSections := setup.skippedSections

/-- A resume and a conversion with the same options give the same output, counting or not. -/
theorem content_convert (setup : Setup) (markup : String) (layout : JsonLayout) (counted : Bool) :
    let resume := setup.transpile markup
    let content format := (convert (setup.convertOptions counted layout format) markup).content
    let render := { setup.renderOptions with collectStats := counted }
    let visitor : Visitor Unit := .attached setup.skippedSections
    (content .html = resume.toHtml ∧ resume.toHtmlWithStats.content = resume.toHtml ∧
      content .markdown = resume.toMarkdown) ∧
    (Html.render render visitor resume.document.tree = resume.toHtml ∧
      Markdown.render render visitor resume.document.tree = resume.toMarkdown) ∧
    (setup.skippedSections = [] → content .text = resume.toText ∧ content .json = resume.toJsonText layout) := by
  intro resume content render visitor
  have same : visitor = .skipSections setup.skippedSections := Visitor.attached_eq setup.skippedSections
  have html : Html.render render visitor resume.document.tree = resume.toHtml := by
    rw [same]
    exact Html.render_counting setup.renderOptions _ counted resume.document.tree
  have markdown : Markdown.render render visitor resume.document.tree = resume.toMarkdown := by
    rw [same]
    exact Markdown.render_counting setup.renderOptions _ counted resume.document.tree
  refine ⟨⟨?_, Html.content_renderWithStats _ _ _, ?_⟩, ⟨html, markdown⟩, fun none => ?_⟩
  · rw [← html, same]
    exact resume.document.content_convert_html rfl
  · rw [← markdown, same]
    exact resume.document.content_convert_markdown rfl
  · have kept : resume.document.withoutSections setup.skippedSections = resume.document := by
      rw [none, Document.withoutSections_nil]
    exact ⟨congrArg Document.toText kept, congrArg (·.toJsonText layout) kept⟩

def shortSection : String :=
  "\\section\x7bSkills\x7d Rust"

/-- Counted, the conversion gives the text and the JSON that the resume gives without counts. -/
theorem content_convert_shortSection :
    (convert (convertOptions {} true .compact .text) shortSection).content = "SKILLS\nRust" ∧
      (convert (convertOptions {} true .compact .text) shortSection).content = (transpile {} shortSection).toText ∧
      (convert (convertOptions {} true .compact .json) shortSection).content =
        (transpile {} shortSection).toJsonText .compact := by
  have agreed := (content_convert {} shortSection .compact true).2.2 rfl
  have text : (transpile {} shortSection).toText = "SKILLS\nRust" := by
    have normal : Markup.normalize {} shortSection = shortSection := by decide +kernel
    have parsed : parse {} shortSection = Vitae.transpile {} shortSection := congrArg (Vitae.transpile {}) normal
    change (parse {} shortSection).toText = _
    rw [parsed]
    decide +kernel
  exact ⟨agreed.1.trans text, agreed⟩

end Setup

end Vitae
