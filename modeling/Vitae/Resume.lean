import Vitae.Conversion

/-!
Resumes ready to render: options are set up step by step, markup is transpiled once, and the result gives
every format. Skipped sections are left out of HTML and Markdown only.
-/

namespace Vitae

structure Setup where
  transpileOptions : TranspileOptions := {}
  renderOptions : RenderOptions := {}
  skippedSections : List String := []

structure Resume where
  document : Document
  renderOptions : RenderOptions
  skippedSections : List String

namespace Setup

def strict (setup : Setup) : Setup :=
  { setup with transpileOptions := { setup.transpileOptions with malformedEntries := .drop } }

def withTranspileOptions (setup : Setup) (options : TranspileOptions) : Setup :=
  { setup with transpileOptions := options }

def withRenderOptions (setup : Setup) (options : RenderOptions) : Setup :=
  { setup with renderOptions := options }

def withPageSize (setup : Setup) (size : PageSize) : Setup :=
  { setup with renderOptions := setup.renderOptions.withPageSize size }

/-- HTML without the document around it. -/
def fragment (setup : Setup) : Setup :=
  { setup with renderOptions := { setup.renderOptions with standalone := false } }

def withTitle (setup : Setup) (title : String) : Setup :=
  { setup with renderOptions := { setup.renderOptions with title := some title } }

def skipSection (setup : Setup) (title : String) : Setup :=
  { setup with skippedSections := setup.skippedSections ++ [title] }

def transpile (setup : Setup) (markup : String) : Resume :=
  ⟨parse setup.transpileOptions markup, setup.renderOptions, setup.skippedSections⟩

end Setup

namespace Resume

def visitor (resume : Resume) : Visitor Unit :=
  .skipSections resume.skippedSections

def toHtml (resume : Resume) : String :=
  Html.render resume.renderOptions resume.visitor resume.document.tree

def toHtmlWithStats (resume : Resume) : Rendered :=
  Html.renderWithStats resume.renderOptions resume.visitor resume.document

def toMarkdown (resume : Resume) : String :=
  Markdown.render resume.renderOptions resume.visitor resume.document.tree

def toText (resume : Resume) : String :=
  resume.document.toText

def toJsonText (resume : Resume) (layout : JsonLayout) : String :=
  resume.document.toJsonText layout

def plainText (resume : Resume) : String :=
  Tree.plainText resume.document.tree

end Resume

end Vitae
