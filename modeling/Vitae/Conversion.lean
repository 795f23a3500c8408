import Vitae.Content.Codec
import Vitae.Render.Html
import Vitae.Render.Markdown
import Vitae.Transpile.Elaborate

/-!
Conversion in one call, from markup to one of four output formats. Reading bytes and files may fail;
converting text does not.
-/

namespace Vitae

inductive JsonLayout where
  | indented
  | compact
deriving DecidableEq, Inhabited

def Document.toJsonText (document : Document) : JsonLayout → String
  | .indented => document.toJson.indented
  | .compact => document.toJson.compact

inductive OutputFormat where
  | html
  | markdown
  | text
  | json
deriving DecidableEq, Inhabited

namespace OutputFormat

def all : List OutputFormat :=
  [.html, .markdown, .text, .json]

def mimeType : OutputFormat → String
  | .html => "text/html"
  | .markdown => "text/markdown"
  | .text => "text/plain"
  | .json => "application/json"

/-- The extension of file names, which is also the name of the format. -/
def extension : OutputFormat → String
  | .html => "html"
  | .markdown => "md"
  | .text => "txt"
  | .json => "json"

def ofText (text : String) : Except Failure OutputFormat :=
  match optionKey text with
  | "html" | "htm" => .ok .html
  | "markdown" | "md" => .ok .markdown
  | "text" | "txt" => .ok .text
  | "json" => .ok .json
  | other => .error (.unknownFormat other)

end OutputFormat

structure ConvertOptions where
  transpile : TranspileOptions := {}
  render : RenderOptions := {}
  format : OutputFormat := .html
  jsonLayout : JsonLayout := .indented
  skippedSections : List String := []

structure Conversion where
  content : String
  warnings : List String
  /-- Only where they were asked for. -/
  stats : Option TreeStats
  format : OutputFormat

namespace Conversion

def mimeType (conversion : Conversion) : String :=
  conversion.format.mimeType

def hasWarnings (conversion : Conversion) : Bool :=
  !conversion.warnings.isEmpty

/-- The length in bytes. -/
def contentLength (conversion : Conversion) : Nat :=
  conversion.content.utf8ByteSize

end Conversion

/-- The document without the sections on its top level that a visitor skips, if there is a title to skip. -/
def Document.withoutSections (document : Document) (titles : List String) : Document :=
  let skips (node : Node) : Bool := (((Visitor.skipSections titles).dispatch node).run ()).1 = .skip
  if titles.isEmpty then document else { document with tree := document.tree.filter fun node => !skips node }

def Document.statistics (document : Document) : TreeStats :=
  { TreeStats.ofTree document.tree with warningCount := document.warnings.length }

def Document.convert (document : Document) (options : ConvertOptions) : Conversion :=
  let visitor : Visitor Unit := .attached options.skippedSections
  let counted := options.render.collectStats
  match options.format with
  | .html =>
    if counted then
      let rendered := Html.renderWithStats options.render visitor document
      ⟨rendered.content, document.warnings, some rendered.stats, .html⟩
    else ⟨Html.render options.render visitor document.tree, document.warnings, none, .html⟩
  | .markdown =>
    if counted then
      let rendered := Markdown.renderWithStats options.render visitor document
      ⟨rendered.content, document.warnings, some rendered.stats, .markdown⟩
    else ⟨Markdown.render options.render visitor document.tree, document.warnings, none, .markdown⟩
  | .text =>
    let kept := document.withoutSections options.skippedSections
    ⟨kept.toText, kept.warnings, if counted then some kept.statistics else none, .text⟩
  | .json =>
    let kept := document.withoutSections options.skippedSections
    ⟨kept.toJsonText options.jsonLayout, kept.warnings, if counted then some kept.statistics else none, .json⟩

def convert (options : ConvertOptions) (markup : String) : Conversion :=
  (parse options.transpile markup).convert options

/-- The text of bytes that some source gave. -/
def decodeInput (bytes : List UInt8) : Except Failure String :=
  (Text.Utf8.decode bytes).mapError .encoding

/-- The text of a file, of which `read` holds the bytes or the reason why there are none. -/
def decodeFile (read : Except FileFault (List UInt8)) : Except Failure String :=
  match read with
  | .ok bytes => (Text.Utf8.decode bytes).mapError fun _ => .file .notText
  | .error fault => .error (.file fault)

end Vitae
