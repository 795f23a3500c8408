import Vitae.Content.Stats
import Vitae.Render.Stylesheet
import Vitae.Render.Visitor

/-!
What the renderers share: options, the walk that asks a visitor and counts, and pieces. A rendered sequence
is a list of pieces, and laying them out turns runs of inline pieces into paragraphs.
-/

namespace Vitae

structure RenderOptions where
  stylesheet : Stylesheet := {}
  /-- Whole documents instead of the content alone. -/
  standalone : Bool := true
  /-- The name in the header stands in for a missing title. -/
  title : Option String := none
  listMarker : Char := '-'
  escapeSpecialChars : Bool := true
  collectStats : Bool := false

def RenderOptions.withPageSize (options : RenderOptions) (size : PageSize) : RenderOptions :=
  { options with stylesheet := { options.stylesheet with pageSize := size } }

structure Rendered where
  content : String
  stats : TreeStats
  warnings : List String

/-- The length in bytes. -/
def Rendered.contentLength (rendered : Rendered) : Nat :=
  rendered.content.utf8ByteSize

namespace Render

/-- Where a walk stands: what the visitor remembers and what has been counted. -/
structure Session (σ : Type) where
  memory : σ
  stats : TreeStats := {}

abbrev Walk (σ : Type) := StateM (Session σ)

variable {σ : Type}

def ask (visitor : Visitor σ) (node : Node) : Walk σ Action := fun session =>
  let (action, memory) := (visitor.dispatch node).run session.memory
  (action, { session with memory })

def countNode (options : RenderOptions) (node : Node) : Walk σ Unit :=
  modify fun session =>
    if options.collectStats then { session with stats := session.stats.addNode node } else session

/-- The output for a node: its content where the visitor lets it proceed, which also counts it. -/
def consult (options : RenderOptions) (visitor : Visitor σ) (node : Node) (content : Walk σ String) :
    Walk σ String := do
  match ← ask visitor node with
  | .proceed =>
    countNode options node
    content
  | .replace output => return output
  | .skip => return ""

inductive Piece where
  | inline (text : String)
  | block (text : String)
deriving DecidableEq

/-- The text of pieces; `paragraph` finishes a run of inline pieces, of which `run` is the beginning. -/
def layout (paragraph : String → String) (run : String) : List Piece → String
  | [] => paragraph run
  | .inline text :: rest => layout paragraph (run ++ text) rest
  | .block text :: rest => paragraph run ++ text ++ layout paragraph "" rest

/-- What a browser takes for the start of a target: white space and control characters do not count, and
letters have no case. -/
def schemeText (href : String) : List Char :=
  (href.toList.filter fun c => !Text.isSpace c && !(c < ' ' || ('\x7f' ≤ c && c < '\u00A0'))).map Char.toLower

/-- Holds for a target without a scheme, or with one that only leads somewhere. -/
def isSafeHref (href : String) : Bool :=
  let text := schemeText href
  let isEnd : Char → Bool := fun c => c == ':' || c == '/' || c == '?' || c == '#'
  match text.dropWhile (!isEnd ·) with
  | ':' :: _ => .ofList (text.takeWhile (!isEnd ·)) ∈ ["http", "https", "mailto", "tel"]
  | _ => true

end Render

end Vitae
