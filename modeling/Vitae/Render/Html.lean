import Vitae.Content.Tree
import Vitae.Render.Basic

/-!
Resumes as HTML, for print. Runs of inline content become paragraphs where blocks may stand, and in a
section each entry is held together with the lists directly behind it.
-/

namespace Vitae.Html

open Render

def escapedChar (c : Char) : List Char :=
  if c = '&' then "&amp;".toList
  else if c = '<' then "&lt;".toList
  else if c = '>' then "&gt;".toList
  else if c = '"' then "&quot;".toList
  else if c = '\x27' then "&#39;".toList
  else [c]

/-- Text as content or as the value of an attribute. -/
def escape (text : String) : String :=
  .ofList (text.toList.flatMap escapedChar)

def element (name content : String) : String :=
  "<" ++ name ++ ">" ++ content ++ "</" ++ name ++ ">"

/-- An element with a class. -/
def classed (name style content : String) : String :=
  "<" ++ name ++ " class=\"" ++ style ++ "\">" ++ content ++ "</" ++ name ++ ">"

/-- A block element with a class, on lines of its own. -/
def division (name style content : String) : String :=
  classed name style ("\n" ++ content) ++ "\n"

def styledElement : SpanStyle → String → String
  | .bold => element "strong"
  | .italic => element "em"
  | .underline => element "u"
  | .smallCaps => classed "span" "small-caps"
  | .accent => classed "span" "accent"

def pipe : String :=
  classed "span" "pipe" "|"

/-- Where blocks may stand, a run of inline content that shows anything is a paragraph. -/
def paragraph (run : String) : String :=
  if run.isBlank then "" else element "p" run.trimmed ++ "\n"

def flowLayout (pieces : List Piece) : String :=
  layout paragraph "" pieces

def inlineLayout (pieces : List Piece) : String :=
  layout id "" pieces

/-- The members of a section body, each an entry's group or a stretch between groups. `grouped` tells
which of them `done` belongs to. -/
def segments (grouped : Bool) (done : List Piece) : List (NodeKind × List Piece) → List (Bool × List Piece)
  | [] => [(grouped, done)]
  | (kind, pieces) :: rest =>
    if kind = .entry then (grouped, done) :: segments true pieces rest
    else if grouped ∧ kind ≠ .itemList then (true, done) :: segments false pieces rest
    else segments grouped (done ++ pieces) rest

def segmentHtml : Bool × List Piece → String
  | (false, pieces) => flowLayout pieces
  | (true, pieces) =>
    let content := flowLayout pieces
    if content.isEmpty then "" else division "div" "resume-group" content

def sectionBody (members : List (NodeKind × List Piece)) : String :=
  String.join ((segments false [] members).map segmentHtml)

/-- One field of an entry, where `wrap` marks up what it shows. -/
def entryField (number : String) (wrap : String → String) (content? : Option String) : String :=
  classed "span" ("entry-arg" ++ number) ((content?.map wrap).getD "")

def linkElement (href label : String) : String :=
  if isSafeHref href then "<a href=\"" ++ escape href ++ "\">" ++ label ++ "</a>" else label

section

variable {σ : Type} (options : RenderOptions) (visitor : Visitor σ)

def inlinePiece (node : Node) (content : Walk σ String) : Walk σ (List Piece) :=
  return [.inline (← consult options visitor node content)]

def blockPiece (node : Node) (content : Walk σ String) : Walk σ (List Piece) :=
  return [.block (← consult options visitor node content)]

mutual

/-- The pieces of a node; those of a fragment stand in its place. -/
def pieces : Node → Walk σ (List Piece)
  | .header name lines contacts => blockPiece options visitor (.header name lines contacts) do
    let shown ← sequences contacts
    let row := if contacts.isEmpty then "" else classed "div" "contacts" (pipe.intercalate (shown.map inlineLayout)) ++ "\n"
    return division "header" "center-text" (classed "h1" "name small-caps" (escape name) ++ "\n" ++ row)
  | .titled title body => blockPiece options visitor (.titled title body) do
    let heading := classed "h2" "section-title" (escape title) ++ "\n"
    return division "section" "resume-section" (heading ++ sectionBody (← members body))
  | .entry primary secondary tertiary quaternary =>
    blockPiece options visitor (.entry primary secondary tertiary quaternary) do
      let first ← if primary.isEmpty then pure none else some <$> pieces primary
      let second ← if secondary.isEmpty then pure none else some <$> pieces secondary
      let third ← if tertiary.isEmpty then pure none else some <$> pieces tertiary
      let fourth ← if quaternary.isEmpty then pure none else some <$> pieces quaternary
      let header := entryField "1" (element "strong") (first.map inlineLayout) ++
        entryField "2" id (second.map inlineLayout)
      let details := entryField "3" (element "em") (third.map inlineLayout) ++
        entryField "4" id (fourth.map inlineLayout)
      let lower := if tertiary.isEmpty && quaternary.isEmpty then ""
        else classed "div" "entry-details" details ++ "\n"
      return division "div" "resume-entry" (classed "div" "entry-header" header ++ "\n" ++ lower)
  | .itemList bulleted items => blockPiece options visitor (.itemList bulleted items) do
    let shown := (← sequences items).map fun item => element "li" (inlineLayout item) ++ "\n"
    return division "ul" (if bulleted then "resume-list" else "resume-list no-bullet") (String.join shown)
  | .columnGroup columns => blockPiece options visitor (.columnGroup columns) do
    let shown := (← sequences columns).map fun column => division "div" "minipage-col" (flowLayout column)
    return division "div" "center-grid" (String.join shown)
  | .centered body => blockPiece options visitor (.centered body) do
    return division "div" "center-text" (flowLayout (← allPieces body))
  | .styled style child => inlinePiece options visitor (.styled style child) do
    return styledElement style (inlineLayout (← pieces child))
  | .link href label => inlinePiece options visitor (.link href label) do
    return linkElement href (inlineLayout (← pieces label))
  | .fragment children => allPieces children
  | .lineBreak => inlinePiece options visitor .lineBreak (pure "<br/>")
  | .separator => inlinePiece options visitor .separator (pure pipe)
  | .text value => inlinePiece options visitor (.text value) (pure (escape value))
termination_by structural node => node

/-- The pieces of a sequence. -/
def allPieces : List Node → Walk σ (List Piece)
  | [] => pure []
  | node :: rest => do
    let first ← pieces node
    return first ++ (← allPieces rest)
termination_by structural nodes => nodes

/-- The pieces of each node on its own. -/
def sequences : List Node → Walk σ (List (List Piece))
  | [] => pure []
  | node :: rest => do
    let first ← pieces node
    return first :: (← sequences rest)
termination_by structural nodes => nodes

/-- The pieces of each node with its kind. -/
def members : List Node → Walk σ (List (NodeKind × List Piece))
  | [] => pure []
  | node :: rest => do
    let first ← pieces node
    return (node.kind, first) :: (← members rest)
termination_by structural nodes => nodes

end

def content (tree : Tree) : Walk σ String :=
  return flowLayout (← allPieces options visitor tree)

end

/-- The title of a document: the one chosen, or the name in the first header, or a word for all. -/
def documentTitle (options : RenderOptions) (tree : Tree) : String :=
  match options.title, Tree.header? tree with
  | some title, _ => title
  | none, some (.header name _ _) => if name.isEmpty then "Resume" else name
  | none, _ => "Resume"

def document (options : RenderOptions) (tree : Tree) (body : String) : String :=
  if options.standalone then
    "<!DOCTYPE html>\n<html lang=\"en\">\n<head>\n<meta charset=\"utf-8\">\n" ++
      "<meta name=\"viewport\" content=\"width=device-width, initial-scale=1\">\n" ++
      element "title" (escape (documentTitle options tree)) ++ "\n<style>\n" ++ options.stylesheet.toCss ++
      "</style>\n</head>\n<body>\n" ++ body ++ "</body>\n</html>\n"
  else body

variable {σ : Type}

/-- The HTML of a tree, and what the visitor and the counts have come to. -/
def run (options : RenderOptions) (visitor : Visitor σ) (memory : σ) (tree : Tree) : String × Session σ :=
  let (body, session) := (content options visitor tree).run { memory }
  (document options tree body, session)

def render (options : RenderOptions) (visitor : Visitor Unit) (tree : Tree) : String :=
  (run options visitor () tree).1

/-- Renders and counts what was rendered. -/
def runWithStats (options : RenderOptions) (visitor : Visitor σ) (memory : σ) (document : Document) :
    Rendered × Session σ :=
  let (content, session) := run { options with collectStats := true } visitor memory document.tree
  (⟨content, { session.stats with warningCount := document.warnings.length }, document.warnings⟩, session)

def renderWithStats (options : RenderOptions) (visitor : Visitor Unit) (document : Document) : Rendered :=
  (runWithStats options visitor () document).1

end Vitae.Html
