import Mathlib.Data.List.Forall2
import Vitae.Proofs.HtmlOutput
import Vitae.Proofs.HtmlReading

/-! Rendered content shows all text of a tree, once and in the order of the document. The text of every node is
carried through the pieces it becomes: laying pieces out puts tags around their text and takes only white space
from it, and what is left out had no text. -/

namespace Vitae

namespace Node

mutual

/-- The text of a node and of all below it. -/
def allText : Node → List Char
  | .header name _ contacts => name.toList ++ ['|'].intercalate (allTexts contacts)
  | .titled title body => title.toList ++ (allTexts body).flatten
  | .entry primary secondary tertiary quaternary =>
    allText primary ++ allText secondary ++ (allText tertiary ++ allText quaternary)
  | .itemList _ items => (allTexts items).flatten
  | .columnGroup columns => (allTexts columns).flatten
  | .centered body => (allTexts body).flatten
  | .styled _ child => allText child
  | .link _ label => allText label
  | .fragment children => (allTexts children).flatten
  | .lineBreak => []
  | .separator => ['|']
  | .text value => value.toList
termination_by structural node => node

def allTexts : List Node → List (List Char)
  | [] => []
  | node :: rest => allText node :: allTexts rest
termination_by structural nodes => nodes

end

mutual

private theorem allText_of_isEmpty (node : Node) (empty : node.isEmpty = true) : node.allText = [] := by
  cases node with
  | text value => simpa [isEmpty, allText] using empty
  | fragment children =>
    rw [allText]
    exact flatten_allTexts_of_areEmpty children empty
  | _ => simp [isEmpty] at empty
termination_by structural node

private theorem flatten_allTexts_of_areEmpty (nodes : List Node) (empty : areEmpty nodes = true) :
    (allTexts nodes).flatten = [] := by
  cases nodes with
  | nil => rfl
  | cons node rest =>
    rw [areEmpty, Bool.and_eq_true] at empty
    rw [allTexts, List.flatten_cons, allText_of_isEmpty node empty.1, flatten_allTexts_of_areEmpty rest empty.2]
    rfl
termination_by structural nodes

end

end Node

namespace Html

open Render

/-- The HTML is in the grammar and shows the content, white space aside. -/
structure Reads (html : String) (content : List Char) : Prop where
  wellFormed : WellFormed html.toList
  text : shownText html.toList = withoutSpace content

section elements

private theorem reads_empty : Reads "" [] :=
  ⟨wellFormed_empty, rfl⟩

private theorem reads_newline : Reads "\n" [] :=
  ⟨wellFormed_newline, rfl⟩

theorem Reads.append {first second : String} {earlier later : List Char} (one : Reads first earlier)
    (two : Reads second later) : Reads (first ++ second) (earlier ++ later) := by
  refine ⟨wellFormed_append one.wellFormed two.wellFormed, ?_⟩
  rw [String.toList_append, shownText_append one.wellFormed, one.text, two.text, withoutSpace_append]

theorem Reads.newline {html : String} {content : List Char} (reads : Reads html content) :
    Reads (html ++ "\n") content := by
  have whole := reads.append reads_newline
  rwa [List.append_nil] at whole

theorem Reads.trimmed {html : String} {content : List Char} (reads : Reads html content) :
    Reads html.trimmed content := by
  refine ⟨?_, ?_⟩
  · rw [String.toList_trimmed]
    exact reads.wellFormed.trim
  · rw [String.toList_trimmed, shownText_trim reads.wellFormed, reads.text]

private theorem Data.withoutTags_eq_self {text : List Char} (data : Data text) : withoutTags false text = text := by
  induction data with
  | nil => rfl
  | @character c text plain _ ih =>
    have noTag : c ≠ '<' := by
      rintro rfl
      exact absurd plain (by decide)
    rw [withoutTags_cons noTag, ih]
  | entity known _ ih => rw [withoutTags_entity known, ih]

private theorem decoded_escapedChar (c : Char) (rest : List Char) :
    decoded (escapedChar c ++ rest) = c :: decoded rest := by
  rw [escapedChar]
  split
  next same => exact same ▸ rfl
  split
  next same => exact same ▸ rfl
  split
  next same => exact same ▸ rfl
  split
  next same => exact same ▸ rfl
  split
  next same => exact same ▸ rfl
  next noEntity _ _ _ _ => exact decoded_cons noEntity rest

/-- Escaped text is read back as it was. -/
theorem decoded_escape (text : String) : decoded (escape text).toList = text.toList := by
  rw [toList_escape]
  induction text.toList with
  | nil => rfl
  | cons c rest ih => rw [List.flatMap_cons, decoded_escapedChar, ih]

private theorem reads_escape (text : String) : Reads (escape text) text.toList := by
  refine ⟨wellFormed_escape text, ?_⟩
  rw [shownText, (data_escape text).withoutTags_eq_self, decoded_escape]

theorem Reads.tagged {name content html : String} {attributes text : List Char} (own : Attributes name attributes)
    (inside : Reads content text)
    (whole : html.toList = openingTag name attributes ++ content.toList ++ closingTag name) : Reads html text := by
  refine ⟨?_, ?_⟩
  · rw [whole, ← List.append_nil (openingTag name attributes ++ content.toList ++ closingTag name)]
    exact .element own inside.wellFormed .nil
  · rw [whole, shownText_element own inside.wellFormed, inside.text]

theorem Reads.element {name content : String} {text : List Char} (own : name ∈ bareElements)
    (inside : Reads content text) : Reads (element name content) text :=
  inside.tagged (.bare own) (by simp [Html.element, openingTag, closingTag])

theorem Reads.classed {name style content : String} {text : List Char} (own : (name, style) ∈ classedElements)
    (inside : Reads content text) : Reads (classed name style content) text :=
  inside.tagged (.classed own) (by simp [Html.classed, openingTag, closingTag])

theorem Reads.division {name style content : String} {text : List Char} (own : (name, style) ∈ classedElements)
    (inside : Reads content text) : Reads (division name style content) text :=
  ((reads_newline.append inside).classed own).newline

theorem Reads.styledElement {content : String} {text : List Char} (style : SpanStyle) (inside : Reads content text) :
    Reads (styledElement style content) text := by
  cases style with
  | bold => exact inside.element (by decide)
  | italic => exact inside.element (by decide)
  | underline => exact inside.element (by decide)
  | smallCaps => exact inside.classed (by decide)
  | accent => exact inside.classed (by decide)

/-- The target of a link stands inside its tag. -/
theorem Reads.linkElement {label : String} {text : List Char} (href : String) (inside : Reads label text) :
    Reads (linkElement href label) text := by
  unfold Html.linkElement
  split
  · exact inside.tagged (.target (data_escape href)) (by simp [openingTag, closingTag])
  · exact inside

private theorem reads_pipe : Reads pipe ['|'] :=
  Reads.classed (by decide) ⟨.character (by decide) .nil, rfl⟩

theorem Reads.paragraph {run : String} {content : List Char} (reads : Reads run content) :
    Reads (paragraph run) content := by
  unfold Html.paragraph
  split
  next blank =>
    have spaces : ∀ c ∈ run.toList, Text.isSpace c = true := List.all_eq_true.mp blank
    have nothing := reads.text
    rw [shownText_spaces spaces] at nothing
    exact ⟨wellFormed_empty, nothing⟩
  next => exact (reads.trimmed.element (by decide)).newline

end elements

section layouts

/-- The pieces show the content, white space aside. -/
inductive Shows : List Piece → List Char → Prop
  | nil : Shows [] []
  | cons {piece pieces content later} (first : Reads (shown piece) content) (tail : Shows pieces later) :
      Shows (piece :: pieces) (content ++ later)

theorem Shows.append {first second : List Piece} {earlier later : List Char} (one : Shows first earlier)
    (two : Shows second later) : Shows (first ++ second) (earlier ++ later) := by
  induction one with
  | nil => exact two
  | cons first _ ih =>
    rw [List.append_assoc]
    exact .cons first ih

theorem Reads.shows (piece : Piece) {content : List Char} (reads : Reads (shown piece) content) :
    Shows [piece] content := by
  rw [← List.append_nil content]
  exact .cons reads .nil

theorem Shows.layout {paragraph : String → String}
    (finishes : ∀ {run : String} {content : List Char}, Reads run content → Reads (paragraph run) content)
    {pieces : List Piece} {content : List Char} (shows : Shows pieces content) {run : String} {begun : List Char}
    (reads : Reads run begun) : Reads (layout paragraph run pieces) (begun ++ content) := by
  induction shows generalizing run begun with
  | nil =>
    rw [List.append_nil]
    exact finishes reads
  | @cons piece pieces content later first _ ih =>
    cases piece with
    | inline text =>
      rw [← List.append_assoc]
      exact ih (reads.append first)
    | block text =>
      rw [← List.append_assoc]
      exact ((finishes reads).append first).append (ih reads_empty)

theorem Shows.flowLayout {pieces : List Piece} {content : List Char} (shows : Shows pieces content) :
    Reads (flowLayout pieces) content :=
  shows.layout Reads.paragraph reads_empty

theorem Shows.inlineLayout {pieces : List Piece} {content : List Char} (shows : Shows pieces content) :
    Reads (inlineLayout pieces) content :=
  shows.layout id reads_empty

/-- A group is left out only where it has come to nothing. -/
theorem Shows.segmentHtml {grouped : Bool} {pieces : List Piece} {content : List Char} (shows : Shows pieces content) :
    Reads (segmentHtml (grouped, pieces)) content := by
  have inside := shows.flowLayout
  cases grouped with
  | false => exact inside
  | true =>
    simp only [Html.segmentHtml]
    split
    next empty => rwa [String.isEmpty_iff.mp empty] at inside
    next => exact inside.division (by decide)

private theorem reads_segments {members : List (NodeKind × List Piece)} {contents : List (List Char)}
    (each : List.Forall₂ (fun member content => Shows member.2 content) members contents) {grouped : Bool}
    {done : List Piece} {begun : List Char} (before : Shows done begun) :
    Reads (String.join ((segments grouped done members).map segmentHtml)) (begun ++ contents.flatten) := by
  induction each generalizing grouped done begun with
  | nil => simpa [segments] using before.segmentHtml
  | @cons member content members contents first _ ih =>
    obtain ⟨kind, pieces⟩ := member
    rw [segments, List.flatten_cons]
    split
    · rw [List.map_cons, String.join_cons]
      exact before.segmentHtml.append (ih first)
    split
    · rw [List.map_cons, String.join_cons]
      exact before.segmentHtml.append (ih first)
    · rw [← List.append_assoc]
      exact ih (before.append first)

private theorem reads_join {α : Type} {items : List α} {contents : List (List Char)} {html : α → String}
    (each : List.Forall₂ (fun item content => Reads (html item) content) items contents) :
    Reads (String.join (items.map html)) contents.flatten := by
  induction each with
  | nil => exact reads_empty
  | cons first _ ih =>
    rw [List.map_cons, String.join_cons, List.flatten_cons]
    exact first.append ih

private theorem reads_contacts {contacts : List (List Piece)} {contents : List (List Char)}
    (each : List.Forall₂ Shows contacts contents) :
    Reads (pipe.intercalate (contacts.map inlineLayout)) (['|'].intercalate contents) := by
  induction each with
  | nil => exact reads_empty
  | @cons contact content contacts contents first others ih =>
    cases others with
    | nil => simpa [List.intercalate] using first.inlineLayout
    | cons =>
      rw [List.map_cons, String.intercalate_cons_of_ne_nil (by simp)]
      simpa [List.intercalate] using (first.inlineLayout.append reads_pipe).append ih

private theorem reads_entryField (number : String) (own : ("span", "entry-arg" ++ number) ∈ classedElements)
    {wrap : String → String}
    (wraps : ∀ {text : String} {content : List Char}, Reads text content → Reads (wrap text) content) {field : Node}
    {content? : Option (List Piece)} (missing : content? = none → field.isEmpty = true)
    (inside : ∀ pieces, content? = some pieces → Shows pieces field.allText) :
    Reads (entryField number wrap (content?.map inlineLayout)) field.allText := by
  refine Reads.classed own ?_
  cases content? with
  | none =>
    rw [field.allText_of_isEmpty (missing rfl)]
    exact reads_empty
  | some pieces => exact wraps (inside pieces rfl).inlineLayout

end layouts

section walk

variable {σ : Type} {options : RenderOptions}

private theorem always_shows_inlinePiece (node : Node) {content : List Char} {html : Walk σ String}
    (inside : Always (Reads · content) html) : Always (Shows · content) (inlinePiece options {} node html) :=
  (always_consult node inside).bind fun _ reads => always_pure (Reads.shows (.inline _) reads)

private theorem always_shows_blockPiece (node : Node) {content : List Char} {html : Walk σ String}
    (inside : Always (Reads · content) html) : Always (Shows · content) (blockPiece options {} node html) :=
  (always_consult node inside).bind fun _ reads => always_pure (Reads.shows (.block _) reads)

mutual

private theorem always_shows_pieces (node : Node) :
    Always (Shows · node.allText) (pieces options ({} : Visitor σ) node) := by
  cases node with
  | header name lines contacts =>
    rw [pieces, Node.allText]
    refine always_shows_blockPiece _ ((always_shows_sequences contacts).bind fun shown each => always_pure ?_)
    have title := ((reads_escape name).classed (show ("h1", "name small-caps") ∈ classedElements by decide)).newline
    refine (title.append ?_).division (by decide)
    split
    next none =>
      obtain rfl := List.isEmpty_iff.mp none
      exact reads_empty
    next => exact ((reads_contacts each).classed (by decide)).newline
  | titled title body =>
    rw [pieces, Node.allText]
    refine always_shows_blockPiece _ ((always_shows_members body).bind fun shown each => always_pure ?_)
    have heading := ((reads_escape title).classed (show ("h2", "section-title") ∈ classedElements by decide)).newline
    exact (heading.append (reads_segments each .nil)).division (by decide)
  | entry primary secondary tertiary quaternary =>
    rw [pieces, Node.allText]
    refine always_shows_blockPiece _ (always_field (always_shows_pieces primary) _ fun first noFirst one => ?_)
    refine always_field (always_shows_pieces secondary) _ fun second noSecond two => ?_
    refine always_field (always_shows_pieces tertiary) _ fun third noThird three => ?_
    refine always_field (always_shows_pieces quaternary) _ fun fourth noFourth four => always_pure ?_
    have strong := reads_entryField "1" (by decide) (fun inside => inside.element (show "strong" ∈ bareElements by decide))
      noFirst one
    have em := reads_entryField "3" (by decide) (fun inside => inside.element (show "em" ∈ bareElements by decide))
      noThird three
    have upper := strong.append (reads_entryField "2" (by decide) id noSecond two)
    have details := em.append (reads_entryField "4" (by decide) id noFourth four)
    have header := (upper.classed (show ("div", "entry-header") ∈ classedElements by decide)).newline
    refine (header.append ?_).division (by decide)
    split
    next empty =>
      rw [Bool.and_eq_true] at empty
      rw [tertiary.allText_of_isEmpty empty.1, quaternary.allText_of_isEmpty empty.2]
      exact reads_empty
    next => exact (details.classed (by decide)).newline
  | itemList bulleted items =>
    rw [pieces, Node.allText]
    refine always_shows_blockPiece _ ((always_shows_sequences items).bind fun shown each => always_pure ?_)
    have listed : Reads (String.join (shown.map fun item => element "li" (inlineLayout item) ++ "\n"))
        (Node.allTexts items).flatten :=
      reads_join (each.imp fun _ _ shows => (shows.inlineLayout.element (by decide)).newline)
    cases bulleted with
    | true => exact listed.division (by decide)
    | false => exact listed.division (by decide)
  | columnGroup columns =>
    rw [pieces, Node.allText]
    refine always_shows_blockPiece _ ((always_shows_sequences columns).bind fun shown each => always_pure ?_)
    exact (reads_join (each.imp fun _ _ shows => shows.flowLayout.division (by decide))).division (by decide)
  | centered body =>
    rw [pieces, Node.allText]
    refine always_shows_blockPiece _ ((always_shows_allPieces body).bind fun shown shows => always_pure ?_)
    exact shows.flowLayout.division (by decide)
  | styled style child =>
    rw [pieces, Node.allText]
    refine always_shows_inlinePiece _ ((always_shows_pieces child).bind fun shown shows => always_pure ?_)
    exact shows.inlineLayout.styledElement style
  | link href label =>
    rw [pieces, Node.allText]
    refine always_shows_inlinePiece _ ((always_shows_pieces label).bind fun shown shows => always_pure ?_)
    exact shows.inlineLayout.linkElement href
  | fragment children =>
    rw [pieces, Node.allText]
    exact always_shows_allPieces children
  | lineBreak =>
    rw [pieces]
    exact always_shows_inlinePiece _ (always_pure ⟨.lineBreak .nil, rfl⟩)
  | separator =>
    rw [pieces]
    exact always_shows_inlinePiece _ (always_pure reads_pipe)
  | text value =>
    rw [pieces]
    exact always_shows_inlinePiece _ (always_pure (reads_escape value))
termination_by structural node

private theorem always_shows_allPieces (nodes : List Node) :
    Always (Shows · (Node.allTexts nodes).flatten) (allPieces options ({} : Visitor σ) nodes) := by
  cases nodes with
  | nil =>
    rw [allPieces]
    exact always_pure .nil
  | cons node rest =>
    rw [allPieces, Node.allTexts]
    refine (always_shows_pieces node).bind fun first one => (always_shows_allPieces rest).bind fun later two => ?_
    exact always_pure (one.append two)
termination_by structural nodes

private theorem always_shows_sequences (nodes : List Node) :
    Always (fun shown => List.Forall₂ Shows shown (Node.allTexts nodes)) (sequences options ({} : Visitor σ) nodes) := by
  cases nodes with
  | nil =>
    rw [sequences]
    exact always_pure .nil
  | cons node rest =>
    rw [sequences, Node.allTexts]
    refine (always_shows_pieces node).bind fun first one => (always_shows_sequences rest).bind fun later two => ?_
    exact always_pure (.cons one two)
termination_by structural nodes

private theorem always_shows_members (nodes : List Node) :
    Always (fun shown => List.Forall₂ (fun member content => Shows member.2 content) shown (Node.allTexts nodes))
      (members options ({} : Visitor σ) nodes) := by
  cases nodes with
  | nil =>
    rw [members]
    exact always_pure .nil
  | cons node rest =>
    rw [members, Node.allTexts]
    refine (always_shows_pieces node).bind fun first one => (always_shows_members rest).bind fun later two => ?_
    exact always_pure (.cons one two)
termination_by structural nodes

end

/-- The content of a tree shows all of its text in order, and nothing else. -/
theorem shownText_render {options : RenderOptions} (alone : options.standalone = false) (tree : Tree) :
    shownText (render options {} tree).toList = withoutSpace (Node.allTexts tree).flatten := by
  have body : Always (Reads · (Node.allTexts tree).flatten) (content options ({} : Visitor Unit) tree) :=
    (always_shows_allPieces tree).bind fun _ shows => always_pure shows.flowLayout
  change shownText (document options tree ((content options ({} : Visitor Unit) tree).run { memory := () }).1).toList = _
  rw [document, if_neg (by simp [alone])]
  exact (body _).text

theorem shownText_render_group :
    ({ standalone := false } : RenderOptions).standalone = false ∧
      shownText (render { standalone := false } {}
        [.titled "A & B" [.text " a ", .entry (.text "<c>") .empty (.fragment []) .empty, .separator]]).toList =
      "A&Ba<c>|".toList := by
  refine ⟨rfl, ?_⟩
  rw [shownText_render rfl]
  decide

end walk

end Html

end Vitae
