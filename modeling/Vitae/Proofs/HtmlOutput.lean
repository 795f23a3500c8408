import Vitae.Proofs.HtmlGrammar

/-! What rendering makes of texts. Every node becomes pieces of escaped text, line breaks and elements, whatever strings
it holds, and laying pieces out joins them, trims runs of them and puts elements around them. A property of texts that all
of this keeps holds of the content of every tree; to be in the grammar of HTML is one. -/

namespace Vitae.Html

open Render

/-- All that rendering makes of texts keeps the property. -/
structure Kept (property : List Char → Prop) : Prop where
  escaped (text : String) : property (escape text).toList
  append {first second : List Char} : property first → property second → property (first ++ second)
  trimmed {text : List Char} : property text → property (Text.trim text)
  lineBreak : property "<br/>".toList
  bare {name : String} {inner : List Char} (own : name ∈ bareElements) :
    property inner → property (openingTag name [] ++ inner ++ closingTag name)
  classed {name style : String} {inner : List Char} (own : (name, style) ∈ classedElements) :
    property inner →
      property (openingTag name (" class=\"".toList ++ style.toList ++ ['"']) ++ inner ++ closingTag name)
  link {href : String} {inner : List Char} (safe : isSafeHref href = true) :
    property inner →
      property (openingTag "a" (" href=\"".toList ++ (escape href).toList ++ ['"']) ++ inner ++ closingTag "a")

section elements

theorem toList_escape (text : String) : (escape text).toList = text.toList.flatMap escapedChar := by
  rw [escape, String.toList_ofList]

theorem data_escape (text : String) : Data (escape text).toList := by
  rw [toList_escape]
  induction text.toList with
  | nil => exact .nil
  | cons c rest ih =>
    rw [List.flatMap_cons, escapedChar]
    split
    · exact Data.entity (show "amp" ∈ entityNames by decide) ih
    split
    · exact Data.entity (show "lt" ∈ entityNames by decide) ih
    split
    · exact Data.entity (show "gt" ∈ entityNames by decide) ih
    split
    · exact Data.entity (show "quot" ∈ entityNames by decide) ih
    split
    · exact Data.entity (show "#39" ∈ entityNames by decide) ih
    · exact .character (by simp_all [isSpecial]) ih

theorem wellFormed_escape (text : String) : WellFormed (escape text).toList :=
  (data_escape text).wellFormed

theorem wellFormed_newline : WellFormed "\n".toList :=
  .character (by decide) .nil

theorem wellFormed_empty : WellFormed "".toList :=
  .nil

theorem wellFormed_append {first second : String} (one : WellFormed first.toList) (two : WellFormed second.toList) :
    WellFormed (first ++ second).toList := by
  rw [String.toList_append]
  exact one.append two

theorem WellFormed.enclosed {name : String} {attributes inner : List Char} (own : Attributes name attributes)
    (inside : WellFormed inner) : WellFormed (openingTag name attributes ++ inner ++ closingTag name) := by
  have whole := WellFormed.element own inside .nil
  rwa [List.append_nil] at whole

private theorem kept_wellFormed : Kept WellFormed where
  escaped := wellFormed_escape
  append := .append
  trimmed := .trim
  lineBreak := .lineBreak .nil
  bare own := .enclosed (.bare own)
  classed own := .enclosed (.classed own)
  link _ := .enclosed (.target (data_escape _))

end elements

section pieces

variable {property : List Char → Prop}

def shown : Piece → String
  | .inline text | .block text => text

/-- Each piece has the property. -/
def AllShown (property : List Char → Prop) (pieces : List Piece) : Prop :=
  ∀ piece ∈ pieces, property (shown piece).toList

theorem AllShown.append {first second : List Piece} (one : AllShown property first) (two : AllShown property second) :
    AllShown property (first ++ second) := by
  intro piece member
  exact (List.mem_append.mp member).elim (one piece) (two piece)

/-- Every piece of a section body stands in one of its segments. -/
theorem allShown_segments {members : List (NodeKind × List Piece)} {grouped : Bool} {done : List Piece}
    (before : AllShown property done) (each : ∀ member ∈ members, AllShown property member.2) :
    ∀ segment ∈ segments grouped done members, AllShown property segment.2 := by
  induction members generalizing grouped done with
  | nil => simpa [segments] using before
  | cons member rest ih =>
    obtain ⟨kind, pieces⟩ := member
    have first : AllShown property pieces := each (kind, pieces) (by simp)
    have later : ∀ member ∈ rest, AllShown property member.2 := fun other member => each other (by simp [member])
    rw [segments]
    split
    · exact List.forall_mem_cons.mpr ⟨before, ih first later⟩
    split
    · exact List.forall_mem_cons.mpr ⟨before, ih first later⟩
    · exact ih (before.append first) later

end pieces

namespace Kept

variable {property : List Char → Prop} (kept : Kept property)

include kept

section texts

theorem empty : property "".toList :=
  kept.escaped ""

theorem newline : property "\n".toList := by
  simpa [toList_escape, escapedChar] using kept.escaped "\n"

theorem text_append {first second : String} (one : property first.toList) (two : property second.toList) :
    property (first ++ second).toList := by
  rw [String.toList_append]
  exact kept.append one two

theorem element {name content : String} (own : name ∈ bareElements) (inside : property content.toList) :
    property (element name content).toList := by
  have whole : (Html.element name content).toList = openingTag name [] ++ content.toList ++ closingTag name := by
    simp [Html.element, openingTag, closingTag]
  rw [whole]
  exact kept.bare own inside

private theorem classed_text {name style content : String} (own : (name, style) ∈ classedElements)
    (inside : property content.toList) : property (Html.classed name style content).toList := by
  have whole : (Html.classed name style content).toList =
      openingTag name (" class=\"".toList ++ style.toList ++ ['"']) ++ content.toList ++ closingTag name := by
    simp [Html.classed, openingTag, closingTag]
  rw [whole]
  exact kept.classed own inside

/-- An element with a class, on a line of its own. -/
theorem row {name style content : String} (own : (name, style) ∈ classedElements) (inside : property content.toList) :
    property (Html.classed name style content ++ "\n").toList :=
  kept.text_append (kept.classed_text own inside) kept.newline

theorem division {name style content : String} (own : (name, style) ∈ classedElements)
    (inside : property content.toList) : property (division name style content).toList :=
  kept.row own (kept.text_append kept.newline inside)

theorem linkElement {href label : String} (inside : property label.toList) :
    property (linkElement href label).toList := by
  unfold Html.linkElement
  split
  next safe =>
    have whole : ("<a href=\"" ++ escape href ++ "\">" ++ label ++ "</a>").toList =
        openingTag "a" (" href=\"".toList ++ (escape href).toList ++ ['"']) ++ label.toList ++ closingTag "a" := by
      simp [openingTag, closingTag]
    rw [whole]
    exact kept.link safe inside
  next => exact inside

theorem styledElement (style : SpanStyle) {content : String} (inside : property content.toList) :
    property (styledElement style content).toList := by
  cases style with
  | bold => exact kept.element (by decide) inside
  | italic => exact kept.element (by decide) inside
  | underline => exact kept.element (by decide) inside
  | smallCaps => exact kept.classed_text (by decide) inside
  | accent => exact kept.classed_text (by decide) inside

theorem pipe : property pipe.toList := by
  refine kept.classed_text (by decide) ?_
  simpa [toList_escape, escapedChar] using kept.escaped "|"

end texts

section layouts

theorem join {texts : List String} (each : ∀ text ∈ texts, property text.toList) :
    property (String.join texts).toList := by
  induction texts with
  | nil => exact kept.empty
  | cons text texts ih =>
    rw [String.join_cons]
    exact kept.text_append (each text (by simp)) (ih fun other member => each other (by simp [member]))

theorem intercalate {between : String} (separates : property between.toList) {texts : List String}
    (each : ∀ text ∈ texts, property text.toList) : property (between.intercalate texts).toList := by
  induction texts with
  | nil => exact kept.empty
  | cons text texts ih =>
    have first := each text (by simp)
    have later := ih fun other member => each other (by simp [member])
    cases texts with
    | nil => simpa using first
    | cons second texts =>
      rw [String.intercalate_cons_of_ne_nil (by simp)]
      exact kept.text_append (kept.text_append first separates) later

theorem layout {paragraph : String → String}
    (finishes : ∀ run : String, property run.toList → property (paragraph run).toList) {pieces : List Piece}
    (each : AllShown property pieces) {run : String} (begun : property run.toList) :
    property (layout paragraph run pieces).toList := by
  induction pieces generalizing run with
  | nil => exact finishes run begun
  | cons piece pieces ih =>
    have first := each piece (by simp)
    have later : AllShown property pieces := fun other member => each other (by simp [member])
    cases piece with
    | inline text => exact ih later (kept.text_append begun first)
    | block text =>
      exact kept.text_append (kept.text_append (finishes run begun) first) (ih later kept.empty)

theorem paragraph {run : String} (inside : property run.toList) : property (paragraph run).toList := by
  unfold Html.paragraph
  split
  · exact kept.empty
  · have trimmed : property run.trimmed.toList := by
      rw [String.toList_trimmed]
      exact kept.trimmed inside
    exact kept.text_append (kept.element (by decide) trimmed) kept.newline

theorem flowLayout {pieces : List Piece} (each : AllShown property pieces) :
    property (flowLayout pieces).toList :=
  kept.layout (fun _ => kept.paragraph) each kept.empty

theorem inlineLayout {pieces : List Piece} (each : AllShown property pieces) :
    property (inlineLayout pieces).toList :=
  kept.layout (fun _ inside => inside) each kept.empty

theorem sectionBody {members : List (NodeKind × List Piece)}
    (each : ∀ member ∈ members, AllShown property member.2) : property (sectionBody members).toList := by
  refine kept.join fun text member => ?_
  obtain ⟨⟨grouped, pieces⟩, segment, rfl⟩ := List.mem_map.mp member
  have inside := kept.flowLayout (allShown_segments (fun _ none => absurd none (by simp)) each _ segment)
  cases grouped with
  | false => exact inside
  | true =>
    rw [segmentHtml]
    split
    · exact kept.empty
    · exact kept.division (by decide) inside

theorem entryField (number : String) (own : ("span", "entry-arg" ++ number) ∈ classedElements)
    {wrap : String → String} (wraps : ∀ text : String, property text.toList → property (wrap text).toList)
    {content? : Option (List Piece)} (inside : ∀ pieces, content? = some pieces → AllShown property pieces) :
    property (entryField number wrap (content?.map Html.inlineLayout)).toList := by
  refine kept.classed_text own ?_
  cases content? with
  | none => exact kept.empty
  | some pieces => exact wraps _ (kept.inlineLayout (inside pieces rfl))

end layouts

end Kept

section walk

variable {σ α β : Type}

/-- The result has the property wherever the walk stands. -/
def Always (property : α → Prop) (walk : Walk σ α) : Prop :=
  ∀ session, property (walk.run session).1

theorem always_pure {property : α → Prop} {value : α} (holds : property value) :
    Always property (pure value : Walk σ α) :=
  fun _ => holds

theorem Always.bind {given : α → Prop} {property : β → Prop} {walk : Walk σ α} {next : α → Walk σ β}
    (first : Always given walk) (later : ∀ value, given value → Always property (next value)) :
    Always property (walk >>= next) :=
  fun session => later _ (first session) _

variable {options : RenderOptions}

/-- The visitor that is always content lets every node proceed. -/
theorem always_consult {property : String → Prop} (node : Node) {content : Walk σ String}
    (inside : Always property content) : Always property (consult options {} node content) := by
  intro session
  cases node
  all_goals exact inside _

/-- A field that shows nothing is not rendered. -/
theorem always_field {given : List Piece → Prop} {property : β → Prop} {pieces : Walk σ (List Piece)}
    (inside : Always given pieces) (missing : Bool) {next : Option (List Piece) → Walk σ β}
    (later : ∀ content?, (content? = none → missing = true) → (∀ pieces, content? = some pieces → given pieces) →
      Always property (next content?)) :
    Always property (if missing then pure none >>= next else some <$> pieces >>= next) := by
  cases missing with
  | true => exact later none (fun _ => rfl) fun _ none => absurd none (by simp)
  | false =>
    refine fun session => later _ (fun none => absurd none (by simp)) (fun shown same => ?_) _
    obtain rfl := Option.some.inj same
    exact inside session

namespace Kept

variable {property : List Char → Prop}

theorem inlinePiece (node : Node) {content : Walk σ String}
    (inside : Always (fun text => property text.toList) content) :
    Always (AllShown property) (inlinePiece options {} node content) := by
  refine (always_consult node inside).bind fun text holds => always_pure ?_
  simpa [AllShown, shown] using holds

theorem blockPiece (node : Node) {content : Walk σ String}
    (inside : Always (fun text => property text.toList) content) :
    Always (AllShown property) (blockPiece options {} node content) := by
  refine (always_consult node inside).bind fun text holds => always_pure ?_
  simpa [AllShown, shown] using holds

mutual

theorem pieces (kept : Kept property) (node : Node) :
    Always (AllShown property) (pieces options ({} : Visitor σ) node) := by
  cases node with
  | header name lines contacts =>
    rw [Html.pieces]
    refine blockPiece _ ((kept.sequences contacts).bind fun shown each => always_pure ?_)
    have title := kept.row (show ("h1", "name small-caps") ∈ classedElements by decide) (kept.escaped name)
    refine kept.division (by decide) (kept.text_append title ?_)
    split
    · exact kept.empty
    · refine kept.row (by decide) (kept.intercalate kept.pipe fun text member => ?_)
      obtain ⟨contact, place, rfl⟩ := List.mem_map.mp member
      exact kept.inlineLayout (each contact place)
  | titled title body =>
    rw [Html.pieces]
    refine blockPiece _ ((kept.members body).bind fun shown each => always_pure ?_)
    have heading := kept.row (show ("h2", "section-title") ∈ classedElements by decide) (kept.escaped title)
    exact kept.division (by decide) (kept.text_append heading (kept.sectionBody each))
  | entry primary secondary tertiary quaternary =>
    rw [Html.pieces]
    refine blockPiece _ (always_field (kept.pieces primary) _ fun first _ one => ?_)
    refine always_field (kept.pieces secondary) _ fun second _ two => ?_
    refine always_field (kept.pieces tertiary) _ fun third _ three => ?_
    refine always_field (kept.pieces quaternary) _ fun fourth _ four => always_pure ?_
    have upper := kept.text_append
      (kept.entryField "1" (by decide) (fun _ => kept.element (show "strong" ∈ bareElements by decide)) one)
      (kept.entryField "2" (by decide) (fun _ inside => inside) two)
    have details := kept.text_append
      (kept.entryField "3" (by decide) (fun _ => kept.element (show "em" ∈ bareElements by decide)) three)
      (kept.entryField "4" (by decide) (fun _ inside => inside) four)
    have header := kept.row (show ("div", "entry-header") ∈ classedElements by decide) upper
    refine kept.division (by decide) (kept.text_append header ?_)
    split
    · exact kept.empty
    · exact kept.row (by decide) details
  | itemList bulleted items =>
    rw [Html.pieces]
    refine blockPiece _ ((kept.sequences items).bind fun shown each => always_pure ?_)
    have listed : property
        (String.join (shown.map fun item => Html.element "li" (Html.inlineLayout item) ++ "\n")).toList := by
      refine kept.join fun text member => ?_
      obtain ⟨item, place, rfl⟩ := List.mem_map.mp member
      exact kept.text_append (kept.element (by decide) (kept.inlineLayout (each item place))) kept.newline
    cases bulleted with
    | true => exact kept.division (by decide) listed
    | false => exact kept.division (by decide) listed
  | columnGroup columns =>
    rw [Html.pieces]
    refine blockPiece _ ((kept.sequences columns).bind fun shown each => always_pure ?_)
    refine kept.division (by decide) (kept.join fun text member => ?_)
    obtain ⟨column, place, rfl⟩ := List.mem_map.mp member
    exact kept.division (by decide) (kept.flowLayout (each column place))
  | centered body =>
    rw [Html.pieces]
    refine blockPiece _ ((kept.allPieces body).bind fun shown each => always_pure ?_)
    exact kept.division (by decide) (kept.flowLayout each)
  | styled style child =>
    rw [Html.pieces]
    refine inlinePiece _ ((kept.pieces child).bind fun shown each => always_pure ?_)
    exact kept.styledElement style (kept.inlineLayout each)
  | link href label =>
    rw [Html.pieces]
    refine inlinePiece _ ((kept.pieces label).bind fun shown each => always_pure ?_)
    exact kept.linkElement (kept.inlineLayout each)
  | fragment children =>
    rw [Html.pieces]
    exact kept.allPieces children
  | lineBreak =>
    rw [Html.pieces]
    exact inlinePiece _ (always_pure kept.lineBreak)
  | separator =>
    rw [Html.pieces]
    exact inlinePiece _ (always_pure kept.pipe)
  | text value =>
    rw [Html.pieces]
    exact inlinePiece _ (always_pure (kept.escaped value))
termination_by structural node

theorem allPieces (kept : Kept property) (nodes : List Node) :
    Always (AllShown property) (allPieces options ({} : Visitor σ) nodes) := by
  cases nodes with
  | nil =>
    rw [Html.allPieces]
    exact always_pure fun _ none => absurd none (by simp)
  | cons node rest =>
    rw [Html.allPieces]
    refine (kept.pieces node).bind fun first one => (kept.allPieces rest).bind fun later two => always_pure ?_
    exact one.append two
termination_by structural nodes

theorem sequences (kept : Kept property) (nodes : List Node) :
    Always (fun shown => ∀ pieces ∈ shown, AllShown property pieces) (sequences options ({} : Visitor σ) nodes) := by
  cases nodes with
  | nil =>
    rw [Html.sequences]
    exact always_pure fun _ none => absurd none (by simp)
  | cons node rest =>
    rw [Html.sequences]
    refine (kept.pieces node).bind fun first one => (kept.sequences rest).bind fun later two => always_pure ?_
    exact List.forall_mem_cons.mpr ⟨one, two⟩
termination_by structural nodes

theorem members (kept : Kept property) (nodes : List Node) :
    Always (fun shown => ∀ member ∈ shown, AllShown property member.2) (members options ({} : Visitor σ) nodes) := by
  cases nodes with
  | nil =>
    rw [Html.members]
    exact always_pure fun _ none => absurd none (by simp)
  | cons node rest =>
    rw [Html.members]
    refine (kept.pieces node).bind fun first one => (kept.members rest).bind fun later two => always_pure ?_
    exact List.forall_mem_cons.mpr ⟨one, two⟩
termination_by structural nodes

end

theorem content (kept : Kept property) (tree : Tree) :
    Always (fun text => property text.toList) (content options ({} : Visitor σ) tree) :=
  (kept.allPieces tree).bind fun _ each => always_pure (kept.flowLayout each)

end Kept

/-- The content of every tree is well formed, whatever strings it holds. -/
theorem wellFormed_render {options : RenderOptions} (alone : options.standalone = false) (tree : Tree) :
    WellFormed (render options {} tree).toList := by
  have body : Always (fun text => WellFormed text.toList) (content options ({} : Visitor Unit) tree) :=
    kept_wellFormed.content tree
  change WellFormed (document options tree ((content options ({} : Visitor Unit) tree).run { memory := () }).1).toList
  rw [document, if_neg (by simp [alone])]
  exact body _

theorem wellFormed_render_script :
    ({ standalone := false } : RenderOptions).standalone = false ∧
      WellFormed (render { standalone := false } {} [.link "\"><script>" (.text "<b> & 'c'")]).toList :=
  ⟨rfl, wellFormed_render rfl _⟩

end walk

end Vitae.Html
