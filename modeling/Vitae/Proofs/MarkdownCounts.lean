import Mathlib.Data.List.Perm.Basic
import Vitae.Proofs.RenderedCounts
import Vitae.Render.Markdown

/-! The counts of Markdown. A block inside a line is counted, but it is printed as its plain text, and the nodes below it
are never met; the counts of a rendering are those of the document but for these nodes. -/

namespace Vitae

open TreeStats

namespace Node

mutual

/-- The nodes that Markdown shows only in the plain text of a block above them; `inLine` tells whether the node stands
inside a line. -/
def hidden (inLine : Bool) : Node → List Node
  | .header _ _ contacts => if inLine then walkAll contacts else allHidden true contacts
  | .titled _ body | .centered body => if inLine then walkAll body else allHidden false body
  | .entry primary secondary tertiary quaternary =>
    if inLine then primary.walk ++ secondary.walk ++ tertiary.walk ++ quaternary.walk
    else primary.hidden true ++ secondary.hidden true ++ tertiary.hidden true ++ quaternary.hidden true
  | .itemList _ items => if inLine then walkAll items else allHidden false items
  | .columnGroup columns => if inLine then walkAll columns else allHidden false columns
  | .styled _ child | .link _ child => child.hidden true
  | .fragment children => allHidden inLine children
  | .lineBreak | .separator | .text _ => []
termination_by structural node => node

def allHidden (inLine : Bool) : List Node → List Node
  | [] => []
  | node :: rest => node.hidden inLine ++ allHidden inLine rest
termination_by structural nodes => nodes

end

mutual

/-- The nodes that stand in the place of a node where fragments are opened. -/
def opened : Node → List Node
  | .fragment children => allOpened children
  | node => [node]
termination_by structural node => node

def allOpened : List Node → List Node
  | [] => []
  | node :: rest => node.opened ++ allOpened rest
termination_by structural nodes => nodes

end

/-- Nothing is counted for the node itself. -/
def Uncounted (node : Node) : Prop :=
  ∀ stats : TreeStats, stats.addNode node = stats

private theorem hidden_of_isInline {node : Node} (flows : node.isInline = true) (inLine : Bool) :
    node.hidden inLine = node.hidden true := by
  cases node <;> first | rfl | contradiction

mutual

private theorem hidden_of_isEmpty (node : Node) (empty : node.isEmpty = true) (inLine : Bool) :
    node.hidden inLine = [] := by
  cases node with
  | text value => rfl
  | fragment children => exact allHidden_of_areEmpty children empty inLine
  | _ => contradiction
termination_by structural node

private theorem allHidden_of_areEmpty (nodes : List Node) (empty : areEmpty nodes = true) (inLine : Bool) :
    allHidden inLine nodes = [] := by
  cases nodes with
  | nil => rfl
  | cons node rest =>
    rw [areEmpty, Bool.and_eq_true] at empty
    rw [allHidden, hidden_of_isEmpty node empty.1, allHidden_of_areEmpty rest empty.2, List.append_nil]
termination_by structural nodes

end

mutual

private theorem hidden_opened (inLine : Bool) (node : Node) :
    node.opened.flatMap (hidden inLine) = node.hidden inLine := by
  cases node with
  | fragment children => exact allHidden_opened inLine children
  | _ => exact List.flatMap_singleton ..
termination_by structural node

private theorem allHidden_opened (inLine : Bool) (nodes : List Node) :
    (allOpened nodes).flatMap (hidden inLine) = allHidden inLine nodes := by
  cases nodes with
  | nil => rfl
  | cons node rest =>
    rw [allOpened, List.flatMap_append, hidden_opened inLine node, allHidden_opened inLine rest, allHidden]
termination_by structural nodes

end

mutual

private theorem foldl_opened (node : Node) (stats : TreeStats) :
    (node.opened.flatMap walk).foldl addNode stats = node.walk.foldl addNode stats := by
  cases node with
  | fragment children => exact foldl_allOpened children stats
  | _ => exact congrArg (List.foldl addNode stats) (List.flatMap_singleton ..)
termination_by structural node

private theorem foldl_allOpened (nodes : List Node) (stats : TreeStats) :
    ((allOpened nodes).flatMap walk).foldl addNode stats = (walkAll nodes).foldl addNode stats := by
  cases nodes with
  | nil => rfl
  | cons node rest =>
    rw [allOpened, List.flatMap_append, List.foldl_append, foldl_opened node, foldl_allOpened rest, walkAll,
      List.foldl_append]
termination_by structural nodes

end

end Node

namespace TreeStats

/-- Nodes may be counted in any order. -/
instance : RightCommutative addNode where
  right_comm stats first second := by
    cases first <;> cases second <;> simp [addNode, countText, Nat.add_right_comm]

/-- All that is counted, in one number. -/
def total (stats : TreeStats) : Nat :=
  stats.sectionCount + stats.entryCount + stats.listCount + stats.listItemCount + stats.columnGroupCount +
    stats.linkCount + stats.wordCount + stats.charCount

private theorem total_addNode (stats : TreeStats) (node : Node) :
    (stats.addNode node).total = stats.total + (addNode {} node).total := by
  cases node <;> simp only [addNode, countText, total] <;> omega

private theorem uncounted_of_total {node : Node} (nothing : (addNode {} node).total = 0) : node.Uncounted := by
  intro stats
  cases node <;> simp_all [addNode, countText, total, -List.countP_eq_zero]

private theorem total_le_foldl (nodes : List Node) (stats : TreeStats) :
    stats.total ≤ (nodes.foldl addNode stats).total := by
  induction nodes generalizing stats with
  | nil => exact Nat.le_refl _
  | cons node rest ih => exact Nat.le_trans (total_addNode stats node ▸ Nat.le_add_right ..) (ih _)

private theorem foldl_eq_self_iff {nodes : List Node} {stats : TreeStats} :
    nodes.foldl addNode stats = stats ↔ ∀ node ∈ nodes, node.Uncounted := by
  induction nodes with
  | nil => simp
  | cons node rest ih =>
    rw [List.forall_mem_cons, List.foldl_cons, ← ih]
    constructor
    · intro same
      have grown := total_le_foldl rest (stats.addNode node)
      rw [same, total_addNode] at grown
      have uncounted : node.Uncounted := uncounted_of_total (by omega)
      rw [uncounted stats] at same
      exact ⟨uncounted, same⟩
    · rintro ⟨uncounted, same⟩
      rw [uncounted stats, same]

private theorem warningCount_foldl (nodes : List Node) (stats : TreeStats) (count : Nat) :
    nodes.foldl addNode { stats with warningCount := count } =
      { nodes.foldl addNode stats with warningCount := count } := by
  induction nodes generalizing stats with
  | nil => rfl
  | cons node rest ih =>
    rw [List.foldl_cons, List.foldl_cons, ← ih]
    cases node <;> rfl

end TreeStats

namespace Markdown

open Render

section walk

variable {σ α β : Type}

/-- The walk counts these nodes except the ones left out, in whatever order, and nothing else. -/
def CountsBut (left nodes : List Node) (walk : Walk σ α) : Prop :=
  ∀ session, left.foldl addNode (walk.run session).2.stats = nodes.foldl addNode session.stats

private theorem countsBut_pure (value : α) : CountsBut [] [] (pure value : Walk σ α) :=
  fun _ => rfl

theorem CountsBut.bind {left nodes later all : List Node} {walk : Walk σ α} {next : α → Walk σ β}
    (one : CountsBut left nodes walk) (two : ∀ value, CountsBut later all (next value)) :
    CountsBut (left ++ later) (nodes ++ all) (walk >>= next) := by
  intro session
  have second := two (walk.run session).1 (walk.run session).2
  calc (left ++ later).foldl addNode ((walk >>= next).run session).2.stats
    _ = (later ++ left).foldl addNode ((walk >>= next).run session).2.stats :=
      List.perm_append_comm.foldl_eq _
    _ = left.foldl addNode (all.foldl addNode (walk.run session).2.stats) := by
      rw [List.foldl_append, ← second]
      rfl
    _ = (all ++ left).foldl addNode (walk.run session).2.stats := (List.foldl_append ..).symm
    _ = (left ++ all).foldl addNode (walk.run session).2.stats := List.perm_append_comm.foldl_eq _
    _ = (nodes ++ all).foldl addNode session.stats := by rw [List.foldl_append, one session, List.foldl_append]

private theorem CountsBut.bind_pure {left nodes : List Node} {walk : Walk σ α} (counts : CountsBut left nodes walk)
    (result : α → β) : CountsBut left nodes (walk >>= fun value => pure (result value)) :=
  counts

theorem CountsBut.congr {left nodes other all : List Node} {walk : Walk σ α} (counts : CountsBut left nodes walk)
    (leftSame : ∀ stats, other.foldl addNode stats = left.foldl addNode stats)
    (same : ∀ stats, nodes.foldl addNode stats = all.foldl addNode stats) : CountsBut other all walk := by
  intro session
  rw [leftSame, counts session, same]

variable {options : RenderOptions} {visitor : Visitor σ} (counting : options.collectStats = true)
  (idle : visitor.Idle)

include counting idle

private theorem run_consult (node : Node) (content : Walk σ String) (session : Session σ) :
    ∃ memory, (consult options visitor node content).run session =
      content.run { memory, stats := session.stats.addNode node } := by
  obtain ⟨memory, asked⟩ : ∃ memory, (ask visitor node).run session = (.proceed, { session with memory }) :=
    ⟨_, Prod.ext (idle node session.memory) rfl⟩
  refine ⟨memory, ?_⟩
  rw [consult, StateT.run_bind, asked]
  simp only [countNode, counting, if_true]
  rfl

private theorem countsBut_consult (node : Node) {left nodes : List Node} {content : Walk σ String}
    (inside : CountsBut left nodes content) :
    CountsBut left (node :: nodes) (consult options visitor node content) := by
  intro session
  obtain ⟨memory, counted⟩ := run_consult counting idle node content session
  rw [counted]
  exact inside _

/-- A node whose content is fixed hides all nodes below it. -/
theorem countsBut_consult_pure (node : Node) (below : List Node) (text : String) :
    CountsBut below (node :: below) (consult options visitor node (pure text)) :=
  countsBut_consult counting idle node fun _ => rfl

omit counting idle

mutual

private theorem countsBut_inline (counting : options.collectStats = true) (idle : visitor.Idle) (node : Node) :
    CountsBut (node.hidden true) node.walk (inline options visitor node) := by
  cases node with
  | fragment children =>
    exact countsBut_consult counting idle _ (countsBut_inlineAll counting idle children)
  | styled style child =>
    exact countsBut_consult counting idle _ ((countsBut_inline counting idle child).bind_pure _)
  | link href label =>
    exact countsBut_consult counting idle _ ((countsBut_inline counting idle label).bind_pure _)
  | _ => exact countsBut_consult_pure counting idle _ _ _
termination_by structural node

private theorem countsBut_inlineAll (counting : options.collectStats = true) (idle : visitor.Idle) (nodes : List Node) :
    CountsBut (Node.allHidden true nodes) (Node.walkAll nodes) (inlineAll options visitor nodes) := by
  cases nodes with
  | nil => exact countsBut_pure _
  | cons node rest =>
    exact (countsBut_inline counting idle node).bind fun first => (countsBut_inlineAll counting idle rest).bind_pure _
termination_by structural nodes

end

include counting idle

private theorem countsBut_lineNode (node : Node) :
    CountsBut (([node].filter Node.isInline).flatMap (Node.hidden true)) (([node].filter Node.isInline).flatMap Node.walk)
      (if node.isInline then inline options visitor node else pure "") := by
  cases flows : node.isInline with
  | false => simpa [flows] using countsBut_pure ""
  | true => simpa [flows] using countsBut_inline counting idle node

omit counting idle

mutual

private theorem countsBut_itemLine (counting : options.collectStats = true) (idle : visitor.Idle) (item : Node) :
    CountsBut ((item.opened.filter Node.isInline).flatMap (Node.hidden true))
      ((item.opened.filter Node.isInline).flatMap Node.walk) (itemLine options visitor item) := by
  cases item with
  | fragment children => exact countsBut_itemLines counting idle children
  | _ => exact countsBut_lineNode counting idle _
termination_by structural item

private theorem countsBut_itemLines (counting : options.collectStats = true) (idle : visitor.Idle) (nodes : List Node) :
    CountsBut (((Node.allOpened nodes).filter Node.isInline).flatMap (Node.hidden true))
      (((Node.allOpened nodes).filter Node.isInline).flatMap Node.walk) (itemLines options visitor nodes) := by
  cases nodes with
  | nil => exact countsBut_pure _
  | cons node rest =>
    rw [Node.allOpened, List.filter_append, List.flatMap_append, List.flatMap_append]
    exact (countsBut_itemLine counting idle node).bind fun first => (countsBut_itemLines counting idle rest).bind_pure _
termination_by structural nodes

end

include counting idle

private theorem countsBut_fieldText (style? : Option SpanStyle) (field : Node) :
    CountsBut (field.hidden true) field.walk (fieldText options visitor style? field) := by
  unfold fieldText
  split
  next empty =>
    rw [field.hidden_of_isEmpty empty]
    exact fun session => (field.foldl_walk_of_isEmpty empty _).symm
  next =>
    cases style? with
    | none => exact countsBut_inline counting idle field
    | some style => exact countsBut_inline counting idle (.styled style field)

private theorem countsBut_row (style : SpanStyle) (first second : Node) :
    CountsBut (first.hidden true ++ second.hidden true) (first.walk ++ second.walk)
      (row options visitor style first second) :=
  (countsBut_fieldText counting idle (some style) first).bind fun _ =>
    (countsBut_fieldText counting idle none second).bind_pure _

private theorem countsBut_contactTexts (contacts : List Node) :
    CountsBut (Node.allHidden true contacts) (Node.walkAll contacts) (contactTexts options visitor contacts) := by
  induction contacts with
  | nil => exact countsBut_pure _
  | cons contact rest ih => exact (countsBut_inline counting idle contact).bind fun first => ih.bind_pure _

private theorem countsBut_blockPiece (context : Context) (node : Node) {left nodes : List Node}
    {content : Walk σ String} (inside : CountsBut left nodes content) :
    CountsBut left (node :: nodes) (blockPiece options visitor context node content) :=
  (countsBut_consult counting idle node inside).bind_pure _

omit counting idle

/-- Those of some nodes that are rendered as pieces; in an item the line has the inline ones already. -/
def Context.placed : Context → List Node → List Node
  | .flow, nodes => nodes
  | .item _, nodes => nodes.filter fun node => !node.isInline

private theorem Context.placed_append (context : Context) (nodes others : List Node) :
    context.placed (nodes ++ others) = context.placed nodes ++ context.placed others := by
  cases context with
  | flow => rfl
  | item indent => exact List.filter_append ..

/-- A block is rendered among the pieces wherever it stands. -/
theorem CountsBut.block {context : Context} {node : Node} {walk : Walk σ α}
    (counts : CountsBut (node.hidden false) node.walk walk) (block : node.isInline = false) :
    CountsBut ((context.placed [node]).flatMap (Node.hidden false)) ((context.placed [node]).flatMap Node.walk) walk := by
  have alone : context.placed [node] = [node] := by
    cases context with
    | flow => rfl
    | item indent => simp [Context.placed, block]
  rw [alone, List.flatMap_singleton, List.flatMap_singleton]
  exact counts

/-- What a walk over the members of an opened node counts is what it counts for the node. -/
theorem CountsBut.flow {nodes : List Node} {walk : Walk σ α}
    (counts : CountsBut ((Context.flow.placed (Node.allOpened nodes)).flatMap (Node.hidden false))
      ((Context.flow.placed (Node.allOpened nodes)).flatMap Node.walk) walk) :
    CountsBut (Node.allHidden false nodes) (Node.walkAll nodes) walk :=
  counts.congr (fun _ => by rw [Context.placed, Node.allHidden_opened]) (Node.foldl_allOpened nodes)

/-- The line of an item and the pieces below it have each member of the item once. -/
theorem CountsBut.item {item : Node} (indent : Nat) {later all : List Node} {walk : Walk σ α}
    (counts : CountsBut
      ((item.opened.filter Node.isInline).flatMap (Node.hidden true) ++
        (((Context.item indent).placed item.opened).flatMap (Node.hidden false) ++ later))
      ((item.opened.filter Node.isInline).flatMap Node.walk ++
        (((Context.item indent).placed item.opened).flatMap Node.walk ++ all)) walk) :
    CountsBut (item.hidden false ++ later) (item.walk ++ all) walk := by
  have parted (below : Node → List Node) : ((item.opened.filter Node.isInline).flatMap below ++
      ((Context.item indent).placed item.opened).flatMap below).Perm (item.opened.flatMap below) := by
    rw [← List.flatMap_append]
    exact (List.filter_append_perm Node.isInline item.opened).flatMap_right below
  have flows : (item.opened.filter Node.isInline).flatMap (Node.hidden true) =
      (item.opened.filter Node.isInline).flatMap (Node.hidden false) :=
    List.flatMap_congr fun node member => (Node.hidden_of_isInline (List.mem_filter.mp member).2 false).symm
  rw [flows, ← List.append_assoc, ← List.append_assoc] at counts
  refine counts.congr (fun stats => ?_) (fun stats => ?_)
  · rw [← Node.hidden_opened, List.foldl_append, List.foldl_append, (parted _).foldl_eq]
  · rw [List.foldl_append, (parted _).foldl_eq, Node.foldl_opened, List.foldl_append]

private theorem countsBut_inlinePieces (counting : options.collectStats = true) (idle : visitor.Idle)
    (context : Context) {node : Node} (flows : node.isInline = true) (whole : node.opened = [node]) :
    CountsBut ((context.placed node.opened).flatMap (Node.hidden false)) ((context.placed node.opened).flatMap Node.walk)
      (inlinePieces options visitor context node) := by
  rw [whole]
  cases context with
  | flow =>
    rw [Context.placed, List.flatMap_singleton, List.flatMap_singleton, Node.hidden_of_isInline flows]
    exact (countsBut_inline counting idle node).bind_pure _
  | item indent =>
    have nothing : CountsBut [] [] (inlinePieces options visitor (.item indent) node) := countsBut_pure []
    simpa [Context.placed, flows] using nothing

mutual

private theorem countsBut_pieces (counting : options.collectStats = true) (idle : visitor.Idle) (context : Context)
    (node : Node) :
    CountsBut ((context.placed node.opened).flatMap (Node.hidden false)) ((context.placed node.opened).flatMap Node.walk)
      (pieces options visitor context node) := by
  cases node with
  | header name lines contacts =>
    refine CountsBut.block ?_ rfl
    exact countsBut_blockPiece counting idle context _ ((countsBut_contactTexts counting idle contacts).bind_pure _)
  | titled title body =>
    refine CountsBut.block ?_ rfl
    exact countsBut_blockPiece counting idle context _ ((countsBut_allPieces counting idle .flow body).flow.bind_pure _)
  | entry primary secondary tertiary quaternary =>
    refine CountsBut.block ?_ rfl
    have rows := (countsBut_row counting idle .bold primary secondary).bind fun first =>
      (countsBut_row counting idle .italic tertiary quaternary).bind_pure (joinRows first)
    simp only [← List.append_assoc] at rows
    exact countsBut_blockPiece counting idle context _ rows
  | itemList bulleted items =>
    refine CountsBut.block ?_ rfl
    have texts := countsBut_itemTexts counting idle bulleted context.listIndent items
    exact (countsBut_consult counting idle (.itemList bulleted items) (texts.bind_pure _)).bind_pure _
  | columnGroup columns =>
    refine CountsBut.block ?_ rfl
    exact countsBut_blockPiece counting idle context _
      ((countsBut_allPieces counting idle .flow columns).flow.bind_pure _)
  | centered body =>
    refine CountsBut.block ?_ rfl
    exact countsBut_blockPiece counting idle context _ ((countsBut_allPieces counting idle .flow body).flow.bind_pure _)
  | fragment children => exact countsBut_allPieces counting idle context children
  | _ => exact countsBut_inlinePieces counting idle context rfl rfl
termination_by structural node

private theorem countsBut_allPieces (counting : options.collectStats = true) (idle : visitor.Idle) (context : Context)
    (nodes : List Node) :
    CountsBut ((context.placed (Node.allOpened nodes)).flatMap (Node.hidden false))
      ((context.placed (Node.allOpened nodes)).flatMap Node.walk) (allPieces options visitor context nodes) := by
  cases nodes with
  | nil =>
    have nothing : context.placed [] = [] := by cases context <;> rfl
    rw [Node.allOpened, nothing]
    exact countsBut_pure _
  | cons node rest =>
    rw [Node.allOpened, context.placed_append, List.flatMap_append, List.flatMap_append]
    exact (countsBut_pieces counting idle context node).bind fun first =>
      (countsBut_allPieces counting idle context rest).bind_pure _
termination_by structural nodes

private theorem countsBut_itemTexts (counting : options.collectStats = true) (idle : visitor.Idle) (bulleted : Bool)
    (indent : Nat) (items : List Node) :
    CountsBut (Node.allHidden false items) (Node.walkAll items) (itemTexts options visitor bulleted indent items) := by
  cases items with
  | nil => exact countsBut_pure _
  | cons item rest =>
    refine CountsBut.item indent ?_
    exact (countsBut_itemLine counting idle item).bind fun line =>
      (countsBut_pieces counting idle (.item indent) item).bind fun blocks =>
        (countsBut_itemTexts counting idle bulleted indent rest).bind_pure _
termination_by structural items

end

end walk

end Markdown

/-- Rendering to Markdown counts what a walk of the tree counts, but for the nodes below a block that stands inside a
line; the counts are those of the tree just where none of these nodes counts. -/
theorem Document.stats_renderMarkdown (document : Document) (options : RenderOptions) :
    (Node.allHidden false document.tree).foldl addNode (Markdown.renderWithStats options {} document).stats =
        document.statistics ∧
      ((Markdown.renderWithStats options {} document).stats = document.statistics ↔
        ∀ node ∈ Node.allHidden false document.tree, node.Uncounted) := by
  have idle : ({} : Visitor Unit).Idle := Visitor.idle_default
  have counting : ({ options with collectStats := true } : RenderOptions).collectStats = true := rfl
  have counts := (Markdown.countsBut_allPieces counting idle .flow document.tree).flow.bind_pure
    fun pieces => (Markdown.flowLayout pieces).trimmed
  have counted := congrArg (fun stats : TreeStats => { stats with warningCount := document.warnings.length })
    (counts { memory := () })
  have whole : (Node.allHidden false document.tree).foldl addNode (Markdown.renderWithStats options {} document).stats =
      document.statistics := (warningCount_foldl _ _ _).trans counted
  refine ⟨whole, ?_⟩
  rw [← whole, eq_comm, foldl_eq_self_iff]

/-- A list in bold text. -/
def boldListMarkup : String :=
  "\\textbf\x7b\\begin\x7bitemize\x7d\\item a\\end\x7bitemize\x7d\x7d"

/-- The list is counted and printed, and the word in it is printed but not counted. -/
theorem stats_renderMarkdown_boldList :
    (Markdown.renderWithStats {} {} (parse {} boldListMarkup)).content = "**- a**" ∧
      (Markdown.renderWithStats {} {} (parse {} boldListMarkup)).stats ≠ (parse {} boldListMarkup).statistics := by
  decide +kernel

end Vitae
