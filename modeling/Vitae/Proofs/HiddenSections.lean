import Vitae.Proofs.SkippedSections

/-! Hidden sections leave no trace in HTML. The visitor answers for a section by its title alone, before its body is
looked at, and what is asked of the nodes around it (whether a field is empty, of which kind a member is, what counts)
does not reach into a body either. So a tree renders as it would without those bodies. -/

namespace Vitae

namespace Node

variable (titles : List String)

mutual

/-- A node in which every section of the given titles, at whatever depth, has an empty body. -/
def hollowed : Node → Node
  | .header name lines contacts => .header name lines (hollowedAll contacts)
  | .titled title body =>
    .titled title (if isSkipped titles (.titled title body) then [] else hollowedAll body)
  | .entry primary secondary tertiary quaternary =>
    .entry (hollowed primary) (hollowed secondary) (hollowed tertiary) (hollowed quaternary)
  | .itemList bulleted items => .itemList bulleted (hollowedAll items)
  | .columnGroup columns => .columnGroup (hollowedAll columns)
  | .centered body => .centered (hollowedAll body)
  | .styled style child => .styled style (hollowed child)
  | .link href label => .link href (hollowed label)
  | .fragment children => .fragment (hollowedAll children)
  | .lineBreak => .lineBreak
  | .separator => .separator
  | .text value => .text value
termination_by structural node => node

def hollowedAll : List Node → List Node
  | [] => []
  | node :: rest => hollowed node :: hollowedAll rest
termination_by structural nodes => nodes

end

private theorem length_hollowedAll (nodes : List Node) : (hollowedAll titles nodes).length = nodes.length := by
  induction nodes with
  | nil => rfl
  | cons node rest ih => rw [hollowedAll, List.length_cons, List.length_cons, ih]

private theorem isEmpty_hollowedAll (nodes : List Node) : (hollowedAll titles nodes).isEmpty = nodes.isEmpty := by
  cases nodes <;> rfl

private theorem kind_hollowed (node : Node) : (node.hollowed titles).kind = node.kind := by
  cases node <;> rfl

private theorem isSkipped_hollowed (node : Node) : (node.hollowed titles).isSkipped titles = node.isSkipped titles := by
  cases node <;> rfl

mutual

/-- A section is never empty, whatever its body. -/
theorem isEmpty_hollowed (node : Node) : (node.hollowed titles).isEmpty = node.isEmpty := by
  cases node with
  | fragment children => exact areEmpty_hollowedAll children
  | _ => rfl
termination_by structural node

private theorem areEmpty_hollowedAll (nodes : List Node) : areEmpty (hollowedAll titles nodes) = areEmpty nodes := by
  cases nodes with
  | nil => rfl
  | cons node rest => rw [hollowedAll, areEmpty, areEmpty, isEmpty_hollowed node, areEmpty_hollowedAll rest]
termination_by structural nodes

end

/-- What a node counts for itself is not in its body. -/
theorem addNode_hollowed (stats : TreeStats) (node : Node) :
    stats.addNode (node.hollowed titles) = stats.addNode node := by
  cases node with
  | itemList bulleted items => rw [hollowed, TreeStats.addNode, TreeStats.addNode, length_hollowedAll]
  | _ => rfl

end Node

namespace Html

open Render

section walk

variable {σ : Type} {titles : List String} {options : RenderOptions}

private theorem ask_skipSections (node : Node) :
    ask (Visitor.skipSections titles : Visitor σ) node = pure (if node.isSkipped titles then .skip else .proceed) := by
  funext session
  rw [ask, Visitor.dispatch_skipSections]
  rfl

private theorem consult_of_isSkipped {node : Node} (skipped : node.isSkipped titles = true) (content : Walk σ String) :
    consult options (.skipSections titles) node content = pure "" := by
  rw [consult, ask_skipSections, if_pos skipped]
  rfl

/-- Visitor and counts take a node as they take it without the bodies that are hidden, so only the content of a node
that is not left out matters. -/
theorem consult_hollowed (node : Node) {content hollow : Walk σ String}
    (same : node.isSkipped titles = false → hollow = content) :
    consult options (.skipSections titles) (node.hollowed titles) hollow =
      consult options (.skipSections titles) node content := by
  cases skipped : node.isSkipped titles with
  | true =>
    have hidden : (node.hollowed titles).isSkipped titles = true := by rw [Node.isSkipped_hollowed, skipped]
    rw [consult_of_isSkipped skipped, consult_of_isSkipped hidden]
  | false =>
    have counted : (countNode options (node.hollowed titles) : Walk σ Unit) = countNode options node := by
      simp only [countNode, Node.addNode_hollowed]
    rw [consult, consult, ask_skipSections, ask_skipSections, Node.isSkipped_hollowed, counted, same skipped]

private theorem inlinePiece_hollowed (node : Node) {content hollow : Walk σ String} (same : hollow = content) :
    inlinePiece options (.skipSections titles) (node.hollowed titles) hollow =
      inlinePiece options (.skipSections titles) node content := by
  rw [inlinePiece, inlinePiece, consult_hollowed node fun _ => same]

private theorem blockPiece_hollowed (node : Node) {content hollow : Walk σ String}
    (same : node.isSkipped titles = false → hollow = content) :
    blockPiece options (.skipSections titles) (node.hollowed titles) hollow =
      blockPiece options (.skipSections titles) node content := by
  rw [blockPiece, blockPiece, consult_hollowed node same]

mutual

private theorem pieces_hollowed (node : Node) :
    pieces options (.skipSections titles : Visitor σ) (node.hollowed titles) =
      pieces options (.skipSections titles) node := by
  cases node with
  | header name lines contacts =>
    rw [Node.hollowed, pieces, pieces]
    refine blockPiece_hollowed (.header name lines contacts) fun _ => ?_
    rw [sequences_hollowedAll contacts, Node.isEmpty_hollowedAll]
  | titled title body =>
    rw [Node.hollowed, pieces, pieces]
    refine blockPiece_hollowed (.titled title body) fun kept => ?_
    rw [if_neg (by simp [kept]), members_hollowedAll body]
  | entry primary secondary tertiary quaternary =>
    rw [Node.hollowed, pieces, pieces]
    refine blockPiece_hollowed (.entry primary secondary tertiary quaternary) fun _ => ?_
    simp only [Node.isEmpty_hollowed, pieces_hollowed primary, pieces_hollowed secondary, pieces_hollowed tertiary,
      pieces_hollowed quaternary]
  | itemList bulleted items =>
    rw [Node.hollowed, pieces, pieces]
    refine blockPiece_hollowed (.itemList bulleted items) fun _ => ?_
    rw [sequences_hollowedAll items]
  | columnGroup columns =>
    rw [Node.hollowed, pieces, pieces]
    refine blockPiece_hollowed (.columnGroup columns) fun _ => ?_
    rw [sequences_hollowedAll columns]
  | centered body =>
    rw [Node.hollowed, pieces, pieces]
    refine blockPiece_hollowed (.centered body) fun _ => ?_
    rw [allPieces_hollowedAll body]
  | styled style child =>
    rw [Node.hollowed, pieces, pieces]
    refine inlinePiece_hollowed (.styled style child) ?_
    rw [pieces_hollowed child]
  | link href label =>
    rw [Node.hollowed, pieces, pieces]
    refine inlinePiece_hollowed (.link href label) ?_
    rw [pieces_hollowed label]
  | fragment children =>
    rw [Node.hollowed, pieces, pieces]
    exact allPieces_hollowedAll children
  | lineBreak | separator | text => rfl
termination_by structural node

private theorem allPieces_hollowedAll (nodes : List Node) :
    allPieces options (.skipSections titles : Visitor σ) (Node.hollowedAll titles nodes) =
      allPieces options (.skipSections titles) nodes := by
  cases nodes with
  | nil => rfl
  | cons node rest =>
    rw [Node.hollowedAll, allPieces, allPieces, pieces_hollowed node, allPieces_hollowedAll rest]
termination_by structural nodes

private theorem sequences_hollowedAll (nodes : List Node) :
    sequences options (.skipSections titles : Visitor σ) (Node.hollowedAll titles nodes) =
      sequences options (.skipSections titles) nodes := by
  cases nodes with
  | nil => rfl
  | cons node rest =>
    rw [Node.hollowedAll, sequences, sequences, pieces_hollowed node, sequences_hollowedAll rest]
termination_by structural nodes

private theorem members_hollowedAll (nodes : List Node) :
    members options (.skipSections titles : Visitor σ) (Node.hollowedAll titles nodes) =
      members options (.skipSections titles) nodes := by
  cases nodes with
  | nil => rfl
  | cons node rest =>
    rw [Node.hollowedAll, members, members, pieces_hollowed node, members_hollowedAll rest, Node.kind_hollowed]
termination_by structural nodes

end

/-- The whole run, counts included, is that of the tree with hollow sections, where nothing is put around it. -/
theorem run_hollowedAll (plain : options.standalone = false) (memory : σ) (tree : Tree) :
    run options (.skipSections titles) memory (Node.hollowedAll titles tree) =
      run options (.skipSections titles) memory tree := by
  have shown : content options (.skipSections titles : Visitor σ) (Node.hollowedAll titles tree) =
      content options (.skipSections titles) tree := by
    rw [content, content, allPieces_hollowedAll]
  simp only [run, shown, document, plain, Bool.false_eq_true, if_false]

end walk

/-- Trees that differ only in the bodies of sections of the given titles, at whatever depth, are the same HTML with the
same counts once these sections are left out. A page around the HTML would take its title from the first header, which
may stand in such a body. -/
theorem renderWithStats_of_hollowedAll_eq {options : RenderOptions} (plain : options.standalone = false)
    {titles : List String} {first second : Tree} (warnings : List String)
    (same : Node.hollowedAll titles first = Node.hollowedAll titles second) :
    render options (.skipSections titles) first = render options (.skipSections titles) second ∧
      renderWithStats options (.skipSections titles) ⟨first, warnings⟩ =
        renderWithStats options (.skipSections titles) ⟨second, warnings⟩ := by
  have walks (options : RenderOptions) (plain : options.standalone = false) :
      run options (.skipSections titles) () first = run options (.skipSections titles) () second := by
    calc run options (.skipSections titles) () first
        = run options (.skipSections titles) () (Node.hollowedAll titles first) := (run_hollowedAll plain () first).symm
      _ = run options (.skipSections titles) () (Node.hollowedAll titles second) := by rw [same]
      _ = run options (.skipSections titles) () second := run_hollowedAll plain () second
  constructor
  · exact congrArg Prod.fst (walks options plain)
  · rw [renderWithStats, renderWithStats, runWithStats, runWithStats, walks { options with collectStats := true } plain]

example : documentTitle {} [.titled "Notes" [.header "Jane" [] []]] = "Jane" ∧
    documentTitle {} [.titled "Notes" []] = "Resume" := by
  decide

/-- A reference in a field, and one in an item, whose titles match and whose bodies do not. -/
def withReferences (first second : List Node) : Tree :=
  [.entry (.titled "References" first) .empty .empty .empty,
   .itemList true [.fragment [.text "x", .titled " references " second]]]

theorem renderWithStats_withReferences :
    let options : RenderOptions := { standalone := false, collectStats := true }
    let hidden := withReferences [.link "tel:1" (.text "y")] [.entry .empty .empty .empty .empty]
    let hollow := withReferences [] []
    options.standalone = false ∧ Node.hollowedAll ["References"] hidden = Node.hollowedAll ["References"] hollow ∧
      render options (.skipSections ["References"]) hidden = render options (.skipSections ["References"]) hollow ∧
      renderWithStats options (.skipSections ["References"]) ⟨hidden, []⟩ =
        renderWithStats options (.skipSections ["References"]) ⟨hollow, []⟩ := by
  intro options hidden hollow
  have same : Node.hollowedAll ["References"] hidden = Node.hollowedAll ["References"] hollow := rfl
  exact ⟨rfl, same, renderWithStats_of_hollowedAll_eq rfl [] same⟩

end Html

end Vitae
