import Vitae.Proofs.Consultations
import Vitae.Proofs.SkippedSections

/-! The counts of rendered content. Where no visitor acts, rendering to HTML asks about every node of a tree in the order of
the document, the nodes that it does not ask about hold nothing that counts, and so the counts are those of the tree. -/

namespace Vitae

open TreeStats

namespace Node

mutual

theorem foldl_walk_of_isEmpty (node : Node) (empty : node.isEmpty = true) (stats : TreeStats) :
    node.walk.foldl addNode stats = stats := by
  cases node with
  | text value =>
    obtain rfl := String.isEmpty_iff.mp empty
    rfl
  | fragment children => exact foldl_walkAll_of_areEmpty children empty stats
  | _ => contradiction
termination_by structural node

private theorem foldl_walkAll_of_areEmpty (nodes : List Node) (empty : areEmpty nodes = true) (stats : TreeStats) :
    (walkAll nodes).foldl addNode stats = stats := by
  cases nodes with
  | nil => rfl
  | cons node rest =>
    rw [areEmpty, Bool.and_eq_true] at empty
    rw [walkAll, List.foldl_append, foldl_walk_of_isEmpty node empty.1, foldl_walkAll_of_areEmpty rest empty.2]
termination_by structural nodes

end

private theorem foldl_walkAll_shown (nodes : List Node) (stats : TreeStats) :
    (walkAll (nodes.filter fun node => !node.isEmpty)).foldl addNode stats = (walkAll nodes).foldl addNode stats := by
  induction nodes generalizing stats with
  | nil => rfl
  | cons node rest ih =>
    rw [walkAll, List.foldl_append, ← ih]
    cases empty : node.isEmpty with
    | true => rw [List.filter_cons_of_neg (by simp [empty]), node.foldl_walk_of_isEmpty empty]
    | false => rw [List.filter_cons_of_pos (by simp [empty]), walkAll, List.foldl_append]

private theorem foldl_walkAll_shownChildren (node : Node) (stats : TreeStats) :
    (walkAll node.shownChildren).foldl addNode stats = (walkAll node.children).foldl addNode stats := by
  cases node with
  | entry primary secondary tertiary quaternary =>
    exact foldl_walkAll_shown [primary, secondary, tertiary, quaternary] stats
  | _ => rfl

end Node

private theorem Visitor.Idle.foldl_consulted {σ : Type} {visitor : Visitor σ} (idle : visitor.Idle) (nodes : List Node)
    (memory : σ) (stats : TreeStats) :
    ((((visitor.consulted nodes).run memory).1.filter (·.2 = .proceed)).map Prod.fst).foldl addNode stats =
      (Node.walkAll nodes).foldl addNode stats := by
  induction nodes using consulted.induct generalizing memory stats with
  | case1 =>
    rw [consulted]
    rfl
  | case2 node rest fragment ih =>
    have uncounted : stats.addNode node = stats := by
      cases node <;> first | rfl | contradiction
    rw [consulted, if_pos fragment, ih, walkAll_cons_eq, List.foldl_cons, uncounted]
  | case3 node rest asked ih =>
    have others := ih .proceed ((visitor.dispatch node).run memory).2 (stats.addNode node)
    rw [askedBelow_proceed, Node.walkAll_append, List.foldl_append, Node.foldl_walkAll_shownChildren,
      ← List.foldl_append, ← Node.walkAll_append] at others
    rw [run_consulted_cons visitor asked, walkAll_cons_eq, List.foldl_cons, ← others]
    simp only [idle node memory, decide_true, List.filter_cons_of_pos, List.map_cons, List.foldl_cons, askedBelow_proceed]

namespace Html

open Render

private theorem stats_renderWithStats (options : RenderOptions) {visitor : Visitor Unit} (idle : visitor.Idle)
    (document : Document) : (renderWithStats options visitor document).stats = document.statistics := by
  rw [renderWithStats, stats_runWithStats, idle.foldl_consulted]
  rfl

end Html

/-- The options for a conversion to a format that counts and leaves out no section. -/
def ConvertOptions.counting (options : ConvertOptions) (format : OutputFormat) : ConvertOptions :=
  { options with format, render := { options.render with collectStats := true }, skippedSections := [] }

/-- Rendering to HTML counts what a walk of the tree counts, and so one document has the same counts as HTML, as plain
text and as JSON. -/
theorem Document.stats_convert_counting (document : Document) (options : ConvertOptions) :
    (Html.renderWithStats options.render {} document).stats =
        { TreeStats.ofTree document.tree with warningCount := document.warnings.length } ∧
      (document.convert (options.counting .html)).stats = some document.statistics ∧
      (document.convert (options.counting .text)).stats = some document.statistics ∧
      (document.convert (options.counting .json)).stats = some document.statistics := by
  refine ⟨Html.stats_renderWithStats options.render Visitor.idle_default document, ?_, ?_, ?_⟩
  · have counted := Html.stats_renderWithStats (options.counting .html).render Visitor.idle_default document
    exact congrArg some counted
  · simp [convert, ConvertOptions.counting, withoutSections_nil]
  · simp [convert, ConvertOptions.counting, withoutSections_nil]

end Vitae
