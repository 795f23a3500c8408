import Vitae.Proofs.NestedSections
import Vitae.Proofs.Nesting

/-! The height of transpiled trees. The depth that is allowed for groups in the markup bounds it, so whatever follows a
tree from children to children comes to an end, and there is markup whose tree is as high as the bound. -/

namespace Vitae

namespace Node

mutual

/-- A leaf has height 1, any other node one more than the highest of its children. -/
def height : Node → Nat
  | .header _ _ contacts => highest contacts + 1
  | .titled _ body | .centered body => highest body + 1
  | .entry primary secondary tertiary quaternary =>
    max (height primary) (max (height secondary) (max (height tertiary) (height quaternary))) + 1
  | .itemList _ items => highest items + 1
  | .columnGroup columns => highest columns + 1
  | .fragment children => highest children + 1
  | .styled _ child => height child + 1
  | .link _ label => height label + 1
  | .lineBreak | .separator | .text _ => 1
termination_by structural node => node

/-- The height of the highest node, 0 where there is none. -/
def highest : List Node → Nat
  | [] => 0
  | node :: rest => max (height node) (highest rest)
termination_by structural nodes => nodes

end

private theorem height_eq (node : Node) : node.height = highest node.children + 1 := by
  cases node <;> simp [height, highest, children]

private theorem highest_le_iff {nodes : List Node} {limit : Nat} :
    highest nodes ≤ limit ↔ ∀ node ∈ nodes, node.height ≤ limit := by
  induction nodes with
  | nil => simp [highest]
  | cons node rest ih => rw [highest, Nat.max_le, ih, List.forall_mem_cons]

private theorem highest_children_lt {nodes : List Node} {node : Node} (member : node ∈ nodes) :
    highest node.children < highest nodes := by
  have within := highest_le_iff.mp (Nat.le_refl (highest nodes)) node member
  rwa [height_eq] at within

private theorem descend?_of_highest_lt {path : List Nat} {nodes : List Node} (long : highest nodes < path.length) :
    descend? path nodes = none := by
  fun_induction descend? path nodes with
  | case1 => rfl
  | case2 index nodes =>
    cases found : nodes[index]? with
    | none => rfl
    | some node =>
      have lower := highest_children_lt (List.mem_of_getElem? found)
      simp only [List.length_singleton] at long
      omega
  | case3 index path nodes more ih =>
    cases found : nodes[index]? with
    | none => rfl
    | some node =>
      have lower := highest_children_lt (List.mem_of_getElem? found)
      simp only [List.length_cons] at long
      exact ih node (by omega)

private theorem height_text_le (value : String) : height (.text value) ≤ 1 :=
  Nat.le_refl 1

private theorem height_le_succ (node : Node) {limit : Nat} (children : ∀ child ∈ node.children, child.height ≤ limit) :
    node.height ≤ limit + 1 := by
  rw [height_eq]
  exact Nat.succ_le_succ (highest_le_iff.mpr children)

/-- One step up for every node around a text. -/
def heightMeasure : DepthMeasure where
  of := height
  leaf := 1
  step := 1
  text_le := height_text_le
  node_le := height_le_succ

end Node

/-- The tree itself is one step above its nodes. -/
def Tree.height (tree : Tree) : Nat :=
  Node.highest tree + 1

private theorem height_collapse_nestedNodes (count : Nat) :
    (Node.collapse (nestedNodes count)).height = 3 * count + 1 := by
  induction count with
  | zero => rfl
  | succ count ih =>
    rw [nestedNodes]
    generalize Node.collapse (nestedNodes count) = inside at ih
    simp only [Node.collapse, Node.height, Node.highest]
    omega

private theorem height_nestedNodes (count : Nat) : Tree.height (nestedNodes (count + 1)) = 3 * count + 4 := by
  have inside := height_collapse_nestedNodes count
  simp only [Tree.height, nestedNodes, Node.height, Node.highest, inside]
  omega

/-- A transpiled tree is at most three nodes high for each level of groups and four more, so nothing that follows it from
children to children goes deeper. Some markup has a tree of just that height. -/
theorem height_transpile (options : TranspileOptions) :
    (∀ normal, Tree.height (transpile options normal).tree ≤ 3 * options.maxDepth + 4 ∧
        ∀ path, 3 * options.maxDepth + 4 ≤ path.length → Node.descend? path (transpile options normal).tree = none) ∧
      ∃ markup, Tree.height (parse options markup).tree = 3 * options.maxDepth + 4 := by
  refine ⟨fun normal => ?_, .ofList (nestedSections (options.maxDepth + 1)), ?_⟩
  · have each : Node.highest (transpile options normal).tree ≤ 1 + (3 * options.maxDepth + 2) * 1 :=
      Node.highest_le_iff.mpr (of_transpile_le Node.heightMeasure options normal)
    refine ⟨?_, fun path long => Node.descend?_of_highest_lt ?_⟩
    · rw [Tree.height]
      omega
    · omega
  · rw [tree_parse_nestedSections options (Nat.le_refl _), height_nestedNodes]

end Vitae
