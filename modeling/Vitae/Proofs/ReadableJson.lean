import Vitae.Proofs.JsonContent
import Vitae.Proofs.NestedSections
import Vitae.Proofs.Nesting

/-! Where the JSON of transpiled markup can be read back. The reader takes a limited number of nested arrays and objects,
and each level of groups in the markup can make six of them: a fragment, a section and an item list, each an object
around an array. -/

namespace Vitae

open Json Markup

section depth

private theorem Node.itemsDepth_toJsons_le {nodes : List Node} {limit : Nat}
    (each : ∀ node ∈ nodes, node.toJson.depth ≤ limit) :
    itemsDepth (Node.toJsons nodes) ≤ limit := by
  induction nodes with
  | nil => exact Nat.zero_le _
  | cons node rest ih =>
    obtain ⟨first, others⟩ := List.forall_mem_cons.mp each
    exact Nat.max_le.mpr ⟨first, ih others⟩

/-- How deep the JSON of a node goes. A node is an object, which holds its children in an array or as they are. -/
def jsonDepth : DepthMeasure where
  of node := node.toJson.depth
  leaf := 1
  step := 2
  text_le _ := Nat.le_refl 1
  node_le node limit children := by
    have array := Node.itemsDepth_toJsons_le children
    cases node with
    | header name lines contacts =>
      have texts : (Json.strings lines).depth = 1 := congrArg (· + 1) (Document.itemsDepth_strings lines)
      simp only [Node.toJson, Json.depth, membersDepth, texts, Node.children] at array ⊢
      omega
    | entry primary secondary tertiary quaternary =>
      simp only [Node.toJson, Json.depth, membersDepth, Node.children, Node.toJsons, itemsDepth] at array ⊢
      omega
    | styled | link =>
      simp only [Node.toJson, Json.depth, membersDepth, Node.children, Node.toJsons, itemsDepth] at array ⊢
      omega
    | titled | itemList | columnGroup | centered | fragment =>
      simp only [Node.toJson, Json.depth, membersDepth, Node.children] at array ⊢
      omega
    | lineBreak | separator | text =>
      simp only [Node.toJson, Json.depth, membersDepth]
      omega

private theorem Document.depth_parse_le (options : TranspileOptions) (markup : String) :
    (parse options markup).toJson.depth ≤ 6 * options.maxDepth + 7 := by
  have each : ∀ node ∈ (parse options markup).tree, node.toJson.depth ≤ 1 + (3 * options.maxDepth + 2) * 2 :=
    of_transpile_le jsonDepth options (normalize options.normal markup)
  have items := Node.itemsDepth_toJsons_le each
  rw [Document.depth_toJson]
  omega

end depth

section nested

variable (options : TranspileOptions)

private theorem depth_collapse_nestedNodes (count : Nat) :
    (Node.collapse (nestedNodes count)).toJson.depth = 6 * count + 1 := by
  induction count with
  | zero => rfl
  | succ count ih =>
    rw [nestedNodes]
    generalize Node.collapse (nestedNodes count) = inside at ih
    simp only [Node.collapse, Node.toJson, Node.toJsons, Json.depth, membersDepth, itemsDepth]
    omega

private theorem depth_parse_nestedSections {count : Nat} (room : count ≤ options.maxDepth) :
    (parse options (.ofList (nestedSections (count + 1)))).toJson.depth = 6 * count + 7 := by
  have inside := depth_collapse_nestedNodes count
  rw [Document.depth_toJson, tree_parse_nestedSections options (Nat.succ_le_succ room)]
  simp only [nestedNodes, Node.toJson, Node.toJsons, Json.depth, membersDepth, itemsDepth, inside]
  omega

end nested

/-- The JSON of all markup can be read back exactly where no more than twenty levels of groups may be nested. -/
theorem Document.read?_parse_iff (options : TranspileOptions) (layout : JsonLayout) :
    (∀ markup, Document.read? ((parse options markup).toJsonText layout) = some (parse options markup)) ↔
      options.maxDepth ≤ 20 := by
  constructor
  · intro readable
    have deep := depth_parse_nestedSections options (Nat.le_refl options.maxDepth)
    have read := readable (.ofList (nestedSections (options.maxDepth + 1)))
    rw [read?_toJsonText_eq, ofJson?_toJson, deep, depthLimit] at read
    split at read
    next shallow => omega
    next => contradiction
  · intro shallow markup
    have depth := depth_parse_le options markup
    rw [read?_toJsonText_eq, ofJson?_toJson, if_pos]
    rw [depthLimit]
    omega

/-- The default allows three times as many levels; this document needs a third of them and goes too deep. -/
theorem Document.read?_nestedSections :
    Document.read? ((parse {} (.ofList (nestedSections 22))).toJsonText .compact) = none := by
  have deep : (parse {} (.ofList (nestedSections 22))).toJson.depth = 133 :=
    depth_parse_nestedSections {} (show 21 ≤ 64 by decide)
  rw [read?_toJsonText_eq, ofJson?_toJson, deep]
  rfl

end Vitae
