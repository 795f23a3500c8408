import Vitae.Conversion

/-! Sections left out of plain text and JSON. Only the top level of a tree is filtered, so a section nested in what is
kept stays; the result is that of removing matching sections at every depth just where none is nested. -/

namespace Vitae

namespace Node

/-- Holds of a section whose title is among the given ones. -/
def isSkipped (titles : List String) : Node → Bool
  | .titled title _ => Visitor.titleKey title ∈ titles.map Visitor.titleKey
  | _ => false

def isTitled (node : Node) : Bool :=
  node.kind = .titled

mutual

/-- A node without the sections of the given titles. Where one is all that a field holds, empty text stays. -/
def pruned (titles : List String) : Node → Node
  | .header name lines contacts => .header name lines (prunedAll titles contacts)
  | .titled title body =>
    if isSkipped titles (.titled title body) then .empty else .titled title (prunedAll titles body)
  | .entry primary secondary tertiary quaternary =>
    .entry (pruned titles primary) (pruned titles secondary) (pruned titles tertiary) (pruned titles quaternary)
  | .itemList bulleted items => .itemList bulleted (prunedAll titles items)
  | .columnGroup columns => .columnGroup (prunedAll titles columns)
  | .centered body => .centered (prunedAll titles body)
  | .styled style child => .styled style (pruned titles child)
  | .link href label => .link href (pruned titles label)
  | .fragment children => .fragment (prunedAll titles children)
  | .lineBreak => .lineBreak
  | .separator => .separator
  | .text value => .text value
termination_by structural node => node

def prunedAll (titles : List String) : List Node → List Node
  | [] => []
  | node :: rest =>
    if isSkipped titles node then prunedAll titles rest else pruned titles node :: prunedAll titles rest
termination_by structural nodes => nodes

end

private theorem isTitled_of_isSkipped {titles : List String} {node : Node} (skipped : node.isSkipped titles = true) :
    node.isTitled = true := by
  cases node with
  | titled => rfl
  | _ => simp [isSkipped] at skipped

private theorem countP_isSkipped_le (titles : List String) (nodes : List Node) :
    nodes.countP (isSkipped titles) ≤ nodes.countP isTitled :=
  List.countP_mono_left fun _ _ => isTitled_of_isSkipped

section

variable (titles : List String)

private theorem isSkipped_pruned (node : Node) : (node.pruned titles).isSkipped titles = false := by
  cases node with
  | titled title body =>
    rw [pruned]
    split
    next => rfl
    next kept => simpa [isSkipped] using kept
  | _ => rfl

mutual

private theorem isSkipped_walk_pruned (node : Node) :
    ∀ inner ∈ walk (node.pruned titles), inner.isSkipped titles = false := by
  rw [walk_eq_cons, List.forall_mem_cons]
  refine ⟨isSkipped_pruned titles node, ?_⟩
  cases node with
  | header _ _ nodes | itemList _ nodes | columnGroup nodes | centered nodes | fragment nodes =>
    exact isSkipped_walkAll_prunedAll nodes
  | titled title body =>
    rw [pruned]
    split
    next => simp [empty, children, walkAll]
    next => exact isSkipped_walkAll_prunedAll body
  | entry primary secondary tertiary quaternary =>
    have first := isSkipped_walk_pruned primary
    have second := isSkipped_walk_pruned secondary
    have third := isSkipped_walk_pruned tertiary
    have fourth := isSkipped_walk_pruned quaternary
    simp only [pruned, children, walkAll, List.forall_mem_append]
    exact ⟨first, second, third, fourth, by simp⟩
  | styled _ child | link _ child =>
    have below := isSkipped_walk_pruned child
    simpa [pruned, children, walkAll] using below
  | lineBreak | separator | text => simp [pruned, children, walkAll]
termination_by structural node

private theorem isSkipped_walkAll_prunedAll (nodes : List Node) :
    ∀ inner ∈ walkAll (prunedAll titles nodes), inner.isSkipped titles = false := by
  cases nodes with
  | nil => simp [prunedAll, walkAll]
  | cons node rest =>
    rw [prunedAll]
    split
    next => exact isSkipped_walkAll_prunedAll rest
    next =>
      rw [walkAll, List.forall_mem_append]
      exact ⟨isSkipped_walk_pruned node, isSkipped_walkAll_prunedAll rest⟩
termination_by structural nodes

end

mutual

private theorem pruned_eq_self (node : Node) (none : ∀ inner ∈ node.walk, inner.isSkipped titles = false) :
    node.pruned titles = node := by
  rw [walk_eq_cons, List.forall_mem_cons] at none
  obtain ⟨kept, below⟩ := none
  cases node with
  | header _ _ nodes | itemList _ nodes | columnGroup nodes | centered nodes | fragment nodes =>
    rw [pruned, prunedAll_eq_self nodes below]
  | titled title body =>
    rw [pruned, if_neg (by simpa using kept), prunedAll_eq_self body below]
  | entry primary secondary tertiary quaternary =>
    simp only [children, walkAll, List.forall_mem_append] at below
    obtain ⟨first, second, third, fourth, -⟩ := below
    rw [pruned, pruned_eq_self primary first, pruned_eq_self secondary second, pruned_eq_self tertiary third,
      pruned_eq_self quaternary fourth]
  | styled _ child | link _ child =>
    simp only [children, walkAll, List.append_nil] at below
    rw [pruned, pruned_eq_self child below]
  | lineBreak | separator | text => rfl
termination_by structural node

private theorem prunedAll_eq_self (nodes : List Node) (none : ∀ inner ∈ walkAll nodes, inner.isSkipped titles = false) :
    prunedAll titles nodes = nodes := by
  cases nodes with
  | nil => rfl
  | cons node rest =>
    rw [walkAll, List.forall_mem_append] at none
    have kept : node.isSkipped titles = false := none.1 node (by simp [walk_eq_cons])
    rw [prunedAll, if_neg (by simpa using kept), pruned_eq_self node none.1, prunedAll_eq_self rest none.2]
termination_by structural nodes

end

mutual

/-- Pruning takes away at least the matching sections. -/
theorem countP_walk_pruned_le (node : Node) :
    (walk (node.pruned titles)).countP isTitled + (walk node).countP (isSkipped titles) ≤
      (walk node).countP isTitled := by
  cases node with
  | header _ _ nodes | itemList _ nodes | columnGroup nodes | centered nodes | fragment nodes =>
    have below := countP_walkAll_prunedAll_le nodes
    simpa [pruned, walk, isTitled, isSkipped, kind] using below
  | titled title body =>
    rw [pruned]
    split
    next =>
      have all := countP_isSkipped_le titles (walk (.titled title body))
      simpa [empty, walk, isTitled, kind] using all
    next kept =>
      have below := countP_walkAll_prunedAll_le body
      rw [walk, walk, List.countP_cons_of_neg kept, List.countP_cons, List.countP_cons]
      have counted (inner : List Node) : isTitled (.titled title inner) = true := rfl
      rw [counted, counted]
      omega
  | entry primary secondary tertiary quaternary =>
    have first := countP_walk_pruned_le primary
    have second := countP_walk_pruned_le secondary
    have third := countP_walk_pruned_le tertiary
    have fourth := countP_walk_pruned_le quaternary
    simp only [pruned, walk, isTitled, isSkipped, kind, List.countP_cons, List.countP_append] at *
    simp
    omega
  | styled _ child | link _ child =>
    have below := countP_walk_pruned_le child
    simpa [pruned, walk, isTitled, isSkipped, kind] using below
  | lineBreak | separator | text => simp [pruned, walk, isTitled, isSkipped, kind]
termination_by structural node

private theorem countP_walkAll_prunedAll_le (nodes : List Node) :
    (walkAll (prunedAll titles nodes)).countP isTitled + (walkAll nodes).countP (isSkipped titles) ≤
      (walkAll nodes).countP isTitled := by
  cases nodes with
  | nil => simp [prunedAll, walkAll]
  | cons node rest =>
    have later := countP_walkAll_prunedAll_le rest
    rw [prunedAll]
    split
    next =>
      have all := countP_isSkipped_le titles (walk node)
      simp only [walkAll, List.countP_append]
      omega
    next =>
      have first := countP_walk_pruned_le node
      simp only [walkAll, List.countP_append]
      omega
termination_by structural nodes

end

private theorem prunedAll_filter (nodes : List Node) :
    prunedAll titles (nodes.filter (!isSkipped titles ·)) = prunedAll titles nodes := by
  induction nodes with
  | nil => rfl
  | cons node rest ih =>
    by_cases skipped : isSkipped titles node = true <;> simp [prunedAll, skipped, ih]

end

end Node

/-- No section of the given titles stands inside a node of the top level that is kept. -/
def Topmost (titles : List String) (tree : Tree) : Prop :=
  ∀ node ∈ tree, node.isSkipped titles = false → ∀ inner ∈ node.walk, inner.isSkipped titles = false

/-- The document without the sections of the given titles, at every depth. -/
def Document.pruned (document : Document) (titles : List String) : Document :=
  { document with tree := Node.prunedAll titles document.tree }

private theorem Node.isSkipped_nil (node : Node) : node.isSkipped [] = false := by
  cases node <;> simp [isSkipped]

theorem Visitor.dispatch_skipSections {σ : Type} (titles : List String) (node : Node) :
    (Visitor.skipSections titles : Visitor σ).dispatch node =
      pure (if node.isSkipped titles then .skip else .proceed) := by
  cases node with
  | titled title body =>
    simp only [Visitor.dispatch, Visitor.skipSections, Node.isSkipped, decide_eq_true_eq]
    rfl
  | _ => rfl

private theorem skipSections_dispatch (titles : List String) (node : Node) :
    (((Visitor.skipSections titles).dispatch node).run ()).1 = (if node.isSkipped titles then .skip else .proceed) := by
  rw [Visitor.dispatch_skipSections]
  rfl

private theorem Document.withoutSections_eq (document : Document) (titles : List String) :
    document.withoutSections titles =
      { document with tree := document.tree.filter (!Node.isSkipped titles ·) } := by
  have skips : (fun node => !decide ((((Visitor.skipSections titles).dispatch node).run ()).1 = .skip)) =
      (!Node.isSkipped titles ·) := by
    funext node
    rw [skipSections_dispatch]
    cases node.isSkipped titles <;> rfl
  rw [Document.withoutSections, skips]
  split
  next none =>
    rw [List.isEmpty_iff.mp none, List.filter_eq_self.mpr fun node _ => by rw [Node.isSkipped_nil, Bool.not_false]]
  next => rfl

namespace TreeStats

private theorem sectionCount_addNode (stats : TreeStats) (node : Node) :
    (stats.addNode node).sectionCount = stats.sectionCount + if node.isTitled then 1 else 0 := by
  cases node <;> rfl

private theorem sectionCount_foldl (nodes : List Node) (stats : TreeStats) :
    (nodes.foldl addNode stats).sectionCount = stats.sectionCount + nodes.countP Node.isTitled := by
  induction nodes generalizing stats with
  | nil => rfl
  | cons node rest ih => rw [List.foldl_cons, ih, sectionCount_addNode, List.countP_cons, Nat.add_right_comm, Nat.add_assoc]

private theorem sectionCount_ofTree (tree : Tree) :
    (ofTree tree).sectionCount = (Tree.walk tree).countP Node.isTitled := by
  rw [ofTree, sectionCount_foldl, Nat.zero_add]

end TreeStats

/-- Where nothing nested matches, filtering the top level removes all that is to go. -/
theorem Document.withoutSections_of_topmost {document : Document} {titles : List String}
    (topmost : Topmost titles document.tree) : document.withoutSections titles = document.pruned titles := by
  have none : ∀ inner ∈ Node.walkAll (document.tree.filter (!Node.isSkipped titles ·)),
      inner.isSkipped titles = false := by
    intro inner member
    obtain ⟨node, place, below⟩ := Node.mem_walkAll.mp member
    rw [List.mem_filter, Bool.not_eq_true'] at place
    exact topmost node place.1 place.2 inner below
  rw [withoutSections_eq, Document.pruned, ← Node.prunedAll_filter, Node.prunedAll_eq_self titles _ none]

private theorem Document.topmost_of_sectionCount {document : Document} {titles : List String}
    (same : (document.withoutSections titles).statistics.sectionCount = (document.pruned titles).statistics.sectionCount) :
    Topmost titles document.tree := by
  simp only [statistics, TreeStats.sectionCount_ofTree, Tree.walk, withoutSections_eq, Document.pruned] at same
  have fewer := Node.countP_walkAll_prunedAll_le titles (document.tree.filter (!Node.isSkipped titles ·))
  rw [Node.prunedAll_filter] at fewer
  have none : (Node.walkAll (document.tree.filter (!Node.isSkipped titles ·))).countP (Node.isSkipped titles) = 0 := by
    omega
  rw [List.countP_eq_zero] at none
  intro node member kept inner below
  have place : node ∈ document.tree.filter (!Node.isSkipped titles ·) := List.mem_filter.mpr ⟨member, by simp [kept]⟩
  simpa using none inner (Node.mem_walkAll.mpr ⟨node, place, below⟩)

theorem Document.withoutSections_nil (document : Document) : document.withoutSections [] = document :=
  rfl

/-- Plain text and JSON show the document without the sections that are left out on its top level. -/
theorem Document.convert_withoutSections (document : Document) {options : ConvertOptions}
    (plain : options.format = .text ∨ options.format = .json) :
    document.convert options =
      (document.withoutSections options.skippedSections).convert { options with skippedSections := [] } := by
  rcases plain with format | format
  all_goals simp only [Document.convert, format, Document.withoutSections_nil]

private theorem Document.sectionCount_convert {first second : Document} {options : ConvertOptions}
    (plain : options.format = .text ∨ options.format = .json) (counted : options.render.collectStats = true)
    (same : first.convert { options with skippedSections := [] } = second.convert { options with skippedSections := [] }) :
    first.statistics.sectionCount = second.statistics.sectionCount := by
  rcases plain with format | format
  all_goals
    simp only [Document.convert, format, counted, Document.withoutSections_nil, if_true] at same
    injection same with _ _ stats
    rw [Option.some.inj stats]

/-- Plain text and JSON are those of the document without the matching sections at any depth if no nested section
matches; the counts show every nested section that does. -/
theorem Document.convert_pruned (document : Document) (options : ConvertOptions)
    (plain : options.format = .text ∨ options.format = .json) :
    (Topmost options.skippedSections document.tree →
      document.convert options =
        (document.pruned options.skippedSections).convert { options with skippedSections := [] }) ∧
    (options.render.collectStats = true →
      document.convert options =
        (document.pruned options.skippedSections).convert { options with skippedSections := [] } →
      Topmost options.skippedSections document.tree) := by
  rw [Document.convert_withoutSections document plain]
  refine ⟨fun topmost => ?_, fun counted same => ?_⟩
  · rw [Document.withoutSections_of_topmost topmost]
  · exact Document.topmost_of_sectionCount (Document.sectionCount_convert plain counted same)

def nestedSection : String :=
  "\\section\x7bA\x7d \x7b\\section\x7bB\x7d c\x7d"

private theorem parse_nestedSection : parse {} nestedSection = transpile {} nestedSection := by
  have normal : Markup.normalize {} nestedSection = nestedSection := by decide +kernel
  exact congrArg (transpile {}) normal

/-- Leaving out the outer section takes the nested one along; leaving out the nested one shows in the counts. -/
theorem convert_pruned_nestedSection :
    (parse {} nestedSection).convert { format := .text, skippedSections := ["A"] } =
        ((parse {} nestedSection).pruned ["A"]).convert { format := .text } ∧
      (parse {} nestedSection).convert { format := .text, skippedSections := ["B"], render := { collectStats := true } } ≠
        ((parse {} nestedSection).pruned ["B"]).convert { format := .text, render := { collectStats := true } } := by
  rw [parse_nestedSection]
  refine ⟨(Document.convert_pruned _ { format := .text, skippedSections := ["A"] } (.inl rfl)).1 ?_, fun same => ?_⟩
  · unfold Topmost
    decide +kernel
  · have topmost := (Document.convert_pruned (transpile {} nestedSection)
      { format := .text, skippedSections := ["B"], render := { collectStats := true } } (.inl rfl)).2 rfl same
    unfold Topmost at topmost
    revert topmost
    decide +kernel

/-- Text and JSON keep the nested section, HTML and Markdown leave it out. -/
theorem content_nestedSection :
    (convert { format := .text, skippedSections := ["B"] } nestedSection).content = "A\nB\nc" ∧
      (((parse {} nestedSection).pruned ["B"]).convert { format := .text }).content = "A" ∧
      (convert { format := .json, jsonLayout := .compact, skippedSections := ["B"] } nestedSection).content ≠
        (((parse {} nestedSection).pruned ["B"]).convert { format := .json, jsonLayout := .compact }).content ∧
      (convert { format := .markdown, skippedSections := ["B"] } nestedSection).content = "## A" ∧
      (convert { render := { standalone := false }, skippedSections := ["B"] } nestedSection).content =
        "<section class=\"resume-section\">\n<h2 class=\"section-title\">A</h2>\n</section>\n" := by
  simp only [convert, parse_nestedSection]
  refine ⟨?_, ?_, ?_, ?_, ?_⟩
  all_goals decide +kernel

end Vitae
