import Vitae.Proofs.BuiltContent

/-! The form of transpiled trees, whatever the markup. Every node is built from sequences that are tidy already, and
what one level adds is tidied again, so the form holds of all siblings and of every node below them. -/

namespace Vitae

namespace Node

/-- What the form asks of a node and its children. -/
def HasForm : Node → Prop
  | .header _ lines contacts => lines = contacts.map (·.plainText.trimmed) ∧ "" ∉ lines
  | .titled _ body => Siblings false body
  | .columnGroup columns => columns ≠ []
  | .centered body => Siblings false body ∧ body ≠ [] ∧ ∀ node ∈ body, node.kind ≠ .header
  | .styled _ child => child.isEmpty = false
  | .fragment children => Siblings false children ∧ 2 ≤ children.length
  | .entry .. | .itemList .. | .link .. | .lineBreak | .separator | .text _ => True

/-- The node and all below it have the form. -/
def Formed (node : Node) : Prop :=
  ∀ inner ∈ node.walk, inner.HasForm

private theorem formed_iff (node : Node) : node.Formed ↔ node.HasForm ∧ ∀ child ∈ node.children, child.Formed := by
  simp only [Formed, walk_eq_cons node, List.forall_mem_cons, mem_walkAll]
  exact and_congr_right fun _ => ⟨fun holds child member inner below => holds inner ⟨child, member, below⟩,
    fun holds inner ⟨child, member, below⟩ => holds child member inner below⟩

private theorem formed_text (value : String) : (text value).Formed :=
  (formed_iff _).mpr ⟨trivial, by simp [children]⟩

/-- Nodes of the form that may become siblings. -/
def Loose (nodes : List Node) : Prop :=
  ∀ node ∈ nodes, node.Formed ∧ node.kind ≠ .fragment

/-- A sequence of siblings in which every node has the form. -/
structure InForm (nodes : List Node) : Prop where
  siblings : Siblings false nodes
  formed : ∀ node ∈ nodes, node.Formed

private theorem inForm_nil : InForm [] :=
  ⟨⟨.nil, by simp⟩, by simp⟩

theorem InForm.loose {nodes : List Node} (inForm : InForm nodes) : Loose nodes :=
  fun node member => ⟨inForm.formed node member, inForm.siblings.whole node member⟩

theorem Loose.taken {nodes part : List Node} (loose : Loose nodes) (taken : TakenFrom nodes part) : Loose part := by
  intro node member
  rcases taken.member node member with text | kept
  · cases node with
    | text value => exact ⟨formed_text value, by simp [kind]⟩
    | _ => simp [kind] at text
  · exact loose node kept

private theorem inForm_tidy {nodes : List Node} (loose : Loose nodes) : InForm (tidy nodes) := by
  have tidied := loose.taken (takenFrom_tidy ⟨Nat.le_refl _, fun _ member => .inr member⟩)
  exact ⟨siblings_tidy fun node member => (loose node member).2, fun node member => (tidied node member).1⟩

/-- A sequence may stand in the place of one node. -/
theorem InForm.collapse {nodes : List Node} (inForm : InForm nodes) : (collapse nodes).Formed := by
  match nodes with
  | [] => exact formed_text ""
  | [node] => exact inForm.formed node (by simp)
  | first :: second :: rest => exact (formed_iff _).mpr ⟨⟨inForm.siblings, by simp⟩, inForm.formed⟩

theorem InForm.titled {body : List Node} (inForm : InForm body) (title : String) : (titled title body).Formed :=
  (formed_iff _).mpr ⟨inForm.siblings, inForm.formed⟩

end Node

namespace Transpile

open Markup Node

section content

private theorem formed_headerOf (name : String) {nodes : List Node} (loose : Loose nodes) :
    (headerOf name nodes).Formed := by
  have segments : ∀ segment ∈ contactSegments nodes, Loose segment :=
    fun segment place => loose.taken (takenFrom_contactSegments nodes segment place)
  have contacts : ∀ contact ∈ (contactSegments nodes).map fun segment => Node.collapse (Node.tidy segment),
      contact.Formed := by
    intro contact member
    obtain ⟨segment, place, rfl⟩ := List.mem_map.mp member
    exact (inForm_tidy (segments segment place)).collapse
  refine (formed_iff _).mpr ⟨⟨rfl, fun blank => ?_⟩, fun contact member => contacts contact (List.mem_filter.mp member).1⟩
  -- A contact of white space only is not among those that are shown.
  obtain ⟨contact, member, same⟩ := List.mem_map.mp blank
  have shown := (List.mem_filter.mp member).2
  have trimmed : Text.trim contact.plainText.toList = [] := by simpa [String.trimmed] using congrArg String.toList same
  rw [String.isBlank, Text.all_isSpace_of_trim trimmed] at shown
  contradiction

private theorem loose_centeredRun {run : List Node} (loose : Loose run) (noHeader : ∀ node ∈ run, node.kind ≠ .header) :
    Loose (centeredRun run) := by
  have inForm := inForm_tidy loose
  have others : ∀ node ∈ tidy run, node.kind ≠ .header := by
    intro node member
    rcases mem_tidy member with text | kept
    · simp [text]
    · exact noHeader node kept
  unfold centeredRun
  split
  next => simp [Loose]
  next body some =>
    intro node member
    obtain rfl := List.mem_singleton.mp member
    exact ⟨(formed_iff _).mpr ⟨⟨inForm.siblings, fun none => some none, others⟩, inForm.formed⟩, by simp [kind]⟩

private theorem loose_centerRuns {nodes : List Node} (loose : Loose nodes) :
    (Loose (centerRuns nodes).1 ∧ ∀ node ∈ (centerRuns nodes).1, node.kind ≠ .header) ∧ Loose (centerRuns nodes).2 := by
  fun_induction centerRuns nodes with
  | case1 => simp [Loose]
  | case2 name lines contacts rest ih =>
    obtain ⟨first, others⟩ := List.forall_mem_cons.mp loose
    obtain ⟨⟨run, noHeader⟩, later⟩ := ih others
    refine ⟨by simp [Loose], List.forall_mem_cons.mpr ⟨first, ?_⟩⟩
    exact List.forall_mem_append.mpr ⟨loose_centeredRun run noHeader, later⟩
  | case3 node rest other ih =>
    obtain ⟨first, others⟩ := List.forall_mem_cons.mp loose
    obtain ⟨⟨run, noHeader⟩, later⟩ := ih others
    have noBanner : node.kind ≠ .header := by
      cases node with
      | header name lines contacts => exact absurd rfl (other name lines contacts)
      | _ => simp [kind]
    exact ⟨⟨List.forall_mem_cons.mpr ⟨first, run⟩, List.forall_mem_cons.mpr ⟨noBanner, noHeader⟩⟩, later⟩

private theorem loose_centered {nodes : List Node} (loose : Loose nodes) : Loose (centered nodes) := by
  obtain ⟨⟨run, noHeader⟩, later⟩ := loose_centerRuns loose
  exact List.forall_mem_append.mpr ⟨loose_centeredRun run noHeader, later⟩

private theorem inForm_flattened (text : List Char) : InForm (flattened text) := by
  have each := Text.forall_mem_words Text.isAsciiSpace (visible text)
  unfold flattened
  split
  next => exact inForm_nil
  next words some =>
    obtain ⟨spaced, filled, start, stop⟩ := Notation.spaced_words (fun none => some none) each
    refine ⟨⟨.text ?_ ?_ ?_ ?_ (fun _ _ same => absurd same (by simp)) .nil, by simp [kind]⟩, ?_⟩
    · simpa using filled
    · rwa [String.toList_ofList]
    · rw [String.toList_ofList]
      exact fun first => absurd first start
    · rw [String.toList_ofList]
      exact fun last => absurd last stop
    · simpa using formed_text _

end content

section walk

/-- The nodes among parts may become siblings. -/
def LooseParts (parts : List Part) : Prop :=
  ∀ node, .node node ∈ parts → node.Formed ∧ node.kind ≠ .fragment

private theorem gather_form {parts : List Part} (loose : LooseParts parts) :
    Loose (gather parts).1 ∧ (∀ node ∈ (gather parts).2, node.Formed) ∧ ∀ node ∈ (gather parts).2, node.kind = .titled := by
  induction parts with
  | nil => simp [gather, Loose]
  | cons part rest ih =>
    obtain ⟨first, formed, titled⟩ := ih fun node member => loose node (List.mem_cons_of_mem _ member)
    cases part with
    | node node => exact ⟨List.forall_mem_cons.mpr ⟨loose node (by simp), first⟩, formed, titled⟩
    | heading title =>
      refine ⟨by simp [gather, Loose], ?_, ?_⟩
      · exact List.forall_mem_cons.mpr ⟨(inForm_tidy first).titled title, formed⟩
      · exact List.forall_mem_cons.mpr ⟨rfl, titled⟩

private theorem inForm_arrange {parts : List Part} (loose : LooseParts parts) : InForm (arrange parts) := by
  obtain ⟨first, formed, titled⟩ := gather_form loose
  have before := inForm_tidy first
  exact ⟨before.siblings.append_titled titled, List.forall_mem_append.mpr ⟨before.formed, formed⟩⟩

variable {inner : List Char → Noted (List Node)} (below : ∀ text, InForm (inner text).value)
include below

private theorem Slot.formed {node : Node} (slot : Slot inner node) : node.Formed := by
  cases slot with
  | text value => exact formed_text value
  | content text => exact (below text).collapse

/-- Whatever is built from content of the form may become a sibling. -/
theorem Built.loose {node : Node} (built : Built inner node) : node.Formed ∧ node.kind ≠ .fragment := by
  cases built with
  | text value => exact ⟨formed_text value, by simp [kind]⟩
  | lineBreak | separator => exact ⟨(formed_iff _).mpr ⟨trivial, by simp [children]⟩, by simp [kind]⟩
  | spliced member => exact (below _).loose node member
  | centered member => exact loose_centered (below _).loose node member
  | header name text => exact ⟨formed_headerOf name (below text).loose, by simp [kind, headerOf]⟩
  | styled style shown =>
    refine ⟨(formed_iff _).mpr ⟨shown, ?_⟩, by simp [kind]⟩
    simpa [children] using (below _).collapse
  | link href slot =>
    refine ⟨(formed_iff _).mpr ⟨trivial, ?_⟩, by simp [kind]⟩
    simpa [children] using slot.formed below
  | entry slots =>
    refine ⟨(formed_iff _).mpr ⟨trivial, ?_⟩, by simp [kind, entryOf]⟩
    exact forall_children_entryOf (fun field member => (slots field member).formed below) (formed_text "")
  | itemList bulleted slots =>
    exact ⟨(formed_iff _).mpr ⟨trivial, fun item member => (slots item member).formed below⟩, by simp [kind]⟩
  | columnGroup some slots =>
    exact ⟨(formed_iff _).mpr ⟨some, fun column member => (slots column member).formed below⟩, by simp [kind]⟩

omit below

variable (options : TranspileOptions)

/-- The step: with one level more, the content of a text has the form again. -/
theorem inForm_sequence (levels : Nat) (top : Bool) (text : List Char) :
    InForm (sequence options levels top text).value := by
  induction levels generalizing top text with
  | zero => exact inForm_flattened text
  | succ levels ih =>
    rw [sequence_succ, Noted.value_map]
    exact inForm_arrange fun node member =>
      (builtParts_parts options levels top text node member).loose fun text => ih false text

end walk

end Transpile

/-- The top level of a transpiled tree and the children of every node in it have the form of siblings and nodes. -/
theorem hasForm_transpile (options : TranspileOptions) (normal : String) :
    Node.Siblings false (transpile options normal).tree ∧
      ∀ node ∈ Tree.walk (transpile options normal).tree, node.HasForm := by
  have inForm := Transpile.inForm_sequence options (options.maxDepth + 1) true normal.toList
  refine ⟨inForm.siblings, fun inner member => ?_⟩
  obtain ⟨node, place, below⟩ := Node.mem_walkAll.mp member
  exact inForm.formed node place inner below

end Vitae
