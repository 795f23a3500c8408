import Vitae.Proofs.BuiltContent

/-! How deep transpiled content nests. Each level of groups puts at most three steps on top of what is inside: the node of
a construct, the section that it stands in, and the fragment that holds the level where one node is asked for. -/

namespace Vitae

/-- A measure of depth: no text goes deeper than `leaf`, and a node goes at most `step` deeper than its children. -/
structure DepthMeasure where
  of : Node → Nat
  leaf : Nat
  step : Nat
  text_le (value : String) : of (.text value) ≤ leaf
  node_le (node : Node) {limit : Nat} (children : ∀ child ∈ node.children, of child ≤ limit) : of node ≤ limit + step

namespace Transpile

open Markup Node

section limits

variable (measure : DepthMeasure)

/-- What may stand where one node is asked for, of a text with `levels` levels left. -/
def slotLimit (levels : Nat) : Nat :=
  measure.leaf + 3 * measure.step * levels

/-- What may stand in a sequence, of a text with `levels` levels left. -/
def nodeLimit : (levels : Nat) → Nat
  | 0 => measure.leaf
  | levels + 1 => slotLimit measure levels + 2 * measure.step

/-- The nodes of a text with `levels` levels left. Below the last level there is one text at most. -/
structure Shallow (levels : Nat) (nodes : List Node) : Prop where
  each : ∀ node ∈ nodes, measure.of node ≤ nodeLimit measure levels
  alone : levels = 0 → nodes.length ≤ 1

variable {measure} {levels : Nat}

private theorem leaf_le_nodeLimit : measure.leaf ≤ nodeLimit measure levels := by
  cases levels with
  | zero => exact Nat.le_refl _
  | succ levels =>
    rw [nodeLimit, slotLimit]
    omega

private theorem slotLimit_succ : slotLimit measure (levels + 1) = nodeLimit measure (levels + 1) + measure.step := by
  rw [nodeLimit, slotLimit, slotLimit, Nat.mul_succ]
  omega

private theorem nodeLimit_le_slotLimit : nodeLimit measure levels ≤ slotLimit measure levels := by
  cases levels with
  | zero => exact Nat.le_refl _
  | succ levels =>
    rw [slotLimit_succ]
    exact Nat.le_add_right _ _

private theorem of_le_of_member {nodes : List Node} {limit : Nat} (room : measure.leaf ≤ limit)
    (each : ∀ node ∈ nodes, measure.of node ≤ limit) {node : Node} (member : node.kind = .text ∨ node ∈ nodes) :
    measure.of node ≤ limit := by
  rcases member with text | kept
  · cases node with
    | text value => exact Nat.le_trans (measure.text_le value) room
    | _ => simp [kind] at text
  · exact each node kept

theorem Shallow.taken {nodes part : List Node} (shallow : Shallow measure levels nodes) (taken : TakenFrom nodes part) :
    Shallow measure levels part :=
  ⟨fun node member => of_le_of_member leaf_le_nodeLimit shallow.each (taken.member node member),
    fun last => Nat.le_trans taken.length (shallow.alone last)⟩

/-- Several nodes become a fragment, but below the last level there are never several. -/
theorem Shallow.collapse {nodes : List Node} (shallow : Shallow measure levels nodes) :
    measure.of (collapse nodes) ≤ slotLimit measure levels := by
  match nodes with
  | [] => exact Nat.le_trans (measure.text_le "") (Nat.le_add_right _ _)
  | [node] => exact Nat.le_trans (shallow.each node (by simp)) nodeLimit_le_slotLimit
  | first :: second :: rest =>
    cases levels with
    | zero => exact absurd (shallow.alone rfl) (by simp)
    | succ levels =>
      rw [slotLimit_succ]
      exact measure.node_le _ shallow.each

private theorem shallow_flattened (text : List Char) : Shallow measure 0 (flattened text) := by
  unfold flattened
  split
  next => exact ⟨by simp, by simp⟩
  next => exact ⟨List.forall_mem_singleton.mpr (measure.text_le _), by simp⟩

private theorem gather_le {limit : Nat} (room : measure.leaf ≤ limit) {parts : List Part}
    (each : ∀ node, .node node ∈ parts → measure.of node ≤ limit) :
    (∀ node ∈ (gather parts).1, measure.of node ≤ limit) ∧
      ∀ node ∈ (gather parts).2, measure.of node ≤ limit + measure.step := by
  induction parts with
  | nil => simp [gather]
  | cons part rest ih =>
    obtain ⟨before, sections⟩ := ih fun node member => each node (List.mem_cons_of_mem _ member)
    cases part with
    | node node => exact ⟨List.forall_mem_cons.mpr ⟨each node (by simp), before⟩, sections⟩
    | heading title =>
      refine ⟨by simp [gather], List.forall_mem_cons.mpr ⟨?_, sections⟩⟩
      exact measure.node_le _ fun node member => of_le_of_member room before (mem_tidy member)

private theorem shallow_arrange {parts : List Part}
    (each : ∀ node, .node node ∈ parts → measure.of node ≤ slotLimit measure levels + measure.step) :
    Shallow measure (levels + 1) (arrange parts) := by
  have room : measure.leaf ≤ slotLimit measure levels + measure.step :=
    Nat.le_trans (Nat.le_add_right _ _) (Nat.le_add_right _ _)
  have limit : nodeLimit measure (levels + 1) = slotLimit measure levels + measure.step + measure.step := by
    rw [nodeLimit]
    omega
  obtain ⟨before, sections⟩ := gather_le room each
  refine ⟨fun node member => ?_, fun none => absurd none (by simp)⟩
  rw [limit]
  rcases List.mem_append.mp member with first | behind
  · exact Nat.le_trans (of_le_of_member room before (mem_tidy first)) (Nat.le_add_right _ _)
  · exact sections node behind

end limits

section walk

variable {measure : DepthMeasure} {levels : Nat} {inner : List Char → Noted (List Node)}
  (below : ∀ text, Shallow measure levels (inner text).value)
include below

theorem Slot.of_le {node : Node} (slot : Slot inner node) : measure.of node ≤ slotLimit measure levels := by
  cases slot with
  | text value => exact Nat.le_trans (measure.text_le value) (Nat.le_add_right _ _)
  | content text => exact (below text).collapse

theorem Built.of_le {node : Node} (built : Built inner node) :
    measure.of node ≤ slotLimit measure levels + measure.step := by
  have own {node : Node} {text : List Char} (member : node.kind = .text ∨ node ∈ (inner text).value) :
      measure.of node ≤ slotLimit measure levels :=
    Nat.le_trans (of_le_of_member leaf_le_nodeLimit (below text).each member) nodeLimit_le_slotLimit
  cases built with
  | text | lineBreak | separator => exact measure.node_le _ (by simp [children])
  | spliced member => exact Nat.le_trans (own (.inr member)) (Nat.le_add_right _ _)
  | centered member =>
    rcases mem_centered member with kept | ⟨body, rfl, inside⟩
    · exact Nat.le_trans (own (.inr kept)) (Nat.le_add_right _ _)
    · exact measure.node_le _ fun node within => own (inside node within)
  | header name text =>
    refine measure.node_le _ fun contact member => ?_
    obtain ⟨segment, place, rfl⟩ := List.mem_map.mp (List.mem_filter.mp member).1
    exact ((below text).taken (takenFrom_tidy (takenFrom_contactSegments _ segment place))).collapse
  | styled style shown => exact measure.node_le _ (by simpa [children] using (below _).collapse)
  | link href slot => exact measure.node_le _ (by simpa [children] using slot.of_le below)
  | entry slots =>
    exact measure.node_le _ (forall_children_entryOf (fun field member => (slots field member).of_le below)
      ((Slot.text "" : Slot inner _).of_le below))
  | itemList bulleted slots => exact measure.node_le _ fun item member => (slots item member).of_le below
  | columnGroup some slots => exact measure.node_le _ fun column member => (slots column member).of_le below

omit below

private theorem shallow_sequence (options : TranspileOptions) (levels : Nat) (top : Bool) (text : List Char) :
    Shallow measure levels (sequence options levels top text).value := by
  induction levels generalizing top text with
  | zero => exact shallow_flattened text
  | succ levels ih =>
    rw [sequence_succ, Noted.value_map]
    exact shallow_arrange fun node member =>
      (builtParts_parts options levels top text node member).of_le fun text => ih false text

end walk

end Transpile

/-- No node on the top level goes deeper than a leaf and three steps for each level of groups, and two more. -/
theorem of_transpile_le (measure : DepthMeasure) (options : TranspileOptions) (normal : String) :
    ∀ node ∈ (transpile options normal).tree,
      measure.of node ≤ measure.leaf + (3 * options.maxDepth + 2) * measure.step := by
  intro node member
  have shallow : Transpile.Shallow measure (options.maxDepth + 1) (transpile options normal).tree :=
    Transpile.shallow_sequence options _ true normal.toList
  have limit := shallow.each node member
  rw [Transpile.nodeLimit, Transpile.slotLimit] at limit
  rw [Nat.add_mul, Nat.mul_right_comm]
  omega

end Vitae
