import Vitae.Proofs.InnerTexts
import Vitae.Proofs.SiblingForm
import Vitae.Proofs.Walk

/-! What the walk builds. Every node that a construct becomes is a leaf, a node of some text inside the construct, or made
of slots, in each of which a text or a whole text inside stands. -/

namespace Vitae

namespace Node

private theorem length_mergeTexts_le (nodes : List Node) : (mergeTexts nodes).length ≤ nodes.length := by
  fun_induction mergeTexts nodes with
  | case1 => exact Nat.le_refl _
  | case2 value rest next later merged ih =>
    rw [merged] at ih
    exact Nat.le_succ_of_le ih
  | case3 value rest next ih => exact Nat.succ_le_succ ih
  | case4 node rest noText ih => exact Nat.succ_le_succ ih

private theorem length_tidyTexts_le (before : Bool) (nodes : List Node) :
    (tidyTexts before nodes).length ≤ nodes.length := by
  fun_induction tidyTexts before nodes with
  | case1 => exact Nat.le_refl _
  | case2 before value rest nothing ih => exact Nat.le_succ_of_le ih
  | case3 before value rest shown ih => exact Nat.succ_le_succ ih
  | case4 before node rest noText ih => exact Nat.succ_le_succ ih

/-- Some of the nodes, where texts may have changed. -/
structure TakenFrom (nodes part : List Node) : Prop where
  length : part.length ≤ nodes.length
  member : ∀ node ∈ part, node.kind = .text ∨ node ∈ nodes

theorem takenFrom_tidy {nodes part : List Node} (taken : TakenFrom nodes part) : TakenFrom nodes (tidy part) := by
  constructor
  · exact Nat.le_trans (length_tidyTexts_le false _) (Nat.le_trans (length_mergeTexts_le part) taken.length)
  · intro node member
    rcases mem_tidy member with text | kept
    · exact .inl text
    · exact taken.member node kept

/-- The fields of an entry are among those given, or empty. -/
theorem forall_children_entryOf {property : Node → Prop} {fields : List Node}
    (each : ∀ field ∈ fields, property field) (missing : property empty) :
    ∀ child ∈ (entryOf fields).children, property child := by
  have field (index : Nat) : property (fields.getD index empty) := by
    rw [List.getD_eq_getElem?_getD]
    cases found : fields[index]? with
    | none => exact missing
    | some field => exact each field (List.mem_of_getElem? found)
  simp only [entryOf, children, List.forall_mem_cons]
  exact ⟨field 0, field 1, field 2, field 3, by simp⟩

end Node

namespace Markup

/-- The command that opens the first minipage outside other environments, and the text behind the opening. -/
def firstMinipage? (text : List Char) : Option (Command × List Char) :=
  match _found : nextCommand? text with
  | none => none
  | some command =>
    match openedMinipage? command with
    | some after => some (command, after)
    | none => firstMinipage? (overEnvironment command)
termination_by text.length
decreasing_by
  have := length_nextCommand? _found
  have := length_overEnvironment_le command
  omega

section search

variable {text : List Char} {command : Command}

private theorem firstMinipage?_none (none : nextCommand? text = .none) : firstMinipage? text = .none := by
  rw [firstMinipage?]
  split
  next => rfl
  next found => exact absurd (none.symm.trans found) (by simp)

theorem firstMinipage?_some (next : nextCommand? text = some command) :
    firstMinipage? text =
      match openedMinipage? command with
      | some after => some (command, after)
      | none => firstMinipage? (overEnvironment command) := by
  rw [firstMinipage?.eq_def]
  split
  next none => exact absurd (next.symm.trans none) (by simp)
  next other found =>
    obtain rfl : command = other := Option.some.inj (next.symm.trans found)
    rfl

private theorem isSome_openedMinipage? (command : Command) :
    (openedMinipage? command).isSome = (opened? command).any (·.1 = minipageName) := by
  unfold openedMinipage?
  cases opened? command with
  | none => rfl
  | some opening =>
    by_cases named : opening.1 = minipageName <;> simp [named]

/-- A body holds a minipage where the search finds one. -/
theorem holdsEnvironment_eq (text : List Char) :
    holdsEnvironment minipageName text = (firstMinipage? text).isSome := by
  fun_induction holdsEnvironment minipageName text with
  | case1 text none => rw [firstMinipage?_none none]; rfl
  | case2 text command next ih =>
    rw [firstMinipage?_some next, ← isSome_openedMinipage?, ih]
    cases openedMinipage? command <;> rfl

/-- Columns are cut at the minipage that the search finds. -/
theorem columns_eq (stray text : List Char) :
    columns stray text =
      match firstMinipage? text with
      | none => [.stray stray]
      | some (command, after) =>
        .stray (upTo command.start stray) :: .minipage (minipage after).1 ::
          columns (minipage after).2 (minipage after).2 := by
  fun_induction columns stray text with
  | case1 stray text none => rw [firstMinipage?_none none]
  | case2 stray text command next after opened _ => rw [firstMinipage?_some next, opened]
  | case3 stray text command next opened ih => rw [firstMinipage?_some next, opened, ih]

/-- One of the columns is a minipage just where the body is found to hold one. -/
theorem mem_columns_iff (body : List Char) :
    (∃ content, .minipage content ∈ columns body body) ↔ holdsEnvironment minipageName body = true := by
  rw [columns_eq, holdsEnvironment_eq]
  cases firstMinipage? body with
  | none => simp
  | some first => exact ⟨fun _ => rfl, fun _ => ⟨_, List.mem_cons_of_mem _ List.mem_cons_self⟩⟩

end search

/-- What reading makes sure of in the parts of a construct. -/
def Construct.Shaped : Construct → Prop
  | .run text => ∀ c ∈ text, c ≠ lineBreakMark ∧ c ≠ separatorMark
  | .symbol text => ∃ name, symbol? name = some text
  | .styled command style _ => styleCommand? command = some style
  | .list opening _ _ => opening = "\\resumeItemListStart".toList ∨
      ∃ name, .ofList name ∈ listEnvironments ∧ opening = "\\begin\x7b".toList ++ name ++ ['\x7d']
  | .minipages bodies => bodies ≠ []
  | _ => True

private theorem minipages_ne_nil (text : List Char) : (minipages text).1 ≠ [] := by
  rw [minipages]
  split <;> simp

section readings

variable {top : Bool} {read : Construct} {after : List Char}

theorem EnvironmentReading.shaped {name text : List Char} (block : EnvironmentReading name text read after) :
    read.Shaped := by
  cases block with
  | minipages => exact minipages_ne_nil text
  | list listed => exact .inr ⟨name, listed, rfl⟩
  | center | document | unknown => trivial

theorem CommandReading.shaped {name : String} {text : List Char} (opened : CommandReading top name text read after) :
    read.Shaped := by
  cases opened with
  | styled styles => exact styles
  | itemList => exact .inl rfl
  | environment _ block => exact block.shaped
  | symbol stands => exact ⟨name, stands⟩
  | _ => trivial

theorem Reading.shaped {c : Char} {rest : List Char} (reads : Reading top c rest read after) : read.Shaped := by
  cases reads with
  | command _ opened => exact opened.shaped
  | group => trivial
  | sign _ signs =>
    simp only [List.mem_cons, List.not_mem_nil, or_false] at signs
    rcases signs with rfl | rfl | rfl | rfl <;> trivial
  | run _ noMark =>
    refine List.forall_mem_cons.mpr ⟨noMark, fun d member => ?_⟩
    have plain := List.all_eq_true.mp List.all_takeWhile d member
    constructor <;> (rintro rfl; revert plain; decide)

end readings

theorem shaped_of_mem_constructs {top : Bool} {text : List Char} {read : Construct}
    (member : read ∈ constructs top text) : read.Shaped := by
  fun_induction constructs top text with
  | case1 => exact absurd member (by simp)
  | case2 c rest ih =>
    rcases List.mem_cons.mp member with rfl | later
    · exact (reading top c rest).shaped
    · exact ih later

/-- A row of minipages holds one at least. -/
def Construct.Filled : Construct → Prop
  | .minipages bodies => bodies ≠ []
  | _ => True

theorem Construct.Shaped.filled {read : Construct} (shaped : read.Shaped) : read.Filled := by
  cases read with
  | minipages bodies => exact shaped
  | _ => trivial

end Markup

namespace Transpile

open Markup Node

theorem takenFrom_contactSegments (nodes : List Node) : ∀ segment ∈ contactSegments nodes, TakenFrom nodes segment := by
  have wider {segment rest : List Node} (node : Node) (taken : TakenFrom rest segment) : TakenFrom (node :: rest) segment :=
    ⟨Nat.le_succ_of_le taken.length, fun inner member => (taken.member inner member).imp_right (List.mem_cons_of_mem _)⟩
  have empty (nodes : List Node) : TakenFrom nodes [] := ⟨Nat.zero_le _, by simp⟩
  fun_induction contactSegments nodes with
  | case1 => simpa using empty []
  | case2 rest ih | case3 rest ih =>
    exact List.forall_mem_cons.mpr ⟨empty _, fun segment member => wider _ (ih segment member)⟩
  | case4 node rest _ _ none ih =>
    refine List.forall_mem_cons.mpr ⟨⟨by simp, ?_⟩, by simp⟩
    exact fun inner member => .inr (by simp_all)
  | case5 node rest _ _ segment later some ih =>
    rw [some] at ih
    obtain ⟨first, others⟩ := List.forall_mem_cons.mp ih
    refine List.forall_mem_cons.mpr ⟨⟨Nat.succ_le_succ first.length, ?_⟩, fun other member => wider _ (others other member)⟩
    exact List.forall_mem_cons.mpr ⟨.inr (by simp), (wider node first).member⟩

/-- A centered block holds nodes of the sequence, and every other node is one of them. -/
theorem mem_centered {nodes : List Node} {node : Node} (member : node ∈ centered nodes) :
    node ∈ nodes ∨ ∃ body, node = .centered body ∧ ∀ inner ∈ body, inner.kind = .text ∨ inner ∈ nodes := by
  have run {part : List Node} (within : part ⊆ nodes) {node : Node} (member : node ∈ centeredRun part) :
      ∃ body, node = .centered body ∧ ∀ inner ∈ body, inner.kind = .text ∨ inner ∈ nodes := by
    unfold centeredRun at member
    split at member
    next => exact absurd member (by simp)
    next => exact ⟨_, List.mem_singleton.mp member, fun inner inside => (mem_tidy inside).imp_right (within ·)⟩
  have runs (part : List Node) (within : part ⊆ nodes) : (centerRuns part).1 ⊆ nodes ∧ ∀ node ∈ (centerRuns part).2,
      node ∈ nodes ∨ ∃ body, node = .centered body ∧ ∀ inner ∈ body, inner.kind = .text ∨ inner ∈ nodes := by
    fun_induction centerRuns part with
    | case1 => simp
    | case2 name lines contacts rest ih =>
      obtain ⟨here, others⟩ := List.cons_subset.mp within
      obtain ⟨before, later⟩ := ih others
      refine ⟨by simp, List.forall_mem_cons.mpr ⟨.inl here, List.forall_mem_append.mpr ⟨?_, later⟩⟩⟩
      exact fun node member => .inr (run before member)
    | case3 node rest other ih =>
      obtain ⟨here, others⟩ := List.cons_subset.mp within
      obtain ⟨before, later⟩ := ih others
      exact ⟨List.cons_subset.mpr ⟨here, before⟩, later⟩
  obtain ⟨before, later⟩ := runs nodes (List.Subset.refl _)
  rcases List.mem_append.mp member with first | behind
  · exact .inr (run before first)
  · exact later node behind

section

variable (inner : List Char → Noted (List Node))

/-- What stands where one node is asked for. -/
inductive Slot : Node → Prop
  | text (value : String) : Slot (.text value)
  | content (text : List Char) : Slot (.collapse (inner text).value)

/-- What a construct becomes, where `inner` transpiles the markup inside it. -/
inductive Built : Node → Prop
  | text (value : String) : Built (.text value)
  | lineBreak : Built .lineBreak
  | separator : Built .separator
  | spliced {text : List Char} {node : Node} (member : node ∈ (inner text).value) : Built node
  | centered {text : List Char} {node : Node} (member : node ∈ centered (inner text).value) : Built node
  | header (name : String) (text : List Char) : Built (headerOf name (inner text).value)
  | styled (style : SpanStyle) {text : List Char} (shown : (Node.collapse (inner text).value).isEmpty = false) :
      Built (.styled style (.collapse (inner text).value))
  | link (href : String) {label : Node} (slot : Slot inner label) : Built (.link href label)
  | entry {fields : List Node} (slots : ∀ field ∈ fields, Slot inner field) : Built (.entryOf fields)
  | itemList (bulleted : Bool) {items : List Node} (slots : ∀ item ∈ items, Slot inner item) :
      Built (.itemList bulleted items)
  | columnGroup {columns : List Node} (some : columns ≠ []) (slots : ∀ column ∈ columns, Slot inner column) :
      Built (.columnGroup columns)

def BuiltParts (parts : List Part) : Prop :=
  ∀ node, .node node ∈ parts → Built inner node

end

variable (options : TranspileOptions) {inner : List Char → Noted (List Node)}

private theorem builtParts_nil : BuiltParts inner [] := by
  simp [BuiltParts]

private theorem builtParts_heading (title : String) : BuiltParts inner [.heading title] := by
  simp [BuiltParts]

private theorem builtParts_single {node : Node} (built : Built inner node) : BuiltParts inner [.node node] := by
  intro other member
  obtain rfl : other = node := by simpa using member
  exact built

private theorem builtParts_nodeParts {nodes : List Node} (built : ∀ node ∈ nodes, Built inner node) :
    BuiltParts inner (nodeParts nodes) := by
  intro node member
  obtain ⟨other, place, same⟩ := List.mem_map.mp member
  obtain rfl := Part.node.inj same
  exact built other place

private theorem builtParts_spliced (text : List Char) : BuiltParts inner (nodeParts (inner text).value) :=
  builtParts_nodeParts fun _ member => .spliced member

private theorem builtParts_styled (style : SpanStyle) (text : List Char) :
    BuiltParts inner (styledParts style (inner text).value) := by
  simp only [styledParts]
  split
  next => exact builtParts_nil
  next shown => exact builtParts_single (.styled style (by simpa using shown))

private theorem slot_collapsed (texts : List (List Char)) : ∀ node ∈ texts.map (collapsed inner), Slot inner node := by
  intro node member
  obtain ⟨text, -, rfl⟩ := List.mem_map.mp member
  exact .content text

theorem minipageNode_mem {page : Enclosed} {columns : List Column} (member : .minipage page ∈ columns) :
    (minipageNode inner page).value ∈ (columns.mapM (columnNodes inner)).value.flatten := by
  rw [Noted.value_mapM]
  exact List.mem_flatten.mpr ⟨_, List.mem_map.mpr ⟨_, member, rfl⟩, List.mem_singleton.mpr rfl⟩

private theorem builtParts_centerNodes (body : List Char) :
    BuiltParts inner (nodeParts (centerNodes inner body).value) := by
  unfold centerNodes
  split
  next holds =>
    obtain ⟨texts, -, pages, same⟩ := value_columns inner (columns body body)
    obtain ⟨page, member⟩ := (mem_columns_iff body).mpr holds
    have some : texts.map (collapsed inner) ≠ [] := List.ne_nil_of_mem (List.mem_map_of_mem (pages page member))
    rw [Noted.value_bind, same]
    exact builtParts_single (.columnGroup some (slot_collapsed texts))
  next => exact builtParts_nodeParts fun _ member => .centered member

private theorem builtParts_elaborated {read : Construct} (filled : read.Filled) :
    BuiltParts inner (elaborated options inner read).value := by
  cases read with
  | run text => exact builtParts_single (.text _)
  | symbol text => exact builtParts_single (.text _)
  | lineBreak => exact builtParts_single .lineBreak
  | separator => exact builtParts_single .separator
  | silent | unmatchedBrace | unnamedBegin | unmatchedEnd | unmatchedListEnd | itemOutsideList => exact builtParts_nil
  | group content => exact builtParts_spliced _
  | styled command style argument? =>
    cases argument? with
    | none => exact builtParts_nil
    | some argument => exact builtParts_styled style _
  | banner argument name contacts => exact builtParts_single (.header _ contacts)
  | declaration color? style scope =>
    rw [value_declaration]
    split
    next => exact builtParts_styled style scope
    next => exact builtParts_spliced scope
  | color argument? => cases argument? <;> exact builtParts_nil
  | heading title? => cases title? <;> exact builtParts_heading _
  | href target? label? =>
    cases target? with
    | none => exact builtParts_nil
    | some target =>
      cases label? with
      | none => exact builtParts_single (.link _ (.text _))
      | some label => exact builtParts_single (.link _ (.content label.inner))
  | url target? =>
    cases target? with
    | none => exact builtParts_nil
    | some target => exact builtParts_single (.link _ (.text _))
  | entry arguments =>
    rcases value_entry options inner arguments with dropped | made
    · rw [dropped]
      exact builtParts_nil
    · rw [made]
      exact builtParts_single (.entry (slot_collapsed _))
  | looseItems arguments =>
    rcases value_looseItems options inner arguments with none | made
    · rw [none]
      exact builtParts_nil
    · rw [made]
      exact builtParts_single (.itemList true (slot_collapsed _))
  | list opening bulleted body =>
    obtain ⟨texts, -, items⟩ := value_itemNodes inner body.inner
    simp only [elaborated, Noted.value_bind, value_blockBody, items]
    exact builtParts_single (.itemList bulleted (slot_collapsed texts))
  | minipages bodies =>
    have some : bodies ≠ [] := filled
    rw [value_minipages]
    exact builtParts_single (.columnGroup (by simpa [Construct.inside] using some) (slot_collapsed _))
  | center body => exact builtParts_centerNodes _
  | document body => exact builtParts_spliced _
  | environment name body => exact builtParts_spliced _
  | unknown command argument? =>
    cases argument? with
    | none => exact builtParts_nil
    | some argument =>
      simp only [elaborated, Noted.value_bind]
      split
      next => exact builtParts_spliced argument.inner
      next => exact builtParts_nil

theorem builtParts_parts (levels : Nat) (top : Bool) (text : List Char) :
    BuiltParts (sequence options levels false) (parts options levels top text).value := by
  intro node member
  rw [parts, Noted.value_map, Noted.value_mapM] at member
  obtain ⟨read, place, within⟩ := List.mem_flatten.mp member
  obtain ⟨construct, met, rfl⟩ := List.mem_map.mp place
  exact builtParts_elaborated options (shaped_of_mem_constructs met).filled node within

end Transpile

end Vitae
