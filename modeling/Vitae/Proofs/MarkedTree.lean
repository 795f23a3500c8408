import Vitae.Proofs.MetConstructs

/-! Marks in trees. A link target is copied from the construct that it was read from, marks and all, and where it is its
own label too, so is the text of the link. Every other string of a tree is made of clear text and of strings that stand
below it. -/

namespace Vitae

open Markup

namespace Node

/-- The strings of a node itself, but for a link target. -/
def strings : Node → List String
  | .text value => [value]
  | .titled title _ => [title]
  | .header name lines _ => name :: lines
  | _ => []

def target? : Node → Option String
  | .link href _ => some href
  | _ => none

/-- Some string in the nodes is marked, targets aside. -/
def ShowMark (nodes : List Node) : Prop :=
  ∃ node ∈ walkAll nodes, ∃ text ∈ node.strings, Marked text.toList

private theorem showMark_cons {node : Node} {rest : List Node} :
    ShowMark (node :: rest) ↔ (∃ text ∈ node.strings, Marked text.toList) ∨ ShowMark node.children ∨ ShowMark rest := by
  rw [ShowMark, walkAll, walk_eq_cons, List.cons_append, List.exists_mem_cons_iff]
  refine or_congr_right ?_
  simp only [ShowMark, List.mem_append, or_and_right, exists_or]

/-- A node shows the marks of its strings and of its children. -/
theorem showMark_singleton {node : Node} :
    ShowMark [node] ↔ (∃ text ∈ node.strings, Marked text.toList) ∨ ShowMark node.children := by
  have none : ¬ ShowMark [] := by simp [ShowMark, walkAll]
  simp only [showMark_cons, none, or_false]

private theorem marked_tidyText {before after : Bool} {value : List Char}
    (marked : Marked (tidyText before after value)) :
    Marked value := by
  have collapsed (inside : Bool) (value : List Char) (marked : Marked (Text.collapseSpaces inside value)) :
      Marked value := by
    have space : isMark ' ' = false := by decide
    induction value generalizing inside with
    | nil => exact marked
    | cons c rest ih =>
      rw [Text.collapseSpaces] at marked
      refine marked_cons.mpr ?_
      split at marked
      next =>
        split at marked
        next => exact .inr (ih true marked)
        next => exact .inr (ih true ((marked_cons.mp marked).resolve_left (by simp [space])))
      next => exact (marked_cons.mp marked).imp_right (ih false)
  refine collapsed false value ?_
  have leading {text : List Char} (marked : Marked (text.dropWhile (· == ' '))) : Marked text :=
    marked.mono (List.dropWhile_sublist _).subset
  have trailing {text : List Char} (marked : Marked (Text.dropTrailing (· == ' ') text)) : Marked text :=
    marked.mono (Text.dropTrailing_subset _ _)
  cases before with
  | true => cases after with
    | true => exact marked
    | false => exact trailing marked
  | false => cases after with
    | true => exact leading marked
    | false => exact trailing (leading marked)

section plainText

private theorem marked_joinFields {left right : String} (marked : Marked (joinFields left right).toList) :
    Marked left.toList ∨ Marked right.toList := by
  have comma : ¬ Marked ", ".toList := by decide
  unfold joinFields at marked
  split at marked
  next => exact .inr marked
  next =>
    split at marked
    next => exact .inl marked
    next =>
      rw [String.toList_append, String.toList_append, marked_append, marked_append] at marked
      simpa only [comma, or_false] using marked

private theorem marked_joinRows {first second : String} (marked : Marked (joinRows first second).toList) :
    Marked first.toList ∨ Marked second.toList := by
  have newline : ¬ Marked "\n".toList := by decide
  unfold joinRows at marked
  split at marked
  next => exact .inr marked
  next =>
    split at marked
    next => exact .inl marked
    next =>
      rw [String.toList_append, String.toList_append, marked_append, marked_append] at marked
      simpa only [newline, or_false] using marked

private theorem marked_blockLines {run : String} {parts : List (Bool × String)} {line : String}
    (member : line ∈ blockLines run parts) (marked : Marked line.toList) :
    Marked run.toList ∨ ∃ part ∈ parts, Marked part.2.toList := by
  have ended {run : String} (member : line ∈ if run.isBlank then [] else [run.trimmed]) : Marked run.toList := by
    split at member
    next => exact absurd member (by simp)
    next =>
      obtain rfl := List.mem_singleton.mp member
      exact marked.of_trimmed
  induction parts generalizing run with
  | nil => exact .inl (ended member)
  | cons part rest ih =>
    obtain ⟨inline, shown⟩ := part
    cases inline with
    | true =>
      rcases ih member with longer | ⟨other, place, found⟩
      · rw [String.toList_append, marked_append] at longer
        exact longer.imp_right fun found => ⟨(true, shown), by simp, found⟩
      · exact .inr ⟨other, List.mem_cons_of_mem _ place, found⟩
    | false =>
      rcases List.mem_append.mp member with before | behind
      · exact .inl (ended before)
      · right
        rcases List.mem_cons.mp behind with rfl | later
        · exact ⟨(false, line), by simp, marked⟩
        · rcases ih later with empty | ⟨other, place, found⟩
          · exact absurd empty (by decide)
          · exact ⟨other, List.mem_cons_of_mem _ place, found⟩

/-- The plain text of a block body. -/
theorem marked_blockText {between : String} (clear : ¬ Marked between.toList) {parts : List (Bool × String)}
    (marked : Marked (between.intercalate (blockLines "" parts)).toList) : ∃ part ∈ parts, Marked part.2.toList := by
  rcases marked.of_joined with separator | ⟨line, member, marked⟩
  · exact absurd separator clear
  · rcases marked_blockLines member marked with empty | found
    · exact absurd empty (by decide)
    · exact found

mutual

/-- The plain text of a node is made of its strings and of those below it. -/
theorem showMark_of_plainText (node : Node) (marked : Marked node.plainText.toList) : ShowMark [node] := by
  rw [showMark_singleton]
  have newline : ¬ Marked "\n".toList := by decide
  have blankLine : ¬ Marked "\n\n".toList := by decide
  cases node with
  | text value => exact .inl ⟨value, by simp [strings], marked⟩
  | lineBreak => exact absurd marked (by decide)
  | separator => exact absurd marked (by decide)
  | styled style child => exact .inr (showMark_of_plainText child marked)
  | link href label => exact .inr (showMark_of_plainText label marked)
  | fragment children =>
    obtain ⟨text, member, marked⟩ := marked_join.mp marked
    obtain ⟨part, place, rfl⟩ := List.mem_map.mp member
    exact .inr (showMark_of_plainTexts children place marked)
  | header name lines contacts =>
    left
    rw [plainText] at marked
    split at marked
    next => exact ⟨name, by simp [strings], marked⟩
    next =>
      rw [String.toList_append, String.toList_append, marked_append, marked_append] at marked
      rcases marked with (own | separator) | line
      · exact ⟨name, by simp [strings], own⟩
      · exact absurd separator newline
      · rcases line.of_joined with separator | ⟨line, member, marked⟩
        · exact absurd separator (by decide)
        · exact ⟨line, by simp [strings, member], marked⟩
  | titled title body =>
    have own (marked : Marked title.inUpperCase.toList) : ∃ text ∈ strings (.titled title body), Marked text.toList :=
      ⟨title, by simp [strings], marked.of_upper⟩
    rw [plainText] at marked
    split at marked
    next => exact .inl (own marked)
    next =>
      rw [String.toList_append, String.toList_append, marked_append, marked_append] at marked
      rcases marked with (heading | separator) | content
      · exact .inl (own heading)
      · exact absurd separator newline
      · obtain ⟨part, place, marked⟩ := marked_blockText newline content
        exact .inr (showMark_of_plainTexts body place marked)
  | entry primary secondary tertiary quaternary =>
    have field {node : Node} (place : node ∈ [primary, secondary, tertiary, quaternary]) (shown : ShowMark [node]) :
        ShowMark [primary, secondary, tertiary, quaternary] := by
      obtain ⟨inner, member, found⟩ := shown
      obtain ⟨outer, single, inside⟩ := mem_walkAll.mp member
      rw [List.mem_singleton.mp single] at inside
      exact ⟨inner, mem_walkAll.mpr ⟨node, place, inside⟩, found⟩
    right
    rcases marked_joinRows marked with upper | lower
    · rcases marked_joinFields upper with left | right
      · exact field (by simp) (showMark_of_plainText primary left)
      · exact field (by simp) (showMark_of_plainText secondary right)
    · rcases marked_joinFields lower with left | right
      · exact field (by simp) (showMark_of_plainText tertiary left)
      · exact field (by simp) (showMark_of_plainText quaternary right)
  | itemList bulleted items =>
    have bullet : ¬ Marked "- ".toList := by decide
    right
    rcases marked.of_joined with separator | ⟨line, member, marked⟩
    · exact absurd separator newline
    · obtain ⟨part, place, rfl⟩ := List.mem_map.mp member
      refine showMark_of_plainTexts items place ?_
      split at marked
      next =>
        rw [String.toList_append, marked_append] at marked
        exact marked.resolve_left bullet
      next => exact marked
  | columnGroup columns =>
    right
    rcases marked.of_joined with separator | ⟨column, member, marked⟩
    · exact absurd separator blankLine
    · obtain ⟨part, place, rfl⟩ := List.mem_map.mp member
      exact showMark_of_plainTexts columns place marked
  | centered body =>
    obtain ⟨part, place, marked⟩ := marked_blockText newline marked
    exact .inr (showMark_of_plainTexts body place marked)
termination_by structural node

private theorem showMark_of_plainTexts (nodes : List Node) {part : Bool × String} (member : part ∈ plainTexts nodes)
    (marked : Marked part.2.toList) : ShowMark nodes := by
  cases nodes with
  | nil => exact absurd member (by simp [plainTexts])
  | cons node rest =>
    rw [plainTexts] at member
    rcases List.mem_cons.mp member with rfl | later
    · rcases showMark_singleton.mp (showMark_of_plainText node marked) with own | below
      · exact showMark_cons.mpr (.inl own)
      · exact showMark_cons.mpr (.inr (.inl below))
    · exact showMark_cons.mpr (.inr (.inr (showMark_of_plainTexts rest later marked)))
termination_by structural nodes

end

end plainText

/-- A link target is one of those known to be read, and no other string is marked unless `shown` holds. -/
structure Traced (linked : String → Prop) (shown : Prop) (node : Node) : Prop where
  target : ∀ href, node.target? = some href → linked href
  strings : ∀ text ∈ node.strings, Marked text.toList → shown

/-- So it is in the nodes, at whatever depth. -/
def AllTraced (linked : String → Prop) (shown : Prop) (nodes : List Node) : Prop :=
  ∀ node ∈ walkAll nodes, node.Traced linked shown

section traced

variable {linked : String → Prop} {shown : Prop} {nodes others : List Node}

theorem allTraced_nil : AllTraced linked shown [] := by
  simp [AllTraced, walkAll]

theorem allTraced_cons {node : Node} : AllTraced linked shown (node :: nodes) ↔
    node.Traced linked shown ∧ AllTraced linked shown node.children ∧ AllTraced linked shown nodes := by
  rw [AllTraced, walkAll, walk_eq_cons, List.cons_append, List.forall_mem_cons, List.forall_mem_append]
  rfl

theorem AllTraced.mono (all : AllTraced linked shown nodes) (within : others ⊆ nodes) : AllTraced linked shown others := by
  intro inner member
  obtain ⟨node, place, inside⟩ := mem_walkAll.mp member
  exact all inner (mem_walkAll.mpr ⟨node, within place, inside⟩)

theorem AllTraced.single (all : AllTraced linked shown nodes) {node : Node} (member : node ∈ nodes) :
    AllTraced linked shown [node] :=
  all.mono (List.cons_subset.mpr ⟨member, List.nil_subset nodes⟩)

theorem allTraced_of_forall (each : ∀ node ∈ nodes, AllTraced linked shown [node]) : AllTraced linked shown nodes := by
  intro inner member
  obtain ⟨node, place, inside⟩ := mem_walkAll.mp member
  exact each node place inner (mem_walkAll.mpr ⟨node, by simp, inside⟩)

theorem AllTraced.append (first : AllTraced linked shown nodes) (second : AllTraced linked shown others) :
    AllTraced linked shown (nodes ++ others) := by
  refine allTraced_of_forall fun node member => ?_
  rcases List.mem_append.mp member with before | behind
  · exact first.single before
  · exact second.single behind

/-- A node without strings of its own is traced where its children are. -/
theorem allTraced_single {node : Node} (own : node.Traced linked shown) (below : AllTraced linked shown node.children) :
    AllTraced linked shown [node] :=
  allTraced_cons.mpr ⟨own, below, allTraced_nil⟩

theorem traced_silent {node : Node} (noTarget : node.target? = none) (noStrings : node.strings = []) :
    node.Traced linked shown where
  target href same := by simp [noTarget] at same
  strings text member := by simp [noStrings] at member

private theorem traced_text {value : String} : (text value).Traced linked shown ↔ (Marked value.toList → shown) := by
  constructor
  · exact fun traced marked => traced.strings value (by simp [strings]) marked
  · intro clear
    refine ⟨fun href same => by simp [target?] at same, fun other member => ?_⟩
    obtain rfl := List.mem_singleton.mp member
    exact clear

theorem allTraced_text {value : String} (clear : Marked value.toList → shown) : AllTraced linked shown [.text value] :=
  allTraced_single (traced_text.mpr clear) allTraced_nil

theorem AllTraced.plainText {node : Node} (all : AllTraced linked shown [node]) (marked : Marked node.plainText.toList) :
    shown := by
  obtain ⟨inner, member, text, own, marked⟩ := showMark_of_plainText node marked
  exact (all inner member).strings text own marked

theorem AllTraced.collapse (all : AllTraced linked shown nodes) : AllTraced linked shown [collapse nodes] := by
  match nodes with
  | [] => exact allTraced_text (by simp)
  | [node] => exact all
  | first :: second :: rest => exact allTraced_single (traced_silent rfl rfl) all

theorem AllTraced.mergeTexts (all : AllTraced linked shown nodes) : AllTraced linked shown (mergeTexts nodes) := by
  fun_induction Node.mergeTexts nodes with
  | case1 => exact all
  | case2 value rest next later merged ih =>
    obtain ⟨own, -, behind⟩ := allTraced_cons.mp all
    have joined := ih behind
    rw [merged] at joined
    obtain ⟨other, -, tail⟩ := allTraced_cons.mp joined
    refine allTraced_cons.mpr ⟨traced_text.mpr fun marked => ?_, allTraced_nil, tail⟩
    rw [String.toList_append, marked_append] at marked
    exact marked.elim (traced_text.mp own) (traced_text.mp other)
  | case3 value rest next ih =>
    obtain ⟨own, below, behind⟩ := allTraced_cons.mp all
    exact allTraced_cons.mpr ⟨own, below, ih behind⟩
  | case4 node rest noText ih =>
    obtain ⟨own, below, behind⟩ := allTraced_cons.mp all
    exact allTraced_cons.mpr ⟨own, below, ih behind⟩

theorem AllTraced.tidyTexts {before : Bool} (all : AllTraced linked shown nodes) :
    AllTraced linked shown (tidyTexts before nodes) := by
  fun_induction Node.tidyTexts before nodes with
  | case1 => exact all
  | case2 before value rest nothing ih => exact ih (allTraced_cons.mp all).2.2
  | case3 before value rest text ih =>
    obtain ⟨own, below, behind⟩ := allTraced_cons.mp all
    refine allTraced_cons.mpr ⟨traced_text.mpr fun marked => ?_, allTraced_nil, ih behind⟩
    rw [String.toList_ofList] at marked
    exact traced_text.mp own (marked_tidyText marked)
  | case4 before node rest noText ih =>
    obtain ⟨own, below, behind⟩ := allTraced_cons.mp all
    exact allTraced_cons.mpr ⟨own, below, ih behind⟩

theorem AllTraced.tidy (all : AllTraced linked shown nodes) : AllTraced linked shown (tidy nodes) :=
  all.mergeTexts.tidyTexts

end traced

end Node

end Vitae
