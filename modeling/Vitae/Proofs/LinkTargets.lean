import Vitae.Proofs.AlikeWalks
import Vitae.Proofs.PrintedLinks

/-! The links of rendered Markdown. A second walk over the tree, led by the same visitor, collects the targets in the
order in which they are printed; step by step both walks agree on what is in the text. -/

namespace Vitae.Markdown

open Render

variable {σ : Type}

section targets

variable (visitor : Visitor σ)

/-- What a node prints where the visitor lets it proceed; what is put in its place is not the node's. -/
def whereProceeding (node : Node) (targets : Walk σ (List String)) : Walk σ (List String) := do
  match ← ask visitor node with
  | .proceed => targets
  | .replace _ | .skip => return []

mutual

/-- The targets in a line. A link stands behind those in its label. -/
def inlineTargets : Node → Walk σ (List String)
  | .fragment children => whereProceeding visitor (.fragment children) (inlineAllTargets children)
  | .styled style child => whereProceeding visitor (.styled style child) (inlineTargets child)
  | .link href label => whereProceeding visitor (.link href label) do
    return (← inlineTargets label) ++ if isSafeHref href then [href] else []
  | node => whereProceeding visitor node (pure [])
termination_by structural node => node

def inlineAllTargets : List Node → Walk σ (List String)
  | [] => pure []
  | node :: rest => do
    let first ← inlineTargets node
    return first ++ (← inlineAllTargets rest)
termination_by structural nodes => nodes

end

mutual

def itemLineTargets : Node → Walk σ (List String)
  | .fragment children => itemLinesTargets children
  | node => if node.isInline then inlineTargets visitor node else pure []
termination_by structural node => node

def itemLinesTargets : List Node → Walk σ (List String)
  | [] => pure []
  | node :: rest => do
    let first ← itemLineTargets node
    return first ++ (← itemLinesTargets rest)
termination_by structural nodes => nodes

end

def fieldTargets (style? : Option SpanStyle) (field : Node) : Walk σ (List String) :=
  if field.isEmpty then pure []
  else inlineTargets visitor (match style? with
    | some style => .styled style field
    | none => field)

def rowTargets (style : SpanStyle) (left right : Node) : Walk σ (List String) := do
  let first ← fieldTargets visitor (some style) left
  return first ++ (← fieldTargets visitor none right)

mutual

/-- The targets in a node among blocks or in an item, where those of its line are not counted again. -/
def targets (context : Context) : Node → Walk σ (List String)
  | .fragment children => allTargets context children
  | .header name lines contacts =>
    whereProceeding visitor (.header name lines contacts) (inlineAllTargets visitor contacts)
  | .titled title body => whereProceeding visitor (.titled title body) (allTargets .flow body)
  | .entry primary secondary tertiary quaternary =>
    whereProceeding visitor (.entry primary secondary tertiary quaternary) do
      let first ← rowTargets visitor .bold primary secondary
      return first ++ (← rowTargets visitor .italic tertiary quaternary)
  | .itemList bulleted items => whereProceeding visitor (.itemList bulleted items) (itemTargets context.listIndent items)
  | .columnGroup columns => whereProceeding visitor (.columnGroup columns) (allTargets .flow columns)
  | .centered body => whereProceeding visitor (.centered body) (allTargets .flow body)
  | node => match context with
    | .flow => inlineTargets visitor node
    | .item _ => pure []
termination_by structural node => node

def allTargets (context : Context) : List Node → Walk σ (List String)
  | [] => pure []
  | node :: rest => do
    let first ← targets context node
    return first ++ (← allTargets context rest)
termination_by structural nodes => nodes

def itemTargets (indent : Nat) : List Node → Walk σ (List String)
  | [] => pure []
  | item :: rest => do
    let line ← itemLineTargets visitor item
    let blocks ← targets (.item indent) item
    return line ++ blocks ++ (← itemTargets indent rest)
termination_by structural items => items

end

/-- The targets of the links that are printed for a tree, in their order. -/
def linkTargets (memory : σ) (tree : Tree) : List String :=
  ((allTargets visitor .flow tree).run { memory }).1

end targets

section walk

/-- The text prints the targets, those of one line at least. -/
def Prints (text : String) (targets : List String) : Prop :=
  Printed (targets.filter isOneLine) text.toList

def PrintsAll (pieces : List Piece) (targets : List String) : Prop :=
  PrintedAll (targets.filter isOneLine) (pieces.map fun piece => (Html.shown piece).toList)

theorem Prints.append {first second : String} {targets others : List String} (one : Prints first targets)
    (two : Prints second others) : Prints (first ++ second) (targets ++ others) := by
  rw [Prints, String.toList_append, List.filter_append]
  exact Printed.append one two

private theorem prints_nothing (text : String) : Prints text [] :=
  .of_text text.toList

theorem Prints.behind {text : String} {targets : List String} (before : String) (printed : Prints text targets) :
    Prints (before ++ text) targets :=
  (prints_nothing before).append printed

theorem Prints.before {text : String} {targets : List String} (printed : Prints text targets) (after : String) :
    Prints (text ++ after) targets := by
  have whole := printed.append (prints_nothing after)
  rwa [List.append_nil] at whole

theorem PrintsAll.append {first second : List Piece} {targets others : List String} (one : PrintsAll first targets)
    (two : PrintsAll second others) : PrintsAll (first ++ second) (targets ++ others) := by
  rw [PrintsAll, List.map_append, List.filter_append]
  exact PrintedAll.append one two

theorem PrintsAll.flowLayout {pieces : List Piece} {targets : List String} (each : PrintsAll pieces targets) :
    Prints (Markdown.flowLayout pieces) targets :=
  PrintedAll.layout (fun _ _ printed => Printed.paragraph printed) (Printed.of_text "".toList) each

variable {options : RenderOptions} {visitor : Visitor σ}

/-- Both walks ask about the node, and they go on or leave it together. -/
theorem paired_consult (node : Node) {content : Walk σ String} {targets : Walk σ (List String)}
    (inside : Paired Prints content targets) :
    Paired Prints (consult options visitor node content) (whereProceeding visitor node targets) := by
  refine Paired.bind (alike_ask node) fun action _ same => ?_
  obtain rfl := same
  cases action with
  | proceed =>
    intro session later same
    exact inside _ later ((memory_countNode options node session).trans same)
  | replace output => exact paired_pure (prints_nothing output)
  | skip => exact paired_pure (prints_nothing "")

mutual

private theorem paired_inline (node : Node) :
    Paired Prints (inline options visitor node) (inlineTargets visitor node) := by
  cases node with
  | fragment children =>
    rw [inline, inlineTargets]
    exact paired_consult _ (paired_inlineAll children)
  | styled style child =>
    rw [inline, inlineTargets]
    exact paired_consult _ ((paired_inline child).map_left fun _ _ printed => Printed.styledText style printed)
  | link href label =>
    rw [inline, inlineTargets]
    refine paired_consult _ ((paired_inline label).bind fun text targets printed => paired_pure ?_)
    rw [Prints, List.filter_append]
    exact Printed.linkText href printed
  | lineBreak | separator | text | header | titled | entry | itemList | columnGroup | centered =>
    exact paired_consult _ (paired_pure (prints_nothing _))
termination_by structural node

private theorem paired_inlineAll (nodes : List Node) :
    Paired Prints (inlineAll options visitor nodes) (inlineAllTargets visitor nodes) := by
  cases nodes with
  | nil => exact paired_pure (prints_nothing "")
  | cons node rest =>
    rw [inlineAll, inlineAllTargets]
    refine (paired_inline node).bind fun _ _ first => (paired_inlineAll rest).bind fun _ _ later => ?_
    exact paired_pure (first.append later)
termination_by structural nodes

end

mutual

private theorem paired_itemLine (node : Node) :
    Paired Prints (itemLine options visitor node) (itemLineTargets visitor node) := by
  cases node with
  | fragment children => exact paired_itemLines children
  | styled | link | lineBreak | separator | text => exact paired_inline _
  | header | titled | entry | itemList | columnGroup | centered => exact paired_pure (prints_nothing "")
termination_by structural node

private theorem paired_itemLines (nodes : List Node) :
    Paired Prints (itemLines options visitor nodes) (itemLinesTargets visitor nodes) := by
  cases nodes with
  | nil => exact paired_pure (prints_nothing "")
  | cons node rest =>
    rw [itemLines, itemLinesTargets]
    refine (paired_itemLine node).bind fun _ _ first => (paired_itemLines rest).bind fun _ _ later => ?_
    exact paired_pure (first.append later)
termination_by structural nodes

end

private theorem paired_fieldText (style? : Option SpanStyle) (field : Node) :
    Paired Prints (fieldText options visitor style? field) (fieldTargets visitor style? field) := by
  unfold fieldText fieldTargets
  split
  next => exact paired_pure (prints_nothing "")
  next => exact paired_inline _

private theorem paired_row (style : SpanStyle) (left right : Node) :
    Paired Prints (row options visitor style left right) (rowTargets visitor style left right) := by
  refine (paired_fieldText _ left).bind fun _ _ first => (paired_fieldText none right).bind fun _ _ second => ?_
  refine paired_pure ?_
  rw [Prints, List.filter_append]
  exact Printed.joinRow first second

/-- Each contact prints its own targets. -/
theorem paired_contactTexts (contacts : List Node) :
    Paired (fun texts targets => PrintedAll (targets.filter isOneLine) (texts.map String.toList))
      (contactTexts options visitor contacts) (inlineAllTargets visitor contacts) := by
  induction contacts with
  | nil => exact paired_pure .nil
  | cons contact rest ih =>
    rw [contactTexts, inlineAllTargets]
    refine (paired_inline contact).bind fun _ _ first => ih.bind fun _ _ later => paired_pure ?_
    rw [List.filter_append]
    exact .cons (Printed.trimmed first) later

private theorem paired_inlinePieces (node : Node) :
    Paired PrintsAll (inlinePieces options visitor .flow node) (inlineTargets visitor node) :=
  (paired_inline node).map_left fun _ _ printed => PrintedAll.singleton printed

private theorem paired_blockPiece (context : Context) (node : Node) {content : Walk σ String}
    {targets : Walk σ (List String)} (inside : Paired Prints content targets) :
    Paired PrintsAll (blockPiece options visitor context node content) (whereProceeding visitor node targets) := by
  refine (paired_consult node inside).map_left fun _ _ printed => PrintedAll.singleton ?_
  cases context with
  | flow => exact printed
  | item indent => exact Printed.indented indent printed

mutual

private theorem paired_pieces (context : Context) (node : Node) :
    Paired PrintsAll (pieces options visitor context node) (targets visitor context node) := by
  cases node with
  | fragment children =>
    rw [pieces, targets]
    exact paired_allPieces context children
  | header name lines contacts =>
    rw [pieces, targets]
    refine paired_blockPiece context _ ((paired_contactTexts contacts).map_left fun texts targets printed => ?_)
    refine Prints.behind _ ?_
    split
    next none =>
      rw [List.isEmpty_iff.mp none] at printed
      exact printed.join
    next => exact Prints.before (printed.intercalate " | ") "\n\n"
  | titled title body =>
    rw [pieces, targets]
    exact paired_blockPiece context _ ((paired_allPieces .flow body).map_left fun _ _ each => each.flowLayout.behind _)
  | entry primary secondary tertiary quaternary =>
    rw [pieces, targets]
    refine paired_blockPiece context _ ((paired_row .bold primary secondary).bind fun _ _ upper => ?_)
    refine (paired_row .italic tertiary quaternary).bind fun _ _ lower => paired_pure ?_
    rw [Prints, List.filter_append]
    exact Printed.joinRows upper lower
  | itemList bulleted items =>
    rw [pieces, targets]
    have ended := (paired_itemTexts bulleted context.listIndent items).map_left fun _ _ printed =>
      Prints.before printed context.listEnd
    exact (paired_consult _ ended).map_left fun _ _ printed => PrintedAll.singleton printed
  | columnGroup columns =>
    rw [pieces, targets]
    exact paired_blockPiece context _ ((paired_allPieces .flow columns).map_left fun _ _ each => each.flowLayout)
  | centered body =>
    rw [pieces, targets]
    exact paired_blockPiece context _ ((paired_allPieces .flow body).map_left fun _ _ each => each.flowLayout)
  | styled | link | lineBreak | separator | text =>
    cases context with
    | flow => exact paired_inlinePieces _
    | item indent => exact paired_pure PrintedAll.nil
termination_by structural node

private theorem paired_allPieces (context : Context) (nodes : List Node) :
    Paired PrintsAll (allPieces options visitor context nodes) (allTargets visitor context nodes) := by
  cases nodes with
  | nil => exact paired_pure PrintedAll.nil
  | cons node rest =>
    rw [allPieces, allTargets]
    refine (paired_pieces context node).bind fun _ _ first => (paired_allPieces context rest).bind fun _ _ later => ?_
    exact paired_pure (first.append later)
termination_by structural nodes

private theorem paired_itemTexts (bulleted : Bool) (indent : Nat) (items : List Node) :
    Paired Prints (itemTexts options visitor bulleted indent items) (itemTargets visitor indent items) := by
  cases items with
  | nil => exact paired_pure (prints_nothing "")
  | cons item rest =>
    rw [itemTexts, itemTargets]
    refine (paired_itemLine item).bind fun _ _ line => (paired_pieces (.item indent) item).bind fun _ _ blocks => ?_
    refine (paired_itemTexts bulleted indent rest).bind fun _ _ later => paired_pure ?_
    have below := PrintedAll.layout (fun _ _ printed => printed) (Printed.of_text "".toList) blocks
    exact (Prints.append (Printed.itemText options bulleted indent line) below).append later
termination_by structural items

end

end walk

/-- A safe target that closes its own link and opens another. -/
def splicedTarget : String :=
  "/) [y](javascript:alert(1)"

end Vitae.Markdown
