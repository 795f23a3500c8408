import Vitae.Render.Html
import Vitae.Render.Markdown

/-! Two walks side by side. Counting is a note on the side: what a walk renders, and what its visitor remembers,
does not follow from what has been counted, so both renderers give one output whether or not they count. -/

namespace Vitae

variable {σ α β γ δ : Type}

namespace Render

/-- Related results and the same memory where the memories are the same, whatever has been counted. -/
def Paired (related : α → β → Prop) (walk : Walk σ α) (other : Walk σ β) : Prop :=
  ∀ session later, session.memory = later.memory →
    related (walk.run session).1 (other.run later).1 ∧ (walk.run session).2.memory = (other.run later).2.memory

theorem paired_pure {related : α → β → Prop} {value : α} {image : β} (holds : related value image) :
    Paired related (pure value : Walk σ α) (pure image) :=
  fun _ _ same => ⟨holds, same⟩

theorem Paired.bind {given : α → β → Prop} {related : γ → δ → Prop} {walk : Walk σ α} {other : Walk σ β}
    {next : α → Walk σ γ} {following : β → Walk σ δ} (first : Paired given walk other)
    (rest : ∀ value image, given value image → Paired related (next value) (following image)) :
    Paired related (walk >>= next) (other >>= following) := by
  intro session later same
  obtain ⟨holds, memories⟩ := first session later same
  rw [StateT.run_bind, StateT.run_bind]
  exact rest _ _ holds _ _ memories

/-- What is made of the result of the first walk may stay related to the result of the second. -/
theorem Paired.map_left {given : α → β → Prop} {related : γ → β → Prop} {walk : Walk σ α} {other : Walk σ β}
    {made : α → γ} (first : Paired given walk other) (kept : ∀ value image, given value image → related (made value) image) :
    Paired related (walk >>= fun value => pure (made value)) other := by
  intro session later same
  obtain ⟨holds, memories⟩ := first session later same
  exact ⟨kept _ _ holds, memories⟩

/-- The same result, and so the same memory. -/
def Alike (walk other : Walk σ α) : Prop :=
  Paired (· = ·) walk other

private theorem alike_pure (value : α) : Alike (pure value : Walk σ α) (pure value) :=
  paired_pure rfl

theorem Alike.bind {walk other : Walk σ α} {next following : α → Walk σ β} (first : Alike walk other)
    (rest : ∀ value, Alike (next value) (following value)) : Alike (walk >>= next) (other >>= following) := by
  refine Paired.bind first ?_
  rintro value _ rfl
  exact rest value

theorem Alike.map {walk other : Walk σ α} (first : Alike walk other) (made : α → β) :
    Alike (made <$> walk) (made <$> other) := by
  intro session later same
  obtain ⟨value, memories⟩ := first session later same
  exact ⟨congrArg made value, memories⟩

section consult

variable {options : RenderOptions} {counted : Bool} {visitor : Visitor σ}

theorem alike_ask (node : Node) : Alike (ask visitor node) (ask visitor node) := by
  rintro ⟨memory, _⟩ ⟨_, _⟩ rfl
  exact ⟨rfl, rfl⟩

/-- Counting is not remembered. -/
theorem memory_countNode (options : RenderOptions) (node : Node) (session : Session σ) :
    ((countNode options node).run session).2.memory = session.memory := by
  change (if options.collectStats then _ else session).memory = session.memory
  split <;> rfl

private theorem alike_countNode (node : Node) :
    Alike (countNode options node : Walk σ Unit) (countNode { options with collectStats := counted } node) := by
  intro session later same
  refine ⟨rfl, ?_⟩
  rwa [memory_countNode, memory_countNode]

private theorem alike_consult (node : Node) {content following : Walk σ String} (inside : Alike content following) :
    Alike (consult options visitor node content)
      (consult { options with collectStats := counted } visitor node following) := by
  refine (alike_ask node).bind fun action => ?_
  cases action with
  | proceed => exact (alike_countNode node).bind fun _ => inside
  | replace output => exact alike_pure output
  | skip => exact alike_pure ""

end consult

end Render

namespace Html

open Render

section walk

variable {options : RenderOptions} {counted : Bool} {visitor : Visitor σ}

private theorem alike_inlinePiece (node : Node) {content following : Walk σ String} (inside : Alike content following) :
    Alike (inlinePiece options visitor node content)
      (inlinePiece { options with collectStats := counted } visitor node following) :=
  (alike_consult node inside).bind fun _ => alike_pure _

theorem alike_blockPiece (node : Node) {content following : Walk σ String} (inside : Alike content following) :
    Alike (blockPiece options visitor node content)
      (blockPiece { options with collectStats := counted } visitor node following) :=
  (alike_consult node inside).bind fun _ => alike_pure _

private theorem alike_field (field : Node) {shown following : Walk σ (List Piece)} (inside : Alike shown following)
    {next last : Option (List Piece) → Walk σ β} (rest : ∀ content?, Alike (next content?) (last content?)) :
    Alike (if field.isEmpty then pure none >>= next else some <$> shown >>= next)
      (if field.isEmpty then pure none >>= last else some <$> following >>= last) := by
  split
  next => exact (alike_pure none).bind rest
  next => exact (inside.map some).bind rest

mutual

theorem alike_pieces (node : Node) :
    Alike (pieces options visitor node) (pieces { options with collectStats := counted } visitor node) := by
  cases node with
  | header name lines contacts =>
    rw [pieces, pieces]
    exact alike_blockPiece _ ((alike_sequences contacts).bind fun _ => alike_pure _)
  | titled title body =>
    rw [pieces, pieces]
    exact alike_blockPiece _ ((alike_members body).bind fun _ => alike_pure _)
  | entry primary secondary tertiary quaternary =>
    rw [pieces, pieces]
    refine alike_blockPiece _ (alike_field primary (alike_pieces primary) fun first => ?_)
    refine alike_field secondary (alike_pieces secondary) fun second => ?_
    refine alike_field tertiary (alike_pieces tertiary) fun third => ?_
    exact alike_field quaternary (alike_pieces quaternary) fun fourth => alike_pure _
  | itemList bulleted items =>
    rw [pieces, pieces]
    exact alike_blockPiece _ ((alike_sequences items).bind fun _ => alike_pure _)
  | columnGroup columns =>
    rw [pieces, pieces]
    exact alike_blockPiece _ ((alike_sequences columns).bind fun _ => alike_pure _)
  | centered body =>
    rw [pieces, pieces]
    exact alike_blockPiece _ ((alike_allPieces body).bind fun _ => alike_pure _)
  | styled style child =>
    rw [pieces, pieces]
    exact alike_inlinePiece _ ((alike_pieces child).bind fun _ => alike_pure _)
  | link href label =>
    rw [pieces, pieces]
    exact alike_inlinePiece _ ((alike_pieces label).bind fun _ => alike_pure _)
  | fragment children =>
    rw [pieces, pieces]
    exact alike_allPieces children
  | lineBreak | separator | text =>
    rw [pieces, pieces]
    exact alike_inlinePiece _ (alike_pure _)
termination_by structural node

theorem alike_allPieces (nodes : List Node) :
    Alike (allPieces options visitor nodes) (allPieces { options with collectStats := counted } visitor nodes) := by
  cases nodes with
  | nil => exact alike_pure []
  | cons node rest =>
    rw [allPieces, allPieces]
    exact (alike_pieces node).bind fun _ => (alike_allPieces rest).bind fun _ => alike_pure _
termination_by structural nodes

private theorem alike_sequences (nodes : List Node) :
    Alike (sequences options visitor nodes) (sequences { options with collectStats := counted } visitor nodes) := by
  cases nodes with
  | nil => exact alike_pure []
  | cons node rest =>
    rw [sequences, sequences]
    exact (alike_pieces node).bind fun _ => (alike_sequences rest).bind fun _ => alike_pure _
termination_by structural nodes

private theorem alike_members (nodes : List Node) :
    Alike (members options visitor nodes) (members { options with collectStats := counted } visitor nodes) := by
  cases nodes with
  | nil => exact alike_pure []
  | cons node rest =>
    rw [members, members]
    exact (alike_pieces node).bind fun _ => (alike_members rest).bind fun _ => alike_pure _
termination_by structural nodes

end

end walk

/-- Counting changes neither what is rendered nor what the visitor remembers. -/
theorem run_counting (options : RenderOptions) (counted : Bool) (visitor : Visitor σ) (memory : σ) (tree : Tree) :
    (run { options with collectStats := counted } visitor memory tree).1 = (run options visitor memory tree).1 ∧
      (run { options with collectStats := counted } visitor memory tree).2.memory =
        (run options visitor memory tree).2.memory := by
  have walk : Alike (content options visitor tree) (content { options with collectStats := counted } visitor tree) :=
    (alike_allPieces tree).bind fun _ => alike_pure _
  obtain ⟨shown, remembered⟩ := walk { memory } { memory } rfl
  exact ⟨(congrArg (document options tree) shown).symm, remembered.symm⟩

end Html

namespace Markdown

open Render

section walk

variable {options : RenderOptions} {counted : Bool} {visitor : Visitor σ}

mutual

private theorem alike_inline (node : Node) :
    Alike (inline options visitor node) (inline { options with collectStats := counted } visitor node) := by
  cases node with
  | fragment children =>
    rw [inline, inline]
    exact alike_consult _ (alike_inlineAll children)
  | styled style child =>
    rw [inline, inline]
    exact alike_consult _ ((alike_inline child).bind fun _ => alike_pure _)
  | link href label =>
    rw [inline, inline]
    exact alike_consult _ ((alike_inline label).bind fun _ => alike_pure _)
  | _ => exact alike_consult _ (alike_pure _)
termination_by structural node

private theorem alike_inlineAll (nodes : List Node) :
    Alike (inlineAll options visitor nodes) (inlineAll { options with collectStats := counted } visitor nodes) := by
  cases nodes with
  | nil => exact alike_pure ""
  | cons node rest =>
    rw [inlineAll, inlineAll]
    exact (alike_inline node).bind fun _ => (alike_inlineAll rest).bind fun _ => alike_pure _
termination_by structural nodes

end

mutual

private theorem alike_itemLine (node : Node) :
    Alike (itemLine options visitor node) (itemLine { options with collectStats := counted } visitor node) := by
  cases node with
  | fragment children => exact alike_itemLines children
  | styled | link | lineBreak | separator | text => exact alike_inline _
  | header | titled | entry | itemList | columnGroup | centered => exact alike_pure ""
termination_by structural node

private theorem alike_itemLines (nodes : List Node) :
    Alike (itemLines options visitor nodes) (itemLines { options with collectStats := counted } visitor nodes) := by
  cases nodes with
  | nil => exact alike_pure ""
  | cons node rest =>
    rw [itemLines, itemLines]
    exact (alike_itemLine node).bind fun _ => (alike_itemLines rest).bind fun _ => alike_pure _
termination_by structural nodes

end

private theorem alike_fieldText (style? : Option SpanStyle) (field : Node) :
    Alike (fieldText options visitor style? field)
      (fieldText { options with collectStats := counted } visitor style? field) := by
  unfold fieldText
  split
  next => exact alike_pure ""
  next => exact alike_inline _

private theorem alike_row (style : SpanStyle) (left right : Node) :
    Alike (row options visitor style left right)
      (row { options with collectStats := counted } visitor style left right) :=
  (alike_fieldText _ left).bind fun _ => (alike_fieldText none right).bind fun _ => alike_pure _

private theorem alike_contactTexts (contacts : List Node) :
    Alike (contactTexts options visitor contacts)
      (contactTexts { options with collectStats := counted } visitor contacts) := by
  induction contacts with
  | nil => exact alike_pure []
  | cons contact rest ih =>
    rw [contactTexts, contactTexts]
    exact (alike_inline contact).bind fun _ => ih.bind fun _ => alike_pure _

private theorem alike_inlinePieces (context : Context) (node : Node) :
    Alike (inlinePieces options visitor context node)
      (inlinePieces { options with collectStats := counted } visitor context node) := by
  cases context with
  | flow => exact (alike_inline node).bind fun _ => alike_pure _
  | item indent => exact alike_pure []

theorem alike_blockPiece (context : Context) (node : Node)
    {content following : Walk σ String} (inside : Alike content following) :
    Alike (blockPiece options visitor context node content)
      (blockPiece { options with collectStats := counted } visitor context node following) :=
  (alike_consult node inside).bind fun _ => alike_pure _

mutual

theorem alike_pieces (context : Context) (node : Node) :
    Alike (pieces options visitor context node)
      (pieces { options with collectStats := counted } visitor context node) := by
  cases node with
  | fragment children =>
    rw [pieces, pieces]
    exact alike_allPieces context children
  | header name lines contacts =>
    rw [pieces, pieces]
    exact alike_blockPiece context _ ((alike_contactTexts contacts).bind fun _ => alike_pure _)
  | titled title body =>
    rw [pieces, pieces]
    exact alike_blockPiece context _ ((alike_allPieces .flow body).bind fun _ => alike_pure _)
  | entry primary secondary tertiary quaternary =>
    rw [pieces, pieces]
    refine alike_blockPiece context _ ((alike_row .bold primary secondary).bind fun _ => ?_)
    exact (alike_row .italic tertiary quaternary).bind fun _ => alike_pure _
  | itemList bulleted items =>
    rw [pieces, pieces]
    have texts := (alike_itemTexts bulleted context.listIndent items).bind fun text =>
      alike_pure (text ++ context.listEnd)
    exact (alike_consult _ texts).bind fun _ => alike_pure _
  | columnGroup columns =>
    rw [pieces, pieces]
    exact alike_blockPiece context _ ((alike_allPieces .flow columns).bind fun _ => alike_pure _)
  | centered body =>
    rw [pieces, pieces]
    exact alike_blockPiece context _ ((alike_allPieces .flow body).bind fun _ => alike_pure _)
  | styled | link | lineBreak | separator | text => exact alike_inlinePieces context _
termination_by structural node

theorem alike_allPieces (context : Context) (nodes : List Node) :
    Alike (allPieces options visitor context nodes)
      (allPieces { options with collectStats := counted } visitor context nodes) := by
  cases nodes with
  | nil => exact alike_pure []
  | cons node rest =>
    rw [allPieces, allPieces]
    exact (alike_pieces context node).bind fun _ =>
      (alike_allPieces context rest).bind fun _ => alike_pure _
termination_by structural nodes

private theorem alike_itemTexts (bulleted : Bool) (indent : Nat) (items : List Node) :
    Alike (itemTexts options visitor bulleted indent items)
      (itemTexts { options with collectStats := counted } visitor bulleted indent items) := by
  cases items with
  | nil => exact alike_pure ""
  | cons item rest =>
    rw [itemTexts, itemTexts]
    refine (alike_itemLine item).bind fun _ => (alike_pieces (.item indent) item).bind fun _ => ?_
    exact (alike_itemTexts bulleted indent rest).bind fun _ => alike_pure _
termination_by structural items

end

end walk

theorem run_counting (options : RenderOptions) (counted : Bool) (visitor : Visitor σ) (memory : σ) (tree : Tree) :
    (run { options with collectStats := counted } visitor memory tree).1 = (run options visitor memory tree).1 ∧
      (run { options with collectStats := counted } visitor memory tree).2.memory =
        (run options visitor memory tree).2.memory := by
  have walk : Alike (content options visitor tree) (content { options with collectStats := counted } visitor tree) :=
    (alike_allPieces .flow tree).bind fun _ => alike_pure _
  obtain ⟨shown, remembered⟩ := walk { memory } { memory } rfl
  exact ⟨shown.symm, remembered.symm⟩

end Markdown

end Vitae
