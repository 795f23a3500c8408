import Vitae.Proofs.DashLines
import Vitae.Proofs.MarkedTree

/-! Lists in plain text. Every item of a bulleted list has a marker, and it has a line of its own where the marker begins
one. The markers behind the first of a list always do; the first does not where the list stands behind other text that
nothing parts from it. -/

namespace Vitae

open Place

namespace Node

/-- The place behind the first of two texts, where a second one is put behind it only if there is a first. -/
def behind (place : Place) (text between : String) : Place :=
  if text.isEmpty then place else (place.after text.toList).after between.toList

/-- An item with its marker. -/
def itemText (bulleted : Bool) (text : String) : String :=
  if bulleted then "- " ++ text else text

mutual

/-- The markers in the plain text of a node that do not begin a line when it is written at a place. -/
def glued (place : Place) : Node → Nat
  | .styled _ child => glued place child
  | .link _ label => glued place label
  | .fragment children => gluedRow "" false place children
  | .titled title body => gluedBlocks "\n" ((place.after title.inUpperCase.toList).after "\n".toList) "" body
  | .entry primary secondary tertiary quaternary =>
    let next := behind place (joinFields primary.plainText secondary.plainText) "\n"
    glued place primary + glued (behind place primary.plainText ", ") secondary +
      (glued next tertiary + glued (behind next tertiary.plainText ", ") quaternary)
  | .itemList bulleted items => gluedRow "\n" bulleted place items
  | .columnGroup columns => gluedRow "\n\n" false place columns
  | .centered body => gluedBlocks "\n" place "" body
  | .header .. | .lineBreak | .separator | .text _ => 0
termination_by structural node => node

/-- Nodes one behind the other, with a text between them. -/
def gluedRow (between : String) (bulleted : Bool) (place : Place) : List Node → Nat
  | [] => 0
  | node :: rest =>
    (if bulleted then (if place.opens then 0 else 1) + glued .inside node else glued place node) +
      gluedRow between bulleted ((place.after (itemText bulleted node.plainText).toList).after between.toList) rest
termination_by structural nodes => nodes

/-- The lines of a mixed sequence, of which `run` is the one that is not finished. -/
def gluedBlocks (between : String) (place : Place) (run : String) : List Node → Nat
  | [] => 0
  | node :: rest =>
    if node.isInline then
      glued (place.trimming.after run.toList) node + gluedBlocks between place (run ++ node.plainText) rest
    else
      let begun := if run.isBlank then place else (place.after run.trimmed.toList).after between.toList
      glued begun node + gluedBlocks between ((begun.after node.plainText.toList).after between.toList) "" rest
termination_by structural nodes => nodes

end

mutual

/-- The items of the bulleted lists in a node, but for those under a header, which are not written. -/
def bulletCount : Node → Nat
  | .header .. | .lineBreak | .separator | .text _ => 0
  | .titled _ body | .centered body => bulletCounts body
  | .entry primary secondary tertiary quaternary =>
    bulletCount primary + bulletCount secondary + (bulletCount tertiary + bulletCount quaternary)
  | .itemList bulleted items => (if bulleted then items.length else 0) + bulletCounts items
  | .columnGroup columns => bulletCounts columns
  | .fragment children => bulletCounts children
  | .styled _ child => bulletCount child
  | .link _ label => bulletCount label
termination_by structural node => node

def bulletCounts : List Node → Nat
  | [] => 0
  | node :: rest => bulletCount node + bulletCounts rest
termination_by structural nodes => nodes

end

/-- The runs of inline texts in a mixed sequence, each of which is trimmed. `line` is the run so far. -/
def runs (line : String) : List (Bool × String) → List String
  | [] => [line]
  | (true, shown) :: rest => runs (line ++ shown) rest
  | (false, _) :: rest => line :: runs "" rest

/-- Trimming the runs of the nodes takes the space of no marker, which stands at the end of a run if its item is blank. -/
def KeepsMarkers (nodes : List Node) : Prop :=
  ∀ run ∈ runs "" (plainTexts nodes), ¬ EndsInDash run.toList

instance (nodes : List Node) : Decidable (KeepsMarkers nodes) :=
  inferInstanceAs (Decidable (∀ run ∈ runs "" (plainTexts nodes), ¬ EndsInDash run.toList))

private theorem keepsMarkers_nil : KeepsMarkers [] := by
  decide

/-- The mixed sequence in a node. -/
def blocks : Node → List Node
  | .titled _ body | .centered body => body
  | _ => []

/-- The strings of the node are no markers, and its own runs keep the markers in them. -/
structure Unmistakable (node : Node) : Prop where
  strings : ∀ text ∈ node.strings, Undashed text.toList
  blocks : KeepsMarkers node.blocks

/-- So it is in some nodes and in all below them. -/
def AllUnmistakable (nodes : List Node) : Prop :=
  ∀ node ∈ walkAll nodes, node.Unmistakable

private theorem allUnmistakable_cons {node : Node} {rest : List Node} :
    AllUnmistakable (node :: rest) ↔ node.Unmistakable ∧ AllUnmistakable node.children ∧ AllUnmistakable rest := by
  rw [AllUnmistakable, walkAll, walk_eq_cons, List.cons_append, List.forall_mem_cons, List.forall_mem_append]
  rfl

/-- The dashes that begin a line are the markers that are not glued to other text. -/
structure Counted (node : Node) : Prop where
  settles : Settles node.plainText.toList
  dashes : ∀ place, place ≠ dash → place.dashes node.plainText.toList + glued place node = bulletCount node

section row

variable {between : String} (bulleted : Bool)

private theorem toList_itemText (text : String) : (itemText true text).toList = ['-', ' '] ++ text.toList :=
  String.toList_append

/-- One item: its marker, if it has one, and what it holds. -/
theorem Counted.itemText {node : Node} (counted : Counted node) :
    Settles (itemText bulleted node.plainText).toList ∧
      ∀ place, place ≠ dash →
        place.dashes (itemText bulleted node.plainText).toList +
            (if bulleted then (if place.opens then 0 else 1) + glued .inside node else glued place node) =
          (if bulleted then 1 else 0) + bulletCount node := by
  cases bulleted with
  | true =>
    rw [toList_itemText]
    refine ⟨counted.settles.marked, ?_⟩
    intro place free
    obtain ⟨after, dashes⟩ := written_marker free
    have inner := counted.dashes .inside (by decide)
    rw [dashes_append, after, dashes]
    simp only [if_true]
    split <;> omega
  | false =>
    refine ⟨counted.settles, ?_⟩
    intro place free
    change place.dashes node.plainText.toList + _ = _
    simpa using counted.dashes place free

private theorem counted_row (quiet : Quiet between.toList) {nodes : List Node} (each : ∀ node ∈ nodes, Counted node) :
    Settles (between.intercalate (nodes.map fun node => itemText bulleted node.plainText)).toList ∧
      ∀ place, place ≠ dash →
        place.dashes (between.intercalate (nodes.map fun node => itemText bulleted node.plainText)).toList +
            gluedRow between bulleted place nodes =
          (if bulleted then nodes.length else 0) + bulletCounts nodes := by
  refine ⟨settles_intercalate quiet fun text member => ?_, ?_⟩
  · obtain ⟨node, place, rfl⟩ := List.mem_map.mp member
    exact ((each node place).itemText bulleted).1
  induction nodes with
  | nil =>
    intro place free
    cases bulleted <;> rfl
  | cons node rest ih =>
    intro place free
    rw [List.forall_mem_cons] at each
    obtain ⟨settles, item⟩ := each.1.itemText bulleted
    have first := item place free
    have next : (place.after (itemText bulleted node.plainText).toList).after between.toList ≠ dash :=
      quiet.settles _ (settles place free)
    have later := ih each.2 _ next
    rw [List.map_cons, dashes_intercalate_cons quiet free settles, gluedRow, bulletCounts, List.length_cons]
    cases bulleted <;> simp only [if_true, if_false, Bool.false_eq_true] at first later ⊢ <;> omega

end row

section blocks

variable {between : String}

private theorem plainTexts_eq_map (nodes : List Node) :
    plainTexts nodes = nodes.map fun node => (node.isInline, node.plainText) := by
  induction nodes with
  | nil => rfl
  | cons node rest ih => rw [plainTexts, ih, List.map_cons]

private theorem dashes_run (quiet : Quiet between.toList) {run : String} (keeps : ¬ EndsInDash run.toList)
    {place : Place} (free : place ≠ dash) (texts : List String) :
    (if run.isBlank then place else (place.after run.trimmed.toList).after between.toList) ≠ dash ∧
      place.dashes (between.intercalate ((if run.isBlank then [] else [run.trimmed]) ++ texts)).toList =
        place.trimming.dashes run.toList +
          (if run.isBlank then place else (place.after run.trimmed.toList).after between.toList).dashes
            (between.intercalate texts).toList := by
  cases blank : run.isBlank with
  | true =>
    refine ⟨free, ?_⟩
    rw [dashes_blank (by simp [trimming]) (List.all_eq_true.mp blank), Nat.zero_add]
    rfl
  | false =>
    have ends : Settles run.trimmed.toList := fun place free => run.toList_trimmed ▸ (written_trim keeps free).1
    simp only [Bool.false_eq_true, if_false]
    refine ⟨quiet.settles _ (ends place free), ?_⟩
    rw [List.singleton_append, dashes_intercalate_cons quiet free ends, String.toList_trimmed, (written_trim keeps free).2]

private theorem settles_blockLines {nodes : List Node} (each : ∀ node ∈ nodes, Counted node) {run : String}
    (keep : ∀ whole ∈ runs run (plainTexts nodes), ¬ EndsInDash whole.toList) :
    ∀ line ∈ blockLines run (plainTexts nodes), Settles line.toList := by
  have ended {run : String} (keeps : ¬ EndsInDash run.toList) :
      ∀ line ∈ if run.isBlank then [] else [run.trimmed], Settles line.toList := by
    intro line member place free
    split at member
    next => exact absurd member (by simp)
    next =>
      rw [List.mem_singleton.mp member, String.toList_trimmed]
      exact (written_trim keeps free).1
  induction nodes generalizing run with
  | nil => exact ended (keep run List.mem_cons_self)
  | cons node rest ih =>
    obtain ⟨first, later⟩ := List.forall_mem_cons.mp each
    rw [plainTexts] at keep ⊢
    cases inline : node.isInline with
    | true =>
      rw [inline] at keep
      exact ih later keep
    | false =>
      rw [inline, runs, List.forall_mem_cons] at keep
      rw [blockLines, List.forall_mem_append, List.forall_mem_cons]
      exact ⟨ended keep.1, first.settles, ih later keep.2⟩

private theorem dashes_blockLines (quiet : Quiet between.toList) {nodes : List Node}
    (each : ∀ node ∈ nodes, Counted node)
    {run : String} (settles : Settles run.toList) (keep : ∀ whole ∈ runs run (plainTexts nodes), ¬ EndsInDash whole.toList)
    {place : Place} (free : place ≠ dash) :
    place.dashes (between.intercalate (blockLines run (plainTexts nodes))).toList + gluedBlocks between place run nodes =
      place.trimming.dashes run.toList + bulletCounts nodes := by
  have trimming (place : Place) : place.trimming ≠ dash := by simp [Place.trimming]
  induction nodes generalizing run place with
  | nil =>
    have written := (dashes_run quiet (keep run List.mem_cons_self) free []).2
    rw [List.append_nil] at written
    rw [plainTexts, blockLines, written]
    rfl
  | cons node rest ih =>
    obtain ⟨first, later⟩ := List.forall_mem_cons.mp each
    rw [plainTexts] at keep ⊢
    rw [gluedBlocks, bulletCounts]
    cases inline : node.isInline with
    | true =>
      rw [inline] at keep
      -- The run goes on, and the node is written where it has come to.
      have longer : Settles (run ++ node.plainText).toList := by
        rw [String.toList_append]
        exact settles.append first.settles
      have own := first.dashes _ (settles _ (trimming place))
      have whole := ih later longer keep free
      rw [String.toList_append, dashes_append] at whole
      rw [blockLines, if_pos rfl]
      omega
    | false =>
      rw [inline, runs, List.forall_mem_cons] at keep
      obtain ⟨begins, written⟩ := dashes_run quiet keep.1 free (node.plainText :: blockLines "" (plainTexts rest))
      have own := first.dashes _ begins
      have next := ih later (show Settles "".toList from settles_nil) keep.2 (quiet.settles _ (first.settles _ begins))
      rw [blockLines, written, dashes_intercalate_cons quiet begins first.settles, if_neg Bool.false_ne_true]
      simp only [String.toList_empty, dashes_nil, Nat.zero_add] at next
      dsimp only
      omega

end blocks

section fields

/-- A second text behind a first, with a text between them only where both say something. -/
def joined (between left right : String) : String :=
  if left.isEmpty then right else if right.isEmpty then left else left ++ between ++ right

variable {between : String}

private theorem settles_joined (quiet : Quiet between.toList) {left right : String} (one : Settles left.toList)
    (two : Settles right.toList) : Settles (joined between left right).toList := by
  unfold joined
  split
  · exact two
  · split
    · exact one
    · rw [String.toList_append, String.toList_append]
      exact (one.append quiet.settles).append two

private theorem behind_ne_dash (quiet : Quiet between.toList) {text : String} (settles : Settles text.toList)
    {place : Place} (free : place ≠ dash) : behind place text between ≠ dash := by
  unfold behind
  split
  · exact free
  · exact quiet.settles _ (settles place free)

private theorem dashes_joined (quiet : Quiet between.toList) {left : String} (settles : Settles left.toList)
    (right : String) {place : Place} (free : place ≠ dash) :
    place.dashes (joined between left right).toList =
      place.dashes left.toList + (behind place left between).dashes right.toList := by
  unfold joined behind
  split
  next none => simp [String.isEmpty_iff.mp none]
  next =>
    split
    next none => simp [String.isEmpty_iff.mp none]
    next =>
      rw [String.toList_append, String.toList_append, dashes_append, dashes_append,
        quiet.dashes _ (settles place free), Nat.add_zero, after_append]

end fields

section walk

private theorem quiet_newline : Quiet "\n".toList :=
  quiet_blank (by simp [Text.isSpace])

private theorem quiet_gap : Quiet "\n\n".toList :=
  quiet_blank (by simp [Text.isSpace])

private theorem quiet_comma : Quiet ", ".toList :=
  Undashed.quiet ⟨by decide, by decide, by decide⟩

private theorem Counted.of_quiet {node : Node} (quiet : Quiet node.plainText.toList)
    (none : ∀ place, glued place node = 0) (empty : bulletCount node = 0) : Counted node := by
  refine ⟨quiet.settles, ?_⟩
  intro place free
  rw [quiet.dashes place free, none, empty]

private theorem counted_blocks {between : String} (quiet : Quiet between.toList) {nodes : List Node}
    (each : ∀ node ∈ nodes, Counted node) (keep : KeepsMarkers nodes) :
    Settles (between.intercalate (blockLines "" (plainTexts nodes))).toList ∧
      ∀ place, place ≠ dash →
        place.dashes (between.intercalate (blockLines "" (plainTexts nodes))).toList + gluedBlocks between place "" nodes =
          bulletCounts nodes := by
  refine ⟨settles_intercalate quiet (settles_blockLines each keep), ?_⟩
  intro place free
  rw [dashes_blockLines quiet each (show Settles "".toList from settles_nil) keep free]
  exact Nat.zero_add _

private theorem counted_header (name : String) (lines : List String) (contacts : List Node)
    (own : ∀ text ∈ name :: lines, Undashed text.toList) : Counted (.header name lines contacts) := by
  rw [List.forall_mem_cons] at own
  refine .of_quiet ?_ (fun _ => rfl) rfl
  rw [plainText]
  split
  · exact own.1.quiet
  · rw [String.toList_append, String.toList_append]
    have bar : Quiet " | ".toList := Undashed.quiet ⟨by decide, by decide, by decide⟩
    exact (own.1.quiet.append quiet_newline).append (quiet_intercalate bar fun line member => (own.2 line member).quiet)

private theorem counted_titled {title : String} {body : List Node} (own : Undashed title.toList)
    (each : ∀ node ∈ body, Counted node) (keep : KeepsMarkers body) : Counted (.titled title body) := by
  obtain ⟨settles, dashes⟩ := counted_blocks quiet_newline each keep
  have heading : Quiet title.inUpperCase.toList := by
    rw [String.inUpperCase, String.toList_ofList]
    exact own.upper.quiet
  have opening := heading.append quiet_newline
  constructor
  · rw [plainText]
    split
    · exact heading.settles
    · rw [String.toList_append, String.toList_append]
      exact opening.settles.append settles
  · intro place free
    have below := dashes _ (opening.settles place free)
    rw [plainText, glued, bulletCount]
    rw [after_append] at below
    split
    next none =>
      rw [String.isEmpty_iff.mp none] at below
      rw [heading.dashes place free, ← below]
      rfl
    next =>
      rw [String.toList_append, String.toList_append, dashes_append, opening.dashes place free, after_append, Nat.zero_add]
      exact below

private theorem counted_entry {primary secondary tertiary quaternary : Node} (one : Counted primary)
    (two : Counted secondary)
    (three : Counted tertiary) (four : Counted quaternary) : Counted (.entry primary secondary tertiary quaternary) := by
  have upper : Settles (joinFields primary.plainText secondary.plainText).toList :=
    settles_joined quiet_comma one.settles two.settles
  have lower : Settles (joinFields tertiary.plainText quaternary.plainText).toList :=
    settles_joined quiet_comma three.settles four.settles
  constructor
  · rw [plainText]
    exact settles_joined quiet_newline upper lower
  · intro place free
    have row (place : Place) (left : String) (settles : Settles left.toList) (right : String) (free : place ≠ dash) :
        place.dashes (joinFields left right).toList =
          place.dashes left.toList + (behind place left ", ").dashes right.toList :=
      dashes_joined quiet_comma settles right free
    have rows : place.dashes (joinRows (joinFields primary.plainText secondary.plainText)
        (joinFields tertiary.plainText quaternary.plainText)).toList = _ :=
      dashes_joined quiet_newline upper _ free
    have next := behind_ne_dash quiet_newline upper free
    rw [row place _ one.settles _ free, row _ _ three.settles _ next] at rows
    rw [plainText, rows, glued, bulletCount, ← one.dashes place free,
      ← two.dashes _ (behind_ne_dash quiet_comma one.settles free), ← three.dashes _ next,
      ← four.dashes _ (behind_ne_dash quiet_comma three.settles next)]
    omega

private theorem join_eq_intercalate (texts : List String) : String.join texts = "".intercalate texts := by
  induction texts with
  | nil => rfl
  | cons text texts ih =>
    rw [String.join_cons, ih]
    cases texts with
    | nil => simp
    | cons second texts =>
      have whole : "".intercalate (text :: second :: texts) = text ++ "" ++ "".intercalate (second :: texts) :=
        String.intercalate_cons_of_ne_nil (by simp)
      rw [whole, String.append_empty]

private theorem counted_texts {between : String} (quiet : Quiet between.toList) {nodes : List Node}
    (each : ∀ node ∈ nodes, Counted node) :
    Settles (between.intercalate ((plainTexts nodes).map (·.2))).toList ∧
      ∀ place, place ≠ dash →
        place.dashes (between.intercalate ((plainTexts nodes).map (·.2))).toList + gluedRow between false place nodes =
          bulletCounts nodes := by
  obtain ⟨settles, dashes⟩ := counted_row false quiet each
  have same : (plainTexts nodes).map (·.2) = nodes.map fun node => itemText false node.plainText := by
    rw [plainTexts_eq_map, List.map_map]
    rfl
  rw [same]
  refine ⟨settles, ?_⟩
  intro place free
  rw [dashes place free]
  exact Nat.zero_add _

mutual

theorem counted (node : Node) (own : node.Unmistakable) (below : AllUnmistakable node.children) : Counted node := by
  cases node with
  | text value => exact .of_quiet (own.strings value (by simp [strings])).quiet (fun _ => rfl) rfl
  | lineBreak => exact .of_quiet quiet_newline (fun _ => rfl) rfl
  | separator => exact .of_quiet (Undashed.quiet ⟨by decide, by decide, by decide⟩) (fun _ => rfl) rfl
  | styled style child =>
    obtain ⟨inside, deeper, _⟩ := allUnmistakable_cons.mp below
    exact ⟨(counted child inside deeper).settles, (counted child inside deeper).dashes⟩
  | link href label =>
    obtain ⟨inside, deeper, _⟩ := allUnmistakable_cons.mp below
    exact ⟨(counted label inside deeper).settles, (counted label inside deeper).dashes⟩
  | header name lines contacts => exact counted_header name lines contacts own.strings
  | titled title body =>
    exact counted_titled (own.strings title (by simp [strings])) (counted_all body below) own.blocks
  | entry primary secondary tertiary quaternary =>
    obtain ⟨one, first, others⟩ := allUnmistakable_cons.mp below
    obtain ⟨two, second, others⟩ := allUnmistakable_cons.mp others
    obtain ⟨three, third, others⟩ := allUnmistakable_cons.mp others
    obtain ⟨four, fourth, _⟩ := allUnmistakable_cons.mp others
    exact counted_entry (counted primary one first) (counted secondary two second) (counted tertiary three third)
      (counted quaternary four fourth)
  | itemList bulleted items =>
    obtain ⟨settles, dashes⟩ := counted_row bulleted quiet_newline (counted_all items below)
    have same : (plainTexts items).map (fun item => if bulleted then "- " ++ item.2 else item.2) =
        items.map fun node => itemText bulleted node.plainText := by
      rw [plainTexts_eq_map, List.map_map]
      rfl
    constructor
    · rwa [plainText, same]
    · rwa [plainText, same]
  | columnGroup columns =>
    obtain ⟨settles, dashes⟩ := counted_texts quiet_gap (counted_all columns below)
    exact ⟨settles, dashes⟩
  | centered body =>
    obtain ⟨settles, dashes⟩ := counted_blocks quiet_newline (counted_all body below) own.blocks
    exact ⟨settles, dashes⟩
  | fragment children =>
    have nothing : Quiet "".toList := quiet_blank (List.forall_mem_nil _)
    obtain ⟨settles, dashes⟩ := counted_texts nothing (counted_all children below)
    constructor
    · rwa [plainText, join_eq_intercalate]
    · rwa [plainText, join_eq_intercalate]
termination_by structural node

private theorem counted_all (nodes : List Node) (all : AllUnmistakable nodes) : ∀ node ∈ nodes, Counted node := by
  cases nodes with
  | nil => exact List.forall_mem_nil _
  | cons node rest =>
    obtain ⟨own, below, others⟩ := allUnmistakable_cons.mp all
    exact List.forall_mem_cons.mpr ⟨counted node own below, counted_all rest others⟩
termination_by structural nodes

end

end walk

section apart

mutual

private theorem glued_le (place : Place) (node : Node) : glued place node ≤ bulletCount node := by
  cases node with
  | header | lineBreak | separator | text => exact Nat.le_refl 0
  | styled style child => exact glued_le place child
  | link href label => exact glued_le place label
  | titled title body => exact gluedBlocks_le _ _ _ body
  | centered body => exact gluedBlocks_le _ _ _ body
  | entry primary secondary tertiary quaternary =>
    rw [glued, bulletCount]
    exact Nat.add_le_add (Nat.add_le_add (glued_le _ primary) (glued_le _ secondary))
      (Nat.add_le_add (glued_le _ tertiary) (glued_le _ quaternary))
  | itemList bulleted items =>
    rw [glued, bulletCount]
    exact gluedRow_le _ bulleted _ items
  | columnGroup columns =>
    have bound := gluedRow_le "\n\n" false place columns
    simpa [glued, bulletCount] using bound
  | fragment children =>
    have bound := gluedRow_le "" false place children
    simpa [glued, bulletCount] using bound
termination_by structural node

private theorem gluedRow_le (between : String) (bulleted : Bool) (place : Place) (nodes : List Node) :
    gluedRow between bulleted place nodes ≤ (if bulleted then nodes.length else 0) + bulletCounts nodes := by
  cases nodes with
  | nil =>
    rw [gluedRow]
    exact Nat.zero_le _
  | cons node rest =>
    have here := glued_le place node
    have inside := glued_le .inside node
    have later := gluedRow_le between bulleted
      ((place.after (itemText bulleted node.plainText).toList).after between.toList) rest
    rw [gluedRow, bulletCounts, List.length_cons]
    cases bulleted with
    | true =>
      simp only [if_true] at later ⊢
      split <;> omega
    | false =>
      simp only [Bool.false_eq_true, if_false] at later ⊢
      omega
termination_by structural nodes

private theorem gluedBlocks_le (between : String) (place : Place) (run : String) (nodes : List Node) :
    gluedBlocks between place run nodes ≤ bulletCounts nodes := by
  cases nodes with
  | nil =>
    rw [gluedBlocks]
    exact Nat.zero_le _
  | cons node rest =>
    rw [gluedBlocks, bulletCounts]
    split
    · exact Nat.add_le_add (glued_le _ node) (gluedBlocks_le _ _ _ rest)
    · exact Nat.add_le_add (glued_le _ node) (gluedBlocks_le _ _ _ rest)
termination_by structural nodes

end

/-- Bulleted lists stand among blocks, and none inside the items of another, in fields of entries or in lines. -/
inductive SetApart : Node → Prop
  | silent {node : Node} : bulletCount node = 0 → SetApart node
  | list {bulleted : Bool} {items : List Node} : bulletCounts items = 0 → SetApart (.itemList bulleted items)
  | titled {title : String} {body : List Node} : (∀ node ∈ body, SetApart node) → SetApart (.titled title body)
  | centered {body : List Node} : (∀ node ∈ body, SetApart node) → SetApart (.centered body)
  | columnGroup {columns : List Node} : (∀ node ∈ columns, SetApart node) → SetApart (.columnGroup columns)

private theorem opens_after_newline {place : Place} (opens : place.opens = true) (text : List Char) :
    ((place.after text).after "\n".toList).opens = true := by
  have other : place ≠ .run false := by
    rintro rfl
    exact Bool.false_ne_true opens
  have reached : place.after text ≠ .run false := after_ne_run other text
  generalize place.after text = place at reached
  cases place with
  | run opens =>
    cases opens with
    | true => rfl
    | false => exact absurd rfl reached
  | start | dash | inside => rfl

private theorem gluedRow_of_silent {items : List Node} (silent : bulletCounts items = 0) (bulleted : Bool)
    {place : Place} (opens : place.opens = true) : gluedRow "\n" bulleted place items = 0 := by
  induction items generalizing place with
  | nil => rfl
  | cons item rest ih =>
    rw [bulletCounts] at silent
    have here := glued_le place item
    have inside := glued_le .inside item
    have later := ih (by omega) (opens_after_newline opens (itemText bulleted item.plainText).toList)
    rw [gluedRow, later]
    cases bulleted with
    | true =>
      rw [if_pos rfl, if_pos opens]
      omega
    | false =>
      rw [if_neg Bool.false_ne_true]
      omega

private theorem opens_after_gap {place : Place} (opens : place.opens = true) (text : List Char) :
    ((place.after text).after "\n\n".toList).opens = true := by
  have next : ((place.after (text ++ ['\n'])).after "\n".toList).opens = true := opens_after_newline opens _
  rwa [after_append] at next

private theorem SetApart.of_isInline {node : Node} (apart : SetApart node) (inline : node.isInline = true) :
    bulletCount node = 0 := by
  cases apart with
  | silent none => exact none
  | list | titled | centered | columnGroup => exact absurd inline Bool.false_ne_true

/-- Lines of a body that begin where a line does. -/
theorem gluedBlocks_of_setApart {between : String}
    (opening : ∀ (place : Place) (text : List Char), place.opens = true →
      ((place.after text).after between.toList).opens = true) {nodes : List Node}
    (apart : ∀ node ∈ nodes, SetApart node)
    (each : ∀ node ∈ nodes, ∀ place : Place, place.opens = true → glued place node = 0) (run : String) {place : Place}
    (opens : place.opens = true) : gluedBlocks between place run nodes = 0 := by
  induction nodes generalizing run place with
  | nil => rfl
  | cons node rest ih =>
    rw [List.forall_mem_cons] at apart each
    rw [gluedBlocks]
    split
    next inline =>
      have bound := glued_le (place.trimming.after run.toList) node
      rw [apart.1.of_isInline inline] at bound
      rw [Nat.le_zero.mp bound, ih apart.2 each.2 _ opens]
    next =>
      have begins : (if run.isBlank then place else (place.after run.trimmed.toList).after between.toList).opens = true := by
        split
        · exact opens
        · exact opening place _ opens
      dsimp only
      rw [each.1 _ begins, Nat.zero_add]
      exact ih apart.2 each.2 "" (opening _ _ begins)

private theorem SetApart.glued_eq_zero {node : Node} (apart : SetApart node) :
    ∀ place : Place, place.opens = true → glued place node = 0 := by
  induction apart with
  | @silent node none =>
    intro place opens
    have bound := glued_le place node
    omega
  | list silent =>
    intro place opens
    exact gluedRow_of_silent silent _ opens
  | titled apart each =>
    intro place opens
    exact gluedBlocks_of_setApart (fun _ text begins => opens_after_newline begins text) apart each ""
      (opens_after_newline opens _)
  | centered apart each =>
    intro place opens
    exact gluedBlocks_of_setApart (fun _ text begins => opens_after_newline begins text) apart each "" opens
  | @columnGroup columns apart each =>
    intro place opens
    change gluedRow "\n\n" false place columns = 0
    clear apart
    induction columns generalizing place with
    | nil => rfl
    | cons column rest ih =>
      rw [List.forall_mem_cons] at each
      rw [gluedRow, if_neg Bool.false_ne_true, each.1 place opens]
      exact (Nat.zero_add _).trans (ih each.2 _ (opens_after_gap opens _))

end apart

end Node

open Node

/-- No string in the document is a marker, and what trims its plain text or a run in it leaves the markers whole. -/
structure Document.Unmistakable (document : Document) : Prop where
  nodes : AllUnmistakable document.tree
  blocks : KeepsMarkers document.tree
  text : ¬ EndsInDash document.toText.toList

/-- Skills, the first of them without a name yet and the second with more to say. -/
def skills (more : List Node) : Document :=
  { tree := [.itemList true [.fragment [], .fragment (.text "Languages" :: more), .text "Git"]] }

private theorem allUnmistakable_text {value : String} (undashed : Undashed value.toList) {rest : List Node}
    (later : AllUnmistakable rest) : AllUnmistakable (.text value :: rest) :=
  allUnmistakable_cons.mpr ⟨⟨List.forall_mem_singleton.mpr undashed, keepsMarkers_nil⟩, List.forall_mem_nil _, later⟩

private theorem allUnmistakable_silent (node : Node) (strings : node.strings = []) (blocks : node.blocks = [])
    {rest : List Node} (inside : AllUnmistakable node.children) (later : AllUnmistakable rest) :
    AllUnmistakable (node :: rest) :=
  allUnmistakable_cons.mpr ⟨⟨strings ▸ List.forall_mem_nil _, blocks ▸ keepsMarkers_nil⟩, inside, later⟩

private theorem unmistakable_skills {more : List Node} (inside : AllUnmistakable more)
    (text : ¬ EndsInDash (skills more).toText.toList) : (skills more).Unmistakable := by
  have none : AllUnmistakable [] := List.forall_mem_nil _
  have git : AllUnmistakable [.text "Git"] := allUnmistakable_text ⟨by decide, by decide, by decide⟩ none
  have languages : AllUnmistakable (.text "Languages" :: more) :=
    allUnmistakable_text ⟨by decide, by decide, by decide⟩ inside
  have items := allUnmistakable_silent (.fragment []) rfl rfl none
    (allUnmistakable_silent (.fragment (.text "Languages" :: more)) rfl rfl languages git)
  have blocks : KeepsMarkers (skills more).tree :=
    List.forall_mem_cons.mpr ⟨by decide, List.forall_mem_singleton.mpr (by decide)⟩
  exact ⟨allUnmistakable_silent (.itemList true _) rfl rfl items none, blocks, text⟩

end Vitae
