import Vitae.Proofs.AlikeWalks
import Vitae.Proofs.HtmlOutput

/-! Entry groups in the body of a section. A body has one segmentation into entries with the lists directly behind them
and the stretches between; its HTML is that of the segments one behind the other, the groups each in a division of their
own, and no paragraph reaches over a cut. -/

namespace Vitae.Html

open Render

/-- An entry with lists behind it, or a stretch of other nodes. -/
inductive Segment where
  | group (entry : Node) (lists : List Node)
  | stretch (nodes : List Node)

namespace Segment

def nodes : Segment → List Node
  | .group entry lists => entry :: lists
  | .stretch nodes => nodes

def isGroup : Segment → Bool
  | .group _ _ => true
  | .stretch _ => false

/-- A group is an entry and nothing but lists; a stretch is some nodes, none of them an entry. -/
def Sound : Segment → Prop
  | .group entry lists => entry.kind = .entry ∧ ∀ list ∈ lists, list.kind = .itemList
  | .stretch nodes => nodes ≠ [] ∧ ∀ node ∈ nodes, node.kind ≠ .entry

/-- The segment could not go on with a node of this kind. -/
def EndsBefore : Segment → NodeKind → Prop
  | .group _ _, kind => kind ≠ .itemList
  | .stretch _, kind => kind = .entry

end Segment

/-- The segments make up the body, each as long as it can be. -/
inductive Segmentation : List Node → List Segment → Prop
  | nil : Segmentation [] []
  | cons {segment : Segment} {body : List Node} {segments : List Segment} (sound : segment.Sound)
      (ends : ∀ node, body.head? = some node → segment.EndsBefore node.kind) (tail : Segmentation body segments) :
      Segmentation (segment.nodes ++ body) (segment :: segments)

section segmentation

def isList (node : Node) : Bool :=
  node.kind = .itemList

def isOther (node : Node) : Bool :=
  node.kind ≠ .entry

/-- The body cut where an entry begins and where the lists behind one end. -/
def segmented : List Node → List Segment
  | [] => []
  | node :: rest =>
    if isOther node then .stretch (node :: rest.takeWhile isOther) :: segmented (rest.dropWhile isOther)
    else .group node (rest.takeWhile isList) :: segmented (rest.dropWhile isList)
termination_by nodes => nodes.length
decreasing_by
  all_goals exact Nat.lt_succ_of_le (List.dropWhile_sublist _).length_le

private theorem segmented_entry {entry : Node} (kind : isOther entry = false) (rest : List Node) :
    segmented (entry :: rest) = .group entry (rest.takeWhile isList) :: segmented (rest.dropWhile isList) := by
  rw [segmented, if_neg (by simp [kind])]

private theorem segmented_other {node : Node} (other : isOther node = true) (rest : List Node) :
    segmented (node :: rest) = .stretch (node :: rest.takeWhile isOther) :: segmented (rest.dropWhile isOther) := by
  rw [segmented, if_pos other]

private theorem run_append (belongs : Node → Bool) {run rest : List Node} (all : ∀ node ∈ run, belongs node = true)
    (stop : ∀ node, rest.head? = some node → belongs node = false) :
    (run ++ rest).takeWhile belongs = run ∧ (run ++ rest).dropWhile belongs = rest := by
  rw [List.takeWhile_append_of_pos all, List.dropWhile_append_of_pos all]
  cases rest with
  | nil => simp
  | cons node rest => simp [stop node rfl]

private theorem belongs_of_mem_takeWhile {belongs : Node → Bool} {nodes : List Node} {node : Node}
    (member : node ∈ nodes.takeWhile belongs) : belongs node = true :=
  List.all_eq_true.mp List.all_takeWhile node member

private theorem not_belongs_of_head?_dropWhile {belongs : Node → Bool} {nodes : List Node} {node : Node}
    (first : (nodes.dropWhile belongs).head? = some node) : belongs node = false := by
  have stop := List.head?_dropWhile_not belongs nodes
  rwa [first] at stop

private theorem segmentation_segmented (body : List Node) : Segmentation body (segmented body) := by
  fun_induction segmented body with
  | case1 => exact .nil
  | case2 node rest other ih =>
    have run : Segment.Sound (.stretch (node :: rest.takeWhile isOther)) := by
      refine ⟨List.cons_ne_nil _ _, fun inner member => ?_⟩
      rcases List.mem_cons.mp member with rfl | later
      · simpa [isOther] using other
      · simpa [isOther] using belongs_of_mem_takeWhile later
    have whole := Segmentation.cons run (fun node first => by
      simpa [Segment.EndsBefore, isOther] using not_belongs_of_head?_dropWhile first) ih
    rwa [Segment.nodes, List.cons_append, List.takeWhile_append_dropWhile] at whole
  | case3 entry rest kind ih =>
    have group : Segment.Sound (.group entry (rest.takeWhile isList)) :=
      ⟨by simpa [isOther] using kind, fun list member => by simpa [isList] using belongs_of_mem_takeWhile member⟩
    have whole := Segmentation.cons group (fun node first => by
      simpa [Segment.EndsBefore, isList] using not_belongs_of_head?_dropWhile first) ih
    rwa [Segment.nodes, List.cons_append, List.takeWhile_append_dropWhile] at whole

theorem Segmentation.sound {body : List Node} {segments : List Segment} (valid : Segmentation body segments) :
    ∀ segment ∈ segments, segment.Sound := by
  induction valid with
  | nil => simp
  | cons sound _ _ ih => exact List.forall_mem_cons.mpr ⟨sound, ih⟩

private theorem Segmentation.eq_segmented {body : List Node} {segments : List Segment}
    (valid : Segmentation body segments) :
    segments = segmented body := by
  induction valid with
  | nil => rw [segmented]
  | @cons segment body segments sound ends _ ih =>
    cases segment with
    | group entry lists =>
      obtain ⟨kind, listed⟩ := sound
      obtain ⟨taken, left⟩ := run_append isList (fun list member => by simpa [isList] using listed list member)
        (fun node first => by simpa [Segment.EndsBefore, isList] using ends node first)
      rw [Segment.nodes, List.cons_append, segmented_entry (by simp [isOther, kind]), taken, left, ← ih]
    | stretch nodes =>
      obtain ⟨some, others⟩ := sound
      obtain ⟨node, nodes, rfl⟩ := List.exists_cons_of_ne_nil some
      rw [List.forall_mem_cons] at others
      obtain ⟨taken, left⟩ := run_append isOther
        (fun inner member => by simpa [isOther] using others.2 inner member)
        (fun inner first => by simpa [Segment.EndsBefore, isOther] using ends inner first)
      rw [Segment.nodes, List.cons_append, segmented_other (by simpa [isOther] using others.1), taken, left, ← ih]

private theorem Segmentation.countP_isGroup {body : List Node} {segments : List Segment}
    (valid : Segmentation body segments) :
    segments.countP Segment.isGroup = body.countP (·.kind = .entry) := by
  induction valid with
  | nil => rfl
  | @cons segment body segments sound _ _ ih =>
    rw [List.countP_cons, List.countP_append, ih, Nat.add_comm]
    congr 1
    cases segment with
    | group entry lists =>
      obtain ⟨kind, listed⟩ := sound
      have none : lists.countP (·.kind = .entry) = 0 := by
        rw [List.countP_eq_zero]
        intro list member
        simp [listed list member]
      simp [Segment.nodes, Segment.isGroup, kind, none]
    | stretch nodes =>
      have none : nodes.countP (·.kind = .entry) = 0 := by
        rw [List.countP_eq_zero]
        intro node member
        simp [sound.2 node member]
      simp [Segment.nodes, Segment.isGroup, none]

end segmentation

section pieces

variable (options : RenderOptions)

/-- The pieces of a node where no visitor acts. -/
def plainPieces (node : Node) : List Piece :=
  ((pieces options ({} : Visitor Unit) node).run { memory := () }).1

/-- What has been counted before makes no difference to them. -/
theorem always_plainPieces (node : Node) :
    Always (· = plainPieces options node) (pieces options ({} : Visitor Unit) node) := by
  have alike : Alike (pieces options ({} : Visitor Unit) node) (pieces options {} node) := alike_pieces node
  exact fun session => (alike session { memory := () } rfl).1

private theorem always_allPieces_eq (nodes : List Node) :
    Always (· = nodes.flatMap (plainPieces options)) (allPieces options ({} : Visitor Unit) nodes) := by
  induction nodes with
  | nil => exact always_pure rfl
  | cons node rest ih =>
    rw [allPieces]
    refine (always_plainPieces options node).bind fun first one => ih.bind fun later two => always_pure ?_
    rw [one, two, List.flatMap_cons]

private theorem always_members_eq (nodes : List Node) :
    Always (· = nodes.map fun node => (node.kind, plainPieces options node))
      (members options ({} : Visitor Unit) nodes) := by
  induction nodes with
  | nil => exact always_pure rfl
  | cons node rest ih =>
    rw [members]
    refine (always_plainPieces options node).bind fun first one => ih.bind fun later two => always_pure ?_
    rw [one, two, List.map_cons]

private theorem plainPieces_block {node : Node} (kind : node.kind = .entry ∨ node.kind = .itemList) :
    ∃ text, text ≠ "" ∧ plainPieces options node = [.block text] := by
  have placed (style content : String) : division "div" style content ≠ "" := by
    simp [division, classed]
  have block {content : Walk Unit String} (inside : Always (· ≠ "") content) :
      Always (fun pieces => ∃ text, text ≠ "" ∧ pieces = [.block text]) (blockPiece options {} node content) :=
    (always_consult node inside).bind fun text some => always_pure ⟨text, some, rfl⟩
  have all {α : Type} (walk : Walk Unit α) : Always (fun _ => True) walk := fun _ => trivial
  suffices whole : Always (fun pieces => ∃ text, text ≠ "" ∧ pieces = [.block text])
      (pieces options ({} : Visitor Unit) node) from whole _
  cases node with
  | entry primary secondary tertiary quaternary =>
    rw [pieces]
    refine block (always_field (all _) _ fun first _ _ => ?_)
    refine always_field (all _) _ fun second _ _ => ?_
    refine always_field (all _) _ fun third _ _ => ?_
    exact always_field (all _) _ fun fourth _ _ => always_pure (placed _ _)
  | itemList bulleted items =>
    rw [pieces]
    refine block ((all _).bind fun shown _ => always_pure ?_)
    simp [division, classed]
  | _ => simp [Node.kind] at kind

end pieces

section layouts

private theorem paragraph_empty : paragraph "" = "" :=
  rfl

private theorem layout_append_block (run : String) (before : List Piece) (text : String) (behind : List Piece) :
    layout paragraph run (before ++ .block text :: behind) =
      layout paragraph run before ++ text ++ layout paragraph "" behind := by
  induction before generalizing run with
  | nil => rfl
  | cons piece before ih =>
    cases piece with
    | inline other => exact ih (run ++ other)
    | block other =>
      rw [List.cons_append, layout, ih, layout]
      simp only [String.append_assoc]

private theorem flowLayout_block (text : String) (behind : List Piece) :
    flowLayout (.block text :: behind) = text ++ flowLayout behind := by
  rw [flowLayout, layout, paragraph_empty, String.empty_append, flowLayout]

private theorem flowLayout_append_block (before : List Piece) (text : String) (behind : List Piece) :
    flowLayout (before ++ .block text :: behind) = flowLayout before ++ flowLayout (.block text :: behind) := by
  rw [flowLayout_block, ← String.append_assoc]
  exact layout_append_block "" before text behind

private theorem flowLayout_block_append (before : List Piece) (text : String) (behind : List Piece) :
    flowLayout (before ++ [.block text] ++ behind) = flowLayout (before ++ [.block text]) ++ flowLayout behind := by
  rw [List.append_assoc, List.singleton_append, flowLayout_append_block, flowLayout_append_block, flowLayout_block,
    flowLayout_block, String.append_assoc, String.append_assoc]
  rfl

variable (options : RenderOptions)

/-- What a sequence shows where blocks may stand. -/
def flowText (nodes : List Node) : String :=
  flowLayout (nodes.flatMap (plainPieces options))

/-- No cut goes through a run of inline nodes: a group ends with a block, and behind a stretch one begins. -/
theorem flowText_append {segment : Segment} {body : List Node} (sound : segment.Sound)
    (ends : ∀ node, body.head? = some node → segment.EndsBefore node.kind) :
    flowText options (segment.nodes ++ body) = flowText options segment.nodes ++ flowText options body := by
  cases segment with
  | group entry lists =>
    obtain ⟨kind, listed⟩ := sound
    obtain ⟨before, last, whole⟩ : ∃ before last, entry :: lists = before ++ [last] :=
      ⟨_, _, (List.dropLast_concat_getLast (List.cons_ne_nil entry lists)).symm⟩
    have either : last.kind = .entry ∨ last.kind = .itemList := by
      have member : last ∈ entry :: lists := by simp [whole]
      rcases List.mem_cons.mp member with rfl | member
      · exact .inl kind
      · exact .inr (listed last member)
    obtain ⟨text, -, block⟩ := plainPieces_block options either
    simp only [Segment.nodes, whole, flowText, List.flatMap_append, List.flatMap_singleton, block]
    exact flowLayout_block_append _ text _
  | stretch nodes =>
    cases body with
    | nil => simp [flowText, flowLayout, layout, paragraph_empty]
    | cons node rest =>
      obtain ⟨text, -, block⟩ := plainPieces_block options (.inl (ends node rfl))
      simp only [Segment.nodes, flowText, List.flatMap_append, List.flatMap_cons, block]
      exact flowLayout_append_block _ text _

private theorem Segmentation.join_flowText {body : List Node} {segments : List Segment}
    (valid : Segmentation body segments) :
    String.join (segments.map fun segment => flowText options segment.nodes) = flowText options body := by
  induction valid with
  | nil => rfl
  | cons sound ends _ ih => rw [List.map_cons, String.join_cons, ih, flowText_append options sound ends]

end layouts

section sections

variable (options : RenderOptions)

def Segment.html (segment : Segment) : String :=
  segmentHtml (segment.isGroup, segment.nodes.flatMap (plainPieces options))

private theorem Segment.html_eq {segment : Segment} (sound : segment.Sound) :
    segment.html options =
      if segment.isGroup then division "div" "resume-group" (flowText options segment.nodes)
      else flowText options segment.nodes := by
  cases segment with
  | stretch nodes => rfl
  | group entry lists =>
    obtain ⟨text, some, block⟩ := plainPieces_block options (.inl sound.1)
    have shown : (flowText options (entry :: lists)).isEmpty = false := by
      rw [flowText, List.flatMap_cons, block, List.singleton_append, flowLayout_block]
      simp [some]
    exact if_neg (Bool.eq_false_iff.mp shown)

/-- The segment that is being gathered takes the nodes that belong to it, and the body is cut behind them. -/
theorem join_segments (grouped : Bool) (done : List Piece) (nodes : List Node) :
    String.join ((segments grouped done (nodes.map fun node => (node.kind, plainPieces options node))).map segmentHtml) =
      segmentHtml (grouped, done ++
          (nodes.takeWhile (if grouped then isList else isOther)).flatMap (plainPieces options)) ++
        String.join ((segmented (nodes.dropWhile (if grouped then isList else isOther))).map (Segment.html options)) := by
  induction nodes generalizing grouped done with
  | nil => simp [segments, segmented, String.join_cons]
  | cons node rest ih =>
    rw [List.map_cons, segments]
    by_cases belongs : (if grouped then isList else isOther) node = true
    · have stays : ¬ node.kind = .entry ∧ ¬ (grouped = true ∧ node.kind ≠ .itemList) := by
        cases grouped <;> simp_all [isList, isOther]
      rw [if_neg stays.1, if_neg stays.2, ih grouped, List.takeWhile_cons_of_pos belongs,
        List.dropWhile_cons_of_pos belongs, List.flatMap_cons, List.append_assoc]
    · rw [List.takeWhile_cons_of_neg belongs, List.dropWhile_cons_of_neg belongs]
      by_cases entry : node.kind = .entry
      · rw [if_pos entry, List.map_cons, String.join_cons, ih true, segmented_entry (by simp [isOther, entry])]
        simp [Segment.html, Segment.isGroup, Segment.nodes, List.flatMap_cons, String.join_cons]
      · have closed : grouped = true ∧ node.kind ≠ .itemList := by
          cases grouped <;> simp_all [isList, isOther]
        rw [if_neg entry, if_pos closed, List.map_cons, String.join_cons, ih false,
          segmented_other (by simp [isOther, entry]), closed.1]
        simp [Segment.html, Segment.isGroup, Segment.nodes, List.flatMap_cons, String.join_cons]

private theorem sectionBody_segmented (body : List Node) :
    sectionBody (body.map fun node => (node.kind, plainPieces options node)) =
      String.join ((segmented body).map (Segment.html options)) := by
  rw [sectionBody, join_segments]
  cases body with
  | nil => simp [segmented, segmentHtml, flowLayout, layout, paragraph_empty]
  | cons node rest =>
    cases other : isOther node with
    | true =>
      rw [segmented_other other]
      simp [other, Segment.html, Segment.isGroup, Segment.nodes, String.join_cons]
    | false => simp [other, segmentHtml, flowLayout, layout, paragraph_empty]

/-- The body of a section shows its segments one behind the other, each like a sequence of its own, where exactly the
groups are put into divisions, one for each entry that is a member of the body; without the divisions it shows what the
whole body shows as one sequence. -/
theorem sectionBody_members (body : List Node) (session : Session Unit) :
    let shown (nodes : List Node) := ((content options ({} : Visitor Unit) nodes).run { memory := () }).1
    ∃ segments, Segmentation body segments ∧ (∀ others, Segmentation body others → others = segments) ∧
      sectionBody ((members options ({} : Visitor Unit) body).run session).1 =
        String.join (segments.map fun segment =>
          if segment.isGroup then division "div" "resume-group" (shown segment.nodes) else shown segment.nodes) ∧
      segments.countP Segment.isGroup = body.countP (·.kind = .entry) ∧
      String.join (segments.map fun segment => shown segment.nodes) = shown body := by
  intro shown
  have same : shown = flowText options := by
    funext nodes
    have walk : Always (· = flowText options nodes) (content options ({} : Visitor Unit) nodes) :=
      (always_allPieces_eq options nodes).bind fun pieces own => always_pure (congrArg flowLayout own)
    exact walk _
  have valid := segmentation_segmented body
  refine ⟨segmented body, valid, fun others cut => cut.eq_segmented, ?_, valid.countP_isGroup, ?_⟩
  · rw [always_members_eq options body session, sectionBody_segmented, same]
    congr 1
    refine List.map_congr_left fun segment member => ?_
    exact Segment.html_eq options (valid.sound segment member)
  · rw [same]
    exact valid.join_flowText options

end sections

end Vitae.Html
