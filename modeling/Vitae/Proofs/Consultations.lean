import Vitae.Proofs.Visitors
import Vitae.Render.Html

/-! What rendering asks. A visitor is asked about the nodes of a tree in the order of the document, about each before those
below it, and the nodes that it lets proceed are counted. -/

namespace Vitae

namespace Node

/-- The children of a node without the fields of an entry that show nothing. -/
def shownChildren : Node → List Node
  | .entry primary secondary tertiary quaternary =>
    [primary, secondary, tertiary, quaternary].filter fun field => !field.isEmpty
  | node => node.children

private theorem shownChildren_sublist (node : Node) : node.shownChildren.Sublist node.children := by
  cases node with
  | entry => exact List.filter_sublist
  | _ => exact List.Sublist.refl _

theorem walkAll_append (nodes others : List Node) : walkAll (nodes ++ others) = walkAll nodes ++ walkAll others := by
  induction nodes with
  | nil => rfl
  | cons node nodes ih => rw [List.cons_append, walkAll, walkAll, ih, List.append_assoc]

private theorem walkAll_sublist {nodes others : List Node} (sublist : nodes.Sublist others) :
    (walkAll nodes).Sublist (walkAll others) := by
  induction sublist with
  | slnil => exact .slnil
  | cons node _ ih => exact ih.trans (List.sublist_append_right ..)
  | cons_cons node _ ih => exact (List.Sublist.refl _).append ih

end Node

namespace Visitor

variable {σ : Type} (visitor : Visitor σ)

/-- The nodes below a node that are asked about next, once the node itself has got its answer. -/
def askedBelow (node : Node) (action : Action) : List Node :=
  if action = .proceed then node.shownChildren else []

theorem askedBelow_proceed (node : Node) : askedBelow node .proceed = node.shownChildren :=
  if_pos rfl

private theorem askedBelow_of_ne {action : Action} (acts : action ≠ .proceed) (node : Node) :
    askedBelow node action = [] :=
  if_neg acts

private theorem walkAll_askedBelow_sublist (node : Node) (action : Action) (rest : List Node) :
    (Node.walkAll (askedBelow node action ++ rest)).Sublist (Node.walkAll (node.children ++ rest)) := by
  refine Node.walkAll_sublist (List.Sublist.append ?_ (List.Sublist.refl rest))
  unfold askedBelow
  split
  next => exact node.shownChildren_sublist
  next => exact List.nil_sublist _

theorem walkAll_cons_eq (node : Node) (rest : List Node) :
    Node.walkAll (node :: rest) = node :: Node.walkAll (node.children ++ rest) := by
  rw [Node.walkAll, Node.walk_eq_cons, Node.walkAll_append, List.cons_append]

/-- Asks about nodes, depth first and parents first, and gives each node it has asked about with the answer. A fragment
stands for its children, and nothing is asked about below a node that does not proceed. -/
def consulted : List Node → StateM σ (List (Node × Action))
  | [] => pure []
  | node :: rest =>
    if node.kind = .fragment then consulted (node.children ++ rest)
    else do
      let action ← visitor.dispatch node
      return (node, action) :: (← consulted (askedBelow node action ++ rest))
termination_by nodes => (Node.walkAll nodes).length
decreasing_by
  · rw [walkAll_cons_eq]
    exact Nat.lt_succ_self _
  · rw [walkAll_cons_eq]
    exact Nat.lt_succ_of_le (walkAll_askedBelow_sublist node action rest).length_le

private theorem consulted_cons {node : Node} (asked : node.kind ≠ .fragment) (rest : List Node) :
    visitor.consulted (node :: rest) = (do
      let action ← visitor.dispatch node
      return (node, action) :: (← visitor.consulted (askedBelow node action ++ rest))) := by
  rw [consulted, if_neg asked]

private theorem consulted_fragment (children rest : List Node) :
    visitor.consulted (.fragment children :: rest) = visitor.consulted (children ++ rest) := by
  rw [consulted]
  exact if_pos rfl

private theorem consulted_append (nodes others : List Node) :
    visitor.consulted (nodes ++ others) = (do
      let asked ← visitor.consulted nodes
      return asked ++ (← visitor.consulted others)) := by
  induction nodes using consulted.induct with
  | case1 => simp [consulted]
  | case2 node rest fragment ih =>
    rw [List.cons_append, consulted, consulted, if_pos fragment, if_pos fragment, ← List.append_assoc, ih]
  | case3 node rest asked ih =>
    rw [List.cons_append, consulted_cons visitor asked, consulted_cons visitor asked]
    simp only [← List.append_assoc, ih, bind_assoc, pure_bind, List.cons_append]

theorem run_consulted_cons {node : Node} (asked : node.kind ≠ .fragment) (rest : List Node) (memory : σ) :
    (visitor.consulted (node :: rest)).run memory =
      let answer := (visitor.dispatch node).run memory
      let others := (visitor.consulted (askedBelow node answer.1 ++ rest)).run answer.2
      ((node, answer.1) :: others.1, others.2) := by
  rw [consulted_cons visitor asked]
  rfl

private theorem run_consulted_append (nodes others : List Node) (memory : σ) :
    (visitor.consulted (nodes ++ others)).run memory =
      let first := (visitor.consulted nodes).run memory
      let later := (visitor.consulted others).run first.2
      (first.1 ++ later.1, later.2) := by
  rw [consulted_append]
  rfl

/-- No node is asked about twice, and none out of order. -/
theorem consulted_sublist (nodes : List Node) (memory : σ) :
    (((visitor.consulted nodes).run memory).1.map Prod.fst).Sublist (Node.walkAll nodes) := by
  induction nodes using consulted.induct generalizing memory with
  | case1 =>
    rw [consulted]
    exact .slnil
  | case2 node rest fragment ih =>
    rw [consulted, if_pos fragment, walkAll_cons_eq]
    exact (ih memory).cons node
  | case3 node rest asked ih =>
    rw [run_consulted_cons visitor asked, walkAll_cons_eq]
    exact ((ih _ _).trans (walkAll_askedBelow_sublist node _ rest)).cons_cons node

/-- Where every node proceeds and no field is empty, every node but the fragments is asked about. -/
theorem consulted_eq_walkAll (idle : visitor.Idle) {nodes : List Node}
    (full : ∀ node ∈ Node.walkAll nodes, node.shownChildren = node.children) (memory : σ) :
    ((visitor.consulted nodes).run memory).1.map Prod.fst =
      (Node.walkAll nodes).filter fun node => node.kind ≠ .fragment := by
  induction nodes using consulted.induct generalizing memory with
  | case1 =>
    rw [consulted]
    rfl
  | case2 node rest fragment ih =>
    rw [walkAll_cons_eq, List.forall_mem_cons] at full
    rw [consulted, if_pos fragment, ih full.2, walkAll_cons_eq, List.filter_cons_of_neg (by simp [fragment])]
  | case3 node rest asked ih =>
    rw [walkAll_cons_eq, List.forall_mem_cons] at full
    have below : askedBelow node .proceed = node.children := (askedBelow_proceed node).trans full.1
    have others := ih .proceed (by rw [below]; exact full.2)
    rw [walkAll_cons_eq, List.filter_cons_of_pos (by simpa using asked), ← below, run_consulted_cons visitor asked]
    simp only [idle node memory, List.map_cons, others]

private theorem run_consulted_recorded (nodes : List Node) (memory : σ) (seen : List Node) :
    (visitor.recorded.consulted nodes).run (memory, seen) =
      let asked := (visitor.consulted nodes).run memory
      (asked.1, asked.2, seen ++ asked.1.map Prod.fst) := by
  induction nodes using consulted.induct generalizing memory seen with
  | case1 =>
    rw [consulted, consulted]
    exact congrArg (fun noted => (([] : List (Node × Action)), memory, noted)) (List.append_nil seen).symm
  | case2 node rest fragment ih => rw [consulted, consulted, if_pos fragment, if_pos fragment, ih]
  | case3 node rest asked ih =>
    rw [run_consulted_cons visitor asked, run_consulted_cons visitor.recorded asked, run_dispatch_recorded]
    simp only [ih, List.map_cons, List.append_assoc, List.singleton_append]

end Visitor

namespace Html

open Render

variable {σ α β : Type} (options : RenderOptions) (visitor : Visitor σ)

/-- The counts once these answers have been given. -/
def counted (stats : TreeStats) (asked : List (Node × Action)) : TreeStats :=
  if options.collectStats then ((asked.filter (·.2 = .proceed)).map Prod.fst).foldl TreeStats.addNode stats else stats

private theorem counted_nil (stats : TreeStats) : counted options stats [] = stats :=
  ite_self stats

private theorem counted_append (stats : TreeStats) (asked others : List (Node × Action)) :
    counted options stats (asked ++ others) = counted options (counted options stats asked) others := by
  unfold counted
  split
  next => rw [List.filter_append, List.map_append, List.foldl_append]
  next => rfl

/-- The walk asks about these nodes, and it counts those that proceed. -/
def Consults (nodes : List Node) (walk : Walk σ α) : Prop :=
  ∀ session, (walk.run session).2 =
    let asked := (visitor.consulted nodes).run session.memory
    { memory := asked.2, stats := counted options session.stats asked.1 }

variable {options visitor}

private theorem consults_pure (value : α) : Consults options visitor [] (pure value) := by
  intro session
  rw [Visitor.consulted]
  exact congrArg (Session.mk session.memory) (counted_nil options session.stats).symm

theorem Consults.bind {nodes others : List Node} {walk : Walk σ α} {next : α → Walk σ β}
    (first : Consults options visitor nodes walk) (later : ∀ value, Consults options visitor others (next value)) :
    Consults options visitor (nodes ++ others) (walk >>= next) := by
  intro session
  have second := later (walk.run session).1 (walk.run session).2
  rw [StateT.run_bind, visitor.run_consulted_append]
  refine second.trans ?_
  simp only [first session, counted_append]

/-- What is made of the result at the end asks about nothing. -/
theorem Consults.map {nodes : List Node} {walk : Walk σ α} (consults : Consults options visitor nodes walk)
    (made : α → β) : Consults options visitor nodes (walk >>= fun value => pure (made value)) :=
  consults

private theorem run_countNode (node : Node) (session : Session σ) :
    (countNode options node).run session =
      ((), { session with stats := counted options session.stats [(node, .proceed)] }) := by
  change ((), if options.collectStats then _ else session) = _
  unfold counted
  split <;> rfl

/-- A node that proceeds is counted before those below it are asked about, and one that does not is not counted. -/
theorem consults_consult {node : Node} (asked : node.kind ≠ .fragment) {content : Walk σ String}
    (inside : Consults options visitor node.shownChildren content) :
    Consults options visitor [node] (consult options visitor node content) := by
  intro session
  have answered : (ask visitor node).run session =
      (((visitor.dispatch node).run session.memory).1,
        { session with memory := ((visitor.dispatch node).run session.memory).2 }) := rfl
  rw [visitor.run_consulted_cons asked, consult, StateT.run_bind, answered]
  rcases (visitor.dispatch node).run session.memory with ⟨action, memory⟩
  have settled (acts : action ≠ .proceed) (output : String) :
      ((pure output : Walk σ String).run { session with memory }).2 =
        let others := (visitor.consulted (Visitor.askedBelow node action ++ [])).run memory
        { memory := others.2, stats := counted options session.stats ((node, action) :: others.1) } := by
    rw [Visitor.askedBelow_of_ne acts, List.nil_append, Visitor.consulted]
    have uncounted : counted options session.stats [(node, action)] = session.stats := by
      simp [counted, acts]
    exact congrArg (Session.mk memory) uncounted.symm
  cases action with
  | proceed =>
    have below := inside { memory, stats := counted options session.stats [(node, .proceed)] }
    simp only [Visitor.askedBelow_proceed, List.append_nil]
    rw [← List.singleton_append, counted_append]
    change ((countNode options node >>= fun _ => content).run { session with memory }).2 = _
    rw [StateT.run_bind, run_countNode]
    exact below
  | replace output => exact settled (by simp) output
  | skip => exact settled (by simp) ""

private theorem consults_blockPiece {node : Node} (asked : node.kind ≠ .fragment) {content : Walk σ String}
    (inside : Consults options visitor node.shownChildren content) :
    Consults options visitor [node] (blockPiece options visitor node content) :=
  (consults_consult asked inside).map _

private theorem consults_inlinePiece {node : Node} (asked : node.kind ≠ .fragment) {content : Walk σ String}
    (inside : Consults options visitor node.shownChildren content) :
    Consults options visitor [node] (inlinePiece options visitor node content) :=
  (consults_consult asked inside).map _

private theorem consults_fragment {children : List Node} {walk : Walk σ α}
    (inside : Consults options visitor children walk) :
    Consults options visitor [.fragment children] walk := by
  intro session
  rw [visitor.consulted_fragment, List.append_nil]
  exact inside session

/-- A field that shows nothing is not asked about. -/
theorem consults_field {field : Node} {others : List Node} {shown : Walk σ (List Piece)}
    (inside : Consults options visitor [field] shown) {next : Option (List Piece) → Walk σ β}
    (rest : ∀ content?, Consults options visitor others (next content?)) :
    Consults options visitor (([field].filter fun field => !field.isEmpty) ++ others)
      (if field.isEmpty then pure none >>= next else some <$> shown >>= next) := by
  cases empty : field.isEmpty with
  | true =>
    rw [List.filter_cons_of_neg (by simp [empty])]
    exact rest none
  | false =>
    rw [List.filter_cons_of_pos (by simp [empty])]
    have present : Consults options visitor [field] (some <$> shown) := inside
    exact present.bind rest

section walk

variable (options visitor)

mutual

private theorem consults_pieces (node : Node) : Consults options visitor [node] (pieces options visitor node) := by
  cases node with
  | header name lines contacts =>
    rw [pieces]
    exact consults_blockPiece (by simp [Node.kind]) ((consults_sequences contacts).map _)
  | titled title body =>
    rw [pieces]
    exact consults_blockPiece (by simp [Node.kind]) ((consults_members body).map _)
  | entry primary secondary tertiary quaternary =>
    rw [pieces]
    refine consults_blockPiece (by simp [Node.kind]) ?_
    have fields : (Node.entry primary secondary tertiary quaternary).shownChildren =
        ([primary].filter fun field => !field.isEmpty) ++ (([secondary].filter fun field => !field.isEmpty) ++
          (([tertiary].filter fun field => !field.isEmpty) ++ (([quaternary].filter fun field => !field.isEmpty) ++ []))) := by
      simp only [← List.filter_append, List.append_nil]
      rfl
    rw [fields]
    refine consults_field (consults_pieces primary) fun first => consults_field (consults_pieces secondary) fun second => ?_
    refine consults_field (consults_pieces tertiary) fun third => consults_field (consults_pieces quaternary) fun fourth => ?_
    exact consults_pure _
  | itemList bulleted items =>
    rw [pieces]
    exact consults_blockPiece (by simp [Node.kind]) ((consults_sequences items).map _)
  | columnGroup columns =>
    rw [pieces]
    exact consults_blockPiece (by simp [Node.kind]) ((consults_sequences columns).map _)
  | centered body =>
    rw [pieces]
    exact consults_blockPiece (by simp [Node.kind]) ((consults_allPieces body).map _)
  | styled style child =>
    rw [pieces]
    exact consults_inlinePiece (by simp [Node.kind]) ((consults_pieces child).map _)
  | link href label =>
    rw [pieces]
    exact consults_inlinePiece (by simp [Node.kind]) ((consults_pieces label).map _)
  | fragment children =>
    rw [pieces]
    exact consults_fragment (consults_allPieces children)
  | lineBreak | separator | text =>
    rw [pieces]
    exact consults_inlinePiece (by simp [Node.kind]) (consults_pure _)
termination_by structural node

private theorem consults_allPieces (nodes : List Node) :
    Consults options visitor nodes (allPieces options visitor nodes) := by
  cases nodes with
  | nil => exact consults_pure []
  | cons node rest =>
    rw [allPieces]
    exact (consults_pieces node).bind fun first => (consults_allPieces rest).map _
termination_by structural nodes

private theorem consults_sequences (nodes : List Node) :
    Consults options visitor nodes (sequences options visitor nodes) := by
  cases nodes with
  | nil => exact consults_pure []
  | cons node rest =>
    rw [sequences]
    exact (consults_pieces node).bind fun first => (consults_sequences rest).map _
termination_by structural nodes

private theorem consults_members (nodes : List Node) :
    Consults options visitor nodes (members options visitor nodes) := by
  cases nodes with
  | nil => exact consults_pure []
  | cons node rest =>
    rw [members]
    exact (consults_pieces node).bind fun first => (consults_members rest).map _
termination_by structural nodes

end

/-- What a run leaves behind: the memory of the visitor that has been asked about the tree, and the counts. -/
theorem run_consulted (memory : σ) (tree : Tree) :
    (run options visitor memory tree).2 =
      let asked := (visitor.consulted tree).run memory
      { memory := asked.2, stats := counted options {} asked.1 } :=
  (consults_allPieces options visitor tree).map flowLayout { memory }

/-- The counts are those of the nodes that proceed. -/
theorem stats_runWithStats (memory : σ) (document : Document) :
    (runWithStats options visitor memory document).1.stats =
      { ((((visitor.consulted document.tree).run memory).1.filter (·.2 = .proceed)).map Prod.fst).foldl
          TreeStats.addNode {} with
        warningCount := document.warnings.length } := by
  have counts := congrArg Session.stats (run_consulted { options with collectStats := true } visitor memory document.tree)
  exact congrArg (fun stats : TreeStats => { stats with warningCount := document.warnings.length }) counts

end walk

/-- Rendering asks the visitor about each node once, in the order of the tree: the nodes written down are those asked
about depth first and parents first, without the fragments, the empty fields and what stands below a node that does not
proceed. Those that proceed are counted, and no others. -/
theorem runWithStats_consulted (options : RenderOptions) (visitor : Visitor σ) (memory : σ) (document : Document) :
    let asked := (visitor.consulted document.tree).run memory
    (run options visitor.recorded (memory, []) document.tree).2.memory = (asked.2, asked.1.map Prod.fst) ∧
      (asked.1.map Prod.fst).Sublist (Tree.walk document.tree) ∧
      (run options visitor memory document.tree).2.memory = asked.2 ∧
      (runWithStats options visitor memory document).1.stats =
        { ((asked.1.filter (·.2 = .proceed)).map Prod.fst).foldl TreeStats.addNode {} with
          warningCount := document.warnings.length } := by
  intro asked
  refine ⟨?_, visitor.consulted_sublist document.tree memory, ?_, ?_⟩
  · rw [run_consulted, visitor.run_consulted_recorded]
    rfl
  · rw [run_consulted]
  · exact stats_runWithStats options visitor memory document

end Html

end Vitae
