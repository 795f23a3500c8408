import Mathlib.Data.Fin.VecNotation
import Mathlib.Data.List.FinRange
import Vitae.Render.Visitor

/-! Visitors in a row, each with a memory of its own. A chain asks all of them about the node before it asks any about the
section or link, so it answers like the first that acts alone unless one behind that acts about the node. -/

namespace Vitae

namespace Action

def first (answers : List Action) : Action :=
  (answers.find? (· ≠ .proceed)).getD .proceed

private theorem first_cons (answer : Action) (later : List Action) :
    first (answer :: later) = if answer = .proceed then first later else answer := by
  rw [first, List.find?_cons]
  by_cases same : answer = .proceed <;> simp [same, first]

private theorem first_append (answers later : List Action) :
    first (answers ++ later) = if first answers = .proceed then first later else first answers := by
  induction answers with
  | nil => rfl
  | cons answer answers ih =>
    rw [List.cons_append, first_cons, ih, first_cons]
    by_cases same : answer = .proceed <;> simp [same]

private theorem first_eq_proceed_iff {answers : List Action} :
    first answers = .proceed ↔ ∀ answer ∈ answers, answer = .proceed := by
  induction answers with
  | nil => simp [first]
  | cons answer answers ih =>
    rw [first_cons, List.forall_mem_cons, ← ih]
    by_cases same : answer = .proceed <;> simp [same]

section leads

variable {n : Nat}

/-- The answer is the first that is not to proceed. -/
def Leads (answers : Fin n → Action) (place : Fin n) : Prop :=
  answers place ≠ .proceed ∧ ∀ before < place, answers before = .proceed

private theorem Leads.first_eq {answers : Fin n → Action} {place : Fin n} (leads : Leads answers place) :
    first (List.ofFn answers) = answers place := by
  have found : (List.ofFn answers).find? (· ≠ .proceed) = some (answers place) := by
    rw [List.find?_eq_some_iff_getElem]
    refine ⟨by simpa using leads.1, place, by simp, by simp, fun before earlier => ?_⟩
    simpa using leads.2 ⟨before, earlier.trans place.isLt⟩ earlier
  rw [first, found, Option.getD_some]

private theorem exists_leads {answers : Fin n → Action} {place : Fin n} (acts : answers place ≠ .proceed) :
    ∃ leader, Leads answers leader := by
  induction place using WellFoundedLT.induction with
  | ind place ih =>
    by_cases earlier : ∀ before < place, answers before = .proceed
    · exact ⟨place, acts, earlier⟩
    · push Not at earlier
      obtain ⟨before, less, acts⟩ := earlier
      exact ih before less acts

/-- Answers that are looked at before others decide alike only if the first of both agree. -/
theorem first_append_eq_iff {early later : Fin n → Action}
    (kept : ∀ place, early place ≠ .proceed → later place = early place) :
    first (List.ofFn early ++ List.ofFn later) = first (List.ofFn later) ↔
      ∀ place leader, Leads early place → Leads later leader → later leader = early place := by
  rw [first_append]
  split
  next none =>
    refine ⟨fun _ place leader leads => ?_, fun _ => rfl⟩
    rw [leads.first_eq] at none
    exact absurd none leads.1
  next some =>
    obtain ⟨acting, acts⟩ : ∃ place, early place ≠ .proceed := by
      simpa [first_eq_proceed_iff] using some
    obtain ⟨place, leads⟩ := exists_leads acts
    have alike : later place ≠ .proceed := kept place leads.1 ▸ leads.1
    obtain ⟨leader, first⟩ := exists_leads alike
    constructor
    · intro equal other another one two
      rw [← one.first_eq, ← two.first_eq, equal]
    · intro agree
      rw [leads.first_eq, first.first_eq, agree place leader leads first]

end leads

end Action

namespace Visitor

section dispatch

variable {σ : Type} (visitor : Visitor σ)

def onKind : Node → StateM σ Action
  | .titled title _ => visitor.onSection title
  | .link href label => visitor.onLink href label.plainText
  | _ => pure .proceed

private theorem run_dispatch (node : Node) (memory : σ) :
    (visitor.dispatch node).run memory =
      if ((visitor.onNode node).run memory).1 = .proceed then
        (visitor.onKind node).run ((visitor.onNode node).run memory).2
      else (visitor.onNode node).run memory := by
  unfold dispatch
  rw [StateT.run_bind]
  rcases (visitor.onNode node).run memory with ⟨action, after⟩
  cases action <;> rfl

/-- The visitor that also writes down every node it is asked about. -/
def recorded : Visitor (σ × List Node) where
  onNode node := fun (memory, seen) =>
    let (action, memory) := (visitor.onNode node).run memory
    (action, memory, seen ++ [node])
  onSection title := fun (memory, seen) =>
    let (action, memory) := (visitor.onSection title).run memory
    (action, memory, seen)
  onLink href label := fun (memory, seen) =>
    let (action, memory) := (visitor.onLink href label).run memory
    (action, memory, seen)

theorem run_dispatch_recorded (node : Node) (memory : σ) (seen : List Node) :
    (visitor.recorded.dispatch node).run (memory, seen) =
      (((visitor.dispatch node).run memory).1, ((visitor.dispatch node).run memory).2, seen ++ [node]) := by
  rw [run_dispatch, run_dispatch]
  have asked : (visitor.recorded.onNode node).run (memory, seen) =
      (((visitor.onNode node).run memory).1, ((visitor.onNode node).run memory).2, seen ++ [node]) := rfl
  rw [asked]
  split
  next => cases node <;> rfl
  next => rfl

def Idle : Prop :=
  ∀ node memory, ((visitor.dispatch node).run memory).1 = .proceed

theorem idle_default : ({} : Visitor σ).Idle := by
  intro node memory
  cases node <;> rfl

end dispatch

section memories

variable {ι : Type} [DecidableEq ι] {σ : ι → Type} {σ' : Type}

/-- What is asked of the memory at one place leaves those at other places as they are. -/
def within (place : ι) (ask : StateM (σ place) Action) : StateM ((place : ι) → σ place) Action := fun memories =>
  let (action, memory) := ask.run (memories place)
  (action, Function.update memories place memory)

/-- A visitor whose memory is one of several. -/
def inPlace (place : ι) (visitor : Visitor (σ place)) : Visitor ((place : ι) → σ place) where
  onNode node := within place (visitor.onNode node)
  onSection title := within place (visitor.onSection title)
  onLink href label := within place (visitor.onLink href label)

variable (asks : (place : ι) → StateM (σ place) Action)

private theorem run_firstAction_cons (ask : StateM σ' Action) (later : List (StateM σ' Action)) (memory : σ') :
    (firstAction (ask :: later)).run memory =
      if (ask.run memory).1 = .proceed then (firstAction later).run (ask.run memory).2 else ask.run memory := by
  rw [firstAction, StateT.run_bind]
  rcases ask.run memory with ⟨action, after⟩
  cases action <;> rfl

/-- Each answers as it would alone; the first that acts is the last that is asked. -/
theorem run_firstAction {places : List ι} (distinct : places.Nodup) (memories : (place : ι) → σ place) :
    let answered := (firstAction (places.map fun place => within place (asks place))).run memories
    answered.1 = Action.first (places.map fun place => ((asks place).run (memories place)).1) ∧
      (∀ place ∉ places, answered.2 place = memories place) ∧
      (answered.1 = .proceed → ∀ place ∈ places, answered.2 place = ((asks place).run (memories place)).2) := by
  induction places generalizing memories with
  | nil => exact ⟨rfl, fun _ _ => rfl, by simp⟩
  | cons place places ih =>
    obtain ⟨apart, distinct⟩ := List.nodup_cons.mp distinct
    let asked := (asks place).run (memories place)
    let later := Function.update memories place asked.2
    have same (other : ι) (member : other ∈ places) : later other = memories other :=
      Function.update_of_ne (ne_of_mem_of_not_mem member apart) asked.2 memories
    obtain ⟨answer, kept, after⟩ := ih distinct later
    have asks_later : (places.map fun other => ((asks other).run (later other)).1) =
        places.map fun other => ((asks other).run (memories other)).1 :=
      List.map_congr_left fun other member => by rw [same other member]
    have here : (within place (asks place)).run memories = (asked.1, later) := rfl
    simp only [List.map_cons]
    rw [run_firstAction_cons, here, Action.first_cons]
    by_cases proceeds : asked.1 = .proceed
    · rw [if_pos proceeds, if_pos proceeds]
      refine ⟨answer.trans (congrArg Action.first asks_later), fun other outside => ?_, fun all other member => ?_⟩
      · rw [List.mem_cons, not_or] at outside
        rw [kept other outside.2]
        exact Function.update_of_ne outside.1 asked.2 memories
      · rcases List.mem_cons.mp member with rfl | member
        · rw [kept other apart]
          exact Function.update_self other asked.2 memories
        · rw [after all other member, same other member]
    · rw [if_neg proceeds, if_neg proceeds]
      refine ⟨rfl, fun other outside => ?_, fun all => absurd all proceeds⟩
      rw [List.mem_cons, not_or] at outside
      exact Function.update_of_ne outside.1 asked.2 memories

end memories

section composite

variable {n : Nat} {σ : Fin n → Type} (visitors : (place : Fin n) → Visitor (σ place))

def composite : Visitor ((place : Fin n) → σ place) :=
  chain ((List.finRange n).map fun place => inPlace place (visitors place))

private theorem onNode_composite (node : Node) :
    (composite visitors).onNode node =
      firstAction ((List.finRange n).map fun place => within place ((visitors place).onNode node)) := by
  exact congrArg firstAction List.map_map

private theorem action_onKind_composite (node : Node) (memories : (place : Fin n) → σ place) :
    (((composite visitors).onKind node).run memories).1 =
      ((firstAction ((List.finRange n).map fun place => within place ((visitors place).onKind node))).run memories).1 := by
  have nobody := (run_firstAction (fun place => (pure .proceed : StateM (σ place) Action)) (List.nodup_finRange n)
    memories).1
  cases node with
  | titled title body => exact congrArg (fun ask => (StateT.run ask memories).1) (congrArg firstAction List.map_map)
  | link href label => exact congrArg (fun ask => (StateT.run ask memories).1) (congrArg firstAction List.map_map)
  | _ =>
    refine (nobody.trans (Action.first_eq_proceed_iff.mpr fun answer member => ?_)).symm
    obtain ⟨place, -, rfl⟩ := List.mem_map.mp member
    rfl

private theorem action_dispatch_composite (memories : (place : Fin n) → σ place) (node : Node) :
    (((composite visitors).dispatch node).run memories).1 =
      Action.first (List.ofFn (fun place => (((visitors place).onNode node).run (memories place)).1) ++
        List.ofFn fun place => (((visitors place).dispatch node).run (memories place)).1) := by
  obtain ⟨answer, -, after⟩ :=
    run_firstAction (fun place => (visitors place).onNode node) (List.nodup_finRange n) memories
  rw [← onNode_composite] at answer after
  rw [run_dispatch, Action.first_append, List.ofFn_eq_map, List.ofFn_eq_map, ← answer]
  split
  next none =>
    have asked := (run_firstAction (fun place => (visitors place).onKind node) (List.nodup_finRange n)
      (((composite visitors).onNode node).run memories).2).1
    rw [action_onKind_composite, asked]
    refine congrArg Action.first (List.map_congr_left fun place member => ?_)
    have idle := Action.first_eq_proceed_iff.mp (answer.symm.trans none) _ (List.mem_map_of_mem member)
    rw [run_dispatch, if_pos idle, after none place member]
  next => rfl

/-- A chain answers like the first of its visitors that acts on the node as on any node, and where none does, like the
first that acts alone. It answers like the first that acts alone unless another one, behind that, acts differently on the
node as on any node. -/
theorem dispatch_composite (memories : (place : Fin n) → σ place) (node : Node) :
    let asNode place := (((visitors place).onNode node).run (memories place)).1
    let alone place := (((visitors place).dispatch node).run (memories place)).1
    let together := (((composite visitors).dispatch node).run memories).1
    together = Action.first (List.ofFn asNode ++ List.ofFn alone) ∧
      (together = Action.first (List.ofFn alone) ↔
        ∀ place leader, Action.Leads asNode place → Action.Leads alone leader → alone leader = asNode place) := by
  intro asNode alone together
  have whole : together = Action.first (List.ofFn asNode ++ List.ofFn alone) :=
    action_dispatch_composite visitors memories node
  refine ⟨whole, ?_⟩
  rw [whole, Action.first_append_eq_iff]
  intro place acts
  change (((visitors place).dispatch node).run (memories place)).1 = _
  rw [run_dispatch, if_neg acts]

theorem dispatch_composite_titled :
    let visitors : Fin 2 → Visitor Unit := ![skipSections ["A"], { onNode := fun _ => pure (.replace "B") }]
    let alone place := (((visitors place).dispatch (.titled "A" [])).run ()).1
    let together := (((composite visitors).dispatch (.titled "A" [])).run fun _ => ()).1
    alone 0 = .skip ∧ Action.first (List.ofFn alone) = .skip ∧ together = .replace "B" := by
  decide +kernel

end composite

end Visitor

end Vitae
