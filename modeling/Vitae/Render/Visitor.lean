import Vitae.Content.PlainText

/-!
Visitors decide before each node is rendered whether it is rendered at all. A visitor sees every node, and
sections and links a second time by what they show; its answers may depend on a state of its own.
-/

namespace Vitae

inductive Action where
  | proceed
  /-- Put an output in the place of the node, as it is. -/
  | replace (output : String)
  | skip
deriving DecidableEq, Inhabited

structure Visitor (σ : Type) where
  onNode : Node → StateM σ Action := fun _ => pure .proceed
  onSection : (title : String) → StateM σ Action := fun _ => pure .proceed
  onLink : (href label : String) → StateM σ Action := fun _ _ => pure .proceed

namespace Visitor

variable {σ : Type}

instance : Inhabited (Visitor σ) := ⟨{}⟩

/-- Asks about a node: first as any node, then, if nothing came of it, as a section or link. -/
def dispatch (visitor : Visitor σ) (node : Node) : StateM σ Action := do
  match ← visitor.onNode node with
  | .proceed =>
    match node with
    | .titled title _ => visitor.onSection title
    | .link href label => visitor.onLink href label.plainText
    | _ => pure .proceed
  | action => pure action

/-- The first answer that is not to proceed; nothing is asked after it. -/
def firstAction : List (StateM σ Action) → StateM σ Action
  | [] => pure .proceed
  | ask :: later => do
    match ← ask with
    | .proceed => firstAction later
    | action => pure action

/-- Visitors in a row, where at each question the first that acts decides. -/
def chain (visitors : List (Visitor σ)) : Visitor σ where
  onNode node := firstAction (visitors.map (·.onNode node))
  onSection title := firstAction (visitors.map (·.onSection title))
  onLink href label := firstAction (visitors.map (·.onLink href label))

/-- Titles are compared trimmed and in lower case. -/
def titleKey (title : String) : String :=
  title.trimmed.inLowerCase

/-- Leaves out the sections of the given titles. -/
def skipSections (titles : List String) : Visitor σ where
  onSection title := pure (if titleKey title ∈ titles.map titleKey then .skip else .proceed)

/-- What leaves out the sections of the given titles: without a title, no visitor is attached. -/
def attached (titles : List String) : Visitor σ :=
  if titles.isEmpty then {} else .skipSections titles

end Visitor

end Vitae
