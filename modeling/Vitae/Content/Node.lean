/-!
The content of a resume: a tree of nodes, from the name banner and titled sections down to text. A node
is inline where it flows inside a line, and a block otherwise.
-/

namespace Vitae

inductive SpanStyle where
  | bold
  | italic
  | underline
  | smallCaps
  | accent
deriving DecidableEq, Inhabited

inductive Node where
  /-- The name banner. `contactLines` holds the plain text of each contact. -/
  | header (name : String) (contactLines : List String) (contacts : List Node)
  /-- A section and all that follows its title up to the next one. -/
  | titled (title : String) (body : List Node)
  /-- A heading of two rows with a left and a right field each. -/
  | entry (primary secondary tertiary quaternary : Node)
  | itemList (bulleted : Bool) (items : List Node)
  | columnGroup (columns : List Node)
  | centered (body : List Node)
  | styled (style : SpanStyle) (child : Node)
  | link (href : String) (label : Node)
  /-- Several nodes where one is asked for. -/
  | fragment (children : List Node)
  | lineBreak
  | separator
  | text (value : String)
deriving Inhabited

inductive NodeKind where
  | header
  | titled
  | entry
  | itemList
  | columnGroup
  | centered
  | styled
  | link
  | fragment
  | lineBreak
  | separator
  | text
deriving DecidableEq, Inhabited

namespace Node

def empty : Node :=
  .text ""

def bold (value : String) : Node :=
  .styled .bold (.text value)

def italic (value : String) : Node :=
  .styled .italic (.text value)

/-- One node for a sequence: empty text for none, a node alone as it is, a fragment for several. -/
def collapse : List Node → Node
  | [] => empty
  | [node] => node
  | nodes => .fragment nodes

/-- An entry of the first four nodes, where empty text stands for a missing one. -/
def entryOf (fields : List Node) : Node :=
  .entry (fields.getD 0 empty) (fields.getD 1 empty) (fields.getD 2 empty) (fields.getD 3 empty)

def kind : Node → NodeKind
  | .header .. => .header
  | .titled .. => .titled
  | .entry .. => .entry
  | .itemList .. => .itemList
  | .columnGroup .. => .columnGroup
  | .centered .. => .centered
  | .styled .. => .styled
  | .link .. => .link
  | .fragment .. => .fragment
  | .lineBreak => .lineBreak
  | .separator => .separator
  | .text .. => .text

def isInline : Node → Bool
  | .text .. | .styled .. | .link .. | .lineBreak | .separator => true
  | _ => false

/-- Holds where a page break inside the node is to be avoided. -/
def keepsTogether : Node → Bool
  | .titled .. | .entry .. | .columnGroup .. => true
  | _ => false

def children : Node → List Node
  | .header _ _ contacts => contacts
  | .titled _ body | .centered body => body
  | .entry primary secondary tertiary quaternary => [primary, secondary, tertiary, quaternary]
  | .itemList _ items => items
  | .columnGroup columns => columns
  | .fragment children => children
  | .styled _ child => [child]
  | .link _ label => [label]
  | .lineBreak | .separator | .text _ => []

mutual

/-- Holds for empty text and for fragments of nothing else. -/
def isEmpty : Node → Bool
  | .text value => value.isEmpty
  | .fragment children => areEmpty children
  | _ => false
termination_by structural node => node

def areEmpty : List Node → Bool
  | [] => true
  | node :: rest => isEmpty node && areEmpty rest
termination_by structural nodes => nodes

end

mutual

/-- The node and all below it, parents first. -/
def walk : Node → List Node
  | .header name lines contacts => .header name lines contacts :: walkAll contacts
  | .titled title body => .titled title body :: walkAll body
  | .entry primary secondary tertiary quaternary =>
    .entry primary secondary tertiary quaternary ::
      (walk primary ++ walk secondary ++ walk tertiary ++ walk quaternary)
  | .itemList bulleted items => .itemList bulleted items :: walkAll items
  | .columnGroup columns => .columnGroup columns :: walkAll columns
  | .centered body => .centered body :: walkAll body
  | .styled style child => .styled style child :: walk child
  | .link href label => .link href label :: walk label
  | .fragment children => .fragment children :: walkAll children
  | .lineBreak => [.lineBreak]
  | .separator => [.separator]
  | .text value => [.text value]
termination_by structural node => node

def walkAll : List Node → List Node
  | [] => []
  | node :: rest => walk node ++ walkAll rest
termination_by structural nodes => nodes

end

theorem walk_eq_cons (node : Node) : node.walk = node :: walkAll node.children := by
  cases node <;> simp [walk, walkAll, children]

theorem mem_walkAll {nodes : List Node} {inner : Node} : inner ∈ walkAll nodes ↔ ∃ node ∈ nodes, inner ∈ walk node := by
  induction nodes with
  | nil => simp [walkAll]
  | cons node rest ih => simp [walkAll, ih]

/-- The node reached by following indices, the first among the given nodes and each later one among the
children of the node before. -/
def descend? : (path : List Nat) → List Node → Option Node
  | [], _ => none
  | [index], nodes => nodes[index]?
  | index :: path, nodes => nodes[index]? >>= fun node => descend? path node.children

end Node

end Vitae
