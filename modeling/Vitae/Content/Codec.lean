import Vitae.Content.Stats
import Vitae.Json.Printer
import Vitae.Json.Reader

/-!
The written form of content. A node is an object whose first member `type` names its kind, followed by
its fields in order. Reading takes members in any order and ignores unknown ones; it refuses a field that
is missing, repeated or of the wrong type. Sequences are read as well: a node as an array of its tag and
fields, a document or a set of counts as an array of its fields.
-/

namespace Vitae

namespace SpanStyle

def all : List SpanStyle :=
  [.bold, .italic, .underline, .smallCaps, .accent]

def name : SpanStyle → String
  | .bold => "bold"
  | .italic => "italic"
  | .underline => "underline"
  | .smallCaps => "smallcaps"
  | .accent => "accent"

def ofName? (name : String) : Option SpanStyle :=
  all.find? (·.name = name)

end SpanStyle

namespace NodeKind

def all : List NodeKind :=
  [.header, .titled, .entry, .itemList, .columnGroup, .centered, .styled, .link, .fragment, .lineBreak,
   .separator, .text]

def name : NodeKind → String
  | .header => "header"
  | .titled => "section"
  | .entry => "entry"
  | .itemList => "item_list"
  | .columnGroup => "column_group"
  | .centered => "centered"
  | .styled => "styled_span"
  | .link => "link"
  | .fragment => "fragment"
  | .lineBreak => "line_break"
  | .separator => "separator"
  | .text => "plain_text"

def ofName? (name : String) : Option NodeKind :=
  all.find? (·.name = name)

def fieldNames : NodeKind → List String
  | .header => ["name", "contact_lines", "contacts"]
  | .titled => ["title", "body"]
  | .entry => ["primary", "secondary", "tertiary", "quaternary"]
  | .itemList => ["bulleted", "items"]
  | .columnGroup => ["columns"]
  | .centered => ["body"]
  | .styled => ["style", "child"]
  | .link => ["href", "label"]
  | .fragment => ["children"]
  | .lineBreak | .separator => []
  | .text => ["value"]

end NodeKind

namespace Node

mutual

def toJson : Node → Json
  | .header name contactLines contacts =>
    .object [("type", .string "header"), ("name", .string name), ("contact_lines", .strings contactLines),
      ("contacts", .array (toJsons contacts))]
  | .titled title body =>
    .object [("type", .string "section"), ("title", .string title), ("body", .array (toJsons body))]
  | .entry primary secondary tertiary quaternary =>
    .object [("type", .string "entry"), ("primary", toJson primary), ("secondary", toJson secondary),
      ("tertiary", toJson tertiary), ("quaternary", toJson quaternary)]
  | .itemList bulleted items =>
    .object [("type", .string "item_list"), ("bulleted", .bool bulleted), ("items", .array (toJsons items))]
  | .columnGroup columns => .object [("type", .string "column_group"), ("columns", .array (toJsons columns))]
  | .centered body => .object [("type", .string "centered"), ("body", .array (toJsons body))]
  | .styled style child =>
    .object [("type", .string "styled_span"), ("style", .string style.name), ("child", toJson child)]
  | .link href label => .object [("type", .string "link"), ("href", .string href), ("label", toJson label)]
  | .fragment children => .object [("type", .string "fragment"), ("children", .array (toJsons children))]
  | .lineBreak => .object [("type", .string "line_break")]
  | .separator => .object [("type", .string "separator")]
  | .text value => .object [("type", .string "plain_text"), ("value", .string value)]
termination_by structural node => node

def toJsons : List Node → List Json
  | [] => []
  | node :: rest => toJson node :: toJsons rest
termination_by structural nodes => nodes

end

/-- A value as each kind of field may want it: as it is, as a node, or as a sequence of nodes. -/
structure Field where
  raw : Json
  node? : Option Node := none
  nodes? : Option (List Node) := none

/-- The style that a field spells, by name or as an object of that one name and nothing behind it. -/
def styleField? : Json → Option SpanStyle
  | .string name => SpanStyle.ofName? name
  | .object [(name, .null)] | .object [(name, .object [])] => SpanStyle.ofName? name
  | _ => none

def ofFields? : NodeKind → List Field → Option Node
  | .header, [name, lines, contacts] => do
    return .header (← name.raw.text?) (← lines.raw.texts?) (← contacts.nodes?)
  | .titled, [title, body] => do return .titled (← title.raw.text?) (← body.nodes?)
  | .entry, [primary, secondary, tertiary, quaternary] => do
    return .entry (← primary.node?) (← secondary.node?) (← tertiary.node?) (← quaternary.node?)
  | .itemList, [bulleted, items] => do return .itemList (← bulleted.raw.bool?) (← items.nodes?)
  | .columnGroup, [columns] => do return .columnGroup (← columns.nodes?)
  | .centered, [body] => do return .centered (← body.nodes?)
  | .styled, [style, child] => do return .styled (← styleField? style.raw) (← child.node?)
  | .link, [href, label] => do return .link (← href.raw.text?) (← label.node?)
  | .fragment, [children] => do return .fragment (← children.nodes?)
  | .lineBreak, [] => some .lineBreak
  | .separator, [] => some .separator
  | .text, [value] => do return .text (← value.raw.text?)
  | _, _ => none

/-- The only member of a name. -/
def onlyMember? (members : List (String × Field)) (name : String) : Option Field :=
  match members.filter (·.1 = name) with
  | [(_, field)] => some field
  | _ => none

/-- A tag spells its kind; inside another node it may also number it. -/
def kindTag? (inside : Bool) : Json → Option NodeKind
  | .string name => NodeKind.ofName? name
  | .number value => if inside then value.toNat? >>= fun index => NodeKind.all[index]? else none
  | _ => none

def ofMembers? (inside : Bool) (members : List (String × Field)) : Option Node := do
  let kind ← kindTag? inside (← onlyMember? members "type").raw
  ofFields? kind (← kind.fieldNames.mapM (onlyMember? members))

def ofItems? (inside : Bool) : List Field → Option Node
  | tag :: fields => do ofFields? (← kindTag? inside tag.raw) fields
  | [] => none

mutual

def field : Json → Field
  | .array items => ⟨.array items, ofItems? true (fields items), (fields items).mapM (·.node?)⟩
  | .object members => ⟨.object members, ofMembers? true (memberFields members), none⟩
  | value => ⟨value, none, none⟩
termination_by structural value => value

def fields : List Json → List Field
  | [] => []
  | item :: rest => field item :: fields rest
termination_by structural items => items

def memberFields : List (String × Json) → List (String × Field)
  | [] => []
  | (name, value) :: rest => (name, field value) :: memberFields rest
termination_by structural members => members

end

def ofJson? : Json → Option Node
  | .array items => ofItems? false (fields items)
  | .object members => ofMembers? false (memberFields members)
  | _ => none

end Node

namespace Tree

def toJson (tree : Tree) : Json :=
  .array (Node.toJsons tree)

def ofJson? (value : Json) : Option Tree := do
  (← value.items?).mapM Node.ofJson?

end Tree

namespace Json

mutual

/-- Holds where every string is text and every number is finite. -/
def isSound : Json → Bool
  | .number value => value.isFinite
  | .halfPair => false
  | .array items => areSound items
  | .object members => membersAreSound members
  | _ => true
termination_by structural value => value

def areSound : List Json → Bool
  | [] => true
  | item :: rest => isSound item && areSound rest
termination_by structural items => items

def membersAreSound : List (String × Json) → Bool
  | [] => true
  | (_, value) :: rest => isSound value && membersAreSound rest
termination_by structural members => members

end

/-- Arrays and objects that a text may nest: one less than this many. -/
def depthLimit : Nat := 128

/-- A value as it may stand inside `level` arrays and objects. -/
def admitted? (level : Nat) (value : Json) : Option Json :=
  if level + value.depth < depthLimit ∧ value.isSound then some value else none

/-- The fields of a record: the items of an array of just that many, or the members of an object, each
once. -/
def recordFields? (names : List String) : Json → Option (List Json)
  | .array items => if items.length = names.length then some items else none
  | .object members => names.mapM fun name =>
    match members.filter (·.1 = name) with
    | [(_, value)] => some value
    | _ => none
  | _ => none

/-- A choice is spelled by its name, alone or as the one member of an object that holds null. -/
def choice? : Json → Option String
  | .string name => some name
  | .object [(name, .null)] => some name
  | _ => none

end Json

namespace Node

def read? (text : String) : Option Node := do
  ofJson? (← (← Json.read text).admitted? 0)

end Node

namespace Tree

def read? (text : String) : Option Tree := do
  ofJson? (← (← Json.read text).admitted? 0)

end Tree

namespace Document

def toJson (document : Document) : Json :=
  .object [("tree", Tree.toJson document.tree), ("warnings", .strings document.warnings)]

def ofJson? (value : Json) : Option Document := do
  match ← value.recordFields? ["tree", "warnings"] with
  | [tree, warnings] => return ⟨← Tree.ofJson? (← tree.admitted? 1), ← warnings.texts?⟩
  | _ => none

def read? (text : String) : Option Document := do
  ofJson? (← Json.read text)

end Document

namespace TreeStats

def fieldNames : List String :=
  ["section_count", "entry_count", "list_count", "list_item_count", "column_group_count", "link_count",
   "word_count", "char_count", "warning_count"]

def counts (stats : TreeStats) : List Nat :=
  [stats.sectionCount, stats.entryCount, stats.listCount, stats.listItemCount, stats.columnGroupCount,
   stats.linkCount, stats.wordCount, stats.charCount, stats.warningCount]

def ofCounts? : List Nat → Option TreeStats
  | [sections, entries, lists, items, columnGroups, links, words, chars, warnings] =>
    some ⟨sections, entries, lists, items, columnGroups, links, words, chars, warnings⟩
  | _ => none

def toJson (stats : TreeStats) : Json :=
  .object (fieldNames.zip (stats.counts.map .ofNat))

/-- A count fits 32 bits. -/
def count? (value : Json) : Option Nat :=
  value.nat?.filter (· < UInt32.size)

def read? (text : String) : Option TreeStats := do
  ofCounts? (← (← (← Json.read text).recordFields? fieldNames).mapM count?)

end TreeStats

def NodeKind.read? (text : String) : Option NodeKind := do
  NodeKind.ofName? (← (← Json.read text).choice?)

def SpanStyle.read? (text : String) : Option SpanStyle := do
  SpanStyle.ofName? (← (← Json.read text).choice?)

end Vitae
