import Vitae.Conversion
import Vitae.Proofs.JsonText

/-! Content survives being written as JSON. Every node is read back from its own members, whatever its strings are, and
a document is read back from its text in both layouts wherever the reader lets it nest as deep as it does. -/

namespace Vitae

namespace Json

mutual

/-- The reader has nothing against a value without numbers. -/
theorem Textual.isSound {value : Json} (textual : Textual value) : value.isSound = true := by
  cases value with
  | number | halfPair => exact textual.elim
  | array items => exact AllTextual.areSound textual
  | object members => exact MembersTextual.membersAreSound textual
  | null | bool | string => rfl
termination_by structural value

theorem AllTextual.areSound {items : List Json} (textual : AllTextual items) : Json.areSound items = true := by
  cases items with
  | nil => rfl
  | cons item rest => rw [Json.areSound, textual.1.isSound, AllTextual.areSound textual.2, Bool.and_self]
termination_by structural items

theorem MembersTextual.membersAreSound {members : List (String × Json)} (textual : MembersTextual members) :
    Json.membersAreSound members = true := by
  cases members with
  | nil => rfl
  | cons member rest =>
    obtain ⟨name, value⟩ := member
    rw [Json.membersAreSound, textual.1.isSound, MembersTextual.membersAreSound textual.2, Bool.and_self]
termination_by structural members

end

private theorem textual_strings (texts : List String) : Textual (.strings texts) := by
  induction texts with
  | nil => trivial
  | cons text rest ih => exact ⟨trivial, ih⟩

private theorem texts?_strings (texts : List String) : (Json.strings texts).texts? = some texts := by
  have each : (texts.map Json.string).mapM text? = some texts := by
    induction texts with
    | nil => rfl
    | cons text rest ih => simp [List.mapM_cons, text?, ih]
  exact each

end Json

namespace Node

open Json

mutual

theorem textual_toJson (node : Node) : Textual node.toJson := by
  cases node with
  | header name lines contacts =>
    exact ⟨trivial, trivial, textual_strings lines, allTextual_toJsons contacts, trivial⟩
  | titled title body => exact ⟨trivial, trivial, allTextual_toJsons body, trivial⟩
  | entry primary secondary tertiary quaternary =>
    exact ⟨trivial, textual_toJson primary, textual_toJson secondary, textual_toJson tertiary,
      textual_toJson quaternary, trivial⟩
  | itemList bulleted items => exact ⟨trivial, trivial, allTextual_toJsons items, trivial⟩
  | columnGroup columns => exact ⟨trivial, allTextual_toJsons columns, trivial⟩
  | centered body => exact ⟨trivial, allTextual_toJsons body, trivial⟩
  | styled style child => exact ⟨trivial, trivial, textual_toJson child, trivial⟩
  | link href label => exact ⟨trivial, trivial, textual_toJson label, trivial⟩
  | fragment children => exact ⟨trivial, allTextual_toJsons children, trivial⟩
  | lineBreak | separator => exact ⟨trivial, trivial⟩
  | text value => exact ⟨trivial, trivial, trivial⟩
termination_by structural node

private theorem allTextual_toJsons (nodes : List Node) : AllTextual (toJsons nodes) := by
  cases nodes with
  | nil => trivial
  | cons node rest => exact ⟨textual_toJson node, allTextual_toJsons rest⟩
termination_by structural nodes

end

section fields

private theorem ofName?_name (kind : NodeKind) : NodeKind.ofName? kind.name = some kind := by
  cases kind <;> decide

private theorem ofName?_styleName (style : SpanStyle) : SpanStyle.ofName? style.name = some style := by
  cases style <;> decide

private theorem raw_field (value : Json) : (field value).raw = value := by
  cases value <;> rfl

/-- Fields that are named in order are found by their names. -/
theorem mapM_onlyMember? {names : List String} (distinct : names.Nodup) {fields : List Field}
    (same : fields.length = names.length) (others : List (String × Field)) (apart : ∀ member ∈ others, member.1 ∉ names) :
    names.mapM (onlyMember? (others ++ names.zip fields)) = some fields := by
  induction names generalizing fields others with
  | nil =>
    rw [List.length_eq_zero_iff.mp same]
    rfl
  | cons name names ih =>
    cases fields with
    | nil => contradiction
    | cons field fields =>
      obtain ⟨fresh, distinct⟩ := List.nodup_cons.mp distinct
      have before : others.filter (·.1 = name) = [] := by
        rw [List.filter_eq_nil_iff]
        intro member inside same
        exact apart member inside (by simp_all)
      have behind : (names.zip fields).filter (·.1 = name) = [] := by
        rw [List.filter_eq_nil_iff]
        intro member inside same
        have listed : member.1 ∈ names := (List.of_mem_zip inside).1
        rw [of_decide_eq_true same] at listed
        exact fresh listed
      have found : onlyMember? (others ++ (name, field) :: names.zip fields) name = some field := by
        simp [onlyMember?, before, behind]
      have apart' : ∀ member ∈ others ++ [(name, field)], member.1 ∉ names := by
        intro member inside listed
        rcases List.mem_append.mp inside with earlier | here
        · exact apart member earlier (List.mem_cons_of_mem name listed)
        · rw [List.mem_singleton.mp here] at listed
          exact fresh listed
      have later := ih distinct (Nat.succ.inj same) _ apart'
      rw [List.append_assoc, List.singleton_append] at later
      rw [List.zip_cons_cons, List.mapM_cons, found, later]
      rfl

/-- A node is its tag and its fields, in the order of their names. -/
theorem ofMembers?_tagged (inside : Bool) (kind : NodeKind) (fields : List Field)
    (same : fields.length = kind.fieldNames.length) :
    ofMembers? inside (("type", field (.string kind.name)) :: kind.fieldNames.zip fields) = ofFields? kind fields := by
  have distinct : ("type" :: kind.fieldNames).Nodup := by cases kind <;> decide
  have count : (field (.string kind.name) :: fields).length = ("type" :: kind.fieldNames).length := by simp [same]
  have found := mapM_onlyMember? distinct count [] (by simp)
  simp only [List.nil_append, List.zip_cons_cons, List.mapM_cons, Option.bind_eq_bind, Option.bind_eq_some_iff,
    Option.pure_def, Option.some.injEq, List.cons.injEq] at found
  obtain ⟨tag, tagged, others, named, rfl, rfl⟩ := found
  simp [ofMembers?, tagged, raw_field, kindTag?, ofName?_name, named]

private theorem memberFields_eq_map (members : List (String × Json)) :
    memberFields members = members.map fun member => (member.1, field member.2) := by
  induction members with
  | nil => rfl
  | cons member rest ih => rw [memberFields, ih, List.map_cons]

end fields

/-- A node is written as an object, and its members give it back, inside another node or not. -/
def ReadsBack (node : Node) : Prop :=
  ∃ members, node.toJson = .object members ∧ ∀ inside, ofMembers? inside (memberFields members) = some node

private theorem readsBack_of_fields {node : Node} (kind : NodeKind) (values : List Json)
    (shape : node.toJson = .object (("type", .string kind.name) :: kind.fieldNames.zip values))
    (same : values.length = kind.fieldNames.length) (read : ofFields? kind (values.map field) = some node) :
    ReadsBack node := by
  refine ⟨_, shape, fun inside => ?_⟩
  have named : memberFields (("type", .string kind.name) :: kind.fieldNames.zip values) =
      ("type", field (.string kind.name)) :: kind.fieldNames.zip (values.map field) := by
    rw [memberFields, memberFields_eq_map, List.zip_map_right]
    rfl
  rw [named, ofMembers?_tagged inside kind _ (by simpa using same), read]

theorem ReadsBack.field {node : Node} (readsBack : ReadsBack node) :
    field node.toJson = ⟨node.toJson, some node, none⟩ := by
  obtain ⟨members, same, read⟩ := readsBack
  rw [same, Node.field, read]

theorem ReadsBack.ofJson? {node : Node} (readsBack : ReadsBack node) : ofJson? node.toJson = some node := by
  obtain ⟨members, same, read⟩ := readsBack
  rw [same, Node.ofJson?, read]

mutual

private theorem readsBack (node : Node) : ReadsBack node := by
  cases node with
  | header name lines contacts =>
    refine readsBack_of_fields .header [.string name, .strings lines, .array (toJsons contacts)] rfl rfl ?_
    simp [ofFields?, raw_field, text?, texts?_strings, field, mapM_node?_fields contacts]
  | titled title body =>
    refine readsBack_of_fields .titled [.string title, .array (toJsons body)] rfl rfl ?_
    simp [ofFields?, text?, field, mapM_node?_fields body]
  | entry primary secondary tertiary quaternary =>
    refine readsBack_of_fields .entry [primary.toJson, secondary.toJson, tertiary.toJson, quaternary.toJson] rfl rfl ?_
    simp [ofFields?, (readsBack primary).field, (readsBack secondary).field, (readsBack tertiary).field,
      (readsBack quaternary).field]
  | itemList bulleted items =>
    refine readsBack_of_fields .itemList [.bool bulleted, .array (toJsons items)] rfl rfl ?_
    simp [ofFields?, bool?, field, mapM_node?_fields items]
  | columnGroup columns =>
    refine readsBack_of_fields .columnGroup [.array (toJsons columns)] rfl rfl ?_
    simp [ofFields?, field, mapM_node?_fields columns]
  | centered body =>
    refine readsBack_of_fields .centered [.array (toJsons body)] rfl rfl ?_
    simp [ofFields?, field, mapM_node?_fields body]
  | styled style child =>
    refine readsBack_of_fields .styled [.string style.name, child.toJson] rfl rfl ?_
    simp [ofFields?, raw_field, styleField?, ofName?_styleName, (readsBack child).field]
  | link href label =>
    refine readsBack_of_fields .link [.string href, label.toJson] rfl rfl ?_
    simp [ofFields?, raw_field, text?, (readsBack label).field]
  | fragment children =>
    refine readsBack_of_fields .fragment [.array (toJsons children)] rfl rfl ?_
    simp [ofFields?, field, mapM_node?_fields children]
  | lineBreak => exact readsBack_of_fields .lineBreak [] rfl rfl rfl
  | separator => exact readsBack_of_fields .separator [] rfl rfl rfl
  | text value => exact readsBack_of_fields .text [.string value] rfl rfl rfl
termination_by structural node

private theorem mapM_node?_fields (nodes : List Node) : (fields (toJsons nodes)).mapM (·.node?) = some nodes := by
  cases nodes with
  | nil => rfl
  | cons node rest => simp [toJsons, fields, List.mapM_cons, (readsBack node).field, mapM_node?_fields rest]
termination_by structural nodes

end

private theorem mapM_ofJson?_toJsons (nodes : List Node) : (toJsons nodes).mapM Node.ofJson? = some nodes := by
  induction nodes with
  | nil => rfl
  | cons node rest ih => simp [toJsons, List.mapM_cons, (readsBack node).ofJson?, ih]

end Node

namespace Document

open Json

theorem textual_toJson (document : Document) : Textual document.toJson :=
  ⟨Node.allTextual_toJsons document.tree, textual_strings document.warnings, trivial⟩

theorem itemsDepth_strings (texts : List String) : itemsDepth (texts.map .string) = 0 := by
  induction texts with
  | nil => rfl
  | cons text rest ih => simpa [itemsDepth, Json.depth] using ih

private theorem depth_tree (tree : Tree) : tree.toJson.depth = itemsDepth (Node.toJsons tree) + 1 :=
  rfl

/-- The object of a document holds the array of its tree. -/
theorem depth_toJson (document : Document) : document.toJson.depth = itemsDepth (Node.toJsons document.tree) + 2 := by
  have strings : (Json.strings document.warnings).depth = 1 := congrArg (· + 1) (itemsDepth_strings document.warnings)
  have depths : document.toJson.depth = max document.tree.toJson.depth (max (Json.strings document.warnings).depth 0) + 1 :=
    rfl
  rw [depths, strings, depth_tree]
  omega

/-- Reading the value of a document gives the document, unless it nests too deep. -/
theorem ofJson?_toJson (document : Document) :
    Document.ofJson? document.toJson = if document.toJson.depth < depthLimit then some document else none := by
  have record : document.toJson.recordFields? ["tree", "warnings"] =
      some [document.tree.toJson, .strings document.warnings] := by
    simp [recordFields?, toJson]
  have sound : document.tree.toJson.isSound = true := (textual_toJson document).1.isSound
  have tree : Tree.ofJson? document.tree.toJson = some document.tree := Node.mapM_ofJson?_toJsons document.tree
  have levels : 1 + document.tree.toJson.depth < depthLimit ↔ document.toJson.depth < depthLimit := by
    rw [depth_toJson, depth_tree]
    omega
  rw [Document.ofJson?, record]
  simp only [admitted?, sound, levels, and_true, Option.bind_eq_bind, Option.bind_some, Option.pure_def]
  split
  · simp [tree, texts?_strings]
  · rfl

/-- Both layouts are read as the value that was written. -/
theorem read?_toJsonText_eq (document : Document) (layout : JsonLayout) :
    Document.read? (document.toJsonText layout) = Document.ofJson? document.toJson := by
  cases layout with
  | indented => rw [Document.read?, toJsonText, read_indented document.textual_toJson]; rfl
  | compact => rw [Document.read?, toJsonText, read_compact document.textual_toJson]; rfl

/-- The text of a document, in either layout, is read back as that document, unless it nests deeper than the reader
allows, when it is not read at all. -/
theorem read?_toJsonText (document : Document) (layout : JsonLayout) :
    Document.read? (document.toJsonText layout) = if document.toJson.depth < depthLimit then some document else none := by
  rw [read?_toJsonText_eq, ofJson?_toJson]

end Document

end Vitae
