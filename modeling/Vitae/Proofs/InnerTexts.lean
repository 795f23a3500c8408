import Mathlib.Data.List.Basic
import Vitae.Transpile.Elaborate

/-! A construct and the texts in it, which are transpiled one level deeper. Of that level the construct takes nothing but
what becomes of its own texts, and of the warnings about it each is about the construct itself or about one of them. -/

namespace Vitae

namespace Markup

def Column.text : Column → List Char
  | .stray text => text
  | .minipage body => body.inner

namespace Construct

/-- The texts in a construct that are transpiled, one level deeper. -/
def inside (options : TranspileOptions) : Construct → List (List Char)
  | .group content | .styled _ _ (some content) | .heading (some content) => [content.inner]
  | .banner _ name contacts => [name, contacts]
  | .declaration _ _ scope => [scope]
  | .href (some _) (some label) => [label.inner]
  | .entry fields => fields.map (·.inner)
  | .looseItems items => (items.filterMap id).map (·.inner)
  | .list _ _ body => (splitItems body.inner).lead :: (splitItems body.inner).items
  | .minipages bodies => bodies.map (·.inner)
  | .center body =>
    if holdsEnvironment minipageName body.inner then (columns body.inner body.inner).map Column.text else [body.inner]
  | .document body | .environment _ body => [body.inner]
  | .unknown _ (some argument) => if options.unwrapUnknown then [argument.inner] else []
  | _ => []

end Construct

end Markup

namespace Transpile

open Markup

section content

theorem mapM_congr {α β : Type} {items : List α} {body other : α → Noted β}
    (same : ∀ item ∈ items, body item = other item) : items.mapM body = items.mapM other := by
  induction items with
  | nil => rfl
  | cons item items ih =>
    rw [List.mapM_cons, List.mapM_cons, same item (by simp), ih fun next member => same next (by simp [member])]

variable {options : TranspileOptions} {inner other : List Char → Noted (List Node)}

private theorem argumentNodes_congr {argument : Enclosed} (same : inner argument.inner = other argument.inner) :
    argumentNodes inner argument = argumentNodes other argument := by
  rw [argumentNodes, argumentNodes, same]

private theorem slot_congr {argument : Enclosed} (same : inner argument.inner = other argument.inner) :
    slot inner argument = slot other argument := by
  rw [slot, slot, argumentNodes_congr same]

/-- The rest of a computation matters only at the value of its beginning. -/
theorem bind_congr_value {α β : Type} {noted : Noted α} {next later : α → Noted β}
    (same : next noted.value = later noted.value) : noted >>= next = noted >>= later := by
  change Noted.mk (next noted.value).value _ = Noted.mk (later noted.value).value _
  rw [same]

theorem value_blockBody (opening : List Char) (body : Enclosed) : (blockBody opening body).value = body.inner := by
  unfold blockBody
  split <;> rfl

private theorem blockBody_congr {α : Type} {opening : List Char} {body : Enclosed} {next later : List Char → Noted α}
    (same : next body.inner = later body.inner) : blockBody opening body >>= next = blockBody opening body >>= later :=
  bind_congr_value (by rw [value_blockBody, same])

private theorem itemNodes_congr {body : List Char}
    (same : ∀ part ∈ (splitItems body).lead :: (splitItems body).items, inner part = other part) :
    itemNodes inner body = itemNodes other body := by
  obtain ⟨lead, items⟩ := List.forall_mem_cons.mp same
  have rest : ((splitItems body).items.mapM fun item => return Node.collapse (← inner item)) =
      (splitItems body).items.mapM fun item => return Node.collapse (← other item) :=
    mapM_congr fun item member => by rw [items item member]
  rw [itemNodes, itemNodes, lead, rest]

private theorem minipageNode_congr {body : Enclosed} (same : inner body.inner = other body.inner) :
    minipageNode inner body = minipageNode other body := by
  rw [minipageNode, minipageNode]
  exact blockBody_congr (by rw [same])

private theorem columnNodes_congr {column : Column} (same : inner column.text = other column.text) :
    columnNodes inner column = columnNodes other column := by
  cases column with
  | stray text =>
    have same : inner text = other text := same
    rw [columnNodes, columnNodes, same]
  | minipage body => rw [columnNodes, columnNodes, minipageNode_congr same]

private theorem centerNodes_congr {body : List Char}
    (same : ∀ part ∈ if holdsEnvironment minipageName body then (columns body body).map Column.text else [body],
      inner part = other part) :
    centerNodes inner body = centerNodes other body := by
  rw [centerNodes, centerNodes]
  split
  next held =>
    rw [if_pos held] at same
    have nodes : (columns body body).mapM (columnNodes inner) = (columns body body).mapM (columnNodes other) :=
      mapM_congr fun column member => columnNodes_congr (same _ (List.mem_map_of_mem member))
    rw [nodes]
  next free =>
    rw [if_neg free] at same
    rw [same body (List.mem_singleton_self body)]

/-- A construct is elaborated alike where the texts in it are transpiled alike. -/
theorem elaborated_congr {read : Construct} (same : ∀ part ∈ read.inside options, inner part = other part) :
    elaborated options inner read = elaborated options other read := by
  cases read with
  | run | symbol | lineBreak | separator | silent | unmatchedBrace | unnamedBegin | unmatchedEnd | unmatchedListEnd |
    itemOutsideList => rfl
  | color argument? => cases argument? <;> rfl
  | url target? => cases target? <;> rfl
  | group content => rw [elaborated, elaborated, argumentNodes_congr (same _ (by simp [Construct.inside]))]
  | styled command style argument? =>
    cases argument? with
    | none => rfl
    | some argument => rw [elaborated, elaborated, argumentNodes_congr (same _ (by simp [Construct.inside]))]
  | banner argument name contacts =>
    have first : inner name = other name := same _ (by simp [Construct.inside])
    have second : inner contacts = other contacts := same _ (by simp [Construct.inside])
    rw [elaborated, elaborated, first, second]
  | declaration color? style scope =>
    have inside : inner scope = other scope := same _ (by simp [Construct.inside])
    simp only [elaborated, inside]
  | heading title? =>
    cases title? with
    | none => rfl
    | some title => rw [elaborated, elaborated, slot_congr (same _ (by simp [Construct.inside]))]
  | href target? label? =>
    cases target? with
    | none => rfl
    | some target =>
      cases label? with
      | none => rfl
      | some label =>
        have inside : slot inner label = slot other label := slot_congr (same _ (by simp [Construct.inside]))
        simp only [elaborated, inside]
  | entry fields =>
    have slots : fields.mapM (slot inner) = fields.mapM (slot other) :=
      mapM_congr fun field member => slot_congr (same _ (List.mem_map_of_mem member))
    rw [elaborated, elaborated, slots]
  | looseItems items =>
    rw [elaborated, elaborated]
    refine congrArg (· >>= _) (mapM_congr fun item member => ?_)
    cases item with
    | none => rfl
    | some argument =>
      have inside : slot inner argument = slot other argument :=
        slot_congr (same _ (List.mem_map_of_mem (List.mem_filterMap.mpr ⟨_, member, rfl⟩)))
      simp only [inside]
  | list opening bulleted body =>
    rw [elaborated, elaborated]
    exact blockBody_congr (by rw [itemNodes_congr same])
  | minipages bodies =>
    have nodes : bodies.mapM (minipageNode inner) = bodies.mapM (minipageNode other) :=
      mapM_congr fun body member => minipageNode_congr (same _ (List.mem_map_of_mem member))
    rw [elaborated, elaborated, nodes]
  | center body =>
    rw [elaborated, elaborated]
    exact blockBody_congr (by rw [centerNodes_congr same])
  | document body | environment name body =>
    rw [elaborated, elaborated]
    exact blockBody_congr (by rw [same _ (by simp [Construct.inside])])
  | unknown command argument? =>
    cases argument? with
    | none => rfl
    | some argument =>
      rw [elaborated, elaborated]
      cases kept : options.unwrapUnknown with
      | false => rfl
      | true => rw [same _ (by simp [Construct.inside, kept])]

/-- The limit of nesting says nothing about a construct, only about the texts in it. -/
theorem elaborated_limit (limit : Nat) (read : Construct) :
    elaborated { options with maxDepth := limit } inner read = elaborated options inner read := by
  cases read <;> rfl

end content

section values

variable (options : TranspileOptions) (inner : List Char → Noted (List Node))

/-- A text where one node is asked for. -/
def collapsed (text : List Char) : Node :=
  .collapse (inner text).value

theorem value_declaration (color? : Option Enclosed) (style : SpanStyle) (scope : List Char) :
    (elaborated options inner (.declaration color? style scope)).value =
      if (inner scope).value.all (·.isInline) then styledParts style (inner scope).value
      else nodeParts (inner scope).value := by
  cases color? <;> rfl

/-- The fields of an entry are the texts in it, unless it is incomplete and left out. -/
theorem value_entry (fields : List Enclosed) :
    let made := (elaborated options inner (.entry fields)).value
    made = [] ∨ made = [.node (.entryOf (((Construct.entry fields).inside options).map (collapsed inner)))] := by
  have slots : (fields.mapM (slot inner)).value = (fields.map (·.inner)).map (collapsed inner) := by
    rw [Noted.value_mapM, List.map_map]
    rfl
  simp only [elaborated, Noted.value_bind, slots, Construct.inside]
  split
  next =>
    rw [Noted.value_bind]
    split
    next => exact .inl rfl
    next => exact .inr rfl
  next => exact .inr rfl

/-- Loose items are the texts in them, and no list is made of none. -/
theorem value_looseItems (items : List (Option Enclosed)) :
    let made := (elaborated options inner (.looseItems items)).value
    made = [] ∨ made = [.node (.itemList true (((Construct.looseItems items).inside options).map (collapsed inner)))] := by
  simp only [elaborated, Noted.value_bind, Noted.value_mapM, Construct.inside]
  split
  next => exact .inl rfl
  next some =>
    clear some
    refine .inr (congrArg (fun items => [Part.node (.itemList true items)]) ?_)
    induction items with
    | nil => rfl
    | cons item? items ih =>
      cases item? with
      | none => exact ih
      | some argument => exact congrArg (collapsed inner argument.inner :: ·) ih

theorem value_minipages (bodies : List Enclosed) :
    (elaborated options inner (.minipages bodies)).value =
      [.node (.columnGroup (((Construct.minipages bodies).inside options).map (collapsed inner)))] := by
  have columns : (bodies.mapM (minipageNode inner)).value = (bodies.map (·.inner)).map (collapsed inner) := by
    rw [Noted.value_mapM, List.map_map]
    refine List.map_congr_left fun body _ => ?_
    rw [minipageNode, Noted.value_bind, value_blockBody]
    rfl
  simp only [elaborated, Noted.value_bind, columns]
  rfl

/-- The items of a list are the texts in it but for a lead that shows nothing. -/
theorem value_itemNodes (body : List Char) :
    ∃ texts ⊆ (splitItems body).lead :: (splitItems body).items,
      (itemNodes inner body).value = texts.map (collapsed inner) := by
  have each : ((splitItems body).items.mapM fun item => return Node.collapse (← inner item)).value =
      (splitItems body).items.map (collapsed inner) :=
    Noted.value_mapM _ _
  simp only [itemNodes, Noted.value_bind]
  split
  next => exact ⟨_, List.subset_cons_self _ _, each⟩
  next => exact ⟨_, List.Subset.refl _, congrArg (collapsed inner (splitItems body).lead :: ·) each⟩

private theorem value_columnNodes (column : Column) :
    (columnNodes inner column).value = [collapsed inner column.text] ∨
      (columnNodes inner column).value = [] ∧ ∀ page, column ≠ .minipage page := by
  cases column with
  | stray text =>
    simp only [columnNodes, Noted.value_bind, Noted.value_pure]
    split
    next => exact .inr ⟨rfl, nofun⟩
    next => exact .inl rfl
  | minipage page =>
    simp only [columnNodes, minipageNode, Noted.value_bind, value_blockBody]
    exact .inl rfl

/-- The columns of centered content are the texts in it but for stray ones that show nothing. -/
theorem value_columns (columns : List Column) :
    ∃ texts ⊆ columns.map Column.text, (∀ page, .minipage page ∈ columns → page.inner ∈ texts) ∧
      (columns.mapM (columnNodes inner)).value.flatten = texts.map (collapsed inner) := by
  rw [Noted.value_mapM]
  induction columns with
  | nil => exact ⟨[], List.Subset.refl _, by simp, rfl⟩
  | cons column columns ih =>
    obtain ⟨texts, among, pages, same⟩ := ih
    rw [List.map_cons, List.map_cons, List.flatten_cons, same]
    rcases value_columnNodes inner column with shown | ⟨nothing, stray⟩
    · rw [shown]
      refine ⟨column.text :: texts, List.cons_subset_cons _ among, ?_, rfl⟩
      intro page member
      rcases List.mem_cons.mp member with rfl | later
      · exact List.mem_cons_self
      · exact List.mem_cons_of_mem _ (pages page later)
    · rw [nothing]
      refine ⟨texts, List.subset_cons_of_subset _ among, ?_, rfl⟩
      intro page member
      exact pages page ((List.mem_cons.mp member).resolve_left (Ne.symm (stray page)))

end values
section faults

variable (inner : List Char → Noted (List Node))

def groupFaults (content : Enclosed) : List Warning :=
  if content.closed then [] else [.unclosedGroup]

def blockFaults (opening : List Char) (body : Enclosed) : List Warning :=
  if body.closed then [] else [.unclosedBlock opening]

/-- What is wrong where an argument is asked for. -/
def argumentFaults (missing : Warning) : Option Enclosed → List Warning
  | some argument => groupFaults argument
  | none => [missing]

/-- Nothing of a list should stand before its first item. -/
def leadFaults (body : List Char) : List Warning :=
  if (inner (splitItems body).lead).value.isEmpty then [] else [.contentBeforeItems]

def columnFaults : Column → List Warning
  | .stray _ => []
  | .minipage body => blockFaults minipageOpening body

/-- What is wrong with a construct, whatever is wrong with the texts in it. -/
def faults (options : TranspileOptions) : Construct → List Warning
  | .run _ | .symbol _ | .lineBreak | .separator | .silent => []
  | .unmatchedBrace => [.unmatchedBrace]
  | .group content => groupFaults content
  | .styled command _ argument? => argumentFaults (.withoutArgument command) argument?
  | .banner argument _ _ => groupFaults argument
  | .declaration color? _ _ => color?.elim [] groupFaults
  | .color argument? => argumentFaults .colorWithoutName argument?
  | .heading title? => argumentFaults .sectionWithoutTitle title?
  | .href none _ => [.linkWithoutTarget "href"]
  | .href (some argument) label? => groupFaults argument ++ argumentFaults (.linkWithoutLabel (target argument)) label?
  | .url target? => argumentFaults (.linkWithoutTarget "url") target?
  | .entry fields => fields.flatMap groupFaults ++ if fields.length < 4 then [.incompleteEntry fields.length] else []
  | .looseItems items => items.flatMap (argumentFaults (.withoutArgument "resumeItem"))
  | .list opening _ body => blockFaults opening body ++ leadFaults inner body.inner
  | .minipages bodies => bodies.flatMap (blockFaults minipageOpening)
  | .center body =>
    blockFaults "\\begin\x7bcenter\x7d".toList body ++
      if holdsEnvironment minipageName body.inner then (columns body.inner body.inner).flatMap columnFaults else []
  | .document body => blockFaults "\\begin\x7bdocument\x7d".toList body
  | .environment name body => blockFaults ("\\begin\x7b".toList ++ name ++ ['\x7d']) body ++ [.unknownEnvironment name]
  | .unnamedBegin => [.unnamedBegin]
  | .unmatchedEnd name => [.unmatchedEnd name]
  | .unmatchedListEnd => [.unmatchedListEnd]
  | .itemOutsideList => [.itemOutsideList]
  | .unknown _ none => []
  | .unknown command (some argument) => groupFaults argument ++ [.unknownCommand command options.unwrapUnknown]

end faults

section warnings

variable {α β : Type} {warning : Warning}

private theorem mem_warnings_mapM_of_parts {items : List α} {body : α → Noted β} {own : α → List Warning}
    {texts : α → List (List Char)} {inner : List Char → Noted (List Node)}
    (each : ∀ item, warning ∈ (body item).warnings ↔
      warning ∈ own item ∨ ∃ text ∈ texts item, warning ∈ (inner text).warnings) :
    warning ∈ (items.mapM body).warnings ↔
      warning ∈ items.flatMap own ∨ ∃ text ∈ items.flatMap texts, warning ∈ (inner text).warnings := by
  simp only [Noted.mem_warnings_mapM, each, List.mem_flatMap]
  grind

variable (inner : List Char → Noted (List Node))

private theorem warnings_noteUnclosed (content : Enclosed) : (noteUnclosed content).warnings = groupFaults content := by
  unfold noteUnclosed groupFaults
  split <;> rfl

private theorem warnings_slot (argument : Enclosed) :
    (slot inner argument).warnings = groupFaults argument ++ (inner argument.inner).warnings := by
  simp [slot, argumentNodes, warnings_noteUnclosed]

private theorem warnings_blockBody (opening : List Char) (body : Enclosed) :
    (blockBody opening body).warnings = blockFaults opening body := by
  unfold blockBody blockFaults
  split <;> rfl

private theorem warnings_minipageNode (body : Enclosed) :
    (minipageNode inner body).warnings = blockFaults minipageOpening body ++ (inner body.inner).warnings := by
  simp [minipageNode, warnings_blockBody, value_blockBody]

private theorem warnings_columnNodes (column : Column) :
    (columnNodes inner column).warnings = columnFaults column ++ (inner column.text).warnings := by
  cases column with
  | stray text => simp [columnNodes, columnFaults, Column.text]
  | minipage body => simp [columnNodes, columnFaults, Column.text, warnings_minipageNode]

private theorem mem_warnings_itemNodes {body : List Char} :
    warning ∈ (itemNodes inner body).warnings ↔
      warning ∈ leadFaults inner body ∨
        ∃ text ∈ (splitItems body).lead :: (splitItems body).items, warning ∈ (inner text).warnings := by
  simp only [itemNodes, leadFaults, Noted.warnings_bind, List.mem_append]
  split
  next => simp [Noted.mem_warnings_mapM]
  next => simp [Noted.mem_warnings_mapM, or_left_comm]

private theorem mem_warnings_centerNodes {body : List Char} :
    warning ∈ (centerNodes inner body).warnings ↔
      if holdsEnvironment minipageName body then
        warning ∈ (columns body body).flatMap columnFaults ∨
          ∃ text ∈ (columns body body).map Column.text, warning ∈ (inner text).warnings
      else warning ∈ (inner body).warnings := by
  unfold centerNodes
  split
  next =>
    rw [Noted.warnings_bind, Noted.warnings_pure, List.append_nil, List.map_eq_flatMap]
    exact mem_warnings_mapM_of_parts (by simp [warnings_columnNodes])
  next => simp

variable (options : TranspileOptions)

/-- The warnings of a construct are about itself or about a text in it. -/
theorem mem_warnings_elaborated {read : Construct} :
    warning ∈ (elaborated options inner read).warnings ↔
      warning ∈ faults inner options read ∨ ∃ text ∈ read.inside options, warning ∈ (inner text).warnings := by
  cases read with
  | run | symbol | lineBreak | separator | silent | unmatchedBrace | unnamedBegin | unmatchedEnd | unmatchedListEnd |
    itemOutsideList => simp [elaborated, faults, Construct.inside]
  | group content => simp [elaborated, argumentNodes, warnings_noteUnclosed, faults, Construct.inside]
  | styled command style argument? =>
    cases argument? <;> simp [elaborated, argumentNodes, warnings_noteUnclosed, faults, argumentFaults, Construct.inside]
  | banner argument name contacts => simp [elaborated, warnings_noteUnclosed, faults, Construct.inside]
  | declaration color? style scope =>
    cases color? <;> simp [elaborated, warnings_noteUnclosed, faults, Construct.inside]
  | color argument? =>
    cases argument? <;> simp [elaborated, warnings_noteUnclosed, faults, argumentFaults, Construct.inside]
  | heading title? =>
    cases title? <;> simp [elaborated, warnings_slot, faults, argumentFaults, Construct.inside]
  | href target? label? =>
    cases target? with
    | none => simp [elaborated, faults, Construct.inside]
    | some target =>
      cases label? <;>
        simp [elaborated, warnings_noteUnclosed, warnings_slot, faults, argumentFaults, Construct.inside, or_assoc]
  | url target? =>
    cases target? <;> simp [elaborated, warnings_noteUnclosed, faults, argumentFaults, Construct.inside]
  | entry fields =>
    have slots : warning ∈ (fields.mapM (slot inner)).warnings ↔
        warning ∈ fields.flatMap groupFaults ∨ ∃ text ∈ fields.map (·.inner), warning ∈ (inner text).warnings := by
      rw [List.map_eq_flatMap]
      exact mem_warnings_mapM_of_parts (by simp [warnings_slot])
    have count : (fields.mapM (slot inner)).value.length = fields.length := by rw [Noted.value_mapM, List.length_map]
    rw [elaborated, Noted.warnings_bind, List.mem_append, slots, faults, List.mem_append, Construct.inside, count,
      or_right_comm]
    refine or_congr_left (or_congr_right ?_)
    split
    next =>
      -- The policy is asked behind the warning and adds none.
      rw [Noted.warnings_bind]
      split <;> simp
    next => simp
  | looseItems items =>
    have texts : (items.filterMap id).map (·.inner) = items.flatMap fun item => item.toList.map (·.inner) := by
      simp [List.filterMap_eq_flatMap_toList, List.map_flatMap]
    rw [elaborated, Noted.warnings_bind, Noted.warnings_pure, List.append_nil, faults, Construct.inside, texts]
    refine mem_warnings_mapM_of_parts fun item => ?_
    cases item <;> simp [warnings_slot, argumentFaults]
  | list opening bulleted body =>
    simp only [elaborated, Noted.warnings_bind, Noted.warnings_pure, List.append_nil, List.mem_append, warnings_blockBody,
      value_blockBody, mem_warnings_itemNodes, faults, Construct.inside, or_assoc]
  | minipages bodies =>
    rw [elaborated, Noted.warnings_bind, Noted.warnings_pure, List.append_nil, faults, Construct.inside, List.map_eq_flatMap]
    exact mem_warnings_mapM_of_parts (by simp [warnings_minipageNode])
  | center body =>
    simp only [elaborated, Noted.warnings_bind, Noted.warnings_pure, List.append_nil, List.mem_append, warnings_blockBody,
      value_blockBody, mem_warnings_centerNodes, faults, Construct.inside, or_assoc]
    split <;> simp
  | document body => simp [elaborated, warnings_blockBody, value_blockBody, faults, Construct.inside]
  | environment name body => simp [elaborated, warnings_blockBody, value_blockBody, faults, Construct.inside, or_assoc]
  | unknown command argument? =>
    cases argument? with
    | none => simp [elaborated, faults, Construct.inside]
    | some argument =>
      cases kept : options.unwrapUnknown <;>
        simp [elaborated, warnings_noteUnclosed, faults, Construct.inside, kept, or_assoc]

/-- A construct is read without a warning where nothing is wrong with it and the texts in it are read so. -/
theorem warnings_elaborated_eq_nil {read : Construct} :
    (elaborated options inner read).warnings = [] ↔
      faults inner options read = [] ∧ ∀ text ∈ read.inside options, (inner text).warnings = [] := by
  simp only [List.eq_nil_iff_forall_not_mem, mem_warnings_elaborated]
  grind

/-- The warnings of a text are those of the constructs in it. -/
theorem mem_warnings_sequence {levels : Nat} {top : Bool} {text : List Char} :
    warning ∈ (sequence options (levels + 1) top text).warnings ↔
      ∃ read ∈ constructs top text, warning ∈ (elaborated options (sequence options levels false) read).warnings := by
  rw [sequence, Noted.warnings_bind, Noted.warnings_pure, List.append_nil, Noted.mem_warnings_mapM]

theorem warnings_sequence_eq_nil {levels : Nat} {top : Bool} {text : List Char} :
    (sequence options (levels + 1) top text).warnings = [] ↔
      ∀ read ∈ constructs top text, (elaborated options (sequence options levels false) read).warnings = [] := by
  simp only [List.eq_nil_iff_forall_not_mem, mem_warnings_sequence]
  grind

end warnings

end Transpile

end Vitae
