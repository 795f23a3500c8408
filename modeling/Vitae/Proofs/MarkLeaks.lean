import Vitae.Proofs.MarkedTree
import Vitae.Proofs.NormalForm

/-! Where marks leak. Of all that a document says, a mark can stand only in what is copied from the source as it is: in the
names that warnings quote and in the targets of links, with the labels that such a target gives its link. -/

namespace Vitae

open Markup Node

namespace Markup.Construct

/-- The target of the link that a construct makes. -/
def target? : Construct → Option String
  | .href (some target) _ | .url (some target) => some (Transpile.target target)
  | _ => none

/-- The target where it is the label as well. -/
def ownLabel? : Construct → Option String
  | .href (some target) none | .url (some target) => some (Transpile.target target)
  | _ => none

end Markup.Construct

namespace Transpile

variable {linked : String → Prop} {shown : Prop}

section parts

/-- A part is traced like the node or the title that it is. -/
def Part.Traced (linked : String → Prop) (shown : Prop) : Part → Prop
  | .node made => AllTraced linked shown [made]
  | .heading title => Marked title.toList → shown

def TracedParts (linked : String → Prop) (shown : Prop) (parts : List Part) : Prop :=
  ∀ part ∈ parts, part.Traced linked shown

private theorem tracedParts_nil : TracedParts linked shown [] := by
  simp [TracedParts]

private theorem tracedParts_single {part : Part} (traced : part.Traced linked shown) :
    TracedParts linked shown [part] := by
  simpa [TracedParts] using traced

private theorem tracedParts_nodeParts {nodes : List Node} (all : AllTraced linked shown nodes) :
    TracedParts linked shown (nodeParts nodes) := by
  intro part member
  obtain ⟨node, place, rfl⟩ := List.mem_map.mp member
  exact all.single place

private theorem tracedParts_styledParts (style : SpanStyle) {nodes : List Node} (all : AllTraced linked shown nodes) :
    TracedParts linked shown (styledParts style nodes) := by
  simp only [styledParts]
  split
  next => exact tracedParts_nil
  next => exact tracedParts_single (allTraced_single (traced_silent rfl rfl) all.collapse)

private theorem allTraced_gather {parts : List Part} (traced : TracedParts linked shown parts) :
    AllTraced linked shown (gather parts).1 ∧ AllTraced linked shown (gather parts).2 := by
  induction parts with
  | nil => exact ⟨allTraced_nil, allTraced_nil⟩
  | cons part rest ih =>
    obtain ⟨first, later⟩ := List.forall_mem_cons.mp traced
    obtain ⟨before, sections⟩ := ih later
    cases part with
    | node node => exact ⟨AllTraced.append first before, sections⟩
    | heading title =>
      have own : (Node.titled title (Node.tidy (gather rest).1)).Traced linked shown := by
        refine ⟨fun href same => by simp [Node.target?] at same, fun text member => ?_⟩
        obtain rfl := List.mem_singleton.mp member
        exact first
      exact ⟨allTraced_nil, allTraced_cons.mpr ⟨own, before.tidy, sections⟩⟩

private theorem allTraced_arrange {parts : List Part} (traced : TracedParts linked shown parts) :
    AllTraced linked shown (arrange parts) := by
  obtain ⟨before, sections⟩ := allTraced_gather traced
  exact before.tidy.append sections

end parts

section blocks

private theorem contactSegments_subset (nodes : List Node) : ∀ segment ∈ contactSegments nodes, segment ⊆ nodes := by
  fun_induction contactSegments nodes with
  | case1 => simp
  | case2 rest ih | case3 rest ih =>
    refine List.forall_mem_cons.mpr ⟨List.nil_subset _, fun segment member => ?_⟩
    exact List.subset_cons_of_subset _ (ih segment member)
  | case4 node rest _ _ none ih => simp
  | case5 node rest _ _ segment later some ih =>
    rw [some] at ih
    obtain ⟨first, others⟩ := List.forall_mem_cons.mp ih
    refine List.forall_mem_cons.mpr ⟨List.cons_subset_cons _ first, fun other member => ?_⟩
    exact List.subset_cons_of_subset _ (others other member)

private theorem allTraced_headerOf {name : String} (clear : Marked name.toList → shown) {nodes : List Node}
    (all : AllTraced linked shown nodes) : AllTraced linked shown [headerOf name nodes] := by
  have contacts : AllTraced linked shown (headerOf name nodes).children := by
    refine allTraced_of_forall fun contact member => ?_
    obtain ⟨segment, place, rfl⟩ := List.mem_map.mp (List.mem_filter.mp member).1
    exact (all.mono (contactSegments_subset nodes segment place)).tidy.collapse
  refine allTraced_single ⟨fun href same => by simp [headerOf, Node.target?] at same, fun text member marked => ?_⟩ contacts
  rcases List.mem_cons.mp member with rfl | line
  · exact clear marked
  · obtain ⟨contact, place, rfl⟩ := List.mem_map.mp line
    exact (contacts.single place).plainText marked.of_trimmed

private theorem allTraced_centeredRun {nodes : List Node} (all : AllTraced linked shown nodes) :
    AllTraced linked shown (centeredRun nodes) := by
  have tidied := all.tidy
  unfold centeredRun
  split
  next => exact allTraced_nil
  next => exact allTraced_single (traced_silent rfl rfl) tidied

private theorem allTraced_centered {nodes : List Node} (all : AllTraced linked shown nodes) :
    AllTraced linked shown (centered nodes) := by
  have runs {nodes : List Node} (all : AllTraced linked shown nodes) :
      AllTraced linked shown (centerRuns nodes).1 ∧ AllTraced linked shown (centerRuns nodes).2 := by
    fun_induction centerRuns nodes with
    | case1 => exact ⟨allTraced_nil, allTraced_nil⟩
    | case2 name lines contacts rest ih =>
      obtain ⟨own, below, behind⟩ := allTraced_cons.mp all
      obtain ⟨before, later⟩ := ih behind
      exact ⟨allTraced_nil, allTraced_cons.mpr ⟨own, below, (allTraced_centeredRun before).append later⟩⟩
    | case3 node rest other ih =>
      obtain ⟨own, below, behind⟩ := allTraced_cons.mp all
      obtain ⟨before, later⟩ := ih behind
      exact ⟨allTraced_cons.mpr ⟨own, below, before⟩, later⟩
  obtain ⟨before, later⟩ := runs all
  exact (allTraced_centeredRun before).append later

private theorem allTraced_linkNode {href : String} {label : Node} (known : linked href)
    (all : AllTraced linked shown [label]) :
    AllTraced linked shown [.link href label] := by
  refine allTraced_single ⟨fun other same => ?_, fun text member => by simp [Node.strings] at member⟩ all
  obtain rfl := Option.some.inj same
  exact known

private theorem allTraced_entryOf {fields : List Node} (each : ∀ field ∈ fields, AllTraced linked shown [field]) :
    AllTraced linked shown [.entryOf fields] := by
  refine allTraced_single (traced_silent rfl rfl) (allTraced_of_forall ?_)
  exact forall_children_entryOf each (allTraced_text (by simp))

end blocks

section flattening

private theorem not_marked_typeset {text : List Char} (clear : ¬ Marked text) : ¬ Marked (typeset text) := by
  have typographic : ¬ Marked ['—', '\u00A0', '“', '”'] := by decide
  rintro ⟨c, member, mark⟩
  rcases mem_typeset member with own | set
  · exact clear ⟨c, own, mark⟩
  · exact typographic ⟨c, set, mark⟩

/-- What is visible of markup has no marks: they are shown as a space and as a pipe. -/
theorem not_marked_visible (text : List Char) : ¬ Marked (visible text) := by
  have space : isMark ' ' = false := by decide
  have pipe : isMark '|' = false := by decide
  fun_induction visible text with
  | case1 => exact not_marked_nil
  | case2 rest command found ih =>
    rw [marked_append, not_or]
    refine ⟨?_, ih⟩
    cases symbol : symbol? command.name with
    | none => exact not_marked_nil
    | some shown => exact not_marked_symbol symbol
  | case3 rest none ih => exact ih
  | case4 rest _ ih => simp [space, ih]
  | case5 rest _ _ ih => simp [space, pipe, ih]
  | case6 c rest _ _ _ hidden ih => exact ih
  | case7 c rest _ lineBreak separator _ ih => simp [isMark, lineBreak, separator, ih]

private theorem allTraced_flattened (text : List Char) : AllTraced linked shown (flattened text) := by
  have space : ¬ Marked [' '] := by decide
  unfold flattened
  split
  next => exact allTraced_nil
  next =>
    refine allTraced_text fun marked => ?_
    rw [String.toList_ofList] at marked
    rcases marked.of_intercalate with between | ⟨word, member, marked⟩
    · exact absurd between space
    · exact absurd (marked.mono (Text.words_subset _ _ word member)) (not_marked_visible text)

end flattening

section elaboration

variable (options : TranspileOptions) {inner : List Char → Noted (List Node)}

private theorem allTraced_collapsed {texts given : List (List Char)} (among : texts ⊆ given)
    (inside : ∀ text ∈ given, AllTraced linked shown (inner text).value) :
    AllTraced linked shown (texts.map (collapsed inner)) := by
  refine allTraced_of_forall fun node member => ?_
  obtain ⟨text, place, rfl⟩ := List.mem_map.mp member
  exact (inside text (among place)).collapse

private theorem allTraced_centerNodes {body : Enclosed}
    (inside : ∀ text ∈ (Construct.center body).inside options, AllTraced linked shown (inner text).value) :
    AllTraced linked shown (centerNodes inner body.inner).value := by
  unfold centerNodes
  simp only [Construct.inside] at inside
  split
  next holds =>
    rw [if_pos holds] at inside
    obtain ⟨texts, among, -, same⟩ := value_columns inner (columns body.inner body.inner)
    rw [Noted.value_bind, same]
    exact allTraced_single (traced_silent rfl rfl) (allTraced_collapsed among inside)
  next none =>
    rw [if_neg none] at inside
    exact allTraced_centered (inside _ (List.mem_singleton.mpr rfl))

/-- What a construct becomes is traced where its own target, its label and the texts inside it are. -/
theorem tracedParts_elaborated {read : Construct} (clear : read.Clear)
    (known : ∀ href, read.target? = some href → linked href)
    (labelled : ∀ href, read.ownLabel? = some href → Marked href.toList → shown)
    (inside : ∀ text ∈ read.inside options, AllTraced linked shown (inner text).value) :
    TracedParts linked shown (elaborated options inner read).value := by
  have leaf {node : Node} (all : AllTraced linked shown [node]) : TracedParts linked shown [.node node] :=
    tracedParts_single all
  cases read with
  | run text =>
    refine leaf (allTraced_text fun marked => ?_)
    rw [String.toList_ofList] at marked
    split at marked
    next => exact absurd marked (not_marked_typeset clear)
    next => exact absurd marked clear
  | symbol text => exact leaf (allTraced_text fun marked => absurd marked clear)
  | lineBreak | separator => exact leaf (allTraced_single (traced_silent rfl rfl) allTraced_nil)
  | silent | unmatchedBrace | unnamedBegin | unmatchedEnd | unmatchedListEnd | itemOutsideList => exact tracedParts_nil
  | group content => exact tracedParts_nodeParts (inside _ (List.mem_singleton.mpr rfl))
  | styled command style argument? =>
    cases argument? with
    | none => exact tracedParts_nil
    | some argument => exact tracedParts_styledParts style (inside _ (List.mem_singleton.mpr rfl))
  | banner argument name contacts =>
    obtain ⟨title, lines⟩ := List.forall_mem_cons.mp inside
    exact leaf (allTraced_headerOf (fun marked => title.collapse.plainText marked.of_trimmed)
      (lines _ (List.mem_singleton.mpr rfl)))
  | declaration color? style scope =>
    have within := inside scope (by simp [Construct.inside])
    rw [value_declaration]
    split
    next => exact tracedParts_styledParts style within
    next => exact tracedParts_nodeParts within
  | color argument? => cases argument? <;> exact tracedParts_nil
  | heading title? =>
    cases title? with
    | none => exact tracedParts_single fun marked => absurd marked (by decide)
    | some title =>
      have within := inside title.inner (List.mem_singleton.mpr rfl)
      exact tracedParts_single fun marked => within.collapse.plainText marked.of_trimmed
  | href target? label? =>
    cases target? with
    | none => exact tracedParts_nil
    | some target =>
      cases label? with
      | none => exact leaf (allTraced_linkNode (known _ rfl) (allTraced_text (labelled _ rfl)))
      | some label =>
        have within := inside label.inner (List.mem_singleton.mpr rfl)
        exact leaf (allTraced_linkNode (known _ rfl) within.collapse)
  | url target? =>
    cases target? with
    | none => exact tracedParts_nil
    | some target => exact leaf (allTraced_linkNode (known _ rfl) (allTraced_text (labelled _ rfl)))
  | entry arguments =>
    rcases value_entry options inner arguments with dropped | made
    · rw [dropped]
      exact tracedParts_nil
    · rw [made]
      exact leaf (allTraced_entryOf fun field member => (allTraced_collapsed (List.Subset.refl _) inside).single member)
  | looseItems arguments =>
    rcases value_looseItems options inner arguments with none | made
    · rw [none]
      exact tracedParts_nil
    · rw [made]
      exact leaf (allTraced_single (traced_silent rfl rfl) (allTraced_collapsed (List.Subset.refl _) inside))
  | list opening bulleted body =>
    obtain ⟨texts, among, items⟩ := value_itemNodes inner body.inner
    simp only [elaborated, Noted.value_bind, value_blockBody, items]
    exact leaf (allTraced_single (traced_silent rfl rfl) (allTraced_collapsed among inside))
  | minipages bodies =>
    rw [value_minipages]
    exact leaf (allTraced_single (traced_silent rfl rfl) (allTraced_collapsed (List.Subset.refl _) inside))
  | center body =>
    simp only [elaborated, Noted.value_bind, value_blockBody]
    exact tracedParts_nodeParts (allTraced_centerNodes options inside)
  | document body | environment name body =>
    simp only [elaborated, Noted.value_bind, value_blockBody]
    exact tracedParts_nodeParts (inside body.inner (List.mem_singleton.mpr rfl))
  | unknown command argument? =>
    cases argument? with
    | none => exact tracedParts_nil
    | some argument =>
      simp only [elaborated, Noted.value_bind]
      split
      next kept => exact tracedParts_nodeParts (inside argument.inner (by simp [Construct.inside, kept]))
      next => exact tracedParts_nil

private theorem allTraced_sequence (levels : Nat) (top : Bool) (text : List Char)
    (known : ∀ read ∈ met options levels top text, ∀ href, read.target? = some href → linked href)
    (labelled : ∀ read ∈ met options levels top text, ∀ href, read.ownLabel? = some href → Marked href.toList → shown) :
    AllTraced linked shown (sequence options levels top text).value := by
  induction levels generalizing top text with
  | zero => exact allTraced_flattened text
  | succ levels ih =>
    simp only [sequence, Noted.value_bind, Noted.value_pure, Noted.value_mapM]
    refine allTraced_arrange fun part member => ?_
    obtain ⟨parts, place, within⟩ := List.mem_flatten.mp member
    obtain ⟨read, found, rfl⟩ := List.mem_map.mp place
    have here : read ∈ met options (levels + 1) top text := mem_met_succ.mpr ⟨read, found, .inl rfl⟩
    have clear := clear_of_mem_constructs found
    refine tracedParts_elaborated options clear (known read here) (labelled read here) (fun inner listed => ?_) part within
    have below {other : Construct} (reached : other ∈ met options levels false inner) :
        other ∈ met options (levels + 1) top text := mem_met_succ.mpr ⟨read, found, .inr ⟨inner, listed, reached⟩⟩
    apply ih false inner
    · exact fun other reached => known other (below reached)
    · exact fun other reached => labelled other (below reached)

end elaboration

section links

/-- A node that is no text keeps its place, be it under a heading. -/
theorem mem_walkAll_arrange {parts : List Part} {node : Node} (noText : node.kind ≠ .text) (member : .node node ∈ parts) :
    node ∈ walkAll (arrange parts) := by
  have itself : node ∈ node.walk := by simp [walk_eq_cons]
  have gathered : node ∈ (gather parts).1 ∨ node ∈ walkAll (gather parts).2 := by
    induction parts with
    | nil => exact absurd member (by simp)
    | cons part rest ih =>
      rcases List.mem_cons.mp member with rfl | later
      · exact .inl (by simp [gather])
      · cases part with
        | node first => exact (ih later).imp_left (List.mem_cons_of_mem _)
        | heading title =>
          right
          rw [gather, walkAll, walk_eq_cons, List.cons_append, List.mem_cons, List.mem_append]
          exact .inr ((ih later).imp_left fun before => mem_walkAll.mpr ⟨node, mem_tidy_of_kind noText before, itself⟩)
  rcases gathered with before | under
  · exact mem_walkAll.mpr ⟨node, List.mem_append_left _ (mem_tidy_of_kind noText before), itself⟩
  · obtain ⟨titled, place, inside⟩ := mem_walkAll.mp under
    exact mem_walkAll.mpr ⟨titled, List.mem_append_right _ place, inside⟩

/-- A link on the top level is in the tree, whatever is in its target. -/
theorem target_mem_sequence (options : TranspileOptions) (levels : Nat) {top : Bool} {text : List Char} {read : Construct}
    (member : read ∈ constructs top text) {href : String} (target : read.target? = some href) :
    ∃ node ∈ walkAll (sequence options (levels + 1) top text).value, node.target? = some href := by
  have link (inner : List Char → Noted (List Node)) :
      ∃ label, .node (.link href label) ∈ (elaborated options inner read).value := by
    cases read with
    | href target? label? =>
      cases target? with
      | none => exact absurd target (by simp [Construct.target?])
      | some argument =>
        obtain rfl := Option.some.inj target
        cases label? <;> exact ⟨_, List.mem_singleton.mpr rfl⟩
    | url target? =>
      cases target? with
      | none => exact absurd target (by simp [Construct.target?])
      | some argument =>
        obtain rfl := Option.some.inj target
        exact ⟨_, List.mem_singleton.mpr rfl⟩
    | _ => exact absurd target (by simp [Construct.target?])
  obtain ⟨label, made⟩ := link (sequence options levels false)
  refine ⟨.link href label, ?_, rfl⟩
  simp only [sequence, Noted.value_bind, Noted.value_pure, Noted.value_mapM]
  exact mem_walkAll_arrange (by simp [Node.kind]) (List.mem_flatten.mpr ⟨_, List.mem_map_of_mem member, made⟩)

end links

end Transpile

namespace Markup

open Transpile

/-- A warning shows a mark just where a construct is quoted that holds one. A link has the target that one of the constructs
gives it, those on the top level all give theirs, and any other string of the tree is marked only where a marked target is
its own label. -/
theorem marked_parse (options : TranspileOptions) (markup : String) :
    let text := (normalize options.normal markup).toList
    let met := met options (options.maxDepth + 1) true text
    let document := parse options markup
    ((∃ warning ∈ document.warnings, Marked warning.toList) ↔ ∃ read ∈ met, Marked read.quoted) ∧
      (∀ read ∈ constructs true text, ∀ href, read.target? = some href →
        ∃ node ∈ document.tree.walk, node.target? = some href) ∧
      ∀ node ∈ document.tree.walk,
        (∀ href, node.target? = some href → ∃ read ∈ met, read.target? = some href) ∧
          ∀ string ∈ node.strings, Marked string.toList →
            ∃ read ∈ met, ∃ href, read.ownLabel? = some href ∧ Marked href.toList := by
  intro text met document
  refine ⟨?_, fun read member href target => target_mem_sequence options options.maxDepth member target, ?_⟩
  · have told := tells_sequence options (options.maxDepth + 1) true text
    simpa [document, text, met, parse, transpile, Tells] using told
  · have all : AllTraced (fun href => ∃ read ∈ met, read.target? = some href)
        (∃ read ∈ met, ∃ href, read.ownLabel? = some href ∧ Marked href.toList) document.tree :=
      allTraced_sequence options _ true _ (fun read member href same => ⟨read, member, same⟩)
        fun read member href same marked => ⟨read, member, href, same, marked⟩
    exact fun node member => ⟨(all node member).target, (all node member).strings⟩

def brokenTarget : String :=
  "\\href\x7ba\\\\b\x7d\x7bx\x7d"

/-- The target of a link shows a mark where the markup has a line break in it. -/
theorem marked_target_brokenTarget : ¬ Marked brokenTarget.toList ∧
    ∃ node ∈ (parse {} brokenTarget).tree.walk, ∃ href, node.target? = some href ∧ Marked href.toList := by
  have marked : normalFormWith id { collapseBlankLines := false } brokenTarget.toList =
      "\\href\x7ba\uE000b\x7d\x7bx\x7d".toList := by decide +kernel
  have low : ∀ c ∈ "\\href\x7ba\uE000b\x7d\x7bx\x7d".toList, c.toNat < 0xC0 ∨ c = lineBreakMark := by simp [lineBreakMark]
  have composed := compose_eq_self fun c member => (low c member).elim still_low (· ▸ still_lineBreakMark)
  have normal : normalize {} brokenTarget = "\\href\x7ba\uE000b\x7d\x7bx\x7d" := by
    rw [normalize, normalizeWith, normalFormWith_of_composed (marked.symm ▸ composed)]
    decide +kernel
  have parsed : parse {} brokenTarget = transpile {} "\\href\x7ba\uE000b\x7d\x7bx\x7d" := congrArg (transpile {}) normal
  have targets : (transpile {} "\\href\x7ba\uE000b\x7d\x7bx\x7d").tree.walk.filterMap target? = ["a\uE000b"] := by
    decide +kernel
  obtain ⟨node, member, target⟩ := List.mem_filterMap.mp (targets ▸ List.mem_singleton.mpr rfl)
  rw [parsed]
  exact ⟨by decide +kernel, node, member, "a\uE000b", target, by decide +kernel⟩

end Markup

end Vitae
