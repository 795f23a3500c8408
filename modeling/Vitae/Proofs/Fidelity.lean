import Vitae.Proofs.Tidiness
import Vitae.Proofs.Walk
import Vitae.Proofs.Written

/-! Content survives being written down: the walk over the markup of a canonical tree meets the constructs
of its nodes one by one, warns of nothing and builds the tree again. -/

namespace Vitae.Notation

open Markup Transpile

variable {typography : Bool} {form : ListForm}

section walk

private theorem typeset_eq_self {text : List Char} (literal : Literal true text) : typeset text = text := by
  fun_induction typeset text with
  | case1 | case2 => exact absurd ((literal '-' (by simp)).2 rfl) (by decide)
  | case3 => exact absurd ((literal '~' (by simp)).2 rfl) (by decide)
  | case4 => exact absurd ((literal '\x60' (by simp)).2 rfl) (by decide)
  | case5 => exact absurd ((literal '\x27' (by simp)).2 rfl) (by decide)
  | case6 c rest _ _ _ _ _ ih => rw [ih fun d member => literal d (by simp [member])]
  | case7 => rfl

private theorem unescapeTarget_eq_self {text : List Char} (plain : Literal false text) :
    unescapeTarget text = text := by
  fun_induction unescapeTarget text with
  | case1 | case2 => exact absurd (plain '\\' (by simp)).1 (by decide)
  | case3 c rest _ ih => rw [ih fun d member => plain d (by simp [member])]
  | case4 => rfl

variable (options : TranspileOptions) (levels : Nat) (top : Bool)

/-- The walk over a text passes these parts on its way to the tail. -/
def Yields (text tail : List Char) (passed : List Part) : Prop :=
  parts options levels top (text ++ tail) = (passed ++ ·) <$> parts options levels top tail

variable {options levels top}

private theorem yields_nil (tail : List Char) : Yields options levels top [] tail [] := by
  simp [Yields]

theorem Yields.append {first second tail : List Char} {earlier later : List Part}
    (head : Yields options levels top first (second ++ tail) earlier)
    (rest : Yields options levels top second tail later) :
    Yields options levels top (first ++ second) tail (earlier ++ later) := by
  unfold Yields at head rest ⊢
  rw [List.append_assoc, head, rest]
  simp

theorem yields_of_construct {c : Char} {text tail : List Char} {read : Construct} {passed : List Part}
    (shape : construct top c (text ++ tail) = (read, tail))
    (quiet : elaborated options (sequence options levels false) read = pure passed) :
    Yields options levels top (c :: text) tail passed :=
  parts_of_construct options levels top shape quiet

theorem yields_commandText {name : String} {arguments tail : List Char} {read : Construct} {passed : List Part}
    (named : Named name) (ends : EndsName (arguments ++ tail))
    (shape : commandConstruct top name (arguments ++ tail) = (read, tail))
    (quiet : elaborated options (sequence options levels false) read = pure passed) :
    Yields options levels top (commandText name ++ arguments) tail passed := by
  have whole : construct top '\\' (name.toList ++ arguments ++ tail) = (read, tail) := by
    rw [List.append_assoc, construct_commandText top named ends, shape]
  exact yields_of_construct whole quiet

/-- A text one level down is read back as these nodes. -/
def ReadsAs (options : TranspileOptions) (levels : Nat) (text : List Char) (nodes : List Node) : Prop :=
  sequence options levels false text = pure nodes

private theorem argumentNodes_closed {text : List Char} {nodes : List Node}
    (reads : ReadsAs options levels text nodes) :
    argumentNodes (sequence options levels false) ⟨text, true⟩ = pure nodes := by
  unfold ReadsAs at reads
  simp [argumentNodes, noteUnclosed, reads]

private theorem slot_closed {text : List Char} {nodes : List Node} (reads : ReadsAs options levels text nodes) :
    slot (sequence options levels false) ⟨text, true⟩ = pure (.collapse nodes) := by
  simp [slot, argumentNodes_closed reads]

theorem yields_text {value : String} {tail : List Char} (shown : value ≠ "")
    (literal : Literal options.typography value.toList) (stops : StopsText tail) :
    Yields options levels top value.toList tail [.node (.text value)] := by
  cases same : value.toList with
  | nil => exact absurd (String.toList_eq_nil_iff.mp same) shown
  | cons c text =>
    rw [same] at literal
    refine yields_of_construct (construct_run top (fun d member => (literal d member).1) stops) ?_
    have set : (if options.typography then typeset (c :: text) else c :: text) = value.toList := by
      split
      next on =>
        rw [on] at literal
        rw [typeset_eq_self literal, same]
      next => exact same.symm
    simp only [elaborated, set, String.ofList_toList]

private theorem yields_mark {mark : Char} {node : Node} (tail : List Char)
    (either : (mark, node) = (lineBreakMark, .lineBreak) ∨ (mark, node) = (separatorMark, .separator)) :
    Yields options levels top [mark] tail [.node node] := by
  rcases either with same | same
  all_goals
    obtain ⟨rfl, rfl⟩ := Prod.mk.inj same
    exact yields_of_construct rfl rfl

private theorem yields_styled {style : SpanStyle} {text tail : List Char} {child : List Node} (own : style ≠ .accent)
    (shown : (Node.collapse child).isEmpty = false) (balanced : Balanced text) (nothing : DeclaresNothing text)
    (reads : ReadsAs options levels text child) :
    Yields options levels top (commandText (styleName style) ++ braced text) tail
      [.node (.styled style (.collapse child))] := by
  refine yields_commandText (named_styleName own) (endsName_braced text tail)
    (construct_styled top own balanced nothing tail) ?_
  simp [elaborated, argumentNodes_closed reads, styledParts, shown]

private theorem yields_link {href : String} {text tail : List Char} {label : List Node}
    (plain : Literal false href.toList) (trimmed : Text.trim href.toList = href.toList) (balanced : Balanced text)
    (reads : ReadsAs options levels text label) :
    Yields options levels top (commandText "href" ++ braced href.toList ++ braced text) tail
      [.node (.link href (.collapse label))] := by
  have ends : EndsName (braced href.toList ++ braced text ++ tail) := by
    rw [List.append_assoc]
    exact endsName_braced _ _
  have same : target ⟨href.toList, true⟩ = href := by
    rw [target, trimmed, unescapeTarget_eq_self plain, String.ofList_toList]
  rw [List.append_assoc]
  refine yields_commandText (by decide) ends (construct_href top (balanced_literal plain) balanced tail) ?_
  simp [elaborated, noteUnclosed, slot_closed reads, linkParts, same]

private theorem mapM_pure_of_forall {α β : Type} {items : List α} {body : α → Noted β} {result : α → β}
    (quiet : ∀ item ∈ items, body item = pure (result item)) : items.mapM body = pure (items.map result) := by
  induction items with
  | nil => rfl
  | cons item items ih =>
    rw [List.mapM_cons, quiet item (by simp), ih fun other member => quiet other (by simp [member])]
    rfl

private theorem yields_entry {fields : List (List Node)} (tail : List Char) (four : fields.length = 4)
    (balanced : ∀ field ∈ fields, Balanced (writtenAll form field))
    (reads : ∀ field ∈ fields, ReadsAs options levels (writtenAll form field) field) :
    Yields options levels top (commandText "resumeSubheading" ++ (fields.map (writtenAll form)).flatMap braced) tail
      [.node (.entryOf (fields.map .collapse))] := by
  have ends : EndsName ((fields.map (writtenAll form)).flatMap braced ++ tail) := by
    cases fields with
    | nil => contradiction
    | cons field fields =>
      rw [List.map_cons, List.flatMap_cons, List.append_assoc]
      exact endsName_braced _ _
  have bodies : ∀ body ∈ fields.map (writtenAll form), Balanced body := by simpa using balanced
  have read := construct_entry top (by simpa using four) bodies tail
  have slots : ((fields.map (writtenAll form)).map (⟨·, true⟩)).mapM (slot (sequence options levels false)) =
      pure (fields.map .collapse) := by
    rw [List.map_map, List.mapM_map]
    exact mapM_pure_of_forall fun field member => slot_closed (reads field member)
  refine yields_commandText (by decide) ends read ?_
  rw [elaborated, slots]
  simp [four]

theorem gather_nodes (nodes : List Node) : gather (nodes.map .node) = (nodes, []) := by
  induction nodes with
  | nil => rfl
  | cons node nodes ih => simp [gather, ih]

private theorem readsAs_of_yields {text : List Char} {nodes : List Node} (canonical : Canonical typography false nodes)
    (passes : Yields options levels false text [] (nodes.map .node)) : ReadsAs options (levels + 1) text nodes := by
  unfold Yields at passes
  rw [List.append_nil] at passes
  rw [ReadsAs, sequence_succ, passes]
  simp [arrange, gather_nodes, tidy_canonical canonical]

theorem yields_braced {text : List Char} {nodes : List Node} (tail : List Char) (balanced : Balanced text)
    (reads : ReadsAs options levels text nodes) :
    Yields options levels top (braced text) tail (nodes.map .node) := by
  refine yields_of_construct (construct_braced top balanced tail) ?_
  rw [elaborated, argumentNodes_closed reads]
  rfl

theorem readsAs_nil : ReadsAs options (levels + 1) [] [] :=
  readsAs_of_yields (.nil : Canonical false false []) (yields_nil [])

/-- The body of a list has nothing before its first item, and every item is a group. -/
theorem itemNodes_itemsText {items : List (List Node)} (canonical : ∀ item ∈ items, Canonical typography false item)
    (reads : ∀ item ∈ items, ReadsAs options levels (writtenAll form item) item) :
    itemNodes (sequence options (levels + 1) false) (itemsText form.item (items.map (writtenAll form))) =
      pure (items.map .collapse) := by
  have balanced := balanced_items form canonical
  have introduces (start body rest : List Char) :
      introduced? ⟨form.item, start, braced body ++ rest⟩ = some (braced body ++ rest) := by
    cases form <;> rfl
  have grouped : ∀ item ∈ items, ReadsAs options (levels + 1) (braced (writtenAll form item)) item := by
    intro item member
    have inside := canonical item member
    exact readsAs_of_yields inside (yields_braced [] (balanced_writtenAll inside) (reads item member))
  have each : ((items.map (writtenAll form)).map braced).mapM
      (fun item => Node.collapse <$> sequence options (levels + 1) false item) = pure (items.map .collapse) := by
    rw [List.map_map, List.mapM_map]
    refine mapM_pure_of_forall fun item member => ?_
    have read : sequence options (levels + 1) false (braced (writtenAll form item)) = pure item := grouped item member
    simp [read]
  have lead : sequence options (levels + 1) false [] = pure [] := readsAs_nil
  simp only [itemNodes, splitItems_itemsText (named_item form) introduces balanced, lead, pure_bind, List.isEmpty_nil,
    if_true, List.nil_append, bind_pure_comp, each, map_pure]

private theorem yields_list {items : List (List Node)} (tail : List Char)
    (canonical : ∀ item ∈ items, Canonical typography false item)
    (reads : ∀ item ∈ items, ReadsAs options levels (writtenAll form item) item) :
    Yields options (levels + 1) top
      (form.opening ++ (itemsText form.item (items.map (writtenAll form)) ++ form.closing)) tail
      [.node (.itemList true (items.map .collapse))] := by
  have balanced := balanced_items form canonical
  have quiet : elaborated options (sequence options (levels + 1) false)
      (.list form.opening true ⟨itemsText form.item (items.map (writtenAll form)), true⟩) =
      pure [.node (.itemList true (items.map .collapse))] := by
    simp [elaborated, blockBody, itemNodes_itemsText canonical reads]
  cases form with
  | environment name listed =>
    have read := construct_list_environment top listed balanced tail
    simp only [ListForm.opening, List.append_assoc] at read quiet ⊢
    refine yields_commandText (by decide) ?_ (by simpa using read) quiet
    simp only [List.append_assoc]
    exact endsName_braced _ _
  | commands =>
    have read := construct_list_commands top balanced tail
    have list : Yields options (levels + 1) top
        (commandText "resumeItemListStart" ++
          (itemsText "resumeItem" (items.map (writtenAll .commands)) ++ commandText "resumeItemListEnd"))
        (braced [] ++ tail) [.node (.itemList true (items.map .collapse))] := by
      refine yields_commandText (by decide) ?_ ?_ quiet
      · simpa [ListForm.closing, ListForm.item] using endsName_items .commands (items.map (writtenAll .commands)) tail
      · simpa [ListForm.closing, ListForm.item] using read
    simpa [ListForm.opening, ListForm.closing, ListForm.item] using
      list.append (yields_braced tail balanced_nil readsAs_nil)

/-- The walk over the markup of a canonical sequence passes its nodes. -/
theorem yields_writtenAll {flows : Bool} {nodes : List Node} (canonical : Canonical options.typography flows nodes) :
    ∀ {below : Nat} {top : Bool} {tail : List Char}, levelsAll nodes ≤ below → StopsText tail →
      Yields options below top (writtenAll form nodes) tail (nodes.map .node) := by
  have slotReads {slot : List Node} {below : Nat} (inside : Canonical options.typography false slot)
      (passes : ∀ {below : Nat} {top : Bool} {tail : List Char}, levelsAll slot ≤ below → StopsText tail →
        Yields options below top (writtenAll form slot) tail (slot.map .node))
      (room : levelsAll slot < below) : ReadsAs options below (writtenAll form slot) slot := by
    cases below with
    | zero => omega
    | succ below => exact readsAs_of_yields inside (passes (by omega) stopsText_nil)
  induction canonical with
  | nil =>
    intro below top tail _ _
    exact yields_nil tail
  | text shown literal _ _ _ apart tidyRest ih =>
    intro below top tail room stops
    simp only [levelsAll] at room
    have runs := stopsText_writtenAll form tidyRest apart stops
    exact (yields_text shown literal runs).append (ih (by omega) stops)
  | styled own shown inside _ childIh ih =>
    intro below top tail room stops
    simp only [levelsAll, levels, levels_collapse] at room
    have child := slotReads inside childIh (show _ < below by omega)
    simp only [writtenAll, written, written_collapse]
    exact (yields_styled own (isEmpty_collapse inside shown) (balanced_writtenAll inside)
      (declaresNothing_writtenAll inside) child).append (ih (by omega) stops)
  | link plain trimmed inside _ labelIh ih =>
    intro below top tail room stops
    simp only [levelsAll, levels, levels_collapse] at room
    have label := slotReads inside labelIh (show _ < below by omega)
    simp only [writtenAll, written, written_collapse]
    exact (yields_link plain trimmed (balanced_writtenAll inside) label).append (ih (by omega) stops)
  | lineBreak _ ih =>
    intro below top tail room stops
    simp only [levelsAll] at room
    exact (yields_mark _ (.inl rfl)).append (ih (by omega) stops)
  | separator _ ih =>
    intro below top tail room stops
    simp only [levelsAll] at room
    exact (yields_mark _ (.inr rfl)).append (ih (by omega) stops)
  | @entry flows primary secondary tertiary quaternary rest first second third fourth _ firstIh secondIh thirdIh
      fourthIh ih =>
    intro below top tail room stops
    simp only [levelsAll, levels, levels_collapse] at room
    have balanced : ∀ field ∈ [primary, secondary, tertiary, quaternary], Balanced (writtenAll form field) := by
      simp [balanced_writtenAll first, balanced_writtenAll second, balanced_writtenAll third,
        balanced_writtenAll fourth]
    have reads : ∀ field ∈ [primary, secondary, tertiary, quaternary],
        ReadsAs options below (writtenAll form field) field := by
      simp only [List.mem_cons, List.not_mem_nil, or_false, forall_eq_or_imp, forall_eq]
      exact ⟨slotReads first firstIh (by omega), slotReads second secondIh (by omega),
        slotReads third thirdIh (by omega), slotReads fourth fourthIh (by omega)⟩
    have later : Yields options below top (writtenAll form rest) tail (rest.map .node) := ih (by omega) stops
    have all := (yields_entry (writtenAll form rest ++ tail) rfl balanced reads).append later
    simp only [writtenAll, written, written_collapse]
    simpa [Node.entryOf] using all
  | @list flows items rest inside _ itemsIh ih =>
    intro below top tail room stops
    simp only [levelsAll, levels] at room
    cases below with
    | zero => omega
    | succ below =>
      have reads : ∀ item ∈ items, ReadsAs options below (writtenAll form item) item := by
        intro item member
        have deep := levels_le_levelsItems member
        exact slotReads (inside item member) (itemsIh item member) (by omega)
      simp only [writtenAll, written, writtenItems_map]
      exact (yields_list _ inside reads).append (ih (by omega) stops)

end walk

section trees

variable {options : TranspileOptions} {below : Nat} {top : Bool}

private theorem ends_of_trimmed {text : List Char} (trimmed : Text.trim text = text) :
    text.head? ≠ some ' ' ∧ text.getLast? ≠ some ' ' := by
  obtain ⟨start, stop⟩ := Text.trim_eq_self_iff.mp trimmed
  exact ⟨fun space => absurd (start ' ' space) (by decide), fun space => absurd (stop ' ' space) (by decide)⟩

private theorem canonical_text {flows : Bool} {value : String} (shown : value ≠ "")
    (literal : Literal typography value.toList)
    (spaced : SingleSpaced value.toList) (start : value.toList.head? ≠ some ' ')
    (stop : value.toList.getLast? ≠ some ' ') : Canonical typography flows [.text value] :=
  .text shown literal spaced (fun space => absurd space start) (fun space => absurd space stop) (by simp) .nil

private theorem yields_title {title : String} (tail : List Char) (literal : Literal options.typography title.toList)
    (spaced : SingleSpaced title.toList) (trimmed : Text.trim title.toList = title.toList) :
    Yields options (below + 1) top (commandText "section" ++ braced title.toList) tail [.heading title] := by
  have balanced : Balanced title.toList := balanced_literal literal
  have label : slot (sequence options (below + 1) false) ⟨title.toList, true⟩ = pure (.text title) := by
    by_cases shown : title = ""
    · rw [shown]
      exact slot_closed readsAs_nil
    · obtain ⟨start, stop⟩ := ends_of_trimmed trimmed
      have alone : Canonical options.typography false [.text title] := canonical_text shown literal spaced start stop
      exact slot_closed (readsAs_of_yields alone (yields_text shown literal stopsText_nil))
  refine yields_commandText (by decide) (endsName_braced _ _) (construct_section top balanced tail) ?_
  rw [elaborated, label]
  simp [Node.plainText, String.trimmed, trimmed]

/-- A section is passed as its heading and then its body. -/
def partsOf (tree : Tree) : List Part :=
  tree.flatMap fun
    | .titled title body => .heading title :: body.map .node
    | node => [.node node]

private theorem writtenAll_append (form : ListForm) (first second : List Node) :
    writtenAll form (first ++ second) = writtenAll form first ++ writtenAll form second := by
  induction first with
  | nil => simp [writtenAll]
  | cons node first ih => simp [writtenAll, ih]

private theorem levelsAll_append (first second : List Node) :
    levelsAll (first ++ second) = max (levelsAll first) (levelsAll second) := by
  induction first with
  | nil => simp [levelsAll]
  | cons node first ih => simp [levelsAll, ih, Nat.max_assoc]

private theorem partsOf_canonical {flows : Bool} {nodes : List Node} (canonical : Canonical typography flows nodes) :
    partsOf nodes = nodes.map .node := by
  induction canonical with
  | nil => rfl
  | text _ _ _ _ _ _ _ ih => exact congrArg _ ih
  | styled _ _ _ _ _ ih => exact congrArg _ ih
  | link _ _ _ _ _ ih => exact congrArg _ ih
  | lineBreak _ ih => exact congrArg _ ih
  | separator _ ih => exact congrArg _ ih
  | entry _ _ _ _ _ _ _ _ _ ih => exact congrArg _ ih
  | list _ _ _ ih => exact congrArg _ ih

private theorem arrange_partsOf {tree : Tree} (canonical : CanonicalTree typography tree) :
    arrange (partsOf tree) = tree := by
  induction canonical with
  | nodes canonical => simp [partsOf_canonical canonical, arrange, gather_nodes, tidy_canonical canonical]
  | @titled before title body _ _ _ _ inside ih =>
    have parts : partsOf (before ++ [.titled title body]) = partsOf before ++ .heading title :: body.map .node := by
      simp [partsOf]
    rw [parts, arrange_append, ih, arrange_heading, gather_nodes, tidy_canonical inside]

private theorem yields_tree {tree : Tree} (canonical : CanonicalTree options.typography tree) :
    ∀ {tail : List Char}, levelsAll tree ≤ below → StopsText tail →
      Yields options below top (writtenAll form tree) tail (partsOf tree) := by
  induction canonical with
  | nodes canonical =>
    intro tail room stops
    rw [partsOf_canonical canonical]
    exact yields_writtenAll canonical room stops
  | @titled before title body _ literal spaced trimmed inside ih =>
    intro tail room stops
    simp only [levelsAll_append, levelsAll, levels] at room
    cases below with
    | zero => omega
    | succ below =>
      have behind : Yields options (below + 1) top (writtenAll form body) tail (body.map .node) :=
        yields_writtenAll inside (by omega) stops
      have whole := (yields_title (writtenAll form body ++ tail) literal spaced trimmed).append behind
      have stopsBefore : StopsText (commandText "section" ++ braced title.toList ++ writtenAll form body ++ tail) := by
        simp only [List.append_assoc]
        exact stopsText_commandText _ _
      have all := (ih (by omega) stopsBefore).append whole
      simpa [writtenAll_append, writtenAll, written, partsOf] using all

end trees

end Vitae.Notation

namespace Vitae

open Notation

/-- Transpiling the markup of a canonical tree that is nested no deeper than allowed gives the tree back,
and no warnings. -/
theorem transpile_written (form : ListForm) (options : TranspileOptions) {tree : Tree}
    (canonical : CanonicalTree options.typography tree) (shallow : levelsAll tree ≤ options.maxDepth) :
    transpile options (.ofList (writtenAll form tree)) = ⟨tree, []⟩ := by
  have passes : Yields options options.maxDepth true (writtenAll form tree) [] (partsOf tree) :=
    yields_tree canonical shallow stopsText_nil
  unfold Yields at passes
  rw [List.append_nil] at passes
  have reads : Transpile.sequence options (options.maxDepth + 1) true (writtenAll form tree) = pure tree := by
    rw [Transpile.sequence_succ, passes]
    simp [arrange_partsOf canonical]
  simp [transpile, reads]

def shortResume : Tree :=
  [.text "Ada ", .styled .smallCaps (.text "Lovelace"), .separator, .link "https://ada.org" (.text "ada.org"),
    .titled "Work"
      [.entry (.text "Engine") (.text "1843") (.fragment [.styled .italic (.text "Notes"), .text " A to G"]) .empty,
        .itemList true
          [.fragment [.text "With ", .styled .bold (.text "Babbage")],
            .fragment [.itemList true [.text "Numbers"], .text "Read"]]]]

private theorem canonicalTree_shortResume : CanonicalTree true shortResume := by
  have word (value : String) (shown : value ≠ "" ∧ Literal true value.toList ∧ SingleSpaced value.toList ∧
      value.toList.head? ≠ some ' ' ∧ value.toList.getLast? ≠ some ' ') : Canonical true false [.text value] :=
    canonical_text shown.1 shown.2.1 shown.2.2.1 shown.2.2.2.1 shown.2.2.2.2
  have site : Canonical true true [.separator, .link "https://ada.org" (.collapse [.text "ada.org"])] := by
    refine .separator (.link ?_ ?_ (word "ada.org" (by decide +kernel)) .nil)
    · decide +kernel
    · decide +kernel
  have line : Canonical true false [.text "Ada ", .styled .smallCaps (.collapse [.text "Lovelace"]), .separator,
      .link "https://ada.org" (.collapse [.text "ada.org"])] := by
    refine .text (by decide +kernel) (by decide +kernel) (by decide +kernel) (by decide +kernel) (fun _ => rfl) (by simp) ?_
    exact .styled (by decide +kernel) (by simp) (word "Lovelace" (by decide +kernel)) site
  have notes : Canonical true false [.styled .italic (.collapse [.text "Notes"]), .text " A to G"] := by
    refine .styled (by decide +kernel) (by simp) (word "Notes" (by decide +kernel)) ?_
    exact .text (by decide +kernel) (by decide +kernel) (by decide +kernel) (fun _ => rfl) (by decide +kernel) (by simp) .nil
  have first : Canonical true false [.text "With ", .styled .bold (.collapse [.text "Babbage"])] := by
    refine .text (by decide +kernel) (by decide +kernel) (by decide +kernel) (by decide +kernel) (fun _ => rfl) (by simp) ?_
    exact .styled (by decide +kernel) (by simp) (word "Babbage" (by decide +kernel)) .nil
  have second : Canonical true false [.itemList true ([[.text "Numbers"]].map .collapse), .text "Read"] := by
    refine .list ?_ (word "Read" (by decide +kernel))
    simpa using word "Numbers" (by decide +kernel)
  have items : Canonical true false [.itemList true ([[.text "With ", .styled .bold (.collapse [.text "Babbage"])],
      [.itemList true ([[.text "Numbers"]].map .collapse), .text "Read"]].map .collapse)] := by
    refine .list ?_ .nil
    simpa using ⟨first, second⟩
  have work := @Canonical.entry true false _ _ _ _ _ (word "Engine" (by decide +kernel)) (word "1843" (by decide +kernel)) notes
    .nil items
  have whole : CanonicalTree true ([.text "Ada ", .styled .smallCaps (.collapse [.text "Lovelace"]), .separator,
      .link "https://ada.org" (.collapse [.text "ada.org"])] ++ [.titled "Work" _]) :=
    .titled (.nodes line) (by decide +kernel) (by decide +kernel) (by decide +kernel) work
  exact whole

theorem transpile_shortResume :
    CanonicalTree true shortResume ∧ levelsAll shortResume ≤ 64 ∧
      transpile {} (.ofList (writtenAll .commands shortResume)) = ⟨shortResume, []⟩ :=
  ⟨canonicalTree_shortResume, by decide, transpile_written .commands {} canonicalTree_shortResume (by decide)⟩

end Vitae
