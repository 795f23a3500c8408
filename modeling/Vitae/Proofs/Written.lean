import Vitae.Proofs.ItemList
import Vitae.Proofs.Notation

/-! How written content is read: it keeps its braces to itself, and every node of a canonical sequence is the
construct that its markup was written for, whatever follows it. -/

namespace Vitae.Notation

open Markup

variable {typography : Bool} {form : ListForm}

section shape

theorem written_collapse (form : ListForm) (nodes : List Node) :
    written form (.collapse nodes) = writtenAll form nodes := by
  match nodes with
  | [] => simp [Node.collapse, Node.empty, written, writtenAll]
  | [node] => simp [Node.collapse, writtenAll]
  | first :: second :: rest => simp only [Node.collapse, written]

theorem levels_collapse (nodes : List Node) : levels (.collapse nodes) = levelsAll nodes := by
  match nodes with
  | [] => simp [Node.collapse, Node.empty, levels, levelsAll]
  | [node] => simp [Node.collapse, levelsAll]
  | first :: second :: rest => simp only [Node.collapse, levels]

theorem writtenItems_map (form : ListForm) (items : List (List Node)) :
    writtenItems form (items.map .collapse) = itemsText form.item (items.map (writtenAll form)) := by
  induction items with
  | nil => rfl
  | cons item items ih =>
    simp only [List.map_cons, writtenItems, ih, written_collapse]
    simp [itemsText]

theorem levels_le_levelsItems {items : List (List Node)} {item : List Node} (member : item ∈ items) :
    levelsAll item + 2 ≤ levelsItems (items.map .collapse) := by
  induction items with
  | nil => contradiction
  | cons first items ih =>
    simp only [List.map_cons, levelsItems, levels_collapse]
    rcases List.mem_cons.mp member with rfl | later
    · exact Nat.le_max_left _ _
    · exact Nat.le_trans (ih later) (Nat.le_max_right _ _)

theorem named_styleName {style : SpanStyle} (own : style ≠ .accent) : Named (styleName style) := by
  cases style with
  | accent => contradiction
  | _ => decide

theorem named_item (form : ListForm) : Named form.item := by
  cases form with
  | environment => exact (by decide : Named "item")
  | commands => exact (by decide : Named "resumeItem")

theorem balanced_literal {text : List Char} (literal : Literal typography text) : Balanced text := by
  refine balanced_of_forall fun c member => ⟨?_, ?_, ?_⟩
  all_goals
    rintro rfl
    exact absurd (literal _ member).1 (by decide)

private theorem balanced_listName {name : String} (listed : name ∈ listEnvironments) : Balanced name.toList := by
  simp only [listEnvironments, List.mem_cons, List.not_mem_nil, or_false] at listed
  rcases listed with rfl | rfl | rfl
  all_goals exact balanced_of_letters (by decide)

private theorem ListForm.balanced_opening (form : ListForm) : Balanced form.opening := by
  cases form with
  | environment name listed =>
    exact (balanced_commandText (by decide)).append (balanced_listName listed).braced
  | commands => exact balanced_commandText (by decide)

private theorem ListForm.balanced_closing (form : ListForm) : Balanced form.closing := by
  cases form with
  | environment name listed =>
    exact (balanced_commandText (by decide)).append (balanced_listName listed).braced
  | commands => exact (balanced_commandText (by decide)).append balanced_nil.braced

/-- What is written keeps its braces to itself. -/
theorem balanced_writtenAll {flows : Bool} {nodes : List Node} (canonical : Canonical typography flows nodes) :
    Balanced (writtenAll form nodes) := by
  induction canonical with
  | nil => exact balanced_nil
  | text _ literal _ _ _ _ _ tail =>
    rw [writtenAll, written]
    exact (balanced_literal literal).append tail
  | styled own _ _ _ child tail =>
    simp only [writtenAll, written, written_collapse]
    exact ((balanced_commandText (named_styleName own)).append child.braced).append tail
  | link plain _ _ _ label tail =>
    simp only [writtenAll, written, written_collapse]
    have command : Balanced (commandText "href") := balanced_commandText (by decide)
    exact ((command.append (balanced_literal plain).braced).append label.braced).append tail
  | lineBreak _ tail =>
    have mark : Balanced [lineBreakMark] := fun _ _ => closingBrace?_cons (by decide) (by decide) (by decide) _ _
    exact mark.append tail
  | separator _ tail =>
    have mark : Balanced [separatorMark] := fun _ _ => closingBrace?_cons (by decide) (by decide) (by decide) _ _
    exact mark.append tail
  | entry _ _ _ _ _ first second third fourth tail =>
    simp only [writtenAll, written, written_collapse]
    have command : Balanced (commandText "resumeSubheading") := balanced_commandText (by decide)
    exact ((((command.append first.braced).append second.braced).append third.braced).append fourth.braced).append tail
  | @list flows items rest _ _ inside tail =>
    simp only [writtenAll, written, writtenItems_map]
    have bodies : ∀ body ∈ items.map (writtenAll form), Balanced body := by simpa using inside
    have items := balanced_itemsText (named_item form) bodies
    exact (form.balanced_opening.append (items.append form.balanced_closing)).append tail

theorem balanced_items (form : ListForm) {items : List (List Node)}
    (canonical : ∀ item ∈ items, Canonical typography false item) :
    ∀ body ∈ items.map (writtenAll form), Balanced body := by
  simp only [List.mem_map, forall_exists_index, and_imp]
  rintro body item member rfl
  exact balanced_writtenAll (canonical item member)

end shape

section constructs

private theorem items_head (form : ListForm) (bodies : List (List Char)) (rest : List Char) :
    ∃ later, itemsText form.item bodies ++ (form.closing ++ rest) = '\\' :: later := by
  cases bodies with
  | nil => cases form <;> exact ⟨_, rfl⟩
  | cons body bodies => exact ⟨_, itemsText_cons form.item body bodies (form.closing ++ rest)⟩

theorem endsName_items (form : ListForm) (bodies : List (List Char)) (rest : List Char) :
    EndsName (itemsText form.item bodies ++ (form.closing ++ rest)) := by
  obtain ⟨later, same⟩ := items_head form bodies rest
  rw [same]
  exact endsName_commandText "" later

/-- Text is read up to here. -/
def StopsText (tail : List Char) : Prop :=
  ∀ c rest, tail = c :: rest → isPlain c = false

theorem stopsText_nil : StopsText [] :=
  fun _ _ none => absurd none (by simp)

theorem stopsText_commandText (name : String) (rest : List Char) : StopsText (commandText name ++ rest) := by
  rintro c later same
  obtain rfl : '\\' = c := (List.cons.inj same).1
  decide

/-- Nodes other than text begin with a character that text is read up to. -/
theorem stopsText_writtenAll (form : ListForm) {flows : Bool} {nodes : List Node} (canonical : Canonical typography flows nodes)
    (apart : ∀ value rest, nodes ≠ .text value :: rest) {tail : List Char} (stops : StopsText tail) :
    StopsText (writtenAll form nodes ++ tail) := by
  cases canonical with
  | nil => exact stops
  | text => exact absurd rfl (apart _ _)
  | styled | link | entry =>
    simp only [writtenAll, written, List.append_assoc]
    exact stopsText_commandText _ _
  | lineBreak | separator =>
    rintro c later same
    obtain rfl := (List.cons.inj same).1
    decide
  | list =>
    simp only [writtenAll, written, List.append_assoc]
    cases form
    all_goals
      simp only [ListForm.opening, List.append_assoc]
      exact stopsText_commandText _ _

variable (top : Bool)

theorem construct_commandText {name : String} (named : Named name) {rest : List Char} (ends : EndsName rest) :
    construct top '\\' (name.toList ++ rest) = commandConstruct top name rest := by
  have read : command? ('\\' :: (name.toList ++ rest)) = some ⟨name, commandText name ++ rest, rest⟩ :=
    command?_commandText named ends
  rw [construct, if_pos rfl, read]

theorem construct_run {text tail : List Char} {c : Char} (plain : ∀ d ∈ c :: text, isPlain d)
    (stops : StopsText tail) : construct top c (text ++ tail) = (.run (c :: text), tail) := by
  have first := plain c (by simp)
  simp only [isPlain, Bool.not_eq_true', Bool.or_eq_false_iff, beq_eq_false_iff_ne, ne_eq] at first
  obtain ⟨⟨⟨⟨⟨noSlash, noOpening⟩, noClosing⟩, noMath⟩, noBreak⟩, noSeparator⟩ := first
  have inner : ∀ d ∈ text, isPlain d := fun d member => plain d (by simp [member])
  have taken : tail.takeWhile isPlain = [] ∧ tail.dropWhile isPlain = tail := by
    cases tail with
    | nil => exact ⟨rfl, rfl⟩
    | cons d later =>
      have stop := stops d later rfl
      exact ⟨List.takeWhile_cons_of_neg (by simp [stop]), List.dropWhile_cons_of_neg (by simp [stop])⟩
  rw [construct, if_neg noSlash, if_neg noOpening, if_neg noClosing, if_neg noMath, if_neg noBreak,
    if_neg noSeparator, List.takeWhile_append_of_pos inner, List.dropWhile_append_of_pos inner, taken.1, taken.2,
    List.append_nil]

theorem construct_braced {text : List Char} (balanced : Balanced text) (tail : List Char) :
    construct top '{' (text ++ ['}'] ++ tail) = (.group ⟨text, true⟩, tail) := by
  have group : group? ('{' :: (text ++ ['}'] ++ tail)) = some (⟨text, true⟩, tail) := group?_braced balanced tail
  rw [construct, if_neg (by decide), if_pos rfl, group]

/-- The first command behind white space, if there is one at the head, declares nothing. -/
def DeclaresNothing (text : List Char) : Prop :=
  ∀ command, command? (text.dropWhile Text.isSpace) = some command →
    command.name ∉ sizes ∧ styleDeclaration? command.name = none

/-- A bold argument is a name banner only where it opens with a declaration. -/
theorem bannerName?_eq_none {text : List Char} (nothing : DeclaresNothing text) :
    bannerName? false false text = none := by
  rw [bannerName?]
  split
  next command found =>
    obtain ⟨noSize, noStyle⟩ := nothing command found
    have noBanner : command.name ∉ bannerSizes := fun listed => noSize (List.mem_append_left _ listed)
    have noCaps : command.name ≠ "scshape" := by
      intro same
      rw [same] at noStyle
      exact absurd noStyle (by decide)
    rw [if_neg noBanner, if_neg noCaps, if_neg (by simp [noSize, noStyle]), if_neg (by simp)]
  next => rw [if_neg (by simp)]

private theorem declaresNothing_commandText {name : String} {rest : List Char} (named : Named name)
    (ends : EndsName rest)
    (other : name ∉ sizes ∧ styleDeclaration? name = none) : DeclaresNothing (commandText name ++ rest) := by
  have start : (commandText name ++ rest).dropWhile Text.isSpace = commandText name ++ rest := rfl
  intro command read
  rw [start, command?_commandText named ends] at read
  obtain rfl := Option.some.inj read
  exact other

private theorem declaresNothing_cons {c : Char} {rest : List Char} (shown : Text.isSpace c = false)
    (noSlash : c ≠ '\\') :
    DeclaresNothing (c :: rest) := by
  intro command read
  rw [List.dropWhile_cons_of_neg (by simp [shown]), command?_plain noSlash] at read
  contradiction

/-- Text declares nothing, and if it is all white space, what follows it decides. -/
theorem declaresNothing_append {text rest : List Char} (literal : Literal typography text)
    (nothing : DeclaresNothing rest) : DeclaresNothing (text ++ rest) := by
  unfold DeclaresNothing
  rw [List.dropWhile_append]
  split
  · exact nothing
  next some =>
    cases behind : text.dropWhile Text.isSpace with
    | nil => simp [behind] at some
    | cons c later =>
      have member : c ∈ text := (List.dropWhile_sublist Text.isSpace).mem (by simp [behind])
      have noSlash : c ≠ '\\' := by
        rintro rfl
        exact absurd (literal _ member).1 (by decide)
      intro command read
      rw [List.cons_append, command?_plain noSlash] at read
      contradiction

theorem declaresNothing_writtenAll {flows : Bool} {nodes : List Node} (canonical : Canonical typography flows nodes) :
    DeclaresNothing (writtenAll form nodes) := by
  induction canonical with
  | nil => exact fun command read => by simp [writtenAll, command?] at read
  | text _ literal _ _ _ _ _ tail =>
    rw [writtenAll, written]
    exact declaresNothing_append literal tail
  | @styled flows style child rest own _ _ _ _ _ =>
    simp only [writtenAll, written, List.append_assoc]
    refine declaresNothing_commandText (named_styleName own) (endsName_braced _ _) ?_
    cases style <;> first | contradiction | decide
  | link | entry =>
    simp only [writtenAll, written, List.append_assoc]
    exact declaresNothing_commandText (by decide) (endsName_braced _ _) (by decide)
  | lineBreak | separator => exact declaresNothing_cons (by decide) (by decide)
  | list =>
    simp only [writtenAll, written, List.append_assoc]
    cases form with
    | environment name listed =>
      simp only [ListForm.opening, List.append_assoc]
      exact declaresNothing_commandText (by decide) (endsName_braced _ _) (by decide)
    | commands =>
      have named : Named "resumeItemListStart" := by decide
      rw [writtenItems_map]
      exact declaresNothing_commandText named (endsName_items .commands _ _) (by decide)

theorem construct_styled {style : SpanStyle} (own : style ≠ .accent) {text : List Char} (balanced : Balanced text)
    (nothing : DeclaresNothing text) (tail : List Char) :
    commandConstruct top (styleName style) (braced text ++ tail) =
      (.styled (styleName style) style (some ⟨text, true⟩), tail) := by
  have meant : styleCommand? (styleName style) = some style := by
    cases style <;> first | contradiction | rfl
  simp only [commandConstruct.eq_def, meant, argumentOr_braced balanced (show Text.isInlineSpace '{' = false by decide)]
  split
  next argument found =>
    split at found
    · obtain rfl := Option.some.inj found
      rw [bannerName?_eq_none nothing]
    · contradiction
  next => rfl

theorem construct_href {href label : List Char} (hrefBalanced : Balanced href) (labelBalanced : Balanced label)
    (tail : List Char) :
    commandConstruct top "href" (braced href ++ braced label ++ tail) =
      (.href (some ⟨href, true⟩) (some ⟨label, true⟩), tail) := by
  have stops : Text.isInlineSpace '{' = false := by decide
  have noStyle : styleCommand? "href" = none := rfl
  have noDeclaration : styleDeclaration? "href" = none := rfl
  simp only [commandConstruct.eq_def, noStyle, noDeclaration, List.append_assoc, argumentOr_braced hrefBalanced stops,
    argumentOr_braced labelBalanced stops]

theorem construct_section {title : List Char} (balanced : Balanced title) (tail : List Char) :
    commandConstruct top "section" (braced title ++ tail) = (.heading (some ⟨title, true⟩), tail) := by
  change (Construct.heading (argumentOr Text.isInlineSpace _).1, (argumentOr Text.isInlineSpace _).2) = _
  rw [argumentOr_braced balanced (by decide)]

private theorem arguments_braced {bodies : List (List Char)} (balanced : ∀ body ∈ bodies, Balanced body)
    (rest : List Char) :
    arguments bodies.length (bodies.flatMap braced ++ rest) = (bodies.map (⟨·, true⟩), rest) := by
  induction bodies with
  | nil => rfl
  | cons body bodies ih =>
    rw [List.length_cons, arguments, List.flatMap_cons, List.append_assoc,
      argument?_braced (balanced body (by simp)) (by decide)]
    simp only [ih fun other member => balanced other (by simp [member]), List.map_cons]

theorem construct_entry {bodies : List (List Char)} (four : bodies.length = 4)
    (balanced : ∀ body ∈ bodies, Balanced body) (tail : List Char) :
    commandConstruct top "resumeSubheading" (bodies.flatMap braced ++ tail) =
      (.entry (bodies.map (⟨·, true⟩)), tail) := by
  change (Construct.entry (arguments 4 _).1, (arguments 4 _).2) = _
  rw [← four, arguments_braced balanced]

/-- The body of a written list ends before its closing command. -/
theorem body_items {delimiter : Delimiter} {bodies : List (List Char)} {closing behind : List Char}
    {item : String} (named : Named item) (balanced : ∀ body ∈ bodies, Balanced body)
    (neither : ∀ start rest, delimiter.role ⟨item, start, rest⟩ = (.neither, rest))
    (closes : delimiter.find? 0 closing = some (closing, behind)) :
    delimiter.body (itemsText item bodies ++ closing) = (⟨itemsText item bodies, true⟩, behind) := by
  have found : delimiter.find? 0 (itemsText item bodies ++ closing) = some (closing, behind) :=
    (find?_itemsText named balanced neither closing).trans closes
  rw [Delimiter.body, found]
  simp [upTo]

private theorem trim_listName {name : String} (listed : name ∈ listEnvironments) :
    Text.trim name.toList = name.toList := by
  simp only [listEnvironments, List.mem_cons, List.not_mem_nil, or_false] at listed
  rcases listed with rfl | rfl | rfl
  all_goals decide

/-- The command that closes an environment is found where it stands first. -/
theorem find?_closing {name : String} (listed : name ∈ listEnvironments) (tail : List Char) :
    let closing := (ListForm.environment name listed).closing ++ tail
    (Delimiter.environment name.toList).find? 0 closing = some (closing, tail) := by
  have ending : Named "end" := by decide
  have next := nextCommand?_commandText ending (endsName_braced name.toList tail)
  have role : (Delimiter.environment name.toList).role ⟨"end", commandText "end" ++ (braced name.toList ++ tail),
      braced name.toList ++ tail⟩ = (.closing, tail) := by
    simp only [Delimiter.role]
    rw [argument?_braced (balanced_listName listed) (by decide)]
    simp [trim_listName listed]
  change Delimiter.find? _ 0 (commandText "end" ++ braced name.toList ++ tail) = _
  rw [List.append_assoc, find?_some next, role]
  simp [ListForm.closing]

theorem construct_list_environment {name : String} (listed : name ∈ listEnvironments) {bodies : List (List Char)}
    (balanced : ∀ body ∈ bodies, Balanced body) (tail : List Char) :
    let form := ListForm.environment name listed
    commandConstruct top "begin" (braced name.toList ++ (itemsText form.item bodies ++ (form.closing ++ tail))) =
      (.list form.opening true ⟨itemsText form.item bodies, true⟩, tail) := by
  intro form
  have named : Named "item" := by decide
  have other : name.toList ≠ "center".toList ∧ name.toList ≠ minipageName := by
    have kinds := listed
    simp only [listEnvironments, List.mem_cons, List.not_mem_nil, or_false] at kinds
    rcases kinds with rfl | rfl | rfl <;> decide
  have noOption : option? (itemsText form.item bodies ++ (form.closing ++ tail)) = none := by
    obtain ⟨later, same⟩ := items_head form bodies tail
    rw [same]
    rfl
  have neither (start rest : List Char) :
      (Delimiter.environment name.toList).role ⟨"item", start, rest⟩ = (.neither, rest) := rfl
  have body := body_items named balanced neither (find?_closing listed tail)
  have start : commandConstruct top "begin" (braced name.toList ++ (itemsText form.item bodies ++ (form.closing ++ tail))) =
      environment (Text.trim name.toList) (itemsText form.item bodies ++ (form.closing ++ tail)) := by
    have noStyle : styleCommand? "begin" = none := rfl
    have noDeclaration : styleDeclaration? "begin" = none := rfl
    simp only [commandConstruct.eq_def, noStyle, noDeclaration,
      argument?_braced (balanced_listName listed) (show Text.isInlineSpace '{' = false by decide)]
  rw [start, trim_listName listed, environment, if_neg other.1, if_neg other.2, if_pos (by rwa [String.ofList_toList])]
  simp only [skipOption, noOption, Option.map_none, Option.getD_none]
  change (Construct.list _ _ (Delimiter.body _ (itemsText "item" bodies ++ (form.closing ++ tail))).1,
    (Delimiter.body _ (itemsText "item" bodies ++ (form.closing ++ tail))).2) = _
  rw [body]
  rfl

theorem construct_list_commands {bodies : List (List Char)} (balanced : ∀ body ∈ bodies, Balanced body)
    (tail : List Char) :
    commandConstruct top "resumeItemListStart" (itemsText "resumeItem" bodies ++ (ListForm.commands.closing ++ tail)) =
      (.list ListForm.commands.opening true ⟨itemsText "resumeItem" bodies, true⟩, braced [] ++ tail) := by
  have named : Named "resumeItem" := by decide
  have ending : Named "resumeItemListEnd" := by decide
  have neither (start rest : List Char) : itemList.role ⟨"resumeItem", start, rest⟩ = (.neither, rest) := rfl
  have closes : itemList.find? 0 (ListForm.commands.closing ++ tail) =
      some (ListForm.commands.closing ++ tail, braced [] ++ tail) := by
    have next := nextCommand?_commandText ending (endsName_braced [] tail)
    change itemList.find? 0 (commandText "resumeItemListEnd" ++ braced [] ++ tail) = _
    rw [List.append_assoc, find?_some next]
    rfl
  have body := body_items named balanced neither closes
  change (Construct.list _ _ (itemList.body _).1, (itemList.body _).2) = _
  rw [body]
  rfl

end constructs

end Vitae.Notation
