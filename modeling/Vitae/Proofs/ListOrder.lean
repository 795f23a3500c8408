import Vitae.Proofs.ListedWords

/-! The order of the words of a list. Rendering joins the texts that stand directly in one item and puts them in front
of the lists inside it, so a rendered list has at most as many words as the document. It has all of them, each in its
place, where an item has one text at most and no list that says anything in front of it. -/

namespace Vitae

namespace Node

mutual

/-- In every item there is one text at most, and no list that says anything stands in front of it. -/
inductive InPlace : List Node → Prop
  | nil : InPlace []
  | cons {item : Node} {rest : List Node} : MembersInPlace item.members → InPlace rest → InPlace (item :: rest)

inductive MembersInPlace : List Node → Prop
  | nil : MembersInPlace []
  | text {value : String} {rest : List Node} :
    runTogether rest = "" → MembersInPlace rest → MembersInPlace (.text value :: rest)
  | list {bulleted : Bool} {items rest : List Node} :
    documentWords items = [] ∨ runTogether rest = "" → InPlace items → MembersInPlace rest →
      MembersInPlace (.itemList bulleted items :: rest)

end

section document

@[simp] theorem documentWords_nil : documentWords [] = [] :=
  rfl

@[simp] theorem documentWords_text (value : String) (rest : List Node) :
    documentWords (.text value :: rest) = value :: documentWords rest :=
  rfl

@[simp] theorem documentWords_list (bulleted : Bool) (items rest : List Node) :
    documentWords (.itemList bulleted items :: rest) = documentWords items ++ documentWords rest := by
  rw [documentWords, walkAll, walk, List.cons_append, List.filterMap_cons_none rfl, List.filterMap_append]
  rfl

private theorem documentWords_item (item : Node) (rest : List Node) :
    documentWords (item :: rest) = documentWords item.members ++ documentWords rest := by
  rw [documentWords, documentWords, documentWords, walkAll, List.filterMap_append]
  cases item with
  | fragment children => rfl
  | _ => simp [members, walkAll]

end document

section rendered

/-- The words of the line of an item and of the lists in it. -/
def memberWords (members : List Node) : List String :=
  (lineWords members ++ allNestedWords members).reduceOption

/-- The words of a rendered list without its markers. -/
def itemWords (bulleted : Bool) (items : List Node) : List String :=
  (renderedWords bulleted items).reduceOption

private theorem itemWords_item (bulleted : Bool) (item : Node) (rest : List Node) :
    itemWords bulleted (item :: rest) = memberWords item.members ++ itemWords bulleted rest := by
  have marker : (if bulleted then [none] else [] : List (Option String)).reduceOption = [] := by
    cases bulleted <;> rfl
  rw [itemWords, renderedWords, List.reduceOption_append, List.reduceOption_append, List.reduceOption_append, marker,
    memberWords, allNestedWords_members, List.reduceOption_append]
  rfl

/-- The words of the lists in an item. -/
def insideWords (members : List Node) : List String :=
  (allNestedWords members).reduceOption

private theorem insideWords_text (value : String) (rest : List Node) :
    insideWords (.text value :: rest) = insideWords rest :=
  rfl

private theorem insideWords_list (bulleted : Bool) (items rest : List Node) :
    insideWords (.itemList bulleted items :: rest) = itemWords bulleted items ++ insideWords rest := by
  rw [insideWords, allNestedWords, nestedWords, List.reduceOption_append]
  rfl

private theorem memberWords_of_eq {members : List Node} (silent : runTogether members = "") :
    memberWords members = insideWords members := by
  rw [memberWords, lineWords, if_pos silent]
  rfl

private theorem memberWords_of_ne {members : List Node} (said : runTogether members ≠ "") :
    memberWords members = runTogether members :: insideWords members := by
  rw [memberWords, lineWords, if_neg said]
  rfl

private theorem length_insideWords_le (members : List Node) :
    (insideWords members).length ≤ (memberWords members).length := by
  by_cases silent : runTogether members = ""
  · exact Nat.le_of_eq (by rw [memberWords_of_eq silent])
  · rw [memberWords_of_ne silent, List.length_cons]
    exact Nat.le_succ _

/-- The line of an item that has a text in front holds that text and all later ones. -/
theorem memberWords_text {value : String} (word : IsWord value) (rest : List Node) :
    memberWords (.text value :: rest) = (value ++ runTogether rest) :: insideWords rest := by
  have said : runTogether (.text value :: rest) ≠ "" := by
    rw [runTogether_text]
    intro none
    exact word.1 (String.append_eq_empty_iff.mp none).1
  rw [memberWords_of_ne said, runTogether_text, insideWords_text]

private theorem memberWords_list_of_eq {rest : List Node} (silent : runTogether rest = "") (bulleted : Bool)
    (items : List Node) : memberWords (.itemList bulleted items :: rest) = itemWords bulleted items ++ memberWords rest := by
  rw [memberWords_of_eq silent, memberWords_of_eq (by rwa [runTogether_list]), insideWords_list]

/-- A text behind a list comes in front of it. -/
theorem memberWords_list_of_ne {rest : List Node} (said : runTogether rest ≠ "") (bulleted : Bool) (items : List Node) :
    memberWords (.itemList bulleted items :: rest) =
      runTogether rest :: (itemWords bulleted items ++ insideWords rest) := by
  rw [memberWords_of_ne (by rwa [runTogether_list]), insideWords_list, runTogether_list]

private theorem length_memberWords_list (bulleted : Bool) (items rest : List Node) :
    (memberWords (.itemList bulleted items :: rest)).length =
      (itemWords bulleted items).length + (memberWords rest).length := by
  by_cases silent : runTogether rest = ""
  · rw [memberWords_list_of_eq silent, List.length_append]
  · rw [memberWords_list_of_ne silent, memberWords_of_ne silent, List.length_cons, List.length_cons, List.length_append]
    rfl

end rendered

section order

mutual

private theorem length_itemWords_le {items : List Node} (listed : WordItems items) (bulleted : Bool) :
    (itemWords bulleted items).length ≤ (documentWords items).length := by
  match items, listed with
  | _, .nil => exact Nat.le_refl 0
  | _, @WordItems.cons item rest inside later =>
    rw [itemWords_item, documentWords_item, List.length_append, List.length_append]
    exact Nat.add_le_add (length_memberWords_le inside) (length_itemWords_le later bulleted)
termination_by structural listed

private theorem length_memberWords_le {members : List Node} (listed : WordMembers members) :
    (memberWords members).length ≤ (documentWords members).length := by
  match members, listed with
  | _, .nil => exact Nat.le_refl 0
  | _, @WordMembers.text value rest word later =>
    rw [memberWords_text word, documentWords_text, List.length_cons, List.length_cons]
    exact Nat.succ_le_succ (Nat.le_trans (length_insideWords_le rest) (length_memberWords_le later))
  | _, @WordMembers.list bulleted items rest inside later =>
    rw [length_memberWords_list, documentWords_list, List.length_append]
    exact Nat.add_le_add (length_itemWords_le inside bulleted) (length_memberWords_le later)
termination_by structural listed

end

mutual

private theorem itemWords_of_inPlace {items : List Node} (listed : WordItems items) (places : InPlace items)
    (bulleted : Bool) :
    itemWords bulleted items = documentWords items := by
  match items, listed, places with
  | _, .nil, _ => rfl
  | _, @WordItems.cons item rest inside later, .cons here behind =>
    rw [itemWords_item, documentWords_item, memberWords_of_inPlace inside here,
      itemWords_of_inPlace later behind bulleted]
termination_by structural listed

private theorem memberWords_of_inPlace {members : List Node} (listed : WordMembers members)
    (places : MembersInPlace members) :
    memberWords members = documentWords members := by
  match members, listed, places with
  | _, .nil, _ => rfl
  | _, @WordMembers.text value rest word later, .text silent behind =>
    rw [memberWords_text word, silent, String.append_empty, documentWords_text, ← memberWords_of_eq silent,
      memberWords_of_inPlace later behind]
  | _, @WordMembers.list bulleted items rest inside later, .list free here behind =>
    have first := itemWords_of_inPlace inside here bulleted
    have second := memberWords_of_inPlace later behind
    rw [documentWords_list]
    by_cases silent : runTogether rest = ""
    · rw [memberWords_list_of_eq silent, first, second]
    · have none : documentWords items = [] := free.resolve_right silent
      rw [memberWords_list_of_ne silent, first, none, List.nil_append, List.nil_append, ← second,
        memberWords_of_ne silent]
termination_by structural listed

end

/-- Where no word is lost, the texts that stand directly in an item are one text. -/
theorem runTogether_mem {members : List Node} (listed : WordMembers members)
    (whole : (memberWords members).length = (documentWords members).length) (said : runTogether members ≠ "") :
    runTogether members ∈ documentWords members := by
  induction members with
  | nil => exact absurd rfl said
  | cons node rest ih =>
    cases listed with
    | @text value _ word later =>
      rw [memberWords_text word, documentWords_text, List.length_cons, List.length_cons] at whole
      have silent : runTogether rest = "" := by
        apply Classical.byContradiction
        intro more
        have bound := length_memberWords_le later
        rw [memberWords_of_ne more, List.length_cons] at bound
        omega
      rw [runTogether_text, silent, String.append_empty, documentWords_text]
      exact List.mem_cons_self
    | @list bulleted items _ inside later =>
      rw [length_memberWords_list, documentWords_list, List.length_append] at whole
      have one := length_itemWords_le inside bulleted
      have two := length_memberWords_le later
      rw [documentWords_list]
      exact List.mem_append_right _ (ih later (by omega) said)

mutual

private theorem inPlace_of_itemWords {items : List Node} (listed : WordItems items) (bulleted : Bool)
    (distinct : (documentWords items).Nodup) (same : itemWords bulleted items = documentWords items) : InPlace items := by
  match items, listed with
  | _, .nil => exact .nil
  | _, @WordItems.cons item rest inside later =>
    rw [itemWords_item, documentWords_item] at same
    rw [documentWords_item] at distinct
    have lengths := congrArg List.length same
    rw [List.length_append, List.length_append] at lengths
    have one := length_memberWords_le inside
    have two := length_itemWords_le later bulleted
    obtain ⟨first, second, _⟩ := List.nodup_append.mp distinct
    obtain ⟨here, behind⟩ := List.append_inj same (by omega)
    exact .cons (inPlace_of_memberWords inside first here) (inPlace_of_itemWords later bulleted second behind)
termination_by structural listed

private theorem inPlace_of_memberWords {members : List Node} (listed : WordMembers members)
    (distinct : (documentWords members).Nodup) (same : memberWords members = documentWords members) :
    MembersInPlace members := by
  match members, listed with
  | _, .nil => exact .nil
  | _, @WordMembers.text value rest word later =>
    rw [memberWords_text word, documentWords_text] at same
    obtain ⟨here, behind⟩ := List.cons.inj same
    have silent : runTogether rest = "" := by simpa using here
    rw [← memberWords_of_eq silent] at behind
    exact .text silent (inPlace_of_memberWords later (List.nodup_cons.mp distinct).2 behind)
  | _, @WordMembers.list bulleted items rest inside later =>
    have lengths := congrArg List.length same
    rw [length_memberWords_list, documentWords_list, List.length_append] at lengths
    have one := length_itemWords_le inside bulleted
    have two := length_memberWords_le later
    rw [documentWords_list] at same distinct
    obtain ⟨first, second, apart⟩ := List.nodup_append.mp distinct
    by_cases silent : runTogether rest = ""
    · rw [memberWords_list_of_eq silent] at same
      obtain ⟨here, behind⟩ := List.append_inj same (by omega)
      exact .list (.inr silent) (inPlace_of_itemWords inside bulleted first here)
        (inPlace_of_memberWords later second behind)
    · -- The text behind the list comes first in the line, but it is no word of the list.
      have member := runTogether_mem later (by omega) silent
      rw [memberWords_list_of_ne silent] at same
      have none : documentWords items = [] := by
        cases words : documentWords items with
        | nil => rfl
        | cons word others =>
          rw [words] at same apart
          exact absurd (List.cons.inj same).1.symm (apart word (by simp) _ member)
      have empty : itemWords bulleted items = [] := List.length_eq_zero_iff.mp (by rw [none] at one; exact Nat.le_zero.mp one)
      rw [empty, none, List.nil_append, List.nil_append, ← memberWords_of_ne silent] at same
      exact .list (.inl none) (inPlace_of_itemWords inside bulleted first (by rw [empty, none]))
        (inPlace_of_memberWords later second same)
termination_by structural listed

end

end order

end Node

namespace Markdown

open Render Node

/-- The words of a rendered list are its markers and what each item says, its own line in front of the lists inside it.
Without the markers they are those of the document, in its order, where the items have their words in place, and only
there if no two words are the same. -/
theorem words_render_list (options : RenderOptions) {items : List Node} (listed : WordItems items) (bulleted : Bool) :
    Text.words Text.isSpace (render options {} [.itemList bulleted items]).toList =
        (renderedWords bulleted items).flatMap (shownWord options) ∧
      (InPlace items → (renderedWords bulleted items).reduceOption = documentWords items) ∧
      ((documentWords items).Nodup → (renderedWords bulleted items).reduceOption = documentWords items →
        InPlace items) := by
  refine ⟨?_, ?_, ?_⟩
  · exact always_content listed bulleted { memory := () }
  · intro places
    exact itemWords_of_inPlace listed places bulleted
  · intro distinct same
    exact inPlace_of_itemWords listed bulleted distinct same

/-- Skills with a list of their own, then another text. -/
def nestedSkills (tail : List Node) : List Node :=
  [.fragment (.text "Languages" :: .itemList true [.text "Rust", .text "Lean"] :: tail), .text "Git"]

private theorem wordItems_nestedSkills {tail : List Node} (listed : WordMembers tail) :
    WordItems (nestedSkills tail) := by
  have skill {value : String} {rest : List Node} (word : IsWord value) (later : WordItems rest) :
      WordItems (.text value :: rest) := .cons (.text word .nil) later
  refine .cons (.text ?_ (.list (skill ?_ (skill ?_ .nil)) listed)) (skill ?_ .nil)
  all_goals exact ⟨by decide, by simp [Text.isSpace]⟩

theorem words_render_nestedSkills :
    WordItems (nestedSkills []) ∧ InPlace (nestedSkills []) ∧
      (renderedWords true (nestedSkills [])).reduceOption = ["Languages", "Rust", "Lean", "Git"] ∧
      Text.words Text.isSpace (render {} {} [.itemList true (nestedSkills [])]).toList =
        (renderedWords true (nestedSkills [])).flatMap (shownWord {}) := by
  have listed := wordItems_nestedSkills .nil
  have texts (values : List String) : InPlace (values.map .text) := by
    induction values with
    | nil => exact .nil
    | cons value values ih => exact .cons (.text rfl .nil) ih
  have places : InPlace (nestedSkills []) :=
    .cons (.text rfl (.list (.inr rfl) (texts ["Rust", "Lean"]) .nil)) (texts ["Git"])
  obtain ⟨words, order, _⟩ := words_render_list {} listed true
  exact ⟨listed, places, order places, words⟩

/-- A text behind a list is glued to the text in front of it. -/
theorem words_render_textBehindList :
    WordItems (nestedSkills [.text "fluently"]) ∧
      documentWords (nestedSkills [.text "fluently"]) = ["Languages", "Rust", "Lean", "fluently", "Git"] ∧
      Text.words Text.isSpace (render {} {} [.itemList true (nestedSkills [.text "fluently"])]).toList =
        ["-", "Languagesfluently", "-", "Rust", "-", "Lean", "-", "Git"].map String.toList := by
  have listed : WordItems (nestedSkills [.text "fluently"]) :=
    wordItems_nestedSkills (.text ⟨by decide, by simp [Text.isSpace]⟩ .nil)
  exact ⟨listed, rfl, (always_content listed true { memory := () }).trans rfl⟩

end Markdown

end Vitae
