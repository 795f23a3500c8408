import Vitae.Proofs.EscapedText
import Vitae.Proofs.SiblingForm
import Vitae.Proofs.Words

/-! Groups in running text. A group is a sequence of its own, which loses the white space at its ends, and its words then
stand in the text around it. So a group splits no word, and it joins two just where nothing but white space at its ends
kept them apart. -/

namespace Vitae

namespace Text

section touch

variable {separates : Char → Bool}

/-- A word ends where the first text does, and one begins where the second does. -/
def touches (separates : Char → Bool) (before after : List Char) : Bool :=
  before.getLast?.any (!separates ·) && after.head?.any (!separates ·)

private theorem words_append_gap {after : List Char} (gap : ∀ c ∈ after.head?, separates c = true)
    (before : List Char) :
    words separates (before ++ after) = words separates before ++ words separates after := by
  cases after with
  | nil => rw [List.append_nil, words, List.append_nil]
  | cons c rest =>
    have space : separates c = true := gap c rfl
    rw [words_append_space space, words_cons_space space]

private theorem words_append_apart {before after : List Char} (apart : touches separates before after = false) :
    words separates (before ++ after) = words separates before ++ words separates after := by
  rw [touches, Bool.and_eq_false_iff] at apart
  rcases apart with first | second
  · exact words_append (by simpa [← Bool.not_eq_true, Option.any_eq_true] using first) after
  · exact words_append_gap (by simpa [← Bool.not_eq_true, Option.any_eq_true] using second) before

private theorem words_append_touching {before after : List Char} (touch : touches separates before after = true) :
    ∃ earlier word next later, words separates before = earlier ++ [word] ∧ words separates after = next :: later ∧
      words separates (before ++ after) = earlier ++ (word ++ next) :: later := by
  simp only [touches, Bool.and_eq_true, Option.any_eq_true, Bool.not_eq_true'] at touch
  obtain ⟨⟨c, ends, last⟩, d, starts, first⟩ := touch
  -- The word at the end of the one text, and the word at the start of the other.
  have shown (text : List Char) : ∀ e ∈ text.takeWhile (!separates ·), separates e = false := by
    intro e member
    simpa using List.all_eq_true.mp List.all_takeWhile e member
  have gap (text : List Char) : ∀ e ∈ (text.dropWhile (!separates ·)).head?, separates e = true := by
    intro e head
    have stopped := List.head?_dropWhile_not (!separates ·) text
    rw [Option.mem_def.mp head] at stopped
    simpa using stopped
  obtain ⟨word, front, wordShown, wordSome, frontGap, rfl⟩ : ∃ word front, (∀ e ∈ word, separates e = false) ∧ word ≠ [] ∧
      (∀ e ∈ front.getLast?, separates e = true) ∧ before = front ++ word := by
    obtain ⟨rest, same⟩ := List.head?_eq_some_iff.mp (List.head?_reverse.trans ends)
    refine ⟨(before.reverse.takeWhile (!separates ·)).reverse, (before.reverse.dropWhile (!separates ·)).reverse,
      fun e member => shown _ e (List.mem_reverse.mp member), ?_, ?_, ?_⟩
    · simp [same, last]
    · rw [List.getLast?_reverse]
      exact gap _
    · rw [← List.reverse_append, List.takeWhile_append_dropWhile, List.reverse_reverse]
  obtain ⟨next, back, nextShown, nextSome, backGap, rfl⟩ : ∃ next back, (∀ e ∈ next, separates e = false) ∧ next ≠ [] ∧
      (∀ e ∈ back.head?, separates e = true) ∧ after = next ++ back := by
    obtain ⟨rest, rfl⟩ := List.head?_eq_some_iff.mp starts
    exact ⟨_, _, shown _, by simp [first], gap (d :: rest), List.takeWhile_append_dropWhile.symm⟩
  refine ⟨words separates front, word, next, words separates back, ?_, ?_, ?_⟩
  · rw [words_append frontGap, words_word wordSome wordShown]
  · rw [words_append_gap backGap, words_word nextSome nextShown, List.singleton_append]
  · have joined : words separates (word ++ next) = [word ++ next] :=
      words_word (by simp [wordSome]) (List.forall_mem_append.mpr ⟨wordShown, nextShown⟩)
    rw [List.append_assoc, words_append frontGap, ← List.append_assoc word, words_append_gap backGap, joined,
      List.singleton_append]

/-- The words of a joined text are told by those of its parts and by whether these touch. -/
theorem words_append_congr {before other after later : List Char}
    (same : touches separates before after = touches separates other later)
    (first : words separates before = words separates other) (second : words separates after = words separates later) :
    words separates (before ++ after) = words separates (other ++ later) := by
  cases touch : touches separates before after with
  | false => rw [words_append_apart touch, words_append_apart (same ▸ touch), first, second]
  | true =>
    obtain ⟨earlier, word, next, rest, one, two, whole⟩ := words_append_touching touch
    obtain ⟨earlier', word', next', rest', one', two', whole'⟩ := words_append_touching (same ▸ touch)
    obtain ⟨rfl, rfl⟩ := List.append_singleton_inj.mp (one.symm.trans (first.trans one'))
    obtain ⟨rfl, rfl⟩ := List.cons.inj (two.symm.trans (second.trans two'))
    rw [whole, whole']

private theorem length_words_gap {blanks : List Char} (blank : ∀ c ∈ blanks, separates c = true)
    (before after : List Char) :
    (words separates (before ++ (blanks ++ after))).length = (words separates (before ++ after)).length +
      if blanks ≠ [] ∧ touches separates before after = true then 1 else 0 := by
  cases blanks with
  | nil => simp
  | cons c blanks =>
    have space : separates c = true := blank c (by simp)
    have gap : ∀ d ∈ (c :: blanks ++ after).head?, separates d = true := by simpa using space
    have parted : words separates (before ++ (c :: blanks ++ after)) = words separates before ++ words separates after := by
      rw [words_append_gap gap, words_blank_append blank]
    rw [parted]
    cases touch : touches separates before after with
    | false => simp [words_append_apart touch]
    | true =>
      obtain ⟨earlier, word, next, later, one, two, whole⟩ := words_append_touching touch
      simp only [one, two, whole, List.length_append, List.length_cons, List.length_nil]
      simp only [ne_eq, reduceCtorEq, not_false_eq_true, and_self, if_true]
      omega

private theorem words_gap_iff {blanks : List Char} (blank : ∀ c ∈ blanks, separates c = true)
    (before after : List Char) :
    words separates (before ++ (blanks ++ after)) = words separates (before ++ after) ↔
      ¬ (blanks ≠ [] ∧ touches separates before after = true) := by
  constructor
  · intro same touch
    have counted := length_words_gap blank before after
    rw [same, if_pos touch] at counted
    omega
  · intro apart
    cases blanks with
    | nil => rfl
    | cons c blanks =>
      have touch : touches separates before after = false := by simpa using apart
      have gap : ∀ d ∈ (c :: blanks ++ after).head?, separates d = true := by simpa using blank c (by simp)
      rw [words_append_gap gap, words_blank_append blank, words_append_apart touch]

end touch

section stripped

/-- A text without the white space at its ends. -/
def stripped (text : List Char) : List Char :=
  dropTrailing isAsciiSpace (text.dropWhile isAsciiSpace)

/-- Neither end of the text is white space. -/
def Bare (text : List Char) : Prop :=
  (∀ c ∈ text.head?, isAsciiSpace c = false) ∧ ∀ c ∈ text.getLast?, isAsciiSpace c = false

private theorem exists_stripped_append (text : List Char) :
    ∃ tail, (∀ c ∈ tail, isAsciiSpace c = true) ∧ text.dropWhile isAsciiSpace = stripped text ++ tail := by
  refine ⟨((text.dropWhile isAsciiSpace).reverse.takeWhile isAsciiSpace).reverse, fun c member => ?_, ?_⟩
  · exact List.all_eq_true.mp List.all_takeWhile c (List.mem_reverse.mp member)
  · rw [stripped, dropTrailing, ← List.reverse_append, List.takeWhile_append_dropWhile, List.reverse_reverse]

private theorem head?_dropWhile_isAsciiSpace (text : List Char) {c : Char}
    (head : (text.dropWhile isAsciiSpace).head? = some c) :
    isAsciiSpace c = false := by
  have stopped := List.head?_dropWhile_not isAsciiSpace text
  rw [head] at stopped
  simpa using stopped

/-- What stripping takes away is white space, all of it in front where nothing is left. -/
theorem exists_blanks (text : List Char) :
    ∃ lead tail, (∀ c ∈ lead, isAsciiSpace c = true) ∧ (∀ c ∈ tail, isAsciiSpace c = true) ∧
      text = lead ++ (stripped text ++ tail) ∧ (stripped text = [] → tail = []) := by
  obtain ⟨tail, blank, split⟩ := exists_stripped_append text
  refine ⟨text.takeWhile isAsciiSpace, tail, fun c => List.all_eq_true.mp List.all_takeWhile c, blank, ?_, fun none => ?_⟩
  · rw [← split, List.takeWhile_append_dropWhile]
  · rw [none, List.nil_append] at split
    cases tail with
    | nil => rfl
    | cons c tail =>
      have shown : isAsciiSpace c = false := head?_dropWhile_isAsciiSpace text (by rw [split, List.head?_cons])
      rw [blank c (by simp)] at shown
      contradiction

theorem bare_stripped (text : List Char) : Bare (stripped text) := by
  refine ⟨fun c head => ?_, fun c last => getLast?_dropTrailing _ _ last⟩
  obtain ⟨tail, -, split⟩ := exists_stripped_append text
  obtain ⟨rest, same⟩ := List.head?_eq_some_iff.mp (Option.mem_def.mp head)
  exact head?_dropWhile_isAsciiSpace text (by rw [split, same, List.cons_append, List.head?_cons])

theorem words_stripped (text : List Char) : words isAsciiSpace (stripped text) = words isAsciiSpace text := by
  rw [stripped, words_dropTrailing fun _ => id, words_dropWhile fun _ => id]

theorem Bare.touches {text : List Char} (bare : Bare text) (some : text ≠ []) :
    (∀ before after, Text.touches isAsciiSpace before (text ++ after) = before.getLast?.any (!isAsciiSpace ·)) ∧
      ∀ before after, Text.touches isAsciiSpace (before ++ text) after = after.head?.any (!isAsciiSpace ·) := by
  obtain ⟨c, starts⟩ : ∃ c, text.head? = .some c := Option.isSome_iff_exists.mp (by simpa using some)
  obtain ⟨d, ends⟩ : ∃ d, text.getLast? = .some d := Option.isSome_iff_exists.mp (by simpa using some)
  exact ⟨fun before after => by simp [Text.touches, List.head?_append, starts, bare.1 c starts],
    fun before after => by simp [Text.touches, List.getLast?_append, ends, bare.2 d ends]⟩

private theorem Bare.words_ne_nil {text : List Char} (bare : Bare text) (some : text ≠ []) :
    words isAsciiSpace text ≠ [] := by
  obtain ⟨c, starts⟩ : ∃ c, text.head? = .some c := Option.isSome_iff_exists.mp (by simpa using some)
  obtain ⟨rest, rfl⟩ := List.head?_eq_some_iff.mp starts
  have shown := bare.1 c starts
  cases rest with
  | nil => simp [words, shown]
  | cons d rest =>
    cases space : isAsciiSpace d with
    | true => simp [words_gap shown space]
    | false =>
      obtain ⟨word, later, -, whole⟩ := words_joined shown space rest
      simp [whole]

/-- Bare texts of the same words are alike to what stands around them. -/
theorem Bare.words_between {text other : List Char} (bare : Bare text) (also : Bare other)
    (same : words isAsciiSpace text = words isAsciiSpace other) (before after : List Char) :
    words isAsciiSpace (before ++ (text ++ after)) = words isAsciiSpace (before ++ (other ++ after)) := by
  by_cases none : text = []
  · have nothing : other = [] :=
      Decidable.byContradiction fun some => also.words_ne_nil some (same ▸ none ▸ rfl)
    rw [none, nothing]
  · have some : other ≠ [] := by
      rintro rfl
      exact bare.words_ne_nil none same
    have starts : Text.touches isAsciiSpace before (text ++ after) = Text.touches isAsciiSpace before (other ++ after) := by
      rw [(bare.touches none).1, (also.touches some).1]
    have ends : Text.touches isAsciiSpace ([] ++ text) after = Text.touches isAsciiSpace ([] ++ other) after := by
      rw [(bare.touches none).2, (also.touches some).2]
    exact words_append_congr starts rfl (words_append_congr ends same rfl)

end stripped

section joins

/-- A word before a group and one behind its first space, or one before its last space and one behind it, stand next to
each other where the group loses the space. -/
def Joins (before inner after : List Char) : Prop :=
  (inner.head?.any isAsciiSpace = true ∧ touches isAsciiSpace before (stripped inner ++ after) = true) ∨
    inner.getLast?.any isAsciiSpace = true ∧ touches isAsciiSpace (before ++ stripped inner) after = true

private theorem head?_any_blank {blanks : List Char} (blank : ∀ c ∈ blanks, isAsciiSpace c = true) {after : List Char}
    (shown : after.head?.any isAsciiSpace = false) : (blanks ++ after).head?.any isAsciiSpace = true ↔ blanks ≠ [] := by
  cases blanks with
  | nil => simp [shown]
  | cons c blanks => simp [blank c (by simp)]

private theorem getLast?_any_blank {blanks : List Char} (blank : ∀ c ∈ blanks, isAsciiSpace c = true)
    {before : List Char} (shown : before.getLast?.any isAsciiSpace = false) :
    (before ++ blanks).getLast?.any isAsciiSpace = true ↔ blanks ≠ [] := by
  rcases List.eq_nil_or_concat blanks with rfl | ⟨blanks, c, rfl⟩
  · simp [shown]
  · simp [blank c (by simp)]

theorem Bare.any_eq_false {text : List Char} (bare : Bare text) :
    text.head?.any isAsciiSpace = false ∧ text.getLast?.any isAsciiSpace = false := by
  simpa [Bare, ← Bool.not_eq_true, Option.any_eq_true] using bare

private theorem words_stripped_between_iff (before inner after : List Char) :
    words isAsciiSpace (before ++ (stripped inner ++ after)) = words isAsciiSpace (before ++ (inner ++ after)) ↔
      ¬ Joins before inner after := by
  obtain ⟨lead, tail, leadBlank, tailBlank, whole, none⟩ := exists_blanks inner
  have bare := bare_stripped inner
  by_cases empty : stripped inner = []
  · -- The group holds white space only.
    rw [empty, none empty, List.append_nil, List.append_nil] at whole
    have start : (lead ++ []).head?.any isAsciiSpace = true ↔ lead ≠ [] := head?_any_blank leadBlank rfl
    have stop : ([] ++ lead).getLast?.any isAsciiSpace = true ↔ lead ≠ [] := getLast?_any_blank leadBlank rfl
    rw [List.append_nil] at start
    rw [List.nil_append] at stop
    rw [Joins, empty, whole, start, stop, List.nil_append, List.append_nil, or_self, eq_comm]
    exact words_gap_iff leadBlank before after
  · have shown := bare.any_eq_false
    have start : inner.head?.any isAsciiSpace = true ↔ lead ≠ [] := by
      conv => lhs; rw [whole]
      refine head?_any_blank leadBlank ?_
      rw [List.head?_append, Option.or_of_isSome (by simpa using empty)]
      exact shown.1
    have stop : inner.getLast?.any isAsciiSpace = true ↔ tail ≠ [] := by
      conv => lhs; rw [whole, ← List.append_assoc]
      refine getLast?_any_blank tailBlank ?_
      rw [List.getLast?_append, Option.or_of_isSome (by simpa using empty)]
      exact shown.2
    have front : touches isAsciiSpace before (stripped inner ++ (tail ++ after)) =
        touches isAsciiSpace before (stripped inner ++ after) := by
      rw [(bare.touches empty).1, (bare.touches empty).1]
    have spelled : before ++ (inner ++ after) = before ++ (lead ++ (stripped inner ++ (tail ++ after))) := by
      conv => lhs; rw [whole]
      simp only [List.append_assoc]
    have first := length_words_gap leadBlank before (stripped inner ++ (tail ++ after))
    have second := length_words_gap tailBlank (before ++ stripped inner) after
    rw [List.append_assoc, List.append_assoc] at second
    rw [Joins, start, stop, ← front, spelled]
    constructor
    · intro same joins
      rw [same, first] at second
      rcases joins with lost | lost
      · rw [if_pos lost] at second
        omega
      · rw [if_pos lost] at second
        omega
    · intro apart
      rw [not_or] at apart
      have inside := (words_gap_iff tailBlank (before ++ stripped inner) after).mpr apart.2
      rw [List.append_assoc, List.append_assoc] at inside
      rw [(words_gap_iff leadBlank before _).mpr apart.1, inside]

end joins

section flowed

/-- The words of a text with one space between them. -/
def flowed (text : List Char) : List Char :=
  [' '].intercalate (words isAsciiSpace text)

private theorem words_intercalate {list : List (List Char)}
    (each : ∀ word ∈ list, word ≠ [] ∧ ∀ c ∈ word, isAsciiSpace c = false) :
    words isAsciiSpace ([' '].intercalate list) = list := by
  induction list with
  | nil => rfl
  | cons word list ih =>
    obtain ⟨⟨some, shown⟩, others⟩ := List.forall_mem_cons.mp each
    cases list with
    | nil =>
      have alone : [' '].intercalate [word] = word := by simp [List.intercalate]
      rw [alone, words_word some shown]
    | cons next later =>
      rw [intercalate_cons_cons, words_append_space rfl, ih others, words_word some shown, List.singleton_append]

theorem words_flowed (text : List Char) : words isAsciiSpace (flowed text) = words isAsciiSpace text :=
  words_intercalate (forall_mem_words isAsciiSpace text)

theorem flowed_inj {text other : List Char} :
    flowed text = flowed other ↔ words isAsciiSpace text = words isAsciiSpace other := by
  refine ⟨fun same => ?_, fun same => by rw [flowed, flowed, same]⟩
  rw [← words_flowed text, same, words_flowed]

private theorem flowed_space {c : Char} (space : isAsciiSpace c = true) (rest : List Char) :
    flowed (c :: rest) = flowed rest :=
  flowed_inj.mpr (words_cons_space space rest)

/-- What flows behind a character: a word that begins behind white space keeps one space. -/
def flowedBehind (rest : List Char) : List Char :=
  if rest.head?.any isAsciiSpace = true ∧ flowed rest ≠ [] then ' ' :: flowed rest else flowed rest

private theorem flowed_shown {c : Char} (shown : isAsciiSpace c = false) (rest : List Char) :
    flowed (c :: rest) = c :: flowedBehind rest := by
  cases rest with
  | nil => simp [flowed, flowedBehind, words, shown, List.intercalate]
  | cons d rest =>
    rw [flowedBehind, List.head?_cons, Option.any_some]
    cases space : isAsciiSpace d with
    | true =>
      rw [flowed_space space, flowed, words_gap shown space]
      cases same : words isAsciiSpace rest with
      | nil => simp [flowed, same, List.intercalate]
      | cons word later =>
        have some : flowed rest ≠ [] := fun none => by
          have nothing := words_flowed rest
          rw [none, same] at nothing
          contradiction
        rw [intercalate_cons_cons, ← same, if_pos ⟨rfl, some⟩]
        rfl
    | false =>
      obtain ⟨word, later, same, whole⟩ := words_joined shown space rest
      rw [if_neg (by simp), flowed, flowed, whole, same]
      cases later with
      | nil => simp [List.intercalate]
      | cons next later => rw [intercalate_cons_cons, intercalate_cons_cons, List.cons_append]

/-- Single spaces are what is left between the words, and in front of them where no space stood before. -/
theorem dropTrailing_collapseSpaces (inside : Bool) (text : List Char) :
    dropTrailing (· == ' ') (collapseSpaces inside text) = if inside then flowed text else flowedBehind text := by
  induction text generalizing inside with
  | nil => cases inside <;> rfl
  | cons c rest ih =>
    rw [collapseSpaces]
    cases space : isAsciiSpace c with
    | true =>
      cases inside with
      | true => rw [if_pos rfl, if_pos rfl, ih true, flowed_space space]; rfl
      | false =>
        have behind : flowedBehind (c :: rest) = if flowed rest = [] then [] else ' ' :: flowed rest := by
          rw [flowedBehind, flowed_space space]
          by_cases none : flowed rest = [] <;> simp [none, space]
        rw [if_pos rfl, if_neg Bool.false_ne_true, dropTrailing_cons, ih true, if_pos rfl, if_neg Bool.false_ne_true, behind]
        simp
    | false =>
      have other : (c == ' ') = false := by
        rw [beq_eq_false_iff_ne]
        rintro rfl
        exact absurd space (by decide)
      have behind : flowedBehind (c :: rest) = flowed (c :: rest) := by simp [flowedBehind, space]
      rw [if_neg Bool.false_ne_true, dropTrailing_cons, ih false, behind, ite_self, flowed_shown space]
      simp [other]

private theorem bare_flowed (text : List Char) : Bare (flowed text) := by
  by_cases none : words isAsciiSpace text = []
  · simp [flowed, none, Bare, List.intercalate]
  · obtain ⟨spaced, -, start, stop⟩ := Notation.spaced_words none (forall_mem_words isAsciiSpace text)
    refine ⟨fun c head => ?_, fun c last => ?_⟩
    · rw [Bool.eq_false_iff]
      intro space
      obtain rfl := spaced.1 c (List.mem_of_head? head) space
      exact start head
    · rw [Bool.eq_false_iff]
      intro space
      obtain rfl := spaced.1 c (List.mem_of_getLast? last) space
      exact stop last

end flowed

end Text

namespace Node

open Text

private theorem tidyText_alone (text : List Char) : tidyText false false text = flowed text := by
  have start : (flowed text).dropWhile (· == ' ') = flowed text := by
    cases same : flowed text with
    | nil => rfl
    | cons c rest =>
      have shown : isAsciiSpace c = false := (bare_flowed text).1 c (by rw [same, List.head?_cons]; rfl)
      refine List.dropWhile_cons_of_neg ?_
      rw [beq_iff_eq]
      rintro rfl
      exact absurd shown (by decide)
  rw [tidyText, if_neg Bool.false_ne_true, if_neg Bool.false_ne_true, dropTrailing_collapseSpaces,
    if_neg Bool.false_ne_true, flowedBehind]
  split
  · rw [List.dropWhile_cons_of_pos rfl, start]
  · exact start

/-- The nodes of text alone. -/
def ofText (text : List Char) : List Node :=
  if flowed text = [] then [] else [.text (.ofList (flowed text))]

private theorem ofText_inj {text other : List Char} :
    ofText text = ofText other ↔ words isAsciiSpace text = words isAsciiSpace other := by
  rw [← flowed_inj, ofText, ofText]
  constructor
  · intro same
    split at same <;> split at same
    next none also => rw [none, also]
    next => contradiction
    next => contradiction
    next =>
      simp only [List.cons.injEq, Node.text.injEq, and_true] at same
      exact String.ofList_injective same
  · intro same
    rw [same]

theorem tidy_texts (values : List String) : tidy (values.map .text) = ofText (String.join values).toList := by
  cases values with
  | nil => rfl
  | cons first later =>
    rw [tidy, Notation.mergeTexts_texts, tidyTexts, List.head?_nil, Option.any_none, tidyText_alone, ofText]
    split
    next none => rw [if_pos none]; rfl
    next some => rw [if_neg some]; rfl

end Node

namespace Notation

open Markup Transpile

variable {options : TranspileOptions} {levels : Nat} {top : Bool}

theorem PassesText.sequence {markup text : List Char} (passes : PassesText options levels top markup text) :
    Transpile.sequence options (levels + 1) top markup = pure (Node.ofText text) := by
  obtain ⟨values, joined, passed⟩ := passes
  rw [sequence_succ, passed, map_pure, arrange, gather_nodes, Node.tidy_texts, joined, String.toList_ofList,
    List.append_nil]

theorem PassesText.behind {markup text run : List Char} (later : PassesText options levels top markup text)
    (untypeset : options.typography = false) (plain : ∀ c ∈ run, isPlain c = true) (stops : StopsText markup) :
    PassesText options levels top (run ++ markup) (run ++ text) := by
  by_cases none : run = []
  · rw [none]
    exact later
  · exact later.after (yields_plain none untypeset plain stops)

private theorem passesText_plain {text : List Char} (untypeset : options.typography = false)
    (plain : ∀ c ∈ text, isPlain c = true) : PassesText options levels top text text := by
  have whole : PassesText options levels top (text ++ []) (text ++ []) :=
    PassesText.behind ⟨[], rfl, parts_nil ..⟩ untypeset plain stopsText_nil
  rwa [List.append_nil] at whole

private theorem passesText_grouped {before inner after : List Char} (untypeset : options.typography = false)
    (plainBefore : ∀ c ∈ before, isPlain c = true) (plainInner : ∀ c ∈ inner, isPlain c = true)
    (plainAfter : ∀ c ∈ after, isPlain c = true) :
    PassesText options (levels + 1) top (before ++ (braced inner ++ after)) (before ++ (Text.flowed inner ++ after)) := by
  have balanced : Balanced inner := balanced_of_forall fun c member => by
    refine ⟨?_, ?_, ?_⟩
    all_goals
      rintro rfl
      exact absurd (plainInner _ member) (by decide)
  have reads : ReadsAs options (levels + 1) inner (Node.ofText inner) :=
    (passesText_plain untypeset plainInner).sequence
  have group : Yields options (levels + 1) top (braced inner) after _ := yields_braced after balanced reads
  obtain ⟨values, same, joined⟩ : ∃ values : List String, Node.ofText inner = values.map .text ∧
      String.join values = .ofList (Text.flowed inner) := by
    rw [Node.ofText]
    split
    next none => exact ⟨[], rfl, by rw [none]; rfl⟩
    next => exact ⟨[.ofList (Text.flowed inner)], rfl, by simp [String.join_cons]⟩
  rw [same] at group
  refine PassesText.behind ?_ untypeset plainBefore ?_
  · exact (passesText_plain untypeset plainAfter).append values group joined
  · rintro c later same
    obtain rfl : '{' = c := (List.cons.inj same).1
    decide

end Notation

open Markup

private theorem transpile_plain (options : TranspileOptions) (untypeset : options.typography = false) {text : List Char}
    (plain : ∀ c ∈ text, isPlain c = true) : transpile options (.ofList text) = ⟨Node.ofText text, []⟩ := by
  have reads : Transpile.sequence options (options.maxDepth + 1) true text = _ :=
    (Notation.passesText_plain untypeset plain).sequence
  simp [transpile, reads]

/-- The text of a group has lost the white space at its ends before it joins the text around it. -/
theorem transpile_braced (options : TranspileOptions) (untypeset : options.typography = false)
    (nests : 1 ≤ options.maxDepth) {before inner after : List Char} (plainBefore : ∀ c ∈ before, isPlain c = true)
    (plainInner : ∀ c ∈ inner, isPlain c = true) (plainAfter : ∀ c ∈ after, isPlain c = true) :
    transpile options (.ofList (before ++ braced inner ++ after)) =
      ⟨Node.ofText (before ++ (Text.flowed inner ++ after)), []⟩ := by
  obtain ⟨levels, same⟩ : ∃ levels, options.maxDepth = levels + 1 := ⟨options.maxDepth - 1, by omega⟩
  have reads : Transpile.sequence options (levels + 1 + 1) true (before ++ (braced inner ++ after)) = _ :=
    (Notation.passesText_grouped untypeset plainBefore plainInner plainAfter).sequence
  rw [← same] at reads
  simp [transpile, reads]

/-- A group in running text stands for its text without the white space at its ends, so it splits no word; and it can be
left out just where it does not join two words that only this white space kept apart. -/
theorem transpile_grouped (options : TranspileOptions) (untypeset : options.typography = false)
    (nests : 1 ≤ options.maxDepth) {before inner after : List Char} (plainBefore : ∀ c ∈ before, isPlain c = true)
    (plainInner : ∀ c ∈ inner, isPlain c = true) (plainAfter : ∀ c ∈ after, isPlain c = true) :
    transpile options (.ofList (before ++ braced inner ++ after)) =
        transpile options (.ofList (before ++ Text.stripped inner ++ after)) ∧
      ((transpile options (.ofList (before ++ braced inner ++ after))).tree =
          (transpile options (.ofList (before ++ inner ++ after))).tree ↔
        ¬ Text.Joins before inner after) := by
  have stripped : Node.ofText (before ++ (Text.flowed inner ++ after)) =
      Node.ofText (before ++ (Text.stripped inner ++ after)) := by
    rw [Node.ofText_inj]
    refine (Text.bare_flowed inner).words_between (Text.bare_stripped inner) ?_ before after
    rw [Text.words_flowed, Text.words_stripped]
  have plainStripped : ∀ c ∈ Text.stripped inner, isPlain c = true := by
    obtain ⟨lead, tail, -, -, whole, -⟩ := Text.exists_blanks inner
    intro c member
    exact plainInner c (by rw [whole]; simp [member])
  rw [transpile_braced options untypeset nests plainBefore plainInner plainAfter, stripped, List.append_assoc,
    List.append_assoc, transpile_plain options untypeset
      (List.forall_mem_append.mpr ⟨plainBefore, List.forall_mem_append.mpr ⟨plainStripped, plainAfter⟩⟩),
    transpile_plain options untypeset
      (List.forall_mem_append.mpr ⟨plainBefore, List.forall_mem_append.mpr ⟨plainInner, plainAfter⟩⟩),
    ← Text.words_stripped_between_iff, ← Node.ofText_inj]
  exact ⟨rfl, Iff.rfl⟩

theorem transpile_grouped_labs :
    let options : TranspileOptions := { typography := false }
    (∀ c ∈ "Acme ".toList, isPlain c = true) ∧ (∀ c ∈ " Labs".toList, isPlain c = true) ∧
      (∀ c ∈ " Inc".toList, isPlain c = true) ∧ ¬ Text.Joins "Acme ".toList " Labs".toList " Inc".toList ∧
      (transpile options (.ofList ("Acme ".toList ++ braced " Labs".toList ++ " Inc".toList))).tree =
        (transpile options (.ofList ("Acme ".toList ++ " Labs".toList ++ " Inc".toList))).tree := by
  intro options
  have plainBefore : ∀ c ∈ "Acme ".toList, isPlain c = true := List.all_eq_true.mp (by decide)
  have plainInner : ∀ c ∈ " Labs".toList, isPlain c = true := List.all_eq_true.mp (by decide)
  have plainAfter : ∀ c ∈ " Inc".toList, isPlain c = true := List.all_eq_true.mp (by decide)
  have apart : ¬ Text.Joins "Acme ".toList " Labs".toList " Inc".toList := by
    simp only [Text.Joins]
    decide
  exact ⟨plainBefore, plainInner, plainAfter, apart,
    (transpile_grouped options rfl (by decide) plainBefore plainInner plainAfter).2.mpr apart⟩

/-- The space in the group is all that keeps the two words apart, and is lost. -/
theorem transpile_grouped_joined :
    let options : TranspileOptions := { typography := false }
    (∀ c ∈ "a".toList ++ " x".toList ++ "c".toList, isPlain c = true) ∧ 1 ≤ options.maxDepth ∧
      (transpile options (.ofList ("a".toList ++ braced " x".toList ++ "c".toList))).tree ≠
        (transpile options (.ofList ("a".toList ++ " x".toList ++ "c".toList))).tree := by
  intro options
  have plain : ∀ c ∈ "a".toList ++ " x".toList ++ "c".toList, isPlain c = true := List.all_eq_true.mp (by decide)
  have nests : 1 ≤ options.maxDepth := by decide
  obtain ⟨plainFront, plainAfter⟩ := List.forall_mem_append.mp plain
  obtain ⟨plainBefore, plainInner⟩ := List.forall_mem_append.mp plainFront
  refine ⟨plain, nests, fun same => ?_⟩
  rw [transpile_braced options rfl nests plainBefore plainInner plainAfter, transpile_plain options rfl plain,
    Node.ofText_inj] at same
  -- One word, axc, on the left; two, a and xc, on the right.
  exact absurd same (by decide)

end Vitae
