import Vitae.Proofs.GroupedText

/-! The text between the nodes of a sequence. Tidying keeps every node that is no text and works on each gap between two
of them by itself: the words stay, with one space between them, and what the nodes on both sides of a gap are does not
change, so a second time nothing is left to do. -/

namespace Vitae

namespace Text

/-- The characters of a text that are no white space. -/
def inked (text : List Char) : List Char :=
  text.filter (!isAsciiSpace ·)

private theorem inked_eq_flatten (text : List Char) : inked text = (words isAsciiSpace text).flatten :=
  (flatten_words text).symm

private theorem isAsciiSpace_of_beq (c : Char) (space : (c == ' ') = true) : isAsciiSpace c = true := by
  obtain rfl := beq_iff_eq.mp space
  rfl

private theorem words_flowedBehind (text : List Char) :
    words isAsciiSpace (flowedBehind text) = words isAsciiSpace text := by
  unfold flowedBehind
  split
  · rw [words_cons_space rfl, words_flowed]
  · exact words_flowed text

private theorem words_collapseSpaces (inside : Bool) (text : List Char) :
    words isAsciiSpace (collapseSpaces inside text) = words isAsciiSpace text := by
  rw [← words_dropTrailing isAsciiSpace_of_beq, dropTrailing_collapseSpaces]
  split
  · exact words_flowed text
  · exact words_flowedBehind text

private theorem stripped_infix_self (text : List Char) : stripped text <:+: text := by
  obtain ⟨lead, tail, -, -, same, -⟩ := exists_blanks text
  exact ⟨lead, tail, by rw [List.append_assoc, ← same]⟩

/-- Where white space is single spaces and none is at the ends, the words with one space between them are the text. -/
theorem flowed_eq_self {text : List Char} (spaced : Notation.SingleSpaced text) (bare : Bare text) :
    flowed text = text := by
  have noSpace {c : Char} (shown : isAsciiSpace c = false) : c ≠ ' ' := by
    rintro rfl
    exact absurd shown (by decide)
  have collapsed : collapseSpaces true text = text := by
    apply Notation.collapseSpaces_eq_self spaced
    intro _ start
    exact noSpace (bare.1 ' ' start) rfl
  have ends : dropTrailing (· == ' ') text = text := by
    apply dropTrailing_eq_self
    intro c last
    exact beq_eq_false_iff_ne.mpr (noSpace (bare.2 c last))
  calc
    flowed text = dropTrailing (· == ' ') (collapseSpaces true text) := (dropTrailing_collapseSpaces true text).symm
    _ = text := by rw [collapsed, ends]

private theorem stripped_eq_flowed {text : List Char} (spaced : Notation.SingleSpaced text) :
    stripped text = flowed text := by
  rw [← flowed_eq_self (spaced.part (stripped_infix_self text)) (bare_stripped text)]
  exact flowed_inj.mpr (words_stripped text)

end Text

namespace Node

open Text

private theorem words_tidyText (before after : Bool) (text : List Char) :
    words isAsciiSpace (tidyText before after text) = words isAsciiSpace text := by
  have shortened : words isAsciiSpace (if after then collapseSpaces false text
      else dropTrailing (· == ' ') (collapseSpaces false text)) = words isAsciiSpace text := by
    split
    · exact words_collapseSpaces false text
    · rw [words_dropTrailing isAsciiSpace_of_beq, words_collapseSpaces]
  cases before with
  | true => exact shortened
  | false => exact (words_dropWhile isAsciiSpace_of_beq _).trans shortened

private theorem tidyText_nil (before after : Bool) : tidyText before after [] = [] := by
  cases before <;> cases after <;> rfl

/-- The text between two nodes that are none, or at an end, and whether the node in front of it and the node behind it
take space. -/
structure Gap where
  before : Bool
  text : List Char
  after : Bool

namespace Gap

def behind (text : List Char) (gap : Gap) : Gap :=
  { gap with text := text ++ gap.text }

def tidied (gap : Gap) : Gap :=
  { gap with text := tidyText gap.before gap.after gap.text }

private theorem inked_tidied (gap : Gap) : inked gap.tidied.text = inked gap.text := by
  rw [inked_eq_flatten, inked_eq_flatten, tidied, words_tidyText]

private theorem stripped_tidied (gap : Gap) : stripped gap.tidied.text = flowed gap.text := by
  rw [tidied, stripped_eq_flowed (Notation.tidyText_form _ _ _).1]
  exact flowed_inj.mpr (words_tidyText _ _ _)

end Gap

/-- The gaps of a sequence, one more than it has nodes other than text. `before` tells whether a node in front of the
sequence takes space. -/
def gaps (before : Bool) : List Node → List Gap
  | [] => [⟨before, [], false⟩]
  | .text value :: rest => (gaps before rest).modifyHead (.behind value.toList)
  | node :: rest => ⟨before, [], node.takesSpace⟩ :: gaps node.takesSpace rest

section gaps

variable {before : Bool} {nodes : List Node}

private theorem gaps_cons {node : Node} (noText : ∀ value, node = .text value → False) (rest : List Node) :
    gaps before (node :: rest) = ⟨before, [], node.takesSpace⟩ :: gaps node.takesSpace rest := by
  rw [gaps]
  exact noText

/-- Behind a text begins an empty gap, where no other text follows. -/
theorem gaps_apart (before : Bool) (apart : ∀ value rest, nodes ≠ .text value :: rest) :
    ∃ later, gaps before nodes = ⟨before, [], nodes.head?.any takesSpace⟩ :: later := by
  cases nodes with
  | nil => exact ⟨[], rfl⟩
  | cons node rest =>
    have noText : ∀ value, node = .text value → False := by
      rintro value rfl
      exact apart value rest rfl
    exact ⟨_, gaps_cons noText rest⟩

private theorem gaps_mergeTexts (before : Bool) (nodes : List Node) :
    gaps before (mergeTexts nodes) = gaps before nodes := by
  fun_induction mergeTexts nodes generalizing before with
  | case1 => rfl
  | case2 value rest next later merged ih =>
    have joined : Gap.behind value.toList ∘ Gap.behind next.toList = Gap.behind (value ++ next).toList := by
      funext gap
      simp [Gap.behind]
    rw [gaps, gaps, ← ih, merged, gaps, List.modifyHead_modifyHead, joined]
  | case3 value rest next ih => rw [gaps, gaps, ih]
  | case4 node rest noText ih => rw [gaps_cons noText, gaps_cons noText, ih]

/-- Each gap is tidied by itself, as the nodes on its sides tell. -/
theorem gaps_tidyTexts (apart : Apart nodes) :
    gaps before (tidyTexts before nodes) = (gaps before nodes).map Gap.tidied := by
  induction apart generalizing before with
  | nil => simp [tidyTexts, gaps, Gap.tidied, tidyText_nil]
  | @text value rest next _ ih =>
    obtain ⟨later, start⟩ := gaps_apart before next
    have behind : gaps before (tidyTexts true rest) = (gaps before rest).map Gap.tidied := by
      cases before with
      | true => exact ih
      | false =>
        rw [Notation.tidyTexts_flows next]
        exact ih
    -- Text of which nothing is left adds nothing to the gap either.
    have whole : gaps before (tidyTexts before (.text value :: rest)) = (gaps before (tidyTexts true rest)).modifyHead
        (.behind (tidyText before (rest.head?.any flowsWithText) value.toList)) := by
      rw [tidyTexts]
      split
      next nothing =>
        rw [nothing, behind, start]
        rfl
      next => rw [gaps, String.toList_ofList]
    rw [whole, behind, gaps, start, any_flowsWithText next]
    simp [Gap.behind, Gap.tidied, tidyText_nil]
  | @other node rest noText _ ih =>
    rw [tidyTexts]
    · rw [gaps_cons noText, gaps_cons noText, flowsWithText_eq_takesSpace (kind_ne_text noText), ih]
      simp [Gap.tidied, tidyText_nil]
    · exact noText

private theorem gaps_tidy (nodes : List Node) : gaps false (tidy nodes) = (gaps false nodes).map Gap.tidied := by
  rw [tidy, gaps_tidyTexts (apart_mergeTexts nodes), gaps_mergeTexts]

end gaps

section others

/-- The nodes of a sequence that are no text. -/
def others (nodes : List Node) : List Node :=
  nodes.filter (·.kind ≠ .text)

private theorem others_text (value : String) (rest : List Node) : others (.text value :: rest) = others rest :=
  List.filter_cons_of_neg (by simp [kind])

private theorem others_cons {node : Node} (noText : ∀ value, node = .text value → False) (rest : List Node) :
    others (node :: rest) = node :: others rest :=
  List.filter_cons_of_pos (by simpa using kind_ne_text noText)

private theorem others_mergeTexts (nodes : List Node) : others (mergeTexts nodes) = others nodes := by
  fun_induction mergeTexts nodes with
  | case1 => rfl
  | case2 value rest next later merged ih =>
    rw [merged, others_text] at ih
    rw [others_text, others_text, ih]
  | case3 value rest next ih => rw [others_text, others_text, ih]
  | case4 node rest noText ih => rw [others_cons noText, others_cons noText, ih]

private theorem others_tidyTexts (before : Bool) (nodes : List Node) :
    others (tidyTexts before nodes) = others nodes := by
  fun_induction tidyTexts before nodes with
  | case1 => rfl
  | case2 before value rest nothing ih => rw [others_text, ih]
  | case3 before value rest shown ih => rw [others_text, others_text, ih]
  | case4 before node rest noText ih => rw [others_cons noText, others_cons noText, ih]

private theorem others_tidy (nodes : List Node) : others (tidy nodes) = others nodes := by
  rw [tidy, others_tidyTexts, others_mergeTexts]

end others

/-- Tidying a second time changes nothing. It keeps the nodes other than text in their order, in each gap between them
the characters other than white space, and between the words of a gap one space; its texts stand apart, none is empty,
and one begins or ends in white space only next to a styled span or a link. -/
theorem tidy_normalizes (nodes : List Node) :
    tidy (tidy nodes) = tidy nodes ∧ others (tidy nodes) = others nodes ∧
      (gaps false (tidy nodes)).map (inked ·.text) = (gaps false nodes).map (inked ·.text) ∧
      (gaps false (tidy nodes)).map (stripped ·.text) = (gaps false nodes).map (flowed ·.text) ∧
      Tidied false (tidy nodes) := by
  have tidied := tidied_tidy nodes
  refine ⟨tidied.tidy_eq, others_tidy nodes, ?_, ?_, tidied⟩
  · rw [gaps_tidy, List.map_map]
    exact List.map_congr_left fun gap _ => gap.inked_tidied
  · rw [gaps_tidy, List.map_map]
    exact List.map_congr_left fun gap _ => gap.stripped_tidied

example : tidy [.text "  a\n b ", .text " ", .lineBreak, .text " "] = [.text "a b", .lineBreak] := rfl

end Node

end Vitae
