import Vitae.Proofs.Notation
import Vitae.Transpile.Tidy

/-! Canonical sequences are tidy: their texts stand apart, and tidying takes no space from them. -/

namespace Vitae

namespace Text

theorem dropTrailing_eq_self {drops : Char → Bool} {text : List Char}
    (stop : ∀ c, text.getLast? = some c → drops c = false) : dropTrailing drops text = text := by
  rw [dropTrailing]
  cases same : text.reverse with
  | nil => simpa using same.symm
  | cons c rest =>
    have last : text.getLast? = some c := by rw [← List.head?_reverse, same, List.head?_cons]
    rw [List.dropWhile_cons_of_neg (by simp [stop c last]), ← same, List.reverse_reverse]

theorem getLast?_dropTrailing (drops : Char → Bool) (text : List Char) {c : Char}
    (last : (dropTrailing drops text).getLast? = some c) : drops c = false := by
  rw [dropTrailing, List.getLast?_reverse] at last
  have head := List.head?_dropWhile_not drops text.reverse
  rw [last] at head
  simpa using head

/-- Trimming takes nothing away where neither end is white space. -/
theorem trim_eq_self_iff {text : List Char} :
    trim text = text ↔
      (∀ c, text.head? = some c → isSpace c = false) ∧ ∀ c, text.getLast? = some c → isSpace c = false := by
  constructor
  · intro trimmed
    refine ⟨fun c start => ?_, fun c stop => getLast?_dropTrailing isSpace _ (by rwa [← trim, trimmed])⟩
    obtain ⟨rest, rfl⟩ := List.head?_eq_some_iff.mp start
    rw [Bool.eq_false_iff]
    intro space
    have shorter : (trim (c :: rest)).length ≤ rest.length := by
      simp only [trim, dropTrailing, List.length_reverse, List.dropWhile_cons_of_pos space]
      have dropped := (List.dropWhile_sublist isSpace (l := (rest.dropWhile isSpace).reverse)).length_le
      exact Nat.le_trans dropped (by simpa using (List.dropWhile_sublist isSpace (l := rest)).length_le)
    rw [trimmed, List.length_cons] at shorter
    omega
  · rintro ⟨start, stop⟩
    have whole : text.dropWhile isSpace = text := by
      cases text with
      | nil => rfl
      | cons c rest => exact List.dropWhile_cons_of_neg (by simp [start c rfl])
    rw [trim, whole, dropTrailing_eq_self stop]

end Text

namespace Notation

variable {typography : Bool}

theorem collapseSpaces_eq_self {text : List Char} (spaced : SingleSpaced text) (inside : Bool)
    (start : inside = true → text.head? ≠ some ' ') : Text.collapseSpaces inside text = text := by
  induction text generalizing inside with
  | nil => rfl
  | cons c text ih =>
    obtain ⟨spaces, apart⟩ := spaced
    have later : SingleSpaced text :=
      ⟨fun d member => spaces d (by simp [member]), fun double => apart (double.trans (List.suffix_cons c text).isInfix)⟩
    rw [Text.collapseSpaces]
    split
    next space =>
      obtain rfl := spaces c (by simp) space
      have outside : inside = false := by simpa using start
      have next : text.head? ≠ some ' ' := by
        intro same
        obtain ⟨rest, rfl⟩ := List.head?_eq_some_iff.mp same
        exact apart ⟨[], rest, rfl⟩
      rw [outside, ih later true fun _ => next]
      rfl
    next => rw [ih later false (by simp)]

theorem tidyText_eq_self {before after : Bool} {text : List Char} (spaced : SingleSpaced text)
    (start : text.head? = some ' ' → before = true) (stop : text.getLast? = some ' ' → after = true) :
    Node.tidyText before after text = text := by
  simp only [Node.tidyText, collapseSpaces_eq_self spaced false (by simp)]
  have kept : (if after then text else Text.dropTrailing (· == ' ') text) = text := by
    split
    · rfl
    · rename_i blocked
      exact Text.dropTrailing_eq_self fun c last => by
        rw [beq_eq_false_iff_ne]
        rintro rfl
        exact blocked (stop last)
  rw [kept]
  split
  · rfl
  · rename_i blocked
    cases text with
    | nil => rfl
    | cons c rest =>
      have other : c ≠ ' ' := fun same => blocked (start (by simp [same]))
      exact List.dropWhile_cons_of_neg (by simp [other])

theorem tidyTexts_flows {nodes : List Node} (apart : ∀ value rest, nodes ≠ .text value :: rest) :
    Node.tidyTexts true nodes = Node.tidyTexts false nodes := by
  cases nodes with
  | nil => rfl
  | cons node rest =>
    cases node with
    | text => exact absurd rfl (apart _ _)
    | _ => rfl

end Notation

namespace Node

/-- Holds where text next to the node keeps its space. -/
def takesSpace : Node → Bool
  | .styled .. | .link .. => true
  | _ => false

theorem kind_ne_text {node : Node} (noText : ∀ value, node = .text value → False) : node.kind ≠ .text := by
  cases node with
  | text value => exact absurd rfl (noText value)
  | _ => simp [kind]

theorem flowsWithText_eq_takesSpace {node : Node} (noText : node.kind ≠ .text) :
    node.flowsWithText = node.takesSpace := by
  cases node with
  | text value => exact absurd rfl noText
  | _ => rfl

/-- What follows a text and is no text flows with it where it takes space. -/
theorem any_flowsWithText {rest : List Node} (apart : ∀ other later, rest ≠ .text other :: later) :
    rest.head?.any flowsWithText = rest.head?.any takesSpace := by
  cases rest with
  | nil => rfl
  | cons node rest =>
    apply flowsWithText_eq_takesSpace
    apply kind_ne_text
    intro value text
    exact apart value rest (congrArg (· :: rest) text)

/-- The form of tidy sequences: texts stand apart, none is empty, white space is single spaces, and a text has one at an
end only next to a styled span or a link. `spanned` tells whether a node in front takes space. -/
inductive Tidied : (spanned : Bool) → List Node → Prop
  | nil {spanned} : Tidied spanned []
  | text {spanned value rest} (shown : value ≠ "") (spaced : Notation.SingleSpaced value.toList)
      (start : value.toList.head? = some ' ' → spanned = true)
      (stop : value.toList.getLast? = some ' ' → rest.head?.any takesSpace = true)
      (apart : ∀ other later, rest ≠ .text other :: later) (tail : Tidied false rest) :
      Tidied spanned (.text value :: rest)
  | other {spanned node rest} (noText : node.kind ≠ .text) (tail : Tidied node.takesSpace rest) :
      Tidied spanned (node :: rest)

section

variable {spanned : Bool} {nodes : List Node} (tidied : Tidied spanned nodes)
include tidied

private theorem Tidied.mergeTexts_eq : mergeTexts nodes = nodes := by
  induction tidied with
  | nil => rfl
  | text _ _ _ _ apart _ tail =>
    rw [mergeTexts, tail]
    split
    next => exact absurd rfl (apart _ _)
    next => rfl
  | @other spanned node rest noText _ tail =>
    cases node with
    | text => exact absurd rfl noText
    | _ => rw [mergeTexts, tail]; simp

private theorem Tidied.tidyTexts_eq : tidyTexts spanned nodes = nodes := by
  induction tidied with
  | nil => rfl
  | @text spanned value rest shown spaced start stop apart _ tail =>
    rw [← any_flowsWithText apart] at stop
    rw [tidyTexts, Notation.tidyText_eq_self spaced start stop, Notation.tidyTexts_flows apart, tail]
    split
    next none => exact absurd (String.toList_eq_nil_iff.mp none) shown
    next => rw [String.ofList_toList]
  | @other spanned node rest noText _ tail =>
    rw [tidyTexts]
    · rw [flowsWithText_eq_takesSpace noText, tail]
    · rintro value rfl
      exact noText rfl

end

/-- Tidying changes nothing in a sequence that has the form. -/
theorem Tidied.tidy_eq {nodes : List Node} (tidied : Tidied false nodes) : tidy nodes = nodes := by
  rw [tidy, tidied.mergeTexts_eq, tidied.tidyTexts_eq]

end Node

namespace Notation

variable {typography : Bool}

private theorem tidied_canonical {flows : Bool} {nodes : List Node} (canonical : Canonical typography flows nodes) :
    Node.Tidied flows nodes := by
  induction canonical with
  | nil => exact .nil
  | text shown _ spaced start stop apart _ tail =>
    exact .text shown spaced start (Node.any_flowsWithText apart ▸ stop) apart tail
  | styled _ _ _ _ _ tail => exact .other (by simp [Node.kind]) tail
  | link _ _ _ _ _ tail => exact .other (by simp [Node.kind]) tail
  | lineBreak _ tail => exact .other (by simp [Node.kind]) tail
  | separator _ tail => exact .other (by simp [Node.kind]) tail
  | entry _ _ _ _ _ _ _ _ _ tail => exact .other (by simp [Node.kind]) tail
  | list _ _ _ tail => exact .other (by simp [Node.kind]) tail

/-- Tidying a tidy sequence changes nothing. -/
theorem tidy_canonical {nodes : List Node} (canonical : Canonical typography false nodes) : Node.tidy nodes = nodes :=
  (tidied_canonical canonical).tidy_eq

theorem isEmpty_collapse {flows : Bool} {nodes : List Node} (canonical : Canonical typography flows nodes)
    (shown : nodes ≠ []) : (Node.collapse nodes).isEmpty = false := by
  have first : ∃ node rest, nodes = node :: rest ∧ node.isEmpty = false := by
    cases canonical with
    | nil => exact absurd rfl shown
    | text some => exact ⟨_, _, rfl, by simpa [Node.isEmpty] using some⟩
    | _ => exact ⟨_, _, rfl, rfl⟩
  obtain ⟨node, rest, rfl, visible⟩ := first
  cases rest with
  | nil => exact visible
  | cons second rest => simp [Node.collapse, Node.isEmpty, Node.areEmpty, visible]

end Notation

end Vitae
