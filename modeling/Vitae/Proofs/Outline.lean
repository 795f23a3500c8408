import Vitae.Proofs.SteadyText

/-! The outline of a text: the characters that a normal form is told by, in their order, and one sign for each
stretch of others between them. Texts of one outline are steady together, whatever their stretches hold. -/

namespace Vitae.Markup

/-- The characters that a normal form is told by. -/
def anchors : List Char :=
  ['\\', '%', '$', '|', ' ', '\t', '\n']

def isAnchor (c : Char) : Bool :=
  anchors.contains c

/-- Puts a stretch of others before an outline; it goes on in the stretch that begins there. -/
def stretch : List (Option Char) → List (Option Char)
  | none :: marks => none :: marks
  | marks => none :: marks

def outline : List Char → List (Option Char)
  | [] => []
  | c :: rest => if isAnchor c then some c :: outline rest else stretch (outline rest)

def Unanchored (text : List Char) : Prop :=
  ∀ c ∈ text, isAnchor c = false

private theorem unanchored_cons {c : Char} {text : List Char} :
    Unanchored (c :: text) ↔ isAnchor c = false ∧ Unanchored text := by
  simp [Unanchored]

theorem outline_anchor {c : Char} (anchor : isAnchor c) (rest : List Char) :
    outline (c :: rest) = some c :: outline rest := by
  rw [outline, if_pos anchor]

theorem outline_other {c : Char} (other : isAnchor c = false) (rest : List Char) :
    outline (c :: rest) = stretch (outline rest) := by
  rw [outline, if_neg (by simp [other])]

private theorem stretch_stretch (marks : List (Option Char)) : stretch (stretch marks) = stretch marks := by
  rcases marks with _ | ⟨_ | _, _⟩ <;> rfl

/-- What a stretch holds does not show. -/
theorem outline_append {piece : List Char} (free : Unanchored piece) (some : piece ≠ []) (text : List Char) :
    outline (piece ++ text) = stretch (outline text) := by
  induction piece with
  | nil => contradiction
  | cons c piece ih =>
    obtain ⟨other, later⟩ := unanchored_cons.mp free
    rw [List.cons_append, outline_other other]
    cases piece with
    | nil => rfl
    | cons d piece => rw [ih later (by simp), stretch_stretch]

theorem outline_append_congr (before : List Char) {first second : List Char} (same : outline first = outline second) :
    outline (before ++ first) = outline (before ++ second) := by
  induction before with
  | nil => exact same
  | cons c before ih => rw [List.cons_append, List.cons_append, outline, outline, ih]

/-- A text is empty, begins with an anchor, or begins with a whole stretch of others. -/
theorem outline_cases (text : List Char) :
    text = [] ∨ (∃ c rest, isAnchor c ∧ text = c :: rest) ∨
      ∃ piece rest, piece ≠ [] ∧ Unanchored piece ∧ text = piece ++ rest ∧ outline text = none :: outline rest := by
  induction text with
  | nil => exact .inl rfl
  | cons c text ih =>
    cases anchor : isAnchor c with
    | true => exact .inr (.inl ⟨c, text, anchor, rfl⟩)
    | false =>
      have single : Unanchored [c] := by simp [Unanchored, anchor]
      refine .inr (.inr ?_)
      rw [outline_other anchor]
      rcases ih with rfl | ⟨d, rest, stop, rfl⟩ | ⟨piece, rest, -, free, rfl, shown⟩
      · exact ⟨[c], [], by simp, single, rfl, rfl⟩
      · exact ⟨[c], d :: rest, by simp, single, rfl, by rw [outline_anchor stop]; rfl⟩
      · exact ⟨c :: piece, rest, by simp, unanchored_cons.mpr ⟨anchor, free⟩, rfl, by rw [shown]; rfl⟩

private theorem outline_eq_some {text : List Char} {c : Char} {marks : List (Option Char)}
    (same : outline text = some c :: marks) : ∃ rest, text = c :: rest ∧ outline rest = marks := by
  rcases outline_cases text with rfl | ⟨d, rest, anchor, rfl⟩ | ⟨piece, rest, -, -, -, shown⟩
  · contradiction
  · rw [outline_anchor anchor, List.cons.injEq, Option.some.injEq] at same
    obtain ⟨rfl, tail⟩ := same
    exact ⟨rest, rfl, tail⟩
  · rw [shown] at same
    exact absurd (List.cons.inj same).1 (by simp)

private theorem outline_eq_none {text : List Char} {marks : List (Option Char)} (same : outline text = none :: marks) :
    ∃ piece rest, piece ≠ [] ∧ Unanchored piece ∧ text = piece ++ rest ∧ outline rest = marks := by
  rcases outline_cases text with rfl | ⟨c, rest, anchor, rfl⟩ | ⟨piece, rest, some, free, whole, shown⟩
  · contradiction
  · rw [outline_anchor anchor] at same
    exact absurd (List.cons.inj same).1 (by simp)
  · rw [shown] at same
    exact ⟨piece, rest, some, free, whole, (List.cons.inj same).2⟩

/-- A word of anchors stands at the head of all texts of one outline or of none. -/
theorem prefix_of_outline {word first second : List Char} (held : word.all isAnchor)
    (same : outline first = outline second) (found : word <+: second) : word <+: first := by
  induction word generalizing first second with
  | nil => exact List.nil_prefix
  | cons c word ih =>
    rw [List.all_cons, Bool.and_eq_true] at held
    obtain ⟨later, rfl⟩ := found
    rw [List.cons_append, outline_anchor held.1] at same
    obtain ⟨rest, rfl, tail⟩ := outline_eq_some same
    exact List.cons_prefix_cons.mpr ⟨rfl, ih held.2 tail (List.prefix_append _ _)⟩

private theorem steady_append {behind : Bool} {piece text : List Char} (free : Unanchored piece) :
    Steady behind (piece ++ text) ↔ Steady (behind && piece.isEmpty) text := by
  induction piece generalizing behind with
  | nil => simp
  | cons c piece ih =>
    obtain ⟨other, later⟩ := unanchored_cons.mp free
    have noSlash : c ≠ '\\' := by rintro rfl; contradiction
    have noPercent : c ≠ '%' := by rintro rfl; contradiction
    have noSign : ¬ pipeSign <+: c :: (piece ++ text) := by
      intro sign
      obtain ⟨rfl, -⟩ := List.cons_prefix_cons.mp sign
      contradiction
    have noState : (c == '\\') = false := by simp [noSlash]
    simp [Steady, noSlash, noPercent, noSign, noState, ih later]

theorem Steady.of_outline {behind : Bool} {first second : List Char} (same : outline first = outline second)
    (steady : Steady behind first) : Steady behind second := by
  rcases outline_cases second with rfl | ⟨c, later, anchor, rfl⟩ | ⟨other, later, some, free, rfl, shown⟩
  · trivial
  · have head := same
    rw [outline_anchor anchor] at head
    obtain ⟨rest, rfl, tail⟩ := outline_eq_some head
    refine ⟨steady.1, steady.2.1, fun sign => steady.2.2.1 ?_, steady.2.2.2.of_outline tail⟩
    exact prefix_of_outline (by decide) same sign
  · rw [shown] at same
    obtain ⟨piece, rest, full, unanchored, rfl, tail⟩ := outline_eq_none same
    rw [steady_append unanchored, List.isEmpty_eq_false_iff.mpr full] at steady
    rw [steady_append free, List.isEmpty_eq_false_iff.mpr some]
    exact steady.of_outline tail
termination_by first.length
decreasing_by
  all_goals subst_vars
  · simp
  · have := List.length_pos_iff.mpr full
    simp only [List.length_append]
    omega

end Vitae.Markup
