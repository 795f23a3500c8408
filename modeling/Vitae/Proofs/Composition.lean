import Vitae.Proofs.Outline

/-! What markup relies on of a composition of Unicode text. The characters that markup is read by cut a
text into plain pieces, and each piece is composed on its own. So a composition keeps the outline of a
text, and the tails of a composed text are composed. -/

namespace Vitae.Markup

/-- Holds for the characters that markup is read by. -/
def isMarkup (c : Char) : Bool :=
  ['\\', '%', '$', '|', '{', '}', '[', ']', ' ', '\t', '\n'].contains c

def Plain (text : List Char) : Prop :=
  ∀ c ∈ text, isMarkup c = false

/-- What is relied on of a composition of Unicode text. Composing again changes nothing. The characters
that markup is read by are neither made nor removed nor moved: what stands between them is composed piece
by piece, and no piece disappears. -/
structure Composition (compose : List Char → List Char) : Prop where
  idempotent : ∀ text, compose (compose text) = compose text
  eq_nil_iff : ∀ text, compose text = [] ↔ text = []
  plain : ∀ text, Plain text → Plain (compose text)
  split : ∀ before c after, isMarkup c → compose (before ++ c :: after) = compose before ++ c :: compose after

private theorem plain_cons {c : Char} {text : List Char} :
    Plain (c :: text) ↔ isMarkup c = false ∧ Plain text := by
  simp [Plain]

/-- A text is plain or a plain piece, a character that markup is read by, and a text again. -/
theorem pieces_induction {kept : List Char → Prop} (plain : ∀ text, Plain text → kept text)
    (cut : ∀ piece c rest, Plain piece → isMarkup c → kept rest → kept (piece ++ c :: rest)) (text : List Char) :
    kept text := by
  suffices general : ∀ text piece, Plain piece → kept text ∧ kept (piece ++ text) by
    exact (general text [] (by simp [Plain])).1
  intro text
  induction text with
  | nil => exact fun piece free => ⟨plain [] (by simp [Plain]), plain _ (by simpa using free)⟩
  | cons c rest ih =>
    intro piece free
    cases markup : isMarkup c with
    | true =>
      have later := (ih [] (by simp [Plain])).1
      exact ⟨cut [] c rest (by simp [Plain]) markup later, cut piece c rest free markup later⟩
    | false =>
      have single : Plain [c] := by simp [Plain, markup]
      have longer : Plain (piece ++ [c]) := by
        intro d member
        rcases List.mem_append.mp member with first | last
        · exact free d first
        · exact single d last
      refine ⟨(ih [c] single).2, ?_⟩
      simpa using (ih (piece ++ [c]) longer).2

/-- Plain pieces before the first character that markup is read by are the same piece. -/
theorem Plain.append_inj {first second rest later : List Char} {c : Char} (free : Plain first)
    (other : Plain second) (markup : isMarkup c) (same : first ++ c :: rest = second ++ c :: later) :
    first = second ∧ rest = later := by
  induction first generalizing second with
  | nil =>
    cases second with
    | nil => simpa using same
    | cons d second =>
      obtain ⟨rfl, -⟩ := List.cons.inj same
      exact absurd (other c (by simp)) (by simp [markup])
  | cons d first ih =>
    cases second with
    | nil =>
      obtain ⟨rfl, -⟩ := List.cons.inj same
      exact absurd (free d (by simp)) (by simp [markup])
    | cons e second =>
      obtain ⟨rfl, tail⟩ := List.cons.inj same
      obtain ⟨rfl, rest⟩ := ih (plain_cons.mp free).2 (plain_cons.mp other).2 tail
      exact ⟨rfl, rest⟩

theorem Plain.unanchored {text : List Char} (free : Plain text) : Unanchored text := by
  have all : anchors.all isMarkup := by decide
  intro c member
  rw [isAnchor, List.contains_eq_mem, decide_eq_false_iff_not]
  intro anchor
  exact absurd (List.all_eq_true.mp all c anchor) (by simp [free c member])

section composition

variable {compose : List Char → List Char} (lawful : Composition compose)
include lawful

private theorem Composition.nil : compose [] = [] :=
  (lawful.eq_nil_iff []).mpr rfl

theorem Composition.cons {c : Char} (markup : isMarkup c) (rest : List Char) :
    compose (c :: rest) = c :: compose rest := by
  simpa [lawful.nil] using lawful.split [] c rest markup

private theorem Composition.outline_piece {piece text : List Char} (free : Plain piece) :
    outline (compose piece ++ text) = outline (piece ++ text) := by
  by_cases none : piece = []
  · rw [none, lawful.nil]
  · have some : compose piece ≠ [] := fun same => none ((lawful.eq_nil_iff piece).mp same)
    rw [outline_append free.unanchored none, outline_append (lawful.plain piece free).unanchored some]

/-- A composition keeps the outline of every text. -/
theorem Composition.outline_eq (text : List Char) : outline (compose text) = outline text := by
  induction text using pieces_induction with
  | plain text free =>
    have alone : outline (compose text ++ []) = outline (text ++ []) := lawful.outline_piece free
    simpa using alone
  | cut piece c rest free markup ih =>
    rw [lawful.split piece c rest markup, lawful.outline_piece free]
    exact outline_append_congr piece (outline_append_congr [c] ih)

theorem Composition.count_eq (text : List Char) : (compose text).count '\\' = text.count '\\' := by
  have none (piece : List Char) (free : Plain piece) : piece.count '\\' = 0 := by
    apply List.count_eq_zero.mpr
    intro member
    exact absurd (free '\\' member) (by decide)
  induction text using pieces_induction with
  | plain text free => rw [none text free, none _ (lawful.plain text free)]
  | cut piece c rest free markup ih =>
    rw [lawful.split piece c rest markup]
    simp only [List.count_append, List.count_cons, ih, none piece free, none _ (lawful.plain piece free)]

/-- The pieces of a composed text are composed. -/
theorem Composition.split_fixed {piece rest : List Char} {c : Char} (free : Plain piece) (markup : isMarkup c)
    (fixed : compose (piece ++ c :: rest) = piece ++ c :: rest) : compose piece = piece ∧ compose rest = rest := by
  rw [lawful.split piece c rest markup] at fixed
  exact (lawful.plain piece free).append_inj free markup fixed

theorem Composition.behind_fixed {before rest : List Char} {c : Char} (markup : isMarkup c)
    (fixed : compose (before ++ c :: rest) = before ++ c :: rest) : compose rest = rest := by
  induction before using pieces_induction with
  | plain before free => exact (lawful.split_fixed free markup fixed).2
  | cut piece d later free other ih =>
    rw [List.append_assoc, List.cons_append] at fixed
    exact ih (lawful.split_fixed free other fixed).2

end composition

end Vitae.Markup
