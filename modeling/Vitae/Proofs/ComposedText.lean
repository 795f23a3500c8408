import Vitae.Proofs.Outline
import Vitae.Text.Composition

/-! Composing Unicode text keeps its outline. No character that a normal form is told by decomposes, composes
or is a mark, so each step works inside one stretch of other characters and leaves something of it. -/

namespace Vitae.Markup

open Text Text.Composition

/-- The outline of a text given by the codes of its characters. -/
def codeOutline (codes : List Nat) : List (Option Char) :=
  outline (codes.map Char.ofNat)

def UnanchoredCodes (codes : List Nat) : Prop :=
  ∀ code ∈ codes, isAnchor (Char.ofNat code) = false

private theorem codeOutline_append_congr (before : List Nat) {first second : List Nat}
    (same : codeOutline first = codeOutline second) : codeOutline (before ++ first) = codeOutline (before ++ second) := by
  rw [codeOutline, codeOutline, List.map_append, List.map_append]
  exact outline_append_congr _ same

private theorem codeOutline_append {piece : List Nat} (free : UnanchoredCodes piece) (some : piece ≠ [])
    (rest : List Nat) :
    codeOutline (piece ++ rest) = stretch (codeOutline rest) := by
  have unanchored : Unanchored (piece.map Char.ofNat) := by
    intro c member
    obtain ⟨code, place, rfl⟩ := List.mem_map.mp member
    exact free code place
  rw [codeOutline, List.map_append, outline_append unanchored (by simpa using some)]
  rfl

section codes

theorem mem_of_lookup {α β : Type} [BEq α] [LawfulBEq α] {key : α} {value : β} {rows : List (α × β)}
    (found : rows.lookup key = some value) : (key, value) ∈ rows := by
  obtain ⟨before, after, rfl, -⟩ := List.lookup_eq_some_iff.mp found
  simp

private theorem toNat_of_isAnchor {c : Char} (anchor : isAnchor c) :
    c.toNat < 0x30 ∨ c.toNat = 0x5C ∨ c.toNat = 0x7C := by
  have all : anchors.all fun c => c.toNat < 0x30 ∨ c.toNat = 0x5C ∨ c.toNat = 0x7C := by decide
  exact of_decide_eq_true (List.all_eq_true.mp all c (by simpa [isAnchor] using anchor))

/-- The code of an anchor fails one of these comparisons. -/
abbrev OtherCode (code : Nat) : Prop :=
  0x30 ≤ code ∧ code ≠ 0x5C ∧ code ≠ 0x7C

private theorem isAnchor_code {code : Nat} (other : OtherCode code) :
    isAnchor (Char.ofNat code) = false := by
  refine Bool.eq_false_iff.mpr fun anchor => ?_
  have shown : (Char.ofNat code).toNat = code ∨ Char.ofNat code = '\x00' := by
    by_cases valid : code.isValidChar
    · exact .inl (by rw [Char.ofNat, dif_pos valid]; rfl)
    · exact .inr (by rw [Char.ofNat, dif_neg valid]; rfl)
  rcases shown with same | zero
  · have codes := toNat_of_isAnchor anchor
    omega
  · rw [zero] at anchor
    contradiction

private theorem isAnchor_high {code : Nat} (high : 0x80 ≤ code) : isAnchor (Char.ofNat code) = false :=
  isAnchor_code (by omega)

private theorem isAnchor_of_mem_composites {row : Nat × Nat × Nat} (listed : row ∈ CanonicalTable.composites) :
    isAnchor (Char.ofNat row.1) = false ∧ isAnchor (Char.ofNat row.2.1) = false ∧
      isAnchor (Char.ofNat row.2.2) = false := by
  have all : CanonicalTable.composites.all fun row =>
      OtherCode row.1 ∧ OtherCode row.2.1 ∧ OtherCode row.2.2 := by
    decide +kernel
  have codes := of_decide_eq_true (List.all_eq_true.mp all row listed)
  exact ⟨isAnchor_code codes.1, isAnchor_code codes.2.1, isAnchor_code codes.2.2⟩

private theorem unanchoredCodes_of_mem_expansions {row : Nat × List Nat} (listed : row ∈ CanonicalTable.expansions) :
    UnanchoredCodes row.2 ∧ row.2 ≠ [] := by
  have all : CanonicalTable.expansions.all fun row => (∀ code ∈ row.2, OtherCode code) ∧ row.2 ≠ [] := by
    decide +kernel
  have codes := of_decide_eq_true (List.all_eq_true.mp all row listed)
  exact ⟨fun code member => isAnchor_code (codes.1 code member), codes.2⟩

private theorem isAnchor_of_mem_singletons {row : Nat × Nat} (listed : row ∈ CanonicalTable.singletons) :
    isAnchor (Char.ofNat row.2) = false := by
  have all : CanonicalTable.singletons.all fun row => OtherCode row.2 := by
    decide +kernel
  exact isAnchor_code (of_decide_eq_true (List.all_eq_true.mp all row listed))

theorem high_of_mark {code : Nat} (mark : 0 < combiningClass code) : 0xC0 ≤ code := by
  have all : CanonicalTable.classes.all fun row => 0xC0 ≤ row.1 := by decide +kernel
  unfold combiningClass at mark
  cases found : CanonicalTable.classes.find? fun row => row.1 ≤ code && code ≤ row.2.1 with
  | none => simp [found] at mark
  | some row =>
    have high := List.all_eq_true.mp all row (List.mem_of_find?_eq_some found)
    have within := List.find?_some found
    simp only [decide_eq_true_eq, Bool.and_eq_true] at high within
    omega

private theorem isAnchor_mark {code : Nat} (mark : 0 < combiningClass code) : isAnchor (Char.ofNat code) = false := by
  have high := high_of_mark mark
  exact isAnchor_high (by omega)

private theorem isAnchor_composite? {first second composite : Nat} (found : composite? first second = some composite) :
    isAnchor (Char.ofNat first) = false ∧ isAnchor (Char.ofNat second) = false ∧
      isAnchor (Char.ofNat composite) = false := by
  unfold composite? at found
  split at found
  next jamo =>
    obtain rfl := Option.some.inj found
    exact ⟨isAnchor_high (by omega), isAnchor_high (by omega), isAnchor_high (by omega)⟩
  next =>
    split at found
    next syllable =>
      obtain rfl := Option.some.inj found
      exact ⟨isAnchor_high (by omega), isAnchor_high (by omega), isAnchor_high (by omega)⟩
    next =>
      obtain ⟨row, listed, rfl⟩ := Option.map_eq_some_iff.mp found
      have same := List.find?_some listed
      simp only [Bool.and_eq_true, beq_iff_eq] at same
      obtain ⟨rfl, rfl⟩ := same
      exact isAnchor_of_mem_composites (List.mem_of_find?_eq_some listed)

end codes

section decomposition

theorem decomposed_syllable_eq {steps code : Nat} (syllable : 0xAC00 ≤ code ∧ code < 0xAC00 + 11172) :
    decomposed (steps + 1) code =
      if (code - 0xAC00) % 28 = 0 then
        [0x1100 + (code - 0xAC00) / 588, 0x1161 + (code - 0xAC00) % 588 / 28]
      else
        [0x1100 + (code - 0xAC00) / 588, 0x1161 + (code - 0xAC00) % 588 / 28, 0x11A7 + (code - 0xAC00) % 28] := by
  rw [decomposed, if_neg (by omega), if_pos syllable]
  rfl

private theorem decomposed_syllable {steps code : Nat} (syllable : 0xAC00 ≤ code ∧ code < 0xAC00 + 11172) :
    UnanchoredCodes (decomposed (steps + 1) code) ∧ decomposed (steps + 1) code ≠ [] := by
  rw [decomposed_syllable_eq syllable]
  split
  all_goals
    refine ⟨fun part member => isAnchor_high ?_, by simp⟩
    simp only [List.mem_cons, List.not_mem_nil, or_false] at member
    omega

/-- A character that is no anchor is taken apart into such characters. -/
theorem decomposed_spec (steps : Nat) {code : Nat} (free : isAnchor (Char.ofNat code) = false) :
    UnanchoredCodes (decomposed steps code) ∧ decomposed steps code ≠ [] := by
  have single {other : Nat} (free : isAnchor (Char.ofNat other) = false) :
      UnanchoredCodes [other] ∧ [other] ≠ [] := by simpa [UnanchoredCodes] using free
  induction steps generalizing code with
  | zero => exact single free
  | succ steps ih =>
    by_cases syllable : 0xAC00 ≤ code ∧ code < 0xAC00 + 11172
    · exact decomposed_syllable syllable
    · rw [decomposed, if_neg syllable]
      split
      next => exact single free
      next =>
        split
        next first second composite found =>
          obtain ⟨before, mark, -⟩ := isAnchor_of_mem_composites (List.mem_of_find?_eq_some found)
          refine ⟨fun other member => ?_, by simp⟩
          rcases List.mem_append.mp member with inner | last
          · exact (ih before).1 other inner
          · rwa [List.mem_singleton.mp last]
        next =>
          split
          next parts found => exact unanchoredCodes_of_mem_expansions (mem_of_lookup found)
          next =>
            cases found : CanonicalTable.singletons.lookup code with
            | none => exact single free
            | some other => exact single (isAnchor_of_mem_singletons (mem_of_lookup found))

private theorem codeOutline_decomposed (text : List Char) :
    codeOutline (text.flatMap fun c => decomposed 3 c.toNat) = outline text := by
  induction text with
  | nil => rfl
  | cons c text ih =>
    rw [List.flatMap_cons]
    cases anchor : isAnchor c with
    | true =>
      have small := toNat_of_isAnchor anchor
      have whole : decomposed 3 c.toNat = [c.toNat] := by rw [decomposed, if_pos (by omega)]
      rw [whole, outline_anchor anchor, ← ih]
      simp only [codeOutline, List.cons_append, List.nil_append, List.map_cons, Char.ofNat_toNat]
      rw [outline_anchor anchor]
    | false =>
      have other : isAnchor (Char.ofNat c.toNat) = false := by rwa [Char.ofNat_toNat]
      obtain ⟨free, some⟩ := decomposed_spec 3 other
      rw [codeOutline_append free some, outline_other anchor, ih]

end decomposition

section order

/-- Only marks change places. -/
theorem codeOutline_settle (code : Nat) (codes : List Nat) :
    codeOutline (settle code codes) = codeOutline (code :: codes) := by
  induction codes with
  | nil => rfl
  | cons next rest ih =>
    rw [settle]
    split
    next marks =>
      have first : isAnchor (Char.ofNat next) = false := isAnchor_mark marks.1
      have second : isAnchor (Char.ofNat code) = false := isAnchor_mark (by omega)
      have swapped : codeOutline ([next, code] ++ rest) = codeOutline ([code, next] ++ rest) := by
        rw [codeOutline_append (by simp [UnanchoredCodes, first, second]) (by simp),
          codeOutline_append (by simp [UnanchoredCodes, first, second]) (by simp)]
      exact (codeOutline_append_congr [next] ih).trans swapped
    next => rfl

private theorem codeOutline_foldr_settle (codes : List Nat) :
    codeOutline (codes.foldr settle []) = codeOutline codes := by
  induction codes with
  | nil => rfl
  | cons code codes ih =>
    rw [List.foldr_cons, codeOutline_settle]
    exact codeOutline_append_congr [code] ih

end order

section absorption

/-- What stands between a starter and a character that composes with it belongs to their stretch. -/
theorem codeOutline_absorb {starter : Nat} {kept rest : List Nat} (marks : UnanchoredCodes kept) :
    codeOutline (absorb starter kept rest) = codeOutline (starter :: kept.reverse ++ rest) := by
  fun_induction absorb starter kept rest with
  | case1 starter kept => rw [List.append_nil]
  | case2 starter kept code rest reaches composite found ih =>
    have composes : composite? starter code = some composite := by
      split at found
      next => exact found
      next => contradiction
    obtain ⟨first, second, whole⟩ := isAnchor_composite? composes
    have between : UnanchoredCodes kept.reverse := fun other member => marks other (List.mem_reverse.mp member)
    have together : UnanchoredCodes (starter :: (kept.reverse ++ [code])) := by
      simpa [UnanchoredCodes, or_imp, forall_and, first, second] using marks
    have composed : UnanchoredCodes (composite :: kept.reverse) := by
      simpa [UnanchoredCodes, whole] using marks
    have split : starter :: kept.reverse ++ code :: rest = starter :: (kept.reverse ++ [code]) ++ rest := by simp
    rw [ih marks, codeOutline_append composed (by simp), split, codeOutline_append together (by simp)]
  | case3 starter kept code rest reaches none zero ih =>
    exact codeOutline_append_congr (starter :: kept.reverse) (ih (by simp [UnanchoredCodes]))
  | case4 starter kept code rest reaches none mark ih =>
    have longer : UnanchoredCodes (code :: kept) := by
      intro other member
      rcases List.mem_cons.mp member with rfl | member
      · exact isAnchor_mark (Nat.pos_of_ne_zero mark)
      · exact marks other member
    rw [ih longer]
    simp

private theorem codeOutline_composed (codes : List Nat) : codeOutline (composed codes) = codeOutline codes := by
  induction codes with
  | nil => rfl
  | cons code rest ih =>
    rw [composed]
    split
    next => exact codeOutline_absorb (by simp [UnanchoredCodes])
    next => exact codeOutline_append_congr [code] ih

end absorption

theorem outline_compose (text : List Char) : outline (Text.compose text) = outline text := by
  unfold Text.compose
  split
  next => rfl
  next =>
    have kept := codeOutline_composed ((text.flatMap fun c => decomposed 3 c.toNat).foldr settle [])
    rwa [codeOutline_foldr_settle, codeOutline_decomposed] at kept

end Vitae.Markup
