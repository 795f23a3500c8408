import Vitae.Proofs.ComposedText

/-! Composing Unicode text neither makes nor removes a character that has no canonical mappings. Such a character is
taken apart into itself, marks only change places, and it takes part in no composition, so it occurs as often in the
composed text as before. The private characters that stand for line breaks are of this kind. -/

namespace Vitae.Markup

open Text Text.Composition

/-- No table of canonical mappings and no Hangul rule knows the code. -/
structure Apart (code : Nat) : Prop where
  composites : ∀ row ∈ CanonicalTable.composites, row.1 ≠ code ∧ row.2.1 ≠ code ∧ row.2.2 ≠ code
  expansions : ∀ row ∈ CanonicalTable.expansions, row.1 ≠ code ∧ code ∉ row.2
  singletons : ∀ row ∈ CanonicalTable.singletons, row.1 ≠ code ∧ row.2 ≠ code
  letters : code < 0x1100 ∨ 0x11C3 ≤ code
  syllables : code < 0xAC00 ∨ 0xAC00 + 11172 ≤ code

variable {code : Nat}

section decomposition

/-- What has no mapping stays in one piece. -/
theorem Apart.decomposed_self (apart : Apart code) (steps : Nat) : decomposed steps code = [code] := by
  cases steps with
  | zero => rfl
  | succ steps =>
    have noSyllable : ¬ (0xAC00 ≤ code ∧ code < 0xAC00 + 11172) := by
      have range := apart.syllables
      omega
    have noComposite : CanonicalTable.composites.find? (·.2.2 == code) = none := by
      rw [List.find?_eq_none]
      intro row listed same
      exact (apart.composites row listed).2.2 (by simpa using same)
    have noExpansion : CanonicalTable.expansions.lookup code = none := by
      cases found : CanonicalTable.expansions.lookup code with
      | none => rfl
      | some parts => exact absurd rfl (apart.expansions _ (mem_of_lookup found)).1
    have noSingleton : CanonicalTable.singletons.lookup code = none := by
      cases found : CanonicalTable.singletons.lookup code with
      | none => rfl
      | some other => exact absurd rfl (apart.singletons _ (mem_of_lookup found)).1
    rw [decomposed, if_neg noSyllable, noComposite, noExpansion, noSingleton]
    simp

private theorem Apart.not_mem_decomposed_syllable (apart : Apart code) {steps other : Nat}
    (syllable : 0xAC00 ≤ other ∧ other < 0xAC00 + 11172) : code ∉ decomposed (steps + 1) other := by
  have range := apart.letters
  rw [decomposed_syllable_eq syllable]
  split
  all_goals
    simp only [List.mem_cons, List.not_mem_nil, or_false]
    omega

private theorem Apart.not_mem_decomposed (apart : Apart code) (steps : Nat) {other : Nat} (different : other ≠ code) :
    code ∉ decomposed steps other := by
  induction steps generalizing other with
  | zero => simpa [decomposed] using different.symm
  | succ steps ih =>
    by_cases syllable : 0xAC00 ≤ other ∧ other < 0xAC00 + 11172
    · exact apart.not_mem_decomposed_syllable syllable
    · rw [decomposed, if_neg syllable]
      split
      next => simpa using different.symm
      next =>
        split
        next first second composite found =>
          obtain ⟨before, mark, -⟩ := apart.composites _ (List.mem_of_find?_eq_some found)
          simp only [List.mem_append, List.mem_singleton, not_or]
          exact ⟨ih before, fun same => mark same.symm⟩
        next =>
          split
          next parts found => exact (apart.expansions _ (mem_of_lookup found)).2
          next =>
            cases found : CanonicalTable.singletons.lookup other with
            | none => simpa using different.symm
            | some single =>
              have listed := (apart.singletons _ (mem_of_lookup found)).2
              simpa using fun same => listed same.symm

private theorem Apart.count_decomposed (apart : Apart code) (text : List Char) :
    (text.flatMap fun c => decomposed 3 c.toNat).count code = (text.map Char.toNat).count code := by
  induction text with
  | nil => rfl
  | cons c text ih =>
    rw [List.flatMap_cons, List.map_cons, List.count_append, ih]
    by_cases same : c.toNat = code
    · rw [same, apart.decomposed_self, List.count_cons_self, List.count_cons_self, List.count_nil, Nat.zero_add,
        Nat.add_comm]
    · rw [List.count_eq_zero_of_not_mem (apart.not_mem_decomposed 3 same), List.count_cons_of_ne same, Nat.zero_add]

end decomposition

section order

private theorem settle_perm (first : Nat) (codes : List Nat) : (settle first codes).Perm (first :: codes) := by
  induction codes with
  | nil => exact .refl _
  | cons next rest ih =>
    rw [settle]
    split
    next => exact (ih.cons next).trans (.swap first next rest)
    next => exact .refl _

private theorem foldr_settle_perm (codes : List Nat) : (codes.foldr settle []).Perm codes := by
  induction codes with
  | nil => exact .refl _
  | cons first codes ih => exact (settle_perm first _).trans (ih.cons first)

end order

section absorption

private theorem Apart.ne_of_composite? (apart : Apart code) {first second composite : Nat}
    (found : composite? first second = some composite) : first ≠ code ∧ second ≠ code ∧ composite ≠ code := by
  have letters := apart.letters
  have syllables := apart.syllables
  unfold composite? at found
  split at found
  next jamo =>
    obtain rfl := Option.some.inj found
    omega
  next =>
    split at found
    next syllable =>
      obtain rfl := Option.some.inj found
      omega
    next =>
      obtain ⟨row, listed, rfl⟩ := Option.map_eq_some_iff.mp found
      have same := List.find?_some listed
      simp only [Bool.and_eq_true, beq_iff_eq] at same
      obtain ⟨rfl, rfl⟩ := same
      exact apart.composites row (List.mem_of_find?_eq_some listed)

private theorem Apart.count_absorb (apart : Apart code) (starter : Nat) (kept rest : List Nat) :
    (absorb starter kept rest).count code = (starter :: kept.reverse ++ rest).count code := by
  fun_induction absorb starter kept rest with
  | case1 starter kept => rw [List.append_nil]
  | case2 starter kept next rest reaches composite found ih =>
    have composes : composite? starter next = some composite := by
      split at found
      next => exact found
      next => contradiction
    obtain ⟨first, second, whole⟩ := apart.ne_of_composite? composes
    rw [ih, List.cons_append, List.cons_append, List.count_cons_of_ne whole, List.count_cons_of_ne first,
      List.count_append, List.count_append, List.count_cons_of_ne second]
  | case3 starter kept next rest reaches none zero ih =>
    rw [List.count_append, ih, List.reverse_nil, List.cons_append, List.nil_append, List.count_append]
  | case4 starter kept next rest reaches none mark ih =>
    rw [ih]
    simp

private theorem Apart.count_composed (apart : Apart code) (codes : List Nat) :
    (composed codes).count code = codes.count code := by
  induction codes with
  | nil => rfl
  | cons first rest ih =>
    rw [composed]
    split
    next => exact apart.count_absorb first [] rest
    next => rw [List.count_cons, List.count_cons, ih]

end absorption

theorem ofNat_eq_iff {mark : Char} (other : mark ≠ '\x00') (code : Nat) : Char.ofNat code = mark ↔ code = mark.toNat := by
  constructor
  · intro same
    by_cases valid : code.isValidChar
    · rw [← same, Char.ofNat, dif_pos valid]
      rfl
    · rw [Char.ofNat, dif_neg valid] at same
      exact absurd same.symm other
  · rintro rfl
    exact Char.ofNat_toNat mark

private theorem count_map_ofNat {mark : Char} (other : mark ≠ '\x00') (codes : List Nat) :
    (codes.map Char.ofNat).count mark = codes.count mark.toNat := by
  simp only [List.count, List.countP_map]
  refine List.countP_congr fun code _ => ?_
  simp [ofNat_eq_iff other]

theorem Apart.count_compose {mark : Char} (apart : Apart mark.toNat) (other : mark ≠ '\x00') (text : List Char) :
    (Text.compose text).count mark = text.count mark := by
  unfold Text.compose
  split
  next => rfl
  next =>
    have codes : (text.map Char.toNat).count mark.toNat = text.count mark := by
      rw [← count_map_ofNat other, List.map_map]
      simp [Function.comp_def, Char.ofNat_toNat]
    rw [count_map_ofNat other, apart.count_composed, (foldr_settle_perm _).count_eq, apart.count_decomposed, codes]

section still

/-- A code that stays where it is: nothing is composed of it, it is in one piece, and it is no mark. -/
structure Still (code : Nat) : Prop where
  single : code < 0xC0 ∨ Apart code
  noMark : combiningClass code = 0

theorem still_low (low : code < 0xC0) : Still code := by
  refine ⟨.inl low, Nat.eq_zero_of_not_pos fun mark => ?_⟩
  have high := high_of_mark mark
  omega

theorem Still.decomposed_self (still : Still code) (steps : Nat) : decomposed steps code = [code] := by
  rcases still.single with low | apart
  · cases steps with
    | zero => rfl
    | succ steps => rw [decomposed, if_pos low]
  · exact apart.decomposed_self steps

private theorem high_of_composite? {first second composite : Nat} (found : composite? first second = some composite) :
    0xC0 ≤ second := by
  have all : CanonicalTable.composites.all fun row => 0xC0 ≤ row.2.1 := by decide +kernel
  unfold composite? at found
  split at found
  next jamo => omega
  next =>
    split at found
    next syllable => omega
    next =>
      obtain ⟨row, listed, -⟩ := Option.map_eq_some_iff.mp found
      have high := List.all_eq_true.mp all row (List.mem_of_find?_eq_some listed)
      have same := List.find?_some listed
      simp only [decide_eq_true_eq, Bool.and_eq_true, beq_iff_eq] at high same
      omega

private theorem Still.composite?_eq_none (still : Still code) (first : Nat) : composite? first code = none := by
  cases found : composite? first code with
  | none => rfl
  | some composite =>
    rcases still.single with low | apart
    · have high := high_of_composite? found
      omega
    · exact absurd rfl (apart.ne_of_composite? found).2.1

variable {codes : List Nat}

private theorem foldr_settle_eq_self (still : ∀ code ∈ codes, Still code) : codes.foldr settle [] = codes := by
  induction codes with
  | nil => rfl
  | cons first codes ih =>
    obtain ⟨here, later⟩ := List.forall_mem_cons.mp still
    rw [List.foldr_cons, ih later]
    cases codes with
    | nil => rfl
    | cons next rest =>
      rw [settle, here.noMark, if_neg]
      exact fun lower => absurd lower.2 (Nat.not_lt_zero _)

private theorem absorb_eq_self (still : ∀ code ∈ codes, Still code) (starter : Nat) :
    absorb starter [] codes = starter :: codes := by
  induction codes generalizing starter with
  | nil => rfl
  | cons next rest ih =>
    obtain ⟨here, later⟩ := List.forall_mem_cons.mp still
    rw [absorb]
    simp only [if_true, here.composite?_eq_none, here.noMark, ih later]
    rfl

private theorem composed_eq_self (still : ∀ code ∈ codes, Still code) : composed codes = codes := by
  cases codes with
  | nil => rfl
  | cons first rest =>
    obtain ⟨here, later⟩ := List.forall_mem_cons.mp still
    rw [composed, if_pos here.noMark, absorb_eq_self later]

/-- Text of nothing else is composed already. -/
theorem compose_eq_self {text : List Char} (still : ∀ c ∈ text, Still c.toNat) : Text.compose text = text := by
  unfold Text.compose
  split
  next => rfl
  next =>
    have codes : (text.flatMap fun c => decomposed 3 c.toNat) = text.map Char.toNat := by
      rw [List.map_eq_flatMap, List.flatMap_def, List.flatMap_def,
        List.map_congr_left fun c member => (still c member).decomposed_self 3]
    have each : ∀ code ∈ text.map Char.toNat, Still code := by
      intro code member
      obtain ⟨c, place, rfl⟩ := List.mem_map.mp member
      exact still c place
    change (composed ((text.flatMap fun c => decomposed 3 c.toNat).foldr settle [])).map Char.ofNat = text
    rw [codes, foldr_settle_eq_self each, composed_eq_self each, List.map_map]
    simp [Function.comp_def, Char.ofNat_toNat]

end still

theorem apart_lineBreakMark : Apart lineBreakMark.toNat where
  composites := by decide +kernel
  expansions := by decide +kernel
  singletons := by decide +kernel
  letters := by decide
  syllables := by decide

theorem still_lineBreakMark : Still lineBreakMark.toNat :=
  ⟨.inr apart_lineBreakMark, by decide +kernel⟩

end Vitae.Markup
