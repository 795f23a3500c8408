import Vitae.Proofs.ComposedMarks
import Vitae.Transpile.Elaborate

/-! Marks in text. Normal markup holds two private characters that no reader should see. What is done to a text on its
way to content, cutting, joining, trimming and changing its case, puts no mark where none was, and a warning shows one
just where it quotes one. -/

namespace Vitae

namespace Markup

def isMark (c : Char) : Bool :=
  c == lineBreakMark || c == separatorMark

/-- The text holds a mark. -/
def Marked (text : List Char) : Prop :=
  ∃ c ∈ text, isMark c = true

private theorem any_isMark {text : List Char} : text.any isMark = true ↔ Marked text :=
  List.any_eq_true

instance (text : List Char) : Decidable (Marked text) :=
  decidable_of_iff (text.any isMark = true) any_isMark

@[simp] theorem not_marked_nil : ¬ Marked [] := by
  simp [Marked]

@[simp] theorem marked_cons {c : Char} {text : List Char} : Marked (c :: text) ↔ isMark c = true ∨ Marked text := by
  simp [Marked]

@[simp] theorem marked_append {first second : List Char} : Marked (first ++ second) ↔ Marked first ∨ Marked second := by
  simp [Marked, or_and_right, exists_or]

theorem marked_flatMap {α : Type} {items : List α} {own : α → List Char} :
    Marked (items.flatMap own) ↔ ∃ item ∈ items, Marked (own item) := by
  induction items with
  | nil => simp
  | cons item items ih => simp [ih]

theorem Marked.mono {first second : List Char} (subset : first ⊆ second) (marked : Marked first) : Marked second := by
  obtain ⟨c, member, mark⟩ := marked
  exact ⟨c, subset member, mark⟩

/-- Texts put one behind the other are made of the texts and of what stands between them. -/
theorem Marked.of_intercalate {between : List Char} {texts : List (List Char)}
    (marked : Marked (between.intercalate texts)) : Marked between ∨ ∃ text ∈ texts, Marked text := by
  induction texts with
  | nil => exact absurd marked (by simp)
  | cons text texts ih =>
    cases texts with
    | nil => exact .inr ⟨text, by simp, by simpa using marked⟩
    | cons second texts =>
      simp only [List.intercalate_cons_cons, marked_append] at marked
      rcases marked with (first | separator) | later
      · exact .inr ⟨text, by simp, first⟩
      · exact .inl separator
      · rcases ih later with separator | ⟨other, member, marked⟩
        · exact .inl separator
        · exact .inr ⟨other, List.mem_cons_of_mem _ member, marked⟩

end Markup

open Markup

section operations

theorem Text.dropTrailing_subset (drops : Char → Bool) (text : List Char) : Text.dropTrailing drops text ⊆ text := by
  intro c member
  rw [Text.dropTrailing, List.mem_reverse] at member
  exact List.mem_reverse.mp ((List.dropWhile_sublist drops).subset member)

private theorem Text.trim_subset (text : List Char) : Text.trim text ⊆ text :=
  List.Subset.trans (Text.dropTrailing_subset Text.isSpace _) (List.dropWhile_sublist Text.isSpace).subset

theorem Markup.Marked.of_trimmed {text : String} (marked : Marked text.trimmed.toList) : Marked text.toList := by
  rw [String.toList_trimmed] at marked
  exact marked.mono (Text.trim_subset text.toList)

theorem Markup.marked_join {texts : List String} :
    Marked (String.join texts).toList ↔ ∃ text ∈ texts, Marked text.toList := by
  induction texts with
  | nil => simp [String.join]
  | cons text texts ih =>
    rw [String.join_cons, String.toList_append, marked_append, ih]
    simp only [List.mem_cons, exists_eq_or_imp]

/-- What stands between texts without marks has all the marks. -/
theorem Markup.marked_between {before text after : String} (first : ¬ Marked before.toList) (last : ¬ Marked after.toList) :
    Marked (before ++ text ++ after).toList ↔ Marked text.toList := by
  rw [String.toList_append, String.toList_append, marked_append, marked_append]
  simp only [first, last, false_or, or_false]

theorem Markup.Marked.of_joined {between : String} {texts : List String}
    (marked : Marked (between.intercalate texts).toList) : Marked between.toList ∨ ∃ text ∈ texts, Marked text.toList := by
  rw [String.toList_intercalate] at marked
  refine marked.of_intercalate.imp_right fun ⟨text, member, marked⟩ => ?_
  obtain ⟨whole, place, rfl⟩ := List.mem_map.mp member
  exact ⟨whole, place, marked⟩

end operations

section casing

open Text

/-- No image of the tables of upper case is a mark. -/
theorem not_isMark_upperRuns :
    ∀ run ∈ CaseTable.upperRuns, run.image + (run.last - run.first) < 0xE000 ∨ 0xE001 < run.image := by
  decide +kernel

private theorem not_isMark_upperStrings :
    ∀ row ∈ CaseTable.upperStrings, ∀ code ∈ row.2, code < 0xE000 ∨ 0xE001 < code := by
  decide +kernel

private theorem not_isMark_ofNat {code : Nat} (range : code < 0xE000 ∨ 0xE001 < code) :
    isMark (Char.ofNat code) = false := by
  have other {mark : Char} (own : mark ≠ '\x00') (different : code ≠ mark.toNat) : (Char.ofNat code == mark) = false := by
    rw [beq_eq_false_iff_ne, ne_eq, ofNat_eq_iff own]
    exact different
  rw [isMark, Bool.or_eq_false_iff]
  constructor
  · exact other (by decide) (by rintro rfl; revert range; decide)
  · exact other (by decide) (by rintro rfl; revert range; decide)

private theorem not_isMark_toUpper {c : Char} (ascii : c < '\u0080') : isMark c.toUpper = false := by
  have all : ∀ code < 0x80, isMark (Char.ofNat code).toUpper = false := by decide +kernel
  have small : c.toNat < 0x80 := ascii
  simpa [Char.ofNat_toNat] using all c.toNat small

/-- What upper case makes of a character: the character itself, its ASCII image, or an image of the tables. -/
theorem mem_upperChar {c d : Char} (member : d ∈ upperChar c) :
    d = c ∨ (c < '\u0080' ∧ d = c.toUpper) ∨
      (∃ row ∈ CaseTable.upperStrings, ∃ code ∈ row.2, d = Char.ofNat code) ∨
      ∃ run ∈ CaseTable.upperRuns, ∃ code, run.image ≤ code ∧ code ≤ run.image + (run.last - run.first) ∧
        d = Char.ofNat code := by
  unfold upperChar at member
  split at member
  next ascii => exact .inr (.inl ⟨ascii, List.mem_singleton.mp member⟩)
  next =>
    unfold mapped at member
    split at member
    next image found =>
      obtain ⟨code, listed, rfl⟩ := List.mem_map.mp member
      exact .inr (.inr (.inl ⟨_, mem_of_lookup found, code, listed, rfl⟩))
    next =>
      obtain rfl := List.mem_singleton.mp member
      cases found : CaseTable.upperRuns.findSome? (·.image? c.toNat) with
      | none => exact .inl rfl
      | some code =>
        obtain ⟨run, listed, image⟩ := List.exists_of_findSome?_eq_some found
        simp only [CaseRun.image?, Option.ite_none_right_eq_some, Option.some.injEq] at image
        exact .inr (.inr (.inr ⟨run, listed, code, by omega, by omega, rfl⟩))

private theorem isMark_of_mem_upperChar {c d : Char} (member : d ∈ upperChar c) (mark : isMark d = true) :
    isMark c = true := by
  rcases mem_upperChar member with rfl | ⟨ascii, rfl⟩ | ⟨row, listed, code, image, rfl⟩ | ⟨run, listed, code, low, high, rfl⟩
  · exact mark
  · exact absurd mark (by simp [not_isMark_toUpper ascii])
  · exact absurd mark (by simp [not_isMark_ofNat (not_isMark_upperStrings row listed code image)])
  · have range : code < 0xE000 ∨ 0xE001 < code := by
      have free := not_isMark_upperRuns run listed
      omega
    exact absurd mark (by simp [not_isMark_ofNat range])

theorem Markup.Marked.of_upper {text : String} (marked : Marked text.inUpperCase.toList) : Marked text.toList := by
  rw [String.inUpperCase, String.toList_ofList] at marked
  obtain ⟨d, member, mark⟩ := marked
  obtain ⟨c, place, image⟩ := List.mem_flatMap.mp member
  exact ⟨c, place, isMark_of_mem_upperChar image mark⟩

end casing

namespace Warning

/-- The markup that a warning quotes. -/
def quoted : Warning → List Char
  | .unclosedBlock opening => opening
  | .withoutArgument command | .linkWithoutTarget command | .unknownCommand command _ => command.toList
  | .linkWithoutLabel href => href.toList
  | .unmatchedEnd name | .unknownEnvironment name => name
  | _ => []

private theorem not_marked_toString (number : Nat) : ¬ Marked (toString number).toList := by
  rintro ⟨c, member, mark⟩
  rw [Nat.toString_eq_ofList_toDigits, String.toList_ofList] at member
  have digit := Nat.isDigit_of_mem_toDigits (by decide) (by decide) member
  simp only [isMark, Bool.or_eq_true, beq_iff_eq] at mark
  rcases mark with rfl | rfl
  · exact absurd digit (by decide)
  · exact absurd digit (by decide)

/-- A message has no marks but those of what it quotes. -/
theorem marked_message (warning : Warning) : Marked warning.message.toList ↔ Marked warning.quoted := by
  have named {before after : String} (first : ¬ Marked before.toList) (last : ¬ Marked after.toList) (name : List Char) :
      Marked (before ++ .ofList name ++ after).toList ↔ Marked name := by
    rw [marked_between first last, String.toList_ofList]
  cases warning with
  | tooDeep limit =>
    refine (marked_between (by decide +kernel) (by decide +kernel)).trans ?_
    exact iff_of_false (not_marked_toString limit) not_marked_nil
  | incompleteEntry found =>
    have whole : message (.incompleteEntry found) = "\\resumeSubheading expects 4 arguments, found " ++ toString found := rfl
    refine iff_of_false ?_ not_marked_nil
    rw [whole, String.toList_append, marked_append]
    exact not_or.mpr ⟨by decide +kernel, not_marked_toString found⟩
  | unclosedBlock opening => exact named (by decide +kernel) (by decide +kernel) opening
  | unmatchedEnd name => exact named (by decide +kernel) (by decide +kernel) name
  | unknownEnvironment name => exact named (by decide +kernel) (by decide +kernel) name
  | withoutArgument command => exact marked_between (by decide +kernel) (by decide +kernel)
  | linkWithoutTarget command => exact marked_between (by decide +kernel) (by decide +kernel)
  | linkWithoutLabel href => exact marked_between (by decide +kernel) (by decide +kernel)
  | unknownCommand command kept =>
    cases kept with
    | true => exact marked_between (by decide +kernel) (by decide +kernel)
    | false => exact marked_between (by decide +kernel) (by decide +kernel)
  | unmatchedBrace | unclosedGroup | sectionWithoutTitle | colorWithoutName | unmatchedListEnd | itemOutsideList
  | contentBeforeItems | unnamedBegin => exact iff_of_false (by decide +kernel) not_marked_nil

end Warning

end Vitae
