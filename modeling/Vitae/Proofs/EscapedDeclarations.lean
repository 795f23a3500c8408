import Mathlib.Data.List.Induction
import Mathlib.Data.List.ReduceOption
import Mathlib.Logic.Relation
import Vitae.Proofs.Erasure

/-! Escaped declarations are text. What is removed from markup, the preamble apart, are complete declarations that are
not escaped, one after another, and an opening of the document goes only where an earlier removal has put it together.
The end of a preamble is the one place where an escaped opening counts. -/

namespace Vitae.Markup

open Relation

section escapes

/-- Holds behind an odd run of backslashes, where the next character is escaped. -/
def endsEscaping (before : List Char) : Bool :=
  (before.reverse.takeWhile (· == '\\')).length % 2 == 1

private theorem foldl_escapes (before : List Char) : before.foldl escapes false = endsEscaping before := by
  induction before using List.reverseRecOn with
  | nil => rfl
  | append_singleton before c ih =>
    rw [List.foldl_append, List.foldl_cons, List.foldl_nil, ih]
    by_cases slash : c = '\\'
    · subst slash
      simp only [endsEscaping, escapes, List.reverse_append, List.reverse_singleton, List.singleton_append, beq_self_eq_true,
        Bool.true_and, List.takeWhile_cons_of_pos, List.length_cons]
      rcases Nat.mod_two_eq_zero_or_one (before.reverse.takeWhile (· == '\\')).length with even | odd
      · simp [even, Nat.add_mod]
      · simp [odd, Nat.add_mod]
    · simp [endsEscaping, escapes, slash]

private theorem endsEscaping_concat (before : List Char) (c : Char) :
    endsEscaping (before ++ [c]) = escapes (endsEscaping before) c := by
  rw [← foldl_escapes, ← foldl_escapes, List.foldl_append, List.foldl_cons, List.foldl_nil]

private theorem endsEscaping_append {before : List Char} (unescaped : endsEscaping before = false) (after : List Char) :
    endsEscaping (before ++ after) = endsEscaping after := by
  rw [← foldl_escapes, List.foldl_append, foldl_escapes, unescaped, foldl_escapes]

private theorem endsEscaping_brace (before after : List Char) :
    endsEscaping (before ++ '}' :: after) = endsEscaping after := by
  rw [← foldl_escapes, List.foldl_append, List.foldl_cons, escapes_of_ne (by decide), foldl_escapes]

/-- An idiom is absent where all that can be read as one is escaped. -/
theorem Idiom.absent_iff {idiom : Idiom} {escaped : Bool} {text : List Char} :
    idiom.Absent escaped text ↔
      ∀ before after, text = before ++ after → before.foldl escapes escaped = false → idiom.after? after = none := by
  induction text generalizing escaped with
  | nil =>
    refine ⟨fun _ before after whole _ => ?_, fun _ => trivial⟩
    obtain ⟨-, rfl⟩ := List.append_eq_nil_iff.mp whole.symm
    rw [Option.eq_none_iff_forall_ne_some]
    intro rest found
    exact absurd (idiom.shrinks found) (Nat.not_lt_zero _)
  | cons c rest ih =>
    constructor
    · rintro ⟨here, later⟩ before after whole unescaped
      cases before with
      | nil =>
        rw [List.nil_append] at whole
        exact whole ▸ here unescaped
      | cons d before =>
        obtain ⟨rfl, tail⟩ := List.cons.inj whole
        exact ih.mp later before after tail unescaped
    · intro unread
      refine ⟨fun unescaped => unread [] (c :: rest) rfl unescaped, ih.mpr ?_⟩
      intro before after whole unescaped
      exact unread (c :: before) after (by rw [whole, List.cons_append]) unescaped

end escapes

section opening

/-- The text after an opening of the document. -/
def opening? (text : List Char) : Option (List Char) := do
  documentName? (← expect? beginWord text)

private theorem opening?_eq_some_iff {text after : List Char} :
    opening? text = some after ↔ ∃ blanks : List Char, (∀ c ∈ blanks, Text.isInlineSpace c = true) ∧
      text = beginWord ++ (blanks ++ "\x7bdocument\x7d".toList) ++ after := by
  simp only [opening?, documentName?, Option.bind_eq_bind, Option.bind_eq_some_iff, expect?_eq_some_iff]
  constructor
  · rintro ⟨behind, rfl, name⟩
    refine ⟨behind.takeWhile Text.isInlineSpace, fun c => List.all_eq_true.mp List.all_takeWhile c, ?_⟩
    rw [List.append_assoc, List.append_assoc, ← name, dropBlanks, List.takeWhile_append_dropWhile]
  · rintro ⟨blanks, spaces, rfl⟩
    refine ⟨_, by rw [List.append_assoc, List.append_assoc], ?_⟩
    rw [dropBlanks, List.dropWhile_append_of_pos spaces]
    exact List.dropWhile_cons_of_neg (by decide)

private theorem opening?_append {word after other : List Char} (read : opening? (word ++ after) = some after) :
    opening? (word ++ other) = some other := by
  obtain ⟨blanks, spaces, whole⟩ := opening?_eq_some_iff.mp read
  exact opening?_eq_some_iff.mpr ⟨blanks, spaces, by rw [List.append_cancel_right whole]⟩

private theorem afterOpening?_eq_none_iff {text : List Char} :
    afterOpening? text = none ↔ ∀ before after, text = before ++ after → opening? after = none := by
  induction text with
  | nil =>
    refine ⟨fun _ before after whole => ?_, fun _ => rfl⟩
    obtain ⟨-, rfl⟩ := List.append_eq_nil_iff.mp whole.symm
    rfl
  | cons c rest ih =>
    have step : afterOpening? (c :: rest) = none ↔ opening? (c :: rest) = none ∧ afterOpening? rest = none := by
      rw [afterOpening?, Option.orElse_eq_orElse, Option.orElse_eq_or, Option.or_eq_none_iff]
      rfl
    rw [step, ih]
    constructor
    · rintro ⟨here, later⟩ before after whole
      cases before with
      | nil =>
        rw [List.nil_append] at whole
        exact whole ▸ here
      | cons d before => exact later before after (List.cons.inj whole).2
    · intro unread
      exact ⟨unread [] _ rfl, fun before after whole => unread (c :: before) after (by rw [whole, List.cons_append])⟩

end opening

section preamble

def preamble : Idiom where
  after? := preamble?
  shrinks := by
    intro text after found
    obtain ⟨inner, rfl⟩ := readsCommand_preamble found
    simp
    omega

private theorem withoutPreamble_eq_self_iff {escaped : Bool} {text : List Char} :
    withoutPreamble escaped text = text ↔ preamble.Absent escaped text := by
  induction text generalizing escaped with
  | nil => exact ⟨fun _ => trivial, fun _ => rfl⟩
  | cons c rest ih =>
    unfold withoutPreamble
    split
    next after found =>
      cases escaped with
      | true => simp at found
      | false =>
        have shorter := preamble.shrinks found
        refine ⟨fun same => ?_, fun absent => ?_⟩
        · exact absurd (congrArg List.length same) (Nat.ne_of_lt shorter)
        · exact absurd (found.symm.trans (absent.1 rfl)) (by simp)
    next unread =>
      rw [List.cons_inj_right, ih]
      refine ⟨fun later => ⟨fun unescaped => ?_, later⟩, fun absent => absent.2⟩
      rwa [unescaped] at unread

private theorem withoutPreamble_eq_self_iff_forall {text : List Char} :
    withoutPreamble false text = text ↔ ∀ before between after, text = before ++ classWord ++ between ++ after →
      endsEscaping before = false → opening? after = none := by
  rw [withoutPreamble_eq_self_iff, Idiom.absent_iff]
  constructor
  · intro absent before between after whole unescaped
    have unread := absent before (classWord ++ (between ++ after)) (by rw [whole]; simp) (by rwa [foldl_escapes])
    have none : afterOpening? (between ++ after) = none := by
      simpa [preamble, preamble?, expect?_append] using unread
    exact afterOpening?_eq_none_iff.mp none between after rfl
  · intro unread before after whole unescaped
    rw [foldl_escapes] at unescaped
    rw [Option.eq_none_iff_forall_ne_some]
    intro rest found
    simp only [preamble, preamble?, Option.bind_eq_bind, Option.bind_eq_some_iff, expect?_eq_some_iff] at found
    obtain ⟨behind, rfl, opened⟩ := found
    have none : afterOpening? behind = none := by
      refine afterOpening?_eq_none_iff.mpr fun between after split => ?_
      exact unread before between after (by rw [whole, split]; simp) unescaped
    exact absurd (opened.symm.trans none) (by simp)

end preamble

section removal

/-- Takes a complete declaration that is not escaped out of a text and leaves a seam, `none`, in its place. An opening of
the document goes only where it runs over an earlier seam. -/
inductive Removes : List (Option Char) → List (Option Char) → Prop
  | declaration {idiom : Idiom} {before inner after : List (Option Char)} (listed : idiom ∈ declarations)
    (unescaped : endsEscaping before.reduceOption = false)
    (complete : idiom.after? ('\\' :: inner.reduceOption ++ '}' :: after.reduceOption) = some after.reduceOption)
    (grown : opening? ('\\' :: inner.reduceOption ++ '}' :: after.reduceOption) = some after.reduceOption → none ∈ inner) :
    Removes (before ++ some '\\' :: inner ++ some '}' :: after) (before ++ none :: after)

/-- Every opening without a seam in it is escaped. -/
def OpeningsEscaped (text : List (Option Char)) : Prop :=
  ∀ before word after, text = before ++ word.map some ++ after →
    opening? (word ++ after.reduceOption) = some after.reduceOption → endsEscaping before.reduceOption = true

private theorem seam_cases {before word after first last : List (Option Char)} (unbroken : none ∉ word)
    (same : first ++ none :: last = before ++ word ++ after) :
    (∃ between, first = before ++ word ++ between ∧ after = between ++ none :: last) ∨
      ∃ between, before = first ++ none :: between ∧ last = between ++ word ++ after := by
  rcases List.append_eq_append_iff.mp same with ⟨between, front, back⟩ | ⟨between, front, back⟩
  · cases between with
    | nil =>
      left
      exact ⟨[], by simpa using front.symm, by simpa using back.symm⟩
    | cons seam between =>
      obtain ⟨rfl, rfl⟩ := List.cons.inj back
      right
      rcases List.append_eq_append_iff.mp front with ⟨rest, -, tail⟩ | ⟨rest, whole, tail⟩
      · rw [tail] at unbroken
        simp at unbroken
      · cases rest with
        | nil =>
          rw [← List.nil_append word, ← tail] at unbroken
          simp at unbroken
        | cons seam rest =>
          obtain ⟨rfl, rfl⟩ := List.cons.inj tail
          exact ⟨rest, whole, rfl⟩
  · exact .inl ⟨between, front, back⟩

/-- Taking something out escapes nothing and frees nothing, so only openings over the new seam may count. -/
theorem OpeningsEscaped.removes {text later : List (Option Char)} (escaped : OpeningsEscaped text)
    (step : Removes text later) : OpeningsEscaped later := by
  cases step with
  | @declaration idiom first inner last listed unescaped complete grown =>
    intro before word after same read
    rcases seam_cases (by simp) same with ⟨between, rfl, rfl⟩ | ⟨between, rfl, rfl⟩
    · apply escaped before word (between ++ some '\\' :: inner ++ some '}' :: last) (by simp)
      exact opening?_append read
    · have free := escaped (first ++ some '\\' :: inner ++ some '}' :: between) word after (by simp) read
      rw [List.reduceOption_append, List.reduceOption_cons_of_some, endsEscaping_brace] at free
      rwa [List.reduceOption_append, List.reduceOption_cons_of_none, endsEscaping_append unescaped]

theorem OpeningsEscaped.reaches {text later : List (Option Char)} (escaped : OpeningsEscaped text)
    (steps : ReflTransGen Removes text later) : OpeningsEscaped later := by
  induction steps with
  | refl => exact escaped
  | tail _ step ih => exact ih.removes step

private theorem reduceOption_eq_cons {seamed : List (Option Char)} {c : Char} {rest : List Char}
    (same : seamed.reduceOption = c :: rest) :
    ∃ seams later, seamed = seams ++ some c :: later ∧ seams.reduceOption = [] ∧ later.reduceOption = rest := by
  obtain ⟨seams, first, later, rfl, none, here, tail⟩ := List.filterMap_eq_cons_iff.mp same
  obtain rfl : first = some c := here
  exact ⟨seams, later, rfl, List.filterMap_eq_nil_iff.mpr none, tail⟩

private theorem reduceOption_map_some (text : List Char) : (text.map some).reduceOption = text := by
  simp [List.reduceOption, List.filterMap_map]

private theorem eq_map_some {text : List (Option Char)} (unbroken : none ∉ text) :
    text = text.reduceOption.map some := by
  induction text with
  | nil => rfl
  | cons c rest ih =>
    rw [List.mem_cons, not_or] at unbroken
    cases c with
    | none => exact absurd rfl unbroken.1
    | some c => rw [List.reduceOption_cons_of_some, List.map_cons, ← ih unbroken.2]

/-- What an idiom reads at a place that is not escaped may be removed from there: if it is an opening, it is no old one. -/
theorem OpeningsEscaped.removes_read {idiom : Idiom} (listed : idiom ∈ declarations)
    {before inner after : List (Option Char)} (openings : OpeningsEscaped (before ++ some '\\' :: inner ++ some '}' :: after))
    (unescaped : endsEscaping before.reduceOption = false)
    (found : idiom.after? ('\\' :: inner.reduceOption ++ '}' :: after.reduceOption) = some after.reduceOption) :
    Removes (before ++ some '\\' :: inner ++ some '}' :: after) (before ++ none :: after) := by
  apply Removes.declaration listed unescaped found
  intro read
  by_contra unbroken
  have word := eq_map_some unbroken
  have counted := openings before ('\\' :: inner.reduceOption ++ ['}']) after (by simp [← word]) (by simpa using read)
  exact absurd (counted.symm.trans unescaped) (by decide)

private theorem reaches_erase {idiom : Idiom} (listed : idiom ∈ declarations) (escaped : Bool) (text : List Char)
    (before seamed : List (Option Char)) (openings : OpeningsEscaped (before ++ seamed))
    (whole : seamed.reduceOption = text) (state : endsEscaping before.reduceOption = escaped) :
    ∃ later, ReflTransGen Removes (before ++ seamed) (before ++ later) ∧
      later.reduceOption = idiom.erase escaped text := by
  fun_induction Idiom.erase idiom escaped text generalizing before seamed with
  | case1 => exact ⟨seamed, .refl, whole⟩
  | case2 escaped c rest after found ih =>
    cases escaped with
    | true => simp at found
    | false =>
      obtain ⟨inner, spelled⟩ := readsCommand_declarations listed found
      rw [spelled] at found
      rw [spelled, List.cons_append] at whole
      obtain ⟨seams, tail, rfl, nothing, whole⟩ := reduceOption_eq_cons whole
      obtain ⟨inside, behind, rfl, rfl, brace⟩ := List.filterMap_eq_append_iff.mp whole
      obtain ⟨more, later, rfl, none, rfl⟩ := reduceOption_eq_cons brace
      have split : before ++ (seams ++ some '\\' :: (inside ++ (more ++ some '}' :: later))) =
          before ++ seams ++ some '\\' :: (inside ++ more) ++ some '}' :: later := by simp
      have unescaped : endsEscaping (before ++ seams).reduceOption = false := by
        rwa [List.reduceOption_append, nothing, List.append_nil]
      rw [split] at openings ⊢
      have step : Removes _ (before ++ seams ++ Option.none :: later) :=
        openings.removes_read listed unescaped (by rwa [List.reduceOption_append, none, List.append_nil])
      have shift (later : List (Option Char)) :
          before ++ seams ++ Option.none :: later = before ++ seams ++ [Option.none] ++ later := List.append_cons _ _ _
      have further : OpeningsEscaped (before ++ seams ++ [Option.none] ++ later) := by
        rw [← shift]
        exact openings.removes step
      have seam : endsEscaping (before ++ seams ++ [Option.none]).reduceOption = false := by
        rwa [List.reduceOption_append, List.reduceOption_cons_of_none, List.reduceOption_nil, List.append_nil]
      obtain ⟨last, steps, same⟩ := ih (before ++ seams ++ [Option.none]) later further rfl seam
      refine ⟨seams ++ Option.none :: last, ?_, ?_⟩
      · rw [← shift, ← shift, List.append_assoc before seams (Option.none :: last)] at steps
        exact .head step steps
      · rw [List.reduceOption_append, nothing, List.reduceOption_cons_of_none, List.nil_append, same]
  | case3 escaped c rest unread ih =>
    obtain ⟨seams, later, rfl, nothing, rfl⟩ := reduceOption_eq_cons whole
    have shift (later : List (Option Char)) :
        before ++ (seams ++ some c :: later) = before ++ seams ++ [some c] ++ later := by simp
    have next : endsEscaping (before ++ seams ++ [some c]).reduceOption = escapes escaped c := by
      rw [List.reduceOption_append, List.reduceOption_append, nothing, List.append_nil]
      exact state ▸ endsEscaping_concat before.reduceOption c
    rw [shift] at openings ⊢
    obtain ⟨last, steps, same⟩ := ih (before ++ seams ++ [some c]) later openings rfl next
    refine ⟨seams ++ some c :: last, ?_, ?_⟩
    · rwa [shift]
    · rw [List.reduceOption_append, nothing, List.reduceOption_cons_of_some, List.nil_append, same]

/-- Whatever passes over declarations leave can be reached by removing them one by one. -/
def Reachable (seamed : List (Option Char)) (text : List Char) : Prop :=
  ∃ later, ReflTransGen Removes seamed later ∧ later.reduceOption = text

theorem Reachable.settled_erase {seamed : List (Option Char)} (openings : OpeningsEscaped seamed) {idiom : Idiom}
    (listed : idiom ∈ declarations) {text : List Char} (start : Reachable seamed text) :
    Reachable seamed (settled (idiom.erase false) text) := by
  apply settled_induction (Reachable seamed) _ start
  rintro _ ⟨later, steps, rfl⟩
  obtain ⟨last, more, same⟩ := reaches_erase listed false later.reduceOption [] later (openings.reaches steps) rfl rfl
  exact ⟨last, steps.trans more, same⟩

private theorem reachable_body {text : List Char} (openings : OpeningsEscaped (text.map some))
    (kept : withoutPreamble false text = text) : Reachable (text.map some) (body text) := by
  have fold (idioms : List Idiom) (listed : ∀ idiom ∈ idioms, idiom ∈ declarations) (left : List Char)
      (start : Reachable (text.map some) left) :
      Reachable (text.map some) (idioms.foldl (fun text idiom => settled (idiom.erase false) text) left) := by
    induction idioms generalizing left with
    | nil => exact start
    | cons idiom idioms ih =>
      apply ih (fun other member => listed other (by simp [member]))
      exact start.settled_erase openings (listed idiom (by simp))
  rw [body, kept]
  exact fold declarations (fun _ member => member) text ⟨text.map some, .refl, reduceOption_map_some text⟩

end removal

/-- Where every opening of the document is escaped, the preamble stays just if no document class that is not escaped
stands before an opening, and where it stays nothing but complete declarations is removed. -/
theorem body_of_escapedOpenings {text : List Char}
    (escaped : ∀ before after, text = before ++ after → opening? after ≠ none → endsEscaping before = true) :
    (withoutPreamble false text = text ↔ ∀ before between after, text = before ++ classWord ++ between ++ after →
      endsEscaping before = false → opening? after = none) ∧
    (withoutPreamble false text = text →
      ∃ seamed, ReflTransGen Removes (text.map some) seamed ∧ seamed.reduceOption = body text) := by
  refine ⟨withoutPreamble_eq_self_iff_forall, fun kept => reachable_body ?_ kept⟩
  intro before word after whole read
  have plain : text = before.reduceOption ++ (word ++ after.reduceOption) := by
    rw [← reduceOption_map_some text, whole, List.reduceOption_append, List.reduceOption_append, reduceOption_map_some,
      List.append_assoc]
  exact escaped _ _ plain (by simp [read])

private theorem forall_split_iff {text : List Char} {holds : List Char → List Char → Prop} :
    (∀ before after, text = before ++ after → holds before after) ↔
      ∀ place ∈ List.range (text.length + 1), holds (text.take place) (text.drop place) := by
  constructor
  · intro all place _
    exact all _ _ (List.take_append_drop place text).symm
  · rintro all before after rfl
    have inside : before.length ∈ List.range ((before ++ after).length + 1) := by
      rw [List.mem_range, List.length_append]
      omega
    have split := all before.length inside
    rwa [List.take_left, List.drop_left] at split

def keptOpening : List Char :=
  "\\usepackage\x7bx\x7da\\\\begin\x7bdocument\x7dy".toList

theorem body_keptOpening :
    (∀ before after, keptOpening = before ++ after → opening? after ≠ none → endsEscaping before = true) ∧
      ∃ seamed, ReflTransGen Removes (keptOpening.map some) seamed ∧
        seamed.reduceOption = "a\\\\begin\x7bdocument\x7dy".toList := by
  have escaped : ∀ before after, keptOpening = before ++ after → opening? after ≠ none → endsEscaping before = true :=
    forall_split_iff.mpr (by decide +kernel)
  have left : body keptOpening = "a\\\\begin\x7bdocument\x7dy".toList := by decide +kernel
  exact ⟨escaped, left ▸ (body_of_escapedOpenings escaped).2 (by decide +kernel)⟩

def escapedOpening : List Char :=
  "\\documentclass\x7ba\x7dx\\\\begin\x7bdocument\x7dy".toList

/-- All up to the escaped opening is taken for a preamble, text and half of a line break included. -/
theorem body_escapedOpening :
    (∀ before after, escapedOpening = before ++ after → opening? after ≠ none → endsEscaping before = true) ∧
      withoutComments (.content false) escapedOpening = escapedOpening ∧
      withoutPreamble false escapedOpening ≠ escapedOpening ∧ body escapedOpening = ['y'] := by
  refine ⟨forall_split_iff.mpr ?_, ?_, ?_, ?_⟩
  all_goals decide +kernel

end Vitae.Markup
