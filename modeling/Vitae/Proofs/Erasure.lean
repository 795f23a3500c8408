import Vitae.Markup.Normal

/-! Reading an idiom means splitting the text. Every idiom that is erased from markup begins with a
backslash and ends with a closing brace, so the text behind it is never escaped, and an erasure that
changes anything takes a backslash away. -/

namespace Vitae.Markup

private theorem enclosed?_eq_some {opening closing : Char} {text after : List Char}
    (found : enclosed? opening closing text = some after) : ∃ inner, text = opening :: inner ++ closing :: after := by
  cases text with
  | nil => simp [enclosed?] at found
  | cons c rest =>
    simp only [enclosed?, Option.ite_none_right_eq_some] at found
    obtain ⟨rfl, found⟩ := found
    cases same : rest.dropWhile (· ≠ closing) with
    | nil =>
      rw [same] at found
      simp at found
    | cons d later =>
      simp only [same, List.tail?_cons, Option.some.injEq] at found
      have closed : d = closing := by
        have head := List.head?_dropWhile_not (· ≠ closing) rest
        rw [same] at head
        simpa using head
      subst found closed
      refine ⟨rest.takeWhile (· ≠ d), ?_⟩
      rw [List.cons_append, ← same, List.takeWhile_append_dropWhile]

private theorem braces?_eq_some {text after : List Char} (found : braces? text = some after) :
    ∃ inner, text = inner ++ '}' :: after := by
  obtain ⟨inner, same⟩ := enclosed?_eq_some found
  obtain ⟨blanks, whole⟩ := dropBlanks_suffix text
  exact ⟨blanks ++ '{' :: inner, by rw [← whole, same, List.append_assoc]⟩

private theorem documentName?_eq_some {text after : List Char} (found : documentName? text = some after) :
    ∃ inner, text = inner ++ '}' :: after := by
  have same := expect?_eq_some_iff.mp found
  obtain ⟨blanks, whole⟩ := dropBlanks_suffix text
  have spelled : "\x7bdocument\x7d".toList = "\x7bdocument".toList ++ ['\x7d'] := rfl
  rw [spelled] at same
  exact ⟨blanks ++ "\x7bdocument".toList, by rw [← whole, same, List.append_assoc, List.append_assoc, List.singleton_append]⟩

private theorem afterOpening?_eq_some {text after : List Char} (found : afterOpening? text = some after) :
    ∃ inner, text = inner ++ '}' :: after := by
  induction text with
  | nil => simp [afterOpening?] at found
  | cons c rest ih =>
    simp only [afterOpening?, Option.orElse_eq_orElse, Option.orElse_eq_or, Option.or_eq_some_iff,
      Option.bind_eq_bind, Option.bind_eq_some_iff] at found
    rcases found with ⟨behind, word, name⟩ | ⟨-, later⟩
    · obtain ⟨inner, same⟩ := documentName?_eq_some name
      exact ⟨beginWord ++ inner, by rw [expect?_eq_some_iff.mp word, same, List.append_assoc]⟩
    · obtain ⟨inner, same⟩ := ih later
      exact ⟨c :: inner, by rw [same, List.cons_append]⟩

/-- Reading from a backslash to a closing brace. -/
def ReadsCommand (after? : List Char → Option (List Char)) : Prop :=
  ∀ ⦃text after⦄, after? text = some after → ∃ inner, text = '\\' :: inner ++ '}' :: after

theorem readsCommand_preamble : ReadsCommand preamble? := by
  intro text after found
  simp only [preamble?, Option.bind_eq_bind, Option.bind_eq_some_iff] at found
  obtain ⟨behind, word, later⟩ := found
  obtain ⟨inner, same⟩ := afterOpening?_eq_some later
  have spelled : classWord = '\\' :: "documentclass".toList := rfl
  exact ⟨"documentclass".toList ++ inner, by rw [expect?_eq_some_iff.mp word, spelled, same, List.cons_append,
    List.cons_append, List.append_assoc]⟩

private theorem readsCommand_declaration : ReadsCommand declaration.after? := by
  intro text after found
  simp only [declaration, declaration?, Option.bind_eq_bind, Option.bind_eq_some_iff] at found
  obtain ⟨behind, word, later⟩ := found
  obtain ⟨tail, command⟩ : ∃ tail, text = '\\' :: tail ++ behind := by
    simp only [Option.orElse_eq_orElse, Option.orElse_eq_or, Option.or_eq_some_iff, expect?_eq_some_iff] at word
    rcases word with word | ⟨-, word⟩
    · exact ⟨_, word⟩
    · exact ⟨_, word⟩
  obtain ⟨inner, same⟩ := braces?_eq_some later
  obtain ⟨blanks, whole⟩ := dropBlanks_suffix behind
  cases options : enclosed? '[' ']' (dropBlanks behind) with
  | none =>
    rw [options, Option.getD_none] at same
    exact ⟨tail ++ blanks ++ inner, by rw [command, ← whole, same]; simp⟩
  | some rest =>
    obtain ⟨option, bracket⟩ := enclosed?_eq_some options
    rw [options, Option.getD_some] at same
    exact ⟨tail ++ blanks ++ '[' :: option ++ ']' :: inner, by rw [command, ← whole, bracket, same]; simp⟩

private theorem readsCommand_colorDefinition : ReadsCommand colorDefinition.after? := by
  intro text after found
  simp only [colorDefinition, colorDefinition?, Option.bind_eq_bind, Option.bind_eq_some_iff] at found
  obtain ⟨first, word, second, name, third, model, value⟩ := found
  obtain ⟨nameText, rfl⟩ := braces?_eq_some name
  obtain ⟨modelText, rfl⟩ := braces?_eq_some model
  obtain ⟨valueText, rfl⟩ := braces?_eq_some value
  have spelled : colorWord = '\\' :: "definecolor".toList := rfl
  exact ⟨"definecolor".toList ++ nameText ++ '}' :: modelText ++ '}' :: valueText,
    by simp only [expect?_eq_some_iff.mp word, spelled, List.cons_append, List.append_assoc]⟩

private theorem readsCommand_documentBoundary : ReadsCommand documentBoundary.after? := by
  intro text after found
  simp only [documentBoundary, documentBoundary?, Option.bind_eq_bind, Option.bind_eq_some_iff] at found
  obtain ⟨behind, word, name⟩ := found
  obtain ⟨inner, rfl⟩ := documentName?_eq_some name
  simp only [Option.orElse_eq_orElse, Option.orElse_eq_or, Option.or_eq_some_iff, expect?_eq_some_iff] at word
  rcases word with word | ⟨-, word⟩
  · have spelled : beginWord = '\\' :: "begin".toList := rfl
    exact ⟨"begin".toList ++ inner, by simp only [word, spelled, List.cons_append, List.append_assoc]⟩
  · have spelled : endWord = '\\' :: "end".toList := rfl
    exact ⟨"end".toList ++ inner, by simp only [word, spelled, List.cons_append, List.append_assoc]⟩

theorem readsCommand_declarations {idiom : Idiom} (listed : idiom ∈ declarations) : ReadsCommand idiom.after? := by
  simp only [declarations, List.mem_cons, List.not_mem_nil, or_false] at listed
  rcases listed with rfl | rfl | rfl
  · exact readsCommand_declaration
  · exact readsCommand_colorDefinition
  · exact readsCommand_documentBoundary

@[simp] theorem escapes_of_ne {c : Char} (other : c ≠ '\\') (escaped : Bool) : escapes escaped c = false := by
  simp [escapes, other]

/-- A backslash that is not escaped itself escapes what comes next. -/
theorem escapes_eq {escaped : Bool} {c : Char} (free : c = '\\' → escaped = false) :
    escapes escaped c = (c == '\\') := by
  by_cases slash : c = '\\'
  · simp [escapes, slash, free slash]
  · simp [escapes, slash]

/-- Every percent sign is escaped, the first character being so where `escaped` holds. -/
def Uncommented : Bool → List Char → Prop
  | _, [] => True
  | escaped, c :: rest => (c = '%' → escaped = true) ∧ Uncommented (escapes escaped c) rest

theorem Uncommented.behind {escaped : Bool} {before after : List Char} {c : Char} (other : c ≠ '\\')
    (clean : Uncommented escaped (before ++ c :: after)) : Uncommented false after := by
  induction before generalizing escaped with
  | nil => simpa [Uncommented, other] using clean.2
  | cons d before ih => exact ih clean.2

theorem uncommented_withoutComments (text : List Char) (escaped : Bool) :
    Uncommented escaped (withoutComments (.content escaped) text) ∧
      Uncommented escaped (withoutComments .comment text) := by
  induction text generalizing escaped with
  | nil => exact ⟨trivial, trivial⟩
  | cons c rest ih =>
    by_cases line : c = '\n'
    · subst line
      exact ⟨⟨by simp, by simpa using (ih false).1⟩, ⟨by simp, by simpa using (ih false).1⟩⟩
    · simp only [withoutComments]
      refine ⟨?_, (ih escaped).2⟩
      split
      next => exact (ih escaped).2
      next kept =>
        refine ⟨fun percent => ?_, (ih (escapes escaped c)).1⟩
        cases escaped with
        | false => exact absurd ⟨percent, by simp⟩ kept
        | true => rfl

theorem withoutComments_eq_self {text : List Char} {escaped : Bool} (clean : Uncommented escaped text) :
    withoutComments (.content escaped) text = text := by
  induction text generalizing escaped with
  | nil => rfl
  | cons c rest ih =>
    by_cases line : c = '\n'
    · subst line
      simp only [withoutComments, List.cons.injEq, true_and]
      exact ih (by simpa using clean.2)
    · simp only [withoutComments]
      rw [if_neg (fun comment => comment.2 (clean.1 comment.1)), ih clean.2]

section erase

variable {idiom : Idiom}

/-- No occurrence of the idiom counts; the first character is escaped where `escaped` holds. -/
def Idiom.Absent (idiom : Idiom) : Bool → List Char → Prop
  | _, [] => True
  | escaped, c :: rest => (escaped = false → idiom.after? (c :: rest) = none) ∧ idiom.Absent (escapes escaped c) rest

theorem Idiom.erase_eq_self {escaped : Bool} {text : List Char} (absent : idiom.Absent escaped text) :
    idiom.erase escaped text = text := by
  induction text generalizing escaped with
  | nil => rw [Idiom.erase]
  | cons c rest ih =>
    have unread : (if escaped then none else idiom.after? (c :: rest)) = none := by
      cases escaped with
      | false => exact absent.1 rfl
      | true => rfl
    rw [Idiom.erase]
    split
    next found => simp [unread] at found
    next => rw [ih absent.2]

theorem Uncommented.erase (reads : ReadsCommand idiom.after?) {escaped : Bool} {text : List Char}
    (clean : Uncommented escaped text) : Uncommented escaped (idiom.erase escaped text) := by
  fun_induction Idiom.erase idiom escaped text with
  | case1 => trivial
  | case2 escaped c rest after found ih =>
    cases escaped with
    | false =>
      obtain ⟨inner, whole⟩ := reads found
      rw [whole] at clean
      exact ih (clean.behind (by decide))
    | true => simp at found
  | case3 escaped c rest _ ih => exact ⟨clean.1, ih clean.2⟩

private theorem Idiom.erase_sublist (reads : ReadsCommand idiom.after?) (escaped : Bool) (text : List Char) :
    (idiom.erase escaped text).Sublist text := by
  fun_induction Idiom.erase idiom escaped text with
  | case1 => exact List.Sublist.refl []
  | case2 escaped c rest after found ih =>
    cases escaped with
    | false =>
      obtain ⟨inner, whole⟩ := reads found
      rw [whole]
      exact (ih.cons '}').trans (List.sublist_append_right _ _)
    | true => simp at found
  | case3 escaped c rest _ ih => exact ih.cons_cons c

private theorem count_after_lt {after? : List Char → Option (List Char)} (reads : ReadsCommand after?)
    {text after : List Char} (found : after? text = some after) : after.count '\\' < text.count '\\' := by
  obtain ⟨inner, rfl⟩ := reads found
  simp only [List.cons_append, List.count_cons_self, List.count_append]
  have inside := List.count_le_count_cons (a := '\\') (b := '}') (l := after)
  omega

/-- An erasure leaves a text as it is or takes a backslash away. -/
theorem Idiom.absent_or_count_erase_lt (reads : ReadsCommand idiom.after?) (escaped : Bool) (text : List Char) :
    idiom.Absent escaped text ∨ (idiom.erase escaped text).count '\\' < text.count '\\' := by
  fun_induction Idiom.erase idiom escaped text with
  | case1 => exact .inl trivial
  | case2 escaped c rest after found ih =>
    have fewer : after.count '\\' < (c :: rest).count '\\' := by
      cases escaped with
      | false => exact count_after_lt reads found
      | true => simp at found
    have kept : (idiom.erase false after).count '\\' ≤ after.count '\\' := by
      rcases ih with absent | lost
      · exact Nat.le_of_eq (by rw [Idiom.erase_eq_self absent])
      · exact Nat.le_of_lt lost
    exact .inr (Nat.lt_of_le_of_lt kept fewer)
  | case3 escaped c rest unread ih =>
    rcases ih with absent | lost
    · refine .inl ⟨fun open' => ?_, absent⟩
      simpa [open'] using unread
    · right
      simp only [List.count_cons]
      omega

end erase

/-- What a pass keeps holds of the settled text. -/
theorem settled_induction {pass : List Char → List Char} (kept : List Char → Prop)
    (step : ∀ text, kept text → kept (pass text)) {text : List Char} (start : kept text) :
    kept (settled pass text) := by
  fun_induction settled pass text with
  | case1 text _ ih => exact ih (step text start)
  | case2 => exact start

theorem length_le_pass_settled (pass : List Char → List Char) (text : List Char) :
    (settled pass text).length ≤ (pass (settled pass text)).length := by
  fun_induction settled pass text with
  | case1 _ _ ih => exact ih
  | case2 text kept => exact Nat.le_of_not_lt kept

theorem settled_eq_self {pass : List Char → List Char} {text : List Char} (same : pass text = text) :
    settled pass text = text := by
  rw [settled, if_neg (by rw [same]; exact Nat.lt_irrefl _)]

section erase

variable {idiom : Idiom} (reads : ReadsCommand idiom.after?)
include reads

theorem Uncommented.settled_erase {text : List Char} (clean : Uncommented false text) :
    Uncommented false (settled (idiom.erase false) text) :=
  settled_induction (Uncommented false) (fun _ cleanText => cleanText.erase reads) clean

private theorem settled_erase_sublist (text : List Char) : (settled (idiom.erase false) text).Sublist text :=
  settled_induction (fun later => later.Sublist text)
    (fun later shorter => (idiom.erase_sublist reads false later).trans shorter) (List.Sublist.refl text)

private theorem absent_or_count_settled_lt (text : List Char) :
    idiom.Absent false text ∨ (settled (idiom.erase false) text).count '\\' < text.count '\\' := by
  rcases idiom.absent_or_count_erase_lt reads false text with absent | lost
  · exact .inl absent
  · have shorter : (idiom.erase false text).length < text.length := by
      apply Nat.lt_of_le_of_ne (idiom.erase_sublist reads false text).length_le
      intro same
      rw [(idiom.erase_sublist reads false text).eq_of_length same] at lost
      exact Nat.lt_irrefl _ lost
    rw [settled, if_pos shorter]
    exact .inr (Nat.lt_of_le_of_lt ((settled_erase_sublist reads _).count_le '\\') lost)

end erase

section preamble

private theorem withoutPreamble_eq_or_count_lt (escaped : Bool) (text : List Char) :
    withoutPreamble escaped text = text ∨ (withoutPreamble escaped text).count '\\' < text.count '\\' := by
  induction text generalizing escaped with
  | nil => exact .inl rfl
  | cons c rest ih =>
    unfold withoutPreamble
    split
    next after found =>
      cases escaped with
      | false => exact .inr (count_after_lt readsCommand_preamble found)
      | true => simp at found
    next =>
      rcases ih (escapes escaped c) with same | lost
      · exact .inl (by rw [same])
      · right
        simp only [List.count_cons]
        omega

theorem Uncommented.withoutPreamble {escaped : Bool} {text : List Char} (clean : Uncommented escaped text) :
    Uncommented escaped (withoutPreamble escaped text) := by
  induction text generalizing escaped with
  | nil => trivial
  | cons c rest ih =>
    unfold Markup.withoutPreamble
    split
    next after found =>
      cases escaped with
      | false =>
        obtain ⟨inner, whole⟩ := readsCommand_preamble found
        rw [whole] at clean
        exact clean.behind (by decide)
      | true => simp at found
    next => exact ⟨clean.1, ih clean.2⟩

end preamble

theorem Uncommented.body {text : List Char} (clean : Uncommented false text) : Uncommented false (body text) := by
  have fold (idioms : List Idiom) (listed : ∀ idiom ∈ idioms, ReadsCommand idiom.after?) (text : List Char)
      (clean : Uncommented false text) :
      Uncommented false (idioms.foldl (fun text idiom => settled (idiom.erase false) text) text) := by
    induction idioms generalizing text with
    | nil => exact clean
    | cons idiom idioms ih =>
      exact ih (fun other member => listed other (by simp [member])) _
        (clean.settled_erase (listed idiom (by simp)))
  exact fold declarations (fun _ => readsCommand_declarations) _ clean.withoutPreamble

/-- Removing preamble and declarations leaves a text as it is or takes a backslash away. -/
theorem body_eq_or_count_lt (text : List Char) :
    (body text = text ∧ ∀ idiom ∈ declarations, idiom.Absent false text) ∨
      (body text).count '\\' < text.count '\\' := by
  have fold (idioms : List Idiom) (listed : ∀ idiom ∈ idioms, ReadsCommand idiom.after?) (text : List Char) :
      (idioms.foldl (fun text idiom => settled (idiom.erase false) text) text = text ∧
        ∀ idiom ∈ idioms, idiom.Absent false text) ∨
      (idioms.foldl (fun text idiom => settled (idiom.erase false) text) text).count '\\' < text.count '\\' := by
    induction idioms generalizing text with
    | nil => exact .inl ⟨rfl, by simp⟩
    | cons idiom idioms ih =>
      have reads := listed idiom (by simp)
      have later := ih (fun other member => listed other (by simp [member])) (settled (idiom.erase false) text)
      simp only [List.foldl_cons]
      rcases absent_or_count_settled_lt reads text with absent | lost
      · rw [settled_eq_self (Idiom.erase_eq_self absent)] at later ⊢
        rcases later with ⟨same, others⟩ | lost
        · exact .inl ⟨same, by simpa [absent] using others⟩
        · exact .inr lost
      · rcases later with ⟨same, -⟩ | fewer
        · exact .inr (by rw [same]; exact lost)
        · exact .inr (Nat.lt_trans fewer lost)
  have whole := fold declarations (fun _ => readsCommand_declarations) (withoutPreamble false text)
  rcases withoutPreamble_eq_or_count_lt false text with same | lost
  · rw [body]
    rwa [same] at whole ⊢
  · right
    rcases whole with ⟨same, -⟩ | fewer
    · rw [body, same]
      exact lost
    · exact Nat.lt_trans fewer lost

end Vitae.Markup
