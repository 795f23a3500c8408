import Vitae.Proofs.BlankLines
import Vitae.Proofs.Composition

/-! Normalizing what is normal already. Every pass but the removal of declarations finds nothing to do
there, and what that removal takes away no later pass brings back. So normalizing again changes a normal
form exactly where removing one declaration has put together another that is looked for earlier. -/

namespace Vitae.Markup

section steady

private theorem prefix_of_collapseBlankLines {word text : List Char} (oneLine : '\n' ∉ word)
    (found : word <+: collapseBlankLines text) : word <+: text := by
  induction word generalizing text with
  | nil => exact List.nil_prefix
  | cons c word ih =>
    simp only [List.mem_cons, not_or] at oneLine
    cases text with
    | nil => simp [collapseBlankLines] at found
    | cons d rest =>
      by_cases line : d = '\n'
      · subst line
        rw [collapseBlankLines_newline] at found
        split at found
        all_goals exact absurd (List.cons_prefix_cons.mp found).1.symm oneLine.1
      · rw [collapseBlankLines_other line] at found
        obtain ⟨rfl, later⟩ := List.cons_prefix_cons.mp found
        exact List.cons_prefix_cons.mpr ⟨rfl, ih oneLine.2 later⟩

private theorem Steady.behind {behind : Bool} {before after : List Char} {c : Char} (other : c ≠ '\\')
    (steady : Steady behind (before ++ c :: after)) : Steady false after := by
  induction before generalizing behind with
  | nil =>
    have tail := steady.2.2.2
    rwa [beq_eq_false_iff_ne.mpr other] at tail
  | cons d before ih => exact ih steady.2.2.2

theorem Steady.collapseBlankLines {behind : Bool} {text : List Char} (steady : Steady behind text) :
    Steady behind (collapseBlankLines text) := by
  have newline (behind : Bool) {later : List Char} (tail : Steady false later) : Steady behind ('\n' :: later) :=
    ⟨by simp, by simp, by simp [pipeSign], tail⟩
  fun_induction Markup.collapseBlankLines text generalizing behind with
  | case1 => trivial
  | case2 rest many ih =>
    have tail : Steady false rest := steady.2.2.2
    refine newline behind (newline false (ih ?_))
    change Steady false (behindBlank rest)
    rcases (behindBlank_spec rest).2 with same | ⟨gap, same⟩
    · rwa [same]
    · rw [same] at tail
      exact tail.behind (by decide)
  | case3 rest few ih => exact newline behind (ih steady.2.2.2)
  | case4 c rest other ih =>
    refine ⟨steady.1, steady.2.1, fun sign => steady.2.2.1 ?_, ih steady.2.2.2⟩
    obtain ⟨rfl, bar⟩ := List.cons_prefix_cons.mp sign
    exact List.cons_prefix_cons.mpr ⟨rfl, prefix_of_collapseBlankLines (by decide) bar⟩

theorem Steady.uncommented {behind : Bool} {text : List Char} (steady : Steady behind text) :
    Uncommented behind text := by
  induction text generalizing behind with
  | nil => trivial
  | cons c rest ih =>
    refine ⟨steady.2.1, ?_⟩
    exact escapes_eq steady.1 ▸ ih steady.2.2.2

private theorem Steady.pipe?_eq_none {text : List Char} (steady : Steady false text) : pipe? text = none := by
  rw [Option.eq_none_iff_forall_ne_some]
  intro after found
  simp only [pipe?, Option.map_eq_some_iff] at found
  obtain ⟨middle, sign, -⟩ := found
  have unguarded (later : List Char) : ¬ Steady false (pipeSign ++ later) :=
    fun steady => absurd (steady.2.2.1 (List.prefix_append pipeSign later)) (by decide)
  obtain ⟨before, whole, kinds⟩ := pipe?_sign sign
  rw [whole] at steady
  rcases kinds with rfl | ⟨inner, c, rfl, other⟩
  · exact unguarded middle steady
  · rw [List.append_assoc, List.append_assoc] at steady
    exact unguarded middle (steady.behind other)

private theorem Steady.separator?_eq_none {behind lineStart : Bool} {c : Char} {rest : List Char}
    (steady : Steady behind (c :: rest)) (start : lineStart = true → behind = false) :
    separator? lineStart (c :: rest) = none := by
  have unread {text : List Char} (steady : Steady false text) (kept : List Char) : keeping? kept text = none := by
    simp [keeping?, pipe, steady.pipe?_eq_none]
  have first : (if lineStart then keeping? [] (c :: rest) else none) = none := by
    cases lineStart with
    | false => rfl
    | true =>
      rw [start rfl] at steady
      exact unread steady []
  unfold separator?
  split
  next found => exact absurd found (by simp [first])
  next =>
    split
    next same =>
      obtain ⟨rfl, rfl⟩ := List.cons.inj same
      exact absurd (steady.2.2.2.1 rfl) (by decide)
    next => rfl
    next pair slash same =>
      obtain ⟨rfl, rfl⟩ := List.cons.inj same
      have tail := steady.2.2.2
      rw [beq_eq_false_iff_ne.mpr slash] at tail
      exact unread tail [c]
    next => rfl

private theorem Steady.unseparated {behind lineStart : Bool} {text : List Char} (steady : Steady behind text)
    (start : lineStart = true → behind = false) : Unseparated lineStart text := by
  induction text generalizing behind lineStart with
  | nil => trivial
  | cons c rest ih =>
    refine ⟨steady.separator?_eq_none start, ih steady.2.2.2 fun line => ?_⟩
    rw [beq_iff_eq.mp line]
    rfl

private theorem Steady.replace_eq_self {behind : Bool} {text : List Char} (steady : Steady behind text) :
    lineBreak.replace lineBreakMark text = text := by
  fun_induction Idiom.replace lineBreak lineBreakMark text generalizing behind with
  | case1 => rfl
  | case2 c rest after found =>
    obtain ⟨gap, whole, -⟩ := lineBreak?_eq_some found
    rw [whole] at steady
    exact absurd (steady.2.2.2.1 rfl) (by decide)
  | case3 c rest _ ih => rw [ih steady.2.2.2]

end steady

section composition

variable {compose : List Char → List Char} (lawful : Composition compose)
include lawful

private theorem Composition.collapse_fixed {piece text : List Char} (free : Plain piece)
    (fixed : compose (piece ++ text) = piece ++ text) :
    compose (piece ++ collapseBlankLines text) = piece ++ collapseBlankLines text := by
  have noPiece : Plain [] := by simp [Plain]
  fun_induction collapseBlankLines text generalizing piece with
  | case1 => exact fixed
  | case2 rest many ih =>
    obtain ⟨same, tail⟩ := lawful.split_fixed free (by decide) fixed
    have behind : compose (behindBlank rest) = behindBlank rest := by
      rcases (behindBlank_spec rest).2 with none | ⟨gap, some⟩
      · rwa [none]
      · rw [some] at tail
        exact lawful.behind_fixed (by decide) tail
    have later : compose (collapseBlankLines (behindBlank rest)) = collapseBlankLines (behindBlank rest) :=
      ih noPiece behind
    change compose (piece ++ '\n' :: '\n' :: collapseBlankLines (behindBlank rest)) = _
    rw [lawful.split _ _ _ (by decide), lawful.cons (by decide), same, later]
    rfl
  | case3 rest few ih =>
    obtain ⟨same, tail⟩ := lawful.split_fixed free (by decide) fixed
    have later : compose (collapseBlankLines rest) = collapseBlankLines rest := ih noPiece tail
    rw [lawful.split _ _ _ (by decide), same, later]
  | case4 c rest other ih =>
    cases markup : isMarkup c with
    | true =>
      obtain ⟨same, tail⟩ := lawful.split_fixed free markup fixed
      have later : compose (collapseBlankLines rest) = collapseBlankLines rest := ih noPiece tail
      rw [lawful.split _ _ _ markup, same, later]
    | false =>
      have longer : Plain (piece ++ [c]) := by
        intro d member
        rcases List.mem_append.mp member with first | last
        · exact free d first
        · rwa [List.mem_singleton.mp last]
      simpa using ih longer (by simpa using fixed)

end composition

section counts

private theorem count_markSeparators_le (lineStart : Bool) (text : List Char) :
    (markSeparators lineStart text).count '\\' ≤ text.count '\\' := by
  fun_induction markSeparators lineStart text with
  | case1 lineStart text kept after found ih =>
    obtain ⟨gap, c, rfl, -, -⟩ := separator?_eq_some found
    have behind := List.count_le_count_cons (a := '\\') (b := c) (l := after)
    have mark : (separatorMark :: markSeparators false after).count '\\' = (markSeparators false after).count '\\' :=
      List.count_cons_of_ne (by decide)
    simp only [List.count_append, mark]
    omega
  | case2 => exact Nat.le_refl _
  | case3 lineStart c rest _ ih =>
    simp only [List.count_cons]
    omega

private theorem count_replace_le (text : List Char) :
    (lineBreak.replace lineBreakMark text).count '\\' ≤ text.count '\\' := by
  fun_induction Idiom.replace lineBreak lineBreakMark text with
  | case1 => exact Nat.le_refl _
  | case2 c rest after found ih =>
    obtain ⟨gap, whole, -⟩ := lineBreak?_eq_some found
    have mark : (lineBreakMark :: lineBreak.replace lineBreakMark after).count '\\' =
        (lineBreak.replace lineBreakMark after).count '\\' := List.count_cons_of_ne (by decide)
    rw [whole, mark]
    simp only [List.cons_append, List.count_cons_self, List.count_append]
    omega
  | case3 c rest _ ih =>
    simp only [List.count_cons]
    omega

end counts

/-- Holds where a declaration or a document boundary can be read somewhere in a text. -/
def Declares (text : List Char) : Prop :=
  ∃ idiom ∈ declarations, ∃ suffix, suffix <:+ text ∧ idiom.after? suffix ≠ none

/-- A declaration is read up to a closing brace. -/
theorem not_declares_of_unbraced {text : List Char} (unbraced : '}' ∉ text) : ¬ Declares text := by
  rintro ⟨idiom, listed, suffix, tail, read⟩
  obtain ⟨after, found⟩ := Option.ne_none_iff_exists'.mp read
  obtain ⟨inner, rfl⟩ := readsCommand_declarations listed found
  exact unbraced (tail.subset (by simp))

private theorem Idiom.absent_of_suffix {idiom : Idiom} {escaped : Bool} {text : List Char}
    (none : ∀ suffix, suffix <:+ text → idiom.after? suffix = none) : idiom.Absent escaped text := by
  induction text generalizing escaped with
  | nil => trivial
  | cons c rest ih =>
    refine ⟨fun _ => none _ (List.suffix_refl _), ih fun suffix tail => ?_⟩
    exact none suffix (tail.trans (List.suffix_cons c rest))

/-- In steady text no backslash is escaped, so every declaration counts. -/
theorem Steady.absent_iff {idiom : Idiom} (reads : ReadsCommand idiom.after?) {behind : Bool} {text : List Char}
    (steady : Steady behind text) :
    idiom.Absent behind text ↔ ∀ suffix, suffix <:+ text → idiom.after? suffix = none := by
  have command {text : List Char} (found : idiom.after? text ≠ none) : ∃ rest, text = '\\' :: rest := by
    obtain ⟨after, read⟩ := Option.ne_none_iff_exists'.mp found
    obtain ⟨inner, whole⟩ := reads read
    exact ⟨inner ++ '}' :: after, by rw [whole, List.cons_append]⟩
  refine ⟨fun absent => ?_, Idiom.absent_of_suffix⟩
  induction text generalizing behind with
  | nil =>
    intro suffix tail
    rw [List.suffix_nil.mp tail]
    refine Decidable.byContradiction fun found => ?_
    obtain ⟨rest, same⟩ := command found
    contradiction
  | cons c rest ih =>
    obtain ⟨here, later⟩ := absent
    intro suffix tail
    rcases List.suffix_cons_iff.mp tail with rfl | tail
    · refine Decidable.byContradiction fun found => found (here ?_)
      obtain ⟨after, same⟩ := command found
      exact steady.1 (List.cons.inj same).1
    · have state := escapes_eq steady.1
      exact ih steady.2.2.2 (state ▸ later) suffix tail

section normalForm

variable {compose : List Char → List Char} {options : NormalOptions}

/-- A normal form is steady where composing keeps the outline of every text. -/
theorem steady_normalFormWith_of_outline
    (kept : options.composeUnicode = true → ∀ text, outline (compose text) = outline text) (markup : List Char) :
    Steady false (normalFormWith compose options markup) := by
  have clean : Uncommented false (body (withoutComments (.content false) markup)) :=
    (uncommented_withoutComments markup false).1.body
  have separated := settled_induction (Uncommented false) (fun _ clean => clean.markSeparators true) clean
  have marked := steady_replace separated (guarded_settled _) (by simp) (by simp)
  unfold normalFormWith
  cases composes : options.composeUnicode with
  | false => cases options.collapseBlankLines with
    | false => exact marked
    | true => exact marked.collapseBlankLines
  | true =>
    have composed := marked.of_outline (kept composes _).symm
    cases options.collapseBlankLines with
    | false => exact composed
    | true => exact composed.collapseBlankLines

private theorem steady_normalFormWith (lawful : options.composeUnicode = true → Composition compose)
    (markup : List Char) :
    Steady false (normalFormWith compose options markup) :=
  steady_normalFormWith_of_outline (fun composes => (lawful composes).outline_eq) markup

/-- The last two passes have nothing left to do on a normal form. -/
theorem normalFormWith_settled (lawful : options.composeUnicode = true → Composition compose) (markup : List Char) :
    (options.composeUnicode = true →
      compose (normalFormWith compose options markup) = normalFormWith compose options markup) ∧
    (options.collapseBlankLines = true →
      collapseBlankLines (normalFormWith compose options markup) = normalFormWith compose options markup) := by
  unfold normalFormWith
  refine ⟨fun composes => ?_, fun collapses => ?_⟩
  · simp only [composes, if_true]
    split
    · exact (lawful composes).collapse_fixed (show Plain [] by simp [Plain]) ((lawful composes).idempotent _)
    · exact (lawful composes).idempotent _
  · simp only [collapses, if_true]
    exact collapseBlankLines_idempotent _

/-- Where nothing is there to compose, composing changes no pass. -/
theorem normalFormWith_of_composed {markup : List Char}
    (composed : compose (normalFormWith id { options with collapseBlankLines := false } markup) =
      normalFormWith id { options with collapseBlankLines := false } markup) :
    normalFormWith compose options markup = normalFormWith id options markup := by
  simp only [normalFormWith, id, ite_self, Bool.false_eq_true, if_false] at composed ⊢
  rw [composed, ite_self]

theorem normalFormWith_of_steady {text : List Char} (steady : Steady false text)
    (composed : options.composeUnicode = true → compose text = text)
    (collapsed : options.collapseBlankLines = true → collapseBlankLines text = text) (same : body text = text) :
    normalFormWith compose options text = text := by
  have separated : settled (markSeparators true) text = text :=
    settled_eq_self (markSeparators_eq_self (steady.unseparated (by simp)))
  unfold normalFormWith
  simp only [withoutComments_eq_self steady.uncommented, same, separated, steady.replace_eq_self]
  cases composes : options.composeUnicode with
  | false => cases collapses : options.collapseBlankLines with
    | false => rfl
    | true => exact collapsed collapses
  | true => cases collapses : options.collapseBlankLines with
    | false => exact composed composes
    | true =>
      simp only [if_true, composed composes]
      exact collapsed collapses

private theorem count_normalFormWith_le (lawful : options.composeUnicode = true → Composition compose)
    (text : List Char) :
    (normalFormWith compose options text).count '\\' ≤
      (body (withoutComments (.content false) text)).count '\\' := by
  have separated : (settled (markSeparators true) (body (withoutComments (.content false) text))).count '\\' ≤
      (body (withoutComments (.content false) text)).count '\\' :=
    settled_induction (fun later => later.count '\\' ≤ (body (withoutComments (.content false) text)).count '\\')
      (fun later fewer => Nat.le_trans (count_markSeparators_le true later) fewer) (Nat.le_refl _)
  have marked := Nat.le_trans (count_replace_le _) separated
  have collapsed (text : List Char) : (collapseBlankLines text).count '\\' = text.count '\\' :=
    count_collapseBlankLines (by decide) (by decide) text
  unfold normalFormWith
  cases composes : options.composeUnicode with
  | false => cases options.collapseBlankLines with
    | false => exact marked
    | true => exact Nat.le_trans (Nat.le_of_eq (collapsed _)) marked
  | true =>
    rw [← (lawful composes).count_eq] at marked
    cases options.collapseBlankLines with
    | false => exact marked
    | true => exact Nat.le_trans (Nat.le_of_eq (collapsed _)) marked

end normalForm

private theorem boundary_of_afterOpening? {text after : List Char} (found : afterOpening? text = some after) :
    ∃ suffix, suffix <:+ text ∧ documentBoundary.after? suffix ≠ none := by
  induction text with
  | nil => simp [afterOpening?] at found
  | cons c rest ih =>
    simp only [afterOpening?, Option.orElse_eq_orElse, Option.orElse_eq_or, Option.or_eq_some_iff,
      Option.bind_eq_bind, Option.bind_eq_some_iff] at found
    rcases found with ⟨behind, word, name⟩ | ⟨-, later⟩
    · refine ⟨c :: rest, List.suffix_refl _, ?_⟩
      simp [documentBoundary, documentBoundary?, word, name]
    · obtain ⟨suffix, tail, read⟩ := ih later
      exact ⟨suffix, tail.trans (List.suffix_cons c rest), read⟩

private theorem withoutPreamble_eq_self {text : List Char} (none : ¬ Declares text) (escaped : Bool) :
    withoutPreamble escaped text = text := by
  induction text generalizing escaped with
  | nil => rfl
  | cons c rest ih =>
    have smaller : ¬ Declares rest := fun ⟨idiom, listed, suffix, tail, read⟩ =>
      none ⟨idiom, listed, suffix, tail.trans (List.suffix_cons c rest), read⟩
    unfold withoutPreamble
    split
    next after found =>
      cases escaped with
      | true => simp at found
      | false =>
        simp only [Bool.false_eq_true, if_false, preamble?, Option.bind_eq_bind, Option.bind_eq_some_iff] at found
        obtain ⟨behind, word, opening⟩ := found
        obtain ⟨suffix, tail, read⟩ := boundary_of_afterOpening? opening
        have whole : behind <:+ c :: rest := ⟨classWord, (expect?_eq_some_iff.mp word).symm⟩
        exact absurd ⟨documentBoundary, by simp [declarations], suffix, tail.trans whole, read⟩ none
    next => rw [ih smaller]

private theorem body_of_absent {text : List Char} (none : ¬ Declares text)
    (absent : ∀ idiom ∈ declarations, idiom.Absent false text) : body text = text := by
  have fold (idioms : List Idiom) (absent : ∀ idiom ∈ idioms, idiom.Absent false text) :
      idioms.foldl (fun text idiom => settled (idiom.erase false) text) text = text := by
    induction idioms with
    | nil => rfl
    | cons idiom idioms ih =>
      rw [List.foldl_cons, settled_eq_self (Idiom.erase_eq_self (absent idiom (by simp)))]
      exact ih fun other member => absent other (by simp [member])
  rw [body, withoutPreamble_eq_self none]
  exact fold declarations absent

/-- All that is removed from markup without comments is a declaration or a preamble. -/
theorem body_of_not_declares {text : List Char} (none : ¬ Declares text) : body text = text := by
  refine body_of_absent none fun idiom listed => Idiom.absent_of_suffix fun suffix tail => ?_
  exact Decidable.byContradiction fun read => none ⟨idiom, listed, suffix, tail, read⟩

/-- Normalizing again changes nothing exactly where no declaration can be read in the normal form. -/
theorem normalizeWith_idempotent_iff {compose : List Char → List Char} {options : NormalOptions}
    (lawful : options.composeUnicode = true → Composition compose) (markup : String) :
    normalizeWith compose options (normalizeWith compose options markup) = normalizeWith compose options markup ↔
      ¬ Declares (normalizeWith compose options markup).toList := by
  have steady := steady_normalFormWith lawful markup.toList
  have last := normalFormWith_settled lawful markup.toList
  simp only [normalizeWith, String.toList_ofList]
  generalize normalFormWith compose options markup.toList = normal at steady last
  rw [String.ofList_inj]
  constructor
  · rintro same ⟨idiom, listed, suffix, tail, read⟩
    have fewer := count_normalFormWith_le lawful normal
    rw [withoutComments_eq_self steady.uncommented, same] at fewer
    rcases body_eq_or_count_lt normal with ⟨-, absent⟩ | lost
    · exact read ((steady.absent_iff (readsCommand_declarations listed)).mp (absent idiom listed) suffix tail)
    · exact absurd lost (Nat.not_lt_of_le fewer)
  · intro none
    exact normalFormWith_of_steady steady last.1 last.2 (body_of_not_declares none)

private theorem composition_id : Composition id where
  idempotent _ := rfl
  eq_nil_iff _ := Iff.rfl
  plain _ free := free
  split _ _ _ _ := rfl

/-- Between the halves of a package declaration, a document boundary, which is looked for last. -/
def splicedDeclaration : String :=
  "\\use\\begin\x7bdocument\x7dpackage\x7bx\x7d"

/-- Below U+0300, where composing is the identity, the boundary leaves the declaration behind. -/
theorem splicedDeclaration_not_idempotent :
    Composition id ∧ normalizeWith id {} (normalizeWith id {} splicedDeclaration) ≠ normalizeWith id {} splicedDeclaration := by
  refine ⟨composition_id, fun same => ?_⟩
  refine (normalizeWith_idempotent_iff (fun _ => composition_id) splicedDeclaration).mp same ?_
  refine ⟨declaration, by simp [declarations], "\\usepackage\x7bx\x7d".toList, ?_, by decide +kernel⟩
  have left : normalizeWith id {} splicedDeclaration = "\\usepackage\x7bx\x7d" := by decide +kernel
  exact ⟨[], by rw [left, List.nil_append]⟩

theorem normalize_splicedDeclaration :
    normalize {} (normalize {} splicedDeclaration) ≠ normalize {} splicedDeclaration := by
  decide +kernel

end Vitae.Markup
