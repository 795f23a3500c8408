import Vitae.Proofs.EscapedText

/-! Escaped link targets. With a backslash before every punctuation character a target reaches its link as it is: the
passes towards the normal form find nothing in it, no brace of it counts, and every escape is resolved at the end. -/

namespace Vitae

open Markup Transpile

namespace Notation

def escapedPunctuation (c : Char) : List Char :=
  if isAsciiPunctuation c then ['\\', c] else [c]

/-- A backslash stands before every punctuation character of a target. -/
def escapedTarget (target : List Char) : List Char :=
  target.flatMap escapedPunctuation

def urlText (target : String) : String :=
  .ofList (commandText "url" ++ braced (escapedTarget target.toList))

section characters

variable {c : Char}

private theorem escapedPunctuation_plain (plain : isAsciiPunctuation c = false) : escapedPunctuation c = [c] := by
  simp [escapedPunctuation, plain]

private theorem ne_of_plain (plain : isAsciiPunctuation c = false) {mark : Char}
    (punctuation : isAsciiPunctuation mark = true) :
    c ≠ mark := by
  rintro rfl
  exact absurd punctuation (by simp [plain])

private theorem not_isAlphanum_of_punctuation (punctuation : isAsciiPunctuation c = true) : c.isAlphanum = false := by
  simp only [isAsciiPunctuation, Bool.and_eq_true, Bool.not_eq_true'] at punctuation
  exact punctuation.2

/-- What is escaped begins no word that declares. -/
theorem not_declaringLetter_of_punctuation (punctuation : isAsciiPunctuation c = true) : c ∉ declaringLetters := by
  intro letter
  have letters : declaringLetters.all Char.isAlphanum = true := by decide
  exact absurd (List.all_eq_true.mp letters c letter) (by simp [not_isAlphanum_of_punctuation punctuation])

private theorem balanced_escapedPunctuation (c : Char) : Balanced (escapedPunctuation c) := by
  cases punctuation : isAsciiPunctuation c with
  | true =>
    rw [escapedPunctuation, if_pos punctuation]
    exact fun _ _ => rfl
  | false =>
    rw [escapedPunctuation_plain punctuation]
    refine balanced_of_forall (List.forall_mem_singleton.mpr ⟨?_, ?_, ?_⟩)
    all_goals exact ne_of_plain punctuation (by decide)

private theorem inert_escapedPunctuation (noSlash : c ≠ '\\') (oneLine : c ≠ '\n') {rest : List Char}
    (later : Inert false rest) :
    Inert false (escapedPunctuation c ++ rest) := by
  have behind : Inert (c == '\\') rest := by rwa [beq_eq_false_iff_ne.mpr noSlash]
  cases punctuation : isAsciiPunctuation c with
  | true =>
    rw [escapedPunctuation, if_pos punctuation]
    exact ⟨by decide, ⟨by decide, by decide⟩, oneLine, ⟨noSlash, not_declaringLetter_of_punctuation punctuation⟩, behind⟩
  | false =>
    rw [escapedPunctuation_plain punctuation]
    exact ⟨oneLine, ⟨ne_of_plain punctuation (by decide), ne_of_plain punctuation (by decide)⟩, behind⟩

end characters

section targets

variable {target : List Char}

private theorem balanced_escapedTarget (target : List Char) : Balanced (escapedTarget target) := by
  induction target with
  | nil => exact balanced_nil
  | cons c rest ih => exact (balanced_escapedPunctuation c).append ih

private theorem unescapeTarget_escapedTarget (target : List Char) : unescapeTarget (escapedTarget target) = target := by
  induction target with
  | nil => rfl
  | cons c rest ih =>
    rw [escapedTarget, List.flatMap_cons]
    cases punctuation : isAsciiPunctuation c with
    | true =>
      rw [escapedPunctuation, if_pos punctuation]
      simp only [List.cons_append, List.nil_append, unescapeTarget, if_pos punctuation]
      exact congrArg _ ih
    | false =>
      have noSlash : c ≠ '\\' := ne_of_plain punctuation (by decide)
      rw [escapedPunctuation_plain punctuation, List.singleton_append, unescapeTarget.eq_2 _ _ fun _ _ slash _ => noSlash slash]
      exact congrArg _ ih

/-- White space stays where it is, so a target without any at its ends has none there when it is escaped. -/
theorem trim_escapedTarget (trimmed : Text.trim target = target) :
    Text.trim (escapedTarget target) = escapedTarget target := by
  obtain ⟨start, stop⟩ := Text.trim_eq_self_iff.mp trimmed
  refine Text.trim_eq_self_iff.mpr ⟨fun d head => ?_, fun d last => ?_⟩
  · cases target with
    | nil => simp [escapedTarget] at head
    | cons c rest =>
      rw [escapedTarget, List.flatMap_cons] at head
      cases punctuation : isAsciiPunctuation c with
      | true =>
        obtain rfl : '\\' = d := by simpa [escapedPunctuation, punctuation] using head
        decide
      | false =>
        obtain rfl : c = d := by simpa [escapedPunctuation, punctuation] using head
        exact start c rfl
  · rcases List.eq_nil_or_concat target with rfl | ⟨before, c, rfl⟩
    · simp [escapedTarget] at last
    · have own : (escapedPunctuation c).getLast? = some c := by
        unfold escapedPunctuation
        split <;> rfl
      rw [List.concat_eq_append] at stop last
      rw [escapedTarget, List.flatMap_append, List.flatMap_singleton, List.getLast?_append, own] at last
      exact stop d (by simpa using last)

private theorem inert_escapedTarget (noSlash : '\\' ∉ target) (oneLine : '\n' ∉ target) {rest : List Char}
    (later : Inert false rest) : Inert false (escapedTarget target ++ rest) := by
  induction target with
  | nil => exact later
  | cons c target ih =>
    rw [List.mem_cons, not_or] at noSlash oneLine
    rw [escapedTarget, List.flatMap_cons, List.append_assoc]
    exact inert_escapedPunctuation (Ne.symm noSlash.1) (Ne.symm oneLine.1) (ih noSlash.2 oneLine.2)

end targets

section markup

private theorem toList_urlText (target : String) :
    (urlText target).toList = '\\' :: 'u' :: 'r' :: 'l' :: braced (escapedTarget target.toList) := by
  rw [urlText, String.toList_ofList]
  rfl

variable {target : String} (noSlash : '\\' ∉ target.toList) (oneLine : '\n' ∉ target.toList)
include noSlash oneLine

private theorem inert_behind_url : Inert false ('r' :: 'l' :: braced (escapedTarget target.toList)) := by
  have closed : Inert false ['\x7d'] := ⟨by decide, ⟨by decide, by decide⟩, trivial⟩
  have inside : Inert false (escapedTarget target.toList ++ ['\x7d']) := inert_escapedTarget noSlash oneLine closed
  exact ⟨by decide, ⟨by decide, by decide⟩, by decide, ⟨by decide, by decide⟩, by decide, ⟨by decide, by decide⟩, inside⟩

/-- The command of a link begins with a letter that a declaration begins with, too, but declares nothing. -/
theorem not_declares_url : ¬ Declares ('\\' :: 'u' :: 'r' :: 'l' :: braced (escapedTarget target.toList)) := by
  rintro ⟨idiom, listed, suffix, tail, read⟩
  obtain ⟨c, letter, rest, rfl⟩ := declaringLetter_of_read listed read
  rcases List.suffix_cons_iff.mp tail with same | later
  · rw [same] at read
    simp only [declarations, List.mem_cons, List.not_mem_nil, or_false] at listed
    rcases listed with rfl | rfl | rfl
    all_goals exact read rfl
  · rcases List.suffix_cons_iff.mp later with same | behind
    · exact absurd (List.cons.inj same).1 (by decide)
    · exact (inert_behind_url noSlash oneLine).behind_slash behind letter

private theorem normalize_urlText {options : NormalOptions} (uncomposed : options.composeUnicode = false) :
    Markup.normalize options (urlText target) = urlText target := by
  have inert := inert_behind_url noSlash oneLine
  have steady : Steady false ('\\' :: 'u' :: 'r' :: 'l' :: braced (escapedTarget target.toList)) :=
    ⟨by simp, by simp, by simp [pipeSign], by simp, by simp, by simp [pipeSign], inert.steady⟩
  have blank : collapseBlankLines ('\\' :: 'u' :: 'r' :: 'l' :: braced (escapedTarget target.toList)) =
      '\\' :: 'u' :: 'r' :: 'l' :: braced (escapedTarget target.toList) := by
    rw [collapseBlankLines.eq_3 _ _ (by simp), collapseBlankLines.eq_3 _ _ (by simp), inert.collapseBlankLines]
  have same : normalFormWith Text.compose options ('\\' :: 'u' :: 'r' :: 'l' :: braced (escapedTarget target.toList)) = _ :=
    normalFormWith_of_steady steady (fun composed => absurd composed (by simp [uncomposed])) (fun _ => blank)
      (body_of_not_declares (not_declares_url noSlash oneLine))
  rw [Markup.normalize, normalizeWith, toList_urlText, same, ← toList_urlText, String.ofList_toList]

end markup

private theorem yields_url {options : TranspileOptions} {levels : Nat} {top : Bool} {target : String}
    (trimmed : Text.trim target.toList = target.toList) (tail : List Char) :
    Yields options levels top (commandText "url" ++ braced (escapedTarget target.toList)) tail
      [.node (.link target (.text target))] := by
  have argument := argumentOr_braced (balanced_escapedTarget target.toList)
    (show Text.isInlineSpace '\x7b' = false by decide) tail
  have shape : commandConstruct top "url" (braced (escapedTarget target.toList) ++ tail) =
      (.url (some ⟨escapedTarget target.toList, true⟩), tail) := by
    change (Construct.url (argumentOr Text.isInlineSpace _).1, (argumentOr Text.isInlineSpace _).2) = _
    rw [argument]
  have same : Transpile.target ⟨escapedTarget target.toList, true⟩ = target := by
    rw [Transpile.target, trim_escapedTarget trimmed, unescapeTarget_escapedTarget, String.ofList_toList]
  refine yields_commandText (by decide) (endsName_braced _ tail) shape ?_
  simp [elaborated, noteUnclosed, linkParts, same]

end Notation

open Notation

/-- A link target of one line without backslashes, escaped and put into a link, is the target and the label of that
link, and nothing is warned about, where nothing is composed. -/
theorem parse_urlText (options : TranspileOptions) {target : String} (uncomposed : options.normal.composeUnicode = false)
    (noSlash : '\\' ∉ target.toList) (oneLine : '\n' ∉ target.toList) (trimmed : target.trimmed = target) :
    parse options (urlText target) = ⟨[.link target (.text target)], []⟩ := by
  have whole : Text.trim target.toList = target.toList := by
    simpa only [String.trimmed, String.toList_ofList] using congrArg String.toList trimmed
  have read : Yields options options.maxDepth true (commandText "url" ++ braced (escapedTarget target.toList)) [] _ :=
    yields_url whole []
  rw [Yields, List.append_nil, parts_nil, map_pure, List.append_nil] at read
  have reads : Transpile.sequence options (options.maxDepth + 1) true (urlText target).toList =
      pure [.link target (.text target)] := by
    rw [urlText, String.toList_ofList, sequence_succ, read]
    rfl
  rw [parse, normalize_urlText noSlash oneLine uncomposed, transpile, reads]
  rfl

/-- A target in which every pass could find something, were it not escaped. -/
def searchTarget : String :=
  "https://vitae.dev/?q=100%&r=$|$_\x7b~ [a]#x"

theorem parse_urlText_searchTarget :
    '\\' ∉ searchTarget.toList ∧ '\n' ∉ searchTarget.toList ∧ searchTarget.trimmed = searchTarget ∧
      parse { normal := { composeUnicode := false } } (urlText searchTarget) =
        ⟨[.link searchTarget (.text searchTarget)], []⟩ := by
  have noSlash : '\\' ∉ searchTarget.toList := by decide
  have oneLine : '\n' ∉ searchTarget.toList := by decide
  have trimmed : searchTarget.trimmed = searchTarget := by decide
  exact ⟨noSlash, oneLine, trimmed, parse_urlText _ rfl noSlash oneLine trimmed⟩

end Vitae
