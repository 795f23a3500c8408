import Vitae.Proofs.ColumnSeams
import Vitae.Proofs.PrintedLinks

/-! Escaped Markdown. Escaping puts backslashes in front of special characters and changes nothing else, and Markdown
joins, trims, marks and links an escaped text as it does the text itself. So what is rendered with escaping is what is
rendered without, backslashes apart, line by line. -/

namespace Vitae.Markdown

open Render
open Html (Always always_pure always_consult)

section escaped

/-- Trailing white space is that of what stands behind the last character that is none. -/
theorem trailing_behind {c : Char} (shown : Text.isSpace c = false) (before text : List Char) :
    Text.trailing (before ++ c :: text) = Text.trailing text := by
  have here : before ++ c :: text = before ++ [c] ++ text := by simp
  rw [here]
  by_cases blank : ∀ d ∈ text, Text.isSpace d = true
  · have none : Text.trailing (before ++ [c]) = [] := by simp [Text.trailing, shown]
    rw [Text.trailing_append_blank blank, none, ← List.nil_append text, Text.trailing_append_blank blank]
    rfl
  · have some : text.any (!Text.isSpace ·) = true := by simpa using blank
    exact Text.trailing_append_of_any some _

/-- A text, and what it is with backslashes in front of special characters in it. -/
inductive Escaped : List Char → List Char → Prop
  | nil : Escaped [] []
  | same (c : Char) {raw text : List Char} (rest : Escaped raw text) : Escaped (c :: raw) (c :: text)
  | special {c : Char} (special : isSpecial c = true) {raw text : List Char} (rest : Escaped raw text) :
      Escaped (c :: raw) ('\\' :: c :: text)

private theorem not_isSpace_of_isSpecial {c : Char} (special : isSpecial c = true) : Text.isSpace c = false := by
  simp only [isSpecial, Bool.or_eq_true, beq_iff_eq] at special
  rcases special with (((((rfl | rfl) | rfl) | rfl) | rfl) | rfl) | rfl <;> decide

private theorem escaped_self (text : List Char) : Escaped text text := by
  induction text with
  | nil => exact .nil
  | cons c rest ih => exact .same c ih

theorem escaped_escape (options : RenderOptions) (value : String) : Escaped value.toList (escape options value).toList := by
  unfold escape
  split
  next =>
    rw [String.toList_ofList]
    induction value.toList with
    | nil => exact .nil
    | cons c rest ih =>
      rw [List.flatMap_cons]
      cases special : isSpecial c with
      | true => exact .special special ih
      | false => exact .same c ih
  next => exact escaped_self _

namespace Escaped

variable {raw text others rest word : List Char} (escaped : Escaped raw text)
include escaped

theorem append (more : Escaped others rest) : Escaped (raw ++ others) (text ++ rest) := by
  induction escaped with
  | nil => exact more
  | same c _ ih => exact .same c ih
  | special special _ ih => exact .special special ih

private theorem surround (before after : List Char) : Escaped (before ++ raw ++ after) (before ++ text ++ after) :=
  ((escaped_self before).append escaped).append (escaped_self after)

private theorem all_isSpace : raw.all Text.isSpace = text.all Text.isSpace := by
  induction escaped with
  | nil => rfl
  | same c _ ih => rw [List.all_cons, List.all_cons, ih]
  | special special _ ih => simp [not_isSpace_of_isSpecial special]

private theorem eq_of_blank (blank : raw.all Text.isSpace = true) : text = raw := by
  induction escaped with
  | nil => rfl
  | same c _ ih =>
    rw [List.all_cons, Bool.and_eq_true] at blank
    rw [ih blank.2]
  | special special _ =>
    rw [List.all_cons, not_isSpace_of_isSpecial special] at blank
    contradiction

theorem leading : Text.leading text = Text.leading raw := by
  unfold Text.leading
  induction escaped with
  | nil => rfl
  | same c _ ih => rw [List.takeWhile_cons, List.takeWhile_cons, ih]
  | special special _ =>
    rw [List.takeWhile_cons_of_neg (by decide), List.takeWhile_cons_of_neg (by simp [not_isSpace_of_isSpecial special])]

theorem trailing : Text.trailing text = Text.trailing raw := by
  induction escaped with
  | nil => rfl
  | @same c raw text rest ih =>
    by_cases blank : raw.all Text.isSpace = true
    · rw [rest.eq_of_blank blank]
    · have shown : raw.any (!Text.isSpace ·) = true := by simpa using blank
      have also : text.any (!Text.isSpace ·) = true := by simpa [rest.all_isSpace] using blank
      exact (Text.trailing_append_of_any also [c]).trans (ih.trans (Text.trailing_append_of_any shown [c]).symm)
  | @special c special raw text rest ih =>
    have behind := trailing_behind (not_isSpace_of_isSpecial special)
    exact (behind ['\\'] text).trans (ih.trans (behind [] raw).symm)

theorem dropWhile : Escaped (raw.dropWhile Text.isSpace) (text.dropWhile Text.isSpace) := by
  induction escaped with
  | nil => exact .nil
  | same c rest ih =>
    rw [List.dropWhile_cons, List.dropWhile_cons]
    split
    next => exact ih
    next => exact .same c rest
  | special special rest =>
    rw [List.dropWhile_cons_of_neg (by simp [not_isSpace_of_isSpecial special]), List.dropWhile_cons_of_neg (by decide)]
    exact .special special rest

theorem eq_nil_iff : raw = [] ↔ text = [] := by
  cases escaped <;> simp

theorem dropTrailing : Escaped (Text.dropTrailing Text.isSpace raw) (Text.dropTrailing Text.isSpace text) := by
  induction escaped with
  | nil => exact .nil
  | same c rest ih =>
    simp only [Text.dropTrailing_cons, ih.eq_nil_iff]
    split
    next => exact .nil
    next => exact .same c ih
  | special special rest ih =>
    rw [Text.dropTrailing_cons, if_neg (by simp [not_isSpace_of_isSpecial special]), Text.dropTrailing_cons,
      if_neg (by simp [Text.isSpace]), Text.dropTrailing_cons, if_neg (by simp [not_isSpace_of_isSpecial special])]
    exact .special special ih

theorem trim : Escaped (Text.trim raw) (Text.trim text) :=
  escaped.dropWhile.dropTrailing

/-- What holds no line feed goes to the first line. -/
theorem splitOnChar_append (inLine : '\n' ∉ raw) (inText : '\n' ∉ text)
    (lines : List.Forall₂ Escaped (Text.splitOnChar '\n' others) (Text.splitOnChar '\n' rest)) :
    List.Forall₂ Escaped (Text.splitOnChar '\n' (raw ++ others)) (Text.splitOnChar '\n' (text ++ rest)) := by
  obtain ⟨piece, later, plain, whole⟩ := Markdown.splitOnChar_append inLine others
  obtain ⟨line, behind, plainText, wholeText⟩ := Markdown.splitOnChar_append inText rest
  rw [plain, plainText] at lines
  rw [whole, wholeText]
  cases lines with
  | cons first later => exact .cons (escaped.append first) later

theorem splitOnChar : List.Forall₂ Escaped (Text.splitOnChar '\n' raw) (Text.splitOnChar '\n' text) := by
  induction escaped with
  | nil => exact .cons .nil .nil
  | @same c raw text rest ih =>
    by_cases newline : c = '\n'
    · rw [Text.splitOnChar, Text.splitOnChar, if_pos newline, if_pos newline]
      exact .cons .nil ih
    · have absent : '\n' ∉ [c] := by simpa using Ne.symm newline
      exact (Escaped.same c .nil).splitOnChar_append absent absent ih
  | @special c special raw text rest ih =>
    have newline : '\n' ≠ c := by
      rintro rfl
      exact absurd special (by decide)
    exact (Escaped.special special .nil).splitOnChar_append (by simpa using newline) (by simpa using newline) ih

omit escaped

theorem prefix_iff (plain : ∀ c ∈ word, isSpecial c = false) (escaped : Escaped raw text) :
    word <+: raw ↔ word <+: text := by
  induction escaped generalizing word with
  | nil => rfl
  | same c _ ih =>
    cases word with
    | nil => simp
    | cons d word =>
      rw [List.forall_mem_cons] at plain
      rw [List.cons_prefix_cons, List.cons_prefix_cons, ih plain.2]
  | @special c special =>
    cases word with
    | nil => simp
    | cons d word =>
      rw [List.forall_mem_cons] at plain
      rw [List.cons_prefix_cons, List.cons_prefix_cons]
      refine iff_of_false ?_ ?_
      · rintro ⟨rfl, -⟩
        exact absurd special (by simp [plain.1])
      · rintro ⟨rfl, -⟩
        exact absurd plain.1 (by decide)

theorem infix_iff (some : word ≠ []) (plain : ∀ c ∈ word, isSpecial c = false) (escaped : Escaped raw text) :
    word <:+: raw ↔ word <:+: text := by
  induction escaped with
  | nil => rfl
  | same c rest ih =>
    rw [List.infix_cons_iff, List.infix_cons_iff, ih, (Escaped.same c rest).prefix_iff plain]
  | @special c special raw text rest ih =>
    obtain ⟨d, word, rfl⟩ := List.exists_cons_of_ne_nil some
    have first := (List.forall_mem_cons.mp plain).1
    have noPrefix {e : Char} (special : isSpecial e = true) (rest : List Char) : ¬ d :: word <+: e :: rest := by
      rw [List.cons_prefix_cons]
      rintro ⟨rfl, -⟩
      exact absurd special (by simp [first])
    rw [List.infix_cons_iff, List.infix_cons_iff, List.infix_cons_iff]
    simp only [noPrefix special, noPrefix (by decide : isSpecial '\\' = true), false_or, ih]

theorem mark (style : SpanStyle) {raw text : String} (escaped : Escaped raw.toList text.toList) :
    Escaped (mark style raw).toList (mark style text).toList := by
  cases style with
  | bold | italic | underline =>
    simp only [Markdown.mark, String.toList_append]
    exact escaped.surround _ _
  | smallCaps | accent => exact escaped

theorem trimmed {raw text : String} (escaped : Escaped raw.toList text.toList) :
    Escaped raw.trimmed.toList text.trimmed.toList := by
  rw [String.toList_trimmed, String.toList_trimmed]
  exact escaped.trim

theorem styledText (style : SpanStyle) {raw text : String} (escaped : Escaped raw.toList text.toList) :
    Escaped (styledText style raw).toList (styledText style text).toList := by
  have blank : raw.isBlank = text.isBlank := escaped.all_isSpace
  unfold Markdown.styledText
  rw [blank]
  split
  next => exact escaped
  next =>
    have lead := escaped.leading
    have tail := escaped.trailing
    unfold Text.leading at lead
    unfold Text.trailing at tail
    simp only [String.toList_append, String.toList_ofList, lead, tail]
    exact (escaped.trimmed.mark style).surround _ _

theorem linkText (href : String) {raw text : String} (escaped : Escaped raw.toList text.toList) :
    Escaped (linkText href raw).toList (linkText href text).toList := by
  unfold Markdown.linkText
  split
  next =>
    simp only [String.toList_append, List.append_assoc]
    have whole := escaped.trimmed.surround "[".toList ("](".toList ++ (href.toList ++ ")".toList))
    rwa [List.append_assoc, List.append_assoc] at whole
  next => exact escaped.trimmed

end Escaped

end escaped

section flat

/-- Texts and line breaks, and styles and links of them. -/
inductive Flat : Node → Prop
  | text (value : String) : Flat (.text value)
  | lineBreak : Flat .lineBreak
  | styled (style : SpanStyle) {child : Node} : Flat child → Flat (.styled style child)
  | link (href : String) {label : Node} : Flat label → Flat (.link href label)

/-- What a flat node is inside a line. -/
def flowed (options : RenderOptions) : Node → String
  | .text value => escape options value
  | .styled style child => styledText style (flowed options child)
  | .link href label => linkText href (flowed options label)
  | .lineBreak => "  \n"
  | _ => ""

variable {σ : Type} {options : RenderOptions} {node : Node} {tree : Tree}

private theorem always_inline (flat : Flat node) :
    Always (· = flowed options node) (inline options ({} : Visitor σ) node) := by
  induction flat with
  | text value =>
    rw [inline]
    exact always_consult _ (always_pure rfl)
  | lineBreak =>
    rw [inline]
    exact always_consult _ (always_pure rfl)
  | styled style child ih =>
    rw [inline]
    exact always_consult _ (ih.bind fun text same => always_pure (by rw [same]; rfl))
  | link href label ih =>
    rw [inline]
    exact always_consult _ (ih.bind fun text same => always_pure (by rw [same]; rfl))

private theorem always_allPieces (flat : ∀ node ∈ tree, Flat node) :
    Always (· = tree.map fun node => .inline (flowed options node)) (allPieces options ({} : Visitor σ) .flow tree) := by
  induction tree with
  | nil =>
    rw [allPieces]
    exact always_pure rfl
  | cons node rest ih =>
    obtain ⟨first, later⟩ := List.forall_mem_cons.mp flat
    have one : Always (· = [.inline (flowed options node)]) (pieces options ({} : Visitor σ) .flow node) := by
      have inside : Always (· = [.inline (flowed options node)]) (inlinePieces options ({} : Visitor σ) .flow node) :=
        (always_inline first).bind fun text same => always_pure (by rw [same])
      cases first <;> exact inside
    rw [allPieces]
    refine one.bind fun pieces same => (ih later).bind fun others also => always_pure ?_
    rw [same, also]
    rfl

private theorem firstRun_inline (texts : List String) : firstRun (texts.map .inline) = String.join texts := by
  induction texts with
  | nil => rfl
  | cons text texts ih => rw [List.map_cons, firstRun, ih, String.join_cons]

private theorem behindFirstRun_inline (texts : List String) : behindFirstRun (texts.map .inline) = "" := by
  induction texts with
  | nil => rfl
  | cons text texts ih => exact ih

/-- Flat nodes are one line, trimmed. -/
theorem toList_render (flat : ∀ node ∈ tree, Flat node) :
    (render options {} tree).toList = Text.trim (String.join (tree.map (flowed options))).toList := by
  have pieces : ((allPieces options ({} : Visitor Unit) .flow tree).run { memory := () }).1 =
      tree.map fun node => .inline (flowed options node) := always_allPieces flat _
  have same : render options {} tree = (flowLayout (tree.map fun node => .inline (flowed options node))).trimmed :=
    congrArg (fun pieces => (flowLayout pieces).trimmed) pieces
  have layout : flowLayout (tree.map fun node => .inline (flowed options node)) =
      paragraph (String.join (tree.map (flowed options))) := by
    have inlines : (tree.map fun node => Piece.inline (flowed options node)) =
        (tree.map (flowed options)).map .inline := (List.map_map ..).symm
    rw [inlines, flowLayout_eq_first, firstRun_inline, behindFirstRun_inline, String.append_empty]
  rw [same, layout, String.toList_trimmed]
  generalize String.join (tree.map (flowed options)) = run
  cases blank : run.isBlank with
  | true =>
    rw [paragraph_blank blank, Text.trim_blank (List.all_eq_true.mp blank)]
    rfl
  | false =>
    rw [toList_paragraph blank, Text.trim_append_blank (by simp [Text.isSpace]), Text.trim_trim]

end flat

section unescaped

def unescaped (options : RenderOptions) : RenderOptions :=
  { options with escapeSpecialChars := false }

variable (options : RenderOptions) {node : Node} {tree : Tree}

private theorem escaped_flowed (flat : Flat node) :
    Escaped (flowed (unescaped options) node).toList (flowed options node).toList := by
  induction flat with
  | text value => exact escaped_escape options value
  | lineBreak => exact escaped_self _
  | styled style child ih => exact ih.styledText style
  | link href label ih => exact ih.linkText href

theorem escaped_render (flat : ∀ node ∈ tree, Flat node) :
    Escaped (render (unescaped options) {} tree).toList (render options {} tree).toList := by
  rw [toList_render flat, toList_render flat]
  refine Escaped.trim ?_
  induction tree with
  | nil => exact .nil
  | cons node rest ih =>
    obtain ⟨first, later⟩ := List.forall_mem_cons.mp flat
    rw [List.map_cons, List.map_cons, String.join_cons, String.join_cons, String.toList_append, String.toList_append]
    exact (escaped_flowed options first).append (ih later)

end unescaped

end Vitae.Markdown
