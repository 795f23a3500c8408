import Mathlib.Data.List.Forall2
import Vitae.Proofs.EscapedLines
import Vitae.Proofs.Tidiness

/-! What lines of Markdown begin with. Escaping looks at one character at a time and leaves the signs of headings, quotes
and two of the lists alone, so a line of text begins with one of them just as it does without escaping. A star is
escaped, and those of the styles hug what they mark, so only a target in which a line ends can bring one to the start
of a line. -/

namespace Vitae.Markdown

open Render

section lines

/-- The line begins, behind spaces, with the marker. -/
def Opens (marker line : List Char) : Prop :=
  ∃ indent, List.replicate indent ' ' ++ marker <+: line

/-- The markers of headings, and those of lists and quotes that no special character is in. -/
def plainMarkers : List (List Char) :=
  (List.range 6).map (fun level => List.replicate (level + 1) '#' ++ [' ']) ++ [['-', ' '], ['+', ' '], ['>']]

def starMarker : List Char :=
  ['*', ' ']

private theorem not_isSpecial_of_plainMarker {marker : List Char} (member : marker ∈ plainMarkers) :
    ∀ c ∈ marker, isSpecial c = false := by
  have plain : plainMarkers.all (·.all (!isSpecial ·)) = true := by decide
  intro c inside
  simpa using List.all_eq_true.mp (List.all_eq_true.mp plain marker member) c inside

variable {marker text : List Char}

/-- The first line stands at the start of the text, and the others behind line feeds. -/
theorem splitOnChar_newline (text : List Char) :
    ∃ first later, Text.splitOnChar '\n' text = first :: later ∧ first <+: text ∧
      ∀ line ∈ later, '\n' :: line <:+: text := by
  induction text with
  | nil => exact ⟨[], [], rfl, List.prefix_rfl, by simp⟩
  | cons c rest ih =>
    obtain ⟨first, later, split, front, behind⟩ := ih
    rw [Text.splitOnChar, split]
    by_cases newline : c = '\n'
    · subst newline
      refine ⟨[], first :: later, if_pos rfl, List.nil_prefix, List.forall_mem_cons.mpr ⟨?_, fun line member => ?_⟩⟩
      · exact (List.prefix_cons_inj '\n' |>.mpr front).isInfix
      · exact (behind line member).trans (List.suffix_cons _ _).isInfix
    · refine ⟨c :: first, later, if_neg newline, List.prefix_cons_inj c |>.mpr front, fun line member => ?_⟩
      exact (behind line member).trans (List.suffix_cons _ _).isInfix

variable (oneLine : '\n' ∉ marker)
include oneLine

private theorem not_newline_mem (indent : Nat) : '\n' ∉ List.replicate indent ' ' ++ marker := by
  simp [oneLine]

private theorem later_opens_iff :
    (∃ line ∈ (Text.splitOnChar '\n' text).tail, Opens marker line) ↔
      ∃ indent, '\n' :: (List.replicate indent ' ' ++ marker) <:+: text := by
  constructor
  · rintro ⟨line, member, indent, begins⟩
    obtain ⟨first, later, split, -, behind⟩ := splitOnChar_newline text
    rw [split] at member
    exact ⟨indent, ((List.prefix_cons_inj '\n').mpr begins).isInfix.trans (behind line member)⟩
  · rintro ⟨indent, before, after, rfl⟩
    obtain ⟨piece, later, -, split⟩ := splitOnChar_append (not_newline_mem oneLine indent) after
    refine ⟨List.replicate indent ' ' ++ marker ++ piece, ?_, indent, List.prefix_append _ _⟩
    rw [List.append_assoc, List.cons_append, Text.splitOnChar_append_separator, split,
      List.tail_append_of_ne_nil (Text.splitOnChar_ne_nil _)]
    exact List.mem_append_right _ (List.mem_cons_self ..)

private theorem opens_iff :
    (∃ line ∈ Text.splitOnChar '\n' text, Opens marker line) ↔
      Opens marker text ∨ ∃ indent, '\n' :: (List.replicate indent ' ' ++ marker) <:+: text := by
  obtain ⟨first, later, split, front, -⟩ := splitOnChar_newline text
  rw [← later_opens_iff oneLine, split]
  simp only [List.mem_cons, exists_eq_or_imp, List.tail_cons]
  refine or_congr_left ⟨fun ⟨indent, begins⟩ => ⟨indent, begins.trans front⟩, fun ⟨indent, after, same⟩ => ?_⟩
  obtain ⟨piece, others, -, cut⟩ := splitOnChar_append (not_newline_mem oneLine indent) after
  rw [same, split] at cut
  obtain ⟨rfl, -⟩ := List.cons.inj cut
  exact ⟨indent, List.prefix_append _ _⟩

end lines

section kept

variable (options : RenderOptions) {inner node : Node} {tree : Tree} {word : List Char}

private theorem trim_infix_styledText (style : SpanStyle) (text : String) :
    Text.trim text.toList <:+: (styledText style text).toList := by
  have inMark (marked : String) : marked.toList <:+: (mark style marked).toList := by
    cases style with
    | bold | italic | underline =>
      simp only [mark, String.toList_append]
      exact List.infix_append _ _ _
    | smallCaps | accent => exact List.infix_rfl
  unfold styledText
  split
  next blank =>
    rw [Text.trim_blank (List.all_eq_true.mp blank)]
    exact List.nil_infix
  next =>
    simp only [String.toList_append]
    have inside := inMark text.trimmed
    rw [String.toList_trimmed] at inside
    exact inside.trans (List.infix_append _ _ _)

private theorem trim_infix_linkText (href label : String) :
    Text.trim label.toList <:+: (linkText href label).toList := by
  unfold linkText
  split
  next =>
    simp only [String.toList_append, List.append_assoc, String.toList_trimmed]
    rw [← List.append_assoc]
    exact List.infix_append _ _ _
  next =>
    simp only [String.toList_trimmed, List.infix_rfl]

/-- What a node in a flat one shows is seen in it. -/
theorem trim_flowed_walk (flat : Flat node) (inside : inner ∈ node.walk) :
    Text.trim (flowed options inner).toList <:+: (flowed options node).toList := by
  induction flat with
  | text | lineBreak =>
    obtain rfl := List.mem_singleton.mp inside
    exact Text.trim_infix_self _
  | styled style child ih =>
    obtain rfl | below := List.mem_cons.mp inside
    · exact Text.trim_infix_self _
    · have shown := Text.trim_infix_trim (ih below)
      rw [Text.trim_trim] at shown
      exact shown.trans (trim_infix_styledText style _)
  | link href label ih =>
    obtain rfl | below := List.mem_cons.mp inside
    · exact Text.trim_infix_self _
    · have shown := Text.trim_infix_trim (ih below)
      rw [Text.trim_trim] at shown
      exact shown.trans (trim_infix_linkText href _)

private theorem trim_flowed_render (flat : ∀ node ∈ tree, Flat node) (inside : inner ∈ Node.walkAll tree) :
    Text.trim (flowed options inner).toList <:+: (render options {} tree).toList := by
  obtain ⟨node, member, below⟩ := Node.mem_walkAll.mp inside
  obtain ⟨before, after, rfl⟩ := List.append_of_mem member
  rw [toList_render flat, ← Text.trim_trim]
  refine Text.trim_infix_trim ((trim_flowed_walk options (flat node member) below).trans ?_)
  rw [List.map_append, List.map_cons, String.join_append, String.join_cons, String.toList_append, String.toList_append,
    ← List.append_assoc]
  exact List.infix_append _ _ _

/-- A word that begins and ends with what is no white space is not cut. -/
theorem infix_render (flat : ∀ node ∈ tree, Flat node) (inside : inner ∈ Node.walkAll tree)
    (whole : Text.trim word = word) (part : word <:+: (flowed options inner).toList) :
    word <:+: (render options {} tree).toList := by
  have shown := Text.trim_infix_trim part
  rw [whole] at shown
  exact shown.trans (trim_flowed_render options flat inside)

end kept

section stars

/-- A star between two texts that no reader takes for a marker: it hugs what stands before or behind it, or it is a part
of a target. -/
inductive Hugged (targets : String → Prop) (before after : List Char) : Prop
  | behind {c : Char} (shown : Text.isSpace c = false) (last : [c] <:+ before)
  | ahead {c : Char} (shown : Text.isSpace c = false) (next : [c] <+: after)
  | target {href : String} (own : targets href) {start rest : List Char} (same : href.toList = start ++ '*' :: rest)
    (opened : '(' :: start <:+ before) (closed : rest ++ [')'] <+: after)

/-- Every star of the text is hugged where the text stands between the two others. The stars of a style are hugged by
what stands beside them and not by each mark alone, so texts are joined in their place. -/
def Guarded (targets : String → Prop) (early text late : List Char) : Prop :=
  ∀ before after, text = before ++ '*' :: after → Hugged targets (early ++ before) (after ++ late)

variable {targets : String → Prop} {early late before after first second text lead tail word : List Char} {c : Char}

private theorem Hugged.widen (hugged : Hugged targets before after) :
    Hugged targets (early ++ before) (after ++ late) := by
  cases hugged with
  | behind shown last => exact .behind shown (List.suffix_append_of_suffix last)
  | ahead shown next => exact .ahead shown (List.prefix_append_of_prefix next)
  | target own same opened closed =>
    exact .target own same (List.suffix_append_of_suffix opened) (List.prefix_append_of_prefix closed)

private theorem suffix_of_blank_append (shown : Text.isSpace c = false) (blank : ∀ d ∈ lead, Text.isSpace d = true)
    (last : c :: word <:+ lead ++ before) : c :: word <:+ before := by
  obtain ⟨front, same⟩ := last
  rcases List.append_eq_append_iff.mp same with ⟨cut, rfl, whole⟩ | ⟨cut, rfl, rfl⟩
  · cases cut with
    | nil => exact whole ▸ List.suffix_rfl
    | cons d cut =>
      obtain ⟨rfl, -⟩ := List.cons.inj whole
      exact absurd (blank c (by simp)) (by simp [shown])
  · exact List.suffix_append _ _

private theorem prefix_of_append_blank (word : List Char) (shown : Text.isSpace c = false)
    (blank : ∀ d ∈ tail, Text.isSpace d = true) (next : word ++ [c] <+: after ++ tail) : word ++ [c] <+: after := by
  rw [← List.reverse_suffix, List.reverse_append, List.reverse_append] at next
  rw [← List.reverse_suffix, List.reverse_append]
  exact suffix_of_blank_append shown (fun d member => blank d (List.mem_reverse.mp member)) next

theorem Hugged.narrow (blankLead : ∀ c ∈ lead, Text.isSpace c = true) (blankTail : ∀ c ∈ tail, Text.isSpace c = true)
    (hugged : Hugged targets (lead ++ before) (after ++ tail)) : Hugged targets before after := by
  cases hugged with
  | behind shown last => exact .behind shown (suffix_of_blank_append shown blankLead last)
  | ahead shown next => exact .ahead shown (prefix_of_append_blank [] shown blankTail next)
  | target own same opened closed =>
    have enters : Text.isSpace '(' = false := by decide
    have leaves : Text.isSpace ')' = false := by decide
    exact .target own same (suffix_of_blank_append enters blankLead opened)
      (prefix_of_append_blank _ leaves blankTail closed)

private theorem guarded_of_not_mem (none : '*' ∉ text) : Guarded targets early text late := by
  rintro before after rfl
  simp at none

private theorem guarded_star (hugged : Hugged targets early late) : Guarded targets early ['*'] late := by
  intro before after same
  cases before with
  | nil =>
    obtain rfl := List.tail_eq_of_cons_eq same
    rwa [List.append_nil]
  | cons c before => simp at same

theorem Guarded.append (one : Guarded targets early first (second ++ late))
    (two : Guarded targets (early ++ first) second late) : Guarded targets early (first ++ second) late := by
  intro before after same
  rcases List.append_eq_append_iff.mp same with ⟨cut, rfl, whole⟩ | ⟨cut, rfl, whole⟩
  · rw [← List.append_assoc]
    exact two cut after whole
  · cases cut with
    | nil =>
      have here := two [] after whole.symm
      rwa [List.append_nil, List.append_nil] at *
    | cons d cut =>
      obtain ⟨rfl, rfl⟩ := List.cons.inj whole
      change Hugged targets (early ++ before) (cut ++ second ++ late)
      rw [List.append_assoc]
      exact one before cut rfl

private theorem Guarded.anywhere (guarded : Guarded targets [] text []) : Guarded targets early text late := by
  intro before after same
  have hugged := guarded before after same
  rw [List.nil_append, List.append_nil] at hugged
  exact hugged.widen

theorem Guarded.trim (guarded : Guarded targets [] text []) : Guarded targets [] (Text.trim text) [] := by
  intro before after same
  have whole := Text.leading_trim_trailing text
  rw [same] at whole
  have hugged := guarded (Text.leading text ++ before) (after ++ Text.trailing (text.dropWhile Text.isSpace))
    (whole.symm.trans (by simp))
  rw [List.nil_append, List.append_nil] at hugged
  have own := hugged.narrow (fun _ => Text.isSpace_of_mem_leading) fun _ => Text.isSpace_of_mem_trailing
  rwa [List.nil_append, List.append_nil]

private theorem guarded_escape {options : RenderOptions} (escapes : options.escapeSpecialChars = true)
    (value : String) :
    Guarded targets [] (escape options value).toList [] := by
  rw [escape, if_pos escapes, String.toList_ofList]
  induction value.toList with
  | nil => exact guarded_of_not_mem List.not_mem_nil
  | cons c rest ih =>
    rw [List.flatMap_cons]
    refine .append ?_ ih.anywhere
    split
    next =>
      change Guarded targets [] (['\\'] ++ [c]) _
      refine .append (guarded_of_not_mem (by decide)) ?_
      by_cases star : c = '*'
      · subst star
        exact guarded_star (.behind (by decide) List.suffix_rfl)
      · exact guarded_of_not_mem (by simpa using Ne.symm star)
    next plain =>
      refine guarded_of_not_mem ?_
      rw [List.mem_singleton]
      rintro rfl
      exact plain (by decide)

/-- The stars of a mark hug each other, or what is marked. -/
theorem Guarded.mark (style : SpanStyle) {text : String} (shown : text.isBlank = false)
    (guarded : Guarded targets [] text.toList []) : Guarded targets [] (mark style text.trimmed).toList [] := by
  obtain ⟨c, rest, visible, first⟩ := Text.trim_eq_cons (Text.any_of_isBlank shown)
  have last : ∃ front d, Text.isSpace d = false ∧ Text.trim text.toList = front ++ [d] := by
    obtain ⟨front, d, same⟩ := List.eq_nil_or_concat (Text.trim text.toList) |>.resolve_left (by simp [first])
    have ends : (Text.trim text.toList).getLast? = some d := by rw [same, List.concat_eq_append, List.getLast?_concat]
    exact ⟨front, d, Text.getLast?_dropTrailing Text.isSpace _ ends, by simpa using same⟩
  obtain ⟨front, d, seen, last⟩ := last
  have within := guarded.trim
  cases style with
  | bold =>
    simp only [Markdown.mark, String.toList_append, String.toList_trimmed]
    have stars (early late : List Char) : Guarded targets early (['*'] ++ ['*']) late :=
      .append (guarded_star (.ahead (by decide) (List.prefix_append _ _)))
        (guarded_star (.behind (by decide) (List.suffix_append _ _)))
    exact .append (.append (stars _ _) within.anywhere) (stars _ _)
  | italic =>
    simp only [Markdown.mark, String.toList_append, String.toList_trimmed]
    refine .append (.append (guarded_star (.ahead visible ?_)) within.anywhere) (guarded_star (.behind seen ?_))
    · rw [first]
      exact ⟨_, rfl⟩
    · rw [last]
      exact ⟨_, (List.append_assoc ..)⟩
  | underline =>
    simp only [Markdown.mark, String.toList_append, String.toList_trimmed]
    refine .append (.append (guarded_of_not_mem (by decide)) within.anywhere) (guarded_of_not_mem (by decide))
  | smallCaps | accent =>
    rw [Markdown.mark, String.toList_trimmed]
    exact within

theorem Guarded.styledText (style : SpanStyle) {text : String} (guarded : Guarded targets [] text.toList []) :
    Guarded targets [] (styledText style text).toList [] := by
  have blank {spaces : List Char} (blank : ∀ c ∈ spaces, Text.isSpace c = true) {early late : List Char} :
      Guarded targets early spaces late :=
    guarded_of_not_mem fun star => absurd (blank '*' star) (by decide)
  unfold Markdown.styledText
  split
  next => exact guarded
  next shown =>
    simp only [String.toList_append, String.toList_ofList]
    refine .append (.append (blank fun _ => Text.isSpace_of_mem_leading) ?_) (blank fun _ => Text.isSpace_of_mem_trailing)
    exact (guarded.mark style (Bool.eq_false_iff.mpr shown)).anywhere

theorem Guarded.linkText {href : String} (own : isSafeHref href = true → targets href) {label : String}
    (guarded : Guarded targets [] label.toList []) : Guarded targets [] (linkText href label).toList [] := by
  unfold Markdown.linkText
  split
  next safe =>
    simp only [String.toList_append, String.toList_trimmed]
    refine .append (.append (.append (.append (guarded_of_not_mem (by decide)) guarded.trim.anywhere)
      (guarded_of_not_mem (by decide))) fun before after same => ?_) (guarded_of_not_mem (by decide))
    refine .target (own safe) same ?_ ⟨[], by simp⟩
    exact ⟨"[".toList ++ Text.trim label.toList ++ "]".toList, by simp⟩
  next =>
    rw [String.toList_trimmed]
    exact guarded.trim

/-- Behind a line feed, or nothing, and spaces, a star with a space behind it is a part of a target that the line feed
is in too. -/
theorem Hugged.opens (indent : Nat) (start : early = [] ∨ ∃ front, early = front ++ ['\n'])
    (hugged : Hugged targets (early ++ List.replicate indent ' ') (' ' :: after)) :
    ∃ href, targets href ∧ '\n' :: (List.replicate indent ' ' ++ starMarker) <:+: href.toList := by
  cases hugged with
  | @behind c shown last =>
    have newline : ∀ d ∈ early.getLast?, Text.isSpace d = true := by
      rcases start with rfl | ⟨front, rfl⟩
      · simp
      · simp [Text.isSpace]
    have spaces : ∀ d ∈ (List.replicate indent ' ').getLast?, Text.isSpace d = true := by
      intro d member
      obtain rfl := List.eq_of_mem_replicate (List.mem_of_mem_getLast? member)
      decide
    obtain ⟨front, same⟩ := last
    have space := Text.forall_getLast?_append newline spaces c (by rw [← same, List.getLast?_concat]; rfl)
    exact absurd space (by simp [shown])
  | @ahead c shown next =>
    obtain rfl := (List.cons_prefix_cons.mp next).1
    exact absurd shown (by decide)
  | @target href own first rest same opened closed =>
    have notSpaces : '(' ∉ List.replicate indent ' ' := fun member => absurd (List.eq_of_mem_replicate member) (by decide)
    have line : '\n' :: List.replicate indent ' ' <:+ first := by
      rcases start with rfl | ⟨front, rfl⟩
      · exact absurd (opened.subset (List.mem_cons_self ..)) notSpaces
      · rw [List.append_assoc] at opened
        rcases List.suffix_or_suffix_of_suffix opened (List.suffix_append front _) with short | long
        · exact absurd (short.subset (List.mem_cons_self ..)) (by simp)
        · exact (List.suffix_cons_iff.mp long).resolve_left (by simp)
    obtain ⟨front, rfl⟩ := line
    cases rest with
    | nil => simp at closed
    | cons c rest =>
      obtain rfl := (List.cons_prefix_cons.mp closed).1
      exact ⟨href, own, front, rest, by simp [same, starMarker]⟩

end stars

section render

/-- Holds for the targets of safe links in a tree. -/
def Leads (tree : Tree) (href : String) : Prop :=
  isSafeHref href = true ∧ ∃ label, .link href label ∈ Node.walkAll tree

variable {options : RenderOptions} {targets : String → Prop} {node : Node} {tree : Tree} {text : List Char}

private theorem guarded_flowed (escapes : options.escapeSpecialChars = true) (flat : Flat node)
    (own : ∀ href label, .link href label ∈ node.walk → isSafeHref href = true → targets href) :
    Guarded targets [] (flowed options node).toList [] := by
  induction flat with
  | text value => exact guarded_escape escapes value
  | lineBreak => exact guarded_of_not_mem (by simp [flowed])
  | styled style child ih =>
    exact (ih fun href label member => own href label (List.mem_cons_of_mem _ member)).styledText style
  | link href label ih =>
    exact (ih fun href label member => own href label (List.mem_cons_of_mem _ member)).linkText
      (own _ _ (List.mem_cons_self ..))

private theorem guarded_render (escapes : options.escapeSpecialChars = true) (flat : ∀ node ∈ tree, Flat node) :
    Guarded (Leads tree) [] (render options {} tree).toList [] := by
  rw [toList_render flat]
  refine Guarded.trim ?_
  have part : ∀ node ∈ tree, ∀ href label, .link href label ∈ node.walk → isSafeHref href = true → Leads tree href :=
    fun node member href label below safe => ⟨safe, label, Node.mem_walkAll.mpr ⟨node, member, below⟩⟩
  generalize Leads tree = targets at part
  induction tree with
  | nil => exact guarded_of_not_mem List.not_mem_nil
  | cons node rest ih =>
    rw [List.forall_mem_cons] at flat part
    rw [List.map_cons, String.join_cons, String.toList_append]
    exact .append (guarded_flowed escapes flat.1 part.1).anywhere (ih flat.2 part.2).anywhere

theorem Guarded.opens (guarded : Guarded targets [] text [])
    (opens : ∃ line ∈ Text.splitOnChar '\n' text, Opens starMarker line) :
    ∃ href, targets href ∧ ∃ line ∈ (Text.splitOnChar '\n' href.toList).tail, Opens starMarker line := by
  have oneLine : '\n' ∉ starMarker := by decide
  have found : ∃ early indent after, (early = [] ∨ ∃ front, early = front ++ ['\n']) ∧
      text = early ++ List.replicate indent ' ' ++ '*' :: ' ' :: after := by
    rcases (opens_iff oneLine).mp opens with ⟨indent, after, rfl⟩ | ⟨indent, front, after, rfl⟩
    · exact ⟨[], indent, after, .inl rfl, by simp [starMarker]⟩
    · exact ⟨front ++ ['\n'], indent, after, .inr ⟨front, rfl⟩, by simp [starMarker]⟩
  obtain ⟨early, indent, after, start, same⟩ := found
  have hugged := guarded _ _ same
  rw [List.nil_append, List.append_nil] at hugged
  obtain ⟨href, own, inside⟩ := hugged.opens indent start
  exact ⟨href, own, (later_opens_iff oneLine).mpr ⟨indent, inside⟩⟩

private theorem infix_render_target (flat : ∀ node ∈ tree, Flat node) {href : String} (leads : Leads tree href) :
    href.toList <:+: (render options {} tree).toList := by
  obtain ⟨safe, label, member⟩ := leads
  have printed : '(' :: href.toList ++ [')'] <:+: (flowed options (.link href label)).toList := by
    rw [flowed, linkText, if_pos safe]
    exact ⟨"[".toList ++ (flowed options label).trimmed.toList ++ "]".toList, [], by simp⟩
  have whole : Text.trim ('(' :: href.toList ++ [')']) = '(' :: href.toList ++ [')'] := by
    rw [Text.trim_eq_self_iff]
    refine ⟨fun c first => ?_, fun c last => ?_⟩
    · obtain rfl := Option.some.inj first
      decide
    · rw [List.getLast?_concat] at last
      obtain rfl := Option.some.inj last
      decide
  have shown := infix_render options flat member whole printed
  exact (List.infix_append ['('] href.toList [')']).trans shown

/-- In an escaped text, a character that needs no escape opens a tag just where it did. -/
theorem tag_escape_iff {c : Char} (plain : isSpecial c = false) (value : String) :
    ['<', c] <:+: (escape options value).toList ↔ ['<', c] <:+: value.toList := by
  refine ((escaped_escape options value).infix_iff (List.cons_ne_nil _ _) ?_).symm
  rw [List.forall_mem_cons, List.forall_mem_singleton]
  exact ⟨by decide, plain⟩

private theorem tag_render {c : Char} (shown : Text.isSpace c = false) (flat : ∀ node ∈ tree, Flat node)
    {value : String} (member : .text value ∈ Node.walkAll tree) (inside : ['<', c] <:+: (escape options value).toList) :
    ['<', c] <:+: (render options {} tree).toList := by
  refine infix_render options flat member ?_ inside
  rw [Text.trim_eq_self_iff]
  refine ⟨fun d first => ?_, fun d last => ?_⟩
  · obtain rfl := Option.some.inj first
    decide
  · obtain rfl := Option.some.inj last
    exact shown

/-- The lines of flat nodes begin with the markers of headings, quotes and two of the lists just as they do without
escaping; some line begins with that of a list of stars just if a line behind the first of a safe target does; and the
texts bring in the tags that are written in them. -/
theorem render_lineStarts (escapes : options.escapeSpecialChars = true) (flat : ∀ node ∈ tree, Flat node) :
    List.Forall₂ (fun plain line => ∀ marker ∈ plainMarkers, Opens marker plain ↔ Opens marker line)
        (Text.splitOnChar '\n' (render (unescaped options) {} tree).toList)
        (Text.splitOnChar '\n' (render options {} tree).toList) ∧
      ((∃ line ∈ Text.splitOnChar '\n' (render options {} tree).toList, Opens starMarker line) ↔
        ∃ href, Leads tree href ∧ ∃ line ∈ (Text.splitOnChar '\n' href.toList).tail, Opens starMarker line) ∧
      ∀ value, .text value ∈ Node.walkAll tree → ∀ c, isSpecial c = false → Text.isSpace c = false →
        (['<', c] <:+: (escape options value).toList ↔ ['<', c] <:+: value.toList) ∧
          (['<', c] <:+: value.toList → ['<', c] <:+: (render options {} tree).toList) := by
  refine ⟨?_, ⟨(guarded_render escapes flat).opens, ?_⟩, ?_⟩
  · refine (escaped_render options flat).splitOnChar.imp fun other line escaped marker member => ?_
    refine exists_congr fun indent => escaped.prefix_iff ?_
    rw [List.forall_mem_append]
    refine ⟨fun c space => ?_, not_isSpecial_of_plainMarker member⟩
    obtain rfl := List.eq_of_mem_replicate space
    decide
  · rintro ⟨href, leads, opens⟩
    have oneLine : '\n' ∉ starMarker := by decide
    obtain ⟨indent, inside⟩ := (later_opens_iff oneLine).mp opens
    exact (opens_iff oneLine).mpr (.inr ⟨indent, inside.trans (infix_render_target flat leads)⟩)
  · intro value member c plain shown
    have same : ['<', c] <:+: (escape options value).toList ↔ ['<', c] <:+: value.toList := tag_escape_iff plain value
    exact ⟨same, fun inside => tag_render shown flat member (same.mpr inside)⟩

theorem render_lineStarts_target :
    ({} : RenderOptions).escapeSpecialChars = true ∧ (∀ node ∈ [.link "a\n* b" (.text "* c")], Flat node) ∧
      ∃ line ∈ Text.splitOnChar '\n' (render {} {} [.link "a\n* b" (.text "* c")]).toList, Opens starMarker line := by
  have flat : ∀ node ∈ [.link "a\n* b" (.text "* c")], Flat node :=
    List.forall_mem_singleton.mpr (.link _ (.text _))
  refine ⟨rfl, flat, (render_lineStarts rfl flat).2.1.mpr ⟨"a\n* b", ⟨by decide +kernel, .text "* c", ?_⟩, ?_⟩⟩
  · exact Node.mem_walkAll.mpr ⟨_, List.mem_singleton_self _, List.mem_cons_self ..⟩
  · exact ⟨"* b".toList, by decide, 0, List.prefix_append _ _⟩

/-- A heading is text that no escape is made for. -/
theorem render_heading :
    ({} : RenderOptions).escapeSpecialChars = true ∧ Flat (.text "# a") ∧
      ∃ line ∈ Text.splitOnChar '\n' (render {} {} [.text "# a"]).toList,
        ∃ marker ∈ plainMarkers, Opens marker line := by
  have same : render {} {} [.text "# a"] = "# a" := by decide +kernel
  refine ⟨rfl, .text _, "# a".toList, ?_, ['#', ' '], by decide, 0, List.prefix_append _ _⟩
  rw [same]
  decide

end render

end Vitae.Markdown
