import Mathlib.Data.Char
import Vitae.Proofs.HtmlText

/-! Where the anchors of rendered HTML lead. A browser finds the scheme of a target in what is left of it without the
blanks in front and without tabs and line ends. The check of targets leaves out more than that, but nothing that a scheme
is spelled with, and so it judges the scheme that a browser finds. In the HTML of a tree each tag of an anchor holds a
target that passed the check, and nothing else. -/

namespace Vitae.Html

open Render

section schemes

/-- What a browser reads of a target. -/
def browserText (target : List Char) : List Char :=
  (target.dropWhile (· ≤ ' ')).filter fun c => c != '\t' && c != '\n' && c != '\r'

def isSchemeChar (c : Char) : Bool :=
  c.isAlphanum || c == '+' || c == '-' || c == '.'

/-- The scheme that a browser finds in a target: it begins with a letter and ends in front of a colon. -/
def browserScheme? (target : List Char) : Option (List Char) :=
  let text := browserText target
  if text.head?.any Char.isAlpha ∧ (text.dropWhile isSchemeChar).head? = some ':' then
    some (text.takeWhile isSchemeChar)
  else none

def safeSchemes : List String :=
  ["http", "https", "mailto", "tel"]

/-- Holds for a scheme that only leads somewhere, however its letters are written. -/
def isSafeScheme (scheme : List Char) : Bool :=
  .ofList (scheme.map Char.toLower) ∈ safeSchemes

/-- The characters of a target that count in its check. -/
def isCounted (c : Char) : Bool :=
  !Text.isSpace c && !(c < ' ' || ('\x7f' ≤ c && c < '\u00A0'))

/-- The characters one of which ends the start of a target. -/
def isDelimiter (c : Char) : Bool :=
  c == ':' || c == '/' || c == '?' || c == '#'

private theorem browserText_of_browserScheme? {target scheme : List Char}
    (found : browserScheme? target = some scheme) :
    (∀ c ∈ scheme, isSchemeChar c = true) ∧ ∃ rest, browserText target = scheme ++ ':' :: rest := by
  simp only [browserScheme?, Option.ite_none_right_eq_some, Option.some.injEq] at found
  obtain ⟨⟨-, colon⟩, rfl⟩ := found
  obtain ⟨rest, behind⟩ := List.head?_eq_some_iff.mp colon
  refine ⟨List.all_eq_true.mp List.all_takeWhile, rest, ?_⟩
  rw [← behind, List.takeWhile_append_dropWhile]

private theorem ascii_of_isAlphanum {c : Char} (own : c.isAlphanum = true) : c.toNat < 128 := by
  have within (last : Char) (bound : c.val ≤ last.val) (ascii : last.toNat < 128) : c.toNat < 128 :=
    Nat.lt_of_le_of_lt (UInt32.le_iff_toNat_le.mp bound) ascii
  have kinds : (c.isUpper || c.isLower || c.isDigit) = true := own
  simp only [Bool.or_eq_true] at kinds
  rcases kinds with (upper | lower) | digit
  · exact within 'Z' (of_decide_eq_true upper).2 (by decide)
  · have range := Bool.and_eq_true_iff.mp lower
    exact within 'z' (of_decide_eq_true range.2) (by decide)
  · have range := Bool.and_eq_true_iff.mp digit
    exact within '9' (of_decide_eq_true range.2) (by decide)

private theorem ascii_of_isSchemeChar {c : Char} (own : isSchemeChar c = true) : c.toNat < 128 := by
  simp only [isSchemeChar, Bool.or_eq_true, beq_iff_eq] at own
  rcases own with ((alphanumeric | rfl) | rfl) | rfl
  · exact ascii_of_isAlphanum alphanumeric
  all_goals decide

/-- A scheme is spelled with characters that count, and none of them is a delimiter. -/
theorem counted_of_isSchemeChar {c : Char} (own : isSchemeChar c = true) :
    isCounted c = true ∧ isDelimiter c.toLower = false := by
  have table : ∀ code < 128, isSchemeChar (Char.ofNat code) = true →
      isCounted (Char.ofNat code) = true ∧ isDelimiter (Char.ofNat code).toLower = false := by decide
  have here := table c.toNat (ascii_of_isSchemeChar own)
  rw [Char.ofNat_toNat] at here
  exact here own

/-- What a browser leaves out of a target does not count in its check. -/
theorem filter_browserText (target : List Char) : (browserText target).filter isCounted = target.filter isCounted := by
  have front {c : Char} (low : c ≤ ' ') : isCounted c = false := by
    rcases lt_or_eq_of_le low with control | rfl
    · simp [isCounted, control]
    · decide
  have ends {c : Char} (counted : isCounted c = true) : (c != '\t' && c != '\n' && c != '\r') = true := by
    simp only [Bool.and_eq_true, bne_iff_ne]
    refine ⟨⟨?_, ?_⟩, ?_⟩
    all_goals
      rintro rfl
      exact absurd counted (by decide)
  have start : (target.takeWhile (· ≤ ' ')).filter isCounted = [] := by
    refine List.filter_eq_nil_iff.mpr fun c member => ?_
    have low := List.all_eq_true.mp List.all_takeWhile c member
    simp [front (of_decide_eq_true low)]
  calc
    (browserText target).filter isCounted
      = (target.dropWhile (· ≤ ' ')).filter isCounted := by
        rw [browserText, List.filter_filter]
        exact List.filter_congr fun c _ => by cases same : isCounted c <;> simp_all
    _ = (target.takeWhile (· ≤ ' ') ++ target.dropWhile (· ≤ ' ')).filter isCounted := by
        rw [List.filter_append, start, List.nil_append]
    _ = target.filter isCounted := by rw [List.takeWhile_append_dropWhile]

private theorem isSafeHref_of_schemeText {href : String} {start rest : List Char}
    (same : schemeText href = start ++ ':' :: rest) (free : ∀ c ∈ start, isDelimiter c = false) :
    isSafeHref href = decide (String.ofList start ∈ safeSchemes) := by
  -- The check tests for delimiters in place; this is its test.
  let goesOn (c : Char) : Bool := !(c == ':' || c == '/' || c == '?' || c == '#')
  have goes : ∀ c ∈ start, goesOn c = true := by
    intro c member
    exact congrArg not (free c member)
  have behind : (schemeText href).dropWhile goesOn = ':' :: rest := by
    rw [same, List.dropWhile_append_of_pos goes]
    rfl
  have front : (schemeText href).takeWhile goesOn = start := by
    rw [same, List.takeWhile_append_of_pos goes]
    exact List.append_nil start
  unfold isSafeHref
  simp only [goesOn] at behind front
  simp only [behind, front]
  rfl

/-- The check judges the scheme that a browser finds. -/
theorem isSafeHref_of_browserScheme? {href : String} {scheme : List Char}
    (found : browserScheme? href.toList = some scheme) : isSafeHref href = isSafeScheme scheme := by
  obtain ⟨spelled, rest, whole⟩ := browserText_of_browserScheme? found
  have counted : scheme.filter isCounted = scheme :=
    List.filter_eq_self.mpr fun c member => (counted_of_isSchemeChar (spelled c member)).1
  have same : schemeText href = scheme.map Char.toLower ++ ':' :: (rest.filter isCounted).map Char.toLower := by
    change (href.toList.filter isCounted).map Char.toLower = _
    rw [← filter_browserText, whole, List.filter_append, counted, List.filter_cons_of_pos (by decide), List.map_append,
      List.map_cons]
    rfl
  refine isSafeHref_of_schemeText same fun c member => ?_
  obtain ⟨d, spelling, rfl⟩ := List.mem_map.mp member
  exact (counted_of_isSchemeChar (spelled d spelling)).2

end schemes

section tags

/-- Behind an opening angle bracket, holds where the tag of an anchor opens. -/
def opensAnchor : List Char → Bool
  | name :: next :: _ => (name == 'a' || name == 'A') && (Text.isAsciiSpace next || next == '/' || next == '>')
  | _ => false

/-- Where the tag of an anchor opens, it holds a target that passed the check, and nothing else. -/
def SafeTag (tag : List Char) : Prop :=
  opensAnchor (tag ++ ['>']) = true →
    ∃ href, isSafeHref href = true ∧ tag = "a href=\"".toList ++ (escape href).toList ++ ['"']

/-- Characters and whole tags, with no opening angle bracket elsewhere. -/
inductive SafelyTagged : List Char → Prop
  | nil : SafelyTagged []
  | character {c rest} (plain : c ≠ '<') (tail : SafelyTagged rest) : SafelyTagged (c :: rest)
  | tag {tag rest} (whole : '<' ∉ tag) (safe : SafeTag tag) (tail : SafelyTagged rest) :
      SafelyTagged ('<' :: tag ++ '>' :: rest)

theorem SafelyTagged.append {first second : List Char} (one : SafelyTagged first) (two : SafelyTagged second) :
    SafelyTagged (first ++ second) := by
  induction one with
  | nil => exact two
  | character plain _ ih => exact .character plain ih
  | tag whole safe _ ih =>
    rw [List.append_assoc]
    exact .tag whole safe ih

theorem SafelyTagged.dropSpaces {text : List Char} (tagged : SafelyTagged text) :
    SafelyTagged (text.dropWhile Text.isSpace) := by
  induction tagged with
  | nil => exact .nil
  | @character c rest plain tail ih =>
    by_cases space : Text.isSpace c
    · rwa [List.dropWhile_cons_of_pos space]
    · rw [List.dropWhile_cons_of_neg space]
      exact .character plain tail
  | tag whole safe tail => exact .tag whole safe tail

theorem SafelyTagged.dropTrailing {text : List Char} (tagged : SafelyTagged text) :
    SafelyTagged (Text.dropTrailing Text.isSpace text) := by
  induction tagged with
  | nil => exact .nil
  | character plain _ ih =>
    rw [Text.dropTrailing_cons]
    split
    · exact .nil
    · exact .character plain ih
  | @tag tag rest whole safe _ ih =>
    have split := dropTrailing_append (show Text.isSpace '>' = false by decide) ('<' :: tag) rest
    rw [List.append_assoc, List.append_assoc] at split
    exact split ▸ .tag whole safe ih

private theorem safelyTagged_of_plain {text : List Char} (plain : '<' ∉ text) : SafelyTagged text := by
  induction text with
  | nil => exact .nil
  | cons c rest ih =>
    rw [List.mem_cons, not_or] at plain
    exact .character (Ne.symm plain.1) (ih plain.2)

private theorem not_mem_escape (text : String) : '<' ∉ (escape text).toList :=
  (data_escape text).not_mem (by decide) (by decide)

private theorem safeTag_of_other {tag : List Char} (other : opensAnchor (tag ++ ['>']) = false) : SafeTag tag :=
  fun opens => absurd (other.symm.trans opens) Bool.false_ne_true

private theorem safeTag_closing (name : List Char) : SafeTag ('/' :: name) := by
  apply safeTag_of_other
  cases name <;> rfl

/-- An element whose tag is safe, and whose name is spelled within its tags. -/
theorem SafelyTagged.element {name : String} {attributes inner : List Char} (whole : '<' ∉ name.toList ++ attributes)
    (safe : SafeTag (name.toList ++ attributes)) (inside : SafelyTagged inner) :
    SafelyTagged (openingTag name attributes ++ inner ++ closingTag name) := by
  have named : '<' ∉ '/' :: name.toList := by
    rw [List.mem_cons, not_or]
    exact ⟨by decide, fun member => whole (List.mem_append_left _ member)⟩
  have closing : SafelyTagged (closingTag name) := .tag named (safeTag_closing _) .nil
  have parts : openingTag name attributes ++ inner ++ closingTag name =
      '<' :: (name.toList ++ attributes) ++ '>' :: (inner ++ closingTag name) := by
    simp [openingTag]
  rw [parts]
  exact .tag whole safe (inside.append closing)

private theorem kept_safelyTagged : Kept SafelyTagged where
  escaped text := safelyTagged_of_plain (not_mem_escape text)
  append := .append
  trimmed tagged := tagged.dropSpaces.dropTrailing
  lineBreak := .tag (show '<' ∉ "br/".toList by decide) (safeTag_of_other (by decide)) .nil
  bare own inside := by
    have tags : ∀ name ∈ bareElements, '<' ∉ name.toList ++ [] ∧ opensAnchor (name.toList ++ [] ++ ['>']) = false := by
      decide
    obtain ⟨whole, other⟩ := tags _ own
    exact inside.element whole (safeTag_of_other other)
  classed own inside := by
    have tags : ∀ own ∈ classedElements,
        '<' ∉ own.1.toList ++ (" class=\"".toList ++ own.2.toList ++ ['"']) ∧
          opensAnchor (own.1.toList ++ (" class=\"".toList ++ own.2.toList ++ ['"']) ++ ['>']) = false := by
      decide
    obtain ⟨whole, other⟩ := tags _ own
    exact inside.element whole (safeTag_of_other other)
  link {href _} safe inside := by
    refine inside.element ?_ fun _ => ⟨href, safe, rfl⟩
    simp [not_mem_escape]

end tags

section places

/-- Behind its opening angle bracket, the tag of an anchor with a target alone. A browser finds no scheme in the decoded
target but a safe one. -/
def LeadsSafely (rest : List Char) : Prop :=
  ∃ value behind, rest = "a href=\"".toList ++ value ++ "\">".toList ++ behind ∧ Data value ∧
    ∀ scheme, browserScheme? (decoded value) = some scheme → isSafeScheme scheme = true

private theorem leadsSafely_of_isSafeHref {href : String} (safe : isSafeHref href = true) (behind : List Char) :
    LeadsSafely ("a href=\"".toList ++ (escape href).toList ++ "\">".toList ++ behind) := by
  refine ⟨(escape href).toList, behind, rfl, data_escape href, fun scheme found => ?_⟩
  rw [decoded_escape] at found
  rw [← isSafeHref_of_browserScheme? found, safe]

private theorem mark_cases {first second before rest : List Char} {mark : Char}
    (same : first ++ second = before ++ mark :: rest) :
    (∃ between, first = before ++ mark :: between ∧ rest = between ++ second) ∨
      ∃ between, before = first ++ between ∧ second = between ++ mark :: rest := by
  rcases List.append_eq_append_iff.mp same with inSecond | ⟨between, whole, behind⟩
  · exact .inr inSecond
  · cases between with
    | nil => exact .inr ⟨[], by simpa using whole.symm, by simpa using behind.symm⟩
    | cons c between =>
      obtain ⟨rfl, rfl⟩ := List.cons.inj behind
      exact .inl ⟨between, whole, rfl⟩

private theorem opensAnchor_tag (tag rest : List Char) :
    opensAnchor (tag ++ '>' :: rest) = opensAnchor (tag ++ ['>']) := by
  match tag with
  | [] => cases rest <;> rfl
  | [_] | _ :: _ :: _ => rfl

private theorem SafelyTagged.leadsSafely {text before rest behind : List Char} (tagged : SafelyTagged text)
    (place : text = before ++ '<' :: rest) (opens : opensAnchor (rest ++ behind) = true) :
    LeadsSafely (rest ++ behind) := by
  induction tagged generalizing before with
  | nil => simp at place
  | character plain _ ih =>
    cases before with
    | nil => exact absurd (List.cons.inj place).1 plain
    | cons c before => exact ih (List.cons.inj place).2
  | @tag tag later whole safe _ ih =>
    cases before with
    | nil =>
      obtain rfl : tag ++ '>' :: later = rest := (List.cons.inj place).2
      have here : tag ++ '>' :: later ++ behind = tag ++ '>' :: (later ++ behind) := by simp
      rw [here, opensAnchor_tag] at opens
      obtain ⟨href, checked, rfl⟩ := safe opens
      have leads := leadsSafely_of_isSafeHref checked (later ++ behind)
      simpa using leads
    | cons c before =>
      have past : (tag ++ ['>']) ++ later = before ++ '<' :: rest := by simpa using (List.cons.inj place).2
      rcases mark_cases past with ⟨between, within, -⟩ | ⟨between, -, inLater⟩
      · have member : '<' ∈ tag ++ ['>'] := by simp [within]
        simp [whole] at member
      · exact ih inLater

end places

section pages

/-- What stands in front of the stylesheet of a page. -/
def pageHead (options : RenderOptions) (tree : Tree) : String :=
  "<!DOCTYPE html>\n<html lang=\"en\">\n<head>\n<meta charset=\"utf-8\">\n" ++
    "<meta name=\"viewport\" content=\"width=device-width, initial-scale=1\">\n" ++
    element "title" (escape (documentTitle options tree)) ++ "\n<style>\n"

/-- What stands behind the stylesheet of a page. -/
def pageRest (body : String) : String :=
  "</style>\n</head>\n<body>\n" ++ body ++ "</body>\n</html>\n"

private theorem document_standalone {options : RenderOptions} (page : options.standalone = true) (tree : Tree)
    (body : String) :
    document options tree body = pageHead options tree ++ options.stylesheet.toCss ++ pageRest body := by
  unfold document pageHead pageRest
  rw [if_pos page]
  simp only [String.append_assoc]

/-- Tags, each on a line of its own. -/
def tagLines (tags : List String) : String :=
  String.join (tags.map fun tag => "<" ++ tag ++ ">\n")

private theorem safelyTagged_tagLines {tags : List String}
    (others : ∀ tag ∈ tags, '<' ∉ tag.toList ∧ opensAnchor (tag.toList ++ ['>']) = false) :
    SafelyTagged (tagLines tags).toList := by
  refine kept_safelyTagged.join fun line member => ?_
  obtain ⟨tag, place, rfl⟩ := List.mem_map.mp member
  obtain ⟨whole, other⟩ := others tag place
  have parts : ("<" ++ tag ++ ">\n").toList = '<' :: tag.toList ++ '>' :: ['\n'] := by simp
  rw [parts]
  exact .tag whole (safeTag_of_other other) (.character (by decide) .nil)

private theorem safelyTagged_pageHead (options : RenderOptions) (tree : Tree) :
    SafelyTagged (pageHead options tree).toList := by
  have parts : pageHead options tree =
      tagLines ["!DOCTYPE html", "html lang=\"en\"", "head", "meta charset=\"utf-8\"",
        "meta name=\"viewport\" content=\"width=device-width, initial-scale=1\""] ++
        ("<title>" ++ (escape (documentTitle options tree) ++ tagLines ["/title", "style"])) := by
    unfold pageHead
    simp [element, tagLines, String.append_assoc]
  have title : SafelyTagged "<title>".toList :=
    .tag (show '<' ∉ "title".toList by decide) (safeTag_of_other (by decide)) .nil
  rw [parts]
  exact kept_safelyTagged.text_append (safelyTagged_tagLines (by decide)) <| kept_safelyTagged.text_append title <|
    kept_safelyTagged.text_append (kept_safelyTagged.escaped _) (safelyTagged_tagLines (by decide))

private theorem safelyTagged_pageRest {body : String} (tagged : SafelyTagged body.toList) :
    SafelyTagged (pageRest body).toList := by
  have parts : pageRest body = tagLines ["/style", "/head", "body"] ++ body ++ tagLines ["/body", "/html"] := by
    unfold pageRest
    simp [tagLines]
  rw [parts]
  exact kept_safelyTagged.text_append (kept_safelyTagged.text_append (safelyTagged_tagLines (by decide)) tagged)
    (safelyTagged_tagLines (by decide))

/-- The place behind the text lies in the stylesheet of a page, which is the options' and no tree's. -/
def InStylesheet (options : RenderOptions) (tree : Tree) (before : List Char) : Prop :=
  options.standalone = true ∧ ∃ inside c behind,
    before = (pageHead options tree).toList ++ inside ∧ options.stylesheet.toCss.toList = inside ++ c :: behind

/-- The check of targets judges the scheme that a browser finds. So wherever the tag of an anchor opens in the HTML of a
tree, it leads nowhere but to a target with a safe scheme or with none. -/
theorem leadsSafely_render :
    (∀ (href : String) (scheme : List Char), browserScheme? href.toList = some scheme →
      (isSafeHref href = true ↔ isSafeScheme scheme = true)) ∧
    ∀ (options : RenderOptions) (tree : Tree) (before rest : List Char),
      (render options {} tree).toList = before ++ '<' :: rest → opensAnchor rest = true →
        LeadsSafely rest ∨ InStylesheet options tree before := by
  refine ⟨fun href scheme found => by rw [isSafeHref_of_browserScheme? found], ?_⟩
  intro options tree before rest place opens
  have body : Always (fun text => SafelyTagged text.toList) (content options ({} : Visitor Unit) tree) :=
    kept_safelyTagged.content tree
  have tagged := body { memory := () }
  change (document options tree ((content options ({} : Visitor Unit) tree).run { memory := () }).1).toList = _ at place
  rw [← List.append_nil rest] at opens ⊢
  cases page : options.standalone with
  | false =>
    rw [document, if_neg (by simp [page])] at place
    exact .inl (tagged.leadsSafely place opens)
  | true =>
    rw [document_standalone page, String.toList_append, String.toList_append, List.append_assoc] at place
    rcases mark_cases place with ⟨between, inHead, rfl⟩ | ⟨inside, front, beyond⟩
    · rw [List.append_assoc] at opens ⊢
      exact .inl ((safelyTagged_pageHead options tree).leadsSafely inHead opens)
    rcases mark_cases beyond with ⟨between, inSheet, -⟩ | ⟨between, -, inRest⟩
    · exact .inr ⟨page, inside, '<', between, front, inSheet⟩
    · exact .inl ((safelyTagged_pageRest tagged).leadsSafely inRest opens)

theorem leadsSafely_render_mailto :
    browserScheme? "\tMail\nto:x".toList = some "Mailto".toList ∧ isSafeHref "\tMail\nto:x" = true ∧
      LeadsSafely "a href=\"\tMail\nto:x\">x</a></p>\n".toList := by
  refine ⟨by decide, (leadsSafely_render.1 _ "Mailto".toList (by decide)).mpr (by decide), ?_⟩
  have place : (render { standalone := false } {} [.link "\tMail\nto:x" (.text "x")]).toList =
      "<p>".toList ++ '<' :: "a href=\"\tMail\nto:x\">x</a></p>\n".toList := by decide
  refine (leadsSafely_render.2 _ _ _ _ place (by decide)).resolve_right fun ⟨page, _⟩ => ?_
  exact absurd page (by decide)

end pages

end Vitae.Html
