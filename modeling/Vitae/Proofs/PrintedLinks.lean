import Mathlib.Data.List.Basic
import Vitae.Proofs.HtmlOutput
import Vitae.Render.Markdown

/-! Links in printed text. A target stands between `](` and `)` as it is, so a reader finds its end only where the
target holds no white space and its parentheses match. What Markdown does to a text with links in it, joining, trimming
and indenting, leaves every target of one line where it was printed. -/

namespace Vitae.Markdown

section destination

/-- The destination of a link as it is read behind `](`: it ends before white space and before a closing parenthesis
that none in it opens; `depth` of those read already are open. -/
def destination (depth : Nat) : List Char → List Char
  | [] => []
  | c :: rest =>
    if Text.isSpace c then []
    else if c = '(' then c :: destination (depth + 1) rest
    else if c = ')' then (if depth = 0 then [] else c :: destination (depth - 1) rest)
    else c :: destination depth rest

/-- Holds for a target without white space whose parentheses match, `depth` of them being open before it. -/
def isDirect (depth : Nat) : List Char → Bool
  | [] => depth == 0
  | c :: rest =>
    if Text.isSpace c then false
    else if c = '(' then isDirect (depth + 1) rest
    else if c = ')' then depth != 0 && isDirect (depth - 1) rest
    else isDirect depth rest

/-- What is read of a target that is closed is the target just if it is direct. -/
theorem destination_eq_iff (depth : Nat) (href after : List Char) :
    destination depth (href ++ ')' :: after) = href ↔ isDirect depth href = true := by
  induction href generalizing depth with
  | nil => cases depth <;> simp [destination, isDirect, Text.isSpace]
  | cons c href ih =>
    rw [List.cons_append, destination, isDirect]
    split
    next => simp
    next =>
      split
      next => rw [List.cons_inj_right, ih]
      next =>
        split
        next =>
          split
          next none => simp [none]
          next some => simp [some, ih]
        next => rw [List.cons_inj_right, ih]

example : destination 0 "a_(b)) and (c)".toList = "a_(b)".toList := by
  decide

end destination

def isOneLine (href : String) : Bool :=
  !href.toList.contains '\n'

/-- The targets stand in the text in this order, none over another, each behind `](` and before `)`. -/
inductive Printed : List String → List Char → Prop
  | nil : Printed [] []
  | skip (c : Char) {targets : List String} {text : List Char} : Printed targets text → Printed targets (c :: text)
  | link {href : String} {targets : List String} {text : List Char} :
    isOneLine href = true → Printed targets text → Printed (href :: targets) (']' :: '(' :: href.toList ++ ')' :: text)

/-- The same with the place of each target in the text, given by what stands in the text from there on. -/
inductive PrintedAt : List (String × List Char) → List Char → Prop
  | nil : PrintedAt [] []
  | skip (c : Char) {places : List (String × List Char)} {text : List Char} :
    PrintedAt places text → PrintedAt places (c :: text)
  | link {href : String} {places : List (String × List Char)} {text : List Char} :
    isOneLine href = true → PrintedAt places text →
      PrintedAt ((href, href.toList ++ ')' :: text) :: places) (']' :: '(' :: href.toList ++ ')' :: text)

/-- At its place in the text a target is read back just if it is direct. -/
theorem PrintedAt.destination_eq_iff {places : List (String × List Char)} {text : List Char}
    (printed : PrintedAt places text) :
    ∀ place ∈ places, destination 0 place.2 = place.1.toList ↔ isDirect 0 place.1.toList = true := by
  induction printed with
  | nil => exact List.forall_mem_nil _
  | skip _ _ ih => exact ih
  | @link href _ text _ _ ih =>
    exact List.forall_mem_cons.mpr ⟨Markdown.destination_eq_iff 0 href.toList text, ih⟩

namespace Printed

variable {targets others : List String} {text rest : List Char}

theorem append (first : Printed targets text) (second : Printed others rest) :
    Printed (targets ++ others) (text ++ rest) := by
  induction first with
  | nil => exact second
  | skip c _ ih => exact .skip c ih
  | link oneLine _ ih =>
    simp only [List.cons_append, List.append_assoc]
    exact .link oneLine ih

theorem exists_places (printed : Printed targets text) :
    ∃ places, places.map Prod.fst = targets ∧ PrintedAt places text := by
  induction printed with
  | nil => exact ⟨[], rfl, .nil⟩
  | skip c _ ih =>
    obtain ⟨places, same, placed⟩ := ih
    exact ⟨places, same, .skip c placed⟩
  | @link href targets text oneLine _ ih =>
    obtain ⟨places, same, placed⟩ := ih
    exact ⟨(href, href.toList ++ ')' :: text) :: places, congrArg (href :: ·) same, .link oneLine placed⟩

theorem of_text (text : List Char) : Printed [] text := by
  induction text with
  | nil => exact .nil
  | cons c rest ih => exact .skip c ih

theorem behind (before : List Char) (printed : Printed targets text) : Printed targets (before ++ text) :=
  (of_text before).append printed

theorem before (printed : Printed targets text) (after : List Char) : Printed targets (text ++ after) := by
  have whole := printed.append (of_text after)
  rwa [List.append_nil] at whole

/-- A link begins with no white space. -/
theorem of_space {c : Char} (space : Text.isSpace c = true) (printed : Printed targets (c :: text)) :
    Printed targets text := by
  cases printed with
  | skip _ printed => exact printed
  | link => contradiction

private theorem of_append_space {c : Char} (space : Text.isSpace c = true) (printed : Printed targets (text ++ [c])) :
    Printed targets text := by
  generalize whole : text ++ [c] = longer at printed
  induction printed generalizing text with
  | nil => simp at whole
  | skip d printed ih =>
    cases text with
    | nil =>
      obtain ⟨-, rfl⟩ := List.cons.inj whole
      exact printed
    | cons e text =>
      obtain ⟨rfl, tail⟩ := List.cons.inj whole
      exact .skip e (ih tail)
  | @link href targets later oneLine printed ih =>
    rcases List.eq_nil_or_concat later with rfl | ⟨inner, d, rfl⟩
    · have ends := congrArg List.getLast? whole
      rw [List.getLast?_concat, List.getLast?_append] at ends
      obtain rfl := Option.some.inj ends
      contradiction
    · have split : text = ']' :: '(' :: href.toList ++ ')' :: inner ∧ [c] = [d] := by
        refine List.append_inj' ?_ rfl
        rw [whole]
        simp
      obtain ⟨rfl, same⟩ := split
      rw [List.singleton_inj.mp same] at ih
      exact .link oneLine (ih (by simp))

theorem trim (printed : Printed targets text) : Printed targets (Text.trim text) := by
  have leading {text : List Char} (printed : Printed targets text) : Printed targets (text.dropWhile Text.isSpace) := by
    induction text with
    | nil => exact printed
    | cons c rest ih =>
      rw [List.dropWhile_cons]
      split
      next space => exact ih (printed.of_space space)
      next => exact printed
  have trailing {reversed : List Char} (printed : Printed targets reversed.reverse) :
      Printed targets (reversed.dropWhile Text.isSpace).reverse := by
    induction reversed with
    | nil => exact printed
    | cons c rest ih =>
      rw [List.dropWhile_cons]
      split
      next space =>
        rw [List.reverse_cons] at printed
        exact ih (printed.of_append_space space)
      next => exact printed
  refine trailing ?_
  rw [List.reverse_reverse]
  exact leading printed

private theorem eq_nil_of_space (printed : Printed targets text) (blank : text.all Text.isSpace = true) :
    targets = [] := by
  induction printed with
  | nil => rfl
  | skip c _ ih => exact ih (by simp_all)
  | link => exact absurd blank (by simp [Text.isSpace])

end Printed

/-- Each of several texts has its share of the targets, in order. -/
inductive PrintedAll : List String → List (List Char) → Prop
  | nil : PrintedAll [] []
  | cons {targets others : List String} {text : List Char} {texts : List (List Char)} :
    Printed targets text → PrintedAll others texts → PrintedAll (targets ++ others) (text :: texts)

namespace PrintedAll

variable {targets others : List String} {texts more : List (List Char)}

theorem singleton {text : List Char} (printed : Printed targets text) : PrintedAll targets [text] := by
  have one := PrintedAll.cons printed .nil
  rwa [List.append_nil] at one

theorem append (first : PrintedAll targets texts) (second : PrintedAll others more) :
    PrintedAll (targets ++ others) (texts ++ more) := by
  induction first with
  | nil => exact second
  | cons printed _ ih =>
    rw [List.append_assoc]
    exact .cons printed ih

private theorem of_append (printed : PrintedAll targets (texts ++ more)) :
    ∃ before behind, targets = before ++ behind ∧ PrintedAll before texts ∧ PrintedAll behind more := by
  induction texts generalizing targets with
  | nil => exact ⟨[], targets, rfl, .nil, printed⟩
  | cons text texts ih =>
    cases printed with
    | cons first rest =>
      obtain ⟨before, behind, rfl, inside, outside⟩ := ih rest
      exact ⟨_, behind, (List.append_assoc _ _ _).symm, .cons first inside, outside⟩

theorem map {change : List Char → List Char} (kept : ∀ targets text, Printed targets text → Printed targets (change text))
    (printed : PrintedAll targets texts) : PrintedAll targets (texts.map change) := by
  induction printed with
  | nil => exact .nil
  | cons first _ ih => exact .cons (kept _ _ first) ih

/-- Texts without a target may be left out. -/
theorem filter {keeps : List Char → Bool} (void : ∀ targets text, keeps text = false → Printed targets text → targets = [])
    (printed : PrintedAll targets texts) : PrintedAll targets (texts.filter keeps) := by
  induction printed with
  | nil => exact .nil
  | @cons targets others text texts first _ ih =>
    cases kept : keeps text with
    | true =>
      rw [List.filter_cons_of_pos kept]
      exact .cons first ih
    | false =>
      rw [List.filter_cons_of_neg (by simp [kept]), void targets text kept first]
      exact ih

theorem join {texts : List String} (printed : PrintedAll targets (texts.map String.toList)) :
    Printed targets (String.join texts).toList := by
  induction texts generalizing targets with
  | nil =>
    cases printed
    exact .nil
  | cons text texts ih =>
    cases printed with
    | cons first rest =>
      rw [String.join_cons, String.toList_append]
      exact first.append (ih rest)

theorem intercalate (between : String) {texts : List String} (printed : PrintedAll targets (texts.map String.toList)) :
    Printed targets (between.intercalate texts).toList := by
  induction texts generalizing targets with
  | nil =>
    cases printed
    exact .of_text _
  | cons text texts ih =>
    cases printed with
    | cons first rest =>
      cases texts with
      | nil =>
        cases rest
        simpa using first
      | cons second texts =>
        rw [String.intercalate_cons_of_ne_nil (by simp), String.toList_append, String.toList_append]
        exact (first.before between.toList).append (ih rest)

end PrintedAll

section lines

/-- A word without the separator goes to the first piece. -/
theorem splitOnChar_append {separator : Char} {word : List Char} (absent : separator ∉ word) (text : List Char) :
    ∃ piece later, Text.splitOnChar separator text = piece :: later ∧
      Text.splitOnChar separator (word ++ text) = (word ++ piece) :: later := by
  induction word with
  | nil =>
    cases text with
    | nil => exact ⟨[], [], rfl, rfl⟩
    | cons c rest =>
      simp only [List.nil_append, Text.splitOnChar]
      split
      next => exact ⟨[], _, rfl, rfl⟩
      next =>
        split
        next => exact ⟨[c], [], rfl, rfl⟩
        next piece later _ => exact ⟨c :: piece, later, rfl, rfl⟩
  | cons c word ih =>
    simp only [List.mem_cons, not_or] at absent
    obtain ⟨piece, later, plain, whole⟩ := ih absent.2
    refine ⟨piece, later, plain, ?_⟩
    rw [List.cons_append, Text.splitOnChar, if_neg (Ne.symm absent.1), whole, List.cons_append]

theorem Printed.splitOnChar {targets : List String} {text : List Char} (printed : Printed targets text) :
    PrintedAll targets (Text.splitOnChar '\n' text) := by
  induction printed with
  | nil => exact .singleton .nil
  | @skip c targets text printed ih =>
    by_cases line : c = '\n'
    · rw [Text.splitOnChar, if_pos line]
      exact PrintedAll.cons .nil ih
    · have absent : '\n' ∉ [c] := by simpa using Ne.symm line
      obtain ⟨piece, later, plain, whole⟩ := splitOnChar_append absent text
      rw [plain] at ih
      cases ih with
      | cons first rest =>
        rw [List.singleton_append] at whole
        rw [whole]
        exact .cons (.skip c first) rest
  | @link href targets text oneLine printed ih =>
    have absent : '\n' ∉ ']' :: '(' :: href.toList ++ [')'] := by simpa [isOneLine] using oneLine
    obtain ⟨piece, later, plain, whole⟩ := splitOnChar_append absent text
    rw [plain] at ih
    cases ih with
    | cons first rest =>
      rw [List.append_assoc, List.append_assoc] at whole
      change Text.splitOnChar '\n' (']' :: '(' :: href.toList ++ ')' :: text) = _ at whole
      rw [whole]
      exact .cons (.link oneLine first) rest

/-- The lines of a text have its targets. -/
theorem Printed.lines {targets : List String} {text : List Char} (printed : Printed targets text) :
    PrintedAll targets (Text.lines text) := by
  have void (targets : List String) (line : List Char) (kept : decide (line ≠ []) = false)
      (printed : Printed targets line) : targets = [] := by
    obtain rfl : line = [] := by simpa using kept
    exact printed.eq_nil_of_space rfl
  have chomped (targets : List String) (line : List Char) (printed : Printed targets line) :
      Printed targets (if line.getLast? = some '\r' then line.dropLast else line) := by
    split
    next last =>
      obtain ⟨inner, rfl⟩ := List.getLast?_eq_some_iff.mp last
      rw [List.dropLast_concat]
      exact printed.of_append_space (by decide)
    next => exact printed
  have pieces := printed.splitOnChar
  unfold Text.lines
  generalize Text.splitOnChar '\n' text = texts at pieces
  rcases List.eq_nil_or_concat texts with rfl | ⟨inner, last, rfl⟩
  · exact pieces
  · rw [List.concat_eq_append] at pieces ⊢
    obtain ⟨before, behind, rfl, first, second⟩ := pieces.of_append
    simp only [List.dropLast_concat, List.getLast?_concat]
    exact (first.map chomped).append (second.filter void)

end lines

section markup

open Render

variable {targets others : List String}

theorem Printed.trimmed {text : String} (printed : Printed targets text.toList) :
    Printed targets text.trimmed.toList := by
  rw [String.toList_trimmed]
  exact printed.trim

theorem Printed.mark (style : SpanStyle) {text : String} (printed : Printed targets text.toList) :
    Printed targets (mark style text).toList := by
  cases style with
  | bold | italic | underline =>
    simp only [Markdown.mark, String.toList_append]
    exact (printed.behind _).before _
  | smallCaps | accent => exact printed

theorem Printed.styledText (style : SpanStyle) {text : String} (printed : Printed targets text.toList) :
    Printed targets (styledText style text).toList := by
  unfold Markdown.styledText
  split
  next => exact printed
  next =>
    simp only [String.toList_append]
    exact ((printed.trimmed.mark style).behind _).before _

/-- A target that is not safe is not printed. -/
theorem Printed.linkText (href : String) {label : String} (printed : Printed targets label.toList) :
    Printed (targets ++ (if isSafeHref href then [href] else []).filter isOneLine) (linkText href label).toList := by
  unfold Markdown.linkText
  split
  next =>
    have whole : ("[" ++ label.trimmed ++ "](" ++ href ++ ")").toList =
        (['['] ++ label.trimmed.toList) ++ (']' :: '(' :: href.toList ++ ')' :: []) := by simp
    have labelled := printed.trimmed.behind ['[']
    rw [whole]
    cases oneLine : isOneLine href with
    | true =>
      rw [List.filter_cons_of_pos oneLine]
      exact labelled.append (.link oneLine .nil)
    | false =>
      rw [List.filter_cons_of_neg (by simp [oneLine])]
      exact labelled.append (.of_text _)
  next =>
    rw [List.filter_nil, List.append_nil]
    exact printed.trimmed

theorem Printed.paragraph {run : String} (printed : Printed targets run.toList) :
    Printed targets (paragraph run).toList := by
  unfold Markdown.paragraph
  split
  next blank =>
    rw [printed.eq_nil_of_space blank]
    exact .nil
  next =>
    rw [String.toList_append]
    exact printed.trimmed.before _

theorem Printed.joinRow {left right : String} (first : Printed targets left.toList)
    (second : Printed others right.toList) : Printed (targets ++ others) (joinRow left right).toList := by
  unfold Markdown.joinRow
  split
  next blank =>
    rw [first.eq_nil_of_space blank]
    exact second.trimmed
  next =>
    split
    next blank =>
      rw [second.eq_nil_of_space blank, List.append_nil]
      exact first.trimmed
    next =>
      simp only [String.toList_append]
      exact (first.trimmed.before _).append second.trimmed

private theorem Printed.eq_nil_of_isEmpty {text : String} (printed : Printed targets text.toList)
    (empty : text.isEmpty = true) : targets = [] := by
  rw [String.isEmpty_iff.mp empty] at printed
  exact printed.eq_nil_of_space rfl

theorem Printed.joinRows {first second : String} (upper : Printed targets first.toList)
    (lower : Printed others second.toList) : Printed (targets ++ others) (joinRows first second).toList := by
  unfold Markdown.joinRows
  split
  next empty =>
    rw [upper.eq_nil_of_isEmpty empty]
    split
    next empty =>
      rw [lower.eq_nil_of_isEmpty empty]
      exact .nil
    next =>
      rw [String.toList_append]
      exact lower.before _
  next =>
    split
    next empty =>
      rw [lower.eq_nil_of_isEmpty empty, List.append_nil, String.toList_append]
      exact upper.before _
    next =>
      simp only [String.toList_append]
      exact ((upper.before _).append lower).before _

theorem Printed.itemText (options : RenderOptions) (bulleted : Bool) (indent : Nat) {line : String}
    (printed : Printed targets line.toList) : Printed targets (itemText options bulleted indent line).toList := by
  unfold Markdown.itemText
  split
  next =>
    simp only [String.toList_append]
    exact (printed.trimmed.behind _).before _
  next =>
    split
    next blank =>
      rw [printed.eq_nil_of_space blank]
      exact .nil
    next =>
      simp only [String.toList_append]
      exact (printed.trimmed.behind _).before _

theorem Printed.indented (indent : Nat) {block : String} (printed : Printed targets block.toList) :
    Printed targets (indented indent block).toList := by
  have void (targets : List String) (line : List Char) (kept : (!line.all Text.isSpace) = false)
      (printed : Printed targets line) : targets = [] :=
    printed.eq_nil_of_space (by simpa using kept)
  have line (targets : List String) (line : List Char) (printed : Printed targets line) :
      Printed targets (padding (indent + 1) ++ String.ofList (Text.trim line) ++ "\n").toList := by
    simp only [String.toList_append, String.toList_ofList]
    exact (printed.trim.behind _).before _
  have texts := (printed.lines.filter void).map line
  refine PrintedAll.join ?_
  rwa [List.map_map]

/-- A run of inline pieces is finished as a whole, so its links are kept where that keeps them. -/
theorem PrintedAll.layout {paragraph : String → String} {pieces : List Piece} {run : String} {done : List String}
    (finishes : ∀ targets run, Printed targets run.toList → Printed targets (paragraph run).toList)
    (begun : Printed done run.toList) (printed : PrintedAll targets (pieces.map fun piece => (Html.shown piece).toList)) :
    Printed (done ++ targets) (layout paragraph run pieces).toList := by
  induction pieces generalizing run done targets with
  | nil =>
    cases printed
    rw [List.append_nil]
    exact finishes done run begun
  | cons piece pieces ih =>
    cases printed with
    | @cons targets others _ _ first rest =>
      cases piece with
      | inline text =>
        have longer : Printed (done ++ targets) (run ++ text).toList := by
          rw [String.toList_append]
          exact begun.append first
        rw [← List.append_assoc]
        exact ih longer rest
      | block text =>
        rw [Render.layout, String.toList_append, String.toList_append, List.append_assoc]
        exact (finishes done run begun).append (first.append (ih (.of_text _) rest))

end markup

end Vitae.Markdown
