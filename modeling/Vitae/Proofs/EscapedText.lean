import Vitae.Proofs.Fidelity
import Vitae.Proofs.InertText

/-! Escaped text is read as the text it was made from. Escaping leaves nothing that a pass towards the normal form could
take for a comment, a pipe, a line break or a declaration, and the walk then meets runs of ordinary characters and
commands that stand for one character each, which tidying puts together again. -/

namespace Vitae.Notation

open Markup Transpile

/-- The characters that a backslash before them makes text. -/
def escapable : List Char :=
  ['&', '%', '$', '#', '_', '{', '}', '|']

/-- The markup for a character; an empty group keeps the name of a backslash apart from what follows. -/
def escapedChar (c : Char) : List Char :=
  if c = '\\' then commandText "textbackslash" ++ braced []
  else if c ∈ escapable then ['\\', c]
  else [c]

def escaped (text : String) : String :=
  .ofList (text.toList.flatMap escapedChar)

/-- Holds for the characters that are their own markup. -/
def isOrdinary (c : Char) : Bool :=
  c ≠ '\\' ∧ c ∉ escapable

private theorem escapedChar_ordinary {c : Char} (ordinary : isOrdinary c = true) : escapedChar c = [c] := by
  simp only [isOrdinary, decide_eq_true_eq] at ordinary
  rw [escapedChar, if_neg ordinary.1, if_neg ordinary.2]

private theorem flatMap_escapedChar_ordinary {run : List Char} (ordinary : ∀ c ∈ run, isOrdinary c = true) :
    run.flatMap escapedChar = run := by
  induction run with
  | nil => rfl
  | cons c run ih =>
    rw [List.flatMap_cons, escapedChar_ordinary (ordinary c (by simp)), ih fun d member => ordinary d (by simp [member])]
    rfl

/-- Every other character is escaped by a backslash. -/
theorem head?_escapedChar {c : Char} (special : isOrdinary c = false) : (escapedChar c).head? = some '\\' := by
  unfold escapedChar
  split
  next => rfl
  next other =>
    have listed : c ∈ escapable := by simpa [isOrdinary, other] using special
    rw [if_pos listed]
    rfl

private theorem inert_escapedChar {c : Char} (oneLine : c ≠ '\n') {rest : List Char} (later : Inert false rest) :
    Inert false (escapedChar c ++ rest) := by
  unfold escapedChar
  split
  next => simpa [commandText, braced, Inert, declaringLetters] using later
  next noSlash =>
    have behind : Inert (c == '\\') rest := by rwa [beq_eq_false_iff_ne.mpr noSlash]
    split
    next listed =>
      have other : c ∉ declaringLetters := by
        intro letter
        simp only [escapable, List.mem_cons, List.not_mem_nil, or_false] at listed
        rcases listed with rfl | rfl | rfl | rfl | rfl | rfl | rfl | rfl
        all_goals exact absurd letter (by decide)
      exact ⟨by decide, ⟨by decide, by decide⟩, oneLine, ⟨noSlash, other⟩, behind⟩
    next unlisted =>
      refine ⟨oneLine, ⟨?_, ?_⟩, behind⟩
      all_goals
        rintro rfl
        exact unlisted (by decide)

private theorem inert_escaped {text : List Char} (oneLine : '\n' ∉ text) : Inert false (text.flatMap escapedChar) := by
  induction text with
  | nil => trivial
  | cons c rest ih =>
    rw [List.mem_cons, not_or] at oneLine
    rw [List.flatMap_cons]
    exact inert_escapedChar (Ne.symm oneLine.1) (ih oneLine.2)

section walk

variable {options : TranspileOptions} {levels : Nat} {top : Bool}

private theorem yields_escapable {c : Char} (listed : c ∈ escapable) (tail : List Char) :
    Yields options levels top ['\\', c] tail [.node (.text c.toString)] := by
  simp only [escapable, List.mem_cons, List.not_mem_nil, or_false] at listed
  have symbol : construct top '\\' (c :: tail) = (.symbol c.toString, tail) := by
    rcases listed with rfl | rfl | rfl | rfl | rfl | rfl | rfl | rfl
    all_goals rfl
  exact yields_of_construct symbol rfl

private theorem yields_backslash (tail : List Char) :
    Yields options (levels + 1) top (commandText "textbackslash" ++ braced []) tail [.node (.text "\\")] := by
  have symbol : commandConstruct top "textbackslash" (braced [] ++ tail) = (.symbol "\\", braced [] ++ tail) := rfl
  have name : Yields options (levels + 1) top (commandText "textbackslash" ++ []) (braced [] ++ tail) [.node (.text "\\")] :=
    yields_commandText (by decide) (endsName_braced [] tail) symbol rfl
  rw [List.append_nil] at name
  exact name.append (yields_braced tail balanced_nil readsAs_nil)

private theorem yields_special {c : Char} (special : isOrdinary c = false) (tail : List Char) :
    Yields options (levels + 1) top (escapedChar c) tail [.node (.text c.toString)] := by
  unfold escapedChar
  split
  next slash =>
    rw [slash]
    exact yields_backslash tail
  next other =>
    have listed : c ∈ escapable := by simpa [isOrdinary, other] using special
    rw [if_pos listed]
    exact yields_escapable listed tail

private theorem stopsText_escaped {text : List Char} (special : ∀ c rest, text = c :: rest → isOrdinary c = false) :
    StopsText (text.flatMap escapedChar) := by
  cases text with
  | nil => exact stopsText_nil
  | cons c rest =>
    obtain ⟨behind, same⟩ := List.head?_eq_some_iff.mp (head?_escapedChar (special c rest rfl))
    rw [List.flatMap_cons, same, List.cons_append]
    rintro d later rest
    obtain rfl := (List.cons.inj rest).1
    decide

private theorem isPlain_of_isOrdinary {c : Char} (ordinary : isOrdinary c = true)
    (unmarked : c ≠ lineBreakMark ∧ c ≠ separatorMark) : isPlain c = true := by
  simp only [isOrdinary, escapable, decide_eq_true_eq, List.mem_cons, List.not_mem_nil, or_false, not_or] at ordinary
  simp [isPlain, ordinary, unmarked]

theorem yields_plain {run tail : List Char} (some : run ≠ []) (untypeset : options.typography = false)
    (plain : ∀ c ∈ run, isPlain c = true) (stops : StopsText tail) :
    Yields options levels top run tail [.node (.text (.ofList run))] := by
  have shown : String.ofList run ≠ "" := by simpa using some
  have literal : Literal options.typography (String.ofList run).toList := by
    rw [String.toList_ofList]
    exact fun c member => ⟨plain c member, fun typeset => by simp [untypeset] at typeset⟩
  simpa using yields_text shown literal stops

variable (options levels top) in
/-- The walk over the markup passes texts only, which together are this text. -/
def PassesText (markup text : List Char) : Prop :=
  ∃ values : List String, String.join values = .ofList text ∧
    parts options levels top markup = pure ((values.map Node.text).map .node)

theorem PassesText.append {first markup shown text : List Char} (later : PassesText options levels top markup text)
    (earlier : List String)
    (head : Yields options levels top first markup ((earlier.map Node.text).map .node))
    (same : String.join earlier = .ofList shown) : PassesText options levels top (first ++ markup) (shown ++ text) := by
  obtain ⟨values, joined, passed⟩ := later
  refine ⟨earlier ++ values, ?_, ?_⟩
  · rw [String.join_append, same, joined, String.ofList_append]
  · unfold Yields at head
    rw [head, passed]
    simp

theorem PassesText.after {first markup shown text : List Char} (later : PassesText options levels top markup text)
    (head : Yields options levels top first markup [.node (.text (.ofList shown))]) :
    PassesText options levels top (first ++ markup) (shown ++ text) :=
  later.append [.ofList shown] head (by simp [String.join_cons])

private theorem passesText_escaped (untypeset : options.typography = false) (text : List Char)
    (unmarked : ∀ c ∈ text, c ≠ lineBreakMark ∧ c ≠ separatorMark) :
    PassesText options (levels + 1) top (text.flatMap escapedChar) text := by
  match text with
  | [] => exact ⟨[], rfl, parts_nil ..⟩
  | c :: rest =>
    cases kind : isOrdinary c with
    | false =>
      have later := passesText_escaped untypeset rest fun d member => unmarked d (by simp [member])
      rw [List.flatMap_cons]
      exact later.after (yields_special kind _)
    | true =>
      -- The run of ordinary characters at the head is one text.
      have split : c :: rest = (c :: rest.takeWhile isOrdinary) ++ rest.dropWhile isOrdinary := by simp
      have ordinary : ∀ d ∈ c :: rest.takeWhile isOrdinary, isOrdinary d = true :=
        List.forall_mem_cons.mpr ⟨kind, List.all_eq_true.mp List.all_takeWhile⟩
      have special : ∀ d later, rest.dropWhile isOrdinary = d :: later → isOrdinary d = false := by
        intro d later same
        have head := List.head?_dropWhile_not isOrdinary rest
        simpa [same] using head
      have shorter : (rest.dropWhile isOrdinary).length < (c :: rest).length :=
        Nat.lt_succ_of_le (length_dropWhile_le isOrdinary rest)
      have later := passesText_escaped untypeset (rest.dropWhile isOrdinary) fun d member =>
        unmarked d (by rw [split]; exact List.mem_append_right _ member)
      rw [split, List.flatMap_append, flatMap_escapedChar_ordinary ordinary]
      refine later.after (yields_plain (List.cons_ne_nil c _) untypeset (fun d member => ?_) (stopsText_escaped special))
      exact isPlain_of_isOrdinary (ordinary d member) (unmarked d (by rw [split]; exact List.mem_append_left _ member))
termination_by text.length
decreasing_by
  · exact Nat.lt_succ_self _
  · exact shorter

end walk

theorem mergeTexts_texts (first : String) (later : List String) :
    Node.mergeTexts ((first :: later).map .text) = [.text (String.join (first :: later))] := by
  induction later generalizing first with
  | nil => simp [Node.mergeTexts, String.join_cons]
  | cons second later ih =>
    rw [List.map_cons, Node.mergeTexts, ih]
    simp only [String.join_cons]

theorem tidy_texts {values : List String} {text : String} (joined : String.join values = text) (shown : text ≠ "")
    (spaced : SingleSpaced text.toList) (start : text.toList.head? ≠ some ' ') (stop : text.toList.getLast? ≠ some ' ') :
    Node.tidy (values.map .text) = [.text text] := by
  cases values with
  | nil => exact absurd joined.symm shown
  | cons first later =>
    rw [Node.tidy, mergeTexts_texts, joined, Node.tidyTexts,
      tidyText_eq_self spaced (fun space => absurd space start) (fun space => absurd space stop)]
    split
    next none => exact absurd (String.toList_eq_nil_iff.mp none) shown
    next => rw [String.ofList_toList, Node.tidyTexts]

end Vitae.Notation

namespace Vitae

open Notation Markup

/-- Escaped text of one line with single spaces is read as that text, without warnings, where nothing is composed or
typeset and groups may be nested at all. -/
theorem parse_escaped (options : TranspileOptions) (text : String) (uncomposed : options.normal.composeUnicode = false)
    (untypeset : options.typography = false) (nests : 1 ≤ options.maxDepth) (shown : text ≠ "")
    (spaced : SingleSpaced text.toList) (start : text.toList.head? ≠ some ' ') (stop : text.toList.getLast? ≠ some ' ')
    (unmarked : ∀ c ∈ text.toList, c ≠ lineBreakMark ∧ c ≠ separatorMark) :
    parse options (escaped text) = ⟨[.text text], []⟩ := by
  have oneLine : '\n' ∉ text.toList := fun member => absurd (spaced.1 '\n' member rfl) (by decide)
  have normal : normalize options.normal (escaped text) = escaped text := by
    refine normalizeWith_of_inert ?_ (by simp [uncomposed])
    rw [escaped, String.toList_ofList]
    exact inert_escaped oneLine
  obtain ⟨levels, same⟩ : ∃ levels, options.maxDepth = levels + 1 := ⟨options.maxDepth - 1, by omega⟩
  have passes : PassesText options (levels + 1) true (text.toList.flatMap escapedChar) text.toList :=
    passesText_escaped untypeset text.toList unmarked
  obtain ⟨values, joined, passed⟩ := passes
  rw [String.ofList_toList] at joined
  have reads : Transpile.sequence options (options.maxDepth + 1) true (escaped text).toList = pure [.text text] := by
    rw [escaped, String.toList_ofList, same, Transpile.sequence_succ, passed, map_pure, Transpile.arrange, gather_nodes,
      tidy_texts joined shown spaced start stop]
    rfl
  simp [parse, normal, transpile, reads]

/-- Every character that is escaped, beside others that only look as if they had to be. -/
def punctuation : String :=
  "\\ A & B_1 \\\x7bx\x7d 100% | $5 # [y] \\\\d --"

theorem parse_escaped_punctuation :
    let options : TranspileOptions := { normal := { composeUnicode := false }, typography := false, maxDepth := 1 }
    punctuation ≠ "" ∧ SingleSpaced punctuation.toList ∧ punctuation.toList.head? ≠ some ' ' ∧
      punctuation.toList.getLast? ≠ some ' ' ∧
      (∀ c ∈ punctuation.toList, c ≠ lineBreakMark ∧ c ≠ separatorMark) ∧
      parse options (escaped punctuation) = ⟨[.text punctuation], []⟩ := by
  intro options
  have shown : punctuation ≠ "" := by decide +kernel
  have spaced : SingleSpaced punctuation.toList := by decide +kernel
  have start : punctuation.toList.head? ≠ some ' ' := by decide +kernel
  have stop : punctuation.toList.getLast? ≠ some ' ' := by decide +kernel
  have unmarked : ∀ c ∈ punctuation.toList, c ≠ lineBreakMark ∧ c ≠ separatorMark := by
    have each : (punctuation.toList.all fun c => c ≠ lineBreakMark ∧ c ≠ separatorMark) = true := by decide +kernel
    simpa using each
  exact ⟨shown, spaced, start, stop, unmarked,
    parse_escaped options punctuation rfl rfl (Nat.le_refl 1) shown spaced start stop unmarked⟩

end Vitae
