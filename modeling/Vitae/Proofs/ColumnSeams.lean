import Vitae.Proofs.AlikeWalks
import Vitae.Proofs.HtmlOutput
import Vitae.Proofs.ShownLines

/-! Where two columns meet. The columns of a group are one flow, so the line that the first ends in goes on in the line
that the second begins with; only a block on either side parts them, as every block leaves an empty line behind it. -/

namespace Vitae

namespace Markdown

open Render
open Html (Always always_pure always_consult)

section closed

/-- A text that shows something leaves an empty line behind it. -/
def Closed (text : String) : Prop :=
  text.isBlank = true ∨ 2 ≤ (Text.trailing text.toList).count '\n'

/-- Lines that are all ended, or none. -/
def Ended (text : String) : Prop :=
  ∀ c ∈ text.toList.getLast?, c = '\n'

private theorem closed_empty : Closed "" :=
  .inl rfl

private theorem closed_append_newlines (text : String) : Closed (text ++ "\n\n") := by
  right
  rw [String.toList_append, Text.trailing_append_blank (by simp [Text.isSpace]), List.count_append]
  exact Nat.le_add_left _ _

theorem Closed.append {first second : String} (one : Closed first) (two : Closed second) : Closed (first ++ second) := by
  cases blank : second.isBlank with
  | true =>
    cases one with
    | inl none =>
      left
      rw [String.isBlank, String.toList_append, List.all_append]
      exact Bool.and_eq_true_iff.mpr ⟨none, blank⟩
    | inr ends =>
      right
      rw [String.toList_append, Text.trailing_append_blank (List.all_eq_true.mp blank), List.count_append]
      exact Nat.le_add_right_of_le ends
  | false =>
    right
    rw [String.toList_append, Text.trailing_append_of_any (Text.any_of_isBlank blank)]
    exact two.resolve_left (by simp [blank])

private theorem closed_paragraph (run : String) : Closed (paragraph run) := by
  unfold paragraph
  split
  · exact closed_empty
  · exact closed_append_newlines _

private theorem closed_joinRows (first second : String) : Closed (joinRows first second) := by
  unfold joinRows
  split
  · split
    · exact closed_empty
    · exact closed_append_newlines _
  · split
    · exact closed_append_newlines _
    · exact closed_append_newlines _

private theorem ended_empty : Ended "" := by
  simp [Ended]

private theorem ended_append_newline (text : String) : Ended (text ++ "\n") := by
  simp [Ended]

theorem Ended.append {first second : String} (one : Ended first) (two : Ended second) : Ended (first ++ second) := by
  rw [Ended, String.toList_append]
  exact Text.forall_getLast?_append one two

private theorem ended_join {texts : List String} (each : ∀ text ∈ texts, Ended text) : Ended (String.join texts) := by
  induction texts with
  | nil => exact ended_empty
  | cons text texts ih =>
    rw [List.forall_mem_cons] at each
    rw [String.join_cons]
    exact each.1.append (ih each.2)

/-- A list among blocks is ended once more. -/
theorem Ended.closed {text : String} (ended : Ended text) : Closed (text ++ "\n") := by
  rcases List.eq_nil_or_concat text.toList with none | ⟨before, c, whole⟩
  · rw [String.toList_eq_nil_iff.mp none]
    exact .inl rfl
  · obtain rfl : c = '\n' := ended c (by simp [whole])
    have same : text ++ "\n" = String.ofList before ++ "\n\n" := by
      rw [← String.toList_inj]
      simp [whole]
    rw [same]
    exact closed_append_newlines _

private theorem ended_itemText (options : RenderOptions) (bulleted : Bool) (indent : Nat) (line : String) :
    Ended (itemText options bulleted indent line) := by
  unfold itemText
  split
  · exact ended_append_newline _
  · split
    · exact ended_empty
    · simp [Ended]

private theorem ended_indented (indent : Nat) (block : String) : Ended (indented indent block) := by
  refine ended_join fun text member => ?_
  obtain ⟨line, _, rfl⟩ := List.mem_map.mp member
  exact ended_append_newline _

/-- What a piece owes to the pieces behind it. -/
def Closes : Context → Piece → Prop
  | .flow, .inline _ => True
  | .flow, .block text => Closed text
  | .item _, .inline _ => False
  | .item _, .block text => Ended text

def AllClose (context : Context) (pieces : List Piece) : Prop :=
  ∀ piece ∈ pieces, Closes context piece

theorem AllClose.append {context : Context} {first second : List Piece} (one : AllClose context first)
    (two : AllClose context second) : AllClose context (first ++ second) :=
  List.forall_mem_append.mpr ⟨one, two⟩

private theorem closed_layout {pieces : List Piece} (each : AllClose .flow pieces) (run : String) :
    Closed (layout paragraph run pieces) := by
  induction pieces generalizing run with
  | nil => exact closed_paragraph run
  | cons piece pieces ih =>
    obtain ⟨first, later⟩ := List.forall_mem_cons.mp each
    cases piece with
    | inline text => exact ih later _
    | block text => exact ((closed_paragraph run).append first).append (ih later "")

private theorem ended_layout {indent : Nat} {pieces : List Piece} (each : AllClose (.item indent) pieces) :
    Ended (layout id "" pieces) := by
  induction pieces with
  | nil => exact ended_empty
  | cons piece pieces ih =>
    obtain ⟨first, later⟩ := List.forall_mem_cons.mp each
    cases piece with
    | inline text => exact first.elim
    | block text => exact (ended_empty.append first).append (ih later)

end closed

section walk

variable {σ : Type} {options : RenderOptions}

private theorem closes_blockPiece (context : Context) (node : Node) {content : Walk σ String}
    (inside : Always Closed content) :
    Always (AllClose context) (blockPiece options {} context node content) := by
  refine (always_consult node inside).bind fun text closed => always_pure ?_
  refine List.forall_mem_singleton.mpr ?_
  cases context with
  | flow => exact closed
  | item indent => exact ended_indented indent text

private theorem closes_inlinePieces (context : Context) (node : Node) :
    Always (AllClose context) (inlinePieces options ({} : Visitor σ) context node) := by
  cases context with
  | flow =>
    have all : Always (fun _ => True) (inline options ({} : Visitor σ) node) := fun _ => trivial
    exact all.bind fun text _ => always_pure (List.forall_mem_singleton.mpr trivial)
  | item indent => exact always_pure (List.forall_mem_nil _)

mutual

private theorem closes_pieces (context : Context) (node : Node) :
    Always (AllClose context) (pieces options ({} : Visitor σ) context node) := by
  cases node with
  | fragment children =>
    rw [pieces]
    exact closes_allPieces context children
  | header name lines contacts =>
    rw [pieces]
    have all : Always (fun _ => True) (contactTexts options ({} : Visitor σ) contacts) := fun _ => trivial
    refine closes_blockPiece context _ (all.bind fun shown _ => always_pure ?_)
    refine (closed_append_newlines _).append ?_
    split
    · exact closed_empty
    · exact closed_append_newlines _
  | titled title body =>
    rw [pieces]
    refine closes_blockPiece context _ ((closes_allPieces .flow body).bind fun shown each => always_pure ?_)
    exact (closed_append_newlines _).append (closed_layout each "")
  | entry primary secondary tertiary quaternary =>
    rw [pieces]
    have all (style : SpanStyle) (left right : Node) :
        Always (fun _ => True) (row options ({} : Visitor σ) style left right) := fun _ => trivial
    refine closes_blockPiece context _ ((all .bold primary secondary).bind fun first _ => ?_)
    exact (all .italic tertiary quaternary).bind fun second _ => always_pure (closed_joinRows first second)
  | itemList bulleted items =>
    rw [pieces]
    have ended : Always (fun text => Closes context (.block text))
        (consult options ({} : Visitor σ) (.itemList bulleted items) do
          return (← itemTexts options {} bulleted context.listIndent items) ++ context.listEnd) := by
      refine always_consult _ ((ended_itemTexts bulleted _ items).bind fun text ended => always_pure ?_)
      cases context with
      | flow => exact ended.closed
      | item indent => exact ended.append ended_empty
    exact ended.bind fun text closes => always_pure (List.forall_mem_singleton.mpr closes)
  | columnGroup columns =>
    rw [pieces]
    refine closes_blockPiece context _ ((closes_allPieces .flow columns).bind fun shown each => always_pure ?_)
    exact closed_layout each ""
  | centered body =>
    rw [pieces]
    refine closes_blockPiece context _ ((closes_allPieces .flow body).bind fun shown each => always_pure ?_)
    exact closed_layout each ""
  | styled | link | lineBreak | separator | text => exact closes_inlinePieces context _
termination_by structural node

private theorem closes_allPieces (context : Context) (nodes : List Node) :
    Always (AllClose context) (allPieces options ({} : Visitor σ) context nodes) := by
  cases nodes with
  | nil =>
    rw [allPieces]
    exact always_pure (List.forall_mem_nil _)
  | cons node rest =>
    rw [allPieces]
    refine (closes_pieces context node).bind fun first one => ?_
    exact (closes_allPieces context rest).bind fun later two => always_pure (one.append two)
termination_by structural nodes

private theorem ended_itemTexts (bulleted : Bool) (indent : Nat) (items : List Node) :
    Always Ended (itemTexts options ({} : Visitor σ) bulleted indent items) := by
  cases items with
  | nil =>
    rw [itemTexts]
    exact always_pure ended_empty
  | cons item rest =>
    rw [itemTexts]
    have all : Always (fun _ => True) (itemLine options ({} : Visitor σ) item) := fun _ => trivial
    refine all.bind fun line _ => (closes_pieces (.item indent) item).bind fun blocks each => ?_
    refine (ended_itemTexts bulleted indent rest).bind fun others ended => always_pure ?_
    exact ((ended_itemText options bulleted indent line).append (ended_layout each)).append ended
termination_by structural items

end

end walk

section runs

/-- The run of inline pieces that is not finished at the end. -/
def lastRun (run : String) : List Piece → String
  | [] => run
  | .inline text :: rest => lastRun (run ++ text) rest
  | .block _ :: rest => lastRun "" rest

/-- What is laid out before that run. -/
def beforeLastRun (run : String) : List Piece → String
  | [] => ""
  | .inline text :: rest => beforeLastRun (run ++ text) rest
  | .block text :: rest => paragraph run ++ text ++ beforeLastRun "" rest

/-- The inline pieces in front of the first block. -/
def firstRun : List Piece → String
  | [] => ""
  | .inline text :: rest => text ++ firstRun rest
  | .block _ :: _ => ""

/-- What is laid out from the first block on. -/
def behindFirstRun : List Piece → String
  | [] => ""
  | .inline _ :: rest => behindFirstRun rest
  | .block text :: rest => text ++ layout paragraph "" rest

private theorem layout_append (run : String) (first second : List Piece) :
    layout paragraph run (first ++ second) =
      beforeLastRun run first ++ layout paragraph (lastRun run first) second := by
  induction first generalizing run with
  | nil => exact String.empty_append.symm
  | cons piece first ih =>
    cases piece with
    | inline text => exact ih _
    | block text =>
      rw [List.cons_append, layout, ih, beforeLastRun, lastRun]
      exact (String.append_assoc).symm

private theorem layout_eq (run : String) (pieces : List Piece) :
    layout paragraph run pieces = paragraph (run ++ firstRun pieces) ++ behindFirstRun pieces := by
  induction pieces generalizing run with
  | nil => rw [layout, firstRun, behindFirstRun, String.append_empty, String.append_empty]
  | cons piece pieces ih =>
    cases piece with
    | inline text => rw [layout, ih, firstRun, behindFirstRun, String.append_assoc]
    | block text => rw [layout, firstRun, behindFirstRun, String.append_empty, String.append_assoc]

private theorem flowLayout_eq_last (pieces : List Piece) :
    flowLayout pieces = beforeLastRun "" pieces ++ paragraph (lastRun "" pieces) := by
  rw [flowLayout, ← List.append_nil pieces, layout_append, List.append_nil]
  rfl

theorem flowLayout_eq_first (pieces : List Piece) :
    flowLayout pieces = paragraph (firstRun pieces) ++ behindFirstRun pieces := by
  rw [flowLayout, layout_eq, String.empty_append]

private theorem flowLayout_append (first second : List Piece) :
    flowLayout (first ++ second) =
      beforeLastRun "" first ++ paragraph (lastRun "" first ++ firstRun second) ++ behindFirstRun second := by
  rw [flowLayout, layout_append, layout_eq, String.append_assoc]

private theorem isBlank_append (first second : String) :
    (first ++ second).isBlank = (first.isBlank && second.isBlank) := by
  rw [String.isBlank, String.toList_append, List.all_append]
  rfl

theorem paragraph_blank {run : String} (blank : run.isBlank = true) : paragraph run = "" :=
  if_pos blank

theorem toList_paragraph {run : String} (shown : run.isBlank = false) :
    (paragraph run).toList = Text.trim run.toList ++ ['\n', '\n'] := by
  rw [paragraph, shown, if_neg Bool.false_ne_true, String.toList_append, String.toList_trimmed]
  rfl

/-- Only white space is lost with a run that shows nothing. -/
theorem paragraph_append_of_blank {first second : String} (blank : first.isBlank = true ∨ second.isBlank = true) :
    paragraph (first ++ second) = paragraph first ++ paragraph second := by
  rw [← String.toList_inj]
  cases blank with
  | inl none =>
    rw [paragraph_blank none, String.empty_append]
    cases other : second.isBlank with
    | true => rw [paragraph_blank other, paragraph_blank (by rw [isBlank_append, none, other]; rfl)]
    | false =>
      rw [toList_paragraph other, toList_paragraph (by rw [isBlank_append, none, other]; rfl), String.toList_append,
        Text.trim_blank_append (List.all_eq_true.mp none)]
  | inr none =>
    rw [paragraph_blank none, String.append_empty]
    cases other : first.isBlank with
    | true => rw [paragraph_blank other, paragraph_blank (by rw [isBlank_append, none, other]; rfl)]
    | false =>
      rw [toList_paragraph other, toList_paragraph (by rw [isBlank_append, none, other]; rfl), String.toList_append,
        Text.trim_append_blank (List.all_eq_true.mp none)]

private theorem toList_paragraph_append {first second : String} (one : first.isBlank = false)
    (two : second.isBlank = false) :
    (paragraph (first ++ second)).toList =
      Text.trim first.toList ++ (Text.trailing first.toList ++ Text.leading second.toList) ++
        (paragraph second).toList := by
  have starts := Text.trim_append_of_any (Text.any_of_isBlank one) (Text.any_of_isBlank two)
  rw [toList_paragraph (by rw [isBlank_append, one, two]; rfl), toList_paragraph two, String.toList_append, starts]
  simp only [List.append_assoc]

end runs

section seam

/-- A text of two with nothing but white space between them. -/
structure SpaceBetween (first second whole : String) (seam : List Char) : Prop where
  same : whole.toList = Text.dropTrailing Text.isSpace first.toList ++ seam ++ second.toList.dropWhile Text.isSpace
  blank : ∀ c ∈ seam, Text.isSpace c = true

private theorem SpaceBetween.unique {first second whole : String} {seam other : List Char}
    (one : SpaceBetween first second whole seam) (two : SpaceBetween first second whole other) : seam = other :=
  List.append_cancel_left (List.append_cancel_right (one.same.symm.trans two.same))

/-- The white space between the two holds an empty line. -/
def EmptyLineBetween (first second whole : String) : Prop :=
  ∃ seam, SpaceBetween first second whole seam ∧ 2 ≤ seam.count '\n'

/-- Pieces with a block on either side of where they meet, or with an empty line in the line that they share. -/
def Parted (first second : List Piece) : Prop :=
  (lastRun "" first).isBlank = true ∨ (firstRun second).isBlank = true ∨
    2 ≤ (Text.trailing (lastRun "" first).toList ++ Text.leading (firstRun second).toList).count '\n'

private theorem flowLayout_append_of_blank {first second : List Piece}
    (blank : (lastRun "" first).isBlank = true ∨ (firstRun second).isBlank = true) :
    flowLayout (first ++ second) = flowLayout first ++ flowLayout second := by
  rw [flowLayout_append, paragraph_append_of_blank blank, flowLayout_eq_last first, flowLayout_eq_first second]
  simp only [String.append_assoc]

/-- Where two lines meet, they are one line with the white space at their ends in the middle. -/
theorem toList_flowLayout_append {first second : List Piece} (one : (lastRun "" first).isBlank = false)
    (two : (firstRun second).isBlank = false) :
    (flowLayout (first ++ second)).toList =
      Text.dropTrailing Text.isSpace (flowLayout first).toList ++
        (Text.trailing (lastRun "" first).toList ++ Text.leading (firstRun second).toList) ++
        (flowLayout second).toList.dropWhile Text.isSpace := by
  have before : Text.dropTrailing Text.isSpace (flowLayout first).toList =
      (beforeLastRun "" first).toList ++ Text.trim (lastRun "" first).toList := by
    rw [flowLayout_eq_last, String.toList_append, toList_paragraph one, ← List.append_assoc,
      Text.dropTrailing_append_blank (by simp [Text.isSpace]),
      Text.dropTrailing_append_of_any (Text.any_trim (Text.any_of_isBlank one)), Text.dropTrailing_trim]
  have behind : (flowLayout second).toList.dropWhile Text.isSpace = (flowLayout second).toList := by
    rw [flowLayout_eq_first, String.toList_append, toList_paragraph two, List.append_assoc,
      Text.dropWhile_trim_append (Text.any_of_isBlank two)]
  rw [before, behind, flowLayout_append, flowLayout_eq_first second, String.toList_append, String.toList_append,
    toList_paragraph_append one two, String.toList_append]
  simp only [List.append_assoc]

theorem Closed.count {text : String} (closed : Closed text) (shown : text.isBlank = false) :
    2 ≤ (Text.trailing text.toList).count '\n' :=
  closed.resolve_left (by simp [shown])

private theorem isSpace_seam (first second : List Char) :
    ∀ c ∈ Text.trailing first ++ Text.leading second, Text.isSpace c = true := by
  rw [List.forall_mem_append]
  exact ⟨fun _ => Text.isSpace_of_mem_trailing, fun _ => Text.isSpace_of_mem_leading⟩

private theorem exists_seam {first second : List Piece} (closes : AllClose .flow first)
    (shown : (flowLayout first).isBlank = false) :
    ∃ seam, SpaceBetween (flowLayout first) (flowLayout second) (flowLayout (first ++ second)) seam ∧
      (2 ≤ seam.count '\n' ↔ Parted first second) := by
  by_cases blank : (lastRun "" first).isBlank = true ∨ (firstRun second).isBlank = true
  · refine ⟨_, ⟨?_, isSpace_seam (flowLayout first).toList (flowLayout second).toList⟩, ?_⟩
    · rw [flowLayout_append_of_blank blank, String.toList_append, ← List.append_assoc,
        Text.dropTrailing_append_trailing, List.append_assoc, Text.leading_append_dropWhile]
    · refine iff_of_true ?_ (blank.imp_right .inl)
      rw [List.count_append]
      exact Nat.le_add_right_of_le ((closed_layout closes "").count shown)
  · obtain ⟨one, two⟩ := not_or.mp blank
    have whole := toList_flowLayout_append (Bool.eq_false_iff.mpr one) (Bool.eq_false_iff.mpr two)
    refine ⟨_, ⟨whole, isSpace_seam _ _⟩, ?_⟩
    constructor
    · intro lines
      exact .inr (.inr lines)
    · intro parted
      exact (parted.resolve_left one).resolve_left two

private theorem emptyLineBetween_iff {first second : List Piece} (closes : AllClose .flow first)
    (shown : (flowLayout first).isBlank = false) :
    EmptyLineBetween (flowLayout first) (flowLayout second) (flowLayout (first ++ second)) ↔ Parted first second := by
  obtain ⟨seam, space, lines⟩ := exists_seam closes shown
  rw [← lines]
  constructor
  · rintro ⟨other, same, empty⟩
    rwa [space.unique same]
  · intro empty
    exact ⟨seam, space, empty⟩

private theorem indented_eq (indent : Nat) (block : String) :
    indented indent block =
      String.join ((Text.shownLines block.toList).map fun line => padding (indent + 1) ++ .ofList line ++ "\n") := by
  rw [Text.shownLines, Text.shownOf, List.map_map]
  rfl

/-- Inside a list item, where empty lines are dropped, what stands on either side stays on lines of its own. -/
theorem EmptyLineBetween.indented {first second whole : String} (parted : EmptyLineBetween first second whole)
    (indent : Nat) : indented indent whole = indented indent first ++ indented indent second := by
  obtain ⟨seam, ⟨same, blank⟩, lines⟩ := parted
  have newline : '\n' ∈ seam := List.count_pos_iff.mp (Nat.lt_of_lt_of_le Nat.zero_lt_two lines)
  obtain ⟨early, late, rfl⟩ := List.append_of_mem newline
  rw [List.forall_mem_append, List.forall_mem_cons] at blank
  have shown : Text.shownLines whole.toList = Text.shownLines first.toList ++ Text.shownLines second.toList := by
    calc
      Text.shownLines whole.toList =
          Text.shownLines ((Text.dropTrailing Text.isSpace first.toList ++ early) ++
            '\n' :: (late ++ second.toList.dropWhile Text.isSpace)) := by rw [same]; simp
      _ = Text.shownLines (Text.dropTrailing Text.isSpace first.toList ++ Text.trailing first.toList) ++
            Text.shownLines (Text.leading second.toList ++ second.toList.dropWhile Text.isSpace) := by
        rw [Text.shownLines_newline, Text.shownLines_append_blank blank.1, Text.shownLines_blank_append blank.2.2,
          Text.shownLines_append_blank fun _ => Text.isSpace_of_mem_trailing,
          Text.shownLines_blank_append fun _ => Text.isSpace_of_mem_leading]
      _ = _ := by rw [Text.dropTrailing_append_trailing, Text.leading_append_dropWhile]
  rw [indented_eq, indented_eq, indented_eq, shown, List.map_append, String.join_append]

end seam

section columns

variable (options : RenderOptions)

private theorem allPieces_append {σ : Type} (visitor : Visitor σ) (context : Context) (left right : List Node) :
    allPieces options visitor context (left ++ right) = do
      let first ← allPieces options visitor context left
      return first ++ (← allPieces options visitor context right) := by
  induction left with
  | nil => simp [allPieces]
  | cons node rest ih => simp only [List.cons_append, allPieces, ih, bind_assoc, pure_bind, List.append_assoc]

/-- The pieces of nodes among blocks. -/
def flowPieces (nodes : List Node) : List Piece :=
  ((allPieces options ({} : Visitor Unit) .flow nodes).run { memory := () }).1

def flowText (nodes : List Node) : String :=
  flowLayout (flowPieces options nodes)

/-- Where nothing is remembered, what has been counted is all that a session holds. -/
theorem always_flowPieces (nodes : List Node) :
    Always (· = flowPieces options nodes) (allPieces options ({} : Visitor Unit) .flow nodes) := by
  intro session
  exact (alike_allPieces .flow nodes session { memory := () } rfl).1

private theorem flowPieces_append (left right : List Node) :
    flowPieces options (left ++ right) = flowPieces options left ++ flowPieces options right := by
  rw [flowPieces, allPieces_append]
  exact congrArg (flowPieces options left ++ ·) (always_flowPieces options right _)

private theorem allClose_flowPieces (nodes : List Node) : AllClose .flow (flowPieces options nodes) :=
  closes_allPieces .flow nodes { memory := () }

private theorem always_columnGroup (context : Context) (columns : List Node) :
    Always (· = [.block (context.place (flowText options columns))])
      (pieces options ({} : Visitor Unit) context (.columnGroup columns)) := by
  have inside : Always (· = flowText options columns)
      (do return flowLayout (← allPieces options ({} : Visitor Unit) .flow columns)) :=
    (always_flowPieces options columns).bind fun pieces same => always_pure (by rw [same]; rfl)
  rw [pieces]
  exact (always_consult _ inside).bind fun text same => always_pure (by rw [same])

/-- Columns of a group that show something have white space between them and the columns behind them, and an empty line
in it just where a block stands on either side, or the white space where their lines meet holds one. Inside a list item,
which has no empty lines, they then stay on lines of their own. -/
theorem columnGroup_seam {left : List Node} (shown : (flowText options left).isBlank = false) (right : List Node) :
    (∀ context session, ((pieces options ({} : Visitor Unit) context (.columnGroup (left ++ right))).run session).1 =
        [.block (context.place (flowText options (left ++ right)))]) ∧
      (∃ seam, SpaceBetween (flowText options left) (flowText options right) (flowText options (left ++ right)) seam) ∧
      (EmptyLineBetween (flowText options left) (flowText options right) (flowText options (left ++ right)) ↔
        Parted (flowPieces options left) (flowPieces options right)) ∧
      (Parted (flowPieces options left) (flowPieces options right) →
        ∀ indent, indented indent (flowText options (left ++ right)) =
          indented indent (flowText options left) ++ indented indent (flowText options right)) := by
  have whole : flowText options (left ++ right) = flowLayout (flowPieces options left ++ flowPieces options right) := by
    rw [flowText, flowPieces_append]
  have parted : EmptyLineBetween (flowText options left) (flowText options right) (flowText options (left ++ right)) ↔
      Parted (flowPieces options left) (flowPieces options right) := by
    rw [whole]
    exact emptyLineBetween_iff (allClose_flowPieces options left) shown
  refine ⟨?_, ?_, parted, ?_⟩
  · intro context
    exact always_columnGroup options context (left ++ right)
  · obtain ⟨seam, space, _⟩ := exists_seam (allClose_flowPieces options left) shown
    rw [whole]
    exact ⟨seam, space⟩
  · intro apart
    exact (parted.mpr apart).indented

theorem columnGroup_seam_list :
    (flowText {} [.text "Rust", .itemList true [.text "Lean"]]).isBlank = false ∧
      EmptyLineBetween (flowText {} [.text "Rust", .itemList true [.text "Lean"]]) (flowText {} [.text "Git"])
        (flowText {} [.text "Rust", .itemList true [.text "Lean"], .text "Git"]) := by
  have shown : (flowText {} [.text "Rust", .itemList true [.text "Lean"]]).isBlank = false := by decide +kernel
  exact ⟨shown, (columnGroup_seam {} shown [.text "Git"]).2.2.1.mpr (.inl (by decide +kernel))⟩

/-- Two columns of text share a line. -/
theorem columnGroup_seam_text :
    (flowText {} [.text "Rust"]).isBlank = false ∧
      ¬ EmptyLineBetween (flowText {} [.text "Rust"]) (flowText {} [.text "Git"])
        (flowText {} [.text "Rust", .text "Git"]) ∧
      render {} {} [.columnGroup [.text "Rust", .text "Git"]] = "RustGit" := by
  have shown : (flowText {} [.text "Rust"]).isBlank = false := by decide +kernel
  refine ⟨shown, ?_, by decide +kernel⟩
  intro apart
  have parted : Parted (flowPieces {} [.text "Rust"]) (flowPieces {} [.text "Git"]) :=
    (emptyLineBetween_iff (allClose_flowPieces {} [.text "Rust"]) shown).mp apart
  revert parted
  unfold Parted
  decide +kernel

end columns

end Markdown

end Vitae
