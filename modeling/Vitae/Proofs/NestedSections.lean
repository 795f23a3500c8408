import Vitae.Proofs.InertText
import Vitae.Proofs.SealedConstruct
import Vitae.Proofs.Walk
import Vitae.Proofs.Written

/-! Sections in items, one in the other: the markup whose content nests deepest. Each level of groups in it becomes a
fragment, a section and an item list. -/

namespace Vitae

open Markup Transpile

/-- Sections in items, one in the other. -/
def nestedSections : Nat → List Char
  | 0 => []
  | count + 1 =>
    'x' :: (commandText "section" ++ (braced [] ++ (commandText "resumeItem" ++ braced (nestedSections count))))

/-- What they are read as, where there are levels enough. -/
def nestedNodes : Nat → List Node
  | 0 => []
  | count + 1 => [.text "x", .titled "" [.itemList true [.collapse (nestedNodes count)]]]

private theorem balanced_nestedSections (count : Nat) : Balanced (nestedSections count) := by
  induction count with
  | zero => exact balanced_nil
  | succ count ih =>
    have letter : Balanced ['x'] := balanced_of_letters rfl
    have title : Balanced (commandText "section" ++ braced []) := (balanced_commandText (by decide)).append balanced_nil.braced
    have item : Balanced (commandText "resumeItem" ++ braced (nestedSections count)) :=
      (balanced_commandText (by decide)).append ih.braced
    simpa [nestedSections] using letter.append (title.append item)

private theorem inert_nestedSections (count : Nat) {rest : List Char} (later : Inert false rest) :
    Inert false (nestedSections count ++ rest) := by
  induction count generalizing rest with
  | zero => exact later
  | succ count ih =>
    have closed : Inert false ('\x7d' :: rest) := ⟨by decide, ⟨by decide, by decide⟩, later⟩
    have inside := ih closed
    simpa [nestedSections, commandText, braced, Inert, declaringLetters] using inside

/-- Below U+0300 there is nothing to compose. -/
theorem compose_nestedSections (count : Nat) : Text.compose (nestedSections count) = nestedSections count := by
  have low : (nestedSections count).all (· < '\u0300') = true := by
    induction count with
    | zero => rfl
    | succ count ih => simpa [nestedSections, commandText, braced] using ih
  rw [Text.compose, if_pos low]

variable (options : TranspileOptions)

private theorem value_sequence_nil (levels : Nat) (top : Bool) : (sequence options levels top []).value = [] := by
  cases levels with
  | zero => simp [Transpile.sequence, flattened, visible, Text.words]
  | succ levels => simp [sequence_succ, arrange, gather, Node.tidy, Node.mergeTexts, Node.tidyTexts]

private theorem construct_resumeItem (top : Bool) {body : List Char} (balanced : Balanced body) :
    construct top '\\' ("resumeItem".toList ++ braced body) = (.looseItems [some ⟨body, true⟩], []) := by
  have argument : argumentOr Text.isSpace (braced body ++ []) = (some ⟨body, true⟩, []) :=
    argumentOr_braced balanced (by decide) []
  have ends : EndsName (braced body ++ []) := endsName_braced body []
  rw [List.append_nil] at argument ends
  have last : ∀ command, command? ((argumentOr Text.isSpace (braced body)).2.dropWhile Text.isSpace) = some command →
      command.name ≠ "resumeItem" := by
    intro command next
    rw [argument] at next
    contradiction
  rw [Notation.construct_commandText top (by decide) ends]
  change (Construct.looseItems (looseItems (braced body)).1, (looseItems (braced body)).2) = _
  rw [looseItems_last last, argument]

private theorem value_heading_nil (inner : List Char → Noted (List Node)) (nothing : (inner []).value = []) :
    (elaborated options inner (.heading (some ⟨[], true⟩))).value = [.heading ""] := by
  have empty : (slot inner ⟨[], true⟩).value = .text "" := congrArg Node.collapse nothing
  change [Part.heading (slot inner ⟨[], true⟩).value.plainText.trimmed] = _
  rw [empty]
  rfl

/-- One level: a letter, a heading without a title and an item that holds the next level. -/
theorem value_parts_nestedSections (levels : Nat) (top : Bool) (count : Nat) :
    (parts options levels top (nestedSections (count + 1))).value =
      [.node (.text "x"), .heading "",
        .node (.itemList true [.collapse (sequence options levels false (nestedSections count)).value])] := by
  have letter (tail : List Char) (stops : Notation.StopsText tail) : construct top 'x' tail = (.run ['x'], tail) :=
    Notation.construct_run top (List.forall_mem_singleton.mpr (by decide)) stops
  have heading (tail : List Char) :
      construct top '\\' ("section".toList ++ (braced [] ++ tail)) = (.heading (some ⟨[], true⟩), tail) :=
    (Notation.construct_commandText top (by decide) (endsName_braced [] tail)).trans
      (Notation.construct_section top balanced_nil tail)
  have item := construct_resumeItem top (balanced_nestedSections count)
  have untitled := value_heading_nil options (sequence options levels false) (value_sequence_nil options levels false)
  have set : (if options.typography then typeset ['x'] else ['x']) = ['x'] := by
    split <;> rfl
  rw [nestedSections, value_parts_of_construct options levels top (letter _ (Notation.stopsText_commandText _ _)),
    commandText, List.cons_append, value_parts_of_construct options levels top (heading _), untitled]
  change _ ++ ([Part.heading ""] ++ (parts options levels top ('\\' :: ("resumeItem".toList ++ _))).value) = _
  rw [value_parts_of_construct options levels top item, parts_nil]
  simp only [elaborated, set]
  rfl

private theorem value_nestedSections {levels count : Nat} (room : count ≤ levels) (top : Bool) :
    (sequence options levels top (nestedSections count)).value = nestedNodes count := by
  induction count generalizing levels top with
  | zero => exact value_sequence_nil options levels top
  | succ count ih =>
    cases levels with
    | zero => omega
    | succ levels =>
      rw [sequence_succ, Noted.value_map, value_parts_nestedSections, ih (Nat.le_of_succ_le_succ room) false]
      rfl

theorem tree_parse_nestedSections {count : Nat} (room : count ≤ options.maxDepth + 1) :
    (parse options (.ofList (nestedSections count))).tree = nestedNodes count := by
  have inert : Inert false (String.ofList (nestedSections count)).toList := by
    simpa using inert_nestedSections count (show Inert false [] from trivial)
  have normal : normalize options.normal (.ofList (nestedSections count)) = .ofList (nestedSections count) :=
    normalizeWith_of_inert inert fun _ => by rw [String.toList_ofList, compose_nestedSections]
  have read := value_nestedSections options room true
  rw [parse, normal, transpile, String.toList_ofList]
  exact read

end Vitae
