import Vitae.Proofs.ShorterParts
import Vitae.Proofs.WholeText

/-! The walk ends since its text shrinks. Each construct takes something of the text, and the walk is entered again with
shorter texts alone, so it goes no deeper than its text is long and a limit beyond that is never met. -/

namespace Vitae

namespace Warning

theorem head?_append {before : String} {c : Char} (first : before.toList.head? = some c) (after : String) :
    (before ++ after).toList.head? = some c := by
  rw [String.toList_append, List.head?_append, first]
  rfl

private theorem head?_message (warning : Warning) :
    warning.message.toList.head? = some 'n' ↔ ∃ limit, warning = .tooDeep limit := by
  have other {text : String} {c : Char} (first : text.toList.head? = some c) (differs : c ≠ 'n') :
      text.toList.head? ≠ some 'n' :=
    fun same => differs (Option.some.inj (first.symm.trans same))
  have named {before : String} {c : Char} (first : before.toList.head? = some c) (differs : c ≠ 'n')
      (name after : String) : (before ++ name ++ after).toList.head? ≠ some 'n' :=
    other (head?_append (head?_append first name) after) differs
  cases warning with
  | tooDeep limit => exact iff_of_true (head?_append (head?_append (by decide +kernel) _) _) ⟨limit, rfl⟩
  | incompleteEntry found =>
    exact iff_of_false (other (c := '\\') (head?_append (by decide +kernel) _) (by decide)) (by simp)
  | unclosedBlock | unmatchedEnd | unknownEnvironment =>
    exact iff_of_false (named (c := 'u') (by decide +kernel) (by decide) _ _) (by simp)
  | withoutArgument | linkWithoutTarget | linkWithoutLabel =>
    exact iff_of_false (named (c := '\\') (by decide +kernel) (by decide) _ _) (by simp)
  | unknownCommand =>
    exact iff_of_false (named (c := 'u') (by decide +kernel) (by decide) _ _) (by simp)
  | unmatchedBrace | unclosedGroup | sectionWithoutTitle | colorWithoutName | unmatchedListEnd | itemOutsideList
  | contentBeforeItems | unnamedBegin => exact iff_of_false (by decide +kernel) (by simp)

end Warning

namespace Transpile

open Markup

/-- The texts with which the walk is entered again from a text. -/
def called (options : TranspileOptions) (top : Bool) (text : List Char) : List (List Char) :=
  (constructs top text).flatMap (·.inside options)

/-- The texts with which the walk is entered `depth` levels below a text. -/
def calledAt (options : TranspileOptions) : (depth : Nat) → (top : Bool) → List Char → List (List Char)
  | 0, _, text => [text]
  | depth + 1, top, text => (called options top text).flatMap (calledAt options depth false)

section depth

variable {options : TranspileOptions} {top : Bool} {text part : List Char}

private theorem mem_called :
    part ∈ called options top text ↔ ∃ read ∈ constructs top text, part ∈ read.inside options := by
  simp [called]

private theorem length_called (member : part ∈ called options top text) : part.length < text.length := by
  obtain ⟨read, place, inside⟩ := mem_called.mp member
  exact length_inside_constructs place part inside

private theorem length_calledAt {depth : Nat} (member : part ∈ calledAt options depth top text) :
    depth + part.length ≤ text.length := by
  induction depth generalizing top text with
  | zero =>
    obtain rfl := List.mem_singleton.mp member
    omega
  | succ depth ih =>
    obtain ⟨caller, entered, below⟩ := List.mem_flatMap.mp member
    have shorter := length_called entered
    have deeper := ih below
    omega

private theorem mapM_elaborated_congr {inner other : List Char → Noted (List Node)}
    (same : ∀ part ∈ called options top text, inner part = other part) :
    (constructs top text).mapM (elaborated options inner) = (constructs top text).mapM (elaborated options other) :=
  mapM_congr fun _ place => elaborated_congr fun part inside => same part (mem_called.mpr ⟨_, place, inside⟩)

end depth

section warnings

/-- Something was flattened since it stood too deep. -/
def Flattens {α : Type} (noted : Noted α) : Prop :=
  ∃ limit, .tooDeep limit ∈ noted.warnings

variable (options : TranspileOptions) (inner : List Char → Noted (List Node)) {limit : Nat}

private theorem tooDeep_not_mem_groupFaults (content : Enclosed) : .tooDeep limit ∉ groupFaults content := by
  simp [groupFaults]

private theorem tooDeep_not_mem_blockFaults (opening : List Char) (body : Enclosed) :
    .tooDeep limit ∉ blockFaults opening body := by
  simp [blockFaults]

private theorem tooDeep_not_mem_argumentFaults {missing : Warning} (other : .tooDeep limit ≠ missing)
    (argument? : Option Enclosed) : .tooDeep limit ∉ argumentFaults missing argument? := by
  cases argument? with
  | none => simpa [argumentFaults] using other
  | some argument => exact tooDeep_not_mem_groupFaults argument

private theorem tooDeep_not_mem_columnFaults (column : Column) : .tooDeep limit ∉ columnFaults column := by
  cases column with
  | stray text => simp [columnFaults]
  | minipage body => exact tooDeep_not_mem_blockFaults minipageOpening body

private theorem tooDeep_not_mem_faults {read : Construct} : .tooDeep limit ∉ faults inner options read := by
  have each {α : Type} {items : List α} {own : α → List Warning} (other : ∀ item, .tooDeep limit ∉ own item) :
      .tooDeep limit ∉ items.flatMap own := by
    simp [other]
  cases read with
  | run | symbol | lineBreak | separator | silent | unmatchedBrace | unnamedBegin | unmatchedEnd | unmatchedListEnd |
    itemOutsideList => simp [faults]
  | group content | banner content => exact tooDeep_not_mem_groupFaults content
  | styled | color | heading | url => exact tooDeep_not_mem_argumentFaults (by simp) _
  | declaration color? => cases color? <;> simp [faults, tooDeep_not_mem_groupFaults]
  | href target? label? =>
    cases target? with
    | none => simp [faults]
    | some target => simp [faults, tooDeep_not_mem_groupFaults, tooDeep_not_mem_argumentFaults]
  | entry fields =>
    rw [faults, List.mem_append, not_or]
    refine ⟨each tooDeep_not_mem_groupFaults, ?_⟩
    split <;> simp
  | looseItems => exact each (tooDeep_not_mem_argumentFaults (by simp))
  | list opening bulleted body => simp [faults, leadFaults, tooDeep_not_mem_blockFaults]
  | minipages => exact each (tooDeep_not_mem_blockFaults minipageOpening)
  | center body =>
    rw [faults, List.mem_append, not_or]
    refine ⟨tooDeep_not_mem_blockFaults _ body, ?_⟩
    split
    next => exact each tooDeep_not_mem_columnFaults
    next => exact List.not_mem_nil
  | document body => exact tooDeep_not_mem_blockFaults _ body
  | environment name body => simp [faults, tooDeep_not_mem_blockFaults]
  | unknown command argument? => cases argument? <;> simp [faults, tooDeep_not_mem_groupFaults]

private theorem flattens_elaborated {read : Construct} :
    Flattens (elaborated options inner read) ↔ ∃ text ∈ read.inside options, Flattens (inner text) := by
  simp only [Flattens, mem_warnings_elaborated, tooDeep_not_mem_faults, false_or]
  grind

/-- Something is flattened just where the walk is entered below the last level. -/
theorem flattens_sequence (levels : Nat) (top : Bool) (text : List Char) :
    Flattens (sequence options levels top text) ↔ calledAt options levels top text ≠ [] := by
  induction levels generalizing top text with
  | zero => simp [Flattens, sequence, calledAt]
  | succ levels ih =>
    have step : Flattens (sequence options (levels + 1) top text) ↔
        ∃ read ∈ constructs top text, Flattens (elaborated options (sequence options levels false) read) := by
      simp only [Flattens, mem_warnings_sequence]
      grind
    simp only [step, flattens_elaborated, ih, calledAt, ne_eq, List.flatMap_eq_nil_iff, mem_called]
    grind

end warnings

private theorem length_le_utf8ByteSize (letters : List Char) :
    letters.length ≤ (String.ofList letters).utf8ByteSize := by
  induction letters with
  | nil => exact Nat.zero_le _
  | cons c letters ih =>
    rw [String.ofList_cons, String.utf8ByteSize_append, String.utf8ByteSize_singleton, List.length_cons]
    have shown := c.utf8Size_pos
    omega

/-- Each step of the walk takes at least one character, and the walk is entered again with shorter texts alone. So it goes
no deeper than the text is long, and with any limit from there on it gives the same and flattens nothing. -/
theorem transpile_shrinks :
    (∀ top c rest, constructs top (c :: rest) = (construct top c rest).1 :: constructs top (construct top c rest).2 ∧
        ∃ taken, taken ≠ [] ∧ c :: rest = taken ++ (construct top c rest).2) ∧
      (∀ options levels top text, (∀ part ∈ called options top text, part.length < text.length) ∧
        ∀ inner, (∀ part ∈ called options top text, inner part = sequence options levels false part) →
          sequence options (levels + 1) top text =
            (constructs top text).mapM (elaborated options inner) >>= fun parts => pure (arrange parts.flatten)) ∧
      (∀ options depth text, (Flattens (sequence options depth true text) ↔ calledAt options depth true text ≠ []) ∧
        ∀ part ∈ calledAt options depth true text, depth + part.length ≤ text.length) ∧
      ∀ (options : TranspileOptions) (text : String) (limit : Nat), text.utf8ByteSize ≤ limit →
        transpile { options with maxDepth := limit } text =
            transpile { options with maxDepth := text.utf8ByteSize } text ∧
          ∀ depth, (Warning.tooDeep depth).message ∉ (transpile { options with maxDepth := limit } text).warnings := by
  refine ⟨fun top c rest => ⟨by rw [constructs], ?_⟩, fun options levels top text => ⟨fun part => length_called, ?_⟩,
    fun options depth text => ⟨flattens_sequence options depth true text, fun part => length_calledAt⟩,
    fun options text limit enough => ?_⟩
  · obtain ⟨taken, same⟩ := (leadsTo_construct top c rest).suffix
    refine ⟨taken, fun nothing => ?_, same.symm⟩
    have shorter := length_construct_le top c rest
    have all := congrArg List.length same
    simp only [nothing, List.nil_append, List.length_cons] at all
    omega
  · intro inner same
    rw [mapM_elaborated_congr same, sequence]
  · have fits : text.toList.length ≤ text.utf8ByteSize := by
      simpa using length_le_utf8ByteSize text.toList
    have result (limit : Nat) (enough : text.utf8ByteSize ≤ limit) :
        sequence { options with maxDepth := limit } (limit + 1) true text.toList =
          sequence options (text.utf8ByteSize + 1) true text.toList :=
      sequence_limit limit (by omega) (by omega) true
    have same : transpile { options with maxDepth := limit } text =
        transpile { options with maxDepth := text.utf8ByteSize } text := by
      simp only [transpile, result limit enough, result text.utf8ByteSize (Nat.le_refl _)]
    refine ⟨same, fun depth member => ?_⟩
    obtain ⟨warning, noted, message⟩ := List.mem_map.mp member
    have deep : Flattens (sequence { options with maxDepth := limit } (limit + 1) true text.toList) := by
      obtain ⟨limit, rfl⟩ := warning.head?_message.mp (message ▸ (Warning.head?_message _).mpr ⟨depth, rfl⟩)
      exact ⟨limit, noted⟩
    -- Whatever is entered there would be shorter than nothing.
    obtain ⟨part, entered⟩ := List.exists_mem_of_ne_nil _ ((flattens_sequence _ _ _ _).mp deep)
    have below := length_calledAt entered
    omega

/-- Two groups, one in the other: two levels in a text of five characters. -/
theorem transpile_shrinks_groups :
    ("\x7ba\x7d".toList ∈ called {} true "\x7b\x7ba\x7d\x7d".toList ∧
        "\x7ba\x7d".toList.length < "\x7b\x7ba\x7d\x7d".toList.length) ∧
      (['a'] ∈ calledAt {} 2 true "\x7b\x7ba\x7d\x7d".toList ∧ 2 + ['a'].length ≤ "\x7b\x7ba\x7d\x7d".toList.length) ∧
      "\x7b\x7ba\x7d\x7d".utf8ByteSize ≤ 7 ∧
        transpile { maxDepth := 7 } "\x7b\x7ba\x7d\x7d" =
          transpile { maxDepth := "\x7b\x7ba\x7d\x7d".utf8ByteSize } "\x7b\x7ba\x7d\x7d" := by
  obtain ⟨-, shorter, deeper, limits⟩ := transpile_shrinks
  have entered : "\x7ba\x7d".toList ∈ called {} true "\x7b\x7ba\x7d\x7d".toList := by decide +kernel
  have below : ['a'] ∈ calledAt {} 2 true "\x7b\x7ba\x7d\x7d".toList := by decide +kernel
  have enough : "\x7b\x7ba\x7d\x7d".utf8ByteSize ≤ 7 := by decide +kernel
  exact ⟨⟨entered, (shorter {} 0 true _).1 _ entered⟩, ⟨below, (deeper {} 2 _).2 _ below⟩, enough,
    (limits {} _ 7 enough).1⟩

end Transpile

end Vitae
