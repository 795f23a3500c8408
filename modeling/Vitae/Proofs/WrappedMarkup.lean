import Vitae.Proofs.Fidelity
import Vitae.Proofs.ReadingSteps
import Vitae.Proofs.SectionLocality
import Vitae.Proofs.ShorterParts
import Vitae.Proofs.TreeForm

/-! Whole markup in a group. The group is a level of its own and its content is tidied twice, but tidy content stays as
it is, a level more makes no difference where there are enough, and without declarations nothing tells a group from the
top level. -/

namespace Vitae.Markup

section declaring

/-- The commands that mean something else outside all groups than inside one. -/
def declaringCommands : List String :=
  ["bfseries", "itshape", "slshape", "em", "scshape", "color"]

private theorem styleDeclaration?_eq_none {name : String} (other : name ∉ declaringCommands) :
    styleDeclaration? name = none := by
  rw [styleDeclaration?, List.lookup_eq_none_iff]
  simp only [declaringCommands, List.mem_cons, List.not_mem_nil, or_false, not_or] at other
  simp [other]

private theorem commandConstruct_top {name : String} (other : name ∉ declaringCommands) (text : List Char) :
    commandConstruct true name text = commandConstruct false name text := by
  have noColor : name ≠ "color" := by
    rintro rfl
    exact other (by decide)
  unfold commandConstruct
  rw [styleDeclaration?_eq_none other]
  cases styleCommand? name with
  | some style => rfl
  | none =>
    simp only
    split <;> first | rfl | contradiction

private theorem constructs_top {text : List Char} (other : ∀ name ∈ outerCommands text, name ∉ declaringCommands) :
    constructs true text = constructs false text := by
  match text with
  | [] => rw [constructs, constructs]
  | c :: rest =>
    have same : construct true c rest = construct false c rest := by
      unfold construct
      split
      next slash =>
        subst slash
        obtain ⟨command, read⟩ := command?_slash rest
        rw [outerCommands_some (nextCommand?_slash read)] at other
        rw [read]
        exact commandConstruct_top (other command.name (by simp)) command.rest
      next => rfl
    have shorter := length_construct_le true c rest
    have behind := constructs_top fun name member =>
      other name ((leadsTo_construct true c rest).outerCommands_subset member)
    rw [constructs, constructs, ← same, behind]
termination_by text.length
decreasing_by
  simp only [List.length_cons]
  omega

end declaring

section wrapping

/-- Text that reads the same inside a group: its braces are balanced, it does not end in a backslash, and no command
outside its groups declares. -/
structure Wrappable (text : List Char) : Prop where
  balanced : braceLevel? 0 text = some 0
  complete : text.getLast? ≠ some '\\'
  declaresNothing : ∀ name ∈ outerCommands text, name ∉ declaringCommands

private theorem Wrappable.isBalanced {text : List Char} (wrappable : Wrappable text) : Balanced text := by
  intro depth rest
  simpa using closingBrace?_of_braceLevel? wrappable.balanced (not_endsInEscape wrappable.complete) depth rest

end wrapping

section vocabulary

/-- The commands with a name of letters that markup gives a meaning to. -/
def vocabulary : List String :=
  ["textbf", "textit", "emph", "textsl", "underline", "textsc"] ++ declaringCommands ++
    ["section", "href", "url", "resumeSubheading", "resumeItemListStart", "resumeItem", "resumeSubHeadingListStart",
      "resumeSubHeadingListEnd", "resumeItemListEnd", "item", "begin", "end"] ++
    silentCommands ++ unaryCommands ++ binaryCommands ++
    ["textbackslash", "textbar", "textbullet", "ldots", "dots", "textellipsis", "LaTeX", "TeX", "today"]

private theorem lookup_foreign {α : Type} {rows : List (String × α)}
    (listed : ∀ row ∈ rows, row.1.toList.all Char.isAlpha = true → row.1 ∈ vocabulary) {name : String}
    (named : Named name) (foreign : name ∉ vocabulary) : rows.lookup name = none := by
  rw [List.lookup_eq_none_iff]
  intro row member
  rw [bne_iff_ne]
  rintro rfl
  exact foreign (listed row member named.2)

/-- A command that has no meaning takes the group behind it with it. -/
theorem commandConstruct_foreign {name : String} (named : Named name) (foreign : name ∉ vocabulary) (top : Bool)
    {text : List Char} (balanced : Balanced text) :
    commandConstruct top name (braced text) = (.unknown name (some ⟨text, true⟩), []) := by
  have noStyle : styleCommand? name = none := lookup_foreign (by decide) named foreign
  have noDeclaration : styleDeclaration? name = none := lookup_foreign (by decide) named foreign
  have noSymbol : symbol? name = none := lookup_foreign (by decide) named foreign
  have audible : name ∉ silentCommands := fun listed => foreign (by simp [vocabulary, listed])
  have keeps : droppedArguments? name = none := by
    have noUnary : name ∉ unaryCommands := fun listed => foreign (by simp [vocabulary, listed])
    have noBinary : name ∉ binaryCommands := fun listed => foreign (by simp [vocabulary, listed])
    rw [droppedArguments?, if_neg noUnary, if_neg noBinary]
  have argument : argumentOr Text.isInlineSpace (braced text) = (some ⟨text, true⟩, []) := by
    have read : argumentOr Text.isInlineSpace (braced text ++ []) = _ := argumentOr_braced balanced (by decide) []
    rwa [List.append_nil] at read
  have option : skipOption (braced text) = braced text := rfl
  unfold commandConstruct
  rw [noStyle, noDeclaration]
  simp only
  split
  case h_1 => exact absurd rfl named.1
  case h_15 => simp only [audible, if_false, keeps, noSymbol, option, argument]
  all_goals exact absurd (by decide) foreign

end vocabulary

end Vitae.Markup

namespace Vitae.Transpile

open Markup

variable {options : TranspileOptions} {levels : Nat} {top : Bool}

private theorem arrange_sequence (text : List Char) :
    arrange (nodeParts (sequence options levels top text).value) = (sequence options levels top text).value := by
  have tidy := (inForm_sequence options levels top text).siblings.tidied.tidy_eq
  rw [arrange, nodeParts, Notation.gather_nodes, tidy, List.append_nil]

private theorem sequence_spliced {c : Char} {rest text : List Char} {read : Construct} {before : Noted Unit}
    (shape : construct top c rest = (read, []))
    (spliced : elaborated options (sequence options levels false) read =
      before >>= fun _ => nodeParts <$> sequence options levels false text) :
    sequence options (levels + 1) top (c :: rest) = before >>= fun _ => sequence options levels false text := by
  have arranged : arrange <$> nodeParts <$> sequence options levels false text = sequence options levels false text := by
    calc arrange <$> nodeParts <$> sequence options levels false text
      _ = ⟨arrange (nodeParts (sequence options levels false text).value),
          ((sequence options levels false text).warnings ++ []) ++ []⟩ := rfl
      _ = sequence options levels false text := by rw [arrange_sequence, List.append_nil, List.append_nil]
  rw [sequence_succ, parts_cons, shape, spliced, parts_nil]
  simp only [map_pure, List.append_nil, bind_assoc, bind_pure_comp, map_bind]
  exact congrArg (before >>= ·) (funext fun _ => arranged)

private theorem sequence_braced {text : List Char} (balanced : Balanced text) :
    sequence options (levels + 1) top (braced text) = sequence options levels false text := by
  have shape : construct top '{' (text ++ ['}']) = (.group ⟨text, true⟩, []) := by
    have read := Notation.construct_braced top balanced []
    rwa [List.append_nil] at read
  have spliced : elaborated options (sequence options levels false) (.group ⟨text, true⟩) =
      (pure () : Noted Unit) >>= fun _ => nodeParts <$> sequence options levels false text := rfl
  exact sequence_spliced shape spliced

private theorem sequence_foreign {name : String} (named : Named name) (foreign : name ∉ vocabulary)
    (kept : options.unwrapUnknown = true) {text : List Char} (balanced : Balanced text) :
    sequence options (levels + 1) top (commandText name ++ braced text) =
      Noted.warn (.unknownCommand name true) >>= fun _ => sequence options levels false text := by
  have ends : EndsName (braced text) := by simpa using endsName_braced text []
  have shape : construct top '\\' (name.toList ++ braced text) = (.unknown name (some ⟨text, true⟩), []) := by
    rw [Notation.construct_commandText top named ends, commandConstruct_foreign named foreign top balanced]
  refine sequence_spliced shape ?_
  simp only [elaborated, kept]
  rfl

private theorem sequence_wrappable {text : List Char} (wrappable : Wrappable text) (deep : text.length < levels) :
    sequence options levels false text = sequence options (levels + 1) true text := by
  rw [sequence_levels deep (Nat.lt_succ_of_lt deep), sequence, sequence, constructs_top wrappable.declaresNothing]

end Vitae.Transpile

namespace Vitae

open Markup Transpile

/-- Where there are levels enough, putting whole markup into a group changes nothing, and making it the argument of a
command without a meaning adds the warning about the command in front of the others. -/
theorem transpile_wrapped (options : TranspileOptions) {text : List Char} (wrappable : Wrappable text)
    (deep : text.length < options.maxDepth) :
    transpile options (.ofList (braced text)) = transpile options (.ofList text) ∧
      ∀ name, Named name → name ∉ vocabulary → options.unwrapUnknown = true →
        transpile options (.ofList (commandText name ++ braced text)) =
          ⟨(transpile options (.ofList text)).tree,
            ("unknown command \\" ++ name ++ ": argument kept as text") :: (transpile options (.ofList text)).warnings⟩ := by
  have same : sequence options options.maxDepth false text = sequence options (options.maxDepth + 1) true text :=
    sequence_wrappable wrappable deep
  have balanced := wrappable.isBalanced
  constructor
  · rw [transpile, transpile, String.toList_ofList, String.toList_ofList, sequence_braced balanced, same]
  · intro name named foreign kept
    rw [transpile, transpile, String.toList_ofList, String.toList_ofList, sequence_foreign named foreign kept balanced, same]
    rfl

def strayItem : List Char :=
  "\\section\x7bA\x7d \\item b \x7b\\bfseries c\x7d".toList

theorem transpile_wrapped_strayItem :
    Wrappable strayItem ∧ strayItem.length < ({} : TranspileOptions).maxDepth ∧
      transpile {} (.ofList (braced strayItem)) = transpile {} (.ofList strayItem) ∧
      Named "project" ∧ "project" ∉ vocabulary ∧
      transpile {} (.ofList (commandText "project" ++ braced strayItem)) =
        ⟨(transpile {} (.ofList strayItem)).tree,
          ["unknown command \\project: argument kept as text", "\\item outside a list"]⟩ := by
  have wrappable : Wrappable strayItem := ⟨by decide, by decide, by decide +kernel⟩
  have deep : strayItem.length < ({} : TranspileOptions).maxDepth := by decide
  have named : Named "project" := by decide
  have foreign : "project" ∉ vocabulary := by decide +kernel
  have warned : (transpile {} (.ofList strayItem)).warnings = ["\\item outside a list"] := by decide +kernel
  obtain ⟨group, unknown⟩ := transpile_wrapped {} wrappable deep
  refine ⟨wrappable, deep, group, named, foreign, ?_⟩
  rw [unknown "project" named foreign rfl, warned]
  rfl

end Vitae
