/-!
What can be wrong with markup without keeping it from becoming content, and results with such warnings in
the order in which they were met.
-/

namespace Vitae

inductive Warning where
  | tooDeep (limit : Nat)
  | unmatchedBrace
  | unclosedGroup
  | unclosedBlock (opening : List Char)
  | withoutArgument (command : String)
  | sectionWithoutTitle
  | linkWithoutTarget (command : String)
  | linkWithoutLabel (href : String)
  | colorWithoutName
  | incompleteEntry (found : Nat)
  | unmatchedListEnd
  | itemOutsideList
  | contentBeforeItems
  | unnamedBegin
  | unmatchedEnd (name : List Char)
  | unknownEnvironment (name : List Char)
  | unknownCommand (command : String) (kept : Bool)
deriving DecidableEq

namespace Warning

def message : Warning → String
  | .tooDeep limit => s!"nesting deeper than {limit} levels flattened to text"
  | .unmatchedBrace => "unmatched closing brace dropped"
  | .unclosedGroup => "unterminated group runs to end of input"
  | .unclosedBlock opening => "unterminated " ++ .ofList opening ++ " runs to end of input"
  | .withoutArgument command => "\\" ++ command ++ " without an argument"
  | .sectionWithoutTitle => "\\section without a title"
  | .linkWithoutTarget command => "\\" ++ command ++ " without a target"
  | .linkWithoutLabel href => "\\href\x7b" ++ href ++ "\x7d without a label: target used as label"
  | .colorWithoutName => "\\color without a color"
  | .incompleteEntry found => s!"\\resumeSubheading expects 4 arguments, found {found}"
  | .unmatchedListEnd => "unmatched \\resumeItemListEnd"
  | .itemOutsideList => "\\item outside a list"
  | .contentBeforeItems => "content before the first list item kept as an item"
  | .unnamedBegin => "\\begin without an environment name"
  | .unmatchedEnd name => "unmatched \\end\x7b" ++ .ofList name ++ "\x7d"
  | .unknownEnvironment name => "unknown environment " ++ .ofList name ++ ": content kept"
  | .unknownCommand command kept =>
    "unknown command \\" ++ command ++ (if kept then ": argument kept as text" else ": argument dropped")

end Warning

/-- A result with the warnings met on the way to it. -/
structure Noted (α : Type) where
  value : α
  warnings : List Warning

namespace Noted

instance : Monad Noted where
  pure value := ⟨value, []⟩
  bind first next := ⟨(next first.value).value, first.warnings ++ (next first.value).warnings⟩

instance : LawfulMonad Noted := .mk' Noted
  (fun noted => congrArg (Noted.mk noted.value) (List.append_nil noted.warnings))
  (fun _ _ => rfl)
  (fun _ _ _ => congrArg (Noted.mk _) (List.append_assoc _ _ _))

def warn (warning : Warning) : Noted Unit :=
  ⟨(), [warning]⟩

@[simp] theorem value_pure {α : Type} (value : α) : (pure value : Noted α).value = value :=
  rfl

@[simp] theorem warnings_pure {α : Type} (value : α) : (pure value : Noted α).warnings = [] :=
  rfl

@[simp] theorem value_bind {α β : Type} (first : Noted α) (next : α → Noted β) :
    (first >>= next).value = (next first.value).value :=
  rfl

@[simp] theorem warnings_bind {α β : Type} (first : Noted α) (next : α → Noted β) :
    (first >>= next).warnings = first.warnings ++ (next first.value).warnings :=
  rfl

@[simp] theorem value_map {α β : Type} (result : α → β) (noted : Noted α) :
    (result <$> noted).value = result noted.value :=
  rfl

@[simp] theorem warnings_map {α β : Type} (result : α → β) (noted : Noted α) :
    (result <$> noted).warnings = noted.warnings :=
  List.append_nil noted.warnings

@[simp] theorem warnings_warn (warning : Warning) : (warn warning).warnings = [warning] :=
  rfl

theorem value_mapM {α β : Type} (items : List α) (body : α → Noted β) :
    (items.mapM body).value = items.map fun item => (body item).value := by
  induction items with
  | nil => rfl
  | cons item items ih =>
    rw [List.mapM_cons]
    simp [ih]

theorem mem_warnings_mapM {α β : Type} {items : List α} {body : α → Noted β} {warning : Warning} :
    warning ∈ (items.mapM body).warnings ↔ ∃ item ∈ items, warning ∈ (body item).warnings := by
  induction items with
  | nil => simp
  | cons item items ih =>
    rw [List.mapM_cons]
    simp [ih]

end Noted

end Vitae
