import Mathlib.Data.List.ReduceOption
import Vitae.Proofs.HtmlOutput
import Vitae.Proofs.Words
import Vitae.Render.Markdown

/-! Words of lists in Markdown. The line of an item has all texts of the item run together, and what stands in the lists
inside it follows below, so the words of a list keep their places just where every item says its text first and in one
piece. -/

namespace Vitae

namespace Node

/-- What an item holds: the children of a fragment, or the one node it is. -/
def members : Node → List Node
  | .fragment children => children
  | node => [node]

def textValue? : Node → Option String
  | .text value => some value
  | _ => none

/-- The texts of some nodes and of all below them, in the order of the document. -/
def documentWords (nodes : List Node) : List String :=
  (walkAll nodes).filterMap textValue?

def IsWord (value : String) : Prop :=
  value ≠ "" ∧ ∀ c ∈ value.toList, Text.isSpace c = false

mutual

/-- Items that hold words and lists of such items. -/
inductive WordItems : List Node → Prop
  | nil : WordItems []
  | cons {item : Node} {rest : List Node} : WordMembers item.members → WordItems rest → WordItems (item :: rest)

inductive WordMembers : List Node → Prop
  | nil : WordMembers []
  | text {value : String} {rest : List Node} : IsWord value → WordMembers rest → WordMembers (.text value :: rest)
  | list {bulleted : Bool} {items rest : List Node} :
    WordItems items → WordMembers rest → WordMembers (.itemList bulleted items :: rest)

end

/-- The texts that stand directly in an item, run together. -/
def runTogether (members : List Node) : String :=
  String.join (members.filterMap textValue?)

def lineWords (members : List Node) : List (Option String) :=
  if runTogether members = "" then [] else [some (runTogether members)]

mutual

/-- The words of a list as they are rendered, with `none` for each marker: the line of every item, then the lists in it. -/
def renderedWords (bulleted : Bool) : List Node → List (Option String)
  | [] => []
  | item :: rest =>
    (if bulleted then [none] else []) ++ lineWords item.members ++ nestedWords item ++ renderedWords bulleted rest
termination_by structural items => items

def nestedWords : Node → List (Option String)
  | .itemList bulleted items => renderedWords bulleted items
  | .fragment children => allNestedWords children
  | _ => []
termination_by structural node => node

def allNestedWords : List Node → List (Option String)
  | [] => []
  | node :: rest => nestedWords node ++ allNestedWords rest
termination_by structural nodes => nodes

end

@[simp] theorem runTogether_text (value : String) (rest : List Node) :
    runTogether (.text value :: rest) = value ++ runTogether rest :=
  String.join_cons

@[simp] theorem runTogether_list (bulleted : Bool) (items rest : List Node) :
    runTogether (.itemList bulleted items :: rest) = runTogether rest :=
  rfl

theorem allNestedWords_members (item : Node) : allNestedWords item.members = nestedWords item := by
  cases item with
  | fragment children => rfl
  | _ => simp [members, allNestedWords]

end Node

namespace Markdown

open Render Node
open Html (Always always_pure always_consult)

section shown

variable (options : RenderOptions)

/-- What is read of a word or a marker; a marker that is white space is not seen. -/
def shownWord : Option String → List (List Char)
  | none => if Text.isSpace options.listMarker then [] else [[options.listMarker]]
  | some word => [(escape options word).toList]

/-- The text has these words, and whatever follows it begins another. -/
def Worded (words : List (Option String)) (text : String) : Prop :=
  (∀ c ∈ text.toList.getLast?, Text.isSpace c = true) ∧
    Text.words Text.isSpace text.toList = words.flatMap (shownWord options)

variable {options}

private theorem worded_nothing : Worded options [] "" :=
  ⟨by simp, rfl⟩

theorem Worded.append {words others : List (Option String)} {first second : String} (one : Worded options words first)
    (two : Worded options others second) : Worded options (words ++ others) (first ++ second) := by
  rw [Worded, String.toList_append]
  refine ⟨Text.forall_getLast?_append one.1 two.1, ?_⟩
  rw [Text.words_append one.1, one.2, two.2, List.flatMap_append]

private theorem escape_append (first second : String) :
    escape options (first ++ second) = escape options first ++ escape options second := by
  unfold escape
  split
  · rw [String.toList_append, List.flatMap_append, String.ofList_append]
  · rfl

private theorem escape_shown {value : String} (shown : ∀ c ∈ value.toList, Text.isSpace c = false) :
    ∀ c ∈ (escape options value).toList, Text.isSpace c = false := by
  unfold escape
  split
  · intro c member
    rw [String.toList_ofList, List.mem_flatMap] at member
    obtain ⟨d, place, image⟩ := member
    split at image
    · rcases List.mem_cons.mp image with rfl | same
      · decide
      · exact List.mem_singleton.mp same ▸ shown d place
    · exact List.mem_singleton.mp image ▸ shown d place
  · exact shown

private theorem escape_nothing (options : RenderOptions) : escape options "" = "" := by
  unfold escape
  split <;> rfl

private theorem escape_ne_empty {value : String} (some : value ≠ "") : (escape options value).toList ≠ [] := by
  unfold escape
  split
  · rw [String.toList_ofList]
    intro none
    rw [List.flatMap_eq_nil_iff] at none
    obtain ⟨c, rest, whole⟩ := List.exists_cons_of_ne_nil (fun empty => some (String.toList_eq_nil_iff.mp empty))
    have image := none c (by simp [whole])
    split at image <;> simp at image
  · exact fun empty => some (String.toList_eq_nil_iff.mp empty)

private theorem words_escape {value : String} (shown : ∀ c ∈ value.toList, Text.isSpace c = false) :
    Text.words Text.isSpace (escape options value).toList =
      (if value = "" then [] else [some value]).flatMap (shownWord options) := by
  split
  next empty =>
    subst empty
    rw [escape_nothing]
    rfl
  next some =>
    rw [Text.words_word (escape_ne_empty some) (escape_shown shown)]
    rfl

private theorem runTogether_shown {members : List Node} (listed : WordMembers members) :
    ∀ c ∈ (runTogether members).toList, Text.isSpace c = false := by
  induction members with
  | nil => simp [runTogether]
  | cons node rest ih =>
    cases listed with
    | text word later =>
      rw [runTogether_text, String.toList_append, List.forall_mem_append]
      exact ⟨word.2, ih later⟩
    | list _ later => exact ih later

private theorem isSpace_padding (indent : Nat) : ∀ c ∈ (padding indent).toList, Text.isSpace c = true := by
  intro c member
  rw [padding, String.toList_ofList] at member
  rw [List.eq_of_mem_replicate member]
  rfl

/-- The line of an item says its marker and its texts. -/
theorem worded_itemText {members : List Node} (listed : WordMembers members) (bulleted : Bool) (indent : Nat) :
    Worded options ((if bulleted then [none] else []) ++ lineWords members)
      (itemText options bulleted indent (escape options (runTogether members))) := by
  have line : Text.words Text.isSpace (escape options (runTogether members)).toList =
      (lineWords members).flatMap (shownWord options) := words_escape (runTogether_shown listed)
  generalize escape options (runTogether members) = shown at line
  have newline (before : List Char) {text : String} (whole : text.toList = before ++ ['\n']) :
      ∀ c ∈ text.toList.getLast?, Text.isSpace c = true := by
    intro c last
    rw [whole, List.getLast?_append] at last
    obtain rfl : '\n' = c := by simpa using last
    rfl
  cases bulleted with
  | true =>
    have whole : (itemText options true indent shown).toList =
        (padding indent).toList ++ ([options.listMarker] ++ ' ' :: (Text.trim shown.toList ++ ['\n'])) := by
      simp [itemText, String.trimmed]
    refine ⟨newline ((padding indent).toList ++ ([options.listMarker] ++ ' ' :: Text.trim shown.toList)) ?_, ?_⟩
    · rw [whole]
      simp
    rw [whole, Text.words_blank_append (isSpace_padding indent), Text.words_append_space rfl,
      Text.words_append_blank (by simp [Text.isSpace]), Text.words_trim, line, List.flatMap_append]
    congr 1
    cases marker : Text.isSpace options.listMarker with
    | true => simp [shownWord, marker, Text.words_blank]
    | false => simp [shownWord, marker, Text.words_word]
  | false =>
    simp only [itemText, Bool.false_eq_true, if_false]
    split
    next blank =>
      rw [Text.words_blank (List.all_eq_true.mp blank)] at line
      exact ⟨by simp, line⟩
    next =>
      have whole : (padding indent ++ shown.trimmed ++ "  \n").toList =
          (padding indent).toList ++ (Text.trim shown.toList ++ [' ', ' ', '\n']) := by
        simp [String.trimmed]
      refine ⟨newline ((padding indent).toList ++ (Text.trim shown.toList ++ [' ', ' '])) ?_, ?_⟩
      · rw [whole]
        simp
      rw [whole, Text.words_blank_append (isSpace_padding indent), Text.words_append_blank (by simp [Text.isSpace]),
        Text.words_trim, line]
      rfl

end shown

section walk

variable {σ : Type} {options : RenderOptions}

private theorem always_itemLines {members : List Node} (listed : WordMembers members) :
    Always (· = escape options (runTogether members)) (itemLines options ({} : Visitor σ) members) := by
  induction members with
  | nil =>
    rw [itemLines]
    exact always_pure (escape_nothing options).symm
  | cons node rest ih =>
    rw [itemLines]
    cases listed with
    | @text value rest word later =>
      have first : Always (· = escape options value) (itemLine options ({} : Visitor σ) (.text value)) :=
        always_consult _ (always_pure rfl)
      refine first.bind fun shown here => (ih later).bind fun other behind => always_pure ?_
      rw [here, behind, runTogether_text, escape_append]
    | @list bulleted items rest _ later =>
      have first : Always (· = "") (itemLine options ({} : Visitor σ) (.itemList bulleted items)) := always_pure rfl
      refine first.bind fun shown here => (ih later).bind fun other behind => always_pure ?_
      rw [here, behind, String.empty_append, runTogether_list]

private theorem always_itemLine {item : Node} (listed : WordMembers item.members) :
    Always (· = escape options (runTogether item.members)) (itemLine options ({} : Visitor σ) item) := by
  have lines : Always (· = escape options (runTogether item.members)) (itemLines options ({} : Visitor σ) item.members) :=
    always_itemLines listed
  cases item with
  | fragment children => exact lines
  | _ =>
    intro session
    have whole := lines session
    simpa [members, itemLines] using whole

/-- Pieces that are blocks and say these words together. -/
def WordedAll (options : RenderOptions) (words : List (Option String)) (pieces : List Piece) : Prop :=
  ∃ texts : List String, pieces = texts.map .block ∧ Worded options words (String.join texts)

theorem WordedAll.append {words others : List (Option String)} {first second : List Piece}
    (one : WordedAll options words first) (two : WordedAll options others second) :
    WordedAll options (words ++ others) (first ++ second) := by
  obtain ⟨texts, rfl, worded⟩ := one
  obtain ⟨more, rfl, also⟩ := two
  refine ⟨texts ++ more, (List.map_append).symm, ?_⟩
  rw [String.join_append]
  exact worded.append also

private theorem layout_blocks {finish : String → String} (nothing : finish "" = "") (texts : List String) :
    layout finish "" (texts.map .block) = String.join texts := by
  induction texts with
  | nil => exact nothing
  | cons text texts ih => rw [List.map_cons, layout, ih, nothing, String.empty_append, String.join_cons]

theorem WordedAll.layout {words : List (Option String)} {pieces : List Piece} {finish : String → String}
    (nothing : finish "" = "") (all : WordedAll options words pieces) :
    Worded options words (layout finish "" pieces) := by
  obtain ⟨texts, rfl, worded⟩ := all
  rwa [layout_blocks nothing]

/-- The blocks of an item are those of its members. -/
theorem always_itemPieces {item : Node} {indent : Nat}
    (each : Always (WordedAll options (allNestedWords item.members))
      (allPieces options ({} : Visitor σ) (.item indent) item.members)) :
    Always (WordedAll options (nestedWords item)) (pieces options ({} : Visitor σ) (.item indent) item) := by
  rw [allNestedWords_members] at each
  cases item with
  | fragment children => exact each
  | _ =>
    intro session
    have whole := each session
    simpa [members, allPieces] using whole

private theorem worded_listEnd (context : Context) : Worded options [] context.listEnd := by
  cases context with
  | flow => exact ⟨by simp [Context.listEnd, Text.isSpace], rfl⟩
  | item indent => exact worded_nothing

private theorem always_list {bulleted : Bool} {items : List Node} (context : Context)
    (texts : Always (Worded options (renderedWords bulleted items))
      (itemTexts options ({} : Visitor σ) bulleted context.listIndent items)) :
    Always (WordedAll options (renderedWords bulleted items))
      (pieces options ({} : Visitor σ) context (.itemList bulleted items)) := by
  have ended : Always (Worded options (renderedWords bulleted items))
      (consult options ({} : Visitor σ) (.itemList bulleted items) do
        return (← itemTexts options {} bulleted context.listIndent items) ++ context.listEnd) := by
    refine always_consult _ (texts.bind fun text worded => always_pure ?_)
    simpa using worded.append (worded_listEnd context)
  rw [pieces]
  exact ended.bind fun text worded => always_pure ⟨[text], rfl, by simpa using worded⟩

mutual

private theorem always_itemTexts {items : List Node} (listed : WordItems items) (bulleted : Bool) (indent : Nat) :
    Always (Worded options (renderedWords bulleted items)) (itemTexts options ({} : Visitor σ) bulleted indent items) := by
  match items, listed with
  | _, .nil =>
    rw [itemTexts]
    exact always_pure worded_nothing
  | _, @WordItems.cons item rest inside later =>
    rw [itemTexts]
    refine (always_itemLine inside).bind fun line same => ?_
    refine (always_itemPieces (always_members inside indent)).bind fun blocks below => ?_
    refine (always_itemTexts later bulleted indent).bind fun others behind => always_pure ?_
    rw [same, renderedWords]
    exact ((worded_itemText inside bulleted indent).append (below.layout rfl)).append behind
termination_by structural listed

private theorem always_members {members : List Node} (listed : WordMembers members) (indent : Nat) :
    Always (WordedAll options (allNestedWords members)) (allPieces options ({} : Visitor σ) (.item indent) members) := by
  match members, listed with
  | _, .nil =>
    rw [allPieces]
    exact always_pure ⟨[], rfl, worded_nothing⟩
  | _, @WordMembers.text value rest word later =>
    rw [allPieces]
    have first : Always (· = []) (pieces options ({} : Visitor σ) (.item indent) (.text value)) := always_pure rfl
    refine first.bind fun pieces none => (always_members later indent).bind fun others behind => always_pure ?_
    rw [none]
    exact behind
  | _, @WordMembers.list bulleted items rest inside later =>
    rw [allPieces, allNestedWords, nestedWords]
    refine (always_list (.item indent) (always_itemTexts inside bulleted (indent + 1))).bind fun first here => ?_
    exact (always_members later indent).bind fun others behind => always_pure (here.append behind)
termination_by structural listed

end

/-- A list that stands alone is rendered as the words of its items. -/
theorem always_content {items : List Node} (listed : WordItems items) (bulleted : Bool) :
    Always (fun text => Text.words Text.isSpace text.toList = (renderedWords bulleted items).flatMap (shownWord options))
      (content options ({} : Visitor σ) [.itemList bulleted items]) := by
  have list : Always (WordedAll options (renderedWords bulleted items))
      (pieces options ({} : Visitor σ) .flow (.itemList bulleted items)) :=
    always_list .flow (always_itemTexts listed bulleted 0)
  have whole : Always (WordedAll options (renderedWords bulleted items))
      (allPieces options ({} : Visitor σ) .flow [.itemList bulleted items]) := by
    rw [allPieces]
    exact list.bind fun first worded => always_pure (by simpa using worded)
  refine whole.bind fun pieces worded => always_pure ?_
  rw [String.toList_trimmed, Text.words_trim]
  exact (worded.layout rfl).2

end walk

end Markdown

end Vitae
