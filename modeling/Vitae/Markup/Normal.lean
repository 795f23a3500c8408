import Vitae.Markup.Preamble
import Vitae.Text.Composition

/-!
The normal form of markup: no comments, no preamble, and one mark each for a line break and for a pipe
between contact details, so that nothing later has to know how these were written.
-/

namespace Vitae.Markup

/-- Stands for a line break. -/
def lineBreakMark : Char := '\uE000'

/-- Stands for a pipe between two details. -/
def separatorMark : Char := '\uE001'

def dropControlSpace (text : List Char) : List Char :=
  (expect? "\\ ".toList text).getD text

theorem length_dropControlSpace_le (text : List Char) : (dropControlSpace text).length ≤ text.length := by
  unfold dropControlSpace
  cases found : expect? "\\ ".toList text with
  | none => simp
  | some after =>
    have := length_expect? found
    simp only [Option.getD_some]
    omega

def dropTies (text : List Char) : List Char :=
  text.dropWhile fun c => Text.isInlineSpace c || c == '~'

/-- A pipe in math with the spacing around it; a control space counts outside the other blanks. -/
def pipe? (text : List Char) : Option (List Char) :=
  (expect? "$|$".toList (dropTies (dropControlSpace text))).map fun after => dropControlSpace (dropTies after)

def pipe : Idiom where
  after? := pipe?
  shrinks := by
    intro text after found
    simp only [pipe?, Option.map_eq_some_iff] at found
    obtain ⟨middle, found, rfl⟩ := found
    have sign : "$|$".toList.length = 3 := rfl
    have := length_expect? found
    have := length_dropControlSpace_le text
    have := length_dropWhile_le (fun c => Text.isInlineSpace c || c == '~') (dropControlSpace text)
    have := length_dropWhile_le (fun c => Text.isInlineSpace c || c == '~') middle
    have := length_dropControlSpace_le (dropTies middle)
    simp only [dropTies] at *
    omega

def keeping? (kept text : List Char) : Option (List Char × List Char) :=
  (pipe.after? text).map fun after => (kept, after)

theorem length_keeping? {start kept text after : List Char} (found : keeping? start text = some (kept, after)) :
    after.length < text.length := by
  simp only [keeping?, Option.map_eq_some_iff, Prod.mk.injEq] at found
  obtain ⟨rest, found, -, rfl⟩ := found
  exact pipe.shrinks found

/-- What may stand directly before a pipe: the start of a line, a character that is no backslash, or two
backslashes. The answer holds the characters kept and the text after the pipe. -/
def separator? (lineStart : Bool) (text : List Char) : Option (List Char × List Char) :=
  match if lineStart then keeping? [] text else none with
  | some found => some found
  | none => match text with
    | '\\' :: '\\' :: rest => keeping? ['\\', '\\'] rest
    | '\\' :: _ => none
    | c :: rest => keeping? [c] rest
    | [] => none

theorem length_separator? {lineStart : Bool} {text kept after : List Char}
    (found : separator? lineStart text = some (kept, after)) : after.length < text.length := by
  unfold separator? at found
  split at found
  · rename_i here
    split at here
    · exact length_keeping? (here.trans found)
    · contradiction
  · split at found
    · have := length_keeping? found
      simp only [List.length_cons]
      omega
    · contradiction
    · have := length_keeping? found
      simp only [List.length_cons]
      omega
    · contradiction

/-- One pass from the left over the pipes of a text. -/
def markSeparators (lineStart : Bool) (text : List Char) : List Char :=
  match _found : separator? lineStart text with
  | some (kept, after) => kept ++ separatorMark :: markSeparators false after
  | none => match text with
    | [] => []
    | c :: rest => c :: markSeparators (c == '\n') rest
termination_by text.length
decreasing_by
  · exact length_separator? _found
  · simp

/-- Two backslashes with an optional star and an optional spacing in brackets on the same line. -/
def lineBreak? (text : List Char) : Option (List Char) := do
  let rest ← expect? "\\\\".toList text
  let rest := (expect? "*".toList rest).getD rest
  match rest with
  | '[' :: spacing => match spacing.dropWhile fun c => c != ']' && c != '\n' with
    | ']' :: after => some after
    | _ => some rest
  | _ => some rest

def lineBreak : Idiom where
  after? := lineBreak?
  shrinks := by
    intro text after found
    simp only [lineBreak?, Option.bind_eq_bind, Option.bind_eq_some_iff] at found
    obtain ⟨rest, word, found⟩ := found
    have whole := length_expect? word
    have sign : "\\\\".toList.length = 2 := rfl
    have star : ((expect? "*".toList rest).getD rest).length ≤ rest.length := by
      cases same : expect? "*".toList rest with
      | none => simp
      | some later =>
        have := length_expect? same
        simp only [Option.getD_some]
        omega
    generalize (expect? "*".toList rest).getD rest = shown at star found
    split at found
    · rename_i spacing
      have shorter := length_dropWhile_le (fun c => c != ']' && c != '\n') spacing
      split at found
      · rename_i later same
        simp only [same, List.length_cons, Option.some.injEq] at shorter found star
        subst found
        omega
      · simp only [Option.some.injEq] at found
        subst found
        omega
    · simp only [Option.some.injEq] at found
      subst found
      omega

/-- The text after the longest run of lines that hold blanks only, and the number of those lines. -/
def blankLines (count : Nat) (text : List Char) : Nat × List Char :=
  match _found : dropBlanks text with
  | '\n' :: rest => blankLines (count + 1) rest
  | _ => (count, text)
termination_by text.length
decreasing_by
  have := length_dropBlanks_le text
  simp only [_found, List.length_cons] at this
  omega

theorem length_blankLines_le (count : Nat) (text : List Char) :
    (blankLines count text).2.length ≤ text.length := by
  fun_induction blankLines count text with
  | case1 count text rest found ih =>
    have := length_dropBlanks_le text
    simp only [found, List.length_cons] at this
    omega
  | case2 => simp

/-- Two or more blank lines become one. -/
def collapseBlankLines : List Char → List Char
  | [] => []
  | '\n' :: rest =>
    if 2 ≤ (blankLines 0 rest).1 then '\n' :: '\n' :: collapseBlankLines (blankLines 0 rest).2
    else '\n' :: collapseBlankLines rest
  | c :: rest => c :: collapseBlankLines rest
termination_by text => text.length
decreasing_by
  · have := length_blankLines_le 0 rest
    simp only [List.length_cons]
    omega
  all_goals simp

structure NormalOptions where
  composeUnicode : Bool := true
  collapseBlankLines : Bool := true

/-- The normal form where `compose` composes Unicode text. -/
def normalFormWith (compose : List Char → List Char) (options : NormalOptions) (markup : List Char) : List Char :=
  let content := body (withoutComments (.content false) markup)
  let marked := lineBreak.replace lineBreakMark (settled (markSeparators true) content)
  let composed := if options.composeUnicode then compose marked else marked
  if options.collapseBlankLines then collapseBlankLines composed else composed

def normalizeWith (compose : List Char → List Char) (options : NormalOptions) (markup : String) : String :=
  .ofList (normalFormWith compose options markup.toList)

def normalize (options : NormalOptions) (markup : String) : String :=
  normalizeWith Text.compose options markup

end Vitae.Markup
