import Vitae.Text.Blank

/-!
Idioms: what can be recognized at the head of a markup text. An idiom answers with the text after it,
which is always shorter, so erasing or replacing every occurrence ends. Idioms that open with a
backslash only count where that backslash is not itself escaped.
-/

namespace Vitae.Markup

structure Idiom where
  after? : List Char → Option (List Char)
  shrinks : ∀ {text after}, after? text = some after → after.length < text.length

/-- The text after a given word. -/
def expect? : (word text : List Char) → Option (List Char)
  | [], text => some text
  | _ :: _, [] => none
  | c :: word, d :: text => if c = d then expect? word text else none

theorem length_expect? {word text after : List Char} (found : expect? word text = some after) :
    after.length + word.length = text.length := by
  fun_induction expect? word text with
  | case1 => simp_all
  | case2 => contradiction
  | case3 c word text ih =>
    have rest := ih found
    simp only [List.length_cons]
    omega
  | case4 => contradiction

theorem expect?_eq_some_iff {word text after : List Char} : expect? word text = some after ↔ text = word ++ after := by
  fun_induction expect? word text with
  | case1 => simp [eq_comm]
  | case2 => simp
  | case3 c word text ih => simpa using ih
  | case4 c word d text different =>
    simp only [List.cons_append, List.cons.injEq, reduceCtorEq, false_iff]
    intro same
    exact different same.1.symm

theorem expect?_append (word after : List Char) : expect? word (word ++ after) = some after :=
  expect?_eq_some_iff.mpr rfl

def dropBlanks (text : List Char) : List Char :=
  text.dropWhile Text.isInlineSpace

theorem dropBlanks_suffix (text : List Char) : dropBlanks text <:+ text :=
  List.dropWhile_suffix _

theorem length_dropWhile_le {α : Type} (drops : α → Bool) (list : List α) :
    (list.dropWhile drops).length ≤ list.length :=
  (List.dropWhile_sublist drops).length_le

theorem length_dropBlanks_le (text : List Char) : (dropBlanks text).length ≤ text.length :=
  length_dropWhile_le _ _

/-- The text after an opening character and the first closing one. -/
def enclosed? (opening closing : Char) : List Char → Option (List Char)
  | [] => none
  | c :: rest => if c = opening then (rest.dropWhile (· ≠ closing)).tail? else none

theorem length_enclosed? {opening closing : Char} {text after : List Char}
    (found : enclosed? opening closing text = some after) : after.length < text.length := by
  cases text with
  | nil => simp [enclosed?] at found
  | cons c rest =>
    simp only [enclosed?, Option.ite_none_right_eq_some] at found
    have shorter := length_dropWhile_le (· ≠ closing) rest
    revert found
    cases same : rest.dropWhile (· ≠ closing) with
    | nil => simp
    | cons d later =>
      rintro ⟨-, found⟩
      simp only [List.tail?_cons, Option.some.injEq] at found
      subst found
      simp only [same, List.length_cons] at shorter ⊢
      omega

/-- Whether a character leaves the next one escaped, given whether it is escaped itself. -/
def escapes (escaped : Bool) (c : Char) : Bool :=
  c == '\\' && !escaped

/-- Removes every occurrence of an idiom that is not escaped, in one pass from the left. -/
def Idiom.erase (idiom : Idiom) (escaped : Bool) : List Char → List Char
  | [] => []
  | c :: rest =>
    match _found : if escaped then none else idiom.after? (c :: rest) with
    | some after => idiom.erase false after
    | none => c :: idiom.erase (escapes escaped c) rest
termination_by text => text.length
decreasing_by
  · split at _found
    · contradiction
    · exact idiom.shrinks _found
  · simp

/-- Replaces every occurrence of an idiom by a mark, in one pass from the left. -/
def Idiom.replace (idiom : Idiom) (mark : Char) : List Char → List Char
  | [] => []
  | c :: rest =>
    match _found : idiom.after? (c :: rest) with
    | some after => mark :: idiom.replace mark after
    | none => c :: idiom.replace mark rest
termination_by text => text.length
decreasing_by
  · exact idiom.shrinks _found
  · simp

/-- Runs a pass until it no longer shortens the text: what one pass leaves may have grown together. -/
def settled (pass : List Char → List Char) (text : List Char) : List Char :=
  if (pass text).length < text.length then settled pass (pass text) else text
termination_by text.length

end Vitae.Markup
