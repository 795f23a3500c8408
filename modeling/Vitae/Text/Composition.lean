import Vitae.Text.CanonicalTable

/-!
Unicode canonical composition (normalization form C): every character is taken apart, marks are put in
canonical order, and what can be composed again is composed. Text below U+0300 is in that form already.
-/

namespace Vitae.Text.Composition

def combiningClass (code : Nat) : Nat :=
  ((CanonicalTable.classes.find? fun row => row.1 ≤ code && code ≤ row.2.1).map (·.2.2)).getD 0

private def hangulParts (index : Nat) : List Nat :=
  let lead := 0x1100 + index / 588
  let vowel := 0x1161 + index % 588 / 28
  if index % 28 = 0 then [lead, vowel] else [lead, vowel, 0x11A7 + index % 28]

/-- The full canonical decomposition of a character; three steps reach the bottom of the table. -/
def decomposed : (steps : Nat) → Nat → List Nat
  | 0, code => [code]
  | steps + 1, code =>
    if code < 0xC0 then [code]
    else if 0xAC00 ≤ code ∧ code < 0xAC00 + 11172 then hangulParts (code - 0xAC00)
    else match CanonicalTable.composites.find? (·.2.2 == code) with
      | some (first, second, _) => decomposed steps first ++ [second]
      | none => match CanonicalTable.expansions.lookup code with
        | some parts => parts
        | none => [(CanonicalTable.singletons.lookup code).getD code]

/-- Puts a character before text in canonical order: a mark moves behind marks of a lower class. -/
def settle (code : Nat) : List Nat → List Nat
  | [] => [code]
  | next :: rest =>
    if 0 < combiningClass next ∧ combiningClass next < combiningClass code then next :: settle code rest
    else code :: next :: rest

def composite? (first second : Nat) : Option Nat :=
  if 0x1100 ≤ first ∧ first < 0x1113 ∧ 0x1161 ≤ second ∧ second < 0x1176 then
    some (0xAC00 + (first - 0x1100) * 588 + (second - 0x1161) * 28)
  else if 0xAC00 ≤ first ∧ first < 0xAC00 + 11172 ∧ (first - 0xAC00) % 28 = 0 ∧ 0x11A7 < second ∧
      second < 0x11C3 then
    some (first + (second - 0x11A7))
  else (CanonicalTable.composites.find? fun row => row.1 == first && row.2.1 == second).map (·.2.2)

/-- Composes what follows a starter. `kept` holds the marks after it that did not compose, last first;
a character behind one of at least its own class cannot reach the starter. -/
def absorb (starter : Nat) (kept : List Nat) : List Nat → List Nat
  | [] => starter :: kept.reverse
  | code :: rest =>
    let reaches := match kept with
      | [] => true
      | last :: _ => decide (combiningClass last < combiningClass code)
    match if reaches then composite? starter code else none with
    | some composite => absorb composite kept rest
    | none =>
      if combiningClass code = 0 then starter :: kept.reverse ++ absorb code [] rest
      else absorb starter (code :: kept) rest

def composed : List Nat → List Nat
  | [] => []
  | code :: rest => if combiningClass code = 0 then absorb code [] rest else code :: composed rest

end Composition

def compose (characters : List Char) : List Char :=
  if characters.all (· < '\u0300') then characters
  else
    let parts := characters.flatMap fun c => Composition.decomposed 3 c.toNat
    (Composition.composed (parts.foldr Composition.settle [])).map Char.ofNat

end Vitae.Text
