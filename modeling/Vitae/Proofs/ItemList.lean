import Vitae.Proofs.Balance

/-! Lists whose items are groups. Nothing inside the groups is seen while the end of the list and its items
are looked for, so the body ends before the closing command and every group is an item of its own. -/

namespace Vitae.Markup

theorem find?_none {delimiter : Delimiter} {depth : Nat} {text : List Char} (none : nextCommand? text = .none) :
    delimiter.find? depth text = .none := by
  rw [Delimiter.find?]
  split
  next => rfl
  next found => exact absurd (none.symm.trans found) (by simp)

theorem find?_some {delimiter : Delimiter} {depth : Nat} {text : List Char} {command : Command}
    (next : nextCommand? text = some command) :
    delimiter.find? depth text =
      match (delimiter.role command).1, depth with
      | .opening, depth => delimiter.find? (depth + 1) (delimiter.role command).2
      | .closing, 0 => some (command.start, (delimiter.role command).2)
      | .closing, depth + 1 => delimiter.find? depth (delimiter.role command).2
      | .neither, depth => delimiter.find? depth (delimiter.role command).2 := by
  rw [Delimiter.find?.eq_def]
  split
  next none => exact absurd (next.symm.trans none) (by simp)
  next other found =>
    obtain rfl : command = other := Option.some.inj (next.symm.trans found)
    rfl

/-- Where the next command is the same, so is the end of the block. -/
theorem find?_congr {delimiter : Delimiter} {depth : Nat} {first second : List Char}
    (same : nextCommand? first = nextCommand? second) : delimiter.find? depth first = delimiter.find? depth second := by
  cases next : nextCommand? second with
  | none => rw [find?_none next, find?_none (same.trans next)]
  | some command => rw [find?_some next, find?_some (same.trans next)]

def itemsText (item : String) (bodies : List (List Char)) : List Char :=
  bodies.flatMap fun body => commandText item ++ braced body

theorem itemsText_cons (item : String) (body : List Char) (bodies : List (List Char)) (rest : List Char) :
    itemsText item (body :: bodies) ++ rest = commandText item ++ (braced body ++ (itemsText item bodies ++ rest)) := by
  simp [itemsText]

section

variable {item : String} {bodies : List (List Char)} (named : Named item)
  (balanced : ∀ body ∈ bodies, Balanced body)
include named balanced

/-- Items are stepped over by a delimiter that they say nothing to. -/
theorem find?_itemsText {delimiter : Delimiter}
    (neither : ∀ start rest, delimiter.role ⟨item, start, rest⟩ = (.neither, rest)) (rest : List Char) :
    delimiter.find? 0 (itemsText item bodies ++ rest) = delimiter.find? 0 rest := by
  induction bodies with
  | nil => rfl
  | cons body bodies ih =>
    rw [itemsText_cons]
    have next := nextCommand?_commandText named (endsName_braced body (itemsText item bodies ++ rest))
    rw [find?_some next, neither]
    simp only
    rw [find?_congr (nextCommand?_braced (balanced body (by simp)) _)]
    exact ih fun other member => balanced other (by simp [member])

theorem balanced_itemsText : Balanced (itemsText item bodies) := by
  induction bodies with
  | nil => exact balanced_nil
  | cons body bodies ih =>
    have first := (balanced_commandText named).append (balanced body (by simp)).braced
    exact first.append (ih fun other member => balanced other (by simp [member]))

end

private theorem introducers_none {text : List Char} (none : nextCommand? text = .none) : introducers text = [] := by
  rw [introducers]
  split
  next => rfl
  next found => exact absurd (none.symm.trans found) (by simp)

theorem introducers_some {text : List Char} {command : Command} (next : nextCommand? text = some command) :
    introducers text =
      match introduced? command with
      | some content => (command.start, content) :: introducers content
      | none => introducers (overBlock command) := by
  rw [introducers.eq_def]
  split
  next none => exact absurd (next.symm.trans none) (by simp)
  next other found =>
    obtain rfl : command = other := Option.some.inj (next.symm.trans found)
    split
    next read => rw [read]
    next none => rw [none]

private theorem introducers_congr {first second : List Char} (same : nextCommand? first = nextCommand? second) :
    introducers first = introducers second := by
  cases next : nextCommand? second with
  | none => rw [introducers_none next, introducers_none (same.trans next)]
  | some command => rw [introducers_some next, introducers_some (same.trans next)]

private theorem introducers_noItems (item : String) : introducers (itemsText item []) = [] := by
  apply introducers_none
  change nextCommand? [] = none
  rw [nextCommand?.eq_def]
  rfl

/-- The groups behind the introducers are the items. -/
theorem itemContents_itemsText {item : String} {bodies : List (List Char)} (named : Named item)
    (introduces : ∀ start body rest, introduced? ⟨item, start, braced body ++ rest⟩ = some (braced body ++ rest))
    (balanced : ∀ body ∈ bodies, Balanced body) :
    itemContents (introducers (itemsText item bodies)) = bodies.map braced ∧
      (bodies ≠ [] → ∃ content later, introducers (itemsText item bodies) = (itemsText item bodies, content) :: later) := by
  induction bodies with
  | nil => exact ⟨by rw [introducers_noItems]; rfl, fun some => absurd rfl some⟩
  | cons body bodies ih =>
    have whole : itemsText item (body :: bodies) = commandText item ++ (braced body ++ itemsText item bodies) := by
      simpa using itemsText_cons item body bodies []
    have next := nextCommand?_commandText named (endsName_braced body (itemsText item bodies))
    have first := introducers_some next
    rw [introduces] at first
    simp only at first
    rw [introducers_congr (nextCommand?_braced (balanced body (by simp)) _)] at first
    obtain ⟨contents, head⟩ := ih fun other member => balanced other (by simp [member])
    rw [whole, first]
    refine ⟨?_, fun _ => ⟨_, _, rfl⟩⟩
    cases bodies with
    | nil =>
      rw [introducers_noItems]
      simp [itemsText, itemContents]
    | cons second bodies =>
      obtain ⟨content, later, same⟩ := head (by simp)
      rw [same] at contents ⊢
      rw [itemContents, contents]
      simp [upTo]

theorem splitItems_itemsText {item : String} {bodies : List (List Char)} (named : Named item)
    (introduces : ∀ start body rest, introduced? ⟨item, start, braced body ++ rest⟩ = some (braced body ++ rest))
    (balanced : ∀ body ∈ bodies, Balanced body) :
    splitItems (itemsText item bodies) = ⟨[], bodies.map braced⟩ := by
  obtain ⟨contents, head⟩ := itemContents_itemsText named introduces balanced
  cases bodies with
  | nil =>
    rw [splitItems, introducers_noItems]
    rfl
  | cons body bodies =>
    obtain ⟨content, later, same⟩ := head (by simp)
    rw [splitItems]
    rw [same] at contents ⊢
    simp only [contents, upTo, Nat.sub_self, List.take_zero]

end Vitae.Markup
