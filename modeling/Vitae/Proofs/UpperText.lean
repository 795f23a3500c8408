import Vitae.Proofs.MarkedText
import Vitae.Proofs.ShownLines

/-! Upper case and white space. White space and the dash have no case and are the image of nothing else, so a text in
upper case has them where it had them before, and trimming may come before or after. -/

namespace Vitae.Text

section caseless

/-- White space and the dash. -/
def isCaseless (c : Char) : Bool :=
  isSpace c || c == '-'

/-- The codes of these characters. -/
def caselessRanges : List (Nat × Nat) :=
  [(0x9, 0xD), (0x20, 0x20), (0x2D, 0x2D), (0x85, 0x85), (0xA0, 0xA0), (0x1680, 0x1680), (0x2000, 0x200A),
   (0x2028, 0x2028), (0x2029, 0x2029), (0x202F, 0x202F), (0x205F, 0x205F), (0x3000, 0x3000)]

/-- The code is in none of the ranges. -/
def IsCased (code : Nat) : Prop :=
  ∀ range ∈ caselessRanges, code < range.1 ∨ range.2 < code

private theorem exists_range {c : Char} (caseless : isCaseless c = true) :
    ∃ range ∈ caselessRanges, range.1 ≤ c.toNat ∧ c.toNat ≤ range.2 := by
  simp only [isCaseless, isSpace, Bool.or_eq_true, Bool.and_eq_true, decide_eq_true_eq, beq_iff_eq] at caseless
  have among {low high : Nat} (listed : (low, high) ∈ caselessRanges) (above : low ≤ c.toNat) (below : c.toNat ≤ high) :
      ∃ range ∈ caselessRanges, range.1 ≤ c.toNat ∧ c.toNat ≤ range.2 := ⟨(low, high), listed, above, below⟩
  have exactly {d : Char} (listed : (d.toNat, d.toNat) ∈ caselessRanges) (same : c = d) :
      ∃ range ∈ caselessRanges, range.1 ≤ c.toNat ∧ c.toNat ≤ range.2 := by
    subst same
    exact among listed (Nat.le_refl _) (Nat.le_refl _)
  rcases caseless with ((((((((((⟨low, high⟩ | same) | same) | same) | same) | ⟨low, high⟩) | same) | same) | same) | same) |
    same) | same
  · exact among (show (0x9, 0xD) ∈ caselessRanges by decide) low high
  · exact exactly (by decide) same
  · exact exactly (by decide) same
  · exact exactly (by decide) same
  · exact exactly (by decide) same
  · exact among (show (0x2000, 0x200A) ∈ caselessRanges by decide) low high
  all_goals exact exactly (by decide) same

private theorem IsCased.not_isCaseless {code : Nat} (cased : IsCased code) : isCaseless (Char.ofNat code) = false := by
  by_cases valid : code.isValidChar
  · have same : (Char.ofNat code).toNat = code := by
      rw [Char.ofNat, dif_pos valid]
      rfl
    rw [← Bool.not_eq_true]
    intro caseless
    obtain ⟨range, listed, low, high⟩ := exists_range caseless
    have apart := cased range listed
    omega
  · rw [Char.ofNat, dif_neg valid]
    rfl

private theorem isCased_upperRuns : ∀ run ∈ CaseTable.upperRuns, ∀ range ∈ caselessRanges,
    run.image + (run.last - run.first) < range.1 ∨ range.2 < run.image := by
  decide +kernel

private theorem isCased_upperStrings :
    ∀ row ∈ CaseTable.upperStrings, row.2 ≠ [] ∧ ∀ code ∈ row.2, ∀ range ∈ caselessRanges,
    code < range.1 ∨ range.2 < code := by
  decide +kernel

/-- Only the character itself becomes a character without case. -/
theorem eq_of_mem_upperChar {c d : Char} (member : d ∈ upperChar c) (caseless : isCaseless d = true) : d = c := by
  rcases mem_upperChar member with rfl | ⟨ascii, rfl⟩ | ⟨row, listed, code, image, rfl⟩ | ⟨run, listed, code, low, high, rfl⟩
  · rfl
  · have all : ∀ code < 0x80, isCaseless (Char.ofNat code).toUpper = true →
        (Char.ofNat code).toUpper = Char.ofNat code := by decide +kernel
    have small : c.toNat < 0x80 := ascii
    have same := all c.toNat small
    rw [Char.ofNat_toNat] at same
    exact same caseless
  · have cased : IsCased code := (isCased_upperStrings row listed).2 code image
    exact absurd caseless (by simp [cased.not_isCaseless])
  · have cased : IsCased code := by
      intro range place
      have apart := isCased_upperRuns run listed range place
      omega
    exact absurd caseless (by simp [cased.not_isCaseless])

private theorem upperChar_of_isCaseless {c : Char} (caseless : isCaseless c = true) : upperChar c = [c] := by
  have all : ∀ range ∈ caselessRanges, ∀ offset ≤ range.2 - range.1,
      upperChar (Char.ofNat (range.1 + offset)) = [Char.ofNat (range.1 + offset)] := by decide +kernel
  obtain ⟨range, listed, low, high⟩ := exists_range caseless
  have same := all range listed (c.toNat - range.1) (by omega)
  rwa [Nat.add_sub_cancel' low, Char.ofNat_toNat] at same

private theorem upperChar_ne_nil (c : Char) : upperChar c ≠ [] := by
  unfold upperChar
  split
  · simp
  · unfold mapped
    split
    next image found =>
      intro none
      exact (isCased_upperStrings _ (Markup.mem_of_lookup found)).1 (List.map_eq_nil_iff.mp none)
    next => simp

end caseless

section trim

private theorem isSpace_of_mem_upperChar {c d : Char} (member : d ∈ upperChar c) : isSpace d = isSpace c := by
  cases space : isSpace d with
  | true =>
    obtain rfl := eq_of_mem_upperChar member (by rw [isCaseless, space]; rfl)
    exact space.symm
  | false =>
    cases given : isSpace c with
    | true =>
      rw [upperChar_of_isCaseless (by rw [isCaseless, given]; rfl), List.mem_singleton] at member
      rw [← space, member, given]
    | false => rfl

private theorem upper_cons (c : Char) (text : List Char) : upper (c :: text) = upperChar c ++ upper text :=
  List.flatMap_cons

private theorem dropWhile_upper (text : List Char) :
    (upper text).dropWhile isSpace = upper (text.dropWhile isSpace) := by
  induction text with
  | nil => rfl
  | cons c text ih =>
    rw [upper_cons]
    cases space : isSpace c with
    | true =>
      have same : upperChar c = [c] := upperChar_of_isCaseless (by rw [isCaseless, space]; rfl)
      rw [same, List.singleton_append, List.dropWhile_cons_of_pos space, List.dropWhile_cons_of_pos space, ih]
    | false =>
      obtain ⟨d, image, whole⟩ := List.exists_cons_of_ne_nil (upperChar_ne_nil c)
      have stays : isSpace d = false := (isSpace_of_mem_upperChar (whole ▸ List.mem_cons_self)).trans space
      rw [List.dropWhile_cons_of_neg (by simp [space]), upper_cons, whole, List.cons_append,
        List.dropWhile_cons_of_neg (by simp [stays])]

private theorem dropTrailing_upper (text : List Char) :
    dropTrailing isSpace (upper text) = upper (dropTrailing isSpace text) := by
  induction text using List.reverseRecOn with
  | nil => rfl
  | append_singleton text c ih =>
    have whole : upper (text ++ [c]) = upper text ++ upperChar c := by
      rw [upper, List.flatMap_append, List.flatMap_singleton]
      rfl
    cases space : isSpace c with
    | true =>
      have blank : ∀ d ∈ upperChar c, isSpace d = true := fun d member => (isSpace_of_mem_upperChar member).trans space
      rw [whole, dropTrailing_append_blank blank, ih, dropTrailing_append_blank (List.forall_mem_singleton.mpr space)]
    | false =>
      have stays (image : List Char) (shown : ∀ d ∈ image, isSpace d = false) : dropTrailing isSpace image = image := by
        have kept : image.reverse.dropWhile isSpace = image.reverse := by
          cases found : image.reverse with
          | nil => rfl
          | cons d later =>
            have last : d ∈ image := List.mem_reverse.mp (found ▸ List.mem_cons_self)
            exact List.dropWhile_cons_of_neg (by simp [shown d last])
        rw [dropTrailing, kept, List.reverse_reverse]
      have shown : ∀ d ∈ upperChar c, isSpace d = false := fun d member => (isSpace_of_mem_upperChar member).trans space
      obtain ⟨d, image, own⟩ := List.exists_cons_of_ne_nil (upperChar_ne_nil c)
      have any : (upperChar c).any (!isSpace ·) = true := by
        rw [own, List.any_cons, shown d (own ▸ List.mem_cons_self)]
        rfl
      rw [whole, dropTrailing_append_of_any any, stays _ shown,
        dropTrailing_append_of_any (by simp [space]), stays [c] (List.forall_mem_singleton.mpr space), whole]

theorem trim_upper (text : List Char) : trim (upper text) = upper (trim text) := by
  rw [trim, dropWhile_upper, dropTrailing_upper, ← trim]

end trim

section dash

theorem upper_eq_nil {text : List Char} (none : upper text = []) : text = [] := by
  cases text with
  | nil => rfl
  | cons c text =>
    rw [upper_cons, List.append_eq_nil_iff] at none
    exact absurd none.1 (upperChar_ne_nil c)

/-- A text in upper case begins with a character without case only if the text does. -/
theorem upper_eq_cons {text rest : List Char} {c : Char} (caseless : isCaseless c = true)
    (same : upper text = c :: rest) : ∃ later, text = c :: later ∧ upper later = rest := by
  cases text with
  | nil => exact absurd same (by simp [upper])
  | cons d text =>
    rw [upper_cons] at same
    obtain ⟨e, image, whole⟩ := List.exists_cons_of_ne_nil (upperChar_ne_nil d)
    rw [whole, List.cons_append] at same
    obtain ⟨rfl, later⟩ := List.cons.inj same
    obtain rfl := eq_of_mem_upperChar (whole ▸ List.mem_cons_self) caseless
    rw [upperChar_of_isCaseless caseless] at whole
    obtain rfl := (List.cons.inj whole).2
    exact ⟨text, rfl, later⟩

end dash

end Vitae.Text
