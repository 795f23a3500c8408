import Vitae.Proofs.SectionLocality
import Vitae.Proofs.WholeText

/-! Reading at byte offsets. A scan of the bytes of a text for a closing brace or bracket passes over one byte behind a
backslash, whatever the character there takes. The bytes left of it are none that the scan looks for, so it ends where
the scan of the characters does, and no slice is ever cut inside a character. -/

namespace Vitae.Markup

/-! ### Readers of bytes -/

/-- The bytes of a text. -/
def bytes (text : String) : List UInt8 :=
  text.toByteArray.data.toList

/-- How many bytes characters take. -/
def width (text : List Char) : Nat :=
  (String.ofList text).utf8ByteSize

/-- Scans bytes from an offset on for one that stops the scan at its depth of braces. A backslash takes the byte behind
it out of the count. -/
def seek (stops : (depth : Nat) → UInt8 → Bool) (bytes : List UInt8) (depth offset : Nat) : Option Nat :=
  match _inside : bytes[offset]? with
  | none => none
  | some byte =>
    if byte = '\\'.toUInt8 then seek stops bytes depth (offset + 2)
    else if stops depth byte then some offset
    else if byte = '{'.toUInt8 then seek stops bytes (depth + 1) (offset + 1)
    else if byte = '}'.toUInt8 then seek stops bytes (depth - 1) (offset + 1)
    else seek stops bytes depth (offset + 1)
termination_by bytes.length - offset
decreasing_by
  all_goals
    have := (List.getElem?_eq_some_iff.mp _inside).1
    omega

/-- Stops at a mark, at one depth of braces. -/
def stopsAt (level : Nat) (mark : Char) (depth : Nat) (byte : UInt8) : Bool :=
  depth = level && byte = mark.toUInt8

/-- The offset of the brace that closes a group whose content begins at an offset. -/
def braceOffset? (text : String) (offset : Nat) : Option Nat :=
  seek (stopsAt 1 '}') (bytes text) 1 offset

/-- The offset of the bracket that closes an option whose content begins at an offset. -/
def bracketOffset? (text : String) (offset : Nat) : Option Nat :=
  seek (stopsAt 0 ']') (bytes text) 0 offset

/-- The characters between two offsets, neither of which may lie inside a character. An offset that does is the fault. -/
def slice (text : String) (start stop : Nat) : Except Nat (List Char) :=
  if inside : start ≤ stop ∧ String.Pos.Raw.IsValid text ⟨start⟩ then
    if complete : String.Pos.Raw.IsValid text ⟨stop⟩ then
      .ok (text.extract (text.pos ⟨start⟩ inside.2) (text.pos ⟨stop⟩ complete)).toList
    else .error stop
  else .error start

/-- The characters from an offset on. -/
def sliceFrom (text : String) (offset : Nat) : Except Nat (List Char) :=
  slice text offset text.utf8ByteSize

/-- The group at an offset and the offset behind it. -/
def groupAt (text : String) (offset : Nat) : Except Nat (Option (Enclosed × Nat)) := do
  if (← sliceFrom text offset).head? = some '{' then
    match braceOffset? text (offset + 1) with
    | some close => return some (⟨← slice text (offset + 1) close, true⟩, close + 1)
    | none => return some (⟨← sliceFrom text (offset + 1), false⟩, text.utf8ByteSize)
  else return none

/-- The bracket option at an offset, with blanks before it, and the offset behind it. -/
def optionAt (text : String) (offset : Nat) : Except Nat (Option (List Char × Nat)) := do
  let blanks := (← sliceFrom text offset).takeWhile Text.isInlineSpace
  let start := offset + width blanks
  if (← sliceFrom text start).head? = some '[' then
    match bracketOffset? text (start + 1) with
    | some close => return some (← slice text (start + 1) close, close + 1)
    | none => return none
  else return none

/-! ### Bytes and characters -/

def encoded (text : List Char) : List UInt8 :=
  text.flatMap String.utf8EncodeChar

private theorem bytes_ofList (text : List Char) : bytes (String.ofList text) = encoded text := by
  simp [bytes, encoded, String.toByteArray_ofList, List.utf8Encode]

private theorem length_encoded (text : List Char) : (encoded text).length = width text := by
  rw [← bytes_ofList, width, ← String.size_toByteArray]
  rfl

private theorem encoded_append (first second : List Char) :
    encoded (first ++ second) = encoded first ++ encoded second :=
  List.flatMap_append

private theorem encoded_cons (c : Char) (rest : List Char) :
    encoded (c :: rest) = String.utf8EncodeChar c ++ encoded rest :=
  List.flatMap_cons

private theorem width_append (first second : List Char) : width (first ++ second) = width first + width second := by
  rw [← length_encoded, encoded_append, List.length_append, length_encoded, length_encoded]

private theorem utf8EncodeChar_ascii {c : Char} (ascii : c.toNat < 128) : String.utf8EncodeChar c = [c.toUInt8] := by
  rw [String.utf8EncodeChar]
  exact if_pos (Nat.le_of_lt_succ ascii)

private theorem high_utf8EncodeChar {c : Char} (several : ¬ c.toNat < 128) :
    ∀ byte ∈ String.utf8EncodeChar c, 128 ≤ byte.toNat := by
  have high {code : Nat} {later : List UInt8} (above : 128 ≤ code) (below : code < 256)
      (behind : ∀ byte ∈ later, 128 ≤ byte.toNat) : ∀ byte ∈ UInt8.ofNat code :: later, 128 ≤ byte.toNat := by
    refine List.forall_mem_cons.mpr ⟨?_, behind⟩
    rw [UInt8.toNat_ofNat_of_lt' below]
    exact above
  have none : ∀ byte ∈ ([] : List UInt8), 128 ≤ byte.toNat := by simp
  fun_cases String.utf8EncodeChar c with
  | case1 code ascii => exact absurd (Nat.lt_succ_of_le ascii) several
  | case2 =>
    refine high ?_ ?_ (high ?_ ?_ none)
    all_goals omega
  | case3 =>
    refine high ?_ ?_ (high ?_ ?_ (high ?_ ?_ none))
    all_goals omega
  | case4 =>
    refine high ?_ ?_ (high ?_ ?_ (high ?_ ?_ (high ?_ ?_ none)))
    all_goals omega

private theorem exists_utf8EncodeChar (c : Char) : ∃ byte more, String.utf8EncodeChar c = byte :: more := by
  fun_cases String.utf8EncodeChar c <;> exact ⟨_, _, rfl⟩

private theorem toNat_toUInt8 {c : Char} (ascii : c.toNat < 128) : c.toUInt8.toNat = c.toNat := by
  have whole : c.toUInt8.toNat = c.toNat % 256 := UInt32.toNat_toUInt8 c.val
  rw [whole, Nat.mod_eq_of_lt (by omega)]

private theorem toUInt8_ne {c d : Char} (ascii : c.toNat < 128) (also : d.toNat < 128) (different : c ≠ d) :
    c.toUInt8 ≠ d.toUInt8 := by
  intro same
  apply different
  apply Char.toNat_inj.mp
  rw [← toNat_toUInt8 ascii, ← toNat_toUInt8 also, same]

/-- The offset at which the end of a text begins. -/
def offsetIn (whole : List UInt8) (rest : List Char) : Nat :=
  whole.length - width rest

private theorem offsetIn_append (front : List UInt8) (rest : List Char) :
    offsetIn (front ++ encoded rest) rest = front.length := by
  rw [offsetIn, List.length_append, length_encoded, Nat.add_sub_cancel]

/-! ### Steps of a scan -/

section seek

variable {stops : Nat → UInt8 → Bool} {depth : Nat}

private theorem seek_none {bytes : List UInt8} {offset : Nat} (outside : bytes[offset]? = none) :
    seek stops bytes depth offset = none := by
  rw [seek]
  split
  next => rfl
  next inside => exact absurd (outside.symm.trans inside) (by simp)

private theorem seek_append (front : List UInt8) (byte : UInt8) (back : List UInt8) :
    seek stops (front ++ byte :: back) depth front.length =
      if byte = '\\'.toUInt8 then seek stops (front ++ byte :: back) depth (front.length + 2)
      else if stops depth byte then some front.length
      else if byte = '{'.toUInt8 then seek stops (front ++ byte :: back) (depth + 1) (front.length + 1)
      else if byte = '}'.toUInt8 then seek stops (front ++ byte :: back) (depth - 1) (front.length + 1)
      else seek stops (front ++ byte :: back) depth (front.length + 1) := by
  have inside : (front ++ byte :: back)[front.length]? = some byte := by simp
  rw [seek.eq_def]
  split
  next outside => exact absurd (inside.symm.trans outside) (by simp)
  next other here =>
    obtain rfl : byte = other := Option.some.inj (inside.symm.trans here)
    rfl

/-- Over a part of a text the scan goes from one depth to another, whatever stands around the part. -/
def Passes (stops : Nat → UInt8 → Bool) (depth : Nat) (part : List Char) (after : Nat) : Prop :=
  ∀ (front : List UInt8) (rest : List Char), seek stops (front ++ encoded (part ++ rest)) depth front.length =
    seek stops (front ++ encoded (part ++ rest)) after (front.length + width part)

/-- From the beginning of the rest of a text the scan finds where a part at the end begins, or nothing. -/
def Finds (stops : Nat → UInt8 → Bool) (depth : Nat) (rest : List Char) (found? : Option (List Char)) : Prop :=
  ∀ front : List UInt8, seek stops (front ++ encoded rest) depth front.length =
    found?.map fun found => offsetIn (front ++ encoded rest) found

private theorem finds_nil : Finds stops depth [] none := by
  intro front
  exact seek_none (by simp [encoded])

theorem Finds.passed {after : Nat} {part rest : List Char} {found? : Option (List Char)}
    (finds : Finds stops after rest found?) (passes : Passes stops depth part after) :
    Finds stops depth (part ++ rest) found? := by
  intro front
  have behind := finds (front ++ encoded part)
  rw [List.append_assoc, ← encoded_append, List.length_append, length_encoded] at behind
  rw [passes, behind]

section ascii

variable {c : Char} (ascii : c.toNat < 128)
include ascii

private theorem encoded_ascii (rest : List Char) : encoded (c :: rest) = c.toUInt8 :: encoded rest := by
  rw [encoded_cons, utf8EncodeChar_ascii ascii, List.singleton_append]

private theorem width_ascii : width [c] = 1 := by
  rw [← length_encoded, encoded_ascii ascii]
  rfl

private theorem finds_stop (noSlash : c ≠ '\\') (stop : stops depth c.toUInt8 = true) (rest : List Char) :
    Finds stops depth (c :: rest) (some (c :: rest)) := by
  intro front
  rw [Option.map_some, offsetIn_append, encoded_ascii ascii, seek_append, if_neg (toUInt8_ne ascii (by decide) noSlash),
    if_pos stop]

end ascii

private theorem finds_backslash : Finds stops depth ['\\'] none := by
  intro front
  rw [encoded_ascii (by decide), seek_append, if_pos rfl]
  exact seek_none (by simp [encoded])

private theorem passes_opening (goes : stops depth '{'.toUInt8 = false) : Passes stops depth ['{'] (depth + 1) := by
  intro front rest
  rw [List.singleton_append, encoded_ascii (by decide), seek_append, if_neg (by decide), goes, if_neg Bool.false_ne_true,
    if_pos rfl, width_ascii (by decide)]

private theorem passes_closing (goes : stops depth '}'.toUInt8 = false) : Passes stops depth ['}'] (depth - 1) := by
  intro front rest
  rw [List.singleton_append, encoded_ascii (by decide), seek_append, if_neg (by decide), goes, if_neg Bool.false_ne_true,
    if_neg (by decide), if_pos rfl, width_ascii (by decide)]

section bytewise

variable (only : ∀ depth byte, stops depth byte = true → byte.toNat < 128)
include only

/-- A scan that looks for ASCII only passes over bytes that stand for no character alone. -/
theorem seek_high (depth : Nat) {part : List UInt8} (high : ∀ byte ∈ part, 128 ≤ byte.toNat) (front back : List UInt8) :
    seek stops (front ++ (part ++ back)) depth front.length =
      seek stops (front ++ (part ++ back)) depth (front.length + part.length) := by
  induction part generalizing front with
  | nil => rfl
  | cons byte part ih =>
    obtain ⟨here, later⟩ := List.forall_mem_cons.mp high
    have other {c : Char} (also : c.toUInt8.toNat < 128) : byte ≠ c.toUInt8 := by
      rintro rfl
      omega
    have goes : stops depth byte = false := by
      rw [Bool.eq_false_iff]
      intro stop
      have := only depth byte stop
      omega
    have behind := ih later (front ++ [byte])
    simp only [List.append_assoc, List.singleton_append, List.length_append, List.length_singleton] at behind
    rw [List.cons_append, seek_append, if_neg (other (by decide)), goes, if_neg Bool.false_ne_true,
      if_neg (other (by decide)), if_neg (other (by decide)), behind, List.length_cons]
    congr 1
    omega

/-- A character of no meaning to the scan is passed over, whatever it takes. -/
theorem passes_char {c : Char} (noSlash : c ≠ '\\') (noOpening : c ≠ '{') (noClosing : c ≠ '}')
    (goes : c.toNat < 128 → stops depth c.toUInt8 = false) : Passes stops depth [c] depth := by
  intro front rest
  by_cases ascii : c.toNat < 128
  · have other {d : Char} (also : d.toNat < 128) (different : c ≠ d) : c.toUInt8 ≠ d.toUInt8 :=
      toUInt8_ne ascii also different
    rw [List.singleton_append, encoded_ascii ascii, seek_append, if_neg (other (by decide) noSlash), goes ascii,
      if_neg Bool.false_ne_true, if_neg (other (by decide) noOpening), if_neg (other (by decide) noClosing),
      width_ascii ascii]
  · rw [encoded_append, seek_high only, length_encoded]
    rw [encoded, List.flatMap_singleton]
    exact high_utf8EncodeChar ascii

/-- Behind a backslash the scan goes on inside the character there, and passes over what is left of it. -/
theorem passes_escaped (c : Char) : Passes stops depth ['\\', c] depth := by
  intro front rest
  obtain ⟨byte, more, spelled⟩ := exists_utf8EncodeChar c
  have high : ∀ byte ∈ more, 128 ≤ byte.toNat := by
    by_cases ascii : c.toNat < 128
    · rw [utf8EncodeChar_ascii ascii] at spelled
      obtain ⟨-, rfl⟩ := List.cons.inj spelled
      simp
    · have bytes := high_utf8EncodeChar ascii
      rw [spelled] at bytes
      exact (List.forall_mem_cons.mp bytes).2
  have whole : encoded ['\\', c] = '\\'.toUInt8 :: byte :: more := by
    rw [encoded_ascii (by decide), encoded, List.flatMap_singleton, spelled]
  have behind := seek_high only depth high (front ++ ['\\'.toUInt8, byte]) (encoded rest)
  rw [encoded_append, ← length_encoded, whole]
  simp only [List.append_assoc, List.cons_append, List.nil_append, List.length_append, List.length_cons,
    List.length_nil] at behind ⊢
  rw [seek_append, if_pos rfl, behind]
  congr 1
  omega

end bytewise

end seek

/-! ### Where a scan ends -/

section stopsAt

variable {level depth : Nat} {mark : Char} {byte : UInt8}

private theorem not_stopsAt (other : byte ≠ mark.toUInt8) : stopsAt level mark depth byte = false := by
  simp [stopsAt, other]

private theorem ascii_of_stopsAt (ascii : mark.toNat < 128) (depth : Nat) (byte : UInt8)
    (stop : stopsAt level mark depth byte = true) : byte.toNat < 128 := by
  simp only [stopsAt, Bool.and_eq_true, decide_eq_true_eq] at stop
  rw [stop.2, toNat_toUInt8 ascii]
  exact ascii

end stopsAt

private theorem finds_closingBrace? (depth : Nat) (rest : List Char) :
    Finds (stopsAt 1 '}') (depth + 1) rest ((closingBrace? depth rest).map ('}' :: ·)) := by
  have only : ∀ depth byte, stopsAt 1 '}' depth byte = true → byte.toNat < 128 := ascii_of_stopsAt (by decide)
  fun_induction closingBrace? depth rest with
  | case1 => exact finds_nil
  | case2 => exact finds_backslash
  | case3 depth c rest ih => exact ih.passed (passes_escaped only c)
  | case4 depth rest ih => exact ih.passed (passes_opening (not_stopsAt (by decide)))
  | case5 rest => exact finds_stop (by decide) (by decide) (by decide) rest
  | case6 rest depth ih =>
    have passes : Passes (stopsAt 1 '}') (depth + 1 + 1) ['}'] (depth + 1) := passes_closing (by simp [stopsAt])
    exact ih.passed passes
  | case7 depth c rest noEnd noEscape noOpening noClosing ih =>
    refine ih.passed (passes_char only (ne_slash noEnd noEscape) noOpening noClosing fun ascii => ?_)
    exact not_stopsAt (toUInt8_ne ascii (by decide) noClosing)

private theorem finds_closingBracket? (depth : Nat) (rest : List Char) :
    Finds (stopsAt 0 ']') depth rest ((closingBracket? depth rest).map (']' :: ·)) := by
  have only : ∀ depth byte, stopsAt 0 ']' depth byte = true → byte.toNat < 128 := ascii_of_stopsAt (by decide)
  fun_induction closingBracket? depth rest with
  | case1 => exact finds_nil
  | case2 => exact finds_backslash
  | case3 depth c rest ih => exact ih.passed (passes_escaped only c)
  | case4 depth rest ih => exact ih.passed (passes_opening (not_stopsAt (by decide)))
  | case5 depth rest ih => exact ih.passed (passes_closing (not_stopsAt (by decide)))
  | case6 rest => exact finds_stop (by decide) (by decide) (by decide) rest
  | case7 depth rest inside ih =>
    refine ih.passed (passes_char only (by decide) (by decide) (by decide) fun _ => ?_)
    simp [stopsAt, inside]
  | case8 depth c rest noEnd noEscape noOpening noClosing noBracket ih =>
    refine ih.passed (passes_char only (ne_slash noEnd noEscape) noOpening noClosing fun ascii => ?_)
    exact not_stopsAt (toUInt8_ne ascii (by decide) noBracket)

/-! ### Slices -/

private theorem isValid_width (before after : List Char) :
    String.Pos.Raw.IsValid (String.ofList (before ++ after)) ⟨width before⟩ := by
  rw [String.Pos.Raw.isValid_iff_exists_append]
  exact ⟨String.ofList before, String.ofList after, String.ofList_append, rfl⟩

private theorem slice_append (before inner after : List Char) :
    slice (String.ofList (before ++ (inner ++ after))) (width before) (width before + width inner) = .ok inner := by
  have starts := isValid_width before (inner ++ after)
  have stops := isValid_width (before ++ inner) after
  rw [List.append_assoc, width_append] at stops
  rw [slice, dif_pos ⟨Nat.le_add_right _ _, starts⟩, dif_pos stops]
  have same : (String.ofList (before ++ (inner ++ after))).extract (String.pos _ ⟨width before⟩ starts)
      (String.pos _ ⟨width before + width inner⟩ stops) = String.ofList inner := by
    apply String.toByteArray_inj.mp
    rw [String.toByteArray_extract, String.offset_pos, String.offset_pos, width, width, ← String.size_toByteArray,
      ← String.size_toByteArray, String.ofList_append, String.ofList_append, String.toByteArray_append,
      String.toByteArray_append]
    have behind := ByteArray.extract_append_size_add (a := (String.ofList before).toByteArray)
      (b := (String.ofList inner).toByteArray ++ (String.ofList after).toByteArray) (i := 0)
      (j := (String.ofList inner).toByteArray.size)
    exact behind.trans (ByteArray.extract_append_eq_left rfl)
  rw [same, String.toList_ofList]

private theorem sliceFrom_append (before rest : List Char) :
    sliceFrom (String.ofList (before ++ rest)) (width before) = .ok rest := by
  have whole := slice_append before rest []
  rw [List.append_nil, ← width_append] at whole
  exact whole

/-! ### Reading at a boundary -/

/-- The bytes and the characters from a boundary on lead to the same mark, which begins at a boundary, or both to
none. -/
inductive SameEnd (text : String) (start : Nat) (mark : Char) : List Char → Option Nat → Option (List Char) → Prop
  | nowhere {rest : List Char} : SameEnd text start mark rest none none
  | found {inner after : List Char} (boundary : String.Pos.Raw.IsValid text ⟨start + width inner⟩) :
      SameEnd text start mark (inner ++ mark :: after) (some (start + width inner)) (some after)

private theorem Finds.sameEnd {stops : Nat → UInt8 → Bool} {depth : Nat} {rest : List Char} {mark : Char}
    {after? : Option (List Char)} (finds : Finds stops depth rest (after?.map (mark :: ·)))
    (within : ∀ after, after? = some after → ∃ inner, rest = inner ++ mark :: after) (before : List Char) :
    SameEnd (String.ofList (before ++ rest)) (width before) mark rest
      (seek stops (bytes (String.ofList (before ++ rest))) depth (width before)) after? := by
  have ends := finds (encoded before)
  rw [← encoded_append, length_encoded] at ends
  rw [bytes_ofList, ends]
  cases after? with
  | none => exact .nowhere
  | some after =>
    obtain ⟨inner, rfl⟩ := within after rfl
    have place : offsetIn (encoded (before ++ (inner ++ mark :: after))) (mark :: after) = width before + width inner := by
      rw [← List.append_assoc, encoded_append, offsetIn_append, length_encoded, width_append]
    have boundary := isValid_width (before ++ inner) (mark :: after)
    rw [List.append_assoc, width_append] at boundary
    rw [Option.map_some, Option.map_some, place]
    exact .found boundary

private theorem exists_inner_of_closingBrace? {depth : Nat} {text after : List Char}
    (found : closingBrace? depth text = some after) :
    ∃ inner, text = inner ++ '}' :: after ∧ braceLevel? depth inner = some 0 ∧ endsInEscape inner = false := by
  fun_induction closingBrace? depth text with
  | case1 | case2 => contradiction
  | case3 _ c _ ih =>
    obtain ⟨inner, rfl, balanced, complete⟩ := ih found
    exact ⟨'\\' :: c :: inner, rfl, balanced, complete⟩
  | case4 _ _ ih =>
    obtain ⟨inner, rfl, balanced, complete⟩ := ih found
    exact ⟨'{' :: inner, rfl, balanced, complete⟩
  | case5 rest =>
    obtain rfl := Option.some.inj found
    exact ⟨[], rfl, rfl, rfl⟩
  | case6 _ _ ih =>
    obtain ⟨inner, rfl, balanced, complete⟩ := ih found
    exact ⟨'}' :: inner, rfl, balanced, complete⟩
  | case7 depth c rest noEnd noEscape noOpening noClosing ih =>
    have noSlash := ne_slash noEnd noEscape
    obtain ⟨inner, rfl, balanced, complete⟩ := ih found
    refine ⟨c :: inner, rfl, ?_, ?_⟩
    · rw [braceLevel?_cons noSlash noOpening noClosing, balanced]
    · rw [endsInEscape_cons noSlash, complete]

private theorem braceOffset?_sameEnd (before rest : List Char) :
    SameEnd (String.ofList (before ++ rest)) (width before) '}' rest
      (braceOffset? (String.ofList (before ++ rest)) (width before)) (closingBrace? 0 rest) := by
  refine (finds_closingBrace? 0 rest).sameEnd (fun after found => ?_) before
  obtain ⟨inner, same, -⟩ := exists_inner_of_closingBrace? found
  exact ⟨inner, same⟩

-- The second byte of the letter is passed over by itself.
example : braceOffset? "\\é\x7db" 0 = some 3 := by cbv

private theorem bracketOffset?_sameEnd (before rest : List Char) :
    SameEnd (String.ofList (before ++ rest)) (width before) ']' rest
      (bracketOffset? (String.ofList (before ++ rest)) (width before)) (closingBracket? 0 rest) := by
  refine (finds_closingBracket? 0 rest).sameEnd (fun after found => ?_) before
  obtain ⟨inner, same, -⟩ := exists_of_closingBracket? found
  exact ⟨inner, same⟩

/-- What was read, and the offset of what is left. -/
def located {α : Type} (text : String) (read : α × List Char) : α × Nat :=
  (read.1, text.utf8ByteSize - width read.2)

private theorem located_append {α : Type} (read : α) (before rest : List Char) :
    located (String.ofList (before ++ rest)) (read, rest) = (read, width before) := by
  have total : (String.ofList (before ++ rest)).utf8ByteSize = width before + width rest := width_append before rest
  rw [located, total, Nat.add_sub_cancel]

section enclosed

variable {opening closing : Char} (opens : opening.toNat < 128) (closes : closing.toNat < 128)
  (before inner after : List Char)

include opens in
private theorem slice_enclosed :
    slice (String.ofList (before ++ opening :: (inner ++ closing :: after))) (width before + 1)
    (width before + 1 + width inner) = .ok inner := by
  have behind := slice_append (before ++ [opening]) inner (closing :: after)
  rw [width_append, width_ascii opens, List.append_assoc] at behind
  exact behind

include opens closes in
private theorem located_enclosed {α : Type} (read : α) :
    located (String.ofList (before ++ opening :: (inner ++ closing :: after))) (read, after) =
      (read, width before + 1 + width inner + 1) := by
  have behind := located_append read (before ++ [opening] ++ inner ++ [closing]) after
  rw [width_append, width_append, width_append, width_ascii opens, width_ascii closes] at behind
  simpa using behind

end enclosed

private theorem groupAt_append (before rest : List Char) :
    groupAt (String.ofList (before ++ rest)) (width before) =
      .ok ((group? rest).map (located (String.ofList (before ++ rest)))) := by
  rw [groupAt, sliceFrom_append]
  cases rest with
  | nil => rfl
  | cons c rest =>
    by_cases opening : c = '{'
    · subst opening
      have opens : '{'.toNat < 128 := by decide
      have ends := braceOffset?_sameEnd (before ++ ['{']) rest
      have unclosed := sliceFrom_append (before ++ ['{']) rest
      rw [width_append, width_ascii opens, List.append_assoc, List.singleton_append] at ends unclosed
      simp only [bind, Except.bind, List.head?_cons, if_true, group?]
      generalize braceOffset? (String.ofList (before ++ '{' :: rest)) (width before + 1) = offset?,
        closingBrace? 0 rest = after? at ends ⊢
      cases ends with
      | nowhere =>
        simp only [unclosed]
        rfl
      | @found inner after =>
        simp only [slice_enclosed opens, take_enclosed, Option.map_some, located_enclosed opens (by decide : '}'.toNat < 128)]
        rfl
    · rw [group?_cons opening]
      simp [opening, bind, Except.bind, pure, Except.pure]

private theorem optionAt_append (before rest : List Char) :
    optionAt (String.ofList (before ++ rest)) (width before) =
      .ok ((option? rest).map (located (String.ofList (before ++ rest)))) := by
  obtain ⟨blanks, later, rfl, kept, dropped⟩ : ∃ blanks later, rest = blanks ++ later ∧
      rest.takeWhile Text.isInlineSpace = blanks ∧ dropBlanks rest = later :=
    ⟨_, _, List.takeWhile_append_dropWhile.symm, rfl, rfl⟩
  have behind := sliceFrom_append (before ++ blanks) later
  rw [List.append_assoc, width_append] at behind
  rw [optionAt, sliceFrom_append, option?, dropped]
  simp only [bind, Except.bind, kept, behind]
  cases later with
  | nil => rfl
  | cons c later =>
    by_cases opening : c = '['
    · subst opening
      have opens : '['.toNat < 128 := by decide
      have ends := bracketOffset?_sameEnd (before ++ blanks ++ ['[']) later
      rw [width_append, width_ascii opens, List.append_assoc, List.singleton_append, width_append] at ends
      rw [← List.append_assoc]
      simp only [List.head?_cons, if_true]
      generalize bracketOffset? (String.ofList (before ++ blanks ++ '[' :: later)) (width before + width blanks + 1) = offset?,
        closingBracket? 0 later = after? at ends ⊢
      rw [← width_append]
      cases ends with
      | nowhere => rfl
      | @found inner after =>
        rw [← width_append]
        simp only [slice_enclosed opens, take_enclosed, Option.map_some, located_enclosed opens (by decide : ']'.toNat < 128)]
        rfl
    · simp [opening, pure, Except.pure]

/-! ### Closed groups -/

/-- A text is the content of a closed group where its braces are balanced and it does not end in an escape. -/
theorem group?_closed_iff {text inner after : List Char} : group? text = some (⟨inner, true⟩, after) ↔
    text = braced inner ++ after ∧ braceLevel? 0 inner = some 0 ∧ endsInEscape inner = false := by
  constructor
  · intro read
    match text with
    | [] => contradiction
    | c :: rest =>
      by_cases opening : c = '{'
      · subst opening
        rw [group?] at read
        cases found : closingBrace? 0 rest with
        | none => simp [found] at read
        | some behind =>
          obtain ⟨content, rfl, balanced, complete⟩ := exists_inner_of_closingBrace? found
          rw [found] at read
          simp only [take_enclosed, Option.some.injEq, Prod.mk.injEq, Enclosed.mk.injEq, and_true] at read
          obtain ⟨rfl, rfl⟩ := read
          exact ⟨by simp [braced], balanced, complete⟩
      · rw [group?_cons opening] at read
        contradiction
  · rintro ⟨rfl, balanced, complete⟩
    apply group?_braced
    intro depth rest
    simpa using closingBrace?_of_braceLevel? balanced complete depth rest

/-- The characters from a boundary on. -/
def behind {text : String} (start : text.Pos) : List Char :=
  (text.sliceFrom start).copy.toList

private theorem exists_before {text : String} (start : text.Pos) :
    ∃ before, text = String.ofList (before ++ behind start) ∧ start.offset.byteIdx = width before := by
  have splits := start.splits
  refine ⟨(text.sliceTo start).copy.toList, ?_, ?_⟩
  · rw [behind, String.ofList_append, String.ofList_toList, String.ofList_toList]
    exact splits.eq_append
  · rw [splits.offset_eq_rawEndPos, width, String.ofList_toList]
    rfl

/-- From every boundary the bytes lead to the closing brace and to the closing bracket that the characters show. So
groups and options are read at byte offsets as they are from the characters, and no slice begins or ends inside a
character. A text that is balanced and does not end in an escape is read back from the braces around it, and every
closed group has such a content. -/
theorem offsets_agree (text : String) (start : text.Pos) :
    SameEnd text start.offset.byteIdx '}' (behind start) (braceOffset? text start.offset.byteIdx)
        (closingBrace? 0 (behind start)) ∧
      SameEnd text start.offset.byteIdx ']' (behind start) (bracketOffset? text start.offset.byteIdx)
        (closingBracket? 0 (behind start)) ∧
      groupAt text start.offset.byteIdx = .ok ((group? (behind start)).map (located text)) ∧
      optionAt text start.offset.byteIdx = .ok ((option? (behind start)).map (located text)) ∧
      (∀ inner after, behind start = braced inner ++ after →
        braceLevel? 0 inner = some 0 → endsInEscape inner = false →
          ∃ offset, groupAt text start.offset.byteIdx = .ok (some (⟨inner, true⟩, offset)) ∧
            sliceFrom text offset = .ok after) ∧
      ∀ inner offset, groupAt text start.offset.byteIdx = .ok (some (⟨inner, true⟩, offset)) →
        braceLevel? 0 inner = some 0 ∧ endsInEscape inner = false := by
  obtain ⟨before, whole, place⟩ := exists_before start
  generalize behind start = rest at whole ⊢
  rw [place]
  clear place
  subst whole
  have group := groupAt_append before rest
  refine ⟨braceOffset?_sameEnd before rest, bracketOffset?_sameEnd before rest, group, optionAt_append before rest, ?_, ?_⟩
  · rintro inner after rfl balanced complete
    rw [group, group?_closed_iff.mpr ⟨rfl, balanced, complete⟩]
    rw [← List.append_assoc, Option.map_some, located_append]
    exact ⟨_, rfl, sliceFrom_append _ _⟩
  · intro inner offset read
    rw [group] at read
    obtain ⟨⟨enclosed, after⟩, found, same⟩ := Option.map_eq_some_iff.mp (Except.ok.inj read)
    obtain ⟨rfl, -⟩ := Prod.mk.inj same
    exact (group?_closed_iff.mp found).2

/-- The scan goes on behind the first of the two bytes of an escaped letter. -/
theorem offsets_agree_escapedAccent :
    (∃ offset, groupAt (String.ofList (braced ['\\', 'é'] ++ ['b'])) 0 = .ok (some (⟨['\\', 'é'], true⟩, offset)) ∧
        sliceFrom (String.ofList (braced ['\\', 'é'] ++ ['b'])) offset = .ok ['b']) ∧
      braceLevel? 0 ['\\', 'é'] = some 0 ∧ endsInEscape ['\\', 'é'] = false := by
  obtain ⟨-, -, -, -, reads, closed⟩ :=
    offsets_agree (String.ofList (braced ['\\', 'é'] ++ ['b'])) (String.startPos _)
  have shown : behind (String.ofList (braced ['\\', 'é'] ++ ['b'])).startPos = braced ['\\', 'é'] ++ ['b'] := by
    simp [behind]
  obtain ⟨offset, read, left⟩ := reads ['\\', 'é'] ['b'] shown rfl rfl
  exact ⟨⟨offset, read, left⟩, closed ['\\', 'é'] offset read⟩

end Vitae.Markup
