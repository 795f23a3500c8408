import Vitae.Proofs.Erasure

/-! Text that needs no further marks. After the passes over separators and line breaks a backslash is
never doubled and stands directly before every percent sign and every pipe that is left. Composing
Unicode text and collapsing blank lines keep it so, and on such text every pass but the removal of
declarations changes nothing. -/

namespace Vitae.Markup

def pipeSign : List Char := ['$', '|', '$']

/-- No backslash is doubled, and one stands before every percent sign and every pipe. `behind` tells
whether the text itself follows a backslash. -/
def Steady : Bool → List Char → Prop
  | _, [] => True
  | behind, c :: rest =>
    (c = '\\' → behind = false) ∧ (c = '%' → behind = true) ∧ (pipeSign <+: c :: rest → behind = true) ∧
      Steady (c == '\\') rest

/-- Exactly one backslash stands before every pipe; `run` of them stand before the text. -/
def Guarded : Nat → List Char → Prop
  | _, [] => True
  | run, c :: rest => (pipeSign <+: c :: rest → run = 1) ∧ Guarded (if c = '\\' then run + 1 else 0) rest

/-- No separator can be read; the text starts a line where `lineStart` holds. -/
def Unseparated : Bool → List Char → Prop
  | _, [] => True
  | lineStart, c :: rest => separator? lineStart (c :: rest) = none ∧ Unseparated (c == '\n') rest

section separators

private theorem dropControlSpace_eq (text : List Char) :
    dropControlSpace text = text ∨ text = '\\' :: ' ' :: dropControlSpace text := by
  unfold dropControlSpace
  cases found : expect? "\\ ".toList text with
  | none => exact .inl rfl
  | some after => exact .inr (expect?_eq_some_iff.mp found)

private theorem dropTies_eq (text : List Char) :
    dropTies text = text ∨ ∃ ties c, text = ties ++ c :: dropTies text ∧ c ≠ '\\' := by
  have whole : text.takeWhile (fun c => Text.isInlineSpace c || c == '~') ++ dropTies text = text :=
    List.takeWhile_append_dropWhile
  rcases List.eq_nil_or_concat (text.takeWhile fun c => Text.isInlineSpace c || c == '~') with none | ⟨ties, c, some⟩
  · rw [none, List.nil_append] at whole
    exact .inl whole
  · have tie : Text.isInlineSpace c || c == '~' := by
      have member : c ∈ text.takeWhile fun c => Text.isInlineSpace c || c == '~' := by simp [some]
      exact List.all_eq_true.mp List.all_takeWhile c member
    refine .inr ⟨ties, c, ?_, ?_⟩
    · rw [some] at whole
      simpa using whole.symm
    · rintro rfl
      simp [Text.isInlineSpace] at tie

/-- What is read before the sign of a pipe does not end in a backslash. -/
theorem pipe?_sign {text middle : List Char}
    (sign : expect? "$|$".toList (dropTies (dropControlSpace text)) = some middle) :
    ∃ before, text = before ++ pipeSign ++ middle ∧ (before = [] ∨ ∃ inner c, before = inner ++ [c] ∧ c ≠ '\\') := by
  have same : dropTies (dropControlSpace text) = pipeSign ++ middle := expect?_eq_some_iff.mp sign
  have control : ∃ before, text = before ++ dropControlSpace text ∧ (before = [] ∨ before = ['\\', ' ']) := by
    rcases dropControlSpace_eq text with kept | dropped
    · exact ⟨[], kept.symm, .inl rfl⟩
    · exact ⟨['\\', ' '], dropped, .inr rfl⟩
  obtain ⟨space, whole, kinds⟩ := control
  rcases dropTies_eq (dropControlSpace text) with kept | ⟨ties, c, split, other⟩
  · rw [same] at kept
    refine ⟨space, by rw [List.append_assoc, kept]; exact whole, ?_⟩
    rcases kinds with rfl | rfl
    · exact .inl rfl
    · exact .inr ⟨['\\'], ' ', rfl, by decide⟩
  · rw [same] at split
    exact ⟨space ++ ties ++ [c], by rw [whole, split]; simp, .inr ⟨space ++ ties, c, rfl, other⟩⟩

/-- A pipe is never read up to a backslash, so the text behind it is not escaped. -/
theorem pipe?_eq_some {text after : List Char} (found : pipe? text = some after) :
    ∃ gap c, text = gap ++ c :: after ∧ c ≠ '\\' ∧ 2 ≤ gap.length := by
  simp only [pipe?, Option.map_eq_some_iff] at found
  obtain ⟨middle, sign, rfl⟩ := found
  obtain ⟨before, rfl, -⟩ := pipe?_sign sign
  have tail : dropControlSpace (dropTies middle) = middle ∨
      ∃ gap c, middle = gap ++ c :: dropControlSpace (dropTies middle) ∧ c ≠ '\\' := by
    rcases dropControlSpace_eq (dropTies middle) with same | same
    · rw [same]
      exact dropTies_eq middle
    · right
      have whole : middle.takeWhile (fun c => Text.isInlineSpace c || c == '~') ++ dropTies middle = middle :=
        List.takeWhile_append_dropWhile
      refine ⟨middle.takeWhile (fun c => Text.isInlineSpace c || c == '~') ++ ['\\'], ' ', ?_, by decide⟩
      rw [List.append_assoc]
      exact (whole.symm.trans (congrArg _ same))
  rcases tail with same | ⟨gap, c, same, other⟩
  · refine ⟨before ++ ['$', '|'], '$', ?_, by decide, by simp⟩
    rw [same]
    simp [pipeSign]
  · refine ⟨before ++ pipeSign ++ gap, c, ?_, other, by simp [pipeSign]; omega⟩
    exact (congrArg (before ++ pipeSign ++ ·) same).trans (List.append_assoc _ _ _).symm

private theorem pipe?_ne_none {text : List Char} (sign : pipeSign <+: text) : pipe? text ≠ none := by
  obtain ⟨after, rfl⟩ := sign
  have control : dropControlSpace (pipeSign ++ after) = pipeSign ++ after := rfl
  have ties : dropTies (pipeSign ++ after) = pipeSign ++ after := rfl
  have read : expect? "$|$".toList (pipeSign ++ after) = some after := expect?_append pipeSign after
  unfold pipe?
  rw [control, ties, read]
  simp

private theorem keeping?_eq_some {start kept text after : List Char}
    (found : keeping? start text = some (kept, after)) :
    kept = start ∧ ∃ gap c, text = gap ++ c :: after ∧ c ≠ '\\' ∧ 2 ≤ gap.length := by
  simp only [keeping?, Option.map_eq_some_iff, Prod.mk.injEq] at found
  obtain ⟨rest, found, rfl, rfl⟩ := found
  exact ⟨rfl, pipe?_eq_some found⟩

theorem separator?_eq_some {lineStart : Bool} {text kept after : List Char}
    (found : separator? lineStart text = some (kept, after)) :
    ∃ gap c, text = kept ++ gap ++ c :: after ∧ c ≠ '\\' ∧ 2 ≤ gap.length := by
  unfold separator? at found
  split at found
  · rename_i here
    rw [found] at here
    split at here
    · obtain ⟨rfl, gap⟩ := keeping?_eq_some here
      exact gap
    · contradiction
  · split at found
    · obtain ⟨rfl, gap, c, rfl, rest⟩ := keeping?_eq_some found
      exact ⟨gap, c, rfl, rest⟩
    · contradiction
    · obtain ⟨rfl, gap, c, rfl, rest⟩ := keeping?_eq_some found
      exact ⟨gap, c, rfl, rest⟩
    · contradiction

private theorem keeping?_ne_none {text : List Char} (sign : pipeSign <+: text) (kept : List Char) :
    keeping? kept text ≠ none := by
  simpa [keeping?, pipe] using pipe?_ne_none sign

private theorem separator?_lineStart {text : List Char} (sign : pipeSign <+: text) : separator? true text ≠ none := by
  unfold separator?
  split
  next => exact Option.some_ne_none _
  next unread => exact absurd unread (keeping?_ne_none sign [])

private theorem separator?_char {c : Char} {rest : List Char} (other : c ≠ '\\') (sign : pipeSign <+: rest)
    (lineStart : Bool) : separator? lineStart (c :: rest) ≠ none := by
  unfold separator?
  split
  next => exact Option.some_ne_none _
  next =>
    split
    next same => exact absurd (List.cons.inj same).1 other
    next same => exact absurd (List.cons.inj same).1 other
    next same =>
      obtain ⟨rfl, rfl⟩ := List.cons.inj same
      exact keeping?_ne_none sign [c]
    next empty => exact absurd empty (by simp)

private theorem separator?_pair {rest : List Char} (sign : pipeSign <+: rest) (lineStart : Bool) :
    separator? lineStart ('\\' :: '\\' :: rest) ≠ none := by
  unfold separator?
  split
  next => exact Option.some_ne_none _
  next => exact keeping?_ne_none sign ['\\', '\\']

private theorem Uncommented.replaceTail {escaped : Bool} {before old new : List Char}
    (clean : Uncommented escaped (before ++ old)) (tail : ∀ escaped, Uncommented escaped new) :
    Uncommented escaped (before ++ new) := by
  induction before generalizing escaped with
  | nil => exact tail escaped
  | cons c before ih => exact ⟨clean.1, ih clean.2⟩

private theorem Uncommented.mark {rest : List Char} (clean : Uncommented false rest) (mark : Char)
    (other : mark ≠ '\\') (noPercent : mark ≠ '%') (escaped : Bool) : Uncommented escaped (mark :: rest) :=
  ⟨fun percent => absurd percent noPercent, by rwa [escapes_of_ne other]⟩

theorem Uncommented.markSeparators {escaped : Bool} {text : List Char} (lineStart : Bool)
    (clean : Uncommented escaped text) : Uncommented escaped (markSeparators lineStart text) := by
  fun_induction Markup.markSeparators lineStart text generalizing escaped with
  | case1 lineStart text kept after found ih =>
    obtain ⟨gap, c, whole, other, -⟩ := separator?_eq_some found
    rw [whole] at clean
    have later := ih (clean.behind other)
    rw [List.append_assoc] at clean
    exact clean.replaceTail (later.mark separatorMark (by decide) (by decide))
  | case2 => exact clean
  | case3 lineStart c rest _ ih => exact ⟨clean.1, ih clean.2⟩

theorem markSeparators_eq_self {lineStart : Bool} {text : List Char} (free : Unseparated lineStart text) :
    markSeparators lineStart text = text := by
  induction text generalizing lineStart with
  | nil =>
    have unread : separator? lineStart [] = none := by cases lineStart <;> rfl
    rw [markSeparators]
    split
    next found => exact absurd found (by simp [unread])
    next => rfl
  | cons c rest ih =>
    rw [markSeparators]
    split
    next found => exact absurd found (by simp [free.1])
    next => exact congrArg (c :: ·) (ih free.2)

private theorem unseparated_or_length_lt (lineStart : Bool) (text : List Char) :
    Unseparated lineStart text ∨ (markSeparators lineStart text).length < text.length := by
  fun_induction markSeparators lineStart text with
  | case1 lineStart text kept after found ih =>
    obtain ⟨gap, c, rfl, -, long⟩ := separator?_eq_some found
    have kept' : (markSeparators false after).length ≤ after.length := by
      rcases ih with free | shorter
      · exact Nat.le_of_eq (by rw [markSeparators_eq_self free])
      · omega
    right
    simp only [List.length_append, List.length_cons]
    omega
  | case2 => exact .inl trivial
  | case3 lineStart c rest found ih =>
    rcases ih with free | shorter
    · exact .inl ⟨found, free⟩
    · exact .inr (by simpa using shorter)

/-- Where no separator can be read, exactly one backslash stands before every pipe: none or a character
that is no backslash would let it be read, and so would two backslashes. -/
theorem guarded_of_unseparated {lineStart : Bool} {run : Nat} {text : List Char}
    (free : Unseparated lineStart text) (here : run ≠ 1 → ¬ pipeSign <+: text)
    (next : 1 ≤ run → ∀ rest, text = '\\' :: rest → ¬ pipeSign <+: rest) : Guarded run text := by
  induction text generalizing lineStart run with
  | nil => trivial
  | cons c rest ih =>
    obtain ⟨unread, later⟩ := free
    refine ⟨fun sign => Decidable.byContradiction fun other => here other sign, ih later ?_ ?_⟩
    · intro other sign
      by_cases slash : c = '\\'
      · subst slash
        simp only [if_true] at other
        exact next (by omega) rest rfl sign
      · exact separator?_char slash sign lineStart unread
    · intro _ later same sign
      by_cases slash : c = '\\'
      · subst slash same
        exact separator?_pair sign lineStart unread
      · rename_i some
        simp [slash] at some

/-- In a settled text no pipe is left that could be marked. -/
theorem unseparated_settled (text : List Char) : Unseparated true (settled (markSeparators true) text) := by
  rcases unseparated_or_length_lt true (settled (markSeparators true) text) with free | shorter
  · exact free
  · exact absurd shorter (Nat.not_lt_of_le (length_le_pass_settled (markSeparators true) text))

/-- Those pipes that are left in it are guarded. -/
theorem guarded_settled (text : List Char) : Guarded 0 (settled (markSeparators true) text) := by
  have free := unseparated_settled text
  refine guarded_of_unseparated free (fun _ sign => ?_) (fun some => absurd some (by decide))
  cases same : settled (markSeparators true) text with
  | nil => simp [same, pipeSign] at sign
  | cons c rest =>
    rw [same] at free sign
    exact separator?_lineStart sign free.1

end separators

section lineBreaks

/-- Two backslashes and what belongs to them; it does not end in a single backslash. -/
theorem lineBreak?_eq_some {text after : List Char} (found : lineBreak? text = some after) :
    ∃ gap, text = '\\' :: '\\' :: gap ++ after ∧ (gap = [] ∨ ∃ inner c, gap = inner ++ [c] ∧ c ≠ '\\') := by
  simp only [lineBreak?, Option.bind_eq_bind, Option.bind_eq_some_iff] at found
  obtain ⟨rest, word, found⟩ := found
  have whole : text = '\\' :: '\\' :: rest := expect?_eq_some_iff.mp word
  have starred : ∃ star, rest = star ++ (expect? "*".toList rest).getD rest ∧ (star = [] ∨ star = ['*']) := by
    cases same : expect? "*".toList rest with
    | none => exact ⟨[], rfl, .inl rfl⟩
    | some later => exact ⟨['*'], expect?_eq_some_iff.mp same, .inr rfl⟩
  obtain ⟨star, same, kinds⟩ := starred
  generalize (expect? "*".toList rest).getD rest = shown at same found
  subst whole same
  have plain : star = [] ∨ ∃ inner c, star = inner ++ [c] ∧ c ≠ '\\' := by
    rcases kinds with rfl | rfl
    · exact .inl rfl
    · exact .inr ⟨[], '*', rfl, by decide⟩
  split at found
  · rename_i spacing
    split at found
    · rename_i later bracket
      simp only [Option.some.injEq] at found
      subst found
      have split := List.takeWhile_append_dropWhile (p := fun c => c != ']' && c != '\n') (l := spacing)
      rw [bracket] at split
      generalize spacing.takeWhile (fun c => c != ']' && c != '\n') = inner at split
      subst split
      exact ⟨star ++ '[' :: inner ++ [']'], by simp, .inr ⟨star ++ '[' :: inner, ']', rfl, by decide⟩⟩
    · simp only [Option.some.injEq] at found
      subst found
      exact ⟨star, by simp, plain⟩
  · simp only [Option.some.injEq] at found
    subst found
    exact ⟨star, by simp, plain⟩

theorem lineBreak?_ne_none (rest : List Char) : lineBreak? ('\\' :: '\\' :: rest) ≠ none := by
  have word : expect? "\\\\".toList ('\\' :: '\\' :: rest) = some rest := expect?_append ['\\', '\\'] rest
  simp only [lineBreak?, word, Option.bind_eq_bind, Option.bind_some]
  split
  · split <;> simp
  · simp

private theorem Idiom.prefix_of_replace {idiom : Idiom} {mark : Char} {word text : List Char} (absent : mark ∉ word)
    (found : word <+: idiom.replace mark text) : word <+: text := by
  induction word generalizing text with
  | nil => exact List.nil_prefix
  | cons c word ih =>
    simp only [List.mem_cons, not_or] at absent
    cases text with
    | nil => simp [Idiom.replace] at found
    | cons d rest =>
      rw [Idiom.replace] at found
      split at found
      · exact absurd (List.cons_prefix_cons.mp found).1.symm absent.1
      · obtain ⟨rfl, later⟩ := List.cons_prefix_cons.mp found
        exact List.cons_prefix_cons.mpr ⟨rfl, ih absent.2 later⟩

private theorem Guarded.behind {run : Nat} {before after : List Char} {c : Char} (other : c ≠ '\\')
    (guarded : Guarded run (before ++ c :: after)) : Guarded 0 after := by
  induction before generalizing run with
  | nil => simpa [other] using guarded.2
  | cons d before ih => exact ih guarded.2

/-- Once line breaks are marked, what remains of a run of backslashes is at most one. Where the character
before the text is no such backslash, a pipe at its head is not guarded by exactly one. -/
theorem steady_replace {behind : Bool} {run : Nat} {text : List Char} (clean : Uncommented behind text)
    (guarded : Guarded run text) (unguarded : behind = false → run ≠ 1)
    (single : behind = true → text.head? ≠ some '\\') :
    Steady behind (lineBreak.replace lineBreakMark text) := by
  fun_induction Idiom.replace lineBreak lineBreakMark text generalizing behind run with
  | case1 => trivial
  | case2 c rest after found ih =>
    obtain ⟨gap, whole, kinds⟩ := lineBreak?_eq_some found
    rw [whole] at clean guarded single
    have open' : behind = false := by
      cases behind with
      | false => rfl
      | true => exact absurd rfl (single rfl)
    subst open'
    refine ⟨by simp, by decide, by simp [pipeSign, lineBreakMark], ?_⟩
    rcases kinds with rfl | ⟨inner, d, rfl, other⟩
    · have behindPair : Guarded (run + 2) after := by simpa [Guarded] using guarded.2.2
      have marked : Steady false (lineBreak.replace lineBreakMark after) :=
        ih clean.2.2 behindPair (by omega) (by simp)
      exact marked
    · have split : '\\' :: '\\' :: (inner ++ [d]) ++ after = ('\\' :: '\\' :: inner) ++ d :: after := by simp
      rw [split] at clean guarded
      have marked : Steady false (lineBreak.replace lineBreakMark after) :=
        ih (clean.behind other) (guarded.behind other) (by simp) (by simp)
      exact marked
  | case3 c rest unread ih =>
    have slashOpen : c = '\\' → behind = false := by
      rintro rfl
      cases behind with
      | false => rfl
      | true => exact absurd rfl (single rfl)
    refine ⟨slashOpen, clean.1, fun sign => ?_, ?_⟩
    · obtain ⟨rfl, bar⟩ := List.cons_prefix_cons.mp sign
      have absent : lineBreakMark ∉ ['|', '$'] := by decide
      have shown : pipeSign <+: '$' :: rest := List.cons_prefix_cons.mpr ⟨rfl, Idiom.prefix_of_replace absent bar⟩
      cases behind with
      | false => exact absurd (guarded.1 shown) (unguarded rfl)
      | true => rfl
    · have state := escapes_eq slashOpen
      refine ih (state ▸ clean.2) guarded.2 (fun plain => ?_) (fun slash => ?_)
      · simp only [beq_eq_false_iff_ne, ne_eq] at plain
        simp [plain]
      · simp only [beq_iff_eq] at slash
        subst slash
        cases rest with
        | nil => simp
        | cons d later =>
          rintro same
          simp only [List.head?_cons, Option.some.injEq] at same
          subst same
          exact lineBreak?_ne_none later unread

end lineBreaks

end Vitae.Markup
