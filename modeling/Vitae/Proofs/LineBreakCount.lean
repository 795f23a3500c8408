import Mathlib.Algebra.GroupWithZero.Nat
import Vitae.Proofs.ComposedMarks
import Vitae.Proofs.NormalForm

/-! Counting line breaks. Two backslashes are a line break, so a run of them makes half as many breaks as it is long.
A pass over the pipes keeps that count but for one case: it takes the last backslash of a run for the control space of
a pipe even where that backslash is the second half of a pair. -/

namespace Vitae.Markup

/-- The maximal runs of backslashes in a text before which `run` of them stand already: how long each is, and the text
behind it. -/
def slashRuns (run : Nat) : List Char → List (Nat × List Char)
  | [] => if run = 0 then [] else [(run, [])]
  | c :: rest =>
    if c = '\\' then slashRuns (run + 1) rest
    else if run = 0 then slashRuns 0 rest
    else (run, c :: rest) :: slashRuns 0 rest

/-- Holds for a space and a pipe behind it. A backslash before them makes the space a control space. -/
def isSpacedPipe : List Char → Bool
  | ' ' :: rest => (expect? pipeSign (dropTies rest)).isSome
  | _ => false

/-- Holds for a run whose last backslash belongs to a pair and is taken for a control space nevertheless. -/
def isShortened (run : Nat × List Char) : Bool :=
  run.1 % 2 == 0 && decide (4 ≤ run.1) && isSpacedPipe run.2

section runs

/-- What the runs of a text weigh together. -/
def runSum (weigh : Nat × List Char → Nat) (run : Nat) (text : List Char) : Nat :=
  ((slashRuns run text).map weigh).sum

variable {weigh : Nat × List Char → Nat}

private theorem runSum_slash (weigh : Nat × List Char → Nat) (run : Nat) (rest : List Char) :
    runSum weigh run ('\\' :: rest) = runSum weigh (run + 1) rest :=
  rfl

variable (light : ∀ behind, weigh (0, behind) = 0)
include light

private theorem runSum_nil (run : Nat) : runSum weigh run [] = weigh (run, []) := by
  unfold runSum slashRuns
  split
  next none => simp [none, light]
  next => simp

theorem runSum_other {c : Char} (other : c ≠ '\\') (run : Nat) (rest : List Char) :
    runSum weigh run (c :: rest) = weigh (run, c :: rest) + runSum weigh 0 rest := by
  unfold runSum
  rw [slashRuns, if_neg other]
  split
  next none => simp [none, light]
  next => simp

private theorem runSum_zero {c : Char} (other : c ≠ '\\') (rest : List Char) :
    runSum weigh 0 (c :: rest) = runSum weigh 0 rest := by
  rw [runSum_other light other, light, Nat.zero_add]

end runs

/-- The breaks that a run makes. -/
def half (run : Nat × List Char) : Nat :=
  run.1 / 2

/-- The breaks that a run still makes once it has been shortened where it is. -/
def keptHalf (run : Nat × List Char) : Nat :=
  (if isShortened run then run.1 - 1 else run.1) / 2

private theorem half_zero (behind : List Char) : half (0, behind) = 0 :=
  Nat.zero_div 2

private theorem keptHalf_zero (behind : List Char) : keptHalf (0, behind) = 0 := by
  simp [keptHalf]

private theorem keptHalf_eq_half {run : Nat} {behind : List Char} (whole : 3 ≤ run → isSpacedPipe behind = false) :
    keptHalf (run, behind) = half (run, behind) := by
  have kept : isShortened (run, behind) = false := by
    by_cases long : 3 ≤ run
    · simp [isShortened, whole long]
    · simp [isShortened]
      omega
  rw [keptHalf, kept, if_neg (by simp), half]

private theorem keptHalf_add_one {run : Nat × List Char} (shortened : isShortened run = true) :
    keptHalf run + 1 = half run := by
  obtain ⟨length, behind⟩ := run
  simp only [isShortened, Bool.and_eq_true, beq_iff_eq, decide_eq_true_eq] at shortened
  simp only [keptHalf, isShortened, half, shortened]
  simp
  omega

private theorem keptHalf_add_countP (runs : List (Nat × List Char)) :
    (runs.map keptHalf).sum + runs.countP isShortened = (runs.map half).sum := by
  induction runs with
  | nil => rfl
  | cons run runs ih =>
    rw [List.map_cons, List.map_cons, List.sum_cons, List.sum_cons, List.countP_cons]
    cases shortened : isShortened run with
    | true =>
      have fewer := keptHalf_add_one shortened
      simp only [if_true]
      omega
    | false =>
      have same : keptHalf run = half run := by rw [keptHalf, shortened, if_neg (by simp), half]
      simp only [Bool.false_eq_true, if_false]
      omega

section pipes

private theorem runSum_dropTies (text : List Char) : runSum keptHalf 0 (dropTies text) = runSum keptHalf 0 text := by
  unfold dropTies
  induction text with
  | nil => rfl
  | cons c rest ih =>
    rw [List.dropWhile_cons]
    split
    next tie =>
      have other : c ≠ '\\' := by
        rintro rfl
        simp [Text.isInlineSpace] at tie
      rw [ih, runSum_zero keptHalf_zero other]
    next => rfl

private theorem runSum_dropControlSpace (text : List Char) :
    runSum keptHalf 0 (dropControlSpace text) = runSum keptHalf 0 text := by
  unfold dropControlSpace
  cases found : expect? "\\ ".toList text with
  | none => rfl
  | some after =>
    have whole : text = '\\' :: ' ' :: after := expect?_eq_some_iff.mp found
    have single : keptHalf (1, ' ' :: after) = 0 := by simp [keptHalf, isShortened]
    rw [whole, runSum_slash, runSum_other keptHalf_zero (by decide), single, Nat.zero_add]
    rfl

private theorem runSum_pipe {text after : List Char} (found : pipe? text = some after) :
    runSum keptHalf 0 text = runSum keptHalf 0 after := by
  simp only [pipe?, Option.map_eq_some_iff] at found
  obtain ⟨middle, sign, rfl⟩ := found
  have same : dropTies (dropControlSpace text) = '$' :: '|' :: '$' :: middle := expect?_eq_some_iff.mp sign
  calc runSum keptHalf 0 text
      = runSum keptHalf 0 (dropTies (dropControlSpace text)) := by rw [runSum_dropTies, runSum_dropControlSpace]
    _ = runSum keptHalf 0 middle := by
      rw [same, runSum_zero keptHalf_zero (by decide), runSum_zero keptHalf_zero (by decide),
        runSum_zero keptHalf_zero (by decide)]
    _ = runSum keptHalf 0 (dropControlSpace (dropTies middle)) := by rw [runSum_dropControlSpace, runSum_dropTies]

private theorem pipe?_controlSpace (rest : List Char) :
    pipe? ('\\' :: ' ' :: rest) ≠ none ↔ isSpacedPipe (' ' :: rest) = true := by
  have control : dropControlSpace ('\\' :: ' ' :: rest) = rest := rfl
  rw [pipe?, control, isSpacedPipe, Option.isSome_iff_ne_none, ne_eq, ne_eq, Option.map_eq_none_iff]
  rfl

private theorem not_isSpacedPipe_of_pipe? {rest : List Char} (unread : pipe? ('\\' :: rest) = none) :
    isSpacedPipe rest = false := by
  rw [Bool.eq_false_iff]
  intro spaced
  cases rest with
  | nil => contradiction
  | cons c rest =>
    by_cases space : c = ' '
    · subst space
      exact (pipe?_controlSpace rest).mpr spaced unread
    · simp [isSpacedPipe, space] at spaced

/-- A pipe begins with a control space or with no backslash at all. -/
theorem pipe?_head {text after : List Char} (found : pipe? text = some after) :
    (∃ rest, text = '\\' :: ' ' :: rest ∧ isSpacedPipe (' ' :: rest) = true) ∨ ∃ c rest, text = c :: rest ∧ c ≠ '\\' := by
  cases control : expect? "\\ ".toList text with
  | some rest =>
    obtain rfl : text = '\\' :: ' ' :: rest := expect?_eq_some_iff.mp control
    exact .inl ⟨rest, rfl, (pipe?_controlSpace rest).mp (by simp [found])⟩
  | none =>
    right
    have whole : dropControlSpace text = text := by rw [dropControlSpace, control, Option.getD_none]
    simp only [pipe?, whole, Option.map_eq_some_iff] at found
    obtain ⟨middle, sign, -⟩ := found
    have same : dropTies text = '$' :: '|' :: '$' :: middle := expect?_eq_some_iff.mp sign
    cases text with
    | nil => contradiction
    | cons c rest =>
      refine ⟨c, rest, rfl, ?_⟩
      rintro rfl
      exact absurd (List.cons.inj same).1 (by decide)

/-- Behind at least two backslashes a pipe leaves the breaks they make, and where three would be a pipe already, also
those that the control space seems to take. -/
theorem runSum_run_pipe {run : Nat} (long : 2 ≤ run) {text after : List Char} (found : pipe? text = some after)
    (passed : 3 ≤ run → isSpacedPipe text = false) :
    runSum keptHalf run text = half (run, text) + runSum keptHalf 0 after := by
  have behind := runSum_pipe found
  rcases pipe?_head found with ⟨rest, rfl, spaced⟩ | ⟨c, rest, rfl, other⟩
  · have taken : keptHalf (run + 1, ' ' :: rest) = run / 2 := by
      simp only [keptHalf, isShortened, spaced, Bool.and_true, Bool.and_eq_true, beq_iff_eq, decide_eq_true_eq]
      split
      all_goals omega
    have control : dropControlSpace ('\\' :: ' ' :: rest) = rest := rfl
    have space : runSum keptHalf 0 rest = runSum keptHalf 0 ('\\' :: ' ' :: rest) := by
      rw [← runSum_dropControlSpace ('\\' :: ' ' :: rest), control]
    rw [runSum_slash, runSum_other keptHalf_zero (by decide), taken, half, space, behind]
  · rw [runSum_other keptHalf_zero other, keptHalf_eq_half passed, ← runSum_zero keptHalf_zero other, behind]

private theorem separator?_cases {lineStart : Bool} {text kept after : List Char}
    (found : separator? lineStart text = some (kept, after)) :
    (lineStart = true ∧ kept = [] ∧ pipe? text = some after) ∨
      (∃ rest, text = '\\' :: '\\' :: rest ∧ kept = ['\\', '\\'] ∧ pipe? rest = some after) ∨
        ∃ c rest, text = c :: rest ∧ c ≠ '\\' ∧ kept = [c] ∧ pipe? rest = some after := by
  have keeping {start text : List Char} (found : keeping? start text = some (kept, after)) :
      kept = start ∧ pipe? text = some after := by
    simp only [keeping?, Option.map_eq_some_iff, Prod.mk.injEq] at found
    obtain ⟨rest, read, same, rfl⟩ := found
    exact ⟨same.symm, read⟩
  unfold separator? at found
  split at found
  next here =>
    rw [found] at here
    cases lineStart with
    | false => contradiction
    | true => exact .inl ⟨rfl, keeping here⟩
  next =>
    split at found
    next rest _ => exact .inr (.inl ⟨rest, rfl, keeping found⟩)
    next => contradiction
    next c rest _ slash _ => exact .inr (.inr ⟨c, rest, rfl, slash, keeping found⟩)
    next => contradiction

private theorem pipe?_of_separator?_pair {lineStart : Bool} {rest : List Char}
    (unread : separator? lineStart ('\\' :: '\\' :: rest) = none) : pipe? rest = none := by
  unfold separator? at unread
  split at unread
  next => contradiction
  next => simpa [keeping?, pipe] using unread

/-- What is known of a text before which `run` backslashes were passed: behind any two of them there is no pipe. -/
structure Passed (run : Nat) (text : List Char) : Prop where
  here : 2 ≤ run → pipe? text = none
  next : 1 ≤ run → ∀ rest, text = '\\' :: rest → pipe? rest = none

private theorem passed_zero (text : List Char) : Passed 0 text where
  here long := absurd long (by decide)
  next long := absurd long (by decide)

theorem Passed.slash {run : Nat} {rest : List Char} {lineStart : Bool} (passed : Passed run ('\\' :: rest))
    (unread : separator? lineStart ('\\' :: rest) = none) : Passed (run + 1) rest where
  here long := passed.next (Nat.le_of_succ_le_succ long) rest rfl
  next _ later same := by
    rw [same] at unread
    exact pipe?_of_separator?_pair unread

private theorem Passed.not_isSpacedPipe {run : Nat} {text : List Char} (passed : Passed run text) (long : 2 ≤ run) :
    isSpacedPipe text = false := by
  cases text with
  | nil => rfl
  | cons c rest =>
    by_cases space : c = ' '
    · subst space
      have unread := passed.here long
      simpa [isSpacedPipe, pipe?, dropControlSpace, expect?, dropTies, Text.isInlineSpace, pipeSign] using unread
    · simp [isSpacedPipe, space]

theorem Passed.runSum_other {run : Nat} {c : Char} {rest : List Char} (passed : Passed run (c :: rest))
    (other : c ≠ '\\') : runSum keptHalf run (c :: rest) = run / 2 + runSum keptHalf 0 rest := by
  have whole : keptHalf (run, c :: rest) = run / 2 :=
    keptHalf_eq_half fun long => passed.not_isSpacedPipe (Nat.le_of_succ_le long)
  rw [Markup.runSum_other keptHalf_zero other, whole]

end pipes

section passes

private theorem prefix_of_markSeparators {word text : List Char} {lineStart : Bool} (absent : separatorMark ∉ word)
    (found : word <+: markSeparators lineStart text) : word <+: text := by
  fun_induction markSeparators lineStart text generalizing word with
  | case1 lineStart text kept after read ih =>
    obtain ⟨gap, c, whole, -⟩ := separator?_eq_some read
    have place : word <+: kept := by
      rcases List.prefix_or_prefix_of_prefix found (List.prefix_append kept _) with short | ⟨later, rfl⟩
      · exact short
      · cases later with
        | nil => exact (List.append_nil kept).symm ▸ List.prefix_refl kept
        | cons d later =>
          rw [List.prefix_append_right_inj] at found
          obtain rfl := (List.cons_prefix_cons.mp found).1
          exact absurd (by simp) absent
    rw [whole, List.append_assoc]
    exact place.trans (List.prefix_append kept _)
  | case2 => exact found
  | case3 lineStart c rest _ ih =>
    cases word with
    | nil => exact List.nil_prefix
    | cons d word =>
      simp only [List.mem_cons, not_or] at absent
      obtain ⟨rfl, later⟩ := List.cons_prefix_cons.mp found
      exact List.cons_prefix_cons.mpr ⟨rfl, ih absent.2 later⟩

private theorem isSpacedPipe_cons_iff {c : Char} {rest : List Char} :
    isSpacedPipe (c :: rest) = true ↔
      c = ' ' ∧ ∃ ties, (∀ d ∈ ties, (Text.isInlineSpace d || d == '~') = true) ∧ ties ++ pipeSign <+: rest := by
  by_cases space : c = ' '
  · subst space
    simp only [isSpacedPipe, true_and, Option.isSome_iff_exists]
    constructor
    · rintro ⟨after, sign⟩
      refine ⟨rest.takeWhile fun d => Text.isInlineSpace d || d == '~', fun d tie => ?_, after, ?_⟩
      · exact List.all_eq_true.mp List.all_takeWhile d tie
      · have split : rest.takeWhile (fun d => Text.isInlineSpace d || d == '~') ++ dropTies rest = rest :=
          List.takeWhile_append_dropWhile
        rw [List.append_assoc, ← expect?_eq_some_iff.mp sign, split]
    · rintro ⟨ties, all, after, rfl⟩
      refine ⟨after, ?_⟩
      have left : dropTies (ties ++ pipeSign ++ after) = pipeSign ++ after := by
        rw [dropTies, List.append_assoc, List.dropWhile_append_of_pos all]
        rfl
      rw [left]
      exact expect?_append pipeSign after
  · simp [isSpacedPipe, space]

private theorem isSpacedPipe_of_markSeparators {c : Char} {rest : List Char} {lineStart : Bool}
    (spaced : isSpacedPipe (c :: markSeparators lineStart rest) = true) : isSpacedPipe (c :: rest) = true := by
  obtain ⟨space, ties, all, place⟩ := isSpacedPipe_cons_iff.mp spaced
  refine isSpacedPipe_cons_iff.mpr ⟨space, ties, all, prefix_of_markSeparators (fun member => ?_) place⟩
  rcases List.mem_append.mp member with tie | sign
  · exact absurd (all _ tie) (by decide)
  · exact absurd sign (by decide)

private theorem not_isSpacedPipe_mark (c : Char) (rest : List Char) :
    isSpacedPipe (c :: separatorMark :: rest) = false := by
  have unread : expect? pipeSign (separatorMark :: rest) = none := rfl
  by_cases space : c = ' '
  · subst space
    have left : dropTies (separatorMark :: rest) = separatorMark :: rest := rfl
    rw [isSpacedPipe, left, unread, Option.isSome_none]
  · simp [isSpacedPipe, space]

private theorem runSum_markSeparators {lineStart : Bool} {run : Nat} {text : List Char} (passed : Passed run text)
    (start : lineStart = true → run = 0) :
    runSum keptHalf run (markSeparators lineStart text) = runSum keptHalf run text := by
  have mark (rest : List Char) : runSum keptHalf 0 (separatorMark :: rest) = runSum keptHalf 0 rest :=
    runSum_zero keptHalf_zero (by decide) rest
  fun_induction markSeparators lineStart text generalizing run with
  | case1 lineStart text kept after found ih =>
    have behind : runSum keptHalf 0 (markSeparators false after) = runSum keptHalf 0 after :=
      ih (passed_zero after) (by simp)
    rcases separator?_cases found with ⟨line, rfl, read⟩ | ⟨rest, rfl, rfl, read⟩ | ⟨c, rest, rfl, other, rfl, read⟩
    · -- a pipe at the start of a line
      rw [start line, List.nil_append, mark, behind, runSum_pipe read]
    · -- a pipe behind two backslashes
      have free : 3 ≤ run + 1 + 1 → isSpacedPipe rest = false := by
        intro long
        exact not_isSpacedPipe_of_pipe? (passed.next (by omega) ('\\' :: rest) rfl)
      have unmarked : isSpacedPipe (separatorMark :: markSeparators false after) = false := rfl
      rw [runSum_slash, runSum_slash, runSum_run_pipe (by omega) read free, List.cons_append, List.cons_append,
        List.nil_append, runSum_slash, runSum_slash, Markup.runSum_other keptHalf_zero (by decide),
        keptHalf_eq_half fun _ => unmarked, behind]
      rfl
    · -- a pipe behind another character
      have unmarked := not_isSpacedPipe_mark c (markSeparators false after)
      rw [passed.runSum_other other, List.cons_append, List.nil_append, Markup.runSum_other keptHalf_zero other,
        keptHalf_eq_half fun _ => unmarked, mark, behind, runSum_pipe read]
      rfl
  | case2 => rfl
  | case3 lineStart c rest unread ih =>
    by_cases slash : c = '\\'
    · subst slash
      rw [runSum_slash, runSum_slash]
      exact ih (passed.slash unread) (by simp)
    · have kept : 3 ≤ run → isSpacedPipe (c :: markSeparators (c == '\n') rest) = false := by
        intro long
        have free := passed.not_isSpacedPipe (Nat.le_of_succ_le long)
        rw [Bool.eq_false_iff] at free ⊢
        exact fun spaced => free (isSpacedPipe_of_markSeparators spaced)
      rw [passed.runSum_other slash, Markup.runSum_other keptHalf_zero slash, keptHalf_eq_half kept,
        ih (passed_zero rest) (fun _ => rfl)]
      rfl

private theorem Unseparated.runSum_keptHalf {lineStart : Bool} {run : Nat} {text : List Char}
    (free : Unseparated lineStart text) (passed : Passed run text) :
    runSum keptHalf run text = runSum half run text := by
  induction text generalizing lineStart run with
  | nil =>
    rw [runSum_nil keptHalf_zero, runSum_nil half_zero]
    exact keptHalf_eq_half fun _ => rfl
  | cons c rest ih =>
    by_cases slash : c = '\\'
    · subst slash
      rw [runSum_slash, runSum_slash]
      exact ih free.2 (passed.slash free.1)
    · rw [passed.runSum_other slash, Markup.runSum_other half_zero slash, ih free.2 (passed_zero rest)]
      rfl

private theorem runSum_settled (text : List Char) :
    runSum half 0 (settled (markSeparators true) text) = runSum keptHalf 0 text := by
  rw [← (unseparated_settled text).runSum_keptHalf (passed_zero _)]
  refine settled_induction (fun later => runSum keptHalf 0 later = runSum keptHalf 0 text) (fun later kept => ?_) rfl
  rw [runSum_markSeparators (passed_zero later) (fun _ => rfl), kept]

end passes

section counts

private theorem runSum_half_pair (run : Nat) (text : List Char) :
    runSum half (run + 2) text = 1 + runSum half run text := by
  have pair (run : Nat) (behind : List Char) : half (run + 2, behind) = 1 + half (run, behind) := by
    simp only [half]
    omega
  induction text generalizing run with
  | nil => rw [runSum_nil half_zero, runSum_nil half_zero, pair]
  | cons c rest ih =>
    by_cases slash : c = '\\'
    · subst slash
      rw [runSum_slash, runSum_slash]
      exact ih (run + 1)
    · rw [runSum_other half_zero slash, runSum_other half_zero slash, pair, Nat.add_assoc]

private theorem runSum_half_single {rest : List Char} (single : lineBreak? ('\\' :: rest) = none) :
    runSum half 1 rest = runSum half 0 rest := by
  cases rest with
  | nil => rfl
  | cons c rest =>
    have slash : c ≠ '\\' := by
      rintro rfl
      exact lineBreak?_ne_none rest single
    have none : half (1, c :: rest) = 0 := by simp [half]
    rw [runSum_other half_zero slash, runSum_zero half_zero slash, none, Nat.zero_add]

private theorem lineBreak?_unbracketed {text after : List Char} (unbracketed : '[' ∉ text)
    (found : lineBreak? text = some after) :
    text = '\\' :: '\\' :: after ∨ text = '\\' :: '\\' :: '*' :: after := by
  simp only [lineBreak?, Option.bind_eq_bind, Option.bind_eq_some_iff] at found
  obtain ⟨rest, word, found⟩ := found
  obtain rfl : text = '\\' :: '\\' :: rest := expect?_eq_some_iff.mp word
  cases star : expect? "*".toList rest with
  | none =>
    rw [star, Option.getD_none] at found
    split at found
    next => exact absurd (by simp) unbracketed
    next => exact .inl (by rw [Option.some.inj found])
  | some later =>
    obtain rfl : rest = '*' :: later := expect?_eq_some_iff.mp star
    rw [star, Option.getD_some] at found
    split at found
    next => exact absurd (by simp) unbracketed
    next => exact .inr (by rw [Option.some.inj found])

private theorem count_lineBreakMark_replace {text : List Char}
    (unbracketed : '[' ∉ text) (unmarked : lineBreakMark ∉ text) :
    (lineBreak.replace lineBreakMark text).count lineBreakMark = runSum half 0 text := by
  fun_induction Idiom.replace lineBreak lineBreakMark text with
  | case1 => rfl
  | case2 c rest after found ih =>
    have pair {later : List Char} : runSum half 0 ('\\' :: '\\' :: later) = 1 + runSum half 0 later :=
      runSum_half_pair 0 later
    have star : runSum half 0 ('*' :: after) = runSum half 0 after := runSum_zero half_zero (by decide) after
    rcases lineBreak?_unbracketed unbracketed found with whole | whole
    · rw [whole] at unbracketed unmarked ⊢
      rw [List.count_cons_self, pair, ih (by simp_all) (by simp_all), Nat.add_comm]
    · rw [whole] at unbracketed unmarked ⊢
      rw [List.count_cons_self, pair, star, ih (by simp_all) (by simp_all), Nat.add_comm]
  | case3 c rest unread ih =>
    simp only [List.mem_cons, not_or] at unbracketed unmarked
    rw [List.count_cons_of_ne (Ne.symm unmarked.1), ih unbracketed.2 unmarked.2]
    by_cases slash : c = '\\'
    · subst slash
      exact (runSum_half_single unread).symm
    · rw [runSum_zero half_zero slash]

private theorem mem_markSeparators {d : Char} {lineStart : Bool} {text : List Char}
    (member : d ∈ markSeparators lineStart text) : d ∈ text ∨ d = separatorMark := by
  fun_induction markSeparators lineStart text with
  | case1 lineStart text kept after read ih =>
    obtain ⟨gap, c, rfl, -⟩ := separator?_eq_some read
    rcases List.mem_append.mp member with first | later
    · exact .inl (by simp [first])
    · rcases List.mem_cons.mp later with mark | later
      · exact .inr mark
      · rcases ih later with behind | mark
        · exact .inl (by simp [behind])
        · exact .inr mark
  | case2 => exact .inl member
  | case3 lineStart c rest _ ih =>
    rcases List.mem_cons.mp member with rfl | later
    · exact .inl (by simp)
    · rcases ih later with behind | mark
      · exact .inl (by simp [behind])
      · exact .inr mark

end counts

private theorem Uncommented.of_not_mem {escaped : Bool} {text : List Char} (uncommented : '%' ∉ text) :
    Uncommented escaped text := by
  induction text generalizing escaped with
  | nil => trivial
  | cons c rest ih =>
    simp only [List.mem_cons, not_or] at uncommented
    exact ⟨fun percent => absurd percent.symm uncommented.1, ih uncommented.2⟩

/-- Every run of backslashes makes a break for each pair in it, but those whose last pair is taken apart by a pipe make
one less. -/
theorem count_lineBreakMark_normalize (options : NormalOptions) {markup : String} (uncommented : '%' ∉ markup.toList)
    (unbracketed : '[' ∉ markup.toList) (unmarked : lineBreakMark ∉ markup.toList)
    (undeclared : ¬ Declares markup.toList) :
    (normalize options markup).toList.count lineBreakMark + (slashRuns 0 markup.toList).countP isShortened =
      ((slashRuns 0 markup.toList).map fun run => run.1 / 2).sum := by
  generalize same : markup.toList = text at uncommented unbracketed unmarked undeclared
  have content : body (withoutComments (.content false) text) = text := by
    rw [withoutComments_eq_self (.of_not_mem uncommented), body_of_not_declares undeclared]
  have chars (c : Char) (absent : c ∉ text) (other : c ≠ separatorMark) :
      c ∉ settled (markSeparators true) text := by
    refine settled_induction (fun later => c ∉ later) (fun later absent member => ?_) absent
    rcases mem_markSeparators member with before | mark
    · exact absent before
    · exact other mark
  have marked : (lineBreak.replace lineBreakMark (settled (markSeparators true) text)).count lineBreakMark =
      runSum keptHalf 0 text := by
    rw [← runSum_settled]
    exact count_lineBreakMark_replace (chars '[' unbracketed (by decide)) (chars lineBreakMark unmarked (by decide))
  have composed (text : List Char) : (Text.compose text).count lineBreakMark = text.count lineBreakMark :=
    apart_lineBreakMark.count_compose (by decide) text
  have collapsed (text : List Char) : (collapseBlankLines text).count lineBreakMark = text.count lineBreakMark :=
    count_collapseBlankLines (by decide) (by decide) text
  have count : (normalize options markup).toList.count lineBreakMark = runSum keptHalf 0 text := by
    rw [normalize, normalizeWith, String.toList_ofList, same]
    simp only [normalFormWith, content]
    cases options.composeUnicode with
    | false => cases options.collapseBlankLines with
      | false => exact marked
      | true => exact (collapsed _).trans marked
    | true => cases options.collapseBlankLines with
      | false => exact (composed _).trans marked
      | true => exact (collapsed _).trans ((composed _).trans marked)
  rw [count]
  exact keptHalf_add_countP (slashRuns 0 text)

/-- Four backslashes before a spaced pipe, and three before another one. -/
def spacedPipes : String :=
  "a\\\\\\\\ $|$b\\\\\\ $|$c"

/-- The first run loses its second break; of the second run only the control space is taken. -/
theorem count_lineBreakMark_spacedPipes :
    (slashRuns 0 spacedPipes.toList).map (·.1) = [4, 3] ∧
      (normalize {} spacedPipes).toList.count lineBreakMark = 2 := by
  have undeclared : ¬ Declares spacedPipes.toList := not_declares_of_unbraced (by decide)
  have count := count_lineBreakMark_normalize {} (by decide) (by decide) (by decide) undeclared
  have shortened : (slashRuns 0 spacedPipes.toList).countP isShortened = 1 := by decide +kernel
  have breaks : ((slashRuns 0 spacedPipes.toList).map fun run => run.1 / 2).sum = 3 := by decide +kernel
  rw [shortened, breaks] at count
  exact ⟨by decide +kernel, by omega⟩

/-- A pipe does eat a line break: of the two that four backslashes make, it leaves one. -/
theorem count_lineBreakMark_lt_spacedPipe :
    (normalize {} "a\\\\\\\\ $|$b").toList.count lineBreakMark <
      ((slashRuns 0 "a\\\\\\\\ $|$b".toList).map fun run => run.1 / 2).sum := by
  decide +kernel

end Vitae.Markup
