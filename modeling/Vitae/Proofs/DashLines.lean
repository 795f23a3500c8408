import Vitae.Proofs.UpperText

/-! Lines that begin with a dash and a space, counted as a text is written. What is counted in a piece of text follows
from where in its line the piece begins, so the count of a text is that of its pieces, each from where the one before
it ends. -/

namespace Vitae

/-- Where writing stands in a line. -/
inductive Place where
  /-- In front of a run whose white space goes when it is trimmed; `opens` tells whether the run begins its line. -/
  | run (opens : Bool)
  | start
  /-- Behind a dash that begins the line. -/
  | dash
  | inside
deriving DecidableEq

namespace Place

/-- Holds where what is written next begins its line. -/
def opens : Place → Bool
  | .run opens => opens
  | .start => true
  | .dash | .inside => false

/-- The place in front of a run that is trimmed. -/
def trimming (place : Place) : Place :=
  .run place.opens

/-- The place once no more white space goes. -/
def begun : Place → Place
  | .run true => .start
  | .run false => .inside
  | place => place

def write (place : Place) (c : Char) : Place :=
  if c = '\n' then .start else if place = .start ∧ c = '-' then .dash else .inside

def next (place : Place) (c : Char) : Place :=
  match place with
  | .run opens => if Text.isSpace c then .run opens else (run opens).begun.write c
  | place => place.write c

def after (place : Place) (text : List Char) : Place :=
  text.foldl next place

/-- The dashes at the start of a line with a space behind them, told at the space. -/
def dashes (place : Place) : List Char → Nat
  | [] => 0
  | c :: rest => (if place = .dash ∧ c = ' ' then 1 else 0) + dashes (place.next c) rest

section append

@[simp] theorem after_nil (place : Place) : place.after [] = place :=
  rfl

@[simp] theorem after_cons (place : Place) (c : Char) (rest : List Char) :
    place.after (c :: rest) = (place.next c).after rest :=
  rfl

@[simp] theorem dashes_nil (place : Place) : place.dashes [] = 0 :=
  rfl

theorem after_append (place : Place) (first second : List Char) :
    place.after (first ++ second) = (place.after first).after second :=
  List.foldl_append

theorem dashes_append (place : Place) (first second : List Char) :
    place.dashes (first ++ second) = place.dashes first + (place.after first).dashes second := by
  induction first generalizing place with
  | nil => simp
  | cons c first ih => rw [List.cons_append, dashes, dashes, ih, after_cons, Nat.add_assoc]

end append

section blank

private theorem next_of_blank {place : Place} (free : place ≠ .dash) {c : Char} (space : Text.isSpace c = true) :
    place.next c ≠ .dash := by
  have write (place : Place) : place.write c ≠ .dash := by
    have other : c ≠ '-' := by
      rintro rfl
      exact absurd space (by decide)
    unfold write
    split
    · decide
    · rw [if_neg (by simp [other])]
      decide
  cases place with
  | run opens =>
    rw [next, if_pos space]
    simp
  | start | dash | inside => exact write _

/-- White space makes no dash. -/
theorem after_blank {place : Place} (free : place ≠ .dash) {blanks : List Char}
    (blank : ∀ c ∈ blanks, Text.isSpace c = true) : place.after blanks ≠ .dash := by
  induction blanks generalizing place with
  | nil => exact free
  | cons c blanks ih =>
    rw [List.forall_mem_cons] at blank
    exact ih (next_of_blank free blank.1) blank.2

theorem dashes_blank {place : Place} (free : place ≠ .dash) {blanks : List Char}
    (blank : ∀ c ∈ blanks, Text.isSpace c = true) : place.dashes blanks = 0 := by
  induction blanks generalizing place with
  | nil => rfl
  | cons c blanks ih =>
    rw [List.forall_mem_cons] at blank
    rw [dashes, if_neg (by simp [free]), Nat.zero_add]
    exact ih (next_of_blank free blank.1) blank.2

private theorem begun_run_ne_dash (opens : Bool) : (run opens).begun ≠ .dash := by
  cases opens <;> decide

/-- A run is written from its first character that is no white space. -/
theorem written_run (opens : Bool) (text : List Char) (shown : text.any (!Text.isSpace ·)) :
    (run opens).after text = (run opens).begun.after (text.dropWhile Text.isSpace) ∧
      (run opens).dashes text = (run opens).begun.dashes (text.dropWhile Text.isSpace) := by
  induction text with
  | nil => exact absurd shown Bool.false_ne_true
  | cons c rest ih =>
    cases space : Text.isSpace c with
    | true =>
      have later : rest.any (!Text.isSpace ·) = true := by simpa [space] using shown
      rw [after_cons, dashes, next, if_pos space, if_neg (by simp), Nat.zero_add, List.dropWhile_cons_of_pos space]
      exact ih later
    | false =>
      have same : (run opens).begun.next c = (run opens).begun.write c := by cases opens <;> rfl
      rw [List.dropWhile_cons_of_neg (by simp [space]), after_cons, after_cons, dashes, dashes, same, next,
        if_neg (by simp [space]), if_neg (by simp), if_neg (by simp [begun_run_ne_dash])]
      exact ⟨rfl, rfl⟩

end blank

section settles

/-- Written from a place that is not behind a dash, the text does not end behind one. -/
def Settles (text : List Char) : Prop :=
  ∀ place, place ≠ dash → place.after text ≠ dash

theorem settles_nil : Settles [] :=
  fun _ free => free

private theorem any_of_not_blank {text : List Char} (shown : ¬ ∀ c ∈ text, Text.isSpace c = true) :
    text.any (!Text.isSpace ·) = true := by
  simpa using shown

theorem Settles.append {first second : List Char} (one : Settles first) (two : Settles second) :
    Settles (first ++ second) := by
  intro place free
  rw [after_append]
  exact two _ (one place free)

theorem written_marker {place : Place} (free : place ≠ dash) :
    place.after ['-', ' '] = .inside ∧ place.dashes ['-', ' '] = if place.opens then 1 else 0 := by
  cases place with
  | run opens => cases opens <;> decide
  | start | inside => decide
  | dash => exact absurd rfl free

theorem Settles.marked {text : List Char} (settles : Settles text) : Settles (['-', ' '] ++ text) := by
  intro place free
  rw [after_append, (written_marker free).1]
  exact settles _ (by decide)

end settles

section trimming

/-- Trimmed, the text ends in a line of a dash alone. -/
def EndsInDash (text : List Char) : Prop :=
  Text.trim text = ['-'] ∨ ['\n', '-'] <:+ Text.trim text

instance (text : List Char) : Decidable (EndsInDash text) :=
  inferInstanceAs (Decidable (_ ∨ _))

private theorem write_ne_run (place : Place) (c : Char) (opens : Bool) : place.write c ≠ run opens := by
  unfold write
  split
  · nofun
  · split <;> nofun

private theorem next_eq_write {place : Place} (written : ∀ opens, place ≠ run opens) (c : Char) :
    place.next c = place.write c := by
  cases place with
  | run opens => exact absurd rfl (written opens)
  | start | dash | inside => rfl

private theorem after_concat (place : Place) (text : List Char) (c : Char) :
    place.after (text ++ [c]) = (place.after text).next c := by
  rw [after_append, after_cons, after_nil]

private theorem next_ne_run {place : Place} {opens : Bool} (other : place ≠ run opens) (c : Char) :
    place.next c ≠ run opens := by
  cases place with
  | run begun =>
    rw [next]
    split
    · exact other
    · exact write_ne_run _ c opens
  | start | dash | inside => exact write_ne_run _ c opens

/-- Writing does not come in front of a run. -/
theorem after_ne_run {place : Place} {opens : Bool} (other : place ≠ run opens) (text : List Char) :
    place.after text ≠ run opens := by
  induction text generalizing place with
  | nil => exact other
  | cons c rest ih => exact ih (next_ne_run other c)

private theorem write_eq_dash {place : Place} {c : Char} (dashed : place.write c = dash) : place = start ∧ c = '-' := by
  unfold write at dashed
  split at dashed
  · contradiction
  · split at dashed
    next begins => exact begins
    next => contradiction

private theorem write_eq_start {place : Place} {c : Char} (starts : place.write c = start) : c = '\n' := by
  by_contra other
  unfold write at starts
  rw [if_neg other] at starts
  split at starts <;> contradiction

/-- Once no more white space goes, writing ends behind a dash only in a line of a dash alone. -/
theorem suffix_of_after_eq_dash {place : Place} (written : ∀ opens, place ≠ run opens) (free : place ≠ dash)
    {text : List Char} (ends : place.after text = dash) : text = ['-'] ∨ ['\n', '-'] <:+ text := by
  rcases List.eq_nil_or_concat text with rfl | ⟨before, c, rfl⟩
  · exact absurd ends free
  rw [List.concat_eq_append, after_concat, next_eq_write fun opens => after_ne_run (written opens) before] at ends
  obtain ⟨begins, rfl⟩ := write_eq_dash ends
  rcases List.eq_nil_or_concat before with rfl | ⟨earlier, d, rfl⟩
  · exact .inl rfl
  rw [List.concat_eq_append, after_concat, next_eq_write fun opens => after_ne_run (written opens) earlier] at begins
  rw [write_eq_start begins]
  exact .inr ⟨earlier, by simp⟩

private theorem opens_begun {place : Place} (free : place ≠ dash) : (run place.opens).begun = place.begun := by
  cases place with
  | run opens => rfl
  | start | inside => rfl
  | dash => exact absurd rfl free

private theorem begun_ne_run (place : Place) (opens : Bool) : place.begun ≠ run opens := by
  cases place with
  | run opens => cases opens <;> nofun
  | start | dash | inside => nofun

/-- A text that does not begin with white space is written alike in front of a run and inside it. -/
theorem written_begun (place : Place) {c : Char} (shown : Text.isSpace c = false) (rest : List Char) :
    place.after (c :: rest) = place.begun.after (c :: rest) ∧ place.dashes (c :: rest) = place.begun.dashes (c :: rest) := by
  cases place with
  | run opens =>
    have written := written_run opens (c :: rest) (by simp [shown])
    rwa [List.dropWhile_cons_of_neg (by simp [shown])] at written
  | start | dash | inside => exact ⟨rfl, rfl⟩

/-- Trimming is what a run does at its place, unless it takes the space of a marker. -/
theorem written_trim {text : List Char} (keeps : ¬ EndsInDash text) {place : Place} (free : place ≠ dash) :
    place.after (Text.trim text) ≠ dash ∧ place.dashes (Text.trim text) = place.trimming.dashes text := by
  by_cases blank : ∀ c ∈ text, Text.isSpace c = true
  · rw [Text.trim_blank blank, dashes_blank (by simp [trimming]) blank]
    exact ⟨free, rfl⟩
  · have shown := any_of_not_blank blank
    obtain ⟨c, rest, stays, whole⟩ := Text.trim_eq_cons shown
    have settled : place.begun.after (Text.trim text) ≠ dash := by
      have begun : place.begun ≠ dash := opens_begun free ▸ begun_run_ne_dash place.opens
      exact fun ends => keeps (suffix_of_after_eq_dash (begun_ne_run place) begun ends)
    obtain ⟨after, dashes⟩ := written_run place.opens (Text.dropTrailing Text.isSpace text) (Text.any_dropTrailing shown)
    rw [Text.dropWhile_dropTrailing shown, opens_begun free] at after dashes
    -- Only white space stands behind what is left, and it makes no dash.
    have run : place.trimming.dashes text = place.begun.dashes (Text.trim text) := by
      conv => lhs; rw [← Text.dropTrailing_append_trailing text]
      rw [dashes_append, trimming, dashes, after, dashes_blank settled fun _ => Text.isSpace_of_mem_trailing, Nat.add_zero]
    rw [run, whole, (written_begun place stays rest).1, (written_begun place stays rest).2, ← whole]
    exact ⟨settled, rfl⟩

end trimming

section undashed

/-- One line that, trimmed, is no dash and does not begin with a dash and a space. -/
structure Undashed (text : List Char) : Prop where
  oneLine : '\n' ∉ text
  notDash : Text.trim text ≠ ['-']
  notMarked : ¬ ['-', ' '] <+: Text.trim text

private theorem written_inside {text : List Char} (oneLine : '\n' ∉ text) :
    inside.after text = .inside ∧ inside.dashes text = 0 := by
  induction text with
  | nil => exact ⟨rfl, rfl⟩
  | cons c rest ih =>
    rw [List.mem_cons, not_or] at oneLine
    have stays : inside.next c = .inside := by
      rw [next, write, if_neg (Ne.symm oneLine.1), if_neg (by simp)]
      exact nofun
    rw [after_cons, dashes, stays, if_neg (by simp), Nat.zero_add]
    exact ih oneLine.2

/-- It is so with any part that is the same when it is trimmed. -/
theorem Undashed.of_trim_eq {text part : List Char} (undashed : Undashed text) (subset : part ⊆ text)
    (same : Text.trim part = Text.trim text) : Undashed part := by
  refine ⟨fun member => undashed.oneLine (subset member), ?_, ?_⟩
  · rw [same]
    exact undashed.notDash
  · rw [same]
    exact undashed.notMarked

theorem Undashed.dropWhile {text : List Char} (undashed : Undashed text) :
    Undashed (text.dropWhile Text.isSpace) := by
  apply undashed.of_trim_eq (List.dropWhile_sublist _).subset
  rw [Text.trim, List.dropWhile_idempotent, ← Text.trim]

private theorem Undashed.written_start {text : List Char} (undashed : Undashed text) :
    start.after text ≠ dash ∧ start.dashes text = 0 := by
  have ends {rest : List Char} (oneLine : '\n' ∉ rest) : inside.after rest ≠ dash ∧ inside.dashes rest = 0 := by
    obtain ⟨after, dashes⟩ := written_inside oneLine
    exact ⟨by rw [after]; decide, dashes⟩
  obtain ⟨oneLine, notDash, notMarked⟩ := undashed
  cases text with
  | nil => exact ⟨by decide, rfl⟩
  | cons c rest =>
    rw [List.mem_cons, not_or] at oneLine
    by_cases first : c = '-'
    · subst first
      cases rest with
      | nil => exact absurd rfl notDash
      | cons d rest =>
        rw [List.mem_cons, not_or] at oneLine
        have other : d ≠ ' ' := by
          rintro rfl
          by_cases blank : ∀ e ∈ rest, Text.isSpace e = true
          · have spaces : ∀ e ∈ ' ' :: rest, Text.isSpace e = true := List.forall_mem_cons.mpr ⟨rfl, blank⟩
            exact notDash (Text.trim_append_blank spaces ['-'])
          · refine notMarked ⟨Text.dropTrailing Text.isSpace rest, ?_⟩
            exact (Text.dropTrailing_append_of_any (any_of_not_blank blank) ['-', ' ']).symm
        have stays : dash.next d = .inside := by
          rw [next, write, if_neg (Ne.symm oneLine.2.1), if_neg (by simp)]
          exact nofun
        rw [after_cons, after_cons, dashes, dashes, show start.next '-' = dash from rfl, stays, if_neg (by simp),
          if_neg (by simp [other]), Nat.zero_add, Nat.zero_add]
        exact ends oneLine.2.2
    · have stays : start.next c = .inside := by
        rw [next, write, if_neg (Ne.symm oneLine.1), if_neg (by simp [first])]
        exact nofun
      rw [after_cons, dashes, stays, if_neg (by simp), Nat.zero_add]
      exact ends oneLine.2

theorem Undashed.written {text : List Char} (undashed : Undashed text) {place : Place} (free : place ≠ dash) :
    place.after text ≠ dash ∧ place.dashes text = 0 := by
  have begun (place : Place) (starts : place = start ∨ place = inside) {text : List Char} (undashed : Undashed text) :
      place.after text ≠ dash ∧ place.dashes text = 0 := by
    rcases starts with rfl | rfl
    · exact undashed.written_start
    · obtain ⟨after, dashes⟩ := written_inside undashed.oneLine
      exact ⟨by rw [after]; decide, dashes⟩
  cases place with
  | run opens =>
    by_cases blank : ∀ c ∈ text, Text.isSpace c = true
    · exact ⟨after_blank free blank, dashes_blank free blank⟩
    · obtain ⟨after, dashes⟩ := written_run opens text (any_of_not_blank blank)
      rw [after, dashes]
      refine begun _ ?_ undashed.dropWhile
      cases opens with
      | true => exact .inl rfl
      | false => exact .inr rfl
  | start => exact begun _ (.inl rfl) undashed
  | inside => exact begun _ (.inr rfl) undashed
  | dash => exact absurd rfl free

theorem Undashed.upper {text : List Char} (undashed : Undashed text) : Undashed (Text.upper text) := by
  have dash : Text.isCaseless '-' = true := rfl
  have space : Text.isCaseless ' ' = true := rfl
  refine ⟨?_, ?_, ?_⟩
  · intro member
    obtain ⟨c, place, image⟩ := List.mem_flatMap.mp member
    obtain rfl := Text.eq_of_mem_upperChar image rfl
    exact undashed.oneLine place
  · rw [Text.trim_upper]
    intro same
    obtain ⟨later, whole, none⟩ := Text.upper_eq_cons dash same
    rw [Text.upper_eq_nil none] at whole
    exact undashed.notDash whole
  · rw [Text.trim_upper]
    rintro ⟨rest, same⟩
    obtain ⟨later, whole, more⟩ := Text.upper_eq_cons dash same.symm
    obtain ⟨last, own, -⟩ := Text.upper_eq_cons space more
    rw [own] at whole
    exact undashed.notMarked ⟨last, whole.symm⟩

end undashed

section quiet

/-- A text that settles and has no dash to be told. -/
structure Quiet (text : List Char) : Prop where
  settles : Settles text
  dashes : ∀ place, place ≠ dash → place.dashes text = 0

theorem quiet_blank {blanks : List Char} (blank : ∀ c ∈ blanks, Text.isSpace c = true) : Quiet blanks :=
  ⟨fun _ free => after_blank free blank, fun _ free => dashes_blank free blank⟩

theorem Undashed.quiet {text : List Char} (undashed : Undashed text) : Quiet text :=
  ⟨fun _ free => (undashed.written free).1, fun _ free => (undashed.written free).2⟩

theorem Quiet.append {first second : List Char} (one : Quiet first) (two : Quiet second) : Quiet (first ++ second) := by
  refine ⟨one.settles.append two.settles, ?_⟩
  intro place free
  rw [dashes_append, one.dashes place free, two.dashes _ (one.settles place free)]

end quiet

section intercalate

variable {between : String}

theorem settles_intercalate (quiet : Quiet between.toList) {texts : List String}
    (each : ∀ text ∈ texts, Settles text.toList) : Settles (between.intercalate texts).toList := by
  induction texts with
  | nil => exact settles_nil
  | cons text texts ih =>
    rw [List.forall_mem_cons] at each
    cases texts with
    | nil => simpa using each.1
    | cons second texts =>
      rw [String.intercalate_cons_of_ne_nil (by simp), String.toList_append, String.toList_append]
      exact (each.1.append quiet.settles).append (ih each.2)

/-- What stands behind the first text begins where the text between them ends, if there is anything. -/
theorem dashes_intercalate_cons (quiet : Quiet between.toList) {place : Place} (free : place ≠ dash) {text : String}
    (settles : Settles text.toList) (texts : List String) :
    place.dashes (between.intercalate (text :: texts)).toList =
      place.dashes text.toList +
        ((place.after text.toList).after between.toList).dashes (between.intercalate texts).toList := by
  cases texts with
  | nil => simp
  | cons second texts =>
    rw [String.intercalate_cons_of_ne_nil (by simp), String.toList_append, String.toList_append, dashes_append,
      dashes_append, quiet.dashes _ (settles place free), Nat.add_zero, after_append]

theorem quiet_intercalate (quiet : Quiet between.toList) {texts : List String}
    (each : ∀ text ∈ texts, Quiet text.toList) : Quiet (between.intercalate texts).toList := by
  refine ⟨settles_intercalate quiet fun text member => (each text member).settles, ?_⟩
  induction texts with
  | nil => exact fun _ _ => rfl
  | cons text texts ih =>
    obtain ⟨first, later⟩ := List.forall_mem_cons.mp each
    intro place free
    rw [dashes_intercalate_cons quiet free first.settles, first.dashes place free, Nat.zero_add]
    exact ih later _ (quiet.settles _ (first.settles place free))

end intercalate

section lines

/-- The line begins with a dash and a space. -/
def isMarked (line : List Char) : Bool :=
  ['-', ' '].isPrefixOf line

private theorem isMarked_dropReturn (line : List Char) : isMarked (Text.dropReturn line) = isMarked line := by
  unfold Text.dropReturn
  split
  next last =>
    obtain ⟨before, rfl⟩ := List.getLast?_eq_some_iff.mp last
    rw [List.dropLast_concat]
    match before with
    | [] => rfl
    | [_] => simp [isMarked, List.isPrefixOf]
    | _ :: _ :: _ => simp [isMarked, List.isPrefixOf]
  next => rfl

private theorem countP_lines_eq (text : List Char) :
    (Text.lines text).countP isMarked = (Text.splitOnChar '\n' text).countP isMarked := by
  obtain ⟨earlier, last, whole, same⟩ := Text.lines_eq text
  have returns : isMarked ∘ Text.dropReturn = isMarked := funext isMarked_dropReturn
  rw [same, whole, List.countP_append, List.countP_append, List.countP_map, returns]
  by_cases empty : last = []
  · subst empty
    rfl
  · simp [empty]

/-- At each place, what is told of the line that is being written, and the lines behind it. -/
theorem dashes_eq_countP (text : List Char) :
    ∃ line later, Text.splitOnChar '\n' text = line :: later ∧
      inside.dashes text = later.countP isMarked ∧
      dash.dashes text = (if line.head? = some ' ' then 1 else 0) + later.countP isMarked ∧
      start.dashes text = (line :: later).countP isMarked := by
  induction text with
  | nil => exact ⟨[], [], rfl, rfl, rfl, rfl⟩
  | cons c rest ih =>
    obtain ⟨line, later, split, within, behind, begins⟩ := ih
    by_cases newline : c = '\n'
    · subst newline
      refine ⟨[], line :: later, ?_, ?_, ?_, ?_⟩
      · rw [Text.splitOnChar, if_pos rfl, split]
      all_goals
        rw [dashes]
        simp only [next, write, if_true, begins]
        simp [isMarked]
    · refine ⟨c :: line, later, ?_, ?_, ?_, ?_⟩
      · rw [Text.splitOnChar, if_neg newline, split]
      · have stays : inside.next c = .inside := by simp [next, write, newline]
        rw [dashes, stays, within, if_neg (by simp), Nat.zero_add]
      · have stays : dash.next c = .inside := by simp [next, write, newline]
        rw [dashes, stays, within]
        simp
      · by_cases first : c = '-'
        · subst first
          rw [dashes, show start.next '-' = dash from rfl, behind, List.countP_cons, if_neg (by simp), Nat.zero_add,
            Nat.add_comm]
          congr 1
          cases line with
          | nil => rfl
          | cons d line =>
            by_cases space : d = ' '
            · simp [isMarked, space]
            · simp [isMarked, space, Ne.symm space]
        · have stays : start.next c = .inside := by simp [next, write, newline, first]
          rw [dashes, stays, within, if_neg (by simp), Nat.zero_add, List.countP_cons_of_neg]
          simp [isMarked, Ne.symm first]

theorem countP_lines (text : List Char) : (Text.lines text).countP isMarked = start.dashes text := by
  obtain ⟨line, later, split, _, _, begins⟩ := dashes_eq_countP text
  rw [countP_lines_eq, split, begins]

end lines

end Place

end Vitae
