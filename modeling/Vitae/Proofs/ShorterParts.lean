import Vitae.Proofs.MetConstructs

/-! The texts inside a construct are shorter than the text it is read from. A walk that has more levels than its text
has characters never comes to the last of them, so any more make no difference. -/

namespace Vitae.Markup

section parts

private theorem length_of_argumentOr {skips : Char → Bool} {text : List Char} {group : Enclosed}
    (found : (argumentOr skips text).1 = some group) : group.inner.length < text.length := by
  unfold argumentOr at found
  split at found
  next read =>
    obtain rfl := Option.some.inj found
    exact (length_argument? read).2
  next => contradiction

private theorem length_of_arguments (count : Nat) (text : List Char) :
    ∀ group ∈ (arguments count text).1, group.inner.length < text.length := by
  induction count generalizing text with
  | zero => simp [arguments]
  | succ count ih =>
    rw [arguments]
    split
    next group after found =>
      obtain ⟨shorter, inner⟩ := length_argument? found
      exact List.forall_mem_cons.mpr ⟨inner, fun other member => Nat.lt_trans (ih after other member) shorter⟩
    next => simp

private theorem length_of_looseItems (text : List Char) :
    ∀ group, some group ∈ (looseItems text).1 → group.inner.length < text.length := by
  fun_induction looseItems text with
  | case1 text command found _ ih =>
    have argument := length_argumentOr_le Text.isSpace text
    have dropped := length_dropWhile_le Text.isSpace (argumentOr Text.isSpace text).2
    have shorter := (length_command? found).1
    intro group member
    rcases List.mem_cons.mp member with first | later
    · exact length_of_argumentOr first.symm
    · have := ih group later
      omega
  | case2 | case3 =>
    intro group member
    exact length_of_argumentOr (List.mem_singleton.mp member).symm

private theorem length_of_minipages (text : List Char) :
    ∀ body ∈ (minipages text).1, body.inner.length ≤ text.length := by
  fun_induction minipages text with
  | case1 text next found ih =>
    have first := length_minipage_le text
    have spacing := length_skipColumnSpacing_le (minipage text).2
    simp only [Option.bind_eq_bind, Option.bind_eq_some_iff] at found
    obtain ⟨command, read, opened⟩ := found
    have shorter := length_command? read
    have behind := length_openedMinipage? opened
    refine List.forall_mem_cons.mpr ⟨first.1, fun body member => ?_⟩
    have := ih body member
    omega
  | case2 text => simpa using (length_minipage_le text).1

private theorem length_introduced? {command : Command} {content : List Char}
    (found : introduced? command = some content) :
    content.length ≤ command.rest.length := by
  have := length_skipOption_le command.rest
  unfold introduced? at found
  grind

private theorem length_of_introducers (text : List Char) : ∀ mark ∈ introducers text, mark.2.length ≤ text.length := by
  fun_induction introducers text with
  | case1 => simp
  | case2 text command found content item ih =>
    have next := length_nextCommand? found
    have behind := length_introduced? item
    refine List.forall_mem_cons.mpr ⟨by simp only; omega, fun mark member => ?_⟩
    have := ih mark member
    omega
  | case3 text command found _ ih =>
    have next := length_nextCommand? found
    have behind := length_overBlock_le command
    intro mark member
    have := ih mark member
    omega

private theorem length_of_itemContents {marks : List (List Char × List Char)} {bound : Nat}
    (each : ∀ mark ∈ marks, mark.2.length ≤ bound) : ∀ item ∈ itemContents marks, item.length ≤ bound := by
  fun_induction itemContents marks with
  | case1 => simp
  | case2 start content => simpa using each
  | case3 _ content start next rest ih =>
    obtain ⟨first, others⟩ := List.forall_mem_cons.mp each
    exact List.forall_mem_cons.mpr ⟨Nat.le_trans (length_upTo_le start content) first, ih others⟩

private theorem length_of_splitItems (body : List Char) :
    ∀ part ∈ (splitItems body).lead :: (splitItems body).items, part.length ≤ body.length := by
  have marks := length_of_introducers body
  unfold splitItems
  split
  next => simp
  next start content later same =>
    rw [same] at marks
    exact List.forall_mem_cons.mpr ⟨length_upTo_le start body, length_of_itemContents marks⟩

private theorem length_of_columns (stray text : List Char) {bound : Nat} (strayShort : stray.length ≤ bound)
    (textShort : text.length ≤ bound) : ∀ column ∈ columns stray text, column.text.length ≤ bound := by
  fun_induction columns stray text with
  | case1 stray text => simpa [Column.text] using strayShort
  | case2 stray text command found after opened ih =>
    have next := length_nextCommand? found
    have behind := length_openedMinipage? opened
    have inside := length_minipage_le after
    have before := length_upTo_le command.start stray
    refine List.forall_mem_cons.mpr ⟨Nat.le_trans before strayShort, List.forall_mem_cons.mpr ⟨?_, ih ?_ ?_⟩⟩
    · simp only [Column.text]
      omega
    all_goals omega
  | case3 stray text command found _ ih =>
    have next := length_nextCommand? found
    have behind := length_overEnvironment_le command
    exact ih strayShort (by omega)

private theorem length_bannerName? {sized smallCaps : Bool} {text name : List Char}
    (found : bannerName? sized smallCaps text = some name) : name.length ≤ text.length := by
  have dropped (text : List Char) := length_dropWhile_le Text.isSpace text
  have shorter {text : List Char} {command : Command} (read : command? (text.dropWhile Text.isSpace) = some command) :
      command.rest.length ≤ text.length ∧ command.start.length ≤ text.length := by
    have behind := length_command? read
    have whole := dropped text
    rw [behind.2]
    omega
  fun_induction bannerName? sized smallCaps text with
  | case1 _ _ text command read _ ih | case2 _ _ text command read _ _ ih | case3 _ _ text command read _ _ _ ih =>
    exact Nat.le_trans (ih found) (shorter read).1
  | case4 _ _ text command read =>
    obtain rfl := Option.some.inj found
    exact (shorter read).2
  | case6 _ _ text =>
    obtain rfl := Option.some.inj found
    exact dropped text
  | case5 | case7 => contradiction

variable {options : TranspileOptions}

section readings

variable {top : Bool} {read : Construct} {after : List Char}

theorem EnvironmentReading.length_inside {name text : List Char} (block : EnvironmentReading name text read after) :
    ∀ part ∈ read.inside options, part.length ≤ text.length := by
  have body := (length_body_le (.environment name) text).1
  have skipped := (length_body_le (.environment name) (skipOption text)).1
  have option := length_skipOption_le text
  cases block with
  | center =>
    rw [Construct.inside]
    split
    next => exact List.forall_mem_map.mpr (length_of_columns _ _ body body)
    next => simpa using body
  | minipages => exact List.forall_mem_map.mpr (length_of_minipages text)
  | list =>
    intro part member
    have := length_of_splitItems _ part member
    omega
  | document => simpa [Construct.inside] using body
  | unknown => simpa [Construct.inside] using Nat.le_trans skipped option

theorem CommandReading.length_inside {name : String} {text : List Char}
    (opened : CommandReading top name text read after) : ∀ part ∈ read.inside options, part.length ≤ text.length := by
  have behind := length_argumentOr_le Text.isInlineSpace text
  have option := length_skipOption_le text
  have argument {text : List Char} {group : Enclosed} (found : (argumentOr Text.isInlineSpace text).1 = some group) :
      group.inner.length ≤ text.length :=
    Nat.le_of_lt (length_of_argumentOr found)
  cases opened with
  | styled | heading =>
    cases found : (argumentOr Text.isInlineSpace text).1 with
    | none => simp [Construct.inside]
    | some group => simpa [Construct.inside] using argument found
  | banner found shown =>
    have inner := argument found
    have title := length_bannerName? shown
    have contacts := length_upTo_le (fromStructure (argumentOr Text.isInlineSpace text).2)
      (argumentOr Text.isInlineSpace text).2
    simp only [Construct.inside, List.forall_mem_cons, List.not_mem_nil, false_implies, implies_true, and_true]
    omega
  | href =>
    cases labelled : (argumentOr Text.isInlineSpace (argumentOr Text.isInlineSpace text).2).1 with
    | none => simp [Construct.inside]
    | some label => simpa [Construct.inside] using Nat.le_trans (argument labelled) behind
  | colored => simpa [Construct.inside] using behind
  | entry => exact List.forall_mem_map.mpr fun group member => Nat.le_of_lt (length_of_arguments 4 text group member)
  | itemList =>
    have body := (length_body_le Markup.itemList text).1
    exact fun part member => Nat.le_trans (length_of_splitItems _ part member) body
  | looseItems =>
    have items := length_of_looseItems text
    simp only [Construct.inside, List.forall_mem_map, List.mem_filterMap, id_eq, exists_eq_right]
    exact fun group member => Nat.le_of_lt (items group member)
  | environment found block =>
    have shorter := Nat.le_of_lt (length_argument? found).1
    exact fun part member => Nat.le_trans (block.length_inside part member) shorter
  | unknown =>
    cases found : (argumentOr Text.isInlineSpace (skipOption text)).1 with
    | none => simp [Construct.inside]
    | some group =>
      have inner := Nat.le_trans (argument found) option
      rw [Construct.inside]
      split <;> simp [inner]
  | _ => simp [Construct.inside]

theorem Reading.length_inside {c : Char} {rest : List Char} (reads : Reading top c rest read after) :
    ∀ part ∈ read.inside options, part.length ≤ rest.length := by
  cases reads with
  | command found opened =>
    have shorter := Nat.le_of_lt_succ (length_command? found).1
    exact fun part member => Nat.le_trans (opened.length_inside part member) shorter
  | group found => simpa [Construct.inside] using Nat.le_of_lt_succ (length_group? found).2
  | sign _ signs =>
    simp only [List.mem_cons, List.not_mem_nil, or_false] at signs
    rcases signs with rfl | rfl | rfl | rfl <;> simp [Construct.inside]
  | run => simp [Construct.inside]

end readings

/-- The texts in the constructs of a text are shorter than the text. -/
theorem length_inside_constructs {top : Bool} {text : List Char} {read : Construct} (member : read ∈ constructs top text) :
    ∀ part ∈ read.inside options, part.length < text.length := by
  match text with
  | [] => simp [constructs] at member
  | c :: rest =>
    have behind := length_construct_le top c rest
    rw [constructs] at member
    intro part inside
    rcases List.mem_cons.mp member with rfl | later
    · exact Nat.lt_succ_of_le ((reading top c rest).length_inside part inside)
    · have := length_inside_constructs later part inside
      simp only [List.length_cons]
      omega
termination_by text.length

end parts

end Vitae.Markup

namespace Vitae.Transpile

open Markup

section levels

variable {options : TranspileOptions}

/-- With more levels than a text has characters, the content depends neither on how many there are nor on the limit. -/
theorem sequence_limit (limit : Nat) {levels more : Nat} {text : List Char} (deep : text.length < levels)
    (deeper : text.length < more) (top : Bool) :
    sequence { options with maxDepth := limit } levels top text = sequence options more top text := by
  induction levels generalizing more text top with
  | zero => contradiction
  | succ levels ih =>
    cases more with
    | zero => contradiction
    | succ more =>
      have elaborate : (constructs top text).mapM
            (elaborated { options with maxDepth := limit } (sequence { options with maxDepth := limit } levels false)) =
          (constructs top text).mapM (elaborated options (sequence options more false)) := by
        refine mapM_congr fun read member => (elaborated_limit limit read).trans (elaborated_congr fun part inside => ?_)
        have shorter := length_inside_constructs member part inside
        exact ih (by omega) (by omega) false
      rw [sequence, sequence, elaborate]

theorem sequence_levels {levels more : Nat} {text : List Char} (deep : text.length < levels) (deeper : text.length < more)
    (top : Bool) : sequence options levels top text = sequence options more top text :=
  sequence_limit options.maxDepth deep deeper top

end levels

end Vitae.Transpile
