import Vitae.Proofs.BuiltContent
import Vitae.Proofs.ClosingCommands
import Vitae.Proofs.ItemPartition

/-! The columns of a centered body. Telling whether a body holds a minipage and cutting it into columns look for the same
minipage, the first outside other environments. What stands in front of it is stray, behind it the search begins again,
and so the stray parts and the minipages make up the body, whether the last minipage is closed or not. -/

namespace Vitae

namespace Markup

section search

variable {text : List Char} {command : Command}

private theorem leadsTo_overEnvironment (command : Command) : LeadsTo command.rest (overEnvironment command) := by
  unfold overEnvironment
  split
  next name after opened =>
    refine (leadsTo_opened? opened).trans ?_
    cases found : (Delimiter.environment name).find? 0 after with
    | none => exact .here _
    | some pair => exact leadsTo_find? found
  next => exact .here _

private theorem leadsTo_firstMinipage? {after : List Char} (first : firstMinipage? text = some (command, after)) :
    LeadsTo text command.start ∧ command? command.start = some command ∧ openedMinipage? command = some after := by
  fun_induction firstMinipage? text with
  | case1 => contradiction
  | case2 text next found opening opened =>
    obtain ⟨rfl, rfl⟩ := Prod.mk.inj (Option.some.inj first)
    exact ⟨(leadsTo_nextCommand? found).1, command?_start found, opened⟩
  | case3 text other found _ ih =>
    obtain ⟨leads, read⟩ := ih first
    exact ⟨((leadsTo_nextCommand? found).2.trans (leadsTo_overEnvironment other)).trans leads, read⟩

end search

section parts

variable {part tail : List Char} {command : Command}

private theorem overEnvironment_eq (command : Command) :
    overEnvironment command =
      (opened? command).elim command.rest fun (name, text) => (Delimiter.environment name).over text := by
  unfold overEnvironment
  cases opened? command <;> rfl

variable (opens : OpensCommand tail)
include opens

private theorem openedMinipage?_withTail (whole : Whole command.rest) :
    openedMinipage? (command.withTail tail) = (openedMinipage? command).map (· ++ tail) := by
  unfold openedMinipage?
  rw [opened?_withTail opens whole]
  cases opened? command with
  | none => rfl
  | some opening => by_cases named : opening.1 = minipageName <;> simp [named]

private theorem overEnvironment_withTail (whole : Whole command.rest)
    (reaches : tail.length ≤ (overEnvironment (command.withTail tail)).length) :
    overEnvironment (command.withTail tail) = overEnvironment command ++ tail := by
  rw [overEnvironment_eq, opened?_withTail opens whole] at reaches ⊢
  rw [overEnvironment_eq]
  cases opened : opened? command with
  | none => rfl
  | some opening =>
    simp only [opened, Option.map_some, Option.elim_some] at reaches ⊢
    exact over_append opens (whole.leadsTo (leadsTo_opened? opened)) reaches

private theorem firstMinipage?_part {after : List Char} (whole : Whole part)
    (first : firstMinipage? (part ++ tail) = some (command, after)) (start : command.start = tail) :
    firstMinipage? part = none := by
  fun_induction firstMinipage? part with
  | case1 => rfl
  | case2 part own next opening opened =>
    have rest := (whole.nextCommand? next).2
    rw [firstMinipage?_some (nextCommand?_append whole opens next), openedMinipage?_withTail opens rest, opened] at first
    obtain ⟨rfl, -⟩ := Prod.mk.inj (Option.some.inj first)
    have shown := (length_nextCommand? next).1
    have longer := congrArg List.length start
    simp only [Command.withTail, List.length_append] at longer
    omega
  | case3 part own next opened ih =>
    have rest := (whole.nextCommand? next).2
    rw [firstMinipage?_some (nextCommand?_append whole opens next), openedMinipage?_withTail opens rest, opened] at first
    -- The tail is still to come behind the environment, so the environment is not closed in it.
    have behind : tail.length ≤ (overEnvironment (own.withTail tail)).length :=
      start ▸ (leadsTo_firstMinipage? first).1.length_le
    rw [Option.map_none, overEnvironment_withTail opens rest behind] at first
    exact ih (rest.leadsTo (leadsTo_overEnvironment own)) first

end parts

section source

/-- What is read as the opening of a minipage, with its position and width, in front of its content. -/
structure OpensMinipage (opening content : List Char) : Prop where
  spelled : commandText "begin" <+: opening
  read : ∃ command after, command? (opening ++ content) = some command ∧ openedMinipage? command = some after ∧
    skipArgument (skipOption after) = content

/-- What is read as the end of a minipage in front of other text. -/
structure ClosesMinipage (closing rest : List Char) : Prop where
  spelled : commandText "end" <+: closing
  read : ∃ command, command? (closing ++ rest) = some command ∧
    (Delimiter.environment minipageName).closes command = true ∧ command.behind = rest

/-- The source of a minipage in front of other text, from its `\begin` to the end of its `\end`. A minipage that is
never closed runs to the end of the text. -/
inductive MinipageSource : (source rest : List Char) → Enclosed → Prop
  | closed {opening content closing rest : List Char} (opens : OpensMinipage opening (content ++ (closing ++ rest)))
      (closes : ClosesMinipage closing rest)
      (first : (Delimiter.environment minipageName).find? 0 (content ++ (closing ++ rest)) = some (closing ++ rest, rest)) :
      MinipageSource (opening ++ (content ++ closing)) rest ⟨content, true⟩
  | unclosed {opening content : List Char} (opens : OpensMinipage opening content)
      (never : (Delimiter.environment minipageName).find? 0 content = none) :
      MinipageSource (opening ++ content) [] ⟨content, false⟩

private theorem command?_prefix {text rest : List Char} {command : Command} (read : command? text = some command)
    (suffix : rest <:+ command.rest) : ∃ front, commandText command.name <+: front ∧ text = front ++ rest := by
  obtain ⟨star, -, spelled⟩ := command?_spelled read
  obtain ⟨between, behind⟩ := suffix
  refine ⟨commandText command.name ++ (star ++ between), List.prefix_append _ _, ?_⟩
  rw [spelled, ← behind]
  simp only [List.append_assoc]

private theorem name_of_closes {name : List Char} {command : Command}
    (closes : (Delimiter.environment name).closes command = true) :
    command.name = "end" := by
  simp only [Delimiter.closes, Bool.and_eq_true, beq_iff_eq] at closes
  exact closes.1

private theorem leadsTo_resume (delimiter : Delimiter) (command : Command) :
    LeadsTo command.rest (delimiter.resume command) := by
  have leads := leadsTo_role delimiter command
  rwa [Delimiter.role_eq] at leads

private theorem name_of_openedMinipage? {command : Command} {after : List Char}
    (opened : openedMinipage? command = some after) :
    command.name = "begin" := by
  unfold openedMinipage? opened? at opened
  refine Decidable.byContradiction fun other => ?_
  simp [other] at opened

private theorem find?_closes {delimiter : Delimiter} {depth : Nat} {text start after : List Char}
    (found : delimiter.find? depth text = some (start, after)) :
    ∃ command, command? start = some command ∧ delimiter.closes command = true ∧ delimiter.resume command = after := by
  fun_induction Delimiter.find? delimiter depth text with
  | case1 => contradiction
  | case3 text command next closing =>
    obtain ⟨rfl, rfl⟩ := Prod.mk.inj (Option.some.inj found)
    rw [Delimiter.role_eq] at closing ⊢
    refine ⟨command, command?_start next, ?_, rfl⟩
    by_cases closes : delimiter.closes command = true
    · exact closes
    · simp only [closes] at closing
      split at closing <;> contradiction
  | case2 _ _ _ _ _ ih | case4 _ _ _ _ _ ih | case5 _ _ _ _ _ ih => exact ih found

private theorem leadsTo_find?_start {delimiter : Delimiter} {depth : Nat} {text start after : List Char}
    (found : delimiter.find? depth text = some (start, after)) : LeadsTo text start := by
  fun_induction Delimiter.find? delimiter depth text with
  | case1 => contradiction
  | case3 text command next =>
    obtain ⟨rfl, -⟩ := Prod.mk.inj (Option.some.inj found)
    exact (leadsTo_nextCommand? next).1
  | case2 text command next depth role ih | case4 text command next depth role ih | case5 text command next depth role ih =>
    exact ((leadsTo_nextCommand? next).2.trans (leadsTo_role delimiter command)).trans (ih found)

variable {command : Command} {after : List Char}

private theorem minipage_suffix (opened : openedMinipage? command = some after) :
    skipArgument (skipOption after) <:+ command.rest :=
  (((leadsTo_openedMinipage? opened).trans (leadsTo_skipOption after)).trans (leadsTo_skipArgument _)).suffix

private theorem exists_minipageSource (read : command? command.start = some command)
    (opened : openedMinipage? command = some after) :
    ∃ source, MinipageSource source (minipage after).2 (minipage after).1 ∧
      command.start = source ++ (minipage after).2 := by
  obtain ⟨opening, begins, whole⟩ := command?_prefix read (minipage_suffix opened)
  rw [name_of_openedMinipage? opened] at begins
  have opens : OpensMinipage opening (skipArgument (skipOption after)) :=
    ⟨begins, command, after, whole ▸ read, opened, rfl⟩
  unfold minipage Delimiter.body
  generalize skipArgument (skipOption after) = text at whole opens ⊢
  cases found : (Delimiter.environment minipageName).find? 0 text with
  | none =>
    refine ⟨opening ++ text, .unclosed opens found, ?_⟩
    rw [whole, List.append_nil]
  | some pair =>
    obtain ⟨start, rest⟩ := pair
    obtain ⟨last, ends, closes, behind⟩ := find?_closes found
    obtain ⟨closing, spelled, same⟩ := command?_prefix ends (behind ▸ (leadsTo_resume _ last).suffix)
    rw [name_of_closes closes] at spelled
    obtain ⟨content, rfl⟩ := (leadsTo_find?_start found).suffix
    subst same
    refine ⟨opening ++ (content ++ closing), ?_, ?_⟩
    · simp only [upTo_append_self]
      exact .closed opens ⟨spelled, last, ends, closes, behind⟩ found
    · simp only [whole, List.append_assoc]

end source

/-- Columns side by side that make up a text: parts without a minipage, and between two of them the source of one. -/
inductive Tiles : (text : List Char) → List Column → Prop
  | stray {text : List Char} (clear : holdsEnvironment minipageName text = false) : Tiles text [.stray text]
  | minipage {before source rest : List Char} {content : Enclosed} {later : List Column}
      (clear : holdsEnvironment minipageName before = false) (spelled : MinipageSource source rest content)
      (behind : Tiles rest later) : Tiles (before ++ (source ++ rest)) (.stray before :: .minipage content :: later)

private theorem tiles_columns (text : List Char) : Tiles text (columns text text) := by
  have clear {part : List Char} (none : firstMinipage? part = none) : holdsEnvironment minipageName part = false := by
    rw [holdsEnvironment_eq, none]
    rfl
  -- The rest behind a minipage is cut into columns by itself, and it is shorter.
  induction size : text.length using Nat.strongRecOn generalizing text with
  | ind size ih =>
    subst size
    rw [columns_eq]
    cases first : firstMinipage? text with
    | none => exact .stray (clear first)
    | some pair =>
      obtain ⟨command, after⟩ := pair
      obtain ⟨leads, read, opened⟩ := leadsTo_firstMinipage? first
      obtain ⟨source, spelled, whole⟩ := exists_minipageSource read opened
      have shorter : (minipage after).2.length < text.length := by
        have := leads.length_le
        have := length_command? read
        have := length_openedMinipage? opened
        have := length_minipage_le after
        omega
      have opens : OpensCommand command.start := by
        obtain ⟨star, -, same⟩ := command?_spelled read
        exact ⟨_, same⟩
      obtain ⟨before, part, same⟩ := leads.exists_whole (by obtain ⟨rest, same⟩ := opens; simp [same])
      have none : firstMinipage? before = none := firstMinipage?_part opens part (same ▸ first) rfl
      have behind := ih _ shorter (minipage after).2 rfl
      simp only [same, upTo_append_self]
      rw [whole]
      exact .minipage (clear none) spelled behind

end Markup

namespace Transpile

open Markup

private theorem kind_of_mem_centered {nodes : List Node} {node : Node} (member : node ∈ centered nodes) :
    node.kind = .header ∨ node.kind = .centered := by
  have run {part : List Node} (member : node ∈ centeredRun part) : node.kind = .header ∨ node.kind = .centered := by
    unfold centeredRun at member
    split at member
    next => exact absurd member (by simp)
    next => exact .inr (by rw [List.mem_singleton.mp member]; rfl)
  have runs (part : List Node) (member : node ∈ (centerRuns part).2) : node.kind = .header ∨ node.kind = .centered := by
    fun_induction centerRuns part with
    | case1 => exact absurd member (by simp)
    | case2 name lines contacts rest ih =>
      rcases List.mem_cons.mp member with rfl | behind
      · exact .inl rfl
      · rcases List.mem_append.mp behind with first | later
        · exact run first
        · exact ih later
    | case3 _ _ _ ih => exact ih member
  rcases List.mem_append.mp member with first | behind
  · exact run first
  · exact runs nodes behind

/-- The columns of a centered body are formed where it holds a minipage, and one of them is that minipage. -/
theorem mem_centerNodes {inner : List Char → Noted (List Node)} {body : List Char} {nodes : List Node}
    (member : .columnGroup nodes ∈ (centerNodes inner body).value) :
    ∃ content, .minipage content ∈ columns body body ∧ (minipageNode inner content).value ∈ nodes := by
  unfold centerNodes at member
  split at member
  next holds =>
    obtain rfl : nodes = _ := by simpa using member
    obtain ⟨content, place⟩ := (mem_columns_iff body).mpr holds
    exact ⟨content, place, minipageNode_mem place⟩
  next => exact absurd (kind_of_mem_centered member) (by simp [Node.kind])

/-- A body is found to hold a minipage just where one of its columns is one, so a group of columns is never formed
without. The stray parts and the sources of the minipages make up the body. -/
theorem columns_tiling (inner : List Char → Noted (List Node)) (body : List Char) :
    (holdsEnvironment minipageName body = true ↔ ∃ content, .minipage content ∈ columns body body) ∧
      (∀ nodes, .columnGroup nodes ∈ (centerNodes inner body).value →
        ∃ content, .minipage content ∈ columns body body ∧ (minipageNode inner content).value ∈ nodes) ∧
      Tiles body (columns body body) := by
  exact ⟨(mem_columns_iff body).symm, fun nodes member => mem_centerNodes member, tiles_columns body⟩

/-- A minipage that is never closed, behind other text. -/
def openMinipage : List Char :=
  "a\\begin\x7bminipage\x7db".toList

def plainly (text : List Char) : Noted (List Node) :=
  return [.text (.ofList text)]

theorem columns_tiling_openMinipage : ∃ nodes content, .columnGroup nodes ∈ (centerNodes plainly openMinipage).value ∧
    .minipage content ∈ columns openMinipage openMinipage ∧ (minipageNode plainly content).value ∈ nodes := by
  have holds : holdsEnvironment minipageName openMinipage = true := by decide +kernel
  obtain ⟨nodes, member⟩ : ∃ nodes, .columnGroup nodes ∈ (centerNodes plainly openMinipage).value := by
    rw [centerNodes, if_pos holds]
    exact ⟨_, List.mem_singleton.mpr rfl⟩
  obtain ⟨content, place, shown⟩ := (columns_tiling plainly openMinipage).2.1 nodes member
  exact ⟨nodes, content, member, place, shown⟩

end Transpile

end Vitae
