import Mathlib.Data.List.Basic
import Mathlib.Tactic.SplitIfs

/-! A stream of symbols in which one symbol ends a line: the lines that are complete, the one
that is not, and how they grow as the stream comes in piece by piece. -/

namespace AiroFanuc.Library

variable {α : Type} [DecidableEq α] (stop : α)

/-- The first line of a stream and what follows it. -/
def splitLine : List α → Option (List α × List α)
  | [] => none
  | a :: rest =>
    if a = stop then some ([], rest)
    else (splitLine rest).map fun split => (a :: split.1, split.2)

/-- The lines that are ended, without their ends. -/
def completeLines : List α → List (List α)
  | [] => []
  | a :: rest =>
    if a = stop then [] :: completeLines rest
    else
      match completeLines rest with
      | [] => []
      | line :: lines => (a :: line) :: lines

/-- What follows the last end of a line. -/
def openLine : List α → List α
  | [] => []
  | a :: rest =>
    if a = stop then openLine rest
    else
      match completeLines stop rest with
      | [] => a :: rest
      | _ :: _ => openLine rest

variable {stop} {stream more line rest : List α}

theorem openLine_of_unended (unended : completeLines stop stream = []) :
    openLine stop stream = stream := by
  induction stream with
  | nil => rfl
  | cons a rest ih =>
    unfold completeLines at unended
    split_ifs at unended with ends
    rw [openLine, if_neg ends]
    split
    · rfl
    · next same =>
      rw [same] at unended
      cases unended

/-- The lines of a longer stream: those there were, and those that the new piece ends. -/
theorem completeLines_append (stream more : List α) : completeLines stop (stream ++ more) =
    completeLines stop stream ++ completeLines stop (openLine stop stream ++ more) := by
  induction stream with
  | nil => rfl
  | cons a rest ih =>
    by_cases ends : a = stop
    · simp only [List.cons_append, completeLines, openLine, if_pos ends, ih]
    · cases lines : completeLines stop rest with
      | nil =>
        rw [openLine, completeLines, if_neg ends, if_neg ends, lines]
        rfl
      | cons first others =>
        rw [lines] at ih
        simp only [List.cons_append] at ih ⊢
        rw [completeLines, completeLines, openLine, if_neg ends, if_neg ends, if_neg ends, lines, ih]
        rfl

theorem openLine_append (stream more : List α) :
    openLine stop (stream ++ more) = openLine stop (openLine stop stream ++ more) := by
  induction stream with
  | nil => rfl
  | cons a rest ih =>
    by_cases ends : a = stop
    · simp only [List.cons_append, openLine, if_pos ends, ih]
    · cases lines : completeLines stop rest with
      | nil =>
        simp only [openLine, if_neg ends, lines]
      | cons first others =>
        have longer : completeLines stop (rest ++ more) ≠ [] := by
          rw [completeLines_append, lines]
          exact List.cons_ne_nil _ _
        rw [List.cons_append, openLine, openLine, if_neg ends, if_neg ends, lines]
        split
        · next none_ => exact absurd none_ longer
        · exact ih

theorem unended_of_splitLine (split : splitLine stop stream = none) :
    completeLines stop stream = [] := by
  induction stream with
  | nil => rfl
  | cons a rest ih =>
    unfold splitLine at split
    split_ifs at split with ends
    rw [completeLines, if_neg ends, ih (Option.map_eq_none_iff.mp split)]

/-- Taking the first line leaves the others. -/
theorem lines_of_splitLine (split : splitLine stop stream = some (line, rest)) :
    completeLines stop stream = line :: completeLines stop rest ∧
      openLine stop stream = openLine stop rest := by
  induction stream generalizing line rest with
  | nil => cases split
  | cons a tail ih =>
    unfold splitLine at split
    split_ifs at split with ends
    · cases split
      rw [completeLines, openLine, if_pos ends, if_pos ends]
      exact ⟨rfl, rfl⟩
    · obtain ⟨⟨first, others⟩, inner, same⟩ := Option.map_eq_some_iff.mp split
      cases same
      obtain ⟨lines, opens⟩ := ih inner
      rw [completeLines, openLine, if_neg ends, if_neg ends, lines]
      exact ⟨rfl, opens⟩

theorem splitLine_of_not_mem (unended : stop ∉ stream) : splitLine stop stream = none := by
  induction stream with
  | nil => rfl
  | cons a rest ih =>
    rw [List.mem_cons, not_or] at unended
    rw [splitLine, if_neg (Ne.symm unended.1), ih unended.2]
    rfl

theorem splitLine_append (unended : stop ∉ line) (rest : List α) :
    splitLine stop (line ++ stop :: rest) = some (line, rest) := by
  induction line with
  | nil => rw [List.nil_append, splitLine, if_pos rfl]
  | cons a tail ih =>
    rw [List.mem_cons, not_or] at unended
    rw [List.cons_append, splitLine, if_neg (Ne.symm unended.1), ih unended.2]
    rfl

end AiroFanuc.Library
