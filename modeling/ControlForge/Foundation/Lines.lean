import Mathlib.Data.List.Infix

/-!
# Terminated lines

A growing sequence is read as lines that each end with one terminator.  The
complete lines of a sequence stay where they are when it grows, and whoever has
read whole lines from its start has read its first complete lines.
-/

namespace ControlForge

variable {Byte : Type} (stop : Byte)

/-- One line: its terminator comes last and nowhere else. -/
def IsLine (line : List Byte) : Prop :=
  ∃ body, stop ∉ body ∧ line = body ++ [stop]

variable {stop} {line : List Byte}

theorem IsLine.ne_nil (isLine : IsLine stop line) : line ≠ [] := by
  obtain ⟨body, _, rfl⟩ := isLine
  simp

theorem IsLine.length_pos (isLine : IsLine stop line) : 0 < line.length :=
  List.length_pos_of_ne_nil isLine.ne_nil

variable [DecidableEq Byte] (stop)

/-- The lines of a sequence that have their terminator. -/
def completeLines : List Byte → List (List Byte)
  | [] => []
  | byte :: rest =>
      if byte = stop then [byte] :: completeLines rest
      else
        match completeLines rest with
        | [] => []
        | line :: lines => (byte :: line) :: lines

variable {stop} {bytes rest : List Byte} {lines : List (List Byte)}

theorem completeLines_eq_nil (unfinished : stop ∉ bytes) :
    completeLines stop bytes = [] := by
  induction bytes with
  | nil => rfl
  | cons byte rest induction =>
      have differs : byte ≠ stop := by
        rintro rfl
        simp at unfinished
      have restUnfinished : stop ∉ rest := by
        intro member
        exact unfinished (List.mem_cons_of_mem _ member)
      simp [completeLines, differs, induction restUnfinished]

theorem completeLines_line_append (isLine : IsLine stop line) :
    completeLines stop (line ++ rest) = line :: completeLines stop rest := by
  obtain ⟨body, clean, rfl⟩ := isLine
  induction body with
  | nil => simp [completeLines]
  | cons byte body induction =>
      have differs : byte ≠ stop := by
        rintro rfl
        simp at clean
      have bodyClean : stop ∉ body := by
        intro member
        exact clean (List.mem_cons_of_mem _ member)
      have bodyLines := induction bodyClean
      rw [List.append_assoc, List.singleton_append] at bodyLines
      simp [completeLines, differs, bodyLines]

theorem completeLines_lines_append (areLines : ∀ line ∈ lines, IsLine stop line) :
    completeLines stop (lines.flatten ++ rest) =
      lines ++ completeLines stop rest := by
  induction lines with
  | nil => rfl
  | cons line lines induction =>
      have remaining := induction fun other member =>
        areLines other (List.mem_cons_of_mem _ member)
      rw [List.flatten_cons, List.append_assoc,
        completeLines_line_append (areLines line List.mem_cons_self),
        remaining, List.cons_append]

/-- A sequence is its complete lines, and an unfinished one. -/
theorem completeLines_spec (bytes : List Byte) :
    (∀ line ∈ completeLines stop bytes, IsLine stop line) ∧
      ∃ rest, stop ∉ rest ∧
        bytes = (completeLines stop bytes).flatten ++ rest := by
  induction bytes with
  | nil => exact ⟨by simp [completeLines], [], by simp, rfl⟩
  | cons byte bytes induction =>
      obtain ⟨areLines, rest, unfinished, split⟩ := induction
      by_cases ends : byte = stop
      · subst ends
        simp only [completeLines, if_true]
        refine ⟨?_, rest, unfinished, ?_⟩
        · intro line member
          rcases List.mem_cons.mp member with rfl | later
          · exact ⟨[], by simp, rfl⟩
          · exact areLines line later
        · rw [List.flatten_cons, List.append_assoc, ← split]
          rfl
      · cases found : completeLines stop bytes with
        | nil =>
            simp only [completeLines, ends, if_false, found]
            refine ⟨by simp, byte :: bytes, ?_, rfl⟩
            rw [found] at split
            simp only [List.flatten_nil, List.nil_append] at split
            rw [split]
            simp [unfinished, Ne.symm ends]
        | cons first lines =>
            simp only [completeLines, ends, if_false, found]
            rw [found] at areLines split
            refine ⟨?_, rest, unfinished, ?_⟩
            · intro line member
              rcases List.mem_cons.mp member with rfl | later
              · obtain ⟨body, clean, rfl⟩ := areLines first List.mem_cons_self
                refine ⟨byte :: body, ?_, rfl⟩
                simp [clean, Ne.symm ends]
              · exact areLines line (List.mem_cons_of_mem _ later)
            · rw [List.flatten_cons, List.append_assoc, List.cons_append]
              congr 1
              rw [← List.append_assoc, ← List.flatten_cons]
              exact split

theorem isLine_of_mem (member : line ∈ completeLines stop bytes) :
    IsLine stop line :=
  (completeLines_spec bytes).1 line member

theorem flatten_completeLines_prefix :
    (completeLines stop bytes).flatten <+: bytes := by
  obtain ⟨rest, _, split⟩ := (completeLines_spec bytes).2
  exact ⟨rest, split.symm⟩

/-- What has been read in whole lines is the first complete lines. -/
theorem prefix_completeLines (areLines : ∀ line ∈ lines, IsLine stop line)
    (within : lines.flatten <+: bytes) : lines <+: completeLines stop bytes := by
  obtain ⟨rest, rfl⟩ := within
  rw [completeLines_lines_append areLines]
  exact List.prefix_append ..

theorem flatten_first (first : lines <+: completeLines stop bytes) :
    lines.flatten <+: bytes := by
  obtain ⟨others, split⟩ := first
  have whole : (completeLines stop bytes).flatten <+: bytes :=
    flatten_completeLines_prefix
  rw [← split, List.flatten_append] at whole
  exact (List.prefix_append ..).trans whole

/-- Complete lines stay when the sequence grows. -/
theorem completeLines_mono {more : List Byte} (grown : bytes <+: more) :
    completeLines stop bytes <+: completeLines stop more := by
  apply prefix_completeLines
  · intro line member
    exact isLine_of_mem member
  · exact flatten_completeLines_prefix.trans grown

end ControlForge
