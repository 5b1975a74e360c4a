import ControlForge.Telemetry.Consumption

/-!
# Progress through the Santa log

A read moves on when the next line fits its budget, and returns when no line it
comes to raises more than a rejection.  The definition does not bound a line by
the budget of a read, so repeated reads reach the end of some logs only.
-/

namespace ControlForge

namespace Telemetry

namespace Santa

variable {library : Library} {deviceId : String}

/-- No line of the log is longer than the reader admits. -/
structure LinesFit (definition : SantaLogDefinition) (content : List UInt8) :
    Prop where
  complete : ∀ line ∈ completeLines newline content,
    line.length ≤ definition.maxLineBytes
  unfinished : ∀ rest,
    content = (completeLines newline content).flatten ++ rest →
      rest.length ≤ definition.maxLineBytes

section Progress

variable (library) (deviceId)
variable (definition : SantaLogDefinition) (device inode : Nat)
  (content : List UInt8)

/-- A read that starts before a complete line returns, and its cursor is behind
that line. -/
def Progresses : Prop :=
  ∀ cursor past line, past ++ [line] <+: completeLines newline content →
    startOffset (regularFile device inode content) cursor =
      past.flatten.length →
    ∃ batch, read library definition deviceId (steady device inode content)
        cursor = .ok batch ∧
      past.flatten.length + line.length ≤ batch.cursor.byteOffset

/-- So many reads, each from the cursor of the last. -/
def readRepeatedly : Nat → Option SourceCursor →
    Except ReadFailure (Option SourceCursor)
  | 0, cursor => .ok cursor
  | count + 1, cursor =>
      match read library definition deviceId (steady device inode content)
          cursor with
      | .ok batch => readRepeatedly count (some batch.cursor)
      | .error failure => .error failure

/-- Reads that are repeated come to the end of the complete lines. -/
def ReachesEnd : Prop :=
  ∀ cursor, AtLineEnd content
      (startOffset (regularFile device inode content) cursor) →
    ∃ count last, readRepeatedly library deviceId definition device inode
        content count cursor = .ok last ∧
      startOffset (regularFile device inode content) last =
        (completeLines newline content).flatten.length

/-- Every complete line fits the budget of a read, and raises nothing the
reader does not catch. -/
def LinesReadable : Prop :=
  ∀ line ∈ completeLines newline content,
    line.length ≤ definition.maxReadBytes ∧
      ∀ message, parseLine library deviceId line ≠ .error (.other message)

variable {library} {deviceId} {definition} {device inode} {content}

/-- The turn before a complete line. -/
theorem turn_line {line rest : List UInt8} {progress : Progress}
    (isLine : IsLine newline line) (short : line.length ≤ definition.maxLineBytes) :
    turn library definition deviceId (line ++ rest) progress =
      if definition.maxReadBytes < progress.consumed + line.length then .stop
      else take library deviceId line progress := by
  have isRead : readline (definition.maxLineBytes + 1) (line ++ rest) = line :=
    readline_line isLine (by omega)
  have ends : line.getLast? = some newline := by
    obtain ⟨body, _, rfl⟩ := isLine
    simp
  unfold turn
  simp only [isRead, isLine.ne_nil, if_false, ends, ne_eq, not_true_eq_false]
  rw [if_neg (by omega)]

/-- The turn before an unfinished line. -/
theorem turn_unfinished {rest : List UInt8} {progress : Progress}
    (clean : newline ∉ rest) (short : rest.length ≤ definition.maxLineBytes) :
    turn library definition deviceId rest progress = .stop := by
  have first := readline_prefix (definition.maxLineBytes + 1) rest
  have within := first.length_le
  have unended : (readline (definition.maxLineBytes + 1) rest).getLast? ≠
      some newline := by
    intro ends
    exact clean (first.subset (List.mem_of_getLast? ends))
  have fits : ¬ definition.maxLineBytes <
      (readline (definition.maxLineBytes + 1) rest).length := by
    omega
  simp [turn, fits, unended]

theorem take_parsed {line : List UInt8} {progress : Progress}
    (parsed : ∀ message,
      parseLine library deviceId line ≠ .error (.other message)) :
    ∃ next, take library deviceId line progress = .taken next := by
  unfold take
  cases outcome : parseLine library deviceId line with
  | error failure =>
      cases failure with
      | value message => exact ⟨_, rfl⟩
      | other message => exact absurd outcome (parsed message)
  | ok event =>
      cases event with
      | none => exact ⟨_, rfl⟩
      | some event => exact ⟨_, rfl⟩

/-- A loop with readable lines before it returns, and does not go back. -/
theorem readLines_returns {rest : List UInt8} (clean : newline ∉ rest)
    (shortRest : rest.length ≤ definition.maxLineBytes)
    {lines : List (List UInt8)}
    (areLines : ∀ line ∈ lines, IsLine newline line ∧
      line.length ≤ definition.maxLineBytes ∧
      ∀ message, parseLine library deviceId line ≠ .error (.other message))
    {count : Nat} {progress : Progress}
    (coming : content.drop progress.position = lines.flatten ++ rest) :
    ∃ final, readLines library definition deviceId (fun _ => .ok content) count
        progress = .ok final ∧ progress.position ≤ final.position := by
  by_cases more : progress.events.length < definition.maxEventsPerRun
  · induction lines generalizing count progress with
    | nil =>
        refine ⟨progress, ?_, le_rfl⟩
        rw [readLines_turn more rfl, coming, List.flatten_nil, List.nil_append,
          turn_unfinished clean shortRest]
    | cons line lines induction =>
        obtain ⟨isLine, short, parsed⟩ := areLines line List.mem_cons_self
        rw [readLines_turn more rfl, coming, List.flatten_cons,
          List.append_assoc, turn_line isLine short]
        split_ifs with beyond
        · exact ⟨progress, rfl, le_rfl⟩
        · obtain ⟨next, taken⟩ : ∃ next,
              take library deviceId line progress = .taken next :=
            take_parsed parsed
          have position := (take_taken library taken).2
          simp only [taken]
          by_cases moreNext : next.events.length < definition.maxEventsPerRun
          · have comingNext :
                content.drop next.position = lines.flatten ++ rest := by
              rw [position, ← List.drop_drop, coming, List.flatten_cons,
                List.append_assoc, List.drop_left]
            obtain ⟨final, done, forward⟩ : ∃ final,
                readLines library definition deviceId (fun _ => .ok content)
                  (count + 1) next = .ok final ∧
                next.position ≤ final.position := by
              apply induction _ comingNext moreNext
              intro other member
              exact areLines other (List.mem_cons_of_mem _ member)
            exact ⟨final, done, by omega⟩
          · refine ⟨next, ?_, by omega⟩
            rw [readLines, if_neg moreNext]
  · refine ⟨progress, ?_, le_rfl⟩
    rw [readLines, if_neg more]

theorem startOffset_within {offset : Nat} (within : offset ≤ content.length) :
    startOffset (regularFile device inode content)
      (some ⟨device, inode, offset⟩) = offset := by
  simp [startOffset, regularFile, within]

/-- The log behind its first lines. -/
theorem drop_lines {past later : List (List UInt8)} {rest : List UInt8}
    (lines : completeLines newline content = past ++ later)
    (split : content = (completeLines newline content).flatten ++ rest) :
    content.drop past.flatten.length = later.flatten ++ rest := by
  rw [split, lines, List.flatten_append, List.append_assoc, List.drop_left]

theorem progresses_of_readable (fit : LinesFit definition content)
    (readable : LinesReadable library deviceId definition content) :
    Progresses library deviceId definition device inode content := by
  intro cursor past line first start
  obtain ⟨more, lines⟩ := first
  obtain ⟨areLines, rest, clean, split⟩ :=
    completeLines_spec content
  have good : ∀ other ∈ line :: more, IsLine newline other ∧
      other.length ≤ definition.maxLineBytes ∧
      ∀ message, parseLine library deviceId other ≠ .error (.other message) := by
    intro other member
    have isComplete : other ∈ completeLines newline content := by
      rw [← lines, List.append_assoc]
      exact List.mem_append_right _ member
    exact ⟨areLines other isComplete, fit.complete other isComplete,
      (readable other isComplete).2⟩
  obtain ⟨isLine, short, parsed⟩ := good line List.mem_cons_self
  have budget : line.length ≤ definition.maxReadBytes := by
    refine (readable line ?_).1
    rw [← lines]
    simp
  obtain ⟨next, taken⟩ : ∃ next, take library deviceId line
      (.begin past.flatten.length) = .taken next :=
    take_parsed parsed
  have position := (take_taken library taken).2
  have coming : content.drop past.flatten.length =
      line ++ (more.flatten ++ rest) := by
    have isLines : completeLines newline content = past ++ line :: more := by
      rw [← lines, List.append_assoc, List.singleton_append]
    rw [drop_lines isLines split, List.flatten_cons, List.append_assoc]
  have comingNext : content.drop next.position = more.flatten ++ rest := by
    rw [position, ← List.drop_drop]
    simp only [Progress.begin]
    rw [coming, List.drop_left]
  obtain ⟨final, done, forward⟩ : ∃ final,
      readLines library definition deviceId (fun _ => .ok content) 1 next =
        .ok final ∧ next.position ≤ final.position := by
    refine readLines_returns clean (fit.unfinished rest split) ?_ comingNext
    intro other member
    exact good other (List.mem_cons_of_mem _ member)
  refine ⟨⟨final.events, final.rejected, device, inode, final.position⟩, ?_, ?_⟩
  · rw [read_steady, start, readLines_turn Progress.begin_more rfl]
    simp only [Progress.begin] at coming taken ⊢
    rw [coming, turn_line isLine short, if_neg (by simpa using budget), taken]
    simp only [done]
    rfl
  · simp only [Progress.begin] at position
    simp only
    omega

/-- A line beyond the budget of a read is never passed. -/
theorem readable_of_progresses (fit : LinesFit definition content)
    (progresses : Progresses library deviceId definition device inode content) :
    LinesReadable library deviceId definition content := by
  intro line member
  obtain ⟨past, more, lines⟩ := List.append_of_mem member
  obtain ⟨areLines, rest, clean, split⟩ :=
    completeLines_spec content
  have isLine := areLines line member
  have first : past ++ [line] <+: completeLines newline content := by
    refine ⟨more, ?_⟩
    rw [lines, List.append_assoc, List.singleton_append]
  have within : past.flatten.length ≤ content.length :=
    (flatten_first ((List.prefix_append past [line]).trans first)).length_le
  have start : startOffset (regularFile device inode content)
      (some ⟨device, inode, past.flatten.length⟩) = past.flatten.length :=
    startOffset_within within
  obtain ⟨batch, done, forward⟩ := progresses _ past line first start
  have coming : content.drop past.flatten.length =
      line ++ (more.flatten ++ rest) := by
    rw [drop_lines lines split, List.flatten_cons, List.append_assoc]
  rw [read_steady, start, readLines_turn Progress.begin_more rfl] at done
  simp only [Progress.begin] at done
  rw [coming, turn_line isLine (fit.complete line member)] at done
  split_ifs at done with beyond
  · cases done
    have positive := isLine.length_pos
    simp only at forward
    omega
  · refine ⟨by simpa using beyond, ?_⟩
    intro message parsed
    simp only [take, parsed] at done
    cases done

theorem reachesEnd_of_progresses
    (progresses : Progresses library deviceId definition device inode content) :
    ReachesEnd library deviceId definition device inode content := by
  rintro cursor ⟨past, ⟨remaining, lines⟩, start⟩
  induction size_eq : remaining.length using Nat.strong_induction_on
    generalizing cursor past remaining with
  | _ size induction =>
      cases remaining with
      | nil =>
          refine ⟨0, cursor, rfl, ?_⟩
          rw [start, ← lines, List.append_nil]
      | cons line more =>
          have first : past ++ [line] <+: completeLines newline content := by
            refine ⟨more, ?_⟩
            rw [← lines, List.append_assoc, List.singleton_append]
          obtain ⟨batch, done, forward⟩ := progresses cursor past line first start
          obtain ⟨info, final, opened, finished, _, _, isCursor⟩ := read_ok done
          cases opened
          rw [start] at finished
          obtain ⟨taken, _, passes, _⟩ := readLines_passes
            (fun _ _ found => by cases found; exact List.prefix_rfl)
            ⟨Nat.zero_le _, Nat.zero_le _⟩ finished
          have position : final.position =
              past.flatten.length + taken.flatten.length :=
            passes.position
          have behind := passes.behind ((List.prefix_append past [line]).trans first)
          rw [← lines] at behind
          obtain ⟨later, split⟩ := (List.prefix_append_right_inj past).mp behind
          have moved : taken ≠ [] := by
            rintro rfl
            have positive : 0 < line.length := by
              have isLine : IsLine newline line :=
                isLine_of_mem (first.subset (by simp))
              exact isLine.length_pos
            rw [isCursor] at forward
            simp only [position, List.flatten_nil, List.length_nil] at forward
            omega
          have fewer : later.length < size := by
            rw [← size_eq, ← split, List.length_append]
            have := List.length_pos_of_ne_nil moved
            omega
          have startNext : startOffset (regularFile device inode content)
              (some batch.cursor) = (past ++ taken).flatten.length := by
            have whole := (flatten_first (lines ▸ behind)).length_le
            rw [isCursor, position, List.flatten_append, List.length_append]
            rw [List.flatten_append, List.length_append] at whole
            exact startOffset_within whole
          obtain ⟨count, last, reached, atEnd⟩ :=
            induction later.length fewer (some batch.cursor) (past ++ taken)
              startNext later (by rw [List.append_assoc, split, lines]) rfl
          refine ⟨count + 1, last, ?_, atEnd⟩
          simp only [readRepeatedly, done]
          exact reached

/-- Reads make progress on a log of admitted lines exactly when each line fits
the budget of a read and raises nothing uncaught. -/
theorem progress_iff_readable (fit : LinesFit definition content) :
    (Progresses library deviceId definition device inode content ∧
        ReachesEnd library deviceId definition device inode content) ↔
      LinesReadable library deviceId definition content := by
  constructor
  · rintro ⟨progresses, _⟩
    exact readable_of_progresses fit progresses
  · intro readable
    have progresses : Progresses library deviceId definition device inode
        content :=
      progresses_of_readable fit readable
    exact ⟨progresses, reachesEnd_of_progresses progresses⟩

end Progress

theorem completeLines_single {line : List UInt8} (isLine : IsLine newline line) :
    completeLines newline line = [line] := by
  have lines : completeLines newline (line ++ []) = [line] :=
    completeLines_line_append isLine
  rwa [List.append_nil] at lines

theorem linesFit_single {definition : SantaLogDefinition} {line : List UInt8}
    (isLine : IsLine newline line)
    (short : line.length ≤ definition.maxLineBytes) :
    LinesFit definition line := by
  constructor
  · intro other member
    rw [completeLines_single isLine] at member
    rw [List.mem_singleton.mp member]
    exact short
  · intro rest split
    rw [completeLines_single isLine] at split
    have noRest : rest = [] := by
      simpa using split
    simp [noRest]

/-- The smallest budget of a read beside the default line limit. -/
def smallBudget : SantaLogDefinition :=
  { santaDefaults with
    maxReadBytes := 1024
    readAdmitted := by decide }

theorem progress_fails_beyond_budget :
    ¬ ∀ (library : Library) (deviceId : String)
      (definition : SantaLogDefinition) (device inode : Nat)
      (content : List UInt8), LinesFit definition content →
        Progresses library deviceId definition device inode content ∧
          ReachesEnd library deviceId definition device inode content := by
  intro claimed
  have isLine := isLine_blankLine 1024
  have fit : LinesFit smallBudget (blankLine 1024) := by
    apply linesFit_single isLine
    simp [smallBudget, santaDefaults]
  have progresses := (claimed noJson "mac" smallBudget 1 2 _ fit).1
  have readable := readable_of_progresses fit progresses (blankLine 1024)
    (by rw [completeLines_single isLine]; exact List.mem_singleton_self _)
  simp [smallBudget] at readable

theorem progress_iff_readable_defaults :
    LinesFit santaDefaults (blankLine 3) ∧
      ((Progresses noJson "mac" santaDefaults 1 2 (blankLine 3) ∧
          ReachesEnd noJson "mac" santaDefaults 1 2 (blankLine 3)) ↔
        LinesReadable noJson "mac" santaDefaults (blankLine 3)) := by
  have fit : LinesFit santaDefaults (blankLine 3) := by
    apply linesFit_single (isLine_blankLine 3)
    simp [santaDefaults]
  exact ⟨fit, progress_iff_readable fit⟩

end Santa

end Telemetry

end ControlForge
