import ControlForge.Foundation.Lines
import ControlForge.Foundation.Transition
import ControlForge.Telemetry.Santa

/-!
# Consumption of the Santa log

Every read takes whole lines, in order, from where its cursor stands.  Reads
that hand on their cursors therefore take each complete line of a growing log
once.
-/

namespace ControlForge

namespace Telemetry

namespace Santa

/-! ## Lines -/

theorem readline_prefix (limit : Nat) (bytes : List UInt8) :
    readline limit bytes <+: bytes := by
  induction bytes generalizing limit with
  | nil =>
      cases limit with
      | zero => exact List.prefix_rfl
      | succ limit => exact List.prefix_rfl
  | cons byte rest induction =>
      cases limit with
      | zero => exact List.nil_prefix
      | succ limit =>
          by_cases ends : byte = newline
          · simp [readline, ends]
          · simpa [readline, ends, List.cons_prefix_cons] using induction limit

/-- What `readline` returns is a line as soon as it ends with a newline. -/
theorem readline_isLine {limit : Nat} {bytes : List UInt8}
    (ends : (readline limit bytes).getLast? = some newline) :
    IsLine newline (readline limit bytes) := by
  induction bytes generalizing limit with
  | nil =>
      cases limit with
      | zero => simp [readline] at ends
      | succ limit => simp [readline] at ends
  | cons byte rest induction =>
      cases limit with
      | zero => simp [readline] at ends
      | succ limit =>
          by_cases isEnd : byte = newline
          · subst isEnd
            refine ⟨[], by simp, ?_⟩
            simp [readline]
          · simp only [readline, isEnd, if_false] at ends ⊢
            have nonempty : readline limit rest ≠ [] := by
              intro empty
              simp [empty, isEnd] at ends
            rw [List.getLast?_cons_of_ne_nil nonempty] at ends
            obtain ⟨body, clean, split⟩ := induction ends
            refine ⟨byte :: body, ?_, by rw [split]; rfl⟩
            simp [clean, Ne.symm isEnd]

theorem readline_line {limit : Nat} {line rest : List UInt8}
    (isLine : IsLine newline line) (short : line.length ≤ limit) :
    readline limit (line ++ rest) = line := by
  obtain ⟨body, clean, rfl⟩ := isLine
  induction body generalizing limit with
  | nil =>
      obtain ⟨limit, rfl⟩ : ∃ smaller, limit = smaller + 1 :=
        ⟨limit - 1, by simp at short; omega⟩
      simp [readline]
  | cons byte body induction =>
      simp only [List.length_append, List.length_cons] at short
      obtain ⟨limit, rfl⟩ : ∃ smaller, limit = smaller + 1 :=
        ⟨limit - 1, by omega⟩
      have differs : byte ≠ newline := by
        rintro rfl
        simp at clean
      have bodyClean : newline ∉ body := by
        intro member
        exact clean (List.mem_cons_of_mem _ member)
      have remaining : readline limit (body ++ [newline] ++ rest) =
          body ++ [newline] := by
        apply induction bodyClean
        simp only [List.length_append, List.length_singleton]
        omega
      rw [List.append_assoc, List.singleton_append] at remaining
      simp [readline, differs, remaining]

variable (library : Library) (deviceId : String)

/-- The events of these lines. -/
def eventsOf (lines : List (List UInt8)) : List SecurityEvent :=
  lines.filterMap fun line =>
    match parseLine library deviceId line with
    | .ok event => event
    | .error _ => none

/-- Lines whose content is rejected. -/
def isRejected (line : List UInt8) : Bool :=
  match parseLine library deviceId line with
  | .error (.value _) => true
  | _ => false

/-! ## One read -/

/-- Between two moments of a loop these lines have been passed, of the bytes
that were to come. -/
structure Passes (coming : List UInt8) (lines : List (List UInt8))
    (before after : Progress) : Prop where
  areLines : ∀ line ∈ lines, IsLine newline line
  within : lines.flatten <+: coming
  consumed : after.consumed = before.consumed + lines.flatten.length
  position : after.position = before.position + lines.flatten.length
  events : after.events = before.events ++ eventsOf library deviceId lines
  rejected : after.rejected =
    before.rejected + lines.countP (isRejected library deviceId)

variable {library} {deviceId}

theorem Passes.none {coming : List UInt8} {progress : Progress} :
    Passes library deviceId coming [] progress progress where
  areLines := by simp
  within := List.nil_prefix
  consumed := rfl
  position := rfl
  events := by simp [eventsOf]
  rejected := by simp

theorem Passes.trans {coming : List UInt8} {first second : List (List UInt8)}
    {before middle after : Progress}
    (one : Passes library deviceId coming first before middle)
    (two : Passes library deviceId (coming.drop first.flatten.length)
      second middle after) :
    Passes library deviceId coming (first ++ second) before after where
  areLines := by
    intro line member
    rcases List.mem_append.mp member with early | late
    · exact one.areLines line early
    · exact two.areLines line late
  within := by
    obtain ⟨rest, split⟩ := one.within
    have later := two.within
    rw [← split, List.drop_left] at later
    rw [List.flatten_append, ← split]
    exact (List.prefix_append_right_inj _).mpr later
  consumed := by
    rw [two.consumed, one.consumed, List.flatten_append, List.length_append]
    omega
  position := by
    rw [two.position, one.position, List.flatten_append, List.length_append]
    omega
  events := by
    rw [two.events, one.events, List.append_assoc]
    simp [eventsOf]
  rejected := by
    rw [two.rejected, one.rejected, List.countP_append]
    omega

theorem take_passes {line coming : List UInt8} {progress next : Progress}
    (isLine : IsLine newline line) (first : line <+: coming)
    (taken : take library deviceId line progress = .taken next) :
    Passes library deviceId coming [line] progress next := by
  have areLines : ∀ other ∈ [line], IsLine newline other := by
    intro other member
    rw [List.mem_singleton.mp member]
    exact isLine
  unfold take at taken
  cases parsed : parseLine library deviceId line with
  | error failure =>
      cases failure with
      | value message =>
          simp only [parsed, Turn.taken.injEq] at taken
          subst taken
          constructor
          · exact areLines
          all_goals simp [Progress.past, eventsOf, isRejected, parsed, first]
      | other message => simp [parsed] at taken
  | ok event =>
      cases event with
      | none =>
          simp only [parsed, Turn.taken.injEq] at taken
          subst taken
          constructor
          · exact areLines
          all_goals simp [Progress.past, eventsOf, isRejected, parsed, first]
      | some event =>
          simp only [parsed, Turn.taken.injEq] at taken
          subst taken
          constructor
          · exact areLines
          all_goals simp [Progress.past, eventsOf, isRejected, parsed, first]

/-- From the end of complete lines on, the lines passed are the next ones. -/
theorem Passes.behind {content : List UInt8} {past lines : List (List UInt8)}
    {before after : Progress} (first : past <+: completeLines newline content)
    (passes : Passes library deviceId (content.drop past.flatten.length) lines
      before after) :
    past ++ lines <+: completeLines newline content := by
  apply prefix_completeLines
  · intro line member
    rcases List.mem_append.mp member with early | late
    · exact isLine_of_mem (first.subset early)
    · exact passes.areLines line late
  · obtain ⟨rest, split⟩ := flatten_first first
    have within := passes.within
    rw [← split, List.drop_left] at within
    rw [List.flatten_append, ← split]
    exact (List.prefix_append_right_inj _).mpr within

theorem turn_passes {definition : SantaLogDefinition} {coming : List UInt8}
    {progress next : Progress}
    (taken : turn library definition deviceId coming progress = .taken next) :
    ∃ line, line.length ≤ definition.maxLineBytes ∧
      progress.consumed + line.length ≤ definition.maxReadBytes ∧
      Passes library deviceId coming [line] progress next := by
  obtain ⟨line, isRead, _, short, ends, within, taken⟩ := turn_taken library taken
  have isLine : IsLine newline line := by
    rw [isRead] at ends ⊢
    exact readline_isLine ends
  have first : line <+: coming := by
    rw [isRead]
    exact readline_prefix _ _
  exact ⟨line, short, within, take_passes isLine first taken⟩

/-- The limits of a read, which its loop keeps. -/
def WithinLimits (definition : SantaLogDefinition) (progress : Progress) : Prop :=
  progress.events.length ≤ definition.maxEventsPerRun ∧
    progress.consumed ≤ definition.maxReadBytes

theorem turn_withinLimits {definition : SantaLogDefinition}
    {coming : List UInt8} {progress next : Progress}
    (more : progress.events.length < definition.maxEventsPerRun)
    (taken : turn library definition deviceId coming progress = .taken next) :
    WithinLimits definition next := by
  obtain ⟨line, _, within, passes⟩ := turn_passes taken
  have few : (eventsOf library deviceId [line]).length ≤ 1 :=
    List.length_filterMap_le ..
  have consumed := passes.consumed
  simp only [List.flatten_singleton] at consumed
  constructor
  · rw [passes.events, List.length_append]
    omega
  · omega

/-- One turn of the loop, without the proof it carries for termination. -/
theorem readLines_turn {definition : SantaLogDefinition}
    {bytes : Nat → Except String (List UInt8)} {count : Nat}
    {progress : Progress} {content : List UInt8}
    (more : progress.events.length < definition.maxEventsPerRun)
    (found : bytes count = .ok content) :
    readLines library definition deviceId bytes count progress =
      match turn library definition deviceId
          (content.drop progress.position) progress with
      | .stop => .ok progress
      | .failed failure => .error failure
      | .taken next =>
          readLines library definition deviceId bytes (count + 1) next := by
  rw [readLines]
  simp only [more, if_true, found]
  split <;> rename_i outcome <;> simp only [outcome]

/-- A read that returns has passed whole lines of the log, in order. -/
theorem readLines_passes {definition : SantaLogDefinition}
    {bytes : Nat → Except String (List UInt8)} {whole : List UInt8}
    (seen : ∀ count content, bytes count = .ok content → content <+: whole)
    {count : Nat} {progress final : Progress}
    (start : WithinLimits definition progress)
    (done : readLines library definition deviceId bytes count progress =
      .ok final) :
    ∃ lines, (∀ line ∈ lines, line.length ≤ definition.maxLineBytes) ∧
      Passes library deviceId (whole.drop progress.position) lines
        progress final ∧ WithinLimits definition final := by
  induction count, progress using readLines.induct library definition deviceId
      bytes with
  | case1 count progress more message failed =>
      rw [readLines] at done
      simp [more, failed] at done
  | case2 count progress more content found stopped =>
      rw [readLines_turn more found, stopped] at done
      cases done
      exact ⟨[], by simp, .none, start⟩
  | case3 count progress more content found failure failed =>
      rw [readLines_turn more found, failed] at done
      cases done
  | case4 count progress more content found next taken induction =>
      rw [readLines_turn more found, taken] at done
      obtain ⟨line, short, _, passes⟩ := turn_passes taken
      obtain ⟨lines, allShort, later, limits⟩ :=
        induction (turn_withinLimits more taken) done
      have first : Passes library deviceId (whole.drop progress.position) [line]
          progress next :=
        { passes with
          within := passes.within.trans
            (List.IsPrefix.drop (seen _ _ found) _) }
      refine ⟨[line] ++ lines, ?_, first.trans ?_, limits⟩
      · intro other member
        rcases List.mem_cons.mp member with rfl | inLater
        · exact short
        · exact allShort other inLater
      · rw [List.drop_drop, ← first.position]
        exact later
  | case5 count progress full =>
      rw [readLines] at done
      simp only [full, if_false] at done
      cases done
      exact ⟨[], by simp, .none, start⟩

theorem read_ok {definition : SantaLogDefinition} {view : FileView}
    {cursor : Option SourceCursor} {batch : SantaReadBatch}
    (done : read library definition deviceId view cursor = .ok batch) :
    ∃ info final, view.opened = .ok info ∧
      readLines library definition deviceId view.bytes 0
        (.begin (startOffset info cursor)) = .ok final ∧
      batch.events = final.events ∧ batch.rejectedLines = final.rejected ∧
      batch.cursor = ⟨info.device, info.inode, final.position⟩ := by
  unfold read at done
  split at done
  · cases done
  · cases done
  split at done
  · cases done
  split at done
  · cases done
  split at done
  · cases done
  rename_i info found
  split at done
  · cases done
  cases finished : readLines library definition deviceId view.bytes 0
      (.begin (startOffset info cursor)) with
  | error failure =>
      rw [finished] at done
      cases done
  | ok final =>
      rw [finished] at done
      cases done
      exact ⟨info, final, found, finished, rfl, rfl, rfl⟩

/-! ## A log at rest -/

def regularFile (device inode : Nat) (content : List UInt8) : FileInfo where
  device := device
  inode := inode
  size := content.length
  kind := .regular
  sharedWrite := false

/-- A log that is there to be read, and that nothing is appended to. -/
def steady (device inode : Nat) (content : List UInt8) : FileView where
  lstat := .ok (regularFile device inode content)
  opened := .ok (regularFile device inode content)
  bytes _ := .ok content

theorem read_steady {definition : SantaLogDefinition} {device inode : Nat}
    {content : List UInt8} (cursor : Option SourceCursor) :
    read library definition deviceId (steady device inode content) cursor =
      (readLines library definition deviceId (fun _ => .ok content) 0
        (.begin (startOffset (regularFile device inode content) cursor))).map
        fun progress =>
          ⟨progress.events, progress.rejected, device, inode,
            progress.position⟩ := by
  simp [read, steady, regularFile]

theorem Progress.begin_more {definition : SantaLogDefinition}
    {position : Nat} :
    (Progress.begin position).events.length < definition.maxEventsPerRun :=
  definition.eventsAdmitted.1

/-- The defaults of the definition. -/
def santaDefaults : SantaLogDefinition where
  enabled := false
  logPath := "/var/db/santa/santa.log"
  maxEventsPerRun := 500
  maxLineBytes := 131072
  maxReadBytes := 2000000
  eventsAdmitted := by decide
  lineAdmitted := by decide
  readAdmitted := by decide
  pathAdmitted := by decide

/-- The library on lines none of which is JSON. -/
def noJson : Library where
  loads _ := .error (.value "Expecting value")
  casefold text := text
  fromIsoFormat _ := none
  isTrue _ := true

/-- A line of this many blanks. -/
def blankLine (blanks : Nat) : List UInt8 :=
  List.replicate blanks 32 ++ [newline]

@[simp]
theorem length_blankLine (blanks : Nat) :
    (blankLine blanks).length = blanks + 1 := by
  simp [blankLine]

theorem isLine_blankLine (blanks : Nat) : IsLine newline (blankLine blanks) := by
  refine ⟨List.replicate blanks 32, ?_, rfl⟩
  intro member
  have same := List.eq_of_mem_replicate member
  simp [newline] at same

/-- A read of one line that is rejected. -/
theorem read_blankLine :
    read noJson santaDefaults "mac" (steady 1 2 (blankLine 1)) none =
      .ok ⟨[], 1, ⟨1, 2, 2⟩⟩ := by
  have first : turn noJson santaDefaults "mac" (blankLine 1) (.begin 0) =
      .taken ⟨[], 1, 2, 2⟩ :=
    rfl
  have second : turn noJson santaDefaults "mac" [] ⟨[], 1, 2, 2⟩ = .stop := rfl
  rw [read_steady, readLines_turn Progress.begin_more rfl]
  simp only [startOffset, Progress.begin, List.drop_zero] at first ⊢
  simp only [first]
  rw [readLines_turn (by decide) rfl]
  have nothing : (blankLine 1).drop 2 = [] := rfl
  simp only [nothing, second]
  rfl

/-! ## A growing log -/

/-- The file of the log, and the cursor the last read has returned. -/
structure LogState where
  content : List UInt8
  cursor : Option SourceCursor

inductive LogLabel where
  | append (bytes : List UInt8)
  | read (start : Nat) (batch : SantaReadBatch)
  | refused (failure : ReadFailure)

/-- A read meets one file, which only grows while it is read. -/
structure Sees (device inode : Nat) (before after : List UInt8)
    (view : FileView) : Prop where
  opened : ∀ info, view.opened = .ok info →
    info.device = device ∧ info.inode = inode ∧
      before.length ≤ info.size ∧ info.size ≤ after.length
  bytes : ∀ count content, view.bytes count = .ok content →
    before <+: content ∧ content <+: after

variable (library) (deviceId) in
/-- Appends and reads.  A read starts from the cursor the last one returned,
and one that raises returns none. -/
inductive LogStep (definition : SantaLogDefinition) (device inode : Nat) :
    LogState → LogLabel → LogState → Prop
  | append {state : LogState} (bytes : List UInt8) :
      LogStep definition device inode state (.append bytes)
        { state with content := state.content ++ bytes }
  | read {state : LogState} {content : List UInt8} {view : FileView}
      {info : FileInfo} {batch : SantaReadBatch}
      (grown : state.content <+: content)
      (seen : Sees device inode state.content content view)
      (opened : view.opened = .ok info)
      (done : read library definition deviceId view state.cursor = .ok batch) :
      LogStep definition device inode state
        (.read (startOffset info state.cursor) batch)
        ⟨content, some batch.cursor⟩
  | refused {state : LogState} {content : List UInt8} {view : FileView}
      {failure : ReadFailure}
      (grown : state.content <+: content)
      (seen : Sees device inode state.content content view)
      (failed : read library definition deviceId view state.cursor =
        .error failure) :
      LogStep definition device inode state (.refused failure)
        { state with content := content }

variable (library) (deviceId) in
/-- The log of one file, before any read of it. -/
def santaLog (definition : SantaLogDefinition) (device inode : Nat) :
    TransitionSystem LogState LogLabel where
  initial state := state.cursor = none
  step := LogStep library deviceId definition device inode

/-- The reads of a run, each with the offset it started from. -/
def readsOf (labels : List LogLabel) : List (Nat × SantaReadBatch) :=
  labels.filterMap fun
    | .read start batch => some (start, batch)
    | _ => none

/-- The bytes a read has passed. -/
def consumedRange (content : List UInt8) (reading : Nat × SantaReadBatch) :
    List UInt8 :=
  (content.drop reading.1).take (reading.2.cursor.byteOffset - reading.1)

/-- An offset at the end of the first complete lines. -/
def AtLineEnd (content : List UInt8) (offset : Nat) : Prop :=
  ∃ lines, lines <+: completeLines newline content ∧
    offset = lines.flatten.length

theorem AtLineEnd.le_length {content : List UInt8} {offset : Nat}
    (atEnd : AtLineEnd content offset) : offset ≤ content.length := by
  obtain ⟨lines, first, rfl⟩ := atEnd
  exact (flatten_first first).length_le

theorem AtLineEnd.mono {content more : List UInt8} {offset : Nat}
    (grown : content <+: more) (atEnd : AtLineEnd content offset) :
    AtLineEnd more offset := by
  obtain ⟨lines, first, rfl⟩ := atEnd
  exact ⟨lines, first.trans (completeLines_mono grown), rfl⟩

theorem consumedRange_grown {content more : List UInt8}
    {reading : Nat × SantaReadBatch} (grown : content <+: more)
    (within : reading.2.cursor.byteOffset ≤ content.length) :
    consumedRange more reading = consumedRange content reading := by
  obtain ⟨rest, rfl⟩ := grown
  simp only [consumedRange, List.drop_append]
  rw [List.take_append_of_le_length]
  rw [List.length_drop]
  omega

variable (library) (deviceId) in
/-- What one read has made of the lines it has passed. -/
structure Took (definition : SantaLogDefinition) (content : List UInt8)
    (reading : Nat × SantaReadBatch) (lines : List (List UInt8)) : Prop where
  range : consumedRange content reading = lines.flatten
  events : reading.2.events = eventsOf library deviceId lines
  rejected : reading.2.rejectedLines =
    lines.countP (isRejected library deviceId)
  fewEvents : reading.2.events.length ≤ definition.maxEventsPerRun
  fewBytes : lines.flatten.length ≤ definition.maxReadBytes
  short : ∀ line ∈ lines, line.length ≤ definition.maxLineBytes
  atLineEnd : AtLineEnd content reading.2.cursor.byteOffset

theorem Took.mono {definition : SantaLogDefinition} {content more : List UInt8}
    {reading : Nat × SantaReadBatch} {lines : List (List UInt8)}
    (grown : content <+: more)
    (took : Took library deviceId definition content reading lines) :
    Took library deviceId definition more reading lines :=
  { took with
    range := (consumedRange_grown grown took.atLineEnd.le_length).trans took.range
    atLineEnd := took.atLineEnd.mono grown }

variable (library) (deviceId) in
/-- The reads so far have taken the first complete lines, and the cursor stands
behind them. -/
structure Consumed (definition : SantaLogDefinition) (device inode : Nat)
    (labels : List LogLabel) (state : LogState)
    (taken : List (List (List UInt8))) : Prop where
  reads : List.Forall₂ (Took library deviceId definition state.content)
    (readsOf labels) taken
  first : taken.flatten <+: completeLines newline state.content
  fresh : state.cursor = none → taken.flatten = []
  behind : ∀ cursor, state.cursor = some cursor →
    cursor = ⟨device, inode, taken.flatten.flatten.length⟩

section Steps

variable {definition : SantaLogDefinition} {device inode : Nat}
  {labels : List LogLabel} {state : LogState} {taken : List (List (List UInt8))}

theorem Consumed.grow {content : List UInt8} {label : LogLabel}
    (consumed : Consumed library deviceId definition device inode labels state
      taken)
    (grown : state.content <+: content) (noRead : readsOf [label] = []) :
    Consumed library deviceId definition device inode (labels ++ [label])
      { state with content := content } taken where
  reads := by
    have same : readsOf (labels ++ [label]) = readsOf labels := by
      unfold readsOf at noRead ⊢
      rw [List.filterMap_append, noRead, List.append_nil]
    rw [same]
    exact consumed.reads.imp fun _ _ took => took.mono grown
  first := consumed.first.trans (completeLines_mono grown)
  fresh := consumed.fresh
  behind := consumed.behind

/-- A read starts where the lines end that have been taken. -/
theorem Consumed.startOffset_eq {info : FileInfo}
    (consumed : Consumed library deviceId definition device inode labels state
      taken)
    (sameFile : info.device = device ∧ info.inode = inode)
    (size : state.content.length ≤ info.size) :
    startOffset info state.cursor = taken.flatten.flatten.length := by
  cases isCursor : state.cursor with
  | none => simp [startOffset, consumed.fresh isCursor]
  | some cursor =>
      rw [consumed.behind cursor isCursor]
      have within := (flatten_first consumed.first).length_le
      simp only [startOffset, sameFile, true_and]
      rw [if_pos (by omega)]

theorem Consumed.read {content : List UInt8} {view : FileView}
    {info : FileInfo} {batch : SantaReadBatch}
    (consumed : Consumed library deviceId definition device inode labels state
      taken)
    (grown : state.content <+: content)
    (seen : Sees device inode state.content content view)
    (opened : view.opened = .ok info)
    (done : Santa.read library definition deviceId view state.cursor =
      .ok batch) :
    ∃ lines, Consumed library deviceId definition device inode
      (labels ++ [.read (startOffset info state.cursor) batch])
      ⟨content, some batch.cursor⟩ (taken ++ [lines]) := by
  obtain ⟨sameDevice, sameInode, size, _⟩ := seen.opened info opened
  have start := consumed.startOffset_eq ⟨sameDevice, sameInode⟩ size
  obtain ⟨other, final, alsoOpened, finished, events, rejected, cursor⟩ :=
    read_ok done
  obtain rfl : info = other := Except.ok.inj (opened.symm.trans alsoOpened)
  have limits : WithinLimits definition
      (.begin (startOffset info state.cursor)) :=
    ⟨Nat.zero_le _, Nat.zero_le _⟩
  obtain ⟨lines, short, passes, few, bytes⟩ :=
    readLines_passes (fun count content found => (seen.bytes count content found).2)
      limits finished
  have position : final.position =
      taken.flatten.flatten.length + lines.flatten.length := by
    rw [passes.position]
    simp only [Progress.begin]
    rw [start]
  have first : taken.flatten ++ lines <+: completeLines newline content := by
    simp only [Progress.begin] at passes
    rw [start] at passes
    exact passes.behind (consumed.first.trans (completeLines_mono grown))
  have took : Took library deviceId definition content
      (startOffset info state.cursor, batch) lines := {
    range := by
      have within := List.prefix_iff_eq_take.mp passes.within
      simp only [consumedRange, cursor, position, start,
        Nat.add_sub_cancel_left]
      rw [← start]
      exact within.symm
    events := by
      rw [events, passes.events]
      rfl
    rejected := by
      rw [rejected, passes.rejected]
      exact Nat.zero_add _
    fewEvents := by
      rw [events]
      exact few
    fewBytes := by
      have total := passes.consumed
      simp only [Progress.begin, Nat.zero_add] at total
      omega
    short := short
    atLineEnd := by
      refine ⟨taken.flatten ++ lines, first, ?_⟩
      rw [cursor, List.flatten_append, List.length_append]
      exact position }
  refine ⟨lines, ?_, ?_, by simp, ?_⟩
  · rw [readsOf, List.filterMap_append]
    exact List.rel_append (consumed.reads.imp fun _ _ took => took.mono grown)
      (.cons took .nil)
  · simpa using first
  · rintro found ⟨⟩
    rw [cursor, position, sameDevice, sameInode]
    simp

theorem consumed_step {label : LogLabel} {next : LogState}
    (holds : ∃ taken, Consumed library deviceId definition device inode labels
      state taken)
    (step : LogStep library deviceId definition device inode state label next) :
    ∃ taken, Consumed library deviceId definition device inode
      (labels ++ [label]) next taken := by
  obtain ⟨taken, consumed⟩ := holds
  cases step with
  | append bytes =>
      exact ⟨taken, consumed.grow (List.prefix_append ..) rfl⟩
  | read grown seen opened done =>
      obtain ⟨lines, next⟩ := consumed.read grown seen opened done
      exact ⟨taken ++ [lines], next⟩
  | refused grown seen failed => exact ⟨taken, consumed.grow grown rfl⟩

theorem consumedRanges_eq {content : List UInt8}
    {readings : List (Nat × SantaReadBatch)}
    (reads : List.Forall₂ (Took library deviceId definition content)
      readings taken) :
    readings.map (consumedRange content) = taken.map List.flatten := by
  induction reads with
  | nil => rfl
  | cons took _ induction =>
      rw [List.map_cons, took.range, induction, List.map_cons]

/-- Whatever is appended and however the reads fall between, the lines that
the reads have taken are the first complete lines, each in one read. -/
theorem reads_take_each_line_once {start state : LogState}
    (fresh : (santaLog library deviceId definition device inode).initial start)
    (run : (santaLog library deviceId definition device inode).Run start labels
      state) :
    ∃ taken, List.Forall₂ (Took library deviceId definition state.content)
        (readsOf labels) taken ∧
      taken.flatten <+: completeLines newline state.content ∧
      ((readsOf labels).map (consumedRange state.content)).flatten =
        taken.flatten.flatten := by
  have base : ∃ taken, Consumed library deviceId definition device inode []
      start taken := by
    refine ⟨[], .nil, List.nil_prefix, fun _ => rfl, ?_⟩
    intro cursor isCursor
    rw [fresh] at isCursor
    cases isCursor
  obtain ⟨taken, consumed⟩ :=
    @TransitionSystem.RunWhere.historyInvariant _ _ _ _
      (fun labels state => ∃ taken,
        Consumed library deviceId definition device inode labels state taken)
      _ base (fun holds _ step => consumed_step holds step) _ _ run
  refine ⟨taken, consumed.reads, consumed.first, ?_⟩
  rw [consumedRanges_eq consumed.reads, List.flatten_flatten]

theorem reads_take_each_line_once_appended :
    ∃ taken, List.Forall₂ (Took noJson "mac" santaDefaults (blankLine 1))
        (readsOf [.append (blankLine 1), .read 0 ⟨[], 1, ⟨1, 2, 2⟩⟩]) taken ∧
      taken.flatten <+: completeLines newline (blankLine 1) ∧
      ((readsOf [.append (blankLine 1), .read 0 ⟨[], 1, ⟨1, 2, 2⟩⟩]).map
        (consumedRange (blankLine 1))).flatten = taken.flatten.flatten := by
  have appended : (santaLog noJson "mac" santaDefaults 1 2).Run ⟨[], none⟩
      [.append (blankLine 1)] ⟨blankLine 1, none⟩ :=
    .snoc .nil trivial (.append (blankLine 1))
  have seen : Sees 1 2 (blankLine 1) (blankLine 1)
      (steady 1 2 (blankLine 1)) := by
    constructor
    · rintro info ⟨⟩
      exact ⟨rfl, rfl, le_rfl, le_rfl⟩
    · rintro count content ⟨⟩
      exact ⟨List.prefix_rfl, List.prefix_rfl⟩
  have run : (santaLog noJson "mac" santaDefaults 1 2).Run ⟨[], none⟩
      ([.append (blankLine 1)] ++ [.read 0 ⟨[], 1, ⟨1, 2, 2⟩⟩])
      ⟨blankLine 1, some ⟨1, 2, 2⟩⟩ :=
    .snoc appended trivial (.read List.prefix_rfl seen rfl read_blankLine)
  have start : (santaLog noJson "mac" santaDefaults 1 2).initial ⟨[], none⟩ :=
    rfl
  exact reads_take_each_line_once start run

end Steps

end Santa

end Telemetry

end ControlForge
