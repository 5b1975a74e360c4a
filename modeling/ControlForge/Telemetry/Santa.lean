import ControlForge.Telemetry.Event

/-!
# The Santa log

`SantaJsonLogReader` reads the complete lines of a log from a cursor on.  A line
becomes an event, is left out, or is rejected; the limits of the definition end
a read, and what the log cannot promise raises.
-/

namespace ControlForge

namespace Telemetry

namespace Santa

/-! ## Configuration -/

/-- `SantaLogDefinition`. -/
structure SantaLogDefinition where
  enabled : Bool
  logPath : String
  maxEventsPerRun : Nat
  maxLineBytes : Nat
  maxReadBytes : Nat
  eventsAdmitted : 1 ≤ maxEventsPerRun ∧ maxEventsPerRun ≤ 1000
  lineAdmitted : 1024 ≤ maxLineBytes ∧ maxLineBytes ≤ 1048576
  readAdmitted : 1024 ≤ maxReadBytes ∧ maxReadBytes ≤ 8000000
  pathAdmitted : enabled = true → logPath.toList.head? = some '/'

structure SourceCursor where
  device : Nat
  inode : Nat
  byteOffset : Nat
deriving DecidableEq

structure SantaReadBatch where
  events : List SecurityEvent
  rejectedLines : Nat
  cursor : SourceCursor

/-- What a read raises. -/
inductive ReadFailure where
  | santaLog (message : String)
  | os (message : String)
  | other (message : String)
deriving DecidableEq

/-! ## Records -/

/-- Why a line is no event: an error of its content, which the reader counts, or
one that it does not catch. -/
inductive LineFailure where
  | value (message : String)
  | other (message : String)
deriving DecidableEq

/-- The functions of the standard library a line goes through. -/
structure Library where
  /-- `json.loads(line.decode("utf-8"))`. -/
  loads : List UInt8 → Except LineFailure Json
  casefold : String → String
  /-- `datetime.fromisoformat`. -/
  fromIsoFormat : String → Option EventTime
  /-- `bool` of a float. -/
  isTrue : FloatText → Bool

/-- `_mapping`. -/
def mapping : Json → List (String × Json)
  | .obj members => members
  | _ => []

/-- `dict.get`. -/
def get (members : List (String × Json)) (key : String) : Json :=
  (members.lookup key).getD .null

/-- `_text`. -/
def text (maximum : Nat) : Json → String
  | .str value => String.ofList (value.toList.take maximum)
  | _ => ""

/-- `_nested_text`. -/
def nestedText (maximum : Nat) (value : Json) (keys : List String) : String :=
  text maximum (keys.foldl (fun current key => get (mapping current) key) value)

section Lines

variable (library : Library)

/-- `bool`. -/
def truth : Json → Bool
  | .null => false
  | .bool value => value
  | .int value => value ≠ 0
  | .float value => library.isTrue value
  | .str value => value ≠ ""
  | .arr items => !items.isEmpty
  | .obj members => !members.isEmpty

/-- The parts of an RFC 3339 text: the seconds, the digits of the fraction, and
the zone. -/
def timestampParts (characters : List Char) :
    Option (List Char × List Char × List Char) :=
  let shape := "dddd-dd-ddTdd:dd:dd".toList
  let matched (pattern character : Char) : Bool :=
    if pattern = 'd' then character.isDigit else character = pattern
  let secondsPart := characters.take 19
  let rest := characters.drop 19
  if secondsPart.length = 19 ∧
      (List.zipWith matched shape secondsPart).all id = true then
    let (fraction, zone) :=
      match rest with
      | '.' :: digits =>
          (some (digits.takeWhile Char.isDigit),
            digits.dropWhile Char.isDigit)
      | _ => (none, rest)
    let isFraction := fraction.all fun digits =>
      1 ≤ digits.length && digits.length ≤ 9
    let isZone := zone = ['Z'] || zone.length = 6 &&
      (zone.head? = some '+' || zone.head? = some '-') &&
        (List.zipWith matched "dd:dd".toList zone.tail).all id
    if isFraction && isZone then
      some (secondsPart, fraction.getD [], zone)
    else none
  else none

/-- `_parse_timestamp`. -/
def parseTimestamp (value : Json) : Except LineFailure EventTime :=
  match timestampParts (text 40 value).toList with
  | none => .error (.value "Santa event_time must be an RFC 3339 timestamp")
  | some (secondsPart, fraction, zone) =>
      let micros := fraction.take 6 ++
        List.replicate (6 - (fraction.take 6).length) '0'
      let normalized := if fraction = [] then [] else '.' :: micros
      let suffix := if zone = ['Z'] then "+00:00".toList else zone
      match library.fromIsoFormat
          (String.ofList (secondsPart ++ normalized ++ suffix)) with
      | some time => .ok time
      | none => .error (.value "Invalid isoformat string")

/-- `Path(...).name`. -/
def pathName (path : String) : String :=
  ((path.splitOn "/").filter fun part => part ≠ "" ∧ part ≠ ".").getLast?.getD ""

/-- `_EVENT_TYPES`. -/
inductive EventKey where
  | execution
  | fileAccess
  | gatekeeperOverride
  | launchItem
  | tccModification
  | xprotect
deriving DecidableEq

def EventKey.name : EventKey → String
  | .execution => "execution"
  | .fileAccess => "file_access"
  | .gatekeeperOverride => "gatekeeper_override"
  | .launchItem => "launch_item"
  | .tccModification => "tcc_modification"
  | .xprotect => "xprotect"

def EventKey.eventType (key : EventKey) : String :=
  "santa_" ++ key.name

def eventKeys : List EventKey :=
  [.execution, .fileAccess, .gatekeeperOverride, .launchItem, .tccModification,
    .xprotect]

def isMapping : Json → Bool
  | .obj _ => true
  | _ => false

/-- The record of an XProtect event: what was detected, else what was
remediated. -/
def xprotectPayload (payload : Json) : Json :=
  let detected := get (mapping payload) "detected"
  if (mapping detected).isEmpty then get (mapping payload) "remediated"
  else detected

/-- The process behind a record. -/
def processOf (key : EventKey) (payload : Json) : Json :=
  match key with
  | .execution => get (mapping payload) "target"
  | .xprotect => get (mapping (xprotectPayload payload)) "instigator"
  | _ => get (mapping payload) "instigator"

/-- The attributes of every record. -/
def commonAttributes (payload process : Json) : List (String × Json) :=
  let executable := get (mapping process) "executable"
  let codeSignature := get (mapping process) "code_signature"
  let processPath := text 2048 (get (mapping executable) "path")
  [("source", .str "north-pole-security-santa"),
    ("process_path", .str processPath),
    ("process_name", .str (pathName processPath)),
    ("parent_process_path",
      .str (nestedText 2048 payload ["instigator", "executable", "path"])),
    ("file_sha256", .str (nestedText 64 executable ["hash", "hash"])),
    ("signing_id", .str (text 256 (get (mapping codeSignature) "signing_id"))),
    ("team_id", .str (text 32 (get (mapping codeSignature) "team_id"))),
    ("is_platform_binary",
      .bool (truth library (get (mapping process) "is_platform_binary")))]

/-- A text attribute under the name of the member it is read from. -/
def named (payload : Json) (maximum : Nat) (name : String) : String × Json :=
  (name, .str (text maximum (get (mapping payload) name)))

/-- The attributes of one kind of record, and its target. -/
def specificAttributes (key : EventKey) (payload process : Json) :
    List (String × Json) × String :=
  let executable := get (mapping process) "executable"
  let processPath := text 2048 (get (mapping executable) "path")
  match key with
  | .execution =>
      ([named payload 64 "decision", named payload 64 "reason",
        named payload 64 "mode",
        ("static_rule",
          .bool (truth library (get (mapping payload) "static_rule")))],
        processPath)
  | .fileAccess =>
      let target := nestedText 2048 payload ["target", "path"]
      ([("target_path", .str target), named payload 256 "policy_name",
        named payload 128 "policy_version", named payload 64 "access_type",
        named payload 64 "policy_decision"], target)
  | .gatekeeperOverride =>
      let target := nestedText 2048 payload ["target", "path"]
      let signature := get (mapping payload) "code_signature"
      ([("target_path", .str target),
        ("target_signing_id",
          .str (text 256 (get (mapping signature) "signing_id"))),
        ("target_team_id",
          .str (text 32 (get (mapping signature) "team_id")))], target)
  | .launchItem =>
      let itemPath := text 2048 (get (mapping payload) "item_path")
      let executablePath := text 2048 (get (mapping payload) "executable_path")
      ([named payload 64 "action", named payload 64 "item_type",
        named payload 2048 "item_path", named payload 2048 "app_path",
        named payload 2048 "executable_path",
        ("managed", .bool (truth library (get (mapping payload) "managed")))],
        if itemPath = "" then executablePath else itemPath)
  | .tccModification =>
      let target := text 512 (get (mapping payload) "identity")
      ([named payload 256 "service", ("identity", .str target),
        named payload 64 "identity_type", named payload 64 "event_type",
        named payload 64 "authorization_right",
        named payload 64 "authorization_reason"], target)
  | .xprotect =>
      let variant :=
        if isMapping (get (mapping payload) "detected") then "detected"
        else "remediated"
      let record := get (mapping payload) variant
      let target := text 2048 (get (mapping record) (variant ++ "_path"))
      ([("xprotect_event", .str variant), named record 128 "signature_version",
        named record 256 "malware_identifier",
        named record 256 "incident_identifier", named record 128 "action_type",
        ("remediation_success",
          .bool (truth library (get (mapping record) "success"))),
        ("target_path", .str target)], target)

/-- The attributes of an event of the log. -/
def attributes (key : EventKey) (payload process : Json)
    (eventId bootSession : String) : Dict where
  members := commonAttributes library payload process ++
    (specificAttributes library key payload process).1 ++
    [("santa_event_id", .str eventId),
      ("santa_boot_session_uuid", .str bootSession)]
  wellFormed := by
    cases key <;>
      simp [commonAttributes, specificAttributes, named, Json.WellFormed,
        Json.WellFormedMembers]

/-- `_parse_line`. -/
def parseLine (deviceId : String) (line : List UInt8) :
    Except LineFailure (Option SecurityEvent) := do
  match ← library.loads line with
  | .obj raw =>
      let eventId := library.casefold (text 32 (get raw "event_id"))
      if eventId.length ≠ 32 ∨
          ¬ eventId.toList.all ("0123456789abcdef".toList.contains ·) then
        throw (.value
          "Santa event_id must be a 32-character hexadecimal identifier")
      let occurredAt ← parseTimestamp library (get raw "event_time")
      match eventKeys.find? fun key => isMapping (get raw key.name) with
      | none => return none
      | some key =>
          let payload := get raw key.name
          let process := processOf key payload
          let actorName := nestedText 320 process ["effective_user", "name"]
          let target := (specificAttributes library key payload process).2
          return some {
            eventId := "santa:" ++ eventId
            eventType := key.eventType
            timestamp := occurredAt
            actor :=
              if actorName = "" then "device:" ++ deviceId
              else "user:" ++ actorName
            sourceIp := none
            target := if target = "" then none else some target
            deviceId := some deviceId
            attributes := attributes library key payload process eventId
              (text 64 (get raw "boot_session_uuid")) }
  | _ => throw (.value "Santa JSON record must be an object")

/-! ## Reading -/

inductive FileKind where
  | regular
  | link
  | other
deriving DecidableEq

/-- The part of `os.stat_result` a read looks at; `sharedWrite` is
`st_mode & 0o022`. -/
structure FileInfo where
  device : Nat
  inode : Nat
  size : Nat
  kind : FileKind
  sharedWrite : Bool

inductive PathFailure where
  | notFound
  | os (message : String)

/-- What a read meets: the file of its path, the file it then opens, and the
bytes of that file at each `readline`. -/
structure FileView where
  lstat : Except PathFailure FileInfo
  opened : Except String FileInfo
  bytes : Nat → Except String (List UInt8)

def newline : UInt8 := 10

/-- `readline` of a stream with these bytes to come. -/
def readline : Nat → List UInt8 → List UInt8
  | 0, _ => []
  | _ + 1, [] => []
  | limit + 1, byte :: rest =>
      if byte = newline then [byte] else byte :: readline limit rest

/-- The local variables of the loop, and where the stream stands. -/
structure Progress where
  events : List SecurityEvent
  rejected : Nat
  consumed : Nat
  position : Nat

def Progress.begin (position : Nat) : Progress where
  events := []
  rejected := 0
  consumed := 0
  position := position

/-- The loop is behind a line of this length. -/
def Progress.past (progress : Progress) (length : Nat) : Progress :=
  { progress with
    consumed := progress.consumed + length
    position := progress.position + length }

/-- What one turn of the loop comes to. -/
inductive Turn where
  | stop
  | failed (failure : ReadFailure)
  | taken (progress : Progress)

/-- A complete line within the limits is parsed and passed. -/
def take (deviceId : String) (line : List UInt8) (progress : Progress) : Turn :=
  let moved := progress.past line.length
  match parseLine library deviceId line with
  | .error (.value _) => .taken { moved with rejected := moved.rejected + 1 }
  | .error (.other message) => .failed (.other message)
  | .ok none => .taken moved
  | .ok (some event) => .taken { moved with events := moved.events ++ [event] }

/-- The body of the loop on the bytes to come.  A turn that stops leaves the
stream at the start of the line. -/
def turn (definition : SantaLogDefinition) (deviceId : String)
    (coming : List UInt8) (progress : Progress) : Turn :=
  let line := readline (definition.maxLineBytes + 1) coming
  if line = [] then .stop
  else if definition.maxLineBytes < line.length then
    .failed (.santaLog "Santa JSON telemetry line exceeds the configured limit")
  else if line.getLast? ≠ some newline then .stop
  else if definition.maxReadBytes < progress.consumed + line.length then .stop
  else take library deviceId line progress

theorem take_taken {deviceId : String} {line : List UInt8}
    {progress next : Progress}
    (taken : take library deviceId line progress = .taken next) :
    next.consumed = progress.consumed + line.length ∧
      next.position = progress.position + line.length := by
  unfold take at taken
  split at taken <;> simp at taken <;> subst taken <;> simp [Progress.past]

/-- A turn goes on behind one complete line, within the limits of the read. -/
theorem turn_taken {definition : SantaLogDefinition} {deviceId : String}
    {coming : List UInt8} {progress next : Progress}
    (taken : turn library definition deviceId coming progress = .taken next) :
    ∃ line, line = readline (definition.maxLineBytes + 1) coming ∧
      line ≠ [] ∧ line.length ≤ definition.maxLineBytes ∧
      line.getLast? = some newline ∧
      progress.consumed + line.length ≤ definition.maxReadBytes ∧
      take library deviceId line progress = .taken next := by
  unfold turn at taken
  simp only at taken
  split at taken
  · cases taken
  split at taken
  · cases taken
  split at taken
  · cases taken
  split at taken
  · cases taken
  exact ⟨_, rfl, by assumption, by omega, not_not.mp (by assumption),
    by omega, taken⟩

/-- The loop of `read`, from this turn on. -/
def readLines (definition : SantaLogDefinition) (deviceId : String)
    (bytes : Nat → Except String (List UInt8)) (count : Nat)
    (progress : Progress) : Except ReadFailure Progress :=
  if progress.events.length < definition.maxEventsPerRun then
    match bytes count with
    | .error message => .error (.os message)
    | .ok content =>
        match _ : turn library definition deviceId
            (content.drop progress.position) progress with
        | .stop => .ok progress
        | .failed failure => .error failure
        | .taken next => readLines definition deviceId bytes (count + 1) next
  else .ok progress
termination_by definition.maxReadBytes - progress.consumed
decreasing_by
  obtain ⟨line, _, nonempty, _, _, within, taken⟩ := turn_taken library ‹_›
  have advanced := (take_taken library taken).1
  have positive := List.length_pos_of_ne_nil nonempty
  omega

/-- Where a read starts: at its cursor, when that is one of the open file. -/
def startOffset (info : FileInfo) : Option SourceCursor → Nat
  | some cursor =>
      if cursor.device = info.device ∧ cursor.inode = info.inode ∧
          cursor.byteOffset ≤ info.size then
        cursor.byteOffset
      else 0
  | none => 0

/-- `SantaJsonLogReader.read`. -/
def read (definition : SantaLogDefinition) (deviceId : String)
    (view : FileView) (cursor : Option SourceCursor) :
    Except ReadFailure SantaReadBatch :=
  match view.lstat with
  | .error .notFound =>
      .error (.santaLog "Santa JSON telemetry file is unavailable")
  | .error (.os message) => .error (.os message)
  | .ok pathInfo =>
      if pathInfo.kind ≠ .regular then
        .error (.santaLog "Santa JSON telemetry path must be a regular file")
      else if pathInfo.sharedWrite then
        .error (.santaLog
          "Santa JSON telemetry file must not be group or world writable")
      else
        match view.opened with
        | .error message => .error (.os message)
        | .ok fileInfo =>
            if fileInfo.kind ≠ .regular then
              .error (.santaLog "Santa JSON telemetry changed during open")
            else
              (readLines library definition deviceId view.bytes 0
                (.begin (startOffset fileInfo cursor))).map fun progress => {
                  events := progress.events
                  rejectedLines := progress.rejected
                  cursor := {
                    device := fileInfo.device
                    inode := fileInfo.inode
                    byteOffset := progress.position } }

end Lines

end Santa

end Telemetry

end ControlForge
