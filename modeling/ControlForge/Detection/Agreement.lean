import ControlForge.Detection.Streaming

/-!
# Streaming and history-based detection agree

After a stream of usable events, each detector holds a window of the past or
the last event of a kind.  The history-based correlations filter the same past,
so both find the same.
-/

namespace ControlForge

namespace Detection

variable {F : Type} {library : Library F}

/-- What an event type uses is present and valid. -/
structure Usable (event : SecurityEvent) : Prop where
  bytes : event.eventType = "sensitive_data_access" →
    (byteCount event).isSome = true
  coordinates : event.eventType = "authentication_success" →
    (coordinates event).isSome = true
  address : event.eventType = "edge_auth_failure" ∨
    event.eventType = "edge_session_use" → (sourceAddress event).isSome = true
  session : event.eventType = "edge_session_use" →
    (sessionHash event).isSome = true

def Earlier (left right : SecurityEvent) : Prop :=
  left.timestamp.instant < right.timestamp.instant

/-- Usable events, in strict order of time, with distinct identifiers. -/
structure WellFormedStream (events : List SecurityEvent) : Prop where
  usable : ∀ event ∈ events, Usable event
  ordered : events.Pairwise Earlier
  distinct : (events.map SecurityEvent.eventId).Nodup

/-! ## What the detectors hold -/

def accessSampleOf (library : Library F) (actor : String)
    (item : SecurityEvent) : Option AccessSample :=
  if item.eventType = "sensitive_data_access" ∧ item.actor = actor then
    (byteCount item).map fun bytes =>
      ⟨item.timestamp.instant, bytes.whole library, item.eventId⟩
  else none

def failureSampleOf (address : String) (item : SecurityEvent) :
    Option FailureSample :=
  if item.eventType = "edge_auth_failure" ∧ item.sourceIp = some address then
    some ⟨item.timestamp.instant, item.actor, item.eventId⟩
  else none

def isLoginOf (actor : String) (item : SecurityEvent) : Bool :=
  item.eventType = "authentication_success" ∧ item.actor = actor

def loginOf (item : SecurityEvent) : Option Login :=
  (coordinates item).map fun place =>
    ⟨item.timestamp.instant, place, item.eventId⟩

def isUseOf (hash : String) (item : SecurityEvent) : Bool :=
  item.eventType = "edge_session_use" ∧ sessionText item = some hash

def useOf (item : SecurityEvent) : Option SessionUse :=
  (sourceAddress item).map fun address =>
    ⟨item.timestamp.instant, address, item.actor, item.eventId⟩

/-- An event of the past is later than the time by more than a window. -/
def Expired (past : List SecurityEvent) (window time : Timestamp) : Prop :=
  ∃ item ∈ past, time < item.timestamp.instant - window

/-- The state of each detector after the events of the past. -/
structure BulkTracks (library : Library F) (detector : BulkAccessDetector)
    (past : List SecurityEvent) : Prop where
  thresholds : detector.eventThreshold = 10 ∧
    detector.byteThreshold = 50000000 ∧ detector.window = minutes 15
  windows : ∀ actor, Slides
    (fun sample => Expired past (minutes 15) sample.time)
    (past.filterMap (accessSampleOf library actor)) (detector.history actor)

structure TravelTracks (detector : ImpossibleTravelDetector)
    (past : List SecurityEvent) : Prop where
  threshold : some detector.maximumSpeedKph =
    impossibleTravelSpec.maximumSpeedKph
  last : ∀ actor, detector.previous actor =
    (past.filter (isLoginOf actor)).getLast?.bind loginOf

structure StuffingTracks (detector : CredentialStuffingDetector)
    (past : List SecurityEvent) : Prop where
  thresholds : detector.failureThreshold = 20 ∧
    detector.accountThreshold = 10 ∧ detector.window = minutes 5
  windows : ∀ address, Slides
    (fun sample => Expired past (minutes 5) sample.time)
    (past.filterMap (failureSampleOf address)) (detector.history address)

structure ReplayTracks (detector : SessionReplayDetector)
    (past : List SecurityEvent) : Prop where
  window : detector.window = minutes 10
  last : ∀ hash, detector.previous hash =
    (past.filter (isUseOf hash)).getLast?.bind useOf

structure Tracks (library : Library F) (detectors : StatefulDetectors)
    (past : List SecurityEvent) : Prop where
  bulk : BulkTracks library detectors.bulk past
  travel : TravelTracks detectors.travel past
  stuffing : StuffingTracks detectors.stuffing past
  replay : ReplayTracks detectors.replay past

theorem initial_tracks :
    ∃ detectors, DetectionPipeline.initial = .ok detectors ∧
      Tracks library detectors [] :=
  ⟨_, rfl, ⟨⟨rfl, rfl, rfl⟩, fun _ => .nil⟩, ⟨rfl, fun _ => rfl⟩,
    ⟨⟨rfl, rfl, rfl⟩, fun _ => .nil⟩, ⟨rfl, fun _ => rfl⟩⟩

theorem Expired.concat {past : List SecurityEvent}
    {window time : Timestamp} (expired : Expired past window time)
    (event : SecurityEvent) : Expired (past ++ [event]) window time := by
  obtain ⟨item, member, before⟩ := expired
  exact ⟨item, List.mem_append_left _ member, before⟩

section Arrival

variable {past : List SecurityEvent} {event : SecurityEvent}
  (stream : WellFormedStream (past ++ [event]))

include stream

theorem WellFormedStream.usable_last : Usable event :=
  stream.usable event (List.mem_append_right _ (List.mem_singleton_self _))

theorem WellFormedStream.before {item : SecurityEvent}
    (member : item ∈ past) : Earlier item event := by
  have ordered := stream.ordered
  rw [List.pairwise_append] at ordered
  exact ordered.2.2 item member event (List.mem_singleton_self _)

theorem WellFormedStream.other {item : SecurityEvent}
    (member : item ∈ past) : item.eventId ≠ event.eventId := by
  have distinct := stream.distinct
  rw [List.map_append, List.nodup_append] at distinct
  exact distinct.2.2 _ (List.mem_map_of_mem member) _
    (List.mem_singleton_self _)

/-- Nothing of the past is left out of the history of an event. -/
theorem history_eq :
    collapse SecurityEvent.eventId
        (past.filter (·.eventId ≠ event.eventId)) ++ [event] =
      past ++ [event] := by
  have all : past.filter (·.eventId ≠ event.eventId) = past := by
    apply List.filter_eq_self.mpr
    intro item member
    simpa using stream.other member
  have distinct := stream.distinct
  rw [List.map_append, List.nodup_append] at distinct
  rw [all, collapse_of_distinct distinct.1]

theorem not_later {item : SecurityEvent} (member : item ∈ past ++ [event]) :
    item.timestamp.instant ≤ event.timestamp.instant := by
  rcases List.mem_append.mp member with earlier | last
  · exact Int.le_of_lt (stream.before earlier)
  · rw [List.mem_singleton.mp last]

/-- What has expired for the past is before the window of an event. -/
theorem expired_before {window time : Timestamp}
    (expired : Expired (past ++ [event]) window time) :
    time < event.timestamp.instant - window := by
  obtain ⟨item, member, before⟩ := expired
  exact Int.lt_of_lt_of_le before
    (Int.sub_le_sub_right (not_later stream member) window)

end Arrival

/-! ## Volume of access -/

section Bulk

variable {detector : BulkAccessDetector} {past : List SecurityEvent}
  {event : SecurityEvent} {bytes : Number}

theorem bulk_other (other : event.eventType ≠ "sensitive_data_access") :
    detector.evaluate library event = (none, detector) := by
  rw [BulkAccessDetector.evaluate, if_pos other]

/-- A byte count that is there is read with any default. -/
theorem finiteNumber_getD (counted : byteCount event = some bytes) :
    finiteNumber (event.attributes.getD "bytes" (.int 0)) = some bytes := by
  unfold byteCount Dict.get Dict.getD at counted
  unfold Dict.getD
  cases found : event.attributes.members.lookup "bytes" with
  | none =>
      rw [found] at counted
      cases counted
  | some value =>
      rw [found] at counted
      exact counted

/-- The window of the actor after an event. -/
def bulkWindow (library : Library F) (detector : BulkAccessDetector)
    (event : SecurityEvent) (bytes : Number) : List AccessSample :=
  slide AccessSample.time (event.timestamp.instant - detector.window)
    (detector.history event.actor ++
      [⟨event.timestamp.instant, bytes.whole library, event.eventId⟩])

/-- The alert of a window that reaches a threshold. -/
def bulkReport (library : Library F) (event : SecurityEvent)
    (window : List AccessSample) : Option DetectionAlert :=
  if window.length < 10 ∧ (window.map AccessSample.bytes).sum < 50000000 then
    none
  else some (statefulAlert library event bulkAccessSpec
    ("bulk-sensitive-access:" ++ event.actor)
    [toString window.length ++ " access events within " ++ toString 15 ++ "m",
      toString (window.map AccessSample.bytes).sum ++ " bytes accessed"])

theorem BulkTracks.evaluate (tracks : BulkTracks library detector past)
    (isAccess : event.eventType = "sensitive_data_access")
    (counted : byteCount event = some bytes) :
    detector.evaluate library event =
      (bulkReport library event (bulkWindow library detector event bytes),
        { detector with
          history := Function.update detector.history event.actor
            (bulkWindow library detector event bytes) }) := by
  rw [BulkAccessDetector.evaluate, if_neg (not_not.mpr isAccess),
    finiteNumber_getD counted, isAccess, spec_bulkAccess]
  simp only [bulkWindow, bulkReport, Option.map_some, tracks.thresholds,
    wholeMinutes_minutes]
  split
  · rfl
  · rfl

theorem accessSamples_sorted {past : List SecurityEvent}
    (ordered : past.Pairwise Earlier) (actor : String) :
    (past.filterMap (accessSampleOf library actor)).Pairwise
      fun earlier later => earlier.time ≤ later.time := by
  rw [List.pairwise_filterMap]
  apply ordered.imp
  intro left right earlier leftSample isLeft rightSample isRight
  unfold accessSampleOf at isLeft isRight
  split at isLeft
  · split at isRight
    · obtain ⟨_, -, rfl⟩ := Option.map_eq_some_iff.mp isLeft
      obtain ⟨_, -, rfl⟩ := Option.map_eq_some_iff.mp isRight
      exact Int.le_of_lt earlier
    · cases isRight
  · cases isLeft

/-- The window of the actor of the event is the part of the past within it. -/
theorem BulkTracks.window (tracks : BulkTracks library detector past)
    (stream : WellFormedStream (past ++ [event]))
    (isAccess : event.eventType = "sensitive_data_access")
    (counted : byteCount event = some bytes) :
    bulkWindow library detector event bytes =
      ((past ++ [event]).filterMap
        (accessSampleOf library event.actor)).filter
        fun sample =>
          event.timestamp.instant - minutes 15 ≤ sample.time := by
  have sample : [event].filterMap (accessSampleOf library event.actor) =
      [⟨event.timestamp.instant, bytes.whole library, event.eventId⟩] := by
    simp [accessSampleOf, isAccess, counted]
  have slides := (tracks.windows event.actor).concat
    ⟨event.timestamp.instant, bytes.whole library, event.eventId⟩
  rw [← sample, ← List.filterMap_append] at slides
  unfold bulkWindow
  rw [tracks.thresholds.2.2, ← sample]
  apply slides.slide_eq_filter
  · exact accessSamples_sorted stream.ordered event.actor
  · exact fun sample expired => expired_before stream (expired.concat event)

theorem BulkTracks.step (tracks : BulkTracks library detector past)
    (stream : WellFormedStream (past ++ [event])) :
    BulkTracks library (detector.evaluate library event).2
      (past ++ [event]) := by
  by_cases isAccess : event.eventType = "sensitive_data_access"
  · obtain ⟨bytes, counted⟩ :=
      Option.isSome_iff_exists.mp (stream.usable_last.bytes isAccess)
    rw [tracks.evaluate isAccess counted]
    refine ⟨tracks.thresholds, fun actor => ?_⟩
    by_cases isActor : actor = event.actor
    · simp only [isActor, Function.update_self]
      have sample : [event].filterMap (accessSampleOf library event.actor) =
          [⟨event.timestamp.instant, bytes.whole library, event.eventId⟩] := by
        simp [accessSampleOf, isAccess, counted]
      have slides := (tracks.windows event.actor).concat
        ⟨event.timestamp.instant, bytes.whole library, event.eventId⟩
      rw [← sample, ← List.filterMap_append] at slides
      unfold bulkWindow
      rw [tracks.thresholds.2.2, ← sample]
      apply (slides.mono fun _ expired => expired.concat event).slide
      intro item before
      exact ⟨event, List.mem_append_right _ (List.mem_singleton_self _),
        before⟩
    · simp only [Function.update_of_ne isActor, List.filterMap_append]
      have noSample : [event].filterMap (accessSampleOf library actor) = [] := by
        simp [accessSampleOf, Ne.symm isActor]
      rw [noSample, List.append_nil]
      exact (tracks.windows actor).mono fun _ expired => expired.concat event
  · rw [bulk_other isAccess]
    refine ⟨tracks.thresholds, fun actor => ?_⟩
    have noSample : [event].filterMap (accessSampleOf library actor) = [] := by
      simp [accessSampleOf, isAccess]
    rw [List.filterMap_append, noSample, List.append_nil]
    exact (tracks.windows actor).mono fun _ expired => expired.concat event

/-- The samples of the history are those of the window. -/
theorem accessSamples_eq (stream : WellFormedStream (past ++ [event]))
    (isAccess : event.eventType = "sensitive_data_access")
    (cutoff : Timestamp) :
    ((past ++ [event]).filterMap (accessSample event cutoff)).map
        (·.whole library) =
      (((past ++ [event]).filterMap
        (accessSampleOf library event.actor)).filter
        fun sample => cutoff ≤ sample.time).map AccessSample.bytes := by
  rw [List.map_filterMap, List.filter_filterMap, List.map_filterMap]
  apply List.filterMap_congr
  intro item member
  have notLater := not_later stream member
  unfold accessSample accessSampleOf
  rw [isAccess]
  by_cases sameType : item.eventType = "sensitive_data_access"
  · by_cases sameActor : item.actor = event.actor
    · by_cases before : item.timestamp.instant < cutoff
      · cases byteCount item <;> simp [sameType, sameActor, before]
      · have inside : cutoff ≤ item.timestamp.instant := Int.not_lt.mp before
        have notAfter : ¬item.timestamp.instant > event.timestamp.instant :=
          Int.not_lt.mpr notLater
        cases byteCount item <;>
          simp [sameType, sameActor, before, inside, notAfter]
    · simp [sameActor]
  · simp [sameType]

theorem BulkTracks.alert (tracks : BulkTracks library detector past)
    (stream : WellFormedStream (past ++ [event]))
    (isAccess : event.eventType = "sensitive_data_access") :
    bulkAccessHistory library bulkAccessSpec (past ++ [event]) event =
      .ok (detector.evaluate library event).1.toList := by
  obtain ⟨bytes, counted⟩ :=
    Option.isSome_iff_exists.mp (stream.usable_last.bytes isAccess)
  have samples := @accessSamples_eq _ library past event stream isAccess
    (event.timestamp.instant - minutes 15)
  rw [← tracks.window stream isAccess counted] at samples
  rw [tracks.evaluate isAccess counted]
  unfold bulkAccessHistory bulkReport
  rw [counted]
  simp only [bulkAccessSpec, samples, List.length_map]
  split
  · rfl
  · rfl

end Bulk

/-! ## Credential stuffing -/

section Stuffing

variable {detector : CredentialStuffingDetector} {past : List SecurityEvent}
  {event : SecurityEvent} {address : String}

theorem stuffing_other (other : event.eventType ≠ "edge_auth_failure") :
    detector.evaluate library event = (none, detector) := by
  rw [CredentialStuffingDetector.evaluate, if_pos other]

theorem sourceIp_of_address (addressed : sourceAddress event = some address) :
    event.sourceIp = some address :=
  (Option.filter_eq_some_iff.mp addressed).1

/-- The window of the address after an event. -/
def stuffingWindow (detector : CredentialStuffingDetector)
    (event : SecurityEvent) (address : String) : List FailureSample :=
  slide FailureSample.time (event.timestamp.instant - detector.window)
    (detector.history address ++
      [⟨event.timestamp.instant, event.actor, event.eventId⟩])

/-- The alert of a window that reaches both thresholds. -/
def stuffingReport (library : Library F) (event : SecurityEvent)
    (address : String) (window : List FailureSample) :
    Option DetectionAlert :=
  let accounts := distinctAccounts library.casefold
    (window.map FailureSample.actor)
  if window.length < 20 ∨ accounts < 10 then none
  else some (statefulAlert library event credentialStuffingSpec
    ("credential-stuffing:" ++ address)
    [toString window.length ++ " failed authentications from " ++ address,
      toString accounts ++ " distinct accounts within " ++ toString 5 ++ "m"])

theorem StuffingTracks.evaluate (tracks : StuffingTracks detector past)
    (isFailure : event.eventType = "edge_auth_failure")
    (addressed : sourceAddress event = some address) :
    detector.evaluate library event =
      (stuffingReport library event address
          (stuffingWindow detector event address),
        { detector with
          history := Function.update detector.history address
            (stuffingWindow detector event address) }) := by
  rw [CredentialStuffingDetector.evaluate, if_neg (not_not.mpr isFailure),
    addressed, isFailure, spec_credentialStuffing]
  simp only [stuffingWindow, stuffingReport, Option.map_some,
    tracks.thresholds, wholeMinutes_minutes]
  split
  · rfl
  · rfl

theorem failureSamples_sorted {past : List SecurityEvent}
    (ordered : past.Pairwise Earlier) (address : String) :
    (past.filterMap (failureSampleOf address)).Pairwise
      fun earlier later => earlier.time ≤ later.time := by
  rw [List.pairwise_filterMap]
  apply ordered.imp
  intro left right earlier leftSample isLeft rightSample isRight
  unfold failureSampleOf at isLeft isRight
  split at isLeft
  · split at isRight
    · cases isLeft
      cases isRight
      exact Int.le_of_lt earlier
    · cases isRight
  · cases isLeft

theorem failureSample_self (isFailure : event.eventType = "edge_auth_failure")
    (addressed : sourceAddress event = some address) :
    [event].filterMap (failureSampleOf address) =
      [⟨event.timestamp.instant, event.actor, event.eventId⟩] := by
  simp [failureSampleOf, isFailure, sourceIp_of_address addressed]

theorem StuffingTracks.window (tracks : StuffingTracks detector past)
    (stream : WellFormedStream (past ++ [event]))
    (isFailure : event.eventType = "edge_auth_failure")
    (addressed : sourceAddress event = some address) :
    stuffingWindow detector event address =
      ((past ++ [event]).filterMap (failureSampleOf address)).filter
        fun sample => event.timestamp.instant - minutes 5 ≤ sample.time := by
  have slides := (tracks.windows address).concat
    ⟨event.timestamp.instant, event.actor, event.eventId⟩
  rw [← failureSample_self isFailure addressed,
    ← List.filterMap_append] at slides
  unfold stuffingWindow
  rw [tracks.thresholds.2.2, ← failureSample_self isFailure addressed]
  apply slides.slide_eq_filter
  · exact failureSamples_sorted stream.ordered address
  · exact fun sample expired => expired_before stream (expired.concat event)

theorem StuffingTracks.step (tracks : StuffingTracks detector past)
    (stream : WellFormedStream (past ++ [event])) :
    StuffingTracks (detector.evaluate library event).2 (past ++ [event]) := by
  by_cases isFailure : event.eventType = "edge_auth_failure"
  · obtain ⟨address, addressed⟩ := Option.isSome_iff_exists.mp
      (stream.usable_last.address (.inl isFailure))
    rw [tracks.evaluate isFailure addressed]
    refine ⟨tracks.thresholds, fun other => ?_⟩
    by_cases isAddress : other = address
    · simp only [isAddress, Function.update_self]
      have slides := (tracks.windows address).concat
        ⟨event.timestamp.instant, event.actor, event.eventId⟩
      rw [← failureSample_self isFailure addressed,
        ← List.filterMap_append] at slides
      unfold stuffingWindow
      rw [tracks.thresholds.2.2, ← failureSample_self isFailure addressed]
      apply (slides.mono fun _ expired => expired.concat event).slide
      intro item before
      exact ⟨event, List.mem_append_right _ (List.mem_singleton_self _),
        before⟩
    · have noSample : [event].filterMap (failureSampleOf other) = [] := by
        simp [failureSampleOf, sourceIp_of_address addressed,
          Ne.symm isAddress]
      simp only [Function.update_of_ne isAddress, List.filterMap_append,
        noSample, List.append_nil]
      exact (tracks.windows other).mono fun _ expired => expired.concat event
  · rw [stuffing_other isFailure]
    refine ⟨tracks.thresholds, fun other => ?_⟩
    have noSample : [event].filterMap (failureSampleOf other) = [] := by
      simp [failureSampleOf, isFailure]
    rw [List.filterMap_append, noSample, List.append_nil]
    exact (tracks.windows other).mono fun _ expired => expired.concat event

/-- The failures of the history are the samples of the window. -/
theorem failureSamples_eq (stream : WellFormedStream (past ++ [event]))
    (isFailed : event.eventType = "edge_auth_failure")
    (addressed : sourceAddress event = some address) (cutoff : Timestamp) :
    ((past ++ [event]).filter (isFailure event cutoff)).map
        (·.actor) =
      (((past ++ [event]).filterMap (failureSampleOf address)).filter
        fun sample => cutoff ≤ sample.time).map FailureSample.actor := by
  rw [List.filter_filterMap, List.map_filterMap, ← List.filterMap_eq_filter,
    List.map_filterMap]
  apply List.filterMap_congr
  intro item member
  have notLater := not_later stream member
  unfold isFailure failureSampleOf
  rw [isFailed, sourceIp_of_address addressed]
  by_cases sameType : item.eventType = "edge_auth_failure"
  · by_cases sameAddress : item.sourceIp = some address
    · by_cases inside : cutoff ≤ item.timestamp.instant
      · simp [sameType, sameAddress, inside, notLater]
      · have outside : decide (cutoff ≤ item.timestamp.instant) = false :=
          decide_eq_false inside
        simp [sameType, sameAddress, outside, Option.guard, Option.filter]
    · simp [sameAddress]
  · simp [sameType]

theorem StuffingTracks.alert (tracks : StuffingTracks detector past)
    (stream : WellFormedStream (past ++ [event]))
    (isFailure : event.eventType = "edge_auth_failure") :
    credentialStuffingHistory library credentialStuffingSpec (past ++ [event])
        event =
      .ok (detector.evaluate library event).1.toList := by
  obtain ⟨address, addressed⟩ := Option.isSome_iff_exists.mp
    (stream.usable_last.address (.inl isFailure))
  have samples := failureSamples_eq stream isFailure addressed
    (event.timestamp.instant - minutes 5)
  rw [← tracks.window stream isFailure addressed] at samples
  have count := congrArg List.length samples
  rw [List.length_map, List.length_map] at count
  rw [tracks.evaluate isFailure addressed]
  unfold credentialStuffingHistory stuffingReport
  rw [addressed]
  simp only [credentialStuffingSpec, samples, count]
  split
  · rfl
  · rfl

end Stuffing

/-! ## Travel -/

section Travel

variable {detector : ImpossibleTravelDetector} {past : List SecurityEvent}
  {event : SecurityEvent} {place : Number × Number}

theorem travel_other (other : event.eventType ≠ "authentication_success") :
    detector.evaluate library event = (none, detector) := by
  rw [ImpossibleTravelDetector.evaluate, if_pos other]

/-- The alert of a login after another one. -/
def travelReport (library : Library F) (event : SecurityEvent)
    (maximumSpeedKph : FloatText) (place : Number × Number) (previous : Login) :
    Option DetectionAlert :=
  (travelReasons library maximumSpeedKph previous.place place
    (event.timestamp.instant - previous.time)).map
    (statefulAlert library event impossibleTravelSpec
      ("impossible-travel:" ++ event.actor))

theorem travel_evaluate (isLogin : event.eventType = "authentication_success")
    (located : coordinates event = some place)
    (later : ∀ previous, detector.previous event.actor = some previous →
      previous.time < event.timestamp.instant) :
    detector.evaluate library event =
      ((detector.previous event.actor).bind
          (travelReport library event detector.maximumSpeedKph place),
        { detector with
          previous := Function.update detector.previous event.actor
            (some ⟨event.timestamp.instant, place, event.eventId⟩) }) := by
  rw [ImpossibleTravelDetector.evaluate, if_neg (not_not.mpr isLogin), located,
    isLogin, spec_impossibleTravel]
  cases found : detector.previous event.actor with
  | none => rfl
  | some previous =>
      have notBefore : ¬event.timestamp.instant ≤ previous.time :=
        Int.not_le.mpr (later previous found)
      simp only [notBefore, if_false, Option.map_some, Option.bind_some,
        travelReport]
      cases travelReasons library detector.maximumSpeedKph previous.place place
        (event.timestamp.instant - previous.time) with
      | none => rfl
      | some reasons => rfl

theorem TravelTracks.earlier (tracks : TravelTracks detector past)
    (stream : WellFormedStream (past ++ [event])) {actor : String}
    {previous : Login} (found : detector.previous actor = some previous) :
    previous.time < event.timestamp.instant := by
  rw [tracks.last] at found
  obtain ⟨item, isLast, isLogin⟩ := Option.bind_eq_some_iff.mp found
  obtain ⟨place, -, rfl⟩ := Option.map_eq_some_iff.mp isLogin
  have member := List.mem_of_getLast? isLast
  exact stream.before (List.mem_of_mem_filter member)

theorem TravelTracks.step (tracks : TravelTracks detector past)
    (stream : WellFormedStream (past ++ [event])) :
    TravelTracks (detector.evaluate library event).2 (past ++ [event]) := by
  by_cases isLogin : event.eventType = "authentication_success"
  · obtain ⟨place, located⟩ := Option.isSome_iff_exists.mp
      (stream.usable_last.coordinates isLogin)
    rw [travel_evaluate isLogin located
      fun previous found => tracks.earlier stream found]
    refine ⟨tracks.threshold, fun actor => ?_⟩
    by_cases isActor : actor = event.actor
    · have isLast : isLoginOf event.actor event = true := by
        simp [isLoginOf, isLogin]
      simp [isActor, List.filter_append, isLast, loginOf, located]
    · have notLast : isLoginOf actor event = false := by
        simp [isLoginOf, Ne.symm isActor]
      simp [Function.update_of_ne isActor, List.filter_append, notLast,
        tracks.last]
  · rw [travel_other isLogin]
    refine ⟨tracks.threshold, fun actor => ?_⟩
    have notLast : isLoginOf actor event = false := by
      simp [isLoginOf, isLogin]
    simp [List.filter_append, notLast, tracks.last]

theorem predecessorKey_lt {left right : SecurityEvent}
    (earlier : Earlier left right) :
    predecessorKey left < predecessorKey right :=
  Prod.Lex.toLex_lt_toLex.mpr (.inl earlier)

/-- The predecessors of a login are the logins of its actor before it. -/
theorem predecessorLogins_eq (stream : WellFormedStream (past ++ [event]))
    (isLogin : event.eventType = "authentication_success") :
    (past ++ [event]).filter (isPredecessorLogin event) =
      past.filter (isLoginOf event.actor) := by
  have notSelf : isPredecessorLogin event event = false := by
    simp [isPredecessorLogin]
  rw [List.filter_append, List.filter_cons_of_neg (by simp [notSelf]),
    List.filter_nil, List.append_nil]
  apply List.filter_congr
  intro item member
  have before : item.timestamp.instant < event.timestamp.instant :=
    stream.before member
  simp [isPredecessorLogin, isLoginOf, isLogin, stream.other member, before]

theorem ordered_past (stream : WellFormedStream (past ++ [event])) :
    past.Pairwise fun left right =>
      predecessorKey left < predecessorKey right := by
  have ordered := stream.ordered
  rw [List.pairwise_append] at ordered
  exact ordered.1.imp predecessorKey_lt

theorem usable_past (stream : WellFormedStream (past ++ [event]))
    {item : SecurityEvent} (member : item ∈ past) : Usable item :=
  stream.usable item (List.mem_append_left _ member)

theorem TravelTracks.alert (tracks : TravelTracks detector past)
    (stream : WellFormedStream (past ++ [event]))
    (isLogin : event.eventType = "authentication_success") :
    impossibleTravelHistory library impossibleTravelSpec (past ++ [event])
        event =
      .ok (detector.evaluate library event).1.toList := by
  obtain ⟨place, located⟩ := Option.isSome_iff_exists.mp
    (stream.usable_last.coordinates isLogin)
  rw [travel_evaluate isLogin located
    fun previous found => tracks.earlier stream found, tracks.last]
  unfold impossibleTravelHistory
  rw [located, predecessorLogins_eq stream isLogin,
    greatest_of_sorted ((ordered_past stream).filter _)]
  cases found : (past.filter (isLoginOf event.actor)).getLast? with
  | none => rfl
  | some previous =>
      have member := List.mem_of_getLast? found
      have isPrevious := List.of_mem_filter member
      simp only [isLoginOf, Bool.decide_and, Bool.and_eq_true,
        decide_eq_true_eq] at isPrevious
      obtain ⟨before, wasLocated⟩ := Option.isSome_iff_exists.mp
        ((usable_past stream (List.mem_of_mem_filter member)).coordinates
          isPrevious.1)
      rw [← tracks.threshold]
      simp only [Option.bind_some, loginOf, wasLocated, Option.map_some,
        travelReport]
      cases travelReasons library detector.maximumSpeedKph before place
        (event.timestamp.instant - previous.timestamp.instant) with
      | none => rfl
      | some reasons => rfl

end Travel

/-! ## Session replay -/

section Replay

variable {detector : SessionReplayDetector} {past : List SecurityEvent}
  {event : SecurityEvent} {address hash : String}

theorem replay_other (other : event.eventType ≠ "edge_session_use") :
    detector.evaluate library event = (none, detector) := by
  rw [SessionReplayDetector.evaluate, if_pos other]

theorem sessionText_of_hash (hashed : sessionHash event = some hash) :
    sessionText event = some hash :=
  (Option.filter_eq_some_iff.mp hashed).1

/-- The alert of a use after another one. -/
def replayReport (library : Library F) (event : SecurityEvent)
    (address hash : String) (previous : SessionUse) : Option DetectionAlert :=
  if event.timestamp.instant - previous.time > minutes 10 ∨
      address = previous.address then none
  else some (statefulAlert library event sessionReplaySpec
    ("session-replay:" ++ hash)
    ["session hash reused from " ++ previous.address ++ " and " ++ address,
      "reuse occurred within " ++ toString 10 ++ "m"])

theorem ReplayTracks.earlier (tracks : ReplayTracks detector past)
    (stream : WellFormedStream (past ++ [event])) {previous : SessionUse}
    (found : detector.previous hash = some previous) :
    previous.time < event.timestamp.instant := by
  rw [tracks.last] at found
  obtain ⟨item, isLast, isUse⟩ := Option.bind_eq_some_iff.mp found
  obtain ⟨other, -, rfl⟩ := Option.map_eq_some_iff.mp isUse
  have member := List.mem_of_getLast? isLast
  exact stream.before (List.mem_of_mem_filter member)

theorem ReplayTracks.evaluate (tracks : ReplayTracks detector past)
    (stream : WellFormedStream (past ++ [event]))
    (isUse : event.eventType = "edge_session_use")
    (addressed : sourceAddress event = some address)
    (hashed : sessionHash event = some hash) :
    detector.evaluate library event =
      ((detector.previous hash).bind (replayReport library event address hash),
        { detector with
          previous := Function.update detector.previous hash
            (some ⟨event.timestamp.instant, address, event.actor,
              event.eventId⟩) }) := by
  rw [SessionReplayDetector.evaluate, if_neg (not_not.mpr isUse), addressed,
    hashed, isUse, spec_sessionReplay]
  simp only []
  cases found : detector.previous hash with
  | none => rfl
  | some previous =>
      have notBefore : ¬event.timestamp.instant ≤ previous.time :=
        Int.not_le.mpr (tracks.earlier stream found)
      simp only [notBefore, if_false, Option.map_some, Option.bind_some,
        replayReport, tracks.window, wholeMinutes_minutes]
      split
      · rfl
      · rfl

theorem ReplayTracks.step (tracks : ReplayTracks detector past)
    (stream : WellFormedStream (past ++ [event])) :
    ReplayTracks (detector.evaluate library event).2 (past ++ [event]) := by
  by_cases isUse : event.eventType = "edge_session_use"
  · obtain ⟨address, addressed⟩ := Option.isSome_iff_exists.mp
      (stream.usable_last.address (.inr isUse))
    obtain ⟨hash, hashed⟩ :=
      Option.isSome_iff_exists.mp (stream.usable_last.session isUse)
    rw [tracks.evaluate stream isUse addressed hashed]
    refine ⟨tracks.window, fun other => ?_⟩
    by_cases isHash : other = hash
    · have isLast : isUseOf hash event = true := by
        simp [isUseOf, isUse, sessionText_of_hash hashed]
      simp [isHash, List.filter_append, isLast, useOf, addressed]
    · have notLast : isUseOf other event = false := by
        simp [isUseOf, sessionText_of_hash hashed, Ne.symm isHash]
      simp [Function.update_of_ne isHash, List.filter_append, notLast,
        tracks.last]
  · rw [replay_other isUse]
    refine ⟨tracks.window, fun other => ?_⟩
    have notLast : isUseOf other event = false := by
      simp [isUseOf, isUse]
    simp [List.filter_append, notLast, tracks.last]

/-- The predecessors of a use are the uses of its session before it that are in
the window. -/
theorem predecessorUses_eq (stream : WellFormedStream (past ++ [event]))
    (isUse : event.eventType = "edge_session_use") (cutoff : Timestamp) :
    (past ++ [event]).filter (isPredecessorUse event hash cutoff) =
      (past.filter (isUseOf hash)).filter
        fun item => cutoff ≤ item.timestamp.instant := by
  have notSelf : isPredecessorUse event hash cutoff event = false := by
    simp [isPredecessorUse]
  rw [List.filter_append, List.filter_cons_of_neg (by simp [notSelf]),
    List.filter_nil, List.append_nil, List.filter_filter]
  apply List.filter_congr
  intro item member
  have before : item.timestamp.instant < event.timestamp.instant :=
    stream.before member
  by_cases inside : cutoff ≤ item.timestamp.instant
  · simp [isPredecessorUse, isUseOf, isUse, stream.other member, before,
      inside]
  · simp [isPredecessorUse, inside]

theorem ReplayTracks.alert (tracks : ReplayTracks detector past)
    (stream : WellFormedStream (past ++ [event]))
    (isUse : event.eventType = "edge_session_use") :
    sessionReplayHistory library sessionReplaySpec (past ++ [event]) event =
      .ok (detector.evaluate library event).1.toList := by
  obtain ⟨address, addressed⟩ := Option.isSome_iff_exists.mp
    (stream.usable_last.address (.inr isUse))
  obtain ⟨hash, hashed⟩ :=
    Option.isSome_iff_exists.mp (stream.usable_last.session isUse)
  have sorted : (past.filter (isUseOf hash)).Pairwise
      fun left right =>
        left.timestamp.instant ≤ right.timestamp.instant := by
    have ordered := stream.ordered
    rw [List.pairwise_append] at ordered
    exact (ordered.1.imp Int.le_of_lt).filter _
  rw [tracks.evaluate stream isUse addressed hashed, tracks.last]
  have window : sessionReplaySpec.windowMinutes = some 10 := rfl
  unfold sessionReplayHistory
  simp only [addressed, hashed, window]
  rw [predecessorUses_eq stream isUse,
    greatest_of_sorted (((ordered_past stream).filter _).filter _),
    getLast?_filter_of_sorted sorted]
  cases found : (past.filter (isUseOf hash)).getLast? with
  | none => rfl
  | some previous =>
      have member := List.mem_of_getLast? found
      have isPrevious := List.of_mem_filter member
      simp only [isUseOf, Bool.decide_and, Bool.and_eq_true,
        decide_eq_true_eq] at isPrevious
      obtain ⟨before, wasAddressed⟩ := Option.isSome_iff_exists.mp
        ((usable_past stream (List.mem_of_mem_filter member)).address
          (.inr isPrevious.1))
      simp only [Option.bind_some, useOf, wasAddressed, Option.map_some,
        replayReport]
      by_cases inside :
          event.timestamp.instant - minutes 10 ≤ previous.timestamp.instant
      · have recent : ¬event.timestamp.instant - previous.timestamp.instant >
            minutes 10 := by
          have bound := Int.sub_le_sub_left inside event.timestamp.instant
          rw [Int.sub_sub_self] at bound
          exact Int.not_lt.mpr bound
        by_cases same : before = address
        · simp [Option.filter, inside, wasAddressed, same]
        · simp [Option.filter, inside, wasAddressed, recent, same,
            Ne.symm same]
      · have old : event.timestamp.instant - previous.timestamp.instant >
            minutes 10 := by
          have bound := Int.sub_lt_sub_left (Int.not_le.mp inside)
            event.timestamp.instant
          rw [Int.sub_sub_self] at bound
          exact bound
        simp [Option.filter, inside, old]

end Replay

/-! ## The pipeline -/

section Pipeline

variable {detectors : StatefulDetectors} {past : List SecurityEvent}
  {event : SecurityEvent}

theorem Tracks.step (tracks : Tracks library detectors past)
    (stream : WellFormedStream (past ++ [event])) :
    Tracks library (detectors.evaluate library event).2 (past ++ [event]) :=
  ⟨tracks.bulk.step stream, tracks.travel.step stream,
    tracks.stuffing.step stream, tracks.replay.step stream⟩

theorem correlation_none (noAccess : event.eventType ≠ "sensitive_data_access")
    (noLogin : event.eventType ≠ "authentication_success")
    (noFailure : event.eventType ≠ "edge_auth_failure")
    (noUse : event.eventType ≠ "edge_session_use") :
    statefulCorrelationForEvent event.eventType = none := by
  simp [statefulCorrelationForEvent, statefulCorrelations, bulkAccessSpec,
    impossibleTravelSpec, credentialStuffingSpec, sessionReplaySpec,
    Ne.symm noAccess, Ne.symm noLogin, Ne.symm noFailure, Ne.symm noUse]

/-- The detectors find what the correlations find with all earlier events. -/
theorem Tracks.alerts (tracks : Tracks library detectors past)
    (stream : WellFormedStream (past ++ [event])) :
    evaluateStatefulEvent library event past =
      .ok (detectors.evaluate library event).1 := by
  have single (found : Option DetectionAlert) :
      [found, none, none, none].reduceOption = found.toList ∧
      [none, found, none, none].reduceOption = found.toList ∧
      [none, none, found, none].reduceOption = found.toList ∧
      [none, none, none, found].reduceOption = found.toList := by
    cases found with
    | none => exact ⟨rfl, rfl, rfl, rfl⟩
    | some alert => exact ⟨rfl, rfl, rfl, rfl⟩
  unfold evaluateStatefulEvent StatefulDetectors.evaluate
  rw [history_eq stream]
  by_cases isAccess : event.eventType = "sensitive_data_access"
  · simp only [@travel_other _ library detectors.travel event (by simp [isAccess]),
      @stuffing_other _ library detectors.stuffing event (by simp [isAccess]),
      @replay_other _ library detectors.replay event (by simp [isAccess]),
      single]
    rw [← tracks.bulk.alert stream isAccess, isAccess, spec_bulkAccess]
    rfl
  by_cases isLogin : event.eventType = "authentication_success"
  · simp only [@bulk_other _ library detectors.bulk event isAccess,
      @stuffing_other _ library detectors.stuffing event (by simp [isLogin]),
      @replay_other _ library detectors.replay event (by simp [isLogin]),
      single]
    rw [← tracks.travel.alert stream isLogin, isLogin, spec_impossibleTravel]
    rfl
  by_cases isFailure : event.eventType = "edge_auth_failure"
  · simp only [@bulk_other _ library detectors.bulk event isAccess,
      @travel_other _ library detectors.travel event isLogin,
      @replay_other _ library detectors.replay event (by simp [isFailure]),
      single]
    rw [← tracks.stuffing.alert stream isFailure, isFailure,
      spec_credentialStuffing]
    rfl
  by_cases isUse : event.eventType = "edge_session_use"
  · simp only [@bulk_other _ library detectors.bulk event isAccess,
      @travel_other _ library detectors.travel event isLogin,
      @stuffing_other _ library detectors.stuffing event isFailure, single]
    rw [← tracks.replay.alert stream isUse, isUse, spec_sessionReplay]
    rfl
  · rw [correlation_none isAccess isLogin isFailure isUse]
    simp only [@bulk_other _ library detectors.bulk event isAccess,
      @travel_other _ library detectors.travel event isLogin,
      @stuffing_other _ library detectors.stuffing event isFailure,
      @replay_other _ library detectors.replay event isUse]
    rfl

variable {pipeline : DetectionPipeline F}

theorem stream_eq_replay {events : List SecurityEvent}
    (tracks : Tracks pipeline.library detectors past)
    (stream : WellFormedStream (past ++ events)) :
    pipeline.stream detectors events = pipeline.replay past events := by
  induction events generalizing detectors past with
  | nil => rfl
  | cons event events induction =>
      have split : past ++ event :: events = (past ++ [event]) ++ events := by
        simp
      rw [split] at stream
      have arrived : WellFormedStream (past ++ [event]) := by
        obtain ⟨usable, ordered, distinct⟩ := stream
        rw [List.pairwise_append] at ordered
        rw [List.map_append, List.nodup_append] at distinct
        exact ⟨fun item member => usable item (List.mem_append_left _ member),
          ordered.1, distinct.1⟩
      simp only [DetectionPipeline.stream, DetectionPipeline.replay,
        DetectionPipeline.evaluate, DetectionPipeline.evaluateWithHistory]
      rw [tracks.alerts arrived]
      cases pipeline.stateless event with
      | error failure => rfl
      | ok alerts =>
          have rest := induction (tracks.step arrived) stream
          simp only [bind, Except.bind, pure, Except.pure]
          rw [rest]

end Pipeline

/-! ### A session that is used from two addresses -/

def sampleStream : List SecurityEvent :=
  [sampleUse "use-1" 0 "192.0.2.1", sampleUse "use-2" (seconds 60) "192.0.2.2"]

theorem sampleStream_wellFormed : WellFormedStream sampleStream := by
  refine ⟨fun event member => ?_, ?_, by decide⟩
  · have cases : event = sampleUse "use-1" 0 "192.0.2.1" ∨
        event = sampleUse "use-2" (seconds 60) "192.0.2.2" := by
      simpa [sampleStream] using member
    rcases cases with rfl | rfl
    · exact ⟨nofun, nofun, fun _ => rfl, fun _ => rfl⟩
    · exact ⟨nofun, nofun, fun _ => rfl, fun _ => rfl⟩
  · simp [sampleStream, Earlier, sampleUse, seconds]

def samplePipeline : DetectionPipeline Int where
  library := sampleLibrary
  stateless _ := .ok []

end Detection

end ControlForge
