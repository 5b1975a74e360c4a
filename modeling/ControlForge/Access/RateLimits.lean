import ControlForge.Clock
import ControlForge.Foundation.OrderedDict
import ControlForge.Foundation.SlidingWindow
import ControlForge.Foundation.Text
import ControlForge.Foundation.Transition

/-!
# Rate limits of the public routes

`SlidingWindowRateLimiter` keeps the attempts of each bucket that are still in
their window, for a bounded number of buckets.  A bucket keeps to its limit as
long as the bound does not push it out with an attempt still in its window.
-/

namespace ControlForge

namespace Access

namespace RateLimits

structure RateLimitDecision where
  allowed : Bool
  retryAfterSeconds : Int
deriving DecidableEq

inductive RateLimitFailure where
  | value (message : String)
deriving DecidableEq

/-- `str.casefold`, and `sha256(...).hexdigest()` of an encoded text. -/
structure Library where
  casefold : String → String
  sha256 : String → String

/-- `SlidingWindowRateLimiter`: the attempts of each bucket, the bucket that
was used last at the end. -/
structure SlidingWindowRateLimiter where
  maxKeys : Nat
  attempts : OrderedDict String (List Timestamp)
  capacity : 128 ≤ maxKeys ∧ maxKeys ≤ 65536

/-- The arguments of `check`.  A clock without a timezone names no instant. -/
structure CheckCall where
  scope : String
  key : String
  now : Option Timestamp
  limit : Int
  window : Int

section Checking

variable (library : Library)

/-- `_bucket`. -/
def bucketOf (scope key : String) : Except RateLimitFailure String :=
  if scope = "" ∨ 64 < scope.length then
    .error (.value "rate-limit scope must contain between 1 and 64 characters")
  else
    let normalized := library.casefold (Text.strip key)
    let normalizedKey :=
      if normalized = "" ∨ 512 < normalized.length then "unknown"
      else normalized
    .ok (scope ++ ":" ++ library.sha256 normalizedKey)

/-- The checks before the lock is taken: the instant and the bucket. -/
def CheckCall.validate (call : CheckCall) :
    Except RateLimitFailure (Timestamp × String) :=
  match call.now with
  | none => .error (.value "rate-limit clock must be timezone-aware")
  | some now =>
      if call.limit < 1 ∨ 10000 < call.limit then
        .error (.value "rate limit must be between 1 and 10000")
      else if call.window < seconds 1 ∨ seconds 86400 < call.window then
        .error (.value "rate-limit window must be between 1 second and 1 day")
      else (bucketOf library call.scope call.key).map fun bucket => (now, bucket)

/-- The attempts of a bucket that are in a window. -/
def SlidingWindowRateLimiter.live (limiter : SlidingWindowRateLimiter)
    (bucket : String) (cutoff : Timestamp) : List Timestamp :=
  ((limiter.attempts.find? bucket).getD []).dropWhile (· ≤ cutoff)

/-- What `check` does under the lock. -/
def SlidingWindowRateLimiter.count (limiter : SlidingWindowRateLimiter)
    (now : Timestamp) (bucket : String) (limit window : Int) :
    RateLimitDecision × SlidingWindowRateLimiter :=
  let attempts := limiter.live bucket (now - window)
  if limit ≤ attempts.length then
    -- a limit is positive, so there is a first attempt
    let retryAt := attempts.headD now + window
    -- the seconds that are left are truncated, then one is added
    (⟨false, max 1 ((retryAt - now).tdiv 1000000 + 1)⟩,
      { limiter with attempts := limiter.attempts.moveToEnd bucket attempts })
  else
    (⟨true, 0⟩,
      { limiter with
        attempts := (limiter.attempts.moveToEnd bucket
          (attempts ++ [now])).trim limiter.maxKeys })

/-- `check`. -/
def SlidingWindowRateLimiter.check (limiter : SlidingWindowRateLimiter)
    (call : CheckCall) :
    Except RateLimitFailure (RateLimitDecision × SlidingWindowRateLimiter) :=
  (call.validate library).map fun admitted =>
    limiter.count admitted.1 admitted.2 call.limit call.window

end Checking

/-! ## Sequences of checks -/

structure LimiterState where
  limiter : SlidingWindowRateLimiter
  clock : Timestamp

/-- A call and what it came to. -/
structure Checked where
  call : CheckCall
  outcome : Except RateLimitFailure RateLimitDecision

variable (library : Library)

/-- The limiter after a call; a call that is refused leaves it as it was. -/
def SlidingWindowRateLimiter.after (limiter : SlidingWindowRateLimiter)
    (call : CheckCall) : SlidingWindowRateLimiter :=
  match limiter.check library call with
  | .ok (_, next) => next
  | .error _ => limiter

/-- Calls whose clocks do not go back. -/
def rateLimiter : TransitionSystem LimiterState Checked where
  initial state := state.limiter.attempts = .empty
  step state label next :=
    (∀ now, label.call.now = some now → state.clock ≤ now) ∧
      next.clock = label.call.now.getD state.clock ∧
      label.outcome = (state.limiter.check library label.call).map Prod.fst ∧
      next.limiter = state.limiter.after library label.call

/-- The instants at which calls for a bucket were allowed. -/
def allowedTimes (bucket : String) (labels : List Checked) : List Timestamp :=
  labels.filterMap fun label =>
    match label.call.validate library, label.outcome with
    | .ok (now, other), .ok decision =>
        if other = bucket ∧ decision.allowed then some now else none
    | _, _ => none

/-- A call for this bucket has this limit and this window. -/
def Fixed (bucket : String) (limit : Nat) (window : Int) (call : CheckCall) :
    Prop :=
  ∀ now, call.validate library = .ok (now, bucket) →
    call.limit = limit ∧ call.window = window

/-- The entry a full limiter gives up for a bucket it does not know. -/
def SlidingWindowRateLimiter.displaced (limiter : SlidingWindowRateLimiter)
    (bucket : String) : Option (String × List Timestamp) :=
  if limiter.attempts.find? bucket = none ∧
      limiter.maxKeys ≤ limiter.attempts.entries.length then
    limiter.attempts.entries.head?
  else none

/-- A call does not displace this bucket while an attempt is in its window. -/
def Spares (bucket : String) (window : Int) (limiter : SlidingWindowRateLimiter)
    (call : CheckCall) : Prop :=
  ∀ now other attempts, call.validate library = .ok (now, other) →
    limiter.displaced other = some (bucket, attempts) →
      ∀ attempt ∈ attempts, attempt ≤ now - window

variable {library}

theorem validate_ok {call : CheckCall} {now : Timestamp} {bucket : String}
    (valid : call.validate library = .ok (now, bucket)) :
    call.now = some now ∧ 1 ≤ call.limit ∧
      bucketOf library call.scope call.key = .ok bucket ∧
      seconds 1 ≤ call.window ∧ call.limit ≤ 10000 ∧
      call.window ≤ seconds 86400 := by
  unfold CheckCall.validate at valid
  split at valid
  · cases valid
  · split_ifs at valid with limits windows
    · cases found : bucketOf library call.scope call.key with
      | error failure =>
          rw [found] at valid
          cases valid
      | ok other =>
          rw [found] at valid
          cases valid
          refine ⟨by assumption, by omega, rfl, by omega, by omega, by omega⟩

/-- The attempts kept for a bucket. -/
def SlidingWindowRateLimiter.kept (limiter : SlidingWindowRateLimiter)
    (bucket : String) : List Timestamp :=
  (limiter.attempts.find? bucket).getD []

/-- The keys a limiter holds are as many as it may hold. -/
def SlidingWindowRateLimiter.Bounded (limiter : SlidingWindowRateLimiter) : Prop :=
  limiter.attempts.entries.length ≤ limiter.maxKeys

section Counting

variable {limiter : SlidingWindowRateLimiter} {now : Timestamp}
  {bucket other : String} {limit window : Int}

theorem live_length_le {cutoff : Timestamp} :
    (limiter.live bucket cutoff).length ≤ (limiter.kept bucket).length :=
  (List.dropWhile_sublist _).length_le

theorem count_bounded (bounded : limiter.Bounded) (positive : 1 ≤ limit) :
    (limiter.count now bucket limit window).2.Bounded := by
  unfold SlidingWindowRateLimiter.count
  simp only
  split_ifs with full
  · have present : limiter.attempts.find? bucket ≠ none := by
      intro absent
      simp [SlidingWindowRateLimiter.live, absent] at full
      omega
    exact (OrderedDict.length_moveToEnd_present present).trans bounded
  · exact OrderedDict.length_trim_le

/-- What a call leaves of its own bucket. -/
theorem kept_count_self (bounded : limiter.Bounded) :
    (limiter.count now bucket limit window).2.kept bucket =
      if limit ≤ (limiter.live bucket (now - window)).length then
        limiter.live bucket (now - window)
      else limiter.live bucket (now - window) ++ [now] := by
  unfold SlidingWindowRateLimiter.count SlidingWindowRateLimiter.kept
  simp only
  split_ifs with full
  · simp only
    rw [OrderedDict.find?_moveToEnd_self]
    rfl
  · have size : (limiter.attempts.moveToEnd bucket
        (limiter.live bucket (now - window) ++ [now])).entries.length ≤
          limiter.attempts.entries.length + 1 :=
      OrderedDict.length_moveToEnd_le
    have capacity := limiter.capacity
    have bound : limiter.attempts.entries.length ≤ limiter.maxKeys := bounded
    simp only
    rw [OrderedDict.find?_trim (by omega), OrderedDict.find?_moveToEnd_self]
    · rfl
    · intro surplus
      exact OrderedDict.head?_moveToEnd (by omega)

/-- A call leaves another bucket alone, or displaces it. -/
theorem kept_count_other (bounded : limiter.Bounded)
    (differs : bucket ≠ other) :
    (limiter.count now other limit window).2.kept bucket = limiter.kept bucket ∨
      (limiter.count now other limit window).2.kept bucket = [] ∧
        limiter.displaced other = some (bucket, limiter.kept bucket) := by
  have bound : limiter.attempts.entries.length ≤ limiter.maxKeys := bounded
  have capacity := limiter.capacity
  unfold SlidingWindowRateLimiter.count SlidingWindowRateLimiter.kept
  simp only
  split_ifs with full
  · left
    simp only
    rw [OrderedDict.find?_moveToEnd_ne differs]
  · simp only
    generalize limiter.live other (now - window) ++ [now] = attempts
    have size : (limiter.attempts.moveToEnd other attempts).entries.length ≤
        limiter.attempts.entries.length + 1 :=
      OrderedDict.length_moveToEnd_le
    by_cases first : limiter.maxKeys <
          (limiter.attempts.moveToEnd other attempts).entries.length ∧
        ∃ content, (limiter.attempts.moveToEnd other attempts).entries.head? =
          some (bucket, content)
    · obtain ⟨surplus, content, isFirst⟩ := first
      have absent : limiter.attempts.find? other = none := by
        by_contra present
        have noMore : (limiter.attempts.moveToEnd other attempts).entries.length ≤
            limiter.attempts.entries.length :=
          OrderedDict.length_moveToEnd_present present
        omega
      have gone := OrderedDict.find?_trim_first (by omega) surplus isFirst
      rw [OrderedDict.moveToEnd_absent absent] at isFirst surplus
      rw [List.length_append, List.length_singleton] at surplus
      rw [List.head?_append_of_ne_nil _ (List.ne_nil_of_length_pos (by omega))]
        at isFirst
      right
      rw [gone]
      refine ⟨rfl, ?_⟩
      rw [SlidingWindowRateLimiter.displaced, if_pos ⟨absent, by omega⟩, isFirst,
        OrderedDict.find?_of_head? isFirst]
      rfl
    · left
      rw [OrderedDict.find?_trim (by omega),
        OrderedDict.find?_moveToEnd_ne differs]
      intro surplus content isFirst
      exact first ⟨surplus, content, isFirst⟩

end Counting

/-! ## The limit -/

section Limit

variable {bucket : String} {limit : Nat} {window : Int}
  {labels : List Checked} {label : Checked} {state next : LimiterState}

theorem check_eq {limiter : SlidingWindowRateLimiter} {call : CheckCall}
    {now : Timestamp} {other : String}
    (valid : call.validate library = .ok (now, other)) :
    limiter.check library call =
      .ok (limiter.count now other call.limit call.window) := by
  rw [SlidingWindowRateLimiter.check, valid]
  rfl

theorem check_invalid {limiter : SlidingWindowRateLimiter} {call : CheckCall}
    {failure : RateLimitFailure}
    (invalid : call.validate library = .error failure) :
    limiter.check library call = .error failure := by
  rw [SlidingWindowRateLimiter.check, invalid]
  rfl

/-- The limiter keeps no more than the limit of a bucket. -/
structure Short (bucket : String) (limit : Nat) (state : LimiterState) : Prop where
  bounded : state.limiter.Bounded
  few : (state.limiter.kept bucket).length ≤ limit

theorem short_step (short : Short bucket limit state)
    (fixed : Fixed library bucket limit window label.call)
    (step : (rateLimiter library).step state label next) :
    Short bucket limit next := by
  obtain ⟨_, _, _, isNext⟩ := step
  cases valid : label.call.validate library with
  | error failure =>
      rw [SlidingWindowRateLimiter.after, check_invalid valid] at isNext
      exact ⟨isNext ▸ short.bounded, isNext ▸ short.few⟩
  | ok admitted =>
      obtain ⟨now, other⟩ := admitted
      have positive := (validate_ok valid).2.1
      rw [SlidingWindowRateLimiter.after, check_eq valid] at isNext
      constructor
      · rw [isNext]
        exact count_bounded short.bounded positive
      · rw [isNext]
        by_cases same : bucket = other
        · subst same
          have isLimit := (fixed now valid).1
          have fewLive : (state.limiter.live bucket
              (now - label.call.window)).length ≤ limit :=
            live_length_le.trans short.few
          rw [kept_count_self short.bounded]
          split_ifs with full
          · exact fewLive
          · rw [List.length_append, List.length_singleton]
            omega
        · rcases kept_count_other short.bounded same with unchanged | ⟨gone, _⟩
          · rw [unchanged]
            exact short.few
          · rw [gone]
            exact Nat.zero_le _

/-- What the limiter keeps of a bucket accounts for its history. -/
structure Accounted (bucket : String) (limit : Nat) (window : Int)
    (past : List Timestamp) (state : LimiterState) : Prop where
  short : Short bucket limit state
  slides : Slides (· ≤ state.clock - window) past (state.limiter.kept bucket)
  limited : SlidingWindow.Limited limit window past

theorem allowedTimes_append (first second : List Checked) :
    allowedTimes library bucket (first ++ second) =
      allowedTimes library bucket first ++ allowedTimes library bucket second :=
  List.filterMap_append

/-- What is live one call later of what was kept. -/
theorem slides_live {limiter : SlidingWindowRateLimiter} {past : List Timestamp}
    {now : Timestamp}
    (slides : Slides (· ≤ now - window) past (limiter.kept bucket)) :
    Slides (· ≤ now - window) past (limiter.live bucket (now - window)) := by
  obtain ⟨dropped, rfl, expired⟩ := slides
  refine ⟨dropped ++ (limiter.kept bucket).takeWhile (· ≤ now - window), ?_, ?_⟩
  · rw [List.append_assoc, SlidingWindowRateLimiter.live,
      ← SlidingWindowRateLimiter.kept, List.takeWhile_append_dropWhile]
  · intro time member
    rcases List.mem_append.mp member with old | new
    · exact expired time old
    · simpa using List.mem_takeWhile_imp new

theorem accounted_step
    (accounted : Accounted bucket limit window
      (allowedTimes library bucket labels) state)
    (fixed : Fixed library bucket limit window label.call)
    (spares : Spares library bucket window state.limiter label.call)
    (step : (rateLimiter library).step state label next) :
    Accounted bucket limit window
      (allowedTimes library bucket (labels ++ [label])) next := by
  have short := short_step accounted.short fixed step
  obtain ⟨forward, isClock, isOutcome, isNext⟩ := step
  rw [allowedTimes_append]
  cases valid : label.call.validate library with
  | error failure =>
      have noTime : allowedTimes library bucket [label] = [] := by
        simp [allowedTimes, valid]
      rw [SlidingWindowRateLimiter.after, check_invalid valid] at isNext
      rw [noTime, List.append_nil]
      refine ⟨short, ?_, accounted.limited⟩
      rw [isNext, isClock]
      refine accounted.slides.mono fun time expired => ?_
      cases isNow : label.call.now with
      | none => exact expired
      | some now =>
          have later := forward now isNow
          exact le_trans expired (Int.sub_le_sub_right later window)
  | ok admitted =>
      obtain ⟨now, other⟩ := admitted
      have isNow := (validate_ok valid).1
      have later := forward now isNow
      rw [isNow, Option.getD_some] at isClock
      rw [SlidingWindowRateLimiter.after, check_eq valid] at isNext
      rw [check_eq valid] at isOutcome
      have slides : Slides (· ≤ now - window)
          (allowedTimes library bucket labels) (state.limiter.kept bucket) :=
        accounted.slides.mono fun time expired => by
          exact le_trans expired (Int.sub_le_sub_right later window)
      by_cases same : bucket = other
      · subst same
        obtain ⟨isLimit, isWindow⟩ := fixed now valid
        have live := slides_live slides
        rw [isLimit, isWindow] at isNext isOutcome
        by_cases full : (limit : Int) ≤
            (state.limiter.live bucket (now - window)).length
        · have refused : (state.limiter.count now bucket limit window).1.allowed =
              false := by
            simp only [SlidingWindowRateLimiter.count, if_pos full]
          have noTime : allowedTimes library bucket [label] = [] := by
            simp [allowedTimes, valid, isOutcome, Except.map, refused]
          rw [noTime, List.append_nil]
          refine ⟨short, ?_, accounted.limited⟩
          rw [isNext, isClock, kept_count_self accounted.short.bounded,
            if_pos full]
          exact live
        · have allowed : (state.limiter.count now bucket limit window).1.allowed =
              true := by
            simp only [SlidingWindowRateLimiter.count, if_neg full]
          have oneTime : allowedTimes library bucket [label] = [now] := by
            simp [allowedTimes, valid, isOutcome, Except.map, allowed]
          rw [oneTime]
          refine ⟨short, ?_, accounted.limited.concat live (by omega)⟩
          rw [isNext, isClock, kept_count_self accounted.short.bounded,
            if_neg full]
          exact live.concat now
      · have noTime : allowedTimes library bucket [label] = [] := by
          simp [allowedTimes, valid, isOutcome, Except.map, Ne.symm same]
        rw [noTime, List.append_nil]
        refine ⟨short, ?_, accounted.limited⟩
        rw [isNext, isClock]
        rcases kept_count_other accounted.short.bounded same with
          unchanged | ⟨gone, displaced⟩
        · rw [unchanged]
          exact slides
        · have expired := spares now other _ valid displaced
          obtain ⟨dropped, split, old⟩ := slides
          rw [gone]
          refine ⟨dropped ++ state.limiter.kept bucket, ?_, ?_⟩
          · rw [split, List.append_nil]
          · intro time member
            rcases List.mem_append.mp member with early | late
            · exact old time early
            · exact expired time late

theorem validate_later {call : CheckCall} {now later : Timestamp}
    (valid : call.validate library = .ok (now, bucket)) :
    CheckCall.validate library { call with now := some later } =
      .ok (later, bucket) := by
  obtain ⟨_, positive, isBucket, long, small, brief⟩ := validate_ok valid
  unfold CheckCall.validate
  simp only
  rw [if_neg (by omega), if_neg (by omega), isBucket]
  rfl

/-- The seconds a refusal names take the first attempt out of the window. -/
theorem retry_covers (left : Int) :
    left ≤ seconds (max 1 (left.tdiv 1000000 + 1)) := by
  have least : 1 ≤ max 1 (left.tdiv 1000000 + 1) := le_max_left _ _
  have covers : left.tdiv 1000000 + 1 ≤ max 1 (left.tdiv 1000000 + 1) :=
    le_max_right _ _
  unfold seconds
  rcases Int.le_total 0 left with ahead | behind
  · rw [Int.tdiv_eq_ediv_of_nonneg ahead] at covers ⊢
    omega
  · omega

theorem count_allowed {limiter : SlidingWindowRateLimiter} {now : Timestamp}
    {limit window : Int}
    (few : ((limiter.live bucket (now - window)).length : Int) < limit) :
    ∃ later, limiter.count now bucket limit window = (⟨true, 0⟩, later) := by
  unfold SlidingWindowRateLimiter.count
  simp only
  rw [if_neg (by omega)]
  exact ⟨_, rfl⟩

theorem first_expires {now window : Int} (first : Int) :
    first ≤ now + seconds (max 1 ((first + window - now).tdiv 1000000 + 1)) -
      window := by
  have covers := retry_covers (first + window - now)
  omega

theorem expired_fewer {first cutoff : Timestamp} {rest : List Timestamp}
    (expired : first ≤ cutoff) :
    ((first :: rest).dropWhile (· ≤ cutoff)).length <
      (first :: rest).length := by
  rw [List.dropWhile_cons_of_pos (by simpa using expired), List.length_cons]
  exact Nat.lt_succ_of_le (List.dropWhile_sublist _).length_le

/-- Some attempt is out of the window when a refusal has been waited for. -/
theorem retry_fewer {limiter : SlidingWindowRateLimiter} {now : Timestamp}
    {limit window : Int} (positive : 1 ≤ limit)
    (full : limit ≤ (limiter.live bucket (now - window)).length)
    (short : (limiter.kept bucket).length ≤ limit) :
    ((SlidingWindowRateLimiter.live
      { limiter with
        attempts := limiter.attempts.moveToEnd bucket
          (limiter.live bucket (now - window)) } bucket
      (now + seconds (max 1 (((limiter.live bucket (now - window)).headD now +
        window - now).tdiv 1000000 + 1)) - window)).length : Int) < limit := by
  have few : (limiter.live bucket (now - window)).length ≤
      (limiter.kept bucket).length :=
    live_length_le
  cases isLive : limiter.live bucket (now - window) with
  | nil =>
      rw [isLive, List.length_nil] at full
      omega
  | cons first rest =>
      rw [SlidingWindowRateLimiter.live]
      simp only [OrderedDict.find?_moveToEnd_self, Option.getD_some,
        List.headD_cons]
      rw [isLive] at few
      exact (Int.ofNat_lt.mpr (expired_fewer (first_expires first))).trans_le
        ((Int.ofNat_le.mpr few).trans short)

/-- After a refusal, a call is allowed once the seconds it names have gone by
with no other call. -/
def RetriesAllowed (library : Library) (bucket : String) (limit : Nat)
    (state : LimiterState) : Prop :=
  ∀ call now decision next, call.validate library = .ok (now, bucket) →
    call.limit = (limit : Int) → state.clock ≤ now →
    state.limiter.check library call = .ok (decision, next) →
    decision.allowed = false →
    ∃ later, next.check library
      { call with now := some (now + seconds decision.retryAfterSeconds) } =
        .ok (⟨true, 0⟩, later)

theorem retriesAllowed (short : Short bucket limit state) :
    RetriesAllowed library bucket limit state := by
  intro call now decision next valid isLimit _ done refused
  have positive := (validate_ok valid).2.1
  rw [check_eq valid] at done
  simp only [Except.ok.injEq] at done
  unfold SlidingWindowRateLimiter.count at done
  simp only at done
  split_ifs at done with full
  · cases done
    rw [check_eq (validate_later valid)]
    obtain ⟨later, allowed⟩ := count_allowed
      (retry_fewer positive full
        (isLimit ▸ Int.ofNat_le.mpr short.few))
    exact ⟨later, congrArg Except.ok allowed⟩
  · cases done
    cases refused

theorem accounted_initial (initial : (rateLimiter library).initial state) :
    Accounted bucket limit window [] state := by
  have noAttempts : state.limiter.attempts = .empty := initial
  have nothing : state.limiter.kept bucket = [] := by
    rw [SlidingWindowRateLimiter.kept, noAttempts]
    rfl
  refine ⟨⟨?_, ?_⟩, ?_, .nil⟩
  · rw [SlidingWindowRateLimiter.Bounded, noAttempts]
    exact Nat.zero_le _
  · rw [nothing]
    exact Nat.zero_le _
  · rw [nothing]
    exact Slides.nil

/-- In a run that never displaces a bucket with an attempt in its window, the
bucket keeps to its limit, and its refusals name the time of the next call. -/
theorem bucket_keeps_limit {start : LimiterState}
    (initial : (rateLimiter library).initial start)
    (run : (rateLimiter library).RunWhere
      (fun state label => Fixed library bucket limit window label.call ∧
        Spares library bucket window state.limiter label.call)
      start labels state) :
    SlidingWindow.Limited limit window (allowedTimes library bucket labels) ∧
      RetriesAllowed library bucket limit state := by
  have accounted : Accounted bucket limit window
      (allowedTimes library bucket labels) state :=
    @TransitionSystem.RunWhere.historyInvariant _ _ _ _
      (fun labels state => Accounted bucket limit window
        (allowedTimes library bucket labels) state)
      _ (accounted_initial initial)
      (fun holds condition step =>
        accounted_step holds condition.1 condition.2 step) _ _ run
  exact ⟨accounted.limited, retriesAllowed accounted.short⟩

/-- A call never displaces its own bucket. -/
theorem spares_self {limiter : SlidingWindowRateLimiter} {call : CheckCall}
    {now : Timestamp} (valid : call.validate library = .ok (now, bucket)) :
    Spares library bucket window limiter call := by
  intro time other attempts alsoValid displaced
  rw [valid] at alsoValid
  cases alsoValid
  unfold SlidingWindowRateLimiter.displaced at displaced
  split_ifs at displaced with newcomer
  rw [OrderedDict.find?_of_head? displaced] at newcomer
  cases newcomer.1

/-- Calls one after the other, and what they come to. -/
def checkAll (library : Library) (limiter : SlidingWindowRateLimiter) :
    List CheckCall → List Checked
  | [] => []
  | call :: calls =>
      ⟨call, (limiter.check library call).map Prod.fst⟩ ::
        checkAll library (limiter.after library call) calls

theorem run_checkAll {now : Timestamp}
    {condition : LimiterState → Checked → Prop}
    (limiter : SlidingWindowRateLimiter) {calls : List CheckCall}
    (atOnce : ∀ call ∈ calls, call.now = some now)
    (meets : ∀ state label, label.call ∈ calls → condition state label) :
    ∃ last, (rateLimiter library).RunWhere condition ⟨limiter, now⟩
      (checkAll library limiter calls) last := by
  induction calls generalizing limiter with
  | nil => exact ⟨_, .nil⟩
  | cons call calls induction =>
      have isNow := atOnce call List.mem_cons_self
      obtain ⟨last, rest⟩ := induction (limiter.after library call)
        (fun other member => atOnce other (List.mem_cons_of_mem _ member))
        (fun state label member => meets state label
          (List.mem_cons_of_mem _ member))
      have first : (rateLimiter library).RunWhere condition ⟨limiter, now⟩
          ([] ++ [⟨call, (limiter.check library call).map Prod.fst⟩])
          ⟨limiter.after library call, now⟩ := by
        refine .snoc .nil (meets _ _ List.mem_cons_self) ⟨?_, ?_, rfl, rfl⟩
        · intro time isTime
          rw [isNow] at isTime
          cases isTime
          exact le_rfl
        · rw [isNow]
          rfl
      exact ⟨last, first.append rest⟩

/-- The library on texts it leaves as they are. -/
def plainLibrary : Library where
  casefold text := text
  sha256 text := text

/-- A sign-in attempt at the epoch, one a minute allowed. -/
def attempt (key : String) : CheckCall where
  scope := "login"
  key := key
  now := some 0
  limit := 1
  window := seconds 60

def emptyLimiter : SlidingWindowRateLimiter where
  maxKeys := 128
  attempts := .empty
  capacity := by decide

theorem owner_valid :
    (attempt "owner").validate plainLibrary = .ok (0, "login:owner") := by
  decide +kernel

theorem bucket_keeps_limit_twice :
    ∃ last, SlidingWindow.Limited 1 (seconds 60)
        (allowedTimes plainLibrary "login:owner" (checkAll plainLibrary
          emptyLimiter [attempt "owner", attempt "owner"])) ∧
      RetriesAllowed plainLibrary "login:owner" 1 last := by
  have calls : ∀ call ∈ [attempt "owner", attempt "owner"],
      call = attempt "owner" := by
    simp
  obtain ⟨last, run⟩ : ∃ last, (rateLimiter plainLibrary).RunWhere
      (fun state label =>
        Fixed plainLibrary "login:owner" 1 (seconds 60) label.call ∧
          Spares plainLibrary "login:owner" (seconds 60) state.limiter label.call)
      ⟨emptyLimiter, 0⟩ (checkAll plainLibrary emptyLimiter
        [attempt "owner", attempt "owner"]) last := by
    apply run_checkAll
    · intro call member
      rw [calls call member]
      rfl
    · intro state label member
      rw [calls label.call member]
      exact ⟨fun _ _ => ⟨rfl, rfl⟩, spares_self owner_valid⟩
  have initial : (rateLimiter plainLibrary).initial ⟨emptyLimiter, 0⟩ := rfl
  exact ⟨last, bucket_keeps_limit initial run⟩

end Limit

/-! ## A bucket that is displaced -/

theorem checkAll_append {library : Library} (limiter : SlidingWindowRateLimiter)
    (first second : List CheckCall) :
    checkAll library limiter (first ++ second) =
      checkAll library limiter first ++
        checkAll library (first.foldl (·.after library) limiter) second := by
  induction first generalizing limiter with
  | nil => rfl
  | cons call first induction =>
      rw [List.cons_append, checkAll, checkAll, induction]
      rfl

/-- A call for a bucket that is not known is allowed. -/
theorem check_fresh {library : Library} {limiter : SlidingWindowRateLimiter}
    {call : CheckCall} {now : Timestamp} {bucket : String}
    (valid : call.validate library = .ok (now, bucket))
    (absent : limiter.attempts.find? bucket = none) :
    limiter.check library call = .ok (⟨true, 0⟩,
      { limiter with
        attempts := (limiter.attempts.moveToEnd bucket [now]).trim
          limiter.maxKeys }) := by
  have positive := (validate_ok valid).2.1
  have nothing : limiter.live bucket (now - call.window) = [] := by
    rw [SlidingWindowRateLimiter.live, absent]
    rfl
  rw [check_eq valid, SlidingWindowRateLimiter.count, nothing]
  simp only [List.length_nil, List.nil_append]
  rw [if_neg (by omega)]

/-- The entries after a call for a bucket that is not known. -/
theorem after_fresh {library : Library} {limiter : SlidingWindowRateLimiter}
    {call : CheckCall} {now : Timestamp} {bucket : String}
    (valid : call.validate library = .ok (now, bucket))
    (absent : limiter.attempts.find? bucket = none) :
    (limiter.after library call).attempts.entries =
      (limiter.attempts.entries ++ [(bucket, [now])]).drop
        (limiter.attempts.entries.length + 1 - limiter.maxKeys) ∧
      (limiter.after library call).maxKeys = limiter.maxKeys := by
  rw [SlidingWindowRateLimiter.after, check_fresh valid absent]
  refine ⟨?_, rfl⟩
  simp only [OrderedDict.trim]
  rw [OrderedDict.moveToEnd_absent absent, List.length_append,
    List.length_singleton]

/-- Calls for new buckets fill a limiter. -/
theorem entries_filled {library : Library} {now : Timestamp}
    {callOf : Nat → CheckCall} {bucket : Nat → String} {numbers : List Nat}
    (valid : ∀ number ∈ numbers,
      (callOf number).validate library = .ok (now, bucket number))
    {limiter : SlidingWindowRateLimiter}
    (distinct : (limiter.attempts.entries.map Prod.fst ++
      numbers.map bucket).Nodup)
    (room : limiter.attempts.entries.length + numbers.length ≤ limiter.maxKeys) :
    ((numbers.map callOf).foldl (·.after library) limiter).attempts.entries =
        limiter.attempts.entries ++
          numbers.map (fun number => (bucket number, [now])) ∧
      ((numbers.map callOf).foldl (·.after library) limiter).maxKeys =
        limiter.maxKeys := by
  induction numbers generalizing limiter with
  | nil => exact ⟨(List.append_nil _).symm, rfl⟩
  | cons number numbers induction =>
      have absent : limiter.attempts.find? (bucket number) = none := by
        rw [OrderedDict.find?_eq_none]
        intro member
        have disjoint := (List.nodup_append.mp distinct).2.2
        exact disjoint _ member _ List.mem_cons_self rfl
      obtain ⟨entries, capacity⟩ :=
        after_fresh (valid number List.mem_cons_self) absent
      rw [List.length_cons] at room
      rw [Nat.sub_eq_zero_of_le (by omega), List.drop_zero] at entries
      have distinctRest : ((limiter.after library
          (callOf number)).attempts.entries.map Prod.fst ++
            numbers.map bucket).Nodup := by
        simpa [entries] using distinct
      have roomRest : (limiter.after library
          (callOf number)).attempts.entries.length + numbers.length ≤
            (limiter.after library (callOf number)).maxKeys := by
        rw [entries, capacity, List.length_append, List.length_singleton]
        omega
      obtain ⟨filled, same⟩ := induction
        (fun other member => valid other (List.mem_cons_of_mem _ member))
        distinctRest roomRest
      rw [List.map_cons, List.foldl_cons]
      refine ⟨?_, same.trans capacity⟩
      rw [filled, entries, List.append_assoc]
      rfl

/-- A key of two letters. -/
def guestKey (number : Nat) : String :=
  String.ofList [Char.ofNat (97 + number / 16), Char.ofNat (97 + number % 16)]

def guestBucket (number : Nat) : String :=
  "login:" ++ guestKey number

/-- Calls of as many other clients. -/
def guests (count : Nat) : List CheckCall :=
  (List.range count).map fun number => attempt (guestKey number)

theorem letter_toNat : ∀ place < 16, (Char.ofNat (97 + place)).toNat = 97 + place := by
  decide

theorem letter_kept : ∀ place < 16, Text.isSpace (Char.ofNat (97 + place)) = false := by
  decide

/-- A key of two letters is neither stripped nor too long. -/
theorem bucketOf_guest {number : Nat} (inRange : number < 128) :
    bucketOf plainLibrary "login" (guestKey number) = .ok (guestBucket number) := by
  have high := letter_kept (number / 16) (by omega)
  have low := letter_kept (number % 16) (by omega)
  have stripped : Text.strip (guestKey number) = guestKey number := by
    rw [Text.strip, guestKey, String.toList_ofList]
    simp [Text.stripBoth, high, low]
  have length : (guestKey number).length = 2 := by
    rw [guestKey, String.length_ofList]
    rfl
  have isShort : ¬ (guestKey number = "" ∨ 512 < (guestKey number).length) := by
    rintro (isEmpty | isLong)
    · rw [isEmpty] at length
      cases length
    · omega
  have isScope : ¬ ("login" = "" ∨ 64 < "login".length) := by
    decide
  simp only [bucketOf, if_neg isScope, plainLibrary, stripped, if_neg isShort]
  rfl

theorem guest_valid : ∀ number < 128,
    (attempt (guestKey number)).validate plainLibrary =
      .ok (0, guestBucket number) := by
  intro number inRange
  change (bucketOf plainLibrary "login" (guestKey number)).map
    (fun bucket => ((0 : Timestamp), bucket)) = _
  rw [bucketOf_guest inRange]
  rfl

theorem guestBucket_toList (number : Nat) :
    (guestBucket number).toList = "login:".toList ++
      [Char.ofNat (97 + number / 16), Char.ofNat (97 + number % 16)] := by
  simp only [guestBucket, guestKey, String.toList_append, String.toList_ofList]

theorem guestBucket_injective {first second : Nat} (inRange : first < 128)
    (alsoInRange : second < 128)
    (same : guestBucket first = guestBucket second) : first = second := by
  have letters := congrArg String.toList same
  rw [guestBucket_toList, guestBucket_toList, List.append_cancel_left_eq,
    List.cons.injEq, List.cons.injEq] at letters
  have high := congrArg Char.toNat letters.1
  have low := congrArg Char.toNat letters.2.1
  rw [letter_toNat _ (by omega), letter_toNat _ (by omega)] at high low
  omega

theorem guestBucket_ne_owner (number : Nat) :
    guestBucket number ≠ "login:owner" := by
  intro same
  have sizes := congrArg (fun bucket => bucket.toList.length) same
  simp only [guestBucket_toList] at sizes
  simp at sizes

/-- Calls for other buckets are no part of the history of a bucket. -/
theorem allowedTimes_others {library : Library} {bucket : String}
    (limiter : SlidingWindowRateLimiter) {calls : List CheckCall}
    (others : ∀ call ∈ calls, ∀ now, call.validate library ≠ .ok (now, bucket)) :
    allowedTimes library bucket (checkAll library limiter calls) = [] := by
  induction calls generalizing limiter with
  | nil => rfl
  | cons call calls induction =>
      have rest := induction (limiter.after library call) fun other member =>
        others other (List.mem_cons_of_mem _ member)
      have differs := others call List.mem_cons_self
      rw [checkAll, allowedTimes, List.filterMap_cons]
      rw [allowedTimes] at rest
      rw [rest]
      cases valid : call.validate library with
      | error failure => rfl
      | ok admitted =>
          obtain ⟨now, other⟩ := admitted
          have notThis : other ≠ bucket := by
            rintro rfl
            exact differs now valid
          rw [check_eq valid]
          simp [Except.map, notThis]

/-- A call of a bucket that is not known is allowed, and so recorded. -/
theorem allowedTimes_fresh {library : Library}
    {limiter : SlidingWindowRateLimiter} {call : CheckCall} {now : Timestamp}
    {bucket : String} (valid : call.validate library = .ok (now, bucket))
    (absent : limiter.attempts.find? bucket = none) :
    allowedTimes library bucket (checkAll library limiter [call]) = [now] := by
  simp [checkAll, allowedTimes, valid, check_fresh valid absent, Except.map]

/-- One bucket is used, 128 others push it out, and it is used again. -/
def crowdedCalls : List CheckCall :=
  [attempt "owner"] ++ guests 127 ++ [attempt (guestKey 127)] ++ [attempt "owner"]

theorem crowded_allowed :
    allowedTimes plainLibrary "login:owner"
      (checkAll plainLibrary emptyLimiter crowdedCalls) = [0, 0] := by
  have unknown : emptyLimiter.attempts.find? "login:owner" = none := rfl
  obtain ⟨one, capacity⟩ := after_fresh owner_valid unknown
  have guestsValid : ∀ number ∈ List.range 127,
      (attempt (guestKey number)).validate plainLibrary =
        .ok (0, guestBucket number) := by
    intro number member
    exact guest_valid number (by have := List.mem_range.mp member; omega)
  have distinct : ("login:owner" ::
      (List.range 127).map guestBucket).Nodup := by
    rw [List.nodup_cons]
    constructor
    · intro member
      obtain ⟨number, _, same⟩ := List.mem_map.mp member
      exact guestBucket_ne_owner number same
    · apply List.Nodup.map_on _ List.nodup_range
      intro first inRange second alsoInRange same
      rw [List.mem_range] at inRange alsoInRange
      exact guestBucket_injective (by omega) (by omega) same
  generalize isOwned : emptyLimiter.after plainLibrary (attempt "owner") = owned
    at one capacity
  have entries : owned.attempts.entries = [("login:owner", [0])] := one
  have room : owned.attempts.entries.length + (List.range 127).length ≤
      owned.maxKeys := by
    rw [entries, capacity, List.length_range]
    exact le_rfl
  obtain ⟨filled, sameCapacity⟩ := entries_filled guestsValid
    (by rw [entries]; exact distinct) room
  generalize isFull : ((List.range 127).map fun number =>
    attempt (guestKey number)).foldl (·.after plainLibrary) owned = full
    at filled sameCapacity
  rw [entries] at filled
  have newcomer : full.attempts.find? (guestBucket 127) = none := by
    rw [OrderedDict.find?_eq_none, filled]
    intro member
    simp only [List.map_cons, List.map_map, List.singleton_append,
      List.mem_cons] at member
    rcases member with same | earlier
    · exact guestBucket_ne_owner 127 same
    · obtain ⟨number, inRange, same⟩ := List.mem_map.mp earlier
      have isLast := guestBucket_injective
        (by have := List.mem_range.mp inRange; omega) (by decide) same
      have below := List.mem_range.mp inRange
      omega
  obtain ⟨displaced, _⟩ := after_fresh (guest_valid 127 (by decide)) newcomer
  generalize isCrowded : full.after plainLibrary (attempt (guestKey 127)) =
    crowded at displaced
  have forgotten : crowded.attempts.find? "login:owner" = none := by
    rw [OrderedDict.find?_eq_none, displaced, filled, sameCapacity, capacity]
    intro member
    simp [emptyLimiter, guestBucket_ne_owner] at member
    exact guestBucket_ne_owner 127 member.symm
  have guestsElsewhere : allowedTimes plainLibrary "login:owner"
      (checkAll plainLibrary owned (guests 127)) = [] := by
    apply allowedTimes_others
    intro call member now valid
    obtain ⟨number, inRange, rfl⟩ := List.mem_map.mp member
    rw [guestsValid number inRange] at valid
    exact guestBucket_ne_owner number (Prod.ext_iff.mp (Except.ok.inj valid)).2
  have newcomerElsewhere : allowedTimes plainLibrary "login:owner"
      (checkAll plainLibrary full [attempt (guestKey 127)]) = [] := by
    apply allowedTimes_others
    intro call member now valid
    rw [List.mem_singleton.mp member, guest_valid 127 (by decide)] at valid
    exact guestBucket_ne_owner 127 (Prod.ext_iff.mp (Except.ok.inj valid)).2
  have afterOwner : [attempt "owner"].foldl (·.after plainLibrary) emptyLimiter =
      owned := by
    rw [List.foldl_cons, List.foldl_nil, isOwned]
  have afterGuests : (guests 127).foldl (·.after plainLibrary) owned = full :=
    isFull
  have afterNewcomer : [attempt (guestKey 127)].foldl (·.after plainLibrary) full =
      crowded := by
    rw [List.foldl_cons, List.foldl_nil, isCrowded]
  rw [crowdedCalls, checkAll_append, checkAll_append, checkAll_append,
    List.foldl_append, List.foldl_append, List.foldl_append, afterOwner,
    afterGuests, afterNewcomer, allowedTimes_append, allowedTimes_append, allowedTimes_append,
    guestsElsewhere, newcomerElsewhere, allowedTimes_fresh owner_valid unknown,
    allowedTimes_fresh owner_valid forgotten]
  rfl

theorem crowded_at_once : ∀ call ∈ crowdedCalls, call.now = some 0 := by
  intro call member
  simp only [crowdedCalls, guests, List.mem_append, List.mem_singleton,
    List.mem_map] at member
  rcases member with ((rfl | ⟨number, _, rfl⟩) | rfl) | rfl <;> rfl

theorem crowded_fixed : ∀ call ∈ crowdedCalls,
    Fixed plainLibrary "login:owner" 1 (seconds 60) call := by
  intro call member now _
  simp only [crowdedCalls, guests, List.mem_append, List.mem_singleton,
    List.mem_map] at member
  rcases member with ((rfl | ⟨number, _, rfl⟩) | rfl) | rfl <;> exact ⟨rfl, rfl⟩

theorem limit_fails_when_displaced :
    ¬ ∀ (library : Library) (bucket : String) (limit : Nat) (window : Int)
      (start state : LimiterState) (labels : List Checked),
      (rateLimiter library).initial start →
      (rateLimiter library).RunWhere
        (fun _ label => Fixed library bucket limit window label.call)
        start labels state →
      SlidingWindow.Limited limit window (allowedTimes library bucket labels) ∧
        RetriesAllowed library bucket limit state := by
  intro claimed
  obtain ⟨last, run⟩ : ∃ last, (rateLimiter plainLibrary).RunWhere
      (fun _ label => Fixed plainLibrary "login:owner" 1 (seconds 60) label.call)
      ⟨emptyLimiter, 0⟩ (checkAll plainLibrary emptyLimiter crowdedCalls) last :=
    run_checkAll emptyLimiter crowded_at_once fun _ label member =>
      crowded_fixed label.call member
  have limited := (claimed plainLibrary "login:owner" 1 (seconds 60)
    ⟨emptyLimiter, 0⟩ last _ rfl run).1 0 0 (by decide)
  rw [crowded_allowed] at limited
  revert limited
  decide

end RateLimits

end Access

end ControlForge
