import Mathlib.Logic.Basic

/-!
# Programs whose failure undoes nothing

An effect acts on a world outside of the program, one call after the other.
When it raises, what was done before stays done.  `Ensures` is its rule set: a
condition on the world before gives one on what the program returned or raised
and on the world after it.
-/

namespace ControlForge

/-- A program that acts on a world and may raise. -/
def Effect (World Failure Value : Type) : Type :=
  World → Except Failure Value × World

namespace Effect

variable {World Failure Value Result : Type}

instance : Monad (Effect World Failure) where
  pure value world := (.ok value, world)
  bind program next world :=
    match program world with
    | (.ok value, after) => next value after
    | (.error failure, after) => (.error failure, after)

instance : MonadExceptOf Failure (Effect World Failure) where
  throw failure world := (.error failure, world)
  tryCatch program handle world :=
    match program world with
    | (.ok value, after) => (.ok value, after)
    | (.error failure, after) => handle failure after

theorem bind_apply (program : Effect World Failure Value)
    (next : Value → Effect World Failure Result) (world : World) :
    (program >>= next) world =
      match program world with
      | (.ok value, after) => next value after
      | (.error failure, after) => (.error failure, after) :=
  rfl

theorem tryCatch_apply (program : Effect World Failure Value)
    (handle : Failure → Effect World Failure Value) (world : World) :
    (tryCatch program handle : Effect World Failure Value) world =
      match program world with
      | (.ok value, after) => (.ok value, after)
      | (.error failure, after) => handle failure after :=
  rfl

/-- `try: … finally: …`: a failure of the last part replaces the outcome. -/
def thenAlways (program : Effect World Failure Value)
    (last : Effect World Failure Unit) : Effect World Failure Value :=
  fun world =>
    let (outcome, after) := program world
    match last after with
    | (.ok _, final) => (outcome, final)
    | (.error failure, final) => (.error failure, final)

def gets (read : World → Value) : Effect World Failure Value :=
  fun world => (.ok (read world), world)

def ofExcept (result : Except Failure Value) : Effect World Failure Value :=
  fun world => (result, world)

def modify (change : World → World) : Effect World Failure Unit :=
  fun world => (.ok (), change world)

theorem pure_apply (value : Value) (world : World) :
    (pure value : Effect World Failure Value) world = (.ok value, world) :=
  rfl

theorem gets_apply (read : World → Value) (world : World) :
    (gets read : Effect World Failure Value) world = (.ok (read world), world) :=
  rfl

theorem modify_apply (change : World → World) (world : World) :
    (modify change : Effect World Failure Unit) world = (.ok (), change world) :=
  rfl

theorem ofExcept_apply (result : Except Failure Value) (world : World) :
    ofExcept result world = (result, world) :=
  rfl

/-! ## Rules -/

/-- From a world that meets `before`, the program ends in one that meets
`after` with what it returned or raised. -/
structure Ensures (before : World → Prop)
    (program : Effect World Failure Value)
    (after : Except Failure Value → World → Prop) : Prop where
  ends : ∀ world, before world → after (program world).1 (program world).2

namespace Ensures

variable {before : World → Prop} {program : Effect World Failure Value}
  {after : Except Failure Value → World → Prop}

theorem weaken {stronger : World → Prop}
    {middle : Except Failure Value → World → Prop}
    (ensures : Ensures before program middle)
    (implied : ∀ world, stronger world → before world)
    (implies : ∀ outcome world, middle outcome world → after outcome world) :
    Ensures stronger program after :=
  ⟨fun world holds => implies _ _ (ensures.ends world (implied world holds))⟩

theorem implies {middle : Except Failure Value → World → Prop}
    (ensures : Ensures before program middle)
    (implies : ∀ outcome world, middle outcome world → after outcome world) :
    Ensures before program after :=
  ensures.weaken (fun _ holds => holds) implies

theorem narrows {stronger : World → Prop}
    (ensures : Ensures before program after)
    (implied : ∀ world, stronger world → before world) :
    Ensures stronger program after :=
  ensures.weaken implied fun _ _ holds => holds

/-- The condition before may have a part that does not speak of the world. -/
theorem given {fact : Prop}
    (ensures : fact → Ensures before program after) :
    Ensures (fun world => fact ∧ before world) program after :=
  ⟨fun world ⟨holds, reached⟩ => (ensures holds).ends world reached⟩

theorem chosen {Choice : Type} {before : Choice → World → Prop}
    (ensures : ∀ choice, Ensures (before choice) program after) :
    Ensures (fun world => ∃ choice, before choice world) program after :=
  ⟨fun world ⟨choice, reached⟩ => (ensures choice).ends world reached⟩

theorem pointwise
    (ensures : ∀ world, before world →
      Ensures (fun reached => reached = world) program after) :
    Ensures before program after :=
  ⟨fun world holds => (ensures world holds).ends world rfl⟩

theorem returns {value : Value}
    (holds : ∀ world, before world → after (.ok value) world) :
    Ensures before (pure value) after :=
  ⟨holds⟩

theorem throws {failure : Failure}
    (holds : ∀ world, before world → after (.error failure) world) :
    Ensures before (throw failure) after :=
  ⟨holds⟩

theorem reads {read : World → Value}
    (holds : ∀ world, before world → after (.ok (read world)) world) :
    Ensures before (gets read) after :=
  ⟨holds⟩

theorem changes {change : World → World}
    {after : Except Failure Unit → World → Prop}
    (holds : ∀ world, before world → after (.ok ()) (change world)) :
    Ensures before (modify change) after :=
  ⟨holds⟩

/-- What the first part raises is passed on. -/
theorem bind {next : Value → Effect World Failure Result}
    {middle : Except Failure Value → World → Prop}
    {after : Except Failure Result → World → Prop}
    (first : Ensures before program middle)
    (returned : ∀ value, Ensures (middle (.ok value)) (next value) after)
    (raised : ∀ failure world, middle (.error failure) world →
      after (.error failure) world) :
    Ensures before (program >>= next) after := by
  refine ⟨fun world holds => ?_⟩
  have reached := first.ends world holds
  rw [bind_apply]
  generalize program world = ended at reached
  obtain ⟨outcome, final⟩ := ended
  cases outcome with
  | ok value => exact (returned value).ends final reached
  | error failure => exact raised failure final reached

/-- A first part that returns one value. -/
theorem followed {value : Value} {middle : World → Prop}
    {next : Value → Effect World Failure Result}
    {after : Except Failure Result → World → Prop}
    (first : Ensures before program fun outcome world =>
      outcome = .ok value ∧ middle world)
    (rest : Ensures middle (next value) after) :
    Ensures before (program >>= next) after := by
  apply first.bind
  · intro other
    apply given
    rintro ⟨rfl⟩
    exact rest
  · exact fun _ _ holds => nomatch holds.1

/-- A loop, with an invariant of what it has been through. -/
theorem foldlM {Item State : Type} {items : List Item}
    {step : State → Item → Effect World Failure State}
    (invariant : List Item → State → World → Prop)
    {after : Except Failure State → World → Prop} {initial : State}
    (body : ∀ done item rest state, items = done ++ item :: rest →
      Ensures (invariant done state) (step state item) fun outcome world =>
        match outcome with
        | .ok next => invariant (done ++ [item]) next world
        | .error failure => after (.error failure) world)
    (ended : ∀ state world, invariant items state world → after (.ok state) world) :
    Ensures (invariant [] initial) (items.foldlM step initial) after := by
  have loop : ∀ rest done state, items = done ++ rest →
      Ensures (invariant done state) (rest.foldlM step state) after := by
    intro rest
    induction rest with
    | nil =>
        intro done state isDone
        rw [List.append_nil] at isDone
        exact returns fun world holds => ended state world (isDone ▸ holds)
    | cons item rest induction =>
        intro done state isDone
        rw [List.foldlM_cons]
        apply (body done item rest state isDone).bind
        · intro next
          apply induction
          rw [isDone, List.append_assoc, List.singleton_append]
        · exact fun _ _ holds => holds
  exact loop items [] initial rfl

theorem catches {handle : Failure → Effect World Failure Value}
    {middle : Except Failure Value → World → Prop}
    (body : Ensures before program middle)
    (returned : ∀ value world, middle (.ok value) world →
      after (.ok value) world)
    (raised : ∀ failure, Ensures (middle (.error failure)) (handle failure)
      after) :
    Ensures before (tryCatch program handle) after := by
  refine ⟨fun world holds => ?_⟩
  have reached := body.ends world holds
  rw [tryCatch_apply]
  generalize program world = ended at reached
  obtain ⟨outcome, final⟩ := ended
  cases outcome with
  | ok value => exact returned value final reached
  | error failure => exact (raised failure).ends final reached

theorem always {last : Effect World Failure Unit}
    {middle : Except Failure Value → World → Prop}
    (body : Ensures before program middle)
    (ended : ∀ outcome, Ensures (middle outcome) last fun lastly world =>
      match lastly with
      | .ok _ => after outcome world
      | .error failure => after (.error failure) world) :
    Ensures before (program.thenAlways last) after := by
  refine ⟨fun world holds => ?_⟩
  have reached := body.ends world holds
  unfold Effect.thenAlways
  generalize program world = ran at reached
  obtain ⟨outcome, final⟩ := ran
  have lastly := (ended outcome).ends final reached
  dsimp only
  generalize last final = closed at lastly
  obtain ⟨result, closedWorld⟩ := closed
  cases result with
  | ok _ => exact lastly
  | error failure => exact lastly

end Ensures

/-! ## Programs that only look -/

/-- A program that changes nothing, and what holds of a value it returns. -/
def Finds (world : World) (program : Effect World Failure Value)
    (fact : Value → Prop) : Prop :=
  (program world).2 = world ∧ ∀ value, (program world).1 = .ok value → fact value

namespace Finds

variable {world : World} {program : Effect World Failure Value}
  {fact : Value → Prop}

theorem weaken {stronger : Value → Prop} (finds : Finds world program stronger)
    (implies : ∀ value, stronger value → fact value) :
    Finds world program fact :=
  ⟨finds.1, fun value returned => implies value (finds.2 value returned)⟩

theorem returns {value : Value} (holds : fact value) :
    Finds world (pure value : Effect World Failure Value) fact := by
  refine ⟨rfl, ?_⟩
  rintro other ⟨⟩
  exact holds

theorem throws {failure : Failure} :
    Finds world (throw failure : Effect World Failure Value) fact := by
  refine ⟨rfl, ?_⟩
  rintro value ⟨⟩

theorem reads {read : World → Value} :
    Finds world (gets read : Effect World Failure Value) (· = read world) := by
  refine ⟨rfl, ?_⟩
  rintro value ⟨⟩
  rfl

theorem ofExcept {result : Except Failure Value} :
    Finds world (Effect.ofExcept result) (result = .ok ·) :=
  ⟨rfl, fun _ returned => returned⟩

theorem bind {next : Value → Effect World Failure Result}
    {last : Result → Prop} (first : Finds world program fact)
    (rest : ∀ value, fact value → Finds world (next value) last) :
    Finds world (program >>= next) last := by
  obtain ⟨unchanged, known⟩ := first
  unfold Finds
  rw [bind_apply]
  generalize program world = ended at unchanged known
  obtain ⟨outcome, after⟩ := ended
  cases unchanged
  cases outcome with
  | ok value => exact rest value (known value rfl)
  | error failure =>
      refine ⟨rfl, ?_⟩
      rintro value ⟨⟩

/-- What follows a program that only looks starts in the same world. -/
theorem followed {next : Value → Effect World Failure Result}
    {after : Except Failure Result → World → Prop}
    (first : Finds world program fact)
    (rest : ∀ value, fact value →
      Ensures (fun reached => reached = world) (next value) after)
    (raised : ∀ failure, after (.error failure) world) :
    Ensures (fun reached => reached = world) (program >>= next) after := by
  obtain ⟨unchanged, known⟩ := first
  refine ⟨?_⟩
  rintro reached rfl
  rw [bind_apply]
  generalize program reached = ended at unchanged known
  obtain ⟨outcome, final⟩ := ended
  cases unchanged
  cases outcome with
  | ok value => exact (rest value (known value rfl)).ends _ rfl
  | error failure => exact raised failure

end Finds

end Effect

end ControlForge
