import Mathlib.Logic.Relation

/-!
# Transactions that commit or roll back

A transaction reads and writes a database and may raise.  `commit` runs it: a
failure leaves the database as it was.  `Guarantees` is the partial-correctness
rule set used for transactions: it relates the database before a transaction,
the value it returns, and the database after it.
-/

namespace ControlForge

@[simp] theorem isOk_ok {Failure Value : Type} (value : Value) :
    (Except.ok value : Except Failure Value).isOk = true := rfl

@[simp] theorem isOk_error {Failure Value : Type} (failure : Failure) :
    (Except.error failure : Except Failure Value).isOk = false := rfl

theorem bind_eq_ok {Failure Value Result : Type}
    {computation : Except Failure Value}
    {next : Value → Except Failure Result} {result : Result} :
    (computation >>= next) = .ok result ↔
      ∃ value, computation = .ok value ∧ next value = .ok result := by
  cases computation with
  | error failure => simp [bind, Except.bind]
  | ok value => simp [bind, Except.bind]

/-- A program over a database that may raise a failure. -/
abbrev Transaction (Database Failure : Type) : Type → Type :=
  StateT Database (Except Failure)

namespace Transaction

variable {Database Failure Value Result : Type}

def require (condition : Prop) [Decidable condition] (failure : Failure) :
    Transaction Database Failure Unit :=
  if condition then pure () else throw failure

def ofExcept (result : Except Failure Value) :
    Transaction Database Failure Value :=
  fun database => result.map fun value => (value, database)

/-- Begin, run and commit; a raised failure rolls everything back. -/
def commit (program : Transaction Database Failure Value)
    (database : Database) : Except Failure Value × Database :=
  match program database with
  | .ok (value, after) => (.ok value, after)
  | .error failure => (.error failure, database)

theorem commit_error {program : Transaction Database Failure Value}
    {database after : Database} {failure : Failure}
    (raised : program.commit database = (.error failure, after)) :
    after = database := by
  unfold commit at raised
  split at raised
  · cases raised
  · cases raised
    rfl

theorem commit_ok {program : Transaction Database Failure Value}
    {database after : Database} {value : Value}
    (succeeded : program.commit database = (.ok value, after)) :
    program database = .ok (value, after) := by
  unfold commit at succeeded
  split at succeeded
  · next equation =>
      cases succeeded
      exact equation
  · cases succeeded

theorem commit_raised {program : Transaction Database Failure Value}
    {database after : Database} {failure : Failure}
    (raised : program.commit database = (.error failure, after)) :
    program database = .error failure := by
  unfold commit at raised
  split at raised
  · cases raised
  · next equation =>
      cases raised
      exact equation

/-! ## Running the primitive programs -/

@[simp] theorem run_pure (value : Value) (database : Database) :
    (pure value : Transaction Database Failure Value) database =
      .ok (value, database) := rfl

@[simp] theorem run_throw (failure : Failure) (database : Database) :
    (throw failure : Transaction Database Failure Value) database =
      .error failure := rfl

@[simp] theorem run_get (database : Database) :
    (get : Transaction Database Failure Database) database =
      .ok (database, database) := rfl

@[simp] theorem run_set (next database : Database) :
    (set next : Transaction Database Failure PUnit) database =
      .ok (⟨⟩, next) := rfl

@[simp] theorem run_modify (change : Database → Database)
    (database : Database) :
    (modify change : Transaction Database Failure PUnit) database =
      .ok (⟨⟩, change database) := rfl

@[simp] theorem run_ofExcept_ok (value : Value) (database : Database) :
    (ofExcept (.ok value) : Transaction Database Failure Value) database =
      .ok (value, database) := rfl

@[simp] theorem run_ofExcept_error (failure : Failure) (database : Database) :
    (ofExcept (.error failure) : Transaction Database Failure Value) database =
      .error failure := rfl

theorem run_ofExcept_eq_ok {result : Except Failure Value}
    {database after : Database} {value : Value} :
    ofExcept result database = .ok (value, after) ↔
      result = .ok value ∧ after = database := by
  cases result with
  | error failure => simp
  | ok read => simp [eq_comm]

theorem run_bind (program : Transaction Database Failure Value)
    (next : Value → Transaction Database Failure Result)
    (database : Database) :
    (program >>= next) database =
      match program database with
      | .ok (value, middle) => next value middle
      | .error failure => .error failure := by
  change (do let (value, middle) ← program database; next value middle) = _
  cases program database <;> rfl

theorem run_bind_ok {program : Transaction Database Failure Value}
    {next : Value → Transaction Database Failure Result}
    {database after : Database} {result : Result} :
    (program >>= next) database = .ok (result, after) ↔
      ∃ value middle, program database = .ok (value, middle) ∧
        next value middle = .ok (result, after) := by
  rw [run_bind]
  cases outcome : program database with
  | error failure => simp
  | ok pair =>
      obtain ⟨value, middle⟩ := pair
      constructor
      · intro continued
        exact ⟨value, middle, rfl, continued⟩
      · rintro ⟨_, _, same, continued⟩
        cases same
        exact continued

theorem run_bind_error {program : Transaction Database Failure Value}
    {next : Value → Transaction Database Failure Result}
    {database : Database} {failure : Failure} :
    (program >>= next) database = .error failure ↔
      program database = .error failure ∨
        ∃ value middle, program database = .ok (value, middle) ∧
          next value middle = .error failure := by
  rw [run_bind]
  cases outcome : program database with
  | error raised => simp
  | ok pair =>
      obtain ⟨value, middle⟩ := pair
      constructor
      · intro continued
        exact .inr ⟨value, middle, rfl, continued⟩
      · rintro (raised | ⟨_, _, same, continued⟩)
        · cases raised
        · cases same
          exact continued

theorem run_map_ok {program : Transaction Database Failure Value}
    {function : Value → Result} {database after : Database} {result : Result} :
    (function <$> program) database = .ok (result, after) ↔
      ∃ value, program database = .ok (value, after) ∧
        function value = result := by
  change (program database).map (fun pair => (function pair.1, pair.2)) = _ ↔ _
  cases program database with
  | error failure => simp [Except.map]
  | ok pair =>
      obtain ⟨value, middle⟩ := pair
      simp only [Except.map, Except.ok.injEq, Prod.mk.injEq]
      constructor
      · rintro ⟨same, rfl⟩
        exact ⟨value, ⟨rfl, rfl⟩, same⟩
      · rintro ⟨_, ⟨rfl, rfl⟩, same⟩
        exact ⟨same, rfl⟩

theorem run_require_ok {condition : Prop} [Decidable condition]
    {failure : Failure} {database after : Database} {result : Unit} :
    require condition failure database = .ok (result, after) ↔
      condition ∧ after = database := by
  unfold require
  split
  · next holds => simp [holds, eq_comm]
  · next fails => simp [fails]

theorem run_require_of {condition : Prop} [Decidable condition]
    {failure : Failure} {database : Database} (holds : condition) :
    require condition failure database = .ok ((), database) := by
  simp [require, holds]

theorem run_require_not {condition : Prop} [Decidable condition]
    {failure : Failure} {database : Database} (fails : ¬ condition) :
    require condition failure database = .error failure := by
  simp [require, fails]

/-! ## Rules -/

/-- Every successful run of the program satisfies the relation. -/
def Guarantees (relation : Database → Value → Database → Prop)
    (program : Transaction Database Failure Value) : Prop :=
  ∀ before value after,
    program before = .ok (value, after) → relation before value after

/-- A program that moves the database along a preorder, whatever it returns. -/
def Follows (relation : Database → Database → Prop)
    (program : Transaction Database Failure Value) : Prop :=
  Guarantees (fun before _ after => relation before after) program

variable {relation : Database → Database → Prop}

theorem Guarantees.mono {weaker stronger : Database → Value → Database → Prop}
    {program : Transaction Database Failure Value}
    (guaranteed : Guarantees stronger program)
    (implies : ∀ before value after,
      stronger before value after → weaker before value after) :
    Guarantees weaker program :=
  fun before value after succeeded =>
    implies before value after (guaranteed before value after succeeded)

theorem Follows.pure [Std.Refl relation] (value : Value) :
    Follows relation (pure value : Transaction Database Failure Value) := by
  intro before result after succeeded
  cases succeeded
  exact Std.Refl.refl _

theorem Follows.get [Std.Refl relation] :
    Follows relation (get : Transaction Database Failure Database) := by
  intro before result after succeeded
  cases succeeded
  exact Std.Refl.refl _

theorem Follows.throw (failure : Failure) :
    Follows relation (throw failure : Transaction Database Failure Value) := by
  intro before result after succeeded
  cases succeeded

theorem Follows.require [Std.Refl relation]
    (condition : Prop) [Decidable condition] (failure : Failure) :
    Follows relation
      (Transaction.require condition failure :
        Transaction Database Failure Unit) := by
  intro before result after succeeded
  rw [(run_require_ok.mp succeeded).2]
  exact Std.Refl.refl _

theorem Follows.ofExcept [Std.Refl relation] (result : Except Failure Value) :
    Follows relation
      (Transaction.ofExcept result : Transaction Database Failure Value) := by
  intro before value after succeeded
  cases result with
  | error failure => cases succeeded
  | ok read =>
      cases succeeded
      exact Std.Refl.refl _

theorem Follows.bind [IsTrans Database relation]
    {program : Transaction Database Failure Value}
    {next : Value → Transaction Database Failure Result}
    (first : Follows relation program)
    (rest : ∀ value, Follows relation (next value)) :
    Follows relation (program >>= next) := by
  intro before result after succeeded
  obtain ⟨value, middle, ran, continued⟩ := run_bind_ok.mp succeeded
  exact IsTrans.trans _ _ _ (first _ _ _ ran) (rest value _ _ _ continued)

theorem Follows.map {program : Transaction Database Failure Value}
    (follows : Follows relation program) (function : Value → Result) :
    Follows relation (function <$> program) := by
  intro before result after succeeded
  obtain ⟨value, ran, -⟩ := run_map_ok.mp succeeded
  exact follows _ _ _ ran

theorem Follows.ite {condition : Prop} [Decidable condition]
    {whenTrue whenFalse : Transaction Database Failure Value}
    (trueBranch : condition → Follows relation whenTrue)
    (falseBranch : ¬ condition → Follows relation whenFalse) :
    Follows relation (if condition then whenTrue else whenFalse) := by
  split
  · next holds => exact trueBranch holds
  · next fails => exact falseBranch fails

theorem Follows.forM [Std.Refl relation] [IsTrans Database relation]
    {Item : Type} {items : List Item}
    {body : Item → Transaction Database Failure PUnit}
    (each : ∀ item ∈ items, Follows relation (body item)) :
    Follows relation (items.forM body) := by
  induction items with
  | nil => exact Follows.pure _
  | cons item items induction =>
      refine Follows.bind (each item (by simp)) fun _ => ?_
      exact induction fun other member => each other (by simp [member])

theorem Follows.mapM [Std.Refl relation] [IsTrans Database relation]
    {Item : Type} {items : List Item}
    {body : Item → Transaction Database Failure Value}
    (each : ∀ item ∈ items, Follows relation (body item)) :
    Follows relation (items.mapM body) := by
  induction items with
  | nil =>
      rw [List.mapM_nil]
      exact Follows.pure _
  | cons item items induction =>
      rw [List.mapM_cons]
      refine Follows.bind (each item (by simp)) fun _ => ?_
      refine Follows.bind ?_ fun _ => Follows.pure _
      exact induction fun other member => each other (by simp [member])

/-- A loop that raises does so at one item, after the items before it. -/
theorem mapM_error [Std.Refl relation] [IsTrans Database relation]
    {Item : Type} {items : List Item}
    {body : Item → Transaction Database Failure Value}
    (each : ∀ item ∈ items, Follows relation (body item))
    {before : Database} {failure : Failure}
    (raised : items.mapM body before = .error failure) :
    ∃ item ∈ items, ∃ middle, relation before middle ∧
      body item middle = .error failure := by
  induction items generalizing before with
  | nil =>
      rw [List.mapM_nil] at raised
      cases raised
  | cons item items induction =>
      rw [List.mapM_cons] at raised
      rcases run_bind_error.mp raised with
        first | ⟨value, middle, ran, later⟩
      · exact ⟨item, List.mem_cons_self, before, Std.Refl.refl _, first⟩
      · rcases run_bind_error.mp later with
          rest | ⟨values, last, -, returned⟩
        · obtain ⟨other, member, reached, follows, failed⟩ := induction
            (fun other member => each other (List.mem_cons_of_mem _ member))
            rest
          have start := each item List.mem_cons_self _ _ _ ran
          exact ⟨other, List.mem_cons_of_mem _ member, reached,
            IsTrans.trans _ _ _ start follows, failed⟩
        · cases returned

/-! ## Failures -/

/-- Every failure the program raises is an allowed one. -/
def Raises (allowed : Failure → Prop)
    (program : Transaction Database Failure Value) : Prop :=
  ∀ before failure, program before = .error failure → allowed failure

variable {allowed : Failure → Prop}

theorem Raises.pure (value : Value) :
    Raises allowed (pure value : Transaction Database Failure Value) := by
  intro before failure raised
  cases raised

theorem Raises.get :
    Raises allowed (get : Transaction Database Failure Database) := by
  intro before failure raised
  cases raised

theorem Raises.throw {raised : Failure} (isAllowed : allowed raised) :
    Raises allowed (throw raised : Transaction Database Failure Value) := by
  intro before failure same
  cases same
  exact isAllowed

theorem Raises.require {condition : Prop} [Decidable condition]
    {raised : Failure} (isAllowed : allowed raised) :
    Raises allowed (Transaction.require condition raised :
      Transaction Database Failure Unit) := by
  intro before failure same
  unfold Transaction.require at same
  split at same
  · cases same
  · cases same
    exact isAllowed

theorem Raises.ofExcept {result : Except Failure Value}
    (isAllowed : ∀ failure, result = .error failure → allowed failure) :
    Raises allowed (Transaction.ofExcept result :
      Transaction Database Failure Value) := by
  intro before failure same
  cases result with
  | error raised =>
      cases same
      exact isAllowed failure rfl
  | ok value => cases same

theorem Raises.bind {program : Transaction Database Failure Value}
    {next : Value → Transaction Database Failure Result}
    (first : Raises allowed program)
    (rest : ∀ value, Raises allowed (next value)) :
    Raises allowed (program >>= next) := by
  intro before failure raised
  rcases run_bind_error.mp raised with early | ⟨value, middle, -, late⟩
  · exact first before failure early
  · exact rest value middle failure late

end Transaction

end ControlForge
