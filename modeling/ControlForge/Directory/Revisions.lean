import ControlForge.Directory.Origins
import ControlForge.Directory.Updates

/-!
# No update of a network, a member or an account is lost

Every update names the revision it was made for.  `RevisionStep` says what a step
does to the revisions: a change moves one object from the revision it names to
the next, and everything else leaves all revisions alone.  Over a run the changes
of an object carry rising revisions, so no two of them carry the same.
-/

namespace ControlForge

namespace Directory

namespace Revisions

open Access

variable {Log : Type} {services : Services Log}

/-! ## Revisions -/

def revisionOf (records : Records Log) : ManagedObject → Int
  | .network tenantId => networkRevision records.toAppliance tenantId
  | .member tenantId userId =>
      memberRevision records.toAppliance tenantId userId
  | .account tenantId accountId => accountRevision records tenantId accountId

/-- The changes of an object, each by the revision it was made for. -/
def changesOf (object : ManagedObject) (events : List Event) : List Int :=
  events.filterMap fun event =>
    match event with
    | .updated updated expected true =>
        if updated = object then some expected else none
    | _ => none

@[simp] theorem changesOf_append (object : ManagedObject)
    (events later : List Event) :
    changesOf object (events ++ later) =
      changesOf object events ++ changesOf object later :=
  List.filterMap_append

@[simp] theorem changesOf_nil (object : ManagedObject) :
    changesOf object [] = [] := rfl

/-- An event that changes no object. -/
theorem changesOf_eq_nil {object : ManagedObject} {events : List Event}
    (unchanged : ∀ event ∈ events, ∀ updated expected,
      event ≠ .updated updated expected true) :
    changesOf object events = [] := by
  rw [changesOf, List.filterMap_eq_nil_iff]
  intro event member
  split
  · next updated expected =>
      exact absurd rfl (unchanged _ member updated expected)
  · rfl

/-! ## Tables of revisions -/

section Tables

variable {before after : Records Log}

/-- The replacement of one row does not hide another. -/
theorem find?_bumped {Row : Type} {rows : List Row} {bumped : Row}
    {kept selected : Row → Bool} (notBumped : selected bumped = false)
    (keeps : ∀ row, selected row = true → kept row = true) :
    (bumped :: rows.filter kept).find? selected = rows.find? selected := by
  rw [List.find?_cons_of_neg (Bool.eq_false_iff.mp notBumped),
    List.find?_filter]
  congr 1
  funext row
  cases isSelected : selected row with
  | false => simp
  | true => simp [keeps row isSelected]

theorem networkRevision_bumped {tenantId : String} {revision : Int}
    (written : after.networkRevisions =
      ⟨tenantId, revision⟩ :: before.networkRevisions.filter fun row =>
        row.tenantId ≠ tenantId) (other : String) :
    networkRevision after.toAppliance other =
      if other = tenantId then revision
      else networkRevision before.toAppliance other := by
  unfold networkRevision
  rw [written]
  by_cases isSame : other = tenantId
  · simp [isSame]
  · rw [if_neg isSame, find?_bumped]
    · exact decide_eq_false (Ne.symm isSame)
    · intro row isOther
      rw [of_decide_eq_true isOther]
      exact decide_eq_true isSame

theorem memberRevision_bumped {tenantId userId : String} {revision : Int}
    (written : after.memberRevisions =
      ⟨tenantId, userId, revision⟩ :: before.memberRevisions.filter fun row =>
        ¬ (row.tenantId = tenantId ∧ row.userId = userId))
    (otherTenant otherUser : String) :
    memberRevision after.toAppliance otherTenant otherUser =
      if otherTenant = tenantId ∧ otherUser = userId then revision
      else memberRevision before.toAppliance otherTenant otherUser := by
  unfold memberRevision
  rw [written]
  by_cases isSame : otherTenant = tenantId ∧ otherUser = userId
  · simp [isSame]
  · rw [if_neg isSame, find?_bumped]
    · exact decide_eq_false fun same => isSame ⟨same.1.symm, same.2.symm⟩
    · intro row isOther
      obtain ⟨isTenant, isUser⟩ := of_decide_eq_true isOther
      rw [isTenant, isUser]
      exact decide_eq_true isSame

theorem accountRevision_bumped {tenantId accountId : String} {revision : Int}
    (written : after.accountRevisions =
      ⟨tenantId, accountId, revision⟩ ::
        before.accountRevisions.filter fun row =>
          ¬ (row.tenantId = tenantId ∧ row.accountId = accountId))
    (otherTenant otherAccount : String) :
    accountRevision after otherTenant otherAccount =
      if otherTenant = tenantId ∧ otherAccount = accountId then revision
      else accountRevision before otherTenant otherAccount := by
  unfold accountRevision
  rw [written]
  by_cases isSame : otherTenant = tenantId ∧ otherAccount = accountId
  · simp [isSame]
  · rw [if_neg isSame, find?_bumped]
    · exact decide_eq_false fun same => isSame ⟨same.1.symm, same.2.symm⟩
    · intro row isOther
      obtain ⟨isTenant, isAccount⟩ := of_decide_eq_true isOther
      rw [isTenant, isAccount]
      exact decide_eq_true isSame

/-- Revisions depend on three tables. -/
theorem revisionOf_congr (networks : after.networkRevisions =
      before.networkRevisions)
    (members : after.memberRevisions = before.memberRevisions)
    (accounts : after.accountRevisions = before.accountRevisions)
    (object : ManagedObject) : revisionOf after object =
      revisionOf before object := by
  cases object <;>
    simp only [revisionOf, networkRevision, memberRevision, accountRevision,
      networks, members, accounts]

end Tables

/-! ## What a change does -/

/-- One object goes from the revision it is expected to have to the next. -/
structure Raises (object : ManagedObject) (expected : Int)
    (before after : Records Log) : Prop where
  current : revisionOf before object = expected
  next : revisionOf after object = expected + 1
  others : ∀ other, other ≠ object →
    revisionOf after other = revisionOf before other

/-- What an update that succeeds does to the records. -/
def UpdateStep (object : ManagedObject) (expected : Int) (changed : Bool)
    (before after : Records Log) : Prop :=
  if changed = true then Raises object expected before after
  else after = before

section Updates

variable {records after : Records Log} {now : Timestamp}
  {principal : SessionPrincipal}

theorem raises_network {tenantId : String} {revision : Int}
    (current : networkRevision records.toAppliance tenantId = revision)
    (written : after.networkRevisions =
      ⟨tenantId, revision + 1⟩ :: records.networkRevisions.filter fun row =>
        row.tenantId ≠ tenantId)
    (members : after.memberRevisions = records.memberRevisions)
    (accounts : after.accountRevisions = records.accountRevisions) :
    Raises (.network tenantId) revision records after where
  current := current
  next := by
    rw [revisionOf, networkRevision_bumped written, if_pos rfl]
  others other different := by
    cases other with
    | network otherId =>
        have isOther : otherId ≠ tenantId := fun same =>
          different (congrArg ManagedObject.network same)
        rw [revisionOf, networkRevision_bumped written, if_neg isOther]
        rfl
    | member => simp only [revisionOf, memberRevision, members]
    | account => simp only [revisionOf, accountRevision, accounts]

theorem raises_member {tenantId userId : String} {revision : Int}
    (current : memberRevision records.toAppliance tenantId userId = revision)
    (written : after.memberRevisions =
      ⟨tenantId, userId, revision + 1⟩ ::
        records.memberRevisions.filter fun row =>
          ¬ (row.tenantId = tenantId ∧ row.userId = userId))
    (networks : after.networkRevisions = records.networkRevisions)
    (accounts : after.accountRevisions = records.accountRevisions) :
    Raises (.member tenantId userId) revision records after where
  current := current
  next := by
    rw [revisionOf, memberRevision_bumped written, if_pos ⟨rfl, rfl⟩]
  others other different := by
    cases other with
    | member otherTenant otherUser =>
        have isOther : ¬ (otherTenant = tenantId ∧ otherUser = userId) := by
          rintro ⟨rfl, rfl⟩
          exact different rfl
        rw [revisionOf, memberRevision_bumped written, if_neg isOther]
        rfl
    | network => simp only [revisionOf, networkRevision, networks]
    | account => simp only [revisionOf, accountRevision, accounts]

theorem raises_account {tenantId accountId : String} {revision : Int}
    (current : accountRevision records tenantId accountId = revision)
    (written : after.accountRevisions =
      ⟨tenantId, accountId, revision + 1⟩ ::
        records.accountRevisions.filter fun row =>
          ¬ (row.tenantId = tenantId ∧ row.accountId = accountId))
    (networks : after.networkRevisions = records.networkRevisions)
    (members : after.memberRevisions = records.memberRevisions) :
    Raises (.account tenantId accountId) revision records after where
  current := current
  next := by
    rw [revisionOf, accountRevision_bumped written, if_pos ⟨rfl, rfl⟩]
  others other different := by
    cases other with
    | account otherTenant otherAccount =>
        have isOther :
            ¬ (otherTenant = tenantId ∧ otherAccount = accountId) := by
          rintro ⟨rfl, rfl⟩
          exact different rfl
        rw [revisionOf, accountRevision_bumped written, if_neg isOther]
        rfl
    | network => simp only [revisionOf, networkRevision, networks]
    | member => simp only [revisionOf, memberRevision, members]

/-- Whether an update changes a network can be read off the row it finds. -/
theorem changesNetwork_iff {input : NetworkUpdate} {previous : TenantRecord}
    (found : NetworkFound input records.toAppliance previous) :
    changesNetwork records input = true ↔
      ¬ (previous.displayName = Text.strip input.displayName ∧
        previous.status = input.status) := by
  unfold changesNetwork
  rw [List.any_eq_true]
  constructor
  · rintro ⟨row, member, isChange⟩
    obtain ⟨isKey, differs⟩ := of_decide_eq_true isChange
    have sameKey : row.tenantId = previous.tenantId :=
      isKey.trans found.key.symm
    have isPrevious : row = previous :=
      Table.eq_of_clash member found.stored
        (decide_eq_true (.inl sameKey)) (decide_eq_true (.inl sameKey.symm))
    rw [← isPrevious]
    exact differs
  · intro differs
    exact ⟨previous, found.stored, decide_eq_true ⟨found.key, differs⟩⟩

theorem updateNetwork_step {input : NetworkUpdate} {changed : Bool}
    {suspension : Option AuthorityChange}
    (ran : updateNetwork services principal input now records =
      .ok ((changed, suspension), after)) :
    UpdateStep (.network input.tenantId) input.revision changed records
      after := by
  have touches : Touches networkTables records after :=
    touches_updateNetwork services _ _ _ _ _ _ ran
  obtain ⟨_, _, read, rest⟩ := Transaction.run_bind_ok.mp ran
  cases read
  obtain ⟨_, middle, updated, returned⟩ := Transaction.run_bind_ok.mp rest
  cases returned
  obtain ⟨appliance, updating, rfl⟩ := inAppliance_ok updated
  obtain ⟨previous, found, outcome⟩ := updateNetwork_ok updating
  unfold UpdateStep
  rcases outcome with ⟨sameName, sameStatus, -, rfl⟩ | written
  · have isSame : ¬ changesNetwork records input = true := by
      rw [changesNetwork_iff found]
      exact not_not_intro ⟨sameName, sameStatus⟩
    rw [if_neg isSame]
  · rw [if_pos ((changesNetwork_iff found).mpr written.differs)]
    exact raises_network found.current written.revisions
      (touches .memberRevisions (by simp)) (touches .accountRevisions (by simp))

theorem adoptNamespace_step {input : NamespaceInput}
    (ran : adoptNamespace services principal input now records =
      .ok ((), after)) :
    UpdateStep (.network input.tenantId) input.revision true records after := by
  have touches : Touches [.namespaces, .networkRevisions, .audit] records
      after := touches_adoptNamespace services _ _ _ _ _ _ ran
  obtain ⟨current, written⟩ := adoptNamespace_ok ran
  exact raises_network current written (touches .memberRevisions (by simp))
    (touches .accountRevisions (by simp))

theorem updateMember_step {input : MemberUpdate} {changed : Bool}
    (ran : updateMember services principal input now records =
      .ok (changed, after)) :
    UpdateStep (.member principal.tenantId input.userId) input.revision changed
      records after := by
  have touches : Touches memberTables records after :=
    touches_updateMember services _ _ _ _ _ _ ran
  obtain ⟨change, middle, updated, returned⟩ := Transaction.run_bind_ok.mp ran
  cases returned
  obtain ⟨appliance, updating, rfl⟩ := inAppliance_ok updated
  obtain ⟨target, found, outcome⟩ := updateMember_ok updating
  unfold UpdateStep
  rcases outcome with ⟨rfl, rfl⟩ | ⟨isSome, written⟩
  · rfl
  · rw [if_pos isSome]
    exact raises_member found.current written.revisions
      (touches .networkRevisions (by simp))
      (touches .accountRevisions (by simp))

theorem updateAccount_step {input : AccountUpdate} {change : AccountChange}
    (ran : updateAccount services principal input now records =
      .ok (change, after)) :
    UpdateStep (.account principal.tenantId input.accountId) input.revision
      (decide (change ≠ .unchanged)) records after := by
  have touches : Touches accountTables records after :=
    touches_updateAccount services _ _ _ _ _ _ ran
  obtain ⟨previous, found, outcome⟩ := updateAccount_ok ran
  unfold UpdateStep
  rcases outcome with ⟨rfl, rfl⟩ | ⟨-, written⟩
  · rfl
  · rw [if_pos (decide_eq_true written.changes)]
    exact raises_account found.current written.revisions
      (touches .networkRevisions (by simp))
      (touches .memberRevisions (by simp))

theorem updates_step {object : ManagedObject} {expected : Int} {changed : Bool}
    {draw : Draw} {point : Point}
    (updates : Updates services draw records after object expected changed
      point) : UpdateStep object expected changed records after := by
  cases point with
  | called call =>
      cases call with
      | updateNetwork principal input =>
          obtain ⟨rfl, rfl, suspension, ran⟩ := updates
          exact updateNetwork_step ran
      | adoptNamespace principal input =>
          obtain ⟨rfl, rfl, rfl, ran⟩ := updates
          exact adoptNamespace_step ran
      | updateMember principal input =>
          obtain ⟨rfl, rfl, ran⟩ := updates
          exact updateMember_step ran
      | updateAccount principal input =>
          obtain ⟨rfl, rfl, change, rfl, ran⟩ := updates
          exact updateAccount_step ran
      | _ => cases updates
  | _ => cases updates

end Updates

/-! ## Steps -/

/-- A step raises every revision by the changes it reports, and reports them for
the revision it has found. -/
structure RevisionStep (events : List Event) (before after : Records Log) :
    Prop where
  raised : ∀ object, revisionOf after object =
    revisionOf before object + (changesOf object events).length
  current : ∀ object, changesOf object events = [] ∨
    changesOf object events = [revisionOf before object]

section Steps

variable {records after : Records Log} {draw : Draw} {point next : Point}
  {effect : Effect} {events : List Event}

theorem RevisionStep.refl (noChange : ∀ object, changesOf object events = [])
    (same : ∀ object, revisionOf after object = revisionOf records object) :
    RevisionStep events records after where
  raised object := by simp [noChange, same]
  current object := .inl (noChange object)

theorem RevisionStep.of_update {object : ManagedObject} {expected : Int}
    {changed : Bool} {later : List Event}
    (step : UpdateStep object expected changed records after)
    (noChange : ∀ object, changesOf object later = []) :
    RevisionStep (.updated object expected changed :: later) records after := by
  unfold UpdateStep at step
  cases changed with
  | false =>
      rw [if_neg Bool.false_ne_true] at step
      rw [step]
      exact .refl noChange fun _ => rfl
  | true =>
      rw [if_pos rfl] at step
      have reports : ∀ other,
          changesOf other (.updated object expected true :: later) =
            if object = other then [expected] else [] := by
        intro other
        have nothing := noChange other
        unfold changesOf at nothing ⊢
        rw [List.filterMap_cons]
        by_cases same : object = other
        · simp [same, nothing]
        · simp [same, nothing]
      constructor
      · intro other
        rw [reports]
        by_cases same : object = other
        · rw [if_pos same, ← same, step.next, step.current]
          rfl
        · rw [if_neg same, step.others other (Ne.symm same)]
          simp
      · intro other
        rw [reports]
        by_cases same : object = other
        · rw [if_pos same, ← same, step.current]
          exact .inr rfl
        · rw [if_neg same]
          exact .inl rfl

/-- The revisions are apart from what a step touches. -/
theorem revisions_same {parts : List Part} (touches : Touches parts records after)
    (networks : .networkRevisions ∉ parts) (members : .memberRevisions ∉ parts)
    (accounts : .accountRevisions ∉ parts) (object : ManagedObject) :
    revisionOf after object = revisionOf records object :=
  revisionOf_congr (touches _ networks) (touches _ members)
    (touches _ accounts) object

/-- The transaction of an update, which may be refused. -/
theorem finish_revisions {Value : Type} {program : Program Log Value}
    {events : Value → List Event}
    (moved : finish records program events = (next, after, effect))
    (updates : ∀ value, program records = .ok (value, after) →
      RevisionStep (events value) records after) :
    RevisionStep effect.events records after := by
  rcases (finish_eq moved).2 with ⟨value, succeeded, rfl⟩ | ⟨rfl, rfl⟩
  · exact updates value succeeded
  · exact .refl (fun _ => rfl) fun _ => rfl

theorem networkEvents_step {input : NetworkUpdate} {changed : Bool}
    {suspension : Option AuthorityChange}
    (step : UpdateStep (.network input.tenantId) input.revision changed records
      after) :
    RevisionStep (networkEvents input (changed, suspension)) records after := by
  refine .of_update step fun object => ?_
  cases suspension <;> rfl

theorem accountEvents_step {principal : SessionPrincipal}
    {input : AccountUpdate} {change : AccountChange}
    (step : UpdateStep (.account principal.tenantId input.accountId)
      input.revision (decide (change ≠ .unchanged)) records after) :
    RevisionStep (accountEvents principal input change) records after := by
  refine .of_update step fun object => ?_
  cases change <;> rfl

/-- A step that is no update leaves the revisions alone. -/
theorem revision_otherwise
    (moved : resume services draw point records = (next, after, effect))
    (noUpdate : ∀ object expected changed,
      ¬ Updates services draw records after object expected changed point)
    (networks : .networkRevisions ∉ point.footprint)
    (members : .memberRevisions ∉ point.footprint)
    (accounts : .accountRevisions ∉ point.footprint) :
    RevisionStep effect.events records after := by
  refine .refl (fun object => changesOf_eq_nil ?_)
    (revisions_same (resume_moved moved).touches networks members accounts)
  rintro event member updated expected rfl
  exact noUpdate _ _ _ (resume_origin moved member)

theorem revision_step
    (moved : resume services draw point records = (next, after, effect)) :
    RevisionStep effect.events records after := by
  cases point with
  | called call =>
      cases call with
      | updateNetwork principal input =>
          exact finish_revisions moved fun _ ran =>
            networkEvents_step (updateNetwork_step ran)
      | adoptNamespace principal input =>
          exact finish_revisions moved fun _ ran =>
            .of_update (adoptNamespace_step ran) fun _ => rfl
      | updateMember principal input =>
          exact finish_revisions moved fun _ ran =>
            .of_update (updateMember_step ran) fun _ => rfl
      | updateAccount principal input =>
          exact finish_revisions moved fun _ ran =>
            accountEvents_step (updateAccount_step ran)
      | _ =>
          exact revision_otherwise moved (fun _ _ _ => id) (by simp) (by simp)
            (by simp)
  | _ =>
      exact revision_otherwise moved (fun _ _ _ => id) (by simp) (by simp)
        (by simp)

end Steps

/-! ## Runs -/

/-- The changes of a run and the revisions they have led to. -/
structure Recorded (start : Records Log) (labels : List Label)
    (records : Records Log) : Prop where
  raised : ∀ object, revisionOf records object =
    revisionOf start object + (changesOf object (reported labels)).length
  rising : ∀ object, (changesOf object (reported labels)).Pairwise (· < ·)
  below : ∀ object, ∀ expected ∈ changesOf object (reported labels),
    expected < revisionOf records object

section Runs

variable {start records after : Records Log} {labels : List Label}

theorem Recorded.nil (start : Records Log) : Recorded start [] start where
  raised _ := by simp
  rising _ := .nil
  below _ := nofun

/-- A change is made for the revision that all earlier ones are below. -/
theorem Recorded.snoc (recorded : Recorded start labels records)
    {label : Label} (step : RevisionStep (eventsOf label) records after) :
    Recorded start (labels ++ [label]) after := by
  constructor
  · intro object
    rw [step.raised, recorded.raised, reported_snoc, changesOf_append,
      List.length_append]
    omega
  · intro object
    rw [reported_snoc, changesOf_append]
    rcases step.current object with nothing | changed
    · rw [nothing, List.append_nil]
      exact recorded.rising object
    · rw [changed]
      refine List.pairwise_append.mpr
        ⟨recorded.rising object, List.pairwise_singleton _ _, ?_⟩
      intro earlier member expected isExpected
      rw [List.mem_singleton.mp isExpected]
      exact recorded.below object earlier member
  · intro object expected member
    rw [reported_snoc, changesOf_append] at member
    have raised := step.raised object
    rcases List.mem_append.mp member with earlier | now
    · have below := recorded.below object expected earlier
      omega
    · rcases step.current object with nothing | changed
      · rw [nothing] at now
        cases now
      · rw [changed] at now raised
        rw [List.mem_singleton.mp now, raised]
        exact Int.lt_succ _

theorem recorded_step {pool next : Pool (Records Log) Point} {label : Label}
    (recorded : Recorded start labels pool.shared)
    (step : (procedure services).Step pool label next) :
    Recorded start (labels ++ [label]) next.shared := by
  apply recorded.snoc
  cases step with
  | begin free isStart => exact .refl (fun _ => rfl) fun _ => rfl
  | drop index => exact .refl (fun _ => rfl) fun _ => rfl
  | outside changed =>
      exact .refl (fun _ => rfl)
        (revisions_same changed (by simp) (by simp) (by simp))
  | resume moved => exact revision_step moved

/-- In every run the changes of an object carry different revisions and raise it
by one each; an update raises its own object or changes nothing at all, and a
call that is refused changes nothing. -/
theorem no_update_lost {first pool : Pool (Records Log) Point}
    (run : ((procedure services).system fun _ => True).Run first labels pool) :
    (∀ object, (changesOf object (reported labels)).Nodup ∧
      revisionOf pool.shared object = revisionOf first.shared object +
        (changesOf object (reported labels)).length) ∧
      ∀ index draw effect next,
        (procedure services).Step pool (.resume index draw effect) next →
        (∀ object expected changed,
          .updated object expected changed ∈ effect.events →
          UpdateStep object expected changed pool.shared next.shared) ∧
        ((∀ events, effect ≠ .committed events) →
          next.shared = pool.shared) := by
  have recorded : Recorded first.shared labels pool.shared :=
    @TransitionSystem.RunWhere.historyInvariant _ _ _ _
      (fun labels pool => Recorded first.shared labels pool.shared) _
      (.nil _) (fun holds _ step => recorded_step holds step) _ _ run
  constructor
  · intro object
    refine ⟨?_, recorded.raised object⟩
    exact (recorded.rising object).imp Int.ne_of_lt
  · intro index draw effect next step
    cases step with
    | resume moved =>
        constructor
        · intro object expected changed member
          exact updates_step (resume_origin moved member)
        · exact (resume_moved moved).unchanged

end Runs

/-! ### Two updates for one revision -/

def omar : SessionPrincipal := ⟨"home", "omar", .admin, "session-omar"⟩

/-- Omar renames a network. -/
def rename (index : Nat) (displayName : String) (revision : Int) :
    List (Procedure.Command Point Draw) :=
  .begin index (.called (.updateNetwork omar
    ⟨"net", displayName, "active", revision⟩)) ::
    resumes index 1 (drawAt 1000 "update")

def renamings : List Label × Pool (Records Unit) Point :=
  (procedure sampleServices).follow ⟨sampleRecords, fun _ => .idle⟩
    (rename 0 "North" 1 ++ rename 1 "South" 1 ++ rename 2 "West" 2)

theorem no_update_lost_renamings :
    changesOf (.network "net") (reported renamings.1) = [1, 2] ∧
      (changesOf (.network "net") (reported renamings.1)).Nodup ∧
      revisionOf renamings.2.shared (.network "net") = 3 := by
  have run : ((procedure sampleServices).system fun _ => True).Run
      ⟨sampleRecords, fun _ => .idle⟩ renamings.1 renamings.2 := by
    apply Procedure.run_follow
    exact ⟨⟨rfl, _, rfl⟩, trivial, trivial, trivial, ⟨rfl, _, rfl⟩, trivial,
      trivial, trivial, ⟨rfl, _, rfl⟩, trivial, trivial, trivial, trivial⟩
  have kept := (no_update_lost run).1 (.network "net")
  have changes : changesOf (.network "net") (reported renamings.1) = [1, 2] :=
    by decide +kernel
  refine ⟨changes, kept.1, ?_⟩
  rw [kept.2, changes]
  rfl

end Revisions

end Directory

end ControlForge
