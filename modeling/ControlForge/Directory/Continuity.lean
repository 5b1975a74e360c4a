import ControlForge.Directory.People

/-!
# Networks keep their administrators, and the appliance its owner

`Continuous` holds of every state that is reached: the owner administers the home
network and every other one, and nobody signs in as the membership of an owner.
The designation of an owner works on the networks it has read before its
transaction; `Fits` says that these are all of them as long as nobody owns the
appliance.
-/

namespace ControlForge

namespace Directory

namespace Continuity

open Access

variable {Log : Type} {services : Services Log}

/-! ## The invariant -/

section Invariant

variable (records : Records Log)

/-- The owner administers another network through a membership. -/
def Joined (owner : PlatformOwnerRow) (tenantId : String) : Prop :=
  ⟨tenantId, owner.userId, owner.homeTenantId⟩ ∈ records.ownerMemberships ∧
    IsAdmin records tenantId owner.userId

/-- There is at most one owner, who administers every network, and all sessions
are those of users who sign in themselves. -/
structure Continuous : Prop where
  oneOwner : records.platformOwners.length ≤ 1
  home : ∀ owner ∈ records.platformOwners,
    IsAdmin records owner.homeTenantId owner.userId ∧
      IsActive records owner.homeTenantId
  joined : ∀ owner ∈ records.platformOwners, ∀ tenantId,
    IsNetwork records tenantId → tenantId ≠ owner.homeTenantId →
    Joined records owner tenantId
  direct : ∀ session ∈ records.sessions.rows,
    Direct records session.tenantId session.userId

/-- An installation that nobody owns yet: new, or with administrators from the
time before there were owners. -/
structure Unowned : Prop where
  owners : records.platformOwners = []
  memberships : records.ownerMemberships = []
  sessions : ∀ session ∈ records.sessions.rows,
    IsUser records session.tenantId session.userId
  begun : configured records = true ∨ records.tenants.rows = []

end Invariant

/-! ## Steps -/

/-- The invariant with what makes it last: without a bootstrap there are no
networks. -/
structure Sound (records : Records Log) : Prop where
  continuous : Continuous records
  begun : configured records = true ∨ records.tenants.rows = []

/-- Networks are only added to an appliance that has an owner. -/
def Known (before after : Records Log) : Prop :=
  after.platformOwners = [] →
    ∀ tenantId, IsNetwork after tenantId → IsNetwork before tenantId

/-- While nobody owns the appliance, a designation knows all networks. -/
def Fits (records : Records Log) : Point → Prop
  | .tenantsRead _ tenants _ => records.platformOwners = [] →
      ∀ tenantId, IsNetwork records tenantId → tenantId ∈ tenants
  | _ => True

section Steps

variable {records after : Records Log} {draw : Draw}

theorem not_owned (lasting : Lasting records after)
    (unowned : after.platformOwners = []) : records.platformOwners = [] := by
  refine List.eq_nil_iff_forall_not_mem.mpr fun owner member => ?_
  have later := lasting.owners owner member
  rw [unowned] at later
  cases later

theorem Fits.stable {point : Point} (fits : Fits records point)
    (lasting : Lasting records after) (known : Known records after) :
    Fits after point := by
  cases point with
  | tenantsRead input tenants unverified =>
      intro unowned tenantId isNetwork
      exact fits (not_owned lasting unowned) tenantId
        (known unowned tenantId isNetwork)
  | _ => trivial

theorem isActive_of_activeTenant {tenantId : String}
    (active : Identity.activeTenant records.identity tenantId = true) :
    IsActive records tenantId := by
  obtain ⟨row, member, isActive⟩ := List.any_eq_true.mp active
  obtain ⟨tenant, tenantMember, rfl⟩ := List.mem_map.mp member
  exact ⟨tenant, tenantMember, of_decide_eq_true isActive⟩

/-- A step that adds neither networks nor owners. -/
theorem Sound.quiet (sound : Sound records) (lasting : Lasting records after)
    (signs : SignsDirectly records after)
    (owners : after.platformOwners = records.platformOwners)
    (memberships : after.ownerMemberships = records.ownerMemberships)
    (networks : ∀ tenantId, IsNetwork after tenantId →
      IsNetwork records tenantId) : Sound after := by
  obtain ⟨⟨oneOwner, home, joined, direct⟩, begun⟩ := sound
  refine ⟨⟨?_, ?_, ?_, ?_⟩, ?_⟩
  · rw [owners]
    exact oneOwner
  · intro owner member
    rw [owners] at member
    obtain ⟨isAdmin, isActive⟩ := home owner member
    exact ⟨lasting.identities owner member _ isAdmin,
      lasting.homes owner member isActive⟩
  · intro owner member tenantId isNetwork notHome
    rw [owners] at member
    obtain ⟨isMember, isAdmin⟩ :=
      joined owner member tenantId (networks tenantId isNetwork) notHome
    refine ⟨?_, lasting.identities owner member tenantId isAdmin⟩
    rw [memberships]
    exact isMember
  · refine direct_step signs lasting (fun membership member => .inl ?_) direct
    rw [← memberships]
    exact member
  · refine begun.imp lasting.configured fun empty => ?_
    refine List.eq_nil_iff_forall_not_mem.mpr fun tenant member => ?_
    obtain ⟨old, oldMember, -⟩ := networks _ ⟨tenant, member, rfl⟩
    rw [empty] at oldMember
    cases oldMember

theorem lasting_bootstrap {context : BootstrapContext}
    (written : Bootstrapped context draw records after) :
    Lasting records after := by
  refine .of_subset ?_ ?_ ?_
  · rw [written.users]
    exact List.subset_append_left _ _
  · rw [written.tenants]
    exact List.subset_append_left _ _
  · rw [written.unowned]
    exact List.nil_subset _

/-- The first administrator owns the only network. -/
theorem Sound.bootstrap {context : BootstrapContext} (sound : Sound records)
    (written : Bootstrapped context draw records after)
    (signs : SignsDirectly records after) : Sound after := by
  have lasting := lasting_bootstrap written
  have noNetwork : records.tenants.rows = [] := by
    rcases sound.begun with isConfigured | empty
    · rw [written.unconfigured] at isConfigured
      cases isConfigured
    · exact empty
  have tenants := written.tenants
  rw [noNetwork, List.nil_append] at tenants
  have isAdmin : IsAdmin after draw.secondId context.userId := by
    refine ⟨firstUser draw.secondId context, ?_, ?_, rfl, rfl⟩
    · rw [written.users]
      exact List.mem_append_right _ (List.mem_singleton_self _)
    · exact decide_eq_true ⟨rfl, rfl⟩
  refine ⟨⟨?_, ?_, ?_, ?_⟩, .inl ?_⟩
  · rw [written.owners]
    exact Nat.le_refl 1
  · intro owner member
    rw [written.owners, List.mem_singleton] at member
    rw [member]
    refine ⟨isAdmin, ?_⟩
    unfold IsActive
    rw [tenants]
    exact ⟨_, List.mem_singleton_self _, rfl, rfl⟩
  · rintro owner member tenantId ⟨tenant, tenantMember, isKey⟩ notHome
    rw [written.owners, List.mem_singleton] at member
    rw [tenants, List.mem_singleton] at tenantMember
    rw [member, ← isKey, tenantMember] at notHome
    exact absurd rfl notHome
  · refine direct_step signs lasting (fun membership member => .inl ?_)
      sound.continuous.direct
    rw [← written.memberships]
    exact member
  · exact (configured_iff after).mpr ⟨_, _, isAdmin⟩

theorem lasting_create {principal : SessionPrincipal} {input : NetworkInput}
    (written : NetworkCreated principal input draw records after)
    (owners : after.platformOwners = records.platformOwners) :
    Lasting records after := by
  refine .of_subset ?_ ?_ ?_
  · rw [written.users]
    exact List.subset_append_left _ _
  · rw [written.tenants]
    exact List.subset_append_left _ _
  · rw [owners]
    exact List.Subset.refl _

theorem eq_of_length_le_one {Row : Type} {rows : List Row} {left right : Row}
    (short : rows.length ≤ 1) (leftMember : left ∈ rows)
    (rightMember : right ∈ rows) : left = right := by
  obtain ⟨row, rfl⟩ := List.length_eq_one_iff.mp
    (Nat.le_antisymm short (List.length_pos_of_mem leftMember))
  rw [List.mem_singleton.mp leftMember, List.mem_singleton.mp rightMember]

/-- The owner joins the network that is created. -/
theorem Sound.create {principal : SessionPrincipal} {input : NetworkInput}
    (sound : Sound records)
    (written : NetworkCreated principal input draw records after)
    (owners : after.platformOwners = records.platformOwners)
    (signs : SignsDirectly records after) : Sound after := by
  have lasting := lasting_create written owners
  obtain ⟨⟨oneOwner, home, joined, direct⟩, begun⟩ := sound
  obtain ⟨-, isOwned⟩ := Bool.and_eq_true_iff.mp written.owned
  obtain ⟨creator, isCreator, isOwn⟩ := List.any_eq_true.mp isOwned
  obtain ⟨isHome, isUser⟩ := of_decide_eq_true isOwn
  have isConfigured : configured records = true :=
    (configured_iff records).mpr ⟨_, _, (home creator isCreator).1⟩
  refine ⟨⟨?_, ?_, ?_, ?_⟩, .inl (lasting.configured isConfigured)⟩
  · rw [owners]
    exact oneOwner
  · intro owner member
    rw [owners] at member
    obtain ⟨isAdmin, isActive⟩ := home owner member
    exact ⟨lasting.identities owner member _ isAdmin,
      lasting.homes owner member isActive⟩
  · rintro owner member tenantId ⟨tenant, tenantMember, rfl⟩ notHome
    rw [owners] at member
    have isCreated : owner = creator :=
      eq_of_length_le_one oneOwner member isCreator
    unfold Joined
    rw [written.memberships]
    rw [written.tenants] at tenantMember
    rcases List.mem_append.mp tenantMember with old | isNew
    · obtain ⟨isMember, isAdmin⟩ :=
        joined owner member _ ⟨tenant, old, rfl⟩ notHome
      exact ⟨List.mem_append_left _ isMember,
        lasting.identities owner member _ isAdmin⟩
    · rw [List.mem_singleton.mp isNew, isCreated, isHome, isUser]
      refine ⟨List.mem_append_right _ (List.mem_singleton_self _),
        projection draw.id principal.userId input.ownerEmail, ?_, ?_, rfl, rfl⟩
      · rw [written.users]
        exact List.mem_append_right _ (List.mem_singleton_self _)
      · exact decide_eq_true ⟨rfl, rfl⟩
  · refine direct_step signs lasting (fun membership member => ?_) direct
    rw [written.memberships] at member
    rcases List.mem_append.mp member with old | isNew
    · exact .inl old
    · right
      rw [List.mem_singleton.mp isNew]
      rintro ⟨user, isStored, isKey⟩
      rw [written.free user isStored] at isKey
      cases isKey

theorem ownerCandidate_eq_some {tenantId userId : String}
    {candidate : UserRecord}
    (found : ownerCandidate records tenantId userId = some candidate) :
    IsAdmin records tenantId userId ∧ IsActive records tenantId := by
  have selected := List.find?_some found
  simp only [Bool.and_eq_true] at selected
  obtain ⟨⟨⟨isKey, isAdmin⟩, isActive⟩, -⟩ := selected
  obtain ⟨isStatus, isRole⟩ := of_decide_eq_true isAdmin
  exact ⟨⟨candidate, List.mem_of_find?_eq_some found, isKey, isRole, isStatus⟩,
    isActive_of_activeTenant isActive⟩

theorem lasting_designate {input : Designation} {candidate : UserRecord}
    {targets : List String}
    (written : Designated input candidate targets records after)
    (unowned : records.platformOwners = [])
    (tenants : after.tenants = records.tenants) : Lasting records after := by
  refine .of_subset ?_ ?_ ?_
  · rw [written.users]
    exact List.subset_append_left _ _
  · rw [tenants]
    exact List.Subset.refl _
  · rw [unowned]
    exact List.nil_subset _

/-- The candidate becomes the owner of all networks. -/
theorem Sound.designate {input : Designation} {candidate : UserRecord}
    {captured : List String} (sound : Sound records)
    (found : ownerCandidate records input.tenantId input.userId =
      some candidate)
    (unowned : records.platformOwners = [])
    (owners : after.platformOwners = [⟨input.tenantId, input.userId⟩])
    (written : Designated input candidate
      (captured.filter (· ≠ input.tenantId)) records after)
    (tenants : after.tenants = records.tenants)
    (covers : ∀ tenantId, IsNetwork records tenantId → tenantId ∈ captured)
    (signs : SignsDirectly records after) : Sound after := by
  have lasting := lasting_designate written unowned tenants
  obtain ⟨isAdmin, isActive⟩ := ownerCandidate_eq_some found
  have subset : records.users.rows ⊆ after.users.rows := by
    rw [written.users]
    exact List.subset_append_left _ _
  refine ⟨⟨?_, ?_, ?_, ?_⟩, .inl ?_⟩
  · rw [owners]
    exact Nat.le_refl 1
  · intro owner member
    rw [owners, List.mem_singleton] at member
    rw [member]
    refine ⟨isAdmin.mono subset, ?_⟩
    unfold IsActive
    rw [tenants]
    exact isActive
  · intro owner member tenantId isNetwork notHome
    rw [owners, List.mem_singleton] at member
    rw [member] at notHome ⊢
    unfold IsNetwork at isNetwork
    rw [tenants] at isNetwork
    have isTarget : tenantId ∈ captured.filter (· ≠ input.tenantId) :=
      List.mem_filter.mpr ⟨covers tenantId isNetwork, decide_eq_true notHome⟩
    unfold Joined
    rw [written.memberships]
    refine ⟨List.mem_append_right _ (List.mem_map_of_mem isTarget),
      projection tenantId input.userId candidate.email, ?_, ?_, rfl, rfl⟩
    · rw [written.users]
      exact List.mem_append_right _ (List.mem_map_of_mem isTarget)
    · exact decide_eq_true ⟨rfl, rfl⟩
  · refine direct_step signs lasting (fun membership member => ?_)
      sound.continuous.direct
    rw [written.memberships] at member
    rcases List.mem_append.mp member with old | isNew
    · exact .inl old
    · right
      obtain ⟨target, isTarget, rfl⟩ := List.mem_map.mp isNew
      rintro ⟨user, isStored, isKey⟩
      rw [written.free target isTarget user isStored] at isKey
      cases isKey
  · exact (configured_iff after).mpr ⟨_, _, isAdmin.mono subset⟩

/-- What every step does, from any records and for any call. -/
structure Stepped (point : Point) (before after : Records Log) : Prop where
  lasting : Lasting before after
  known : Known before after
  sound : Fits before point → Sound before → Sound after

theorem Stepped.refl (point : Point) (records : Records Log) :
    Stepped point records records :=
  ⟨.refl _, fun _ _ => id, fun _ sound => sound⟩

theorem Stepped.quiet {point : Point} (lasting : Lasting records after)
    (signs : SignsDirectly records after)
    (owners : after.platformOwners = records.platformOwners)
    (memberships : after.ownerMemberships = records.ownerMemberships)
    (networks : ∀ tenantId, IsNetwork after tenantId →
      IsNetwork records tenantId) : Stepped point records after :=
  ⟨lasting, fun _ => networks,
    fun _ sound => sound.quiet lasting signs owners memberships networks⟩

/-- A step that touches nobody's identity. -/
theorem Stepped.of_touches {point : Point} {parts : List Part}
    (touches : Touches parts records after)
    (signs : SignsDirectly records after) (users : .users ∉ parts)
    (tenants : .tenants ∉ parts) (owners : .platformOwners ∉ parts)
    (memberships : .ownerMemberships ∉ parts) :
    Stepped point records after := by
  have sameUsers : after.users = records.users := touches _ users
  have sameTenants : after.tenants = records.tenants := touches _ tenants
  have sameOwners : after.platformOwners = records.platformOwners :=
    touches _ owners
  refine .quiet (.of_subset ?_ ?_ ?_) signs sameOwners (touches _ memberships)
    fun tenantId => ?_
  · rw [sameUsers]
    exact List.Subset.refl _
  · rw [sameTenants]
    exact List.Subset.refl _
  · rw [sameOwners]
    exact List.Subset.refl _
  · unfold IsNetwork
    rw [sameTenants]
    exact id

/-- A transaction that may be refused. -/
theorem finish_stepped {Value : Type} {program : Program Log Value}
    {events : Value → List Event} {point next : Point} {effect : Effect}
    (moved : finish records program events = (next, after, effect))
    (steps : ∀ value, program records = .ok (value, after) →
      Stepped point records after) : Stepped point records after := by
  rcases (finish_eq moved).2 with ⟨value, succeeded, -⟩ | ⟨rfl, -⟩
  · exact steps value succeeded
  · exact .refl _ _

theorem stepped_bootstrap {point : Point} {challengeId : String}
    {context : BootstrapContext} {verified : RegistrationVerification}
    (ran : completeBootstrap services challengeId context verified draw
      records = .ok ((), after)) : Stepped point records after := by
  have written := completeBootstrap_ok ran
  refine ⟨lasting_bootstrap written, fun unowned => ?_, fun _ sound =>
    sound.bootstrap written (signsDirectly_bootstrap ran)⟩
  rw [written.owners] at unowned
  cases unowned

theorem stepped_invite {point : Point} {invitation : Invitation}
    {verified : RegistrationVerification}
    (ran : completeInvite services invitation verified draw records =
      .ok ((), after)) : Stepped point records after := by
  have touches : Touches inviteTables records after :=
    touches_completeInvite services _ _ _ _ _ _ ran
  have sameTenants : after.tenants = records.tenants :=
    touches .tenants (by simp)
  have sameOwners : after.platformOwners = records.platformOwners :=
    touches .platformOwners (by simp)
  refine .quiet (.of_subset ?_ ?_ ?_) (signsDirectly_invite ran) sameOwners
    (touches .ownerMemberships (by simp)) fun tenantId => ?_
  · rw [completeInvite_ok ran]
    exact List.subset_append_left _ _
  · rw [sameTenants]
    exact List.Subset.refl _
  · rw [sameOwners]
    exact List.Subset.refl _
  · unfold IsNetwork
    rw [sameTenants]
    exact id

theorem stepped_create {point : Point} {principal : SessionPrincipal}
    {input : NetworkInput}
    (ran : createNetwork services principal input draw records =
      .ok ((), after)) : Stepped point records after := by
  have touches : Touches [.tenants, .namespaces, .users, .ownerMemberships,
      .audit] records after := touches_createNetwork services _ _ _ _ _ _ ran
  have owners : after.platformOwners = records.platformOwners :=
    touches .platformOwners (by simp)
  have written := createNetwork_ok ran
  refine ⟨lasting_create written owners, fun unowned => ?_, fun _ sound =>
    sound.create written owners
      (signsDirectly_same (touches .sessionIds (by simp)))⟩
  obtain ⟨-, isOwned⟩ := Bool.and_eq_true_iff.mp written.owned
  rw [owners] at unowned
  change records.platformOwners.any _ = true at isOwned
  rw [unowned] at isOwned
  cases isOwned

theorem stepped_designate {input : Designation} {tenants : List String}
    {now : Timestamp}
    (ran : designate services input tenants now records = .ok ((), after)) :
    Stepped (.tenantsRead input tenants []) records after := by
  have touches : Touches ownerTables records after :=
    touches_designate services _ _ _ _ _ _ ran
  have signs : SignsDirectly records after :=
    signsDirectly_same (touches .sessionIds (by simp))
  have sameTenants : after.tenants = records.tenants :=
    touches .tenants (by simp)
  rcases designate_ok ran with
    ⟨-, rfl⟩ | ⟨unowned, owners, candidate, found, written⟩
  · exact .refl _ _
  · refine ⟨lasting_designate written unowned sameTenants, fun none_ => ?_,
      fun fits sound => sound.designate found unowned owners written sameTenants
        (fits unowned) signs⟩
    rw [owners] at none_
    cases none_

theorem stepped_updateMember {point : Point} {principal : SessionPrincipal}
    {input : MemberUpdate} {now : Timestamp} {changed : Bool}
    (ran : updateMember services principal input now records =
      .ok (changed, after)) : Stepped point records after := by
  have touches : Touches memberTables records after :=
    touches_updateMember services _ _ _ _ _ _ ran
  have sameTenants : after.tenants = records.tenants :=
    touches .tenants (by simp)
  refine .quiet (lasting_updateMember ran)
    (signsDirectly_same (touches .sessionIds (by simp)))
    (touches .platformOwners (by simp)) (touches .ownerMemberships (by simp))
    fun tenantId => ?_
  unfold IsNetwork
  rw [sameTenants]
  exact id

theorem stepped_updateNetwork {point : Point} {principal : SessionPrincipal}
    {input : NetworkUpdate} {now : Timestamp}
    {result : Bool × Option AuthorityChange}
    (ran : updateNetwork services principal input now records =
      .ok (result, after)) : Stepped point records after := by
  have touches : Touches networkTables records after :=
    touches_updateNetwork services _ _ _ _ _ _ ran
  obtain ⟨lasting, networks⟩ := lasting_updateNetwork ran
  exact .quiet lasting (signsDirectly_same (touches .sessionIds (by simp)))
    (touches .platformOwners (by simp)) (touches .ownerMemberships (by simp))
    networks

theorem stepped {point next : Point} {effect : Effect}
    (moved : resume services draw point records = (next, after, effect)) :
    Stepped point records after := by
  have touches := (resume_moved moved).touches
  have signs := signsDirectly_step moved
  cases point with
  | bootstrapVerified =>
      exact finish_stepped moved fun _ => stepped_bootstrap
  | invitationVerified => exact finish_stepped moved fun _ => stepped_invite
  | tenantsRead input tenants unverified =>
      cases unverified with
      | nil => exact finish_stepped moved fun _ => stepped_designate
      | cons tenantId unverified =>
          rw [(proceed_eq moved).1]
          exact .refl _ _
  | called call =>
      cases call with
      | createNetwork => exact finish_stepped moved fun _ => stepped_create
      | updateMember => exact finish_stepped moved fun _ => stepped_updateMember
      | updateNetwork =>
          exact finish_stepped moved fun _ => stepped_updateNetwork
      | _ =>
          exact .of_touches touches signs (by simp) (by simp) (by simp)
            (by simp)
  | _ =>
      exact .of_touches touches signs (by simp) (by simp) (by simp) (by simp)

/-- A designation has read all networks. -/
theorem fits_next {point next : Point} {effect : Effect}
    (fits : Fits records point)
    (moved : resume services draw point records = (next, after, effect)) :
    Fits records next := by
  have reads := resume_readAt moved
  cases next with
  | tenantsRead input tenants unverified =>
      rcases reads with ⟨-, read, -⟩ | ⟨tenantId, isPoint⟩
      · rintro - tenantId ⟨tenant, member, rfl⟩
        unfold readTenants at read
        split at read
        · cases read
        · cases read
          exact List.mem_map_of_mem member
      · rw [isPoint] at fits
        exact fits
  | _ => trivial

end Steps

/-! ## Runs -/

/-- The bootstraps that have succeeded. -/
def bootstraps (events : List Event) : Nat :=
  events.countP fun event =>
    match event with
    | .bootstrapped => true
    | _ => false

theorem bootstraps_append (events later : List Event) :
    bootstraps (events ++ later) = bootstraps events + bootstraps later :=
  List.countP_append

/-- An appliance is bootstrapped once, and then has an administrator. -/
structure Begun (start : Records Log) (labels : List Label)
    (records : Records Log) : Prop where
  once : bootstraps (reported labels) ≤ 1
  never : configured start = true → bootstraps (reported labels) = 0
  administered : configured start = true ∨ bootstraps (reported labels) ≠ 0 →
    configured records = true

section Runs

variable {start records after : Records Log} {labels : List Label}

theorem Begun.nil (start : Records Log) : Begun start [] start where
  once := Nat.zero_le 1
  never _ := rfl
  administered := fun begun =>
    begun.elim id fun counted => absurd rfl counted

/-- A step that bootstraps nothing. -/
theorem Begun.quiet (begun : Begun start labels records) {label : Label}
    (lasting : Lasting records after)
    (nothing : bootstraps (eventsOf label) = 0) :
    Begun start (labels ++ [label]) after := by
  have same : bootstraps (reported (labels ++ [label])) =
      bootstraps (reported labels) := by
    rw [reported_snoc, bootstraps_append, nothing, Nat.add_zero]
  refine ⟨?_, ?_, ?_⟩
  · rw [same]
    exact begun.once
  · rw [same]
    exact begun.never
  · rw [same]
    exact fun holds => lasting.configured (begun.administered holds)

/-- A bootstrap succeeds on an appliance that is not configured. -/
theorem Begun.bootstrap (begun : Begun start labels records) {label : Label}
    {context : BootstrapContext} {draw : Draw}
    (written : Bootstrapped context draw records after)
    (one : bootstraps (eventsOf label) = 1) :
    Begun start (labels ++ [label]) after := by
  have notYet : ¬ (configured start = true ∨
      bootstraps (reported labels) ≠ 0) := by
    intro holds
    have isConfigured := begun.administered holds
    rw [written.unconfigured] at isConfigured
    cases isConfigured
  have none_ : bootstraps (reported labels) = 0 := by
    by_contra counted
    exact notYet (.inr counted)
  refine ⟨?_, fun isConfigured => absurd (.inl isConfigured) notYet, fun _ => ?_⟩
  · rw [reported_snoc, bootstraps_append, none_, one]
  · refine (configured_iff after).mpr ⟨draw.secondId, context.userId,
      firstUser draw.secondId context, ?_, decide_eq_true ⟨rfl, rfl⟩, rfl, rfl⟩
    rw [written.users]
    exact List.mem_append_right _ (List.mem_singleton_self _)

/-- A step that is no bootstrap reports none. -/
theorem bootstraps_otherwise {draw : Draw} {point next : Point}
    {effect : Effect}
    (moved : resume services draw point records = (next, after, effect))
    (otherwise : ∀ challengeId context verified,
      point ≠ .bootstrapVerified challengeId context verified) :
    bootstraps effect.events = 0 := by
  refine List.countP_eq_zero.mpr fun event member => ?_
  cases event with
  | bootstrapped =>
      obtain ⟨challengeId, context, verified, isPoint, -⟩ :=
        resume_origin moved member
      exact absurd isPoint (otherwise challengeId context verified)
  | _ => exact Bool.false_ne_true

/-- What happens outside touches nobody's identity. -/
theorem stepped_outside {point : Point}
    (changed : Touches [.actions, .audit, .rest] records after) :
    Stepped point records after :=
  .of_touches changed (signsDirectly_same (changed .sessionIds (by simp)))
    (by simp) (by simp) (by simp) (by simp)

theorem begun_step {pool next : Pool (Records Log) Point} {label : Label}
    (begun : Begun start labels pool.shared)
    (step : (procedure services).Step pool label next) :
    Begun start (labels ++ [label]) next.shared := by
  cases step with
  | begin free isStart => exact begun.quiet (.refl _) rfl
  | drop index => exact begun.quiet (.refl _) rfl
  | outside changed =>
      have steps : Stepped .idle _ _ := stepped_outside changed
      exact begun.quiet steps.lasting rfl
  | @resume index draw point records effect moved =>
      by_cases isBootstrap : ∃ challengeId context verified,
          pool.process index = .bootstrapVerified challengeId context verified
      · obtain ⟨challengeId, context, verified, isPoint⟩ := isBootstrap
        rw [isPoint] at moved
        rcases (finish_eq moved).2 with ⟨_, ran, rfl⟩ | ⟨rfl, rfl⟩
        · exact begun.bootstrap (completeBootstrap_ok ran) rfl
        · exact begun.quiet (.refl _) rfl
      · have nothing : bootstraps effect.events = 0 :=
          bootstraps_otherwise moved fun challengeId context verified isPoint =>
            isBootstrap ⟨challengeId, context, verified, isPoint⟩
        exact begun.quiet (stepped moved).lasting nothing

def assertions : Procedure.Assertions (Records Log) Point Label where
  shared _ := Sound
  process := Fits
  pair _ _ _ := True

theorem assertions_sound :
    (@assertions Log).Sound (procedure services) (fun _ _ => True)
      fun before after _ => Lasting before after ∧ Known before after where
  symm := fun _ => trivial
  idle _ := trivial
  idlePair _ _ := trivial
  starts _ := by
    rintro _ ⟨call, rfl⟩
    exact ⟨trivial, fun _ => trivial⟩
  unseen holds _ := holds
  owner {labels pool index draw next after effect} holds _ moved := by
    have steps := stepped moved
    have fits : Fits pool.shared (pool.process index) := holds.process index
    exact ⟨steps.sound fits holds.shared,
      (fits_next fits moved).stable steps.lasting steps.known,
      fun other _ => ⟨⟨steps.lasting, steps.known⟩, trivial⟩⟩
  outside {labels records after} holds changed := by
    have steps : Stepped .idle records after := stepped_outside changed
    exact ⟨steps.sound trivial holds, fun _ => ⟨steps.lasting, steps.known⟩⟩
  refl _ _ := ⟨.refl _, fun _ _ => id⟩
  stable guarantee fits := Fits.stable fits guarantee.1 guarantee.2
  stablePair _ _ _ := trivial

/-- An installation that nobody owns yet. -/
theorem sound_of_unowned (unowned : Unowned start) : Sound start := by
  refine ⟨⟨?_, ?_, ?_, fun session member => ?_⟩, unowned.begun⟩
  · rw [unowned.owners]
    exact Nat.zero_le 1
  · rw [unowned.owners]
    nofun
  · rw [unowned.owners]
    nofun
  · refine ⟨unowned.sessions session member, ?_⟩
    rw [unowned.memberships]
    nofun

theorem lasting_step {pool next : Pool (Records Log) Point} {label : Label}
    (step : (procedure services).Step pool label next) :
    Lasting pool.shared next.shared := by
  cases step with
  | begin free isStart => exact .refl _
  | drop index => exact .refl _
  | outside changed =>
      have steps : Stepped .idle _ _ := stepped_outside changed
      exact steps.lasting
  | resume moved => exact (stepped moved).lasting

/-- In every run at most one bootstrap succeeds, and none where there already
was an administrator; the owner administers every network in every state, nobody
signs in as a membership, and from one state to a later one networks keep an
administrator and the appliance its owner. -/
theorem owner_continues {first middle finish : Pool (Records Log) Point}
    {labels later : List Label}
    (isInitial : ((procedure services).system Unowned).initial first)
    (before : ((procedure services).system Unowned).Run first labels middle)
    (after : ((procedure services).system Unowned).Run middle later finish) :
    Begun first.shared (labels ++ later) finish.shared ∧
      Continuous finish.shared ∧ Lasting middle.shared finish.shared := by
  refine ⟨?_, ?_, ?_⟩
  · exact @TransitionSystem.RunWhere.historyInvariant _ _ _ _
      (fun labels pool => Begun first.shared labels pool.shared) _
      (.nil _) (fun begun _ step => begun_step begun step) _ _
      (before.append after)
  · have holds := Procedure.Assertions.Hold.run assertions_sound
      (fun _ => sound_of_unowned) isInitial (before.append after)
    have sound : Sound finish.shared := holds.shared
    exact sound.continuous
  · exact @TransitionSystem.RunWhere.related _ _ _ _ (fun _ => True)
      (fun first second => Lasting first.shared second.shared)
      (fun _ => .refl _) Lasting.trans (fun _ _ _ => trivial)
      (fun _ _ step => lasting_step step) _ _ _ after trivial

end Runs

/-! ### An installation from its beginning -/

def freshRecords : Records Unit :=
  { sampleRecords with
    tenants := .empty
    users := .empty
    sessions := .empty
    platformOwners := []
    grants := .empty }

def bootstrapInput : BootstrapInput where
  token := "token-of-boot"
  tenantSlug := "home"
  tenantDisplayName := "Home"
  email := "omar@home.example"
  displayName := "Omar"

/-- Omar becomes the first administrator. -/
def bootstrapped : List Label × Pool (Records Unit) Point :=
  (procedure sampleServices).follow ⟨freshRecords, fun _ => .idle⟩
    (.begin 0 (.called (.issueBootstrapToken 600)) ::
      resumes 0 2 (drawAt 1000 "boot") ++
      .begin 1 (.called (.beginBootstrap bootstrapInput)) ::
      resumes 1 3 (drawAt 1000 "challenge") ++
      .begin 2 (.called (.completeBootstrap "token-of-boot" "challenge"
        { members := [("id", .str "key")] })) ::
      resumes 2 4 (drawAt 1000 "session"))

/-- Omar creates a network. -/
def created : List Label × Pool (Records Unit) Point :=
  (procedure sampleServices).follow bootstrapped.2
    (.begin 3 (.called (.createNetwork ⟨"id-2", "id-2", .admin, "session"⟩
      ⟨"north", "North", "omar@home.example"⟩)) ::
      resumes 3 1 (drawAt 1001 "north"))

theorem owner_continues_created :
    Continuous created.2.shared ∧
      Lasting bootstrapped.2.shared created.2.shared ∧
      bootstraps (reported (bootstrapped.1 ++ created.1)) = 1 ∧
      created.2.shared.ownerMemberships.map (·.tenantId) = ["north"] := by
  have isInitial : ((procedure sampleServices).system Unowned).initial
      ⟨freshRecords, fun _ => .idle⟩ :=
    ⟨⟨rfl, rfl, nofun, .inr rfl⟩, fun _ => rfl⟩
  have before : ((procedure sampleServices).system Unowned).Run
      ⟨freshRecords, fun _ => .idle⟩ bootstrapped.1 bootstrapped.2 := by
    apply Procedure.run_follow
    exact ⟨⟨rfl, _, rfl⟩, trivial, trivial, trivial, trivial, trivial,
      ⟨rfl, _, rfl⟩, trivial, trivial, trivial, trivial, trivial, trivial,
      trivial, ⟨rfl, _, rfl⟩, trivial, trivial, trivial, trivial, trivial,
      trivial, trivial, trivial, trivial, trivial⟩
  have after : ((procedure sampleServices).system Unowned).Run
      bootstrapped.2 created.1 created.2 := by
    apply Procedure.run_follow
    exact ⟨⟨rfl, _, rfl⟩, trivial, trivial, trivial, trivial⟩
  obtain ⟨-, continues, lasting⟩ := owner_continues isInitial before after
  exact ⟨continues, lasting, by decide +kernel, by decide +kernel⟩

end Continuity

end Directory

end ControlForge
