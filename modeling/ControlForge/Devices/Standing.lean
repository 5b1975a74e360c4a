import ControlForge.Devices.Endpoint
import ControlForge.Foundation.Rollover

/-!
# What the server's operations do to one device

The standing of a device is what the rollover protocol says about it: one
credential in force, and at most one live rotation, whose replacement is not
active.  Every operation of the server replaces at most three rows of the
device; each is characterised once, and moves the standing along a step of the
rollover protocol.
-/

namespace ControlForge

namespace Devices

open Table (Replaced applyWhere)

/-! ## Keys -/

section Keys

variable {database : Database}

theorem credential_eq {left right : CredentialRow}
    (leftMember : left ∈ database.credentials.rows)
    (rightMember : right ∈ database.credentials.rows)
    (same : left.credentialId = right.credentialId) : left = right := by
  apply Table.eq_of_clash leftMember rightMember
  · simp [CredentialRow.clash, same]
  · simp [CredentialRow.clash, same]

theorem credential_find {row : CredentialRow} {selected : CredentialRow → Bool}
    (member : row ∈ database.credentials.rows) (isSelected : selected row)
    (sameId : ∀ other, selected other = true →
      other.credentialId = row.credentialId) :
    database.credentials.rows.find? selected = some row := by
  apply Table.find?_eq_some_of_clash member isSelected
  intro other otherSelected
  simp [CredentialRow.clash, sameId other otherSelected]

theorem credentials_nodup (database : Database) :
    database.credentials.rows.Nodup :=
  Table.nodup fun row => by simp [CredentialRow.clash]

theorem rotations_nodup (database : Database) :
    database.rotations.rows.Nodup :=
  Table.nodup fun row => by simp [RotationRow.clash]

theorem rotation_eq_of_id {left right : RotationRow}
    (leftMember : left ∈ database.rotations.rows)
    (rightMember : right ∈ database.rotations.rows)
    (same : left.rotationId = right.rotationId) : left = right := by
  apply Table.eq_of_clash leftMember rightMember
  · simp [RotationRow.clash, same]
  · simp [RotationRow.clash, same]

theorem rotation_eq_of_replacement {left right : RotationRow}
    (leftMember : left ∈ database.rotations.rows)
    (rightMember : right ∈ database.rotations.rows)
    (same : left.replacementCredentialId = right.replacementCredentialId) :
    left = right := by
  apply Table.eq_of_clash leftMember rightMember
  · simp [RotationRow.clash, same]
  · simp [RotationRow.clash, same]

theorem rotation_eq_of_live {enrollment : Enrollment}
    {left right : RotationRow}
    (leftMember : left ∈ database.rotationsOf enrollment)
    (rightMember : right ∈ database.rotationsOf enrollment)
    (leftLive : left.status.live = true)
    (rightLive : right.status.live = true) : left = right := by
  obtain ⟨leftStored, leftOwn⟩ := List.mem_filter.mp leftMember
  obtain ⟨rightStored, rightOwn⟩ := List.mem_filter.mp rightMember
  simp only [RotationRow.ofDevice, decide_eq_true_eq] at leftOwn rightOwn
  apply Table.eq_of_clash leftStored rightStored
  · simp [RotationRow.clash, leftLive, rightLive, leftOwn, rightOwn]
  · simp [RotationRow.clash, leftLive, rightLive, leftOwn, rightOwn]

end Keys

/-! ## The statements -/

section Statements

variable {database : Database}

/-- An update of the credential with one key replaces its row. -/
theorem updateCredentials_run {selected : CredentialRow → Bool}
    {change : CredentialRow → CredentialRow} {old : CredentialRow}
    (member : old ∈ database.credentials.rows)
    (only : ∀ row, selected row = true →
      row.credentialId = old.credentialId)
    (keeps : ∀ row, (change row).credentialId = row.credentialId) :
    ∃ credentials, updateCredentials selected change database =
        .ok (if selected old then 1 else 0, { database with credentials }) ∧
      Replaced database.credentials.rows credentials.rows old
        (applyWhere selected change old) := by
  have kept : ∀ row, (applyWhere selected change row).credentialId =
      row.credentialId := by
    intro row
    unfold applyWhere
    split
    · exact keeps row
    · rfl
  have stillUnique : (database.credentials.rows.map
      (applyWhere selected change)).Pairwise
      fun earlier later => CredentialRow.clash earlier later = false :=
    Table.map_unique fun left right => by
      rw [CredentialRow.clash, kept, kept, CredentialRow.clash]
  have onlyOld : ∀ row ∈ database.credentials.rows, selected row = true →
      row = old := fun row rowMember isSelected =>
    credential_eq rowMember member (only row isSelected)
  refine ⟨⟨_, stillUnique⟩, ?_, Replaced.of_applyWhere member onlyOld⟩
  unfold updateCredentials
  rw [Table.updateWhere_succeeds (fun _ _ _ => rfl) stillUnique,
    Table.countP_of_only (credentials_nodup database) member onlyOld]

/-- The columns the uniqueness constraints of a rotation look at. -/
structure RotationRow.SameKeys (new old : RotationRow) : Prop where
  rotationId : new.rotationId = old.rotationId
  tenantId : new.tenantId = old.tenantId
  deviceId : new.deviceId = old.deviceId
  replacement : new.replacementCredentialId = old.replacementCredentialId

theorem RotationRow.clash_mono {left right left' right' : RotationRow}
    (leftKeys : left'.SameKeys left) (rightKeys : right'.SameKeys right)
    (leftLive : left'.status.live = true → left.status.live = true)
    (rightLive : right'.status.live = true → right.status.live = true)
    (apart : left.clash right = false) : left'.clash right' = false := by
  cases clashes : left'.clash right' with
  | false => rfl
  | true =>
      simp only [RotationRow.clash, leftKeys.rotationId, leftKeys.tenantId,
        leftKeys.deviceId, leftKeys.replacement, rightKeys.rotationId,
        rightKeys.tenantId, rightKeys.deviceId, rightKeys.replacement,
        Bool.or_eq_true, Bool.and_eq_true] at clashes
      rw [← apart]
      simp only [RotationRow.clash, Bool.or_eq_true, Bool.and_eq_true,
        Bool.true_eq]
      exact clashes.imp_right fun both =>
        ⟨⟨leftLive both.1.1, rightLive both.1.2⟩, both.2⟩

/-- An update of the rotation with one key, to which no trigger objects,
replaces its row. -/
theorem updateRotations_run {selected : RotationRow → Bool}
    {change : RotationRow → RotationRow} {old : RotationRow}
    (member : old ∈ database.rotations.rows)
    (only : ∀ row, selected row = true → row.rotationId = old.rotationId)
    (keeps : ∀ row, (change row).SameKeys row)
    (live : ∀ row, selected row = true → (change row).status.live = true →
      row.status.live = true)
    (permitted : selected old = true → rotationGuard old (change old) = none) :
    ∃ rotations, updateRotations selected change database =
        .ok (if selected old then 1 else 0, { database with rotations }) ∧
      Replaced database.rotations.rows rotations.rows old
        (applyWhere selected change old) := by
  have kept : ∀ row, (applyWhere selected change row).SameKeys row := by
    intro row
    unfold applyWhere
    split
    · exact keeps row
    · exact ⟨rfl, rfl, rfl, rfl⟩
  have liveBefore : ∀ row,
      (applyWhere selected change row).status.live = true →
      row.status.live = true := by
    intro row
    unfold applyWhere
    split
    · next isSelected => exact live row isSelected
    · exact id
  have stillUnique : (database.rotations.rows.map
      (applyWhere selected change)).Pairwise
      fun earlier later => RotationRow.clash earlier later = false := by
    rw [List.pairwise_map]
    exact database.rotations.unique.imp fun apart =>
      RotationRow.clash_mono (kept _) (kept _) (liveBefore _) (liveBefore _)
        apart
  have onlyOld : ∀ row ∈ database.rotations.rows, selected row = true →
      row = old := fun row rowMember isSelected =>
    rotation_eq_of_id rowMember member (only row isSelected)
  have passed : ∀ row ∈ database.rotations.rows, selected row = true →
      rotationGuard row (change row) = none := by
    intro row rowMember isSelected
    obtain rfl := onlyOld row rowMember isSelected
    exact permitted isSelected
  refine ⟨⟨_, stillUnique⟩, ?_, Replaced.of_applyWhere member onlyOld⟩
  unfold updateRotations
  rw [Table.updateWhere_succeeds passed stillUnique,
    Table.countP_of_only (rotations_nodup database) member onlyOld]

theorem rotationGuard_eq_none {old new : RotationRow} :
    rotationGuard old new = none ↔
      new.sameIdentity old = true ∧
        old.status.mayBecome new.status = true ∧ new.deliveryCount ≤ 10 ∧
        (new.envelope.isSome = true ↔ new.status = .delivered) := by
  simp only [rotationGuard, Option.map_eq_none_iff, firstRaised_cons_eq_none,
    firstRaised_nil, Bool.not_eq_false', decide_eq_false_iff_not, Nat.not_lt,
    bne_eq_false_iff_eq, and_true]
  rw [@Bool.eq_iff_iff new.envelope.isSome, decide_eq_true_eq]

end Statements

/-! ## The standing of a device -/

/-- The rotation is the one the offer stands for. -/
structure RotationRow.Offers (inForce : String) (row : RotationRow)
    (offer : Rollover.Offer String) : Prop where
  replacement : row.replacementCredentialId = offer.replacement
  predecessor : row.predecessorCredentialId = inForce
  handedOut : offer.handedOut = true ↔ row.status = .delivered

/-- What the credentials and the rotations of a device say, in the words of
the rollover protocol. -/
structure Standing (credentials : List CredentialRow)
    (rotations : List RotationRow) (state : Rollover.State String) : Prop where
  current : ∃ row ∈ credentials,
    row.credentialId = state.inForce ∧ row.inForce = true
  only : ∀ row ∈ credentials, row.inForce = true →
    row.credentialId = state.inForce
  issued : ∀ id ∈ state.issued, ∃ row ∈ credentials, row.credentialId = id
  live : ∀ row ∈ rotations, row.status.live = true →
    ∃ offer, state.offer = some offer ∧ row.Offers state.inForce offer
  offered : ∀ offer, state.offer = some offer →
    ∃ row ∈ rotations, row.status.live = true ∧
      row.Offers state.inForce offer
  staged : ∀ offer, state.offer = some offer → ∃ row ∈ credentials,
    row.credentialId = offer.replacement ∧ row.activatedAt = none ∧
      (row.revokedAt.isSome = true ↔ offer.withdrawn = true)

section Standing

variable {credentials credentials' : List CredentialRow}
  {rotations rotations' : List RotationRow} {state : Rollover.State String}

/-- Nothing the standing depends on has changed. -/
structure CredentialRow.SameStanding (new old : CredentialRow) : Prop where
  credentialId : new.credentialId = old.credentialId
  activatedAt : new.activatedAt = old.activatedAt
  revokedAt : new.revokedAt = old.revokedAt

theorem CredentialRow.SameStanding.inForce {new old : CredentialRow}
    (same : new.SameStanding old) : new.inForce = old.inForce := by
  rw [CredentialRow.inForce, same.activatedAt, same.revokedAt,
    CredentialRow.inForce]

theorem Standing.touched (standing : Standing credentials rotations state)
    {touch : CredentialRow → CredentialRow}
    (same : ∀ row, (touch row).SameStanding row) :
    Standing (credentials.map touch) rotations state := by
  have image : ∀ {property : CredentialRow → Prop},
      (∀ row, property row → property (touch row)) →
      (∃ row ∈ credentials, property row) →
      ∃ row ∈ credentials.map touch, property row := by
    rintro property keeps ⟨row, member, holds⟩
    exact ⟨touch row, List.mem_map_of_mem member, keeps row holds⟩
  refine ⟨image ?_ standing.current, ?_, fun id known =>
    image ?_ (standing.issued id known), standing.live, standing.offered,
    fun offer offered => image ?_ (standing.staged offer offered)⟩
  · rintro row ⟨isId, inForce⟩
    exact ⟨(same row).credentialId.trans isId,
      (same row).inForce.trans inForce⟩
  · intro row member inForce
    obtain ⟨source, sourceMember, rfl⟩ := List.mem_map.mp member
    rw [(same source).inForce] at inForce
    rw [(same source).credentialId]
    exact standing.only source sourceMember inForce
  · intro row isId
    exact (same row).credentialId.trans isId
  · rintro row ⟨isId, inactive, withdrawn⟩
    refine ⟨(same row).credentialId.trans isId,
      (same row).activatedAt.trans inactive, ?_⟩
    rw [(same row).revokedAt]
    exact withdrawn

/-- A replacement is staged for the credential in force. -/
theorem Standing.stage (standing : Standing credentials rotations state)
    {credential : CredentialRow} {rotation : RotationRow}
    (free : ∀ row ∈ rotations, row.status.live = false)
    (isStaged : credential.staged = true)
    (pending : rotation.status = .pending)
    (predecessor : rotation.predecessorCredentialId = state.inForce)
    (replacement : rotation.replacementCredentialId = credential.credentialId) :
    Standing (credentials ++ [credential]) (rotations ++ [rotation])
      { state with
        offer := some ⟨credential.credentialId, false, false⟩
        issued := insert credential.credentialId state.issued } := by
  simp only [CredentialRow.staged, Bool.and_eq_true, Option.isNone_iff_eq_none]
    at isStaged
  have offers : rotation.Offers state.inForce
      ⟨credential.credentialId, false, false⟩ :=
    ⟨replacement, predecessor, by simp [pending]⟩
  refine ⟨?_, ?_, ?_, ?_, ?_, ?_⟩
  · obtain ⟨row, member, current⟩ := standing.current
    exact ⟨row, List.mem_append_left _ member, current⟩
  · intro row member inForce
    rcases List.mem_append.mp member with old | new
    · exact standing.only row old inForce
    · rw [List.mem_singleton.mp new] at inForce
      simp [CredentialRow.inForce, isStaged.1] at inForce
  · rintro id (rfl | known)
    · exact ⟨credential, by simp, rfl⟩
    · obtain ⟨row, member, isId⟩ := standing.issued id known
      exact ⟨row, List.mem_append_left _ member, isId⟩
  · intro row member isLive
    rcases List.mem_append.mp member with old | new
    · rw [free row old] at isLive
      cases isLive
    · rw [List.mem_singleton.mp new]
      exact ⟨_, rfl, offers⟩
  · rintro offer ⟨⟩
    exact ⟨rotation, by simp, by simp [pending, RotationStatus.live], offers⟩
  · rintro offer ⟨⟩
    exact ⟨credential, by simp, rfl, isStaged.1, by simp [isStaged.2]⟩

/-- The rotation on offer has been delivered, again or for the first time. -/
theorem Standing.deliver (standing : Standing credentials rotations state)
    {old new : RotationRow} (replaced : Replaced rotations rotations' old new)
    (onlyLive : ∀ row ∈ rotations, row.status.live = true → row = old)
    (oldLive : old.status.live = true) (keys : new.SameKeys old)
    (samePredecessor :
      new.predecessorCredentialId = old.predecessorCredentialId)
    (delivered : new.status = .delivered) :
    ∃ offer, state.offer = some offer ∧
      old.replacementCredentialId = offer.replacement ∧
      Standing credentials rotations'
        { state with offer := some { offer with handedOut := true } } := by
  obtain ⟨offer, offered, offers⟩ := standing.live old replaced.mem oldLive
  have newOffers : new.Offers state.inForce { offer with handedOut := true } :=
    ⟨keys.replacement.trans offers.replacement,
      samePredecessor.trans offers.predecessor, by simp [delivered]⟩
  refine ⟨offer, offered, offers.replacement, standing.current, standing.only,
    standing.issued, ?_, ?_, ?_⟩
  · intro row member isLive
    rcases replaced.cases member with rfl | ⟨before, other⟩
    · exact ⟨_, rfl, newOffers⟩
    · exact absurd (onlyLive row before isLive) other
  · rintro _ ⟨⟩
    exact ⟨new, replaced.new_mem, by simp [delivered, RotationStatus.live],
      newOffers⟩
  · rintro _ ⟨⟩
    exact standing.staged offer offered

/-- The rotation on offer is closed and its replacement revoked. -/
theorem Standing.close (standing : Standing credentials rotations state)
    {old new : RotationRow} {credential revoked : CredentialRow}
    (replaced : Replaced rotations rotations' old new)
    (replacedCredential :
      Replaced credentials credentials' credential revoked)
    (onlyLive : ∀ row ∈ rotations, row.status.live = true → row = old)
    (closed : new.status.live = false)
    (inactive : credential.activatedAt = none)
    (stillInactive : revoked.activatedAt = none)
    (sameId : revoked.credentialId = credential.credentialId) :
    Standing credentials' rotations' { state with offer := none } := by
  have notInForce : credential.inForce = false := by
    simp [CredentialRow.inForce, inactive]
  refine ⟨?_, ?_, ?_, ?_, by simp, by simp⟩
  · obtain ⟨row, member, isId, inForce⟩ := standing.current
    refine ⟨row, replacedCredential.keeps member fun same => ?_, isId, inForce⟩
    rw [same, notInForce] at inForce
    cases inForce
  · intro row member inForce
    rcases replacedCredential.cases member with rfl | ⟨before, -⟩
    · simp [CredentialRow.inForce, stillInactive] at inForce
    · exact standing.only row before inForce
  · intro id known
    obtain ⟨row, member, isId⟩ := standing.issued id known
    by_cases same : row = credential
    · rw [same] at isId
      exact ⟨revoked, replacedCredential.new_mem, sameId.trans isId⟩
    · exact ⟨row, replacedCredential.keeps member same, isId⟩
  · intro row member isLive
    rcases replaced.cases member with rfl | ⟨before, other⟩
    · rw [closed] at isLive
      cases isLive
    · exact absurd (onlyLive row before isLive) other

/-- The replacement is activated and its predecessor retired. -/
theorem Standing.confirm (standing : Standing credentials rotations state)
    (unique : ∀ left ∈ credentials, ∀ right ∈ credentials,
      left.credentialId = right.credentialId → left = right)
    {old new : RotationRow} {middle : List CredentialRow}
    {replacement activated predecessor retired : CredentialRow}
    (replaced : Replaced rotations rotations' old new)
    (activates : Replaced credentials middle replacement activated)
    (retires : Replaced middle credentials' predecessor retired)
    (onlyLive : ∀ row ∈ rotations, row.status.live = true → row = old)
    (closed : new.status.live = false)
    (inactive : replacement.inForce = false)
    (activatedInForce : activated.inForce = true)
    (activatedId : activated.credentialId = replacement.credentialId)
    (predecessorInForce : predecessor.inForce = true)
    (predecessorBefore : predecessor ∈ credentials)
    (retiredNotInForce : retired.inForce = false)
    (retiredId : retired.credentialId = predecessor.credentialId) :
    Standing credentials' rotations'
      { state with inForce := replacement.credentialId, offer := none } := by
  have different : activated ≠ predecessor := by
    intro same
    have sameId : replacement.credentialId = predecessor.credentialId := by
      rw [← activatedId, same]
    rw [unique replacement activates.mem predecessor predecessorBefore sameId,
      predecessorInForce] at inactive
    cases inactive
  refine ⟨?_, ?_, ?_, ?_, by simp, by simp⟩
  · exact ⟨activated, retires.keeps activates.new_mem different, activatedId,
      activatedInForce⟩
  · intro row member inForce
    rcases retires.cases member with rfl | ⟨between, other⟩
    · rw [retiredNotInForce] at inForce
      cases inForce
    · rcases activates.cases between with rfl | ⟨before, -⟩
      · exact activatedId
      · have sameId : row.credentialId = predecessor.credentialId :=
          (standing.only row before inForce).trans
            (standing.only predecessor predecessorBefore
              predecessorInForce).symm
        exact absurd (unique row before predecessor predecessorBefore sameId)
          other
  · intro id known
    obtain ⟨row, member, isId⟩ := standing.issued id known
    by_cases isReplacement : row = replacement
    · rw [isReplacement, ← activatedId] at isId
      exact ⟨activated, retires.keeps activates.new_mem different, isId⟩
    · have between := activates.keeps member isReplacement
      by_cases isPredecessor : row = predecessor
      · rw [isPredecessor, ← retiredId] at isId
        exact ⟨retired, retires.new_mem, isId⟩
      · exact ⟨row, retires.keeps between isPredecessor, isId⟩
  · intro row member isLive
    rcases replaced.cases member with rfl | ⟨before, other⟩
    · rw [closed] at isLive
      cases isLive
    · exact absurd (onlyLive row before isLive) other

/-- A credential that is not in force is revoked: the replacement on offer, or
one that was given up before. -/
theorem Standing.revoke (standing : Standing credentials rotations state)
    {old new : CredentialRow}
    (replaced : Replaced credentials credentials' old new)
    (unique : ∀ row ∈ credentials, row.credentialId = old.credentialId →
      row = old)
    (notInForce : old.inForce = false)
    (sameId : new.credentialId = old.credentialId)
    (sameActivation : new.activatedAt = old.activatedAt)
    (revoked : new.revokedAt.isSome = true) :
    (∃ offer, state.offer = some offer ∧
      offer.replacement = old.credentialId ∧
      Standing credentials' rotations
        { state with offer := some { offer with withdrawn := true } }) ∨
    Standing credentials' rotations state := by
  have newNotInForce : new.inForce = false := by
    simp only [CredentialRow.inForce, Option.isNone_eq_false_iff,
      Bool.and_eq_false_iff]
    exact .inr revoked
  have current : ∃ row ∈ credentials',
      row.credentialId = state.inForce ∧ row.inForce = true := by
    obtain ⟨row, member, isId, inForce⟩ := standing.current
    refine ⟨row, replaced.keeps member fun same => ?_, isId, inForce⟩
    rw [same, notInForce] at inForce
    cases inForce
  have only : ∀ row ∈ credentials', row.inForce = true →
      row.credentialId = state.inForce := by
    intro row member inForce
    rcases replaced.cases member with rfl | ⟨before, -⟩
    · rw [newNotInForce] at inForce
      cases inForce
    · exact standing.only row before inForce
  have issued : ∀ id ∈ state.issued,
      ∃ row ∈ credentials', row.credentialId = id := by
    intro id known
    obtain ⟨row, member, isId⟩ := standing.issued id known
    by_cases same : row = old
    · exact ⟨new, replaced.new_mem, by rw [sameId, ← same, isId]⟩
    · exact ⟨row, replaced.keeps member same, isId⟩
  by_cases isOffer : ∃ offer, state.offer = some offer ∧
      offer.replacement = old.credentialId
  · obtain ⟨offer, offered, isOld⟩ := isOffer
    have flagged : ∀ {row : RotationRow}, row.Offers state.inForce offer →
        row.Offers state.inForce { offer with withdrawn := true } :=
      fun offers => ⟨offers.replacement, offers.predecessor, offers.handedOut⟩
    obtain ⟨row, member, isLive, offers⟩ := standing.offered offer offered
    obtain ⟨stagedRow, stagedMember, stagedId, inactive, -⟩ :=
      standing.staged offer offered
    have isStaged : stagedRow = old :=
      unique stagedRow stagedMember (stagedId.trans isOld)
    refine .inl ⟨offer, offered, isOld, current, only, issued, ?_, ?_, ?_⟩
    · intro other otherMember otherLive
      obtain ⟨otherOffer, otherOffered, otherOffers⟩ :=
        standing.live other otherMember otherLive
      rw [offered] at otherOffered
      cases otherOffered
      exact ⟨_, rfl, flagged otherOffers⟩
    · rintro _ ⟨⟩
      exact ⟨row, member, isLive, flagged offers⟩
    · rintro _ ⟨⟩
      refine ⟨new, replaced.new_mem, sameId.trans isOld.symm, ?_,
        by simp [revoked]⟩
      rw [sameActivation, ← isStaged, inactive]
  · refine .inr ⟨current, only, issued, standing.live, standing.offered, ?_⟩
    intro offer offered
    obtain ⟨row, member, isId, inactive, withdrawn⟩ :=
      standing.staged offer offered
    refine ⟨row, replaced.keeps member fun same => ?_, isId, inactive,
      withdrawn⟩
    rw [same] at isId
    exact isOffer ⟨offer, offered, isId.symm⟩

end Standing

end Devices

end ControlForge
