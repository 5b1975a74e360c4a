import ControlForge.Foundation.Transition
import Mathlib.Data.Set.Insert

/-!
# A two-party key rollover

An issuer has one key in force and may offer a replacement for it.  A holder
keeps one key.  It is handed the replacement, stores it in place of its key,
and acknowledges with the stored key; an acknowledgement that arrives puts the
replacement in force.  An acknowledgement may arrive at any time after it was
sent, more than once, or never, and the holder may lose what it was handed.

The issuer may close an offer or withdraw the offered key.  As long as it does
neither to a key the holder has, the key the holder keeps stays good.
-/

namespace ControlForge

namespace Rollover

structure Offer (Key : Type) where
  replacement : Key
  /-- The replacement has left the issuer. -/
  handedOut : Bool
  /-- The replacement will not be accepted any more. -/
  withdrawn : Bool
deriving DecidableEq

structure State (Key : Type) where
  inForce : Key
  offer : Option (Offer Key)
  /-- The keys the issuer has ever made. -/
  issued : Set Key
  /-- The key the holder keeps. -/
  held : Key
  /-- The replacement the holder was handed and has not stored yet. -/
  hand : Option Key
  /-- The keys the holder has acknowledged with. -/
  acknowledged : Set Key

inductive Move (Key : Type) where
  | stage (replacement : Key)
  | handOut (toHolder : Bool)
  | withdraw
  | close
  | confirm (key : Key)
  | store
  | acknowledge
  | drop

variable {Key : Type}

/-- The holder keeps the key, or has it in its hand. -/
def State.Has (state : State Key) (key : Key) : Prop :=
  state.held = key ∨ state.hand = some key

inductive Step : State Key → Move Key → State Key → Prop
  | stage {state : State Key} {replacement : Key}
      (free : state.offer = none) (fresh : replacement ∉ state.issued) :
      Step state (.stage replacement)
        { state with
          offer := some ⟨replacement, false, false⟩
          issued := insert replacement state.issued }
  | handOut {state : State Key} {offer : Offer Key}
      (offered : state.offer = some offer) :
      Step state (.handOut false)
        { state with offer := some { offer with handedOut := true } }
  /-- Only a holder of the key in force is handed the replacement. -/
  | handOutToHolder {state : State Key} {offer : Offer Key}
      (offered : state.offer = some offer)
      (inForce : state.held = state.inForce) :
      Step state (.handOut true)
        { state with
          offer := some { offer with handedOut := true }
          hand := some offer.replacement }
  | withdraw {state : State Key} {offer : Offer Key}
      (offered : state.offer = some offer) :
      Step state .withdraw
        { state with offer := some { offer with withdrawn := true } }
  | close {state : State Key} :
      Step state .close { state with offer := none }
  | confirm {state : State Key} {key : Key}
      (sent : key ∈ state.acknowledged)
      (offered : state.offer = some ⟨key, true, false⟩) :
      Step state (.confirm key) { state with inForce := key, offer := none }
  | store {state : State Key} {key : Key} (handed : state.hand = some key) :
      Step state .store { state with held := key, hand := none }
  | acknowledge {state : State Key} :
      Step state .acknowledge
        { state with acknowledged := insert state.held state.acknowledged }
  | drop {state : State Key} :
      Step state .drop { state with hand := none }

/-- The issuer does not give up a replacement the holder has, and hands out
none it has given up. -/
def Careful (state : State Key) : Move Key → Prop
  | .withdraw => ∀ offer ∈ state.offer, ¬ state.Has offer.replacement
  | .close =>
      ∀ offer ∈ state.offer, offer.handedOut = true →
        ¬ state.Has offer.replacement
  | .handOut true => ∀ offer ∈ state.offer, offer.withdrawn = false
  | _ => True

/-- The holder's key is in force, or acknowledging with it puts it in force. -/
def State.Good (state : State Key) : Prop :=
  state.held = state.inForce ∨ state.offer = some ⟨state.held, true, false⟩

/-! ## The invariant -/

structure Invariant (state : State Key) : Prop where
  good : state.Good
  /-- What is in the holder's hand is on offer to the holder of the key in
  force. -/
  inHand : ∀ key, state.hand = some key →
    state.held = state.inForce ∧ state.offer = some ⟨key, true, false⟩
  /-- An acknowledgement with an older key confirms nothing any more. -/
  settled : ∀ key ∈ state.acknowledged,
    key = state.held ∨ ∀ offer ∈ state.offer, offer.replacement ≠ key
  acknowledgedIssued : state.acknowledged ⊆ state.issued
  heldIssued : state.held ∈ state.issued
  inForceIssued : state.inForce ∈ state.issued
  offerIssued : ∀ offer ∈ state.offer,
    offer.replacement ∈ state.issued ∧ offer.replacement ≠ state.inForce
  /-- What was not handed out is not with the holder. -/
  unhanded : ∀ offer ∈ state.offer, offer.handedOut = false →
    ¬ state.Has offer.replacement

/-- Where the offer is not at the holder, the holder's key is in force and its
hand is empty. -/
theorem Invariant.apart {state : State Key} (invariant : Invariant state)
    {offer : Offer Key} (offered : state.offer = some offer)
    (without : ¬ state.Has offer.replacement) :
    state.held = state.inForce ∧ state.hand = none := by
  have empty : state.hand = none := by
    cases inHand : state.hand with
    | none => rfl
    | some key =>
        have held := (invariant.inHand key inHand).2
        rw [offered] at held
        cases held
        exact absurd (.inr inHand) without
  refine ⟨?_, empty⟩
  rcases invariant.good with inForce | awaited
  · exact inForce
  · rw [offered] at awaited
    cases awaited
    exact absurd (.inl rfl) without

section Moves

variable {state : State Key}

theorem Invariant.stage (invariant : Invariant state) {replacement : Key}
    (free : state.offer = none) (fresh : replacement ∉ state.issued) :
    Invariant { state with
      offer := some ⟨replacement, false, false⟩
      issued := insert replacement state.issued } := by
  have inForce : state.held = state.inForce := by
    rcases invariant.good with inForce | awaited
    · exact inForce
    · rw [free] at awaited
      cases awaited
  have empty : ∀ key, state.hand ≠ some key := by
    intro key handed
    have offered := (invariant.inHand key handed).2
    rw [free] at offered
    cases offered
  have isNew : ∀ {key : Key}, key ∈ state.issued → replacement ≠ key := by
    intro key issued same
    rw [same] at fresh
    exact fresh issued
  refine ⟨.inl inForce, fun key handed => absurd handed (empty key), ?_,
    fun key sent => .inr (invariant.acknowledgedIssued sent),
    .inr invariant.heldIssued, .inr invariant.inForceIssued, ?_, ?_⟩
  · intro key sent
    right
    rintro offer ⟨⟩
    exact isNew (invariant.acknowledgedIssued sent)
  · rintro offer ⟨⟩
    exact ⟨.inl rfl, isNew invariant.inForceIssued⟩
  · rintro offer ⟨⟩ - (held | handed)
    · exact isNew invariant.heldIssued held.symm
    · exact empty _ handed

/-- A change of the flags of the offer keeps everything about its key. -/
private theorem Invariant.reflag (invariant : Invariant state)
    {offer : Offer Key} (offered : state.offer = some offer)
    (changed : Offer Key) (hand : Option Key)
    (sameKey : changed.replacement = offer.replacement)
    (good : State.Good { state with offer := some changed, hand })
    (inHand : ∀ key, hand = some key →
      state.held = state.inForce ∧ some changed = some ⟨key, true, false⟩)
    (unhanded : changed.handedOut = false →
      ¬ State.Has { state with hand } offer.replacement) :
    Invariant { state with offer := some changed, hand } := by
  refine ⟨good, inHand, ?_, invariant.acknowledgedIssued,
    invariant.heldIssued, invariant.inForceIssued, ?_, ?_⟩
  · intro key sent
    refine (invariant.settled key sent).imp_right fun other => ?_
    rintro _ ⟨⟩
    rw [sameKey]
    exact other offer offered
  · rintro _ ⟨⟩
    rw [sameKey]
    exact invariant.offerIssued offer offered
  · rintro _ ⟨⟩
    rw [sameKey]
    exact unhanded

theorem Invariant.handOut (invariant : Invariant state) {offer : Offer Key}
    (offered : state.offer = some offer) :
    Invariant { state with offer := some { offer with handedOut := true } } := by
  refine invariant.reflag offered { offer with handedOut := true } state.hand
    rfl ?_ ?_ (by simp)
  · rcases invariant.good with inForce | awaited
    · exact .inl inForce
    · rw [offered] at awaited
      cases awaited
      exact .inr rfl
  · intro key handed
    obtain ⟨inForce, same⟩ := invariant.inHand key handed
    rw [offered] at same
    cases same
    exact ⟨inForce, rfl⟩

theorem Invariant.handOutToHolder (invariant : Invariant state)
    {offer : Offer Key} (offered : state.offer = some offer)
    (inForce : state.held = state.inForce) (current : offer.withdrawn = false) :
    Invariant { state with
      offer := some { offer with handedOut := true }
      hand := some offer.replacement } := by
  refine invariant.reflag offered { offer with handedOut := true }
    (some offer.replacement) rfl (.inl inForce) ?_ (by simp)
  rintro key ⟨⟩
  exact ⟨inForce, by rw [← current]⟩

theorem Invariant.withdraw (invariant : Invariant state) {offer : Offer Key}
    (offered : state.offer = some offer)
    (without : ¬ state.Has offer.replacement) :
    Invariant { state with offer := some { offer with withdrawn := true } } := by
  obtain ⟨inForce, empty⟩ := invariant.apart offered without
  refine invariant.reflag offered { offer with withdrawn := true } state.hand
    rfl (.inl inForce) ?_ fun _ => without
  intro key handed
  rw [empty] at handed
  cases handed

theorem Invariant.close (invariant : Invariant state)
    (careful : ∀ offer ∈ state.offer, offer.handedOut = true →
      ¬ state.Has offer.replacement) :
    Invariant { state with offer := none } := by
  have apart : state.held = state.inForce ∧ ∀ key, state.hand ≠ some key := by
    cases offered : state.offer with
    | none =>
        refine ⟨?_, fun key handed => ?_⟩
        · rcases invariant.good with inForce | awaited
          · exact inForce
          · rw [offered] at awaited
            cases awaited
        · have same := (invariant.inHand key handed).2
          rw [offered] at same
          cases same
    | some offer =>
        have without : ¬ state.Has offer.replacement := by
          cases handed : offer.handedOut with
          | true => exact careful offer offered handed
          | false => exact invariant.unhanded offer offered handed
        obtain ⟨inForce, empty⟩ := invariant.apart offered without
        exact ⟨inForce, by simp [empty]⟩
  refine ⟨.inl apart.1, fun key handed => absurd handed (apart.2 key),
    fun key sent => .inr (by simp), invariant.acknowledgedIssued,
    invariant.heldIssued, invariant.inForceIssued, by simp, by simp⟩

theorem Invariant.confirm (invariant : Invariant state) {key : Key}
    (sent : key ∈ state.acknowledged)
    (offered : state.offer = some ⟨key, true, false⟩) :
    Invariant { state with inForce := key, offer := none } := by
  have isHeld : key = state.held := by
    rcases invariant.settled key sent with same | other
    · exact same
    · exact absurd rfl (other _ offered)
  obtain ⟨issued, different⟩ := invariant.offerIssued _ offered
  have empty : ∀ other, state.hand ≠ some other := by
    intro other handed
    have inForce := (invariant.inHand other handed).1
    exact different (isHeld.trans inForce)
  exact ⟨.inl isHeld.symm, fun other handed => absurd handed (empty other),
    fun other sent => .inr (by simp), invariant.acknowledgedIssued,
    invariant.heldIssued, issued, by simp, by simp⟩

theorem Invariant.store (invariant : Invariant state) {key : Key}
    (handed : state.hand = some key) :
    Invariant { state with held := key, hand := none } := by
  obtain ⟨inForce, offered⟩ := invariant.inHand key handed
  obtain ⟨issued, different⟩ := invariant.offerIssued _ offered
  refine ⟨.inr offered, by simp, ?_, invariant.acknowledgedIssued, issued,
    invariant.inForceIssued, invariant.offerIssued, ?_⟩
  · intro other sent
    rcases invariant.settled other sent with same | apart
    · right
      intro offer member
      rw [show state.offer = _ from offered] at member
      cases member
      rw [same, inForce]
      exact different
    · exact .inr apart
  · intro offer member isUnhanded
    rw [show state.offer = _ from offered] at member
    cases member
    cases isUnhanded

theorem Invariant.acknowledge (invariant : Invariant state) :
    Invariant { state with
      acknowledged := insert state.held state.acknowledged } := by
  refine ⟨invariant.good, invariant.inHand, ?_, ?_, invariant.heldIssued,
    invariant.inForceIssued, invariant.offerIssued, invariant.unhanded⟩
  · rintro key (same | sent)
    · exact .inl same
    · exact invariant.settled key sent
  · rintro key (same | sent)
    · rw [same]
      exact invariant.heldIssued
    · exact invariant.acknowledgedIssued sent

theorem Invariant.drop (invariant : Invariant state) :
    Invariant { state with hand := none } := by
  refine ⟨invariant.good, by simp, invariant.settled,
    invariant.acknowledgedIssued, invariant.heldIssued,
    invariant.inForceIssued, invariant.offerIssued, ?_⟩
  intro offer member isUnhanded has
  rcases has with held | handed
  · exact invariant.unhanded offer member isUnhanded (.inl held)
  · cases handed

end Moves

theorem Invariant.step {state next : State Key} {move : Move Key}
    (invariant : Invariant state) (careful : Careful state move)
    (step : Step state move next) : Invariant next := by
  cases step with
  | stage free fresh => exact invariant.stage free fresh
  | handOut offered => exact invariant.handOut offered
  | handOutToHolder offered inForce =>
      exact invariant.handOutToHolder offered inForce
        (careful _ offered)
  | withdraw offered => exact invariant.withdraw offered (careful _ offered)
  | close => exact invariant.close careful
  | confirm sent offered => exact invariant.confirm sent offered
  | store handed => exact invariant.store handed
  | acknowledge => exact invariant.acknowledge
  | drop => exact invariant.drop

/-- A holder that has just been given the first key is in order. -/
theorem Invariant.enrolled (key : Key) :
    Invariant ⟨key, none, {key}, key, none, ∅⟩ where
  good := .inl rfl
  inHand := by simp
  settled := by simp
  acknowledgedIssued := by simp
  heldIssued := rfl
  inForceIssued := rfl
  offerIssued := by simp
  unhanded := by simp

/-- Any number of careful moves. -/
def Moves (state next : State Key) : Prop :=
  Relation.ReflTransGen
    (fun before after => ∃ move, Careful before move ∧ Step before move after)
    state next

theorem Moves.one {state next : State Key} {move : Move Key}
    (careful : Careful state move) (step : Step state move next) :
    Moves state next :=
  .single ⟨move, careful, step⟩

theorem Invariant.moves {state next : State Key} (invariant : Invariant state)
    (moves : Moves state next) : Invariant next := by
  induction moves with
  | refl => exact invariant
  | tail _ step induction =>
      obtain ⟨move, careful, moved⟩ := step
      exact induction.step careful moved

end Rollover

end ControlForge
