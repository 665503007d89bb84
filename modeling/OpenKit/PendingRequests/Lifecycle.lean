import OpenKit.PendingRequests.Model

namespace OpenKit
namespace PendingRequests

open Foundation RecordUpdate

/-!
# The life of one request

The operations are read here as steps of one row.  `Admissible` says when an
operation runs a statement on a row: the statement's own `WHERE` clause and
what the operation has tested before.  One operation runs at most one statement
on a row, except the closeout, which may run up to four.  From these steps
alone follow the invariant of every row and how a row can change over time.
-/

variable {record later : PendingRequestRecord} {update : RecordUpdate}

/-- A recorded grant whose execution has no disposition yet. -/
def PendingRequestRecord.Unsettled (record : PendingRequestRecord) : Prop :=
  record.resolution = some .granted /\ record.disposition = none

/-- When an operation runs a statement on a row. -/
def Admissible (update : RecordUpdate) (record : PendingRequestRecord) : Prop :=
  update.guard record /\
    match update with
    | .freeze .. => record.isFinalOutcome
    | .closeOut .. => record.isFinalOutcome /\ ¬ record.Unsettled
    | .refuseOnCloseout .. => PendingTable.isAbandonedGrant record
    | _ => True

/-- The statements of a closeout. -/
def RecordUpdate.isCloseout : RecordUpdate -> Bool
  | .endRequest .. | .refuseOnCloseout .. | .markInvalidation .. | .closeOut .. => true
  | _ => false

/-- One statement of a closeout. -/
def CloseoutWrite (before after : PendingRequestRecord) : Prop :=
  ∃ update : RecordUpdate, update.isCloseout /\ Admissible update before /\
    after = update.write before

/-- What one operation may do to a row. -/
inductive OperationStep (before : PendingRequestRecord) : PendingRequestRecord -> Prop where
  | unchanged : OperationStep before before
  | wrote (update : RecordUpdate) (admissible : Admissible update before) :
      OperationStep before (update.write before)
  | closedOut (after : PendingRequestRecord)
      (writes : Relation.ReflTransGen CloseoutWrite before after) : OperationStep before after

/-- A row that was just raised. -/
def Raised (record : PendingRequestRecord) : Prop :=
  ∃ input, record = raisedRecord input

/-! ## The invariant of a row -/

/-- What holds of every row at any time. -/
structure Sound (record : PendingRequestRecord) : Prop where
  pending : record.state = .pending ->
    record.claim = .unclaimed /\ record.disposition = none /\ record.delivery = .undelivered
  unresolved : record.state ≠ .resolved -> record.resolution = none
  claimed : record.claim = .claimed -> record.Unsettled
  finished : record.claim = .finished ->
    record.resolution = some .granted /\ record.disposition ≠ none
  frozen : record.delivery = .frozen -> record.deliveryTurnId ≠ none
  final : record.delivery ≠ .undelivered -> record.isFinalOutcome
  closedOut : record.delivery = .closedOut -> ¬ record.Unsettled

theorem sound_raised (input : RaisePendingRequestInput) : Sound (raisedRecord input) := by
  constructor <;> simp [raisedRecord]

theorem isOpen_iff : isOpen record <-> record.state = .pending /\ record.claim = .unclaimed := by
  simp [isOpen]

private theorem isOpenGrant_iff : isOpenGrant record <->
    record.state = .resolved /\ record.claim = .unclaimed /\ record.Unsettled := by
  simp only [isOpenGrant, PendingRequestRecord.Unsettled, Bool.and_eq_true,
    decide_eq_true_eq, Option.isNone_iff_eq_none]
  tauto

theorem isFinalOutcome_iff : record.isFinalOutcome <->
    record.state = .ended \/ (record.state = .resolved /\
      (record.resolution = some .denied \/ record.resolution = some .answered \/
        (record.resolution = some .granted /\
          (record.isCommandIntentApproval \/ record.disposition ≠ none)))) := by
  unfold PendingRequestRecord.isFinalOutcome
  cases record.state with
  | pending => simp
  | ended => simp
  | resolved =>
    cases record.resolution with
    | none => simp
    | some resolution =>
      cases resolution <;> simp [Option.isSome_iff_ne_none]

private theorem not_pending_of_final (final : record.isFinalOutcome) : record.state ≠ .pending := by
  intro isPending
  unfold PendingRequestRecord.isFinalOutcome at final
  rw [isPending] at final
  cases final

theorem Sound.resolved_of_granted (sound : Sound record)
    (granted : record.resolution = some .granted) : record.state = .resolved := by
  by_contra other
  rw [sound.unresolved other] at granted
  cases granted

/-- A statement that only open requests admit finds no final outcome. -/
private theorem not_final_of_isOpen (opened : isOpen record) : record.isFinalOutcome = false := by
  have isPending := (isOpen_iff.mp opened).1
  unfold PendingRequestRecord.isFinalOutcome
  rw [isPending]

theorem isFinalOutcome_write (legal : Admissible update record)
    (final : record.isFinalOutcome) : (update.write record).isFinalOutcome := by
  have guard := legal.1
  cases update with
  | deny | endRequest | refuseGrant | claimGrant =>
    rw [not_final_of_isOpen guard] at final
    cases final
  | answer | grantIntent =>
    simp only [RecordUpdate.guard, Bool.and_eq_true] at guard
    rw [not_final_of_isOpen guard.1] at final
    cases final
  | claimIntent | freeze | release | moveFrozen | markInvalidation | closeOut => exact final
  | refuseIntent | finish | settle | refuseOnCloseout =>
    rw [isFinalOutcome_iff] at final ⊢
    rcases final with ended | ⟨resolved, denied | answered | ⟨granted, _⟩⟩
    · exact .inl ended
    · exact .inr ⟨resolved, .inl denied⟩
    · exact .inr ⟨resolved, .inr (.inl answered)⟩
    · exact .inr ⟨resolved, .inr (.inr ⟨granted, .inr (by simp [write])⟩)⟩

/-- Every statement keeps the invariant. -/
theorem Sound.write (sound : Sound record) (legal : Admissible update record) :
    Sound (update.write record) := by
  have final := isFinalOutcome_write legal
  rcases legal with ⟨guard, tested⟩
  cases update with
  | deny | endRequest | refuseGrant | claimGrant =>
    have opened := isOpen_iff.mp guard
    have before := sound.pending opened.1
    have none := sound.unresolved (by simp [opened.1])
    constructor <;> simp_all [write, resolve,
      PendingRequestRecord.Unsettled]
  | answer | grantIntent =>
    simp only [RecordUpdate.guard, Bool.and_eq_true] at guard
    have opened := isOpen_iff.mp guard.1
    have before := sound.pending opened.1
    constructor <;> simp_all [RecordUpdate.write, RecordUpdate.resolve,
      PendingRequestRecord.Unsettled]
  | claimIntent | refuseIntent =>
    simp only [RecordUpdate.guard, Bool.and_eq_true] at guard
    rcases isOpenGrant_iff.mp guard.1 with ⟨resolved, unclaimed, unsettled⟩
    have notClosedOut : record.delivery ≠ .closedOut := fun closed =>
      sound.closedOut closed unsettled
    have finalBefore := sound.final
    have turnBefore := sound.frozen
    constructor <;> simp_all [RecordUpdate.write, PendingRequestRecord.Unsettled]
  | finish | settle =>
    simp only [RecordUpdate.guard, Bool.and_eq_true, decide_eq_true_eq] at guard
    have unsettled := sound.claimed guard.1
    have decided := sound.resolved_of_granted unsettled.1
    have finalBefore := sound.final
    have turnBefore := sound.frozen
    constructor <;> simp_all [RecordUpdate.write, PendingRequestRecord.Unsettled]
  | freeze turnId =>
    have decided := not_pending_of_final tested
    exact {
      pending := fun isPending => absurd isPending decided, unresolved := sound.unresolved
      claimed := sound.claimed, finished := sound.finished
      frozen := fun _ => Option.some_ne_none turnId, final := fun _ => tested
      closedOut := fun never => by cases never }
  | release =>
    exact {
      pending := fun isPending =>
        ⟨(sound.pending isPending).1, (sound.pending isPending).2.1, rfl⟩
      unresolved := sound.unresolved, claimed := sound.claimed, finished := sound.finished
      frozen := fun never => by cases never
      final := fun changed => absurd rfl changed
      closedOut := fun never => by cases never }
  | moveFrozen turnId proved =>
    simp only [RecordUpdate.guard, Bool.and_eq_true, decide_eq_true_eq] at guard
    have wasFinal := sound.final (by simp [guard.1])
    exact {
      pending := fun isPending => absurd isPending (not_pending_of_final wasFinal)
      unresolved := sound.unresolved, claimed := sound.claimed, finished := sound.finished
      frozen := fun never => by cases proved <;> cases never
      final := fun _ => wasFinal
      closedOut := fun never => by cases proved <;> cases never }
  | refuseOnCloseout =>
    simp only [PendingTable.isAbandonedGrant, Bool.and_eq_true, decide_eq_true_eq,
      Option.isNone_iff_eq_none] at tested
    rcases tested with ⟨⟨⟨_, granted⟩, unclaimed⟩, _⟩
    have decided : record.state = .resolved := sound.resolved_of_granted granted
    have finalBefore := sound.final
    have turnBefore := sound.frozen
    constructor <;> simp_all [write, PendingRequestRecord.Unsettled]
  | markInvalidation =>
    exact ⟨sound.pending, sound.unresolved, sound.claimed, sound.finished, sound.frozen,
      sound.final, sound.closedOut⟩
  | closeOut =>
    exact {
      pending := fun isPending => absurd isPending (not_pending_of_final tested.1)
      unresolved := sound.unresolved, claimed := sound.claimed, finished := sound.finished
      frozen := fun never => by cases never
      final := fun _ => tested.1, closedOut := fun _ => tested.2 }

/-- A whole operation keeps the invariant. -/
theorem Sound.operation (sound : Sound record) (step : OperationStep record later) :
    Sound later := by
  cases step with
  | unchanged => exact sound
  | wrote update legal => exact sound.write legal
  | closedOut _ writes =>
    induction writes with
    | refl => exact sound
    | tail _ wrote ih =>
      rcases wrote with ⟨update, _, legal, same⟩
      rw [same]
      exact ih.write legal

/-! ## How a row changes -/

/-- The delivery states that nothing leaves. -/
def PendingRequestDelivery.isTerminal : PendingRequestDelivery -> Bool
  | .delivered | .deliveryUnknown | .closedOut => true
  | .undelivered | .frozen => false

def PendingRequestClaim.rank : PendingRequestClaim -> Nat
  | .unclaimed => 0
  | .claimed => 1
  | .finished => 2

/-- What a later version of a row keeps of an earlier one. -/
structure Progress (before after : PendingRequestRecord) : Prop where
  decision : before.state ≠ .pending ->
    after.state = before.state /\ after.resolution = before.resolution /\
      after.decidingActor = before.decidingActor /\ after.decidedAt = before.decidedAt /\
      after.ending = before.ending /\ after.endingActor = before.endingActor /\
      after.endedAt = before.endedAt
  claim : before.claim.rank <= after.claim.rank
  disposition : before.disposition ≠ none -> after.disposition = before.disposition
  delivery : before.delivery.isTerminal ->
    after.delivery = before.delivery /\ after.deliveryTurnId = before.deliveryTurnId
  publication : before.publicationTurnId ≠ none ->
    after.publicationTurnId = before.publicationTurnId

theorem Progress.refl (record : PendingRequestRecord) : Progress record record :=
  ⟨fun _ => ⟨rfl, rfl, rfl, rfl, rfl, rfl, rfl⟩, Nat.le_refl _, fun _ => rfl,
    fun _ => ⟨rfl, rfl⟩, fun _ => rfl⟩

theorem Progress.trans {first second third : PendingRequestRecord}
    (earlier : Progress first second) (next : Progress second third) : Progress first third where
  decision := by
    intro decided
    have one := earlier.decision decided
    have two := next.decision (one.1 ▸ decided)
    exact ⟨two.1.trans one.1, two.2.1.trans one.2.1, two.2.2.1.trans one.2.2.1,
      two.2.2.2.1.trans one.2.2.2.1, two.2.2.2.2.1.trans one.2.2.2.2.1,
      two.2.2.2.2.2.1.trans one.2.2.2.2.2.1, two.2.2.2.2.2.2.trans one.2.2.2.2.2.2⟩
  claim := Nat.le_trans earlier.claim next.claim
  disposition := by
    intro settled
    have one := earlier.disposition settled
    exact (next.disposition (one ▸ settled)).trans one
  delivery := by
    intro terminal
    have one := earlier.delivery terminal
    have two := next.delivery (one.1 ▸ terminal)
    exact ⟨two.1.trans one.1, two.2.trans one.2⟩
  publication := by
    intro shown
    have one := earlier.publication shown
    exact (next.publication (one ▸ shown)).trans one

variable (sound : Sound record) (legal : Admissible update record)

include sound

/-- The statements that decide or end a request find it open. -/
private theorem progress_of_pending (isPending : record.state = .pending)
    (samePublication : later.publicationTurnId = record.publicationTurnId) :
    Progress record later where
  decision := fun decided => absurd isPending decided
  claim := by
    rw [(sound.pending isPending).1]
    exact Nat.zero_le _
  disposition := fun settled => absurd (sound.pending isPending).2.1 settled
  delivery := by
    intro terminal
    rw [(sound.pending isPending).2.2] at terminal
    cases terminal
  publication := fun _ => samePublication

include legal

theorem Sound.progress : Progress record (update.write record) := by
  rcases legal with ⟨guard, tested⟩
  have same := (Progress.refl record).decision
  cases update with
  | deny | endRequest | refuseGrant | claimGrant =>
    exact progress_of_pending sound (isOpen_iff.mp guard).1 rfl
  | answer | grantIntent =>
    simp only [RecordUpdate.guard, Bool.and_eq_true] at guard
    exact progress_of_pending sound (isOpen_iff.mp guard.1).1 rfl
  | claimIntent =>
    simp only [RecordUpdate.guard, Bool.and_eq_true] at guard
    have unclaimed := (isOpenGrant_iff.mp guard.1).2.1
    refine ⟨same, ?_, fun _ => rfl, fun _ => ⟨rfl, rfl⟩, fun _ => rfl⟩
    rw [unclaimed]
    exact Nat.zero_le _
  | refuseIntent =>
    simp only [RecordUpdate.guard, Bool.and_eq_true] at guard
    have unsettled := (isOpenGrant_iff.mp guard.1).2.2.2
    exact ⟨same, Nat.le_refl _, fun settled => absurd unsettled settled, fun _ => ⟨rfl, rfl⟩,
      fun _ => rfl⟩
  | finish | settle =>
    simp only [RecordUpdate.guard, Bool.and_eq_true, decide_eq_true_eq,
      Option.isNone_iff_eq_none] at guard
    refine ⟨same, ?_, fun settled => absurd guard.2 settled, fun _ => ⟨rfl, rfl⟩, fun _ => rfl⟩
    rw [guard.1]
    exact Nat.le_succ 1
  | freeze | closeOut =>
    have undelivered : record.delivery = .undelivered := of_decide_eq_true guard
    refine ⟨same, Nat.le_refl _, fun _ => rfl, ?_, ?_⟩
    · intro terminal
      rw [undelivered] at terminal
      cases terminal
    · intro shown
      exact Option.or_of_isSome (Option.isSome_iff_ne_none.mpr shown)
  | release | moveFrozen =>
    simp only [RecordUpdate.guard, Bool.and_eq_true, decide_eq_true_eq] at guard
    refine ⟨same, Nat.le_refl _, fun _ => rfl, ?_, fun _ => rfl⟩
    intro terminal
    rw [guard.1] at terminal
    cases terminal
  | refuseOnCloseout =>
    simp only [RecordUpdate.guard, Bool.and_eq_true, decide_eq_true_eq,
      Option.isNone_iff_eq_none] at guard
    exact ⟨same, Nat.le_refl _, fun settled => absurd guard.2 settled, fun _ => ⟨rfl, rfl⟩,
      fun _ => rfl⟩
  | markInvalidation =>
    exact ⟨same, Nat.le_refl _, fun _ => rfl, fun _ => ⟨rfl, rfl⟩, fun _ => rfl⟩

omit legal in
/-- A whole operation makes progress. -/
theorem Sound.operation_progress (step : OperationStep record later) : Progress record later := by
  cases step with
  | unchanged => exact .refl record
  | wrote update legal => exact sound.progress legal
  | closedOut _ writes =>
    induction writes with
    | refl => exact .refl record
    | tail before wrote ih =>
      rcases wrote with ⟨update, _, legal, same⟩
      rw [same]
      exact ih.trans ((sound.operation (.closedOut _ before)).progress legal)

/-! ## What one operation does to the claim and to the delivery -/

/-- A claim moves by one place, and is only taken on an open grant. -/
inductive ClaimMove (before after : PendingRequestRecord) : Prop where
  | kept (same : after.claim = before.claim)
  | taken (unclaimed : before.claim = .unclaimed) (claimed : after.claim = .claimed)
      (granted : after.resolution = some .granted) (unsettled : before.disposition = none)
      (stillOpen : after.disposition = none) (notEnded : before.state ≠ .ended)
      (notDenied : before.resolution ≠ some .denied)
      (notAnswered : before.resolution ≠ some .answered)
      (notClosedOut : before.delivery ≠ .closedOut)
  | finished (claimed : before.claim = .claimed) (done : after.claim = .finished)

inductive DeliveryMove (before after : PendingRequestRecord) : Prop where
  | kept (same : after.delivery = before.delivery)
  | frozen (undelivered : before.delivery = .undelivered) (froze : after.delivery = .frozen)
      (final : before.isFinalOutcome)
  | released (frozen : before.delivery = .frozen) (undelivered : after.delivery = .undelivered)
  | proved (frozen : before.delivery = .frozen) (delivered : after.delivery = .delivered)
      (sameTurn : after.deliveryTurnId = before.deliveryTurnId)
  | unknown (frozen : before.delivery = .frozen) (unknown : after.delivery = .deliveryUnknown)
      (sameTurn : after.deliveryTurnId = before.deliveryTurnId)
  | closedOut (undelivered : before.delivery = .undelivered) (closed : after.delivery = .closedOut)

theorem Sound.claimMove : ClaimMove record (update.write record) := by
  have guard := legal.1
  cases update with
  | deny | refuseGrant =>
    exact .kept (isOpen_iff.mp guard).2.symm
  | answer | endRequest | grantIntent | refuseIntent | freeze | release | moveFrozen
  | refuseOnCloseout | markInvalidation | closeOut => exact .kept rfl
  | claimGrant =>
    have opened := isOpen_iff.mp guard
    have before := sound.pending opened.1
    have none := sound.unresolved (by simp [opened.1])
    exact .taken opened.2 rfl rfl before.2.1 before.2.1 (by simp [opened.1]) (by simp [none])
      (by simp [none]) (by simp [before.2.2])
  | claimIntent =>
    simp only [RecordUpdate.guard, Bool.and_eq_true] at guard
    rcases isOpenGrant_iff.mp guard.1 with ⟨resolved, unclaimed, unsettled⟩
    exact .taken unclaimed rfl unsettled.1 unsettled.2 unsettled.2 (by simp [resolved])
      (by simp [unsettled.1]) (by simp [unsettled.1])
      (sound.closedOut · unsettled)
  | finish | settle =>
    simp only [RecordUpdate.guard, Bool.and_eq_true, decide_eq_true_eq] at guard
    exact .finished guard.1 rfl

omit sound

theorem deliveryMove : DeliveryMove record (update.write record) := by
  rcases legal with ⟨guard, tested⟩
  cases update with
  | deny | answer | endRequest | refuseGrant | claimGrant | grantIntent | claimIntent
  | refuseIntent | finish | settle | refuseOnCloseout | markInvalidation => exact .kept rfl
  | freeze => exact .frozen (of_decide_eq_true guard) rfl tested
  | closeOut => exact .closedOut (of_decide_eq_true guard) rfl
  | release =>
    simp only [RecordUpdate.guard, Bool.and_eq_true, decide_eq_true_eq] at guard
    exact .released guard.1 rfl
  | moveFrozen turnId proved =>
    simp only [RecordUpdate.guard, Bool.and_eq_true, decide_eq_true_eq] at guard
    cases proved with
    | true => exact .proved guard.1 rfl rfl
    | false => exact .unknown guard.1 rfl rfl

omit legal

theorem closeout_moves (writes : Relation.ReflTransGen CloseoutWrite record later) :
    later.claim = record.claim /\ (later.delivery = record.delivery \/
        (record.delivery = .undelivered /\ later.delivery = .closedOut)) := by
  induction writes with
  | refl => exact ⟨rfl, .inl rfl⟩
  | tail _ wrote ih =>
    rcases wrote with ⟨update, isCloseout, ⟨guard, _⟩, same⟩
    cases update with
    | endRequest | refuseOnCloseout | markInvalidation =>
      rw [same]
      exact ih
    | closeOut =>
      rw [same]
      have undelivered := of_decide_eq_true guard
      refine ⟨ih.1, .inr ⟨?_, rfl⟩⟩
      rcases ih.2 with kept | ⟨_, closed⟩
      · exact kept.symm.trans undelivered
      · rw [undelivered] at closed
        cases closed
    | deny | answer | refuseGrant | claimGrant | grantIntent | claimIntent | refuseIntent
    | finish | settle | freeze | release | moveFrozen => cases isCloseout

include sound

theorem Sound.operation_claimMove (step : OperationStep record later) : ClaimMove record later := by
  cases step with
  | unchanged => exact .kept rfl
  | wrote update legal => exact sound.claimMove legal
  | closedOut _ writes => exact .kept (closeout_moves writes).1

omit sound

theorem operation_deliveryMove (step : OperationStep record later) : DeliveryMove record later := by
  cases step with
  | unchanged => exact .kept rfl
  | wrote update legal => exact deliveryMove legal
  | closedOut _ writes =>
    rcases (closeout_moves writes).2 with kept | ⟨undelivered, closed⟩
    · exact .kept kept
    · exact .closedOut undelivered closed

end PendingRequests
end OpenKit
