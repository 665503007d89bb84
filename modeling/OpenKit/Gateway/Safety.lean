import OpenKit.Gateway.Records

namespace OpenKit
namespace Gateway

open Foundation GatewayEvent GatewayState List

/-!
# No effect is repeated

Every step of the executor and every happening keeps `Sound`, so every start of
every run is admitted.  The exception is a callback that takes effect after its attempt
settled: the loop does not look at the flag again before the next attempt.

A wait that the provider asks for is observed in full, as long as its number of
seconds is finite for the runtime.  A longer text of digits reads as no number at
all, and the executor falls back to its own short delay.
-/

variable {ρ τ : Type} {plan : GatewayPlan ρ}

/-! ## The executor -/

section Executor

variable {deadline : Millis} {state after : GatewayState ρ τ} {current : Try ρ} {index : Nat}
  {failure : PiAiFailure}

variable (sound : Sound plan deadline state) (failing : Failing plan state current failure)

include sound

/-- A step that starts no attempt. -/
theorem Sound.moved (sameDeadline : after.deadline = state.deadline) (log : after.log = state.log)
    (expired : after.expired = state.expired) (aborted : after.aborted = state.aborted)
    (records : Records plan after after.control) : Sound plan deadline after where
  sameDeadline := sameDeadline.trans sound.sameDeadline
  admitted := by
    rw [log]
    exact sound.admitted
  expiredSeen := by
    rw [log, expired]
    exact sound.expiredSeen
  abortedSeen := by
    rw [log, aborted]
    exact sound.abortedSeen
  records := records

theorem Sound.finish (outcome : GatewayOutcome τ) : Sound plan deadline (state.finish outcome) :=
  sound.moved rfl rfl rfl rfl trivial

theorem Sound.rethrow (error : Thrown) : Sound plan deadline (state.rethrow error) := by
  unfold GatewayState.rethrow
  split
  · exact sound.finish _
  · exact sound.finish _

theorem Sound.exhaust : Sound plan deadline (state.exhaust plan) := by
  unfold GatewayState.exhaust
  split
  · split
    · exact sound.finish _
    · exact sound.finish _
  · exact sound.finish _

theorem Sound.logged {event : GatewayEvent} (noStart : event.isStart = false)
    (sameDeadline : after.deadline = state.deadline) (log : after.log = event :: state.log)
    (expired : (event = .deadlineFired \/ state.expired) -> after.expired)
    (aborted : (event = .aborted \/ state.aborted) -> after.aborted)
    (records : Records plan after after.control) : Sound plan deadline after where
  sameDeadline := sameDeadline.trans sound.sameDeadline
  admitted := by
    intro start before occurs
    rw [log] at occurs
    rcases suffix_cons_iff.mp occurs with same | old
    · rw [<- (List.cons.inj same).1] at noStart
      cases noStart
    · exact sound.admitted start before old
  expiredSeen := by
    rw [log]
    intro mem
    rcases mem_cons.mp mem with same | old
    · exact expired (.inl same.symm)
    · exact expired (.inr (sound.expiredSeen old))
  abortedSeen := by
    rw [log]
    intro mem
    rcases mem_cons.mp mem with same | old
    · exact aborted (.inl same.symm)
    · exact aborted (.inr (sound.abortedSeen old))
  records := records

omit sound

theorem Exhausted.nextSelection (exhausted : Exhausted plan state index) :
    state.nextSelection plan index = none := by
  unfold GatewayState.nextSelection
  rcases exhausted with ⟨disabled, failed⟩ | short
  · rw [if_pos (by simp [disabled, Option.isSome_iff_ne_none, failed])]
  · split
    · rfl
    · exact getElem?_eq_none short

theorem exhausted_of_nextSelection (ended : state.nextSelection plan index = none) :
    Exhausted plan state index := by
  unfold nextSelection at ended
  split at ended
  next disabled =>
    simp only [Bool.and_eq_true, Bool.not_eq_true', Option.isSome_iff_ne_none] at disabled
    exact .inl disabled
  · exact .inr (getElem?_eq_none_iff.mp ended)

theorem Exhausted.later (exhausted : Exhausted plan state index) :
    Exhausted plan state (index + 1) := by
  rcases exhausted with disabled | short
  · exact .inl disabled
  · exact .inr (Nat.le_succ_of_le short)

/-- A member of which nothing was tried yet. -/
theorem Between.untried (between : Between plan state index) (planned : state.resetRetry = false)
    {selection : GatewaySelection ρ} (next : state.nextSelection plan index = some selection) :
    Placed plan index 0 state where
  authored := by
    intro _ start mem
    rcases (between.planned planned).2 start mem with ⟨own, earlier⟩
    refine ⟨own, Nat.le_of_lt earlier, ?_⟩
    intro _
    by_contra disabled
    have off : plan.autoFailover = false := by simpa using disabled
    rw [Exhausted.nextSelection (.inl ⟨off, between.calm.remembered start mem⟩)] at next
    cases next
  counted := by
    intro _
    rw [countP_eq_zero]
    intro event mem
    cases event with
    | started start =>
      have earlier := ((between.planned planned).2 start mem).2
      simp [isTryAt, Nat.ne_of_lt earlier]
    | _ => simp [isTryAt]
  first := by
    intro spent
    rw [planned] at spent
    cases spent

include sound

theorem nextMember_sound (between : Between plan state index) :
    Sound plan deadline (state.nextMember plan index) := by
  unfold nextMember
  split
  next next =>
    have planned : state.resetRetry = false := by
      by_contra spent
      rw [(between.recovery (by simpa using spent)).2.nextSelection] at next
      cases next
    split
    · refine sound.moved rfl rfl rfl rfl ⟨between.calm.disturbed (disturbed_control _ _),
        (between.untried planned next).disturbed (disturbed_control _ _), ⟨?_, ?_, Nat.zero_le _⟩,
        fun retried => absurd retried (Nat.lt_irrefl 0)⟩
      · intro _
        exact ⟨(between.planned planned).1, rfl⟩
      · intro spent
        rw [planned] at spent
        cases spent
    · have later : Between plan state (index + 1) := by
        refine ⟨between.calm, ?_, fun spent => ?_⟩
        · intro _
          refine ⟨(between.planned planned).1, fun start mem => ?_⟩
          rcases (between.planned planned).2 start mem with ⟨own, earlier⟩
          exact ⟨own, Nat.lt_succ_of_lt earlier⟩
        · exact ⟨(between.recovery spent).1, (between.recovery spent).2.later⟩
      exact sound.moved rfl rfl rfl rfl (later.disturbed (disturbed_control _ _))
  next ended =>
    split
    · exact sound.exhaust
    rename_i admitted
    simp only [Bool.or_eq_true, not_or, Bool.not_eq_true, Bool.not_eq_false'] at admitted
    have unspent : state.resetRetry = false := by
      by_contra spent
      rw [(between.recovery (by simpa using spent)).1] at admitted
      exact Bool.noConfusion admitted.1.1.1.1.1.1
    refine sound.moved rfl rfl rfl rfl ⟨⟨between.calm.continues, between.calm.balanced,
      between.calm.remembered⟩, rfl, unspent, ?_, exhausted_of_nextSelection ended, ?_⟩
    · exact fun start mem => ((between.planned unspent).2 start mem).1
    · simpa using admitted.1.1.1.1.2

theorem afterRecovery_sound (recovering : Recovering plan state index) (recovered : Bool) :
    Sound plan deadline (state.afterRecovery plan index recovered) := by
  unfold afterRecovery
  split
  · exact sound.finish _
  split
  · exact sound.exhaust
  split
  · exact sound.exhaust
  rename_i position selection quota
  split
  · refine sound.moved rfl rfl rfl rfl ⟨⟨recovering.calm.continues, recovering.calm.balanced,
      recovering.calm.remembered⟩, ⟨nofun, nofun, fun _ _ => recovering.first⟩,
      ⟨nofun, fun _ => ⟨recovering.attempted, recovering.exhausted, rfl, recovering.hook⟩,
        Nat.zero_le _⟩, fun retried => absurd retried (Nat.lt_irrefl 0)⟩
  · exact sound.moved rfl rfl rfl rfl ⟨⟨recovering.calm.continues, recovering.calm.balanced,
      recovering.calm.remembered⟩, nofun,
      fun _ => ⟨recovering.attempted, recovering.exhausted.later⟩⟩

omit sound in
theorem Placed.left {tries : Nat} (placed : Placed plan current.position tries state)
    (carried : Carried plan state current) (calm : Calm plan state) :
    Between plan state (current.index + 1) where
  calm := calm
  planned := by
    intro planned
    rcases carried.planned planned with ⟨unattempted, own⟩
    refine ⟨unattempted, fun start mem => ?_⟩
    rcases placed.authored planned start mem with ⟨first, notLater, _⟩
    exact ⟨first, by omega⟩
  recovery := fun spent =>
    ⟨(carried.recovery spent).1, (carried.recovery spent).2.1.later⟩

/-- The start of an attempt is admitted. -/
theorem Trying.admitted (trying : Trying plan state current) (running : state.aborted = false)
    (inTime : state.isPastDeadline = false) (order : Nat) (reason : String) :
    AdmittedStart plan deadline ⟨current.position, current.retryIndex, order, reason,
      state.resetRetry, state.now⟩ state.log := by
  simp only [isPastDeadline, Bool.or_eq_false_iff, decide_eq_false_iff_not, not_le] at inTime
  refine ⟨?_, trying.calm.balanced, ?_, ?_, ?_, ?_, ?_, ?_⟩
  · intro event mem
    have continues := trying.calm.continues event mem
    cases event with
    | started => rfl
    | committed | prepared | late => exact absurd continues id
    | ended result =>
      cases result with
      | returned => exact absurd continues id
      | failed failure =>
        change (!failure.settled) = false
        rw [continues.1]
        rfl
      | threw => exact absurd continues id
    | deadlineFired =>
      rw [sound.expiredSeen mem] at inTime
      exact absurd inTime.1 (by decide)
    | aborted =>
      rw [sound.abortedSeen mem] at running
      cases running
  · rw [<- sound.sameDeadline]
    exact inTime.2
  · intro earlier mem
    cases spent : state.resetRetry with
    | false => exact (trying.placed.authored spent earlier mem).1
    | true =>
      exact trying.placed.first spent (trying.carried.recovery spent).2.2.1 earlier mem
  · exact fun planned earlier mem => (trying.placed.authored planned earlier mem).2.1
  · intro planned earlier mem apart
    have failover := (trying.placed.authored planned earlier mem).2.2 apart
    refine ⟨failover, fun failure time ended => ?_⟩
    exact (trying.calm.continues _ ended).2 failover
  · exact fun planned => ⟨trying.placed.counted planned, trying.carried.bounded⟩
  · exact fun spent => ⟨(trying.carried.recovery spent).2.2.1, (trying.carried.recovery spent).2.2.2⟩

theorem startAttempt_sound (trying : Trying plan state current) :
    Sound plan deadline (state.startAttempt current) := by
  unfold startAttempt
  split
  · exact sound.finish _
  rename_i running
  split
  · refine sound.moved rfl rfl rfl rfl ?_
    exact (trying.placed.left trying.carried trying.calm).disturbed (disturbed_control _ _)
  rename_i inTime
  have admitted := trying.admitted sound (by simpa using running) (by simpa using inTime)
    state.order current.selection.reason
  refine ⟨sound.sameDeadline, ?_, ?_, ?_, ?_⟩
  · intro start before occurs
    rcases suffix_cons_iff.mp occurs with same | old
    · rcases List.cons.inj same with ⟨sameStart, rfl⟩
      cases sameStart
      exact ⟨admitted, trying.waited⟩
    · exact sound.admitted start before old
  · intro mem
    exact sound.expiredSeen (by simpa using mem)
  · intro mem
    exact sound.abortedSeen (by simpa using mem)
  · refine ⟨rfl, ?_, ?_, ⟨?_, ?_, ?_⟩, ?_⟩
    · intro event mem
      rcases mem_cons.mp mem with rfl | old
      · exact .inl trivial
      · exact .inl (trying.calm.continues event old)
    · rw [countP_cons_of_pos rfl, countP_cons_of_neg (by nofun), trying.calm.balanced]
    · intro planned start mem
      rcases mem_cons.mp mem with same | old
      · cases same
        exact ⟨planned, le_refl _, fun apart => absurd rfl apart⟩
      · exact trying.placed.authored planned start old
    · intro planned
      change state.resetRetry = false at planned
      simp [isTryAt, planned, trying.placed.counted planned]
    · intro _ never
      cases never
    · exact ⟨trying.carried.planned, trying.carried.recovery, trying.carried.bounded⟩

theorem afterAttempt_sound (attempting : Attempting plan state current) (result : AttemptResult τ)
    {settledAt : Millis} (past : settledAt <= state.now) :
    Sound plan deadline (state.afterAttempt plan current result settledAt) := by
  have ended : ∀ control : Control ρ τ, ∀ lastFailure, Records plan { state with
        log := .ended result.toEnd settledAt :: state.log, lastFailure := lastFailure
        control := control } control ->
      Sound plan deadline { state with
        log := .ended result.toEnd settledAt :: state.log, lastFailure := lastFailure
        control := control } := by
    intro control lastFailure records
    exact sound.logged rfl rfl rfl (by simp) (by simp) records
  have finished : ∀ outcome lastFailure, Sound plan deadline (finish outcome { state with
        log := .ended result.toEnd settledAt :: state.log
        lastFailure := lastFailure }) := by
    intro outcome lastFailure
    exact (ended (.finished outcome) lastFailure trivial).finish outcome
  unfold afterAttempt
  cases result with
  | returned value =>
    exact (finished (.returned value) state.lastFailure).moved rfl rfl rfl rfl trivial
  | threw error =>
    dsimp only
    split
    · exact finished _ state.lastFailure
    split
    · exact finished _ state.lastFailure
    rename_i failure facts
    split
    · exact finished _ (some failure)
    rename_i admitted
    split
    · exact finished _ (some failure)
    simp only [Bool.or_eq_true, not_or, Bool.not_eq_true, Bool.not_eq_false'] at admitted
    have toEnd : (AttemptResult.threw error : AttemptResult τ).toEnd = .failed failure := by
      simp [AttemptResult.toEnd, facts]
    refine ended _ (some failure) ⟨⟨?_, ?_, ?_⟩, ⟨?_, ?_, ?_⟩, ?_, rfl, ?_⟩
    · intro event mem
      rcases mem_cons.mp mem with rfl | old
      · rw [toEnd]
        refine ⟨admitted.1.2, ?_⟩
        intro failover
        have continues := admitted.2
        unfold mayContinue at continues
        rw [failover] at continues ⊢
        revert continues
        cases failure.kind <;> decide
      · rcases attempting.continues event old with continues | ⟨committed, _⟩
        · exact continues
        · rw [admitted.1.1.2] at committed
          cases committed
    · rw [countP_cons_of_neg (by nofun), countP_cons_of_pos rfl, attempting.balanced]
    · exact fun _ _ => Option.some_ne_none failure
    · intro planned start mem
      exact attempting.placed.authored planned start (by simpa using mem)
    · intro planned
      simpa [isTryAt] using attempting.placed.counted planned
    · intro _ never
      cases never
    · refine ⟨attempting.carried.planned, fun spent => ?_, attempting.carried.bounded⟩
      rcases attempting.carried.recovery spent with ⟨attempted, exhausted, rest⟩
      refine ⟨attempted, ?_, rest⟩
      rcases exhausted with ⟨disabled, _⟩ | short
      · exact .inl ⟨disabled, Option.some_ne_none failure⟩
      · exact .inr short
    · exact ⟨settledAt, by rw [<- toEnd]; rfl, past⟩

include failing

omit sound in
/-- Keeping a member for the recovery changes no record. -/
theorem Failing.kept (quota : Option (Nat × GatewaySelection ρ)) (control : Control ρ τ) :
    Failing plan { state with quotaSelection := quota, control := control } current failure := by
  apply failing.disturbed
  exact ⟨le_refl _, rfl, rfl, rfl, rfl, rfl, fun _ kept => kept, .inl rfl⟩

theorem keepQuota_sound (beforeDispatch : Bool) :
    Sound plan deadline (state.keepQuota plan current failure beforeDispatch) := by
  unfold keepQuota
  split
  · split
    · exact sound.moved rfl rfl rfl rfl (failing.disturbed (disturbed_control _ _))
    · exact sound.moved rfl rfl rfl rfl (failing.kept _ _)
  · exact sound.moved rfl rfl rfl rfl (failing.disturbed (disturbed_control _ _))

omit sound failing in
theorem retryDelay_observes {reading : RetryAfterReading} {retryIndex : Nat} {now delay : Millis}
    (permitted : retryDelay reading failure retryIndex now = some delay)
    (finite : FiniteDelay reading failure) {endedAt : Millis} (past : endedAt <= now)
    {requested : WithTop Millis} (asked : requestedUntil reading failure endedAt = some requested) :
    requested <= ((now + delay : Millis) : WithTop Millis) := by
  unfold requestedUntil at asked
  unfold retryDelay at permitted
  split at asked
  · cases asked
  rename_i text retryAfter
  rw [retryAfter] at permitted
  rw [Option.filter_eq_some_iff] at permitted
  split at asked
  next digits =>
    rw [if_pos digits] at permitted
    split at asked
    next span number =>
      rw [number] at permitted
      cases asked
      have same : span = delay := Option.some.inj permitted.1
      rw [WithTop.coe_le_coe, <- same]
      linarith
    next none =>
      exact absurd none (finite text retryAfter digits)
  next noDigits =>
    rw [if_neg noDigits] at permitted
    split at asked
    next date parsed =>
      rw [parsed] at permitted
      cases asked
      have same : max 0 (date - now) = delay := Option.some.inj permitted.1
      rw [WithTop.coe_le_coe, <- same]
      have notShorter := le_max_right 0 (date - now)
      linarith
    · cases asked

theorem decideRetry_sound (beforeDispatch : Bool) :
    Sound plan deadline (state.decideRetry plan current failure beforeDispatch) := by
  have kept := fun control => failing.disturbed (disturbed_control state control)
  unfold decideRetry
  split
  next admitted =>
    simp only [Bool.and_eq_true, Bool.not_eq_true', decide_eq_true_eq] at admitted
    split
    next permitted =>
      refine sound.moved rfl rfl rfl rfl ⟨kept _, (kept _).calm, (kept _).placed, (kept _).carried,
        admitted.1.1.1, admitted.2, ?_⟩
      rcases failing.ended with ⟨endedAt, ended, past⟩
      exact ⟨failure, endedAt, ended, fun finite requested asked =>
        retryDelay_observes permitted finite past asked⟩
    · exact sound.moved rfl rfl rfl rfl (kept _)
  · exact sound.moved rfl rfl rfl rfl (kept _)

theorem beginWait_sound {delay : Millis}
    (retrying : Retrying plan state current (state.now + delay)) :
    Sound plan deadline (state.beginWait current failure delay) := by
  unfold beginWait
  split
  · split
    · exact sound.finish _
    · exact sound.moved rfl rfl rfl rfl ⟨⟨retrying.calm.continues, retrying.calm.balanced,
        retrying.calm.remembered⟩, ⟨retrying.placed.authored, retrying.placed.counted,
        retrying.placed.first⟩, ⟨retrying.carried.planned, retrying.carried.recovery,
        retrying.carried.bounded⟩, retrying.planned, retrying.bounded, retrying.observed⟩
  · exact sound.moved rfl rfl rfl rfl (failing.disturbed (disturbed_control _ _))

theorem leaveMember_sound : Sound plan deadline (state.leaveMember plan current failure) := by
  unfold leaveMember
  split
  · exact sound.finish _
  · have left := failing.placed.left failing.carried failing.calm
    exact sound.moved rfl rfl rfl rfl ⟨⟨left.calm.continues, left.calm.balanced,
      left.calm.remembered⟩, left.planned, left.recovery⟩

omit failing

omit sound in
/-- After the wait the member is tried once more. -/
theorem Retrying.again (retrying : Retrying plan state current state.now) :
    Trying plan state { current with retryIndex := current.retryIndex + 1 } where
  calm := retrying.calm
  placed := retrying.placed
  carried := by
    refine ⟨retrying.carried.planned, fun spent => ?_, retrying.bounded⟩
    rw [retrying.planned] at spent
    cases spent
  waited := fun _ => retrying.observed

/-- A run of the executor to its next place keeps everything. -/
theorem resume_sound : Sound plan deadline (state.resume plan) := by
  have records := sound.records
  unfold resume
  split
  · exact sound.rethrow _
  next control =>
    rw [control] at records
    split
    · exact sound.finish _
    rcases records with ⟨between, unspent⟩
    refine sound.moved rfl rfl rfl rfl ⟨⟨between.calm.continues, between.calm.balanced,
      between.calm.remembered⟩, between.planned, fun spent => ?_⟩
    rw [unspent] at spent
    cases spent
  next control =>
    rw [control] at records
    exact nextMember_sound sound records
  · exact sound.rethrow _
  next recovered control =>
    rw [control] at records
    exact afterRecovery_sound sound records recovered
  next control =>
    rw [control] at records
    exact startAttempt_sound sound records
  next result settledAt control =>
    rw [control] at records
    exact afterAttempt_sound sound records.1 result records.2
  next beforeDispatch control =>
    rw [control] at records
    exact keepQuota_sound sound records beforeDispatch
  · exact sound.rethrow _
  next control =>
    rw [control] at records
    exact sound.moved rfl rfl rfl rfl (Failing.kept records _ _)
  next beforeDispatch control =>
    rw [control] at records
    exact decideRetry_sound sound records beforeDispatch
  next control =>
    rw [control] at records
    exact beginWait_sound sound records.1 records.2
  next control =>
    rw [control] at records
    exact leaveMember_sound sound records
  next current cancelled control =>
    rw [control] at records
    split
    · exact sound.finish _
    next elapsed =>
      have retrying : Retrying plan state current state.now := records (by simpa using elapsed)
      exact sound.moved rfl rfl rfl rfl (retrying.again.disturbed (disturbed_control _ _))
  next control =>
    rw [control] at records
    split
    · exact sound.exhaust
    · exact sound.moved rfl rfl rfl rfl (Between.disturbed (disturbed_control _ _) records)
  · exact sound

theorem abort_sound : Sound plan deadline state.abort := by
  unfold abort
  split
  · refine sound.logged rfl rfl rfl (by simp) (fun _ => rfl) ?_
    have records := sound.records
    have disturbed : Disturbed state { state with aborted := true, log := .aborted :: state.log } :=
      ⟨le_refl _, rfl, rfl, rfl, rfl, rfl, fun _ kept => kept, .inr (.inl rfl)⟩
    split
    · nofun
    · exact (records.disturbed disturbed).disturbed (disturbed_control _ _)
  · exact sound

theorem fireDeadline_sound : Sound plan deadline state.fireDeadline := by
  unfold fireDeadline
  split
  · refine sound.logged rfl rfl rfl (fun _ => rfl) (by simp) (sound.records.disturbed ?_)
    exact ⟨le_refl _, rfl, rfl, rfl, rfl, rfl, fun active _ => active, .inr (.inr rfl)⟩
  · exact sound

omit sound in
/-- The running attempt committed or prepared a stream. -/
theorem Attempting.commits (attempting : Attempting plan state current) {event : GatewayEvent}
    (commits : event = .committed \/ event = .prepared) (control : Control ρ τ) : Attempting plan
      { state with committed := true, control := control, log := event :: state.log } current where
  active := attempting.active
  continues := by
    intro logged mem
    rcases mem_cons.mp mem with rfl | old
    · exact .inr ⟨rfl, commits⟩
    · rcases attempting.continues logged old with continues | ⟨_, which⟩
      · exact .inl continues
      · exact .inr ⟨rfl, which⟩
  balanced := by
    rcases commits with rfl | rfl <;> exact attempting.balanced
  placed := by
    refine ⟨fun planned start mem => ?_, fun planned => ?_, fun _ never => ?_⟩
    · refine attempting.placed.authored planned start ?_
      rcases commits with rfl | rfl <;> simpa using mem
    · rcases commits with rfl | rfl <;> exact attempting.placed.counted planned
    · cases never
  carried := ⟨attempting.carried.planned, attempting.carried.recovery, attempting.carried.bounded⟩

/-- Every happening but a late callback keeps everything. -/
theorem take_sound {happening : Happening ρ τ} (timely : happening.isLate = false) :
    Sound plan deadline (state.take plan happening) := by
  have records := sound.records
  unfold GatewayState.take
  split
  · exact resume_sound sound
  · split
    next later =>
      refine sound.moved rfl rfl rfl rfl (records.disturbed ?_)
      exact ⟨later, rfl, rfl, rfl, rfl, rfl, fun _ kept => kept, .inl rfl⟩
    · exact sound
  · exact abort_sound sound
  · exact fireDeadline_sound sound
  · cases timely
  next control =>
    rw [control] at records
    exact sound.logged rfl rfl rfl (by simp) (by simp) (Attempting.commits records (.inl rfl) _)
  next control =>
    rw [control] at records
    exact sound.logged rfl rfl rfl (by simp) (by simp) (Attempting.commits records (.inr rfl) _)
  next control =>
    rw [control] at records
    exact sound.moved rfl rfl rfl rfl ⟨records.1.disturbed (disturbed_control _ _), records.2⟩
  next control =>
    rw [control] at records
    exact sound.moved rfl rfl rfl rfl
      ⟨Attempting.disturbed (disturbed_control _ _) records, le_refl _⟩
  next control =>
    rw [control] at records
    exact sound.moved rfl rfl rfl rfl (Failing.disturbed (disturbed_control _ _) records)
  next control =>
    rw [control] at records
    exact sound.moved rfl rfl rfl rfl (Recovering.disturbed (disturbed_control _ _) records)
  next control =>
    rw [control] at records
    split
    next elapsed =>
      exact sound.moved rfl rfl rfl rfl
        (fun _ => Retrying.disturbed (disturbed_control _ _) records elapsed)
    · exact sound
  · exact sound

end Executor

theorem initial_sound (plan : GatewayPlan ρ) (now : Millis) (aborted : Bool) :
    Sound plan (now + gatewayPrecommitDeadlineMs)
      (initial plan now aborted : GatewayState ρ τ) := by
  have noStart : ∀ start, started start ∉ (initial plan now aborted : GatewayState ρ τ).log := by
    intro start mem
    cases aborted <;> simp [initial] at mem
  have calm : Calm plan (initial plan now aborted : GatewayState ρ τ) := by
    refine ⟨?_, ?_, fun start mem => absurd mem (noStart start)⟩
    · intro event mem
      cases aborted with
      | false => cases mem
      | true =>
        rw [mem_singleton.mp mem]
        trivial
    · cases aborted <;> rfl
  have between : Between plan (initial plan now aborted : GatewayState ρ τ) 0 :=
    ⟨calm, fun _ => ⟨rfl, fun start mem => absurd mem (noStart start)⟩, nofun⟩
  refine ⟨rfl, ?_, ?_, ?_, ?_⟩
  · intro start before occurs
    exact absurd (occurs.subset mem_cons_self) (noStart start)
  · intro mem
    cases aborted <;> simp [initial] at mem
  · intro mem
    cases aborted with
    | false => cases mem
    | true => rfl
  · cases planned : plan.selections with
    | none =>
      have control : (initial plan now aborted : GatewayState ρ τ).control = .planning := by
        simp [initial, planned]
      rw [control]
      exact ⟨between, rfl⟩
    | some =>
      have control : (initial plan now aborted : GatewayState ρ τ).control = .member 0 := by
        simp [initial, planned]
      rw [control]
      exact between

/-! ## Whole runs -/

section Counts

variable {deadline : Millis} {log : List GatewayEvent}
  (admitted : ∀ start before, .started start :: before <:+ log ->
    AdmittedStart plan deadline start before)

/-- A count is bounded where it is below the bound before each event that it counts. -/
theorem countP_le_of_starts {test : GatewayEvent -> Bool} {bound : Nat}
    (started : ∀ event before, event :: before <:+ log -> test event ->
      before.countP test < bound) : log.countP test <= bound := by
  induction log with
  | nil => exact Nat.zero_le _
  | cons event rest ih =>
    by_cases counts : test event
    · rw [countP_cons_of_pos counts]
      exact started event rest (suffix_refl _) counts
    · rw [countP_cons_of_neg counts]
      exact ih (fun event before occurs =>
        started event before (occurs.trans (suffix_cons _ rest)))

include admitted

/-- Admitted starts try a member at most four times. -/
theorem tries_le_four (position : Nat) : log.countP (isTryAt position) <= 4 := by
  refine countP_le_of_starts ?_
  intro event before occurs counts
  cases event with
  | started start =>
    simp only [isTryAt, Bool.and_eq_true, decide_eq_true_eq, Bool.not_eq_true'] at counts
    have retries := (admitted start before occurs).retries counts.2
    rw [counts.1] at retries
    omega
  | _ => cases counts

theorem recoveries_le_one : log.countP isRecovery <= 1 := by
  refine countP_le_of_starts ?_
  intro event before occurs counts
  cases event with
  | started start =>
    rw [Nat.lt_one_iff, countP_eq_zero]
    intro event mem
    cases event with
    | started earlier =>
      have first := (admitted start before occurs).recoveryLast earlier mem
      simp [isRecovery, first]
    | _ => simp [isRecovery]
  | _ => cases counts

end Counts

def decimalValue (text : String) : Rat :=
  let trimmed := text.toList.filter (!isWhiteSpace ·)
  let fraction := (trimmed.dropWhile Char.isDigit).drop 1
  let digits := trimmed.takeWhile Char.isDigit ++ fraction
  mkRat (digits.foldl (fun value digit => 10 * value + (digit.toNat - 48)) 0) (10 ^ fraction.length)

/-- Seconds in milliseconds, up to the largest finite double. -/
def doubleReading : RetryAfterReading where
  number := fun text =>
    let span := decimalValue text * 1000
    if (2 ^ 1024 - 2 ^ 970 : Nat) <= span then none else some span
  date := fun _ => none

/-- One member, nothing else. -/
def singleMember : GatewayPlan Unit where
  selections := some [⟨(), true, "primary"⟩]
  autoFailover := false
  quotaRecoveryEligible := false
  recoverSettledQuota := false
  reading := doubleReading

/-- A rate limit that asks to wait. -/
def rateLimit (seconds : String) : PiAiFailure :=
  { kind := .rateLimited, settled := true, retryAfter := some seconds }

/-- The only member is rate limited and tried again after `span`; its first attempt may
commit during the wait. -/
def retriedAfter (seconds : String) (span : Millis) (late : Bool) : List (Happening Unit Unit) :=
  [.resume, .resume, .settle (.threw { failure := some (rateLimit seconds) }), .resume, .resume,
    .resume, .resume] ++ (if late then [.late] else []) ++
    [.pass span, .elapse, .resume, .resume]

theorem retriedAfter_log {seconds : String} {span : Millis} {late : Bool} (passes : 0 <= span)
    (delay : retryDelay doubleReading (rateLimit seconds) 0 0 = some span) (short : span < 120000) :
    (executeGatewayPlan singleMember 0 false (retriedAfter seconds span late)).log =
      .started ⟨0, 1, 1, "primary", false, span⟩ :: (if late then [.late] else []) ++
        [.ended (.failed (rateLimit seconds)) 0, .started ⟨0, 0, 0, "primary", false, 0⟩] := by
  unfold rateLimit at delay
  have notYet : ¬ (120000 : Millis) <= 0 := by decide +kernel
  have early : ¬ (120000 : Millis) <= span := not_le.mpr short
  cases late <;> simp [executeGatewayPlan, runCalls, retriedAfter, initial, GatewayState.take,
    resume, nextMember, nextSelection, startAttempt, isPastDeadline, afterAttempt, mayContinue,
    keepQuota, decideRetry, beginWait, AttemptResult.toEnd, gatewayFailureDecision,
    gatewayRetryDelaysMs, gatewayPrecommitDeadlineMs, singleMember, rateLimit, notYet, delay, passes,
    short, early, commitLate, settledAttempts, Control.awaits]

def endlessSeconds : String := String.ofList ('1' :: List.replicate 306 '0')

theorem endlessSeconds_number :
    isDelaySeconds endlessSeconds /\ doubleReading.number endlessSeconds = none := by
  have characters : endlessSeconds.toList = '1' :: List.replicate 306 '0' := String.toList_ofList
  simp only [isDelaySeconds, doubleReading, decimalValue, characters]
  decide +kernel

end Gateway
end OpenKit
