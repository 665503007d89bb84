import OpenKit.Policy.Interception
import OpenKit.Policy.UseLimits

namespace OpenKit
namespace Policy

open Foundation PolicyInterception List

/-!
# Complete mediation

A final allow needs the kernel's allow, the captured policy still current at
the end, every approval condition met, and the consent of every selected active
gate with remaining uses.  The result is combined from a list to which every
stage only adds, so each stage is described by what it contributes: a step
lemma for one gate, its induction over all gates, and the closed precedence
that lets an allow through only when nothing else but neutral results is left.

A gate whose participant fails under `escalateToHuman` contributes an escalation
just like one that answers so, and a matching human approval settles both.
-/

variable {input : InterceptionInput} {binding : PolicyBinding}

/-! ## The combination -/

/-- How far a result stands above a neutral one. -/
def PermissionDecisionResult.severity : PermissionDecisionResult -> Nat
  | notApplicable => 0
  | allow => 1
  | defer => 2
  | requireApproval => 3
  | requireEscalation => 4
  | deny => 5
  | error => 6

/-- The combination is one of the results, or neutral, and none is more severe. -/
theorem combineResults_spec (results : List PermissionDecisionResult) :
    (combineResults results ∈ results \/ combineResults results = .notApplicable) /\
      ∀ value ∈ results, value.severity <= (combineResults results).severity := by
  have closed : combineResults results =
      if .error ∈ results then .error else if .deny ∈ results then .deny
      else if .requireEscalation ∈ results then .requireEscalation
      else if .requireApproval ∈ results then .requireApproval
      else if .defer ∈ results then .defer
      else if .allow ∈ results then .allow else .notApplicable := by
    unfold combineResults
    split
    · simp only [resultPrecedence, find?_cons, mem_filter]
      split_ifs <;> simp_all
    next neutral =>
      have absent : ∀ value ≠ .notApplicable, value ∉ results := by
        intro value other mem
        exact neutral (by simpa using ⟨value, mem, other⟩)
      simp only [resultPrecedence, find?_cons, absent, ne_eq, reduceCtorEq, not_false_eq_true,
        decide_false, if_false]
      split <;> rfl
  rw [closed]
  constructor
  · split_ifs <;> simp_all
  · intro value mem
    cases value <;> grind [PermissionDecisionResult.severity]

/-- The combination is the most severe result in any order and any grouping, and
a neutral one exactly when no other result is given. -/
theorem combineResults_most_severe (first second : List PermissionDecisionResult) :
    (∀ result, combineResults first = result <->
      (result ∈ first \/ result = .notApplicable) /\
        ∀ value ∈ first, value.severity <= result.severity) /\
      combineResults (first ++ second) =
        combineResults [combineResults first, combineResults second] := by
  have unique : ∀ {results result}, (result ∈ results \/ result = .notApplicable) ->
      (∀ value ∈ results, value.severity <= result.severity) ->
      combineResults results = result := by
    intro results result taken above
    rcases combineResults_spec results with ⟨combined, bound⟩
    have same : (combineResults results).severity = result.severity := by
      grind [PermissionDecisionResult.severity]
    cases result <;> cases held : combineResults results <;>
      first | rfl | simp [held, PermissionDecisionResult.severity] at same
  refine ⟨fun result => ⟨?_, fun spec => unique spec.1 spec.2⟩, ?_⟩
  · rintro rfl
    exact combineResults_spec first
  · have ofFirst := combineResults_spec first
    have ofSecond := combineResults_spec second
    have ofBoth := combineResults_spec [combineResults first, combineResults second]
    exact unique (by grind) (by grind)

theorem neutral_of_combineResults_allow {results : List PermissionDecisionResult}
    (allowed : combineResults results = .allow) {value : PermissionDecisionResult} (mem : value ∈ results) :
    value = .allow \/ value = .notApplicable := by
  have bound := (combineResults_spec results).2 value mem
  rw [allowed] at bound
  cases value <;> simp_all [PermissionDecisionResult.severity]

variable {env : InterceptionEnvironment}

/-! ## One gate -/

/-- The answer is this decision in the participant's own shape, the operation
offers it, and the owner facts still held when it arrived. -/
structure Replied (env : InterceptionEnvironment) (input : InterceptionInput)
    (points : OperationPoints) (binding : PolicyBinding) (after : Moment)
    (answer : ParticipantAnswer) (decision : GateDecision) : Prop where
  output : ∃ output, answer = .output output /\
    parseGateOutput binding.participant.kind output = some decision
  offered : decision ∈ points.gateResults
  current : after.stillCurrent = some true
  authority : binding.participant.kind = .agent ->
    agentStillAuthorized env input binding after

/-- The participant of a gate gave this decision in an admitted invocation. -/
structure Answered (env : InterceptionEnvironment) (input : InterceptionInput)
    (points : OperationPoints) (binding : PolicyBinding) (world : InvocationWorld)
    (decision : GateDecision) : Prop where
  admitted : (admitInvocation env input binding world.before).1 = .admitted
  closed : ¬ (world.circuit.probing \/ world.circuit.retryAt > world.dispatchedAt)
  invoked : participantMatches env binding
  reply : Replied env input points binding world.after world.answer decision

section Gate

variable {points : OperationPoints}

private theorem settleAnswer_cases (gate : binding.mode = .gate) (after : Moment)
    (answer : ParticipantAnswer) :
    (∃ decision, Replied env input points binding after answer decision /\
        (settleAnswer env input points binding after answer).2 = decision.result) \/
      ((∀ decision, ¬ Replied env input points binding after answer decision) /\
        ((settleAnswer env input points binding after answer).2 = binding.failure.result \/
          (settleAnswer env input points binding after answer).2 = .error)) := by
  cases answer with
  | timeout | rejected =>
    refine .inr ⟨?_, .inl rfl⟩
    intro decision replied
    rcases replied.output with ⟨_, never, _⟩
    cases never
  | output output =>
    cases parsed : parseGateOutput binding.participant.kind output with
    | none =>
      refine .inr ⟨?_, .inl ?_⟩
      · intro decision replied
        rcases replied.output with ⟨_, same, other⟩
        cases same
        rw [parsed] at other
        cases other
      · simp [settleAnswer, acceptedResult, gate, parsed]
    | some decision =>
      have only : ∀ other, Replied env input points binding after (.output output) other ->
          other = decision := by
        intro other replied
        rcases replied.output with ⟨_, same, again⟩
        cases same
        exact (Option.some.inj (parsed.symm.trans again)).symm
      by_cases replied : Replied env input points binding after (.output output) decision
      · refine .inl ⟨decision, replied, ?_⟩
        have kept : ¬ (binding.participant.kind = .agent /\
            agentStillAuthorized env input binding after = false) := by
          intro lost
          rw [replied.authority lost.1] at lost
          exact Bool.noConfusion lost.2
        simp [settleAnswer, acceptedResult, gate, parsed, replied.offered, replied.current, kept]
      · refine .inr ⟨?_, ?_⟩
        · intro other otherReplied
          exact replied (only other otherReplied ▸ otherReplied)
        · simp only [settleAnswer, acceptedResult, gate, parsed, if_true]
          by_cases offered : decision ∈ points.gateResults
          · rw [if_pos offered]
            dsimp only
            split
            · exact .inl rfl
            · exact .inl rfl
            next current =>
              split
              · exact .inr rfl
              rename_i kept
              refine absurd ⟨⟨output, rfl, parsed⟩, offered, current, ?_⟩ replied
              intro agent
              by_contra lost
              exact kept ⟨agent, Bool.eq_false_of_not_eq_true lost⟩
          · rw [if_neg offered]
            exact .inl rfl

theorem attempt_cases (gate : binding.mode = .gate) (world : InvocationWorld) :
    (∃ decision, Answered env input points binding world decision /\
        (attempt env input points binding world).result = decision.result) \/
      ((∀ decision, ¬ Answered env input points binding world decision) /\
        ((attempt env input points binding world).result = binding.failure.result \/
          (attempt env input points binding world).result = .error)) := by
  cases admission : (admitInvocation env input binding world.before).1 with
  | authorityError | stale =>
    refine .inr ⟨?_, .inr ?_⟩
    · intro decision answered
      rw [answered.admitted] at admission
      cases admission
    · simp [attempt, admission]
  | unauthorized =>
    refine .inr ⟨?_, .inl ?_⟩
    · intro decision answered
      rw [answered.admitted] at admission
      cases admission
    · simp [attempt, admission]
  | admitted =>
    by_cases opened : world.circuit.probing \/ world.circuit.retryAt > world.dispatchedAt
    · refine .inr ⟨fun decision answered => answered.closed opened, .inl ?_⟩
      simp only [attempt, admission, if_pos opened]
    by_cases invoked : participantMatches env binding
    · have settled : (attempt env input points binding world).result =
          (settleAnswer env input points binding world.after world.answer).2 := by
        simp only [attempt, admission, if_neg opened, if_pos invoked]
      rw [settled]
      rcases settleAnswer_cases gate world.after world.answer with ⟨decision, reply, result⟩ | failed
      · exact .inl ⟨decision, ⟨admission, opened, invoked, reply⟩, result⟩
      · exact .inr ⟨fun decision answered => failed.1 decision answered.reply, failed.2⟩
    · refine .inr ⟨fun decision answered => invoked answered.invoked, .inl ?_⟩
      simp only [attempt, admission, if_neg opened, if_neg invoked]

/-- What a gate must have done when its contribution is no obstacle. -/
def Consents (env : InterceptionEnvironment) (input : InterceptionInput) (points : OperationPoints)
    (binding : PolicyBinding) (world : InvocationWorld) : Prop :=
  Answered env input points binding world .allow \/
    (humanApproved env input /\
      (Answered env input points binding world .escalate \/
        ((∀ decision, ¬ Answered env input points binding world decision) /\
          binding.failure = .escalateToHuman)))

/-- The result that an active gate contributes. -/
def contribution (env : InterceptionEnvironment) (input : InterceptionInput)
    (result : PermissionDecisionResult) : PermissionDecisionResult :=
  if result = .requireEscalation /\ humanApproved env input then .allow else result

/-- A gate that may not continue after failure consents whenever it contributes
an allow or a neutral result. -/
theorem consents_of_contribution (gate : binding.mode = .gate)
    (decisive : binding.failure ≠ .continue) {world : InvocationWorld}
    (harmless : contribution env input (attempt env input points binding world).result = .allow \/
      contribution env input (attempt env input points binding world).result = .notApplicable) :
    Consents env input points binding world := by
  unfold contribution at harmless
  rcases attempt_cases gate world with ⟨decision, answered, result⟩ | ⟨unanswered, failed⟩
  · rw [result] at harmless
    cases decision with
    | allow => exact .inl answered
    | deny => simp [GateDecision.result] at harmless
    | escalate =>
      by_cases approved : humanApproved env input
      · exact .inr ⟨approved, .inl answered⟩
      · simp [GateDecision.result, approved] at harmless
  · rcases failed with byFailure | error
    · rw [byFailure] at harmless
      cases disposition : binding.failure with
      | «continue» => exact absurd disposition decisive
      | error => simp [disposition, PolicyFailure.result] at harmless
      | escalateToHuman =>
        by_cases approved : humanApproved env input
        · exact .inr ⟨approved, .inr ⟨unanswered, disposition⟩⟩
        · simp [disposition, PolicyFailure.result, approved] at harmless
    · simp [error] at harmless

end Gate

/-! ## All gates -/

section Gates

variable {world : PolicyBinding -> InvocationWorld} {before after : Deliberation}

/-- The gate was exhausted, only shadowed, or has contributed its result. -/
inductive Weighed (env : InterceptionEnvironment) (input : InterceptionInput)
    (world : PolicyBinding -> InvocationWorld) (deliberation : Deliberation)
    (binding : PolicyBinding) : Prop where
  | exhausted (spent : isExhausted env input binding (world binding) = .ok true)
  | shadowed (shadow : binding.state = .shadow)
  | contributed (reference : InvocationReference) (result : PermissionDecisionResult)
      (invoked : invoke env input binding (world binding) = .ok (reference, result))
      (counted : contribution env input result ∈ deliberation.results)
      (used : binding ∈ deliberation.used)

/-- A later deliberation keeps the results and the used bindings of an earlier one. -/
structure Deliberation.Extends (later earlier : Deliberation) : Prop where
  results : earlier.results ⊆ later.results
  used : earlier.used ⊆ later.used

theorem Deliberation.Extends.refl (deliberation : Deliberation) :
    deliberation.Extends deliberation :=
  ⟨List.Subset.refl _, List.Subset.refl _⟩

theorem Deliberation.Extends.trans {first second third : Deliberation}
    (later : third.Extends second) (earlier : second.Extends first) : third.Extends first :=
  ⟨List.Subset.trans earlier.results later.results, List.Subset.trans earlier.used later.used⟩

theorem Weighed.mono {earlier later : Deliberation}
    (weighed : Weighed env input world earlier binding) (extended : later.Extends earlier) :
    Weighed env input world later binding := by
  cases weighed with
  | exhausted spent => exact .exhausted spent
  | shadowed shadow => exact .shadowed shadow
  | contributed reference result invoked counted used =>
    exact .contributed reference result invoked (extended.results counted) (extended.used used)

theorem gateStep_ok (stepped : gateStep env input world before binding = .ok after) :
    after.Extends before /\ Weighed env input world after binding := by
  rcases bind_inv stepped with ⟨spent, counted, stepped⟩
  cases spent with
  | true =>
    cases stepped
    exact ⟨.refl _, .exhausted counted⟩
  | false =>
    rcases bind_inv stepped with ⟨⟨reference, result⟩, invoked, weighed⟩
    dsimp only at weighed
    split at weighed
    next shadow =>
      cases weighed
      exact ⟨⟨List.Subset.refl _, List.Subset.refl _⟩, .shadowed shadow⟩
    · cases weighed
      refine ⟨⟨subset_append_left _ _, subset_append_left _ _⟩, ?_⟩
      apply Weighed.contributed reference result invoked
      · exact mem_append_right _ (mem_singleton.mpr rfl)
      · exact mem_append_right _ (mem_singleton.mpr rfl)

/-- The loop over the gates adds to the deliberation and weighs every gate. -/
theorem foldlM_gateStep_ok {gates : List PolicyBinding}
    (ran : gates.foldlM (gateStep env input world) before = .ok after) :
    after.Extends before /\ ∀ binding ∈ gates, Weighed env input world after binding := by
  induction gates generalizing before with
  | nil =>
    cases ran
    refine ⟨.refl _, ?_⟩
    intro binding never
    cases never
  | cons gate rest ih =>
    rw [foldlM_cons] at ran
    rcases bind_inv ran with ⟨middle, stepped, ran⟩
    rcases gateStep_ok stepped with ⟨first, weighed⟩
    rcases ih ran with ⟨later, all⟩
    refine ⟨later.trans first, ?_⟩
    intro binding mem
    rcases mem_cons.mp mem with here | there
    · exact here ▸ weighed.mono later
    · exact all binding there

end Gates

/-! ## The final part -/

variable {decl : OperationDefinition}

/-- What a final allow proves about the last, synchronous part. -/
structure FinallyAllowed (env : InterceptionEnvironment) (input : InterceptionInput)
    (deliberation : Deliberation) (final : FinalWorld) : Prop where
  current : final.stillCurrent = some true
  agents : ∀ binding ∈ deliberation.used, binding.participant.kind = .agent ->
    agentStillAuthorized env input binding (final.recheck binding)
  kernel : ∃ answer, final.finalKernel = some answer /\ answer.kernel.effect = .allow /\
    ∀ reason ∈ answer.kernel.reasons, isInvalidReason reason = false
  results : ∀ value ∈ deliberation.results, value = .allow \/ value = .notApplicable

private theorem kernelResults_harmless {answer : Option KernelAnswer}
    (before : ∀ value ∈ results, value = .allow \/ value = .notApplicable)
    (harmless : ∀ value ∈ (kernelResults input results answer).1,
      value = .allow \/ value = .notApplicable) :
    ∃ given, answer = some given /\ given.kernel.effect = .allow /\
      ∀ reason ∈ given.kernel.reasons, isInvalidReason reason = false := by
  cases answer with
  | none => simp [kernelResults] at harmless
  | some given =>
    refine ⟨given, rfl, ?_⟩
    by_cases invalid : given.kernel.reasons.any isInvalidReason
    · simp [kernelResults, invalid] at harmless
    have valid : ∀ reason ∈ given.kernel.reasons, isInvalidReason reason = false := by
      intro reason mem
      apply Bool.eq_false_of_not_eq_true
      intro bad
      exact invalid (any_eq_true.mpr ⟨reason, mem, bad⟩)
    refine ⟨?_, valid⟩
    have ofEffect : (PolicyKernelEffect.result given.kernel.effect = .allow \/
        PolicyKernelEffect.result given.kernel.effect = .notApplicable) ->
        given.kernel.effect = .allow := by
      cases given.kernel.effect <;> simp [PolicyKernelEffect.result]
    have clear : results.any (fun value =>
        decide (value ≠ .allow /\ value ≠ .notApplicable)) = false := by
      apply Bool.eq_false_of_not_eq_true
      intro obstacle
      rcases any_eq_true.mp obstacle with ⟨value, mem, other⟩
      rcases before value mem with allow | neutral
      · simp [allow] at other
      · simp [neutral] at other
    cases given with
    | direct =>
      simp only [kernelResults, invalid] at harmless
      exact ofEffect (harmless _ (mem_singleton.mpr rfl))
    | goalTask kernel escalation =>
      cases escalation with
      | none =>
        simp only [kernelResults, invalid] at harmless
        exact ofEffect (harmless _ (mem_singleton.mpr rfl))
      | some =>
        simp only [kernelResults, invalid, Bool.false_eq_true, if_false, clear] at harmless
        split at harmless
        · exact ofEffect (harmless _ (mem_singleton.mpr rfl))
        · split at harmless
          · simp at harmless
          · simp at harmless

theorem finallyAllowed_of_allow {deliberation : Deliberation} {final : FinalWorld}
    (allowed : (prepareFinalDecision env input decl deliberation final).decision.result =
      .allow) : FinallyAllowed env input deliberation final := by
  have combined : combineResults ((deliberation.results ++
      recheckResults env input deliberation.used final) ++
        (kernelResults input (deliberation.results ++
          recheckResults env input deliberation.used final) final.finalKernel).1) = .allow := allowed
  have checked : ∀ value ∈ deliberation.results ++ recheckResults env input deliberation.used final,
      value = .allow \/ value = .notApplicable :=
    fun value mem => neutral_of_combineResults_allow combined (mem_append_left _ mem)
  have rechecked : .error ∉ recheckResults env input deliberation.used final := by
    intro error
    rcases checked .error (mem_append_right _ error) with never | never <;>
      cases never
  refine ⟨?_, ?_, ?_, ?_⟩
  · by_contra changed
    apply rechecked
    simp [recheckResults, changed]
  · intro binding used agent
    by_contra lost
    apply rechecked
    refine mem_append_right _ (mem_map.mpr ⟨binding, ?_, rfl⟩)
    refine mem_filter.mpr ⟨mem_filter.mpr ⟨used, by simpa using agent⟩, ?_⟩
    simpa using lost
  · exact kernelResults_harmless checked (fun value mem =>
      neutral_of_combineResults_allow combined (mem_append_right _ mem))
  · intro value mem
    exact checked value (mem_append_left _ mem)

/-! ## The whole decision -/

variable {world : DecideWorld} {currency : Currency} {bindings : List PolicyBinding}
  {initial : Deliberation} {result : PermissionDecisionResult} {decision : InterceptionDecision}

/-- What the preparation of a decision establishes. -/
structure PreparesDecision (env : InterceptionEnvironment) (input : InterceptionInput)
    (currency : Currency) (bindings : List PolicyBinding) (initial : Deliberation) : Prop where
  supported : ∀ binding, PolicyStatement.binding binding ∈ input.document.statements ->
    binding.state ≠ .inactive -> binding.mode = .observe \/ binding.mode = .gate
  authorized : ∀ use ∈ input.authorizationUses,
    authorizationMatches env input.document use
  selected : selectPolicyBindings env.toPolicyEnvironment input.document input.proposal
    (some .decide) currency = .ok bindings
  conditions : (∃ permission ∈ input.permissions, permission.effect = .requireApproval) ->
    humanApproved env input \/ .requireApproval ∈ initial.results

theorem prepareDecision_ok (prepared : prepareDecision env input currency = .ok (bindings, initial)) :
    PreparesDecision env input currency bindings initial := by
  simp only [prepareDecision, bind_eq_ok_iff, refuse_eq_ok_iff, exists_and_left,
    exists_const] at prepared
  rcases prepared with ⟨_, _, _, _, _, valid, authorized, selection, selected, returned⟩
  cases returned
  refine ⟨?_, ?_, selected, ?_⟩
  · intro binding mem active
    have allowed := any_eq_false.mp valid _ mem
    simp only [isUnsupportedBinding, active, ne_eq, not_false_eq_true, decide_true,
      Bool.true_and, decide_eq_true_eq] at allowed
    cases mode : binding.mode with
    | observe => exact .inl rfl
    | gate => exact .inr rfl
    | advise | transform => simp [mode] at allowed
  · intro use mem
    have matched := any_eq_false.mp authorized use mem
    simpa using matched
  · intro required
    rcases required with ⟨permission, mem, effect⟩
    have conditioned : input.permissions.any (·.effect = .requireApproval) :=
      any_eq_true.mpr ⟨permission, mem, by simpa using effect⟩
    cases approved : humanApproved env input with
    | true => exact .inl rfl
    | false => simp [conditioned]

/-- What a final allow of `decide` establishes. -/
structure Mediated (env : InterceptionEnvironment) (input : InterceptionInput)
    (world : DecideWorld) (points : OperationPoints) : Prop where
  kernel : ∃ answer, world.final.finalKernel = some answer /\ answer.kernel.effect = .allow /\
    ∀ reason ∈ answer.kernel.reasons, isInvalidReason reason = false
  current : world.final.stillCurrent = some true
  conditions : (∃ permission ∈ input.permissions, permission.effect = .requireApproval) ->
    humanApproved env input
  gates : ∀ binding, PolicyStatement.binding binding ∈ input.document.statements ->
    selectsBinding env.toPolicyEnvironment input.proposal (some .decide) world.preparation
      binding = .ok true ->
    binding.state = .active -> binding.mode ≠ .observe ->
    isExhausted env input binding (world.invocation binding) ≠ .ok true ->
      Consents env input points binding (world.invocation binding) /\
        (binding.participant.kind = .agent -> ∃ agent,
          Accountable env.toPolicyEnvironment input.document binding input.proposal
            (world.final.recheck binding).currency agent /\
          (world.final.recheck binding).participantAuthorized binding = some true)

private theorem accountable_of_agentStillAuthorized {moment : Moment}
    (authorized : agentStillAuthorized env input binding moment) :
    ∃ agent, Accountable env.toPolicyEnvironment input.document binding input.proposal
        moment.currency agent /\ moment.participantAuthorized binding = some true := by
  unfold agentStillAuthorized at authorized
  split at authorized
  · cases authorized
  next agent read =>
    exact ⟨agent, readPolicyAgentPrincipal_ok read, of_decide_eq_true authorized⟩

private theorem invoke_ok {world : InvocationWorld} {reference : InvocationReference}
    (known : policyOperationDefinition env.toPolicyEnvironment input.proposal.operation =
      .ok decl) (invoked : invoke env input binding world = .ok (reference, result)) :
    participates input decl.points binding /\
      result = (attempt env input decl.points binding world).result := by
  simp only [invoke, known, bind_eq_ok_iff, refuse_eq_ok_iff, Bool.not_eq_false',
    Except.ok.injEq, exists_eq_left', exists_and_left, exists_const] at invoked
  rcases invoked with ⟨admitted, _, _, returned⟩
  have same := Except.ok.inj returned
  exact ⟨admitted, (congrArg Prod.snd same).symm⟩

/-- The parts of a decision that was returned. -/
theorem decide_ok (decided : decide env input world = .ok decision) :
    ∃ bindings initial decl deliberation,
      PreparesDecision env input world.preparation bindings initial /\
      policyOperationDefinition env.toPolicyEnvironment input.proposal.operation = .ok decl /\
      runGates env input world.invocation bindings initial = .ok deliberation /\
      decision = (prepareFinalDecision env input decl deliberation world.final).decision := by
  simp only [PolicyInterception.decide, bind_eq_ok_iff] at decided
  rcases decided with ⟨⟨bindings, initial⟩, prepared, decl, known, deliberation, ran,
    _, _, returned⟩
  cases returned
  exact ⟨bindings, initial, decl, deliberation, prepareDecision_ok prepared, known,
    ran, rfl⟩

private theorem mediated_of_allow (decided : decide env input world = .ok decision)
    (allowed : decision.result = .allow) :
    ∃ decl, policyOperationDefinition env.toPolicyEnvironment input.proposal.operation =
      .ok decl /\ Mediated env input world decl.points := by
  rcases decide_ok decided with
    ⟨bindings, initial, decl, deliberation, prepares, known, ran, returned⟩
  rw [returned] at allowed
  have final := finallyAllowed_of_allow allowed
  rcases foldlM_gateStep_ok ran with ⟨extended, weighed⟩
  refine ⟨decl, known, final.kernel, final.current, ?_, ?_⟩
  · intro required
    rcases prepares.conditions required with approved | pending
    · exact approved
    · rcases final.results _ (extended.results pending) with never | never <;>
        cases never
  · intro binding declared selects active decisive remaining
    have gate : binding.mode = .gate := by
      rcases prepares.supported binding declared (by simp [active]) with observe | gate
      · exact absurd observe decisive
      · exact gate
    have selected : binding ∈ bindings :=
      (mem_selectPolicyBindings prepares.selected binding).mpr ⟨declared, selects⟩
    cases weighed binding (mem_filter.mpr ⟨selected, by simpa using gate⟩) with
    | exhausted spent => exact absurd spent remaining
    | shadowed shadow =>
      rw [active] at shadow
      cases shadow
    | contributed reference result invoked counted used =>
      rcases invoke_ok known invoked with ⟨admitted, sameResult⟩
      refine ⟨?_, ?_⟩
      · rw [sameResult] at counted
        refine consents_of_contribution gate ?_ (final.results _ counted)
        -- A gate that takes part may not continue after a failure.
        intro continues
        simp [participates, gate, OperationPoints.admitsFailure, PolicyFailure.gateFailure?,
          continues] at admitted
      · intro agent
        exact accountable_of_agentStillAuthorized (final.agents binding used agent)

private theorem decide_synchronous
    (silent : ∀ binding, PolicyStatement.binding binding ∈ input.document.statements ->
      selectsBinding env.toPolicyEnvironment input.proposal (some .decide) world.preparation
        binding = .ok true -> binding.mode = .observe) : ∃ outcome : Except String PreparedDecision,
      prepareSynchronousDecision env input world = outcome.map some /\
      decide env input world = outcome.bind fun prepared =>
        (recordIn env prepared.record world.final.auditEventId world.final.store).map
          fun _ => prepared.decision := by
  unfold PolicyInterception.prepareSynchronousDecision PolicyInterception.decide
  cases prepared : prepareDecision env input world.preparation with
  | error thrown => exact ⟨.error thrown, rfl, rfl⟩
  | ok selection =>
    rcases selection with ⟨bindings, initial⟩
    have observed : ∀ binding ∈ bindings, binding.mode = .observe := by
      intro binding mem
      rcases (mem_selectPolicyBindings (prepareDecision_ok prepared).selected binding).mp mem
        with ⟨declared, selects⟩
      exact silent binding declared selects
    have noGate : bindings.filter (·.mode = .gate) = [] := by
      apply filter_eq_nil_iff.mpr
      intro binding mem
      simp [observed binding mem]
    have noParticipant : bindings.any (·.mode ≠ .observe) =
        false := by
      apply any_eq_false.mpr
      intro binding mem
      simp [observed binding mem]
    have unasked : runGates env input world.invocation bindings initial = .ok initial := by
      unfold runGates
      rw [noGate]
      rfl
    cases known : policyOperationDefinition env.toPolicyEnvironment
        input.proposal.operation with
    | error thrown => exact ⟨.error thrown, rfl, rfl⟩
    | ok decl =>
      refine ⟨.ok (prepareFinalDecision env input decl initial world.final), ?_, ?_⟩
      · simp only [bind, Except.bind, pure, Except.pure, noParticipant]
        rfl
      · simp only [bind, Except.bind, pure, Except.pure, unasked]
        cases recordIn env (prepareFinalDecision env input decl initial world.final).record
          world.final.auditEventId world.final.store <;> rfl

/-- Complete mediation.  Whatever the participants do, `decide` returns a final
allow only with the kernel's valid allow on a still current policy, with every
approval condition met, and with the consent of every selected active gate that
has uses left; so no behaviour turns a kernel deny into an allow.  When only
observations are selected, the synchronous preparation has the same result. -/
theorem decide_completely_mediated (env : InterceptionEnvironment) (input : InterceptionInput)
    (world : DecideWorld) : (∀ decision, decide env input world = .ok decision ->
      decision.result = .allow ->
        ∃ definition, policyOperationDefinition env.toPolicyEnvironment input.proposal.operation =
            .ok definition /\ Mediated env input world definition.points) /\
    (∀ answer, world.final.finalKernel = some answer -> answer.kernel.effect = .deny ->
      ∀ decision, decide env input world = .ok decision -> decision.result ≠ .allow) /\
    ((∀ binding, PolicyStatement.binding binding ∈ input.document.statements ->
        selectsBinding env.toPolicyEnvironment input.proposal (some .decide) world.preparation
          binding = .ok true -> binding.mode = .observe) ->
      ∃ outcome : Except String PreparedDecision,
        prepareSynchronousDecision env input world = outcome.map some /\
        decide env input world = outcome.bind fun prepared =>
          (recordIn env prepared.record world.final.auditEventId world.final.store).map
            fun _ => prepared.decision) := by
  refine ⟨?_, ?_, decide_synchronous⟩
  · intro decision decided allowed
    exact mediated_of_allow decided allowed
  · intro answer kernel denied decision decided allowed
    rcases mediated_of_allow decided allowed with ⟨_, _, mediated⟩
    rcases mediated.kernel with ⟨other, same, effect, _⟩
    rw [kernel] at same
    cases same
    rw [denied] at effect
    cases effect

/-! ## A guarded tool call -/

/-- A digest for samples: the identity that a value carries. -/
def nameDigest : PolicyDigest where
  principal := PolicyPrincipal.id
  action := fun action => action
  resource := fun
    | .container container => container.id
    | .mcpTool _ _ toolName => toolName
  container := PolicyContainer.id
  statement := PolicyStatement.id
  content := PolicyStatement.id
  fixedContent := fun binding => binding.id
  document := fun _ => "policy"
  proposal := PolicyProposal.operation

/-- A deterministic guard, and one operation with a deciding point. -/
def guardedEnvironment : InterceptionEnvironment where
  digest := nameDigest
  dateParse := fun _ => none
  operationRegistry := fun operation =>
    if operation = "mcp.call" then
      some ("tool.use", some
        { stages := [.decide], modes := [.gate, .observe], participantKinds := [.deterministic]
          gateResults := [.allow, .deny, .escalate], gateFailures := [.error, .escalateToHuman] })
    else none
  productOperations := ["tool.use"]
  formats := acceptingFormats
  userDatabaseBound := fun _ => true
  inputDigest := fun _ => "input"
  outputDigest := fun _ => "output"
  participant := some ⟨"guard", "v1"⟩
  agentParticipant := none

def fileTool : PolicyScope :=
  ⟨[⟨.human, "alice"⟩], ["tool.use"], [.mcpTool "office" "files" "read"]⟩

def guardGate : PolicyBinding :=
  { id := "guard-gate", author := ⟨.human, "alice"⟩, authority := .human "alice"
    authoredAt := "2026-01-01", scope := fileTool
    lifetime := ⟨⟨.workspace "office", "workspace", "office"⟩, none, none⟩
    state := .active, operation := "mcp.call", stage := .decide, mode := .gate
    participant := ⟨.deterministic, "guard", "v1"⟩, inputDisclosure := fileTool
    order := 0, timeoutMs := 100, failure := .escalateToHuman, circuit := ⟨3, 1000⟩ }

/-- A tool call that a human has approved as it stands. -/
def guardedInput : InterceptionInput where
  workspaceDb := some ⟨"office", .workspace⟩
  userDb := none
  document := ⟨[.binding guardGate], by decide⟩
  proposal :=
    { operation := "mcp.call", workspaceId := some "office"
      resource := .mcpTool "office" "files" "read", inputReferences := [], inputAttributes := []
      capabilityCallId := none, subject := officeSubject }
  authorizationRevision := "revision"
  permissions := []
  contextSummary := none
  decisionLineage := none
  authorizationUses := []
  humanApproval := some ⟨"request", "pd_0", "alice", ⟨"mcp.call", "policy", "revision"⟩⟩

def calmMoment : Moment where
  currency := ⟨0, fun _ => true, fun _ => true⟩
  stillCurrent := some true
  participantAuthorized := fun _ => some true

def guardedWorld (answer : ParticipantAnswer) : DecideWorld where
  preparation := calmMoment.currency
  invocation := fun _ =>
    { useTables := Tables.empty, startedAt := "2026-01-01", before := calmMoment
      circuit := ⟨0, 0, false⟩, dispatchedAt := 0, answer := answer, after := calmMoment
      settlingCircuit := ⟨0, 0, false⟩, settledAt := 0, completedAt := "2026-01-01"
      decisionId := "pd_1", auditEventId := "aud_1", store := fun _ => Tables.empty }
  final :=
    { stillCurrent := some true, recheck := fun _ => calmMoment
      finalKernel := some (.direct ⟨.allow, [.associationGrant "grant"],
        ⟨some "alice", none, [], [], [], [], ["grant"], []⟩⟩)
      decisionId := "pd_2", auditEventId := "aud_2", createdAt := "2026-01-01"
      store := fun _ => Tables.empty }

private theorem exists_of_toOption {outcome : Except String InterceptionDecision}
    (returned : outcome.toOption.map InterceptionDecision.result = some result) :
    ∃ decision, outcome = .ok decision /\ decision.result = result := by
  cases outcome with
  | error => cases returned
  | ok decision => exact ⟨decision, rfl, Option.some.inj returned⟩

theorem guardedCall_mediated : ∃ decision, decide guardedEnvironment guardedInput
        (guardedWorld (.output (.gate .allow))) = .ok decision /\ decision.result = .allow /\
      ∃ definition, policyOperationDefinition guardedEnvironment.toPolicyEnvironment "mcp.call" =
          .ok definition /\
        Mediated guardedEnvironment guardedInput (guardedWorld (.output (.gate .allow)))
          definition.points := by
  have returned : (decide guardedEnvironment guardedInput
      (guardedWorld (.output (.gate .allow)))).toOption.map InterceptionDecision.result =
        some .allow := by
    decide +kernel
  rcases exists_of_toOption returned with ⟨decision, decided, allowed⟩
  exact ⟨decision, decided, allowed,
    (decide_completely_mediated guardedEnvironment guardedInput _).1 decision decided allowed⟩

/-- A selected active gate whose participant timed out lets the call through
when the call carries a matching human approval. -/
theorem timedOutGate_allows : (decide guardedEnvironment guardedInput
        (guardedWorld .timeout)).toOption.map InterceptionDecision.result = some .allow /\
      PolicyStatement.binding guardGate ∈ guardedInput.document.statements /\
      (selectsBinding guardedEnvironment.toPolicyEnvironment guardedInput.proposal (some .decide)
        calmMoment.currency guardGate).toOption = some true /\
      guardGate.state = .active /\ guardGate.mode = .gate /\ guardGate.lifetime.uses = none /\
      ∀ points decision, ¬ Answered guardedEnvironment guardedInput points guardGate
        ((guardedWorld .timeout).invocation guardGate) decision := by
  refine ⟨by decide +kernel, by decide +kernel, by decide +kernel, rfl, rfl, rfl, ?_⟩
  intro points decision answered
  rcases answered.reply.output with ⟨output, impossible, _⟩
  cases impossible

/-! ## The limits that a decision records -/

/-- Every finite use that a decision records is one of a real statement, with
that statement's own limit. -/
theorem prepareFinalDecision_usesBacked
    (prepares : PreparesDecision env input currency bindings initial)
    (decl : OperationDefinition) (deliberation : Deliberation) (final : FinalWorld) :
    (prepareFinalDecision env input decl deliberation final).record.UsesBacked
      env.digest := by
  intro uses supplied use mem
  have consumed : use ∈ consumedUses env input deliberation.used := by
    simp only [prepareFinalDecision, Option.mem_def, Option.ite_none_left_eq_some,
      Option.some.injEq] at supplied
    rw [<- supplied.2] at mem
    split at mem
    · exact mem
    · cases mem
  rcases OrderedMap.mem_of_mem_values_ofPairs consumed with ⟨key, pair⟩
  rcases mem_map.mp pair with ⟨source, inList, same⟩
  cases same
  rcases mem_append.mp inList with authorization | finite
  · have matched := prepares.authorized use authorization
    unfold authorizationMatches at matched
    split at matched
    · cases matched
    rename_i statement hit
    simp only [Bool.and_eq_true, decide_eq_true_eq] at matched
    have named : statement.id = use.statement.id := by
      simpa using find?_some hit
    refine ⟨statement, ?_, matched.2⟩
    rw [named, matched.1.2]
  · rcases mem_filterMap.mp finite with ⟨binding, _, limited⟩
    rcases Option.map_eq_some_iff.mp limited with ⟨limit, hasLimit, made⟩
    cases made
    exact ⟨.binding binding, rfl, hasLimit⟩

/-- A write of the interception: the evidence of a gate, or the record of a
decision that was prepared. -/
inductive Issued (env : InterceptionEnvironment) : RecordProductPermissionDecisionInput -> Prop where
  | gate (input : InterceptionInput) (definition : OperationDefinition) (binding : PolicyBinding)
      (world : InvocationWorld) (attempted : Attempt) :
      Issued env (gateRecord env input definition binding world attempted)
  | final {input : InterceptionInput} {currency : Currency} {bindings : List PolicyBinding}
      {initial : Deliberation}
      (prepared : prepareDecision env input currency = .ok (bindings, initial))
      (definition : OperationDefinition) (deliberation : Deliberation) (final : FinalWorld) :
      Issued env (prepareFinalDecision env input definition deliberation final).record

theorem Issued.usesBacked {record : RecordProductPermissionDecisionInput}
    (issued : Issued env record) : record.UsesBacked env.digest := by
  cases issued with
  | gate =>
    intro uses supplied
    cases supplied
  | final prepared => exact prepareFinalDecision_usesBacked (prepareDecision_ok prepared) _ _ _

/-- In whatever order the writes of any number of decisions reach the store, no
statement is consumed beyond its limit. -/
theorem issued_uses_within_limit (env : InterceptionEnvironment)
    (injective : Function.Injective env.digest.statement) (calls : List RecordCall)
    (issued : ∀ call ∈ calls, Issued env call.input) (home : Home) (statement : PolicyStatement)
    (limit : Nat) (limited : statement.fields.lifetime.uses = some limit) :
    (runCalls (recordCall env.formats) calls (fun _ => Tables.empty) home).consumptions
      ⟨statement.id, env.digest.statement statement⟩ <= limit :=
  (recordCalls_recorded injective (fun call mem => (issued call mem).usesBacked) home).bounded
    statement limit limited

def grantedEnvironment : InterceptionEnvironment := { guardedEnvironment with digest := onceDigest }

/-- A call that is authorized by the grant for one use. -/
def grantedInput : InterceptionInput :=
  { guardedInput with
    document := ⟨[onceGrant], by decide⟩, authorizationUses := [onceUse onceDigest] }

/-- The world at the end of a decision that gets this id. -/
def finalOf (decisionId : String) : FinalWorld :=
  { (guardedWorld .timeout).final with decisionId := decisionId }

/-- Two decisions are prepared on the grant, and one of them uses it. -/
theorem granted_calls_use_once : ∃ first second, Issued grantedEnvironment first /\
    Issued grantedEnvironment second /\ first.decisionId ≠ second.decisionId /\
    (runCalls (recordCall grantedEnvironment.formats) [⟨first, "aud_2"⟩, ⟨second, "aud_3"⟩]
      (fun _ => Tables.empty) (.workspace "office")).consumptions
        ⟨onceGrant.id, grantedEnvironment.digest.statement onceGrant⟩ <= 1 := by
  have ready : (prepareDecision grantedEnvironment grantedInput
      calmMoment.currency).toOption.isSome := by decide +kernel
  rcases Option.isSome_iff_exists.mp ready with ⟨⟨bindings, initial⟩, prepared⟩
  have issued := Issued.final (toOption_eq_some_iff.mp prepared)
    ⟨"tool.use", ⟨[], [], [], [], []⟩⟩ initial
  refine ⟨_, _, issued (finalOf "pd_1"), issued (finalOf "pd_2"),
    (by decide : "pd_1" ≠ "pd_2"), ?_⟩
  refine issued_uses_within_limit grantedEnvironment onceDigest_injective _ ?_ _ onceGrant 1 rfl
  simpa using ⟨issued (finalOf "pd_1"), issued (finalOf "pd_2")⟩

end Policy
end OpenKit
