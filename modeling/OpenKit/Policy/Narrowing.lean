import OpenKit.Policy.Preparation

namespace OpenKit
namespace Policy

open Foundation List

/-!
# Narrowing really narrows

The classifier compares statements pair by pair; the selector asks which
bindings take part in an operation at some time.  A narrowed observation is
selected for no proposal for which its previous version was not, and everything
that is not an observation is untouched.  Digests are assumed injective, which
turns digest comparisons into equality of contents.
-/

variable {userId now : String} {statement : PolicyStatement} {current : PolicyDocument}

variable {env : PolicyEnvironment}

/-! ## Selection as a conjunction of conditions -/

variable {proposal : PolicyProposal}

/-- Everything the selector checks about one binding. -/
structure Participates (env : PolicyEnvironment) (proposal : PolicyProposal)
    (stage : Option PolicyStage) (currency : Currency) (binding : PolicyBinding) : Prop where
  notInactive : binding.state ≠ .inactive
  operation : binding.operation = proposal.operation
  stage : ∀ required, stage = some required -> required = binding.stage
  anchor : anchorMatches binding proposal
  anchorCurrent : currency.anchorCurrent binding.lifetime.anchor
  notExpired : isExpired env binding.lifetime currency.now = false
  humanAuthor : binding.author.kind = .human
  authorCurrent : binding.participant.kind = .agent \/
    currency.authorCurrent binding.author.id
  scope : policyScopeIncludesProposal env binding.scope proposal = .ok true

theorem selectsBinding_eq_true_iff (proposal : PolicyProposal) (stage : Option PolicyStage)
    (currency : Currency) (binding : PolicyBinding) :
    selectsBinding env proposal stage currency binding = .ok true <->
      Participates env proposal stage currency binding := by
  constructor
  · intro selected
    unfold selectsBinding at selected
    split at selected
    · cases selected
    rename_i considered
    split at selected
    · cases selected
    rename_i anchor
    split at selected
    · cases selected
    rename_i anchorCurrent
    split at selected
    · cases selected
    rename_i notExpired
    split at selected
    · cases selected
    rename_i humanAuthor
    split at selected
    · cases selected
    rename_i authorCurrent
    push Not at considered authorCurrent
    refine
      { notInactive := considered.1
        operation := considered.2.1, stage := ?_
        anchor := by simpa using anchor
        anchorCurrent := by simpa using anchorCurrent
        notExpired := by simpa using notExpired
        humanAuthor := not_not.mp humanAuthor, authorCurrent := ?_, scope := selected }
    · intro required given
      have same := considered.2.2 (by rw [given]; rfl)
      rw [given] at same
      exact Option.some.inj same
    · by_cases agent : binding.participant.kind = .agent
      · exact .inl agent
      · exact .inr (by simpa using authorCurrent agent)
  · intro participates
    unfold selectsBinding
    have staged : ¬ (stage.isSome /\ stage ≠ some binding.stage) := by
      intro differs
      cases stage with
      | none => cases differs.1
      | some required => exact differs.2 (congrArg some (participates.stage required rfl))
    have authored : ¬ (binding.participant.kind ≠ .agent /\
        currency.authorCurrent binding.author.id = false) := by
      intro missing
      rcases participates.authorCurrent with agent | current
      · exact missing.1 agent
      · rw [current] at missing
        cases missing.2
    rw [if_neg, if_neg, if_neg, if_neg, if_neg, if_neg authored]
    · exact participates.scope
    · exact not_not.mpr participates.humanAuthor
    · simp [participates.notExpired]
    · simp [participates.anchorCurrent]
    · simp [participates.anchor]
    · rintro (inactive | other | differs)
      · exact participates.notInactive inactive
      · exact other participates.operation
      · exact staged differs

theorem policyScopeIncludesProposal_mono {smaller larger : PolicyScope}
    (subjects : smaller.subjects ⊆ larger.subjects) (actions : smaller.actions ⊆ larger.actions)
    (resources : smaller.resources ⊆ larger.resources)
    (included : policyScopeIncludesProposal env smaller proposal = .ok true) :
    policyScopeIncludesProposal env larger proposal = .ok true := by
  unfold policyScopeIncludesProposal at included ⊢
  split at included
  next subjectMatches =>
    split at included
    · cases included
    rcases any_eq_true.mp subjectMatches with ⟨subject, mem, same⟩
    rw [if_pos (any_eq_true.mpr ⟨subject, subjects mem, same⟩)]
    simp only [Except.ok.injEq, Bool.and_eq_true, decide_eq_true_eq, any_eq_true] at included ⊢
    rcases included with ⟨⟨action, owned⟩, resource, listed, equal⟩
    exact ⟨⟨actions action, owned⟩, resource, resources listed, equal⟩
  · cases included

private theorem selectsBinding_safe {decl : OperationDefinition}
    (known : policyOperationDefinition env proposal.operation = .ok decl)
    (stage : Option PolicyStage) (currency : Currency) (binding : PolicyBinding) :
    ∃ answer, selectsBinding env proposal stage currency binding = .ok answer := by
  have inScope : ∃ answer, policyScopeIncludesProposal env binding.scope proposal = .ok answer := by
    unfold policyScopeIncludesProposal
    rw [known]
    split <;> exact ⟨_, rfl⟩
  unfold selectsBinding
  split_ifs
  all_goals first | exact ⟨_, rfl⟩ | exact inScope

/-- Selection cannot throw for a proposal whose operation is registered. -/
theorem selectPolicyBindings_eq_ok {decl : OperationDefinition}
    (known : policyOperationDefinition env proposal.operation = .ok decl)
    (document : PolicyDocument) (stage : Option PolicyStage) (currency : Currency) :
    ∃ bindings, selectPolicyBindings env document proposal stage currency = .ok bindings := by
  have safe : ∀ statement ∈ document.statements, ∃ kept,
      selectStatement env proposal stage currency statement = .ok kept := by
    intro statement _
    cases statement with
    | binding binding =>
      rcases selectsBinding_safe known stage currency binding with ⟨answer, decided⟩
      exact ⟨if answer then some binding else none, by simp [selectStatement, decided]⟩
    | permission | delegation | managedBoundary | agentPrincipal => exact ⟨none, rfl⟩
  rcases collect_eq_ok_of_forall safe with ⟨kept, collected⟩
  exact ⟨kept.mergeSort bindingLe, by unfold selectPolicyBindings; rw [collected]⟩

theorem Participates.registered {stage : Option PolicyStage} {currency : Currency}
    {binding : PolicyBinding} (participates : Participates env proposal stage currency binding) :
    ∃ decl, policyOperationDefinition env proposal.operation = .ok decl := by
  have included := participates.scope
  unfold policyScopeIncludesProposal at included
  split at included
  · split at included
    · cases included
    next decl known =>
      exact ⟨decl, known⟩
  · cases included

/-! ## One narrowed observation -/

/-- The content of a successful pair comparison. -/
structure NarrowedBinding (env : PolicyEnvironment) (before after : PolicyBinding) : Prop where
  author : before.author = after.author
  observesBefore : before.mode = .observe
  observesAfter : after.mode = .observe
  state : after.state = before.state \/ after.state = .inactive
  fixed : before.fixed = after.fixed
  anchor : before.lifetime.anchor = after.lifetime.anchor
  expiry : expiresNoLater env after.lifetime before.lifetime
  scope : after.scope.subjects ⊆ before.scope.subjects /\
    after.scope.actions ⊆ before.scope.actions /\ after.scope.resources ⊆ before.scope.resources
  disclosure : after.inputDisclosure.subjects ⊆ before.inputDisclosure.subjects /\
    after.inputDisclosure.actions ⊆ before.inputDisclosure.actions /\
    after.inputDisclosure.resources ⊆ before.inputDisclosure.resources

theorem isNarrowedObservation_some {before after : PolicyStatement}
    (injective : env.digest.Injective)
    (narrowed : isNarrowedObservation env (some before) (some after) userId) :
    ∃ old new, before = .binding old /\ after = .binding new /\ NarrowedBinding env old new := by
  cases before with
  | permission | delegation | managedBoundary | agentPrincipal => cases narrowed
  | binding old =>
    cases after with
    | permission | delegation | managedBoundary | agentPrincipal =>
      simp [isNarrowedObservation] at narrowed
    | binding new =>
      simp only [isNarrowedObservation, isNarrowedBinding, Bool.and_eq_true,
        Bool.or_eq_true, decide_eq_true_eq, injective.fixedContent.eq_iff,
        injective.container.eq_iff, policyScopeContains_iff injective] at narrowed
      rcases narrowed with ⟨⟨⟨observesBefore, oldAuthor⟩, _⟩,
        ⟨⟨⟨⟨⟨⟨⟨⟨observesAfter, newAuthor⟩, state⟩, _⟩, _⟩, fixed⟩, anchor⟩, expiry⟩, scope⟩,
          disclosure⟩
      exact ⟨old, new, rfl, rfl, oldAuthor.trans newAuthor.symm, observesBefore, observesAfter,
        state, fixed, anchor, expiry, scope, disclosure⟩

theorem isObservation_of_isNarrowedObservation {before : PolicyStatement}
    {after : Option PolicyStatement}
    (narrowed : isNarrowedObservation env (some before) after userId) : before.IsObservation := by
  cases before with
  | permission | delegation | managedBoundary | agentPrincipal => cases narrowed
  | binding old =>
    simp only [isNarrowedObservation, Bool.and_eq_true, decide_eq_true_eq] at narrowed
    exact ⟨old, rfl, narrowed.1.1.1⟩

theorem isExpired_of_expiresNoLater {before after : PolicyLifetime} {now : Int}
    (noLater : expiresNoLater env after before)
    (current : isExpired env after now = false) : isExpired env before now = false := by
  unfold expiresNoLater at noLater
  unfold isExpired at current ⊢
  cases earlier : PolicyKernel.present before.notAfter with
  | none => rfl
  | some beforeText =>
    cases later : PolicyKernel.present after.notAfter with
    | none =>
      rw [earlier, later] at noLater
      cases noLater
    | some afterText =>
      rw [earlier, later] at noLater
      rw [later] at current
      cases beforeParsed : env.dateParse beforeText with
      | none => simp [beforeParsed]
      | some =>
        cases afterParsed : env.dateParse afterText with
        | none => simp [beforeParsed, afterParsed] at noLater
        | some =>
          simp only [beforeParsed, afterParsed, decide_eq_true_eq,
            decide_eq_false_iff_not] at noLater current ⊢
          omega

namespace NarrowedBinding

variable {before after : PolicyBinding}

variable (narrowed : NarrowedBinding env before after)

include narrowed

theorem id_eq : before.id = after.id :=
  congrArg (·.id) narrowed.fixed

theorem operation_eq : before.operation = after.operation :=
  congrArg (·.operation) narrowed.fixed

theorem stage_eq : before.stage = after.stage :=
  congrArg (·.stage) narrowed.fixed

theorem participant_eq : before.participant = after.participant :=
  congrArg (·.participant) narrowed.fixed

/-- A narrowed observation takes part only where its previous version did. -/
theorem participates {stage : Option PolicyStage} {currency : Currency}
    (now : Participates env proposal stage currency after) :
    Participates env proposal stage currency before where
  notInactive := by
    rcases narrowed.state with same | inactive
    · exact same ▸ now.notInactive
    · exact absurd inactive now.notInactive
  operation := narrowed.operation_eq.trans now.operation
  stage := fun required given => (now.stage required given).trans narrowed.stage_eq.symm
  anchor := by
    have matched := now.anchor
    unfold anchorMatches at matched ⊢
    rw [narrowed.anchor, narrowed.participant_eq]
    exact matched
  anchorCurrent := by
    rw [narrowed.anchor]
    exact now.anchorCurrent
  notExpired := isExpired_of_expiresNoLater narrowed.expiry now.notExpired
  humanAuthor := by
    rw [narrowed.author]
    exact now.humanAuthor
  authorCurrent := by
    rw [narrowed.author, narrowed.participant_eq]
    exact now.authorCurrent
  scope := policyScopeIncludesProposal_mono narrowed.scope.1 narrowed.scope.2.1
    narrowed.scope.2.2 now.scope

end NarrowedBinding

/-! ## Prepared documents -/

section Prepared

variable {submitted : List PolicyStatement}

private theorem repinStatement_of_not_mem {proposed stamped : List PolicyStatement}
    {touched : List String} (untouched : statement.id ∉ touched) :
    repinStatement env proposed stamped touched statement = statement := by
  cases statement with
  | binding => exact if_neg (untouched ·.2)
  | permission | delegation | managedBoundary | agentPrincipal => rfl

theorem mem_preparedStatements_cases (unique : (submitted.map PolicyStatement.id).Nodup)
    (mem : statement ∈ preparedStatements env current submitted userId now) :
    statement ∈ current.statements \/ statement.id ∈ addedIds env current submitted \/
      statement.id ∈ changedIds env current submitted := by
  simp only [preparedStatements, mem_map] at mem
  rcases mem with ⟨_, ⟨source, sourceMember, rfl⟩, rfl⟩
  rw [id_repinStatement, id_prepareStatement]
  cases kept : unchangedVersion env current source with
  | some previous =>
    have known := unchangedVersion_eq_some kept
    have untouched : previous.id ∉ addedIds env current submitted ++
        changedIds env current submitted := by
      intro touched
      simp only [addedIds, changedIds, touchedStatements, mem_append, mem_map,
        mem_filter] at touched
      rcases touched with
        ⟨other, ⟨⟨mem, changed⟩, _⟩, same⟩ | ⟨other, ⟨⟨mem, changed⟩, _⟩, same⟩
      all_goals
        rw [inj_on_of_nodup_map unique mem sourceMember (same.trans known.2), kept] at changed
        cases changed
    have prepared : prepareStatement env current userId now source = previous := by
      simp [prepareStatement, kept]
    rw [prepared, repinStatement_of_not_mem untouched]
    exact .inl known.1
  | none =>
    right
    have touched : source ∈ touchedStatements env current submitted :=
      mem_filter.mpr ⟨sourceMember, by rw [kept]; rfl⟩
    cases indexed : (indexStatements current).get? source.id with
    | none =>
      exact .inl (mem_map_of_mem (mem_filter.mpr ⟨touched, by rw [indexed]; rfl⟩))
    | some =>
      exact .inr (mem_map_of_mem (mem_filter.mpr ⟨touched, by rw [indexed]; rfl⟩))

theorem retained_or_removed (statements : List PolicyStatement)
    (mem : statement ∈ current.statements) : (∃ other ∈ statements, other.id = statement.id) \/
      statement.id ∈ removedIds current statements := by
  by_cases retained : statement.id ∈ statements.map PolicyStatement.id
  · exact .inl (mem_map.mp retained)
  · exact .inr (mem_map_of_mem (mem_filter.mpr ⟨mem, by simpa using retained⟩))

end Prepared

/-- What a successful preparation computed. -/
theorem preparePolicyDocument_eq_ok {proposed : List PolicyStatement} {result : PreparedPolicy}
    (prepared : preparePolicyDocument env current proposed userId now = .ok result) :
    (proposed.map PolicyStatement.id).Nodup /\
      result.document.statements = preparedStatements env current proposed userId now /\
      result.diff = ⟨addedIds env current proposed, changedIds env current proposed,
        removedIds current result.document.statements⟩ /\
      result.classification = classify env current result.document result.diff userId := by
  rcases bind_inv prepared with ⟨submitted, parsed, rest⟩
  rcases bind_inv rest with ⟨document, validated, rest⟩
  have sameStatements := statements_of_parsePolicyDocument env parsed
  have documentStatements := statements_of_validatePolicyDocument env validated
  cases rest
  rw [sameStatements] at documentStatements
  refine ⟨sameStatements ▸ submitted.uniqueIds, documentStatements, ?_, rfl⟩
  simp only [sameStatements, documentStatements]

/-! ## Classifications -/

section Classified

variable {document : PolicyDocument}

variable {proposed : List PolicyStatement} {result : PreparedPolicy}

variable (prepared : preparePolicyDocument env current proposed userId now = .ok result)
  (narrowing : result.classification = .narrowing)

theorem classify_eq_narrowing {diff : PolicyDiff}
    (narrowing : classify env current document diff userId = .narrowing) : diff.added = [] /\
      (∀ id ∈ diff.removed,
        isNarrowedObservation env ((indexStatements current).get? id) none userId) /\
      ∀ id ∈ diff.changed, isNarrowedObservation env ((indexStatements current).get? id)
          (document.statements.find? (·.id = id)) userId := by
  unfold classify at narrowing
  split at narrowing
  · cases narrowing
  split at narrowing
  next narrowed =>
    simp only [isNarrowing, Bool.and_eq_true, List.isEmpty_iff, all_eq_true] at narrowed
    exact ⟨narrowed.1.1, narrowed.1.2, narrowed.2⟩
  · cases narrowing

private theorem find?_id_of_mem (mem : statement ∈ document.statements) :
    document.statements.find? (·.id = statement.id) = some statement := by
  cases hit : document.statements.find? (·.id = statement.id) with
  | none =>
    have absent := find?_eq_none.mp hit statement mem
    simp at absent
  | some found =>
    have sameId : found.id = statement.id := by simpa using find?_some hit
    rw [document.eq_of_id_eq (mem_of_find?_eq_some hit) mem sameId]

/-- A comparison with the index is about a current statement of that id. -/
private theorem exists_indexed {id : String} {after : Option PolicyStatement}
    (narrowed : isNarrowedObservation env ((indexStatements current).get? id) after userId) :
    ∃ before ∈ current.statements, before.id = id /\
      isNarrowedObservation env (some before) after userId := by
  cases indexed : (indexStatements current).get? id with
  | none =>
    rw [indexed] at narrowed
    cases narrowed
  | some before =>
    rw [indexed] at narrowed
    have known := (get?_indexStatements_iff current id before).mp indexed
    exact ⟨before, known.1, known.2, narrowed⟩

include prepared narrowing

theorem mem_narrowing_cases (mem : statement ∈ result.document.statements) :
    statement ∈ current.statements \/
      ∃ before ∈ current.statements, before.id = statement.id /\
        isNarrowedObservation env (some before) (some statement) userId := by
  rcases preparePolicyDocument_eq_ok prepared with ⟨unique, statements, diff, classified⟩
  rw [narrowing] at classified
  rcases classify_eq_narrowing classified.symm with ⟨noneAdded, _, changed⟩
  rw [diff] at noneAdded changed
  have origin := mem
  rw [statements] at origin
  rcases mem_preparedStatements_cases unique origin with kept | added | touched
  · exact .inl kept
  · rw [show addedIds env current proposed = [] from noneAdded] at added
    cases added
  · right
    apply exists_indexed
    rw [<- find?_id_of_mem mem]
    exact changed _ touched

theorem mem_current_cases (mem : statement ∈ current.statements) :
    statement ∈ result.document.statements \/ statement.IsObservation := by
  rcases preparePolicyDocument_eq_ok prepared with ⟨_, _, diff, classified⟩
  rw [narrowing] at classified
  rcases classify_eq_narrowing classified.symm with ⟨_, removed, _⟩
  rw [diff] at removed
  rcases retained_or_removed result.document.statements mem with
    ⟨other, otherMember, sameId⟩ | gone
  · rcases mem_narrowing_cases prepared narrowing otherMember with
      kept | ⟨before, beforeMember, beforeId, narrowed⟩
    · exact .inl (current.eq_of_id_eq kept mem sameId ▸ otherMember)
    · have same := current.eq_of_id_eq beforeMember mem (beforeId.trans sameId)
      exact .inr (same ▸ isObservation_of_isNarrowedObservation narrowed)
  · rcases exists_indexed (removed _ gone) with ⟨before, beforeMember, sameId, narrowed⟩
    have same := current.eq_of_id_eq beforeMember mem sameId
    exact .inr (same ▸ isObservation_of_isNarrowedObservation narrowed)

theorem narrowing_keeps_decisive (injective : env.digest.Injective)
    (decisive : ¬ statement.IsObservation) :
    statement ∈ current.statements <-> statement ∈ result.document.statements := by
  constructor
  · intro mem
    rcases mem_current_cases prepared narrowing mem with kept | observation
    · exact kept
    · exact absurd observation decisive
  · intro mem
    rcases mem_narrowing_cases prepared narrowing mem with kept | ⟨_, _, _, narrowed⟩
    · exact kept
    · rcases isNarrowedObservation_some injective narrowed with ⟨_, new, _, isNew, facts⟩
      exact absurd ⟨new, isNew, facts.observesAfter⟩ decisive

/-- The relation between a next binding and the current one it narrows. -/
structure NarrowsTo (before after : PolicyBinding) : Prop where
  id : before.id = after.id
  mode : before.mode = after.mode
  participant : before.participant = after.participant
  operation : before.operation = after.operation
  stage : before.stage = after.stage
  subjects : after.inputDisclosure.subjects ⊆ before.inputDisclosure.subjects
  actions : after.inputDisclosure.actions ⊆ before.inputDisclosure.actions
  resources : after.inputDisclosure.resources ⊆ before.inputDisclosure.resources

omit prepared narrowing in
theorem NarrowsTo.refl (binding : PolicyBinding) : NarrowsTo binding binding :=
  ⟨rfl, rfl, rfl, rfl, rfl, List.Subset.refl _, List.Subset.refl _, List.Subset.refl _⟩

omit prepared narrowing in
theorem NarrowsTo.trans {first second third : PolicyBinding} (earlier : NarrowsTo first second)
    (later : NarrowsTo second third) : NarrowsTo first third :=
  ⟨earlier.id.trans later.id, earlier.mode.trans later.mode,
    earlier.participant.trans later.participant, earlier.operation.trans later.operation,
    earlier.stage.trans later.stage, Subset.trans later.subjects earlier.subjects,
    Subset.trans later.actions earlier.actions, Subset.trans later.resources earlier.resources⟩

/-- A binding selected after a narrowing was selected before, with at least
the same disclosure. -/
theorem narrowing_selects_less (injective : env.digest.Injective) {stage : Option PolicyStage}
    {currency : Currency} {selected : List PolicyBinding}
    (selection : selectPolicyBindings env result.document proposal stage currency = .ok selected)
    {binding : PolicyBinding} (mem : binding ∈ selected) :
    ∃ selectedBefore, selectPolicyBindings env current proposal stage currency = .ok selectedBefore /\
      ∃ before ∈ selectedBefore, NarrowsTo before binding := by
  rcases (mem_selectPolicyBindings selection binding).mp mem with ⟨listed, chosen⟩
  have participates := (selectsBinding_eq_true_iff proposal stage currency binding).mp chosen
  rcases participates.registered with ⟨decl, known⟩
  rcases selectPolicyBindings_eq_ok known current stage currency with
    ⟨selectedBefore, selectionBefore⟩
  refine ⟨selectedBefore, selectionBefore, ?_⟩
  rcases mem_narrowing_cases prepared narrowing listed with kept | ⟨old, oldMember, _, narrowed⟩
  · exact ⟨binding, (mem_selectPolicyBindings selectionBefore binding).mpr ⟨kept, chosen⟩,
      NarrowsTo.refl binding⟩
  rcases isNarrowedObservation_some injective narrowed with ⟨before, new, isOld, isNew, facts⟩
  cases isNew
  subst isOld
  refine ⟨before, (mem_selectPolicyBindings selectionBefore before).mpr ⟨oldMember, ?_⟩, ?_⟩
  · exact (selectsBinding_eq_true_iff proposal stage currency before).mpr
      (facts.participates participates)
  · exact ⟨facts.id_eq, facts.observesBefore.trans facts.observesAfter.symm, facts.participant_eq,
      facts.operation_eq, facts.stage_eq, facts.disclosure.1, facts.disclosure.2.1,
      facts.disclosure.2.2⟩

omit narrowing

/-- An unchanged candidate has the current statements in some order. -/
theorem unchanged_perm (still : result.classification = .unchanged) :
    current.statements.Perm result.document.statements := by
  rcases preparePolicyDocument_eq_ok prepared with ⟨unique, statements, diff, classified⟩
  rw [still] at classified
  have empty : result.diff.added = [] /\ result.diff.changed = [] /\ result.diff.removed = [] := by
    unfold classify at classified
    split at classified
    next empty => simpa [and_assoc] using empty
    · split at classified <;> cases classified
  rw [diff] at empty
  rcases empty with ⟨noneAdded, noneChanged, noneRemoved⟩
  have included : result.document.statements ⊆ current.statements := by
    intro statement mem
    rw [statements] at mem
    rcases mem_preparedStatements_cases unique mem with kept | added | changed
    · exact kept
    · rw [show addedIds env current proposed = [] from noneAdded] at added
      cases added
    · rw [show changedIds env current proposed = [] from noneChanged] at changed
      cases changed
  apply (perm_ext_iff_of_nodup current.uniqueIds.of_map result.document.uniqueIds.of_map).mpr
  intro statement
  constructor
  · intro mem
    rcases retained_or_removed result.document.statements mem with
      ⟨other, otherMember, sameId⟩ | gone
    · exact current.eq_of_id_eq (included otherMember) mem sameId ▸ otherMember
    · rw [show removedIds current result.document.statements = [] from noneRemoved] at gone
      cases gone
  · exact fun mem => included mem

end Classified

/-- Narrowing really narrows, and unchanged means unchanged: for every
prepared candidate, proposal, time, and currency of authors and anchors. -/
theorem preparePolicyDocument_narrows (injective : env.digest.Injective) (current : PolicyDocument)
    (proposed : List PolicyStatement) (userId now : String) (result : PreparedPolicy)
    (prepared : preparePolicyDocument env current proposed userId now = .ok result) :
    (result.classification = .narrowing ->
      (∀ proposal stage currency selected,
        selectPolicyBindings env result.document proposal stage currency = .ok selected ->
          ∀ binding ∈ selected, ∃ selectedBefore,
            selectPolicyBindings env current proposal stage currency = .ok selectedBefore /\
              ∃ before ∈ selectedBefore, NarrowsTo before binding) /\
      ∀ statement, ¬ statement.IsObservation ->
        (statement ∈ current.statements <-> statement ∈ result.document.statements)) /\
    (result.classification = .unchanged ->
      current.statements.Perm result.document.statements) := by
  refine ⟨?_, unchanged_perm prepared⟩
  intro narrowing
  refine ⟨?_, fun statement decisive => narrowing_keeps_decisive prepared narrowing injective decisive⟩
  intro proposal stage currency selected selection binding member
  exact narrowing_selects_less prepared narrowing injective selection member

/-- The next document was prepared from this one and classified as narrowing. -/
def PreparedNarrowing (env : PolicyEnvironment) (current next : PolicyDocument) : Prop :=
  ∃ proposed userId now diff,
    preparePolicyDocument env current proposed userId now = .ok ⟨next, diff, .narrowing⟩

/-- An environment in which tool calls can be observed, over any digest. -/
def toolEnvironment (digest : PolicyDigest) : PolicyEnvironment where
  digest := digest
  dateParse := fun _ => none
  operationRegistry := fun operation =>
    if operation = "mcp.call" then
      some ("tool.use", some ⟨[.completed], [.observe], [.deterministic], [], []⟩)
    else none
  productOperations := []

def mailTools (names : List String) : PolicyScope where
  subjects := [⟨.human, "alice"⟩]
  actions := ["tool.use"]
  resources := names.map (.mcpTool "office" "mail")

def officeLifetime : PolicyLifetime where
  anchor := ⟨.workspace "office", "workspace", "office"⟩
  notAfter := none
  uses := none

/-- An inactive condition on the tools of a Workspace. -/
def toolRule : PolicyStatement :=
  .permission
    { id := "tool-rule", author := ⟨.human, "alice"⟩, authority := .human "alice"
      authoredAt := "2026-01-01", scope := mailTools ["send"], lifetime := officeLifetime
      state := .inactive, effect := .requireApproval, grant := .ordinary }

/-- The author's own observation of those tools, of which it is shown some. -/
def toolWatch (shown : List String) (authoredAt : String) : PolicyBinding :=
  { id := "tool-watch", author := ⟨.human, "alice"⟩, authority := .human "alice"
    authoredAt := authoredAt, scope := mailTools ["send", "read", "list"]
    lifetime := officeLifetime, state := .active, operation := "mcp.call", stage := .completed
    mode := .observe, participant := ⟨.deterministic, "watcher", "v1"⟩
    inputDisclosure := mailTools shown, order := 0, timeoutMs := 100, failure := .continue
    circuit := ⟨1, 1⟩ }

def watchedDocument (shown : List String) (authoredAt : String) : PolicyDocument where
  statements := [.binding (toolWatch shown authoredAt), toolRule]
  uniqueIds := (by decide : ["tool-watch", "tool-rule"].Nodup)

variable {digest : PolicyDigest} {before after : List String} {earlier later : String}

theorem mailTools_contain (fewer : after ⊆ before) : policyScopeContains (toolEnvironment digest)
    (mailTools before) (mailTools after) = true := by
  simp only [policyScopeContains, mailTools, all_map, Bool.and_eq_true, all_eq_true]
  refine ⟨⟨by simp, by simp⟩, fun name mem => decide_eq_true ?_⟩
  exact mem_map_of_mem (mem_map_of_mem (fewer mem))

theorem toolRule_unchanged : unchangedVersion (toolEnvironment digest)
    (watchedDocument before earlier) toolRule = some toolRule := by
  unfold unchangedVersion
  rw [show (indexStatements (watchedDocument before earlier)).get? toolRule.id = some toolRule from
    rfl]
  simp [Option.filter]

theorem toolWatch_changed (injective : digest.Injective) (apart : after ≠ before) :
    unchangedVersion (toolEnvironment digest) (watchedDocument before earlier)
      (.binding (toolWatch after later)) = none := by
  refine Option.filter_eq_none_iff.mpr fun previous found same => apart ?_
  cases found
  have disclosed := injective.content (of_decide_eq_true same)
  have tools := congrArg (fun statement : PolicyStatement =>
    statement.asBinding.map (fun binding => binding.inputDisclosure.resources)) disclosed
  exact map_injective_iff.mpr (fun _ _ same => by cases same; rfl) (Option.some.inj tools)

theorem toolWatch_validated (known : after ⊆ ["send", "read", "list"]) :
    validatePolicyDocument (toolEnvironment digest) (watchedDocument after later).statements =
      .ok (watchedDocument after later) := by
  have valid : validateBinding (toolEnvironment digest) (toolWatch after later) = .ok () := by
    unfold validateBinding
    rw [show (toolWatch after later).scope = mailTools ["send", "read", "list"] from rfl,
      show (toolWatch after later).inputDisclosure = mailTools after from rfl,
      mailTools_contain known]
    rfl
  have passed : validateStatements (toolEnvironment digest)
      (watchedDocument after later).statements [] = .ok () := by
    unfold watchedDocument validateStatements
    rw [validateStatement, valid]
    rfl
  apply bind_eq_ok_iff.mpr
  refine ⟨watchedDocument after later, rfl, ?_⟩
  rw [passed]
  rfl

/-- The author may show the watcher less, in as many steps as they like. -/
theorem toolWatch_narrowing (injective : digest.Injective) (fewer : after ⊆ before)
    (apart : after ≠ before) (known : before ⊆ ["send", "read", "list"]) :
    PreparedNarrowing (toolEnvironment digest) (watchedDocument before earlier)
      (watchedDocument after later) := by
  have changed := @toolWatch_changed digest before after earlier later injective apart
  have kept := @toolRule_unchanged digest before earlier
  have touched : touchedStatements (toolEnvironment digest) (watchedDocument before earlier)
      (watchedDocument after later).statements = [.binding (toolWatch after later)] := by
    unfold touchedStatements
    rw [show (watchedDocument after later).statements =
      [.binding (toolWatch after later), toolRule] from rfl, filter_cons, filter_cons, changed, kept]
    rfl
  have added : addedIds (toolEnvironment digest) (watchedDocument before earlier)
      (watchedDocument after later).statements = [] := by
    rw [addedIds, touched]
    rfl
  have changes : changedIds (toolEnvironment digest) (watchedDocument before earlier)
      (watchedDocument after later).statements = ["tool-watch"] := by
    rw [changedIds, touched]
    rfl
  have stamped : preparedStatements (toolEnvironment digest) (watchedDocument before earlier)
      (watchedDocument after later).statements "alice" later =
        (watchedDocument after later).statements := by
    unfold preparedStatements
    rw [show (watchedDocument after later).statements =
      [.binding (toolWatch after later), toolRule] from rfl]
    simp only [map_cons, map_nil, prepareStatement, changed, kept]
    rfl
  have narrowed : isNarrowing (toolEnvironment digest) (watchedDocument before earlier)
      (watchedDocument after later) ⟨[], ["tool-watch"], []⟩ "alice" = true := by
    have shown : isNarrowedBinding (toolEnvironment digest) (toolWatch before earlier)
        (toolWatch after later) "alice" = true := by
      simp only [isNarrowedBinding, Bool.and_eq_true, Bool.or_eq_true, decide_eq_true_eq]
      exact ⟨⟨⟨⟨⟨⟨⟨⟨⟨rfl, rfl⟩, .inl rfl⟩, rfl⟩, rfl⟩, rfl⟩, rfl⟩, rfl⟩,
        mailTools_contain (Subset.refl _)⟩, mailTools_contain fewer⟩
    exact (Bool.and_true _).trans shown
  refine ⟨(watchedDocument after later).statements, "alice", later, ⟨[], ["tool-watch"], []⟩, ?_⟩
  apply bind_eq_ok_iff.mpr
  refine ⟨watchedDocument after later, rfl, ?_⟩
  dsimp only
  rw [added, changes, stamped, toolWatch_validated (Subset.trans fewer known)]
  refine congrArg (fun cls => Except.ok (PreparedPolicy.mk (watchedDocument after later)
    ⟨[], ["tool-watch"], []⟩ cls)) ?_
  exact if_pos narrowed

/-- The call that the watcher sees completed. -/
def sendProposal : PolicyProposal where
  operation := "mcp.call"
  workspaceId := some "office"
  resource := .mcpTool "office" "mail" "send"
  inputReferences := []
  inputAttributes := []
  capabilityCallId := none
  subject := ⟨⟨.human, "alice"⟩, none, ⟨.user, "alice", none⟩, none, .session, "alice"⟩

def steadyCurrency : Currency := ⟨0, fun _ => true, fun _ => true⟩

theorem toolWatch_selected (shown : List String) (authoredAt : String) :
    selectPolicyBindings (toolEnvironment digest) (watchedDocument shown authoredAt) sendProposal
      (some .completed) steadyCurrency = .ok [toolWatch shown authoredAt] := by
  have included : policyScopeIncludesProposal (toolEnvironment digest)
      (toolWatch shown authoredAt).scope sendProposal = .ok true := by
    simp [policyScopeIncludesProposal, toolWatch, mailTools, sendProposal, toolEnvironment,
      policyOperationDefinition, resourceOwned, policyResourceWorkspace]
  have selects : selectsBinding (toolEnvironment digest) sendProposal (some .completed)
      steadyCurrency (toolWatch shown authoredAt) = .ok true := included
  simp [selectPolicyBindings, watchedDocument, collect, selectStatement, selects, toolRule]

/-- The watcher that is shown less is selected, and it was selected before. -/
theorem narrowedWatch_narrows :
    selectPolicyBindings (toolEnvironment textDigest) (watchedDocument ["send"] "2026-01-02")
        sendProposal (some .completed) steadyCurrency = .ok [toolWatch ["send"] "2026-01-02"] /\
      ∃ selectedBefore, selectPolicyBindings (toolEnvironment textDigest)
          (watchedDocument ["send", "read"] "2026-01-01") sendProposal (some .completed)
          steadyCurrency = .ok selectedBefore /\
        ∃ before ∈ selectedBefore, NarrowsTo before (toolWatch ["send"] "2026-01-02") := by
  rcases @toolWatch_narrowing textDigest ["send", "read"] ["send"] "2026-01-01" "2026-01-02"
    textDigest_injective (by simp) (by simp) (by simp) with ⟨_, _, _, _, prepared⟩
  have facts := ((@preparePolicyDocument_narrows (toolEnvironment textDigest) textDigest_injective
    _ _ _ _ _ prepared).1 rfl).1
  exact ⟨toolWatch_selected _ _, facts _ _ _ _ (toolWatch_selected _ _) _ (mem_singleton_self _)⟩

end Policy
end OpenKit
