import OpenKit.ExecutionJournal.Model

namespace OpenKit
namespace ExecutionJournal

open Foundation Writes Option

/-!
# What one call can do

A call leaves the journal as it was, begins one step, or settles one step.
The three cases are said here once, in terms of the rows before and after; what
follows about whole histories uses only these effects and never the code of the
two writers.
-/

variable {db next : Journal}

namespace Journal

/-! ## The effects -/

/-- One step begins on a root that was there or is created with it. -/
structure Began (before after : Journal) (root : ExecutionRow) (row : StepRow) : Prop where
  source : before.execution? root.id = some root \/
    (before.execution? root.id = none /\ root.revision = 1)
  writable : root.phase ≠ .closed
  unused : before.step? row.executionId row.stepId = none
  owned : row.executionId = root.id
  intent : row.state = .intent
  ordinal : row.ordinal = before.lastOrdinal root.id + 1
  scope : after.scope = before.scope
  executions : ∀ id, after.execution? id =
    if id = root.id then some (nextRevision root) else before.execution? id
  steps : after.steps.rows = before.steps.rows ++ [row]

/-- A completed release in Workspace scope with one output, while every unknown
step has a completed cleanup inspection with the same output. -/
structure QualifiedRelease (db : Journal) (input : ExecutionJournalSettlement) : Prop where
  workspace : db.scope ≠ .core
  completed : input.state = .completed
  output : ∃ output, input.outputRefs = [output]
  release : ∃ row, db.step? input.ref.execution.executionId input.ref.stepId = some row /\
    (row.control.kind = .release \/
      (row.control.kind = .inspectCleanup /\
        ∃ stepId released, row.inspectedExecutionId = some input.ref.execution.executionId /\
          row.inspectedStepId = some stepId /\
          db.step? input.ref.execution.executionId stepId = some released /\
          released.state = .ended .completed /\ released.control.kind = .release /\
          released.control.outputRefs = input.outputRefs))
  inspected : ∀ unknown ∈ db.stepsOf input.ref.execution.executionId,
    unknown.state = .ended .unknown ->
      ∃ proof ∈ db.stepsOf input.ref.execution.executionId,
        proof.inspectedExecutionId = some input.ref.execution.executionId /\
          proof.inspectedStepId = some unknown.stepId /\ proof.state = .ended .completed /\
          proof.control.kind = .inspectCleanup /\ proof.control.outputRefs = input.outputRefs

/-- One open step of an open root is settled. -/
structure Settled (before after : Journal) (input : ExecutionJournalSettlement)
    (root : ExecutionRow) (row : StepRow) : Prop where
  located : before.execution? input.ref.execution.executionId = some root
  locatedStep : before.step? input.ref.execution.executionId input.ref.stepId = some row
  intent : row.state = .intent
  writable : root.phase ≠ .closed
  ended : input.span.endTimeUnixNano ≠ none
  closes : input.nextPhase = .closed ->
    (∀ other ∈ before.stepsOf input.ref.execution.executionId, other.state = .intent ->
      other.stepId = input.ref.stepId) /\ input.exclusionRefs = [] /\ input.state ≠ .unknown
  excludes : (input.state = .unknown \/
      ∃ unknown ∈ before.stepsOf input.ref.execution.executionId,
        unknown.state = .ended .unknown) ->
    before.QualifiedRelease input \/
      (input.nextPhase ≠ .closed /\ root.exclusionRefs ⊆ input.exclusionRefs)
  scope : after.scope = before.scope
  executions : ∀ id, after.execution? id =
    if id = input.ref.execution.executionId then some (advancedRoot input root)
    else before.execution? id
  steps : after.steps.rows = before.steps.rows.map
    (fun other => if other.key = row.key then settledStep input other else other)

end Journal

open Journal

inductive JournalEffect (call : JournalCall) (before after : Journal) : Prop where
  | kept (same : after = before)
  | began (root : ExecutionRow) (row : StepRow) (named : root.id = call.executionId)
      (began : Began before after root row)
  | settled (input : ExecutionJournalSettlement) (named : call = .settle input)
      (root : ExecutionRow) (row : StepRow) (settled : Settled before after input root row)

/-! ## Writes to the tables -/

namespace Journal

variable {key : String}

/-- A conditional update of a root that has the expected revision. -/
theorem execution?_updateRoot {root : ExecutionRow} {write : ExecutionRow -> ExecutionRow}
    {keeps : ∀ row, (write row).id = row.id} (hit : db.execution? executionId = some root)
    (id : String) : (db.updateRoot executionId root.revision write keeps).execution? id =
      if id = executionId then some (write root) else db.execution? id := by
  unfold updateRoot execution?
  rw [Table.find?_updateWhere]
  split
  next same =>
    have found : db.executions.find? executionId = some root := hit
    rw [same, found, map_some, Table.keyOf_of_find? found]
    simp
  next other =>
    cases found : db.executions.find? id with
    | none => rfl
    | some =>
      have key := Table.keyOf_of_find? found
      rw [map_some]
      simp [key, other]

/-- The root of an admitted execution is the retained one or a new one. -/
theorem admitRoot_ok {admission : ExecutionJournalAdmission}
    (admitted : admitRoot admission db = .ok next) : next.scope = db.scope /\ next.steps = db.steps /\
      (∃ root, next.execution? admission.ref.executionId = some root /\
        (db.execution? admission.ref.executionId = some root \/
          (db.execution? admission.ref.executionId = none /\ root.revision = 1))) /\
      ∀ id, id ≠ admission.ref.executionId -> next.execution? id = db.execution? id := by
  unfold admitRoot at admitted
  split at admitted
  next present =>
    rcases isSome_iff_exists.mp present with ⟨root, hit⟩
    rw [<- Except.ok.inj admitted]
    exact ⟨rfl, rfl, ⟨root, hit, .inl hit⟩, fun _ _ => rfl⟩
  next missing =>
    have absent : db.execution? admission.ref.executionId = none := by simpa using missing
    simp only [bind_eq_ok_iff, parse_eq_ok_iff, exists_and_left, exists_const] at admitted
    rw [<- Except.ok.inj admitted.2]
    refine ⟨rfl, rfl, ⟨admission.newRoot, ?_, .inr ⟨absent, rfl⟩⟩, ?_⟩
    · unfold execution? at absent ⊢
      rw [Table.find?_insert, absent]
      simp [ExecutionJournalAdmission.newRoot]
    · intro id other
      unfold execution?
      rw [Table.find?_insert]
      have differs : admission.newRoot.id ≠ id := Ne.symm other
      rw [if_neg differs, or_none]

/-- A root that admits a step is not closed. -/
theorem requireRoot_ok {input : ExecutionJournalIntent} {root : ExecutionJournalExecution}
    (required : db.requireRoot input = .ok root) :
    ∃ row, db.execution? input.execution.ref.executionId = some row /\ row.phase ≠ .closed /\
      root.revision = row.revision := by
  unfold requireRoot at required
  simp only [bind_eq_ok_iff, conflictIf_eq_ok_iff, exists_and_left, Bool.or_eq_false_iff,
    decide_eq_false_iff_not] at required
  rcases required with ⟨read, readRoot, ⟨⟨⟨⟨⟨⟨⟨writable, _⟩, _⟩, _⟩, _⟩, _⟩, _⟩, _⟩, _, _, _, _, _,
    _, _, shown⟩
  rcases readRoot_ok readRoot with ⟨row, hit, same, _⟩
  rw [<- Except.ok.inj shown]
  subst same
  exact ⟨row, hit, writable, rfl⟩

variable {row : StepRow}

theorem newStep_ok {clock : ProcessClock} {witness : Option String} {input : ExecutionJournalIntent}
    (built : db.newStep clock witness input = .ok row) :
    row.executionId = input.execution.ref.executionId /\ row.stepId = input.stepId /\
      row.state = .intent /\ row.ordinal = db.lastOrdinal input.execution.ref.executionId + 1 := by
  unfold newStep at built
  simp only [bind_eq_ok_iff, parse_eq_ok_iff, exists_and_left, exists_const] at built
  rw [<- Except.ok.inj built.2.2]
  exact ⟨rfl, rfl, rfl, rfl⟩

theorem insertStep_ok (inserted : insertStep row db = .ok next) :
    next = { db with steps := db.steps.insert row } := by
  unfold insertStep at inserted
  simp only [bind_eq_ok_iff, refuse_eq_ok_iff, exists_and_left, exists_const] at inserted
  exact (Except.ok.inj inserted.2).symm

theorem advanceRevision_ok {revision : Nat}
    (advanced : advanceRevision key revision db = .ok next) :
    next = db.updateRoot key revision nextRevision (fun _ => rfl) := by
  unfold advanceRevision at advanced
  simp only [bind_eq_ok_iff, refuse_eq_ok_iff, exists_and_left, exists_const] at advanced
  exact (Except.ok.inj advanced.2).symm

variable {input : ExecutionJournalSettlement}

theorem endStep_ok (ended : endStep input db = .ok next) : next = { db with
      steps := db.steps.updateWhere
        (fun row => row.key = (input.ref.execution.executionId, input.ref.stepId) &&
          row.state = .intent) (settledStep input) (fun _ => rfl) } := by
  unfold endStep at ended
  simp only [bind_eq_ok_iff, conflictIf_eq_ok_iff, exists_and_left, exists_const] at ended
  exact (Except.ok.inj ended.2).symm

theorem advanceRoot_ok (advanced : advanceRoot input db = .ok next) :
    ∃ root, db.execution? input.ref.execution.executionId = some root /\
      next = db.updateRoot input.ref.execution.executionId root.revision (advancedRoot input)
        (fun _ => rfl) := by
  unfold advanceRoot at advanced
  simp only [bind_eq_ok_iff, parse_eq_ok_iff, conflictIf_eq_ok_iff, refuse_eq_ok_iff,
    exists_and_left, exists_const, decide_eq_false_iff_not, ne_eq, Decidable.not_not] at advanced
  rcases advanced with ⟨root, found, _, expected, _, wrote⟩
  refine ⟨root, ?_, ?_⟩
  · cases hit : db.execution? input.ref.execution.executionId with
    | none =>
      rw [hit] at found
      cases found
    | some =>
      rw [hit] at found
      exact congrArg some (Except.ok.inj found)
  · rw [expected]
    exact (Except.ok.inj wrote).symm

/-! ## The checks of a settlement -/

variable {outputRefs : List String} {inspected : Option StoredStep} {owner : WorkOwner}

theorem mem_stepsOf : row ∈ db.stepsOf key <-> row ∈ db.steps.rows /\ row.executionId = key := by
  simp [stepsOf]

private theorem unknownsInspected_ok {ref : ExecutionJournalRef}
    (passed : db.unknownsInspected ref outputRefs = .ok true) :
    ∀ unknown ∈ db.stepsOf ref.executionId, unknown.state = .ended .unknown ->
      ∃ proof ∈ db.stepsOf ref.executionId, proof.inspectedExecutionId = some ref.executionId /\
        proof.inspectedStepId = some unknown.stepId /\ proof.state = .ended .completed /\
        proof.control.kind = .inspectCleanup /\ proof.control.outputRefs = outputRefs := by
  intro unknown mem isUnknown
  have listed : unknown ∈ db.unknownSteps ref.executionId := by
    simpa [unknownSteps, isUnknown] using mem
  rcases of_anyM_eq_ok_true (of_allM_eq_ok_true passed unknown listed) with ⟨proof, listedProof, tested⟩
  simp only [bind_eq_ok_iff] at tested
  rcases tested with ⟨observed, read, holds⟩
  have agrees := Except.ok.inj holds
  simp only [Bool.and_eq_true, decide_eq_true_eq] at agrees
  simp only [proofsOf, List.mem_filter, Bool.and_eq_true, decide_eq_true_eq] at listedProof
  rcases listedProof with ⟨memberProof, ⟨inspectedExecution, inspectedStep⟩, completed⟩
  -- The stored step is the listed proof: both have its key.
  have found := Table.find?_of_mem (mem_stepsOf.mp memberProof).1
  have key : proof.key = (ref.executionId, proof.stepId) := by
    rw [StepRow.key, (mem_stepsOf.mp memberProof).2]
  have readRow : db.steps.find? (ref.executionId, proof.stepId) = some observed.row :=
    (storedStep_ok read).2.1
  rw [key, readRow] at found
  have same := some.inj found
  rw [same] at agrees
  exact ⟨proof, memberProof, inspectedExecution, inspectedStep, completed, agrees.1, agrees.2⟩

private theorem releaseProof_true (read : db.inspectedOf owner row = .ok inspected)
    (proved : releaseProof row inspected key outputRefs) : row.control.kind = .release \/
      (row.control.kind = .inspectCleanup /\
        ∃ stepId released, row.inspectedExecutionId = some key /\
          row.inspectedStepId = some stepId /\ db.step? key stepId = some released /\
          released.state = .ended .completed /\ released.control.kind = .release /\
          released.control.outputRefs = outputRefs) := by
  unfold releaseProof at proved
  simp only [Bool.or_eq_true, Bool.and_eq_true, decide_eq_true_eq] at proved
  rcases proved with release | ⟨⟨report, sameExecution⟩, released⟩
  · exact .inl release
  rcases (any_eq_true _ _).mp released with ⟨stored, shown, holds⟩
  simp only [Bool.and_eq_true, decide_eq_true_eq] at holds
  unfold inspectedOf at read
  rw [sameExecution] at read
  cases step : row.inspectedStepId with
  | none =>
    rw [step] at read
    rw [shown] at read
    cases read
  | some stepId =>
    rw [step] at read
    cases readStep : db.storedStep ⟨⟨owner, key⟩, stepId⟩ with
    | error =>
      simp only [readStep] at read
      cases read
    | ok found =>
      simp only [readStep] at read
      have same : found = stored := by
        rw [shown] at read
        exact some.inj (Except.ok.inj read)
      have hit := (storedStep_ok readStep).2.1
      rw [same] at hit
      exact .inr ⟨report, stepId, stored.row, sameExecution, rfl, hit,
        holds.1.1, holds.1.2, holds.2⟩

private theorem qualifiedRelease_true
    (hit : db.step? input.ref.execution.executionId input.ref.stepId = some row)
    (read : db.inspectedOf owner row = .ok inspected)
    (qualified : db.qualifiedRelease input row inspected = .ok true) :
    db.QualifiedRelease input := by
  unfold qualifiedRelease at qualified
  simp only at qualified
  split at qualified
  next tested =>
    rcases tested with ⟨workspace, proved, completed, single⟩
    exact {
      workspace := workspace, completed := completed, output := List.length_eq_one_iff.mp single
      release := ⟨row, hit, releaseProof_true read proved⟩
      inspected := unknownsInspected_ok qualified }
  · cases qualified

/-- What a checked settlement may rely on. -/
theorem checkSettlement_ok {stored : StoredStep} (checked : db.checkSettlement input = .ok stored) :
    ∃ root row, db.execution? input.ref.execution.executionId = some root /\
      db.step? input.ref.execution.executionId input.ref.stepId = some row /\
      row.state = .intent /\ root.phase ≠ .closed /\ input.span.endTimeUnixNano ≠ none /\
      (input.nextPhase = .closed ->
        (∀ other ∈ db.stepsOf input.ref.execution.executionId, other.state = .intent ->
          other.stepId = input.ref.stepId) /\ input.exclusionRefs = [] /\ input.state ≠ .unknown) /\
      ((input.state = .unknown \/ ∃ unknown ∈ db.stepsOf input.ref.execution.executionId,
          unknown.state = .ended .unknown) -> db.QualifiedRelease input \/
          (input.nextPhase ≠ .closed /\ root.exclusionRefs ⊆ input.exclusionRefs)) := by
  unfold checkSettlement at checked
  simp only [bind_eq_ok_iff, parse_eq_ok_iff, conflictIf_eq_ok_iff, exists_and_left,
    exists_const] at checked
  rcases checked with ⟨_, _, read, readStep, _, stale, _, _, _, inspected, readInspected, qualified,
    tested, retains, closes, _⟩
  rcases storedStep_ok readStep with ⟨readRoot, hit, _⟩
  rcases readRoot_ok readRoot with ⟨root, locatedRoot, shown, _⟩
  simp only [Bool.or_eq_false_iff, decide_eq_false_iff_not, ne_eq, Decidable.not_not,
    isNone_eq_false_iff] at stale
  rcases stale with ⟨⟨⟨⟨intent, _⟩, writable⟩, ended⟩, _⟩
  refine ⟨root, read.row, locatedRoot, hit, intent, ?_, ?_, ?_, ?_⟩
  · rw [shown] at writable
    exact writable
  · exact isSome_iff_ne_none.mp ended
  · intro closed
    simp only [closed, decide_true, Bool.true_and, Bool.or_eq_false_iff, Bool.not_eq_eq_eq_not,
      Bool.not_false, List.isEmpty_iff, decide_eq_false_iff_not] at closes
    rcases closes with ⟨⟨noOther, empty⟩, known⟩
    refine ⟨?_, empty, known⟩
    intro other mem isIntent
    by_contra differs
    have listed : (⟨input.ref.execution, other.stepId⟩ : ExecutionStepRef) ∈ read.root.openSteps := by
      rw [shown]
      apply List.mem_map.mpr
      exact ⟨other, List.mem_mergeSort.mpr (List.mem_filter.mpr ⟨mem, by simpa using isIntent⟩),
        rfl⟩
    have refused := List.any_eq_false.mp noOther _ listed
    simp [differs] at refused
  · intro hasUnknown
    cases qualified with
    | true => exact .inl (qualifiedRelease_true hit readInspected tested)
    | false =>
      apply Or.inr
      have unknown : (input.state = .unknown ||
          !(db.unknownSteps input.ref.execution.executionId).isEmpty) := by
        rcases hasUnknown with here | ⟨unknown, mem, isUnknown⟩
        · simp [here]
        · have listed : unknown ∈ db.unknownSteps input.ref.execution.executionId := by
            simpa [unknownSteps, isUnknown] using mem
          have nonempty := List.ne_nil_of_mem listed
          simp [nonempty]
      rw [unknown] at retains
      simp only [Bool.not_false, Bool.and_self, Bool.true_and, Bool.or_eq_false_iff,
        decide_eq_false_iff_not] at retains
      refine ⟨retains.1, ?_⟩
      intro ref mem
      have kept : ref ∈ read.root.exclusionRefs := by
        rw [shown]
        exact mem
      have refused := List.any_eq_false.mp retains.2 ref kept
      simpa using refused

end Journal

/-! ## The calls -/

variable {clock : ProcessClock} {witness : Option String} {input : ExecutionJournalIntent}
  {call : ExecutionInvocation}

/-- An intent whose step exists answers from the journal. -/
theorem writeIntent_repeat (present : db.step? input.execution.ref.executionId input.stepId ≠ none)
    (wrote : writeExecutionJournalIntent clock witness input db = (.ok call, next)) :
    next = db /\ db.repeatIntent clock input = .ok call := by
  rcases bind_ok wrote with ⟨_, middle, checked, rest⟩
  rcases query_ok checked with ⟨_, same⟩
  rw [same, if_pos (isSome_iff_ne_none.mpr present)] at rest
  rcases query_ok rest with ⟨answered, still⟩
  exact ⟨still, answered⟩

/-- An intent whose step is new begins it. -/
theorem writeIntent_began (absent : db.step? input.execution.ref.executionId input.stepId = none)
    (wrote : writeExecutionJournalIntent clock witness input db = (.ok call, next)) :
    ∃ root row, root.id = input.execution.ref.executionId /\ Began db next root row := by
  rcases bind_ok wrote with ⟨_, checked, checks, afterCheck⟩
  have checkedEq := (query_ok checks).2
  rw [checkedEq, if_neg (by simp [absent])] at afterCheck
  rcases bind_ok afterCheck with ⟨_, admitted, admits, afterAdmit⟩
  rcases admitRoot_ok (update_ok admits) with ⟨scope, steps, ⟨root, hit, source⟩, others⟩
  rcases bind_ok afterAdmit with ⟨read, required, requires, afterRequire⟩
  have requiredEq := (query_ok requires).2
  rw [requiredEq] at afterRequire
  rcases requireRoot_ok (query_ok requires).1 with ⟨other, locatedOther, writable, revision⟩
  have sameRoot : other = root := some.inj (locatedOther.symm.trans hit)
  rw [sameRoot] at writable revision
  rcases bind_ok afterRequire with ⟨row, built, builds, afterBuild⟩
  have builtEq := (query_ok builds).2
  rw [builtEq] at afterBuild
  rcases newStep_ok (query_ok builds).1 with ⟨key, stepId, intent, ordinal⟩
  rcases bind_ok afterBuild with ⟨_, inserted, inserts, afterInsert⟩
  have insertedEq := insertStep_ok (update_ok inserts)
  rcases bind_ok afterInsert with ⟨_, advanced, advances, afterAdvance⟩
  have advancedEq := advanceRevision_ok (update_ok advances)
  rw [(query_ok afterAdvance).2]
  have id : root.id = input.execution.ref.executionId := Table.keyOf_of_find? hit
  have unused : db.step? row.executionId row.stepId = none := by
    rw [key, stepId]
    exact absent
  have free : admitted.steps.find? row.key = none := by
    rw [steps]
    exact unused
  refine ⟨root, row, id, ?_⟩
  exact {
    source := by
      rw [id]
      exact source
    writable := writable, unused := unused
    owned := by rw [key, id]
    intent := intent
    ordinal := by
      rw [ordinal, id]
      unfold lastOrdinal stepsOf
      rw [steps]
    scope := by
      rw [advancedEq, insertedEq]
      exact scope
    executions := by
      intro name
      have locatedInserted : inserted.execution? input.execution.ref.executionId = some root := by
        rw [insertedEq]
        exact hit
      rw [advancedEq, revision, id]
      refine (execution?_updateRoot locatedInserted name).trans ?_
      split
      · rfl
      next other =>
        rw [insertedEq]
        exact others name other
    steps := by
      have rows := Table.rows_insert free
      rw [advancedEq, insertedEq]
      exact rows.trans (by rw [steps]) }

theorem settleStep_settled {input : ExecutionJournalSettlement} {ended : EndedExecutionStep}
    (wrote : settleExecutionJournalStep input db = (.ok ended, next)) :
    ∃ root row, Settled db next input root row := by
  rcases bind_ok wrote with ⟨_, checked, checks, afterCheck⟩
  have checkedEq := (query_ok checks).2
  rw [checkedEq] at afterCheck
  rcases checkSettlement_ok (query_ok checks).1 with
    ⟨root, row, hit, locatedRow, intent, writable, endsSpan, closes, excludes⟩
  rcases bind_ok afterCheck with ⟨_, settled, ends, afterEnd⟩
  have settledEq := endStep_ok (update_ok ends)
  rcases bind_ok afterEnd with ⟨_, advanced, advances, afterAdvance⟩
  rcases advanceRoot_ok (update_ok advances) with ⟨other, locatedOther, advancedEq⟩
  rw [(query_ok afterAdvance).2]
  have sameRoot : other = root := by
    have before : settled.execution? input.ref.execution.executionId = some root := by
      rw [settledEq]
      exact hit
    exact some.inj (locatedOther.symm.trans before)
  rw [sameRoot] at locatedOther advancedEq
  refine ⟨root, row, ?_⟩
  exact {
    located := hit, locatedStep := locatedRow, intent := intent, writable := writable
    ended := endsSpan, closes := closes, excludes := excludes
    scope := by rw [advancedEq, settledEq]; rfl
    executions := by
      intro name
      rw [advancedEq]
      refine (execution?_updateRoot locatedOther name).trans ?_
      split
      · rfl
      · rw [settledEq]
        rfl
    steps := by
      rw [advancedEq, settledEq]
      apply List.map_congr_left
      intro entry mem
      have key : row.key = (input.ref.execution.executionId, input.ref.stepId) :=
        Table.keyOf_of_find? locatedRow
      by_cases same : entry.key = row.key
      · have found := Table.find?_of_mem mem
        have isRow : entry = row := by
          rw [same, key] at found
          exact some.inj (found.symm.trans locatedRow)
        simp [isRow, key, intent]
      · rw [key] at same
        simp [same, key] }

theorem applyCall_effect (call : JournalCall) (db : Journal) :
    JournalEffect call db (applyCall call db) := by
  cases call with
  | intent input clock witness =>
    rcases ran : atomically (writeExecutionJournalIntent clock witness input) db with
      ⟨result, final⟩
    have reached : applyCall (.intent input clock witness) db = final := by
      simp [applyCall, ran]
    rw [reached]
    cases result with
    | error => exact .kept (atomically_error ran)
    | ok =>
      have wrote := atomically_ok ran
      by_cases absent : db.step? input.execution.ref.executionId input.stepId = none
      · rcases writeIntent_began absent wrote with ⟨root, row, named, began⟩
        exact .began root row named began
      · exact .kept (writeIntent_repeat absent wrote).1
  | settle input =>
    rcases ran : atomically (settleExecutionJournalStep input) db with ⟨result, final⟩
    have reached : applyCall (.settle input) db = final := by
      simp [applyCall, ran]
    rw [reached]
    cases result with
    | error => exact .kept (atomically_error ran)
    | ok =>
      rcases settleStep_settled (atomically_ok ran) with ⟨root, row, settled⟩
      exact .settled input rfl root row settled

end ExecutionJournal
end OpenKit
