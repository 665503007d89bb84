import OpenKit.ExecutionJournal.Effects

namespace OpenKit
namespace ExecutionJournal

open Foundation Journal Table List ExecutionJournal StepRow

/-!
# The journal's history is append-only

`Coherent` ties the root of an execution to its steps: the ordinals count the
steps in creation order, the revision counts the mutations, and a closed root
has nothing left open.  The three effects keep it, so it holds after every
history.  What has ended stays: no effect touches an ended step or a closed root.
-/

variable {root : ExecutionRow} {row : StepRow}

/-- What holds of the journal after every history. -/
structure Coherent (db : Journal) : Prop where
  rooted : ∀ row ∈ db.steps.rows, db.execution? row.executionId ≠ none
  ordinals : ∀ id, (db.stepsOf id).map ordinal = List.range' 1 (db.stepsOf id).length
  closed : ∀ id root, db.execution? id = some root -> root.phase = .closed ->
    (∀ row ∈ db.stepsOf id, row.state ≠ .intent) /\ root.exclusionRefs = [] /\
      root.span.endTimeUnixNano ≠ none
  revision : ∀ id root, db.execution? id = some root ->
    root.revision = 1 + (db.stepsOf id).length +
      (db.stepsOf id).countP (·.state ≠ .intent)

variable {db next : Journal} {call : JournalCall}

theorem coherent_empty (scope : JournalScope) : Coherent (.empty scope) where
  rooted := by
    intro row never
    cases never
  ordinals := fun _ => rfl
  closed := by
    intro id root never
    cases never
  revision := by
    intro id root never
    cases never

/-! ## A step that begins -/

section Began

theorem Journal.Began.stepsOf (began : Began db next root row) (id : String) :
    next.stepsOf id = db.stepsOf id ++ (if id = root.id then [row] else []) := by
  unfold Journal.stepsOf
  rw [began.steps, filter_append]
  congr 1
  by_cases same : id = root.id
  · simp [same, began.owned]
  · have differs : row.executionId ≠ id := by
      rw [began.owned]
      exact Ne.symm same
    simp [same, differs]

/-- A new root has no steps. -/
theorem Coherent.stepsOf_eq_nil (coherent : Coherent db) {id : String}
    (absent : db.execution? id = none) : db.stepsOf id = [] := by
  rw [eq_nil_iff_forall_not_mem]
  intro row mem
  rcases mem_stepsOf.mp mem with ⟨stored, sameId⟩
  have present := coherent.rooted row stored
  rw [sameId] at present
  exact present absent

private theorem foldl_max_range' (length : Nat) : (List.range' 1 length).foldl max 0 = length := by
  induction length with
  | zero => rfl
  | succ length ih =>
    rw [range'_1_concat, foldl_append, ih]
    simp [Nat.add_comm]

theorem Coherent.lastOrdinal (coherent : Coherent db) (id : String) :
    db.lastOrdinal id = (db.stepsOf id).length := by
  unfold Journal.lastOrdinal
  rw [coherent.ordinals id, foldl_max_range']

theorem Coherent.began (coherent : Coherent db) (began : Began db next root row) :
    Coherent next where
  rooted := by
    intro entry mem
    rw [began.executions]
    split
    · exact Option.some_ne_none _
    rename_i other
    rw [began.steps] at mem
    rcases mem_append.mp mem with old | new
    · exact coherent.rooted entry old
    · rw [mem_singleton] at new
      rw [new, began.owned] at other
      exact absurd rfl other
  ordinals := by
    intro id
    rw [began.stepsOf]
    split
    next same =>
      have ordinal := began.ordinal
      rw [coherent.lastOrdinal] at ordinal
      rw [map_append, coherent.ordinals id, length_append, map_singleton, ordinal,
        same, length_singleton, range'_1_concat, Nat.add_comm]
    · rw [append_nil]
      exact coherent.ordinals id
  closed := by
    intro id entry hit closed
    rw [began.executions] at hit
    split at hit
    · cases hit
      exact absurd closed began.writable
    next other =>
      rw [began.stepsOf, if_neg other, append_nil]
      exact coherent.closed id entry hit closed
  revision := by
    intro id entry hit
    rw [began.executions] at hit
    rw [began.stepsOf]
    split at hit
    next same =>
      cases hit
      have notEnded : [row].countP (·.state ≠ .intent) = 0 := by
        simp [began.intent]
      rw [if_pos same, length_append, countP_append, notEnded, same]
      rcases began.source with retained | ⟨absent, first⟩
      · have before := coherent.revision root.id root retained
        simp only [nextRevision, length_singleton]
        omega
      · rw [coherent.stepsOf_eq_nil absent]
        simp [nextRevision, first]
    next other =>
      rw [if_neg other, append_nil]
      exact coherent.revision id entry hit

end Began

/-! ## A step that is settled -/

section Settled

variable {input : ExecutionJournalSettlement}

section

variable (settled : Settled db next input root row)

include settled

theorem Journal.Settled.stepsOf (id : String) : next.stepsOf id = (db.stepsOf id).map
      (fun other => if other.key = row.key then settledStep input other else other) := by
  unfold Journal.stepsOf
  rw [settled.steps, filter_map]
  congr 1
  apply filter_congr
  intro other _
  simp only [Function.comp_apply]
  split
  · rfl
  · rfl

private theorem Settled.key : row.key = (input.ref.execution.executionId, input.ref.stepId) :=
  keyOf_of_find? settled.locatedStep

theorem Journal.Settled.stepsOf_of_ne {id : String}
    (other : id ≠ input.ref.execution.executionId) : next.stepsOf id = db.stepsOf id := by
  rw [settled.stepsOf]
  refine (map_congr_left ?_).trans (map_id _)
  intro entry mem
  rw [if_neg, id_eq]
  intro same
  have key := congrArg Prod.fst (same.trans (Settled.key settled))
  exact other ((mem_stepsOf.mp mem).2.symm.trans key)

theorem Journal.Settled.mem_stepsOf : row ∈ db.stepsOf input.ref.execution.executionId := by
  apply Journal.mem_stepsOf.mpr
  exact ⟨mem_of_find? settled.locatedStep, congrArg Prod.fst (Settled.key settled)⟩

theorem Journal.Settled.countP_ended :
    (next.stepsOf input.ref.execution.executionId).countP (·.state ≠ .intent) =
      (db.stepsOf input.ref.execution.executionId).countP (·.state ≠ .intent) + 1 := by
  have unique : ((db.stepsOf input.ref.execution.executionId).map key).Nodup :=
    db.steps.unique.sublist (filter_sublist.map _)
  have counted := countP_map_key unique
    settled.mem_stepsOf (settledStep input) (·.state ≠ .intent)
  rw [<- settled.stepsOf] at counted
  simpa [settled.intent, settledStep] using counted

end

theorem Coherent.settled (coherent : Coherent db) (settled : Settled db next input root row) :
    Coherent next where
  rooted := by
    intro entry mem
    rw [settled.executions]
    split
    · exact Option.some_ne_none _
    rw [settled.steps] at mem
    rcases mem_map.mp mem with ⟨old, stored, same⟩
    have sameId : entry.executionId = old.executionId := by
      rw [<- same]
      split
      · rfl
      · rfl
    rw [sameId]
    exact coherent.rooted old stored
  ordinals := by
    intro id
    rw [settled.stepsOf, length_map, map_map, <- coherent.ordinals id]
    apply map_congr_left
    intro entry _
    simp only [Function.comp_apply]
    split
    · rfl
    · rfl
  closed := by
    intro id entry hit closed
    rw [settled.executions] at hit
    split at hit
    next same =>
      cases hit
      have closes : input.nextPhase = .closed := closed
      rcases settled.closes closes with ⟨noOther, empty, _⟩
      refine ⟨?_, empty, ?_⟩
      · intro after mem
        rw [same, settled.stepsOf] at mem
        rcases mem_map.mp mem with ⟨old, stored, changed⟩
        rw [<- changed]
        split
        · simp [settledStep]
        rename_i differs
        intro isIntent
        apply differs
        rw [Settled.key settled, key, (Journal.mem_stepsOf.mp stored).2,
          noOther old stored isIntent]
      · have ended := settled.ended
        simpa [advancedRoot, closes] using ended
    next other =>
      rw [settled.stepsOf_of_ne other]
      exact coherent.closed id entry hit closed
  revision := by
    intro id entry hit
    rw [settled.executions] at hit
    split at hit
    next same =>
      cases hit
      have before := coherent.revision _ root settled.located
      have counted := settled.countP_ended
      have length : (next.stepsOf input.ref.execution.executionId).length =
          (db.stepsOf input.ref.execution.executionId).length := by
        rw [settled.stepsOf, length_map]
      rw [same, length, counted]
      simp only [advancedRoot]
      omega
    next other =>
      rw [settled.stepsOf_of_ne other]
      exact coherent.revision id entry hit

end Settled

/-! ## Histories -/

variable {id : String}

theorem Coherent.applyCall (coherent : Coherent db) (call : JournalCall) :
    Coherent (applyCall call db) := by
  cases applyCall_effect call db with
  | kept same =>
    rw [same]
    exact coherent
  | began root row _ began => exact coherent.began began
  | settled input _ root row settled => exact coherent.settled settled

/-- Every history leaves a coherent journal. -/
theorem coherent_journalAfter (scope : JournalScope) (calls : List JournalCall) :
    Coherent (journalAfter scope calls) :=
  runCalls_invariant Coherent (fun call _ _ coherent => coherent.applyCall call)
    (coherent_empty scope)

/-- An ended step is never touched again. -/
theorem step?_applyCall {executionId stepId : String}
    (hit : db.step? executionId stepId = some row) (ended : row.state ≠ .intent)
    (call : JournalCall) : (applyCall call db).step? executionId stepId = some row := by
  have key : row.key = (executionId, stepId) := keyOf_of_find? hit
  have mem := mem_of_find? hit
  -- In each case the row itself is still there, and its key finds it.
  suffices kept : row ∈ (applyCall call db).steps.rows by
    have found := find?_of_mem kept
    rw [key] at found
    exact found
  cases applyCall_effect call db with
  | kept same =>
    rw [same]
    exact mem
  | began root new _ began =>
    rw [began.steps]
    exact mem_append_left _ mem
  | settled input _ root old settled =>
    rw [settled.steps]
    refine mem_map.mpr ⟨row, mem, if_neg ?_⟩
    intro same
    have sameRow : row = old := by
      have found := find?_of_mem mem
      rw [same, Settled.key settled] at found
      exact Option.some.inj (found.symm.trans settled.locatedStep)
    rw [sameRow] at ended
    exact ended settled.intent

/-- A call leaves a root as it is, or the root was not closed and keeps its phase
unless the call is a settlement of its own. -/
theorem root_applyCall (hit : db.execution? id = some root) (call : JournalCall) :
    ∃ later, (applyCall call db).execution? id = some later /\
      (later = root \/ root.phase ≠ .closed /\ (later.phase = root.phase \/
        ∃ input, call = .settle input /\ input.ref.execution.executionId = id /\
          later.phase = input.nextPhase)) := by
  cases applyCall_effect call db with
  | kept same =>
    rw [same]
    exact ⟨root, hit, .inl rfl⟩
  | began other row _ began =>
    rw [began.executions]
    split
    next same =>
      rw [same] at hit
      rcases began.source with retained | ⟨absent, _⟩
      · rw [retained] at hit
        cases hit
        exact ⟨_, rfl, .inr ⟨began.writable, .inl rfl⟩⟩
      · rw [absent] at hit
        cases hit
    · exact ⟨root, hit, .inl rfl⟩
  | settled input named other row settled =>
    rw [settled.executions]
    split
    next same =>
      rw [same, settled.located] at hit
      cases hit
      exact ⟨_, rfl, .inr ⟨settled.writable, .inr ⟨input, named, same.symm, rfl⟩⟩⟩
    · exact ⟨root, hit, .inl rfl⟩

/-- A closed root is never touched again. -/
theorem execution?_applyCall (hit : db.execution? id = some root)
    (closed : root.phase = .closed) (call : JournalCall) :
    (applyCall call db).execution? id = some root := by
  rcases root_applyCall hit call with ⟨later, found, same | ⟨writable, _⟩⟩
  · rw [found, same]
  · exact absurd closed writable

/-- Later steps come after earlier ones. -/
theorem stepIds_applyCall (call : JournalCall) (id : String) :
    (db.stepsOf id).map stepId <+: ((applyCall call db).stepsOf id).map stepId := by
  cases applyCall_effect call db with
  | kept same => simp [same]
  | began root row _ began =>
    rw [began.stepsOf, map_append]
    exact prefix_append _ _
  | settled input _ root row settled =>
    have same : ((applyCall call db).stepsOf id).map stepId = (db.stepsOf id).map stepId := by
      rw [settled.stepsOf, map_map]
      apply map_congr_left
      intro entry _
      simp only [Function.comp_apply]
      split
      · rfl
      · rfl
    exact same ▸ prefix_refl _

/-- The revision of an execution; a new one starts from one. -/
def Journal.revisionOf (db : Journal) (executionId : String) : Nat :=
  ((db.execution? executionId).map ExecutionRow.revision).getD 1

/-- A call that changes the journal advances one revision by one. -/
theorem revisionOf_applyCall (call : JournalCall) (db : Journal) : applyCall call db = db \/
      ((applyCall call db).revisionOf call.executionId = db.revisionOf call.executionId + 1 /\
        ∀ id, id ≠ call.executionId -> (applyCall call db).execution? id = db.execution? id) := by
  cases applyCall_effect call db with
  | kept same => exact .inl same
  | began root row named began =>
    refine .inr ⟨?_, ?_⟩
    · unfold Journal.revisionOf
      rw [began.executions, if_pos named.symm, <- named]
      rcases began.source with retained | ⟨absent, first⟩
      · rw [retained]
        rfl
      · rw [absent]
        simp [nextRevision, first]
    · intro id other
      rw [began.executions, if_neg]
      rw [named]
      exact other
  | settled input named root row settled =>
    subst named
    refine .inr ⟨?_, ?_⟩
    · unfold Journal.revisionOf
      rw [settled.executions, JournalCall.executionId, if_pos rfl, settled.located]
      rfl
    · intro id other
      have differs : id ≠ input.ref.execution.executionId := other
      rw [settled.executions, if_neg differs]

/-! ## Competing settlements -/

theorem revisionOf_le_runCalls (calls : List JournalCall) (db : Journal) (id : String) :
    db.revisionOf id <= (runCalls applyCall calls db).revisionOf id := by
  refine runCalls_invariant (fun current : Journal => db.revisionOf id <= current.revisionOf id)
    (fun call _ current reached => Nat.le_trans reached ?_) (Nat.le_refl _)
  rcases revisionOf_applyCall call current with same | ⟨advanced, others⟩
  · exact same.symm ▸ Nat.le_refl _
  · by_cases named : id = call.executionId
    · rw [named, advanced]
      exact Nat.le_succ _
    · simp [Journal.revisionOf, others id named]

/-- A settlement that changes the journal found the revision that it expects. -/
theorem revisionOf_of_settles {input : ExecutionJournalSettlement}
    (changes : applyCall (.settle input) db ≠ db) :
    db.revisionOf input.ref.execution.executionId = input.expectedExecutionRevision := by
  rcases ran : Writes.atomically (settleExecutionJournalStep input) db with ⟨result, final⟩
  have reached : applyCall (.settle input) db = final := by
    simp [applyCall, ran]
  cases result with
  | error => exact absurd (reached.trans (Writes.atomically_error ran)) changes
  | ok =>
    rcases Writes.bind_ok (Writes.atomically_ok ran) with ⟨_, _, checks, _⟩
    have checked := (Writes.query_ok checks).1
    unfold checkSettlement at checked
    simp only [bind_eq_ok_iff, parse_eq_ok_iff, conflictIf_eq_ok_iff, exists_and_left,
      exists_const, Bool.or_eq_false_iff, decide_eq_false_iff_not, ne_eq,
      Decidable.not_not] at checked
    rcases checked with ⟨_, _, stored, read, _, ⟨⟨⟨⟨_, expected⟩, _⟩, _⟩, _⟩, _⟩
    rcases readRoot_ok (storedStep_ok read).1 with ⟨root, hit, shown, _⟩
    unfold Journal.revisionOf
    rw [hit, <- expected, shown]
    rfl

/-- Whatever happens in between, of two settlements of one execution the second changes
nothing when the first did and it expects no later revision. -/
theorem stale_settlement_changes_nothing (db : Journal) (between : List JournalCall)
    (first second : ExecutionJournalSettlement) : applyCall (.settle first) db = db \/
      (second.ref.execution.executionId = first.ref.execution.executionId ->
        second.expectedExecutionRevision <= first.expectedExecutionRevision ->
        let later := runCalls applyCall between (applyCall (.settle first) db)
        applyCall (.settle second) later = later) := by
  by_cases changes : applyCall (.settle first) db = db
  · exact .inl changes
  refine .inr (fun named older => ?_)
  by_contra overwrites
  have expected := revisionOf_of_settles overwrites
  have found := revisionOf_of_settles changes
  have grown := revisionOf_le_runCalls between (applyCall (.settle first) db)
    first.ref.execution.executionId
  rcases revisionOf_applyCall (.settle first) db with same | ⟨advanced, _⟩
  · exact changes same
  · rw [named] at expected
    dsimp only [JournalCall.executionId] at advanced
    omega

/-! ## Repeated intents -/

variable {clock : ProcessClock} {input : ExecutionJournalIntent}

/-- The parts of an intent that a repeat must show again. -/
structure SameIntent (db : Journal) (row : StepRow) (input : ExecutionJournalIntent) : Prop where
  control : row.control = input.control
  parent : row.invocation.parent = input.parent
  carriage : row.invocation.carriage = input.carriage
  parentStep : row.parentStepId = input.parentStepId
  inspectedExecution :
    row.inspectedExecutionId = input.inspectedStep.map (·.execution.executionId)
  inspectedStep : row.inspectedStepId = input.inspectedStep.map ExecutionStepRef.stepId
  fingerprint : ∃ root, db.execution? input.execution.ref.executionId = some root /\
    root.inputFingerprint = input.execution.fingerprint
  span : row.span = input.span

theorem repeatIntent_ok {call : ExecutionInvocation}
    (hit : db.step? input.execution.ref.executionId input.stepId = some row)
    (answered : db.repeatIntent clock input = .ok call) :
    SameIntent db row input /\ call.clock = row.invocation.clock := by
  unfold repeatIntent at answered
  simp only [bind_eq_ok_iff, conflictIf_eq_ok_iff, exists_and_left, exists_const,
    Bool.not_eq_eq_eq_not, Bool.not_false] at answered
  rcases answered with ⟨stored, read, repeats, shown⟩
  rcases storedStep_ok read with ⟨readRoot, locatedStored, _⟩
  rcases readRoot_ok readRoot with ⟨root, locatedRoot, view, _⟩
  have sameRow : stored.row = row := Option.some.inj (locatedStored.symm.trans hit)
  unfold StoredStep.repeats at repeats
  simp only [Bool.and_eq_true, decide_eq_true_eq, sameRow, view] at repeats
  rcases repeats with ⟨⟨⟨⟨⟨⟨⟨control, parent⟩, carriage⟩, parentStep⟩, inspectedExecution⟩,
    inspectedStep⟩, fingerprint⟩, span⟩
  refine ⟨⟨control, parent, carriage, parentStep, inspectedExecution, inspectedStep,
    ⟨root, locatedRoot, fingerprint⟩, span⟩, ?_⟩
  rcases readExecutionJournalInvocation_ok shown with ⟨again, _, readAgain, same⟩
  have sameStored : again = stored := Except.ok.inj (readAgain.symm.trans read)
  rw [same, sameStored, <- sameRow]
  rfl

/-- A repeated intent changes nothing, and is answered only if it is the same. -/
theorem applyCall_repeat {witness : Option String}
    (hit : db.step? input.execution.ref.executionId input.stepId = some row) :
    applyCall (.intent input clock witness) db = db /\
      ∀ call, (Writes.atomically (writeExecutionJournalIntent clock witness input) db).1 =
          .ok call -> SameIntent db row input /\ call.clock = row.invocation.clock := by
  have present : db.step? input.execution.ref.executionId input.stepId ≠ none := by
    rw [hit]
    exact Option.some_ne_none row
  rcases ran : Writes.atomically (writeExecutionJournalIntent clock witness input) db with
    ⟨result, final⟩
  have reached : applyCall (.intent input clock witness) db = final := by
    simp [applyCall, ran]
  rw [reached]
  cases result with
  | error =>
    refine ⟨Writes.atomically_error ran, ?_⟩
    intro call never
    cases never
  | ok =>
    rcases writeIntent_repeat present (Writes.atomically_ok ran) with ⟨same, answered⟩
    refine ⟨same, ?_⟩
    intro call returned
    cases returned
    exact repeatIntent_ok hit answered

/-- A call that throws changes nothing. -/
theorem applyCall_of_throws (thrown : throws call db) : applyCall call db = db := by
  have stays : ∀ {α : Type} {body : Writes Journal JournalError α},
      !(Writes.atomically body db).1.isOk -> (Writes.atomically body db).2 = db := by
    intro α body failed
    rcases ran : Writes.atomically body db with ⟨result, final⟩
    cases result with
    | ok => simp [ran, Except.isOk, Except.toBool] at failed
    | error => exact Writes.atomically_error ran
  cases call with
  | intent => exact stays thrown
  | settle => exact stays thrown

/-! ## The history -/

/-- Over every history: an ended step and a closed root never change, and a
closed root has nothing open, no exclusion, and an ended span; the ordinals of
an execution count its steps in creation order; a call changes nothing or
advances the revision of its execution by one; a repeated intent changes
nothing and is answered, from the stored clock, only if it shows the same
intent; and a call that throws changes nothing. -/
theorem journalHistory_append_only (scope : JournalScope) (earlier later : List JournalCall) :
    (∀ executionId stepId row,
      (journalAfter scope earlier).step? executionId stepId = some row -> row.state ≠ .intent ->
        (runCalls applyCall later (journalAfter scope earlier)).step? executionId stepId =
          some row) /\
    (∀ id root, (journalAfter scope earlier).execution? id = some root -> root.phase = .closed ->
      (runCalls applyCall later (journalAfter scope earlier)).execution? id = some root /\
        (∀ row ∈ (journalAfter scope earlier).stepsOf id, row.state ≠ .intent) /\
        root.exclusionRefs = [] /\ root.span.endTimeUnixNano ≠ none) /\
    (∀ id, ((journalAfter scope earlier).stepsOf id).map ordinal =
        List.range' 1 ((journalAfter scope earlier).stepsOf id).length /\
      ((journalAfter scope earlier).stepsOf id).map stepId <+:
        ((runCalls applyCall later (journalAfter scope earlier)).stepsOf id).map stepId) /\
    (∀ call, applyCall call (journalAfter scope earlier) = journalAfter scope earlier \/
      ((applyCall call (journalAfter scope earlier)).revisionOf call.executionId =
          (journalAfter scope earlier).revisionOf call.executionId + 1 /\
        ∀ id, id ≠ call.executionId -> (applyCall call (journalAfter scope earlier)).execution? id =
            (journalAfter scope earlier).execution? id)) /\ (∀ input clock witness row,
      (journalAfter scope earlier).step? input.execution.ref.executionId input.stepId = some row ->
        applyCall (.intent input clock witness) (journalAfter scope earlier) =
            journalAfter scope earlier /\
          ∀ invocation, (Writes.atomically (writeExecutionJournalIntent clock witness input)
              (journalAfter scope earlier)).1 = .ok invocation ->
            SameIntent (journalAfter scope earlier) row input /\
              invocation.clock = row.invocation.clock) /\
    (∀ call, throws call (journalAfter scope earlier) ->
      applyCall call (journalAfter scope earlier) = journalAfter scope earlier) := by
  have coherent := coherent_journalAfter scope earlier
  refine ⟨?_, ?_, ?_, ?_, ?_, ?_⟩
  · intro executionId stepId row located ended
    exact runCalls_invariant (fun db : Journal => db.step? executionId stepId = some row)
      (fun call _ _ kept => step?_applyCall kept ended call) located
  · intro id root located closed
    refine ⟨?_, coherent.closed id root located closed⟩
    exact runCalls_invariant (fun db : Journal => db.execution? id = some root)
      (fun call _ _ kept => execution?_applyCall kept closed call) located
  · intro id
    refine ⟨coherent.ordinals id, ?_⟩
    exact runCalls_invariant (fun db : Journal =>
        ((journalAfter scope earlier).stepsOf id).map stepId <+:
          (db.stepsOf id).map stepId)
      (fun call _ _ kept => kept.trans (stepIds_applyCall call id)) (prefix_refl _)
  · intro call
    exact revisionOf_applyCall call _
  · intro input clock witness row located
    exact applyCall_repeat located
  · intro call thrown
    exact applyCall_of_throws thrown

/-! ## Phases -/

/-- The order of the phases. -/
def ExecutionPhase.rank : ExecutionPhase -> Nat
  | .opened => 0
  | .closing => 1
  | .closed => 2

/-- A settlement that asks for an open root while the root is closing. -/
def reopens (call : JournalCall) (db : Journal) : Bool :=
  match call with
  | .intent .. => false
  | .settle input =>
    input.nextPhase = .opened && (db.execution? input.ref.execution.executionId).any
        (·.phase = .closing)

/-- A phase falls only from closing to open, by a settlement that asks for it. -/
theorem phase_applyCall (hit : db.execution? id = some root) (call : JournalCall) :
    ∃ later, (applyCall call db).execution? id = some later /\
      (root.phase.rank <= later.phase.rank \/
        call.executionId = id /\ reopens call db /\ later.phase = .opened) := by
  rcases root_applyCall hit call with ⟨later, found, change⟩
  refine ⟨later, found, ?_⟩
  rcases change with rfl | ⟨writable, same | ⟨input, rfl, rfl, phase⟩⟩
  · exact .inl (Nat.le_refl _)
  · exact .inl (Nat.le_of_eq (by rw [same]))
  · rw [phase]
    -- the guards leave every next phase of a root that is not closed
    cases before : root.phase with
    | opened => exact .inl (Nat.zero_le _)
    | closed => exact absurd before writable
    | closing =>
      cases asked : input.nextPhase with
      | opened => exact .inr ⟨rfl, by simp [reopens, asked, hit, before], rfl⟩
      | closing => exact .inl (Nat.le_refl _)
      | closed => exact .inl (by decide)

/-- After every history, one more call lowers the phase of a root only by
reopening a closing one.  Over every run a closed root stays as it is, and over every
run without such a settlement the phases only move forward. -/
theorem journal_phases_forward (scope : JournalScope) (earlier later : List JournalCall) :
    (∀ call id root, (journalAfter scope earlier).execution? id = some root ->
      ∃ next, (applyCall call (journalAfter scope earlier)).execution? id = some next /\
        (root.phase.rank <= next.phase.rank \/
          call.executionId = id /\ reopens call (journalAfter scope earlier) /\
            next.phase = .opened)) /\
    (∀ id root, (journalAfter scope earlier).execution? id = some root -> root.phase = .closed ->
      (runCalls applyCall later (journalAfter scope earlier)).execution? id = some root) /\
    (everyStep applyCall (fun call db => !reopens call db) later (journalAfter scope earlier) =
        true -> ∀ id root, (journalAfter scope earlier).execution? id = some root ->
        ∃ last, (runCalls applyCall later (journalAfter scope earlier)).execution? id = some last /\
          root.phase.rank <= last.phase.rank) := by
  refine ⟨fun call id root located => phase_applyCall located call, ?_, ?_⟩
  · intro id root located closed
    exact runCalls_invariant (fun db : Journal => db.execution? id = some root)
      (fun call _ _ kept => execution?_applyCall kept closed call) located
  intro forward id root located
  refine runCalls_invariant_of_everyStep
    (fun db : Journal => ∃ last, db.execution? id = some last /\ root.phase.rank <= last.phase.rank)
    ?_ forward ⟨root, located, Nat.le_refl _⟩
  intro call db keeps ⟨current, found, reached⟩
  rcases phase_applyCall found call with ⟨next, after, advanced | ⟨_, reopened, _⟩⟩
  · exact ⟨next, after, Nat.le_trans reached advanced⟩
  · simp [reopened] at keeps

/-! ## A repeated intent with other exclusions -/

/-- A readable open span. -/
def sampleSpan (spanId : String) : ExecutionJournalSpan where
  traceId := "11111111111111111111111111111111"
  spanId := spanId
  parentSpanId := none
  traceState := none
  name := "span"
  kind := .internal
  startTimeUnixNano := 1
  endTimeUnixNano := none
  status := ⟨.unset, none⟩
  links := []
  details := ""

def sampleClock : ProcessClock where
  processWitness := "process"
  readings := fun _ => ⟨1, 1⟩

/-- An intent of a Worker Turn that excludes the given references. -/
def sampleIntent (stepId : String) (kind : ExecutionStepKind) (exclusionRefs : List String) :
    ExecutionJournalIntent where
  execution :=
    { ref := ⟨.workspace "workspace", "execution"⟩
      definitionVersion := .workspaceWorkerTurn
      workId := "turn"
      fingerprint := "input"
      exclusionRefs := exclusionRefs, span := sampleSpan "1111111111111111" }
  stepId := stepId
  parentStepId := none
  control :=
    { definitionVersion := .workspaceWorkerTurn
      kind := kind, target := none
      workId := "turn"
      operationId := none, attemptId := none, invocationId := stepId, actor := .user "user"
      inputRefs := [], outputRefs := []
      fingerprint := "input"
      permittingDecisionRef := none, authorityRefs := [], retryDeclarationRef := none
      retryPermitted := false, deadlineUnixNano := none, physicalFenceRefs := [] }
  parent := none
  carriage := ⟨"operation", "request", none, none⟩
  inspectedStep := none
  span := sampleSpan "2222222222222222"

def sampleSettlement (stepId : String) (revision : Nat) (state : EndedExecutionStepState)
    (outputRefs : List String) (nextPhase : ExecutionPhase) (exclusionRefs : List String) :
    ExecutionJournalSettlement where
  ref := ⟨⟨.workspace "workspace", "execution"⟩, stepId⟩
  expectedExecutionRevision := revision
  state := state
  outputRefs := outputRefs
  span :=
    { sampleSpan "2222222222222222" with
      endTimeUnixNano := some 2, status := ⟨.error, none⟩ }
  nextPhase := nextPhase
  terminalCause := none
  exclusionRefs := exclusionRefs

/-- A repeat that differs only in the exclusions of its admission is answered. -/
theorem changedExclusions_answered :
    sampleIntent "collect" .collect [] ≠ sampleIntent "collect" .collect ["target"] /\
      throws (.intent (sampleIntent "collect" .collect []) sampleClock none)
        (journalAfter (.workspace "workspace")
          [.intent (sampleIntent "collect" .collect ["target"]) sampleClock none]) = false := by
  constructor
  · decide +kernel
  · decide +kernel

/-- An execution with one completed step, closed. -/
private def closedSample : List JournalCall :=
  [.intent (sampleIntent "collect" .collect []) sampleClock none,
    .settle (sampleSettlement "collect" 2 .completed [] .closed [])]

/-- A closed execution refuses a further step and stays closed. -/
theorem closedSample_stays :
    ∃ root, (journalAfter (.workspace "workspace") closedSample).execution? "execution" =
        some root /\ root.phase = .closed /\
      (runCalls applyCall [.intent (sampleIntent "cancel" .cancel []) sampleClock none]
        (journalAfter (.workspace "workspace") closedSample)).execution? "execution" =
          some root := by
  have history := journalHistory_append_only (.workspace "workspace") closedSample
    [.intent (sampleIntent "cancel" .cancel []) sampleClock none]
  have stored : ((journalAfter (.workspace "workspace") closedSample).execution? "execution").any
      (·.phase = .closed) := by
    decide +kernel
  rcases (Option.any_eq_true _ _).mp stored with ⟨root, located, closed⟩
  have isClosed : root.phase = .closed := of_decide_eq_true closed
  exact ⟨root, located, isClosed, (history.2.1 "execution" root located isClosed).1⟩

/-- What `decodeExecutionJournalSettlement` accepts. -/
def settlementSchema (input : ExecutionJournalSettlement) : Bool :=
  stepRefSchema input.ref && count input.expectedExecutionRevision &&
    1 <= input.expectedExecutionRevision && input.outputRefs.all text &&
    spanSchema input.span && input.span.endTimeUnixNano.isSome && input.terminalCause.all text &&
    input.exclusionRefs.all text

/-- An execution with one completed step, closing. -/
private def closingSample : List JournalCall :=
  [.intent (sampleIntent "collect" .collect []) sampleClock none,
    .settle (sampleSettlement "collect" 2 .completed [] .closing []),
    .intent (sampleIntent "inspect" .inspectCleanup []) sampleClock none]

/-- The last settlement of the cleanup opens the closing execution again. -/
theorem closingSample_reopens :
    settlementSchema (sampleSettlement "inspect" 4 .completed [] .opened []) /\
      ((journalAfter (.workspace "workspace") closingSample).execution? "execution").map
        ExecutionRow.phase = some .closing /\
      throws (.settle (sampleSettlement "inspect" 4 .completed [] .opened []))
        (journalAfter (.workspace "workspace") closingSample) = false /\
      ((runCalls applyCall [.settle (sampleSettlement "inspect" 4 .completed [] .opened [])]
        (journalAfter (.workspace "workspace") closingSample)).execution? "execution").map
          ExecutionRow.phase = some .opened := by
  decide +kernel

/-- A settlement that leaves the execution closing moves no phase back. -/
theorem closingSample_forward : everyStep applyCall (fun call db => !reopens call db)
        [.settle (sampleSettlement "inspect" 4 .completed [] .closing [])]
        (journalAfter (.workspace "workspace") closingSample) /\
      ∀ id root, (journalAfter (.workspace "workspace") closingSample).execution? id = some root ->
        ∃ last, (runCalls applyCall
            [.settle (sampleSettlement "inspect" 4 .completed [] .closing [])]
            (journalAfter (.workspace "workspace") closingSample)).execution? id = some last /\
          root.phase.rank <= last.phase.rank := by
  have forward : everyStep applyCall (fun call db => !reopens call db)
      [.settle (sampleSettlement "inspect" 4 .completed [] .closing [])]
      (journalAfter (.workspace "workspace") closingSample) := by
    decide +kernel
  exact ⟨forward, (journal_phases_forward (.workspace "workspace") closingSample _).2.2 forward⟩

end ExecutionJournal
end OpenKit
