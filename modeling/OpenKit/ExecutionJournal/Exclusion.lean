import Mathlib.Data.List.Induction
import OpenKit.ExecutionJournal.History

namespace OpenKit
namespace ExecutionJournal

open Foundation Journal

/-!
# Unknown outcomes keep their exclusion

An execution excludes other users of the resources that it names.  While one of
its steps has an unknown outcome, a physical effect may still be running, so the
root neither drops an exclusion nor closes.  The one way out is a qualified
release in Workspace scope.
-/

/-- Some step of the execution has settled `unknown`. -/
def Journal.HasUnknown (db : Journal) (executionId : String) : Prop :=
  ∃ row ∈ db.stepsOf executionId, row.state = .ended .unknown

def KeepsExclusion (before after : ExecutionRow) : Prop :=
  before.exclusionRefs ⊆ after.exclusionRefs /\ (before.phase ≠ .closed -> after.phase ≠ .closed)

/-- The call is a qualified release of the execution, and it returns. -/
def ReleasedBy (call : JournalCall) (db : Journal) (executionId : String) : Prop :=
  ∃ input, call = .settle input /\ input.ref.execution.executionId = executionId /\
    throws call db = false /\ db.QualifiedRelease input

/-- Some call of a history is a qualified release of the execution. -/
def ReleasedDuring (calls : List JournalCall) (db : Journal) (executionId : String) : Prop :=
  ∃ before call after, calls = before ++ call :: after /\
    ReleasedBy call (runCalls applyCall before db) executionId

variable {db next : Journal} {call : JournalCall} {key : String}

/-! ## One call -/

variable {root : ExecutionRow}

theorem HasUnknown.applyCall (unknown : db.HasUnknown key) (call : JournalCall) :
    (applyCall call db).HasUnknown key := by
  rcases unknown with ⟨row, mem, isUnknown⟩
  rcases mem_stepsOf.mp mem with ⟨stored, sameId⟩
  have kept := step?_applyCall (Table.find?_of_mem stored) (by simp [isUnknown]) call
  exact ⟨row, mem_stepsOf.mpr ⟨Table.mem_of_find? kept, sameId⟩, isUnknown⟩

/-- An unknown outcome after a settlement was there before or is the settled one. -/
private theorem unknown_of_settled {input : ExecutionJournalSettlement} {row : StepRow}
    (settled : Settled db next input root row)
    (unknown : next.HasUnknown input.ref.execution.executionId) : input.state = .unknown \/
      ∃ other ∈ db.stepsOf input.ref.execution.executionId, other.state = .ended .unknown := by
  rcases unknown with ⟨after, mem, isUnknown⟩
  rw [settled.stepsOf] at mem
  rcases List.mem_map.mp mem with ⟨old, stored, changed⟩
  split at changed
  · rw [<- changed] at isUnknown
    exact .inl (ExecutionStepState.ended.inj isUnknown)
  · rw [<- changed] at isUnknown
    exact .inr ⟨old, stored, isUnknown⟩

/-- One call keeps the exclusion of an execution with an unknown outcome, or is
its qualified release. -/
theorem keepsExclusion_applyCall (hit : db.execution? key = some root)
    (call : JournalCall) (unknown : (applyCall call db).HasUnknown key) :
    (∃ after, (applyCall call db).execution? key = some after /\
      KeepsExclusion root after) \/ ReleasedBy call db key := by
  have still : KeepsExclusion root root := ⟨fun _ mem => mem, fun writable => writable⟩
  by_cases thrown : throws call db
  · rw [applyCall_of_throws thrown]
    exact .inl ⟨root, hit, still⟩
  cases applyCall_effect call db with
  | kept same =>
    rw [same]
    exact .inl ⟨root, hit, still⟩
  | began other row _ began =>
    apply Or.inl
    rw [began.executions]
    split
    next same =>
      refine ⟨nextRevision other, rfl, ?_⟩
      rw [same] at hit
      rcases began.source with retained | ⟨absent, _⟩
      · rw [retained] at hit
        cases hit
        exact still
      · rw [absent] at hit
        cases hit
    · exact ⟨root, hit, still⟩
  | settled input named other row settled =>
    by_cases same : key = input.ref.execution.executionId
    · subst same
      have sameRoot : other = root := Option.some.inj (settled.located.symm.trans hit)
      rcases settled.excludes (unknown_of_settled settled unknown) with released | ⟨writable, kept⟩
      · exact .inr ⟨input, named, rfl, by simpa using thrown, released⟩
      · rw [settled.executions, if_pos rfl]
        rw [sameRoot] at kept
        exact .inl ⟨_, rfl, kept, fun _ => writable⟩
    · rw [settled.executions, if_neg same]
      exact .inl ⟨root, hit, still⟩

/-! ## Histories -/

variable {calls : List JournalCall} {after : ExecutionRow}

/-- A history keeps the exclusion of an execution with an unknown outcome, or
holds its qualified release. -/
theorem keepsExclusion_runCalls (calls : List JournalCall)
    (hit : db.execution? key = some root) (unknown : db.HasUnknown key) :
    (∃ final, (runCalls applyCall calls db).execution? key = some final /\
      KeepsExclusion root final) \/ ReleasedDuring calls db key := by
  induction calls generalizing db root with
  | nil => exact .inl ⟨root, hit, fun _ mem => mem, fun writable => writable⟩
  | cons call rest ih =>
    have later := HasUnknown.applyCall unknown call
    rcases keepsExclusion_applyCall hit call later with ⟨middle, reached, first⟩ | released
    · rcases ih reached later with ⟨final, foundFinal, second⟩ | ⟨before, next, after, split, released⟩
      · refine .inl ⟨final, foundFinal, ?_, ?_⟩
        · exact List.Subset.trans first.1 second.1
        · exact fun writable => second.2 (first.2 writable)
      · refine .inr ⟨call :: before, next, after, ?_, released⟩
        rw [split, List.cons_append]
    · exact .inr ⟨[], call, rest, rfl, released⟩

private theorem ReleasedDuring.append (released : ReleasedDuring calls db key)
    (more : List JournalCall) : ReleasedDuring (calls ++ more) db key := by
  rcases released with ⟨before, next, after, split, qualified⟩
  refine ⟨before, next, after ++ more, ?_, qualified⟩
  rw [split, List.append_assoc, List.cons_append]

/-- A closed execution gets no unknown outcome. -/
private theorem hasUnknown_of_closed (hit : db.execution? key = some root)
    (closed : root.phase = .closed) (unknown : (applyCall call db).HasUnknown key) :
    db.HasUnknown key := by
  cases applyCall_effect call db with
  | kept same =>
    rw [same] at unknown
    exact unknown
  | began other new _ began =>
    rcases unknown with ⟨row, mem, isUnknown⟩
    rw [began.stepsOf] at mem
    rcases List.mem_append.mp mem with old | added
    · exact ⟨row, old, isUnknown⟩
    split at added
    · rw [List.mem_singleton] at added
      rw [added, began.intent] at isUnknown
      cases isUnknown
    · cases added
  | settled input _ other _ settled =>
    have differs : key ≠ input.ref.execution.executionId := by
      intro same
      rw [same, settled.located] at hit
      cases hit
      exact settled.writable closed
    rcases unknown with ⟨row, mem, isUnknown⟩
    rw [settled.stepsOf_of_ne differs] at mem
    exact ⟨row, mem, isUnknown⟩

private theorem not_closed_of_new (absent : db.execution? key = none)
    (reached : (applyCall call db).execution? key = some after) : after.phase ≠ .closed := by
  cases applyCall_effect call db with
  | kept same =>
    rw [same, absent] at reached
    cases reached
  | began other row _ began =>
    rw [began.executions] at reached
    split at reached
    · cases reached
      exact began.writable
    · rw [absent] at reached
      cases reached
  | settled input _ other row settled =>
    rw [settled.executions] at reached
    split at reached
    next same =>
      rw [same, settled.located] at absent
      cases absent
    · rw [absent] at reached
      cases reached

/-- A call that makes an execution with an unknown outcome closed is its
qualified release, unless it was such an execution before. -/
private theorem closed_applyCall (reached : (applyCall call db).execution? key = some after)
    (closed : after.phase = .closed) (unknown : (applyCall call db).HasUnknown key) :
    (∃ root, db.execution? key = some root /\ root.phase = .closed /\
      db.HasUnknown key) \/ ReleasedBy call db key := by
  cases hit : db.execution? key with
  | none => exact absurd closed (not_closed_of_new hit reached)
  | some root =>
    by_cases wasClosed : root.phase = .closed
    · exact .inl ⟨root, rfl, wasClosed, hasUnknown_of_closed hit wasClosed unknown⟩
    rcases keepsExclusion_applyCall hit call unknown with ⟨other, found, kept⟩ | released
    · rw [reached] at found
      cases found
      exact absurd closed (kept.2 wasClosed)
    · exact .inr released

theorem released_of_closed (scope : JournalScope) (calls : List JournalCall)
    (hit : (journalAfter scope calls).execution? key = some root)
    (closed : root.phase = .closed) (unknown : (journalAfter scope calls).HasUnknown key) :
    ReleasedDuring calls (.empty scope) key := by
  induction calls using List.reverseRecOn generalizing root with
  | nil => cases hit
  | append_singleton rest call ih =>
    have step : journalAfter scope (rest ++ [call]) = applyCall call (journalAfter scope rest) := by
      unfold journalAfter runCalls
      rw [List.foldl_append]
      rfl
    rw [step] at hit unknown
    rcases closed_applyCall hit closed unknown with ⟨old, wasThere, wasClosed, before⟩ | released
    · exact (ih wasThere wasClosed before).append [call]
    · exact ⟨rest, call, [], rfl, released⟩

theorem scope_runCalls (calls : List JournalCall) (db : Journal) :
    (runCalls applyCall calls db).scope = db.scope := by
  apply runCalls_invariant (fun reached : Journal => reached.scope = db.scope)
  · intro call _ reached same
    cases applyCall_effect call reached with
    | kept still => rw [still, same]
    | began _ _ _ began => rw [began.scope, same]
    | settled _ _ _ _ settled => rw [settled.scope, same]
  · rfl

/-- Core has no qualified release. -/
private theorem not_releasedDuring_core (core : db.scope = .core) :
    ¬ ReleasedDuring calls db key := by
  rintro ⟨before, call, after, _, input, _, _, _, released⟩
  apply released.workspace
  rw [scope_runCalls, core]

/-- Over every history: a call after which an execution has an unknown outcome
keeps its exclusions and does not close it, or is its qualified release; so does
every continuation of a history in which it has one; an execution that is closed
with an unknown outcome was released; and in Core no such execution ever drops
an exclusion or closes. -/
theorem unknownOutcome_keeps_exclusion (scope : JournalScope)
    (earlier later : List JournalCall) (executionId : String) (root : ExecutionRow) :
    (journalAfter scope earlier).execution? executionId = some root ->
    (∀ call, (applyCall call (journalAfter scope earlier)).HasUnknown executionId ->
      (∃ after, (applyCall call (journalAfter scope earlier)).execution? executionId = some after /\
        KeepsExclusion root after) \/ ReleasedBy call (journalAfter scope earlier) executionId) /\
    ((journalAfter scope earlier).HasUnknown executionId ->
      ((∃ final, (runCalls applyCall later (journalAfter scope earlier)).execution? executionId =
          some final /\ KeepsExclusion root final) \/
        ReleasedDuring later (journalAfter scope earlier) executionId) /\
      (root.phase = .closed -> ReleasedDuring earlier (.empty scope) executionId) /\
      (scope = .core -> root.phase ≠ .closed /\
        ∃ final, (runCalls applyCall later (journalAfter scope earlier)).execution? executionId =
          some final /\ KeepsExclusion root final)) := by
  intro located
  refine ⟨fun call unknown => keepsExclusion_applyCall located call unknown, ?_⟩
  intro unknown
  have kept := keepsExclusion_runCalls later located unknown
  have released := fun closed => released_of_closed scope earlier located closed unknown
  refine ⟨kept, released, ?_⟩
  intro core
  have coreBefore : (Journal.empty scope).scope = .core := core
  have coreAfter : (journalAfter scope earlier).scope = .core := by
    unfold journalAfter
    rw [scope_runCalls]
    exact core
  refine ⟨fun closed => not_releasedDuring_core coreBefore (released closed), ?_⟩
  exact kept.resolve_right (not_releasedDuring_core coreAfter)

private def coreIntent (stepId : String) : ExecutionJournalIntent :=
  let intent := sampleIntent stepId .collect ["target"]
  { intent with
    execution :=
      { intent.execution with
        ref := ⟨.server, "execution"⟩, definitionVersion := .coreImageAcquire }
    control := { intent.control with definitionVersion := .coreImageAcquire } }

private def coreSettlement (stepId : String) (revision : Nat) (state : EndedExecutionStepState)
    (nextPhase : ExecutionPhase) (exclusionRefs : List String) : ExecutionJournalSettlement :=
  { sampleSettlement stepId revision state [] nextPhase exclusionRefs with
    ref := ⟨⟨.server, "execution"⟩, stepId⟩ }

/-- An acquisition whose outcome is unknown. -/
private def unknownSample : List JournalCall :=
  [.intent (coreIntent "acquire") sampleClock none,
    .settle (coreSettlement "acquire" 2 .unknown .opened ["target"])]

/-- A later step that completes cannot close the execution. -/
theorem unknownSample_keeps_target : ∃ final, (runCalls applyCall
        [.intent (coreIntent "again") sampleClock none,
          .settle (coreSettlement "again" 4 .completed .closed [])]
        (journalAfter .core unknownSample)).execution? "execution" = some final /\
      "target" ∈ final.exclusionRefs /\ final.phase ≠ .closed := by
  have stored : ((journalAfter .core unknownSample).execution? "execution").any
      ("target" ∈ ·.exclusionRefs) := by
    decide +kernel
  have settled : ((journalAfter .core unknownSample).stepsOf "execution").any
      (·.state = .ended .unknown) := by
    decide +kernel
  rcases (Option.any_eq_true _ _).mp stored with ⟨root, located, excludes⟩
  rcases List.any_eq_true.mp settled with ⟨row, member, isUnknown⟩
  have exclusion := unknownOutcome_keeps_exclusion .core unknownSample
    [.intent (coreIntent "again") sampleClock none,
      .settle (coreSettlement "again" 4 .completed .closed [])] "execution" root located
  rcases (exclusion.2 ⟨row, member, of_decide_eq_true isUnknown⟩).2.2 rfl with
    ⟨writable, final, reached, kept⟩
  exact ⟨final, reached, kept.1 (of_decide_eq_true excludes), kept.2 writable⟩

end ExecutionJournal
end OpenKit
