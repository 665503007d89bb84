import OpenKit.FilesystemSync.Rollback

namespace OpenKit
namespace FilesystemSync

open Foundation
open Foundation.Effect

/-!
# Recovering between calls

A call for a review first recovers what an earlier call left behind and then
applies.  Between calls the state is `Sound`: a published rollback root stands
for a target that can be undone, and without one the target is the original.
Every call keeps that, wherever it ends, until a result has been committed, as long as
no fault strikes while the parents of an added path are half made or half removed.
-/

/-- What a rollback of a review relies on. -/
structure Recoverable (platform : SyncPlatform) (ignored : List Path)
    (original edited : FileTree Content) (input : ApplyStagedFilesystemChangesInput) : Prop where
  injective : Function.Injective platform.sha256
  review : ReviewOf platform ignored original edited input
  free : PrivateNamesFree platform original input
  plain : PlainModes original input

/-- A rollback root that is not just an empty directory. -/
def Published (state : SyncState) : Prop :=
  ∃ root, state.rollback = some root /\ root.isEmpty = false

/-- A state between two calls. -/
structure Sound (platform : SyncPlatform) (original : FileTree Content)
    (input : ApplyStagedFilesystemChangesInput) (state : SyncState) : Prop where
  published : Published state ->
    Admissible platform original input /\ Restorable platform original input state.target
  unpublished : ¬ Published state -> state.target.Same original

section Recovery

variable {platform : SyncPlatform} {ignored : List Path} {original edited : FileTree Content}
  {input : ApplyStagedFilesystemChangesInput} {exposed : SyncState -> Prop}
  {start state : SyncState}

/-! ## Soundness of single states -/

theorem Sound.of_restorable (legal : Admissible platform original input)
    (shown : Published state) (restorable : Restorable platform original input state.target) :
    Sound platform original input state where
  published := fun _ => ⟨legal, restorable⟩
  unpublished := fun missing => absurd shown missing

theorem Sound.of_same (same : state.target.Same original)
    (legal : Published state -> Admissible platform original input) :
    Sound platform original input state where
  published := fun shown => ⟨legal shown, restorable_of_same same⟩
  unpublished := fun _ => same

theorem Swept.same (free : PrivateNamesFree platform original input) {old new : FileTree Content}
    (swept : Swept platform input old new) (same : old.Same original) : new.Same original := by
  intro path
  by_cases isPrivate : Private platform input path
  · rw [swept.clean path isPrivate, free.original_none isPrivate]
  · rw [swept.outside path isPrivate, same path]

/-! ## Rolling back -/

variable (recoverable : Recoverable platform ignored original edited input)
  (legal : Admissible platform original input) (shown : Published state)
  (restorable : Restorable platform original input state.target)
  (sound : Sound platform original input state)

include recoverable legal restorable

/-- Restoring a list of paths: when none of them failed, none is left to visit. -/
theorem restorePaths_holds (paths : List WorkspaceChangedPath)
    (members : ∀ edit ∈ paths, edit ∈ input.changeSet.changedPaths) :
    Holds (Exposed input) (restorePaths platform input paths) state
      (fun failures => Within state (fun tree => Restorable platform original input tree /\
        (failures = 0 -> Restoring platform original input paths state.target ->
          Restoring platform original input [] tree)))
      (fun _ => Within state (Restorable platform original input)) := by
  induction paths generalizing state with
  | nil => exact holds_pure (Within.intro ⟨restorable, fun _ restoring => restoring⟩)
  | cons edit rest ih =>
    have later := fun other queued => members other (List.mem_cons_of_mem _ queued)
    have mem := members edit List.mem_cons_self
    apply holds_bind
    refine holds_attempt (holds_mono (restorePath_holds recoverable.injective recoverable.plain
      recoverable.review recoverable.free legal mem restorable) ?_ ?_)
    · rintro _ _ ⟨next, rfl, after, restored⟩
      refine holds_then (ih after later) ?_
      rintro failures _ ⟨final, rfl, ended, visited⟩
      exact holds_pure ⟨final, rfl, ended,
        fun none restoring => visited none (restored rest restoring)⟩
    · rintro reason _ ⟨next, rfl, after⟩
      cases reason with
      | stopped => exact ⟨next, rfl, after⟩
      | thrown =>
        refine holds_then (ih after later) ?_
        rintro failures _ ⟨final, rfl, ended, _⟩
        exact holds_pure ⟨final, rfl, ended, fun none => absurd none (Nat.succ_ne_zero _)⟩

/-- A restore that returns has put everything back. -/
theorem restoreFilesystemRollback_holds
    (clean : ∀ path, Private platform input path -> state.target.node? path = none) :
    Holds (Exposed input) (restoreFilesystemRollback platform input) state
      (fun _ => Within state (·.Same original))
      (fun _ => Within state (Restorable platform original input)) := by
  refine holds_then (restorePaths_holds recoverable legal restorable _
    (fun _ queued => List.mem_reverse.mp queued)) ?_
  rintro failures _ ⟨tree, rfl, after, visited⟩
  refine demand_rule ?_ ⟨tree, rfl, after⟩
  intro none
  have restoring := visited (of_decide_eq_true none)
    (Restoring.initial restorable clean)
  exact ⟨tree, rfl, restoring.same recoverable.free⟩

omit recoverable legal restorable in
/-- The final cleanup empties the replacement roots before it removes backups. -/
theorem cleanupFilesystemRollback_holds :
    Holds (Exposed input) (cleanupFilesystemRollback platform input) state
      (fun _ after => ∃ middle, Beside middle after /\
        Within state (Swept platform input state.target) middle)
      (fun _ after => Within state (SameButPrivate platform input state.target) after \/
        ∃ middle, Beside middle after /\
          Within state (Swept platform input state.target) middle) := by
  refine holds_call cleanupFilesystemReplacementRoots_holds ?_ (fun _ _ ended => .inl ended)
  intro _ middle cleaned
  have still := Beside.refl middle
  apply holds_bind
  refine look_rule ?_ (.inr ⟨middle, still, cleaned⟩)
  intro found _
  split
  · exact holds_pure ⟨middle, still, cleaned⟩
  split
  · exact onRollback_rule (fun _ _ => ⟨middle, ⟨_, _, _, rfl⟩, cleaned⟩)
      (.inr ⟨middle, still, cleaned⟩)
  apply holds_bind
  refine demand_rule ?_ (.inr ⟨middle, still, cleaned⟩)
  intro _
  exact holds_mono (removePrivateTreeInventory_keeps _ still)
    (fun _ _ beside => ⟨middle, beside, cleaned⟩)
    (fun _ _ beside => .inr ⟨middle, beside, cleaned⟩)

include shown

/-- A rollback that returns has restored the original target; one that ends
early leaves a sound state. -/
theorem rollBack_holds : Holds (Exposed input) (rollBack platform input) state
      (fun _ after => after.target.Same original /\ after.committed = state.committed)
      (fun _ after => Sound platform original input after /\ after.committed = state.committed) := by
  refine holds_call cleanupFilesystemReplacementRoots_holds ?_ ?_
  · rintro _ _ ⟨swept, rfl, outside, clean⟩
    refine holds_call (restoreFilesystemRollback_holds recoverable legal
      (restorable.sameButPrivate legal recoverable.review recoverable.free outside) clean) ?_ ?_
    · rintro _ _ ⟨restored, rfl, same⟩
      have settled : ∀ middle after, Beside middle after ->
          Within { state with target := restored } (Swept platform input restored) middle ->
          after.target.Same original /\ after.committed = state.committed := by
        rintro _ _ ⟨rollback, preparation, owner, rfl⟩ ⟨tree, rfl, swept⟩
        exact ⟨swept.same recoverable.free same, rfl⟩
      refine holds_mono cleanupFilesystemRollback_holds ?_ ?_
      · rintro _ after ⟨middle, beside, cleaned⟩
        exact settled middle after beside cleaned
      · rintro _ after (⟨tree, rfl, outside⟩ | ⟨middle, beside, cleaned⟩)
        · exact ⟨Sound.of_restorable legal shown ((restorable_of_same same).sameButPrivate legal
            recoverable.review recoverable.free outside), rfl⟩
        · rcases settled middle after beside cleaned with ⟨same, committed⟩
          exact ⟨Sound.of_same same (fun _ => legal), committed⟩
    · rintro _ _ ⟨tree, rfl, after⟩
      exact ⟨Sound.of_restorable legal shown after, rfl⟩
  · rintro _ _ ⟨tree, rfl, outside⟩
    exact ⟨Sound.of_restorable legal shown (restorable.sameButPrivate legal recoverable.review
      recoverable.free outside), rfl⟩

/-! ## The phases of a call -/

variable {post : Unit -> SyncState -> Prop}

/-- A state in which the target is the original one and nothing was committed
since `start`. -/
structure Settled (platform : SyncPlatform) (original : FileTree Content)
    (input : ApplyStagedFilesystemChangesInput) (start state : SyncState) : Prop where
  same : state.target.Same original
  sound : Sound platform original input state
  committed : state.committed = start.committed

omit recoverable legal shown restorable

include recoverable sound

theorem recoverFilesystemRollback_holds :
    Holds (Exposed input) (recoverFilesystemRollback platform input) state
      (fun _ => Settled platform original input state)
      (fun _ after => Sound platform original input after /\ after.committed = state.committed) := by
  refine holds_call readFilesystemRollbackMarker_holds ?_ ?_
  · rintro _ _ (⟨rfl, rfl, shown⟩ | ⟨rfl, rfl, empty⟩)
    · rcases sound.published shown with ⟨legal, restorable⟩
      refine holds_mono (rollBack_holds recoverable legal shown restorable) ?_
        (fun _ _ ended => ended)
      rintro _ after ⟨same, committed⟩
      exact ⟨same, Sound.of_same same (fun _ => legal), committed⟩
    · have same : state.target.Same original := by
        apply sound.unpublished
        rintro ⟨root, present, notEmpty⟩
        rw [empty root present] at notEmpty
        cases notEmpty
      have settled : Settled platform original input state { state with rollback := none } :=
        ⟨same, Sound.of_same same (by rintro ⟨_, never, _⟩; cases never), rfl⟩
      exact holds_mono (keeps_forM (fun _ _ => keeps_bind keeps_reading (fun _ => demand_keeps))
        settled) (fun _ _ ended => ended) (fun _ _ ended => ⟨ended.sound, ended.committed⟩)
  · rintro _ _ rfl
    exact ⟨sound, rfl⟩

/-- The recovery phase of a call. -/
theorem recoveryPhase_holds : Holds (Exposed input) (recoveryPhase platform input) state
      (fun _ => Settled platform original input state)
      (fun _ after => Sound platform original input after /\ after.committed = state.committed) := by
  have kept : Sound platform original input state /\ state.committed = state.committed :=
    ⟨sound, rfl⟩
  refine holds_then (keeps_reading kept) ?_
  intro _ _ kept
  refine holds_then (keeps_reading kept) ?_
  intro _ _ kept
  refine holds_then (keeps_forM (fun _ _ => keeps_bind demand_keeps (fun _ => demand_keeps))
    kept) ?_
  intro _ _ kept
  refine holds_then (assertReplacementPaths_keeps _ _ kept) ?_
  intro _ _ kept
  refine holds_then (cleanupFilesystemRollbackPreparation_keeps ?_ kept) ?_
  · rintro _ _ ⟨sound, committed⟩ ⟨_, _, rfl⟩
    exact ⟨⟨sound.published, sound.unpublished⟩, committed⟩
  · rintro _ middle ⟨sound, committed⟩
    refine holds_mono (recoverFilesystemRollback_holds recoverable sound) ?_ ?_
    · intro _ after settled
      exact ⟨settled.same, settled.sound, settled.committed.trans committed⟩
    · rintro _ after ⟨ended, still⟩
      exact ⟨ended, still.trans committed⟩

omit recoverable sound

/-- An error after which a call does not claim to have undone its writes. -/
def SyncError.leavesWrites : SyncError -> Bool
  | .applyAndRollback _ _ => true
  | .persist unknown => unknown
  | _ => false

/-- A finalizer either commits the result or leaves the state alone.  The only
error it raises after a commit says that the commit is unknown. -/
theorem persistResult_holds (reply : PersistReply) (result : WorkspaceApplyResult) :
    Holds (Exposed input) (persistResult reply result) state
      (fun _ after => after = { state with committed := some result })
      (fun reason after => after = state \/
        (reason = .thrown (.persist true) /\ after = { state with committed := some result })) := by
  unfold persistResult
  split
  · refine holds_atomic ?_ (fun _ _ => .inl rfl) (fun _ => ⟨.inl rfl, .inl rfl⟩)
    intro written wrote
    cases wrote
    rfl
  · exact holds_raise (.inl rfl)
  next durable =>
    apply holds_bind
    refine holds_atomic ?_ (fun _ _ => .inl rfl) (fun _ => ⟨.inl rfl, .inl rfl⟩)
    intro written wrote
    cases wrote
    apply holds_raise
    cases durable with
    | true => exact .inr ⟨rfl, rfl⟩
    | false => exact .inl rfl

/-- Where a call stands when it ends: its result is committed, or the state is
sound and an error that does not say otherwise comes with the original target. -/
def Ended (platform : SyncPlatform) (original : FileTree Content)
    (input : ApplyStagedFilesystemChangesInput) (reason : Halt SyncError) (state : SyncState) : Prop :=
  state.committed ≠ none \/ (Sound platform original input state /\
    ∀ error, reason = .thrown error -> error.leavesWrites = false -> state.target.Same original)

theorem Settled.ended (settled : Settled platform original input start state)
    (reason : Halt SyncError) : Ended platform original input reason state :=
  .inr ⟨settled.sound, fun _ _ _ => settled.same⟩

include recoverable legal shown restorable

/-- The handler undoes the writes, or says that it could not. -/
theorem undoAndReport_holds (error : SyncError) :
    Holds (Exposed input) (undoAndReport platform input error) state post
      (Ended platform original input) := by
  apply holds_bind
  refine holds_attempt (holds_mono (rollBack_holds recoverable legal shown restorable) ?_ ?_)
  · rintro _ after ⟨same, _⟩
    exact holds_raise (.inr ⟨Sound.of_same same (fun _ => legal), fun _ _ _ => same⟩)
  · rintro reason after ⟨sound, _⟩
    cases reason with
    | stopped => exact .inr ⟨sound, nofun⟩
    | thrown =>
      refine holds_raise (.inr ⟨sound, ?_⟩)
      rintro _ ⟨⟩ never
      cases never

theorem handleFailure_holds (error : SyncError) :
    Holds (Exposed input) (handleFailure platform input error) state post
      (Ended platform original input) := by
  unfold handleFailure
  split
  · refine holds_raise (.inr ⟨Sound.of_restorable legal shown restorable, ?_⟩)
    rintro _ ⟨⟩ never
    cases never
  · exact undoAndReport_holds recoverable legal shown restorable error

omit shown in
/-- Every write of a call and its commit, up to the point where it ends. -/
theorem writes_holds (reply : PersistReply) : Holds (Exposed input) (do
        input.changeSet.changedPaths.forM (applyPath platform input)
        persistResult reply (appliedResult input) : SyncEffect Unit) state
      (fun _ after => after.committed ≠ none)
      (fun reason after => Within state (Restorable platform original input) after \/
        (reason = .thrown (.persist true) /\ after.committed ≠ none)) := by
  refine holds_then (holds_forM (fun _ => Within state (Restorable platform original input))
    (Within.intro restorable) ?_) ?_
  · intro edit rest before suffix reached
    exact holds_mono (applyPath_keeps recoverable.review recoverable.free legal
      (suffix.subset List.mem_cons_self) reached) (fun _ _ ended => ended)
      (fun _ _ ended => .inl ended)
  · intro _ wrote reached
    refine holds_mono (persistResult_holds reply _) ?_ ?_
    · rintro _ _ rfl
      exact nofun
    · rintro reason after (still | ⟨unknown, rfl⟩)
      · exact .inl (still ▸ reached)
      · exact .inr ⟨unknown, nofun⟩

omit restorable

/-- Writing the reviewed paths and committing the result. -/
theorem writeAndPersist_holds (same : state.target.Same original) (reply : PersistReply) :
    Holds (Exposed input) (writeAndPersist platform input reply) state
      (fun _ after => after.committed ≠ none) (Ended platform original input) := by
  apply holds_bind
  refine holds_attempt (holds_mono
    (writes_holds recoverable legal (restorable_of_same same) reply) ?_ ?_)
  · intro _ after committed
    exact holds_pure committed
  · rintro reason after (⟨tree, rfl, restorable⟩ | ⟨rfl, committed⟩)
    · have stillPublished : Published { state with target := tree } := shown
      cases reason with
      | stopped => exact .inr ⟨Sound.of_restorable legal stillPublished restorable, nofun⟩
      | thrown error =>
        exact handleFailure_holds recoverable legal stillPublished restorable error
    · exact holds_raise (.inl committed)

omit legal shown

omit recoverable in
/-- The last cleanup leaves the committed result alone. -/
theorem cleanupFilesystemRollback_committed :
    Holds (Exposed input) (cleanupFilesystemRollback platform input) state
      (fun _ after => after.committed = state.committed)
      (fun _ after => after.committed = state.committed) := by
  have kept : ∀ middle after property, Beside middle after -> Within state property middle ->
      after.committed = state.committed := by
    rintro _ _ property ⟨_, _, _, rfl⟩ ⟨_, rfl, _⟩
    rfl
  refine holds_mono cleanupFilesystemRollback_holds ?_ ?_
  · rintro _ after ⟨middle, beside, cleaned⟩
    exact kept middle after _ beside cleaned
  · rintro _ after (within | ⟨middle, beside, cleaned⟩)
    · exact kept after after _ (Beside.refl after) within
    · exact kept middle after _ beside cleaned

/-- A call after its recovery phase. -/
theorem applyPhase_holds (settled : Settled platform original input start state)
    (reply : PersistReply) : Holds (Exposed input) (applyPhase platform input reply) state
      (fun _ after => after.committed ≠ none) (Ended platform original input) := by
  refine holds_call (keeps_bind (keeps_forM (fun _ _ => demand_keeps)) (fun _ => keeps_reading)
    settled) ?_ (fun reason _ ended => ended.ended reason)
  · intro conflicts state settled
    have same := settled.same
    split
    · refine holds_call (persistResult_holds reply _) ?_ ?_
      · rintro _ _ rfl
        exact holds_pure nofun
      · rintro reason _ (rfl | ⟨_, rfl⟩)
        · exact settled.ended reason
        · exact .inl nofun
    · apply holds_bind
      have prepared : ∀ after, PublishedWith platform input state after ->
          after.target.Same original /\ (Published after -> Admissible platform original input) := by
        rintro _ ⟨⟨rollback, preparation, owner, rfl⟩, still | fits⟩
        · refine ⟨same, fun shown => (settled.sound.published ?_).1⟩
          rcases shown with ⟨root, present, notEmpty⟩
          exact ⟨root, still ▸ present, notEmpty⟩
        · refine ⟨same, fun _ edit mem => ?_⟩
          unfold requireTargetMatchesBefore readFilesystemFileState
          rw [<- requireExisting_congr same]
          exact fits edit mem
      refine holds_mono prepareFilesystemRollback_holds ?_ ?_
      · intro _ ready shown
        rcases prepared ready shown with ⟨readySame, admits⟩
        have readySound : Sound platform original input ready := Sound.of_same readySame admits
        refine holds_call readFilesystemRollbackMarker_holds ?_ ?_
        · rintro found marked (⟨rfl, still, present⟩ | ⟨rfl, rfl, _⟩)
          · rw [still]
            apply holds_bind
            refine holds_pure ?_
            refine holds_then (writeAndPersist_holds recoverable (admits present) present readySame
              reply) ?_
            intro _ wrote committed
            refine holds_call cleanupFilesystemRollback_committed ?_ ?_
            · intro _ cleaned kept
              exact holds_pure (kept ▸ committed)
            · intro _ cleaned kept
              exact .inl (kept ▸ committed)
          · apply holds_bind
            refine holds_raise (.inr ⟨Sound.of_same readySame ?_, fun _ _ _ => readySame⟩)
            rintro ⟨_, never, _⟩
            cases never
        · rintro reason _ rfl
          exact .inr ⟨readySound, fun _ _ _ => readySame⟩
      · intro reason ended shown
        rcases prepared ended shown with ⟨endedSame, admits⟩
        exact .inr ⟨Sound.of_same endedSame admits, fun _ _ _ => endedSame⟩

/-! ## Runs of calls -/

include sound

theorem runApply_sound (call : ApplyCall) (spared : Spares (Exposed input) call.faults)
    (uncommitted : (runApply platform input call state).2.committed = none) :
    Sound platform original input (runApply platform input call state).2 := by
  have held : Holds (Exposed input) (applyStagedFilesystemChanges platform input call.reply) state
      (fun _ after => after.committed ≠ none)
      (fun _ after => after.committed ≠ none \/ Sound platform original input after) := by
    refine holds_call (recoveryPhase_holds recoverable sound) ?_ (fun _ _ ended => .inr ended.1)
    intro _ recovered settled
    refine holds_mono (applyPhase_holds recoverable settled call.reply) (fun _ _ ended => ended) ?_
    rintro _ after (committed | ⟨ended, _⟩)
    · exact .inl committed
    · exact .inr ended
  cases ran : (applyStagedFilesystemChanges platform input call.reply ⟨state, call.faults⟩).1 with
  | ok => exact absurd uncommitted (held.returned spared ran)
  | error =>
    rcases held.ended spared ran with committed | ended
    · exact absurd uncommitted committed
    · exact ended

def uncommitted (platform : SyncPlatform) (input : ApplyStagedFilesystemChangesInput)
    (calls : List ApplyCall) (state : SyncState) : Bool :=
  everyStep (fun call current => (runApply platform input call current).2)
    (fun call current => (runApply platform input call current).2.committed.isNone) calls state

theorem stateAfter_sound {calls : List ApplyCall}
    (spared : ∀ call ∈ calls, Spares (Exposed input) call.faults)
    (none : uncommitted platform input calls state) :
    Sound platform original input (stateAfter platform input calls state) := by
  induction calls generalizing state with
  | nil => exact sound
  | cons call rest ih =>
    rcases Bool.and_eq_true_iff.mp none with ⟨first, others⟩
    refine ih ?_ (fun later queued => spared later (List.mem_cons_of_mem _ queued)) others
    exact runApply_sound recoverable sound call (spared call List.mem_cons_self)
      (Option.isNone_iff_eq_none.mp first)

omit recoverable sound

/-- A call whose recovery phase returned goes on with its apply phase. -/
theorem applyStaged_of_recovered {world : World SyncState (Option Content)} (reply : PersistReply)
    (recovered : (recoveryPhase platform input world).1 = .ok ()) :
    applyStagedFilesystemChanges platform input reply world =
      applyPhase platform input reply (recoveryPhase platform input world).2 := by
  change Writes.andThen _ _ world = _
  unfold Writes.andThen
  rcases ran : recoveryPhase platform input world with ⟨answer, after⟩
  rw [ran] at recovered
  cases recovered
  rfl

/-- Filesystem apply is all or nothing: after any calls for a review that
committed nothing, each struck by any faults in exposed states, a recovery phase that returns
has restored the original target, and so has a call that reports an error of its
apply phase, unless the error says that the rollback failed or the commit is
unknown. -/
theorem filesystem_apply_all_or_nothing
    (recoverable : Recoverable platform ignored original edited input)
    (untouched : state.target.Same original) (fresh : state.rollback = none)
    (calls : List ApplyCall) (spared : ∀ call ∈ calls, Spares (Exposed input) call.faults)
    (none : uncommitted platform input calls state) :
    (∀ faults, Spares (Exposed input) faults ->
      (recoveryPhase platform input ⟨stateAfter platform input calls state, faults⟩).1 =
        .ok () -> (recoveryPhase platform input
        ⟨stateAfter platform input calls state, faults⟩).2.state.target.Same original) /\
    ∀ call error, Spares (Exposed input) call.faults ->
      (recoveryPhase platform input ⟨stateAfter platform input calls state, call.faults⟩).1 =
        .ok () -> (runApply platform input call (stateAfter platform input calls state)).1 =
        .error (.thrown error) -> error.leavesWrites = false ->
      (runApply platform input call (stateAfter platform input calls state)).2.committed =
        Option.none -> (runApply platform input call
        (stateAfter platform input calls state)).2.target.Same original := by
  have initial : Sound platform original input state := by
    refine Sound.of_same untouched ?_
    rintro ⟨root, present, _⟩
    rw [fresh] at present
    cases present
  have sound := stateAfter_sound recoverable initial spared none
  have phase : Holds (Exposed input) (recoveryPhase platform input)
      (stateAfter platform input calls state) _ _ := recoveryPhase_holds recoverable sound
  refine ⟨fun faults spares recovered => (phase.returned spares recovered).same, ?_⟩
  intro call error spares recovered thrown reported uncommitted
  have settled := phase.returned spares recovered
  have ran := applyStaged_of_recovered call.reply recovered
  unfold runApply at thrown uncommitted ⊢
  rw [ran] at thrown uncommitted ⊢
  rcases (applyPhase_holds recoverable settled call.reply).ended (phase call.faults spares).1 thrown
    with committed | ⟨_, same⟩
  · exact absurd uncommitted committed
  · exact same error rfl reported

end Recovery

/-! ## A directory that a recovery leaves behind -/

/-- A hash without collisions, on which runs can be evaluated. -/
def plainPlatform : SyncPlatform := ⟨id, id⟩

def treeOf (nodes : List (Path × Node Content)) : FileTree Content :=
  nodes.foldl (fun tree entry => (tree.place entry.1 entry.2).toOption.getD tree) FileTree.empty

def reviewBetween (original edited : FileTree Content) : ApplyStagedFilesystemChangesInput where
  workspaceId := "w"
  reviewId := "r"
  changeSet := (buildFilesystemWorkspaceChangeSet "c"
    (createFilesystemSnapshotManifest plainPlatform [] original)
    (createFilesystemSnapshotManifest plainPlatform [] edited)).toOption.getD ⟨"c", []⟩
  before := createFilesystemSnapshotManifest plainPlatform [] original
  stagingRootIdentity := "s"
  targetRoot := "t"
  targetRootIdentity := "t"

def untouchedState (original edited : FileTree Content) : SyncState :=
  ⟨original, edited, "t", "s", none, none, none, none⟩

/-- A call during which the process stops after a number of steps, if it may stop there. -/
def stoppedAfter (steps : Nat) (may : SyncState -> Bool) : ApplyCall :=
  ⟨.commits, List.replicate steps (fun _ => none) ++
    [fun state => if may state then some (.stops none) else none]⟩

theorem stoppedAfter_spares (steps : Nat) (may : SyncState -> Bool) :
    Spares (fun state => may state) (stoppedAfter steps may).faults := by
  intro fault mem state strikes
  rcases List.mem_append.mp mem with quiet | last
  · rw [List.eq_of_mem_replicate quiet] at strikes
    exact absurd rfl strikes
  · rw [List.mem_singleton.mp last] at strikes
    by_contra never
    exact strikes (if_neg never)

/-- One added file below two new directories. -/
def nestedAddition : FileTree Content :=
  treeOf [(["d"], .directory standardDirectory), (["d", "e"], .directory standardDirectory),
    (["d", "e", "x"], .file "n" 0o644)]

/-- The process stops between the two directories.  The next recovery looks for
the inner one first, does not find it, and leaves the outer one. -/
theorem recovery_leaves_created_directory :
    let input := reviewBetween FileTree.empty nestedAddition
    let stopped := (runApply plainPlatform input (stoppedAfter 19 (fun _ => true))
      (untouchedState FileTree.empty nestedAddition)).2
    let recovery := recoveryPhase plainPlatform input ⟨stopped, []⟩
    buildFilesystemWorkspaceChangeSet "c"
        (createFilesystemSnapshotManifest plainPlatform [] FileTree.empty)
        (createFilesystemSnapshotManifest plainPlatform [] nestedAddition) = .ok input.changeSet /\
      stopped.committed = none /\ recovery.1 = .ok () /\
      recovery.2.state.target.node? ["d"] = some (.directory standardDirectory) /\
      (FileTree.empty : FileTree Content).node? ["d"] = none := by
  decide +kernel

/-- A modified, a deleted and an added file, the last below two new directories. -/
def mixedOriginal : FileTree Content :=
  treeOf [(["o"], .file "a" 0o644), (["p"], .file "a" 0o644)]

def mixedEdit : FileTree Content :=
  treeOf [(["o"], .file "b" 0o755), (["d"], .directory standardDirectory),
    (["d", "e"], .directory standardDirectory), (["d", "e", "x"], .file "n" 0o644)]

theorem mixed_recoverable :
    Recoverable plainPlatform [] mixedOriginal mixedEdit (reviewBetween mixedOriginal mixedEdit) where
  injective := Function.injective_id
  review := ⟨rfl, by decide +kernel⟩
  free := by
    unfold PrivateNamesFree
    decide +kernel
  plain := by
    have known : ∀ edit ∈ (reviewBetween mixedOriginal mixedEdit).changeSet.changedPaths,
        mixedOriginal.node? edit.path = none \/
          mixedOriginal.node? edit.path = some (.file "a" 0o644) := by
      decide +kernel
    intro edit mem content mode found
    rcases known edit mem with absent | file
    · cases found.symm.trans absent
    · cases found.symm.trans file
      rfl

/-- The process stops when every path has been written but nothing is committed. -/
theorem mixed_apply_undone :
    let input := reviewBetween mixedOriginal mixedEdit
    let stopped := stateAfter plainPlatform input
      [stoppedAfter 65 (fun state => covered input state.target)]
      (untouchedState mixedOriginal mixedEdit)
    stopped.target.node? ["p"] = none /\ stopped.target.node? ["d", "e", "x"] ≠ none /\
      (recoveryPhase plainPlatform input ⟨stopped, []⟩).2.state.target.Same mixedOriginal := by
  refine ⟨by decide +kernel, by decide +kernel, ?_⟩
  refine (filesystem_apply_all_or_nothing mixed_recoverable (fun _ => rfl) rfl _ ?_
    (by decide +kernel)).1 [] (by simp [Spares]) (by decide +kernel)
  intro call mem
  rw [List.mem_singleton.mp mem]
  exact stoppedAfter_spares _ _

end FilesystemSync
end OpenKit
