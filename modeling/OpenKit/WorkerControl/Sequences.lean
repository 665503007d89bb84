import OpenKit.Foundation.Table
import OpenKit.Foundation.Transactions

namespace OpenKit
namespace WorkerControl

open Foundation Table

/-!
# Worker control sequences

Every sequenced operation of a worker session is a stream.  The recorder keeps one
fingerprint for each accepted sequence of a stream, answers a replay from it, and
refuses what is older than the newest sequence.
-/

/-! ## The recorder -/

structure WorkerControlLineage where
  (workspaceId threadId turnId agentSessionId packageSnapshotId : String)
  requestId : Option String

structure WorkerControlSequenceRecorderInput where
  lineage : WorkerControlLineage
  operation : String
  sequence : Nat
  /-- JSON text. -/
  fingerprint : String

/-- A row of `worker_control_sequence_fingerprints`: an input and the time of its call. -/
structure SequenceFingerprint extends WorkerControlSequenceRecorderInput where
  acceptedAt : String

/-- An operation of a worker session. -/
abbrev Stream := String × String × String

def SequenceFingerprint.stream (row : SequenceFingerprint) : Stream :=
  (row.lineage.agentSessionId, row.lineage.packageSnapshotId, row.operation)

/-- The primary key. -/
def SequenceFingerprint.key (row : SequenceFingerprint) : Stream × Nat :=
  (row.stream, row.sequence)

abbrev SequenceTable := Table SequenceFingerprint (Stream × Nat) SequenceFingerprint.key

inductive WorkerControlSequenceRecorderResult where
  | accepted (duplicate : Bool) (nextExpectedSequence : Nat)
  | conflict (code message : String)
  | stale (code message : String)

def highestAcceptedSequence (table : SequenceTable) (stream : Stream) : Option Nat :=
  ((table.rows.filter (·.stream = stream)).map (·.sequence)).max?

def nextExpectedSequence (table : SequenceTable) (stream : Stream) : Nat :=
  match highestAcceptedSequence table stream with
  | none => 0
  | some highest => highest + 1

variable {Json : Type} [DecidableEq Json] (parse : String -> Option Json)

/-- Whether two texts denote one value; a text that `JSON.parse` refuses denotes none. -/
def sameContent (stored given : String) : Bool :=
  match parse stored, parse given with
  | some left, some right => left = right
  | _, _ => false

/-- Accepts or rejects one fingerprint, given as the row that it would be stored in. -/
def acceptWorkerControlSequence (input : SequenceFingerprint) (table : SequenceTable) :
    WorkerControlSequenceRecorderResult × SequenceTable :=
  match table.find? input.key with
  | some existing =>
    if sameContent parse existing.fingerprint input.fingerprint then
      (.accepted true (nextExpectedSequence table input.stream), table)
    else
      (.conflict "worker_control_sequence_conflict"
        ("Worker control " ++ input.operation ++
          " sequence already accepted with different content: " ++ toString input.sequence), table)
  | none =>
    if (highestAcceptedSequence table input.stream).any (input.sequence < ·) then
      (.stale "worker_control_sequence_stale"
        ("Worker control " ++ input.operation ++
          " sequence is older than the latest accepted sequence: " ++ toString input.sequence), table)
    else
      (.accepted false (nextExpectedSequence (table.insert input) input.stream), table.insert input)

/-! ## The next sequence -/

section Next

variable {table : SequenceTable} {stream : Stream}

theorem nextExpectedSequence_le_iff {bound : Nat} : nextExpectedSequence table stream <= bound <->
      ∀ row ∈ table.rows, row.stream = stream -> row.sequence < bound := by
  unfold nextExpectedSequence
  cases found : highestAcceptedSequence table stream with
  | none =>
    unfold highestAcceptedSequence at found
    rw [List.max?_eq_none_iff, List.map_eq_nil_iff, List.filter_eq_nil_iff] at found
    refine iff_of_true (Nat.zero_le _) ?_
    intro row stored inStream
    exact absurd (decide_eq_true inStream) (found row stored)
  | some =>
    rw [highestAcceptedSequence, List.max?_eq_some_iff] at found
    simp only [List.mem_map, List.mem_filter, decide_eq_true_eq] at found
    rcases found with ⟨⟨newest, ⟨stored, inStream⟩, rfl⟩, above⟩
    constructor
    · intro reached row mem same
      exact Nat.lt_of_le_of_lt (above _ ⟨row, ⟨mem, same⟩, rfl⟩) reached
    · intro below
      exact below newest stored inStream

/-- `next` is one more than the largest sequence of a stream. -/
def FollowsLargest (table : SequenceTable) (stream : Stream) (next : Nat) : Prop :=
  (∃ row ∈ table.rows, row.stream = stream /\ next = row.sequence + 1) /\
    ∀ row ∈ table.rows, row.stream = stream -> row.sequence < next

theorem nextExpectedSequence_follows {row : SequenceFingerprint} (stored : row ∈ table.rows)
    (inStream : row.stream = stream) :
    FollowsLargest table stream (nextExpectedSequence table stream) := by
  have below := nextExpectedSequence_le_iff.mp (Nat.le_refl (nextExpectedSequence table stream))
  refine ⟨?_, below⟩
  by_contra none
  -- then the number before it would do as well
  have lower : nextExpectedSequence table stream <= nextExpectedSequence table stream - 1 := by
    refine nextExpectedSequence_le_iff.mpr ?_
    intro other mem same
    have differs : nextExpectedSequence table stream ≠ other.sequence + 1 :=
      fun isNext => none ⟨other, mem, same, isNext⟩
    have less := below other mem same
    omega
  have positive := below row stored inStream
  omega

theorem highest_any_iff {sequence : Nat} :
    (highestAcceptedSequence table stream).any (sequence < ·) <->
      sequence + 1 < nextExpectedSequence table stream := by
  unfold nextExpectedSequence
  cases highestAcceptedSequence table stream <;> simp

end Next

/-! ## One message -/

variable {table : SequenceTable} {row : SequenceFingerprint}

/-- A message is a replay, is refused, or adds a row above all others of its stream. -/
theorem accept_cases (input : SequenceFingerprint) (table : SequenceTable) :
    (∃ row ∈ table.rows, row.stream = input.stream /\ acceptWorkerControlSequence parse input table =
      (.accepted true (nextExpectedSequence table input.stream), table)) \/
    (∃ refusal, acceptWorkerControlSequence parse input table = (refusal, table) /\
      ∀ duplicate next, refusal ≠ .accepted duplicate next) \/
    (table.find? input.key = none /\ nextExpectedSequence table input.stream <= input.sequence /\
      input ∈ (table.insert input).rows /\ acceptWorkerControlSequence parse input table =
        (.accepted false (nextExpectedSequence (table.insert input) input.stream),
          table.insert input)) := by
  unfold acceptWorkerControlSequence
  split
  next existing found =>
    split
    · exact .inl ⟨existing, mem_of_find? found, congrArg Prod.fst (keyOf_of_find? found), rfl⟩
    · exact .inr (.inl ⟨_, rfl, by simp⟩)
  next free =>
    split
    · exact .inr (.inl ⟨_, rfl, by simp⟩)
    rename_i newer
    rw [highest_any_iff, Nat.not_lt, nextExpectedSequence_le_iff] at newer
    refine .inr (.inr ⟨free, nextExpectedSequence_le_iff.mpr ?_, ?_, rfl⟩)
    · intro row stored inStream
      refine Nat.lt_of_le_of_ne (Nat.le_of_lt_succ (newer row stored inStream)) ?_
      intro same
      exact find?_eq_none_iff.mp free row stored (Prod.ext inStream same)
    · rw [rows_insert free]
      exact List.mem_append_right _ List.mem_cons_self

/-- No message touches an accepted row. -/
theorem find?_accept (input : SequenceFingerprint) {key : Stream × Nat}
    (found : table.find? key = some row) :
    (acceptWorkerControlSequence parse input table).2.find? key = some row := by
  rcases accept_cases parse input table with ⟨_, _, _, answered⟩ | ⟨_, answered, _⟩ |
    ⟨_, _, _, answered⟩
  · rw [answered, found]
  · rw [answered, found]
  · rw [answered, find?_insert, found, Option.some_or]

/-- How the recorder answers a message. -/
structure Answers (table : SequenceTable) (input : SequenceFingerprint) : Prop where
  replay : ∀ row value, table.find? input.key = some row -> parse row.fingerprint = some value ->
    parse input.fingerprint = some value ->
    acceptWorkerControlSequence parse input table =
      (.accepted true (nextExpectedSequence table input.stream), table)
  conflict : ∀ row, table.find? input.key = some row ->
    parse row.fingerprint ≠ parse input.fingerprint ->
    ∃ code message, acceptWorkerControlSequence parse input table = (.conflict code message, table)
  stale : ∀ row ∈ table.rows, table.find? input.key = none -> row.stream = input.stream ->
    input.sequence < row.sequence ->
    ∃ code message, acceptWorkerControlSequence parse input table = (.stale code message, table)
  next : ∀ duplicate next after,
    acceptWorkerControlSequence parse input table = (.accepted duplicate next, after) ->
    FollowsLargest after input.stream next
  stored : ∀ next after,
    acceptWorkerControlSequence parse input table = (.accepted false next, after) ->
    after.find? input.key = some input

theorem answers (table : SequenceTable) (input : SequenceFingerprint) :
    Answers parse table input where
  replay row value found stored given := by
    rw [acceptWorkerControlSequence, found]
    refine if_pos ?_
    simp [sameContent, stored, given]
  conflict row found differs := by
    rw [acceptWorkerControlSequence, found]
    refine ⟨_, _, if_neg ?_⟩
    unfold sameContent
    split
    next stored given =>
      rw [stored, given] at differs
      simpa using differs
    · exact Bool.false_ne_true
  stale row stored free inStream older := by
    rw [acceptWorkerControlSequence, free]
    refine ⟨_, _, if_pos (highest_any_iff.mpr ?_)⟩
    exact Nat.lt_of_le_of_lt older ((nextExpectedSequence_follows stored inStream).2 row stored inStream)
  next duplicate next after accepted := by
    rcases accept_cases parse input table with
      ⟨row, stored, inStream, answered⟩ | ⟨_, answered, refused⟩ | ⟨_, _, stored, answered⟩
    all_goals rw [answered] at accepted
    · cases accepted
      exact nextExpectedSequence_follows stored inStream
    · exact absurd (congrArg Prod.fst accepted) (refused duplicate next)
    · cases accepted
      exact nextExpectedSequence_follows stored rfl
  stored next after accepted := by
    rcases accept_cases parse input table with
      ⟨_, _, _, answered⟩ | ⟨_, answered, refused⟩ | ⟨_, _, stored, answered⟩
    all_goals rw [answered] at accepted
    · cases accepted
    · exact absurd (congrArg Prod.fst accepted) (refused false next)
    · cases accepted
      exact find?_of_mem stored

/-! ## Streams -/

/-- The table after messages in any order and number. -/
def sequencesAfter (messages : List SequenceFingerprint) : SequenceTable :=
  runCalls (fun input table => (acceptWorkerControlSequence parse input table).2) messages Table.empty

def addedSequence? (stream : Stream) (input : SequenceFingerprint) (table : SequenceTable) :
    Option Nat :=
  match (acceptWorkerControlSequence parse input table).1 with
  | .accepted false _ => if input.stream = stream then some input.sequence else none
  | _ => none

def acceptedSequences (stream : Stream) (messages : List SequenceFingerprint) : List Nat :=
  observations (fun input table => (acceptWorkerControlSequence parse input table).2)
    (addedSequence? parse stream) messages Table.empty

theorem acceptedSequences_increase (stream : Stream) (messages : List SequenceFingerprint) :
    (acceptedSequences parse stream messages).Pairwise (· < ·) := by
  -- the next sequence of the stream never falls, and an accepted one raises it
  refine (observations_increase (fun _ => True) (nextExpectedSequence · stream)
    (fun _ _ _ => trivial) ?_ ?_ messages trivial).1
  · intro input table _
    refine nextExpectedSequence_le_iff.mpr ?_
    intro row stored inStream
    have kept := mem_of_find? (find?_accept parse input (find?_of_mem stored))
    exact (nextExpectedSequence_follows kept inStream).2 row kept inStream
  · intro input table shown _ added
    unfold addedSequence? at added
    rcases accept_cases parse input table with
      ⟨_, _, _, answered⟩ | ⟨refusal, answered, refused⟩ | ⟨_, below, stored, answered⟩
    all_goals rw [answered] at added
    · cases added
    · split at added
      next accepted =>
        exact absurd accepted (refused false _)
      · cases added
    · rw [answered]
      dsimp only at added
      split at added
      next inStream =>
        cases added
        cases inStream
        exact ⟨below, (nextExpectedSequence_follows stored rfl).2 input stored rfl⟩
      · cases added

/-- For every sequence of messages the accepted sequences of each stream grow, an
accepted row stays for ever, and each further message is answered as it should be. -/
theorem worker_control_streams (parse : String -> Option Json) (messages : List SequenceFingerprint) :
    (∀ stream, (acceptedSequences parse stream messages).Pairwise (· < ·)) /\
    (∀ later key row, (sequencesAfter parse messages).find? key = some row ->
      (sequencesAfter parse (messages ++ later)).find? key = some row) /\
    ∀ input, Answers parse (sequencesAfter parse messages) input := by
  refine ⟨fun stream => acceptedSequences_increase parse stream messages, ?_,
    fun input => answers parse _ input⟩
  intro later key row found
  unfold sequencesAfter runCalls at found ⊢
  rw [List.foldl_append]
  exact runCalls_invariant (fun table : SequenceTable => table.find? key = some row)
    (fun input _ _ => find?_accept parse input) found

end WorkerControl
end OpenKit
