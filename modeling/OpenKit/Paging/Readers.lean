import Mathlib.Data.String.Basic
import Mathlib.Data.Prod.Lex
import OpenKit.Foundation.Keyset
import OpenKit.Foundation.Table

namespace OpenKit
namespace Paging

open Foundation List

/-!
# Paged readers

Three readers of retained rows.  A row has the columns that its query compares;
its family's own decoder reads the others.
-/

structure SchedulerAdmissionEntryRow where
  schemaVersion : Int
  (queueEntryId workspaceId status enqueuedAt columns : String)

structure PendingRequestRow where
  schemaVersion : Int
  (requestId workspaceId threadId createdAt columns : String)

structure AttemptRow where
  (schemaVersion rowid : Int)
  (workspaceId threadId turnId columns : String)

def SchedulerAdmissionEntryRow.key (row : SchedulerAdmissionEntryRow) : String ×ₗ String :=
  toLex (row.enqueuedAt, row.queueEntryId)

def PendingRequestRow.key (row : PendingRequestRow) : String ×ₗ String :=
  toLex (row.createdAt, row.requestId)

/-- The condition of a query with a cursor of two columns. -/
def isAfter (first second : String) (after : String ×ₗ String) : Bool :=
  (ofLex after).1 < first || (first = (ofLex after).1 && (ofLex after).2 < second)

/-- It agrees with the order of the query. -/
theorem isAfter_eq (first second : String) (after : String ×ₗ String) :
    isAfter first second after = decide (after < toLex (first, second)) := by
  rw [Bool.eq_iff_iff, decide_eq_true_iff, Prod.Lex.lt_iff, isAfter, Bool.or_eq_true_iff,
    Bool.and_eq_true_iff, decide_eq_true_iff, decide_eq_true_iff, decide_eq_true_iff,
    eq_comm (a := first)]
  rfl

variable {record : Type}

/-- Checks the record marker before the decoder. -/
def readRetainedV1 (schemaVersion : Int) (decoded : Except String record) : Except String record :=
  if schemaVersion ≠ 1 then .error "Unsupported retained record format." else decoded

section Readers

variable (size : Nat)

/-- A row that does not decode throws. -/
def readSchedulerAdmissionPagesForWorkspace
    (decode : SchedulerAdmissionEntryRow -> Except String record)
    (rows : List SchedulerAdmissionEntryRow) (workspaceId : String) (statuses : List String) :
    Option (Except String (List (List record))) :=
  if statuses = [] then some (.ok [])
  else (keysetPages SchedulerAdmissionEntryRow.key
    (fun after row => isAfter row.enqueuedAt row.queueEntryId after)
    (rows.filter fun row => row.workspaceId = workspaceId && row.status ∈ statuses) size false).map
      (·.mapM (mapM fun row => readRetainedV1 row.schemaVersion (decode row)))

/-- A row that does not parse is left out. -/
def readThreadPendingRequestPages (parse : PendingRequestRow -> Except String record)
    (rows : List PendingRequestRow) (workspaceId threadId : String) : Option (List (List record)) :=
  (keysetPages PendingRequestRow.key
    (fun after row => isAfter row.createdAt row.requestId after)
    (rows.filter fun row => row.workspaceId = workspaceId && row.threadId = threadId) size true).map
      (·.map (filterMap fun row => (readRetainedV1 row.schemaVersion (parse row)).toOption))

def readSchedulerExecutionAttemptPagesForTurn (decode : AttemptRow -> Except String record)
    (rows : List AttemptRow) (workspaceId threadId turnId : String) :
    Option (Except String (List (List record))) :=
  (keysetPages AttemptRow.rowid (fun after row => after < row.rowid)
    (rows.filter fun row => row.workspaceId = workspaceId && row.threadId = threadId &&
      row.turnId = turnId) size false).map
      (·.mapM (mapM fun row => readRetainedV1 row.schemaVersion (decode row)))

end Readers

theorem mapM_flatten {row : Type} (decode : row -> Except String record) (pages : List (List row)) :
    (pages.mapM (mapM decode)).map flatten = pages.flatten.mapM decode := by
  induction pages with
  | nil => rfl
  | cons page pages ih =>
    rw [flatten_cons, mapM_append, mapM_cons, <- ih]
    cases mapM decode page <;> cases pages.mapM (mapM decode) <;> rfl

/-- Keys that tell the rows apart tell those of a selection apart. -/
theorem nodup_selected {row id key : Type} {idOf : row -> id} (table : Table row id idOf)
    (keyOf : row -> key) (idOfKey : key -> id) (same : idOfKey ∘ keyOf = idOf)
    (selects : row -> Bool) : ((table.rows.filter selects).map keyOf).Nodup := by
  apply Nodup.of_map idOfKey
  rw [map_map, same]
  exact table.unique.sublist (filter_sublist.map _)

/-- For every positive page size the pages joined are the rows of the selection in the
declared order.  Where a row does not decode, the pending requests leave it out and
the other readers throw. -/
theorem keyset_readers_return_selection (size : Nat) (workspaceId threadId turnId : String)
    (statuses : List String) (entries : Table SchedulerAdmissionEntryRow String (·.queueEntryId))
    (requests : Table PendingRequestRow String (·.requestId))
    (attempts : Table AttemptRow Int (·.rowid))
    (decodeEntry : SchedulerAdmissionEntryRow -> Except String record)
    (parse : PendingRequestRow -> Except String record)
    (decodeAttempt : AttemptRow -> Except String record) :
    (readSchedulerAdmissionPagesForWorkspace (size + 1) decodeEntry entries.rows workspaceId
        statuses).map (·.map flatten) =
      some ((inOrder SchedulerAdmissionEntryRow.key (entries.rows.filter fun row =>
        row.workspaceId = workspaceId && row.status ∈ statuses)).mapM
          fun row => readRetainedV1 row.schemaVersion (decodeEntry row)) /\
    (readThreadPendingRequestPages (size + 1) parse requests.rows workspaceId
        threadId).map flatten =
      some ((inOrder PendingRequestRow.key (requests.rows.filter fun row =>
        row.workspaceId = workspaceId && row.threadId = threadId)).filterMap
          fun row => (readRetainedV1 row.schemaVersion (parse row)).toOption) /\
    (readSchedulerExecutionAttemptPagesForTurn (size + 1) decodeAttempt attempts.rows workspaceId
        threadId turnId).map (·.map flatten) =
      some ((inOrder AttemptRow.rowid (attempts.rows.filter fun row =>
        row.workspaceId = workspaceId && row.threadId = threadId && row.turnId = turnId)).mapM
          fun row => readRetainedV1 row.schemaVersion (decodeAttempt row)) := by
  refine ⟨?_, ?_, ?_⟩
  · unfold readSchedulerAdmissionPagesForWorkspace
    split
    next none => simp [none, inOrder, Except.map, pure, Except.pure]
    · rcases flatten_keysetPages (nodup_selected entries SchedulerAdmissionEntryRow.key
        (fun key => (ofLex key).2) rfl _) (fun after row => isAfter_eq row.enqueuedAt
          row.queueEntryId after) size false with ⟨pages, read, joined⟩
      rw [read, Option.map_some, Option.map_some, mapM_flatten, joined]
  · rcases flatten_keysetPages (nodup_selected requests PendingRequestRow.key
      (fun key => (ofLex key).2) rfl _) (fun after row => isAfter_eq row.createdAt row.requestId
        after) size true with ⟨pages, read, joined⟩
    rw [readThreadPendingRequestPages, read, Option.map_some, Option.map_some, <- filterMap_flatten,
      joined]
  · rcases flatten_keysetPages (nodup_selected attempts AttemptRow.rowid id rfl _)
      (fun _ _ => rfl) size false with ⟨pages, read, joined⟩
    rw [readSchedulerExecutionAttemptPagesForTurn, read, Option.map_some, Option.map_some,
      mapM_flatten, joined]

/-- A row of another format is lost. -/
theorem unsupported_request_is_left_out :
    readThreadPendingRequestPages 128 (fun row => .ok row.requestId)
      [⟨2, "preq", "w", "t", "2026", ""⟩] "w" "t" = some [[]] := by
  simp [readThreadPendingRequestPages, keysetPages, keysetPagesFrom, keysetPage, inOrder,
    readRetainedV1, Except.toOption]

end Paging
end OpenKit
