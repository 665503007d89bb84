import Mathlib.Data.Nat.Digits.Defs

namespace OpenKit
namespace Epoch

/-!
# The rebuild marker

The time of the first fence outlives the process in a marker file.  The session
thread reads it at the start and removes it when readiness has been
acknowledged; the export thread of the monitor creates it after the failure has
been published.  The gate orders the failure and the two ends of a consumption
only, so a turn is one section under the gate or one file operation.
-/

/-- Nanoseconds since the Unix epoch.  For a time outside of these
`record_fence_started_at` fails before its first file operation. -/
abbrev Nanos := UInt64

def fenceText (started : Nanos) : List Char := Nat.toDigits 10 started.toNat

/-- `value.parse::<u64>()`. -/
def parseNanos (value : List Char) : Option Nanos :=
  let digits := if value.head? = some '+' then value.tail else value
  let nanos := Nat.ofDigitChars 10 digits 0
  if digits ≠ [] /\ digits.all Char.isDigit /\ nanos < 2 ^ 64 then some (.ofNat nanos) else none

def readFenceStarted : Option (List Char) -> Except String (Option Nanos)
  | none => .ok none
  | some value =>
    match parseNanos value with
    | some nanos => .ok (some nanos)
    | none => .error "invalid fence timestamp"

inductive Thread where
  | host | monitor
deriving DecidableEq

/-- The file; a thread writes to the one that it created. -/
structure Marker where
  creator : Thread
  text : List Char
deriving DecidableEq

/-- Where the session thread is: in the start, in `record_fence_started` for the
start or to restore a removed marker, or in `commit_acknowledged_readiness`. -/
inductive HostPoint where
  | start (residualRoots : Bool) (now : Nanos)
  | record (started : Nanos) (restoring : Bool)
  | write (started : Nanos) (restoring : Bool)
  | rejected | started | check | liveness | permit
  | clear (epoch : Nat)
  | finish (epoch : Nat) (removed : Option Nanos)
  | returned (ok : Bool)
deriving DecidableEq

inductive MonitorPoint where
  | observing | record (started : Nanos) | write (started : Nanos) | done
deriving DecidableEq

structure EpochState where
  marker : Option Marker
  failed : Bool
  epoch : Nat
  fenceStarted : Option Nanos
  initialStartupDeadline : Option Nat
  readiness : Bool
  host : HostPoint
  monitor : MonitorPoint

inductive Turn where
  | host (fault : Bool) | monitor (now : Nanos)

/-- The monitor runs once the coordinator has started. -/
def HostPoint.starting : HostPoint -> Bool
  | start _ _ | rejected => true
  | record _ restoring | write _ restoring => !restoring
  | started | check | liveness | permit | clear _ | finish _ _ | returned _ => false

def Marker.write (thread : Thread) (started : Nanos) (file : Marker) : Marker :=
  if file.creator = thread then { file with text := fenceText started } else file

namespace EpochState

variable (s : EpochState)

def afterRecord (started : Nanos) (restoring : Bool) : EpochState :=
  if restoring then { s with host := .returned false }
  else { s with fenceStarted := some started, host := .started }

/-- A turn of the session thread; `fault` says whether the liveness check has
found a fault, for which it waits until the monitor has fenced the epoch. -/
def hostTurn (fault : Bool) : EpochState :=
  match s.host with
  | .start residualRoots now =>
    match readFenceStarted (s.marker.map (·.text)) with
    | .error _ => { s with host := .rejected }
    | .ok (some started) => { s with fenceStarted := some started, host := .started }
    | .ok none => { s with host := if residualRoots then .record now false else .started }
  | .record started restoring =>
    match s.marker with
    | some _ => s.afterRecord started restoring
    | none => { s with marker := some ⟨.host, []⟩, host := .write started restoring }
  | .write started restoring =>
    { s with marker := s.marker.map (.write .host started) }.afterRecord started restoring
  | .check => { s with host := if s.failed then .returned false else .liveness }
  | .liveness =>
    if fault then if s.failed then { s with host := .returned false } else s
    else { s with host := .permit }
  | .permit => { s with host := if s.failed then .returned false else .clear s.epoch }
  | .clear epoch =>
    { s with
      marker := if s.fenceStarted.isSome then none else s.marker
      host := .finish epoch s.fenceStarted }
  | .finish epoch removed =>
    if s.failed \/ s.epoch ≠ epoch then
      match removed with
      | some started => { s with host := .record started true }
      | none => { s with host := .returned false }
    else
      { s with
        readiness := true, fenceStarted := none, initialStartupDeadline := none
        host := .returned true }
  | .rejected | .started | .returned _ => s

/-- A turn of the monitor, whose export thread goes on after `fail`. -/
def monitorTurn (now : Nanos) : EpochState :=
  match s.monitor with
  | .observing =>
    if s.host.starting then s
    else { s with failed := true, epoch := s.epoch + 1, monitor := .record now }
  | .record started =>
    match s.marker with
    | some _ => { s with monitor := .done }
    | none => { s with marker := some ⟨.monitor, []⟩, monitor := .write started }
  | .write started => { s with marker := s.marker.map (.write .monitor started), monitor := .done }
  | .done => s

def step : Turn -> EpochState
  | .host fault => s.hostTurn fault
  | .monitor now => s.monitorTurn now

def run (turns : List Turn) : EpochState := turns.foldl step s

end EpochState

/-! ## One commit against the monitor -/

/-- The call on an epoch that was started with a marker. -/
def acknowledging (started : Nanos) (deadline : Option Nat) : EpochState :=
  { marker := some ⟨.host, fenceText started⟩, failed := false, epoch := 0
    fenceStarted := some started, initialStartupDeadline := deadline, readiness := false
    host := .check, monitor := .observing }

/-- Does the export thread come to the marker between its removal and its
restoration? -/
def EpochState.disturbed (s : EpochState) : Turn -> Bool
  | .host _ => false
  | .monitor _ => s.monitor matches .record _ && s.host matches .finish _ _ | .record _ true

def Undisturbed : EpochState -> List Turn -> Bool
  | _, [] => true
  | s, turn :: turns => !s.disturbed turn && Undisturbed (s.step turn) turns

def EpochState.Committed (s : EpochState) : Prop :=
  s.failed = false /\ s.readiness /\ s.fenceStarted = none /\ s.initialStartupDeadline = none

/-- What holds at the points of the session thread until it returns `Ok`. -/
def EpochState.Keeps (s : EpochState) (time : Nanos) (deadline : Option Nat) : Prop :=
  s.host ≠ .returned true ->
    s.fenceStarted = some time /\ s.initialStartupDeadline = deadline /\ s.readiness = false /\
    (∀ started, s.monitor ≠ .write started) /\
    match s.host with
    | .check | .liveness | .permit => s.marker = some ⟨.host, fenceText time⟩
    | .clear epoch =>
      s.marker = some ⟨.host, fenceText time⟩ /\ (s.failed = false -> s.epoch = epoch)
    | .finish epoch removed =>
      s.marker = none /\ removed = some time /\ (s.failed = false -> s.epoch = epoch)
    | .record started true => s.marker = none /\ started = time /\ s.failed
    | .write started true => s.marker = some ⟨.host, []⟩ /\ started = time /\ s.failed
    | .returned false => s.marker = some ⟨.host, fenceText time⟩ /\ s.failed
    | .start _ _ | .record _ false | .write _ false | .rejected | .started
    | .returned true => False

section

variable {s : EpochState} {turns : List Turn} {turn : Turn} {time : Nanos} {deadline : Option Nat}

open EpochState

theorem committed_of_turn (unreturned : s.host ≠ .returned true)
    (ok : (s.step turn).host = .returned true) : (s.step turn).Committed := by
  obtain ⟨_, _, _, _, _, _, host, monitor⟩ := s
  cases turn with
  | monitor => cases monitor <;> simp only [step, monitorTurn] at ok <;> grind
  | host =>
    cases host <;> simp only [step, hostTurn, afterRecord, Committed] at ok ⊢ <;> grind

/-- A commit that returned `Ok` has a last turn, at which no failure had been
published. -/
theorem committed_of_run (unreturned : s.host ≠ .returned true)
    (ok : (s.run turns).host = .returned true) :
    ∃ before, before <+: turns /\ (s.run before).Committed := by
  induction turns generalizing s with
  | nil => exact absurd ok unreturned
  | cons turn turns ih =>
    by_cases returned : (s.step turn).host = .returned true
    · exact ⟨[turn], by simp, committed_of_turn unreturned returned⟩
    · obtain ⟨before, ran, committed⟩ := ih returned ok
      exact ⟨turn :: before, by simpa using ran, committed⟩

theorem keeps_turn (keeps : s.Keeps time deadline) (undisturbed : s.disturbed turn = false) :
    (s.step turn).Keeps time deadline := by
  obtain ⟨_, _, _, _, _, _, host, monitor⟩ := s
  unfold Keeps at *
  cases turn with
  | monitor =>
    -- The export thread finds the marker, or the session thread has not removed it.
    cases monitor <;> simp only [step, monitorTurn, disturbed] at undisturbed ⊢ <;> grind
  | host =>
    cases host <;> simp only [step, hostTurn, afterRecord] at keeps ⊢ <;> grind [Marker.write]

theorem keeps_run (keeps : s.Keeps time deadline) (undisturbed : Undisturbed s turns) :
    (s.run turns).Keeps time deadline := by
  induction turns generalizing s with
  | nil => exact keeps
  | cons turn turns ih =>
    simp only [Undisturbed, Bool.and_eq_true, Bool.not_eq_true'] at undisturbed
    exact ih (keeps_turn keeps undisturbed.1) undisturbed.2

end

/-- A commit that returns `Ok` was not met by a failure: at its last turn it consumed the
readiness and no fence is left.  One that a failure meets keeps the first time, in the
process and, when the export thread is done, in the file. -/
theorem rebuild_marker_keeps_first_fence (time : Nanos) (deadline : Option Nat)
    (turns : List Turn) (undisturbed : Undisturbed (acknowledging time deadline) turns) :
    let last := (acknowledging time deadline).run turns
    (last.host = .returned true ->
      ∃ before, before <+: turns /\ ((acknowledging time deadline).run before).Committed) /\
    (last.host = .returned false ->
      last.failed /\ last.readiness = false /\ last.fenceStarted = some time /\
      last.initialStartupDeadline = deadline /\
      (last.monitor = .done -> last.marker.map (·.text) = some (fenceText time))) := by
  refine ⟨committed_of_run (by simp [acknowledging]), fun lost => ?_⟩
  have initial : (acknowledging time deadline).Keeps time deadline := by
    simp [EpochState.Keeps, acknowledging]
  obtain ⟨fence, deadline, readiness, -, point⟩ := keeps_run initial undisturbed (by simp [lost])
  simp only [lost] at point
  exact ⟨point.2, readiness, fence, deadline, fun _ => by simp [point.1]⟩

/-- The failure is published after the permit, and exported after the restoration. -/
theorem rebuild_marker_restored :
    ((acknowledging 5 none).run [.host false, .host false, .host false, .host false, .monitor 9,
      .host false, .host false, .host false, .monitor 9]).marker.map (·.text) =
        some (fenceText 5) := by
  refine ((rebuild_marker_keeps_first_fence 5 none _ ?_).2 ?_).2.2.2.2 ?_ <;> rfl

/-- The export thread creates the marker that the commit has removed, so the
commit does not restore the first time. -/
theorem rebuild_marker_takes_later_fence :
    let last := (acknowledging 5 none).run ([.host false, .host false, .host false, .host false,
      .monitor 9, .monitor 9, .monitor 9, .host false, .host false])
    last.host = .returned false /\ last.monitor = .done /\
      last.marker.map (·.text) = some (fenceText 9) /\ fenceText 9 ≠ fenceText 5 :=
  ⟨rfl, rfl, rfl, by decide⟩

/-! ## Crashes -/

/-- An event on the state root.  A start ends the process before it, wherever
that one was. -/
inductive HostEvent where
  | start (residualRoots : Bool) (now : Nanos) (deadline : Nat)
  | session
  | turn (turn : Turn)

namespace EpochState

variable (s : EpochState)

def next : HostEvent -> EpochState
  | .start residualRoots now deadline =>
    { marker := s.marker, failed := false, epoch := 0, fenceStarted := none
      initialStartupDeadline := some deadline, readiness := false
      host := .start residualRoots now, monitor := .observing }
  | .session =>
    if s.host = .started \/ s.host = .returned true then { s with host := .check } else s
  | .turn turn => s.step turn

/-- The time of the earliest fence that was recorded since a readiness was last
consumed.  A commit consumes it when it returns `Ok`, not when it removes the marker. -/
def earliestAfter (earliest : Option Nanos) : HostEvent -> Option Nanos
  | .turn (.host _) =>
    match s.host with
    | .record started _ => earliest.or (some started)
    | .finish epoch _ => if s.failed \/ s.epoch ≠ epoch then earliest else none
    | _ => earliest
  | .turn (.monitor _) =>
    match s.monitor with
    | .record started => earliest.or (some started)
    | _ => earliest
  | _ => earliest

/-- The time for which a thread has created the marker, until it writes it. -/
def unwritten : Thread -> Option Nanos
  | .host => match s.host with | .write started _ => some started | _ => none
  | .monitor => match s.monitor with | .write started => some started | _ => none

/-- The time whose marker a commit has removed, until it returns `Ok` or creates it again. -/
def removed : Option Nanos :=
  match s.host with
  | .finish _ removed => removed
  | .record started true => some started
  | _ => none

/-- No thread has still to write a marker that it created, or to account for one that it
removed. -/
def settled : Bool :=
  s.unwritten .host = none /\ s.unwritten .monitor = none /\ s.removed = none

def mayMeet : HostEvent -> Bool
  | .start _ _ _ => s.settled
  | .turn (.monitor _) => s.removed = none || !(s.monitor matches .record _)
  | .turn (.host _) | .session => true

/-- No process ends between the creation of a marker and its write, or between its removal
and what the commit makes of that; and the export thread does not come to the marker while
it is removed. -/
def writesFinish : EpochState -> List HostEvent -> Bool
  | s, [] => s.settled
  | s, event :: events => s.mayMeet event && writesFinish (s.next event) events

/-- The file holds the earliest time, or the export thread is going to write it. -/
def Holds (earliest : Option Nanos) : Prop :=
  match s.marker with
  | none => earliest = none
  | some file => ∃ started, earliest = some started /\
      (s.monitor = .write started /\ file.creator = .monitor \/
        (∀ other, file.creator = .monitor -> s.monitor ≠ .write other) /\
          file.text = fenceText started)

/-- What a process knows of the earliest time, and where the file has it. -/
structure Recorded (earliest : Option Nanos) : Prop where
  begun : s.host.starting -> s.failed = false /\ s.fenceStarted = none
  idle : s.failed = false -> s.monitor = .observing
  known : s.failed = false -> s.host.starting = false -> s.fenceStarted = earliest
  kept : s.fenceStarted = none \/ s.fenceStarted = earliest
  point : match s.host with
    | .record _ false => s.marker = none /\ earliest = none
    | .record started true => s.marker = none /\ earliest = some started
    | .write started _ => s.marker = some ⟨.host, []⟩ /\ earliest = some started
    | .finish _ none => s.fenceStarted = none /\ s.Holds earliest
    | .finish _ (some started) => s.fenceStarted = some started /\ s.marker = none
    | .start _ _ | .rejected | .started | .check | .liveness | .permit | .clear _
    | .returned _ => s.Holds earliest

end EpochState

/-- A state root on which no process has run, and the time that is to be found. -/
def freshRoot : EpochState × Option Nanos :=
  (⟨none, false, 0, none, none, false, .rejected, .observing⟩, none)

def observe (root : EpochState × Option Nanos) (event : HostEvent) : EpochState × Option Nanos :=
  (root.1.next event, root.1.earliestAfter root.2 event)

section

variable {s : EpochState} {events : List HostEvent} {event : HostEvent} {earliest : Option Nanos}
  {residualRoots : Bool} {now : Nanos} {deadline : Nat}

open EpochState

theorem readFenceStarted_fenceText : readFenceStarted (earliest.map fenceText) = .ok earliest := by
  cases earliest with
  | none => rfl
  | some started =>
    have digits : ∀ digit ∈ fenceText started, digit.isDigit := fun digit =>
      Nat.isDigit_of_mem_toDigits (by decide) (by decide)
    have unsigned : (fenceText started).head? ≠ some '+' := fun signed =>
      absurd (digits '+' (List.mem_of_mem_head? signed)) (by decide)
    have value : Nat.ofDigitChars 10 (fenceText started) 0 = started.toNat :=
      Nat.ofDigitChars_toDigits (by decide) (by decide)
    have nonempty : fenceText started ≠ [] := Nat.toDigits_ne_nil
    have parsed : parseNanos (fenceText started) = some started := by
      simp only [parseNanos, if_neg unsigned, value]
      rw [if_pos ⟨nonempty, List.all_eq_true.mpr digits, started.toNat_lt⟩, UInt64.ofNat_toNat]
    simp [readFenceStarted, parsed]

/-- While the export thread is not writing, the file has its whole text. -/
theorem holds_iff (idle : s.unwritten .monitor = none) :
    s.Holds earliest <-> s.marker.map (·.text) = earliest.map fenceText := by
  have still : ∀ started, s.monitor ≠ .write started := by
    intro started writes
    simp [unwritten, writes] at idle
  unfold Holds
  cases s.marker <;> cases earliest <;> simp [still]

/-- Between two processes a marker holds its whole text. -/
theorem marker_of_settled (recorded : s.Recorded earliest) (settled : s.settled) :
    s.marker.map (·.text) = earliest.map fenceText := by
  simp only [EpochState.settled, decide_eq_true_eq] at settled
  obtain ⟨wrote, idle, unremoved⟩ := settled
  rw [<- holds_iff idle]
  have point := recorded.point
  unfold unwritten at wrote
  unfold removed at unremoved
  grind [Holds]

theorem recorded_start (recorded : s.Recorded earliest) (settled : s.settled) :
    (s.next (.start residualRoots now deadline)).Recorded earliest := by
  have whole := marker_of_settled recorded settled
  have holds : (s.next (.start residualRoots now deadline)).Holds earliest :=
    (holds_iff rfl).mpr whole
  exact ⟨fun _ => ⟨rfl, rfl⟩, fun _ => rfl, fun _ started => Bool.noConfusion started, .inl rfl,
    holds⟩

/-- The export thread leaves its observation at a failure. -/
theorem failed_of_awake (recorded : s.Recorded earliest) (awake : s.monitor ≠ .observing) :
    s.failed = true := by
  by_contra live
  exact awake (recorded.idle (by simpa using live))

theorem recorded_monitor (recorded : s.Recorded earliest)
    (unremoved : s.mayMeet (.turn (.monitor now))) :
    (s.monitorTurn now).Recorded (s.earliestAfter earliest (.turn (.monitor now))) := by
  obtain ⟨begun, idle, known, kept, point⟩ := recorded
  obtain ⟨marker, failed, _, fenceStarted, _, _, host, monitor⟩ := s
  cases monitor with
  | observing =>
    simp only [monitorTurn, earliestAfter]
    split
    · exact ⟨begun, idle, known, kept, point⟩
    next running =>
      refine ⟨fun starting => absurd starting running, fun live => Bool.noConfusion live,
        fun live => Bool.noConfusion live, kept, ?_⟩
      grind [Holds]
  | record started =>
    obtain rfl : failed = true := failed_of_awake ⟨begun, idle, known, kept, point⟩ (by simp)
    have running : host.starting ≠ true := fun starts => Bool.noConfusion (begun starts).1
    simp only [mayMeet, removed] at unremoved
    cases marker with
    | none =>
      -- Nobody has removed the marker, so no time is recorded yet.
      have absent : earliest = none := by
        cases host <;> grind [Holds, HostPoint.starting]
      subst absent
      refine ⟨fun starts => absurd starts running, fun live => Bool.noConfusion live,
        fun live => Bool.noConfusion live, .inl (kept.elim id id), ?_⟩
      cases host <;> simp only [monitorTurn, earliestAfter] <;> grind [Holds, HostPoint.starting]
    | some file =>
      have present : ∃ time, earliest = some time := by
        cases host <;> grind [Holds, HostPoint.starting]
      obtain ⟨time, rfl⟩ := present
      refine ⟨fun starts => absurd starts running, fun live => Bool.noConfusion live,
        fun live => Bool.noConfusion live, kept, ?_⟩
      cases host <;> simp only [monitorTurn, earliestAfter] <;> grind [Holds]
  | write started =>
    obtain rfl : failed = true := failed_of_awake ⟨begun, idle, known, kept, point⟩ (by simp)
    refine ⟨fun starts => Bool.noConfusion (begun starts).1, fun live => Bool.noConfusion live,
        fun live => Bool.noConfusion live, kept, ?_⟩
    cases host with
    | finish _ removed =>
      cases removed <;> simp only [monitorTurn, earliestAfter] <;> grind [Holds, Marker.write]
    | _ => simp only [monitorTurn, earliestAfter]; grind [Holds, Marker.write]
  | done => exact ⟨begun, idle, known, kept, point⟩

theorem recorded_host (recorded : s.Recorded earliest) (fault : Bool) :
    (s.hostTurn fault).Recorded (s.earliestAfter earliest (.turn (.host fault))) := by
  obtain ⟨begun, idle, known, kept, point⟩ := recorded
  obtain ⟨marker, failed, _, fenceStarted, _, _, host, monitor⟩ := s
  cases host with
  | start residualRoots now =>
    obtain ⟨rfl, rfl⟩ := begun rfl
    cases idle rfl
    have read : readFenceStarted (marker.map (·.text)) = .ok earliest := by
      rw [(holds_iff rfl).mp point, readFenceStarted_fenceText]
    simp only [hostTurn, earliestAfter, read]
    cases earliest with
    | none => constructor <;> grind [HostPoint.starting, Holds]
    | some started =>
      exact ⟨fun live => Bool.noConfusion live, idle, fun _ _ => rfl, .inr rfl, point⟩
  | record started restoring =>
    cases restoring with
    | false =>
      obtain ⟨rfl, rfl⟩ := point
      exact ⟨begun, idle, fun _ live => Bool.noConfusion live, .inl (begun rfl).2, rfl, rfl⟩
    | true =>
      obtain ⟨rfl, rfl⟩ := point
      exact ⟨fun starts => Bool.noConfusion starts, idle, known, kept, rfl, rfl⟩
  | write started restoring =>
    obtain ⟨rfl, rfl⟩ := point
    cases restoring <;> simp only [hostTurn, earliestAfter, afterRecord] <;> constructor <;>
      grind [HostPoint.starting, Holds, Marker.write]
  | check | liveness | permit | clear | finish =>
    simp only [hostTurn, earliestAfter]
    constructor <;> grind [HostPoint.starting, Holds]
  | rejected | started | returned => exact ⟨begun, idle, known, kept, point⟩

theorem recorded_event (recorded : s.Recorded earliest) (finishes : s.mayMeet event) :
    (s.next event).Recorded (s.earliestAfter earliest event) := by
  cases event with
  | start => exact recorded_start recorded finishes
  | session =>
    simp only [next, earliestAfter]
    split
    next here =>
      obtain ⟨begun, idle, known, kept, point⟩ := recorded
      refine ⟨fun starts => Bool.noConfusion starts, idle, ?_, kept, ?_⟩
      · rcases here with here | here <;> exact fun live _ => known live (by rw [here]; rfl)
      · rcases here with here | here <;> (rw [here] at point; exact point)
    · exact recorded
  | turn turn =>
    cases turn with
    | monitor => exact recorded_monitor recorded finishes
    | host => exact recorded_host recorded _

theorem recorded_run (recorded : s.Recorded earliest) (finish : s.writesFinish events) :
    let last := events.foldl observe (s, earliest)
    last.1.settled /\ last.1.Recorded last.2 := by
  induction events generalizing s earliest with
  | nil => exact ⟨finish, recorded⟩
  | cons event events ih =>
    rw [writesFinish, Bool.and_eq_true] at finish
    exact ih (recorded_event recorded finish.1) finish.2

end

/-- Over every sequence of processes on one state root whose threads finish what they do to
the marker, the marker holds the time of the earliest fence that no readiness has consumed,
and a host that starts reads exactly that time from it. -/
theorem fence_recording_crash_safe (events : List HostEvent)
    (finish : freshRoot.1.writesFinish events) :
    let last := events.foldl observe freshRoot
    readFenceStarted (last.1.marker.map (·.text)) = .ok last.2 := by
  have fresh : freshRoot.1.Recorded freshRoot.2 := by
    constructor <;> simp [freshRoot, EpochState.Holds, HostPoint.starting]
  obtain ⟨settled, recorded⟩ := recorded_run fresh finish
  calc readFenceStarted ((events.foldl observe freshRoot).1.marker.map (·.text))
      = readFenceStarted ((events.foldl observe freshRoot).2.map fenceText) := by
        rw [marker_of_settled recorded settled]
    _ = .ok (events.foldl observe freshRoot).2 := readFenceStarted_fenceText

theorem fence_recording_found : readFenceStarted (some (fenceText 7)) = .ok (some 7) :=
  fence_recording_crash_safe
    [.start false 1 60, .turn (.host false), .turn (.monitor 7), .turn (.monitor 7),
      .turn (.monitor 7)] (by decide)

/-- A process that ends after the creation of the marker leaves an empty file. -/
theorem fence_recording_empty_marker :
    let events : List HostEvent := [.start false 1 60, .turn (.host false), .turn (.monitor 7),
      .turn (.monitor 7), .start true 9 60]
    readFenceStarted ((events.foldl observe freshRoot).1.marker.map (·.text)) =
      .error "invalid fence timestamp" :=
  rfl

end Epoch
end OpenKit
