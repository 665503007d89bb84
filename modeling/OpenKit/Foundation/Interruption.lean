import OpenKit.Foundation.Transactions

namespace OpenKit
namespace Foundation

/-!
# Programs that fail or stop between any two steps

A program over a durable state is a sequence of primitive steps.  Each step may
meet a device error, which the program sees as a thrown error, or the process
may stop, which it does not see at all.  A step that is not atomic can leave
torn data behind in both cases.  The faults of a run are a list that the
primitive steps consume one after the other, and each may look at the state that
it finds; an empty list is a run without faults.  A thrown error can be caught, a
stop cannot.

`Holds` is the weakest precondition of such a program: it speaks about the
state at the normal end and about the state at every other end.  Its first
argument says in which states a fault may strike, so one set of rules serves the
results that hold whatever strikes, those about a quiet run, and those that need
some states to be spared.
-/

/-- What strikes one primitive step.  `torn` is what a step that is not atomic
leaves behind. -/
inductive Fault (τ : Type) where
  | fails (torn : τ)
  | stops (torn : τ)
  deriving DecidableEq, Repr

/-- Why a program ended early. -/
inductive Halt (ε : Type) where
  | thrown (error : ε)
  | stopped
  deriving DecidableEq, Repr

/-- What strikes the primitive steps of a run, one after the other, each in the state that
it finds. -/
abbrev Faults (σ τ : Type) := List (σ -> Option (Fault τ))

/-- A durable state together with the faults that are still to come. -/
structure World (σ τ : Type) where
  state : σ
  faults : Faults σ τ

/-- A program over a durable state that may fail or stop at every step. -/
abbrev Effect (σ τ ε α : Type) := Writes (World σ τ) (Halt ε) α

namespace Effect

variable {σ τ ε α β : Type}

/-- An act in a state, and what strikes it there. -/
def meet (device : ε) (act : σ -> Except ε (α × σ)) (torn : τ -> σ -> σ) (state : σ)
    (rest : Faults σ τ) : Option (Fault τ) -> Except (Halt ε) α × World σ τ
  | none =>
    match act state with
    | .ok (value, written) => (.ok value, ⟨written, rest⟩)
    | .error error => (.error (.thrown error), ⟨state, rest⟩)
  | some (.fails left) => (.error (.thrown device), ⟨torn left state, rest⟩)
  | some (.stops left) => (.error .stopped, ⟨torn left state, rest⟩)

/-- One primitive step: `act` when no fault strikes it, `torn` otherwise. -/
def step (device : ε) (act : σ -> Except ε (α × σ)) (torn : τ -> σ -> σ) : Effect σ τ ε α :=
  fun world =>
    match world.faults with
    | [] => meet device act torn world.state [] none
    | fault :: rest => meet device act torn world.state rest (fault world.state)

/-- A step that either happens entirely or not at all. -/
def atomic (device : ε) (act : σ -> Except ε σ) : Effect σ τ ε Unit :=
  step device (fun state => (act state).map (fun written => ((), written))) (fun _ state => state)

def reading (device : ε) (read : σ -> Except ε α) : Effect σ τ ε α :=
  step device (fun state => (read state).map (fun value => (value, state))) (fun _ state => state)

def raise (error : ε) : Effect σ τ ε α :=
  fun world => (.error (.thrown error), world)

/-- `try { body } catch`: a thrown error becomes a value, a stop stays a stop. -/
def attempt (body : Effect σ τ ε α) : Effect σ τ ε (Except ε α) :=
  fun world =>
    match body world with
    | (.ok value, after) => (.ok (.ok value), after)
    | (.error (.thrown error), after) => (.ok (.error error), after)
    | (.error .stopped, after) => (.error .stopped, after)

/-! ## Weakest preconditions -/

variable {body : Effect σ τ ε α} {post' : α -> σ -> Prop} {value : α} {first : Effect σ τ ε β}
  {next : β -> Effect σ τ ε α} {middle : β -> σ -> Prop} {device : ε} {act : σ -> Except ε (α × σ)}
  {torn : τ -> σ -> σ} {entries : List β}

/-- No fault strikes outside of the exposed states. -/
def Spares (exposed : σ -> Prop) (faults : Faults σ τ) : Prop :=
  ∀ fault ∈ faults, ∀ state, fault state ≠ none -> exposed state

/-- From `state`, every run of `body` that is struck in exposed states only ends in `post` or,
when it ends early, in `halted`. -/
def Holds (exposed : σ -> Prop) (body : Effect σ τ ε α) (state : σ) (post : α -> σ -> Prop)
    (halted : Halt ε -> σ -> Prop) : Prop :=
  ∀ faults, Spares exposed faults ->
    Spares exposed (body ⟨state, faults⟩).2.faults /\
      match (body ⟨state, faults⟩).1 with
      | .ok value => post value (body ⟨state, faults⟩).2.state
      | .error reason => halted reason (body ⟨state, faults⟩).2.state

variable {exposed : σ -> Prop} {state : σ} {post : α -> σ -> Prop} {halted : Halt ε -> σ -> Prop}

theorem holds_mono {halted' : Halt ε -> σ -> Prop} (held : Holds exposed body state post halted)
    (normal : ∀ value after, post value after -> post' value after)
    (early : ∀ reason after, halted reason after -> halted' reason after) :
    Holds exposed body state post' halted' := by
  intro faults spared
  rcases held faults spared with ⟨remaining, ended⟩
  refine ⟨remaining, ?_⟩
  cases ran : (body ⟨state, faults⟩).1 with
  | ok =>
    rw [ran] at ended
    exact normal _ _ ended
  | error =>
    rw [ran] at ended
    exact early _ _ ended

theorem holds_pure (holds : post value state) :
    Holds exposed (pure value : Effect σ τ ε α) state post halted :=
  fun _ spared => ⟨spared, holds⟩

theorem holds_raise {error : ε} (holds : halted (.thrown error) state) :
    Holds exposed (raise error : Effect σ τ ε α) state post halted :=
  fun _ spared => ⟨spared, holds⟩

theorem holds_bind (held : Holds exposed first state
      (fun value after => Holds exposed (next value) after post halted) halted) :
    Holds exposed (first >>= next) state post halted := by
  intro faults spared
  rcases held faults spared with ⟨remaining, ended⟩
  change Spares exposed (Writes.andThen first next ⟨state, faults⟩).2.faults /\
    match (Writes.andThen first next ⟨state, faults⟩).1 with
    | .ok value => post value (Writes.andThen first next ⟨state, faults⟩).2.state
    | .error reason => halted reason (Writes.andThen first next ⟨state, faults⟩).2.state
  unfold Writes.andThen
  cases ran : first ⟨state, faults⟩ with
  | mk answer after =>
    rw [ran] at ended remaining
    cases answer with
    | ok => exact ended after.faults remaining
    | error => exact ⟨remaining, ended⟩

/-- A program is called by its specification. -/
theorem holds_call {ended : Halt ε -> σ -> Prop} (held : Holds exposed first state middle ended)
    (goes : ∀ value after, middle value after -> Holds exposed (next value) after post halted)
    (ends : ∀ reason after, ended reason after -> halted reason after) :
    Holds exposed (first >>= next) state post halted :=
  holds_bind (holds_mono held goes ends)

theorem holds_then (held : Holds exposed first state middle halted)
    (goes : ∀ value after, middle value after -> Holds exposed (next value) after post halted) :
    Holds exposed (first >>= next) state post halted :=
  holds_call held goes (fun _ _ ended => ended)

theorem holds_step (acted : ∀ value wrote, act state = .ok (value, wrote) -> post value wrote)
    (refused : ∀ error, act state = .error error -> halted (.thrown error) state)
    (struck : exposed state -> ∀ left,
      halted (.thrown device) (torn left state) /\ halted .stopped (torn left state)) :
    Holds exposed (step device act torn) state post halted := by
  have met : ∀ rest strike, Spares exposed rest -> (strike ≠ none -> exposed state) ->
      Spares exposed (meet device act torn state rest strike).2.faults /\
        match (meet device act torn state rest strike).1 with
        | .ok value => post value (meet device act torn state rest strike).2.state
        | .error reason => halted reason (meet device act torn state rest strike).2.state := by
    intro rest strike remaining here
    cases strike with
    | none =>
      unfold meet
      cases result : act state with
      | ok answer => exact ⟨remaining, acted answer.1 answer.2 result⟩
      | error error => exact ⟨remaining, refused error result⟩
    | some fault =>
      have left := struck (here (Option.some_ne_none fault))
      cases fault with
      | fails torn => exact ⟨remaining, (left torn).1⟩
      | stops torn => exact ⟨remaining, (left torn).2⟩
  intro faults spared
  cases faults with
  | nil => exact met [] none spared (fun never => absurd rfl never)
  | cons fault rest =>
    exact met rest (fault state) (fun later queued => spared later (List.mem_cons_of_mem _ queued))
      (spared fault List.mem_cons_self state)

/-- A step whose act is not refused. -/
theorem holds_step_ok {wrote : σ} (acted : act state = .ok (value, wrote))
    (holds : post value wrote) (struck : exposed state -> ∀ left,
      halted (.thrown device) (torn left state) /\ halted .stopped (torn left state)) :
    Holds exposed (step device act torn) state post halted := by
  refine holds_step ?_ ?_ struck
  · intro other after result
    rw [acted] at result
    cases result
    exact holds
  · intro error result
    rw [acted] at result
    cases result

/-- A step that keeps the state when a fault strikes, and otherwise writes what it reads. -/
theorem holds_step_map {read : σ -> Except ε β} {view : σ -> β -> α × σ}
    (answered : ∀ value, read state = .ok value -> post (view state value).1 (view state value).2)
    (refused : ∀ error, read state = .error error -> halted (.thrown error) state)
    (struck : exposed state -> halted (.thrown device) state /\ halted .stopped state) :
    Holds exposed (step device (fun state => (read state).map (view state)) (fun _ state => state) :
      Effect σ τ ε α) state post halted := by
  refine holds_step ?_ ?_ (fun here _ => struck here)
  all_goals cases answer : read state
  · exact nofun
  next read =>
    intro value written wrote
    have same : view state read = (value, written) := Except.ok.inj wrote
    have holds := answered read answer
    rw [same] at holds
    exact holds
  · rintro thrown ⟨⟩
    exact refused _ answer
  · exact nofun

theorem holds_atomic {act : σ -> Except ε σ} {post : Unit -> σ -> Prop}
    (acted : ∀ wrote, act state = .ok wrote -> post () wrote)
    (refused : ∀ error, act state = .error error -> halted (.thrown error) state)
    (struck : exposed state -> halted (.thrown device) state /\ halted .stopped state) :
    Holds exposed (atomic device act : Effect σ τ ε Unit) state post halted :=
  holds_step_map acted refused struck

theorem holds_reading {read : σ -> Except ε α}
    (answered : ∀ value, read state = .ok value -> post value state)
    (refused : ∀ error, read state = .error error -> halted (.thrown error) state)
    (struck : exposed state -> halted (.thrown device) state /\ halted .stopped state) :
    Holds exposed (reading device read : Effect σ τ ε α) state post halted :=
  holds_step_map answered refused struck

/-- A caught error continues as a value; a stop still ends the program. -/
theorem holds_attempt {post : Except ε α -> σ -> Prop}
    (held : Holds exposed body state (fun value after => post (.ok value) after) (fun reason after =>
        match reason with
        | .thrown error => post (.error error) after
        | .stopped => halted .stopped after)) : Holds exposed (attempt body) state post halted := by
  intro faults spared
  rcases held faults spared with ⟨remaining, ended⟩
  unfold attempt
  cases ran : body ⟨state, faults⟩ with
  | mk answer =>
    rw [ran] at ended remaining
    cases answer with
    | ok => exact ⟨remaining, ended⟩
    | error reason =>
      cases reason with
      | thrown | stopped => exact ⟨remaining, ended⟩

/-- A loop over a list: an invariant of the entries that are still to come. -/
theorem holds_forM {body : β -> Effect σ τ ε Unit} (inv : List β -> σ -> Prop)
    (initial : inv entries state)
    (each : ∀ entry rest before, (entry :: rest) <:+ entries -> inv (entry :: rest) before ->
      Holds exposed (body entry) before (fun _ after => inv rest after) halted) :
    Holds exposed (entries.forM body) state (fun _ after => inv [] after) halted := by
  induction entries generalizing state with
  | nil => exact holds_pure initial
  | cons entry rest ih =>
    refine holds_then (each entry rest state List.suffix_rfl initial) ?_
    intro _ after reached
    apply ih reached
    intro later others before suffix
    exact each later others before (suffix.trans (List.suffix_cons entry rest))

/-! ## Invariants of a program -/

/-- A program that starts in `inv` ends in it, wherever it ends. -/
def Keeps (exposed : σ -> Prop) (inv : σ -> Prop) (body : Effect σ τ ε α) : Prop :=
  ∀ ⦃state⦄, inv state -> Holds exposed body state (fun _ => inv) (fun _ => inv)

section Keeps

variable {inv : σ -> Prop}

theorem keeps_pure : Keeps exposed inv (pure value : Effect σ τ ε α) :=
  fun _ kept => holds_pure kept

theorem keeps_raise {error : ε} : Keeps exposed inv (raise error : Effect σ τ ε α) :=
  fun _ kept => holds_raise kept

theorem keeps_reading {read : σ -> Except ε α} :
    Keeps exposed inv (reading device read : Effect σ τ ε α) :=
  fun _ kept => holds_reading (fun _ _ => kept) (fun _ _ => kept) (fun _ => ⟨kept, kept⟩)

theorem keeps_bind (held : Keeps exposed inv first) (goes : ∀ value, Keeps exposed inv (next value)) :
    Keeps exposed inv (first >>= next) :=
  fun _ kept => holds_then (held kept) (@goes ·)

theorem keeps_attempt (held : Keeps exposed inv body) : Keeps exposed inv (attempt body) := by
  intro state kept
  apply holds_attempt
  refine holds_mono (held kept) (fun _ _ ended => ended) ?_
  intro reason after ended
  cases reason with
  | thrown => exact ended
  | stopped => exact ended

theorem keeps_forM {body : β -> Effect σ τ ε Unit}
    (each : ∀ entry ∈ entries, Keeps exposed inv (body entry)) :
    Keeps exposed inv (entries.forM body) :=
  fun _ kept => holds_forM (fun _ => inv) kept
    (fun entry _ _ suffix => @each entry (suffix.subset List.mem_cons_self) _)

end Keeps

/-! ## Reading a weakest precondition off one run -/

variable {faults : Faults σ τ} (spared : Spares exposed faults)

include spared

theorem Holds.returned (held : Holds exposed body state post halted)
    (ran : (body ⟨state, faults⟩).1 = .ok value) : post value (body ⟨state, faults⟩).2.state := by
  have ended := (held faults spared).2
  rw [ran] at ended
  exact ended

theorem Holds.ended (held : Holds exposed body state post halted) {reason : Halt ε}
    (ran : (body ⟨state, faults⟩).1 = .error reason) :
    halted reason (body ⟨state, faults⟩).2.state := by
  have ended := (held faults spared).2
  rw [ran] at ended
  exact ended

end Effect

end Foundation
end OpenKit
