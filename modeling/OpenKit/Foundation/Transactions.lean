import Mathlib.Tactic.Common

namespace OpenKit
namespace Foundation

/-!
# Transactions and runs

A database transaction is a sequence of writes that may throw between any two
of them.  `atomically` is the database's promise: a thrown transaction leaves
the state it started from.  A store is then used by a sequence of such calls,
in any order, each of which either commits or leaves the store alone, and a
property that every committed call keeps holds in every state reached.
-/

universe u v w

/-- A computation that writes a state and may throw after some of its writes. -/
def Writes (σ : Type u) (ε : Type v) (α : Type w) := σ -> Except ε α × σ

namespace Writes

variable {σ : Type u} {ε : Type v} {α β : Type w}

/-- Read the state; a thrown read stops the sequence. -/
def query (read : σ -> Except ε α) : Writes σ ε α :=
  fun state => (read state, state)

/-- One statement that writes the state or throws. -/
def update (write : σ -> Except ε σ) : Writes σ ε Unit :=
  fun state =>
    match write state with
    | .ok written => (.ok (), written)
    | .error error => (.error error, state)

/-- One statement that writes the state and returns a value, or throws. -/
def statement (write : σ -> Except ε (α × σ)) : Writes σ ε α :=
  fun state =>
    match write state with
    | .ok (value, written) => (.ok value, written)
    | .error error => (.error error, state)

/-- Run one computation after another.  An error stops the sequence and keeps
what was written before it. -/
def andThen (first : Writes σ ε α) (second : α -> Writes σ ε β) : Writes σ ε β :=
  fun state =>
    match first state with
    | (.ok value, middle) => second value middle
    | (.error error, middle) => (.error error, middle)

/-- The database's promise: an error restores the state before the first write. -/
def atomically (body : Writes σ ε α) : Writes σ ε α :=
  fun state =>
    match body state with
    | (.ok value, final) => (.ok value, final)
    | (.error error, _) => (.error error, state)

instance : Monad (Writes σ ε) where
  pure value := fun state => (.ok value, state)
  bind := andThen

def throwIf (refused : Prop) [Decidable refused] (error : ε) : Writes σ ε PUnit.{w + 1} :=
  query (fun _ => if refused then .error error else .ok ⟨⟩)

/-- The state that a computation leaves, whether or not it throws. -/
def final (computation : Writes σ ε α) (state : σ) : σ :=
  (computation state).2

section Answered

variable {first : Writes σ ε α} {read : σ -> Except ε α} {write : σ -> Except ε (α × σ)}
  {next : α -> Writes σ ε β} {refused : Prop} [Decidable refused] {error : ε} {state final : σ}
  {value : β}

theorem query_ok {value : α} (ran : query read state = (.ok value, final)) :
    read state = .ok value /\ final = state := by
  rcases Prod.mk.inj ran with ⟨answered, still⟩
  exact ⟨answered, still.symm⟩

theorem update_ok {write : σ -> Except ε σ} (ran : update write state = (.ok (), final)) :
    write state = .ok final := by
  unfold update at ran
  cases wrote : write state with
  | ok =>
    rw [wrote] at ran
    cases ran
    rfl
  | error =>
    rw [wrote] at ran
    cases ran

theorem pure_ok {value result : α} (ran : (pure result : Writes σ ε α) state = (.ok value, final)) :
    value = result /\ final = state := by
  rcases Prod.mk.inj ran with ⟨answered, still⟩
  exact ⟨(Except.ok.inj answered).symm, still.symm⟩

theorem bind_ok (ran : (first >>= next) state = (.ok value, final)) :
    ∃ middleValue middle, first state = (.ok middleValue, middle) /\
      next middleValue middle = (.ok value, final) := by
  change andThen first next state = _ at ran
  unfold andThen at ran
  split at ran
  next middleValue middle ranFirst =>
    exact ⟨middleValue, middle, ranFirst, ran⟩
  · cases ran

theorem statement_ok {value : α} (ran : statement write state = (.ok value, final)) :
    write state = .ok (value, final) := by
  unfold statement at ran
  cases wrote : write state with
  | ok =>
    rw [wrote] at ran
    cases ran
    rfl
  | error =>
    rw [wrote] at ran
    cases ran

theorem throwIf_ok {value : PUnit.{w + 1}}
    (ran : throwIf refused error state = (.ok value, final)) : ¬ refused /\ final = state := by
  rcases query_ok ran with ⟨passed, still⟩
  refine ⟨?_, still⟩
  intro isRefused
  rw [if_pos isRefused] at passed
  cases passed

theorem bind_query_ok (ran : (query read >>= next) state = (.ok value, final)) :
    ∃ answer, read state = .ok answer /\ next answer state = (.ok value, final) := by
  rcases bind_ok ran with ⟨answer, middle, asked, rest⟩
  rcases query_ok asked with ⟨answered, still⟩
  exact ⟨answer, answered, still ▸ rest⟩

theorem bind_throwIf_ok {next : PUnit.{w + 1} -> Writes σ ε β}
    (ran : (throwIf refused error >>= next) state = (.ok value, final)) :
    ¬ refused /\ next ⟨⟩ state = (.ok value, final) := by
  rcases bind_ok ran with ⟨_, middle, checked, rest⟩
  rcases throwIf_ok checked with ⟨passed, still⟩
  exact ⟨passed, still ▸ rest⟩

theorem bind_statement_ok (ran : (statement write >>= next) state = (.ok value, final)) :
    ∃ result written, write state = .ok (result, written) /\
      next result written = (.ok value, final) := by
  rcases bind_ok ran with ⟨result, written, wrote, rest⟩
  exact ⟨result, written, statement_ok wrote, rest⟩

end Answered

/-! The state that a computation leaves, rule by rule. -/

variable {property : σ -> Prop} {next : α -> Writes σ ε β}

/-- What the first part reaches and the second part keeps, both reach. -/
theorem final_bind {first : Writes σ ε α} (reached : property (final first state))
    (goes : ∀ value middle, first state = (.ok value, middle) -> property middle ->
      property (final (next value) middle)) : property (final (first >>= next) state) := by
  change property (andThen first next state).2
  unfold final at reached
  unfold andThen
  cases ran : first state with
  | mk answer middle =>
    rw [ran] at reached
    cases answer with
    | ok value => exact goes value middle ran reached
    | error => exact reached

theorem final_bind_query {read : σ -> Except ε α} (stays : property state)
    (goes : ∀ value, read state = .ok value -> property (final (next value) state)) :
    property (final (query read >>= next) state) := by
  change property (andThen (query read) next state).2
  unfold andThen query
  cases answered : read state with
  | ok value => exact goes value answered
  | error => exact stays

variable {error : ε}

theorem final_bind_throwIf {refused : Prop} [Decidable refused]
    {next : PUnit.{w + 1} -> Writes σ ε β} (stays : property state)
    (goes : ¬ refused -> property (final (next ⟨⟩) state)) :
    property (final (throwIf refused error >>= next) state) := by
  refine final_bind_query stays ?_
  intro value passed
  apply goes
  intro isRefused
  rw [if_pos isRefused] at passed
  cases passed

theorem final_bind_statement {write : σ -> Except ε (α × σ)} (stays : property state)
    (goes : ∀ value wrote, write state = .ok (value, wrote) ->
      property (final (next value) wrote)) :
    property (final (statement write >>= next) state) := by
  change property (andThen (statement write) next state).2
  unfold andThen statement
  cases answered : write state with
  | ok result => exact goes result.1 result.2 answered
  | error => exact stays

variable {body : Writes σ ε α}

/-- A transaction leaves the state or what its whole body wrote. -/
theorem final_atomically (stays : property state)
    (commits : ∀ value wrote, body state = (.ok value, wrote) -> property wrote) :
    property (final (atomically body) state) := by
  unfold final atomically
  cases ran : body state with
  | mk answer wrote =>
    cases answer with
    | ok value => exact commits value wrote ran
    | error => exact stays

/-- A transaction that throws changes nothing. -/
theorem atomically_error {final : σ} (failed : atomically body state = (.error error, final)) :
    final = state := by
  unfold atomically at failed
  split at failed
  · cases failed
  · cases failed
    rfl

/-- A transaction that commits ran its whole body. -/
theorem atomically_ok {final : σ} {value : α}
    (committed : atomically body state = (.ok value, final)) : body state = (.ok value, final) := by
  unfold atomically at committed
  split at committed
  next ran =>
    rw [ran]
    exact committed
  · cases committed

end Writes

/-! ## Runs -/

section Runs

variable {σ : Type u} {call : Type v} {step : call -> σ -> σ} {calls : List call} {state : σ}

/-- The state after a sequence of calls. -/
def runCalls (step : call -> σ -> σ) (calls : List call) (state : σ) : σ :=
  calls.foldl (fun current next => step next current) state

/-- What every call keeps holds after every sequence of calls. -/
theorem runCalls_invariant (property : σ -> Prop)
    (preserved : ∀ next ∈ calls, ∀ state, property state -> property (step next state))
    (initial : property state) : property (runCalls step calls state) := by
  induction calls generalizing state with
  | nil => exact initial
  | cons next rest ih =>
    apply ih
    · intro later mem
      exact preserved later (List.mem_cons_of_mem _ mem)
    · exact preserved next List.mem_cons_self state initial

/-- Whether every call of a run meets a condition in the state it starts from. -/
def everyStep (step : call -> σ -> σ) (condition : call -> σ -> Bool) : List call -> σ -> Bool
  | [], _ => true
  | next :: rest, state => condition next state && everyStep step condition rest (step next state)

/-- The second part of a run starts where the first part ends. -/
theorem everyStep_append (step : call -> σ -> σ) (condition : call -> σ -> Bool)
    (first second : List call) (state : σ) : everyStep step condition (first ++ second) state =
      (everyStep step condition first state &&
        everyStep step condition second (runCalls step first state)) := by
  induction first generalizing state with
  | nil => rfl
  | cons next rest ih =>
    change (condition next state && everyStep step condition (rest ++ second) (step next state)) =
      ((condition next state && everyStep step condition rest (step next state)) &&
        everyStep step condition second (runCalls step rest (step next state)))
    rw [ih, Bool.and_assoc]

/-- What the calls that meet a condition keep holds after every run of them. -/
theorem runCalls_invariant_of_everyStep {condition : call -> σ -> Bool} (property : σ -> Prop)
    (preserved : ∀ next state, condition next state -> property state ->
      property (step next state)) (met : everyStep step condition calls state)
    (initial : property state) : property (runCalls step calls state) := by
  induction calls generalizing state with
  | nil => exact initial
  | cons next rest ih =>
    rcases Bool.and_eq_true_iff.mp met with ⟨first, others⟩
    exact ih others (preserved next state first initial)

/-- What a run shows from outside, in order. -/
def observations {seen : Type w} (step : call -> σ -> σ) (observe : call -> σ -> Option seen) :
    List call -> σ -> List seen
  | [], _ => []
  | next :: rest, state =>
    (observe next state).toList ++ observations step observe rest (step next state)

/-- Numbers that a run shows grow strictly when a rank that never falls lies at
or below each of them before its call and above it afterwards. -/
theorem observations_increase {observe : call -> σ -> Option Nat} (property : σ -> Prop)
    (rank : σ -> Nat) (preserved : ∀ next state, property state -> property (step next state))
    (monotone : ∀ next state, property state -> rank state <= rank (step next state))
    (bracketed : ∀ next state shown, property state -> observe next state = some shown ->
      rank state <= shown /\ shown < rank (step next state)) (calls : List call)
    (initial : property state) : (observations step observe calls state).Pairwise (· < ·) /\
      ∀ shown ∈ observations step observe calls state, rank state <= shown := by
  induction calls generalizing state with
  | nil => exact ⟨List.Pairwise.nil, List.forall_mem_nil _⟩
  | cons next rest ih =>
    rcases ih (preserved next state initial) with ⟨increasing, above⟩
    have later : ∀ shown ∈ observations step observe rest (step next state),
        rank state <= shown := by
      intro shown mem
      exact Nat.le_trans (monotone next state initial) (above shown mem)
    unfold observations
    cases observed : observe next state with
    | none => exact ⟨increasing, later⟩
    | some shown =>
      have bounds := bracketed next state shown initial observed
      refine ⟨List.pairwise_cons.mpr ⟨?_, increasing⟩, ?_⟩
      · intro other mem
        exact Nat.lt_of_lt_of_le bounds.2 (above other mem)
      · intro other mem
        rcases List.mem_cons.mp mem with here | rest
        · exact here ▸ bounds.1
        · exact later other rest

end Runs

end Foundation
end OpenKit
