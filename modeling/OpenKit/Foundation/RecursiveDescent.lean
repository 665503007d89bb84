import OpenKit.Foundation.Fallible

namespace OpenKit
namespace Foundation

/-!
# Operator chains in recursive descent

A parser for `operand (connective operand)*` reads one operand and then, as long
as a connective follows, another one.  The same loop serves a compiler that
builds an expression and an evaluator that computes its value.
-/

universe u v w

/-- The loop after the first operand.  `advance` takes the connective, if it is
the next thing to read; `fuel` bounds the number of rounds. -/
def operatorChain {σ α : Type v} {ε : Type u} (advance : σ -> Option σ)
    (operand : σ -> Except ε (α × σ)) (combine : α -> α -> α) : Nat -> α -> σ -> Except ε (α × σ)
  | 0, value, state => .ok (value, state)
  | fuel + 1, value, state =>
    match advance state with
    | none => .ok (value, state)
    | some next => do
        let read <- operand next
        operatorChain advance operand combine fuel (combine value read.1) read.2

section Chain

variable {σ α : Type v} {ε : Type u} {advance : σ -> Option σ}
  {operand : σ -> Except ε (α × σ)} {combine : α -> α -> α} {fuel : Nat} {value : α} {state : σ}

@[simp] theorem operatorChain_none (stops : advance state = none) :
    operatorChain advance operand combine fuel value state = .ok (value, state) := by
  cases fuel with
  | zero => rfl
  | succ =>
    unfold operatorChain
    rw [stops]

/-- One round. -/
theorem operatorChain_some {next after : σ} {read : α} (continues : advance state = some next)
    (parsed : operand next = .ok (read, after)) :
    operatorChain advance operand combine (fuel + 1) value state =
      operatorChain advance operand combine fuel (combine value read) after := by
  rw [operatorChain, continues]
  simp only [parsed]
  rfl

/-- What every round keeps holds at the end, and the loop does not end early. -/
theorem operatorChain_ok (inv : α -> σ -> Prop) (size : σ -> Nat)
    (round : ∀ value state next read after, inv value state -> advance state = some next ->
      operand next = .ok (read, after) -> inv (combine value read) after)
    (shorter : ∀ state next read after, advance state = some next ->
      operand next = .ok (read, after) -> size after < size state)
    (empty : ∀ state next, advance state = some next -> 0 < size state)
    (initial : inv value state) (enough : size state <= fuel) {result : α} {final : σ}
    (parsed : operatorChain advance operand combine fuel value state = .ok (result, final)) :
    inv result final /\ advance final = none := by
  induction fuel generalizing value state with
  | zero =>
    cases parsed
    refine ⟨initial, ?_⟩
    cases stops : advance final with
    | none => rfl
    | some next =>
      have positive := empty final next stops
      omega
  | succ fuel ih =>
    unfold operatorChain at parsed
    cases stops : advance state with
    | none =>
      rw [stops] at parsed
      cases parsed
      exact ⟨initial, stops⟩
    | some next =>
      rw [stops] at parsed
      rcases bind_inv parsed with ⟨⟨read, after⟩, first, rest⟩
      have less := shorter state next read after stops first
      exact ih (round value state next read after initial stops first) (by omega) rest

end Chain

end Foundation
end OpenKit
