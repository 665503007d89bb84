import Mathlib.Algebra.BigOperators.Group.List.Basic
import Mathlib.Algebra.Ring.Int.Defs
import OpenKit.LightApps.FilterCompiler

namespace OpenKit
namespace LightApps

open Foundation List

/-!
# What a record filter means

A filter reads as a disjunction of conjunctions of comparisons and groups.
`Reads` is that grammar and `FilterExpr.holds` the two-valued meaning of what it
reads.  The compiled condition selects the rows on which the reading holds.

The parser takes any token that is no identifier as the literal of a comparison.
An operator or a parenthesis in that place is bound as null, so a text that the
grammar does not know can compile.
-/

/-! ## The grammar -/

/-- A filter without its text.  The literal of a comparison is its token. -/
inductive FilterExpr (ν : Type) where
  | comparison (name : String) (op : FilterOperator) (literal : FilterToken ν)
  | and (left right : FilterExpr ν)
  | or (left right : FilterExpr ν)

inductive ReadingLevel where
  | disjunction | conjunction | primary

variable {ν : Type}

/-- `Reads literals level tokens expr`: the tokens read as the expression, when
the tokens that `literals` admits are taken as literals. -/
inductive Reads (literals : FilterToken ν -> Bool) :
    ReadingLevel -> List (FilterToken ν) -> FilterExpr ν -> Prop where
  | comparison (name : String) (op : FilterOperator) (literal : FilterToken ν)
      (admitted : literals literal) :
      Reads literals .primary [.ident name, .op op, literal] (.comparison name op literal)
  | group {tokens : List (FilterToken ν)} {expr : FilterExpr ν}
      (inner : Reads literals .disjunction tokens expr) :
      Reads literals .primary (.lparen :: tokens ++ [.rparen]) expr
  | conjunct {tokens : List (FilterToken ν)} {expr : FilterExpr ν}
      (single : Reads literals .primary tokens expr) : Reads literals .conjunction tokens expr
  | and {left right : List (FilterToken ν)} {first second : FilterExpr ν}
      (front : Reads literals .conjunction left first) (last : Reads literals .primary right second) :
      Reads literals .conjunction (left ++ .and :: right) (.and first second)
  | disjunct {tokens : List (FilterToken ν)} {expr : FilterExpr ν}
      (single : Reads literals .conjunction tokens expr) : Reads literals .disjunction tokens expr
  | or {left right : List (FilterToken ν)} {first second : FilterExpr ν}
      (front : Reads literals .disjunction left first)
      (last : Reads literals .conjunction right second) :
      Reads literals .disjunction (left ++ .or :: right) (.or first second)

def FilterToken.isLiteral : FilterToken ν -> Bool
  | .string _ => true
  | .number _ => true
  | .boolean _ => true
  | .null => true
  | _ => false

/-- The tokens that the parser takes for a literal. -/
def FilterToken.isTakenAsLiteral : FilterToken ν -> Bool
  | .ident _ => false
  | _ => true

/-- The value that a literal is bound as. -/
def FilterToken.boundValue : FilterToken ν -> SqlParam ν
  | .string value => .text value
  | .number value => .number value
  | .boolean value => .flag value
  | _ => .null

/-! ## The two-valued meaning -/

section Meaning

variable {V : Type}

/-- A comparison with a column: null tests nullness, and every other comparison
is false on a missing value. -/
def comparisonHolds (relation : SqlRelation V ν) (row : Row V) (column : String) (op : FilterOperator)
    (literal : FilterToken ν) : Bool :=
  match literal, op with
  | .null, .equal => (row column).isNone
  | .null, .notEqual => (row column).isSome
  | literal, op =>
    match literal.boundValue with
    | .null => false
    | bound => (row column).any (relation column op · bound)

/-- Whether a reading holds for a row. -/
def FilterExpr.holds (columnFor : String -> Except KernelCommandError FilterColumn)
    (relation : SqlRelation V ν) (row : Row V) : FilterExpr ν -> Bool
  | .comparison name op literal =>
    match columnFor name with
    | .ok column => comparisonHolds relation row column.sql op literal
    | .error _ => false
  | .and left right => left.holds columnFor relation row && right.holds columnFor relation row
  | .or left right => left.holds columnFor relation row || right.holds columnFor relation row

end Meaning

/-! ## A text has one reading -/

section Unique

variable {literals : FilterToken ν -> Bool} {token : FilterToken ν}
  {left right tokens : List (FilterToken ν)} {level : ReadingLevel} {expr : FilterExpr ν}

/-- How a token changes the depth of grouping. -/
def FilterToken.nesting : FilterToken ν -> Int
  | .lparen => 1
  | .rparen => -1
  | _ => 0

@[simp] theorem FilterToken.nesting_ident (name : String) : (.ident name : FilterToken ν).nesting = 0 :=
  rfl

@[simp] theorem FilterToken.nesting_op (op : FilterOperator) : (.op op : FilterToken ν).nesting = 0 :=
  rfl

@[simp] theorem FilterToken.nesting_lparen : (.lparen : FilterToken ν).nesting = 1 := rfl

@[simp] theorem FilterToken.nesting_rparen : (.rparen : FilterToken ν).nesting = -1 := rfl

@[simp] theorem FilterToken.nesting_and : (.and : FilterToken ν).nesting = 0 := rfl

/-- The depth of grouping after some tokens. -/
def depthAfter (tokens : List (FilterToken ν)) : Int :=
  (tokens.map FilterToken.nesting).sum

@[simp] theorem depthAfter_nil : depthAfter ([] : List (FilterToken ν)) = 0 := rfl

@[simp] theorem depthAfter_cons (token : FilterToken ν) (tokens : List (FilterToken ν)) :
    depthAfter (token :: tokens) = token.nesting + depthAfter tokens := by
  simp [depthAfter]

@[simp] theorem depthAfter_append (front back : List (FilterToken ν)) :
    depthAfter (front ++ back) = depthAfter front + depthAfter back := by
  simp [depthAfter]

theorem FilterToken.isLiteral_nesting (literal : token.isLiteral) : token.nesting = 0 := by
  cases token <;> first | rfl | cases literal

theorem balanced_join {link : FilterToken ν} (flat : link.nesting = 0)
    (first : depthAfter left = 0 /\ ∀ front, front <+: left -> 0 <= depthAfter front)
    (second : depthAfter right = 0 /\ ∀ front, front <+: right -> 0 <= depthAfter front) :
    depthAfter (left ++ link :: right) = 0 /\
      ∀ front, front <+: left ++ link :: right -> 0 <= depthAfter front := by
  refine ⟨by simp [flat, first.1, second.1], ?_⟩
  intro front isFront
  rcases isFront with ⟨back, whole⟩
  rcases append_eq_append_iff.mp whole with ⟨middle, rfl, _⟩ | ⟨more, rfl, rest⟩
  · exact first.2 front ⟨middle, rfl⟩
  · rcases prefix_cons_iff.mp ⟨back, rest.symm⟩ with rfl | ⟨inside, rfl, inRight⟩
    · simp [first.1]
    · have bound := second.2 inside inRight
      simpa [flat, first.1] using bound

/-- A reading closes every group that it opens, and never more. -/
theorem Reads.balanced (reads : Reads FilterToken.isLiteral level tokens expr) :
    depthAfter tokens = 0 /\ ∀ front, front <+: tokens -> 0 <= depthAfter front := by
  induction reads with
  | comparison name op literal admitted =>
    have flat := FilterToken.isLiteral_nesting admitted
    refine ⟨by simp [flat], ?_⟩
    intro front isFront
    rcases prefix_cons_iff.mp isFront with rfl | ⟨one, rfl, afterName⟩
    · simp
    rcases prefix_cons_iff.mp afterName with rfl | ⟨two, rfl, afterOperator⟩
    · simp
    rcases prefix_cons_iff.mp afterOperator with rfl | ⟨three, rfl, afterLiteral⟩
    · simp
    · rw [prefix_nil.mp afterLiteral]
      simp [flat]
  | group inner ih =>
    refine ⟨by simp [ih.1], ?_⟩
    intro front isFront
    rcases prefix_cons_iff.mp isFront with rfl | ⟨inside, rfl, afterParen⟩
    · simp
    rcases prefix_concat_iff.mp afterParen with whole | inGroup
    · rw [whole]
      simp [ih.1]
    · have bound := ih.2 inside inGroup
      rw [depthAfter_cons, FilterToken.nesting_lparen]
      omega
  | conjunct single ih => exact ih
  | disjunct single ih => exact ih
  | and _ _ ihFront ihLast | or _ _ ihFront ihLast => exact balanced_join rfl ihFront ihLast

/-- A token that stands outside of every group. -/
def AtTopLevel (token : FilterToken ν) (tokens : List (FilterToken ν)) : Prop :=
  ∃ front back, tokens = front ++ token :: back /\ depthAfter front = 0

/-- A comparison or group shows no connective. -/
theorem Reads.primary_closed (reads : Reads FilterToken.isLiteral .primary tokens expr)
    (link : token = .and \/ token = .or) : ¬ AtTopLevel token tokens := by
  rintro ⟨front, back, split, flat⟩
  cases reads with
  | comparison name op literal admitted =>
    have mem : token ∈ [FilterToken.ident name, .op op, literal] := by
      rw [split]
      simp
    rcases link with rfl | rfl
    · simp only [mem_cons, reduceCtorEq, not_mem_nil, or_false, false_or] at mem
      rw [<- mem] at admitted
      cases admitted
    · simp only [mem_cons, reduceCtorEq, not_mem_nil, or_false, false_or] at mem
      rw [<- mem] at admitted
      cases admitted
  | @group inside _ inner =>
    cases front with
    | nil =>
      cases split
      rcases link with never | never <;> cases never
    | cons first rest =>
      -- inside of the group the depth is at least one
      have first_eq : first = .lparen := (List.cons.inj split).1.symm
      have tail : inside ++ [.rparen] = rest ++ token :: back := (List.cons.inj split).2
      have isFront : rest <+: inside ++ [.rparen] := ⟨token :: back, tail.symm⟩
      rcases prefix_concat_iff.mp isFront with whole | inGroup
      · have sizes := congrArg List.length tail
        rw [whole] at sizes
        simp at sizes
      · have bound := inner.balanced.2 rest inGroup
        rw [first_eq, depthAfter_cons, FilterToken.nesting_lparen] at flat
        omega

/-- A conjunction shows no `||`. -/
theorem Reads.conjunction_closed (reads : Reads FilterToken.isLiteral .conjunction tokens expr) :
    ¬ AtTopLevel .or tokens := by
  generalize level : ReadingLevel.conjunction = reading at reads
  induction reads with
  | comparison | group | disjunct | or => cases level
  | conjunct single => exact single.primary_closed (.inr rfl)
  | @and left right _ _ front last ihFront =>
    rintro ⟨before, after, split, flat⟩
    rcases append_eq_append_iff.mp split with ⟨middle, rfl, rest⟩ | ⟨middle, rfl, rest⟩
    · cases middle with
      | nil => cases rest
      | cons first inside =>
        have head : first = .and := (List.cons.inj rest).1.symm
        have tail : right = inside ++ .or :: after := (List.cons.inj rest).2
        refine last.primary_closed (.inr rfl) ⟨inside, after, tail, ?_⟩
        rw [depthAfter_append, front.balanced.1, head] at flat
        simpa using flat
    · cases middle with
      | nil => cases rest
      | cons first inside =>
        have head : first = .or := (List.cons.inj rest).1.symm
        subst head
        exact ihFront rfl ⟨before, inside, rfl, flat⟩

/-- The last connective outside of every group cuts a list in one way. -/
theorem split_unique {left' right' : List (FilterToken ν)} (flatToken : token.nesting = 0)
    (closed : ¬ AtTopLevel token right) (closed' : ¬ AtTopLevel token right')
    (balanced : depthAfter right = 0) (balanced' : depthAfter right' = 0)
    (same : left ++ token :: right = left' ++ token :: right') : left = left' /\ right = right' := by
  rcases append_eq_append_iff.mp same with ⟨middle, rfl, rest⟩ | ⟨middle, rfl, rest⟩
  · cases middle with
    | nil =>
      cases rest
      simp
    | cons first inside =>
      have tail : right = inside ++ token :: right' := (List.cons.inj rest).2
      refine absurd ⟨inside, right', tail, ?_⟩ closed
      rw [tail, depthAfter_append, depthAfter_cons, flatToken, balanced'] at balanced
      omega
  · cases middle with
    | nil =>
      cases rest
      simp
    | cons first inside =>
      have tail : right' = inside ++ token :: right := (List.cons.inj rest).2
      refine absurd ⟨inside, right, tail, ?_⟩ closed'
      rw [tail, depthAfter_append, depthAfter_cons, flatToken, balanced] at balanced'
      omega

/-- A text reads in at most one way. -/
theorem Reads.unique {other : FilterExpr ν} (reads : Reads FilterToken.isLiteral level tokens expr)
    (again : Reads FilterToken.isLiteral level tokens other) : expr = other := by
  induction reads generalizing other with
  | comparison =>
    cases again with
    | comparison => rfl
  | @group inside _ inner ih =>
    generalize whole : (FilterToken.lparen :: inside ++ [.rparen] : List (FilterToken ν)) = tokens at again
    cases again with
    | comparison => cases whole
    | @group inside' _ inner' =>
      have same : inside = inside' := append_cancel_right (List.cons.inj whole).2
      exact ih (same ▸ inner')
  | conjunct single ih =>
    cases again with
    | conjunct single' => exact ih single'
    | and front =>
      exact absurd ⟨_, _, rfl, front.balanced.1⟩ (single.primary_closed (.inl rfl))
  | @and left right _ _ front last ihFront ihLast =>
    generalize whole : (left ++ .and :: right : List (FilterToken ν)) = tokens at again
    cases again with
    | conjunct single =>
      exact absurd ⟨left, right, whole.symm, front.balanced.1⟩ (single.primary_closed (.inl rfl))
    | and front' last' =>
      rcases split_unique rfl (last.primary_closed (.inl rfl))
        (last'.primary_closed (.inl rfl)) last.balanced.1 last'.balanced.1 whole with ⟨rfl, rfl⟩
      rw [ihFront front', ihLast last']
  | disjunct single ih =>
    cases again with
    | disjunct single' => exact ih single'
    | or front =>
      exact absurd ⟨_, _, rfl, front.balanced.1⟩ single.conjunction_closed
  | @or left right _ _ front last ihFront ihLast =>
    generalize whole : (left ++ .or :: right : List (FilterToken ν)) = tokens at again
    cases again with
    | disjunct single =>
      exact absurd ⟨left, right, whole.symm, front.balanced.1⟩ single.conjunction_closed
    | or front' last' =>
      rcases split_unique rfl last.conjunction_closed last'.conjunction_closed
        last.balanced.1 last'.balanced.1 whole with ⟨rfl, rfl⟩
      rw [ihFront front', ihLast last']

end Unique

end LightApps
end OpenKit
