import Mathlib.Data.List.Chain
import OpenKit.LightApps.FilterMeaning

namespace OpenKit
namespace LightApps

open Foundation FilterToken List

/-!
# The compiled condition of a filter

Every fragment that the parser builds is a comparison or stands in parentheses,
so SQL reads it as one operand whatever follows it.  `SqlFor` says that of a
fragment together with its parameters and the reading that it stands for; each
function of the parser keeps it.
-/

variable {sql left right : List SqlLexeme}

variable {ν : Type} {columnFor : String -> Except KernelCommandError FilterColumn}

/-! ## Evaluating fragments -/

section Evaluation

variable {V : Type} {relation : SqlRelation V ν} {row : Row V} {link : SqlLexeme}
  {truth : Truth} {params : List (SqlParam ν)} {combine : Truth -> Truth -> Truth}
  {operand : SqlInput ν -> Except Unit (Truth × SqlInput ν)} {input after : SqlInput ν}

/-- SQL reads the fragment as one operand with this truth, and its placeholders
take exactly these parameters. -/
def ReadsAsOperand (relation : SqlRelation V ν) (row : Row V) (sql : List SqlLexeme)
    (params : List (SqlParam ν)) (truth : Truth) : Prop :=
  ∀ depth rest more, sql.length <= depth ->
    sqlOperand relation row (sqlCondition relation row depth) (sql ++ rest, params ++ more) =
      .ok (truth, (rest, more))

theorem sqlChain_single (read : operand input = .ok (truth, after))
    (ends : sqlConnective link after = none) :
    sqlChain link combine operand input = .ok (truth, after) := by
  unfold sqlChain
  rw [read]
  exact operatorChain_none ends

theorem sqlChain_pair {rest : List SqlLexeme} {first second : Truth}
    (readFirst : operand input = .ok (first, (link :: rest, params)))
    (readSecond : operand (rest, params) = .ok (second, after))
    (ends : sqlConnective link after = none) :
    sqlChain link combine operand input = .ok (combine first second, after) := by
  have continues : sqlConnective link (link :: rest, params) = some (rest, params) := by
    simp [sqlConnective]
  unfold sqlChain
  rw [readFirst]
  change operatorChain (sqlConnective link) operand combine (rest.length + 1) first
    (link :: rest, params) = _
  rw [operatorChain_some continues readSecond]
  exact operatorChain_none ends

theorem sqlConnective_rparen (apart : link ≠ .rparen) (rest : List SqlLexeme)
    (params : List (SqlParam ν)) : sqlConnective link (.rparen :: rest, params) = none := by
  unfold sqlConnective
  dsimp only
  rw [if_neg (Ne.symm apart)]

/-- A condition in parentheses is an operand. -/
theorem readsAsOperand_group (inside : ∀ depth rest more, sql.length <= depth ->
      sqlCondition relation row (depth + 1) (sql ++ .rparen :: rest, params ++ more) =
        .ok (truth, (.rparen :: rest, more))) :
    ReadsAsOperand relation row (.lparen :: sql ++ [.rparen]) params truth := by
  intro depth rest more enough
  simp only [cons_append, append_assoc, nil_append, length_cons,
    length_append, length_nil] at enough ⊢
  cases depth with
  | zero => omega
  | succ depth =>
    unfold sqlOperand
    dsimp only
    rw [inside depth rest more (by omega)]
    rfl

section Joins

variable {first second : List (SqlParam ν)} {leftTruth rightTruth : Truth}

theorem readsAsOperand_join (inside : ∀ depth rest more, left.length + right.length < depth ->
      sqlCondition relation row (depth + 1)
          (left ++ link :: (right ++ .rparen :: rest), first ++ (second ++ more)) =
        .ok (truth, (.rparen :: rest, more))) :
    ReadsAsOperand relation row (joinSql link left right) (first ++ second) truth := by
  unfold joinSql
  have same : SqlLexeme.lparen :: left ++ link :: right ++ [.rparen] =
      .lparen :: (left ++ link :: right) ++ [.rparen] := rfl
  rw [same]
  refine readsAsOperand_group ?_
  intro depth rest more enough
  rw [length_append, length_cons] at enough
  simp only [append_assoc, cons_append]
  exact inside depth rest more enough

variable (front : ReadsAsOperand relation row left first leftTruth)
  (back : ReadsAsOperand relation row right second rightTruth)

include front back

theorem readsAsOperand_and : ReadsAsOperand relation row (joinSql .and left right)
    (first ++ second) (leftTruth.and rightTruth) := by
  refine readsAsOperand_join ?_
  intro depth rest more enough
  exact sqlChain_single (sqlChain_pair (front depth _ _ (by omega)) (back depth _ more (by omega))
    (sqlConnective_rparen (by decide) rest more)) (sqlConnective_rparen (by decide) rest more)

theorem readsAsOperand_or : ReadsAsOperand relation row (joinSql .or left right)
    (first ++ second) (leftTruth.or rightTruth) := by
  refine readsAsOperand_join ?_
  intro depth rest more enough
  have noAnd : ∀ params : List (SqlParam ν),
      sqlConnective .and (.or :: (right ++ .rparen :: rest), params) = none := fun params => rfl
  exact sqlChain_pair (sqlChain_single (front depth _ _ (by omega)) (noAnd _))
    (sqlChain_single (back depth _ more (by omega)) (sqlConnective_rparen (by decide) rest more))
    (sqlConnective_rparen (by decide) rest more)

end Joins

theorem readsAsOperand_isNull (column : String) :
    ReadsAsOperand relation row [.column column, .isNull] [] (some (row column).isNone) :=
  fun _ _ _ _ => rfl

theorem readsAsOperand_isNotNull (column : String) :
    ReadsAsOperand relation row [.column column, .isNotNull] [] (some (row column).isSome) :=
  fun _ _ _ _ => rfl

theorem readsAsOperand_plain (column : FilterColumn) (op : FilterOperator) (param : SqlParam ν) :
    ReadsAsOperand relation row (plainComparison column op) [param]
      (sqlCompare relation row column.sql op param) :=
  fun _ _ _ _ => rfl

theorem sqlTruth_of_operand {compiled : CompiledFilter ν}
    (operand : ReadsAsOperand relation row compiled.sql compiled.params truth) :
    sqlTruth relation row compiled = some truth := by
  have read := operand compiled.sql.length [] [] (le_refl _)
  rw [append_nil, append_nil] at read
  have whole : sqlCondition relation row (compiled.sql.length + 1)
      (compiled.sql, compiled.params) = .ok (truth, ([], [])) := by
    exact sqlChain_single (sqlChain_single read rfl) rfl
  unfold sqlTruth
  rw [whole]

theorem sqlCompare_eq_true_iff {column : String} {op : FilterOperator} {param : SqlParam ν} :
    sqlCompare relation row column op param = some true <->
      param ≠ .null /\ (row column).any (relation column op · param) := by
  unfold sqlCompare
  split
  · simp
  next bound =>
    rw [Truth.ofComparison_eq_true_iff, Option.any_eq_true]
    exact ⟨fun holds => ⟨bound, holds⟩, fun holds => holds.2⟩

end Evaluation

/-! ## Fragments with their readings -/

/-- A fragment, its parameters and the reading that it stands for. -/
structure SqlFor (columnFor : String -> Except KernelCommandError FilterColumn)
    (sql : List SqlLexeme) (params : List (SqlParam ν)) (expr : FilterExpr ν) : Prop where
  denotes : ∀ {V : Type} (relation : SqlRelation V ν) (row : Row V), ∃ truth,
    ReadsAsOperand relation row sql params truth /\
      (truth = some true <-> expr.holds columnFor relation row)
  columns : ∀ quoted, SqlLexeme.column quoted ∈ sql ->
    ∃ name column, columnFor name = .ok column /\ column.sql = quoted
  placeholders : sql.count .placeholder = params.length

section Fragments

variable {first second params : List (SqlParam ν)} {leftExpr rightExpr expr : FilterExpr ν}
  {name : String} {column : FilterColumn} {op : FilterOperator}

section Joins

variable (front : SqlFor columnFor left first leftExpr)
  (back : SqlFor columnFor right second rightExpr)

include front back

/-- A connective adds no column and no placeholder. -/
theorem SqlFor.join {link : SqlLexeme} (plain : link = .and \/ link = .or)
    (denotes : ∀ {V : Type} (relation : SqlRelation V ν) (row : Row V), ∃ truth,
      ReadsAsOperand relation row (joinSql link left right) (first ++ second) truth /\
        (truth = some true <-> expr.holds columnFor relation row)) :
    SqlFor columnFor (joinSql link left right) (first ++ second) expr where
  denotes := denotes
  columns := by
    intro quoted mem
    have inside : .column quoted ∈ left \/ .column quoted ∈ right := by
      rcases plain with rfl | rfl <;> simpa [joinSql] using mem
    rcases inside with inLeft | inRight
    · exact front.columns quoted inLeft
    · exact back.columns quoted inRight
  placeholders := by
    rcases plain with rfl | rfl <;>
      simp [joinSql, count_append, front.placeholders, back.placeholders]

theorem SqlFor.and : SqlFor columnFor (joinSql .and left right) (first ++ second)
    (.and leftExpr rightExpr) := by
  refine front.join back (.inl rfl) ?_
  intro V relation row
  rcases front.denotes relation row with ⟨leftTruth, readsLeft, leftMeaning⟩
  rcases back.denotes relation row with ⟨rightTruth, readsRight, rightMeaning⟩
  refine ⟨_, readsAsOperand_and readsLeft readsRight, ?_⟩
  rw [Truth.and_eq_true_iff, leftMeaning, rightMeaning, FilterExpr.holds, Bool.and_eq_true]

theorem SqlFor.or : SqlFor columnFor (joinSql .or left right) (first ++ second)
    (.or leftExpr rightExpr) := by
  refine front.join back (.inr rfl) ?_
  intro V relation row
  rcases front.denotes relation row with ⟨leftTruth, readsLeft, leftMeaning⟩
  rcases back.denotes relation row with ⟨rightTruth, readsRight, rightMeaning⟩
  refine ⟨_, readsAsOperand_or readsLeft readsRight, ?_⟩
  rw [Truth.or_eq_true_iff, leftMeaning, rightMeaning, FilterExpr.holds, Bool.or_eq_true]

end Joins

theorem SqlFor.group (inner : SqlFor columnFor sql params expr) :
    SqlFor columnFor (.lparen :: sql ++ [.rparen]) params expr where
  denotes := by
    intro V relation row
    rcases inner.denotes relation row with ⟨truth, reads, meaning⟩
    refine ⟨truth, readsAsOperand_group ?_, meaning⟩
    intro depth rest more enough
    exact sqlChain_single (sqlChain_single (reads depth _ more enough)
      (sqlConnective_rparen (by decide) rest more)) (sqlConnective_rparen (by decide) rest more)
  columns := by
    intro quoted mem
    simp only [cons_append, mem_cons, mem_append, reduceCtorEq, false_or,
      not_mem_nil, or_false] at mem
    exact inner.columns quoted mem
  placeholders := by
    simp [count_append, inner.placeholders]

variable (found : columnFor name = .ok column)

include found

theorem sqlFor_bound {literal : FilterToken ν} (notNull : literal ≠ .null) (guarded : Bool) :
    SqlFor columnFor (if guarded then guardedComparison column op else plainComparison column op)
      [literal.boundValue] (.comparison name op literal) := by
  have meaning : ∀ {V : Type} (relation : SqlRelation V ν) (row : Row V),
      FilterExpr.holds columnFor relation row (.comparison name op literal) <->
        sqlCompare relation row column.sql op literal.boundValue = some true := by
    intro V relation row
    rw [sqlCompare_eq_true_iff, FilterExpr.holds, found]
    dsimp only
    unfold comparisonHolds
    split
    · exact absurd rfl notNull
    · exact absurd rfl notNull
    split
    next bound =>
      simp [bound]
    next bound =>
      exact ⟨fun holds => ⟨bound, holds⟩, fun holds => holds.2⟩
  refine ⟨?_, ?_, ?_⟩
  · intro V relation row
    cases guarded with
    | false =>
      exact ⟨_, readsAsOperand_plain column op literal.boundValue, (meaning relation row).symm⟩
    | true =>
      refine ⟨_, readsAsOperand_and (readsAsOperand_isNotNull column.sql)
        (readsAsOperand_plain column op literal.boundValue), ?_⟩
      rw [meaning, Truth.and_eq_true_iff, sqlCompare_eq_true_iff]
      constructor
      · exact fun both => both.2
      · intro holds
        refine ⟨?_, holds⟩
        rcases (Option.any_eq_true _ _).mp holds.2 with ⟨value, present, _⟩
        rw [present]
        rfl
  · intro quoted mem
    refine ⟨name, column, found, ?_⟩
    cases guarded with
    | false => simpa [plainComparison, eq_comm] using mem
    | true => simpa [guardedComparison, eq_comm] using mem
  · cases guarded <;> rfl

theorem sqlFor_isNull :
    SqlFor columnFor [.column column.sql, .isNull] [] (.comparison name .equal (.null : FilterToken ν)) where
  denotes := by
    intro V relation row
    refine ⟨_, readsAsOperand_isNull column.sql, ?_⟩
    rw [FilterExpr.holds, found]
    simp [comparisonHolds]
  columns := by
    intro quoted mem
    exact ⟨name, column, found, by simpa [eq_comm] using mem⟩
  placeholders := rfl

theorem sqlFor_isNotNull : SqlFor columnFor [.column column.sql, .isNotNull] []
      (.comparison name .notEqual (.null : FilterToken ν)) where
  denotes := by
    intro V relation row
    refine ⟨_, readsAsOperand_isNotNull column.sql, ?_⟩
    rw [FilterExpr.holds, found]
    simp [comparisonHolds]
  columns := by
    intro quoted mem
    exact ⟨name, column, found, by simpa [eq_comm] using mem⟩
  placeholders := rfl

/-- Every condition that a comparison compiles to stands for it. -/
theorem comparisonSql_sound {literal : FilterToken ν}
    (compiled : comparisonSql name op literal column = .ok (sql, params)) :
    literal.isTakenAsLiteral /\ SqlFor columnFor sql params (.comparison name op literal) := by
  unfold comparisonSql at compiled
  split at compiled
  · cases compiled
  · split at compiled
    · cases compiled
      exact ⟨rfl, sqlFor_isNull found⟩
    · cases compiled
      exact ⟨rfl, sqlFor_isNotNull found⟩
    · cases compiled
  next notIdent notNull =>
    have taken : literal.isTakenAsLiteral := by
      cases literal with
      | ident value => exact absurd rfl (notIdent value)
      | _ => rfl
    refine ⟨taken, ?_⟩
    split at compiled
    · cases compiled
    split at compiled
    next value =>
      cases compiled
      have bound : SqlFor columnFor _ _ (.comparison name op _) :=
        sqlFor_bound found notNull (decide (op = .notEqual))
      simpa [boundValue] using bound
    next notBoolean =>
      cases compiled
      have bound : SqlFor columnFor _ _ (.comparison name op _) :=
        sqlFor_bound found notNull (!decide (op = .equal))
      cases literal with
      | boolean value => exact absurd rfl (notBoolean value)
      | _ => simpa [boundValue] using bound

end Fragments

/-! ## The parser -/

variable {token : FilterToken ν} {tokens : List (FilterToken ν)} {compiled : CompiledFilter ν}
  {state : ParserState ν} {level : ReadingLevel} {toNumber : String -> Option ν} {filter : String}

/-- What a run of a parser read and what it built. -/
structure ReadAs (columnFor : String -> Except KernelCommandError FilterColumn)
    (level : ReadingLevel) (start : ParserState ν) (sql : List SqlLexeme) (after : ParserState ν)
    (consumed : List (FilterToken ν)) (params : List (SqlParam ν)) (expr : FilterExpr ν) : Prop where
  consumes : start.tokens = consumed ++ after.tokens
  binds : after.params = start.params ++ params
  reads : Reads isTakenAsLiteral level consumed expr
  compiles : SqlFor columnFor sql params expr

/-- Whatever the parser accepts has a reading, and its condition stands for it. -/
def Parses (columnFor : String -> Except KernelCommandError FilterColumn) (level : ReadingLevel)
    (parser : FilterParser ν) : Prop :=
  ∀ start sql after, parser start = .ok (sql, after) ->
    ∃ consumed params expr, ReadAs columnFor level start sql after consumed params expr

theorem take_ok {after : ParserState ν} (taken : take state = .ok (token, after)) :
    state.tokens = token :: after.tokens /\ after.params = state.params := by
  unfold take at taken
  split at taken
  · cases taken
  rename_i tokens
  cases taken
  exact ⟨tokens, rfl⟩

theorem parseComparison_parses : Parses (ν := ν) columnFor .primary (parseComparison columnFor) := by
  intro start sql after parsed
  unfold parseComparison at parsed
  split at parsed
  · cases parsed
  rcases bind_inv parsed with ⟨⟨first, afterFirst⟩, firstTaken, parsed⟩
  rcases take_ok firstTaken with ⟨firstTokens, firstParams⟩
  dsimp only at parsed
  split at parsed
  next name =>
    rcases bind_inv parsed with ⟨⟨second, afterSecond⟩, secondTaken, parsed⟩
    rcases take_ok secondTaken with ⟨secondTokens, secondParams⟩
    dsimp only at parsed
    split at parsed
    next op =>
      rcases bind_inv parsed with ⟨⟨third, afterThird⟩, thirdTaken, parsed⟩
      rcases take_ok thirdTaken with ⟨thirdTokens, thirdParams⟩
      rcases bind_inv parsed with ⟨column, found, parsed⟩
      rcases bind_inv parsed with ⟨⟨condition, added⟩, compiled, parsed⟩
      cases parsed
      rcases comparisonSql_sound found compiled with ⟨taken, sound⟩
      refine ⟨[.ident name, .op op, third], added, _, ?_, ?_, .comparison name op third taken, sound⟩
      · rw [firstTokens, secondTokens, thirdTokens]
        rfl
      · rw [thirdParams, secondParams, firstParams]
    · cases parsed
  · cases parsed

theorem parsePrimary_parses {parseInner : FilterParser ν}
    (inner : Parses columnFor .disjunction parseInner) :
    Parses columnFor .primary (parsePrimary columnFor parseInner) := by
  intro start sql after parsed
  unfold parsePrimary at parsed
  split at parsed
  next opens =>
    rcases bind_inv parsed with ⟨⟨condition, afterInner⟩, innerParsed, parsed⟩
    rcases bind_inv parsed with ⟨⟨closing, afterClosing⟩, closingTaken, parsed⟩
    rcases take_ok closingTaken with ⟨closingTokens, closingParams⟩
    dsimp only at parsed
    split at parsed
    · cases parsed
      rcases inner _ _ _ innerParsed with ⟨consumed, params, expr, read⟩
      refine ⟨.lparen :: consumed ++ [.rparen], params, expr, ?_, ?_, .group read.reads,
        read.compiles.group⟩
      · have innerTokens := read.consumes
        dsimp only at innerTokens
        rw [opens, innerTokens, closingTokens]
        simp
      · rw [closingParams, read.binds]
    · cases parsed
  · exact parseComparison_parses start sql after parsed

theorem takeConnective_some [DecidableEq ν] {next : ParserState ν}
    (taken : takeConnective token state = some next) :
    state.tokens = token :: next.tokens /\ next.params = state.params := by
  unfold takeConnective at taken
  split at taken
  · cases taken
  rename_i tokens
  split at taken
  next same =>
    cases taken
    rw [tokens, same]
    exact ⟨rfl, rfl⟩
  · cases taken

/-- A chain reads at the level above its operands when the level above admits a
single operand and the connective. -/
theorem parseChain_parses [DecidableEq ν] {link : SqlLexeme} {operand : FilterParser ν}
    {upper : ReadingLevel} {join : FilterExpr ν -> FilterExpr ν -> FilterExpr ν}
    (single : ∀ {tokens : List (FilterToken ν)} {expr}, Reads isTakenAsLiteral level tokens expr ->
      Reads isTakenAsLiteral upper tokens expr) (joined : ∀ {left right first second},
      Reads isTakenAsLiteral upper left first -> Reads isTakenAsLiteral level right second ->
      Reads isTakenAsLiteral upper (left ++ token :: right) (join first second))
    (compiles : ∀ {left right firstParams secondParams first second},
      SqlFor columnFor left firstParams first -> SqlFor columnFor right secondParams second ->
      SqlFor columnFor (joinSql link left right) (firstParams ++ secondParams)
        (join first second)) (operands : Parses columnFor level operand) :
    Parses columnFor upper (parseChain token link operand) := by
  intro start sql after parsed
  rcases bind_inv parsed with ⟨⟨firstSql, afterFirst⟩, firstParsed, parsed⟩
  rcases operands _ _ _ firstParsed with ⟨consumed, params, expr, read⟩
  refine (operatorChain_ok (fun sql state => ∃ consumed params expr,
      ReadAs columnFor upper start sql state consumed params expr)
    (·.tokens.length) ?_ ?_ ?_
    ⟨consumed, params, expr, read.consumes, read.binds, single read.reads, read.compiles⟩
    (le_refl _) parsed).1
  · rintro built state next added final ⟨consumed, params, expr, read⟩ advances operandParsed
    rcases takeConnective_some advances with ⟨stateTokens, nextParams⟩
    rcases operands _ _ _ operandParsed with ⟨more, moreParams, moreExpr, readMore⟩
    refine ⟨consumed ++ token :: more, params ++ moreParams, join expr moreExpr, ?_, ?_,
      joined read.reads readMore.reads, compiles read.compiles readMore.compiles⟩
    · rw [read.consumes, stateTokens, readMore.consumes]
      simp
    · rw [readMore.binds, nextParams, read.binds, append_assoc]
  · intro state next added final advances operandParsed
    rcases operands _ _ _ operandParsed with ⟨more, _, _, readMore⟩
    rw [(takeConnective_some advances).1, readMore.consumes]
    simp only [length_cons, length_append]
    omega
  · intro state next advances
    rw [(takeConnective_some advances).1]
    exact Nat.succ_pos _

theorem parseOr_parses [DecidableEq ν] (groups : Nat) :
    Parses (ν := ν) columnFor .disjunction (parseOr columnFor groups) := by
  induction groups with
  | zero =>
    intro start sql after parsed
    cases parsed
  | succ groups ih =>
    exact parseChain_parses Reads.disjunct Reads.or SqlFor.or
      (parseChain_parses Reads.conjunct Reads.and SqlFor.and (parsePrimary_parses ih))

/-- A compiled token list has a reading that its condition stands for. -/
theorem compileTokens_sound [DecidableEq ν]
    (accepted : compileTokens columnFor tokens = .ok compiled) :
    ∃ expr, Reads isTakenAsLiteral .disjunction tokens expr /\
      SqlFor columnFor compiled.sql compiled.params expr := by
  rcases bind_inv accepted with ⟨⟨sql, after⟩, parsed, accepted⟩
  split at accepted
  next ended =>
    cases accepted
    rcases parseOr_parses _ _ _ _ parsed with ⟨consumed, params, expr, read⟩
    have whole := read.consumes
    have bound := read.binds
    dsimp only at whole bound ⊢
    rw [ended, append_nil] at whole
    rw [nil_append] at bound
    rw [whole, bound]
    exact ⟨expr, read.reads, read.compiles⟩
  · cases accepted

theorem compileRecordFilter_ok [DecidableEq ν]
    (accepted : compileRecordFilter toNumber (some filter) columnFor = .ok (some compiled)) :
    ∃ tokens, tokenize toNumber filter = .ok tokens /\ compileTokens columnFor tokens = .ok compiled := by
  unfold compileRecordFilter at accepted
  dsimp only at accepted
  split at accepted
  · cases accepted
  split at accepted
  · cases accepted
  rcases bind_inv accepted with ⟨tokens, tokenized, accepted⟩
  rcases bind_inv accepted with ⟨result, compiles, accepted⟩
  cases accepted
  exact ⟨tokens, tokenized, compiles⟩

theorem compileRecordFilter_of_tokens [DecidableEq ν]
    (wrote : filter.toList.all isWhiteSpace = false)
    (short : filter.utf8ByteSize <= maxFilterBytes)
    (tokenized : tokenize toNumber filter = .ok tokens)
    (compiles : compileTokens columnFor tokens = .ok compiled) :
    compileRecordFilter toNumber (some filter) columnFor = .ok (some compiled) := by
  unfold compileRecordFilter
  dsimp only
  rw [if_neg (by simp [wrote]), if_neg (Nat.not_lt.mpr short), tokenized]
  change (compileTokens columnFor tokens >>= fun compiled => .ok (some compiled)) = _
  rw [compiles]
  rfl

/-! ## Literals in their place -/

def FilterToken.isOperator : FilterToken ν -> Bool
  | .op _ => true
  | _ => false

/-- Every operator of the filter is followed by a literal. -/
def OperatorsTakeLiterals (tokens : List (FilterToken ν)) : Prop :=
  tokens.IsChain (fun first second => first.isOperator -> second.isLiteral)

instance (tokens : List (FilterToken ν)) : Decidable (OperatorsTakeLiterals tokens) :=
  inferInstanceAs (Decidable (tokens.IsChain _))

theorem Reads.literal {expr : FilterExpr ν} (reads : Reads isTakenAsLiteral level tokens expr)
    (inPlace : OperatorsTakeLiterals tokens) : Reads isLiteral level tokens expr := by
  induction reads with
  | comparison name op literal =>
    refine .comparison name op literal ?_
    exact (isChain_cons_cons.mp (isChain_cons_cons.mp inPlace).2).1 rfl
  | @group tokens _ inner ih =>
    exact .group (ih ( List.IsChain.infix inPlace ⟨[.lparen], [.rparen], rfl⟩))
  | conjunct single ih => exact .conjunct (ih inPlace)
  | disjunct single ih => exact .disjunct (ih inPlace)
  | @and left right _ _ front last ihFront ihLast =>
    exact .and (ihFront inPlace.left_of_append) (ihLast inPlace.right_of_append.of_cons)
  | @or left right _ _ front last ihFront ihLast =>
    exact .or (ihFront inPlace.left_of_append) (ihLast inPlace.right_of_append.of_cons)

/-- The literals are in their place, and none is missing at the end. -/
def ClosedInPlace (tokens : List (FilterToken ν)) : Prop :=
  OperatorsTakeLiterals tokens /\ ∀ last ∈ tokens.getLast?, last.isOperator = false

theorem closedInPlace_singleton (plain : token.isOperator = false) : ClosedInPlace [token] :=
  ⟨isChain_singleton token, by simpa using plain⟩

theorem ClosedInPlace.append {left right : List (FilterToken ν)} (first : ClosedInPlace left)
    (second : ClosedInPlace right) : ClosedInPlace (left ++ right) := by
  refine ⟨isChain_append.mpr ⟨first.1, second.1, ?_⟩, ?_⟩
  · intro last mem _ _ operator
    rw [first.2 last mem] at operator
    cases operator
  · intro last mem
    rw [getLast?_append, Option.mem_def, Option.or_eq_some_iff] at mem
    rcases mem with found | found
    · exact second.2 last found
    · exact first.2 last found.2

/-- A text that reads with literals only has them in their place. -/
theorem Reads.closedInPlace {expr : FilterExpr ν} (reads : Reads isLiteral level tokens expr) :
    ClosedInPlace tokens := by
  induction reads with
  | comparison name op literal admitted =>
    refine ⟨?_, ?_⟩
    · simp [OperatorsTakeLiterals, FilterToken.isOperator, admitted]
    · intro last found
      cases found
      cases literal <;> first | rfl | cases admitted
  | group inner ih =>
    exact ((closedInPlace_singleton rfl).append ih).append (closedInPlace_singleton rfl)
  | conjunct single ih | disjunct single ih => exact ih
  | and front last ihFront ihLast | or front last ihFront ihLast =>
    exact ihFront.append ((closedInPlace_singleton rfl).append ihLast)

/-! ## Filters that constrain the record -/

section Constrains

variable [DecidableEq ν] {recordId : List Nat} {tokens : List (FilterToken ν)}

/-- A comparison of a conjunction without groups holds when the conjunction does. -/
theorem Reads.constrains {expr : FilterExpr ν} (reads : Reads isTakenAsLiteral level tokens expr)
    (plain : ∀ token ∈ tokens, token ≠ .or /\ token ≠ .lparen)
    (present : [.ident "id", .op .equal, .string recordId] ∈
      tokens.splitOnP (· = .and)) {V : Type} {relation : SqlRelation V ν}
    {row : Row V} (holds : expr.holds columnFor relation row) :
    FilterExpr.holds columnFor relation row (.comparison "id" .equal (.string recordId)) := by
  induction reads with
  | comparison name op literal =>
    by_cases link : literal = .and
    · subst link
      simp [splitOnP_cons_eq_if_modifyHead] at present
    have whole : [ident name, .op op, literal].splitOnP (· = .and) =
        [[ident name, .op op, literal]] := by
      refine splitOnP_eq_singleton ?_
      intro token mem
      simp only [mem_cons, not_mem_nil, or_false] at mem
      rcases mem with rfl | rfl | rfl <;> simp [link]
    rw [whole, mem_singleton] at present
    cases present
    exact holds
  | group => exact absurd rfl (plain .lparen (by simp)).2
  | conjunct _ ih | disjunct _ ih => exact ih plain present holds
  | @and left right _ _ front last ihFront ihLast =>
    rw [splitOnP_append_cons _ _ (by simp), mem_append] at present
    rw [FilterExpr.holds, Bool.and_eq_true] at holds
    rcases present with inLeft | inRight
    · exact ihFront (fun token mem => plain token (by simp [mem])) inLeft holds.1
    · exact ihLast (fun token mem => plain token (by simp [mem])) inRight holds.2
  | or => exact absurd rfl (plain .or (by simp)).1

theorem filterConstrainsRecordId_true (tokenized : tokenize toNumber filter = .ok tokens)
    (constrains : filterConstrainsRecordId toNumber filter recordId = .ok true) :
    (∀ token ∈ tokens, token ≠ .or /\ token ≠ .lparen) /\
      [.ident "id", .op .equal, .string recordId] ∈ tokens.splitOnP (· = .and) := by
  rcases bind_inv constrains with ⟨read, again, constrains⟩
  rw [tokenized] at again
  cases again
  split at constrains
  · cases constrains
  rename_i plain
  have found := Except.ok.inj constrains
  rcases any_eq_true.mp found with ⟨comparison, mem, same⟩
  refine ⟨?_, of_decide_eq_true same ▸ mem⟩
  intro token inTokens
  constructor
  · rintro rfl
    exact plain (any_eq_true.mpr ⟨_, inTokens, by simp⟩)
  · rintro rfl
    exact plain (any_eq_true.mpr ⟨_, inTokens, by simp⟩)

end Constrains

/-! ## Record filters -/

/-- The quoted names of the columns of a collection. -/
def IsColumnOf (collection : AdmittedCollection) (quoted : String) : Prop :=
  (∃ name ∈ ["id", "created", "updated", "revision"], quoted = quoteIdent name) \/
    ∃ field ∈ collection.fields, quoted = quoteIdent (fieldColumnName field.id)

theorem columnFor_isColumnOf {collection : AdmittedCollection} {operand : String}
    {column : FilterColumn} (found : LightApps.columnFor collection operand = .ok column) :
    IsColumnOf collection column.sql := by
  unfold LightApps.columnFor at found
  split at found
  next metadata =>
    cases found
    exact .inl ⟨operand, by simpa using metadata, rfl⟩
  · split at found
    · cases found
    rename_i field known
    cases found
    exact .inr ⟨field, mem_of_find?_eq_some known, rfl⟩

/-- What a condition is written with, besides columns. -/
def fixedTexts : List String :=
  [" ", "(", ")", "?", "AND", "OR", "IS NULL", "IS NOT NULL", "=", "!=", ">", ">=", "<", "<="]

theorem SqlLexeme.text_eq (lexeme : SqlLexeme) :
    lexeme = .column lexeme.text \/ lexeme.text ∈ fixedTexts := by
  cases lexeme with
  | column => exact .inl rfl
  | operator value => cases value <;> exact .inr (by decide)
  | isNull | isNotNull | and | or | lparen | rparen | placeholder => exact .inr (by decide)

theorem sqlText_pieces (sql : List SqlLexeme) : ∃ pieces : List String,
    (sqlText sql).toList = pieces.flatMap String.toList /\
      ∀ piece ∈ pieces, .column piece ∈ sql \/ piece ∈ fixedTexts := by
  fun_induction sqlText sql with
  | case1 => exact ⟨[], rfl, by simp⟩
  | case2 last =>
    refine ⟨[last.text], by simp, ?_⟩
    rcases last.text_eq with column | fixed
    · simp [<- column]
    · simp [fixed]
  | case3 first second rest separator ih =>
    rcases ih with ⟨pieces, text, made⟩
    have between : separator.toList = (if separator = "" then [] else [" "]).flatMap String.toList := by
      unfold separator
      split <;> rfl
    refine ⟨first.text :: (if separator = "" then [] else [" "]) ++ pieces, ?_, ?_⟩
    · simp [text, between]
    · intro piece mem
      rcases mem_append.mp mem with front | back
      · rcases mem_cons.mp front with rfl | blank
        · exact first.text_eq.imp_left fun column => by simp [<- column]
        · split at blank
          · cases blank
          · cases mem_singleton.mp blank
            exact .inr (by decide)
      · exact (made piece back).imp_left (mem_cons_of_mem _)

/-- A compiled filter selects the records on which its only reading holds, exactly when
every operator in it takes a literal.  In any case its text is made of columns of the
collection and fixed texts, every literal is bound, and a filter that constrains the record
selects no other one.  The tokens are those of any number of rounds that is enough. -/
theorem record_filter_means_what_it_says [DecidableEq ν] (toNumber : String -> Option ν)
    (collection : AdmittedCollection) (filter : String) (compiled : CompiledFilter ν)
    (accepted : compileRecordFilter toNumber (some filter) (LightApps.columnFor collection) =
      .ok (some compiled)) :
    (∃ tokens, (∀ rounds, filter.toList.length <= rounds ->
        tokenizeFrom toNumber rounds filter.toList = .ok tokens) /\
      (OperatorsTakeLiterals tokens <-> ∃ expr, Reads isLiteral .disjunction tokens expr /\
        (∀ other, Reads isLiteral .disjunction tokens other -> other = expr) /\
        ∀ {V : Type} (relation : SqlRelation V ν) (row : Row V),
          sqlSelects relation row compiled <->
            expr.holds (LightApps.columnFor collection) relation row)) /\
      (∃ pieces : List String, (sqlText compiled.sql).toList = pieces.flatMap String.toList /\
        ∀ piece ∈ pieces, IsColumnOf collection piece \/ piece ∈ fixedTexts) /\
      compiled.sql.count .placeholder = compiled.params.length /\
      ∀ {V : Type} (relation : SqlRelation V ν) (row : Row V) (recordId : List Nat) (own : V),
        filterConstrainsRecordId toNumber filter recordId = .ok true ->
        (∀ value, relation (quoteIdent "id") .equal value (.text recordId) -> value = own) ->
        sqlSelects relation row compiled -> row (quoteIdent "id") = some own := by
  rcases compileRecordFilter_ok accepted with ⟨tokens, tokenized, compiles⟩
  rcases compileTokens_sound compiles with ⟨expr, reads, stands⟩
  have selects : ∀ {V : Type} (relation : SqlRelation V ν) (row : Row V),
      sqlSelects relation row compiled <->
        expr.holds (LightApps.columnFor collection) relation row := by
    intro V relation row
    rcases stands.denotes relation row with ⟨truth, operand, meaning⟩
    unfold sqlSelects
    rw [sqlTruth_of_operand operand, Option.some.injEq, meaning]
  refine ⟨⟨tokens, ?_, ?_, ?_⟩, ?_, stands.placeholders, ?_⟩
  · intro rounds enough
    rw [tokenizeFrom_enough enough]
    exact tokenized
  · intro inPlace
    have strict := reads.literal inPlace
    exact ⟨expr, strict, fun other otherReads => otherReads.unique strict, selects⟩
  · rintro ⟨_, strict, _⟩
    exact strict.closedInPlace.1
  · rcases sqlText_pieces compiled.sql with ⟨pieces, text, made⟩
    refine ⟨pieces, text, fun piece member => (made piece member).imp_left fun inSql => ?_⟩
    rcases stands.columns piece inSql with ⟨name, column, found, rfl⟩
    exact columnFor_isColumnOf found
  · intro V relation row recordId own constrains exact_id selected
    rcases filterConstrainsRecordId_true tokenized constrains with ⟨plain, present⟩
    have related := reads.constrains plain present ((selects relation row).mp selected)
    have same : FilterExpr.holds (LightApps.columnFor collection) relation row
        (.comparison "id" .equal (.string recordId)) =
          (row (quoteIdent "id")).any
            (relation (quoteIdent "id") .equal · (.text recordId)) := rfl
    rw [same] at related
    rcases (Option.any_eq_true _ _).mp related with ⟨value, stored, equal⟩
    rw [stored, exact_id value equal]

/-- The parser accepts a parenthesis in the place of a literal and binds null for
it, although no filter reads so. -/
theorem parenthesis_taken_as_literal :
    compileRecordFilter String.toNat? (some "id = (") (LightApps.columnFor ⟨[]⟩) =
        .ok (some ⟨[.column (quoteIdent "id"), .operator .equal, .placeholder], [.null]⟩) /\
      tokenize String.toNat? "id = (" = .ok [.ident "id", .op .equal, .lparen] /\
      ∀ expr : FilterExpr Nat,
        ¬ Reads isLiteral .disjunction [.ident "id", .op .equal, .lparen] expr := by
  have tokenized : tokenize String.toNat? "id = (" = .ok [.ident "id", .op .equal, .lparen] := by
    decide +kernel
  refine ⟨compileRecordFilter_of_tokens (by decide +kernel) (by decide +kernel) tokenized (by rfl),
    tokenized, ?_⟩
  intro expr reads
  have flat := reads.balanced.1
  simp at flat

/-- A collection with one field. -/
def namedThings : AdmittedCollection := ⟨[⟨"7", "name", .text⟩]⟩

/-- The filter `id = "r" && name != null` selects only the record `r`. -/
theorem id_filter_means_what_it_says : (∃ expr : FilterExpr Nat, Reads isLiteral .disjunction
        [.ident "id", .op .equal, .string [114], .and, .ident "name", .op .notEqual, .null] expr) /\
      ∀ row : Row (List Nat), sqlSelects (ν := Nat) (fun _ _ value param => param = .text value) row
          ⟨[.lparen, .column (quoteIdent "id"), .operator .equal, .placeholder, .and,
            .column (quoteIdent (fieldColumnName "7")), .isNotNull, .rparen], [.text [114]]⟩ ->
        row (quoteIdent "id") = some [114] := by
  have tokenized : tokenize String.toNat? "id = \"r\" && name != null" =
      .ok [.ident "id", .op .equal, .string [114], .and, .ident "name", .op .notEqual, .null] := by
    decide +kernel
  have means := record_filter_means_what_it_says String.toNat? namedThings _ _
    (compileRecordFilter_of_tokens (by decide +kernel) (by decide +kernel) tokenized (by rfl))
  constructor
  · rcases means.1 with ⟨tokens, read, exactly⟩
    cases tokenized.symm.trans (read _ (Nat.le_refl _))
    rcases exactly.mp (by decide) with ⟨expr, reads, _⟩
    exact ⟨expr, reads⟩
  · intro row
    refine means.2.2.2 _ row [114] [114] (by decide +kernel) ?_
    intro value same
    exact (SqlParam.text.inj (of_decide_eq_true same)).symm

end LightApps
end OpenKit
