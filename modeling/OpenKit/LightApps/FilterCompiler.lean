import OpenKit.Foundation.RecursiveDescent
import OpenKit.Foundation.ThreeValued
import OpenKit.LightApps.FilterTokens

namespace OpenKit
namespace LightApps

open Foundation

/-!
# Compiling a record filter to SQL

`compileRecordFilter` of `filter.ts` parses the tokens of a filter by recursive
descent and builds a parameterized SQL condition.  The condition is kept here as
the list of its lexemes; `sqlText` is the text that the source concatenates.

The second half of the module is SQL itself: how a condition made of these
lexemes is evaluated on a row whose columns may be null.
-/

/-! ## Columns of a collection -/

inductive FieldType where
  | text | number | bool | date | select | relation
  deriving DecidableEq, Repr

/-- The parts of an admitted field that a filter reads. -/
structure AdmittedField where
  (id name : String)
  type : FieldType
  deriving DecidableEq, Repr

structure AdmittedCollection where
  fields : List AdmittedField
  deriving DecidableEq, Repr

structure FilterColumn where
  sql : String
  type : FieldType
  deriving DecidableEq, Repr

def quoteIdent (value : String) : String :=
  "\"" ++ value.replace "\"" "\"\"" ++ "\""

def fieldColumnName (fieldId : String) : String :=
  "f_" ++ fieldId.replace "-" ""

def columnFor (collection : AdmittedCollection) (operand : String) :
    Except KernelCommandError FilterColumn :=
  if operand = "id" \/ operand = "created" \/ operand = "updated" \/ operand = "revision" then
    .ok ⟨quoteIdent operand, if operand = "revision" then .number else .text⟩
  else
    match collection.fields.find? (·.name = operand) with
    | none => .error (invalidFilter ("Unknown field: " ++ operand ++ "."))
    | some field => .ok ⟨quoteIdent (fieldColumnName field.id), field.type⟩

/-! ## Conditions -/

/-- What a compiled condition is made of. -/
inductive SqlLexeme where
  | column (quoted : String)
  | operator (value : FilterOperator)
  | isNull | isNotNull | and | or | lparen | rparen | placeholder
  deriving DecidableEq, Repr

def sqlOperator : FilterOperator -> String
  | .equal => "="
  | .notEqual => "!="
  | .greater => ">"
  | .greaterEqual => ">="
  | .less => "<"
  | .lessEqual => "<="

def SqlLexeme.text : SqlLexeme -> String
  | .column quoted => quoted
  | .operator value => sqlOperator value
  | .isNull => "IS NULL"
  | .isNotNull => "IS NOT NULL"
  | .and => "AND"
  | .or => "OR"
  | .lparen => "("
  | .rparen => ")"
  | .placeholder => "?"

/-- The text of a condition: a blank stands between two lexemes, except inside
of a parenthesis. -/
def sqlText : List SqlLexeme -> String
  | [] => ""
  | [last] => last.text
  | first :: second :: rest =>
    let separator := if first = .lparen \/ second = .rparen then "" else " "
    first.text ++ separator ++ sqlText (second :: rest)

/-- A value that a placeholder is bound to. -/
inductive SqlParam (ν : Type) where
  | text (value : List Nat)
  | number (value : ν)
  /-- `1` or `0`. -/
  | flag (value : Bool)
  | null
  deriving DecidableEq, Repr

structure CompiledFilter (ν : Type) where
  sql : List SqlLexeme
  params : List (SqlParam ν)
  deriving DecidableEq, Repr

/-! ## The parser -/

def maxFilterBytes : Nat := 2048
def maxPredicates : Nat := 32
def maxGroupingDepth : Nat := 4

variable {ν : Type}

/-- The unread tokens, the number of comparisons so far and their parameters. -/
structure ParserState (ν : Type) where
  tokens : List (FilterToken ν)
  predicates : Nat
  params : List (SqlParam ν)

/-- A function of the parser. -/
abbrev FilterParser (ν : Type) :=
  ParserState ν -> Except KernelCommandError (List SqlLexeme × ParserState ν)

def take (state : ParserState ν) : Except KernelCommandError (FilterToken ν × ParserState ν) :=
  match state.tokens with
  | [] => .error (invalidFilter "Unexpected end of filter.")
  | token :: rest => .ok (token, { state with tokens := rest })

def FilterOperator.isOrdering : FilterOperator -> Bool
  | .equal => false
  | .notEqual => false
  | _ => true

/-- Whether ordering operators apply to an operand. -/
def isOrdered (name : String) (column : FilterColumn) : Bool :=
  [FieldType.text, .number, .date].contains column.type ||
    ["created", "updated", "id", "revision"].contains name

/-- `(column IS NOT NULL AND column op ?)`. -/
def guardedComparison (column : FilterColumn) (op : FilterOperator) : List SqlLexeme :=
  [.lparen, .column column.sql, .isNotNull, .and, .column column.sql, .operator op, .placeholder,
    .rparen]

/-- `column op ?`. -/
def plainComparison (column : FilterColumn) (op : FilterOperator) : List SqlLexeme :=
  [.column column.sql, .operator op, .placeholder]

/-- The condition of one comparison and its parameter.  A token that is no
literal at all is bound as null. -/
def comparisonSql (name : String) (op : FilterOperator) (literal : FilterToken ν)
    (column : FilterColumn) : Except KernelCommandError (List SqlLexeme × List (SqlParam ν)) :=
  match literal with
  | .ident _ => .error (invalidFilter "Field-to-field comparisons are unavailable.")
  | .null =>
    match op with
    | .equal => .ok ([.column column.sql, .isNull], [])
    | .notEqual => .ok ([.column column.sql, .isNotNull], [])
    | _ => .error (invalidFilter "Ordered comparisons to null are rejected.")
  | literal =>
    if op.isOrdering && !isOrdered name column then
      .error (invalidFilter "Ordering operators apply only to text, number, or date.")
    else
      match literal with
      | .boolean value =>
        .ok (if op = .notEqual then guardedComparison column op else plainComparison column op,
          [.flag value])
      | literal =>
        let value := match literal with
          | .string value => SqlParam.text value
          | .number value => .number value
          | _ => .null
        .ok (if op = .equal then plainComparison column op else guardedComparison column op,
          [value])

def parseComparison (columnFor : String -> Except KernelCommandError FilterColumn) :
    FilterParser ν := fun state =>
  if maxPredicates < state.predicates + 1 then
    .error { code := .limitExceeded, message := "Filter exceeds 32 predicates.",
             limit := some "predicates", maximum := some maxPredicates }
  else do
    let first <- take { state with predicates := state.predicates + 1 }
    match first.1 with
    | .ident name => do
        let second <- take first.2
        match second.1 with
        | .op op => do
            let third <- take second.2
            let column <- columnFor name
            let compiled <- comparisonSql name op third.1 column
            .ok (compiled.1, { third.2 with params := third.2.params ++ compiled.2 })
        | _ => .error (invalidFilter "Filter comparisons require an operator.")
    | _ => .error (invalidFilter "Filter comparisons require a field identifier.")

/-- A parenthesised group, read by `parseInner`, or a comparison. -/
def parsePrimary (columnFor : String -> Except KernelCommandError FilterColumn)
    (parseInner : FilterParser ν) : FilterParser ν := fun state =>
  match state.tokens with
  | .lparen :: rest => do
      let inner <- parseInner { state with tokens := rest }
      let closing <- take inner.2
      match closing.1 with
      | .rparen => .ok (.lparen :: inner.1 ++ [.rparen], closing.2)
      | _ => .error (invalidFilter "Filter is missing a closing parenthesis.")
  | _ => parseComparison columnFor state

def takeConnective [DecidableEq ν] (connective : FilterToken ν) (state : ParserState ν) :
    Option (ParserState ν) :=
  match state.tokens with
  | [] => none
  | token :: rest => if token = connective then some { state with tokens := rest } else none

/-- `(left connective right)`. -/
def joinSql (connective : SqlLexeme) (left right : List SqlLexeme) : List SqlLexeme :=
  .lparen :: left ++ connective :: right ++ [.rparen]

/-- An operand and the loop over the connectives that follow it. -/
def parseChain [DecidableEq ν] (token : FilterToken ν) (connective : SqlLexeme)
    (operand : FilterParser ν) : FilterParser ν := fun state => do
  let first <- operand state
  operatorChain (takeConnective token) operand (joinSql connective) first.2.tokens.length first.1
    first.2

def parseAnd [DecidableEq ν] (parsePrimary : FilterParser ν) : FilterParser ν :=
  parseChain .and .and parsePrimary

/-- `parseOr(depth)`, where `maxGroupingDepth + 1 - depth` groups may still be opened. -/
def parseOr [DecidableEq ν] (columnFor : String -> Except KernelCommandError FilterColumn) :
    Nat -> FilterParser ν
  | 0 => fun _ => .error (invalidFilter "Filter grouping exceeds depth four.")
  | groups + 1 =>
    parseChain .or .or (parseAnd (parsePrimary columnFor (parseOr columnFor groups)))

/-- The condition of a token list. -/
def compileTokens [DecidableEq ν] (columnFor : String -> Except KernelCommandError FilterColumn)
    (tokens : List (FilterToken ν)) : Except KernelCommandError (CompiledFilter ν) := do
  let parsed <- parseOr columnFor maxGroupingDepth ⟨tokens, 0, []⟩
  if parsed.2.tokens = [] then .ok ⟨parsed.1, parsed.2.params⟩
  else .error (invalidFilter "Filter contains trailing tokens.")

def compileRecordFilter [DecidableEq ν] (toNumber : String -> Option ν) (filter : Option String)
    (columnFor : String -> Except KernelCommandError FilterColumn) :
    Except KernelCommandError (Option (CompiledFilter ν)) :=
  match filter with
  | none => .ok none
  | some text =>
    if text.toList.all isWhiteSpace then .ok none
    else if maxFilterBytes < text.utf8ByteSize then
      .error { code := .limitExceeded, message := "Filter exceeds 2 KiB.",
               limit := some "filterBytes", maximum := some maxFilterBytes }
    else do
      let tokens <- tokenize toNumber text
      let compiled <- compileTokens columnFor tokens
      .ok (some compiled)

/-- Whether a filter is a conjunction of comparisons that includes exact id equality. -/
def filterConstrainsRecordId [DecidableEq ν] (toNumber : String -> Option ν) (filter : String)
    (recordId : List Nat) : Except KernelCommandError Bool := do
  let tokens <- tokenize toNumber filter
  if tokens.any (fun token => token = .or || token = .lparen || token = .rparen) then .ok false
  else
    .ok ((tokens.splitOnP (· = .and)).any (fun comparison =>
      comparison = [.ident "id", .op .equal, .string recordId]))

/-! ## SQL -/

section Sql

variable {V : Type}

/-- A row: its columns by their quoted names, null where the value is missing. -/
abbrev Row (V : Type) := String -> Option V

/-- How a present value of a column compares with a bound literal. -/
abbrev SqlRelation (V ν : Type) := String -> FilterOperator -> V -> SqlParam ν -> Bool

variable (relation : SqlRelation V ν) (row : Row V)

/-- A comparison in SQL; a null on either side makes it unknown. -/
def sqlCompare (column : String) (op : FilterOperator) (param : SqlParam ν) : Truth :=
  match param with
  | .null => none
  | param => Truth.ofComparison (relation column op · param) (row column)

/-- The lexemes and parameters that are still to be read. -/
abbrev SqlInput (ν : Type) := List SqlLexeme × List (SqlParam ν)

/-- A comparison, a null test or a parenthesised condition. -/
def sqlOperand (condition : SqlInput ν -> Except Unit (Truth × SqlInput ν)) :
    SqlInput ν -> Except Unit (Truth × SqlInput ν)
  | (.lparen :: rest, params) => do
      let inner <- condition (rest, params)
      match inner.2.1 with
      | .rparen :: after => .ok (inner.1, (after, inner.2.2))
      | _ => .error ()
  | (.column column :: .isNull :: rest, params) => .ok (some (row column).isNone, (rest, params))
  | (.column column :: .isNotNull :: rest, params) => .ok (some (row column).isSome, (rest, params))
  | (.column column :: .operator op :: .placeholder :: rest, param :: params) =>
    .ok (sqlCompare relation row column op param, (rest, params))
  | _ => .error ()

/-- Take a connective of a condition if it comes next. -/
def sqlConnective (connective : SqlLexeme) (input : SqlInput ν) : Option (SqlInput ν) :=
  match input.1 with
  | [] => none
  | lexeme :: rest => if lexeme = connective then some (rest, input.2) else none

def sqlChain (connective : SqlLexeme) (combine : Truth -> Truth -> Truth)
    (operand : SqlInput ν -> Except Unit (Truth × SqlInput ν)) (input : SqlInput ν) :
    Except Unit (Truth × SqlInput ν) := do
  let first <- operand input
  operatorChain (sqlConnective connective) operand combine first.2.1.length first.1 first.2

/-- A condition: `AND` binds tighter than `OR`, and at most `depth` parentheses
are nested. -/
def sqlCondition (relation : SqlRelation V ν) (row : Row V) :
    Nat -> SqlInput ν -> Except Unit (Truth × SqlInput ν)
  | 0 => fun _ => .error ()
  | depth + 1 =>
    sqlChain .or Truth.or
      (sqlChain .and Truth.and (sqlOperand relation row (sqlCondition relation row depth)))

/-- The truth of a whole condition whose placeholders are bound in order. -/
def sqlTruth (compiled : CompiledFilter ν) : Option Truth :=
  match sqlCondition relation row (compiled.sql.length + 1) (compiled.sql, compiled.params) with
  | .ok (truth, ([], [])) => some truth
  | _ => none

/-- A row is selected when its condition is true. -/
def sqlSelects (compiled : CompiledFilter ν) : Prop :=
  sqlTruth relation row compiled = some (some true)

end Sql

end LightApps
end OpenKit
