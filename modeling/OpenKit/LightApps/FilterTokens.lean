import OpenKit.Foundation.Fallible
import OpenKit.Foundation.Text

namespace OpenKit
namespace LightApps

open Foundation

/-!
# Tokens of a record filter

`tokenize` of `filter.ts` cuts a PocketBase-style filter into tokens.  A text
literal is a JSON string, so its value is a list of UTF-16 code units; the
conversion of a number literal is a parameter that refuses what is not finite.
-/

inductive KernelErrorCode where
  | validationFailed | conflict | schemaStale | notFound | accessDenied | limitExceeded
  | unsupportedOperation | unavailable | idempotencyKeyConflict | recoveryRequired
  deriving DecidableEq, Repr

/-- `KernelCommandError` with the details that the functions below give. -/
structure KernelCommandError where
  code : KernelErrorCode
  message : String
  path : Option String := none
  limit : Option String := none
  maximum : Option Nat := none
  deriving DecidableEq, Repr

/-- A `validation_failed` error of the filter. -/
def invalidFilter (message : String) : KernelCommandError where
  code := .validationFailed
  message := message
  path := some "filter"

/-- The comparison operators. -/
inductive FilterOperator where
  | equal | notEqual | greater | greaterEqual | less | lessEqual
  deriving DecidableEq, Repr

/-- `Token`; `ν` is the type of finite numbers. -/
inductive FilterToken (ν : Type) where
  | ident (value : String)
  | op (value : FilterOperator)
  | and | or | lparen | rparen
  | string (value : List Nat)
  | number (value : ν)
  | boolean (value : Bool)
  | null
  deriving DecidableEq, Repr

/-! ## JSON literals -/

def hexDigit? (character : Char) : Option Nat :=
  if '0' <= character /\ character <= '9' then some (character.toNat - '0'.toNat)
  else if 'a' <= character /\ character <= 'f' then some (character.toNat - 'a'.toNat + 10)
  else if 'A' <= character /\ character <= 'F' then some (character.toNat - 'A'.toNat + 10)
  else none

/-- The code unit of a one-letter escape. -/
def escapedUnit? : Char -> Option Nat
  | '"' => some 0x22
  | '\\' => some 0x5C
  | '/' => some 0x2F
  | 'b' => some 0x08
  | 'f' => some 0x0C
  | 'n' => some 0x0A
  | 'r' => some 0x0D
  | 't' => some 0x09
  | _ => none

/-- `JSON.parse` of a string literal, after its opening quote. -/
def parseJsonString : List Char -> Option (List Nat)
  | [] => none
  | ['"'] => some []
  | '\\' :: 'u' :: first :: second :: third :: fourth :: rest => do
      let high <- hexDigit? first
      let upper <- hexDigit? second
      let lower <- hexDigit? third
      let low <- hexDigit? fourth
      let units <- parseJsonString rest
      return (((high * 16 + upper) * 16 + lower) * 16 + low) :: units
  | '\\' :: escape :: rest => do
      let unit <- escapedUnit? escape
      let units <- parseJsonString rest
      return unit :: units
  | character :: rest =>
    if character = '"' \/ character = '\\' \/ character.toNat < 0x20 then none
    else (parseJsonString rest).map (charUnits character ++ ·)

/-- The text of a string literal after its opening quote, and what follows it. -/
def scanJsonString : List Char -> List Char × List Char
  | [] => ([], [])
  | '"' :: rest => (['"'], rest)
  | '\\' :: escaped :: rest =>
    let scanned := scanJsonString rest
    ('\\' :: escaped :: scanned.1, scanned.2)
  | character :: rest =>
    let scanned := scanJsonString rest
    (character :: scanned.1, scanned.2)

/-- `(?:\.[0-9]+)?` and what is left of the text. -/
def skipFraction : List Char -> Option (List Char)
  | '.' :: digit :: rest => if digit.isDigit then some (rest.dropWhile Char.isDigit) else none
  | text => some text

/-- `(?:[eE][+-]?[0-9]+)?$`. -/
def isExponent : List Char -> Bool
  | [] => true
  | letter :: rest =>
    let unsigned := match rest with
      | sign :: digits => if sign = '+' \/ sign = '-' then digits else rest
      | [] => []
    (letter = 'e' || letter = 'E') && !unsigned.isEmpty && unsigned.all Char.isDigit

/-- `/^-?(?:0|[1-9][0-9]*)(?:\.[0-9]+)?(?:[eE][+-]?[0-9]+)?$/`. -/
def isJsonNumber (text : List Char) : Bool :=
  let unsigned := match text with
    | '-' :: rest => rest
    | _ => text
  let afterInteger := match unsigned with
    | '0' :: rest => some rest
    | digit :: rest => if digit.isDigit then some (rest.dropWhile Char.isDigit) else none
    | [] => none
  (afterInteger.bind skipFraction).any isExponent

/-! ## The tokenizer -/

/-- `[0-9.eE+-]`. -/
def isNumberPart (character : Char) : Bool :=
  character.isDigit || ['.', 'e', 'E', '+', '-'].contains character

/-- `[A-Za-z0-9_]`. -/
def isIdentifierPart (character : Char) : Bool :=
  character.isAlphanum || character = '_'

variable {ν : Type}

def wordToken (word : String) : FilterToken ν :=
  if word = "true" \/ word = "false" then .boolean (word = "true")
  else if word = "null" then .null
  else .ident word

variable (toNumber : String -> Option ν)

/-- The number literal at the start of a text. -/
def numberToken (text : List Char) : Except KernelCommandError (FilterToken ν × List Char) :=
  let digits := text.takeWhile isNumberPart
  if isJsonNumber digits then
    match toNumber (String.ofList digits) with
    | some value => .ok (.number value, text.dropWhile isNumberPart)
    | none => .error (invalidFilter "Filter numbers must be finite.")
  else .error (invalidFilter "Filter numbers must be JSON numbers.")

/-- The identifier or keyword at the start of a text. -/
def identifierToken (text : List Char) : Except KernelCommandError (FilterToken ν × List Char) :=
  match text.takeWhile isIdentifierPart with
  | [] =>
    .error (invalidFilter
      ("Unsupported filter syntax at " ++ String.ofList (text.take 1) ++ "."))
  | first :: rest =>
    if first.isAlpha || first = '_' then
      .ok (wordToken (String.ofList (first :: rest)), text.dropWhile isIdentifierPart)
    else .error (invalidFilter "Filter identifiers must start with a letter.")

/-- The string literal after an opening quote. -/
def stringToken (text : List Char) : Except KernelCommandError (FilterToken ν × List Char) :=
  let scanned := scanJsonString text
  match parseJsonString scanned.1 with
  | some value => .ok (.string value, scanned.2)
  | none => .error (invalidFilter "Invalid JSON string literal.")

/-- Blanks, parentheses and operators. -/
def fixedToken? : List Char -> Option (Option (FilterToken ν) × List Char)
  | ' ' :: rest => some (none, rest)
  | '\t' :: rest => some (none, rest)
  | '\n' :: rest => some (none, rest)
  | '(' :: rest => some (some .lparen, rest)
  | ')' :: rest => some (some .rparen, rest)
  | '&' :: '&' :: rest => some (some .and, rest)
  | '|' :: '|' :: rest => some (some .or, rest)
  | '>' :: '=' :: rest => some (some (.op .greaterEqual), rest)
  | '<' :: '=' :: rest => some (some (.op .lessEqual), rest)
  | '!' :: '=' :: rest => some (some (.op .notEqual), rest)
  | '=' :: rest => some (some (.op .equal), rest)
  | '>' :: rest => some (some (.op .greater), rest)
  | '<' :: rest => some (some (.op .less), rest)
  | _ => none

/-- Literals and identifiers. -/
def variableToken (first : Char) (rest : List Char) :
    Except KernelCommandError (FilterToken ν × List Char) :=
  if first = '\x27' \/ first = '\x60' then
    .error (invalidFilter "Single-quoted strings are unsupported.")
  else if first = '"' then stringToken rest
  else if first = '/' \/ first = '@' then .error (invalidFilter "Unsupported filter syntax.")
  else if first = '-' || first.isDigit then numberToken toNumber (first :: rest)
  else identifierToken (first :: rest)

/-- One round of the loop: a token, or nothing for a blank, and the rest. -/
def nextToken (first : Char) (rest : List Char) :
    Except KernelCommandError (Option (FilterToken ν) × List Char) :=
  match fixedToken? (first :: rest) with
  | some read => .ok read
  | none => (variableToken toNumber first rest).map (fun read => (some read.1, read.2))

/-- The loop of `tokenize`; every round takes a character. -/
def tokenizeFrom (toNumber : String -> Option ν) :
    Nat -> List Char -> Except KernelCommandError (List (FilterToken ν))
  | 0, _ => .ok []
  | _ + 1, [] => .ok []
  | fuel + 1, first :: rest => do
      let read <- nextToken toNumber first rest
      let tokens <- tokenizeFrom toNumber fuel read.2
      return read.1.toList ++ tokens

def tokenize (filter : String) : Except KernelCommandError (List (FilterToken ν)) :=
  tokenizeFrom toNumber filter.toList.length filter.toList

/-! ## The tokenizer reads the whole text -/

variable {first : Char} {rest text : List Char} {toNumber : String -> Option ν}
  {token : FilterToken ν}

theorem scanJsonString_rest_length (text : List Char) :
    (scanJsonString text).2.length <= text.length := by
  fun_induction scanJsonString text with
  | case1 => simp
  | case2 => simp
  | case3 escaped rest =>
    change (scanJsonString rest).2.length <= rest.length + 1 + 1
    omega
  | case4 character rest =>
    change (scanJsonString rest).2.length <= rest.length + 1
    omega

theorem dropWhile_length_lt {part : Char -> Bool} (taken : part first) :
    ((first :: rest).dropWhile part).length < (first :: rest).length := by
  rw [List.dropWhile_cons_of_pos taken, List.length_cons]
  exact Nat.lt_succ_of_le (List.dropWhile_suffix part).length_le

theorem numberToken_shorter (starts : (first = '-' || first.isDigit))
    (read : numberToken toNumber (first :: text) = .ok (token, rest)) :
    rest.length < (first :: text).length := by
  unfold numberToken at read
  dsimp only at read
  split at read
  · split at read
    · cases read
      apply dropWhile_length_lt
      unfold isNumberPart
      rcases Bool.or_eq_true_iff.mp starts with minus | digit
      · rw [of_decide_eq_true minus]
        decide
      · rw [digit]
        rfl
    · cases read
  · cases read

theorem identifierToken_shorter (read : identifierToken (first :: text) = .ok (token, rest)) :
    rest.length < (first :: text).length := by
  unfold identifierToken at read
  split at read
  · cases read
  rename_i taken
  split at read
  · cases read
    apply dropWhile_length_lt
    by_contra stops
    rw [List.takeWhile_cons_of_neg stops] at taken
    cases taken
  · cases read

theorem stringToken_rest_length (read : stringToken text = .ok (token, rest)) :
    rest.length <= text.length := by
  unfold stringToken at read
  dsimp only at read
  split at read
  · cases read
    exact scanJsonString_rest_length text
  · cases read

theorem fixedToken?_shorter {token : Option (FilterToken ν)}
    (read : fixedToken? text = some (token, rest)) : rest.length < text.length := by
  unfold fixedToken? at read
  split at read <;> cases read <;> simp only [List.length_cons] <;> omega

/-- Every round takes a character. -/
theorem nextToken_shorter {token : Option (FilterToken ν)}
    (read : nextToken toNumber first text = .ok (token, rest)) :
    rest.length < (first :: text).length := by
  unfold nextToken at read
  split at read
  next fixed =>
    cases read
    exact fixedToken?_shorter fixed
  · cases varied : variableToken toNumber first text with
    | error =>
      rw [varied] at read
      cases read
    | ok =>
      rw [varied] at read
      cases read
      unfold variableToken at varied
      split at varied
      · cases varied
      split at varied
      · have bound := stringToken_rest_length varied
        rw [List.length_cons]
        omega
      · split at varied
        · cases varied
        split at varied
        next starts =>
          exact numberToken_shorter starts varied
        · exact identifierToken_shorter varied

/-- More rounds than characters change nothing. -/
theorem tokenizeFrom_enough {fuel : Nat} (enough : text.length <= fuel) :
    tokenizeFrom toNumber fuel text = tokenizeFrom toNumber text.length text := by
  induction fuel using Nat.strong_induction_on generalizing text with
  | _ fuel ih =>
    cases text with
    | nil => cases fuel <;> rfl
    | cons first rest =>
      cases fuel with
      | zero => cases enough
      | succ fuel =>
        rw [List.length_cons] at enough ⊢
        simp only [tokenizeFrom]
        cases read : nextToken toNumber first rest with
        | error => rfl
        | ok answer =>
          have shorter := nextToken_shorter read
          rw [List.length_cons] at shorter
          change (do
            let tokens <- tokenizeFrom toNumber fuel answer.2
            return answer.1.toList ++ tokens) = (do
            let tokens <- tokenizeFrom toNumber rest.length answer.2
            return answer.1.toList ++ tokens)
          rw [ih fuel (by omega) (by omega)]
          by_cases last : rest.length < fuel + 1
          · rw [ih rest.length last (by omega)]
          · have same : rest.length = fuel := by omega
            rw [same, ih fuel (by omega) (by omega)]

end LightApps
end OpenKit
