import SqlSyntax.Token.Basic

/-!
# Syntax errors

An error is a cause, the index of the token that it blames, and the span of that token.
The wording follows from the cause.
-/
namespace SqlSyntax

/-- What a parser is ready to read where it finds something else. -/
inductive Expectation where
  | token (kind : TokenKind)
  | identifier
  | integer
  | expression
  | statement
  | endOfStatement
  | dataType
  | word (text : String)
  | rowCount (clause : Keyword)
  | predicateAfterNot
  deriving DecidableEq, Inhabited

/-- A keyword is expected by its word, an operator by its quoted sign. -/
def Expectation.text : Expectation → String
  | token (.keyword k) => k.text
  | token (.operator o) => "'" ++ o.text ++ "'"
  | token (.literal value) => value.text
  | token kind => kind.text
  | identifier => "identifier"
  | integer => "integer"
  | expression => "expression"
  | statement => "SELECT, INSERT, UPDATE, DELETE or CREATE"
  | endOfStatement => "end of statement"
  | dataType => "data type"
  | word text => text
  | rowCount clause => "non-negative integer after " ++ clause.text
  | predicateAfterNot => "IN, BETWEEN or LIKE after NOT"

inductive ParseCause where
  | unexpectedToken (expected : Expectation) (found : TokenKind)
  | unexpectedEnd (expected : Expectation)
  | tooDeep (limit : Nat)
  | rowWidth (values columns : Nat)
  | other (message : String)
  deriving DecidableEq, Inhabited

namespace ParseCause

def message : ParseCause → String
  | unexpectedToken expected found =>
    "Unexpected token: expected " ++ expected.text ++ ", found " ++ found.text
  | unexpectedEnd expected => "Unexpected end of input: expected " ++ expected.text
  | tooDeep limit => "Maximum nesting depth of " ++ toString limit ++ " exceeded"
  | rowWidth values columns =>
    "VALUES row has " ++ toString values ++ " values but " ++ toString columns ++
      " columns were listed"
  | other message => message

def expected? : ParseCause → Option Expectation
  | unexpectedToken expected _ | unexpectedEnd expected => some expected
  | _ => none

/-- The token in place of the expected one; at the end this is the end marker. -/
def found? : ParseCause → Option TokenKind
  | unexpectedToken _ found => some found
  | unexpectedEnd _ => some .endOfInput
  | _ => none

/-- Whether the fault is no misplaced token but nesting or a row of the wrong size. -/
def isLimit : ParseCause → Bool
  | tooDeep _ | rowWidth .. => true
  | _ => false

/-- Something else than what was expected stands where the kinds begin. -/
def unexpected (expected : Expectation) : List TokenKind → ParseCause
  | [] | .endOfInput :: _ => .unexpectedEnd expected
  | found :: _ => .unexpectedToken expected found

end ParseCause

structure ParseError where
  cause : ParseCause
  span : Span
  position : Nat
  deriving DecidableEq, Inhabited

def ParseError.text (e : ParseError) : String :=
  e.cause.message ++ " at position " ++ e.span.text

end SqlSyntax
