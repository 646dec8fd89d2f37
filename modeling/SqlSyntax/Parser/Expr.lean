import SqlSyntax.Parser.Basic
import SqlSyntax.Tree.Basic

/-!
# Parsers of expressions

From the loosest to the tightest the layers are `OR`, `AND`, `NOT`, comparisons, null tests,
`+` and `-`, `*` and `/`, signs, and primary expressions. Each layer is made of the next.
Expressions and queries in brackets come from the parsers of the next level of nesting,
which are given.
-/
namespace SqlSyntax

namespace Expr

/-- Operands of one operator, grouped to the right. -/
def chainRight (operator : Operator) : Expr → List Expr → Expr
  | first, [] => first
  | first, second :: others => .binary first operator (chainRight operator second others)

/-- Operands after a first one, each with the operator before it, grouped to the left. -/
def chainLeft (first : Expr) (others : List (Operator × Expr)) : Expr :=
  others.foldl (fun left other => .binary left other.1 other.2) first

/-- A minus sign before an expression. A number takes the sign into itself, except the
least integer, which has no opposite. -/
def opposite : Expr → Expr
  | .literal (.integer n) =>
    if n = Int64.minValue then .negate (.integer n) else .integer (-n)
  | .literal (.float x) => .float (-x)
  | e => .negate e

end Expr

/-- How often a loop goes round that goes from zero up to a count of 32 bits. After the greatest
number the count goes on from the least one, as overflow is not looked for, and up to a number below
zero no loop goes round. -/
def rounds (count : Nat) : Nat := (Int32.ofNat count).toNatClampNeg

theorem rounds_of_lt {count : Nat} (h : count < 2147483648) : rounds count = count :=
  Int32.toNatClampNeg_ofNat_of_lt h

/-- The numbers after the greatest one are below zero. -/
theorem rounds_of_le {count : Nat} (h : 2147483648 ≤ count) (hlt : count < 4294967296) :
    rounds count = 0 := by
  have hsize : Int32.size = 4294967296 := rfl
  have hvalue : (Int32.ofNat count).toInt = (count : Int) - 4294967296 := by
    rw [Int32.toInt_ofNat', hsize, Int.bmod_def]
    omega
  rw [rounds, Int32.toNatClampNeg, hvalue]
  omega

namespace TokenKind

/-- The comparison that a kind stands for between two operands. -/
def comparison? : TokenKind → Option Operator
  | .operator o => if o.isComparison then some o else none
  | .keyword .like => some .like
  | _ => none

def additive? : TokenKind → Option Operator
  | .operator .plus => some .plus
  | .operator .minus => some .minus
  | _ => none

/-- A star between two operands multiplies. -/
def multiplicative? : TokenKind → Option Operator
  | .star | .operator .multiply => some .multiply
  | .operator .divide => some .divide
  | _ => none

end TokenKind

namespace Parser

/-- The parsers of the next level of nesting. -/
structure Nested where
  expr : Parser Expr
  select : Parser Select

variable {α : Type} (n : Nested)

/-- A star that comes next is all that is read. -/
def starOr (a : α) (otherwise : Parser α) : Parser α :=
  choose (fun | .star => some (pure a) | _ => none) otherwise

/-- A query in brackets is told by its first word. -/
def queryOr (query otherwise : Parser α) : Parser α :=
  peek fun
    | some (.keyword .select) => query
    | _ => otherwise

theorem run_starOr_of_head?_ne {kinds : List TokenKind} (a : α) (otherwise : Parser α)
    (h : kinds.head? ≠ some .star) : (starOr a otherwise).run kinds = otherwise.run kinds := by
  cases kinds with
  | nil => rfl
  | cons kind kinds =>
    rw [starOr, run_choose_cons]
    split
    · rename_i hk
      split at hk
      · exact absurd rfl h
      · cases hk
    · rfl

theorem run_queryOr_of_head?_ne {kinds : List TokenKind} (query otherwise : Parser α)
    (h : kinds.head? ≠ some (.keyword .select)) :
    (queryOr query otherwise).run kinds = otherwise.run kinds := by
  rw [queryOr, run_peek]
  split
  · rename_i hs
    exact absurd hs h
  · rfl

/-- What follows a name that is the start of an expression. -/
def column (name : String) : Parser Expr :=
  after .dot (starOr (.qualifiedStar name) (return .qualified name (← identifier)))
    (.identifier name)

/-- The argument of an aggregate function. -/
def aggregateArgument (function : AggregateFunction) : Parser Expr := do
  expect .leftParen
  let distinct ← skip (.keyword .distinct)
  let argument ← starOr .star n.expr
  expect .rightParen
  return .aggregate function argument distinct

/-- A query or an expression after a left parenthesis. -/
def parenthesized : Parser Expr := do
  let inner ← queryOr (return .subquery (.select (← n.select))) n.expr
  expect .rightParen
  return inner

def primary : Parser Expr :=
  choose
    (fun
      | .literal value => some (pure (.literal value))
      | .star => some (pure .star)
      | .keyword k => (AggregateFunction.ofKeyword? k).map (aggregateArgument n)
      | .identifier name => some (column name)
      | .leftParen => some (parenthesized n)
      | _ => none)
    (unexpected .expression)

/-- A sign before an operand, and whether it is a minus. -/
def sign? : TokenKind → Option (Parser Bool)
  | .operator .plus => some (pure false)
  | .operator .minus => some (pure true)
  | _ => none

/-- Any number of signs before a primary expression. The minus signs are counted. -/
def signed : Parser Expr := do
  let minuses ← many sign?
  let operand ← primary n
  return Nat.repeat Expr.opposite (rounds (minuses.count true)) operand

def product : Parser Expr := do
  let first ← signed n
  let others ← many fun kind =>
    kind.multiplicative?.map fun operator => return (operator, ← signed n)
  return first.chainLeft others

def sum : Parser Expr := do
  let first ← product n
  let others ← many fun kind =>
    kind.additive?.map fun operator => return (operator, ← product n)
  return first.chainLeft others

/-- A sum, and `IS NULL` or `IS NOT NULL` after it. -/
def nullTest : Parser Expr := do
  let operand ← sum n
  after (.keyword .is)
    (do
      let negated ← skip (.keyword .not)
      expect (.literal .null)
      return .isNull operand negated)
    operand

/-- What follows `IN`. -/
def membership (operand : Expr) (negated : Bool) : Parser Expr := do
  expect .leftParen
  let inner ← queryOr (return .inSubquery operand (.select (← n.select)) negated)
    (return .inList operand (← commaList n.expr) negated)
  expect .rightParen
  return inner

/-- What follows `BETWEEN`. The bounds are null tests, so the `AND` between them is not
taken for a conjunction. -/
def range (operand : Expr) (negated : Bool) : Parser Expr := do
  let low ← nullTest n
  expect (.keyword .and)
  let high ← nullTest n
  return .between operand low high negated

/-- What follows an operand and `NOT`. -/
def negatedPredicate (operand : Expr) : Parser Expr :=
  choose
    (fun
      | .keyword .in => some (membership n operand true)
      | .keyword .between => some (range n operand true)
      | .keyword .like => some (return .not (.binary operand .like (← nullTest n)))
      | _ => none)
    (unexpected .predicateAfterNot)

/-- Reads a comparison, or test of membership or range, if the kind goes on from its
operand. -/
def predicate? (operand : Expr) : TokenKind → Option (Parser Expr)
  | .keyword .in => some (membership n operand false)
  | .keyword .between => some (range n operand false)
  | .keyword .not => some (negatedPredicate n operand)
  | kind => kind.comparison?.map fun operator => return .binary operand operator (← nullTest n)

/-- At most one comparison, or test of membership or range. -/
def predicate : Parser Expr := do
  let operand ← nullTest n
  choose (predicate? n operand) (pure operand)

/-- Any number of `NOT` before a predicate. They are counted. -/
def negation : Parser Expr := do
  let nots ← many fun kind => if kind = .keyword .not then some (pure ()) else none
  let operand ← predicate n
  return Nat.repeat .not (rounds nots.length) operand

def conjunction : Parser Expr := do
  let first ← negation n
  let others ← many fun kind => if kind = .keyword .and then some (negation n) else none
  return first.chainRight .and others

def disjunction : Parser Expr := do
  let first ← conjunction n
  let others ← many fun kind => if kind = .keyword .or then some (conjunction n) else none
  return first.chainRight .or others

end Parser

end SqlSyntax
