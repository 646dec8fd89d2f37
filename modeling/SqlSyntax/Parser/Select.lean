import SqlSyntax.Parser.Expr
import SqlSyntax.Parser.Options

/-!
# Parsers of queries

A query opens a level of nesting, and so does each expression in it. The levels are built
from the innermost outwards: where the limit is used up every expression and query fails,
and one level further out they are made of the parsers of the level inside.
-/
namespace SqlSyntax

/-- A table with joins to its right, grouped to the left. -/
def TableRef.joinLeft (first : TableRef) (joins : List (JoinType × TableRef × Expr)) : TableRef :=
  joins.foldl (fun left join => .join left join.1 join.2.1 join.2.2) first

namespace Parser

/-- A label after `AS`, or a bare identifier. A keyword is never a bare label. -/
def label : Parser (Option String) :=
  choose
    (fun
      | .keyword .as => some (return some (← identifier))
      | .identifier name => some (pure (some name))
      | _ => none)
    (pure none)

def table : Parser TableRef := return .table (← identifier) (← label)

/-- The type of a join whose `JOIN` may follow `OUTER`. -/
def outerJoin (type : JoinType) : Parser JoinType := do
  let _ ← skip (.keyword .outer)
  expect (.keyword .join)
  return type

/-- Reads the words of a join from the second one on, if the kind is the first. -/
def join? : TokenKind → Option (Parser JoinType)
  | .keyword .join => some (pure .inner)
  | .keyword .inner => some (do expect (.keyword .join); return .inner)
  | .keyword .left => some (outerJoin .left)
  | .keyword .right => some (outerJoin .right)
  | .keyword .full => some (outerJoin .full)
  | .keyword .cross => some (do expect (.keyword .join); return .cross)
  | _ => none

/-- The kinds that begin a join. -/
def startsJoin (kind : TokenKind) : Bool := (join? kind).isSome

variable (o : ParserOptions) (n : Nested)

/-- The condition of a join after its right table. -/
def joinCondition : JoinType → Parser Expr
  | .cross => pure (.boolean true)
  | _ =>
    choose (fun kind => if kind = .keyword .on then some n.expr else none) <|
      peek fun next =>
        if o.allowJoinWithoutOn && next.any startsJoin then pure (.boolean true)
        else unexpected (.token (.keyword .on))

/-- What follows the first word of a join. -/
def joinEntry (words : Parser JoinType) : Parser (JoinType × TableRef × Expr) := do
  let type ← words
  let right ← table
  return (type, right, ← joinCondition o n type)

/-- A table and the joins after it. -/
def tableRef : Parser TableRef := do
  let first ← table
  let joins ← many fun kind => (join? kind).map (joinEntry o n)
  return first.joinLeft joins

/-- A star that begins an entry is the whole entry. -/
def selectItem : Parser SelectItem :=
  starOr .allColumns (return .projected (← n.expr) (← label))

/-- An expression to order by. One without a direction goes upwards. -/
def orderEntry : Parser OrderBy := do
  let expr ← n.expr
  let direction ← choose
    (fun
      | .keyword .desc => some (pure .descending)
      | .keyword .asc => some (pure .ascending)
      | _ => none)
    (pure .unmarked)
  return { expr, direction }

/-- The number after `LIMIT` or `OFFSET`. -/
def rowCount (clause : Keyword) : Parser Nat :=
  choose
    (fun
      | .literal (.integer count) => if 0 ≤ count then some (pure count.toInt.toNat) else none
      | _ => none)
    (unexpected (.rowCount clause))

/-! Each clause begins with its keyword, and is absent if the keyword does not come next. -/

/-- Whether duplicate rows are dropped. `ALL` says that they are not. -/
def distinctClause : Parser Bool :=
  choose
    (fun
      | .keyword .distinct => some (pure true)
      | .keyword .all => some (pure false)
      | _ => none)
    (pure false)

def sourceClause : Parser (Option TableRef) :=
  after (.keyword .from) (return some (← tableRef o n)) none

def conditionClause (keyword : Keyword) : Parser (Option Expr) :=
  after (.keyword keyword) (return some (← n.expr)) none

/-- A list after a keyword and `BY`. -/
def byClause {α : Type} (keyword : Keyword) (p : Parser α) : Parser (List α) :=
  after (.keyword keyword)
    (do
      expect (.keyword .by)
      commaList p)
    []

def rowCountClause (keyword : Keyword) : Parser (Option Nat) :=
  after (.keyword keyword) (return some (← rowCount keyword)) none

def selectBody : Parser Select := do
  expect (.keyword .select)
  let distinct ← distinctClause
  let columns ← commaList (selectItem n)
  let source ← sourceClause o n
  let condition ← conditionClause n .where
  let groupBy ← byClause .group n.expr
  let having ← conditionClause n .having
  let orderBy ← byClause .order (orderEntry n)
  let limit ← rowCountClause .limit
  let offset ← rowCountClause .offset
  return { distinct, columns, source, condition, groupBy, having, orderBy, limit, offset }

/-- The parsers of expressions and queries with so many levels of nesting left. -/
def nested : Nat → Nested
  | 0 => { expr := refuse o.maxDepth, select := refuse o.maxDepth }
  | left + 1 =>
    { expr := nest fun _ => disjunction (nested left)
      select := nest fun _ => selectBody o (nested left) }

end Parser

end SqlSyntax
