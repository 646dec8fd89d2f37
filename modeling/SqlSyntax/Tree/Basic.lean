import SqlSyntax.Token.Basic

/-!
# The tree of a statement

Expressions and statements refer to each other: an expression may hold a query, and a
query is made of expressions.
-/
namespace SqlSyntax

inductive AggregateFunction where
  | count | sum | avg | min | max
  deriving DecidableEq, Inhabited

inductive JoinType where
  | inner | left | right | full | cross
  deriving DecidableEq, Inhabited

inductive OrderDirection where
  | ascending
  | descending
  deriving DecidableEq, Inhabited

/-- A column of a new table. The type is kept as one text, arguments and constraints
included, such as `VARCHAR(255) NOT NULL`. -/
structure ColumnDef where
  name : String
  dataType : String
  deriving DecidableEq, Inhabited

mutual

inductive Expr where
  | literal (value : Literal)
  | identifier (name : String)
  | qualified (table column : String)
  | star
  | qualifiedStar (table : String)
  | binary (left : Expr) (operator : Operator) (right : Expr)
  | not (operand : Expr)
  | negate (operand : Expr)
  | aggregate (function : AggregateFunction) (argument : Expr) (distinct : Bool)
  | isNull (operand : Expr) (negated : Bool)
  | inList (operand : Expr) (list : List Expr) (negated : Bool)
  | inSubquery (operand : Expr) (subquery : Statement) (negated : Bool)
  | between (operand low high : Expr) (negated : Bool)
  | subquery (statement : Statement)

/-- An entry of a select list: a bare `*`, or an expression with or without a label. -/
inductive SelectItem where
  | allColumns
  | projected (expr : Expr) (label : Option String)

/-- What a query reads from. A join without a condition has the condition `TRUE`. -/
inductive TableRef where
  | table (name : String) (label : Option String)
  | join (left : TableRef) (type : JoinType) (right : TableRef) (condition : Expr)

structure OrderBy where
  expr : Expr
  direction : OrderDirection

structure Select where
  distinct : Bool
  columns : List SelectItem
  source : Option TableRef
  condition : Option Expr
  groupBy : List Expr
  having : Option Expr
  orderBy : List OrderBy
  limit : Option Nat
  offset : Option Nat

structure Assignment where
  column : String
  value : Expr

inductive Statement where
  | select (query : Select)
  | insert (table : String) (columns : List String) (rows : List (List Expr))
  | update (table : String) (assignments : List Assignment) (condition : Option Expr)
  | delete (table : String) (condition : Option Expr)
  | createTable (table : String) (columns : List ColumnDef)

end

namespace AggregateFunction

def ofKeyword? : Keyword → Option AggregateFunction
  | .count => some count
  | .sum => some sum
  | .avg => some avg
  | .min => some min
  | .max => some max
  | _ => none

def keyword : AggregateFunction → Keyword
  | count => .count
  | sum => .sum
  | avg => .avg
  | min => .min
  | max => .max

theorem ofKeyword?_eq_some_iff {k : Keyword} {f : AggregateFunction} :
    ofKeyword? k = some f ↔ k = f.keyword := by
  cases f <;> cases k <;> simp [ofKeyword?, keyword]

def text (f : AggregateFunction) : String := f.keyword.text

def name (f : AggregateFunction) : String := f.keyword.name

end AggregateFunction

namespace JoinType

def text : JoinType → String
  | inner => "INNER JOIN"
  | left => "LEFT JOIN"
  | right => "RIGHT JOIN"
  | full => "FULL JOIN"
  | cross => "CROSS JOIN"

def name : JoinType → String
  | inner => "Inner"
  | left => "Left"
  | right => "Right"
  | full => "Full"
  | cross => "Cross"

end JoinType

namespace OrderDirection

def keyword : OrderDirection → Keyword
  | ascending => .asc
  | descending => .desc

def text (d : OrderDirection) : String := d.keyword.text

def name (d : OrderDirection) : String := d.keyword.name

/-- The direction of an entry that names none. -/
def unmarked : OrderDirection := ascending

end OrderDirection

def OrderBy.isAscending (o : OrderBy) : Bool := o.direction = .ascending

/-- The words that name the kind of a statement. -/
def Statement.kind : Statement → String
  | .select .. => "SELECT"
  | .insert .. => "INSERT"
  | .update .. => "UPDATE"
  | .delete .. => "DELETE"
  | .createTable .. => "CREATE TABLE"

def Expr.integer (n : Int64) : Expr := .literal (.integer n)

def Expr.float (x : Double) : Expr := .literal (.float x)

def Expr.boolean (b : Bool) : Expr := .literal (.boolean b)

end SqlSyntax
