import SqlSyntax.Tree.Basic

/-!
# Questions about a tree
-/
namespace SqlSyntax

mutual

/-- Whether a query stands anywhere in the expression. -/
def Expr.containsSubquery : Expr → Bool
  | .subquery _ | .inSubquery .. => true
  | .literal _ | .identifier _ | .qualified .. | .star | .qualifiedStar _ => false
  | .binary left _ right => left.containsSubquery || right.containsSubquery
  | .not operand | .negate operand | .isNull operand _ => operand.containsSubquery
  | .aggregate _ argument _ => argument.containsSubquery
  | .inList operand list _ => operand.containsSubquery || anyContainsSubquery list
  | .between operand low high _ =>
    operand.containsSubquery || low.containsSubquery || high.containsSubquery

def anyContainsSubquery : List Expr → Bool
  | [] => false
  | e :: es => e.containsSubquery || anyContainsSubquery es

end

theorem anyContainsSubquery_eq (es : List Expr) :
    anyContainsSubquery es = es.any Expr.containsSubquery := by
  induction es with
  | nil => rfl
  | cons e es ih => simp [anyContainsSubquery, ih]

namespace TableRef

/-- The names of the tables from left to right. -/
def tableNames : TableRef → List String
  | .table name _ => [name]
  | .join left _ right _ => left.tableNames ++ right.tableNames

/-- The joins with their conditions, those of the left side first, then those of the
right side, then the join of the two. -/
def joins : TableRef → List (JoinType × Expr)
  | .table .. => []
  | .join left type right condition => left.joins ++ right.joins ++ [(type, condition)]

/-- Gives a table a label in place of the one it has. A join has no label. -/
def relabel (label : String) : TableRef → TableRef
  | .table name _ => .table name (some label)
  | .join left type right condition => .join left type right condition

end TableRef

end SqlSyntax
