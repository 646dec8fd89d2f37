import SqlSyntax.Tree.Basic

/-!
# Well-formed trees

The types of the tree admit more than a statement can say. A tree is well-formed if its
lists have the entries that the grammar asks for, joins hang to the left, a query in an
expression is a query, and a sign that a number could have taken is not left before it.
-/
namespace SqlSyntax

/-- A minus sign stays before the expression, as it is not taken into a number. -/
def Expr.KeepsSign : Expr → Prop
  | .literal (.integer n) => n = Int64.minValue
  | .literal (.float _) => False
  | _ => True

/-- The greatest number of rows that a clause can give. -/
def maxRowCount : Nat := 9223372036854775807

mutual

inductive Expr.WellFormed : Expr → Prop
  | literal (value : Literal) : Expr.WellFormed (.literal value)
  | identifier (name : String) : Expr.WellFormed (.identifier name)
  | qualified (table column : String) : Expr.WellFormed (.qualified table column)
  | star : Expr.WellFormed .star
  | qualifiedStar (table : String) : Expr.WellFormed (.qualifiedStar table)
  | binary {e f : Expr} (operator : Operator) : e.WellFormed → f.WellFormed →
      Expr.WellFormed (.binary e operator f)
  | not {e : Expr} : e.WellFormed → Expr.WellFormed (.not e)
  | negate {e : Expr} : e.WellFormed → e.KeepsSign → Expr.WellFormed (.negate e)
  | aggregate {e : Expr} (function : AggregateFunction) (distinct : Bool) : e.WellFormed →
      Expr.WellFormed (.aggregate function e distinct)
  | isNull {e : Expr} (negated : Bool) : e.WellFormed → Expr.WellFormed (.isNull e negated)
  | inList {e : Expr} {es : List Expr} (negated : Bool) : e.WellFormed → es ≠ [] →
      (∀ f ∈ es, f.WellFormed) → Expr.WellFormed (.inList e es negated)
  | inSubquery {e : Expr} {q : Select} (negated : Bool) : e.WellFormed → q.WellFormed →
      Expr.WellFormed (.inSubquery e (.select q) negated)
  | between {e low high : Expr} (negated : Bool) : e.WellFormed → low.WellFormed →
      high.WellFormed → Expr.WellFormed (.between e low high negated)
  | subquery {q : Select} : q.WellFormed → Expr.WellFormed (.subquery (.select q))

inductive SelectItem.WellFormed : SelectItem → Prop
  | allColumns : SelectItem.WellFormed .allColumns
  | projected {e : Expr} (label : Option String) : e.WellFormed →
      SelectItem.WellFormed (.projected e label)

/-- The right side of a join is a plain table, and a cross join has no condition but `TRUE`. -/
inductive TableRef.WellFormed : TableRef → Prop
  | table (name : String) (label : Option String) : TableRef.WellFormed (.table name label)
  | join {left : TableRef} {type : JoinType} {condition : Expr} (name : String)
      (label : Option String) : left.WellFormed → condition.WellFormed →
      (type = .cross → condition = .boolean true) →
      TableRef.WellFormed (.join left type (.table name label) condition)

inductive OrderBy.WellFormed : OrderBy → Prop
  | mk {e : Expr} (direction : OrderDirection) : e.WellFormed →
      OrderBy.WellFormed ⟨e, direction⟩

inductive Select.WellFormed : Select → Prop
  | mk {distinct : Bool} {columns : List SelectItem} {source : Option TableRef}
      {condition : Option Expr} {groupBy : List Expr} {having : Option Expr}
      {orderBy : List OrderBy} {limit offset : Option Nat} :
      columns ≠ [] → (∀ i ∈ columns, i.WellFormed) → (∀ t ∈ source, t.WellFormed) →
      (∀ e ∈ condition, e.WellFormed) → (∀ e ∈ groupBy, e.WellFormed) →
      (∀ e ∈ having, e.WellFormed) → (∀ entry ∈ orderBy, entry.WellFormed) →
      (∀ n ∈ limit, n ≤ maxRowCount) → (∀ n ∈ offset, n ≤ maxRowCount) →
      Select.WellFormed
        { distinct, columns, source, condition, groupBy, having, orderBy, limit, offset }

end

inductive Assignment.WellFormed : Assignment → Prop
  | mk {e : Expr} (column : String) : e.WellFormed → Assignment.WellFormed ⟨column, e⟩

inductive Statement.WellFormed : Statement → Prop
  | select {q : Select} : q.WellFormed → Statement.WellFormed (.select q)
  | insert {columns : List String} {rows : List (List Expr)} (table : String) : rows ≠ [] →
      (∀ row ∈ rows, row ≠ [] ∧ ∀ e ∈ row, e.WellFormed) →
      (columns ≠ [] → ∀ row ∈ rows, row.length = columns.length) →
      Statement.WellFormed (.insert table columns rows)
  | update {assignments : List Assignment} {condition : Option Expr} (table : String) :
      assignments ≠ [] → (∀ a ∈ assignments, a.WellFormed) →
      (∀ e ∈ condition, e.WellFormed) →
      Statement.WellFormed (.update table assignments condition)
  | delete {condition : Option Expr} (table : String) : (∀ e ∈ condition, e.WellFormed) →
      Statement.WellFormed (.delete table condition)
  | createTable {columns : List ColumnDef} (table : String) : columns ≠ [] →
      Statement.WellFormed (.createTable table columns)

end SqlSyntax
