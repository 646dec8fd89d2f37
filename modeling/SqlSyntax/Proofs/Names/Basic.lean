import SqlSyntax.Tree.Basic

/-!
# Names and strings

What whoever writes a statement makes up is its names and its strings; all else is spelled
from a fixed stock. They are listed here for tokens and for trees. A tree is gone through in
the order in which its parts are written.
-/
namespace SqlSyntax

def Literal.names : Literal → List String
  | .string s => [s]
  | _ => []

def TokenKind.names : TokenKind → List String
  | .identifier name => [name]
  | .literal value => value.names
  | _ => []

def namesOf (u : List TokenKind) : List String := u.flatMap TokenKind.names

@[simp] theorem namesOf_nil : namesOf [] = [] := rfl
@[simp] theorem namesOf_cons (kind : TokenKind) (u : List TokenKind) :
    namesOf (kind :: u) = kind.names ++ namesOf u := rfl
@[simp] theorem namesOf_append (u v : List TokenKind) :
    namesOf (u ++ v) = namesOf u ++ namesOf v := List.flatMap_append

namespace TokenKind

@[simp] theorem names_keyword (k : Keyword) : (keyword k).names = [] := rfl
@[simp] theorem names_identifier (name : String) : (identifier name).names = [name] := rfl
@[simp] theorem names_operator (o : Operator) : (operator o).names = [] := rfl
@[simp] theorem names_literal (value : Literal) : (literal value).names = value.names := rfl
@[simp] theorem names_leftParen : leftParen.names = [] := rfl
@[simp] theorem names_rightParen : rightParen.names = [] := rfl
@[simp] theorem names_comma : comma.names = [] := rfl
@[simp] theorem names_semicolon : semicolon.names = [] := rfl
@[simp] theorem names_star : star.names = [] := rfl
@[simp] theorem names_dot : dot.names = [] := rfl

end TokenKind

@[simp] theorem Literal.names_integer (n : Int64) : (Literal.integer n).names = [] := rfl
@[simp] theorem Literal.names_float (x : Double) : (Literal.float x).names = [] := rfl
@[simp] theorem Literal.names_boolean (b : Bool) : (Literal.boolean b).names = [] := rfl
@[simp] theorem Literal.names_null : Literal.null.names = [] := rfl

/-! ## Trees -/

mutual

def Expr.names : Expr → List String
  | .literal value => value.names
  | .identifier name => [name]
  | .qualified table column => [table, column]
  | .star => []
  | .qualifiedStar table => [table]
  | .binary left _ right => left.names ++ right.names
  | .not operand | .negate operand | .isNull operand _ => operand.names
  | .aggregate _ argument _ => argument.names
  | .inList operand list _ => operand.names ++ exprNames list
  | .inSubquery operand subquery _ => operand.names ++ subquery.names
  | .between operand low high _ => operand.names ++ (low.names ++ high.names)
  | .subquery statement => statement.names

def exprNames : List Expr → List String
  | [] => []
  | e :: es => e.names ++ exprNames es

def conditionNames : Option Expr → List String
  | none => []
  | some e => e.names

/-- An expression before its label. -/
def SelectItem.names : SelectItem → List String
  | .allColumns => []
  | .projected e label => e.names ++ label.toList

def itemNames : List SelectItem → List String
  | [] => []
  | i :: is => i.names ++ itemNames is

/-- Of a join the left side, the right side, then the condition. -/
def TableRef.names : TableRef → List String
  | .table name label => name :: label.toList
  | .join left _ right condition => left.names ++ (right.names ++ condition.names)

def sourceNames : Option TableRef → List String
  | none => []
  | some t => t.names

def OrderBy.names : OrderBy → List String
  | ⟨e, _⟩ => e.names

def orderNames : List OrderBy → List String
  | [] => []
  | entry :: entries => entry.names ++ orderNames entries

def Select.names : Select → List String
  | ⟨_, columns, source, condition, groupBy, having, orderBy, _, _⟩ =>
    itemNames columns ++ (sourceNames source ++ (conditionNames condition ++
      (exprNames groupBy ++ (conditionNames having ++ orderNames orderBy))))

def Assignment.names : Assignment → List String
  | ⟨column, value⟩ => column :: value.names

def assignmentNames : List Assignment → List String
  | [] => []
  | a :: as => a.names ++ assignmentNames as

def rowNames : List (List Expr) → List String
  | [] => []
  | row :: rows => exprNames row ++ rowNames rows

/-- The type of a column of a new table is one text, which is no name. -/
def Statement.names : Statement → List String
  | .select query => query.names
  | .insert table columns rows => table :: (columns ++ rowNames rows)
  | .update table assignments condition =>
    table :: (assignmentNames assignments ++ conditionNames condition)
  | .delete table condition => table :: conditionNames condition
  | .createTable table columns => table :: columns.map ColumnDef.name

end

attribute [simp] Expr.names SelectItem.names TableRef.names OrderBy.names Select.names
  Assignment.names Statement.names

/-- The functions that go through lists entry by entry. -/
theorem eq_flatMap_of_cons {α : Type} {names : List α → List String} {f : α → List String}
    (hnil : names [] = []) (hcons : ∀ a as, names (a :: as) = f a ++ names as) (as : List α) :
    names as = as.flatMap f := by
  induction as with
  | nil => exact hnil
  | cons a as ih => rw [hcons, ih, List.flatMap_cons]

@[simp] theorem exprNames_eq (es : List Expr) : exprNames es = es.flatMap Expr.names :=
  eq_flatMap_of_cons rfl (fun _ _ => rfl) es

@[simp] theorem itemNames_eq (is : List SelectItem) :
    itemNames is = is.flatMap SelectItem.names :=
  eq_flatMap_of_cons rfl (fun _ _ => rfl) is

@[simp] theorem orderNames_eq (entries : List OrderBy) :
    orderNames entries = entries.flatMap OrderBy.names :=
  eq_flatMap_of_cons rfl (fun _ _ => rfl) entries

@[simp] theorem assignmentNames_eq (as : List Assignment) :
    assignmentNames as = as.flatMap Assignment.names :=
  eq_flatMap_of_cons rfl (fun _ _ => rfl) as

@[simp] theorem rowNames_eq (rows : List (List Expr)) :
    rowNames rows = rows.flatMap exprNames :=
  eq_flatMap_of_cons rfl (fun _ _ => rfl) rows

@[simp] theorem conditionNames_eq (e : Option Expr) :
    conditionNames e = e.elim [] Expr.names := by
  cases e <;> rfl

@[simp] theorem sourceNames_eq (t : Option TableRef) :
    sourceNames t = t.elim [] TableRef.names := by
  cases t <;> rfl

end SqlSyntax
