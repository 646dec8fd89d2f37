import SqlSyntax.Tree.Basic
import SqlSyntax.Outline.Basic

/-!
# Outlines of trees and tokens
-/
namespace SqlSyntax

def Literal.outline : Literal → Outline
  | .string s => .tagged "String" (.text s)
  | .integer n => .tagged "Integer" (.integer n.toInt)
  | .float x => .tagged "Float" (.float x)
  | .boolean b => .tagged "Boolean" (.boolean b)
  | .null => .unit "Null"

def TokenKind.outline : TokenKind → Outline
  | .keyword k => .tagged "Keyword" (.unit k.name)
  | .identifier name => .tagged "Identifier" (.text name)
  | .operator o => .tagged "Operator" (.unit o.name)
  | .literal value => .tagged "Literal" value.outline
  | .leftParen => .unit "LeftParen"
  | .rightParen => .unit "RightParen"
  | .comma => .unit "Comma"
  | .semicolon => .unit "Semicolon"
  | .star => .unit "Star"
  | .dot => .unit "Dot"
  | .endOfInput => .unit "EndOfInput"

def Outline.optionText : Option String → Outline
  | none => .absent
  | some s => .present (.text s)

def Outline.optionCount : Option Nat → Outline
  | none => .absent
  | some n => .present (.integer n)

def ColumnDef.outline (c : ColumnDef) : Outline :=
  .record "ColumnDef" [("name", .text c.name), ("data_type", .text c.dataType)]

mutual

def Expr.outline : Expr → Outline
  | .literal value => .tagged "Literal" value.outline
  | .identifier name => .tagged "Identifier" (.text name)
  | .qualified table column =>
    .variant "QualifiedIdentifier" [("table", .text table), ("column", .text column)]
  | .star => .unit "Star"
  | .qualifiedStar table => .tagged "QualifiedStar" (.text table)
  | .binary left operator right =>
    .variant "BinaryOp"
      [("left", left.outline), ("op", .unit operator.name), ("right", right.outline)]
  | .not operand => .tagged "Not" operand.outline
  | .negate operand => .tagged "Negate" operand.outline
  | .aggregate function argument distinct =>
    .variant "Aggregate"
      [("func", .unit function.name), ("arg", argument.outline), ("distinct", .boolean distinct)]
  | .isNull operand negated =>
    .variant "IsNull" [("expr", operand.outline), ("negated", .boolean negated)]
  | .inList operand list negated =>
    .variant "In"
      [("expr", operand.outline), ("list", .list (exprOutlines list)),
        ("negated", .boolean negated)]
  | .inSubquery operand subquery negated =>
    .variant "InSubquery"
      [("expr", operand.outline), ("subquery", subquery.outline), ("negated", .boolean negated)]
  | .between operand low high negated =>
    .variant "Between"
      [("expr", operand.outline), ("low", low.outline), ("high", high.outline),
        ("negated", .boolean negated)]
  | .subquery statement => .tagged "Subquery" statement.outline

def exprOutlines : List Expr → List Outline
  | [] => []
  | e :: es => e.outline :: exprOutlines es

def optionExprOutline : Option Expr → Outline
  | none => .absent
  | some e => .present e.outline

def SelectItem.outline : SelectItem → Outline
  | .allColumns => .unit "AllColumns"
  | .projected expr label =>
    .variant "ProjectedExpr" [("expr", expr.outline), ("alias", .optionText label)]

def selectItemOutlines : List SelectItem → List Outline
  | [] => []
  | i :: is => i.outline :: selectItemOutlines is

def TableRef.outline : TableRef → Outline
  | .table name label => .variant "Table" [("name", .text name), ("alias", .optionText label)]
  | .join left type right condition =>
    .variant "Join"
      [("left", left.outline), ("join_type", .unit type.name), ("right", right.outline),
        ("condition", condition.outline)]

def optionTableRefOutline : Option TableRef → Outline
  | none => .absent
  | some t => .present t.outline

def OrderBy.outline : OrderBy → Outline
  | ⟨expr, direction⟩ =>
    .record "OrderBy" [("expr", expr.outline), ("direction", .unit direction.name)]

def orderByOutlines : List OrderBy → List Outline
  | [] => []
  | o :: os => o.outline :: orderByOutlines os

def Select.outline : Select → Outline
  | ⟨distinct, columns, source, condition, groupBy, having, orderBy, limit, offset⟩ =>
    .record "SelectStatement"
      [("distinct", .boolean distinct),
        ("columns", .list (selectItemOutlines columns)),
        ("from", optionTableRefOutline source),
        ("where_clause", optionExprOutline condition),
        ("group_by", .list (exprOutlines groupBy)),
        ("having", optionExprOutline having),
        ("order_by", .list (orderByOutlines orderBy)),
        ("limit", .optionCount limit),
        ("offset", .optionCount offset)]

def rowOutlines : List (List Expr) → List Outline
  | [] => []
  | r :: rs => .list (exprOutlines r) :: rowOutlines rs

def Assignment.outline : Assignment → Outline
  | ⟨column, value⟩ => .record "Assignment" [("column", .text column), ("value", value.outline)]

def assignmentOutlines : List Assignment → List Outline
  | [] => []
  | a :: as => a.outline :: assignmentOutlines as

def Statement.outline : Statement → Outline
  | .select query => .tagged "Select" query.outline
  | .insert table columns rows =>
    .tagged "Insert" (.record "InsertStatement"
      [("table", .text table), ("columns", .list (columns.map .text)),
        ("rows", .list (rowOutlines rows))])
  | .update table assignments condition =>
    .tagged "Update" (.record "UpdateStatement"
      [("table", .text table), ("assignments", .list (assignmentOutlines assignments)),
        ("where_clause", optionExprOutline condition)])
  | .delete table condition =>
    .tagged "Delete" (.record "DeleteStatement"
      [("table", .text table), ("where_clause", optionExprOutline condition)])
  | .createTable table columns =>
    .tagged "CreateTable" (.record "CreateTableStatement"
      [("table", .text table), ("columns", .list (columns.map ColumnDef.outline))])

end

end SqlSyntax
