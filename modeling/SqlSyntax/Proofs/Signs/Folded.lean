import SqlSyntax.Tree.Basic
import SqlSyntax.Proofs.WellFormed.Basic

/-!
# Expressions in a tree

A statement has outermost expressions, and an expression has operands, to which the outermost
expressions of a query in it belong. So every expression in a statement, at whatever depth, is
reached by going from one to its operands. An expression is folded if no least integer is in it,
and no minus sign before a number.
-/
namespace SqlSyntax

/-! ## Outermost expressions -/

def SelectItem.exprs : SelectItem → List Expr
  | .allColumns => []
  | .projected e _ => [e]

/-- The conditions of the joins. -/
def TableRef.exprs : TableRef → List Expr
  | .table .. => []
  | .join left _ right condition => left.exprs ++ (right.exprs ++ [condition])

def Select.exprs (q : Select) : List Expr :=
  q.columns.flatMap SelectItem.exprs ++ (q.source.toList.flatMap TableRef.exprs ++
    (q.condition.toList ++ (q.groupBy ++ (q.having.toList ++ q.orderBy.map OrderBy.expr))))

def Statement.exprs : Statement → List Expr
  | .select query => query.exprs
  | .insert _ _ rows => rows.flatten
  | .update _ assignments condition => assignments.map Assignment.value ++ condition.toList
  | .delete _ condition => condition.toList
  | .createTable .. => []

namespace Expr

/-- What an expression is made of, one level down. -/
def operands : Expr → List Expr
  | .literal _ | .identifier _ | .qualified .. | .star | .qualifiedStar _ => []
  | .binary left _ right => [left, right]
  | .not operand | .negate operand | .isNull operand _ => [operand]
  | .aggregate _ argument _ => [argument]
  | .inList operand list _ => operand :: list
  | .inSubquery operand inner _ => operand :: inner.exprs
  | .between operand low high _ => [operand, low, high]
  | .subquery statement => statement.exprs

/-- The first expression is the second one, or is in one of its operands. -/
inductive Within (d : Expr) : Expr → Prop
  | self : Within d d
  | operand : f ∈ e.operands → Within d f → Within d e

theorem Within.trans {c d e : Expr} (h : c.Within d) (h' : d.Within e) : c.Within e := by
  induction h' with
  | self => exact h
  | operand hf _ ih => exact .operand hf ih

/-- A number is not the least integer, and a minus sign stays only before what keeps it. -/
def IsFolded : Expr → Prop
  | .literal (.integer n) => n ≠ Int64.minValue
  | .negate operand => operand.KeepsSign
  | _ => True

def Folded (e : Expr) : Prop := ∀ d : Expr, d.Within e → d.IsFolded

namespace Folded

variable {d e : Expr}

theorem of_operands (he : e.IsFolded) (h : ∀ f ∈ e.operands, f.Folded) : e.Folded := by
  intro d hd
  cases hd with
  | self => exact he
  | operand hf hd => exact h _ hf d hd

theorem isFolded (h : e.Folded) : e.IsFolded := h e .self

theorem of_within (h : e.Folded) (hd : d.Within e) : d.Folded := fun c hc => h c (hc.trans hd)

end Folded

end Expr

def SelectItem.Folded (i : SelectItem) : Prop := ∀ e ∈ i.exprs, e.Folded

def TableRef.Folded (t : TableRef) : Prop := ∀ e ∈ t.exprs, e.Folded

def Select.Folded (q : Select) : Prop := ∀ e ∈ q.exprs, e.Folded

def Statement.Folded (s : Statement) : Prop := ∀ e ∈ s.exprs, e.Folded

/-- The expression is anywhere in the statement. -/
def Statement.Has (s : Statement) (e : Expr) : Prop := ∃ f ∈ s.exprs, e.Within f

end SqlSyntax
