import SqlSyntax.Tree.Basic

/-!
# Printing trees

A tree is printed with brackets only where an operand is looser than its place allows, and
where a star would be taken for the whole of an entry. The layers are numbered from the
loosest: `OR`, `AND`, `NOT`, comparisons, null tests, `+` and `-`, `*` and `/`, signs, and
primary expressions.
-/
namespace SqlSyntax

/-- Printed kinds, and how many expressions and queries are open at once in them. -/
structure Printed where
  kinds : List TokenKind
  depth : Nat

namespace Printed

instance : Append Printed where
  append p q := ⟨p.kinds ++ q.kinds, max p.depth q.depth⟩

@[simp] theorem kinds_append (p q : Printed) : (p ++ q).kinds = p.kinds ++ q.kinds := rfl
@[simp] theorem depth_append (p q : Printed) : (p ++ q).depth = max p.depth q.depth := rfl

/-- Kinds in which nothing is open. -/
def ofKinds (kinds : List TokenKind) : Printed := ⟨kinds, 0⟩

@[simp] theorem kinds_ofKinds (kinds : List TokenKind) : (ofKinds kinds).kinds = kinds := rfl
@[simp] theorem depth_ofKinds (kinds : List TokenKind) : (ofKinds kinds).depth = 0 := rfl

/-- An expression or a query in a place where one is opened. -/
def opened (p : Printed) : Printed := ⟨p.kinds, p.depth + 1⟩

@[simp] theorem kinds_opened (p : Printed) : p.opened.kinds = p.kinds := rfl
@[simp] theorem depth_opened (p : Printed) : p.opened.depth = p.depth + 1 := rfl

def parens (p : Printed) : Printed := ofKinds [.leftParen] ++ (p ++ ofKinds [.rightParen])

@[simp] theorem kinds_parens (p : Printed) :
    p.parens.kinds = .leftParen :: (p.kinds ++ [.rightParen]) := rfl
@[simp] theorem depth_parens (p : Printed) : p.parens.depth = p.depth := by simp [parens]

/-- An expression of one layer in a place for another. -/
def within (p : Printed) (own place : Nat) : Printed :=
  if own < place then p.opened.parens else p

/-- An expression in a place where a star that comes first is all that is read. -/
def unstarred (p : Printed) : Printed :=
  if p.kinds.head? = some .star then p.opened.parens else p

def when (condition : Bool) (kind : TokenKind) : Printed :=
  ofKinds (if condition then [kind] else [])

def commaList : List Printed → Printed
  | [] => ofKinds []
  | [p] => p
  | p :: q :: ps => p ++ (ofKinds [.comma] ++ commaList (q :: ps))

end Printed

/-! ## Layers -/

namespace Operator

def layer : Operator → Nat
  | or => 0
  | and => 1
  | plus | minus => 5
  | multiply | divide => 6
  | _ => 3

/-- The loosest layer of a left operand: that of the operator itself if it groups to the
left. -/
def leftLayer : Operator → Nat
  | or => 1
  | and => 2
  | plus | minus => 5
  | multiply | divide => 6
  | _ => 4

def rightLayer : Operator → Nat
  | or => 0
  | and => 1
  | plus | minus => 6
  | multiply | divide => 7
  | _ => 4

/-- Words are printed as keywords, and multiplication as a star. -/
def kind : Operator → TokenKind
  | or => .keyword .or
  | and => .keyword .and
  | like => .keyword .like
  | multiply => .star
  | o => .operator o

end Operator

def Expr.layer : Expr → Nat
  | .binary _ operator _ => operator.layer
  | .not _ => 2
  | .inList .. | .inSubquery .. | .between .. => 3
  | .isNull .. => 4
  | .negate _ => 7
  | _ => 8

/-- The whole of what an aggregate function is taken of may be a star. -/
def Expr.isStar : Expr → Bool
  | .star => true
  | _ => false

/-! ## Trees -/

def JoinType.kinds : JoinType → List TokenKind
  | .inner => [.keyword .inner, .keyword .join]
  | .left => [.keyword .left, .keyword .join]
  | .right => [.keyword .right, .keyword .join]
  | .full => [.keyword .full, .keyword .join]
  | .cross => [.keyword .cross, .keyword .join]

def printLabel : Option String → Printed
  | none => .ofKinds []
  | some name => .ofKinds [.keyword .as, .identifier name]

def printRowCount (keyword : Keyword) : Option Nat → Printed
  | none => .ofKinds []
  | some n => .ofKinds [.keyword keyword, .literal (.integer (Int64.ofNat n))]

/-- A list after a keyword and `BY`; an empty one is left out. -/
def printBy (keyword : Keyword) : List Printed → Printed
  | [] => .ofKinds []
  | ps => .ofKinds [.keyword keyword, .keyword .by] ++ .commaList ps

/-- A cross join has no condition. -/
def printOn (type : JoinType) (condition : Printed) : Printed :=
  if type = .cross then .ofKinds [] else .ofKinds [.keyword .on] ++ condition.opened

/-- The columns of an insertion in brackets, which are left out with them. -/
def printColumns : List String → Printed
  | [] => .ofKinds []
  | names => (Printed.commaList (names.map fun name => .ofKinds [.identifier name])).parens

/-- The type of a column is printed as one name. -/
def ColumnDef.print (c : ColumnDef) : Printed :=
  .ofKinds [.identifier c.name, .identifier c.dataType]

mutual

def Expr.print : Expr → Printed
  | .literal value => .ofKinds [.literal value]
  | .identifier name => .ofKinds [.identifier name]
  | .qualified table column => .ofKinds [.identifier table, .dot, .identifier column]
  | .star => .ofKinds [.star]
  | .qualifiedStar table => .ofKinds [.identifier table, .dot, .star]
  | .binary left operator right =>
    left.print.within left.layer operator.leftLayer ++ (.ofKinds [operator.kind] ++
      right.print.within right.layer operator.rightLayer)
  | .not operand => .ofKinds [.keyword .not] ++ operand.print.within operand.layer 2
  | .negate operand => .ofKinds [.operator .minus] ++ operand.print.within operand.layer 7
  | .aggregate function argument distinct =>
    .ofKinds [.keyword function.keyword] ++ (Printed.when distinct (.keyword .distinct) ++
      (if argument.isStar then argument.print else argument.print.unstarred.opened)).parens
  | .isNull operand negated =>
    operand.print.within operand.layer 5 ++ (.ofKinds [.keyword .is] ++
      (Printed.when negated (.keyword .not) ++ .ofKinds [.literal .null]))
  | .inList operand list negated =>
    operand.print.within operand.layer 4 ++ (Printed.when negated (.keyword .not) ++
      (.ofKinds [.keyword .in] ++ (Printed.commaList (printOpened list)).parens))
  | .inSubquery operand subquery negated =>
    operand.print.within operand.layer 4 ++ (Printed.when negated (.keyword .not) ++
      (.ofKinds [.keyword .in] ++ subquery.print.parens))
  | .between operand low high negated =>
    operand.print.within operand.layer 4 ++ (Printed.when negated (.keyword .not) ++
      (.ofKinds [.keyword .between] ++ (low.print.within low.layer 4 ++
        (.ofKinds [.keyword .and] ++ high.print.within high.layer 4))))
  | .subquery statement => statement.print.parens

def printOpened : List Expr → List Printed
  | [] => []
  | e :: es => e.print.opened :: printOpened es

def printClause (keyword : Keyword) : Option Expr → Printed
  | none => .ofKinds []
  | some e => .ofKinds [.keyword keyword] ++ e.print.opened

def SelectItem.print : SelectItem → Printed
  | .allColumns => .ofKinds [.star]
  | .projected e label => e.print.unstarred.opened ++ printLabel label

def printItems : List SelectItem → List Printed
  | [] => []
  | i :: is => i.print :: printItems is

def TableRef.print : TableRef → Printed
  | .table name label => .ofKinds [.identifier name] ++ printLabel label
  | .join left type right condition =>
    left.print ++ (.ofKinds type.kinds ++ (right.print ++ printOn type condition.print))

def printSource : Option TableRef → Printed
  | none => .ofKinds []
  | some t => .ofKinds [.keyword .from] ++ t.print

def OrderBy.print : OrderBy → Printed
  | ⟨e, direction⟩ => e.print.opened ++ .ofKinds [.keyword direction.keyword]

def printOrder : List OrderBy → List Printed
  | [] => []
  | entry :: entries => entry.print :: printOrder entries

def Select.print : Select → Printed
  | ⟨distinct, columns, source, condition, groupBy, having, orderBy, limit, offset⟩ =>
    .ofKinds [.keyword .select] ++ (Printed.when distinct (.keyword .distinct) ++
      (Printed.commaList (printItems columns) ++ (printSource source ++
        (printClause .where condition ++ (printBy .group (printOpened groupBy) ++
          (printClause .having having ++ (printBy .order (printOrder orderBy) ++
            (printRowCount .limit limit ++ printRowCount .offset offset))))))))

def Assignment.print : Assignment → Printed
  | ⟨column, value⟩ => .ofKinds [.identifier column, .operator .equals] ++ value.print.opened

def printAssignments : List Assignment → List Printed
  | [] => []
  | a :: as => a.print :: printAssignments as

def printRows : List (List Expr) → List Printed
  | [] => []
  | row :: rows => (Printed.commaList (printOpened row)).parens :: printRows rows

def Statement.print : Statement → Printed
  | .select query => query.print.opened
  | .insert table columns rows =>
    .ofKinds [.keyword .insert, .keyword .into, .identifier table] ++
      (printColumns columns ++
        (.ofKinds [.keyword .values] ++ Printed.commaList (printRows rows)))
  | .update table assignments condition =>
    .ofKinds [.keyword .update, .identifier table, .keyword .set] ++
      (Printed.commaList (printAssignments assignments) ++ printClause .where condition)
  | .delete table condition =>
    .ofKinds [.keyword .delete, .keyword .from, .identifier table] ++
      printClause .where condition
  | .createTable table columns =>
    .ofKinds [.keyword .create, .keyword .table, .identifier table] ++
      (Printed.commaList (columns.map ColumnDef.print)).parens

end

attribute [simp] Expr.print SelectItem.print TableRef.print OrderBy.print Select.print
  Assignment.print Statement.print

end SqlSyntax
