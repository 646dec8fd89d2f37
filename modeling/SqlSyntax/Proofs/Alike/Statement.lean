import SqlSyntax.Proofs.Alike.Basic

/-!
# The parsers of the grammar are built alike

Two runs may differ in the parsers of the next level of nesting and in the limit of
nesting. Where joins may lack different things, the parsers of tables have to be compared
first; all else is the same.
-/
namespace SqlSyntax

open SqlSyntax.Parser

structure Parser.Nested.Alike (Base : ∀ {α : Type}, Parser α → Parser α → Prop)
    (n m : Nested) : Prop where
  expr : SqlSyntax.Alike Base n.expr m.expr
  select : SqlSyntax.Alike Base n.select m.select

namespace Alike

variable {Base : ∀ {α : Type}, Parser α → Parser α → Prop} {n m : Nested} {α : Type}

/-! ## Expressions -/

theorem starOr {p q : Parser α} (a : α) (h : Alike Base p q) :
    Alike Base (starOr a p) (starOr a q) := by
  refine choose (fun kind => ?_) rfl h
  split
  · exact .pure _
  · trivial

theorem queryOr {p q p' q' : Parser α} (hp : Alike Base p q) (ho : Alike Base p' q') :
    Alike Base (queryOr p p') (queryOr q q') := by
  refine .peek rfl fun next => ?_
  split
  · exact hp
  · exact ho

theorem column (name : String) : Alike Base (column name) (column name) :=
  after _ _ (starOr _ (identifier.bind fun _ => .pure _))

theorem aggregateArgument (h : n.Alike Base m) (function : AggregateFunction) :
    Alike Base (aggregateArgument n function) (aggregateArgument m function) :=
  (expect _).bind fun _ => (skip _).bind fun _ => (starOr _ h.expr).bind fun _ =>
    (expect _).bind fun _ => .pure _

theorem parenthesized (h : n.Alike Base m) :
    Alike Base (parenthesized n) (parenthesized m) :=
  (queryOr (h.select.bind fun _ => .pure _) h.expr).bind fun _ =>
    (expect _).bind fun _ => .pure _

theorem primary (h : n.Alike Base m) : Alike Base (primary n) (primary m) := by
  refine choose (fun kind => ?_) rfl (.unexpected nofun)
  split
  · exact .pure _
  · exact .pure _
  · exact both_map fun function => aggregateArgument h function
  · exact column _
  · exact parenthesized h
  · trivial

theorem leftChain {p q : Parser Expr} {sign : TokenKind → Option Operator}
    (hsign : sign .endOfInput = none) (h : Alike Base p q) :
    Alike Base
      (do
        let first ← p
        let others ← Parser.many fun kind =>
          (sign kind).map fun operator => do return (operator, ← p)
        return first.chainLeft others)
      (do
        let first ← q
        let others ← Parser.many fun kind =>
          (sign kind).map fun operator => do return (operator, ← q)
        return first.chainLeft others) :=
  h.bind fun _ => (many (fun _ => both_map fun _ => h.bind fun _ => .pure _)
    (congrArg (Option.map _) hsign)).bind fun _ => .pure _

/-! What is above primary expressions takes from the next level only what they take from it,
up to where a test of membership begins. -/

section Layers

variable (h : Alike Base (Parser.primary n) (Parser.primary m))
include h

theorem signed : Alike Base (signed n) (signed m) := by
  refine (many (fun kind => ?_) rfl).bind fun _ => h.bind fun _ => .pure _
  unfold sign?
  split
  · exact .pure _
  · exact .pure _
  · trivial

theorem product : Alike Base (product n) (product m) := leftChain rfl (signed h)

theorem sum : Alike Base (sum n) (sum m) := leftChain rfl (product h)

theorem nullTest : Alike Base (nullTest n) (nullTest m) :=
  (sum h).bind fun _ => after _ _ ((skip _).bind fun _ => (expect _).bind fun _ => .pure _)

theorem range (operand : Expr) (negated : Bool) :
    Alike Base (range n operand negated) (range m operand negated) :=
  (nullTest h).bind fun _ => (expect _).bind fun _ => (nullTest h).bind fun _ => .pure _

end Layers

theorem membership (h : n.Alike Base m) (operand : Expr) (negated : Bool) :
    Alike Base (membership n operand negated) (membership m operand negated) :=
  (expect _).bind fun _ =>
    (queryOr (h.select.bind fun _ => .pure _) ((commaList h.expr).bind fun _ => .pure _)).bind
      fun _ => (expect _).bind fun _ => .pure _

theorem negatedPredicate (h : n.Alike Base m) (operand : Expr) :
    Alike Base (negatedPredicate n operand) (negatedPredicate m operand) := by
  refine choose (fun kind => ?_) rfl (.unexpected nofun)
  split
  · exact membership h operand true
  · exact range (primary h) operand true
  · exact (nullTest (primary h)).bind fun _ => .pure _
  · trivial

theorem predicate? (h : n.Alike Base m) (operand : Expr) (kind : TokenKind) :
    BothOrNone (Alike Base) (predicate? n operand kind) (predicate? m operand kind) := by
  unfold Parser.predicate?
  split
  · exact membership h operand false
  · exact range (primary h) operand false
  · exact negatedPredicate h operand
  · exact both_map fun _ => (nullTest (primary h)).bind fun _ => .pure _

theorem predicate (h : n.Alike Base m) : Alike Base (predicate n) (predicate m) :=
  (nullTest (primary h)).bind fun operand => choose (predicate? h operand) rfl (.pure operand)

/-! The layers above predicates use nothing else. -/

section Layers

variable (h : Alike Base (Parser.predicate n) (Parser.predicate m))
include h

theorem negation : Alike Base (negation n) (negation m) :=
  (manyAfter _ (.pure ())).bind fun _ => h.bind fun _ => .pure _

theorem conjunction : Alike Base (conjunction n) (conjunction m) :=
  (negation h).bind fun _ => (manyAfter _ (negation h)).bind fun _ => .pure _

theorem disjunction : Alike Base (disjunction n) (disjunction m) :=
  (conjunction h).bind fun _ => (manyAfter _ (conjunction h)).bind fun _ => .pure _

end Layers

/-! ## Queries -/

theorem label : Alike Base label label := by
  refine choose (fun kind => ?_) rfl (.pure none)
  split
  · exact identifier.bind fun _ => .pure _
  · exact .pure _
  · trivial

theorem table : Alike Base table table :=
  identifier.bind fun _ => label.bind fun _ => .pure _

theorem outerJoin (type : JoinType) : Alike Base (outerJoin type) (outerJoin type) :=
  (skip _).bind fun _ => (expect _).bind fun _ => .pure type

theorem join? (kind : TokenKind) : BothOrNone (Alike Base) (join? kind) (join? kind) := by
  unfold Parser.join?
  split
  · exact .pure _
  · exact (expect _).bind fun _ => .pure _
  · exact outerJoin _
  · exact outerJoin _
  · exact outerJoin _
  · exact (expect _).bind fun _ => .pure _
  · trivial

variable {o o' : ParserOptions}

section Joins

variable (hlax : o.allowJoinWithoutOn = o'.allowJoinWithoutOn)
  (hon : Alike Base (Parser.unexpected (.token (.keyword .on)) : Parser Expr)
    (Parser.unexpected (.token (.keyword .on))))
  (h : n.Alike Base m)
include hlax hon h

theorem joinCondition (type : JoinType) :
    Alike Base (joinCondition o n type) (joinCondition o' m type) := by
  unfold Parser.joinCondition
  split
  · exact .pure _
  · refine choose (fun _ => both_if _ h.expr) (if_neg nofun) (.peek rfl fun next => ?_)
    rw [hlax]
    split
    · exact .pure _
    · exact hon

theorem joinEntry {words words' : Parser JoinType} (hw : Alike Base words words') :
    Alike Base (joinEntry o n words) (joinEntry o' m words') :=
  hw.bind fun type => table.bind fun _ => (joinCondition hlax hon h type).bind fun _ => .pure _

theorem tableRef : Alike Base (tableRef o n) (tableRef o' m) := by
  refine table.bind fun _ => (many (fun kind => ?_) rfl).bind fun _ => .pure _
  have hk : BothOrNone (Alike Base) _ _ := join? kind
  cases hj : Parser.join? kind with
  | none => trivial
  | some words =>
    rw [hj] at hk
    exact joinEntry hlax hon h hk

end Joins

theorem selectItem (h : n.Alike Base m) : Alike Base (selectItem n) (selectItem m) :=
  starOr _ (h.expr.bind fun _ => label.bind fun _ => .pure _)

theorem orderEntry (h : n.Alike Base m) : Alike Base (orderEntry n) (orderEntry m) := by
  refine h.expr.bind fun _ => (choose (fun kind => ?_) rfl (.pure _)).bind fun _ => .pure _
  split
  · exact .pure _
  · exact .pure _
  · trivial

theorem rowCount (clause : Keyword) : Alike Base (rowCount clause) (rowCount clause) := by
  refine choose (fun kind => ?_) rfl (.unexpected nofun)
  split
  · exact both_if _ (.pure _)
  · trivial

theorem distinctClause : Alike Base distinctClause distinctClause := by
  refine choose (fun kind => ?_) rfl (.pure false)
  split
  · exact .pure _
  · exact .pure _
  · trivial

theorem clause {p q : Parser α} (keyword : Keyword) (h : Alike Base p q) :
    Alike Base (Parser.after (.keyword keyword) (do return some (← p)) none)
      (Parser.after (.keyword keyword) (do return some (← q)) none) :=
  after _ _ (h.bind fun _ => .pure _)

theorem byClause {p q : Parser α} (keyword : Keyword) (h : Alike Base p q) :
    Alike Base (byClause keyword p) (byClause keyword q) :=
  after _ _ ((expect _).bind fun _ => commaList h)

/-- A query is its first word and what is read after it. -/
theorem exists_selectBody_eq (ht : Alike Base (Parser.tableRef o n) (Parser.tableRef o' m))
    (h : n.Alike Base m) :
    ∃ f g, Parser.selectBody o n = Parser.expect (.keyword .select) >>= f ∧
      Parser.selectBody o' m = Parser.expect (.keyword .select) >>= g ∧
      ∀ a, Alike Base (f a) (g a) := by
  refine ⟨_, _, rfl, rfl, fun _ => distinctClause.bind fun _ => ?_⟩
  refine (commaList (selectItem h)).bind fun _ => ?_
  refine (clause .from ht).bind fun _ => ?_
  refine (clause .where h.expr).bind fun _ => ?_
  refine (byClause .group h.expr).bind fun _ => ?_
  refine (clause .having h.expr).bind fun _ => ?_
  refine (byClause .order (orderEntry h)).bind fun _ => ?_
  refine (clause .limit (rowCount .limit)).bind fun _ => ?_
  exact (clause .offset (rowCount .offset)).bind fun _ => .pure _

theorem selectBody (ht : Alike Base (Parser.tableRef o n) (Parser.tableRef o' m))
    (h : n.Alike Base m) : Alike Base (selectBody o n) (selectBody o' m) := by
  obtain ⟨f, g, hf, hg, hclauses⟩ := exists_selectBody_eq ht h
  rw [hf, hg]
  exact (expect _).bind hclauses

/-! ## Other statements -/

/-- Where two parsers of rows are put together alike, they are related with a check of the width
too. -/
def ChecksRows (Base : ∀ {α : Type}, Parser α → Parser α → Prop) : Prop :=
  ∀ {p q : Parser (List Expr)} {test : List Expr → Option ParseCause},
    (∀ a cause, test a = some cause → ∃ values columns, cause = .rowWidth values columns) →
    Alike Base p q → Base (p.validate test) (q.validate test)

theorem inParens {p q : Parser α} (h : Alike Base p q) :
    Alike Base (inParens p) (inParens q) :=
  (expect _).bind fun _ => h.bind fun _ => (expect _).bind fun _ => .pure _

theorem row (hrows : ChecksRows Base) (h : n.Alike Base m) (columns : Nat) :
    Alike Base (row n columns) (row m columns) := by
  refine .base (hrows (fun values cause hc => ?_) (inParens (commaList h.expr)))
  split at hc
  · cases hc
  · cases hc
    exact ⟨_, _, rfl⟩

theorem insert (hrows : ChecksRows Base) (h : n.Alike Base m) :
    Alike Base (insert n) (insert m) := by
  refine (expect _).bind fun _ => (expect _).bind fun _ => identifier.bind fun _ => ?_
  refine (after _ _ ((commaList identifier).bind fun _ =>
    (expect _).bind fun _ => .pure _)).bind fun columns => ?_
  exact (expect _).bind fun _ => (commaList (row hrows h columns.length)).bind fun _ => .pure _

theorem assignment (h : n.Alike Base m) : Alike Base (assignment n) (assignment m) :=
  identifier.bind fun _ => (expect _).bind fun _ => h.expr.bind fun _ => .pure _

theorem update (h : n.Alike Base m) : Alike Base (update n) (update m) :=
  (expect _).bind fun _ => identifier.bind fun _ => (expect _).bind fun _ =>
    (commaList (assignment h)).bind fun _ => (clause .where h.expr).bind fun _ => .pure _

theorem delete (h : n.Alike Base m) : Alike Base (delete n) (delete m) :=
  (expect _).bind fun _ => (expect _).bind fun _ => identifier.bind fun _ =>
    (clause .where h.expr).bind fun _ => .pure _

theorem typeArguments : Alike Base typeArguments typeArguments :=
  after _ _ (integer.bind fun _ => (after _ _ (integer.bind fun _ => .pure _)).bind fun _ =>
    (expect _).bind fun _ => .pure _)

theorem word (text : String) : Alike Base (word text) (word text) := by
  refine choose (fun kind => ?_) rfl (.unexpected nofun)
  split
  · exact both_if _ (.pure ())
  · trivial

theorem constraint? (kind : TokenKind) :
    BothOrNone (Alike Base) (constraint? kind) (constraint? kind) := by
  unfold Parser.constraint?
  split
  · exact both_if _ ((word "KEY").bind fun _ => .pure _)
  · exact (expect _).bind fun _ => .pure _
  · trivial

theorem columnDef : Alike Base columnDef columnDef := by
  refine identifier.bind fun _ => .bind (choose (fun kind => ?_) rfl (.unexpected nofun)) fun _ =>
    typeArguments.bind fun _ => (many constraint? rfl).bind fun _ => .pure _
  split
  · exact .pure _
  · trivial

theorem createTable : Alike Base createTable createTable :=
  (expect _).bind fun _ => (expect _).bind fun _ => identifier.bind fun _ =>
    (inParens (commaList columnDef)).bind fun _ => .pure _

theorem statementWith (hrows : ChecksRows Base) (h : n.Alike Base m) :
    Alike Base (statementWith n) (statementWith m) := by
  refine .peek rfl fun next => ?_
  split
  · exact h.select.bind fun _ => .pure _
  · exact insert hrows h
  · exact update h
  · exact delete h
  · exact createTable
  · exact .unexpected nofun

theorem soleStatementWith (hrows : ChecksRows Base) (h : n.Alike Base m) :
    Alike Base (soleStatementWith n) (soleStatementWith m) :=
  (statementWith hrows h).bind fun _ => (skip _).bind fun _ =>
    (atEnd .endOfStatement nofun).bind fun _ => .pure _

theorem statement (hrows : ChecksRows Base)
    (h : (nested o o.maxDepth).Alike Base (nested o' o'.maxDepth)) :
    Alike Base (statement o) (statement o') := statementWith hrows h

theorem soleStatement (hrows : ChecksRows Base)
    (h : (nested o o.maxDepth).Alike Base (nested o' o'.maxDepth)) :
    Alike Base (soleStatement o) (soleStatement o') := soleStatementWith hrows h

end Alike

end SqlSyntax
