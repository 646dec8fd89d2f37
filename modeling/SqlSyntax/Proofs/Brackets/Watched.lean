import SqlSyntax.Proofs.Alike.Outlast

/-!
# Where expressions are read

A run does not say where it read its expressions. Parsers that do the same, and whose history
tells whether an expression was read between two given places, say it.
-/
namespace SqlSyntax

namespace Parser

/-- Notes whether the kinds from `place` up to `stop` are what the parser reads. What it notes
inside is noted too. -/
def watch (place stop : List TokenKind) {α : Type} (p : Parser α) : Parser α where
  run := p.run
  within := p.within
  history kinds :=
    match p.run kinds with
    | .ok (_, rest) =>
      if kinds = place ∧ rest = stop then .opened :: p.history kinds else p.history kinds
    | .error _ => p.history kinds
  trace := p.trace

/-- The parsers of expressions and queries. Of their history nothing is left but the notes
about expressions. -/
def watched (o : ParserOptions) (place stop : List TokenKind) : Nat → Nested
  | 0 => { expr := fail fun _ => .tooDeep o.maxDepth, select := fail fun _ => .tooDeep o.maxDepth }
  | left + 1 =>
    { expr := watch place stop (disjunction (watched o place stop left))
      select := selectBody o (watched o place stop left) }

/-- While a statement is read from the kinds an expression is read from `place` up to `stop`. -/
def ReadsExpr (o : ParserOptions) (kinds place stop : List TokenKind) : Prop :=
  (soleStatementWith (watched o place stop o.maxDepth)).history kinds ≠ []

end Parser

/-! ## Watching changes no run -/

open SqlSyntax.Parser

/-- Only what is run counts, not its history. -/
def SameRun (p q : Parser α) : Prop := p.run = q.run

theorem Alike.run_eq {p q : Parser α} (h : Alike SameRun p q) : p.run = q.run := by
  have hreason : Peculiar fun _ => False := ⟨fun _ _ => id, fun _ _ _ => id⟩
  have hbase : ∀ {α : Type} {p q : Parser α}, SameRun p q → Outlasts (fun _ => False) 0 p q :=
    fun hpq kinds => .inl ⟨(congrFun hpq kinds).symm, fun _ _ => id⟩
  funext kinds
  obtain ⟨heq, -⟩ | ⟨_, _, _, hfalse, _⟩ := h.outlasts hreason hbase kinds
  · exact heq.symm
  · exact hfalse.elim

theorem checksRows_sameRun : Alike.ChecksRows SameRun := by
  intro p q test _ h
  funext kinds
  simp only [validate, h.run_eq]

theorem watched_alike (o : ParserOptions) (place stop : List TokenKind) (left : Nat) :
    (nested o left).Alike SameRun (watched o place stop left) := by
  induction left with
  | zero => exact ⟨.base rfl, .base rfl⟩
  | succ left ih =>
    have hon : Alike SameRun (unexpected (.token (.keyword .on)) : Parser Expr)
        (unexpected (.token (.keyword .on))) := .base rfl
    have hexpr : SameRun (nested o (left + 1)).expr (watched o place stop (left + 1)).expr :=
      (Alike.disjunction (.predicate ih)).run_eq
    have hselect : SameRun (nested o (left + 1)).select (watched o place stop (left + 1)).select :=
      (Alike.selectBody (.tableRef rfl hon ih) ih).run_eq
    exact ⟨.base hexpr, .base hselect⟩

theorem run_soleStatementWith_watched (o : ParserOptions) (place stop : List TokenKind) :
    (soleStatementWith (watched o place stop o.maxDepth)).run = (soleStatement o).run :=
  (Alike.soleStatementWith checksRows_sameRun (watched_alike o place stop o.maxDepth)).run_eq.symm

end SqlSyntax
