import SqlSyntax.Proofs.Reading.Basic

/-!
# Reading expressions

Each layer of the parser reads the language of its layer. The loops of the parser become
the chains of the grammar here.
-/
namespace SqlSyntax

open Grammar

/-- The parsers of the next level of nesting stand in the relation to its phrases. -/
structure Parser.Nested.Related (R : ∀ {α : Type}, Parser α → Language α → Prop)
    (n : Parser.Nested) (g : Inner) : Prop where
  expr : R n.expr g.expr
  select : R n.select g.select

abbrev Parser.Nested.Reads (live : Prop) (n : Parser.Nested) (g : Inner) : Prop :=
  n.Related (SqlSyntax.Reads live) g

namespace Compositional

variable {live : Prop} {R : ∀ {α : Type}, Parser α → Language α → Prop}
  (hR : Compositional live R) {n : Parser.Nested} {g : Inner}
include hR

/-! ## Chains -/

theorem leftChain {p : Parser Expr} {L : Language Expr} (sign : TokenKind → Option Operator)
    (hp : R p L) :
    R (do
      let first ← p
      let others ← Parser.many fun kind =>
        (sign kind).map fun operator => do return (operator, ← p)
      return first.chainLeft others) (LeftChain sign L) := by
  refine hR.bind hp fun u e hu => hR.bind (hR.many (L := Operand sign L) ?_) ?_
  · intro kind q hq
    obtain ⟨operator, hk, rfl⟩ := Option.map_eq_some_iff.mp hq
    refine hR.bind hp fun v f hv => hR.pure ⟨kind, v, ?_, hk, hv⟩
    simp
  · intro v others hv
    exact hR.pure (leftChain_iff.mpr ⟨u, e, v, others, by simp, rfl, hu, hv⟩)

theorem rightChain {p : Parser Expr} {L : Language Expr} (keyword : Keyword)
    (operator : Operator) (hp : R p L) :
    R (do
      let first ← p
      let others ← Parser.many fun kind => if kind = .keyword keyword then some p else none
      return first.chainRight operator others) (RightChain keyword operator L) := by
  refine hR.bind hp fun u e hu =>
    hR.bind (hR.many (L := Behind (.keyword keyword) L) ?_) ?_
  · intro kind q hq
    obtain ⟨rfl, rfl⟩ := Option.ite_some_none_eq_some.mp hq
    exact hR.mono hp fun y f hy => ⟨y, rfl, hy⟩
  · intro v others hv
    exact hR.pure (rightChain_iff.mpr ⟨u, e, v, others, by simp, rfl, hu, hv⟩)

/-! ## Primary expressions -/

theorem queryOr {p q : Parser α} {L : Language α} (hp : R p L) (hq : R q L) :
    R (Parser.queryOr p q) L := by
  apply hR.peek
  intro next
  split
  · exact hp
  · exact hq

theorem column (name : String) :
    R (Parser.column name) (residual (Primary g) [.identifier name]) :=
  hR.after
    (hR.starOr (.qualifiedStar name) (hR.named fun c => hR.pure (.qualified name c))
      fun _ _ h _ => h)
    (.identifier name)

theorem argument (hn : n.Related R g) :
    R (Parser.starOr .star n.expr) (Argument g) :=
  hR.starOr .star hn.expr fun _ _ => .expr

theorem aggregateArgument (hn : n.Related R g) (function : AggregateFunction) :
    R (Parser.aggregateArgument n function)
      (residual (Primary g) [.keyword function.keyword]) := by
  apply hR.token
  refine hR.bind (hR.skip (.keyword .distinct)) fun u distinct hu => ?_
  refine hR.bind (hR.argument hn) fun v e hv => ?_
  apply hR.token
  exact hR.pure (by simpa [residual] using Primary.aggregate function hu hv)

theorem bracketed (hn : n.Related R g) :
    R (Parser.queryOr (return .subquery (.select (← n.select))) n.expr) (Bracketed g) :=
  hR.queryOr
    (hR.bind hn.select fun u q hu =>
      hR.pure (by simpa [residual] using Bracketed.subquery hu))
    (hR.mono hn.expr fun _ _ => .expr)

theorem parenthesized (hn : n.Related R g) :
    R (Parser.parenthesized n) (residual (Primary g) [.leftParen]) := by
  refine hR.bind (hR.bracketed hn) fun u e hu => hR.token ?_
  exact hR.pure (by simpa [residual] using Primary.brackets hu)

theorem primary (hn : n.Related R g) : R (Parser.primary n) (Primary g) := by
  apply hR.choose
  · intro kind p hp
    split at hp
    · cases hp
      exact hR.pure (.literal _)
    · cases hp
      exact hR.pure .star
    · obtain ⟨function, hk, rfl⟩ := Option.map_eq_some_iff.mp hp
      rw [AggregateFunction.ofKeyword?_eq_some_iff.mp hk]
      exact hR.aggregateArgument hn function
    · cases hp
      exact hR.column _
    · cases hp
      exact hR.parenthesized hn
    · cases hp
  · exact hR.fail fun _ => ⟨_, _, .star⟩

/-! ## Layers -/

theorem signed (hn : n.Related R g) : R (Parser.signed n) (Signed g) := by
  refine hR.bind (hR.many (L := Sign) ?_) ?_
  · intro kind p hp
    unfold Parser.sign? at hp
    split at hp
    · cases hp
      exact hR.pure .plus
    · cases hp
      exact hR.pure .minus
    · cases hp
  · intro u minuses hu
    refine hR.bind (hR.primary hn) fun v e hv => hR.pure ?_
    simpa [residual] using Signed.mk hu hv

theorem product (hn : n.Related R g) : R (Parser.product n) (Product g) :=
  hR.leftChain TokenKind.multiplicative? (hR.signed hn)

theorem sum (hn : n.Related R g) : R (Parser.sum n) (Sum g) :=
  hR.leftChain TokenKind.additive? (hR.product hn)

theorem nullTest (hn : n.Related R g) : R (Parser.nullTest n) (NullTest g) := by
  refine hR.bind (hR.sum hn) fun u e hu =>
    hR.after ?_ (by simpa [residual] using NullTest.sum hu)
  refine hR.bind (hR.skip (.keyword .not)) fun v negated hv => ?_
  apply hR.token
  exact hR.pure (by simpa [residual] using NullTest.isNull hu hv)

theorem members (hn : n.Related R g) (operand : Expr) (negated : Bool) :
    R (Parser.queryOr (return .inSubquery operand (.select (← n.select)) negated)
      (return .inList operand (← Parser.commaList n.expr) negated))
      (Members g operand negated) :=
  hR.queryOr
    (hR.bind hn.select fun u q hu => hR.pure (by simpa [residual] using Members.subquery hu))
    (hR.bind (hR.commaList hn.expr) fun u es hu =>
      hR.pure (by simpa [residual] using Members.list hu))

theorem membership (hn : n.Related R g) {u v : List TokenKind} {operand : Expr}
    {negated : Bool} (hu : NullTest g u operand) (hv : Flag (.keyword .not) v negated) :
    R (Parser.membership n operand negated)
      (residual (Predicate g) (u ++ (v ++ [.keyword .in]))) := by
  apply hR.token
  refine hR.bind (hR.members hn operand negated) fun w f hw => hR.token ?_
  exact hR.pure (by simpa [residual] using Predicate.membership hu hv hw)

theorem range (hn : n.Related R g) {u v : List TokenKind} {operand : Expr} {negated : Bool}
    (hu : NullTest g u operand) (hv : Flag (.keyword .not) v negated) :
    R (Parser.range n operand negated)
      (residual (Predicate g) (u ++ (v ++ [.keyword .between]))) := by
  refine hR.bind (hR.nullTest hn) fun w low hw => hR.token ?_
  refine hR.bind (hR.nullTest hn) fun x high hx => ?_
  exact hR.pure (by simpa [residual] using Predicate.range hu hv hw hx)

theorem negatedPredicate (hn : n.Related R g) {u : List TokenKind} {operand : Expr}
    (hu : NullTest g u operand) :
    R (Parser.negatedPredicate n operand)
      (residual (Predicate g) (u ++ [.keyword .not])) := by
  apply hR.choose
  · intro kind p hp
    split at hp
    · cases hp
      exact hR.mono (hR.membership hn hu .present) fun _ _ h => by simpa [residual] using h
    · cases hp
      exact hR.mono (hR.range hn hu .present) fun _ _ h => by simpa [residual] using h
    · cases hp
      refine hR.bind (hR.nullTest hn) fun v f hv => hR.pure ?_
      simpa [residual] using Predicate.notLike hu hv
    · cases hp
  · refine hR.fail fun hl => ?_
    obtain ⟨v, f, hv⟩ := hR.productive (hR.nullTest hn) hl
    exact ⟨.keyword .like :: v, _, by simpa [residual] using Predicate.notLike hu hv⟩

theorem predicate (hn : n.Related R g) : R (Parser.predicate n) (Predicate g) := by
  refine hR.bind (hR.nullTest hn) fun u e hu => hR.choose ?_ ?_
  · intro kind p hp
    unfold Parser.predicate? at hp
    split at hp
    · cases hp
      exact hR.mono (hR.membership hn hu .absent) fun _ _ h => by simpa [residual] using h
    · cases hp
      exact hR.mono (hR.range hn hu .absent) fun _ _ h => by simpa [residual] using h
    · cases hp
      exact hR.mono (hR.negatedPredicate hn hu) fun _ _ h => by simpa [residual] using h
    · obtain ⟨operator, hk, rfl⟩ := Option.map_eq_some_iff.mp hp
      refine hR.bind (hR.nullTest hn) fun v f hv => hR.pure ?_
      simpa [residual] using Predicate.comparison hu hk hv
  · exact hR.pure (by simpa [residual] using Predicate.nullTest hu)

theorem negation (hn : n.Related R g) : R (Parser.negation n) (Negation g) := by
  refine hR.bind (hR.many (L := fun w _ => w = [.keyword .not]) ?_) ?_
  · intro kind p hp
    obtain ⟨rfl, rfl⟩ := Option.ite_some_none_eq_some.mp hp
    exact hR.pure rfl
  · intro u nots hu
    obtain rfl := many_not_iff.mp hu
    refine hR.bind (hR.predicate hn) fun v e hv => hR.pure ?_
    simpa [residual] using Negation.mk nots.length hv

theorem conjunction (hn : n.Related R g) : R (Parser.conjunction n) (Conjunction g) :=
  hR.rightChain .and .and (hR.negation hn)

theorem disjunction (hn : n.Related R g) : R (Parser.disjunction n) (Disjunction g) :=
  hR.rightChain .or .or (hR.conjunction hn)

end Compositional

end SqlSyntax
