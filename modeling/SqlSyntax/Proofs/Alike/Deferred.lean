import SqlSyntax.Proofs.Alike.Statement

/-!
# What happens only after some kinds

An expression or a query consumes a kind before it begins another one in it. So what does not happen
in the parsers of the next level before so many kinds are consumed does not happen in the parsers
made of them before one kind more is.
-/
namespace SqlSyntax

open SqlSyntax.Parser

/-- A relation `P count p` which says of something that may happen in a run of `p` that at least
`count` kinds are consumed before it does. It does not happen where kinds are decided by or
consumed. -/
structure Deferred (P : ∀ {α : Type}, Nat → Parser α → Prop) : Prop where
  pure {α : Type} {count : Nat} (a : α) : P count (pure a)
  bind {α β : Type} {count : Nat} {p : Parser α} {f : α → Parser β} :
    P count p → (∀ a, P count (f a)) → P count (p >>= f)
  unexpected {α : Type} {count : Nat} (expected : Expectation) :
    P count (unexpected expected : Parser α)
  peek {α : Type} {count : Nat} {f : Option TokenKind → Parser α} :
    (∀ next, P count (f next)) → P count (peek f)
  choose {α : Type} {count n : Nat} {f : TokenKind → Option (Parser α)} {otherwise : Parser α} :
    (∀ kind p, f kind = some p → P count p) → P n otherwise → n ≤ count + 1 →
      P n (choose f otherwise)
  token {α : Type} {count : Nat} {kind : TokenKind} {f : Unit → Parser α} :
    P count (f ()) → P (count + 1) (expect kind >>= f)
  many {α : Type} {count : Nat} {next : TokenKind → Option (Parser α)} :
    (∀ kind p, next kind = some p → P count p) → P count (many next)

namespace Deferred

variable {P : ∀ {α : Type}, Nat → Parser α → Prop} (hP : Deferred P) {count : Nat}
include hP

protected theorem alike {Base : ∀ {α : Type}, Parser α → Parser α → Prop}
    (hbase : ∀ {α : Type} {p q : Parser α}, Base p q → P count p) {α : Type} {p q : Parser α}
    (h : Alike Base p q) : P count p := by
  induction h with
  | base h => exact hbase h
  | pure a => exact hP.pure a
  | bind _ _ hp hf => exact hP.bind hp hf
  | unexpected => exact hP.unexpected _
  | peek _ _ h => exact hP.peek h
  | chooseOf _ hs _ _ hf ho =>
    exact hP.choose (Alike.forall_of_isSome_eq hs hf) ho (Nat.le_succ _)
  | manyOf _ hs _ hf => exact hP.many (Alike.forall_of_isSome_eq hs hf)

variable {n : Nested} (hn : n.Alike (fun p _ => P count p) n)
include hn

theorem primary : P (count + 1) (primary n) := by
  refine hP.choose (fun kind p hk => ?_) (hP.unexpected _) (Nat.le_refl _)
  split at hk
  · cases hk
    exact hP.pure _
  · cases hk
    exact hP.pure _
  · obtain ⟨function, -, rfl⟩ := Option.map_eq_some_iff.mp hk
    exact hP.alike id (Alike.aggregateArgument hn function)
  · rename_i name
    cases hk
    have hcolumn : Alike (fun p _ => P count p) (column name) (column name) := Alike.column name
    exact hP.alike id hcolumn
  · cases hk
    exact hP.alike id (Alike.parenthesized hn)
  · cases hk

theorem predicate : P (count + 1) (predicate n) := by
  have hprimary : Alike (fun p _ => P (count + 1) p) (.primary n) (.primary n) :=
    .base (hP.primary hn)
  refine hP.bind (hP.alike id (Alike.nullTest hprimary)) fun operand => ?_
  refine hP.choose (fun kind p hk => ?_) (hP.pure operand) (Nat.le_refl _)
  have hboth := Alike.predicate? hn operand kind
  rw [hk] at hboth
  exact hP.alike id hboth

/-- What opens an expression or a query consumes a kind before it opens another one in it. -/
theorem disjunction : P (count + 1) (disjunction n) := by
  have hpredicate : Alike (fun p _ => P (count + 1) p) (.predicate n) (.predicate n) :=
    .base (hP.predicate hn)
  exact hP.alike id (Alike.disjunction hpredicate)

theorem selectBody (o : ParserOptions) : P (count + 1) (selectBody o n) := by
  have htable := Alike.tableRef (o := o) rfl (.base (hP.unexpected _)) hn
  obtain ⟨f, g, hf, -, hclauses⟩ := Alike.exists_selectBody_eq htable hn
  rw [hf]
  exact hP.token (hP.alike id (hclauses ()))

end Deferred

end SqlSyntax
