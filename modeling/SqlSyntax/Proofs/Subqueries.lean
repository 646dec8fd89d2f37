import SqlSyntax.Proofs.WellFormed.Session
import SqlSyntax.Tree.Query

/-!
# Queries inside expressions

An expression that a session reads holds a query if and only if the word `SELECT` is among
the tokens that are consumed for it. Each language of expressions keeps that from the
languages that it is made of: a part with the word leaves a query in the value, and a part
without it leaves none.
-/
namespace SqlSyntax

attribute [simp] Expr.containsSubquery anyContainsSubquery_eq

/-- A query stands in the value of a phrase if and only if its first word is in the phrase. -/
def Tells (L : Language α) (contains : α → Bool) : Prop :=
  ∀ ⦃u a⦄, L u a → (contains a = true ↔ .keyword .select ∈ u)

structure Grammar.Inner.Tells (g : Inner) : Prop where
  expr : SqlSyntax.Tells g.expr Expr.containsSubquery
  select : ∀ {u q}, g.select u q → .keyword .select ∈ u

namespace Tells

open Grammar

variable {α : Type} {L : Language α} {contains : α → Bool} {g : Inner}

/-! ## Lists and chains -/

theorem commaList (h : Tells L contains) : Tells (CommaList L) fun as => as.any contains := by
  intro u as hu
  induction hu with
  | one ha => simp [h ha]
  | cons ha _ ih => simp [h ha, ih]

/-- A word that may be left out, if it is another one. -/
theorem flag {k : Keyword} {u : List TokenKind} {flag : Bool} (hu : Flag (.keyword k) u flag)
    (hk : .select ≠ k) : .keyword .select ∉ u := by
  cases hu with
  | absent => exact List.not_mem_nil
  | present => simpa using hk

/-- A kind that goes on from an expression begins no query. -/
theorem ne_of_binding {kind : TokenKind} {n : Nat} (h : kind.binding = n + 1) :
    .keyword .select ≠ kind := by
  rintro rfl
  cases h

theorem leftChain {L : Language Expr} {sign : TokenKind → Option Operator}
    (hsign : ∀ {kind operator}, sign kind = some operator → .keyword .select ≠ kind)
    (h : Tells L Expr.containsSubquery) : Tells (LeftChain sign L) Expr.containsSubquery := by
  intro u e hu
  induction hu with
  | single hu => exact h hu
  | step _ hk hv ih => simp [ih, hsign hk, h hv]

theorem rightChain {L : Language Expr} {keyword : Keyword} {operator : Operator}
    (hk : .select ≠ keyword) (h : Tells L Expr.containsSubquery) :
    Tells (RightChain keyword operator L) Expr.containsSubquery := by
  intro u e hu
  induction hu with
  | single hu => exact h hu
  | step hu _ ih => simp [h hu, hk, ih]

/-! ## Layers -/

theorem argument (hg : g.Tells) : Tells (Argument g) Expr.containsSubquery := by
  intro u e hu
  cases hu with
  | star => simp
  | expr hu => exact hg.expr hu

theorem bracketed (hg : g.Tells) : Tells (Bracketed g) Expr.containsSubquery := by
  intro u e hu
  cases hu with
  | expr hu => exact hg.expr hu
  | subquery hu => simpa using hg.select hu

theorem primary (hg : g.Tells) : Tells (Primary g) Expr.containsSubquery := by
  intro u e hu
  cases hu with
  | literal | star | identifier | qualified | qualifiedStar => simp
  | aggregate function hu hv =>
    have hfunction : .select ≠ function.keyword := by cases function <;> nofun
    simp [flag hu nofun, argument hg hv, hfunction]
  | brackets hu => simp [bracketed hg hu]

/-- A sign that is taken into a number hides no query. -/
theorem containsSubquery_opposite (e : Expr) :
    e.opposite.containsSubquery = e.containsSubquery := by
  unfold Expr.opposite
  split
  · split <;> rfl
  · rfl
  · rw [Expr.containsSubquery]

theorem signed (hg : g.Tells) : Tells (Signed g) Expr.containsSubquery := by
  intro u e hu
  replace hu := hu.row
  induction hu with
  | primary hu => exact primary hg hu
  | plus _ ih | minus _ ih => simpa using ih
  | opposite _ ih => simpa [containsSubquery_opposite] using ih

theorem product (hg : g.Tells) : Tells (Product g) Expr.containsSubquery :=
  leftChain (fun hk => ne_of_binding (binding_of_multiplicative? hk)) (signed hg)

theorem sum (hg : g.Tells) : Tells (Grammar.Sum g) Expr.containsSubquery :=
  leftChain (fun hk => ne_of_binding (binding_of_additive? hk)) (product hg)

theorem nullTest (hg : g.Tells) : Tells (NullTest g) Expr.containsSubquery := by
  intro u e hu
  cases hu with
  | sum hu => exact sum hg hu
  | isNull hu hv => simp [sum hg hu, flag hv nofun]

/-- The operand before the brackets may hold a query too. -/
theorem members (hg : g.Tells) (operand : Expr) (negated : Bool) {u : List TokenKind}
    {e : Expr} (hu : Members g operand negated u e) :
    e.containsSubquery = true ↔ operand.containsSubquery = true ∨ .keyword .select ∈ u := by
  cases hu with
  | list hu =>
    have hlist := commaList hg.expr hu
    rw [Expr.containsSubquery, anyContainsSubquery_eq, Bool.or_eq_true, hlist]
  | subquery hu => simp [hg.select hu]

theorem predicate (hg : g.Tells) : Tells (Predicate g) Expr.containsSubquery := by
  intro u e hu
  cases hu with
  | nullTest hu => exact nullTest hg hu
  | comparison hu hk hv =>
    simp [nullTest hg hu, ne_of_binding (binding_of_comparison? hk), nullTest hg hv]
  | notLike hu hv => simp [nullTest hg hu, nullTest hg hv]
  | membership hu hv hw => simp [members hg _ _ hw, nullTest hg hu, flag hv nofun]
  | range hu hv hw hx =>
    simp [nullTest hg hu, flag hv nofun, nullTest hg hw, nullTest hg hx, or_assoc]

theorem negation (hg : g.Tells) : Tells (Negation g) Expr.containsSubquery := by
  intro u e hu
  replace hu := hu.row
  induction hu with
  | predicate hu => exact predicate hg hu
  | word _ ih | not _ ih => simpa using ih

theorem disjunction (hg : g.Tells) : Tells (Disjunction g) Expr.containsSubquery :=
  rightChain nofun (rightChain nofun (negation hg))

theorem upTo (lax : Bool) (depth : Nat) : (upTo lax depth).Tells := by
  induction depth with
  | zero => exact ⟨nofun, nofun⟩
  | succ depth ih =>
    refine ⟨disjunction ih, ?_⟩
    rintro _ _ ⟨⟩
    exact List.mem_cons_self

end Tells

/-- Wherever an expression is read, in however many others, it holds a query if and only if
the word `SELECT` is consumed for it. -/
theorem containsSubquery_iff_select_mem {o : ParserOptions} {left : Nat}
    {before after : Session} {e : Expr}
    (h : before.run (Parser.nested o left).expr = (.ok e, after)) :
    e.containsSubquery = true ↔ .keyword .select ∈ (before.consumed after).map Token.kind :=
  (Tells.upTo _ _).expr (Session.consumed_of_run (Reads.nested_forget o left 0).expr h)

/-- `SELECT a, COUNT((SELECT *)) FROM b`: from its second token on an expression without a query
is read, from its fourth token on one with a query. -/
def countOfQuery : List Token := tokensOf [.keyword .select, .identifier "a", .comma,
  .keyword .count, .leftParen, .leftParen, .keyword .select, .star, .rightParen, .rightParen,
  .keyword .from, .identifier "b"]

theorem containsSubquery_iff_select_mem_countOfQuery :
    (∃ e after, Session.run ⟨countOfQuery, 1, ⟨4, true⟩⟩ (Parser.nested ⟨4, true⟩ 3).expr =
        (.ok e, after) ∧ e.containsSubquery = false ∧
      .keyword .select ∉ (Session.consumed ⟨countOfQuery, 1, ⟨4, true⟩⟩ after).map Token.kind) ∧
    ∃ e after, Session.run ⟨countOfQuery, 3, ⟨4, true⟩⟩ (Parser.nested ⟨4, true⟩ 3).expr =
        (.ok e, after) ∧ e.containsSubquery = true ∧
      .keyword .select ∈ (Session.consumed ⟨countOfQuery, 3, ⟨4, true⟩⟩ after).map Token.kind := by
  have hname : Session.run ⟨countOfQuery, 1, ⟨4, true⟩⟩ (Parser.nested ⟨4, true⟩ 3).expr =
      (.ok (.identifier "a"), ⟨countOfQuery, 2, ⟨4, true⟩⟩) := by with_unfolding_all rfl
  have hcount : ∃ q, Session.run ⟨countOfQuery, 3, ⟨4, true⟩⟩ (Parser.nested ⟨4, true⟩ 3).expr =
      (.ok (.aggregate .count (.subquery (.select q)) false), ⟨countOfQuery, 10, ⟨4, true⟩⟩) :=
    ⟨_, by with_unfolding_all rfl⟩
  obtain ⟨q, hcount⟩ := hcount
  exact ⟨⟨_, _, hname, rfl, fun h => nomatch (containsSubquery_iff_select_mem hname).mpr h⟩,
    _, _, hcount, by simp, (containsSubquery_iff_select_mem hcount).mp (by simp)⟩

end SqlSyntax
