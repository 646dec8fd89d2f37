import SqlSyntax.Proofs.Grammar.Basic

/-!
# The grammar of expressions

Each language is made of the next one. What stands in brackets belongs to languages one
level of nesting further in, and those are given. Taking the levels one after another
counts the expressions and queries that are open at once.
-/
namespace SqlSyntax

namespace Grammar

/-- The phrases of the next level of nesting. -/
structure Inner where
  expr : Language Expr
  select : Language Select

variable (g : Inner)

/-- A query or an expression in brackets. -/
inductive Bracketed : Language Expr
  | expr : g.expr u e → Bracketed u e
  | subquery : g.select u q → Bracketed u (.subquery (.select q))

/-- What an aggregate function is taken of. A star that comes first is the whole of it. -/
inductive Argument : Language Expr
  | star : Argument [.star] .star
  | expr : g.expr u e → u.head? ≠ some .star → Argument u e

inductive Primary : Language Expr
  | literal (value : Literal) : Primary [.literal value] (.literal value)
  | star : Primary [.star] .star
  | identifier (name : String) : Primary [.identifier name] (.identifier name)
  | qualified (table column : String) :
      Primary [.identifier table, .dot, .identifier column] (.qualified table column)
  | qualifiedStar (table : String) :
      Primary [.identifier table, .dot, .star] (.qualifiedStar table)
  | aggregate (function : AggregateFunction) :
      Flag (.keyword .distinct) u distinct → Argument g v e →
      Primary (.keyword function.keyword :: .leftParen :: (u ++ (v ++ [.rightParen])))
        (.aggregate function e distinct)
  | brackets : Bracketed g u e → Primary (.leftParen :: (u ++ [.rightParen])) e

/-- A sign before an operand, and whether it is a minus. -/
inductive Sign : Language Bool
  | plus : Sign [.operator .plus] false
  | minus : Sign [.operator .minus] true

/-- Signs before a primary expression. Each minus that counts goes into a number, or stays. -/
inductive Signed : Language Expr
  | mk : Many Sign u minuses → Primary g v e →
      Signed (u ++ v) (Nat.repeat Expr.opposite (rounds (minuses.count true)) e)

def Product : Language Expr := LeftChain TokenKind.multiplicative? (Signed g)

def Sum : Language Expr := LeftChain TokenKind.additive? (Product g)

inductive NullTest : Language Expr
  | sum : Sum g u e → NullTest u e
  | isNull : Sum g u e → Flag (.keyword .not) v negated →
      NullTest (u ++ .keyword .is :: (v ++ [.literal .null])) (.isNull e negated)

/-- What stands in the brackets after `IN`, for a given operand. -/
inductive Members (operand : Expr) (negated : Bool) : Language Expr
  | list : CommaList g.expr u es → Members operand negated u (.inList operand es negated)
  | subquery : g.select u q →
      Members operand negated u (.inSubquery operand (.select q) negated)

inductive Predicate : Language Expr
  | nullTest : NullTest g u e → Predicate u e
  | comparison : NullTest g u e → kind.comparison? = some operator → NullTest g v f →
      Predicate (u ++ kind :: v) (.binary e operator f)
  | notLike : NullTest g u e → NullTest g v f →
      Predicate (u ++ .keyword .not :: .keyword .like :: v) (.not (.binary e .like f))
  | membership : NullTest g u e → Flag (.keyword .not) v negated →
      Members g e negated w f →
      Predicate (u ++ (v ++ .keyword .in :: .leftParen :: (w ++ [.rightParen]))) f
  | range : NullTest g u e → Flag (.keyword .not) v negated →
      NullTest g w low → NullTest g x high →
      Predicate (u ++ (v ++ .keyword .between :: (w ++ .keyword .and :: x)))
        (.between e low high negated)

/-- A row of `NOT` before a predicate. As many of them stay as count. -/
inductive Negation : Language Expr
  | mk (count : Nat) : Predicate g u e →
      Negation (List.replicate count (.keyword .not) ++ u) (Nat.repeat .not (rounds count) e)

def Conjunction : Language Expr := RightChain .and .and (Negation g)

def Disjunction : Language Expr := RightChain .or .or (Conjunction g)

/-! ## Rows of signs -/

/-- Signs before a primary expression, whatever number of the minuses counts. -/
inductive SignRow : Language Expr
  | primary : Primary g u e → SignRow u e
  | plus : SignRow u e → SignRow (.operator .plus :: u) e
  | minus : SignRow u e → SignRow (.operator .minus :: u) e
  | opposite : SignRow u e → SignRow u e.opposite

/-- A row of `NOT` before a predicate, whatever number of the words counts. -/
inductive NotRow : Language Expr
  | predicate : Predicate g u e → NotRow u e
  | word : NotRow u e → NotRow (.keyword .not :: u) e
  | not : NotRow u e → NotRow u (.not e)

variable {g} {u : List TokenKind} {e : Expr}

theorem Signed.primary (h : Primary g u e) : Signed g u e := .mk .nil h

theorem Signed.minus (h : Primary g u e) : Signed g (.operator .minus :: u) e.opposite :=
  .mk (.cons .minus .nil) h

theorem Negation.predicate (h : Predicate g u e) : Negation g u e := .mk 0 h

theorem Signed.row (h : Signed g u e) : SignRow g u e := by
  obtain @⟨_, minuses, _, _, hu, hv⟩ := h
  induction rounds (minuses.count true) with
  | zero =>
    induction hu with
    | nil => exact .primary hv
    | cons hx _ ih =>
      cases hx with
      | plus => exact .plus ih
      | minus => exact .minus ih
  | succ _ ih => exact .opposite ih

theorem Negation.row (h : Negation g u e) : NotRow g u e := by
  obtain ⟨count, hu⟩ := h
  induction rounds count with
  | zero =>
    induction count with
    | zero => exact .predicate hu
    | succ _ ih => exact .word ih
  | succ _ ih => exact .not ih

theorem many_not_iff {nots : List Unit} :
    Many (fun w (_ : Unit) => w = [.keyword .not]) u nots ↔
      u = List.replicate nots.length (.keyword .not) := by
  constructor
  · intro h
    induction h with
    | nil => rfl
    | cons hx _ ih => rw [hx, ih, List.length_cons, List.replicate_succ, List.singleton_append]
  · rintro rfl
    induction nots with
    | nil => exact .nil
    | cons _ nots ih =>
      rw [List.length_cons, List.replicate_succ, ← List.singleton_append]
      exact .cons (by rfl) ih

end Grammar

end SqlSyntax
