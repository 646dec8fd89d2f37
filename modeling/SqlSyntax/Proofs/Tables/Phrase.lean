import SqlSyntax.Proofs.Depth.Phrase
import SqlSyntax.Proofs.Tables.Basic

/-!
# Phrases that name no table

Expressions have their queries in brackets, so outside brackets they name no table, and
neither do the parts of a query other than what it reads from.
-/
namespace SqlSyntax

/-- The phrases of the next level of nesting have their brackets in pairs. -/
structure Grammar.Inner.Paired (n : Nat) (g : Inner) : Prop where
  expr : ∀ {u e}, g.expr u e → SqlSyntax.Paired n u
  select : ∀ {u q}, g.select u q → SqlSyntax.Paired n u

/-- The phrases name no table outside brackets. -/
def Skips (L : Language α) : Prop := ∀ ⦃u a⦄, L u a → Skipped u

namespace Skips

open Grammar

variable {α : Type} {L : Language α} {g : Inner} {n : Nat}

/-! ## Lists and chains -/

theorem commaList (h : Skips L) : Skips (CommaList L) := by
  intro u as hu
  induction hu with
  | one ha => exact h ha
  | cons ha _ ih => exact (h ha).append (by simpa using ih)

theorem flag {k : Keyword} {u : List TokenKind} {flag : Bool} (hu : Flag (.keyword k) u flag)
    (hk : ¬(TokenKind.keyword k).marksPlace) : Skipped u := by
  cases hu with
  | absent => exact skipped_nil
  | present => exact (skipped_cons_iff hk).mpr skipped_nil

/-- A kind that goes on from an expression marks no place. -/
theorem goesOn {kind : TokenKind} {k : Nat} {u : List TokenKind} (h : kind.binding = k + 1)
    (hu : Skipped u) : Skipped (kind :: u) := by
  refine (skipped_cons_iff ?_).mpr hu
  cases kind with
  | keyword word => cases word <;> first | decide | cases h
  | leftParen | rightParen => cases h
  | _ => nofun

theorem leftChain {L : Language Expr} {sign : TokenKind → Option Operator} {k : Nat}
    (hsign : ∀ {kind operator}, sign kind = some operator → kind.binding = k + 1)
    (h : Skips L) : Skips (LeftChain sign L) := by
  intro u e hu
  induction hu with
  | single hu => exact h hu
  | step _ hk hv ih => exact ih.append (goesOn (hsign hk) (h hv))

theorem rightChain {L : Language Expr} {keyword : Keyword} {operator : Operator}
    (hk : ¬(TokenKind.keyword keyword).marksPlace) (h : Skips L) :
    Skips (RightChain keyword operator L) := by
  intro u e hu
  induction hu with
  | single hu => exact h hu
  | step hu _ ih => exact (h hu).append ((skipped_cons_iff hk).mpr ih)

/-! ## Expressions -/

section Expressions

variable (hg : g.Paired n)
include hg

theorem paired_argument {u : List TokenKind} {e : Expr} (hu : Argument g u e) : Paired n u := by
  cases hu with
  | star => simp
  | expr hu => exact hg.expr hu

theorem paired_bracketed {u : List TokenKind} {e : Expr} (hu : Bracketed g u e) :
    Paired n u := by
  cases hu with
  | expr hu => exact hg.expr hu
  | subquery hu => exact hg.select hu

theorem paired_members {operand e : Expr} {negated : Bool} {u : List TokenKind}
    (hu : Members g operand negated u e) : Paired n u := by
  cases hu with
  | list hu =>
    have hexpr : Shallow n 0 g.expr fun _ => 0 := fun _ _ hv => ⟨hg.expr hv, Nat.le_refl 0⟩
    exact (Shallow.commaList hexpr hu).1
  | subquery hu => exact hg.select hu

theorem primary : Skips (Primary g) := by
  intro u e hu
  cases hu with
  | literal | star | identifier | qualified | qualifiedStar => simp
  | aggregate function hu hv =>
    have hskipped := ((Shallow.flag hu).append (paired_argument hg hv)).skipped
    rw [List.append_assoc] at hskipped
    exact (skipped_cons_iff (by cases function <;> decide)).mpr hskipped
  | brackets hu => exact (paired_bracketed hg hu).skipped

theorem signed : Skips (Signed g) := by
  intro u e hu
  replace hu := hu.row
  induction hu with
  | primary hu => exact primary hg hu
  | plus _ ih | minus _ ih => simpa using ih
  | opposite _ ih => exact ih

theorem sum : Skips (Grammar.Sum g) :=
  leftChain binding_of_additive? (leftChain binding_of_multiplicative? (signed hg))

theorem nullTest : Skips (NullTest g) := by
  intro u e hu
  cases hu with
  | sum hu => exact sum hg hu
  | isNull hu hv =>
    have hv := (flag hv nofun).append (v := [.literal .null]) (by simp)
    exact (sum hg hu).append (by simpa using hv)

theorem predicate : Skips (Predicate g) := by
  intro u e hu
  cases hu with
  | nullTest hu => exact nullTest hg hu
  | comparison hu hk hv =>
    exact (nullTest hg hu).append (goesOn (binding_of_comparison? hk) (nullTest hg hv))
  | notLike hu hv => exact (nullTest hg hu).append (by simpa using nullTest hg hv)
  | membership hu hv hw =>
    have hw := (paired_members hg hw).skipped
    exact (nullTest hg hu).append ((flag hv nofun).append (by simpa using hw))
  | range hu hv hw hx =>
    have hbounds := (nullTest hg hw).append (v := .keyword .and :: _)
      (by simpa using nullTest hg hx)
    exact (nullTest hg hu).append ((flag hv nofun).append (by simpa using hbounds))

theorem disjunction : Skips (Disjunction g) := by
  refine rightChain nofun (rightChain nofun fun u e hu => ?_)
  replace hu := hu.row
  induction hu with
  | predicate hu => exact predicate hg hu
  | word _ ih => simpa using ih
  | not _ ih => exact ih

end Expressions

theorem upTo (lax : Bool) (depth : Nat) : Skips (upTo lax depth).expr := by
  cases depth with
  | zero => nofun
  | succ depth =>
    obtain ⟨hexpr, hselect⟩ := Shallow.upTo lax depth
    exact disjunction ⟨fun hu => (hexpr hu).1, fun hu => (hselect hu).1⟩

/-! ## Parts of a query -/

theorem label : Skips Label := by
  intro u label hu
  cases hu <;> simp

theorem table : Skips Table := by
  rintro _ _ ⟨name, hu⟩
  simpa using label hu

theorem distinctClause : Skips DistinctClause := by
  intro u distinct hu
  cases hu <;> simp

theorem item (he : Skips g.expr) : Skips (Item g) := by
  intro u i hu
  cases hu with
  | star => simp
  | expr hu _ hv => exact (he hu).append (label hv)

theorem orderEntry (he : Skips g.expr) : Skips (OrderEntry g) := by
  rintro _ _ ⟨hu, hv⟩
  exact (he hu).append (by cases hv <;> simp)

theorem rowCount : Skips RowCount := by
  rintro _ _ ⟨⟩
  simp

theorem clause {k : Keyword} (hk : ¬(TokenKind.keyword k).marksPlace) (h : Skips L) :
    Skips (Clause k L) := by
  intro u x hu
  cases hu with
  | absent => exact skipped_nil
  | present hu => exact (skipped_cons_iff hk).mpr (h hu)

theorem byClause {k : Keyword} (hk : ¬(TokenKind.keyword k).marksPlace) (h : Skips L) :
    Skips (ByClause k L) := by
  intro u as hu
  cases hu with
  | absent => exact skipped_nil
  | present hu => exact (skipped_cons_iff hk).mpr (by simpa using commaList h hu)

/-! ## The end of a statement -/

theorem semicolon : Skips (Flag .semicolon) := by
  intro u flag hu
  cases hu <;> simp

theorem nothing : Skips fun u (_ : α) => u = [] := by
  rintro _ _ rfl
  exact skipped_nil

end Skips

end SqlSyntax
