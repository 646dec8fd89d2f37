import SqlSyntax.Proofs.Grammar.Statement
import SqlSyntax.Proofs.Signs.Folded
import SqlSyntax.Proofs.Signs.Opposite

/-!
# Phrases fold their signs

A phrase without the least integer stands for a tree of folded expressions. Each language of the
grammar keeps that from the languages that it is made of: only a literal brings a number into the
tree, and a minus sign goes into the number that it finds.
-/
namespace SqlSyntax

/-- The least integer, of which no opposite can be written, is not there. -/
def Opposable (u : List TokenKind) : Prop := .literal (.integer Int64.minValue) ∉ u

@[simp] theorem opposable_nil : Opposable [] := List.not_mem_nil
@[simp] theorem opposable_cons (kind : TokenKind) (u : List TokenKind) :
    Opposable (kind :: u) ↔ kind ≠ .literal (.integer Int64.minValue) ∧ Opposable u := by
  rw [Opposable, List.mem_cons, not_or, eq_comm]
  rfl
@[simp] theorem opposable_append (u v : List TokenKind) :
    Opposable (u ++ v) ↔ Opposable u ∧ Opposable v := by
  rw [Opposable, List.mem_append, not_or]
  rfl

/-- The phrases without the least integer stand for values with the property. -/
def Folds (L : Language α) (P : α → Prop) : Prop := ∀ ⦃u a⦄, L u a → Opposable u → P a

structure Grammar.Inner.Folds (g : Inner) : Prop where
  expr : SqlSyntax.Folds g.expr Expr.Folded
  select : SqlSyntax.Folds g.select Select.Folded

namespace Expr.Folded

variable {e f : Expr}

/-- A minus sign goes into a number, or stays before what keeps it. -/
theorem opposite (h : e.Folded) : e.opposite.Folded := by
  obtain hkeeps | ⟨n, hn, rfl⟩ | ⟨x, rfl⟩ := e.keepsSign_or
  · rw [opposite_of_keepsSign hkeeps]
    exact .of_operands hkeeps (List.forall_mem_singleton.mpr h)
  · rw [opposite_integer hn]
    exact .of_operands (neg_ne_minValue hn) nofun
  · rw [opposite_float]
    exact .of_operands trivial nofun

theorem binary (he : e.Folded) (hf : f.Folded) (operator : Operator) :
    (Expr.binary e operator f).Folded :=
  .of_operands trivial (by simpa [operands] using ⟨he, hf⟩)

theorem not (he : e.Folded) : (Expr.not e).Folded :=
  .of_operands trivial (List.forall_mem_singleton.mpr he)

end Expr.Folded

namespace Folds

open Grammar

variable {α : Type} {L : Language α} {P : α → Prop} {g : Inner} {lax : Bool}

/-! ## Lists and chains -/

theorem commaList (h : Folds L P) : Folds (CommaList L) fun as => ∀ a ∈ as, P a := by
  intro u as hu hfree
  induction hu with
  | one ha => simpa using h ha hfree
  | cons ha _ ih =>
    simp only [opposable_append, opposable_cons] at hfree
    exact List.forall_mem_cons.mpr ⟨h ha hfree.1, ih hfree.2.2⟩

theorem leftChain {L : Language Expr} {sign : TokenKind → Option Operator}
    (h : Folds L Expr.Folded) : Folds (LeftChain sign L) Expr.Folded := by
  intro u e hu hfree
  induction hu with
  | single hu => exact h hu hfree
  | step _ _ hv ih =>
    simp only [opposable_append, opposable_cons] at hfree
    exact (ih hfree.1).binary (h hv hfree.2.2) _

theorem rightChain {L : Language Expr} {keyword : Keyword} {operator : Operator}
    (h : Folds L Expr.Folded) : Folds (RightChain keyword operator L) Expr.Folded := by
  intro u e hu hfree
  induction hu with
  | single hu => exact h hu hfree
  | step hu _ ih =>
    simp only [opposable_append, opposable_cons] at hfree
    exact (h hu hfree.1).binary (ih hfree.2.2) _

/-! ## Expressions -/

theorem argument (hg : g.Folds) : Folds (Argument g) Expr.Folded := by
  intro u e hu hfree
  cases hu with
  | star => exact .of_operands trivial nofun
  | expr hu => exact hg.expr hu hfree

theorem bracketed (hg : g.Folds) : Folds (Bracketed g) Expr.Folded := by
  intro u e hu hfree
  cases hu with
  | expr hu => exact hg.expr hu hfree
  | subquery hu => exact .of_operands trivial (hg.select hu hfree)

/-- A literal is the number of its token. -/
theorem primary (hg : g.Folds) : Folds (Primary g) Expr.Folded := by
  intro u e hu hfree
  cases hu with
  | literal value =>
    refine .of_operands ?_ nofun
    cases value with
    | integer n => simpa [Expr.IsFolded] using hfree
    | string | float | boolean | null => trivial
  | star | identifier | qualified | qualifiedStar => exact .of_operands trivial nofun
  | aggregate function hu hv =>
    simp only [opposable_append, opposable_cons] at hfree
    exact .of_operands trivial (List.forall_mem_singleton.mpr (argument hg hv hfree.2.2.2.1))
  | brackets hu =>
    simp only [opposable_append, opposable_cons] at hfree
    exact bracketed hg hu hfree.2.1

theorem signed (hg : g.Folds) : Folds (Signed g) Expr.Folded := by
  intro u e hu hfree
  replace hu := hu.row
  induction hu with
  | primary hu => exact primary hg hu hfree
  | plus _ ih | minus _ ih => exact ih ((opposable_cons ..).mp hfree).2
  | opposite _ ih => exact (ih hfree).opposite

theorem sum (hg : g.Folds) : Folds (Grammar.Sum g) Expr.Folded :=
  leftChain (leftChain (signed hg))

theorem nullTest (hg : g.Folds) : Folds (NullTest g) Expr.Folded := by
  intro u e hu hfree
  cases hu with
  | sum hu => exact sum hg hu hfree
  | isNull hu =>
    simp only [opposable_append] at hfree
    exact .of_operands trivial (List.forall_mem_singleton.mpr (sum hg hu hfree.1))

theorem members (hg : g.Folds) {operand : Expr} (ho : operand.Folded) {negated : Bool} :
    Folds (Members g operand negated) Expr.Folded := by
  intro u e hu hfree
  cases hu with
  | list hu =>
    exact .of_operands trivial (List.forall_mem_cons.mpr ⟨ho, commaList hg.expr hu hfree⟩)
  | subquery hu =>
    exact .of_operands trivial (List.forall_mem_cons.mpr ⟨ho, hg.select hu hfree⟩)

theorem predicate (hg : g.Folds) : Folds (Predicate g) Expr.Folded := by
  intro u e hu hfree
  cases hu with
  | nullTest hu => exact nullTest hg hu hfree
  | comparison hu _ hv =>
    simp only [opposable_append, opposable_cons] at hfree
    exact (nullTest hg hu hfree.1).binary (nullTest hg hv hfree.2.2) _
  | notLike hu hv =>
    simp only [opposable_append, opposable_cons] at hfree
    exact ((nullTest hg hu hfree.1).binary (nullTest hg hv hfree.2.2.2) .like).not
  | membership hu _ hw =>
    simp only [opposable_append, opposable_cons] at hfree
    exact members hg (nullTest hg hu hfree.1) hw hfree.2.2.2.2.1
  | range hu _ hw hx =>
    simp only [opposable_append, opposable_cons] at hfree
    have he := nullTest hg hu hfree.1
    have hlow := nullTest hg hw hfree.2.2.2.1
    have hhigh := nullTest hg hx hfree.2.2.2.2.2
    exact .of_operands trivial (by simpa [Expr.operands] using ⟨he, hlow, hhigh⟩)

theorem negation (hg : g.Folds) : Folds (Negation g) Expr.Folded := by
  intro u e hu hfree
  replace hu := hu.row
  induction hu with
  | predicate hu => exact predicate hg hu hfree
  | word _ ih => exact ih ((opposable_cons ..).mp hfree).2
  | not _ ih => exact (ih hfree).not

theorem disjunction (hg : g.Folds) : Folds (Disjunction g) Expr.Folded :=
  rightChain (rightChain (negation hg))

/-! ## Queries -/

theorem table : Folds Table TableRef.Folded := by
  intro u t hu _
  cases hu with
  | mk => exact nofun

/-- What a join adds to the table on its left. -/
theorem join (hg : g.Folds) {bare : Bool} :
    Folds (Join lax g bare) fun j => j.2.1.Folded ∧ j.2.2.Folded := by
  intro u j hu hfree
  have htrue : (Expr.boolean true).Folded := .of_operands trivial nofun
  cases hu with
  | cross _ hv | bare _ _ _ hv =>
    simp only [opposable_append] at hfree
    exact ⟨table hv hfree.2, htrue⟩
  | on _ _ hv hw =>
    simp only [opposable_append, opposable_cons] at hfree
    exact ⟨table hv hfree.2.1, hg.expr hw hfree.2.2.2⟩

theorem joins (hg : g.Folds) {left : TableRef} (hl : left.Folded) :
    Folds (Joins lax g left) TableRef.Folded := by
  intro u t hu hfree
  induction hu with
  | done => exact hl
  | step hu _ _ ih =>
    simp only [opposable_append] at hfree
    obtain ⟨hright, hcondition⟩ := join hg hu hfree.1
    refine ih ?_ hfree.2
    simp only [TableRef.Folded, TableRef.exprs, List.forall_mem_append]
    exact ⟨hl, hright, List.forall_mem_singleton.mpr hcondition⟩

theorem source (hg : g.Folds) : Folds (Source lax g) TableRef.Folded := by
  intro u t hu hfree
  cases hu with
  | mk hu hv =>
    simp only [opposable_append] at hfree
    exact joins hg (table hu hfree.1) hv hfree.2

theorem item (hg : g.Folds) : Folds (Item g) SelectItem.Folded := by
  intro u i hu hfree
  cases hu with
  | star => exact nofun
  | expr hu =>
    simp only [opposable_append] at hfree
    exact List.forall_mem_singleton.mpr (hg.expr hu hfree.1)

theorem orderEntry (hg : g.Folds) : Folds (OrderEntry g) fun entry => entry.expr.Folded := by
  intro u entry hu hfree
  cases hu with
  | mk hu =>
    simp only [opposable_append] at hfree
    exact hg.expr hu hfree.1

theorem clause (h : Folds L P) {keyword : Keyword} :
    Folds (Clause keyword L) fun x => ∀ a ∈ x, P a := by
  intro u x hu hfree
  cases hu with
  | absent => exact nofun
  | present hu => simpa using h hu ((opposable_cons ..).mp hfree).2

theorem byClause (h : Folds L P) {keyword : Keyword} :
    Folds (ByClause keyword L) fun as => ∀ a ∈ as, P a := by
  intro u as hu hfree
  cases hu with
  | absent => exact nofun
  | present hu =>
    simp only [opposable_cons] at hfree
    exact commaList h hu hfree.2.2

theorem query (hg : g.Folds) : Folds (Query lax g) Select.Folded := by
  intro u q hu hfree
  cases hu with
  | mk h₁ h₂ h₃ h₄ h₅ h₆ h₇ h₈ h₉ =>
    simp only [opposable_append, opposable_cons] at hfree
    obtain ⟨-, -, f₂, f₃, f₄, f₅, f₆, f₇, -, -⟩ := hfree
    have hcolumns := commaList (item hg) h₂ f₂
    have hsource := clause (source hg) h₃ f₃
    have hcondition := clause hg.expr h₄ f₄
    have hgroupBy := byClause hg.expr h₅ f₅
    have hhaving := clause hg.expr h₆ f₆
    have horderBy := byClause (orderEntry hg) h₇ f₇
    simp only [Select.Folded, Select.exprs, List.forall_mem_append, List.forall_mem_flatMap,
      List.forall_mem_map, Option.mem_toList]
    exact ⟨hcolumns, hsource, hcondition, hgroupBy, hhaving, horderBy⟩

theorem upTo (lax : Bool) (depth : Nat) : (upTo lax depth).Folds := by
  induction depth with
  | zero => exact ⟨nofun, nofun⟩
  | succ depth ih => exact ⟨disjunction ih, query ih⟩

/-! ## Statements -/

theorem row (hg : g.Folds) : Folds (Row g) fun row => ∀ e ∈ row, e.Folded := by
  rintro _ row ⟨hu⟩ hfree
  simp only [opposable_append, opposable_cons] at hfree
  exact commaList hg.expr hu hfree.2.1

theorem assign (hg : g.Folds) : Folds (Assign g) fun a => a.value.Folded := by
  rintro _ _ ⟨column, hu⟩ hfree
  simp only [opposable_cons] at hfree
  exact hg.expr hu hfree.2.2

theorem phrase (hg : g.Folds) : Folds (Phrase g) Statement.Folded := by
  intro u s hu hfree
  cases hu with
  | select hu => exact hg.select hu hfree
  | insert table _ hv =>
    simp only [opposable_append, opposable_cons] at hfree
    have hrows := commaList (row hg) hv hfree.2.2.2.2.2
    intro e he
    obtain ⟨row, hrow, he⟩ := List.mem_flatten.mp he
    exact hrows row hrow e he
  | update table hu hv =>
    simp only [opposable_append, opposable_cons] at hfree
    have hassignments := commaList (assign hg) hu hfree.2.2.2.1
    have hcondition := clause hg.expr hv hfree.2.2.2.2
    simp only [Statement.Folded, Statement.exprs, List.forall_mem_append, List.forall_mem_map,
      Option.mem_toList]
    exact ⟨hassignments, hcondition⟩
  | delete table hu =>
    simp only [opposable_cons] at hfree
    exact fun e he => clause hg.expr hu hfree.2.2.2 e (Option.mem_toList.mp he)
  | createTable => exact fun e he => absurd he List.not_mem_nil

theorem sole {depth : Nat} : Folds (Sole lax depth) Statement.Folded := by
  intro u s hu hfree
  cases hu with
  | plain hu => exact phrase (upTo lax depth) hu hfree
  | semicolon hu => exact phrase (upTo lax depth) hu ((opposable_append ..).mp hfree).1

end Folds

end SqlSyntax
