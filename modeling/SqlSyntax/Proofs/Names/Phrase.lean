import SqlSyntax.Proofs.Accepting.Boundary
import SqlSyntax.Proofs.Names.Basic

/-!
# Phrases keep their names

The names and strings of a phrase are those of the tree that it stands for, in the same
order. Each language of the grammar keeps that from the languages that it is made of.
-/
namespace SqlSyntax

/-- The names of a phrase are the given ones of its value. -/
def Spells (L : Language α) (names : α → List String) : Prop :=
  ∀ ⦃u a⦄, L u a → namesOf u = names a

structure Grammar.Inner.Spells (g : Inner) : Prop where
  expr : SqlSyntax.Spells g.expr Expr.names
  select : SqlSyntax.Spells g.select Select.names

namespace Spells

open Grammar

variable {α : Type} {L : Language α} {names : α → List String} {g : Inner}

/-! ## Lists and chains -/

theorem commaList (h : Spells L names) :
    Spells (CommaList L) fun as => as.flatMap names := by
  intro u as hu
  induction hu with
  | one ha => simp [h ha]
  | cons ha _ ih => simp [h ha, ih]

theorem flag {kind : TokenKind} (hk : kind.names = []) : Spells (Flag kind) fun _ => [] := by
  intro u flag hu
  cases hu with
  | absent => rfl
  | present => simpa using hk

/-- A kind that goes on from an expression is no name. -/
theorem names_of_binding {kind : TokenKind} {n : Nat} (h : kind.binding = n + 1) :
    kind.names = [] := by
  cases kind with
  | identifier | literal => cases h
  | _ => rfl

theorem leftChain {L : Language Expr} {sign : TokenKind → Option Operator}
    (hsign : ∀ {kind operator}, sign kind = some operator → kind.names = [])
    (h : Spells L Expr.names) : Spells (LeftChain sign L) Expr.names := by
  intro u e hu
  induction hu with
  | single hu => exact h hu
  | step _ hk hv ih => simp [ih, hsign hk, h hv]

theorem rightChain {L : Language Expr} {keyword : Keyword} {operator : Operator}
    (h : Spells L Expr.names) : Spells (RightChain keyword operator L) Expr.names := by
  intro u e hu
  induction hu with
  | single hu => exact h hu
  | step hu _ ih => simp [h hu, ih]

/-! ## Expressions -/

theorem argument (hg : g.Spells) : Spells (Argument g) Expr.names := by
  intro u e hu
  cases hu with
  | star => rfl
  | expr hu => exact hg.expr hu

theorem bracketed (hg : g.Spells) : Spells (Bracketed g) Expr.names := by
  intro u e hu
  cases hu with
  | expr hu => exact hg.expr hu
  | subquery hu => simpa using hg.select hu

theorem primary (hg : g.Spells) : Spells (Primary g) Expr.names := by
  intro u e hu
  cases hu with
  | literal | star | identifier | qualified | qualifiedStar => simp
  | aggregate function hu hv => simp [flag rfl hu, argument hg hv]
  | brackets hu => simp [bracketed hg hu]

/-- A sign that is taken into a number changes no name. -/
theorem names_opposite (e : Expr) : e.opposite.names = e.names := by
  unfold Expr.opposite
  split
  · split <;> rfl
  · rfl
  · rfl

theorem signed (hg : g.Spells) : Spells (Signed g) Expr.names := by
  intro u e hu
  replace hu := hu.row
  induction hu with
  | primary hu => exact primary hg hu
  | plus _ ih | minus _ ih => simpa using ih
  | opposite _ ih => simpa [names_opposite] using ih

theorem product (hg : g.Spells) : Spells (Product g) Expr.names :=
  leftChain (fun hk => names_of_binding (binding_of_multiplicative? hk)) (signed hg)

theorem sum (hg : g.Spells) : Spells (Grammar.Sum g) Expr.names :=
  leftChain (fun hk => names_of_binding (binding_of_additive? hk)) (product hg)

theorem nullTest (hg : g.Spells) : Spells (NullTest g) Expr.names := by
  intro u e hu
  cases hu with
  | sum hu => exact sum hg hu
  | isNull hu hv => simp [sum hg hu, flag rfl hv]

theorem members (hg : g.Spells) (operand : Expr) (negated : Bool) {u : List TokenKind}
    {e : Expr} (hu : Members g operand negated u e) :
    e.names = operand.names ++ namesOf u := by
  cases hu with
  | list hu => simp [commaList hg.expr hu]
  | subquery hu => simp [hg.select hu]

theorem predicate (hg : g.Spells) : Spells (Predicate g) Expr.names := by
  intro u e hu
  cases hu with
  | nullTest hu => exact nullTest hg hu
  | comparison hu hk hv =>
    have hkind : _ = [] := names_of_binding (binding_of_comparison? hk)
    simp [nullTest hg hu, hkind, nullTest hg hv]
  | notLike hu hv => simp [nullTest hg hu, nullTest hg hv]
  | membership hu hv hw => simp [nullTest hg hu, flag rfl hv, members hg _ _ hw]
  | range hu hv hw hx =>
    simp [nullTest hg hu, flag rfl hv, nullTest hg hw, nullTest hg hx]

theorem negation (hg : g.Spells) : Spells (Negation g) Expr.names := by
  intro u e hu
  replace hu := hu.row
  induction hu with
  | predicate hu => exact predicate hg hu
  | word _ ih | not _ ih => simpa using ih

theorem disjunction (hg : g.Spells) : Spells (Disjunction g) Expr.names :=
  rightChain (rightChain (negation hg))

/-! ## Queries -/

theorem label : Spells Label Option.toList := by
  intro u label hu
  cases hu <;> rfl

theorem table : Spells Table TableRef.names := by
  intro u t hu
  cases hu with
  | mk name hu => simp [label hu]

theorem joinWords : Spells JoinWords fun _ => [] := by
  intro u type hu
  cases hu with
  | plain | inner | cross => rfl
  | left hv | right hv | full hv => simp [flag rfl hv]

theorem join (hg : g.Spells) {lax bare : Bool} :
    Spells (Join lax g bare) fun j => j.2.1.names ++ j.2.2.names := by
  intro u j hu
  cases hu with
  | cross hu hv => simp [joinWords hu, table hv, Expr.boolean]
  | on hu _ hv hw => simp [joinWords hu, table hv, hg.expr hw]
  | bare _ hu _ hv => simp [joinWords hu, table hv, Expr.boolean]

/-- Each join puts its names after those of the tables to its left. -/
theorem joins (hg : g.Spells) {lax : Bool} {left joined : TableRef} {u : List TokenKind}
    (hu : Joins lax g left u joined) : joined.names = left.names ++ namesOf u := by
  induction hu with
  | done => simp
  | step hu _ _ ih => simp [ih, join hg hu]

theorem source (hg : g.Spells) {lax : Bool} : Spells (Source lax g) TableRef.names := by
  intro u t hu
  cases hu with
  | mk hu hv => simp [table hu, joins hg hv]

theorem item (hg : g.Spells) : Spells (Item g) SelectItem.names := by
  intro u i hu
  cases hu with
  | star => rfl
  | expr hu _ hv => simp [hg.expr hu, label hv]

theorem orderEntry (hg : g.Spells) : Spells (OrderEntry g) OrderBy.names := by
  intro u entry hu
  cases hu with
  | mk hu hv => cases hv <;> simp [hg.expr hu]

theorem clause (h : Spells L names) (keyword : Keyword) :
    Spells (Clause keyword L) fun x => x.elim [] names := by
  intro u x hu
  cases hu with
  | absent => rfl
  | present hu => simpa using h hu

theorem rowCount (keyword : Keyword) : Spells (Clause keyword RowCount) fun _ => [] := by
  intro u count hu
  cases hu with
  | absent => rfl
  | present hu =>
    cases hu with
    | mk n hn => rfl

theorem byClause (h : Spells L names) (keyword : Keyword) :
    Spells (ByClause keyword L) fun as => as.flatMap names := by
  intro u as hu
  cases hu with
  | absent => rfl
  | present hu => simpa using commaList h hu

theorem distinctClause : Spells DistinctClause fun _ => [] := by
  intro u distinct hu
  cases hu <;> rfl

theorem query (hg : g.Spells) {lax : Bool} : Spells (Query lax g) Select.names := by
  intro u q hu
  cases hu with
  | mk h₁ h₂ h₃ h₄ h₅ h₆ h₇ h₈ h₉ =>
    simp [distinctClause h₁, commaList (item hg) h₂, clause (source hg) .from h₃,
      clause hg.expr .where h₄, byClause hg.expr .group h₅, clause hg.expr .having h₆,
      byClause (orderEntry hg) .order h₇, rowCount .limit h₈, rowCount .offset h₉]

theorem upTo (lax : Bool) (depth : Nat) : (upTo lax depth).Spells := by
  induction depth with
  | zero => exact ⟨nofun, nofun⟩
  | succ depth ih => exact ⟨disjunction ih, query ih⟩

/-! ## Statements -/

theorem name : Spells Name fun name => [name] := by
  rintro _ _ ⟨⟩
  rfl

theorem columns : Spells Columns id := by
  intro u columns hu
  cases hu with
  | absent => rfl
  | present hu => simp [commaList name hu]

theorem row (hg : g.Spells) : Spells (Row g) exprNames := by
  rintro _ row ⟨hu⟩
  simp [commaList hg.expr hu]

theorem assign (hg : g.Spells) : Spells (Assign g) Assignment.names := by
  rintro _ _ ⟨column, hu⟩
  simp [hg.expr hu]


/-- Making a table is left out, as the type of a column is put together from several kinds. -/
theorem phrase (hg : g.Spells) {u : List TokenKind} {s : Statement} (hu : Phrase g u s)
    (hs : ∀ table columns, s ≠ .createTable table columns) : namesOf u = s.names := by
  cases hu with
  | select hu => simpa using hg.select hu
  | insert table hu hv => simp [columns hu, commaList (row hg) hv]
  | update table hu hv => simp [commaList (assign hg) hu, clause hg.expr .where hv]
  | delete table hu => simp [clause hg.expr .where hu]
  | createTable table hu => exact absurd rfl (hs _ _)

theorem sole {lax : Bool} {depth : Nat} {u : List TokenKind} {s : Statement}
    (hu : Sole lax depth u s) (hs : ∀ table columns, s ≠ .createTable table columns) :
    namesOf u = s.names := by
  cases hu with
  | plain hu => exact phrase (upTo lax depth) hu hs
  | semicolon hu => simpa using phrase (upTo lax depth) hu hs

end Spells

end SqlSyntax
