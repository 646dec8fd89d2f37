import SqlSyntax.Proofs.Accepting.Statement
import SqlSyntax.Proofs.Reading.Statement

/-!
# Definitions of columns

A definition is documented to have a primary key first, if it has one, and then `NOT NULL`, each
of them at most once. The parser goes on for as long as constraints come, so it reads them in any
order and any number. What is read is of the documented form if the texts of its constraints are
those of a primary key and `NOT NULL`, with one or both left out or none.
-/
namespace SqlSyntax

namespace Grammar

/-- The definitions of columns whose constraints have the given texts. -/
inductive ColumnWith (texts : List String) : Language ColumnDef
  | mk (name typeName : String) : TypeArguments u arguments → Constraints v texts →
      ColumnWith texts (.identifier name :: .identifier typeName :: (u ++ v))
        ⟨name, typeName ++ arguments ++ String.join texts⟩

/-! ## The documented form -/

/-- The words `PRIMARY KEY`, in any case, which may be left out. -/
inductive PrimaryKey : Language (List String)
  | absent : PrimaryKey [] []
  | present : upperAscii primary = "PRIMARY" → upperAscii key = "KEY" →
      PrimaryKey [.identifier primary, .identifier key] [" PRIMARY KEY"]

/-- The words `NOT NULL`, which may be left out. -/
inductive NotNull : Language (List String)
  | absent : NotNull [] []
  | present : NotNull [.keyword .not, .literal .null] [" NOT NULL"]

/-- Each constraint at most once, and the primary key before the other one. -/
inductive PlainConstraints : Language (List String)
  | mk : PrimaryKey u first → NotNull v second → PlainConstraints (u ++ v) (first ++ second)

/-- The definitions of columns as they are documented. -/
inductive PlainColumn : Language ColumnDef
  | mk (name typeName : String) : TypeArguments u arguments → PlainConstraints v texts →
      PlainColumn (.identifier name :: .identifier typeName :: (u ++ v))
        ⟨name, typeName ++ arguments ++ String.join texts⟩

/-- The texts of both constraints in their documented order. -/
def plainTexts : List String := [" PRIMARY KEY", " NOT NULL"]

variable {u v : List TokenKind} {c : ColumnDef} {texts : List String}

theorem column_iff : Column u c ↔ ∃ texts, ColumnWith texts u c := by
  constructor
  · rintro ⟨name, typeName, hu, hv⟩
    exact ⟨_, .mk name typeName hu hv⟩
  · rintro ⟨_, name, typeName, hu, hv⟩
    exact .mk name typeName hu hv

theorem plainConstraints_iff :
    PlainConstraints v texts ↔ texts.Sublist plainTexts ∧ Constraints v texts := by
  constructor
  · rintro ⟨hkey, hnull⟩
    cases hkey with
    | absent =>
      cases hnull with
      | absent => exact ⟨by simp, .done⟩
      | present => exact ⟨.cons _ (.refl _), .notNull .done⟩
    | present hp hk =>
      cases hnull with
      | absent => exact ⟨.cons_cons _ (List.nil_sublist _), .primaryKey hp hk .done⟩
      | present => exact ⟨.refl _, .primaryKey hp hk (.notNull .done)⟩
  · rintro ⟨hsub, h⟩
    cases h with
    | done => exact .mk .absent .absent
    | @notNull u texts h =>
      have hnil : texts = [] := by simpa [plainTexts, List.sublist_cons_iff] using hsub
      subst hnil
      cases h
      exact .mk .absent .present
    | @primaryKey primary key u texts hp hk h =>
      have hle : texts.Sublist [" NOT NULL"] := List.cons_sublist_cons.mp hsub
      cases h with
      | done => exact .mk (.present hp hk) .absent
      | @notNull u texts h =>
        obtain rfl : texts = [] := List.sublist_nil.mp (List.cons_sublist_cons.mp hle)
        cases h
        exact .mk (.present hp hk) .present
      | primaryKey => simp [List.sublist_cons_iff] at hle

theorem PlainConstraints.length_le (h : PlainConstraints v texts) : v.length ≤ 4 := by
  obtain ⟨hkey, hnull⟩ := h
  cases hkey <;> cases hnull <;> simp

theorem plainColumn_iff :
    PlainColumn u c ↔ ∃ texts, texts.Sublist plainTexts ∧ ColumnWith texts u c := by
  constructor
  · rintro ⟨name, typeName, hu, hv⟩
    obtain ⟨hsub, hv⟩ := plainConstraints_iff.mp hv
    exact ⟨_, hsub, .mk name typeName hu hv⟩
  · rintro ⟨_, hsub, name, typeName, hu, hv⟩
    exact .mk name typeName hu (plainConstraints_iff.mpr ⟨hsub, hv⟩)

end Grammar

open Grammar

/-- Before a comma or a right parenthesis a definition is read with its constraints in any order
and any number, and the text of its type is made of the parts as they come. Of the documented
form are those where each constraint comes at most once and the primary key comes first. -/
theorem columnDef_run_eq_ok_iff {u rest : List TokenKind} {c : ColumnDef}
    (hrest : rest.head? = some .comma ∨ rest.head? = some .rightParen) :
    (Parser.columnDef.run (u ++ rest) = .ok (c, rest) ↔ ∃ texts, ColumnWith texts u c) ∧
      (PlainColumn u c ↔ ∃ texts, texts.Sublist plainTexts ∧ ColumnWith texts u c) := by
  refine ⟨?_, plainColumn_iff⟩
  have hpast : Past 0 rest := by
    obtain h | h := hrest <;> obtain ⟨rest, rfl⟩ := List.head?_eq_some_iff.mp h
    · exact past_of_lt (by decide) rest
    · exact past_of_lt (by decide) rest
  rw [← column_iff]
  constructor
  · intro h
    obtain ⟨u', hu, hc⟩ := (Compositional.columnDef (Reads.compositional False)).sound h
    rwa [List.append_cancel_right hu]
  · intro h
    exact Accepts.columnDef h hpast

theorem columnDef_run_eq_ok_iff_bothConstraints :
    let u : List TokenKind :=
      [.identifier "id", .identifier "int", .identifier "primary", .identifier "Key",
        .keyword .not, .literal .null]
    let c : ColumnDef := ⟨"id", "int PRIMARY KEY NOT NULL"⟩
    [TokenKind.comma].head? = some .comma ∧
      Parser.columnDef.run (u ++ [.comma]) = .ok (c, [.comma]) ∧ PlainColumn u c := by
  intro u c
  have htexts : ColumnWith plainTexts u c :=
    .mk "id" "int" .absent (.primaryKey (by decide +kernel) (by decide +kernel) (.notNull .done))
  have hcomma : [TokenKind.comma].head? = some .comma := rfl
  obtain ⟨hread, hplain⟩ := columnDef_run_eq_ok_iff (.inl hcomma)
  exact ⟨hcomma, hread.mpr ⟨_, htexts⟩, hplain.mpr ⟨_, .refl _, htexts⟩⟩

/-- The constraints of this definition come in the other order, and one of them comes twice. -/
theorem columnDef_outsideDocumentedForm :
    let u : List TokenKind :=
      [.identifier "c", .identifier "INT", .keyword .not, .literal .null, .identifier "PRIMARY",
        .identifier "KEY", .keyword .not, .literal .null]
    Parser.columnDef.run (u ++ [.rightParen]) =
        .ok (⟨"c", "INT NOT NULL PRIMARY KEY NOT NULL"⟩, [.rightParen]) ∧
      ∀ c, ¬PlainColumn u c := by
  intro u
  refine ⟨by with_unfolding_all rfl, fun c hc => ?_⟩
  generalize hu : u = w at hc
  obtain ⟨name, typeName, harguments, hconstraints⟩ := hc
  have hlength := hconstraints.length_le
  cases harguments with
  | absent =>
    obtain ⟨-, -, rfl⟩ : "c" = name ∧ "INT" = typeName ∧ u.drop 2 = _ := by simpa [u] using hu
    simp [u] at hlength
  | one => simp [u] at hu
  | two => simp [u] at hu

end SqlSyntax
