import SqlSyntax.Proofs.Depth.Basic
import SqlSyntax.Parser.Select

/-!
# Places where tables are named

What a query reads from can be told from its tokens alone: outside all brackets a table is named
after `FROM` and after each `JOIN`. Tokens that name none may be skipped, brackets and all.
-/
namespace SqlSyntax

/-- The kinds after a `FROM`, or after a `JOIN` of some type. -/
structure TablePlace where
  type : Option JoinType
  after : List TokenKind

/-- The type that a `JOIN` after the kind has, if it would have the given one before it. -/
def TokenKind.joinType (type : JoinType) : TokenKind → JoinType
  | .keyword .left => .left
  | .keyword .right => .right
  | .keyword .full => .full
  | .keyword .cross => .cross
  | .keyword .outer => type
  | _ => .inner

/-- The places outside all brackets, after `depth` of them are open and the words before name a
type of join. -/
def tablePlaces (depth : Nat) (type : JoinType) : List TokenKind → List TablePlace
  | [] => []
  | kind :: kinds =>
    let later := tablePlaces (kind.waiting depth) (kind.joinType type) kinds
    if depth = 0 ∧ kind = .keyword .from then ⟨none, kinds⟩ :: later
    else if depth = 0 ∧ kind = .keyword .join then ⟨some type, kinds⟩ :: later
    else later

/-- A table with its label, if it has one, and what comes after it. -/
def namedTable? : List TokenKind → Option (TableRef × List TokenKind)
  | .identifier name :: .keyword .as :: .identifier label :: rest =>
    some (.table name (some label), rest)
  | .identifier name :: .identifier label :: rest => some (.table name (some label), rest)
  | .identifier name :: rest => some (.table name none, rest)
  | _ => none

/-! ## Tokens that name no table -/

/-- Nothing outside brackets names a table or a type of join. -/
def Skipped (u : List TokenKind) : Prop :=
  ∀ v, tablePlaces 0 .inner (u ++ v) = tablePlaces 0 .inner v

/-- The brackets, and the words that name a place or the type of a join. -/
def TokenKind.marksPlace : TokenKind → Bool
  | .leftParen | .rightParen => true
  | .keyword k => k ∈ [.from, .join, .left, .right, .full, .cross]
  | _ => false

namespace TokenKind

@[simp] theorem marksPlace_keyword (k : Keyword) : (keyword k).marksPlace =
    decide (k ∈ [.from, .join, .left, .right, .full, .cross]) := rfl
@[simp] theorem marksPlace_identifier (name : String) : (identifier name).marksPlace = false := rfl
@[simp] theorem marksPlace_operator (o : Operator) : (operator o).marksPlace = false := rfl
@[simp] theorem marksPlace_literal (value : Literal) : (literal value).marksPlace = false := rfl
@[simp] theorem marksPlace_comma : comma.marksPlace = false := rfl
@[simp] theorem marksPlace_semicolon : semicolon.marksPlace = false := rfl
@[simp] theorem marksPlace_star : star.marksPlace = false := rfl
@[simp] theorem marksPlace_dot : dot.marksPlace = false := rfl

end TokenKind

@[simp] theorem skipped_nil : Skipped [] := fun _ => rfl

theorem tablePlaces_cons {kind : TokenKind} (h : ¬kind.marksPlace)
    (kinds : List TokenKind) :
    tablePlaces 0 .inner (kind :: kinds) = tablePlaces 0 .inner kinds := by
  have hl : kind ≠ .leftParen := by rintro rfl; exact h rfl
  have hr : kind ≠ .rightParen := by rintro rfl; exact h rfl
  have hfrom : kind ≠ .keyword .from := by rintro rfl; exact h rfl
  have hjoin : kind ≠ .keyword .join := by rintro rfl; exact h rfl
  have htype : kind.joinType .inner = .inner := by
    unfold TokenKind.joinType
    split <;> first | rfl | exact absurd rfl h
  simp [tablePlaces, TokenKind.waiting_of_ne hl hr, hfrom, hjoin, htype]

@[simp] theorem skipped_cons_iff {kind : TokenKind} {u : List TokenKind}
    (h : ¬kind.marksPlace) : Skipped (kind :: u) ↔ Skipped u :=
  forall_congr' fun v => by rw [List.cons_append, tablePlaces_cons h]

theorem Skipped.append {u v : List TokenKind} (hu : Skipped u) (hv : Skipped v) :
    Skipped (u ++ v) := fun w => by rw [List.append_assoc, hu, hv]

/-- Inside brackets no table counts. Words of a join that end a part may change the type. -/
theorem Paired.tablePlaces {n : Nat} {u : List TokenKind} (h : Paired n u) (depth : Nat)
    (type : JoinType) : ∃ type', ∀ v,
      tablePlaces (depth + 1) type (u ++ v) = SqlSyntax.tablePlaces (depth + 1) type' v := by
  induction h generalizing depth type with
  | nil => exact ⟨type, fun _ => rfl⟩
  | @other kind _ _ hl hr _ ih =>
    obtain ⟨type', h⟩ := ih depth (kind.joinType type)
    refine ⟨type', fun v => ?_⟩
    simp [SqlSyntax.tablePlaces, TokenKind.waiting_of_ne hl hr, h]
  | pair _ _ ihu ihv =>
    obtain ⟨type', hu⟩ := ihu (depth + 1) .inner
    obtain ⟨type'', hv⟩ := ihv depth .inner
    refine ⟨type'', fun w => ?_⟩
    simp [SqlSyntax.tablePlaces, TokenKind.waiting, TokenKind.joinType, hu, hv]

theorem Paired.skipped {n : Nat} {u : List TokenKind} (h : Paired n u) :
    Skipped (.leftParen :: (u ++ [.rightParen])) := by
  intro v
  obtain ⟨type, hu⟩ := h.tablePlaces 0 .inner
  simp [SqlSyntax.tablePlaces, TokenKind.waiting, TokenKind.joinType, hu]

end SqlSyntax
