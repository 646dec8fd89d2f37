import SqlSyntax.Parser.Expr

/-!
# Languages

A language is a set of phrases, each with the value that it stands for. A phrase belongs
to a language if it can be cut into parts in some way, without lookahead or greed. Lists
and chains are given by their own rules here, and shown to be what a loop goes through: a
first phrase and then any number of others, each behind a sign.
-/
namespace SqlSyntax

abbrev Language (α : Type) : Type := List TokenKind → α → Prop

namespace Grammar

/-- One phrase or more, with commas between. -/
inductive CommaList (L : Language α) : Language (List α)
  | one : L u a → CommaList L u [a]
  | cons : L u a → CommaList L v as → CommaList L (u ++ .comma :: v) (a :: as)

/-- A kind that may be left out. -/
inductive Flag (kind : TokenKind) : Language Bool
  | absent : Flag kind [] false
  | present : Flag kind [kind] true

/-- Phrases with signs between, grouped to the left. -/
inductive LeftChain (sign : TokenKind → Option Operator) (L : Language Expr) : Language Expr
  | single : L u e → LeftChain sign L u e
  | step : LeftChain sign L u e → sign kind = some operator → L v f →
      LeftChain sign L (u ++ kind :: v) (.binary e operator f)

/-- Phrases with a keyword between, grouped to the right. -/
inductive RightChain (keyword : Keyword) (operator : Operator) (L : Language Expr) :
    Language Expr
  | single : L u e → RightChain keyword operator L u e
  | step : L u e → RightChain keyword operator L v f →
      RightChain keyword operator L (u ++ .keyword keyword :: v) (.binary e operator f)

/-! ## Chains as loops go through them -/

/-- Any number of phrases, one after another. -/
inductive Many (L : Language α) : Language (List α)
  | nil : Many L [] []
  | cons : L u a → Many L v as → Many L (u ++ v) (a :: as)

/-- Phrases behind a given kind. -/
def Behind (kind : TokenKind) (L : Language α) : Language α :=
  fun u a => ∃ v, u = kind :: v ∧ L v a

/-- Phrases behind the sign of an operator. -/
def Operand (sign : TokenKind → Option Operator) (L : Language Expr) :
    Language (Operator × Expr) :=
  fun u x => ∃ kind v, u = kind :: v ∧ sign kind = some x.1 ∧ L v x.2

variable {α : Type}

theorem Many.concat {L : Language α} {u v : List TokenKind} {as : List α} {a : α}
    (hu : Many L u as) (hv : L v a) : Many L (u ++ v) (as ++ [a]) := by
  induction hu with
  | nil => simpa using Many.cons hv .nil
  | cons hx _ ih => simpa using Many.cons hx ih

theorem commaList_iff {L : Language α} {w : List TokenKind} {as : List α} :
    CommaList L w as ↔ ∃ u a v others, w = u ++ v ∧ as = a :: others ∧ L u a ∧
      Many (Behind .comma L) v others := by
  constructor
  · intro h
    induction h with
    | one hu => exact ⟨_, _, [], [], by simp, rfl, hu, .nil⟩
    | cons hu _ ih =>
      obtain ⟨u', a', v', others, rfl, rfl, hu', hv⟩ := ih
      exact ⟨_, _, .comma :: u' ++ v', _, rfl, rfl, hu, .cons ⟨u', rfl, hu'⟩ hv⟩
  · rintro ⟨u, a, v, others, rfl, rfl, hu, hv⟩
    induction hv generalizing u a with
    | nil => simpa using CommaList.one hu
    | cons hx _ ih =>
      obtain ⟨x, rfl, hx⟩ := hx
      exact .cons hu (ih x _ hx)

theorem commaList_and_iff {L : Language α} {P : α → Prop} {u : List TokenKind}
    {as : List α} :
    CommaList (fun v a => L v a ∧ P a) u as ↔ CommaList L u as ∧ ∀ a ∈ as, P a := by
  constructor
  · intro h
    induction h with
    | one ha => exact ⟨.one ha.1, by simpa using ha.2⟩
    | cons ha _ ih => exact ⟨.cons ha.1 ih.1, by simpa using ⟨ha.2, ih.2⟩⟩
  · rintro ⟨h, hP⟩
    induction h with
    | one ha => exact .one ⟨ha, hP _ (List.mem_singleton.mpr rfl)⟩
    | cons ha _ ih =>
      rw [List.forall_mem_cons] at hP
      exact .cons ⟨ha, hP.1⟩ (ih hP.2)

theorem leftChain_iff {sign : TokenKind → Option Operator} {L : Language Expr}
    {w : List TokenKind} {e : Expr} :
    LeftChain sign L w e ↔ ∃ u first v others, w = u ++ v ∧ e = first.chainLeft others ∧
      L u first ∧ Many (Operand sign L) v others := by
  constructor
  · intro h
    induction h with
    | single hu => exact ⟨_, _, [], [], by simp, rfl, hu, .nil⟩
    | @step _ _ kind operator v f _ hk hf ih =>
      obtain ⟨u, first, v', others, rfl, rfl, hu, hv⟩ := ih
      exact ⟨u, first, v' ++ kind :: v, others ++ [(operator, f)], by simp,
        by simp [Expr.chainLeft], hu, hv.concat ⟨kind, v, rfl, hk, hf⟩⟩
  · rintro ⟨u, first, v, others, rfl, rfl, hu, hv⟩
    have h : LeftChain sign L u first := .single hu
    clear hu
    induction hv generalizing u first with
    | nil => simpa [Expr.chainLeft] using h
    | cons hx _ ih =>
      obtain ⟨kind, x, rfl, hk, hx⟩ := hx
      simpa [Expr.chainLeft] using ih _ _ (.step h hk hx)

theorem rightChain_iff {keyword : Keyword} {operator : Operator} {L : Language Expr}
    {w : List TokenKind} {e : Expr} :
    RightChain keyword operator L w e ↔
      ∃ u first v others, w = u ++ v ∧ e = first.chainRight operator others ∧ L u first ∧
        Many (Behind (.keyword keyword) L) v others := by
  constructor
  · intro h
    induction h with
    | single hu => exact ⟨_, _, [], [], by simp, rfl, hu, .nil⟩
    | step hu _ ih =>
      obtain ⟨u', first, v', others, rfl, rfl, hu', hv⟩ := ih
      exact ⟨_, _, .keyword keyword :: u' ++ v', _, rfl, rfl, hu, .cons ⟨u', rfl, hu'⟩ hv⟩
  · rintro ⟨u, first, v, others, rfl, rfl, hu, hv⟩
    induction hv generalizing u first with
    | nil => simpa [Expr.chainRight] using RightChain.single hu
    | cons hx _ ih =>
      obtain ⟨x, rfl, hx⟩ := hx
      exact .step hu (ih x _ hx)

end Grammar

end SqlSyntax
