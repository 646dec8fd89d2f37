import SqlSyntax.Proofs.Accepting.Query
import SqlSyntax.Proofs.Grammar.Rows
import SqlSyntax.Proofs.Reading.Query

/-!
# Chains of operators

Operands that one layer of the parser takes up to the end make a chain that the next looser
layer takes up to the end, however many they are. `OR` and `AND` group to the right, the
operators of sums and products to the left, and each `NOT` that counts stands around all that
follows it. All layers are those of one level of nesting: a chain opens nothing.
-/
namespace SqlSyntax

open Grammar

/-! ## Chains as phrases -/

namespace Grammar

variable {L : Language Expr}

/-- The operands but the last one come from a list. -/
theorem RightChain.of_foldr {keyword : Keyword} {operator : Operator}
    {operands : List (List TokenKind × Expr)} {u : List TokenKind} {e : Expr}
    (hoperands : ∀ x ∈ operands, L x.1 x.2) (hu : L u e) :
    RightChain keyword operator L (operands.foldr (fun x v => x.1 ++ .keyword keyword :: v) u)
      (operands.foldr (fun x f => .binary x.2 operator f) e) := by
  induction operands with
  | nil => exact .single hu
  | cons x operands ih =>
    rw [List.forall_mem_cons] at hoperands
    exact .step hoperands.1 (ih hoperands.2)

/-- An operand after the first one, and the sign before it. -/
structure Link where
  sign : TokenKind
  operator : Operator
  kinds : List TokenKind
  value : Expr

/-- The operands but the first one come from a list. -/
theorem LeftChain.of_foldl {sign : TokenKind → Option Operator} {links : List Link}
    {u : List TokenKind} {e : Expr} (hu : LeftChain sign L u e)
    (hlinks : ∀ x ∈ links, sign x.sign = some x.operator ∧ L x.kinds x.value) :
    LeftChain sign L (links.foldl (fun v x => v ++ x.sign :: x.kinds) u)
      (links.foldl (fun f x => .binary f x.operator x.value) e) := by
  induction links generalizing u e with
  | nil => exact hu
  | cons x links ih =>
    rw [List.forall_mem_cons] at hlinks
    exact ih (.step hu hlinks.1.1 hlinks.1.2) hlinks.2

/-! ## Signs -/

/-- The tokens of addition and subtraction. -/
inductive SumSign : TokenKind → Operator → Prop
  | plus : SumSign (.operator .plus) .plus
  | minus : SumSign (.operator .minus) .minus

/-- The tokens of multiplication and division. The lexer gives a star, not an operator. -/
inductive ProductSign : TokenKind → Operator → Prop
  | star : ProductSign .star .multiply
  | multiply : ProductSign (.operator .multiply) .multiply
  | divide : ProductSign (.operator .divide) .divide

theorem SumSign.additive? {kind : TokenKind} {operator : Operator}
    (h : SumSign kind operator) : kind.additive? = some operator := by
  cases h <;> rfl

theorem ProductSign.multiplicative? {kind : TokenKind} {operator : Operator}
    (h : ProductSign kind operator) : kind.multiplicative? = some operator := by
  cases h <;> rfl

end Grammar

/-! ## Chains up to the end -/

namespace Parser

/-- Before the end marker the parser takes all of the kinds and gives the value. -/
def TakesAll {α : Type} (p : Parser α) (u : List TokenKind) (a : α) : Prop :=
  p.run (u ++ [.endOfInput]) = .ok (a, [.endOfInput])

theorem TakesAll.phrase {α : Type} {p : Parser α} {u : List TokenKind} {a : α}
    (h : p.TakesAll u a) {L : Language α} (hp : Reads False p L) : L u a := by
  obtain ⟨v, hv, ha⟩ := hp.sound h
  obtain rfl := List.append_cancel_right hv
  exact ha

theorem takesAll_of_phrase {α : Type} {p : Parser α} {L : Language α} {layer : Nat}
    (hp : Accepts p L (Ends layer)) (hlayer : 0 < layer) {u : List TokenKind} {a : α}
    (h : L u a) : p.TakesAll u a :=
  hp h (ends_of_lt hlayer [])

theorem takesAll_rightChain {inner outer : Parser Expr} {L : Language Expr} {keyword : Keyword}
    {operator : Operator} {layer : Nat} (hinner : Reads False inner L)
    (houter : Accepts outer (RightChain keyword operator L) (Ends layer)) (hlayer : 0 < layer)
    {operands : List (List TokenKind × Expr)} {u : List TokenKind} {e : Expr}
    (hoperands : ∀ x ∈ operands, inner.TakesAll x.1 x.2) (hu : inner.TakesAll u e) :
    outer.TakesAll (operands.foldr (fun x v => x.1 ++ .keyword keyword :: v) u)
      (operands.foldr (fun x f => .binary x.2 operator f) e) := by
  refine takesAll_of_phrase houter hlayer (RightChain.of_foldr ?_ (hu.phrase hinner))
  exact fun x hx => (hoperands x hx).phrase hinner

theorem takesAll_leftChain {inner outer : Parser Expr} {L : Language Expr}
    {sign : TokenKind → Option Operator} {Sign : TokenKind → Operator → Prop} {layer : Nat}
    (hinner : Reads False inner L) (houter : Accepts outer (LeftChain sign L) (Ends layer))
    (hlayer : 0 < layer)
    (hsign : ∀ {kind operator}, Sign kind operator → sign kind = some operator)
    {links : List Link} {u : List TokenKind} {e : Expr} (hu : inner.TakesAll u e)
    (hlinks : ∀ x ∈ links, Sign x.sign x.operator ∧ inner.TakesAll x.kinds x.value) :
    outer.TakesAll (links.foldl (fun v x => v ++ x.sign :: x.kinds) u)
      (links.foldl (fun f x => .binary f x.operator x.value) e) := by
  refine takesAll_of_phrase houter hlayer (LeftChain.of_foldl (.single (hu.phrase hinner)) ?_)
  exact fun x hx => ⟨hsign (hlinks x hx).1, (hlinks x hx).2.phrase hinner⟩

theorem takesAll_negation {o : ParserOptions} {left : Nat} {u : List TokenKind} {e : Expr}
    (hu : (predicate (nested o left)).TakesAll u e) (k : Nat) :
    (negation (nested o left)).TakesAll (List.replicate k (.keyword .not) ++ u)
      (Expr.not^[rounds k] e) := by
  have hn := Reads.nested_forget o left 0
  have hphrase := Negation.replicate (hu.phrase ((Reads.compositional False).predicate hn)) k
  exact takesAll_of_phrase (Accepts.negation (Accepts.nested o left)) (by decide) hphrase

theorem takesAll_uncounted {o : ParserOptions} {left : Nat} {u : List TokenKind} {e : Expr}
    (hu : (predicate (nested o left)).TakesAll u e) {k : Nat} (hk : 2147483648 ≤ k)
    (hlt : k < 4294967296) :
    (negation (nested o left)).TakesAll (List.replicate k (.keyword .not) ++ u) e := by
  have hall := takesAll_negation hu k
  rw [rounds_of_le hk hlt] at hall
  exact hall

end Parser

end SqlSyntax
