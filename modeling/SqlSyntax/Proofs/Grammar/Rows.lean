import Mathlib.Logic.Function.Iterate
import SqlSyntax.Proofs.Grammar.Expr
import SqlSyntax.Proofs.Signs.Opposite

/-!
# Rows of one sign

A row of `NOT`, or of minus signs, stands for as many of them as its counter has room for: for all
of them below 2147483648, and for none from there up to 4294967296, where the counter is below
zero.
-/
namespace SqlSyntax

theorem repeat_eq_iterate {α : Type} (f : α → α) (k : Nat) (a : α) :
    Nat.repeat f k a = f^[k] a := by
  induction k with
  | zero => rfl
  | succ k ih =>
    rw [Function.iterate_succ_apply', ← ih]
    rfl

namespace Expr

/-- What makes an expression larger does not give the expression back. -/
theorem iterate_ne {f : Expr → Expr} (hf : ∀ e, sizeOf e < sizeOf (f e)) {k : Nat} (hk : 0 < k)
    (e : Expr) : f^[k] e ≠ e := by
  have hsize : sizeOf e + k ≤ sizeOf (f^[k] e) := by
    clear hk
    induction k with
    | zero => exact Nat.le_refl _
    | succ k ih =>
      rw [Function.iterate_succ_apply']
      have hlt := hf (f^[k] e)
      omega
  intro he
  rw [he] at hsize
  omega

theorem not_iterate_ne {k : Nat} (hk : 0 < k) (e : Expr) : not^[k] e ≠ e :=
  iterate_ne (fun e => by rw [not.sizeOf_spec]; omega) hk e

theorem negate_iterate_ne {k : Nat} (hk : 0 < k) (e : Expr) : negate^[k] e ≠ e :=
  iterate_ne (fun e => by rw [negate.sizeOf_spec]; omega) hk e

theorem opposite_iterate_of_keepsSign {e : Expr} (h : e.KeepsSign) (k : Nat) :
    opposite^[k] e = negate^[k] e := by
  induction k with
  | zero => rfl
  | succ k ih =>
    have hkeeps : (negate^[k] e).KeepsSign := by
      cases k with
      | zero => exact h
      | succ k =>
        rw [Function.iterate_succ_apply']
        trivial
    rw [Function.iterate_succ_apply', Function.iterate_succ_apply', ih,
      opposite_of_keepsSign hkeeps]

end Expr

def TokenKind.IsSign (kind : TokenKind) : Prop := kind = .operator .plus ∨ kind = .operator .minus

theorem isSign_of_mem_replicate (k : Nat) :
    ∀ kind ∈ List.replicate k (TokenKind.operator .minus), kind.IsSign :=
  fun _ h => .inr (List.eq_of_mem_replicate h)

namespace Grammar

/-- Which signs are a minus is read from them, so as many are as the tokens say. -/
theorem exists_many_sign {signs : List TokenKind} (h : ∀ kind ∈ signs, kind.IsSign) :
    ∃ minuses, Many Sign signs minuses ∧ minuses.count true = signs.count (.operator .minus) := by
  induction signs with
  | nil => exact ⟨[], .nil, rfl⟩
  | cons kind signs ih =>
    rw [List.forall_mem_cons] at h
    obtain ⟨hsign, hsigns⟩ := h
    obtain ⟨minuses, hminuses, hcount⟩ := ih hsigns
    obtain rfl | rfl := hsign
    · exact ⟨false :: minuses, .cons .plus hminuses, by simpa using hcount⟩
    · exact ⟨true :: minuses, .cons .minus hminuses, by simpa using hcount⟩

variable {g : Inner} {u : List TokenKind} {e : Expr}

theorem Signed.replicate (h : Primary g u e) (k : Nat) :
    Signed g (List.replicate k (.operator .minus) ++ u) (Expr.opposite^[rounds k] e) := by
  obtain ⟨minuses, hminuses, hcount⟩ := exists_many_sign (isSign_of_mem_replicate k)
  have hrow := Signed.mk hminuses h
  rw [hcount, List.count_replicate_self, repeat_eq_iterate] at hrow
  exact hrow

theorem Negation.replicate (h : Predicate g u e) (k : Nat) :
    Negation g (List.replicate k (.keyword .not) ++ u) (Expr.not^[rounds k] e) := by
  have hrow := Negation.mk k h
  rw [repeat_eq_iterate] at hrow
  exact hrow

/-- A row that is too long for its counter, but not twice so, is read as if it were not there. -/
theorem Signed.uncounted (h : Primary g u e) {k : Nat} (hk : 2147483648 ≤ k)
    (hlt : k < 4294967296) : Signed g (List.replicate k (.operator .minus) ++ u) e := by
  have hrow := Signed.replicate h k
  rw [rounds_of_le hk hlt] at hrow
  exact hrow

theorem Negation.uncounted (h : Predicate g u e) {k : Nat} (hk : 2147483648 ≤ k)
    (hlt : k < 4294967296) : Negation g (List.replicate k (.keyword .not) ++ u) e := by
  have hrow := Negation.replicate h k
  rw [rounds_of_le hk hlt] at hrow
  exact hrow

end Grammar

end SqlSyntax
