/-!
# Sets of characters by code point

A set is a list of ranges, ends included. The classes of the character tables are
stated with it, each only from code point 128 on: below that a class is given by
its rule, so no table decides what happens to an ASCII character.
-/
namespace SqlSyntax

structure CharSet where
  ranges : List (Nat × Nat)

namespace CharSet

def contains (s : CharSet) (c : Char) : Bool :=
  s.ranges.any fun r => r.1 ≤ c.toNat && c.toNat ≤ r.2

end CharSet

/-- The characters that ASCII has. -/
def isAscii (c : Char) : Bool := c.toNat < 128

theorem isAscii_of_isDigit {c : Char} (h : c.isDigit = true) : isAscii c = true := by
  have h9 : c.toNat ≤ '9'.toNat := of_decide_eq_true (Bool.and_eq_true_iff.mp h).2
  exact decide_eq_true (Nat.lt_of_le_of_lt h9 (by decide))

theorem isAscii_of_isAlpha {c : Char} (h : c.isAlpha = true) : isAscii c = true := by
  have hz : c.toNat ≤ 'z'.toNat := by
    rcases Bool.or_eq_true_iff.mp h with h | h
    · have hZ : c.toNat ≤ 'Z'.toNat := (of_decide_eq_true h).2
      exact Nat.le_trans hZ (by decide)
    · exact of_decide_eq_true (Bool.and_eq_true_iff.mp h).2
  exact decide_eq_true (Nat.lt_of_le_of_lt hz (by decide))

theorem isAlpha_eq_false_of_isDigit {c : Char} (h : c.isDigit = true) : c.isAlpha = false := by
  refine Bool.eq_false_iff.mpr fun halpha => ?_
  have h9 : c.toNat ≤ '9'.toNat := of_decide_eq_true (Bool.and_eq_true_iff.mp h).2
  have hA : 'A'.toNat ≤ c.toNat := by
    rcases Bool.or_eq_true_iff.mp halpha with h | h
    · exact (of_decide_eq_true h).1
    · have ha : 'a'.toNat ≤ c.toNat := of_decide_eq_true (Bool.and_eq_true_iff.mp h).1
      exact Nat.le_trans (by decide) ha
  exact absurd (Nat.le_trans hA h9) (by decide)

/-- Only letters have an upper case that is a letter. -/
theorem isAlpha_of_toUpper {c : Char} (h : c.toUpper.isAlpha = true) : c.isAlpha = true := by
  by_cases hlower : 'a'.val ≤ c.val ∧ c.val ≤ 'z'.val
  · have hc : c.isLower = true :=
      Bool.and_eq_true_iff.mpr ⟨decide_eq_true hlower.1, decide_eq_true hlower.2⟩
    exact Bool.or_eq_true_iff.mpr (.inr hc)
  · have hsame : c.toUpper = c := dif_neg hlower
    rwa [hsame] at h

end SqlSyntax
