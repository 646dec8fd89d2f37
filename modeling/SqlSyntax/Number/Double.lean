/-!
# Binary floating point of 64 bits

A number is kept as its bits: a sign, 11 exponent bits and 52 fraction bits. Every
finite magnitude is a whole multiple of `2 ^ -1074`, the least positive one, so exact
arithmetic on magnitudes is arithmetic on natural numbers in that unit.
-/
namespace SqlSyntax

/-- `10 ^ n`. -/
def tenTo : Nat → Nat
  | 0 => 1
  | n + 1 => 10 * tenTo n

structure Double where
  bits : UInt64
  deriving DecidableEq, Inhabited

namespace Double

def signBit : UInt64 := 0x8000000000000000

def isNegative (x : Double) : Bool := signBit ≤ x.bits

/-- The bits without the sign. -/
def magnitudeBits (x : Double) : Nat := x.bits.toNat % 0x8000000000000000

/-- The weight of the least bit of the exponent field, and of the leading bit that the
significand of a normal number has in front of the fraction field. -/
def leadingBit : Nat := 0x10000000000000

def exponentField (x : Double) : Nat := x.magnitudeBits / leadingBit

def fractionField (x : Double) : Nat := x.magnitudeBits % leadingBit

def isFinite (x : Double) : Bool := x.exponentField < 0x7FF

def isNaN (x : Double) : Bool := !x.isFinite && x.fractionField ≠ 0

def isZero (x : Double) : Bool := x.magnitudeBits = 0

/-- The significand, with its leading bit unless the number is subnormal. -/
def significand (x : Double) : Nat :=
  if x.exponentField = 0 then x.fractionField else leadingBit + x.fractionField

/-- The power of two by which the place of the last significand bit exceeds `2 ^ -1074`. -/
def shift (x : Double) : Nat := x.exponentField - 1

/-- A finite magnitude as a multiple of `2 ^ -1074`. -/
def scaled (x : Double) : Nat := x.significand <<< x.shift

/-- The number one as a multiple of `2 ^ -1074`. -/
def scaledOne : Nat := 1 <<< 1074

/-- Whether the next smaller magnitude is only half as far as the next greater one. -/
def narrowBelow (x : Double) : Bool := x.fractionField = 0 && 1 < x.exponentField

/-- The same magnitude with the other sign. -/
def neg (x : Double) : Double := ⟨x.bits ^^^ signBit⟩

instance : Neg Double := ⟨neg⟩

@[simp] theorem neg_neg (x : Double) : - -x = x := by
  change (⟨(x.bits ^^^ signBit) ^^^ signBit⟩ : Double) = x
  rw [UInt64.xor_assoc, UInt64.xor_self, UInt64.xor_zero]

def zero : Double := ⟨0⟩

def infinity : Double := ⟨0x7FF0000000000000⟩

def nan : Double := ⟨0x7FF8000000000000⟩

/-- A quotient rounded to the nearest whole number, a half to the even one. -/
def roundHalfEven (num den : Nat) : Nat :=
  let q := num / den
  let r := num % den
  if 2 * r < den then q else if den < 2 * r then q + 1 else q + q % 2

/-- The number nearest to `num / den`, of two the one with an even significand.
What rounds past the greatest finite number is infinite. The significand is added to
the exponent field as a whole: its leading bit, or a carry past it, raises the field
by one, which is the field's meaning. -/
def ofRatio (num den : Nat) : Double :=
  let shift := Nat.log2 (num * scaledOne / den) - 52
  let magnitude := shift * leadingBit + roundHalfEven (num * scaledOne) (den <<< shift)
  ⟨UInt64.ofNat (min magnitude infinity.magnitudeBits)⟩

/-- The number nearest to `digits * 10 ^ exponent`. An exponent so great or so small
that the result is infinite or zero whatever the digits is not raised to a power. -/
def ofDecimal (digits : Nat) (exponent : Int) : Double :=
  if digits = 0 then zero
  else match exponent with
    | .ofNat e => if 309 ≤ e then infinity else ofRatio (digits * tenTo e) 1
    | .negSucc e =>
      if Nat.log2 digits + 1076 < 3 * (e + 1) then zero else ofRatio digits (tenTo (e + 1))

end Double

end SqlSyntax
