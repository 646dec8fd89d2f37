import SqlSyntax.Number.Double

/-!
# Shortest decimals

The shortest decimal of a finite number is the one with the fewest digits that still
rounds to the number. On the grid of decimals with a given count of digits only the two
neighbours of the number need a look: if any decimal of the grid rounds to the number,
so does one of them. All comparisons are between whole numbers in units of `2 ^ -1076`,
a quarter of the least positive magnitude, so that half a gap is a whole number.
-/
namespace SqlSyntax

/-- Which of two equally near decimals is taken. -/
inductive Tie where
  | greater
  | even
  deriving DecidableEq

/-- The decimal `d₀.d₁d₂… * 10 ^ exponent` with the given digits, of which the last is
not zero. -/
structure ScientificDecimal where
  digits : List Char
  exponent : Int
  deriving DecidableEq

namespace Double

/-- The decimals that round to a number: those between the ends, the ends included or
not, in units of `2 ^ -1076`. -/
structure RoundingInterval where
  low : Nat
  high : Nat
  closed : Bool

def roundingInterval (x : Double) : RoundingInterval where
  low := 4 * x.scaled - (if x.narrowBelow then 1 else 2) <<< x.shift
  high := 4 * x.scaled + 2 <<< x.shift
  closed := x.significand % 2 = 0

/-- Whether `num / den`, in units of `2 ^ -1076`, is in the interval. -/
def RoundingInterval.contains (i : RoundingInterval) (num den : Nat) : Bool :=
  if i.closed then i.low * den ≤ num && num ≤ i.high * den
  else i.low * den < num && num < i.high * den

/-- The exponent of the first decimal digit of a positive magnitude. No magnitude is
below `10 ^ -400`, so scaled up by `10 ^ 400` it has that many digits more before the
point. -/
def decimalExponent (x : Double) : Int :=
  (Nat.toDigits 10 (x.scaled * tenTo 400 / scaledOne)).length - 401

/-- The whole number `c` for which `c * 10 ^ place` rounds to `x`, if there is one; of two
the nearer. -/
def onGrid? (tie : Tie) (x : Double) (place : Int) : Option Nat :=
  let up := tenTo (-place).toNat
  let down := 4 * scaledOne * tenTo place.toNat
  let exact := 4 * x.scaled * up
  let below := exact / down
  let above := below + 1
  let reads (c : Nat) := x.roundingInterval.contains (c * down) up
  match reads below, reads above with
  | false, false => none
  | true, false => some below
  | false, true => some above
  | true, true =>
    let toBelow := exact - below * down
    let toAbove := above * down - exact
    if toBelow < toAbove then some below
    else if toAbove < toBelow then some above
    else match tie with
      | .greater => some above
      | .even => some (below + below % 2)

/-- The shortest decimal of a positive magnitude. Seventeen digits always suffice. -/
def shortest (tie : Tie) (x : Double) : ScientificDecimal :=
  let leading := x.decimalExponent
  let attempt (n : Nat) : Option ScientificDecimal :=
    let place := leading - n
    (x.onGrid? tie place).map fun c =>
      let ds := Nat.toDigits 10 c
      ⟨(ds.reverse.dropWhile (· = '0')).reverse, place + (ds.length - 1)⟩
  ((List.range 17).findSome? attempt).getD ⟨['0'], 0⟩

end Double

end SqlSyntax
