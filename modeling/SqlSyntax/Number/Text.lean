import SqlSyntax.Number.Shortest

/-!
# Writing numbers

A style says when a number is written with an exponent and how. Numbers of the middle
range are written positionally, always with a digit after the point.
-/
namespace SqlSyntax

/-- Numbers whose first digit has an exponent from `leastPlain` to `mostPlain` are written
positionally; others as digits, `e`, and the exponent after `plus` or a minus sign. -/
structure NumberStyle where
  leastPlain : Int
  mostPlain : Int
  plus : String
  tie : Tie

/-- Positional from `0.0001` up to sixteen digits before the point. -/
def NumberStyle.standard : NumberStyle where
  leastPlain := -4
  mostPlain := 15
  plus := ""
  tie := .greater

namespace ScientificDecimal

/-- Zeros and a point put around the digits. -/
def positional (d : ScientificDecimal) : String :=
  match d.exponent with
  | .negSucc n => String.ofList ('0' :: '.' :: List.replicate n '0' ++ d.digits)
  | .ofNat n =>
    let whole := d.digits.take (n + 1)
    let fraction := d.digits.drop (n + 1)
    String.ofList (whole ++ List.replicate (n + 1 - whole.length) '0' ++ '.' ::
      (if fraction.isEmpty then ['0'] else fraction))

/-- One digit before the point, which is left out when no digit follows. -/
def scientific (plus : String) (d : ScientificDecimal) : String :=
  let mantissa := match d.digits with
    | c :: e :: ds => String.ofList (c :: '.' :: e :: ds)
    | ds => String.ofList ds
  match d.exponent with
  | .negSucc n => mantissa ++ "e-" ++ toString (n + 1)
  | .ofNat n => mantissa ++ "e" ++ plus ++ toString n

end ScientificDecimal

namespace Double

def signText (x : Double) : String := if x.isNegative then "-" else ""

/-- The text of a number. Not-a-number has no sign. -/
def text (style : NumberStyle) (x : Double) : String :=
  if x.isNaN then "NaN"
  else if !x.isFinite then x.signText ++ "inf"
  else if x.isZero then x.signText ++ "0.0"
  else
    let d := x.shortest style.tie
    x.signText ++
      if style.leastPlain ≤ d.exponent && d.exponent ≤ style.mostPlain then d.positional
      else d.scientific style.plus

/-- The exact value of a finite number rounded to one decimal place, a half to the even
digit. -/
def tenths (x : Double) : String :=
  let n := roundHalfEven (x.scaled * 10) scaledOne
  x.signText ++ toString (n / 10) ++ "." ++ toString (n % 10)

end Double

end SqlSyntax
