import SqlSyntax.Number.Double

/-!
# Reading decimal numbers
-/
namespace SqlSyntax

def digitValue (c : Char) : Nat := c.toNat - '0'.toNat

/-- The number that a row of decimal digits writes. -/
def digitsValue (ds : List Char) : Nat := ds.foldl (fun n d => 10 * n + digitValue d) 0

namespace Double

/-- The number nearest to the decimal `whole.fraction`. -/
def ofDigits (whole fraction : List Char) : Double :=
  ofDecimal (digitsValue (whole ++ fraction)) (-fraction.length)

def withoutSign : List Char → Bool × List Char
  | '-' :: cs => (true, cs)
  | '+' :: cs => (false, cs)
  | cs => (false, cs)

def exponent? : List Char → Option Int
  | [] => some 0
  | c :: cs =>
    let (negative, ds) := withoutSign cs
    if (c = 'e' || c = 'E') && !ds.isEmpty && ds.all Char.isDigit then
      some (if negative then -(digitsValue ds : Int) else digitsValue ds)
    else none

def magnitude? (cs : List Char) : Option Double :=
  if ["inf", "infinity"].contains (String.ofList (cs.map Char.toLower)) then some infinity
  else if cs.map Char.toLower = ['n', 'a', 'n'] then some nan
  else
    let whole := cs.takeWhile Char.isDigit
    let (fraction, rest) := match cs.dropWhile Char.isDigit with
      | '.' :: r => (r.takeWhile Char.isDigit, r.dropWhile Char.isDigit)
      | r => ([], r)
    if whole.isEmpty && fraction.isEmpty then none
    else (exponent? rest).map fun e =>
      ofDecimal (digitsValue (whole ++ fraction)) (e - fraction.length)

/-- Reads a sign, digits with at most one point among them, and an exponent; all but
one digit may be missing. The words `inf`, `infinity` and `nan` are read in any case. -/
def ofText? (text : String) : Option Double :=
  let (negative, cs) := withoutSign text.toList
  (magnitude? cs).map fun x => if negative then -x else x

end Double

end SqlSyntax
