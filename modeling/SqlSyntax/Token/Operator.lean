import SqlSyntax.Token.Keyword

/-!
# Operators

The signs of comparison and arithmetic, and the operators that are spelled as words.
-/
namespace SqlSyntax

inductive Operator where
  | equals | notEquals | lessThan | greaterThan | lessOrEqual | greaterOrEqual
  | plus | minus | multiply | divide
  | and | or
  | like
  deriving DecidableEq, Inhabited

namespace Operator

/-- The spelling that is written; `!=` is read as `<>` too. -/
def text : Operator → String
  | equals => "="
  | notEquals => "<>"
  | lessThan => "<"
  | greaterThan => ">"
  | lessOrEqual => "<="
  | greaterOrEqual => ">="
  | plus => "+"
  | minus => "-"
  | multiply => "*"
  | divide => "/"
  | and => "AND"
  | or => "OR"
  | like => "LIKE"

def name : Operator → String
  | equals => "Equals"
  | notEquals => "NotEquals"
  | lessThan => "LessThan"
  | greaterThan => "GreaterThan"
  | lessOrEqual => "LessOrEqual"
  | greaterOrEqual => "GreaterOrEqual"
  | plus => "Plus"
  | minus => "Minus"
  | multiply => "Multiply"
  | divide => "Divide"
  | and => "And"
  | or => "Or"
  | like => "Like"

def list : List Operator :=
  [equals, notEquals, lessThan, greaterThan, lessOrEqual, greaterOrEqual,
    plus, minus, multiply, divide, and, or, like]

theorem mem_list (o : Operator) : o ∈ list := by cases o <;> decide

/-- The operator of a spelling; words are read in any case. -/
def ofSpelling? (spelling : String) : Option Operator :=
  if spelling = "!=" then some notEquals else list.find? fun o => o.text = upperAscii spelling

/-- The six operators that compare by order or equality. -/
def isComparison : Operator → Bool
  | equals | notEquals | lessThan | greaterThan | lessOrEqual | greaterOrEqual => true
  | _ => false

end Operator

end SqlSyntax
