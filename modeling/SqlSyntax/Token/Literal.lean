import SqlSyntax.Number.Text

/-!
# Literal values
-/
namespace SqlSyntax

inductive Literal where
  | string (value : String)
  | integer (value : Int64)
  | float (value : Double)
  | boolean (value : Bool)
  | null
  deriving DecidableEq, Inhabited

/-- The text of a literal in a message. A string stands between quotes as it is, so a
quote in it is not doubled. -/
def Literal.text : Literal → String
  | .string s => "'" ++ s ++ "'"
  | .integer n => toString n.toInt
  | .float x => x.text .standard
  | .boolean true => "TRUE"
  | .boolean false => "FALSE"
  | .null => "NULL"

end SqlSyntax
