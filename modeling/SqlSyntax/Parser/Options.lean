/-!
# Options of parsing
-/
namespace SqlSyntax

structure ParserOptions where
  /-- How many expressions and queries may be open inside one another. -/
  maxDepth : Nat := 64
  /-- Whether a join may lack its condition if another join follows at once. -/
  allowJoinWithoutOn : Bool := true
  deriving DecidableEq, Inhabited

end SqlSyntax
