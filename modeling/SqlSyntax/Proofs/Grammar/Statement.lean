import SqlSyntax.Parser.Statement
import SqlSyntax.Proofs.Grammar.Expr

/-!
# The grammar of statements
-/
namespace SqlSyntax

namespace Grammar

/-! ## Queries -/

inductive Label : Language (Option String)
  | absent : Label [] none
  | bare (name : String) : Label [.identifier name] (some name)
  | marked (name : String) : Label [.keyword .as, .identifier name] (some name)

inductive Table : Language TableRef
  | mk (name : String) : Label u label → Table (.identifier name :: u) (.table name label)

/-- The words before the right table of a join. -/
inductive JoinWords : Language JoinType
  | plain : JoinWords [.keyword .join] .inner
  | inner : JoinWords [.keyword .inner, .keyword .join] .inner
  | left : Flag (.keyword .outer) u outer →
      JoinWords (.keyword .left :: (u ++ [.keyword .join])) .left
  | right : Flag (.keyword .outer) u outer →
      JoinWords (.keyword .right :: (u ++ [.keyword .join])) .right
  | full : Flag (.keyword .outer) u outer →
      JoinWords (.keyword .full :: (u ++ [.keyword .join])) .full
  | cross : JoinWords [.keyword .cross, .keyword .join] .cross

/-- A clause after its keyword, which may be left out with it. -/
inductive Clause (keyword : Keyword) (L : Language α) : Language (Option α)
  | absent : Clause keyword L [] none
  | present : L u a → Clause keyword L (.keyword keyword :: u) (some a)

/-- A list after a keyword and `BY`. -/
inductive ByClause (keyword : Keyword) (L : Language α) : Language (List α)
  | absent : ByClause keyword L [] []
  | present : CommaList L u as →
      ByClause keyword L (.keyword keyword :: .keyword .by :: u) as

inductive DistinctClause : Language Bool
  | absent : DistinctClause [] false
  | all : DistinctClause [.keyword .all] false
  | distinct : DistinctClause [.keyword .distinct] true

inductive RowCount : Language Nat
  | mk (n : Int64) : 0 ≤ n → RowCount [.literal (.integer n)] n.toInt.toNat

inductive Direction : Language OrderDirection
  | absent : Direction [] .ascending
  | asc : Direction [.keyword .asc] .ascending
  | desc : Direction [.keyword .desc] .descending

variable (lax : Bool) (g : Inner)

/-- A join without the table on its left. The condition of a `bare` one is left out, where
that is allowed. -/
inductive Join : (bare : Bool) → Language (JoinType × TableRef × Expr)
  | cross : JoinWords u .cross → Table v right →
      Join false (u ++ v) (.cross, right, .boolean true)
  | on : JoinWords u type → type ≠ .cross → Table v right → g.expr w condition →
      Join false (u ++ (v ++ .keyword .on :: w)) (type, right, condition)
  | bare : lax = true → JoinWords u type → type ≠ .cross → Table v right →
      Join true (u ++ v) (type, right, .boolean true)

/-- The joins after a table, grouped to the left. A bare one is followed by another. -/
inductive Joins : TableRef → Language TableRef
  | done : Joins left [] left
  | step : Join lax g bare u (type, right, condition) → (bare = true → v ≠ []) →
      Joins (.join left type right condition) v joined → Joins left (u ++ v) joined

inductive Source : Language TableRef
  | mk : Table u first → Joins lax g first v joined → Source (u ++ v) joined

/-- An entry of a select list. A star that comes first is the whole of it. -/
inductive Item : Language SelectItem
  | star : Item [.star] .allColumns
  | expr : g.expr u e → u.head? ≠ some .star → Label v label →
      Item (u ++ v) (.projected e label)

inductive OrderEntry : Language OrderBy
  | mk : g.expr u e → Direction v direction → OrderEntry (u ++ v) ⟨e, direction⟩

inductive Query : Language Select
  | mk : DistinctClause u₁ distinct → CommaList (Item g) u₂ columns →
      Clause .from (Source lax g) u₃ source → Clause .where g.expr u₄ condition →
      ByClause .group g.expr u₅ groupBy → Clause .having g.expr u₆ having →
      ByClause .order (OrderEntry g) u₇ orderBy → Clause .limit RowCount u₈ limit →
      Clause .offset RowCount u₉ offset →
      Query
        (.keyword .select :: (u₁ ++ (u₂ ++ (u₃ ++ (u₄ ++ (u₅ ++ (u₆ ++ (u₇ ++ (u₈ ++ u₉)))))))))
        { distinct, columns, source, condition, groupBy, having, orderBy, limit, offset }

/-- The expressions and queries with at most so many of them open at once. -/
def upTo : Nat → Inner
  | 0 => { expr := fun _ _ => False, select := fun _ _ => False }
  | depth + 1 => { expr := Disjunction (upTo depth), select := Query lax (upTo depth) }

/-! ## Other statements -/

inductive Name : Language String
  | mk (name : String) : Name [.identifier name] name

/-- The columns that values are given for; none if no brackets follow the table. -/
inductive Columns : Language (List String)
  | absent : Columns [] []
  | present : CommaList Name u names → Columns (.leftParen :: (u ++ [.rightParen])) names

inductive Row : Language (List Expr)
  | mk : CommaList g.expr u es → Row (.leftParen :: (u ++ [.rightParen])) es

inductive Assign : Language Assignment
  | mk (column : String) : g.expr u e →
      Assign (.identifier column :: .operator .equals :: u) ⟨column, e⟩

inductive TypeArguments : Language String
  | absent : TypeArguments [] ""
  | one (n : Int64) :
      TypeArguments [.leftParen, .literal (.integer n), .rightParen]
        ("(" ++ toString n.toInt ++ ")")
  | two (n m : Int64) :
      TypeArguments
        [.leftParen, .literal (.integer n), .comma, .literal (.integer m), .rightParen]
        ("(" ++ toString n.toInt ++ "," ++ toString m.toInt ++ ")")

/-- Constraints of a column, in any order and any number. -/
inductive Constraints : Language (List String)
  | done : Constraints [] []
  | primaryKey : upperAscii primary = "PRIMARY" → upperAscii key = "KEY" →
      Constraints u texts →
      Constraints (.identifier primary :: .identifier key :: u) (" PRIMARY KEY" :: texts)
  | notNull : Constraints u texts →
      Constraints (.keyword .not :: .literal .null :: u) (" NOT NULL" :: texts)

inductive Column : Language ColumnDef
  | mk (name typeName : String) : TypeArguments u arguments → Constraints v texts →
      Column (.identifier name :: .identifier typeName :: (u ++ v))
        ⟨name, typeName ++ arguments ++ String.join texts⟩

/-- The statements whose outermost expressions and queries are those given. -/
inductive Phrase : Language Statement
  | select : g.select u q → Phrase u (.select q)
  | insert (table : String) : Columns u columns → CommaList (Row g) v rows →
      (columns ≠ [] → ∀ row ∈ rows, row.length = columns.length) →
      Phrase (.keyword .insert :: .keyword .into :: .identifier table ::
          (u ++ .keyword .values :: v))
        (.insert table columns rows)
  | update (table : String) : CommaList (Assign g) u assignments →
      Clause .where g.expr v condition →
      Phrase (.keyword .update :: .identifier table :: .keyword .set :: (u ++ v))
        (.update table assignments condition)
  | delete (table : String) : Clause .where g.expr u condition →
      Phrase (.keyword .delete :: .keyword .from :: .identifier table :: u)
        (.delete table condition)
  | createTable (table : String) : CommaList Column u columns →
      Phrase (.keyword .create :: .keyword .table :: .identifier table :: .leftParen ::
          (u ++ [.rightParen]))
        (.createTable table columns)

/-- One statement, with or without a semicolon after it. -/
inductive Sole (depth : Nat) : Language Statement
  | plain : Phrase (upTo lax depth) u s → Sole depth u s
  | semicolon : Phrase (upTo lax depth) u s → Sole depth (u ++ [.semicolon]) s

end Grammar

end SqlSyntax
