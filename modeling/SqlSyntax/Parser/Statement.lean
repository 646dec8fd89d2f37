import SqlSyntax.Parser.Select

/-!
# Parsers of statements
-/
namespace SqlSyntax

namespace Parser

variable (n : Nested)

/-- Something in parentheses. -/
def inParens {α : Type} (p : Parser α) : Parser α := do
  expect .leftParen
  let inner ← p
  expect .rightParen
  return inner

/-- A row of values, which has as many values as columns are listed, if any are. -/
def row (columns : Nat) : Parser (List Expr) :=
  validate (inParens (commaList n.expr)) fun values =>
    if columns = 0 || values.length = columns then none
    else some (.rowWidth values.length columns)

def insert : Parser Statement := do
  expect (.keyword .insert)
  expect (.keyword .into)
  let table ← identifier
  let columns ← after .leftParen
    (do
      let columns ← commaList identifier
      expect .rightParen
      return columns)
    []
  expect (.keyword .values)
  let rows ← commaList (row n columns.length)
  return .insert table columns rows

def assignment : Parser Assignment := do
  let column ← identifier
  expect (.operator .equals)
  return { column, value := ← n.expr }

def update : Parser Statement := do
  expect (.keyword .update)
  let table ← identifier
  expect (.keyword .set)
  let assignments ← commaList (assignment n)
  return .update table assignments (← conditionClause n .where)

def delete : Parser Statement := do
  expect (.keyword .delete)
  expect (.keyword .from)
  let table ← identifier
  return .delete table (← conditionClause n .where)

/-- One or two numbers after the name of a type, written without spaces; nothing if no
parenthesis follows. -/
def typeArguments : Parser String :=
  after .leftParen
    (do
      let first ← integer
      let second ← after .comma (return "," ++ toString (← integer).toInt) ""
      expect .rightParen
      return "(" ++ toString first.toInt ++ second ++ ")")
    ""

/-- An identifier that spells a word, in any case. -/
def word (text : String) : Parser Unit :=
  choose
    (fun
      | .identifier name => if upperAscii name = text then some (pure ()) else none
      | _ => none)
    (unexpected (.word text))

/-- Reads a column constraint from its second word on, if the kind is the first word. -/
def constraint? : TokenKind → Option (Parser String)
  | .identifier name =>
    if upperAscii name = "PRIMARY" then some (do word "KEY"; return " PRIMARY KEY") else none
  | .keyword .not => some (do expect (.literal .null); return " NOT NULL")
  | _ => none

def columnDef : Parser ColumnDef := do
  let name ← identifier
  let typeName ← choose (fun | .identifier name => some (pure name) | _ => none)
    (unexpected .dataType)
  let arguments ← typeArguments
  let constraints ← many constraint?
  return { name, dataType := typeName ++ arguments ++ String.join constraints }

def createTable : Parser Statement := do
  expect (.keyword .create)
  expect (.keyword .table)
  let table ← identifier
  return .createTable table (← inParens (commaList columnDef))

/-- One statement. What follows it is not looked at. -/
def statementWith : Parser Statement :=
  peek fun
    | some (.keyword .select) => return .select (← n.select)
    | some (.keyword .insert) => insert n
    | some (.keyword .update) => update n
    | some (.keyword .delete) => delete n
    | some (.keyword .create) => createTable
    | _ => unexpected .statement

/-- One statement, with or without a semicolon after it, and then the end. -/
def soleStatementWith : Parser Statement := do
  let statement ← statementWith n
  let _ ← skip .semicolon
  atEnd .endOfStatement
  return statement

variable (o : ParserOptions)

/-- With all the levels of nesting that are allowed. -/
def statement : Parser Statement := statementWith (nested o o.maxDepth)

def soleStatement : Parser Statement := soleStatementWith (nested o o.maxDepth)

end Parser

end SqlSyntax
