import SqlSyntax.Source
import SqlSyntax.Outline.Tree

/-!
# A demonstration

Some queries, each followed by its tree.
-/
namespace SqlSyntax.CommandLine

def demonstrationQueries : List String :=
  ["SELECT * FROM users",
    "SELECT id, name FROM users WHERE age > 18 AND status = 'active'",
    "SELECT u.name, COUNT(*) AS orders FROM users u " ++
      "LEFT JOIN orders o ON u.id = o.user_id GROUP BY u.name HAVING COUNT(*) > 5",
    "SELECT name FROM users WHERE id NOT IN (SELECT user_id FROM banned) " ++
      "ORDER BY name DESC LIMIT 10 OFFSET 5",
    "INSERT INTO users (name, age) VALUES ('Alice', 30), ('Bob', 25)",
    "UPDATE users SET age = age + 1 WHERE name LIKE 'A%'",
    "DELETE FROM users WHERE last_login IS NULL",
    "CREATE TABLE users (id INTEGER PRIMARY KEY, name VARCHAR(255) NOT NULL)"]

def statementText (json : Bool) (s : Statement) : String :=
  if json then s.outline.json else s.outline.indented

/-- A query with its tree or its error, and an empty line. -/
def demonstrate (json : Bool) (options : ParserOptions) (query : String) : String :=
  query ++ "\n" ++
    (match parseSource query options with
      | .ok statement => statementText json statement
      | .error error => "  " ++ error.text) ++ "\n\n"

def demonstration (json : Bool) (options : ParserOptions) : String :=
  String.join (demonstrationQueries.map (demonstrate json options))

end SqlSyntax.CommandLine
