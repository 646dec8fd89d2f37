/-!
# Keywords

A keyword is a word of the language that cannot name a column or a table without
quotes. `NULL`, `TRUE` and `FALSE` are no keywords: they are literals.
-/
namespace SqlSyntax

inductive Keyword where
  | select | from | where | group | having | order | by | asc | desc | limit | offset
  | distinct | all | as
  | join | inner | left | right | full | outer | cross | on
  | insert | into | values | update | set | delete
  | create | table
  | and | or | not | is | in | between | like
  | count | sum | avg | min | max
  deriving DecidableEq, Inhabited

/-- The letters of ASCII in upper case, every other character as it is. -/
def upperAscii (word : String) : String := String.ofList (word.toList.map Char.toUpper)

namespace Keyword

/-- The word in upper case. -/
def text : Keyword → String
  | select => "SELECT"
  | .from => "FROM"
  | .where => "WHERE"
  | group => "GROUP"
  | having => "HAVING"
  | order => "ORDER"
  | .by => "BY"
  | asc => "ASC"
  | desc => "DESC"
  | limit => "LIMIT"
  | offset => "OFFSET"
  | distinct => "DISTINCT"
  | all => "ALL"
  | as => "AS"
  | join => "JOIN"
  | inner => "INNER"
  | left => "LEFT"
  | right => "RIGHT"
  | full => "FULL"
  | outer => "OUTER"
  | cross => "CROSS"
  | on => "ON"
  | insert => "INSERT"
  | into => "INTO"
  | values => "VALUES"
  | update => "UPDATE"
  | set => "SET"
  | delete => "DELETE"
  | create => "CREATE"
  | table => "TABLE"
  | and => "AND"
  | or => "OR"
  | not => "NOT"
  | is => "IS"
  | .in => "IN"
  | between => "BETWEEN"
  | like => "LIKE"
  | count => "COUNT"
  | sum => "SUM"
  | avg => "AVG"
  | min => "MIN"
  | max => "MAX"

/-- The word with only its first letter in upper case. -/
def name (k : Keyword) : String :=
  match k.text.toList with
  | [] => ""
  | c :: cs => String.ofList (c :: cs.map Char.toLower)

/-- The keywords, each once. -/
def list : List Keyword :=
  [select, .from, .where, group, having, order, .by, asc, desc, limit, offset, distinct, all, as,
    join, inner, left, right, full, outer, cross, on,
    insert, into, values, update, set, delete, create, table,
    and, or, not, is, .in, between, like, count, sum, avg, min, max]

theorem mem_list (k : Keyword) : k ∈ list := by cases k <;> decide

/-- The keyword that a word spells, in any case. -/
def ofWord? (word : String) : Option Keyword := list.find? fun k => k.text = upperAscii word

theorem upperAscii_of_ofWord? {word : String} {k : Keyword} (h : ofWord? word = some k) :
    upperAscii word = k.text := by
  unfold ofWord? at h
  have := List.find?_some h
  simpa [eq_comm] using this

end Keyword

end SqlSyntax
