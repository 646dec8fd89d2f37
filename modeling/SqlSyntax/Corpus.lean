import SqlSyntax.Source
import SqlSyntax.Text.Line

/-!
# Reports on a corpus of queries

A corpus has one query a line. Lines that are blank and lines that begin with `#` hold
none. The report counts the queries that parse and keeps the others with their errors.
-/
namespace SqlSyntax

/-- A query that does not parse. The error is kept as the text that is shown for it. -/
structure CorpusFailure where
  line : Nat
  query : String
  error : String
  deriving DecidableEq, Inhabited

structure CorpusReport where
  total : Nat
  passed : Nat
  failures : List CorpusFailure
  deriving DecidableEq, Inhabited

/-- The query on a line, without the blanks around it, if the line holds one. -/
def queryOf? (line : List Char) : Option String :=
  let query := trim line
  if query.isEmpty || query.head? = some '#' then none else some (String.ofList query)

namespace CorpusReport

def empty : CorpusReport := ⟨0, 0, []⟩

/-- Parses one more query, which stands on the line with the given number. -/
def record (r : CorpusReport) (options : ParserOptions) (line : Nat) (query : String) :
    CorpusReport :=
  match parseSource query options with
  | .ok _ => { r with total := r.total + 1, passed := r.passed + 1 }
  | .error error =>
    { r with total := r.total + 1, failures := r.failures ++ [⟨line, query, error.text⟩] }

/-- Goes on with lines, the first of which has the given number, up to a query beyond the limit.
A line without a query has a number but does not count. -/
def recordLines (options : ParserOptions) (limit : Option Nat) (r : CorpusReport) (number : Nat) :
    List (List Char) → CorpusReport
  | [] => r
  | line :: lines =>
    match queryOf? line with
    | none => r.recordLines options limit (number + 1) lines
    | some query =>
      if limit.any (· ≤ r.total) then r
      else (r.record options number query).recordLines options limit (number + 1) lines

/-- The report on the first queries of a corpus, as many as the limit allows. Lines are counted
from one. -/
def ofText (text : String) (options : ParserOptions) (limit : Option Nat) : CorpusReport :=
  empty.recordLines options limit 1 (lines text.toList)

def allPassed (r : CorpusReport) : Bool := r.passed = r.total

/-- How many in a hundred queries parse. Where there are none, all do. -/
def successRate (r : CorpusReport) : Double :=
  if r.total = 0 then .ofRatio 100 1 else .ofRatio (100 * r.passed) r.total

def text (r : CorpusReport) : String :=
  toString r.passed ++ "/" ++ toString r.total ++ " (" ++ r.successRate.tenths ++ "%)"

end CorpusReport

end SqlSyntax
