import SqlSyntax.Token.Lexer
import SqlSyntax.Parser.Session

/-!
# Parsing source text
-/
namespace SqlSyntax

/-- Why a source is no statement. -/
inductive SourceError where
  | lex (error : LexError)
  | parse (error : ParseError)
  deriving DecidableEq, Inhabited

namespace SourceError

/-- The message, which names the stage that failed. -/
def text : SourceError → String
  | lex error => "Lexer error: " ++ error.text
  | parse error => "Parser error: " ++ error.text

/-- The byte of the source where the fault begins. -/
def offset : SourceError → Nat
  | lex error => error.position
  | parse error => error.span.start

end SourceError

/-- Parses a source that is one statement. -/
def parseSource (source : String) (options : ParserOptions) : Except SourceError Statement :=
  match tokenize source with
  | .error e => .error (.lex e)
  | .ok tokens =>
    match parseTokens tokens options with
    | .error e => .error (.parse e)
    | .ok statement => .ok statement

end SqlSyntax
