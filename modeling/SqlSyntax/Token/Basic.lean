import SqlSyntax.Token.Span
import SqlSyntax.Token.Operator
import SqlSyntax.Token.Literal

/-!
# Tokens

A token is a kind with the span that it covers in the source. The kind carries all that
a parser reads; the span serves messages.
-/
namespace SqlSyntax

inductive TokenKind where
  | keyword (keyword : Keyword)
  | identifier (name : String)
  | operator (operator : Operator)
  | literal (value : Literal)
  | leftParen
  | rightParen
  | comma
  | semicolon
  | star
  | dot
  | endOfInput
  deriving DecidableEq, Inhabited

/-- The text of a kind in a message. -/
def TokenKind.text : TokenKind → String
  | .keyword k => "keyword " ++ k.text
  | .identifier name => "identifier " ++ name
  | .operator o => "operator " ++ o.text
  | .literal value => "literal " ++ value.text
  | .leftParen => "'('"
  | .rightParen => "')'"
  | .comma => "','"
  | .semicolon => "';'"
  | .star => "'*'"
  | .dot => "'.'"
  | .endOfInput => "end of input"

structure Token where
  kind : TokenKind
  span : Span
  deriving DecidableEq, Inhabited

namespace Token

def isEnd (t : Token) : Bool := t.kind = .endOfInput

def keyword? (t : Token) : Option Keyword :=
  match t.kind with
  | .keyword k => some k
  | _ => none

end Token

end SqlSyntax
