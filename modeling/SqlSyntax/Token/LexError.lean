/-!
# Lexical errors

An error is a cause and the offset of the token, or of the comment, that cannot be read.
-/
namespace SqlSyntax

inductive LexCause where
  | openComment
  | openQuotedIdentifier
  | emptyQuotedIdentifier
  | openString
  | integerTooLarge (digits : String)
  | loneExclamation
  | unexpectedCharacter (c : Char)
  | other (message : String)
  deriving DecidableEq, Inhabited

def LexCause.message : LexCause → String
  | openComment => "Unterminated block comment"
  | openQuotedIdentifier => "Unterminated quoted identifier"
  | emptyQuotedIdentifier => "Empty quoted identifier"
  | openString => "Unterminated string literal"
  | integerTooLarge digits =>
    "Invalid integer literal " ++ digits ++ ": number too large to fit in target type"
  | loneExclamation => "Expected '=' after '!'"
  | unexpectedCharacter c => "Unexpected character '" ++ String.singleton c ++ "'"
  | other message => message

structure LexError where
  cause : LexCause
  position : Nat
  deriving DecidableEq, Inhabited

def LexError.text (e : LexError) : String :=
  e.cause.message ++ " at position " ++ toString e.position

end SqlSyntax
