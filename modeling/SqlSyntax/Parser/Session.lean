import SqlSyntax.Parser.Statement

/-!
# Parsing tokens

A session is a place in a list of tokens from which statements are parsed, one call after
another. A call is given the kinds of all tokens from its place on. It leaves the session
where it stopped, which after a failure is at the blamed token, or after the row whose width
is wrong.
-/
namespace SqlSyntax

structure Session where
  tokens : List Token
  cursor : Nat
  options : ParserOptions

namespace Session

def start (tokens : List Token) (options : ParserOptions) : Session := ⟨tokens, 0, options⟩

/-- The span of a token; past the last one the empty span at the start of the source. -/
def spanAt (s : Session) (position : Nat) : Span :=
  match s.tokens[position]? with
  | some t => t.span
  | none => .point 0

/-- The kinds from the cursor on. -/
def ahead (s : Session) : List TokenKind := (s.tokens.drop s.cursor).map Token.kind

/-- Runs a parser from the cursor on. The index of a token follows from how many kinds are
left where it stands. -/
def run {α : Type} (s : Session) (p : Parser α) : Except ParseError α × Session :=
  let place (rest : List TokenKind) : Nat := s.cursor + (s.ahead.length - rest.length)
  match p.run s.ahead with
  | .ok (a, rest) => (.ok a, { s with cursor := place rest })
  | .error f =>
    let position := place f.blamed
    (.error ⟨f.cause, s.spanAt position, position⟩, { s with cursor := place f.rest })

theorem run_of_ok {α : Type} {s : Session} {p : Parser α} {a : α} {rest : List TokenKind}
    (h : p.run s.ahead = .ok (a, rest)) :
    s.run p = (.ok a, { s with cursor := s.cursor + (s.ahead.length - rest.length) }) := by
  simp only [run, h]

theorem run_of_error {α : Type} {s : Session} {p : Parser α} {f : Failure}
    (h : p.run s.ahead = .error f) :
    (s.run p).1 = .error ⟨f.cause, s.spanAt (s.cursor + (s.ahead.length - f.blamed.length)),
      s.cursor + (s.ahead.length - f.blamed.length)⟩ := by
  simp only [run, h]

/-- Parses one statement that ends the input, with or without a semicolon. -/
def parse (s : Session) : Except ParseError Statement × Session :=
  s.run (.soleStatement s.options)

/-- Parses one statement and leaves the tokens after it. -/
def parseStatement (s : Session) : Except ParseError Statement × Session :=
  s.run (.statement s.options)

end Session

/-- Parses tokens that are one statement. -/
def parseTokens (tokens : List Token) (options : ParserOptions) : Except ParseError Statement :=
  (Session.start tokens options).parse.1

end SqlSyntax
