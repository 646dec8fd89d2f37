import SqlSyntax.Parser.Session
import SqlSyntax.Proofs.Nesting

/-!
# Calls of a session

Statements are parsed from one list of tokens by one call after another, each from the place
where the call before it stopped, whether or not that call failed. A session may also take from one
call into the next how many expressions and queries are open, and leave so many levels fewer to it.
-/
namespace SqlSyntax

/-- A statement that ends the input, or one that may be followed by others. -/
inductive Call where
  | parse
  | parseStatement
  deriving DecidableEq, Inhabited

def Call.parser (o : ParserOptions) : Call → Parser Statement
  | parse => .soleStatement o
  | parseStatement => .statement o

namespace Session

def call (s : Session) : Call → Except ParseError Statement × Session
  | .parse => s.parse
  | .parseStatement => s.parseStatement

/-- Where the session stands after some calls. -/
def after (s : Session) : List Call → Session
  | [] => s
  | c :: cs => (s.call c).2.after cs

/-- What the calls give. -/
def outcomes (s : Session) : List Call → List (Except ParseError Statement)
  | [] => []
  | c :: cs => (s.call c).1 :: (s.call c).2.outcomes cs

/-- What the calls open and close. -/
def history (s : Session) : List Call → List NestingEvent
  | [] => []
  | c :: cs => (c.parser s.options).history s.ahead ++ (s.call c).2.history cs

theorem call_eq_run (s : Session) (c : Call) : s.call c = s.run (c.parser s.options) := by
  cases c <;> rfl

end Session

/-! ## With a count -/

def Call.parserWith (n : Parser.Nested) : Call → Parser Statement
  | parse => .soleStatementWith n
  | parseStatement => .statementWith n

/-- A session, and how many expressions and queries are open in it. -/
structure CountedSession where
  session : Session
  count : Nat

namespace CountedSession

def start (tokens : List Token) (o : ParserOptions) : CountedSession := ⟨.start tokens o, 0⟩

/-- The call has the levels of nesting that are left, and counts on from where the call before it
stopped counting. -/
def call (s : CountedSession) (c : Call) : Except ParseError Statement × CountedSession :=
  let o := s.session.options
  let p := c.parserWith (Parser.nested o (o.maxDepth - s.count))
  let (outcome, session) := s.session.run p
  (outcome, ⟨session, openAfter s.count (p.history s.session.ahead)⟩)

def after (s : CountedSession) : List Call → CountedSession
  | [] => s
  | c :: cs => (s.call c).2.after cs

end CountedSession

end SqlSyntax
