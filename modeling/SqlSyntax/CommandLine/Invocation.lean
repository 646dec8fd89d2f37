import SqlSyntax.Corpus
import SqlSyntax.CommandLine.Arguments
import SqlSyntax.CommandLine.Demonstration

/-!
# Invocations

The arguments decide what is read: nothing, the standard input or a file. What is written
depends on nothing else.
-/
namespace SqlSyntax.CommandLine

structure Outcome where
  exitCode : UInt8
  output : String
  errors : String
  deriving DecidableEq, Inhabited

inductive Invocation where
  | answer (outcome : Outcome)
  | withInput (use : String → Outcome)
  /-- The text of a file that cannot be read is absent. -/
  | withFile (file : String) (use : Option String → Outcome)

def versionText : String := "sqlfront 0.1.0\n"

def helpText : String :=
  "Usage: sqlfront [--parse | --corpus FILE [--limit N]] [--json] [--max-depth N]\n" ++
    "                [--strict-joins] [--verbose] [--version] [--help]\n"

/-- Parses the input as one statement. -/
def parseInput (json : Bool) (options : ParserOptions) (input : String) : Outcome :=
  match parseSource input options with
  | .ok statement => ⟨0, (if json then statementText true statement else "OK") ++ "\n", ""⟩
  | .error error => ⟨1, "", error.text ++ "\n"⟩

/-- Reports on a corpus. The exit code says whether every query parses. -/
def reportCorpus (options : ParserOptions) (limit : Option Nat) (file : String) :
    Option String → Outcome
  | none => ⟨1, "", "failed to read corpus " ++ file ++ "\n"⟩
  | some text =>
    let report := CorpusReport.ofText text options limit
    ⟨if report.allPassed then 0 else 1, report.text ++ "\n", ""⟩

/-- The nesting limit: the argument's, else that of the environment, else the default. -/
def nestingLimit (s : Settings) (environment : Option String) : Except UsageError Nat :=
  match s.maxDepth, environment with
  | some depth, _ => .ok depth
  | none, some text => readCount text
  | none, none => .ok { : ParserOptions }.maxDepth

/-- What settings ask for. -/
def invoke (s : Settings) (environment : Option String) : Except UsageError Invocation := do
  let maxDepth ← nestingLimit s environment
  s.check
  let options : ParserOptions := { maxDepth, allowJoinWithoutOn := !s.has .strictJoins }
  if s.has .parse then return .withInput (parseInput (s.has .json) options)
  match s.corpus with
  | some file => return .withFile file (reportCorpus options s.limit file)
  | none => return .answer ⟨0, demonstration (s.has .json) options, ""⟩

/-- What the arguments ask for. The environment may hold a nesting limit. -/
def Invocation.ofArguments (arguments : List String) (environment : Option String) :
    Invocation :=
  let result : Except UsageError Invocation := do
    match ← readArguments {} arguments with
    | .version => return .answer ⟨0, versionText, ""⟩
    | .help => return .answer ⟨0, helpText, ""⟩
    | .settings s => invoke s environment
  match result with
  | .ok invocation => invocation
  | .error error => .answer ⟨2, "", "error: " ++ error.text ++ "\n"⟩

end SqlSyntax.CommandLine
