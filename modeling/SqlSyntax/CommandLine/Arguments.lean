/-!
# Command line arguments

Arguments are read from left to right. A switch and a setting may be given once. The value
of a setting follows it as the next argument or after an equals sign. A request for the
version or for help is answered at once, whatever comes after it.
-/
namespace SqlSyntax.CommandLine

inductive Switch where
  | parse | json | strictJoins | verbose
  deriving DecidableEq, Inhabited

inductive Setting where
  | corpus | limit | maxDepth
  deriving DecidableEq, Inhabited

inductive Argument where
  | switch (switch : Switch)
  | setting (setting : Setting)
  | version
  | help
  deriving DecidableEq, Inhabited

inductive UsageError where
  | unknown (argument : String)
  | repeated (name : String)
  | missingValue (name : String)
  | needlessValue (name : String)
  | noNumber (text : String)
  | noFile
  | parseWithCorpus
  | limitWithoutCorpus
  deriving DecidableEq, Inhabited

def UsageError.text : UsageError → String
  | unknown argument => "unexpected argument '" ++ argument ++ "'"
  | repeated name => "the argument '--" ++ name ++ "' cannot be used more than once"
  | missingValue name => "the argument '--" ++ name ++ "' needs a value"
  | needlessValue name => "the argument '--" ++ name ++ "' takes no value"
  | noNumber text => "'" ++ text ++ "' is not a number"
  | noFile => "the argument '--corpus' needs the name of a file"
  | parseWithCorpus => "the argument '--parse' cannot be used with '--corpus'"
  | limitWithoutCorpus => "the argument '--limit' needs '--corpus'"

/-- What the arguments say. -/
structure Settings where
  switches : List Switch := []
  corpus : Option String := none
  limit : Option Nat := none
  maxDepth : Option Nat := none
  deriving DecidableEq, Inhabited

/-- The result of reading all arguments, or as many as are needed. -/
inductive Reading where
  | settings (settings : Settings)
  | version
  | help
  deriving DecidableEq, Inhabited

def Switch.name : Switch → String
  | parse => "parse"
  | json => "json"
  | strictJoins => "strict-joins"
  | verbose => "verbose"

def Setting.name : Setting → String
  | corpus => "corpus"
  | limit => "limit"
  | maxDepth => "max-depth"

def Argument.name : Argument → String
  | switch s => s.name
  | setting s => s.name
  | version => "version"
  | help => "help"

/-- What a long name, after its two hyphens, stands for. -/
def Argument.ofName? (name : String) : Option Argument :=
  [switch .parse, switch .json, switch .strictJoins, switch .verbose,
    setting .corpus, setting .limit, setting .maxDepth, version, help].find? (·.name = name)

/-- What a letter after one hyphen stands for. -/
def Argument.ofLetter? : Char → Option Argument
  | 'v' => some (switch .verbose)
  | 'V' => some version
  | 'h' => some help
  | _ => none

/-- A number that fits in 64 bits, with or without a plus sign. -/
def readCount (text : String) : Except UsageError Nat :=
  let digits := match text.toList with
    | '+' :: cs => cs
    | cs => cs
  let value := digits.foldl (fun n d => 10 * n + (d.toNat - '0'.toNat)) 0
  if !digits.isEmpty && digits.all Char.isDigit && value < UInt64.size then .ok value
  else .error (.noNumber text)

namespace Settings

def has (s : Settings) (w : Switch) : Bool := s.switches.contains w

def turnOn (s : Settings) (w : Switch) : Except UsageError Settings :=
  if s.has w then .error (.repeated w.name) else .ok { s with switches := w :: s.switches }

def assign (s : Settings) (value : String) : Setting → Except UsageError Settings
  | .corpus =>
    if s.corpus.isSome then .error (.repeated "corpus")
    else if value.isEmpty then .error .noFile
    else .ok { s with corpus := some value }
  | .limit =>
    if s.limit.isSome then .error (.repeated "limit")
    else do return { s with limit := some (← readCount value) }
  | .maxDepth =>
    if s.maxDepth.isSome then .error (.repeated "max-depth")
    else do return { s with maxDepth := some (← readCount value) }

end Settings

/-- A long argument without its hyphens, split at the first equals sign. -/
def splitValue (body : List Char) : String × Option String :=
  (String.ofList (body.takeWhile (· ≠ '=')),
    match body.dropWhile (· ≠ '=') with
    | [] => none
    | _ :: value => some (String.ofList value))

/-- Reads the letters of an argument with one hyphen. -/
def readLetters (s : Settings) : List Char → Except UsageError Reading
  | [] => .ok (.settings s)
  | c :: cs =>
    match Argument.ofLetter? c with
    | some .version => .ok .version
    | some .help => .ok .help
    | some (.switch w) => do readLetters (← s.turnOn w) cs
    | _ => .error (.unknown (String.singleton c))

/-- A value that is an argument of its own does not begin with a hyphen, unless it is one. -/
def isValue (text : String) : Bool := text = "-" || text.toList.head? ≠ some '-'

/-- Reads arguments on top of what earlier ones say. -/
def readArguments (s : Settings) : List String → Except UsageError Reading
  | [] => .ok (.settings s)
  | argument :: arguments =>
    match argument.toList with
    | ['-', '-'] =>
      match arguments with
      | [] => .ok (.settings s)
      | other :: _ => .error (.unknown other)
    | '-' :: '-' :: body =>
      let (name, value) := splitValue body
      match Argument.ofName? name, value with
      | none, _ => .error (.unknown argument)
      | some .version, none => .ok .version
      | some .help, none => .ok .help
      | some (.switch w), none => do readArguments (← s.turnOn w) arguments
      | some (.setting t), some value => do readArguments (← s.assign value t) arguments
      | some (.setting t), none =>
        match arguments with
        | [] => .error (.missingValue t.name)
        | value :: others =>
          if isValue value then do readArguments (← s.assign value t) others
          else .error (.missingValue t.name)
      | some _, some _ => .error (.needlessValue name)
    | '-' :: c :: cs => do
      match ← readLetters s (c :: cs) with
      | .settings s => readArguments s arguments
      | reading => return reading
    | _ => .error (.unknown argument)

/-- Settings that fit together. -/
def Settings.check (s : Settings) : Except UsageError Unit :=
  if s.has .parse && s.corpus.isSome then .error .parseWithCorpus
  else if s.limit.isSome && s.corpus.isNone then .error .limitWithoutCorpus
  else .ok ()

end SqlSyntax.CommandLine
