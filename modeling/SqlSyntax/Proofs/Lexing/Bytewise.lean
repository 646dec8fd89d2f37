import SqlSyntax.Token.Lexer

/-!
# Reading tokens by byte offsets

A lexer that knows of its source only what stands at a byte offset: it looks at characters one by
one, and takes names and numbers out of the source as slices. A slice is invalid if it begins or
ends inside a character, or past the end. With one invalid slice there is no outcome at all, nor
is there one if a loop would stand still.
-/
namespace SqlSyntax

namespace Bytewise

variable (source : List Char)

/-! ## Characters at an offset -/

/-- The text from an offset on. -/
def textFrom (pos : Nat) : Option (List Char) := (splitBytes pos source).map Prod.snd

/-- The next character, of which there is none at the end. -/
def peek (pos : Nat) : Option (Option Char) := (textFrom source pos).map List.head?

/-- The character after the next one. -/
def peekNext (pos : Nat) : Option (Option Char) :=
  (textFrom source pos).map fun cs => cs.tail.head?

/-- The next character and the offset after it. -/
def advance (pos : Nat) : Option (Option Char × Nat) :=
  (peek source pos).map fun c? => (c?, pos + (c?.map Char.utf8Size).getD 0)

section

variable {source} {pos : Nat} {c : Char} {rest : List Char}

theorem textFrom_eq_some_iff :
    textFrom source pos = some rest ↔ ∃ a, source = a ++ rest ∧ byteSize a = pos := by
  constructor
  · intro h
    obtain ⟨⟨a, b⟩, hsplit, hb⟩ := Option.map_eq_some_iff.mp h
    cases hb
    obtain ⟨happend, ha⟩ := append_of_splitBytes hsplit
    exact ⟨a, happend.symm, ha⟩
  · rintro ⟨a, rfl, rfl⟩
    rw [textFrom, splitBytes_append]
    rfl

theorem textFrom_append {u : List Char} (h : textFrom source pos = some (u ++ rest)) :
    textFrom source (pos + byteSize u) = some rest := by
  obtain ⟨a, rfl, rfl⟩ := textFrom_eq_some_iff.mp h
  exact textFrom_eq_some_iff.mpr ⟨a ++ u, by simp, by simp⟩

theorem textFrom_cons (h : textFrom source pos = some (c :: rest)) :
    textFrom source (pos + c.utf8Size) = some rest := textFrom_append (u := [c]) h

theorem add_byteSize_of_textFrom (h : textFrom source pos = some rest) :
    pos + byteSize rest = byteSize source := by
  obtain ⟨a, rfl, rfl⟩ := textFrom_eq_some_iff.mp h
  simp

theorem slice?_of_textFrom {u : List Char} (h : textFrom source pos = some (u ++ rest)) :
    (⟨pos, pos + byteSize u⟩ : Span).slice? source = some u := by
  obtain ⟨a, rfl, rfl⟩ := textFrom_eq_some_iff.mp h
  exact Span.slice?_append a u rest

theorem peek_eq (h : textFrom source pos = some rest) : peek source pos = some rest.head? := by
  rw [peek, h]
  rfl

theorem peekNext_eq (h : textFrom source pos = some rest) :
    peekNext source pos = some rest.tail.head? := by
  rw [peekNext, h]
  rfl

theorem advance_nil (h : textFrom source pos = some []) :
    advance source pos = some (none, pos) := by
  rw [advance, peek_eq h]
  rfl

theorem advance_cons (h : textFrom source pos = some (c :: rest)) :
    advance source pos = some (some c, pos + c.utf8Size) := by
  rw [advance, peek_eq h]
  rfl

end

/-! ## Loops -/

/-- What a round of a loop leads to: another round, or the end of the loop. -/
inductive Round (α β : Type) where
  | again (a : α) (pos : Nat)
  | done (b : β) (pos : Nat)

/-- Rounds up to the last one, as long as every round reads something. -/
def loop {α β : Type} (round : α → Nat → Option (Round α β)) (a : α) (pos : Nat) :
    Option (β × Nat) :=
  match round a pos with
  | none => none
  | some (.done b stop) => some (b, stop)
  | some (.again a next) =>
    if pos < next ∧ next ≤ byteSize source then loop round a next else none
termination_by byteSize source - pos
decreasing_by omega

section

variable {source} {α β : Type} {round : α → Nat → Option (Round α β)} {a a' : α} {b : β}
  {pos next : Nat} {rest : List Char}

theorem loop_of_done (h : round a pos = some (.done b next)) :
    loop source round a pos = some (b, next) := by
  rw [loop, h]

/-- A round that has read some text is followed by the rounds after it. -/
theorem loop_of_again {u : List Char} (hu : u ≠ []) (htext : textFrom source pos = some (u ++ rest))
    (h : round a pos = some (.again a' (pos + byteSize u))) :
    loop source round a pos = loop source round a' (pos + byteSize u) := by
  have hsize := add_byteSize_of_textFrom (textFrom_append htext)
  have hpos := byteSize_pos hu
  rw [loop, h]
  exact if_pos ⟨by omega, by omega⟩

end

/-! ### Up to a character -/

def skipRound (p : Char → Bool) (_ : Unit) (pos : Nat) : Option (Round Unit Unit) := do
  match ← peek source pos with
  | none => return .done () pos
  | some c =>
    if p c then return .again () (← advance source pos).2
    else return .done () pos

/-- Goes on while the next character is of a class. -/
def skipWhile (p : Char → Bool) (pos : Nat) : Option Nat :=
  (loop source (skipRound source p) () pos).map Prod.snd

def nameRound (_ : Unit) (pos : Nat) : Option (Round Unit Bool) := do
  match ← advance source pos with
  | (none, stop) => return .done false stop
  | (some c, next) => if c = '`' then return .done true next else return .again () next

/-- Goes on after the next backtick, or to the end if there is none. -/
def nameEnd (pos : Nat) : Option (Bool × Nat) := loop source (nameRound source) () pos

def blockRound (_ : Unit) (pos : Nat) : Option (Round Unit Bool) := do
  match ← advance source pos with
  | (none, stop) => return .done false stop
  | (some c, next) =>
    if c = '*' then
      if (← peek source next) = some '/' then return .done true (← advance source next).2
      else return .again () next
    else return .again () next

/-- Goes on after the next `*/`, or to the end if there is none. -/
def blockEnd (pos : Nat) : Option (Bool × Nat) := loop source (blockRound source) () pos

def stringRound (quote : Char) (value : List Char) (pos : Nat) :
    Option (Round (List Char) (Option (List Char))) := do
  match ← advance source pos with
  | (none, stop) => return .done none stop
  | (some c, next) =>
    if c = quote then
      if (← peek source next) = some quote then
        return .again (value ++ [quote]) (← advance source next).2
      else return .done (some value) next
    else if c = '\\' then
      match ← advance source next with
      | (none, stop) => return .done none stop
      | (some d, after) => return .again (value ++ Scan.escaped d) after
    else return .again (value ++ [c]) next

/-- Goes on after the closing quote of a string, and gives the value; there is none if the end
comes first. -/
def stringEnd (quote : Char) (pos : Nat) : Option (Option (List Char) × Nat) :=
  loop source (stringRound source quote) [] pos

/-! ## Spacing and comments -/

/-- Goes on after a comment; there is an error if it is left open. -/
def commentRound (start : Nat) : Option (Round Unit (Option LexError)) := do
  let c? ← peek source start
  let d? ← peekNext source start
  if c? = some '-' ∧ d? = some '-' then
    return .again () (← skipWhile source (· ≠ '\n') start)
  else if c? = some '/' ∧ d? = some '*' then
    let (_, star) ← advance source start
    let (_, body) ← advance source star
    let (closed, stop) ← blockEnd source body
    return if closed then .again () stop else .done (some ⟨.openComment, start⟩) stop
  else return .done none start

def triviaRound (_ : Unit) (pos : Nat) : Option (Round Unit (Option LexError)) := do
  commentRound source (← skipWhile source isSpacing pos)

/-- Goes on after spacing and comments; or to the end, with an error, if one is not closed. -/
def trivia (pos : Nat) : Option (Option LexError × Nat) := loop source (triviaRound source) () pos

/-! ## Tokens -/

/-- A token up to an offset, or an error at its first byte. -/
def outcome (start stop : Nat) (kind : Except LexCause TokenKind) : Except LexError Token × Nat :=
  (match kind with
    | .ok kind => .ok ⟨kind, ⟨start, stop⟩⟩
    | .error cause => .error ⟨cause, start⟩, stop)

def word (start : Nat) : Option (Except LexError Token × Nat) := do
  let stop ← skipWhile source Scan.isWordPart start
  let text ← (⟨start, stop⟩ : Span).slice? source
  return outcome start stop (.ok (Scan.wordKind (String.ofList text)))

/-- The name is sliced without its backticks, of which the last one is one byte long. -/
def quotedIdentifier (start : Nat) : Option (Except LexError Token × Nat) := do
  let (_, first) ← advance source start
  let (closed, stop) ← nameEnd source first
  if closed then
    let name ← (⟨first, stop - 1⟩ : Span).slice? source
    return outcome start stop
      (if name.isEmpty then .error .emptyQuotedIdentifier
        else .ok (.identifier (String.ofList name)))
  else return outcome start stop (.error .openQuotedIdentifier)

/-- The kind of a number by its text, of which a point is in the middle or at the end. -/
def floatKind (text : List Char) : TokenKind :=
  .literal (.float
    (Double.ofDigits (text.takeWhile Char.isDigit) (text.dropWhile Char.isDigit).tail))

def number (start : Nat) : Option (Except LexError Token × Nat) := do
  let whole ← skipWhile source Char.isDigit start
  if (← peek source whole) = some '.' then
    let (_, fraction) ← advance source whole
    let stop ← skipWhile source Char.isDigit fraction
    let text ← (⟨start, stop⟩ : Span).slice? source
    return outcome start stop (.ok (floatKind text))
  else
    let text ← (⟨start, whole⟩ : Span).slice? source
    return outcome start whole (Scan.integerKind text)

def string (quote : Char) (start : Nat) : Option (Except LexError Token × Nat) := do
  let (_, first) ← advance source start
  match ← stringEnd source quote first with
  | (some value, stop) => return outcome start stop (.ok (.literal (.string (String.ofList value))))
  | (none, stop) => return outcome start stop (.error .openString)

/-- A sign by its first character and the next one, and whether the next one is a part of it. -/
def signOf : Char → Option Char → Bool × Except LexCause TokenKind
  | '(', _ => (false, .ok .leftParen)
  | ')', _ => (false, .ok .rightParen)
  | ',', _ => (false, .ok .comma)
  | ';', _ => (false, .ok .semicolon)
  | '*', _ => (false, .ok .star)
  | '.', _ => (false, .ok .dot)
  | '+', _ => (false, .ok (.operator .plus))
  | '-', _ => (false, .ok (.operator .minus))
  | '/', _ => (false, .ok (.operator .divide))
  | '=', _ => (false, .ok (.operator .equals))
  | '<', some '=' => (true, .ok (.operator .lessOrEqual))
  | '<', some '>' => (true, .ok (.operator .notEquals))
  | '<', _ => (false, .ok (.operator .lessThan))
  | '>', some '=' => (true, .ok (.operator .greaterOrEqual))
  | '>', _ => (false, .ok (.operator .greaterThan))
  | '!', some '=' => (true, .ok (.operator .notEquals))
  | '!', _ => (false, .error .loneExclamation)
  | c, _ => (false, .error (.unexpectedCharacter c))

def sign (c : Char) (start : Nat) : Option (Except LexError Token × Nat) := do
  let (_, next) ← advance source start
  let (twice, kind) := signOf c (← peek source next)
  if twice then return outcome start (← advance source next).2 kind
  else return outcome start next kind

/-- The token that begins with a character. -/
def token (c : Char) (start : Nat) : Option (Except LexError Token × Nat) :=
  if c = '\'' ∨ c = '"' then string source c start
  else if c = '`' then quotedIdentifier source start
  else if c.isDigit then number source start
  else if Scan.isWordStart c then word source start
  else sign source c start

/-- Reads one token. -/
def next (pos : Nat) : Option (Except LexError Token × Nat) := do
  match ← trivia source pos with
  | (some e, stop) => return (.error e, stop)
  | (none, start) =>
    match ← peek source start with
    | none => return (.ok ⟨.endOfInput, .point start⟩, start)
    | some c => token source c start

def tokenRound (tokens : List Token) (pos : Nat) :
    Option (Round (List Token) (Except LexError (List Token))) := do
  match ← next source pos with
  | (.error e, stop) => return .done (.error e) stop
  | (.ok t, stop) =>
    if t.isEnd then return .done (.ok (tokens ++ [t])) stop
    else return .again (tokens ++ [t]) stop

/-- Reads tokens up to the end marker, or up to the first error. -/
def tokenize (pos : Nat) : Option (Except LexError (List Token) × Nat) :=
  loop source (tokenRound source) [] pos

end Bytewise

end SqlSyntax
