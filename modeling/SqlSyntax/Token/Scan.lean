import SqlSyntax.Text.Alphabetic
import SqlSyntax.Text.Numeric
import SqlSyntax.Number.Reading
import SqlSyntax.Token.Basic
import SqlSyntax.Token.LexError

/-!
# Scanning one token

A scan splits a text that is not empty into the text of its first token and the rest. A
scan that fails reads text too: the next scan goes on after it.
-/
namespace SqlSyntax

structure Scan where
  kind : Except LexCause TokenKind
  text : List Char
  rest : List Char

namespace Scan

/-! ## Words -/

def isWordStart (c : Char) : Bool := isAlphabetic c || c = '_'

def isWordPart (c : Char) : Bool := isAlphabetic c || isNumeric c || c = '_'

/-- The kind of an unquoted word. -/
def wordKind (word : String) : TokenKind :=
  match Keyword.ofWord? word with
  | some k => .keyword k
  | none =>
    if upperAscii word = "NULL" then .literal .null
    else if upperAscii word = "TRUE" then .literal (.boolean true)
    else if upperAscii word = "FALSE" then .literal (.boolean false)
    else .identifier word

def word (c : Char) (cs : List Char) : Scan where
  kind := .ok (wordKind (String.ofList (c :: cs.takeWhile isWordPart)))
  text := c :: cs.takeWhile isWordPart
  rest := cs.dropWhile isWordPart

/-- An identifier between backticks, after the first one. It is never a keyword. -/
def quotedIdentifier (cs : List Char) : Scan :=
  let name := cs.takeWhile (· ≠ '`')
  match cs.dropWhile (· ≠ '`') with
  | [] => ⟨.error .openQuotedIdentifier, '`' :: cs, []⟩
  | _ :: rest =>
    { kind :=
        if name.isEmpty then .error .emptyQuotedIdentifier
        else .ok (.identifier (String.ofList name))
      text := '`' :: name ++ ['`']
      rest }

/-! ## Numbers -/

/-- The kind of a row of digits without a point, if its number fits in 64 bits with a
sign. -/
def integerKind (digits : List Char) : Except LexCause TokenKind :=
  if digitsValue digits ≤ 0x7FFFFFFFFFFFFFFF then
    .ok (.literal (.integer (Int64.ofNat (digitsValue digits))))
  else .error (.integerTooLarge (String.ofList digits))

/-- Digits, and if a point follows, the point and the digits after it, of which there may
be none. A second point does not belong to the number. -/
def number (c : Char) (cs : List Char) : Scan :=
  let whole := c :: cs.takeWhile Char.isDigit
  match cs.dropWhile Char.isDigit with
  | '.' :: rest =>
    let fraction := rest.takeWhile Char.isDigit
    { kind := .ok (.literal (.float (Double.ofDigits whole fraction)))
      text := whole ++ '.' :: fraction
      rest := rest.dropWhile Char.isDigit }
  | rest => ⟨integerKind whole, whole, rest⟩

/-! ## Strings -/

/-- What a backslash and a character stand for in a string. An escape without a meaning
stands for itself. -/
def escaped : Char → List Char
  | 'n' => ['\n']
  | 't' => ['\t']
  | 'r' => ['\r']
  | '0' => ['\x00']
  | '\\' => ['\\']
  | '\'' => ['\'']
  | '"' => ['"']
  | c => ['\\', c]

/-- A string after its opening quote: the value, the text up to and with the closing
quote, and the rest. -/
structure StringBody where
  value : List Char
  text : List Char
  rest : List Char

def StringBody.push (value text : List Char) (b : StringBody) : StringBody :=
  ⟨value ++ b.value, text ++ b.text, b.rest⟩

/-- Reads up to the first quote that is neither doubled nor escaped. -/
def stringBody? (quote : Char) : List Char → Option StringBody
  | [] => none
  | ['\\'] => none
  | '\\' :: c :: cs => (stringBody? quote cs).map (StringBody.push (escaped c) ['\\', c])
  | c :: cs =>
    if c = quote then
      match cs with
      | [] => some ⟨[], [quote], []⟩
      | d :: ds =>
        if d = quote then (stringBody? quote ds).map (StringBody.push [quote] [quote, quote])
        else some ⟨[], [quote], d :: ds⟩
    else (stringBody? quote cs).map (StringBody.push [c] [c])

/-- A string after its opening quote. -/
def string (quote : Char) (cs : List Char) : Scan :=
  match stringBody? quote cs with
  | none => ⟨.error .openString, quote :: cs, []⟩
  | some b => ⟨.ok (.literal (.string (String.ofList b.value))), quote :: b.text, b.rest⟩

/-! ## Signs -/

/-- Punctuation and operators, the longest that fits. A text that begins with `/*` is a
comment without an end, since trivia has been taken away. -/
def sign : Char → List Char → Scan
  | '(', cs => ⟨.ok .leftParen, ['('], cs⟩
  | ')', cs => ⟨.ok .rightParen, [')'], cs⟩
  | ',', cs => ⟨.ok .comma, [','], cs⟩
  | ';', cs => ⟨.ok .semicolon, [';'], cs⟩
  | '*', cs => ⟨.ok .star, ['*'], cs⟩
  | '.', cs => ⟨.ok .dot, ['.'], cs⟩
  | '+', cs => ⟨.ok (.operator .plus), ['+'], cs⟩
  | '-', cs => ⟨.ok (.operator .minus), ['-'], cs⟩
  | '/', '*' :: cs => ⟨.error .openComment, '/' :: '*' :: cs, []⟩
  | '/', cs => ⟨.ok (.operator .divide), ['/'], cs⟩
  | '=', cs => ⟨.ok (.operator .equals), ['='], cs⟩
  | '<', '=' :: cs => ⟨.ok (.operator .lessOrEqual), ['<', '='], cs⟩
  | '<', '>' :: cs => ⟨.ok (.operator .notEquals), ['<', '>'], cs⟩
  | '<', cs => ⟨.ok (.operator .lessThan), ['<'], cs⟩
  | '>', '=' :: cs => ⟨.ok (.operator .greaterOrEqual), ['>', '='], cs⟩
  | '>', cs => ⟨.ok (.operator .greaterThan), ['>'], cs⟩
  | '!', '=' :: cs => ⟨.ok (.operator .notEquals), ['!', '='], cs⟩
  | '!', cs => ⟨.error .loneExclamation, ['!'], cs⟩
  | c, cs => ⟨.error (.unexpectedCharacter c), [c], cs⟩

/-! ## Nothing is lost -/

@[simp] theorem word_append (c : Char) (cs : List Char) :
    (word c cs).text ++ (word c cs).rest = c :: cs := by
  simp [word]

@[simp] theorem quotedIdentifier_append (cs : List Char) :
    (quotedIdentifier cs).text ++ (quotedIdentifier cs).rest = '`' :: cs := by
  unfold quotedIdentifier
  split
  · simp
  · rename_i d rest h
    have hd : d = '`' := by
      have := List.head?_dropWhile_not (p := (· ≠ '`')) (l := cs)
      simp_all
    have := List.takeWhile_append_dropWhile (p := (· ≠ '`')) (l := cs)
    simp_all

@[simp] theorem number_append (c : Char) (cs : List Char) :
    (number c cs).text ++ (number c cs).rest = c :: cs := by
  unfold number
  have := List.takeWhile_append_dropWhile (p := Char.isDigit) (l := cs)
  split <;> simp_all

theorem stringBody?_append {quote : Char} {cs : List Char} {b : StringBody}
    (h : stringBody? quote cs = some b) : b.text ++ b.rest = cs := by
  fun_induction stringBody? quote cs generalizing b with
  | case1 => simp at h
  | case2 => simp at h
  | case3 c cs ih =>
    obtain ⟨b', hb, rfl⟩ := Option.map_eq_some_iff.mp h
    simp [StringBody.push, ih hb]
  | case4 => cases h; rfl
  | case5 =>
    rename_i ih
    obtain ⟨b', hb, rfl⟩ := Option.map_eq_some_iff.mp h
    simp_all [StringBody.push, ih hb]
  | case6 => cases h; rfl
  | case7 c cs _ _ _ ih =>
    obtain ⟨b', hb, rfl⟩ := Option.map_eq_some_iff.mp h
    simp [StringBody.push, ih hb]

@[simp] theorem string_append (quote : Char) (cs : List Char) :
    (string quote cs).text ++ (string quote cs).rest = quote :: cs := by
  unfold string
  split
  · simp
  · rename_i b h
    simp [stringBody?_append h]

@[simp] theorem sign_append (c : Char) (cs : List Char) :
    (sign c cs).text ++ (sign c cs).rest = c :: cs := by
  unfold sign
  split <;> simp

end Scan

/-- Scans the token that begins with `c`. -/
def scan (c : Char) (cs : List Char) : Scan :=
  if c = '\'' ∨ c = '"' then .string c cs
  else if c = '`' then .quotedIdentifier cs
  else if c.isDigit then .number c cs
  else if Scan.isWordStart c then .word c cs
  else .sign c cs

theorem scan_append (c : Char) (cs : List Char) :
    (scan c cs).text ++ (scan c cs).rest = c :: cs := by
  unfold scan
  split
  · simp
  split
  · simp_all
  split
  · simp
  split <;> simp

theorem scan_text_ne_nil (c : Char) (cs : List Char) : (scan c cs).text ≠ [] := by
  unfold scan
  split
  · unfold Scan.string; split <;> simp
  split
  · unfold Scan.quotedIdentifier; split <;> simp
  split
  · unfold Scan.number; split <;> simp
  split
  · simp [Scan.word]
  · unfold Scan.sign; split <;> simp

theorem scan_rest_length_le (c : Char) (cs : List Char) :
    (scan c cs).rest.length ≤ cs.length := by
  have h := congrArg List.length (scan_append c cs)
  have := List.length_pos_iff.mpr (scan_text_ne_nil c cs)
  simp only [List.length_append, List.length_cons] at h
  omega

end SqlSyntax
