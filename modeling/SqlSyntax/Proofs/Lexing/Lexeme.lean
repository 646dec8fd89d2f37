import SqlSyntax.Proofs.Lexing.Gap
import SqlSyntax.Token.Scan

/-!
# The texts of tokens

Which text is which token: words, identifiers in backticks, numbers, strings and signs. With each
text stand the characters that would go on from it. What is scanned is such a text with nothing
after it that goes on, and every such text is scanned wherever nothing after it goes on.
-/
namespace SqlSyntax

/-- What comes next does not go on. -/
def Stops (goesOn : Char → Bool) (rest : List Char) : Prop := ∀ c ∈ rest.head?, goesOn c = false

theorem digitsValue_eq (digits : List Char) : digitsValue digits = Nat.ofDigitChars 10 digits 0 :=
  rfl

def IsQuote (c : Char) : Prop := c = '\'' ∨ c = '"'

theorem IsQuote.ne_backslash {c : Char} (h : IsQuote c) : c ≠ '\\' := by
  rintro rfl
  obtain h | h := h <;> exact absurd h (by decide)

/-- What stands between the quotes of a string, and its value. -/
inductive StringText (quote : Char) : (text value : List Char) → Prop
  | nil : StringText quote [] []
  | plain : c ≠ quote → c ≠ '\\' → StringText quote text value →
      StringText quote (c :: text) (c :: value)
  | doubled : StringText quote text value →
      StringText quote (quote :: quote :: text) (quote :: value)
  | escape : StringText quote text value →
      StringText quote ('\\' :: c :: text) (Scan.escaped c ++ value)

/-- The signs and what they are. -/
def signs : List (List Char × TokenKind) :=
  [(['('], .leftParen), ([')'], .rightParen), ([','], .comma), ([';'], .semicolon),
    (['*'], .star), (['.'], .dot),
    (['+'], .operator .plus), (['-'], .operator .minus), (['/'], .operator .divide),
    (['='], .operator .equals), (['<'], .operator .lessThan), (['>'], .operator .greaterThan),
    (['<', '='], .operator .lessOrEqual), (['>', '='], .operator .greaterOrEqual),
    (['<', '>'], .operator .notEquals), (['!', '='], .operator .notEquals)]

/-- The characters that would make another sign or a comment of a sign. -/
def signGoesOn : List Char → List Char
  | ['-'] => ['-']
  | ['/'] => ['*']
  | ['<'] => ['=', '>']
  | ['>'] => ['=']
  | _ => []

/-- A text that is a token of the kind, and the characters that would go on from it. -/
inductive Lexeme : (text : List Char) → TokenKind → (goesOn : Char → Bool) → Prop
  | word : Scan.isWordStart c = true → (∀ d ∈ cs, Scan.isWordPart d = true) →
      Lexeme (c :: cs) (Scan.wordKind (String.ofList (c :: cs))) Scan.isWordPart
  | quotedIdentifier : name ≠ [] → '`' ∉ name →
      Lexeme ('`' :: (name ++ ['`'])) (.identifier (String.ofList name)) fun _ => false
  | integer : c.isDigit = true → (∀ d ∈ cs, d.isDigit = true) →
      digitsValue (c :: cs) ≤ 0x7FFFFFFFFFFFFFFF →
      Lexeme (c :: cs) (.literal (.integer (Int64.ofNat (digitsValue (c :: cs)))))
        fun d => d.isDigit || d = '.'
  | float : c.isDigit = true → (∀ d ∈ cs, d.isDigit = true) → (∀ d ∈ fraction, d.isDigit = true) →
      Lexeme (c :: (cs ++ '.' :: fraction)) (.literal (.float (Double.ofDigits (c :: cs) fraction)))
        Char.isDigit
  | string : IsQuote quote → StringText quote text value →
      Lexeme (quote :: (text ++ [quote])) (.literal (.string (String.ofList value)))
        fun d => d = quote
  | sign : (text, kind) ∈ signs → Lexeme text kind (signGoesOn text).contains

namespace Scan

/-! ### Words -/

theorem word_append_eq {c : Char} {cs rest : List Char} (hcs : ∀ d ∈ cs, isWordPart d = true)
    (hrest : Stops isWordPart rest) :
    word c (cs ++ rest) = ⟨.ok (wordKind (String.ofList (c :: cs))), c :: cs, rest⟩ := by
  obtain ⟨htake, hdrop⟩ := takeWhile_dropWhile_append hcs hrest
  simp only [word, htake, hdrop]

theorem word_lexeme {c : Char} (hc : isWordStart c = true) (cs : List Char) :
    Lexeme (word c cs).text (wordKind (String.ofList (word c cs).text)) isWordPart ∧
      Stops isWordPart (word c cs).rest :=
  ⟨.word hc (List.all_eq_true.mp List.all_takeWhile), eq_false_of_mem_head?_dropWhile _ cs⟩

/-! ### Quoted identifiers -/

theorem quotedIdentifier_eq {name : List Char} (hname : '`' ∉ name) (rest : List Char) :
    quotedIdentifier (name ++ '`' :: rest) =
      { kind :=
          if name.isEmpty then .error .emptyQuotedIdentifier
          else .ok (.identifier (String.ofList name))
        text := '`' :: (name ++ ['`'])
        rest } := by
  obtain ⟨htake, hdrop⟩ := takeWhile_dropWhile_append (p := (· ≠ '`')) (v := '`' :: rest)
    (fun c hc => decide_eq_true fun h => hname (h ▸ hc)) (by simp)
  simp only [quotedIdentifier, htake, hdrop]
  rfl

/-- An identifier goes up to the first backtick. -/
theorem exists_of_quotedIdentifier_ok {cs : List Char} {kind : TokenKind}
    (h : (quotedIdentifier cs).kind = .ok kind) :
    ∃ name rest, cs = name ++ '`' :: rest ∧ '`' ∉ name := by
  have happend := List.takeWhile_append_dropWhile (p := (· ≠ '`')) (l := cs)
  cases hdrop : cs.dropWhile (· ≠ '`') with
  | nil =>
    simp only [quotedIdentifier, hdrop] at h
    cases h
  | cons c rest =>
    rw [hdrop] at happend
    obtain rfl : c = '`' := eq_of_mem_head?_dropWhile_ne cs c (by rw [hdrop]; rfl)
    exact ⟨_, rest, happend.symm, notMem_takeWhile_ne _ cs⟩

theorem quotedIdentifier_lexeme {cs : List Char} {kind : TokenKind}
    (h : (quotedIdentifier cs).kind = .ok kind) :
    Lexeme (quotedIdentifier cs).text kind fun _ => false := by
  obtain ⟨name, after, rfl, hname⟩ := exists_of_quotedIdentifier_ok h
  rw [quotedIdentifier_eq hname] at h ⊢
  cases name with
  | nil => cases h
  | cons c name =>
    cases h
    exact .quotedIdentifier (List.cons_ne_nil c name) hname

/-! ### Numbers -/

theorem number_of_point {c : Char} {cs rest : List Char}
    (h : cs.dropWhile Char.isDigit = '.' :: rest) :
    number c cs =
      { kind := .ok (.literal (.float
          (Double.ofDigits (c :: cs.takeWhile Char.isDigit) (rest.takeWhile Char.isDigit))))
        text := c :: (cs.takeWhile Char.isDigit ++ '.' :: rest.takeWhile Char.isDigit)
        rest := rest.dropWhile Char.isDigit } := by
  simp only [number, h]
  rfl

theorem number_of_no_point {c : Char} {cs : List Char}
    (h : ∀ rest, cs.dropWhile Char.isDigit ≠ '.' :: rest) :
    number c cs =
      { kind := integerKind (c :: cs.takeWhile Char.isDigit)
        text := c :: cs.takeWhile Char.isDigit
        rest := cs.dropWhile Char.isDigit } := by
  unfold number
  split
  · rename_i rest hdrop
    exact absurd hdrop (h rest)
  · rfl

theorem integerKind_of_lt {digits : List Char} (h : 0x7FFFFFFFFFFFFFFF < digitsValue digits) :
    integerKind digits = .error (.integerTooLarge (String.ofList digits)) :=
  if_neg (Nat.not_le_of_lt h)

/-- What comes after the digits goes on from no number, unless it is a point. -/
theorem stops_of_no_point {cs : List Char} (h : ∀ rest, cs.dropWhile Char.isDigit ≠ '.' :: rest) :
    Stops (fun d => d.isDigit || d = '.') (cs.dropWhile Char.isDigit) := by
  intro d hd
  rw [Bool.or_eq_false_iff]
  refine ⟨eq_false_of_mem_head?_dropWhile _ cs d hd, decide_eq_false ?_⟩
  rintro rfl
  obtain ⟨rest, hrest⟩ := List.head?_eq_some_iff.mp hd
  exact h rest hrest

theorem integerKind_eq_ok_iff {digits : List Char} {kind : TokenKind} :
    integerKind digits = .ok kind ↔ digitsValue digits ≤ 0x7FFFFFFFFFFFFFFF ∧
      kind = .literal (.integer (Int64.ofNat (digitsValue digits))) := by
  unfold integerKind
  split
  · rename_i hle
    rw [Except.ok.injEq, eq_comm]
    exact (and_iff_right hle).symm
  · rename_i hle
    exact ⟨nofun, fun h => absurd h.1 hle⟩

theorem number_integer {c : Char} {cs rest : List Char} (hcs : ∀ d ∈ cs, d.isDigit = true)
    (hrest : Stops (fun d => d.isDigit || d = '.') rest) :
    number c (cs ++ rest) = ⟨integerKind (c :: cs), c :: cs, rest⟩ := by
  obtain ⟨htake, hdrop⟩ := takeWhile_dropWhile_append hcs fun d hd =>
    (Bool.or_eq_false_iff.mp (hrest d hd)).1
  have hpoint : ∀ after, rest ≠ '.' :: after := by
    rintro after rfl
    exact absurd (hrest '.' rfl) (by decide)
  rw [number_of_no_point (by rwa [hdrop]), htake, hdrop]

theorem number_float {c : Char} {cs fraction rest : List Char} (hcs : ∀ d ∈ cs, d.isDigit = true)
    (hfraction : ∀ d ∈ fraction, d.isDigit = true) (hrest : Stops Char.isDigit rest) :
    number c (cs ++ '.' :: (fraction ++ rest)) =
      { kind := .ok (.literal (.float (Double.ofDigits (c :: cs) fraction)))
        text := c :: (cs ++ '.' :: fraction)
        rest } := by
  obtain ⟨htake, hdrop⟩ := takeWhile_dropWhile_append (v := '.' :: (fraction ++ rest)) hcs
    (by simp)
  obtain ⟨hfraction, hlast⟩ := takeWhile_dropWhile_append hfraction hrest
  rw [number_of_point hdrop, htake, hfraction, hlast]

theorem number_lexeme {c : Char} {cs : List Char} {kind : TokenKind} (hc : c.isDigit = true)
    (h : (number c cs).kind = .ok kind) :
    ∃ goesOn, Lexeme (number c cs).text kind goesOn ∧ Stops goesOn (number c cs).rest := by
  have hdigits (u : List Char) : ∀ d ∈ u.takeWhile Char.isDigit, d.isDigit = true :=
    List.all_eq_true.mp List.all_takeWhile
  by_cases hpoint : ∃ after, cs.dropWhile Char.isDigit = '.' :: after
  · obtain ⟨after, hafter⟩ := hpoint
    rw [number_of_point hafter] at h ⊢
    cases h
    exact ⟨_, .float hc (hdigits cs) (hdigits after), eq_false_of_mem_head?_dropWhile _ after⟩
  · rw [not_exists] at hpoint
    rw [number_of_no_point hpoint] at h ⊢
    obtain ⟨hle, rfl⟩ := integerKind_eq_ok_iff.mp h
    exact ⟨_, .integer hc (hdigits cs) hle, stops_of_no_point hpoint⟩

/-! ### Strings -/

/-- A quote closes a string if no quote follows it. -/
theorem stringBody?_closing {quote : Char} (hback : quote ≠ '\\') {rest : List Char}
    (hrest : Stops (fun d => d = quote) rest) :
    stringBody? quote (quote :: rest) = some ⟨[], [quote], rest⟩ := by
  cases rest with
  | nil => simp [stringBody?, hback]
  | cons d rest =>
    have hd : d ≠ quote := of_decide_eq_false (hrest d rfl)
    simp [stringBody?, hback, hd]

theorem stringBody?_cons_of_ne {quote c : Char} (hback : c ≠ '\\') (hc : c ≠ quote)
    (cs : List Char) :
    stringBody? quote (c :: cs) = (stringBody? quote cs).map (StringBody.push [c] [c]) := by
  rw [stringBody?.eq_def]
  split <;> rename_i heq <;> cases heq
  · exact absurd rfl hback
  · exact absurd rfl hback
  · exact if_neg hc

theorem stringBody?_append_quote {quote : Char} (hback : quote ≠ '\\') {text value : List Char}
    (h : StringText quote text value) {rest : List Char}
    (hrest : Stops (fun d => d = quote) rest) :
    stringBody? quote (text ++ quote :: rest) = some ⟨value, text ++ [quote], rest⟩ := by
  induction h with
  | nil => exact stringBody?_closing hback hrest
  | plain hc hescape _ ih =>
    rw [List.cons_append, stringBody?_cons_of_ne hescape hc, ih]
    rfl
  | doubled _ ih => simp [stringBody?, hback, ih, StringBody.push]
  | escape _ ih => simp [stringBody?, ih, StringBody.push]

theorem exists_stringText {quote : Char} {cs : List Char} {b : StringBody}
    (h : stringBody? quote cs = some b) :
    ∃ text, StringText quote text b.value ∧ b.text = text ++ [quote] ∧
      Stops (fun d => d = quote) b.rest := by
  fun_induction stringBody? quote cs generalizing b with
  | case1 | case2 => cases h
  | case3 c cs ih =>
    obtain ⟨b, hb, rfl⟩ := Option.map_eq_some_iff.mp h
    obtain ⟨text, htext, heq, hrest⟩ := ih hb
    exact ⟨_, .escape htext, congrArg ('\\' :: c :: ·) heq, hrest⟩
  | case4 =>
    cases h
    exact ⟨[], .nil, rfl, by simp [Stops]⟩
  | case5 cs _ _ ih =>
    obtain ⟨b, hb, rfl⟩ := Option.map_eq_some_iff.mp h
    obtain ⟨text, htext, heq, hrest⟩ := ih hb
    exact ⟨_, .doubled htext, congrArg (quote :: quote :: ·) heq, hrest⟩
  | case6 d ds hd =>
    cases h
    exact ⟨[], .nil, rfl, by simpa [Stops] using hd⟩
  | case7 c cs hlast hescape hc ih =>
    obtain ⟨b, hb, rfl⟩ := Option.map_eq_some_iff.mp h
    obtain ⟨text, htext, heq, hrest⟩ := ih hb
    have hescaped : c ≠ '\\' := fun he => by
      cases cs with
      | nil => exact hlast he rfl
      | cons d ds => exact hescape d ds he rfl
    exact ⟨_, .plain hc hescaped htext, congrArg (c :: ·) heq, hrest⟩

theorem string_lexeme {quote : Char} (hquote : IsQuote quote) {cs : List Char} {kind : TokenKind}
    (h : (string quote cs).kind = .ok kind) :
    ∃ goesOn, Lexeme (string quote cs).text kind goesOn ∧
      Stops goesOn (string quote cs).rest := by
  unfold string at h ⊢
  split at h
  · cases h
  · rename_i b hb
    cases h
    obtain ⟨text, htext, heq, hrest⟩ := exists_stringText hb
    rw [heq]
    exact ⟨_, .string hquote htext, hrest⟩

/-! ### Signs -/

theorem sign_lexeme {c : Char} {cs : List Char} {kind : TokenKind}
    (h : (sign c cs).kind = .ok kind) :
    ∃ goesOn, Lexeme (sign c cs).text kind goesOn ∧
      (splitComment? (c :: cs) = none → Stops goesOn (sign c cs).rest) := by
  unfold sign at h ⊢
  split at h <;> cases h
  all_goals refine ⟨_, .sign (by simp [signs]), fun hcomment d hd => ?_⟩
  -- nothing goes on from most of the signs
  all_goals try rfl
  all_goals obtain ⟨rest, rfl⟩ := List.head?_eq_some_iff.mp hd
  case h_8.refl => simpa [signGoesOn] using fun h : d = '-' => by simp [splitComment?, h] at hcomment
  case h_10.refl hstar => simpa [signGoesOn] using fun h : d = '*' => hstar rest (h ▸ rfl)
  case h_14.refl hequals hgreater =>
    simpa [signGoesOn] using
      ⟨fun h : d = '=' => hequals rest (h ▸ rfl), fun h : d = '>' => hgreater rest (h ▸ rfl)⟩
  case h_16.refl hequals => simpa [signGoesOn] using fun h : d = '=' => hequals rest (h ▸ rfl)

theorem isWordStart_eq_false_of_isDigit {c : Char} (h : c.isDigit = true) :
    isWordStart c = false := by
  have hunderscore : c ≠ '_' := by
    rintro rfl
    exact absurd h (by decide)
  simp [isWordStart, isAlphabetic, isAscii_of_isDigit h, isAlpha_eq_false_of_isDigit h,
    hunderscore]

end Scan

/-! ## Scans -/

theorem scan_eq (c : Char) :
    scan c =
      if c = '\'' ∨ c = '"' then Scan.string c
      else if c = '`' then Scan.quotedIdentifier
      else if c.isDigit then Scan.number c
      else if Scan.isWordStart c then Scan.word c
      else Scan.sign c := by
  funext cs
  unfold scan
  split
  · rfl
  split
  · rfl
  split
  · rfl
  split <;> rfl

theorem scan_quote {c : Char} (h : IsQuote c) : scan c = Scan.string c := by
  unfold IsQuote at h
  rw [scan_eq, if_pos h]

theorem scan_tick : scan '`' = Scan.quotedIdentifier := scan_eq '`'

theorem scan_digit {c : Char} (h : c.isDigit = true) : scan c = Scan.number c := by
  have hquote : ¬(c = '\'' ∨ c = '"') := by
    rintro (rfl | rfl) <;> exact absurd h (by decide)
  have htick : c ≠ '`' := by
    rintro rfl
    exact absurd h (by decide)
  rw [scan_eq, if_neg hquote, if_neg htick, if_pos h]

theorem scan_wordStart {c : Char} (h : Scan.isWordStart c = true) : scan c = Scan.word c := by
  have hquote : ¬(c = '\'' ∨ c = '"') := by
    rintro (rfl | rfl) <;> exact absurd h (by decide)
  have htick : c ≠ '`' := by
    rintro rfl
    exact absurd h (by decide)
  have hdigit : ¬c.isDigit = true := fun hd =>
    absurd (Scan.isWordStart_eq_false_of_isDigit hd) (by simp [h])
  rw [scan_eq, if_neg hquote, if_neg htick, if_neg hdigit, if_pos h]

theorem scan_eq_sign {c : Char} (hquote : ¬(c = '\'' ∨ c = '"')) (htick : c ≠ '`')
    (hdigit : ¬c.isDigit = true) (hword : ¬Scan.isWordStart c = true) : scan c = Scan.sign c := by
  rw [scan_eq, if_neg hquote, if_neg htick, if_neg hdigit, if_neg hword]

theorem exists_scan_eq_of_mem_signs {text : List Char} {kind : TokenKind}
    (h : (text, kind) ∈ signs) : ∃ c cs, text = c :: cs ∧
      ∀ rest, Stops (signGoesOn text).contains rest →
        scan c (cs ++ rest) = ⟨.ok kind, text, rest⟩ := by
  simp only [signs, List.mem_cons, Prod.mk.injEq, List.not_mem_nil, or_false] at h
  rcases h with ⟨rfl, rfl⟩ | ⟨rfl, rfl⟩ | ⟨rfl, rfl⟩ | ⟨rfl, rfl⟩ | ⟨rfl, rfl⟩ | ⟨rfl, rfl⟩ |
    ⟨rfl, rfl⟩ | ⟨rfl, rfl⟩ | ⟨rfl, rfl⟩ | ⟨rfl, rfl⟩ | ⟨rfl, rfl⟩ | ⟨rfl, rfl⟩ | ⟨rfl, rfl⟩ |
    ⟨rfl, rfl⟩ | ⟨rfl, rfl⟩ | ⟨rfl, rfl⟩
  all_goals refine ⟨_, _, rfl, fun rest hrest => ?_⟩
  all_goals rw [scan_eq_sign (by decide) (by decide) (by decide) (by decide)]
  -- of a few the first character of the rest decides
  all_goals try rfl
  all_goals
    cases rest with
    | nil => rfl
    | cons d rest =>
      have hd := hrest d rfl
      simp [signGoesOn] at hd
      unfold Scan.sign
      split <;> simp_all

/-- What is scanned is the text of a token. Nothing after it goes on, but a minus may come after
a minus where the two begin no comment. -/
theorem exists_lexeme_of_scan {c : Char} {cs : List Char} {kind : TokenKind}
    (h : (scan c cs).kind = .ok kind) :
    ∃ goesOn, Lexeme (scan c cs).text kind goesOn ∧
      (splitComment? (c :: cs) = none → Stops goesOn (scan c cs).rest) := by
  by_cases hquote : IsQuote c
  · rw [scan_quote hquote] at h ⊢
    obtain ⟨goesOn, hlexeme, hstops⟩ := Scan.string_lexeme hquote h
    exact ⟨goesOn, hlexeme, fun _ => hstops⟩
  by_cases htick : c = '`'
  · subst htick
    exact ⟨_, Scan.quotedIdentifier_lexeme h, fun _ _ _ => rfl⟩
  by_cases hdigit : c.isDigit = true
  · rw [scan_digit hdigit] at h ⊢
    obtain ⟨goesOn, hlexeme, hstops⟩ := Scan.number_lexeme hdigit h
    exact ⟨goesOn, hlexeme, fun _ => hstops⟩
  by_cases hword : Scan.isWordStart c = true
  · rw [scan_wordStart hword] at h ⊢
    obtain ⟨hlexeme, hstops⟩ := Scan.word_lexeme hword cs
    cases h
    exact ⟨_, hlexeme, fun _ => hstops⟩
  · rw [scan_eq_sign hquote htick hdigit hword] at h ⊢
    exact Scan.sign_lexeme h

/-- A text of a token is scanned as the token where nothing after it goes on. -/
theorem Lexeme.exists_scan_eq {text : List Char} {kind : TokenKind} {goesOn : Char → Bool}
    (h : Lexeme text kind goesOn) : ∃ c cs, text = c :: cs ∧
      ∀ rest, Stops goesOn rest → scan c (cs ++ rest) = ⟨.ok kind, text, rest⟩ := by
  cases h with
  | word hc hcs =>
    refine ⟨_, _, rfl, fun rest hrest => ?_⟩
    rw [scan_wordStart hc, Scan.word_append_eq hcs hrest]
  | @quotedIdentifier name hname htick =>
    refine ⟨_, _, rfl, fun rest _ => ?_⟩
    have hempty : name.isEmpty = false := by simpa using hname
    rw [scan_tick, List.append_assoc, List.singleton_append, Scan.quotedIdentifier_eq htick,
      hempty]
    rfl
  | integer hc hcs hle =>
    refine ⟨_, _, rfl, fun rest hrest => ?_⟩
    rw [scan_digit hc, Scan.number_integer hcs hrest, Scan.integerKind_eq_ok_iff.mpr ⟨hle, rfl⟩]
  | float hc hcs hfraction =>
    refine ⟨_, _, rfl, fun rest hrest => ?_⟩
    rw [scan_digit hc, List.append_assoc, List.cons_append, Scan.number_float hcs hfraction hrest]
  | string hquote htext =>
    refine ⟨_, _, rfl, fun rest hrest => ?_⟩
    have hbody := Scan.stringBody?_append_quote hquote.ne_backslash htext hrest
    rw [scan_quote hquote, List.append_assoc, List.singleton_append, Scan.string, hbody]
  | sign hsign => exact exists_scan_eq_of_mem_signs hsign

end SqlSyntax
