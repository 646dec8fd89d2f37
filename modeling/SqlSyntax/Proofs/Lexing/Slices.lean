import SqlSyntax.Proofs.Lexing.Bytewise
import SqlSyntax.Proofs.Lexing.Lexeme

/-!
# Every slice is valid

Where the text of a lexer begins, reading by byte offsets has an outcome, and it is that of the
lexer: the same token or error, and the same place to go on from. So every slice that is taken on
the way is valid, whether a token is read or not. Each loop goes through what the text begins with.
-/
namespace SqlSyntax

namespace Bytewise

variable {source : List Char} {pos : Nat} {c : Char} {rest : List Char}

/-! ## Loops -/

theorem skipWhile_eq (p : Char → Bool) (h : textFrom source pos = some rest) :
    skipWhile source p pos = some (pos + byteSize (rest.takeWhile p)) := by
  rw [skipWhile]
  induction rest generalizing pos with
  | nil =>
    have hround : skipRound source p () pos = some (.done () pos) := by
      rw [skipRound, peek_eq h]
      rfl
    rw [loop_of_done hround]
    rfl
  | cons c rest ih =>
    rw [List.takeWhile_cons]
    cases hc : p c with
    | true =>
      have hround : skipRound source p () pos = some (.again () (pos + byteSize [c])) := by
        rw [skipRound, peek_eq h, advance_cons h]
        exact if_pos hc
      rw [loop_of_again (List.cons_ne_nil c []) h hround, ih (textFrom_append (u := [c]) h)]
      simp [Nat.add_assoc]
    | false =>
      have hround : skipRound source p () pos = some (.done () pos) := by
        rw [skipRound, peek_eq h]
        exact if_neg (by rw [hc]; exact Bool.false_ne_true)
      rw [loop_of_done hround]
      rfl

theorem textFrom_dropWhile (p : Char → Bool) (h : textFrom source pos = some rest) :
    textFrom source (pos + byteSize (rest.takeWhile p)) = some (rest.dropWhile p) :=
  textFrom_append (by rwa [List.takeWhile_append_dropWhile])

theorem nameEnd_eq (h : textFrom source pos = some rest) :
    nameEnd source pos =
      some (match rest.dropWhile (· ≠ '`') with
        | [] => (false, pos + byteSize rest)
        | _ :: _ => (true, pos + byteSize (rest.takeWhile (· ≠ '`')) + 1)) := by
  rw [nameEnd]
  induction rest generalizing pos with
  | nil =>
    have hround : nameRound source () pos = some (.done false pos) := by
      rw [nameRound, advance_nil h]
      rfl
    exact loop_of_done hround
  | cons c rest ih =>
    by_cases hc : c = '`'
    · subst hc
      have hround : nameRound source () pos = some (.done true (pos + 1)) := by
        rw [nameRound, advance_cons h]
        rfl
      exact loop_of_done hround
    · have hround : nameRound source () pos = some (.again () (pos + byteSize [c])) := by
        rw [nameRound, advance_cons h]
        exact if_neg hc
      rw [loop_of_again (List.cons_ne_nil c []) h hround, ih (textFrom_append (u := [c]) h),
        List.dropWhile_cons_of_pos (p := (· ≠ '`')) (decide_eq_true hc),
        List.takeWhile_cons_of_pos (p := (· ≠ '`')) (decide_eq_true hc)]
      simp only [byteSize_cons, byteSize_nil, Nat.add_zero, Nat.add_assoc]

theorem blockEnd_eq (h : textFrom source pos = some rest) :
    blockEnd source pos =
      some (match splitBlockEnd? rest with
        | some (comment, _) => (true, pos + byteSize comment)
        | none => (false, pos + byteSize rest)) := by
  rw [blockEnd]
  fun_induction splitBlockEnd? rest generalizing pos with
  | case1 =>
    have hround : blockRound source () pos = some (.done false pos) := by
      rw [blockRound, advance_nil h]
      rfl
    exact loop_of_done hround
  | case2 cs =>
    have hslash : textFrom source (pos + '*'.utf8Size) = some ('/' :: cs) := textFrom_cons h
    have hround : blockRound source () pos =
        some (.done true (pos + '*'.utf8Size + '/'.utf8Size)) := by
      simp [blockRound, advance_cons h, peek_eq hslash, advance_cons hslash]
    exact loop_of_done hround
  | case3 c cs hends ih =>
    have hslash : c = '*' → cs.head? ≠ some '/' := fun hc hhead => by
      obtain ⟨after, rfl⟩ := List.head?_eq_some_iff.mp hhead
      exact hends after hc rfl
    have hround : blockRound source () pos = some (.again () (pos + byteSize [c])) := by
      simpa [blockRound, advance_cons h, peek_eq (textFrom_cons h)] using
        fun hc hhead => absurd hhead (hslash hc)
    rw [loop_of_again (List.cons_ne_nil c []) h hround, ih (textFrom_append (u := [c]) h)]
    cases splitBlockEnd? cs with
    | none => simp [Nat.add_assoc]
    | some s => simp [Nat.add_assoc]

/-- Where a string ends, and its value, of which the first part is read already. -/
def stringOutcome (value : List Char) (pos : Nat) (rest : List Char) :
    Option Scan.StringBody → Option (List Char) × Nat
  | some body => (some (value ++ body.value), pos + byteSize body.text)
  | none => (none, pos + byteSize rest)

theorem stringOutcome_push (value v text rest : List Char) (pos : Nat)
    (body? : Option Scan.StringBody) :
    stringOutcome (value ++ v) (pos + byteSize text) rest body? =
      stringOutcome value pos (text ++ rest) (body?.map (Scan.StringBody.push v text)) := by
  cases body? with
  | none => simp [stringOutcome, Nat.add_assoc]
  | some body => simp [stringOutcome, Scan.StringBody.push, Nat.add_assoc]

theorem loop_stringRound {quote : Char} (hquote : quote ≠ '\\') (value : List Char)
    (h : textFrom source pos = some rest) :
    loop source (stringRound source quote) value pos =
      some (stringOutcome value pos rest (Scan.stringBody? quote rest)) := by
  fun_induction Scan.stringBody? quote rest generalizing pos value with
  | case1 =>
    have hround : stringRound source quote value pos = some (.done none pos) := by
      simp [stringRound, advance_nil h]
    exact loop_of_done hround
  | case2 =>
    have hround : stringRound source quote value pos =
        some (.done none (pos + '\\'.utf8Size)) := by
      simp [stringRound, advance_cons h, advance_nil (textFrom_cons h), hquote.symm]
    exact loop_of_done hround
  | case3 c cs ih =>
    have hafter := textFrom_append (u := ['\\', c]) h
    have hround : stringRound source quote value pos =
        some (.again (value ++ Scan.escaped c) (pos + byteSize ['\\', c])) := by
      simp [stringRound, advance_cons h, advance_cons (textFrom_cons h), hquote.symm,
        Nat.add_assoc]
    rw [loop_of_again (List.cons_ne_nil _ _) h hround, ih _ hafter, stringOutcome_push]
    rfl
  | case4 =>
    have hround : stringRound source quote value pos =
        some (.done (some value) (pos + quote.utf8Size)) := by
      simp [stringRound, advance_cons h, peek_eq (textFrom_cons h)]
    rw [loop_of_done hround]
    simp [stringOutcome]
  | case5 cs _ _ ih =>
    have hafter := textFrom_append (u := [quote, quote]) h
    have hround : stringRound source quote value pos =
        some (.again (value ++ [quote]) (pos + byteSize [quote, quote])) := by
      simp [stringRound, advance_cons h, peek_eq (textFrom_cons h),
        advance_cons (textFrom_cons h), Nat.add_assoc]
    rw [loop_of_again (List.cons_ne_nil _ _) h hround, ih _ hafter, stringOutcome_push]
    rfl
  | case6 d cs hd =>
    have hround : stringRound source quote value pos =
        some (.done (some value) (pos + quote.utf8Size)) := by
      simp [stringRound, advance_cons h, peek_eq (textFrom_cons h), hd]
    rw [loop_of_done hround]
    simp [stringOutcome]
  | case7 c cs hlast hescape hc ih =>
    have hbackslash : c ≠ '\\' := fun heq => by
      cases cs with
      | nil => exact hlast heq rfl
      | cons d cs => exact hescape d cs heq rfl
    have hafter := textFrom_append (u := [c]) h
    have hround : stringRound source quote value pos =
        some (.again (value ++ [c]) (pos + byteSize [c])) := by
      simp [stringRound, advance_cons h, hc, hbackslash]
    rw [loop_of_again (List.cons_ne_nil _ _) h hround, ih _ hafter, stringOutcome_push]
    rfl

/-! ## Spacing and comments -/

/-- Trivia are spacing, and a comment and the trivia after it if a comment follows. -/
theorem splitTrivia_eq (cs : List Char) :
    splitTrivia cs =
      match splitComment? (cs.dropWhile isSpacing) with
      | some (comment, after) =>
        (cs.takeWhile isSpacing ++ comment ++ (splitTrivia after).1, (splitTrivia after).2)
      | none => (cs.takeWhile isSpacing, cs.dropWhile isSpacing) := by
  induction cs with
  | nil => rw [splitTrivia]; rfl
  | cons c cs ih =>
    by_cases hc : isSpacing c = true
    · rw [splitTrivia_of_isSpacing hc, ih, List.takeWhile_cons_of_pos hc,
        List.dropWhile_cons_of_pos hc]
      cases splitComment? (cs.dropWhile isSpacing) <;> rfl
    · rw [List.takeWhile_cons_of_neg hc, List.dropWhile_cons_of_neg hc]
      cases hcomment : splitComment? (c :: cs) with
      | none => exact splitTrivia_of_none hc hcomment
      | some s => exact splitTrivia_of_comment hc hcomment

/-- Where the trivia of a text end, with an error if a comment is left open. -/
def triviaOutcome (start : Nat) : List Char → Option LexError × Nat
  | '/' :: '*' :: cs => (some ⟨.openComment, start⟩, start + byteSize ('/' :: '*' :: cs))
  | _ => (none, start)

theorem triviaOutcome_of_ne (h : ∀ cs, rest ≠ '/' :: '*' :: cs) (start : Nat) :
    triviaOutcome start rest = (none, start) := by
  unfold triviaOutcome
  split
  · exact absurd rfl (h _)
  · rfl

theorem commentRound_of_some {start : Nat} {comment after : List Char}
    (h : textFrom source start = some rest)
    (hcomment : splitComment? rest = some (comment, after)) :
    commentRound source start = some (.again () (start + byteSize comment)) := by
  unfold splitComment? at hcomment
  split at hcomment
  · rename_i body
    cases hcomment
    have hline := skipWhile_eq (· ≠ '\n') h
    simp only [commentRound, peek_eq h, peekNext_eq h, List.head?_cons, List.tail_cons,
      Option.bind_eq_bind, Option.bind_some, and_self, if_true, hline]
    rfl
  · rename_i body
    obtain ⟨⟨a, b⟩, hs, he⟩ := Option.map_eq_some_iff.mp hcomment
    cases he
    have hstar := textFrom_cons h
    have hend := blockEnd_eq (textFrom_cons hstar)
    simp only [hs] at hend
    simp only [commentRound, peek_eq h, peekNext_eq h, List.head?_cons, List.tail_cons,
      Option.bind_eq_bind, Option.bind_some, advance_cons h, advance_cons hstar, hend]
    simp [Nat.add_assoc]
  · cases hcomment

theorem commentRound_of_none {start : Nat} (h : textFrom source start = some rest)
    (hcomment : splitComment? rest = none) :
    commentRound source start =
      some (.done (triviaOutcome start rest).1 (triviaOutcome start rest).2) := by
  unfold splitComment? at hcomment
  split at hcomment
  · cases hcomment
  · rename_i body
    have hs := Option.map_eq_none_iff.mp hcomment
    have hstar := textFrom_cons h
    have hend := blockEnd_eq (textFrom_cons hstar)
    simp only [hs] at hend
    simp only [commentRound, peek_eq h, peekNext_eq h, List.head?_cons, List.tail_cons,
      Option.bind_eq_bind, Option.bind_some, advance_cons h, advance_cons hstar, hend]
    simp [triviaOutcome, Nat.add_assoc]
  · rename_i hline hblock
    have hpair (c d : Char) (hne : ∀ cs, rest ≠ c :: d :: cs) :
        ¬(rest.head? = some c ∧ rest.tail.head? = some d) := by
      rintro ⟨hc, hd⟩
      obtain ⟨cs, rfl⟩ := List.head?_eq_some_iff.mp hc
      obtain ⟨ds, hds⟩ := List.head?_eq_some_iff.mp hd
      exact hne ds (congrArg (c :: ·) hds)
    simp only [commentRound, peek_eq h, peekNext_eq h, Option.bind_eq_bind, Option.bind_some,
      triviaOutcome_of_ne hblock, if_neg (hpair '-' '-' hline), if_neg (hpair '/' '*' hblock)]
    rfl

theorem trivia_eq (h : textFrom source pos = some rest) :
    trivia source pos =
      some (triviaOutcome (pos + byteSize (splitTrivia rest).1) (splitTrivia rest).2) := by
  rw [trivia]
  induction hlength : rest.length using Nat.strongRecOn generalizing pos rest with
  | ind n ih =>
    have hstart := textFrom_dropWhile isSpacing h
    have hround : triviaRound source () pos =
        commentRound source (pos + byteSize (rest.takeWhile isSpacing)) := by
      rw [triviaRound, skipWhile_eq isSpacing h]
      rfl
    rw [splitTrivia_eq]
    cases hcomment : splitComment? (rest.dropWhile isSpacing) with
    | none => exact loop_of_done (hround.trans (commentRound_of_none hstart hcomment))
    | some s =>
      obtain ⟨comment, after⟩ := s
      have hnonempty : comment ≠ [] := ne_nil_of_splitComment? hcomment
      have happend : rest = rest.takeWhile isSpacing ++ comment ++ after := by
        rw [List.append_assoc, append_of_splitComment? hcomment,
          List.takeWhile_append_dropWhile]
      have htext : textFrom source pos =
          some (rest.takeWhile isSpacing ++ comment ++ after) := by rw [← happend]; exact h
      have hlt : after.length < n := by
        have hlengths := congrArg List.length happend
        have hpos := List.length_pos_iff.mpr hnonempty
        rw [List.length_append, List.length_append] at hlengths
        omega
      have hagain := hround.trans (commentRound_of_some hstart hcomment)
      rw [Nat.add_assoc, ← byteSize_append] at hagain
      rw [loop_of_again (List.append_ne_nil_of_right_ne_nil _ hnonempty) htext hagain,
        ih _ hlt (textFrom_append htext) rfl]
      simp [Nat.add_assoc]

/-! ## Tokens -/

/-- What a scan of the text at an offset leads to. -/
def scanOutcome (start : Nat) (s : Scan) : Except LexError Token × Nat :=
  outcome start (start + byteSize s.text) s.kind

theorem word_eq (h : textFrom source pos = some (c :: rest)) (hc : Scan.isWordStart c = true) :
    word source pos = some (scanOutcome pos (Scan.word c rest)) := by
  have hpart : Scan.isWordPart c = true := by
    rw [Scan.isWordStart, Bool.or_eq_true] at hc
    rw [Scan.isWordPart, Bool.or_eq_true, Bool.or_eq_true]
    exact hc.imp_left .inl
  have htake := List.takeWhile_cons_of_pos (l := rest) hpart
  have hend := skipWhile_eq Scan.isWordPart h
  rw [← List.takeWhile_append_dropWhile (p := Scan.isWordPart) (l := c :: rest), htake] at h
  rw [htake] at hend
  simp only [word, hend, slice?_of_textFrom h, Option.bind_eq_bind, Option.bind_some]
  rfl

theorem floatKind_eq {whole : List Char} (hwhole : ∀ d ∈ whole, d.isDigit = true)
    (fraction : List Char) :
    floatKind (whole ++ '.' :: fraction) =
      .literal (.float (Double.ofDigits whole fraction)) := by
  obtain ⟨htake, hdrop⟩ := takeWhile_dropWhile_append (v := '.' :: fraction) hwhole (by simp)
  rw [floatKind, htake, hdrop]
  rfl

theorem number_of_point {whole : List Char} (hwhole : ∀ d ∈ whole, d.isDigit = true)
    (h : textFrom source pos = some (whole ++ '.' :: rest)) :
    number source pos = some (outcome pos
      (pos + byteSize (whole ++ '.' :: rest.takeWhile Char.isDigit))
      (.ok (.literal (.float (Double.ofDigits whole (rest.takeWhile Char.isDigit)))))) := by
  obtain ⟨htake, -⟩ := takeWhile_dropWhile_append (v := '.' :: rest) hwhole (by simp)
  have hdigits := skipWhile_eq Char.isDigit h
  rw [htake] at hdigits
  have hpoint := textFrom_append h
  have hfraction := skipWhile_eq Char.isDigit (textFrom_cons hpoint)
  have htext : textFrom source pos =
      some (whole ++ '.' :: rest.takeWhile Char.isDigit ++ rest.dropWhile Char.isDigit) := by
    simpa using h
  have hsize : pos + byteSize whole + '.'.utf8Size + byteSize (rest.takeWhile Char.isDigit) =
      pos + byteSize (whole ++ '.' :: rest.takeWhile Char.isDigit) := by simp [Nat.add_assoc]
  rw [hsize] at hfraction
  simp only [number, hdigits, peek_eq hpoint, List.head?_cons, advance_cons hpoint, hfraction,
    slice?_of_textFrom htext, Option.bind_eq_bind, Option.bind_some, if_true,
    floatKind_eq hwhole]
  rfl

theorem number_of_no_point {whole : List Char} (hwhole : ∀ d ∈ whole, d.isDigit = true)
    (hrest : ∀ d ∈ rest.head?, d.isDigit = false) (hpoint : rest.head? ≠ some '.')
    (h : textFrom source pos = some (whole ++ rest)) :
    number source pos =
      some (outcome pos (pos + byteSize whole) (Scan.integerKind whole)) := by
  obtain ⟨htake, -⟩ := takeWhile_dropWhile_append hwhole hrest
  have hdigits := skipWhile_eq Char.isDigit h
  rw [htake] at hdigits
  simp only [number, hdigits, peek_eq (textFrom_append h), slice?_of_textFrom h,
    Option.bind_eq_bind, Option.bind_some, if_neg hpoint]
  rfl

theorem number_eq (h : textFrom source pos = some (c :: rest)) (hc : c.isDigit = true) :
    number source pos = some (scanOutcome pos (Scan.number c rest)) := by
  have hwhole : ∀ d ∈ c :: rest.takeWhile Char.isDigit, d.isDigit = true :=
    List.forall_mem_cons.mpr ⟨hc, List.all_eq_true.mp List.all_takeWhile⟩
  rw [← List.takeWhile_append_dropWhile (p := Char.isDigit) (l := rest), ← List.cons_append] at h
  by_cases hpoint : ∃ after, rest.dropWhile Char.isDigit = '.' :: after
  · obtain ⟨after, hpoint⟩ := hpoint
    rw [hpoint] at h
    rw [Scan.number_of_point hpoint]
    exact number_of_point hwhole h
  · rw [Scan.number_of_no_point fun after heq => hpoint ⟨after, heq⟩]
    refine number_of_no_point hwhole (eq_false_of_mem_head?_dropWhile _ rest) (fun hhead => ?_) h
    obtain ⟨after, hafter⟩ := List.head?_eq_some_iff.mp hhead
    exact hpoint ⟨after, hafter⟩

theorem quotedIdentifier_eq (h : textFrom source pos = some ('`' :: rest)) :
    quotedIdentifier source pos = some (scanOutcome pos (Scan.quotedIdentifier rest)) := by
  have hname := textFrom_cons h
  have hend := nameEnd_eq hname
  rw [← List.takeWhile_append_dropWhile (p := (· ≠ '`')) (l := rest)] at hname
  unfold Scan.quotedIdentifier
  cases hdrop : rest.dropWhile (· ≠ '`') with
  | nil =>
    simp only [hdrop] at hend
    simp only [quotedIdentifier, advance_cons h, hend, Option.bind_eq_bind, Option.bind_some]
    simp [scanOutcome, Nat.add_assoc]
  | cons d after =>
    simp only [hdrop] at hend
    have hslice := slice?_of_textFrom hname
    simp only [quotedIdentifier, advance_cons h, hend, Option.bind_eq_bind, Option.bind_some,
      if_true, Nat.add_sub_cancel, hslice]
    have htick : '`'.utf8Size = 1 := rfl
    simp [scanOutcome, htick, Nat.add_assoc]

theorem string_eq {quote : Char} (hquote : quote ≠ '\\')
    (h : textFrom source pos = some (quote :: rest)) :
    string source quote pos = some (scanOutcome pos (Scan.string quote rest)) := by
  have hend := loop_stringRound hquote [] (textFrom_cons h)
  simp only [string, advance_cons h, stringEnd, hend, Option.bind_eq_bind, Option.bind_some]
  unfold Scan.string
  cases Scan.stringBody? quote rest with
  | none => simp [stringOutcome, scanOutcome, Nat.add_assoc]
  | some body => simp [stringOutcome, scanOutcome, Nat.add_assoc]

/-- A sign is what its first two characters say, where no comment begins. -/
theorem sign_eq_signOf (hopen : ∀ cs, c = '/' → rest ≠ '*' :: cs) :
    (Scan.sign c rest).kind = (signOf c rest.head?).2 ∧
      (Scan.sign c rest).text = c :: if (signOf c rest.head?).1 then rest.take 1 else [] := by
  unfold Scan.sign
  split
  -- a sign without a longer one is known by its first character
  all_goals first
    | exact ⟨rfl, rfl⟩
    | unfold signOf; split <;> simp_all [List.head?_eq_some_iff]

theorem sign_eq (h : textFrom source pos = some (c :: rest))
    (hopen : ∀ cs, c = '/' → rest ≠ '*' :: cs) :
    sign source c pos = some (scanOutcome pos (Scan.sign c rest)) := by
  have hnext := textFrom_cons h
  obtain ⟨hkind, htext⟩ := sign_eq_signOf hopen
  rw [scanOutcome, hkind, htext]
  simp only [sign, advance_cons h, peek_eq hnext, Option.bind_eq_bind, Option.bind_some]
  split
  · cases rest with
    | nil => simp [advance_nil hnext]
    | cons d rest => simp [advance_cons hnext, Nat.add_assoc]
  · simp

theorem token_eq (h : textFrom source pos = some (c :: rest))
    (hopen : ∀ cs, c = '/' → rest ≠ '*' :: cs) :
    token source c pos = some (scanOutcome pos (scan c rest)) := by
  unfold token scan
  split
  · rename_i hquote
    exact string_eq (IsQuote.ne_backslash hquote) h
  split
  · rename_i htick
    subst htick
    exact quotedIdentifier_eq h
  split
  · rename_i hdigit
    exact number_eq h hdigit
  split
  · rename_i hword
    exact word_eq h hword
  · exact sign_eq h hopen

/-! ## Calls -/

theorem next_of_scan {l : Lexer} (htext : (splitTrivia l.rest).2 = c :: rest) :
    (l.next.1, l.next.2.offset) =
      scanOutcome (l.offset + byteSize (splitTrivia l.rest).1) (scan c rest) := by
  simp only [Lexer.next, htext, scanOutcome, outcome]
  cases (scan c rest).kind <;> rfl

/-- A call that begins where the text of a lexer does has the outcome of the lexer. -/
theorem next_eq {l : Lexer} (h : textFrom source l.offset = some l.rest) :
    next source l.offset = some (l.next.1, l.next.2.offset) := by
  have hstart : textFrom source (l.offset + byteSize (splitTrivia l.rest).1) =
      some (splitTrivia l.rest).2 := textFrom_append (by rwa [splitTrivia_append])
  rw [next, trivia_eq h]
  cases htext : (splitTrivia l.rest).2 with
  | nil =>
    rw [htext] at hstart
    simp only [triviaOutcome, peek_eq hstart, Option.bind_eq_bind, Option.bind_some,
      Lexer.next, htext]
    rfl
  | cons c cs =>
    rw [htext] at hstart
    rw [next_of_scan htext]
    by_cases hopen : ∃ ds, c :: cs = '/' :: '*' :: ds
    · obtain ⟨ds, hds⟩ := hopen
      obtain ⟨rfl, rfl⟩ := List.cons.inj hds
      rfl
    · rw [triviaOutcome_of_ne fun ds hds => hopen ⟨ds, hds⟩]
      simp only [peek_eq hstart, Option.bind_eq_bind, Option.bind_some]
      refine token_eq hstart fun ds hc hcs => hopen ⟨ds, ?_⟩
      rw [hc, hcs]

end Bytewise

end SqlSyntax
