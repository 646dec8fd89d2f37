import SqlSyntax.Proofs.Lexing.Tiling

/-!
# Spacing around a source

Spacing before a source moves all its tokens on, and spacing after it moves only the end marker. A
source that cannot be read has the same error with it: what lacks its end finds none in spacing, be
it a string, a name in backticks or a comment, and no number or sign goes on there.
-/
namespace SqlSyntax

def AllSpacing (text : List Char) : Prop := ∀ c ∈ text, isSpacing c = true

namespace AllSpacing

variable {after : List Char}

theorem breaks (h : AllSpacing after) : Breaks after := fun c hc => h c (List.mem_of_mem_head? hc)

theorem notMem (h : AllSpacing after) {c : Char} (hc : isSpacing c = false) : c ∉ after :=
  fun hmem => absurd (h c hmem) (hc ▸ Bool.false_ne_true)

theorem gap (h : AllSpacing after) : Gap false after := by
  induction after with
  | nil => exact .nil
  | cons c after ih =>
    obtain ⟨hc, hafter⟩ := List.forall_mem_cons.mp h
    exact .spacing hc (ih hafter)

end AllSpacing

/-- A line feed ends a line comment at the end, and other spacing belongs to it. -/
theorem Gap.concat_spacing {u : List Char} (h : Gap true u) {c : Char} (hc : isSpacing c = true) :
    Gap true (u ++ [c]) := by
  by_cases hnewline : c = '\n'
  · subst hnewline
    exact h.append_newline.mono true
  generalize htrue : true = last at h ⊢
  induction h with
  | nil => exact .spacing hc .nil
  | spacing hd _ ih => exact .spacing hd (ih htrue)
  | line hbody _ ih =>
    simp only [List.cons_append, List.append_assoc]
    exact .line hbody (ih htrue)
  | block hbody _ ih =>
    simp only [List.cons_append, List.append_assoc]
    exact .block hbody (ih htrue)
  | @lastLine body hbody =>
    have hmore : '\n' ∉ body ++ [c] := by
      rw [List.mem_append, List.mem_singleton, not_or]
      exact ⟨hbody, Ne.symm hnewline⟩
    exact .lastLine hmore

theorem Gap.append_spacing {u after : List Char} (h : Gap true u) (hafter : AllSpacing after) :
    Gap true (u ++ after) := by
  induction after generalizing u with
  | nil => rwa [List.append_nil]
  | cons c after ih =>
    obtain ⟨hc, hafter⟩ := List.forall_mem_cons.mp hafter
    rw [List.append_cons]
    exact ih (h.concat_spacing hc) hafter

/-! ## Faults -/

/-- A character that the second part has not stands in the first one. -/
theorem exists_of_append_eq {a b u v : List Char} {c : Char} (h : a ++ b = u ++ c :: v)
    (hc : c ∉ b) : ∃ w, a = u ++ c :: w ∧ v = w ++ b := by
  obtain ⟨w, rfl, rfl⟩ | ⟨w, rfl, hw⟩ := List.append_eq_append_iff.mp h
  · exact absurd (List.mem_append_right w List.mem_cons_self) hc
  · cases w with
    | nil =>
      obtain rfl : c :: v = b := hw
      exact absurd List.mem_cons_self hc
    | cons d w =>
      obtain ⟨rfl, rfl⟩ := List.cons.inj hw
      exact ⟨w, rfl, rfl⟩

theorem Stops.of_append {goesOn : Char → Bool} {rest after : List Char}
    (h : Stops goesOn (rest ++ after)) : Stops goesOn rest := by
  cases rest with
  | nil => exact nofun
  | cons c rest => exact h

theorem Stops.append {goesOn : Char → Bool} {rest after : List Char} (h : Stops goesOn rest)
    (hafter : Stops goesOn after) : Stops goesOn (rest ++ after) := by
  cases rest with
  | nil => exact hafter
  | cons c rest => exact h

/-- A comment without an end finds none in spacing, even where it ends with a star. -/
theorem splitBlockEnd?_append_spacing {cs after : List Char} (h : splitBlockEnd? cs = none)
    (hafter : AllSpacing after) : splitBlockEnd? (cs ++ after) = none := by
  cases hend : splitBlockEnd? (cs ++ after) with
  | none => rfl
  | some s =>
    obtain ⟨body, hbody, hfirst⟩ := body_of_splitBlockEnd? hend
    have happend := append_of_splitBlockEnd? hend
    have hslash : cs ++ after = (body ++ ['*']) ++ '/' :: s.2 := by
      rw [← happend, hbody]
      simp
    obtain ⟨w, rfl, -⟩ := exists_of_append_eq hslash (hafter.notMem (by decide))
    rw [List.append_assoc, List.singleton_append, splitBlockEnd?_append hfirst] at h
    cases h

theorem splitComment?_append_spacing {c : Char} {cs after : List Char}
    (h : splitComment? (c :: cs) = none) (hafter : AllSpacing after) :
    splitComment? (c :: (cs ++ after)) = none := by
  unfold splitComment? at h ⊢
  split at h
  · cases h
  · rename_i rest heq
    obtain ⟨rfl, rfl⟩ := List.cons.inj heq
    have hrest := splitBlockEnd?_append_spacing (Option.map_eq_none_iff.mp h) hafter
    simp only [List.cons_append, hrest, Option.map_none]
  · rename_i hline hblock
    -- a comment begins with two characters, of which the second one is no spacing
    split
    · rename_i heq
      obtain ⟨rfl, he⟩ := List.cons.inj heq
      obtain ⟨rest, rfl, -⟩ := exists_of_append_eq (u := []) he (hafter.notMem (by decide))
      exact absurd rfl (hline rest)
    · rename_i heq
      obtain ⟨rfl, he⟩ := List.cons.inj heq
      obtain ⟨rest, rfl, -⟩ := exists_of_append_eq (u := []) he (hafter.notMem (by decide))
      exact absurd rfl (hblock rest)
    · rfl

namespace Scan

variable {c quote : Char} {cs after : List Char} {cause : LexCause}

/-- The quote that would close a string would stand in the text itself, and close it there. -/
theorem stringBody?_append_spacing (hquote : IsQuote quote) (h : stringBody? quote cs = none)
    (hafter : quote ∉ after) : stringBody? quote (cs ++ after) = none := by
  cases hbody : stringBody? quote (cs ++ after) with
  | none => rfl
  | some b =>
    obtain ⟨text, htext, heq, hstops⟩ := exists_stringText hbody
    have happend := stringBody?_append hbody
    rw [heq, List.append_assoc, List.singleton_append] at happend
    obtain ⟨w, rfl, hw⟩ := exists_of_append_eq happend.symm hafter
    rw [hw] at hstops
    rw [stringBody?_append_quote hquote.ne_backslash htext hstops.of_append] at h
    cases h

theorem string_append_spacing (hquote : IsQuote quote) (h : (string quote cs).kind = .error cause)
    (hafter : AllSpacing after) : (string quote (cs ++ after)).kind = .error cause := by
  have hnotMem : quote ∉ after := by
    obtain rfl | rfl := hquote <;> exact hafter.notMem (by decide)
  unfold string at h
  split at h
  · rename_i hbody
    rw [string, stringBody?_append_spacing hquote hbody hnotMem]
    exact h
  · cases h

theorem quotedIdentifier_of_notMem (h : '`' ∉ cs) :
    quotedIdentifier cs = ⟨.error .openQuotedIdentifier, '`' :: cs, []⟩ := by
  obtain ⟨-, hdrop⟩ := takeWhile_dropWhile_append (p := (· ≠ '`')) (u := cs) (v := [])
    (fun c hc => decide_eq_true fun he => h (he ▸ hc)) nofun
  rw [List.append_nil] at hdrop
  simp only [quotedIdentifier, hdrop]

theorem quotedIdentifier_append_spacing (hafter : AllSpacing after) :
    (quotedIdentifier (cs ++ after)).kind = (quotedIdentifier cs).kind := by
  by_cases htick : '`' ∈ cs
  · obtain ⟨name, rest, rfl, hname⟩ := List.eq_append_cons_of_mem htick
    rw [List.append_assoc, List.cons_append, quotedIdentifier_eq hname, quotedIdentifier_eq hname]
  · have hnone : '`' ∉ cs ++ after := by
      rw [List.mem_append, not_or]
      exact ⟨htick, hafter.notMem (by decide)⟩
    rw [quotedIdentifier_of_notMem htick, quotedIdentifier_of_notMem hnone]

/-- Digits that are too many end where spacing begins. -/
theorem number_append_spacing (h : (number c cs).kind = .error cause) (hafter : AllSpacing after) :
    (number c (cs ++ after)).kind = .error cause := by
  have hdigits : ∀ d ∈ cs.takeWhile Char.isDigit, d.isDigit = true :=
    List.all_eq_true.mp List.all_takeWhile
  have hpoint : ∀ rest, cs.dropWhile Char.isDigit ≠ '.' :: rest := by
    intro rest hrest
    rw [number_of_point hrest] at h
    cases h
  have hstops : Stops (fun d => d.isDigit || d = '.') (cs.dropWhile Char.isDigit ++ after) :=
    (stops_of_no_point hpoint).append
      (hafter.breaks.forall (by decide) (by decide) (by decide) (by decide))
  have hnumber := number_integer (c := c) hdigits hstops
  rw [← List.append_assoc, List.takeWhile_append_dropWhile] at hnumber
  rw [number_of_no_point hpoint] at h
  rw [hnumber]
  exact h

/-- Of what comes after its first character a sign has the next one at most. -/
theorem sign_cons_kind (c d : Char) (cs ds : List Char) :
    (sign c (d :: cs)).kind = (sign c (d :: ds)).kind := by
  unfold sign
  split <;> first | rfl | simp_all

theorem sign_spacing_kind {d : Char} (hd : isSpacing d = true) (ds : List Char) :
    (sign c (d :: ds)).kind = (sign c []).kind := by
  obtain rfl | rfl | rfl | rfl := isSpacing_iff.mp hd
  all_goals
    unfold sign
    split <;> first | rfl | simp_all

theorem sign_append_spacing (hafter : AllSpacing after) :
    (sign c (cs ++ after)).kind = (sign c cs).kind := by
  cases cs with
  | cons d cs => exact sign_cons_kind c d (cs ++ after) cs
  | nil =>
    cases after with
    | nil => rfl
    | cons d after => exact sign_spacing_kind (hafter d List.mem_cons_self) after

end Scan

theorem scan_append_spacing {c : Char} {cs after : List Char} {cause : LexCause}
    (h : (scan c cs).kind = .error cause) (hafter : AllSpacing after) :
    (scan c (cs ++ after)).kind = .error cause := by
  by_cases hquote : IsQuote c
  · rw [scan_quote hquote] at h ⊢
    exact Scan.string_append_spacing hquote h hafter
  by_cases htick : c = '`'
  · subst htick
    rw [scan_tick] at h ⊢
    rw [Scan.quotedIdentifier_append_spacing hafter, h]
  by_cases hdigit : c.isDigit = true
  · rw [scan_digit hdigit] at h ⊢
    exact Scan.number_append_spacing h hafter
  by_cases hword : Scan.isWordStart c = true
  · rw [scan_wordStart hword] at h
    cases h
  · rw [scan_eq_sign hquote htick hdigit hword] at h ⊢
    rw [Scan.sign_append_spacing hafter, h]

theorem Fault.append_spacing {c : Char} {cs after : List Char} {cause : LexCause}
    (h : Fault c cs cause) (hafter : AllSpacing after) : Fault c (cs ++ after) cause :=
  ⟨h.spacing, splitComment?_append_spacing h.comment hafter, scan_append_spacing h.kind hafter⟩

/-! ## Sources -/

namespace Lexer

variable {l : Lexer} {after : List Char}

theorem tokenize_append_spacing_of_ok (hafter : AllSpacing after) {tokens : List Token}
    (h : l.tokenize.1 = .ok tokens) :
    ∃ front, tokens = front ++ [⟨.endOfInput, .point (l.offset + byteSize l.rest)⟩] ∧
      (⟨l.offset, l.rest ++ after⟩ : Lexer).tokenize.1 =
        .ok (front ++ [⟨.endOfInput, .point (l.offset + byteSize (l.rest ++ after))⟩]) := by
  obtain ⟨front, stop, hreads, hgap, rfl⟩ := exists_reads_of_ok h
  obtain ⟨used, hl, hoffset, hused⟩ := hreads.exists_append
  have hread := hused _ (resumes_append hafter.breaks stop.rest)
  have hlast : (⟨stop.offset, stop.rest ++ after⟩ : Lexer).tokenize.1 = _ :=
    tokenize_last (hgap.append_spacing hafter)
  refine ⟨front, ?_, ?_⟩
  · rw [hoffset, hl, byteSize_append, Nat.add_assoc]
  · rw [hl, List.append_assoc, hread.tokenize_eq, hlast, hoffset]
    simp only [byteSize_append, Nat.add_assoc]
    rfl

/-- What cannot be read is at the same place and for the same cause. -/
theorem tokenize_append_spacing_of_error (hafter : AllSpacing after) {e : LexError}
    (h : l.tokenize.1 = .error e) :
    (⟨l.offset, l.rest ++ after⟩ : Lexer).tokenize.1 = .error e := by
  obtain ⟨front, stop, hreads, he⟩ := exists_reads_of_error h
  obtain ⟨used, hl, -, hused⟩ := hreads.exists_append
  obtain ⟨gap, c, cs, hstop, hgap, hfault, hposition⟩ := exists_fault_of_next_error he
  have hread := hused _ (resumes_append hafter.breaks stop.rest)
  have hnext := next_error stop.offset hgap (hfault.append_spacing hafter)
  rw [← List.cons_append, ← List.append_assoc, ← hstop, ← hposition] at hnext
  rw [hl, List.append_assoc, hread.tokenize_eq, tokenize_of_next_error hnext]
  rfl

end Lexer

variable {before after text : List Char}

/-- The tokens begin after the spacing before them, and move on with it. -/
theorem tokenize_before (hbefore : AllSpacing before) (text : List Char) :
    tokenize (String.ofList (before ++ text)) =
      ((tokenize (String.ofList text)).map (List.map (Token.shift (byteSize before)))).mapError
        (LexError.shift (byteSize before)) := by
  rw [tokenize_ofList, tokenize_ofList, Lexer.tokenize_gap hbefore.gap, Nat.zero_add,
    ← Lexer.tokenize_shift, Lexer.shift, Nat.zero_add]

theorem tokenize_surrounded_of_ok (hbefore : AllSpacing before) (hafter : AllSpacing after)
    {tokens : List Token} (h : tokenize (String.ofList text) = .ok tokens) :
    ∃ front, tokens = front ++ [⟨.endOfInput, .point (byteSize text)⟩] ∧
      tokenize (String.ofList (before ++ (text ++ after))) =
        .ok (front.map (Token.shift (byteSize before)) ++
          [⟨.endOfInput, .point (byteSize (before ++ (text ++ after)))⟩]) := by
  rw [tokenize_ofList] at h
  obtain ⟨front, rfl, hfront⟩ := Lexer.tokenize_append_spacing_of_ok hafter h
  refine ⟨front, by rw [Nat.zero_add], ?_⟩
  have hend : Token.shift (byteSize before) ⟨.endOfInput, .point (0 + byteSize (text ++ after))⟩ =
      ⟨.endOfInput, .point (byteSize (before ++ (text ++ after)))⟩ := by
    simp only [Token.shift, Span.point, byteSize_append, Nat.zero_add, Nat.add_comm]
  rw [tokenize_before hbefore, tokenize_ofList, hfront]
  change Except.ok (List.map _ (front ++ _)) = _
  rw [List.map_append, List.map_singleton, hend]

theorem tokenize_surrounded_of_error (hbefore : AllSpacing before) (hafter : AllSpacing after)
    {e : LexError} (h : tokenize (String.ofList text) = .error e) :
    tokenize (String.ofList (before ++ (text ++ after))) = .error (e.shift (byteSize before)) := by
  rw [tokenize_ofList] at h
  rw [tokenize_before hbefore, tokenize_ofList, Lexer.tokenize_append_spacing_of_error hafter h]
  rfl

end SqlSyntax
