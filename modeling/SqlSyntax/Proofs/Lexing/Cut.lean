import SqlSyntax.Proofs.Lexing.Run
import SqlSyntax.Proofs.Lexing.Tiling

/-!
# Sources cut in two

Two sources with a line feed between them have the tokens of the first and those of the second,
as nothing that a source ends with goes on over a line feed. A source that cannot be read is cut
where its first error is: what stands before has all the tokens that were read.
-/
namespace SqlSyntax

/-! ## At a line feed -/

namespace Lexer

/-- The tokens before a line feed, and those after it from there on. -/
theorem tokenize_newline {l : Lexer} {tokens : List Token} (h : l.tokenize.1 = .ok tokens)
    (rest : List Char) :
    (⟨l.offset, l.rest ++ '\n' :: rest⟩ : Lexer).tokenize.1 =
      (⟨l.offset + byteSize l.rest + 1, rest⟩ : Lexer).tokenize.1.map (tokens.dropLast ++ ·) := by
  obtain ⟨front, stop, hreads, hgap, rfl⟩ := exists_reads_of_ok h
  obtain ⟨used, hl, hoffset, hused⟩ := hreads.exists_append
  have hbreaks : Breaks ('\n' :: rest) := breaks_cons (by decide) rest
  have hread := hused _ (resumes_append hbreaks stop.rest)
  rw [← List.append_assoc, ← hl] at hread
  have hsize : byteSize (stop.rest ++ ['\n']) = byteSize stop.rest + 1 := byteSize_append _ _
  have hstop : (⟨stop.offset, stop.rest ++ ['\n'] ++ rest⟩ : Lexer).tokenize =
      (⟨l.offset + byteSize l.rest + 1, rest⟩ : Lexer).tokenize := by
    rw [tokenize_gap hgap.append_newline, hsize, hoffset, hl, byteSize_append]
    simp only [Nat.add_assoc]
  rw [List.append_assoc, List.singleton_append] at hstop
  rw [hread.tokenize_eq, hstop, List.dropLast_concat]

end Lexer

/-- Two sources with a line feed between them. If the first one can be read, its tokens but for
the end marker come first, and then the tokens of the second one or its error come, moved on by
the bytes of the first one and of the line feed. -/
theorem tokenize_append_newline {a : String} {tokens : List Token} (h : tokenize a = .ok tokens)
    (b : String) :
    tokenize (a ++ "\n" ++ b) =
      ((tokenize b).map fun others =>
        tokens.dropLast ++ others.map (Token.shift (a.utf8ByteSize + 1))).mapError
          (LexError.shift (a.utf8ByteSize + 1)) := by
  have hstart : Lexer.start (a ++ "\n" ++ b) =
      ⟨(Lexer.start a).offset, (Lexer.start a).rest ++ '\n' :: b.toList⟩ := by
    simp [Lexer.start]
  have hstop : (⟨(Lexer.start a).offset + byteSize (Lexer.start a).rest + 1, b.toList⟩ : Lexer) =
      (Lexer.start b).shift (a.utf8ByteSize + 1) := by
    simp [Lexer.start, Lexer.shift, byteSize_toList]
  rw [tokenize, hstart, Lexer.tokenize_newline h, hstop, Lexer.tokenize_shift, tokenize]
  generalize (Lexer.start b).tokenize.1 = result
  cases result <;> rfl

/-- A line comment without an end, a line feed, and a string without an end. -/
theorem tokenize_append_newline_comment :
    tokenize ("é--" ++ "\n" ++ "'") = .error ⟨.openString, 5⟩ ∧
      tokenize ("é--" ++ "\n" ++ "x") = .ok [⟨.identifier "é", ⟨0, 2⟩⟩, ⟨.identifier "x", ⟨5, 6⟩⟩,
        ⟨.endOfInput, .point 6⟩] := by
  have hfirst : tokenize "é--" = .ok [⟨.identifier "é", ⟨0, 2⟩⟩, ⟨.endOfInput, .point 4⟩] := by
    with_unfolding_all rfl
  have hfault : tokenize "'" = .error ⟨.openString, 0⟩ := by with_unfolding_all rfl
  have hname : tokenize "x" = .ok [⟨.identifier "x", ⟨0, 1⟩⟩, ⟨.endOfInput, .point 1⟩] := by
    with_unfolding_all rfl
  refine ⟨?_, ?_⟩
  · rw [tokenize_append_newline hfirst, hfault]
    rfl
  · rw [tokenize_append_newline hfirst, hname]
    rfl

/-! ## At an error -/

namespace Lexer

/-- Nothing, or the gap that comes next, may stand for what came next. -/
theorem resumes_gap (gap rest : List Char) : Resumes (gap ++ rest) gap := by
  cases gap with
  | nil => exact .inr breaks_nil
  | cons c gap => exact .inl rfl

theorem exists_of_next_error {l : Lexer} {e : LexError} (h : l.next.1 = .error e) :
    ∃ gap text, l.rest = gap ++ text ∧ Gap false gap ∧ text ≠ [] ∧
      e.position = l.offset + byteSize gap := by
  obtain ⟨gap, c, cs, hl, hgap, -, hposition⟩ := exists_fault_of_next_error h
  exact ⟨gap, c :: cs, hl, hgap, List.cons_ne_nil c cs, hposition⟩

end Lexer

/-- A source cannot be read. Then the error is inside it, at a character, and the source up to
there can be read. The calls before the one that fails give the tokens of that part but for the
end marker. -/
theorem tokenize_error_cut {source : String} {e : LexError} (h : tokenize source = .error e) :
    e.position < source.utf8ByteSize ∧
      ∃ before front, (⟨0, e.position⟩ : Span).slice? source.toList = some before ∧
        tokenize (String.ofList before) = .ok (front ++ [⟨.endOfInput, .point e.position⟩]) ∧
        (Lexer.start source).outcomes (front.length + 1) = front.map .ok ++ [.error e] := by
  obtain ⟨front, stop, hreads, he⟩ := Lexer.exists_reads_of_error h
  obtain ⟨used, hused, hoffset, hagain⟩ := hreads.exists_append
  obtain ⟨gap, text, hrest, hgap, htext, hposition⟩ := Lexer.exists_of_next_error he
  have hsource : source.toList = used ++ gap ++ text := by
    rw [List.append_assoc, ← hrest]
    exact hused
  have hbefore : e.position = byteSize (used ++ gap) := by
    rw [hposition, hoffset, byteSize_append]
    exact congrArg (· + byteSize gap) (Nat.zero_add _)
  refine ⟨?_, used ++ gap, front, ?_, ?_, ?_⟩
  · rw [hbefore, ← byteSize_toList, hsource, byteSize_append _ text]
    exact Nat.lt_add_of_pos_right (byteSize_pos htext)
  · have hslice := Span.slice?_append [] (used ++ gap) text
    rwa [byteSize_nil, Nat.zero_add, List.nil_append, ← hbefore, ← hsource] at hslice
  · have hbegins : Lexer.Reads ⟨0, used ++ gap⟩ front ⟨stop.offset, gap⟩ :=
      hagain gap (hrest ▸ Lexer.resumes_gap gap text)
    have hlast : (⟨stop.offset, gap⟩ : Lexer).tokenize.1 =
        .ok [⟨.endOfInput, .point (stop.offset + byteSize gap)⟩] :=
      Lexer.tokenize_last (hgap.mono true)
    rw [tokenize_ofList, hbegins.tokenize_eq, hlast, hposition]
    rfl
  · rw [hreads.outcomes_eq 1, Lexer.outcomes, he]
    rfl

/-- A name, a comment and a string without an end. -/
def unended : String := "é/**/'"

theorem tokenize_error_cut_unended :
    tokenize unended = .error ⟨.openString, 6⟩ ∧ 6 < unended.utf8ByteSize ∧
      tokenize "é/**/" = .ok [⟨.identifier "é", ⟨0, 2⟩⟩, ⟨.endOfInput, .point 6⟩] ∧
      (Lexer.start unended).outcomes 2 =
        [.ok ⟨.identifier "é", ⟨0, 2⟩⟩, .error ⟨.openString, 6⟩] := by
  have herror : tokenize unended = .error ⟨.openString, 6⟩ := by with_unfolding_all rfl
  obtain ⟨hlt, before, front, hslice, hbefore, hcalls⟩ := tokenize_error_cut herror
  have hvisible : (⟨0, 6⟩ : Span).slice? unended.toList = some "é/**/".toList := by decide
  have htokens : tokenize "é/**/" =
      .ok ([⟨.identifier "é", ⟨0, 2⟩⟩] ++ [⟨.endOfInput, .point 6⟩]) := by
    with_unfolding_all rfl
  obtain rfl := Option.some.inj (hvisible.symm.trans hslice)
  rw [String.ofList_toList] at hbefore
  obtain rfl := List.append_cancel_right (Except.ok.inj (htokens.symm.trans hbefore))
  exact ⟨herror, hlt, hbefore, hcalls⟩

end SqlSyntax
