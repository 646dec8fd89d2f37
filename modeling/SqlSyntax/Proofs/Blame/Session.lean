import SqlSyntax.Proofs.Alike.Outlast
import SqlSyntax.Proofs.Blame.Parser
import SqlSyntax.Proofs.Calls.Fresh
import SqlSyntax.Proofs.Content

/-!
# The token that an error is about

An error gives the index of the token that its parser blames, so its position, its span, what
was found and where the session stands after it are all about this one token.
-/
namespace SqlSyntax

open SqlSyntax.Parser Grammar

/-! ## Places -/

/-- The first of the last kinds stands where the others end. -/
theorem kindAt_of_append {tokens : List Token} {cursor : Nat} {u v : List TokenKind}
    (h : (tokens.drop cursor).map Token.kind = u ++ v) :
    kindAt tokens (cursor + u.length) = v.head?.getD .endOfInput := by
  have hkind : (tokens.drop cursor)[u.length]?.map Token.kind = v.head? := by
    rw [← List.getElem?_map, h, List.getElem?_append_right (Nat.le_refl _), Nat.sub_self,
      List.head?_eq_getElem?]
  rw [kindAt, ← List.getElem?_drop, hkind]

/-! ## What an error says -/

/-- What an error says of the token at its position, and where the session stands after it. If a
token was expected, the error tells which kind stands there instead, and the session stands there
too. Otherwise the limit of nesting is met there; or the row that begins there is the first one of
an insertion that has not as many values as columns are listed, and the session stands after it. -/
def ParseError.Explains (e : ParseError) (tokens : List Token) (o : ParserOptions)
    (before after : Nat) : Prop :=
  match e.cause.expected?, e.cause.found? with
  | some expected, some found =>
    found = kindAt tokens e.position ∧ after = e.position ∧
      e.cause.message =
        if found = .endOfInput then "Unexpected end of input: expected " ++ expected.text
        else "Unexpected token: expected " ++ expected.text ++ ", found " ++ found.text
  | none, none =>
    e.cause = .tooDeep o.maxDepth ∧ after = e.position ∨
      ∃ front row rest values columns,
        (tokens.drop before).map Token.kind = front ++ (row ++ rest) ∧
          Misfit (upTo o.allowJoinWithoutOn o.maxDepth) front row values columns ∧
          e.cause = .rowWidth values columns ∧ kindAt tokens e.position = .leftParen ∧
          e.position = before + front.length ∧ after = e.position + row.length
  | _, _ => False

theorem explains_unexpected {tokens : List Token} {o : ParserOptions} {before position : Nat}
    {blamed : List TokenKind} {span : Span} (expected : Expectation)
    (h : kindAt tokens position = blamed.head?.getD .endOfInput) :
    ParseError.Explains ⟨.unexpected expected blamed, span, position⟩ tokens o before position := by
  cases blamed with
  | nil => exact ⟨h.symm, rfl, rfl⟩
  | cons kind blamed => cases kind <;> exact ⟨h.symm, rfl, rfl⟩

theorem Call.parser_blames (o : ParserOptions) (c : Call) {kinds : List TokenKind} {f : Failure}
    (h : (c.parser o).run kinds = .error f) :
    BlamesNext o.maxDepth f ∨ BlamesRow (upTo o.allowJoinWithoutOn o.maxDepth) kinds f := by
  cases c with
  | parse => exact soleStatement_blames o h
  | parseStatement => exact statement_blames o h

theorem Misfit.head?_row {g : Inner} {before row : List TokenKind} {values columns : Nat}
    (h : Misfit g before row values columns) : row.head? = some .leftParen := by
  obtain ⟨_, _, _, _, ⟨_⟩, _, _⟩ := h
  rfl

namespace Session

variable {α : Type} {tokens : List Token} {o : ParserOptions} {cursor : Nat} {p : Parser α}

theorem spanAt_eq (s : Session) (i : Nat) :
    s.spanAt i = (s.tokens[i]?.map Token.span).getD (.point 0) := by
  rw [spanAt]
  cases s.tokens[i]? <;> rfl

/-- The position is where the blamed kinds begin, and the session stops where the kinds begin
that are left. -/
theorem exists_of_run_error {e : ParseError} {after : Session}
    (h : (⟨tokens, cursor, o⟩ : Session).run p = (.error e, after)) :
    ∃ f u v, p.run ((tokens.drop cursor).map Token.kind) = .error f ∧
      (tokens.drop cursor).map Token.kind = u ++ f.blamed ∧ f.blamed = v ++ f.rest ∧
      e = ⟨f.cause, (tokens[cursor + u.length]?.map Token.span).getD (.point 0),
        cursor + u.length⟩ ∧ after = ⟨tokens, cursor + u.length + v.length, o⟩ := by
  obtain ⟨f, hf, -⟩ := failure_of_run (congrArg Prod.fst h)
  have hwithin := p.within (⟨tokens, cursor, o⟩ : Session).ahead
  rw [hf] at hwithin
  obtain ⟨⟨v, hv⟩, ⟨u, hu⟩⟩ := hwithin
  have hblamed : (⟨tokens, cursor, o⟩ : Session).ahead.length - f.blamed.length = u.length := by
    rw [← hu, List.length_append, Nat.add_sub_cancel]
  have hrest : (⟨tokens, cursor, o⟩ : Session).ahead.length - f.rest.length =
      u.length + v.length := by
    rw [← hu, ← hv, List.length_append, List.length_append, ← Nat.add_assoc, Nat.add_sub_cancel]
  simp only [run, hf, hblamed, hrest, spanAt_eq, ← Nat.add_assoc] at h
  cases h
  exact ⟨f, u, v, hf, hu.symm, hv.symm, rfl, rfl⟩

/-- A call that fails stops at the token that its error is about, or after the row. -/
theorem call_error (c : Call) {e : ParseError} {after : Session} (hle : cursor ≤ tokens.length)
    (h : (⟨tokens, cursor, o⟩ : Session).call c = (.error e, after)) :
    e.position ≤ tokens.length ∧
      e.span = (tokens[e.position]?.map Token.span).getD (.point 0) ∧
      after = ⟨tokens, after.cursor, o⟩ ∧ e.Explains tokens o cursor after.cursor := by
  rw [call_eq_run] at h
  obtain ⟨f, u, v, hf, hu, hv, rfl, rfl⟩ := exists_of_run_error h
  have hlength : u.length + f.blamed.length = tokens.length - cursor := by
    rw [← List.length_append, ← hu, List.length_map, List.length_drop]
  have hkind := kindAt_of_append hu
  refine ⟨by dsimp only; omega, rfl, rfl, ?_⟩
  obtain ⟨cause, blamed, rest⟩ := f
  obtain ⟨hrest, ⟨expected, hcause⟩ | hcause⟩ | ⟨front, row, values, columns, hfront, hrow, hmisfit,
    hcause⟩ := c.parser_blames o hf
  · obtain rfl : v = [] := List.append_left_eq_self.mp (hv.symm.trans hrest.symm)
    dsimp only at hcause
    subst hcause
    exact explains_unexpected expected hkind
  · obtain rfl : v = [] := List.append_left_eq_self.mp (hv.symm.trans hrest.symm)
    dsimp only at hcause
    subst hcause
    exact .inl ⟨rfl, rfl⟩
  · dsimp only at hcause hrow hfront
    subst hcause hrow
    obtain rfl := List.append_cancel_right hv
    obtain rfl := List.append_cancel_right (hu.symm.trans hfront)
    refine .inr ⟨u, row, rest, values, columns, hu, hmisfit, rfl, ?_, rfl, rfl⟩
    rw [hkind, List.head?_append, hmisfit.head?_row]
    rfl

end Session

end SqlSyntax
