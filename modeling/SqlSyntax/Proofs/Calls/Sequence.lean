import SqlSyntax.Proofs.Acceptance
import SqlSyntax.Proofs.Calls.Basic

/-!
# Statements one after another

Statements need nothing between them. The keyword that begins a statement ends the one before
it, as the end of the input does.
-/
namespace SqlSyntax

open SqlSyntax.Parser Grammar

/-! ## Statements before others -/

/-- A statement begins with a keyword that no part of the statement before it takes. -/
theorem begins_of_phrase {lax : Bool} {depth : Nat} {u : List TokenKind} {s : Statement}
    (h : Phrase (upTo lax depth) u s) : ∃ kind v, u = kind :: v ∧ 9 < kind.stage := by
  cases h with
  | select hu =>
    cases depth with
    | zero => exact hu.elim
    | succ depth =>
      cases hu
      exact ⟨_, _, rfl, by decide⟩
  | insert | update | delete | createTable => exact ⟨_, _, rfl, by decide⟩

/-- Kinds, each part of them a phrase for the statement beside it. -/
def AreStatements (o : ParserOptions) (parts : List (List TokenKind × Statement)) : Prop :=
  ∀ part ∈ parts, Phrase (upTo o.allowJoinWithoutOn o.maxDepth) part.1 part.2

theorem AreStatements.past {o : ParserOptions} {parts : List (List TokenKind × Statement)}
    (h : AreStatements o parts) : Past 9 (parts.flatMap Prod.fst) := by
  cases parts with
  | nil => exact past_nil 9
  | cons part parts =>
    obtain ⟨kind, v, hu, hkind⟩ := begins_of_phrase (h part List.mem_cons_self)
    rw [List.flatMap_cons, hu]
    exact past_of_lt hkind _

/-- Accepted with its end and without a semicolon, kinds are a phrase. -/
theorem phrase_of_sole {lax : Bool} {depth : Nat} {u : List TokenKind} {s : Statement}
    (h : Sole lax depth u s) (hlast : u.getLast? ≠ some .semicolon) :
    Phrase (upTo lax depth) u s := by
  cases h with
  | plain hu => exact hu
  | semicolon hu => exact absurd (List.getLast?_concat ..) hlast

namespace Session

variable {tokens : List Token} {o : ParserOptions} {cursor : Nat}

/-- A call takes one statement and stops where the next one begins. -/
theorem parseStatement_of_phrase {u v : List TokenKind} {s : Statement}
    (h : content (tokens.drop cursor) = u ++ v)
    (hu : Phrase (upTo o.allowJoinWithoutOn o.maxDepth) u s) (hv : Past 9 v) :
    (⟨tokens, cursor, o⟩ : Session).parseStatement =
      (.ok s, ⟨tokens, cursor + u.length, o⟩) := by
  have hrun : (statement o).run (content (tokens.drop cursor)) = .ok (s, v) :=
    h ▸ Accepts.statement o hu hv
  rw [parseStatement, run_content_of_ok (statement_stopsAtEnd o) (s := ⟨tokens, cursor, o⟩) hrun]
  simp [h]

theorem parseStatement_at_end (h : content (tokens.drop cursor) = []) :
    (⟨tokens, cursor, o⟩ : Session).parseStatement.1 = .error ⟨.unexpectedEnd .statement,
      (⟨tokens, cursor, o⟩ : Session).spanAt cursor, cursor⟩ := by
  have hrun : (statement o).run (content (tokens.drop cursor)) =
      .error ⟨.unexpectedEnd .statement, [], []⟩ := by
    rw [h]
    rfl
  rw [parseStatement, run_content_of_error (statement_stopsAtEnd o) (s := ⟨tokens, cursor, o⟩) hrun]
  simp [h]

/-- Each statement in its turn is given by one call. -/
theorem calls_of_statements {parts : List (List TokenKind × Statement)}
    (hparts : AreStatements o parts)
    (h : content (tokens.drop cursor) = parts.flatMap Prod.fst) :
    (⟨tokens, cursor, o⟩ : Session).outcomes (.replicate parts.length .parseStatement) =
        parts.map (fun part => .ok part.2) ∧
      ∀ i ≤ parts.length,
        (⟨tokens, cursor, o⟩ : Session).after (.replicate i .parseStatement) =
          ⟨tokens, cursor + ((parts.take i).flatMap Prod.fst).length, o⟩ := by
  induction parts generalizing cursor with
  | nil =>
    refine ⟨rfl, fun i hi => ?_⟩
    obtain rfl := Nat.le_zero.mp hi
    rfl
  | cons part parts ih =>
    rw [AreStatements, List.forall_mem_cons] at hparts
    obtain ⟨hpart, hparts⟩ := hparts
    have hcall := parseStatement_of_phrase h hpart (AreStatements.past hparts)
    have hnext : content (tokens.drop (cursor + part.1.length)) = parts.flatMap Prod.fst := by
      rw [← List.drop_drop]
      exact content_drop h
    obtain ⟨houtcomes, hafter⟩ := ih hparts hnext
    constructor
    · rw [List.length_cons, List.replicate_succ, outcomes, call, hcall, houtcomes,
        List.map_cons]
    · intro i hi
      cases i with
      | zero => rfl
      | succ i =>
        rw [List.replicate_succ, after, call, hcall, hafter i (Nat.le_of_succ_le_succ hi)]
        simp [Nat.add_assoc]

end Session

/-- Kinds are cut into parts, each of which is one statement by itself. Then as many calls on
all of them together give these statements one after another; after each call the session
stands at the first token of the next part; and one call more finds the end of the input. -/
theorem parseStatement_parts {tokens : List Token} {o : ParserOptions}
    {parts : List (List TokenKind × Statement)}
    (hparts : ∀ part ∈ parts, .endOfInput ∉ part.1 ∧ part.1.getLast? ≠ some .semicolon ∧
      parseTokens (tokensOf (part.1 ++ [.endOfInput])) o = .ok part.2)
    (htokens : tokens.map Token.kind = parts.flatMap Prod.fst ++ [.endOfInput]) :
    (Session.start tokens o).outcomes (.replicate parts.length .parseStatement) =
        parts.map (fun part => .ok part.2) ∧
      (∀ i ≤ parts.length,
        ((Session.start tokens o).after (.replicate i .parseStatement)).cursor =
          ((parts.take i).flatMap Prod.fst).length) ∧
      ((Session.start tokens o).after
          (.replicate parts.length .parseStatement)).parseStatement.1 =
        .error ⟨.unexpectedEnd .statement,
          (Session.start tokens o).spanAt (parts.flatMap Prod.fst).length,
          (parts.flatMap Prod.fst).length⟩ := by
  have hstatements : AreStatements o parts := by
    intro part hpart
    obtain ⟨hend, hlast, hparse⟩ := hparts part hpart
    have hcontent : content (tokensOf (part.1 ++ [.endOfInput])) = part.1 :=
      content_of_map_kind (map_kind_tokensOf _) hend
    have hsole := parseTokens_eq_ok_iff_sole.mp hparse
    exact phrase_of_sole (hcontent ▸ hsole) hlast
  have hend : .endOfInput ∉ parts.flatMap Prod.fst := by
    rw [List.mem_flatMap]
    rintro ⟨part, hpart, hmem⟩
    exact (hparts part hpart).1 hmem
  have hcontent : content (tokens.drop 0) = parts.flatMap Prod.fst ++ [] := by
    rw [List.append_nil]
    exact content_of_map_kind htokens hend
  obtain ⟨houtcomes, hafter⟩ :=
    Session.calls_of_statements hstatements (hcontent.trans (List.append_nil _))
  refine ⟨houtcomes, fun i hi => ?_, ?_⟩
  · rw [Session.start, hafter i hi, Nat.zero_add]
  · have hlast := Session.parseStatement_at_end (o := o) (content_drop hcontent)
    rw [Session.start, hafter parts.length (Nat.le_refl _), List.take_length, Nat.zero_add]
    exact hlast

/-- `DELETE FROM a`, `SELECT b FROM c` and `DELETE FROM d WHERE *`. -/
def inTurn : List (List TokenKind × Statement) := [
  ([.keyword .delete, .keyword .from, .identifier "a"], .delete "a" none),
  ([.keyword .select, .identifier "b", .keyword .from, .identifier "c"], .select {
    distinct := false, columns := [.projected (.identifier "b") none],
    source := some (.table "c" none), condition := none, groupBy := [], having := none,
    orderBy := [], limit := none, offset := none }),
  ([.keyword .delete, .keyword .from, .identifier "d", .keyword .where, .star],
    .delete "d" (some .star))]

theorem parseStatement_parts_inTurn :
    (Session.start (tokensOf (inTurn.flatMap Prod.fst ++ [.endOfInput])) ⟨2, false⟩).outcomes
        [.parseStatement, .parseStatement, .parseStatement] =
      inTurn.map (fun part => .ok part.2) := by
  have primary {g : Inner} {u : List TokenKind} {e : Expr} (h : Primary g u e) :
      Disjunction g u e :=
    .single (.single (.predicate (.nullTest (.sum (.single (.single (.primary h)))))))
  have hfirst : Phrase (upTo false 2) _ _ := .delete "a" .absent
  have hsecond : (upTo false 2).select _ _ := .mk .absent
    (.one (.expr (primary (.identifier "b")) (by decide) .absent))
    (.present (.mk (.mk "c" .absent) .done)) .absent .absent .absent .absent .absent .absent
  have hthird : Phrase (upTo false 2) _ _ := .delete "d" (.present (primary .star))
  have parses {u : List TokenKind} {s : Statement} (h : Phrase (upTo false 2) u s)
      (hu : content (tokensOf (u ++ [.endOfInput])) = u) :
      parseTokens (tokensOf (u ++ [.endOfInput])) ⟨2, false⟩ = .ok s := by
    have hsole : Sole false 2 (content (tokensOf (u ++ [.endOfInput]))) s := by
      rw [hu]
      exact .plain h
    exact parseTokens_eq_ok_iff_sole.mpr hsole
  have hparts : ∀ part ∈ inTurn, .endOfInput ∉ part.1 ∧
      part.1.getLast? ≠ some .semicolon ∧
      parseTokens (tokensOf (part.1 ++ [.endOfInput])) ⟨2, false⟩ = .ok part.2 := by
    simp only [inTurn, List.forall_mem_cons]
    exact ⟨⟨by decide, by decide, parses hfirst rfl⟩,
      ⟨by decide, by decide, parses (.select hsecond) rfl⟩,
      ⟨by decide, by decide, parses hthird rfl⟩, nofun⟩
  exact (parseStatement_parts hparts (map_kind_tokensOf _)).1

end SqlSyntax
