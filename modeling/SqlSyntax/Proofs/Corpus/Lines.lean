import SqlSyntax.Text.Line

/-!
# Lines of two texts

The lines of a text up to a line feed, and those of what comes after it, are the lines of the
whole. Whether the line feed was there makes no difference to the first ones, but that there may
be an empty line less without it, and that a carriage return may be left at the end of the last
one, which is a blank.
-/
namespace SqlSyntax

theorem lines_ne_nil {cs : List Char} (h : cs ≠ []) : lines cs ≠ [] := by
  fun_induction lines cs with
  | case1 => exact absurd rfl h
  | case2 | case3 => exact List.cons_ne_nil _ _
  | case4 c cs => cases lines cs <;> exact List.cons_ne_nil _ _

theorem extendFirst_append {c : Char} {ls : List (List Char)} (h : ls ≠ [])
    (ms : List (List Char)) : extendFirst c (ls ++ ms) = extendFirst c ls ++ ms := by
  cases ls with
  | nil => exact absurd rfl h
  | cons l ls => rfl

theorem length_extendFirst {c : Char} {ls : List (List Char)} (h : ls ≠ []) :
    (extendFirst c ls).length = ls.length := by
  cases ls with
  | nil => exact absurd rfl h
  | cons l ls => rfl

/-- What comes after a text makes no difference to how its first character is read, unless it is
the only one. -/
theorem lines_cons_append {c : Char} {cs : List Char} (hcs : cs ≠ []) (hc : c ≠ '\n')
    (hreturn : ∀ ds, c = '\r' → cs ≠ '\n' :: ds) (v : List Char) :
    lines (c :: cs ++ v) = extendFirst c (lines (cs ++ v)) := by
  cases cs with
  | nil => exact absurd rfl hcs
  | cons d ds =>
    refine lines_cons hc fun hr hd => hreturn ds hr ?_
    rw [Option.some.inj hd]

theorem lines_singleton_append {c : Char} (hc : c ≠ '\n') (v : List Char) :
    lines ([c] ++ '\n' :: v) = (if c = '\r' then [] else [c]) :: lines v := by
  split
  · rename_i hr
    rw [hr]
    exact lines_return_newline v
  · rename_i hr
    rw [List.singleton_append, lines_cons hc fun e => absurd e hr, lines_newline, extendFirst_cons]

theorem lines_append_newline (a b : List Char) :
    lines (a ++ '\n' :: b) = lines (a ++ ['\n']) ++ lines b := by
  fun_induction lines a with
  | case1 => simp
  | case2 a ih | case3 a ih => simp [ih]
  | case4 c a hc hreturn ih =>
    by_cases ha : a = []
    · rw [ha, lines_singleton_append hc, lines_singleton_append hc]
      rfl
    · rw [lines_cons_append ha hc hreturn, lines_cons_append ha hc hreturn, ih,
        extendFirst_append (lines_ne_nil (by simp))]

/-- There is a line for each line feed. -/
theorem length_lines_concat (a : List Char) :
    (lines (a ++ ['\n'])).length = 1 + a.count '\n' := by
  fun_induction lines a with
  | case1 => rfl
  | case2 a ih | case3 a ih => simp [ih, Nat.add_comm]
  | case4 c a hc hreturn ih =>
    rw [List.count_cons_of_ne hc]
    by_cases ha : a = []
    · rw [ha, lines_singleton_append hc]
      rfl
    · rw [lines_cons_append ha hc hreturn, length_extendFirst (lines_ne_nil (by simp)), ih]

/-- A line feed at the end of a text ends the last line, with the carriage return before it if
there is one. If no line was open, it is an empty line of its own. -/
theorem exists_lines_concat (a : List Char) :
    ∃ ls l, lines (a ++ ['\n']) = ls ++ [l] ∧
      (lines a = ls ∧ l = [] ∨ lines a = ls ++ [l] ∨ lines a = ls ++ [l ++ ['\r']]) := by
  fun_induction lines a with
  | case1 => exact ⟨[], [], rfl, .inl ⟨rfl, rfl⟩⟩
  | case2 a ih | case3 a ih =>
    obtain ⟨ls, l, hnew, hold⟩ := ih
    refine ⟨[] :: ls, l, by simp [hnew], ?_⟩
    simpa using hold
  | case4 c a hc hreturn ih =>
    by_cases ha : a = []
    · subst ha
      refine ⟨[], _, lines_singleton_append hc [], .inr ?_⟩
      by_cases hr : c = '\r'
      · simp [hr]
      · simp [hr]
    obtain ⟨ls, l, hnew, hold⟩ := ih
    rw [lines_cons_append ha hc hreturn, hnew]
    cases ls with
    | cons m ls =>
      refine ⟨(c :: m) :: ls, l, rfl, ?_⟩
      obtain ⟨hold, hl⟩ | hold | hold := hold
      · exact .inl ⟨by rw [hold]; rfl, hl⟩
      · exact .inr (.inl (by rw [hold]; rfl))
      · exact .inr (.inr (by rw [hold]; rfl))
    | nil =>
      refine ⟨[], c :: l, rfl, .inr ?_⟩
      obtain ⟨hold, -⟩ | hold | hold := hold
      · exact absurd hold (lines_ne_nil ha)
      · exact .inl (by rw [hold]; rfl)
      · exact .inr (by rw [hold]; rfl)

/-! ## Blanks at the end -/

theorem trim_concat_blank {c : Char} (hc : isBlank c = true) (l : List Char) :
    trim (l ++ [c]) = trim l := by
  have hend (u : List Char) : trimEnd (u ++ [c]) = trimEnd u := by simp [trimEnd, hc]
  rw [trim, trim, trimStart, trimStart, List.dropWhile_append]
  split
  · rename_i hall
    rw [List.isEmpty_iff.mp hall]
    simp [hc]
  · exact hend _

/-- Without the blanks around them the lines of a text are the same with a line feed at its end,
or there is one more, which is empty. -/
theorem map_trim_lines_concat (a : List Char) :
    (lines (a ++ ['\n'])).map trim = (lines a).map trim ∨
      (lines (a ++ ['\n'])).map trim = (lines a).map trim ++ [[]] := by
  obtain ⟨ls, l, hnew, ⟨hold, rfl⟩ | hold | hold⟩ := exists_lines_concat a
  · right
    simp [hnew, hold]
  · left
    rw [hnew, hold]
  · left
    simp [hnew, hold, trim_concat_blank (by decide : isBlank '\r' = true)]

end SqlSyntax
