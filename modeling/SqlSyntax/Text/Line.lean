import SqlSyntax.Text.Blank

/-!
# Lines

A line feed ends a line, and a carriage return right before it goes with it. What follows the
last line feed is a line only if it is not empty, so a text with a final line feed has no extra
line. A carriage return elsewhere, or at the end of the text, stays in its line.
-/
namespace SqlSyntax

/-- One more character at the front of the first line, which it begins if there is none. -/
def extendFirst (c : Char) : List (List Char) → List (List Char)
  | [] => [[c]]
  | l :: ls => (c :: l) :: ls

def lines : List Char → List (List Char)
  | [] => []
  | '\n' :: cs => [] :: lines cs
  | '\r' :: '\n' :: cs => [] :: lines cs
  | c :: cs => extendFirst c (lines cs)

@[simp] theorem extendFirst_nil (c : Char) : extendFirst c [] = [[c]] := rfl

@[simp] theorem extendFirst_cons (c : Char) (l : List Char) (ls : List (List Char)) :
    extendFirst c (l :: ls) = (c :: l) :: ls := rfl

@[simp] theorem lines_nil : lines [] = [] := rfl

@[simp] theorem lines_newline (cs : List Char) : lines ('\n' :: cs) = [] :: lines cs := by
  simp [lines]

@[simp] theorem lines_return_newline (cs : List Char) :
    lines ('\r' :: '\n' :: cs) = [] :: lines cs := by
  simp [lines]

theorem lines_cons {c : Char} {cs : List Char} (hc : c ≠ '\n')
    (hreturn : c = '\r' → cs.head? ≠ some '\n') : lines (c :: cs) = extendFirst c (lines cs) := by
  rw [lines]
  · exact hc
  · rintro ds rfl rfl
    exact hreturn rfl rfl

end SqlSyntax
